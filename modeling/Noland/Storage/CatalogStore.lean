import Noland.Storage.Upload

/-!
`LATEST` names the current catalog commit; when it cannot be followed, the newest readable
document of the history is taken, and when there is none, an empty catalog.
-/

namespace Noland.Storage

open Noland.Core Noland.Requests Noland.Text

def tempDir : String := "/tmp"

def catalogFolder : RemoteKey := "catalog/commits"

def emptyCatalog : StorageProg CatalogDocument := do
  let commit ← ask .newUuid
  let now ← ask .utcNow
  return CatalogDocument.empty commit now

def decodeCatalog (codec : Codec) (bytes : Content) : Except StateError CatalogDocument :=
  match unwrapEnvelope codec bytes with
  | .ok (.catalog catalog) => .ok catalog
  | .ok _ => .error (.integrity "decrypt failed")
  | .error error => .error error

def fetchCatalogCommit (codec : Codec) (commitId : String) : StorageProg CatalogDocument := do
  let tmp := tempDir ++ "/noland-catc-" ++ commitId
  ask (.download ("catalog/commits/" ++ commitId ++ ".enc") tmp)
  let bytes ← ask (.readLocal tmp)
  let _ ← tell (.removeLocal tmp)
  Prog.ofExcept (decodeCatalog codec bytes)

def newerCatalog : Option CatalogDocument → CatalogDocument → CatalogDocument
  | none, catalog => catalog
  | some best, catalog => if best.createdAt < catalog.createdAt then catalog else best

def recoverFrom (codec : Codec) :
    Option CatalogDocument → List RemoteEntry → StorageProg (Option CatalogDocument)
  | best, [] => .done best
  | best, entry :: rest =>
      if endsWith ".enc".toList entry.key.toList then do
        let fetched ← (fetchCatalogCommit codec (String.ofList (fileStem entry.key.toList))).attempt
        recoverFrom codec (match fetched with
          | .ok catalog => some (newerCatalog best catalog)
          | .error _ => best) rest
      else recoverFrom codec best rest

def listedOrNone : Except StateError (List RemoteEntry) → List RemoteEntry
  | .ok entries => entries
  | .error _ => []

def recoverLatestCatalog (codec : Codec) : StorageProg CatalogDocument := do
  let listed ← tell (.listPrefix catalogFolder)
  let best ← recoverFrom codec none (listedOrNone listed)
  match best with
  | some catalog => .done catalog
  | none => emptyCatalog

/-- `read_to_string(..).unwrap_or_default()` and `trim`. -/
def pointerText : Except StateError Content → List Char
  | .ok (.text value) => trim value.toList
  | _ => []

def followPointer (codec : Codec) (pointer : List Char) : StorageProg CatalogDocument :=
  if pointer = [] then recoverLatestCatalog codec
  else do
    let fetched ← (fetchCatalogCommit codec (String.ofList pointer)).attempt
    match fetched with
    | .ok catalog => .done catalog
    | .error _ => recoverLatestCatalog codec

def readPointer : StorageProg (List Char) := do
  let id ← ask .newUuid
  let tmp := tempDir ++ "/noland-catalog-" ++ Uuid.text id
  ask (.download catalogLatestKey tmp)
  let read ← tell (.readLocal tmp)
  let _ ← tell (.removeLocal tmp)
  return pointerText read

def loadCatalog (codec : Codec) : StorageProg CatalogDocument := do
  let latest ← ask (.stat catalogLatestKey)
  if Option.isNone latest then emptyCatalog
  else do
    let pointer ← readPointer
    let catalog ← followPointer codec pointer
    return catalog.refreshBundleHeads

def catalogBatch (codec : Codec) (catalog : CatalogDocument) : MetadataBatch :=
  { entries := [⟨catalogCommitKey catalog.catalogCommitId, wrapEnvelope codec (.catalog catalog)⟩]
    committed := some ⟨catalogCommitMarkerKey catalog.catalogCommitId, .text committedMarker⟩ }

/-- `LATEST` is a convenience pointer: its failure is ignored. -/
def writeCatalog (provider : Provider) (codec : Codec) (catalog : CatalogDocument) :
    StorageProg Unit := do
  let _ ← provider.putMetadataBatch (catalogBatch codec catalog)
  let _ ← tell (.putSmallVersioned (.text catalog.catalogCommitId.text) catalogLatestKey)
  return ()

def catalogBundle (manifest : BundleManifest) (storedIncrementalSize : Nat) : CatalogBundle :=
  { bundleId := manifest.bundleId
    commitId := manifest.commitId
    parentBundleId := manifest.parentBundleId
    capturedAt := manifest.source.capturedAt
    sourceInstanceId := manifest.source.instanceId
    mode := manifest.mode
    logicalSize := manifest.logicalSize
    storedIncrementalSize := storedIncrementalSize }

def bundleMarkerKey (manifest : BundleManifest) : RemoteKey :=
  bundleDir manifest.app.appId manifest.bundleId ++ "/" ++ committedMarker

def updatedCatalog (manifest : BundleManifest) (storedIncrementalSize : Nat) (commit : Uuid)
    (now : Timestamp) (catalog : CatalogDocument) : CatalogDocument :=
  CatalogDocument.upsertBundleFromManifest
    { catalog with catalogCommitId := commit, createdAt := now } manifest.app
    (catalogBundle manifest storedIncrementalSize)

def updateCatalogWithBundle (provider : Provider) (codec : Codec) (manifest : BundleManifest)
    (storedIncrementalSize : Nat) : StorageProg CatalogDocument := do
  let committed ← ask (.stat (bundleMarkerKey manifest))
  if Option.isNone committed then .throw .incompleteCommit
  else do
    let loaded ← loadCatalog codec
    let commit ← ask .newUuid
    let now ← ask .utcNow
    writeCatalog provider codec (updatedCatalog manifest storedIncrementalSize commit now loaded)
    return updatedCatalog manifest storedIncrementalSize commit now loaded

def manifestRecord (manifest : BundleManifest) : Record := ⟨manifest.app.appId, manifest.commitId⟩

@[simp] theorem updatedCatalog_commit (manifest : BundleManifest) (size : Nat) (commit : Uuid)
    (now : Timestamp) (catalog : CatalogDocument) :
    (updatedCatalog manifest size commit now catalog).catalogCommitId = commit := by
  unfold updatedCatalog CatalogDocument.upsertBundleFromManifest CatalogDocument.upsertBundle
  split <;> rfl

@[simp] theorem updatedCatalog_createdAt (manifest : BundleManifest) (size : Nat) (commit : Uuid)
    (now : Timestamp) (catalog : CatalogDocument) :
    (updatedCatalog manifest size commit now catalog).createdAt = now := by
  unfold updatedCatalog CatalogDocument.upsertBundleFromManifest CatalogDocument.upsertBundle
  split <;> rfl

theorem records_updatedCatalog {manifest : BundleManifest} {size : Nat} {commit : Uuid}
    {now : Timestamp} {catalog : CatalogDocument} {record : Record}
    (recorded : catalog.records record ∨ record = manifestRecord manifest) :
    (updatedCatalog manifest size commit now catalog).records record := by
  apply CatalogDocument.records_upsertBundleFromManifest
  rcases recorded with before | rfl
  · exact Or.inl before
  · exact Or.inr rfl

theorem Uuid.text_char {id : Uuid} {c : Char} (member : c ∈ id.text.toList) :
    c = '-' ∨ ('0' ≤ c ∧ c ≤ '9') ∨ ('a' ≤ c ∧ c ≤ 'f') := by
  have shape := id.hyphenated
  unfold hyphenatedUuid at shape
  rw [Bool.and_eq_true] at shape
  obtain ⟨i, at_i⟩ := List.mem_iff_getElem?.mp member
  have checked := List.all_eq_true.mp shape.2 (c, i) (List.mk_mem_zipIdx_iff_getElem?.mpr at_i)
  simp only at checked
  split at checked
  · exact Or.inl (by simpa using checked)
  · exact Or.inr (by simpa using checked)

theorem Uuid.text_ne_nil (id : Uuid) : id.text.toList ≠ [] := by
  intro none_left
  have shape := id.hyphenated
  rw [none_left] at shape
  cases shape

theorem whitespace_of_uuid {id : Uuid} {c : Char} (member : c ∈ id.text.toList) :
    whitespace c = false := by
  rcases Uuid.text_char member with rfl | ⟨low, high⟩ | ⟨low, high⟩
  · decide
  all_goals
    simp only [Char.le_def, UInt32.le_iff_toNat_le] at low high
    simp only [whitespace, Char.le_def, UInt32.le_iff_toNat_le, Bool.or_eq_false_iff,
      Bool.and_eq_false_iff, beq_eq_false_iff_ne, decide_eq_false_iff_not, ne_eq, Char.ext_iff,
      UInt32.ext_iff]
    simp at low high ⊢
    omega

theorem slash_notMem_uuid (id : Uuid) : '/' ∉ id.text.toList := by
  intro member
  rcases Uuid.text_char member with same | ⟨low, high⟩ | ⟨low, high⟩
  · exact absurd same (by decide)
  · exact absurd low (by decide)
  · exact absurd low (by decide)

theorem trim_uuid (id : Uuid) : trim id.text.toList = id.text.toList :=
  trim_of_all fun _ member => whitespace_of_uuid member

theorem catalogCommitKey_toList (id : Uuid) :
    (catalogCommitKey id).toList =
      catalogFolder.toList ++ '/' :: (id.text.toList ++ '.' :: "enc".toList) := by
  have folder : "catalog/commits/".toList = catalogFolder.toList ++ ['/'] := by decide
  have extension : ".enc".toList = '.' :: "enc".toList := by decide
  unfold catalogCommitKey
  rw [String.toList_append, String.toList_append, folder, extension]
  simp only [List.append_assoc, List.cons_append, List.nil_append]

theorem fileStem_catalogCommitKey (id : Uuid) :
    String.ofList (fileStem (catalogCommitKey id).toList) = id.text := by
  rw [catalogCommitKey_toList, fileStem_append (Uuid.text_ne_nil id) (slash_notMem_uuid id)
    (by decide) (by decide)]
  exact String.ofList_toList

theorem catalogCommitKey_injective {left right : Uuid}
    (same : catalogCommitKey left = catalogCommitKey right) : left = right := by
  have texts : left.text = right.text := by
    rw [← fileStem_catalogCommitKey left, same, fileStem_catalogCommitKey]
  cases left
  cases right
  simpa using texts

theorem endsWith_catalogCommitKey (id : Uuid) :
    endsWith ".enc".toList (catalogCommitKey id).toList = true := by
  rw [catalogCommitKey_toList, endsWith, List.isSuffixOf_iff_suffix]
  exact ⟨catalogFolder.toList ++ '/' :: id.text.toList, by simp⟩

theorem underFolder_catalogCommitKey (id : Uuid) :
    underFolder catalogFolder (catalogCommitKey id) = true := by
  rw [underFolder, catalogCommitKey_toList, List.isPrefixOf_iff_prefix]
  exact ⟨id.text.toList ++ '.' :: "enc".toList, by simp⟩

end Noland.Storage
