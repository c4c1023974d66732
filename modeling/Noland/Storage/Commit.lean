import Noland.Storage.Upload

/-!
`commit_bundle_with_index_for_operation` may fail or be stopped before any operation and be called
again, for the same operation or another. A marker that one of the calls wrote is never there
without the objects of that call.
-/

namespace Noland.Storage

open Noland.Core Noland.Requests Noland.Text

def syncJournalCompleted (operation : Uuid) (key : RemoteKey) : StorageProg Bool := do
  let entry ← ask (.getJournal operation key)
  return (Option.map SyncJournalEntry.state entry) = some .completed

/-- The row `start_sync_journal_item` writes before it enters `IN_PROGRESS`. -/
def startedEntry (entry : Option SyncJournalEntry) (path : String) (key : RemoteKey)
    (size : Nat) : SyncJournalEntry :=
  { entry.getD { itemKind := .pack, direction := .upload } with
    itemKind := .pack
    direction := .upload
    localPath := some path
    remotePath := some key
    size := some size }

def startSyncJournalItem (operation : Uuid) (path : String) (key : RemoteKey) (size : Nat) :
    StorageProg Unit := do
  let entry ← ask (.getJournal operation key)
  ask (.upsertJournal operation key (startedEntry entry path key size))
  ask (.setJournalState operation key .inProgress none)

def completeSyncJournalItemWithTransfer (operation : Uuid) (key : RemoteKey)
    (size bytesTransferred : Nat) : StorageProg Unit := do
  ask (.raiseJournalBytes operation key bytesTransferred)
  ask (.fillJournalSize operation key size)
  ask (.setJournalState operation key .completed none)

def completeSyncJournalItem (operation : Uuid) (key : RemoteKey) (size : Nat) :
    StorageProg Unit :=
  completeSyncJournalItemWithTransfer operation key size size

def completeSyncJournalItemReused (operation : Uuid) (key : RemoteKey) (size : Nat) :
    StorageProg Unit :=
  completeSyncJournalItemWithTransfer operation key size 0

def failSyncJournalItem (operation : Uuid) (key : RemoteKey) (error : StateError) :
    StorageProg Unit :=
  ask (.setJournalState operation key .failed (some error))

def recordCompleted (operation : Uuid) (completion : ImmutableUploadCompletion)
    (upload : ImmutableUpload) : StorageProg Unit := do
  let size ← ask (.localLen upload.path)
  match completion with
  | .uploaded => completeSyncJournalItem operation upload.key size
  | .reusedRemote => completeSyncJournalItemReused operation upload.key size

/-- `JournalUploadObserver`; the progress rows of the operation are one
operation without an effect on what is modelled. -/
def journalUploadObserver (operation : Uuid) : ImmutableUploadObserver where
  transferStarted := ask (.operationProgress operation)
  transferProgress _ := ask (.operationProgress operation)
  completed uploads completion := do
    Prog.forEach uploads (recordCompleted operation completion)
    ask (.operationProgress operation)

/-- The packs that are not journalled as completed; each is journalled as
started. -/
def selectUploads (tracked : Option Uuid) :
    List ImmutableUpload → StorageProg (List ImmutableUpload)
  | [] => .done []
  | upload :: rest =>
      match tracked with
      | none => do
          let others ← selectUploads tracked rest
          return upload :: others
      | some operation => do
          let completed ← syncJournalCompleted operation upload.key
          if completed then selectUploads tracked rest
          else do
            let size ← ask (.localLen upload.path)
            startSyncJournalItem operation upload.path upload.key size
            let others ← selectUploads tracked rest
            return upload :: others

def failUpload (operation : Uuid) (error : StateError) (upload : ImmutableUpload) :
    StorageProg Unit := do
  let completed ← syncJournalCompleted operation upload.key
  if completed then .done ()
  else do
    let _ ← (failSyncJournalItem operation upload.key error).attempt
    return ()

def failUploads (tracked : Option Uuid) (uploads : List ImmutableUpload) (error : StateError) :
    StorageProg Unit :=
  match tracked with
  | none => .done ()
  | some operation => Prog.forEach uploads (failUpload operation error)

structure CommitCall where
  manifest : BundleManifest
  packFiles : List (String × String)
  packIndex : Option (List PackIndexEntry)
  db : Bool
  operationId : Option Uuid

namespace CommitCall

def bundlePrefix (call : CommitCall) : String :=
  bundleDir call.manifest.app.appId call.manifest.bundleId

def markerKey (call : CommitCall) : RemoteKey := call.bundlePrefix ++ "/" ++ committedMarker

def uploads (call : CommitCall) : List ImmutableUpload :=
  call.packFiles.map fun pack => ⟨pack.2, packKey pack.1⟩

def tracked (call : CommitCall) : Option Uuid := if call.db then call.operationId else none

def metadata (call : CommitCall) (codec : Codec) : List MetadataWrite :=
  (call.packIndex.toList.map fun index =>
    ⟨call.bundlePrefix ++ "/index.enc", wrapEnvelope codec (.packIndex index)⟩) ++
  [⟨call.bundlePrefix ++ "/manifest.enc", wrapEnvelope codec (.manifest call.manifest)⟩,
    ⟨call.bundlePrefix ++ "/manifest.hash", .text (codec.manifestHash call.manifest)⟩]

def batch (call : CommitCall) (codec : Codec) : MetadataBatch :=
  { entries := call.metadata codec
    committed := some ⟨call.markerKey, .text call.manifest.commitId.text⟩ }

def row (call : CommitCall) (codec : Codec) : CommitRow :=
  { commitId := call.manifest.commitId
    appId := call.manifest.app.appId
    bundleId := call.manifest.bundleId
    manifestHash := codec.manifestHash call.manifest
    cloudPath := some call.bundlePrefix
    state := .committed }

def requiredKeys (call : CommitCall) : List RemoteKey :=
  (call.packIndex.toList.map fun _ => call.bundlePrefix ++ "/index.enc") ++
    [call.bundlePrefix ++ "/manifest.enc", call.bundlePrefix ++ "/manifest.hash"] ++
    call.packFiles.map fun pack => packKey pack.1

end CommitCall

def whenDb (db : Bool) (program : StorageProg Unit) : StorageProg Unit :=
  if db then program else .done ()

def commitBundleWithIndexForOperation (provider : Provider) (codec : Codec)
    (call : CommitCall) : StorageProg Unit := do
  ask .ensureRoot
  let packUploads ← selectUploads call.tracked call.uploads
  let uploaded ← (provider.uploadImmutableBulkObserved packUploads
    (call.tracked.map journalUploadObserver)).attempt
  match uploaded with
  | .error error => do
      failUploads call.tracked packUploads error
      .throw error
  | .ok _ => do
      whenDb call.db (Prog.forEach call.uploads fun upload =>
        ask (.journalPut call.manifest.commitId upload.key))
      let _ ← provider.putMetadataBatch (call.batch codec)
      whenDb call.db (ask (.recordCommit (call.row codec)))

/-- Why an object is at the provider: it was there at the start, or a call wrote
it, and a marker only after everything it stands for. -/
def Explained (calls : List CommitCall) (start state : StorageState) (key : RemoteKey)
    (stored : Stored) : Prop :=
  (stored.writer = none ∧ start.remote.objects.lookup key = some stored) ∨
  ∃ n call, stored.writer = some n ∧ calls[n]? = some call ∧
    (key ∈ call.requiredKeys ∨
      (key = call.markerKey ∧ ∀ needed ∈ call.requiredKeys, state.present needed))

def JournalSound (state : StorageState) : Prop :=
  ∀ operation key entry, state.host.journal.lookup (operation, key) = some entry →
    entry.state = .completed → state.present key

structure CommitInv (calls : List CommitCall) (start state : StorageState) : Prop where
  journal : JournalSound state
  objects : ∀ key stored, state.remote.objects.lookup key = some stored →
    Explained calls start state key stored

/-- The invariant while call `n` is running. -/
structure AtCall (calls : List CommitCall) (start : StorageState) (n : Nat)
    (state : StorageState) : Prop extends CommitInv calls start state where
  running : state.host.call = n

section Invariant

variable {calls : List CommitCall} {start state : StorageState} {n : Nat} {call : CommitCall}

theorem Explained.mono {later : StorageState} {key : RemoteKey} {stored : Stored}
    (grows : ∀ other, state.present other → later.present other)
    (explained : Explained calls start state key stored) :
    Explained calls start later key stored := by
  rcases explained with before | ⟨m, writer, wrote, listed, required | ⟨same, there⟩⟩
  · exact Or.inl before
  · exact Or.inr ⟨m, writer, wrote, listed, Or.inl required⟩
  · exact Or.inr ⟨m, writer, wrote, listed, Or.inr ⟨same, fun needed member =>
      grows needed (there needed member)⟩⟩

theorem ignoresFiles_atCall : IgnoresFiles (AtCall calls start n) := by
  intro state host journal running inv
  refine ⟨⟨?_, inv.objects⟩, running.trans inv.running⟩
  intro operation key entry found completed
  exact inv.journal operation key entry (journal ▸ found) completed

theorem AtCall.put {key : RemoteKey} {content : Content} (inv : AtCall calls start n state)
    (listed : calls[n]? = some call)
    (allowed : key ∈ call.requiredKeys ∨
      (key = call.markerKey ∧ ∀ needed ∈ call.requiredKeys, state.present needed)) :
    AtCall calls start n (state.put key content) := by
  have grows : ∀ other, state.present other → (state.put key content).present other :=
    fun other there => present_put.mpr (Or.inr there)
  refine ⟨⟨?_, ?_⟩, inv.running⟩
  · intro operation item entry found completed
    exact grows item (inv.journal operation item entry found completed)
  · intro other stored found
    by_cases same : other = key
    · subst same
      obtain rfl : (⟨content, some state.host.call⟩ : Stored) = stored := by
        simpa [StorageState.put] using found
      refine Or.inr ⟨n, call, by rw [inv.running], listed, ?_⟩
      rcases allowed with required | ⟨marker, there⟩
      · exact Or.inl required
      · exact Or.inr ⟨marker, fun needed member => grows needed (there needed member)⟩
    · have old : state.remote.objects.lookup other = some stored := by
        simpa [StorageState.put, AList.lookup_insert_ne same] using found
      exact (inv.objects other stored old).mono grows

theorem AtCall.insertJournal {operation : Uuid} {key : RemoteKey} {entry : SyncJournalEntry}
    (inv : AtCall calls start n state) (backed : entry.state = .completed → state.present key) :
    AtCall calls start n
      (state.withJournal (state.host.journal.insert (operation, key) entry)) := by
  refine ⟨⟨?_, inv.objects⟩, inv.running⟩
  intro other item row found completed
  by_cases same : (other, item) = (operation, key)
  · obtain ⟨rfl, rfl⟩ := Prod.mk.inj same
    obtain rfl : entry = row := by
      simpa [StorageState.withJournal, StorageState.withHost] using found
    exact backed completed
  · have old : state.host.journal.lookup (other, item) = some row := by
      simpa [StorageState.withJournal, StorageState.withHost, AList.lookup_insert_ne same]
        using found
    exact inv.journal other item row old completed

theorem AtCall.updateJournal {operation : Uuid} {key : RemoteKey}
    {change : SyncJournalEntry → SyncJournalEntry} (inv : AtCall calls start n state)
    (backed : ∀ entry, state.host.journal.lookup (operation, key) = some entry →
      (change entry).state = .completed → state.present key) :
    AtCall calls start n (state.updateJournal operation key change) := by
  unfold StorageState.updateJournal
  split
  · exact inv
  · rename_i entry found
    exact inv.insertJournal (backed entry found)

end Invariant

section Journal

variable {calls : List CommitCall} {start : StorageState} {n : Nat}

theorem spec_setJournalState {operation : Uuid} {key : RemoteKey} {entered : SyncJournalState}
    {lastError : Option StateError} {pre : StorageState → Prop}
    (holds : ∀ state, pre state → AtCall calls start n state)
    (backed : ∀ state, pre state → entered = .completed → state.present key) :
    Spec storageHandler pre (ask (.setJournalState operation key entered lastError))
      (fun _ => AtCall calls start n) (AtCall calls start n) := by
  have keeps : ∀ state, pre state →
      AtCall calls start n (state.after (.setJournalState operation key entered lastError)) :=
    fun state before => (holds state before).updateJournal fun _ _ completed =>
      backed state before completed
  exact spec_ask holds (fun state _ before _ => keeps state before) keeps

theorem spec_syncJournalCompleted (operation : Uuid) (key : RemoteKey) :
    Spec storageHandler (AtCall calls start n) (syncJournalCompleted operation key)
      (fun completed state => AtCall calls start n state ∧
        (completed = true → state.present key)) (AtCall calls start n) := by
  refine Spec.bind (fun (entry : Option SyncJournalEntry) state => AtCall calls start n state ∧
    state.host.journal.lookup (operation, key) = entry) ?_ fun entry => ?_
  · exact spec_ask (fun _ inv => inv) (fun state entry inv answered =>
      ⟨inv, Except.ok.inj answered⟩) (fun _ inv => inv)
  · refine Spec.done fun state holds => ⟨holds.1, fun completed => ?_⟩
    obtain ⟨row, rfl, done_row⟩ := Option.map_eq_some_iff.mp (of_decide_eq_true completed)
    exact holds.1.journal operation key row holds.2 done_row

theorem spec_startSyncJournalItem (operation : Uuid) (path : String) (key : RemoteKey)
    (size : Nat) :
    Spec storageHandler (AtCall calls start n) (startSyncJournalItem operation path key size)
      (fun _ => AtCall calls start n) (AtCall calls start n) := by
  refine Spec.bind (fun (entry : Option SyncJournalEntry) state => AtCall calls start n state ∧
    state.host.journal.lookup (operation, key) = entry) ?_ fun entry => ?_
  · exact spec_ask (fun _ inv => inv) (fun state entry inv answered =>
      ⟨inv, Except.ok.inj answered⟩) (fun _ inv => inv)
  refine Spec.bind (fun _ => AtCall calls start n) ?_ fun _ =>
    spec_setJournalState (fun _ inv => inv) (by simp)
  -- The row keeps the state it had, so a completed one is still backed.
  have keeps : ∀ state, (AtCall calls start n state ∧
      state.host.journal.lookup (operation, key) = entry) →
      AtCall calls start n (state.after (.upsertJournal operation key
        (startedEntry entry path key size))) := by
    rintro state ⟨inv, read⟩
    refine inv.insertJournal fun completed => ?_
    cases entry with
    | none => simp [startedEntry] at completed
    | some row => exact inv.journal operation key row read completed
  exact spec_ask (fun _ holds => holds.1) (fun state _ holds _ => keeps state holds)
    (fun state holds => keeps state holds)

theorem spec_updateJournal {operation : Uuid} {key : RemoteKey} {op : StorageOp}
    {change : SyncJournalEntry → SyncJournalEntry}
    (effect : ∀ state : StorageState, state.after op = state.updateJournal operation key change)
    (same : ∀ entry, (change entry).state = entry.state) :
    Spec storageHandler (AtCall calls start n) (ask op) (fun _ => AtCall calls start n)
      (AtCall calls start n) := by
  have keeps : ∀ state, AtCall calls start n state → AtCall calls start n (state.after op) := by
    intro state inv
    rw [effect]
    exact inv.updateJournal fun entry found completed =>
      inv.journal operation key entry found (same entry ▸ completed)
  exact spec_ask (fun _ inv => inv) (fun state _ inv _ => keeps state inv) keeps

theorem spec_completeSyncJournalItem (operation : Uuid) (key : RemoteKey)
    (size bytesTransferred : Nat) :
    Spec storageHandler (fun state => AtCall calls start n state ∧ state.present key)
      (completeSyncJournalItemWithTransfer operation key size bytesTransferred)
      (fun _ => AtCall calls start n) (AtCall calls start n) := by
  have framed : ∀ {op : StorageOp},
      Spec storageHandler (AtCall calls start n) (ask op) (fun _ => AtCall calls start n)
        (AtCall calls start n) →
      Spec storageHandler (fun state => AtCall calls start n state ∧ state.present key) (ask op)
        (fun _ state => AtCall calls start n state ∧ state.present key) (AtCall calls start n) :=
    fun spec => spec.frame _ fun _ _ there => present_after there
  refine Spec.bind _ (framed (spec_updateJournal (fun _ => rfl) fun _ => rfl)) fun _ => ?_
  refine Spec.bind _ (framed (spec_updateJournal (fun _ => rfl) fun _ => rfl)) fun _ => ?_
  exact spec_setJournalState (fun _ holds => holds.1) (fun _ holds _ => holds.2)

theorem spec_recordCompleted (operation : Uuid) (completion : ImmutableUploadCompletion)
    (upload : ImmutableUpload) :
    Spec storageHandler (fun state => AtCall calls start n state ∧ state.present upload.key)
      (recordCompleted operation completion upload) (fun _ => AtCall calls start n)
      (AtCall calls start n) := by
  refine Spec.bind (fun _ state => AtCall calls start n state ∧ state.present upload.key)
    ((spec_ask_plain ignoresFiles_atCall rfl).frame _ fun _ _ there => present_after there)
    fun size => ?_
  cases completion with
  | uploaded => exact spec_completeSyncJournalItem operation upload.key size size
  | reusedRemote => exact spec_completeSyncJournalItem operation upload.key size 0

theorem journalUploadObserver_keeps (operation : Uuid) (uploads : List ImmutableUpload) :
    ObserverKeeps (AtCall calls start n) uploads (journalUploadObserver operation) where
  started := spec_ask_plain ignoresFiles_atCall rfl
  progress _ := spec_ask_plain ignoresFiles_atCall rfl
  completed finished completion _ := by
    refine Spec.bind (fun _ => AtCall calls start n) ?_ fun _ =>
      spec_ask_plain ignoresFiles_atCall rfl
    refine (Spec.forEach (fun rest state => AtCall calls start n state ∧
      ∀ upload ∈ rest, state.present upload.key) fun upload rest => ?_).weaken
      (fun _ holds => holds) (fun _ _ holds => holds.1) (fun _ inv => inv)
    refine ((spec_recordCompleted operation completion upload).frame
      (fun state => ∀ other ∈ rest, state.present other.key)
      fun _ _ there other member => present_after (there other member)).weaken ?_
      (fun _ _ holds => holds) (fun _ inv => inv)
    exact fun state holds => ⟨⟨holds.1, holds.2 upload List.mem_cons_self⟩,
      fun other later => holds.2 other (List.mem_cons_of_mem _ later)⟩

theorem spec_selectUploads (tracked : Option Uuid) (uploads : List ImmutableUpload) :
    Spec storageHandler (AtCall calls start n) (selectUploads tracked uploads)
      (fun pending state => AtCall calls start n state ∧ (∀ upload ∈ pending, upload ∈ uploads) ∧
        ∀ upload ∈ uploads, upload ∈ pending ∨ state.present upload.key)
      (AtCall calls start n) := by
  induction uploads with
  | nil => exact Spec.done fun _ inv => ⟨inv, by simp, by simp⟩
  | cons upload rest ih =>
      have selected : ∀ {pending : List ImmutableUpload} {state : StorageState},
          (AtCall calls start n state ∧ (∀ other ∈ pending, other ∈ rest) ∧
            ∀ other ∈ rest, other ∈ pending ∨ state.present other.key) →
          AtCall calls start n state ∧ (∀ other ∈ upload :: pending, other ∈ upload :: rest) ∧
            ∀ other ∈ upload :: rest, other ∈ upload :: pending ∨ state.present other.key := by
        rintro pending state ⟨inv, inside, covered⟩
        refine ⟨inv, ?_, ?_⟩
        · intro other member
          rcases List.mem_cons.mp member with rfl | later
          · exact List.mem_cons_self
          · exact List.mem_cons_of_mem _ (inside other later)
        · intro other member
          rcases List.mem_cons.mp member with rfl | later
          · exact Or.inl List.mem_cons_self
          · rcases covered other later with chosen | there
            · exact Or.inl (List.mem_cons_of_mem _ chosen)
            · exact Or.inr there
      cases tracked with
      | none => exact Spec.bind _ ih fun others => Spec.done fun _ holds => selected holds
      | some operation =>
          refine Spec.bind _ (spec_syncJournalCompleted operation upload.key) fun completed => ?_
          cases completed with
          | true =>
              refine (ih.frame (fun state => state.present upload.key)
                fun _ _ there => present_after there).weaken
                (fun _ holds => ⟨holds.1, holds.2 rfl⟩) ?_ (fun _ inv => inv)
              rintro pending state ⟨⟨inv, inside, covered⟩, there⟩
              refine ⟨inv, fun other member => List.mem_cons_of_mem _ (inside other member), ?_⟩
              intro other member
              rcases List.mem_cons.mp member with rfl | later
              · exact Or.inr there
              · exact covered other later
          | false =>
              refine Spec.bind (fun _ => AtCall calls start n)
                ((spec_ask_plain ignoresFiles_atCall rfl).of_pre (fun _ holds => holds.1)) fun size => ?_
              refine Spec.bind _ (spec_startSyncJournalItem operation _ _ size) fun _ => ?_
              exact Spec.bind _ ih fun others => Spec.done fun _ holds => selected holds

theorem spec_failUploads (tracked : Option Uuid) (uploads : List ImmutableUpload)
    (error : StateError) :
    Spec storageHandler (AtCall calls start n) (failUploads tracked uploads error)
      (fun _ => AtCall calls start n) (AtCall calls start n) := by
  cases tracked with
  | none => exact Spec.done fun _ inv => inv
  | some operation =>
      refine Spec.forEach (fun _ => AtCall calls start n) fun upload _ => ?_
      refine Spec.bind _ (spec_syncJournalCompleted operation upload.key) fun completed => ?_
      cases completed with
      | true => exact Spec.done fun _ holds => holds.1
      | false =>
          refine Spec.bind (fun _ => AtCall calls start n) ?_ fun _ =>
            Spec.done fun _ inv => inv
          exact Spec.attempt (spec_setJournalState (fun _ holds => holds.1) (by simp))
            (fun _ _ inv => inv) (fun _ _ inv => inv) (fun _ inv => inv)

end Journal

theorem packKey_last (pack : String) : (packKey pack).toList.getLast? = some 'k' :=
  getLast?_append_text _ (by decide)

theorem requiredKeys_last {call : CommitCall} {key : RemoteKey}
    (required : key ∈ call.requiredKeys) : key.toList.getLast? ≠ some 'D' := by
  have named : ∀ text : String, text.toList ≠ [] → text.toList.getLast? ≠ some 'D' →
      (call.bundlePrefix ++ text).toList.getLast? ≠ some 'D' := by
    intro text some_text other
    rwa [getLast?_append_text _ some_text]
  simp only [CommitCall.requiredKeys, List.mem_append, List.mem_map, List.mem_cons,
    List.not_mem_nil, or_false] at required
  rcases required with (⟨_, _, rfl⟩ | rfl | rfl) | ⟨pack, _, rfl⟩
  · exact named _ (by decide) (by decide)
  · exact named _ (by decide) (by decide)
  · exact named _ (by decide) (by decide)
  · rw [packKey_last]
    decide

theorem metadata_key_mem {call : CommitCall} {codec : Codec} {entry : MetadataWrite}
    (member : entry ∈ call.metadata codec) : entry.key ∈ call.requiredKeys := by
  simp only [CommitCall.metadata, List.mem_append, List.mem_map, List.mem_cons,
    List.not_mem_nil, or_false] at member
  simp only [CommitCall.requiredKeys, List.mem_append, List.mem_map, List.mem_cons,
    List.not_mem_nil, or_false]
  rcases member with ⟨index, given, rfl⟩ | rfl | rfl
  · exact Or.inl (Or.inl ⟨index, given, rfl⟩)
  · exact Or.inl (Or.inr (Or.inl rfl))
  · exact Or.inl (Or.inr (Or.inr rfl))

theorem requiredKeys_covered {call : CommitCall} {codec : Codec} {state : StorageState}
    (metadata : ∀ entry ∈ call.metadata codec, state.present entry.key)
    (packs : ∀ upload ∈ call.uploads, state.present upload.key) :
    ∀ key ∈ call.requiredKeys, state.present key := by
  intro key required
  simp only [CommitCall.requiredKeys, List.mem_append, List.mem_map, List.mem_cons,
    List.not_mem_nil, or_false] at required
  simp only [CommitCall.metadata, List.mem_append, List.mem_map, List.mem_cons,
    List.not_mem_nil, or_false] at metadata
  rcases required with (⟨index, given, rfl⟩ | rfl | rfl) | ⟨pack, member, rfl⟩
  · exact metadata _ (Or.inl ⟨index, given, rfl⟩)
  · exact metadata _ (Or.inr (Or.inl rfl))
  · exact metadata _ (Or.inr (Or.inr rfl))
  · exact packs _ (List.mem_map_of_mem member)

theorem uploads_key_mem {call : CommitCall} {upload : ImmutableUpload}
    (member : upload ∈ call.uploads) : upload.key ∈ call.requiredKeys := by
  obtain ⟨pack, inside, rfl⟩ := List.mem_map.mp member
  exact List.mem_append_right _ (List.mem_map_of_mem inside)

section OneCall

variable {calls : List CommitCall} {start : StorageState} {n : Nat} {call : CommitCall}

theorem spec_whenDb {inv : StorageState → Prop} {db : Bool} {program : StorageProg Unit}
    (spec : Spec storageHandler inv program (fun _ => inv) inv) :
    Spec storageHandler inv (whenDb db program) (fun _ => inv) inv := by
  cases db with
  | false => exact Spec.done fun _ holds => holds
  | true => exact spec

theorem spec_commitBundle (provider : Provider) (codec : Codec) (listed : calls[n]? = some call) :
    Spec storageHandler (AtCall calls start n)
      (commitBundleWithIndexForOperation provider codec call)
      (fun _ => AtCall calls start n) (AtCall calls start n) := by
  refine Spec.bind (fun _ => AtCall calls start n) (spec_ask_plain ignoresFiles_atCall rfl)
    fun _ => ?_
  refine Spec.bind _ (spec_selectUploads call.tracked call.uploads) fun pending => ?_
  refine Spec.learn (fun _ holds => holds.2.1) fun inside => ?_
  have bulk := provider.bulk_contract pending (call.tracked.map journalUploadObserver)
    (AtCall calls start n) ignoresFiles_atCall
    (fun upload member state content inv =>
      inv.put listed (Or.inl (uploads_key_mem (inside upload member))))
    (fun listener given => by
      obtain ⟨operation, _, rfl⟩ := Option.map_eq_some_iff.mp given
      exact journalUploadObserver_keeps operation pending)
  -- After the uploads every pack is there: uploaded now, or journalled before.
  let covered : StorageState → Prop := fun state => AtCall calls start n state ∧
    ∀ upload ∈ call.uploads, state.present upload.key
  refine Spec.bind (fun (uploaded : Except StateError (List RemoteMeta)) state =>
    AtCall calls start n state ∧ (uploaded.isOk = true → covered state)) ?_ fun uploaded => ?_
  · have chosen := bulk.frame (fun state => ∀ upload ∈ call.uploads, upload ∈ pending ∨
      state.present upload.key) fun _ _ holds upload member =>
        (holds upload member).imp_right present_after
    refine Spec.attempt (chosen.of_pre (fun _ holds => ⟨holds.1, holds.2.2⟩)) ?_ ?_ (fun _ inv => inv)
    · rintro _ state ⟨⟨inv, landed⟩, chosen⟩
      refine ⟨inv, fun _ => ⟨inv, fun upload member => ?_⟩⟩
      rcases chosen upload member with now_uploaded | there
      · exact landed upload now_uploaded
      · exact there
    · exact fun _ state inv => ⟨inv, fun failed => by cases failed⟩
  cases uploaded with
  | error error =>
      refine Spec.bind (fun _ => AtCall calls start n)
        ((spec_failUploads call.tracked pending error).of_pre (fun _ holds => holds.1)) fun _ => Spec.throw fun _ inv => inv
  | ok written =>
      have covered_ignores : IgnoresFiles covered :=
        ignoresFiles_atCall.and fun _ _ _ _ holds => holds
      have leaves : ∀ {α : Type} {program : StorageProg α},
          Spec storageHandler covered program (fun _ => covered) covered →
          Spec storageHandler covered program (fun _ => covered) (AtCall calls start n) :=
        fun spec => spec.weaken (fun _ holds => holds) (fun _ _ holds => holds)
          (fun _ holds => holds.1)
      refine Spec.bind (fun _ => covered) ((leaves (spec_whenDb (Spec.forEach (fun _ => covered)
        fun upload _ => spec_ask_plain covered_ignores rfl))).weaken (fun _ holds => holds.2 rfl)
        (fun _ _ holds => holds) (fun _ inv => inv)) fun _ => ?_
      refine Spec.bind (fun _ => covered) (leaves ?_) fun _ => ?_
      · have put_keeps : ∀ {state : StorageState} {key : RemoteKey} {content : Content},
            covered state → (key ∈ call.requiredKeys ∨ (key = call.markerKey ∧
              ∀ needed ∈ call.requiredKeys, state.present needed)) →
            covered (state.put key content) := fun holds allowed =>
          ⟨holds.1.put listed allowed, fun upload member =>
            present_put.mpr (Or.inr (holds.2 upload member))⟩
        refine (provider.batch_contract (call.batch codec) covered covered_ignores ?_ ?_).to_post (fun _ _ holds => holds.1)
        · exact fun entry member state holds => put_keeps holds (Or.inl (metadata_key_mem member))
        · intro marker given state holds there
          obtain rfl : (⟨call.markerKey, .text call.manifest.commitId.text⟩ : MetadataWrite) =
            marker := Option.some.inj given
          exact put_keeps holds (Or.inr ⟨rfl, requiredKeys_covered there holds.2⟩)
      · exact (spec_whenDb (spec_ask_plain ignoresFiles_atCall rfl)).of_pre (fun _ holds => holds.1)

end OneCall

def StorageState.atCall (state : StorageState) (n : Nat) : StorageState :=
  state.withHost { state.host with call := n }

/-- The states that a history of commit calls can reach. A call ends with a
result or an error or is stopped before any of its operations; between calls the
local files may change and journal rows may be deleted. -/
inductive CommitHistory (provider : Provider) (codec : Codec) (calls : List CommitCall)
    (start : StorageState) : Nat → StorageState → Prop where
  | start : CommitHistory provider codec calls start 0 start
  | call {n : Nat} {state : StorageState} {call : CommitCall}
      {outcome : Outcome StateError Unit} {final : StorageConfig}
      (before : CommitHistory provider codec calls start n state)
      (listed : calls[n]? = some call)
      (run : Runs storageHandler (fun _ _ _ => True)
        (commitBundleWithIndexForOperation provider codec call) ⟨[], state.atCall n⟩ outcome final) :
      CommitHistory provider codec calls start (n + 1) final.state
  | files {n : Nat} {state : StorageState} (files : AList fun _ : String => Content)
      (before : CommitHistory provider codec calls start n state) :
      CommitHistory provider codec calls start n (state.withFiles files)
  | deleteJournal {n : Nat} {state : StorageState} (operation : Uuid) (key : RemoteKey)
      (before : CommitHistory provider codec calls start n state) :
      CommitHistory provider codec calls start n
        (state.withJournal (state.host.journal.erase (operation, key)))

structure CommitStart (start : StorageState) : Prop where
  unwritten : ∀ key stored, start.remote.objects.lookup key = some stored → stored.writer = none
  journal : JournalSound start

theorem commitInv_of_history {provider : Provider} {codec : Codec} {calls : List CommitCall}
    {start state : StorageState} {n : Nat} (starts : CommitStart start)
    (history : CommitHistory provider codec calls start n state) :
    CommitInv calls start state := by
  induction history with
  | start =>
      exact ⟨starts.journal, fun key stored found =>
        Or.inl ⟨starts.unwritten key stored found, found⟩⟩
  | @call n state call outcome final _ listed run ih =>
      have running : AtCall calls start n (state.atCall n) := ⟨⟨ih.journal, ih.objects⟩, rfl⟩
      have result := spec_commitBundle provider codec listed ⟨[], state.atCall n⟩ outcome final
        running run
      cases outcome with
      | value value => exact result.toCommitInv
      | error error => exact result.toCommitInv
      | stopped => exact result.toCommitInv
  | files files _ ih => exact ⟨ih.journal, ih.objects⟩
  | @deleteJournal n state operation key _ ih =>
      refine ⟨?_, ih.objects⟩
      intro other item row found completed
      by_cases same : (other, item) = (operation, key)
      · have gone : (state.host.journal.erase (operation, key)).lookup (other, item) = some row :=
          found
        rw [same, AList.lookup_erase] at gone
        cases gone
      · have old : state.host.journal.lookup (other, item) = some row := by
          simpa [StorageState.withJournal, StorageState.withHost, AList.lookup_erase_ne same]
            using found
        exact ih.journal other item row old completed

/-- A `COMMITTED` marker at the provider was there before all calls, or one of
the calls wrote it, and then every object of that call is there. -/
theorem committed_marker_complete (provider : Provider) (codec : Codec)
    (calls : List CommitCall) (start state : StorageState) (n : Nat)
    (starts : CommitStart start) (history : CommitHistory provider codec calls start n state)
    (app : AppId) (bundle : Uuid) (stored : Stored)
    (visible : state.remote.objects.lookup (bundleDir app bundle ++ "/" ++ committedMarker) =
      some stored) :
    (stored.writer = none ∧
      start.remote.objects.lookup (bundleDir app bundle ++ "/" ++ committedMarker) = some stored) ∨
    ∃ m call, stored.writer = some m ∧ calls[m]? = some call ∧
      call.markerKey = bundleDir app bundle ++ "/" ++ committedMarker ∧
      ∀ key ∈ call.requiredKeys, state.present key := by
  have inv := commitInv_of_history starts history
  rcases inv.objects _ stored visible with before | ⟨m, call, wrote, listed, origin⟩
  · exact Or.inl before
  · rcases origin with required | ⟨same, there⟩
    · exact absurd (getLast?_append_text _ (by decide)) (requiredKeys_last required)
    · exact Or.inr ⟨m, call, wrote, listed, same.symm, there⟩

namespace Sample

def uuidA : Uuid := ⟨"00000000-0000-4000-8000-00000000000a", Eq.refl true⟩

def uuidB : Uuid := ⟨"00000000-0000-4000-8000-00000000000b", Eq.refl true⟩

def codec : Codec :=
  { keyId := 0, sealedLen := fun _ => 64, manifestHash := fun _ => "blake3:00" }

def manifest (commit : Uuid) : BundleManifest :=
  { bundleId := uuidA
    commitId := commit
    app := { appId := ⟨"steam:42"⟩, displayName := "Game" }
    source := { instanceId := uuidA, capturedAt := 0 }
    mode := .personalState }

def host (files : AList fun _ : String => Content) (uuids : Nat → Uuid)
    (clock : Nat → Timestamp) : Host :=
  { files := files, journal := ∅, uploads := [], commits := [], uuids := uuids, clock := clock
    drawn := 0, ticks := 0, call := 0 }

def remote : Remote := { objects := ∅, arrange := id, arrange_perm := fun _ => .rfl }

def call : CommitCall :=
  { manifest := manifest uuidB
    packFiles := [("aabb", "/packs/aabb")]
    packIndex := some []
    db := true
    operationId := some uuidB }

def start : StorageState :=
  { remote := remote
    host := host ((∅ : AList fun _ : String => Content).insert "/packs/aabb" (.raw 7))
      (fun _ => uuidA) fun n => n }

def commit (signals : List (Signal StateError)) (state : StorageState) :
    Outcome StateError Unit × List (Signal StateError) × StorageConfig :=
  (commitBundleWithIndexForOperation localStorage codec call).exec storageHandler signals
    ⟨[], state⟩

def stopped : StorageConfig :=
  (commit (List.replicate 11 .proceed ++ [.stop]) (start.atCall 0)).2.2

def committed : StorageConfig := (commit [] (stopped.state.atCall 1)).2.2

theorem commit_runs (signals : List (Signal StateError)) (state : StorageState) :
    Runs storageHandler (fun _ _ _ => True)
      (commitBundleWithIndexForOperation localStorage codec call) ⟨[], state⟩
      (commit signals state).1 (commit signals state).2.2 :=
  exec_runs storageHandler _ signals ⟨[], state⟩

theorem history : CommitHistory localStorage codec [call, call] start 2 committed.state := by
  have first : CommitHistory localStorage codec [call, call] start 1 stopped.state :=
    CommitHistory.call .start rfl (commit_runs _ _)
  exact CommitHistory.call first rfl (commit_runs _ _)

end Sample

theorem committed_marker_complete_after_stop :
    Sample.committed.state.remote.objects.lookup Sample.call.markerKey =
      some ⟨.text Sample.uuidB.text, some 1⟩ ∧
    ∃ m call, some 1 = some m ∧ [Sample.call, Sample.call][m]? = some call ∧
      call.markerKey = Sample.call.markerKey ∧
      ∀ key ∈ call.requiredKeys, Sample.committed.state.present key := by
  have visible : Sample.committed.state.remote.objects.lookup Sample.call.markerKey =
      some ⟨.text Sample.uuidB.text, some 1⟩ := by decide +kernel
  have starts : CommitStart Sample.start := by
    constructor
    · intro key stored found
      cases found
    · intro operation key entry found
      cases found
  rcases committed_marker_complete localStorage Sample.codec [Sample.call, Sample.call]
    Sample.start Sample.committed.state 2 starts Sample.history ⟨"steam:42"⟩ Sample.uuidA _ visible
    with before | written
  · cases before.1
  · exact ⟨visible, written⟩

end Noland.Storage
