import Noland.Restore.Operations

/-!
`publish_to` keeps what is about to be replaced and then writes the entries of a milestone one
after another, each beside its destination and renamed over it. Each change is journaled before it
is made.
-/

namespace Noland.Restore

open Noland.Core Noland.FileTree Noland.Text Noland.Requests

structure RestoreReport where
  destinations : List Path := []
  publishedEntries : Nat := 0
  reusedEntries : Nat := 0
  deriving DecidableEq

def notActive {α : Type} : RestoreProg α :=
  .throw (.invalid "restore transaction is not active")

def persistJournal (state : JournalState) : RestoreProg Unit := perform (.persistJournal state)

def replacedPaths (planned : List PlannedDestination) (tombstones : List PlannedTombstone) :
    List Path :=
  (planned.filter fun entry => !entry.identical).map PlannedDestination.destination ++
    tombstones.map PlannedTombstone.destination

def captureView (files : List Path) : RestoreProg Unit :=
  if files = [] then .done ()
  else do
    let mappings : List PathMapping ← perform (.createView files)
    if mappings.length ≠ files.length then
      .throw (.invalid "failed to capture every regular restore rollback path")
    else
      remember fun transaction =>
        { transaction with rollbackMappings := transaction.rollbackMappings ++ mappings }

def prepareRollback (planned : List PlannedDestination) (tombstones : List PlannedTombstone) :
    RestoreProg Unit := do
  remember fun transaction =>
    { transaction with
      allowedRoots := (planned.map PlannedDestination.root ++
        tombstones.map PlannedTombstone.root).foldl insertOrdered transaction.allowedRoots }
  let sources : List Path × List SymlinkRollback ←
    perform (.rollbackSources (replacedPaths planned tombstones))
  captureView sources.1
  remember fun transaction =>
    { transaction with symlinkRollbacks := transaction.symlinkRollbacks ++ sources.2 }
  persistJournal .active

def createDirectoryJournaled (directory : Path) : RestoreProg Unit := do
  remember fun transaction =>
    { transaction with
      allowedRoots := insertOrdered transaction.allowedRoots directory
      createdDirectories := insertOrdered transaction.createdDirectories directory }
  persistJournal .active
  perform (.createDir directory)
  perform (.syncParent directory)

def createDirectoryChainJournaled (root destination : Path) : RestoreProg Unit := do
  let missing : List Path ← perform (.missingDirectoryChain root destination)
  Prog.forEach missing createDirectoryJournaled

def trackPartial (path : Path) : RestoreProg Unit := do
  remember fun transaction =>
    { transaction with activePartials := insertOrdered transaction.activePartials path }
  persistJournal .active

def clearPartial (path : Path) : RestoreProg Unit := do
  remember fun transaction =>
    { transaction with
      activePartials := transaction.activePartials.filter fun known => known ≠ path }
  persistJournal .active

def trackCreatedPath (path : Path) : RestoreProg Unit := do
  remember fun transaction =>
    { transaction with createdPaths := insertOrdered transaction.createdPaths path }
  persistJournal .active

def parentOf (destination : Path) : Except StateError Path :=
  if destination = [] then
    .error (.unsafePath ("destination has no parent: " ++ display destination))
  else .ok destination.dropLast

def moveIntoPlace (planned : PlannedDestination) (beside : Path) : RestoreProg Unit := do
  if planned.existed then .done () else trackCreatedPath planned.destination
  perform (.rename beside planned.destination)
  perform (.syncParent planned.destination)
  clearPartial beside

def setManifestMode (beside : Path) : Option Nat → RestoreProg Unit
  | none => .done ()
  | some mode => perform (.setPermissions beside mode)

def publishFile (setup : RestoreSetup) (planned : PlannedDestination) : RestoreProg Unit := do
  let parent ← Prog.ofExcept (parentOf planned.destination)
  createDirectoryChainJournaled planned.root parent
  perform (.validateParentChain planned.root planned.destination)
  let beside ← Prog.ofExcept
    (destinationPartialPath planned.destination setup.plan.restoreId)
  trackPartial beside
  perform (.removeLeaf beside)
  perform (.createNew beside)
  Prog.forEach planned.file.chunks fun chunk => perform (.appendChunk beside chunk.hash)
  perform (.verifyPartial beside planned.file)
  setManifestMode beside planned.file.mode
  perform (.validateParentChain planned.root planned.destination)
  moveIntoPlace planned beside

def symlinkTargetOf (file : ManifestFile) : Except StateError String :=
  match file.symlinkTarget with
  | none => missingTarget
  | some target =>
      match LogicalRoot.parse file.logicalRoot with
      | none => .error (.unsafePath file.logicalRoot)
      | some _ => do
          validateSymlinkTarget target
          .ok target

def publishSymlink (setup : RestoreSetup) (planned : PlannedDestination) : RestoreProg Unit := do
  let target ← Prog.ofExcept (symlinkTargetOf planned.file)
  let parent ← Prog.ofExcept (parentOf planned.destination)
  createDirectoryChainJournaled planned.root parent
  perform (.validateParentChain planned.root planned.destination)
  let beside ← Prog.ofExcept
    (destinationPartialPath planned.destination setup.plan.restoreId)
  trackPartial beside
  perform (.removeLeaf beside)
  perform (.createSymlink target beside)
  moveIntoPlace planned beside

def setReference (references : List (String × Nat)) (hash : String) (count : Nat) :
    List (String × Nat) :=
  references.map fun known => if known.1 = hash then (known.1, count) else known

def evictReleased (transaction : Transaction) (hash : String) (left : Nat) : RestoreProg Unit :=
  if transaction.chunkEvictionEnabled ∧ left = 0 then do
    let _ ← perform (.evictChunk hash)
    .done ()
  else .done ()

def releaseChunk (hash : String) : RestoreProg Unit := do
  let transaction ← recollect
  match transaction.remainingChunkRefs.lookup hash with
  | none => .throw (.invalid ("missing restore chunk reference count for " ++ hash))
  | some 0 => .throw (.invalid ("restore chunk reference count underflow for " ++ hash))
  | some (left + 1) => do
      remember fun transaction =>
        { transaction with
          remainingChunkRefs := setReference transaction.remainingChunkRefs hash left }
      evictReleased transaction hash left

def releaseEntryChunks (file : ManifestFile) : RestoreProg Unit :=
  Prog.forEach (uniqueChunks file) releaseChunk

def writeEntry (setup : RestoreSetup) (planned : PlannedDestination) : RestoreProg Unit :=
  if planned.identical then .done ()
  else if planned.file.fileType = "directory" then
    createDirectoryChainJournaled planned.root planned.destination
  else if planned.file.fileType = "symlink" then publishSymlink setup planned
  else if planned.file.fileType = "file" then publishFile setup planned
  else Prog.ofExcept (unsupportedType planned.file.fileType)

def publishEntry (setup : RestoreSetup) (planned : PlannedDestination) : RestoreProg Unit := do
  writeEntry setup planned
  releaseEntryChunks planned.file
  remember fun transaction =>
    { transaction with
      publishedEntries := insertOrdered transaction.publishedEntries planned.manifestIndex
      pendingAssociations := insertOrdered transaction.pendingAssociations planned.manifestIndex }

def removeTombstone (tombstone : PlannedTombstone) : RestoreProg Unit := do
  let removed : Bool ← perform (.removePathIfPresent tombstone.destination)
  if removed then perform (.syncParent tombstone.destination) else .done ()

def applyTombstones (target : RestoreTarget) (applied : Bool)
    (tombstones : List PlannedTombstone) : RestoreProg Unit :=
  if target = .complete ∧ applied = false then do
    Prog.forEach tombstones removeTombstone
    remember fun transaction => { transaction with tombstonesApplied := true }
  else .done ()

def reportOf (planned : List PlannedDestination) : RestoreReport :=
  { destinations := planned.map PlannedDestination.destination
    publishedEntries := (planned.filter fun entry => !entry.identical).length
    reusedEntries := (planned.filter PlannedDestination.identical).length }

def publishTo (setup : RestoreSetup) (target : RestoreTarget) : RestoreProg RestoreReport := do
  let transaction ← recollect
  if transaction.state ≠ .active then notActive
  else do
    let plan : List PlannedDestination × List PlannedTombstone ← perform (.preflight target)
    prepareRollback plan.1 plan.2
    Prog.forEach plan.1 (publishEntry setup)
    applyTombstones target transaction.tombstonesApplied plan.2
    .done (reportOf plan.1)

def evictUnreferenced : List (String × Nat) → RestoreProg Nat
  | [] => .done 0
  | (hash, 0) :: rest => do
      let evicted : Bool ← perform (.evictChunk hash)
      let others ← evictUnreferenced rest
      .done (if evicted then others + 1 else others)
  | (_, _ + 1) :: rest => evictUnreferenced rest

def enableChunkEviction : RestoreProg Nat := do
  let transaction ← recollect
  if transaction.state ≠ .active then notActive
  else do
    remember fun transaction => { transaction with chunkEvictionEnabled := true }
    evictUnreferenced transaction.remainingChunkRefs

def resolveAssociations (setup : RestoreSetup) : List Nat → RestoreProg (List RestoredAssociation)
  | [] => .done []
  | index :: rest =>
      match setup.plan.manifest.files[index]? with
      | none => resolveAssociations setup rest
      | some file => do
          let association : RestoredAssociation ← perform (.resolveAssociation file)
          let others ← resolveAssociations setup rest
          .done (association :: others)

/-- `remove_directory_tree_durable` of the workspace. -/
def removeWorkspaceDurable : RestoreProg Unit := do
  let items : List WorkspaceItem ← perform .listWorkspace
  Prog.forEach items fun item => perform (.removeWorkspaceItem item)
  perform .removeWorkspaceDirectory

def removeWorkspaceIfPresent : RestoreProg Unit := do
  let present : Bool ← perform .workspaceExists
  if present then removeWorkspaceDurable else .done ()

/-- A failed database write is rolled back once the journal is active again. -/
def publishAssociations (setup : RestoreSetup) (associations : List RestoredAssociation) :
    RestoreProg Unit :=
  if setup.hasDatabase then do
    match ← observe (.upsertAssociations associations) with
    | .ok _ => .done ()
    | .error error =>
        match ← observe (.persistJournal .active) with
        | .error _ =>
            .throw (.invalid ("database publication failed; restore remains committed because " ++
              "the rollback journal could not be re-armed"))
        | .ok _ => do
            remember fun transaction => { transaction with state := .active }
            .throw error
  else .done ()

def commit (setup : RestoreSetup) : RestoreProg Unit := do
  let transaction ← recollect
  if transaction.state ≠ .active then notActive
  else if transaction.remainingChunkRefs.any fun reference => reference.2 ≠ 0 then
    .throw (.invalid "cannot commit restore before every selected file is published")
  else do
    let associations ←
      if setup.hasDatabase then resolveAssociations setup transaction.pendingAssociations
      else .done []
    perform .releasePackLinks
    perform .prunePackCache
    persistJournal .committed
    remember fun transaction => { transaction with state := .committed }
    publishAssociations setup associations
    removeWorkspaceIfPresent

def World.opened (setup : RestoreSetup) (before : Tree) (chunks : List (String × List UInt8))
    (eviction : Bool) : World :=
  { tree := before
    workspace := { chunks := chunks }
    transaction := { Transaction.new setup.plan with chunkEvictionEnabled := eviction } }

/-- One call after another; a call that fails does not keep the next from being made. -/
def publishAll (setup : RestoreSetup) (targets : List RestoreTarget) : RestoreProg Unit :=
  Prog.forEach targets fun target => do
    let _ ← (publishTo setup target).attempt
    .done ()

namespace Sample

def restoreId : Uuid := ⟨"00000000-0000-4000-8000-00000000000a", Eq.refl true⟩

def emptyHash : String :=
  "blake3:af1349b9f5f9a1a6a0404dea36dcc9499bcb25c9adc112b7cc9a93cae41f3262"

def emptyFile (relative : String) : ManifestFile :=
  { logicalRoot := "$HOME", relativePath := relative, fileType := "file", size := 0,
    fileHash := emptyHash, persistenceClass := .persistentState, semanticRole := .userState }

def manifest (files : List ManifestFile) (tombstones : List ManifestTombstone) : BundleManifest :=
  { bundleId := restoreId
    commitId := restoreId
    app := { appId := ⟨"app"⟩, displayName := "app" }
    source := { instanceId := restoreId, capturedAt := 0 }
    mode := .personalState
    files := files
    tombstones := tombstones }

def setupOf (files : List ManifestFile) (tombstones : List ManifestTombstone) : RestoreSetup where
  plan := { restoreId := restoreId, manifest := manifest files tombstones, mode := .personalState }
  roots := { home := some "/h" }
  hash := fun _ => emptyHash

def home : Tree := ⟨[(["h"], .directory)]⟩

end Sample

end Noland.Restore
