import Noland.Lib.Requests
import Noland.Restore.Destination

/-!
A change to the memory of a transaction cannot fail; every other operation may, and the process
may stop before it. The journal is written beside and renamed, so it is replaced as a whole.
-/

namespace Noland.Restore

open Noland.Core Noland.FileTree Noland.Text Noland.Requests

inductive TransactionState where
  | active
  | committed
  | aborted
  deriving DecidableEq

inductive JournalState where
  | active
  | committed
  deriving DecidableEq

/-- A copy below `pre_restore`: its view and its position there. -/
structure Staged where
  view : Nat
  index : Nat
  deriving DecidableEq

structure PathMapping where
  source : Path
  staged : Staged
  deriving DecidableEq

structure SymlinkRollback where
  destination : Path
  target : String
  deriving DecidableEq

/-- `RestoreTransactionJournal`. -/
structure Journal where
  version : Nat
  restoreId : Uuid
  state : JournalState
  allowedRoots : List Path
  rollbackMappings : List PathMapping
  priorSymlinks : List SymlinkRollback
  createdPaths : List Path
  createdDirectories : List Path
  partialPaths : List Path
  deriving DecidableEq

def transactionJournalVersion : Nat := 1

def insertOrdered {α : Type} [LT α] [DecidableLT α] [DecidableEq α] (set : List α) (item : α) :
    List α :=
  match set with
  | [] => [item]
  | first :: rest =>
      if item < first then item :: first :: rest
      else if item = first then first :: rest
      else first :: insertOrdered rest item

theorem mem_insertOrdered {α : Type} [LT α] [DecidableLT α] [DecidableEq α] {set : List α}
    {item other : α} : other ∈ insertOrdered set item ↔ other = item ∨ other ∈ set := by
  induction set with
  | nil => simp [insertOrdered]
  | cons first rest ih =>
      unfold insertOrdered
      split
      · simp
      · split
        · rename_i same
          simp [same]
        · simp only [List.mem_cons, ih]
          exact or_left_comm

structure Transaction where
  rollbackMappings : List PathMapping := []
  symlinkRollbacks : List SymlinkRollback := []
  createdPaths : List Path := []
  createdDirectories : List Path := []
  activePartials : List Path := []
  publishedEntries : List Nat := []
  pendingAssociations : List Nat := []
  allowedRoots : List Path := []
  remainingChunkRefs : List (String × Nat) := []
  chunkEvictionEnabled : Bool := false
  tombstonesApplied : Bool := false
  state : TransactionState := .active
  deriving DecidableEq

structure RestorePlan where
  restoreId : Uuid
  manifest : BundleManifest
  mode : RestoreMode

def RestorePlan.priorityPlan (plan : RestorePlan) : List RestorePlanEntry :=
  planRestorePriorities plan.manifest plan.mode

inductive WorkspaceItem where
  | journal
  | artifact (staged : Staged)
  | chunk (token : String)
  deriving DecidableEq

/-- A plan with the roots it is restored below, the hash of its files and the
order in which the system lists a directory. -/
structure RestoreSetup where
  plan : RestorePlan
  roots : LogicalRootMap
  hash : List UInt8 → String
  hasDatabase : Bool := true
  listing : List WorkspaceItem → List WorkspaceItem := id
  lists : ∀ items, (listing items).Perm items := by exact fun items => List.Perm.refl items

def uniqueChunks (file : ManifestFile) : List String :=
  (file.chunks.map ChunkRef.hash).foldl insertOrdered []

def addReference (references : List (String × Nat)) (hash : String) : List (String × Nat) :=
  if references.any fun known => known.1 = hash then
    references.map fun known => if known.1 = hash then (known.1, known.2 + 1) else known
  else references ++ [(hash, 1)]

def Transaction.new (plan : RestorePlan) : Transaction :=
  { remainingChunkRefs :=
      (plan.priorityPlan.flatMap fun entry => uniqueChunks entry.file).foldl addReference [] }

def Transaction.journalSnapshot (transaction : Transaction) (plan : RestorePlan)
    (state : JournalState) : Journal :=
  { version := transactionJournalVersion
    restoreId := plan.restoreId
    state := state
    allowedRoots := transaction.allowedRoots
    rollbackMappings := transaction.rollbackMappings
    priorSymlinks := transaction.symlinkRollbacks
    createdPaths := transaction.createdPaths
    createdDirectories := transaction.createdDirectories
    partialPaths := transaction.activePartials }

structure PlannedDestination where
  manifestIndex : Nat
  file : ManifestFile
  root : Path
  destination : Path
  identical : Bool
  existed : Bool
  deriving DecidableEq

structure PlannedTombstone where
  root : Path
  destination : Path
  deriving DecidableEq

def missingTarget {α : Type} : Except StateError α := .error (.invalid "symlink missing target")

def unsupportedType {α : Type} (fileType : String) : Except StateError α :=
  .error (.unsafePath ("unsupported file type '" ++ fileType ++ "'"))

def isIdentical (hash : List UInt8 → String) (tree : Tree) (file : ManifestFile)
    (destination : Path) (metadata : Option Node) : Except StateError Bool :=
  if file.fileType = "file" then .ok (targetFileIsIdentical hash tree destination file)
  else if file.fileType = "directory" then .ok (metadata = some .directory)
  else if file.fileType = "symlink" then
    match file.symlinkTarget with
    | none => missingTarget
    | some target =>
        match LogicalRoot.parse file.logicalRoot with
        | none => .error (.unsafePath file.logicalRoot)
        | some _ => do
            validateSymlinkTarget target
            .ok (targetLinkIsIdentical tree destination target)
  else unsupportedType file.fileType

/-- A directory never gives way to a file or a link, nor they to a directory. -/
def incompatible (file : ManifestFile) (metadata : Node) : Bool :=
  if file.fileType = "directory" then metadata ≠ .directory
  else if file.fileType = "file" ∨ file.fileType = "symlink" then metadata = .directory
  else false

def planDestination (setup : RestoreSetup) (tree : Tree) (seen : List Path)
    (entry : RestorePlanEntry) : Except StateError PlannedDestination := do
  let (root, destination) ← resolveDestination setup.roots tree entry.file
  if destination ∈ seen then
    .error (.invalid ("multiple manifest entries resolve to " ++ display destination))
  else do
    validateParentChain tree root destination
    let metadata ← lstatIfPresent tree destination
    let identical ← isIdentical setup.hash tree entry.file destination metadata
    if metadata.any (incompatible entry.file) then
      .error (.invalid ("cannot atomically replace incompatible destination " ++
        display destination))
    else
      .ok ⟨entry.manifestIndex, entry.file, root, destination, identical, metadata.isSome⟩

def planDestinations (setup : RestoreSetup) (tree : Tree) :
    List Path → List RestorePlanEntry → Except StateError (List PlannedDestination)
  | _, [] => .ok []
  | seen, entry :: rest => do
      let planned ← planDestination setup tree seen entry
      let others ← planDestinations setup tree (planned.destination :: seen) rest
      .ok (planned :: others)

def resolveTombstone (roots : LogicalRootMap) (tree : Tree) (tombstone : ManifestTombstone) :
    Except StateError (Option (Path × Path)) := do
  validateRelativePath tombstone.relativePath
  match LogicalRoot.parse tombstone.logicalRoot with
  | none => .error (.unsafePath tombstone.logicalRoot)
  | some logical =>
      match roots.resolve logical with
      | none => .ok none
      | some base => do
          let root ← resolveRoot tree base
          let destination ← joinValidated root tombstone.relativePath
          .ok (some (root, destination))

def planTombstones (roots : LogicalRootMap) (tree : Tree) :
    List Path → List ManifestTombstone → Except StateError (List PlannedTombstone)
  | _, [] => .ok []
  | seen, tombstone :: rest => do
      match ← resolveTombstone roots tree tombstone with
      | none => planTombstones roots tree seen rest
      | some (root, destination) => do
          validateParentChain tree root destination
          if destination ∈ seen then
            .error (.invalid ("manifest entry and tombstone both resolve to " ++
              display destination))
          else do
            let metadata ← lstatIfPresent tree destination
            let others ← planTombstones roots tree (destination :: seen) rest
            .ok (if metadata = some .directory then others
              else ⟨root, destination⟩ :: others)

def preflight (setup : RestoreSetup) (tree : Tree) (transaction : Transaction)
    (target : RestoreTarget) : Except StateError (List PlannedDestination × List PlannedTombstone) := do
  let planned ← planDestinations setup tree []
    ((entriesFor setup.plan.priorityPlan target).filter fun entry =>
      entry.manifestIndex ∉ transaction.publishedEntries)
  if target = .complete ∧ transaction.tombstonesApplied = false then do
    let tombstones ← planTombstones setup.roots tree
      (planned.map PlannedDestination.destination).reverse setup.plan.manifest.tombstones
    .ok (planned, tombstones)
  else .ok (planned, [])

def rollbackSources (tree : Tree) :
    List Path → Except StateError (List Path × List SymlinkRollback)
  | [] => .ok ([], [])
  | destination :: rest => do
      let metadata ← lstatIfPresent tree destination
      let (files, links) ← rollbackSources tree rest
      match metadata with
      | some (.symlink target) => .ok (files, ⟨destination, target⟩ :: links)
      | some (.file _ _) => .ok (destination :: files, links)
      | _ => .ok (files, links)

end Noland.Restore
