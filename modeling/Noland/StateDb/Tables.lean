import Mathlib.Data.String.Basic
import Mathlib.Data.List.Sort
import Noland.Core.Manifest

/-!
The tables that a backup reads and writes, as lists of rows. `append_app_mutation` folds an
observation into a pending row of the same app, path, kind and previous path. Columns that no
modelled function reads are left out.
-/

namespace Noland.StateDb

open Noland.Core

inductive AppMutationKind where
  | create
  | modify
  | delete
  | rename
  | metadata
  deriving DecidableEq

structure AppMutationRecord where
  mutationId : Uuid
  appId : AppId
  path : String
  previousPath : Option String := none
  kind : AppMutationKind
  observedAt : Timestamp
  processedAt : Option Timestamp := none
  deriving DecidableEq

namespace AppMutationRecord

def pending (row : AppMutationRecord) : Bool := row.processedAt.isNone

def coalesces (row mutation : AppMutationRecord) : Bool :=
  row.pending && row.appId = mutation.appId && row.path = mutation.path &&
    row.kind = mutation.kind && row.previousPath = mutation.previousPath

/-- `ORDER BY observed_at_ms ASC, mutation_id ASC`. -/
def oldestFirst (left right : AppMutationRecord) : Bool :=
  left.observedAt < right.observedAt ||
    (left.observedAt = right.observedAt && left.mutationId.text ≤ right.mutationId.text)

/-- `ORDER BY observed_at_ms DESC, mutation_id ASC`. -/
def newestFirst (left right : AppMutationRecord) : Bool :=
  right.observedAt < left.observedAt ||
    (left.observedAt = right.observedAt && left.mutationId.text ≤ right.mutationId.text)

end AppMutationRecord

def existingMutation (rows : List AppMutationRecord) (mutation : AppMutationRecord) :
    Option AppMutationRecord :=
  ((rows.filter fun row => row.coalesces mutation).insertionSort
    fun left right => left.newestFirst right).head?

def appendAppMutation (rows : List AppMutationRecord) (mutation : AppMutationRecord) :
    Bool × List AppMutationRecord :=
  match existingMutation rows mutation with
  | some existing =>
      (false, rows.map fun row =>
        if row.mutationId = existing.mutationId ∧ row.pending then
          { row with observedAt := mutation.observedAt }
        else row)
  | none =>
      if rows.any fun row => row.mutationId = mutation.mutationId then (false, rows)
      else (true, rows ++ [mutation])

def mutationLimit : Nat := 10000

def pendingAppMutations (rows : List AppMutationRecord) (appId : AppId) (limit : Nat) :
    List AppMutationRecord :=
  ((rows.filter fun row => row.appId = appId && row.pending).insertionSort
    fun left right => left.oldestFirst right).take (min limit mutationLimit)

def markAppMutationsProcessed (rows : List AppMutationRecord) (ids : List Uuid)
    (processedAt : Timestamp) : List AppMutationRecord :=
  rows.map fun row =>
    if row.mutationId ∈ ids ∧ row.pending then { row with processedAt := some processedAt }
    else row

/-- Some row still asks for the path to be looked at. -/
def pendingMutation (rows : List AppMutationRecord) (appId : AppId) (path : String) : Prop :=
  ∃ row ∈ rows, row.appId = appId ∧ row.path = path ∧ row.pending = true

instance (rows : List AppMutationRecord) (appId : AppId) (path : String) :
    Decidable (pendingMutation rows appId path) :=
  inferInstanceAs (Decidable (∃ row ∈ rows, _))

structure DirtyApp where
  appId : AppId
  requiresReconciliation : Bool
  deriving DecidableEq

structure DirtyRootRecord where
  appId : AppId
  canonicalRoot : String
  logicalRoot : Option String
  mutationCount : Nat
  requiresReconciliation : Bool
  deriving DecidableEq

def markDirtyApp (rows : List DirtyApp) (appId : AppId) (requiresReconciliation : Bool) :
    List DirtyApp :=
  if rows.any fun row => row.appId = appId then
    rows.map fun row =>
      if row.appId = appId then
        { row with requiresReconciliation := row.requiresReconciliation || requiresReconciliation }
      else row
  else rows ++ [⟨appId, requiresReconciliation⟩]

def markDirtyPath (rows : List (AppId × Nat)) (appId : AppId) (pathId : Nat) :
    List (AppId × Nat) :=
  if (appId, pathId) ∈ rows then rows else rows ++ [(appId, pathId)]

def markDirtyRoot (rows : List DirtyRootRecord) (root : DirtyRootRecord) :
    List DirtyRootRecord :=
  if rows.any fun row => row.appId = root.appId && row.canonicalRoot = root.canonicalRoot then
    rows.map fun row =>
      if row.appId = root.appId ∧ row.canonicalRoot = root.canonicalRoot then
        { row with
          logicalRoot := root.logicalRoot.or row.logicalRoot
          mutationCount := row.mutationCount + 1
          requiresReconciliation := row.requiresReconciliation || root.requiresReconciliation }
      else row
  else rows ++ [{ root with mutationCount := 1 }]

def clearReconciliationRequired (rows : List DirtyApp) (appId : AppId) : List DirtyApp :=
  rows.map fun row => if row.appId = appId then { row with requiresReconciliation := false } else row

inductive FileStateTrust where
  | trusted
  | verifyRequired
  | dirty
  | missing
  deriving DecidableEq

structure FileStateRecord where
  appId : AppId
  logicalRoot : String
  relativePath : String
  size : Nat
  mtimeNs : Int
  inode : Option Nat
  mountId : Option Nat := none
  contentHash : Option String
  trust : FileStateTrust
  deriving DecidableEq

namespace FileStateRecord

def key (state : FileStateRecord) : AppId × String × String :=
  (state.appId, state.logicalRoot, state.relativePath)

def fastIdentityMatches (state : FileStateRecord) (size : Nat) (mtimeNs : Int)
    (inode mountId : Option Nat) : Bool :=
  state.trust = .trusted && state.contentHash.isSome && state.size = size &&
    state.mtimeNs = mtimeNs && state.inode = inode && state.mountId = mountId

end FileStateRecord

def upsertFileState (rows : List FileStateRecord) (state : FileStateRecord) :
    List FileStateRecord :=
  rows.filter (fun row => row.key ≠ state.key) ++ [state]

def upsertFileStates (rows states : List FileStateRecord) : List FileStateRecord :=
  states.foldl upsertFileState rows

def setFileStateTrust (rows : List FileStateRecord) (appId : AppId) (root relative : String)
    (trust : FileStateTrust) : List FileStateRecord :=
  rows.map fun row => if row.key = (appId, root, relative) then { row with trust := trust } else row

/-- The row that `list_file_states`, collected into a map by path, has for one. -/
def indexedState (rows : List FileStateRecord) (appId : AppId) (key : String × String) :
    Option FileStateRecord :=
  rows.reverse.find? fun row => row.key = (appId, key.1, key.2)

/-- A chunk row of `remote_content_index`; the tag holds the pack index entry. -/
structure RemoteContentEntry where
  storageId : String
  contentHash : String
  entry : PackIndexEntry
  deriving DecidableEq

def upsertRemoteContentEntry (rows : List RemoteContentEntry) (entry : RemoteContentEntry) :
    List RemoteContentEntry :=
  rows.filter (fun row => row.storageId ≠ entry.storageId ∨ row.contentHash ≠ entry.contentHash) ++
    [entry]

def upsertRemoteContentEntries (rows entries : List RemoteContentEntry) :
    List RemoteContentEntry :=
  entries.foldl upsertRemoteContentEntry rows

section Journal

variable {rows : List AppMutationRecord} {mutation row : AppMutationRecord}

theorem existingMutation_some {existing : AppMutationRecord}
    (found : existingMutation rows mutation = some existing) :
    existing ∈ rows ∧ existing.coalesces mutation = true := by
  have member := List.mem_of_mem_head? (Option.mem_def.mpr found)
  rw [List.mem_insertionSort] at member
  exact List.mem_filter.mp member

theorem mem_appendAppMutation (member : row ∈ rows) (mutation : AppMutationRecord) :
    ∃ observedAt, { row with observedAt := observedAt } ∈ (appendAppMutation rows mutation).2 := by
  unfold appendAppMutation
  split
  · rename_i existing found
    by_cases same : row.mutationId = existing.mutationId ∧ row.pending = true
    · refine ⟨mutation.observedAt, List.mem_map.mpr ⟨row, member, ?_⟩⟩
      rw [if_pos same]
    · refine ⟨row.observedAt, List.mem_map.mpr ⟨row, member, ?_⟩⟩
      rw [if_neg same]
  · split
    · exact ⟨row.observedAt, member⟩
    · exact ⟨row.observedAt, List.mem_append_left _ member⟩

theorem mem_markAppMutationsProcessed {ids : List Uuid} {now : Timestamp} (member : row ∈ rows)
    (other : row.mutationId ∉ ids) : row ∈ markAppMutationsProcessed rows ids now := by
  refine List.mem_map.mpr ⟨row, member, ?_⟩
  rw [if_neg fun both => other both.1]

theorem pending_of_mem_pendingAppMutations {appId : AppId} {limit : Nat}
    (member : row ∈ pendingAppMutations rows appId limit) :
    row ∈ rows ∧ row.appId = appId ∧ row.pending = true := by
  have inside := List.mem_of_mem_take member
  rw [List.mem_insertionSort] at inside
  have kept := List.mem_filter.mp inside
  simp only [Bool.and_eq_true, decide_eq_true_eq] at kept
  exact ⟨kept.1, kept.2.1, kept.2.2⟩

end Journal

section RemoteContent

variable {rows entries : List RemoteContentEntry} {row : RemoteContentEntry}

theorem mem_upsertRemoteContentEntries
    (member : row ∈ upsertRemoteContentEntries rows entries) : row ∈ rows ∨ row ∈ entries := by
  unfold upsertRemoteContentEntries at member
  induction entries generalizing rows with
  | nil => exact Or.inl member
  | cons entry rest ih =>
      rcases ih member with before | inside
      · unfold upsertRemoteContentEntry at before
        rcases List.mem_append.mp before with old | new
        · exact Or.inl (List.mem_filter.mp old).1
        · exact Or.inr (List.mem_singleton.mp new ▸ List.mem_cons_self)
      · exact Or.inr (List.mem_cons_of_mem _ inside)

end RemoteContent

end Noland.StateDb
