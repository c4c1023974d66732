import Mathlib.Data.String.Basic
import Mathlib.Data.List.Sort
import Noland.Core.Manifest

/-!
Which files of a manifest a restore selects, and in which order it publishes
them: by tier first, so that the tiers of a milestone come before the others.
-/

namespace Noland.Restore

open Noland.Core

inductive RestoreMode where
  | personalState
  | completeApplication
  | custom
  deriving DecidableEq

inductive RestoreTarget where
  | readyToLaunch
  | soon
  | complete
  deriving DecidableEq

def RestoreTarget.includes : RestoreTarget → RestorePriority → Bool
  | .readyToLaunch, priority => priority.rank ≤ RestorePriority.critical.rank
  | .soon, priority => priority.rank ≤ RestorePriority.soon.rank
  | .complete, _ => true

def includeFile : RestoreMode → ManifestFile → Bool
  | .completeApplication, _ | .custom, _ => true
  | .personalState, file =>
      file.persistenceClass = .persistentState || file.persistenceClass = .sharedState ||
        file.semanticRole = .userState || file.semanticRole = .secret

def restorePriority (file : ManifestFile) : RestorePriority :=
  match file.semanticRole with
  | .appContent | .sharedRuntime => .prerequisite
  | .userState | .secret => .critical
  | .cache | .temp | .os => .background
  | .unknown =>
      match file.persistenceClass with
      | .reconstructableApp => .prerequisite
      | .persistentState => .critical
      | .sharedState | .unknown => .soon
      | .baseImage | .ephemeral => .background

def durablePriority (manifest : BundleManifest) (file : ManifestFile) : Option RestorePriority :=
  (manifest.restorePlan.reverse.find? fun hint =>
    hint.logicalRoot = file.logicalRoot && hint.relativePath = file.relativePath).map
    RestorePlanHint.priority

structure RestorePlanEntry where
  manifestIndex : Nat
  file : ManifestFile
  priority : RestorePriority
  deriving DecidableEq

/-- The order of the plan: tier, logical root, relative path, file type and
position in the manifest. -/
def RestorePlanEntry.le (left right : RestorePlanEntry) : Bool :=
  if left.priority.rank ≠ right.priority.rank then left.priority.rank < right.priority.rank
  else if left.file.logicalRoot ≠ right.file.logicalRoot then
    left.file.logicalRoot < right.file.logicalRoot
  else if left.file.relativePath ≠ right.file.relativePath then
    left.file.relativePath < right.file.relativePath
  else if left.file.fileType ≠ right.file.fileType then left.file.fileType < right.file.fileType
  else left.manifestIndex ≤ right.manifestIndex

def selectedEntries (manifest : BundleManifest) (mode : RestoreMode) : List RestorePlanEntry :=
  ((manifest.files.zipIdx).filter fun (file, _) => includeFile mode file).map fun (file, index) =>
    ⟨index, file, (durablePriority manifest file).getD (restorePriority file)⟩

def planRestorePriorities (manifest : BundleManifest) (mode : RestoreMode) :
    List RestorePlanEntry :=
  (selectedEntries manifest mode).insertionSort fun left right => left.le right

def entriesFor (plan : List RestorePlanEntry) (target : RestoreTarget) : List RestorePlanEntry :=
  plan.filter fun entry => target.includes entry.priority

def embedRestorePlan (manifest : BundleManifest) (mode : RestoreMode) : BundleManifest :=
  { manifest with
    restorePlan := (planRestorePriorities manifest mode).map fun entry =>
      ⟨entry.file.logicalRoot, entry.file.relativePath, entry.priority⟩ }

theorem RestorePlanEntry.rank_le {left right : RestorePlanEntry} (ordered : left.le right = true) :
    left.priority.rank ≤ right.priority.rank := by
  unfold RestorePlanEntry.le at ordered
  split at ordered
  · exact Nat.le_of_lt (by simpa using ordered)
  · rename_i same
    exact Nat.le_of_eq (not_not.mp same)

theorem mem_planRestorePriorities {manifest : BundleManifest} {mode : RestoreMode}
    {entry : RestorePlanEntry} :
    entry ∈ planRestorePriorities manifest mode ↔ entry ∈ selectedEntries manifest mode := by
  unfold planRestorePriorities
  exact List.mem_insertionSort _

theorem file_of_mem_planRestorePriorities {manifest : BundleManifest} {mode : RestoreMode}
    {entry : RestorePlanEntry} (member : entry ∈ planRestorePriorities manifest mode) :
    entry.file ∈ manifest.files ∧ includeFile mode entry.file = true := by
  rw [mem_planRestorePriorities] at member
  obtain ⟨⟨file, index⟩, inside, rfl⟩ := List.mem_map.mp member
  obtain ⟨indexed, included⟩ := List.mem_filter.mp inside
  exact ⟨(List.mem_zipIdx' indexed).2 ▸ List.getElem_mem _, included⟩

@[simp] theorem embedRestorePlan_files (manifest : BundleManifest) (mode : RestoreMode) :
    (embedRestorePlan manifest mode).files = manifest.files := rfl

end Noland.Restore
