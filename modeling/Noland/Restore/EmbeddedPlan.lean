import Noland.Lib.Sorting
import Noland.Restore.Planner

/-!
`embed_restore_plan` writes the plan into the manifest, and the planner reads the priorities of
files back from it. Files that share their logical root and relative path share the priority that
is read back.
-/

namespace Noland.Restore

open Noland.Core Noland.Sorting

inductive Json where
  | null
  | bool (value : Bool)
  | number (value : Int)
  | string (value : String)
  | array (items : List Json)
  | object (fields : List (String × Json))

def Json.get (value : Json) (key : String) : Option Json :=
  match value with
  | .object fields => (fields.find? fun field => field.1 = key).map Prod.snd
  | _ => none

def Json.asArray : Json → Option (List Json)
  | .array items => some items
  | _ => none

def Json.asStr : Json → Option String
  | .string value => some value
  | _ => none

def priorityName : RestorePriority → String
  | .prerequisite => "prerequisite"
  | .critical => "critical"
  | .soon => "soon"
  | .background => "background"

def priorityNamed (name : String) : Option RestorePriority :=
  if name = "prerequisite" then some .prerequisite
  else if name = "critical" then some .critical
  else if name = "soon" then some .soon
  else if name = "background" then some .background
  else none

/-- The name alone, or an object with the name and no content. -/
def priorityFromJson : Json → Option RestorePriority
  | .string name => priorityNamed name
  | .object [(name, .null)] => priorityNamed name
  | _ => none

def readHint (value : Json) : Option RestorePlanHint := do
  let logicalRoot ← (← value.get "logical_root").asStr
  let relativePath ← (← value.get "relative_path").asStr
  let priority ← priorityFromJson (← value.get "priority")
  some ⟨logicalRoot, relativePath, priority⟩

def durableHints (restorePlan : Json) : List RestorePlanHint :=
  (((restorePlan.get "files").bind Json.asArray).getD []).filterMap readHint

def pathFields (file : ManifestFile) : List (String × Json) :=
  [("logical_root", .string file.logicalRoot), ("relative_path", .string file.relativePath)]

def planRow (entry : RestorePlanEntry) : Json :=
  .object (pathFields entry.file ++ [("priority", .string (priorityName entry.priority))])

def prefetchRow (entry : RestorePlanEntry) : Json :=
  .object (pathFields entry.file)

/-- The value that `embed_restore_plan` leaves in the manifest. -/
def embeddedPlan (manifest : BundleManifest) (mode : RestoreMode) : Json :=
  let plan := planRestorePriorities manifest mode
  .object [("version", .number 1), ("source", .string "classification_v1"),
    ("files", .array (plan.map planRow)),
    ("startup_prefetch", .array ((entriesFor plan .readyToLaunch).map prefetchRow)),
    ("soon_prefetch", .array ((plan.filter fun entry => entry.priority = .soon).map prefetchRow))]

/-- A manifest whose `restore_plan` is the given value. -/
def withRestorePlan (manifest : BundleManifest) (restorePlan : Json) : BundleManifest :=
  { manifest with restorePlan := durableHints restorePlan }

theorem priorityNamed_priorityName (priority : RestorePriority) :
    priorityNamed (priorityName priority) = some priority := by
  cases priority <;> rfl

theorem readHint_planRow (entry : RestorePlanEntry) : readHint (planRow entry) =
    some ⟨entry.file.logicalRoot, entry.file.relativePath, entry.priority⟩ := by
  simp [readHint, planRow, pathFields, Json.get, Json.asStr, priorityFromJson,
    priorityNamed_priorityName]

theorem withRestorePlan_embeddedPlan (manifest : BundleManifest) (mode : RestoreMode) :
    withRestorePlan manifest (embeddedPlan manifest mode) = embedRestorePlan manifest mode := by
  have rows : ∀ plan : List RestorePlanEntry, (plan.map planRow).filterMap readHint =
      plan.map fun entry => ⟨entry.file.logicalRoot, entry.file.relativePath, entry.priority⟩ := by
    intro plan
    rw [List.filterMap_map, ← List.filterMap_eq_map]
    congr 1
    funext entry
    exact readHint_planRow entry
  simp only [withRestorePlan, embedRestorePlan, durableHints, embeddedPlan, Json.get]
  simp [Json.asArray, rows]

theorem RestorePlanEntry.le_iff {left right : RestorePlanEntry} : left.le right = true ↔
    thenBy (fun entry : RestorePlanEntry => entry.priority.rank)
      (thenBy (fun entry => entry.file.logicalRoot)
        (thenBy (fun entry => entry.file.relativePath)
          (thenBy (fun entry => entry.file.fileType)
            fun left right => left.manifestIndex ≤ right.manifestIndex))) left right := by
  unfold RestorePlanEntry.le
  apply ite_ne_iff_thenBy (fun entry : RestorePlanEntry => entry.priority.rank) decide_eq_true_iff
  apply ite_ne_iff_thenBy (fun entry : RestorePlanEntry => entry.file.logicalRoot)
    decide_eq_true_iff
  apply ite_ne_iff_thenBy (fun entry : RestorePlanEntry => entry.file.relativePath)
    decide_eq_true_iff
  exact ite_ne_iff_thenBy (fun entry : RestorePlanEntry => entry.file.fileType)
    decide_eq_true_iff decide_eq_true_iff

theorem RestorePlanEntry.le_total (left right : RestorePlanEntry) :
    left.le right = true ∨ right.le left = true := by
  rw [le_iff, le_iff]
  apply thenBy_total
  apply thenBy_total
  apply thenBy_total
  apply thenBy_total
  intro left right
  exact Nat.le_total _ _

theorem RestorePlanEntry.le_trans {first second third : RestorePlanEntry}
    (lower : first.le second = true) (upper : second.le third = true) :
    first.le third = true := by
  rw [le_iff] at *
  refine thenBy_trans ?_ lower upper
  intro first second third
  apply thenBy_trans
  intro first second third
  apply thenBy_trans
  intro first second third
  apply thenBy_trans
  intro first second third
  exact Nat.le_trans

theorem planRestorePriorities_pairwise (manifest : BundleManifest) (mode : RestoreMode) :
    (planRestorePriorities manifest mode).Pairwise fun left right => left.le right = true :=
  pairwise_sorted RestorePlanEntry.le_total
    (fun _ _ _ lower upper => RestorePlanEntry.le_trans lower upper) _

theorem entriesFor_prefix {near far : RestoreTarget}
    (further : ∀ priority, near.includes priority = true → far.includes priority = true)
    (manifest : BundleManifest) (mode : RestoreMode) :
    entriesFor (planRestorePriorities manifest mode) near <+:
      entriesFor (planRestorePriorities manifest mode) far := by
  apply filter_prefix _ (fun entry => further entry.priority)
    (planRestorePriorities_pairwise manifest mode)
  intro left right ordered included
  have lower := RestorePlanEntry.rank_le ordered
  cases near with
  | readyToLaunch =>
      simp only [RestoreTarget.includes, decide_eq_true_eq] at included ⊢
      omega
  | soon =>
      simp only [RestoreTarget.includes, decide_eq_true_eq] at included ⊢
      omega
  | complete => rfl

theorem mem_selectedEntries {manifest : BundleManifest} {mode : RestoreMode}
    {entry : RestorePlanEntry} : entry ∈ selectedEntries manifest mode ↔
      manifest.files[entry.manifestIndex]? = some entry.file ∧
        includeFile mode entry.file = true ∧
        entry.priority = (durablePriority manifest entry.file).getD (restorePriority entry.file) := by
  unfold selectedEntries
  rw [List.mem_map]
  constructor
  · rintro ⟨⟨file, index⟩, inside, rfl⟩
    obtain ⟨indexed, included⟩ := List.mem_filter.mp inside
    exact ⟨List.mk_mem_zipIdx_iff_getElem?.mp indexed, included, rfl⟩
  · rintro ⟨at_index, included, tier⟩
    refine ⟨(entry.file, entry.manifestIndex), ?_, ?_⟩
    · exact List.mem_filter.mpr ⟨List.mk_mem_zipIdx_iff_getElem?.mpr at_index, included⟩
    · show RestorePlanEntry.mk _ _ _ = entry
      rw [← tier]

theorem manifestIndex_nodup (manifest : BundleManifest) (mode : RestoreMode) :
    ((planRestorePriorities manifest mode).map RestorePlanEntry.manifestIndex).Nodup := by
  have selected : ((selectedEntries manifest mode).map RestorePlanEntry.manifestIndex).Nodup := by
    unfold selectedEntries
    rw [List.map_map]
    have indices : (manifest.files.zipIdx.map Prod.snd).Nodup := by
      rw [List.zipIdx_map_snd]
      exact List.nodup_range'
    exact indices.sublist (List.filter_sublist.map Prod.snd)
  exact ((List.perm_insertionSort _ _).map _).nodup_iff.mpr selected

def AgreeOnPaths (plan : List RestorePlanEntry) : Prop :=
  ∀ left ∈ plan, ∀ right ∈ plan, left.file.logicalRoot = right.file.logicalRoot →
    left.file.relativePath = right.file.relativePath → left.priority = right.priority

theorem durablePriority_embedRestorePlan {manifest : BundleManifest} {mode : RestoreMode}
    {entry : RestorePlanEntry} (member : entry ∈ planRestorePriorities manifest mode) :
    ∃ other ∈ planRestorePriorities manifest mode,
      other.file.logicalRoot = entry.file.logicalRoot ∧
        other.file.relativePath = entry.file.relativePath ∧
        durablePriority (embedRestorePlan manifest mode) entry.file = some other.priority := by
  have found : ((embedRestorePlan manifest mode).restorePlan.reverse.find? fun hint =>
      hint.logicalRoot = entry.file.logicalRoot &&
        hint.relativePath = entry.file.relativePath).isSome := by
    rw [List.find?_isSome]
    refine ⟨⟨entry.file.logicalRoot, entry.file.relativePath, entry.priority⟩, ?_, by simp⟩
    rw [List.mem_reverse]
    exact List.mem_map.mpr ⟨entry, member, rfl⟩
  obtain ⟨hint, looked⟩ := Option.isSome_iff_exists.mp found
  have inside := List.mem_reverse.mp (List.mem_of_find?_eq_some looked)
  obtain ⟨other, among, rfl⟩ := List.mem_map.mp inside
  have same := List.find?_some looked
  simp only [Bool.and_eq_true, decide_eq_true_eq] at same
  refine ⟨other, among, same.1, same.2, ?_⟩
  rw [durablePriority, looked]
  rfl

theorem durablePriority_congr {left right : ManifestFile} (manifest : BundleManifest)
    (root : left.logicalRoot = right.logicalRoot) (path : left.relativePath = right.relativePath) :
    durablePriority manifest left = durablePriority manifest right := by
  rw [durablePriority, durablePriority, root, path]

theorem plan_embedRestorePlan_iff (manifest : BundleManifest) (mode : RestoreMode) :
    planRestorePriorities (embedRestorePlan manifest mode) mode =
        planRestorePriorities manifest mode ↔
      AgreeOnPaths (planRestorePriorities manifest mode) := by
  constructor
  · intro same left of_left right of_right root path
    have tier : ∀ entry ∈ planRestorePriorities manifest mode,
        some entry.priority = durablePriority (embedRestorePlan manifest mode) entry.file := by
      intro entry member
      obtain ⟨_, _, _, _, read⟩ := durablePriority_embedRestorePlan member
      rw [← same, mem_planRestorePriorities, mem_selectedEntries, read] at member
      rw [read, member.2.2]
      rfl
    have read : some left.priority = some right.priority := by
      rw [tier left of_left, tier right of_right, durablePriority_congr _ root path]
    exact Option.some.inj read
  · intro agree
    have selected : selectedEntries (embedRestorePlan manifest mode) mode =
        selectedEntries manifest mode := by
      unfold selectedEntries
      rw [embedRestorePlan_files]
      apply List.map_congr_left
      rintro ⟨file, index⟩ inside
      have member : (⟨index, file, (durablePriority manifest file).getD (restorePriority file)⟩ :
          RestorePlanEntry) ∈ planRestorePriorities manifest mode :=
        mem_planRestorePriorities.mpr (List.mem_map.mpr ⟨(file, index), inside, rfl⟩)
      obtain ⟨other, among, root, path, read⟩ := durablePriority_embedRestorePlan member
      have tier := agree other among _ member root path
      dsimp only at read tier ⊢
      rw [read, tier]
      rfl
    rw [planRestorePriorities, selected]
    rfl

theorem embeddedPlan_congr {manifest other : BundleManifest} {mode : RestoreMode}
    (same : planRestorePriorities manifest mode = planRestorePriorities other mode) :
    embeddedPlan manifest mode = embeddedPlan other mode := by
  rw [embeddedPlan, embeddedPlan, same]

theorem embeddedPlan_idempotent_iff (manifest : BundleManifest) (mode : RestoreMode) :
    embeddedPlan (embedRestorePlan manifest mode) mode = embeddedPlan manifest mode ↔
      AgreeOnPaths (planRestorePriorities manifest mode) := by
  constructor
  · intro same
    have rows : embedRestorePlan (embedRestorePlan manifest mode) mode =
        embedRestorePlan manifest mode := by
      rw [← withRestorePlan_embeddedPlan (embedRestorePlan manifest mode), same,
        ← withRestorePlan_embeddedPlan manifest]
      rfl
    -- After a second embedding files that share a path share the priority that was read.
    intro left of_left right of_right root path
    have hint : ∀ entry ∈ planRestorePriorities manifest mode,
        some entry.priority = durablePriority (embedRestorePlan manifest mode) entry.file := by
      intro entry member
      have written : (⟨entry.file.logicalRoot, entry.file.relativePath, entry.priority⟩ :
          RestorePlanHint) ∈ (embedRestorePlan manifest mode).restorePlan :=
        List.mem_map.mpr ⟨entry, member, rfl⟩
      rw [← rows] at written
      obtain ⟨again, planned, equal⟩ := List.mem_map.mp written
      obtain ⟨root, path, priority⟩ := RestorePlanHint.mk.injEq _ _ _ _ _ _ ▸ equal
      obtain ⟨_, _, _, _, read⟩ := durablePriority_embedRestorePlan member
      rw [mem_planRestorePriorities, mem_selectedEntries, durablePriority_congr _ root path,
        read] at planned
      rw [read, ← priority, planned.2.2]
      rfl
    have read : some left.priority = some right.priority := by
      rw [hint left of_left, hint right of_right, durablePriority_congr _ root path]
    exact Option.some.inj read
  · intro agree
    exact embeddedPlan_congr ((plan_embedRestorePlan_iff manifest mode).mpr agree)

structure PlanExact (files : List ManifestFile) (mode : RestoreMode)
    (plan : List RestorePlanEntry) : Prop where
  positions : ∀ entry ∈ plan, files[entry.manifestIndex]? = some entry.file
  selected : ∀ index, index ∈ plan.map RestorePlanEntry.manifestIndex ↔
    ∃ file, files[index]? = some file ∧ includeFile mode file = true
  once : (plan.map RestorePlanEntry.manifestIndex).Nodup
  tiers : plan.Pairwise fun left right => left.priority.rank ≤ right.priority.rank
  milestones : ∀ near far : RestoreTarget,
    (∀ priority, near.includes priority = true → far.includes priority = true) →
      entriesFor plan near <+: entriesFor plan far

theorem planExact_planRestorePriorities (manifest : BundleManifest) (mode : RestoreMode) :
    PlanExact manifest.files mode (planRestorePriorities manifest mode) where
  positions := by
    intro entry member
    exact (mem_selectedEntries.mp (mem_planRestorePriorities.mp member)).1
  selected := by
    intro index
    rw [List.mem_map]
    constructor
    · rintro ⟨entry, member, rfl⟩
      obtain ⟨at_index, included, _⟩ := mem_selectedEntries.mp (mem_planRestorePriorities.mp member)
      exact ⟨entry.file, at_index, included⟩
    · rintro ⟨file, at_index, included⟩
      refine ⟨⟨index, file, (durablePriority manifest file).getD (restorePriority file)⟩, ?_, rfl⟩
      rw [mem_planRestorePriorities, mem_selectedEntries]
      exact ⟨at_index, included, rfl⟩
  once := manifestIndex_nodup manifest mode
  tiers := (planRestorePriorities_pairwise manifest mode).imp RestorePlanEntry.rank_le
  milestones := fun _ _ further => entriesFor_prefix further manifest mode

/-- Whatever plan the manifest holds, each selected file is planned once, in the order of the
tiers. Writing the plan back keeps it, and again changes nothing, exactly if planned files with
the same root and path have the same priority. -/
theorem restore_plan_exact (manifest : BundleManifest) (restorePlan : Json) (mode : RestoreMode) :
    PlanExact manifest.files mode
        (planRestorePriorities (withRestorePlan manifest restorePlan) mode) ∧
      (planRestorePriorities (withRestorePlan manifest
            (embeddedPlan (withRestorePlan manifest restorePlan) mode)) mode =
          planRestorePriorities (withRestorePlan manifest restorePlan) mode ↔
        AgreeOnPaths (planRestorePriorities (withRestorePlan manifest restorePlan) mode)) ∧
      (embeddedPlan (withRestorePlan manifest
            (embeddedPlan (withRestorePlan manifest restorePlan) mode)) mode =
          embeddedPlan (withRestorePlan manifest restorePlan) mode ↔
        AgreeOnPaths (planRestorePriorities (withRestorePlan manifest restorePlan) mode)) := by
  have stored : withRestorePlan manifest
      (embeddedPlan (withRestorePlan manifest restorePlan) mode) =
        embedRestorePlan (withRestorePlan manifest restorePlan) mode :=
    withRestorePlan_embeddedPlan (withRestorePlan manifest restorePlan) mode
  rw [stored]
  exact ⟨planExact_planRestorePriorities (withRestorePlan manifest restorePlan) mode,
    plan_embedRestorePlan_iff _ mode, embeddedPlan_idempotent_iff _ mode⟩

/-- Two entries for one path, a saved game and a cache. -/
def sharedPath : BundleManifest where
  bundleId := ⟨"00000000-0000-0000-0000-000000000001", Eq.refl true⟩
  commitId := ⟨"00000000-0000-0000-0000-000000000002", Eq.refl true⟩
  app := { appId := ⟨"app"⟩, displayName := "app" }
  source :=
    { instanceId := ⟨"00000000-0000-0000-0000-000000000003", Eq.refl true⟩, capturedAt := 0 }
  mode := .completeApplication
  files :=
    [{ logicalRoot := "HOME", relativePath := "save", fileType := "directory", size := 0,
       fileHash := "", persistenceClass := .persistentState, semanticRole := .userState },
      { logicalRoot := "HOME", relativePath := "save", fileType := "file", size := 0,
        fileHash := "", persistenceClass := .ephemeral, semanticRole := .cache }]

theorem plan_of_shared_path_changes :
    planRestorePriorities (withRestorePlan sharedPath
        (embeddedPlan (withRestorePlan sharedPath .null) .completeApplication))
          .completeApplication ≠
      planRestorePriorities (withRestorePlan sharedPath .null) .completeApplication := by
  decide

end Noland.Restore
