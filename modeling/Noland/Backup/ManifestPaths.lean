import Mathlib.Data.List.Count
import Mathlib.Data.List.TakeWhile
import Noland.Backup.Plan

/-!
The plan is followed for one key at a time: how many inherited entries and captures it has, and
whether it has a tombstone. A path that a pending mutation deletes or renames away and that exists
again keeps its tombstone.
-/

namespace Noland.Backup

open Noland.Core Noland.StateDb

def PathsDisjoint (files : List ManifestFile) (tombstones : List ManifestTombstone) : Prop :=
  (files.map fileKey).Nodup ∧
    ∀ key ∈ files.map fileKey, key ∉ tombstones.map tombstoneKey

instance (files : List ManifestFile) (tombstones : List ManifestTombstone) :
    Decidable (PathsDisjoint files tombstones) :=
  inferInstanceAs (Decidable (_ ∧ ∀ key ∈ files.map fileKey, _))

def Plan.entries (plan : Plan) (key : PathKey) : Nat := (plan.files.map fileKey).count key

def Plan.captures (plan : Plan) (key : PathKey) : Nat :=
  (plan.changed.map fun change => change.2.key).count key

def Plan.deletes (plan : Plan) (key : PathKey) : Prop := key ∈ plan.tombstones.map Prod.fst

theorem count_removeManifestFile (files : List ManifestFile) (removed key : PathKey) :
    ((removeManifestFile files removed).map fileKey).count key =
      if key = removed then 0 else (files.map fileKey).count key := by
  unfold removeManifestFile
  induction files with
  | nil => simp
  | cons file rest ih =>
      by_cases gone : fileKey file = removed
      · rw [List.filter_cons_of_neg (by simpa using gone), ih, List.map_cons, List.count_cons, gone]
        by_cases same : key = removed
        · simp [same]
        · have other : ¬ removed = key := fun equal => same equal.symm
          simp [same, other]
      · rw [List.filter_cons_of_pos (by simpa using gone), List.map_cons, List.count_cons, ih,
          List.map_cons, List.count_cons]
        by_cases same : key = removed
        · have other : ¬ fileKey file = key := fun equal => gone (equal.trans same)
          simp [same, gone]
        · simp [same]

theorem mem_insertTombstone {tombstones : List (PathKey × String)} {inserted key : PathKey}
    {reason : String} :
    key ∈ (insertTombstone tombstones inserted reason).map Prod.fst ↔
      key = inserted ∨ key ∈ tombstones.map Prod.fst := by
  unfold insertTombstone
  rw [List.map_append, List.mem_append]
  constructor
  · rintro (old | new)
    · obtain ⟨entry, inside, rfl⟩ := List.mem_map.mp old
      exact Or.inr (List.mem_map_of_mem (List.mem_filter.mp inside).1)
    · exact Or.inl (by simpa using new)
  · rintro (rfl | old)
    · exact Or.inr (by simp)
    · obtain ⟨entry, inside, rfl⟩ := List.mem_map.mp old
      by_cases same : entry.1 = inserted
      · exact Or.inr (by simp [same])
      · exact Or.inl (List.mem_map_of_mem (List.mem_filter.mpr ⟨inside, by simpa using same⟩))

theorem manifestFile_isSome_iff (files : List ManifestFile) (key : PathKey) :
    (manifestFile files key).isSome = true ↔ 0 < (files.map fileKey).count key := by
  unfold manifestFile
  rw [List.count_pos_iff, List.find?_isSome]
  simp [List.mem_map]

theorem fileKey_of_manifestFile {files : List ManifestFile} {key : PathKey} {file : ManifestFile}
    (found : manifestFile files key = some file) : fileKey file = key := by
  have same := List.find?_some found
  simpa using same

section Input

variable (input : BackupInput)

namespace BackupInput

def inheritedFiles : List ManifestFile := input.parentFiles.filter input.context.inScope

def deleted (key : PathKey) : Prop :=
  ∃ mutation ∈ input.pending, key ∈ input.context.removedKeys mutation

def outOfScope (key : PathKey) : Prop :=
  ∃ file ∈ input.parentFiles, input.context.inScope file = false ∧ fileKey file = key

instance (key : PathKey) : Decidable (input.deleted key) :=
  inferInstanceAs (Decidable (∃ mutation ∈ input.pending, _))

def inheritedPlan : Plan :=
  input.pending.foldl input.context.applyMutation (input.context.inherit input.parentFiles)

end BackupInput

theorem deletes_inherit (context : PlanContext) (files : List ManifestFile) (key : PathKey) :
    (context.inherit files).deletes key ↔
      ∃ file ∈ files, context.inScope file = false ∧ fileKey file = key := by
  have fold : ∀ (dropped : List ManifestFile) (tombstones : List (PathKey × String)),
      key ∈ (dropped.foldl (fun tombstones file =>
        insertTombstone tombstones (fileKey file) outsideScopeReason) tombstones).map Prod.fst ↔
        key ∈ tombstones.map Prod.fst ∨ ∃ file ∈ dropped, fileKey file = key := by
    intro dropped
    induction dropped with
    | nil => simp
    | cons file rest ih =>
        intro tombstones
        rw [List.foldl_cons, ih, mem_insertTombstone]
        constructor
        · rintro ((rfl | old) | ⟨other, inside, same⟩)
          · exact Or.inr ⟨file, List.mem_cons_self, rfl⟩
          · exact Or.inl old
          · exact Or.inr ⟨other, List.mem_cons_of_mem _ inside, same⟩
        · rintro (old | ⟨other, inside, same⟩)
          · exact Or.inl (Or.inr old)
          · rcases List.mem_cons.mp inside with rfl | later
            · exact Or.inl (Or.inl same.symm)
            · exact Or.inr ⟨other, later, same⟩
  unfold Plan.deletes PlanContext.inherit
  rw [fold]
  simp [and_assoc]

theorem foldl_removeKey (keys : List PathKey) (plan : Plan) (key : PathKey) :
    ((keys.foldl PlanContext.removeKey plan).entries key =
      if key ∈ keys then 0 else plan.entries key) ∧
    ((keys.foldl PlanContext.removeKey plan).deletes key ↔ key ∈ keys ∨ plan.deletes key) ∧
    (keys.foldl PlanContext.removeKey plan).changed = plan.changed := by
  induction keys generalizing plan with
  | nil => simp
  | cons removed rest ih =>
      obtain ⟨entries, deletes, changed⟩ := ih (PlanContext.removeKey plan removed)
      rw [List.foldl_cons]
      refine ⟨?_, ?_, changed⟩
      · rw [entries]
        have one : (PlanContext.removeKey plan removed).entries key =
            if key = removed then 0 else plan.entries key :=
          count_removeManifestFile plan.files removed key
        rw [one]
        by_cases same : key = removed
        · simp [same]
        · simp [same]
      · rw [deletes]
        have one : (PlanContext.removeKey plan removed).deletes key ↔
            key = removed ∨ plan.deletes key := mem_insertTombstone
        rw [one, List.mem_cons, or_left_comm, or_assoc]

theorem foldl_applyMutation (context : PlanContext) (pending : List AppMutationRecord)
    (plan : Plan) (key : PathKey) :
    ((pending.foldl context.applyMutation plan).entries key =
      if ∃ mutation ∈ pending, key ∈ context.removedKeys mutation then 0 else plan.entries key) ∧
    ((pending.foldl context.applyMutation plan).deletes key ↔
      (∃ mutation ∈ pending, key ∈ context.removedKeys mutation) ∨ plan.deletes key) ∧
    (pending.foldl context.applyMutation plan).changed = plan.changed := by
  induction pending generalizing plan with
  | nil => simp
  | cons mutation rest ih =>
      obtain ⟨entries, deletes, changed⟩ := ih (context.applyMutation plan mutation)
      obtain ⟨one_entries, one_deletes, one_changed⟩ :=
        foldl_removeKey (context.removedKeys mutation) plan key
      rw [List.foldl_cons]
      refine ⟨?_, ?_, changed.trans one_changed⟩
      · rw [entries, PlanContext.applyMutation, one_entries]
        by_cases here : key ∈ context.removedKeys mutation
        · simp [here]
        · simp [here]
      · rw [deletes, PlanContext.applyMutation, one_deletes]
        rw [List.exists_mem_cons_iff, or_left_comm, or_assoc]

theorem entries_inheritedPlan (key : PathKey) :
    input.inheritedPlan.entries key =
      if input.deleted key then 0 else (input.inheritedFiles.map fileKey).count key := by
  unfold BackupInput.inheritedPlan
  rw [(foldl_applyMutation input.context input.pending _ key).1]
  rfl

theorem deletes_inheritedPlan (key : PathKey) :
    input.inheritedPlan.deletes key ↔ input.deleted key ∨ input.outOfScope key := by
  unfold BackupInput.inheritedPlan
  rw [(foldl_applyMutation input.context input.pending _ key).2.1, deletes_inherit]
  rfl

theorem changed_inheritedPlan : input.inheritedPlan.changed = [] := by
  unfold BackupInput.inheritedPlan
  rw [(foldl_applyMutation input.context input.pending _ ("", "")).2.2]
  rfl

namespace BackupInput

def keyOf (candidate : Candidate) : PathKey := (input.context.logicalOf candidate).key

def claimed (key : PathKey) : List Candidate :=
  input.candidates.filter fun candidate => input.keyOf candidate = key

def kept (candidate : Candidate) : Bool :=
  (input.node candidate).isSome && input.context.keepsContent candidate

def identical (candidate : Candidate) : Bool :=
  input.kept candidate &&
    (input.node candidate).any (input.context.unchanged (input.keyOf candidate))

def settleOne (counts : Nat × Nat) (candidate : Candidate) : Nat × Nat :=
  if 0 < counts.1 ∧ input.identical candidate = true then (1, counts.2)
  else if input.kept candidate then (0, counts.2 + 1)
  else (0, counts.2)

end BackupInput

section Actions

variable (context : PlanContext) (plan : Plan) (candidate : Candidate)

def PlanContext.CandidateAction.reuses : PlanContext.CandidateAction → Bool
  | .reuse _ => true
  | _ => false

theorem entries_applyAction {action : PlanContext.CandidateAction}
    (fits : ∀ file, action = .reuse file → fileKey file = (context.logicalOf candidate).key)
    (key : PathKey) :
    (context.applyAction plan candidate action).entries key =
      if key = (context.logicalOf candidate).key then (if action.reuses then 1 else 0)
      else plan.entries key := by
  have removed := count_removeManifestFile plan.files (context.logicalOf candidate).key key
  cases action with
  | missing | skip | capture => exact removed
  | reuse inherited =>
      have own := fits inherited rfl
      show ((removeManifestFile plan.files (context.logicalOf candidate).key ++
        [inherited]).map fileKey).count key = _
      rw [List.map_append, List.count_append, removed, List.map_singleton, own]
      by_cases same : key = (context.logicalOf candidate).key
      · simp [same, PlanContext.CandidateAction.reuses]
      · have other : ¬ (context.logicalOf candidate).key = key := fun equal => same equal.symm
        simp [same, other, Plan.entries]

theorem captures_applyAction (action : PlanContext.CandidateAction) (key : PathKey) :
    (context.applyAction plan candidate action).captures key =
      plan.captures key +
        if action = .capture ∧ key = (context.logicalOf candidate).key then 1 else 0 := by
  cases action with
  | missing | skip | reuse inherited => simp [PlanContext.applyAction, Plan.captures]
  | capture =>
      show ((plan.changed ++ [(candidate, context.logicalOf candidate)]).map
        fun change => change.2.key).count key = _
      rw [List.map_append, List.count_append, List.map_singleton, List.count_singleton]
      by_cases same : key = (context.logicalOf candidate).key
      · simp [same, Plan.captures]
      · have other : ¬ (context.logicalOf candidate).key = key := fun equal => same equal.symm
        simp [same, other, Plan.captures]

theorem deletes_applyAction (action : PlanContext.CandidateAction) (key : PathKey) :
    (context.applyAction plan candidate action).deletes key ↔
      (action = .missing ∧ context.hasParent = true ∧ key = (context.logicalOf candidate).key) ∨
        plan.deletes key := by
  cases action with
  | skip | reuse inherited | capture => simp [PlanContext.applyAction, Plan.deletes]
  | missing =>
      by_cases parent : context.hasParent = true
      · simp only [PlanContext.applyAction, Plan.deletes, parent, if_true, mem_insertTombstone]
        simp
      · simp [PlanContext.applyAction, Plan.deletes, parent]

end Actions

theorem candidateAction_cases (plan : Plan) (candidate : Candidate) :
    let action := input.context.candidateAction plan candidate (input.node candidate)
    (action = .missing ∧ input.node candidate = none ∧ input.kept candidate = false ∧
      input.identical candidate = false) ∨
    (action = .skip ∧ input.node candidate ≠ none ∧ input.kept candidate = false ∧
      input.identical candidate = false) ∨
    (∃ file, action = .reuse file ∧ input.node candidate ≠ none ∧
      input.kept candidate = true ∧ input.identical candidate = true ∧
      manifestFile plan.files (input.keyOf candidate) = some file) ∨
    (action = .capture ∧ input.node candidate ≠ none ∧ input.kept candidate = true ∧
      (input.identical candidate = false ∨
        manifestFile plan.files (input.keyOf candidate) = none)) := by
  intro action
  cases there : input.node candidate with
  | none =>
      refine Or.inl ⟨?_, rfl, ?_, ?_⟩
      · simp [action, PlanContext.candidateAction, there]
      · simp [BackupInput.kept, there]
      · simp [BackupInput.identical, BackupInput.kept, there]
  | some node =>
      refine Or.inr ?_
      cases keeps : input.context.keepsContent candidate with
      | false =>
          refine Or.inl ⟨?_, by simp, ?_, ?_⟩
          · simp [action, PlanContext.candidateAction, there, keeps]
          · simp [BackupInput.kept, keeps]
          · simp [BackupInput.identical, BackupInput.kept, keeps]
      | true =>
          refine Or.inr ?_
          have kept : input.kept candidate = true := by simp [BackupInput.kept, there, keeps]
          have identical : input.identical candidate =
              input.context.unchanged (input.keyOf candidate) node := by
            simp [BackupInput.identical, kept, there]
          rw [identical]
          cases found : manifestFile plan.files (input.keyOf candidate) with
          | none =>
              have found' : manifestFile plan.files (input.context.logicalOf candidate).key = none :=
                found
              refine Or.inr ⟨?_, by simp, kept, Or.inr rfl⟩
              simp [action, PlanContext.candidateAction, there, keeps, found']
          | some file =>
              have found' : manifestFile plan.files (input.context.logicalOf candidate).key =
                some file := found
              cases same : input.context.unchanged (input.keyOf candidate) node with
              | true =>
                  have same' : input.context.unchanged (input.context.logicalOf candidate).key node =
                    true := same
                  refine Or.inl ⟨file, ?_, by simp, kept, rfl, rfl⟩
                  simp [action, PlanContext.candidateAction, there, keeps, found', same']
              | false =>
                  have same' : input.context.unchanged (input.context.logicalOf candidate).key node =
                    false := same
                  refine Or.inr ⟨?_, by simp, kept, Or.inl rfl⟩
                  simp [action, PlanContext.candidateAction, there, keeps, found', same']

theorem planCandidate_counts (plan : Plan) (candidate : Candidate) (key : PathKey) :
    let later := input.context.planCandidate plan candidate (input.node candidate)
    (later.entries key, later.captures key) =
      (if input.keyOf candidate = key then
        input.settleOne (plan.entries key, plan.captures key) candidate
      else (plan.entries key, plan.captures key)) ∧
    (later.deletes key ↔
      (input.keyOf candidate = key ∧ input.context.hasParent = true ∧ input.node candidate = none) ∨
        plan.deletes key) := by
  intro later
  have cases_of := candidateAction_cases input plan candidate
  have fits : ∀ file, input.context.candidateAction plan candidate (input.node candidate) =
      .reuse file → fileKey file = (input.context.logicalOf candidate).key := by
    intro file reuses
    rcases cases_of with ⟨action, _⟩ | ⟨action, _⟩ | ⟨other, action, _, _, _, found⟩ | ⟨action, _⟩
    · rw [action] at reuses
      cases reuses
    · rw [action] at reuses
      cases reuses
    · rw [action] at reuses
      cases reuses
      exact fileKey_of_manifestFile found
    · rw [action] at reuses
      cases reuses
  have entries := entries_applyAction input.context plan candidate fits key
  have captures := captures_applyAction input.context plan candidate
    (input.context.candidateAction plan candidate (input.node candidate)) key
  have deletes := deletes_applyAction input.context plan candidate
    (input.context.candidateAction plan candidate (input.node candidate)) key
  have present := manifestFile_isSome_iff plan.files (input.keyOf candidate)
  have later_entries : later.entries key = _ := entries
  have later_captures : later.captures key = _ := captures
  have later_deletes : later.deletes key ↔ _ := deletes
  have own : (input.context.logicalOf candidate).key = input.keyOf candidate := rfl
  rw [later_entries, later_captures, later_deletes, own]
  by_cases same : input.keyOf candidate = key
  · subst same
    rcases cases_of with ⟨action, node, kept, identical⟩ | ⟨action, node, kept, identical⟩ |
      ⟨file, action, node, kept, identical, found⟩ | ⟨action, node, kept, different⟩
    · rw [action]
      simp [BackupInput.settleOne, kept, identical, node, PlanContext.CandidateAction.reuses]
    · rw [action]
      simp [BackupInput.settleOne, kept, identical, node, PlanContext.CandidateAction.reuses]
    · have some_entry : 0 < plan.entries (input.keyOf candidate) :=
        present.mp (by rw [found]; rfl)
      rw [action]
      simp [BackupInput.settleOne, some_entry, identical, node,
        PlanContext.CandidateAction.reuses]
    · have no_reuse : ¬ (0 < plan.entries (input.keyOf candidate) ∧
          input.identical candidate = true) := by
        rintro ⟨some_entry, identical⟩
        rcases different with changed | absent
        · rw [changed] at identical
          cases identical
        · have found := present.mpr some_entry
          rw [absent] at found
          cases found
      have settled : input.settleOne (plan.entries (input.keyOf candidate),
          plan.captures (input.keyOf candidate)) candidate =
          (0, plan.captures (input.keyOf candidate) + 1) := by
        rw [BackupInput.settleOne, if_neg no_reuse, if_pos kept]
      rw [action]
      simp [settled, node, PlanContext.CandidateAction.reuses]
  · have other : ¬ key = input.keyOf candidate := fun equal => same equal.symm
    simp [same, other]

theorem foldl_planCandidate_counts (candidates : List Candidate) (plan : Plan) (key : PathKey) :
    let later := candidates.foldl (fun plan candidate =>
      input.context.planCandidate plan candidate (input.node candidate)) plan
    (later.entries key, later.captures key) =
      (candidates.filter fun candidate => input.keyOf candidate = key).foldl input.settleOne
        (plan.entries key, plan.captures key) ∧
    (later.deletes key ↔
      (input.context.hasParent = true ∧ ∃ candidate ∈ candidates,
        input.keyOf candidate = key ∧ input.node candidate = none) ∨ plan.deletes key) := by
  induction candidates generalizing plan with
  | nil => simp
  | cons candidate rest ih =>
      obtain ⟨counts, deletes⟩ :=
        ih (input.context.planCandidate plan candidate (input.node candidate))
      obtain ⟨one_counts, one_deletes⟩ := planCandidate_counts input plan candidate key
      rw [List.foldl_cons]
      constructor
      · rw [counts, one_counts]
        by_cases same : input.keyOf candidate = key
        · rw [if_pos same, List.filter_cons_of_pos (by simpa using same), List.foldl_cons]
        · rw [if_neg same, List.filter_cons_of_neg (by simpa using same)]
      · rw [deletes, one_deletes, List.exists_mem_cons_iff]
        constructor
        · rintro (⟨parent, later⟩ | ⟨same, parent, gone⟩ | before)
          · exact Or.inl ⟨parent, Or.inr later⟩
          · exact Or.inl ⟨parent, Or.inl ⟨same, gone⟩⟩
          · exact Or.inr before
        · rintro (⟨parent, ⟨same, gone⟩ | later⟩ | before)
          · exact Or.inr (Or.inl ⟨same, parent, gone⟩)
          · exact Or.inl ⟨parent, later⟩
          · exact Or.inr (Or.inr before)

theorem kept_of_identical {candidate : Candidate} (identical : input.identical candidate = true) :
    input.kept candidate = true := by
  unfold BackupInput.identical at identical
  rw [Bool.and_eq_true] at identical
  exact identical.1

theorem foldl_settleOne_zero (candidates : List Candidate) (captures : Nat) :
    candidates.foldl input.settleOne (0, captures) =
      (0, captures + (candidates.filter input.kept).length) := by
  induction candidates generalizing captures with
  | nil => simp
  | cons candidate rest ih =>
      rw [List.foldl_cons]
      cases kept : input.kept candidate with
      | true =>
          have one : input.settleOne (0, captures) candidate = (0, captures + 1) := by
            simp [BackupInput.settleOne, kept]
          rw [one, ih, List.filter_cons_of_pos kept, List.length_cons]
          exact Prod.ext rfl (by simp; omega)
      | false =>
          have one : input.settleOne (0, captures) candidate = (0, captures) := by
            simp [BackupInput.settleOne, kept]
          rw [one, ih, List.filter_cons_of_neg (by simp [kept])]

theorem foldl_settleOne_pos (candidates : List Candidate) {entries : Nat} (positive : 0 < entries)
    (captures : Nat) :
    candidates.foldl input.settleOne (entries, captures) =
      if candidates = [] then (entries, captures)
      else if candidates.all input.identical = true then (1, captures)
      else (0, captures + ((candidates.dropWhile input.identical).filter input.kept).length) := by
  induction candidates generalizing entries with
  | nil => simp
  | cons candidate rest ih =>
      rw [List.foldl_cons, if_neg (by simp)]
      cases identical : input.identical candidate with
      | true =>
          have one : input.settleOne (entries, captures) candidate = (1, captures) := by
            simp [BackupInput.settleOne, identical, positive]
          rw [one, ih Nat.one_pos, List.all_cons, identical, Bool.true_and,
            List.dropWhile_cons_of_pos identical]
          by_cases last : rest = []
          · simp [last]
          · rw [if_neg last]
      | false =>
          have head : input.settleOne (entries, captures) candidate =
              (0, captures + if input.kept candidate then 1 else 0) := by
            unfold BackupInput.settleOne
            rw [if_neg (by simp [identical])]
            split <;> rfl
          rw [head, foldl_settleOne_zero, List.all_cons, identical, Bool.false_and,
            if_neg Bool.false_ne_true, List.dropWhile_cons_of_neg (by simp [identical])]
          cases kept : input.kept candidate with
          | true =>
              rw [List.filter_cons_of_pos kept, List.length_cons]
              exact Prod.ext rfl (by simp; omega)
          | false =>
              rw [List.filter_cons_of_neg (by simp [kept])]
              exact Prod.ext rfl (by simp)

namespace BackupInput

def available (key : PathKey) : Bool :=
  decide (key ∈ input.inheritedFiles.map fileKey) && !decide (input.deleted key)

/-- The candidates of a path that are captured anew: all kept ones, or, when there
is an entry to keep, those from the first that is not unchanged. -/
def recaptured (key : PathKey) : List Candidate :=
  (if input.available key then (input.claimed key).dropWhile input.identical
    else input.claimed key).filter input.kept

def removed (key : PathKey) : Prop :=
  (input.context.hasParent = true ∧ ∃ candidate ∈ input.claimed key, input.node candidate = none) ∨
    input.deleted key ∨ input.outOfScope key

/-- No path is captured twice or both captured and deleted; the entries that stay
without being looked at are distinct and none of them is out of scope as well. -/
structure PathsSettled : Prop where
  once : ∀ key, (input.recaptured key).length ≤ 1
  alive : ∀ key, input.recaptured key ≠ [] → ¬ input.removed key
  inherited : ∀ key, input.available key = true →
    (input.claimed key).all input.identical = true → ¬ input.outOfScope key ∧
      (input.claimed key = [] → (input.inheritedFiles.map fileKey).count key ≤ 1)

end BackupInput

theorem plan_eq : input.plan = input.candidates.foldl (fun plan candidate =>
    input.context.planCandidate plan candidate (input.node candidate)) input.inheritedPlan := rfl

theorem deletes_plan (key : PathKey) : input.plan.deletes key ↔ input.removed key := by
  rw [plan_eq, (foldl_planCandidate_counts input input.candidates input.inheritedPlan key).2,
    deletes_inheritedPlan]
  unfold BackupInput.removed BackupInput.claimed
  simp [and_assoc]

theorem recaptured_of_identical {key : PathKey} (available : input.available key = true)
    (all : (input.claimed key).all input.identical = true) : input.recaptured key = [] := by
  have nothing : (input.claimed key).dropWhile input.identical = [] := by
    rw [List.dropWhile_eq_nil_iff]
    simpa using all
  unfold BackupInput.recaptured
  rw [if_pos available, nothing]
  rfl

theorem available_iff (key : PathKey) : input.available key = true ↔
    key ∈ input.inheritedFiles.map fileKey ∧ ¬ input.deleted key := by
  unfold BackupInput.available
  rw [Bool.and_eq_true, decide_eq_true_eq, Bool.not_eq_true', decide_eq_false_iff_not]

theorem counts_plan (key : PathKey) :
    input.plan.entries key + input.plan.captures key =
      (if input.available key = true ∧ (input.claimed key).all input.identical = true then
        (if input.claimed key = [] then (input.inheritedFiles.map fileKey).count key else 1)
      else 0) + (input.recaptured key).length := by
  have counts := (foldl_planCandidate_counts input input.candidates input.inheritedPlan key).1
  have no_captures : input.inheritedPlan.captures key = 0 := by
    unfold Plan.captures
    rw [changed_inheritedPlan]
    rfl
  rw [← plan_eq, no_captures, entries_inheritedPlan] at counts
  have entries := congrArg Prod.fst counts
  have captures := congrArg Prod.snd counts
  simp only at entries captures
  rw [entries, captures]
  show (List.foldl input.settleOne _ (input.claimed key)).1 +
    (List.foldl input.settleOne _ (input.claimed key)).2 = _
  unfold BackupInput.recaptured
  cases available : input.available key with
  | false =>
      have none_left : (if input.deleted key then 0
          else (input.inheritedFiles.map fileKey).count key) = 0 := by
        by_cases gone : input.deleted key
        · rw [if_pos gone]
        · rw [if_neg gone, List.count_eq_zero]
          intro inside
          simp [BackupInput.available, inside, gone] at available
      rw [none_left, foldl_settleOne_zero]
      simp
  | true =>
      have alive := (available_iff input key).mp available
      rw [if_neg alive.2, foldl_settleOne_pos input _ (List.count_pos_iff.mpr alive.1)]
      by_cases unclaimed : input.claimed key = []
      · simp [unclaimed]
      · rw [if_neg unclaimed]
        by_cases all : (input.claimed key).all input.identical = true
        · have nothing := recaptured_of_identical input available all
          rw [BackupInput.recaptured, if_pos available] at nothing
          rw [if_pos all, if_pos ⟨rfl, all⟩, if_neg unclaimed, if_pos rfl, nothing]
          rfl
        · simp [all]

theorem node_of_changed {candidates : List Candidate} {plan : Plan}
    (before : ∀ change ∈ plan.changed, input.node change.1 ≠ none) :
    ∀ change ∈ (candidates.foldl (fun plan candidate =>
      input.context.planCandidate plan candidate (input.node candidate)) plan).changed,
      input.node change.1 ≠ none := by
  induction candidates generalizing plan with
  | nil => exact before
  | cons candidate rest ih =>
      apply ih
      intro change member
      rcases candidateAction_cases input plan candidate with ⟨action, _⟩ | ⟨action, _⟩ |
        ⟨file, action, _⟩ | ⟨action, node, _⟩
      · simp only [PlanContext.planCandidate, action, PlanContext.applyAction] at member
        exact before change member
      · simp only [PlanContext.planCandidate, action, PlanContext.applyAction] at member
        exact before change member
      · simp only [PlanContext.planCandidate, action, PlanContext.applyAction] at member
        exact before change member
      · simp only [PlanContext.planCandidate, action, PlanContext.applyAction] at member
        rcases List.mem_append.mp member with old | new
        · exact before change old
        · rw [List.mem_singleton.mp new]
          exact node

theorem captured_keys : input.captured.map fileKey =
    input.plan.changed.map fun change => change.2.key := by
  have start : ∀ change ∈ input.inheritedPlan.changed, input.node change.1 ≠ none := by
    rw [changed_inheritedPlan]
    simp
  have nodes : ∀ change ∈ input.plan.changed, input.node change.1 ≠ none :=
    node_of_changed input start
  unfold BackupInput.captured
  revert nodes
  induction input.plan.changed with
  | nil => exact fun _ => rfl
  | cons change rest ih =>
      intro nodes
      obtain ⟨node, there⟩ := Option.ne_none_iff_exists'.mp (nodes change List.mem_cons_self)
      have tail := ih fun other member => nodes other (List.mem_cons_of_mem _ member)
      simp only [List.filterMap_cons, there, Option.map_some, List.map_cons, tail]
      rfl

theorem count_files (key : PathKey) :
    (input.files.map fileKey).count key = input.plan.entries key + input.plan.captures key := by
  unfold BackupInput.files sortFiles
  rw [((List.perm_insertionSort _ _).map fileKey).count_eq, List.map_append, List.count_append,
    captured_keys]
  rfl

theorem mem_tombstones (key : PathKey) :
    key ∈ input.tombstones.map tombstoneKey ↔ input.plan.deletes key := by
  unfold BackupInput.tombstones sortTombstones Plan.deletes
  rw [List.map_map]
  have same : (tombstoneKey ∘ fun (entry : PathKey × String) =>
      (⟨entry.1.1, entry.1.2, entry.2⟩ : ManifestTombstone)) = Prod.fst := rfl
  rw [same, ((List.perm_insertionSort _ _).map Prod.fst).mem_iff]

theorem manifest_paths_disjoint_iff :
    PathsDisjoint input.files input.tombstones ↔ input.PathsSettled := by
  have listed : ∀ key, key ∈ input.files.map fileKey ↔
      0 < input.plan.entries key + input.plan.captures key := by
    intro key
    rw [← count_files, List.count_pos_iff]
  unfold PathsDisjoint
  rw [List.nodup_iff_count_le_one]
  simp only [count_files, mem_tombstones, deletes_plan, listed]
  constructor
  · rintro ⟨once, apart⟩
    refine ⟨fun key => ?_, fun key some_left => ?_, fun key available all => ⟨?_, ?_⟩⟩
    · have total := once key
      rw [counts_plan] at total
      omega
    · apply apart key
      rw [counts_plan]
      have positive := List.length_pos_of_ne_nil some_left
      omega
    · intro outside
      apply apart key _ (Or.inr (Or.inr outside))
      rw [counts_plan, if_pos ⟨available, all⟩]
      split
      · have inside := List.count_pos_iff.mpr ((available_iff input key).mp available).1
        omega
      · omega
    · intro unclaimed
      have total := once key
      rw [counts_plan, if_pos ⟨available, all⟩, if_pos unclaimed] at total
      omega
  · intro settled
    refine ⟨fun key => ?_, fun key positive removed => ?_⟩
    · rw [counts_plan]
      by_cases stays : input.available key = true ∧ (input.claimed key).all input.identical = true
      · rw [if_pos stays, recaptured_of_identical input stays.1 stays.2]
        split
        · rename_i unclaimed
          exact (settled.inherited key stays.1 stays.2).2 unclaimed
        · exact le_rfl
      · rw [if_neg stays, Nat.zero_add]
        exact settled.once key
    · rw [counts_plan] at positive
      by_cases stays : input.available key = true ∧ (input.claimed key).all input.identical = true
      · rcases removed with ⟨_, candidate, inside, gone⟩ | deleted | outside
        · have identical := List.all_eq_true.mp stays.2 candidate inside
          have kept := kept_of_identical input identical
          simp [BackupInput.kept, gone] at kept
        · exact ((available_iff input key).mp stays.1).2 deleted
        · exact (settled.inherited key stays.1 stays.2).1 outside
      · rw [if_neg stays, Nat.zero_add] at positive
        exact settled.alive key (List.ne_nil_of_length_pos positive) removed

end Input

namespace Sample

def savePath : String := "/home/gamer/.local/share/game/save.dat"

def appId : AppId := ⟨"desktop:game"⟩

def saveCandidate : Candidate :=
  { record := { pathId := 1, canonicalPath := savePath }
    association :=
      { appId := appId, pathId := 1, persistenceClass := .persistentState, semanticRole := .userState } }

def hashText (bytes : List UInt8) : String :=
  String.ofList (bytes.map fun byte => Char.ofNat (byte.toNat + 'a'.toNat))

def chunker : Chunker :=
  { fileHash := hashText
    chunks := fun bytes => [⟨hashText bytes, bytes.length⟩] }

def saveFile (bytes : List UInt8) : FileNode :=
  { bytes := bytes, mtimeNs := some 7, inode := 11, mode := 420 }

def context : PlanContext :=
  { roots := LogicalRootMap.fromHome "/home/gamer"
    mode := .personalState
    performance := .balanced
    scope := none
    installRoots := []
    hasParent := true
    decide := fun _ _ _ => .include
    indexed := fun _ => none }

def mutation (id : Uuid) (kind : AppMutationKind) (at_ : Timestamp) : AppMutationRecord :=
  { mutationId := id, appId := appId, path := savePath, kind := kind, observedAt := at_ }

def uuidA : Uuid := ⟨"00000000-0000-4000-8000-00000000000a", Eq.refl true⟩

def uuidB : Uuid := ⟨"00000000-0000-4000-8000-00000000000b", Eq.refl true⟩

def recreated : BackupInput :=
  { context := context
    parentFiles := [capturedFile chunker saveCandidate (context.logicalOf saveCandidate) [1]
      (saveFile [1])]
    pending := [mutation uuidA .delete 1, mutation uuidB .create 2]
    candidates := [saveCandidate]
    ordered := List.pairwise_singleton _ _
    tree := fun path => if path = savePath then some (saveFile [2]) else none
    chunker := chunker }

end Sample

end Noland.Backup
