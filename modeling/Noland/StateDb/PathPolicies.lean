import Mathlib.Data.List.Induction
import Noland.Core.Manifest

/-!
`NULL` is not equal to `NULL` in a key, so that `INSERT OR REPLACE` replaces the row of an app,
but puts another row without an app beside those that are there. The query reads the index of the
key, in which rows with equal columns stand in the order of their row ids.
-/

namespace Noland.StateDb

open Noland.Core

structure PathPolicyRow where
  canonicalPath : String
  appId : Option AppId
  policy : String
  deriving DecidableEq

def PathPolicyRow.conflicts (row inserted : PathPolicyRow) : Bool :=
  row.canonicalPath = inserted.canonicalPath && inserted.appId.isSome &&
    row.appId = inserted.appId

def setPathPolicy (rows : List PathPolicyRow) (inserted : PathPolicyRow) : List PathPolicyRow :=
  rows.filter (fun row => !row.conflicts inserted) ++ [inserted]

def PathPolicyRow.isFor (path : String) (appId : Option AppId) (row : PathPolicyRow) : Bool :=
  row.canonicalPath = path && row.appId = appId

def policyRow (rows : List PathPolicyRow) (path : String) (appId : Option AppId) : Option String :=
  (rows.find? (PathPolicyRow.isFor path appId)).map PathPolicyRow.policy

def pathPolicy (rows : List PathPolicyRow) (path : String) (appId : Option AppId) :
    Option String :=
  match appId with
  | some app =>
      match policyRow rows path (some app) with
      | some found => some found
      | none => policyRow rows path none
  | none => policyRow rows path none

def setPathPolicies (calls : List PathPolicyRow) : List PathPolicyRow :=
  calls.foldl setPathPolicy []

def firstSet (calls : List PathPolicyRow) (path : String) (appId : Option AppId) : Option String :=
  (calls.find? (PathPolicyRow.isFor path appId)).map PathPolicyRow.policy

def lastSet (calls : List PathPolicyRow) (path : String) (appId : Option AppId) : Option String :=
  firstSet calls.reverse path appId

def lastWritten (calls : List PathPolicyRow) (path : String) (appId : Option AppId) :
    Option String :=
  (appId.bind fun app => lastSet calls path (some app)).or (lastSet calls path none)

section Calls

variable {rows calls : List PathPolicyRow} {path : String} {app : AppId} {inserted : PathPolicyRow}

theorem isFor_eq_true {appId : Option AppId} {row : PathPolicyRow} :
    row.isFor path appId = true ↔ row.canonicalPath = path ∧ row.appId = appId := by
  simp [PathPolicyRow.isFor]

theorem policyRow_append {later : List PathPolicyRow} (appId : Option AppId) :
    policyRow (rows ++ later) path appId =
      (policyRow rows path appId).or (policyRow later path appId) := by
  simp only [policyRow, List.find?_append]
  cases rows.find? (PathPolicyRow.isFor path appId) <;> rfl

theorem policyRow_single (appId : Option AppId) :
    policyRow [inserted] path appId =
      if inserted.isFor path appId = true then some inserted.policy else none := by
  by_cases own : inserted.isFor path appId = true
  · simp [policyRow, own]
  · simp [policyRow, own]

theorem policyRow_kept {appId : Option AppId} (apart : inserted.isFor path appId = false) :
    policyRow (rows.filter fun row => !row.conflicts inserted) path appId =
      policyRow rows path appId := by
  have same : (fun row : PathPolicyRow => decide ((!row.conflicts inserted) = true ∧
      row.isFor path appId = true)) = PathPolicyRow.isFor path appId := by
    funext row
    cases own : row.isFor path appId with
    | false => simp
    | true =>
        obtain ⟨rfl, rfl⟩ := isFor_eq_true.mp own
        suffices row.conflicts inserted = false by simp [this]
        by_contra conflicting
        simp [PathPolicyRow.conflicts] at conflicting
        simp [PathPolicyRow.isFor, conflicting] at apart
  rw [policyRow, List.find?_filter, same]
  rfl

theorem policyRow_set_app : policyRow (setPathPolicy rows inserted) path (some app) =
    if inserted.isFor path (some app) = true then some inserted.policy
    else policyRow rows path (some app) := by
  rw [setPathPolicy, policyRow_append, policyRow_single]
  by_cases own : inserted.isFor path (some app) = true
  · have gone : policyRow (rows.filter fun row => !row.conflicts inserted) path (some app) =
        none := by
      obtain ⟨rfl, isApp⟩ := isFor_eq_true.mp own
      rw [policyRow, Option.map_eq_none_iff, List.find?_eq_none]
      intro row member other
      obtain ⟨samePath, sameApp⟩ := isFor_eq_true.mp other
      simp [PathPolicyRow.conflicts, samePath, sameApp, isApp] at member
    rw [gone, if_pos own, if_pos own, Option.none_or]
  · rw [policyRow_kept (by simpa using own), if_neg own, if_neg own, Option.or_none]

theorem policyRow_set_none : policyRow (setPathPolicy rows inserted) path none =
    (policyRow rows path none).or
      (if inserted.isFor path none = true then some inserted.policy else none) := by
  have kept : policyRow (rows.filter fun row => !row.conflicts inserted) path none =
      policyRow rows path none := by
    by_cases own : inserted.isFor path none = true
    · obtain ⟨-, noApp⟩ := isFor_eq_true.mp own
      rw [List.filter_eq_self.mpr]
      intro row member
      simp [PathPolicyRow.conflicts, noApp]
    · exact policyRow_kept (by simpa using own)
  rw [setPathPolicy, policyRow_append, policyRow_single, kept]

theorem setPathPolicies_append :
    setPathPolicies (calls ++ [inserted]) = setPathPolicy (setPathPolicies calls) inserted := by
  rw [setPathPolicies, List.foldl_append]
  rfl

theorem lastSet_append (appId : Option AppId) : lastSet (calls ++ [inserted]) path appId =
    if inserted.isFor path appId = true then some inserted.policy
    else lastSet calls path appId := by
  rw [lastSet, List.reverse_append]
  by_cases own : inserted.isFor path appId = true
  · simp [firstSet, own]
  · simp [firstSet, lastSet, own]

theorem policyRow_app : policyRow (setPathPolicies calls) path (some app) =
    lastSet calls path (some app) := by
  induction calls using List.reverseRecOn with
  | nil => rfl
  | append_singleton calls inserted ih =>
      rw [setPathPolicies_append, policyRow_set_app, lastSet_append, ih]

theorem policyRow_none : policyRow (setPathPolicies calls) path none =
    firstSet calls path none := by
  induction calls using List.reverseRecOn with
  | nil => rfl
  | append_singleton calls inserted ih =>
      rw [setPathPolicies_append, policyRow_set_none, ih, ← policyRow_single]
      exact (policyRow_append none).symm

theorem pathPolicy_eq (appId : Option AppId) : pathPolicy (setPathPolicies calls) path appId =
    (appId.bind fun app => lastSet calls path (some app)).or (firstSet calls path none) := by
  cases appId with
  | none => exact policyRow_none
  | some app =>
      rw [pathPolicy, policyRow_app, policyRow_none]
      cases found : lastSet calls path (some app) <;> simp [found]

theorem pathPolicy_apart {appId : Option AppId} (apart : inserted.isFor path appId = false)
    (noFallback : inserted.isFor path none = false) :
    pathPolicy (setPathPolicies (calls ++ [inserted])) path appId =
      pathPolicy (setPathPolicies calls) path appId := by
  have fallback : policyRow (setPathPolicies (calls ++ [inserted])) path none =
      policyRow (setPathPolicies calls) path none := by
    simp [setPathPolicies_append, policyRow_set_none, noFallback]
  cases appId with
  | none => exact fallback
  | some app =>
      have own : policyRow (setPathPolicies (calls ++ [inserted])) path (some app) =
          policyRow (setPathPolicies calls) path (some app) := by
        simp [setPathPolicies_append, policyRow_set_app, apart]
      rw [pathPolicy, pathPolicy, own, fallback]

end Calls

/-- What is read is what was last written, and calls for other pairs do not change it, if there
was a call for the app, or the first and the last call without an app gave the same policy. -/
theorem path_policy_last_iff (calls : List PathPolicyRow) (path : String) (appId : Option AppId) :
    (pathPolicy (setPathPolicies calls) path appId = lastWritten calls path appId ∧
      ∀ inserted : PathPolicyRow, inserted.isFor path appId = false →
        inserted.isFor path none = false →
        pathPolicy (setPathPolicies (calls ++ [inserted])) path appId =
          pathPolicy (setPathPolicies calls) path appId) ↔
      (∃ app, appId = some app ∧ ∃ call ∈ calls, call.isFor path (some app) = true) ∨
        firstSet calls path none = lastSet calls path none := by
  have frame : ∀ inserted : PathPolicyRow, inserted.isFor path appId = false →
      inserted.isFor path none = false →
      pathPolicy (setPathPolicies (calls ++ [inserted])) path appId =
        pathPolicy (setPathPolicies calls) path appId :=
    fun inserted apart noFallback => pathPolicy_apart apart noFallback
  rw [and_iff_left frame, pathPolicy_eq, lastWritten]
  cases appId with
  | none => simp
  | some app =>
      cases found : lastSet calls path (some app) with
      | none =>
          have absent : ¬ ∃ call ∈ calls, call.isFor path (some app) = true := by
            simpa [lastSet, firstSet] using found
          simp [found, absent]
      | some policy =>
          have present : ∃ call ∈ calls, call.isFor path (some app) = true := by
            by_contra absent
            simp [lastSet, firstSet] at found
            obtain ⟨row, first, -⟩ := found
            exact absent ⟨row, List.mem_reverse.mp (List.mem_of_find?_eq_some first),
              List.find?_some first⟩
          simp [found, present]

/-- A policy for all apps that is set a second time. -/
theorem second_policy_ignored :
    pathPolicy (setPathPolicies
        [⟨"/home/user/Saves", none, "include"⟩, ⟨"/home/user/Saves", none, "exclude"⟩])
      "/home/user/Saves" none ≠
    lastWritten
        [⟨"/home/user/Saves", none, "include"⟩, ⟨"/home/user/Saves", none, "exclude"⟩]
      "/home/user/Saves" none := by
  decide

end Noland.StateDb
