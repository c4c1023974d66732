import Mathlib.Data.List.Induction
import Noland.Core.Manifest

/-!
A backup records its commit twice. The first call puts the row there, with a placeholder for the
hash of the manifest; the second one finds the row and changes three columns of it, of which the
hash is none. Rows stand in the order of their row ids; times are in seconds.
-/

namespace Noland.StateDb

open Noland.Core

inductive CommitVisibility where
  | pending
  | uploading
  | committed
  | failed
  deriving DecidableEq

structure BundleCommitRow where
  commitId : Uuid
  appId : AppId
  bundleId : Uuid
  manifestHash : String
  cloudPath : Option String
  state : CommitVisibility
  createdAt : Timestamp
  committedAt : Option Timestamp
  deriving DecidableEq

def offeredCommit (commitId : Uuid) (appId : AppId) (bundleId : Uuid) (manifestHash : String)
    (cloudPath : Option String) (state : CommitVisibility) (now : Timestamp) : BundleCommitRow where
  commitId := commitId
  appId := appId
  bundleId := bundleId
  manifestHash := manifestHash
  cloudPath := cloudPath
  state := state
  createdAt := now
  committedAt := if state = .committed then some now else none

/-- `ON CONFLICT(commit_id) DO UPDATE`. -/
def BundleCommitRow.update (row excluded : BundleCommitRow) : BundleCommitRow :=
  { row with
    state := excluded.state
    cloudPath := excluded.cloudPath.or row.cloudPath
    committedAt := excluded.committedAt.or row.committedAt }

def recordCommit (offered : BundleCommitRow) (rows : List BundleCommitRow) :
    List BundleCommitRow :=
  if rows.any fun row => row.commitId = offered.commitId then
    rows.map fun row => if row.commitId = offered.commitId then row.update offered else row
  else rows ++ [offered]

/-- `NULL` comes before every time. -/
def earlier : Option Timestamp → Option Timestamp → Bool
  | _, none => false
  | none, some _ => true
  | some left, some right => left < right

/-- The first row of `ORDER BY committed_at DESC, rowid DESC`. -/
def newestRow : List BundleCommitRow → Option BundleCommitRow
  | [] => none
  | row :: rest =>
      match newestRow rest with
      | none => some row
      | some later => if earlier later.committedAt row.committedAt then some row else some later

def BundleCommitRow.visible (appId : AppId) (row : BundleCommitRow) : Bool :=
  row.appId = appId && row.state = .committed

def latestCommit (rows : List BundleCommitRow) (appId : AppId) : Option (Uuid × Uuid × String) :=
  (newestRow (rows.filter (BundleCommitRow.visible appId))).map fun row =>
    (row.commitId, row.bundleId, row.manifestHash)

structure BackupCommit where
  commitId : Uuid
  appId : AppId
  bundleId : Uuid
  manifestHash : String
  bundlePrefix : String
  deriving DecidableEq

inductive CommitCall where
  | uploading (backup : BackupCommit) (now : Timestamp)
  | committed (backup : BackupCommit) (now : Timestamp)
  deriving DecidableEq

def placeholderHash : String := "pending"

namespace CommitCall

def backup : CommitCall → BackupCommit
  | .uploading backup _ | .committed backup _ => backup

def offered : CommitCall → BundleCommitRow
  | .uploading backup now =>
      offeredCommit backup.commitId backup.appId backup.bundleId placeholderHash none .uploading now
  | .committed backup now =>
      offeredCommit backup.commitId backup.appId backup.bundleId backup.manifestHash
        (some backup.bundlePrefix) .committed now

def commits (appId : AppId) : CommitCall → Bool
  | .uploading _ _ => false
  | .committed backup _ => backup.appId = appId

end CommitCall

def recordCommits (calls : List CommitCall) : List BundleCommitRow :=
  calls.foldl (fun rows call => recordCommit call.offered rows) []

/-- What backups call, some of which go no further than the first call: the id of a commit is
new, and the hash of a manifest is not the placeholder. -/
inductive MadeByBackups : List CommitCall → Prop where
  | start : MadeByBackups []
  | uploading {calls : List CommitCall} {backup : BackupCommit} {now : Timestamp}
      (made : MadeByBackups calls)
      (fresh : ∀ call ∈ calls, call.backup.commitId ≠ backup.commitId)
      (hashed : backup.manifestHash ≠ placeholderHash) :
      MadeByBackups (calls ++ [.uploading backup now])
  | committed {calls : List CommitCall} {backup : BackupCommit} {before now : Timestamp}
      (made : MadeByBackups calls) (started : .uploading backup before ∈ calls) :
      MadeByBackups (calls ++ [.committed backup now])

def lastCommitted (calls : List CommitCall) (appId : AppId) : Option (Uuid × Uuid × String) :=
  (calls.reverse.find? (CommitCall.commits appId)).map fun call =>
    (call.backup.commitId, call.backup.bundleId, call.backup.manifestHash)

section Rows

variable {rows : List BundleCommitRow} {calls : List CommitCall} {appId : AppId}

theorem newestRow_mem {row : BundleCommitRow} (newest : newestRow rows = some row) :
    row ∈ rows := by
  induction rows generalizing row with
  | nil => cases newest
  | cons first rest ih =>
      rw [newestRow] at newest
      split at newest
      · cases newest
        exact List.mem_cons_self
      · rename_i later found
        split at newest
        · cases newest
          exact List.mem_cons_self
        · cases newest
          exact List.mem_cons_of_mem _ (ih found)

theorem recordCommits_append {call : CommitCall} :
    recordCommits (calls ++ [call]) = recordCommit call.offered (recordCommits calls) := by
  rw [recordCommits, List.foldl_append]
  rfl

/-- Each row has the placeholder, each backup that has started has a row, and a visible row is
that of a backup that has committed. -/
structure RowsFit (calls : List CommitCall) (rows : List BundleCommitRow) : Prop where
  placed : ∀ row ∈ rows, row.manifestHash = placeholderHash
  listed : ∀ call ∈ calls, ∃ row ∈ rows, row.commitId = call.backup.commitId
  owned : ∀ row ∈ rows, ∃ call ∈ calls, call.backup.commitId = row.commitId ∧
    call.backup.appId = row.appId
  visible : ∀ row ∈ rows, row.state = .committed →
    ∃ call ∈ calls, call.commits row.appId = true ∧ call.backup.commitId = row.commitId

theorem MadeByBackups.same_backup (made : MadeByBackups calls) {left right : CommitCall}
    (leftMember : left ∈ calls) (rightMember : right ∈ calls)
    (same : left.backup.commitId = right.backup.commitId) : left.backup = right.backup := by
  induction made generalizing left right with
  | start => cases leftMember
  | uploading made fresh hashed ih =>
      rw [List.mem_append, List.mem_singleton] at leftMember rightMember
      rcases leftMember with leftOld | rfl
      · rcases rightMember with rightOld | rfl
        · exact ih leftOld rightOld same
        · exact absurd same (fresh left leftOld)
      · rcases rightMember with rightOld | rfl
        · exact absurd same.symm (fresh right rightOld)
        · rfl
  | committed made started ih =>
      rw [List.mem_append, List.mem_singleton] at leftMember rightMember
      rcases leftMember with leftOld | rfl
      · rcases rightMember with rightOld | rfl
        · exact ih leftOld rightOld same
        · have begun := ih leftOld started same
          exact begun
      · rcases rightMember with rightOld | rfl
        · have begun := ih started rightOld same
          exact begun
        · rfl

theorem MadeByBackups.hashed (made : MadeByBackups calls) {call : CommitCall}
    (member : call ∈ calls) : call.backup.manifestHash ≠ placeholderHash := by
  induction made generalizing call with
  | start => cases member
  | uploading made fresh hashed ih =>
      rw [List.mem_append, List.mem_singleton] at member
      rcases member with old | rfl
      · exact ih old
      · exact hashed
  | committed made started ih =>
      rw [List.mem_append, List.mem_singleton] at member
      rcases member with old | rfl
      · exact ih old
      · have begun := ih started
        exact begun

theorem RowsFit.uploading (fit : RowsFit calls rows) {backup : BackupCommit} {now : Timestamp}
    (fresh : ∀ call ∈ calls, call.backup.commitId ≠ backup.commitId) :
    RowsFit (calls ++ [.uploading backup now])
      (recordCommit (CommitCall.uploading backup now).offered rows) := by
  have new : ∀ row ∈ rows, ¬ row.commitId = backup.commitId := by
    intro row member same
    obtain ⟨call, called, sameId, -⟩ := fit.owned row member
    exact fresh call called (sameId.trans same)
  have inserted : recordCommit (CommitCall.uploading backup now).offered rows =
      rows ++ [(CommitCall.uploading backup now).offered] := by
    rw [recordCommit, if_neg]
    simpa [CommitCall.offered, offeredCommit] using new
  rw [inserted]
  constructor
  · intro row member
    rw [List.mem_append, List.mem_singleton] at member
    rcases member with old | rfl
    · exact fit.placed row old
    · rfl
  · intro call member
    rw [List.mem_append, List.mem_singleton] at member
    rcases member with old | rfl
    · obtain ⟨row, there, same⟩ := fit.listed call old
      exact ⟨row, List.mem_append_left _ there, same⟩
    · exact ⟨_, List.mem_append_right _ List.mem_cons_self, rfl⟩
  · intro row member
    rw [List.mem_append, List.mem_singleton] at member
    rcases member with old | rfl
    · obtain ⟨call, called, same⟩ := fit.owned row old
      exact ⟨call, List.mem_append_left _ called, same⟩
    · exact ⟨_, List.mem_append_right _ List.mem_cons_self, rfl, rfl⟩
  · intro row member committed
    rw [List.mem_append, List.mem_singleton] at member
    rcases member with old | rfl
    · obtain ⟨call, called, same⟩ := fit.visible row old committed
      exact ⟨call, List.mem_append_left _ called, same⟩
    · cases committed

theorem RowsFit.committed (fit : RowsFit calls rows) (made : MadeByBackups calls)
    {backup : BackupCommit} {before now : Timestamp}
    (started : .uploading backup before ∈ calls) :
    RowsFit (calls ++ [.committed backup now])
      (recordCommit (CommitCall.committed backup now).offered rows) := by
  have updated : recordCommit (CommitCall.committed backup now).offered rows =
      rows.map fun row => if row.commitId = backup.commitId then
        row.update (CommitCall.committed backup now).offered else row := by
    have present := fit.listed _ started
    rw [recordCommit, if_pos]
    · rfl
    · simpa [CommitCall.offered, offeredCommit, CommitCall.backup] using present
  rw [updated]
  constructor
  · intro row member
    obtain ⟨old, there, rfl⟩ := List.mem_map.mp member
    split
    · exact fit.placed old there
    · exact fit.placed old there
  · intro call member
    have listed : ∃ row ∈ rows, row.commitId = call.backup.commitId := by
      rw [List.mem_append, List.mem_singleton] at member
      rcases member with old | rfl
      · exact fit.listed call old
      · have begun := fit.listed _ started
        exact begun
    obtain ⟨row, there, same⟩ := listed
    refine ⟨_, List.mem_map_of_mem there, ?_⟩
    split
    · exact same
    · exact same
  · intro row member
    obtain ⟨old, there, rfl⟩ := List.mem_map.mp member
    obtain ⟨call, called, same⟩ := fit.owned old there
    refine ⟨call, List.mem_append_left _ called, ?_⟩
    split
    · exact same
    · exact same
  · intro row member committed
    obtain ⟨old, there, rfl⟩ := List.mem_map.mp member
    split at committed
    · rename_i own
      obtain ⟨call, called, sameId, sameApp⟩ := fit.owned old there
      have same := made.same_backup called started (sameId.trans own)
      rw [if_pos own]
      refine ⟨_, List.mem_append_right _ List.mem_cons_self, ?_, own.symm⟩
      show decide (backup.appId = old.appId) = true
      rw [← sameApp, same]
      exact decide_eq_true rfl
    · rename_i other
      rw [if_neg other]
      obtain ⟨call, called, same⟩ := fit.visible old there committed
      exact ⟨call, List.mem_append_left _ called, same⟩

theorem MadeByBackups.rowsFit (made : MadeByBackups calls) :
    RowsFit calls (recordCommits calls) := by
  induction made with
  | start => exact ⟨by simp [recordCommits], by simp, by simp [recordCommits],
      by simp [recordCommits]⟩
  | uploading made fresh hashed ih =>
      rw [recordCommits_append]
      exact ih.uploading fresh
  | committed made started ih =>
      rw [recordCommits_append]
      exact ih.committed made started

theorem RowsFit.latest (fit : RowsFit calls rows) {commitId bundleId : Uuid} {hash : String}
    (found : latestCommit rows appId = some (commitId, bundleId, hash)) :
    hash = placeholderHash ∧
      ∃ call ∈ calls, call.commits appId = true ∧ call.backup.commitId = commitId := by
  obtain ⟨row, newest, same⟩ := Option.map_eq_some_iff.mp found
  cases same
  obtain ⟨member, isVisible⟩ := List.mem_filter.mp (newestRow_mem newest)
  simp only [BundleCommitRow.visible, Bool.and_eq_true, decide_eq_true_eq] at isVisible
  obtain ⟨ownApp, committed⟩ := isVisible
  rw [← ownApp]
  exact ⟨fit.placed row member, fit.visible row member committed⟩

end Rows

/-- What is returned is never a commit that is only uploading; but it is the last one with its
hash only for an app that has no commit, since the hash stays the placeholder. -/
theorem latest_commit_iff (calls : List CommitCall) (made : MadeByBackups calls) (appId : AppId) :
    (latestCommit (recordCommits calls) appId = lastCommitted calls appId ↔
      ∀ call ∈ calls, call.commits appId = false) ∧
    ∀ commitId bundleId hash,
      latestCommit (recordCommits calls) appId = some (commitId, bundleId, hash) →
        ∃ call ∈ calls, call.commits appId = true ∧ call.backup.commitId = commitId := by
  have fit := made.rowsFit
  refine ⟨⟨?_, ?_⟩, ?_⟩
  · intro right call member
    by_contra commits
    rw [Bool.not_eq_false] at commits
    have present : (calls.reverse.find? (CommitCall.commits appId)).isSome = true := by
      rw [List.find?_isSome]
      exact ⟨call, List.mem_reverse.mpr member, commits⟩
    obtain ⟨last, found⟩ := Option.isSome_iff_exists.mp present
    rw [lastCommitted, found] at right
    have placeholder := (fit.latest right).1
    exact made.hashed (List.mem_reverse.mp (List.mem_of_find?_eq_some found)) placeholder
  · intro none_commits
    have absent : calls.reverse.find? (CommitCall.commits appId) = none := by
      simpa using none_commits
    rw [lastCommitted, absent]
    cases found : latestCommit (recordCommits calls) appId with
    | none => rfl
    | some latest =>
        obtain ⟨-, call, member, commits, -⟩ := fit.latest found
        rw [none_commits call member] at commits
        cases commits
  · intro commitId bundleId hash found
    exact (fit.latest found).2

namespace CommitSample

def backup : BackupCommit where
  commitId := ⟨"3f2b7c1e-6a4d-4e8f-9b0c-1d2e3f405162", Eq.refl true⟩
  appId := ⟨"steam:620"⟩
  bundleId := ⟨"7c9e6679-7425-40de-944b-e07fc1f90ae7", Eq.refl true⟩
  manifestHash := "blake3:af1349b9f5f9a1a6a0404dea36dcc9499bcb25c9adc112b7cc9a93cae41f3262"
  bundlePrefix := "apps/steam_620/bundles/7c9e6679-7425-40de-944b-e07fc1f90ae7"

def calls : List CommitCall := [.uploading backup 1790000000, .committed backup 1790000009]

theorem made : MadeByBackups calls := by
  have started : MadeByBackups [.uploading backup 1790000000] :=
    @MadeByBackups.uploading [] _ _ .start (by simp) (by decide)
  exact @MadeByBackups.committed [.uploading backup 1790000000] _ 1790000000 _ started
    List.mem_cons_self

end CommitSample

/-- The commit of the only backup is returned with the placeholder for its hash. -/
theorem committed_hash_pending : ¬ (∀ calls, MadeByBackups calls → ∀ appId,
    latestCommit (recordCommits calls) appId = lastCommitted calls appId) := by
  intro always
  have same := always CommitSample.calls CommitSample.made CommitSample.backup.appId
  revert same
  decide

theorem latest_commit_sample : MadeByBackups CommitSample.calls ∧
    ∃ call ∈ CommitSample.calls, call.commits CommitSample.backup.appId = true ∧
      call.backup.commitId = CommitSample.backup.commitId :=
  ⟨CommitSample.made, (latest_commit_iff CommitSample.calls CommitSample.made
    CommitSample.backup.appId).2 CommitSample.backup.commitId CommitSample.backup.bundleId
    placeholderHash (by decide)⟩

end Noland.StateDb
