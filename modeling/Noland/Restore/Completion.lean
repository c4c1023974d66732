import Noland.Restore.Accounting

/-!
A commit asks only whether a chunk count is left. That settles the entries with chunks. The
others and the tombstones are settled by a call for the complete restore that returned.
-/

namespace Noland.Restore

open Noland.Core Noland.FileTree Noland.Text Noland.Requests
open Noland.Keyed (lookup_of_mem)

def Complete (plan : RestorePlan) (transaction : Transaction) : Prop :=
  (∀ entry ∈ plan.priorityPlan, entry.manifestIndex ∈ transaction.publishedEntries) ∧
    (plan.manifest.tombstones = [] ∨ transaction.tombstonesApplied = true)

/-- The complete restore was asked for and returned, or there is nothing to remove and each
selected entry without chunks is published. -/
def Settled (plan : RestorePlan) (returned : List RestoreTarget) (transaction : Transaction) :
    Prop :=
  .complete ∈ returned ∨
    (plan.manifest.tombstones = [] ∧ ∀ entry ∈ plan.priorityPlan, entry.file.chunks = [] →
      entry.manifestIndex ∈ transaction.publishedEntries)

theorem mem_wantedBy_complete {plan : RestorePlan} {entry : RestorePlanEntry}
    (member : entry ∈ plan.priorityPlan) : entry.manifestIndex ∈ wantedBy plan .complete :=
  List.mem_map_of_mem (List.mem_filter.mpr ⟨member, rfl⟩)

section Commit

variable {setup : RestoreSetup} {returned : List RestoreTarget} {watched : Watched}

theorem Reached.completed (reached : Reached setup returned watched) :
    (watched.ledger.tombstonesApplied = true ↔ .complete ∈ returned) ∧
      (.complete ∈ returned → ∀ index ∈ wantedBy setup.plan .complete,
        index ∈ watched.ledger.published) := by
  induction reached with
  | opened world fresh =>
      have unapplied : world.transaction.tombstonesApplied = false := by
        rw [fresh]
        rfl
      simp [Watched.ledger, unapplied]
  | outside world _ same ih =>
      simp only [Watched.ledger, same] at ih ⊢
      exact ih
  | published before run ih =>
      rename_i returned _ target _ _
      have left := publishTo_ensures before.balanced target _ _ _ rfl run
      constructor
      · rw [left.applied, Bool.or_eq_true, ih.1, decide_eq_true_iff, List.mem_cons, or_comm,
          eq_comm]
      · intro complete index wanted
        rcases List.mem_cons.mp complete with rfl | earlier
        · exact left.reached index wanted
        · exact left.kept index (ih.2 earlier index wanted)
  | failed before run ih =>
      have left := publishTo_ensures before.balanced _ _ _ _ rfl run
      constructor
      · rw [left.applied]
        exact ih.1
      · exact fun complete index wanted => left.kept index (ih.2 complete index wanted)
  | enabled before run survived ih =>
      have left := enabled_of_run before.balanced run survived
      rw [left.applied, left.published]
      exact ih

/-- What a commit goes by is what was done: a published entry was written, and applied
tombstones were removed. -/
theorem Reached.done (reached : Reached setup returned watched) :
    (∀ index ∈ watched.world.transaction.publishedEntries, Written setup index) ∧
      (watched.world.transaction.tombstonesApplied = true → Removed setup) := by
  induction reached with
  | opened world fresh =>
      rw [fresh]
      exact ⟨fun _ published => absurd published List.not_mem_nil, fun applied => nomatch applied⟩
  | outside world _ same ih =>
      rw [same]
      exact ih
  | published before run ih =>
      have left := publishTo_ensures before.balanced _ _ _ _ rfl run
      constructor
      · exact fun index published => (left.written index published).elim (ih.1 index) id
      · exact fun applied => (left.removed applied).elim ih.2 id
  | failed before run ih =>
      have left := publishTo_ensures before.balanced _ _ _ _ rfl run
      constructor
      · exact fun index published => (left.written index published).elim (ih.1 index) id
      · exact fun applied => ih.2 (left.applied.symm.trans applied)
  | enabled before run survived ih =>
      have left := enabled_of_run before.balanced run survived
      constructor
      · intro index published
        have same := congrArg (index ∈ ·) left.published
        exact ih.1 index (same.mp published)
      · exact fun applied => ih.2 (left.applied.symm.trans applied)

theorem commit_counts {final : Config restoreInterface StateError Watched}
    (run : Runs (watchedHandler setup) (fun _ _ _ => True) (commit setup) ⟨[], watched⟩
      (.value ()) final) :
    ∀ row ∈ watched.world.transaction.remainingChunkRefs, row.2 = 0 := by
  have asked : Ensures (watchedHandler setup) (fun _ => True) (commit setup) watched
      (fun _ _ => watched.world.transaction.remainingChunkRefs.any (fun row => row.2 ≠ 0) = false)
      (fun _ _ => True) := by
    unfold commit
    apply recollect_then
    split
    · exact Ensures.throw trivial
    · split
      · exact Ensures.throw trivial
      · rename_i none_left
        intro config outcome later _ _
        cases outcome with
        | value value => exact Bool.eq_false_iff.mpr none_left
        | error error => trivial
        | stopped => trivial
  have none_left := asked _ _ _ rfl run
  intro row member
  have zero := List.any_eq_false.mp none_left row member
  simpa using zero

theorem Reached.published_of_counts (reached : Reached setup returned watched)
    (none_left : ∀ row ∈ watched.world.transaction.remainingChunkRefs, row.2 = 0)
    {entry : RestorePlanEntry} (member : entry ∈ setup.plan.priorityPlan)
    (chunked : entry.file.chunks ≠ []) :
    entry.manifestIndex ∈ watched.world.transaction.publishedEntries := by
  obtain ⟨chunk, rest, chunks⟩ := List.exists_cons_of_ne_nil chunked
  have contained : HasChunk entry.file chunk.hash := by
    unfold HasChunk
    rw [chunks]
    exact List.mem_cons_self
  have counted := reached.balanced.counted
  obtain ⟨row, inside, same⟩ :=
    List.mem_map.mp ((counted.keys chunk.hash).mpr ⟨entry, member, contained⟩)
  have found := lookup_of_mem counted.nodup inside
  rw [same, counted.lookup member contained, none_left row inside] at found
  by_contra new
  exact not_hasChunk_of_zero (Option.some.inj found) member new contained

end Commit

/-- A commit that returns in a state reached by calls in which no eviction failed commits a
complete restore exactly when the entries without chunks and the tombstones are settled. -/
theorem commit_complete_iff (setup : RestoreSetup) {returned : List RestoreTarget}
    {watched : Watched} (reached : Reached setup returned watched)
    {final : Config restoreInterface StateError Watched}
    (run : Runs (watchedHandler setup) (fun _ _ _ => True) (commit setup) ⟨[], watched⟩
      (.value ()) final) :
    Complete setup.plan watched.world.transaction ↔
      Settled setup.plan returned watched.world.transaction := by
  obtain ⟨applied, everything⟩ := reached.completed
  have none_left := commit_counts run
  constructor
  · rintro ⟨published, nothing | removed⟩
    · exact Or.inr ⟨nothing, fun entry member _ => published entry member⟩
    · exact Or.inl (applied.mp removed)
  · rintro (complete | ⟨nothing, chunkless⟩)
    · constructor
      · exact fun entry member => everything complete _ (mem_wantedBy_complete member)
      · exact Or.inr (applied.mpr complete)
    · refine ⟨?_, Or.inl nothing⟩
      intro entry member
      by_cases chunked : entry.file.chunks = []
      · exact chunkless entry member chunked
      · exact reached.published_of_counts none_left member chunked

namespace Sample

def singlePublished : Watched :=
  ((publishTo (byteSetup singleFile) .complete).exec (watchedHandler (byteSetup singleFile)) []
    ⟨[], byteWorld singleFile⟩).2.2.state

def chunklessSetup : RestoreSetup := setupOf [emptyFile "a"] [⟨"$HOME", "b", "deleted"⟩]

def chunklessWorld : Watched := ⟨World.opened chunklessSetup home [] false, []⟩

def chunklessCommitted : Watched :=
  ((commit chunklessSetup).eval (watchedHandler chunklessSetup) chunklessWorld).2

end Sample

theorem single_file_committed :
    ∃ watched final, Reached (Sample.byteSetup Sample.singleFile) [.complete] watched ∧
      Runs (watchedHandler (Sample.byteSetup Sample.singleFile)) (fun _ _ _ => True)
        (commit (Sample.byteSetup Sample.singleFile)) ⟨[], watched⟩ (.value ()) final ∧
      Complete (Sample.byteSetup Sample.singleFile).plan watched.world.transaction := by
  have call : (publishTo (Sample.byteSetup Sample.singleFile) .complete).follows
        (watchedHandler (Sample.byteSetup Sample.singleFile)) Sample.answered []
        ⟨[], Sample.byteWorld Sample.singleFile⟩ = true ∧
      ((publishTo (Sample.byteSetup Sample.singleFile) .complete).exec
        (watchedHandler (Sample.byteSetup Sample.singleFile)) []
        ⟨[], Sample.byteWorld Sample.singleFile⟩).1 = .value ⟨[["h", "a"]], 1, 0⟩ := by
    decide +kernel
  have opened : Reached (Sample.byteSetup Sample.singleFile) []
      (Sample.byteWorld Sample.singleFile) := Reached.opened _ rfl
  have reached : Reached (Sample.byteSetup Sample.singleFile) [.complete] Sample.singlePublished :=
    Reached.published opened (follows_ends Sample.answered_undisrupted call.1 call.2)
  have ends : ((commit (Sample.byteSetup Sample.singleFile)).exec
      (watchedHandler (Sample.byteSetup Sample.singleFile)) []
      ⟨[], Sample.singlePublished⟩).1 = .value () := by
    decide +kernel
  exact ⟨Sample.singlePublished, _, reached, exec_ends ends,
    (commit_complete_iff (Sample.byteSetup Sample.singleFile) reached (exec_ends ends)).mpr
      (Or.inl List.mem_cons_self)⟩

/-- An empty file and a tombstone do not hold a commit back. -/
theorem commit_of_nothing :
    ∃ final,
      (commit Sample.chunklessSetup).eval (watchedHandler Sample.chunklessSetup)
          Sample.chunklessWorld = (.ok (), final) ∧
        final.world.transaction.state = .committed ∧
        final.world.transaction.publishedEntries = [] ∧
        final.world.transaction.tombstonesApplied = false ∧
        Sample.chunklessSetup.plan.priorityPlan.length = 1 ∧
        ¬ Complete Sample.chunklessSetup.plan final.world.transaction := by
  have ends : ((commit Sample.chunklessSetup).eval (watchedHandler Sample.chunklessSetup)
      Sample.chunklessWorld).1 = .ok () := by
    decide +kernel
  have left : Sample.chunklessCommitted.world.transaction.state = .committed ∧
      Sample.chunklessCommitted.world.transaction.publishedEntries = [] ∧
      Sample.chunklessCommitted.world.transaction.tombstonesApplied = false ∧
      Sample.chunklessSetup.plan.priorityPlan.length = 1 := by
    decide +kernel
  obtain ⟨committed, unpublished, unapplied, one⟩ := left
  have incomplete : ¬ Complete Sample.chunklessSetup.plan
      Sample.chunklessCommitted.world.transaction := by
    rintro ⟨_, nothing | applied⟩
    · cases nothing
    · rw [unapplied] at applied
      cases applied
  exact ⟨Sample.chunklessCommitted, eval_ends ends, committed, unpublished, unapplied, one,
    incomplete⟩

end Noland.Restore
