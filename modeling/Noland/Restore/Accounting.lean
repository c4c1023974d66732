import Noland.Restore.ChunkCounts

/-!
The counts are followed through any number of calls, whichever of them fail. A call that is
not disturbed in an eviction leaves the counts exact and has evicted no chunk of an entry
that is still to be published.
-/

namespace Noland.Restore

open Noland.Core Noland.FileTree Noland.Text Noland.Requests
open Noland.Keyed (lookup_of_mem)

/-- The chunks evicted so far, each with the entries that were published then. -/
structure Watched where
  world : World
  evictions : List (String × List Nat) := []

def watchedHandler (setup : RestoreSetup) : Handler restoreInterface StateError Watched where
  act op watched :=
    ((watched.world.act setup op).1,
      { world := (watched.world.act setup op).2
        evictions :=
          match op with
          | .evictChunk hash =>
              watched.evictions ++ [(hash, watched.world.transaction.publishedEntries)]
          | _ => watched.evictions })
  internal := (restoreHandler setup).internal

structure Ledger where
  references : List (String × Nat)
  published : List Nat
  tombstonesApplied : Bool
  evictions : List (String × List Nat)

def Watched.ledger (watched : Watched) : Ledger :=
  ⟨watched.world.transaction.remainingChunkRefs, watched.world.transaction.publishedEntries,
    watched.world.transaction.tombstonesApplied, watched.evictions⟩

def KeepsLedger : RestoreOp → Prop
  | .evictChunk _ => False
  | .remember update => ∀ transaction,
      (update transaction).remainingChunkRefs = transaction.remainingChunkRefs ∧
        (update transaction).publishedEntries = transaction.publishedEntries ∧
        (update transaction).tombstonesApplied = transaction.tombstonesApplied
  | _ => True

theorem onTree_transaction (world : World) (later : Except StateError Tree) :
    (world.onTree later).2.transaction = world.transaction := by
  cases later with
  | ok tree => rfl
  | error error => rfl

theorem act_keeps_ledger {setup : RestoreSetup} {op : RestoreOp} (keeps : KeepsLedger op)
    (watched : Watched) : ((watchedHandler setup).act op watched).2.ledger = watched.ledger := by
  have unmoved : ∀ later : Except StateError Tree,
      (watched.world.onTree later).2.transaction = watched.world.transaction :=
    onTree_transaction watched.world
  cases op with
  | evictChunk hash => exact keeps.elim
  | remember update =>
      obtain ⟨references, published, applied⟩ := keeps watched.world.transaction
      simp only [Watched.ledger, watchedHandler, World.act, references, published, applied]
  | removePathIfPresent path =>
      simp only [Watched.ledger, watchedHandler, World.act]
      split
      · rfl
      · rfl
  | _ =>
      simp only [Watched.ledger, watchedHandler, World.act, World.look, World.createView, unmoved]

theorem ledger_evictChunk (setup : RestoreSetup) (watched : Watched) (hash : String) :
    ((watchedHandler setup).act (.evictChunk hash) watched).2.ledger =
      { watched.ledger with
        evictions := watched.ledger.evictions ++ [(hash, watched.ledger.published)] } := by
  have unmoved : (watched.world.evictChunk hash).2.transaction = watched.world.transaction := by
    unfold World.evictChunk
    split
    · rfl
    · rfl
  simp only [Watched.ledger, watchedHandler, World.act, unmoved]

def ReleaseError (error : StateError) : Prop :=
  ∃ hash, error = .invalid ("missing restore chunk reference count for " ++ hash) ∨
    error = .invalid ("restore chunk reference count underflow for " ++ hash)

theorem releaseError_start {text : String} (release : ReleaseError (.invalid text)) :
    text.toList.take 9 = "missing r".toList ∨ text.toList.take 9 = "restore c".toList := by
  obtain ⟨hash, missing | underflow⟩ := release
  · left
    rw [StateError.invalid.inj missing, String.toList_append,
      List.take_append_of_le_length (by decide)]
    decide
  · right
    rw [StateError.invalid.inj underflow, String.toList_append,
      List.take_append_of_le_length (by decide)]
    decide

theorem not_releaseError_of_start {text : String}
    (missing : text.toList.take 9 ≠ "missing r".toList)
    (underflow : text.toList.take 9 ≠ "restore c".toList) : ¬ ReleaseError (.invalid text) := by
  intro release
  rcases releaseError_start release with here | here
  · exact missing here
  · exact underflow here

theorem not_releaseError_unsafePath (text : String) : ¬ ReleaseError (.unsafePath text) := by
  rintro ⟨hash, same | same⟩
  · cases same
  · cases same

/-- Only the environment may make such a program fail as the accounting would. -/
abbrev Unrelated {α : Type} (program : RestoreProg α) : Prop :=
  program.Quiet KeepsLedger fun error => ¬ ReleaseError error

section Unrelated

theorem perform_unrelated {op : RestoreOp} (keeps : KeepsLedger op) : Unrelated (perform op) :=
  Prog.Quiet.perform keeps

theorem captureView_unrelated (files : List Path) : Unrelated (captureView files) := by
  unfold captureView
  split
  · trivial
  · apply Prog.Quiet.bind
    · exact perform_unrelated trivial
    intro mappings
    split
    · exact not_releaseError_of_start (by decide) (by decide)
    · exact perform_unrelated fun _ => ⟨rfl, rfl, rfl⟩

theorem prepareRollback_unrelated (planned : List PlannedDestination)
    (tombstones : List PlannedTombstone) : Unrelated (prepareRollback planned tombstones) := by
  apply Prog.Quiet.bind
  · exact perform_unrelated fun _ => ⟨rfl, rfl, rfl⟩
  intro _
  apply Prog.Quiet.bind
  · exact perform_unrelated trivial
  intro sources
  apply Prog.Quiet.bind (captureView_unrelated _)
  intro _
  apply Prog.Quiet.bind
  · exact perform_unrelated fun _ => ⟨rfl, rfl, rfl⟩
  intro _
  exact perform_unrelated trivial

theorem createDirectoryChainJournaled_unrelated (root destination : Path) :
    Unrelated (createDirectoryChainJournaled root destination) := by
  apply Prog.Quiet.bind
  · exact perform_unrelated trivial
  intro missing
  apply Prog.Quiet.forEach
  intro directory
  apply Prog.Quiet.bind
  · exact perform_unrelated fun _ => ⟨rfl, rfl, rfl⟩
  intro _
  apply Prog.Quiet.bind
  · exact perform_unrelated trivial
  intro _
  apply Prog.Quiet.bind
  · exact perform_unrelated trivial
  intro _
  exact perform_unrelated trivial

theorem trackPartial_unrelated (path : Path) : Unrelated (trackPartial path) := by
  apply Prog.Quiet.bind
  · exact perform_unrelated fun _ => ⟨rfl, rfl, rfl⟩
  intro _
  exact perform_unrelated trivial

theorem moveIntoPlace_unrelated (planned : PlannedDestination) (beside : Path) :
    Unrelated (moveIntoPlace planned beside) := by
  have moved : Unrelated (do
      perform (.rename beside planned.destination)
      perform (.syncParent planned.destination)
      clearPartial beside) := by
    apply Prog.Quiet.bind
    · exact perform_unrelated trivial
    intro _
    apply Prog.Quiet.bind
    · exact perform_unrelated trivial
    intro _
    apply Prog.Quiet.bind
    · exact perform_unrelated fun _ => ⟨rfl, rfl, rfl⟩
    intro _
    exact perform_unrelated trivial
  unfold moveIntoPlace
  split
  · exact moved
  · apply Prog.Quiet.bind
    · apply Prog.Quiet.bind
      · exact perform_unrelated fun _ => ⟨rfl, rfl, rfl⟩
      intro _
      exact perform_unrelated trivial
    intro _
    exact moved

theorem parentOf_unrelated (destination : Path) :
    Unrelated (Prog.ofExcept (parentOf destination)) := by
  apply Prog.Quiet.ofExcept
  intro error failed
  unfold parentOf at failed
  split at failed
  · cases failed
    exact not_releaseError_unsafePath _
  · cases failed

theorem destinationPartialPath_unrelated (destination : Path) (restoreId : Uuid) :
    Unrelated (Prog.ofExcept (destinationPartialPath destination restoreId)) := by
  apply Prog.Quiet.ofExcept
  intro error failed
  unfold destinationPartialPath auxiliaryPath at failed
  split at failed
  · cases failed
    exact not_releaseError_unsafePath _
  · cases failed

theorem symlinkTargetOf_unrelated (file : ManifestFile) :
    Unrelated (Prog.ofExcept (symlinkTargetOf file)) := by
  apply Prog.Quiet.ofExcept
  intro error failed
  unfold symlinkTargetOf at failed
  split at failed
  · cases failed
    exact not_releaseError_of_start (by decide) (by decide)
  · split at failed
    · cases failed
      exact not_releaseError_unsafePath _
    · rename_i target _ _ _
      unfold validateSymlinkTarget at failed
      split at failed
      · cases failed
        exact not_releaseError_unsafePath _
      · cases failed

theorem publishFile_unrelated (setup : RestoreSetup) (planned : PlannedDestination) :
    Unrelated (publishFile setup planned) := by
  have moded : ∀ beside, Unrelated (setManifestMode beside planned.file.mode) := by
    intro beside
    cases planned.file.mode with
    | none => trivial
    | some mode => exact perform_unrelated trivial
  apply Prog.Quiet.bind (parentOf_unrelated _)
  intro parent
  apply Prog.Quiet.bind (createDirectoryChainJournaled_unrelated _ _)
  intro _
  apply Prog.Quiet.bind
  · exact perform_unrelated trivial
  intro _
  apply Prog.Quiet.bind (destinationPartialPath_unrelated _ _)
  intro beside
  apply Prog.Quiet.bind (trackPartial_unrelated _)
  intro _
  apply Prog.Quiet.bind
  · exact perform_unrelated trivial
  intro _
  apply Prog.Quiet.bind
  · exact perform_unrelated trivial
  intro _
  apply Prog.Quiet.bind
  · exact Prog.Quiet.forEach fun chunk => perform_unrelated trivial
  intro _
  apply Prog.Quiet.bind
  · exact perform_unrelated trivial
  intro _
  apply Prog.Quiet.bind (moded beside)
  intro _
  apply Prog.Quiet.bind
  · exact perform_unrelated trivial
  intro _
  exact moveIntoPlace_unrelated _ _

theorem publishSymlink_unrelated (setup : RestoreSetup) (planned : PlannedDestination) :
    Unrelated (publishSymlink setup planned) := by
  apply Prog.Quiet.bind (symlinkTargetOf_unrelated _)
  intro target
  apply Prog.Quiet.bind (parentOf_unrelated _)
  intro parent
  apply Prog.Quiet.bind (createDirectoryChainJournaled_unrelated _ _)
  intro _
  apply Prog.Quiet.bind
  · exact perform_unrelated trivial
  intro _
  apply Prog.Quiet.bind (destinationPartialPath_unrelated _ _)
  intro beside
  apply Prog.Quiet.bind (trackPartial_unrelated _)
  intro _
  apply Prog.Quiet.bind
  · exact perform_unrelated trivial
  intro _
  apply Prog.Quiet.bind
  · exact perform_unrelated trivial
  intro _
  exact moveIntoPlace_unrelated _ _

theorem writeEntry_unrelated (setup : RestoreSetup) (planned : PlannedDestination) :
    Unrelated (writeEntry setup planned) := by
  unfold writeEntry
  split
  · trivial
  · split
    · exact createDirectoryChainJournaled_unrelated _ _
    · split
      · exact publishSymlink_unrelated _ _
      · split
        · exact publishFile_unrelated _ _
        · exact not_releaseError_unsafePath _

theorem removeTombstones_unrelated (tombstones : List PlannedTombstone) :
    Unrelated (Prog.forEach tombstones removeTombstone) := by
  apply Prog.Quiet.forEach
  intro tombstone
  apply Prog.Quiet.bind
  · exact perform_unrelated trivial
  intro removed
  cases removed with
  | false => trivial
  | true => exact perform_unrelated trivial

end Unrelated

def UsesChunkFile (entry : RestorePlanEntry) (hash : String) : Prop :=
  ∃ other, HasChunk entry.file other ∧ SameChunkFile hash other

/-- When the chunk was evicted, at most one entry that uses its file was not published, and
each of those that do has been written. -/
structure SafeEviction (plan : RestorePlan) (written : Nat → Prop)
    (eviction : String × List Nat) : Prop where
  last : ∃ index, ∀ entry ∈ plan.priorityPlan, UsesChunkFile entry eviction.1 →
    entry.manifestIndex ∉ eviction.2 → entry.manifestIndex = index
  spared : ∀ entry ∈ plan.priorityPlan, UsesChunkFile entry eviction.1 →
    written entry.manifestIndex

theorem SafeEviction.mono {plan : RestorePlan} {written later : Nat → Prop}
    {eviction : String × List Nat} (safe : SafeEviction plan written eviction)
    (more : ∀ index, written index → later index) : SafeEviction plan later eviction :=
  ⟨safe.last, fun entry member uses => more _ (safe.spared entry member uses)⟩

/-- Between two entries: the counts are exact and nothing was evicted too early. -/
structure Balanced (plan : RestorePlan) (ledger : Ledger) : Prop where
  counted : CountsAre plan ledger.references (unpublishedWith plan ledger.published)
  evicted : OneSpelling plan → ∀ eviction ∈ ledger.evictions,
    SafeEviction plan (fun index => index ∈ ledger.published) eviction

/-- While the chunks of an entry are released, all but `rest` are. -/
structure Releasing (plan : RestorePlan) (entry : RestorePlanEntry) (published : List Nat)
    (applied : Bool) (rest : List String) (ledger : Ledger) : Prop where
  published_eq : ledger.published = published
  applied_eq : ledger.tombstonesApplied = applied
  counts : CountsAre plan ledger.references fun hash =>
    unpublishedWith plan published hash - if HasChunk entry.file hash ∧ hash ∉ rest then 1 else 0
  evicted : OneSpelling plan → ∀ eviction ∈ ledger.evictions,
    SafeEviction plan (fun index => index = entry.manifestIndex ∨ index ∈ published) eviction
  contained : ∀ hash ∈ rest, HasChunk entry.file hash
  once : rest.Nodup

/-- No eviction fails, and nothing else fails as the accounting would. -/
def Undisrupted (event : Event restoreInterface StateError) : Prop :=
  ∀ error, event.reply = .error error →
    ¬ ReleaseError error ∧ ∀ hash, event.op ≠ RestoreOp.evictChunk hash

section Programs

variable {setup : RestoreSetup} {permits : Event restoreInterface StateError → Prop}
  {watched : Watched} {α : Type} {post : α → Watched → Prop} {fail : StateError → Watched → Prop}

def Watched.remembering (watched : Watched) (update : Transaction → Transaction) : Watched :=
  { watched with
    world := { watched.world with transaction := update watched.world.transaction } }

theorem recollect_then {f : Transaction → RestoreProg α}
    (rest : Ensures (watchedHandler setup) permits (f watched.world.transaction) watched post
      fail) :
    Ensures (watchedHandler setup) permits (recollect >>= f) watched post fail := by
  have first : Ensures (watchedHandler setup) permits recollect watched
      (fun transaction later => transaction = watched.world.transaction ∧ later = watched) fail :=
    Ensures.internal rfl rfl ⟨rfl, rfl⟩
  apply first.bind
  rintro _ _ ⟨rfl, rfl⟩
  exact rest

theorem remember_then {update : Transaction → Transaction} {f : Unit → RestoreProg α}
    (rest : Ensures (watchedHandler setup) permits (f ()) (watched.remembering update) post
      fail) :
    Ensures (watchedHandler setup) permits (remember update >>= f) watched post fail := by
  have first : Ensures (watchedHandler setup) permits (remember update) watched
      (fun _ later => later = watched.remembering update) fail := Ensures.internal rfl rfl rfl
  apply first.bind
  rintro _ _ rfl
  exact rest

theorem Prog.Quiet.unrelated {program : RestoreProg α} (unrelated : Unrelated program)
    (kept : Ledger → Prop) (holds : kept watched.ledger) :
    Ensures (watchedHandler setup) Undisrupted program watched (fun _ later => kept later.ledger)
      (fun error later => ¬ ReleaseError error ∧ kept later.ledger) := by
  have keeps : ∀ op, KeepsLedger op → ∀ state : Watched, kept state.ledger →
      kept ((watchedHandler setup).act op state).2.ledger := by
    intro op keeps state before
    rw [act_keeps_ledger keeps]
    exact before
  have reported : ∀ (op : RestoreOp) error, Undisrupted ⟨op, .error error⟩ →
      ¬ ReleaseError error := fun op error permitted => (permitted error rfl).1
  exact Prog.Quiet.ensures unrelated reported keeps holds

end Programs

section Release

variable {setup : RestoreSetup} {plan : RestorePlan} {entry : RestorePlanEntry}
  {published : List Nat} {applied : Bool} {hash : String} {rest : List String}
  {watched : Watched}

theorem last_with_chunk (member : entry ∈ plan.priorityPlan)
    (new : entry.manifestIndex ∉ published) (contained : HasChunk entry.file hash)
    (only : unpublishedWith plan published hash = 1) {other : RestorePlanEntry}
    (among : other ∈ plan.priorityPlan) (pending : other.manifestIndex ∉ published)
    (also : HasChunk other.file hash) : other.manifestIndex = entry.manifestIndex := by
  by_contra different
  have split := unpublishedWith_insert member new hash
  rw [if_pos contained, only] at split
  have none_left : unpublishedWith plan (insertOrdered published entry.manifestIndex) hash = 0 := by
    omega
  apply not_hasChunk_of_zero none_left among _ also
  rw [mem_insertOrdered, not_or]
  exact ⟨different, pending⟩

theorem Releasing.lookup
    (releasing : Releasing plan entry published applied (hash :: rest) watched.ledger)
    (member : entry ∈ plan.priorityPlan) :
    watched.world.transaction.remainingChunkRefs.lookup hash =
      some (unpublishedWith plan published hash) := by
  have contained := releasing.contained hash List.mem_cons_self
  have found := releasing.counts.lookup member contained
  rw [if_neg (by simp)] at found
  exact found

theorem Releasing.counted
    (releasing : Releasing plan entry published applied (hash :: rest) watched.ledger)
    (member : entry ∈ plan.priorityPlan) {left : Nat}
    (split : unpublishedWith plan published hash = left + 1) :
    CountsAre plan (setReference watched.world.transaction.remainingChunkRefs hash left)
      fun other => unpublishedWith plan published other -
        if HasChunk entry.file other ∧ other ∉ rest then 1 else 0 := by
  have contained := releasing.contained hash List.mem_cons_self
  obtain ⟨fresh, _⟩ := List.nodup_cons.mp releasing.once
  apply (releasing.counts.set member contained left).congr
  intro other
  by_cases same : other = hash
  · rw [same, Function.update_self, if_pos ⟨contained, fresh⟩, split]
    rfl
  · rw [Function.update_of_ne same]
    simp [same]

theorem evicted_last (member : entry ∈ plan.priorityPlan) (new : entry.manifestIndex ∉ published)
    (contained : HasChunk entry.file hash) (only : unpublishedWith plan published hash = 1)
    (spelled : OneSpelling plan) :
    SafeEviction plan (fun index => index = entry.manifestIndex ∨ index ∈ published)
      (hash, published) := by
  have sole : ∀ other ∈ plan.priorityPlan, UsesChunkFile other hash →
      other.manifestIndex ∉ published → other.manifestIndex = entry.manifestIndex := by
    rintro other among ⟨spelling, has, same⟩ pending
    have equal := spelled entry member other among hash spelling contained has same
    rw [← equal] at has
    exact last_with_chunk member new contained only among pending has
  refine ⟨⟨entry.manifestIndex, sole⟩, ?_⟩
  intro other among uses
  by_cases pending : other.manifestIndex ∈ published
  · exact Or.inr pending
  · exact Or.inl (sole other among uses pending)

theorem releaseChunk_ensures (member : entry ∈ plan.priorityPlan)
    (new : entry.manifestIndex ∉ published)
    (releasing : Releasing plan entry published applied (hash :: rest) watched.ledger) :
    Ensures (watchedHandler setup) Undisrupted (releaseChunk hash) watched
      (fun _ later => Releasing plan entry published applied rest later.ledger)
      (fun _ _ => False) := by
  have contained := releasing.contained hash List.mem_cons_self
  have positive := unpublishedWith_pos member new contained
  obtain ⟨left, split⟩ := Nat.exists_eq_add_of_lt positive
  rw [Nat.zero_add] at split
  have counted := releasing.counted member split
  have smaller : ∀ other ∈ rest, HasChunk entry.file other := fun other inside =>
    releasing.contained other (List.mem_cons_of_mem _ inside)
  have once := (List.nodup_cons.mp releasing.once).2
  unfold releaseChunk
  apply recollect_then
  rw [releasing.lookup member, split]
  apply remember_then
  unfold evictReleased
  split
  · rename_i zero
    have evict : Ensures (watchedHandler setup) Undisrupted (perform (.evictChunk hash))
        (watched.remembering fun transaction =>
          { transaction with
            remainingChunkRefs := setReference transaction.remainingChunkRefs hash left })
        (fun _ later => Releasing plan entry published applied rest later.ledger)
      (fun _ _ => False) := by
      apply Ensures.perform
      · intro _ _
        rw [ledger_evictChunk]
        refine ⟨releasing.published_eq, releasing.applied_eq, counted, ?_, smaller, once⟩
        intro spelled eviction recorded
        rcases List.mem_append.mp recorded with before | here
        · exact releasing.evicted spelled eviction before
        · rw [List.mem_singleton.mp here]
          have only : unpublishedWith plan published hash = 1 := by
            omega
          have safe := evicted_last member new contained only spelled
          rw [← releasing.published_eq] at safe ⊢
          exact safe
      · intro error later permitted _
        exact (permitted error rfl).2 hash rfl
    apply evict.bind
    intro _ _ released
    exact Ensures.done released
  · exact Ensures.done
      ⟨releasing.published_eq, releasing.applied_eq, counted, releasing.evicted, smaller, once⟩

theorem releaseEntryChunks_ensures (member : entry ∈ plan.priorityPlan)
    (new : entry.manifestIndex ∉ published) (sound : Balanced plan watched.ledger)
    (same : watched.ledger.published = published)
    (unapplied : watched.ledger.tombstonesApplied = applied) :
    Ensures (watchedHandler setup) Undisrupted (releaseEntryChunks entry.file) watched
      (fun _ later => Releasing plan entry published applied [] later.ledger)
      (fun _ _ => False) := by
  apply Ensures.forEach fun rest (later : Watched) =>
    Releasing plan entry published applied rest later.ledger
  · refine ⟨same, unapplied, ?_, ?_, fun hash inside => mem_uniqueChunks.mp inside,
      uniqueChunks_nodup _⟩
    · apply sound.counted.congr
      intro hash
      rw [same, if_neg]
      · rfl
      · rintro ⟨contained, released⟩
        exact released (mem_uniqueChunks.mpr contained)
    · intro spelled eviction recorded
      have safe := sound.evicted spelled eviction recorded
      rw [same] at safe
      exact safe.mono fun index => Or.inr
  · intro hash rest before releasing
    exact releaseChunk_ensures member new releasing

theorem Releasing.sound {ledger : Ledger}
    (releasing : Releasing plan entry published applied [] ledger)
    (member : entry ∈ plan.priorityPlan) (new : entry.manifestIndex ∉ published) :
    Balanced plan { ledger with published := insertOrdered published entry.manifestIndex } := by
  constructor
  · apply releasing.counts.congr
    intro hash
    have split := unpublishedWith_insert member new hash
    simp only [List.not_mem_nil, not_false_eq_true, and_true]
    omega
  · intro spelled eviction recorded
    apply (releasing.evicted spelled eviction recorded).mono
    intro index known
    exact mem_insertOrdered.mpr known

end Release

section Publishing

variable {setup : RestoreSetup} {watched : Watched}

def Ran (setup : RestoreSetup) (program : RestoreProg Unit) : Prop :=
  ∃ config final, Runs (watchedHandler setup) (fun _ event _ => Undisrupted event) program config
    (.value ()) final

/-- The entry with this index was planned for a call, and writing it returned. -/
def Written (setup : RestoreSetup) (index : Nat) : Prop :=
  ∃ entry ∈ setup.plan.priorityPlan, ∃ planned : PlannedDestination,
    entry.manifestIndex = index ∧ planned.manifestIndex = index ∧ planned.file = entry.file ∧
      Ran setup (writeEntry setup planned)

/-- The tombstones were planned for a call, and removing each of them returned. -/
def Removed (setup : RestoreSetup) : Prop :=
  ∃ tree transaction planned tombstones,
    preflight setup tree transaction .complete = .ok (planned, tombstones) ∧
      Ran setup (Prog.forEach tombstones removeTombstone)

/-- While a call publishes, `rest` is left of the entries it planned. -/
structure Publishing (setup : RestoreSetup) (before : Ledger) (wanted : List Nat)
    (rest : List PlannedDestination) (ledger : Ledger) : Prop where
  sound : Balanced setup.plan ledger
  written : ∀ index ∈ ledger.published, index ∈ before.published ∨ Written setup index
  kept : ∀ index ∈ before.published, index ∈ ledger.published
  applied : ledger.tombstonesApplied = before.tombstonesApplied
  pending : ∀ planned ∈ rest, ∃ entry ∈ setup.plan.priorityPlan,
    entry.manifestIndex = planned.manifestIndex ∧ entry.file = planned.file ∧
      entry.manifestIndex ∉ ledger.published
  once : (rest.map PlannedDestination.manifestIndex).Nodup
  covered : ∀ index ∈ wanted,
    index ∈ ledger.published ∨ index ∈ rest.map PlannedDestination.manifestIndex

structure Failed (setup : RestoreSetup) (before : Ledger) (error : StateError) (ledger : Ledger) :
    Prop where
  unrelated : ¬ ReleaseError error
  sound : Balanced setup.plan ledger
  written : ∀ index ∈ ledger.published, index ∈ before.published ∨ Written setup index
  kept : ∀ index ∈ before.published, index ∈ ledger.published
  applied : ledger.tombstonesApplied = before.tombstonesApplied

variable {before : Ledger} {wanted : List Nat} {planned : PlannedDestination}
  {rest : List PlannedDestination}

theorem Publishing.failed {ledger : Ledger} {error : StateError}
    (publishing : Publishing setup before wanted rest ledger) (unrelated : ¬ ReleaseError error) :
    Failed setup before error ledger :=
  ⟨unrelated, publishing.sound, publishing.written, publishing.kept, publishing.applied⟩

theorem Publishing.next {entry : RestorePlanEntry} {ledger later : Ledger}
    (publishing : Publishing setup before wanted (planned :: rest) ledger)
    (index : entry.manifestIndex = planned.manifestIndex)
    (written : Written setup entry.manifestIndex) (sound : Balanced setup.plan later)
    (published : later.published = insertOrdered ledger.published entry.manifestIndex)
    (applied : later.tombstonesApplied = ledger.tombstonesApplied) :
    Publishing setup before wanted rest later := by
  obtain ⟨fresh, once⟩ := List.nodup_cons.mp publishing.once
  refine ⟨sound, ?_, ?_, applied.trans publishing.applied, ?_, once, ?_⟩
  · intro other known
    rw [published] at known
    rcases mem_insertOrdered.mp known with rfl | earlier
    · exact Or.inr written
    · exact publishing.written other earlier
  · intro other known
    rw [published]
    exact mem_insertOrdered.mpr (Or.inr (publishing.kept other known))
  · intro other inside
    obtain ⟨found, member, same, file, new⟩ :=
      publishing.pending other (List.mem_cons_of_mem _ inside)
    refine ⟨found, member, same, file, ?_⟩
    rw [published, mem_insertOrdered, not_or]
    refine ⟨?_, new⟩
    intro equal
    apply fresh
    rw [← index, ← equal, same]
    exact List.mem_map_of_mem inside
  · intro other known
    rw [published]
    rcases publishing.covered other known with already | planned
    · exact Or.inl (mem_insertOrdered.mpr (Or.inr already))
    · rcases List.mem_cons.mp planned with here | left
      · exact Or.inl (mem_insertOrdered.mpr (Or.inl (here.trans index.symm)))
      · exact Or.inr left

theorem publishEntry_ensures
    (publishing : Publishing setup before wanted (planned :: rest) watched.ledger) :
    Ensures (watchedHandler setup) Undisrupted (publishEntry setup planned) watched
      (fun _ later => Publishing setup before wanted rest later.ledger)
      (fun error later => Failed setup before error later.ledger) := by
  obtain ⟨entry, member, index, file, new⟩ := publishing.pending planned List.mem_cons_self
  have written : Ensures (watchedHandler setup) Undisrupted (writeEntry setup planned) watched
      (fun _ later => later.ledger = watched.ledger)
      (fun error later => Failed setup before error later.ledger) := by
    apply Ensures.mono (Prog.Quiet.unrelated (writeEntry_unrelated setup planned)
      (fun ledger => ledger = watched.ledger) rfl)
    · exact fun _ _ same => same
    · rintro error later ⟨unrelated, same⟩
      rw [same]
      exact publishing.failed unrelated
  apply written.returned.bind
  rintro _ middle ⟨same, wrote⟩
  have released : Ensures (watchedHandler setup) Undisrupted (releaseEntryChunks planned.file)
      middle (fun _ later => Releasing setup.plan entry watched.ledger.published
        watched.ledger.tombstonesApplied [] later.ledger)
      (fun error later => Failed setup before error later.ledger) := by
    rw [← file]
    have sound := publishing.sound
    rw [← same] at sound
    apply (releaseEntryChunks_ensures member new sound (by rw [same]) (by rw [same])).mono
    · exact fun _ _ releasing => releasing
    · exact fun _ _ impossible => impossible.elim
  apply released.bind
  intro _ last releasing
  apply Ensures.internal rfl rfl
  have sound := releasing.sound member new
  rw [← releasing.published_eq] at sound
  apply publishing.next index
  · exact ⟨entry, member, planned, rfl, index.symm, file.symm, wrote⟩
  · rw [index] at sound
    exact sound
  · rw [← releasing.published_eq, index]
    rfl
  · exact releasing.applied_eq

theorem planDestination_entry {tree : Tree} {seen : List Path} {entry : RestorePlanEntry}
    (accepted : planDestination setup tree seen entry = .ok planned) :
    planned.manifestIndex = entry.manifestIndex ∧ planned.file = entry.file := by
  obtain ⟨⟨root, destination⟩, _, later⟩ := bind_ok accepted
  dsimp only at later
  split at later
  · cases later
  · obtain ⟨⟨⟩, _, later⟩ := bind_ok later
    obtain ⟨metadata, _, later⟩ := bind_ok later
    obtain ⟨identical, _, later⟩ := bind_ok later
    split at later
    · cases later
    · cases later
      exact ⟨rfl, rfl⟩

theorem planDestinations_entries {tree : Tree} {seen : List Path}
    {entries : List RestorePlanEntry} {all : List PlannedDestination}
    (accepted : planDestinations setup tree seen entries = .ok all) :
    all.map (fun planned => (planned.manifestIndex, planned.file)) =
      entries.map fun entry => (entry.manifestIndex, entry.file) := by
  induction entries generalizing seen all with
  | nil =>
      cases accepted
      rfl
  | cons entry rest ih =>
      obtain ⟨first, here, later⟩ := bind_ok accepted
      obtain ⟨others, there, same⟩ := bind_ok later
      cases same
      obtain ⟨index, file⟩ := planDestination_entry here
      rw [List.map_cons, List.map_cons, index, file, ih there]

variable {tombstones : List PlannedTombstone} {target : RestoreTarget}

theorem preflight_entries {tree : Tree} {transaction : Transaction}
    {all : List PlannedDestination}
    (checked : preflight setup tree transaction target = .ok (all, tombstones)) :
    all.map (fun planned => (planned.manifestIndex, planned.file)) =
      ((entriesFor setup.plan.priorityPlan target).filter fun entry =>
        entry.manifestIndex ∉ transaction.publishedEntries).map fun entry =>
          (entry.manifestIndex, entry.file) := by
  obtain ⟨found, resolved, later⟩ := bind_ok checked
  have entries := planDestinations_entries resolved
  split at later
  · obtain ⟨removed, _, same⟩ := bind_ok later
    cases same
    exact entries
  · cases later
    exact entries

def wantedBy (plan : RestorePlan) (target : RestoreTarget) : List Nat :=
  (entriesFor plan.priorityPlan target).map RestorePlanEntry.manifestIndex

theorem Publishing.start {all : List PlannedDestination}
    (sound : Balanced setup.plan watched.ledger)
    (checked : preflight setup watched.world.tree watched.world.transaction target =
      .ok (all, tombstones)) :
    Publishing setup watched.ledger (wantedBy setup.plan target) all watched.ledger := by
  have entries := preflight_entries checked
  have indices : all.map PlannedDestination.manifestIndex =
      ((entriesFor setup.plan.priorityPlan target).filter fun entry =>
        entry.manifestIndex ∉ watched.ledger.published).map RestorePlanEntry.manifestIndex := by
    have firsts := congrArg (List.map Prod.fst) entries
    rw [List.map_map, List.map_map] at firsts
    exact firsts
  refine ⟨sound, fun _ known => Or.inl known, fun _ known => known, rfl, ?_, ?_, ?_⟩
  · intro planned inside
    have listed := List.mem_map_of_mem (f := fun planned : PlannedDestination =>
      (planned.manifestIndex, planned.file)) inside
    rw [entries] at listed
    obtain ⟨entry, member, same⟩ := List.mem_map.mp listed
    obtain ⟨among, new⟩ := List.mem_filter.mp member
    obtain ⟨index, file⟩ := Prod.mk.inj same
    exact ⟨entry, (List.mem_filter.mp among).1, index, file, of_decide_eq_true new⟩
  · rw [indices]
    apply List.Nodup.sublist _ (priorityPlan_indices setup.plan)
    apply List.Sublist.map
    exact List.filter_sublist.trans List.filter_sublist
  · intro index known
    obtain ⟨entry, among, rfl⟩ := List.mem_map.mp known
    by_cases already : entry.manifestIndex ∈ watched.ledger.published
    · exact Or.inl already
    · right
      rw [indices]
      exact List.mem_map_of_mem (List.mem_filter.mpr ⟨among, decide_eq_true already⟩)

structure Published (setup : RestoreSetup) (before : Ledger) (target : RestoreTarget)
    (ledger : Ledger) : Prop where
  sound : Balanced setup.plan ledger
  written : ∀ index ∈ ledger.published, index ∈ before.published ∨ Written setup index
  removed : ledger.tombstonesApplied = true → before.tombstonesApplied = true ∨ Removed setup
  kept : ∀ index ∈ before.published, index ∈ ledger.published
  reached : ∀ index ∈ wantedBy setup.plan target, index ∈ ledger.published
  applied : ledger.tombstonesApplied =
    (before.tombstonesApplied || decide (target = .complete))

theorem applyTombstones_ensures
    (checked : ∃ tree transaction planned,
      preflight setup tree transaction target = .ok (planned, tombstones))
    (publishing : Publishing setup before (wantedBy setup.plan target) [] watched.ledger) :
    Ensures (watchedHandler setup) Undisrupted
      (applyTombstones target before.tombstonesApplied tombstones) watched
      (fun _ later => Published setup before target later.ledger)
      (fun error later => Failed setup before error later.ledger) := by
  have reached : ∀ index ∈ wantedBy setup.plan target, index ∈ watched.ledger.published := by
    intro index known
    exact (publishing.covered index known).resolve_right List.not_mem_nil
  unfold applyTombstones
  split
  · rename_i complete
    have removed : Ensures (watchedHandler setup) Undisrupted
        (Prog.forEach tombstones removeTombstone) watched
        (fun _ later => later.ledger = watched.ledger)
        (fun error later => Failed setup before error later.ledger) := by
      apply Ensures.mono (Prog.Quiet.unrelated (removeTombstones_unrelated tombstones)
        (fun ledger => ledger = watched.ledger) rfl)
      · exact fun _ _ same => same
      · rintro error later ⟨unrelated, same⟩
        rw [same]
        exact publishing.failed unrelated
    apply removed.returned.bind
    rintro _ later ⟨same, ran⟩
    apply Ensures.internal rfl rfl
    rw [← same] at reached publishing
    obtain ⟨tree, transaction, planned, accepted⟩ := checked
    rw [complete.1] at accepted
    exact ⟨⟨publishing.sound.counted, publishing.sound.evicted⟩, publishing.written,
      fun _ => Or.inr ⟨tree, transaction, planned, tombstones, accepted, ran⟩, publishing.kept,
      reached, by simp [complete.1]; rfl⟩
  · rename_i skipped
    apply Ensures.done
    refine ⟨publishing.sound, publishing.written, ?_, publishing.kept, reached, ?_⟩
    · exact fun applied => Or.inl (publishing.applied.symm.trans applied)
    rw [publishing.applied]
    cases applied : before.tombstonesApplied with
    | true => rfl
    | false => simpa [applied] using skipped

theorem publishPlanned_ensures {plan : List PlannedDestination × List PlannedTombstone}
    (checked : ∃ tree transaction planned,
      preflight setup tree transaction target = .ok (planned, plan.2))
    (publishing : Publishing setup before (wantedBy setup.plan target) plan.1 watched.ledger) :
    Ensures (watchedHandler setup) Undisrupted (do
        prepareRollback plan.1 plan.2
        Prog.forEach plan.1 (publishEntry setup)
        applyTombstones target before.tombstonesApplied plan.2
        .done (reportOf plan.1)) watched
      (fun _ later => Published setup before target later.ledger)
      (fun error later => Failed setup before error later.ledger) := by
  have prepared : Ensures (watchedHandler setup) Undisrupted (prepareRollback plan.1 plan.2)
      watched
      (fun _ later => Publishing setup before (wantedBy setup.plan target) plan.1
        later.ledger)
      (fun error later => Failed setup before error later.ledger) := by
    apply Ensures.mono (Prog.Quiet.unrelated (prepareRollback_unrelated plan.1 plan.2)
      (Publishing setup before (wantedBy setup.plan target) plan.1) publishing)
    · exact fun _ _ kept => kept
    · rintro error later ⟨unrelated, kept⟩
      exact kept.failed unrelated
  apply prepared.bind
  intro _ later publishing
  have written : Ensures (watchedHandler setup) Undisrupted
      (Prog.forEach plan.1 (publishEntry setup)) later
      (fun _ last => Publishing setup before (wantedBy setup.plan target) [] last.ledger)
      (fun error last => Failed setup before error last.ledger) := by
    apply Ensures.forEach (fun rest (last : Watched) =>
      Publishing setup before (wantedBy setup.plan target) rest last.ledger) publishing
    intro planned rest middle publishing
    exact publishEntry_ensures publishing
  apply written.bind
  intro _ last publishing
  apply (applyTombstones_ensures checked publishing).bind
  intro _ _ published
  exact Ensures.done published

theorem publishTo_ensures (sound : Balanced setup.plan watched.ledger) (target : RestoreTarget) :
    Ensures (watchedHandler setup) Undisrupted (publishTo setup target) watched
      (fun _ later => Published setup watched.ledger target later.ledger)
      (fun error later => Failed setup watched.ledger error later.ledger) := by
  have still : ∀ error, ¬ ReleaseError error →
      Failed setup watched.ledger error watched.ledger := fun error unrelated =>
    ⟨unrelated, sound, fun _ known => Or.inl known, fun _ known => known, rfl⟩
  unfold publishTo
  apply recollect_then
  split
  · apply Ensures.throw
    exact still _ (not_releaseError_of_start (by decide) (by decide))
  · have checked : Ensures (watchedHandler setup) Undisrupted (perform (.preflight target)) watched
        (fun plan later => later = watched ∧
          (∃ tree transaction planned,
            preflight setup tree transaction target = .ok (planned, plan.2)) ∧
          Publishing setup watched.ledger (wantedBy setup.plan target) plan.1 watched.ledger)
        (fun error later => Failed setup watched.ledger error later.ledger) := by
      apply Ensures.perform
      · intro plan answered
        exact ⟨rfl, ⟨_, _, plan.1, answered⟩, Publishing.start sound answered⟩
      · rintro error later permitted (same | same)
        · rw [same]
          exact still error (permitted error rfl).1
        · rw [same]
          exact still error (permitted error rfl).1
    apply checked.bind
    rintro plan later ⟨same, accepted, publishing⟩
    rw [same]
    exact publishPlanned_ensures accepted publishing

end Publishing

section Enabling

variable {setup : RestoreSetup} {watched : Watched}

/-- What a call that enables eviction leaves behind, whether or not it fails. -/
structure Enabled (plan : RestorePlan) (before ledger : Ledger) : Prop where
  sound : Balanced plan ledger
  references : ledger.references = before.references
  published : ledger.published = before.published
  applied : ledger.tombstonesApplied = before.tombstonesApplied

theorem Enabled.evicts {plan : RestorePlan} {before ledger : Ledger} {hash : String}
    (enabled : Enabled plan before ledger) (unreferenced : (hash, 0) ∈ before.references) :
    Enabled plan before
      { ledger with evictions := ledger.evictions ++ [(hash, ledger.published)] } := by
  refine ⟨⟨enabled.sound.counted, ?_⟩, enabled.references, enabled.published, enabled.applied⟩
  intro spelled eviction recorded
  rcases List.mem_append.mp recorded with old | here
  · exact enabled.sound.evicted spelled eviction old
  · rw [List.mem_singleton.mp here]
    rw [← enabled.references] at unreferenced
    have counted := enabled.sound.counted
    obtain ⟨owner, member, contained⟩ :=
      (counted.keys hash).mp (List.mem_map_of_mem (f := Prod.fst) unreferenced)
    have zero : unpublishedWith plan ledger.published hash = 0 := by
      have found := lookup_of_mem counted.nodup unreferenced
      rw [counted.lookup member contained] at found
      exact Option.some.inj found
    have spared : ∀ entry ∈ plan.priorityPlan, UsesChunkFile entry hash →
        entry.manifestIndex ∈ ledger.published := by
      rintro entry among ⟨other, has, same⟩
      by_contra pending
      have equal := spelled owner member entry among hash other contained has same
      rw [← equal] at has
      exact not_hasChunk_of_zero zero among pending has
    exact ⟨⟨0, fun entry among uses pending => absurd (spared entry among uses) pending⟩, spared⟩

theorem evictUnreferenced_ensures {before : Ledger} {references : List (String × Nat)}
    (among : ∀ row ∈ references, row ∈ before.references)
    (enabled : Enabled setup.plan before watched.ledger) :
    Ensures (watchedHandler setup) (fun _ => True) (evictUnreferenced references) watched
      (fun _ later => Enabled setup.plan before later.ledger)
      (fun _ later => Enabled setup.plan before later.ledger) := by
  induction references generalizing watched with
  | nil => exact Ensures.done enabled
  | cons row rest ih =>
      have others : ∀ row ∈ rest, row ∈ before.references := fun other inside =>
        among other (List.mem_cons_of_mem _ inside)
      obtain ⟨hash, count⟩ := row
      cases count with
      | succ count => exact ih others enabled
      | zero =>
          have evicted := enabled.evicts (among _ List.mem_cons_self)
          have evict : Ensures (watchedHandler setup) (fun _ => True)
              (perform (.evictChunk hash)) watched
              (fun _ later => Enabled setup.plan before later.ledger)
              (fun _ later => Enabled setup.plan before later.ledger) := by
            apply Ensures.perform
            · intro _ _
              rw [ledger_evictChunk]
              exact evicted
            · rintro _ later _ (same | same)
              · rw [same]
                exact enabled
              · rw [same, ledger_evictChunk]
                exact evicted
          apply evict.bind
          intro removed later enabled
          apply (ih others enabled).bind
          intro _ _ done
          exact Ensures.done done

theorem enableChunkEviction_ensures (sound : Balanced setup.plan watched.ledger) :
    Ensures (watchedHandler setup) (fun _ => True) enableChunkEviction watched
      (fun _ later => Enabled setup.plan watched.ledger later.ledger)
      (fun _ later => Enabled setup.plan watched.ledger later.ledger) := by
  unfold enableChunkEviction
  apply recollect_then
  split
  · exact Ensures.throw ⟨sound, rfl, rfl, rfl⟩
  · apply remember_then
    exact evictUnreferenced_ensures (fun _ member => member) ⟨sound, rfl, rfl, rfl⟩

theorem enabled_of_run (sound : Balanced setup.plan watched.ledger)
    {outcome : Outcome StateError Nat} {final : Config restoreInterface StateError Watched}
    (run : Runs (watchedHandler setup) (fun _ _ _ => True) enableChunkEviction ⟨[], watched⟩
      outcome final) (survived : outcome ≠ .stopped) :
    Enabled setup.plan watched.ledger final.state.ledger := by
  have left := enableChunkEviction_ensures sound _ _ _ rfl run
  cases outcome with
  | value => exact left
  | error => exact left
  | stopped => exact absurd rfl survived

end Enabling

/-- What a transaction has come to by calls that the process survived, the milestones among
them that returned, and anything done to its files in between. -/
inductive Reached (setup : RestoreSetup) : List RestoreTarget → Watched → Prop where
  | opened (world : World) (fresh : world.transaction = Transaction.new setup.plan) :
      Reached setup [] ⟨world, []⟩
  | outside {returned : List RestoreTarget} {watched : Watched} (world : World)
      (reached : Reached setup returned watched)
      (same : world.transaction = watched.world.transaction) :
      Reached setup returned { watched with world := world }
  | published {returned : List RestoreTarget} {watched : Watched} {target : RestoreTarget}
      {report : RestoreReport} {final : Config restoreInterface StateError Watched}
      (reached : Reached setup returned watched)
      (run : Runs (watchedHandler setup) (fun _ event _ => Undisrupted event)
        (publishTo setup target) ⟨[], watched⟩ (.value report) final) :
      Reached setup (target :: returned) final.state
  | failed {returned : List RestoreTarget} {watched : Watched} {target : RestoreTarget}
      {error : StateError} {final : Config restoreInterface StateError Watched}
      (reached : Reached setup returned watched)
      (run : Runs (watchedHandler setup) (fun _ event _ => Undisrupted event)
        (publishTo setup target) ⟨[], watched⟩ (.error error) final) :
      Reached setup returned final.state
  | enabled {returned : List RestoreTarget} {watched : Watched}
      {outcome : Outcome StateError Nat} {final : Config restoreInterface StateError Watched}
      (reached : Reached setup returned watched)
      (run : Runs (watchedHandler setup) (fun _ _ _ => True) enableChunkEviction ⟨[], watched⟩
        outcome final)
      (survived : outcome ≠ .stopped) : Reached setup returned final.state

section Reached

variable {setup : RestoreSetup} {returned : List RestoreTarget} {watched : Watched}

theorem Reached.balanced (reached : Reached setup returned watched) :
    Balanced setup.plan watched.ledger := by
  induction reached with
  | opened world fresh =>
      constructor
      · have counted := counted_new setup.plan
        rw [← fresh] at counted
        exact counted
      · exact fun _ _ recorded => absurd recorded List.not_mem_nil
  | outside world _ same ih =>
      simp only [Watched.ledger, same] at ih ⊢
      exact ih
  | published _ run ih => exact (publishTo_ensures ih _ _ _ _ rfl run).sound
  | failed _ run ih => exact (publishTo_ensures ih _ _ _ _ rfl run).sound
  | enabled _ run survived ih => exact (enabled_of_run ih run survived).sound

end Reached

/-- Whatever calls are made and whichever fail, as long as no eviction fails while an entry is
published: the counts are exact, chunks are evicted only when the entries that need them are
written, no later call needs an evicted chunk and none finds a count too small. -/
theorem chunk_counts_exact (setup : RestoreSetup) {returned : List RestoreTarget}
    {watched : Watched} (reached : Reached setup returned watched) :
    Counted setup.plan watched.world.transaction ∧
      (OneSpelling setup.plan → ∀ eviction ∈ watched.evictions,
        SafeEviction setup.plan
            (fun index => index ∈ watched.world.transaction.publishedEntries) eviction ∧
          ∀ target planned tombstones,
            preflight setup watched.world.tree watched.world.transaction target =
              .ok (planned, tombstones) →
            ∀ entry ∈ planned, ∀ hash, HasChunk entry.file hash →
              ¬ SameChunkFile eviction.1 hash) ∧
      ∀ target error final,
        Runs (watchedHandler setup) (fun _ event _ => Undisrupted event) (publishTo setup target)
          ⟨[], watched⟩ (.error error) final → ¬ ReleaseError error := by
  have sound := reached.balanced
  refine ⟨sound.counted, ?_, ?_⟩
  · intro spelled eviction recorded
    have safe := sound.evicted spelled eviction recorded
    refine ⟨safe, ?_⟩
    intro target planned tombstones checked entry inside hash has same
    obtain ⟨found, member, _, file, new⟩ := (Publishing.start sound checked).pending entry inside
    rw [← file] at has
    exact new (safe.spared found member ⟨hash, has, same⟩)
  · intro target error final run
    exact (publishTo_ensures sound target _ _ _ rfl run).unrelated

namespace Sample

def byteHash : String := "2d3adedff11b61f14c886e35afa036736dcd87a74d27b5c1510225d0f592e213"

def byteFile (relative spelling : String) : ManifestFile :=
  { emptyFile relative with
    size := 1
    fileHash := "blake3:" ++ byteHash
    chunks := [⟨spelling, 1⟩] }

def byteSetup (files : List ManifestFile) : RestoreSetup :=
  { setupOf files [] with
    hash := fun bytes => if bytes = [0] then "blake3:" ++ byteHash else emptyHash }

def byteWorld (files : List ManifestFile) : Watched :=
  ⟨World.opened (byteSetup files) home [(byteHash, [0])] false, []⟩

def twoCalls (setup : RestoreSetup) : RestoreProg RestoreReport := do
  let _ ← enableChunkEviction
  let _ ← (publishTo setup .complete).attempt
  publishTo setup .complete

def sharingFiles : List ManifestFile := [byteFile "a" byteHash, byteFile "b" byteHash]

def singleFile : List ManifestFile := [byteFile "a" byteHash]

def spelledFiles : List ManifestFile :=
  [byteFile "a" ("blake3:" ++ byteHash), byteFile "b" byteHash]

def answered (_ : Config restoreInterface StateError Watched)
    (event : Event restoreInterface StateError) (_ : Watched) : Bool :=
  match event.reply with
  | .ok _ => true
  | .error _ => false

theorem answered_undisrupted (config : Config restoreInterface StateError Watched)
    (event : Event restoreInterface StateError) (later : Watched)
    (passed : answered config event later = true) : Undisrupted event := by
  intro error failed
  simp [answered, failed] at passed

def enabled : Watched :=
  (enableChunkEviction.exec (watchedHandler (byteSetup sharingFiles)) []
    ⟨[], byteWorld sharingFiles⟩).2.2.state

def published : Watched :=
  ((publishTo (byteSetup sharingFiles) .complete).exec (watchedHandler (byteSetup sharingFiles)) []
    ⟨[], enabled⟩).2.2.state

theorem enabled_reached : Reached (byteSetup sharingFiles) [] enabled := by
  have ends : (enableChunkEviction.exec (watchedHandler (byteSetup sharingFiles)) []
      ⟨[], byteWorld sharingFiles⟩).1 = .value 0 := by
    decide +kernel
  have opened : Reached (byteSetup sharingFiles) [] (byteWorld sharingFiles) :=
    Reached.opened _ rfl
  exact Reached.enabled opened (exec_ends ends) nofun

theorem published_reached : Reached (byteSetup sharingFiles) [.complete] published := by
  have run : (publishTo (byteSetup sharingFiles) .complete).follows
        (watchedHandler (byteSetup sharingFiles)) answered [] ⟨[], enabled⟩ = true ∧
      ((publishTo (byteSetup sharingFiles) .complete).exec
        (watchedHandler (byteSetup sharingFiles)) [] ⟨[], enabled⟩).1 =
          .value ⟨[["h", "a"], ["h", "b"]], 2, 0⟩ := by
    decide +kernel
  exact Reached.published enabled_reached (follows_ends answered_undisrupted run.1 run.2)

def signals : List (Signal StateError) := List.replicate 15 .proceed ++ [.refuse (.io .other)]

def underflown : Config restoreInterface StateError Watched :=
  ((twoCalls (byteSetup singleFile)).exec (watchedHandler (byteSetup singleFile)) signals
    ⟨[], byteWorld singleFile⟩).2.2

def misspelled : Watched :=
  ((twoCalls (byteSetup spelledFiles)).eval (watchedHandler (byteSetup spelledFiles))
    (byteWorld spelledFiles)).2

end Sample

theorem shared_chunk_counted :
    ∃ watched, Reached (Sample.byteSetup Sample.sharingFiles) [.complete] watched ∧
      watched.evictions = [(Sample.byteHash, [0])] ∧
      Counted (Sample.byteSetup Sample.sharingFiles).plan watched.world.transaction := by
  have evicted : Sample.published.evictions = [(Sample.byteHash, [0])] := by decide +kernel
  have sound := chunk_counts_exact (Sample.byteSetup Sample.sharingFiles) Sample.published_reached
  exact ⟨Sample.published, Sample.published_reached, evicted, sound.1⟩

/-- A chunk that cannot be removed leaves its entry unpublished with a count of zero, so that
the next call finds the count too small. A chunk spelled in two ways is evicted while its other
entry is still to be published. -/
theorem chunk_counts_fail :
    (∃ final,
      Runs (watchedHandler (Sample.byteSetup Sample.singleFile)) (fun _ _ _ => True)
          (Sample.twoCalls (Sample.byteSetup Sample.singleFile))
          ⟨[], Sample.byteWorld Sample.singleFile⟩
          (.error (.invalid
            ("restore chunk reference count underflow for " ++ Sample.byteHash))) final ∧
        final.state.world.transaction.remainingChunkRefs = [(Sample.byteHash, 0)] ∧
        unpublishedWith (Sample.byteSetup Sample.singleFile).plan
          final.state.world.transaction.publishedEntries Sample.byteHash = 1) ∧
    ∃ final,
      (Sample.twoCalls (Sample.byteSetup Sample.spelledFiles)).eval
          (watchedHandler (Sample.byteSetup Sample.spelledFiles))
          (Sample.byteWorld Sample.spelledFiles) = (.error (.io .notFound), final) ∧
        final.evictions = [("blake3:" ++ Sample.byteHash, [])] ∧
        final.world.transaction.publishedEntries = [0] ∧
        unpublishedWith (Sample.byteSetup Sample.spelledFiles).plan [0] Sample.byteHash = 1 ∧
        SameChunkFile ("blake3:" ++ Sample.byteHash) Sample.byteHash := by
  constructor
  · have ends : ((Sample.twoCalls (Sample.byteSetup Sample.singleFile)).exec
        (watchedHandler (Sample.byteSetup Sample.singleFile)) Sample.signals
        ⟨[], Sample.byteWorld Sample.singleFile⟩).1 = .error (.invalid
          ("restore chunk reference count underflow for " ++ Sample.byteHash)) ∧
        Sample.underflown.state.world.transaction.remainingChunkRefs =
          [(Sample.byteHash, 0)] ∧
        unpublishedWith (Sample.byteSetup Sample.singleFile).plan
          Sample.underflown.state.world.transaction.publishedEntries Sample.byteHash = 1 := by
      decide +kernel
    exact ⟨Sample.underflown, exec_ends ends.1, ends.2⟩
  · have ends : ((Sample.twoCalls (Sample.byteSetup Sample.spelledFiles)).eval
        (watchedHandler (Sample.byteSetup Sample.spelledFiles))
        (Sample.byteWorld Sample.spelledFiles)).1 = .error (.io .notFound) ∧
        Sample.misspelled.evictions = [("blake3:" ++ Sample.byteHash, [])] ∧
        Sample.misspelled.world.transaction.publishedEntries = [0] ∧
        unpublishedWith (Sample.byteSetup Sample.spelledFiles).plan [0] Sample.byteHash = 1 := by
      decide +kernel
    have same : SameChunkFile ("blake3:" ++ Sample.byteHash) Sample.byteHash :=
      ⟨Sample.byteHash, by decide +kernel, by decide +kernel⟩
    exact ⟨Sample.misspelled, eval_ends ends.1, ends.2.1, ends.2.2.1, ends.2.2.2, same⟩

end Noland.Restore
