import Noland.Restore.Planner

/-!
The chunks that the entries of a milestone need are looked up in the pack index and grouped by
pack, except those that are already present. The plan fails only when a needed chunk has no entry.
-/

namespace Noland.Restore

open Noland.Core

structure PackJob where
  packId : String
  priority : RestorePriority
  entries : List PackIndexEntry
  expectedSize : Nat
  deriving DecidableEq

def minPriority (left right : RestorePriority) : RestorePriority :=
  if right.rank < left.rank then right else left

def addNeeded (needed : List (String × RestorePriority)) (hash : String)
    (priority : RestorePriority) : List (String × RestorePriority) :=
  if needed.any fun known => known.1 = hash then
    needed.map fun known =>
      if known.1 = hash then (known.1, minPriority known.2 priority) else known
  else needed ++ [(hash, priority)]

def neededChunks (entries : List RestorePlanEntry) : List (String × RestorePriority) :=
  ((entries.flatMap fun entry => entry.file.chunks.map fun chunk => (chunk.hash, entry.priority)).foldl
    (fun needed chunk => addNeeded needed chunk.1 chunk.2) []).insertionSort
    fun left right => left.1 ≤ right.1

def recordEnd (entry : PackIndexEntry) : Nat :=
  saturatingAdd (saturatingAdd (saturatingAdd entry.offset 12) entry.nonce.length)
    entry.ciphertextLen

def packSize (index : List PackIndexEntry) (packId : String) : Nat :=
  ((index.filter fun entry => entry.packId = packId).map recordEnd).foldl max 0

def indexEntryLe (left right : PackIndexEntry) : Bool :=
  if left.chunkHash ≠ right.chunkHash then left.chunkHash < right.chunkHash
  else if left.packId ≠ right.packId then left.packId < right.packId
  else left.offset ≤ right.offset

def entryByHash (index : List PackIndexEntry) (hash : String) : Option PackIndexEntry :=
  (index.insertionSort fun left right => indexEntryLe left right).reverse.find? fun entry =>
    entry.chunkHash = hash

def addEntry (index : List PackIndexEntry) (jobs : List PackJob) (entry : PackIndexEntry)
    (priority : RestorePriority) : List PackJob :=
  if jobs.any fun job => job.packId = entry.packId then
    jobs.map fun job =>
      if job.packId = entry.packId then
        { job with
          priority := minPriority job.priority priority
          entries := job.entries ++ [entry] }
      else job
  else jobs ++ [⟨entry.packId, priority, [entry], packSize index entry.packId⟩]

/-- `verified` tells which chunks are present with the right size and hash. -/
def groupMissing (index : List PackIndexEntry) (verified : PackIndexEntry → Bool) :
    List (String × RestorePriority) → List PackJob → Nat → Except StateError (List PackJob × Nat)
  | [], jobs, reused => .ok (jobs, reused)
  | (hash, priority) :: rest, jobs, reused =>
      match entryByHash index hash with
      | none => .error (.notFound ("pack index entry for chunk " ++ hash))
      | some entry =>
          if verified entry then groupMissing index verified rest jobs (reused + 1)
          else groupMissing index verified rest (addEntry index jobs entry priority) reused

def PackJob.sortEntries (job : PackJob) : PackJob :=
  { job with
    entries := job.entries.insertionSort fun left right =>
      left.offset < right.offset ∨ (left.offset = right.offset ∧ left.chunkHash ≤ right.chunkHash) }

def packJobLe (left right : PackJob) : Bool :=
  left.priority.rank < right.priority.rank ||
    (left.priority.rank = right.priority.rank && left.packId ≤ right.packId)

def planMissingPackJobs (manifest : BundleManifest) (mode : RestoreMode)
    (index : List PackIndexEntry) (verified : PackIndexEntry → Bool) (target : RestoreTarget) :
    Except StateError (List PackJob × Nat) := do
  let (jobs, reused) ← groupMissing index verified
    (neededChunks (entriesFor (planRestorePriorities manifest mode) target)) [] 0
  .ok ((jobs.map PackJob.sortEntries).insertionSort fun left right => packJobLe left right, reused)

theorem entryByHash_of_mem {index : List PackIndexEntry} {entry : PackIndexEntry}
    (member : entry ∈ index) : ∃ found, entryByHash index entry.chunkHash = some found := by
  unfold entryByHash
  rw [← Option.isSome_iff_exists, List.find?_isSome]
  exact ⟨entry, by simpa using member, by simp⟩

theorem mem_addNeeded {needed : List (String × RestorePriority)} {hash : String}
    {priority : RestorePriority} {known : String × RestorePriority}
    (member : known ∈ addNeeded needed hash priority) :
    known.1 = hash ∨ ∃ old ∈ needed, old.1 = known.1 := by
  unfold addNeeded at member
  split at member
  · obtain ⟨old, inside, rfl⟩ := List.mem_map.mp member
    refine Or.inr ⟨old, inside, ?_⟩
    split
    · rfl
    · rfl
  · rcases List.mem_append.mp member with old | new
    · exact Or.inr ⟨known, old, rfl⟩
    · rw [List.mem_singleton.mp new]
      exact Or.inl rfl

theorem mem_neededChunks {entries : List RestorePlanEntry} {known : String × RestorePriority}
    (member : known ∈ neededChunks entries) :
    ∃ entry ∈ entries, ∃ chunk ∈ entry.file.chunks, chunk.hash = known.1 := by
  have folded : ∀ (chunks needed : List (String × RestorePriority)),
      ∀ known ∈ chunks.foldl (fun needed chunk => addNeeded needed chunk.1 chunk.2) needed,
        (∃ chunk ∈ chunks, chunk.1 = known.1) ∨ ∃ old ∈ needed, old.1 = known.1 := by
    intro chunks
    induction chunks with
    | nil => exact fun needed known inside => Or.inr ⟨known, inside, rfl⟩
    | cons chunk rest ih =>
        intro needed known inside
        rcases ih _ known inside with ⟨later, among, same⟩ | ⟨old, before, same⟩
        · exact Or.inl ⟨later, List.mem_cons_of_mem _ among, same⟩
        · rcases mem_addNeeded before with here | ⟨older, earlier, equal⟩
          · exact Or.inl ⟨chunk, List.mem_cons_self, here.symm.trans same⟩
          · exact Or.inr ⟨older, earlier, equal.trans same⟩
  unfold neededChunks at member
  rw [List.mem_insertionSort] at member
  rcases folded _ _ known member with ⟨⟨hash, priority⟩, inside, same⟩ | ⟨_, empty, _⟩
  · obtain ⟨entry, among, listed⟩ := List.mem_flatMap.mp inside
    obtain ⟨chunk, of_file, equal⟩ := List.mem_map.mp listed
    exact ⟨entry, among, chunk, of_file, (congrArg Prod.fst equal).trans same⟩
  · cases empty

theorem groupMissing_ok {index : List PackIndexEntry} {verified : PackIndexEntry → Bool}
    {needed : List (String × RestorePriority)}
    (indexed : ∀ chunk ∈ needed, ∃ entry ∈ index, entry.chunkHash = chunk.1)
    (jobs : List PackJob) (reused : Nat) :
    ∃ result, groupMissing index verified needed jobs reused = .ok result := by
  induction needed generalizing jobs reused with
  | nil => exact ⟨_, rfl⟩
  | cons chunk rest ih =>
      obtain ⟨entry, member, same⟩ := indexed chunk List.mem_cons_self
      obtain ⟨found, looked⟩ := entryByHash_of_mem member
      rw [same] at looked
      have later : ∀ chunk ∈ rest, ∃ entry ∈ index, entry.chunkHash = chunk.1 :=
        fun other inside => indexed other (List.mem_cons_of_mem _ inside)
      unfold groupMissing
      rw [looked]
      by_cases present : verified found = true
      · simpa [present] using ih later jobs (reused + 1)
      · simpa [present] using ih later (addEntry index jobs found chunk.2) reused

theorem planMissingPackJobs_ok {manifest : BundleManifest} {index : List PackIndexEntry}
    (indexed : ∀ file ∈ manifest.files, ∀ chunk ∈ file.chunks,
      ∃ entry ∈ index, entry.chunkHash = chunk.hash)
    (mode : RestoreMode) (verified : PackIndexEntry → Bool) (target : RestoreTarget) :
    ∃ result, planMissingPackJobs manifest mode index verified target = .ok result := by
  have needed : ∀ chunk ∈ neededChunks (entriesFor (planRestorePriorities manifest mode) target),
      ∃ entry ∈ index, entry.chunkHash = chunk.1 := by
    intro chunk member
    obtain ⟨entry, inside, reference, of_file, same⟩ := mem_neededChunks member
    have planned := (List.mem_filter.mp inside).1
    obtain ⟨found, among, equal⟩ :=
      indexed _ (file_of_mem_planRestorePriorities planned).1 reference of_file
    exact ⟨found, among, equal.trans same⟩
  obtain ⟨⟨jobs, reused⟩, grouped⟩ := groupMissing_ok needed [] 0
  unfold planMissingPackJobs
  rw [grouped]
  exact ⟨_, rfl⟩

end Noland.Restore
