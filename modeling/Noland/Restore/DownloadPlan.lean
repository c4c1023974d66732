import Mathlib.Data.List.Perm.Basic
import Noland.Lib.Keyed
import Noland.Lib.Sorting
import Noland.Restore.Download
import Noland.Restore.EmbeddedPlan
import Noland.Restore.Operations

/-!
Each table that `plan_missing_pack_jobs` builds has one row for each key, so the jobs are known
from the missing chunks. A chunk that is present is looked up in the index as well, because its
size comes from there.
-/

namespace Noland.Restore

open Noland.Core Noland.Keyed Noland.Sorting

/-- The chunk files of a workspace by their names, and the hash of a content. -/
structure LocalChunks where
  hash : List UInt8 → String
  file : String → Option (List UInt8)

def chunkFileName (hash : String) : String :=
  String.ofList (trimLabel hash.length hash.toList)

/-- `verified_file`: the file has the size and the hash of the index entry. -/
def LocalChunks.verified (chunks : LocalChunks) (entry : PackIndexEntry) : Bool :=
  match chunks.file (chunkFileName entry.chunkHash) with
  | some bytes => bytes.length = entry.plaintextLen && chunks.hash bytes = entry.chunkHash
  | none => false

def LocalChunks.Present (chunks : LocalChunks) (hash : String) : Prop :=
  ∃ bytes, chunks.file (chunkFileName hash) = some bytes ∧ chunks.hash bytes = hash

def NeededAt (entries : List RestorePlanEntry) (hash : String) (priority : RestorePriority) :
    Prop :=
  ∃ entry ∈ entries, entry.priority = priority ∧ ∃ chunk ∈ entry.file.chunks, chunk.hash = hash

theorem minPriority_le_left (left right : RestorePriority) :
    (minPriority left right).rank ≤ left.rank := by
  unfold minPriority
  split
  · omega
  · exact Nat.le_refl _

theorem minPriority_le_right (left right : RestorePriority) :
    (minPriority left right).rank ≤ right.rank := by
  unfold minPriority
  split
  · exact Nat.le_refl _
  · omega

theorem minPriority_eq (left right : RestorePriority) :
    minPriority left right = left ∨ minPriority left right = right := by
  unfold minPriority
  split
  · exact Or.inr rfl
  · exact Or.inl rfl

theorem foldl_minPriority (first : RestorePriority) (rest : List RestorePriority) :
    rest.foldl minPriority first ∈ first :: rest ∧
      ∀ priority ∈ first :: rest, (rest.foldl minPriority first).rank ≤ priority.rank := by
  induction rest generalizing first with
  | nil => simp
  | cons second rest ih =>
      obtain ⟨among, least⟩ := ih (minPriority first second)
      rw [List.foldl_cons]
      constructor
      · rcases List.mem_cons.mp among with here | later
        · rw [here]
          rcases minPriority_eq first second with left | right
          · rw [left]
            exact List.mem_cons_self
          · rw [right]
            exact List.mem_cons_of_mem _ List.mem_cons_self
        · exact List.mem_cons_of_mem _ (List.mem_cons_of_mem _ later)
      · intro priority member
        have head := least _ List.mem_cons_self
        rcases List.mem_cons.mp member with rfl | others
        · exact Nat.le_trans head (minPriority_le_left _ _)
        · rcases List.mem_cons.mp others with rfl | later
          · exact Nat.le_trans head (minPriority_le_right _ _)
          · exact least priority (List.mem_cons_of_mem _ later)

def chunksOf (entries : List RestorePlanEntry) : List (String × RestorePriority) :=
  entries.flatMap fun entry => entry.file.chunks.map fun chunk => (chunk.hash, entry.priority)

variable {priority : RestorePriority}

theorem mem_chunksOf {entries : List RestorePlanEntry} {hash : String} :
    (hash, priority) ∈ chunksOf entries ↔ NeededAt entries hash priority := by
  unfold chunksOf NeededAt
  simp only [List.mem_flatMap, List.mem_map, Prod.mk.injEq]
  constructor
  · rintro ⟨entry, among, chunk, of_file, same, tier⟩
    exact ⟨entry, among, tier, chunk, of_file, same⟩
  · rintro ⟨entry, among, tier, chunk, of_file, same⟩
    exact ⟨entry, among, chunk, of_file, same, tier⟩

/-- A row of the needed chunks, changed by another entry that needs it. -/
def urgent (known item : String × RestorePriority) : String × RestorePriority :=
  (known.1, minPriority known.2 item.2)

theorem foldl_urgent (rest : List (String × RestorePriority)) (first : String × RestorePriority) :
    rest.foldl urgent first = (first.1, (rest.map Prod.snd).foldl minPriority first.2) := by
  induction rest generalizing first with
  | nil => rfl
  | cons item rest ih =>
      rw [List.foldl_cons, ih]
      rfl

theorem tabulates_needed (items : List (String × RestorePriority)) :
    Tabulates Prod.fst Prod.fst urgent id items
      (items.foldl (fun needed chunk => addNeeded needed chunk.1 chunk.2) []) := by
  have table : Tabulates Prod.fst Prod.fst urgent id items
      (items.foldl (upsert Prod.fst Prod.fst urgent id) []) := by
    apply tabulates_foldl
    · intro item
      rfl
    · intro row item
      rfl
  exact table

theorem needed_of_mem {entries : List RestorePlanEntry} {hash : String}
    (member : (hash, priority) ∈ neededChunks entries) :
    NeededAt entries hash priority ∧
      ∀ other, NeededAt entries hash other → priority.rank ≤ other.rank := by
  unfold neededChunks at member
  rw [List.mem_insertionSort] at member
  obtain ⟨first, rest, listed, folded⟩ :=
    ((tabulates_needed (chunksOf entries)).mem_iff _).mp member
  rw [foldl_urgent] at folded
  have tier : priority = (rest.map Prod.snd).foldl minPriority first.2 := (Prod.mk.inj folded).2
  obtain ⟨among, least⟩ := foldl_minPriority first.2 (rest.map Prod.snd)
  rw [← tier, ← List.map_cons, ← listed] at among
  rw [← tier, ← List.map_cons, ← listed] at least
  constructor
  · obtain ⟨⟨same, other⟩, inside, rfl⟩ := List.mem_map.mp among
    obtain ⟨of_chunks, equal⟩ := List.mem_filter.mp inside
    have hash_same : same = hash := of_decide_eq_true equal
    rw [hash_same] at of_chunks
    exact mem_chunksOf.mp of_chunks
  · intro other needed
    apply least
    refine List.mem_map.mpr ⟨(hash, other), List.mem_filter.mpr ⟨?_, decide_eq_true rfl⟩, rfl⟩
    exact mem_chunksOf.mpr needed

theorem exists_mem_neededChunks {entries : List RestorePlanEntry} {hash : String}
    (needed : NeededAt entries hash priority) : ∃ tier, (hash, tier) ∈ neededChunks entries := by
  obtain ⟨⟨same, tier⟩, member, rfl⟩ := (tabulates_needed (chunksOf entries)).exists_row
    (fun _ => rfl) (fun _ _ => rfl) (mem_chunksOf.mpr needed)
  refine ⟨tier, ?_⟩
  unfold neededChunks
  rw [List.mem_insertionSort]
  exact member

theorem neededChunks_nodup (entries : List RestorePlanEntry) :
    ((neededChunks entries).map Prod.fst).Nodup := by
  have table := tabulates_needed (chunksOf entries)
  unfold neededChunks
  exact ((List.perm_insertionSort _ _).map _).nodup_iff.mpr table.nodup

abbrev MissingChunk := PackIndexEntry × RestorePriority

def missingChunks (index : List PackIndexEntry) (verified : PackIndexEntry → Bool)
    (needed : List (String × RestorePriority)) : List MissingChunk :=
  needed.filterMap fun chunk =>
    match entryByHash index chunk.1 with
    | some entry => if verified entry then none else some (entry, chunk.2)
    | none => none

theorem groupMissing_eq {index : List PackIndexEntry} {verified : PackIndexEntry → Bool}
    {needed : List (String × RestorePriority)}
    (indexed : ∀ chunk ∈ needed, ∃ entry, entryByHash index chunk.1 = some entry)
    (jobs : List PackJob) (reused : Nat) : ∃ total,
      groupMissing index verified needed jobs reused =
        .ok ((missingChunks index verified needed).foldl
          (fun jobs missing => addEntry index jobs missing.1 missing.2) jobs, total) := by
  induction needed generalizing jobs reused with
  | nil => exact ⟨reused, rfl⟩
  | cons chunk rest ih =>
      obtain ⟨entry, found⟩ := indexed chunk List.mem_cons_self
      have later : ∀ chunk ∈ rest, ∃ entry, entryByHash index chunk.1 = some entry :=
        fun other member => indexed other (List.mem_cons_of_mem _ member)
      unfold groupMissing missingChunks
      rw [List.filterMap_cons, found]
      by_cases present : verified entry = true
      · simp only [present, if_true]
        exact ih later jobs (reused + 1)
      · simp only [present]
        exact ih later (addEntry index jobs entry chunk.2) reused

theorem groupMissing_error {index : List PackIndexEntry} (verified : PackIndexEntry → Bool)
    {needed : List (String × RestorePriority)} {chunk : String × RestorePriority}
    (member : chunk ∈ needed) (absent : entryByHash index chunk.1 = none)
    (jobs : List PackJob) (reused : Nat) :
    ∃ error, groupMissing index verified needed jobs reused = .error error := by
  induction needed generalizing jobs reused with
  | nil => cases member
  | cons first rest ih =>
      unfold groupMissing
      cases found : entryByHash index first.1 with
      | none => exact ⟨_, rfl⟩
      | some entry =>
          rcases List.mem_cons.mp member with rfl | later
          · rw [absent] at found
            cases found
          · dsimp only
            split
            · exact ih later jobs (reused + 1)
            · exact ih later (addEntry index jobs entry first.2) reused

theorem entryByHash_some {index : List PackIndexEntry} {hash : String} {entry : PackIndexEntry}
    (found : entryByHash index hash = some entry) : entry ∈ index ∧ entry.chunkHash = hash := by
  unfold entryByHash at found
  have inside := List.mem_of_find?_eq_some found
  have same := List.find?_some found
  rw [List.mem_reverse, List.mem_insertionSort] at inside
  exact ⟨inside, of_decide_eq_true same⟩

theorem entryByHash_none {index : List PackIndexEntry} {hash : String} :
    entryByHash index hash = none ↔ ∀ entry ∈ index, entry.chunkHash ≠ hash := by
  constructor
  · intro absent entry member same
    obtain ⟨found, looked⟩ := entryByHash_of_mem member
    rw [same, absent] at looked
    cases looked
  · intro absent
    cases looked : entryByHash index hash with
    | none => rfl
    | some entry =>
        obtain ⟨member, same⟩ := entryByHash_some looked
        exact absurd same (absent entry member)

def PackJob.join (job : PackJob) (missing : MissingChunk) : PackJob :=
  { job with
    priority := minPriority job.priority missing.2
    entries := job.entries ++ [missing.1] }

def PackJob.first (index : List PackIndexEntry) (missing : MissingChunk) : PackJob :=
  ⟨missing.1.packId, missing.2, [missing.1], packSize index missing.1.packId⟩

theorem tabulates_jobs (index : List PackIndexEntry) (missing : List MissingChunk) :
    Tabulates PackJob.packId (fun missing : MissingChunk => missing.1.packId) PackJob.join
      (PackJob.first index) missing
      (missing.foldl (fun jobs missing => addEntry index jobs missing.1 missing.2) []) := by
  have table : Tabulates PackJob.packId (fun missing : MissingChunk => missing.1.packId)
      PackJob.join (PackJob.first index) missing
      (missing.foldl (upsert PackJob.packId (fun missing : MissingChunk => missing.1.packId)
        PackJob.join (PackJob.first index)) []) := by
    apply tabulates_foldl
    · intro missing
      rfl
    · intro job missing
      rfl
  exact table

theorem foldl_join (rest : List MissingChunk) (job : PackJob) : rest.foldl PackJob.join job =
    { job with
      priority := (rest.map Prod.snd).foldl minPriority job.priority
      entries := job.entries ++ rest.map Prod.fst } := by
  induction rest generalizing job with
  | nil => simp
  | cons missing rest ih =>
      rw [List.foldl_cons, ih]
      simp [PackJob.join]

structure JobOf (index : List PackIndexEntry) (missing : List MissingChunk) (job : PackJob) :
    Prop where
  entries : job.entries = (missing.filter fun chunk => chunk.1.packId = job.packId).map Prod.fst
  reached : ∃ chunk ∈ missing, chunk.1.packId = job.packId ∧ chunk.2 = job.priority
  least : ∀ chunk ∈ missing, chunk.1.packId = job.packId → job.priority.rank ≤ chunk.2.rank
  size : job.expectedSize = packSize index job.packId

theorem jobOf_of_mem {index : List PackIndexEntry} {missing : List MissingChunk} {job : PackJob}
    (member : job ∈ missing.foldl
      (fun jobs missing => addEntry index jobs missing.1 missing.2) []) :
    JobOf index missing job := by
  obtain ⟨first, rest, listed, folded⟩ := ((tabulates_jobs index missing).mem_iff job).mp member
  rw [foldl_join] at folded
  have pack : job.packId = first.1.packId := congrArg PackJob.packId folded
  have tier : job.priority = (rest.map Prod.snd).foldl minPriority first.2 :=
    congrArg PackJob.priority folded
  obtain ⟨among, least⟩ := foldl_minPriority first.2 (rest.map Prod.snd)
  rw [← tier, ← List.map_cons, ← listed] at among
  rw [← tier, ← List.map_cons, ← listed] at least
  constructor
  · rw [listed]
    exact congrArg PackJob.entries folded
  · obtain ⟨chunk, inside, same⟩ := List.mem_map.mp among
    obtain ⟨of_missing, of_pack⟩ := List.mem_filter.mp inside
    exact ⟨chunk, of_missing, of_decide_eq_true of_pack, same⟩
  · intro chunk of_missing of_pack
    apply least
    exact List.mem_map.mpr ⟨chunk, List.mem_filter.mpr ⟨of_missing, decide_eq_true of_pack⟩, rfl⟩
  · rw [pack]
    exact congrArg PackJob.expectedSize folded

theorem mem_missingChunks {index : List PackIndexEntry} {verified : PackIndexEntry → Bool}
    {needed : List (String × RestorePriority)} {entry : PackIndexEntry} :
    (entry, priority) ∈ missingChunks index verified needed ↔
      (entry.chunkHash, priority) ∈ needed ∧ entryByHash index entry.chunkHash = some entry ∧
        verified entry = false := by
  unfold missingChunks
  rw [List.mem_filterMap]
  constructor
  · rintro ⟨⟨hash, tier⟩, member, picked⟩
    dsimp only at picked
    cases found : entryByHash index hash with
    | none =>
        rw [found] at picked
        cases picked
    | some other =>
        rw [found] at picked
        by_cases present : verified other = true
        · simp only [present, if_true] at picked
          cases picked
        · simp only [present] at picked
          obtain ⟨rfl, rfl⟩ := Prod.mk.inj (Option.some.inj picked)
          have same := (entryByHash_some found).2
          rw [same]
          exact ⟨member, found, Bool.eq_false_iff.mpr present⟩
  · rintro ⟨member, found, absent⟩
    refine ⟨(entry.chunkHash, priority), member, ?_⟩
    simp [found, absent]

theorem missingChunks_sublist (index : List PackIndexEntry) (verified : PackIndexEntry → Bool)
    (needed : List (String × RestorePriority)) :
    ((missingChunks index verified needed).map fun chunk => chunk.1.chunkHash).Sublist
      (needed.map Prod.fst) := by
  induction needed with
  | nil => exact List.Sublist.refl _
  | cons chunk rest ih =>
      unfold missingChunks at ih ⊢
      rw [List.filterMap_cons]
      cases found : entryByHash index chunk.1 with
      | none => exact ih.cons _
      | some entry =>
          by_cases present : verified entry = true
          · simp only [present, if_true]
            exact ih.cons _
          · simp only [present]
            have same := (entryByHash_some found).2
            show List.Sublist (entry.chunkHash :: _) (chunk.1 :: _)
            rw [same]
            exact ih.cons_cons _

/-- Each needed chunk that is not verified is in one job, that of its pack; a pack has one
job, with the most urgent tier of the entries that need its chunks. -/
structure JobsExact (index : List PackIndexEntry) (verified : PackIndexEntry → Bool)
    (entries : List RestorePlanEntry) (jobs : List PackJob) : Prop where
  covered : ∀ hash tier entry, NeededAt entries hash tier →
    entryByHash index hash = some entry → verified entry = false →
      ∃ job ∈ jobs, job.packId = entry.packId ∧ entry ∈ job.entries
  only : ∀ job ∈ jobs, ∀ entry ∈ job.entries, (∃ tier, NeededAt entries entry.chunkHash tier) ∧
    entryByHash index entry.chunkHash = some entry ∧ verified entry = false ∧
      entry.packId = job.packId
  once : ((jobs.flatMap PackJob.entries).map PackIndexEntry.chunkHash).Nodup
  packs : (jobs.map PackJob.packId).Nodup
  reached : ∀ job ∈ jobs, ∃ entry ∈ job.entries, NeededAt entries entry.chunkHash job.priority
  least : ∀ job ∈ jobs, ∀ entry ∈ job.entries, ∀ tier,
    NeededAt entries entry.chunkHash tier → job.priority.rank ≤ tier.rank

variable {index : List PackIndexEntry} {verified : PackIndexEntry → Bool}
  {entries : List RestorePlanEntry}

def groupedJobs (index : List PackIndexEntry) (verified : PackIndexEntry → Bool)
    (entries : List RestorePlanEntry) : List PackJob :=
  (missingChunks index verified (neededChunks entries)).foldl
    (fun jobs missing => addEntry index jobs missing.1 missing.2) []

theorem mem_entries_groupedJobs {job : PackJob} (member : job ∈ groupedJobs index verified entries)
    {entry : PackIndexEntry} : entry ∈ job.entries ↔ entry.packId = job.packId ∧
      ∃ tier, (entry, tier) ∈ missingChunks index verified (neededChunks entries) := by
  rw [(jobOf_of_mem member).entries, List.mem_map]
  constructor
  · rintro ⟨⟨same, tier⟩, inside, rfl⟩
    obtain ⟨of_missing, of_pack⟩ := List.mem_filter.mp inside
    exact ⟨of_decide_eq_true of_pack, tier, of_missing⟩
  · rintro ⟨of_pack, tier, of_missing⟩
    exact ⟨(entry, tier), List.mem_filter.mpr ⟨of_missing, decide_eq_true of_pack⟩, rfl⟩

theorem hashes_nodup (index : List PackIndexEntry) (verified : PackIndexEntry → Bool)
    (entries : List RestorePlanEntry) :
    ((groupedJobs index verified entries).flatMap fun job =>
      job.entries.map PackIndexEntry.chunkHash).Nodup := by
  rw [List.nodup_flatMap]
  constructor
  · intro job member
    rw [(jobOf_of_mem member).entries, List.map_map]
    have distinct := (neededChunks_nodup entries).sublist
      (missingChunks_sublist index verified (neededChunks entries))
    exact distinct.sublist (List.filter_sublist.map _)
  · have packs := (tabulates_jobs index
      (missingChunks index verified (neededChunks entries))).nodup
    have apart := List.pairwise_map.mp packs
    apply apart.imp_of_mem
    intro left right of_left of_right different hash in_left in_right
    obtain ⟨first, inside, rfl⟩ := List.mem_map.mp in_left
    obtain ⟨second, among, same⟩ := List.mem_map.mp in_right
    obtain ⟨first_pack, _, first_missing⟩ := (mem_entries_groupedJobs of_left).mp inside
    obtain ⟨second_pack, _, second_missing⟩ := (mem_entries_groupedJobs of_right).mp among
    have first_found := (mem_missingChunks.mp first_missing).2.1
    have second_found := (mem_missingChunks.mp second_missing).2.1
    rw [same, first_found] at second_found
    apply different
    rw [← first_pack, ← second_pack, Option.some.inj second_found]

theorem jobsExact_groupedJobs (index : List PackIndexEntry) (verified : PackIndexEntry → Bool)
    (entries : List RestorePlanEntry) :
    JobsExact index verified entries (groupedJobs index verified entries) where
  covered := by
    intro hash tier entry needed found absent
    obtain ⟨least, member⟩ := exists_mem_neededChunks needed
    have same := (entryByHash_some found).2
    have missing : (entry, least) ∈ missingChunks index verified (neededChunks entries) :=
      mem_missingChunks.mpr ⟨same.symm ▸ member, same.symm ▸ found, absent⟩
    obtain ⟨job, inside, pack⟩ := (tabulates_jobs index _).exists_row (fun _ => rfl)
      (fun _ _ => rfl) missing
    exact ⟨job, inside, pack, (mem_entries_groupedJobs inside).mpr ⟨pack.symm, least, missing⟩⟩
  only := by
    intro job member entry inside
    obtain ⟨pack, tier, missing⟩ := (mem_entries_groupedJobs member).mp inside
    obtain ⟨needed, found, absent⟩ := mem_missingChunks.mp missing
    exact ⟨⟨tier, (needed_of_mem needed).1⟩, found, absent, pack⟩
  once := by
    rw [List.map_flatMap]
    exact hashes_nodup index verified entries
  packs := (tabulates_jobs index _).nodup
  reached := by
    intro job member
    obtain ⟨⟨entry, _⟩, missing, pack, rfl⟩ := (jobOf_of_mem member).reached
    have needed := (mem_missingChunks.mp missing).1
    exact ⟨entry, (mem_entries_groupedJobs member).mpr ⟨pack, _, missing⟩,
      (needed_of_mem needed).1⟩
  least := by
    intro job member entry inside tier needed
    obtain ⟨pack, most_urgent, missing⟩ := (mem_entries_groupedJobs member).mp inside
    have lower := (jobOf_of_mem member).least _ missing pack
    have upper := (needed_of_mem (mem_missingChunks.mp missing).1).2 tier needed
    exact Nat.le_trans lower upper

theorem JobsExact.of_perm {jobs sorted : List PackJob}
    (exact_jobs : JobsExact index verified entries jobs)
    (same : sorted.Perm (jobs.map PackJob.sortEntries)) :
    JobsExact index verified entries sorted := by
  have back : ∀ job ∈ sorted, ∃ old ∈ jobs, job = old.sortEntries ∧
      ∀ entry, entry ∈ job.entries ↔ entry ∈ old.entries := by
    intro job member
    obtain ⟨old, inside, rfl⟩ := List.mem_map.mp (same.mem_iff.mp member)
    exact ⟨old, inside, rfl, fun entry => List.mem_insertionSort _⟩
  constructor
  · intro hash tier entry needed found absent
    obtain ⟨job, member, pack, inside⟩ := exact_jobs.covered hash tier entry needed found absent
    exact ⟨job.sortEntries, same.mem_iff.mpr (List.mem_map_of_mem member), pack,
      (List.mem_insertionSort _).mpr inside⟩
  · intro job member entry inside
    obtain ⟨old, before, rfl, held⟩ := back job member
    exact exact_jobs.only old before entry ((held entry).mp inside)
  · have flattened : (sorted.flatMap PackJob.entries).Perm (jobs.flatMap PackJob.entries) := by
      refine (same.flatMap_right PackJob.entries).trans ?_
      rw [List.flatMap_map]
      apply List.Perm.flatMap_left
      intro job _
      exact List.perm_insertionSort _ _
    exact (flattened.map _).nodup_iff.mpr exact_jobs.once
  · have packs : (sorted.map PackJob.packId).Perm (jobs.map PackJob.packId) := by
      refine (same.map PackJob.packId).trans ?_
      rw [List.map_map]
      exact List.Perm.refl _
    exact packs.nodup_iff.mpr exact_jobs.packs
  · intro job member
    obtain ⟨old, before, rfl, held⟩ := back job member
    obtain ⟨entry, inside, needed⟩ := exact_jobs.reached old before
    exact ⟨entry, (held entry).mpr inside, needed⟩
  · intro job member entry inside tier needed
    obtain ⟨old, before, rfl, held⟩ := back job member
    exact exact_jobs.least old before entry ((held entry).mp inside) tier needed

def Untied (index : List PackIndexEntry) : Prop :=
  ∀ left ∈ index, ∀ right ∈ index, left.chunkHash = right.chunkHash →
    left.packId = right.packId → left.offset = right.offset → left = right

theorem indexEntryLe_iff {left right : PackIndexEntry} : indexEntryLe left right = true ↔
    thenBy PackIndexEntry.chunkHash (thenBy PackIndexEntry.packId
      fun left right => left.offset ≤ right.offset) left right := by
  unfold indexEntryLe
  apply ite_ne_iff_thenBy PackIndexEntry.chunkHash decide_eq_true_iff
  exact ite_ne_iff_thenBy PackIndexEntry.packId decide_eq_true_iff decide_eq_true_iff

theorem indexEntryLe_total (left right : PackIndexEntry) :
    indexEntryLe left right = true ∨ indexEntryLe right left = true := by
  rw [indexEntryLe_iff, indexEntryLe_iff]
  apply thenBy_total
  apply thenBy_total
  intro left right
  exact Nat.le_total _ _

theorem indexEntryLe_trans (first second third : PackIndexEntry)
    (lower : indexEntryLe first second = true) (upper : indexEntryLe second third = true) :
    indexEntryLe first third = true := by
  rw [indexEntryLe_iff] at *
  refine thenBy_trans ?_ lower upper
  intro first second third
  apply thenBy_trans
  intro first second third
  exact Nat.le_trans

theorem entryByHash_perm {index other : List PackIndexEntry} (untied : Untied index)
    (same : index.Perm other) (hash : String) : entryByHash index hash = entryByHash other hash := by
  have sorted : index.insertionSort (fun left right => indexEntryLe left right) =
      other.insertionSort fun left right => indexEntryLe left right := by
    apply insertionSort_perm indexEntryLe_total indexEntryLe_trans same
    intro left of_left right of_right lower upper
    rw [indexEntryLe_iff] at lower upper
    obtain ⟨chunk, lower, upper⟩ := thenBy_antisymm lower upper
    obtain ⟨pack, lower, upper⟩ := thenBy_antisymm lower upper
    exact untied left of_left right of_right chunk pack (Nat.le_antisymm lower upper)
  unfold entryByHash
  rw [sorted]

theorem packSize_perm {index other : List PackIndexEntry} (same : index.Perm other)
    (packId : String) : packSize index packId = packSize other packId := by
  unfold packSize
  apply List.Perm.foldl_eq
  · exact (same.filter _).map _

theorem groupMissing_perm {index other : List PackIndexEntry} (untied : Untied index)
    (same : index.Perm other) (verified : PackIndexEntry → Bool)
    (needed : List (String × RestorePriority)) (jobs : List PackJob) (reused : Nat) :
    groupMissing index verified needed jobs reused =
      groupMissing other verified needed jobs reused := by
  induction needed generalizing jobs reused with
  | nil => rfl
  | cons chunk rest ih =>
      unfold groupMissing
      rw [entryByHash_perm untied same]
      cases entryByHash other chunk.1 with
      | none => rfl
      | some entry =>
          have added : addEntry index jobs entry chunk.2 = addEntry other jobs entry chunk.2 := by
            unfold addEntry
            rw [packSize_perm same]
          dsimp only
          rw [added, ih, ih]

theorem planMissingPackJobs_eq {manifest : BundleManifest} {mode : RestoreMode}
    {target : RestoreTarget} {jobs : List PackJob} {reused : Nat}
    (planned : planMissingPackJobs manifest mode index verified target = .ok (jobs, reused)) :
    jobs.Perm ((groupedJobs index verified
      (entriesFor (planRestorePriorities manifest mode) target)).map PackJob.sortEntries) := by
  unfold planMissingPackJobs at planned
  cases grouped : groupMissing index verified
      (neededChunks (entriesFor (planRestorePriorities manifest mode) target)) [] 0 with
  | error error =>
      rw [grouped] at planned
      cases planned
  | ok result =>
      have indexed : ∀ chunk ∈ neededChunks
          (entriesFor (planRestorePriorities manifest mode) target),
            ∃ entry, entryByHash index chunk.1 = some entry := by
        intro chunk member
        cases found : entryByHash index chunk.1 with
        | none =>
            obtain ⟨error, failed⟩ := groupMissing_error verified member found [] 0
            rw [grouped] at failed
            cases failed
        | some entry => exact ⟨entry, rfl⟩
      obtain ⟨total, equal⟩ := groupMissing_eq indexed [] 0
      rw [equal] at planned
      obtain ⟨rfl, rfl⟩ := Prod.mk.inj (Except.ok.inj planned)
      exact List.perm_insertionSort _ _

/-- The plan fails exactly if a needed chunk has no entry, whether it lies in the workspace or
not. Otherwise its jobs are exact; and without ties the order of the index does not matter. -/
theorem pack_jobs_exact (manifest : BundleManifest) (mode : RestoreMode)
    (index : List PackIndexEntry) (chunks : LocalChunks) (target : RestoreTarget) :
    ((∃ error, planMissingPackJobs manifest mode index chunks.verified target = .error error) ↔
        ∃ hash tier, NeededAt (entriesFor (planRestorePriorities manifest mode) target) hash tier ∧
          ∀ entry ∈ index, entry.chunkHash ≠ hash) ∧
      (∀ jobs reused,
        planMissingPackJobs manifest mode index chunks.verified target = .ok (jobs, reused) →
          JobsExact index chunks.verified
            (entriesFor (planRestorePriorities manifest mode) target) jobs) ∧
      (Untied index → ∀ other : List PackIndexEntry, index.Perm other →
        planMissingPackJobs manifest mode other chunks.verified target =
          planMissingPackJobs manifest mode index chunks.verified target) := by
  refine ⟨⟨?_, ?_⟩, ?_, ?_⟩
  · rintro ⟨error, failed⟩
    by_contra indexed
    have entries_found : ∀ chunk ∈ neededChunks
        (entriesFor (planRestorePriorities manifest mode) target),
          ∃ entry, entryByHash index chunk.1 = some entry := by
      intro chunk member
      cases found : entryByHash index chunk.1 with
      | none =>
          have needed := (needed_of_mem member).1
          exact absurd ⟨chunk.1, chunk.2, needed, entryByHash_none.mp found⟩ indexed
      | some entry => exact ⟨entry, rfl⟩
    obtain ⟨total, equal⟩ := @groupMissing_eq index chunks.verified _ entries_found [] 0
    unfold planMissingPackJobs at failed
    rw [equal] at failed
    cases failed
  · rintro ⟨hash, tier, needed, absent⟩
    obtain ⟨least, member⟩ := exists_mem_neededChunks needed
    obtain ⟨error, failed⟩ := groupMissing_error chunks.verified member
      (entryByHash_none.mpr absent) [] 0
    refine ⟨error, ?_⟩
    unfold planMissingPackJobs
    rw [failed]
    rfl
  · intro jobs reused planned
    exact (jobsExact_groupedJobs index chunks.verified _).of_perm (planMissingPackJobs_eq planned)
  · intro untied other same
    unfold planMissingPackJobs
    rw [groupMissing_perm untied same]

def emptyHash : String := "blake3:af1349b9f5f9a1a6a0404dea36dcc9499bcb25c9adc112b7cc9a93cae41f3262"

def oneChunk : BundleManifest :=
  { sharedPath with
    files :=
      [{ logicalRoot := "HOME", relativePath := "save", fileType := "file", size := 0,
         fileHash := emptyHash, chunks := [⟨emptyHash, 0⟩], persistenceClass := .persistentState,
         semanticRole := .userState }] }

def chunkThere : LocalChunks where
  hash bytes := if bytes = [] then emptyHash else ""
  file name := if name = chunkFileName emptyHash then some [] else none

def noChunks : LocalChunks where
  hash bytes := if bytes = [] then emptyHash else ""
  file _ := none

def tiedEntry (plaintextLen : Nat) : PackIndexEntry where
  chunkHash := emptyHash
  packId := "pack"
  offset := 0
  ciphertextLen := 16
  plaintextLen := plaintextLen
  nonce := []

/-- Nothing is missing and the plan fails; and two tied entries give different jobs in
different orders. -/
theorem present_chunk_fails_and_ties_differ :
    (planMissingPackJobs oneChunk .completeApplication [] chunkThere.verified .complete).isOk =
        false ∧
      (∀ hash tier, NeededAt (entriesFor
          (planRestorePriorities oneChunk .completeApplication) .complete) hash tier →
        chunkThere.Present hash) ∧
      [tiedEntry 0, tiedEntry 1].Perm [tiedEntry 1, tiedEntry 0] ∧
      (planMissingPackJobs oneChunk .completeApplication [tiedEntry 0, tiedEntry 1]
          noChunks.verified .complete).toOption ≠
        (planMissingPackJobs oneChunk .completeApplication [tiedEntry 1, tiedEntry 0]
          noChunks.verified .complete).toOption := by
  refine ⟨by decide, ?_, List.Perm.swap _ _ _, by decide⟩
  rintro hash tier ⟨entry, member, _, chunk, of_file, rfl⟩
  have planned := file_of_mem_planRestorePriorities (List.mem_filter.mp member).1
  rw [List.mem_singleton.mp planned.1] at of_file
  rw [List.mem_singleton.mp of_file]
  exact ⟨[], by simp [chunkThere], by simp [chunkThere]⟩

end Noland.Restore
