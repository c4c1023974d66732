import Mathlib.Data.List.Induction
import Noland.Lib.Keyed
import Noland.Lib.Outcomes
import Noland.Restore.EmbeddedPlan
import Noland.Restore.Publish

/-!
A transaction counts for each chunk the selected entries that are not published and contain it.
Spellings of a hash with and without its label are counted apart and share a file.
-/

namespace Noland.Restore

open Noland.Core Noland.FileTree Noland.Text Noland.Requests
open Noland.Keyed (lookup_of_mem)

def HasChunk (file : ManifestFile) (hash : String) : Prop :=
  hash ∈ file.chunks.map ChunkRef.hash

instance (file : ManifestFile) (hash : String) : Decidable (HasChunk file hash) :=
  inferInstanceAs (Decidable (_ ∈ _))

def unpublishedWith (plan : RestorePlan) (published : List Nat) (hash : String) : Nat :=
  plan.priorityPlan.countP fun entry =>
    entry.manifestIndex ∉ published ∧ HasChunk entry.file hash

def SameChunkFile (left right : String) : Prop :=
  ∃ token, restoreChunkToken left = .ok token ∧ restoreChunkToken right = .ok token

def OneSpelling (plan : RestorePlan) : Prop :=
  ∀ left ∈ plan.priorityPlan, ∀ right ∈ plan.priorityPlan, ∀ hash other,
    HasChunk left.file hash → HasChunk right.file other →
      SameChunkFile hash other → hash = other

section Ordered

variable {α : Type} [LinearOrder α]

theorem pairwise_insertOrdered {set : List α} (sorted : set.Pairwise (· < ·)) (item : α) :
    (insertOrdered set item).Pairwise (· < ·) := by
  induction set with
  | nil => exact List.pairwise_singleton _ _
  | cons first rest ih =>
      obtain ⟨below, later⟩ := List.pairwise_cons.mp sorted
      unfold insertOrdered
      split
      · rename_i before
        apply List.pairwise_cons.mpr
        refine ⟨?_, sorted⟩
        intro other member
        rcases List.mem_cons.mp member with rfl | inside
        · exact before
        · exact lt_trans before (below other inside)
      · rename_i not_before
        split
        · exact sorted
        · rename_i different
          apply List.pairwise_cons.mpr
          refine ⟨?_, ih later⟩
          intro other member
          rcases mem_insertOrdered.mp member with rfl | inside
          · exact lt_of_le_of_ne (not_lt.mp not_before) (Ne.symm different)
          · exact below other inside

end Ordered

theorem mem_uniqueChunks {file : ManifestFile} {hash : String} :
    hash ∈ uniqueChunks file ↔ HasChunk file hash := by
  have folded : ∀ hashes set : List String,
      hash ∈ hashes.foldl insertOrdered set ↔ hash ∈ hashes ∨ hash ∈ set := by
    intro hashes
    induction hashes with
    | nil => simp
    | cons first rest ih =>
        intro set
        rw [List.foldl_cons, ih, mem_insertOrdered, List.mem_cons, or_left_comm, or_assoc]
  unfold uniqueChunks HasChunk
  rw [folded]
  simp

theorem uniqueChunks_nodup (file : ManifestFile) : (uniqueChunks file).Nodup := by
  have folded : ∀ hashes set : List String, set.Pairwise (· < ·) →
      (hashes.foldl insertOrdered set).Pairwise (· < ·) := by
    intro hashes
    induction hashes with
    | nil => exact fun _ sorted => sorted
    | cons first rest ih =>
        intro set sorted
        exact ih _ (pairwise_insertOrdered sorted first)
  have sorted := folded (file.chunks.map ChunkRef.hash) [] List.Pairwise.nil
  exact sorted.imp fun below => ne_of_lt below

theorem lookup_cons_ite (row : String × Nat) (rest : List (String × Nat)) (hash : String) :
    (row :: rest).lookup hash = if hash = row.1 then some row.2 else rest.lookup hash := by
  rw [List.lookup_cons]
  by_cases here : hash = row.1
  · simp [here]
  · simp [here, beq_eq_false_iff_ne.mpr here]

theorem lookup_map_row (references : List (String × Nat)) (hash other : String) (f : Nat → Nat) :
    (references.map fun known => if known.1 = hash then (known.1, f known.2) else known).lookup
        other =
      if other = hash then (references.lookup hash).map f else references.lookup other := by
  induction references with
  | nil => simp
  | cons known rest ih =>
      rw [List.map_cons, lookup_cons_ite, lookup_cons_ite, lookup_cons_ite, ih]
      by_cases here : known.1 = hash
      · by_cases same : other = hash
        · simp [here, same]
        · simp [here, same]
      · by_cases same : other = hash
        · simp [here, same, Ne.symm here]
        · simp [here, same]

theorem lookup_setReference (references : List (String × Nat)) (hash other : String)
    (count : Nat) : (setReference references hash count).lookup other =
      if other = hash then (references.lookup hash).map fun _ => count
      else references.lookup other :=
  lookup_map_row references hash other fun _ => count

theorem lookup_eq_none {references : List (String × Nat)} {hash : String}
    (absent : ¬ references.any (fun known => known.1 = hash) = true) :
    references.lookup hash = none := by
  rw [List.lookup_eq_none_iff]
  intro known member
  apply bne_iff_ne.mpr
  intro same
  exact absent (List.any_eq_true.mpr ⟨known, member, decide_eq_true same.symm⟩)

theorem lookup_addReference (references : List (String × Nat)) (hash other : String) :
    (addReference references hash).lookup other =
      if other = hash then some ((references.lookup hash).getD 0 + 1)
      else references.lookup other := by
  unfold addReference
  split
  · rename_i known
    have mapped := lookup_map_row references hash other (· + 1)
    rw [mapped]
    by_cases same : other = hash
    · rw [if_pos same, if_pos same]
      obtain ⟨row, member, equal⟩ := List.any_eq_true.mp known
      cases found : references.lookup hash with
      | none =>
          have absent := List.lookup_eq_none_iff.mp found row member
          have key : row.1 = hash := of_decide_eq_true equal
          rw [key] at absent
          simp at absent
      | some count => rfl
    · rw [if_neg same, if_neg same]
  · rename_i unknown
    have absent := lookup_eq_none unknown
    rw [List.lookup_append, lookup_cons_ite]
    by_cases same : other = hash
    · rw [same, absent]
      simp
    · simp [same]

theorem lookup_foldl_addReference (hashes : List String) (hash : String) :
    (hashes.foldl addReference []).lookup hash =
      if hash ∈ hashes then some (hashes.count hash) else none := by
  induction hashes using List.reverseRecOn with
  | nil => simp
  | append_singleton hashes last ih =>
      rw [List.foldl_append, List.foldl_cons, List.foldl_nil, lookup_addReference]
      by_cases here : hash = last
      · subst here
        rw [if_pos rfl, ih, List.count_append, List.count_singleton_self]
        by_cases before : hash ∈ hashes
        · simp [before]
        · simp [before, List.count_eq_zero_of_not_mem before]
      · have elsewhere : [last].count hash = 0 :=
          List.count_eq_zero_of_not_mem (mt List.mem_singleton.mp here)
        rw [if_neg here, ih, List.count_append, elsewhere]
        simp [here]

theorem count_flatMap_uniqueChunks (entries : List RestorePlanEntry) (hash : String) :
    (entries.flatMap fun entry => uniqueChunks entry.file).count hash =
      entries.countP fun entry => HasChunk entry.file hash := by
  induction entries with
  | nil => rfl
  | cons entry rest ih =>
      rw [List.flatMap_cons, List.count_append, ih, List.countP_cons, Nat.add_comm]
      congr 1
      by_cases contained : HasChunk entry.file hash
      · rw [List.count_eq_one_of_mem (uniqueChunks_nodup _) (mem_uniqueChunks.mpr contained)]
        simp [contained]
      · rw [List.count_eq_zero_of_not_mem (mt mem_uniqueChunks.mp contained)]
        simp [contained]

/-- There is one row for each chunk of a selected entry, and it holds the expected count. -/
structure CountsAre (plan : RestorePlan) (references : List (String × Nat))
    (expected : String → Nat) : Prop where
  nodup : (references.map Prod.fst).Nodup
  keys : ∀ hash, hash ∈ references.map Prod.fst ↔
    ∃ entry ∈ plan.priorityPlan, HasChunk entry.file hash
  counts : ∀ hash, (references.lookup hash).getD 0 = expected hash

def Counted (plan : RestorePlan) (transaction : Transaction) : Prop :=
  CountsAre plan transaction.remainingChunkRefs
    (unpublishedWith plan transaction.publishedEntries)

theorem keys_addReference (references : List (String × Nat)) (hash : String) :
    (addReference references hash).map Prod.fst =
      if hash ∈ references.map Prod.fst then references.map Prod.fst
      else references.map Prod.fst ++ [hash] := by
  have known : references.any (fun known => known.1 = hash) = true ↔
      hash ∈ references.map Prod.fst := by
    rw [List.any_eq_true, List.mem_map]
    constructor
    · rintro ⟨row, member, same⟩
      exact ⟨row, member, of_decide_eq_true same⟩
    · rintro ⟨row, member, same⟩
      exact ⟨row, member, decide_eq_true same⟩
  unfold addReference
  by_cases member : hash ∈ references.map Prod.fst
  · rw [if_pos (known.mpr member), if_pos member, List.map_map]
    apply List.map_congr_left
    intro row _
    simp only [Function.comp_apply]
    split
    · rfl
    · rfl
  · rw [if_neg (mt known.mp member), if_neg member, List.map_append]
    rfl

theorem keys_foldl_addReference (hashes : List String) :
    ((hashes.foldl addReference []).map Prod.fst).Nodup ∧
      ∀ hash, hash ∈ (hashes.foldl addReference []).map Prod.fst ↔ hash ∈ hashes := by
  induction hashes using List.reverseRecOn with
  | nil => simp
  | append_singleton hashes last ih =>
      rw [List.foldl_append, List.foldl_cons, List.foldl_nil, keys_addReference]
      split
      · rename_i known
        refine ⟨ih.1, ?_⟩
        intro hash
        rw [ih.2, List.mem_append, List.mem_singleton]
        constructor
        · exact Or.inl
        · rintro (before | rfl)
          · exact before
          · exact (ih.2 _).mp known
      · rename_i unknown
        constructor
        · apply List.Nodup.append ih.1 (List.nodup_singleton last)
          intro hash before here
          rw [List.mem_singleton.mp here] at before
          exact unknown before
        · intro hash
          rw [List.mem_append, ih.2, List.mem_append]

theorem counted_new (plan : RestorePlan) : Counted plan (Transaction.new plan) := by
  have keys := keys_foldl_addReference
    (plan.priorityPlan.flatMap fun entry => uniqueChunks entry.file)
  refine ⟨keys.1, ?_, ?_⟩
  · intro hash
    show hash ∈ (List.foldl addReference [] _).map Prod.fst ↔ _
    rw [keys.2, List.mem_flatMap]
    constructor
    · rintro ⟨entry, member, contained⟩
      exact ⟨entry, member, mem_uniqueChunks.mp contained⟩
    · rintro ⟨entry, member, contained⟩
      exact ⟨entry, member, mem_uniqueChunks.mpr contained⟩
  · intro hash
    show (List.lookup hash (List.foldl addReference [] _)).getD 0 = _
    unfold unpublishedWith
    rw [lookup_foldl_addReference]
    simp only [Transaction.new, List.not_mem_nil, not_false_eq_true, true_and]
    rw [← count_flatMap_uniqueChunks]
    split
    · rfl
    · rename_i absent
      rw [List.count_eq_zero_of_not_mem absent]
      rfl

section Counts

variable {plan : RestorePlan} {references : List (String × Nat)} {expected : String → Nat}

theorem CountsAre.lookup (counted : CountsAre plan references expected)
    {entry : RestorePlanEntry} {hash : String} (member : entry ∈ plan.priorityPlan)
    (contained : HasChunk entry.file hash) :
    references.lookup hash = some (expected hash) := by
  obtain ⟨row, inside, rfl⟩ := List.mem_map.mp ((counted.keys hash).mpr ⟨entry, member, contained⟩)
  have found := lookup_of_mem counted.nodup inside
  have count := counted.counts row.1
  rw [found] at count ⊢
  rw [← count]
  rfl

theorem CountsAre.set (counted : CountsAre plan references expected)
    {entry : RestorePlanEntry} {hash : String} (member : entry ∈ plan.priorityPlan)
    (contained : HasChunk entry.file hash) (count : Nat) :
    CountsAre plan (setReference references hash count) (Function.update expected hash count) := by
  have keys : (setReference references hash count).map Prod.fst = references.map Prod.fst := by
    unfold setReference
    rw [List.map_map]
    apply List.map_congr_left
    intro row _
    simp only [Function.comp_apply]
    split
    · rfl
    · rfl
  refine ⟨keys ▸ counted.nodup, ?_, ?_⟩
  · rw [keys]
    exact counted.keys
  · intro other
    rw [lookup_setReference]
    by_cases same : other = hash
    · rw [if_pos same, counted.lookup member contained, same, Function.update_self]
      rfl
    · rw [if_neg same, Function.update_of_ne same]
      exact counted.counts other

theorem CountsAre.congr {other : String → Nat} (counted : CountsAre plan references expected)
    (same : ∀ hash, expected hash = other hash) : CountsAre plan references other :=
  ⟨counted.nodup, counted.keys, fun hash => (counted.counts hash).trans (same hash)⟩

end Counts

section Published

variable {plan : RestorePlan}

theorem priorityPlan_indices (plan : RestorePlan) :
    (plan.priorityPlan.map RestorePlanEntry.manifestIndex).Nodup :=
  manifestIndex_nodup plan.manifest plan.mode

theorem countP_without {α : Type} {key : α → Nat} {items : List α}
    (nodup : (items.map key).Nodup) {item : α} (member : item ∈ items) (counts : α → Bool) :
    items.countP (fun other => counts other && key other != key item) +
        (counts item).toNat = items.countP counts := by
  induction items with
  | nil => cases member
  | cons first rest ih =>
      obtain ⟨fresh, later⟩ := List.nodup_cons.mp nodup
      rw [List.countP_cons, List.countP_cons]
      rcases List.mem_cons.mp member with rfl | inside
      · have others : rest.countP (fun other => counts other && key other != key item) =
            rest.countP counts := by
          apply List.countP_congr
          intro other among
          have different : key other ≠ key item := by
            intro same
            exact fresh (same ▸ List.mem_map_of_mem among)
          simp [different]
        rw [others]
        cases counts item <;> simp
      · have different : key first ≠ key item := by
          intro same
          exact fresh (same ▸ List.mem_map_of_mem inside)
        have before := ih later inside
        cases counts first <;> simp [different] <;> omega

theorem unpublishedWith_insert {entry : RestorePlanEntry} {published : List Nat}
    (member : entry ∈ plan.priorityPlan) (new : entry.manifestIndex ∉ published) (hash : String) :
    unpublishedWith plan (insertOrdered published entry.manifestIndex) hash +
        (if HasChunk entry.file hash then 1 else 0) = unpublishedWith plan published hash := by
  have split := countP_without (priorityPlan_indices plan) member fun other =>
    decide (other.manifestIndex ∉ published ∧ HasChunk other.file hash)
  have here : (decide (entry.manifestIndex ∉ published ∧ HasChunk entry.file hash)).toNat =
      if HasChunk entry.file hash then 1 else 0 := by
    by_cases contained : HasChunk entry.file hash
    · simp [new, contained]
    · simp [contained]
  rw [here] at split
  unfold unpublishedWith
  rw [← split]
  congr 1
  apply List.countP_congr
  intro other _
  simp only [mem_insertOrdered, not_or, decide_eq_true_eq, Bool.and_eq_true, bne_iff_ne, ne_eq]
  constructor
  · rintro ⟨⟨different, unpublished⟩, contained⟩
    exact ⟨⟨unpublished, contained⟩, different⟩
  · rintro ⟨⟨unpublished, contained⟩, different⟩
    exact ⟨⟨different, unpublished⟩, contained⟩

theorem unpublishedWith_pos {entry : RestorePlanEntry} {published : List Nat} {hash : String}
    (member : entry ∈ plan.priorityPlan) (new : entry.manifestIndex ∉ published)
    (contained : HasChunk entry.file hash) : 0 < unpublishedWith plan published hash :=
  List.countP_pos_iff.mpr ⟨entry, member, decide_eq_true ⟨new, contained⟩⟩

theorem not_hasChunk_of_zero {entry : RestorePlanEntry} {published : List Nat} {hash : String}
    (none_left : unpublishedWith plan published hash = 0) (member : entry ∈ plan.priorityPlan)
    (new : entry.manifestIndex ∉ published) : ¬ HasChunk entry.file hash := by
  intro contained
  have positive := unpublishedWith_pos member new contained
  omega

end Published

end Noland.Restore
