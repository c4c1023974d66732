import Mathlib.Data.List.Basic
import Mathlib.Data.List.Induction
import Mathlib.Data.List.Nodup

/-!
An item changes the row of its key, or becomes the first row of it. Whatever the order of the
items, the row of a key is what those of that key make of it.
-/

namespace Noland.Keyed

variable {Item Row Key : Type}

theorem lookup_of_mem {α : Type} [BEq Key] [LawfulBEq Key] {rows : List (Key × α)}
    {row : Key × α} (once : (rows.map Prod.fst).Nodup) (member : row ∈ rows) :
    rows.lookup row.1 = some row.2 := by
  induction rows with
  | nil => cases member
  | cons first rest ih =>
      obtain ⟨fresh, later⟩ := List.nodup_cons.mp once
      rw [List.lookup_cons]
      rcases List.mem_cons.mp member with rfl | inside
      · simp
      · have apart : row.1 ≠ first.1 := by
          intro same
          exact fresh (same ▸ List.mem_map_of_mem inside)
        rw [beq_eq_false_iff_ne.mpr apart]
        exact ih later inside

theorem key_foldl {key : Row → Key} {update : Row → Item → Row}
    (update_key : ∀ row item, key (update row item) = key row)
    (rest : List Item) (row : Row) : key (rest.foldl update row) = key row := by
  induction rest generalizing row with
  | nil => rfl
  | cons item rest ih => rw [List.foldl_cons, ih, update_key]

variable [DecidableEq Key]

def upsert (key : Row → Key) (keyOf : Item → Key) (update : Row → Item → Row)
    (fresh : Item → Row) (rows : List Row) (item : Item) : List Row :=
  if rows.any fun row => key row = keyOf item then
    rows.map fun row => if key row = keyOf item then update row item else row
  else rows ++ [fresh item]

/-- The rows are those of the items: one for each key that occurs, made from the items of
that key in their order. -/
structure Tabulates (key : Row → Key) (keyOf : Item → Key) (update : Row → Item → Row)
    (fresh : Item → Row) (items : List Item) (rows : List Row) : Prop where
  nodup : (rows.map key).Nodup
  mem_iff : ∀ row, row ∈ rows ↔ ∃ first rest,
    items.filter (fun item => keyOf item = key row) = first :: rest ∧
      row = rest.foldl update (fresh first)

section

variable {key : Row → Key} {keyOf : Item → Key} {update : Row → Item → Row} {fresh : Item → Row}

variable {items : List Item} {rows : List Row}

theorem Tabulates.exists_row (table : Tabulates key keyOf update fresh items rows)
    (fresh_key : ∀ item, key (fresh item) = keyOf item)
    (update_key : ∀ row item, key (update row item) = key row) {item : Item}
    (member : item ∈ items) : ∃ row ∈ rows, key row = keyOf item := by
  cases listed : items.filter (fun other => keyOf other = keyOf item) with
  | nil =>
      have inside : item ∈ items.filter fun other => keyOf other = keyOf item :=
        List.mem_filter.mpr ⟨member, decide_eq_true rfl⟩
      rw [listed] at inside
      cases inside
  | cons first rest =>
      have inside : first ∈ items.filter fun other => keyOf other = keyOf item :=
        listed ▸ List.mem_cons_self
      have same : keyOf first = keyOf item := of_decide_eq_true (List.mem_filter.mp inside).2
      have made : key (rest.foldl update (fresh first)) = keyOf item := by
        rw [key_foldl update_key, fresh_key, same]
      exact ⟨_, (table.mem_iff _).mpr ⟨first, rest, by rw [made, listed], rfl⟩, made⟩

theorem Tabulates.enter (table : Tabulates key keyOf update fresh items rows)
    (fresh_key : ∀ item, key (fresh item) = keyOf item)
    (update_key : ∀ row item, key (update row item) = key row) (item : Item) :
    Tabulates key keyOf update fresh (items ++ [item])
      (upsert key keyOf update fresh rows item) := by
  have filtered : ∀ row, (items ++ [item]).filter (fun other => keyOf other = key row) =
      items.filter (fun other => keyOf other = key row) ++
        if keyOf item = key row then [item] else [] := by
    intro row
    rw [List.filter_append, List.filter_singleton]
    simp
  unfold upsert
  split
  · rename_i known
    obtain ⟨held, of_rows, same⟩ := List.any_eq_true.mp known
    have held_key : key held = keyOf item := of_decide_eq_true same
    obtain ⟨begins, others, listed, made⟩ := (table.mem_iff held).mp of_rows
    constructor
    · have keys : (rows.map fun row => if key row = keyOf item then update row item else row).map
          key = rows.map key := by
        rw [List.map_map]
        apply List.map_congr_left
        intro row _
        simp only [Function.comp_apply]
        split
        · exact update_key row item
        · rfl
      rw [keys]
      exact table.nodup
    · intro row
      rw [List.mem_map, filtered]
      constructor
      · rintro ⟨old, inside, rfl⟩
        obtain ⟨first, rest, before, folded⟩ := (table.mem_iff old).mp inside
        by_cases here : key old = keyOf item
        · rw [if_pos here, update_key, if_pos here.symm, before]
          refine ⟨first, rest ++ [item], rfl, ?_⟩
          rw [List.foldl_append, ← folded]
          rfl
        · rw [if_neg here, if_neg (Ne.symm here), List.append_nil]
          exact ⟨first, rest, before, folded⟩
      · rintro ⟨first, rest, after, folded⟩
        by_cases here : keyOf item = key row
        · rw [if_pos here, ← here, ← held_key, listed, List.cons_append] at after
          injection after with first_same rest_same
          refine ⟨held, of_rows, ?_⟩
          rw [if_pos held_key, folded, ← first_same, ← rest_same, List.foldl_append, ← made]
          rfl
        · rw [if_neg here, List.append_nil] at after
          refine ⟨row, (table.mem_iff row).mpr ⟨first, rest, after, folded⟩, ?_⟩
          rw [if_neg (Ne.symm here)]
  · rename_i unknown
    have absent : ∀ row ∈ rows, key row ≠ keyOf item := by
      intro row member same
      exact unknown (List.any_eq_true.mpr ⟨row, member, decide_eq_true same⟩)
    have no_item : ∀ other ∈ items, keyOf other ≠ keyOf item := by
      intro other member same
      obtain ⟨row, inside, row_key⟩ := table.exists_row fresh_key update_key member
      exact absent row inside (row_key.trans same)
    have none_before : items.filter (fun other => keyOf other = keyOf item) = [] := by
      apply List.filter_eq_nil_iff.mpr
      intro other member same
      exact no_item other member (of_decide_eq_true same)
    constructor
    · rw [List.map_append, List.map_singleton, fresh_key]
      apply List.Nodup.append table.nodup (List.nodup_singleton _)
      intro row_key in_rows here
      obtain ⟨row, member, rfl⟩ := List.mem_map.mp in_rows
      exact absent row member (List.mem_singleton.mp here)
    · intro row
      rw [List.mem_append, List.mem_singleton, filtered]
      constructor
      · rintro (old | rfl)
        · obtain ⟨first, rest, before, folded⟩ := (table.mem_iff row).mp old
          rw [if_neg (absent row old).symm, List.append_nil]
          exact ⟨first, rest, before, folded⟩
        · rw [fresh_key, none_before, if_pos rfl]
          exact ⟨item, [], rfl, rfl⟩
      · rintro ⟨first, rest, after, folded⟩
        by_cases here : keyOf item = key row
        · rw [if_pos here, ← here, none_before, List.nil_append] at after
          injection after with first_same rest_same
          right
          rw [folded, ← first_same, ← rest_same]
          rfl
        · rw [if_neg here, List.append_nil] at after
          exact Or.inl ((table.mem_iff row).mpr ⟨first, rest, after, folded⟩)

theorem tabulates_foldl (fresh_key : ∀ item, key (fresh item) = keyOf item)
    (update_key : ∀ row item, key (update row item) = key row) (items : List Item) :
    Tabulates key keyOf update fresh items
      (items.foldl (upsert key keyOf update fresh) []) := by
  induction items using List.reverseRecOn with
  | nil => exact ⟨List.nodup_nil, fun row => by simp⟩
  | append_singleton items item ih =>
      rw [List.foldl_append]
      exact ih.enter fresh_key update_key item

end

end Noland.Keyed
