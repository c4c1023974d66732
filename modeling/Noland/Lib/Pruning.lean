import Mathlib.Algebra.Order.Ring.Nat
import Mathlib.Data.List.Sort

/-!
A list is gone through from its first item on. While the items that are left exceed the
budget, the eligible ones are removed and the others passed over.
-/

namespace Noland.Pruning

variable {Item : Type}

/-- The items removed, and those that stay. `within` is the budget on a total weight and a
number of items. -/
def sweep (within : Nat → Nat → Bool) (weight : Item → Nat) (eligible : Item → Bool) :
    List Item → Nat → Nat → List Item × List Item
  | [], _, _ => ([], [])
  | item :: rest, total, count =>
      if within total count then ([], item :: rest)
      else if eligible item then
        let later := sweep within weight eligible rest (total - weight item) (count - 1)
        (item :: later.1, later.2)
      else
        let later := sweep within weight eligible rest total count
        (later.1, item :: later.2)

theorem sweep_count {within : Nat → Bool} {weight : Item → Nat} {eligible : Item → Bool}
    (items : List Item) (total count other : Nat) :
    sweep (fun total _ => within total) weight eligible items total count =
      sweep (fun total _ => within total) weight eligible items total other := by
  induction items generalizing total count other with
  | nil => rfl
  | cons item rest ih =>
      unfold sweep
      rw [ih (total - weight item) (count - 1) (other - 1), ih total count other]

def totalOf (weight : Item → Nat) (items : List Item) : Nat := (items.map weight).sum

/-- The removed items are the first eligible ones, no more than the budget asks for, and the
budget is met unless no eligible item is left. -/
structure Swept (within : Nat → Nat → Bool) (weight : Item → Nat) (eligible : Item → Bool)
    (items : List Item) (total count : Nat) (removed kept : List Item) : Prop where
  parts : (removed ++ kept).Perm items
  order : kept.Sublist items
  oldest : items.filter eligible = removed ++ kept.filter eligible
  needed : ∀ fewer, fewer <+: removed → fewer ≠ removed →
    within (total - totalOf weight fewer) (count - fewer.length) = false
  met : within (total - totalOf weight removed) (count - removed.length) = true ∨
    kept.filter eligible = []

variable {within : Nat → Nat → Bool} {weight : Item → Nat} {eligible : Item → Bool}

theorem swept_sweep (items : List Item) (total count : Nat) :
    Swept within weight eligible items total count
      (sweep within weight eligible items total count).1
      (sweep within weight eligible items total count).2 := by
  induction items generalizing total count with
  | nil =>
      constructor
      · exact List.Perm.refl _
      · exact List.Sublist.refl _
      · rfl
      · intro fewer shorter different
        exact absurd (List.prefix_nil.mp shorter) different
      · exact Or.inr rfl
  | cons item rest ih =>
      unfold sweep
      by_cases enough : within total count = true
      · rw [if_pos enough]
        constructor
        · exact List.Perm.refl _
        · exact List.Sublist.refl _
        · rfl
        · intro fewer shorter different
          exact absurd (List.prefix_nil.mp shorter) different
        · exact Or.inl enough
      · rw [if_neg enough]
        by_cases removable : eligible item = true
        · rw [if_pos removable]
          have later := ih (total - weight item) (count - 1)
          have sums : ∀ others, totalOf weight (item :: others) =
              weight item + totalOf weight others := by
            intro others
            simp [totalOf]
          constructor
          · exact later.parts.cons item
          · exact later.order.cons item
          · rw [List.filter_cons_of_pos removable, later.oldest]
            rfl
          · intro fewer shorter different
            cases fewer with
            | nil => exact Bool.eq_false_iff.mpr enough
            | cons first others =>
                obtain ⟨rfl, inside⟩ := List.cons_prefix_cons.mp shorter
                rw [sums, List.length_cons, ← Nat.sub_sub, Nat.add_comm others.length 1,
                  ← Nat.sub_sub]
                apply later.needed others inside
                intro same
                exact different (by rw [same])
          · dsimp only
            rw [sums, List.length_cons, ← Nat.sub_sub, Nat.add_comm (List.length _) 1,
              ← Nat.sub_sub]
            exact later.met
        · rw [if_neg removable]
          have later := ih total count
          constructor
          · exact List.perm_middle.trans (later.parts.cons item)
          · exact later.order.cons_cons item
          · rw [List.filter_cons_of_neg removable, List.filter_cons_of_neg removable]
            exact later.oldest
          · exact later.needed
          · rw [List.filter_cons_of_neg removable]
            exact later.met

variable {items removed kept : List Item}

theorem Swept.eligible_of_removed {total count : Nat}
    (swept : Swept within weight eligible items total count removed kept) {item : Item}
    (member : item ∈ removed) : eligible item = true := by
  have inside : item ∈ items.filter eligible :=
    swept.oldest ▸ List.mem_append_left _ member
  exact (List.mem_filter.mp inside).2

theorem Swept.before {total count : Nat}
    (swept : Swept within weight eligible items total count removed kept)
    {older : Item → Item → Prop} (sorted : items.Pairwise older) {item other : Item}
    (member : item ∈ removed) (stays : other ∈ kept) (removable : eligible other = true) :
    older item other := by
  have among := sorted.filter eligible
  rw [swept.oldest, List.pairwise_append] at among
  exact among.2.2 item member other (List.mem_filter.mpr ⟨stays, removable⟩)

theorem Swept.total {total count : Nat}
    (swept : Swept within weight eligible items total count removed kept) :
    totalOf weight removed + totalOf weight kept = totalOf weight items := by
  have summed := (swept.parts.map weight).sum_nat
  rw [List.map_append, List.sum_append_nat] at summed
  exact summed

theorem Swept.length {total count : Nat}
    (swept : Swept within weight eligible items total count removed kept) :
    removed.length + kept.length = items.length := by
  rw [← List.length_append]
  exact swept.parts.length_eq

end Noland.Pruning
