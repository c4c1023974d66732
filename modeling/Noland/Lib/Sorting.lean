import Mathlib.Data.List.Sort
import Mathlib.Order.Basic

/-!
A list sorted by one key first and, where it is the same, by the next one does not depend on the
order it had before, if the keys tell its members apart.
-/

namespace Noland.Sorting

variable {α κ : Type}

def thenBy [LT κ] (key : α → κ) (ties : α → α → Prop) (left right : α) : Prop :=
  key left < key right ∨ key left = key right ∧ ties left right

theorem thenBy_total [LinearOrder κ] {key : α → κ} {ties : α → α → Prop}
    (total : ∀ left right, ties left right ∨ ties right left) (left right : α) :
    thenBy key ties left right ∨ thenBy key ties right left := by
  rcases lt_trichotomy (key left) (key right) with before | same | after
  · exact Or.inl (Or.inl before)
  · rcases total left right with ordered | ordered
    · exact Or.inl (Or.inr ⟨same, ordered⟩)
    · exact Or.inr (Or.inr ⟨same.symm, ordered⟩)
  · exact Or.inr (Or.inl after)

theorem thenBy_trans [LinearOrder κ] {key : α → κ} {ties : α → α → Prop}
    (trans : ∀ first second third, ties first second → ties second third → ties first third)
    {first second third : α} (lower : thenBy key ties first second)
    (upper : thenBy key ties second third) : thenBy key ties first third := by
  rcases lower with below | ⟨same, ordered⟩
  · rcases upper with above | ⟨equal, _⟩
    · exact Or.inl (lt_trans below above)
    · exact Or.inl (equal ▸ below)
  · rcases upper with above | ⟨equal, later⟩
    · exact Or.inl (same.symm ▸ above)
    · exact Or.inr ⟨same.trans equal, trans first second third ordered later⟩

theorem thenBy_antisymm [LinearOrder κ] {key : α → κ} {ties : α → α → Prop} {left right : α}
    (lower : thenBy key ties left right) (upper : thenBy key ties right left) :
    key left = key right ∧ ties left right ∧ ties right left := by
  rcases lower with below | ⟨same, ordered⟩
  · rcases upper with above | ⟨equal, _⟩
    · exact absurd above (lt_asymm below)
    · exact absurd below (equal ▸ lt_irrefl _)
  · rcases upper with above | ⟨_, later⟩
    · exact absurd above (same ▸ lt_irrefl _)
    · exact ⟨same, ordered, later⟩

theorem ite_ne_iff_thenBy [LinearOrder κ] (key : α → κ) {ties : α → α → Prop} {left right : α}
    {below rest : Bool} [Decidable (key left ≠ key right)]
    (at_key : below = true ↔ key left < key right) (at_ties : rest = true ↔ ties left right) :
    (if key left ≠ key right then below else rest) = true ↔ thenBy key ties left right := by
  split
  · rename_i different
    rw [at_key]
    exact ⟨Or.inl, fun ordered => ordered.resolve_right fun tied => different tied.1⟩
  · rename_i same
    rw [at_ties]
    have equal : key left = key right := not_not.mp same
    constructor
    · intro ordered
      exact Or.inr ⟨equal, ordered⟩
    · rintro (lower | ⟨_, ordered⟩)
      · exact absurd equal (ne_of_lt lower)
      · exact ordered

section Sorted

variable {r : α → α → Prop} [DecidableRel r]

theorem pairwise_sorted (total : ∀ left right, r left right ∨ r right left)
    (trans : ∀ first second third, r first second → r second third → r first third)
    (items : List α) : (items.insertionSort r).Pairwise r :=
  @List.pairwise_insertionSort α r _ ⟨total⟩ ⟨trans⟩ items

theorem insertionSort_perm (total : ∀ left right, r left right ∨ r right left)
    (trans : ∀ first second third, r first second → r second third → r first third)
    {items others : List α} (same : items.Perm others)
    (apart : ∀ left ∈ items, ∀ right ∈ items, r left right → r right left → left = right) :
    items.insertionSort r = others.insertionSort r := by
  have untied : ∀ left right, left ∈ items.insertionSort r → right ∈ others.insertionSort r →
      r left right → r right left → left = right := by
    intro left right of_items of_others lower upper
    have left_member := (List.mem_insertionSort r).mp of_items
    have right_member := same.mem_iff.mpr ((List.mem_insertionSort r).mp of_others)
    exact apart left left_member right right_member lower upper
  have permuted : (items.insertionSort r).Perm (others.insertionSort r) :=
    ((List.perm_insertionSort r items).trans same).trans (List.perm_insertionSort r others).symm
  exact List.Perm.eq_of_pairwise untied (pairwise_sorted total trans items)
    (pairwise_sorted total trans others) permuted

end Sorted

theorem filter_prefix {r : α → α → Prop} {near far : α → Bool}
    (closed : ∀ left right, r left right → near right = true → near left = true)
    (wider : ∀ item, near item = true → far item = true) {items : List α}
    (sorted : items.Pairwise r) : items.filter near <+: items.filter far := by
  induction items with
  | nil => exact List.nil_prefix
  | cons first rest ih =>
      have before : ∀ item ∈ rest, r first item := fun _ => List.rel_of_pairwise_cons sorted
      by_cases inside : near first = true
      · rw [List.filter_cons_of_pos inside, List.filter_cons_of_pos (wider first inside)]
        exact List.cons_prefix_cons.mpr ⟨rfl, ih sorted.of_cons⟩
      · have none_later : rest.filter near = [] := by
          apply List.filter_eq_nil_iff.mpr
          intro item member included
          exact inside (closed first item (before item member) included)
        rw [List.filter_cons_of_neg inside, none_later]
        exact List.nil_prefix

end Noland.Sorting
