import Noland.Cas.Chunker

/-!
`fastcdc_offsets` returns where the chunks end; each begins where the one before it ends. The
chunks follow one another from the start of the data to its end, and their lengths stay within
the bounds.
-/

namespace Noland.Cas

def chunksAt : Nat → List Nat → List (Nat × Nat)
  | _, [] => []
  | start, cut :: rest => (start, cut) :: chunksAt cut rest

def chunkSize (chunk : Nat × Nat) : Nat := chunk.2 - chunk.1

/-- Chunks from `start` to `finish` without a gap, none of them empty. -/
def Contiguous : Nat → List (Nat × Nat) → Nat → Prop
  | start, [], finish => start = finish
  | start, chunk :: rest, finish =>
      chunk.1 = start ∧ chunk.1 < chunk.2 ∧ Contiguous chunk.2 rest finish

theorem Contiguous.le {start finish : Nat} {chunks : List (Nat × Nat)}
    (contiguous : Contiguous start chunks finish) : start ≤ finish := by
  induction chunks generalizing start with
  | nil => exact Nat.le_of_eq contiguous
  | cons chunk rest ih =>
      obtain ⟨same, filled, later⟩ := contiguous
      have after := ih later
      omega

theorem Contiguous.sizes {start finish : Nat} {chunks : List (Nat × Nat)}
    (contiguous : Contiguous start chunks finish) :
    (chunks.map chunkSize).sum = finish - start := by
  induction chunks generalizing start with
  | nil =>
      have same : start = finish := contiguous
      rw [same, Nat.sub_self]
      rfl
  | cons chunk rest ih =>
      obtain ⟨same, filled, later⟩ := contiguous
      have after := later.le
      rw [List.map_cons, List.sum_cons, ih later]
      unfold chunkSize
      omega

section Loop

variable {least most : Nat} {mask : UInt64}

/-- The rounds of the loop over what is left at a position, to its end. -/
inductive Cuts (least most : Nat) (mask : UInt64) : List UInt8 → Nat → List Nat → Prop where
  | ended (pos : Nat) : Cuts least most mask [] pos []
  | last {rest : List UInt8} (pos : Nat) (filled : rest ≠ []) (short : rest.length ≤ least) :
      Cuts least most mask rest pos [pos + rest.length]
  | cut {rest : List UInt8} {pos : Nat} {offsets : List Nat} (long : least < rest.length)
      (later : Cuts least most mask (rest.drop (cutLength least most mask rest))
        (pos + cutLength least most mask rest) offsets) :
      Cuts least most mask rest pos ((pos + cutLength least most mask rest) :: offsets)

theorem scanWindow_above {window : List UInt8} {i cut : Nat} {hash : UInt64}
    (found : scanWindow least mask window i hash = some cut) : least < cut := by
  induction window generalizing i hash with
  | nil => cases found
  | cons byte rest ih =>
      unfold scanWindow at found
      dsimp only at found
      split at found
      · rename_i stops
        cases found
        omega
      · exact ih found

theorem least_le_cutLength (ordered : least ≤ most) {rest : List UInt8}
    (long : least < rest.length) : least ≤ cutLength least most mask rest := by
  unfold cutLength
  rw [if_neg (by omega)]
  cases found : scanWindow least mask ((rest.take (min rest.length most)).drop
      (min least (min rest.length most))) (min least (min rest.length most)) 0 with
  | none =>
      rw [Option.getD_none]
      omega
  | some cut =>
      rw [Option.getD_some]
      exact Nat.le_of_lt (scanWindow_above found)

variable {rest : List UInt8}

theorem offsetsFrom_rounds {fuel : Nat} (ends : LoopEnds least most rest.length)
    (enough : rest.length ≤ fuel) (pos : Nat) :
    Cuts least most mask rest pos (offsetsFrom least most mask fuel rest pos) := by
  induction fuel generalizing rest pos with
  | zero =>
      have empty : rest = [] := List.length_eq_zero_iff.mp (Nat.le_zero.mp enough)
      rw [empty]
      exact .ended pos
  | succ fuel ih =>
      unfold offsetsFrom
      split
      · rename_i length
        have empty : rest = [] := List.length_eq_zero_iff.mp length
        rw [empty]
        exact .ended pos
      · rename_i length
        have filled : rest ≠ [] := fun empty => length (by rw [empty]; rfl)
        split
        · rename_i short
          exact .last pos filled short
        · rename_i long
          obtain ⟨positive, within⟩ : 0 < cutLength least most mask rest ∧ _ :=
            cutLength_step ends filled
          dsimp only
          rw [← cutLength_of_lt long]
          apply Cuts.cut (by omega)
          apply ih (ends.drop _)
          rw [List.length_drop]
          omega

theorem Cuts.contiguous (positive : 0 < least) (ordered : least ≤ most) {pos : Nat}
    {offsets : List Nat} (cuts : Cuts least most mask rest pos offsets) :
    Contiguous pos (chunksAt pos offsets) (pos + rest.length) := by
  induction cuts with
  | ended pos => exact rfl
  | @last rest pos filled short =>
      have length := List.length_pos_iff.mpr filled
      exact ⟨rfl, Nat.lt_add_of_pos_right length, rfl⟩
  | @cut rest pos offsets long later ih =>
      have filled : rest ≠ [] := fun empty => by
        rw [empty] at long
        exact Nat.not_lt_zero _ long
      have bounds := @cutLength_bounds least most mask positive ordered rest filled
      refine ⟨rfl, Nat.lt_add_of_pos_right bounds.1, ?_⟩
      rw [List.length_drop] at ih
      have whole : pos + cutLength least most mask rest +
          (rest.length - cutLength least most mask rest) = pos + rest.length := by omega
      rw [whole] at ih
      exact ih

theorem Cuts.le_most (ordered : least ≤ most) {pos : Nat} {offsets : List Nat}
    (cuts : Cuts least most mask rest pos offsets) :
    ∀ chunk ∈ chunksAt pos offsets, chunkSize chunk ≤ most := by
  induction cuts with
  | ended pos => exact List.forall_mem_nil _
  | @last rest pos filled short =>
      refine List.forall_mem_cons.mpr ⟨?_, List.forall_mem_nil _⟩
      show pos + rest.length - pos ≤ most
      omega
  | @cut rest pos offsets long later ih =>
      have bound := @cutLength_le_most least most mask ordered rest
      refine List.forall_mem_cons.mpr ⟨?_, ih⟩
      show pos + cutLength least most mask rest - pos ≤ most
      omega

theorem Cuts.ge_least (ordered : least ≤ most) {pos : Nat} {offsets : List Nat}
    (cuts : Cuts least most mask rest pos offsets) :
    ∀ chunk ∈ (chunksAt pos offsets).dropLast, least ≤ chunkSize chunk := by
  induction cuts with
  | ended pos => exact List.forall_mem_nil _
  | last pos filled short => exact List.forall_mem_nil _
  | @cut rest pos offsets long later ih =>
      have bound := @least_le_cutLength least most mask ordered rest long
      cases offsets with
      | nil => exact List.forall_mem_nil _
      | cons next others =>
          refine List.forall_mem_cons.mpr ⟨?_, ih⟩
          show least ≤ pos + cutLength least most mask rest - pos
          omega

theorem Cuts.unique {pos : Nat} {first second : List Nat}
    (cuts : Cuts least most mask rest pos first) (others : Cuts least most mask rest pos second) :
    first = second := by
  induction cuts generalizing second with
  | ended pos =>
      cases others with
      | ended => rfl
      | last _ filled => exact absurd rfl filled
      | cut long => exact absurd long (Nat.not_lt_zero _)
  | @last rest pos filled short =>
      cases others with
      | ended => exact absurd rfl filled
      | last => rfl
      | cut long => exact absurd long (Nat.not_lt.mpr short)
  | @cut rest pos offsets long later ih =>
      cases others with
      | ended => exact absurd long (Nat.not_lt_zero _)
      | last _ _ short => exact absurd long (Nat.not_lt.mpr short)
      | cut _ others => exact congrArg _ (ih others)

theorem Cuts.getLast {rest : List UInt8} {pos : Nat} {offsets : List Nat}
    (ends : LoopEnds least most rest.length) (cuts : Cuts least most mask rest pos offsets)
    (filled : rest ≠ []) : offsets.getLast? = some (pos + rest.length) := by
  induction cuts with
  | ended pos => exact absurd rfl filled
  | last pos filled short => rfl
  | @cut rest pos offsets long later ih =>
      have bounds : 0 < cutLength least most mask rest ∧ cutLength least most mask rest ≤ _ :=
        cutLength_step ends filled
      by_cases ended : rest.drop (cutLength least most mask rest) = []
      · rw [ended] at later
        have none_later := later.unique (.ended _)
        have whole := List.drop_eq_nil_iff.mp ended
        rw [none_later, List.getLast?_singleton]
        congr 1
        omega
      · rw [List.getLast?_cons, ih (ends.drop _) ended, Option.getD_some, List.length_drop]
        congr 1
        omega

theorem fastcdcOffsets_cuts (primitives : Primitives) {data : List UInt8} {avg : Nat}
    (ends : LoopEnds least most data.length) :
    Cuts least most (maskFor primitives avg) data 0
      (fastcdcOffsets primitives data least avg most) := by
  have rounds : Cuts least most (maskFor primitives avg) data 0
      (offsetsFrom least most (maskFor primitives avg) data.length data 0) :=
    offsetsFrom_rounds ends (Nat.le_refl _) 0
  unfold fastcdcOffsets
  split
  · rename_i empty
    rw [empty]
    exact .ended 0
  · rename_i filled
    have last := rounds.getLast ends filled
    rw [Nat.zero_add] at last
    dsimp only
    rw [last, if_neg fun different => different rfl]
    exact rounds

end Loop

/-- The loop of `fastcdc_offsets` ends, and the chunks it cuts tile the data within bounds. -/
theorem fastcdc_offsets_tile (primitives : Primitives) (data : List UInt8) {least avg most : Nat}
    (positive : 0 < least) (below : least ≤ avg) (above : avg ≤ most) :
    ∃ offsets, Cuts least most (maskFor primitives avg) data 0 offsets ∧
      fastcdcOffsets primitives data least avg most = offsets ∧
      Contiguous 0 (chunksAt 0 offsets) data.length ∧
      ((chunksAt 0 offsets).map chunkSize).sum = data.length ∧
      (∀ chunk ∈ chunksAt 0 offsets, chunkSize chunk ≤ most) ∧
      ∀ chunk ∈ (chunksAt 0 offsets).dropLast, least ≤ chunkSize chunk := by
  have ordered : least ≤ most := Nat.le_trans below above
  have cuts : Cuts least most (maskFor primitives avg) data 0
      (fastcdcOffsets primitives data least avg most) :=
    fastcdcOffsets_cuts primitives (Or.inl (Nat.lt_of_lt_of_le positive ordered))
  have contiguous := cuts.contiguous positive ordered
  rw [Nat.zero_add] at contiguous
  exact ⟨_, cuts, rfl, contiguous, contiguous.sizes, cuts.le_most ordered, cuts.ge_least ordered⟩

theorem fastcdc_offsets_tile_seven :
    Contiguous 0 (chunksAt 0 (fastcdcOffsets Sample.primitives [1, 2, 3, 4, 5, 6, 7] 2 2 3)) 7 ∧
      1 < (fastcdcOffsets Sample.primitives [1, 2, 3, 4, 5, 6, 7] 2 2 3).length := by
  have below : 2 ≤ 2 := Nat.le_refl 2
  have above : 2 ≤ 3 := by decide
  obtain ⟨offsets, _, returned, contiguous, _⟩ := fastcdc_offsets_tile Sample.primitives
    [1, 2, 3, 4, 5, 6, 7] (Nat.succ_pos 1) below above
  rw [returned]
  refine ⟨contiguous, ?_⟩
  rw [← returned]
  decide

end Noland.Cas
