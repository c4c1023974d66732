import Noland.Cas.Tiling

/-!
A cut is decided by the bytes from the start of its chunk on, never by what follows the window it
is looked for in. With a greatest length of 0 the loop of `fastcdc_offsets` does not end on more
bytes than the least length.
-/

namespace Noland.Cas

section Locality

variable {least most : Nat} {mask : UInt64}

theorem scanWindow_append {window : List UInt8} {i cut : Nat} {hash : UInt64}
    (found : scanWindow least mask window i hash = some cut) (more : List UInt8) :
    scanWindow least mask (window ++ more) i hash = some cut := by
  induction window generalizing i hash with
  | nil => cases found
  | cons byte rest ih =>
      unfold scanWindow at found
      rw [List.cons_append]
      unfold scanWindow
      dsimp only at found ⊢
      split at found
      · rename_i stops
        rw [if_pos stops]
        exact found
      · rename_i goes
        rw [if_neg goes]
        exact ih found

theorem cutLength_append {rest : List UInt8} (notLast : cutLength least most mask rest < rest.length)
    (extension : List UInt8) :
    cutLength least most mask (rest ++ extension) = cutLength least most mask rest := by
  have long : ¬ rest.length ≤ least := by
    intro short
    have whole : cutLength least most mask rest = rest.length := if_pos short
    omega
  have still_long : ¬ (rest ++ extension).length ≤ least := by
    rw [List.length_append]
    omega
  rw [cutLength_of_lt long] at notLast ⊢
  rw [cutLength_of_lt still_long]
  by_cases bounded : most ≤ rest.length
  · -- The window is full, and the same bytes fill it.
    have window : min rest.length most = most := Nat.min_eq_right bounded
    have same_window : min (rest ++ extension).length most = most := by
      rw [List.length_append]
      omega
    rw [window, same_window, List.take_append_of_le_length bounded]
  · have window : min rest.length most = rest.length := by omega
    rw [window] at notLast ⊢
    rw [List.take_length] at notLast ⊢
    have start : min least rest.length = least := by omega
    rw [start] at notLast ⊢
    cases found : scanWindow least mask (rest.drop least) least 0 with
    | none =>
        rw [found, Option.getD_none] at notLast
        exact absurd notLast (Nat.lt_irrefl _)
    | some cut =>
        have longer : rest.length ≤ min (rest ++ extension).length most := by
          rw [List.length_append]
          omega
        have same_start : min least (min (rest ++ extension).length most) = least := by omega
        have more : ((rest ++ extension).take (min (rest ++ extension).length most)).drop least =
            rest.drop least ++ extension.take (min (rest ++ extension).length most - rest.length) := by
          rw [List.take_append, List.take_of_length_le longer,
            List.drop_append_of_le_length (by omega)]
        rw [same_start, more, scanWindow_append found, Option.getD_some, Option.getD_some]

theorem Cuts.ne_nil {rest : List UInt8} {pos : Nat} {offsets : List Nat}
    (cuts : Cuts least most mask rest pos offsets) (filled : rest ≠ []) : offsets ≠ [] := by
  cases cuts with
  | ended => exact absurd rfl filled
  | last => exact List.cons_ne_nil _ _
  | cut => exact List.cons_ne_nil _ _

theorem Cuts.append {rest extension : List UInt8} {pos : Nat} {offsets extended : List Nat}
    (ends : LoopEnds least most rest.length) (cuts : Cuts least most mask rest pos offsets)
    (others : Cuts least most mask (rest ++ extension) pos extended) :
    offsets.dropLast <+: extended := by
  induction cuts generalizing extended with
  | ended pos => exact List.nil_prefix
  | last pos filled short => exact List.nil_prefix
  | @cut rest pos offsets long later ih =>
      by_cases ended : rest.drop (cutLength least most mask rest) = []
      · rw [ended] at later
        have none_later := later.unique (.ended _)
        rw [none_later]
        exact List.nil_prefix
      · have notLast : cutLength least most mask rest < rest.length := by
          by_contra whole
          exact ended (List.drop_eq_nil_iff.mpr (Nat.le_of_not_lt whole))
        have same := cutLength_append notLast extension
        generalize joined : rest ++ extension = whole at others same
        have length := congrArg List.length joined
        rw [List.length_append] at length
        cases others with
        | ended =>
            rw [List.length_nil] at length
            omega
        | last _ _ short => omega
        | cut _ others =>
            rw [same, ← joined, List.drop_append_of_le_length (Nat.le_of_lt notLast)] at others
            rw [List.dropLast_cons_of_ne_nil (later.ne_nil ended), same]
            exact (List.prefix_cons_inj _).mpr (ih (ends.drop _) others)

theorem Cuts.shift {rest : List UInt8} {pos : Nat} {offsets : List Nat}
    (cuts : Cuts least most mask rest pos offsets) (distance : Nat) :
    Cuts least most mask rest (distance + pos) (offsets.map (distance + ·)) := by
  induction cuts with
  | ended pos => exact .ended _
  | @last rest pos filled short =>
      rw [List.map_singleton, ← Nat.add_assoc]
      exact .last _ filled short
  | @cut rest pos offsets long later ih =>
      rw [List.map_cons, ← Nat.add_assoc]
      rw [← Nat.add_assoc] at ih
      exact .cut long ih

theorem Cuts.after {rest : List UInt8} {pos cut : Nat} {offsets before later : List Nat}
    (ends : LoopEnds least most rest.length) (cuts : Cuts least most mask rest pos offsets)
    (split : offsets = before ++ cut :: later) :
    ∃ distance, cut = pos + distance ∧
      Cuts least most mask (rest.drop distance) cut later := by
  induction cuts generalizing before with
  | ended pos => simp at split
  | @last rest pos filled short =>
      cases before with
      | nil =>
          rw [List.nil_append, List.cons.injEq] at split
          refine ⟨rest.length, split.1.symm, ?_⟩
          rw [List.drop_length, ← split.2]
          exact .ended _
      | cons first more => simp at split
  | @cut rest pos offsets long rounds ih =>
      cases before with
      | nil =>
          rw [List.nil_append, List.cons.injEq] at split
          refine ⟨_, split.1.symm, ?_⟩
          rw [← split.1, ← split.2]
          exact rounds
      | cons first more =>
          rw [List.cons_append, List.cons.injEq] at split
          obtain ⟨distance, here, cuts⟩ := ih (ends.drop _) split.2
          refine ⟨cutLength least most mask rest + distance, by omega, ?_⟩
          rwa [← List.drop_drop]

theorem chunksAt_map (distance start : Nat) (offsets : List Nat) :
    chunksAt (distance + start) (offsets.map (distance + ·)) =
      (chunksAt start offsets).map fun chunk => (distance + chunk.1, distance + chunk.2) := by
  induction offsets generalizing start with
  | nil => rfl
  | cons cut rest ih => exact congrArg _ (ih cut)

theorem chunksAt_dropLast (start : Nat) (offsets : List Nat) :
    (chunksAt start offsets).dropLast = chunksAt start offsets.dropLast := by
  induction offsets generalizing start with
  | nil => rfl
  | cons cut rest ih =>
      cases rest with
      | nil => rfl
      | cons next others => exact congrArg _ (ih cut)

theorem chunksAt_prefix {start : Nat} {offsets extended : List Nat}
    (first : offsets <+: extended) : chunksAt start offsets <+: chunksAt start extended := by
  induction offsets generalizing start extended with
  | nil => exact List.nil_prefix
  | cons cut rest ih =>
      obtain ⟨more, rfl⟩ := first
      exact (List.prefix_cons_inj _).mpr (ih ⟨more, rfl⟩)

end Locality

section Streaming

variable {State : Type} {least most : Nat} {mask : UInt64}

theorem pieces_nil (fuel : Nat) : pieces least most mask fuel [] = [] := by
  cases fuel <;> rfl

theorem pieces_filled {fuel : Nat} {rest : List UInt8} (filled : rest ≠ [])
    (enough : rest.length ≤ fuel) :
    ∃ rounds, fuel = rounds + 1 ∧ pieces least most mask fuel rest =
      rest.take (cutLength least most mask rest) ::
        pieces least most mask rounds (rest.drop (cutLength least most mask rest)) := by
  cases fuel with
  | zero => exact absurd (List.length_eq_zero_iff.mp (Nat.le_zero.mp enough)) filled
  | succ rounds => exact ⟨rounds, rfl, if_neg filled⟩

theorem pieces_append (positive : 0 < least) (ordered : least ≤ most) {fuel more : Nat}
    {rest extension : List UInt8} (enough : rest.length ≤ fuel)
    (enough_more : (rest ++ extension).length ≤ more) :
    (pieces least most mask fuel rest).dropLast <+:
      pieces least most mask more (rest ++ extension) := by
  induction fuel generalizing rest more with
  | zero => exact List.nil_prefix
  | succ fuel ih =>
      by_cases empty : rest = []
      · rw [empty, pieces_nil]
        exact List.nil_prefix
      · have ⟨cut_pos, cut_le⟩ : 0 < cutLength least most mask rest ∧ _ :=
          cutLength_bounds positive ordered empty
        have first : pieces least most mask (fuel + 1) rest =
            rest.take (cutLength least most mask rest) ::
              pieces least most mask fuel (rest.drop (cutLength least most mask rest)) := if_neg empty
        rw [first]
        by_cases ended : rest.drop (cutLength least most mask rest) = []
        · rw [ended, pieces_nil]
          exact List.nil_prefix
        · have notLast : cutLength least most mask rest < rest.length := by
            by_contra whole
            exact ended (List.drop_eq_nil_iff.mpr (Nat.le_of_not_lt whole))
          have shorter : (rest.drop (cutLength least most mask rest)).length ≤ fuel := by
            rw [List.length_drop]
            omega
          have filled_more : rest ++ extension ≠ [] := by simp [empty]
          obtain ⟨_, _, others⟩ := @pieces_filled least most mask fuel _ ended shorter
          obtain ⟨rounds, count, extended⟩ :=
            @pieces_filled least most mask more _ filled_more enough_more
          have some_later : pieces least most mask fuel
              (rest.drop (cutLength least most mask rest)) ≠ [] := by
            rw [others]
            exact List.cons_ne_nil _ _
          rw [List.dropLast_cons_of_ne_nil some_later, extended, cutLength_append notLast,
            List.take_append_of_le_length cut_le, List.drop_append_of_le_length cut_le]
          apply (List.prefix_cons_inj _).mpr
          apply ih shorter
          rw [List.length_append] at enough_more ⊢
          rw [List.length_drop]
          omega

theorem chunkReader_pieces {primitives : Primitives} {onChunk : OnChunk State}
    {reader : Reader} {avg : Nat} {state later : State} {result : ChunkStreamResult}
    (steady : ∀ n, reader.failing n = none)
    (succeeded : chunkReaderWith primitives reader least avg most onChunk state =
      (.ok result, later)) :
    0 < least ∧ least ≤ most ∧
      result.chunks = (pieces least most (maskFor primitives avg) reader.remaining.length
        reader.remaining).map (chunkRef primitives) := by
  unfold chunkReaderWith at succeeded
  split at succeeded
  · cases succeeded
  · rename_i valid
    have positive : 0 < least := by omega
    have ordered : least ≤ most := by omega
    have sound : Stream.Sound most { reader := reader } :=
      ⟨steady, Nat.zero_le _, fun ended => by cases ended⟩
    have loop := @chunkLoop_pieces State least most (maskFor primitives avg) primitives onChunk
      positive ordered (reader.remaining.length + 1) { reader := reader } sound
      (Nat.lt_succ_self reader.remaining.length) [] state
    have same : pieces least most (maskFor primitives avg) (reader.remaining.length + 1)
        (Stream.rest { reader := reader }) =
        pieces least most (maskFor primitives avg) reader.remaining.length reader.remaining :=
      pieces_succ positive ordered (Nat.le_refl _)
    rw [loop, same] at succeeded
    refine ⟨positive, ordered, ?_⟩
    cases delivered : deliver onChunk (withRefs primitives (pieces least most
        (maskFor primitives avg) reader.remaining.length reader.remaining)) state with
    | mk outcome after =>
        rw [delivered] at succeeded
        cases outcome with
        | error error => cases succeeded
        | ok value =>
            cases succeeded
            rfl

end Streaming

/-- Chunk boundaries are local: all chunks but the last one stay when data is appended, in
memory and from a reader, and the chunks after a cut are those of the data from there on. -/
theorem chunk_boundaries_local {State : Type} (primitives : Primitives)
    (data extension : List UInt8) {least avg most : Nat}
    (ends : LoopEnds least most (data ++ extension).length) :
    (chunksAt 0 (fastcdcOffsets primitives data least avg most)).dropLast <+:
      chunksAt 0 (fastcdcOffsets primitives (data ++ extension) least avg most) ∧
    (∀ before cut after,
      fastcdcOffsets primitives data least avg most = before ++ cut :: after →
      chunksAt cut after =
        (chunksAt 0 (fastcdcOffsets primitives (data.drop cut) least avg most)).map fun chunk =>
          (cut + chunk.1, cut + chunk.2)) ∧
    ∀ (reader longer : Reader) (onChunk onLonger : OnChunk State) (state later longerLater : State)
      (result extended : ChunkStreamResult),
      (∀ n, reader.failing n = none) → (∀ n, longer.failing n = none) →
      reader.remaining = data → longer.remaining = data ++ extension →
      chunkReaderWith primitives reader least avg most onChunk state = (.ok result, later) →
      chunkReaderWith primitives longer least avg most onLonger state =
        (.ok extended, longerLater) →
      result.chunks.dropLast <+: extended.chunks := by
  have ends_data : LoopEnds least most data.length :=
    ends.mono (by rw [List.length_append]; omega)
  have cuts : Cuts least most (maskFor primitives avg) data 0
      (fastcdcOffsets primitives data least avg most) := fastcdcOffsets_cuts primitives ends_data
  refine ⟨?_, ?_, ?_⟩
  · rw [chunksAt_dropLast]
    exact chunksAt_prefix (cuts.append ends_data (fastcdcOffsets_cuts primitives ends))
  · intro before cut after split
    obtain ⟨distance, here, rounds⟩ := cuts.after ends_data split
    rw [Nat.zero_add] at here
    rw [← here] at rounds
    have suffix : Cuts least most (maskFor primitives avg) (data.drop cut) 0
        (fastcdcOffsets primitives (data.drop cut) least avg most) :=
      fastcdcOffsets_cuts primitives (ends_data.drop cut)
    have same := rounds.unique (suffix.shift cut)
    rw [same, ← chunksAt_map]
    rfl
  · intro reader longer onChunk onLonger state later longerLater result extended steady
      longer_steady bytes longer_bytes succeeded longer_succeeded
    obtain ⟨positive, ordered, chunks⟩ := chunkReader_pieces steady succeeded
    obtain ⟨_, _, more⟩ := chunkReader_pieces longer_steady longer_succeeded
    rw [chunks, more, bytes, longer_bytes, ← List.map_dropLast]
    exact (pieces_append positive ordered (Nat.le_refl _) (Nat.le_refl _)).map _

theorem chunk_boundaries_local_seven :
    (chunksAt 0 (fastcdcOffsets Sample.primitives [1, 2, 3, 4, 5, 6, 7] 2 2 3)).dropLast <+:
      chunksAt 0 (fastcdcOffsets Sample.primitives ([1, 2, 3, 4, 5, 6, 7] ++ [8, 9]) 2 2 3) ∧
    1 < (fastcdcOffsets Sample.primitives [1, 2, 3, 4, 5, 6, 7] 2 2 3).dropLast.length := by
  have positive : 0 < 3 := by decide
  have stays := (@chunk_boundaries_local Unit Sample.primitives [1, 2, 3, 4, 5, 6, 7] [8, 9] 2 2 3
    (Or.inl positive)).1
  exact ⟨stays, by decide⟩

end Noland.Cas
