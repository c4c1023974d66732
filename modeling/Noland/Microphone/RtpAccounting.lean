import Mathlib.Data.Finset.Union
import Mathlib.Order.Interval.Finset.Nat
import Noland.Lib.Machine
import Noland.Microphone.RtpTracker

/-!
Every packet has a true index, of which the sequence number is the last 16 bits. The counts are
compared with the set of the indices that were accepted.
-/

namespace Noland.Microphone

structure IndexedPacket where
  index : Nat
  timestamp : UInt32
  arrival : Nat

def IndexedPacket.packet (indexed : IndexedPacket) : RtpPacket :=
  ⟨.ofNat indexed.index, indexed.timestamp, indexed.arrival⟩

/-- The tracker, and the indices so far with its answers, the newest first. -/
structure Reception where
  tracker : RtpTracker := {}
  history : List (Nat × Bool) := []

namespace Reception

def step (reception : Reception) (indexed : IndexedPacket) : Reception :=
  let answer := reception.tracker.observe indexed.packet
  { tracker := answer.2, history := (indexed.index, answer.1) :: reception.history }

def heard (reception : Reception) : Finset Nat := (reception.history.map Prod.fst).toFinset

end Reception

def acceptedIndices (history : List (Nat × Bool)) : Finset Nat :=
  ((history.filter Prod.snd).map Prod.fst).toFinset

def answersRight : List (Nat × Bool) → Prop
  | [] => True
  | (index, answer) :: before =>
      (answer = true ↔ index ∉ acceptedIndices before) ∧ answersRight before

def span (indices : Finset Nat) : Finset Nat :=
  indices.biUnion fun low => indices.biUnion fun high => Finset.Icc low high

namespace Reception

structure Exact (reception : Reception) : Prop where
  answers : answersRight reception.history
  received : reception.tracker.received = (acceptedIndices reception.history).card
  lost : reception.tracker.lost =
    (span reception.heard \ acceptedIndices reception.history).card

def Near (reception : Reception) (indexed : IndexedPacket) : Prop :=
  ∀ largest ∈ reception.heard, (∀ other ∈ reception.heard, other ≤ largest) →
    indexed.index ≤ largest + 4096 ∧ largest ≤ indexed.index + 4096

/-- A packet before all others comes directly before them, while none is missing, and does not
lie before the last wrap of the sequence numbers ahead of the first packet. -/
def Precedes (reception : Reception) (indexed : IndexedPacket) : Prop :=
  reception.history ≠ [] → (∀ other ∈ reception.heard, indexed.index < other) →
    indexed.index + 1 ∈ reception.heard ∧ span reception.heard ⊆ reception.heard ∧
      (reception.history.getLast?.map fun first => first.1 / 65536) =
        some (indexed.index / 65536)

instance (reception : Reception) (indexed : IndexedPacket) :
    Decidable (reception.Near indexed) :=
  inferInstanceAs (Decidable (∀ largest ∈ reception.heard,
    (∀ other ∈ reception.heard, other ≤ largest) →
      indexed.index ≤ largest + 4096 ∧ largest ≤ indexed.index + 4096))

instance (reception : Reception) (indexed : IndexedPacket) :
    Decidable (reception.Precedes indexed) :=
  inferInstanceAs (Decidable (reception.history ≠ [] →
    (∀ other ∈ reception.heard, indexed.index < other) →
      indexed.index + 1 ∈ reception.heard ∧ span reception.heard ⊆ reception.heard ∧
        (reception.history.getLast?.map fun first => first.1 / 65536) =
          some (indexed.index / 65536)))

end Reception

theorem sequenceDelta_ofNat {index largest : Nat} (near : index ≤ largest + 4096)
    (close : largest ≤ index + 4096) :
    sequenceDelta (.ofNat index) (.ofNat largest) = (index : ℤ) - largest := by
  have wraps : sequenceDelta (.ofNat index) (.ofNat largest) =
      ((index : ℤ) - largest).bmod 65536 := by
    change (BitVec.ofNat 16 index - BitVec.ofNat 16 largest).toInt = _
    rw [BitVec.toInt_sub, BitVec.toInt_ofNat', BitVec.toInt_ofNat', Int.sub_bmod_bmod,
      Int.bmod_sub_bmod]
  rw [wraps, Int.bmod_eq_of_le] <;> omega

structure Extends (tracker : RtpTracker) (base high : Nat) : Prop where
  maxSequence : tracker.maxSequence = some (.ofNat high)
  extended : tracker.maxExtendedSequence + base = high

theorem extend_above {tracker : RtpTracker} {base high index : Nat}
    (extends' : Extends tracker base high) (above : high < index)
    (near : index ≤ high + 4096) :
    tracker.extend (.ofNat index) = some (index - base,
      { tracker with
        lost := tracker.lost + (index - high - 1)
        maxSequence := some (.ofNat index)
        maxExtendedSequence := index - base }) := by
  have delta := sequenceDelta_ofNat near (by omega)
  have sum := extends'.extended
  unfold RtpTracker.extend
  rw [extends'.maxSequence]
  dsimp only
  rw [delta, if_pos (by omega)]
  have ahead : ((index : ℤ) - high).toNat = index - high := by omega
  have number : tracker.maxExtendedSequence + (index - high) = index - base := by omega
  rw [ahead, number]

theorem extend_below {tracker : RtpTracker} {base high index : Nat}
    (extends' : Extends tracker base high) (below : index ≤ high)
    (near : high ≤ index + 4096) :
    tracker.extend (.ofNat index) =
      if index - base ∈ tracker.seen then none
      else some (index - base,
        { tracker with outOfOrder := tracker.outOfOrder + 1, lost := tracker.lost - 1 }) := by
  have close : index ≤ high + 4096 := by omega
  have delta := sequenceDelta_ofNat close near
  have sum := extends'.extended
  unfold RtpTracker.extend
  rw [extends'.maxSequence]
  dsimp only
  rw [delta, if_neg (by omega)]
  have behind : (-((index : ℤ) - high)).toNat = high - index := by omega
  have number : tracker.maxExtendedSequence - (high - index) = index - base := by omega
  rw [behind, number]

theorem mem_span {indices : Finset Nat} {number : Nat} :
    number ∈ span indices ↔ (∃ low ∈ indices, low ≤ number) ∧ ∃ high ∈ indices, number ≤ high := by
  simp only [span, Finset.mem_biUnion, Finset.mem_Icc]
  constructor
  · rintro ⟨low, first, high, last, above, below⟩
    exact ⟨⟨low, first, above⟩, high, last, below⟩
  · rintro ⟨⟨low, first, above⟩, high, last, below⟩
    exact ⟨low, first, high, last, above, below⟩

structure Spans (indices : Finset Nat) (low high : Nat) : Prop where
  least : low ∈ indices
  greatest : high ∈ indices
  above : ∀ index ∈ indices, low ≤ index
  below : ∀ index ∈ indices, index ≤ high

namespace Spans

variable {indices : Finset Nat} {low high : Nat}

theorem span_eq (spans : Spans indices low high) : span indices = Finset.Icc low high := by
  ext number
  rw [mem_span, Finset.mem_Icc]
  constructor
  · rintro ⟨⟨first, member, above⟩, last, inside, below⟩
    exact ⟨(spans.above first member).trans above, below.trans (spans.below last inside)⟩
  · rintro ⟨above, below⟩
    exact ⟨⟨low, spans.least, above⟩, high, spans.greatest, below⟩

theorem subset (spans : Spans indices low high) : indices ⊆ Finset.Icc low high :=
  fun index member => Finset.mem_Icc.mpr ⟨spans.above index member, spans.below index member⟩

theorem ordered (spans : Spans indices low high) : low ≤ high :=
  spans.above high spans.greatest

theorem missing (spans : Spans indices low high) :
    (span indices \ indices).card + indices.card = high + 1 - low := by
  rw [spans.span_eq, Finset.card_sdiff_add_card_eq_card spans.subset, Nat.card_Icc]

theorem insert_ge (spans : Spans indices low high) {index : Nat} (from_low : low ≤ index) :
    Spans (insert index indices) low (max high index) := by
  constructor
  · exact Finset.mem_insert_of_mem spans.least
  · rcases le_total high index with more | less
    · rw [max_eq_right more]
      exact Finset.mem_insert_self _ _
    · rw [max_eq_left less]
      exact Finset.mem_insert_of_mem spans.greatest
  · intro other member
    rcases Finset.mem_insert.mp member with rfl | inside
    · exact from_low
    · exact spans.above other inside
  · intro other member
    rcases Finset.mem_insert.mp member with rfl | inside
    · exact le_max_right _ _
    · exact (spans.below other inside).trans (le_max_left _ _)

theorem insert_lt (spans : Spans indices low high) {index : Nat} (lower : index < low) :
    Spans (insert index indices) index high := by
  constructor
  · exact Finset.mem_insert_self _ _
  · exact Finset.mem_insert_of_mem spans.greatest
  · intro other member
    rcases Finset.mem_insert.mp member with rfl | inside
    · exact Nat.le_refl _
    · exact lower.le.trans (spans.above other inside)
  · intro other member
    rcases Finset.mem_insert.mp member with rfl | inside
    · exact lower.le.trans spans.ordered
    · exact spans.below other inside

end Spans

structure Counts (reception : Reception) (base low high : Nat) : Prop where
  spans : Spans reception.heard low high
  rounds : reception.history.getLast?.map (fun first => first.1 / 65536) = some (base / 65536)
  based : base % 65536 = 0
  within : base ≤ low
  extending : Extends reception.tracker base high
  seen : ∀ number, number ∈ reception.tracker.seen ↔
    number + base ∈ reception.heard ∧ high ≤ number + base + recentSequenceWindow
  accepted : acceptedIndices reception.history = reception.heard
  answers : answersRight reception.history
  received : reception.tracker.received = reception.heard.card
  lost : reception.tracker.lost + reception.heard.card = high + 1 - low

theorem Counts.exact {reception : Reception} {base low high : Nat}
    (counts : Counts reception base low high) : reception.Exact where
  answers := counts.answers
  received := by
    rw [counts.accepted]
    exact counts.received
  lost := by
    have missing := counts.spans.missing
    have lost := counts.lost
    rw [counts.accepted]
    omega

theorem step_accepts {reception : Reception} {indexed : IndexedPacket} {number : Nat}
    {placed : RtpTracker}
    (placing : reception.tracker.extend (.ofNat indexed.index) = some (number, placed))
    (fresh : number ∉ placed.seen) :
    (reception.step indexed).history = (indexed.index, true) :: reception.history ∧
      (reception.step indexed).tracker.received = placed.received + 1 ∧
      (reception.step indexed).tracker.lost = placed.lost ∧
      (reception.step indexed).tracker.maxSequence = placed.maxSequence ∧
      (reception.step indexed).tracker.maxExtendedSequence = placed.maxExtendedSequence ∧
      (reception.step indexed).tracker.seen = (insert number placed.seen).filter
        (placed.maxExtendedSequence - recentSequenceWindow ≤ ·) := by
  have observed : reception.tracker.observe indexed.packet = (true,
      { ({ placed with
            seen := insert number placed.seen
            received := placed.received + 1 } : RtpTracker).updateJitter indexed.timestamp
              indexed.arrival with
        seen := (insert number placed.seen).filter
          (placed.maxExtendedSequence - recentSequenceWindow ≤ ·) }) := by
    unfold RtpTracker.observe
    rw [show indexed.packet.sequence = .ofNat indexed.index from rfl, placing]
    dsimp only
    rw [if_neg fresh]
    rfl
  unfold Reception.step
  rw [observed]
  exact ⟨rfl, rfl, rfl, rfl, rfl, rfl⟩

theorem step_repeats {reception : Reception} {indexed : IndexedPacket}
    (placing : reception.tracker.extend (.ofNat indexed.index) = none) :
    reception.step indexed =
      { tracker := { reception.tracker with duplicates := reception.tracker.duplicates + 1 }
        history := (indexed.index, false) :: reception.history } := by
  unfold Reception.step RtpTracker.observe
  rw [show indexed.packet.sequence = .ofNat indexed.index from rfl, placing]

theorem heard_of_history {reception later : Reception} {index : Nat} {answer : Bool}
    (added : later.history = (index, answer) :: reception.history) :
    later.heard = insert index reception.heard := by
  unfold Reception.heard
  rw [added, List.map_cons, List.toFinset_cons]

theorem acceptedIndices_cons (index : Nat) (answer : Bool) (history : List (Nat × Bool)) :
    acceptedIndices ((index, answer) :: history) =
      if answer then insert index (acceptedIndices history) else acceptedIndices history := by
  unfold acceptedIndices
  cases answer with
  | false => rfl
  | true => exact List.toFinset_cons

section Steps

variable {reception : Reception} {indexed : IndexedPacket} {base low high : Nat}

theorem getLast?_step (counts : Counts reception base low high) :
    (reception.step indexed).history.getLast?.map (fun first => first.1 / 65536) =
      some (base / 65536) := by
  have some_first := counts.rounds
  cases known : reception.history with
  | nil =>
      rw [known] at some_first
      cases some_first
  | cons newest older =>
      unfold Reception.step
      rw [known, List.getLast?_cons_cons, ← known]
      exact some_first

theorem counts_accepted (counts : Counts reception base low high) {placed : RtpTracker}
    {lowest : Nat} (missing : indexed.index ∉ reception.heard) (after_base : base ≤ indexed.index)
    (placing : reception.tracker.extend (.ofNat indexed.index) =
      some (indexed.index - base, placed))
    (same : placed.seen = reception.tracker.seen)
    (received : placed.received = reception.tracker.received)
    (spans : Spans (insert indexed.index reception.heard) lowest (max high indexed.index))
    (within : base ≤ lowest) (extending : Extends placed base (max high indexed.index))
    (lost : placed.lost + (reception.heard.card + 1) = max high indexed.index + 1 - lowest) :
    Counts (reception.step indexed) base lowest (max high indexed.index) := by
  have shift : indexed.index - base + base = indexed.index := Nat.sub_add_cancel after_base
  have fresh : indexed.index - base ∉ placed.seen := by
    rw [same, counts.seen, shift]
    exact fun known => missing known.1
  obtain ⟨history, accepts, losses, sequence, extended, seen⟩ := step_accepts placing fresh
  have heard := heard_of_history history
  have card := Finset.card_insert_of_notMem missing
  have accepted : acceptedIndices (reception.step indexed).history =
      (reception.step indexed).heard := by
    rw [history, acceptedIndices_cons, if_pos rfl, counts.accepted, heard]
  constructor
  · rw [heard]
    exact spans
  · exact getLast?_step counts
  · exact counts.based
  · exact within
  · exact ⟨sequence.trans extending.maxSequence, by rw [extended]; exact extending.extended⟩
  · intro number
    have largest := extending.extended
    rw [seen, heard, Finset.mem_filter, Finset.mem_insert, Finset.mem_insert, same, counts.seen]
    have window : placed.maxExtendedSequence - recentSequenceWindow ≤ number ↔
        max high indexed.index ≤ number + base + recentSequenceWindow := by omega
    have itself : number = indexed.index - base ↔ number + base = indexed.index := by omega
    rw [window, itself]
    constructor
    · rintro ⟨new | known, recent⟩
      · exact ⟨Or.inl new, recent⟩
      · exact ⟨Or.inr known.1, recent⟩
    · rintro ⟨new | known, recent⟩
      · exact ⟨Or.inl new, recent⟩
      · exact ⟨Or.inr ⟨known, (le_max_left _ _).trans recent⟩, recent⟩
  · exact accepted
  · rw [history]
    exact ⟨iff_of_true rfl (by rw [counts.accepted]; exact missing), counts.answers⟩
  · rw [accepts, received, counts.received, heard, card]
  · rw [losses, heard, card]
    exact lost

theorem counts_repeated (counts : Counts reception base low high)
    (known : indexed.index ∈ reception.heard) (near : high ≤ indexed.index + 4096) :
    Counts (reception.step indexed) base low high := by
  have below := counts.spans.below _ known
  have above := counts.spans.above _ known
  have within := counts.within
  have placing := extend_below counts.extending below near
  have repeated : indexed.index - base ∈ reception.tracker.seen := by
    rw [counts.seen, Nat.sub_add_cancel (within.trans above)]
    exact ⟨known, near⟩
  rw [if_pos repeated] at placing
  have rounds := @getLast?_step _ indexed _ _ _ counts
  rw [step_repeats placing] at rounds ⊢
  have heard : ∀ tracker : RtpTracker,
      Reception.heard ⟨tracker, (indexed.index, false) :: reception.history⟩ =
        reception.heard := by
    intro tracker
    have added : (⟨tracker, (indexed.index, false) :: reception.history⟩ : Reception).heard =
        insert indexed.index reception.heard := heard_of_history rfl
    exact added.trans (Finset.insert_eq_of_mem known)
  have accepted : acceptedIndices ((indexed.index, false) :: reception.history) =
      acceptedIndices reception.history := acceptedIndices_cons _ _ _
  constructor
  · rw [heard]
    exact counts.spans
  · exact rounds
  · exact counts.based
  · exact counts.within
  · exact ⟨counts.extending.maxSequence, counts.extending.extended⟩
  · rw [heard]
    exact counts.seen
  · rw [heard, accepted, counts.accepted]
  · refine ⟨iff_of_false Bool.false_ne_true ?_, counts.answers⟩
    rw [counts.accepted]
    exact not_not_intro known
  · rw [heard]
    exact counts.received
  · rw [heard]
    exact counts.lost

theorem near_bounds (counts : Counts reception base low high) (near : reception.Near indexed) :
    indexed.index ≤ high + 4096 ∧ high ≤ indexed.index + 4096 :=
  near high counts.spans.greatest counts.spans.below

theorem Spans.card_lt {indices : Finset Nat} {index : Nat} (spans : Spans indices low high)
    (missing : index ∉ indices) (above : low ≤ index) (below : index ≤ high) :
    indices.card + 1 ≤ high + 1 - low := by
  have inside : insert index indices ⊆ Finset.Icc low high :=
    Finset.insert_subset (Finset.mem_Icc.mpr ⟨above, below⟩) spans.subset
  have fits := Finset.card_le_card inside
  rw [Finset.card_insert_of_notMem missing, Nat.card_Icc] at fits
  exact fits

theorem counts_step (counts : Counts reception base low high) (near : reception.Near indexed)
    (precedes : reception.Precedes indexed) :
    ∃ lowest highest, Counts (reception.step indexed) base lowest highest := by
  obtain ⟨ahead, behind⟩ := near_bounds counts near
  have within := counts.within
  have ordered := counts.spans.ordered
  have lost := counts.lost
  have sum := counts.extending.extended
  by_cases known : indexed.index ∈ reception.heard
  · exact ⟨low, high, counts_repeated counts known behind⟩
  rcases Nat.lt_or_ge high indexed.index with above | below
  · have largest : max high indexed.index = indexed.index := max_eq_right above.le
    have placing := extend_above counts.extending above ahead
    refine ⟨low, _, counts_accepted counts known (by omega) placing rfl rfl ?_ within ?_ ?_⟩
    · exact counts.spans.insert_ge (ordered.trans above.le)
    · rw [largest]
      exact ⟨rfl, Nat.sub_add_cancel (by omega)⟩
    · dsimp only
      omega
  · have largest : max high indexed.index = high := max_eq_left below
    have placing := extend_below counts.extending below behind
    rcases Nat.lt_or_ge indexed.index low with lower | inside
    · -- The packet comes before all others.
      have filled : reception.history ≠ [] := by
        intro empty
        have rounds := counts.rounds
        rw [empty] at rounds
        cases rounds
      obtain ⟨next, complete, round⟩ := precedes filled fun other member =>
        lower.trans_le (counts.spans.above other member)
      have adjacent : indexed.index + 1 = low :=
        le_antisymm lower (counts.spans.above _ next)
      have whole := counts.spans.missing
      rw [Finset.sdiff_eq_empty_iff_subset.mpr complete, Finset.card_empty] at whole
      have same_round : base / 65536 = indexed.index / 65536 :=
        Option.some.inj (counts.rounds.symm.trans round)
      have based := counts.based
      have unseen : indexed.index - base ∉ reception.tracker.seen := by
        rw [counts.seen, Nat.sub_add_cancel (by omega)]
        exact fun seen => known seen.1
      rw [if_neg unseen] at placing
      refine ⟨indexed.index, _, counts_accepted counts known (by omega) placing rfl rfl ?_
        (by omega) ?_ ?_⟩
      · rw [largest]
        exact counts.spans.insert_lt lower
      · rw [largest]
        exact ⟨counts.extending.maxSequence, counts.extending.extended⟩
      · dsimp only
        omega
    · have fewer := counts.spans.card_lt known inside below
      have unseen : indexed.index - base ∉ reception.tracker.seen := by
        rw [counts.seen, Nat.sub_add_cancel (by omega)]
        exact fun seen => known seen.1
      rw [if_neg unseen] at placing
      refine ⟨low, _, counts_accepted counts known (by omega) placing rfl rfl ?_ within ?_ ?_⟩
      · exact counts.spans.insert_ge inside
      · rw [largest]
        exact ⟨counts.extending.maxSequence, counts.extending.extended⟩
      · dsimp only
        omega

theorem precedes_of_exact (counts : Counts reception base low high)
    (near : reception.Near indexed) (exact : (reception.step indexed).Exact) :
    reception.Precedes indexed := by
  intro _ first
  obtain ⟨ahead, behind⟩ := near_bounds counts near
  have lower := first low counts.spans.least
  have within := counts.within
  have ordered := counts.spans.ordered
  have lost := counts.lost
  have sum := counts.extending.extended
  have missing : indexed.index ∉ reception.heard := fun known =>
    Nat.lt_irrefl _ (first _ known)
  have placing := extend_below counts.extending (lower.le.trans ordered) behind
  by_cases repeated : indexed.index - base ∈ reception.tracker.seen
  · -- The packet is taken for one that was seen.
    rw [if_pos repeated] at placing
    have answers := exact.answers
    rw [step_repeats placing] at answers
    have accepted := answers.1.mpr (by rw [counts.accepted]; exact missing)
    cases accepted
  · rw [if_neg repeated] at placing
    obtain ⟨history, _, losses, _⟩ := step_accepts placing repeated
    have heard := heard_of_history history
    have accepted : acceptedIndices (reception.step indexed).history =
        insert indexed.index reception.heard := by
      rw [history, acceptedIndices_cons, if_pos rfl, counts.accepted]
    have whole := (counts.spans.insert_lt lower).missing
    have counted := exact.lost
    rw [losses, accepted, heard] at counted
    rw [Finset.card_insert_of_notMem missing] at whole
    have before := counts.spans.missing
    dsimp only at counted
    have adjacent : indexed.index + 1 = low := by omega
    have nothing : (span reception.heard \ reception.heard).card = 0 := by omega
    refine ⟨adjacent ▸ counts.spans.least, ?_, ?_⟩
    · exact Finset.sdiff_eq_empty_iff_subset.mp (Finset.card_eq_zero.mp nothing)
    · rw [counts.rounds]
      have based := counts.based
      have round_start : base ≤ indexed.index := by
        by_contra outside
        -- The number is cut off to zero, that of the packet before all others.
        apply repeated
        rw [counts.seen]
        have zero : indexed.index - base + base = low := by omega
        have window : recentSequenceWindow = 4096 := rfl
        exact ⟨zero.symm ▸ counts.spans.least, by omega⟩
      obtain ⟨oldest, found, round⟩ := Option.map_eq_some_iff.mp counts.rounds
      have before_oldest : indexed.index < oldest.1 := by
        apply first
        exact List.mem_toFinset.mpr (List.mem_map_of_mem (List.mem_of_getLast? found))
      have same_round : base / 65536 = indexed.index / 65536 := by omega
      rw [same_round]

end Steps

theorem counts_first (indexed : IndexedPacket) :
    Counts (({} : Reception).step indexed) (65536 * (indexed.index / 65536)) indexed.index
      indexed.index := by
  have placing : ({} : RtpTracker).extend (.ofNat indexed.index) =
      some ((UInt16.ofNat indexed.index).toNat, { ({} : RtpTracker) with
        maxSequence := some (.ofNat indexed.index)
        maxExtendedSequence := (UInt16.ofNat indexed.index).toNat }) := rfl
  have number : (UInt16.ofNat indexed.index).toNat = indexed.index % 65536 := rfl
  rw [number] at placing
  obtain ⟨history, received, lost, sequence, extended, seen⟩ :=
    @step_accepts {} _ _ _ placing (Finset.notMem_empty _)
  have heard : (({} : Reception).step indexed).heard = {indexed.index} := by
    rw [heard_of_history history]
    rfl
  constructor
  · rw [heard]
    exact ⟨Finset.mem_singleton_self _, Finset.mem_singleton_self _,
      fun _ member => (Finset.mem_singleton.mp member).ge,
      fun _ member => (Finset.mem_singleton.mp member).le⟩
  · rw [history]
    change some (indexed.index / 65536) = _
    rw [Nat.mul_div_cancel_left _ (by decide)]
  · exact Nat.mul_mod_right _ _
  · exact Nat.mul_div_le _ _
  · exact ⟨sequence, by rw [extended]; exact Nat.mod_add_div _ _⟩
  · intro other
    have window : recentSequenceWindow = 4096 := rfl
    rw [seen, heard, Finset.mem_filter, Finset.mem_insert, Finset.mem_singleton]
    dsimp only
    rw [or_iff_left (Finset.notMem_empty _)]
    omega
  · rw [history, acceptedIndices_cons, if_pos rfl, heard]
    rfl
  · rw [history]
    exact ⟨iff_of_true rfl (Finset.notMem_empty _), trivial⟩
  · rw [received, heard]
    rfl
  · rw [lost, heard, Finset.card_singleton]
    dsimp only
    omega

def Accounted (reception : Reception) : Prop :=
  reception = {} ∨ ∃ base low high, Counts reception base low high

/-- Answers and counts are right after every packet exactly when a packet before all others
always comes directly before them, while nothing is missing, and not across a wrap. -/
theorem rtp_accounting_iff (packets : List IndexedPacket)
    (near : Machine.Along Reception.step Reception.Near {} packets) :
    Machine.Throughout Reception.step Reception.Exact {} packets ↔
      Machine.Along Reception.step Reception.Precedes {} packets := by
  have start : Accounted {} := Or.inl rfl
  apply Machine.throughout_iff_along_of_along _ _ _ start near
  · rintro reception indexed (rfl | ⟨base, low, high, counts⟩) close precedes
    · exact Or.inr ⟨_, _, _, counts_first indexed⟩
    · exact Or.inr ⟨base, counts_step counts close precedes⟩
  · rintro reception (rfl | ⟨base, low, high, counts⟩)
    · exact ⟨trivial, rfl, rfl⟩
    · exact counts.exact
  · rintro reception indexed (rfl | ⟨base, low, high, counts⟩) close violated exact
    · exact violated fun filled => (filled rfl).elim
    · exact violated (precedes_of_exact counts close exact)

theorem rtp_accounting_exact_three :
    Machine.Throughout Reception.step Reception.Exact {}
      [⟨65534, 0, 0⟩, ⟨65537, 0, 0⟩, ⟨65535, 0, 0⟩] :=
  (rtp_accounting_iff _ (by decide +kernel)).mpr (by decide +kernel)

/-- The packet before the first one is not counted as a gap, and the loss of the one between
them is hidden. -/
theorem rtp_accounting_early_packet :
    Machine.Along Reception.step Reception.Near {} [⟨100, 0, 0⟩, ⟨98, 0, 0⟩] ∧
      ¬ Machine.Throughout Reception.step Reception.Exact {} [⟨100, 0, 0⟩, ⟨98, 0, 0⟩] := by
  refine ⟨by decide +kernel, fun exact => ?_⟩
  have lost := exact.2.2.lost
  revert lost
  decide +kernel

end Noland.Microphone
