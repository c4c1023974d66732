import Mathlib.Algebra.Order.Field.Rat
import Mathlib.Data.Finset.Basic
import Mathlib.Tactic.Linarith

/-!
The tracker extends the sequence numbers of the packets, counts what is received, lost and
repeated, and estimates the jitter from the arrival times.
-/

namespace Noland.Microphone

structure RtpPacket where
  sequence : UInt16
  timestamp : UInt32
  arrival : Nat

def rtpClockRate : Nat := 48000

def recentSequenceWindow : Nat := 4096

structure RtpTracker where
  baseArrival : Option Nat := none
  maxSequence : Option UInt16 := none
  maxExtendedSequence : Nat := 0
  seen : Finset Nat := ∅
  received : Nat := 0
  lost : Nat := 0
  outOfOrder : Nat := 0
  duplicates : Nat := 0
  jitterTimestampUnits : ℚ := 0
  previousTransit : Option ℚ := none

/-- The difference of two sequence numbers, as a signed number. -/
def sequenceDelta (sequence maxSequence : UInt16) : Int :=
  (sequence - maxSequence).toInt16.toInt

namespace RtpTracker

def extend (tracker : RtpTracker) (sequence : UInt16) : Option (Nat × RtpTracker) :=
  match tracker.maxSequence with
  | none => some (sequence.toNat,
      { tracker with maxSequence := some sequence, maxExtendedSequence := sequence.toNat })
  | some maxSequence =>
      let delta := sequenceDelta sequence maxSequence
      if 0 < delta then
        let extended := tracker.maxExtendedSequence + delta.toNat
        some (extended,
          { tracker with
            lost := tracker.lost + (delta.toNat - 1)
            maxSequence := some sequence
            maxExtendedSequence := extended })
      else
        let extended := tracker.maxExtendedSequence - (-delta).toNat
        if extended ∈ tracker.seen then none
        else some (extended,
          { tracker with outOfOrder := tracker.outOfOrder + 1, lost := tracker.lost - 1 })

def updateJitter (tracker : RtpTracker) (timestamp : UInt32) (arrival : Nat) : RtpTracker :=
  let base := tracker.baseArrival.getD arrival
  let arrivalTimestampUnits : ℚ := ((arrival - base : Nat) : ℚ) / 1000000000 * rtpClockRate
  let transit := arrivalTimestampUnits - timestamp.toNat
  let jitter := match tracker.previousTransit with
    | none => tracker.jitterTimestampUnits
    | some previous => tracker.jitterTimestampUnits +
        (|transit - previous| - tracker.jitterTimestampUnits) / 16
  { tracker with
    baseArrival := some base
    jitterTimestampUnits := jitter
    previousTransit := some transit }

def observe (tracker : RtpTracker) (packet : RtpPacket) : Bool × RtpTracker :=
  match tracker.extend packet.sequence with
  | none => (false, { tracker with duplicates := tracker.duplicates + 1 })
  | some (extended, placed) =>
      if extended ∈ placed.seen then
        (false, { placed with duplicates := placed.duplicates + 1 })
      else
        let counted := { placed with
          seen := insert extended placed.seen
          received := placed.received + 1 }
        let timed := counted.updateJitter packet.timestamp packet.arrival
        (true, { timed with
          seen := timed.seen.filter (timed.maxExtendedSequence - recentSequenceWindow ≤ ·) })

def jitterMs (tracker : RtpTracker) : ℚ := tracker.jitterTimestampUnits * 1000 / rtpClockRate

def after (tracker : RtpTracker) (packets : List RtpPacket) : RtpTracker :=
  packets.foldl (fun tracker packet => (tracker.observe packet).2) tracker

def accepted (tracker : RtpTracker) : List RtpPacket → List RtpPacket
  | [] => []
  | packet :: rest =>
      if (tracker.observe packet).1 then packet :: (tracker.observe packet).2.accepted rest
      else (tracker.observe packet).2.accepted rest

end RtpTracker

def RtpPacket.shifted (packet : RtpPacket) (offset : UInt32) : RtpPacket :=
  { packet with timestamp := packet.timestamp + offset }

/-- Counting from elsewhere takes the timestamp past the end of its 32 bits. -/
def RtpPacket.Carries (packet : RtpPacket) (offset : UInt32) : Prop :=
  4294967296 ≤ packet.timestamp.toNat + offset.toNat

def unitsSince (base : Nat) (packet : RtpPacket) : ℚ :=
  ((packet.arrival - base : Nat) : ℚ) / 1000000000 * rtpClockRate

/-- The two timestamps carry both or neither, or the arrivals lie half way between the two
differences. -/
def CarriesAlike (offset : UInt32) (base : Nat) (packet next : RtpPacket) : Prop :=
  (packet.Carries offset ↔ next.Carries offset) ∨
    2 * (unitsSince base next - unitsSince base packet) =
      ((next.timestamp.toNat : ℚ) - packet.timestamp.toNat) +
        (((next.shifted offset).timestamp.toNat : ℚ) - (packet.shifted offset).timestamp.toNat)

section Shift

variable {offset : UInt32} {base : Nat}

theorem shifted_toNat (packet : RtpPacket) :
    ((packet.shifted offset).timestamp.toNat : ℤ) = packet.timestamp.toNat + offset.toNat -
      if 4294967296 ≤ packet.timestamp.toNat + offset.toNat then 4294967296 else 0 := by
  have sum : (packet.shifted offset).timestamp.toNat =
      (packet.timestamp.toNat + offset.toNat) % 4294967296 := UInt32.toNat_add _ _
  have small := packet.timestamp.toNat_lt
  have few := offset.toNat_lt
  split <;> omega

theorem shifted_difference (packet next : RtpPacket) :
    ((next.timestamp.toNat : ℚ) - packet.timestamp.toNat =
      ((next.shifted offset).timestamp.toNat : ℚ) - (packet.shifted offset).timestamp.toNat) ↔
      (packet.Carries offset ↔ next.Carries offset) := by
  have first := @shifted_toNat offset packet
  have second := @shifted_toNat offset next
  unfold RtpPacket.Carries
  have whole : ((next.timestamp.toNat : ℚ) - packet.timestamp.toNat =
      ((next.shifted offset).timestamp.toNat : ℚ) - (packet.shifted offset).timestamp.toNat) ↔
      (next.timestamp.toNat : ℤ) - packet.timestamp.toNat =
        (next.shifted offset).timestamp.toNat - (packet.shifted offset).timestamp.toNat := by
    constructor
    · intro same
      exact_mod_cast same
    · intro same
      exact_mod_cast same
  rw [whole, first, second]
  split <;> split <;> constructor <;> intro <;> omega

theorem same_deviation (packet next : RtpPacket) :
    |(unitsSince base next - next.timestamp.toNat) -
        (unitsSince base packet - packet.timestamp.toNat)| =
      |(unitsSince base next - (next.shifted offset).timestamp.toNat) -
        (unitsSince base packet - (packet.shifted offset).timestamp.toNat)| ↔
      CarriesAlike offset base packet next := by
  unfold CarriesAlike
  rw [← shifted_difference, abs_eq_abs]
  constructor
  · rintro (same | opposite)
    · exact Or.inl (by linarith)
    · exact Or.inr (by linarith)
  · rintro (same | opposite)
    · exact Or.inl (by linarith)
    · exact Or.inr (by linarith)

structure Alike (offset : UInt32) (base : Nat) (last : RtpPacket) (tracker other : RtpTracker) :
    Prop where
  same : other = { tracker with previousTransit := other.previousTransit }
  based : tracker.baseArrival = some base
  transit : tracker.previousTransit = some (unitsSince base last - last.timestamp.toNat)
  transits : other.previousTransit =
    some (unitsSince base last - (last.shifted offset).timestamp.toNat)

variable {last : RtpPacket} {tracker other : RtpTracker}

theorem extend_previousTransit (tracker : RtpTracker) (transit : Option ℚ) (sequence : UInt16) :
    { tracker with previousTransit := transit }.extend sequence =
      (tracker.extend sequence).map fun placed =>
        (placed.1, { placed.2 with previousTransit := transit }) := by
  unfold RtpTracker.extend
  cases tracker.maxSequence with
  | none => rfl
  | some maxSequence =>
      dsimp only
      split
      · rfl
      · split <;> rfl

theorem extend_keeps {tracker placed : RtpTracker} {sequence : UInt16} {extended : Nat}
    (extends' : tracker.extend sequence = some (extended, placed)) :
    placed.baseArrival = tracker.baseArrival ∧ placed.previousTransit = tracker.previousTransit ∧
      placed.jitterTimestampUnits = tracker.jitterTimestampUnits := by
  unfold RtpTracker.extend at extends'
  cases largest : tracker.maxSequence with
  | none =>
      rw [largest] at extends'
      cases extends'
      exact ⟨rfl, rfl, rfl⟩
  | some maxSequence =>
      rw [largest] at extends'
      dsimp only at extends'
      split at extends'
      · cases extends'
        exact ⟨rfl, rfl, rfl⟩
      · split at extends'
        · cases extends'
        · cases extends'
          exact ⟨rfl, rfl, rfl⟩

theorem updateJitter_eq (based : tracker.baseArrival = some base)
    (transit : tracker.previousTransit = some (unitsSince base last - last.timestamp.toNat))
    (packet : RtpPacket) :
    tracker.updateJitter packet.timestamp packet.arrival =
      { tracker with
        baseArrival := some base
        jitterTimestampUnits := tracker.jitterTimestampUnits +
          (|(unitsSince base packet - packet.timestamp.toNat) -
            (unitsSince base last - last.timestamp.toNat)| - tracker.jitterTimestampUnits) / 16
        previousTransit := some (unitsSince base packet - packet.timestamp.toNat) } := by
  unfold RtpTracker.updateJitter
  rw [transit, based]
  rfl

theorem Alike.updateJitter (alike : Alike offset base last tracker other) (packet : RtpPacket) :
    ((tracker.updateJitter packet.timestamp packet.arrival).jitterTimestampUnits =
        (other.updateJitter (packet.shifted offset).timestamp
          (packet.shifted offset).arrival).jitterTimestampUnits ↔
      CarriesAlike offset base last packet) ∧
      (CarriesAlike offset base last packet →
        Alike offset base packet (tracker.updateJitter packet.timestamp packet.arrival)
          (other.updateJitter (packet.shifted offset).timestamp
            (packet.shifted offset).arrival)) := by
  obtain ⟨same, based, transit, transits⟩ := alike
  rw [transits] at same
  have timed := updateJitter_eq based transit packet
  have otherBased : other.baseArrival = some base := by
    rw [same]
    exact based
  have otherTransit : other.previousTransit =
      some (unitsSince base (last.shifted offset) - (last.shifted offset).timestamp.toNat) :=
    transits
  have shiftedTimed := updateJitter_eq otherBased otherTransit (packet.shifted offset)
  rw [timed, shiftedTimed, same, ← same_deviation]
  refine ⟨?_, fun deviations => ⟨?_, rfl, rfl, rfl⟩⟩
  · constructor
    · intro equal
      have whole := (add_left_cancel equal)
      have parts := (div_left_inj' (by norm_num : (16 : ℚ) ≠ 0)).mp whole
      exact sub_left_injective parts
    · intro deviations
      dsimp only
      rw [deviations]
      rfl
  · dsimp only
    rw [deviations]
    rfl

theorem Alike.observe (alike : Alike offset base last tracker other) (packet : RtpPacket) :
    (other.observe (packet.shifted offset)).1 = (tracker.observe packet).1 ∧
      ((tracker.observe packet).1 = false → Alike offset base last (tracker.observe packet).2
        (other.observe (packet.shifted offset)).2) ∧
      ((tracker.observe packet).1 = true →
        ((tracker.observe packet).2.jitterTimestampUnits =
            (other.observe (packet.shifted offset)).2.jitterTimestampUnits ↔
          CarriesAlike offset base last packet) ∧
        (CarriesAlike offset base last packet →
          Alike offset base packet (tracker.observe packet).2
            (other.observe (packet.shifted offset)).2)) := by
  obtain ⟨same, based, transit, transits⟩ := alike
  rw [transits] at same
  subst same
  have sequence : (packet.shifted offset).sequence = packet.sequence := rfl
  unfold RtpTracker.observe
  rw [sequence, extend_previousTransit]
  cases placing : tracker.extend packet.sequence with
  | none =>
      refine ⟨rfl, fun _ => ⟨rfl, based, transit, rfl⟩, fun accepted => ?_⟩
      cases accepted
  | some placed =>
      obtain ⟨extended, placed⟩ := placed
      obtain ⟨kept, before, _⟩ := extend_keeps placing
      rw [based] at kept
      rw [transit] at before
      dsimp only [Option.map_some]
      by_cases repeated : extended ∈ placed.seen
      · rw [if_pos repeated, if_pos repeated]
        refine ⟨rfl, fun _ => ⟨rfl, kept, before, rfl⟩, fun accepted => ?_⟩
        cases accepted
      · rw [if_neg repeated, if_neg repeated]
        refine ⟨rfl, fun rejected => ?_, fun _ => ?_⟩
        · cases rejected
        · have counted : Alike offset base last
              { placed with
                seen := insert extended placed.seen
                received := placed.received + 1 }
              { placed with
                previousTransit := some (unitsSince base last -
                  (last.shifted offset).timestamp.toNat)
                seen := insert extended placed.seen
                received := placed.received + 1 } := ⟨rfl, kept, before, rfl⟩
          obtain ⟨estimates, alike⟩ := counted.updateJitter packet
          refine ⟨estimates, fun carries => ?_⟩
          obtain ⟨same, based, transit, transits⟩ := alike carries
          exact ⟨by rw [same], based, transit, transits⟩

end Shift

def SameJitter (offset : UInt32) (tracker other : RtpTracker) (packets : List RtpPacket) : Prop :=
  ∀ before, before <+: packets →
    (tracker.after before).jitterMs =
      (other.after (before.map fun packet => packet.shifted offset)).jitterMs

theorem jitterMs_inj {tracker other : RtpTracker} :
    tracker.jitterMs = other.jitterMs ↔
      tracker.jitterTimestampUnits = other.jitterTimestampUnits := by
  unfold RtpTracker.jitterMs rtpClockRate
  constructor
  · intro same
    linarith
  · intro same
    rw [same]

theorem sameJitter_cons {offset : UInt32} {tracker other : RtpTracker} {packet : RtpPacket}
    {rest : List RtpPacket} (start : tracker.jitterMs = other.jitterMs) :
    SameJitter offset tracker other (packet :: rest) ↔
      SameJitter offset (tracker.observe packet).2 (other.observe (packet.shifted offset)).2
        rest := by
  constructor
  · intro same before inside
    exact same (packet :: before) (List.cons_prefix_cons.mpr ⟨rfl, inside⟩)
  · intro same before inside
    cases before with
    | nil => exact start
    | cons first others =>
        obtain ⟨rfl, within⟩ := List.cons_prefix_cons.mp inside
        exact same others within

theorem Alike.sameJitter_iff {offset : UInt32} {base : Nat} {last : RtpPacket}
    {tracker other : RtpTracker} (alike : Alike offset base last tracker other)
    (packets : List RtpPacket) :
    SameJitter offset tracker other packets ↔
      (last :: tracker.accepted packets).IsChain (CarriesAlike offset base) := by
  have start : tracker.jitterMs = other.jitterMs := by
    rw [jitterMs_inj, alike.same]
  induction packets generalizing last tracker other with
  | nil =>
      refine iff_of_true (fun before inside => ?_) (List.IsChain.singleton _)
      rw [List.prefix_nil.mp inside]
      exact start
  | cons packet rest ih =>
      obtain ⟨answers, rejected, accepted⟩ := alike.observe packet
      rw [sameJitter_cons start]
      unfold RtpTracker.accepted
      cases answer : (tracker.observe packet).1 with
      | false =>
          have next := rejected answer
          rw [if_neg Bool.false_ne_true]
          exact ih next (by rw [jitterMs_inj, next.same])
      | true =>
          obtain ⟨estimates, next⟩ := accepted answer
          rw [if_pos rfl, List.isChain_cons_cons]
          constructor
          · intro same
            have first := same [] List.nil_prefix
            have carries := estimates.mp (jitterMs_inj.mp first)
            exact ⟨carries, (ih (next carries) first).mp same⟩
          · rintro ⟨carries, others⟩
            exact (ih (next carries) (jitterMs_inj.mpr (estimates.mpr carries))).mpr others

/-- The estimate does not depend on where the timestamps start exactly when no two accepted
packets in a row are parted by the end of the 32 bits in one of the two countings only. -/
theorem jitter_origin_iff (offset : UInt32) (packets : List RtpPacket) :
    SameJitter offset {} {} packets ↔
      (RtpTracker.accepted {} packets).IsChain
        (CarriesAlike offset ((packets.head?.map RtpPacket.arrival).getD 0)) := by
  cases packets with
  | nil =>
      refine iff_of_true (fun before inside => ?_) List.IsChain.nil
      rw [List.prefix_nil.mp inside]
      rfl
  | cons packet rest =>
      have alike : Alike offset packet.arrival packet (({} : RtpTracker).observe packet).2
          (({} : RtpTracker).observe (packet.shifted offset)).2 := ⟨rfl, rfl, rfl, rfl⟩
      rw [sameJitter_cons rfl]
      exact alike.sameJitter_iff rest

/-- Two packets ten milliseconds apart, on both sides of the end of the 32 bits, with the
timestamps 4294966816 and 4294967296. -/
theorem jitter_origin_matters :
    (4294967296 - 4294966816 : ℤ) < 2147483648 ∧
      (RtpTracker.accepted {} [⟨100, .ofNat 4294966816, 0⟩,
        ⟨101, .ofNat 4294967296, 10000000⟩]).length = 2 ∧
      ¬ SameJitter 480 {} {} [⟨100, .ofNat 4294966816, 0⟩,
        ⟨101, .ofNat 4294967296, 10000000⟩] := by
  refine ⟨by decide, by decide +kernel, fun same => ?_⟩
  have estimates := same _ (List.prefix_refl _)
  revert estimates
  decide +kernel

end Noland.Microphone
