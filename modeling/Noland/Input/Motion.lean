import Mathlib.Data.Int.ModEq
import Mathlib.Logic.Function.Iterate

/-!
From `input/worker.rs`. Callers add to two atomic counters, which wrap. The worker takes the one
and then the other, and sends what it took in packets of 16 bits; additions happen in between.
-/

namespace Noland.Input

/-- A sum in an `AtomicI32`. -/
def wrapping (value : Int) : Int := value.bmod 4294967296

def clampI16 (value : Int) : Int := max (-32768) (min 32767 value)

/-- How far the worker is in `flush_motion`. -/
inductive Flush where
  | idle
  | taken (dx : Int)
  | sending (dx dy : Int)

structure Motion where
  dx : Int := 0
  dy : Int := 0
  flush : Flush := .idle
  packets : List (Int × Int) := []

inductive MotionEvent where
  | addDx (amount : Int)
  | addDy (amount : Int)
  | worker

namespace Motion

/-- The next step of `flush_motion`. -/
def work (motion : Motion) : Motion :=
  match motion.flush with
  | .idle => { motion with dx := 0, flush := .taken motion.dx }
  | .taken dx => { motion with dy := 0, flush := .sending dx motion.dy }
  | .sending dx dy =>
      if dx = 0 ∧ dy = 0 then { motion with flush := .idle }
      else
        { motion with
          flush := .sending (dx - clampI16 dx) (dy - clampI16 dy)
          packets := motion.packets ++ [(clampI16 dx, clampI16 dy)] }

def step (motion : Motion) : MotionEvent → Motion
  | .addDx amount => { motion with dx := wrapping (motion.dx + amount) }
  | .addDy amount => { motion with dy := wrapping (motion.dy + amount) }
  | .worker => motion.work

def total (motion : Motion) (axis : Int × Int → Int) : Int :=
  (motion.packets.map axis).sum + axis (match motion.flush with
    | .idle => (0, 0)
    | .taken dx => (dx, 0)
    | .sending dx dy => (dx, dy)) + axis (motion.dx, motion.dy)

def added : MotionEvent → Int × Int
  | .addDx amount => (amount, 0)
  | .addDy amount => (0, amount)
  | .worker => (0, 0)

/-- What was added is there up to a multiple of `2 ^ 32`, and packets hold 16 bits. -/
structure Conserved (motion : Motion) (dx dy : Int) : Prop where
  dx : motion.total Prod.fst ≡ dx [ZMOD 4294967296]
  dy : motion.total Prod.snd ≡ dy [ZMOD 4294967296]
  packets : ∀ packet ∈ motion.packets,
    -32768 ≤ packet.1 ∧ packet.1 < 32768 ∧ -32768 ≤ packet.2 ∧ packet.2 < 32768

variable {motion : Motion} {dx dy : Int}

theorem wrapping_modEq (value : Int) : wrapping value ≡ value [ZMOD 4294967296] :=
  Int.bmod_emod

theorem total_work (motion : Motion) :
    motion.work.total Prod.fst = motion.total Prod.fst ∧
      motion.work.total Prod.snd = motion.total Prod.snd := by
  obtain ⟨dx, dy, flush, packets⟩ := motion
  cases flush with
  | idle => simp [total, work]
  | taken left => simp [total, work]
  | sending left right =>
      by_cases sent : left = 0 ∧ right = 0 <;> simp [total, work, sent, add_assoc]

theorem conserved_work (conserved : Conserved motion dx dy) : Conserved motion.work dx dy := by
  obtain ⟨first, second, packets⟩ := conserved
  obtain ⟨same, equal⟩ := total_work motion
  refine ⟨same ▸ first, equal ▸ second, ?_⟩
  unfold work
  split
  · exact packets
  · exact packets
  · split_ifs
    · exact packets
    · intro packet member
      rcases List.mem_append.mp member with old | new
      · exact packets packet old
      · rw [List.mem_singleton.mp new]
        dsimp only [clampI16]
        omega

theorem conserved_step (conserved : Conserved motion dx dy) (event : MotionEvent) :
    Conserved (motion.step event) (dx + (added event).1) (dy + (added event).2) := by
  cases event with
  | worker =>
      rw [added, add_zero, add_zero]
      exact conserved_work conserved
  | addDx amount =>
      obtain ⟨first, second, packets⟩ := conserved
      refine ⟨((wrapping_modEq (motion.dx + amount)).add_left _).trans ?_, ?_, packets⟩
      · rw [← add_assoc]
        exact first.add_right amount
      · rw [added, add_zero]
        exact second
  | addDy amount =>
      obtain ⟨first, second, packets⟩ := conserved
      refine ⟨?_, ((wrapping_modEq (motion.dy + amount)).add_left _).trans ?_, packets⟩
      · rw [added, add_zero]
        exact first
      · rw [← add_assoc]
        exact second.add_right amount

theorem conserved_foldl (conserved : Conserved motion dx dy) (events : List MotionEvent) :
    Conserved (events.foldl step motion) (dx + (events.map fun event => (added event).1).sum)
      (dy + (events.map fun event => (added event).2).sum) := by
  induction events generalizing motion dx dy with
  | nil => simpa using conserved
  | cons event rest ih => simpa [add_assoc] using ih (conserved_step conserved event)

theorem sending_ends (bound : Nat) {left right : Int} (small : left.natAbs + right.natAbs ≤ bound)
    (sending : motion.flush = .sending left right) :
    ∃ count, (work^[count] motion).flush = .idle ∧ (work^[count] motion).dx = motion.dx ∧
      (work^[count] motion).dy = motion.dy := by
  induction bound generalizing motion left right with
  | zero => exact ⟨1, by simp [work, sending, show left = 0 ∧ right = 0 by omega]⟩
  | succ bound ih =>
      by_cases sent : left = 0 ∧ right = 0
      · exact ⟨1, by simp [work, sending, sent]⟩
      · have fewer : (left - clampI16 left).natAbs + (right - clampI16 right).natAbs ≤ bound := by
          unfold clampI16
          omega
        obtain ⟨count, ends⟩ := @ih motion.work _ _ fewer (by simp [work, sending, sent])
        exact ⟨count + 1, by simpa [work, sending, sent] using ends⟩

theorem conserved_iterate (conserved : Conserved motion dx dy) (count : Nat) :
    Conserved (work^[count] motion) dx dy :=
  Function.Iterate.rec (Conserved · dx dy) conserved (fun _ => conserved_work) count

theorem flush_ends (idle : motion.flush = .idle) :
    ∃ count, (work^[count] motion).flush = .idle ∧ (work^[count] motion).dx = 0 ∧
      (work^[count] motion).dy = 0 := by
  have sending : (motion.work.work).flush = .sending motion.dx motion.dy := by
    simp [work, idle]
  obtain ⟨count, ends, dx, dy⟩ := sending_ends _ (Nat.le_refl _) sending
  refine ⟨count + 2, ends, dx.trans ?_, dy.trans ?_⟩ <;> simp [work, idle]

/-- Once the callers stop, the worker sends all that was added and not yet sent, whatever it was
in the middle of. -/
theorem motion_delivered (events : List MotionEvent) :
    ∃ count, let motion := work^[count] (events.foldl step {})
      motion.flush = .idle ∧ motion.dx = 0 ∧ motion.dy = 0 ∧
        Conserved motion (events.map fun event => (added event).1).sum
          (events.map fun event => (added event).2).sum := by
  have start : Conserved {} 0 0 := ⟨rfl, rfl, fun _ member => absurd member List.not_mem_nil⟩
  have conserved := conserved_foldl start events
  rw [zero_add, zero_add] at conserved
  have rests : ∃ count, (work^[count] (events.foldl step {})).flush = .idle := by
    cases flush : (events.foldl step {}).flush with
    | idle => exact ⟨0, flush⟩
    | taken dx =>
        obtain ⟨count, ends, _⟩ := @sending_ends (events.foldl step {}).work _ _ _
          (Nat.le_refl _) (by simp only [work, flush]; rfl)
        exact ⟨count + 1, ends⟩
    | sending dx dy =>
        obtain ⟨count, ends, _⟩ := sending_ends _ (Nat.le_refl _) flush
        exact ⟨count, ends⟩
  obtain ⟨first, idle⟩ := rests
  obtain ⟨second, ends, dx, dy⟩ := flush_ends idle
  rw [← Function.iterate_add_apply] at ends dx dy
  exact ⟨second + first, ends, dx, dy, conserved_iterate conserved _⟩

end Motion

end Noland.Input
