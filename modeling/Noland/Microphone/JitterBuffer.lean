import Mathlib.Algebra.Order.Field.Rat
import Mathlib.Tactic.SplitIfs

/-!
The controller raises the latency of the jitter buffer when packets come late or the jitter
is large, and lowers it after a stretch of calm observations.
-/

namespace Noland.Microphone

def absoluteMinimumJitterMs : Nat := 10

def absoluteMaximumJitterMs : Nat := 60

def jitterIncreaseStepMs : Nat := 4

def jitterDecreaseStepMs : Nat := 1

def increaseCooldownSamples : Nat := 4

def stableSamplesBeforeDecrease : Nat := 20

def clampMs (value low high : Nat) : Nat := max low (min value high)

/-- The counters are totals, and fall when the receiver counts anew. -/
structure Observation where
  jitterMs : ℚ
  latePackets : Nat
  receivedPackets : Nat

structure AdaptiveJitterBufferController where
  minimumMs : Nat
  maximumMs : Nat
  currentMs : Nat
  stableSamples : Nat
  increaseCooldown : Nat
  previousLatePackets : Nat
  previousReceivedPackets : Nat

namespace AdaptiveJitterBufferController

def new (minimumMs initialMs maximumMs : Nat) : AdaptiveJitterBufferController :=
  let minimum := clampMs minimumMs absoluteMinimumJitterMs absoluteMaximumJitterMs
  let maximum := clampMs maximumMs absoluteMinimumJitterMs absoluteMaximumJitterMs
  let fallback := clampMs initialMs absoluteMinimumJitterMs absoluteMaximumJitterMs
  let bounds := if minimum ≤ maximum then (minimum, maximum) else (fallback, fallback)
  { minimumMs := bounds.1
    maximumMs := bounds.2
    currentMs := clampMs initialMs bounds.1 bounds.2
    stableSamples := 0
    increaseCooldown := 0
    previousLatePackets := 0
    previousReceivedPackets := 0 }

def observe (controller : AdaptiveJitterBufferController) (observation : Observation) :
    AdaptiveJitterBufferController :=
  let lateDelta := observation.latePackets - controller.previousLatePackets
  let receiving := controller.previousReceivedPackets < observation.receivedPackets
  let seen := { controller with
    previousLatePackets := observation.latePackets
    previousReceivedPackets := observation.receivedPackets
    increaseCooldown := controller.increaseCooldown - 1 }
  if 0 < lateDelta ∨ (receiving ∧ (seen.currentMs : ℚ) * (1 / 2) ≤ observation.jitterMs) then
    if seen.increaseCooldown = 0 then
      { seen with
        stableSamples := 0
        currentMs := min (seen.currentMs + jitterIncreaseStepMs) seen.maximumMs
        increaseCooldown := increaseCooldownSamples }
    else { seen with stableSamples := 0 }
  else if receiving then
    if stableSamplesBeforeDecrease ≤ seen.stableSamples + 1 then
      { seen with
        currentMs := max (seen.currentMs - jitterDecreaseStepMs) seen.minimumMs
        stableSamples := 0 }
    else { seen with stableSamples := seen.stableSamples + 1 }
  else { seen with stableSamples := 0 }

def after (controller : AdaptiveJitterBufferController) (observations : Nat → Observation) :
    Nat → AdaptiveJitterBufferController
  | 0 => controller
  | count + 1 => (controller.after observations count).observe (observations count)

end AdaptiveJitterBufferController

def previous (observations : Nat → Observation) : Nat → Observation
  | 0 => ⟨0, 0, 0⟩
  | index + 1 => observations index

def Calm (observations : Nat → Observation) (latencyMs index : Nat) : Prop :=
  (previous observations index).receivedPackets < (observations index).receivedPackets ∧
    (observations index).latePackets ≤ (previous observations index).latePackets ∧
    (observations index).jitterMs < (latencyMs : ℚ) * (1 / 2)

structure AdaptiveJitterBufferController.Bounded (controller : AdaptiveJitterBufferController) :
    Prop where
  absolute : absoluteMinimumJitterMs ≤ controller.minimumMs
  least : controller.minimumMs ≤ controller.currentMs
  most : controller.currentMs ≤ controller.maximumMs
  limit : controller.maximumMs ≤ absoluteMaximumJitterMs

theorem bounded_new (minimumMs initialMs maximumMs : Nat) :
    (AdaptiveJitterBufferController.new minimumMs initialMs maximumMs).Bounded := by
  have ordered : absoluteMinimumJitterMs ≤ absoluteMaximumJitterMs := by decide
  unfold AdaptiveJitterBufferController.new clampMs
  constructor
  · dsimp only
    split <;> omega
  · exact le_max_left _ _
  · dsimp only
    split <;> omega
  · dsimp only
    split <;> omega

inductive Adapts (calm : Prop) (before later : AdaptiveJitterBufferController) : Prop where
  | raised (raised : later.currentMs = min (before.currentMs + jitterIncreaseStepMs)
      before.maximumMs) (cooled : before.increaseCooldown ≤ 1)
      (cooling : later.increaseCooldown = increaseCooldownSamples)
      (restarted : later.stableSamples = 0)
  | lowered (lowered : later.currentMs = max (before.currentMs - jitterDecreaseStepMs)
      before.minimumMs) (calm : calm)
      (enough : stableSamplesBeforeDecrease ≤ before.stableSamples + 1)
      (cooling : later.increaseCooldown = before.increaseCooldown - 1)
      (restarted : later.stableSamples = 0)
  | counted (kept : later.currentMs = before.currentMs) (calm : calm)
      (cooling : later.increaseCooldown = before.increaseCooldown - 1)
      (counted : later.stableSamples = before.stableSamples + 1)
  | disturbed (kept : later.currentMs = before.currentMs)
      (cooling : later.increaseCooldown = before.increaseCooldown - 1)
      (restarted : later.stableSamples = 0)

theorem observe_adapts (controller : AdaptiveJitterBufferController) (observation : Observation) :
    Adapts (controller.previousReceivedPackets < observation.receivedPackets ∧
        observation.latePackets ≤ controller.previousLatePackets ∧
        observation.jitterMs < (controller.currentMs : ℚ) * (1 / 2))
      controller (controller.observe observation) := by
  unfold AdaptiveJitterBufferController.observe
  dsimp only
  split_ifs with troubled cooled receiving enough
  · exact .raised rfl (by omega) rfl rfl
  · exact .disturbed rfl rfl rfl
  · rw [not_or, not_and, Nat.not_lt, Nat.le_zero, not_le] at troubled
    exact .lowered rfl ⟨receiving, Nat.sub_eq_zero_iff_le.mp troubled.1, troubled.2 receiving⟩
      enough rfl rfl
  · rw [not_or, not_and, Nat.not_lt, Nat.le_zero, not_le] at troubled
    exact .counted rfl ⟨receiving, Nat.sub_eq_zero_iff_le.mp troubled.1, troubled.2 receiving⟩
      rfl rfl
  · exact .disturbed rfl rfl rfl

@[simp] theorem observe_minimumMs (controller : AdaptiveJitterBufferController)
    (observation : Observation) :
    (controller.observe observation).minimumMs = controller.minimumMs := by
  unfold AdaptiveJitterBufferController.observe
  dsimp only
  split_ifs <;> rfl

@[simp] theorem observe_maximumMs (controller : AdaptiveJitterBufferController)
    (observation : Observation) :
    (controller.observe observation).maximumMs = controller.maximumMs := by
  unfold AdaptiveJitterBufferController.observe
  dsimp only
  split_ifs <;> rfl

theorem observe_previous (controller : AdaptiveJitterBufferController)
    (observation : Observation) :
    (controller.observe observation).previousLatePackets = observation.latePackets ∧
      (controller.observe observation).previousReceivedPackets =
        observation.receivedPackets := by
  unfold AdaptiveJitterBufferController.observe
  dsimp only
  split_ifs <;> exact ⟨rfl, rfl⟩

theorem Adapts.bounded {calm : Prop} {before later : AdaptiveJitterBufferController}
    (adapts : Adapts calm before later) (minimum : later.minimumMs = before.minimumMs)
    (maximum : later.maximumMs = before.maximumMs) (bounded : before.Bounded) :
    later.Bounded := by
  obtain ⟨absolute, least, most, limit⟩ := bounded
  constructor
  · omega
  · cases adapts <;> omega
  · cases adapts <;> omega
  · omega

def latencyMs (start : AdaptiveJitterBufferController) (observations : Nat → Observation)
    (count : Nat) : Nat :=
  (start.after observations count).currentMs

structure Remembers (start : AdaptiveJitterBufferController) (observations : Nat → Observation)
    (controller : AdaptiveJitterBufferController) (count : Nat) : Prop where
  bounded : controller.Bounded
  minimum : controller.minimumMs = start.minimumMs
  maximum : controller.maximumMs = start.maximumMs
  late : controller.previousLatePackets = (previous observations count).latePackets
  received : controller.previousReceivedPackets = (previous observations count).receivedPackets
  cooldown : ∀ index < count,
    latencyMs start observations index < latencyMs start observations (index + 1) →
      increaseCooldownSamples ≤ controller.increaseCooldown + (count - 1 - index)
  stretch : controller.stableSamples ≤ count
  calm : ∀ index < count, count - controller.stableSamples ≤ index →
    Calm observations (latencyMs start observations index) index ∧
      latencyMs start observations (index + 1) = latencyMs start observations index

section Runs

variable {start : AdaptiveJitterBufferController} {observations : Nat → Observation} {count : Nat}

theorem Remembers.adapts
    (remembers : Remembers start observations (start.after observations count) count) :
    Adapts (Calm observations (latencyMs start observations count) count)
      (start.after observations count) (start.after observations (count + 1)) := by
  have adapts := observe_adapts (start.after observations count) (observations count)
  rw [remembers.late, remembers.received] at adapts
  exact adapts

theorem Remembers.cools {later : AdaptiveJitterBufferController}
    (remembers : Remembers start observations (start.after observations count) count)
    (cooling : later.increaseCooldown = (start.after observations count).increaseCooldown - 1)
    (kept : latencyMs start observations (count + 1) ≤ latencyMs start observations count)
    {index : Nat} (inside : index < count + 1)
    (raised : latencyMs start observations index < latencyMs start observations (index + 1)) :
    increaseCooldownSamples ≤ later.increaseCooldown + (count + 1 - 1 - index) := by
  have older : index ≠ count := by
    rintro rfl
    omega
  have counted := remembers.cooldown index (by omega) raised
  omega

theorem Remembers.next
    (remembers : Remembers start observations (start.after observations count) count) :
    Remembers start observations (start.after observations (count + 1)) (count + 1) := by
  have adapts := remembers.adapts
  have fewer := remembers.stretch
  have least := remembers.bounded.least
  have seen := observe_previous (start.after observations count) (observations count)
  have minimum := observe_minimumMs (start.after observations count) (observations count)
  have maximum := observe_maximumMs (start.after observations count) (observations count)
  constructor
  · exact adapts.bounded minimum maximum remembers.bounded
  · exact minimum.trans remembers.minimum
  · exact maximum.trans remembers.maximum
  · exact seen.1
  · exact seen.2
  · intro index inside raised
    cases adapts with
    | raised _ _ cooling _ => omega
    | lowered lowers _ _ cooling _ =>
        exact remembers.cools cooling (by unfold latencyMs; omega) inside raised
    | counted kept _ cooling _ => exact remembers.cools cooling kept.le inside raised
    | disturbed kept cooling _ => exact remembers.cools cooling kept.le inside raised
  · cases adapts <;> omega
  · intro index inside recent
    have earlier := remembers.calm index
    cases adapts with
    | raised _ _ _ restarted => omega
    | lowered _ _ _ _ restarted => omega
    | counted kept calm _ counted =>
        rcases Nat.lt_succ_iff_lt_or_eq.mp inside with before | rfl
        · exact earlier before (by omega)
        · exact ⟨calm, kept⟩
    | disturbed _ _ restarted => omega

end Runs

theorem remembers_after (minimumMs initialMs maximumMs : Nat) (observations : Nat → Observation)
    (count : Nat) :
    Remembers (.new minimumMs initialMs maximumMs) observations
      ((AdaptiveJitterBufferController.new minimumMs initialMs maximumMs).after observations
        count) count := by
  induction count with
  | zero => exact ⟨bounded_new _ _ _, rfl, rfl, rfl, rfl, nofun, Nat.le_refl 0, nofun⟩
  | succ count ih => exact ih.next

/-- The latency stays within its bounds; it rises by at most four milliseconds, and not again
for four observations; and it falls by one after twenty calm observations that left it as it
was. -/
theorem jitter_buffer_damped (minimumMs initialMs maximumMs : Nat)
    (observations : Nat → Observation) :
    let bounds := AdaptiveJitterBufferController.new minimumMs initialMs maximumMs
    let latency := latencyMs bounds observations
    (10 ≤ bounds.minimumMs ∧ bounds.minimumMs ≤ bounds.maximumMs ∧ bounds.maximumMs ≤ 60) ∧
      (∀ count, bounds.minimumMs ≤ latency count ∧ latency count ≤ bounds.maximumMs) ∧
      (∀ index, latency index < latency (index + 1) →
        latency (index + 1) ≤ latency index + 4) ∧
      (∀ first second, first < second → latency first < latency (first + 1) →
        latency second < latency (second + 1) → first + increaseCooldownSamples ≤ second) ∧
      ∀ index, latency (index + 1) < latency index →
        latency (index + 1) + 1 = latency index ∧
          ∃ start, start + 20 = index + 1 ∧ ∀ earlier, start ≤ earlier → earlier ≤ index →
            Calm observations (latency earlier) earlier ∧
              (earlier < index → latency (earlier + 1) = latency earlier) := by
  intro bounds latency
  have remembers : ∀ count,
      Remembers bounds observations (bounds.after observations count) count :=
    remembers_after minimumMs initialMs maximumMs observations
  have step : ∀ count, latency count = (bounds.after observations count).currentMs := fun _ => rfl
  have four : jitterIncreaseStepMs = 4 := rfl
  have one : jitterDecreaseStepMs = 1 := rfl
  have cooling : increaseCooldownSamples = 4 := rfl
  have twenty : stableSamplesBeforeDecrease = 20 := rfl
  refine ⟨?_, ?_, ?_, ?_, ?_⟩
  · obtain ⟨absolute, least, most, limit⟩ := bounded_new minimumMs initialMs maximumMs
    exact ⟨absolute, least.trans most, limit⟩
  · intro count
    have bounded := (remembers count).bounded
    exact ⟨(remembers count).minimum ▸ bounded.least, (remembers count).maximum ▸ bounded.most⟩
  · intro index raised
    rw [step, step] at raised ⊢
    have least := (remembers index).bounded.least
    cases (remembers index).adapts <;> omega
  · intro first second before raised again
    have cooled := (remembers second).cooldown first before raised
    have least := (remembers second).bounded.least
    rw [step, step] at again
    cases (remembers second).adapts <;> omega
  · intro index falls
    have lowered := falls
    rw [step, step] at falls
    have bounded := (remembers index).bounded
    have fewer := (remembers index).stretch
    cases (remembers index).adapts with
    | raised raised _ _ _ =>
        have most := bounded.most
        omega
    | lowered lowers calm enough _ _ =>
        refine ⟨?_, index + 1 - 20, ?_, ?_⟩
        · rw [step, step]
          omega
        · omega
        · intro earlier recent inside
          rcases Nat.lt_or_eq_of_le inside with before | rfl
          · obtain ⟨quiet, kept⟩ := (remembers index).calm earlier before (by omega)
            exact ⟨quiet, fun _ => kept⟩
          · exact ⟨calm, fun same => absurd same (Nat.lt_irrefl _)⟩
    | counted kept _ _ _ => omega
    | disturbed kept _ _ => omega

end Noland.Microphone
