import Mathlib.Algebra.Order.Field.Rat
import Mathlib.Tactic.Linarith
import Mathlib.Tactic.Ring
import Mathlib.Tactic.FieldSimp
import Mathlib.Tactic.NormNum
import Mathlib.Algebra.Order.AbsoluteValue.Basic
import Mathlib.Algebra.Order.Group.MinMax

/-!
The advantage of the relay in latency and in stability is a number between -1 and 1, and the two
are blended with weights in proportion to their size. The blend is not monotone: a small advantage
beside a larger one of the same sign pulls the blend below the larger one. Floating-point numbers
are modelled by rationals. The random identifier of an evaluation is left out.
-/

namespace Noland.Network

inductive TransportKind where
  | direct
  | cloudflareTurn
  deriving DecidableEq

inductive EvaluationReason where
  | relayLowerLatency
  | relayMoreStable
  | relayWinsBoth
  | directLowerLatency
  | directMoreStable
  | directWinsBoth
  | pathsEquivalent
  | directUnavailable
  | relayUnavailable
  | insufficientSamples
  deriving DecidableEq

structure PathMetrics where
  sampleCount : Nat
  receivedCount : Nat
  sampleAgeMs : Nat
  medianRttMs : Option ℚ
  jitterMs : ℚ
  lossPercent : ℚ
  spikePercent : ℚ
  reorderingPercent : Option ℚ
  deriving DecidableEq

structure PathEvaluation where
  metrics : PathMetrics
  stabilityPenalty : ℚ
  confidence : ℚ
  scoreable : Bool
  deriving DecidableEq

structure EvaluationComparison where
  latencyAdvantage : ℚ := 0
  stabilityAdvantage : ℚ := 0
  latencyWeight : ℚ := 0
  stabilityWeight : ℚ := 0
  confidence : ℚ := 0
  turnAdvantage : ℚ := 0
  deriving DecidableEq

structure ConnectionEvaluation where
  policyVersion : String
  evaluatedAt : String
  selected : Option TransportKind
  reason : EvaluationReason
  direct : PathEvaluation
  cloudflareTurn : PathEvaluation
  comparison : EvaluationComparison
  deriving DecidableEq

def gamingPolicyVersion : String := "gaming-v1"

/-- `EvaluationPolicy` with its default values. -/
structure EvaluationPolicy where
  minimumSamples : Nat := 45
  targetSamples : Nat := 60
  maximumSampleAgeMs : Nat := 3000
  latencyDeadbandMs : ℚ := 3
  latencyDeadbandRatio : ℚ := 5 / 100
  stabilityDeadband : ℚ := 5 / 100
  provisioningTurnThreshold : ℚ := 8 / 100
  runtimeTurnThreshold : ℚ := 12 / 100
  runtimeDirectThreshold : ℚ := -12 / 100

inductive EvaluationMode where
  | provisioning
  | runtime (current : TransportKind)
  deriving DecidableEq

def clamp (value low high : ℚ) : ℚ := max low (min value high)

def stabilityPenalty (metrics : PathMetrics) : ℚ :=
  let loss := clamp (metrics.lossPercent / 3) 0 1
  let jitter := clamp (metrics.jitterMs / 20) 0 1
  let spikes := clamp (metrics.spikePercent / 10) 0 1
  match metrics.reorderingPercent with
  | some reordering =>
      40 / 100 * loss + 35 / 100 * jitter + 20 / 100 * spikes +
        5 / 100 * clamp (reordering / 2) 0 1
  | none => 4211 / 10000 * loss + 3684 / 10000 * jitter + 2105 / 10000 * spikes

def receivedSamples (metrics : PathMetrics) : Nat :=
  if metrics.receivedCount = 0 ∧ 0 < metrics.sampleCount then metrics.sampleCount
  else metrics.receivedCount

def sampleConfidence (metrics : PathMetrics) (policy : EvaluationPolicy) : ℚ :=
  clamp (receivedSamples metrics / max policy.targetSamples 1) 0 1

def freshnessConfidence (metrics : PathMetrics) (policy : EvaluationPolicy) : ℚ :=
  if policy.maximumSampleAgeMs ≤ metrics.sampleAgeMs then 0
  else 1 - metrics.sampleAgeMs / max policy.maximumSampleAgeMs 1

def evaluatePath (metrics : PathMetrics) (policy : EvaluationPolicy) : PathEvaluation where
  metrics := metrics
  stabilityPenalty := stabilityPenalty metrics
  confidence := min (sampleConfidence metrics policy) (freshnessConfidence metrics policy)
  scoreable := decide (policy.minimumSamples ≤ receivedSamples metrics) &&
    decide (metrics.sampleAgeMs ≤ policy.maximumSampleAgeMs) && metrics.medianRttMs.isSome

/-- By how much the relay is ahead in a quantity of which less is better; nothing
inside the dead band. -/
def advantage (deadband : ℚ → ℚ) (floor direct relay : ℚ) : ℚ :=
  if |direct - relay| ≤ deadband (min direct relay) then 0
  else clamp ((direct - relay) / max (max direct relay) floor) (-1) 1

def latencyAdvantage (policy : EvaluationPolicy) (direct relay : PathEvaluation) : ℚ :=
  advantage (fun least => max policy.latencyDeadbandMs (least * policy.latencyDeadbandRatio)) 30
    (direct.metrics.medianRttMs.getD 0) (relay.metrics.medianRttMs.getD 0)

def stabilityAdvantage (policy : EvaluationPolicy) (direct relay : PathEvaluation) : ℚ :=
  advantage (fun _ => policy.stabilityDeadband) (15 / 100) direct.stabilityPenalty
    relay.stabilityPenalty

def weight (own other : ℚ) : ℚ :=
  if |own| + |other| = 0 then 0 else |own| / (|own| + |other|)

def blend (latency stability : ℚ) : ℚ :=
  weight latency stability * latency + weight stability latency * stability

def comparisonOf (policy : EvaluationPolicy) (direct relay : PathEvaluation) :
    EvaluationComparison :=
  let latency := latencyAdvantage policy direct relay
  let stability := stabilityAdvantage policy direct relay
  let confidence := min direct.confidence relay.confidence
  { latencyAdvantage := latency
    stabilityAdvantage := stability
    latencyWeight := weight latency stability
    stabilityWeight := weight stability latency
    confidence := confidence
    turnAdvantage := blend latency stability * confidence }

def winningReason (latencyAdvantage stabilityAdvantage : ℚ) (relayWins : Bool) :
    EvaluationReason :=
  let latencyWins : Bool := if relayWins then 0 < latencyAdvantage else latencyAdvantage < 0
  let stabilityWins : Bool := if relayWins then 0 < stabilityAdvantage else stabilityAdvantage < 0
  match relayWins, latencyWins, stabilityWins with
  | true, true, true => .relayWinsBoth
  | true, true, false => .relayLowerLatency
  | true, false, true => .relayMoreStable
  | false, true, true => .directWinsBoth
  | false, true, false => .directLowerLatency
  | false, false, true => .directMoreStable
  | _, _, _ => .pathsEquivalent

def selectPath (policy : EvaluationPolicy) (mode : EvaluationMode)
    (comparison : EvaluationComparison) : TransportKind × EvaluationReason :=
  let reason := winningReason comparison.latencyAdvantage comparison.stabilityAdvantage
  match mode with
  | .provisioning =>
      if policy.provisioningTurnThreshold ≤ comparison.turnAdvantage then
        (.cloudflareTurn, reason true)
      else
        (.direct, if comparison.turnAdvantage = 0 then .pathsEquivalent else reason false)
  | .runtime .direct =>
      if policy.runtimeTurnThreshold ≤ comparison.turnAdvantage then
        (.cloudflareTurn, reason true)
      else (.direct, .pathsEquivalent)
  | .runtime .cloudflareTurn =>
      if comparison.turnAdvantage ≤ policy.runtimeDirectThreshold then (.direct, reason false)
      else (.cloudflareTurn, .pathsEquivalent)

def compare (policy : EvaluationPolicy) (mode : EvaluationMode) (direct relay : PathEvaluation) :
    Option TransportKind × EvaluationReason × EvaluationComparison :=
  let comparison := comparisonOf policy direct relay
  let decision := selectPath policy mode comparison
  (some decision.1, decision.2, comparison)

def fallback : EvaluationMode → TransportKind
  | .provisioning => .direct
  | .runtime current => current

def evaluatePaths (directMetrics relayMetrics : PathMetrics) (directAvailable relayAvailable : Bool)
    (mode : EvaluationMode) (evaluatedAt : String) (policy : EvaluationPolicy) :
    ConnectionEvaluation :=
  let direct := evaluatePath directMetrics policy
  let relay := evaluatePath relayMetrics policy
  let outcome : Option TransportKind × EvaluationReason × EvaluationComparison :=
    if !directAvailable && relayAvailable then (some .cloudflareTurn, .directUnavailable, {})
    else if directAvailable && !relayAvailable then (some .direct, .relayUnavailable, {})
    else if !directAvailable && !relayAvailable then (none, .insufficientSamples, {})
    else if !direct.scoreable || !relay.scoreable then
      (some (fallback mode), .insufficientSamples, {})
    else compare policy mode direct relay
  { policyVersion := gamingPolicyVersion
    evaluatedAt := evaluatedAt
    selected := outcome.1
    reason := outcome.2.1
    direct := direct
    cloudflareTurn := relay
    comparison := outcome.2.2 }

section Advantage

variable {deadband : ℚ → ℚ} {floor direct relay lower : ℚ}

theorem clamp_mono {left right : ℚ} (le : left ≤ right) : clamp left (-1) 1 ≤ clamp right (-1) 1 :=
  max_le_max le_rfl (min_le_min le le_rfl)

theorem clamp_neg (value : ℚ) : clamp (-value) (-1) 1 = -clamp value (-1) 1 := by
  unfold clamp
  rw [max_min_distrib_left, ← min_neg_neg, ← max_neg_neg, neg_neg, min_comm]
  norm_num [max_comm]

theorem advantage_swap : advantage deadband floor relay direct =
    -advantage deadband floor direct relay := by
  unfold advantage
  rw [abs_sub_comm relay direct, min_comm relay direct, max_comm relay direct]
  split
  · exact neg_zero.symm
  · rw [← clamp_neg, ← neg_div, neg_sub]

theorem advantage_nonneg (positive : 0 < floor) (ahead : relay ≤ direct) :
    0 ≤ advantage deadband floor direct relay := by
  unfold advantage
  split
  · exact le_rfl
  · apply le_max_of_le_right
    apply le_min _ zero_le_one
    have large : 0 < max (max direct relay) floor := lt_max_of_lt_right positive
    exact div_nonneg (sub_nonneg.mpr ahead) large.le

theorem advantage_nonpos (positive : 0 < floor) (behind : direct ≤ relay) :
    advantage deadband floor direct relay ≤ 0 := by
  have swapped := @advantage_nonneg deadband floor relay direct positive behind
  rw [advantage_swap] at swapped
  linarith

theorem scaled_behind (positive : 0 < floor) (le : lower ≤ relay) :
    clamp ((direct - relay) / max relay floor) (-1) 1 ≤
      clamp ((direct - lower) / max lower floor) (-1) 1 := by
  have small : 0 < max lower floor := lt_max_of_lt_right positive
  rcases le_total relay floor with low | high
  · rw [max_eq_right low, max_eq_right (le.trans low)]
    exact clamp_mono (div_le_div_of_nonneg_right (sub_le_sub_left le direct) positive.le)
  · have large : 0 < relay := positive.trans_le high
    rw [max_eq_left high]
    rcases le_total direct 0 with negative | measured
    · have whole : (direct - relay) / relay ≤ -1 := by
        rw [div_le_iff₀ large]
        linarith
      have least : clamp ((direct - relay) / relay) (-1) 1 = -1 :=
        max_eq_left ((min_le_left _ _).trans whole)
      rw [least]
      exact le_max_left _ _
    · apply clamp_mono
      calc (direct - relay) / relay = direct / relay - 1 := by
            rw [sub_div, div_self large.ne']
        _ ≤ direct / max lower floor - 1 := by
            apply sub_le_sub_right
            exact div_le_div_of_nonneg_left measured small (max_le le high)
        _ = (direct - max lower floor) / max lower floor := by
            rw [sub_div, div_self small.ne']
        _ ≤ (direct - lower) / max lower floor := by
            apply div_le_div_of_nonneg_right _ small.le
            exact sub_le_sub_left (le_max_left _ _) direct

theorem advantage_antitone (positive : 0 < floor) (monotone : Monotone deadband)
    (le : lower ≤ relay) :
    advantage deadband floor direct relay ≤ advantage deadband floor direct lower := by
  rcases le_total relay direct with ahead | behind
  · have further : lower ≤ direct := le.trans ahead
    by_cases near : |direct - relay| ≤ deadband (min direct relay)
    · have nothing : advantage deadband floor direct relay = 0 := if_pos near
      rw [nothing]
      exact advantage_nonneg positive further
    · have far : ¬ |direct - lower| ≤ deadband (min direct lower) := by
        rw [abs_of_nonneg (sub_nonneg.mpr ahead), min_eq_right ahead] at near
        rw [abs_of_nonneg (sub_nonneg.mpr further), min_eq_right further]
        have less := monotone le
        linarith
      unfold advantage
      rw [if_neg near, if_neg far, max_eq_left ahead, max_eq_left further]
      apply clamp_mono
      apply div_le_div_of_nonneg_right (sub_le_sub_left le direct)
      exact (lt_max_of_lt_right positive).le
  · rcases le_total lower direct with further | still
    · exact (advantage_nonpos positive behind).trans (advantage_nonneg positive further)
    · by_cases near : |direct - lower| ≤ deadband (min direct lower)
      · have nothing : advantage deadband floor direct lower = 0 := if_pos near
        rw [nothing]
        exact advantage_nonpos positive behind
      · have far : ¬ |direct - relay| ≤ deadband (min direct relay) := by
          rw [abs_of_nonpos (sub_nonpos.mpr still), min_eq_left still] at near
          rw [abs_of_nonpos (sub_nonpos.mpr behind), min_eq_left behind]
          linarith
        unfold advantage
        rw [if_neg near, if_neg far, max_eq_right behind, max_eq_right still]
        exact scaled_behind positive le

theorem advantage_monotone (positive : 0 < floor) (monotone : Monotone deadband)
    (le : lower ≤ direct) :
    advantage deadband floor lower relay ≤ advantage deadband floor direct relay := by
  have swapped := @advantage_antitone deadband floor relay direct lower positive monotone le
  rw [advantage_swap, @advantage_swap deadband floor lower relay] at swapped
  linarith

end Advantage

section Blend

variable {own better other : ℚ}

theorem blend_eq (own other : ℚ) :
    blend own other = (|own| * own + |other| * other) / (|own| + |other|) := by
  unfold blend weight
  rw [add_comm |other| |own|]
  split
  · rename_i nothing
    rw [nothing, div_zero, zero_mul, zero_mul, add_zero]
  · ring

theorem blend_neg : blend (-own) (-other) = -blend own other := by
  rw [blend_eq, blend_eq, abs_neg, abs_neg]
  ring

theorem blend_zero : blend own 0 = own := by
  rw [blend_eq, abs_zero, zero_mul, add_zero, add_zero]
  rcases eq_or_ne own 0 with rfl | nonzero
  · simp
  · exact mul_div_cancel_left₀ own (abs_ne_zero.mpr nonzero)

theorem blend_opposed (behind : own ≤ 0) (ahead : 0 < other) : blend own other = own + other := by
  rw [blend_eq, abs_of_nonpos behind, abs_of_pos ahead, div_eq_iff (by linarith)]
  ring

theorem blend_agreeing (left : 0 ≤ own) (right : 0 < other) :
    blend own other = (own ^ 2 + other ^ 2) / (own + other) := by
  rw [blend_eq, abs_of_nonneg left, abs_of_pos right]
  ring

theorem blend_le_other (small : own ≤ other) (positive : 0 < other) : blend own other ≤ other := by
  rcases le_total own 0 with behind | ahead
  · rw [blend_opposed behind positive]
    linarith
  · rw [blend_agreeing ahead positive, div_le_iff₀ (by linarith)]
    nlinarith

theorem other_le_blend (large : other ≤ own) (positive : 0 < other) : other ≤ blend own other := by
  rw [blend_agreeing (by linarith) positive, le_div_iff₀ (by linarith)]
  nlinarith

theorem blend_mono_of_pos (positive : 0 < other) (le : own ≤ better)
    (clear : ¬ (0 < better ∧ better < other)) : blend own other ≤ blend better other := by
  rcases le_or_gt better 0 with behind | ahead
  · rw [blend_opposed (le.trans behind) positive, blend_opposed behind positive]
    linarith
  · have large : other ≤ better := by
      by_contra smaller
      exact clear ⟨ahead, not_le.mp smaller⟩
    rcases le_total own other with small | both
    · exact (blend_le_other small positive).trans (other_le_blend large positive)
    · rw [blend_agreeing (by linarith) positive, blend_agreeing ahead.le positive,
        div_le_div_iff₀ (by linarith) (by linarith)]
      have product : other * other ≤ own * better :=
        mul_le_mul both large positive.le (positive.le.trans both)
      have rest : 0 ≤ own * better + other * (own + better) - other ^ 2 := by nlinarith
      have difference := mul_nonneg (sub_nonneg.mpr le) rest
      linarith [difference]

theorem blend_mono (le : own ≤ better) (relay : ¬ (0 < better ∧ better < other))
    (direct : ¬ (other < own ∧ own < 0)) : blend own other ≤ blend better other := by
  rcases lt_trichotomy other 0 with negative | rfl | positive
  · have mirrored : blend (-better) (-other) ≤ blend (-own) (-other) := by
      apply blend_mono_of_pos (neg_pos.mpr negative) (neg_le_neg le)
      rintro ⟨ahead, smaller⟩
      exact direct ⟨neg_lt_neg_iff.mp smaller, neg_pos.mp ahead⟩
    rw [blend_neg, blend_neg] at mirrored
    exact neg_le_neg_iff.mp mirrored
  · rw [blend_zero, blend_zero]
    exact le
  · exact blend_mono_of_pos positive le relay

theorem blend_comm (own other : ℚ) : blend own other = blend other own := by
  unfold blend
  ring

end Blend

inductive Respect where
  | latency
  | stability
  deriving DecidableEq

/-- The better metrics differ from the worse in one respect only: a lower median round
trip, or other losses, jitter, spikes and reordering with a lower penalty. -/
def Lowered (worse better : PathMetrics) : Respect → Prop
  | .latency => ∃ rtt lower, worse.medianRttMs = some rtt ∧ lower ≤ rtt ∧
      better = { worse with medianRttMs := some lower }
  | .stability => better = { worse with
        jitterMs := better.jitterMs
        lossPercent := better.lossPercent
        spikePercent := better.spikePercent
        reorderingPercent := better.reorderingPercent } ∧
      stabilityPenalty better ≤ stabilityPenalty worse

namespace EvaluationComparison

def leads (comparison : EvaluationComparison) : Respect → ℚ × ℚ
  | .latency => (comparison.latencyAdvantage, comparison.stabilityAdvantage)
  | .stability => (comparison.stabilityAdvantage, comparison.latencyAdvantage)

def RelayNarrow (comparison : EvaluationComparison) (respect : Respect) : Prop :=
  0 < (comparison.leads respect).1 ∧ (comparison.leads respect).1 < (comparison.leads respect).2

def DirectNarrow (comparison : EvaluationComparison) (respect : Respect) : Prop :=
  (comparison.leads respect).2 < (comparison.leads respect).1 ∧ (comparison.leads respect).1 < 0

end EvaluationComparison

section Decisions

variable {policy : EvaluationPolicy} {mode : EvaluationMode} {respect : Respect}
  {worse better : PathMetrics} {directAvailable relayAvailable : Bool}

theorem confidence_nonneg (metrics : PathMetrics) (policy : EvaluationPolicy) :
    0 ≤ (evaluatePath metrics policy).confidence := by
  apply le_min
  · exact le_max_left _ _
  · unfold freshnessConfidence
    split
    · exact le_rfl
    · rename_i young
      rw [sub_nonneg, div_le_one₀ (by positivity)]
      exact_mod_cast (not_le.mp young).le.trans (le_max_left _ _)

theorem Lowered.evaluation (lowered : Lowered worse better respect) :
    (evaluatePath better policy).confidence = (evaluatePath worse policy).confidence ∧
      (evaluatePath better policy).scoreable = (evaluatePath worse policy).scoreable := by
  cases respect with
  | latency =>
      obtain ⟨rtt, lower, known, _, rfl⟩ := lowered
      refine ⟨rfl, ?_⟩
      unfold evaluatePath
      rw [known]
      rfl
  | stability =>
      rw [lowered.1]
      exact ⟨rfl, rfl⟩

theorem selectPath_mono {left right : EvaluationComparison}
    (le : left.turnAdvantage ≤ right.turnAdvantage)
    (relay : (selectPath policy mode left).1 = .cloudflareTurn) :
    (selectPath policy mode right).1 = .cloudflareTurn := by
  match mode with
  | .provisioning =>
      simp only [selectPath] at relay ⊢
      split at relay
      · rename_i reached
        rw [if_pos (reached.trans le)]
      · cases relay
  | .runtime .direct =>
      simp only [selectPath] at relay ⊢
      split at relay
      · rename_i reached
        rw [if_pos (reached.trans le)]
      · cases relay
  | .runtime .cloudflareTurn =>
      simp only [selectPath] at relay ⊢
      split at relay
      · cases relay
      · rename_i above
        rw [if_neg fun reached => above (le.trans reached)]

theorem turnAdvantage_le {left right : EvaluationComparison}
    {direct relay direct' relay' : PathEvaluation}
    (first : left = comparisonOf policy direct relay)
    (second : right = comparisonOf policy direct' relay')
    (measured : 0 ≤ min direct.confidence relay.confidence)
    (confident : min direct'.confidence relay'.confidence = min direct.confidence relay.confidence)
    (respect : Respect)
    (rises : (left.leads respect).1 ≤ (right.leads respect).1)
    (stays : (left.leads respect).2 = (right.leads respect).2)
    (relayClear : ¬ right.RelayNarrow respect) (directClear : ¬ left.DirectNarrow respect) :
    left.turnAdvantage ≤ right.turnAdvantage := by
  have leftBlend : left.turnAdvantage = blend left.latencyAdvantage left.stabilityAdvantage *
      min direct.confidence relay.confidence := by
    rw [first]
    rfl
  have rightBlend : right.turnAdvantage = blend right.latencyAdvantage right.stabilityAdvantage *
      min direct.confidence relay.confidence := by
    rw [second, ← confident]
    rfl
  rw [leftBlend, rightBlend]
  apply mul_le_mul_of_nonneg_right _ measured
  have blended : blend (left.leads respect).1 (left.leads respect).2 ≤
      blend (right.leads respect).1 (right.leads respect).2 := by
    rw [← stays]
    apply blend_mono rises
    · rw [stays]
      exact relayClear
    · exact directClear
  cases respect with
  | latency => exact blended
  | stability =>
      rw [blend_comm left.latencyAdvantage, blend_comm right.latencyAdvantage]
      exact blended

theorem latencyDeadband_mono (ratio : 0 ≤ policy.latencyDeadbandRatio) :
    Monotone fun least => max policy.latencyDeadbandMs (least * policy.latencyDeadbandRatio) :=
  fun _ _ le => max_le_max le_rfl (mul_le_mul_of_nonneg_right le ratio)

theorem Lowered.relay (ratio : 0 ≤ policy.latencyDeadbandRatio)
    (lowered : Lowered worse better respect) (direct : PathEvaluation) :
    let before := comparisonOf policy direct (evaluatePath worse policy)
    let after := comparisonOf policy direct (evaluatePath better policy)
    (before.leads respect).1 ≤ (after.leads respect).1 ∧
      (before.leads respect).2 = (after.leads respect).2 := by
  cases respect with
  | latency =>
      obtain ⟨rtt, lower, known, le, rfl⟩ := lowered
      refine ⟨?_, rfl⟩
      have floor : (0 : ℚ) < 30 := by norm_num
      apply advantage_antitone floor (latencyDeadband_mono ratio)
      simpa [evaluatePath, known] using le
  | stability =>
      obtain ⟨same, le⟩ := lowered
      constructor
      · have floor : (0 : ℚ) < 15 / 100 := by norm_num
        change stabilityAdvantage policy direct (evaluatePath worse policy) ≤
          stabilityAdvantage policy direct (evaluatePath better policy)
        unfold stabilityAdvantage
        exact advantage_antitone floor monotone_const le
      · rw [same]
        rfl

theorem Lowered.direct (ratio : 0 ≤ policy.latencyDeadbandRatio)
    (lowered : Lowered worse better respect) (relay : PathEvaluation) :
    let before := comparisonOf policy (evaluatePath worse policy) relay
    let after := comparisonOf policy (evaluatePath better policy) relay
    (after.leads respect).1 ≤ (before.leads respect).1 ∧
      (after.leads respect).2 = (before.leads respect).2 := by
  cases respect with
  | latency =>
      obtain ⟨rtt, lower, known, le, rfl⟩ := lowered
      refine ⟨?_, rfl⟩
      have floor : (0 : ℚ) < 30 := by norm_num
      apply advantage_monotone floor (latencyDeadband_mono ratio)
      simpa [evaluatePath, known] using le
  | stability =>
      obtain ⟨same, le⟩ := lowered
      constructor
      · have floor : (0 : ℚ) < 15 / 100 := by norm_num
        change stabilityAdvantage policy (evaluatePath better policy) relay ≤
          stabilityAdvantage policy (evaluatePath worse policy) relay
        unfold stabilityAdvantage
        exact advantage_monotone floor monotone_const le
      · rw [same]
        rfl

theorem evaluatePaths_cases (direct relay direct' relay' : PathMetrics)
    (directAvailable relayAvailable : Bool) (mode : EvaluationMode) (time : String)
    (policy : EvaluationPolicy)
    (scoreable : ((evaluatePath direct policy).scoreable && (evaluatePath relay policy).scoreable) =
      ((evaluatePath direct' policy).scoreable && (evaluatePath relay' policy).scoreable)) :
    let one := evaluatePaths direct relay directAvailable relayAvailable mode time policy
    let two := evaluatePaths direct' relay' directAvailable relayAvailable mode time policy
    one.selected = two.selected ∨
      (one.comparison = comparisonOf policy (evaluatePath direct policy)
          (evaluatePath relay policy) ∧
        two.comparison = comparisonOf policy (evaluatePath direct' policy)
          (evaluatePath relay' policy) ∧
        one.selected = some (selectPath policy mode one.comparison).1 ∧
        two.selected = some (selectPath policy mode two.comparison).1) := by
  cases directAvailable with
  | false => cases relayAvailable <;> exact Or.inl rfl
  | true =>
      cases relayAvailable with
      | false => exact Or.inl rfl
      | true =>
          by_cases compared : (evaluatePath direct policy).scoreable &&
              (evaluatePath relay policy).scoreable
          · have second := scoreable ▸ compared
            rw [Bool.and_eq_true] at compared second
            right
            simp [evaluatePaths, compare, compared, second]
          · left
            rw [Bool.not_eq_true] at compared
            have second := scoreable ▸ compared
            rw [Bool.and_eq_false_iff] at compared second
            simp [evaluatePaths, compared, second]

/-- A relay that gets better in one respect is not given up for the direct path, unless it is then
ahead in both and less so in this one, or was behind in both likewise; and so with the two paths
exchanged. -/
theorem evaluatePaths_monotone (policy : EvaluationPolicy)
    (ratio : 0 ≤ policy.latencyDeadbandRatio) (direct relay better : PathMetrics)
    (directAvailable relayAvailable : Bool) (mode : EvaluationMode) (time : String)
    (respect : Respect) :
    (Lowered relay better respect →
      let before := evaluatePaths direct relay directAvailable relayAvailable mode time policy
      let after := evaluatePaths direct better directAvailable relayAvailable mode time policy
      ¬ after.comparison.RelayNarrow respect → ¬ before.comparison.DirectNarrow respect →
        before.selected = some .cloudflareTurn → after.selected ≠ some .direct) ∧
    (Lowered direct better respect →
      let before := evaluatePaths direct relay directAvailable relayAvailable mode time policy
      let after := evaluatePaths better relay directAvailable relayAvailable mode time policy
      ¬ after.comparison.DirectNarrow respect → ¬ before.comparison.RelayNarrow respect →
        before.selected = some .direct → after.selected ≠ some .cloudflareTurn) := by
  constructor
  · intro lowered before after relayClear directClear chosen
    obtain ⟨confidence, scoreable⟩ := @Lowered.evaluation policy respect relay better lowered
    rcases evaluatePaths_cases direct relay direct better directAvailable relayAvailable mode time
      policy (by rw [scoreable]) with same | ⟨left, right, first, second⟩
    · rw [← same, chosen]
      simp
    · rw [second]
      rw [first] at chosen
      obtain ⟨rises, stays⟩ := lowered.relay ratio (evaluatePath direct policy)
      rw [← left, ← right] at rises stays
      have higher : before.comparison.turnAdvantage ≤ after.comparison.turnAdvantage :=
        turnAdvantage_le left right (le_min (confidence_nonneg _ _) (confidence_nonneg _ _))
          (by rw [confidence]) respect rises stays relayClear directClear
      rw [selectPath_mono higher (Option.some.inj chosen)]
      simp
  · intro lowered before after directClear relayClear chosen turned
    obtain ⟨confidence, scoreable⟩ := @Lowered.evaluation policy respect direct better lowered
    rcases evaluatePaths_cases direct relay better relay directAvailable relayAvailable mode time
      policy (by rw [scoreable]) with same | ⟨left, right, first, second⟩
    · rw [← same, chosen] at turned
      cases turned
    · rw [second] at turned
      rw [first] at chosen
      obtain ⟨rises, stays⟩ := lowered.direct ratio (evaluatePath relay policy)
      rw [← left, ← right] at rises stays
      have higher : after.comparison.turnAdvantage ≤ before.comparison.turnAdvantage :=
        turnAdvantage_le right left (le_min (confidence_nonneg _ _) (confidence_nonneg _ _))
          (by rw [confidence]) respect rises stays relayClear directClear
      rw [selectPath_mono higher (Option.some.inj turned)] at chosen
      cases chosen

end Decisions

namespace Sample

def path (rtt spikes : ℚ) : PathMetrics where
  sampleCount := 60
  receivedCount := 60
  sampleAgeMs := 0
  medianRttMs := some rtt
  jitterMs := 20
  lossPercent := 3
  spikePercent := spikes
  reorderingPercent := some 0

end Sample

/-- Five milliseconds less on the relay, and it is given up. -/
theorem evaluatePaths_not_monotone :
    ¬ ∀ (policy : EvaluationPolicy) (direct relay better : PathMetrics)
        (directAvailable relayAvailable : Bool) (mode : EvaluationMode) (time : String)
        (respect : Respect), Lowered relay better respect →
      (evaluatePaths direct relay directAvailable relayAvailable mode time policy).selected =
        some .cloudflareTurn →
      (evaluatePaths direct better directAvailable relayAvailable mode time policy).selected ≠
        some .direct := by
  intro monotone
  have lowered : Lowered (Sample.path 100 6) (Sample.path 95 6) .latency :=
    ⟨100, 95, rfl, by norm_num, rfl⟩
  exact monotone {} (Sample.path 100 10) (Sample.path 100 6) (Sample.path 95 6) true true
    .provisioning "" .latency lowered (by decide +kernel) (by decide +kernel)

theorem evaluatePaths_monotone_at_default :
    (evaluatePaths (Sample.path 100 10) (Sample.path 50 6) true true .provisioning "" {}).selected ≠
      some .direct := by
  have lowered : Lowered (Sample.path 100 6) (Sample.path 50 6) .latency :=
    ⟨100, 50, rfl, by norm_num, rfl⟩
  have ratio : (0 : ℚ) ≤ ({} : EvaluationPolicy).latencyDeadbandRatio := by norm_num
  apply (evaluatePaths_monotone {} ratio (Sample.path 100 10) (Sample.path 100 6)
    (Sample.path 50 6) true true .provisioning "" .latency).1 lowered
  · unfold EvaluationComparison.RelayNarrow
    decide +kernel
  · unfold EvaluationComparison.DirectNarrow
    decide +kernel
  · decide +kernel

end Noland.Network
