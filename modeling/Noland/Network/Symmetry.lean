import Mathlib.Algebra.Order.Field.Basic
import Noland.Network.Evaluation

/-!
Exchanging the two paths negates the advantage of the relay, which is never larger than the
confidence. With the default policy the two runtime thresholds lie apart, so measurements that
lead away from a path do not lead back to it.
-/

namespace Noland.Network

def TransportKind.other : TransportKind → TransportKind
  | .direct => .cloudflareTurn
  | .cloudflareTurn => .direct

section Bounds

variable {value low high floor direct relay : ℚ} {deadband : ℚ → ℚ}

theorem le_clamp : low ≤ clamp value low high :=
  le_max_left _ _

theorem clamp_le (ordered : low ≤ high) : clamp value low high ≤ high :=
  max_le ordered (min_le_right _ _)

theorem stabilityPenalty_bounds (metrics : PathMetrics) :
    0 ≤ stabilityPenalty metrics ∧ stabilityPenalty metrics ≤ 1 := by
  have part : ∀ value : ℚ, 0 ≤ clamp value 0 1 ∧ clamp value 0 1 ≤ 1 :=
    fun _ => ⟨le_clamp, clamp_le zero_le_one⟩
  have loss := part (metrics.lossPercent / 3)
  have jitter := part (metrics.jitterMs / 20)
  have spikes := part (metrics.spikePercent / 10)
  unfold stabilityPenalty
  cases metrics.reorderingPercent with
  | none => constructor <;> dsimp only <;> linarith
  | some reordering =>
      have reordered := part (reordering / 2)
      constructor <;> dsimp only <;> linarith

theorem abs_advantage_le : |advantage deadband floor direct relay| ≤ 1 := by
  unfold advantage
  split
  · exact abs_zero.trans_le zero_le_one
  · exact abs_le.mpr ⟨le_clamp, clamp_le (by norm_num)⟩

theorem abs_blend_le {own other bound : ℚ} (ownSmall : |own| ≤ bound)
    (otherSmall : |other| ≤ bound) : |blend own other| ≤ bound := by
  have bounded : 0 ≤ bound := (abs_nonneg own).trans ownSmall
  rw [blend_eq, abs_div, abs_of_nonneg (add_nonneg (abs_nonneg own) (abs_nonneg other))]
  apply div_le_of_le_mul₀ (add_nonneg (abs_nonneg own) (abs_nonneg other)) bounded
  calc |(|own| * own + |other| * other)|
      ≤ |(|own| * own)| + |(|other| * other)| := abs_add_le _ _
    _ = |own| * |own| + |other| * |other| := by rw [abs_mul, abs_mul, abs_abs, abs_abs]
    _ ≤ |own| * bound + |other| * bound :=
        add_le_add (mul_le_mul_of_nonneg_left ownSmall (abs_nonneg own))
          (mul_le_mul_of_nonneg_left otherSmall (abs_nonneg other))
    _ = bound * (|own| + |other|) := by ring

end Bounds

section Comparison

variable (policy : EvaluationPolicy) (direct relay : PathEvaluation)

theorem turnAdvantage_swap : (comparisonOf policy relay direct).turnAdvantage =
    -(comparisonOf policy direct relay).turnAdvantage := by
  have latency : latencyAdvantage policy relay direct = -latencyAdvantage policy direct relay :=
    advantage_swap
  have stability : stabilityAdvantage policy relay direct = -stabilityAdvantage policy direct relay :=
    advantage_swap
  simp only [comparisonOf]
  rw [latency, stability, blend_neg, min_comm, neg_mul]

theorem abs_turnAdvantage_le (sure : 0 ≤ (comparisonOf policy direct relay).confidence) :
    |(comparisonOf policy direct relay).turnAdvantage| ≤
      (comparisonOf policy direct relay).confidence := by
  have blended : |blend (latencyAdvantage policy direct relay)
      (stabilityAdvantage policy direct relay)| ≤ 1 := abs_blend_le abs_advantage_le abs_advantage_le
  calc |(comparisonOf policy direct relay).turnAdvantage|
      = |blend (latencyAdvantage policy direct relay) (stabilityAdvantage policy direct relay)| *
          |(comparisonOf policy direct relay).confidence| := abs_mul _ _
    _ = |blend (latencyAdvantage policy direct relay) (stabilityAdvantage policy direct relay)| *
          (comparisonOf policy direct relay).confidence := by rw [abs_of_nonneg sure]
    _ ≤ 1 * (comparisonOf policy direct relay).confidence :=
        mul_le_mul_of_nonneg_right blended sure
    _ = (comparisonOf policy direct relay).confidence := one_mul _

variable {policy}

theorem selectPath_steady (apart : policy.runtimeDirectThreshold < policy.runtimeTurnThreshold)
    (comparison : EvaluationComparison) (current : TransportKind)
    (away : (selectPath policy (.runtime current) comparison).1 = current.other) :
    (selectPath policy (.runtime current.other) comparison).1 = current.other := by
  cases current with
  | direct =>
      have reached : policy.runtimeTurnThreshold ≤ comparison.turnAdvantage := by
        by_contra short
        simp [selectPath, short, TransportKind.other] at away
      have above : ¬ comparison.turnAdvantage ≤ policy.runtimeDirectThreshold :=
        not_le.mpr (apart.trans_le reached)
      simp [selectPath, above, TransportKind.other]
  | cloudflareTurn =>
      have reached : comparison.turnAdvantage ≤ policy.runtimeDirectThreshold := by
        by_contra short
        simp [selectPath, short, TransportKind.other] at away
      have below : ¬ policy.runtimeTurnThreshold ≤ comparison.turnAdvantage :=
        not_le.mpr (reached.trans_lt apart)
      simp [selectPath, below, TransportKind.other]

end Comparison

section Evaluations

variable (direct relay : PathMetrics) (directAvailable relayAvailable : Bool)
  (mode : EvaluationMode) (time : String) (policy : EvaluationPolicy)

theorem evaluatePaths_compared :
    (∀ mode, (evaluatePaths direct relay directAvailable relayAvailable mode time
        policy).comparison =
      comparisonOf policy (evaluatePath direct policy) (evaluatePath relay policy) ∧
      (evaluatePaths relay direct relayAvailable directAvailable mode time policy).comparison =
      comparisonOf policy (evaluatePath relay policy) (evaluatePath direct policy)) ∨
    ∀ mode, (evaluatePaths direct relay directAvailable relayAvailable mode time
        policy).comparison = {} ∧
      (evaluatePaths relay direct relayAvailable directAvailable mode time policy).comparison =
        {} := by
  cases directAvailable <;> cases relayAvailable <;>
    cases directScored : (evaluatePath direct policy).scoreable <;>
    cases relayScored : (evaluatePath relay policy).scoreable <;>
    simp [evaluatePaths, directScored, relayScored, compare]

theorem evaluatePaths_swap :
    (evaluatePaths relay direct relayAvailable directAvailable mode time
        policy).comparison.turnAdvantage =
      -(evaluatePaths direct relay directAvailable relayAvailable mode time
        policy).comparison.turnAdvantage := by
  obtain compared | empty :=
    evaluatePaths_compared direct relay directAvailable relayAvailable time policy
  · rw [(compared mode).1, (compared mode).2, turnAdvantage_swap]
  · rw [(empty mode).1, (empty mode).2]
    exact neg_zero.symm

theorem evaluatePaths_bounded :
    |(evaluatePaths direct relay directAvailable relayAvailable mode time
        policy).comparison.turnAdvantage| ≤
      (evaluatePaths direct relay directAvailable relayAvailable mode time
        policy).comparison.confidence := by
  obtain compared | empty :=
    evaluatePaths_compared direct relay directAvailable relayAvailable time policy
  · rw [(compared mode).1]
    exact abs_turnAdvantage_le policy _ _
      (le_min (confidence_nonneg direct policy) (confidence_nonneg relay policy))
  · rw [(empty mode).1]
    exact abs_zero.le

variable {policy}

theorem evaluatePaths_steady (apart : policy.runtimeDirectThreshold < policy.runtimeTurnThreshold)
    (current : TransportKind)
    (away : (evaluatePaths direct relay directAvailable relayAvailable (.runtime current) time
      policy).selected = some current.other) :
    (evaluatePaths direct relay directAvailable relayAvailable (.runtime current.other) time
      policy).selected = some current.other := by
  unfold evaluatePaths at away ⊢
  dsimp only at away ⊢
  split_ifs at away ⊢ with relayOnly directOnly neither unscored
  · exact away
  · exact away
  · rfl
  · exact congrArg some (selectPath_steady apart _ current (Option.some.inj away))

end Evaluations

/-- Exchanging the paths negates the advantage; it is at most the confidence; the penalties lie
between 0 and 1; a path that is not available loses to one that is; and with the default policy
no measurements lead both away from a path and back to it. -/
theorem evaluatePaths_symmetric (direct relay : PathMetrics) (directAvailable relayAvailable : Bool)
    (mode : EvaluationMode) (time : String) (policy : EvaluationPolicy) :
    let evaluated := evaluatePaths direct relay directAvailable relayAvailable mode time policy
    let inRuntime := fun current =>
      (evaluatePaths direct relay directAvailable relayAvailable (.runtime current) time {}).selected
    (evaluatePaths relay direct relayAvailable directAvailable mode time
        policy).comparison.turnAdvantage = -evaluated.comparison.turnAdvantage ∧
      |evaluated.comparison.turnAdvantage| ≤ evaluated.comparison.confidence ∧
      (∀ path ∈ [evaluated.direct, evaluated.cloudflareTurn],
        0 ≤ path.stabilityPenalty ∧ path.stabilityPenalty ≤ 1) ∧
      ¬ (directAvailable = false ∧ relayAvailable = true ∧ evaluated.selected = some .direct) ∧
      ¬ (relayAvailable = false ∧ directAvailable = true ∧
        evaluated.selected = some .cloudflareTurn) ∧
      ∀ current : TransportKind,
        ¬ (inRuntime current = some current.other ∧ inRuntime current.other = some current) := by
  refine ⟨evaluatePaths_swap .., evaluatePaths_bounded .., ?_, ?_, ?_, ?_⟩
  · intro path member
    have evaluation : ∃ metrics, path = evaluatePath metrics policy := by
      rcases List.mem_pair.mp member with here | here
      · exact ⟨direct, here⟩
      · exact ⟨relay, here⟩
    obtain ⟨metrics, rfl⟩ := evaluation
    exact stabilityPenalty_bounds metrics
  · rintro ⟨rfl, rfl, chosen⟩
    cases chosen
  · rintro ⟨rfl, rfl, chosen⟩
    cases chosen
  · rintro current ⟨away, back⟩
    have apart : ({} : EvaluationPolicy).runtimeDirectThreshold <
        ({} : EvaluationPolicy).runtimeTurnThreshold := by norm_num
    have kept := evaluatePaths_steady direct relay directAvailable relayAvailable time apart
      current away
    have both : some current.other = some current := kept.symm.trans back
    cases current <;> cases both

end Noland.Network
