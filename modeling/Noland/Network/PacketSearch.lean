import Mathlib.Data.List.Basic
import Mathlib.Data.Rat.Defs

/-!
The largest size that passes is searched by bisection among the sizes at steps of four bytes. The
answers of the network may depend on how many probes there were before. An index outside of the
candidates and a clamp with crossed bounds are panics.
-/

namespace Noland.PacketSearch

def minTunnelMtu : Nat := 576

def maxTunnelMtu : Nat := 1420

def safetyMargin : Nat := 16

def minStreamingInnerMtu : Nat := 576

def wireguardDataOverhead : Nat := 32

def turnEffectiveMtu : Nat := 1200

/-- The `tunnel_mtu` of the configuration. -/
def configuredTunnelMtu : Nat := 1280

inductive Failure (ε : Type) where
  | outOfBounds
  | crossedBounds
  | probe (error : ε)

abbrev Asked := List (Nat × Bool)

section Search

variable {ε : Type}

abbrev Answers (ε : Type) := Nat → Nat → Except ε Bool

/-- `(minimum..=bound).step_by(4)`. -/
def stepped (minimum bound : Nat) : List Nat :=
  if bound < minimum then [] else List.range' minimum ((bound - minimum) / 4 + 1) 4

/-- The bounds are indices; the midpoint between them is rounded up. -/
def bisect (answers : Answers ε) (candidates : List Nat) (low high : Nat) (asked : Asked) :
    Except (Failure ε) (Nat × Asked) :=
  if low < high then
    let midpoint := low + (high - low + 1) / 2
    match candidates[midpoint]? with
    | none => .error .outOfBounds
    | some size =>
        match answers asked.length size with
        | .error error => .error (.probe error)
        | .ok true => bisect answers candidates midpoint high (asked ++ [(size, true)])
        | .ok false => bisect answers candidates low (midpoint - 1) (asked ++ [(size, false)])
  else .ok (low, asked)
termination_by high - low

def searchFrom (answers : Answers ε) (minimum bound : Nat) :
    Except (Failure ε) (Option Nat × Asked) :=
  match answers 0 minimum with
  | .error error => .error (.probe error)
  | .ok false => .ok (none, [(minimum, false)])
  | .ok true =>
      let candidates := stepped minimum bound
      match bisect answers candidates 0 (candidates.length - 1) [(minimum, true)] with
      | .error failure => .error failure
      | .ok (low, asked) =>
          match candidates[low]? with
          | none => .error .outOfBounds
          | some size => .ok (some size, asked)

def searchPathMtu (upperBound : Nat) (answers : Nat → Nat → Bool) :
    Except (Failure Empty) (Option Nat × Asked) :=
  let bound := upperBound - upperBound % 4
  if bound < minTunnelMtu then .ok (none, [])
  else searchFrom (fun number size => .ok (answers number size)) minTunnelMtu bound

def discoverProbePayloadCeiling (answers : Answers ε) (upperBound : Nat) :
    Except (Failure ε) (Option Nat × Asked) :=
  let minimum := minStreamingInnerMtu + wireguardDataOverhead
  searchFrom (fun number => answers (number + 1)) minimum (max upperBound minimum)

end Search

inductive MeasurementMethod where
  | configuredFallback
  | packetizationLayerProbe
  deriving DecidableEq

structure TargetPlan where
  effectiveMtu : Nat
  forwardPayloadCeiling : Option Nat
  verifiedInnerMtu : Option Nat
  confidence : ℚ
  measurementMethod : MeasurementMethod
  deriving DecidableEq

/-- `u16::clamp`, which panics when its bounds are crossed. -/
def clamp {ε : Type} (value low high : Nat) : Except (Failure ε) Nat :=
  if low ≤ high then .ok (max low (min value high)) else .error .crossedBounds

def u16Max : Nat := 65535

/-- The bounds of this clamp are constants that do not cross. -/
def requestedCeiling (effectiveMtu : Nat) : Nat :=
  max (minStreamingInnerMtu + wireguardDataOverhead)
    (min (min (effectiveMtu + wireguardDataOverhead) u16Max) 1500)

def verifiedTarget (payloadCeiling verifiedInnerMtu : Nat) : TargetPlan where
  effectiveMtu := verifiedInnerMtu
  forwardPayloadCeiling := some payloadCeiling
  verifiedInnerMtu := some verifiedInnerMtu
  confidence := 1 / 2
  measurementMethod := .packetizationLayerProbe

def applyDiscoveredPayloadLimit {ε : Type} (target : TargetPlan) (answers : Answers ε) :
    Except (Failure ε) TargetPlan :=
  match discoverProbePayloadCeiling answers (requestedCeiling target.effectiveMtu) with
  | .ok (some payloadCeiling, _) =>
      (clamp (payloadCeiling - wireguardDataOverhead) minStreamingInnerMtu
        target.effectiveMtu).map (verifiedTarget payloadCeiling)
  | .ok (none, _) => .ok target
  | .error (.probe _) => .ok target
  | .error failure => .error failure

def operationalMtu (pathMtu : Nat) : Nat :=
  let bounded := max minTunnelMtu (min (pathMtu - safetyMargin) maxTunnelMtu)
  bounded - bounded % 4

/-- The effective MTU of a target is one that is held for its path: it was configured, cached or
measured by the tuning, comes from a committed profile (whose MTU the host has validated), or is
that of an earlier target. -/
inductive HeldMtu : Nat → Prop where
  | configured : HeldMtu configuredTunnelMtu
  | cached (mtu : Nat) (low : minTunnelMtu ≤ mtu) (high : mtu ≤ maxTunnelMtu) : HeldMtu mtu
  | measured (pathMtu : Nat) : HeldMtu (operationalMtu pathMtu)
  | committed (mtu : Nat) (low : 576 ≤ mtu) (high : mtu ≤ 1500) : HeldMtu mtu
  | current (runtimeMtu : Nat) : HeldMtu (max runtimeMtu 576)
  | relay : HeldMtu turnEffectiveMtu
  | earlier {ε : Type} (target next : TargetPlan) (answers : Answers ε)
      (held : HeldMtu target.effectiveMtu)
      (applied : applyDiscoveredPayloadLimit target answers = .ok next) :
      HeldMtu next.effectiveMtu

def Faithful {ε : Type} (answers : Answers ε) (asked : Asked) : Prop :=
  ∀ number (probe : Nat × Bool), asked[number]? = some probe →
    answers number probe.1 = .ok probe.2

/-- What a bisection keeps between its bounds: the lower one was delivered, and the one after the
upper one was not. -/
structure Bracketed {ε : Type} (answers : Answers ε) (candidates : List Nat) (asked : Asked)
    (low high : Nat) : Prop where
  ordered : low ≤ high
  inside : high < candidates.length
  delivered : ∀ size, candidates[low]? = some size → (size, true) ∈ asked
  refused : ∀ size, candidates[high + 1]? = some size → (size, false) ∈ asked
  faithful : Faithful answers asked

structure Found {ε : Type} (answers : Answers ε) (minimum bound size : Nat) (asked : Asked) :
    Prop where
  onGrid : ∃ steps, size = minimum + 4 * steps
  bounded : size ≤ bound
  delivered : (size, true) ∈ asked
  refused : size + 4 ≤ bound → (size + 4, false) ∈ asked
  faithful : Faithful answers asked

section Search

variable {ε : Type} {answers : Answers ε} {candidates : List Nat} {asked : Asked}
  {minimum bound size index low high : Nat}

theorem Faithful.append (faithful : Faithful answers asked) {delivered : Bool}
    (answered : answers asked.length size = .ok delivered) :
    Faithful answers (asked ++ [(size, delivered)]) := by
  intro number probe found
  by_cases inside : number < asked.length
  · rw [List.getElem?_append_left inside] at found
    exact faithful number probe found
  · rw [List.getElem?_append_right (Nat.le_of_not_lt inside)] at found
    obtain ⟨last, same⟩ := List.getElem?_eq_some_iff.mp found
    have first : number = asked.length := by
      rw [List.length_singleton] at last
      omega
    subst first
    simp only [Nat.sub_self, List.getElem_singleton] at same
    rw [← same]
    exact answered

theorem bisect_spec (answers : Answers ε) (candidates : List Nat) (low high : Nat) (asked : Asked)
    (bracketed : Bracketed answers candidates asked low high) :
    (∃ error number size, answers number size = .error error ∧
        bisect answers candidates low high asked = .error (.probe error)) ∨
      ∃ index probes, bisect answers candidates low high asked = .ok (index, probes) ∧
        Bracketed answers candidates probes index index := by
  fun_induction bisect answers candidates low high asked with
  | case1 low high asked apart midpoint outside =>
      have inside := bracketed.inside
      rw [List.getElem?_eq_none_iff] at outside
      omega
  | case2 low high asked apart midpoint size here error answered =>
      exact Or.inl ⟨error, _, size, answered, rfl⟩
  | case3 low high asked apart midpoint size here answered ih =>
      apply ih
      constructor
      · omega
      · exact bracketed.inside
      · intro other there
        rw [here] at there
        cases there
        exact List.mem_append_right _ List.mem_cons_self
      · exact fun other there => List.mem_append_left _ (bracketed.refused other there)
      · exact bracketed.faithful.append answered
  | case4 low high asked apart midpoint size here answered ih =>
      have inside := bracketed.inside
      have next : midpoint - 1 + 1 = midpoint := by omega
      apply ih
      constructor
      · omega
      · omega
      · exact fun other there => List.mem_append_left _ (bracketed.delivered other there)
      · intro other there
        rw [next, here] at there
        cases there
        exact List.mem_append_right _ List.mem_cons_self
      · exact bracketed.faithful.append answered
  | case5 low high asked met =>
      have same : low = high := by
        have ordered := bracketed.ordered
        omega
      subst same
      exact Or.inr ⟨low, asked, rfl, bracketed⟩

theorem stepped_getElem? (ordered : minimum ≤ bound) :
    (stepped minimum bound)[index]? =
      if minimum + 4 * index ≤ bound then some (minimum + 4 * index) else none := by
  rw [stepped, if_neg (Nat.not_lt.mpr ordered)]
  split
  · rw [List.getElem?_range' (by omega)]
  · rw [List.getElem?_eq_none]
    rw [List.length_range']
    omega

theorem searchFrom_spec (answers : Answers ε) (ordered : minimum ≤ bound) :
    (∃ error number size, answers number size = .error error ∧
        searchFrom answers minimum bound = .error (.probe error)) ∨
      (searchFrom answers minimum bound = .ok (none, [(minimum, false)]) ∧
        answers 0 minimum = .ok false) ∨
      ∃ size asked, searchFrom answers minimum bound = .ok (some size, asked) ∧
        Found answers minimum bound size asked := by
  have grid : ∀ index, (stepped minimum bound)[index]? =
      if minimum + 4 * index ≤ bound then some (minimum + 4 * index) else none :=
    fun index => stepped_getElem? ordered
  have least : (stepped minimum bound)[0]? = some minimum := (grid 0).trans (if_pos ordered)
  have nonempty : 0 < (stepped minimum bound).length := (List.getElem?_eq_some_iff.mp least).1
  unfold searchFrom
  cases first : answers 0 minimum with
  | error error => exact Or.inl ⟨error, 0, minimum, first, rfl⟩
  | ok delivered =>
      cases delivered with
      | false => exact Or.inr (Or.inl ⟨rfl, rfl⟩)
      | true =>
          have bracketed : Bracketed answers (stepped minimum bound) [(minimum, true)] 0
              ((stepped minimum bound).length - 1) := by
            constructor
            · omega
            · omega
            · intro size here
              rw [least] at here
              cases here
              exact List.mem_cons_self
            · intro size here
              rw [Nat.sub_add_cancel nonempty, List.getElem?_eq_none (Nat.le_refl _)] at here
              cases here
            · intro number probe here
              cases number with
              | zero =>
                  cases here
                  exact first
              | succ number => cases here
          obtain ⟨error, number, size, answered, failed⟩ | ⟨index, asked, result, bracketed⟩ :=
            bisect_spec answers _ _ _ _ bracketed
          · refine Or.inl ⟨error, number, size, answered, ?_⟩
            simp only [failed]
          · obtain ⟨size, here⟩ : ∃ size, (stepped minimum bound)[index]? = some size :=
              ⟨_, List.getElem?_eq_getElem bracketed.inside⟩
            refine Or.inr (Or.inr ⟨size, asked, ?_, ?_⟩)
            · simp only [result, here]
            · have delivered := bracketed.delivered size here
              rw [grid index] at here
              split at here
              · cases here
                refine ⟨⟨index, rfl⟩, by assumption, delivered, ?_, bracketed.faithful⟩
                intro more
                have next : (stepped minimum bound)[index + 1]? = some (minimum + 4 * index + 4) := by
                  rw [grid (index + 1), if_pos (by omega)]
                  congr 1
                exact bracketed.refused _ next
              · cases here

end Search

def MonotoneProbe (passes : Nat → Bool) : Prop :=
  ∀ small large, small ≤ large → passes large = true → passes small = true

def Largest (passes : Nat → Bool) (minimum bound : Nat) (found : Option Nat) : Prop :=
  (found = none ↔ bound < minimum ∨ passes minimum = false) ∧
    ∀ size, found = some size →
      (∃ steps, size = minimum + 4 * steps) ∧ size ≤ bound ∧ passes size = true ∧
        ∀ steps, minimum + 4 * steps ≤ bound → passes (minimum + 4 * steps) = true →
          minimum + 4 * steps ≤ size

section Results

variable {ε : Type} {passes : Nat → Bool} {minimum bound size : Nat} {asked : Asked}

theorem Faithful.answered {answers : Answers ε}
    (steady : ∀ number size, answers number size = .ok (passes size))
    (faithful : Faithful answers asked) {probe : Nat × Bool} (member : probe ∈ asked) :
    passes probe.1 = probe.2 := by
  obtain ⟨number, here⟩ := List.mem_iff_getElem?.mp member
  have answered := faithful number probe here
  rw [steady] at answered
  exact Except.ok.inj answered

theorem Found.largest {answers : Answers ε}
    (steady : ∀ number size, answers number size = .ok (passes size))
    (monotone : MonotoneProbe passes) (found : Found answers minimum bound size asked) :
    Largest passes minimum bound (some size) := by
  have delivered : passes size = true := found.faithful.answered steady found.delivered
  obtain ⟨steps, onGrid⟩ := found.onGrid
  have bounded := found.bounded
  constructor
  · refine iff_of_false nofun ?_
    rintro (below | fails)
    · omega
    · rw [monotone minimum size (by omega) delivered] at fails
      cases fails
  · intro other same
    cases same
    refine ⟨⟨steps, onGrid⟩, bounded, delivered, ?_⟩
    intro others inside passing
    by_contra larger
    have refused : passes (size + 4) = false :=
      found.faithful.answered steady (found.refused (by omega))
    rw [monotone (size + 4) _ (by omega) passing] at refused
    cases refused

theorem searchFrom_largest {answers : Answers ε}
    (steady : ∀ number size, answers number size = .ok (passes size))
    (monotone : MonotoneProbe passes) (ordered : minimum ≤ bound) :
    ∃ found asked, searchFrom answers minimum bound = .ok (found, asked) ∧
      Largest passes minimum bound found := by
  obtain ⟨error, number, size, failed, -⟩ | ⟨result, fails⟩ | ⟨size, asked, result, found⟩ :=
    searchFrom_spec answers ordered
  · rw [steady] at failed
    cases failed
  · rw [steady] at fails
    refine ⟨none, _, result, iff_of_true rfl (Or.inr (Except.ok.inj fails)), ?_⟩
    intro size same
    cases same
  · exact ⟨some size, asked, result, found.largest steady monotone⟩

theorem Largest.rounded {found : Option Nat}
    (largest : Largest passes minTunnelMtu (bound - bound % 4) found) :
    Largest passes minTunnelMtu bound found := by
  have grid : ∀ steps, minTunnelMtu + 4 * steps ≤ bound →
      minTunnelMtu + 4 * steps ≤ bound - bound % 4 := by
    intro steps inside
    unfold minTunnelMtu at inside ⊢
    omega
  constructor
  · rw [largest.1]
    apply or_congr_left
    unfold minTunnelMtu
    omega
  · intro size same
    obtain ⟨onGrid, bounded, passing, greatest⟩ := largest.2 size same
    exact ⟨onGrid, by omega, passing, fun steps inside => greatest steps (grid steps inside)⟩

def Witnessed (asked : Asked) (found : Option Nat) : Prop :=
  ∀ size, found = some size → (size, true) ∈ asked

theorem searchFrom_witnessed (answers : Answers ε) (ordered : minimum ≤ bound) :
    (∃ error number size, answers number size = .error error ∧
        searchFrom answers minimum bound = .error (.probe error)) ∨
      ∃ found asked, searchFrom answers minimum bound = .ok (found, asked) ∧
        Faithful answers asked ∧ Witnessed asked found ∧
        ∀ size, found = some size → minimum ≤ size ∧ size ≤ bound := by
  obtain failed | ⟨result, fails⟩ | ⟨size, asked, result, found⟩ := searchFrom_spec answers ordered
  · exact Or.inl failed
  · refine Or.inr ⟨none, _, result, ?_, nofun, nofun⟩
    intro number probe here
    cases number with
    | zero =>
        cases here
        exact fails
    | succ number => cases here
  · refine Or.inr ⟨some size, asked, result, found.faithful, ?_, ?_⟩
    · intro other same
      cases same
      exact found.delivered
    · intro other same
      cases same
      obtain ⟨steps, onGrid⟩ := found.onGrid
      exact ⟨by omega, found.bounded⟩

theorem applyDiscoveredPayloadLimit_spec (target : TargetPlan) (answers : Answers ε)
    (large : minStreamingInnerMtu ≤ target.effectiveMtu) :
    ∃ next, applyDiscoveredPayloadLimit target answers = .ok next ∧
      minStreamingInnerMtu ≤ next.effectiveMtu ∧ next.effectiveMtu ≤ target.effectiveMtu ∧
      ∀ payload asked, discoverProbePayloadCeiling answers
          (requestedCeiling target.effectiveMtu) = .ok (some payload, asked) →
        next.effectiveMtu + wireguardDataOverhead ≤ payload := by
  obtain ⟨error, _, _, _, failed⟩ | ⟨found, asked, result, -, -, between⟩ :=
    searchFrom_witnessed (fun number => answers (number + 1))
      (le_max_right (requestedCeiling target.effectiveMtu)
        (minStreamingInnerMtu + wireguardDataOverhead))
  · have search : discoverProbePayloadCeiling answers (requestedCeiling target.effectiveMtu) =
        .error (.probe error) := failed
    refine ⟨target, ?_, large, le_rfl, ?_⟩
    · rw [applyDiscoveredPayloadLimit, search]
    · intro payload asked same
      rw [search] at same
      cases same
  · have search : discoverProbePayloadCeiling answers (requestedCeiling target.effectiveMtu) =
        .ok (found, asked) := result
    cases found with
    | none =>
        refine ⟨target, ?_, large, le_rfl, ?_⟩
        · rw [applyDiscoveredPayloadLimit, search]
        · intro payload asked same
          rw [search] at same
          cases same
    | some payload =>
        obtain ⟨least, most⟩ := between payload rfl
        have applied : applyDiscoveredPayloadLimit target answers =
            .ok (verifiedTarget payload (max minStreamingInnerMtu
              (min (payload - wireguardDataOverhead) target.effectiveMtu))) := by
          rw [applyDiscoveredPayloadLimit, search]
          dsimp only
          rw [clamp, if_pos large]
          rfl
        refine ⟨_, applied, le_max_left _ _, max_le large (min_le_right _ _), ?_⟩
        intro other probes same
        rw [search] at same
        cases same
        unfold verifiedTarget minStreamingInnerMtu wireguardDataOverhead at *
        dsimp only
        omega

theorem HeldMtu.large {mtu : Nat} (held : HeldMtu mtu) : minStreamingInnerMtu ≤ mtu := by
  induction held with
  | configured => decide
  | cached mtu low high => exact low
  | measured pathMtu =>
      unfold operationalMtu minStreamingInnerMtu minTunnelMtu maxTunnelMtu
      dsimp only
      omega
  | committed mtu low high => exact low
  | current runtimeMtu => exact le_max_right _ _
  | relay => decide
  | earlier target next answers held applied ih =>
      obtain ⟨_, same, large, -⟩ := applyDiscoveredPayloadLimit_spec target answers ih
      rw [applied] at same
      cases same
      exact large

end Results

/-- The searches end without a panic and return only a size that was delivered, with a monotone
probe the largest of the grid; and the limit of a target with an MTU that is held is applied
without a panic, at most that MTU, and fits with the overhead into what was delivered. -/
theorem packet_sizes_found :
    (∀ (upperBound : Nat) (answers : Nat → Nat → Bool), ∃ found asked,
      searchPathMtu upperBound answers = .ok (found, asked) ∧
        (∀ number (probe : Nat × Bool), asked[number]? = some probe →
          answers number probe.1 = probe.2) ∧ Witnessed asked found) ∧
    (∀ (ε : Type) (upperBound : Nat) (answers : Answers ε),
      (∃ error number size, answers number size = .error error ∧
        discoverProbePayloadCeiling answers upperBound = .error (.probe error)) ∨
      ∃ found asked, discoverProbePayloadCeiling answers upperBound = .ok (found, asked) ∧
        Faithful (fun number => answers (number + 1)) asked ∧ Witnessed asked found) ∧
    (∀ passes, MonotoneProbe passes → ∀ upperBound,
      (∃ found asked, searchPathMtu upperBound (fun _ => passes) = .ok (found, asked) ∧
        Largest passes minTunnelMtu upperBound found) ∧
      ∀ ε : Type, ∃ found asked, discoverProbePayloadCeiling
          (fun _ size => (.ok (passes size) : Except ε Bool)) upperBound = .ok (found, asked) ∧
        Largest passes (minStreamingInnerMtu + wireguardDataOverhead)
          (max upperBound (minStreamingInnerMtu + wireguardDataOverhead)) found) ∧
    ∀ (ε : Type) (target : TargetPlan) (answers : Answers ε), HeldMtu target.effectiveMtu →
      ∃ next, applyDiscoveredPayloadLimit target answers = .ok next ∧
        next.effectiveMtu ≤ target.effectiveMtu ∧
        ∀ payload asked, discoverProbePayloadCeiling answers
            (requestedCeiling target.effectiveMtu) = .ok (some payload, asked) →
          next.effectiveMtu + wireguardDataOverhead ≤ payload := by
  refine ⟨?_, ?_, ?_, ?_⟩
  · intro upperBound answers
    unfold searchPathMtu
    dsimp only
    split
    · exact ⟨none, [], rfl, nofun, nofun⟩
    · rename_i reached
      obtain ⟨error, -⟩ | ⟨found, asked, result, faithful, witnessed, -⟩ :=
        searchFrom_witnessed (fun number size => (.ok (answers number size) : Except Empty Bool))
          (Nat.le_of_not_lt reached)
      · exact error.elim
      · refine ⟨found, asked, result, ?_, witnessed⟩
        exact fun number probe here => Except.ok.inj (faithful number probe here)
  · intro ε upperBound answers
    obtain ⟨error, number, size, answered, failed⟩ | ⟨found, asked, result, faithful, witnessed, -⟩ :=
      searchFrom_witnessed (fun number => answers (number + 1))
        (le_max_right upperBound (minStreamingInnerMtu + wireguardDataOverhead))
    · exact Or.inl ⟨error, number + 1, size, answered, failed⟩
    · exact Or.inr ⟨found, asked, result, faithful, witnessed⟩
  · intro passes monotone upperBound
    constructor
    · unfold searchPathMtu
      dsimp only
      split
      · rename_i below
        refine ⟨none, [], rfl, Largest.rounded ⟨iff_of_true rfl (Or.inl below), nofun⟩⟩
      · rename_i reached
        obtain ⟨found, asked, result, largest⟩ :=
          searchFrom_largest (fun _ _ => rfl) monotone (Nat.le_of_not_lt reached)
        exact ⟨found, asked, result, largest.rounded⟩
    · intro ε
      exact searchFrom_largest (fun _ _ => rfl) monotone (le_max_right _ _)
  · intro ε target answers held
    obtain ⟨next, applied, -, lower, fits⟩ :=
      applyDiscoveredPayloadLimit_spec target answers held.large
    exact ⟨next, applied, lower, fits⟩

end Noland.PacketSearch
