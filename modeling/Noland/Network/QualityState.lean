import Mathlib.Data.List.Induction

/-!
The published quality is BAD after five seconds of BAD candidates and no BAD any more after ten
seconds without one. An entry into BAD that may raise an alert uses the alert up until the next
recovery. Instants count nanoseconds.
-/

namespace Noland.Network

inductive Quality where
  | warmingUp
  | great
  | good
  | poor
  | bad
  deriving DecidableEq

inductive ReasonCode where
  | highLatency
  | highJitter
  | packetLoss
  | lossBurst
  | latencySpikes
  deriving DecidableEq

structure Classification where
  status : Quality
  stability : Quality
  latency : Quality
  reasons : List ReasonCode
  deriving DecidableEq

structure StatusTransition where
  previous : Quality
  current : Quality
  reasons : List ReasonCode
  alertEligible : Bool
  deriving DecidableEq

def badPersistence : Nat := 5000000000

def recoveryPersistence : Nat := 10000000000

structure StateMachine where
  published : Quality := .warmingUp
  badSince : Option Nat := none
  recoverySince : Option Nat := none
  alertEligible : Bool := true
  deriving DecidableEq

namespace StateMachine

/-- `evaluate`; a time not yet known is set to `now`. -/
def evaluate (state : StateMachine) (classification : Classification) (now : Nat) :
    StateMachine × Option StatusTransition :=
  let candidate := classification.status
  if state.published = .bad then
    if candidate = .bad then ({ state with recoverySince := none }, none)
    else
      let recoverySince := state.recoverySince.getD now
      if now - recoverySince < recoveryPersistence then
        ({ state with recoverySince := some recoverySince }, none)
      else
        ({ published := candidate, badSince := none, recoverySince := none, alertEligible := true },
          some
            { previous := state.published
              current := candidate
              reasons := classification.reasons
              alertEligible := true })
  else if candidate = .bad then
    let badSince := state.badSince.getD now
    if now - badSince < badPersistence then ({ state with badSince := some badSince }, none)
    else
      ({ state with published := .bad, badSince := some badSince, alertEligible := false },
        some
          { previous := state.published
            current := .bad
            reasons := classification.reasons
            alertEligible := state.alertEligible })
  else if candidate = state.published then
    ({ state with badSince := none, recoverySince := none }, none)
  else
    ({ state with published := candidate, badSince := none, recoverySince := none },
      some
        { previous := state.published
          current := candidate
          reasons := classification.reasons
          alertEligible := state.alertEligible })

end StateMachine

structure Evaluation where
  classification : Classification
  now : Nat
  deriving DecidableEq

def evaluated (history : List Evaluation) : StateMachine :=
  history.foldl (fun state event => (state.evaluate event.classification event.now).1) {}

def transitionAfter (history : List Evaluation) (event : Evaluation) : Option StatusTransition :=
  ((evaluated history).evaluate event.classification event.now).2

theorem evaluated_snoc (history : List Evaluation) (event : Evaluation) :
    evaluated (history ++ [event]) =
      ((evaluated history).evaluate event.classification event.now).1 := by
  rw [evaluated, evaluated, List.foldl_append]
  rfl

def Streak (holds : Quality → Prop) (history : List Evaluation) (since : Nat) : Prop :=
  ∃ earlier first later, history = earlier ++ first :: later ∧ first.now = since ∧
    ∀ event ∈ first :: later, holds event.classification.status

variable {history : List Evaluation} {event : Evaluation}

theorem streak_begun {holds : Quality → Prop} (history : List Evaluation)
    (holding : holds event.classification.status) : Streak holds (history ++ [event]) event.now :=
  ⟨history, event, [], rfl, rfl, by simpa using holding⟩

theorem Streak.snoc {holds : Quality → Prop} {since : Nat} (streak : Streak holds history since)
    (holding : holds event.classification.status) : Streak holds (history ++ [event]) since := by
  obtain ⟨earlier, first, later, split, time, all⟩ := streak
  refine ⟨earlier, first, later ++ [event], by simp [split], time, ?_⟩
  intro other member
  rw [← List.cons_append, List.mem_append, List.mem_singleton] at member
  cases member with
  | inl old => exact all other old
  | inr new => exact new ▸ holding

theorem streak_since {holds : Quality → Prop} {timer : Option Nat}
    (running : ∀ since, timer = some since → Streak holds history since)
    (holding : holds event.classification.status) :
    Streak holds (history ++ [event]) (timer.getD event.now) := by
  cases timer with
  | none => exact streak_begun history holding
  | some since => exact (running since rfl).snoc holding

structure Tracks (history : List Evaluation) (state : StateMachine) : Prop where
  badSince : state.published ≠ .bad → ∀ since, state.badSince = some since →
    Streak (fun status => status = .bad) history since
  recoverySince : ∀ since, state.recoverySince = some since →
    state.published = .bad ∧ Streak (fun status => status ≠ .bad) history since
  alertEligible : state.alertEligible = true ↔ state.published ≠ .bad

theorem tracks_evaluate {state : StateMachine} (tracks : Tracks history state)
    (event : Evaluation) :
    Tracks (history ++ [event]) (state.evaluate event.classification event.now).1 := by
  simp only [StateMachine.evaluate]
  split_ifs with isBad candidateBad early candidateBad early same
  · exact ⟨fun away => absurd isBad away, by simp, tracks.alertEligible⟩
  · refine ⟨fun away => absurd isBad away, ?_, tracks.alertEligible⟩
    intro since running
    rw [← Option.some.inj running]
    exact ⟨isBad, streak_since (fun since at_since => (tracks.recoverySince since at_since).2)
      candidateBad⟩
  · exact ⟨by simp, by simp, by simpa using candidateBad⟩
  · have resting : ∀ since, state.recoverySince ≠ some since :=
      fun since running => isBad (tracks.recoverySince since running).1
    refine ⟨?_, fun since running => absurd running (resting since), tracks.alertEligible⟩
    intro _ since running
    rw [← Option.some.inj running]
    exact streak_since (tracks.badSince isBad) candidateBad
  · have resting : ∀ since, state.recoverySince ≠ some since :=
      fun since running => isBad (tracks.recoverySince since running).1
    exact ⟨by simp, fun since running => absurd running (resting since), by simp⟩
  · exact ⟨by simp, by simp, tracks.alertEligible⟩
  · exact ⟨by simp, by simp, by simpa [candidateBad] using tracks.alertEligible.mpr isBad⟩

theorem tracks_evaluated (history : List Evaluation) : Tracks history (evaluated history) := by
  induction history using List.reverseRecOn with
  | nil => exact ⟨by simp [evaluated], by simp [evaluated], by simp [evaluated]⟩
  | append_singleton history event ih =>
      rw [evaluated_snoc]
      exact tracks_evaluate ih event

theorem evaluate_transition (state : StateMachine) (classification : Classification) (now : Nat) :
    (state.evaluate classification now).2 =
      if (state.evaluate classification now).1.published = state.published then none
      else
        some
          { previous := state.published
            current := (state.evaluate classification now).1.published
            reasons := classification.reasons
            alertEligible := state.alertEligible || state.published = .bad } := by
  simp only [StateMachine.evaluate]
  split_ifs <;> simp_all

def EntersBad (history : List Evaluation) (event : Evaluation) : Prop :=
  (evaluated history).published ≠ .bad ∧ (evaluated (history ++ [event])).published = .bad

def LeavesBad (history : List Evaluation) (event : Evaluation) : Prop :=
  (evaluated history).published = .bad ∧ (evaluated (history ++ [event])).published ≠ .bad

theorem transitionAfter_eq (history : List Evaluation) (event : Evaluation) :
    transitionAfter history event =
      if (evaluated (history ++ [event])).published = (evaluated history).published then none
      else
        some
          { previous := (evaluated history).published
            current := (evaluated (history ++ [event])).published
            reasons := event.classification.reasons
            alertEligible := true } := by
  have armed : ((evaluated history).alertEligible ||
      decide ((evaluated history).published = .bad)) = true := by
    have tracked := (tracks_evaluated history).alertEligible
    cases flag : (evaluated history).alertEligible with
    | true => rfl
    | false => simpa [flag] using tracked
  rw [transitionAfter, evaluate_transition, evaluated_snoc, armed]

theorem entersBad_streak (enters : EntersBad history event) :
    ∃ since, Streak (fun status => status = .bad) (history ++ [event]) since ∧
      since + badPersistence ≤ event.now := by
  obtain ⟨away, arrived⟩ := enters
  rw [evaluated_snoc] at arrived
  simp only [StateMachine.evaluate, if_neg away] at arrived
  split_ifs at arrived with candidateBad early same
  · exact absurd arrived away
  · refine ⟨_, streak_since ((tracks_evaluated history).badSince away) candidateBad, ?_⟩
    have positive : 0 < badPersistence := by decide
    omega
  · exact absurd arrived away
  · exact absurd arrived candidateBad

theorem leavesBad_streak (leaves : LeavesBad history event) :
    ∃ since, Streak (fun status => status ≠ .bad) (history ++ [event]) since ∧
      since + recoveryPersistence ≤ event.now := by
  obtain ⟨there, left⟩ := leaves
  rw [evaluated_snoc] at left
  simp only [StateMachine.evaluate, if_pos there] at left
  split_ifs at left with candidateBad early
  · exact absurd there left
  · exact absurd there left
  · refine ⟨_, streak_since (fun since running =>
      ((tracks_evaluated history).recoverySince since running).2) candidateBad, ?_⟩
    have positive : 0 < recoveryPersistence := by decide
    omega

theorem exists_leavesBad (history : List Evaluation) {later : List Evaluation}
    (there : (evaluated history).published = .bad)
    (gone : (evaluated (history ++ later)).published ≠ .bad) :
    ∃ before event after, later = before ++ event :: after ∧
      LeavesBad (history ++ before) event := by
  induction later generalizing history with
  | nil => exact absurd (by simpa using there) gone
  | cons event rest ih =>
      by_cases still : (evaluated (history ++ [event])).published = .bad
      · obtain ⟨before, leaving, after, split, leaves⟩ := ih (history ++ [event]) still
          (by simpa using gone)
        exact ⟨event :: before, leaving, after, by simp [split], by simpa using leaves⟩
      · exact ⟨[], event, rest, rfl, by simpa [LeavesBad] using And.intro there still⟩

/-- What is published changes with the transitions alone. BAD is entered after five seconds of
BAD candidates and left after ten without one, and each entry is eligible for an alert. -/
theorem quality_hysteresis (history : List Evaluation) (event : Evaluation) :
    (∀ change, transitionAfter history event = some change →
        change.previous = (evaluated history).published ∧
          change.current = (evaluated (history ++ [event])).published ∧
          change.previous ≠ change.current) ∧
      (transitionAfter history event = none →
        (evaluated (history ++ [event])).published = (evaluated history).published) ∧
      (EntersBad history event →
        (∃ change, transitionAfter history event = some change ∧ change.alertEligible = true) ∧
          ∃ earlier first later, history ++ [event] = earlier ++ first :: later ∧
            first.now + badPersistence ≤ event.now ∧
            ∀ other ∈ first :: later, other.classification.status = .bad) ∧
      (LeavesBad history event →
        ∃ earlier first later, history ++ [event] = earlier ++ first :: later ∧
          first.now + recoveryPersistence ≤ event.now ∧
          ∀ other ∈ first :: later, other.classification.status ≠ .bad) ∧
      ∀ between next, EntersBad history event →
        EntersBad (history ++ event :: between) next →
        ∃ before recovery after, between = before ++ recovery :: after ∧
          LeavesBad (history ++ event :: before) recovery := by
  refine ⟨?_, ?_, ?_, ?_, ?_⟩
  · intro change made
    rw [transitionAfter_eq] at made
    split_ifs at made with same
    rw [← Option.some.inj made]
    exact ⟨rfl, rfl, Ne.symm same⟩
  · intro quiet
    rw [transitionAfter_eq] at quiet
    by_contra changed
    simp [changed] at quiet
  · intro enters
    have changed : (evaluated (history ++ [event])).published ≠ (evaluated history).published := by
      rw [enters.2]
      exact Ne.symm enters.1
    refine ⟨⟨_, by rw [transitionAfter_eq, if_neg changed], rfl⟩, ?_⟩
    obtain ⟨since, ⟨earlier, first, later, split, time, all⟩, long⟩ := entersBad_streak enters
    exact ⟨earlier, first, later, split, by rw [time]; exact long, all⟩
  · intro leaves
    obtain ⟨since, ⟨earlier, first, later, split, time, all⟩, long⟩ := leavesBad_streak leaves
    exact ⟨earlier, first, later, split, by rw [time]; exact long, all⟩
  · intro between next enters again
    obtain ⟨before, recovery, after, split, leaves⟩ :=
      exists_leavesBad (history ++ [event]) enters.2 (by simpa using again.1)
    exact ⟨before, recovery, after, split, by simpa using leaves⟩

end Noland.Network
