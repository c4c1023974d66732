import Mathlib.Data.List.Basic

/-!
The runs of a machine are those in which every event meets a condition on the state it is taken
in.
-/

namespace Noland.Machine

variable {State Event : Type}

inductive Reached (step : State → Event → State) (starts : State → Prop)
    (meets : State → Event → Prop) : State → Prop where
  | start {state : State} (begins : starts state) : Reached step starts meets state
  | next {state : State} (event : Event) (reached : Reached step starts meets state)
      (met : meets state event) : Reached step starts meets (step state event)

variable {step : State → Event → State} {starts : State → Prop} {meets : State → Event → Prop}
  {state : State}

theorem Reached.invariant {holds : State → Prop} (initial : ∀ state, starts state → holds state)
    (kept : ∀ state event, Reached step starts meets state → holds state → meets state event →
      holds (step state event))
    (reached : Reached step starts meets state) : holds state := by
  induction reached with
  | start begins => exact initial _ begins
  | next event before met ih => exact kept _ event before ih met

def Along (step : State → Event → State) (meets : State → Event → Prop) :
    State → List Event → Prop
  | _, [] => True
  | state, event :: rest => meets state event ∧ Along step meets (step state event) rest

instance decidableAlong (step : State → Event → State) (meets : State → Event → Prop)
    [∀ state event, Decidable (meets state event)] :
    ∀ state events, Decidable (Along step meets state events)
  | _, [] => .isTrue trivial
  | state, event :: rest =>
      @instDecidableAnd _ _ _ (decidableAlong step meets (step state event) rest)

theorem Reached.along (reached : Reached step starts meets state) {events : List Event}
    (met : Along step meets state events) :
    Reached step starts meets (events.foldl step state) := by
  induction events generalizing state with
  | nil => exact reached
  | cons event rest ih => exact ih (reached.next event met.1) met.2

theorem Reached.run (reached : Reached step starts meets state) {events : List Event}
    (met : ∀ event ∈ events, ∀ state, meets state event) :
    Reached step starts meets (events.foldl step state) := by
  apply reached.along
  clear reached
  induction events generalizing state with
  | nil => trivial
  | cons event rest ih =>
      refine ⟨met event List.mem_cons_self state, ih ?_⟩
      intro later member
      exact met later (List.mem_cons_of_mem _ member)

def Throughout (step : State → Event → State) (holds : State → Prop) :
    State → List Event → Prop
  | state, [] => holds state
  | state, event :: rest => holds state ∧ Throughout step holds (step state event) rest

theorem Throughout.start {holds : State → Prop} {events : List Event}
    (throughout : Throughout step holds state events) : holds state := by
  cases events with
  | nil => exact throughout
  | cons event rest => exact throughout.1

theorem throughout_of_along {invariant holds : State → Prop}
    (kept : ∀ state event, invariant state → meets state event → invariant (step state event))
    (safe : ∀ state, invariant state → holds state) (start : invariant state)
    {events : List Event} (along : Along step meets state events) :
    Throughout step holds state events := by
  induction events generalizing state with
  | nil => exact safe state start
  | cons event rest ih =>
      exact ⟨safe state start, ih (kept state event start along.1) along.2⟩

/-- With an invariant that is kept by the events that meet the condition, and with a property
that the others break, the property holds throughout exactly the runs that meet it. The events
may be assumed to be of a kind. -/
theorem throughout_iff_along_of_along {invariant holds : State → Prop}
    {assumed : State → Event → Prop}
    (kept : ∀ state event, invariant state → assumed state event → meets state event →
      invariant (step state event))
    (safe : ∀ state, invariant state → holds state)
    (broken : ∀ state event, invariant state → assumed state event → ¬ meets state event →
      ¬ holds (step state event))
    (start : invariant state) {events : List Event} (given : Along step assumed state events) :
    Throughout step holds state events ↔ Along step meets state events := by
  induction events generalizing state with
  | nil => exact iff_of_true (safe state start) trivial
  | cons event rest ih =>
      obtain ⟨first, others⟩ := given
      constructor
      · intro throughout
        have met : meets state event := by
          by_contra violated
          exact broken state event start first violated throughout.2.start
        exact ⟨met, (ih (kept state event start first met) others).mp throughout.2⟩
      · intro along
        exact ⟨safe state start,
          (ih (kept state event start first along.1) others).mpr along.2⟩

theorem along_of_forall (met : ∀ state event, meets state event) (events : List Event) :
    Along step meets state events := by
  induction events generalizing state with
  | nil => trivial
  | cons event rest ih => exact ⟨met state event, ih⟩

theorem throughout_iff_along {invariant holds : State → Prop}
    (kept : ∀ state event, invariant state → meets state event → invariant (step state event))
    (safe : ∀ state, invariant state → holds state)
    (broken : ∀ state event, invariant state → ¬ meets state event → ¬ holds (step state event))
    (start : invariant state) (events : List Event) :
    Throughout step holds state events ↔ Along step meets state events :=
  throughout_iff_along_of_along
    (fun state event holds (_ : True) => kept state event holds) safe
    (fun state event holds _ => broken state event holds) start
    (along_of_forall (fun _ _ => trivial) events)

theorem along_iff_along {invariant : State → Prop} {upholds : State → Event → Prop}
    (kept : ∀ state event, invariant state → meets state event → invariant (step state event))
    (same : ∀ state event, invariant state → (upholds state event ↔ meets state event))
    (start : invariant state) (events : List Event) :
    Along step upholds state events ↔ Along step meets state events := by
  induction events generalizing state with
  | nil => exact Iff.rfl
  | cons event rest ih =>
      simp only [Along]
      constructor
      · rintro ⟨upheld, along⟩
        have met := (same state event start).mp upheld
        exact ⟨met, (ih (kept state event start met)).mp along⟩
      · rintro ⟨met, along⟩
        exact ⟨(same state event start).mpr met, (ih (kept state event start met)).mpr along⟩

end Noland.Machine
