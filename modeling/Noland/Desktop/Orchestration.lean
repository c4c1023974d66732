import Mathlib.Logic.Function.Basic
import Noland.Lib.Machine

/-!
The guard, the pending request and the cancel flag are three cells; every task goes on by itself
between its accesses to them, and the lock of the guard is held while a request is put into the
pending slot. The numbers say in which order the requests came to the guard.
-/

namespace Noland.Desktop

open Noland.Machine

inductive OrchestrationStartRequest where
  | selectedOffer
  | existingInstance (instanceId : Nat)
  deriving DecidableEq

structure StartRequest where
  number : Nat
  request : OrchestrationStartRequest
  deriving DecidableEq

inductive StartTask where
  | handing (start : StartRequest)
  | queueing (start : StartRequest)
  | signalling (start : StartRequest)
  | checking (start : StartRequest) (queued : Bool)
  | failed (start : StartRequest) (queued : Bool)
  | running (start : StartRequest)
  | ended (start : StartRequest)
  | released
  | finished
  deriving DecidableEq

structure Orchestrator where
  orchestrationGuard : Bool := false
  cancelRequested : Bool := false
  pendingStart : Option StartRequest := none
  lock : Option Nat := none
  tasks : Nat → Option StartTask := fun _ => none
  made : Nat := 0
  /-- The task and the number of the request that the guard was taken for. -/
  holder : Option (Nat × Nat) := none
  /-- A stop or a switch was requested since the guard was taken. -/
  asked : Bool := false
  ran : List Nat := []
  refused : List Nat := []
  superseded : List (Nat × Nat) := []

namespace Orchestrator

def move (state : Orchestrator) (id : Nat) (task : StartTask) : Orchestrator :=
  { state with tasks := Function.update state.tasks id (some task) }

def lockGuard (state : Orchestrator) (id : Nat) (start : StartRequest) (queued : Bool) :
    Orchestrator :=
  if state.orchestrationGuard then { state.move id (.queueing start) with lock := some id }
  else
    { state.move id (.checking start queued) with
      orchestrationGuard := true
      holder := some (id, start.number)
      asked := false }

def supersedes (state : Orchestrator) (start : StartRequest) : List (Nat × Nat) :=
  state.pendingStart.toList.map (fun before => (before.number, start.number)) ++
    state.holder.toList.map fun held => (held.2, start.number)

/-- The next step of a task. The outcome says whether a health check succeeds, and whether a run
ends by itself or comes to a cancellation check. -/
def advance (state : Orchestrator) (id : Nat) (outcome : Bool) : Orchestrator :=
  match state.tasks id with
  | some (.handing start) =>
      if state.lock.isSome then state else state.lockGuard id start true
  | some (.queueing start) =>
      { state.move id (.signalling start) with
        pendingStart := some start
        superseded := state.superseded ++ state.supersedes start }
  | some (.signalling _) =>
      { state.move id .finished with cancelRequested := true, asked := true, lock := none }
  | some (.checking start queued) =>
      if outcome then
        { state.move id (.running start) with
          cancelRequested := false
          ran := start.number :: state.ran }
      else state.move id (.failed start queued)
  | some (.failed start queued) =>
      if state.lock.isSome then state
      else
        { state.move id .finished with
          orchestrationGuard := false
          holder := none
          refused := if queued then state.refused else start.number :: state.refused }
  | some (.running start) =>
      if outcome ∨ state.cancelRequested then state.move id (.ended start) else state
  | some (.ended _) =>
      if state.lock.isSome then state
      else { state.move id .released with orchestrationGuard := false, holder := none }
  | some .released =>
      match state.pendingStart with
      | some start => { state.move id (.handing start) with pendingStart := none }
      | none => state.move id .finished
  | some .finished | none => state

def requestStart (state : Orchestrator) (id : Nat) (request : OrchestrationStartRequest) :
    Orchestrator :=
  if (state.tasks id).isSome ∨ state.lock.isSome then state
  else
    { state.lockGuard id { number := state.made, request := request } false with
      made := state.made + 1 }

end Orchestrator

inductive OrchestrationEvent where
  | request (id : Nat) (request : OrchestrationStartRequest)
  | advance (id : Nat) (outcome : Bool)
  | stop

def orchestrationStep (state : Orchestrator) : OrchestrationEvent → Orchestrator
  | .request id request => state.requestStart id request
  | .advance id outcome => state.advance id outcome
  | .stop => { state with cancelRequested := true, asked := true }

def AtMostOneRun (state : Orchestrator) : Prop :=
  ∀ one other first second, state.tasks one = some (.running first) →
    state.tasks other = some (.running second) → one = other

def Quiet (state : Orchestrator) : Prop :=
  ∀ id task, state.tasks id = some task → task = .finished

/-- Once nothing is under way any more, every request that was not refused has run or was
superseded by a later one. -/
def EveryRequestSettled (state : Orchestrator) : Prop :=
  Quiet state → ∀ number < state.made, number ∉ state.refused →
    number ∈ state.ran ∨ ∃ later, number < later ∧ (number, later) ∈ state.superseded

def LastOneWins (state : Orchestrator) : Prop :=
  ∀ pair ∈ state.superseded, pair.1 < pair.2

/-- A run that was asked to stop ends at its next cancellation check. -/
def Heeds (state : Orchestrator) : Prop :=
  ∀ id start, state.tasks id = some (.running start) → state.asked = true →
    (orchestrationStep state (.advance id false)).tasks id = some (.ended start)

/-- Nobody is between the end of a run and the request that follows it. -/
structure NothingHandedOver (state : Orchestrator) : Prop where
  taken : ∀ id start, state.tasks id ≠ some (.handing start)
  waiting : state.pendingStart ≠ none → ∀ id, state.tasks id ≠ some .released

/-- Requests come while nothing is handed over, a health check succeeds only when no stop or
switch was requested since it began, and none fails for a queued request or while one waits. -/
def UndisturbedStart (state : Orchestrator) : OrchestrationEvent → Prop
  | .request _ _ => NothingHandedOver state
  | .advance id outcome =>
      match state.tasks id with
      | some (.checking _ _) => outcome = true → state.asked = false
      | some (.failed _ queued) => state.lock = none → queued = false ∧ state.pendingStart = none
      | _ => True
  | .stop => True

def StartTask.holds : StartTask → Option Nat
  | .checking start _ | .failed start _ | .running start | .ended start => some start.number
  | _ => none

def StartTask.locks : StartTask → Bool
  | .queueing _ | .signalling _ => true
  | _ => false

/-- The guard is held by the task that took it, and locked by the one that queues. -/
structure Held (state : Orchestrator) : Prop where
  guarded : state.orchestrationGuard = state.holder.isSome
  holder : ∀ id task number, state.tasks id = some task → task.holds = some number →
    state.holder = some (id, number)
  owner : ∀ id number, state.holder = some (id, number) →
    ∃ task, state.tasks id = some task ∧ task.holds = some number
  lock : ∀ id task, state.tasks id = some task → task.locks = true → state.lock = some id
  locked : ∀ id, state.lock = some id → state.orchestrationGuard = true ∧
    ∃ task, state.tasks id = some task ∧ task.locks = true

inductive Advances (state : Orchestrator) (id : Nat) (outcome : Bool) : Orchestrator → Prop where
  | idle : Advances state id outcome state
  | hands (start : StartRequest) (here : state.tasks id = some (.handing start))
      (free : state.lock = none) :
      Advances state id outcome (state.lockGuard id start true)
  | puts (start : StartRequest) (here : state.tasks id = some (.queueing start)) :
      Advances state id outcome
        { state.move id (.signalling start) with
          pendingStart := some start
          superseded := state.superseded ++ state.supersedes start }
  | signals (start : StartRequest) (here : state.tasks id = some (.signalling start)) :
      Advances state id outcome
        { state.move id .finished with cancelRequested := true, asked := true, lock := none }
  | passes (start : StartRequest) (queued : Bool)
      (here : state.tasks id = some (.checking start queued)) (ok : outcome = true) :
      Advances state id outcome
        { state.move id (.running start) with
          cancelRequested := false
          ran := start.number :: state.ran }
  | fails (start : StartRequest) (queued : Bool)
      (here : state.tasks id = some (.checking start queued)) :
      Advances state id outcome (state.move id (.failed start queued))
  | gives (start : StartRequest) (queued : Bool)
      (here : state.tasks id = some (.failed start queued)) (free : state.lock = none) :
      Advances state id outcome
        { state.move id .finished with
          orchestrationGuard := false
          holder := none
          refused := if queued then state.refused else start.number :: state.refused }
  | ends (start : StartRequest) (here : state.tasks id = some (.running start)) :
      Advances state id outcome (state.move id (.ended start))
  | releases (start : StartRequest) (here : state.tasks id = some (.ended start))
      (free : state.lock = none) :
      Advances state id outcome
        { state.move id .released with orchestrationGuard := false, holder := none }
  | takes (start : StartRequest) (here : state.tasks id = some .released)
      (waiting : state.pendingStart = some start) :
      Advances state id outcome { state.move id (.handing start) with pendingStart := none }
  | leaves (here : state.tasks id = some .released) (empty : state.pendingStart = none) :
      Advances state id outcome (state.move id .finished)

section Steps

variable {state : Orchestrator} {id : Nat} {outcome : Bool}

theorem Orchestrator.moved {task found : StartTask} {other : Nat}
    (here : (state.move id task).tasks other = some found) :
    (other = id ∧ found = task) ∨ (other ≠ id ∧ state.tasks other = some found) := by
  by_cases same : other = id
  · subst same
    rw [show (state.move other task).tasks other = some task from Function.update_self ..] at here
    exact Or.inl ⟨rfl, (Option.some.inj here).symm⟩
  · rw [show (state.move id task).tasks other = state.tasks other from
      Function.update_of_ne same ..] at here
    exact Or.inr ⟨same, here⟩

theorem advance_cases (state : Orchestrator) (id : Nat) (outcome : Bool) :
    Advances state id outcome (state.advance id outcome) := by
  unfold Orchestrator.advance
  cases here : state.tasks id with
  | none => exact .idle
  | some task =>
      cases task with
      | handing start =>
          dsimp only
          split
          · exact .idle
          · next free => exact .hands start here (by simpa using free)
      | queueing start => exact .puts start here
      | signalling start => exact .signals start here
      | checking start queued =>
          dsimp only
          split
          · next ok => exact .passes start queued here ok
          · exact .fails start queued here
      | failed start queued =>
          dsimp only
          split
          · exact .idle
          · next free => exact .gives start queued here (by simpa using free)
      | running start =>
          dsimp only
          split
          · exact .ends start here
          · exact .idle
      | ended start =>
          dsimp only
          split
          · exact .idle
          · next free => exact .releases start here (by simpa using free)
      | released =>
          cases waiting : state.pendingStart with
          | none => exact .leaves here waiting
          | some start => exact .takes start here waiting
      | finished => exact .idle

variable {later : Orchestrator}

theorem Held.goes_on (held : Held state) (task : StartTask) {old : StartTask}
    (here : state.tasks id = some old) (same : task.holds = old.holds)
    (tasks : later.tasks = (state.move id task).tasks)
    (guard : later.orchestrationGuard = state.orchestrationGuard)
    (holder : later.holder = state.holder)
    (lock : later.lock = if task.locks then some id else if old.locks then none else state.lock)
    (kept : task.locks = true → old.locks = true) : Held later where
  guarded := by rw [guard, holder, held.guarded]
  holder := by
    intro other found number there named
    rw [tasks] at there
    rw [holder]
    rcases Orchestrator.moved there with ⟨rfl, rfl⟩ | ⟨_, before⟩
    · exact held.holder other old number here (same ▸ named)
    · exact held.holder other found number before named
  owner := by
    intro other number holds
    rw [holder] at holds
    rw [tasks]
    obtain ⟨found, there, named⟩ := held.owner other number holds
    by_cases mine : other = id
    · subst mine
      rw [here] at there
      cases there
      exact ⟨task, Function.update_self .., same ▸ named⟩
    · exact ⟨found, (Function.update_of_ne mine ..).trans there, named⟩
  lock := by
    intro other found there locks
    rw [tasks] at there
    rw [lock]
    rcases Orchestrator.moved there with ⟨rfl, rfl⟩ | ⟨apart, before⟩
    · rw [if_pos locks]
    · have locked := held.lock other found before locks
      by_cases mine : old.locks = true
      · rw [held.lock id old here mine] at locked
        exact absurd (Option.some.inj locked).symm apart
      · rw [if_neg fun locks => mine (kept locks), if_neg mine]
        exact locked
  locked := by
    intro other taken
    rw [guard, tasks]
    rw [lock] at taken
    by_cases still : task.locks = true
    · rw [if_pos still] at taken
      cases taken
      have mine := held.lock id old here (kept still)
      exact ⟨(held.locked id mine).1, task, Function.update_self .., still⟩
    · rw [if_neg still] at taken
      by_cases mine : old.locks = true
      · rw [if_pos mine] at taken
        cases taken
      · rw [if_neg mine] at taken
        obtain ⟨guarded, found, there, locks⟩ := held.locked other taken
        refine ⟨guarded, found, ?_, locks⟩
        have apart : other ≠ id := by
          intro same
          subst same
          rw [here] at there
          cases there
          exact mine locks
        exact (Function.update_of_ne apart ..).trans there

theorem Held.gives_back (held : Held state) {old task : StartTask} {number : Nat}
    (here : state.tasks id = some old) (holds : old.holds = some number)
    (none : task.holds = none) (unlocked : task.locks = false) (free : state.lock = .none)
    (tasks : later.tasks = (state.move id task).tasks) (guard : later.orchestrationGuard = false)
    (holder : later.holder = .none) (lock : later.lock = state.lock) : Held later where
  guarded := by rw [guard, holder]; rfl
  holder := by
    intro other found held_number there named
    rw [tasks] at there
    rcases Orchestrator.moved there with ⟨rfl, rfl⟩ | ⟨apart, before⟩
    · rw [none] at named
      cases named
    · have mine := held.holder id old number here holds
      rw [held.holder other found held_number before named] at mine
      injection mine with pair
      exact absurd (congrArg Prod.fst pair) apart
  owner := by
    intro other held_number holds
    rw [holder] at holds
    cases holds
  lock := by
    intro other found there locks
    rw [tasks] at there
    rcases Orchestrator.moved there with ⟨rfl, rfl⟩ | ⟨_, before⟩
    · rw [unlocked] at locks
      cases locks
    · have locked := held.lock other found before locks
      rw [free] at locked
      cases locked
  locked := by
    intro other taken
    rw [lock, free] at taken
    cases taken

theorem Held.lockGuard (held : Held state) (free : state.lock = none) {start : StartRequest}
    {queued : Bool}
    (fresh : ∀ task, state.tasks id = some task → task.holds = none ∧ task.locks = false) :
    Held (state.lockGuard id start queued) := by
  have unlocked : ∀ other task, state.tasks other = some task → task.locks = false := by
    intro other task there
    apply Bool.eq_false_iff.mpr
    intro locks
    have locked := held.lock other task there locks
    rw [free] at locked
    cases locked
  unfold Orchestrator.lockGuard
  split
  · next taken =>
    constructor
    · exact held.guarded
    · intro other found number there named
      rcases Orchestrator.moved there with ⟨rfl, rfl⟩ | ⟨_, before⟩
      · cases named
      · exact held.holder other found number before named
    · intro other number holds
      obtain ⟨found, there, named⟩ := held.owner other number holds
      have apart : other ≠ id := by
        intro same
        subst same
        rw [(fresh found there).1] at named
        cases named
      exact ⟨found, (Function.update_of_ne apart ..).trans there, named⟩
    · intro other found there locks
      rcases Orchestrator.moved there with ⟨rfl, _⟩ | ⟨_, before⟩
      · rfl
      · rw [unlocked other found before] at locks
        cases locks
    · intro other locks
      cases locks
      exact ⟨taken, .queueing start, Function.update_self .., rfl⟩
  · next untaken =>
    have nobody : state.holder = none := by
      have guarded := held.guarded
      rw [Bool.eq_false_iff.mpr untaken] at guarded
      exact Option.isNone_iff_eq_none.mp (by simpa using guarded.symm)
    constructor
    · rfl
    · intro other found number there named
      rcases Orchestrator.moved there with ⟨rfl, rfl⟩ | ⟨_, before⟩
      · cases named
        rfl
      · have holder := held.holder other found number before named
        rw [nobody] at holder
        cases holder
    · intro other number holds
      cases holds
      exact ⟨.checking start queued, Function.update_self .., rfl⟩
    · intro other found there locks
      rcases Orchestrator.moved there with ⟨rfl, rfl⟩ | ⟨_, before⟩
      · cases locks
      · rw [unlocked other found before] at locks
        cases locks
    · intro other locks
      have locked : state.lock = some other := locks
      rw [free] at locked
      cases locked

theorem Held.advances (held : Held state) (step : Advances state id outcome later) :
    Held later := by
  cases step with
  | idle => exact held
  | hands start here free =>
      apply held.lockGuard free
      intro task there
      rw [here] at there
      cases there
      exact ⟨rfl, rfl⟩
  | puts start here =>
      exact held.goes_on (.signalling start) here rfl rfl rfl rfl (held.lock id _ here rfl)
        (fun _ => rfl)
  | signals start here => exact held.goes_on .finished here rfl rfl rfl rfl rfl nofun
  | passes start queued here ok =>
      exact held.goes_on (.running start) here rfl rfl rfl rfl rfl nofun
  | fails start queued here =>
      exact held.goes_on (.failed start queued) here rfl rfl rfl rfl rfl nofun
  | gives start queued here free => exact held.gives_back here rfl rfl rfl free rfl rfl rfl rfl
  | ends start here => exact held.goes_on (.ended start) here rfl rfl rfl rfl rfl nofun
  | releases start here free => exact held.gives_back here rfl rfl rfl free rfl rfl rfl rfl
  | takes start here waiting => exact held.goes_on (.handing start) here rfl rfl rfl rfl rfl nofun
  | leaves here empty => exact held.goes_on .finished here rfl rfl rfl rfl rfl nofun

theorem requestStart_cases (state : Orchestrator) (id : Nat)
    (request : OrchestrationStartRequest) :
    state.requestStart id request = state ∨
      state.tasks id = none ∧ state.lock = none ∧
        state.requestStart id request =
          { state.lockGuard id { number := state.made, request := request } false with
            made := state.made + 1 } := by
  unfold Orchestrator.requestStart
  split
  · exact Or.inl rfl
  · next comes =>
    right
    simp only [not_or, Bool.not_eq_true, Option.isSome_eq_false_iff,
      Option.isNone_iff_eq_none] at comes
    exact ⟨comes.1, comes.2, rfl⟩

theorem Held.step (held : Held state) (event : OrchestrationEvent) :
    Held (orchestrationStep state event) := by
  cases event with
  | advance id outcome => exact held.advances (advance_cases state id outcome)
  | stop => exact ⟨held.guarded, held.holder, held.owner, held.lock, held.locked⟩
  | request id request =>
      show Held (state.requestStart id request)
      rcases requestStart_cases state id request with idle | ⟨fresh, free, comes⟩
      · rw [idle]
        exact held
      · have locked : Held (state.lockGuard id ⟨state.made, request⟩ false) :=
          held.lockGuard free fun task there => nomatch fresh.symm.trans there
        rw [comes]
        exact ⟨locked.guarded, locked.holder, locked.owner, locked.lock, locked.locked⟩

theorem Held.nobody_queues (held : Held state) (free : state.lock = none) (other : Nat)
    (start : StartRequest) : state.tasks other ≠ some (.queueing start) := by
  intro there
  have locked := held.lock other _ there rfl
  rw [free] at locked
  cases locked

theorem Held.queues_alone (held : Held state) {other : Nat} {start later : StartRequest}
    (here : state.tasks id = some (.queueing start))
    (there : state.tasks other = some (.queueing later)) : other = id := by
  have mine := held.lock id _ here rfl
  rw [held.lock other _ there rfl] at mine
  exact Option.some.inj mine

/-- The request that waits is the latest one, and only one is on its way to the guard. -/
structure Ordered (state : Orchestrator) : Prop where
  handing : ∀ id start, state.tasks id = some (.handing start) →
    start.number + 1 = state.made ∧ state.pendingStart = none ∧
      (∀ other later, state.tasks other = some (.handing later) → other = id) ∧
      ∀ other later, state.tasks other ≠ some (.queueing later)
  queueing : ∀ id start, state.tasks id = some (.queueing start) →
    start.number + 1 = state.made ∧ ∀ before, state.pendingStart = some before →
      before.number < start.number ∧ ∀ other, state.tasks other ≠ some .released
  waiting : ∀ start, state.pendingStart = some start →
    (∀ other later, state.tasks other ≠ some (.queueing later)) →
    start.number + 1 = state.made
  held : ∀ owner number, state.holder = some (owner, number) → number < state.made ∧
    (∀ start, state.pendingStart = some start → number < start.number) ∧
    ∀ id start, state.tasks id = some (.handing start) ∨ state.tasks id = some (.queueing start) →
      number < start.number
  awaited : state.pendingStart ≠ none →
    state.orchestrationGuard = true ∨ ∃ id, state.tasks id = some .released
  superseded : LastOneWins state

def StartTask.comes : StartTask → Bool
  | .handing _ | .queueing _ => true
  | _ => false

theorem Orchestrator.same_coming {old task found : StartTask} (here : state.tasks id = some old)
    (before : old.comes = false) (after : task.comes = false) (comes : found.comes = true)
    (other : Nat) :
    (state.move id task).tasks other = some found ↔ state.tasks other = some found := by
  by_cases same : other = id
  · subst same
    rw [show (state.move other task).tasks other = some task from Function.update_self .., here]
    constructor
    · intro there
      rw [Option.some.inj there, comes] at after
      cases after
    · intro there
      rw [Option.some.inj there, comes] at before
      cases before
  · rw [show (state.move id task).tasks other = state.tasks other from
      Function.update_of_ne same ..]

theorem Ordered.aside (ordered : Ordered state)
    (coming : ∀ task other, task.comes = true →
      (later.tasks other = some task ↔ state.tasks other = some task))
    (released : (∀ other start, state.tasks other ≠ some (.queueing start)) ∨
      ∀ other, later.tasks other = some .released → state.tasks other = some .released)
    (awaited : later.pendingStart ≠ none →
      later.orchestrationGuard = true ∨ ∃ id, later.tasks id = some .released)
    (pending : later.pendingStart = state.pendingStart) (made : later.made = state.made)
    (holder : later.holder = state.holder ∨ later.holder = none)
    (superseded : later.superseded = state.superseded) : Ordered later where
  handing := by
    intro id start here
    rw [coming _ _ rfl] at here
    rw [made, pending]
    obtain ⟨newest, empty, alone, nobody⟩ := ordered.handing id start here
    refine ⟨newest, empty, ?_, ?_⟩
    · intro other another there
      exact alone other another ((coming _ _ rfl).mp there)
    · intro other another there
      exact nobody other another ((coming _ _ rfl).mp there)
  queueing := by
    intro id start here
    rw [coming _ _ rfl] at here
    rw [made, pending]
    obtain ⟨newest, older⟩ := ordered.queueing id start here
    refine ⟨newest, fun before waits => ⟨(older before waits).1, ?_⟩⟩
    intro other there
    rcases released with nobody | kept
    · exact nobody id start here
    · exact (older before waits).2 other (kept other there)
  waiting := by
    intro start waits nobody
    rw [pending] at waits
    rw [made]
    apply ordered.waiting start waits
    exact fun other another there => nobody other another ((coming _ _ rfl).mpr there)
  held := by
    intro owner number holds
    rcases holder with same | gone
    · rw [same] at holds
      obtain ⟨bound, older, on_way⟩ := ordered.held owner number holds
      rw [made, pending]
      refine ⟨bound, older, ?_⟩
      intro other start there
      rw [coming _ _ rfl, coming _ _ rfl] at there
      exact on_way other start there
    · rw [gone] at holds
      cases holds
  awaited := awaited
  superseded := by
    unfold LastOneWins
    rw [superseded]
    exact ordered.superseded

theorem Ordered.goes_on (ordered : Ordered state) (task : StartTask) {old : StartTask}
    (here : state.tasks id = some old) (before : old.comes = false ∧ old ≠ .released)
    (after : task.comes = false ∧ task ≠ .released)
    (tasks : later.tasks = (state.move id task).tasks)
    (guard : later.orchestrationGuard = state.orchestrationGuard)
    (pending : later.pendingStart = state.pendingStart) (made : later.made = state.made)
    (holder : later.holder = state.holder) (superseded : later.superseded = state.superseded) :
    Ordered later := by
  have released : ∀ other, later.tasks other = some .released ↔
      state.tasks other = some .released := by
    intro other
    rw [tasks]
    by_cases same : other = id
    · subst same
      rw [show (state.move other task).tasks other = some task from Function.update_self .., here]
      simp only [Option.some.injEq]
      exact ⟨fun is => absurd is after.2, fun is => absurd is before.2⟩
    · rw [show (state.move id task).tasks other = state.tasks other from
        Function.update_of_ne same ..]
  refine ordered.aside ?_ (Or.inr fun other => (released other).mp) ?_ pending made
    (Or.inl holder) superseded
  · intro found other comes
    rw [tasks]
    exact Orchestrator.same_coming here before.1 after.1 comes other
  · rw [pending, guard]
    intro waits
    rcases ordered.awaited waits with taken | ⟨other, there⟩
    · exact Or.inl taken
    · exact Or.inr ⟨other, (released other).mpr there⟩

theorem Ordered.lockGuard (ordered : Ordered state) (held : Held state) {start : StartRequest}
    {queued : Bool} {made : Nat} (free : state.lock = none) (newest : start.number + 1 = made)
    (grows : state.made ≤ made)
    (alone : ∀ other later, state.tasks other = some (.handing later) → other = id)
    (own : ∀ task, state.tasks id = some task → task.comes = true)
    (older : ∀ owner number, state.holder = some (owner, number) → number < start.number)
    (behind : ∀ before, state.pendingStart = some before →
      before.number < start.number ∧ ∀ other, state.tasks other ≠ some .released) :
    Ordered { state.lockGuard id start queued with made := made } := by
  have nobody := held.nobody_queues free
  have released : ∀ other, state.tasks other = some .released → other ≠ id := by
    intro other there same
    subst same
    cases own _ there
  unfold Orchestrator.lockGuard
  split
  · next taken =>
    constructor
    · intro other another there
      rcases Orchestrator.moved there with ⟨_, same⟩ | ⟨apart, before⟩
      · cases same
      · exact absurd (alone other another before) apart
    · intro other another there
      rcases Orchestrator.moved there with ⟨_, same⟩ | ⟨_, before⟩
      · cases same
        refine ⟨newest, fun before waits => ⟨(behind before waits).1, ?_⟩⟩
        intro last there
        rcases Orchestrator.moved there with ⟨_, same⟩ | ⟨_, stays⟩
        · cases same
        · exact (behind before waits).2 last stays
      · exact absurd before (nobody other another)
    · intro another waits none
      exact absurd (Function.update_self ..) (none id start)
    · intro owner number holds
      refine ⟨?_, ?_, ?_⟩
      · have bound := (ordered.held owner number holds).1
        exact Nat.lt_of_lt_of_le bound grows
      · exact (ordered.held owner number holds).2.1
      · intro other another there
        rcases there with there | there
        · rcases Orchestrator.moved there with ⟨_, same⟩ | ⟨apart, before⟩
          · cases same
          · exact absurd (alone other another before) apart
        · rcases Orchestrator.moved there with ⟨_, same⟩ | ⟨_, before⟩
          · cases same
            exact older owner number holds
          · exact absurd before (nobody other another)
    · exact fun _ => Or.inl taken
    · exact ordered.superseded
  · next untaken =>
    -- Nobody would take a request that waits now, so there is none.
    have empty : state.pendingStart = none := by
      by_contra waits
      obtain ⟨before, there⟩ := Option.ne_none_iff_exists'.mp waits
      rcases ordered.awaited waits with taken | ⟨other, gone⟩
      · exact untaken taken
      · exact (behind before there).2 other gone
    constructor
    · intro other another there
      rcases Orchestrator.moved there with ⟨_, same⟩ | ⟨apart, before⟩
      · cases same
      · exact absurd (alone other another before) apart
    · intro other another there
      rcases Orchestrator.moved there with ⟨_, same⟩ | ⟨_, before⟩
      · cases same
      · exact absurd before (nobody other another)
    · intro another waits
      have none : state.pendingStart = some another := waits
      rw [empty] at none
      cases none
    · intro owner number holds
      cases holds
      refine ⟨?_, ?_, ?_⟩
      · exact newest ▸ Nat.lt_succ_self start.number
      · intro another waits
        have none : state.pendingStart = some another := waits
        rw [empty] at none
        cases none
      · intro other another there
        rcases there with there | there
        · rcases Orchestrator.moved there with ⟨_, same⟩ | ⟨apart, before⟩
          · cases same
          · exact absurd (alone other another before) apart
        · rcases Orchestrator.moved there with ⟨_, same⟩ | ⟨_, before⟩
          · cases same
          · exact absurd before (nobody other another)
    · exact fun waits => absurd empty waits
    · exact ordered.superseded

theorem lockGuard_made (state : Orchestrator) (id : Nat) (start : StartRequest) (queued : Bool) :
    { state.lockGuard id start queued with made := state.made } =
      state.lockGuard id start queued := by
  unfold Orchestrator.lockGuard
  split <;> rfl

theorem Ordered.request (ordered : Ordered state) (held : Held state)
    (calm : NothingHandedOver state) (request : OrchestrationStartRequest) :
    Ordered (state.requestStart id request) := by
  rcases requestStart_cases state id request with idle | ⟨fresh, free, comes⟩
  · rw [idle]
    exact ordered
  · rw [comes]
    apply ordered.lockGuard held free rfl (Nat.le_succ state.made)
    · exact fun other later there => absurd there (calm.taken other later)
    · exact fun task there => nomatch fresh.symm.trans there
    · exact fun owner number holds => (ordered.held owner number holds).1
    · intro before waits
      have newest := ordered.waiting before waits (held.nobody_queues free)
      refine ⟨?_, calm.waiting (waits ▸ Option.some_ne_none before)⟩
      dsimp only
      omega

theorem Ordered.puts (ordered : Ordered state) (held : Held state) {start : StartRequest}
    (here : state.tasks id = some (.queueing start)) :
    Ordered { state.move id (.signalling start) with
      pendingStart := some start
      superseded := state.superseded ++ state.supersedes start } := by
  obtain ⟨newest, older⟩ := ordered.queueing id start here
  have nobody : ∀ other later, (state.move id (.signalling start)).tasks other ≠
      some (.handing later) := by
    intro other later there
    rcases Orchestrator.moved there with ⟨_, same⟩ | ⟨_, before⟩
    · cases same
    · exact (ordered.handing other later before).2.2.2 id start here
  have noneQueues : ∀ other later, (state.move id (.signalling start)).tasks other ≠
      some (.queueing later) := by
    intro other later there
    rcases Orchestrator.moved there with ⟨_, same⟩ | ⟨apart, before⟩
    · cases same
    · exact apart (held.queues_alone here before)
  have locked : state.orchestrationGuard = true := (held.locked id (held.lock id _ here rfl)).1
  constructor
  · exact fun other later there => absurd there (nobody other later)
  · exact fun other later there => absurd there (noneQueues other later)
  · intro later waits _
    cases waits
    exact newest
  · intro owner number holds
    obtain ⟨bound, _, on_way⟩ := ordered.held owner number holds
    refine ⟨bound, ?_, ?_⟩
    · intro later waits
      cases waits
      exact on_way id start (Or.inr here)
    · rintro other later (there | there)
      · exact absurd there (nobody other later)
      · exact absurd there (noneQueues other later)
  · exact fun _ => Or.inl locked
  · intro pair member
    rcases List.mem_append.mp member with before | added
    · exact ordered.superseded pair before
    · rcases List.mem_append.mp added with waiting | holding
      · obtain ⟨before, found, rfl⟩ := List.mem_map.mp waiting
        exact (older before (Option.mem_toList.mp found)).1
      · obtain ⟨⟨owner, number⟩, found, rfl⟩ := List.mem_map.mp holding
        exact (ordered.held owner number (Option.mem_toList.mp found)).2.2 id start (Or.inr here)

theorem Ordered.takes (ordered : Ordered state) {start : StartRequest}
    (here : state.tasks id = some .released) (waits : state.pendingStart = some start) :
    Ordered { state.move id (.handing start) with pendingStart := none } := by
  have nobody : ∀ other later, state.tasks other ≠ some (.queueing later) := by
    intro other later there
    exact ((ordered.queueing other later there).2 start waits).2 id here
  have alone : ∀ other later, state.tasks other ≠ some (.handing later) := by
    intro other later there
    have empty := (ordered.handing other later there).2.1
    rw [waits] at empty
    cases empty
  have noneQueues : ∀ other later, (state.move id (.handing start)).tasks other ≠
      some (.queueing later) := by
    intro other later there
    rcases Orchestrator.moved there with ⟨_, same⟩ | ⟨_, before⟩
    · cases same
    · exact nobody other later before
  have onlyThis : ∀ other later, (state.move id (.handing start)).tasks other =
      some (.handing later) → other = id ∧ later = start := by
    intro other later there
    rcases Orchestrator.moved there with ⟨same, taken⟩ | ⟨_, before⟩
    · cases taken
      exact ⟨same, rfl⟩
    · exact absurd before (alone other later)
  constructor
  · intro other later there
    obtain ⟨rfl, rfl⟩ := onlyThis other later there
    refine ⟨ordered.waiting later waits nobody, rfl, ?_, noneQueues⟩
    exact fun another last there => (onlyThis another last there).1
  · exact fun other later there => absurd there (noneQueues other later)
  · nofun
  · intro owner number holds
    obtain ⟨bound, older, _⟩ := ordered.held owner number holds
    refine ⟨bound, nofun, ?_⟩
    rintro other later (there | there)
    · rw [(onlyThis other later there).2]
      exact older start waits
    · exact absurd there (noneQueues other later)
  · exact fun waits => absurd rfl waits
  · exact ordered.superseded

theorem Ordered.advances (ordered : Ordered state) (held : Held state)
    (met : UndisturbedStart state (.advance id outcome)) (step : Advances state id outcome later) :
    Ordered later := by
  cases step with
  | idle => exact ordered
  | hands start here free =>
      obtain ⟨newest, empty, alone, _⟩ := ordered.handing id start here
      rw [← lockGuard_made]
      refine ordered.lockGuard held free newest (Nat.le_refl _) alone ?_ ?_ ?_
      · intro task there
        rw [here] at there
        cases there
        rfl
      · intro owner number holds
        exact (ordered.held owner number holds).2.2 id start (Or.inl here)
      · intro before waits
        rw [empty] at waits
        cases waits
  | puts start here => exact ordered.puts held here
  | signals start here =>
      exact ordered.goes_on .finished here ⟨rfl, nofun⟩ ⟨rfl, nofun⟩ rfl rfl rfl rfl rfl rfl
  | passes start queued here ok =>
      exact ordered.goes_on (.running start) here ⟨rfl, nofun⟩ ⟨rfl, nofun⟩ rfl rfl rfl rfl rfl
        rfl
  | fails start queued here =>
      exact ordered.goes_on (.failed start queued) here ⟨rfl, nofun⟩ ⟨rfl, nofun⟩ rfl rfl rfl rfl
        rfl rfl
  | gives start queued here free =>
      simp only [UndisturbedStart, here] at met
      refine ordered.aside ?_ (Or.inl (held.nobody_queues free)) ?_ rfl rfl (Or.inr rfl) rfl
      · exact fun task other comes => Orchestrator.same_coming here rfl rfl comes other
      · exact fun waits => absurd (met free).2 waits
  | ends start here =>
      exact ordered.goes_on (.ended start) here ⟨rfl, nofun⟩ ⟨rfl, nofun⟩ rfl rfl rfl rfl rfl rfl
  | releases start here free =>
      refine ordered.aside ?_ (Or.inl (held.nobody_queues free)) ?_ rfl rfl (Or.inr rfl) rfl
      · exact fun task other comes => Orchestrator.same_coming here rfl rfl comes other
      · exact fun _ => Or.inr ⟨id, Function.update_self ..⟩
  | takes start here waits => exact ordered.takes here waits
  | leaves here empty =>
      refine ordered.aside ?_ (Or.inr ?_) ?_ rfl rfl (Or.inl rfl) rfl
      · exact fun task other comes => Orchestrator.same_coming here rfl rfl comes other
      · intro other there
        rcases Orchestrator.moved there with ⟨_, same⟩ | ⟨_, before⟩
        · cases same
        · exact before
      · exact fun waits => absurd empty waits

theorem Ordered.step (ordered : Ordered state) (held : Held state) {event : OrchestrationEvent}
    (met : UndisturbedStart state event) : Ordered (orchestrationStep state event) := by
  cases event with
  | request id request => exact ordered.request held met request
  | advance id outcome => exact ordered.advances held met (advance_cases state id outcome)
  | stop =>
      exact ⟨ordered.handing, ordered.queueing, ordered.waiting, ordered.held, ordered.awaited,
        ordered.superseded⟩

def StartTask.carries : StartTask → Option Nat
  | .handing start | .queueing start | .checking start _ | .failed start _ => some start.number
  | _ => none

inductive Accounted (state : Orchestrator) (number : Nat) : Prop where
  | refused (member : number ∈ state.refused)
  | ran (member : number ∈ state.ran)
  | superseded (later : Nat) (after : number < later)
      (member : (number, later) ∈ state.superseded)
  | waits (start : StartRequest) (waits : state.pendingStart = some start)
      (same : start.number = number)
  | carried (id : Nat) (task : StartTask) (here : state.tasks id = some task)
      (carries : task.carries = some number)

theorem Accounted.same {number : Nat} (accounted : Accounted state number)
    (pending : later.pendingStart = state.pendingStart)
    (tasks : ∀ id task, state.tasks id = some task → later.tasks id = some task)
    (refused : later.refused = state.refused) (ran : later.ran = state.ran)
    (superseded : later.superseded = state.superseded) : Accounted later number := by
  cases accounted with
  | refused member => exact .refused (refused ▸ member)
  | ran member => exact .ran (ran ▸ member)
  | superseded last after member => exact .superseded last after (superseded ▸ member)
  | waits start waits same => exact .waits start (pending ▸ waits) same
  | carried id task here carries => exact .carried id task (tasks id task here) carries

theorem Accounted.goes_on {number : Nat} (task : StartTask) {old : StartTask}
    (accounted : Accounted state number) (here : state.tasks id = some old)
    (tasks : later.tasks = (state.move id task).tasks)
    (own : old.carries = some number → Accounted later number)
    (pending : ∀ start, state.pendingStart = some start → start.number = number →
      Accounted later number) (refused : state.refused ⊆ later.refused)
    (ran : state.ran ⊆ later.ran) (superseded : state.superseded ⊆ later.superseded) :
    Accounted later number := by
  cases accounted with
  | refused member => exact .refused (refused member)
  | ran member => exact .ran (ran member)
  | superseded last after member => exact .superseded last after (superseded member)
  | waits start waits same => exact pending start waits same
  | carried other found there carries =>
      by_cases same : other = id
      · subst same
        rw [here] at there
        cases there
        exact own carries
      · refine .carried other found ?_ carries
        rw [tasks]
        exact (Function.update_of_ne same ..).trans there

theorem Accounted.carries_on {number : Nat} (task : StartTask) {old : StartTask}
    (accounted : Accounted state number) (here : state.tasks id = some old)
    (same : task.carries = old.carries) (tasks : later.tasks = (state.move id task).tasks)
    (pending : later.pendingStart = state.pendingStart) (refused : later.refused = state.refused)
    (ran : later.ran = state.ran) (superseded : later.superseded = state.superseded) :
    Accounted later number := by
  refine accounted.goes_on task here tasks ?_ ?_ ?_ ?_ ?_
  · intro carries
    refine .carried id task ?_ (same.trans carries)
    rw [tasks]
    exact Function.update_self ..
  · intro start waits named
    exact .waits start (pending.trans waits) named
  · exact refused ▸ List.Subset.refl _
  · exact ran ▸ List.Subset.refl _
  · exact superseded ▸ List.Subset.refl _

theorem Accounted.advances {number : Nat} (accounted : Accounted state number)
    (ordered : Ordered state) (met : UndisturbedStart state (.advance id outcome))
    (step : Advances state id outcome later) : Accounted later number := by
  cases step with
  | idle => exact accounted
  | hands start here free =>
      unfold Orchestrator.lockGuard
      split
      · exact accounted.carries_on (.queueing start) here rfl rfl rfl rfl rfl rfl
      · exact accounted.carries_on (.checking start true) here rfl rfl rfl rfl rfl rfl
  | puts start here =>
      refine accounted.goes_on (.signalling start) here rfl ?_ ?_ ?_ ?_ ?_
      · intro carries
        exact .waits start rfl (Option.some.inj carries)
      · intro before waits named
        have older := ((ordered.queueing id start here).2 before waits).1
        refine .superseded start.number (named ▸ older) ?_
        apply List.mem_append_right
        apply List.mem_append_left
        exact List.mem_map.mpr ⟨before, Option.mem_toList.mpr waits, by rw [named]⟩
      · exact List.Subset.refl _
      · exact List.Subset.refl _
      · exact List.subset_append_left ..
  | signals start here => exact accounted.carries_on .finished here rfl rfl rfl rfl rfl rfl
  | passes start queued here ok =>
      refine accounted.goes_on (.running start) here rfl ?_ ?_ ?_ ?_ ?_
      · intro carries
        cases carries
        exact .ran (List.mem_cons_self ..)
      · exact fun before waits named => .waits before waits named
      · exact List.Subset.refl _
      · exact List.subset_cons_self ..
      · exact List.Subset.refl _
  | fails start queued here =>
      exact accounted.carries_on (.failed start queued) here rfl rfl rfl rfl rfl rfl
  | gives start queued here free =>
      simp only [UndisturbedStart, here] at met
      obtain ⟨direct, _⟩ := met free
      refine accounted.goes_on .finished here rfl ?_ ?_ ?_ ?_ ?_
      · intro carries
        cases carries
        apply Accounted.refused
        rw [direct, if_neg Bool.false_ne_true]
        exact List.mem_cons_self ..
      · exact fun before waits named => .waits before waits named
      · rw [direct, if_neg Bool.false_ne_true]
        exact List.subset_cons_self ..
      · exact List.Subset.refl _
      · exact List.Subset.refl _
  | ends start here => exact accounted.carries_on (.ended start) here rfl rfl rfl rfl rfl rfl
  | releases start here free => exact accounted.carries_on .released here rfl rfl rfl rfl rfl rfl
  | takes start here waits =>
      refine accounted.goes_on (.handing start) here rfl nofun ?_ ?_ ?_ ?_
      · intro before found named
        rw [waits] at found
        cases found
        exact .carried id (.handing start) (Function.update_self ..) (congrArg some named)
      · exact List.Subset.refl _
      · exact List.Subset.refl _
      · exact List.Subset.refl _
  | leaves here empty => exact accounted.carries_on .finished here rfl rfl rfl rfl rfl rfl

theorem Accounted.request {number : Nat} (accounted : Accounted state number) {other : Nat}
    (request : OrchestrationStartRequest) :
    Accounted (state.requestStart other request) number := by
  rcases requestStart_cases state other request with idle | ⟨fresh, _, comes⟩
  · rw [idle]
    exact accounted
  · rw [comes]
    have kept : ∀ (task : StartTask) (id : Nat) (found : StartTask),
        state.tasks id = some found → (state.move other task).tasks id = some found := by
      intro task id found there
      by_cases same : id = other
      · subst same
        rw [fresh] at there
        cases there
      · exact (Function.update_of_ne same ..).trans there
    unfold Orchestrator.lockGuard
    split <;> exact accounted.same rfl (fun id found => kept _ id found) rfl rfl rfl

theorem requestStart_accounted (state : Orchestrator) (id : Nat)
    (request : OrchestrationStartRequest)
    (accounted : ∀ number < state.made, Accounted state number) :
    ∀ number < (state.requestStart id request).made,
      Accounted (state.requestStart id request) number := by
  intro number bound
  by_cases earlier : number < state.made
  · exact (accounted number earlier).request request
  · rcases requestStart_cases state id request with idle | ⟨_, _, comes⟩
    · rw [idle] at bound
      exact absurd bound earlier
    · rw [comes] at bound ⊢
      have last : number = state.made := by
        dsimp only at bound
        omega
      subst last
      unfold Orchestrator.lockGuard
      split
      · exact .carried id _ (Function.update_self ..) rfl
      · exact .carried id _ (Function.update_self ..) rfl

/-- While a run goes on that was asked to stop, the flag says so. -/
def FlagStands (state : Orchestrator) : Prop :=
  ∀ id start, state.tasks id = some (.running start) → state.asked = true →
    state.cancelRequested = true

theorem FlagStands.goes_on (stands : FlagStands state) (task : StartTask)
    (tasks : later.tasks = (state.move id task).tasks) (idle : ∀ start, task ≠ .running start)
    (asked : later.asked = state.asked) (flag : later.cancelRequested = state.cancelRequested) :
    FlagStands later := by
  intro other start there asks
  rw [tasks] at there
  rw [asked] at asks
  rw [flag]
  rcases Orchestrator.moved there with ⟨_, same⟩ | ⟨_, before⟩
  · exact absurd same.symm (idle start)
  · exact stands other start before asks

theorem FlagStands.lockGuard (stands : FlagStands state) (id : Nat) (start : StartRequest)
    (queued : Bool) : FlagStands (state.lockGuard id start queued) := by
  unfold Orchestrator.lockGuard
  split
  · exact stands.goes_on (.queueing start) rfl nofun rfl rfl
  · exact fun _ _ _ asks => nomatch asks

theorem FlagStands.advances (stands : FlagStands state)
    (met : UndisturbedStart state (.advance id outcome)) (step : Advances state id outcome later) :
    FlagStands later := by
  cases step with
  | idle => exact stands
  | hands start here free => exact stands.lockGuard id start true
  | puts start here => exact stands.goes_on (.signalling start) rfl nofun rfl rfl
  | signals start here => exact fun _ _ _ _ => rfl
  | passes start queued here ok =>
      intro other another there asks
      simp only [UndisturbedStart, here] at met
      have unasked : state.asked = true := asks
      rw [met ok] at unasked
      cases unasked
  | fails start queued here => exact stands.goes_on (.failed start queued) rfl nofun rfl rfl
  | gives start queued here free => exact stands.goes_on .finished rfl nofun rfl rfl
  | ends start here => exact stands.goes_on (.ended start) rfl nofun rfl rfl
  | releases start here free => exact stands.goes_on .released rfl nofun rfl rfl
  | takes start here waits => exact stands.goes_on (.handing start) rfl nofun rfl rfl
  | leaves here empty => exact stands.goes_on .finished rfl nofun rfl rfl

theorem FlagStands.heeds (stands : FlagStands state) : Heeds state := by
  intro id start here asks
  unfold orchestrationStep Orchestrator.advance
  simp only [here]
  rw [if_pos (Or.inr (stands id start here asks))]
  exact Function.update_self ..

end Steps

structure StartsSerialised (state : Orchestrator) : Prop where
  held : Held state
  ordered : Ordered state
  accounted : ∀ number < state.made, Accounted state number
  flag : FlagStands state

section Runs

variable {state : Orchestrator}

theorem Advances.made {later : Orchestrator} {id : Nat} {outcome : Bool}
    (step : Advances state id outcome later) : later.made = state.made := by
  cases step with
  | hands start here free =>
      unfold Orchestrator.lockGuard
      split <;> rfl
  | _ => rfl

theorem StartsSerialised.step (serialised : StartsSerialised state) {event : OrchestrationEvent}
    (met : UndisturbedStart state event) : StartsSerialised (orchestrationStep state event) := by
  refine ⟨serialised.held.step event, serialised.ordered.step serialised.held met, ?_, ?_⟩
  · cases event with
    | request id request => exact requestStart_accounted state id request serialised.accounted
    | advance id outcome =>
        have step := advance_cases state id outcome
        intro number bound
        rw [show (orchestrationStep state (.advance id outcome)).made = state.made from step.made]
          at bound
        exact (serialised.accounted number bound).advances serialised.ordered met step
    | stop =>
        intro number bound
        exact (serialised.accounted number bound).same rfl (fun _ _ there => there) rfl rfl rfl
  · cases event with
    | request id request =>
        show FlagStands (state.requestStart id request)
        rcases requestStart_cases state id request with idle | ⟨_, _, comes⟩
        · rw [idle]
          exact serialised.flag
        · rw [comes]
          exact serialised.flag.lockGuard id _ false
    | advance id outcome => exact serialised.flag.advances met (advance_cases state id outcome)
    | stop => exact fun _ _ _ _ => rfl

theorem reached_serialised
    (reached : Reached orchestrationStep (fun state => state = {}) UndisturbedStart state) :
    StartsSerialised state := by
  apply reached.invariant
  · rintro _ rfl
    refine ⟨⟨rfl, nofun, nofun, nofun, nofun⟩, ⟨nofun, nofun, nofun, nofun, ?_, ?_⟩, nofun, nofun⟩
    · exact fun waits => absurd rfl waits
    · exact fun _ member => nomatch member
  · exact fun state event _ serialised met => serialised.step met

theorem Held.one_run (held : Held state) : AtMostOneRun state := by
  intro one other first second here there
  have mine := held.holder one _ first.number here rfl
  rw [held.holder other _ second.number there rfl] at mine
  exact (congrArg Prod.fst (Option.some.inj mine)).symm

theorem one_run_always
    (reached : Reached orchestrationStep (fun state => state = {}) (fun _ _ => True) state) :
    AtMostOneRun state := by
  have held : Held state := by
    apply reached.invariant
    · rintro _ rfl
      exact ⟨rfl, nofun, nofun, nofun, nofun⟩
    · exact fun state event _ held _ => held.step event
  exact held.one_run

theorem StartsSerialised.settled (serialised : StartsSerialised state) : EveryRequestSettled state := by
  intro quiet number bound accepted
  cases serialised.accounted number bound with
  | refused member => exact absurd member accepted
  | ran member => exact Or.inl member
  | superseded later after member => exact Or.inr ⟨later, after, member⟩
  | waits start waits same =>
      rcases serialised.ordered.awaited (waits ▸ Option.some_ne_none start) with taken | released
      · rw [serialised.held.guarded] at taken
        obtain ⟨⟨owner, held⟩, holds⟩ := Option.isSome_iff_exists.mp taken
        obtain ⟨task, there, named⟩ := serialised.held.owner owner held holds
        rw [quiet owner task there] at named
        cases named
      · obtain ⟨id, there⟩ := released
        cases quiet id _ there
  | carried id task there carries =>
      rw [quiet id task there] at carries
      cases carries

theorem Held.goes_on_until_quiet (held : Held state) (busy : ¬ Quiet state) :
    ∃ id, (state.advance id true).tasks id ≠ state.tasks id := by
  cases locked : state.lock with
  | some id =>
      refine ⟨id, ?_⟩
      obtain ⟨_, task, there, locks⟩ := held.locked id locked
      unfold Orchestrator.advance
      cases task with
      | queueing start => simp [there, Orchestrator.move]
      | signalling start => simp [there, Orchestrator.move]
      | _ => cases locks
  | none =>
      unfold Quiet at busy
      push Not at busy
      obtain ⟨id, task, there, unfinished⟩ := busy
      refine ⟨id, ?_⟩
      unfold Orchestrator.advance
      cases task with
      | finished => exact absurd rfl unfinished
      | released => cases waits : state.pendingStart <;> simp [there, Orchestrator.move]
      | handing start =>
          simp only [there, locked, Option.isSome_none, Bool.false_eq_true, if_false]
          unfold Orchestrator.lockGuard
          split <;> simp [Orchestrator.move]
      | _ => simp [there, locked, Orchestrator.move]

end Runs

/-- As long as requests come while nothing is handed over, a health check succeeds only when
nothing was asked since it began, and none fails with a request behind it, start requests are
serialised and the last one wins. -/
theorem starts_serialised {state : Orchestrator}
    (reached : Reached orchestrationStep (fun state => state = {}) UndisturbedStart state) :
    AtMostOneRun state ∧ EveryRequestSettled state ∧ LastOneWins state ∧ Heeds state ∧
      (¬ Quiet state →
        ∃ id, (state.advance id true).tasks id ≠ state.tasks id) := by
  have serialised := reached_serialised reached
  exact ⟨serialised.held.one_run, serialised.settled, serialised.ordered.superseded,
    serialised.flag.heeds, serialised.held.goes_on_until_quiet⟩

namespace OrchestrationSample

def after (events : List OrchestrationEvent) : Orchestrator := events.foldl orchestrationStep {}

def stopped : List OrchestrationEvent :=
  [.request 0 .selectedOffer, .stop, .advance 0 true]

def switching : List OrchestrationEvent :=
  [.request 0 .selectedOffer, .advance 0 true, .request 1 (.existingInstance 7),
    .advance 1 true, .advance 1 true, .advance 0 false, .advance 0 true]

def inverted : List OrchestrationEvent :=
  switching ++ [.request 2 (.existingInstance 8), .advance 0 true, .advance 0 true,
    .advance 0 true]

def lost : List OrchestrationEvent :=
  [.request 0 .selectedOffer, .request 1 (.existingInstance 7), .advance 1 true,
    .advance 1 true, .advance 0 false, .advance 0 true]

def switched : List OrchestrationEvent :=
  switching ++ [.advance 0 true, .advance 0 true, .advance 0 true, .advance 0 true,
    .advance 0 true, .advance 0 true]

end OrchestrationSample

open OrchestrationSample in
/-- A stop during the health check is lost, a request is superseded by an earlier one, and one
that waits behind a failing health check neither runs nor is superseded. -/
theorem starts_not_serialised :
    ¬ Heeds (after stopped) ∧ ¬ LastOneWins (after inverted) ∧
      ¬ EveryRequestSettled (after lost) := by
  refine ⟨?_, ?_, ?_⟩
  · intro heeds
    have ends := heeds 0 { number := 0, request := .selectedOffer } rfl rfl
    cases ends
  · intro wins
    exact absurd (wins (2, 1) (by decide)) (by decide)
  · intro settled
    have quiet : Quiet (after lost) := by
      intro id task here
      match id with
      | 0 =>
          cases here
          rfl
      | 1 =>
          cases here
          rfl
      | _ + 2 => cases here
    rcases settled quiet 1 (by decide) (by decide) with ran | ⟨later, _, superseded⟩
    · exact absurd ran (by decide)
    · have pair : (1, later) ∈ [(0, 1)] := superseded
      cases List.mem_singleton.mp pair

open OrchestrationSample in
theorem starts_serialised_switched :
    AtMostOneRun (after switched) ∧ EveryRequestSettled (after switched) ∧
      LastOneWins (after switched) ∧ Heeds (after switched) ∧
      (¬ Quiet (after switched) →
        ∃ id, ((after switched).advance id true).tasks id ≠ (after switched).tasks id) := by
  have first : NothingHandedOver {} := ⟨nofun, fun waits => absurd rfl waits⟩
  have second : NothingHandedOver (after [.request 0 .selectedOffer, .advance 0 true]) := by
    refine ⟨?_, fun waits => absurd rfl waits⟩
    intro id start there
    match id with
    | 0 => cases there
    | _ + 1 => cases there
  have undisturbed : Along orchestrationStep UndisturbedStart {} switched :=
    ⟨first, fun _ => rfl, second, trivial, trivial, trivial, trivial, trivial, trivial,
      fun _ => rfl, trivial, trivial, trivial, trivial⟩
  have starts : Reached orchestrationStep (fun state => state = {}) UndisturbedStart {} := .start rfl
  exact starts_serialised (starts.along undisturbed)

end Noland.Desktop
