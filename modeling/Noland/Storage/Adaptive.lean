import Mathlib.Algebra.BigOperators.Ring.Finset
import Mathlib.Data.Fintype.Basic
import Noland.Lib.Machine

/-!
Each step of the machine is one access to an atomic counter, to the semaphore or to the
notification. A task that finds no room looks at the counters first and waits afterwards, and
waking stores nothing for those who do not wait yet. The release build is modelled: sums of `i32`
wrap around, and `clamp` fails on bounds in the wrong order. What is computed from latencies is a
parameter.
-/

namespace Noland.Storage.Adaptive

open Noland.Machine

inductive RemoteErrorClass where
  | retryable
  | rateLimited
  | authentication
  | notFound
  | immutableConflict
  | permanent
  deriving DecidableEq

def RemoteErrorClass.isRetryable : RemoteErrorClass → Bool
  | .retryable | .rateLimited => true
  | _ => false

def RemoteErrorClass.isRateLimited (failure : RemoteErrorClass) : Bool :=
  failure = .rateLimited

/-- The arithmetic of latencies: the moving average with a new sample, and whether a sample
is below half of the average or above two and a half times of it. -/
structure LatencyArithmetic (Millis : Type) where
  zero : Millis
  average : Millis → Millis → Millis
  fast : Millis → Millis → Bool
  slow : Millis → Millis → Bool

/-- Where a task is in `acquire`, or in the `drop` of its permit. -/
inductive Phase where
  | idle
  | looking
  | loaded (current : Nat)
  | claiming (active : Nat)
  | full
  | parked
  | waiting
  | holding
  | dropping
  | releasing
  deriving DecidableEq

/-- Where a task is in `record_success` or `record_error`. -/
inductive RecordPhase (Millis : Type) where
  | idle
  | sampling (latency : Millis)
  | averaging (latency : Millis) (samples : Nat)
  | adjusting (delta : Int)
  | halving
  | storing (next : Nat)
  | notifying

structure Limits where
  min : Nat
  max : Nat
  positive : 0 < min
  ordered : min ≤ max

structure State (Task Millis : Type) where
  current : Nat
  active : Nat := 0
  available : Nat
  samples : Nat := 0
  consecutiveErrors : Nat := 0
  ewmaLatencyMs : Millis
  phase : Task → Phase := fun _ => .idle
  record : Task → RecordPhase Millis := fun _ => .idle
  granted : Nat := 0

inductive Event (Task Millis : Type) where
  | acquire (task : Task)
  | drop (task : Task)
  | advance (task : Task)
  | recordSuccess (task : Task) (latency : Millis)
  | recordError (task : Task) (failure : RemoteErrorClass)
  | advanceRecord (task : Task)

def clamp (low high value : Nat) : Nat := max low (min value high)

def newLimits (low high : Nat) : Limits where
  min := min (max low 1) (max high 1)
  max := max high 1
  positive := by omega
  ordered := by omega

/-- `as i32`. -/
def toI32 (value : Int) : Int := Int.bmod value (2 ^ 32)

/-- `as usize` of an `i32`. -/
def toUsize (value : Int) : Nat := (value % 2 ^ 64).toNat

/-- The next limit of `adjust`; `clamp` panics when the bounds are in the wrong order. -/
def adjusted (limits : Limits) (current : Nat) (delta : Int) : Option Nat :=
  let low := toI32 limits.min
  let high := toI32 limits.max
  if high < low then none
  else
    let next := toI32 (toI32 current + delta)
    some (toUsize (if next < low then low else if high < next then high else next))

section Steps

variable {Task Millis : Type} [DecidableEq Task]

namespace State

def enter (state : State Task Millis) (task : Task) (phase : Phase) : State Task Millis :=
  { state with phase := Function.update state.phase task phase }

def enterRecord (state : State Task Millis) (task : Task) (record : RecordPhase Millis) :
    State Task Millis :=
  { state with record := Function.update state.record task record }

@[simp] theorem enter_phase_self (state : State Task Millis) (task : Task) (phase : Phase) :
    (state.enter task phase).phase task = phase := Function.update_self _ _ _

theorem enter_phase_of_ne {state : State Task Millis} {task other : Task} {phase : Phase}
    (different : other ≠ task) : (state.enter task phase).phase other = state.phase other :=
  Function.update_of_ne different _ _

@[simp] theorem enterRecord_record_self (state : State Task Millis) (task : Task)
    (record : RecordPhase Millis) : (state.enterRecord task record).record task = record :=
  Function.update_self _ _ _

theorem enterRecord_record_of_ne {state : State Task Millis} {task other : Task}
    {record : RecordPhase Millis} (different : other ≠ task) :
    (state.enterRecord task record).record other = state.record other :=
  Function.update_of_ne different _ _

/-- `notify_waiters`: those who wait go on, and nothing is kept for others. -/
def wake (phase : Task → Phase) : Task → Phase := fun task =>
  if phase task = .parked then .looking else phase task

def notifyWaiters (state : State Task Millis) : State Task Millis :=
  { state with phase := wake state.phase }

/-- The next access of a task in `acquire` or `drop`. -/
def advance (state : State Task Millis) (task : Task) : State Task Millis :=
  match state.phase task with
  | .looking => state.enter task (.loaded state.current)
  | .loaded current =>
      if state.active < current then state.enter task (.claiming state.active)
      else state.enter task .full
  | .claiming active =>
      if state.active = active then
        { state.enter task .waiting with
          active := active + 1
          granted := max state.granted state.current }
      else state.enter task .looking
  | .full => state.enter task .parked
  | .waiting =>
      if 0 < state.available then
        { state.enter task .holding with available := state.available - 1 }
      else state
  | .dropping => (state.enter task .releasing).notifyWaiters
  | .releasing => { state.enter task .idle with available := state.available + 1 }
  | .idle | .parked | .holding => state

/-- The next access of a task in `record_success` or `record_error`. -/
def advanceRecord (arithmetic : LatencyArithmetic Millis) (limits : Limits)
    (state : State Task Millis) (task : Task) : State Task Millis :=
  match state.record task with
  | .sampling latency =>
      { state.enterRecord task (.averaging latency (min (state.samples + 1) (2 ^ 32 - 1))) with
        samples := (state.samples + 1) % 2 ^ 32 }
  | .averaging latency samples =>
      let ewma := arithmetic.average state.ewmaLatencyMs latency
      { state.enterRecord task
          (if samples < 4 then .idle
          else if arithmetic.fast latency ewma then .adjusting 1
          else if arithmetic.slow latency ewma then .adjusting (-1)
          else .idle) with
        ewmaLatencyMs := ewma }
  | .adjusting delta =>
      state.enterRecord task
        (match adjusted limits state.current delta with
        | some next => .storing next
        | none => .idle)
  | .halving => state.enterRecord task (.storing (max (state.current / 2) limits.min))
  | .storing next =>
      { state.enterRecord task .notifying with current := clamp limits.min limits.max next }
  | .notifying => (state.enterRecord task .idle).notifyWaiters
  | .idle => state

def step (arithmetic : LatencyArithmetic Millis) (limits : Limits) (state : State Task Millis) :
    Event Task Millis → State Task Millis
  | .acquire task => if state.phase task = .idle then state.enter task .looking else state
  | .drop task =>
      if state.phase task = .holding then
        { state.enter task .dropping with active := state.active - 1 }
      else state
  | .advance task => state.advance task
  | .recordSuccess task latency =>
      match state.record task with
      | .idle => { state.enterRecord task (.sampling latency) with consecutiveErrors := 0 }
      | _ => state
  | .recordError task failure =>
      match state.record task with
      | .idle =>
          { state.enterRecord task
              (if failure.isRateLimited then .halving
              else if failure.isRetryable then .adjusting (-1)
              else .idle) with
            consecutiveErrors := state.consecutiveErrors + 1 }
      | _ => state
  | .advanceRecord task => state.advanceRecord arithmetic limits task

/-- `AdaptiveConcurrency::new`. -/
def new (arithmetic : LatencyArithmetic Millis) (limits : Limits) (initial : Nat) :
    State Task Millis :=
  { current := clamp limits.min limits.max initial
    available := limits.max
    ewmaLatencyMs := arithmetic.zero }

end State

end Steps

section Good

variable {Task Millis : Type} [Fintype Task]

def Phase.live : Phase → Bool
  | .waiting | .holding => true
  | _ => false

def Phase.seated : Phase → Bool
  | .holding | .dropping | .releasing => true
  | _ => false

def count (counts : Phase → Bool) (phase : Task → Phase) : Nat :=
  (Finset.univ.filter fun task => counts (phase task) = true).card

def State.live (state : State Task Millis) : Nat := count Phase.live state.phase

def Phase.wakes : Phase → Bool
  | .waiting | .holding | .dropping => true
  | _ => false

/-- The waiters are woken at the end, as a limit is stored; `adjust` panics when the bounds are in
the wrong order. -/
def RecordPhase.wakes {Millis : Type} (limits : Limits) : RecordPhase Millis → Bool
  | .halving | .storing _ | .notifying => true
  | .adjusting _ => decide (toI32 limits.min ≤ toI32 limits.max)
  | _ => false

variable (limits : Limits)

def State.WakeComing (state : State Task Millis) : Prop :=
  ∃ task, (state.phase task).wakes = true ∨ (state.record task).wakes limits = true

instance (state : State Task Millis) : Decidable (state.WakeComing limits) :=
  inferInstanceAs (Decidable (∃ _, _ ∨ _))

/-- A task waits for a notification or for the semaphore, the limit leaves room, and nothing
will wake it. -/
def State.Stalled (state : State Task Millis) (task : Task) : Prop :=
  state.live < state.current ∧ ¬ state.WakeComing limits ∧ state.phase task = .parked ∨
    state.phase task = .waiting ∧ state.available = 0 ∧
      ∀ other, (state.phase other).seated = false

instance (state : State Task Millis) (task : Task) : Decidable (state.Stalled limits task) :=
  inferInstanceAs (Decidable (_ ∧ _ ∧ _ ∨ _ ∧ _ ∧ ∀ _, _))

def State.Bounded (state : State Task Millis) : Prop :=
  limits.min ≤ state.current ∧ state.current ≤ limits.max

structure State.Good (state : State Task Millis) : Prop where
  bounds : state.Bounded limits
  permits : state.live ≤ state.granted
  woken : ∀ task, ¬ state.Stalled limits task

/-- A task between its load of the limit and its compare-exchange goes by no more than `limit`. -/
def Phase.fits (limit : Nat) : Phase → Bool
  | .loaded current => decide (0 < current ∧ current ≤ limit)
  | .claiming active => decide (active < limit)
  | _ => true

/-- No limit is stored below what a task between its load of the limit and its compare-exchange
goes by, and no `notify_waiters` falls between a task's check, which found no room, and its wait,
but where another one is to come. -/
def State.Timely (state : State Task Millis) : Event Task Millis → Prop
  | .advance task =>
      state.phase task = .dropping → ∀ other, state.phase other = .full →
        ∃ waker, waker ≠ task ∧ (state.phase waker).wakes = true ∨
          (state.record waker).wakes limits = true
  | .advanceRecord task =>
      match state.record task with
      | .storing next =>
          ∀ other, (state.phase other).fits (clamp limits.min limits.max next) = true
      | .notifying => ∀ other, state.phase other = .full →
          ∃ waker, (state.phase waker).wakes = true ∨
            waker ≠ task ∧ (state.record waker).wakes limits = true
      | _ => True
  | _ => True

instance decidableTimely [DecidableEq Task] (state : State Task Millis) :
    ∀ event, Decidable (state.Timely limits event)
  | .advance task => inferInstanceAs (Decidable (_ → ∀ _, _ → ∃ _, _ ∧ _ ∨ _))
  | .advanceRecord task =>
      match here : state.record task with
      | .storing next => decidable_of_iff (∀ other,
          (state.phase other).fits (clamp limits.min limits.max next) = true)
          (by simp only [State.Timely, here])
      | .notifying => decidable_of_iff (∀ other, state.phase other = .full →
          ∃ waker, (state.phase waker).wakes = true ∨
            waker ≠ task ∧ (state.record waker).wakes limits = true)
          (by simp only [State.Timely, here])
      | .idle | .sampling _ | .averaging _ _ | .adjusting _ | .halving =>
          .isTrue (by simp only [State.Timely, here])
  | .acquire _ | .drop _ | .recordSuccess _ _ | .recordError _ _ => .isTrue trivial

end Good

section Counting

variable {Task : Type} [Fintype Task]

theorem count_pos {counts : Phase → Bool} {phase : Task → Phase} :
    0 < count counts phase ↔ ∃ task, counts (phase task) = true := by
  rw [count, Finset.card_pos]
  constructor
  · rintro ⟨task, member⟩
    exact ⟨task, (Finset.mem_filter.mp member).2⟩
  · rintro ⟨task, counted⟩
    exact ⟨task, Finset.mem_filter.mpr ⟨Finset.mem_univ task, counted⟩⟩

theorem count_congr {counts : Phase → Bool} {phase other : Task → Phase}
    (same : ∀ task, counts (phase task) = counts (other task)) :
    count counts phase = count counts other := by
  rw [count, count]
  congr 1
  apply Finset.filter_congr
  intro task _
  rw [same]

theorem count_update [DecidableEq Task] (counts : Phase → Bool) (phase : Task → Phase)
    (task : Task) (next : Phase) :
    count counts (Function.update phase task next) + (counts (phase task)).toNat =
      count counts phase + (counts next).toNat := by
  have split : ∀ phases : Task → Phase, count counts phases =
      (counts (phases task)).toNat +
        ((Finset.univ.erase task).filter fun other => counts (phases other) = true).card := by
    intro phases
    rw [count, ← Finset.insert_erase (Finset.mem_univ task), Finset.filter_insert,
      Finset.erase_insert_eq_erase, Finset.erase_idem]
    cases counted : counts (phases task) with
    | false => simp
    | true =>
        rw [if_pos rfl, Finset.card_insert_of_notMem (by simp)]
        simp [Nat.add_comm]
  have others : ((Finset.univ.erase task).filter fun other =>
      counts (Function.update phase task next other) = true) =
      (Finset.univ.erase task).filter fun other => counts (phase other) = true := by
    apply Finset.filter_congr
    intro other member
    rw [Function.update_of_ne (Finset.ne_of_mem_erase member)]
  rw [split, split phase, others, Function.update_self]
  omega

theorem count_wake {counts : Phase → Bool} (ignores : counts .parked = counts .looking)
    (phase : Task → Phase) : count counts (State.wake phase) = count counts phase := by
  apply count_congr
  intro task
  unfold State.wake
  split
  · rename_i parked
    rw [parked, ignores]
  · rfl

end Counting

section Waiting

variable {Task Millis : Type} {limits : Limits} {state : State Task Millis}

/-- Whoever waits for a notification, or is about to, has one to come. -/
def State.Woken (limits : Limits) (state : State Task Millis) : Prop :=
  ∀ task, state.phase task = .full ∨ state.phase task = .parked → state.WakeComing limits

theorem woken_new (arithmetic : LatencyArithmetic Millis) (initial : Nat) :
    State.Woken limits (State.new arithmetic limits initial : State Task Millis) := by
  intro task waits
  rcases waits with full | parked
  · cases full
  · cases parked

theorem wakes_wake {phase : Task → Phase} {task : Task} (wakes : (phase task).wakes = true) :
    (State.wake phase task).wakes = true := by
  unfold State.wake
  split
  · rename_i parked
    rw [parked] at wakes
    cases wakes
  · exact wakes

theorem woken_notifyWaiters
    (another : ∀ task, state.phase task = .full → state.WakeComing limits) :
    state.notifyWaiters.Woken limits := by
  intro task waits
  have here : State.wake state.phase task = .full ∨ State.wake state.phase task = .parked := waits
  unfold State.wake at here
  split at here
  · rcases here with full | parked
    · cases full
    · cases parked
  · rename_i running
    rcases here with full | parked
    · obtain ⟨waker, wakes⟩ := another task full
      exact ⟨waker, wakes.imp_left wakes_wake⟩
    · exact absurd parked running

variable [DecidableEq Task]

theorem wakeComing_enter {task : Task} {next : Phase}
    (keeps : (state.phase task).wakes = true → next.wakes = true)
    (coming : state.WakeComing limits) : (state.enter task next).WakeComing limits := by
  obtain ⟨other, wakes⟩ := coming
  refine ⟨other, ?_⟩
  by_cases same : other = task
  · rw [same] at wakes ⊢
    rcases wakes with permit | record
    · left
      rw [State.enter_phase_self]
      exact keeps permit
    · exact Or.inr record
  · rw [State.enter_phase_of_ne same]
    exact wakes

theorem woken_enter {task : Task} {next : Phase} (woken : state.Woken limits)
    (keeps : (state.phase task).wakes = true → next.wakes = true)
    (waits : next = .full ∨ next = .parked → state.WakeComing limits) :
    (state.enter task next).Woken limits := by
  intro other asleep
  apply wakeComing_enter keeps
  by_cases same : other = task
  · rw [same, State.enter_phase_self] at asleep
    exact waits asleep
  · rw [State.enter_phase_of_ne same] at asleep
    exact woken other asleep

theorem woken_enterRecord {task : Task} {next : RecordPhase Millis} (woken : state.Woken limits)
    (keeps : (state.record task).wakes limits = true → next.wakes limits = true) :
    (state.enterRecord task next).Woken limits := by
  intro other asleep
  obtain ⟨waker, wakes⟩ := woken other asleep
  refine ⟨waker, ?_⟩
  by_cases same : waker = task
  · rw [same] at wakes ⊢
    rcases wakes with permit | record
    · exact Or.inl permit
    · right
      rw [State.enterRecord_record_self]
      exact keeps record
  · rw [State.enterRecord_record_of_ne same]
    exact wakes

end Waiting

section Invariant

variable {Task Millis : Type} [Fintype Task] {limits : Limits} {state : State Task Millis}

/-- The counters are those of the tasks, the limit stays in its bounds, and nobody goes by more
than the limit. -/
structure State.Counted (limits : Limits) (state : State Task Millis) : Prop where
  bounds : state.Bounded limits
  active : state.active = state.live
  seats : state.available + count Phase.seated state.phase = limits.max
  permits : state.active ≤ state.granted
  fits : ∀ task, (state.phase task).fits state.current = true

theorem State.Counted.good (counted : state.Counted limits) (woken : state.Woken limits) :
    state.Good limits where
  bounds := counted.bounds
  permits := counted.active ▸ counted.permits
  woken := by
    rintro task (⟨_, no_wake, parked⟩ | ⟨_, no_seat, free⟩)
    · exact no_wake (woken task (Or.inr parked))
    · have seats := counted.seats
      have some_seated : 0 < count Phase.seated state.phase := by
        have positive := limits.positive
        have ordered := limits.ordered
        omega
      obtain ⟨other, seated⟩ := count_pos.mp some_seated
      rw [free other] at seated
      cases seated

omit [Fintype Task] in
theorem fits_wake {phase : Task → Phase} {limit : Nat}
    (fits : ∀ task, (phase task).fits limit = true) (task : Task) :
    (State.wake phase task).fits limit = true := by
  unfold State.wake
  split
  · rfl
  · exact fits task

theorem State.Counted.notifyWaiters (counted : state.Counted limits) :
    state.notifyWaiters.Counted limits where
  bounds := counted.bounds
  active := by
    rw [State.live, State.notifyWaiters, count_wake rfl]
    exact counted.active
  seats := by
    rw [State.notifyWaiters, count_wake rfl]
    exact counted.seats
  permits := counted.permits
  fits := fits_wake counted.fits

theorem clamp_bounds (limits : Limits) (value : Nat) :
    limits.min ≤ clamp limits.min limits.max value ∧
      clamp limits.min limits.max value ≤ limits.max := by
  have ordered := limits.ordered
  unfold clamp
  omega

theorem State.Counted.mono {later : State Task Millis} (counted : state.Counted limits)
    (phase : later.phase = state.phase) (active : later.active = state.active)
    (available : later.available = state.available) (granted : later.granted = state.granted)
    (bounds : later.Bounded limits)
    (fits : ∀ task, (state.phase task).fits later.current = true) : later.Counted limits where
  bounds := bounds
  active := by
    rw [State.live, active, phase]
    exact counted.active
  seats := by
    rw [available, phase]
    exact counted.seats
  permits := by
    rw [active, granted]
    exact counted.permits
  fits := by
    rw [phase]
    exact fits

theorem counted_new (arithmetic : LatencyArithmetic Millis) (limits : Limits) (initial : Nat) :
    State.Counted limits (State.new arithmetic limits initial : State Task Millis) := by
  have nobody : ∀ counts : Phase → Bool, counts .idle = false →
      count counts (fun _ : Task => Phase.idle) = 0 := by
    intro counts idle
    by_contra some_task
    obtain ⟨task, counted⟩ := count_pos.mp (Nat.pos_of_ne_zero some_task)
    rw [idle] at counted
    cases counted
  constructor
  · exact clamp_bounds limits initial
  · exact (nobody Phase.live rfl).symm
  · simp only [State.new]
    rw [nobody Phase.seated rfl, Nat.add_zero]
  · exact Nat.le_refl 0
  · exact fun _ => rfl

variable [DecidableEq Task]

theorem State.Counted.enter (counted : state.Counted limits) {task : Task} {next : Phase}
    {active available granted : Nat}
    (slots : active + (state.phase task).live.toNat = state.active + next.live.toNat)
    (seats : available + next.seated.toNat = state.available + (state.phase task).seated.toNat)
    (permits : active ≤ granted) (fits : next.fits state.current = true) :
    State.Counted limits { state.enter task next with
      active := active, available := available, granted := granted } where
  bounds := counted.bounds
  active := by
    have moved := count_update Phase.live state.phase task next
    have before : state.active = count Phase.live state.phase := counted.active
    show active = count Phase.live (Function.update state.phase task next)
    omega
  seats := by
    have moved := count_update Phase.seated state.phase task next
    have before := counted.seats
    show available + count Phase.seated (Function.update state.phase task next) = limits.max
    omega
  permits := permits
  fits := by
    intro other
    by_cases same : other = task
    · rw [same]
      exact (congrArg _ (State.enter_phase_self state task next)).trans fits
    · exact (congrArg _ (State.enter_phase_of_ne same)).trans (counted.fits other)

omit [DecidableEq Task] in
/-- Where there is no room some permit is live, and its drop will notify. -/
theorem wakeComing_of_full (counted : state.Counted limits) {current : Nat}
    (positive : 0 < current) (full : ¬ state.active < current) : state.WakeComing limits := by
  have some_live : 0 < count Phase.live state.phase := by
    have active : state.active = count Phase.live state.phase := counted.active
    omega
  obtain ⟨other, live⟩ := count_pos.mp some_live
  refine ⟨other, Or.inl ?_⟩
  cases here : state.phase other <;> rw [here] at live <;> first | rfl | cases live

theorem kept_advance (counted : state.Counted limits) (woken : state.Woken limits) {task : Task}
    (timely : state.Timely limits (.advance task)) :
    (state.advance task).Counted limits ∧ (state.advance task).Woken limits := by
  have permits := counted.permits
  have own := counted.fits task
  unfold State.advance
  cases here : state.phase task with
  | idle | parked | holding => exact ⟨counted, woken⟩
  | looking =>
      have bounds := counted.bounds.1
      have positive := limits.positive
      refine ⟨counted.enter (by rw [here]; rfl) (by rw [here]; rfl) permits ?_,
        woken_enter woken (by rw [here]; nofun) (by simp)⟩
      exact decide_eq_true ⟨by omega, Nat.le_refl _⟩
  | loaded current =>
      rw [here] at own
      obtain ⟨positive, below⟩ := of_decide_eq_true own
      dsimp only
      split
      · rename_i room
        exact ⟨counted.enter (by rw [here]; rfl) (by rw [here]; rfl) permits
          (decide_eq_true (Nat.lt_of_lt_of_le room below)),
          woken_enter woken (by rw [here]; nofun) (by simp)⟩
      · rename_i full
        exact ⟨counted.enter (by rw [here]; rfl) (by rw [here]; rfl) permits rfl,
          woken_enter woken (by rw [here]; nofun)
            fun _ => wakeComing_of_full counted positive full⟩
  | claiming active =>
      rw [here] at own
      have room := of_decide_eq_true own
      dsimp only
      split
      · rename_i unchanged
        exact ⟨counted.enter (by rw [here, ← unchanged]; rfl) (by rw [here]; rfl) (by omega) rfl,
          woken_enter woken (by rw [here]; nofun) (by simp)⟩
      · exact ⟨counted.enter (by rw [here]; rfl) (by rw [here]; rfl) permits rfl,
          woken_enter woken (by rw [here]; nofun) (by simp)⟩
  | full =>
      exact ⟨counted.enter (by rw [here]; rfl) (by rw [here]; rfl) permits rfl,
        woken_enter woken (by rw [here]; nofun) fun _ => woken task (Or.inl here)⟩
  | waiting =>
      dsimp only
      split
      · rename_i free
        refine ⟨counted.enter (by rw [here]; rfl) ?_ permits rfl,
          woken_enter woken (fun _ => rfl) (by simp)⟩
        rw [here]
        simp only [Phase.seated, Bool.toNat_true, Bool.toNat_false]
        omega
      · exact ⟨counted, woken⟩
  | dropping =>
      have left : State.Counted limits (state.enter task .releasing) :=
        counted.enter (by rw [here]; rfl) (by rw [here]; rfl) permits rfl
      refine ⟨left.notifyWaiters, woken_notifyWaiters fun other full => ?_⟩
      have different : other ≠ task := by
        intro same
        rw [same, State.enter_phase_self] at full
        cases full
      rw [State.enter_phase_of_ne different] at full
      obtain ⟨waker, ⟨apart, wakes⟩ | wakes⟩ := timely here other full
      · exact ⟨waker, Or.inl ((congrArg _ (State.enter_phase_of_ne apart)).trans wakes)⟩
      · exact ⟨waker, Or.inr wakes⟩
  | releasing =>
      exact ⟨counted.enter (by rw [here]; rfl) (by rw [here]; rfl) permits rfl,
        woken_enter woken (by rw [here]; nofun) (by simp)⟩

theorem adjusted_wakes {current : Nat} {delta : Int}
    (fails : adjusted limits current delta = none) :
    (RecordPhase.adjusting delta : RecordPhase Millis).wakes limits = false := by
  rw [RecordPhase.wakes, decide_eq_false_iff_not]
  intro inOrder
  rw [adjusted, if_neg (Int.not_lt.mpr inOrder)] at fails
  cases fails

theorem kept_advanceRecord (arithmetic : LatencyArithmetic Millis)
    (counted : state.Counted limits) (woken : state.Woken limits) {task : Task}
    (timely : state.Timely limits (.advanceRecord task)) :
    (state.advanceRecord arithmetic limits task).Counted limits ∧
      (state.advanceRecord arithmetic limits task).Woken limits := by
  cases here : state.record task with
  | idle =>
      simp only [State.advanceRecord, here]
      exact ⟨counted, woken⟩
  | sampling latency =>
      simp only [State.advanceRecord, here]
      exact ⟨counted.mono rfl rfl rfl rfl counted.bounds counted.fits,
        woken_enterRecord woken (by rw [here]; nofun)⟩
  | averaging latency samples =>
      simp only [State.advanceRecord, here]
      exact ⟨counted.mono rfl rfl rfl rfl counted.bounds counted.fits,
        woken_enterRecord woken (by rw [here]; nofun)⟩
  | adjusting delta =>
      simp only [State.advanceRecord, here]
      refine ⟨counted.mono rfl rfl rfl rfl counted.bounds counted.fits,
        woken_enterRecord woken ?_⟩
      rw [here]
      cases next : adjusted limits state.current delta with
      | some next => exact fun _ => rfl
      | none =>
          rw [adjusted_wakes next]
          exact nofun
  | halving =>
      simp only [State.advanceRecord, here]
      exact ⟨counted.mono rfl rfl rfl rfl counted.bounds counted.fits,
        woken_enterRecord woken fun _ => rfl⟩
  | storing next =>
      simp only [State.Timely, here] at timely
      simp only [State.advanceRecord, here]
      exact ⟨counted.mono rfl rfl rfl rfl (clamp_bounds limits next) timely,
        woken_enterRecord woken fun _ => rfl⟩
  | notifying =>
      simp only [State.Timely, here] at timely
      simp only [State.advanceRecord, here]
      have left : State.Counted limits (state.enterRecord task .idle) :=
        counted.mono rfl rfl rfl rfl counted.bounds counted.fits
      refine ⟨left.notifyWaiters, woken_notifyWaiters fun other full => ?_⟩
      obtain ⟨waker, wakes | ⟨apart, wakes⟩⟩ := timely other full
      · exact ⟨waker, Or.inl wakes⟩
      · exact ⟨waker, Or.inr ((congrArg _ (State.enterRecord_record_of_ne apart)).trans wakes)⟩

theorem kept_step (arithmetic : LatencyArithmetic Millis) (event : Event Task Millis)
    (counted : state.Counted limits) (woken : state.Woken limits)
    (timely : state.Timely limits event) :
    (state.step arithmetic limits event).Counted limits ∧
      (state.step arithmetic limits event).Woken limits := by
  have permits := counted.permits
  cases event with
  | acquire task =>
      simp only [State.step]
      split
      · rename_i here
        exact ⟨counted.enter (by rw [here]; rfl) (by rw [here]; rfl) permits rfl,
          woken_enter woken (by rw [here]; nofun) (by simp)⟩
      · exact ⟨counted, woken⟩
  | drop task =>
      simp only [State.step]
      split
      · rename_i here
        have some_live : 0 < state.active := by
          rw [counted.active]
          apply count_pos.mpr
          exact ⟨task, by rw [here]; rfl⟩
        refine ⟨counted.enter ?_ (by rw [here]; rfl) (Nat.le_trans (Nat.sub_le _ 1) permits) rfl,
          woken_enter woken (fun _ => rfl) (by simp)⟩
        rw [here]
        simp only [Phase.live, Bool.toNat_true, Bool.toNat_false]
        omega
      · exact ⟨counted, woken⟩
  | advance task => exact kept_advance counted woken timely
  | recordSuccess task latency | recordError task failure =>
      cases here : state.record task with
      | idle =>
          simp only [State.step, here]
          exact ⟨counted.mono rfl rfl rfl rfl counted.bounds counted.fits,
            woken_enterRecord woken (by rw [here]; nofun)⟩
      | _ =>
          simp only [State.step, here]
          exact ⟨counted, woken⟩
  | advanceRecord task => exact kept_advanceRecord arithmetic counted woken timely

omit [Fintype Task] in
/-- The limit is stored by `set_current` only, within the bounds. -/
theorem bounded_step (arithmetic : LatencyArithmetic Millis) (event : Event Task Millis)
    (bounded : state.Bounded limits) :
    (state.step arithmetic limits event).Bounded limits := by
  cases event with
  | acquire task | drop task =>
      simp only [State.step]
      split <;> exact bounded
  | recordSuccess task latency | recordError task failure =>
      simp only [State.step]
      split <;> exact bounded
  | advance task =>
      simp only [State.step, State.advance]
      split <;> first | exact bounded | (split <;> exact bounded)
  | advanceRecord task =>
      simp only [State.step, State.advanceRecord]
      split <;> first | exact bounded | exact clamp_bounds limits _

/-- The limit stays in its bounds. No more permits live than a limit in force at a grant, and no
waiter is lost, while no limit is stored below what a task about to exchange goes by, and no last
notification falls between a task's check and its wait. -/
theorem adaptive_good (arithmetic : LatencyArithmetic Millis) (low high initial : Nat)
    (events : List (Event Task Millis)) :
    Throughout (State.step arithmetic (newLimits low high)) (State.Bounded (newLimits low high))
        (State.new arithmetic (newLimits low high) initial) events ∧
      (Along (State.step arithmetic (newLimits low high)) (State.Timely (newLimits low high))
          (State.new arithmetic (newLimits low high) initial) events →
        Throughout (State.step arithmetic (newLimits low high)) (State.Good (newLimits low high))
          (State.new arithmetic (newLimits low high) initial) events) := by
  constructor
  · have start : State.Bounded (newLimits low high)
        (State.new arithmetic (newLimits low high) initial : State Task Millis) :=
      clamp_bounds _ initial
    exact throughout_of_along (fun _ event bounded (_ : True) => bounded_step arithmetic event bounded)
      (fun _ bounded => bounded) start (along_of_forall (fun _ _ => trivial) events)
  · apply throughout_of_along (fun (state : State Task Millis) event
      (kept : state.Counted (newLimits low high) ∧ state.Woken (newLimits low high)) timely =>
        kept_step arithmetic event kept.1 kept.2 timely)
    · exact fun _ kept => kept.1.good kept.2
    · exact ⟨counted_new _ _ _, woken_new _ _⟩

end Invariant

def noLatency : LatencyArithmetic Unit where
  zero := ()
  average _ _ := ()
  fast _ _ := false
  slow _ _ := false

/-- The second task finds no room, the first drops its permit and notifies, and then the
second starts to wait. -/
def lostWake : List (Event (Fin 2) Unit) :=
  [.acquire 0, .advance 0, .advance 0, .advance 0, .advance 0,
    .acquire 1, .advance 1, .advance 1,
    .drop 0, .advance 0, .advance 0, .advance 1]

def staleLimit : List (Event (Fin 2) Unit) :=
  [.acquire 0, .advance 0, .acquire 1, .advance 1,
    .recordError 0 .rateLimited, .advanceRecord 0, .advanceRecord 0, .advanceRecord 0,
    .advance 0, .advance 0, .advance 1, .advance 1]

/-- Three tasks on two slots: the third one waits, is woken by the drop of the first and goes on
after the limit was lowered. -/
def orderly : List (Event (Fin 3) Unit) :=
  [.acquire 0, .advance 0, .advance 0, .advance 0, .advance 0,
    .acquire 1, .advance 1, .advance 1, .advance 1, .advance 1,
    .acquire 2, .advance 2, .advance 2, .advance 2,
    .recordError 0 .rateLimited, .advanceRecord 0, .advanceRecord 0, .advanceRecord 0,
    .drop 0, .advance 0, .advance 0, .drop 1, .advance 1, .advance 1,
    .advance 2, .advance 2, .advance 2, .advance 2]

theorem adaptive_good_orderly :
    Throughout (State.step noLatency (newLimits 1 2)) (State.Good (newLimits 1 2))
      (State.new noLatency (newLimits 1 2) 2) orderly :=
  (adaptive_good noLatency 1 2 2 orderly).2 (by decide +kernel)

theorem waiter_lost_and_limit_passed :
    (lostWake.foldl (State.step noLatency (newLimits 1 1))
        (State.new noLatency (newLimits 1 1) 1)).Stalled (newLimits 1 1) 1 ∧
      (staleLimit.foldl (State.step noLatency (newLimits 1 2))
        (State.new noLatency (newLimits 1 2) 2)).granted = 1 ∧
      (staleLimit.foldl (State.step noLatency (newLimits 1 2))
        (State.new noLatency (newLimits 1 2) 2)).live = 2 := by
  decide

end Noland.Storage.Adaptive
