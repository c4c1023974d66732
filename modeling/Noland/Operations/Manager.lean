import Mathlib.Data.List.Basic
import Mathlib.Logic.Function.Basic
import Noland.Core.Manifest
import Noland.Lib.Machine

/-!
The outer part of a task waits for the gate of its lane, starts a worker that carries the permit,
and calls back when the worker did not complete; its guard takes the operation off the table when
it ends. The worker runs the body until the body returns or panics or a cancellation is seen. A
body records its own outcome in the poll in which it returns.
-/

namespace Noland.Operations

open Noland.Core Noland.Machine

inductive CancelOutcome where
  | requested
  | alreadyRequested
  | notRunning
  deriving DecidableEq

inductive OperationLane where
  | control
  | transfer
  deriving DecidableEq

/-- An entry of the table. The signal is the value in the channel to the task. -/
structure RunningOperation where
  signal : Bool
  cancelRequested : Bool
  queuedAt : Nat
  startedAt : Option Nat
  deriving DecidableEq

inductive WorkerOutcome where
  | completed
  | cancelled
  | panicked
  deriving DecidableEq

inductive TerminalOutcome where
  | completed
  | failed
  | cancelled
  deriving DecidableEq

inductive Phase where
  | waiting
  | admitted
  | executing
  -- The body is over, the permit not yet given back.
  | leaving (outcome : WorkerOutcome)
  | joined (outcome : WorkerOutcome)
  | closing
  | terminated
  deriving DecidableEq

/-- One spawned operation, and the terminal outcomes recorded for it. -/
structure Task where
  operationId : Uuid
  lane : OperationLane
  phase : Phase
  outcomes : List TerminalOutcome
  deriving DecidableEq

/-- Who holds the permit of a gate: a spawned operation, or a call of `run_exclusive`. -/
inductive Holder where
  | operation (index : Nat)
  | exclusive
  deriving DecidableEq

structure World where
  running : Uuid → Option RunningOperation
  tasks : List Task
  gates : OperationLane → Option Holder

def World.start : World where
  running := fun _ => none
  tasks := []
  gates := fun _ => none

def World.spawnCancellableOnLane (world : World) (operationId : Uuid) (lane : OperationLane)
    (now : Nat) : Bool × World :=
  match world.running operationId with
  | some _ => (false, world)
  | none =>
      (true,
        { running := Function.update world.running operationId
            (some { signal := false, cancelRequested := false, queuedAt := now, startedAt := none })
          tasks := world.tasks ++ [⟨operationId, lane, .waiting, []⟩]
          gates := world.gates })

/-- The worker has the receiving end of the channel, before it the outer part. -/
def Phase.receives : Phase → Bool
  | .waiting | .admitted | .executing | .leaving _ => true
  | .joined _ | .closing | .terminated => false

def World.received (world : World) (operationId : Uuid) : Bool :=
  world.tasks.any fun task => task.operationId = operationId && task.phase.receives

def World.cancel (world : World) (operationId : Uuid) : CancelOutcome × World :=
  match world.running operationId with
  | none => (.notRunning, world)
  | some operation =>
      if operation.cancelRequested then (.alreadyRequested, world)
      else if !world.received operationId then (.notRunning, world)
      else
        (.requested,
          { world with
            running := Function.update world.running operationId
              (some { operation with signal := true, cancelRequested := true }) })

/-- `wait_for_cancellation` returns when the signal is set, and also when the sender is gone. -/
def World.cancelled (world : World) (operationId : Uuid) : Bool :=
  match world.running operationId with
  | none => true
  | some operation => operation.signal

inductive TaskEvent where
  | acquire
  | begin (now : Nat)
  | seeCancellation
  | returned (recorded : Option TerminalOutcome)
  | panicked
  | release
  -- What is called after the worker, and whether it could record the outcome.
  | callBack (recorded : Bool)
  | dropGuard

inductive Event where
  | spawn (operationId : Uuid) (lane : OperationLane) (now : Nat)
  | cancel (operationId : Uuid)
  | enterExclusive
  | leaveExclusive
  | task (index : Nat) (event : TaskEvent)

def World.put (world : World) (index : Nat) (task : Task) : World :=
  { world with tasks := world.tasks.set index task }

/-- What `on_cancelled` and `on_terminated` record. -/
def calledBack : WorkerOutcome → Bool → List TerminalOutcome
  | .cancelled, true => [.cancelled]
  | .panicked, true => [.failed]
  | _, _ => []

def noteStarted (running : Uuid → Option RunningOperation) (operationId : Uuid) (now : Nat) :
    Uuid → Option RunningOperation :=
  match running operationId with
  | none => running
  | some operation =>
      Function.update running operationId (some { operation with startedAt := some now })

def World.act (world : World) (index : Nat) (task : Task) (event : TaskEvent) : World :=
  match event, task.phase with
  | .acquire, .waiting =>
      if world.gates task.lane = none then
        { world.put index { task with phase := .admitted } with
          gates := Function.update world.gates task.lane (some (.operation index)) }
      else world
  | .seeCancellation, .waiting =>
      if world.cancelled task.operationId then
        world.put index { task with phase := .joined .cancelled }
      else world
  | .begin now, .admitted =>
      { world.put index { task with phase := .executing } with
        running := noteStarted world.running task.operationId now }
  | .seeCancellation, .executing =>
      if world.cancelled task.operationId then
        world.put index { task with phase := .leaving .cancelled }
      else world
  | .returned recorded, .executing =>
      world.put index { task with
        phase := .leaving .completed
        outcomes := task.outcomes ++ recorded.toList }
  | .panicked, .executing => world.put index { task with phase := .leaving .panicked }
  | .release, .leaving outcome =>
      { world.put index { task with phase := .joined outcome } with
        gates := Function.update world.gates task.lane none }
  | .callBack recorded, .joined outcome =>
      world.put index { task with
        phase := .closing
        outcomes := task.outcomes ++ calledBack outcome recorded }
  | .dropGuard, .closing =>
      { world.put index { task with phase := .terminated } with
        running := Function.update world.running task.operationId none }
  | _, _ => world

def World.step (world : World) : Event → World
  | .spawn operationId lane now => (world.spawnCancellableOnLane operationId lane now).2
  | .cancel operationId => (world.cancel operationId).2
  | .enterExclusive =>
      if world.gates .control = none then
        { world with gates := Function.update world.gates .control (some .exclusive) }
      else world
  | .leaveExclusive =>
      if world.gates .control = some .exclusive then
        { world with gates := Function.update world.gates .control none }
      else world
  | .task index event =>
      match world.tasks[index]? with
      | none => world
      | some task => world.act index task event

def Phase.holdsPermit : Phase → Bool
  | .admitted | .executing | .leaving _ => true
  | .waiting | .joined _ | .closing | .terminated => false

def Phase.unrecorded : Phase → Bool
  | .waiting | .admitted | .executing => true
  | .leaving outcome | .joined outcome => outcome != .completed
  | .closing | .terminated => false

def SameIds (before after : Uuid → Option RunningOperation) : Prop :=
  ∀ operationId, (after operationId).isSome = (before operationId).isSome

def GateFollows (world : World) (index : Nat) (task next : Task)
    (gates : OperationLane → Option Holder) : Prop :=
  gates = world.gates ∧ next.phase.holdsPermit = task.phase.holdsPermit ∨
  task.phase.holdsPermit = false ∧ next.phase.holdsPermit = true ∧
    world.gates task.lane = none ∧
    gates = Function.update world.gates task.lane (some (.operation index)) ∨
  task.phase.holdsPermit = true ∧ next.phase.holdsPermit = false ∧
    gates = Function.update world.gates task.lane none

def TableFollows (world : World) (task next : Task) (running : Uuid → Option RunningOperation) :
    Prop :=
  SameIds world.running running ∧ next.phase ≠ .terminated ∨
  next.phase = .terminated ∧ running = Function.update world.running task.operationId none

def RecordFollows (task next : Task) : Prop :=
  next.outcomes = task.outcomes ∧
    (next.phase.unrecorded = true → task.phase.unrecorded = true) ∨
  task.phase.unrecorded = true ∧ next.phase.unrecorded = false ∧
    ∃ recorded : Option TerminalOutcome, next.outcomes = task.outcomes ++ recorded.toList

structure Moves (world : World) (index : Nat) (task : Task) (after : World) : Prop where
  moved : ∃ next : Task, after.tasks = world.tasks.set index next ∧
    next.operationId = task.operationId ∧ next.lane = task.lane ∧
    GateFollows world index task next after.gates ∧
    TableFollows world task next after.running ∧ RecordFollows task next
  alive : task.phase ≠ .terminated

theorem noteStarted_ids (running : Uuid → Option RunningOperation) (operationId : Uuid)
    (now : Nat) : SameIds running (noteStarted running operationId now) := by
  intro other
  unfold noteStarted
  cases present : running operationId with
  | none => rfl
  | some operation =>
      by_cases same : other = operationId
      · rw [same, present]
        simp
      · simp [Function.update_of_ne same]

theorem World.act_moves (world : World) (index : Nat) (task : Task) (event : TaskEvent) :
    world.act index task event = world ∨ Moves world index task (world.act index task event) := by
  have same : SameIds world.running world.running := fun _ => rfl
  unfold World.act
  split
  · rename_i waiting
    split
    · rename_i free
      refine Or.inr ⟨⟨{ task with phase := .admitted }, rfl, rfl, rfl, ?_, ?_, ?_⟩, ?_⟩
      · exact Or.inr (Or.inl ⟨by rw [waiting]; rfl, rfl, free, rfl⟩)
      · exact Or.inl ⟨same, by simp⟩
      · exact Or.inl ⟨rfl, fun _ => by rw [waiting]; rfl⟩
      · simp [waiting]
    · exact Or.inl rfl
  · rename_i waiting
    split
    · refine Or.inr ⟨⟨_, rfl, rfl, rfl, ?_, ?_, ?_⟩, ?_⟩
      · exact Or.inl ⟨rfl, by rw [waiting]; rfl⟩
      · exact Or.inl ⟨same, by simp⟩
      · exact Or.inl ⟨rfl, fun _ => by rw [waiting]; rfl⟩
      · simp [waiting]
    · exact Or.inl rfl
  · rename_i now admitted
    refine Or.inr ⟨⟨{ task with phase := .executing }, rfl, rfl, rfl, ?_, ?_, ?_⟩, ?_⟩
    · exact Or.inl ⟨rfl, by rw [admitted]; rfl⟩
    · exact Or.inl ⟨noteStarted_ids world.running task.operationId now, by simp⟩
    · exact Or.inl ⟨rfl, fun _ => by rw [admitted]; rfl⟩
    · simp [admitted]
  · rename_i executing
    split
    · refine Or.inr ⟨⟨_, rfl, rfl, rfl, ?_, ?_, ?_⟩, ?_⟩
      · exact Or.inl ⟨rfl, by rw [executing]; rfl⟩
      · exact Or.inl ⟨same, by simp⟩
      · exact Or.inl ⟨rfl, fun _ => by rw [executing]; rfl⟩
      · simp [executing]
    · exact Or.inl rfl
  · rename_i recorded executing
    refine Or.inr ⟨⟨_, rfl, rfl, rfl, ?_, ?_, ?_⟩, ?_⟩
    · exact Or.inl ⟨rfl, by rw [executing]; rfl⟩
    · exact Or.inl ⟨same, by simp⟩
    · exact Or.inr ⟨by rw [executing]; rfl, rfl, recorded, rfl⟩
    · simp [executing]
  · rename_i executing
    refine Or.inr ⟨⟨_, rfl, rfl, rfl, ?_, ?_, ?_⟩, ?_⟩
    · exact Or.inl ⟨rfl, by rw [executing]; rfl⟩
    · exact Or.inl ⟨same, by simp⟩
    · exact Or.inl ⟨rfl, fun _ => by rw [executing]; rfl⟩
    · simp [executing]
  · rename_i outcome leaving
    refine Or.inr ⟨⟨{ task with phase := .joined outcome }, rfl, rfl, rfl, ?_, ?_, ?_⟩, ?_⟩
    · exact Or.inr (Or.inr ⟨by rw [leaving]; rfl, rfl, rfl⟩)
    · exact Or.inl ⟨same, by simp⟩
    · exact Or.inl ⟨rfl, fun unrecorded => by rw [leaving]; exact unrecorded⟩
    · simp [leaving]
  · rename_i recorded outcome joined
    refine Or.inr ⟨⟨_, rfl, rfl, rfl, ?_, ?_, ?_⟩, ?_⟩
    · exact Or.inl ⟨rfl, by rw [joined]; rfl⟩
    · exact Or.inl ⟨same, by simp⟩
    · cases outcome with
      | completed => exact Or.inl ⟨List.append_nil _, fun unrecorded => by cases unrecorded⟩
      | cancelled =>
          cases recorded with
          | false => exact Or.inl ⟨List.append_nil _, fun unrecorded => by cases unrecorded⟩
          | true => exact Or.inr ⟨by rw [joined]; rfl, rfl, some .cancelled, rfl⟩
      | panicked =>
          cases recorded with
          | false => exact Or.inl ⟨List.append_nil _, fun unrecorded => by cases unrecorded⟩
          | true => exact Or.inr ⟨by rw [joined]; rfl, rfl, some .failed, rfl⟩
    · simp [joined]
  · rename_i closing
    refine Or.inr ⟨⟨{ task with phase := .terminated }, rfl, rfl, rfl, ?_, ?_, ?_⟩, ?_⟩
    · exact Or.inl ⟨rfl, by rw [closing]; rfl⟩
    · exact Or.inr ⟨rfl, rfl⟩
    · exact Or.inl ⟨rfl, fun unrecorded => by cases unrecorded⟩
    · simp [closing]
  · exact Or.inl rfl

def World.At (world : World) (index : Nat) (holds : Task → Prop) : Prop :=
  ∃ task, world.tasks[index]? = some task ∧ holds task

def Task.Alive (operationId : Uuid) (task : Task) : Prop :=
  task.operationId = operationId ∧ task.phase ≠ .terminated

def Task.Holding (lane : OperationLane) (task : Task) : Prop :=
  task.lane = lane ∧ task.phase.holdsPermit = true

def Task.Recorded (task : Task) : Prop :=
  task.outcomes.length ≤ 1 ∧ (task.phase.unrecorded = true → task.outcomes = [])

/-- An operation is in the table exactly if one task of it has not terminated; the permit of a
gate is with the task that holds it; and no task records twice. -/
structure World.Sound (world : World) : Prop where
  registered : ∀ operationId, (world.running operationId).isSome = true ↔
    ∃ index, world.At index (Task.Alive operationId)
  unique : ∀ operationId left right, world.At left (Task.Alive operationId) →
    world.At right (Task.Alive operationId) → left = right
  gated : ∀ lane index, world.gates lane = some (.operation index) ↔
    world.At index (Task.Holding lane)
  recorded : ∀ task ∈ world.tasks, task.Recorded

theorem World.Sound.start : World.start.Sound where
  registered := by simp [World.start, World.At]
  unique := by simp [World.start, World.At]
  gated := by simp [World.start, World.At]
  recorded := by simp [World.start]

section Moves

variable {world after : World} {index : Nat} {task next : Task}

theorem at_set (found : world.tasks[index]? = some task)
    (tasks : after.tasks = world.tasks.set index next) (other : Nat) (holds : Task → Prop) :
    after.At other holds ↔ if other = index then holds next else world.At other holds := by
  have inside : index < world.tasks.length := (List.getElem?_eq_some_iff.mp found).1
  unfold World.At
  rw [tasks]
  by_cases same : other = index
  · rw [if_pos same, same, List.getElem?_set_self inside]
    simp
  · rw [if_neg same, List.getElem?_set_ne (Ne.symm same)]

theorem at_found (found : world.tasks[index]? = some task) (holds : Task → Prop) :
    world.At index holds ↔ holds task := by
  simp [World.At, found]

theorem Moves.alive_iff {operationId : Uuid} (found : world.tasks[index]? = some task)
    (tasks : after.tasks = world.tasks.set index next)
    (sameId : next.operationId = task.operationId) (alive : task.phase ≠ .terminated)
    (goesOn : next.phase ≠ .terminated) (other : Nat) :
    after.At other (Task.Alive operationId) ↔ world.At other (Task.Alive operationId) := by
  rw [at_set found tasks]
  split
  · rename_i same
    rw [same, at_found found]
    simp [Task.Alive, sameId, alive, goesOn]
  · rfl

theorem TableFollows.registered (follows : TableFollows world task next after.running)
    (sound : world.Sound) (found : world.tasks[index]? = some task)
    (tasks : after.tasks = world.tasks.set index next)
    (sameId : next.operationId = task.operationId) (alive : task.phase ≠ .terminated)
    (operationId : Uuid) :
    (after.running operationId).isSome = true ↔
      ∃ other, after.At other (Task.Alive operationId) := by
  obtain ⟨sameIds, goesOn⟩ | ⟨ended, running⟩ := follows
  · rw [sameIds operationId, sound.registered operationId]
    exact exists_congr fun other =>
      (Moves.alive_iff found tasks sameId alive goesOn other).symm
  · rw [running]
    by_cases own : operationId = task.operationId
    · rw [own, Function.update_self]
      refine iff_of_false (by simp) ?_
      rintro ⟨other, found'⟩
      rw [at_set found tasks] at found'
      split at found'
      · exact found'.2 ended
      · rename_i apart
        have here : world.At index (Task.Alive task.operationId) :=
          (at_found found _).mpr ⟨rfl, alive⟩
        exact apart (sound.unique _ _ _ found' here)
    · rw [Function.update_of_ne own, sound.registered operationId]
      apply exists_congr
      intro other
      rw [at_set found tasks]
      split
      · rename_i same
        rw [same, at_found found]
        exact iff_of_false (fun living => own living.1.symm) fun living => living.2 ended
      · rfl

theorem Moves.stays_unique (sound : world.Sound) (found : world.tasks[index]? = some task)
    (tasks : after.tasks = world.tasks.set index next)
    (sameId : next.operationId = task.operationId) (alive : task.phase ≠ .terminated)
    (operationId : Uuid) {left right : Nat}
    (atLeft : after.At left (Task.Alive operationId))
    (atRight : after.At right (Task.Alive operationId)) : left = right := by
  have before : ∀ other, after.At other (Task.Alive operationId) →
      world.At other (Task.Alive operationId) := by
    intro other living
    rw [at_set found tasks] at living
    split at living
    · rename_i same
      rw [same, at_found found]
      exact ⟨sameId.symm.trans living.1, alive⟩
    · exact living
  exact sound.unique operationId left right (before left atLeft) (before right atRight)

theorem GateFollows.gated (follows : GateFollows world index task next after.gates)
    (sound : world.Sound) (found : world.tasks[index]? = some task)
    (tasks : after.tasks = world.tasks.set index next) (sameLane : next.lane = task.lane)
    (lane : OperationLane) (other : Nat) :
    after.gates lane = some (.operation other) ↔ after.At other (Task.Holding lane) := by
  have before := sound.gated lane other
  rw [at_set found tasks]
  obtain ⟨gates, same⟩ | ⟨idle, holds, free, gates⟩ | ⟨held, gives, gates⟩ := follows
  · rw [gates, before]
    split
    · rename_i here
      rw [here, at_found found]
      simp [Task.Holding, sameLane, same]
    · rfl
  · rw [gates]
    by_cases own : lane = task.lane
    · rw [own, Function.update_self]
      split
      · rename_i here
        simp [here, Task.Holding, sameLane, holds]
      · rename_i apart
        rw [own, free] at before
        refine iff_of_false ?_ fun there => nomatch before.mpr there
        intro same
        exact apart (Holder.operation.inj (Option.some.inj same)).symm
    · rw [Function.update_of_ne own, before]
      split
      · rename_i here
        rw [here, at_found found]
        exact iff_of_false (fun there => own there.1.symm)
          fun there => own (there.1.symm.trans sameLane)
      · rfl
  · rw [gates]
    by_cases own : lane = task.lane
    · rw [own, Function.update_self]
      refine iff_of_false nofun ?_
      split
      · intro there
        exact absurd there.2 (by rw [gives]; exact Bool.false_ne_true)
      · rename_i apart
        intro there
        have theirs := (sound.gated task.lane other).mpr there
        have ours := (sound.gated task.lane index).mpr ((at_found found _).mpr ⟨rfl, held⟩)
        rw [ours] at theirs
        exact apart (Holder.operation.inj (Option.some.inj theirs)).symm
    · rw [Function.update_of_ne own, before]
      split
      · rename_i here
        rw [here, at_found found]
        exact iff_of_false (fun there => own there.1.symm)
          fun there => own (there.1.symm.trans sameLane)
      · rfl

theorem RecordFollows.recorded (follows : RecordFollows task next) (before : task.Recorded) :
    next.Recorded := by
  obtain ⟨same, earlier⟩ | ⟨fresh, closed, recorded, added⟩ := follows
  · unfold Task.Recorded
    rw [same]
    exact ⟨before.1, fun unrecorded => before.2 (earlier unrecorded)⟩
  · unfold Task.Recorded
    rw [added, before.2 fresh, closed, List.nil_append]
    refine ⟨?_, fun unrecorded => nomatch unrecorded⟩
    cases recorded <;> simp

theorem Moves.sound (moves : Moves world index task after) (sound : world.Sound)
    (found : world.tasks[index]? = some task) : after.Sound := by
  obtain ⟨next, tasks, sameId, sameLane, gate, table, record⟩ := moves.moved
  constructor
  · exact table.registered sound found tasks sameId moves.alive
  · intro operationId left right
    exact Moves.stays_unique sound found tasks sameId moves.alive operationId
  · exact gate.gated sound found tasks sameLane
  · intro other member
    rw [tasks] at member
    rcases List.mem_or_eq_of_mem_set member with old | new
    · exact sound.recorded other old
    · rw [new]
      exact record.recorded (sound.recorded task (List.mem_of_getElem? found))

end Moves

section Steps

variable {world : World}

theorem World.Sound.of_same (sound : world.Sound) {running : Uuid → Option RunningOperation}
    {gates : OperationLane → Option Holder} (ids : SameIds world.running running)
    (holders : ∀ lane index, gates lane = some (.operation index) ↔
      world.gates lane = some (.operation index)) :
    ({ running := running, tasks := world.tasks, gates := gates } : World).Sound where
  registered := by
    intro operationId
    rw [ids operationId]
    exact sound.registered operationId
  unique := sound.unique
  gated := by
    intro lane index
    rw [holders lane index]
    exact sound.gated lane index
  recorded := sound.recorded

theorem at_append (tasks : List Task) (task : Task) (running : Uuid → Option RunningOperation)
    (gates : OperationLane → Option Holder) (index : Nat) (holds : Task → Prop) :
    World.At { running := running, tasks := tasks ++ [task], gates := gates } index holds ↔
      World.At { running := running, tasks := tasks, gates := gates } index holds ∨
        index = tasks.length ∧ holds task := by
  unfold World.At
  simp only
  rcases Nat.lt_trichotomy index tasks.length with inside | here | outside
  · rw [List.getElem?_append_left inside]
    simp [Nat.ne_of_lt inside]
  · subst here
    simp
  · rw [List.getElem?_eq_none (by simp; omega), List.getElem?_eq_none (Nat.le_of_lt outside)]
    simp [Nat.ne_of_gt outside]

theorem World.Sound.spawn (sound : world.Sound) (operationId : Uuid) (lane : OperationLane)
    (now : Nat) : (world.spawnCancellableOnLane operationId lane now).2.Sound := by
  unfold World.spawnCancellableOnLane
  cases present : world.running operationId with
  | some operation => exact sound
  | none =>
      have nobody : ∀ index, ¬ world.At index (Task.Alive operationId) := by
        intro index living
        have inTable := (sound.registered operationId).mpr ⟨index, living⟩
        rw [present] at inTable
        cases inTable
      constructor
      · intro other
        simp only [at_append]
        by_cases own : other = operationId
        · rw [own, Function.update_self]
          exact iff_of_true rfl ⟨world.tasks.length, Or.inr ⟨rfl, rfl, nofun⟩⟩
        · rw [Function.update_of_ne own, sound.registered other]
          apply exists_congr
          intro index
          refine ⟨Or.inl, fun either => either.resolve_right ?_⟩
          rintro ⟨-, same, -⟩
          exact own same.symm
      · intro other left right atLeft atRight
        rw [at_append] at atLeft atRight
        rcases atLeft with oldLeft | ⟨newLeft, sameLeft, -⟩ <;>
          rcases atRight with oldRight | ⟨newRight, sameRight, -⟩
        · exact sound.unique other left right oldLeft oldRight
        · subst sameRight
          exact absurd oldLeft (nobody left)
        · subst sameLeft
          exact absurd oldRight (nobody right)
        · rw [newLeft, newRight]
      · intro lane' index
        rw [at_append, or_iff_left]
        · exact sound.gated lane' index
        · rintro ⟨-, -, holds⟩
          cases holds
      · intro task member
        rcases List.mem_append.mp member with old | new
        · exact sound.recorded task old
        · rw [List.mem_singleton.mp new]
          exact ⟨Nat.zero_le 1, fun _ => rfl⟩

theorem World.Sound.cancel (sound : world.Sound) (operationId : Uuid) :
    (world.cancel operationId).2.Sound := by
  unfold World.cancel
  cases present : world.running operationId with
  | none => exact sound
  | some operation =>
      dsimp only
      split_ifs
      · exact sound
      · exact sound
      · apply sound.of_same _ fun _ _ => Iff.rfl
        intro other
        by_cases own : other = operationId
        · rw [own, present]
          simp
        · rw [Function.update_of_ne own]

theorem World.Sound.step (sound : world.Sound) (event : Event) : (world.step event).Sound := by
  cases event with
  | spawn operationId lane now => exact sound.spawn operationId lane now
  | cancel operationId => exact sound.cancel operationId
  | enterExclusive =>
      unfold World.step
      dsimp only
      split
      · rename_i free
        apply sound.of_same fun _ => rfl
        intro lane index
        by_cases own : lane = .control
        · rw [own, Function.update_self, free]
          exact iff_of_false nofun nofun
        · rw [Function.update_of_ne own]
      · exact sound
  | leaveExclusive =>
      unfold World.step
      dsimp only
      split
      · rename_i mine
        apply sound.of_same fun _ => rfl
        intro lane index
        by_cases own : lane = .control
        · rw [own, Function.update_self, mine]
          exact iff_of_false nofun nofun
        · rw [Function.update_of_ne own]
      · exact sound
  | task index event =>
      unfold World.step
      dsimp only
      cases found : world.tasks[index]? with
      | none => exact sound
      | some task =>
          rcases world.act_moves index task event with same | moves
          · dsimp only
            rw [same]
            exact sound
          · exact moves.sound sound found

end Steps

/-- In every order of spawns, cancellations and steps, one operation of a lane executes at a time,
an operation is in the table exactly while its one task has not terminated, a further spawn of it
is refused and changes nothing, and a task records at most one terminal outcome. -/
theorem operations_managed (events : List Event) :
    let world := events.foldl World.step World.start
    (∀ (left right : Nat) (first second : Task), world.tasks[left]? = some first →
      world.tasks[right]? = some second → first.lane = second.lane →
      first.phase = .executing → second.phase = .executing → left = right) ∧
    (∀ operationId, (world.running operationId).isSome = true ↔
      ∃! index, world.At index (Task.Alive operationId)) ∧
    (∀ operationId lane now, (world.running operationId).isSome = true →
      world.spawnCancellableOnLane operationId lane now = (false, world)) ∧
    ∀ task ∈ world.tasks, task.outcomes.length ≤ 1 := by
  intro world
  have begun : Reached World.step (· = World.start) (fun _ _ => True) World.start :=
    Reached.start rfl
  have reached : Reached World.step (· = World.start) (fun _ _ => True) world :=
    begun.run fun _ _ _ => trivial
  have sound : world.Sound := by
    apply reached.invariant
    · rintro _ rfl
      exact World.Sound.start
    · exact fun _ event _ before _ => before.step event
  refine ⟨?_, ?_, ?_, ?_⟩
  · intro left right first second atLeft atRight sameLane firstRuns secondRuns
    have leftHolds := (sound.gated first.lane left).mpr
      ⟨first, atLeft, rfl, by rw [firstRuns]; rfl⟩
    have rightHolds := (sound.gated first.lane right).mpr
      ⟨second, atRight, sameLane.symm, by rw [secondRuns]; rfl⟩
    rw [leftHolds] at rightHolds
    exact Holder.operation.inj (Option.some.inj rightHolds)
  · intro operationId
    rw [sound.registered operationId]
    constructor
    · rintro ⟨index, living⟩
      exact ⟨index, living, fun other there => sound.unique operationId _ _ there living⟩
    · exact ExistsUnique.exists
  · intro operationId lane now present
    obtain ⟨operation, entry⟩ := Option.isSome_iff_exists.mp present
    rw [World.spawnCancellableOnLane, entry]
  · exact fun task member => (sound.recorded task member).1

end Noland.Operations
