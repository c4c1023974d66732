import Mathlib.Logic.Relation
import Mathlib.Data.List.Perm.Basic
import Noland.Core.Manifest

/-!
`hash_files_parallel` and `build_packs_parallel` run a feeder, some workers and a coordinator over
two bounded channels. A move is one step of one thread. The receiver of the job channel is owned
by the caller until it returns, so sending to a full channel blocks, also when no worker is left.
-/

namespace Noland.Backup

open Noland.Core

inductive PoolKind where
  | hash
  | pack
  deriving DecidableEq

inductive Worker (Job Result : Type) where
  | waiting
  | receiving
  | received (job : Job)
  | cleared (job : Job)
  | running (job : Job)
  | ran (job : Job) (result : Except StateError Result)
  | finishing (job : Job) (result : Except StateError Result)
  | sending (job : Job) (result : Except StateError Result)
  | sent (failed : Bool)
  | left

inductive Feeder (Job : Type) where
  | next (jobs : List Job)
  | checked (job : Job) (rest : List Job)
  | sending (job : Job) (rest : List Job)
  | finished

inductive Coordinator where
  | draining
  | joining
  | returned
  deriving DecidableEq

structure Pool (Job Result : Type) where
  feeder : Feeder Job
  queue : List Job := []
  workers : List (Worker Job Result)
  results : List (Job × Except StateError Result) := []
  stopped : Bool := false
  cancelled : Bool := false
  collected : List (Job × Result) := []
  firstError : Option StateError := none
  coordinator : Coordinator := .draining

/-- Who takes the next step; a worker that runs a job finds the given world. -/
inductive Move (World : Type) where
  | requestCancel
  | feed
  | work (worker : Nat) (world : World)
  | coordinate

section Moves

variable {Job Result World : Type}

def cancellationError : StateError := .invalid "backup cancellation requested"

def failed {Value : Type} : Except StateError Value → Bool
  | .error _ => true
  | .ok _ => false

def Worker.isReceiving : Worker Job Result → Bool
  | .receiving => true
  | _ => false

def Worker.isLeft : Worker Job Result → Bool
  | .left => true
  | _ => false

def Feeder.isFinished : Feeder Job → Bool
  | .finished => true
  | _ => false

def Pool.capacity (pool : Pool Job Result) : Nat := pool.workers.length * 2

def Pool.put (pool : Pool Job Result) (i : Nat) (worker : Worker Job Result) : Pool Job Result :=
  { pool with workers := pool.workers.set i worker }

def Pool.moveFeeder (pool : Pool Job Result) : Option (Pool Job Result) :=
  match pool.feeder with
  | .next [] => some { pool with feeder := .finished }
  | .next (job :: rest) =>
      some { pool with feeder := if pool.cancelled then .finished else .checked job rest }
  | .checked job rest =>
      some { pool with feeder := if pool.stopped then .finished else .sending job rest }
  | .sending job rest =>
      if pool.queue.length < pool.capacity then
        some { pool with feeder := .next rest, queue := pool.queue ++ [job] }
      else none
  | .finished => none

/-- A step of a worker between two uses of the channels, with the stop flag that
it leaves. -/
def Worker.advance (kind : PoolKind) (work : Job → World → Except StateError Result)
    (world : World) (stopped cancelled : Bool) :
    Worker Job Result → Option (Worker Job Result × Bool)
  | .received job =>
      match kind with
      | .hash => some (if stopped then .left else .cleared job, stopped)
      | .pack =>
          some (if cancelled then .finishing job (.error cancellationError) else .cleared job, stopped)
  | .cleared job =>
      match kind with
      | .hash =>
          some (if cancelled then .finishing job (.error cancellationError) else .running job, stopped)
      | .pack => some (if stopped then .left else .running job, stopped)
  | .running job => some (.ran job (work job world), stopped)
  | .ran job result =>
      match kind with
      | .hash => some (.finishing job result, stopped)
      | .pack =>
          some (.finishing job (if cancelled then .error cancellationError else result), stopped)
  | .finishing job result => some (.sending job result, stopped || failed result)
  | .sent failure =>
      match kind with
      | .hash => some (if failure || cancelled then .left else .waiting, stopped)
      | .pack => some (if failure then .left else .waiting, stopped)
  | .waiting | .receiving | .sending _ _ | .left => none

def Pool.moveWorker (kind : PoolKind) (work : Job → World → Except StateError Result)
    (world : World) (pool : Pool Job Result) (i : Nat) :
    Worker Job Result → Option (Pool Job Result)
  | .waiting =>
      if pool.workers.any Worker.isReceiving then none else some (pool.put i .receiving)
  | .receiving =>
      match pool.queue with
      | job :: rest => some { pool.put i (.received job) with queue := rest }
      | [] => if pool.feeder.isFinished then some (pool.put i .left) else none
  | .sending job result =>
      if pool.results.length < pool.capacity then
        some { pool.put i (.sent (failed result)) with results := pool.results ++ [(job, result)] }
      else none
  | worker =>
      match worker.advance kind work world pool.stopped pool.cancelled with
      | none => none
      | some (later, stopped) => some { pool.put i later with stopped := stopped }

def Pool.collect (pool : Pool Job Result) (job : Job) :
    Except StateError Result → Pool Job Result
  | .ok result => { pool with collected := pool.collected ++ [(job, result)] }
  | .error error =>
      { pool with firstError := if pool.firstError.isNone then some error else pool.firstError }

def Pool.moveCoordinator (pool : Pool Job Result) : Option (Pool Job Result) :=
  match pool.coordinator with
  | .draining =>
      match pool.results with
      | (job, result) :: rest => some ({ pool with results := rest }.collect job result)
      | [] =>
          if pool.workers.all Worker.isLeft then some { pool with coordinator := .joining } else none
  | .joining => if pool.feeder.isFinished then some { pool with coordinator := .returned } else none
  | .returned => none

def Pool.move (kind : PoolKind) (work : Job → World → Except StateError Result)
    (pool : Pool Job Result) : Move World → Option (Pool Job Result)
  | .requestCancel => some { pool with cancelled := true }
  | .feed => pool.moveFeeder
  | .work i world =>
      match pool.workers[i]? with
      | none => none
      | some worker => pool.moveWorker kind work world i worker
  | .coordinate => pool.moveCoordinator

def Pool.outcome (pool : Pool Job Result) : Option (Except StateError (List (Job × Result))) :=
  match pool.coordinator with
  | .returned =>
      match pool.firstError with
      | some error => some (.error error)
      | none => some (.ok pool.collected)
  | _ => none

def startPool (jobs : List Job) (workers : Nat) : Pool Job Result :=
  { feeder := .next jobs, workers := List.replicate workers .waiting }

/-- Moves that are `allowed` in the states they are taken in. -/
def Steps (kind : PoolKind) (work : Job → World → Except StateError Result)
    (allowed : Pool Job Result → Move World → Prop) : Pool Job Result → Pool Job Result → Prop :=
  Relation.ReflTransGen fun pool later =>
    ∃ move, allowed pool move ∧ pool.move kind work move = some later

def Pool.follow (kind : PoolKind) (work : Job → World → Except StateError Result)
    (allowed : Pool Job Result → Move World → Prop) [∀ pool move, Decidable (allowed pool move)] :
    List (Move World) → Pool Job Result → Option (Pool Job Result)
  | [], pool => some pool
  | move :: rest, pool =>
      if allowed pool move then
        match pool.move kind work move with
        | none => none
        | some later => Pool.follow kind work allowed rest later
      else none

theorem follow_steps {kind : PoolKind} {work : Job → World → Except StateError Result}
    {allowed : Pool Job Result → Move World → Prop} [∀ pool move, Decidable (allowed pool move)]
    {moves : List (Move World)} {pool last : Pool Job Result}
    (followed : pool.follow kind work allowed moves = some last) :
    Steps kind work allowed pool last := by
  induction moves generalizing pool with
  | nil =>
      rw [Option.some.inj followed]
      exact Relation.ReflTransGen.refl
  | cons move rest ih =>
      unfold Pool.follow at followed
      split at followed
      · rename_i permitted
        split at followed
        · cases followed
        · rename_i later moved
          exact Relation.ReflTransGen.head ⟨move, permitted, moved⟩ (ih followed)
      · cases followed

def Pool.okResults (pool : Pool Job Result) : Option (List (Job × Result)) :=
  match pool.outcome with
  | some (.ok results) => some results
  | _ => none

theorem okResults_outcome {pool : Pool Job Result} {results : List (Job × Result)}
    (returned : pool.okResults = some results) : pool.outcome = some (.ok results) := by
  unfold Pool.okResults at returned
  split at returned
  · rename_i found
    rw [found, Option.some.inj returned]
  · cases returned

theorem follow_returns {kind : PoolKind} {work : Job → World → Except StateError Result}
    {allowed : Pool Job Result → Move World → Prop} [∀ pool move, Decidable (allowed pool move)]
    {moves : List (Move World)} {pool : Pool Job Result} {View : Type}
    {view : List (Job × Result) → View} {value : View}
    (done : ((pool.follow kind work allowed moves).bind Pool.okResults).map view = some value) :
    ∃ last results, Steps kind work allowed pool last ∧ last.outcome = some (.ok results) ∧
      view results = value := by
  obtain ⟨results, returned, same⟩ := Option.map_eq_some_iff.mp done
  obtain ⟨last, followed, ended⟩ := Option.bind_eq_some_iff.mp returned
  exact ⟨last, results, follow_steps followed, okResults_outcome ended, same⟩

end Moves

section Cases

variable {Job Result World : Type} {kind : PoolKind} {work : Job → World → Except StateError Result}

inductive Advances (kind : PoolKind) (work : Job → World → Except StateError Result)
    (stopped cancelled : Bool) : Worker Job Result → Worker Job Result → Bool → Prop where
  | leaveReceived (job : Job) (flag : stopped = true) :
      Advances kind work stopped cancelled (.received job) .left stopped
  | leaveCleared (job : Job) (flag : stopped = true) :
      Advances kind work stopped cancelled (.cleared job) .left stopped
  | refuseReceived (job : Job) :
      Advances kind work stopped cancelled (.received job)
        (.finishing job (.error cancellationError)) stopped
  | refuseCleared (job : Job) :
      Advances kind work stopped cancelled (.cleared job)
        (.finishing job (.error cancellationError)) stopped
  | refuseRan (job : Job) (result : Except StateError Result) :
      Advances kind work stopped cancelled (.ran job result)
        (.finishing job (.error cancellationError)) stopped
  | clear (job : Job) : Advances kind work stopped cancelled (.received job) (.cleared job) stopped
  | run (job : Job) : Advances kind work stopped cancelled (.cleared job) (.running job) stopped
  | complete (job : Job) (world : World) :
      Advances kind work stopped cancelled (.running job) (.ran job (work job world)) stopped
  | finish (job : Job) (result : Except StateError Result) :
      Advances kind work stopped cancelled (.ran job result) (.finishing job result) stopped
  | store (job : Job) (result : Except StateError Result) :
      Advances kind work stopped cancelled (.finishing job result) (.sending job result)
        (stopped || failed result)
  | leaveFailed : Advances kind work stopped cancelled (.sent true) .left stopped
  | leaveCancelled (hashing : kind = .hash) (flag : cancelled = true) :
      Advances kind work stopped cancelled (.sent false) .left stopped
  | again : Advances kind work stopped cancelled (.sent false) .waiting stopped

theorem advance_advances {world : World} {stopped cancelled flag : Bool}
    {worker later : Worker Job Result}
    (next : worker.advance kind work world stopped cancelled = some (later, flag)) :
    Advances kind work stopped cancelled worker later flag := by
  unfold Worker.advance at next
  cases worker with
  | received job =>
      cases kind with
      | hash =>
          obtain ⟨rfl, rfl⟩ := Prod.mk.inj (Option.some.inj next)
          split
          · exact .leaveReceived job (by assumption)
          · exact .clear job
      | pack =>
          obtain ⟨rfl, rfl⟩ := Prod.mk.inj (Option.some.inj next)
          split
          · exact .refuseReceived job
          · exact .clear job
  | cleared job =>
      cases kind with
      | hash =>
          obtain ⟨rfl, rfl⟩ := Prod.mk.inj (Option.some.inj next)
          split
          · exact .refuseCleared job
          · exact .run job
      | pack =>
          obtain ⟨rfl, rfl⟩ := Prod.mk.inj (Option.some.inj next)
          split
          · exact .leaveCleared job (by assumption)
          · exact .run job
  | running job =>
      obtain ⟨rfl, rfl⟩ := Prod.mk.inj (Option.some.inj next)
      exact .complete job world
  | ran job result =>
      cases kind with
      | hash =>
          obtain ⟨rfl, rfl⟩ := Prod.mk.inj (Option.some.inj next)
          exact .finish job result
      | pack =>
          obtain ⟨rfl, rfl⟩ := Prod.mk.inj (Option.some.inj next)
          split
          · exact .refuseRan job result
          · exact .finish job result
  | finishing job result =>
      obtain ⟨rfl, rfl⟩ := Prod.mk.inj (Option.some.inj next)
      exact .store job result
  | sent failure =>
      cases kind with
      | hash =>
          obtain ⟨rfl, rfl⟩ := Prod.mk.inj (Option.some.inj next)
          cases failure with
          | true => exact .leaveFailed
          | false =>
              cases cancelled with
              | true => exact .leaveCancelled rfl rfl
              | false => exact .again
      | pack =>
          obtain ⟨rfl, rfl⟩ := Prod.mk.inj (Option.some.inj next)
          cases failure with
          | true => exact .leaveFailed
          | false => exact .again
  | waiting => cases next
  | receiving => cases next
  | sending job result => cases next
  | left => cases next

inductive PoolStep (kind : PoolKind) (work : Job → World → Except StateError Result)
    (pool : Pool Job Result) : Move World → Pool Job Result → Prop where
  | request : PoolStep kind work pool .requestCancel { pool with cancelled := true }
  | feedEnd (position : pool.feeder = .next []) :
      PoolStep kind work pool .feed { pool with feeder := .finished }
  | feedCheck (job : Job) (rest : List Job) (position : pool.feeder = .next (job :: rest)) :
      PoolStep kind work pool .feed
        { pool with feeder := if pool.cancelled then .finished else .checked job rest }
  | feedLoad (job : Job) (rest : List Job) (position : pool.feeder = .checked job rest) :
      PoolStep kind work pool .feed
        { pool with feeder := if pool.stopped then .finished else .sending job rest }
  | feedSend (job : Job) (rest : List Job) (position : pool.feeder = .sending job rest)
      (room : pool.queue.length < pool.capacity) :
      PoolStep kind work pool .feed { pool with feeder := .next rest, queue := pool.queue ++ [job] }
  | lock (world : World) (before after : List (Worker Job Result))
      (position : pool.workers = before ++ .waiting :: after)
      (free : pool.workers.any Worker.isReceiving = false) :
      PoolStep kind work pool (.work before.length world)
        { pool with workers := before ++ .receiving :: after }
  | receive (world : World) (before after : List (Worker Job Result)) (job : Job) (rest : List Job)
      (position : pool.workers = before ++ .receiving :: after) (waiting : pool.queue = job :: rest) :
      PoolStep kind work pool (.work before.length world)
        { pool with workers := before ++ .received job :: after, queue := rest }
  | disconnect (world : World) (before after : List (Worker Job Result))
      (position : pool.workers = before ++ .receiving :: after) (empty : pool.queue = [])
      (fed : pool.feeder.isFinished = true) :
      PoolStep kind work pool (.work before.length world)
        { pool with workers := before ++ .left :: after }
  | send (world : World) (before after : List (Worker Job Result)) (job : Job)
      (result : Except StateError Result)
      (position : pool.workers = before ++ .sending job result :: after)
      (room : pool.results.length < pool.capacity) :
      PoolStep kind work pool (.work before.length world)
        { pool with
          workers := before ++ .sent (failed result) :: after
          results := pool.results ++ [(job, result)] }
  | advance (world : World) (before after : List (Worker Job Result))
      (worker later : Worker Job Result) (stopped : Bool)
      (position : pool.workers = before ++ worker :: after)
      (next : Advances kind work pool.stopped pool.cancelled worker later stopped) :
      PoolStep kind work pool (.work before.length world)
        { pool with workers := before ++ later :: after, stopped := stopped }
  | collectOk (job : Job) (result : Result) (rest : List (Job × Except StateError Result))
      (position : pool.coordinator = .draining) (arrived : pool.results = (job, .ok result) :: rest) :
      PoolStep kind work pool .coordinate
        { pool with results := rest, collected := pool.collected ++ [(job, result)] }
  | collectError (job : Job) (error : StateError) (rest : List (Job × Except StateError Result))
      (position : pool.coordinator = .draining)
      (arrived : pool.results = (job, .error error) :: rest) :
      PoolStep kind work pool .coordinate
        { pool with
          results := rest
          firstError := if pool.firstError.isNone then some error else pool.firstError }
  | drained (position : pool.coordinator = .draining) (empty : pool.results = [])
      (gone : pool.workers.all Worker.isLeft = true) :
      PoolStep kind work pool .coordinate { pool with coordinator := .joining }
  | joined (position : pool.coordinator = .joining) (fed : pool.feeder.isFinished = true) :
      PoolStep kind work pool .coordinate { pool with coordinator := .returned }

theorem workers_split {workers : List (Worker Job Result)} {i : Nat} {worker : Worker Job Result}
    (found : workers[i]? = some worker) :
    ∃ before after, workers = before ++ worker :: after ∧ before.length = i ∧
      ∀ later, workers.set i later = before ++ later :: after := by
  obtain ⟨within, here⟩ := List.getElem?_eq_some_iff.mp found
  refine ⟨workers.take i, workers.drop (i + 1), ?_, List.length_take_of_le (Nat.le_of_lt within),
    fun later => ?_⟩
  · rw [← here, List.getElem_cons_drop, List.take_append_drop]
  · rw [List.set_eq_take_append_cons_drop, if_pos within]

variable {pool later : Pool Job Result}

theorem moveFeeder_step (moved : pool.moveFeeder = some later) :
    PoolStep kind work pool .feed later := by
  unfold Pool.moveFeeder at moved
  split at moved
  · rename_i position
    rw [← Option.some.inj moved]
    exact PoolStep.feedEnd position
  · rename_i job rest position
    rw [← Option.some.inj moved]
    exact PoolStep.feedCheck job rest position
  · rename_i job rest position
    rw [← Option.some.inj moved]
    exact PoolStep.feedLoad job rest position
  · rename_i job rest position
    split at moved
    · rename_i room
      rw [← Option.some.inj moved]
      exact PoolStep.feedSend job rest position room
    · cases moved
  · cases moved

theorem moveCoordinator_step (moved : pool.moveCoordinator = some later) :
    PoolStep kind work pool .coordinate later := by
  unfold Pool.moveCoordinator at moved
  split at moved
  · rename_i position
    split at moved
    · rename_i job result rest arrived
      rw [← Option.some.inj moved]
      cases result with
      | ok result => exact PoolStep.collectOk job result rest position arrived
      | error error => exact PoolStep.collectError job error rest position arrived
    · rename_i empty
      split at moved
      · rename_i gone
        rw [← Option.some.inj moved]
        exact PoolStep.drained position empty gone
      · cases moved
  · rename_i position
    split at moved
    · rename_i fed
      rw [← Option.some.inj moved]
      exact PoolStep.joined position fed
    · cases moved
  · cases moved

theorem moveWorker_step {world : World} {i : Nat} {worker : Worker Job Result}
    (found : pool.workers[i]? = some worker)
    (moved : pool.moveWorker kind work world i worker = some later) :
    PoolStep kind work pool (.work i world) later := by
  obtain ⟨before, after, position, rfl, put⟩ := workers_split found
  unfold Pool.moveWorker at moved
  split at moved
  · split at moved
    · cases moved
    · rename_i free
      rw [← Option.some.inj moved, Pool.put, put]
      exact PoolStep.lock world before after position (by simpa using free)
  · split at moved
    · rename_i job rest waiting
      rw [← Option.some.inj moved, Pool.put, put]
      exact PoolStep.receive world before after job rest position waiting
    · rename_i empty
      split at moved
      · rename_i fed
        rw [← Option.some.inj moved, Pool.put, put]
        exact PoolStep.disconnect world before after position empty fed
      · cases moved
  · rename_i job result
    split at moved
    · rename_i room
      rw [← Option.some.inj moved, Pool.put, put]
      exact PoolStep.send world before after job result position room
    · cases moved
  · split at moved
    · cases moved
    · rename_i next stopped advanced
      rw [← Option.some.inj moved, Pool.put, put]
      exact PoolStep.advance world before after _ next stopped position (advance_advances advanced)

theorem move_step {move : Move World} (moved : pool.move kind work move = some later) :
    PoolStep kind work pool move later := by
  cases move with
  | requestCancel =>
      rw [← Option.some.inj moved]
      exact PoolStep.request
  | feed => exact moveFeeder_step moved
  | work i world =>
      simp only [Pool.move] at moved
      split at moved
      · cases moved
      · rename_i worker found
        exact moveWorker_step found moved
  | coordinate => exact moveCoordinator_step moved

end Cases

section Complete

variable {Job Result World : Type} {kind : PoolKind} {work : Job → World → Except StateError Result}

def Worker.held : Worker Job Result → List Job
  | .received job | .cleared job | .running job | .ran job _ | .finishing job _ | .sending job _ =>
      [job]
  | .waiting | .receiving | .sent _ | .left => []

def Feeder.held : Feeder Job → List Job
  | .next jobs => jobs
  | .checked job rest | .sending job rest => job :: rest
  | .finished => []

def Pool.jobs (pool : Pool Job Result) : List Job :=
  pool.feeder.held ++ pool.queue ++ pool.workers.flatMap Worker.held ++
    pool.results.map Prod.fst ++ pool.collected.map Prod.fst

def Pool.ErrorPending (pool : Pool Job Result) : Prop :=
  pool.firstError.isSome ∨ (∃ job error, (job, Except.error error) ∈ pool.results) ∨
    ∃ job error, Worker.sending job (.error error) ∈ pool.workers

def Genuine (work : Job → World → Except StateError Result) (job : Job) :
    Except StateError Result → Prop
  | .ok result => ∃ world, work job world = .ok result
  | .error _ => True

def Worker.Genuine (work : Job → World → Except StateError Result) : Worker Job Result → Prop
  | .ran job result | .finishing job result | .sending job result => Backup.Genuine work job result
  | _ => True

/-- The feeder, or a hash worker after its result, leaves on a cancellation that
nobody reports. -/
def silentLeave (kind : PoolKind) (pool : Pool Job Result) : Move World → Bool
  | .feed =>
      match pool.feeder with
      | .next (_ :: _) => pool.cancelled
      | _ => false
  | .work i _ =>
      match kind, pool.workers[i]? with
      | .hash, some (.sent false) => pool.cancelled
      | _, _ => false
  | .requestCancel | .coordinate => false

def Loud (kind : PoolKind) (pool : Pool Job Result) (move : Move World) : Prop :=
  silentLeave kind pool move = false

instance (kind : PoolKind) (pool : Pool Job Result) (move : Move World) :
    Decidable (Loud kind pool move) :=
  inferInstanceAs (Decidable (_ = _))

def Pool.Drained (pool : Pool Job Result) : Prop :=
  pool.coordinator ≠ .draining → pool.results = [] ∧ pool.workers.all Worker.isLeft = true

structure Complete (work : Job → World → Except StateError Result) (jobs : List Job)
    (pool : Pool Job Result) : Prop where
  stopped : pool.stopped = true → pool.ErrorPending
  failure : Worker.sent true ∈ pool.workers → pool.ErrorPending
  left : Worker.left ∈ pool.workers →
    pool.ErrorPending ∨ (pool.queue = [] ∧ pool.feeder.isFinished = true)
  accounted : pool.ErrorPending ∨ pool.jobs.Perm jobs
  workers : ∀ worker ∈ pool.workers, worker.Genuine work
  results : ∀ item ∈ pool.results, Genuine work item.1 item.2
  collected : ∀ item ∈ pool.collected, ∃ world, work item.1 world = .ok item.2
  drained : pool.Drained
  returned : pool.coordinator = .returned → pool.feeder.isFinished = true

variable {pool later : Pool Job Result} {move : Move World}
  {before after : List (Worker Job Result)} {jobs : List Job} {stopped cancelled flag : Bool}

theorem mem_replaced {worker later other : Worker Job Result}
    (member : other ∈ before ++ worker :: after) (different : other ≠ worker) :
    other ∈ before ++ later :: after := by
  rcases List.mem_append.mp member with earlier | rest
  · exact List.mem_append_left _ earlier
  · rcases List.mem_cons.mp rest with same | behind
    · exact (different same).elim
    · exact List.mem_append_right _ (List.mem_cons_of_mem _ behind)

theorem of_mem_replaced {worker later other : Worker Job Result}
    (member : other ∈ before ++ later :: after) :
    other ∈ before ++ worker :: after ∨ other = later := by
  rcases List.mem_append.mp member with earlier | rest
  · exact Or.inl (List.mem_append_left _ earlier)
  · rcases List.mem_cons.mp rest with same | behind
    · exact Or.inr same
    · exact Or.inl (List.mem_append_right _ (List.mem_cons_of_mem _ behind))

theorem errorPending_replaced {worker moved : Worker Job Result} (pending : pool.ErrorPending)
    (position : pool.workers = before ++ worker :: after)
    (idle : ∀ job result, worker ≠ .sending job result)
    (same : later.firstError = pool.firstError) (results : later.results = pool.results)
    (workers : later.workers = before ++ moved :: after) : later.ErrorPending := by
  rcases pending with recorded | arrived | ⟨job, error, member⟩
  · exact Or.inl (by rwa [same])
  · exact Or.inr (Or.inl (by rwa [results]))
  · rw [position] at member
    refine Or.inr (Or.inr ⟨job, error, ?_⟩)
    rw [workers]
    exact mem_replaced member (idle job (.error error)).symm

theorem advances_not_sending {worker later : Worker Job Result}
    (next : Advances kind work stopped cancelled worker later flag) (job : Job)
    (result : Except StateError Result) : worker ≠ .sending job result := by
  cases next <;> exact fun same => by cases same

theorem errorPending_step (step : PoolStep kind work pool move later)
    (pending : pool.ErrorPending) : later.ErrorPending := by
  cases step with
  | request | feedEnd | feedCheck | feedLoad | feedSend | drained | joined => exact pending
  | lock world before after position =>
      exact errorPending_replaced pending position (fun _ _ same => by cases same) rfl rfl rfl
  | receive world before after job rest position =>
      exact errorPending_replaced pending position (fun _ _ same => by cases same) rfl rfl rfl
  | disconnect world before after position =>
      exact errorPending_replaced pending position (fun _ _ same => by cases same) rfl rfl rfl
  | advance world before after worker moved stopped position next =>
      exact errorPending_replaced pending position (advances_not_sending next) rfl rfl rfl
  | send world before after job result position =>
      rcases pending with recorded | ⟨other, error, member⟩ | ⟨other, error, member⟩
      · exact Or.inl recorded
      · exact Or.inr (Or.inl ⟨other, error, List.mem_append_left _ member⟩)
      · by_cases same : Worker.sending other (.error error) = .sending job result
        · obtain ⟨rfl, rfl⟩ := Worker.sending.inj same
          exact Or.inr (Or.inl ⟨other, error, List.mem_append_right _ List.mem_cons_self⟩)
        · rw [position] at member
          exact Or.inr (Or.inr ⟨other, error, mem_replaced member same⟩)
  | collectOk job result rest position arrived =>
      rcases pending with recorded | ⟨other, error, member⟩ | sending
      · exact Or.inl recorded
      · rw [arrived] at member
        rcases List.mem_cons.mp member with same | behind
        · cases same
        · exact Or.inr (Or.inl ⟨other, error, behind⟩)
      · exact Or.inr (Or.inr sending)
  | collectError job error rest position arrived =>
      left
      dsimp only
      split
      · rfl
      · rename_i recorded
        simpa [Option.isSome_iff_ne_none] using recorded

theorem advances_held {worker later : Worker Job Result}
    (next : Advances kind work stopped cancelled worker later flag) :
    later.held = worker.held ∨ stopped = true := by
  cases next with
  | leaveReceived job flag => exact Or.inr flag
  | leaveCleared job flag => exact Or.inr flag
  | _ => exact Or.inl rfl

theorem advances_genuine {worker later : Worker Job Result}
    (next : Advances kind work stopped cancelled worker later flag)
    (genuine : worker.Genuine work) : later.Genuine work := by
  cases next with
  | complete job world =>
      show Genuine work job (work job world)
      cases done : work job world with
      | ok result => exact ⟨world, done⟩
      | error error => trivial
  | finish | store => exact genuine
  | _ => trivial

theorem advances_flag {worker later : Worker Job Result}
    (next : Advances kind work stopped cancelled worker later flag) (raised : flag = true) :
    stopped = true ∨ ∃ job error, later = .sending job (.error error) := by
  cases next with
  | store job result =>
      cases result with
      | error error => exact Or.inr ⟨job, error, rfl⟩
      | ok result => exact Or.inl (by simpa [failed] using raised)
  | _ => exact Or.inl raised

theorem advances_left {worker : Worker Job Result}
    (next : Advances kind work stopped cancelled worker .left flag) :
    stopped = true ∨ worker = .sent true ∨
      (kind = .hash ∧ cancelled = true ∧ worker = .sent false) := by
  cases next with
  | leaveReceived job raised => exact Or.inl raised
  | leaveCleared job raised => exact Or.inl raised
  | leaveFailed => exact Or.inr (Or.inl rfl)
  | leaveCancelled hashing raised => exact Or.inr (Or.inr ⟨hashing, raised, rfl⟩)

theorem advances_not_sent {stopped cancelled flag failure : Bool} {worker : Worker Job Result} :
    ¬ Advances kind work stopped cancelled worker (.sent failure) flag := by
  intro next
  cases next

theorem complete_stopped (complete : Complete work jobs pool)
    (step : PoolStep kind work pool move later) (raised : later.stopped = true) :
    later.ErrorPending := by
  have kept := errorPending_step step
  cases step with
  | advance world before after worker moved stopped position next =>
      rcases advances_flag next raised with old | ⟨job, error, rfl⟩
      · exact kept (complete.stopped old)
      · exact Or.inr (Or.inr ⟨job, error, List.mem_append_right _ List.mem_cons_self⟩)
  | _ => exact kept (complete.stopped raised)

theorem complete_failure (complete : Complete work jobs pool)
    (step : PoolStep kind work pool move later) (sent : Worker.sent true ∈ later.workers) :
    later.ErrorPending := by
  have kept := errorPending_step step
  have old : Worker.sent true ∈ pool.workers → later.ErrorPending := fun member =>
    kept (complete.failure member)
  cases step with
  | lock world before after position =>
      rcases of_mem_replaced sent with member | new
      · exact old (position ▸ member)
      · cases new
  | receive world before after job rest position =>
      rcases of_mem_replaced sent with member | new
      · exact old (position ▸ member)
      · cases new
  | disconnect world before after position =>
      rcases of_mem_replaced sent with member | new
      · exact old (position ▸ member)
      · cases new
  | send world before after job result position =>
      rcases of_mem_replaced sent with member | new
      · exact old (position ▸ member)
      · cases result with
        | ok result => cases new
        | error error =>
            exact Or.inr (Or.inl ⟨job, error, List.mem_append_right _ List.mem_cons_self⟩)
  | advance world before after worker moved stopped position next =>
      rcases of_mem_replaced sent with member | new
      · exact old (position ▸ member)
      · exact (advances_not_sent (new ▸ next)).elim
  | _ => exact old sent

theorem silentLeave_sent {pool : Pool Job Result} {world : World}
    (position : pool.workers = before ++ .sent false :: after) (cancelled : pool.cancelled = true) :
    silentLeave .hash pool (.work before.length world) = true := by
  have here : pool.workers[before.length]? = some (.sent false) := by
    rw [position, List.getElem?_append_right (Nat.le_refl _), Nat.sub_self]
    rfl
  simp only [silentLeave, here, cancelled]

theorem complete_left (complete : Complete work jobs pool)
    (step : PoolStep kind work pool move later) (loud : silentLeave kind pool move = false)
    (gone : Worker.left ∈ later.workers) :
    later.ErrorPending ∨ (later.queue = [] ∧ later.feeder.isFinished = true) := by
  have kept := errorPending_step step
  have old : Worker.left ∈ pool.workers →
      later.ErrorPending ∨ (pool.queue = [] ∧ pool.feeder.isFinished = true) := fun member =>
    (complete.left member).imp_left kept
  cases step with
  | feedEnd position =>
      refine (old gone).imp_right fun ⟨empty, fed⟩ => ?_
      rw [position] at fed
      cases fed
  | feedCheck job rest position =>
      refine (old gone).imp_right fun ⟨empty, fed⟩ => ?_
      rw [position] at fed
      cases fed
  | feedLoad job rest position =>
      refine (old gone).imp_right fun ⟨empty, fed⟩ => ?_
      rw [position] at fed
      cases fed
  | feedSend job rest position =>
      refine (old gone).imp_right fun ⟨empty, fed⟩ => ?_
      rw [position] at fed
      cases fed
  | lock world before after position =>
      rcases of_mem_replaced gone with member | new
      · exact old (position ▸ member)
      · cases new
  | receive world before after job rest position waiting =>
      rcases of_mem_replaced gone with member | new
      · refine (old (position ▸ member)).imp_right fun ⟨empty, fed⟩ => ?_
        rw [waiting] at empty
        cases empty
      · cases new
  | disconnect world before after position empty fed => exact Or.inr ⟨empty, fed⟩
  | send world before after job result position =>
      rcases of_mem_replaced gone with member | new
      · exact old (position ▸ member)
      · cases new
  | advance world before after worker moved stopped position next =>
      rcases of_mem_replaced gone with member | new
      · exact old (position ▸ member)
      · subst new
        rcases advances_left next with raised | rfl | ⟨rfl, cancelled, rfl⟩
        · exact Or.inl (kept (complete.stopped raised))
        · refine Or.inl (kept (complete.failure ?_))
          rw [position]
          exact List.mem_append_right _ List.mem_cons_self
        · rw [silentLeave_sent position cancelled] at loud
          cases loud
  | _ => exact old gone

theorem complete_accounted (complete : Complete work jobs pool)
    (step : PoolStep kind work pool move later) (loud : silentLeave kind pool move = false) :
    later.ErrorPending ∨ later.jobs.Perm jobs := by
  have kept := errorPending_step step
  rcases complete.accounted with pending | accounted
  · exact Or.inl (kept pending)
  · have moved : pool.jobs.Perm later.jobs → later.ErrorPending ∨ later.jobs.Perm jobs :=
      fun same => Or.inr (same.symm.trans accounted)
    cases step with
    | request | drained | joined => exact Or.inr accounted
    | feedEnd position =>
        apply moved
        simp [Pool.jobs, position, Feeder.held]
    | feedCheck job rest position =>
        simp only [silentLeave, position] at loud
        apply moved
        simp [Pool.jobs, position, Feeder.held, loud]
    | feedLoad job rest position =>
        by_cases flag : pool.stopped = true
        · exact Or.inl (kept (complete.stopped flag))
        · apply moved
          simp [Pool.jobs, position, Feeder.held, flag]
    | feedSend job rest position =>
        apply moved
        simp only [Pool.jobs, position, Feeder.held, List.append_assoc, List.cons_append,
          List.nil_append]
        rw [← List.append_assoc rest, ← List.append_assoc rest]
        exact List.perm_middle.symm
    | lock world before after position =>
        apply moved
        simp [Pool.jobs, position, Worker.held]
    | receive world before after job rest position waiting =>
        apply moved
        simp only [Pool.jobs, position, waiting, Worker.held, List.flatMap_append,
          List.flatMap_cons, List.append_assoc, List.cons_append, List.nil_append]
        apply List.Perm.append_left
        rw [← List.append_assoc rest, ← List.append_assoc rest]
        exact List.perm_middle.symm
    | disconnect world before after position =>
        apply moved
        simp [Pool.jobs, position, Worker.held]
    | send world before after job result position =>
        apply moved
        simp only [Pool.jobs, position, Worker.held, List.flatMap_append, List.flatMap_cons,
          List.append_assoc, List.cons_append, List.nil_append, List.map_append, List.map_cons,
          List.map_nil]
        iterate 3 apply List.Perm.append_left
        rw [← List.append_assoc (after.flatMap Worker.held)]
        rw [← List.append_assoc (after.flatMap Worker.held)]
        exact List.perm_middle.symm
    | advance world before after worker next_worker stopped position next =>
        rcases advances_held next with same | raised
        · apply moved
          simp [Pool.jobs, position, same]
        · exact Or.inl (kept (complete.stopped raised))
    | collectOk job result rest position arrived =>
        apply moved
        simp only [Pool.jobs, arrived, List.map_cons, List.map_append, List.map_nil,
          List.append_assoc, List.cons_append]
        iterate 3 apply List.Perm.append_left
        rw [← List.append_assoc]
        exact (List.perm_append_singleton job _).symm
    | collectError job error rest position arrived =>
        refine Or.inl (kept (Or.inr (Or.inl ⟨job, error, ?_⟩)))
        rw [arrived]
        exact List.mem_cons_self

theorem complete_workers (complete : Complete work jobs pool)
    (step : PoolStep kind work pool move later) :
    ∀ worker ∈ later.workers, worker.Genuine work := by
  have replaced : ∀ {before after : List (Worker Job Result)} {worker moved : Worker Job Result},
      pool.workers = before ++ worker :: after → moved.Genuine work →
        ∀ other ∈ before ++ moved :: after, other.Genuine work := by
    intro before after worker moved position genuine other member
    rcases of_mem_replaced member with old | rfl
    · exact complete.workers other (position ▸ old)
    · exact genuine
  cases step with
  | lock world before after position => exact replaced position trivial
  | receive world before after job rest position => exact replaced position trivial
  | disconnect world before after position => exact replaced position trivial
  | send world before after job result position => exact replaced position trivial
  | advance world before after worker moved stopped position next =>
      have own : worker.Genuine work := by
        apply complete.workers
        rw [position]
        exact List.mem_append_right _ List.mem_cons_self
      exact replaced position (advances_genuine next own)
  | _ => exact complete.workers

theorem complete_results (complete : Complete work jobs pool)
    (step : PoolStep kind work pool move later) :
    ∀ item ∈ later.results, Genuine work item.1 item.2 := by
  cases step with
  | send world before after job result position =>
      intro item member
      rcases List.mem_append.mp member with old | new
      · exact complete.results item old
      · rw [List.mem_singleton.mp new]
        have own := complete.workers (.sending job result)
        rw [position] at own
        exact own (List.mem_append_right _ List.mem_cons_self)
  | collectOk job result rest position arrived =>
      intro item member
      apply complete.results
      rw [arrived]
      exact List.mem_cons_of_mem _ member
  | collectError job error rest position arrived =>
      intro item member
      apply complete.results
      rw [arrived]
      exact List.mem_cons_of_mem _ member
  | _ => exact complete.results

theorem complete_collected (complete : Complete work jobs pool)
    (step : PoolStep kind work pool move later) :
    ∀ item ∈ later.collected, ∃ world, work item.1 world = .ok item.2 := by
  cases step with
  | collectOk job result rest position arrived =>
      intro item member
      rcases List.mem_append.mp member with old | new
      · exact complete.collected item old
      · rw [List.mem_singleton.mp new]
        have genuine := complete.results (job, .ok result)
        rw [arrived] at genuine
        exact genuine List.mem_cons_self
  | _ => exact complete.collected

theorem left_of_all {worker : Worker Job Result} {workers : List (Worker Job Result)}
    (gone : workers.all Worker.isLeft = true) (position : workers = before ++ worker :: after) :
    worker = .left := by
  have isLeft : worker.isLeft = true := by
    apply List.all_eq_true.mp gone
    rw [position]
    exact List.mem_append_right _ List.mem_cons_self
  cases worker <;> first | rfl | cases isLeft

theorem drained_step (drained : pool.Drained) (step : PoolStep kind work pool move later) :
    later.Drained := by
  intro ended
  cases step with
  | lock world before after position => cases left_of_all (drained ended).2 position
  | receive world before after job rest position => cases left_of_all (drained ended).2 position
  | disconnect world before after position => cases left_of_all (drained ended).2 position
  | send world before after job result position => cases left_of_all (drained ended).2 position
  | advance world before after worker moved stopped position next =>
      obtain rfl := left_of_all (drained ended).2 position
      cases next
  | collectOk job result rest position => exact (ended position).elim
  | collectError job error rest position => exact (ended position).elim
  | drained position empty gone => exact ⟨empty, gone⟩
  | joined position => exact drained (by rw [position]; decide)
  | _ => exact drained ended

theorem complete_returned (complete : Complete work jobs pool)
    (step : PoolStep kind work pool move later) (ended : later.coordinator = .returned) :
    later.feeder.isFinished = true := by
  cases step with
  | feedEnd => rfl
  | feedCheck job rest position =>
      have fed := complete.returned ended
      rw [position] at fed
      cases fed
  | feedLoad job rest position =>
      have fed := complete.returned ended
      rw [position] at fed
      cases fed
  | feedSend job rest position =>
      have fed := complete.returned ended
      rw [position] at fed
      cases fed
  | drained => cases ended
  | joined position fed => exact fed
  | _ => exact complete.returned ended

theorem complete_step (complete : Complete work jobs pool)
    (step : PoolStep kind work pool move later) (loud : silentLeave kind pool move = false) :
    Complete work jobs later where
  stopped := complete_stopped complete step
  failure := complete_failure complete step
  left := complete_left complete step loud
  accounted := complete_accounted complete step loud
  workers := complete_workers complete step
  results := complete_results complete step
  collected := complete_collected complete step
  drained := drained_step complete.drained step
  returned := complete_returned complete step

theorem complete_start (work : Job → World → Except StateError Result) (jobs : List Job)
    (workers : Nat) : Complete work jobs (startPool jobs workers : Pool Job Result) where
  stopped raised := by cases raised
  failure member := by cases List.eq_of_mem_replicate member
  left member := by cases List.eq_of_mem_replicate member
  accounted := by
    have idle : (List.replicate workers (.waiting : Worker Job Result)).flatMap Worker.held = [] := by
      rw [List.flatMap_eq_nil_iff]
      intro worker member
      rw [List.eq_of_mem_replicate member]
      rfl
    right
    simp [startPool, Pool.jobs, Feeder.held, idle]
  workers worker member := by
    rw [List.eq_of_mem_replicate member]
    trivial
  results item member := by cases member
  collected item member := by cases member
  drained ended := (ended rfl).elim
  returned ended := by cases ended

theorem complete_steps {workers : Nat} {pool : Pool Job Result}
    (steps : Steps kind work (Loud kind) (startPool jobs workers) pool) :
    Complete work jobs pool := by
  induction steps with
  | refl => exact complete_start work jobs workers
  | tail _ last ih =>
      obtain ⟨move, loud, moved⟩ := last
      exact complete_step ih (move_step moved) loud

theorem workers_length_step (step : PoolStep kind work pool move later) :
    later.workers.length = pool.workers.length := by
  cases step with
  | lock world before after position => simp [position]
  | receive world before after job rest position => simp [position]
  | disconnect world before after position => simp [position]
  | send world before after job result position => simp [position]
  | advance world before after worker moved stopped position => simp [position]
  | _ => rfl

theorem workers_length_steps {allowed : Pool Job Result → Move World → Prop}
    {first pool : Pool Job Result} (steps : Steps kind work allowed first pool) :
    pool.workers.length = first.workers.length := by
  induction steps with
  | refl => rfl
  | tail _ last ih =>
      obtain ⟨move, _, moved⟩ := last
      rw [workers_length_step (move_step moved), ih]

theorem complete_outcome {pool : Pool Job Result} {results : List (Job × Result)}
    (complete : Complete work jobs pool) (some_worker : 0 < pool.workers.length)
    (returned : pool.outcome = some (.ok results)) :
    (results.map Prod.fst).Perm jobs ∧ ∀ item ∈ results, ∃ world, work item.1 world = .ok item.2 := by
  unfold Pool.outcome at returned
  split at returned
  · rename_i ended
    split at returned
    · cases returned
    · rename_i unrecorded
      obtain rfl : pool.collected = results := Except.ok.inj (Option.some.inj returned)
      refine ⟨?_, complete.collected⟩
      have fed := complete.returned ended
      obtain ⟨empty, gone⟩ := complete.drained (by rw [ended]; decide)
      have all_left : ∀ worker ∈ pool.workers, worker = .left := by
        intro worker member
        obtain ⟨before, after, position⟩ := List.append_of_mem member
        exact left_of_all gone position
      have settled : ¬ pool.ErrorPending := by
        rintro (recorded | ⟨job, error, member⟩ | ⟨job, error, member⟩)
        · rw [unrecorded] at recorded
          cases recorded
        · rw [empty] at member
          cases member
        · cases all_left _ member
      have taken : pool.queue = [] := by
        have member : Worker.left ∈ pool.workers := by
          have first := List.getElem_mem some_worker
          rw [all_left _ first] at first
          exact first
        exact ((complete.left member).resolve_left settled).1
      have held : pool.workers.flatMap Worker.held = [] := by
        rw [List.flatMap_eq_nil_iff]
        intro worker member
        rw [all_left worker member]
        rfl
      have unfed : pool.feeder.held = [] := by
        cases position : pool.feeder with
        | finished => rfl
        | next jobs => rw [position] at fed; cases fed
        | checked job rest => rw [position] at fed; cases fed
        | sending job rest => rw [position] at fed; cases fed
      have accounted := complete.accounted.resolve_left settled
      simpa [Pool.jobs, unfed, taken, held, empty] using accounted
  · cases returned

end Complete

end Noland.Backup
