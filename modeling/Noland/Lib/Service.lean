import Mathlib.Logic.Relation
import Mathlib.Data.List.Basic
import Noland.Lib.Requests

/-!
A service takes one turn after the other and handles requests beside its turns. Its programs
interleave operation by operation, the world outside changes between any two of them, and a stop
of the process loses every program that is under way. `Secure` is what one program of such a
process keeps.
-/

namespace Noland.Requests

section Secure

variable {I : Interface} {Error State α β : Type}

/-- What a program may rely on between two of its operations, which of its
events are considered, and what each of them guarantees. -/
structure Terms (I : Interface) (Error State : Type) where
  rely : State → State → Prop
  allow : State → Event I Error → State → Prop
  guarantee : State → State → Prop
  rely_refl : ∀ state, rely state state
  rely_trans : ∀ first second third, rely first second → rely second third → rely first third

variable (handler : Handler I Error State) (terms : Terms I Error State)

/-- `post` describes a returned value and `fail` an error, in every state the
others may have left since. -/
def Secure (post : α → State → Prop) (fail : State → Prop) : Prog I Error α → State → Prop
  | .done value, state => ∀ later, terms.rely state later → post value later
  | .throw _, state => ∀ later, terms.rely state later → fail later
  | .request op next, state =>
      ∀ before, terms.rely state before → ∀ reply after, Reply handler op before reply after →
        terms.allow before ⟨op, reply⟩ after →
        terms.guarantee before after ∧ Secure post fail (next reply) after

variable {handler terms} {fail : State → Prop} {state later : State}

variable {program : Prog I Error α}

theorem Secure.rely {post : α → State → Prop}
    (secure : Secure handler terms post fail program state) (moved : terms.rely state later) :
    Secure handler terms post fail program later := by
  cases program with
  | done value => exact fun last moves => secure last (terms.rely_trans _ _ _ moved moves)
  | throw error => exact fun last moves => secure last (terms.rely_trans _ _ _ moved moves)
  | request op next => exact fun last moves => secure last (terms.rely_trans _ _ _ moved moves)

theorem Secure.bind {post : β → State → Prop} {f : α → Prog I Error β}
    (secure : Secure handler terms (fun value => Secure handler terms post fail (f value)) fail
      program state) : Secure handler terms post fail (program >>= f) state := by
  induction program generalizing state with
  | done value => exact secure state (terms.rely_refl state)
  | throw error => exact secure
  | request op next ih =>
      intro before moved reply after replied allowed
      obtain ⟨keeps, rest⟩ := secure before moved reply after replied allowed
      exact ⟨keeps, ih reply rest⟩

theorem Secure.weaken {post post' : α → State → Prop} {fail' : State → Prop}
    (secure : Secure handler terms post fail program state)
    (after : ∀ value later, post value later → post' value later)
    (fails : ∀ later, fail later → fail' later) :
    Secure handler terms post' fail' program state := by
  induction program generalizing state with
  | done value => exact fun later moved => after _ _ (secure later moved)
  | throw error => exact fun later moved => fails _ (secure later moved)
  | request op next ih =>
      intro before moved reply last replied allowed
      obtain ⟨keeps, rest⟩ := secure before moved reply last replied allowed
      exact ⟨keeps, ih reply rest⟩

theorem Secure.attempt {post : Except Error α → State → Prop} (bad : State → Prop)
    (fails : ∀ error later, bad later → post (.error error) later)
    (secure : Secure handler terms (fun value => post (.ok value)) bad program state) :
    Secure handler terms post fail program.attempt state := by
  induction program generalizing state with
  | done value => exact secure
  | throw error => exact fun later moved => fails error _ (secure later moved)
  | request op next ih =>
      intro before moved reply after replied allowed
      obtain ⟨keeps, rest⟩ := secure before moved reply after replied allowed
      exact ⟨keeps, ih reply rest⟩

theorem Secure.perform {op : I.Op} {post : I.Ret op → State → Prop}
    (keeps : ∀ before, terms.rely state before → ∀ reply after,
      Reply handler op before reply after → terms.allow before ⟨op, reply⟩ after →
      terms.guarantee before after)
    (succeeds : ∀ before, terms.rely state before → ∀ value after,
      Reply handler op before (.ok value) after → terms.allow before ⟨op, .ok value⟩ after →
      ∀ last, terms.rely after last → post value last)
    (fails : ∀ before, terms.rely state before → ∀ error after,
      Reply handler op before (.error error) after → terms.allow before ⟨op, .error error⟩ after →
      ∀ last, terms.rely after last → fail last) :
    Secure handler terms post fail (Prog.perform op) state := by
  intro before moved reply after replied allowed
  refine ⟨keeps before moved reply after replied allowed, ?_⟩
  cases reply with
  | ok value => exact succeeds before moved value after replied allowed
  | error error => exact fails before moved error after replied allowed

theorem Secure.observe {op : I.Op} {post : Except Error (I.Ret op) → State → Prop}
    (keeps : ∀ before, terms.rely state before → ∀ reply after,
      Reply handler op before reply after → terms.allow before ⟨op, reply⟩ after →
      terms.guarantee before after)
    (answers : ∀ before, terms.rely state before → ∀ reply after,
      Reply handler op before reply after → terms.allow before ⟨op, reply⟩ after →
      ∀ last, terms.rely after last → post reply last) :
    Secure handler terms post fail (Prog.observe op) state := by
  intro before moved reply after replied allowed
  exact ⟨keeps before moved reply after replied allowed,
    answers before moved reply after replied allowed⟩

theorem Secure.ofExcept {result : Except Error α} {post : α → State → Prop}
    (fails : ∀ later, terms.rely state later → fail later)
    (succeeds : ∀ value, result = .ok value → ∀ later, terms.rely state later → post value later) :
    Secure handler terms post fail (Prog.ofExcept result) state := by
  cases result with
  | ok value => exact succeeds value rfl
  | error error => exact fails

theorem Secure.frame {post : α → State → Prop} (kept : State → Prop)
    (keeps : ∀ before after, terms.guarantee before after → kept before → kept after)
    (stable : ∀ before after, terms.rely before after → kept before → kept after)
    (secure : Secure handler terms post fail program state) (holds : kept state) :
    Secure handler terms (fun value later => post value later ∧ kept later)
      (fun later => fail later ∧ kept later) program state := by
  induction program generalizing state with
  | done value => exact fun later moved => ⟨secure later moved, stable _ _ moved holds⟩
  | throw error => exact fun later moved => ⟨secure later moved, stable _ _ moved holds⟩
  | request op next ih =>
      intro before moved reply after replied allowed
      obtain ⟨guaranteed, rest⟩ := secure before moved reply after replied allowed
      exact ⟨guaranteed, ih reply rest (keeps _ _ guaranteed (stable _ _ moved holds))⟩

theorem Secure.uses {ops : I.Op → Prop} {program : Prog I Error α} (kept : State → Prop)
    (uses : program.Uses ops (fun _ => True) fun _ => True)
    (keeps : ∀ op, ops op → ∀ before reply after, Reply handler op before reply after →
      terms.allow before ⟨op, reply⟩ after → kept before →
      terms.guarantee before after ∧ kept after)
    (stable : ∀ before after, terms.rely before after → kept before → kept after)
    (holds : kept state) :
    Secure handler terms (fun _ => kept) kept program state := by
  induction program generalizing state with
  | done value => exact fun later moved => stable _ _ moved holds
  | throw error => exact fun later moved => stable _ _ moved holds
  | request op next ih =>
      intro before moved reply after replied allowed
      obtain ⟨guaranteed, still⟩ :=
        keeps op uses.1 before reply after replied allowed (stable _ _ moved holds)
      exact ⟨guaranteed, ih reply (uses.2 reply trivial) still⟩

end Secure

section Services

variable {I : Interface} {Error State : Type}

inductive Phase where
  | down
  | starting
  | serving
  deriving DecidableEq

/-- The programs of a service, how the world outside may change the state and
what is left of the state when the process stops. -/
structure Plan (I : Interface) (Error State : Type) where
  startup : Prog I Error Unit
  turn : Prog I Error Unit
  serves : Prog I Error Unit → Prop
  outside : State → State → Prop
  halt : State → State

structure Service (I : Interface) (Error State : Type) where
  state : State
  phase : Phase
  main : Prog I Error Unit
  tasks : List (Prog I Error Unit)

def Prog.finished {α : Type} : Prog I Error α → Bool
  | .request _ _ => false
  | _ => true

inductive Party where
  | main
  | task (index : Nat)
  deriving DecidableEq

structure Discipline (I : Interface) (Error State : Type) where
  act : Service I Error State → Party → Event I Error → State → Prop
  turn : Service I Error State → Prop
  stop : Service I Error State → Prop

def Discipline.free : Discipline I Error State where
  act _ _ _ _ := True
  turn _ := True
  stop _ := True

variable (handler : Handler I Error State) (plan : Plan I Error State)
  (discipline : Discipline I Error State)

inductive Service.Step : Service I Error State → Service I Error State → Prop where
  | outside {service : Service I Error State} {after : State}
      (moved : plan.outside service.state after) :
      Service.Step service { service with state := after }
  | start {service : Service I Error State} (down : service.phase = .down) :
      Service.Step service { service with phase := .starting, main := plan.startup, tasks := [] }
  | serve {service : Service I Error State} (starting : service.phase = .starting)
      (started : service.main = .done ()) :
      Service.Step service { service with phase := .serving }
  | turn {service : Service I Error State} (serving : service.phase = .serving)
      (idle : service.main.finished = true) (allowed : discipline.turn service) :
      Service.Step service { service with main := plan.turn }
  | accept {service : Service I Error State} {task : Prog I Error Unit}
      (serving : service.phase = .serving) (served : plan.serves task) :
      Service.Step service { service with tasks := service.tasks ++ [task] }
  | main {service : Service I Error State} {op : I.Op}
      {next : Except Error (I.Ret op) → Prog I Error Unit} {reply : Except Error (I.Ret op)}
      {after : State} (waiting : service.main = .request op next)
      (replied : Reply handler op service.state reply after)
      (allowed : discipline.act service .main ⟨op, reply⟩ after) :
      Service.Step service { service with state := after, main := next reply }
  | task {service : Service I Error State} {index : Nat} {op : I.Op}
      {next : Except Error (I.Ret op) → Prog I Error Unit} {reply : Except Error (I.Ret op)}
      {after : State} (waiting : service.tasks[index]? = some (.request op next))
      (replied : Reply handler op service.state reply after)
      (allowed : discipline.act service (.task index) ⟨op, reply⟩ after) :
      Service.Step service
        { service with state := after, tasks := service.tasks.set index (next reply) }
  | stop {service : Service I Error State} (allowed : discipline.stop service) :
      Service.Step service
        { state := plan.halt service.state, phase := .down, main := .done (), tasks := [] }

def Service.Reaches (start service : Service I Error State) : Prop :=
  Relation.ReflTransGen (Service.Step handler plan discipline) start service

def Service.initial (state : State) : Service I Error State :=
  { state, phase := .down, main := .done (), tasks := [] }

end Services

section SecureServices

variable {I : Interface} {Error State : Type} {handler : Handler I Error State}
  {plan : Plan I Error State} {discipline : Discipline I Error State}

/-- The main program and the tasks are secure, each for its own terms. -/
structure Guarded (handler : Handler I Error State) (inv : State → Prop)
    (mainTerms taskTerms : Terms I Error State) (service : Service I Error State) : Prop where
  holds : inv service.state
  main : Secure handler mainTerms (fun _ _ => True) (fun _ => True) service.main service.state
  tasks : ∀ task ∈ service.tasks,
    Secure handler taskTerms (fun _ _ => True) (fun _ => True) task service.state

/-- What is to be shown of a service whose programs keep an invariant together. -/
structure Cooperates (handler : Handler I Error State) (plan : Plan I Error State)
    (discipline : Discipline I Error State) (inv : State → Prop)
    (mainTerms taskTerms : Terms I Error State) : Prop where
  startup : ∀ state, inv state →
    Secure handler mainTerms (fun _ _ => True) (fun _ => True) plan.startup state
  turn : ∀ state, inv state →
    Secure handler mainTerms (fun _ _ => True) (fun _ => True) plan.turn state
  task : ∀ task, plan.serves task → ∀ state, inv state →
    Secure handler taskTerms (fun _ _ => True) (fun _ => True) task state
  outside : ∀ before after, inv before → plan.outside before after →
    inv after ∧ mainTerms.rely before after ∧ taskTerms.rely before after
  halt : ∀ state, inv state → inv (plan.halt state)
  mainAllowed : ∀ service event after, inv service.state →
    discipline.act service .main event after → mainTerms.allow service.state event after
  taskAllowed : ∀ service index event after, inv service.state →
    discipline.act service (.task index) event after → taskTerms.allow service.state event after
  mainKeeps : ∀ before after, inv before → mainTerms.guarantee before after →
    inv after ∧ taskTerms.rely before after
  taskKeeps : ∀ before after, inv before → taskTerms.guarantee before after →
    inv after ∧ mainTerms.rely before after ∧ taskTerms.rely before after

variable {mainTerms taskTerms : Terms I Error State}

theorem guarded_step {inv : State → Prop}
    (cooperates : Cooperates handler plan discipline inv mainTerms taskTerms)
    {service later : Service I Error State}
    (step : Service.Step handler plan discipline service later)
    (guarded : Guarded handler inv mainTerms taskTerms service) :
    Guarded handler inv mainTerms taskTerms later := by
  cases step with
  | outside moved =>
      obtain ⟨kept, main, task⟩ := cooperates.outside _ _ guarded.holds moved
      exact ⟨kept, guarded.main.rely main, fun other member => (guarded.tasks other member).rely task⟩
  | start down =>
      exact ⟨guarded.holds, cooperates.startup _ guarded.holds, fun _ member => (nomatch member)⟩
  | serve starting started => exact ⟨guarded.holds, guarded.main, guarded.tasks⟩
  | turn serving idle allowed =>
      exact ⟨guarded.holds, cooperates.turn _ guarded.holds, guarded.tasks⟩
  | accept serving served =>
      refine ⟨guarded.holds, guarded.main, ?_⟩
      intro task member
      rcases List.mem_append.mp member with old | new
      · exact guarded.tasks task old
      · rw [List.mem_singleton.mp new]
        exact cooperates.task _ served _ guarded.holds
  | main waiting replied allowed =>
      have secure := guarded.main
      rw [waiting] at secure
      obtain ⟨keeps, rest⟩ := secure _ (mainTerms.rely_refl _) _ _ replied
        (cooperates.mainAllowed _ _ _ guarded.holds allowed)
      obtain ⟨kept, others⟩ := cooperates.mainKeeps _ _ guarded.holds keeps
      exact ⟨kept, rest, fun task member => (guarded.tasks task member).rely others⟩
  | @task index op next reply after waiting replied allowed =>
      have secure := guarded.tasks _ (List.mem_of_getElem? waiting)
      obtain ⟨keeps, rest⟩ := secure _ (taskTerms.rely_refl _) _ _ replied
        (cooperates.taskAllowed _ _ _ _ guarded.holds allowed)
      obtain ⟨kept, main, others⟩ := cooperates.taskKeeps _ _ guarded.holds keeps
      refine ⟨kept, guarded.main.rely main, ?_⟩
      intro task member
      rcases List.mem_or_eq_of_mem_set member with old | rfl
      · exact (guarded.tasks task old).rely others
      · exact rest
  | stop allowed =>
      exact ⟨cooperates.halt _ guarded.holds, fun _ _ => trivial, fun _ member => (nomatch member)⟩

theorem guarded_reaches {inv : State → Prop}
    (cooperates : Cooperates handler plan discipline inv mainTerms taskTerms)
    {start service : Service I Error State}
    (reaches : Service.Reaches handler plan discipline start service)
    (guarded : Guarded handler inv mainTerms taskTerms start) :
    Guarded handler inv mainTerms taskTerms service := by
  induction reaches with
  | refl => exact guarded
  | tail _ step ih => exact guarded_step cooperates step ih

theorem guarded_initial {inv : State → Prop} {state : State} (holds : inv state) :
    Guarded handler inv mainTerms taskTerms (Service.initial state) :=
  ⟨holds, fun _ _ => trivial, fun _ member => (nomatch member)⟩

end SecureServices

section Moves

variable {I : Interface} {Error State : Type}

inductive Move (plan : Plan I Error State) where
  | outside (change : State → State) (moves : ∀ state, plan.outside state (change state))
  | start
  | serve
  | turn
  | accept (task : Prog I Error Unit) (served : plan.serves task)
  | main (signal : Signal Error)
  | task (index : Nat) (signal : Signal Error)
  | stop

variable (handler : Handler I Error State) {plan : Plan I Error State}

def replyTo (op : I.Op) (state : State) (signal : Signal Error) :
    Except Error (I.Ret op) × State :=
  if handler.internal op then handler.act op state
  else (respond handler op state signal).getD (handler.act op state)

theorem replyTo_reply (op : I.Op) (state : State) (signal : Signal Error) :
    Reply handler op state (replyTo handler op state signal).1
      (replyTo handler op state signal).2 := by
  unfold replyTo
  split
  · exact .proceed
  · rename_i external
    have external : handler.internal op = false := by simpa using external
    cases responded : respond handler op state signal with
    | none => exact .proceed
    | some result => exact reply_of_respond external responded

def Service.move (service : Service I Error State) : Move plan → Service I Error State
  | .outside change _ => { service with state := change service.state }
  | .start =>
      if service.phase = .down then
        { service with phase := .starting, main := plan.startup, tasks := [] }
      else service
  | .serve =>
      match service.phase, service.main with
      | .starting, .done _ => { service with phase := .serving }
      | _, _ => service
  | .turn =>
      if service.phase = .serving ∧ service.main.finished = true then
        { service with main := plan.turn }
      else service
  | .accept task _ =>
      if service.phase = .serving then { service with tasks := service.tasks ++ [task] }
      else service
  | .main signal =>
      match service.main with
      | .request op next =>
          { service with
            state := (replyTo handler op service.state signal).2
            main := next (replyTo handler op service.state signal).1 }
      | _ => service
  | .task index signal =>
      match service.tasks[index]? with
      | some (.request op next) =>
          { service with
            state := (replyTo handler op service.state signal).2
            tasks := service.tasks.set index (next (replyTo handler op service.state signal).1) }
      | _ => service
  | .stop => { state := plan.halt service.state, phase := .down, main := .done (), tasks := [] }

structure Check (I : Interface) (Error State : Type) where
  act : Service I Error State → Party → Event I Error → State → Bool
  turn : Service I Error State → Bool
  stop : Service I Error State → Bool

structure Check.Sound (check : Check I Error State) (discipline : Discipline I Error State) :
    Prop where
  act : ∀ service party event after, check.act service party event after = true →
    discipline.act service party event after
  turn : ∀ service, check.turn service = true → discipline.turn service
  stop : ∀ service, check.stop service = true → discipline.stop service

def Check.free : Check I Error State where
  act _ _ _ _ := true
  turn _ := true
  stop _ := true

def Service.permits (check : Check I Error State) (service : Service I Error State) :
    Move plan → Bool
  | .turn => check.turn service
  | .main signal =>
      match service.main with
      | .request op _ =>
          check.act service .main ⟨op, (replyTo handler op service.state signal).1⟩
            (replyTo handler op service.state signal).2
      | _ => true
  | .task index signal =>
      match service.tasks[index]? with
      | some (.request op _) =>
          check.act service (.task index) ⟨op, (replyTo handler op service.state signal).1⟩
            (replyTo handler op service.state signal).2
      | _ => true
  | .stop => check.stop service
  | _ => true

variable {handler} {discipline : Discipline I Error State} {check : Check I Error State}

theorem move_reaches (sound : check.Sound discipline) (service : Service I Error State)
    (move : Move plan) (permitted : service.permits handler check move = true) :
    Service.Reaches handler plan discipline service (service.move handler move) := by
  cases move with
  | outside change moves => exact .single (.outside (moves service.state))
  | start =>
      simp only [Service.move]
      split
      · exact .single (.start ‹_›)
      · exact .refl
  | serve =>
      simp only [Service.move]
      split
      · rename_i starting started
        exact .single (.serve starting started)
      · exact .refl
  | turn =>
      simp only [Service.move]
      split
      · rename_i ready
        exact .single (.turn ready.1 ready.2 (sound.turn service permitted))
      · exact .refl
  | accept task served =>
      simp only [Service.move]
      split
      · exact .single (.accept ‹_› served)
      · exact .refl
  | main signal =>
      simp only [Service.permits] at permitted
      simp only [Service.move]
      split
      · rename_i op next waiting
        rw [waiting] at permitted
        exact .single (.main waiting (replyTo_reply handler op service.state signal)
          (sound.act _ _ _ _ permitted))
      · exact .refl
  | task index signal =>
      simp only [Service.permits] at permitted
      simp only [Service.move]
      split
      · rename_i op next waiting
        rw [waiting] at permitted
        exact .single (.task waiting (replyTo_reply handler op service.state signal)
          (sound.act _ _ _ _ permitted))
      · exact .refl
  | stop => exact .single (.stop (sound.stop service permitted))

variable (handler check)

def Service.moves (service : Service I Error State) (list : List (Move plan)) :
    Service I Error State :=
  list.foldl (Service.move handler) service

def Service.permitsAll : Service I Error State → List (Move plan) → Bool
  | _, [] => true
  | service, move :: rest =>
      service.permits handler check move && (service.move handler move).permitsAll rest

variable {handler check}

theorem moves_reach (sound : check.Sound discipline) (list : List (Move plan))
    (service : Service I Error State)
    (permitted : service.permitsAll handler check list = true) :
    Service.Reaches handler plan discipline service (service.moves handler list) := by
  induction list generalizing service with
  | nil => exact .refl
  | cons move rest ih =>
      unfold Service.permitsAll at permitted
      rw [Bool.and_eq_true] at permitted
      exact (move_reaches sound service move permitted.1).trans
        (ih (service.move handler move) permitted.2)

theorem permitsAll_free (list : List (Move plan)) (service : Service I Error State) :
    service.permitsAll handler Check.free list = true := by
  induction list generalizing service with
  | nil => rfl
  | cons move rest ih =>
      unfold Service.permitsAll
      rw [ih, Bool.and_true]
      cases move with
      | main signal =>
          simp only [Service.permits]
          split <;> rfl
      | task index signal =>
          simp only [Service.permits]
          split <;> rfl
      | _ => rfl

theorem moves_reach_free (list : List (Move plan)) (service : Service I Error State) :
    Service.Reaches handler plan Discipline.free service (service.moves handler list) := by
  have sound : (Check.free : Check I Error State).Sound Discipline.free :=
    ⟨fun _ _ _ _ _ => trivial, fun _ _ => trivial, fun _ _ => trivial⟩
  exact moves_reach sound list service (permitsAll_free list service)

end Moves

end Noland.Requests
