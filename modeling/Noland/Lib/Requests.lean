import Mathlib.Logic.Basic

/-!
A program asks its environment for one operation at a time and continues with the reply. It is
evaluated without faults, or run under an environment that may refuse an operation, let it take
effect and still report an error, or stop the process between two operations.
-/

namespace Noland.Requests

theorem bind_ok {Error α β : Type} {first : Except Error α} {next : α → Except Error β} {value : β}
    (succeeded : (first >>= next) = .ok value) :
    ∃ middle, first = .ok middle ∧ next middle = .ok value := by
  cases first with
  | ok middle => exact ⟨middle, rfl, succeeded⟩
  | error error => cases succeeded

/-- The operations a program may request and the type of each reply. -/
structure Interface where
  Op : Type
  Ret : Op → Type

/-- A request tree. A reply is an `Except`, so that a program sees the failure
of an operation and may go on after it. -/
inductive Prog (I : Interface) (Error Value : Type) : Type where
  | done (value : Value)
  | throw (error : Error)
  | request (op : I.Op) (next : Except Error (I.Ret op) → Prog I Error Value)

namespace Prog

variable {I : Interface} {Error α β γ : Type}

def bind : Prog I Error α → (α → Prog I Error β) → Prog I Error β
  | .done value, f => f value
  | .throw error, _ => .throw error
  | .request op next, f => .request op fun reply => (next reply).bind f

instance : Monad (Prog I Error) where
  pure := .done
  bind := bind

@[simp] theorem request_bind (op : I.Op) (next : Except Error (I.Ret op) → Prog I Error α)
    (f : α → Prog I Error β) :
    (Prog.request op next >>= f) = .request op fun reply => next reply >>= f := rfl

theorem bind_assoc (program : Prog I Error α) (f : α → Prog I Error β) (g : β → Prog I Error γ) :
    program >>= f >>= g = program >>= fun value => f value >>= g := by
  induction program with
  | done value => rfl
  | throw error => rfl
  | request op next ih =>
      simp only [request_bind]
      congr 1
      funext reply
      exact ih reply

def perform (op : I.Op) : Prog I Error (I.Ret op) :=
  .request op fun
    | .ok value => .done value
    | .error error => .throw error

/-- Requests one operation and returns its reply, failure included. -/
def observe (op : I.Op) : Prog I Error (Except Error (I.Ret op)) := .request op .done

def attempt : Prog I Error α → Prog I Error (Except Error α)
  | .done value => .done (.ok value)
  | .throw error => .done (.error error)
  | .request op next => .request op fun reply => (next reply).attempt

def ofExcept : Except Error α → Prog I Error α
  | .ok value => .done value
  | .error error => .throw error

/-- A loop over a list that stops at the first failure. -/
def forEach : List α → (α → Prog I Error Unit) → Prog I Error Unit
  | [], _ => .done ()
  | item :: rest, body => body item >>= fun _ => forEach rest body

end Prog

/-- The meaning of the operations on a state. `internal` operations only touch
the program's own memory: the environment can neither refuse nor interrupt them. -/
structure Handler (I : Interface) (Error State : Type) where
  act : (op : I.Op) → State → Except Error (I.Ret op) × State
  internal : I.Op → Bool

section Semantics

variable {I : Interface} {Error State α β : Type}

def Prog.eval (handler : Handler I Error State) :
    Prog I Error α → State → Except Error α × State
  | .done value, state => (.ok value, state)
  | .throw error, state => (.error error, state)
  | .request op next, state =>
      (next (handler.act op state).1).eval handler (handler.act op state).2

theorem eval_bind (handler : Handler I Error State) (program : Prog I Error α)
    (f : α → Prog I Error β) (state : State) :
    (program >>= f).eval handler state =
      match program.eval handler state with
      | (.ok value, later) => (f value).eval handler later
      | (.error error, later) => (.error error, later) := by
  induction program generalizing state with
  | done value => rfl
  | throw error => rfl
  | request op next ih =>
      simp only [Prog.request_bind, Prog.eval]
      exact ih _ _

theorem eval_perform (handler : Handler I Error State) (op : I.Op) (state : State) :
    (Prog.perform op).eval handler state = handler.act op state := by
  unfold Prog.perform
  simp only [Prog.eval]
  cases reply : (handler.act op state).1 with
  | ok value => exact Prod.ext (by simp [Prog.eval, reply]) rfl
  | error error => exact Prod.ext (by simp [Prog.eval, reply]) rfl

/-- One operation together with the reply the program saw. -/
structure Event (I : Interface) (Error : Type) where
  op : I.Op
  reply : Except Error (I.Ret op)

structure Config (I : Interface) (Error State : Type) where
  history : List (Event I Error)
  state : State

def Config.record (config : Config I Error State) (op : I.Op)
    (reply : Except Error (I.Ret op)) (state : State) : Config I Error State :=
  { history := config.history ++ [⟨op, reply⟩], state := state }

/-- The replies the environment may give: the operation is carried out, it is
refused without effect, or it takes effect and is reported as failed. -/
inductive Reply (handler : Handler I Error State) (op : I.Op) (state : State) :
    Except Error (I.Ret op) → State → Prop where
  | proceed : Reply handler op state (handler.act op state).1 (handler.act op state).2
  | refuse (error : Error) (external : handler.internal op = false) :
      Reply handler op state (.error error) state
  | falter (error : Error) (external : handler.internal op = false) :
      Reply handler op state (.error error) (handler.act op state).2

theorem Reply.cases {handler : Handler I Error State} {op : I.Op} {state after : State}
    {reply : Except Error (I.Ret op)} (replied : Reply handler op state reply after) :
    (reply = (handler.act op state).1 ∧ after = (handler.act op state).2) ∨
    (∃ error, reply = .error error ∧ handler.internal op = false ∧
      (after = state ∨ after = (handler.act op state).2)) := by
  cases replied with
  | proceed => exact Or.inl ⟨rfl, rfl⟩
  | refuse error external => exact Or.inr ⟨error, rfl, external, Or.inl rfl⟩
  | falter error external => exact Or.inr ⟨error, rfl, external, Or.inr rfl⟩

theorem Reply.of_ok {handler : Handler I Error State} {op : I.Op} {state after : State}
    {value : I.Ret op} (replied : Reply handler op state (.ok value) after) :
    (handler.act op state).1 = .ok value ∧ after = (handler.act op state).2 := by
  rcases replied.cases with ⟨same, moved⟩ | ⟨error, same, _⟩
  · exact ⟨same.symm, moved⟩
  · cases same

theorem Reply.state_cases {handler : Handler I Error State} {op : I.Op} {state after : State}
    {reply : Except Error (I.Ret op)} (replied : Reply handler op state reply after) :
    after = state ∨ after = (handler.act op state).2 := by
  rcases replied.cases with ⟨_, moved⟩ | ⟨_, _, _, moved⟩
  · exact Or.inr moved
  · exact moved

theorem Reply.of_internal {handler : Handler I Error State} {op : I.Op} {state after : State}
    {reply : Except Error (I.Ret op)} (internal : handler.internal op = true)
    (replied : Reply handler op state reply after) :
    reply = (handler.act op state).1 ∧ after = (handler.act op state).2 := by
  rcases replied.cases with same | ⟨_, _, external, _⟩
  · exact same
  · rw [internal] at external
    cases external

inductive Outcome (Error Value : Type) where
  | value (value : Value)
  | error (error : Error)
  | stopped
  deriving DecidableEq

/-- `allow` restricts the events a run may contain, by the configuration before
and the state after; a process may stop before any external operation. -/
inductive Runs (handler : Handler I Error State)
    (allow : Config I Error State → Event I Error → State → Prop) :
    Prog I Error α → Config I Error State → Outcome Error α → Config I Error State → Prop where
  | done (value : α) (config : Config I Error State) :
      Runs handler allow (.done value) config (.value value) config
  | throw (error : Error) (config : Config I Error State) :
      Runs handler allow (.throw error) config (.error error) config
  | stop (op : I.Op) (next : Except Error (I.Ret op) → Prog I Error α)
      (config : Config I Error State) (external : handler.internal op = false) :
      Runs handler allow (.request op next) config .stopped config
  | request {op : I.Op} {next : Except Error (I.Ret op) → Prog I Error α}
      {config final : Config I Error State} {outcome : Outcome Error α}
      {reply : Except Error (I.Ret op)} {state : State}
      (replied : Reply handler op config.state reply state)
      (allowed : allow config ⟨op, reply⟩ state)
      (rest : Runs handler allow (next reply) (config.record op reply state) outcome final) :
      Runs handler allow (.request op next) config outcome final

variable {handler : Handler I Error State}
  {allow : Config I Error State → Event I Error → State → Prop}

variable {config final : Config I Error State} {program : Prog I Error α}

theorem runs_bind {f : α → Prog I Error β} {outcome : Outcome Error β}
    (run : Runs handler allow (program >>= f) config outcome final) :
    (∃ value middle, Runs handler allow program config (.value value) middle ∧
      Runs handler allow (f value) middle outcome final) ∨
    (∃ error, Runs handler allow program config (.error error) final ∧ outcome = .error error) ∨
    (Runs handler allow program config .stopped final ∧ outcome = .stopped) := by
  induction program generalizing config with
  | done value => exact Or.inl ⟨value, config, .done value config, run⟩
  | throw error =>
      cases run
      exact Or.inr (Or.inl ⟨error, .throw error _, rfl⟩)
  | request op next ih =>
      rw [Prog.request_bind] at run
      cases run with
      | stop _ _ _ external => exact Or.inr (Or.inr ⟨.stop op next _ external, rfl⟩)
      | request replied allowed rest =>
          rcases ih _ rest with ⟨value, middle, first, second⟩ | ⟨error, first, same⟩ | ⟨first, same⟩
          · exact Or.inl ⟨value, middle, .request replied allowed first, second⟩
          · exact Or.inr (Or.inl ⟨error, .request replied allowed first, same⟩)
          · exact Or.inr (Or.inr ⟨.request replied allowed first, same⟩)

theorem runs_attempt {outcome : Outcome Error (Except Error α)}
    (run : Runs handler allow program.attempt config outcome final) :
    (∃ value, outcome = .value (.ok value) ∧
      Runs handler allow program config (.value value) final) ∨
    (∃ error, outcome = .value (.error error) ∧
      Runs handler allow program config (.error error) final) ∨
    (outcome = .stopped ∧ Runs handler allow program config .stopped final) := by
  induction program generalizing config with
  | done value =>
      cases run
      exact Or.inl ⟨value, rfl, .done value _⟩
  | throw error =>
      cases run
      exact Or.inr (Or.inl ⟨error, rfl, .throw error _⟩)
  | request op next ih =>
      cases run with
      | stop _ _ _ external => exact Or.inr (Or.inr ⟨rfl, .stop op next _ external⟩)
      | request replied allowed rest =>
          rcases ih _ rest with ⟨value, same, first⟩ | ⟨error, same, first⟩ | ⟨same, first⟩
          · exact Or.inl ⟨value, same, .request replied allowed first⟩
          · exact Or.inr (Or.inl ⟨error, same, .request replied allowed first⟩)
          · exact Or.inr (Or.inr ⟨same, .request replied allowed first⟩)

theorem Runs.mono {allow' : Config I Error State → Event I Error → State → Prop}
    {outcome : Outcome Error α} (run : Runs handler allow program config outcome final)
    (weaker : ∀ config event state, allow config event state → allow' config event state) :
    Runs handler allow' program config outcome final := by
  induction run with
  | done value config => exact .done value config
  | throw error config => exact .throw error config
  | stop op next config external => exact .stop op next config external
  | request replied allowed _ ih => exact .request replied (weaker _ _ _ allowed) ih

theorem Runs.replied {outcome : Outcome Error α}
    (run : Runs handler allow program config outcome final) :
    Runs handler (fun config event state => allow config event state ∧
      Reply handler event.op config.state event.reply state) program config outcome final := by
  induction run with
  | done value config => exact .done value config
  | throw error config => exact .throw error config
  | stop op next config external => exact .stop op next config external
  | request replied allowed _ ih => exact .request replied ⟨allowed, replied⟩ ih

theorem runs_keep (kept : State → Prop)
    (keeps : ∀ op state, kept state → kept (handler.act op state).2) {outcome : Outcome Error α}
    (run : Runs handler allow program config outcome final) (holds : kept config.state) :
    kept final.state := by
  induction run with
  | done => exact holds
  | throw => exact holds
  | stop => exact holds
  | request replied _ _ ih =>
      apply ih
      rcases replied.state_cases with rfl | rfl
      · exact holds
      · exact keeps _ _ holds

end Semantics

section Execution

variable {I : Interface} {Error State α : Type}

/-- What the environment does with the next external operation. -/
inductive Signal (Error : Type) where
  | proceed
  | refuse (error : Error)
  | falter (error : Error)
  | stop

def respond (handler : Handler I Error State) (op : I.Op) (state : State) :
    Signal Error → Option (Except Error (I.Ret op) × State)
  | .proceed => some (handler.act op state)
  | .refuse error => some (.error error, state)
  | .falter error => some (.error error, (handler.act op state).2)
  | .stop => none

/-- Runs a program against a list of signals; after the last one every
operation proceeds. -/
def Prog.exec (handler : Handler I Error State) :
    Prog I Error α → List (Signal Error) → Config I Error State →
      Outcome Error α × List (Signal Error) × Config I Error State
  | .done value, signals, config => (.value value, signals, config)
  | .throw error, signals, config => (.error error, signals, config)
  | .request op next, signals, config =>
      if handler.internal op then
        (next (handler.act op config.state).1).exec handler signals
          (config.record op (handler.act op config.state).1 (handler.act op config.state).2)
      else
        match respond handler op config.state (signals.headD .proceed) with
        | none => (.stopped, signals.tail, config)
        | some (reply, state) =>
            (next reply).exec handler signals.tail (config.record op reply state)

theorem reply_of_respond {handler : Handler I Error State} {op : I.Op} {state after : State}
    {signal : Signal Error} {reply : Except Error (I.Ret op)}
    (external : handler.internal op = false)
    (responded : respond handler op state signal = some (reply, after)) :
    Reply handler op state reply after := by
  cases signal with
  | proceed =>
      have same : handler.act op state = (reply, after) := Option.some.inj responded
      have proceeds : Reply handler op state (handler.act op state).1
          (handler.act op state).2 := .proceed
      rwa [same] at proceeds
  | refuse error =>
      obtain ⟨rfl, rfl⟩ := Prod.mk.inj (Option.some.inj responded)
      exact .refuse error external
  | falter error =>
      obtain ⟨rfl, rfl⟩ := Prod.mk.inj (Option.some.inj responded)
      exact .falter error external
  | stop => cases responded

def Prog.follows (handler : Handler I Error State)
    (check : Config I Error State → Event I Error → State → Bool) :
    Prog I Error α → List (Signal Error) → Config I Error State → Bool
  | .done _, _, _ => true
  | .throw _, _, _ => true
  | .request op next, signals, config =>
      if handler.internal op then
        check config ⟨op, (handler.act op config.state).1⟩ (handler.act op config.state).2 &&
          (next (handler.act op config.state).1).follows handler check signals
            (config.record op (handler.act op config.state).1 (handler.act op config.state).2)
      else
        match respond handler op config.state (signals.headD .proceed) with
        | none => true
        | some (reply, state) =>
            check config ⟨op, reply⟩ state &&
              (next reply).follows handler check signals.tail (config.record op reply state)

theorem follows_runs {handler : Handler I Error State}
    {allow : Config I Error State → Event I Error → State → Prop}
    {check : Config I Error State → Event I Error → State → Bool}
    (sound : ∀ config event state, check config event state = true → allow config event state)
    (program : Prog I Error α) (signals : List (Signal Error)) (config : Config I Error State)
    (follows : program.follows handler check signals config = true) :
    Runs handler allow program config
      (program.exec handler signals config).1 (program.exec handler signals config).2.2 := by
  induction program generalizing signals config with
  | done value => exact .done value config
  | throw error => exact .throw error config
  | request op next ih =>
      unfold Prog.follows at follows
      unfold Prog.exec
      split at follows
      · rename_i internal
        rw [if_pos internal]
        rw [Bool.and_eq_true] at follows
        exact .request .proceed (sound _ _ _ follows.1) (ih _ _ _ follows.2)
      · rename_i external
        rw [if_neg external]
        have external : handler.internal op = false := by simpa using external
        split at follows
        · exact .stop op next config external
        · rename_i reply state responded
          rw [Bool.and_eq_true] at follows
          exact .request (reply_of_respond external responded) (sound _ _ _ follows.1)
            (ih _ _ _ follows.2)

theorem follows_true (handler : Handler I Error State) (program : Prog I Error α)
    (signals : List (Signal Error)) (config : Config I Error State) :
    program.follows handler (fun _ _ _ => true) signals config = true := by
  induction program generalizing signals config with
  | done value => rfl
  | throw error => rfl
  | request op next ih =>
      unfold Prog.follows
      split
      · exact ih _ _ _
      · split
        · rfl
        · exact ih _ _ _

theorem exec_runs (handler : Handler I Error State) (program : Prog I Error α)
    (signals : List (Signal Error)) (config : Config I Error State) :
    Runs handler (fun _ _ _ => True) program config
      (program.exec handler signals config).1 (program.exec handler signals config).2.2 :=
  follows_runs (fun _ _ _ _ => trivial) program signals config
    (follows_true handler program signals config)

end Execution

section Specifications

variable {I : Interface} {Error State α β : Type}

/-- Every allowed run from a configuration in `pre` ends as described. -/
def Triple (handler : Handler I Error State)
    (allow : Config I Error State → Event I Error → State → Prop)
    (pre : Config I Error State → Prop) (program : Prog I Error α)
    (post : α → Config I Error State → Prop) (fail stop : Config I Error State → Prop) : Prop :=
  ∀ config outcome final, pre config → Runs handler allow program config outcome final →
    match outcome with
    | .value value => post value final
    | .error _ => fail final
    | .stopped => stop final

variable {handler : Handler I Error State}
  {allow : Config I Error State → Event I Error → State → Prop}
  {pre fail stop : Config I Error State → Prop}

variable {post : α → Config I Error State → Prop} {program : Prog I Error α}

theorem Triple.done {value : α} (holds : ∀ config, pre config → post value config) :
    Triple handler allow pre (.done value) post fail stop := by
  intro config outcome final before run
  cases run
  exact holds config before

theorem Triple.throw {error : Error} (holds : ∀ config, pre config → fail config) :
    Triple handler allow pre (.throw error) post fail stop := by
  intro config outcome final before run
  cases run
  exact holds config before

theorem Triple.request {op : I.Op} {next : Except Error (I.Ret op) → Prog I Error α}
    {post : α → Config I Error State → Prop}
    (stops : ∀ config, pre config → stop config)
    (continues : ∀ config reply state, pre config → Reply handler op config.state reply state →
      allow config ⟨op, reply⟩ state →
      Triple handler allow (fun later => later = config.record op reply state)
        (next reply) post fail stop) :
    Triple handler allow pre (.request op next) post fail stop := by
  intro config outcome final before run
  cases run with
  | stop => exact stops config before
  | request replied allowed rest =>
      exact continues config _ _ before replied allowed _ _ _ rfl rest

theorem Triple.bind {f : α → Prog I Error β} (middle : α → Config I Error State → Prop)
    {post : β → Config I Error State → Prop}
    (first : Triple handler allow pre program middle fail stop)
    (second : ∀ value, Triple handler allow (middle value) (f value) post fail stop) :
    Triple handler allow pre (program >>= f) post fail stop := by
  intro config outcome final before run
  rcases runs_bind run with ⟨value, between, left, right⟩ | ⟨error, left, rfl⟩ | ⟨left, rfl⟩
  · exact second value _ _ _ (first _ _ _ before left) right
  · exact first _ _ _ before left
  · exact first _ _ _ before left

theorem Triple.ite {condition : Prop} [Decidable condition] {yes no : Prog I Error α}
    (left : condition → Triple handler allow pre yes post fail stop)
    (right : ¬ condition → Triple handler allow pre no post fail stop) :
    Triple handler allow pre (if condition then yes else no) post fail stop := by
  split
  · exact left ‹_›
  · exact right ‹_›

theorem Triple.weaken {pre' : Config I Error State → Prop}
    {post post' : α → Config I Error State → Prop} {fail' stop' : Config I Error State → Prop}
    (spec : Triple handler allow pre program post fail stop)
    (before : ∀ config, pre' config → pre config)
    (after : ∀ value config, post value config → post' value config)
    (fails : ∀ config, fail config → fail' config) (stops : ∀ config, stop config → stop' config) :
    Triple handler allow pre' program post' fail' stop' := by
  intro config outcome final holds run
  have result := spec config outcome final (before config holds) run
  cases outcome with
  | value value => exact after value final result
  | error error => exact fails final result
  | stopped => exact stops final result

theorem Triple.of_pre {pre' : Config I Error State → Prop}
    (spec : Triple handler allow pre program post fail stop)
    (before : ∀ config, pre' config → pre config) :
    Triple handler allow pre' program post fail stop :=
  spec.weaken before (fun _ _ after => after) (fun _ failed => failed) fun _ stopped => stopped

theorem Triple.to_post {post post' : α → Config I Error State → Prop}
    (spec : Triple handler allow pre program post fail stop)
    (after : ∀ value config, post value config → post' value config) :
    Triple handler allow pre program post' fail stop :=
  spec.weaken (fun _ before => before) after (fun _ failed => failed) fun _ stopped => stopped

theorem Triple.fix
    (each : ∀ config, pre config →
      Triple handler allow (fun later => later = config) program post fail stop) :
    Triple handler allow pre program post fail stop :=
  fun config outcome final before run => each config before config outcome final rfl run

theorem Triple.learn {fact : Prop} (holds : ∀ config, pre config → fact)
    (knowing : fact → Triple handler allow pre program post fail stop) :
    Triple handler allow pre program post fail stop :=
  fun config outcome final before run =>
    knowing (holds config before) config outcome final before run

theorem Triple.attempt {post : Except Error α → Config I Error State → Prop}
    {good : α → Config I Error State → Prop} {bad : Config I Error State → Prop}
    (spec : Triple handler allow pre program good bad stop)
    (succeeds : ∀ value config, good value config → post (.ok value) config)
    (fails : ∀ error config, bad config → post (.error error) config) :
    Triple handler allow pre program.attempt post fail stop := by
  intro config outcome final before run
  rcases runs_attempt run with ⟨value, rfl, inner⟩ | ⟨error, rfl, inner⟩ | ⟨rfl, inner⟩
  · exact succeeds value final (spec _ _ _ before inner)
  · exact fails error final (spec _ _ _ before inner)
  · exact spec _ _ _ before inner

theorem Triple.perform {op : I.Op} {post : I.Ret op → Config I Error State → Prop}
    (stops : ∀ config, pre config → stop config)
    (succeeds : ∀ config value state, pre config →
      Reply handler op config.state (.ok value) state → allow config ⟨op, .ok value⟩ state →
      post value (config.record op (.ok value) state))
    (fails : ∀ config error state, pre config →
      Reply handler op config.state (.error error) state → allow config ⟨op, .error error⟩ state →
      fail (config.record op (.error error) state)) :
    Triple handler allow pre (Prog.perform op) post fail stop := by
  apply Triple.request stops
  intro config reply state before replied allowed
  cases reply with
  | ok value =>
      apply Triple.done
      rintro _ rfl
      exact succeeds config value state before replied allowed
  | error error =>
      apply Triple.throw
      rintro _ rfl
      exact fails config error state before replied allowed

theorem Triple.observe {op : I.Op} {post : Except Error (I.Ret op) → Config I Error State → Prop}
    (stops : ∀ config, pre config → stop config)
    (answers : ∀ config reply state, pre config → Reply handler op config.state reply state →
      allow config ⟨op, reply⟩ state → post reply (config.record op reply state)) :
    Triple handler allow pre (Prog.observe op) post fail stop := by
  apply Triple.request stops
  intro config reply state before replied allowed
  apply Triple.done
  rintro _ rfl
  exact answers config reply state before replied allowed

theorem Triple.forEach {items : List α} {body : α → Prog I Error Unit}
    (inv : List α → Config I Error State → Prop)
    (step : ∀ item rest, Triple handler allow (inv (item :: rest)) (body item)
      (fun _ => inv rest) fail stop) :
    Triple handler allow (inv items) (Prog.forEach items body) (fun _ => inv []) fail stop := by
  induction items with
  | nil => exact Triple.done fun _ holds => holds
  | cons item rest ih => exact Triple.bind _ (step item rest) fun _ => ih

end Specifications

section StateSpecifications

variable {I : Interface} {Error State α β : Type} {handler : Handler I Error State}
  {pre exit : State → Prop}

def Spec (handler : Handler I Error State) (pre : State → Prop) (program : Prog I Error α)
    (post : α → State → Prop) (exit : State → Prop) : Prop :=
  Triple handler (fun _ _ _ => True) (fun config => pre config.state) program
    (fun value config => post value config.state) (fun config => exit config.state)
    (fun config => exit config.state)

variable {program : Prog I Error α} {post : α → State → Prop}

theorem Spec.done {value : α} (holds : ∀ state, pre state → post value state) :
    Spec handler pre (.done value) post exit :=
  Triple.done fun config => holds config.state

theorem Spec.throw {error : Error} (holds : ∀ state, pre state → exit state) :
    Spec handler pre (.throw error) post exit :=
  Triple.throw fun config => holds config.state

theorem Spec.bind {f : α → Prog I Error β} (middle : α → State → Prop) {post : β → State → Prop}
    (first : Spec handler pre program middle exit)
    (second : ∀ value, Spec handler (middle value) (f value) post exit) :
    Spec handler pre (program >>= f) post exit :=
  Triple.bind _ first second

theorem Spec.weaken {pre' : State → Prop} {post post' : α → State → Prop} {exit' : State → Prop}
    (spec : Spec handler pre program post exit) (before : ∀ state, pre' state → pre state)
    (after : ∀ value state, post value state → post' value state)
    (exits : ∀ state, exit state → exit' state) : Spec handler pre' program post' exit' :=
  Triple.weaken spec (fun config => before config.state)
    (fun value config => after value config.state) (fun config => exits config.state)
    (fun config => exits config.state)

theorem Spec.of_pre {pre' : State → Prop} (spec : Spec handler pre program post exit)
    (before : ∀ state, pre' state → pre state) : Spec handler pre' program post exit :=
  spec.weaken before (fun _ _ after => after) fun _ left => left

theorem Spec.to_post {post post' : α → State → Prop} (spec : Spec handler pre program post exit)
    (after : ∀ value state, post value state → post' value state) :
    Spec handler pre program post' exit :=
  spec.weaken (fun _ before => before) after fun _ left => left

theorem Spec.learn {fact : Prop} (holds : ∀ state, pre state → fact)
    (knowing : fact → Spec handler pre program post exit) : Spec handler pre program post exit :=
  Triple.learn (fun config => holds config.state) knowing

theorem Spec.attempt {post : Except Error α → State → Prop} {good : α → State → Prop}
    {bad : State → Prop} (spec : Spec handler pre program good bad)
    (succeeds : ∀ value state, good value state → post (.ok value) state)
    (fails : ∀ error state, bad state → post (.error error) state)
    (stops : ∀ state, bad state → exit state) : Spec handler pre program.attempt post exit := by
  have exits : Triple handler (fun _ _ _ => True) (fun config => pre config.state) program
      (fun value config => good value config.state) (fun config => bad config.state)
      (fun config => exit config.state) :=
    Triple.weaken spec (fun _ holds => holds) (fun _ _ holds => holds) (fun _ holds => holds)
      (fun config => stops config.state)
  exact Triple.attempt exits (fun value config => succeeds value config.state)
    (fun error config => fails error config.state)

theorem Spec.perform {op : I.Op} {post : I.Ret op → State → Prop}
    (stops : ∀ state, pre state → exit state)
    (succeeds : ∀ state value, pre state → (handler.act op state).1 = .ok value →
      post value (handler.act op state).2)
    (fails : ∀ state, pre state → exit (handler.act op state).2) :
    Spec handler pre (Prog.perform op) post exit := by
  apply Triple.perform
  · exact fun config => stops config.state
  · intro config value state before replied _
    obtain ⟨answered, rfl⟩ := replied.of_ok
    exact succeeds config.state value before answered
  · intro config error state before replied _
    rcases replied.state_cases with rfl | rfl
    · exact stops _ before
    · exact fails config.state before

theorem Spec.internal {op : I.Op} {post : I.Ret op → State → Prop}
    (internal : handler.internal op = true)
    (answers : ∀ state, pre state →
      ∃ value, (handler.act op state).1 = .ok value ∧ post value (handler.act op state).2) :
    Spec handler pre (Prog.perform op) post exit := by
  intro config outcome final before run
  obtain ⟨value, answered, holds⟩ := answers config.state before
  cases run with
  | stop _ _ _ external =>
      rw [internal] at external
      cases external
  | request replied _ rest =>
      obtain ⟨rfl, rfl⟩ := replied.of_internal internal
      rw [answered] at rest
      cases rest
      exact holds

theorem Spec.observe {op : I.Op} {post : Except Error (I.Ret op) → State → Prop}
    (stops : ∀ state, pre state → exit state)
    (answers : ∀ state, pre state → post (handler.act op state).1 (handler.act op state).2)
    (fails : ∀ state error, pre state →
      post (.error error) state ∧ post (.error error) (handler.act op state).2) :
    Spec handler pre (Prog.observe op) post exit := by
  apply Triple.observe
  · exact fun config => stops config.state
  · intro config reply state before replied _
    show post reply state
    rcases replied.cases with ⟨rfl, rfl⟩ | ⟨error, rfl, _, rfl | rfl⟩
    · exact answers config.state before
    · exact (fails _ error before).1
    · exact (fails config.state error before).2

theorem Spec.forEach {items : List α} {body : α → Prog I Error Unit}
    (inv : List α → State → Prop)
    (step : ∀ item rest, Spec handler (inv (item :: rest)) (body item) (fun _ => inv rest) exit) :
    Spec handler (inv items) (Prog.forEach items body) (fun _ => inv []) exit :=
  Triple.forEach (fun rest config => inv rest config.state) step

theorem Spec.frame (kept : State → Prop)
    (keeps : ∀ op state, kept state → kept (handler.act op state).2)
    (spec : Spec handler pre program post exit) :
    Spec handler (fun state => pre state ∧ kept state) program
      (fun value state => post value state ∧ kept state) exit := by
  intro config outcome final before run
  have result := spec config outcome final before.1 run
  cases outcome with
  | value value => exact ⟨result, runs_keep kept keeps run before.2⟩
  | error error => exact result
  | stopped => exact result

end StateSpecifications

section Returns

variable {I : Interface} {Error State α β : Type} {handler : Handler I Error State}
  {state : State}

def Returns (handler : Handler I Error State) (program : Prog I Error α) (state : State)
    (post : α → State → Prop) : Prop :=
  ∃ value later, program.eval handler state = (.ok value, later) ∧ post value later

theorem Returns.done {value : α} {post : α → State → Prop} (holds : post value state) :
    Returns handler (.done value) state post :=
  ⟨value, state, rfl, holds⟩

theorem Returns.bind {program : Prog I Error α} {f : α → Prog I Error β}
    {middle : α → State → Prop} {post : β → State → Prop}
    (first : Returns handler program state middle)
    (second : ∀ value later, middle value later → Returns handler (f value) later post) :
    Returns handler (program >>= f) state post := by
  obtain ⟨value, later, evaluated, holds⟩ := first
  obtain ⟨result, last, rest, final⟩ := second value later holds
  refine ⟨result, last, ?_, final⟩
  rw [eval_bind, evaluated]
  exact rest

theorem Returns.perform {op : I.Op} {value : I.Ret op} {post : I.Ret op → State → Prop}
    (answered : (handler.act op state).1 = .ok value) (holds : post value (handler.act op state).2) :
    Returns handler (Prog.perform op) state post := by
  refine ⟨value, (handler.act op state).2, ?_, holds⟩
  rw [eval_perform, ← answered]

theorem Returns.mono {program : Prog I Error α} {post post' : α → State → Prop}
    (returns : Returns handler program state post)
    (weaker : ∀ value later, post value later → post' value later) :
    Returns handler program state post' := by
  obtain ⟨value, later, evaluated, holds⟩ := returns
  exact ⟨value, later, evaluated, weaker value later holds⟩

theorem Returns.forEach {items : List α} {body : α → Prog I Error Unit} {inv : State → Prop}
    (starts : inv state)
    (step : ∀ item ∈ items, ∀ before, inv before → Returns handler (body item) before fun _ => inv) :
    Returns handler (Prog.forEach items body) state fun _ => inv := by
  induction items generalizing state with
  | nil => exact Returns.done starts
  | cons item rest ih =>
      apply Returns.bind (step item List.mem_cons_self state starts)
      intro _ later holds
      exact ih holds fun other member => step other (List.mem_cons_of_mem _ member)

theorem Returns.of_eval {program : Prog I Error α} {post : α → State → Prop} {value : α}
    {later : State} (returns : Returns handler program state post)
    (evaluated : program.eval handler state = (.ok value, later)) : post value later := by
  obtain ⟨found, last, same, holds⟩ := returns
  obtain ⟨values, states⟩ := Prod.mk.inj (same.symm.trans evaluated)
  rw [← Except.ok.inj values, ← states]
  exact holds

end Returns

section Shape

variable {I : Interface} {Error State α β : Type}

/-- Every operation is among `ops` and, while the replies are among `replies`,
every returned value satisfies `post`. -/
def Prog.Uses (ops : I.Op → Prop) (replies : Event I Error → Prop) (post : α → Prop) :
    Prog I Error α → Prop
  | .done value => post value
  | .throw _ => True
  | .request op next =>
      ops op ∧ ∀ reply, replies ⟨op, reply⟩ → (next reply).Uses ops replies post

variable {ops : I.Op → Prop} {replies : Event I Error → Prop}

variable {program : Prog I Error α} {post : α → Prop}

theorem Prog.Uses.bind {f : α → Prog I Error β} {middle : α → Prop} {post : β → Prop}
    (first : program.Uses ops replies middle)
    (second : ∀ value, middle value → (f value).Uses ops replies post) :
    (program >>= f).Uses ops replies post := by
  induction program with
  | done value => exact second value first
  | throw error => trivial
  | request op next ih => exact ⟨first.1, fun reply replied => ih reply (first.2 reply replied)⟩

theorem Prog.Uses.andThen {f : α → Prog I Error β} {post : β → Prop}
    (first : program.Uses ops replies fun _ => True)
    (second : ∀ value, (f value).Uses ops replies post) : (program >>= f).Uses ops replies post :=
  first.bind fun value _ => second value

theorem Prog.Uses.ite {condition : Prop} [Decidable condition] {yes no : Prog I Error α}
    (left : condition → yes.Uses ops replies post)
    (right : ¬ condition → no.Uses ops replies post) :
    (if condition then yes else no).Uses ops replies post := by
  split
  · exact left ‹_›
  · exact right ‹_›

theorem Prog.Uses.perform {op : I.Op} {post : I.Ret op → Prop} (used : ops op)
    (answers : ∀ value, replies ⟨op, .ok value⟩ → post value) :
    (Prog.perform op : Prog I Error _).Uses ops replies post := by
  refine ⟨used, fun reply replied => ?_⟩
  cases reply with
  | ok value => exact answers value replied
  | error error => trivial

theorem Prog.Uses.observe {op : I.Op} {post : Except Error (I.Ret op) → Prop} (used : ops op)
    (answers : ∀ reply, replies ⟨op, reply⟩ → post reply) :
    (Prog.observe op : Prog I Error _).Uses ops replies post :=
  ⟨used, answers⟩

theorem Prog.Uses.attempt (uses : program.Uses ops replies post) :
    program.attempt.Uses ops replies (fun result => ∀ value, result = .ok value → post value) := by
  induction program with
  | done value =>
      intro other same
      cases same
      exact uses
  | throw error =>
      intro other same
      cases same
  | request op next ih => exact ⟨uses.1, fun reply replied => ih reply (uses.2 reply replied)⟩

theorem Prog.Uses.forEach {items : List α} {body : α → Prog I Error Unit}
    (each : ∀ item ∈ items, (body item).Uses ops replies fun _ => True) :
    (Prog.forEach items body).Uses ops replies fun _ => True := by
  induction items with
  | nil => trivial
  | cons item rest ih =>
      apply Prog.Uses.bind (each item List.mem_cons_self)
      intro _ _
      exact ih fun later member => each later (List.mem_cons_of_mem _ member)

theorem Prog.Uses.weaken {ops' : I.Op → Prop} {replies' : Event I Error → Prop}
    {post post' : α → Prop} (uses : program.Uses ops replies post) (more : ∀ op, ops op → ops' op)
    (fewer : ∀ event, replies' event → replies event) (after : ∀ value, post value → post' value) :
    program.Uses ops' replies' post' := by
  induction program with
  | done value => exact after value uses
  | throw error => trivial
  | request op next ih =>
      exact ⟨more op uses.1, fun reply replied => ih reply (uses.2 reply (fewer _ replied))⟩

theorem Prog.Uses.to_post {post post' : α → Prop} (uses : program.Uses ops replies post)
    (after : ∀ value, post value → post' value) : program.Uses ops replies post' :=
  uses.weaken (fun _ used => used) (fun _ replied => replied) after

theorem Prog.Uses.and {left right : α → Prop} (one : program.Uses ops replies left)
    (two : program.Uses (fun _ => True) replies right) :
    program.Uses ops replies fun value => left value ∧ right value := by
  induction program with
  | done value => exact ⟨one, two⟩
  | throw error => trivial
  | request op next ih =>
      exact ⟨one.1, fun reply replied => ih reply (one.2 reply replied) (two.2 reply replied)⟩

theorem Prog.uses_any (program : Prog I Error α) :
    program.Uses (fun _ => True) replies fun _ => True := by
  induction program with
  | done value => trivial
  | throw error => trivial
  | request op next ih => exact ⟨trivial, fun reply _ => ih reply⟩

theorem Prog.Uses.eval_agrees {State' : Type} {handler : Handler I Error State}
    {handler' : Handler I Error State'} {related : State → State' → Prop}
    (uses : program.Uses ops (fun _ => True) post)
    (agrees : ∀ op, ops op → ∀ state state', related state state' →
      (handler.act op state).1 = (handler'.act op state').1 ∧
        related (handler.act op state).2 (handler'.act op state').2) {state : State}
    {state' : State'} (start : related state state') :
    (program.eval handler state).1 = (program.eval handler' state').1 ∧
      related (program.eval handler state).2 (program.eval handler' state').2 := by
  induction program generalizing state state' with
  | done value => exact ⟨rfl, start⟩
  | throw error => exact ⟨rfl, start⟩
  | request op next ih =>
      obtain ⟨reply, after⟩ := agrees op uses.1 state state' start
      have rest := ih _ (uses.2 (handler.act op state).1 trivial) after
      simp only [Prog.eval]
      rw [← reply]
      exact rest

theorem Prog.Uses.eval_keeps {handler : Handler I Error State} {kept : State → Prop}
    {post : α → Prop} {program : Prog I Error α} (uses : program.Uses ops (fun _ => True) post)
    (keeps : ∀ op, ops op → ∀ state, kept state → kept (handler.act op state).2) {state : State}
    (start : kept state) : kept (program.eval handler state).2 := by
  induction program generalizing state with
  | done value => exact start
  | throw error => exact start
  | request op next ih => exact ih _ (uses.2 _ trivial) (keeps op uses.1 state start)

theorem Prog.Uses.eval_post (uses : program.Uses ops (fun _ => True) post)
    (handler : Handler I Error State) (state : State) :
    ∀ value, (program.eval handler state).1 = .ok value → post value := by
  induction program generalizing state with
  | done value =>
      intro other same
      cases same
      exact uses
  | throw error =>
      intro other same
      cases same
  | request op next ih => exact ih _ (uses.2 _ trivial) _

theorem Prog.Uses.history {handler : Handler I Error State}
    {allow : Config I Error State → Event I Error → State → Prop}
    (uses : program.Uses ops (fun _ => True) post) {config final : Config I Error State}
    {outcome : Outcome Error α} (run : Runs handler allow program config outcome final) :
    ∀ event ∈ final.history, event ∈ config.history ∨ ops event.op := by
  induction run with
  | done => exact fun event member => Or.inl member
  | throw => exact fun event member => Or.inl member
  | stop => exact fun event member => Or.inl member
  | request replied allows _ ih =>
      intro event member
      rcases ih (uses.2 _ trivial) event member with recorded | used
      · rcases List.mem_append.mp recorded with old | new
        · exact Or.inl old
        · rw [List.mem_singleton.mp new]
          exact Or.inr uses.1
      · exact Or.inr used

theorem runs_perform {handler : Handler I Error State}
    {allow : Config I Error State → Event I Error → State → Prop} {op : I.Op} {value : I.Ret op}
    {config final : Config I Error State}
    (run : Runs handler allow (Prog.perform op) config (.value value) final) :
    Reply handler op config.state (.ok value) final.state := by
  cases run with
  | @request _ _ _ _ _ reply state replied allowed rest =>
      cases reply with
      | ok answered =>
          cases rest
          exact replied
      | error error => cases rest

theorem Triple.uses {handler : Handler I Error State}
    {allow : Config I Error State → Event I Error → State → Prop}
    {inv : Config I Error State → Prop} {post : α → Prop} {program : Prog I Error α}
    (uses : program.Uses ops replies post)
    (allowed : ∀ config event state, inv config → allow config event state → replies event)
    (keeps : ∀ config op reply state, ops op → inv config →
      Reply handler op config.state reply state → allow config ⟨op, reply⟩ state →
      inv (config.record op reply state)) :
    Triple handler allow inv program (fun value config => post value ∧ inv config) inv inv := by
  intro config outcome final before run
  induction run with
  | done value config => exact ⟨uses, before⟩
  | throw error config => exact before
  | stop op next config external => exact before
  | request replied allows _ ih =>
      exact ih (uses.2 _ (allowed _ _ _ before allows))
        (keeps _ _ _ _ uses.1 before replied allows)

end Shape

end Noland.Requests
