import Noland.Lib.Requests

/-!
What a program leaves behind when it returns, and with which error it fails, in an environment
that a condition on single events permits. Nothing is said of a process that was stopped.
-/

namespace Noland.Requests

variable {I : Interface} {Error State α β : Type}

section Rules

variable {handler : Handler I Error State} {permits : Event I Error → Prop} {state : State}
  {fail : Error → State → Prop}

/-- Every permitted run from the state returns as `post` says or fails as `fail` says. -/
def Ensures (handler : Handler I Error State) (permits : Event I Error → Prop)
    (program : Prog I Error α) (state : State) (post : α → State → Prop)
    (fail : Error → State → Prop) : Prop :=
  ∀ config outcome final, config.state = state →
    Runs handler (fun _ event _ => permits event) program config outcome final →
      match outcome with
      | .value value => post value final.state
      | .error error => fail error final.state
      | .stopped => True

theorem Ensures.done {value : α} {post : α → State → Prop} (holds : post value state) :
    Ensures handler permits (.done value) state post fail := by
  intro config outcome final here run
  cases run
  rw [here]
  exact holds

theorem Ensures.throw {error : Error} {post : α → State → Prop} (holds : fail error state) :
    Ensures handler permits (.throw error) state post fail := by
  intro config outcome final here run
  cases run
  rw [here]
  exact holds

theorem Ensures.bind {program : Prog I Error α} {f : α → Prog I Error β}
    {middle : α → State → Prop} {post : β → State → Prop}
    (first : Ensures handler permits program state middle fail)
    (second : ∀ value later, middle value later →
      Ensures handler permits (f value) later post fail) :
    Ensures handler permits (program >>= f) state post fail := by
  intro config outcome final here run
  rcases runs_bind run with ⟨value, between, left, right⟩ | ⟨error, left, rfl⟩ | ⟨left, rfl⟩
  · exact second value _ (first _ _ _ here left) _ _ _ rfl right
  · exact first _ _ _ here left
  · trivial

theorem Ensures.mono {program : Prog I Error α} {post post' : α → State → Prop}
    {fail' : Error → State → Prop} (ensures : Ensures handler permits program state post fail)
    (weaker : ∀ value later, post value later → post' value later)
    (fails : ∀ error later, fail error later → fail' error later) :
    Ensures handler permits program state post' fail' := by
  intro config outcome final here run
  have result := ensures config outcome final here run
  cases outcome with
  | value value => exact weaker value _ result
  | error error => exact fails error _ result
  | stopped => trivial

/-- A program that ends well has a run that did. -/
theorem Ensures.returned {program : Prog I Error α} {post : α → State → Prop}
    (ensures : Ensures handler permits program state post fail) :
    Ensures handler permits program state
      (fun value later => post value later ∧ ∃ config final,
        Runs handler (fun _ event _ => permits event) program config (.value value) final)
      fail := by
  intro config outcome final here run
  have result := ensures config outcome final here run
  cases outcome with
  | value value => exact ⟨result, config, final, run⟩
  | error error => exact result
  | stopped => trivial

theorem Ensures.perform {op : I.Op} {post : I.Ret op → State → Prop}
    (succeeds : ∀ value, (handler.act op state).1 = .ok value →
      post value (handler.act op state).2)
    (fails : ∀ error later, permits ⟨op, .error error⟩ →
      later = state ∨ later = (handler.act op state).2 → fail error later) :
    Ensures handler permits (Prog.perform op) state post fail := by
  intro config outcome final here run
  cases run with
  | stop => trivial
  | request replied allowed rest =>
      rename_i after reply
      rw [here] at replied
      cases reply with
      | ok value =>
          obtain ⟨answered, rfl⟩ := replied.of_ok
          cases rest
          exact succeeds value answered
      | error error =>
          cases rest
          exact fails error after allowed replied.state_cases

theorem Ensures.internal {op : I.Op} {value : I.Ret op} {post : I.Ret op → State → Prop}
    (internal : handler.internal op = true) (answered : (handler.act op state).1 = .ok value)
    (holds : post value (handler.act op state).2) :
    Ensures handler permits (Prog.perform op) state post fail := by
  intro config outcome final here run
  cases run with
  | stop => trivial
  | request replied _ rest =>
      obtain ⟨rfl, rfl⟩ := replied.of_internal internal
      rw [here, answered] at rest
      cases rest
      exact holds

theorem Ensures.forEach {items : List α} {body : α → Prog I Error Unit}
    (inv : List α → State → Prop) (holds : inv items state)
    (step : ∀ item rest before, inv (item :: rest) before →
      Ensures handler permits (body item) before (fun _ => inv rest) fail) :
    Ensures handler permits (Prog.forEach items body) state (fun _ => inv []) fail := by
  induction items generalizing state with
  | nil => exact Ensures.done holds
  | cons item rest ih =>
      apply Ensures.bind (step item rest state holds)
      intro _ later next
      exact ih next

end Rules

section Quiet

variable {ops : I.Op → Prop} {own : Error → Prop}

/-- The program requests only operations among `ops` and, while these fail with errors among
`own`, fails with such an error itself. -/
def Prog.Quiet (ops : I.Op → Prop) (own : Error → Prop) : Prog I Error α → Prop
  | .done _ => True
  | .throw error => own error
  | .request op next =>
      ops op ∧ ∀ reply, (∀ error, reply = .error error → own error) → (next reply).Quiet ops own

theorem Prog.Quiet.bind {program : Prog I Error α} {f : α → Prog I Error β}
    (first : program.Quiet ops own) (second : ∀ value, (f value).Quiet ops own) :
    (program >>= f).Quiet ops own := by
  induction program with
  | done value => exact second value
  | throw error => exact first
  | request op next ih => exact ⟨first.1, fun reply clean => ih reply (first.2 reply clean)⟩

theorem Prog.Quiet.perform {op : I.Op} (used : ops op) :
    (Prog.perform op : Prog I Error _).Quiet ops own := by
  refine ⟨used, fun reply clean => ?_⟩
  cases reply with
  | ok value => trivial
  | error error => exact clean error rfl

theorem Prog.Quiet.ofExcept {result : Except Error α}
    (clean : ∀ error, result = .error error → own error) :
    (Prog.ofExcept result : Prog I Error α).Quiet ops own := by
  cases result with
  | ok value => trivial
  | error error => exact clean error rfl

theorem Prog.Quiet.forEach {items : List α} {body : α → Prog I Error Unit}
    (each : ∀ item, (body item).Quiet ops own) : (Prog.forEach items body).Quiet ops own := by
  induction items with
  | nil => trivial
  | cons item rest ih => exact (each item).bind fun _ => ih

theorem Prog.Quiet.ensures {handler : Handler I Error State} {permits : Event I Error → Prop}
    {kept : State → Prop} {program : Prog I Error α} (quiet : program.Quiet ops own)
    (reported : ∀ op error, permits ⟨op, .error error⟩ → own error)
    (keeps : ∀ op, ops op → ∀ state, kept state → kept (handler.act op state).2) {state : State}
    (holds : kept state) :
    Ensures handler permits program state (fun _ => kept)
      (fun error later => own error ∧ kept later) := by
  intro config outcome final here run
  rw [← here] at holds
  clear here
  induction run with
  | done value config => exact holds
  | throw error config => exact ⟨quiet, holds⟩
  | stop op next config external => trivial
  | request replied allowed _ ih =>
      rename_i op _ config _ _ _ after _
      apply ih
      · apply quiet.2
        intro error same
        rw [same] at allowed
        exact reported op error allowed
      · show kept after
        rcases replied.state_cases with rfl | rfl
        · exact holds
        · exact keeps op quiet.1 _ holds

end Quiet

section Known

variable {handler : Handler I Error State}

theorem exec_ends {program : Prog I Error α} {signals : List (Signal Error)}
    {config : Config I Error State} {outcome : Outcome Error α}
    (ends : (program.exec handler signals config).1 = outcome) :
    Runs handler (fun _ _ _ => True) program config outcome
      (program.exec handler signals config).2.2 := by
  rw [← ends]
  exact exec_runs handler program signals config

theorem follows_ends {allow : Config I Error State → Event I Error → State → Prop}
    {check : Config I Error State → Event I Error → State → Bool}
    (sound : ∀ config event state, check config event state = true → allow config event state)
    {program : Prog I Error α} {signals : List (Signal Error)} {config : Config I Error State}
    {outcome : Outcome Error α} (follows : program.follows handler check signals config = true)
    (ends : (program.exec handler signals config).1 = outcome) :
    Runs handler allow program config outcome (program.exec handler signals config).2.2 := by
  rw [← ends]
  exact follows_runs sound program signals config follows

theorem eval_ends {program : Prog I Error α} {state : State} {result : Except Error α}
    (ends : (program.eval handler state).1 = result) :
    program.eval handler state = (result, (program.eval handler state).2) :=
  Prod.ext ends rfl

end Known

end Noland.Requests
