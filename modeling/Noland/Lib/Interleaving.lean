import Mathlib.Logic.Relation
import Mathlib.Logic.Function.Basic
import Noland.Lib.Requests

/-!
Several programs share one part of the state and each owns another part. `Safe` is the
rely-guarantee reading of a program: every operation it may request, in any shared state the
others may have left, keeps its guarantee, and its result holds whatever the others do afterwards.
-/

namespace Noland.Requests

section Interleaving

variable {I : Interface} {Error Shared Own α β : Type}

/-- What a client may rely on and what it guarantees; `allow` restricts, by the
client's own history, the shared states in which it takes its next step. -/
structure Rules (I : Interface) (Error Shared : Type) where
  rely : Shared → Shared → Prop
  guarantee : Shared → Shared → Prop
  allow : List (Event I Error) → I.Op → Shared → Prop
  rely_refl : ∀ shared, rely shared shared
  rely_trans : ∀ first second third, rely first second → rely second third → rely first third

variable (handler : Handler I Error (Shared × Own)) (rules : Rules I Error Shared)

/-- `post` describes a returned value and `fail` an error, in every shared state
the others may have left since. -/
def Safe (post : α → List (Event I Error) → Shared → Own → Prop)
    (fail : List (Event I Error) → Shared → Own → Prop) :
    Prog I Error α → List (Event I Error) → Shared → Own → Prop
  | .done value, history, shared, own =>
      ∀ later, rules.rely shared later → post value history later own
  | .throw _, history, shared, own => ∀ later, rules.rely shared later → fail history later own
  | .request op next, history, shared, own =>
      ∀ later, rules.rely shared later → rules.allow history op later →
        rules.guarantee later (handler.act op (later, own)).2.1 ∧
        Safe post fail (next (handler.act op (later, own)).1)
          (history ++ [⟨op, (handler.act op (later, own)).1⟩])
          (handler.act op (later, own)).2.1 (handler.act op (later, own)).2.2

variable {handler rules} {fail : List (Event I Error) → Shared → Own → Prop}
  {history : List (Event I Error)} {shared later : Shared} {own : Own}

variable {program : Prog I Error α} {events : List (Event I Error)}

theorem Safe.rely {post : α → List (Event I Error) → Shared → Own → Prop}
    (safe : Safe handler rules post fail program history shared own)
    (moved : rules.rely shared later) : Safe handler rules post fail program history later own := by
  cases program with
  | done value => exact fun last moves => safe last (rules.rely_trans _ _ _ moved moves)
  | throw error => exact fun last moves => safe last (rules.rely_trans _ _ _ moved moves)
  | request op next =>
      exact fun last moves allowed => safe last (rules.rely_trans _ _ _ moved moves) allowed

theorem Safe.bind {post : β → List (Event I Error) → Shared → Own → Prop} {f : α → Prog I Error β}
    (safe : Safe handler rules (fun value => Safe handler rules post fail (f value)) fail program
      history shared own) : Safe handler rules post fail (program >>= f) history shared own := by
  induction program generalizing history shared own with
  | done value => exact safe shared (rules.rely_refl shared)
  | throw error => exact safe
  | request op next ih =>
      intro later moved allowed
      obtain ⟨keeps, rest⟩ := safe later moved allowed
      exact ⟨keeps, ih _ rest⟩

theorem Safe.weaken {post post' : α → List (Event I Error) → Shared → Own → Prop}
    {fail' : List (Event I Error) → Shared → Own → Prop}
    (safe : Safe handler rules post fail program history shared own)
    (after : ∀ value history shared own, post value history shared own →
      post' value history shared own)
    (fails : ∀ history shared own, fail history shared own → fail' history shared own) :
    Safe handler rules post' fail' program history shared own := by
  induction program generalizing history shared own with
  | done value => exact fun later moved => after _ _ _ _ (safe later moved)
  | throw error => exact fun later moved => fails _ _ _ (safe later moved)
  | request op next ih =>
      intro later moved allowed
      obtain ⟨keeps, rest⟩ := safe later moved allowed
      exact ⟨keeps, ih _ rest⟩

theorem Safe.attempt {post : Except Error α → List (Event I Error) → Shared → Own → Prop}
    (bad : List (Event I Error) → Shared → Own → Prop)
    (fails : ∀ error history shared own, bad history shared own →
      post (.error error) history shared own)
    (safe : Safe handler rules (fun value => post (.ok value)) bad program history shared own) :
    Safe handler rules post fail program.attempt history shared own := by
  induction program generalizing history shared own with
  | done value => exact safe
  | throw error => exact fun later moved => fails error _ _ _ (safe later moved)
  | request op next ih =>
      intro later moved allowed
      obtain ⟨keeps, rest⟩ := safe later moved allowed
      exact ⟨keeps, ih _ rest⟩

theorem Safe.perform {op : I.Op} {post : I.Ret op → List (Event I Error) → Shared → Own → Prop}
    (step : ∀ later, rules.rely shared later → rules.allow history op later →
      rules.guarantee later (handler.act op (later, own)).2.1 ∧
      ∀ last, rules.rely (handler.act op (later, own)).2.1 last →
        match (handler.act op (later, own)).1 with
        | .ok value => post value (history ++ [⟨op, .ok value⟩]) last
            (handler.act op (later, own)).2.2
        | .error error => fail (history ++ [⟨op, .error error⟩]) last
            (handler.act op (later, own)).2.2) :
    Safe handler rules post fail (Prog.perform op) history shared own := by
  intro later moved allowed
  obtain ⟨keeps, rest⟩ := step later moved allowed
  refine ⟨keeps, ?_⟩
  cases replied : (handler.act op (later, own)).1 with
  | ok value =>
      intro last moves
      have result := rest last moves
      rwa [replied] at result
  | error error =>
      intro last moves
      have result := rest last moves
      rwa [replied] at result

theorem Safe.frame {post : α → List (Event I Error) → Shared → Own → Prop}
    (kept : List (Event I Error) → Own → Prop)
    (keeps : ∀ op history shared own, kept history own →
      kept (history ++ [⟨op, (handler.act op (shared, own)).1⟩]) (handler.act op (shared, own)).2.2)
    (safe : Safe handler rules post fail program history shared own) (holds : kept history own) :
    Safe handler rules (fun value history shared own => post value history shared own ∧
      kept history own) fail program history shared own := by
  induction program generalizing history shared own with
  | done value => exact fun later moved => ⟨safe later moved, holds⟩
  | throw error => exact safe
  | request op next ih =>
      intro later moved allowed
      obtain ⟨guaranteed, rest⟩ := safe later moved allowed
      exact ⟨guaranteed, ih _ rest (keeps op history later own holds)⟩

theorem Safe.eval {post : α → List (Event I Error) → Shared → Own → Prop}
    (allowed : ∀ history op shared, rules.allow history op shared)
    (safe : Safe handler rules post fail program history shared own) :
    ∃ history,
      match program.eval handler (shared, own) with
      | (.ok value, later) => post value history later.1 later.2
      | (.error _, later) => fail history later.1 later.2 := by
  induction program generalizing history shared own with
  | done value => exact ⟨history, safe shared (rules.rely_refl shared)⟩
  | throw error => exact ⟨history, safe shared (rules.rely_refl shared)⟩
  | request op next ih =>
      obtain ⟨_, rest⟩ := safe shared (rules.rely_refl shared) (allowed history op shared)
      exact ih _ rest

structure Client (I : Interface) (Error Own Value : Type) where
  program : Prog I Error Value
  history : List (Event I Error)
  own : Own

structure Pool (ι : Type) (I : Interface) (Error Shared Own Value : Type) where
  shared : Shared
  client : ι → Client I Error Own Value

variable {ι : Type} [DecidableEq ι]

def Pool.advance (handler : Handler I Error (Shared × Own)) (pool : Pool ι I Error Shared Own α)
    (i : ι) (op : I.Op) (next : Except Error (I.Ret op) → Prog I Error α) :
    Pool ι I Error Shared Own α :=
  { shared := (handler.act op (pool.shared, (pool.client i).own)).2.1
    client := Function.update pool.client i
      { program := next (handler.act op (pool.shared, (pool.client i).own)).1
        history := (pool.client i).history ++
          [⟨op, (handler.act op (pool.shared, (pool.client i).own)).1⟩]
        own := (handler.act op (pool.shared, (pool.client i).own)).2.2 } }

inductive Pool.Step (handler : Handler I Error (Shared × Own))
    (allow : ι → List (Event I Error) → I.Op → Shared → Prop) :
    Pool ι I Error Shared Own α → Pool ι I Error Shared Own α → Prop where
  | act {pool : Pool ι I Error Shared Own α} {i : ι} {op : I.Op}
      {next : Except Error (I.Ret op) → Prog I Error α}
      (waiting : (pool.client i).program = .request op next)
      (allowed : allow i (pool.client i).history op pool.shared) :
      Pool.Step handler allow pool (pool.advance handler i op next)

def Pool.Reaches (handler : Handler I Error (Shared × Own))
    (allow : ι → List (Event I Error) → I.Op → Shared → Prop)
    (start pool : Pool ι I Error Shared Own α) : Prop :=
  Relation.ReflTransGen (Pool.Step handler allow) start pool

section Rules

variable {rules : ι → Rules I Error Shared}
  {post : ι → α → List (Event I Error) → Shared → Own → Prop}
  {fail : ι → List (Event I Error) → Shared → Own → Prop}
  {start pool later : Pool ι I Error Shared Own α}

theorem safe_step
    (compatible : ∀ i j, i ≠ j → ∀ before after,
      (rules j).guarantee before after → (rules i).rely before after)
    (step : Pool.Step handler (fun i => (rules i).allow) pool later)
    (safe : ∀ i, Safe handler (rules i) (post i) (fail i) (pool.client i).program
      (pool.client i).history pool.shared (pool.client i).own) :
    ∀ i, Safe handler (rules i) (post i) (fail i) (later.client i).program (later.client i).history
      later.shared (later.client i).own := by
  obtain ⟨waiting, allowed⟩ := step
  rename_i j op next
  have moves := safe j
  rw [waiting] at moves
  obtain ⟨keeps, rest⟩ := moves _ ((rules j).rely_refl _) allowed
  intro i
  by_cases same : i = j
  · subst same
    simpa [Pool.advance] using rest
  · have others := (safe i).rely (compatible i j same _ _ keeps)
    simpa [Pool.advance, Function.update_of_ne same] using others

theorem safe_reaches
    (compatible : ∀ i j, i ≠ j → ∀ before after,
      (rules j).guarantee before after → (rules i).rely before after)
    (reaches : Pool.Reaches handler (fun i => (rules i).allow) start pool)
    (safe : ∀ i, Safe handler (rules i) (post i) (fail i) (start.client i).program
      (start.client i).history start.shared (start.client i).own) :
    ∀ i, Safe handler (rules i) (post i) (fail i) (pool.client i).program (pool.client i).history
      pool.shared (pool.client i).own := by
  induction reaches with
  | refl => exact safe
  | tail _ step ih => exact safe_step compatible step ih

theorem keep_reaches
    (compatible : ∀ i j, i ≠ j → ∀ before after,
      (rules j).guarantee before after → (rules i).rely before after) (kept : Shared → Prop)
    (keeps : ∀ i before after, (rules i).guarantee before after → kept before → kept after)
    (reaches : Pool.Reaches handler (fun i => (rules i).allow) start pool)
    (safe : ∀ i, Safe handler (rules i) (post i) (fail i) (start.client i).program
      (start.client i).history start.shared (start.client i).own) (holds : kept start.shared) :
    kept pool.shared := by
  induction reaches with
  | refl => exact holds
  | tail before step ih =>
      have still := safe_reaches compatible before safe
      obtain ⟨waiting, allowed⟩ := step
      rename_i i op next
      have moves := still i
      rw [waiting] at moves
      exact keeps i _ _ (moves _ ((rules i).rely_refl _) allowed).1 ih

end Rules

variable {allow : ι → List (Event I Error) → I.Op → Shared → Prop}
  {start pool : Pool ι I Error Shared Own α}

inductive Prog.Trace : Prog I Error α → List (Event I Error) → Prog I Error α → Prop where
  | here (program : Prog I Error α) : Prog.Trace program [] program
  | event {op : I.Op} {next : Except Error (I.Ret op) → Prog I Error α}
      {reply : Except Error (I.Ret op)} {events : List (Event I Error)} {rest : Prog I Error α}
      (later : Prog.Trace (next reply) events rest) :
      Prog.Trace (.request op next) (⟨op, reply⟩ :: events) rest

theorem Prog.Trace.of_request {op : I.Op} {next : Except Error (I.Ret op) → Prog I Error α}
    {rest : Prog I Error α} (trace : Prog.Trace (.request op next) events rest) :
    events = [] ∨ ∃ reply later, events = ⟨op, reply⟩ :: later ∧
      Prog.Trace (next reply) later rest := by
  cases trace with
  | here => exact Or.inl rfl
  | event later => exact Or.inr ⟨_, _, rfl, later⟩

theorem Prog.Trace.of_throw {error : Error} {rest : Prog I Error α}
    (trace : Prog.Trace (.throw error) events rest) : events = [] := by
  cases trace
  rfl

theorem Prog.Trace.snoc {op : I.Op} {next : Except Error (I.Ret op) → Prog I Error α}
    (reply : Except Error (I.Ret op)) {rest : Prog I Error α}
    (trace : Prog.Trace program events rest) (waiting : rest = .request op next) :
    Prog.Trace program (events ++ [⟨op, reply⟩]) (next reply) := by
  induction trace with
  | here program =>
      subst waiting
      exact .event (.here _)
  | event _ ih => exact .event (ih waiting)

theorem Prog.Uses.trace {ops : I.Op → Prop} {post : α → Prop} {program rest : Prog I Error α}
    (uses : program.Uses ops (fun _ => True) post) (trace : Prog.Trace program events rest) :
    rest.Uses ops (fun _ => True) post ∧ ∀ event ∈ events, ops event.op := by
  induction trace with
  | here program => exact ⟨uses, by simp⟩
  | event _ ih =>
      obtain ⟨still, all⟩ := ih (uses.2 _ trivial)
      refine ⟨still, fun event member => ?_⟩
      rcases List.mem_cons.mp member with rfl | later
      · exact uses.1
      · exact all event later

theorem trace_reaches (reaches : Pool.Reaches handler allow start pool) (i : ι) :
    ∃ events, (pool.client i).history = (start.client i).history ++ events ∧
      Prog.Trace (start.client i).program events (pool.client i).program := by
  induction reaches with
  | refl => exact ⟨[], by simp, .here _⟩
  | @tail pool _ _ step ih =>
      obtain ⟨waiting, allowed⟩ := step
      rename_i j op next
      obtain ⟨events, same, trace⟩ := ih
      by_cases mine : i = j
      · subst mine
        have further := trace.snoc (handler.act op (pool.shared, (pool.client i).own)).1 waiting
        refine ⟨_, ?_, by simpa [Pool.advance] using further⟩
        simp [Pool.advance, same]
      · refine ⟨events, ?_, ?_⟩
        · simpa [Pool.advance, Function.update_of_ne mine] using same
        · simpa [Pool.advance, Function.update_of_ne mine] using trace

theorem uses_reaches {ops : ι → I.Op → Prop} {post : ι → α → Prop}
    (inv : Pool ι I Error Shared Own α → Prop)
    (uses : ∀ i, (start.client i).program.Uses (ops i) (fun _ => True) (post i))
    (keeps : ∀ (pool : Pool ι I Error Shared Own α) i op next, inv pool → ops i op →
      allow i (pool.client i).history op pool.shared → inv (pool.advance handler i op next))
    (reaches : Pool.Reaches handler allow start pool) (holds : inv start) : inv pool := by
  induction reaches with
  | refl => exact holds
  | tail before step ih =>
      obtain ⟨waiting, allowed⟩ := step
      rename_i i op next
      obtain ⟨_, _, trace⟩ := trace_reaches before i
      have left := ((uses i).trace trace).1
      rw [waiting] at left
      exact keeps _ i op next ih left.1 allowed

def Prog.returned : Prog I Error α → Option α
  | .done value => some value
  | _ => none

theorem Prog.eq_done_of_returned {value : α} (returned : program.returned = some value) :
    program = .done value := by
  cases program with
  | done other => exact congrArg Prog.done (Option.some.inj returned)
  | throw error => cases returned
  | request op next => cases returned

/-- The clients take their steps in the order of the list. -/
def Pool.interleave (handler : Handler I Error (Shared × Own)) :
    List ι → Pool ι I Error Shared Own α → Pool ι I Error Shared Own α
  | [], pool => pool
  | i :: rest, pool =>
      match (pool.client i).program with
      | .request op next => Pool.interleave handler rest (pool.advance handler i op next)
      | _ => Pool.interleave handler rest pool

def Pool.follows (handler : Handler I Error (Shared × Own))
    (check : ι → List (Event I Error) → I.Op → Shared → Bool) :
    List ι → Pool ι I Error Shared Own α → Bool
  | [], _ => true
  | i :: rest, pool =>
      match (pool.client i).program with
      | .request op next => check i (pool.client i).history op pool.shared &&
          Pool.follows handler check rest (pool.advance handler i op next)
      | _ => Pool.follows handler check rest pool

theorem interleave_reaches (check : ι → List (Event I Error) → I.Op → Shared → Bool)
    (sound : ∀ i history op shared, check i history op shared = true → allow i history op shared)
    (order : List ι) (pool : Pool ι I Error Shared Own α)
    (follows : Pool.follows handler check order pool = true) :
    Pool.Reaches handler allow pool (Pool.interleave handler order pool) := by
  induction order generalizing pool with
  | nil => exact Relation.ReflTransGen.refl
  | cons i rest ih =>
      unfold Pool.follows at follows
      unfold Pool.interleave
      cases program : (pool.client i).program with
      | request op next =>
          rw [program] at follows
          rw [Bool.and_eq_true] at follows
          exact .head (.act program (sound _ _ _ _ follows.1)) (ih _ follows.2)
      | done value =>
          rw [program] at follows
          exact ih pool follows
      | throw error =>
          rw [program] at follows
          exact ih pool follows

end Interleaving

end Noland.Requests
