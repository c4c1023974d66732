import Mathlib.Data.List.Nodup
import Mathlib.Logic.Function.Basic
import Noland.Lib.Machine

/-!
`update_state` saves a changed copy of the state in memory under its lock and then publishes it.
`reload_state_from_disk` reads the file, saves what it read and takes the lock only to publish it.
A Moonlight repository changes its own key under a mutex of its own. What the file looks like is
left open.
-/

namespace Noland.Desktop

open Noland.Machine

variable {State Conf Value : Type}

abbrev Root (Value : Type) := String → Option Value

def Root.empty : Root Value := fun _ => none

def Root.insertAll (root : Root Value) (entries : List (String × Value)) : Root Value :=
  entries.foldl (fun root entry => Function.update root entry.1 (some entry.2)) root

inductive StateFile (Value : Type) where
  | missing
  | invalid
  | object (root : Root Value)

/-- What `load_existing_root_map` makes of the file. -/
def StateFile.root : StateFile Value → Root Value
  | .object root => root
  | _ => Root.empty

def moonlightConfigKey : String := "moonligConf"

structure StateFormat (State Conf Value : Type) where
  serialize : State → List (String × Value)
  default : State
  migrateValue : Root Value → Option State
  migrate : Option Value → Option Conf
  configuration : Conf → Value

inductive Call (State Conf : Type) where
  | updateState (update : State → State)
  | reloadStateFromDisk
  | updateMoonlight (repository : Nat) (update : Conf → Option Conf)

inductive Phase (State Conf Value : Type) where
  | called
  | holding (next : State)
  | merging (next : State) (root : Root Value)
  | saved (next : State)
  | recovering
  | loaded (contents : StateFile Value) (fresh : State)
  | storing (contents : StateFile Value) (fresh : State) (root : Root Value)
  | stored (fresh : State)
  | locked
  | changed (contents : StateFile Value) (conf : Conf)
  | returned
  | failed

def Phase.replaced : Phase State Conf Value → Bool
  | .saved _ | .stored _ | .returned => true
  | _ => false

inductive Moment where
  | invoked (id : Nat)
  | answered (id : Nat)
  deriving DecidableEq

structure System (State Conf Value : Type) where
  file : StateFile Value
  memory : State
  stateLock : Option Nat := none
  repositoryLock : Nat → Option Nat := fun _ => none
  calls : Nat → Option (Call State Conf × Phase State Conf Value) := fun _ => none
  moments : List Moment := []
  order : List (Nat × Call State Conf) := []

namespace System

def put (system : System State Conf Value) (id : Nat) (call : Call State Conf)
    (phase : Phase State Conf Value) : System State Conf Value :=
  { system with calls := Function.update system.calls id (some (call, phase)) }

def replace (system : System State Conf Value) (id : Nat) (call : Call State Conf)
    (phase : Phase State Conf Value) (root : Root Value) : System State Conf Value :=
  { system.put id call phase with
    file := .object root
    order := system.order ++ [(id, call)] }

def answer (system : System State Conf Value) (id : Nat) (call : Call State Conf) :
    System State Conf Value :=
  { system.put id call .returned with moments := system.moments ++ [.answered id] }

def drop (system : System State Conf Value) (id : Nat) (call : Call State Conf) :
    System State Conf Value :=
  { system.put id call .failed with
    stateLock := if system.stateLock = some id then none else system.stateLock
    repositoryLock := fun repository =>
      if system.repositoryLock repository = some id then none
      else system.repositoryLock repository }

def change (format : StateFormat State Conf Value) (system : System State Conf Value) (id : Nat)
    (repository : Nat) (update : Conf → Option Conf) (contents : StateFile Value) :
    System State Conf Value :=
  match (format.migrate (contents.root moonlightConfigKey)).bind update with
  | none => system.drop id (.updateMoonlight repository update)
  | some conf => system.put id (.updateMoonlight repository update) (.changed contents conf)

def advance (format : StateFormat State Conf Value) (system : System State Conf Value)
    (id : Nat) : System State Conf Value :=
  match system.calls id with
  | some (.updateState update, .called) =>
      if system.stateLock = none then
        { system.put id (.updateState update) (.holding (update system.memory)) with
          stateLock := some id }
      else system
  | some (.updateState update, .holding next) =>
      system.put id (.updateState update) (.merging next system.file.root)
  | some (.updateState update, .merging next root) =>
      system.replace id (.updateState update) (.saved next)
        (root.insertAll (format.serialize next))
  | some (.updateState update, .saved next) =>
      { system.answer id (.updateState update) with memory := next, stateLock := none }
  | some (.reloadStateFromDisk, .called) =>
      match system.file with
      | .missing =>
          system.put id .reloadStateFromDisk (.loaded .missing format.default)
      | .invalid => system.put id .reloadStateFromDisk .recovering
      | .object root =>
          match format.migrateValue root with
          | some fresh => system.put id .reloadStateFromDisk (.loaded (.object root) fresh)
          | none => system.put id .reloadStateFromDisk .recovering
  | some (.reloadStateFromDisk, .recovering) =>
      { system.put id .reloadStateFromDisk (.loaded .missing format.default) with
        file := .missing }
  | some (.reloadStateFromDisk, .loaded contents fresh) =>
      system.put id .reloadStateFromDisk (.storing contents fresh system.file.root)
  | some (.reloadStateFromDisk, .storing _ fresh root) =>
      system.replace id .reloadStateFromDisk (.stored fresh)
        (root.insertAll (format.serialize fresh))
  | some (.reloadStateFromDisk, .stored fresh) =>
      if system.stateLock = none then
        { system.answer id .reloadStateFromDisk with memory := fresh }
      else system
  | some (.updateMoonlight repository update, .called) =>
      if system.repositoryLock repository = none then
        { system.put id (.updateMoonlight repository update) .locked with
          repositoryLock := Function.update system.repositoryLock repository (some id) }
      else system
  | some (.updateMoonlight repository update, .locked) =>
      match system.file with
      | .invalid => system.put id (.updateMoonlight repository update) .recovering
      | contents => system.change format id repository update contents
  | some (.updateMoonlight repository update, .recovering) =>
      { system.change format id repository update .missing with file := .missing }
  | some (.updateMoonlight repository update, .changed contents conf) =>
      let later := system.replace id (.updateMoonlight repository update) .returned
        (contents.root.insertAll [(moonlightConfigKey, format.configuration conf)])
      { later with
        moments := system.moments ++ [.answered id]
        repositoryLock := Function.update system.repositoryLock repository none }
  | _ => system

end System

inductive Event (State Conf : Type) where
  | call (id : Nat) (call : Call State Conf)
  | advance (id : Nat)
  | fail (id : Nat)

def step (format : StateFormat State Conf Value) (system : System State Conf Value) :
    Event State Conf → System State Conf Value
  | .call id call =>
      match system.calls id with
      | some _ => system
      | none =>
          { system.put id call .called with moments := system.moments ++ [.invoked id] }
  | .advance id => system.advance format id
  | .fail id =>
      match system.calls id with
      | some (_, .returned) => system
      | some (call, _) => system.drop id call
      | none => system

def apply (format : StateFormat State Conf Value) (world : StateFile Value × State) :
    Call State Conf → StateFile Value × State
  | .updateState update =>
      let next := update world.2
      (.object (world.1.root.insertAll (format.serialize next)), next)
  | .reloadStateFromDisk =>
      match world.1 with
      | .object root =>
          match format.migrateValue root with
          | some fresh => (.object (root.insertAll (format.serialize fresh)), fresh)
          | none =>
              (.object (Root.empty.insertAll (format.serialize format.default)), format.default)
      | _ => (.object (Root.empty.insertAll (format.serialize format.default)), format.default)
  | .updateMoonlight _ update =>
      let root := world.1.root
      match (format.migrate (root moonlightConfigKey)).bind update with
      | some conf =>
          (.object (root.insertAll [(moonlightConfigKey, format.configuration conf)]), world.2)
      | none => world

def play (format : StateFormat State Conf Value) (start : StateFile Value × State)
    (order : List (Nat × Call State Conf)) : StateFile Value × State :=
  order.foldl (fun world call => apply format world call.2) start

def Precedes {α : Type} (list : List α) (first later : α) : Prop :=
  ∃ before after, list = before ++ later :: after ∧ first ∈ before

def AllReturned (system : System State Conf Value) : Prop :=
  ∀ id call phase, system.calls id = some (call, phase) → phase = .returned

/-- The file and the memory are those of the calls one after the other, in an order in which a
call that was answered before another was made comes first. -/
def Serialised (format : StateFormat State Conf Value) (start : StateFile Value × State)
    (system : System State Conf Value) : Prop :=
  ∃ order : List (Nat × Call State Conf),
    (order.map Prod.fst).Nodup ∧
    (∀ id call, (id, call) ∈ order ↔ ∃ phase, system.calls id = some (call, phase)) ∧
    (∀ first later, Precedes system.moments (.answered first) (.invoked later) →
      Precedes (order.map Prod.fst) first later) ∧
    play format start order = (system.file, system.memory)

def NoneStored (system : System State Conf Value) : Prop :=
  ∀ id call fresh, system.calls id ≠ some (call, .stored fresh)

/-- Whoever replaces the file finds it as it was read, the state is saved only while no reload
waits to be published, and nobody sets the file aside. -/
def Undisturbed (system : System State Conf Value) : Event State Conf → Prop
  | .advance id =>
      match system.calls id with
      | some (_, .merging _ root) => root = system.file.root ∧ NoneStored system
      | some (_, .storing contents _ root) =>
          contents = system.file ∧ root = system.file.root ∧ NoneStored system
      | some (_, .changed contents _) => contents.root = system.file.root
      | some (_, .recovering) => False
      | _ => True
  | _ => True

def Loads (format : StateFormat State Conf Value) (fresh : State) : StateFile Value → Prop
  | .missing => fresh = format.default
  | .invalid => False
  | .object root => format.migrateValue root = some fresh

def NoneSaved (system : System State Conf Value) : Prop :=
  ∀ id call next, system.calls id ≠ some (call, .saved next)

def Knows (format : StateFormat State Conf Value) (system : System State Conf Value) (id : Nat) :
    Call State Conf → Phase State Conf Value → Prop
  | .updateState update, .holding next | .updateState update, .merging next _ =>
      next = update system.memory ∧ system.stateLock = some id
  | _, .saved _ => system.stateLock = some id
  | _, .loaded contents fresh | _, .storing contents fresh _ => Loads format fresh contents
  | .updateMoonlight _ update, .changed contents conf =>
      (format.migrate (contents.root moonlightConfigKey)).bind update = some conf
  | _, _ => True

structure Remembers (value : State) (system : System State Conf Value) : Prop where
  stored : ∀ id call fresh, system.calls id = some (call, .stored fresh) → value = fresh
  saved : NoneStored system → ∀ id call next, system.calls id = some (call, .saved next) →
    value = next
  settled : NoneStored system → NoneSaved system → value = system.memory

structure Recorded (system : System State Conf Value) : Prop where
  distinct : (system.order.map Prod.fst).Nodup
  ordered : ∀ id call, (id, call) ∈ system.order ↔
    ∃ phase, system.calls id = some (call, phase) ∧ phase.replaced = true
  answered : ∀ id, .answered id ∈ system.moments → id ∈ system.order.map Prod.fst
  invoked : ∀ id, .invoked id ∈ system.moments → system.calls id ≠ none
  realTime : ∀ first later, Precedes system.moments (.answered first) (.invoked later) →
    later ∈ system.order.map Prod.fst → Precedes (system.order.map Prod.fst) first later

structure Tracked (format : StateFormat State Conf Value) (start : StateFile Value × State)
    (system : System State Conf Value) : Prop where
  file : (play format start system.order).1 = system.file
  memory : Remembers (play format start system.order).2 system
  knows : ∀ id call phase, system.calls id = some (call, phase) →
    Knows format system id call phase
  recorded : Recorded system

section Steps

variable {format : StateFormat State Conf Value} {start : StateFile Value × State}
  {system : System State Conf Value} {id : Nat} {call : Call State Conf}

theorem play_snoc (order : List (Nat × Call State Conf)) (id : Nat) (call : Call State Conf) :
    play format start (order ++ [(id, call)]) = apply format (play format start order) call := by
  simp only [play, List.foldl_append, List.foldl_cons, List.foldl_nil]

theorem Precedes.mem {α : Type} {list : List α} {first later : α}
    (precedes : Precedes list first later) : first ∈ list ∧ later ∈ list := by
  obtain ⟨before, after, rfl, member⟩ := precedes
  exact ⟨List.mem_append_left _ member, List.mem_append_right _ (List.mem_cons_self ..)⟩

theorem Precedes.append {α : Type} {list more : List α} {first later : α}
    (precedes : Precedes list first later) : Precedes (list ++ more) first later := by
  obtain ⟨before, after, rfl, member⟩ := precedes
  exact ⟨before, after ++ more, by simp, member⟩

theorem precedes_snoc {α : Type} {list : List α} {last first later : α}
    (precedes : Precedes (list ++ [last]) first later) :
    Precedes list first later ∨ later = last ∧ first ∈ list := by
  obtain ⟨before, after, whole, member⟩ := precedes
  rcases List.eq_nil_or_concat after with rfl | ⟨rest, other, rfl⟩
  · obtain ⟨same, ends⟩ := List.append_inj' whole rfl
    cases ends
    exact Or.inr ⟨rfl, same ▸ member⟩
  · have split : list ++ [last] = (before ++ later :: rest) ++ [other] := by
      rw [whole]
      simp
    obtain ⟨same, _⟩ := List.append_inj' split rfl
    exact Or.inl ⟨before, rest, same, member⟩

theorem put_self (phase : Phase State Conf Value) :
    (system.put id call phase).calls id = some (call, phase) :=
  Function.update_self ..

theorem put_other {phase : Phase State Conf Value} {other : Nat} (apart : other ≠ id) :
    (system.put id call phase).calls other = system.calls other :=
  Function.update_of_ne apart ..

theorem put_cases {phase : Phase State Conf Value} {other : Nat} {called : Call State Conf}
    {found : Phase State Conf Value}
    (here : (system.put id call phase).calls other = some (called, found)) :
    other = id ∧ called = call ∧ found = phase ∨
      other ≠ id ∧ system.calls other = some (called, found) := by
  by_cases same : other = id
  · subst same
    rw [put_self] at here
    cases here
    exact Or.inl ⟨rfl, rfl, rfl⟩
  · rw [put_other same] at here
    exact Or.inr ⟨same, here⟩

theorem Recorded.mem_order (recorded : Recorded system) :
    id ∈ system.order.map Prod.fst ↔
      ∃ call phase, system.calls id = some (call, phase) ∧ phase.replaced = true := by
  constructor
  · intro member
    obtain ⟨entry, among, rfl⟩ := List.mem_map.mp member
    obtain ⟨phase, here⟩ := (recorded.ordered entry.1 entry.2).mp among
    exact ⟨entry.2, phase, here⟩
  · rintro ⟨call, phase, here⟩
    exact List.mem_map.mpr ⟨(id, call), (recorded.ordered id call).mpr ⟨phase, here⟩, rfl⟩

variable {later : System State Conf Value} {old phase : Phase State Conf Value}

theorem Recorded.put (recorded : Recorded system) (here : system.calls id = some (call, old))
    (same : phase.replaced = old.replaced) :
    Recorded (system.put id call phase) where
  distinct := recorded.distinct
  ordered := by
    intro other called
    rw [show (system.put id call phase).order = system.order from rfl, recorded.ordered]
    by_cases apart : other = id
    · subst apart
      rw [put_self, here]
      constructor
      · rintro ⟨found, this, replaced⟩
        cases this
        exact ⟨phase, rfl, same.trans replaced⟩
      · rintro ⟨found, this, replaced⟩
        cases this
        exact ⟨old, rfl, same.symm.trans replaced⟩
    · rw [put_other apart]
  answered := recorded.answered
  invoked := by
    intro other member
    by_cases apart : other = id
    · subst apart
      rw [put_self]
      exact Option.some_ne_none _
    · rw [put_other apart]
      exact recorded.invoked other member
  realTime := recorded.realTime

theorem Recorded.replace (recorded : Recorded system) (here : system.calls id = some (call, old))
    (unreplaced : old.replaced = false) (replaced : phase.replaced = true) (root : Root Value) :
    Recorded (system.replace id call phase root) := by
  have fresh : id ∉ system.order.map Prod.fst := by
    intro member
    obtain ⟨called, found, this, was⟩ := recorded.mem_order.mp member
    rw [here] at this
    cases this
    rw [unreplaced] at was
    cases was
  have names : (system.replace id call phase root).order.map Prod.fst =
      system.order.map Prod.fst ++ [id] := by
    simp [System.replace]
  constructor
  · rw [names]
    exact List.nodup_append.mpr ⟨recorded.distinct, List.nodup_singleton id, by
      intro first member last single
      rw [List.mem_singleton.mp single]
      intro same
      exact fresh (same ▸ member)⟩
  · intro other called
    rw [show (system.replace id call phase root).order = system.order ++ [(id, call)] from rfl,
      List.mem_append, List.mem_singleton, recorded.ordered]
    by_cases apart : other = id
    · subst apart
      rw [show (system.replace other call phase root).calls other = some (call, phase) from
        put_self phase, here]
      constructor
      · rintro (⟨found, this, was⟩ | this)
        · cases this
          rw [unreplaced] at was
          cases was
        · cases this
          exact ⟨phase, rfl, replaced⟩
      · rintro ⟨found, this, _⟩
        cases this
        exact Or.inr rfl
    · rw [show (system.replace id call phase root).calls other = system.calls other from
        put_other apart]
      constructor
      · rintro (found | this)
        · exact found
        · cases this
          exact absurd rfl apart
      · exact Or.inl
  · intro other member
    rw [names]
    exact List.mem_append_left _ (recorded.answered other member)
  · intro other member
    by_cases apart : other = id
    · subst apart
      rw [show (system.replace other call phase root).calls other = some (call, phase) from
        put_self phase]
      exact Option.some_ne_none _
    · rw [show (system.replace id call phase root).calls other = system.calls other from
        put_other apart]
      exact recorded.invoked other member
  · intro first later precedes member
    rw [names] at member ⊢
    rcases List.mem_append.mp member with before | last
    · exact (recorded.realTime first later precedes before).append
    · rw [List.mem_singleton.mp last]
      exact ⟨system.order.map Prod.fst, [], rfl, recorded.answered first precedes.mem.1⟩

theorem Recorded.answer (recorded : Recorded system) {old : Phase State Conf Value}
    (here : system.calls id = some (call, old)) (replaced : old.replaced = true) :
    Recorded (system.answer id call) := by
  have put : Recorded (system.put id call .returned) := recorded.put here replaced.symm
  constructor
  · exact put.distinct
  · exact put.ordered
  · intro other member
    rcases List.mem_append.mp member with before | last
    · exact put.answered other before
    · cases List.mem_singleton.mp last
      exact recorded.mem_order.mpr ⟨call, old, here, replaced⟩
  · intro other member
    rcases List.mem_append.mp member with before | last
    · exact put.invoked other before
    · cases List.mem_singleton.mp last
  · intro first later precedes member
    rcases precedes_snoc precedes with before | last
    · exact put.realTime first later before member
    · cases last.1

theorem Recorded.invoke (recorded : Recorded system) (absent : system.calls id = none) :
    Recorded { system.put id call .called with moments := system.moments ++ [.invoked id] } := by
  have fresh : id ∉ system.order.map Prod.fst := by
    intro member
    obtain ⟨called, found, this, _⟩ := recorded.mem_order.mp member
    rw [absent] at this
    cases this
  constructor
  · exact recorded.distinct
  · intro other called
    refine (recorded.ordered other called).trans ?_
    by_cases apart : other = id
    · subst apart
      rw [put_self, absent]
      constructor
      · rintro ⟨found, this, _⟩
        cases this
      · rintro ⟨found, this, was⟩
        cases this
        cases was
    · rw [put_other apart]
  · intro other member
    rcases List.mem_append.mp member with before | last
    · exact recorded.answered other before
    · cases List.mem_singleton.mp last
  · intro other member
    by_cases apart : other = id
    · subst apart
      rw [put_self]
      exact Option.some_ne_none _
    · rw [put_other apart]
      rcases List.mem_append.mp member with before | last
      · exact recorded.invoked other before
      · cases List.mem_singleton.mp last
        exact absurd rfl apart
  · intro first later precedes member
    rcases precedes_snoc precedes with before | last
    · exact recorded.realTime first later before member
    · cases last.1
      exact absurd member fresh

theorem Knows.carry {phase : Phase State Conf Value} (knows : Knows format system id call phase)
    (memory : later.memory = system.memory)
    (lock : system.stateLock = some id → later.stateLock = some id) :
    Knows format later id call phase := by
  cases call <;> cases phase <;> simp only [Knows, memory] at knows ⊢ <;>
    first
      | exact knows
      | exact ⟨knows.1, lock knows.2⟩
      | exact lock knows

theorem Knows.unlocked {phase : Phase State Conf Value}
    (knows : Knows format system id call phase) (free : system.stateLock ≠ some id) :
    Knows format later id call phase := by
  cases call <;> cases phase <;> simp only [Knows] at knows ⊢ <;>
    first
      | exact knows
      | exact absurd knows.2 free
      | exact absurd knows free

theorem Knows.saved_lock {next : State} (knows : Knows format system id call (.saved next)) :
    system.stateLock = some id := by
  cases call <;> exact knows

def Phase.plain : Phase State Conf Value → Prop
  | .saved _ | .stored _ => False
  | _ => True

theorem Remembers.of_pending {value : State} (remembers : Remembers value system)
    (same : ∀ other called found, ¬ Phase.plain found →
      (later.calls other = some (called, found) ↔ system.calls other = some (called, found)))
    (memory : later.memory = system.memory) : Remembers value later := by
  have none : NoneStored later → NoneStored system := fun absent other called fresh this =>
    absent other called fresh ((same other called (.stored fresh) not_false).mpr this)
  constructor
  · intro other called fresh this
    exact remembers.stored other called fresh
      ((same other called (.stored fresh) not_false).mp this)
  · intro absent other called next this
    exact remembers.saved (none absent) other called next
      ((same other called (.saved next) not_false).mp this)
  · intro absent unsaved
    rw [memory]
    exact remembers.settled (none absent) fun other called next this =>
      unsaved other called next ((same other called (.saved next) not_false).mpr this)

theorem Remembers.put {value : State} (remembers : Remembers value system)
    (here : system.calls id = some (call, old)) (before : old.plain) (after : phase.plain)
    (calls : later.calls = (system.put id call phase).calls)
    (memory : later.memory = system.memory) : Remembers value later := by
  apply remembers.of_pending _ memory
  intro other called found pending
  rw [calls]
  by_cases apart : other = id
  · subst apart
    rw [put_self, here]
    constructor
    · intro this
      cases this
      exact absurd after pending
    · intro this
      cases this
      exact absurd before pending
  · rw [put_other apart]

theorem Tracked.quiet {old : Phase State Conf Value} (tracked : Tracked format start system)
    (phase : Phase State Conf Value) (here : system.calls id = some (call, old))
    (before : old.plain) (after : phase.plain) (same : phase.replaced = old.replaced)
    (calls : later.calls = (system.put id call phase).calls) (file : later.file = system.file)
    (memory : later.memory = system.memory) (order : later.order = system.order)
    (moments : later.moments = system.moments)
    (lock : ∀ other, other ≠ id → system.stateLock = some other → later.stateLock = some other)
    (knows : Knows format later id call phase) : Tracked format start later := by
  constructor
  · rw [order, file]
    exact tracked.file
  · rw [order]
    exact tracked.memory.put here before after calls memory
  · intro other called found this
    rw [calls] at this
    rcases put_cases this with ⟨rfl, rfl, rfl⟩ | ⟨apart, before⟩
    · exact knows
    · exact (tracked.knows other called found before).carry memory (lock other apart)
  · have put : Recorded (system.put id call phase) := tracked.recorded.put here same
    constructor
    · rw [order]
      exact put.distinct
    · rw [order, calls]
      exact put.ordered
    · rw [order, moments]
      exact put.answered
    · rw [moments, calls]
      exact put.invoked
    · rw [order, moments]
      exact put.realTime

theorem Tracked.replaces {root : Root Value} (tracked : Tracked format start system)
    (here : system.calls id = some (call, old)) (unreplaced : old.replaced = false)
    (replaced : phase.replaced = true)
    (applied : (apply format (play format start system.order) call).1 = .object root)
    (remembers : Remembers (apply format (play format start system.order) call).2
      (system.replace id call phase root)) (knows : Knows format system id call phase) :
    Tracked format start (system.replace id call phase root) := by
  have played : play format start (system.replace id call phase root).order =
      apply format (play format start system.order) call := play_snoc ..
  constructor
  · rw [played]
    exact applied
  · rw [played]
    exact remembers
  · intro other called found this
    rcases put_cases this with ⟨rfl, rfl, rfl⟩ | ⟨apart, before⟩
    · exact knows.carry rfl fun held => held
    · exact (tracked.knows other called found before).carry rfl fun held => held
  · exact tracked.recorded.replace here unreplaced replaced root

theorem Tracked.saves {update : State → State} {next : State} {root : Root Value}
    (tracked : Tracked format start system)
    (here : system.calls id = some (.updateState update, .merging next root))
    (found : root = system.file.root) (free : NoneStored system) :
    Tracked format start (system.replace id (.updateState update) (.saved next)
      (root.insertAll (format.serialize next))) := by
  obtain ⟨changed, lock⟩ := tracked.knows id _ _ here
  have alone : NoneSaved system := by
    intro other called value this
    have locked := (tracked.knows other called _ this).saved_lock
    rw [lock] at locked
    cases locked
    rw [here] at this
    cases this
  have memory := tracked.memory.settled free alone
  have applied : apply format (play format start system.order) (.updateState update) =
      (.object (root.insertAll (format.serialize next)), next) := by
    simp only [apply]
    rw [tracked.file, memory, ← changed, found]
  apply tracked.replaces here rfl rfl
  · rw [applied]
  · rw [applied]
    constructor
    · intro other called fresh this
      rcases put_cases this with ⟨rfl, rfl, same⟩ | ⟨apart, before⟩
      · cases same
      · exact absurd before (free other called fresh)
    · intro _ other called value this
      rcases put_cases this with ⟨rfl, rfl, same⟩ | ⟨apart, before⟩
      · cases same
        rfl
      · exact absurd before (alone other called value)
    · intro _ unsaved
      exact absurd (put_self (.saved next)) (unsaved id _ next)
  · exact lock

theorem Tracked.stores {contents : StateFile Value} {fresh : State} {root : Root Value}
    (tracked : Tracked format start system)
    (here : system.calls id = some (.reloadStateFromDisk, .storing contents fresh root))
    (read : contents = system.file) (found : root = system.file.root) (free : NoneStored system) :
    Tracked format start (system.replace id .reloadStateFromDisk (.stored fresh)
      (root.insertAll (format.serialize fresh))) := by
  have loads : Loads format fresh contents := tracked.knows id _ _ here
  have applied : apply format (play format start system.order) .reloadStateFromDisk =
      (.object (root.insertAll (format.serialize fresh)), fresh) := by
    have file := tracked.file
    rw [← read] at file found
    simp only [apply]
    rw [file]
    cases contents with
    | missing =>
        rw [found, show fresh = format.default from loads]
        rfl
    | invalid => exact loads.elim
    | object content =>
        have migrated : format.migrateValue content = some fresh := loads
        rw [found]
        simp only [migrated]
        rfl
  apply tracked.replaces here rfl rfl
  · rw [applied]
  · rw [applied]
    constructor
    · intro other called value this
      rcases put_cases this with ⟨rfl, rfl, same⟩ | ⟨apart, before⟩
      · cases same
        rfl
      · exact absurd before (free other called value)
    · intro absent
      exact absurd (put_self (.stored fresh)) (absent id _ fresh)
    · intro absent
      exact absurd (put_self (.stored fresh)) (absent id _ fresh)
  · trivial

theorem Tracked.publishes {update : State → State} {next : State}
    (tracked : Tracked format start system)
    (here : system.calls id = some (.updateState update, .saved next)) :
    Tracked format start
      { system.answer id (.updateState update) with memory := next, stateLock := none } := by
  have lock : system.stateLock = some id := (tracked.knows id _ _ here).saved_lock
  constructor
  · exact tracked.file
  · constructor
    · intro other called fresh this
      rcases put_cases this with ⟨rfl, rfl, same⟩ | ⟨apart, before⟩
      · cases same
      · exact tracked.memory.stored other called fresh before
    · intro _ other called value this
      rcases put_cases this with ⟨rfl, rfl, same⟩ | ⟨apart, before⟩
      · cases same
      · have locked := (tracked.knows other called _ before).saved_lock
        rw [lock] at locked
        cases locked
        exact absurd rfl apart
    · intro absent _
      apply tracked.memory.saved _ id _ next here
      intro other called fresh before
      by_cases apart : other = id
      · subst apart
        rw [here] at before
        cases before
      · exact absent other called fresh ((put_other apart).trans before)
  · intro other called found this
    rcases put_cases this with ⟨rfl, rfl, same⟩ | ⟨apart, before⟩
    · rw [same]
      trivial
    · apply (tracked.knows other called found before).unlocked
      rw [lock]
      intro same
      cases same
      exact apart rfl
  · have answered := tracked.recorded.answer here rfl
    exact ⟨answered.distinct, answered.ordered, answered.answered, answered.invoked,
      answered.realTime⟩

theorem Tracked.reloads {fresh : State} (tracked : Tracked format start system)
    (here : system.calls id = some (.reloadStateFromDisk, .stored fresh))
    (free : system.stateLock = none) :
    Tracked format start
      { system.answer id .reloadStateFromDisk with memory := fresh } := by
  have played := tracked.memory.stored id _ fresh here
  constructor
  · exact tracked.file
  · constructor
    · intro other called value this
      rcases put_cases this with ⟨rfl, rfl, same⟩ | ⟨apart, before⟩
      · cases same
      · exact tracked.memory.stored other called value before
    · intro _ other called value this
      rcases put_cases this with ⟨rfl, rfl, same⟩ | ⟨apart, before⟩
      · cases same
      · have locked := (tracked.knows other called _ before).saved_lock
        rw [free] at locked
        cases locked
    · exact fun _ _ => played
  · intro other called found this
    rcases put_cases this with ⟨rfl, rfl, same⟩ | ⟨apart, before⟩
    · rw [same]
      trivial
    · apply (tracked.knows other called found before).unlocked
      rw [free]
      nofun
  · have answered := tracked.recorded.answer here rfl
    exact ⟨answered.distinct, answered.ordered, answered.answered, answered.invoked,
      answered.realTime⟩

theorem Tracked.changes {repository : Nat} {update : Conf → Option Conf}
    {contents : StateFile Value} {conf : Conf} (tracked : Tracked format start system)
    (here : system.calls id = some (.updateMoonlight repository update, .changed contents conf))
    (read : contents.root = system.file.root) :
    Tracked format start
      { system.replace id (.updateMoonlight repository update) .returned
          (contents.root.insertAll [(moonlightConfigKey, format.configuration conf)]) with
        moments := system.moments ++ [.answered id]
        repositoryLock := Function.update system.repositoryLock repository none } := by
  have changed : (format.migrate (contents.root moonlightConfigKey)).bind update = some conf :=
    tracked.knows id _ _ here
  have applied : apply format (play format start system.order)
      (.updateMoonlight repository update) =
      (.object (contents.root.insertAll [(moonlightConfigKey, format.configuration conf)]),
        (play format start system.order).2) := by
    have file := tracked.file
    simp only [apply]
    rw [file, ← read, changed]
  have kept : Remembers (play format start system.order).2
      (system.replace id (.updateMoonlight repository update) .returned
        (contents.root.insertAll [(moonlightConfigKey, format.configuration conf)])) :=
    tracked.memory.put here trivial (show Phase.plain .returned from trivial) rfl rfl
  have replaced : Tracked format start
      (system.replace id (.updateMoonlight repository update) .returned
        (contents.root.insertAll [(moonlightConfigKey, format.configuration conf)])) := by
    apply tracked.replaces here rfl rfl
    · rw [applied]
    · rw [applied]
      exact kept
    · trivial
  have answered := replaced.recorded.answer (put_self .returned) rfl
  constructor
  · exact replaced.file
  · exact ⟨replaced.memory.stored, replaced.memory.saved, replaced.memory.settled⟩
  · intro other called found this
    exact (replaced.knows other called found this).carry rfl fun held => held
  · constructor
    · exact answered.distinct
    · exact replaced.recorded.ordered
    · exact answered.answered
    · intro other member
      rcases List.mem_append.mp member with before | last
      · exact replaced.recorded.invoked other before
      · cases List.mem_singleton.mp last
    · exact answered.realTime

def Failed (system : System State Conf Value) : Prop :=
  ∃ id call, system.calls id = some (call, .failed)

theorem drop_failed : Failed (system.drop id call) := ⟨id, call, put_self .failed⟩

theorem Tracked.change {repository : Nat} {update : Conf → Option Conf}
    {contents : StateFile Value} (tracked : Tracked format start system)
    (here : system.calls id = some (.updateMoonlight repository update, .locked)) :
    Tracked format start (system.change format id repository update contents) ∨
      Failed (system.change format id repository update contents) := by
  unfold System.change
  split
  · exact Or.inr drop_failed
  · next conf changed =>
    left
    exact tracked.quiet (.changed contents conf) here trivial trivial rfl rfl rfl rfl rfl rfl
      (fun _ _ held => held) changed

theorem Tracked.advance (tracked : Tracked format start system)
    (undisturbed : Undisturbed system (.advance id)) :
    Tracked format start (system.advance format id) ∨ Failed (system.advance format id) := by
  unfold System.advance
  split
  · next update here =>
    split
    · next free =>
      left
      refine tracked.quiet (.holding (update system.memory)) here trivial trivial rfl rfl rfl rfl
        rfl rfl ?_ ?_
      · intro other _ held
        rw [free] at held
        cases held
      · exact ⟨rfl, rfl⟩
    · exact Or.inl tracked
  · next update next here =>
    left
    exact tracked.quiet (.merging next system.file.root) here trivial trivial rfl rfl rfl rfl rfl
      rfl (fun _ _ held => held) (tracked.knows id _ _ here)
  · next update next root here =>
    simp only [Undisturbed, here] at undisturbed
    exact Or.inl (tracked.saves here undisturbed.1 undisturbed.2)
  · next update next here => exact Or.inl (tracked.publishes here)
  · next here =>
    left
    split
    · exact tracked.quiet (.loaded .missing format.default) here trivial trivial rfl rfl rfl rfl
        rfl rfl (fun _ _ held => held) rfl
    · exact tracked.quiet .recovering here trivial trivial rfl rfl rfl rfl rfl rfl
        (fun _ _ held => held) trivial
    · next root _ =>
      split
      · next fresh migrated =>
        exact tracked.quiet (.loaded (.object root) fresh) here trivial trivial rfl rfl rfl rfl
          rfl rfl (fun _ _ held => held) migrated
      · exact tracked.quiet .recovering here trivial trivial rfl rfl rfl rfl rfl rfl
          (fun _ _ held => held) trivial
  · next here =>
    simp only [Undisturbed, here] at undisturbed
  · next contents fresh here =>
    left
    exact tracked.quiet (.storing contents fresh system.file.root) here trivial trivial rfl rfl
      rfl rfl rfl rfl (fun _ _ held => held) (tracked.knows id _ _ here)
  · next contents fresh root here =>
    simp only [Undisturbed, here] at undisturbed
    exact Or.inl (tracked.stores here undisturbed.1 undisturbed.2.1 undisturbed.2.2)
  · next fresh here =>
    split
    · next free => exact Or.inl (tracked.reloads here free)
    · exact Or.inl tracked
  · next repository update here =>
    split
    · left
      exact tracked.quiet .locked here trivial trivial rfl rfl rfl rfl rfl rfl
        (fun _ _ held => held) trivial
    · exact Or.inl tracked
  · next repository update here =>
    split
    · left
      exact tracked.quiet .recovering here trivial trivial rfl rfl rfl rfl rfl rfl
        (fun _ _ held => held) trivial
    · exact tracked.change here
  · next repository update here =>
    simp only [Undisturbed, here] at undisturbed
  · next repository update contents conf here =>
    simp only [Undisturbed, here] at undisturbed
    exact Or.inl (tracked.changes here undisturbed)
  · exact Or.inl tracked

theorem Tracked.invoke (tracked : Tracked format start system)
    (absent : system.calls id = none) :
    Tracked format start
      { system.put id call .called with moments := system.moments ++ [.invoked id] } := by
  constructor
  · exact tracked.file
  · refine tracked.memory.of_pending ?_ rfl
    intro other called found pending
    by_cases apart : other = id
    · subst apart
      rw [put_self, absent]
      constructor
      · intro this
        cases this
        exact absurd trivial pending
      · nofun
    · rw [put_other apart]
  · intro other called found this
    rcases put_cases this with ⟨rfl, rfl, same⟩ | ⟨apart, before⟩
    · rw [same]
      cases called <;> trivial
    · exact (tracked.knows other called found before).carry rfl fun held => held
  · exact tracked.recorded.invoke absent

theorem Tracked.step {event : Event State Conf} (tracked : Tracked format start system)
    (undisturbed : Undisturbed system event) :
    Tracked format start (step format system event) ∨ Failed (step format system event) := by
  cases event with
  | call id call =>
      left
      cases found : system.calls id with
      | none =>
          simp only [Desktop.step, found]
          exact tracked.invoke found
      | some _ =>
          simp only [Desktop.step, found]
          exact tracked
  | advance id => exact tracked.advance undisturbed
  | fail id =>
      simp only [Desktop.step]
      split
      · exact Or.inl tracked
      · exact Or.inr drop_failed
      · exact Or.inl tracked

theorem change_calls (repository : Nat) (update : Conf → Option Conf)
    (contents : StateFile Value) {other : Nat} (apart : other ≠ id) :
    (system.change format id repository update contents).calls other = system.calls other := by
  unfold System.change
  split
  · exact put_other apart
  · exact put_other apart

theorem advance_calls {other : Nat} (apart : other ≠ id) :
    (system.advance format id).calls other = system.calls other := by
  unfold System.advance
  repeat' split
  all_goals
    first
      | rfl
      | exact put_other apart
      | exact change_calls _ _ _ apart

def Event.subject : Event State Conf → Nat
  | .call id _ | .advance id | .fail id => id

theorem step_calls {event : Event State Conf} {other : Nat} (apart : other ≠ event.subject) :
    (step format system event).calls other = system.calls other := by
  cases event with
  | call id call =>
      simp only [Desktop.step]
      split
      · rfl
      · exact put_other apart
  | advance id => exact advance_calls apart
  | fail id =>
      simp only [Desktop.step]
      split
      · rfl
      · exact put_other apart
      · rfl

theorem steps_calls {events : List (Event State Conf)} {other : Nat}
    (apart : ∀ event ∈ events, other ≠ event.subject) :
    (events.foldl (step format) system).calls other = system.calls other := by
  induction events generalizing system with
  | nil => rfl
  | cons event rest ih =>
      have first : (step format system event).calls other = system.calls other :=
        step_calls (apart event (List.mem_cons_self ..))
      exact (ih fun next member => apart next (List.mem_cons_of_mem _ member)).trans first

theorem Failed.step {event : Event State Conf} (failed : Failed system) :
    Failed (step format system event) := by
  obtain ⟨id, call, here⟩ := failed
  cases event with
  | call other called =>
      cases found : system.calls other with
      | none =>
          have apart : id ≠ other := by
            intro same
            rw [same, found] at here
            cases here
          simp only [Desktop.step, found]
          exact ⟨id, call, (put_other apart).trans here⟩
      | some _ =>
          simp only [Desktop.step, found]
          exact ⟨id, call, here⟩
  | advance other =>
      by_cases apart : id = other
      · subst apart
        refine ⟨id, call, ?_⟩
        simp only [Desktop.step, System.advance, here]
      · exact ⟨id, call, (advance_calls apart).trans here⟩
  | fail other =>
      simp only [Desktop.step]
      split
      · exact ⟨id, call, here⟩
      · exact drop_failed
      · exact ⟨id, call, here⟩

theorem reached_tracked {file : StateFile Value} {memory : State}
    (reached : Reached (step format) (fun system => system = { file := file, memory := memory })
      Undisturbed system) :
    Tracked format (file, memory) system ∨ Failed system := by
  apply reached.invariant
  · rintro _ rfl
    left
    refine ⟨rfl, ⟨nofun, nofun, fun _ _ => rfl⟩, nofun, ⟨List.nodup_nil, ?_, nofun, nofun, ?_⟩⟩
    · intro id call
      constructor
      · nofun
      · rintro ⟨_, this, _⟩
        cases this
    · intro first later precedes member
      cases member
  · rintro system event _ (tracked | failed) met
    · exact tracked.step met
    · exact Or.inr failed.step

theorem Tracked.serialised (tracked : Tracked format start system)
    (returned : AllReturned system) : Serialised format start system := by
  have free : NoneStored system := fun id call fresh this => by cases returned id call _ this
  have unsaved : NoneSaved system := fun id call next this => by cases returned id call _ this
  refine ⟨system.order, tracked.recorded.distinct, ?_, ?_, ?_⟩
  · intro id call
    rw [tracked.recorded.ordered]
    constructor
    · rintro ⟨phase, this, _⟩
      exact ⟨phase, this⟩
    · rintro ⟨phase, this⟩
      exact ⟨phase, this, by rw [returned id call phase this]; rfl⟩
  · intro first later precedes
    apply tracked.recorded.realTime first later precedes
    have made := tracked.recorded.invoked later precedes.mem.2
    obtain ⟨found, this⟩ := Option.ne_none_iff_exists'.mp made
    exact tracked.recorded.mem_order.mpr
      ⟨found.1, found.2, this, by rw [returned later found.1 found.2 this]; rfl⟩
  · exact Prod.ext tracked.file (tracked.memory.settled free unsaved)

theorem insertAll_other (root : Root Value) {entries : List (String × Value)} {key : String}
    (other : key ∉ entries.map Prod.fst) : root.insertAll entries key = root key := by
  induction entries generalizing root with
  | nil => rfl
  | cons entry rest ih =>
      rw [List.map_cons, List.mem_cons, not_or] at other
      exact (ih _ other.2).trans (Function.update_of_ne other.1 ..)

/-- A Moonlight repository leaves the keys of the state, and a call on the state the key of
the Moonlight configuration. -/
def KeepsForeign (system later : System State Conf Value) (id : Nat) : Prop :=
  match system.calls id with
  | some (.updateMoonlight _ _, _) =>
      ∀ key, key ≠ moonlightConfigKey → later.file.root key = system.file.root key
  | _ => later.file.root moonlightConfigKey = system.file.root moonlightConfigKey

theorem change_file (repository : Nat) (update : Conf → Option Conf)
    (contents : StateFile Value) :
    (system.change format id repository update contents).file = system.file := by
  unfold System.change
  split <;> rfl

theorem keeps_foreign (keys : ∀ state, moonlightConfigKey ∉ (format.serialize state).map Prod.fst)
    (undisturbed : Undisturbed system (.advance id)) :
    KeepsForeign system (system.advance format id) id := by
  unfold KeepsForeign System.advance
  cases found : system.calls id with
  | none => rfl
  | some call =>
      obtain ⟨call, phase⟩ := call
      cases call with
      | updateState update =>
          cases phase <;> simp only
          case called => split <;> rfl
          case holding => rfl
          case merging next root =>
            simp only [Undisturbed, found] at undisturbed
            rw [undisturbed.1]
            exact insertAll_other _ (keys next)
          case saved => rfl
      | reloadStateFromDisk =>
          cases phase <;> simp only
          case called =>
            repeat' split
            all_goals rfl
          case recovering => simp only [Undisturbed, found] at undisturbed
          case loaded => rfl
          case storing contents fresh root =>
            simp only [Undisturbed, found] at undisturbed
            rw [undisturbed.2.1]
            exact insertAll_other _ (keys fresh)
          case stored => split <;> rfl
      | updateMoonlight repository update =>
          intro key other
          cases phase <;> simp only
          case called => split <;> rfl
          case locked =>
            split
            · rfl
            · rw [change_file]
          case recovering => simp only [Undisturbed, found] at undisturbed
          case changed contents conf =>
            simp only [Undisturbed, found] at undisturbed
            rw [← undisturbed]
            apply insertAll_other
            rw [List.map_cons, List.map_nil, List.mem_singleton]
            exact other

end Steps

/-- When every replacement finds the file as it was read, no state is saved between a reload's
replacement and its publication and no file is set aside, the calls come down to the same calls
one after the other, and none takes back a key of the other kind. -/
theorem updates_serialised (format : StateFormat State Conf Value) (file : StateFile Value)
    (memory : State) (keys : ∀ state, moonlightConfigKey ∉ (format.serialize state).map Prod.fst)
    {system : System State Conf Value}
    (reached : Reached (step format) (fun system => system = { file := file, memory := memory })
      Undisturbed system) :
    (AllReturned system → Serialised format (file, memory) system) ∧
      ∀ id, Undisturbed system (.advance id) →
        KeepsForeign system (step format system (.advance id)) id := by
  constructor
  · intro returned
    rcases reached_tracked reached with tracked | ⟨id, call, failed⟩
    · exact tracked.serialised returned
    · cases returned id call _ failed
  · exact fun id undisturbed => keeps_foreign keys undisturbed

namespace StateFileSample

def format : StateFormat String String String where
  serialize state := [("lastError", state)]
  default := ""
  migrateValue root := some ((root "lastError").getD "")
  migrate value := some (value.getD "")
  configuration conf := conf

def start : System String String String :=
  { file := .object (Root.empty.insertAll [("lastError", "old")]), memory := "old" }

def setError : Call String String := .updateState fun _ => "new"

def selectHost : Call String String := .updateMoonlight 0 fun _ => some "host-1"

def repositoryInside : List (Event String String) :=
  [.call 0 setError, .call 1 selectHost, .advance 0, .advance 0, .advance 1, .advance 1,
    .advance 1, .advance 0, .advance 0]

def saveInside : List (Event String String) :=
  [.call 0 .reloadStateFromDisk, .call 1 setError, .advance 0, .advance 0, .advance 0, .advance 1,
    .advance 1, .advance 1, .advance 1, .advance 0]

def after (events : List (Event String String)) : System String String String :=
  events.foldl (step format) start

def Two (system : System String String String) (first second : Call String String) : Prop :=
  ∀ id, system.calls id =
    if id = 0 then some (first, .returned)
    else if id = 1 then some (second, .returned) else none

variable {first second : Call String String}

theorem Two.allReturned {system : System String String String} (two : Two system first second) :
    AllReturned system := by
  intro id call phase here
  rw [two id] at here
  split at here
  · cases here
    rfl
  split at here
  · cases here
    rfl
  cases here

theorem Two.orders {system : System String String String} (two : Two system first second)
    {world : StateFile String × String} (serialised : Serialised format world system) :
    play format world [(0, first), (1, second)] = (system.file, system.memory) ∨
      play format world [(1, second), (0, first)] = (system.file, system.memory) := by
  obtain ⟨order, distinct, members, _, played⟩ := serialised
  have among : ∀ entry, entry ∈ order ↔ entry ∈ [(0, first), (1, second)] := by
    intro ⟨id, call⟩
    rw [members, List.mem_cons, List.mem_singleton, two id]
    by_cases zero : id = 0
    · subst zero
      simp [eq_comm]
    · by_cases one : id = 1
      · subst one
        simp [eq_comm]
      · simp [zero, one]
  have unique : order.Nodup := distinct.of_map _
  have pair : ([(0, first), (1, second)] : List (Nat × Call String String)).Nodup := by
    simp
  have shuffled := (List.perm_ext_iff_of_nodup unique pair).mpr among
  match order, shuffled.length_eq, played, among, unique with
  | [one, other], _, played, among, unique =>
      have apart : one ≠ other := by
        intro same
        simp [same] at unique
      have left := (among one).mp (by simp)
      have right := (among other).mp (by simp)
      rw [List.mem_cons, List.mem_singleton] at left right
      rcases left with rfl | rfl <;> rcases right with rfl | rfl
      · exact absurd rfl apart
      · exact Or.inl played
      · exact Or.inr played
      · exact absurd rfl apart

theorem two_after {events : List (Event String String)}
    (zero : (after events).calls 0 = some (first, .returned))
    (one : (after events).calls 1 = some (second, .returned))
    (subjects : ∀ event ∈ events, event.subject = 0 ∨ event.subject = 1) :
    Two (after events) first second := by
  intro id
  by_cases isZero : id = 0
  · rw [if_pos isZero, isZero, zero]
  · by_cases isOne : id = 1
    · rw [if_neg isZero, if_pos isOne, isOne, one]
    · rw [if_neg isZero, if_neg isOne]
      apply steps_calls
      intro event member same
      rcases subjects event member with other | other
      · exact isZero (same.trans other)
      · exact isOne (same.trans other)

theorem repositoryInside_two : Two (after repositoryInside) setError selectHost := by
  apply two_after rfl rfl
  simp [repositoryInside, Event.subject]

theorem saveInside_two : Two (after saveInside) .reloadStateFromDisk setError := by
  apply two_after rfl rfl
  simp [saveInside, Event.subject]

def calm : List (Event String String) :=
  [.call 0 setError, .call 1 selectHost, .advance 0, .advance 1, .advance 1, .advance 1, .advance 0,
    .advance 0, .call 2 .reloadStateFromDisk, .advance 2, .advance 0, .advance 2, .advance 2,
    .advance 2]

theorem noneStored_after {events : List (Event String String)}
    (subjects : ∀ event ∈ events, event.subject < 3)
    (known : ∀ id, id < 3 → ∀ call fresh, (after events).calls id ≠ some (call, .stored fresh)) :
    NoneStored (after events) := by
  intro id call fresh here
  by_cases small : id < 3
  · exact known id small call fresh here
  · have same : (after events).calls id = none := by
      apply steps_calls
      intro event member same
      exact small (same ▸ subjects event member)
    rw [same] at here
    cases here

theorem noneStored_save : NoneStored (after (calm.take 7)) := by
  apply noneStored_after
  · simp [calm, Event.subject]
  · intro id small call fresh here
    match id, small with
    | 0, _ => cases here
    | 1, _ => cases here
    | 2, _ => cases here

theorem noneStored_reload : NoneStored (after (calm.take 12)) := by
  apply noneStored_after
  · simp [calm, Event.subject]
  · intro id small call fresh here
    match id, small with
    | 0, _ => cases here
    | 1, _ => cases here
    | 2, _ => cases here

theorem calm_undisturbed : Along (step format) Undisturbed start calm :=
  ⟨trivial, trivial, trivial, trivial, trivial, rfl, trivial, ⟨rfl, noneStored_save⟩, trivial,
    trivial, trivial, trivial, ⟨rfl, rfl, noneStored_reload⟩, trivial, trivial⟩

theorem calm_returned : AllReturned (after calm) := by
  intro id call phase here
  by_cases small : id < 3
  · match id, small with
    | 0, _ =>
        cases here
        rfl
    | 1, _ =>
        cases here
        rfl
    | 2, _ =>
        cases here
        rfl
  · have same : (after calm).calls id = none := by
      apply steps_calls
      simp [calm, Event.subject]
      omega
    rw [same] at here
    cases here

end StateFileSample

open StateFileSample in
theorem updates_serialised_calm :
    AllReturned (after calm) ∧ Serialised format (start.file, start.memory) (after calm) := by
  have starts : Reached (step format)
      (fun system => system = { file := start.file, memory := start.memory }) Undisturbed start :=
    .start rfl
  have keys : ∀ state, moonlightConfigKey ∉ (format.serialize state).map Prod.fst := by
    intro state member
    have same : moonlightConfigKey = "lastError" := List.mem_singleton.mp member
    exact absurd same (by decide)
  exact ⟨calm_returned, (updates_serialised format start.file start.memory keys
    (starts.along calm_undisturbed)).1 calm_returned⟩

open StateFileSample in
/-- The selected host is lost to a save that read the file before, and the last error in memory
to a reload that read the file before. -/
theorem updates_lost :
    (AllReturned (after repositoryInside) ∧
      ¬ Serialised format (start.file, start.memory) (after repositoryInside)) ∧
    (AllReturned (after saveInside) ∧
      ¬ Serialised format (start.file, start.memory) (after saveInside)) := by
  refine ⟨⟨repositoryInside_two.allReturned, fun serialised => ?_⟩,
    ⟨saveInside_two.allReturned, fun serialised => ?_⟩⟩
  · have absent : (after repositoryInside).file.root moonlightConfigKey = none := by decide
    rcases repositoryInside_two.orders serialised with played | played
    · have there : (play format (start.file, start.memory)
          [(0, setError), (1, selectHost)]).1.root moonlightConfigKey = some "host-1" := by decide
      rw [played] at there
      exact absurd (absent.symm.trans there) (by decide)
    · have there : (play format (start.file, start.memory)
          [(1, selectHost), (0, setError)]).1.root moonlightConfigKey = some "host-1" := by decide
      rw [played] at there
      exact absurd (absent.symm.trans there) (by decide)
  · have stale : (after saveInside).memory = "old" := by decide
    rcases saveInside_two.orders serialised with played | played
    · have there : (play format (start.file, start.memory)
          [(0, .reloadStateFromDisk), (1, setError)]).2 = "new" := by decide
      rw [played] at there
      exact absurd (stale.symm.trans there) (by decide)
    · have there : (play format (start.file, start.memory)
          [(1, setError), (0, .reloadStateFromDisk)]).2 = "new" := by decide
      rw [played] at there
      exact absurd (stale.symm.trans there) (by decide)

end Noland.Desktop
