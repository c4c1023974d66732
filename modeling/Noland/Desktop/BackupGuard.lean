import Noland.Lib.Machine

/-!
The running backups are a table behind a lock: a call looks into it, sets its mark later under
another lock, saves the state, asks the agent for each app and takes the mark away again. Calls
are interleaved at every `await`.
-/

namespace Noland.Desktop

structure BackupStatus where
  lastBackupStartedAt : Option String := none
  lastBackupFinishedAt : Option String := none
  lastBackupStatus : String := "never_run"
  lastBackupTrigger : String := ""
  lastBackupError : Option String := none
  deriving DecidableEq

def BackupStatus.started (status : BackupStatus) (startedAt trigger : String) : BackupStatus :=
  { status with
    lastBackupStartedAt := some startedAt
    lastBackupStatus := "running"
    lastBackupTrigger := trigger
    lastBackupError := none }

def BackupStatus.finished (status : BackupStatus) (finishedAt : String) :
    Except String Unit → BackupStatus
  | .ok _ =>
      { status with
        lastBackupFinishedAt := some finishedAt
        lastBackupStatus := "success"
        lastBackupError := none }
  | .error message =>
      { status with
        lastBackupFinishedAt := some finishedAt
        lastBackupStatus := "failed"
        lastBackupError := some message }

inductive BackupStage where
  | called
  | admitted (startedAt : String)
  | marked (startedAt : String)
  | backingUp (apps : List String)
  | backedUp (result : Except String Unit)
  | released (result : Except String Unit) (finishedAt : String)
  | returned (result : Except String Unit)
  deriving DecidableEq

structure BackupCall where
  instanceId : Nat
  appIds : List String
  trigger : String
  stage : BackupStage := .called
  deriving DecidableEq

def alreadyRunning : String := "A backup is already running for this instance."

def BackupCall.selection (call : BackupCall) : List String :=
  if call.appIds.isEmpty || call.appIds.any (· == "*") then ["*"] else call.appIds

structure Backups where
  running : List Nat := []
  status : BackupStatus := {}
  calls : List BackupCall := []
  deriving DecidableEq

abbrev BackupOutcome := Except String Unit

/-- A call goes on to its next `await`: the stage it gets to, the marks and the state. -/
def BackupCall.advance (call : BackupCall) (running : List Nat) (status : BackupStatus)
    (outcome : BackupOutcome) (time : String) : BackupStage × List Nat × BackupStatus :=
  match call.stage with
  | .called =>
      if call.instanceId ∈ running then (.returned (.error alreadyRunning), running, status)
      else (.admitted time, running, status)
  | .admitted startedAt => (.marked startedAt, call.instanceId :: running, status)
  | .marked startedAt =>
      match outcome with
      | .ok _ => (.backingUp call.selection, running, status.started startedAt call.trigger)
      | .error message => (.returned (.error message), running, status)
  | .backingUp [] => (.backedUp (.ok ()), running, status)
  | .backingUp (_ :: apps) =>
      match outcome with
      | .ok _ => (.backingUp apps, running, status)
      | .error message => (.backedUp (.error message), running, status)
  | .backedUp result =>
      (.released result time, running.filter (· ≠ call.instanceId), status)
  | .released result finishedAt =>
      match outcome with
      | .ok _ => (.returned result, running, status.finished finishedAt result)
      | .error message => (.returned (.error message), running, status)
  | .returned result => (.returned result, running, status)

inductive BackupEvent where
  | triggerBackup (instanceId : Nat) (appIds : List String) (trigger : String)
  | goesOn (call : Nat) (outcome : BackupOutcome) (time : String)
  deriving DecidableEq

namespace Backups

def step (backups : Backups) : BackupEvent → Backups
  | .triggerBackup instanceId appIds trigger =>
      { backups with calls := backups.calls ++ [⟨instanceId, appIds, trigger, .called⟩] }
  | .goesOn index outcome time =>
      match backups.calls[index]? with
      | none => backups
      | some call =>
          let (stage, running, status) :=
            call.advance backups.running backups.status outcome time
          { running := running
            status := status
            calls := backups.calls.set index { call with stage := stage } }

end Backups

def BackupStage.guarded : BackupStage → Bool
  | .admitted _ | .marked _ | .backingUp _ | .backedUp _ => true
  | _ => false

def BackupStage.isMarked : BackupStage → Bool
  | .marked _ | .backingUp _ | .backedUp _ => true
  | _ => false

namespace Backups

/-- One call at a time is past the guard of an instance; a call that would be refused is so
while another one is in progress; and the marks are those of calls that have not returned. -/
structure Guarded (backups : Backups) : Prop where
  alone : ∀ (i j : Nat) (one two : BackupCall), backups.calls[i]? = some one →
    backups.calls[j]? = some two → one.instanceId = two.instanceId →
    one.stage.guarded = true → two.stage.guarded = true → i = j
  justified : ∀ (i : Nat) (call : BackupCall), backups.calls[i]? = some call →
    call.stage = .called → call.instanceId ∈ backups.running →
    ∃ (j : Nat) (other : BackupCall), backups.calls[j]? = some other ∧ j ≠ i ∧
      other.instanceId = call.instanceId ∧ other.stage.guarded = true
  released : ∀ instanceId ∈ backups.running, ∃ (j : Nat) (other : BackupCall),
    backups.calls[j]? = some other ∧ other.instanceId = instanceId ∧ other.stage.isMarked = true

/-- The guard is not looked at between another call's look and its mark, and the state can be
saved once the mark is set. -/
def Orderly (backups : Backups) : BackupEvent → Prop
  | .triggerBackup .. => True
  | .goesOn index outcome _ =>
      match backups.calls[index]? with
      | none => True
      | some call =>
          match call.stage with
          | .called => ∀ other ∈ backups.calls, other.instanceId = call.instanceId →
              ∀ startedAt, other.stage ≠ .admitted startedAt
          | .marked _ => outcome.isOk = true
          | _ => True

/-- One call at a time is past the guard, and the marks are set for the calls that have to. -/
structure Kept (backups : Backups) : Prop where
  alone : ∀ (i j : Nat) (one two : BackupCall), backups.calls[i]? = some one →
    backups.calls[j]? = some two → one.instanceId = two.instanceId →
    one.stage.guarded = true → two.stage.guarded = true → i = j
  marks : ∀ instanceId, instanceId ∈ backups.running ↔ ∃ (j : Nat) (other : BackupCall),
    backups.calls[j]? = some other ∧ other.instanceId = instanceId ∧ other.stage.isMarked = true

variable {stage : BackupStage} {call : BackupCall}

theorem guarded_of_marked (marked : stage.isMarked = true) : stage.guarded = true := by
  cases stage with
  | marked | backingUp | backedUp => rfl
  | called | admitted | released | returned => cases marked

theorem guarded_cases (guarded : stage.guarded = true) :
    stage.isMarked = true ∨ ∃ startedAt, stage = .admitted startedAt := by
  cases stage with
  | admitted startedAt => exact Or.inr ⟨startedAt, rfl⟩
  | marked | backingUp | backedUp => exact Or.inl rfl
  | called | released | returned => cases guarded

variable {backups : Backups}

theorem Kept.guards (kept : backups.Kept) : backups.Guarded := by
  refine ⟨kept.alone, ?_, fun instanceId member => (kept.marks instanceId).mp member⟩
  intro i call found called member
  obtain ⟨j, other, there, same, marked⟩ := (kept.marks _).mp member
  refine ⟨j, other, there, ?_, same, guarded_of_marked marked⟩
  rintro rfl
  rw [found] at there
  cases there
  rw [called] at marked
  cases marked

theorem kept_start : ({} : Backups).Kept := by
  refine ⟨?_, ?_⟩
  · intro i j one two found
    cases found
  · intro instanceId
    constructor
    · intro member
      cases member
    · rintro ⟨j, other, found, _⟩
      cases found

theorem mem_set {calls : List BackupCall} {index j : Nat} {new other : BackupCall}
    (found : (calls.set index new)[j]? = some other) :
    j = index ∧ other = new ∨ j ≠ index ∧ calls[j]? = some other := by
  rw [List.getElem?_set] at found
  split at found
  · rename_i same
    split at found
    · exact Or.inl ⟨same.symm, (Option.some.inj found).symm⟩
    · cases found
  · rename_i apart
    exact Or.inr ⟨fun same => apart same.symm, found⟩

theorem step_goesOn {index : Nat} (found : backups.calls[index]? = some call)
    {outcome : BackupOutcome} {time : String} {running : List Nat} {status : BackupStatus}
    (moves : call.advance backups.running backups.status outcome time = (stage, running, status)) :
    backups.step (.goesOn index outcome time) =
      { running := running
        status := status
        calls := backups.calls.set index { call with stage := stage } } := by
  unfold Backups.step
  simp only [found, moves]

theorem Kept.moved (kept : backups.Kept) {index : Nat} (found : backups.calls[index]? = some call)
    {running : List Nat} (status : BackupStatus)
    (guards : stage.guarded = true → call.stage.guarded = true ∨
      ∀ (j : Nat) (other : BackupCall), backups.calls[j]? = some other →
        other.instanceId = call.instanceId → other.stage.guarded = false)
    (others : ∀ instanceId ≠ call.instanceId,
      (instanceId ∈ running ↔ instanceId ∈ backups.running))
    (own : call.instanceId ∈ running ↔ stage.isMarked = true ∨
      ∃ (j : Nat) (other : BackupCall), j ≠ index ∧ backups.calls[j]? = some other ∧
        other.instanceId = call.instanceId ∧ other.stage.isMarked = true) :
    Kept
      { running := running
        status := status
        calls := backups.calls.set index { call with stage := stage } } := by
  have inside : index < backups.calls.length := (List.getElem?_eq_some_iff.mp found).1
  have here : (backups.calls.set index { call with stage := stage })[index]? =
      some { call with stage := stage } := List.getElem?_set_self inside
  have there {j : Nat} (apart : j ≠ index) :
      (backups.calls.set index { call with stage := stage })[j]? = backups.calls[j]? :=
    List.getElem?_set_ne fun same => apart same.symm
  have single {j : Nat} {other : BackupCall} (apart : j ≠ index)
      (second : backups.calls[j]? = some other) (same : other.instanceId = call.instanceId)
      (one : stage.guarded = true) (two : other.stage.guarded = true) : False := by
    rcases guards one with held | free
    · exact apart (kept.alone j index other call second found same two held)
    · rw [free j other second same] at two
      cases two
  refine ⟨?_, ?_⟩
  · intro i j one two first second same guardedOne guardedTwo
    rcases mem_set first with ⟨rfl, rfl⟩ | ⟨apart, earlier⟩
    · rcases mem_set second with ⟨rfl, rfl⟩ | ⟨apart, later⟩
      · rfl
      · exact absurd guardedTwo fun two => single apart later same.symm guardedOne two
    · rcases mem_set second with ⟨rfl, rfl⟩ | ⟨_, later⟩
      · exact absurd guardedOne fun one => single apart earlier same guardedTwo one
      · exact kept.alone i j one two earlier later same guardedOne guardedTwo
  · intro instanceId
    by_cases mine : instanceId = call.instanceId
    · subst mine
      rw [own]
      constructor
      · rintro (marked | ⟨j, other, apart, second, same, marked⟩)
        · exact ⟨index, _, here, rfl, marked⟩
        · exact ⟨j, other, (there apart).trans second, same, marked⟩
      · rintro ⟨j, other, second, same, marked⟩
        rcases mem_set second with ⟨rfl, rfl⟩ | ⟨apart, second⟩
        · exact Or.inl marked
        · exact Or.inr ⟨j, other, apart, second, same, marked⟩
    · rw [others instanceId mine, kept.marks]
      constructor
      · rintro ⟨j, other, second, same, marked⟩
        have apart : j ≠ index := by
          rintro rfl
          rw [found] at second
          cases second
          exact mine same.symm
        exact ⟨j, other, (there apart).trans second, same, marked⟩
      · rintro ⟨j, other, second, same, marked⟩
        rcases mem_set second with ⟨rfl, rfl⟩ | ⟨_, second⟩
        · exact absurd same.symm mine
        · exact ⟨j, other, second, same, marked⟩

theorem Kept.stays (kept : backups.Kept) {index : Nat} (found : backups.calls[index]? = some call)
    (same : stage.isMarked = call.stage.isMarked) :
    call.instanceId ∈ backups.running ↔ stage.isMarked = true ∨
      ∃ (j : Nat) (other : BackupCall), j ≠ index ∧ backups.calls[j]? = some other ∧
        other.instanceId = call.instanceId ∧ other.stage.isMarked = true := by
  rw [kept.marks, same]
  constructor
  · rintro ⟨j, other, second, equal, marked⟩
    by_cases here : j = index
    · subst here
      rw [found] at second
      cases second
      exact Or.inl marked
    · exact Or.inr ⟨j, other, here, second, equal, marked⟩
  · rintro (marked | ⟨j, other, _, second, equal, marked⟩)
    · exact ⟨index, call, found, rfl, marked⟩
    · exact ⟨j, other, second, equal, marked⟩

theorem Kept.triggered (kept : backups.Kept) (instanceId : Nat) (appIds : List String)
    (trigger : String) : (backups.step (.triggerBackup instanceId appIds trigger)).Kept := by
  have old {j : Nat} {other : BackupCall}
      (found : (backups.calls ++ [⟨instanceId, appIds, trigger, .called⟩])[j]? = some other)
      (guarded : other.stage.guarded = true) : backups.calls[j]? = some other := by
    rw [List.getElem?_append] at found
    split at found
    · exact found
    · have new := List.mem_singleton.mp (List.mem_of_getElem? found)
      rw [new] at guarded
      cases guarded
  have kept' {j : Nat} {other : BackupCall} (found : backups.calls[j]? = some other) :
      (backups.calls ++ [⟨instanceId, appIds, trigger, .called⟩])[j]? = some other := by
    rw [List.getElem?_append_left (List.getElem?_eq_some_iff.mp found).1]
    exact found
  refine ⟨?_, ?_⟩
  · intro i j one two first second same guardedOne guardedTwo
    exact kept.alone i j one two (old first guardedOne) (old second guardedTwo) same guardedOne
      guardedTwo
  · intro id
    rw [show (backups.step (.triggerBackup instanceId appIds trigger)).running = backups.running
      from rfl, kept.marks]
    constructor
    · rintro ⟨j, other, found, same, marked⟩
      exact ⟨j, other, kept' found, same, marked⟩
    · rintro ⟨j, other, found, same, marked⟩
      exact ⟨j, other, old found (guarded_of_marked marked), same, marked⟩

theorem Kept.step (kept : backups.Kept) {event : BackupEvent} (orderly : backups.Orderly event) :
    (backups.step event).Kept := by
  cases event with
  | triggerBackup instanceId appIds trigger => exact kept.triggered instanceId appIds trigger
  | goesOn index outcome time =>
      unfold Orderly at orderly
      cases found : backups.calls[index]? with
      | none =>
          unfold Backups.step
          simp only [found]
          exact kept
      | some call =>
          simp only [found] at orderly
          have unmoved : ∀ instanceId ≠ call.instanceId,
              (instanceId ∈ backups.running ↔ instanceId ∈ backups.running) :=
            fun _ _ => Iff.rfl
          cases stage : call.stage with
          | called =>
              simp only [stage] at orderly
              by_cases marked : call.instanceId ∈ backups.running
              · rw [step_goesOn found (by simp only [BackupCall.advance, stage, if_pos marked]; rfl)]
                exact kept.moved found _ nofun unmoved (kept.stays found (by rw [stage]; rfl))
              · rw [step_goesOn found (by simp only [BackupCall.advance, stage, if_neg marked]; rfl)]
                refine kept.moved found _ (fun _ => Or.inr ?_) unmoved
                  (kept.stays found (by rw [stage]; rfl))
                intro j other second same
                by_contra held
                rcases guarded_cases (by simpa using held) with set | ⟨startedAt, admitted⟩
                · exact marked ((kept.marks _).mpr ⟨j, other, second, same, set⟩)
                · exact orderly other (List.mem_of_getElem? second) same startedAt admitted
          | admitted startedAt =>
              rw [step_goesOn found (by simp only [BackupCall.advance, stage]; rfl)]
              refine kept.moved found _ (fun _ => Or.inl (by rw [stage]; rfl)) ?_ ?_
              · intro instanceId apart
                simp [apart]
              · exact iff_of_true List.mem_cons_self (Or.inl rfl)
          | marked startedAt =>
              simp only [stage] at orderly
              cases outcome with
              | ok _ =>
                  rw [step_goesOn found (by simp only [BackupCall.advance, stage]; rfl)]
                  exact kept.moved found _ (fun _ => Or.inl (by rw [stage]; rfl)) unmoved
                    (kept.stays found (by rw [stage]; rfl))
              | error message => cases orderly
          | backingUp apps =>
              have guards : call.stage.guarded = true := by rw [stage]; rfl
              have set : call.stage.isMarked = true := by rw [stage]; rfl
              cases apps with
              | nil =>
                  rw [step_goesOn found (by simp only [BackupCall.advance, stage]; rfl)]
                  exact kept.moved found _ (fun _ => Or.inl guards) unmoved
                    (kept.stays found set.symm)
              | cons app rest =>
                  cases outcome with
                  | ok _ =>
                      rw [step_goesOn found (by simp only [BackupCall.advance, stage]; rfl)]
                      exact kept.moved found _ (fun _ => Or.inl guards) unmoved
                        (kept.stays found set.symm)
                  | error message =>
                      rw [step_goesOn found (by simp only [BackupCall.advance, stage]; rfl)]
                      exact kept.moved found _ (fun _ => Or.inl guards) unmoved
                        (kept.stays found set.symm)
          | backedUp result =>
              rw [step_goesOn found (by simp only [BackupCall.advance, stage]; rfl)]
              refine kept.moved found _ nofun ?_ ?_
              · intro instanceId apart
                simp [apart]
              · refine iff_of_false (by simp) ?_
                rintro (marked | ⟨j, other, apart, second, same, marked⟩)
                · cases marked
                · exact apart (kept.alone j index other call second found same
                    (guarded_of_marked marked) (by rw [stage]; rfl))
          | released result finishedAt =>
              cases outcome with
              | ok _ =>
                  rw [step_goesOn found (by simp only [BackupCall.advance, stage]; rfl)]
                  exact kept.moved found _ nofun unmoved (kept.stays found (by rw [stage]; rfl))
              | error message =>
                  rw [step_goesOn found (by simp only [BackupCall.advance, stage]; rfl)]
                  exact kept.moved found _ nofun unmoved (kept.stays found (by rw [stage]; rfl))
          | returned result =>
              rw [step_goesOn found (by simp only [BackupCall.advance, stage]; rfl)]
              exact kept.moved found _ nofun unmoved (kept.stays found (by rw [stage]))

theorem Kept.admits_both (kept : backups.Kept) {index : Nat}
    (found : backups.calls[index]? = some call) (called : call.stage = .called)
    {other : BackupCall} (member : other ∈ backups.calls)
    (same : other.instanceId = call.instanceId) {startedAt : String}
    (admitted : other.stage = .admitted startedAt) (outcome : BackupOutcome) (time : String) :
    ¬ (backups.step (.goesOn index outcome time)).Guarded := by
  obtain ⟨j, second⟩ := List.mem_iff_getElem?.mp member
  have apart : j ≠ index := by
    rintro rfl
    rw [found] at second
    cases second
    rw [called] at admitted
    cases admitted
  have unmarked : call.instanceId ∉ backups.running := by
    intro marked
    obtain ⟨k, third, there, equal, set⟩ := (kept.marks _).mp marked
    have one := kept.alone j k other third second there (same.trans equal.symm)
      (by rw [admitted]; rfl) (guarded_of_marked set)
    subst one
    rw [second] at there
    cases there
    rw [admitted] at set
    cases set
  rw [step_goesOn found (by simp only [BackupCall.advance, called, if_neg unmarked]; rfl)]
  intro guarded
  have inside : index < backups.calls.length := (List.getElem?_eq_some_iff.mp found).1
  apply apart
  exact guarded.alone j index other { call with stage := .admitted time }
    ((List.getElem?_set_ne fun equal => apart equal.symm).trans second)
    (List.getElem?_set_self inside) same (by rw [admitted]; rfl) rfl

theorem Kept.leaves_mark (kept : backups.Kept) {index : Nat}
    (found : backups.calls[index]? = some call) {startedAt : String}
    (stage : call.stage = .marked startedAt) (message time : String) :
    ¬ (backups.step (.goesOn index (.error message) time)).Guarded := by
  rw [step_goesOn found (by simp only [BackupCall.advance, stage]; rfl)]
  intro guarded
  have marked : call.instanceId ∈ backups.running :=
    (kept.marks _).mpr ⟨index, call, found, rfl, by rw [stage]; rfl⟩
  obtain ⟨j, other, second, same, set⟩ := guarded.released _ marked
  rcases mem_set second with ⟨rfl, rfl⟩ | ⟨apart, second⟩
  · cases set
  · exact absurd (kept.alone j index other call second found same (guarded_of_marked set)
      (by rw [stage]; rfl)) apart

theorem Kept.broken (kept : backups.Kept) {event : BackupEvent}
    (disorderly : ¬ backups.Orderly event) : ¬ (backups.step event).Guarded := by
  intro guarded
  apply disorderly
  cases event with
  | triggerBackup => trivial
  | goesOn index outcome time =>
      unfold Orderly
      cases found : backups.calls[index]? with
      | none => simp only [found]
      | some call =>
          cases stage : call.stage with
          | called =>
              simp only [found, stage]
              intro other member same startedAt admitted
              exact kept.admits_both found stage member same admitted outcome time guarded
          | marked startedAt =>
              simp only [found, stage]
              cases outcome with
              | ok _ => rfl
              | error message => exact absurd guarded (kept.leaves_mark found stage message time)
          | admitted | backingUp | backedUp | released | returned => simp only [found, stage]

/-- The guard does what it is for exactly in the runs where no call looks at it between another
call's look and its mark, and where the state can always be saved after the mark. -/
theorem backups_guarded_iff (events : List BackupEvent) :
    Machine.Throughout step Guarded {} events ↔ Machine.Along step Orderly {} events :=
  Machine.throughout_iff_along (fun _ _ kept orderly => kept.step orderly)
    (fun _ kept => kept.guards) (fun _ _ kept disorderly => kept.broken disorderly) kept_start
    events

end Backups

namespace BackupGuardSample

def twoAtOnce : List BackupEvent :=
  [.triggerBackup 7 [] "manual", .triggerBackup 7 [] "on_stop", .goesOn 0 (.ok ()) "10:00",
    .goesOn 1 (.ok ()) "10:00"]

def markLeft : List BackupEvent :=
  [.triggerBackup 7 [] "manual", .goesOn 0 (.ok ()) "10:00", .goesOn 0 (.ok ()) "10:00",
    .goesOn 0 (.error "disk full") "10:00", .triggerBackup 7 [] "manual",
    .goesOn 1 (.ok ()) "11:00"]

end BackupGuardSample

open BackupGuardSample in
/-- Both calls look before either sets its mark; and a save that fails leaves the mark behind,
for which every later call is refused. -/
theorem backups_not_guarded :
    (∃ one two, (twoAtOnce.foldl Backups.step {}).calls = [one, two] ∧
      one.stage.guarded = true ∧ two.stage.guarded = true) ∧
    ¬ (twoAtOnce.foldl Backups.step {}).Guarded ∧
    (markLeft.foldl Backups.step {}).running = [7] ∧
    (markLeft.foldl Backups.step {}).calls.map BackupCall.stage =
      [.returned (.error "disk full"), .returned (.error alreadyRunning)] ∧
    ¬ (markLeft.foldl Backups.step {}).Guarded := by
  refine ⟨⟨_, _, rfl, rfl, rfl⟩, ?_, rfl, rfl, ?_⟩
  · intro guarded
    have same := guarded.alone 0 1 _ _ rfl rfl rfl rfl rfl
    cases same
  · intro guarded
    obtain ⟨j, other, found, _, marked⟩ := guarded.released 7 List.mem_cons_self
    have stages : ∀ call ∈ (markLeft.foldl Backups.step {}).calls, call.stage.isMarked = false := by
      decide
    rw [stages other (List.mem_of_getElem? found)] at marked
    cases marked

end Noland.Desktop
