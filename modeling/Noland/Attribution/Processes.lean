import Noland.Lib.Machine
import Noland.StateDb.Sessions

/-!
A session is opened by the first process that runs an app; a child is attached to the session of
its parent, and an exec leaves a process where it is unless it runs another app that was already
known. How an executable is identified is a parameter, and so is whether an app is backed up. A
fork yields a process that is not alive yet, and only live processes exec and exit.
-/

namespace Noland.Attribution

open Noland.Core
open Noland.StateDb

inductive ProcessEventKind where
  | exec
  | fork
  | clone
  | exit
  deriving DecidableEq

structure ProcessEvent where
  kind : ProcessEventKind
  pid : Pid
  ppid : Pid
  executable : Option String := none
  comm : Option String := none
  observedAt : Timestamp := 0
  deriving DecidableEq

/-- What `noland-discovery` says of executables and of the apps they belong to. -/
structure Discovery (AppIdentity : Type) where
  appId : AppIdentity → AppId
  isBackupCandidate : AppIdentity → Bool
  resolveIdentity : List AppIdentity → String → ProcessEvent → AppIdentity
  inferSessionSource : AppIdentity → String → SessionSource

variable {AppIdentity : Type} (discovery : Discovery AppIdentity)

structure Engine (AppIdentity : Type) where
  db : SessionTables := {}
  knownApps : List AppIdentity := []

def identityWasKnown (engine : Engine AppIdentity) (identity : AppIdentity) : Bool :=
  engine.knownApps.any fun known => discovery.appId known = discovery.appId identity

/-- `AppSession::new` -/
def newSession (engine : Engine AppIdentity) (identity : AppIdentity) (exe : String)
    (event : ProcessEvent) : AppSession where
  sessionId := engine.db.appSessions.length
  appId := discovery.appId identity
  rootPid := event.pid
  startedAt := event.observedAt
  source := discovery.inferSessionSource identity exe

/-- Attaches the process to the open session of an app, or opens a session for it. -/
def enterApp (engine : Engine AppIdentity) (identity : AppIdentity) (exe : String)
    (event : ProcessEvent) : Engine AppIdentity × Option AppSession :=
  let knownApps :=
    if identityWasKnown discovery engine identity then engine.knownApps
    else engine.knownApps ++ [identity]
  match engine.db.openSessionForApp (discovery.appId identity) with
  | some session =>
      (⟨engine.db.attachPid session.sessionId event.pid, knownApps⟩, some session)
  | none =>
      let session := newSession discovery engine identity exe event
      (⟨engine.db.insertSession session, knownApps⟩, some session)

def inheritedSession (engine : Engine AppIdentity) (event : ProcessEvent) : Option AppSession :=
  match engine.db.sessionForPid event.pid with
  | some existing => some existing
  | none => engine.db.sessionForPid event.ppid

def staysIn (engine : Engine AppIdentity) (identity : AppIdentity) (inherited : AppSession) :
    Bool :=
  inherited.appId = discovery.appId identity || !identityWasKnown discovery engine identity ||
    !discovery.isBackupCandidate identity

def ingestExec (engine : Engine AppIdentity) (event : ProcessEvent) :
    Engine AppIdentity × Option AppSession :=
  match event.executable with
  | none => (engine, inheritedSession engine event)
  | some exe =>
      let identity := discovery.resolveIdentity engine.knownApps exe event
      match inheritedSession engine event with
      | some inherited =>
          if staysIn discovery engine identity inherited then
            ({ engine with db := engine.db.attachPid inherited.sessionId event.pid },
              some inherited)
          else
            enterApp discovery { engine with db := engine.db.detachPid event.pid } identity exe
              event
      | none =>
          if discovery.isBackupCandidate identity then
            enterApp discovery engine identity exe event
          else (engine, none)

def ingestFork (engine : Engine AppIdentity) (event : ProcessEvent) :
    Engine AppIdentity × Option AppSession :=
  match engine.db.sessionForPid event.ppid with
  | some parent =>
      ({ engine with db := engine.db.attachPid parent.sessionId event.pid }, some parent)
  | none => (engine, none)

def ingestExit (engine : Engine AppIdentity) (event : ProcessEvent) :
    Engine AppIdentity × Option AppSession :=
  match engine.db.sessionForPid event.pid with
  | some session =>
      if session.rootPid = event.pid then
        ({ engine with db := engine.db.endSession session.sessionId event.observedAt }, some session)
      else ({ engine with db := engine.db.detachPid event.pid }, some session)
  | none => ({ engine with db := engine.db.detachPid event.pid }, none)

def ingestProcessInner (engine : Engine AppIdentity) (event : ProcessEvent) :
    Engine AppIdentity × Option AppSession :=
  match event.kind with
  | .fork | .clone => ingestFork engine event
  | .exec => ingestExec discovery engine event
  | .exit => ingestExit engine event

/-- The engine with the live processes, and the app that each of them was attached to and has not
left by an exec of another known app. -/
structure World (AppIdentity : Type) where
  engine : Engine AppIdentity
  live : List Pid
  belongs : Pid → Option AppId

def World.possible (world : World AppIdentity) (event : ProcessEvent) : Bool :=
  match event.kind with
  | .fork | .clone => event.pid ∉ world.live && event.ppid ∈ world.live
  | .exec | .exit => event.pid ∈ world.live

def execsKnownApp (engine : Engine AppIdentity) (event : ProcessEvent) : Bool :=
  match event.executable with
  | none => false
  | some exe =>
      let identity := discovery.resolveIdentity engine.knownApps exe event
      identityWasKnown discovery engine identity && discovery.isBackupCandidate identity

def liveAfter (live : List Pid) (event : ProcessEvent) : List Pid :=
  match event.kind with
  | .fork | .clone => event.pid :: live
  | .exec => live
  | .exit => live.filter (· ≠ event.pid)

def belongsAfter (world : World AppIdentity) (event : ProcessEvent)
    (attached : Option AppSession) : Option AppId :=
  match event.kind with
  | .fork | .clone => attached.map AppSession.appId
  | .exec =>
      if execsKnownApp discovery world.engine event then attached.map AppSession.appId
      else (world.belongs event.pid).or (attached.map AppSession.appId)
  | .exit => none

def World.step (world : World AppIdentity) (event : ProcessEvent) : World AppIdentity :=
  if world.possible event then
    let engine := (ingestProcessInner discovery world.engine event).1
    { engine
      live := liveAfter world.live event
      belongs := fun pid =>
        if pid = event.pid then
          belongsAfter discovery world event (engine.db.sessionForPid event.pid)
        else world.belongs pid }
  else world

/-- Live processes keep their app, an app has an open session exactly while a live process is
attached to one of its sessions, and no live process is attached to an ended session. -/
structure World.Faithful (world : World AppIdentity) : Prop where
  keeps : ∀ pid ∈ world.live, ∀ appId, world.belongs pid = some appId →
    ∃ session, world.engine.db.sessionForPid pid = some session ∧ session.appId = appId ∧
      session.isOpen
  opened : ∀ appId,
    (∃ session ∈ world.engine.db.appSessions, session.appId = appId ∧ session.isOpen) ↔
      ∃ pid ∈ world.live, ∃ session, world.engine.db.sessionForPid pid = some session ∧
        session.appId = appId
  running : ∀ pid ∈ world.live, ∀ session, world.engine.db.sessionForPid pid = some session →
    session.isOpen

def alone (db : SessionTables) (pid : Pid) (session : AppSession) : Bool :=
  (db.pidsOf session.sessionId).all (· = pid)

/-- The first process of a session exits as the last one attached, any other exits while one is
left, and the last one attached does not exec another known app. -/
def World.orderly (world : World AppIdentity) (event : ProcessEvent) : Bool :=
  !world.possible event ||
    match world.engine.db.sessionForPid event.pid with
    | none => true
    | some session =>
        match event.kind with
        | .fork | .clone => true
        | .exec =>
            match event.executable with
            | none => true
            | some exe =>
                staysIn discovery world.engine
                    (discovery.resolveIdentity world.engine.knownApps exe event) session ||
                  !alone world.engine.db event.pid session
        | .exit => (session.rootPid = event.pid) == alone world.engine.db event.pid session

variable {discovery}

/-- Attached processes are live and in open sessions of the apps they belong to, every open session
has a process, and an app has one open session. -/
structure World.Kept (world : World AppIdentity) : Prop where
  sound : world.engine.db.Sound
  attached : ∀ pid session, world.engine.db.sessionForPid pid = some session →
    pid ∈ world.live ∧ session.isOpen ∧ world.belongs pid = some session.appId
  belonging : ∀ pid appId, world.belongs pid = some appId →
    ∃ session, world.engine.db.sessionForPid pid = some session ∧ session.appId = appId
  manned : ∀ session ∈ world.engine.db.appSessions, session.isOpen →
    ∃ pid, world.engine.db.sessionForPid pid = some session
  one : ∀ session ∈ world.engine.db.appSessions, ∀ other ∈ world.engine.db.appSessions,
    session.isOpen → other.isOpen → session.appId = other.appId → session = other

namespace World.Kept

variable {world later : World AppIdentity}

theorem faithful (kept : world.Kept) : world.Faithful where
  keeps := by
    intro pid _ appId belongs
    obtain ⟨session, found, same⟩ := kept.belonging pid appId belongs
    exact ⟨session, found, same, (kept.attached pid session found).2.1⟩
  opened := by
    intro appId
    constructor
    · rintro ⟨session, member, same, isOpen⟩
      obtain ⟨pid, found⟩ := kept.manned session member isOpen
      exact ⟨pid, (kept.attached pid session found).1, session, found, same⟩
    · rintro ⟨pid, -, session, found, same⟩
      exact ⟨session, (SessionTables.sessionForPid_mem found).1, same,
        (kept.attached pid session found).2.1⟩
  running := fun pid _ session found => (kept.attached pid session found).2.1

variable {event : ProcessEvent} {session : AppSession} {engine : Engine AppIdentity} {pid : Pid}

theorem alone_iff (kept : world.Kept) (member : session ∈ world.engine.db.appSessions) :
    alone world.engine.db pid session = true ↔
      ∀ other, world.engine.db.sessionForPid other = some session → other = pid := by
  simp only [alone, List.all_eq_true, decide_eq_true_eq]
  constructor
  · intro only other found
    exact only other ((kept.sound.mem_pidsOf member).mpr found)
  · intro only other listed
    exact only other ((kept.sound.mem_pidsOf member).mp listed)

theorem mannedBeside (kept : world.Kept) (member : session ∈ world.engine.db.appSessions)
    (isOpen : session.isOpen)
    (leaves : world.engine.db.sessionForPid pid = some session →
      ∃ other, other ≠ pid ∧ world.engine.db.sessionForPid other = some session) :
    ∃ other, other ≠ pid ∧ world.engine.db.sessionForPid other = some session := by
  obtain ⟨holder, found⟩ := kept.manned session member isOpen
  by_cases moved : holder = pid
  · subst moved
    exact leaves found
  · exact ⟨holder, moved, found⟩

theorem rewire (kept : world.Kept) {next : Option AppSession} (sound : later.engine.db.Sound)
    (attachedTo : ∀ other, later.engine.db.sessionForPid other =
      if other = pid then next else world.engine.db.sessionForPid other)
    (belongs : ∀ other, later.belongs other =
      if other = pid then next.map AppSession.appId else world.belongs other)
    (isNext : ∀ session, next = some session → pid ∈ later.live ∧ session.isOpen)
    (live : ∀ other ∈ world.live, other ≠ pid → other ∈ later.live)
    (manned : ∀ session ∈ later.engine.db.appSessions, session.isOpen → next = some session ∨
      ∃ other, other ≠ pid ∧ world.engine.db.sessionForPid other = some session)
    (one : ∀ session ∈ later.engine.db.appSessions, ∀ other ∈ later.engine.db.appSessions,
      session.isOpen → other.isOpen → session.appId = other.appId → session = other) :
    later.Kept := by
  refine ⟨sound, ?_, ?_, ?_, one⟩
  · intro other found isAttached
    rw [attachedTo] at isAttached
    rw [belongs]
    split_ifs at isAttached ⊢ with same
    · obtain ⟨alive, isOpen⟩ := isNext found isAttached
      rw [isAttached]
      exact ⟨same ▸ alive, isOpen, rfl⟩
    · obtain ⟨alive, stillOpen, owner⟩ := kept.attached other found isAttached
      exact ⟨live other alive same, stillOpen, owner⟩
  · intro other appId owner
    rw [belongs] at owner
    rw [attachedTo]
    split_ifs at owner ⊢ with same
    · exact Option.map_eq_some_iff.mp owner
    · exact kept.belonging other appId owner
  · intro session listed isOpen
    rcases manned session listed isOpen with isNew | ⟨other, apart, found⟩
    · refine ⟨pid, ?_⟩
      rw [attachedTo, if_pos rfl, isNew]
    · refine ⟨other, ?_⟩
      rw [attachedTo, if_neg apart, found]

theorem attach (kept : world.Kept) (member : session ∈ world.engine.db.appSessions)
    (isOpen : session.isOpen)
    (leaves : ∀ left, world.engine.db.sessionForPid pid = some left → left ≠ session →
      ∃ other, other ≠ pid ∧ world.engine.db.sessionForPid other = some left)
    (db : later.engine.db = world.engine.db.attachPid session.sessionId pid)
    (here : pid ∈ later.live) (live : ∀ other ∈ world.live, other ∈ later.live)
    (belongs : ∀ other, later.belongs other =
      if other = pid then some session.appId else world.belongs other) : later.Kept := by
  have attachedTo (other : Pid) : later.engine.db.sessionForPid other =
      if other = pid then some session else world.engine.db.sessionForPid other := by
    rw [db, SessionTables.sessionForPid_attachPid, kept.sound.session_of_mem member]
  have rows : later.engine.db.appSessions = world.engine.db.appSessions := by
    rw [db]
    rfl
  refine kept.rewire ?_ attachedTo belongs ?_ (fun other alive _ => live other alive) ?_ ?_
  · rw [db]
    exact kept.sound.attachPid pid (kept.sound.numbered session member)
  · rintro attached ⟨⟩
    exact ⟨here, isOpen⟩
  · intro other listed stillOpen
    rw [rows] at listed
    by_cases same : other = session
    · exact Or.inl (congrArg some same.symm)
    · exact Or.inr (kept.mannedBeside listed stillOpen fun found => leaves other found same)
  · rw [rows]
    exact kept.one

theorem insert (kept : world.Kept) (fresh : world.engine.db.Fresh session)
    (isOpen : session.isOpen)
    (first : ∀ other ∈ world.engine.db.appSessions, other.isOpen → other.appId ≠ session.appId)
    (leaves : ∀ left, world.engine.db.sessionForPid session.rootPid = some left →
      ∃ other, other ≠ session.rootPid ∧ world.engine.db.sessionForPid other = some left)
    (db : later.engine.db = world.engine.db.insertSession session)
    (here : session.rootPid ∈ later.live) (live : ∀ other ∈ world.live, other ∈ later.live)
    (belongs : ∀ other, later.belongs other =
      if other = session.rootPid then some session.appId else world.belongs other) :
    later.Kept := by
  have attachedTo (other : Pid) : later.engine.db.sessionForPid other =
      if other = session.rootPid then some session
      else world.engine.db.sessionForPid other := by
    rw [db, kept.sound.sessionForPid_insertSession fresh]
  have rows : later.engine.db.appSessions = world.engine.db.appSessions ++ [session] := by
    rw [db]
    rfl
  refine kept.rewire ?_ attachedTo belongs ?_ (fun other alive _ => live other alive) ?_ ?_
  · rw [db]
    exact kept.sound.insertSession fresh
  · rintro attached ⟨⟩
    exact ⟨here, isOpen⟩
  · intro other listed stillOpen
    rw [rows, List.mem_append, List.mem_singleton] at listed
    rcases listed with earlier | same
    · exact Or.inr (kept.mannedBeside earlier stillOpen (leaves other))
    · exact Or.inl (congrArg some same.symm)
  · intro left leftListed right rightListed leftOpen rightOpen same
    rw [rows, List.mem_append, List.mem_singleton] at leftListed rightListed
    rcases leftListed with leftEarlier | leftNew
    · rcases rightListed with rightEarlier | rightNew
      · exact kept.one left leftEarlier right rightEarlier leftOpen rightOpen same
      · rw [rightNew] at same
        exact absurd same (first left leftEarlier leftOpen)
    · rcases rightListed with rightEarlier | rightNew
      · rw [leftNew] at same
        exact absurd same.symm (first right rightEarlier rightOpen)
      · rw [leftNew, rightNew]

theorem detach (kept : world.Kept)
    (leaves : ∀ left, world.engine.db.sessionForPid pid = some left →
      ∃ other, other ≠ pid ∧ world.engine.db.sessionForPid other = some left)
    (db : later.engine.db = world.engine.db.detachPid pid)
    (live : ∀ other ∈ world.live, other ≠ pid → other ∈ later.live)
    (belongs : ∀ other, later.belongs other = if other = pid then none else world.belongs other) :
    later.Kept := by
  have attachedTo (other : Pid) : later.engine.db.sessionForPid other =
      if other = pid then none else world.engine.db.sessionForPid other := by
    rw [db, SessionTables.sessionForPid_detachPid]
  have rows : later.engine.db.appSessions = world.engine.db.appSessions := by
    rw [db]
    rfl
  refine kept.rewire ?_ attachedTo belongs (fun session isNext => by cases isNext) live ?_ ?_
  · rw [db]
    exact kept.sound.detachPid pid
  · intro other listed stillOpen
    rw [rows] at listed
    exact Or.inr (kept.mannedBeside listed stillOpen (leaves other))
  · rw [rows]
    exact kept.one

theorem finish (kept : world.Kept) {now : Timestamp}
    (found : world.engine.db.sessionForPid pid = some session)
    (last : ∀ other, world.engine.db.sessionForPid other = some session → other = pid)
    (db : later.engine.db = world.engine.db.endSession session.sessionId now)
    (live : ∀ other ∈ world.live, other ≠ pid → other ∈ later.live)
    (belongs : ∀ other, later.belongs other = if other = pid then none else world.belongs other) :
    later.Kept := by
  have member := (SessionTables.sessionForPid_mem found).1
  have attachedTo (other : Pid) : later.engine.db.sessionForPid other =
      if other = pid then none else world.engine.db.sessionForPid other := by
    rw [db, kept.sound.sessionForPid_endSession member]
    by_cases same : other = pid
    · rw [if_pos same, same, if_pos found]
    · rw [if_neg same, if_neg]
      intro also
      exact same (last other also)
  have earlier : ∀ other ∈ later.engine.db.appSessions, other.isOpen →
      other ∈ world.engine.db.appSessions ∧ other ≠ session := by
    intro other listed stillOpen
    rw [db] at listed
    obtain ⟨before, inTable, closed⟩ := List.mem_map.mp listed
    rw [SessionTables.closing] at closed
    split at closed
    · subst closed
      simp [AppSession.isOpen] at stillOpen
    · rename_i apart
      subst closed
      refine ⟨inTable, ?_⟩
      intro same
      exact apart (by rw [same])
  refine kept.rewire ?_ attachedTo belongs (fun session isNext => by cases isNext) live ?_ ?_
  · rw [db]
    exact kept.sound.endSession session.sessionId now
  · intro other listed stillOpen
    obtain ⟨inTable, apart⟩ := earlier other listed stillOpen
    right
    apply kept.mannedBeside inTable stillOpen
    intro also
    rw [found, Option.some.injEq] at also
    exact absurd also.symm apart
  · intro left leftListed right rightListed leftOpen rightOpen same
    exact kept.one left (earlier left leftListed leftOpen).1 right
      (earlier right rightListed rightOpen).1 leftOpen rightOpen same

theorem idle (kept : world.Kept) (db : later.engine.db = world.engine.db)
    (live : ∀ other ∈ world.live, other ∈ later.live)
    (belongs : ∀ other, later.belongs other = world.belongs other) : later.Kept := by
  refine ⟨?_, ?_, ?_, ?_, ?_⟩
  · rw [db]
    exact kept.sound
  · intro other found isAttached
    rw [db] at isAttached
    rw [belongs]
    obtain ⟨alive, stillOpen, owner⟩ := kept.attached other found isAttached
    exact ⟨live other alive, stillOpen, owner⟩
  · intro other appId owner
    rw [belongs] at owner
    rw [db]
    exact kept.belonging other appId owner
  · rw [db]
    exact kept.manned
  · rw [db]
    exact kept.one

theorem unattached (kept : world.Kept) (absent : world.engine.db.sessionForPid pid = none) :
    world.belongs pid = none := by
  cases owner : world.belongs pid with
  | none => rfl
  | some appId =>
      obtain ⟨session, found, -⟩ := kept.belonging pid appId owner
      rw [absent] at found
      simp at found

theorem inherited (kept : world.Kept) (found : inheritedSession world.engine event = some session) :
    session ∈ world.engine.db.appSessions ∧ session.isOpen := by
  rw [inheritedSession] at found
  split at found
  · rename_i existing isAttached
    rw [Option.some.injEq] at found
    subst found
    exact ⟨(SessionTables.sessionForPid_mem isAttached).1, (kept.attached _ _ isAttached).2.1⟩
  · exact ⟨(SessionTables.sessionForPid_mem found).1, (kept.attached _ _ found).2.1⟩

theorem enter (kept : world.Kept) {identity : AppIdentity} {exe : String}
    (db : engine.db = world.engine.db ∨ engine.db = world.engine.db.detachPid event.pid)
    (entered : later.engine = (enterApp discovery engine identity exe event).1)
    (leaves : ∀ left, world.engine.db.sessionForPid event.pid = some left →
      left.appId ≠ discovery.appId identity ∧
        ∃ other, other ≠ event.pid ∧ world.engine.db.sessionForPid other = some left)
    (here : event.pid ∈ later.live) (live : ∀ other ∈ world.live, other ∈ later.live)
    (belongs : ∀ other, later.belongs other =
      if other = event.pid then some (discovery.appId identity) else world.belongs other) :
    later.Kept := by
  have sessions : engine.db.appSessions = world.engine.db.appSessions := by
    rcases db with same | detached
    · rw [same]
    · rw [detached]
      rfl
  have attachSame (sessionId : Nat) : engine.db.attachPid sessionId event.pid =
      world.engine.db.attachPid sessionId event.pid := by
    rcases db with same | detached
    · rw [same]
    · rw [detached, SessionTables.attachPid_detachPid]
  rw [enterApp] at entered
  split at entered
  · rename_i session found
    obtain ⟨member, sameApp, isOpen⟩ := SessionTables.openSessionForApp_some found
    rw [sessions] at member
    refine kept.attach member isOpen ?_ (by rw [entered]; exact attachSame _) here live ?_
    · intro left isAttached _
      exact (leaves left isAttached).2
    · intro other
      rw [belongs, sameApp]
  · rename_i absent
    have none_open : ∀ other ∈ world.engine.db.appSessions, other.isOpen →
        other.appId ≠ discovery.appId identity := by
      intro other member isOpen
      rw [← sessions] at member
      exact SessionTables.openSessionForApp_none absent member isOpen
    have fresh : world.engine.db.Fresh (newSession discovery engine identity exe event) := by
      rw [SessionTables.Fresh, ← sessions]
      rfl
    refine kept.insert fresh rfl none_open ?_ ?_ here live belongs
    · intro left isAttached
      exact (leaves left isAttached).2
    · rw [entered]
      rcases db with same | detached
      · rw [same]
      · rw [detached]
        exact SessionTables.insertSession_detachPid _

theorem step_possible (possible : world.possible event = true) :
    world.step discovery event =
      { engine := (ingestProcessInner discovery world.engine event).1
        live := liveAfter world.live event
        belongs := fun pid =>
          if pid = event.pid then
            belongsAfter discovery world event
              ((ingestProcessInner discovery world.engine event).1.db.sessionForPid event.pid)
          else world.belongs pid } :=
  if_pos possible

theorem step_fork (kept : world.Kept) (isFork : event.kind = .fork ∨ event.kind = .clone)
    (possible : world.possible event = true) : (world.step discovery event).Kept := by
  have created : event.pid ∉ world.live := by
    rcases isFork with kind | kind <;>
    · simp only [World.possible, kind, Bool.and_eq_true, decide_eq_true_eq] at possible
      exact possible.1
  have unattachedYet : world.engine.db.sessionForPid event.pid = none := by
    cases found : world.engine.db.sessionForPid event.pid with
    | none => rfl
    | some session => exact absurd (kept.attached _ _ found).1 created
  have ingested : ingestProcessInner discovery world.engine event =
      ingestFork world.engine event := by
    rcases isFork with kind | kind <;> simp only [ingestProcessInner, kind]
  have live : liveAfter world.live event = event.pid :: world.live := by
    rcases isFork with kind | kind <;> simp only [liveAfter, kind]
  have belongs (attached : Option AppSession) : belongsAfter discovery world event attached =
      attached.map AppSession.appId := by
    rcases isFork with kind | kind <;> simp only [belongsAfter, kind]
  rw [step_possible possible]
  simp only [ingested, live, belongs]
  rw [ingestFork]
  cases parent : world.engine.db.sessionForPid event.ppid with
  | none =>
      refine kept.idle rfl (fun other alive => List.mem_cons_of_mem _ alive) ?_
      intro other
      simp only [unattachedYet, Option.map_none]
      split_ifs with same
      · rw [same, kept.unattached unattachedYet]
      · rfl
  | some session =>
      have member := (SessionTables.sessionForPid_mem parent).1
      refine kept.attach member (kept.attached _ _ parent).2.1 ?_ rfl List.mem_cons_self
        (fun other alive => List.mem_cons_of_mem _ alive) ?_
      · intro left found
        rw [unattachedYet] at found
        simp at found
      · intro other
        simp only [SessionTables.sessionForPid_attachPid, if_true,
          kept.sound.session_of_mem member, Option.map_some]

theorem attached_enterApp (sound : engine.db.Sound) (identity : AppIdentity) (exe : String)
    (event : ProcessEvent) :
    ((enterApp discovery engine identity exe event).1.db.sessionForPid event.pid).map
      AppSession.appId = some (discovery.appId identity) := by
  rw [enterApp]
  split
  · rename_i session found
    obtain ⟨member, sameApp, -⟩ := SessionTables.openSessionForApp_some found
    simp only [SessionTables.sessionForPid_attachPid, if_true, sound.session_of_mem member,
      Option.map_some, sameApp]
  · have fresh : engine.db.Fresh (newSession discovery engine identity exe event) := rfl
    have root : event.pid = (newSession discovery engine identity exe event).rootPid := rfl
    simp only [sound.sessionForPid_insertSession fresh, if_pos root]
    rfl

theorem belongsAfter_exec (isExec : event.kind = .exec)
    (entered : world.belongs event.pid = none ∨ execsKnownApp discovery world.engine event = true)
    (attached : Option AppSession) :
    belongsAfter discovery world event attached = attached.map AppSession.appId := by
  simp only [belongsAfter, isExec]
  rcases entered with absent | known
  · simp [absent]
  · simp [known]

theorem belongsAfter_stays (kept : world.Kept) (isExec : event.kind = .exec)
    (inherits : inheritedSession world.engine event = some session) :
    belongsAfter discovery world event (some session) = some session.appId := by
  simp only [belongsAfter, isExec]
  rw [inheritedSession] at inherits
  split at inherits
  · rename_i existing found
    rw [Option.some.injEq] at inherits
    subst inherits
    simp [(kept.attached _ _ found).2.2]
  · rename_i absent
    simp [kept.unattached absent]

theorem inherits_own {session left : AppSession}
    (inherits : inheritedSession world.engine event = some session)
    (found : world.engine.db.sessionForPid event.pid = some left) : left = session := by
  rw [inheritedSession, found, Option.some.injEq] at inherits
  exact inherits

theorem step_exec (kept : world.Kept) (isExec : event.kind = .exec)
    (possible : world.possible event = true) (orderly : world.orderly discovery event = true) :
    (world.step discovery event).Kept := by
  have alive : event.pid ∈ world.live := by
    simpa only [World.possible, isExec, decide_eq_true_eq] using possible
  rw [step_possible possible]
  simp only [ingestProcessInner, liveAfter, isExec]
  rw [ingestExec]
  cases run : event.executable with
  | none =>
      refine kept.idle rfl (fun _ alive => alive) ?_
      intro other
      have unknown : execsKnownApp discovery world.engine event = false := by
        simp only [execsKnownApp, run]
      simp only [belongsAfter, isExec, unknown]
      by_cases same : other = event.pid
      · rw [same]
        cases found : world.engine.db.sessionForPid event.pid with
        | none => simp [kept.unattached found]
        | some session => simp [(kept.attached _ _ found).2.2]
      · rw [if_neg same]
  | some exe =>
      simp only
      have whole : execsKnownApp discovery world.engine event =
          (identityWasKnown discovery world.engine
            (discovery.resolveIdentity world.engine.knownApps exe event) &&
            discovery.isBackupCandidate
              (discovery.resolveIdentity world.engine.knownApps exe event)) := by
        simp only [execsKnownApp, run]
      have leaving : ∀ session, world.engine.db.sessionForPid event.pid = some session →
          staysIn discovery world.engine
            (discovery.resolveIdentity world.engine.knownApps exe event) session = false →
          alone world.engine.db event.pid session = false := by
        intro session found leaves
        simpa [World.orderly, possible, found, isExec, run, leaves] using orderly
      generalize discovery.resolveIdentity world.engine.knownApps exe event = identity
        at whole leaving
      cases inherits : inheritedSession world.engine event with
      | some session =>
          obtain ⟨member, isOpen⟩ := kept.inherited inherits
          simp only
          cases stays : staysIn discovery world.engine identity session with
          | true =>
              refine kept.attach member isOpen ?_ rfl alive (fun _ alive => alive) ?_
              · intro left found apart
                exact absurd (inherits_own inherits found) apart
              · intro other
                simp only [if_true, SessionTables.sessionForPid_attachPid,
                  kept.sound.session_of_mem member, kept.belongsAfter_stays isExec inherits]
          | false =>
              have away := stays
              simp only [staysIn, Bool.or_eq_false_iff, decide_eq_false_iff_not,
                Bool.not_eq_false'] at away
              obtain ⟨⟨otherApp, known⟩, candidate⟩ := away
              refine kept.enter (Or.inr rfl) rfl ?_ alive (fun _ alive => alive) ?_
              · intro left found
                have own := inherits_own inherits found
                subst own
                refine ⟨otherApp, ?_⟩
                have shared := leaving left found stays
                rw [← Bool.not_eq_true, kept.alone_iff member] at shared
                push Not at shared
                obtain ⟨other, held, apart⟩ := shared
                exact ⟨other, apart, held⟩
              · intro other
                rw [belongsAfter_exec isExec (Or.inr (by rw [whole, known, candidate]; rfl))]
                rw [if_neg (by simp)]
                rw [attached_enterApp (kept.sound.detachPid event.pid)]
      | none =>
          have unattachedYet : world.engine.db.sessionForPid event.pid = none := by
            rw [inheritedSession] at inherits
            split at inherits
            · simp at inherits
            · rename_i absent
              exact absent
          have noApp := kept.unattached unattachedYet
          simp only
          split_ifs with candidate
          · refine kept.enter (Or.inl rfl) rfl ?_ alive (fun _ alive => alive) ?_
            · intro left found
              rw [unattachedYet] at found
              simp at found
            · intro other
              rw [belongsAfter_exec isExec (Or.inl noApp), attached_enterApp kept.sound]
          · refine kept.idle rfl (fun _ alive => alive) ?_
            intro other
            rw [belongsAfter_exec isExec (Or.inl noApp), unattachedYet]
            by_cases same : other = event.pid
            · simp [same, noApp]
            · simp [same]

theorem step_exit (kept : world.Kept) (isExit : event.kind = .exit)
    (possible : world.possible event = true) (orderly : world.orderly discovery event = true) :
    (world.step discovery event).Kept := by
  have live : ∀ other ∈ world.live, other ≠ event.pid →
      other ∈ world.live.filter (· ≠ event.pid) := by
    intro other alive apart
    exact List.mem_filter.mpr ⟨alive, by simpa using apart⟩
  have belongs : ∀ attached other,
      (if other = event.pid then belongsAfter discovery world event attached
        else world.belongs other) =
      if other = event.pid then none else world.belongs other := by
    intro attached other
    simp only [belongsAfter, isExit]
  rw [step_possible possible]
  simp only [ingestProcessInner, liveAfter, isExit]
  rw [ingestExit]
  cases found : world.engine.db.sessionForPid event.pid with
  | none =>
      refine kept.detach ?_ rfl live (belongs _)
      intro left isAttached
      rw [found] at isAttached
      simp at isAttached
  | some session =>
      have member := (SessionTables.sessionForPid_mem found).1
      have last : (session.rootPid = event.pid) ↔
          alone world.engine.db event.pid session = true := by
        have agrees : decide (session.rootPid = event.pid) =
            alone world.engine.db event.pid session := by
          simpa [World.orderly, possible, found, isExit] using orderly
        rw [← agrees, decide_eq_true_eq]
      simp only
      split_ifs with root
      · exact kept.finish found ((kept.alone_iff member).mp (last.mp root)) rfl live (belongs _)
      · refine kept.detach ?_ rfl live (belongs _)
        intro left isAttached
        rw [found, Option.some.injEq] at isAttached
        subst isAttached
        have shared : ¬ ∀ other, world.engine.db.sessionForPid other = some session →
            other = event.pid :=
          fun only => root (last.mpr ((kept.alone_iff member).mpr only))
        push Not at shared
        obtain ⟨other, held, apart⟩ := shared
        exact ⟨other, apart, held⟩

theorem step (kept : world.Kept) (orderly : world.orderly discovery event = true) :
    (world.step discovery event).Kept := by
  cases possible : world.possible event with
  | false =>
      rw [World.step, possible]
      exact kept
  | true =>
      cases kind : event.kind with
      | exec => exact kept.step_exec kind possible orderly
      | fork => exact kept.step_fork (Or.inl kind) possible
      | clone => exact kept.step_fork (Or.inr kind) possible
      | exit => exact kept.step_exit kind possible orderly

theorem deserted (kept : world.Kept) (member : session ∈ world.engine.db.appSessions)
    (isOpen : session.isOpen)
    (only : ∀ other, world.engine.db.sessionForPid other = some session → other = pid)
    (still : session ∈ later.engine.db.appSessions)
    (others : ∀ other, other ≠ pid →
      later.engine.db.sessionForPid other = world.engine.db.sessionForPid other)
    (away : ∀ attached, later.engine.db.sessionForPid pid = some attached →
      attached.appId ≠ session.appId) : ¬ later.Faithful := by
  intro faithful
  obtain ⟨holder, -, attached, found, sameApp⟩ :=
    (faithful.opened session.appId).mp ⟨session, still, rfl, isOpen⟩
  by_cases same : holder = pid
  · rw [same] at found
    exact away attached found sameApp
  · rw [others holder same] at found
    have attachedMember := (SessionTables.sessionForPid_mem found).1
    have own : attached = session :=
      kept.one attached attachedMember session member (kept.attached _ _ found).2.1 isOpen sameApp
    rw [own] at found
    exact same (only holder found)

theorem mem_enterApp {identity : AppIdentity} {exe : String}
    (member : session ∈ engine.db.appSessions) :
    session ∈ (enterApp discovery engine identity exe event).1.db.appSessions := by
  rw [enterApp]
  split
  · exact member
  · exact List.mem_append_left _ member

theorem others_enterApp (sound : engine.db.Sound) {identity : AppIdentity} {exe : String}
    {other : Pid} (apart : other ≠ event.pid) :
    (enterApp discovery engine identity exe event).1.db.sessionForPid other =
      engine.db.sessionForPid other := by
  rw [enterApp]
  split
  · simp only [SessionTables.sessionForPid_attachPid, if_neg apart]
  · have fresh : engine.db.Fresh (newSession discovery engine identity exe event) := rfl
    have root : other ≠ (newSession discovery engine identity exe event).rootPid := apart
    simp only [sound.sessionForPid_insertSession fresh, if_neg root]

theorem broken_exec (kept : world.Kept) (isExec : event.kind = .exec)
    (possible : world.possible event = true)
    (found : world.engine.db.sessionForPid event.pid = some session) {exe : String}
    (run : event.executable = some exe)
    (leaves : staysIn discovery world.engine
      (discovery.resolveIdentity world.engine.knownApps exe event) session = false)
    (last : alone world.engine.db event.pid session = true) :
    ¬ (world.step discovery event).Faithful := by
  have member := (SessionTables.sessionForPid_mem found).1
  have inherits : inheritedSession world.engine event = some session := by
    rw [inheritedSession, found]
  have otherApp : session.appId ≠
      discovery.appId (discovery.resolveIdentity world.engine.knownApps exe event) := by
    intro same
    simp [staysIn, same] at leaves
  have detached := kept.sound.detachPid event.pid
  rw [step_possible possible]
  simp only [ingestProcessInner, isExec, ingestExec, run, inherits, leaves]
  apply kept.deserted member (kept.attached _ _ found).2.1 ((kept.alone_iff member).mp last)
  · exact mem_enterApp member
  · intro other apart
    rw [if_neg (by simp), others_enterApp detached apart,
      SessionTables.sessionForPid_detachPid, if_neg apart]
  · intro attached isAttached same
    rw [if_neg (by simp)] at isAttached
    have entered : ((enterApp discovery
        { world.engine with db := world.engine.db.detachPid event.pid }
        (discovery.resolveIdentity world.engine.knownApps exe event) exe
        event).1.db.sessionForPid event.pid).map AppSession.appId =
          some (discovery.appId (discovery.resolveIdentity world.engine.knownApps exe event)) :=
      attached_enterApp detached _ exe event
    rw [isAttached, Option.map_some, Option.some.injEq] at entered
    exact otherApp (same.symm.trans entered)

theorem broken_exit (kept : world.Kept) (isExit : event.kind = .exit)
    (possible : world.possible event = true)
    (found : world.engine.db.sessionForPid event.pid = some session)
    (wrong : ¬ ((session.rootPid = event.pid) ↔ alone world.engine.db event.pid session = true)) :
    ¬ (world.step discovery event).Faithful := by
  have member := (SessionTables.sessionForPid_mem found).1
  rw [step_possible possible]
  simp only [ingestProcessInner, isExit, ingestExit, found, liveAfter]
  rw [kept.alone_iff member] at wrong
  by_cases root : session.rootPid = event.pid
  · simp only [root, true_iff] at wrong
    push Not at wrong
    obtain ⟨other, held, apart⟩ := wrong
    obtain ⟨alive, -, owner⟩ := kept.attached other session held
    intro faithful
    obtain ⟨attached, isAttached, -⟩ := faithful.keeps other
      (List.mem_filter.mpr ⟨alive, by simpa using apart⟩) session.appId
      (by simpa [apart] using owner)
    simp only [if_pos root, kept.sound.sessionForPid_endSession member, held, if_true] at isAttached
    simp at isAttached
  · simp only [root, false_iff, not_not] at wrong
    rw [if_neg root]
    apply kept.deserted member (kept.attached _ _ found).2.1 wrong
    · exact member
    · intro other apart
      simp only [SessionTables.sessionForPid_detachPid, if_neg apart]
    · intro attached isAttached
      simp only [SessionTables.sessionForPid_detachPid, if_true] at isAttached
      simp at isAttached

theorem broken (kept : world.Kept) (disorderly : ¬ world.orderly discovery event = true) :
    ¬ (world.step discovery event).Faithful := by
  cases possible : world.possible event with
  | false => simp [World.orderly, possible] at disorderly
  | true =>
      cases found : world.engine.db.sessionForPid event.pid with
      | none => simp [World.orderly, possible, found] at disorderly
      | some session =>
          cases kind : event.kind with
          | fork => simp [World.orderly, possible, found, kind] at disorderly
          | clone => simp [World.orderly, possible, found, kind] at disorderly
          | exec =>
              cases run : event.executable with
              | none => simp [World.orderly, possible, found, kind, run] at disorderly
              | some exe =>
                  simp only [World.orderly, possible, found, kind, run, Bool.not_true,
                    Bool.false_or, Bool.or_eq_true, not_or, Bool.not_eq_true,
                    Bool.not_eq_false'] at disorderly
                  exact kept.broken_exec kind possible found run disorderly.1 disorderly.2
          | exit =>
              apply kept.broken_exit kind possible found
              intro agrees
              apply disorderly
              simp only [World.orderly, possible, found, kind, Bool.not_true, Bool.false_or,
                beq_iff_eq]
              rw [Bool.eq_iff_iff, decide_eq_true_eq]
              exact agrees

end World.Kept

/-- The processes that are alive before the first event, with empty session tables. -/
def World.beginning (live : List Pid) (knownApps : List AppIdentity) : World AppIdentity :=
  ⟨⟨{}, knownApps⟩, live, fun _ => none⟩

theorem World.kept_beginning (live : List Pid) (knownApps : List AppIdentity) :
    (World.beginning live knownApps).Kept := by
  refine ⟨⟨by simp [beginning], by simp [beginning], by simp [beginning], by simp [beginning]⟩,
    ?_, by simp [beginning], by simp [beginning], by simp [beginning]⟩
  intro pid session found
  simp [beginning, SessionTables.sessionForPid] at found

variable (discovery)

/-- The sessions are right throughout exactly the runs in which every event is orderly. -/
theorem sessions_faithful_iff (live : List Pid) (knownApps : List AppIdentity)
    (events : List ProcessEvent) :
    Machine.Throughout (World.step discovery) World.Faithful (World.beginning live knownApps)
        events ↔
      Machine.Along (World.step discovery) (fun world event => world.orderly discovery event)
        (World.beginning live knownApps) events :=
  Machine.throughout_iff_along (fun _ _ kept orderly => kept.step orderly)
    (fun _ kept => kept.faithful) (fun _ _ kept disorderly => kept.broken disorderly)
    (World.kept_beginning live knownApps) events

namespace ProcessSample

def byExecutable : Discovery String where
  appId exe := ⟨exe⟩
  isBackupCandidate _ := true
  resolveIdentity _ exe _ := exe
  inferSessionSource _ _ := .executableDiscovery

def launcherFirst : List ProcessEvent :=
  [{ kind := .fork, pid := 10, ppid := 1 },
    { kind := .exec, pid := 10, ppid := 1, executable := some "/games/doom/start.sh" },
    { kind := .fork, pid := 11, ppid := 10 }, { kind := .exit, pid := 10, ppid := 1 }]

def execAway : List ProcessEvent :=
  [{ kind := .exec, pid := 10, ppid := 1, executable := some "/games/doom" },
    { kind := .exec, pid := 10, ppid := 1, executable := some "/games/quake" },
    { kind := .exit, pid := 10, ppid := 1 }]

def afterLauncher : World String :=
  launcherFirst.foldl (World.step byExecutable) (World.beginning [1] [])

def afterExecAway : World String :=
  execAway.foldl (World.step byExecutable)
    (World.beginning [1, 10] ["/games/doom", "/games/quake"])

end ProcessSample

open ProcessSample in
/-- The game is alive, belongs to the app and has no session; and an app whose only process has
gone over to another app keeps an open session. -/
theorem game_loses_session :
    (11 ∈ afterLauncher.live ∧ afterLauncher.belongs 11 = some ⟨"/games/doom/start.sh"⟩ ∧
      afterLauncher.engine.db.sessionForPid 11 = none ∧ ¬ afterLauncher.Faithful) ∧
    (afterExecAway.engine.db.sessionPids = [] ∧
      (afterExecAway.engine.db.openSessionForApp ⟨"/games/doom"⟩).isSome ∧
      ¬ afterExecAway.Faithful) := by
  have lost : afterLauncher.engine.db.sessionForPid 11 = none := rfl
  have empty : afterExecAway.engine.db.sessionPids = [] := rfl
  have alive : (11 : Pid) ∈ afterLauncher.live := by decide
  refine ⟨⟨alive, rfl, lost, ?_⟩, empty, rfl, ?_⟩
  · intro faithful
    obtain ⟨session, found, -⟩ := faithful.keeps 11 alive ⟨"/games/doom/start.sh"⟩ rfl
    rw [lost] at found
    simp at found
  · intro faithful
    have listed : ⟨0, ⟨"/games/doom"⟩, 10, 0, none, .executableDiscovery⟩ ∈
        afterExecAway.engine.db.appSessions := by decide
    obtain ⟨pid, -, session, found, -⟩ :=
      (faithful.opened ⟨"/games/doom"⟩).mp ⟨_, listed, rfl, rfl⟩
    simp [SessionTables.sessionForPid, empty] at found

end Noland.Attribution
