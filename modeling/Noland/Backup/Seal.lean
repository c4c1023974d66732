import Mathlib.Logic.Relation
import Noland.Backup.Run

/-!
`deletion_allowed` lets a machine go when its newest seal is a completed one, whatever has become
dirty since. Any number of backups and seals run at once, next to file events. Beside the system
stands which file events came after a seal had taken up their app.
-/

namespace Noland.Backup

open Noland.Core Noland.StateDb Noland.Requests

inductive SealState where
  | requested
  | reconciling
  | backingUpDirtyApps
  | checkpointing
  | uploadingSeal
  | committingSeal
  | sealed
  | failed
  deriving DecidableEq

def SealState.allowsAutomaticDelete (state : SealState) : Bool := state = .sealed

structure SealAppCommit where
  appId : AppId
  bundleId : Uuid
  commitId : Uuid
  deriving DecidableEq

structure SealRecord where
  sealId : Uuid
  instanceId : Uuid
  imageId : String
  sealedAt : Timestamp
  appBundleCommits : List SealAppCommit
  checkpointId : Option Uuid
  state : String
  deriving DecidableEq

/-- A row of `seals`. -/
structure SealRow where
  record : SealRecord
  state : SealState
  createdAt : Timestamp
  deriving DecidableEq

def recordSeal (rows : List SealRow) (record : SealRecord) (state : SealState) (now : Timestamp) :
    List SealRow :=
  if rows.any fun row => row.record.sealId = record.sealId then
    rows.map fun row =>
      if row.record.sealId = record.sealId then { row with record := record, state := state } else row
  else rows ++ [⟨record, state, now⟩]

/-- Of rows of the same second the first one comes first. -/
def laterSeal (best : Option SealRow) (row : SealRow) : Option SealRow :=
  match best with
  | none => some row
  | some known => if known.createdAt < row.createdAt then some row else some known

def latestSeal (rows : List SealRow) : Option SealRow := rows.foldl laterSeal none

inductive DeletionKind where
  | safe
  | force
  deriving DecidableEq

def deletionAllowed (seals : List SealRow) (dirtyApps : List DirtyApp) (kind : DeletionKind) :
    Except StateError Unit :=
  if kind = .force then .ok ()
  else if (latestSeal seals).any fun row => row.state.allowsAutomaticDelete then .ok ()
  else if dirtyApps ≠ [] then .error .sealRequired
  else .error .sealRequired

/-- The statements of `mark_dirty` and `append_app_mutation`. -/
def AgentOp.isFileEvent : AgentOp → Bool
  | .markDirtyApp _ _ | .markDirtyPath _ _ | .appendMutation _ => true
  | _ => false

def AgentOp.leavesEvidence (agent : Agent) : AgentOp → Prop
  | .markDirtyApp appId _ => ∃ row ∈ agent.dirtyApps, row.appId = appId
  | .markDirtyPath appId pathId => (appId, pathId) ∈ agent.dirtyPaths
  | .appendMutation mutation => pendingMutation agent.mutations mutation.appId mutation.path
  | _ => False

def AgentOp.concerns (appId : AppId) : AgentOp → Bool
  | .markDirtyApp other _ | .markDirtyPath other _ => other = appId
  | .appendMutation mutation => mutation.appId = appId
  | _ => false

structure SealAgent where
  agent : Agent
  apps : List AppId := []
  seals : List SealRow := []

inductive SealOp where
  | agent (op : AgentOp)
  | upsertOperation (state : SealState)
  | listDirtyApps
  | listApps
  | latestCommitIds (appId : AppId)
  | writeLocalCheckpoint
  | commitCheckpoint (checkpointId : Uuid)
  | commitSeal (record : SealRecord)
  /-- `record_seal` with the state `Sealed`, its only call. -/
  | recordSeal (record : SealRecord)

def SealOp.Ret : SealOp → Type
  | .agent op => op.Ret
  | .listDirtyApps | .listApps => List AppId
  | .latestCommitIds _ => Option (Uuid × Uuid)
  | .writeLocalCheckpoint => Uuid
  | _ => Unit

def sealInterface : Interface := { Op := SealOp, Ret := SealOp.Ret }

abbrev SealProg := Prog sealInterface StateError

namespace SealAgent

def after (state : SealAgent) : SealOp → SealAgent
  | .agent op => { state with agent := (agentHandler.act op state.agent).2 }
  | .writeLocalCheckpoint => { state with agent := (agentHandler.act .newUuid state.agent).2 }
  | .recordSeal record =>
      { state with
        agent := (agentHandler.act .utcNow state.agent).2
        seals := Backup.recordSeal state.seals record .sealed
          (state.agent.clock state.agent.ticks) }
  | _ => state

def answer (state : SealAgent) : (op : SealOp) → Except StateError op.Ret
  | .agent op => (agentHandler.act op state.agent).1
  | .listDirtyApps => .ok (state.agent.dirtyApps.map DirtyApp.appId)
  | .listApps => .ok state.apps
  | .latestCommitIds appId =>
      .ok ((latestCommit state.agent.commits appId).map fun row => (row.commitId, row.bundleId))
  | .writeLocalCheckpoint => .ok (state.agent.uuids state.agent.drawn)
  | .upsertOperation _ | .commitCheckpoint _ | .commitSeal _ | .recordSeal _ => .ok ()

end SealAgent

def sealHandler : Handler sealInterface StateError SealAgent where
  act op state := (state.answer op, state.after op)
  internal
    | .agent op => agentHandler.internal op
    | _ => false

def askSeal (op : SealOp) : SealProg op.Ret := @Prog.perform sealInterface StateError op

def embed {Value : Type} : AgentProg Value → SealProg Value
  | .done value => .done value
  | .throw error => .throw error
  | .request op next => .request (.agent op) fun reply => embed (next reply)

def reconcileApp (appId : AppId) : AgentProg Unit := do
  let _ ← ask (.listDirtyRoots appId)
  let found ← ask (.walkRoots appId)
  Prog.forEach found fun entry => ask (.indexScanned appId entry)
  ask (.clearReconciliation appId)
  ask (.clearDirtyRoots appId)

structure SealCall where
  instanceId : Uuid
  imageId : String
  backupOf : AppId → BackupCall

def backUpDirtyApps (call : SealCall) : List AppId → SealProg (List SealAppCommit)
  | [] => .done []
  | appId :: rest => do
      let manifest ← embed (runBackup (call.backupOf appId))
      let others ← backUpDirtyApps call rest
      .done (⟨appId, manifest.bundleId, manifest.commitId⟩ :: others)

def cleanCommits (commits : List SealAppCommit) : List AppId → SealProg (List SealAppCommit)
  | [] => .done []
  | appId :: rest =>
      if commits.any fun commit => commit.appId = appId then cleanCommits commits rest
      else do
        let ids : Option (Uuid × Uuid) ← askSeal (.latestCommitIds appId)
        let others ← cleanCommits commits rest
        .done ((ids.map fun ids => ⟨appId, ids.2, ids.1⟩).toList ++ others)

def runSeal (call : SealCall) : SealProg SealRecord := do
  askSeal (.upsertOperation .requested)
  askSeal (.upsertOperation .reconciling)
  let dirty : List AppId ← askSeal .listDirtyApps
  Prog.forEach dirty fun appId => embed (reconcileApp appId)
  askSeal (.upsertOperation .backingUpDirtyApps)
  let stillDirty : List AppId ← askSeal .listDirtyApps
  let backedUp ← backUpDirtyApps call stillDirty
  let apps : List AppId ← askSeal .listApps
  let others ← cleanCommits backedUp apps
  askSeal (.upsertOperation .checkpointing)
  let checkpointId : Uuid ← askSeal .writeLocalCheckpoint
  askSeal (.commitCheckpoint checkpointId)
  let sealId : Uuid ← askSeal (.agent .newUuid)
  let sealedAt : Timestamp ← askSeal (.agent .utcNow)
  let record : SealRecord :=
    { sealId := sealId
      instanceId := call.instanceId
      imageId := call.imageId
      sealedAt := sealedAt
      appBundleCommits := backedUp ++ others
      checkpointId := some checkpointId
      state := "complete" }
  askSeal (.upsertOperation .uploadingSeal)
  askSeal (.commitSeal record)
  askSeal (.upsertOperation .committingSeal)
  askSeal (.recordSeal record)
  askSeal (.upsertOperation .sealed)
  .done record

inductive SealWork where
  | backup (call : BackupCall)
  | sealing (call : SealCall)

def SealWork.program : SealWork → SealProg Unit
  | .backup call => embed (runBackup call) >>= fun _ => .done ()
  | .sealing call => runSeal call >>= fun _ => .done ()

def SealOp.fileEvents : SealOp → List AgentOp
  | .agent op => if op.isFileEvent then [op] else []
  | _ => []

/-- What is left of the events when a program has looked at the dirty apps: those of the apps
that are dirty. A backup takes up an app when it reads its evidence. -/
def SealOp.takesUp : (op : SealOp) → Except StateError op.Ret → List AgentOp → List AgentOp
  | .listDirtyApps, .ok dirty, events => events.filter fun event =>
      List.any (dirty : List AppId) fun appId => event.concerns appId
  | .agent (.dirtyState appId), _, events => events.filter fun event => !event.concerns appId
  | _, _, events => events

/-- A program, and the file events since it started whose app it has not taken up after them. -/
structure Work where
  program : SealProg Unit
  since : List AgentOp := []

def Work.hear (events : List AgentOp) (work : Work) : Work :=
  { work with since := work.since ++ events }

/-- `unsealed` has the file events that came after the last seal had taken up their app. -/
structure System where
  state : SealAgent
  running : List Work := []
  unsealed : List AgentOp := []

def SealOp.leavesUnsealed (op : SealOp) (since unsealed : List AgentOp) : List AgentOp :=
  match op with
  | .recordSeal _ => since
  | _ => unsealed ++ op.fileEvents

/-- One step, with the operation that is carried out in it and what its program has not taken
up. An operation that fails may have taken effect. -/
inductive SystemStep (system : System) : Option (SealOp × List AgentOp) → System → Prop where
  | start (work : SealWork) :
      SystemStep system none { system with running := system.running ++ [⟨work.program, []⟩] }
  | event (op : AgentOp) (file : op.isFileEvent = true) :
      SystemStep system (some (.agent op, []))
        { state := system.state.after (.agent op)
          running := system.running.map fun work => work.hear [op]
          unsealed := system.unsealed ++ [op] }
  | request (before after : List Work) (op : SealOp)
      (next : Except StateError op.Ret → SealProg Unit) (since : List AgentOp)
      (position : system.running = before ++ ⟨.request op next, since⟩ :: after)
      (reply : Except StateError op.Ret) (state : SealAgent)
      (replied : Reply sealHandler op system.state reply state) (effect : Bool)
      (took : state = if effect then system.state.after op else system.state) :
      SystemStep system (some (op, since))
        { state := state
          running := (before ++ ⟨next reply, op.takesUp reply since⟩ :: after).map fun work =>
            work.hear (if effect then op.fileEvents else [])
          unsealed :=
            if effect then op.leavesUnsealed since system.unsealed else system.unsealed }
  | finish (before after : List Work) (work : Work)
      (position : system.running = before ++ work :: after)
      (ended : ∀ op next, work.program ≠ .request op next) :
      SystemStep system none { system with running := before ++ after }

def System.deletionAllowed (system : System) (kind : DeletionKind) : Except StateError Unit :=
  Backup.deletionAllowed system.state.seals system.state.agent.dirtyApps kind

/-- The newest row of `seals` is a completed one. -/
def SealAgent.newestSealed (state : SealAgent) : Bool :=
  (latestSeal state.seals).any fun row => row.state = .sealed

/-- No file event is recorded while the newest seal is a completed one, nor between the time a
seal takes up an app and the time it is recorded. -/
def Uneventful (system : System) : Option (SealOp × List AgentOp) → Prop
  | some (.agent op, _) => op.isFileEvent = true → system.state.newestSealed = false
  | some (.recordSeal _, since) => since = []
  | _ => True

def SystemSteps (allowed : System → Option (SealOp × List AgentOp) → Prop) :
    System → System → Prop :=
  Relation.ReflTransGen fun system later => ∃ op, allowed system op ∧ SystemStep system op later

/-- Where safe deletion is allowed, no app is dirty or has a pending mutation by an event that
came after the last seal had taken it up. -/
def System.DeletesSafely (system : System) : Prop :=
  system.deletionAllowed .safe = .ok () →
    ∀ op ∈ system.unsealed, ¬ op.leavesEvidence system.state.agent

theorem deletionAllowed_safe (system : System) :
    system.deletionAllowed .safe = .ok () ↔ system.state.newestSealed = true := by
  unfold System.deletionAllowed Backup.deletionAllowed SealAgent.newestSealed
  simp only [SealState.allowsAutomaticDelete, ite_self]
  split <;> simp_all

/-- After a completed seal every file event has been taken up by it. -/
def System.Settled (system : System) : Prop :=
  system.state.newestSealed = true → system.unsealed = []

theorem step_settled {system later : System} {op : Option (SealOp × List AgentOp)}
    (settled : system.Settled) (quiet : Uneventful system op) (step : SystemStep system op later) :
    later.Settled := by
  cases step with
  | start work => exact settled
  | finish before after work position ended => exact settled
  | event op file =>
      intro sealed
      have open_before : system.state.newestSealed = false := quiet file
      have still : system.state.newestSealed = true := sealed
      rw [open_before] at still
      cases still
  | request before after op next since position reply state replied effect took =>
      cases effect with
      | false =>
          intro sealed
          dsimp only at sealed
          rw [took] at sealed
          exact settled sealed
      | true =>
          intro sealed
          dsimp only at sealed ⊢
          rw [took, if_pos rfl] at sealed
          cases op with
          | recordSeal record => exact quiet
          | agent op =>
              have before : system.state.newestSealed = true := sealed
              have none : SealOp.fileEvents (.agent op) = [] := by
                apply if_neg
                intro file
                rw [quiet file] at before
                cases before
              show system.unsealed ++ SealOp.fileEvents (.agent op) = []
              rw [settled before, none]
              rfl
          | _ =>
              have before : system.state.newestSealed = true := sealed
              show system.unsealed ++ [] = []
              rw [settled before]
              rfl

/-- As long as no file event comes after a seal has taken up its app, in every state that
backups, seals and their failures can reach, safe deletion loses nothing. -/
theorem safe_deletion_keeps_events (state : SealAgent) (system : System)
    (steps : SystemSteps Uneventful { state := state } system) : system.DeletesSafely := by
  have settled : system.Settled := by
    induction steps with
    | refl => exact fun _ => rfl
    | tail _ last ih =>
        obtain ⟨op, quiet, step⟩ := last
        exact step_settled ih quiet step
  intro allowed op member
  rw [settled ((deletionAllowed_safe system).mp allowed)] at member
  cases member

def System.proceed (system : System) : System :=
  match system.running with
  | ⟨.request op next, since⟩ :: after =>
      { state := system.state.after op
        running := (⟨next (system.state.answer op), op.takesUp (system.state.answer op) since⟩ ::
          after).map fun work => work.hear op.fileEvents
        unsealed := op.leavesUnsealed since system.unsealed }
  | _ => system

def System.passes (check : SealOp → List AgentOp → Bool) (system : System) : Bool :=
  match system.running with
  | ⟨.request op _, since⟩ :: _ => check op since
  | _ => true

theorem proceed_step {allowed : System → Option (SealOp × List AgentOp) → Prop}
    {check : SealOp → List AgentOp → Bool}
    (sound : ∀ system op since, check op since = true → allowed system (some (op, since)))
    (system : System) (passed : system.passes check = true) :
    SystemSteps allowed system system.proceed := by
  unfold System.passes at passed
  unfold System.proceed
  split
  · rename_i op next since after position
    rw [position] at passed
    apply Relation.ReflTransGen.single
    refine ⟨some (op, since), sound _ _ _ passed, ?_⟩
    exact SystemStep.request [] after op next since position _ _ Reply.proceed true rfl
  · exact Relation.ReflTransGen.refl

theorem proceed_steps {allowed : System → Option (SealOp × List AgentOp) → Prop}
    {check : SealOp → List AgentOp → Bool}
    (sound : ∀ system op since, check op since = true → allowed system (some (op, since)))
    (count : Nat) (system : System)
    (passed : ∀ index < count, (System.proceed^[index] system).passes check = true) :
    SystemSteps allowed system (System.proceed^[count] system) := by
  induction count with
  | zero => exact Relation.ReflTransGen.refl
  | succ count ih =>
      rw [Function.iterate_succ_apply']
      exact (ih fun index fewer => passed index (Nat.lt_succ_of_lt fewer)).trans
        (proceed_step sound _ (passed count (Nat.lt_succ_self count)))

namespace Sample

def sealUuid : Uuid := ⟨"00000000-0000-4000-8000-000000000001", Eq.refl true⟩

def idleAgent : SealAgent :=
  { agent :=
      { tree := fun _ => none
        stores := fun _ => {}
        uuids := fun _ => sealUuid
        clock := fun n => n
        weather :=
          { writes := fun _ => []
            walked := fun _ => []
            reclassified := fun _ rows => rows
            steamManifest := fun _ => none
            fed := fun _ => none } } }

def sealCall : SealCall :=
  { instanceId := sealUuid
    imageId := "image"
    backupOf := fun appId =>
      { app := { appId := appId, displayName := "Game" }
        instanceId := sealUuid
        mode := .personalState
        performance := .balanced
        storage := "local"
        roots := LogicalRootMap.fromHome "/home/gamer"
        decide := fun _ _ _ => .include
        packing := { compressed := fun _ => none, nonce := fun _ _ => [] }
        chunker := { fileHash := fun _ => "", chunks := fun _ => [] } } }

def gameDirty : AgentOp := .markDirtyApp ⟨"game"⟩ false

def quietly : SealOp → List AgentOp → Bool
  | .agent op, _ => !op.isFileEvent
  | .recordSeal _, since => since.isEmpty
  | _, _ => true

def sealing : System :=
  { state := idleAgent
    running := [⟨(SealWork.sealing sealCall).program, []⟩] }

def played (system : System) : System :=
  { state := system.state.after (.agent gameDirty)
    running := system.running.map fun work => work.hear [gameDirty]
    unsealed := system.unsealed ++ [gameDirty] }

/-- The event comes after this many of the sixteen steps of the seal. -/
def playedAfter (before : Nat) : System :=
  System.proceed^[16 - before] (played (System.proceed^[before] sealing))

end Sample

theorem quietly_uneventful (system : System) (op : SealOp) (since : List AgentOp)
    (checked : Sample.quietly op since = true) : Uneventful system (some (op, since)) := by
  cases op with
  | agent op =>
      intro file
      simp [Sample.quietly, file] at checked
  | recordSeal record => exact List.isEmpty_iff.mp checked
  | _ => trivial

theorem sealing_started (allowed : System → Option (SealOp × List AgentOp) → Prop)
    (free : ∀ system, allowed system none) :
    SystemSteps allowed { state := Sample.idleAgent } Sample.sealing :=
  Relation.ReflTransGen.single ⟨none, free _, .start (.sealing Sample.sealCall)⟩

theorem safe_deletion_keeps_events_sealed :
    ∃ system, SystemSteps Uneventful { state := Sample.idleAgent } system ∧
      system.deletionAllowed .safe = .ok () ∧ system.DeletesSafely := by
  have run := (sealing_started Uneventful fun _ => trivial).trans
    (proceed_steps quietly_uneventful 16 Sample.sealing (by decide))
  exact ⟨_, run, rfl, safe_deletion_keeps_events Sample.idleAgent _ run⟩

theorem playedAfter_steps (before : Nat) :
    SystemSteps (fun _ _ => True) { state := Sample.idleAgent } (Sample.playedAfter before) := by
  have free : ∀ count system, SystemSteps (fun _ _ => True) system
      (System.proceed^[count] system) := fun count system =>
    @proceed_steps (fun _ _ => True) (fun _ _ => true) (fun _ _ _ _ => trivial) count system
      fun index _ => by
        unfold System.passes
        split <;> rfl
  have event : ∀ system : System, SystemSteps (fun _ _ => True) system (Sample.played system) :=
    fun _ => Relation.ReflTransGen.single ⟨_, trivial, .event Sample.gameDirty rfl⟩
  exact (((sealing_started (fun _ _ => True) fun _ => trivial).trans
    (free before Sample.sealing)).trans (event _)).trans (free (16 - before) _)

/-- A file event after a seal, or after the seal has looked at the dirty apps, then a deletion. -/
theorem deletion_after_event :
    (SystemSteps (fun _ _ => True) { state := Sample.idleAgent } (Sample.playedAfter 16) ∧
      ¬ (Sample.playedAfter 16).DeletesSafely) ∧
    SystemSteps (fun _ _ => True) { state := Sample.idleAgent } (Sample.playedAfter 14) ∧
      ¬ (Sample.playedAfter 14).DeletesSafely := by
  refine ⟨⟨playedAfter_steps 16, fun safe => ?_⟩, playedAfter_steps 14, fun safe => ?_⟩
  · exact safe rfl Sample.gameDirty List.mem_cons_self
      ⟨⟨⟨"game"⟩, false⟩, List.mem_cons_self, rfl⟩
  · exact safe rfl Sample.gameDirty List.mem_cons_self
      ⟨⟨⟨"game"⟩, false⟩, List.mem_cons_self, rfl⟩

end Noland.Backup
