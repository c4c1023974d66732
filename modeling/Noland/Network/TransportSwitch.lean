import Noland.Network.TurnManager

/-!
`switch_inner` prepares a profile on the host, changes the tunnel, validates it and commits the
profile; on a failure it undoes what it has done and records the transition as failed. Every
request may be lost on its way or on its way back. A target is prepared by code that this model
takes as given. The host looks for an expired lease before each request, with a clock that may
show anything.
-/

namespace Noland.Network

open Noland.Core Noland.Requests

inductive TransitionPhase where
  | idle
  | validatingTarget
  | applyingEndpoint
  | validatingTunnel
  | committing
  | rollingBack
  | completed
  | failed
  deriving DecidableEq

inductive TransitionErrorCode where
  | controlOperationFailed
  | helperUnavailable
  | targetValidationFailed
  | tunnelValidationFailed
  | rollbackFailed
  deriving DecidableEq

structure TransitionError where
  code : TransitionErrorCode
  message : String
  deriving DecidableEq

structure ConnectionTransition where
  transitionId : Uuid
  requestedTransport : TransportKind
  previousTransport : Option TransportKind
  effectiveTransport : Option TransportKind
  phase : TransitionPhase
  error : Option TransitionError := none
  deriving DecidableEq

/-- `InstanceNetworkState`, with the records of both paths side by side. -/
structure InstanceNetwork where
  activeTransport : Option TransportKind := none
  connectionProfile : Option ConnectionProfile := none
  lastTransition : Option ConnectionTransition := none
  directMtu : Option Nat := none
  turnMtu : Option Nat := none
  turnEnabled : Bool := false
  relayEndpoint : Option NetworkEndpoint := none
  allocationGeneration : Nat := 0
  deriving DecidableEq

/-- `generation` is that of the relay metadata. -/
structure TargetPlan where
  endpoint : NetworkEndpoint
  effectiveMtu : Nat
  generation : Option Nat := none
  packetLimits : PacketLimits := {}
  deriving DecidableEq

inductive NetworkUpdate where
  | start (transition : ConnectionTransition)
  | phase (transitionId : Uuid) (phase : TransitionPhase) (effective : Option TransportKind)
  | failed (transition : ConnectionTransition)
  | completed (transition : ConnectionTransition) (profile : ConnectionProfile) (target : TargetPlan)
  deriving DecidableEq

namespace InstanceNetwork

def setPhase (network : InstanceNetwork) (transitionId : Uuid) (phase : TransitionPhase)
    (effective : Option TransportKind) : InstanceNetwork :=
  { network with
    lastTransition := network.lastTransition.map fun transition =>
      if transition.transitionId = transitionId then
        { transition with phase := phase, effectiveTransport := effective, error := none }
      else transition }

def complete (network : InstanceNetwork) (transition : ConnectionTransition)
    (profile : ConnectionProfile) (target : TargetPlan) : InstanceNetwork :=
  let done := { network with
    activeTransport := some transition.requestedTransport
    connectionProfile := some profile
    lastTransition := some transition }
  match transition.requestedTransport with
  | .direct => { done with directMtu := some target.effectiveMtu }
  | .cloudflareTurn =>
      { done with
        relayEndpoint := some target.endpoint
        turnMtu := some target.effectiveMtu
        allocationGeneration := target.generation.getD network.allocationGeneration }

def apply (network : InstanceNetwork) : NetworkUpdate → InstanceNetwork
  | .start transition => { network with lastTransition := some transition }
  | .phase transitionId phase effective => network.setPhase transitionId phase effective
  | .failed transition => { network with lastTransition := some transition }
  | .completed transition profile target => network.complete transition profile target

end InstanceNetwork

/-- `endpoint` is `none` when the tunnel reports none that can be read; `generation` notes the
allocation that the tunnel was pointed at. -/
structure TunnelRuntime where
  endpoint : Option NetworkEndpoint
  mtu : Nat
  generation : Option Nat := none
  deriving DecidableEq

def Host.serve {Value : Type} (host : Host) (program : HostNetworkState → TurnProg Value) :
    Except String Value × Host :=
  match host.memory with
  | none => (.error "Host control is unavailable", host)
  | some state =>
      match (reconcileExpiredProfile state).eval turnHandler host with
      | (.error error, later) => (.error error, later)
      | (.ok current, later) => (program current).eval turnHandler later

def Host.allocate (host : Host) (allocation : Option (Nat × Option NetworkEndpoint)) : Host :=
  match allocation with
  | none => host
  | some (generation, endpoint) =>
      let allocate (state : HostNetworkState) : HostNetworkState :=
        { state with allocationGeneration := generation, relayEndpoint := endpoint }
      { host with memory := host.memory.map allocate, disk := host.disk.map allocate }

structure SwitchSite where
  network : InstanceNetwork
  tunnel : TunnelRuntime
  host : Host
  plan : Except String TargetPlan
  allocation : Option (Nat × Option NetworkEndpoint) := none
  time : Timestamp := 0

/-- `rollback` marks the commands of `rollback_tunnel`. -/
inductive SwitchOp where
  | loadState
  | checkConfig
  | persist (update : NetworkUpdate)
  | managedRuntime
  | prepareTarget
  | connect
  | getStatus
  | now
  | prepareConnectionProfile (wanted : PrepareConnectionProfileRequest)
  | commitConnectionProfile (named : ProfileRequest)
  | abortConnectionProfile (named : ProfileRequest)
  | setMtu (mtu : Nat) (rollback : Bool)
  | setPeerEndpoint (endpoint : NetworkEndpoint) (generation : Option Nat) (rollback : Bool)
  | validateTunnel (profile : ConnectionProfile)
  deriving DecidableEq

def SwitchOp.Ret : SwitchOp → Type
  | .loadState => InstanceNetwork
  | .managedRuntime => TunnelRuntime
  | .prepareTarget => TargetPlan
  | .getStatus => HostNetworkState
  | .now => Timestamp
  | .prepareConnectionProfile _ => PrepareConnectionProfileResponse
  | .commitConnectionProfile _ => HostLinkState
  | .abortConnectionProfile _ => HostLinkState
  | _ => Unit

def switchInterface : Interface := { Op := SwitchOp, Ret := SwitchOp.Ret }

abbrev SwitchProg := Prog switchInterface String

namespace SwitchSite

def serve {Value : Type} (site : SwitchSite) (program : HostNetworkState → TurnProg Value) :
    Except String Value × SwitchSite :=
  ((site.host.serve program).1, { site with host := (site.host.serve program).2 })

def act (site : SwitchSite) : (op : SwitchOp) → Except String op.Ret × SwitchSite
  | .loadState => (.ok site.network, site)
  | .checkConfig => (.ok (), site)
  | .persist update => (.ok (), { site with network := site.network.apply update })
  | .managedRuntime => (.ok site.tunnel, site)
  | .prepareTarget => (site.plan, { site with host := site.host.allocate site.allocation })
  | .connect => (.ok (), site)
  | .getStatus => site.serve fun state => .done state
  | .now => (.ok site.time, site)
  | .prepareConnectionProfile wanted => site.serve (prepareConnectionProfile wanted)
  | .commitConnectionProfile named => site.serve (commitConnectionProfile named)
  | .abortConnectionProfile named => site.serve (abortConnectionProfile named)
  | .setMtu mtu _ => (.ok (), { site with tunnel := { site.tunnel with mtu := mtu } })
  | .setPeerEndpoint endpoint generation _ =>
      (.ok (), { site with
        tunnel := { site.tunnel with endpoint := some endpoint, generation := generation } })
  | .validateTunnel _ => (.ok (), site)

end SwitchSite

def switchHandler : Handler switchInterface String SwitchSite where
  act op site := site.act op
  internal
    | .loadState | .now => true
    | _ => false

structure SwitchAttempt where
  instanceId : String
  requestedTransport : TransportKind
  previousTransport : Option TransportKind
  transitionId : Uuid
  operationId : Uuid
  createdAt : String
  deriving DecidableEq

structure PreviousTunnel where
  endpoint : NetworkEndpoint
  mtu : Nat
  generation : Option Nat
  deriving DecidableEq

namespace SwitchAttempt

def perform (op : SwitchOp) : SwitchProg op.Ret := @Prog.perform switchInterface String op

def observe (op : SwitchOp) : SwitchProg (Except String op.Ret) :=
  @Prog.observe switchInterface String op

variable (attempt : SwitchAttempt)

def transition (effective : Option TransportKind) (phase : TransitionPhase)
    (error : Option TransitionError) : ConnectionTransition :=
  { transitionId := attempt.transitionId
    requestedTransport := attempt.requestedTransport
    previousTransport := attempt.previousTransport
    effectiveTransport := effective
    phase := phase
    error := error }

def persistPhase (phase : TransitionPhase) (effective : Option TransportKind) : SwitchOp :=
  .persist (.phase attempt.transitionId phase effective)

/-- `persist_failed_transition`, and the error that is returned. -/
def refuse (code : TransitionErrorCode) (message error : String) : SwitchProg Unit := do
  perform (.persist (.failed
    (attempt.transition attempt.previousTransport .failed (some ⟨code, message⟩))))
  .throw error

def named (profile : ConnectionProfile) : ProfileRequest :=
  ⟨attempt.operationId, attempt.transitionId, profile.profileRevision⟩

end SwitchAttempt

def rollbackTunnel (previous : PreviousTunnel) : SwitchProg Unit := do
  SwitchAttempt.perform (.setPeerEndpoint previous.endpoint previous.generation true)
  SwitchAttempt.perform (.setMtu previous.mtu true)

namespace SwitchAttempt

variable (attempt : SwitchAttempt) (previous : PreviousTunnel) (target : TargetPlan)
  (profile : ConnectionProfile)

/-- The tunnel is rolled back and the profile aborted; neither has to succeed. -/
def undo : SwitchProg (Except String Unit) := do
  let rollback ← (rollbackTunnel previous).attempt
  let _ ← observe (.abortConnectionProfile (attempt.named profile))
  .done rollback

def commitTarget : SwitchProg Unit := do
  match ← observe (attempt.persistPhase .committing (some attempt.requestedTransport)) with
  | .error error => do
      let _ ← attempt.undo previous profile
      .throw error
  | .ok _ =>
      match ← observe (.commitConnectionProfile (attempt.named profile)) with
      | .error error => do
          let _ ← attempt.undo previous profile
          .throw error
      | .ok _ =>
          perform (.persist (.completed
            (attempt.transition (some attempt.requestedTransport) .completed none) profile target))

def validationError (error : String) : Except String Unit → TransitionError
  | .ok _ => ⟨.tunnelValidationFailed, error⟩
  | .error rollback =>
      ⟨.rollbackFailed,
        "target validation failed: " ++ error ++ "; rollback failed: " ++ rollback⟩

def validateTarget : SwitchProg Unit := do
  match ← observe (attempt.persistPhase .validatingTunnel attempt.previousTransport) with
  | .error error => do
      let _ ← attempt.undo previous profile
      .throw error
  | .ok _ =>
      match ← observe (.validateTunnel profile) with
      | .error error => do
          let _ ← observe (attempt.persistPhase .rollingBack attempt.previousTransport)
          let rollback ← attempt.undo previous profile
          attempt.refuse (validationError error rollback).code
            (validationError error rollback).message error
      | .ok _ => attempt.commitTarget previous target profile

def applyEndpoint : SwitchProg Unit := do
  match ← observe (.setPeerEndpoint target.endpoint target.generation false) with
  | .error error => do
      let _ ← attempt.undo previous profile
      attempt.refuse .helperUnavailable error error
  | .ok _ => attempt.validateTarget previous target profile

/-- A failed MTU change is aborted on the host but not rolled back in the tunnel. -/
def applyTarget : SwitchProg Unit := do
  perform (attempt.persistPhase .applyingEndpoint attempt.previousTransport)
  if target.effectiveMtu ≠ previous.mtu then
    match ← observe (.setMtu target.effectiveMtu false) with
    | .error error => do
        let _ ← observe (.abortConnectionProfile (attempt.named profile))
        attempt.refuse .helperUnavailable error error
    | .ok _ => attempt.applyEndpoint previous target profile
  else attempt.applyEndpoint previous target profile

def readbackMismatch (observed : Option Nat) : String :=
  "Host MTU readback mismatch: requested " ++ toString target.effectiveMtu ++ ", observed " ++
    (match observed with
      | some mtu => "Some(" ++ toString mtu ++ ")"
      | none => "None")

def wantedProfile (status : HostNetworkState) : ConnectionProfile :=
  { instanceId := attempt.instanceId
    profileRevision := saturatingSucc status.committedRevision
    transitionId := attempt.transitionId
    desiredTransport := attempt.requestedTransport
    endpoint := target.endpoint
    allocationGeneration := target.generation
    innerMtu := target.effectiveMtu
    packetLimits := { target.packetLimits with
      verifiedInnerMtu := some target.effectiveMtu
      observedClientMtu := some previous.mtu
      observedHostMtu := status.linkState.observedMtu }
    createdAt := attempt.createdAt }

def twoMinutes : Timestamp := 120000

def prepareRequest (time : Timestamp) : PrepareConnectionProfileRequest :=
  { operationId := attempt.operationId
    expectedProfileRevision := profile.profileRevision - 1
    leaseExpiresAt := some (time + twoMinutes)
    profile := profile }

def prepareHost : SwitchProg Unit := do
  let time : Timestamp ← perform .now
  let reply : Except String PrepareConnectionProfileResponse ←
    observe (.prepareConnectionProfile (attempt.prepareRequest profile time))
  match reply with
  | .ok prepared =>
      if prepared.linkState.observedMtu = some target.effectiveMtu then
        attempt.applyTarget previous target profile
      else do
        let _ ← observe (.abortConnectionProfile (attempt.named profile))
        .throw (readbackMismatch target prepared.linkState.observedMtu)
  | .error error => do
      let _ ← observe (.abortConnectionProfile (attempt.named profile))
      attempt.refuse .controlOperationFailed error error

/-- A status that cannot be read leaves the transition as it is. -/
def connectHost : SwitchProg Unit := do
  match ← observe .connect with
  | .error error =>
      attempt.refuse .controlOperationFailed
        ("Host profile transaction is unavailable: " ++ error) error
  | .ok _ => do
      let status : HostNetworkState ← perform .getStatus
      if status.instanceId ≠ attempt.instanceId then
        .throw "Host control returned a different instance identity"
      else attempt.prepareHost previous target (attempt.wantedProfile previous target status)

def chooseTarget : SwitchProg Unit := do
  match ← observe .prepareTarget with
  | .error error => attempt.refuse .targetValidationFailed error error
  | .ok target => attempt.connectHost previous target

/-- `switch_inner` after `persist_transition`. -/
def runTransition : SwitchProg Unit := do
  let reply : Except String TunnelRuntime ← observe .managedRuntime
  match reply with
  | .error error => attempt.refuse .helperUnavailable error error
  | .ok runtime =>
      match runtime.endpoint with
      | none => .throw "Managed tunnel reported an invalid endpoint"
      | some endpoint =>
          attempt.chooseTarget ⟨endpoint, max runtime.mtu 576, runtime.generation⟩

end SwitchAttempt

/-- `switch_inner`. -/
def switchInner (attempt : SwitchAttempt) (force : Bool) : SwitchProg Unit := do
  let network : InstanceNetwork ← SwitchAttempt.perform .loadState
  if force = false ∧ network.activeTransport = some attempt.requestedTransport then .done ()
  else do
    SwitchAttempt.perform .checkConfig
    let attempt := { attempt with previousTransport := network.activeTransport }
    SwitchAttempt.perform (.persist (.start
      (attempt.transition attempt.previousTransport .validatingTarget none)))
    attempt.runTransition

def Host.runsWith (host : Host) (kept : HostNetworkState → Prop) : Prop :=
  ∃ state, host.memory = some state ∧ kept state

/-- A property of the host's state that does not look at its link, its revision and its
allocation, and stays when a pending profile is dropped. -/
structure Calm (kept : HostNetworkState → Prop) : Prop where
  dropPending : ∀ state, kept state → kept state.dropPending
  observe : ∀ state mtu, kept state → kept (state.observe mtu)
  touch : ∀ state time, kept state → kept (state.touch time)
  allocate : ∀ state generation endpoint, kept state →
    kept { state with allocationGeneration := generation, relayEndpoint := endpoint }

def remembers (kept : HostNetworkState → Prop) : TurnOp → Prop
  | .remember state => kept state
  | _ => True

section HostRequests

variable {kept : HostNetworkState → Prop} {state : HostNetworkState} {Value : Type}

theorem remembers_act {op : TurnOp} (remembered : remembers kept op) {host : Host}
    (runs : host.runsWith kept) : (turnHandler.act op host).2.runsWith kept := by
  cases op with
  | remember state => exact ⟨state, rfl, remembered⟩
  | setMtu mtu =>
      show (host.setMtu mtu).2.runsWith kept
      unfold Host.setMtu
      split
      · exact runs
      · exact runs
  | now | getMtu | persistState | loadPreviousState => exact runs

theorem request_uses {op : TurnOp} (remembered : remembers kept op) :
    (request op).Uses (remembers kept) (fun _ => True) fun _ => True :=
  ⟨remembered, fun reply _ => by cases reply <;> trivial⟩

theorem tryRequest_uses {op : TurnOp} (remembered : remembers kept op) :
    (tryRequest op).Uses (remembers kept) (fun _ => True) fun _ => True :=
  ⟨remembered, fun _ _ => trivial⟩

theorem withContext_uses {op : TurnOp} (remembered : remembers kept op) (text : String) :
    (withContext op text).Uses (remembers kept) (fun _ => True) fun _ => True := by
  apply Prog.Uses.bind (tryRequest_uses remembered)
  intro reply _
  cases reply <;> trivial

theorem rollbackPending_uses (calm : Calm kept) (holds : kept state)
    (pending : PendingConnectionProfile) (text : String) :
    (rollbackPending state pending text).Uses (remembers kept) (fun _ => True) kept := by
  apply Prog.Uses.bind (withContext_uses (by trivial) text)
  intro _ _
  apply Prog.Uses.bind (request_uses (by trivial))
  intro time _
  have restored : kept ((state.dropPending.observe pending.previousMtu).touch time) :=
    calm.touch _ _ (calm.observe _ _ (calm.dropPending _ holds))
  apply Prog.Uses.bind (request_uses (by exact restored))
  intro _ _
  apply Prog.Uses.bind (request_uses (by trivial))
  intro _ _
  exact restored

theorem reconcileExpiredProfile_uses (calm : Calm kept) (holds : kept state) :
    (reconcileExpiredProfile state).Uses (remembers kept) (fun _ => True) kept := by
  unfold reconcileExpiredProfile
  split
  · exact holds
  · apply Prog.Uses.bind (request_uses (by trivial))
    intro time _
    split
    · exact rollbackPending_uses calm holds _ _
    · exact holds

theorem ofExcept_uses {α : Type} (result : Except String α) :
    (Prog.ofExcept result : TurnProg α).Uses (remembers kept) (fun _ => True) fun _ => True := by
  cases result <;> trivial

theorem abortConnectionProfile_uses (calm : Calm kept) (holds : kept state)
    (named : ProfileRequest) :
    (abortConnectionProfile named state).Uses (remembers kept) (fun _ => True) fun _ => True := by
  unfold abortConnectionProfile
  split
  · trivial
  · split
    · apply Prog.Uses.bind (rollbackPending_uses calm holds _ _)
      intro _ _
      trivial
    · trivial

theorem startPrepared_uses (calm : Calm kept) (holds : kept state)
    (wanted : PrepareConnectionProfileRequest)
    (journals : ∀ state previousMtu time lease, kept state →
      kept (journalPrepared state wanted previousMtu time lease)) (time lease : Timestamp) :
    (startPrepared state wanted time lease).Uses (remembers kept) (fun _ => True)
      fun _ => True := by
  apply Prog.Uses.bind (ofExcept_uses _)
  intro _ _
  apply Prog.Uses.bind (request_uses (by trivial))
  intro previousMtu _
  have prepared := journals state previousMtu time lease holds
  apply Prog.Uses.bind (request_uses (by exact prepared))
  intro _ _
  apply Prog.Uses.bind (request_uses (by trivial))
  intro _ _
  apply Prog.Uses.bind (tryRequest_uses (by trivial))
  intro reply _
  cases reply with
  | error error =>
      apply Prog.Uses.bind (request_uses (by trivial))
      intro later _
      apply Prog.Uses.bind (request_uses (by exact calm.touch _ _ (calm.dropPending _ prepared)))
      intro _ _
      exact Prog.Uses.bind (tryRequest_uses (by trivial)) fun _ _ => trivial
  | ok value =>
      apply Prog.Uses.bind (request_uses (by trivial))
      intro observed _
      apply Prog.Uses.bind (request_uses (by trivial))
      intro later _
      apply Prog.Uses.bind (request_uses (by exact calm.touch _ _ (calm.observe _ _ prepared)))
      intro _ _
      exact Prog.Uses.bind (request_uses (by trivial)) fun _ _ => trivial

theorem prepareConnectionProfile_uses (calm : Calm kept) (holds : kept state)
    (wanted : PrepareConnectionProfileRequest)
    (journals : ∀ state previousMtu time lease, kept state →
      kept (journalPrepared state wanted previousMtu time lease)) :
    (prepareConnectionProfile wanted state).Uses (remembers kept) (fun _ => True)
      fun _ => True := by
  apply Prog.Uses.bind (ofExcept_uses _)
  intro _ _
  apply Prog.Uses.bind (ofExcept_uses _)
  intro lease _
  apply Prog.Uses.bind (request_uses (by trivial))
  intro time _
  split
  · trivial
  · apply Prog.Uses.bind (reconcileExpiredProfile_uses calm holds)
    intro current kept
    split
    · trivial
    · split
      · split <;> trivial
      · exact startPrepared_uses calm kept wanted journals time lease

theorem eval_remembers {program : TurnProg Value} {post : Value → Prop}
    (uses : program.Uses (remembers kept) (fun _ => True) post) {host : Host}
    (runs : host.runsWith kept) : (program.eval turnHandler host).2.runsWith kept := by
  have keeps (op : TurnOp) (used : remembers kept op) (host : Host)
      (before : (fun host => Host.runsWith host kept) host) :
      (fun host => Host.runsWith host kept) (turnHandler.act op host).2 :=
    remembers_act used before
  exact uses.eval_keeps keeps runs

theorem serve_keeps (calm : Calm kept) {program : HostNetworkState → TurnProg Value}
    (uses : ∀ state, kept state →
      (program state).Uses (remembers kept) (fun _ => True) fun _ => True) {host : Host}
    (runs : host.runsWith kept) : (host.serve program).2.runsWith kept := by
  obtain ⟨state, held, holds⟩ := runs
  have before : host.runsWith kept := ⟨state, held, holds⟩
  have reconciles := reconcileExpiredProfile_uses calm holds
  have later := eval_remembers reconciles before
  have value := reconciles.eval_post turnHandler host
  unfold Host.serve
  rw [held]
  dsimp only
  split
  · rename_i found
    rw [found] at later
    exact later
  · rename_i current after found
    rw [found] at later value
    exact eval_remembers (uses current (value current rfl)) later

theorem commitPending_eval (state : HostNetworkState) (pending : PendingConnectionProfile)
    (named : ProfileRequest) {host : Host} (runs : host.runsWith kept) :
    (∀ link, ((commitPending state pending named).eval turnHandler host).1 = .ok link →
      ((commitPending state pending named).eval turnHandler host).2.runsWith fun later =>
        later.committedProfile = some pending.profile) ∧
    (∀ error, ((commitPending state pending named).eval turnHandler host).1 = .error error →
      ((commitPending state pending named).eval turnHandler host).2.runsWith kept) := by
  have moved : (commitPending state pending named).eval turnHandler host =
      (if host.mtu ≠ pending.profile.innerMtu then
        (.throw ("host MTU changed before commit: expected " ++
          toString pending.profile.innerMtu ++ ", observed " ++ toString host.mtu) : TurnProg _)
      else do
        let time : Timestamp ← request .now
        let committed := committedState state pending named.operationId host.mtu time
        request (.persistState committed)
        request (.remember committed)
        .done committed.linkState).eval turnHandler host := rfl
  rw [moved]
  split
  · exact ⟨nofun, fun _ _ => runs⟩
  · exact ⟨fun _ _ => ⟨_, rfl, rfl⟩, nofun⟩

theorem commit_eval (calm : Calm kept) {named : ProfileRequest} {host : Host} (holds : kept state)
    (runs : host.runsWith kept)
    (uncommitted : ∀ state, kept state → alreadyCommitted state named = false) :
    (∀ link, ((commitConnectionProfile named state).eval turnHandler host).1 = .ok link →
      ∃ before pending, kept before ∧ before.pendingProfile = some pending ∧
        named.names pending = true ∧
        ((commitConnectionProfile named state).eval turnHandler host).2.runsWith fun later =>
          later.committedProfile = some pending.profile) ∧
    (∀ error, ((commitConnectionProfile named state).eval turnHandler host).1 = .error error →
      ((commitConnectionProfile named state).eval turnHandler host).2.runsWith kept) := by
  have reconciles := reconcileExpiredProfile_uses calm holds
  have later := eval_remembers reconciles runs
  have value := reconciles.eval_post turnHandler host
  simp only [commitConnectionProfile, eval_bind]
  split
  · rename_i current after found
    rw [found] at later value
    have kept := value current rfl
    rw [if_neg (by rw [uncommitted current kept]; exact Bool.false_ne_true)]
    split
    · exact ⟨nofun, fun _ _ => later⟩
    · rename_i pending pends
      split
      · rename_i names
        obtain ⟨succeeds, fails⟩ := commitPending_eval current pending named later
        exact ⟨fun link done => ⟨current, pending, kept, pends, names, succeeds link done⟩, fails⟩
      · exact ⟨nofun, fun _ _ => later⟩
  · rename_i found
    rw [found] at later
    exact ⟨nofun, fun _ _ => later⟩

theorem commit_serve (calm : Calm kept) {named : ProfileRequest} {host : Host}
    (runs : host.runsWith kept)
    (uncommitted : ∀ state, kept state → alreadyCommitted state named = false) :
    (∀ link, (host.serve (commitConnectionProfile named)).1 = .ok link →
      ∃ before pending, kept before ∧ before.pendingProfile = some pending ∧
        named.names pending = true ∧
        (host.serve (commitConnectionProfile named)).2.runsWith fun later =>
          later.committedProfile = some pending.profile) ∧
    (∀ error, (host.serve (commitConnectionProfile named)).1 = .error error →
      (host.serve (commitConnectionProfile named)).2.runsWith kept) := by
  obtain ⟨state, held, holds⟩ := runs
  have before : host.runsWith kept := ⟨state, held, holds⟩
  have reconciles := reconcileExpiredProfile_uses calm holds
  have later := eval_remembers reconciles before
  have value := reconciles.eval_post turnHandler host
  unfold Host.serve
  rw [held]
  dsimp only
  split
  · rename_i found
    rw [found] at later
    exact ⟨nofun, fun _ _ => later⟩
  · rename_i current after found
    rw [found] at later value
    exact commit_eval calm (value current rfl) later uncommitted

end HostRequests

abbrev SwitchEvent := Event switchInterface String

/-- Every run from a site in `pre` whose events are allowed ends as described, if it is not
stopped. -/
def Ends {Value : Type} (allow : SwitchSite → SwitchEvent → SwitchSite → Prop)
    (pre : SwitchSite → Prop) (program : SwitchProg Value) (post : Value → SwitchSite → Prop)
    (fail : SwitchSite → Prop) : Prop :=
  Triple switchHandler (fun config event later => allow config.state event later)
    (fun config => pre config.state) program (fun value config => post value config.state)
    (fun config => fail config.state) fun _ => True

section Ends

variable {Value Result : Type} {allow : SwitchSite → SwitchEvent → SwitchSite → Prop}
  {pre fail : SwitchSite → Prop} {post : Value → SwitchSite → Prop}

theorem Ends.done {value : Value} (holds : ∀ site, pre site → post value site) :
    Ends allow pre (.done value) post fail :=
  Triple.done fun config => holds config.state

theorem Ends.throw {error : String} (holds : ∀ site, pre site → fail site) :
    Ends allow pre (.throw error) post fail :=
  Triple.throw fun config => holds config.state

theorem Ends.bind {program : SwitchProg Result} {f : Result → SwitchProg Value}
    (middle : Result → SwitchSite → Prop) (first : Ends allow pre program middle fail)
    (second : ∀ value, Ends allow (middle value) (f value) post fail) :
    Ends allow pre (program >>= f) post fail :=
  Triple.bind (fun value config => middle value config.state) first second

theorem Ends.observe {op : SwitchOp} {next : Except String op.Ret → SwitchProg Value}
    (middle : Except String op.Ret → SwitchSite → Prop)
    (answers : ∀ site reply later, pre site → Reply switchHandler op site reply later →
      allow site ⟨op, reply⟩ later → middle reply later)
    (continues : ∀ reply, Ends allow (middle reply) (next reply) post fail) :
    Ends allow pre (SwitchAttempt.observe op >>= next) post fail := by
  apply Ends.bind middle _ continues
  apply Triple.observe fun _ _ => trivial
  intro config reply later before replied allowed
  exact answers config.state reply later before replied allowed

theorem Ends.perform {op : SwitchOp} {next : op.Ret → SwitchProg Value}
    (middle : op.Ret → SwitchSite → Prop)
    (succeeds : ∀ site value later, pre site → Reply switchHandler op site (.ok value) later →
      allow site ⟨op, .ok value⟩ later → middle value later)
    (fails : ∀ site error later, pre site → Reply switchHandler op site (.error error) later →
      allow site ⟨op, .error error⟩ later → fail later)
    (continues : ∀ value, Ends allow (middle value) (next value) post fail) :
    Ends allow pre (SwitchAttempt.perform op >>= next) post fail := by
  apply Ends.bind middle _ continues
  apply Triple.perform fun _ _ => trivial
  · intro config value later before replied allowed
    exact succeeds config.state value later before replied allowed
  · intro config error later before replied allowed
    exact fails config.state error later before replied allowed

theorem Ends.observe_keeping {op : SwitchOp} {next : Except String op.Ret → SwitchProg Value}
    (keeps : ∀ site reply later, pre site → Reply switchHandler op site reply later → pre later)
    (continues : ∀ reply, Ends allow pre (next reply) post fail) :
    Ends allow pre (SwitchAttempt.observe op >>= next) post fail := by
  apply Ends.observe (fun _ => pre) _ continues
  intro site reply later before replied _
  exact keeps site reply later before replied

theorem Ends.perform_keeping {op : SwitchOp} {next : op.Ret → SwitchProg Value}
    (keeps : ∀ site reply later, pre site → Reply switchHandler op site reply later → pre later)
    (fails : ∀ site, pre site → fail site)
    (continues : ∀ value, Ends allow pre (next value) post fail) :
    Ends allow pre (SwitchAttempt.perform op >>= next) post fail := by
  apply Ends.perform (fun _ => pre) _ _ continues
  · intro site value later before replied _
    exact keeps site _ later before replied
  · intro site error later before replied _
    exact fails later (keeps site _ later before replied)

theorem Ends.last {op : SwitchOp} {post : op.Ret → SwitchSite → Prop}
    (succeeds : ∀ site value later, pre site → Reply switchHandler op site (.ok value) later →
      allow site ⟨op, .ok value⟩ later → post value later)
    (fails : ∀ site error later, pre site → Reply switchHandler op site (.error error) later →
      allow site ⟨op, .error error⟩ later → fail later) :
    Ends allow pre (SwitchAttempt.perform op) post fail := by
  apply Triple.perform fun _ _ => trivial
  · intro config value later before replied allowed
    exact succeeds config.state value later before replied allowed
  · intro config error later before replied allowed
    exact fails config.state error later before replied allowed

variable {program : SwitchProg Value}

theorem Ends.weaken {pre' fail' : SwitchSite → Prop} {post' : Value → SwitchSite → Prop}
    (ends : Ends allow pre program post fail) (before : ∀ site, pre' site → pre site)
    (after : ∀ value site, post value site → post' value site)
    (fails : ∀ site, fail site → fail' site) : Ends allow pre' program post' fail' :=
  Triple.weaken ends (fun config => before config.state) (fun value config => after value config.state)
    (fun config => fails config.state) fun _ _ => trivial

theorem Ends.of_pre {pre' : SwitchSite → Prop} (ends : Ends allow pre program post fail)
    (before : ∀ site, pre' site → pre site) : Ends allow pre' program post fail :=
  ends.weaken before (fun _ _ after => after) fun _ failed => failed

theorem Ends.to_post {post' : Value → SwitchSite → Prop} (ends : Ends allow pre program post fail)
    (after : ∀ value site, post value site → post' value site) :
    Ends allow pre program post' fail :=
  ends.weaken (fun _ before => before) after fun _ failed => failed

theorem Ends.learn {fact : Prop} (holds : ∀ site, pre site → fact)
    (knowing : fact → Ends allow pre program post fail) : Ends allow pre program post fail :=
  Triple.learn (fun config => holds config.state) knowing

end Ends

def rollsBack (event : SwitchEvent) : Prop :=
  match event with
  | ⟨.setMtu _ true, .error _⟩ => False
  | ⟨.setPeerEndpoint _ _ true, .error _⟩ => False
  | _ => True

def PreviousTunnel.runtime (previous : PreviousTunnel) : TunnelRuntime :=
  ⟨some previous.endpoint, previous.mtu, previous.generation⟩

theorem rollbackTunnel_ends {allow : SwitchSite → SwitchEvent → SwitchSite → Prop}
    (rolls : ∀ site event later, allow site event later → rollsBack event)
    (previous : PreviousTunnel) {kept : SwitchSite → Prop}
    (keeps : ∀ site tunnel, kept site → kept { site with tunnel := tunnel }) :
    Ends allow kept (rollbackTunnel previous)
      (fun _ site => kept site ∧ site.tunnel = previous.runtime) fun _ => False := by
  apply Ends.perform fun _ site => kept site ∧ ∃ mtu, site.tunnel =
    ⟨some previous.endpoint, mtu, previous.generation⟩
  · intro site value later holds replied _
    obtain ⟨_, rfl⟩ := replied.of_ok
    exact ⟨keeps site _ holds, site.tunnel.mtu, rfl⟩
  · intro site error later _ _ allowed
    exact rolls _ _ _ allowed
  · intro _
    apply Ends.last
    · rintro site value later ⟨holds, mtu, pointed⟩ replied _
      obtain ⟨_, rfl⟩ := replied.of_ok
      refine ⟨keeps site _ holds, ?_⟩
      show { site.tunnel with mtu := previous.mtu } = _
      rw [pointed]
      rfl
    · intro site error later _ _ allowed
      exact rolls _ _ _ allowed

theorem SwitchAttempt.undo_ends {allow : SwitchSite → SwitchEvent → SwitchSite → Prop}
    (rolls : ∀ site event later, allow site event later → rollsBack event)
    (attempt : SwitchAttempt) (previous : PreviousTunnel) (profile : ConnectionProfile)
    {kept aborted : SwitchSite → Prop}
    (keeps : ∀ site tunnel, kept site → kept { site with tunnel := tunnel })
    (aborts : ∀ site reply later, kept site → site.tunnel = previous.runtime →
      Reply switchHandler (.abortConnectionProfile (attempt.named profile)) site reply later →
      allow site ⟨.abortConnectionProfile (attempt.named profile), reply⟩ later →
      aborted later) :
    Ends allow kept (attempt.undo previous profile)
      (fun rollback site => rollback = .ok () ∧ aborted site) fun _ => False := by
  apply Ends.bind fun rollback site => rollback = .ok () ∧ kept site ∧
    site.tunnel = previous.runtime
  · refine Triple.attempt (rollbackTunnel_ends rolls previous keeps) ?_ ?_
    · intro _ config restored
      exact ⟨rfl, restored⟩
    · intro _ config impossible
      exact impossible.elim
  · intro rollback
    apply Ends.observe fun _ site => rollback = .ok () ∧ aborted site
    · rintro site reply later ⟨done, holds, restored⟩ replied allowed
      exact ⟨done, aborts site reply later holds restored replied allowed⟩
    · intro _
      exact Ends.done fun _ holds => holds

namespace SwitchSample

def transitionId : Uuid := ⟨"3f2b7c1e-6a4d-4e8f-9b0c-1d2e3f405162", Eq.refl true⟩

def operationId : Uuid := ⟨"7c9e6679-7425-40de-944b-e07fc1f90ae7", Eq.refl true⟩

def earlierId : Uuid := ⟨"0b8e2a52-7d34-4c8e-9a51-64f1c2d3e4f5", Eq.refl true⟩

def direct : NetworkEndpoint := ⟨"198.51.100.7", 51820⟩

def relay : NetworkEndpoint := ⟨"203.0.113.9", 40002⟩

def earlierProfile : ConnectionProfile :=
  { instanceId := "41"
    profileRevision := 1
    transitionId := earlierId
    desiredTransport := .direct
    endpoint := direct
    innerMtu := 1420
    createdAt := "2024-05-01T12:00:00Z" }

def hostState : HostNetworkState :=
  { hostRevision := 5
    updatedAt := 1000
    instanceId := "41"
    allocationGeneration := 3
    relayEndpoint := some relay
    observedTransport := some .direct
    linkState := ⟨"wg0", some 1420, 1, none, some .direct⟩
    committedProfile := some earlierProfile
    committedOperationId := some earlierId
    pendingProfile := none }

def site : SwitchSite :=
  { network :=
      { activeTransport := some .direct
        connectionProfile := some earlierProfile
        turnEnabled := true }
    tunnel := ⟨some direct, 1420, none⟩
    host := { memory := some hostState, disk := some hostState, mtu := 1420, clock := fun _ => 2000 }
    plan := .ok { endpoint := relay, effectiveMtu := 1200, generation := some 3 }
    time := 2000 }

def attempt : SwitchAttempt :=
  { instanceId := "41"
    requestedTransport := .cloudflareTurn
    previousTransport := some .direct
    transitionId := transitionId
    operationId := operationId
    createdAt := "2024-05-01T12:30:00Z" }

end SwitchSample

end Noland.Network
