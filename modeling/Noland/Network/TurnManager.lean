import Noland.Lib.Requests
import Noland.Lib.Text
import Noland.Core.Manifest
import Noland.Network.Evaluation

/-!
A prepared profile is journaled together with the MTU it replaces, and a commit makes it the
committed one. A profile that is neither committed nor aborted in time expires, and one that is
left by a process that stopped is rolled back at the next start. The state is kept in memory, in a
file and in the MTU of the interface. Texts of times are modelled by the time they stand for; one
that is not well formed stands for none.
-/

namespace Noland.Network

open Noland.Core Noland.Text Noland.Requests

structure NetworkEndpoint where
  host : String
  port : Nat
  deriving DecidableEq

def NetworkEndpoint.validate (endpoint : NetworkEndpoint) : Except String Unit :=
  if trim endpoint.host.toList = [] then .error "endpoint host must not be empty"
  else if endpoint.host.toList.head? = some '[' ∨ endpoint.host.toList.getLast? = some ']' then
    .error "endpoint host must not persist IPv6 brackets"
  else if endpoint.port = 0 then .error "endpoint port must not be zero"
  else .ok ()

inductive MeasurementMethod where
  | unverified
  | configuredFallback
  | authenticatedProbe
  | packetizationLayerProbe
  deriving DecidableEq

/-- A confidence that is not finite is `none`. -/
structure PacketLimits where
  forwardPayloadCeiling : Option Nat := none
  reversePayloadCeiling : Option Nat := none
  verifiedInnerMtu : Option Nat := none
  observedClientMtu : Option Nat := none
  observedHostMtu : Option Nat := none
  confidence : Option ℚ := some 0
  measurementMethod : MeasurementMethod := .unverified
  deriving DecidableEq

def connectionProfileSchemaVersion : Nat := 1

structure ConnectionProfile where
  schemaVersion : Nat := connectionProfileSchemaVersion
  instanceId : String
  profileRevision : Nat
  transitionId : Uuid
  desiredTransport : TransportKind
  endpoint : NetworkEndpoint
  allocationGeneration : Option Nat := none
  innerMtu : Nat
  packetLimits : PacketLimits := {}
  requestedMediaPacketSize : Option Nat := none
  mediaSessionGeneration : Option Nat := none
  createdAt : String
  deriving DecidableEq

def mtuInRange (mtu : Nat) : Bool := decide (576 ≤ mtu) && decide (mtu ≤ 1500)

def ConnectionProfile.validate (profile : ConnectionProfile) : Except String Unit :=
  if profile.schemaVersion ≠ connectionProfileSchemaVersion then
    .error "unsupported connection profile schema version"
  else if trim profile.instanceId.toList = [] then
    .error "profile instance ID must not be empty"
  else if profile.profileRevision = 0 then .error "profile revision must not be zero"
  else do
    profile.endpoint.validate
    if mtuInRange profile.innerMtu = false then
      .error "profile inner MTU must be between 576 and 1500 bytes"
    else if profile.desiredTransport = .cloudflareTurn ∧ profile.allocationGeneration = none then
      .error "TURN profile requires an allocation generation"
    else if profile.packetLimits.confidence.any fun value => 0 ≤ value ∧ value ≤ 1 then .ok ()
    else .error "packet-limit confidence must be between zero and one"

structure PendingConnectionProfile where
  operationId : Uuid
  profile : ConnectionProfile
  previousMtu : Nat
  preparedAt : Timestamp
  leaseExpiresAt : Option Timestamp
  deriving DecidableEq

structure HostLinkState where
  interfaceName : String
  observedMtu : Option Nat
  appliedProfileRevision : Nat
  pendingTransitionId : Option Uuid
  observedTransport : Option TransportKind
  deriving DecidableEq

structure HostNetworkState where
  hostRevision : Nat
  updatedAt : Timestamp
  instanceId : String
  allocationGeneration : Nat
  relayEndpoint : Option NetworkEndpoint
  observedTransport : Option TransportKind
  linkState : HostLinkState
  committedProfile : Option ConnectionProfile
  committedOperationId : Option Uuid
  pendingProfile : Option PendingConnectionProfile
  deriving DecidableEq

/-- `saturating_add(1)` of a 64-bit number. -/
def saturatingSucc (value : Nat) : Nat := if value < 2 ^ 64 - 1 then value + 1 else value

namespace HostNetworkState

def committedRevision (state : HostNetworkState) : Nat :=
  (state.committedProfile.map ConnectionProfile.profileRevision).getD 0

def touch (state : HostNetworkState) (time : Timestamp) : HostNetworkState :=
  { state with hostRevision := saturatingSucc state.hostRevision, updatedAt := time }

def observe (state : HostNetworkState) (mtu : Nat) : HostNetworkState :=
  { state with linkState := { state.linkState with observedMtu := some mtu } }

def dropPending (state : HostNetworkState) : HostNetworkState :=
  { state with
    pendingProfile := none
    linkState := { state.linkState with pendingTransitionId := none } }

end HostNetworkState

inductive TurnOp where
  | remember (state : HostNetworkState)
  | now
  | getMtu
  | setMtu (mtu : Nat)
  | persistState (state : HostNetworkState)
  | loadPreviousState

def TurnOp.Ret : TurnOp → Type
  | .now => Timestamp
  | .getMtu => Nat
  | .loadPreviousState => Option HostNetworkState
  | _ => Unit

def turnInterface : Interface := { Op := TurnOp, Ret := TurnOp.Ret }

abbrev TurnProg := Prog turnInterface String

structure Host where
  memory : Option HostNetworkState := none
  disk : Option HostNetworkState := none
  mtu : Nat
  clock : Nat → Timestamp := fun _ => 0
  ticks : Nat := 0

/-- `validate_mtu` comes first. -/
def Host.setMtu (host : Host) (mtu : Nat) : Except String Unit × Host :=
  if mtuInRange mtu then (.ok (), { host with mtu := mtu })
  else (.error "WireGuard MTU must be between 576 and 1500 bytes", host)

def Host.act (host : Host) : (op : TurnOp) → Except String op.Ret × Host
  | .remember state => (.ok (), { host with memory := some state })
  | .now => (.ok (host.clock host.ticks), { host with ticks := host.ticks + 1 })
  | .getMtu => (.ok host.mtu, host)
  | .setMtu mtu => host.setMtu mtu
  | .persistState state => (.ok (), { host with disk := some state })
  | .loadPreviousState => (.ok host.disk, host)

def turnHandler : Handler turnInterface String Host where
  act op host := host.act op
  internal
    | .remember _ | .now | .loadPreviousState => true
    | _ => false

def request (op : TurnOp) : TurnProg op.Ret := @Prog.perform turnInterface String op

def tryRequest (op : TurnOp) : TurnProg (Except String op.Ret) :=
  @Prog.observe turnInterface String op

/-- An operation whose failure is reported with a text of its own. -/
def withContext (op : TurnOp) (text : String) : TurnProg op.Ret := do
  match ← tryRequest op with
  | .ok value => .done value
  | .error _ => .throw text

def PendingConnectionProfile.expired (pending : PendingConnectionProfile) (time : Timestamp) :
    Bool :=
  match pending.leaseExpiresAt with
  | some lease => decide (lease ≤ time)
  | none => true

def rollbackPending (state : HostNetworkState) (pending : PendingConnectionProfile)
    (text : String) : TurnProg HostNetworkState := do
  withContext (.setMtu pending.previousMtu) text
  let time : Timestamp ← request .now
  let restored := (state.dropPending.observe pending.previousMtu).touch time
  request (.remember restored)
  request (.persistState restored)
  .done restored

def reconcileExpiredProfile (state : HostNetworkState) : TurnProg HostNetworkState :=
  match state.pendingProfile with
  | none => .done state
  | some pending => do
      let time : Timestamp ← request .now
      if pending.expired time then
        rollbackPending state pending "failed restoring host MTU after profile lease expiry"
      else .done state

structure PrepareConnectionProfileRequest where
  operationId : Uuid
  expectedProfileRevision : Nat
  leaseExpiresAt : Option Timestamp
  profile : ConnectionProfile
  deriving DecidableEq

structure PrepareConnectionProfileResponse where
  profile : ConnectionProfile
  linkState : HostLinkState
  deriving DecidableEq

def tenMinutes : Timestamp := 600000

def parseLease (lease : Option Timestamp) : Except String Timestamp :=
  match lease with
  | some time => .ok time
  | none => .error "lease_expires_at must be RFC 3339"

def admitProfile (state : HostNetworkState) (request : PrepareConnectionProfileRequest) :
    Except String Unit :=
  if request.expectedProfileRevision ≠ state.committedRevision then
    .error ("stale profile revision: expected " ++ toString request.expectedProfileRevision ++
      ", active " ++ toString state.committedRevision)
  else if request.profile.profileRevision ≠ saturatingSucc state.committedRevision then
    .error "new profile revision must increment the committed revision by one"
  else if request.profile.desiredTransport = .cloudflareTurn ∧
      (request.profile.allocationGeneration.getD 0 ≠ state.allocationGeneration ∨
        state.relayEndpoint ≠ some request.profile.endpoint) then
    .error "TURN profile does not match the active allocation generation and endpoint"
  else .ok ()

def journalPrepared (state : HostNetworkState) (request : PrepareConnectionProfileRequest)
    (previousMtu : Nat) (time lease : Timestamp) : HostNetworkState :=
  { state with
    pendingProfile := some ⟨request.operationId, request.profile, previousMtu, time, some lease⟩
    linkState := { state.linkState with
      pendingTransitionId := some request.profile.transitionId } }.touch time

def failPrepared (prepared : HostNetworkState) : TurnProg PrepareConnectionProfileResponse := do
  let time : Timestamp ← request .now
  let cleared := prepared.dropPending.touch time
  request (.remember cleared)
  let _ ← tryRequest (.persistState cleared)
  .throw "failed applying prepared host MTU"

def finishPrepared (prepared : HostNetworkState) (profile : ConnectionProfile) :
    TurnProg PrepareConnectionProfileResponse := do
  let observed : Nat ← request .getMtu
  let time : Timestamp ← request .now
  let applied := (prepared.observe observed).touch time
  request (.remember applied)
  request (.persistState applied)
  .done ⟨profile, applied.linkState⟩

def startPrepared (state : HostNetworkState) (prepare : PrepareConnectionProfileRequest)
    (time lease : Timestamp) : TurnProg PrepareConnectionProfileResponse := do
  Prog.ofExcept (admitProfile state prepare)
  let previousMtu : Nat ← request .getMtu
  let prepared := journalPrepared state prepare previousMtu time lease
  request (.remember prepared)
  request (.persistState prepared)
  match ← tryRequest (.setMtu prepare.profile.innerMtu) with
  | .error _ => failPrepared prepared
  | .ok _ => finishPrepared prepared prepare.profile

def prepareConnectionProfile (prepare : PrepareConnectionProfileRequest)
    (state : HostNetworkState) : TurnProg PrepareConnectionProfileResponse := do
  Prog.ofExcept prepare.profile.validate
  let lease ← Prog.ofExcept (parseLease prepare.leaseExpiresAt)
  let time : Timestamp ← request .now
  if lease ≤ time ∨ time + tenMinutes < lease then
    .throw "profile transaction lease must expire within the next 10 minutes"
  else do
    let state ← reconcileExpiredProfile state
    if prepare.profile.instanceId ≠ state.instanceId then
      .throw "connection profile instance identity mismatch"
    else
      match state.pendingProfile with
      | some pending =>
          if pending.operationId = prepare.operationId ∧ pending.profile = prepare.profile then
            .done ⟨pending.profile, state.linkState⟩
          else .throw "another connection profile transaction is pending"
      | none => startPrepared state prepare time lease

structure ProfileRequest where
  operationId : Uuid
  transitionId : Uuid
  profileRevision : Nat
  deriving DecidableEq

def ProfileRequest.names (named : ProfileRequest) (pending : PendingConnectionProfile) : Bool :=
  pending.operationId = named.operationId && pending.profile.transitionId = named.transitionId &&
    pending.profile.profileRevision = named.profileRevision

def alreadyCommitted (state : HostNetworkState) (commit : ProfileRequest) : Bool :=
  match state.committedProfile with
  | none => false
  | some committed =>
      state.committedOperationId = some commit.operationId &&
        committed.transitionId = commit.transitionId &&
        committed.profileRevision = commit.profileRevision

def committedState (state : HostNetworkState) (pending : PendingConnectionProfile)
    (operation : Uuid) (observed : Nat) (time : Timestamp) : HostNetworkState :=
  { state with
    linkState := { state.linkState with
      observedMtu := some observed
      appliedProfileRevision := pending.profile.profileRevision
      pendingTransitionId := none
      observedTransport := some pending.profile.desiredTransport }
    observedTransport := some pending.profile.desiredTransport
    committedProfile := some pending.profile
    committedOperationId := some operation
    pendingProfile := none }.touch time

def commitPending (state : HostNetworkState) (pending : PendingConnectionProfile)
    (commit : ProfileRequest) : TurnProg HostLinkState := do
  let observed : Nat ← request .getMtu
  if observed ≠ pending.profile.innerMtu then
    .throw ("host MTU changed before commit: expected " ++ toString pending.profile.innerMtu ++
      ", observed " ++ toString observed)
  else do
    let time : Timestamp ← request .now
    let committed := committedState state pending commit.operationId observed time
    request (.persistState committed)
    request (.remember committed)
    .done committed.linkState

def commitConnectionProfile (commit : ProfileRequest) (state : HostNetworkState) :
    TurnProg HostLinkState := do
  let state ← reconcileExpiredProfile state
  if alreadyCommitted state commit then .done state.linkState
  else
    match state.pendingProfile with
    | none => .throw "no prepared connection profile exists"
    | some pending =>
        if commit.names pending then commitPending state pending commit
        else .throw "connection profile commit does not match the prepared transaction"

def abortConnectionProfile (abort : ProfileRequest) (state : HostNetworkState) :
    TurnProg HostLinkState :=
  match state.pendingProfile with
  | none => .done state.linkState
  | some pending =>
      if abort.names pending then do
        let restored ← rollbackPending state pending
          "failed restoring host MTU during profile abort"
        .done restored.linkState
      else .throw "connection profile abort does not match the prepared transaction"

structure ManagerSettings where
  instanceId : String
  interfaceName : String := "wg0"
  deriving DecidableEq

/-- A prepared profile is rolled back, a committed one is applied again. -/
def recoverMtu (previous : Option HostNetworkState) : TurnProg Unit :=
  match previous.bind HostNetworkState.pendingProfile with
  | some pending =>
      withContext (.setMtu pending.previousMtu)
        "failed rolling back an interrupted connection profile"
  | none =>
      match previous.bind HostNetworkState.committedProfile with
      | some profile =>
          withContext (.setMtu profile.innerMtu)
            "failed reapplying the committed connection profile"
      | none => .done ()

def startedState (settings : ManagerSettings) (previous : Option HostNetworkState)
    (observed : Except String Nat) (time : Timestamp) : HostNetworkState :=
  let committed := previous.bind HostNetworkState.committedProfile
  { hostRevision := (previous.map fun state => saturatingSucc state.hostRevision).getD 0
    updatedAt := time
    instanceId := settings.instanceId
    allocationGeneration := (previous.map HostNetworkState.allocationGeneration).getD 0
    relayEndpoint := none
    observedTransport := none
    linkState :=
      { interfaceName := settings.interfaceName
        observedMtu := observed.toOption
        appliedProfileRevision := (committed.map ConnectionProfile.profileRevision).getD 0
        pendingTransitionId := none
        observedTransport := none }
    committedProfile := committed
    committedOperationId := previous.bind HostNetworkState.committedOperationId
    pendingProfile := none }

def newManager (settings : ManagerSettings) : TurnProg Unit := do
  let previous : Option HostNetworkState ← request .loadPreviousState
  recoverMtu previous
  let observed : Except String Nat ← tryRequest .getMtu
  let time : Timestamp ← request .now
  let state := startedState settings previous observed time
  request (.persistState state)
  request (.remember state)
  .done ()

end Noland.Network
