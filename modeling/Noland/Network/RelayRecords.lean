import Noland.Network.SwitchAgreement
import Noland.Lib.Machine

/-!
The client persists the endpoint and the generation of its relay allocation, and
`turn_status_is_healthy` compares these with what the host reports. It never asks the tunnel.
Between two calls the host may change in any way, and every answer of a call may be any.
-/

namespace Noland.Network

open Noland.Core Noland.Requests

structure BridgeStatus where
  allocationGeneration : Nat
  allowedPeerIps : List String
  deriving DecidableEq

structure HostNetworkStatus where
  state : HostNetworkState
  turnReady : Bool
  credentialExpiresAt : Option Timestamp
  bridge : Option BridgeStatus
  deriving DecidableEq

namespace HostNetworkStatus

def credentialIsFresh (status : HostNetworkStatus) (now : Timestamp) : Bool :=
  status.credentialExpiresAt.any fun expires => decide (now + tenMinutes < expires)

def bridgeMatches (status : HostNetworkStatus) (publicIp : String) : Bool :=
  status.bridge.any fun bridge =>
    decide (bridge.allocationGeneration = status.state.allocationGeneration) &&
      bridge.allowedPeerIps.contains publicIp

/-- `reusable`. -/
def reusable (status : HostNetworkStatus) (publicIp : String) (now : Timestamp) : Bool :=
  status.turnReady && status.credentialIsFresh now && status.bridgeMatches publicIp

end HostNetworkStatus

def turnStatusIsHealthy (network : InstanceNetwork) (status : HostNetworkStatus)
    (publicIp : String) (now : Timestamp) : Bool :=
  let endpointMatches :=
    match status.state.relayEndpoint, network.relayEndpoint with
    | some host, some client => decide (host = client)
    | _, _ => false
  status.turnReady &&
    decide (status.state.allocationGeneration = network.allocationGeneration) &&
    status.credentialIsFresh now && endpointMatches && status.bridgeMatches publicIp

def turnEffectiveMtu : Nat := 1200

def wireguardDataOverhead : Nat := 32

def minStreamingInnerMtu : Nat := 576

/-- What is learnt on the way to a relay; `prepareTurn` answers for a requested generation. -/
structure RelayAnswers where
  publicIp : Except String String
  now : Timestamp
  credentials : Except String Unit
  prepareTurn : Nat → Except String (NetworkEndpoint × Nat)

def configuredLimits (innerMtu : Option Nat) : PacketLimits :=
  { verifiedInnerMtu := innerMtu
    confidence := some (1 / 4)
    measurementMethod := .configuredFallback }

def reusedTarget (network : InstanceNetwork) (status : HostNetworkStatus)
    (endpoint : NetworkEndpoint) : TargetPlan :=
  { endpoint := endpoint
    effectiveMtu := network.turnMtu.getD turnEffectiveMtu
    generation := some status.state.allocationGeneration
    packetLimits := configuredLimits network.turnMtu }

def requestedGeneration (network : InstanceNetwork) (status : HostNetworkStatus) : Nat :=
  saturatingSucc (max status.state.allocationGeneration network.allocationGeneration)

def allocateRelay (network : InstanceNetwork) (status : HostNetworkStatus)
    (answers : RelayAnswers) : Except String TargetPlan := do
  answers.credentials
  let prepared ← answers.prepareTurn (requestedGeneration network status)
  .ok
    { endpoint := prepared.1
      effectiveMtu := turnEffectiveMtu
      generation := some prepared.2
      packetLimits := configuredLimits (some turnEffectiveMtu) }

def ensureRelayTarget (network : InstanceNetwork) (status : HostNetworkStatus)
    (answers : RelayAnswers) (forceNewAllocation : Bool) : Except String TargetPlan := do
  let publicIp ← answers.publicIp
  if forceNewAllocation = false ∧ status.reusable publicIp answers.now = true then
    match status.state.relayEndpoint with
    | some endpoint => .ok (reusedTarget network status endpoint)
    | none => allocateRelay network status answers
  else allocateRelay network status answers

/-- The tunnel keeps its MTU at least at the streaming minimum. -/
def applyDiscoveredPayloadLimit (target : TargetPlan) (ceiling : Option Nat) : TargetPlan :=
  match ceiling with
  | none => target
  | some ceiling =>
      let verified := max minStreamingInnerMtu (min (ceiling - wireguardDataOverhead)
        target.effectiveMtu)
      { target with
        effectiveMtu := verified
        packetLimits := { target.packetLimits with
          forwardPayloadCeiling := some ceiling
          verifiedInnerMtu := some verified
          confidence := some (1 / 2)
          measurementMethod := .packetizationLayerProbe } }

/-- What `prepare_target` is answered. A direct target needs no allocation. -/
structure TargetAnswers where
  direct : Except String (NetworkEndpoint × Nat × PacketLimits)
  status : Except String HostNetworkStatus
  relay : RelayAnswers
  probeInstalled : Except String Unit
  probed : Except String Unit
  freshRelay : RelayAnswers
  freshProbeInstalled : Except String Unit
  freshProbed : Except String Unit
  payloadProbeInstalled : Except String Unit
  payloadCeiling : Option Nat

def identified (instanceId : String) (status : Except String HostNetworkStatus) :
    Except String HostNetworkStatus := do
  let status ← status
  if status.state.instanceId ≠ instanceId then
    .error "Host control returned a different instance identity"
  else .ok status

def probedRelay (network : InstanceNetwork) (status : HostNetworkStatus)
    (answers : TargetAnswers) : Except String TargetPlan := do
  let target ← ensureRelayTarget network status answers.relay false
  answers.probeInstalled
  match answers.probed with
  | .ok _ => .ok target
  | .error _ => do
      let fresh ← ensureRelayTarget network status answers.freshRelay true
      answers.freshProbeInstalled
      answers.freshProbed
      .ok fresh

def prepareTarget (instanceId : String) (network : InstanceNetwork) (transport : TransportKind)
    (answers : TargetAnswers) : Except String TargetPlan :=
  match transport with
  | .direct => do
      let (endpoint, effectiveMtu, packetLimits) ← answers.direct
      .ok { endpoint := endpoint, effectiveMtu := effectiveMtu, packetLimits := packetLimits }
  | .cloudflareTurn =>
      if network.turnEnabled = false then
        .error "Cloudflare TURN is disabled for this instance"
      else do
        let status ← identified instanceId answers.status
        let target ← probedRelay network status answers
        answers.payloadProbeInstalled
        .ok (applyDiscoveredPayloadLimit target answers.payloadCeiling)

/-- The relay target of an evaluation; an error of its preparation is not one of the
evaluation. -/
def evaluatedRelay (instanceId : String) (network : InstanceNetwork)
    (status : Except String HostNetworkStatus) (answers : RelayAnswers) :
    Except String (Option TargetPlan) := do
  let status ← identified instanceId status
  if network.turnEnabled = true then
    .ok (ensureRelayTarget network status answers false).toOption
  else .ok none

def persistEvaluation (network : InstanceNetwork) : Option TargetPlan → InstanceNetwork
  | none => network
  | some target =>
      { network with
        relayEndpoint := some target.endpoint
        turnMtu := some target.effectiveMtu
        allocationGeneration := target.generation.getD network.allocationGeneration }

def reconciled (network : InstanceNetwork) (profile : ConnectionProfile) : InstanceNetwork :=
  let done := { network with
    activeTransport := some profile.desiredTransport
    connectionProfile := some profile
    lastTransition := some
      { transitionId := profile.transitionId
        requestedTransport := profile.desiredTransport
        previousTransport := network.activeTransport
        effectiveTransport := some profile.desiredTransport
        phase := .completed } }
  match profile.desiredTransport with
  | .direct => { done with directMtu := some profile.innerMtu }
  | .cloudflareTurn =>
      { done with
        turnMtu := some profile.innerMtu
        relayEndpoint := some profile.endpoint
        allocationGeneration := profile.allocationGeneration.getD 0 }

/-- The profile that `reconcile_committed_profile` accepts. -/
def committedForRuntime (instanceId : String) (tunnel : TunnelRuntime)
    (status : Except String HostNetworkStatus) : Except String ConnectionProfile := do
  let status ← identified instanceId status
  match status.state.committedProfile with
  | none => .error "Host has no committed connection profile"
  | some profile =>
      match tunnel.endpoint with
      | none => .error "Managed tunnel reported an invalid endpoint"
      | some endpoint =>
          if tunnel.mtu ≠ profile.innerMtu ∨ endpoint ≠ profile.endpoint then
            .error "Committed host profile does not match the client runtime"
          else .ok profile

/-- The calls of the connection manager, and what the host and the clock do between them. A
write of the client's state may fail. -/
inductive RelayEvent where
  | elsewhere (host : Host) (allocation : Option (Nat × Option NetworkEndpoint))
      (time : Timestamp)
  | evaluateRuntime (instanceId : String) (status : Except String HostNetworkStatus)
      (answers : RelayAnswers) (written : Bool)
  | switch (attempt : SwitchAttempt) (answers : TargetAnswers) (signals : List (Signal String))
  | maintainActiveTurn (attempt : SwitchAttempt) (publicIp : Except String String)
      (status : Except String HostNetworkStatus) (now : Timestamp) (answers : TargetAnswers)
      (signals : List (Signal String))
  | stopTurn (stopped : Except String Unit) (written : Bool)
  | reconcile (instanceId : String) (status : Except String HostNetworkStatus) (written : Bool)

namespace SwitchSite

def planned (site : SwitchSite) (attempt : SwitchAttempt) (answers : TargetAnswers) : SwitchSite :=
  { site with
    plan := prepareTarget attempt.instanceId site.network attempt.requestedTransport answers }

def switch (site : SwitchSite) (attempt : SwitchAttempt) (force : Bool) (answers : TargetAnswers)
    (signals : List (Signal String)) :
    Outcome String Unit × List (Signal String) × Config switchInterface String SwitchSite :=
  (switchInner attempt force).exec switchHandler signals ⟨[], site.planned attempt answers⟩

def write (site : SwitchSite) (written : Bool) (network : InstanceNetwork) : SwitchSite :=
  if written = true then { site with network := network } else site

def evaluateRuntime (site : SwitchSite) (instanceId : String)
    (status : Except String HostNetworkStatus) (answers : RelayAnswers) (written : Bool) :
    SwitchSite :=
  match evaluatedRelay instanceId site.network status answers with
  | .error _ => site
  | .ok target => site.write written (persistEvaluation site.network target)

def turnHealthy (site : SwitchSite) (status : Except String HostNetworkStatus)
    (publicIp : String) (now : Timestamp) : Bool :=
  match status with
  | .ok status => turnStatusIsHealthy site.network status publicIp now
  | .error _ => false

/-- `maintain_active_turn` switches to the relay again. -/
def needsRepair (site : SwitchSite) (publicIp : Except String String)
    (status : Except String HostNetworkStatus) (now : Timestamp) : Bool :=
  match publicIp with
  | .error _ => false
  | .ok publicIp =>
      decide (site.network.activeTransport = some .cloudflareTurn) &&
        !site.turnHealthy status publicIp now

def stopTurn (site : SwitchSite) (stopped : Except String Unit) (written : Bool) : SwitchSite :=
  if site.network.activeTransport = some .cloudflareTurn then site
  else
    match stopped with
    | .error _ => site
    | .ok _ => site.write written { site.network with relayEndpoint := none }

def reconcile (site : SwitchSite) (instanceId : String)
    (status : Except String HostNetworkStatus) (written : Bool) : SwitchSite :=
  match committedForRuntime instanceId site.tunnel status with
  | .error _ => site
  | .ok profile => site.write written (reconciled site.network profile)

def step (site : SwitchSite) : RelayEvent → SwitchSite
  | .elsewhere host allocation time =>
      { site with host := host, allocation := allocation, time := time }
  | .evaluateRuntime instanceId status answers written =>
      site.evaluateRuntime instanceId status answers written
  | .switch attempt answers signals => (site.switch attempt false answers signals).2.2.state
  | .maintainActiveTurn attempt publicIp status now answers signals =>
      if site.needsRepair publicIp status now = true then
        (site.switch { attempt with requestedTransport := .cloudflareTurn } true answers
          signals).2.2.state
      else site
  | .stopTurn stopped written => site.stopTurn stopped written
  | .reconcile instanceId status written => site.reconcile instanceId status written

end SwitchSite

structure RelayRecord where
  activeTransport : Option TransportKind
  relayEndpoint : Option NetworkEndpoint
  allocationGeneration : Nat
  deriving DecidableEq

def InstanceNetwork.relayRecord (network : InstanceNetwork) : RelayRecord :=
  ⟨network.activeTransport, network.relayEndpoint, network.allocationGeneration⟩

def TunnelRuntime.pointed (tunnel : TunnelRuntime) : Option NetworkEndpoint × Option Nat :=
  (tunnel.endpoint, tunnel.generation)

def RelayRecord.follows (record : RelayRecord) (pointed : Option NetworkEndpoint × Option Nat) :
    Prop :=
  record.activeTransport = some .cloudflareTurn →
    (record.relayEndpoint, some record.allocationGeneration) = pointed

instance (record : RelayRecord) (pointed : Option NetworkEndpoint × Option Nat) :
    Decidable (record.follows pointed) :=
  inferInstanceAs (Decidable (_ → _))

def SwitchSite.recordsFollow (site : SwitchSite) : Prop :=
  site.network.relayRecord.follows site.tunnel.pointed

instance (site : SwitchSite) : Decidable site.recordsFollow :=
  inferInstanceAs (Decidable (RelayRecord.follows _ _))

theorem healthy_endpoint {site : SwitchSite} (follows : site.recordsFollow)
    (active : site.network.activeTransport = some .cloudflareTurn) {status : HostNetworkStatus}
    {publicIp : String} {now : Timestamp}
    (healthy : turnStatusIsHealthy site.network status publicIp now = true) :
    site.tunnel.endpoint = status.state.relayEndpoint := by
  have pointed := (Prod.mk.inj (follows active)).1
  simp only [turnStatusIsHealthy, Bool.and_eq_true] at healthy
  obtain ⟨⟨_, endpointMatches⟩, _⟩ := healthy
  split at endpointMatches
  · rename_i host client hosted recorded
    rw [← pointed, hosted]
    show site.network.relayEndpoint = some host
    rw [recorded, of_decide_eq_true endpointMatches]
  · cases endpointMatches

variable {network : InstanceNetwork}

theorem allocateRelay_generation {status : HostNetworkStatus} {answers : RelayAnswers}
    {target : TargetPlan} (allocated : allocateRelay network status answers = .ok target) :
    ∃ endpoint generation, answers.credentials = .ok () ∧
      answers.prepareTurn (requestedGeneration network status) = .ok (endpoint, generation) ∧
      target.endpoint = endpoint ∧ target.generation = some generation := by
  obtain ⟨_, credentials, rest⟩ := bind_ok allocated
  obtain ⟨prepared, answered, same⟩ := bind_ok rest
  cases same
  exact ⟨prepared.1, prepared.2, credentials, answered, rfl, rfl⟩

theorem ensureRelayTarget_cases {status : HostNetworkStatus} {answers : RelayAnswers}
    {force : Bool} {target : TargetPlan}
    (planned : ensureRelayTarget network status answers force = .ok target) :
    ∃ publicIp, answers.publicIp = .ok publicIp ∧
      ((∃ endpoint, force = false ∧ status.reusable publicIp answers.now = true ∧
          status.state.relayEndpoint = some endpoint ∧
          target = reusedTarget network status endpoint) ∨
        (¬ (force = false ∧ status.reusable publicIp answers.now = true ∧
            status.state.relayEndpoint ≠ none) ∧
          allocateRelay network status answers = .ok target)) := by
  obtain ⟨publicIp, discovered, chosen⟩ := bind_ok planned
  refine ⟨publicIp, discovered, ?_⟩
  split at chosen
  · rename_i usable
    split at chosen
    · rename_i endpoint hosted
      cases chosen
      exact Or.inl ⟨endpoint, usable.1, usable.2, hosted, rfl⟩
    · rename_i missing
      exact Or.inr ⟨fun reuses => reuses.2.2 missing, chosen⟩
  · rename_i unusable
    exact Or.inr ⟨fun reuses => unusable ⟨reuses.1, reuses.2.1⟩, chosen⟩

theorem ensureRelayTarget_generation {status : HostNetworkStatus} {answers : RelayAnswers}
    {force : Bool} {target : TargetPlan}
    (planned : ensureRelayTarget network status answers force = .ok target) :
    target.generation ≠ none := by
  obtain ⟨_, _, ⟨endpoint, _, _, _, rfl⟩ | ⟨_, allocated⟩⟩ := ensureRelayTarget_cases planned
  · exact Option.some_ne_none _
  · obtain ⟨_, generation, _, _, _, allocation⟩ := allocateRelay_generation allocated
    rw [allocation]
    exact Option.some_ne_none generation

theorem prepareTarget_generation {instanceId : String} {answers : TargetAnswers}
    {target : TargetPlan}
    (planned : prepareTarget instanceId network .cloudflareTurn answers = .ok target) :
    target.generation ≠ none := by
  unfold prepareTarget at planned
  dsimp only at planned
  split at planned
  · cases planned
  · obtain ⟨status, _, rest⟩ := bind_ok planned
    obtain ⟨chosen, probed, rest⟩ := bind_ok rest
    obtain ⟨_, _, limited⟩ := bind_ok rest
    have allocated : chosen.generation ≠ none := by
      obtain ⟨first, ensured, rest⟩ := bind_ok probed
      obtain ⟨_, _, rest⟩ := bind_ok rest
      split at rest
      · cases rest
        exact ensureRelayTarget_generation ensured
      · obtain ⟨fresh, ensured, rest⟩ := bind_ok rest
        obtain ⟨_, _, rest⟩ := bind_ok rest
        obtain ⟨_, _, same⟩ := bind_ok rest
        cases same
        exact ensureRelayTarget_generation ensured
    cases limited
    unfold applyDiscoveredPayloadLimit
    split <;> exact allocated

/-- The steps of a switch after which its records are right: a rollback succeeds, and a
completed switch is recorded. -/
def recordsWritten (event : SwitchEvent) : Prop :=
  match event with
  | ⟨.setMtu _ true, .error _⟩ => False
  | ⟨.setPeerEndpoint _ _ true, .error _⟩ => False
  | ⟨.persist (.completed _ _ _), .error _⟩ => False
  | _ => True

def recordsWrittenCheck (_ : Config switchInterface String SwitchSite) (event : SwitchEvent)
    (_ : SwitchSite) : Bool :=
  match event with
  | ⟨.setMtu _ true, .error _⟩ => false
  | ⟨.setPeerEndpoint _ _ true, .error _⟩ => false
  | ⟨.persist (.completed _ _ _), .error _⟩ => false
  | _ => true

theorem recordsWrittenCheck_sound (config : Config switchInterface String SwitchSite)
    (event : SwitchEvent) (later : SwitchSite)
    (passes : recordsWrittenCheck config event later = true) : recordsWritten event := by
  unfold recordsWritten
  unfold recordsWrittenCheck at passes
  split
  · cases passes
  · cases passes
  · cases passes
  · trivial

theorem recordsWritten_rollsBack {event : SwitchEvent} (written : recordsWritten event) :
    rollsBack event := by
  unfold rollsBack
  split
  · exact written
  · exact written
  · trivial

def SwitchOp.sparesRecords : SwitchOp → Prop
  | .setPeerEndpoint _ _ _ | .persist (.completed _ _ _) => False
  | _ => True

def SwitchSite.stands (record : RelayRecord) (pointed : Option NetworkEndpoint × Option Nat)
    (site : SwitchSite) : Prop :=
  site.network.relayRecord = record ∧ site.tunnel.pointed = pointed

section Records

variable {record : RelayRecord} {pointed : Option NetworkEndpoint × Option Nat}

theorem stands_keeps {op : SwitchOp} {site later : SwitchSite} {reply : Except String op.Ret}
    (spares : op.sparesRecords) (stands : site.stands record pointed)
    (replied : Reply switchHandler op site reply later) : later.stands record pointed := by
  rcases replied.state_cases with same | acted
  · rw [same]
    exact stands
  · rw [acted]
    cases op with
    | setPeerEndpoint => exact spares.elim
    | persist update =>
        cases update with
        | completed => exact spares.elim
        | start | phase | failed => exact stands
    | loadState | checkConfig | managedRuntime | prepareTarget | connect | getStatus | now
    | prepareConnectionProfile | commitConnectionProfile | abortConnectionProfile | setMtu
    | validateTunnel => exact stands

variable {attempt : SwitchAttempt} {previous : PreviousTunnel} {target : TargetPlan}
  {profile : ConnectionProfile}

def Records {Value : Type} (pre : SwitchSite → Prop) (program : SwitchProg Value) : Prop :=
  Ends (fun _ event _ => recordsWritten event) pre program
    (fun _ => SwitchSite.recordsFollow) SwitchSite.recordsFollow

theorem Records.narrow {pre pre' : SwitchSite → Prop} {Value : Type} {program : SwitchProg Value}
    (records : Records pre program) (fewer : ∀ site, pre' site → pre site) :
    Records pre' program :=
  records.of_pre fewer

theorem stands_follow (follows : record.follows pointed) {site : SwitchSite}
    (stands : site.stands record pointed) : site.recordsFollow := by
  unfold SwitchSite.recordsFollow
  rw [stands.1, stands.2]
  exact follows

theorem refuse_records (follows : record.follows pointed) (code : TransitionErrorCode)
    (message error : String) :
    Records (SwitchSite.stands record pointed) (attempt.refuse code message error) := by
  apply Ends.perform_keeping (fun _ _ _ => stands_keeps (by trivial)) fun _ => stands_follow follows
  intro _
  exact Ends.throw fun _ stands => stands_follow follows stands

theorem undo_records :
    Ends (fun _ event _ => recordsWritten event) (fun site => site.network.relayRecord = record)
      (attempt.undo previous profile)
      (fun _ => SwitchSite.stands record previous.runtime.pointed) fun _ => False := by
  have undone : Ends (fun _ event _ => recordsWritten event)
      (fun site => site.network.relayRecord = record) (attempt.undo previous profile)
      (fun rollback site => rollback = .ok () ∧
        site.stands record previous.runtime.pointed) fun _ => False := by
    apply SwitchAttempt.undo_ends (fun _ _ _ written => recordsWritten_rollsBack written)
    · intro site tunnel holds
      exact holds
    · intro site reply later holds restored replied _
      have stands : site.stands record previous.runtime.pointed := ⟨holds, by rw [restored]⟩
      exact stands_keeps (by trivial) stands replied
  exact undone.to_post (fun _ _ holds => holds.2)

theorem undone_records (follows : record.follows previous.runtime.pointed) (error : String) :
    Records (fun site => site.network.relayRecord = record)
      (attempt.undo previous profile >>= fun _ => (.throw error : SwitchProg Unit)) := by
  apply Ends.bind fun _ => SwitchSite.stands record previous.runtime.pointed
  · exact undo_records.weaken (fun _ holds => holds) (fun _ _ holds => holds)
      fun _ impossible => impossible.elim
  · intro _
    exact Ends.throw fun _ stands => stands_follow follows stands

theorem undone_refused (follows : record.follows previous.runtime.pointed)
    (refusal : Except String Unit → TransitionError) (error : String) :
    Records (fun site => site.network.relayRecord = record)
      (attempt.undo previous profile >>= fun rollback =>
        attempt.refuse (refusal rollback).code (refusal rollback).message error) := by
  apply Ends.bind fun _ => SwitchSite.stands record previous.runtime.pointed
  · exact undo_records.weaken (fun _ holds => holds) (fun _ _ holds => holds)
      fun _ impossible => impossible.elim
  · intro rollback
    exact refuse_records follows _ _ _

theorem complete_follows {transition : ConnectionTransition}
    (allocated : transition.requestedTransport = .cloudflareTurn → target.generation ≠ none)
    {site : SwitchSite} (reached : site.tunnel.pointed = (some target.endpoint, target.generation)) :
    SwitchSite.recordsFollow
      { site with network := site.network.complete transition profile target } := by
  intro active
  have requested : some transition.requestedTransport = some TransportKind.cloudflareTurn := by
    rw [← active]
    unfold InstanceNetwork.complete
    cases transition.requestedTransport <;> rfl
  have requested := Option.some.inj requested
  obtain ⟨generation, allocation⟩ := Option.ne_none_iff_exists'.mp (allocated requested)
  show ((site.network.complete transition profile target).relayEndpoint,
    some (site.network.complete transition profile target).allocationGeneration) =
      site.tunnel.pointed
  rw [reached]
  unfold InstanceNetwork.complete
  rw [requested, allocation]
  rfl

theorem commitTarget_records (follows : record.follows previous.runtime.pointed)
    (allocated : attempt.requestedTransport = .cloudflareTurn → target.generation ≠ none) :
    Records (SwitchSite.stands record (some target.endpoint, target.generation))
      (attempt.commitTarget previous target profile) := by
  apply Ends.observe_keeping fun _ _ _ => stands_keeps (by trivial)
  intro reply
  cases reply with
  | error error => exact (undone_records follows error).narrow fun _ stands => stands.1
  | ok _ =>
      apply Ends.observe_keeping fun _ _ _ => stands_keeps (by trivial)
      intro reply
      cases reply with
      | error error => exact (undone_records follows error).narrow fun _ stands => stands.1
      | ok _ =>
          apply Ends.last
          · intro site value later stands replied _
            obtain ⟨_, rfl⟩ := replied.of_ok
            exact complete_follows allocated stands.2
          · intro site error later _ _ written
            exact written.elim

theorem validateTarget_records (follows : record.follows previous.runtime.pointed)
    (allocated : attempt.requestedTransport = .cloudflareTurn → target.generation ≠ none) :
    Records (SwitchSite.stands record (some target.endpoint, target.generation))
      (attempt.validateTarget previous target profile) := by
  apply Ends.observe_keeping fun _ _ _ => stands_keeps (by trivial)
  intro reply
  cases reply with
  | error error => exact (undone_records follows error).narrow fun _ stands => stands.1
  | ok _ =>
      apply Ends.observe_keeping fun _ _ _ => stands_keeps (by trivial)
      intro reply
      cases reply with
      | ok _ => exact commitTarget_records follows allocated
      | error error =>
          apply Ends.observe fun _ site => site.network.relayRecord = record
          · intro site reply later stands replied _
            exact (stands_keeps (by trivial) stands replied).1
          intro _
          exact undone_refused follows (SwitchAttempt.validationError error) error

theorem applyEndpoint_records (follows : record.follows previous.runtime.pointed)
    (allocated : attempt.requestedTransport = .cloudflareTurn → target.generation ≠ none) :
    Records (fun site => site.network.relayRecord = record)
      (attempt.applyEndpoint previous target profile) := by
  refine Ends.observe (fun (reply : Except String Unit) site => site.network.relayRecord = record ∧
    (reply = .ok () → site.tunnel.pointed = (some target.endpoint, target.generation))) ?_ ?_
  · intro site reply later holds replied _
    refine ⟨?_, ?_⟩
    · rcases replied.state_cases with same | acted
      · rw [same]
        exact holds
      · rw [acted]
        exact holds
    · rintro rfl
      obtain ⟨_, rfl⟩ := replied.of_ok
      rfl
  intro reply
  cases reply with
  | ok _ =>
      exact (validateTarget_records follows allocated).narrow fun _ holds => ⟨holds.1, holds.2 rfl⟩
  | error error =>
      exact (undone_refused follows (fun _ => ⟨.helperUnavailable, error⟩) error).narrow
        fun _ holds => holds.1

theorem applyTarget_records (follows : record.follows previous.runtime.pointed)
    (allocated : attempt.requestedTransport = .cloudflareTurn → target.generation ≠ none) :
    Records (SwitchSite.stands record previous.runtime.pointed)
      (attempt.applyTarget previous target profile) := by
  apply Ends.perform_keeping (fun _ _ _ => stands_keeps (by trivial)) fun _ => stands_follow follows
  intro _
  split
  · apply Ends.observe fun _ => SwitchSite.stands record previous.runtime.pointed
    · intro site reply later stands replied _
      exact stands_keeps (by trivial) stands replied
    intro reply
    cases reply with
    | ok _ => exact (applyEndpoint_records follows allocated).narrow fun _ stands => stands.1
    | error error =>
        apply Ends.observe_keeping fun _ _ _ => stands_keeps (by trivial)
        intro _
        exact refuse_records follows _ _ _
  · exact (applyEndpoint_records follows allocated).narrow fun _ stands => stands.1

theorem prepareHost_records (follows : record.follows previous.runtime.pointed)
    (allocated : attempt.requestedTransport = .cloudflareTurn → target.generation ≠ none) :
    Records (SwitchSite.stands record previous.runtime.pointed)
      (attempt.prepareHost previous target profile) := by
  apply Ends.perform_keeping (fun _ _ _ => stands_keeps (by trivial)) fun _ => stands_follow follows
  intro time
  apply Ends.observe_keeping fun _ _ _ => stands_keeps (by trivial)
  intro reply
  cases reply with
  | ok prepared =>
      dsimp only
      split
      · exact applyTarget_records follows allocated
      · apply Ends.observe fun _ => SwitchSite.stands record previous.runtime.pointed
        · intro site reply later stands replied _
          exact stands_keeps (by trivial) stands replied
        intro _
        exact Ends.throw fun _ stands => stands_follow follows stands
  | error error =>
      apply Ends.observe_keeping fun _ _ _ => stands_keeps (by trivial)
      intro _
      exact refuse_records follows _ _ _

theorem connectHost_records (follows : record.follows previous.runtime.pointed)
    (allocated : attempt.requestedTransport = .cloudflareTurn → target.generation ≠ none) :
    Records (SwitchSite.stands record previous.runtime.pointed)
      (attempt.connectHost previous target) := by
  apply Ends.observe_keeping fun _ _ _ => stands_keeps (by trivial)
  intro reply
  cases reply with
  | error error => exact refuse_records follows _ _ _
  | ok _ =>
      apply Ends.perform_keeping (fun _ _ _ => stands_keeps (by trivial)) fun _ => stands_follow follows
      intro status
      split
      · exact Ends.throw fun _ stands => stands_follow follows stands
      · exact prepareHost_records follows allocated

def SwitchSite.planAllocated (attempt : SwitchAttempt) (site : SwitchSite) : Prop :=
  ∀ target, site.plan = .ok target → attempt.requestedTransport = .cloudflareTurn →
    target.generation ≠ none

theorem chooseTarget_records (follows : record.follows previous.runtime.pointed) :
    Records (fun site => site.stands record previous.runtime.pointed ∧ site.planAllocated attempt)
      (attempt.chooseTarget previous) := by
  refine Ends.observe (fun (reply : Except String TargetPlan) site =>
    site.stands record previous.runtime.pointed ∧ ∀ target, reply = .ok target →
      attempt.requestedTransport = .cloudflareTurn → target.generation ≠ none) ?_ ?_
  · rintro site reply later ⟨stands, allocated⟩ replied _
    refine ⟨stands_keeps (by trivial) stands replied, ?_⟩
    rintro target rfl
    exact allocated target replied.of_ok.1
  intro reply
  cases reply with
  | error error => exact (refuse_records follows _ _ _).narrow fun _ holds => holds.1
  | ok target =>
      apply Ends.learn fun _ holds => holds.2 target rfl
      intro allocated
      exact (connectHost_records follows allocated).narrow fun _ holds => holds.1

def SwitchSite.ready (attempt : SwitchAttempt) (record : RelayRecord)
    (pointed : Option NetworkEndpoint × Option Nat) (site : SwitchSite) : Prop :=
  site.stands record pointed ∧ site.planAllocated attempt

theorem ready_keeps {op : SwitchOp} {site later : SwitchSite} {reply : Except String op.Ret}
    (spares : op.sparesRecords) (plans : (site.act op).2.plan = site.plan)
    (ready : site.ready attempt record pointed)
    (replied : Reply switchHandler op site reply later) : later.ready attempt record pointed := by
  refine ⟨stands_keeps spares ready.1 replied, ?_⟩
  have same : later.plan = site.plan := by
    rcases replied.state_cases with same | acted
    · rw [same]
    · rw [acted]
      exact plans
  unfold SwitchSite.planAllocated
  rw [same]
  exact ready.2

theorem runTransition_records (attempt : SwitchAttempt) (follows : record.follows pointed) :
    Records (SwitchSite.ready attempt record pointed) attempt.runTransition := by
  refine Ends.observe (fun (reply : Except String TunnelRuntime) site =>
    site.ready attempt record pointed ∧ ∀ runtime, reply = .ok runtime →
      runtime.pointed = pointed) ?_ ?_
  · intro site reply later ready replied _
    refine ⟨ready_keeps (by trivial) rfl ready replied, ?_⟩
    rintro runtime rfl
    rw [← ready.1.2, ← Except.ok.inj replied.of_ok.1]
  intro reply
  cases reply with
  | error error => exact (refuse_records follows _ _ _).narrow fun _ holds => holds.1.1
  | ok runtime =>
      apply Ends.learn fun _ holds => holds.2 runtime rfl
      rintro rfl
      dsimp only
      split
      · exact Ends.throw fun _ holds => stands_follow follows holds.1.1
      · rename_i endpoint reads
        have same : (PreviousTunnel.mk endpoint (max runtime.mtu 576)
            runtime.generation).runtime.pointed = runtime.pointed := by
          unfold TunnelRuntime.pointed
          rw [reads]
          rfl
        rw [← same] at follows
        apply (chooseTarget_records follows).narrow
        intro site holds
        rw [same]
        exact holds.1

theorem switchInner_records (force : Bool) (follows : record.follows pointed) :
    Records (SwitchSite.ready attempt record pointed) (switchInner attempt force) := by
  apply Ends.perform_keeping (fun _ _ _ => ready_keeps (by trivial) rfl)
    fun _ ready => stands_follow follows ready.1
  intro network
  split
  · exact Ends.done fun _ ready => stands_follow follows ready.1
  · apply Ends.perform fun _ => SwitchSite.ready attempt record pointed
    · intro site value later ready replied _
      exact ready_keeps (by trivial) rfl ready replied
    · intro site error later ready replied _
      exact stands_follow follows (ready_keeps (by trivial) rfl ready replied).1
    intro _
    apply Ends.perform_keeping (fun _ _ _ => ready_keeps (by trivial) rfl)
      fun _ ready => stands_follow follows ready.1
    intro _
    exact runTransition_records
      { attempt with previousTransport := InstanceNetwork.activeTransport network } follows

end Records

structure HostNetworkStatus.KeepsRelay (status : HostNetworkStatus) (network : InstanceNetwork)
    (answers : RelayAnswers) (publicIp : String) : Prop where
  reused : status.reusable publicIp answers.now = true → ∀ endpoint,
    status.state.relayEndpoint = some endpoint →
      network.relayEndpoint = some endpoint ∧
        network.allocationGeneration = status.state.allocationGeneration
  allocated : ¬ (status.reusable publicIp answers.now = true ∧
      status.state.relayEndpoint ≠ none) → answers.credentials = .ok () →
    ∀ endpoint generation,
      answers.prepareTurn (requestedGeneration network status) = .ok (endpoint, generation) →
        network.relayEndpoint = some endpoint ∧ network.allocationGeneration = generation

namespace SwitchSite

def switchRecorded (site : SwitchSite) (attempt : SwitchAttempt) (force : Bool)
    (answers : TargetAnswers) (signals : List (Signal String)) : Prop :=
  (switchInner attempt force).follows switchHandler recordsWrittenCheck signals
      ⟨[], site.planned attempt answers⟩ = true ∧
    (site.switch attempt force answers signals).1 ≠ .stopped

def keepsRecords (site : SwitchSite) : RelayEvent → Prop
  | .elsewhere _ _ _ => True
  | .evaluateRuntime instanceId status answers written =>
      written = true → site.network.activeTransport = some .cloudflareTurn →
        site.network.turnEnabled = true → ∀ found publicIp,
          identified instanceId status = .ok found → answers.publicIp = .ok publicIp →
            found.KeepsRelay site.network answers publicIp
  | .switch attempt answers signals => site.switchRecorded attempt false answers signals
  | .maintainActiveTurn attempt publicIp status now answers signals =>
      site.needsRepair publicIp status now = true →
        site.switchRecorded { attempt with requestedTransport := .cloudflareTurn } true answers
          signals
  | .stopTurn _ _ => True
  | .reconcile instanceId status written =>
      written = true → ∀ profile, committedForRuntime instanceId site.tunnel status = .ok profile →
        profile.desiredTransport = .cloudflareTurn →
        some (profile.allocationGeneration.getD 0) = site.tunnel.generation

end SwitchSite

section Calls

variable {site : SwitchSite}

theorem write_follows (follows : site.recordsFollow) {network : InstanceNetwork}
    {written : Bool} (changed : written = true → network.relayRecord.follows site.tunnel.pointed) :
    (site.write written network).recordsFollow := by
  unfold SwitchSite.write
  split
  · rename_i done
    exact changed done
  · exact follows

theorem switch_follows (follows : site.recordsFollow) {attempt : SwitchAttempt} {force : Bool}
    {answers : TargetAnswers} {signals : List (Signal String)}
    (recorded : site.switchRecorded attempt force answers signals) :
    (site.switch attempt force answers signals).2.2.state.recordsFollow := by
  have ready : (site.planned attempt answers).ready attempt site.network.relayRecord
      site.tunnel.pointed := by
    refine ⟨⟨rfl, rfl⟩, ?_⟩
    intro target planned requested
    have prepared : prepareTarget attempt.instanceId site.network attempt.requestedTransport
        answers = .ok target := planned
    rw [requested] at prepared
    exact prepareTarget_generation prepared
  have run := follows_runs recordsWrittenCheck_sound (switchInner attempt force) signals
    ⟨[], site.planned attempt answers⟩ recorded.1
  have ends := switchInner_records force follows ⟨[], site.planned attempt answers⟩ _ _ ready run
  have returned := recorded.2
  unfold SwitchSite.switch at returned ⊢
  split at ends
  · exact ends
  · exact ends
  · rename_i stopped
    exact absurd stopped returned

theorem persistEvaluation_relayRecord (network : InstanceNetwork) (target : TargetPlan) :
    (persistEvaluation network (some target)).relayRecord =
      ⟨network.activeTransport, some target.endpoint,
        target.generation.getD network.allocationGeneration⟩ := rfl

theorem keepsRelay_follows (follows : site.recordsFollow) {status : HostNetworkStatus}
    {answers : RelayAnswers}
    (keeps : ∀ publicIp, answers.publicIp = .ok publicIp →
      status.KeepsRelay site.network answers publicIp) {target : TargetPlan}
    (ensured : ensureRelayTarget site.network status answers false = .ok target) :
    (persistEvaluation site.network (some target)).relayRecord.follows site.tunnel.pointed := by
  have same : (persistEvaluation site.network (some target)).relayRecord =
      site.network.relayRecord := by
    obtain ⟨publicIp, discovered, chosen⟩ := ensureRelayTarget_cases ensured
    have kept := keeps publicIp discovered
    rcases chosen with ⟨endpoint, _, reusable, hosted, rfl⟩ | ⟨unusable, allocated⟩
    · obtain ⟨recorded, generation⟩ := kept.reused reusable endpoint hosted
      rw [persistEvaluation_relayRecord, InstanceNetwork.relayRecord, recorded, generation]
      rfl
    · obtain ⟨endpoint, generation, credentials, prepared, pointed, allocation⟩ :=
        allocateRelay_generation allocated
      obtain ⟨recorded, same⟩ := kept.allocated
        (fun reuses => unusable ⟨rfl, reuses.1, reuses.2⟩) credentials endpoint generation prepared
      rw [persistEvaluation_relayRecord, InstanceNetwork.relayRecord, recorded, same, pointed,
        allocation]
      rfl
  rw [same]
  exact follows

variable {status : Except String HostNetworkStatus}

theorem evaluateRuntime_follows (follows : site.recordsFollow) {instanceId : String}
    {answers : RelayAnswers} (written : Bool)
    (keeps : site.keepsRecords (.evaluateRuntime instanceId status answers written)) :
    (site.evaluateRuntime instanceId status answers written).recordsFollow := by
  unfold SwitchSite.evaluateRuntime
  split
  · exact follows
  · rename_i target evaluated
    apply write_follows follows
    intro done
    cases target with
    | none => exact follows
    | some target =>
        intro active
        have used : site.network.activeTransport = some .cloudflareTurn := active
        obtain ⟨found, identity, rest⟩ := bind_ok evaluated
        split at rest
        · rename_i enabled
          have ensured : ensureRelayTarget site.network found answers false = .ok target := by
            cases result : ensureRelayTarget site.network found answers false with
            | error error =>
                rw [result] at rest
                cases rest
            | ok other =>
                rw [result] at rest
                cases rest
                rfl
          have kept := fun publicIp => keeps done used enabled found publicIp identity
          exact keepsRelay_follows follows kept ensured active
        · cases rest

theorem stopTurn_follows (follows : site.recordsFollow) (stopped : Except String Unit)
    (written : Bool) : (site.stopTurn stopped written).recordsFollow := by
  unfold SwitchSite.stopTurn
  split
  · exact follows
  · rename_i unused
    split
    · exact follows
    · apply write_follows follows
      intro _ active
      exact absurd active unused

theorem committedForRuntime_endpoint {instanceId : String} {tunnel : TunnelRuntime}
    {profile : ConnectionProfile}
    (accepted : committedForRuntime instanceId tunnel status = .ok profile) :
    tunnel.endpoint = some profile.endpoint := by
  obtain ⟨found, _, rest⟩ := bind_ok accepted
  split at rest
  · cases rest
  · split at rest
    · cases rest
    · rename_i endpoint reads
      split at rest
      · cases rest
      · rename_i matching
        cases rest
        rw [reads, not_not.mp (not_or.mp matching).2]

theorem reconcile_follows (follows : site.recordsFollow) {instanceId : String} (written : Bool)
    (keeps : site.keepsRecords (.reconcile instanceId status written)) :
    (site.reconcile instanceId status written).recordsFollow := by
  unfold SwitchSite.reconcile
  split
  · exact follows
  · rename_i profile accepted
    apply write_follows follows
    intro done active
    have requested : profile.desiredTransport = .cloudflareTurn := by
      have same : (reconciled site.network profile).activeTransport =
          some profile.desiredTransport := by
        unfold reconciled
        cases profile.desiredTransport <;> rfl
      exact Option.some.inj (same.symm.trans active)
    have endpoint := committedForRuntime_endpoint accepted
    have generation := keeps done profile accepted requested
    show ((reconciled site.network profile).relayEndpoint,
      some (reconciled site.network profile).allocationGeneration) = _
    unfold TunnelRuntime.pointed
    rw [endpoint, ← generation]
    unfold reconciled
    rw [requested]

theorem step_follows (follows : site.recordsFollow) {event : RelayEvent}
    (keeps : site.keepsRecords event) : (site.step event).recordsFollow := by
  cases event with
  | elsewhere host allocation time => exact follows
  | evaluateRuntime instanceId status answers written =>
      exact evaluateRuntime_follows follows written keeps
  | switch attempt answers signals => exact switch_follows follows keeps
  | maintainActiveTurn attempt publicIp status now answers signals =>
      simp only [SwitchSite.step]
      split
      · rename_i repairs
        exact switch_follows follows (keeps repairs)
      · exact follows
  | stopTurn stopped written => exact stopTurn_follows follows stopped written
  | reconcile instanceId status written => exact reconcile_follows follows written keeps

end Calls

/-- While the relay is in use its record is of the relay that the tunnel was last pointed at,
and a relay that is found healthy is the one of the tunnel: after every sequence of calls in
which an evaluation does not replace the relay in use. -/
theorem relay_records_follow {site : SwitchSite}
    (reached : Machine.Reached SwitchSite.step SwitchSite.recordsFollow SwitchSite.keepsRecords
      site) (active : site.network.activeTransport = some .cloudflareTurn) :
    site.network.relayEndpoint = site.tunnel.endpoint ∧
      some site.network.allocationGeneration = site.tunnel.generation ∧
      ∀ status publicIp now, turnStatusIsHealthy site.network status publicIp now = true →
        site.tunnel.endpoint = status.state.relayEndpoint := by
  have follows : site.recordsFollow := by
    apply reached.invariant
    · intro before starts
      exact starts
    · intro before event _ holds keeps
      exact step_follows holds keeps
  obtain ⟨endpoint, generation⟩ := Prod.mk.inj (follows active)
  exact ⟨endpoint, generation, fun _ _ _ healthy => healthy_endpoint follows active healthy⟩

namespace RelaySample

open SwitchSample

def homeIp : String := "192.0.2.5"

def mobileIp : String := "192.0.2.77"

def status : HostNetworkStatus :=
  { state := hostState
    turnReady := true
    credentialExpiresAt := some 7200000
    bridge := some ⟨3, [homeIp]⟩ }

def answers (publicIp : String) : RelayAnswers :=
  { publicIp := .ok publicIp
    now := 2000
    credentials := .ok ()
    prepareTurn := fun generation => .ok (⟨"203.0.113.9", 40000 + generation⟩, generation) }

def targetAnswers : TargetAnswers :=
  { direct := .error "Direct WireGuard endpoint is unavailable"
    status := .ok status
    relay := answers homeIp
    probeInstalled := .ok ()
    probed := .ok ()
    freshRelay := answers homeIp
    freshProbeInstalled := .ok ()
    freshProbed := .ok ()
    payloadProbeInstalled := .ok ()
    payloadCeiling := none }

def switching : RelayEvent := .switch attempt targetAnswers []

def evaluating : RelayEvent := .evaluateRuntime "41" (.ok status) (answers homeIp) true

def moved : RelayEvent := .evaluateRuntime "41" (.ok status) (answers mobileIp) true

def switched : SwitchSite := site.step switching

def evaluated : SwitchSite := switched.step evaluating

theorem switching_runs :
    (site.recordsFollow ∧
      (switchInner attempt false).follows switchHandler recordsWrittenCheck []
        ⟨[], site.planned attempt targetAnswers⟩ = true) ∧
      (site.switch attempt false targetAnswers []).1 = .value () ∧
      switched.network.relayRecord = ⟨some .cloudflareTurn, some relay, 3⟩ ∧
      status.reusable homeIp (answers homeIp).now = true ∧
      evaluated.network.activeTransport = some .cloudflareTurn := by
  refine ⟨⟨?_, ?_⟩, ?_, ?_, ?_, ?_⟩ <;> decide +kernel

theorem switching_keeps : site.keepsRecords switching := by
  have followed : site.switchRecorded attempt false targetAnswers [] := by
    refine ⟨switching_runs.1.2, ?_⟩
    rw [switching_runs.2.1]
    exact nofun
  exact followed

theorem evaluating_keeps : switched.keepsRecords evaluating := by
  intro _ _ _ found publicIp identity discovered
  have same : status = found := Except.ok.inj identity
  have home : homeIp = publicIp := Except.ok.inj discovered
  rw [← same, ← home]
  have record := switching_runs.2.2.1
  injection record with _ recorded generation
  refine ⟨?_, ?_⟩
  · intro _ endpoint hosted
    exact ⟨recorded.trans hosted, generation⟩
  · intro unusable
    exact absurd ⟨switching_runs.2.2.2.1, Option.some_ne_none _⟩ unusable

end RelaySample

theorem relay_records_follow_sample :
    RelaySample.evaluated.network.relayEndpoint = RelaySample.evaluated.tunnel.endpoint ∧
      some RelaySample.evaluated.network.allocationGeneration =
        RelaySample.evaluated.tunnel.generation ∧
      ∀ status publicIp now,
        turnStatusIsHealthy RelaySample.evaluated.network status publicIp now = true →
        RelaySample.evaluated.tunnel.endpoint = status.state.relayEndpoint := by
  have switched : Machine.Reached SwitchSite.step SwitchSite.recordsFollow
      SwitchSite.keepsRecords RelaySample.switched :=
    .next RelaySample.switching (.start RelaySample.switching_runs.1.1) RelaySample.switching_keeps
  have evaluated : Machine.Reached SwitchSite.step SwitchSite.recordsFollow
      SwitchSite.keepsRecords RelaySample.evaluated :=
    .next RelaySample.evaluating switched RelaySample.evaluating_keeps
  exact relay_records_follow evaluated RelaySample.switching_runs.2.2.2.2

/-- The client has moved to another network. The evaluation gets a new relay and records it,
and the tunnel stays with the one before; the new relay is then found healthy. -/
theorem evaluation_replaces_relay :
    SwitchSample.site.recordsFollow ∧ SwitchSample.site.keepsRecords RelaySample.switching ∧
      (RelaySample.switched.step RelaySample.moved).network.activeTransport =
        some .cloudflareTurn ∧
      (RelaySample.switched.step RelaySample.moved).network.lastTransition.map
        ConnectionTransition.phase = some .completed ∧
      (RelaySample.switched.step RelaySample.moved).network.relayEndpoint =
        some ⟨"203.0.113.9", 40004⟩ ∧
      (RelaySample.switched.step RelaySample.moved).tunnel.endpoint = some SwitchSample.relay ∧
      ¬ (RelaySample.switched.step RelaySample.moved).recordsFollow ∧
      turnStatusIsHealthy (RelaySample.switched.step RelaySample.moved).network
        { RelaySample.status with
          state := { SwitchSample.hostState with
            allocationGeneration := 4
            relayEndpoint := some ⟨"203.0.113.9", 40004⟩ }
          bridge := some ⟨4, [RelaySample.mobileIp]⟩ } RelaySample.mobileIp 2000 = true :=
  ⟨RelaySample.switching_runs.1.1, RelaySample.switching_keeps, by decide +kernel, by decide +kernel,
    by decide +kernel, by decide +kernel, by decide +kernel, by decide +kernel⟩

end Noland.Network
