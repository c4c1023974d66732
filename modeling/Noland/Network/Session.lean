import Noland.Network.Allocation
import Noland.Network.Authentication

/-!
A request is checked against the host revision and then dispatched, and each of the two takes the
manager's lock for itself. The local socket dispatches without a check. The requests that a
connection has executed are kept with the revision that the manager had when it was entered for
them.
-/

namespace Noland.Network

open Noland.Core Noland.Text Noland.Requests

/-- A method with its parameters. `malformed` is a mutating method whose parameters
cannot be read. -/
inductive RpcMethod where
  | getCapabilities
  | getLinkState
  | prepareConnectionProfile (request : PrepareConnectionProfileRequest)
  | commitConnectionProfile (request : ProfileRequest)
  | abortConnectionProfile (request : ProfileRequest)
  | prepareTurn (request : PrepareTurnRequest)
  | getNetworkStatus
  | installProbeSession
  | stopTurn
  | malformed (name : String)
  | unsupported (name : String)
  deriving DecidableEq

def isMutatingMethod : RpcMethod → Bool
  | .prepareTurn _ | .installProbeSession | .stopTurn | .prepareConnectionProfile _
  | .commitConnectionProfile _ | .abortConnectionProfile _ | .malformed _ => true
  | _ => false

inductive NetworkErrorCode where
  | invalidRequest
  | unsupportedMethod
  | controlOperationFailed
  | unsupportedProtocolVersion
  | unauthorized
  | replayedRequest
  | staleRevision
  deriving DecidableEq

def getLinkState (state : HostNetworkState) : TurnProg HostLinkState := do
  let state ← reconcileExpiredProfile state
  let observed : Nat ← request .getMtu
  let link : HostLinkState :=
    { state.linkState with
      observedMtu := some observed
      observedTransport := state.observedTransport }
  request (.remember { state with linkState := link })
  .done link

/-- The first part of `status`: an MTU that cannot be read is left as it was. -/
def observeLink (state : HostNetworkState) : TurnProg Unit := do
  let state ← reconcileExpiredProfile state
  let observed : Except String Nat ← tryRequest .getMtu
  let link : HostLinkState :=
    { state.linkState with
      observedMtu := observed.toOption.or state.linkState.observedMtu
      observedTransport := state.observedTransport }
  request (.remember { state with linkState := link })

/-- The transport that `status` reports, given whether the bridge has seen a packet lately. -/
def observedTransportOf (state : HostNetworkState) (fresh : Bool) : Option TransportKind :=
  if fresh then some .cloudflareTurn
  else if state.committedProfile.any fun profile => profile.desiredTransport = .direct then
    some .direct
  else state.observedTransport

/-- The second part of `status`: a bridge that has finished is degraded. -/
def refreshStatus (finished fresh : Bool) (inner : TurnInner) : RelayProg Unit := do
  let inner : TurnInner ←
    if finished && inner.bridge.isSome && inner.turnStatus = .ready then do
      let time : Timestamp ← ask .now
      let degraded : TurnInner :=
        { inner with turnStatus := .degraded, state := inner.state.touch time }
      ask (.remember degraded)
      ask (.persistState degraded.state)
      .done degraded
    else .done inner
  ask (.remember { inner with
    state := { inner.state with observedTransport := observedTransportOf inner.state fresh } })

def stoppedInner (inner : TurnInner) (time : Timestamp) : TurnInner :=
  { state := { inner.state.touch time with relayEndpoint := none, observedTransport := none }
    turnStatus := .awaitingCredentials }

def stopTurn (inner : TurnInner) : RelayProg HostNetworkState := do
  let stopped : Except String Unit ←
    if inner.bridge.isSome then tryAsk .stopBridge else .done (.ok ())
  let time : Timestamp ← ask .now
  ask (.remember (stoppedInner inner time))
  ask (.persistState (stoppedInner inner time).state)
  Prog.ofExcept stopped
  .done (stoppedInner inner time).state

def Relay.host (relay : Relay) : Host :=
  { memory := relay.inner.map TurnInner.state
    disk := relay.disk
    mtu := relay.mtu
    clock := relay.clock
    ticks := relay.ticks }

def Relay.withHost (relay : Relay) (host : Host) : Relay :=
  { relay with
    inner := relay.inner.map fun inner => { inner with state := host.memory.getD inner.state }
    disk := host.disk
    mtu := host.mtu
    clock := host.clock
    ticks := host.ticks }

def Outcome.code {Value : Type} : Outcome String Value → Option NetworkErrorCode
  | .value _ => none
  | _ => some .controlOperationFailed

/-- A call of the manager that ends. It holds the lock to its end. -/
inductive ProfileCall {Value : Type} (program : HostNetworkState → TurnProg Value) (relay : Relay) :
    Option NetworkErrorCode → Relay → Prop where
  | ends {inner : TurnInner} {outcome : Outcome String Value}
      {final : Config turnInterface String Host} (running : relay.inner = some inner)
      (run : Runs turnHandler (fun _ _ _ => True) (program inner.state) ⟨[], relay.host⟩ outcome
        final) (returns : outcome ≠ .stopped) :
      ProfileCall program relay (Outcome.code outcome) (relay.withHost final.state)

inductive RelayCallEnds {Value : Type} (program : TurnInner → RelayProg Value) (relay : Relay) :
    Option NetworkErrorCode → Relay → Prop where
  | ends {inner : TurnInner} {outcome : Outcome String Value}
      {final : Config relayInterface String Relay} (running : relay.inner = some inner)
      (run : Runs relayHandler (fun _ _ _ => True) (program inner) ⟨[], relay⟩ outcome final)
      (returns : outcome ≠ .stopped) :
      RelayCallEnds program relay (Outcome.code outcome) final.state

/-- `dispatch_method`: the error it reports, if any, and the host it leaves. Sessions of
probes are kept apart from the state of the host. -/
inductive Dispatches (relay : Relay) : RpcMethod → Option NetworkErrorCode → Relay → Prop where
  | getCapabilities : Dispatches relay .getCapabilities none relay
  | getLinkState {code : Option NetworkErrorCode} {later : Relay}
      (call : ProfileCall Network.getLinkState relay code later) :
      Dispatches relay .getLinkState code later
  | prepareConnectionProfile {code : Option NetworkErrorCode} {later : Relay}
      (request : PrepareConnectionProfileRequest)
      (call : ProfileCall (Network.prepareConnectionProfile request) relay code later) :
      Dispatches relay (.prepareConnectionProfile request) code later
  | commitConnectionProfile {code : Option NetworkErrorCode} {later : Relay}
      (request : ProfileRequest)
      (call : ProfileCall (Network.commitConnectionProfile request) relay code later) :
      Dispatches relay (.commitConnectionProfile request) code later
  | abortConnectionProfile {code : Option NetworkErrorCode} {later : Relay}
      (request : ProfileRequest)
      (call : ProfileCall (Network.abortConnectionProfile request) relay code later) :
      Dispatches relay (.abortConnectionProfile request) code later
  | prepareTurn {code : Option NetworkErrorCode} {later : Relay} (request : PrepareTurnRequest)
      (call : RelayCallEnds (Network.prepareTurn request) relay code later) :
      Dispatches relay (.prepareTurn request) code later
  | statusUnavailable {code : NetworkErrorCode} {later : Relay}
      (call : ProfileCall observeLink relay (some code) later) :
      Dispatches relay .getNetworkStatus (some code) later
  | getNetworkStatus {code : Option NetworkErrorCode} {middle later : Relay} (finished fresh : Bool)
      (first : ProfileCall observeLink relay none middle)
      (second : RelayCallEnds (refreshStatus finished fresh) middle code later) :
      Dispatches relay .getNetworkStatus code later
  | installProbeSession (code : Option NetworkErrorCode) :
      Dispatches relay .installProbeSession code relay
  | stopTurn {code : Option NetworkErrorCode} {later : Relay}
      (call : RelayCallEnds Network.stopTurn relay code later) :
      Dispatches relay .stopTurn code later
  | malformed (name : String) :
      Dispatches relay (.malformed name) (some .controlOperationFailed) relay
  | unsupported (name : String) :
      Dispatches relay (.unsupported name) (some .unsupportedMethod) relay

structure RpcRequest where
  protocolVersion : Nat := controlProtocolVersion
  controlSessionId : Uuid
  requestId : Uuid
  sequence : Nat
  expectedHostRevision : Option Nat
  method : RpcMethod
  deriving DecidableEq

structure RpcResponse where
  requestId : Option Uuid
  sequence : Nat
  hostRevision : Nat
  error : Option NetworkErrorCode
  deriving DecidableEq

def maxRpcBytes : Nat := 64 * 1024

/-- A message of the socket; a text that is no request is `none`. -/
inductive Frame where
  | text (bytes : Nat) (request : Option RpcRequest)
  | close
  | binary
  deriving DecidableEq

inductive Reception where
  | closes
  | refuses (requestId : Option Uuid) (sequence : Nat) (code : NetworkErrorCode)
  | admits (request : RpcRequest)
  deriving DecidableEq

def receive (session : Uuid) (expected : Nat) : Frame → Reception
  | .close => .closes
  | .binary => .refuses none expected .invalidRequest
  | .text bytes parsed =>
      if maxRpcBytes < bytes then .refuses none expected .invalidRequest
      else
        match parsed with
        | none => .refuses none expected .invalidRequest
        | some request =>
            if request.protocolVersion ≠ controlProtocolVersion then
              .refuses (some request.requestId) request.sequence .unsupportedProtocolVersion
            else if request.controlSessionId ≠ session then
              .refuses (some request.requestId) request.sequence .unauthorized
            else if request.sequence ≠ expected then
              .refuses (some request.requestId) request.sequence .replayedRequest
            else .admits request

def RpcRequest.stale (request : RpcRequest) (revision : Nat) : Bool :=
  isMutatingMethod request.method && request.expectedHostRevision.any (· ≠ revision)

inductive SessionPhase where
  | waiting
  | admitted (request : RpcRequest)
  | checked (request : RpcRequest)
  | executed (request : RpcRequest) (code : Option NetworkErrorCode)
  | ended
  deriving DecidableEq

/-- `handled` counts the requests that were answered. -/
structure Session where
  sessionId : Uuid
  expectedSequence : Nat := 1
  phase : SessionPhase := .waiting
  sent : List RpcResponse := []
  handled : Nat := 0
  deriving DecidableEq

def Session.finish (session : Session) (response : RpcResponse) (delivered : Bool) : Session :=
  if delivered then
    { session with
      phase := .waiting
      sent := session.sent ++ [response]
      expectedSequence := saturatingSucc session.expectedSequence
      handled := session.handled + 1 }
  else { session with phase := .ended }

/-- A request that was dispatched, with the revision at that moment. -/
structure Execution where
  session : Nat
  request : RpcRequest
  revision : Nat
  deriving DecidableEq

structure Control where
  relay : Relay
  sessions : List Session := []
  executions : List Execution := []

namespace Control

def revision (control : Control) : Nat :=
  (control.relay.inner.map fun inner => inner.state.hostRevision).getD 0

def setSession (control : Control) (index : Nat) (session : Session) : Control :=
  { control with sessions := control.sessions.set index session }

end Control

inductive ControlEvent where
  | opened (sessionId : Uuid)
  | received (index : Nat) (frame : Frame)
  | checked (index : Nat)
  | dispatched (index : Nat)
  | replied (index : Nat)
  | localCall (method : RpcMethod)

inductive ControlStep (control : Control) : ControlEvent → Control → Prop where
  | opened (sessionId : Uuid) :
      ControlStep control (.opened sessionId)
        { control with sessions := control.sessions ++ [{ sessionId := sessionId }] }
  | closed {index : Nat} {session : Session} {frame : Frame}
      (present : control.sessions[index]? = some session) (waiting : session.phase = .waiting)
      (closes : receive session.sessionId session.expectedSequence frame = .closes) :
      ControlStep control (.received index frame)
        (control.setSession index { session with phase := .ended })
  | refused {index : Nat} {session : Session} {frame : Frame} {requestId : Option Uuid}
      {sequence : Nat} {code : NetworkErrorCode}
      (present : control.sessions[index]? = some session) (waiting : session.phase = .waiting)
      (refuses : receive session.sessionId session.expectedSequence frame =
        .refuses requestId sequence code) :
      ControlStep control (.received index frame)
        (control.setSession index { session with
          phase := .ended
          sent := session.sent ++ [⟨requestId, sequence, control.revision, some code⟩] })
  | admitted {index : Nat} {session : Session} {frame : Frame} {request : RpcRequest}
      (present : control.sessions[index]? = some session) (waiting : session.phase = .waiting)
      (admits : receive session.sessionId session.expectedSequence frame = .admits request) :
      ControlStep control (.received index frame)
        (control.setSession index { session with phase := .admitted request })
  | stale {index : Nat} {session : Session} {request : RpcRequest} (delivered : Bool)
      (present : control.sessions[index]? = some session)
      (admitted : session.phase = .admitted request)
      (stale : request.stale control.revision = true) :
      ControlStep control (.checked index)
        (control.setSession index (session.finish
          ⟨some request.requestId, request.sequence, control.revision, some .staleRevision⟩
          delivered))
  | checked {index : Nat} {session : Session} {request : RpcRequest}
      (present : control.sessions[index]? = some session)
      (admitted : session.phase = .admitted request)
      (current : request.stale control.revision = false) :
      ControlStep control (.checked index)
        (control.setSession index { session with phase := .checked request })
  | dispatched {index : Nat} {session : Session} {request : RpcRequest}
      {code : Option NetworkErrorCode} {later : Relay}
      (present : control.sessions[index]? = some session)
      (checked : session.phase = .checked request)
      (dispatches : Dispatches control.relay request.method code later) :
      ControlStep control (.dispatched index)
        { relay := later
          sessions := control.sessions.set index { session with phase := .executed request code }
          executions := control.executions ++ [⟨index, request, control.revision⟩] }
  | replied {index : Nat} {session : Session} {request : RpcRequest}
      {code : Option NetworkErrorCode} (delivered : Bool)
      (present : control.sessions[index]? = some session)
      (executed : session.phase = .executed request code) :
      ControlStep control (.replied index)
        (control.setSession index (session.finish
          ⟨some request.requestId, request.sequence, control.revision, code⟩ delivered))
  | localCall {method : RpcMethod} {code : Option NetworkErrorCode} {later : Relay}
      (dispatches : Dispatches control.relay method code later) :
      ControlStep control (.localCall method) { control with relay := later }

inductive Controlled (allow : Control → ControlEvent → Control → Prop) (relay : Relay) :
    Control → Prop where
  | initial : Controlled allow relay { relay := relay }
  | step {control later : Control} {event : ControlEvent} (reached : Controlled allow relay control)
      (stepped : ControlStep control event later) (allowed : allow control event later) :
      Controlled allow relay later

def RpcRequest.conditional (request : RpcRequest) : Bool :=
  isMutatingMethod request.method && request.expectedHostRevision.isSome

/-- Conditional requests found the revision they expect, and a session's requests were
executed in increasing order. -/
structure Linearizable (executions : List Execution) : Prop where
  revisions : ∀ execution ∈ executions, isMutatingMethod execution.request.method = true →
    ∀ revision, execution.request.expectedHostRevision = some revision →
      execution.revision = revision
  sequences : executions.Pairwise fun earlier later =>
    earlier.session = later.session → earlier.request.sequence < later.request.sequence

def Session.exposed (session : Session) : Bool :=
  match session.phase with
  | .checked request => request.conditional
  | _ => false

/-- No step but its own changes the revision while a session is exposed, and a session
gets no request after number 2 ^ 64 - 1. -/
def Undisturbed (control : Control) (event : ControlEvent) (later : Control) : Prop :=
  match event with
  | .received index _ =>
      ∀ session, control.sessions[index]? = some session → session.handled < 2 ^ 64 - 1
  | .dispatched index =>
      later.revision ≠ control.revision →
        ∀ other session, control.sessions[other]? = some session → other ≠ index →
          session.exposed = false
  | .localCall _ =>
      later.revision ≠ control.revision → ∀ session ∈ control.sessions, session.exposed = false
  | _ => True

def Before (executions : List Execution) (index bound : Nat) : Prop :=
  ∀ execution ∈ executions, execution.session = index → execution.request.sequence ≤ bound

variable {executions : List Execution}

theorem Before.mono {index bound higher : Nat} (before : Before executions index bound)
    (higher_than : bound ≤ higher) : Before executions index higher := by
  intro execution member same
  exact (before execution member same).trans higher_than

theorem Before.append {index bound : Nat} {execution : Execution}
    (before : Before executions index bound)
    (last : execution.session = index → execution.request.sequence ≤ bound) :
    Before (executions ++ [execution]) index bound := by
  intro other member same
  rcases List.mem_append.mp member with old | new
  · exact before other old same
  · cases List.mem_singleton.mp new
    exact last same

def Fits (executions : List Execution) (revision index : Nat) (session : Session) : Prop :=
  session.expectedSequence = min (session.handled + 1) (2 ^ 64 - 1) ∧
    match session.phase with
    | .waiting => Before executions index session.handled
    | .admitted request =>
        request.sequence = session.handled + 1 ∧ Before executions index session.handled
    | .checked request =>
        request.sequence = session.handled + 1 ∧ Before executions index session.handled ∧
          request.stale revision = false
    | .executed _ _ => Before executions index (session.handled + 1)
    | .ended => True

structure Serialized (control : Control) : Prop where
  linear : Linearizable control.executions
  known : ∀ execution ∈ control.executions, execution.session < control.sessions.length
  fits : ∀ index session, control.sessions[index]? = some session →
    Fits control.executions control.revision index session

theorem receive_admits {session : Uuid} {expected : Nat} {frame : Frame} {request : RpcRequest}
    (admits : receive session expected frame = .admits request) : request.sequence = expected := by
  unfold receive at admits
  split at admits
  · cases admits
  · cases admits
  · split at admits
    · cases admits
    · split at admits
      · cases admits
      · split at admits
        · cases admits
        · split at admits
          · cases admits
          · split at admits
            · cases admits
            · rename_i sequence
              cases admits
              exact not_not.mp sequence

theorem stale_of_unconditional {request : RpcRequest} (free : request.conditional = false)
    (revision : Nat) : request.stale revision = false := by
  unfold RpcRequest.conditional at free
  unfold RpcRequest.stale
  cases expected : request.expectedHostRevision with
  | none => exact Bool.and_false _
  | some value =>
      rw [expected, Option.isSome_some, Bool.and_true] at free
      rw [free, Bool.false_and]

theorem revision_of_fresh {request : RpcRequest} {revision expected : Nat}
    (fresh : request.stale revision = false) (mutating : isMutatingMethod request.method = true)
    (expects : request.expectedHostRevision = some expected) : revision = expected := by
  unfold RpcRequest.stale at fresh
  rw [mutating, expects] at fresh
  exact (by simpa using fresh : expected = revision).symm

theorem saturatingSucc_min (handled : Nat) :
    saturatingSucc (min (handled + 1) (2 ^ 64 - 1)) = min (handled + 1 + 1) (2 ^ 64 - 1) := by
  unfold saturatingSucc
  split <;> omega

theorem Fits.finish {revision index : Nat} {session : Session}
    (expects : session.expectedSequence = min (session.handled + 1) (2 ^ 64 - 1))
    (before : Before executions index (session.handled + 1)) (response : RpcResponse)
    (delivered : Bool) : Fits executions revision index (session.finish response delivered) := by
  cases delivered with
  | false => exact ⟨expects, trivial⟩
  | true =>
      refine ⟨?_, before⟩
      show saturatingSucc session.expectedSequence = min (session.handled + 1 + 1) (2 ^ 64 - 1)
      rw [expects]
      exact saturatingSucc_min session.handled

theorem Fits.revise {revision later index : Nat} {session : Session}
    (fits : Fits executions revision index session)
    (unseen : later ≠ revision → session.exposed = false) :
    Fits executions later index session := by
  by_cases same : later = revision
  · rw [same]
    exact fits
  · have hidden := unseen same
    unfold Session.exposed at hidden
    unfold Fits at fits ⊢
    cases phase : session.phase with
    | checked request =>
        rw [phase] at fits hidden
        exact ⟨fits.1, fits.2.1, fits.2.2.1, stale_of_unconditional hidden later⟩
    | _ =>
        rw [phase] at fits
        exact fits

theorem Fits.append {revision index : Nat} {session : Session} {execution : Execution}
    (fits : Fits executions revision index session) (other : execution.session ≠ index) :
    Fits (executions ++ [execution]) revision index session := by
  have kept {bound : Nat} (before : Before executions index bound) :
      Before (executions ++ [execution]) index bound :=
    before.append fun same => absurd same other
  unfold Fits at fits ⊢
  cases phase : session.phase with
  | waiting =>
      rw [phase] at fits
      exact ⟨fits.1, kept fits.2⟩
  | admitted request =>
      rw [phase] at fits
      exact ⟨fits.1, fits.2.1, kept fits.2.2⟩
  | checked request =>
      rw [phase] at fits
      exact ⟨fits.1, fits.2.1, kept fits.2.2.1, fits.2.2.2⟩
  | executed request code =>
      rw [phase] at fits
      exact ⟨fits.1, kept fits.2⟩
  | ended =>
      rw [phase] at fits
      exact fits

theorem Serialized.setSession {control : Control} {index : Nat} {session : Session}
    (serialized : Serialized control)
    (fits : Fits control.executions control.revision index session) :
    Serialized (control.setSession index session) := by
  refine ⟨serialized.linear, ?_, ?_⟩
  · intro execution member
    show execution.session < (control.sessions.set index session).length
    rw [List.length_set]
    exact serialized.known execution member
  · intro other found present
    change (control.sessions.set index session)[other]? = some found at present
    rw [List.getElem?_set] at present
    split at present
    · rename_i same
      split at present
      · cases present
        rw [← same]
        exact fits
      · cases present
    · exact serialized.fits other found present

theorem Serialized.relay {control : Control} {later : Relay} (serialized : Serialized control)
    (unseen : ({ control with relay := later } : Control).revision ≠ control.revision →
      ∀ session ∈ control.sessions, session.exposed = false) :
    Serialized { control with relay := later } := by
  refine ⟨serialized.linear, serialized.known, ?_⟩
  intro index session present
  apply (serialized.fits index session present).revise
  intro changed
  exact unseen changed session (List.mem_of_getElem? present)

theorem Serialized.opened {control : Control} (serialized : Serialized control)
    (sessionId : Uuid) :
    Serialized { control with sessions := control.sessions ++ [{ sessionId := sessionId }] } := by
  refine ⟨serialized.linear, ?_, ?_⟩
  · intro execution member
    have bound := serialized.known execution member
    simp only [List.length_append, List.length_singleton]
    omega
  · intro index session present
    rw [List.getElem?_append] at present
    split at present
    · exact serialized.fits index session present
    · rename_i beyond
      have last := (List.getElem?_eq_some_iff.mp present).1
      rw [List.length_singleton] at last
      rw [Nat.lt_one_iff.mp last] at present
      cases present
      refine ⟨rfl, ?_⟩
      intro execution member here
      have bound := serialized.known execution member
      omega

theorem Serialized.dispatched {control : Control} {index : Nat} {session : Session}
    {request : RpcRequest} {code : Option NetworkErrorCode} {later : Relay}
    (serialized : Serialized control) (present : control.sessions[index]? = some session)
    (checked : session.phase = .checked request)
    (unseen : ({ control with relay := later } : Control).revision ≠ control.revision →
      ∀ other found, control.sessions[other]? = some found → other ≠ index →
        found.exposed = false) :
    Serialized
      { relay := later
        sessions := control.sessions.set index { session with phase := .executed request code }
        executions := control.executions ++ [⟨index, request, control.revision⟩] } := by
  have fits := serialized.fits index session present
  unfold Fits at fits
  rw [checked] at fits
  obtain ⟨expects, sequence, before, fresh⟩ := fits
  refine ⟨⟨?_, ?_⟩, ?_, ?_⟩
  · intro execution member mutating revision expected
    rcases List.mem_append.mp member with old | new
    · exact serialized.linear.revisions execution old mutating revision expected
    · cases List.mem_singleton.mp new
      exact revision_of_fresh fresh mutating expected
  · apply List.pairwise_append.mpr
    refine ⟨serialized.linear.sequences, List.pairwise_singleton _ _, ?_⟩
    intro earlier member execution new same
    cases List.mem_singleton.mp new
    have bound := before earlier member same
    show earlier.request.sequence < request.sequence
    omega
  · intro execution member
    simp only [List.length_set]
    rcases List.mem_append.mp member with old | new
    · exact serialized.known execution old
    · cases List.mem_singleton.mp new
      exact (List.getElem?_eq_some_iff.mp present).1
  · intro other found held
    change (control.sessions.set index _)[other]? = some found at held
    rw [List.getElem?_set] at held
    split at held
    · rename_i same
      split at held
      · cases held
        rw [← same]
        refine ⟨expects, ?_⟩
        apply (before.mono (Nat.le_succ _)).append
        intro _
        exact sequence.le
      · cases held
    · rename_i different
      have kept := (serialized.fits other found held).revise fun changed =>
        unseen changed other found held (Ne.symm different)
      exact kept.append different

theorem Serialized.step {control later : Control} {event : ControlEvent}
    (serialized : Serialized control) (stepped : ControlStep control event later)
    (undisturbed : Undisturbed control event later) : Serialized later := by
  cases stepped with
  | opened sessionId => exact serialized.opened sessionId
  | closed present waiting closes =>
      exact serialized.setSession ⟨(serialized.fits _ _ present).1, trivial⟩
  | refused present waiting refuses =>
      exact serialized.setSession ⟨(serialized.fits _ _ present).1, trivial⟩
  | @admitted index session frame request present waiting admits =>
      have fits := serialized.fits _ _ present
      unfold Fits at fits
      rw [waiting] at fits
      apply serialized.setSession
      refine ⟨fits.1, ?_, fits.2⟩
      have bound := undisturbed _ present
      have expects := fits.1
      rw [receive_admits admits]
      show session.expectedSequence = session.handled + 1
      omega
  | stale delivered present admitted stale =>
      have fits := serialized.fits _ _ present
      unfold Fits at fits
      rw [admitted] at fits
      exact serialized.setSession (Fits.finish fits.1 (fits.2.2.mono (Nat.le_succ _)) _ delivered)
  | checked present admitted current =>
      have fits := serialized.fits _ _ present
      unfold Fits at fits
      rw [admitted] at fits
      exact serialized.setSession ⟨fits.1, fits.2.1, fits.2.2, current⟩
  | dispatched present checked dispatches =>
      exact serialized.dispatched present checked undisturbed
  | replied delivered present executed =>
      have fits := serialized.fits _ _ present
      unfold Fits at fits
      rw [executed] at fits
      exact serialized.setSession (Fits.finish fits.1 fits.2 _ delivered)
  | localCall dispatches => exact serialized.relay undisturbed

theorem controlled_serialized {relay : Relay} {control : Control}
    (reached : Controlled Undisturbed relay control) : Serialized control := by
  induction reached with
  | initial =>
      refine ⟨⟨?_, .nil⟩, ?_, ?_⟩
      · intro execution member
        cases member
      · intro execution member
        cases member
      · intro index session present
        cases present
  | step _ stepped allowed ih => exact ih.step stepped allowed

/-- While nothing but its own dispatch changes the revision after a check, conditional
requests find the revision they expect, and every session executes its requests once and
in order. -/
theorem requests_linearizable {relay : Relay} {control : Control}
    (reached : Controlled Undisturbed relay control) : Linearizable control.executions :=
  (controlled_serialized reached).linear

def sampleHostState : HostNetworkState :=
  { hostRevision := 0
    updatedAt := 0
    instanceId := "host"
    allocationGeneration := 0
    relayEndpoint := none
    observedTransport := none
    linkState := ⟨"wg0", some 1420, 0, none, none⟩
    committedProfile := none
    committedOperationId := none
    pendingProfile := none }

def sampleRelay : Relay := { inner := some { state := sampleHostState } }

def stopRequest (session : Uuid) : RpcRequest :=
  { controlSessionId := session
    requestId := firstOperation
    sequence := 1
    expectedHostRevision := some 0
    method := .stopTurn }

def stopFrame (session : Uuid) : Frame := .text 200 (some (stopRequest session))

/-- The host after `stop_turn` without faults. -/
def afterStop (relay : Relay) (inner : TurnInner) : Relay :=
  ((stopTurn inner).exec relayHandler [] ⟨[], relay⟩).2.2.state

theorem stopTurn_dispatches {relay : Relay} {inner : TurnInner} (running : relay.inner = some inner)
    (idle : inner.bridge = none) : Dispatches relay .stopTurn none (afterStop relay inner) := by
  have run := exec_runs relayHandler (stopTurn inner) [] ⟨[], relay⟩
  have outcome : ((stopTurn inner).exec relayHandler [] ⟨[], relay⟩).1 =
      .value (stoppedInner inner (relay.clock relay.ticks)).state := by
    unfold stopTurn
    rw [idle]
    rfl
  rw [outcome] at run
  exact .stopTurn (.ends running run nofun)

def oneChecked : Control :=
  { relay := sampleRelay
    sessions :=
      [{ sessionId := firstOperation, phase := .checked (stopRequest firstOperation) }] }

theorem oneChecked_reached : Controlled Undisturbed sampleRelay oneChecked := by
  have opened : Controlled Undisturbed sampleRelay _ :=
    .step .initial (.opened firstOperation) trivial
  have admitted : Controlled Undisturbed sampleRelay _ :=
    .step opened (@ControlStep.admitted _ 0 _ (stopFrame firstOperation) _ rfl rfl rfl)
      (by
        intro session present
        cases present
        decide)
  have checked : Controlled Undisturbed sampleRelay _ :=
    .step admitted (@ControlStep.checked _ 0 _ _ rfl rfl rfl) trivial
  exact checked

theorem one_request_linearizable :
    ∃ control, Controlled Undisturbed sampleRelay control ∧ control.executions.length = 1 ∧
      Linearizable control.executions := by
  have dispatches : Dispatches oneChecked.relay .stopTurn none _ :=
    stopTurn_dispatches rfl rfl
  have reached : Controlled Undisturbed sampleRelay _ :=
    .step oneChecked_reached (@ControlStep.dispatched _ 0 _ _ _ _ rfl rfl dispatches)
      (by
        intro _ other session present different
        cases other with
        | zero => exact absurd rfl different
        | succ rest => cases present)
  exact ⟨_, reached, rfl, requests_linearizable reached⟩

def bothChecked : Control :=
  { relay := sampleRelay
    sessions :=
      [{ sessionId := firstOperation, phase := .checked (stopRequest firstOperation) },
        { sessionId := secondOperation, phase := .checked (stopRequest secondOperation) }] }

theorem bothChecked_reached : Controlled (fun _ _ _ => True) sampleRelay bothChecked := by
  have opened : Controlled (fun _ _ _ => True) sampleRelay _ :=
    .step (.step .initial (.opened firstOperation) trivial) (.opened secondOperation) trivial
  have first : Controlled (fun _ _ _ => True) sampleRelay _ :=
    .step opened (@ControlStep.admitted _ 0 _ (stopFrame firstOperation) _ rfl rfl rfl) trivial
  have second : Controlled (fun _ _ _ => True) sampleRelay _ :=
    .step first (@ControlStep.admitted _ 1 _ (stopFrame secondOperation) _ rfl rfl rfl) trivial
  have passed : Controlled (fun _ _ _ => True) sampleRelay _ :=
    .step second (@ControlStep.checked _ 0 _ _ rfl rfl rfl) trivial
  have checked : Controlled (fun _ _ _ => True) sampleRelay _ :=
    .step passed (@ControlStep.checked _ 1 _ _ rfl rfl rfl) trivial
  exact checked

/-- The second request expects revision 0 and takes effect at revision 1. -/
theorem stale_request_takes_effect :
    ∃ control, Controlled (fun _ _ _ => True) sampleRelay control ∧
      control.executions = [⟨0, stopRequest firstOperation, 0⟩, ⟨1, stopRequest secondOperation, 1⟩] ∧
      ¬ Linearizable control.executions := by
  have first : Controlled (fun _ _ _ => True) sampleRelay _ :=
    .step bothChecked_reached
      (@ControlStep.dispatched _ 0 _ _ _ _ rfl rfl (stopTurn_dispatches rfl rfl)) trivial
  have second : Controlled (fun _ _ _ => True) sampleRelay _ :=
    .step first (@ControlStep.dispatched _ 1 _ _ _ _ rfl rfl (stopTurn_dispatches rfl rfl)) trivial
  refine ⟨_, second, rfl, ?_⟩
  intro linear
  have same : 1 = 0 := linear.revisions ⟨1, stopRequest secondOperation, 1⟩
    (List.mem_cons_of_mem _ List.mem_cons_self) rfl 0 rfl
  cases same

end Noland.Network
