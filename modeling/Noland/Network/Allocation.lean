import Mathlib.Data.List.Infix
import Noland.Network.TurnManager

/-!
`prepare_turn` starts a new bridge to a relay, writes the state that names it and only then lets
it take the place of the old one. The calls that change the state hold one lock; between the steps
of a call an operation may fail, with or without effect, and the process may stop. Times and
addresses are modelled by what they stand for. The file also has the status and the expiry of the
allocation, which nothing reads back.
-/

namespace Noland.Network

open Noland.Core Noland.Text Noland.Requests

inductive TurnRuntimeStatus where
  | disabled
  | awaitingCredentials
  | preparing
  | ready
  | degraded
  | failed
  deriving DecidableEq

structure PrepareTurnRequest where
  operationId : Uuid
  requestedGeneration : Nat
  turnUrls : List String
  username : String
  credential : String
  credentialExpiresAt : Option Timestamp
  expectedPeerIps : List (Option String)
  effectiveMtu : Nat
  deriving DecidableEq

structure PrepareTurnResponse where
  allocationGeneration : Nat
  relayEndpoint : NetworkEndpoint
  credentialExpiresAt : Timestamp
  permissionIps : List String
  deriving DecidableEq

structure TurnBridgeConfig where
  turnUrl : String
  username : String
  credential : String
  expectedPeerIps : List String
  effectiveMtu : Nat
  allocationGeneration : Nat
  deriving DecidableEq

structure TurnBridge where
  allocationGeneration : Nat
  relayEndpoint : NetworkEndpoint
  allowedPeerIps : List String
  deriving DecidableEq

/-- `TurnManagerInner`. -/
structure TurnInner where
  state : HostNetworkState
  turnStatus : TurnRuntimeStatus := .awaitingCredentials
  credentialExpiresAt : Option Timestamp := none
  bridge : Option TurnBridge := none
  lastPrepare : Option (Uuid × PrepareTurnResponse) := none
  retiring : List TurnBridge := []
  deriving DecidableEq

inductive RelayOp where
  | remember (inner : TurnInner)
  | now
  | getMtu
  | setMtu (mtu : Nat)
  | persistState (state : HostNetworkState)
  | loadPreviousState
  | startBridge (config : TurnBridgeConfig)
  | stopBridge

def RelayOp.Ret : RelayOp → Type
  | .now => Timestamp
  | .getMtu => Nat
  | .loadPreviousState => Option HostNetworkState
  | .startBridge _ => NetworkEndpoint
  | _ => Unit

def relayInterface : Interface := { Op := RelayOp, Ret := RelayOp.Ret }

abbrev RelayProg := Prog relayInterface String

/-- A host with its bridges. `started` counts the allocations, and `relays` is the
endpoint that each of them gets. -/
structure Relay where
  inner : Option TurnInner := none
  disk : Option HostNetworkState := none
  mtu : Nat := 1420
  started : Nat := 0
  relays : Nat → NetworkEndpoint := fun _ => ⟨"192.0.2.1", 3478⟩
  clock : Nat → Timestamp := fun _ => 0
  ticks : Nat := 0

def Relay.act (relay : Relay) : (op : RelayOp) → Except String op.Ret × Relay
  | .remember inner => (.ok (), { relay with inner := some inner })
  | .now => (.ok (relay.clock relay.ticks), { relay with ticks := relay.ticks + 1 })
  | .getMtu => (.ok relay.mtu, relay)
  | .setMtu mtu =>
      if mtuInRange mtu then (.ok (), { relay with mtu := mtu })
      else (.error "WireGuard MTU must be between 576 and 1500 bytes", relay)
  | .persistState state => (.ok (), { relay with disk := some state })
  | .loadPreviousState => (.ok relay.disk, relay)
  | .startBridge _ => (.ok (relay.relays relay.started), { relay with started := relay.started + 1 })
  | .stopBridge => (.ok (), relay)

def relayHandler : Handler relayInterface String Relay where
  act op relay := relay.act op
  internal
    | .remember _ | .now => true
    | _ => false

def ask (op : RelayOp) : RelayProg op.Ret := @Prog.perform relayInterface String op

def tryAsk (op : RelayOp) : RelayProg (Except String op.Ret) :=
  @Prog.observe relayInterface String op

def credentialLimit : Timestamp := 48 * 3600000 + 300000

def isUdpUrl (url : String) : Bool :=
  "turn:".toList.isPrefixOf url.toList && decide ("transport=udp".toList <:+: url.toList)

def parsePeers : List (Option String) → Except String (List String)
  | [] => .ok []
  | none :: _ => .error "invalid expected peer IP"
  | some ip :: rest => do
      let others ← parsePeers rest
      .ok (ip :: others)

def admitTurn (state : HostNetworkState) (request : PrepareTurnRequest) (time : Timestamp) :
    Except String (TurnBridgeConfig × Timestamp) :=
  if request.requestedGeneration ≤ state.allocationGeneration then
    .error ("requested allocation generation " ++ toString request.requestedGeneration ++
      " must exceed active generation " ++ toString state.allocationGeneration)
  else if mtuInRange request.effectiveMtu = false then
    .error "effective TURN MTU must be between 576 and 1500 bytes"
  else
    match request.credentialExpiresAt with
    | none => .error "credential_expires_at must be RFC 3339"
    | some expires =>
        if expires ≤ time then .error "TURN credential is already expired"
        else if time + credentialLimit < expires then
          .error "TURN credential expiry exceeds the 48-hour provider limit"
        else
          match request.turnUrls.find? isUdpUrl with
          | none => .error "prepare_turn requires a UDP TURN URL"
          | some turnUrl => do
              let peers ← parsePeers request.expectedPeerIps
              if peers = [] then .error "prepare_turn requires at least one expected peer IP"
              else
                .ok (⟨turnUrl, request.username, request.credential, peers, request.effectiveMtu,
                  request.requestedGeneration⟩, expires)

def TurnInner.failedStatus (inner : TurnInner) : TurnRuntimeStatus :=
  if inner.bridge.isSome then .degraded else .failed

def failTurn (inner : TurnInner) (text : String) : RelayProg PrepareTurnResponse := do
  let time : Timestamp ← ask .now
  let failed : TurnInner :=
    { inner with turnStatus := inner.failedStatus, state := inner.state.touch time }
  ask (.remember failed)
  let _ ← tryAsk (.persistState failed.state)
  .throw text

def readyState (state : HostNetworkState) (generation : Nat) (endpoint : NetworkEndpoint)
    (time : Timestamp) : HostNetworkState :=
  { state.touch time with allocationGeneration := generation, relayEndpoint := some endpoint }

def installed (inner : TurnInner) (ready : HostNetworkState) (config : TurnBridgeConfig)
    (endpoint : NetworkEndpoint) (expires : Timestamp) (operation : Uuid)
    (response : PrepareTurnResponse) : TurnInner :=
  { state := ready
    turnStatus := .ready
    credentialExpiresAt := some expires
    bridge := some ⟨config.allocationGeneration, endpoint, config.expectedPeerIps⟩
    lastPrepare := some (operation, response)
    retiring := inner.retiring ++ inner.bridge.toList }

def commitTurn (inner : TurnInner) (config : TurnBridgeConfig) (endpoint : NetworkEndpoint)
    (expires : Timestamp) (operation : Uuid) : RelayProg PrepareTurnResponse := do
  let time : Timestamp ← ask .now
  let ready := readyState inner.state config.allocationGeneration endpoint time
  let response : PrepareTurnResponse :=
    ⟨config.allocationGeneration, endpoint, expires, config.expectedPeerIps⟩
  match ← tryAsk (.persistState ready) with
  | .error _ => do
      let _ ← tryAsk .stopBridge
      failTurn inner "failed committing replacement TURN allocation"
  | .ok _ => do
      ask (.remember (installed inner ready config endpoint expires operation response))
      .done response

def allocateTurn (inner : TurnInner) (config : TurnBridgeConfig) (expires : Timestamp)
    (operation : Uuid) : RelayProg PrepareTurnResponse := do
  let time : Timestamp ← ask .now
  let preparing : TurnInner :=
    { inner with turnStatus := .preparing, state := inner.state.touch time }
  ask (.remember preparing)
  ask (.persistState preparing.state)
  match ← tryAsk (.startBridge config) with
  | .error text => failTurn preparing text
  | .ok endpoint => commitTurn preparing config endpoint expires operation

def TurnInner.replayed (inner : TurnInner) (operation : Uuid) : Option PrepareTurnResponse :=
  match inner.lastPrepare with
  | some (last, response) => if last = operation then some response else none
  | none => none

def prepareTurn (request : PrepareTurnRequest) (inner : TurnInner) :
    RelayProg PrepareTurnResponse :=
  match inner.replayed request.operationId with
  | some response => .done response
  | none => do
      let time : Timestamp ← ask .now
      let admitted ← Prog.ofExcept (admitTurn inner.state request time)
      allocateTurn inner admitted.1 admitted.2 request.operationId

def askWithContext (op : RelayOp) (text : String) : RelayProg op.Ret := do
  match ← tryAsk op with
  | .ok value => .done value
  | .error _ => .throw text

def recoverRelayMtu (previous : Option HostNetworkState) : RelayProg Unit :=
  match previous.bind HostNetworkState.pendingProfile with
  | some pending =>
      askWithContext (.setMtu pending.previousMtu)
        "failed rolling back an interrupted connection profile"
  | none =>
      match previous.bind HostNetworkState.committedProfile with
      | some profile =>
          askWithContext (.setMtu profile.innerMtu)
            "failed reapplying the committed connection profile"
      | none => .done ()

def startFrom (settings : ManagerSettings) (previous : Option HostNetworkState) :
    RelayProg Unit := do
  recoverRelayMtu previous
  let observed : Except String Nat ← tryAsk .getMtu
  let time : Timestamp ← ask .now
  ask (.persistState (startedState settings previous observed time))
  ask (.remember { state := startedState settings previous observed time })

/-- `TurnManager::new`. A state file that cannot be read is taken for a missing one. -/
def startRelay (settings : ManagerSettings) : RelayProg Unit := do
  let previous : Except String (Option HostNetworkState) ← tryAsk .loadPreviousState
  startFrom settings previous.toOption.join

abbrev Preparation := Uuid × PrepareTurnResponse

def gained (inner : TurnInner) (request : PrepareTurnRequest) :
    Outcome String PrepareTurnResponse → List Preparation
  | .value response =>
      if (inner.replayed request.operationId).isSome then [] else [(request.operationId, response)]
  | _ => []

def surviving {Value : Type} (outcome : Outcome String Value) (relay : Relay) : Relay :=
  match outcome with
  | .stopped => { relay with inner := none }
  | _ => relay

/-- The preparation whose allocation is in use. It is gone with the process. -/
def currentAfter (current : Option Preparation) (inner : TurnInner) (request : PrepareTurnRequest) :
    Outcome String PrepareTurnResponse → Option Preparation
  | .stopped => none
  | outcome => (gained inner request outcome).getLast?.or current

abbrev Allowed := Config relayInterface String Relay → Event relayInterface String → Relay → Prop

/-- The hosts that calls and restarts lead to, with the preparations that succeeded and
the one of them that the running process made last. -/
inductive Allocated (allow : Allowed) (initial : Relay) :
    Relay → List Preparation → Option Preparation → Prop where
  | initial : Allocated allow initial { initial with inner := none } [] none
  | halted {relay : Relay} {log : List Preparation} {current : Option Preparation}
      (reached : Allocated allow initial relay log current) :
      Allocated allow initial { relay with inner := none } log none
  | restarted {relay : Relay} {log : List Preparation} {current : Option Preparation}
      {outcome : Outcome String Unit} {final : Config relayInterface String Relay}
      (settings : ManagerSettings) (reached : Allocated allow initial relay log current)
      (idle : relay.inner = none)
      (run : Runs relayHandler allow (startRelay settings) ⟨[], relay⟩ outcome final) :
      Allocated allow initial (surviving outcome final.state) log none
  | called {relay : Relay} {log : List Preparation} {current : Option Preparation}
      {inner : TurnInner} {outcome : Outcome String PrepareTurnResponse}
      {final : Config relayInterface String Relay} (request : PrepareTurnRequest)
      (reached : Allocated allow initial relay log current) (running : relay.inner = some inner)
      (run : Runs relayHandler allow (prepareTurn request inner) ⟨[], relay⟩ outcome final) :
      Allocated allow initial (surviving outcome final.state)
        (log ++ gained inner request outcome) (currentAfter current inner request outcome)

def Readable : Allowed := fun _ event _ =>
  match event with
  | ⟨.loadPreviousState, .error _⟩ => False
  | _ => True

structure SameAllocation (before after : TurnInner) : Prop where
  bridge : after.bridge = before.bridge
  endpoint : after.state.relayEndpoint = before.state.relayEndpoint
  generation : after.state.allocationGeneration = before.state.allocationGeneration
  operation : after.lastPrepare = before.lastPrepare

theorem SameAllocation.refl (inner : TurnInner) : SameAllocation inner inner :=
  ⟨rfl, rfl, rfl, rfl⟩

def Above (log : List Preparation) (state : HostNetworkState) : Prop :=
  ∀ entry ∈ log, entry.2.allocationGeneration ≤ state.allocationGeneration

theorem Above.of_same {log : List Preparation} {state other : HostNetworkState}
    (above : Above log state) (same : other.allocationGeneration = state.allocationGeneration) :
    Above log other := by
  intro entry member
  rw [same]
  exact above entry member

def Filed (log : List Preparation) (relay : Relay) : Prop :=
  log ≠ [] → ∃ stored, relay.disk = some stored ∧ Above log stored

/-- The allocation of `inner` is in force. -/
def InForce (log : List Preparation) (inner : TurnInner) (relay : Relay) : Prop :=
  Filed log relay ∧ ∃ now, relay.inner = some now ∧ SameAllocation inner now

def Harmless (log : List Preparation) (inner : TurnInner) : RelayOp → Prop
  | .remember other => SameAllocation inner other
  | .persistState state => Above log state
  | _ => True

section Calls

variable {log : List Preparation} {inner : TurnInner}

theorem harmless_keeps {op : RelayOp} (harmless : Harmless log inner op) {relay : Relay}
    (force : InForce log inner relay) : InForce log inner (relay.act op).2 := by
  obtain ⟨filed, now, memory, same⟩ := force
  cases op with
  | remember other => exact ⟨filed, other, rfl, harmless⟩
  | persistState state => exact ⟨fun _ => ⟨state, rfl, harmless⟩, now, memory, same⟩
  | setMtu mtu =>
      simp only [Relay.act]
      split
      · exact ⟨filed, now, memory, same⟩
      · exact ⟨filed, now, memory, same⟩
  | _ => exact ⟨filed, now, memory, same⟩

theorem ask_keeps {α : Type} {op : RelayOp} {next : op.Ret → RelayProg α}
    {post : α → Relay → Prop} (harmless : Harmless log inner op)
    (continues : ∀ value, Spec relayHandler (InForce log inner) (next value) post
      (InForce log inner)) :
    Spec relayHandler (InForce log inner) (ask op >>= next) post (InForce log inner) := by
  apply Spec.bind fun _ => InForce log inner
  · apply Spec.perform
    · exact fun _ force => force
    · intro relay value force _
      exact harmless_keeps harmless force
    · intro relay force
      exact harmless_keeps harmless force
  · exact continues

theorem tryAsk_keeps {α : Type} {op : RelayOp} {next : Except String op.Ret → RelayProg α}
    {post : α → Relay → Prop} (harmless : Harmless log inner op)
    (continues : ∀ reply, Spec relayHandler (InForce log inner) (next reply) post
      (InForce log inner)) :
    Spec relayHandler (InForce log inner) (tryAsk op >>= next) post (InForce log inner) := by
  apply Spec.bind fun _ => InForce log inner
  · apply Spec.observe
    · exact fun _ force => force
    · intro relay force
      exact harmless_keeps harmless force
    · intro relay error force
      exact ⟨force, harmless_keeps harmless force⟩
  · exact continues

def Renewed (operation : Uuid) (generation : Nat) (response : PrepareTurnResponse)
    (relay : Relay) : Prop :=
  response.allocationGeneration = generation ∧
    (∃ now, relay.inner = some now ∧ now.lastPrepare = some (operation, response) ∧
      now.state.allocationGeneration = generation) ∧
    ∃ stored, relay.disk = some stored ∧ stored.allocationGeneration = generation

theorem failTurn_keeps {other : TurnInner} (same : SameAllocation inner other)
    (above : Above log inner.state) (text : String) (post : PrepareTurnResponse → Relay → Prop) :
    Spec relayHandler (InForce log inner) (failTurn other text) post (InForce log inner) := by
  refine ask_keeps (by trivial) ?_
  intro time
  dsimp only
  refine ask_keeps ?_ ?_
  · exact ⟨same.bridge, same.endpoint, same.generation, same.operation⟩
  · intro _
    refine tryAsk_keeps ?_ ?_
    · exact above.of_same same.generation
    · intro _
      exact Spec.throw fun _ force => force

theorem commitTurn_spec {other : TurnInner} (same : SameAllocation inner other)
    (above : Above log inner.state) {config : TurnBridgeConfig}
    (higher : inner.state.allocationGeneration < config.allocationGeneration)
    (endpoint : NetworkEndpoint) (expires : Timestamp) (operation : Uuid) :
    Spec relayHandler (InForce log inner) (commitTurn other config endpoint expires operation)
      (Renewed operation config.allocationGeneration) (InForce log inner) := by
  refine ask_keeps (by trivial) ?_
  intro time
  dsimp only
  have later : Harmless log inner
      (.persistState (readyState other.state config.allocationGeneration endpoint time)) := by
    intro entry member
    exact (above entry member).trans higher.le
  refine Spec.bind (fun reply relay => InForce log inner relay ∧ (reply = .ok () →
    relay.disk = some (readyState other.state config.allocationGeneration endpoint time))) ?_ ?_
  · apply Spec.observe
    · exact fun _ force => force
    · intro relay force
      exact ⟨harmless_keeps later force, fun _ => rfl⟩
    · intro relay error force
      exact ⟨⟨force, nofun⟩, harmless_keeps later force, nofun⟩
  · intro reply
    cases reply with
    | error error =>
        apply Spec.weaken _ (fun _ known => known.1) (fun _ _ holds => holds) fun _ holds => holds
        refine tryAsk_keeps (by trivial) ?_
        intro _
        exact failTurn_keeps same above _ _
    | ok value =>
        refine Spec.bind (fun _ relay => Renewed operation config.allocationGeneration
          ⟨config.allocationGeneration, endpoint, expires, config.expectedPeerIps⟩ relay) ?_ ?_
        · apply Spec.internal rfl
          intro relay known
          exact ⟨(), rfl, rfl, ⟨_, rfl, rfl, rfl⟩, _, known.2 rfl, rfl⟩
        · intro _
          exact Spec.done fun _ renewed => renewed

theorem allocateTurn_spec (above : Above log inner.state) {config : TurnBridgeConfig}
    (higher : inner.state.allocationGeneration < config.allocationGeneration)
    (expires : Timestamp) (operation : Uuid) :
    Spec relayHandler (InForce log inner) (allocateTurn inner config expires operation)
      (Renewed operation config.allocationGeneration) (InForce log inner) := by
  refine ask_keeps (by trivial) ?_
  intro time
  dsimp only
  have same : SameAllocation inner
      { inner with turnStatus := .preparing, state := inner.state.touch time } := ⟨rfl, rfl, rfl, rfl⟩
  refine ask_keeps same ?_
  intro _
  refine ask_keeps (above.of_same rfl) ?_
  intro _
  refine tryAsk_keeps (by trivial) ?_
  intro reply
  cases reply with
  | error text => exact failTurn_keeps same above text _
  | ok endpoint => exact commitTurn_spec same above higher endpoint expires operation

theorem admitTurn_higher {state : HostNetworkState} {request : PrepareTurnRequest}
    {time : Timestamp} {admitted : TurnBridgeConfig × Timestamp}
    (admits : admitTurn state request time = .ok admitted) :
    admitted.1.allocationGeneration = request.requestedGeneration ∧
      state.allocationGeneration < request.requestedGeneration := by
  unfold admitTurn at admits
  split at admits
  · cases admits
  · rename_i stale
    split at admits
    · cases admits
    · split at admits
      · cases admits
      · split at admits
        · cases admits
        · split at admits
          · cases admits
          · split at admits
            · cases admits
            · cases peers : parsePeers request.expectedPeerIps with
              | error text =>
                  rw [peers] at admits
                  cases admits
              | ok ips =>
                  rw [peers] at admits
                  change (if ips = [] then _ else _) = _ at admits
                  split at admits
                  · cases admits
                  · cases admits
                    exact ⟨rfl, not_le.mp stale⟩

theorem prepareTurn_spec (above : Above log inner.state) {request : PrepareTurnRequest}
    (fresh : inner.replayed request.operationId = none) :
    Spec relayHandler (InForce log inner) (prepareTurn request inner)
      (fun response relay => inner.state.allocationGeneration < request.requestedGeneration ∧
        Renewed request.operationId request.requestedGeneration response relay)
      (InForce log inner) := by
  unfold prepareTurn
  rw [fresh]
  refine ask_keeps (by trivial) ?_
  intro time
  cases admits : admitTurn inner.state request time with
  | error text => exact Spec.throw fun _ force => force
  | ok admitted =>
      obtain ⟨generation, higher⟩ := admitTurn_higher admits
      have allocates := allocateTurn_spec above (generation ▸ higher) admitted.2 request.operationId
      rw [generation] at allocates
      exact allocates.weaken (fun _ force => force) (fun _ _ renewed => ⟨higher, renewed⟩)
        fun _ force => force

end Calls

theorem replayed_of_last {inner : TurnInner} {operation : Uuid} {response : PrepareTurnResponse}
    (last : inner.lastPrepare = some (operation, response)) :
    inner.replayed operation = some response := by
  unfold TurnInner.replayed
  rw [last]
  exact if_pos rfl

theorem prepareTurn_replay {allow : Allowed} {inner : TurnInner} {request : PrepareTurnRequest}
    {response : PrepareTurnResponse} (replayed : inner.replayed request.operationId = some response)
    {config final : Config relayInterface String Relay}
    {outcome : Outcome String PrepareTurnResponse}
    (run : Runs relayHandler allow (prepareTurn request inner) config outcome final) :
    outcome = .value response ∧ final = config := by
  unfold prepareTurn at run
  rw [replayed] at run
  cases run
  exact ⟨rfl, rfl⟩

def Down (log : List Preparation) (relay : Relay) : Prop := relay.inner = none ∧ Filed log relay

/-- The process runs with no allocation and a generation that is not below the log's. -/
def Restarted (log : List Preparation) (relay : Relay) : Prop :=
  Filed log relay ∧
    ∃ now, relay.inner = some now ∧ now.lastPrepare = none ∧ Above log now.state

section Starts

variable {log : List Preparation}

def Quiet (log : List Preparation) : RelayOp → Prop
  | .remember _ => False
  | .persistState state => Above log state
  | _ => True

theorem quiet_keeps {op : RelayOp} (quiet : Quiet log op) {relay : Relay} (down : Down log relay) :
    Down log (relay.act op).2 := by
  cases op with
  | remember inner => exact quiet.elim
  | persistState state => exact ⟨down.1, fun _ => ⟨state, rfl, quiet⟩⟩
  | setMtu mtu =>
      simp only [Relay.act]
      split
      · exact down
      · exact down
  | _ => exact down

theorem Down.perform {op : RelayOp} (quiet : Quiet log op) :
    Spec relayHandler (Down log) (ask op) (fun _ => Down log) (Down log) := by
  apply Spec.perform
  · exact fun _ down => down
  · intro relay value down _
    exact quiet_keeps quiet down
  · intro relay down
    exact quiet_keeps quiet down

theorem Down.observe {op : RelayOp} (quiet : Quiet log op) :
    Spec relayHandler (Down log) (tryAsk op) (fun _ => Down log) (Down log) := by
  apply Spec.observe
  · exact fun _ down => down
  · intro relay down
    exact quiet_keeps quiet down
  · intro relay error down
    exact ⟨down, quiet_keeps quiet down⟩

theorem recoverRelayMtu_keeps (previous : Option HostNetworkState) :
    Spec relayHandler (Down log) (recoverRelayMtu previous) (fun _ => Down log) (Down log) := by
  have sets (mtu : Nat) (text : String) : Spec relayHandler (Down log)
      (askWithContext (.setMtu mtu) text) (fun _ => Down log) (Down log) := by
    refine Spec.bind _ (Down.observe (by trivial)) ?_
    intro reply
    cases reply with
    | ok value => exact Spec.done fun _ down => down
    | error error => exact Spec.throw fun _ down => down
  unfold recoverRelayMtu
  split
  · exact sets _ _
  · split
    · exact sets _ _
    · exact Spec.done fun _ down => down

theorem startFrom_spec (settings : ManagerSettings) {previous : Option HostNetworkState}
    (known : log ≠ [] → ∃ stored, previous = some stored ∧ Above log stored) :
    Spec relayHandler (Down log) (startFrom settings previous) (fun _ => Restarted log)
      (Down log) := by
  apply Spec.bind _ (recoverRelayMtu_keeps previous)
  intro _
  refine Spec.bind _ (Down.observe (by trivial)) ?_
  intro observed
  refine Spec.bind _ (Down.perform (by trivial)) ?_
  intro time
  have above : Above log (startedState settings previous observed time) := by
    intro entry member
    obtain ⟨stored, rfl, above⟩ := known (List.ne_nil_of_mem member)
    exact above entry member
  refine Spec.bind _ (Down.perform above) ?_
  intro _
  apply Spec.internal rfl
  intro relay down
  exact ⟨(), rfl, down.2, _, rfl, rfl, above⟩

theorem startRelay_runs {settings : ManagerSettings} {relay : Relay} (down : Down log relay)
    {outcome : Outcome String Unit} {final : Config relayInterface String Relay}
    (run : Runs relayHandler Readable (startRelay settings) ⟨[], relay⟩ outcome final) :
    match outcome with
    | .value _ => Restarted log final.state
    | _ => Down log final.state := by
  cases run with
  | stop => exact down
  | request replied allowed rest =>
      rcases replied.cases with ⟨rfl, rfl⟩ | ⟨error, rfl, _⟩
      · have result := startFrom_spec settings down.2 _ _ _ down (rest.mono fun _ _ _ _ => trivial)
        cases outcome with
        | value value => exact result
        | error error => exact result
        | stopped => exact result
      · exact absurd allowed id

end Starts

def Increasing (log : List Preparation) : Prop :=
  log.Pairwise fun earlier later => earlier.2.allocationGeneration < later.2.allocationGeneration

instance (log : List Preparation) : Decidable (Increasing log) :=
  inferInstanceAs (Decidable (log.Pairwise _))

structure Sound (relay : Relay) (log : List Preparation) (current : Option Preparation) : Prop where
  increasing : Increasing log
  filed : Filed log relay
  memory : ∀ inner, relay.inner = some inner → inner.lastPrepare = current ∧ Above log inner.state
  recorded : ∀ entry, current = some entry → entry ∈ log

section Sound

variable {relay : Relay} {log : List Preparation} {current : Option Preparation}

theorem Sound.halt (sound : Sound relay log current) :
    Sound { relay with inner := none } log none := by
  refine ⟨sound.increasing, sound.filed, ?_, ?_⟩
  · intro inner running
    cases running
  · intro entry same
    cases same

theorem Sound.of_down {later : Relay} (sound : Sound relay log current) (down : Down log later) :
    Sound later log none := by
  refine ⟨sound.increasing, down.2, ?_, nofun⟩
  intro inner running
  rw [down.1] at running
  cases running

theorem Sound.restart (sound : Sound relay log current) (idle : relay.inner = none)
    {settings : ManagerSettings} {outcome : Outcome String Unit}
    {final : Config relayInterface String Relay}
    (run : Runs relayHandler Readable (startRelay settings) ⟨[], relay⟩ outcome final) :
    Sound (surviving outcome final.state) log none := by
  have result := startRelay_runs ⟨idle, sound.filed⟩ run
  cases outcome with
  | value value =>
      obtain ⟨filed, now, running, last, above⟩ := result
      refine ⟨sound.increasing, filed, ?_, nofun⟩
      intro inner memory
      cases running.symm.trans memory
      exact ⟨last, above⟩
  | error error => exact sound.of_down result
  | stopped => exact sound.of_down ⟨rfl, result.2⟩

theorem Sound.of_force {inner : TurnInner} {later : Relay} (sound : Sound relay log current)
    (running : relay.inner = some inner) (force : InForce log inner later) :
    Sound later log current := by
  obtain ⟨filed, now, memory, same⟩ := force
  obtain ⟨last, above⟩ := sound.memory inner running
  refine ⟨sound.increasing, filed, ?_, sound.recorded⟩
  intro other held
  cases memory.symm.trans held
  exact ⟨same.operation.trans last, above.of_same same.generation⟩

theorem Above.append {state later : HostNetworkState} {operation : Uuid}
    {response : PrepareTurnResponse} (above : Above log state)
    (higher : state.allocationGeneration < response.allocationGeneration)
    (same : later.allocationGeneration = response.allocationGeneration) :
    Above (log ++ [(operation, response)]) later := by
  intro entry member
  rw [same]
  rcases List.mem_append.mp member with old | new
  · exact (above entry old).trans higher.le
  · rw [List.mem_singleton.mp new]

theorem Sound.renew {inner : TurnInner} {later : Relay} {operation : Uuid} {generation : Nat}
    {response : PrepareTurnResponse} (sound : Sound relay log current)
    (running : relay.inner = some inner)
    (higher : inner.state.allocationGeneration < generation)
    (renewed : Renewed operation generation response later) :
    Sound later (log ++ [(operation, response)]) (some (operation, response)) := by
  obtain ⟨rfl, ⟨now, memory, last, generation⟩, stored, disk, filed⟩ := renewed
  obtain ⟨_, above⟩ := sound.memory inner running
  refine ⟨?_, fun _ => ⟨stored, disk, above.append higher filed⟩, ?_, ?_⟩
  · apply List.pairwise_append.mpr
    refine ⟨sound.increasing, List.pairwise_singleton _ _, ?_⟩
    intro earlier member entry new
    rw [List.mem_singleton.mp new]
    exact (above earlier member).trans_lt higher
  · intro other held
    cases memory.symm.trans held
    exact ⟨last, above.append higher generation⟩
  · intro entry same
    cases same
    exact List.mem_append_right _ List.mem_cons_self

theorem Sound.call (sound : Sound relay log current) {inner : TurnInner}
    (running : relay.inner = some inner) {allow : Allowed} {request : PrepareTurnRequest}
    {outcome : Outcome String PrepareTurnResponse} {final : Config relayInterface String Relay}
    (run : Runs relayHandler allow (prepareTurn request inner) ⟨[], relay⟩ outcome final) :
    Sound (surviving outcome final.state) (log ++ gained inner request outcome)
      (currentAfter current inner request outcome) := by
  cases replayed : inner.replayed request.operationId with
  | some response =>
      obtain ⟨rfl, rfl⟩ := prepareTurn_replay replayed run
      simp only [surviving, currentAfter, gained, replayed, Option.isSome_some, if_true,
        List.append_nil, List.getLast?_nil, Option.none_or]
      exact sound
  | none =>
      have above := (sound.memory inner running).2
      have force : InForce log inner relay := ⟨sound.filed, inner, running, .refl inner⟩
      have result := prepareTurn_spec above replayed _ _ _ force (run.mono fun _ _ _ _ => trivial)
      cases outcome with
      | value response =>
          simp only [surviving, currentAfter, gained, replayed, Option.isSome_none,
            Bool.false_eq_true, if_false, List.getLast?_singleton, Option.some_or]
          exact sound.renew running result.1 result.2
      | error error =>
          simp only [surviving, currentAfter, gained, List.append_nil, List.getLast?_nil,
            Option.none_or]
          exact sound.of_force running result
      | stopped =>
          simp only [surviving, currentAfter, gained, List.append_nil]
          exact (sound.of_force running result).halt

end Sound

theorem allocated_sound {initial relay : Relay} {log : List Preparation}
    {current : Option Preparation} (reached : Allocated Readable initial relay log current) :
    Sound relay log current := by
  induction reached with
  | initial =>
      refine ⟨.nil, fun some => absurd rfl some, ?_, ?_⟩
      · intro inner running
        cases running
      · intro entry same
        cases same
  | halted _ ih => exact ih.halt
  | restarted settings _ idle run ih => exact ih.restart idle run
  | called request _ running run ih => exact ih.call running run

/-- In every run in which a start can read the state file, the generations of the
preparations increase, a repeated operation is answered again without a new
allocation, and a failed call leaves the allocation in force. -/
theorem preparations_increase {initial relay : Relay} {log : List Preparation}
    {current : Option Preparation} (reached : Allocated Readable initial relay log current) :
    Increasing log ∧
      ∀ inner request outcome final, relay.inner = some inner →
        Runs relayHandler (fun _ _ _ => True) (prepareTurn request inner) ⟨[], relay⟩ outcome
          final →
        (∀ response, current = some (request.operationId, response) →
          (request.operationId, response) ∈ log ∧ outcome = .value response ∧
            final.state = relay) ∧
        (∀ text, outcome = .error text →
          ∃ now, final.state.inner = some now ∧ SameAllocation inner now) := by
  have sound := allocated_sound reached
  refine ⟨sound.increasing, ?_⟩
  intro inner request outcome final running run
  obtain ⟨last, above⟩ := sound.memory inner running
  constructor
  · intro response same
    have replayed := replayed_of_last (last.trans same)
    obtain ⟨answered, kept⟩ := prepareTurn_replay replayed run
    rw [kept]
    exact ⟨sound.recorded _ same, answered, rfl⟩
  · rintro text rfl
    cases replayed : inner.replayed request.operationId with
    | some response => nomatch (prepareTurn_replay replayed run).1
    | none =>
        have force : InForce log inner relay := ⟨sound.filed, inner, running, .refl inner⟩
        exact (prepareTurn_spec above replayed _ _ _ force run).2

inductive RelayCall where
  | halt
  | restart (settings : ManagerSettings) (signals : List (Signal String))
  | prepare (request : PrepareTurnRequest) (signals : List (Signal String))

structure Play where
  relay : Relay
  log : List Preparation := []
  current : Option Preparation := none

def Play.step (check : Config relayInterface String Relay → Event relayInterface String → Relay →
    Bool) (play : Play) : RelayCall → Option Play
  | .halt => some ⟨{ play.relay with inner := none }, play.log, none⟩
  | .restart settings signals =>
      let program := startRelay settings
      if play.relay.inner.isNone && program.follows relayHandler check signals ⟨[], play.relay⟩ then
        let result := program.exec relayHandler signals ⟨[], play.relay⟩
        some ⟨surviving result.1 result.2.2.state, play.log, none⟩
      else none
  | .prepare request signals =>
      match play.relay.inner with
      | none => none
      | some inner =>
          let program := prepareTurn request inner
          if program.follows relayHandler check signals ⟨[], play.relay⟩ then
            let result := program.exec relayHandler signals ⟨[], play.relay⟩
            some ⟨surviving result.1 result.2.2.state, play.log ++ gained inner request result.1,
              currentAfter play.current inner request result.1⟩
          else none

def Play.run (check : Config relayInterface String Relay → Event relayInterface String → Relay →
    Bool) : Play → List RelayCall → Option Play
  | play, [] => some play
  | play, call :: rest => (play.step check call).bind fun next => next.run check rest

section Plays

variable {allow : Allowed} {initial : Relay}
  {check : Config relayInterface String Relay → Event relayInterface String → Relay → Bool}

theorem step_allocated
    (sound : ∀ config event state, check config event state = true → allow config event state)
    {play next : Play} {call : RelayCall} (stepped : play.step check call = some next)
    (reached : Allocated allow initial play.relay play.log play.current) :
    Allocated allow initial next.relay next.log next.current := by
  cases call with
  | halt =>
      cases stepped
      exact reached.halted
  | restart settings signals =>
      unfold Play.step at stepped
      simp only [Option.ite_none_right_eq_some, Bool.and_eq_true] at stepped
      obtain ⟨⟨idle, follows⟩, same⟩ := stepped
      cases same
      exact reached.restarted settings (Option.isNone_iff_eq_none.mp idle)
        (follows_runs sound _ _ _ follows)
  | prepare request signals =>
      simp only [Play.step] at stepped
      split at stepped
      · cases stepped
      · rename_i inner running
        simp only [Option.ite_none_right_eq_some] at stepped
        obtain ⟨follows, same⟩ := stepped
        cases same
        exact reached.called request running (follows_runs sound _ _ _ follows)

theorem run_allocated
    (sound : ∀ config event state, check config event state = true → allow config event state)
    {play last : Play} {calls : List RelayCall} (ran : play.run check calls = some last)
    (reached : Allocated allow initial play.relay play.log play.current) :
    Allocated allow initial last.relay last.log last.current := by
  induction calls generalizing play with
  | nil =>
      cases ran
      exact reached
  | cons call rest ih =>
      obtain ⟨next, stepped, continued⟩ := Option.bind_eq_some_iff.mp ran
      exact ih continued (step_allocated sound stepped reached)

end Plays

def readableCheck : Config relayInterface String Relay → Event relayInterface String → Relay → Bool
  | _, ⟨.loadPreviousState, .error _⟩, _ => false
  | _, _, _ => true

theorem readableCheck_sound (config : Config relayInterface String Relay)
    (event : Event relayInterface String) (state : Relay)
    (checked : readableCheck config event state = true) : Readable config event state := by
  obtain ⟨op, reply⟩ := event
  cases op with
  | loadPreviousState =>
      cases reply with
      | ok value => trivial
      | error error => cases checked
  | _ => trivial

def sampleRequest (operation : Uuid) (generation : Nat) : PrepareTurnRequest :=
  { operationId := operation
    requestedGeneration := generation
    turnUrls := ["turn:relay.example:3478?transport=udp"]
    username := "user"
    credential := "secret"
    credentialExpiresAt := some 1000
    expectedPeerIps := [some "198.51.100.7"]
    effectiveMtu := 1280 }

def firstOperation : Uuid := ⟨"0b8e2a52-7d34-4c8e-9a51-64f1c2d3e4f5", Eq.refl true⟩

def secondOperation : Uuid := ⟨"5a9d3c10-1f2e-4b6a-8c7d-9e0f1a2b3c4d", Eq.refl true⟩

def sampleCalls (signals : List (Signal String)) (generation : Nat) : List RelayCall :=
  [.restart ⟨"host", "wg0"⟩ [], .prepare (sampleRequest firstOperation 5) [], .halt,
    .restart ⟨"host", "wg0"⟩ signals, .prepare (sampleRequest secondOperation generation) []]

theorem sample_reached {allow : Allowed}
    {check : Config relayInterface String Relay → Event relayInterface String → Relay → Bool}
    (sound : ∀ config event state, check config event state = true → allow config event state)
    {calls : List RelayCall} {last : Play} (ran : Play.run check ⟨{}, [], none⟩ calls = some last) :
    Allocated allow {} last.relay last.log last.current :=
  run_allocated sound ran .initial

theorem generation_rises_after_restart :
    ∃ relay log current, Allocated Readable {} relay log current ∧
      log.map (fun entry => entry.2.allocationGeneration) = [5, 6] ∧ Increasing log := by
  have found : ((Play.run readableCheck ⟨{}, [], none⟩ (sampleCalls [] 6)).map fun last =>
      last.log.map fun entry => entry.2.allocationGeneration) = some [5, 6] := by decide +kernel
  obtain ⟨last, ran, generations⟩ := Option.map_eq_some_iff.mp found
  have reached := sample_reached readableCheck_sound ran
  exact ⟨last.relay, last.log, last.current, reached, generations,
    (preparations_increase reached).1⟩

/-- The file cannot be read at the second start, so that the generation starts again. -/
theorem generation_falls_after_unreadable_state :
    ∃ relay log current, Allocated (fun _ _ _ => True) {} relay log current ∧
      log.map (fun entry => entry.2.allocationGeneration) = [5, 1] ∧ ¬ Increasing log := by
  have found : ((Play.run (fun _ _ _ => true) ⟨{}, [], none⟩
      (sampleCalls [.refuse "input/output error"] 1)).map fun last =>
        (last.log.map fun entry => entry.2.allocationGeneration, decide (Increasing last.log))) =
      some ([5, 1], false) := by decide +kernel
  obtain ⟨last, ran, results⟩ := Option.map_eq_some_iff.mp found
  obtain ⟨generations, falls⟩ := Prod.mk.inj results
  exact ⟨last.relay, last.log, last.current, sample_reached (fun _ _ _ _ => trivial) ran,
    generations, of_decide_eq_false falls⟩

end Noland.Network
