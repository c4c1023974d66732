import Noland.Lib.Text

/-!
The records of the rented instances, the active instance with its tunnel, and how a list of owned
instances is taken over. A configuration path is the list of its components, a blank one is empty;
of the prices and addresses nothing but their copies matters.
-/

namespace Noland.Desktop

open Noland.Text

abbrev ConfigPath := List String

abbrev Price := Nat

inductive OrchestrationState where
  | idle | onboarding | selectingServer | serverSelected | generatingSshKey
  | uploadingSshKeyToVast | creatingInstance | waitingForInstance | verifyingReservation
  | connectingSsh | configuringRemote | configuringWireGuard | configuringSunshine
  | configuringNvidiaHeadless | wireGuardConfigGenerated | wireGuardAppHandoffStarted
  | wireGuardWaitingForImport | wireGuardWaitingForActivation | wireGuardVerifying
  | wireGuardConnected | moonlightSunshineReadyToSetup | sunshineCredentialsConfiguring
  | sunshineVerifying | moonlightDetecting | moonlightPairingStarted | moonlightPinReceived
  | sunshinePinSubmitting | moonlightSunshinePaired | configuringMoonlight | awaitingPairPin
  | pairing | ready | error
  deriving DecidableEq

/-- `ProvisionedServerState`; `provisioned` stands for the steps that a backup asks for. -/
structure ServerRecord where
  instanceId : Nat
  machineId : Option String := none
  offerId : Option Nat := none
  sshHost : String := ""
  sshPort : Nat := 22
  status : String := "unknown"
  sshCommand : String := ""
  hourlyPrice : Price := 0
  computeHourlyPrice : Price := 0
  storageHourlyPrice : Price := 0
  wireguardServerIp : String := ""
  wireguardConfigPath : ConfigPath := []
  moonlightHostAddress : String := ""
  provisioned : Bool := false
  deriving DecidableEq

structure InstanceState where
  instanceId : Option Nat := none
  machineId : Option String := none
  feedbackSessionId : Option String := none
  feedbackJournalRef : Option String := none
  offerId : Option Nat := none
  status : String := "idle"
  sshHost : String := ""
  sshPort : Nat := 22
  sshUser : String := "root"
  sshCommand : String := ""
  hourlyPrice : Price := 0
  computeHourlyPrice : Price := 0
  storageHourlyPrice : Price := 0
  deriving DecidableEq

structure WireGuardState where
  serverIp : String := ""
  clientIp : String := ""
  serverPublicKey : String := ""
  clientPublicKey : String := ""
  configPath : ConfigPath := []
  endpointHost : String := ""
  endpointPort : Nat := 0
  deriving DecidableEq

structure MoonlightState where
  configured : Bool := false
  hostAddress : String := ""
  sessionState : String := "idle"
  lastError : Option String := none
  deriving DecidableEq

structure PostWireGuardSetupState where
  currentInstanceId : Option Nat := none
  moonlightHost : String := ""
  paired : Bool := false
  setupComplete : Bool := false
  deriving DecidableEq

structure AppState where
  vastApiKey : String := ""
  provisionedServers : List ServerRecord := []
  activeInstance : InstanceState := {}
  wireguard : WireGuardState := {}
  moonlight : MoonlightState := {}
  selectedOffer : Option Nat := none
  orchestrationState : OrchestrationState := .idle
  postWireguardSetup : PostWireGuardSetupState := {}
  deriving DecidableEq

structure VastInstance where
  id : Nat
  machineId : Option String := none
  status : String := ""
  sshHost : String := ""
  sshPort : Nat := 22
  sshCommand : String := ""
  hourlyPrice : Price := 0
  computeHourlyPrice : Price := 0
  storageHourlyPrice : Price := 0
  wireguardHostIp : String := ""
  deriving DecidableEq

structure Workstation where
  state : AppState := {}
  files : List ConfigPath := []
  tunnels : List ConfigPath := []
  deriving DecidableEq

def parentName (path : ConfigPath) : String := (path.dropLast.getLast?).getD ""

def instanceSpecific (path : ConfigPath) : Bool :=
  (parentName path).toList.all fun c => '0' ≤ c && c ≤ '9'

def removesFile (path file : ConfigPath) : Bool :=
  if instanceSpecific path then path.dropLast.isPrefixOf file else file == path

def removeLocalWireguardConfig (station : Workstation) (path : ConfigPath) : Workstation :=
  if path = [] then station
  else { station with files := station.files.filter fun file => !removesFile path file }

def gotatunRuntimeDir (path : ConfigPath) : ConfigPath :=
  if instanceSpecific path then path.dropLast.dropLast else path.dropLast

def teardownLocalWireguardClient (station : Workstation) (path : ConfigPath) : Workstation :=
  { station with
    tunnels := station.tunnels.filter fun tunnel =>
      gotatunRuntimeDir tunnel != gotatunRuntimeDir path }

/-- What a reconciliation takes from the state before it touches anything. -/
structure MissingInstances where
  removedRecords : List ServerRecord
  clearActiveInstance : Bool
  clearPostWireguardSetup : Bool
  deriving DecidableEq

def ownedIds (owned : List VastInstance) : List Nat := owned.map VastInstance.id

def missingFromOwnedSet (state : AppState) (ids : List Nat) : MissingInstances where
  removedRecords := state.provisionedServers.filter fun record => record.instanceId ∉ ids
  clearActiveInstance := state.activeInstance.instanceId.any fun id => id ∉ ids
  clearPostWireguardSetup := state.postWireguardSetup.currentInstanceId.any fun id => id ∉ ids

def MissingInstances.nothing (missing : MissingInstances) : Bool :=
  missing.removedRecords.isEmpty && !missing.clearActiveInstance &&
    !missing.clearPostWireguardSetup

def removeMissing (missing : MissingInstances) (ids : List Nat) (state : AppState) : AppState :=
  let state := { state with
    provisionedServers := state.provisionedServers.filter fun record => record.instanceId ∈ ids }
  let state := if missing.clearActiveInstance then
      { state with
        activeInstance := {}
        wireguard := {}
        moonlight := {}
        selectedOffer := none
        orchestrationState := .idle }
    else state
  if missing.clearPostWireguardSetup then { state with postWireguardSetup := {} } else state

def trimmed (text : String) : String := String.ofList (trim text.toList)

def refreshRecord (active : InstanceState) (listed : VastInstance) (record : ServerRecord) :
    ServerRecord :=
  let address := trimmed listed.wireguardHostIp
  { record with
    offerId :=
      if active.instanceId = some listed.id then active.offerId.or record.offerId
      else record.offerId
    machineId := if listed.machineId.isSome then listed.machineId else record.machineId
    status := listed.status
    sshHost := listed.sshHost
    sshPort := listed.sshPort
    sshCommand := listed.sshCommand
    hourlyPrice := listed.hourlyPrice
    computeHourlyPrice := listed.computeHourlyPrice
    storageHourlyPrice := listed.storageHourlyPrice
    wireguardServerIp := if address = "" then record.wireguardServerIp else address
    moonlightHostAddress :=
      if address ≠ "" ∧ trimmed record.moonlightHostAddress = "" then address
      else record.moonlightHostAddress }

def refreshFirst (active : InstanceState) (listed : VastInstance) :
    List ServerRecord → List ServerRecord
  | [] => [refreshRecord active listed { instanceId := listed.id }]
  | record :: rest =>
      if record.instanceId = listed.id then refreshRecord active listed record :: rest
      else record :: refreshFirst active listed rest

def takeOverInstance (state : AppState) (listed : VastInstance) : AppState :=
  { state with
    provisionedServers := refreshFirst state.activeInstance listed state.provisionedServers
    activeInstance :=
      if state.activeInstance.instanceId = some listed.id ∧ listed.machineId.isSome then
        { state.activeInstance with machineId := listed.machineId }
      else state.activeInstance }

def takeOverInstances (owned : List VastInstance) (state : AppState) : AppState :=
  owned.foldl takeOverInstance state

theorem mem_refreshFirst {active : InstanceState} {listed : VastInstance}
    {records : List ServerRecord} {record : ServerRecord}
    (member : record ∈ refreshFirst active listed records) :
    record ∈ records ∨ record.instanceId = listed.id := by
  induction records with
  | nil =>
      right
      rw [List.mem_singleton.mp member]
      rfl
  | cons first rest ih =>
      unfold refreshFirst at member
      split at member
      · next same =>
        rcases List.mem_cons.mp member with here | later
        · right
          rw [here]
          exact same
        · exact Or.inl (List.mem_cons_of_mem _ later)
      · rcases List.mem_cons.mp member with here | later
        · exact Or.inl (here ▸ List.mem_cons_self ..)
        · rcases ih later with before | new
          · exact Or.inl (List.mem_cons_of_mem _ before)
          · exact Or.inr new

end Noland.Desktop
