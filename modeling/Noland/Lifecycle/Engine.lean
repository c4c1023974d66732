import Mathlib.Data.Rat.Defs
import Noland.Lib.Requests
import Noland.Lib.Service
import Noland.Lib.Text
import Noland.Lifecycle.Database

/-!
When the configured time has passed without activity, the agent freezes the most used applications
into a run, has the state agent back up and verify each of them, and then asks the provider to
stop or destroy the instance. What the services answer is part of the state and may change before
every request; that a request fails is left to the environment. The log of what the requests did
is read by no program.
-/

namespace Noland.Lifecycle

open Noland.Text Noland.Requests

inductive ProviderAction where
  | destroy
  | stop
  deriving DecidableEq

structure Settings where
  enabled : Bool := false
  instanceId : Nat := 0
  inactivitySeconds : Nat := 3 * 60 * 60
  backupAppLimit : Nat := 3
  controllerDeadZone : ℚ := 15 / 100
  stateAgentSocket : String := "/run/noland/state-agent.sock"
  statusSocket : String := "/run/noland/lifecycle/agent.sock"
  activitySocket : String := "/run/noland/sunshine-events.sock"
  databasePath : String := "/var/lib/noland/lifecycle/runtime.db"
  capabilityPath : String := "/var/lib/noland/lifecycle/storage-capability.json"
  vastBaseUrl : String := "https://console.vast.ai"
  providerAction : ProviderAction := .destroy
  deriving DecidableEq

namespace Settings

variable (settings : Settings)

def paths : List (String × String) :=
  [("stateAgentSocket", settings.stateAgentSocket), ("statusSocket", settings.statusSocket),
    ("activitySocket", settings.activitySocket), ("databasePath", settings.databasePath),
    ("capabilityPath", settings.capabilityPath)]

def validate : Except String Unit :=
  if ¬ (300 ≤ settings.inactivitySeconds ∧ settings.inactivitySeconds ≤ 86400) then
    .error "inactivitySeconds must be between 300 and 86400"
  else if ¬ (1 ≤ settings.backupAppLimit ∧ settings.backupAppLimit ≤ 10) then
    .error "backupAppLimit must be between 1 and 10"
  else if ¬ (0 ≤ settings.controllerDeadZone ∧ settings.controllerDeadZone ≤ 95 / 100) then
    .error "controllerDeadZone must be between 0 and 0.95"
  else if settings.enabled = true ∧ settings.instanceId = 0 then
    .error "instanceId must be non-zero when lifecycle is enabled"
  else if ¬ "https://".toList <+: trim settings.vastBaseUrl.toList ∨
      (trim settings.vastBaseUrl.toList).length ≤ "https://".length ∨
      (trim settings.vastBaseUrl.toList).any whitespace = true then
    .error "vastBaseUrl must be an HTTPS URL"
  else
    match settings.paths.find? fun entry => entry.2.toList.head? ≠ some '/' with
    | some entry => .error (entry.1 ++ " must be an absolute path")
    | none => .ok ()

end Settings

structure Config extends Settings where
  valid : toSettings.validate = .ok ()

namespace Config

def default : Config := { valid := by decide +kernel }

def load : Option Settings → Except String Config
  | none => .ok default
  | some settings =>
      match valid : settings.validate with
      | .ok () => .ok { toSettings := settings, valid }
      | .error error => .error error

def timeoutMs (config : Config) : Nat := config.inactivitySeconds * 1000

def runtimePathsMatch (config other : Config) : Bool :=
  config.stateAgentSocket == other.stateAgentSocket && config.statusSocket == other.statusSocket &&
    config.activitySocket == other.activitySocket && config.databasePath == other.databasePath

end Config

structure StorageCapability where
  version : Nat
  instanceId : Nat
  profileId : String
  expiresAt : Nat
  masterKeyHex : String
  providerApiKey : String
  providerInstanceId : Nat
  providerAction : ProviderAction
  deriving DecidableEq

def capabilityVersion : Nat := 1

def hexDigit (c : Char) : Bool :=
  ('0' ≤ c && c ≤ '9') || ('a' ≤ c && c ≤ 'f') || ('A' ≤ c && c ≤ 'F')

def StorageCapability.validate (capability : StorageCapability) (config : Config) (now : Nat) :
    Except String Unit :=
  if capability.version ≠ capabilityVersion then .error "unsupported capability version"
  else if capability.instanceId ≠ config.instanceId ∨
      capability.providerInstanceId ≠ config.instanceId ∨
      capability.providerInstanceId ≠ capability.instanceId then
    .error "capability instance does not match configuration"
  else if capability.providerAction ≠ config.providerAction then
    .error "capability action does not match configuration"
  else if capability.expiresAt ≤ now then .error "lifecycle capability is expired"
  else if trim capability.profileId.toList = [] then .error "capability profileId is empty"
  else if trim capability.providerApiKey.toList = [] then
    .error "capability provider credential is empty"
  else if capability.masterKeyHex.utf8ByteSize ≠ 64 ∨
      capability.masterKeyHex.toList.all hexDigit = false then
    .error "capability masterKeyHex must be 64 hex characters"
  else .ok ()

structure ProviderRequest where
  baseUrl : String
  instanceId : Nat
  action : ProviderAction
  apiKey : String
  deriving DecidableEq

inductive ActivitySource where
  | keyboard
  | mouse
  | controller
  | touch
  deriving DecidableEq

/-- A magnitude that is missing or not finite is `none`. -/
structure ActivityEvent where
  eventType : String
  source : ActivitySource
  timestampMs : Int
  synthetic : Bool := false
  magnitude : Option ℚ := none
  deriving DecidableEq

inductive ActivityOutcome where
  | accepted
  | ignoredSynthetic
  | ignoredControllerDrift
  | ignoredDebounced
  deriving DecidableEq

def sourceDebounceMs : Nat := 50

inductive AutomaticBackupMode where
  | completeApplication
  | personalState
  deriving DecidableEq

def modeOf (complete : Bool) : AutomaticBackupMode :=
  if complete then .personalState else .completeApplication

/-- A field of the detail of a status: a text or anything else. -/
inductive Detail where
  | text (value : String)
  | other
  deriving DecidableEq

structure OperationStatus where
  state : String
  detail : List (String × Detail)
  deriving DecidableEq

namespace OperationStatus

def get (status : OperationStatus) (field : String) : Option Detail := status.detail.lookup field

def textField (status : OperationStatus) (fields : List String) : Option String :=
  match fields.findSome? status.get with
  | some (.text value) => if trim value.toList = [] then none else some value
  | _ => none

def completionIds (status : OperationStatus) : Except String (String × String) :=
  match status.textField ["bundle_id", "bundleId"] with
  | none => .error "completed backup has no bundle ID"
  | some bundle =>
      match status.textField ["commit_id", "commitId"] with
      | none => .error "completed backup has no commit ID"
      | some commit => .ok (bundle, commit)

def failureMessage (status : OperationStatus) : String :=
  match status.textField ["_last_error", "last_error", "error"] with
  | some reason => "backup operation ended in unsafe state " ++ status.state ++ ": " ++ reason
  | none => "backup operation ended in unsafe state " ++ status.state

end OperationStatus

def failedStates : List String := ["FAILED", "CANCELLED", "INTERRUPTED"]

def runningStates : List String :=
  ["QUEUED", "DISCOVERING", "RECONCILING", "SNAPSHOTTING", "HASHING", "PACKING", "UPLOADING",
    "COMMITTING", "CHECKPOINTING", "RUNNING"]

structure Memory where
  config : Config
  lastActivityMonotonicMs : Nat
  timeoutLatched : Bool
  lastBySource : List (ActivitySource × Nat)
  lastUsageTickMs : Nat
  candidateAppIds : List String

def Memory.blank (now : Nat) : Memory where
  config := Config.default
  lastActivityMonotonicMs := now
  timeoutLatched := false
  lastBySource := []
  lastUsageTickMs := now
  candidateAppIds := []

def Memory.debounced (memory : Memory) (source : ActivitySource) (now : Nat) : Bool :=
  match memory.lastBySource.lookup source with
  | some previous => decide (now - previous < sourceDebounceMs)
  | none => false

structure Outside where
  nowUtc : Nat
  configFile : Option Settings
  capability : StorageCapability
  /-- Whether the database takes the write of an accepted activity. -/
  recordsActivity : Bool
  activeSessions : List (String × String)
  candidateAppIds : List String
  foregroundPid : Option Nat
  processApp : Option String
  completeBaseline : Bool
  startedOperation : String
  operationStatus : OperationStatus
  commitVerified : Bool

inductive Record where
  | started (enabled : Bool) (time : Nat)
  | switched (enabled : Bool) (time : Nat)
  | rearmed (time : Nat)
  | accepted (time : Nat)
  | created (run : Nat) (apps : List String) (timeoutMs time : Nat)
  | baseline (run : Nat) (app : String) (complete : Bool)
  | requested (run : Nat) (app : String) (mode : AutomaticBackupMode) (operation : String)
  | attempted (run : Nat) (app : String) (operation : Option String)
  | status (operation : String) (answer : OperationStatus)
  | verification (app bundle commit : String) (answer : Bool)
  | applied (run : Nat) (apps : List BackupApp) (request : ProviderRequest)
  deriving DecidableEq

structure World where
  database : Database
  memory : Memory
  outside : Outside
  now : Nat
  log : List Record

namespace World

def note (world : World) (record : Record) : World :=
  { world with log := world.log ++ [record] }

def setDatabase (world : World) (database : Database) : World := { world with database }

def setMemory (world : World) (memory : Memory) : World := { world with memory }

end World

inductive Op where
  | boot (config : Config)
  | readConfig
  | writeConfig (config : Config)
  | latchTimeout
  | latchTimeoutIfElapsed (timeoutMs : Nat)
  | resetForMonitoring
  | recordActivity (source : ActivitySource)
  | usageElapsed
  | cacheCandidates (apps : List String)
  | readCandidates
  | monotonicMs
  | nowUtc
  | sleep (durationMs : Nat)
  | loadConfig
  | loadCapability
  | snapshot
  | initializeMonitoring (enabled : Bool)
  | resetTerminalFailure
  | transition (state : LifecycleState) (error : Option String)
  | failRun (run : Option Nat) (state : LifecycleState) (error : String)
  | recordActiveSession (session app : String) (runtimeMs now : Nat)
  | recordForeground (app : String) (foregroundMs now : Nat)
  | rankedApps (limit : Nat)
  | createRun (apps : List RankedApp)
  | backupApps (run : Nat)
  | allAppsVerified (run : Nat)
  | markShutdownStarted (run : Nat)
  | completeRun (run : Nat)
  | markAppRunning (run : Nat) (app operation : String)
  | recordStartFailure (run : Nat) (app error : String)
  | markAppPendingRetry (run : Nat) (app error : String)
  | markAppFailed (run : Nat) (app error : String)
  | markAppVerified (run : Nat) (app bundle commit : String)
  | activeAppSessions
  | listCandidates
  | foregroundPid
  | resolveProcess (pid : Nat)
  | hasCompleteBaseline (run : Nat) (app : String)
  | startBackup (run : Nat) (app : String) (mode : AutomaticBackupMode)
  | operationStatus (operation : String)
  | verifyBackupCommit (app bundle commit : String)
  | apply (run : Nat) (request : ProviderRequest)

abbrev Op.Ret : Op → Type
  | .readConfig => Config
  | .writeConfig _ => Bool
  | .latchTimeoutIfElapsed _ => Bool
  | .recordActivity _ => ActivityOutcome
  | .usageElapsed => Nat
  | .readCandidates => List String
  | .monotonicMs => Nat
  | .nowUtc => Nat
  | .loadConfig => Option Settings
  | .loadCapability => StorageCapability
  | .snapshot => LifecycleState × Option Nat
  | .resetTerminalFailure => Bool
  | .rankedApps _ => List RankedApp
  | .createRun _ => Nat
  | .backupApps _ => List BackupApp
  | .allAppsVerified _ => Bool
  | .activeAppSessions => List (String × String)
  | .listCandidates => List String
  | .foregroundPid => Option Nat
  | .resolveProcess _ => Option String
  | .hasCompleteBaseline _ _ => Bool
  | .startBackup _ _ _ => String
  | .operationStatus _ => OperationStatus
  | .verifyBackupCommit _ _ _ => Bool
  | _ => Unit

def interface : Interface := { Op := Op, Ret := Op.Ret }

/-- The requests that cannot fail: those to the memory and the clocks. -/
def Op.internal : Op → Bool
  | .boot _ | .readConfig | .writeConfig _ | .latchTimeout | .latchTimeoutIfElapsed _
  | .recordActivity _ | .usageElapsed | .cacheCandidates _ | .readCandidates | .monotonicMs
  | .nowUtc | .sleep _ | .foregroundPid => true
  | _ => false

namespace World

variable (world : World)

def boot (config : Config) : World :=
  { world with
    memory := {
      config, lastActivityMonotonicMs := world.now, timeoutLatched := false, lastBySource := [],
      lastUsageTickMs := world.now, candidateAppIds := [] }
    log := world.log ++ [.started config.enabled world.now] }

/-- Whether the new configuration enables what the old one did not. -/
def writeConfig (config : Config) : Except String Bool × World :=
  if world.memory.config.runtimePathsMatch config = false then
    (.error "socket and database path changes require an agent restart", world)
  else if world.memory.config.enabled = config.enabled then
    (.ok false, { world with memory := { world.memory with config } })
  else
    (.ok config.enabled, { world with
      memory := { world.memory with config }
      log := world.log ++ [.switched config.enabled world.now] })

def latchTimeoutIfElapsed (timeoutMs : Nat) : Bool × World :=
  if world.memory.timeoutLatched then (true, world)
  else if world.now - world.memory.lastActivityMonotonicMs < timeoutMs then (false, world)
  else (true, { world with memory := { world.memory with timeoutLatched := true } })

def resetForMonitoring : World :=
  { world with
    memory := { world.memory with
      lastActivityMonotonicMs := world.now, timeoutLatched := false, lastBySource := [] }
    log := world.log ++ [.rearmed world.now] }

/-- The part of `record_activity` that holds the policy lock. The source counts as
seen even when the activity cannot be recorded. -/
def recordActivity (source : ActivitySource) : Except String ActivityOutcome × World :=
  if world.memory.debounced source world.now then (.ok .ignoredDebounced, world)
  else
    let seen := (source, world.now) :: world.memory.lastBySource
    if world.outside.recordsActivity then
      (.ok .accepted, { world with
        memory := { world.memory with
          lastBySource := seen, lastActivityMonotonicMs := world.now }
        log := world.log ++ [.accepted world.now] })
    else
      (.error "activity could not be recorded",
        { world with memory := { world.memory with lastBySource := seen } })

def resetTerminalFailure : Bool × World :=
  match world.database.resetTerminalFailure with
  | (true, database) => (true, (world.setDatabase database).note (.rearmed world.now))
  | (false, database) => (false, world.setDatabase database)

def createRun (apps : List RankedApp) : Except String Nat × World :=
  match world.database.createRunWithFrozenApps apps with
  | (.ok run, database) =>
      (.ok run, (world.setDatabase database).note
        (.created run (apps.map (·.appId)) world.memory.config.timeoutMs world.now))
  | (.error error, database) => (.error error, world.setDatabase database)

def attempt (run : Nat) (app : String) (operation : Option String)
    (result : Except String Unit × Database) : Except String Unit × World :=
  match result with
  | (.ok _, database) =>
      (.ok (), (world.setDatabase database).note (.attempted run app operation))
  | (.error error, database) => (.error error, world.setDatabase database)

end World

def act : (op : Op) → World → Except String op.Ret × World
  | .boot config, world => (.ok (), world.boot config)
  | .readConfig, world => (.ok world.memory.config, world)
  | .writeConfig config, world => world.writeConfig config
  | .latchTimeout, world =>
      (.ok (), world.setMemory { world.memory with timeoutLatched := true })
  | .latchTimeoutIfElapsed timeoutMs, world =>
      (.ok (world.latchTimeoutIfElapsed timeoutMs).1, (world.latchTimeoutIfElapsed timeoutMs).2)
  | .resetForMonitoring, world => (.ok (), world.resetForMonitoring)
  | .recordActivity source, world => world.recordActivity source
  | .usageElapsed, world =>
      (.ok (world.now - world.memory.lastUsageTickMs),
        world.setMemory { world.memory with lastUsageTickMs := world.now })
  | .cacheCandidates apps, world =>
      (.ok (), world.setMemory { world.memory with candidateAppIds := apps })
  | .readCandidates, world => (.ok world.memory.candidateAppIds, world)
  | .monotonicMs, world => (.ok world.now, world)
  | .nowUtc, world => (.ok world.outside.nowUtc, world)
  | .sleep durationMs, world => (.ok (), { world with now := world.now + durationMs })
  | .loadConfig, world => (.ok world.outside.configFile, world)
  | .loadCapability, world => (.ok world.outside.capability, world)
  | .snapshot, world => (.ok (world.database.state, world.database.activeRunId), world)
  | .initializeMonitoring enabled, world =>
      (.ok (), world.setDatabase (world.database.initializeMonitoring enabled))
  | .resetTerminalFailure, world =>
      (.ok world.resetTerminalFailure.1, world.resetTerminalFailure.2)
  | .transition state error, world =>
      (.ok (), world.setDatabase (world.database.transition state error))
  | .failRun _ state error, world =>
      (.ok (), world.setDatabase (world.database.failRun state error))
  | .recordActiveSession session app runtimeMs now, world =>
      (.ok (), world.setDatabase (world.database.recordActiveSession session app runtimeMs now))
  | .recordForeground app foregroundMs now, world =>
      (.ok (), world.setDatabase (world.database.recordForeground app foregroundMs now))
  | .rankedApps limit, world => (.ok (world.database.rankedApps limit), world)
  | .createRun apps, world => world.createRun apps
  | .backupApps run, world => (.ok (world.database.appsOf run), world)
  | .allAppsVerified run, world => (.ok (world.database.allAppsVerified run), world)
  | .markShutdownStarted run, world =>
      (.ok (), world.setDatabase (world.database.markShutdownStarted run))
  | .completeRun run, world => (.ok (), world.setDatabase (world.database.completeRun run))
  | .markAppRunning run app operation, world =>
      world.attempt run app (some operation) (world.database.markAppRunning run app operation)
  | .recordStartFailure run app error, world =>
      world.attempt run app none (world.database.recordStartFailure run app error)
  | .markAppPendingRetry run app error, world =>
      (.ok (), world.setDatabase (world.database.markAppPendingRetry run app error))
  | .markAppFailed run app error, world =>
      (.ok (), world.setDatabase (world.database.markAppFailed run app error))
  | .markAppVerified run app bundle commit, world =>
      (.ok (), world.setDatabase (world.database.markAppVerified run app bundle commit))
  | .activeAppSessions, world => (.ok world.outside.activeSessions, world)
  | .listCandidates, world => (.ok world.outside.candidateAppIds, world)
  | .foregroundPid, world => (.ok world.outside.foregroundPid, world)
  | .resolveProcess _, world => (.ok world.outside.processApp, world)
  | .hasCompleteBaseline run app, world =>
      (.ok world.outside.completeBaseline,
        world.note (.baseline run app world.outside.completeBaseline))
  | .startBackup run app mode, world =>
      (.ok world.outside.startedOperation,
        world.note (.requested run app mode world.outside.startedOperation))
  | .operationStatus operation, world =>
      (.ok world.outside.operationStatus,
        world.note (.status operation world.outside.operationStatus))
  | .verifyBackupCommit app bundle commit, world =>
      (.ok world.outside.commitVerified,
        world.note (.verification app bundle commit world.outside.commitVerified))
  | .apply run request, world =>
      (.ok (), world.note (.applied run (world.database.appsOf run) request))

def handler : Handler interface String World := { act := act, internal := Op.internal }

theorem writeConfig_cases (world : World) (config : Config) :
    (∃ error, world.writeConfig config = (.error error, world)) ∨
    (world.memory.config.enabled = config.enabled ∧
      world.writeConfig config = (.ok false, { world with memory := { world.memory with config } })) ∨
    (world.memory.config.enabled ≠ config.enabled ∧
      world.writeConfig config = (.ok config.enabled, { world with
        memory := { world.memory with config }
        log := world.log ++ [.switched config.enabled world.now] })) := by
  unfold World.writeConfig
  split
  · exact Or.inl ⟨_, rfl⟩
  · split
    · rename_i same
      exact Or.inr (Or.inl ⟨same, rfl⟩)
    · rename_i other
      exact Or.inr (Or.inr ⟨other, rfl⟩)

theorem latchTimeoutIfElapsed_cases (world : World) (timeoutMs : Nat) :
    (world.memory.timeoutLatched = true ∧ world.latchTimeoutIfElapsed timeoutMs = (true, world)) ∨
    (world.memory.timeoutLatched = false ∧
      world.now - world.memory.lastActivityMonotonicMs < timeoutMs ∧
      world.latchTimeoutIfElapsed timeoutMs = (false, world)) ∨
    (world.memory.timeoutLatched = false ∧
      timeoutMs ≤ world.now - world.memory.lastActivityMonotonicMs ∧
      world.latchTimeoutIfElapsed timeoutMs =
        (true, { world with memory := { world.memory with timeoutLatched := true } })) := by
  unfold World.latchTimeoutIfElapsed
  split
  · rename_i latched
    exact Or.inl ⟨latched, rfl⟩
  · rename_i unlatched
    have unlatched : world.memory.timeoutLatched = false := by simpa using unlatched
    split
    · rename_i early
      exact Or.inr (Or.inl ⟨unlatched, early, rfl⟩)
    · rename_i elapsed
      exact Or.inr (Or.inr ⟨unlatched, Nat.le_of_not_lt elapsed, rfl⟩)

theorem recordActivity_cases (world : World) (source : ActivitySource) :
    (world.recordActivity source).2 = world ∨
    (world.recordActivity source).2 = { world with
      memory := { world.memory with
        lastBySource := (source, world.now) :: world.memory.lastBySource
        lastActivityMonotonicMs := world.now }
      log := world.log ++ [.accepted world.now] } ∨
    (world.recordActivity source).2 = { world with
      memory := { world.memory with
        lastBySource := (source, world.now) :: world.memory.lastBySource } } := by
  unfold World.recordActivity
  split
  · exact Or.inl rfl
  · split
    · exact Or.inr (Or.inl rfl)
    · exact Or.inr (Or.inr rfl)

theorem initializeMonitoring_cases (database : Database) (enabled : Bool) :
    ((database.state.runIsActive || database.state.terminal) = true ∧
      database.initializeMonitoring enabled = database) ∨
    ((database.state.runIsActive || database.state.terminal) = false ∧
      database.initializeMonitoring enabled = { database with
        state := if enabled then .monitoringIdle else .disabled
        activeRunId := none
        lastError := none }) := by
  unfold Database.initializeMonitoring
  split
  · exact Or.inl ⟨‹_›, rfl⟩
  · rename_i idle
    exact Or.inr ⟨by simpa using idle, rfl⟩

theorem resetTerminalFailure_cases (world : World) :
    (world.database.state.failedSafe = false ∧ world.resetTerminalFailure = (false, world)) ∨
    (world.database.state.failedSafe = true ∧ world.resetTerminalFailure = (true, { world with
      database := { world.database with
        state := .monitoringIdle, activeRunId := none, lastError := none }
      log := world.log ++ [.rearmed world.now] })) := by
  unfold World.resetTerminalFailure Database.resetTerminalFailure
  by_cases safe : world.database.state.failedSafe = true
  · rw [if_pos safe]
    exact Or.inr ⟨safe, rfl⟩
  · rw [if_neg safe]
    exact Or.inl ⟨by simpa using safe, rfl⟩

theorem createRun_cases (world : World) (apps : List RankedApp) :
    (∃ error, world.createRun apps = (.error error, world)) ∨
    (apps ≠ [] ∧ apps.length ≤ 10 ∧ (apps.map (·.appId)).Nodup ∧
      world.createRun apps = (.ok world.database.runs, { world with
        database := { world.database with
          state := .backingUp
          activeRunId := some world.database.runs
          lastError := none
          runs := world.database.runs + 1
          backupApps := world.database.backupApps ++
            Database.frozenApps world.database.runs apps }
        log := world.log ++ [.created world.database.runs (apps.map (·.appId))
          world.memory.config.timeoutMs world.now] })) := by
  unfold World.createRun Database.createRunWithFrozenApps
  by_cases empty : apps = []
  · rw [if_pos empty]
    exact Or.inl ⟨_, rfl⟩
  · by_cases many : 10 < apps.length
    · rw [if_neg empty, if_pos many]
      exact Or.inl ⟨_, rfl⟩
    · by_cases repeated : ¬ (apps.map (·.appId)).Nodup
      · rw [if_neg empty, if_neg many, if_pos repeated]
        exact Or.inl ⟨_, rfl⟩
      · rw [if_neg empty, if_neg many, if_neg repeated]
        exact Or.inr ⟨empty, Nat.le_of_not_lt many, not_not.mp repeated, rfl⟩

theorem markAppRunning_cases (world : World) (run : Nat) (app operation : String) :
    (world.database.updates run app Database.mayAttempt = false ∧
      ∃ error, act (.markAppRunning run app operation) world = (.error error, world)) ∨
    (world.database.updates run app Database.mayAttempt = true ∧
      act (.markAppRunning run app operation) world = (.ok (), { world with
        database := world.database.updateApp run app Database.mayAttempt (Database.runningRow operation)
        log := world.log ++ [.attempted run app (some operation)] })) := by
  simp only [act, Database.markAppRunning]
  cases updates : world.database.updates run app Database.mayAttempt with
  | false => exact Or.inl ⟨rfl, _, rfl⟩
  | true => exact Or.inr ⟨rfl, rfl⟩

theorem recordStartFailure_cases (world : World) (run : Nat) (app error : String) :
    (world.database.updates run app Database.mayAttempt = false ∧
      ∃ message, act (.recordStartFailure run app error) world = (.error message, world)) ∨
    (world.database.updates run app Database.mayAttempt = true ∧
      act (.recordStartFailure run app error) world = (.ok (), { world with
        database := world.database.updateApp run app Database.mayAttempt (Database.unstartedRow error)
        log := world.log ++ [.attempted run app none] })) := by
  simp only [act, Database.recordStartFailure]
  cases updates : world.database.updates run app Database.mayAttempt with
  | false => exact Or.inl ⟨rfl, _, rfl⟩
  | true => exact Or.inr ⟨rfl, rfl⟩

abbrev Agent := Prog interface String

def request (op : Op) : Agent op.Ret := Prog.perform (I := interface) op

def observe (op : Op) : Agent (Except String op.Ret) := Prog.observe (I := interface) op

def maxTrackedApps : Nat := 1024

def backupMaxAttempts : Nat := 3

def backupPollIntervalMs : Nat := 2 * 1000

def backupPollTimeoutMs : Nat := 30 * 60 * 1000

def backoffsMs : List Nat := [5 * 1000, 15 * 1000, 30 * 1000]

section Selection

variable (ignored : List Char → Bool)

def asciiLower (text : List Char) : List Char := text.map Char.toLower

/-- `ignored` is the discovery crate's policy on names of executables. -/
def isBackupEligibleAppId (app : String) : Bool :=
  let normalized := asciiLower (trim app.toList)
  if "exe:".toList <+: normalized then
    let executableId := normalized.drop 4
    let name :=
      match splitOnce ':' executableId.reverse with
      | some (_, before) => before.reverse
      | none => executableId
    !ignored (fileName name)
  else true

def recordSessions (candidates : List String) (elapsed now : Nat) :
    List (String × String) → Agent Unit
  | [] => pure ()
  | (session, app) :: rest =>
      if app ∈ candidates ∧ isBackupEligibleAppId ignored app = true then do
        request (.recordActiveSession session app elapsed now)
        recordSessions candidates elapsed now rest
      else recordSessions candidates elapsed now rest

def recordForegroundApp (candidates : List String) (elapsed now : Nat) : Agent Unit := do
  match ← request .foregroundPid with
  | none => pure ()
  | some pid =>
      match ← request (.resolveProcess pid) with
      | none => pure ()
      | some app =>
          if app ∈ candidates ∧ isBackupEligibleAppId ignored app = true then
            request (.recordForeground app elapsed now)
          else pure ()

def updateUsage : Agent Unit := do
  let elapsed ← request .usageElapsed
  if elapsed = 0 then pure ()
  else do
    let sessions ← request .activeAppSessions
    let candidates ← request .listCandidates
    request (.cacheCandidates candidates)
    let now ← request .nowUtc
    recordSessions ignored candidates elapsed now sessions
    recordForegroundApp ignored candidates elapsed now

def eligibleRankedApps (limit : Nat) : Agent (List RankedApp) := do
  let candidates ← request .readCandidates
  let ranked ← request (.rankedApps maxTrackedApps)
  pure ((ranked.filter fun app =>
    decide (app.appId ∈ candidates) && isBackupEligibleAppId ignored app.appId).take limit)

def validatedRankedApps (limit : Nat) : Agent (List RankedApp) := do
  let candidates ← request .listCandidates
  request (.cacheCandidates candidates)
  eligibleRankedApps ignored limit

end Selection

/-- Every poll that finds the operation still running sleeps for two seconds, so
the time limit is reached before the polls run out. -/
def monitorAndVerify (app operation : String) (started : Nat) : Nat → Agent (String × String)
  | 0 => .throw "backup operation timed out"
  | polls + 1 => do
      let status ← request (.operationStatus operation)
      if status.state = "COMPLETED" then do
        let (bundle, commit) ← Prog.ofExcept status.completionIds
        request (.transition .verifying none)
        let verified ← request (.verifyBackupCommit app bundle commit)
        if verified then do
          request (.transition .backingUp none)
          pure (bundle, commit)
        else .throw "backup commit verification failed"
      else if status.state ∈ failedStates then .throw status.failureMessage
      else if status.state ∈ runningStates then do
        let now ← request .monotonicMs
        if backupPollTimeoutMs ≤ now - started then .throw "backup operation timed out"
        else do
          request (.sleep backupPollIntervalMs)
          monitorAndVerify app operation started polls
      else .throw ("backup operation returned unknown state " ++ status.state)

def backupPolls : Nat := backupPollTimeoutMs / backupPollIntervalMs + 1

def monitor (app operation : String) : Agent (String × String) := do
  let started ← request .monotonicMs
  monitorAndVerify app operation started backupPolls

def follow (run : Nat) (app operation : String) (failed : String → Agent Unit) : Agent Unit := do
  match ← (monitor app operation).attempt with
  | .ok (bundle, commit) => request (.markAppVerified run app bundle commit)
  | .error error => failed error

def startFailed (run : Nat) (app error : String) (left : Nat) (retry : Agent Unit) :
    Agent Unit := do
  request (.recordStartFailure run app error)
  if left = 0 then do
    request (.markAppFailed run app error)
    .throw error
  else retry

def backoff (made : Nat) : Agent Unit :=
  if 0 < made then request (.sleep (backoffsMs.getD (made - 1) 0)) else pure ()

/-- The attempts that are left; as many as `BACKUP_MAX_ATTEMPTS` less those made. -/
def backupAttempts (run : Nat) (app : String) (mode : AutomaticBackupMode) : Nat → Agent Unit
  | 0 => .throw "backup attempts exhausted"
  | left + 1 => do
      backoff (backupMaxAttempts - (left + 1))
      match ← observe (.startBackup run app mode) with
      | .ok operation =>
          if trim operation.toList = [] then
            startFailed run app "StartBackup returned an empty operation ID" left
              (backupAttempts run app mode left)
          else do
            request (.markAppRunning run app operation)
            follow run app operation fun error =>
              if 0 < left then do
                request (.markAppPendingRetry run app error)
                backupAttempts run app mode left
              else do
                request (.markAppFailed run app error)
                .throw error
      | .error error => startFailed run app error left (backupAttempts run app mode left)

def backupFrom (run : Nat) (row : BackupApp) : Agent Unit := do
  let complete ← request (.hasCompleteBaseline run row.appId)
  backupAttempts run row.appId (modeOf complete) (backupMaxAttempts - row.attempts)

/-- The row is read again after an attempt of an earlier process was given up. -/
def backupAgain (run : Nat) (app : String) : Agent Unit := do
  let rows ← request (.backupApps run)
  match rows.find? (·.appId = app) with
  | some row => backupFrom run row
  | none => .throw "frozen backup application disappeared"

def backupApp (run : Nat) (row : BackupApp) : Agent Unit :=
  if row.status = .running then
    match row.operationId with
    | some operation =>
        follow run row.appId operation fun error => do
          request (.markAppPendingRetry run row.appId error)
          backupAgain run row.appId
    | none => do
        request (.markAppPendingRetry run row.appId "persisted running backup has no operation ID")
        backupAgain run row.appId
  else backupFrom run row

def backupEach (run : Nat) : List BackupApp → Agent Bool
  | [] => pure true
  | row :: rest =>
      if row.status = .verified then backupEach run rest
      else do
        match ← (backupApp run row).attempt with
        | .ok _ => backupEach run rest
        | .error error => do
            request (.failRun (some run) .backupFailedSafe error)
            pure false

def loadAndValidate (config : Config) : Agent StorageCapability := do
  let now ← request .nowUtc
  let capability ← request .loadCapability
  Prog.ofExcept (capability.validate config now)
  pure capability

def waitForRetry (lastError : Option String) : Option Nat → Agent Unit
  | some durationMs => do
      request (.transition .shutdownRetryWait lastError)
      request (.sleep durationMs)
  | none => pure ()

def shutdown (run : Nat) (config : Config) (capability : StorageCapability) :
    List (Option Nat) → Option String → Agent Unit
  | [], lastError =>
      request (.failRun (some run) .shutdownFailedSafe (lastError.getD "provider action failed"))
  | pause :: rest, lastError => do
      waitForRetry lastError pause
      let now ← request .nowUtc
      match capability.validate config now with
      | .error error => request (.failRun (some run) .shutdownFailedSafe error)
      | .ok _ => do
          request (.markShutdownStarted run)
          match ← observe (.apply run {
              baseUrl := config.vastBaseUrl, instanceId := config.instanceId,
              action := config.providerAction, apiKey := capability.providerApiKey }) with
          | .ok _ => request (.completeRun run)
          | .error error => shutdown run config capability rest (some error)

def shutdownPauses : List (Option Nat) := none :: backoffsMs.map some

def executeRun (run : Nat) (config : Config) : Agent Unit := do
  match ← (loadAndValidate config).attempt with
  | .error error => request (.failRun (some run) .backupFailedSafe error)
  | .ok capability => do
      let rows ← request (.backupApps run)
      if ← backupEach run rows then do
        if ← request (.allAppsVerified run) then
          shutdown run config capability shutdownPauses none
        else
          request (.failRun (some run) .backupFailedSafe
            "not every selected application has a verified backup")
      else pure ()

section Ticks

variable (ignored : List Char → Bool)

def beginRun (config : Config) : Agent Unit := do
  request (.transition .timeoutReached none)
  request (.transition .selectingApplications none)
  match ← (validatedRankedApps ignored config.backupAppLimit).attempt with
  | .error error =>
      request (.failRun none .backupFailedSafe
        ("unable to validate automatic-backup applications against shared storage: " ++ error))
  | .ok apps =>
      if apps = [] then
        request (.failRun none .backupFailedSafe
          "no eligible ranked applications; provider action blocked")
      else do
        let run ← request (.createRun apps)
        executeRun run config

def evaluate (config : Config) (state : LifecycleState) (activeRunId : Option Nat) :
    Agent Unit :=
  if state.runIsActive then
    match activeRunId with
    | some run => executeRun run config
    | none => .throw "active lifecycle state has no run ID"
  else if state.terminal then pure ()
  else do
    if ← request (.latchTimeoutIfElapsed config.timeoutMs) then beginRun ignored config
    else if state = .monitoringIdle then pure ()
    else request (.transition .monitoringIdle none)

def tick : Agent Unit := do
  let config ← request .readConfig
  if config.enabled then do
    -- Usage that cannot be sampled is only logged.
    let _ ← (updateUsage ignored).attempt
    let (state, activeRunId) ← request .snapshot
    evaluate ignored config state activeRunId
  else do
    let (state, _) ← request .snapshot
    if state.runIsActive = false ∧ state ≠ .disabled then request (.initializeMonitoring false)
    else pure ()

end Ticks

def applyConfig (config : Config) (newlyEnabled : Bool) : Agent Unit :=
  if config.enabled then do
    let _ ← request .resetTerminalFailure
    if newlyEnabled then do
      request (.initializeMonitoring true)
      request .resetForMonitoring
    else pure ()
  else do
    let (state, _) ← request .snapshot
    if state.runIsActive then pure () else request (.initializeMonitoring false)

def replaceConfig (config : Config) : Agent Unit := do
  let newlyEnabled ← request (.writeConfig config)
  applyConfig config newlyEnabled

def reloadConfig : Agent Unit := do
  let file ← request .loadConfig
  let config ← Prog.ofExcept (Config.load file)
  replaceConfig config

def recordActivity (event : ActivityEvent) : Agent ActivityOutcome :=
  if event.eventType ≠ "user_activity" then .throw "unsupported activity event type"
  else if event.timestampMs < 0 then .throw "activity timestampMs must be non-negative"
  else if event.synthetic then pure .ignoredSynthetic
  else if event.source = .controller then
    match event.magnitude with
    | none => .throw "controller activity requires finite magnitude"
    | some magnitude => do
        let config ← request .readConfig
        if -config.controllerDeadZone ≤ magnitude ∧ magnitude ≤ config.controllerDeadZone then
          pure .ignoredControllerDrift
        else request (.recordActivity event.source)
  else request (.recordActivity event.source)

def startup : Agent Unit := do
  let file ← request .loadConfig
  let config ← Prog.ofExcept (Config.load file)
  request (.initializeMonitoring config.enabled)
  request (.boot config)
  let (state, _) ← request .snapshot
  if state.runIsActive then request .latchTimeout else pure ()

/-- What the outside may do between two requests: answer differently, and let
time pass. -/
def passes (before after : World) : Prop :=
  ∃ outside elapsed, after = { before with outside, now := before.now + elapsed }

inductive Serves : Agent Unit → Prop where
  | reload : Serves reloadConfig
  | activity (event : ActivityEvent) : Serves (do let _ ← recordActivity event)

def plan (ignored : List Char → Bool) : Plan interface String World where
  startup := startup
  turn := tick ignored
  serves := Serves
  outside := passes
  halt world := { world with memory := Memory.blank world.now }

def Fresh (world : World) : Prop :=
  world.database = {} ∧ world.memory = Memory.blank world.now ∧ world.log = []

end Noland.Lifecycle
