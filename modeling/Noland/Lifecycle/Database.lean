import Mathlib.Data.List.Sort
import Noland.Lib.Text

/-!
Every function is one transaction of the source. Run ids are numbers here. The time columns, which
no decision reads, are left out, except the last use of an application, which ranks it; so is the
table of runs, whose columns are only written.
-/

namespace Noland.Lifecycle

open Noland.Text

inductive LifecycleState where
  | disabled
  | monitoringIdle
  | timeoutReached
  | selectingApplications
  | backingUp
  | verifying
  | shuttingDown
  | backupFailedSafe
  | shutdownRetryWait
  | shutdownFailedSafe
  | completed
  deriving DecidableEq

def LifecycleState.runIsActive : LifecycleState → Bool
  | .timeoutReached | .selectingApplications | .backingUp | .verifying | .shuttingDown
  | .shutdownRetryWait => true
  | _ => false

def LifecycleState.failedSafe : LifecycleState → Bool
  | .backupFailedSafe | .shutdownFailedSafe => true
  | _ => false

/-- The states that neither a start nor a tick leaves. -/
def LifecycleState.terminal (state : LifecycleState) : Bool :=
  state.failedSafe || state == .completed

inductive AppStatus where
  | pending
  | running
  | verified
  | failed
  deriving DecidableEq

structure BackupApp where
  runId : Nat
  appId : String
  rank : Nat
  status : AppStatus
  attempts : Nat
  operationId : Option String
  bundleId : Option String
  commitId : Option String
  lastError : Option String
  deriving DecidableEq

structure RankedApp where
  appId : String
  foregroundActiveMs : Nat
  processRuntimeMs : Nat
  launchCount : Nat
  lastActiveAt : Nat
  deriving DecidableEq

structure Database where
  state : LifecycleState := .disabled
  activeRunId : Option Nat := none
  lastError : Option String := none
  /-- The runs created so far; the next one gets this id. -/
  runs : Nat := 0
  backupApps : List BackupApp := []
  appUsage : List RankedApp := []
  seenSessions : List String := []
  deriving DecidableEq

namespace Database

variable (database : Database)

def initializeMonitoring (enabled : Bool) : Database :=
  if database.state.runIsActive || database.state.terminal then database
  else { database with
    state := if enabled then .monitoringIdle else .disabled
    activeRunId := none
    lastError := none }

def resetTerminalFailure : Bool × Database :=
  if database.state.failedSafe then
    (true, { database with state := .monitoringIdle, activeRunId := none, lastError := none })
  else (false, database)

def transition (state : LifecycleState) (error : Option String) : Database :=
  { database with state, lastError := error }

def markShutdownStarted (run : Nat) : Database :=
  if database.activeRunId = some run then
    { database with state := .shuttingDown, lastError := none }
  else database

def completeRun (run : Nat) : Database :=
  if database.activeRunId = some run then
    { database with state := .completed, lastError := none }
  else database

def failRun (state : LifecycleState) (error : String) : Database :=
  { database with state, lastError := some error }

def usageOf (app : String) : Option RankedApp := database.appUsage.find? (·.appId = app)

def putUsage (row : RankedApp) : Database :=
  if (database.usageOf row.appId).isSome then
    { database with
      appUsage := database.appUsage.map fun old => if old.appId = row.appId then row else old }
  else { database with appUsage := database.appUsage ++ [row] }

def recordActiveSession (session app : String) (runtimeMs now : Nat) : Database :=
  let inserted := decide (session ∉ database.seenSessions)
  let launches := if inserted then 1 else 0
  let seen := if inserted then database.seenSessions ++ [session] else database.seenSessions
  let row : RankedApp :=
    match database.usageOf app with
    | some old => { old with
        processRuntimeMs := old.processRuntimeMs + runtimeMs
        launchCount := old.launchCount + launches
        lastActiveAt := now }
    | none => {
        appId := app, foregroundActiveMs := 0, processRuntimeMs := runtimeMs,
        launchCount := launches, lastActiveAt := now }
  { database.putUsage row with seenSessions := seen }

def recordForeground (app : String) (foregroundMs now : Nat) : Database :=
  let row : RankedApp :=
    match database.usageOf app with
    | some old => { old with
        foregroundActiveMs := old.foregroundActiveMs + foregroundMs
        lastActiveAt := now }
    | none => {
        appId := app, foregroundActiveMs := foregroundMs, processRuntimeMs := 0,
        launchCount := 0, lastActiveAt := now }
  database.putUsage row

end Database

/-- `foreground_active_ms DESC, last_active_at DESC, process_runtime_ms DESC, app_id ASC`. -/
def RankedApp.before (left right : RankedApp) : Bool :=
  decide (right.foregroundActiveMs < left.foregroundActiveMs) ||
  decide (right.foregroundActiveMs = left.foregroundActiveMs) &&
    (decide (right.lastActiveAt < left.lastActiveAt) ||
    decide (right.lastActiveAt = left.lastActiveAt) &&
      (decide (right.processRuntimeMs < left.processRuntimeMs) ||
      decide (right.processRuntimeMs = left.processRuntimeMs) &&
        !decide (right.appId.toList < left.appId.toList)))

namespace Database

variable (database : Database)

def rankedApps (limit : Nat) : List RankedApp :=
  ((database.appUsage.filter fun row =>
    decide (0 < row.foregroundActiveMs) || decide (0 < row.processRuntimeMs)).insertionSort
      fun left right => left.before right = true).take limit

def frozenApps (run : Nat) (apps : List RankedApp) : List BackupApp :=
  apps.mapIdx fun index app => {
    runId := run, appId := app.appId, rank := index + 1, status := .pending, attempts := 0,
    operationId := none, bundleId := none, commitId := none, lastError := none }

def createRunWithFrozenApps (apps : List RankedApp) : Except String Nat × Database :=
  if apps = [] then (.error "cannot create a lifecycle run without applications", database)
  else if 10 < apps.length then (.error "cannot freeze more than 10 applications", database)
  else if ¬ (apps.map (·.appId)).Nodup then (.error "UNIQUE constraint failed", database)
  else (.ok database.runs, { database with
    state := .backingUp
    activeRunId := some database.runs
    lastError := none
    runs := database.runs + 1
    backupApps := database.backupApps ++ frozenApps database.runs apps })

def appsOf (run : Nat) : List BackupApp := database.backupApps.filter (·.runId = run)

def revise (run : Nat) (app : String) (condition : BackupApp → Bool)
    (change : BackupApp → BackupApp) (row : BackupApp) : BackupApp :=
  if row.runId = run ∧ row.appId = app ∧ condition row = true then change row else row

def updateApp (run : Nat) (app : String) (condition : BackupApp → Bool)
    (change : BackupApp → BackupApp) : Database :=
  { database with backupApps := database.backupApps.map (revise run app condition change) }

/-- Whether `updateApp` changes a row. -/
def updates (run : Nat) (app : String) (condition : BackupApp → Bool) : Bool :=
  database.backupApps.any fun row => decide (row.runId = run ∧ row.appId = app) && condition row

def notVerified (row : BackupApp) : Bool := row.status ≠ .verified

def mayAttempt (row : BackupApp) : Bool := notVerified row && decide (row.attempts < 3)

def runningRow (operation : String) (row : BackupApp) : BackupApp :=
  { row with
    status := .running, attempts := row.attempts + 1, operationId := some operation,
    bundleId := none, commitId := none, lastError := none }

/-- The change that an attempt that did not start makes to its row. -/
def unstartedRow (error : String) (row : BackupApp) : BackupApp :=
  { row with
    status := .pending, attempts := row.attempts + 1, operationId := none,
    lastError := some error }

def pendingRow (error : String) (row : BackupApp) : BackupApp :=
  { row with status := .pending, operationId := none, lastError := some error }

def failedRow (error : String) (row : BackupApp) : BackupApp :=
  { row with status := .failed, lastError := some error }

def verifiedRow (bundle commit : String) (row : BackupApp) : BackupApp :=
  { row with
    status := .verified, bundleId := some bundle, commitId := some commit, lastError := none }

def markAppRunning (run : Nat) (app operation : String) : Except String Unit × Database :=
  if database.updates run app mayAttempt then
    (.ok (), database.updateApp run app mayAttempt (runningRow operation))
  else (.error "backup application cannot start another attempt", database)

def recordStartFailure (run : Nat) (app error : String) : Except String Unit × Database :=
  if database.updates run app mayAttempt then
    (.ok (), database.updateApp run app mayAttempt (unstartedRow error))
  else (.error "backup application attempts are exhausted", database)

def markAppPendingRetry (run : Nat) (app error : String) : Database :=
  database.updateApp run app notVerified (pendingRow error)

def markAppFailed (run : Nat) (app error : String) : Database :=
  database.updateApp run app notVerified (failedRow error)

def markAppVerified (run : Nat) (app bundle commit : String) : Database :=
  database.updateApp run app (fun _ => true) (verifiedRow bundle commit)

def allAppsVerified (run : Nat) : Bool :=
  let total := (database.appsOf run).length
  let verified := (database.appsOf run).countP (·.status = .verified)
  decide (0 < verified) && decide (total = verified)

end Database

end Noland.Lifecycle
