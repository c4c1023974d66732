import Mathlib.Data.List.Sort
import Noland.Desktop.Instances

/-!
From `models/spend.rs` and the pure parts of `services/spend_tracker.rs`. Amounts and prices are
doubles in the source, of which only the operations below are used; a time is a number of
milliseconds, and a month key is the number of the month. The alerts that wait for the main
window are left out.
-/

namespace Noland.Desktop

structure SpendArithmetic (F : Type) where
  zero : F
  add : F → F → F
  seconds : Nat → F
  cost : F → Nat → F
  finiteNonNegative : F → F
  positive : F → Bool
  atLeast : F → F → Bool
  percent : F → Nat → F
  same : F → F → Bool
  monthKey : Nat → Nat
  startOfNextMonth : Nat → Nat
  monthKey_mono : ∀ {earlier later}, earlier ≤ later → monthKey earlier ≤ monthKey later

structure BudgetSettings (F : Type) where
  monthlyBudgetUsd : F
  warnAtPercent : Nat
  autoStopAtBudget : Bool
  deriving DecidableEq

structure SpendLedgerEntry (F : Type) where
  month : Nat
  provider : String
  instanceId : Nat
  label : String
  gpuName : String
  runningSeconds : F
  stoppedSeconds : F
  accruedUsd : F
  deriving DecidableEq

structure SpendCursor (F : Type) where
  provider : String
  instanceId : Nat
  lastObservedAt : Nat
  running : Bool
  hourlyPrice : F
  storageHourlyPrice : F
  sessionStartedAt : Option Nat
  sessionUsd : F
  deriving DecidableEq

structure BudgetAlertState where
  warnedMonth : Option Nat := none
  exceededMonth : Option Nat := none
  autoStopMonth : Option Nat := none
  autoStoppedInstanceIds : List Nat := []
  deriving DecidableEq

structure SpendState (F : Type) where
  settings : BudgetSettings F
  ledger : List (SpendLedgerEntry F) := []
  cursors : List (SpendCursor F) := []
  alerts : BudgetAlertState := {}
  priorCredentialLedger : List (SpendLedgerEntry F) := []
  deriving DecidableEq

structure SpendObservation (F : Type) where
  provider : String
  instanceId : Nat
  label : String
  gpuName : String
  running : Bool
  hourlyPrice : F
  storageHourlyPrice : F
  deriving DecidableEq

inductive BudgetLevel where
  | disabled | ok | warning | exceeded
  deriving DecidableEq

section Ledger

variable {F : Type}

def SpendLedgerEntry.isFor (provider : String) (instanceId month : Nat)
    (entry : SpendLedgerEntry F) : Bool :=
  entry.instanceId == instanceId && entry.provider == provider && entry.month == month

def SpendLedgerEntry.labelled (label gpuName : String) (entry : SpendLedgerEntry F) :
    SpendLedgerEntry F :=
  { entry with
    label := if label = "" then entry.label else label
    gpuName := if gpuName = "" then entry.gpuName else gpuName }

variable (arith : SpendArithmetic F)

/-- `entry_mut` and the change of the entry that it gives out. -/
def editEntry (provider : String) (instanceId month : Nat) (label gpuName : String)
    (change : SpendLedgerEntry F → SpendLedgerEntry F) :
    List (SpendLedgerEntry F) → List (SpendLedgerEntry F)
  | [] =>
      [change {
        month := month
        provider := provider
        instanceId := instanceId
        label := label
        gpuName := gpuName
        runningSeconds := arith.zero
        stoppedSeconds := arith.zero
        accruedUsd := arith.zero }]
  | entry :: rest =>
      if entry.isFor provider instanceId month then change (entry.labelled label gpuName) :: rest
      else entry :: editEntry provider instanceId month label gpuName change rest

def SpendLedgerEntry.accrue (running : Bool) (rate : F) (elapsed : Nat)
    (entry : SpendLedgerEntry F) : SpendLedgerEntry F :=
  { entry with
    runningSeconds :=
      if running then arith.add entry.runningSeconds (arith.seconds elapsed)
      else entry.runningSeconds
    stoppedSeconds :=
      if running then entry.stoppedSeconds
      else arith.add entry.stoppedSeconds (arith.seconds elapsed)
    accruedUsd := arith.add entry.accruedUsd (arith.cost rate elapsed) }

/-- The loop of `accrue_interval`; every round comes closer to the end by one at least. -/
def accrueSegments (cursor : SpendCursor F) (label gpuName : String) (rate : F) (end_ : Nat) :
    Nat → Nat → List (SpendLedgerEntry F) → F → List (SpendLedgerEntry F) × F
  | 0, _, ledger, total => (ledger, total)
  | rounds + 1, start, ledger, total =>
      if start < end_ then
        let segmentEnd := min (arith.startOfNextMonth start) end_
        let elapsed := segmentEnd - start
        let ledger := editEntry arith cursor.provider cursor.instanceId (arith.monthKey start)
          label gpuName (SpendLedgerEntry.accrue arith cursor.running rate elapsed) ledger
        accrueSegments cursor label gpuName rate end_ rounds segmentEnd ledger
          (arith.add total (arith.cost rate elapsed))
      else (ledger, total)

def accrueInterval (cursor : SpendCursor F) (label gpuName : String) (now : Nat)
    (ledger : List (SpendLedgerEntry F)) : List (SpendLedgerEntry F) × F :=
  let rate := if cursor.running then cursor.hourlyPrice else cursor.storageHourlyPrice
  accrueSegments arith cursor label gpuName rate now (now - cursor.lastObservedAt)
    cursor.lastObservedAt ledger arith.zero

def SpendCursor.isFor (provider : String) (instanceId : Nat) (cursor : SpendCursor F) : Bool :=
  cursor.instanceId == instanceId && cursor.provider == provider

def setFirst (provider : String) (instanceId : Nat) (cursor : SpendCursor F) :
    List (SpendCursor F) → List (SpendCursor F)
  | [] => []
  | first :: rest =>
      if first.isFor provider instanceId then cursor :: rest
      else first :: setFirst provider instanceId cursor rest

def SpendCursor.observed (cursor : SpendCursor F) (observation : SpendObservation F)
    (now : Nat) : SpendCursor F :=
  { cursor with
    sessionStartedAt :=
      if observation.running then
        if cursor.running then cursor.sessionStartedAt else some now
      else none
    sessionUsd :=
      if observation.running ∧ cursor.running then cursor.sessionUsd else arith.zero
    running := observation.running
    hourlyPrice := arith.finiteNonNegative observation.hourlyPrice
    storageHourlyPrice := arith.finiteNonNegative observation.storageHourlyPrice }

/-- One round of `record_observations`. -/
def observe (now : Nat) (spend : SpendState F) (observation : SpendObservation F) :
    SpendState F :=
  match spend.cursors.find? (·.isFor observation.provider observation.instanceId) with
  | some previous =>
      let (ledger, cursor) :=
        if previous.lastObservedAt < now then
          let (ledger, accrued) :=
            accrueInterval arith previous observation.label observation.gpuName now spend.ledger
          (ledger, { previous with
            sessionUsd :=
              if previous.running then arith.add previous.sessionUsd accrued
              else previous.sessionUsd
            lastObservedAt := now })
        else (spend.ledger, previous)
      { spend with
        ledger := ledger
        cursors := setFirst observation.provider observation.instanceId
          (cursor.observed arith observation now) spend.cursors }
  | none =>
      { spend with
        cursors := spend.cursors ++ [{
          provider := observation.provider
          instanceId := observation.instanceId
          lastObservedAt := now
          running := observation.running
          hourlyPrice := arith.finiteNonNegative observation.hourlyPrice
          storageHourlyPrice := arith.finiteNonNegative observation.storageHourlyPrice
          sessionStartedAt := if observation.running then some now else none
          sessionUsd := arith.zero }]
        ledger := editEntry arith observation.provider observation.instanceId
          (arith.monthKey now) observation.label observation.gpuName id spend.ledger }

def ledgerMonths (now : Nat) (ledger : List (SpendLedgerEntry F)) : List Nat :=
  let months := ((ledger.map SpendLedgerEntry.month).dedup).insertionSort (· ≤ ·)
  if arith.monthKey now ∈ months then months else months ++ [arith.monthKey now]

/-- Drops the entries of all but the last twelve months that the ledger has. -/
def pruneLedger (now : Nat) (spend : SpendState F) : SpendState F :=
  let months := ledgerMonths arith now spend.ledger
  let cutoff := months.getD (months.length - 12) 0
  { spend with
    priorCredentialLedger := spend.priorCredentialLedger.filter fun entry =>
      arith.monthKey now - 11 ≤ entry.month
    ledger :=
      if months.length ≤ 12 then spend.ledger
      else spend.ledger.filter fun entry => cutoff ≤ entry.month }

def recordObservations (observations : List (SpendObservation F)) (now : Nat)
    (spend : SpendState F) : SpendState F :=
  let spend := observations.foldl (observe arith now) spend
  pruneLedger arith now { spend with
    cursors := spend.cursors.filter fun cursor => observations.any fun observation =>
      cursor.isFor observation.provider observation.instanceId }

def transitionObservations (instanceId : Nat) (running : Bool) (cursors : List (SpendCursor F)) :
    List (SpendObservation F) :=
  cursors.map fun cursor => {
    provider := cursor.provider
    instanceId := cursor.instanceId
    label := ""
    gpuName := ""
    running :=
      if cursor.provider = "vast" ∧ cursor.instanceId = instanceId then running
      else cursor.running
    hourlyPrice := cursor.hourlyPrice
    storageHourlyPrice := cursor.storageHourlyPrice }

def recordInstanceTransition (instanceId : Nat) (running : Bool) (now : Nat)
    (spend : SpendState F) : SpendState F :=
  recordObservations arith (transitionObservations instanceId running spend.cursors) now spend

def recordInstanceDestroyed (instanceId : Nat) (now : Nat) (spend : SpendState F) :
    SpendState F :=
  let spend := recordInstanceTransition arith instanceId false now spend
  { spend with
    cursors := spend.cursors.filter fun cursor =>
      cursor.provider ≠ "vast" ∨ cursor.instanceId ≠ instanceId }

def monthTotal (spend : SpendState F) (month : Nat) : F :=
  (spend.ledger.filter fun entry => entry.month = month).foldl
    (fun total entry => arith.add total entry.accruedUsd) arith.zero

def budgetLevel (spend : SpendState F) (now : Nat) : BudgetLevel :=
  let budget := spend.settings.monthlyBudgetUsd
  let spent := monthTotal arith spend (arith.monthKey now)
  if arith.positive budget = false then .disabled
  else if arith.atLeast spent budget then .exceeded
  else if arith.atLeast spent (arith.percent budget spend.settings.warnAtPercent) then .warning
  else .ok

/-- The list of the stopped instances belongs to the current month afterwards. -/
def enterMonth (month : Nat) (alerts : BudgetAlertState) : BudgetAlertState :=
  if alerts.autoStopMonth = some month then alerts
  else { alerts with autoStopMonth := some month, autoStoppedInstanceIds := [] }

def instancesToAutoStop (now : Nat) (spend : SpendState F) :
    List (SpendCursor F) × SpendState F :=
  let spend := { spend with alerts := enterMonth (arith.monthKey now) spend.alerts }
  if spend.settings.autoStopAtBudget = false ∨ budgetLevel arith spend now ≠ .exceeded then
    ([], spend)
  else
    (spend.cursors.filter fun cursor =>
      cursor.running && !spend.alerts.autoStoppedInstanceIds.contains cursor.instanceId, spend)

def markAutoStopped (instanceId : Nat) (spend : SpendState F) : SpendState F :=
  if instanceId ∈ spend.alerts.autoStoppedInstanceIds then spend
  else
    { spend with alerts := { spend.alerts with
      autoStoppedInstanceIds := spend.alerts.autoStoppedInstanceIds ++ [instanceId] } }

def recordAndEnforce (observations : List (SpendObservation F)) (now : Nat)
    (spend : SpendState F) : List (SpendCursor F) × SpendState F :=
  let month := arith.monthKey now
  let spend := recordObservations arith observations now spend
  let alerts := match budgetLevel arith spend now with
    | .exceeded =>
        if spend.alerts.exceededMonth = some month then spend.alerts
        else { spend.alerts with exceededMonth := some month, warnedMonth := some month }
    | .warning =>
        if spend.alerts.warnedMonth = some month then spend.alerts
        else { spend.alerts with warnedMonth := some month }
    | _ => spend.alerts
  instancesToAutoStop arith now { spend with alerts := alerts }

end Ledger

structure ListedSpend (F : Type) where
  id : Nat
  status : String
  label : String := ""
  gpuName : String := ""
  hourlyPrice : F
  storageHourlyPrice : F

def asciiLowercase (text : String) : List Char := text.toList.map Char.toLower

def mentions (text : List Char) (word : String) : Bool :=
  text.tails.any fun rest => word.toList.isPrefixOf rest

def vastStatusIsBilledAsRunning (status : String) : Bool :=
  let status := asciiLowercase (trimmed status)
  if mentions status "inactive" || mentions status "stop" || mentions status "exit" ||
      mentions status "offline" then false
  else
    ["running", "loading", "creating", "starting", "active", "ready"].any (mentions status)

section Listings

variable {F : Type}

def observationsFromVast (instances : List (ListedSpend F)) : List (SpendObservation F) :=
  (instances.filter fun listed => !mentions (asciiLowercase listed.status) "destroy").map
    fun listed => {
      provider := "vast"
      instanceId := listed.id
      label :=
        if trimmed listed.label = "" then "Instance " ++ toString listed.id else listed.label
      gpuName := listed.gpuName
      running := vastStatusIsBilledAsRunning listed.status
      hourlyPrice := listed.hourlyPrice
      storageHourlyPrice := listed.storageHourlyPrice }

structure SpendAccount (F : Type) where
  vastApiKey : String
  spend : SpendState F

def SpendState.initial (arith : SpendArithmetic F) : SpendState F where
  settings := { monthlyBudgetUsd := arith.zero, warnAtPercent := 80, autoStopAtBudget := false }

def replaceVastApiKey (arith : SpendArithmetic F) (apiKey : String) (account : SpendAccount F) :
    SpendAccount F where
  vastApiKey := apiKey
  spend :=
    if trimmed account.vastApiKey = trimmed apiKey then account.spend
    else
      { SpendState.initial arith with
        priorCredentialLedger := account.spend.priorCredentialLedger ++ account.spend.ledger }

end Listings

end Noland.Desktop
