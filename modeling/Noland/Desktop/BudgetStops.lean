import Noland.Desktop.StaleListing

/-!
A tick decides which instances to stop, reserves each of them and starts a job; the job checks its
policy, backs up, checks again, sends the pause, records it and reports. The slots that bound the
number of jobs and the alerts are left out.
-/

namespace Noland.Desktop

open Noland.Machine

section Stops

variable {F : Type}

structure BudgetStopPolicy (F : Type) where
  apiKey : String
  settings : BudgetSettings F
  month : Nat

inductive StopStage where
  | queued
  | backingUp (apiKey : String)
  | sending (apiKey : String)
  | sent (apiKey : String)
  | paused (apiKey : String)
  | reporting (stopped : Bool)
  deriving DecidableEq

/-- The epoch counts the replacements of the credential before the stop was decided. -/
structure StopJob (F : Type) where
  instanceId : Nat
  policy : BudgetStopPolicy F
  epoch : Nat
  stage : StopStage

/-- How far the tick has come; `at_` is the time that it takes before it updates the state. -/
inductive TickStage (F : Type) where
  | idle
  | listing (apiKey : String)
  | folding (apiKey : String) (instances : List (ListedSpend F)) (at_ : Nat)
  | enforcing (targets : List Nat) (policy : BudgetStopPolicy F) (epoch : Nat)

structure BudgetTracker (F : Type) where
  account : SpendAccount F
  now : Nat := 0
  tick : TickStage F := .idle
  inFlight : List Nat := []
  retryAfter : Nat → Option Nat := fun _ => none
  jobs : Nat → Option (StopJob F) := fun _ => none
  epoch : Nat := 0
  /-- Budget pauses that the provider confirmed, with their months. -/
  succeeded : List (Nat × Nat) := []
  /-- Those of them that the user has started again. -/
  restarted : List (Nat × Nat) := []
  /-- Those recorded under the credential that they were decided under. -/
  recorded : List (Nat × Nat) := []

inductive BudgetEvent (F : Type) where
  | pass (elapsed : Nat)
  | tickRequest
  | tickFailed
  | tickListed (instances : List (ListedSpend F))
  | tickFold (saved : Bool)
  | tickEnforce (id : Nat)
  | job (id : Nat) (ok : Bool)
  | replaceKey (apiKey : String) (saved : Bool)
  | updateSettings (settings : BudgetSettings F) (saved : Bool)
  | confirmed (instanceId : Nat) (destroyed : Bool) (apiKey : String) (saved : Bool)
  | restart (instanceId : Nat)

variable (arith : SpendArithmetic F)

def sameSettings (first second : BudgetSettings F) : Bool :=
  arith.same first.monthlyBudgetUsd second.monthlyBudgetUsd &&
    first.warnAtPercent == second.warnAtPercent &&
    first.autoStopAtBudget == second.autoStopAtBudget

def BudgetStopPolicy.authorized (policy : BudgetStopPolicy F) (account : SpendAccount F)
    (instanceId now : Nat) : Bool :=
  trimmed account.vastApiKey == trimmed policy.apiKey &&
    sameSettings arith account.spend.settings policy.settings &&
    arith.monthKey now == policy.month &&
    account.spend.settings.autoStopAtBudget &&
    budgetLevel arith account.spend now == .exceeded &&
    account.spend.cursors.any (fun cursor =>
      cursor.provider == "vast" && cursor.instanceId == instanceId && cursor.running) &&
    !account.spend.alerts.autoStoppedInstanceIds.contains instanceId

namespace BudgetTracker

variable (tracker : BudgetTracker F)

def withSpend (spend : SpendState F) : BudgetTracker F :=
  { tracker with account := { tracker.account with spend := spend } }

def setJob (id : Nat) (job : StopJob F) (stage : StopStage) : BudgetTracker F :=
  { tracker with jobs := Function.update tracker.jobs id (some { job with stage := stage }) }

def failJob (id : Nat) (job : StopJob F) : BudgetTracker F :=
  { tracker.setJob id job (.reporting false) with
    retryAfter := Function.update tracker.retryAfter job.instanceId (some (tracker.now + 300000)) }

def endJob (id : Nat) (job : StopJob F) : BudgetTracker F :=
  { tracker with
    jobs := Function.update tracker.jobs id none
    inFlight := tracker.inFlight.filter fun reserved => reserved ≠ job.instanceId }

/-- `StopReservation::acquire` and the job that it is for. -/
def startJob (id instanceId : Nat) (policy : BudgetStopPolicy F) (epoch : Nat) :
    BudgetTracker F :=
  if instanceId ∈ tracker.inFlight ∨
      (tracker.retryAfter instanceId).any (fun until_ => decide (tracker.now < until_)) then
    tracker
  else
    { tracker with
      inFlight := instanceId :: tracker.inFlight
      retryAfter := Function.update tracker.retryAfter instanceId none
      jobs := Function.update tracker.jobs id (some {
        instanceId := instanceId
        policy := policy
        epoch := epoch
        stage := .queued }) }

def recordPause (job : StopJob F) (apiKey : String) : BudgetTracker F :=
  if trimmed tracker.account.vastApiKey = trimmed apiKey then
    let spend :=
      recordInstanceTransition arith job.instanceId false tracker.now tracker.account.spend
    if arith.monthKey tracker.now = job.policy.month then
      { tracker.withSpend (markAutoStopped job.instanceId spend) with
        recorded :=
          if job.epoch = tracker.epoch then
            (job.instanceId, job.policy.month) :: tracker.recorded
          else tracker.recorded }
    else tracker.withSpend spend
  else tracker

def report (job : StopJob F) (stopped : Bool) : BudgetTracker F :=
  if trimmed tracker.account.vastApiKey = trimmed job.policy.apiKey ∧ stopped = true ∧
      arith.monthKey tracker.now = job.policy.month then
    tracker.withSpend (markAutoStopped job.instanceId tracker.account.spend)
  else tracker

/-- `pause_instance_for_budget` and the end of the job, one step at a time. -/
def stepJob (id : Nat) (job : StopJob F) (ok : Bool) : BudgetTracker F :=
  let authorized := job.policy.authorized arith tracker.account job.instanceId tracker.now
  match job.stage with
  | .queued =>
      -- The instance is free for another action, or it is not.
      if ok = false then tracker.failJob id job
      else if authorized = false then tracker.endJob id job
      else if trimmed tracker.account.vastApiKey = "" then tracker.failJob id job
      else tracker.setJob id job (.backingUp tracker.account.vastApiKey)
  | .backingUp apiKey =>
      if ok = false then tracker.failJob id job
      else if authorized = false then tracker.endJob id job
      else if trimmed tracker.account.vastApiKey ≠ trimmed apiKey then tracker.failJob id job
      else tracker.setJob id job (.sending apiKey)
  | .sending apiKey => tracker.setJob id job (.sent apiKey)
  | .sent apiKey =>
      if ok then
        { tracker.setJob id job (.paused apiKey) with
          succeeded := (job.instanceId, arith.monthKey tracker.now) :: tracker.succeeded }
      else tracker.failJob id job
  | .paused apiKey =>
      if ok then (tracker.recordPause arith job apiKey).setJob id job (.reporting true)
      else tracker.failJob id job
  | .reporting stopped =>
      (if ok then tracker.report arith job stopped else tracker).endJob id job

def fold (apiKey : String) (instances : List (ListedSpend F)) (at_ : Nat) (saved : Bool) :
    BudgetTracker F :=
  if saved = true ∧ trimmed tracker.account.vastApiKey = trimmed apiKey then
    let result :=
      recordAndEnforce arith (observationsFromVast instances) at_ tracker.account.spend
    { tracker.withSpend result.2 with
      tick := .enforcing (result.1.map SpendCursor.instanceId)
        { apiKey := apiKey, settings := result.2.settings, month := arith.monthKey at_ }
        tracker.epoch }
  else { tracker with tick := .idle }

/-- Raising the budget or the threshold arms the alerts of the month again. -/
def changeSettings (settings : BudgetSettings F) : BudgetTracker F :=
  let previous := tracker.account.spend.settings
  let alerts := tracker.account.spend.alerts
  let raised := arith.atLeast previous.monthlyBudgetUsd settings.monthlyBudgetUsd = false ∨
    previous.warnAtPercent < settings.warnAtPercent
  tracker.withSpend { tracker.account.spend with
    settings := settings
    alerts := { alerts with
      warnedMonth := if raised then none else alerts.warnedMonth
      exceededMonth := if raised then none else alerts.exceededMonth } }

def replaceKey (apiKey : String) : BudgetTracker F :=
  let replaced := { tracker with account := replaceVastApiKey arith apiKey tracker.account }
  if trimmed tracker.account.vastApiKey = trimmed apiKey then replaced
  else { replaced with epoch := tracker.epoch + 1, recorded := [] }

end BudgetTracker

def budgetStep (tracker : BudgetTracker F) : BudgetEvent F → BudgetTracker F
  | .pass elapsed => { tracker with now := tracker.now + elapsed }
  | .tickRequest =>
      match tracker.tick with
      | .idle =>
          if trimmed tracker.account.vastApiKey = "" then tracker
          else { tracker with tick := .listing tracker.account.vastApiKey }
      | _ => tracker
  | .tickFailed =>
      match tracker.tick with
      | .listing _ => { tracker with tick := .idle }
      | _ => tracker
  | .tickListed instances =>
      match tracker.tick with
      | .listing apiKey => { tracker with tick := .folding apiKey instances tracker.now }
      | _ => tracker
  | .tickFold saved =>
      match tracker.tick with
      | .folding apiKey instances at_ => tracker.fold arith apiKey instances at_ saved
      | _ => tracker
  | .tickEnforce id =>
      match tracker.tick, tracker.jobs id with
      | .enforcing [] _ _, _ => { tracker with tick := .idle }
      | .enforcing (target :: targets) policy epoch, none =>
          { tracker.startJob id target policy epoch with
            tick := .enforcing targets policy epoch }
      | _, _ => tracker
  | .job id ok =>
      match tracker.jobs id with
      | some job => tracker.stepJob arith id job ok
      | none => tracker
  | .replaceKey apiKey saved => if saved then tracker.replaceKey arith apiKey else tracker
  | .updateSettings settings saved =>
      if saved then tracker.changeSettings arith settings else tracker
  | .confirmed instanceId destroyed apiKey saved =>
      if saved = true ∧ trimmed tracker.account.vastApiKey = trimmed apiKey then
        tracker.withSpend
          (recordConfirmed arith instanceId destroyed tracker.now tracker.account.spend)
      else tracker
  | .restart instanceId =>
      if (instanceId, arith.monthKey tracker.now) ∈ tracker.succeeded then
        { tracker with
          restarted := (instanceId, arith.monthKey tracker.now) :: tracker.restarted }
      else tracker

def StopJob.IsSending (job : StopJob F) : Prop := ∃ apiKey, job.stage = .sending apiKey

def StopJob.IsSent (job : StopJob F) : Prop := ∃ apiKey, job.stage = .sent apiKey

def SentInForce (tracker : BudgetTracker F) : Prop :=
  ∀ id job, tracker.jobs id = some job → job.IsSending →
    job.policy.authorized arith tracker.account job.instanceId tracker.now = true

/-- No pause request can go out for an instance that was stopped by the budget this month and
started again. -/
def NeverAgain (tracker : BudgetTracker F) : Prop :=
  ∀ id job, tracker.jobs id = some job → job.IsSending →
    (job.instanceId, arith.monthKey tracker.now) ∉ tracker.restarted

/-- A job comes to its request only when its policy is in force in that very state, and a
request goes out only from there. -/
def CheckedBefore (tracker later : BudgetTracker F) : Prop :=
  ∀ id job, later.jobs id = some job →
    (job.IsSending → tracker.jobs id = some job ∨
      job.policy.authorized arith later.account job.instanceId later.now = true) ∧
    (job.IsSent → tracker.jobs id = some job ∨
      ∃ before, tracker.jobs id = some before ∧ before.IsSending ∧
        before.instanceId = job.instanceId)

def RecordedOnce (tracker : BudgetTracker F) : Prop :=
  ∀ id job, tracker.jobs id = some job → job.IsSending →
    (job.instanceId, arith.monthKey tracker.now) ∉ tracker.recorded

def Decided (tracker : BudgetTracker F) (policy : BudgetStopPolicy F) : Prop :=
  ∃ month, tracker.account.spend.alerts.autoStopMonth = some month ∧ policy.month ≤ month

structure Enforced (tracker : BudgetTracker F) : Prop where
  reserved : ∀ id job, tracker.jobs id = some job → job.instanceId ∈ tracker.inFlight
  alone : ∀ one other first second, tracker.jobs one = some first →
    tracker.jobs other = some second → first.instanceId = second.instanceId → one = other
  month : ∀ month, tracker.account.spend.alerts.autoStopMonth = some month →
    month ≤ arith.monthKey tracker.now
  folding : ∀ apiKey instances at_, tracker.tick = .folding apiKey instances at_ →
    at_ ≤ tracker.now ∧ ∀ month, tracker.account.spend.alerts.autoStopMonth = some month →
      month ≤ arith.monthKey at_
  enforcing : ∀ targets policy epoch, tracker.tick = .enforcing targets policy epoch →
    epoch ≤ tracker.epoch ∧ (epoch = tracker.epoch → Decided tracker policy)
  decided : ∀ id job, tracker.jobs id = some job →
    job.epoch ≤ tracker.epoch ∧ (job.epoch = tracker.epoch → Decided tracker job.policy)
  recorded : ∀ instanceId month, (instanceId, month) ∈ tracker.recorded →
    month ≤ arith.monthKey tracker.now ∧ (month = arith.monthKey tracker.now →
      tracker.account.spend.alerts.autoStopMonth = some month ∧
        instanceId ∈ tracker.account.spend.alerts.autoStoppedInstanceIds)
  once : RecordedOnce arith tracker

variable {arith} {tracker : BudgetTracker F} {id : Nat} {job : StopJob F}

theorem Enforced.withSpend (enforced : Enforced arith tracker) {spend : SpendState F}
    (month : spend.alerts.autoStopMonth = tracker.account.spend.alerts.autoStopMonth)
    (stopped : ∀ instanceId ∈ tracker.account.spend.alerts.autoStoppedInstanceIds,
      instanceId ∈ spend.alerts.autoStoppedInstanceIds) :
    Enforced arith (tracker.withSpend spend) where
  reserved := enforced.reserved
  alone := enforced.alone
  month := fun current here => enforced.month current (month.symm.trans here)
  folding := fun apiKey instances at_ here => by
    obtain ⟨past, bound⟩ := enforced.folding apiKey instances at_ here
    exact ⟨past, fun current there => bound current (month.symm.trans there)⟩
  enforcing := fun targets policy epoch here => by
    obtain ⟨bound, decided⟩ := enforced.enforcing targets policy epoch here
    refine ⟨bound, fun same => ?_⟩
    obtain ⟨current, there, later⟩ := decided same
    exact ⟨current, month.trans there, later⟩
  decided := fun id job here => by
    obtain ⟨bound, decided⟩ := enforced.decided id job here
    refine ⟨bound, fun same => ?_⟩
    obtain ⟨current, there, later⟩ := decided same
    exact ⟨current, month.trans there, later⟩
  recorded := fun instanceId current here => by
    obtain ⟨bound, marked⟩ := enforced.recorded instanceId current here
    refine ⟨bound, fun same => ?_⟩
    exact ⟨month.trans (marked same).1, stopped instanceId (marked same).2⟩
  once := enforced.once

theorem recordObservations_alerts (arith : SpendArithmetic F)
    (observations : List (SpendObservation F)) (now : Nat) (spend : SpendState F) :
    (recordObservations arith observations now spend).alerts = spend.alerts := by
  have folded : (observations.foldl (observe arith now) spend).alerts = spend.alerts := by
    induction observations generalizing spend with
    | nil => rfl
    | cons observation rest ih =>
        rw [List.foldl_cons, ih]
        unfold observe
        cases spend.cursors.find? (·.isFor observation.provider observation.instanceId) with
        | none => rfl
        | some previous => rfl
  exact folded

theorem confirmed_alerts (arith : SpendArithmetic F) (instanceId : Nat) (destroyed : Bool)
    (now : Nat) (spend : SpendState F) :
    (recordConfirmed arith instanceId destroyed now spend).alerts = spend.alerts := by
  cases destroyed with
  | false => exact recordObservations_alerts arith _ now spend
  | true => exact recordObservations_alerts arith _ now spend

theorem markAutoStopped_alerts (instanceId : Nat) (spend : SpendState F) :
    (markAutoStopped instanceId spend).alerts.autoStopMonth = spend.alerts.autoStopMonth ∧
      instanceId ∈ (markAutoStopped instanceId spend).alerts.autoStoppedInstanceIds ∧
      ∀ other ∈ spend.alerts.autoStoppedInstanceIds,
        other ∈ (markAutoStopped instanceId spend).alerts.autoStoppedInstanceIds := by
  unfold markAutoStopped
  split
  · next known => exact ⟨rfl, known, fun _ member => member⟩
  · refine ⟨rfl, ?_, ?_⟩
    · exact List.mem_append_right _ (List.mem_singleton_self instanceId)
    · exact fun other member => List.mem_append_left _ member

theorem Enforced.setJob (enforced : Enforced arith tracker) (here : tracker.jobs id = some job)
    (stage : StopStage)
    (unrecorded : ∀ apiKey, stage = .sending apiKey →
      (job.instanceId, arith.monthKey tracker.now) ∉ tracker.recorded) :
    Enforced arith (tracker.setJob id job stage) := by
  have moved : ∀ other found, (tracker.setJob id job stage).jobs other = some found →
      (other = id ∧ found = { job with stage := stage }) ∨
        (other ≠ id ∧ tracker.jobs other = some found) := by
    intro other found there
    by_cases same : other = id
    · subst same
      rw [show (tracker.setJob other job stage).jobs other = some { job with stage := stage } from
        Function.update_self ..] at there
      exact Or.inl ⟨rfl, (Option.some.inj there).symm⟩
    · rw [show (tracker.setJob id job stage).jobs other = tracker.jobs other from
        Function.update_of_ne same ..] at there
      exact Or.inr ⟨same, there⟩
  have before : ∀ other found, (tracker.setJob id job stage).jobs other = some found →
      ∃ old, tracker.jobs other = some old ∧ old.instanceId = found.instanceId ∧
        old.policy = found.policy ∧ old.epoch = found.epoch := by
    intro other found there
    rcases moved other found there with ⟨rfl, rfl⟩ | ⟨_, old⟩
    · exact ⟨job, here, rfl, rfl, rfl⟩
    · exact ⟨found, old, rfl, rfl, rfl⟩
  constructor
  · intro other found there
    obtain ⟨old, was, named, _, _⟩ := before other found there
    exact named ▸ enforced.reserved other old was
  · intro one other first second mine there same
    obtain ⟨old, was, named, _, _⟩ := before one first mine
    obtain ⟨older, were, called, _, _⟩ := before other second there
    exact enforced.alone one other old older was were ((named.trans same).trans called.symm)
  · exact enforced.month
  · exact enforced.folding
  · exact enforced.enforcing
  · intro other found there
    obtain ⟨old, was, _, policy, epoch⟩ := before other found there
    have decided := enforced.decided other old was
    rw [policy, epoch] at decided
    exact decided
  · exact enforced.recorded
  · intro other found there sending
    rcases moved other found there with ⟨rfl, rfl⟩ | ⟨_, old⟩
    · obtain ⟨apiKey, sending⟩ := sending
      exact unrecorded apiKey sending
    · exact enforced.once other found old sending

theorem Enforced.endJob (enforced : Enforced arith tracker) (here : tracker.jobs id = some job) :
    Enforced arith (tracker.endJob id job) := by
  have before : ∀ other found, (tracker.endJob id job).jobs other = some found →
      other ≠ id ∧ tracker.jobs other = some found := by
    intro other found there
    by_cases same : other = id
    · subst same
      rw [show (tracker.endJob other job).jobs other = none from Function.update_self ..] at there
      cases there
    · rw [show (tracker.endJob id job).jobs other = tracker.jobs other from
        Function.update_of_ne same ..] at there
      exact ⟨same, there⟩
  constructor
  · intro other found there
    obtain ⟨apart, old⟩ := before other found there
    apply List.mem_filter.mpr
    refine ⟨enforced.reserved other found old, ?_⟩
    have different : found.instanceId ≠ job.instanceId :=
      fun same => apart (enforced.alone other id found job old here same)
    simpa using different
  · intro one other first second mine there same
    exact enforced.alone one other first second (before one first mine).2
      (before other second there).2 same
  · exact enforced.month
  · exact enforced.folding
  · exact enforced.enforcing
  · exact fun other found there => enforced.decided other found (before other found there).2
  · exact enforced.recorded
  · exact fun other found there => enforced.once other found (before other found there).2

theorem Enforced.startJob (enforced : Enforced arith tracker) (free : tracker.jobs id = none)
    (instanceId : Nat) {policy : BudgetStopPolicy F} {epoch : Nat}
    (bound : epoch ≤ tracker.epoch) (decided : epoch = tracker.epoch → Decided tracker policy) :
    Enforced arith (tracker.startJob id instanceId policy epoch) := by
  unfold BudgetTracker.startJob
  split
  · exact enforced
  · next open_ =>
    have unreserved : instanceId ∉ tracker.inFlight := fun member => open_ (Or.inl member)
    have moved : ∀ other found, Function.update tracker.jobs id (some {
          instanceId := instanceId
          policy := policy
          epoch := epoch
          stage := .queued }) other = some found →
        (other = id ∧ found = {
          instanceId := instanceId
          policy := policy
          epoch := epoch
          stage := .queued }) ∨ tracker.jobs other = some found := by
      intro other found there
      by_cases same : other = id
      · subst same
        rw [Function.update_self] at there
        exact Or.inl ⟨rfl, (Option.some.inj there).symm⟩
      · rw [Function.update_of_ne same] at there
        exact Or.inr there
    constructor
    · intro other found there
      rcases moved other found there with ⟨_, rfl⟩ | old
      · exact List.mem_cons_self ..
      · exact List.mem_cons_of_mem _ (enforced.reserved other found old)
    · intro one other first second mine there same
      rcases moved one first mine with ⟨rfl, rfl⟩ | old
      · rcases moved other second there with ⟨rfl, _⟩ | older
        · rfl
        · have reserved := enforced.reserved other second older
          rw [← same] at reserved
          exact absurd reserved unreserved
      · rcases moved other second there with ⟨rfl, rfl⟩ | older
        · have reserved := enforced.reserved one first old
          rw [same] at reserved
          exact absurd reserved unreserved
        · exact enforced.alone one other first second old older same
    · exact enforced.month
    · exact enforced.folding
    · exact enforced.enforcing
    · intro other found there
      rcases moved other found there with ⟨_, rfl⟩ | old
      · exact ⟨bound, decided⟩
      · exact enforced.decided other found old
    · exact enforced.recorded
    · intro other found there sending
      rcases moved other found there with ⟨_, rfl⟩ | old
      · obtain ⟨apiKey, sending⟩ := sending
        cases sending
      · exact enforced.once other found old sending

theorem startJob_same (tracker : BudgetTracker F) (id instanceId : Nat)
    (policy : BudgetStopPolicy F) (epoch : Nat) :
    (tracker.startJob id instanceId policy epoch).account = tracker.account ∧
      (tracker.startJob id instanceId policy epoch).epoch = tracker.epoch := by
  unfold BudgetTracker.startJob
  split <;> exact ⟨rfl, rfl⟩

theorem Enforced.noting (enforced : Enforced arith tracker) (retryAfter : Nat → Option Nat)
    (succeeded restarted : List (Nat × Nat)) :
    Enforced arith { tracker with
      retryAfter := retryAfter
      succeeded := succeeded
      restarted := restarted } :=
  ⟨enforced.reserved, enforced.alone, enforced.month, enforced.folding, enforced.enforcing,
    enforced.decided, enforced.recorded, enforced.once⟩

theorem Enforced.ticking (enforced : Enforced arith tracker) {tick : TickStage F}
    (folding : ∀ apiKey instances at_, tick = .folding apiKey instances at_ →
      at_ ≤ tracker.now ∧ ∀ month, tracker.account.spend.alerts.autoStopMonth = some month →
        month ≤ arith.monthKey at_)
    (enforcing : ∀ targets policy epoch, tick = .enforcing targets policy epoch →
      epoch ≤ tracker.epoch ∧ (epoch = tracker.epoch → Decided tracker policy)) :
    Enforced arith { tracker with tick := tick } :=
  ⟨enforced.reserved, enforced.alone, enforced.month, folding, enforcing, enforced.decided,
    enforced.recorded, enforced.once⟩

theorem Enforced.failJob (enforced : Enforced arith tracker) (here : tracker.jobs id = some job) :
    Enforced arith (tracker.failJob id job) :=
  (enforced.setJob here (.reporting false) nofun).noting _ _ _

theorem Enforced.recordPause (enforced : Enforced arith tracker)
    (here : tracker.jobs id = some job) (idle : ¬ job.IsSending) (apiKey : String) :
    Enforced arith (tracker.recordPause arith job apiKey) := by
  unfold BudgetTracker.recordPause
  split
  · have alerts : (recordInstanceTransition arith job.instanceId false tracker.now
        tracker.account.spend).alerts = tracker.account.spend.alerts :=
      recordObservations_alerts arith _ tracker.now tracker.account.spend
    obtain ⟨month, marked, kept⟩ := markAutoStopped_alerts job.instanceId
      (recordInstanceTransition arith job.instanceId false tracker.now tracker.account.spend)
    rw [alerts] at month kept
    dsimp only
    split
    · next current =>
      have spent := enforced.withSpend month kept
      split
      · next same =>
        refine ⟨spent.reserved, spent.alone, spent.month, spent.folding, spent.enforcing,
          spent.decided, ?_, ?_⟩
        · intro instanceId recordedMonth member
          rcases List.mem_cons.mp member with new | old
          · cases new
            refine ⟨Nat.le_of_eq current.symm, fun _ => ⟨?_, marked⟩⟩
            obtain ⟨known, there, later⟩ := (enforced.decided id job here).2 same
            have bound := enforced.month known there
            rw [current] at bound
            exact (month.trans there).trans (congrArg some (Nat.le_antisymm bound later))
          · exact spent.recorded instanceId recordedMonth old
        · intro other found there sending member
          rcases List.mem_cons.mp member with new | old
          · have named : found.instanceId = job.instanceId := congrArg Prod.fst new
            have one := enforced.alone other id found job there here named
            subst one
            rw [show tracker.jobs other = some found from there] at here
            cases here
            exact idle sending
          · exact spent.once other found there sending old
      · exact ⟨spent.reserved, spent.alone, spent.month, spent.folding, spent.enforcing,
          spent.decided, spent.recorded, spent.once⟩
    · apply enforced.withSpend
      · rw [alerts]
      · rw [alerts]
        exact fun _ member => member
  · exact enforced

theorem recordPause_jobs (arith : SpendArithmetic F) (tracker : BudgetTracker F)
    (job : StopJob F) (apiKey : String) :
    (tracker.recordPause arith job apiKey).jobs = tracker.jobs := by
  unfold BudgetTracker.recordPause
  split
  · dsimp only
    split <;> rfl
  · rfl

theorem Enforced.report (enforced : Enforced arith tracker) (job : StopJob F) (stopped : Bool) :
    Enforced arith (tracker.report arith job stopped) := by
  unfold BudgetTracker.report
  split
  · obtain ⟨month, _, kept⟩ := markAutoStopped_alerts job.instanceId tracker.account.spend
    exact enforced.withSpend month kept
  · exact enforced

theorem report_jobs (arith : SpendArithmetic F) (tracker : BudgetTracker F) (job : StopJob F)
    (stopped : Bool) :
    (tracker.report arith job stopped).jobs = tracker.jobs := by
  unfold BudgetTracker.report
  split <;> rfl

theorem Enforced.unrecorded (enforced : Enforced arith tracker) {policy : BudgetStopPolicy F}
    {instanceId : Nat}
    (authorized : policy.authorized arith tracker.account instanceId tracker.now = true) :
    (instanceId, arith.monthKey tracker.now) ∉ tracker.recorded := by
  intro member
  have marked := ((enforced.recorded _ _ member).2 rfl).2
  unfold BudgetStopPolicy.authorized at authorized
  simp [marked] at authorized

theorem Enforced.stepJob (enforced : Enforced arith tracker) (here : tracker.jobs id = some job)
    (ok : Bool) : Enforced arith (tracker.stepJob arith id job ok) := by
  unfold BudgetTracker.stepJob
  cases stage : job.stage with
  | queued =>
      dsimp only
      split
      · exact enforced.failJob here
      · split
        · exact enforced.endJob here
        · split
          · exact enforced.failJob here
          · exact enforced.setJob here _ nofun
  | backingUp apiKey =>
      dsimp only
      split
      · exact enforced.failJob here
      · split
        · exact enforced.endJob here
        · next allowed =>
          split
          · exact enforced.failJob here
          · apply enforced.setJob here
            intro _ _
            exact enforced.unrecorded (by simpa using allowed)
  | sending apiKey => exact enforced.setJob here _ nofun
  | sent apiKey =>
      dsimp only
      split
      · exact (enforced.setJob here (.paused apiKey) nofun).noting _ _ _
      · exact enforced.failJob here
  | paused apiKey =>
      dsimp only
      split
      · have idle : ¬ job.IsSending := by
          rintro ⟨_, sending⟩
          rw [stage] at sending
          cases sending
        refine (enforced.recordPause here idle apiKey).setJob ?_ (.reporting true) nofun
        rw [recordPause_jobs]
        exact here
      · exact enforced.failJob here
  | reporting stopped =>
      dsimp only
      split
      · apply (enforced.report job stopped).endJob
        rw [report_jobs]
        exact here
      · exact enforced.endJob here

theorem recordAndEnforce_alerts (arith : SpendArithmetic F)
    (observations : List (SpendObservation F)) (now : Nat) (spend : SpendState F) :
    (recordAndEnforce arith observations now spend).2.alerts.autoStopMonth =
        some (arith.monthKey now) ∧
      (spend.alerts.autoStopMonth = some (arith.monthKey now) →
        (recordAndEnforce arith observations now spend).2.alerts.autoStoppedInstanceIds =
          spend.alerts.autoStoppedInstanceIds) := by
  have targets : ∀ spend : SpendState F, (instancesToAutoStop arith now spend).2.alerts =
      enterMonth (arith.monthKey now) spend.alerts := by
    intro spend
    unfold instancesToAutoStop
    dsimp only
    split <;> rfl
  have entered : ∀ alerts : BudgetAlertState,
      (enterMonth (arith.monthKey now) alerts).autoStopMonth = some (arith.monthKey now) ∧
        (alerts.autoStopMonth = some (arith.monthKey now) →
          (enterMonth (arith.monthKey now) alerts).autoStoppedInstanceIds =
            alerts.autoStoppedInstanceIds) := by
    intro alerts
    unfold enterMonth
    split
    · next same => exact ⟨same, fun _ => rfl⟩
    · next different => exact ⟨rfl, fun same => absurd same different⟩
  have recorded := recordObservations_alerts arith observations now spend
  unfold recordAndEnforce
  dsimp only
  rw [targets]
  dsimp only
  rw [recorded]
  refine ⟨(entered _).1, fun same => ?_⟩
  rw [(entered _).2]
  · split
    · split <;> rfl
    · split <;> rfl
    · rfl
  · split
    · split <;> exact same
    · split <;> exact same
    · exact same

theorem Enforced.fold (enforced : Enforced arith tracker) {apiKey : String}
    {instances : List (ListedSpend F)} {at_ : Nat}
    (tick : tracker.tick = .folding apiKey instances at_) (saved : Bool) :
    Enforced arith (tracker.fold arith apiKey instances at_ saved) := by
  obtain ⟨past, bound⟩ := enforced.folding apiKey instances at_ tick
  have current := arith.monthKey_mono past
  unfold BudgetTracker.fold
  split
  · obtain ⟨month, kept⟩ := recordAndEnforce_alerts arith (observationsFromVast instances) at_
      tracker.account.spend
    constructor
    · exact enforced.reserved
    · exact enforced.alone
    · intro other here
      cases month.symm.trans here
      exact current
    · nofun
    · intro targets policy epoch here
      cases here
      exact ⟨Nat.le_refl _, fun _ => ⟨_, month, Nat.le_refl _⟩⟩
    · intro id job here
      obtain ⟨epoch, decided⟩ := enforced.decided id job here
      refine ⟨epoch, fun same => ?_⟩
      obtain ⟨known, there, later⟩ := decided same
      exact ⟨_, month, Nat.le_trans later (bound known there)⟩
    · intro instanceId known member
      obtain ⟨before, marked⟩ := enforced.recorded instanceId known member
      refine ⟨before, fun same => ?_⟩
      obtain ⟨there, listed⟩ := marked same
      have now : known = arith.monthKey at_ :=
        Nat.le_antisymm (bound known there) (same ▸ current)
      rw [now] at there ⊢
      exact ⟨month, (kept there).symm ▸ listed⟩
    · exact enforced.once
  · exact enforced.ticking nofun nofun

theorem Enforced.sameSpend (enforced : Enforced arith tracker) {account : SpendAccount F}
    (same : account.spend = tracker.account.spend) :
    Enforced arith { tracker with account := account } := by
  cases account with
  | mk apiKey spend =>
      cases same
      exact ⟨enforced.reserved, enforced.alone, enforced.month, enforced.folding,
        enforced.enforcing, enforced.decided, enforced.recorded, enforced.once⟩

theorem Enforced.replaceKey (enforced : Enforced arith tracker) (apiKey : String) :
    Enforced arith (tracker.replaceKey arith apiKey) := by
  unfold BudgetTracker.replaceKey
  dsimp only
  split
  · next same =>
    apply enforced.sameSpend
    unfold replaceVastApiKey
    rw [if_pos same]
  · next different =>
    have spend : (replaceVastApiKey arith apiKey tracker.account).spend.alerts.autoStopMonth =
        none := by
      unfold replaceVastApiKey
      rw [if_neg different]
      rfl
    constructor
    · exact enforced.reserved
    · exact enforced.alone
    · intro month here
      dsimp only at here
      rw [spend] at here
      cases here
    · intro key instances at_ here
      refine ⟨(enforced.folding key instances at_ here).1, fun month there => ?_⟩
      dsimp only at there
      rw [spend] at there
      cases there
    · intro targets policy epoch here
      have bound := (enforced.enforcing targets policy epoch here).1
      refine ⟨Nat.le_succ_of_le bound, fun same => ?_⟩
      exact absurd (same ▸ bound) (Nat.not_succ_le_self _)
    · intro id job here
      have bound := (enforced.decided id job here).1
      refine ⟨Nat.le_succ_of_le bound, fun same => ?_⟩
      exact absurd (same ▸ bound) (Nat.not_succ_le_self _)
    · exact fun _ _ member => nomatch member
    · exact fun _ _ _ _ member => nomatch member

theorem Enforced.pass (enforced : Enforced arith tracker) (elapsed : Nat) :
    Enforced arith { tracker with now := tracker.now + elapsed } := by
  have later := arith.monthKey_mono (Nat.le_add_right tracker.now elapsed)
  constructor
  · exact enforced.reserved
  · exact enforced.alone
  · exact fun month here => Nat.le_trans (enforced.month month here) later
  · intro apiKey instances at_ here
    obtain ⟨past, bound⟩ := enforced.folding apiKey instances at_ here
    exact ⟨Nat.le_trans past (Nat.le_add_right ..), bound⟩
  · exact enforced.enforcing
  · exact enforced.decided
  · intro instanceId month member
    obtain ⟨bound, marked⟩ := enforced.recorded instanceId month member
    refine ⟨Nat.le_trans bound later, fun same => marked ?_⟩
    exact Nat.le_antisymm bound (same ▸ later)
  · -- A stop is recorded under the month of its time, which is not a later one.
    intro id job here sending member
    obtain ⟨bound, _⟩ := enforced.recorded _ _ member
    have same := Nat.le_antisymm bound later
    exact enforced.once id job here sending (same ▸ member)

theorem Enforced.step (enforced : Enforced arith tracker) (event : BudgetEvent F) :
    Enforced arith (budgetStep arith tracker event) := by
  cases event with
  | pass elapsed => exact enforced.pass elapsed
  | tickRequest =>
      unfold budgetStep
      dsimp only
      split
      · split
        · exact enforced
        · exact enforced.ticking nofun nofun
      · exact enforced
  | tickFailed =>
      unfold budgetStep
      dsimp only
      split
      · exact enforced.ticking nofun nofun
      · exact enforced
  | tickListed instances =>
      unfold budgetStep
      dsimp only
      split
      · refine enforced.ticking ?_ nofun
        intro _ _ _ same
        cases same
        exact ⟨Nat.le_refl _, enforced.month⟩
      · exact enforced
  | tickFold saved =>
      unfold budgetStep
      dsimp only
      split
      · next tick => exact enforced.fold tick saved
      · exact enforced
  | tickEnforce id =>
      unfold budgetStep
      dsimp only
      split
      · exact enforced.ticking nofun nofun
      · next target targets policy epoch tick free =>
        obtain ⟨bound, decided⟩ := enforced.enforcing _ policy epoch tick
        have started := enforced.startJob free target bound decided
        obtain ⟨account, same⟩ := startJob_same tracker id target policy epoch
        refine started.ticking nofun ?_
        intro _ _ _ here
        cases here
        unfold Decided
        rw [account, same]
        exact ⟨bound, decided⟩
      · exact enforced
  | job id ok =>
      unfold budgetStep
      dsimp only
      split
      · next job here => exact enforced.stepJob here ok
      · exact enforced
  | replaceKey apiKey saved =>
      unfold budgetStep
      dsimp only
      split
      · exact enforced.replaceKey apiKey
      · exact enforced
  | updateSettings settings saved =>
      unfold budgetStep
      dsimp only
      split
      · exact enforced.withSpend rfl fun _ member => member
      · exact enforced
  | confirmed instanceId destroyed apiKey saved =>
      unfold budgetStep
      dsimp only
      split
      · have alerts := confirmed_alerts arith instanceId destroyed tracker.now
          tracker.account.spend
        apply enforced.withSpend
        · rw [alerts]
        · rw [alerts]
          exact fun _ member => member
      · exact enforced
  | restart instanceId =>
      unfold budgetStep
      dsimp only
      split
      · exact enforced.noting _ _ _
      · exact enforced

theorem CheckedBefore.of_jobs {later : BudgetTracker F} (same : later.jobs = tracker.jobs) :
    CheckedBefore arith tracker later := by
  intro id job here
  rw [same] at here
  exact ⟨fun _ => Or.inl here, fun _ => Or.inl here⟩

theorem CheckedBefore.of_update {later : BudgetTracker F} {new : Option (StopJob F)}
    (jobs : later.jobs = Function.update tracker.jobs id new)
    (sending : ∀ job, new = some job → job.IsSending →
      job.policy.authorized arith later.account job.instanceId later.now = true)
    (sent : ∀ job, new = some job → job.IsSent →
      ∃ before, tracker.jobs id = some before ∧ before.IsSending ∧
        before.instanceId = job.instanceId) :
    CheckedBefore arith tracker later := by
  intro other job here
  rw [jobs] at here
  by_cases same : other = id
  · subst same
    rw [Function.update_self] at here
    exact ⟨fun comes => Or.inr (sending job here comes), fun comes => Or.inr (sent job here comes)⟩
  · rw [Function.update_of_ne same] at here
    exact ⟨fun _ => Or.inl here, fun _ => Or.inl here⟩

theorem CheckedBefore.of_stage {later : BudgetTracker F} (stage : StopStage)
    (jobs : later.jobs = Function.update tracker.jobs id (some { job with stage := stage }))
    (notSending : ∀ apiKey, stage ≠ .sending apiKey) (notSent : ∀ apiKey, stage ≠ .sent apiKey) :
    CheckedBefore arith tracker later := by
  apply CheckedBefore.of_update jobs
  · rintro found same ⟨apiKey, comes⟩
    cases same
    exact absurd comes (notSending apiKey)
  · rintro found same ⟨apiKey, comes⟩
    cases same
    exact absurd comes (notSent apiKey)

theorem stepJob_checked (here : tracker.jobs id = some job) (ok : Bool) :
    CheckedBefore arith tracker (tracker.stepJob arith id job ok) := by
  have fails : CheckedBefore arith tracker (tracker.failJob id job) :=
    .of_stage (.reporting false) rfl nofun nofun
  have ends : ∀ later : BudgetTracker F, later.jobs = Function.update tracker.jobs id none →
      CheckedBefore arith tracker later :=
    fun later jobs => .of_update jobs nofun nofun
  unfold BudgetTracker.stepJob
  cases stage : job.stage with
  | queued =>
      dsimp only
      split
      · exact fails
      · split
        · exact ends _ rfl
        · split
          · exact fails
          · exact .of_stage (.backingUp tracker.account.vastApiKey) rfl nofun nofun
  | backingUp apiKey =>
      dsimp only
      split
      · exact fails
      · split
        · exact ends _ rfl
        · next allowed =>
          split
          · exact fails
          · refine CheckedBefore.of_update rfl ?_ ?_
            · intro found same _
              cases same
              have inForce : job.policy.authorized arith tracker.account job.instanceId
                  tracker.now = true := by
                simpa using allowed
              exact inForce
            · rintro found same ⟨_, comes⟩
              cases same
              cases comes
  | sending apiKey =>
      refine CheckedBefore.of_update rfl ?_ ?_
      · rintro found same ⟨_, comes⟩
        cases same
        cases comes
      · intro found same _
        cases same
        exact ⟨job, here, ⟨apiKey, stage⟩, rfl⟩
  | sent apiKey =>
      dsimp only
      split
      · exact .of_stage (.paused apiKey) rfl nofun nofun
      · exact fails
  | paused apiKey =>
      dsimp only
      split
      · have jobs : ((tracker.recordPause arith job apiKey).setJob id job (.reporting true)).jobs =
            Function.update tracker.jobs id (some { job with stage := .reporting true }) := by
          rw [← recordPause_jobs arith tracker job apiKey]
          rfl
        exact .of_stage (.reporting true) jobs nofun nofun
      · exact fails
  | reporting stopped =>
      dsimp only
      split
      · apply ends
        rw [← report_jobs arith tracker job stopped]
        rfl
      · exact ends _ rfl

theorem step_checked (arith : SpendArithmetic F) (tracker : BudgetTracker F)
    (event : BudgetEvent F) : CheckedBefore arith tracker (budgetStep arith tracker event) := by
  cases event with
  | tickEnforce id =>
      unfold budgetStep
      dsimp only
      split
      · exact .of_jobs rfl
      · next target targets policy epoch _ _ =>
        unfold BudgetTracker.startJob
        split
        · exact .of_jobs rfl
        · refine CheckedBefore.of_update rfl ?_ ?_
          · rintro found same ⟨_, comes⟩
            cases same
            cases comes
          · rintro found same ⟨_, comes⟩
            cases same
            cases comes
      · exact .of_jobs rfl
  | job id ok =>
      unfold budgetStep
      dsimp only
      split
      · next job here => exact stepJob_checked here ok
      · exact .of_jobs rfl
  | pass elapsed => exact .of_jobs rfl
  | tickRequest =>
      unfold budgetStep
      dsimp only
      split
      · split <;> exact .of_jobs rfl
      · exact .of_jobs rfl
  | tickFold saved =>
      unfold budgetStep BudgetTracker.fold
      dsimp only
      split
      · split <;> exact .of_jobs rfl
      · exact .of_jobs rfl
  | replaceKey apiKey saved =>
      unfold budgetStep BudgetTracker.replaceKey
      dsimp only
      split
      · split <;> exact .of_jobs rfl
      · exact .of_jobs rfl
  | _ =>
      unfold budgetStep
      dsimp only
      split <;> exact .of_jobs rfl

end Stops

/-- No job and no tick is under way, the saved month is not one to come, and the stops recorded
in an earlier run are still marked. -/
structure BudgetStarts {F : Type} (arith : SpendArithmetic F) (tracker : BudgetTracker F) :
    Prop where
  idle : tracker.tick = .idle
  jobs : tracker.jobs = fun _ => none
  month : ∀ month, tracker.account.spend.alerts.autoStopMonth = some month →
    month ≤ arith.monthKey tracker.now
  recorded : ∀ instanceId month, (instanceId, month) ∈ tracker.recorded →
    month ≤ arith.monthKey tracker.now ∧ (month = arith.monthKey tracker.now →
      tracker.account.spend.alerts.autoStopMonth = some month ∧
        instanceId ∈ tracker.account.spend.alerts.autoStoppedInstanceIds)

theorem reached_enforced {F : Type} {arith : SpendArithmetic F} {tracker : BudgetTracker F}
    (reached : Reached (budgetStep arith) (BudgetStarts arith) (fun _ _ => True) tracker) :
    Enforced arith tracker := by
  apply reached.invariant
  · intro tracker starts
    constructor
    · intro id job here
      rw [starts.jobs] at here
      cases here
    · intro one other first second here
      rw [starts.jobs] at here
      cases here
    · exact starts.month
    · intro apiKey instances at_ here
      rw [starts.idle] at here
      cases here
    · intro targets policy epoch here
      rw [starts.idle] at here
      cases here
    · intro id job here
      rw [starts.jobs] at here
      cases here
    · exact starts.recorded
    · intro id job here
      rw [starts.jobs] at here
      cases here
  · exact fun tracker event _ enforced _ => enforced.step event

/-- A budget pause goes out only after a check that found its policy in force, and never for an
instance whose stop in this month is recorded under the credential in force. -/
theorem budget_stops_recorded_once {F : Type} (arith : SpendArithmetic F)
    {tracker : BudgetTracker F}
    (reached : Reached (budgetStep arith) (BudgetStarts arith) (fun _ _ => True) tracker) :
    RecordedOnce arith tracker ∧
      ∀ event, CheckedBefore arith tracker (budgetStep arith tracker event) :=
  ⟨(reached_enforced reached).once, step_checked arith tracker⟩

namespace BudgetStopsSample

def arith : SpendArithmetic Nat :=
  { StaleListingSample.arith with
    monthKey := fun time => time / 1000000000
    startOfNextMonth := fun time => (time / 1000000000 + 1) * 1000000000
    monthKey_mono := Nat.div_le_div_right }

def settings (budget : Nat) : BudgetSettings Nat :=
  { monthlyBudgetUsd := budget, warnAtPercent := 80, autoStopAtBudget := true }

def start : BudgetTracker Nat where
  account := {
    vastApiKey := "key"
    spend := { SpendState.initial arith with settings := settings 5 } }

def tick (id : Nat) : List (BudgetEvent Nat) :=
  [.pass 10, .tickRequest, .tickListed (StaleListingSample.listed "running"), .tickFold true,
    .tickEnforce id, .tickEnforce (id + 1)]

def exceeded : List (BudgetEvent Nat) :=
  tick 0 ++ tick 0 ++ [.job 0 true, .job 0 true]

def raised : List (BudgetEvent Nat) := exceeded ++ [.updateSettings (settings 100) true]

def rotated : List (BudgetEvent Nat) :=
  exceeded ++ [.job 0 true, .job 0 true, .job 0 true, .job 0 true, .restart 7,
    .replaceKey "other" true, .replaceKey "key" true, .updateSettings (settings 5) true] ++
    tick 1 ++ tick 1 ++ [.job 1 true, .job 1 true]

def unsaved : List (BudgetEvent Nat) :=
  exceeded ++ [.job 0 true, .job 0 true, .job 0 false, .job 0 true, .restart 7, .pass 300000] ++
    tick 1 ++ [.job 1 true, .job 1 true]

def after (events : List (BudgetEvent Nat)) : BudgetTracker Nat :=
  events.foldl (budgetStep arith) start

end BudgetStopsSample

open BudgetStopsSample in
/-- A request can go out after the settings have changed, and another one in the same month for
an instance that the budget stopped and the user started again: after the credential was
replaced, and after the stop could not be saved. -/
theorem budget_stops_repeated :
    ¬ SentInForce arith (after raised) ∧ ¬ NeverAgain arith (after rotated) ∧
      ¬ NeverAgain arith (after unsaved) := by
  have again : ∀ events : List (BudgetEvent Nat),
      ((after events).jobs 1).map (fun job => (job.instanceId, job.stage)) =
        some (7, .sending "key") →
      (7, arith.monthKey (after events).now) ∈ (after events).restarted →
      ¬ NeverAgain arith (after events) := by
    intro events found stopped never
    obtain ⟨job, here, same⟩ := Option.map_eq_some_iff.mp found
    have named : job.instanceId = 7 := congrArg Prod.fst same
    apply never 1 job here ⟨"key", congrArg Prod.snd same⟩
    rw [named]
    exact stopped
  refine ⟨?_, ?_, ?_⟩
  · intro inForce
    have withdrawn : ∃ job, (after raised).jobs 0 = some job ∧ job.IsSending ∧
        job.policy.authorized arith (after raised).account job.instanceId (after raised).now =
          false :=
      ⟨_, rfl, ⟨_, rfl⟩, by decide +kernel⟩
    obtain ⟨job, here, sending, denied⟩ := withdrawn
    rw [inForce 0 job here sending] at denied
    cases denied
  · exact again rotated (by decide +kernel) (by decide +kernel)
  · exact again unsaved (by decide +kernel) (by decide +kernel)

open BudgetStopsSample in
theorem budget_stops_recorded_once_exceeded :
    RecordedOnce arith (after exceeded) ∧
      ∀ event, CheckedBefore arith (after exceeded)
        (budgetStep arith (after exceeded) event) := by
  have starts : BudgetStarts arith start := by
    refine ⟨rfl, rfl, ?_, ?_⟩
    · intro month here
      cases here
    · intro instanceId month member
      cases member
  have begins : Reached (budgetStep arith) (BudgetStarts arith) (fun _ _ => True) start :=
    .start starts
  exact budget_stops_recorded_once arith (begins.run fun _ _ _ => trivial)

end Noland.Desktop
