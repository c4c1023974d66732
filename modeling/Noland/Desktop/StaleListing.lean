import Mathlib.Logic.Function.Basic
import Noland.Lib.Machine
import Noland.Desktop.Spend

/-!
A tick awaits its listing without the state lock and folds it with the time of folding; a
confirmed change of an instance is recorded in between, before or after. There is one tick at a
time.
-/

namespace Noland.Desktop

open Noland.Machine

section Tracker

variable {F : Type}

structure Tick where
  apiKey : String
  confirmedSince : List Nat := []

/-- What is kept of a confirmed change until a later listing reports the instance running: the
ledger right after it, and whether no later listing has the destroyed instance either. -/
structure Settlement (F : Type) where
  destroyed : Bool
  ledger : List (SpendLedgerEntry F)

structure SpendTracker (F : Type) where
  account : SpendAccount F
  tick : Option Tick := none
  settled : Nat → Option (Settlement F) := fun _ => none

inductive TrackerEvent (F : Type) where
  | request
  | listingFailed
  | fold (listing : List (ListedSpend F)) (now : Nat) (saved : Bool)
  | confirm (instanceId : Nat) (destroyed : Bool) (apiKey : String) (now : Nat) (saved : Bool)
  | replaceKey (apiKey : String)
  | updateSettings (settings : BudgetSettings F)

def observedWith (observations : List (SpendObservation F)) (instanceId : Nat)
    (running : Bool → Bool) : Bool :=
  observations.any fun observation =>
    observation.instanceId == instanceId && running observation.running

def reportsRunning (observations : List (SpendObservation F)) (instanceId : Nat) : Bool :=
  observedWith observations instanceId id

def lists (observations : List (SpendObservation F)) (instanceId : Nat) : Bool :=
  observedWith observations instanceId fun _ => true

variable (arith : SpendArithmetic F)

def settleAfter (observations : List (SpendObservation F)) (tick : Tick) (instanceId : Nat)
    (settlement : Option (Settlement F)) : Option (Settlement F) :=
  if instanceId ∈ tick.confirmedSince then settlement
  else if reportsRunning observations instanceId then none
  else if lists observations instanceId then
    settlement.map fun settlement => { settlement with destroyed := false }
  else settlement

def foldListing (tracker : SpendTracker F) (tick : Tick) (listing : List (ListedSpend F))
    (now : Nat) (saved : Bool) : SpendTracker F :=
  if saved = true ∧ trimmed tracker.account.vastApiKey = trimmed tick.apiKey then
    let observations := observationsFromVast listing
    { account := { tracker.account with
        spend := (recordAndEnforce arith observations now tracker.account.spend).2 }
      tick := none
      settled := fun instanceId =>
        settleAfter observations tick instanceId (tracker.settled instanceId) }
  else { tracker with tick := none }

def recordConfirmed (instanceId : Nat) (destroyed : Bool) (now : Nat) (spend : SpendState F) :
    SpendState F :=
  if destroyed then recordInstanceDestroyed arith instanceId now spend
  else recordInstanceTransition arith instanceId false now spend

def confirm (tracker : SpendTracker F) (instanceId : Nat) (destroyed : Bool) (apiKey : String)
    (now : Nat) (saved : Bool) : SpendTracker F :=
  let spend :=
    if saved = true ∧ trimmed tracker.account.vastApiKey = trimmed apiKey then
      recordConfirmed arith instanceId destroyed now tracker.account.spend
    else tracker.account.spend
  { account := { tracker.account with spend := spend }
    tick := tracker.tick.map fun tick =>
      { tick with confirmedSince := instanceId :: tick.confirmedSince }
    settled := Function.update tracker.settled instanceId
      (some { destroyed := destroyed, ledger := spend.ledger }) }

def trackerStep (tracker : SpendTracker F) : TrackerEvent F → SpendTracker F
  | .request =>
      if tracker.tick.isSome ∨ trimmed tracker.account.vastApiKey = "" then tracker
      else { tracker with tick := some { apiKey := tracker.account.vastApiKey } }
  | .listingFailed => { tracker with tick := none }
  | .fold listing now saved =>
      match tracker.tick with
      | some tick => foldListing arith tracker tick listing now saved
      | none => tracker
  | .confirm instanceId destroyed apiKey now saved =>
      confirm arith tracker instanceId destroyed apiKey now saved
  | .replaceKey apiKey =>
      { tracker with account := replaceVastApiKey arith apiKey tracker.account }
  | .updateSettings settings =>
      { tracker with account := { tracker.account with
        spend := { tracker.account.spend with settings := settings } } }

def SpendCursor.IsOf (instanceId : Nat) (cursor : SpendCursor F) : Prop :=
  cursor.provider = "vast" ∧ cursor.instanceId = instanceId

def NotRunning (instanceId : Nat) (cursors : List (SpendCursor F)) : Prop :=
  ∀ cursor ∈ cursors, cursor.IsOf instanceId → cursor.running = false

def NoCursor (instanceId : Nat) (cursors : List (SpendCursor F)) : Prop :=
  ∀ cursor ∈ cursors, ¬ cursor.IsOf instanceId

def RunningKept (instanceId : Nat) (before after : List (SpendLedgerEntry F)) : Prop :=
  ∀ entry ∈ after, entry.provider = "vast" → entry.instanceId = instanceId →
    entry.runningSeconds = arith.zero ∨
      ∃ old ∈ before, old.provider = "vast" ∧ old.instanceId = instanceId ∧
        old.month = entry.month ∧ old.runningSeconds = entry.runningSeconds

/-- Until a listing asked for later reports it running, a stopped instance has no running cursor,
a destroyed one none at all, and no running time is accrued for it. -/
structure Stands (tracker : SpendTracker F) : Prop where
  notRunning : ∀ instanceId settlement, tracker.settled instanceId = some settlement →
    NotRunning instanceId tracker.account.spend.cursors
  absent : ∀ instanceId settlement, tracker.settled instanceId = some settlement →
    settlement.destroyed = true → NoCursor instanceId tracker.account.spend.cursors
  accrued : ∀ instanceId settlement, tracker.settled instanceId = some settlement →
    RunningKept arith instanceId settlement.ledger tracker.account.spend.ledger

/-- A confirmed change is recorded under the credential in force and saved, and no listing asked
for before it that reports the instance running, or has it although it was destroyed, is folded
after it. -/
def Timely (tracker : SpendTracker F) : TrackerEvent F → Prop
  | .confirm _ _ apiKey _ saved =>
      saved = true ∧ trimmed tracker.account.vastApiKey = trimmed apiKey
  | .fold listing _ saved =>
      match tracker.tick with
      | none => True
      | some tick =>
          saved = true → trimmed tracker.account.vastApiKey = trimmed tick.apiKey →
          ∀ instanceId ∈ tick.confirmedSince, ∀ settlement,
            tracker.settled instanceId = some settlement →
            reportsRunning (observationsFromVast listing) instanceId = false ∧
              (settlement.destroyed = true →
                lists (observationsFromVast listing) instanceId = false)
  | _ => True

def UniqueCursors (cursors : List (SpendCursor F)) : Prop :=
  cursors.Pairwise fun first second =>
    ¬ (first.instanceId = second.instanceId ∧ first.provider = second.provider)

variable {arith} {instanceId : Nat}

theorem RunningKept.of_subset {before after : List (SpendLedgerEntry F)}
    (subset : ∀ entry ∈ after, entry ∈ before) : RunningKept arith instanceId before after := by
  intro entry member provider named
  exact Or.inr ⟨entry, subset entry member, provider, named, rfl, rfl⟩

theorem RunningKept.refl (ledger : List (SpendLedgerEntry F)) :
    RunningKept arith instanceId ledger ledger :=
  .of_subset fun _ member => member

theorem RunningKept.trans {before between after : List (SpendLedgerEntry F)}
    (first : RunningKept arith instanceId before between)
    (second : RunningKept arith instanceId between after) :
    RunningKept arith instanceId before after := by
  intro entry member provider named
  rcases second entry member provider named with zero | ⟨middle, there, vast, same, month, running⟩
  · exact Or.inl zero
  · rcases first middle there vast same with zero | ⟨old, found, kind, is, earlier, ran⟩
    · exact Or.inl (running.symm.trans zero)
    · exact Or.inr ⟨old, found, kind, is, earlier.trans month, ran.trans running⟩

theorem editEntry_keeps {provider label gpuName : String} {id month : Nat}
    {change : SpendLedgerEntry F → SpendLedgerEntry F}
    (key : ∀ entry, (change entry).provider = entry.provider ∧
      (change entry).instanceId = entry.instanceId ∧ (change entry).month = entry.month)
    (running : provider = "vast" → id = instanceId →
      ∀ entry, (change entry).runningSeconds = entry.runningSeconds)
    (ledger : List (SpendLedgerEntry F)) :
    RunningKept arith instanceId ledger
      (editEntry arith provider id month label gpuName change ledger) := by
  induction ledger with
  | nil =>
      intro entry member vast named
      rw [editEntry, List.mem_singleton] at member
      subst member
      left
      rw [(key _).1] at vast
      rw [(key _).2.1] at named
      rw [running vast named]
  | cons first rest ih =>
      intro entry member vast named
      unfold editEntry at member
      split at member
      · next isFor =>
        rcases List.mem_cons.mp member with here | later
        · subst here
          rw [(key _).1] at vast
          rw [(key _).2.1] at named
          simp only [SpendLedgerEntry.isFor, Bool.and_eq_true, beq_iff_eq] at isFor
          have own : provider = "vast" := isFor.1.2.symm.trans vast
          refine Or.inr ⟨first, List.mem_cons_self .., vast, named, ?_, ?_⟩
          · exact (key (first.labelled label gpuName)).2.2.symm
          · rw [running own (isFor.1.1.symm.trans named)]
            rfl
        · exact Or.inr ⟨entry, List.mem_cons_of_mem _ later, vast, named, rfl, rfl⟩
      · rcases List.mem_cons.mp member with here | later
        · subst here
          exact Or.inr ⟨entry, List.mem_cons_self .., vast, named, rfl, rfl⟩
        · rcases ih entry later vast named with zero | ⟨old, there, found⟩
          · exact Or.inl zero
          · exact Or.inr ⟨old, List.mem_cons_of_mem _ there, found⟩

variable {spend : SpendState F} {observations : List (SpendObservation F)}
  {cursors : List (SpendCursor F)} {cursor : SpendCursor F}

theorem accrueSegments_keeps (stopped : cursor.IsOf instanceId → cursor.running = false)
    (label gpuName : String) (rate : F) (end_ rounds start : Nat)
    (ledger : List (SpendLedgerEntry F)) (total : F) :
    RunningKept arith instanceId ledger
      (accrueSegments arith cursor label gpuName rate end_ rounds start ledger total).1 := by
  induction rounds generalizing start ledger total with
  | zero => exact .refl ledger
  | succ rounds ih =>
      unfold accrueSegments
      split
      · apply RunningKept.trans _ (ih _ _ _)
        apply editEntry_keeps
        · exact fun entry => ⟨rfl, rfl, rfl⟩
        · intro vast named entry
          unfold SpendLedgerEntry.accrue
          rw [stopped ⟨vast, named⟩]
          rfl
      · exact .refl ledger

theorem mem_setFirst {provider : String} {id : Nat} {new cursor : SpendCursor F}
    (member : cursor ∈ setFirst provider id new cursors) : cursor = new ∨ cursor ∈ cursors := by
  induction cursors with
  | nil => cases member
  | cons first rest ih =>
      unfold setFirst at member
      split at member
      · rcases List.mem_cons.mp member with here | later
        · exact Or.inl here
        · exact Or.inr (List.mem_cons_of_mem _ later)
      · rcases List.mem_cons.mp member with here | later
        · exact Or.inr (here ▸ List.mem_cons_self ..)
        · rcases ih later with same | before
          · exact Or.inl same
          · exact Or.inr (List.mem_cons_of_mem _ before)

theorem isFor_iff {provider : String} {id : Nat} :
    cursor.isFor provider id = true ↔ cursor.instanceId = id ∧ cursor.provider = provider := by
  simp [SpendCursor.isFor]

theorem observe_cursors (arith : SpendArithmetic F) (now : Nat) (spend : SpendState F)
    (observation : SpendObservation F) :
    ∃ cursor : SpendCursor F, cursor.provider = observation.provider ∧
      cursor.instanceId = observation.instanceId ∧ cursor.running = observation.running ∧
      (observe arith now spend observation).cursors =
        match spend.cursors.find? (·.isFor observation.provider observation.instanceId) with
        | some _ => setFirst observation.provider observation.instanceId cursor spend.cursors
        | none => spend.cursors ++ [cursor] := by
  unfold observe
  cases found : spend.cursors.find? (·.isFor observation.provider observation.instanceId) with
  | none => exact ⟨_, rfl, rfl, rfl, rfl⟩
  | some previous =>
      have same := isFor_iff.mp (List.find?_some found)
      dsimp only
      split
      · refine ⟨_, ?_, ?_, ?_, rfl⟩
        · exact same.2
        · exact same.1
        · rfl
      · refine ⟨_, ?_, ?_, ?_, rfl⟩
        · exact same.2
        · exact same.1
        · rfl

theorem observe_ledger {now : Nat} (observation : SpendObservation F)
    (stopped : NotRunning instanceId spend.cursors) :
    RunningKept arith instanceId spend.ledger (observe arith now spend observation).ledger := by
  unfold observe
  cases found : spend.cursors.find? (·.isFor observation.provider observation.instanceId) with
  | none => exact editEntry_keeps (fun entry => ⟨rfl, rfl, rfl⟩) (fun _ _ _ => rfl) spend.ledger
  | some previous =>
      have recorded := stopped previous (List.mem_of_find?_eq_some found)
      dsimp only
      split
      · exact accrueSegments_keeps recorded _ _ _ _ _ _ _ _
      · exact .refl spend.ledger

theorem observe_stopped (arith : SpendArithmetic F) (now : Nat) {observation : SpendObservation F}
    (stopped : NotRunning instanceId spend.cursors)
    (reported : observation.provider = "vast" → observation.instanceId = instanceId →
      observation.running = false) :
    NotRunning instanceId (observe arith now spend observation).cursors := by
  obtain ⟨cursor, provider, named, running, cursors⟩ := observe_cursors arith now spend observation
  intro other member isOf
  rw [cursors] at member
  have either : other = cursor ∨ other ∈ spend.cursors := by
    split at member
    · exact mem_setFirst member
    · rcases List.mem_append.mp member with before | new
      · exact Or.inr before
      · exact Or.inl (List.mem_singleton.mp new)
  rcases either with here | before
  · subst here
    rw [running]
    exact reported (provider.symm.trans isOf.1) (named.symm.trans isOf.2)
  · exact stopped other before isOf

theorem foldl_observe_keeps (arith : SpendArithmetic F) (now : Nat)
    (stopped : NotRunning instanceId spend.cursors)
    (reported : ∀ observation ∈ observations, observation.provider = "vast" →
      observation.instanceId = instanceId → observation.running = false) :
    NotRunning instanceId (observations.foldl (observe arith now) spend).cursors ∧
      RunningKept arith instanceId spend.ledger
        (observations.foldl (observe arith now) spend).ledger := by
  induction observations generalizing spend with
  | nil => exact ⟨stopped, .refl spend.ledger⟩
  | cons observation rest ih =>
      have next := observe_stopped arith now stopped
        (reported observation (List.mem_cons_self ..))
      obtain ⟨still, kept⟩ := ih next
        fun other member => reported other (List.mem_cons_of_mem _ member)
      exact ⟨still, (observe_ledger observation stopped).trans kept⟩

theorem mem_pruneLedger {now : Nat} {entry : SpendLedgerEntry F}
    (member : entry ∈ (pruneLedger arith now spend).ledger) : entry ∈ spend.ledger := by
  unfold pruneLedger at member
  dsimp only at member
  split at member
  · exact member
  · exact (List.mem_filter.mp member).1

theorem recordObservations_keeps (arith : SpendArithmetic F) (now : Nat)
    (stopped : NotRunning instanceId spend.cursors)
    (reported : ∀ observation ∈ observations, observation.provider = "vast" →
      observation.instanceId = instanceId → observation.running = false) :
    NotRunning instanceId (recordObservations arith observations now spend).cursors ∧
      RunningKept arith instanceId spend.ledger
        (recordObservations arith observations now spend).ledger := by
  obtain ⟨still, kept⟩ := foldl_observe_keeps arith now stopped reported
  constructor
  · intro cursor member
    exact still cursor (List.mem_filter.mp member).1
  · apply kept.trans
    apply RunningKept.of_subset
    exact fun entry member => mem_pruneLedger member

theorem recordObservations_drops (arith : SpendArithmetic F) (now : Nat) (spend : SpendState F)
    (unobserved : ∀ observation ∈ observations, observation.provider = "vast" →
      observation.instanceId ≠ instanceId) :
    NoCursor instanceId (recordObservations arith observations now spend).cursors := by
  intro cursor member isOf
  obtain ⟨observation, observed, isFor⟩ := List.any_eq_true.mp (List.mem_filter.mp member).2
  obtain ⟨named, provider⟩ := isFor_iff.mp isFor
  exact unobserved observation observed (provider.symm.trans isOf.1) (named.symm.trans isOf.2)

theorem setFirst_pairwise (unique : UniqueCursors cursors) :
    UniqueCursors (setFirst cursor.provider cursor.instanceId cursor cursors) := by
  induction cursors with
  | nil => exact List.Pairwise.nil
  | cons first rest ih =>
      obtain ⟨apart, others⟩ := List.pairwise_cons.mp unique
      unfold setFirst
      split
      · next isFor =>
        apply List.pairwise_cons.mpr
        refine ⟨?_, others⟩
        intro other member same
        obtain ⟨named, provider⟩ := isFor_iff.mp isFor
        exact apart other member ⟨named.trans same.1, provider.trans same.2⟩
      · next isNot =>
        apply List.pairwise_cons.mpr
        refine ⟨?_, ih others⟩
        intro other member same
        rcases mem_setFirst member with here | before
        · subst here
          exact isNot (isFor_iff.mpr same)
        · exact apart other before same

theorem observe_unique (arith : SpendArithmetic F) (now : Nat) (observation : SpendObservation F)
    (unique : UniqueCursors spend.cursors) :
    UniqueCursors (observe arith now spend observation).cursors := by
  obtain ⟨cursor, provider, named, _, cursors⟩ :=
    observe_cursors arith now spend observation
  rw [cursors, ← provider, ← named]
  split
  · exact setFirst_pairwise unique
  · next missing =>
    apply List.pairwise_append.mpr
    refine ⟨unique, List.pairwise_singleton .., ?_⟩
    intro other member new isNew same
    rw [List.mem_singleton.mp isNew] at same
    exact List.find?_eq_none.mp missing other member (isFor_iff.mpr same)

theorem foldl_observe_unique (arith : SpendArithmetic F) (now : Nat)
    (observations : List (SpendObservation F)) (unique : UniqueCursors spend.cursors) :
    UniqueCursors (observations.foldl (observe arith now) spend).cursors := by
  induction observations generalizing spend with
  | nil => exact unique
  | cons observation rest ih => exact ih (observe_unique arith now observation unique)

theorem recordObservations_unique (arith : SpendArithmetic F) (now : Nat)
    (observations : List (SpendObservation F)) (unique : UniqueCursors spend.cursors) :
    UniqueCursors (recordObservations arith observations now spend).cursors :=
  List.Pairwise.filter _ (foldl_observe_unique arith now observations unique)

theorem UniqueCursors.same {first second : SpendCursor F} (unique : UniqueCursors cursors)
    (one : first ∈ cursors) (other : second ∈ cursors)
    (key : first.instanceId = second.instanceId ∧ first.provider = second.provider) :
    first = second := by
  induction cursors with
  | nil => cases one
  | cons cursor rest ih =>
      obtain ⟨apart, others⟩ := List.pairwise_cons.mp unique
      rcases List.mem_cons.mp one with here | later
      · rcases List.mem_cons.mp other with there | last
        · exact here.trans there.symm
        · subst here
          exact absurd key (apart second last)
      · rcases List.mem_cons.mp other with there | last
        · subst there
          exact absurd ⟨key.1.symm, key.2.symm⟩ (apart first later)
        · exact ih others later last

theorem mem_setFirst_self {provider : String} {id : Nat} {old : SpendCursor F}
    (member : old ∈ cursors) (isFor : old.isFor provider id = true) :
    cursor ∈ setFirst provider id cursor cursors := by
  induction cursors with
  | nil => cases member
  | cons first rest ih =>
      unfold setFirst
      split
      · exact List.mem_cons_self ..
      · next isNot =>
        rcases List.mem_cons.mp member with here | later
        · exact absurd (here ▸ isFor) isNot
        · exact List.mem_cons_of_mem _ (ih later)

theorem observe_stops (arith : SpendArithmetic F) (now : Nat) {observation : SpendObservation F}
    (unique : UniqueCursors spend.cursors)
    (own : observation.provider = "vast" ∧ observation.instanceId = instanceId)
    (stopped : observation.running = false) :
    NotRunning instanceId (observe arith now spend observation).cursors := by
  obtain ⟨cursor, provider, named, running, cursors⟩ :=
    observe_cursors arith now spend observation
  have there : cursor ∈ (observe arith now spend observation).cursors := by
    rw [cursors]
    split
    · next old found =>
      exact mem_setFirst_self (List.mem_of_find?_eq_some found) (List.find?_some found)
    · exact List.mem_append_right _ (List.mem_singleton_self cursor)
  intro other member isOf
  have same : other = cursor := by
    apply (observe_unique arith now observation unique).same member there
    rw [isOf.1, isOf.2, named, provider, own.1, own.2]
    exact ⟨rfl, rfl⟩
  rw [same, running]
  exact stopped

theorem foldl_observe_stops (arith : SpendArithmetic F) (now : Nat)
    (unique : UniqueCursors spend.cursors)
    (reported : ∀ observation ∈ observations, observation.provider = "vast" →
      observation.instanceId = instanceId → observation.running = false)
    (known : NotRunning instanceId spend.cursors ∨ ∃ observation ∈ observations,
      observation.provider = "vast" ∧ observation.instanceId = instanceId) :
    NotRunning instanceId (observations.foldl (observe arith now) spend).cursors := by
  induction observations generalizing spend with
  | nil =>
      rcases known with stopped | ⟨observation, member, _⟩
      · exact stopped
      · cases member
  | cons observation rest ih =>
      have here := reported observation (List.mem_cons_self ..)
      apply ih (observe_unique arith now observation unique)
        fun other member => reported other (List.mem_cons_of_mem _ member)
      rcases known with stopped | ⟨other, member, own⟩
      · exact Or.inl (observe_stopped arith now stopped here)
      · rcases List.mem_cons.mp member with first | later
        · subst first
          exact Or.inl (observe_stops arith now unique own (here own.1 own.2))
        · exact Or.inr ⟨other, later, own⟩

theorem transition_stops (arith : SpendArithmetic F) (now : Nat) (instanceId : Nat)
    (unique : UniqueCursors spend.cursors) :
    NotRunning instanceId (recordInstanceTransition arith instanceId false now spend).cursors := by
  have stopped : NotRunning instanceId
      ((transitionObservations instanceId false spend.cursors).foldl (observe arith now)
        spend).cursors := by
    apply foldl_observe_stops arith now unique
    · intro observation member provider named
      obtain ⟨cursor, _, rfl⟩ := List.mem_map.mp member
      exact if_pos ⟨provider, named⟩
    · by_cases recorded : ∃ cursor ∈ spend.cursors, cursor.IsOf instanceId
      · obtain ⟨cursor, member, isOf⟩ := recorded
        exact Or.inr ⟨_, List.mem_map_of_mem member, isOf.1, isOf.2⟩
      · left
        intro cursor member isOf
        exact absurd ⟨cursor, member, isOf⟩ recorded
  intro cursor member
  exact stopped cursor (List.mem_filter.mp member).1

theorem transition_keeps (arith : SpendArithmetic F) (now : Nat) (other : Nat)
    (stopped : NotRunning instanceId spend.cursors) :
    NotRunning instanceId (recordInstanceTransition arith other false now spend).cursors ∧
      RunningKept arith instanceId spend.ledger
        (recordInstanceTransition arith other false now spend).ledger := by
  apply recordObservations_keeps arith now stopped
  intro observation member provider named
  obtain ⟨cursor, recorded, rfl⟩ := List.mem_map.mp member
  dsimp only
  split
  · rfl
  · exact stopped cursor recorded ⟨provider, named⟩

theorem transition_drops (arith : SpendArithmetic F) (now : Nat) (other : Nat)
    (absent : NoCursor instanceId spend.cursors) :
    NoCursor instanceId (recordInstanceTransition arith other false now spend).cursors := by
  apply recordObservations_drops
  intro observation member provider named
  obtain ⟨cursor, recorded, rfl⟩ := List.mem_map.mp member
  exact absent cursor recorded ⟨provider, named⟩

theorem recordAndEnforce_records (arith : SpendArithmetic F)
    (observations : List (SpendObservation F)) (now : Nat) (spend : SpendState F) :
    (recordAndEnforce arith observations now spend).2.cursors =
        (recordObservations arith observations now spend).cursors ∧
      (recordAndEnforce arith observations now spend).2.ledger =
        (recordObservations arith observations now spend).ledger := by
  have targets : ∀ spend : SpendState F,
      (instancesToAutoStop arith now spend).2.cursors = spend.cursors ∧
        (instancesToAutoStop arith now spend).2.ledger = spend.ledger := by
    intro spend
    unfold instancesToAutoStop
    dsimp only
    split <;> exact ⟨rfl, rfl⟩
  exact targets _

structure Followed (arith : SpendArithmetic F) (tracker : SpendTracker F) : Prop where
  unique : UniqueCursors tracker.account.spend.cursors
  stands : Stands arith tracker

variable {tracker : SpendTracker F}

theorem confirmed_cursors (arith : SpendArithmetic F) (instanceId : Nat) (destroyed : Bool)
    (now : Nat) (spend : SpendState F) :
    (∀ cursor ∈ (recordConfirmed arith instanceId destroyed now spend).cursors,
      cursor ∈ (recordInstanceTransition arith instanceId false now spend).cursors ∧
        (destroyed = true → ¬ cursor.IsOf instanceId)) ∧
      (recordConfirmed arith instanceId destroyed now spend).ledger =
        (recordInstanceTransition arith instanceId false now spend).ledger := by
  cases destroyed with
  | false => exact ⟨fun cursor member => ⟨member, nofun⟩, rfl⟩
  | true =>
      refine ⟨?_, rfl⟩
      intro cursor member
      obtain ⟨before, left⟩ := List.mem_filter.mp member
      refine ⟨before, fun _ isOf => ?_⟩
      simp [isOf.1, isOf.2] at left

theorem confirmed_unique (arith : SpendArithmetic F) (instanceId : Nat) (destroyed : Bool)
    (now : Nat) (unique : UniqueCursors spend.cursors) :
    UniqueCursors (recordConfirmed arith instanceId destroyed now spend).cursors := by
  have recorded := recordObservations_unique arith now
    (transitionObservations instanceId false spend.cursors) unique
  cases destroyed with
  | false => exact recorded
  | true => exact List.Pairwise.filter _ recorded

theorem Followed.confirm (followed : Followed arith tracker) {destroyed : Bool} {apiKey : String}
    {now : Nat} {saved : Bool}
    (met : saved = true ∧ trimmed tracker.account.vastApiKey = trimmed apiKey) :
    Followed arith (confirm arith tracker instanceId destroyed apiKey now saved) := by
  obtain ⟨within, ledger⟩ :=
    confirmed_cursors arith instanceId destroyed now tracker.account.spend
  have before : ∀ other settlement, other ≠ instanceId →
      Function.update tracker.settled instanceId (some {
        destroyed := destroyed
        ledger := (recordConfirmed arith instanceId destroyed now
          tracker.account.spend).ledger }) other = some settlement →
      tracker.settled other = some settlement := by
    intro other settlement different settled
    rwa [Function.update_of_ne different] at settled
  unfold Noland.Desktop.confirm
  rw [if_pos met]
  refine ⟨confirmed_unique arith instanceId destroyed now followed.unique, ?_, ?_, ?_⟩
  · intro other settlement settled cursor member isOf
    by_cases same : other = instanceId
    · subst same
      exact transition_stops arith now other followed.unique cursor (within cursor member).1 isOf
    · have stopped := followed.stands.notRunning other settlement
        (before other settlement same settled)
      exact (transition_keeps arith now instanceId stopped).1 cursor (within cursor member).1 isOf
  · intro other settlement settled gone cursor member
    by_cases same : other = instanceId
    · subst same
      dsimp only at settled
      rw [Function.update_self] at settled
      cases settled
      exact (within cursor member).2 gone
    · have absent := followed.stands.absent other settlement
        (before other settlement same settled) gone
      exact transition_drops arith now instanceId absent cursor (within cursor member).1
  · intro other settlement settled
    by_cases same : other = instanceId
    · subst same
      dsimp only at settled
      rw [Function.update_self] at settled
      cases settled
      exact .refl _
    · have old := before other settlement same settled
      have kept := (transition_keeps arith now instanceId
        (followed.stands.notRunning other settlement old)).2
      rw [← ledger] at kept
      exact (followed.stands.accrued other settlement old).trans kept

theorem settleAfter_some {tick : Tick} {settlement later : Settlement F}
    (stale : instanceId ∈ tick.confirmedSince → ∀ settlement,
      tracker.settled instanceId = some settlement →
      reportsRunning observations instanceId = false ∧
        (settlement.destroyed = true → lists observations instanceId = false))
    (settled : tracker.settled instanceId = some settlement)
    (after : settleAfter observations tick instanceId (some settlement) = some later) :
    later.ledger = settlement.ledger ∧ reportsRunning observations instanceId = false ∧
      (later.destroyed = true → lists observations instanceId = false) := by
  unfold settleAfter at after
  split at after
  · next since =>
    cases after
    exact ⟨rfl, stale since settlement settled⟩
  · split at after
    · cases after
    · next silent =>
      split at after
      · cases after
        exact ⟨rfl, Bool.eq_false_iff.mpr silent, nofun⟩
      · next unlisted =>
        cases after
        exact ⟨rfl, Bool.eq_false_iff.mpr silent, fun _ => Bool.eq_false_iff.mpr unlisted⟩

theorem Followed.fold (followed : Followed arith tracker) {listing : List (ListedSpend F)}
    {tick : Tick} {now : Nat} {saved : Bool}
    (met : saved = true → trimmed tracker.account.vastApiKey = trimmed tick.apiKey →
      ∀ instanceId ∈ tick.confirmedSince, ∀ settlement,
        tracker.settled instanceId = some settlement →
        reportsRunning (observationsFromVast listing) instanceId = false ∧
          (settlement.destroyed = true →
            lists (observationsFromVast listing) instanceId = false)) :
    Followed arith (foldListing arith tracker tick listing now saved) := by
  unfold foldListing
  split
  · next accepted =>
    have stale := met accepted.1 accepted.2
    obtain ⟨cursors, ledger⟩ := recordAndEnforce_records arith (observationsFromVast listing) now
      tracker.account.spend
    have settledBefore : ∀ instanceId later,
        settleAfter (observationsFromVast listing) tick instanceId (tracker.settled instanceId) =
          some later →
        ∃ settlement, tracker.settled instanceId = some settlement ∧
          later.ledger = settlement.ledger ∧
          reportsRunning (observationsFromVast listing) instanceId = false ∧
          (later.destroyed = true →
            lists (observationsFromVast listing) instanceId = false) := by
      intro instanceId later after
      cases settled : tracker.settled instanceId with
      | none =>
          rw [settled] at after
          unfold settleAfter at after
          split at after
          · cases after
          · split at after
            · cases after
            · split at after <;> cases after
      | some settlement =>
          rw [settled] at after
          exact ⟨settlement, rfl, settleAfter_some (stale instanceId) settled after⟩
    have stopped : ∀ instanceId,
        reportsRunning (observationsFromVast listing) instanceId = false →
        ∀ observation ∈ observationsFromVast listing, observation.provider = "vast" →
          observation.instanceId = instanceId → observation.running = false := by
      intro instanceId silent observation member _ named
      unfold reportsRunning observedWith at silent
      have quiet := List.any_eq_false.mp silent observation member
      simpa [named] using quiet
    constructor
    · dsimp only
      rw [cursors]
      exact recordObservations_unique arith now _ followed.unique
    · constructor
      · intro instanceId later after
        obtain ⟨settlement, settled, _, silent, _⟩ := settledBefore instanceId later after
        dsimp only
        rw [cursors]
        exact (recordObservations_keeps arith now
          (followed.stands.notRunning instanceId settlement settled) (stopped instanceId silent)).1
      · intro instanceId later after gone
        obtain ⟨_, _, _, _, unlisted⟩ := settledBefore instanceId later after
        dsimp only
        rw [cursors]
        apply recordObservations_drops
        intro observation member _ named
        have absent := List.any_eq_false.mp (unlisted gone) observation member
        simp [named] at absent
      · intro instanceId later after
        obtain ⟨settlement, settled, kept, silent, _⟩ := settledBefore instanceId later after
        dsimp only
        rw [kept, ledger]
        exact (followed.stands.accrued instanceId settlement settled).trans
          (recordObservations_keeps arith now
            (followed.stands.notRunning instanceId settlement settled) (stopped instanceId silent)).2
  · exact ⟨followed.unique, followed.stands.notRunning, followed.stands.absent,
      followed.stands.accrued⟩

theorem Followed.step (followed : Followed arith tracker) {event : TrackerEvent F}
    (met : Timely tracker event) : Followed arith (trackerStep arith tracker event) := by
  have same : ∀ tick, Followed arith { tracker with tick := tick } := fun tick =>
    ⟨followed.unique, followed.stands.notRunning, followed.stands.absent, followed.stands.accrued⟩
  cases event with
  | request =>
      unfold trackerStep
      dsimp only
      split
      · exact followed
      · exact same _
  | listingFailed => exact same none
  | confirm instanceId destroyed apiKey now saved => exact followed.confirm met
  | fold listing now saved =>
      cases pending : tracker.tick with
      | none =>
          simp only [trackerStep, pending]
          exact followed
      | some tick =>
          simp only [trackerStep, pending]
          simp only [Timely, pending] at met
          exact followed.fold met
  | replaceKey apiKey =>
      unfold trackerStep replaceVastApiKey
      dsimp only
      split
      · exact ⟨followed.unique, followed.stands.notRunning, followed.stands.absent,
          followed.stands.accrued⟩
      · -- Another credential starts with no cursor and an empty ledger.
        exact ⟨List.Pairwise.nil, nofun, nofun, nofun⟩
  | updateSettings settings =>
      exact ⟨followed.unique, followed.stands.notRunning, followed.stands.absent,
        followed.stands.accrued⟩

end Tracker

def Starts {F : Type} (tracker : SpendTracker F) : Prop :=
  tracker.tick = none ∧ tracker.settled = (fun _ => none) ∧
    UniqueCursors tracker.account.spend.cursors

/-- As long as no listing asked for before a confirmed change contradicts it afterwards, the
change stands until a listing asked for later reports the instance running. -/
theorem confirmed_changes_stand {F : Type} (arith : SpendArithmetic F) {tracker : SpendTracker F}
    (reached : Reached (trackerStep arith) Starts Timely tracker) : Stands arith tracker := by
  have followed : Followed arith tracker := by
    apply reached.invariant
    · rintro tracker ⟨_, unsettled, unique⟩
      refine ⟨unique, ?_, ?_, ?_⟩
      · intro instanceId settlement settled
        rw [unsettled] at settled
        cases settled
      · intro instanceId settlement settled
        rw [unsettled] at settled
        cases settled
      · intro instanceId settlement settled
        rw [unsettled] at settled
        cases settled
    · exact fun tracker event _ followed met => followed.step met
  exact followed.stands

namespace StaleListingSample

def arith : SpendArithmetic Nat where
  zero := 0
  add := Nat.add
  seconds := fun elapsed => elapsed
  cost := fun rate elapsed => rate * elapsed
  finiteNonNegative := fun amount => amount
  positive := fun amount => decide (0 < amount)
  atLeast := fun spent amount => decide (amount ≤ spent)
  percent := fun amount percent => amount * percent / 100
  same := fun first second => decide (first = second)
  monthKey := fun time => time / 1000
  startOfNextMonth := fun time => (time / 1000 + 1) * 1000
  monthKey_mono := Nat.div_le_div_right

def start : SpendTracker Nat where
  account := { vastApiKey := "key", spend := SpendState.initial arith }

def listed (status : String) : List (ListedSpend Nat) :=
  [{ id := 7, status := status, hourlyPrice := 2, storageHourlyPrice := 1 }]

def after (events : List (TrackerEvent Nat)) : SpendTracker Nat :=
  events.foldl (trackerStep arith) start

def asked : List (TrackerEvent Nat) := [.request, .fold (listed "running") 10 true, .request]

def stale (destroyed : Bool) : List (TrackerEvent Nat) :=
  asked ++ [.confirm 7 destroyed "key" 20 true, .fold (listed "running") 30 true]

def timely : List (TrackerEvent Nat) :=
  [.request, .fold (listed "running") 10 true, .request, .confirm 7 false "key" 20 true,
    .fold (listed "exited") 30 true]

end StaleListingSample

open StaleListingSample in
/-- A listing asked for before a pause or a destruction and folded after it makes the instance
running again. -/
theorem stale_listing_overrides :
    ¬ Stands arith (after (stale false)) ∧ ¬ Stands arith (after (stale true)) := by
  have revived : ∀ destroyed, ∃ cursor ∈ (after (stale destroyed)).account.spend.cursors,
      cursor.IsOf 7 ∧ cursor.running = true := by
    intro destroyed
    cases destroyed with
    | false => exact ⟨_, List.mem_cons_self .., ⟨rfl, rfl⟩, by decide +kernel⟩
    | true => exact ⟨_, List.mem_cons_self .., ⟨rfl, rfl⟩, by decide +kernel⟩
  have never : ∀ destroyed, ¬ Stands arith (after (stale destroyed)) := by
    intro destroyed stands
    obtain ⟨cursor, member, isOf, running⟩ := revived destroyed
    have settled : ∃ settlement, (after (stale destroyed)).settled 7 = some settlement := by
      cases destroyed <;> exact ⟨_, rfl⟩
    obtain ⟨settlement, settled⟩ := settled
    rw [stands.notRunning 7 settlement settled cursor member isOf] at running
    cases running
  exact ⟨never false, never true⟩

open StaleListingSample in
theorem confirmed_changes_stand_timely : Stands arith (after timely) := by
  have late : Timely (after (asked ++ [.confirm 7 false "key" 20 true]))
      (.fold (StaleListingSample.listed "exited") 30 true) := by
    intro _ _ instanceId since settlement settled
    have same : instanceId = 7 := List.mem_singleton.mp since
    subst same
    cases settled
    exact ⟨by decide +kernel, nofun⟩
  have met : Along (trackerStep arith) Timely start timely := by
    refine ⟨trivial, ?_, trivial, ⟨rfl, rfl⟩, late, trivial⟩
    intro _ _ instanceId since
    cases since
  have starts : Reached (trackerStep arith) Starts Timely start :=
    .start ⟨rfl, rfl, List.Pairwise.nil⟩
  exact confirmed_changes_stand arith (starts.along met)

end Noland.Desktop
