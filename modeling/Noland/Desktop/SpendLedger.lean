import Mathlib.Algebra.BigOperators.Group.List.Basic
import Mathlib.Algebra.Group.Prod
import Mathlib.Algebra.Field.Rat
import Mathlib.Algebra.Order.Ring.Rat
import Mathlib.Data.List.GetD
import Mathlib.Tactic.Ring
import Noland.Desktop.Calendar
import Noland.Desktop.StaleListing

/-!
What the calls tell about an instance gives a list of intervals. Here is what one call does to the
cursor and to the entries of an instance.
-/

namespace Noland.Desktop

def exactSpend : SpendArithmetic ℚ where
  zero := 0
  add := (· + ·)
  seconds := fun elapsed => (elapsed : ℚ) / 1000
  cost := fun rate elapsed => rate * ((elapsed : ℚ) / 1000) / 3600
  finiteNonNegative := fun value => if 0 < value then value else 0
  positive := fun value => decide (0 < value)
  atLeast := fun spent amount => decide (amount ≤ spent)
  percent := fun amount percent => amount * percent / 100
  same := fun first second => decide (first = second)
  monthKey := monthKey
  startOfNextMonth := startOfNextMonth
  monthKey_mono := monthKey_mono

inductive SpendEvent where
  | observations (listed : List (SpendObservation ℚ))
  | transition (instanceId : Nat) (running : Bool)
  | destroyed (instanceId : Nat)

structure SpendCall where
  now : Nat
  event : SpendEvent

def SpendCall.record (call : SpendCall) (spend : SpendState ℚ) : SpendState ℚ :=
  match call.event with
  | .observations listed => recordObservations exactSpend listed call.now spend
  | .transition instanceId running =>
      recordInstanceTransition exactSpend instanceId running call.now spend
  | .destroyed instanceId => recordInstanceDestroyed exactSpend instanceId call.now spend

def recorded (settings : BudgetSettings ℚ) : List SpendCall → SpendState ℚ
  | [] => { settings := settings }
  | call :: earlier => call.record (recorded settings earlier)

def lastCall : List SpendCall → Nat
  | [] => 0
  | call :: _ => call.now

/-- Calls of a clock that does not go back, the latest first. -/
structure SpendHistory where
  calls : List SpendCall
  ordered : calls.Pairwise fun later earlier => earlier.now ≤ later.now

structure InstanceKey where
  provider : String
  instanceId : Nat
  deriving DecidableEq

def InstanceKey.Confirms (key : InstanceKey) (instanceId : Nat) : Prop :=
  key.provider = "vast" ∧ key.instanceId = instanceId

instance (key : InstanceKey) (instanceId : Nat) : Decidable (key.Confirms instanceId) :=
  inferInstanceAs (Decidable (_ ∧ _))

structure KnownState where
  running : Bool
  hourlyPrice : ℚ
  storageHourlyPrice : ℚ
  deriving DecidableEq

def KnownState.rate (known : KnownState) : ℚ :=
  if known.running then known.hourlyPrice else known.storageHourlyPrice

def SpendObservation.key (observation : SpendObservation ℚ) : InstanceKey :=
  ⟨observation.provider, observation.instanceId⟩

def SpendObservation.known (observation : SpendObservation ℚ) : KnownState where
  running := observation.running
  hourlyPrice := max observation.hourlyPrice 0
  storageHourlyPrice := max observation.storageHourlyPrice 0

def sighted (key : InstanceKey) : List (SpendObservation ℚ) → Option KnownState
  | [] => none
  | observation :: rest =>
      (sighted key rest).or (if observation.key = key then some observation.known else none)

/-- What is known of an instance from a time on; nothing when it is left out of a listing. -/
structure Sighting where
  time : Nat
  known : Option KnownState

def latestKnown (sightings : List Sighting) : Option KnownState :=
  sightings.head?.bind Sighting.known

def KnownState.confirmed (known : KnownState) (key : InstanceKey) (instanceId : Nat)
    (running : Bool) : KnownState :=
  if key.Confirms instanceId then { known with running := running } else known

def SpendCall.sightings (key : InstanceKey) (known : Option KnownState) (call : SpendCall) :
    List Sighting :=
  match call.event with
  | .observations listed => [⟨call.now, sighted key listed⟩]
  | .transition instanceId running =>
      [⟨call.now, known.map fun known => known.confirmed key instanceId running⟩]
  | .destroyed instanceId =>
      let stopped := ⟨call.now, known.map fun known => known.confirmed key instanceId false⟩
      if key.Confirms instanceId then [⟨call.now, none⟩, stopped] else [stopped]

def sightings (key : InstanceKey) : List SpendCall → List Sighting
  | [] => []
  | call :: earlier =>
      call.sightings key (latestKnown (sightings key earlier)) ++ sightings key earlier

/-- The time between two observations, with the state known at the first of them. -/
structure SpendInterval where
  known : KnownState
  start : Nat
  stop : Nat
  deriving DecidableEq

def closedBy (latest : Sighting) : List Sighting → List SpendInterval
  | [] => []
  | before :: _ =>
      match latest.known, before.known with
      | some _, some known => [⟨known, before.time, latest.time⟩]
      | _, _ => []

def intervals : List Sighting → List SpendInterval
  | [] => []
  | latest :: earlier => closedBy latest earlier ++ intervals earlier

/-- The running time, the stopped time and the amount of some milliseconds in a state. -/
def KnownState.spent (known : KnownState) (elapsed : Nat) : ℚ × ℚ × ℚ :=
  (if known.running then (elapsed : ℚ) / 1000 else 0,
    if known.running then 0 else (elapsed : ℚ) / 1000,
    known.rate * ((elapsed : ℚ) / 1000) / 3600)

def SpendInterval.share (interval : SpendInterval) (month : Nat) : ℚ × ℚ × ℚ :=
  interval.known.spent (timeIn interval.start interval.stop month)

def SpendLedgerEntry.key (entry : SpendLedgerEntry ℚ) : InstanceKey :=
  ⟨entry.provider, entry.instanceId⟩

def SpendCursor.key (cursor : SpendCursor ℚ) : InstanceKey :=
  ⟨cursor.provider, cursor.instanceId⟩

def SpendCursor.known (cursor : SpendCursor ℚ) : KnownState where
  running := cursor.running
  hourlyPrice := cursor.hourlyPrice
  storageHourlyPrice := cursor.storageHourlyPrice

section Views

variable {key other : InstanceKey} {month : Nat}

def SpendLedgerEntry.tally (entry : SpendLedgerEntry ℚ) : ℚ × ℚ × ℚ :=
  (entry.runningSeconds, entry.stoppedSeconds, entry.accruedUsd)

def entryOf (key : InstanceKey) (month : Nat) (ledger : List (SpendLedgerEntry ℚ)) :
    Option (SpendLedgerEntry ℚ) :=
  ledger.find? (·.isFor key.provider key.instanceId month)

def held (key : InstanceKey) (month : Nat) (ledger : List (SpendLedgerEntry ℚ)) : ℚ × ℚ × ℚ :=
  (entryOf key month ledger).elim 0 SpendLedgerEntry.tally

def HasEntry (key : InstanceKey) (month : Nat) (ledger : List (SpendLedgerEntry ℚ)) : Prop :=
  (entryOf key month ledger).isSome

def UniqueEntries (ledger : List (SpendLedgerEntry ℚ)) : Prop :=
  ledger.Pairwise fun first second =>
    ¬ (first.key = second.key ∧ first.month = second.month)

def cursorOf (key : InstanceKey) (cursors : List (SpendCursor ℚ)) : Option (SpendCursor ℚ) :=
  cursors.find? (·.isFor key.provider key.instanceId)

variable {ledger : List (SpendLedgerEntry ℚ)} {entry : SpendLedgerEntry ℚ}

@[simp]
theorem entry_isFor_iff :
    entry.isFor key.provider key.instanceId month = true ↔
      entry.key = key ∧ entry.month = month := by
  cases key
  simp only [SpendLedgerEntry.isFor, SpendLedgerEntry.key, Bool.and_eq_true, beq_iff_eq,
    InstanceKey.mk.injEq]
  exact and_congr_left fun _ => and_comm

@[simp]
theorem cursor_isFor_iff {cursor : SpendCursor ℚ} :
    cursor.isFor key.provider key.instanceId = true ↔ cursor.key = key := by
  cases key
  simp only [SpendCursor.isFor, SpendCursor.key, Bool.and_eq_true, beq_iff_eq,
    InstanceKey.mk.injEq]
  exact and_comm

theorem held_of_entryOf (found : entryOf key month ledger = some entry) :
    held key month ledger = entry.tally := by
  rw [held, found]
  rfl

theorem entryOf_of_mem (unique : UniqueEntries ledger) (member : entry ∈ ledger) :
    entryOf entry.key entry.month ledger = some entry := by
  induction ledger with
  | nil => cases member
  | cons first rest ih =>
      obtain ⟨apart, others⟩ := List.pairwise_cons.mp unique
      rcases List.mem_cons.mp member with here | later
      · subst here
        exact List.find?_cons_of_pos (entry_isFor_iff.mpr ⟨rfl, rfl⟩)
      · rw [entryOf, List.find?_cons_of_neg, ← entryOf]
        · exact ih others later
        · exact fun isFor => apart entry later (entry_isFor_iff.mp isFor)

theorem mem_of_entryOf (found : entryOf key month ledger = some entry) :
    entry ∈ ledger ∧ entry.key = key ∧ entry.month = month :=
  ⟨List.mem_of_find?_eq_some found, entry_isFor_iff.mp (List.find?_some found)⟩

theorem find?_filter_agreeing {α : Type} {keep wanted : α → Bool} {decision : Bool} {items : List α}
    (agrees : ∀ item ∈ items, wanted item = true → keep item = decision) :
    (items.filter keep).find? wanted = if decision then items.find? wanted else none := by
  induction items with
  | nil => simp
  | cons first rest ih =>
      have later := ih fun item member => agrees item (List.mem_cons_of_mem _ member)
      have here := agrees first (List.mem_cons_self ..)
      cases isWanted : wanted first with
      | true =>
          rw [List.filter_cons, here isWanted]
          cases decision with
          | true => simp [isWanted]
          | false => simpa using later
      | false =>
          rw [List.filter_cons, List.find?_cons_of_neg (by simp [isWanted]), ← later]
          split
          · exact List.find?_cons_of_neg (by simp [isWanted])
          · rfl

theorem hasEntry_of_mem (member : entry ∈ ledger) : HasEntry entry.key entry.month ledger :=
  List.find?_isSome.mpr ⟨entry, member, entry_isFor_iff.mpr ⟨rfl, rfl⟩⟩

end Views

section Growth

variable {key : InstanceKey} {gained : Nat → ℚ × ℚ × ℚ} {touched : Nat → Prop}
  {before after : List (SpendLedgerEntry ℚ)}

structure LedgerGrown (key : InstanceKey) (gained : Nat → ℚ × ℚ × ℚ) (touched : Nat → Prop)
    (before after : List (SpendLedgerEntry ℚ)) : Prop where
  unique : UniqueEntries before → UniqueEntries after
  amounts : ∀ other month, held other month after =
    held other month before + if other = key then gained month else 0
  entries : ∀ other month, HasEntry other month after ↔
    HasEntry other month before ∨ other = key ∧ touched month

theorem LedgerGrown.none (ledger : List (SpendLedgerEntry ℚ)) (nothing : ∀ month, gained month = 0)
    (nowhere : ∀ month, ¬ touched month) : LedgerGrown key gained touched ledger ledger where
  unique := id
  amounts := by
    intro other month
    rw [nothing month, ite_self, add_zero]
  entries := by
    intro other month
    simp [nowhere month]

theorem LedgerGrown.trans {more total : Nat → ℚ × ℚ × ℚ} {later either : Nat → Prop}
    {between : List (SpendLedgerEntry ℚ)} (first : LedgerGrown key gained touched before between)
    (second : LedgerGrown key more later between after)
    (sum : ∀ month, total month = gained month + more month)
    (months : ∀ month, either month ↔ touched month ∨ later month) :
    LedgerGrown key total either before after where
  unique := fun unique => second.unique (first.unique unique)
  amounts := by
    intro other month
    rw [second.amounts, first.amounts, sum]
    split
    · rw [add_assoc]
    · rw [add_zero, add_zero]
  entries := by
    intro other month
    rw [second.entries, first.entries, months, or_assoc, and_or_left]

section Edit

variable {month : Nat} {label gpuName : String}
  {change : SpendLedgerEntry ℚ → SpendLedgerEntry ℚ} {piece : ℚ × ℚ × ℚ}
  (keyed : ∀ entry, (change entry).key = entry.key ∧ (change entry).month = entry.month)

include keyed

theorem mem_editEntry {ledger : List (SpendLedgerEntry ℚ)}
    {entry : SpendLedgerEntry ℚ}
    (member : entry ∈ editEntry exactSpend key.provider key.instanceId month label gpuName change
      ledger) :
    entry.key = key ∧ entry.month = month ∨ entry ∈ ledger := by
  induction ledger with
  | nil =>
      rw [editEntry, List.mem_singleton] at member
      subst member
      exact Or.inl (keyed _)
  | cons first rest ih =>
      unfold editEntry at member
      split at member
      · next isFor =>
        rcases List.mem_cons.mp member with here | later
        · subst here
          obtain ⟨sameKey, sameMonth⟩ := entry_isFor_iff.mp isFor
          exact Or.inl ⟨(keyed _).1.trans sameKey, (keyed _).2.trans sameMonth⟩
        · exact Or.inr (List.mem_cons_of_mem _ later)
      · rcases List.mem_cons.mp member with here | later
        · exact Or.inr (here ▸ List.mem_cons_self ..)
        · exact (ih later).imp_right (List.mem_cons_of_mem _)

theorem editEntry_unique {ledger : List (SpendLedgerEntry ℚ)}
    (unique : UniqueEntries ledger) :
    UniqueEntries (editEntry exactSpend key.provider key.instanceId month label gpuName change
      ledger) := by
  induction ledger with
  | nil => exact List.pairwise_singleton ..
  | cons first rest ih =>
      obtain ⟨apart, others⟩ := List.pairwise_cons.mp unique
      unfold editEntry
      split
      · apply List.pairwise_cons.mpr
        refine ⟨fun other member same => apart other member ?_, others⟩
        exact ⟨(keyed (first.labelled label gpuName)).1.symm.trans same.1,
          (keyed (first.labelled label gpuName)).2.symm.trans same.2⟩
      · next isNot =>
        apply List.pairwise_cons.mpr
        refine ⟨?_, ih others⟩
        intro other member same
        rcases mem_editEntry keyed member with edited | kept
        · exact isNot (entry_isFor_iff.mpr ⟨same.1.trans edited.1, same.2.trans edited.2⟩)
        · exact apart other kept same

theorem editEntry_self (adds : ∀ entry, (change entry).tally = entry.tally + piece)
    (ledger : List (SpendLedgerEntry ℚ)) :
    ∃ entry, entryOf key month (editEntry exactSpend key.provider key.instanceId month label
        gpuName change ledger) = some entry ∧ entry.tally = held key month ledger + piece := by
  induction ledger with
  | nil =>
      refine ⟨_, List.find?_cons_of_pos (entry_isFor_iff.mpr (keyed _)), ?_⟩
      rw [adds]
      rfl
  | cons first rest ih =>
      unfold editEntry
      split
      · next isFor =>
        obtain ⟨sameKey, sameMonth⟩ := entry_isFor_iff.mp isFor
        refine ⟨_, List.find?_cons_of_pos (entry_isFor_iff.mpr
          ⟨(keyed _).1.trans sameKey, (keyed _).2.trans sameMonth⟩), ?_⟩
        rw [adds, held_of_entryOf (List.find?_cons_of_pos isFor)]
        rfl
      · next isNot =>
        obtain ⟨entry, found, tally⟩ := ih
        refine ⟨entry, (List.find?_cons_of_neg isNot).trans found, ?_⟩
        rw [tally, held, held, entryOf, entryOf, List.find?_cons_of_neg isNot]

theorem editEntry_other {other : InstanceKey} {otherMonth : Nat}
    (different : ¬ (other = key ∧ otherMonth = month)) (ledger : List (SpendLedgerEntry ℚ)) :
    entryOf other otherMonth (editEntry exactSpend key.provider key.instanceId month label gpuName
      change ledger) = entryOf other otherMonth ledger := by
  have isOther : ∀ entry : SpendLedgerEntry ℚ, entry.key = key → entry.month = month →
      ¬ entry.isFor other.provider other.instanceId otherMonth = true := by
    intro entry sameKey sameMonth isFor
    obtain ⟨otherKey, isOtherMonth⟩ := entry_isFor_iff.mp isFor
    exact different ⟨otherKey.symm.trans sameKey, isOtherMonth.symm.trans sameMonth⟩
  induction ledger with
  | nil => exact List.find?_cons_of_neg (isOther _ (keyed _).1 (keyed _).2)
  | cons first rest ih =>
      unfold editEntry
      split
      · next isFor =>
        obtain ⟨sameKey, sameMonth⟩ := entry_isFor_iff.mp isFor
        have edited := keyed (first.labelled label gpuName)
        have notEdited := isOther _ (edited.1.trans sameKey) (edited.2.trans sameMonth)
        exact (List.find?_cons_of_neg notEdited).trans
          (List.find?_cons_of_neg (isOther first sameKey sameMonth)).symm
      · unfold entryOf at ih ⊢
        rw [List.find?_cons, List.find?_cons, ih]

theorem editEntry_grown (adds : ∀ entry, (change entry).tally = entry.tally + piece)
    (ledger : List (SpendLedgerEntry ℚ)) :
    LedgerGrown key (fun inMonth => if month = inMonth then piece else 0)
      (fun inMonth => month = inMonth) ledger
      (editEntry exactSpend key.provider key.instanceId month label gpuName change ledger) := by
  obtain ⟨entry, found, tally⟩ : ∃ entry, entryOf key month (editEntry exactSpend key.provider
      key.instanceId month label gpuName change ledger) = some entry ∧
      entry.tally = held key month ledger + piece :=
    editEntry_self keyed adds ledger
  refine ⟨editEntry_unique keyed, ?_, ?_⟩
  · intro other inMonth
    by_cases same : other = key ∧ inMonth = month
    · obtain ⟨rfl, rfl⟩ := same
      rw [held_of_entryOf found, tally, if_pos rfl, if_pos rfl]
    · rw [held, held, editEntry_other keyed same]
      have nothing : (if other = key then if month = inMonth then piece else 0 else 0) = 0 := by
        split
        · next sameKey =>
          exact if_neg fun sameMonth => same ⟨sameKey, sameMonth.symm⟩
        · rfl
      rw [nothing, add_zero]
  · intro other inMonth
    by_cases same : other = key ∧ inMonth = month
    · obtain ⟨rfl, rfl⟩ := same
      simp [HasEntry, found]
    · rw [HasEntry, HasEntry, editEntry_other keyed same]
      have apart : ¬ (other = key ∧ month = inMonth) :=
        fun both => same ⟨both.1, both.2.symm⟩
      simp [apart]

end Edit

theorem KnownState.spent_zero (known : KnownState) : known.spent 0 = 0 := by
  simp [KnownState.spent]

theorem KnownState.spent_add (known : KnownState) (first second : Nat) :
    known.spent (first + second) = known.spent first + known.spent second := by
  unfold KnownState.spent
  push_cast
  simp only [Prod.mk_add_mk, Prod.mk.injEq]
  refine ⟨?_, ?_, by ring⟩
  · split <;> ring
  · split <;> ring

theorem SpendInterval.share_of_le {interval : SpendInterval} (le : interval.stop ≤ interval.start)
    (month : Nat) : interval.share month = 0 := by
  rw [SpendInterval.share, timeIn_of_le le, KnownState.spent_zero]

theorem SpendInterval.share_append (known : KnownState) {start middle stop : Nat}
    (first : start ≤ middle) (second : middle ≤ stop) (month : Nat) :
    SpendInterval.share ⟨known, start, stop⟩ month =
      SpendInterval.share ⟨known, start, middle⟩ month +
        SpendInterval.share ⟨known, middle, stop⟩ month := by
  unfold SpendInterval.share
  rw [← KnownState.spent_add, ← timeIn_append first second]

theorem accrue_tally (known : KnownState) (elapsed : Nat) (entry : SpendLedgerEntry ℚ) :
    (entry.accrue exactSpend known.running known.rate elapsed).tally =
      entry.tally + known.spent elapsed := by
  unfold SpendLedgerEntry.accrue SpendLedgerEntry.tally KnownState.spent
  cases known.running <;> simp [exactSpend]

theorem segment_grown (cursor : SpendCursor ℚ) (label gpuName : String) {start stop : Nat}
    (less : start < stop) (within : stop ≤ startOfNextMonth start)
    (ledger : List (SpendLedgerEntry ℚ)) :
    LedgerGrown cursor.key (SpendInterval.share ⟨cursor.known, start, stop⟩)
      (fun month => 0 < timeIn start stop month) ledger
      (editEntry exactSpend cursor.provider cursor.instanceId (monthKey start) label gpuName
        (SpendLedgerEntry.accrue exactSpend cursor.running cursor.known.rate (stop - start))
        ledger) := by
  have amounts : SpendInterval.share ⟨cursor.known, start, stop⟩ = fun month =>
      if monthKey start = month then cursor.known.spent (stop - start) else 0 := by
    funext month
    rw [SpendInterval.share, timeIn_segment within]
    split
    · rfl
    · exact cursor.known.spent_zero
  have months : (fun month => 0 < timeIn start stop month) = fun month =>
      monthKey start = month := by
    funext month
    rw [timeIn_segment within]
    split
    · next same => simp [same, less]
    · next different => simp [different]
  rw [amounts, months]
  apply editEntry_grown
  · exact fun entry => ⟨rfl, rfl⟩
  · exact accrue_tally cursor.known (stop - start)

theorem accrueSegments_grown (cursor : SpendCursor ℚ) (label gpuName : String)
    (end_ rounds start : Nat) (enough : end_ ≤ start + rounds)
    (ledger : List (SpendLedgerEntry ℚ)) (total : ℚ) :
    LedgerGrown cursor.key (SpendInterval.share ⟨cursor.known, start, end_⟩)
      (fun month => 0 < timeIn start end_ month) ledger
      (accrueSegments exactSpend cursor label gpuName cursor.known.rate end_ rounds start ledger
        total).1 := by
  induction rounds generalizing start ledger total with
  | zero =>
      have ended : end_ ≤ start := enough
      apply LedgerGrown.none
      · exact SpendInterval.share_of_le ended
      · intro month
        simp [timeIn_of_le ended]
  | succ rounds ih =>
      unfold accrueSegments
      split
      · next less =>
        have further := lt_startOfNextMonth start
        have later : start < min (startOfNextMonth start) end_ := lt_min further less
        have within := min_le_left (startOfNextMonth start) end_
        have inside := min_le_right (startOfNextMonth start) end_
        have segment := segment_grown cursor label gpuName later within ledger
        apply segment.trans (ih (min (startOfNextMonth start) end_) (by omega) _ _)
        · exact SpendInterval.share_append cursor.known later.le inside
        · intro month
          rw [timeIn_append later.le inside, Nat.add_pos_iff_pos_or_pos]
      · next notLess =>
        have ended : end_ ≤ start := Nat.le_of_not_lt notLess
        apply LedgerGrown.none
        · exact SpendInterval.share_of_le ended
        · intro month
          simp [timeIn_of_le ended]

end Growth

section Observation

variable {key : InstanceKey} {now : Nat}

def gain (cursor : Option (SpendCursor ℚ)) (now month : Nat) : ℚ × ℚ × ℚ :=
  cursor.elim 0 fun cursor =>
    SpendInterval.share ⟨cursor.known, cursor.lastObservedAt, now⟩ month

def Touches (cursor : Option (SpendCursor ℚ)) (now month : Nat) : Prop :=
  cursor.elim (monthKey now = month) fun cursor => 0 < timeIn cursor.lastObservedAt now month

def ObservedBy (now : Nat) (cursors : List (SpendCursor ℚ)) : Prop :=
  ∀ key cursor, cursorOf key cursors = some cursor → cursor.lastObservedAt ≤ now

theorem cursorOf_setFirst {new : SpendCursor ℚ} {cursors : List (SpendCursor ℚ)}
    (found : (cursorOf new.key cursors).isSome) :
    cursorOf new.key (setFirst new.provider new.instanceId new cursors) = some new := by
  induction cursors with
  | nil => cases found
  | cons first rest ih =>
      unfold setFirst
      split
      · exact List.find?_cons_of_pos (cursor_isFor_iff.mpr rfl)
      · next isNot =>
        have later : cursorOf new.key (first :: rest) = cursorOf new.key rest :=
          List.find?_cons_of_neg isNot
        rw [later] at found
        exact (List.find?_cons_of_neg isNot).trans (ih found)

theorem cursorOf_setFirst_other {other : InstanceKey} {new : SpendCursor ℚ}
    (different : other ≠ new.key) (cursors : List (SpendCursor ℚ)) :
    cursorOf other (setFirst new.provider new.instanceId new cursors) = cursorOf other cursors := by
  have isOther : ∀ cursor : SpendCursor ℚ, cursor.key = new.key →
      ¬ cursor.isFor other.provider other.instanceId = true := by
    intro cursor same isFor
    exact different ((cursor_isFor_iff.mp isFor).symm.trans same)
  induction cursors with
  | nil => rfl
  | cons first rest ih =>
      unfold setFirst
      split
      · next isFor =>
        have same : first.key = new.key := cursor_isFor_iff.mp isFor
        exact (List.find?_cons_of_neg (isOther new rfl)).trans
          (List.find?_cons_of_neg (isOther first same)).symm
      · unfold cursorOf at ih ⊢
        rw [List.find?_cons, List.find?_cons, ih]

theorem finiteNonNegative_eq (value : ℚ) :
    exactSpend.finiteNonNegative value = max value 0 := by
  unfold exactSpend
  dsimp only
  split
  · next positive => exact (max_eq_left positive.le).symm
  · next notPositive => exact (max_eq_right (not_lt.mp notPositive)).symm

theorem observed_known (cursor : SpendCursor ℚ) (observation : SpendObservation ℚ) :
    (cursor.observed exactSpend observation now).known = observation.known := by
  unfold SpendCursor.known SpendCursor.observed SpendObservation.known
  simp only [finiteNonNegative_eq]

/-- What an observation does: the interval since the cursor is accrued to the ledger, the cursor
is as observed, and the cursors of other instances stay. -/
structure Observes (now : Nat) (observation : SpendObservation ℚ) (before after : SpendState ℚ) :
    Prop where
  grown : LedgerGrown observation.key (gain (cursorOf observation.key before.cursors) now)
    (Touches (cursorOf observation.key before.cursors) now) before.ledger after.ledger
  cursor : ∃ cursor, cursorOf observation.key after.cursors = some cursor ∧
    cursor.known = observation.known ∧ cursor.lastObservedAt = now
  others : ∀ other, other ≠ observation.key →
    cursorOf other after.cursors = cursorOf other before.cursors

variable {observation : SpendObservation ℚ} {spend : SpendState ℚ}

theorem Observes.of_new {spend after : SpendState ℚ} {new : SpendCursor ℚ}
    (missing : cursorOf observation.key spend.cursors = none) (own : new.key = observation.key)
    (known : new.known = observation.known) (time : new.lastObservedAt = now)
    (cursors : after.cursors = spend.cursors ++ [new])
    (ledger : after.ledger = editEntry exactSpend observation.provider observation.instanceId
      (monthKey now) observation.label observation.gpuName id spend.ledger) :
    Observes now observation spend after where
  grown := by
    have nothing : gain none now = fun month =>
        if monthKey now = month then (0 : ℚ × ℚ × ℚ) else 0 := by
      funext month
      exact (ite_self 0).symm
    rw [missing, ledger, nothing]
    apply editEntry_grown
    · exact fun entry => ⟨rfl, rfl⟩
    · exact fun entry => (add_zero entry.tally).symm
  cursor := by
    refine ⟨new, ?_, known, time⟩
    rw [cursors, cursorOf, List.find?_append, ← cursorOf, missing]
    exact List.find?_cons_of_pos (cursor_isFor_iff.mpr own)
  others := by
    intro other different
    have isOther : ¬ new.isFor other.provider other.instanceId = true :=
      fun isFor => different ((cursor_isFor_iff.mp isFor).symm.trans own)
    rw [cursors, cursorOf, List.find?_append, List.find?_cons_of_neg isOther]
    exact Option.or_none

theorem Observes.of_known {spend after : SpendState ℚ} {previous new : SpendCursor ℚ}
    (found : cursorOf observation.key spend.cursors = some previous)
    (own : new.key = observation.key) (known : new.known = observation.known)
    (time : new.lastObservedAt = now)
    (cursors : after.cursors =
      setFirst observation.provider observation.instanceId new spend.cursors)
    (grown : LedgerGrown observation.key
      (SpendInterval.share ⟨previous.known, previous.lastObservedAt, now⟩)
      (fun month => 0 < timeIn previous.lastObservedAt now month) spend.ledger after.ledger) :
    Observes now observation spend after where
  grown := by
    rw [found]
    exact grown
  cursor := by
    refine ⟨new, ?_, known, time⟩
    have isSome : (cursorOf new.key spend.cursors).isSome := by
      rw [own, found]
      rfl
    have set := cursorOf_setFirst isSome
    rw [own] at set
    obtain ⟨provider, named⟩ := InstanceKey.mk.inj own
    rw [cursors, ← provider, ← named]
    exact set
  others := by
    intro other different
    obtain ⟨provider, named⟩ := InstanceKey.mk.inj own
    rw [cursors, ← provider, ← named]
    exact cursorOf_setFirst_other (own ▸ different) spend.cursors

theorem observe_observes (observation : SpendObservation ℚ)
    (timely : ObservedBy now spend.cursors) :
    Observes now observation spend (observe exactSpend now spend observation) := by
  cases found : cursorOf observation.key spend.cursors with
  | none =>
      have missing : spend.cursors.find? (·.isFor observation.provider observation.instanceId) =
        none := found
      unfold observe
      rw [missing]
      refine .of_new found ?_ ?_ ?_ rfl rfl
      · rfl
      · simp only [SpendCursor.known, SpendObservation.known, finiteNonNegative_eq]
      · rfl
  | some previous =>
      have there : spend.cursors.find? (·.isFor observation.provider observation.instanceId) =
        some previous := found
      have own : previous.key = observation.key := cursor_isFor_iff.mp (List.find?_some found)
      unfold observe
      rw [there]
      dsimp only
      split
      · refine .of_known found ?_ ?_ ?_ rfl ?_
        · exact own
        · exact observed_known _ observation
        · rfl
        · rw [← own]
          apply accrueSegments_grown
          omega
      · next notLess =>
        have same : previous.lastObservedAt = now :=
          le_antisymm (timely _ previous found) (not_lt.mp notLess)
        refine .of_known found ?_ ?_ ?_ rfl ?_
        · exact own
        · exact observed_known _ observation
        · exact same
        · apply LedgerGrown.none
          · exact SpendInterval.share_of_le same.ge
          · intro month
            simp [timeIn_of_le same.ge]

theorem Observes.timely {spend after : SpendState ℚ}
    (observes : Observes now observation spend after) (timely : ObservedBy now spend.cursors) :
    ObservedBy now after.cursors := by
  intro key cursor found
  by_cases own : key = observation.key
  · obtain ⟨new, here, _, time⟩ := observes.cursor
    rw [own, here] at found
    cases found
    exact time.le
  · rw [observes.others key own] at found
    exact timely key cursor found

structure Listed (key : InstanceKey) (now : Nat) (known : Option KnownState)
    (before after : SpendState ℚ) : Prop where
  amounts : ∀ month, held key month after.ledger = held key month before.ledger +
    if known.isSome then gain (cursorOf key before.cursors) now month else 0
  entries : ∀ month, HasEntry key month after.ledger ↔ HasEntry key month before.ledger ∨
    known.isSome ∧ Touches (cursorOf key before.cursors) now month
  left : known = none → cursorOf key after.cursors = cursorOf key before.cursors
  seen : ∀ state, known = some state → ∃ cursor, cursorOf key after.cursors = some cursor ∧
    cursor.known = state ∧ cursor.lastObservedAt = now

theorem Listed.refl (spend : SpendState ℚ) : Listed key now none spend spend where
  amounts := fun month => (add_zero _).symm
  entries := by simp
  left := fun _ => rfl
  seen := nofun

theorem Observes.listed {spend after : SpendState ℚ}
    (observes : Observes now observation spend after) (key : InstanceKey) :
    Listed key now (if observation.key = key then some observation.known else none) spend
      after := by
  by_cases own : observation.key = key
  · subst own
    rw [if_pos rfl]
    constructor
    · intro month
      rw [observes.grown.amounts, if_pos rfl]
      rfl
    · intro month
      rw [observes.grown.entries]
      simp
    · nofun
    · rintro state ⟨⟩
      exact observes.cursor
  · have different : key ≠ observation.key := fun same => own same.symm
    rw [if_neg own]
    constructor
    · intro month
      rw [observes.grown.amounts, if_neg different]
      rfl
    · intro month
      rw [observes.grown.entries]
      simp [different]
    · exact fun _ => observes.others key different
    · nofun

theorem Listed.trans {first second : Option KnownState} {before between after : SpendState ℚ}
    (earlier : Listed key now first before between) (later : Listed key now second between after) :
    Listed key now (second.or first) before after := by
  cases first with
  | none =>
      have same := earlier.left rfl
      rw [Option.or_none]
      constructor
      · intro month
        rw [later.amounts, earlier.amounts, same]
        simp
      · intro month
        rw [later.entries, earlier.entries, same]
        simp
      · exact fun missing => (later.left missing).trans same
      · exact later.seen
  | some state =>
      -- The cursor is at the time of the listing already: nothing more is accrued.
      obtain ⟨cursor, found, known, time⟩ := earlier.seen state rfl
      have nothing : ∀ month, gain (some cursor) now month = 0 := fun month =>
        SpendInterval.share_of_le time.ge month
      have nowhere : ∀ month, ¬ Touches (some cursor) now month := by
        intro month touches
        have positive : 0 < timeIn cursor.lastObservedAt now month := touches
        rw [timeIn_of_le time.ge] at positive
        exact lt_irrefl 0 positive
      have isSome : (second.or (some state)).isSome = true := by cases second <;> rfl
      constructor
      · intro month
        rw [later.amounts, earlier.amounts, found, nothing, ite_self, add_zero, isSome]
        rfl
      · intro month
        rw [later.entries, earlier.entries, found, isSome]
        simp [nowhere]
      · intro missing
        rw [missing] at isSome
        cases isSome
      · intro last isLast
        cases second with
        | none =>
            cases isLast
            exact ⟨cursor, (later.left rfl).trans found, known, time⟩
        | some newer =>
            cases isLast
            exact later.seen _ rfl

theorem observations_listed (key : InstanceKey) (observations : List (SpendObservation ℚ))
    (timely : ObservedBy now spend.cursors) :
    Listed key now (sighted key observations) spend
      (observations.foldl (observe exactSpend now) spend) := by
  induction observations generalizing spend with
  | nil => exact .refl spend
  | cons observation rest ih =>
      have observes := observe_observes observation timely
      exact (observes.listed key).trans (ih (observes.timely timely))

theorem sighted_isSome_iff {observations : List (SpendObservation ℚ)} :
    (sighted key observations).isSome ↔ ∃ observation ∈ observations, observation.key = key := by
  induction observations with
  | nil => simp [sighted]
  | cons observation rest ih =>
      simp only [sighted, Option.isSome_or, Bool.or_eq_true, ih, List.mem_cons]
      constructor
      · rintro (⟨other, member, same⟩ | here)
        · exact ⟨other, Or.inr member, same⟩
        · refine ⟨observation, Or.inl rfl, ?_⟩
          by_contra different
          rw [if_neg different] at here
          cases here
      · rintro ⟨other, rfl | member, same⟩
        · rw [if_pos same]
          exact Or.inr rfl
        · exact Or.inl ⟨other, member, same⟩

theorem sorted_getElem_add_le {months : List Nat} (sorted : months.Pairwise (· < ·))
    {first last : Nat} (le : first ≤ last) (bound : last < months.length) :
    months[first] + (last - first) ≤ months[last] := by
  induction last, le using Nat.le_induction with
  | base => simp
  | succ last le ih =>
      have below := ih (Nat.lt_of_succ_lt bound)
      have step := List.pairwise_iff_getElem.mp sorted last (last + 1) (Nat.lt_of_succ_lt bound)
        bound (Nat.lt_succ_self last)
      omega

variable {F : Type} {arith : SpendArithmetic F}

theorem ledgerMonths_sorted {ledger : List (SpendLedgerEntry F)}
    (past : ∀ entry ∈ ledger, entry.month ≤ arith.monthKey now) :
    (ledgerMonths arith now ledger).Pairwise (· < ·) ∧
      ∀ month ∈ ledgerMonths arith now ledger, month ≤ arith.monthKey now := by
  have mem_months : ∀ month, month ∈ ((ledger.map SpendLedgerEntry.month).dedup).insertionSort
      (· ≤ ·) → month ≤ arith.monthKey now := by
    intro month member
    rw [List.mem_insertionSort, List.mem_dedup] at member
    obtain ⟨entry, there, rfl⟩ := List.mem_map.mp member
    exact past entry there
  have sorted : (((ledger.map SpendLedgerEntry.month).dedup).insertionSort (· ≤ ·)).Pairwise
      (· < ·) := by
    have distinct : (((ledger.map SpendLedgerEntry.month).dedup).insertionSort (· ≤ ·)).Nodup :=
      (List.perm_insertionSort _ _).nodup_iff.mpr (List.nodup_dedup _)
    exact (List.pairwise_insertionSort (· ≤ ·) _).imp₂ (fun _ _ le ne => lt_of_le_of_ne le ne)
      distinct
  unfold ledgerMonths
  dsimp only
  split
  · exact ⟨sorted, mem_months⟩
  · next missing =>
    constructor
    · apply List.pairwise_append.mpr
      refine ⟨sorted, List.pairwise_singleton .., ?_⟩
      intro month member current isCurrent
      rw [List.mem_singleton.mp isCurrent]
      exact lt_of_le_of_ne (mem_months month member) fun same => missing (same ▸ member)
    · intro month member
      rcases List.mem_append.mp member with before | current
      · exact mem_months month before
      · exact (List.mem_singleton.mp current).le

theorem pruneLedger_cutoff (arith : SpendArithmetic F) {spend : SpendState F}
    (past : ∀ entry ∈ spend.ledger, entry.month ≤ arith.monthKey now) :
    ∃ cutoff, cutoff ≤ arith.monthKey now - 11 ∧
      (pruneLedger arith now spend).ledger =
        spend.ledger.filter fun entry => cutoff ≤ entry.month := by
  obtain ⟨sorted, current⟩ := ledgerMonths_sorted past
  unfold pruneLedger
  dsimp only
  split
  · exact ⟨0, Nat.zero_le _, by simp⟩
  · next many =>
    refine ⟨_, ?_, rfl⟩
    have last : (ledgerMonths arith now spend.ledger).length - 1 <
        (ledgerMonths arith now spend.ledger).length := by omega
    have first : (ledgerMonths arith now spend.ledger).length - 12 <
        (ledgerMonths arith now spend.ledger).length := by omega
    have apart := sorted_getElem_add_le sorted (Nat.sub_le_sub_left (by decide : 1 ≤ 12) _) last
    have newest := current _ (List.getElem_mem last)
    rw [List.getD_eq_getElem _ _ first]
    omega

theorem observations_unique (observations : List (SpendObservation ℚ))
    (timely : ObservedBy now spend.cursors) (unique : UniqueEntries spend.ledger) :
    UniqueEntries (observations.foldl (observe exactSpend now) spend).ledger := by
  induction observations generalizing spend with
  | nil => exact unique
  | cons observation rest ih =>
      have observes := observe_observes observation timely
      exact ih (observes.timely timely) (observes.grown.unique unique)

theorem Touches.past {cursor : Option (SpendCursor ℚ)} {month : Nat}
    (touches : Touches cursor now month) : month ≤ monthKey now := by
  cases cursor with
  | none => exact (show monthKey now = month from touches).ge
  | some cursor => exact (timeIn_pos touches).2

/-- What `record_observations` does for an instance, when the ledger is cut off at a month. -/
structure RecordedFor (key : InstanceKey) (now : Nat) (known : Option KnownState) (cutoff : Nat)
    (before after : SpendState ℚ) : Prop where
  amounts : ∀ month, cutoff ≤ month → held key month after.ledger =
    held key month before.ledger +
      if known.isSome then gain (cursorOf key before.cursors) now month else 0
  entries : ∀ month, HasEntry key month after.ledger ↔ cutoff ≤ month ∧
    (HasEntry key month before.ledger ∨
      known.isSome ∧ Touches (cursorOf key before.cursors) now month)
  known : (cursorOf key after.cursors).map SpendCursor.known = known
  time : ∀ cursor, cursorOf key after.cursors = some cursor → cursor.lastObservedAt = now

theorem entryOf_filter (cutoff month : Nat) (ledger : List (SpendLedgerEntry ℚ)) :
    entryOf key month (ledger.filter fun entry => cutoff ≤ entry.month) =
      if cutoff ≤ month then entryOf key month ledger else none := by
  have agrees : ∀ entry ∈ ledger, entry.isFor key.provider key.instanceId month = true →
      decide (cutoff ≤ entry.month) = decide (cutoff ≤ month) := by
    intro entry _ isFor
    rw [(entry_isFor_iff.mp isFor).2]
  rw [entryOf, find?_filter_agreeing agrees]
  simp [entryOf]

theorem recordObservations_ledger (observations : List (SpendObservation ℚ))
    (timely : ObservedBy now spend.cursors)
    (past : ∀ key month, HasEntry key month spend.ledger → month ≤ monthKey now) :
    ∃ cutoff, cutoff ≤ monthKey now - 11 ∧
      (recordObservations exactSpend observations now spend).ledger =
        (observations.foldl (observe exactSpend now) spend).ledger.filter
          fun entry => cutoff ≤ entry.month := by
  unfold recordObservations
  dsimp only
  apply pruneLedger_cutoff exactSpend
  intro entry member
  have listed := observations_listed entry.key observations timely
  rcases (listed.entries entry.month).mp (hasEntry_of_mem member) with was | added
  · exact past _ _ was
  · exact added.2.past

theorem recordObservations_cursors (now : Nat) (key : InstanceKey)
    (observations : List (SpendObservation ℚ)) (spend : SpendState ℚ) :
    cursorOf key (recordObservations exactSpend observations now spend).cursors =
      if (sighted key observations).isSome then
        cursorOf key (observations.foldl (observe exactSpend now) spend).cursors else none := by
  apply find?_filter_agreeing
  intro cursor _ isFor
  rw [Bool.eq_iff_iff, sighted_isSome_iff, List.any_eq_true]
  have own : cursor.key = key := cursor_isFor_iff.mp isFor
  refine exists_congr fun observation => and_congr_right fun _ => ?_
  have isFor : cursor.isFor observation.provider observation.instanceId = true ↔
      cursor.key = observation.key := @cursor_isFor_iff observation.key cursor
  rw [isFor, own, eq_comm]

theorem recordObservations_recorded (observations : List (SpendObservation ℚ))
    (timely : ObservedBy now spend.cursors)
    (past : ∀ key month, HasEntry key month spend.ledger → month ≤ monthKey now) :
    ∃ cutoff, cutoff ≤ monthKey now - 11 ∧ ∀ key, RecordedFor key now (sighted key observations)
      cutoff spend (recordObservations exactSpend observations now spend) := by
  obtain ⟨cutoff, old, ledger⟩ := recordObservations_ledger observations timely past
  refine ⟨cutoff, old, fun key => ?_⟩
  have listed := observations_listed key observations timely
  have cursors := recordObservations_cursors now key observations spend
  refine ⟨?_, ?_, ?_, ?_⟩
  · intro month recent
    rw [← listed.amounts, ledger, held, held, entryOf_filter, if_pos recent]
  · intro month
    rw [← listed.entries, ledger, HasEntry, HasEntry, entryOf_filter]
    split
    · next recent => simp [recent]
    · next notRecent => simp [notRecent]
  · rw [cursors]
    cases isSighted : sighted key observations with
    | none => rfl
    | some state =>
        obtain ⟨cursor, found, known, _⟩ := listed.seen state isSighted
        rw [Option.isSome_some, if_pos rfl, found, ← known]
        rfl
  · intro cursor found
    rw [cursors] at found
    cases isSighted : sighted key observations with
    | none =>
        rw [isSighted] at found
        cases found
    | some state =>
        obtain ⟨last, there, _, time⟩ := listed.seen state isSighted
        rw [isSighted, Option.isSome_some, if_pos rfl, there] at found
        cases found
        exact time

end Observation

end Noland.Desktop
