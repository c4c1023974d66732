import Noland.Desktop.SpendLedger

/-!
Each entry of the ledger holds the parts of the intervals between the observations of its instance
that fall in its month. An instance that is left out of a listing counts as destroyed.
-/

namespace Noland.Desktop

section Following

variable {sights : InstanceKey → List Sighting} {last now : Nat} {spend : SpendState ℚ}

structure Follows (sights : InstanceKey → List Sighting) (last : Nat) (spend : SpendState ℚ) :
    Prop where
  uniqueCursors : UniqueCursors spend.cursors
  known : ∀ key, (cursorOf key spend.cursors).map SpendCursor.known = latestKnown (sights key)
  time : ∀ key cursor, cursorOf key spend.cursors = some cursor → cursor.lastObservedAt = last
  latest : ∀ key sighting, (sights key).head? = some sighting → sighting.time = last
  priced : ∀ key known, latestKnown (sights key) = some known →
    0 ≤ known.hourlyPrice ∧ 0 ≤ known.storageHourlyPrice
  unique : UniqueEntries spend.ledger
  past : ∀ key month, HasEntry key month spend.ledger → month ≤ monthKey last
  -- Entries that were pruned are older than all that is accrued later.
  amounts : ∀ key month, HasEntry key month spend.ledger ∨ monthKey last ≤ month + 11 →
    held key month spend.ledger =
      ((intervals (sights key)).map fun interval => interval.share month).sum
  entries : ∀ key month, monthKey last ≤ month + 11 →
    ∀ interval ∈ intervals (sights key), 0 < timeIn interval.start interval.stop month →
      HasEntry key month spend.ledger

theorem follows_start (settings : BudgetSettings ℚ) :
    Follows (fun _ => []) 0 { settings := settings } where
  uniqueCursors := List.Pairwise.nil
  known := fun _ => rfl
  time := nofun
  latest := nofun
  priced := nofun
  unique := List.Pairwise.nil
  past := nofun
  amounts := fun _ _ _ => rfl
  entries := nofun

theorem Follows.timely (follows : Follows sights last spend) (le : last ≤ now) :
    ObservedBy now spend.cursors :=
  fun key cursor found => (follows.time key cursor found).trans_le le

theorem Follows.pastBy (follows : Follows sights last spend) (le : last ≤ now) (key : InstanceKey)
    (month : Nat) (has : HasEntry key month spend.ledger) : month ≤ monthKey now :=
  (follows.past key month has).trans (monthKey_mono le)

theorem Follows.closedBy (follows : Follows sights last spend) (key : InstanceKey)
    (known : Option KnownState) :
    closedBy ⟨now, known⟩ (sights key) = if known.isSome then
      (cursorOf key spend.cursors).elim [] fun cursor =>
        [⟨cursor.known, cursor.lastObservedAt, now⟩]
      else [] := by
  have knows := follows.known key
  have latest := follows.latest key
  cases known with
  | none => cases sights key <;> rfl
  | some state =>
      cases found : cursorOf key spend.cursors with
      | none =>
          rw [found] at knows
          cases seen : sights key with
          | nil => rfl
          | cons before rest =>
              rw [seen] at knows
              have unknown : before.known = none := knows.symm
              simp [Noland.Desktop.closedBy, unknown]
      | some cursor =>
          rw [found] at knows
          have time := follows.time key cursor found
          cases seen : sights key with
          | nil =>
              rw [seen] at knows
              cases knows
          | cons before rest =>
              rw [seen] at knows
              have same : before.known = some cursor.known := knows.symm
              have start : before.time = last := latest before (seen ▸ rfl)
              simp [Noland.Desktop.closedBy, same, start, time]

theorem sighted_priced {key : InstanceKey} {observations : List (SpendObservation ℚ)}
    {known : KnownState} (isSighted : sighted key observations = some known) :
    0 ≤ known.hourlyPrice ∧ 0 ≤ known.storageHourlyPrice := by
  induction observations with
  | nil => cases isSighted
  | cons observation rest ih =>
      rcases Option.or_eq_some_iff.mp isSighted with later | ⟨_, here⟩
      · exact ih later
      · split at here
        · cases here
          exact ⟨le_max_right _ _, le_max_right _ _⟩
        · cases here

theorem Follows.recorded (follows : Follows sights last spend) (le : last ≤ now)
    (observations : List (SpendObservation ℚ)) :
    ∃ cutoff, cutoff ≤ monthKey now - 11 ∧ ∀ key, RecordedFor key now (sighted key observations)
      cutoff spend (recordObservations exactSpend observations now spend) :=
  recordObservations_recorded observations (follows.timely le) (follows.pastBy le)

theorem Follows.keeps (follows : Follows sights last spend) (le : last ≤ now)
    (observations : List (SpendObservation ℚ)) {key : InstanceKey} {month : Nat}
    (has : HasEntry key month spend.ledger) (recent : monthKey now ≤ month + 11) :
    HasEntry key month (recordObservations exactSpend observations now spend).ledger := by
  obtain ⟨cutoff, old, recorded⟩ := follows.recorded le observations
  exact ((recorded key).entries month).mpr ⟨by omega, Or.inl has⟩

theorem Follows.touched (follows : Follows sights last spend) (le : last ≤ now)
    {key : InstanceKey} {month : Nat}
    (touches : Touches (cursorOf key spend.cursors) now month) : monthKey last ≤ month := by
  cases found : cursorOf key spend.cursors with
  | none =>
      rw [found] at touches
      have current : monthKey now = month := touches
      exact current ▸ monthKey_mono le
  | some cursor =>
      rw [found] at touches
      rw [← follows.time key cursor found]
      exact (timeIn_pos touches).1

theorem Follows.observed (follows : Follows sights last spend) (le : last ≤ now)
    (observations : List (SpendObservation ℚ)) :
    Follows (fun key => ⟨now, sighted key observations⟩ :: sights key) now
      (recordObservations exactSpend observations now spend) := by
  obtain ⟨cutoff, old, recorded⟩ := follows.recorded le observations
  have unique := observations_unique observations (follows.timely le) follows.unique
  obtain ⟨_, _, ledger⟩ :=
    recordObservations_ledger observations (follows.timely le) (follows.pastBy le)
  refine ⟨recordObservations_unique exactSpend now observations follows.uniqueCursors, ?_, ?_, ?_,
    ?_, ?_, ?_, ?_, ?_⟩
  · exact fun key => (recorded key).known
  · exact fun key => (recorded key).time
  · rintro key sighting ⟨⟩
    rfl
  · exact fun key known isSighted => sighted_priced isSighted
  · rw [ledger]
    exact unique.filter _
  · intro key month has
    rcases (((recorded key).entries month).mp has).2 with was | added
    · exact follows.pastBy le key month was
    · exact added.2.past
  · intro key month counted
    have earlier : HasEntry key month spend.ledger ∨ monthKey last ≤ month + 11 := by
      rcases counted with has | recent
      · rcases (((recorded key).entries month).mp has).2 with was | added
        · exact Or.inl was
        · exact Or.inr ((follows.touched le added.2).trans (Nat.le_add_right _ _))
      · exact Or.inr ((monthKey_mono le).trans recent)
    have inLedger : cutoff ≤ month := by
      rcases counted with has | recent
      · exact (((recorded key).entries month).mp has).1
      · omega
    rw [(recorded key).amounts month inLedger, follows.amounts key month earlier, intervals,
      follows.closedBy, List.map_append, List.sum_append, add_comm]
    congr 1
    cases (sighted key observations).isSome with
    | false => rfl
    | true => cases cursorOf key spend.cursors <;> simp [gain]
  · intro key month recent interval member positive
    apply ((recorded key).entries month).mpr
    refine ⟨by omega, ?_⟩
    rw [intervals, follows.closedBy] at member
    rcases List.mem_append.mp member with closed | before
    · right
      split at closed
      · next isSome =>
        refine ⟨isSome, ?_⟩
        cases found : cursorOf key spend.cursors with
        | none =>
            rw [found] at closed
            cases closed
        | some cursor =>
            rw [found] at closed
            rw [List.mem_singleton.mp closed] at positive
            exact positive
      · cases closed
    · left
      exact follows.entries key month ((monthKey_mono le).trans recent) interval before positive

theorem Follows.dropped (follows : Follows sights last spend) (instanceId : Nat) :
    Follows (fun key => if key.Confirms instanceId then ⟨last, none⟩ :: sights key else sights key)
      last { spend with cursors := spend.cursors.filter fun cursor =>
        cursor.provider ≠ "vast" ∨ cursor.instanceId ≠ instanceId } := by
  have cursors : ∀ key, cursorOf key (spend.cursors.filter fun cursor =>
      cursor.provider ≠ "vast" ∨ cursor.instanceId ≠ instanceId) =
        if key.Confirms instanceId then none else cursorOf key spend.cursors := by
    intro key
    have agrees : ∀ cursor ∈ spend.cursors, cursor.isFor key.provider key.instanceId = true →
        decide (cursor.provider ≠ "vast" ∨ cursor.instanceId ≠ instanceId) =
          decide (¬ key.Confirms instanceId) := by
      intro cursor _ isFor
      have own : cursor.key = key := cursor_isFor_iff.mp isFor
      rw [← own, decide_eq_decide]
      exact Decidable.not_and_iff_not_or_not.symm
    rw [cursorOf, find?_filter_agreeing agrees]
    by_cases confirms : key.Confirms instanceId <;> simp [confirms, cursorOf]
  have same : ∀ key, intervals (if key.Confirms instanceId then ⟨last, none⟩ :: sights key
      else sights key) = intervals (sights key) := by
    intro key
    split
    · rw [intervals]
      cases sights key <;> rfl
    · rfl
  refine ⟨follows.uniqueCursors.filter _, ?_, ?_, ?_, ?_, follows.unique, follows.past, ?_, ?_⟩
  · intro key
    rw [cursors]
    split
    · rfl
    · exact follows.known key
  · intro key cursor found
    rw [cursors] at found
    split at found
    · cases found
    · exact follows.time key cursor found
  · intro key sighting isFirst
    split at isFirst
    · cases isFirst
      rfl
    · exact follows.latest key sighting isFirst
  · intro key known isLatest
    split at isLatest
    · cases isLatest
    · exact follows.priced key known isLatest
  · intro key month counted
    dsimp only
    rw [same]
    exact follows.amounts key month counted
  · intro key month recent interval member
    rw [same] at member
    exact follows.entries key month recent interval member

theorem sighted_map {key : InstanceKey} {cursors : List (SpendCursor ℚ)}
    {change : SpendCursor ℚ → SpendObservation ℚ}
    (keyed : ∀ cursor, (change cursor).key = cursor.key)
    (unique : UniqueCursors cursors) :
    sighted key (cursors.map change) =
      (cursorOf key cursors).map fun cursor => (change cursor).known := by
  induction cursors with
  | nil => rfl
  | cons first rest ih =>
      obtain ⟨apart, others⟩ := List.pairwise_cons.mp unique
      rw [List.map_cons, sighted, keyed, ih others]
      by_cases own : first.key = key
      · have missing : cursorOf key rest = none := by
          apply List.find?_eq_none.mpr
          intro other member isFor
          have same := InstanceKey.mk.inj (own.trans (cursor_isFor_iff.mp isFor).symm)
          exact apart other member ⟨same.2, same.1⟩
        have here : cursorOf key (first :: rest) = some first :=
          List.find?_cons_of_pos (cursor_isFor_iff.mpr own)
        rw [missing, here, if_pos own]
        rfl
      · have notHere : cursorOf key (first :: rest) = cursorOf key rest :=
          List.find?_cons_of_neg fun isFor => own (cursor_isFor_iff.mp isFor)
        rw [notHere, if_neg own, Option.or_none]

theorem Follows.transition (follows : Follows sights last spend) (key : InstanceKey)
    (instanceId : Nat) (running : Bool) :
    sighted key (transitionObservations instanceId running spend.cursors) =
      (latestKnown (sights key)).map fun known => known.confirmed key instanceId running := by
  have knows := follows.known key
  rw [transitionObservations, sighted_map (fun cursor => rfl) follows.uniqueCursors, ← knows]
  cases found : cursorOf key spend.cursors with
  | none => rfl
  | some cursor =>
      rw [found] at knows
      obtain ⟨hourly, storage⟩ := follows.priced key cursor.known knows.symm
      have hourlyPrice : max cursor.hourlyPrice 0 = cursor.hourlyPrice := max_eq_left hourly
      have storagePrice : max cursor.storageHourlyPrice 0 = cursor.storageHourlyPrice :=
        max_eq_left storage
      have own : cursor.key = key := cursor_isFor_iff.mp (List.find?_some found)
      simp only [Option.map_some, Option.some.injEq, SpendObservation.known, hourlyPrice,
        storagePrice]
      rw [← own]
      by_cases confirms : cursor.key.Confirms instanceId
      · have same : cursor.provider = "vast" ∧ cursor.instanceId = instanceId := confirms
        rw [if_pos same, KnownState.confirmed, if_pos confirms]
        rfl
      · have different : ¬ (cursor.provider = "vast" ∧ cursor.instanceId = instanceId) := confirms
        rw [if_neg different, KnownState.confirmed, if_neg confirms]
        rfl

end Following

section Runs

variable {settings : BudgetSettings ℚ}

theorem follows_call {earlier : List SpendCall} {spend : SpendState ℚ} {call : SpendCall}
    (follows : Follows (fun key => sightings key earlier) (lastCall earlier) spend)
    (le : lastCall earlier ≤ call.now) :
    Follows (fun key => sightings key (call :: earlier)) call.now (call.record spend) := by
  obtain ⟨now, event⟩ := call
  have changed : ∀ instanceId running,
      Follows (fun key => ⟨now, (latestKnown (sightings key earlier)).map fun known =>
          known.confirmed key instanceId running⟩ :: sightings key earlier) now
        (recordInstanceTransition exactSpend instanceId running now spend) := by
    intro instanceId running
    have observed := follows.observed le (transitionObservations instanceId running spend.cursors)
    simp only [follows.transition] at observed
    exact observed
  cases event with
  | observations listed => exact follows.observed le listed
  | transition instanceId running => exact changed instanceId running
  | destroyed instanceId =>
      have dropped := (changed instanceId false).dropped instanceId
      have same : (fun key => sightings key (⟨now, .destroyed instanceId⟩ :: earlier)) = fun key =>
          if key.Confirms instanceId then
            ⟨now, none⟩ :: ⟨now, (latestKnown (sightings key earlier)).map fun known =>
              known.confirmed key instanceId false⟩ :: sightings key earlier
          else ⟨now, (latestKnown (sightings key earlier)).map fun known =>
              known.confirmed key instanceId false⟩ :: sightings key earlier := by
        funext key
        rw [sightings, SpendCall.sightings]
        dsimp only
        split <;> rfl
      rw [same]
      exact dropped

theorem call_keeps {earlier : List SpendCall} {spend : SpendState ℚ} {call : SpendCall}
    (follows : Follows (fun key => sightings key earlier) (lastCall earlier) spend)
    (le : lastCall earlier ≤ call.now) {key : InstanceKey} {month : Nat}
    (has : HasEntry key month spend.ledger) (recent : monthKey call.now ≤ month + 11) :
    HasEntry key month (call.record spend).ledger := by
  obtain ⟨now, event⟩ := call
  cases event with
  | observations listed => exact follows.keeps le listed has recent
  | transition instanceId running => exact follows.keeps le _ has recent
  | destroyed instanceId => exact follows.keeps le _ has recent

theorem lastCall_le {call : SpendCall} {earlier : List SpendCall}
    (before : ∀ other ∈ earlier, other.now ≤ call.now) : lastCall earlier ≤ call.now := by
  cases earlier with
  | nil => exact Nat.zero_le _
  | cons other rest => exact before other (List.mem_cons_self ..)

theorem recorded_follows {calls : List SpendCall}
    (ordered : calls.Pairwise fun later earlier => earlier.now ≤ later.now) :
    Follows (fun key => sightings key calls) (lastCall calls) (recorded settings calls) := by
  induction calls with
  | nil => exact follows_start settings
  | cons call earlier ih =>
      obtain ⟨before, rest⟩ := List.pairwise_cons.mp ordered
      exact follows_call (ih rest) (lastCall_le before)

theorem recorded_keeps {later earlier : List SpendCall}
    (ordered : (later ++ earlier).Pairwise fun later earlier => earlier.now ≤ later.now)
    {key : InstanceKey} {month : Nat} (has : HasEntry key month (recorded settings earlier).ledger)
    (recent : monthKey (lastCall (later ++ earlier)) ≤ month + 11) :
    HasEntry key month (recorded settings (later ++ earlier)).ledger := by
  induction later with
  | nil => exact has
  | cons call rest ih =>
      obtain ⟨before, others⟩ := List.pairwise_cons.mp ordered
      have le := lastCall_le before
      exact call_keeps (recorded_follows others) le
        (ih others ((monthKey_mono le).trans recent)) recent

theorem SpendCall.sightings_time {call : SpendCall} {key : InstanceKey} {known : Option KnownState}
    {sighting : Sighting} (member : sighting ∈ call.sightings key known) :
    sighting.time = call.now := by
  unfold SpendCall.sightings at member
  split at member
  · rw [List.mem_singleton.mp member]
  · rw [List.mem_singleton.mp member]
  · dsimp only at member
    split at member
    · rcases List.mem_cons.mp member with first | second
      · rw [first]
      · rw [List.mem_singleton.mp second]
    · rw [List.mem_singleton.mp member]

theorem mem_sightings {key : InstanceKey} {calls : List SpendCall} {sighting : Sighting}
    (member : sighting ∈ sightings key calls) : ∃ call ∈ calls, sighting.time = call.now := by
  induction calls with
  | nil => cases member
  | cons call earlier ih =>
      rcases List.mem_append.mp member with here | before
      · exact ⟨call, List.mem_cons_self .., SpendCall.sightings_time here⟩
      · obtain ⟨other, there, same⟩ := ih before
        exact ⟨other, List.mem_cons_of_mem _ there, same⟩

theorem sightings_ordered {calls : List SpendCall}
    (ordered : calls.Pairwise fun later earlier => earlier.now ≤ later.now) (key : InstanceKey) :
    (sightings key calls).Pairwise fun later earlier => earlier.time ≤ later.time := by
  induction calls with
  | nil => exact List.Pairwise.nil
  | cons call earlier ih =>
      obtain ⟨before, rest⟩ := List.pairwise_cons.mp ordered
      apply List.pairwise_append.mpr
      refine ⟨?_, ih rest, ?_⟩
      · apply List.pairwise_of_forall_mem_list
        intro first isFirst second isSecond
        rw [SpendCall.sightings_time isFirst, SpendCall.sightings_time isSecond]
      · intro later isLater sighting member
        obtain ⟨other, there, time⟩ := mem_sightings member
        rw [SpendCall.sightings_time isLater, time]
        exact before other there

theorem closedBy_times {latest : Sighting} {earlier : List Sighting} {interval : SpendInterval}
    (member : interval ∈ closedBy latest earlier) :
    ∃ before rest, earlier = before :: rest ∧ interval.start = before.time ∧
      interval.stop = latest.time := by
  cases earlier with
  | nil => cases member
  | cons before rest =>
      simp only [closedBy] at member
      split at member
      · rw [List.mem_singleton.mp member]
        exact ⟨before, rest, rfl, rfl, rfl⟩
      · cases member

theorem mem_intervals {all : List Sighting} {interval : SpendInterval}
    (member : interval ∈ intervals all) : ∃ sighting ∈ all, interval.stop = sighting.time := by
  induction all with
  | nil => cases member
  | cons latest earlier ih =>
      rcases List.mem_append.mp member with here | before
      · obtain ⟨_, _, _, _, stop⟩ := closedBy_times here
        exact ⟨latest, List.mem_cons_self .., stop⟩
      · obtain ⟨sighting, there, stop⟩ := ih before
        exact ⟨sighting, List.mem_cons_of_mem _ there, stop⟩

theorem intervals_apart {all : List Sighting}
    (ordered : all.Pairwise fun later earlier => earlier.time ≤ later.time) :
    (intervals all).Pairwise fun later earlier => earlier.stop ≤ later.start := by
  induction all with
  | nil => exact List.Pairwise.nil
  | cons latest earlier ih =>
      obtain ⟨_, rest⟩ := List.pairwise_cons.mp ordered
      apply List.pairwise_append.mpr
      refine ⟨?_, ih rest, ?_⟩
      · unfold closedBy
        split
        · exact List.Pairwise.nil
        · split
          · exact List.pairwise_singleton ..
          · exact List.Pairwise.nil
      · intro later isLater interval member
        obtain ⟨before, others, rfl, start, _⟩ := closedBy_times isLater
        obtain ⟨sighting, there, stop⟩ := mem_intervals member
        rw [start, stop]
        rcases List.mem_cons.mp there with here | further
        · rw [here]
        · exact (List.pairwise_cons.mp rest).1 sighting further

end Runs

def SpendInterval.seconds (interval : SpendInterval) (month : Nat) : ℚ :=
  (timeIn interval.start interval.stop month : ℚ) / 1000

/-- An entry holds the parts of some intervals that fall in its month, by the state known at the
start of each, and their cost at the rate of that state. -/
structure SpendLedgerEntry.Accounts (entry : SpendLedgerEntry ℚ) (spans : List SpendInterval) :
    Prop where
  time : entry.runningSeconds + entry.stoppedSeconds =
    (spans.map fun interval => interval.seconds entry.month).sum
  running : entry.runningSeconds = (spans.map fun interval =>
    if interval.known.running then interval.seconds entry.month else 0).sum
  stopped : entry.stoppedSeconds = (spans.map fun interval =>
    if interval.known.running then 0 else interval.seconds entry.month).sum
  accrued : entry.accruedUsd = (spans.map fun interval =>
    interval.known.rate * interval.seconds entry.month / 3600).sum

structure SpendConserved (settings : BudgetSettings ℚ) (calls : List SpendCall) : Prop where
  unique : UniqueEntries (recorded settings calls).ledger
  accounts : ∀ entry ∈ (recorded settings calls).ledger,
    entry.Accounts (intervals (sightings entry.key calls))
  -- No moment is in two intervals, and the months share each interval without a rest.
  once : ∀ key, (intervals (sightings key calls)).Pairwise fun later earlier =>
    earlier.stop ≤ later.start
  split : ∀ key, ∀ interval ∈ intervals (sightings key calls),
    ∑ month ∈ Finset.Icc (monthKey interval.start) (monthKey interval.stop),
      timeIn interval.start interval.stop month = interval.stop - interval.start
  complete : ∀ key month, monthKey (lastCall calls) ≤ month + 11 →
    ∀ interval ∈ intervals (sightings key calls),
      0 < timeIn interval.start interval.stop month →
        ∃ entry ∈ (recorded settings calls).ledger, entry.key = key ∧ entry.month = month
  -- Pruning keeps the current month and the eleven before it.
  kept : ∀ later earlier, calls = later ++ earlier →
    ∀ entry ∈ (recorded settings earlier).ledger, monthKey (lastCall calls) ≤ entry.month + 11 →
      ∃ same ∈ (recorded settings calls).ledger, same.key = entry.key ∧ same.month = entry.month

theorem HasEntry.exists_mem {key : InstanceKey} {month : Nat} {ledger : List (SpendLedgerEntry ℚ)}
    (has : HasEntry key month ledger) :
    ∃ entry ∈ ledger, entry.key = key ∧ entry.month = month := by
  obtain ⟨entry, found⟩ := Option.isSome_iff_exists.mp has
  exact ⟨entry, mem_of_entryOf found⟩

theorem sum_share (spans : List SpendInterval) (month : Nat) :
    (spans.map fun interval => interval.share month).sum =
      ((spans.map fun interval =>
          if interval.known.running then interval.seconds month else 0).sum,
        (spans.map fun interval =>
          if interval.known.running then 0 else interval.seconds month).sum,
        (spans.map fun interval => interval.known.rate * interval.seconds month / 3600).sum) := by
  induction spans with
  | nil => rfl
  | cons interval rest ih =>
      rw [List.map_cons, List.sum_cons, ih]
      rfl

theorem SpendLedgerEntry.accounts_of_tally {entry : SpendLedgerEntry ℚ} {spans : List SpendInterval}
    (tally : entry.tally = (spans.map fun interval => interval.share entry.month).sum) :
    entry.Accounts spans := by
  rw [sum_share] at tally
  obtain ⟨running, others⟩ := Prod.mk.inj tally
  obtain ⟨stopped, accrued⟩ := Prod.mk.inj others
  refine ⟨?_, running, stopped, accrued⟩
  rw [running, stopped, ← List.sum_map_add]
  congr 2
  funext interval
  split
  · exact add_zero _
  · exact zero_add _

/-- Over any calls of a clock that does not go back, the ledger holds the time between the
observations of each instance, once and in its months. -/
theorem spend_ledger_conserved (settings : BudgetSettings ℚ) (history : SpendHistory) :
    SpendConserved settings history.calls := by
  obtain ⟨calls, ordered⟩ := history
  have follows : Follows (fun key => sightings key calls) (lastCall calls)
      (recorded settings calls) :=
    recorded_follows ordered
  constructor
  · exact follows.unique
  · intro entry member
    apply SpendLedgerEntry.accounts_of_tally
    rw [← held_of_entryOf (entryOf_of_mem follows.unique member)]
    exact follows.amounts entry.key entry.month (Or.inl (hasEntry_of_mem member))
  · exact fun key => intervals_apart (sightings_ordered ordered key)
  · exact fun key interval _ => sum_timeIn interval.start interval.stop
  · intro key month recent interval member positive
    exact (follows.entries key month recent interval member positive).exists_mem
  · intro later earlier same entry member recent
    dsimp only at same
    subst same
    exact (recorded_keeps ordered (hasEntry_of_mem member) recent).exists_mem

namespace SpendSample

def settings : BudgetSettings ℚ := ⟨0, 80, false⟩

def seen (price : ℚ) : List (SpendObservation ℚ) :=
  [{ provider := "vast", instanceId := 7, label := "", gpuName := "", running := true
     hourlyPrice := price, storageHourlyPrice := 0 }]

-- Stopped a second before January 1970 ends, listed as running in February, then destroyed.
def overMonth : SpendHistory where
  calls := [⟨2678403000, .destroyed 7⟩, ⟨2678402000, .observations (seen 1)⟩,
    ⟨2678399000, .transition 7 false⟩, ⟨2678398000, .observations (seen 1)⟩]
  ordered := by decide

def leftOut : List SpendCall :=
  [⟨2, .observations (seen 1)⟩, ⟨1, .observations []⟩, ⟨0, .observations (seen 1)⟩]

def negative : List SpendCall :=
  [⟨2, .observations (seen (-1))⟩, ⟨0, .observations (seen (-1))⟩]

end SpendSample

open SpendSample in
theorem spend_ledger_conserved_over_month :
    ((recorded settings overMonth.calls).ledger.map fun entry =>
      (entry.month, entry.runningSeconds, entry.stoppedSeconds, entry.accruedUsd)) =
        [(monthKey 2678398000, 1, 1, 1 / 3600), (monthKey 2678402000, 1, 2, 1 / 3600)] ∧
      SpendConserved settings overMonth.calls :=
  ⟨by decide +kernel, spend_ledger_conserved settings overMonth⟩

open SpendSample in
/-- The time up to the next listing of an instance that was left out is not counted, and a
negative price counts as 0. -/
theorem left_out_time_uncounted :
    (∃ entry ∈ (recorded settings leftOut).ledger,
      ¬ entry.runningSeconds + entry.stoppedSeconds =
        ((intervals ((sightings entry.key leftOut).filter (·.known.isSome))).map
          fun interval => interval.seconds entry.month).sum) ∧
      ∃ entry ∈ (recorded settings negative).ledger, entry.runningSeconds = 2 / 1000 ∧
        ¬ entry.accruedUsd = -1 * entry.runningSeconds / 3600 := by
  decide +kernel

end Noland.Desktop
