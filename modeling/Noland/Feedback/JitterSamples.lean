import Mathlib.Algebra.Order.Ring.Nat
import Mathlib.Data.List.Induction
import Noland.Feedback.Jitter
import Noland.Lib.Machine

/-!
An onlooker numbers the segments of a stream and their stretches without a gap of more than
three seconds, and keeps what the accumulator has counted. From the calls alone the onlooker
knows when a stretch began.
-/

namespace Noland.Feedback

open Noland.Machine

variable {F : Type} [FiniteDouble F] {validTime : String → Bool}

namespace JitterBucket

theorem opened_sane (route : RouteMode) {jitter : F} (measured : FiniteDouble.zero ≤ jitter)
    {observedAt : String} (readable : validTime observedAt = true) :
    (opened route jitter observedAt).Sane validTime where
  count := Nat.zero_le _
  sum := le_refl _
  least := measured
  greatest := measured
  highThreshold := FiniteDouble.zero_le_seven
  severeThreshold := FiniteDouble.zero_le_seven.trans FiniteDouble.seven_le_fifteen
  range := le_refl _
  severe := Nat.le_refl _
  high := Nat.le_refl _
  thresholds := FiniteDouble.seven_le_fifteen
  first := readable
  last := readable

theorem Sane.counted {bucket : JitterBucket F} (sane : bucket.Sane validTime) {jitter sum : F}
    (measured : FiniteDouble.zero ≤ jitter)
    (added : FiniteDouble.add bucket.sumMs jitter = some sum) (room : bucket.sampleCount < 10000000)
    (coverage : Nat) {observedAt : String} (readable : validTime observedAt = true) :
    (bucket.counted jitter sum coverage observedAt).Valid validTime := by
  have banded : (if FiniteDouble.fifteen < jitter then 1 else 0) ≤
      if FiniteDouble.seven < jitter then 1 else 0 := by
    split_ifs with severe high
    · exact Nat.le_refl 1
    · exact absurd (lt_of_le_of_lt FiniteDouble.seven_le_fifteen severe) high
    · exact Nat.zero_le 1
    · exact Nat.le_refl 0
  have single : (if FiniteDouble.seven < jitter then 1 else 0) ≤ 1 := by
    split_ifs <;> omega
  have latest : validTime (if bucket.lastObservedAt < observedAt then observedAt
      else bucket.lastObservedAt) = true := by
    split_ifs
    · exact readable
    · exact sane.last
  refine ⟨Nat.succ_pos _, ?_⟩
  constructor
  · exact room
  · exact FiniteDouble.add_nonneg sane.sum measured added
  · exact le_min sane.least measured
  · exact sane.greatest.trans (le_max_left _ _)
  · exact sane.highThreshold
  · exact sane.severeThreshold
  · exact (min_le_left _ _).trans (sane.range.trans (le_max_left _ _))
  · exact Nat.add_le_add sane.severe banded
  · exact Nat.add_le_add sane.high single
  · exact sane.thresholds
  · exact sane.first
  · exact latest

def room (bucket : JitterBucket F) (jitter : F) : Bool :=
  (FiniteDouble.add bucket.sumMs jitter).isSome && bucket.sampleCount < 10000000

theorem count_none {bucket : JitterBucket F} {jitter : F} (full : bucket.room jitter = false)
    (coverage : Nat) (observedAt : String) : bucket.count jitter coverage observedAt = none := by
  rw [JitterBucket.count]
  cases added : FiniteDouble.add bucket.sumMs jitter with
  | none => rfl
  | some sum =>
      simp only [room, added, Option.isSome_some, Bool.true_and, decide_eq_false_iff_not] at full
      exact if_pos (by omega)

theorem Sane.count_some {bucket : JitterBucket F} (sane : bucket.Sane validTime) {jitter : F}
    (measured : FiniteDouble.zero ≤ jitter) (free : bucket.room jitter = true) (coverage : Nat)
    {observedAt : String} (readable : validTime observedAt = true) :
    ∃ counted, bucket.count jitter coverage observedAt = some counted ∧
      counted.key = bucket.key ∧ counted.Valid validTime := by
  rw [room, Bool.and_eq_true, decide_eq_true_eq] at free
  obtain ⟨sum, added⟩ := Option.isSome_iff_exists.mp free.1
  refine ⟨bucket.counted jitter sum coverage observedAt, ?_, rfl,
    sane.counted measured added free.2 coverage readable⟩
  simp only [JitterBucket.count, added]
  exact if_neg (by omega)

end JitterBucket

def sampleRoom (buckets : List (JitterBucket F)) (route : RouteMode) (jitter : F) : Bool :=
  match buckets.find? fun bucket => bucket.measures route with
  | some bucket => bucket.room jitter
  | none => buckets.length < maxBuckets

def Clashes (buckets : List (JitterBucket F)) (route : RouteMode) : Prop :=
  (∀ bucket ∈ buckets, bucket.measures route = false) ∧
    ∃ bucket ∈ buckets, bucket.key = JitterBucket.routeKey route

theorem addSample_full {buckets : List (JitterBucket F)} {route : RouteMode} {jitter : F}
    (full : sampleRoom buckets route jitter = false) (coverage : Nat) (observedAt : String) :
    addSample buckets route jitter coverage observedAt = (buckets, false) := by
  rw [addSample]
  cases place : buckets.findIdx? fun bucket => bucket.measures route with
  | none =>
      have unmeasured : (buckets.find? fun bucket => bucket.measures route) = none := by
        rw [List.findIdx?_eq_none_iff] at place
        simpa using place
      rw [sampleRoom, unmeasured] at full
      simp only [decide_eq_false_iff_not] at full
      exact if_neg full
  | some index =>
      obtain ⟨bound, measured, before⟩ := List.findIdx?_eq_some_iff_getElem.mp place
      have found : (buckets.find? fun bucket => bucket.measures route) = some buckets[index] :=
        List.find?_eq_some_iff_getElem.mpr ⟨measured, index, bound, rfl, by simpa using before⟩
      rw [sampleRoom, found] at full
      simp only [countAt, List.getElem?_eq_getElem bound, Option.bind_some,
        JitterBucket.count_none full]

theorem addSample_room {buckets : List (JitterBucket F)} {route : RouteMode} {jitter : F}
    (valid : ValidBuckets validTime buckets) (measured : FiniteDouble.zero ≤ jitter)
    (free : sampleRoom buckets route jitter = true) (coverage : Nat) {observedAt : String}
    (readable : validTime observedAt = true) :
    ∃ counted, addSample buckets route jitter coverage observedAt = (counted, true) ∧
      (ValidBuckets validTime counted ↔ ¬ Clashes buckets route) := by
  rw [addSample]
  cases place : buckets.findIdx? fun bucket => bucket.measures route with
  | none =>
      have unmeasured : ∀ bucket ∈ buckets, bucket.measures route = false :=
        List.findIdx?_eq_none_iff.mp place
      have short : buckets.length < maxBuckets := by
        have absent : (buckets.find? fun bucket => bucket.measures route) = none := by
          simpa using unmeasured
        rw [sampleRoom, absent] at free
        simpa using free
      have open_room : (JitterBucket.opened route jitter observedAt).room jitter = true := by
        simp [JitterBucket.room, JitterBucket.opened, FiniteDouble.zero_add]
      obtain ⟨counted, count, key, countedValid⟩ :=
        (JitterBucket.opened_sane route measured readable).count_some measured open_room coverage
          readable
      refine ⟨buckets ++ [counted], ?_, ?_⟩
      · simp [if_pos short, countAt, count]
      · have same_key : counted.key = JitterBucket.routeKey route := key
        constructor
        · rintro ⟨distinct, -⟩ ⟨-, bucket, member, clash⟩
          rw [List.map_append, List.nodup_append] at distinct
          exact distinct.2.2 bucket.key (List.mem_map_of_mem member) counted.key (by simp)
            (clash.trans same_key.symm)
        · intro clear
          constructor
          · rw [List.map_append, List.nodup_append]
            refine ⟨valid.1, by simp, ?_⟩
            intro old member new last clash
            obtain ⟨bucket, inBuckets, same⟩ := List.mem_map.mp member
            rw [List.map_singleton, List.mem_singleton] at last
            exact clear ⟨unmeasured, bucket, inBuckets,
              same.trans (clash.trans (last.trans same_key))⟩
          · intro bucket member
            rcases List.mem_append.mp member with old | new
            · exact valid.2 bucket old
            · exact List.mem_singleton.mp new ▸ countedValid
  | some index =>
      obtain ⟨bound, found, before⟩ := List.findIdx?_eq_some_iff_getElem.mp place
      have first : (buckets.find? fun bucket => bucket.measures route) = some buckets[index] :=
        List.find?_eq_some_iff_getElem.mpr ⟨found, index, bound, rfl, by simpa using before⟩
      rw [sampleRoom, first] at free
      obtain ⟨counted, count, key, countedValid⟩ :=
        (valid.2 _ (List.getElem_mem bound)).2.count_some measured free coverage readable
      refine ⟨buckets.set index counted, ?_, ?_⟩
      · simp only [countAt, List.getElem?_eq_getElem bound, Option.bind_some, count]
      · have clear : ¬ Clashes buckets route := by
          intro clashes
          have absent := clashes.1 _ (List.getElem_mem bound)
          rw [found] at absent
          exact Bool.noConfusion absent
        refine iff_of_true ⟨?_, ?_⟩ clear
        · rw [List.map_set, key, ← List.getElem_map (f := JitterBucket.key) (h := by simpa),
            List.set_getElem_self]
          exact valid.1
        · intro bucket member
          rcases List.mem_or_eq_of_mem_set member with old | new
          · exact valid.2 bucket old
          · exact new ▸ countedValid

structure JitterSample where
  segment : Nat
  stretch : Nat
  origin : Nat
  measuredAt : Nat
  slot : Nat
  added : Nat
  batchId : String
  sequence : Nat

/-- The segment that is measured, with the begin of its stretch and the last measurement. -/
structure Watched where
  id : String
  origin : Nat
  previous : Option Nat := none

/-- A call of `observe` in the segment. -/
structure JitterCall where
  batchId : String
  sequence : Nat

structure JitterRun (F : Type) where
  accumulator : JitterAccumulator F
  watched : Option Watched := none
  calls : List JitterCall := []
  segments : Nat := 0
  stretches : Nat := 0
  samples : List JitterSample := []

inductive JitterEvent (F : Type) (validTime : String → Bool) where
  | start (id : String) (now : Nat) (route : RouteMode)
  | stop
  | routeChanged (route : RouteMode) (now : Nat)
  | observe (observation : JitterObservation F validTime)

/-- A gap of more than three seconds, or a clock that goes back. -/
def pauses (previous : Option Nat) (now : Nat) : Bool :=
  previous.any fun before => now < before || before + 3 * nanosPerSecond < now

namespace JitterRun

def start (run : JitterRun F) (id : String) (now : Nat) (route : RouteMode) : JitterRun F :=
  if run.watched.any fun watched => watched.id = id then
    { run with accumulator := run.accumulator.start id now route }
  else
    { run with
      accumulator := run.accumulator.start id now route
      watched := some { id := id, origin := now }
      calls := []
      segments := run.segments + 1
      stretches := run.stretches + 1 }

def observe (run : JitterRun F) (observation : JitterObservation F validTime) : JitterRun F :=
  let (accumulator, counted) := run.accumulator.observe observation
  match run.watched with
  | none => { run with accumulator := accumulator }
  | some watched =>
      let now := observation.measuredAt
      let paused := pauses watched.previous now
      let origin := if paused then now else watched.origin
      let stretches := if paused then run.stretches + 1 else run.stretches
      let added := run.accumulator.segment.elim 0 fun segment =>
        (segment.entered observation).coverage now
      { accumulator := accumulator
        watched := some { watched with origin := origin, previous := some now }
        calls :=
          run.calls ++
            [⟨observation.evidence.batchId, observation.evidence.receivedSequence.getD 0⟩]
        segments := run.segments
        stretches := stretches
        samples :=
          if counted then
            run.samples ++
              [{ segment := run.segments
                 stretch := stretches
                 origin := origin
                 measuredAt := now
                 slot := (now - origin) / nanosPerSecond
                 added := added
                 batchId := observation.evidence.batchId
                 sequence := observation.evidence.receivedSequence.getD 0 }]
          else run.samples }

def step (run : JitterRun F) : JitterEvent F validTime → JitterRun F
  | .start id now route => run.start id now route
  | .stop => { run with accumulator := run.accumulator.stop, watched := none }
  | .routeChanged route now =>
      { run with accumulator := run.accumulator.routeChanged route now }
  | .observe observation => run.observe observation

end JitterRun

def stretchTime (samples : List JitterSample) (stretch : Nat) : Nat :=
  ((samples.filter fun sample => sample.stretch = stretch).map fun sample => sample.added).sum

structure SoundSamples (samples : List JitterSample) : Prop where
  slots : samples.Pairwise fun first second =>
    first.stretch = second.stretch → first.slot ≠ second.slot
  added : ∀ sample ∈ samples, sample.added ≤ 1000
  observed : ∀ before sample after, samples = before ++ sample :: after →
    stretchTime (before ++ [sample]) sample.stretch * nanosPerMilli ≤
      sample.measuredAt - sample.origin
  warm : ∀ sample ∈ samples, sample.origin + 60 * nanosPerSecond ≤ sample.measuredAt
  sequences : samples.Pairwise fun first second =>
    first.segment = second.segment → first.sequence ≠ second.sequence

def FreshBatches (samples : List JitterSample) : Prop :=
  samples.Pairwise fun first second =>
    first.segment = second.segment → first.batchId ≠ second.batchId

structure JitterRun.Sound (validTime : String → Bool) (run : JitterRun F) : Prop where
  buckets : ValidBuckets validTime run.accumulator.buckets
  samples : SoundSamples run.samples
  batches : FreshBatches run.samples

def JitterAccumulator.countedRoute (accumulator : JitterAccumulator F)
    (observation : JitterObservation F validTime) : Option RouteMode :=
  accumulator.segment.bind fun earlier =>
    let segment := earlier.entered observation
    let route := segment.sampleRoute observation
    observation.jitterMs.bind fun jitter =>
      if segment.refuses observation ||
          segment.lastSlot.any (fun previous => segment.slot observation.measuredAt ≤ previous) ||
          !sampleRoom accumulator.buckets route jitter then
        none
      else some route

def ComesAlone (batchId : String) (sequence : Nat) : List JitterCall → Prop
  | [] => True
  | call :: later =>
      (call.batchId = batchId → sequence ≤ call.sequence ∨
        ∀ other ∈ later, other.batchId = batchId) ∧ ComesAlone batchId sequence later

instance decidableComesAlone (batchId : String) (sequence : Nat) :
    ∀ calls, Decidable (ComesAlone batchId sequence calls)
  | [] => .isTrue trivial
  | _ :: later =>
      @instDecidableAnd _ _ inferInstance (decidableComesAlone batchId sequence later)

/-- No batch comes again in its segment with a later sequence after another batch. -/
def JitterRun.Ordered (run : JitterRun F) : JitterEvent F validTime → Prop
  | .observe observation =>
      run.watched.isSome → ComesAlone observation.evidence.batchId
        (observation.evidence.receivedSequence.getD 0) run.calls
  | _ => True

instance decidableOrdered (run : JitterRun F) :
    ∀ event : JitterEvent F validTime, Decidable (run.Ordered event)
  | .observe _ => inferInstanceAs (Decidable (_ → ComesAlone _ _ _))
  | .start _ _ _ | .stop | .routeChanged _ _ => .isTrue trivial

/-- A measurement that is to be counted meets no clash of its buckets. -/
def JitterRun.Clear (run : JitterRun F) : JitterEvent F validTime → Prop
  | .observe observation => ∀ route, run.accumulator.countedRoute observation = some route →
      ¬ Clashes run.accumulator.buckets route
  | _ => True

instance (buckets : List (JitterBucket F)) (route : RouteMode) :
    Decidable (Clashes buckets route) :=
  inferInstanceAs (Decidable ((∀ _ ∈ _, _) ∧ ∃ _ ∈ _, _))

instance decidableClear (run : JitterRun F) :
    ∀ event : JitterEvent F validTime, Decidable (run.Clear event)
  | .observe observation =>
      match counted : run.accumulator.countedRoute observation with
      | none => .isTrue (by simp [JitterRun.Clear, counted])
      | some route => decidable_of_iff (¬ Clashes run.accumulator.buckets route)
          (by simp [JitterRun.Clear, counted])
  | .start _ _ _ | .stop | .routeChanged _ _ => .isTrue trivial

theorem seen_pauses (segment : Segment) (now : Nat) :
    segment.seen now =
      { segment with
        started := if pauses segment.lastSeen now then now else segment.started
        routeSince := if pauses segment.lastSeen now then now else segment.routeSince
        lastObservation := if pauses segment.lastSeen now then none else segment.lastObservation
        lastSlot := if pauses segment.lastSeen now then none else segment.lastSlot
        lastSeen := some now } := by
  have same : (segment.lastSeen.any fun previous =>
      (elapsed now previous).all fun duration => 3 * nanosPerSecond < duration) =
      pauses segment.lastSeen now := by
    cases segment.lastSeen with
    | none => rfl
    | some previous =>
        simp only [pauses, Option.any_some, elapsed]
        split_ifs with later
        · simp only [Option.all_some]
          rw [Bool.eq_iff_iff]
          simp only [decide_eq_true_eq, Bool.or_eq_true]
          omega
        · simp only [Option.all_none]
          rw [eq_comm, Bool.or_eq_true]
          exact Or.inl (by simpa using later)
  rw [Segment.seen, same]
  cases pauses segment.lastSeen now <;> rfl

omit [FiniteDouble F] in
theorem entered_eq (segment : Segment) (observation : JitterObservation F validTime) :
    (segment.entered observation).id = segment.id ∧
      (segment.entered observation).started =
        (if pauses segment.lastSeen observation.measuredAt then observation.measuredAt
          else segment.started) ∧
      (segment.entered observation).lastSeen = some observation.measuredAt ∧
      (segment.entered observation).lastSlot =
        (if pauses segment.lastSeen observation.measuredAt then none else segment.lastSlot) ∧
      (segment.entered observation).lastObservation =
        (if pauses segment.lastSeen observation.measuredAt then none
          else segment.lastObservation) ∧
      (segment.entered observation).lastReceivedSequence = segment.lastReceivedSequence ∧
      (segment.entered observation).lastBatch = segment.lastBatch := by
  have kept : ∀ (other : Segment) (route : RouteMode) (now : Nat),
      (other.routeChanged route now).id = other.id ∧
        (other.routeChanged route now).started = other.started ∧
        (other.routeChanged route now).lastSeen = other.lastSeen ∧
        (other.routeChanged route now).lastSlot = other.lastSlot ∧
        (other.routeChanged route now).lastObservation = other.lastObservation ∧
        (other.routeChanged route now).lastReceivedSequence = other.lastReceivedSequence ∧
        (other.routeChanged route now).lastBatch = other.lastBatch := by
    intro other route now
    rw [Segment.routeChanged]
    split <;> exact ⟨rfl, rfl, rfl, rfl, rfl, rfl, rfl⟩
  have entered := kept (segment.seen observation.measuredAt) observation.route
    observation.measuredAt
  rw [seen_pauses] at entered
  rw [Segment.entered, seen_pauses]
  exact entered

variable {samples : List JitterSample} {observation : JitterObservation F validTime}
  {segment : Segment} {run : JitterRun F}

theorem observe_cases {accumulator : JitterAccumulator F}
    (valid : ValidBuckets validTime accumulator.buckets)
    (measuring : accumulator.segment = some segment) (observation : JitterObservation F validTime) :
    (accumulator.countedRoute observation = none ∧
        accumulator.observe observation =
          (⟨accumulator.buckets, some (segment.entered observation)⟩, false)) ∨
      ∃ buckets route, accumulator.countedRoute observation = some route ∧
        accumulator.observe observation =
          (⟨buckets, some ((segment.entered observation).counted observation)⟩, true) ∧
        (segment.entered observation).refuses observation = false ∧
        ((segment.entered observation).lastSlot.all fun previous =>
          previous < (segment.entered observation).slot observation.measuredAt) = true ∧
        (ValidBuckets validTime buckets ↔ ¬ Clashes accumulator.buckets route) := by
  rw [JitterAccumulator.countedRoute, JitterAccumulator.observe, measuring]
  simp only [Option.bind_some]
  cases measured : observation.jitterMs with
  | none => exact Or.inl ⟨rfl, rfl⟩
  | some jitter =>
      simp only [Option.bind_some]
      cases refused : (segment.entered observation).refuses observation with
      | true => exact Or.inl ⟨by simp, by simp⟩
      | false =>
          cases late : (segment.entered observation).lastSlot.any fun previous =>
              (segment.entered observation).slot observation.measuredAt ≤ previous with
          | true => exact Or.inl ⟨by simp, by simp⟩
          | false =>
              simp only [Bool.or_false, Bool.false_or, Bool.false_eq_true, if_false]
              cases free : sampleRoom accumulator.buckets
                  ((segment.entered observation).sampleRoute observation) jitter with
              | false =>
                  refine Or.inl ⟨by simp, ?_⟩
                  rw [addSample_full free]
              | true =>
                  have nonneg : FiniteDouble.zero ≤ jitter := by
                    simp only [Segment.refuses, measured, Bool.or_eq_false_iff] at refused
                    simpa using refused.1.1.1.1.1.1.1.1.1
                  obtain ⟨counted, result, validity⟩ := addSample_room valid nonneg free
                    ((segment.entered observation).coverage observation.measuredAt)
                    observation.observedAt.2
                  refine Or.inr ⟨counted, _, by simp, by rw [result], trivial, ?_, validity⟩
                  cases last : (segment.entered observation).lastSlot with
                  | none => rfl
                  | some previous =>
                      rw [last] at late
                      simpa using late

structure Linked (samples : List JitterSample) (segments stretches : Nat) (watched : Watched)
    (segment : Segment) : Prop where
  id : segment.id = watched.id
  started : segment.started = watched.origin
  seen : segment.lastSeen = watched.previous
  slots : ∀ sample ∈ samples, sample.stretch = stretches →
    ∃ slot, segment.lastSlot = some slot ∧ sample.slot ≤ slot
  observed : stretchTime samples stretches * nanosPerMilli ≤
    segment.lastObservation.getD 0 - watched.origin
  times : ∀ last, segment.lastObservation = some last →
    watched.origin ≤ last ∧ ∃ seen, segment.lastSeen = some seen ∧ last ≤ seen
  sequences : ∀ sample ∈ samples, sample.segment = segments →
    ∃ old, segment.lastReceivedSequence = some old ∧ sample.sequence ≤ old

/-- Each sample of the segment was a call; where no other batch came after it, its batch is the
last one that the segment remembers. -/
def Remembered (calls : List JitterCall) (samples : List JitterSample) (segments : Nat)
    (lastBatch : Option String) : Prop :=
  ∀ sample ∈ samples, sample.segment = segments →
    ∃ before after, calls = before ++ ⟨sample.batchId, sample.sequence⟩ :: after ∧
      ((∀ other ∈ after, other.batchId = sample.batchId) → lastBatch = some sample.batchId)

structure Tracked (run : JitterRun F) : Prop where
  segments : ∀ sample ∈ run.samples, sample.segment ≤ run.segments
  stretches : ∀ sample ∈ run.samples, sample.stretch ≤ run.stretches
  linked : match run.watched, run.accumulator.segment with
    | none, none => True
    | some watched, some segment =>
        Linked run.samples run.segments run.stretches watched segment ∧
          Remembered run.calls run.samples run.segments segment.lastBatch
    | _, _ => False

omit [FiniteDouble F] in
theorem Tracked.cases {run : JitterRun F} (tracked : Tracked run) :
    (run.watched = none ∧ run.accumulator.segment = none) ∨
    ∃ watched segment, run.watched = some watched ∧ run.accumulator.segment = some segment ∧
      Linked run.samples run.segments run.stretches watched segment ∧
      Remembered run.calls run.samples run.segments segment.lastBatch := by
  have linked := tracked.linked
  cases watching : run.watched with
  | none =>
      cases measuring : run.accumulator.segment with
      | none => exact Or.inl ⟨rfl, rfl⟩
      | some segment => simp [watching, measuring] at linked
  | some watched =>
      cases measuring : run.accumulator.segment with
      | none => simp [watching, measuring] at linked
      | some segment =>
          rw [watching, measuring] at linked
          exact Or.inr ⟨watched, segment, rfl, rfl, linked⟩

theorem stretchTime_fresh {stretch : Nat} (older : ∀ sample ∈ samples, sample.stretch < stretch) :
    stretchTime samples stretch = 0 := by
  have none_left : (samples.filter fun sample => sample.stretch = stretch) = [] := by
    rw [List.filter_eq_nil_iff]
    intro sample member same
    have less := older sample member
    simp only [decide_eq_true_eq] at same
    omega
  rw [stretchTime, none_left]
  rfl

theorem stretchTime_snoc (samples : List JitterSample) (sample : JitterSample) :
    stretchTime (samples ++ [sample]) sample.stretch =
      stretchTime samples sample.stretch + sample.added := by
  simp [stretchTime]

theorem SoundSamples.snoc (sound : SoundSamples samples) {sample : JitterSample}
    (slots : ∀ other ∈ samples, other.stretch = sample.stretch → other.slot < sample.slot)
    (added : sample.added ≤ 1000)
    (observed : (stretchTime samples sample.stretch + sample.added) * nanosPerMilli ≤
      sample.measuredAt - sample.origin)
    (warm : sample.origin + 60 * nanosPerSecond ≤ sample.measuredAt)
    (sequences : ∀ other ∈ samples, other.segment = sample.segment →
      other.sequence < sample.sequence) : SoundSamples (samples ++ [sample]) := by
  constructor
  · rw [List.pairwise_append]
    refine ⟨sound.slots, List.pairwise_singleton _ _, ?_⟩
    intro first member second last same
    rw [List.mem_singleton.mp last] at same ⊢
    exact Nat.ne_of_lt (slots first member same)
  · rw [List.forall_mem_append]
    exact ⟨sound.added, by simpa using added⟩
  · intro before one after split
    rcases List.eq_nil_or_concat after with none_after | ⟨init, last, some_after⟩
    · subst none_after
      obtain ⟨same, one_eq⟩ := List.append_inj' split rfl
      rw [← (List.cons.inj one_eq).1, ← same, stretchTime_snoc]
      exact observed
    · subst some_after
      rw [List.concat_eq_append, ← List.cons_append, ← List.append_assoc] at split
      exact sound.observed before one init (List.append_inj' split rfl).1
  · rw [List.forall_mem_append]
    exact ⟨sound.warm, by simpa using warm⟩
  · rw [List.pairwise_append]
    refine ⟨sound.sequences, List.pairwise_singleton _ _, ?_⟩
    intro first member second last same
    rw [List.mem_singleton.mp last] at same ⊢
    exact Nat.ne_of_lt (sequences first member same)

theorem coverage_passed (segment : Segment) (now : Nat) :
    segment.coverage now ≤ 1000 ∧
      ∀ last, segment.lastObservation = some last → last ≤ now →
        segment.coverage now * nanosPerMilli ≤ now - last := by
  have bounded : segment.coverage now ≤ 1000 := by
    rw [Segment.coverage]
    split
    · exact Nat.min_le_right _ _
    · exact Nat.le_refl _
  refine ⟨bounded, ?_⟩
  intro last observed before
  rw [Segment.coverage, observed, Option.bind_some, elapsed, if_pos before]
  by_cases short : now - last ≤ 3 * nanosPerSecond
  · simp only [Option.filter_some, short, decide_true, if_true]
    have least : min ((now - last) / nanosPerMilli) 1000 ≤ (now - last) / nanosPerMilli :=
      Nat.min_le_left _ _
    exact (Nat.mul_le_mul_right nanosPerMilli least).trans (Nat.div_mul_le_self _ _)
  · simp only [Option.filter_some, short, decide_false, Bool.false_eq_true, if_false]
    simp only [nanosPerMilli, nanosPerSecond] at *
    omega

omit [FiniteDouble F] in
theorem Linked.entered {segments stretches : Nat} {watched : Watched}
    (linked : Linked samples segments stretches watched segment)
    (older : ∀ sample ∈ samples, sample.stretch ≤ stretches)
    (observation : JitterObservation F validTime) :
    Linked samples segments
      (if pauses watched.previous observation.measuredAt then stretches + 1 else stretches)
      { watched with
        origin :=
          if pauses watched.previous observation.measuredAt then observation.measuredAt
          else watched.origin
        previous := some observation.measuredAt }
      (segment.entered observation) := by
  obtain ⟨id, started, seen, slot, observed, sequence, -⟩ := entered_eq segment observation
  rw [linked.seen] at started slot observed
  cases paused : pauses watched.previous observation.measuredAt with
  | true =>
      rw [paused, if_pos rfl] at started slot observed
      have fresh : ∀ sample ∈ samples, sample.stretch < stretches + 1 :=
        fun sample member => Nat.lt_succ_of_le (older sample member)
      constructor
      · exact id.trans linked.id
      · exact started
      · exact seen
      · intro sample member same
        rw [if_pos rfl] at same
        exact absurd same (Nat.ne_of_lt (fresh sample member))
      · rw [if_pos rfl, stretchTime_fresh fresh, Nat.zero_mul]
        exact Nat.zero_le _
      · intro last none_observed
        rw [observed] at none_observed
        simp at none_observed
      · rw [sequence]
        exact linked.sequences
  | false =>
      rw [paused, if_neg (by simp)] at started slot observed
      constructor
      · exact id.trans linked.id
      · exact started.trans linked.started
      · exact seen
      · rw [slot]
        exact linked.slots
      · rw [observed]
        exact linked.observed
      · intro last lastObserved
        rw [observed] at lastObserved
        obtain ⟨began, before, lastSeen, late⟩ := linked.times last lastObserved
        refine ⟨began, _, seen, ?_⟩
        rw [linked.seen] at lastSeen
        rw [lastSeen, pauses, Option.any_some, Bool.or_eq_false_iff] at paused
        have order := of_decide_eq_false paused.1
        omega
      · rw [sequence]
        exact linked.sequences

theorem refuses_false (taken : segment.refuses observation = false) :
    segment.started + 60 * nanosPerSecond ≤ observation.measuredAt ∧
      segment.lastBatch ≠ some observation.evidence.batchId ∧
      ∃ new, observation.evidence.receivedSequence = some new ∧
        ∀ old, segment.lastReceivedSequence = some old → old < new := by
  simp only [Segment.refuses, Bool.or_eq_false_iff] at taken
  obtain ⟨⟨⟨⟨⟨-, warm⟩, -⟩, other⟩, numbered⟩, rising⟩ := taken
  refine ⟨?_, of_decide_eq_false other, ?_⟩
  · rw [elapsed] at warm
    split_ifs at warm with later
    · simp only [Option.all_some, decide_eq_false_iff_not] at warm
      omega
    · simp at warm
  · cases sequence : observation.evidence.receivedSequence with
    | none => simp [sequence] at numbered
    | some new =>
        refine ⟨new, rfl, ?_⟩
        intro old known
        simpa [known, sequence] using rising

theorem Linked.counted {segments stretches : Nat} {watched : Watched}
    (linked : Linked samples segments stretches watched segment)
    (now : watched.previous = some observation.measuredAt)
    (taken : segment.refuses observation = false)
    (later : (segment.lastSlot.all fun previous =>
      previous < segment.slot observation.measuredAt) = true) (sound : SoundSamples samples)
    {sample : JitterSample}
    (is : sample =
      { segment := segments
        stretch := stretches
        origin := watched.origin
        measuredAt := observation.measuredAt
        slot := (observation.measuredAt - watched.origin) / nanosPerSecond
        added := segment.coverage observation.measuredAt
        batchId := observation.evidence.batchId
        sequence := observation.evidence.receivedSequence.getD 0 }) :
    Linked (samples ++ [sample]) segments stretches watched (segment.counted observation) ∧
      SoundSamples (samples ++ [sample]) := by
  subst is
  obtain ⟨warm, -, new, sequence, rising⟩ := refuses_false taken
  obtain ⟨bounded, passed⟩ := coverage_passed segment observation.measuredAt
  rw [linked.started] at warm
  have slot_eq : segment.slot observation.measuredAt =
      (observation.measuredAt - watched.origin) / nanosPerSecond := by
    rw [Segment.slot, linked.started, Nat.div_div_eq_div_mul]
    rfl
  have slots : ∀ other ∈ samples, other.stretch = stretches →
      other.slot < (observation.measuredAt - watched.origin) / nanosPerSecond := by
    intro other member same
    obtain ⟨slot, last, before⟩ := linked.slots other member same
    rw [last, Option.all_some, decide_eq_true_eq, slot_eq] at later
    exact lt_of_le_of_lt before later
  have sequences : ∀ other ∈ samples, other.segment = segments →
      other.sequence < observation.evidence.receivedSequence.getD 0 := by
    intro other member same
    obtain ⟨old, known, before⟩ := linked.sequences other member same
    rw [sequence, Option.getD_some]
    exact lt_of_le_of_lt before (rising old known)
  have observed : (stretchTime samples stretches + segment.coverage observation.measuredAt) *
      nanosPerMilli ≤ observation.measuredAt - watched.origin := by
    have before := linked.observed
    rw [Nat.add_mul]
    cases last : segment.lastObservation with
    | none =>
        rw [last, Option.getD_none] at before
        have first : segment.coverage observation.measuredAt * nanosPerMilli ≤
            1000 * nanosPerMilli := Nat.mul_le_mul_right _ bounded
        have second : 1000 * nanosPerMilli = nanosPerSecond := rfl
        omega
    | some earlier =>
        obtain ⟨began, seen, lastSeen, order⟩ := linked.times earlier last
        rw [linked.seen, now, Option.some.injEq] at lastSeen
        have more := passed earlier last (by omega)
        rw [last, Option.getD_some] at before
        omega
  constructor
  · constructor
    · exact linked.id
    · exact linked.started
    · exact linked.seen
    · intro other member same
      refine ⟨_, rfl, ?_⟩
      rw [slot_eq]
      rcases List.mem_append.mp member with old | last
      · exact Nat.le_of_lt (slots other old same)
      · rw [List.mem_singleton.mp last]
    · exact (Nat.mul_le_mul_right _ (Nat.le_of_eq (stretchTime_snoc samples _))).trans observed
    · intro last same
      rw [← Option.some.inj same]
      refine ⟨by omega, _, linked.seen.trans now, Nat.le_refl _⟩
    · intro other member same
      refine ⟨new, sequence, ?_⟩
      rcases List.mem_append.mp member with old | last
      · have less := sequences other old same
        rw [sequence, Option.getD_some] at less
        exact Nat.le_of_lt less
      · rw [List.mem_singleton.mp last, sequence]
        exact Nat.le_refl _
  · exact sound.snoc slots bounded observed warm sequences

theorem freshBatches_snoc (fresh : FreshBatches samples) (sample : JitterSample) :
    FreshBatches (samples ++ [sample]) ↔ ∀ other ∈ samples, other.segment = sample.segment →
      other.batchId ≠ sample.batchId := by
  rw [FreshBatches, List.pairwise_append]
  constructor
  · rintro ⟨-, -, apart⟩ other member same
    exact apart other member sample (List.mem_singleton.mpr rfl) same
  · intro apart
    refine ⟨fresh, List.pairwise_singleton _ _, ?_⟩
    intro other member last inLast same
    rw [List.mem_singleton.mp inLast] at same ⊢
    exact apart other member same

theorem ComesAlone.of_split {batchId : String} {sequence : Nat} {call : JitterCall}
    {before after : List JitterCall}
    (alone : ComesAlone batchId sequence (before ++ call :: after)) (same : call.batchId = batchId) :
    sequence ≤ call.sequence ∨ ∀ other ∈ after, other.batchId = batchId := by
  induction before with
  | nil => exact alone.1 same
  | cons first rest ih => exact ih alone.2

theorem Remembered.call {calls : List JitterCall} {samples : List JitterSample} {segments : Nat}
    {lastBatch : Option String} (remembered : Remembered calls samples segments lastBatch)
    (call : JitterCall) : Remembered (calls ++ [call]) samples segments lastBatch := by
  intro sample member same
  obtain ⟨before, after, split, last⟩ := remembered sample member same
  refine ⟨before, after ++ [call], by rw [split, List.append_assoc, List.cons_append], ?_⟩
  intro alone
  exact last fun other earlier => alone other (List.mem_append_left _ earlier)

theorem Remembered.counted {calls : List JitterCall} {segments : Nat} {lastBatch : Option String}
    (remembered : Remembered calls samples segments lastBatch) (sample : JitterSample) :
    Remembered (calls ++ [⟨sample.batchId, sample.sequence⟩]) (samples ++ [sample]) segments
      (some sample.batchId) := by
  intro other member same
  rcases List.mem_append.mp member with old | new
  · obtain ⟨before, after, split, -⟩ := remembered other old same
    refine ⟨before, after ++ [⟨sample.batchId, sample.sequence⟩],
      by rw [split, List.append_assoc, List.cons_append], ?_⟩
    intro alone
    exact congrArg some (alone _ (List.mem_append_right _ (List.mem_singleton.mpr rfl)))
  · rw [List.mem_singleton.mp new]
    exact ⟨calls, [], rfl, fun _ => rfl⟩

/-- A batch that comes alone and is not refused was not counted in the segment before: the last
one is refused, and so is one whose sequence is not later. -/
theorem fresh_of_comesAlone {watched : Watched}
    (linked : Linked run.samples run.segments run.stretches watched segment)
    (remembered : Remembered run.calls run.samples run.segments segment.lastBatch)
    (alone : ComesAlone observation.evidence.batchId
      (observation.evidence.receivedSequence.getD 0) run.calls)
    (taken : (segment.entered observation).refuses observation = false) :
    ∀ sample ∈ run.samples, sample.segment = run.segments →
      sample.batchId ≠ observation.evidence.batchId := by
  intro sample member same repeated
  obtain ⟨-, -, -, -, -, sequences, batch⟩ := entered_eq segment observation
  obtain ⟨-, other, new, sequence, rising⟩ := refuses_false taken
  rw [batch] at other
  rw [sequences] at rising
  obtain ⟨before, after, split, last⟩ := remembered sample member same
  rw [split, sequence, Option.getD_some] at alone
  rcases alone.of_split repeated with earlier | quiet
  · obtain ⟨old, known, before⟩ := linked.sequences sample member same
    have later := rising old known
    dsimp only at earlier
    omega
  · rw [← repeated] at other quiet
    exact other (last quiet)

theorem observe_tracked (tracked : Tracked run) (sound : run.Sound validTime)
    (observation : JitterObservation F validTime) (ordered : run.Ordered (.observe observation)) :
    Tracked (run.observe observation) ∧
      ((run.observe observation).Sound validTime ↔ run.Clear (.observe observation)) := by
  rcases tracked.cases with
    ⟨watching, measuring⟩ | ⟨watched, segment, watching, measuring, linked, remembered⟩
  · have unchanged : run.observe observation = run := by
      simp only [JitterRun.observe, JitterAccumulator.observe, watching, measuring]
      rw [← watching]
    rw [unchanged]
    refine ⟨tracked, iff_of_true sound ?_⟩
    intro route counted
    simp [JitterAccumulator.countedRoute, measuring] at counted
  · have alone := ordered (watching ▸ rfl)
    have entered := linked.entered tracked.stretches observation
    have batch : (segment.entered observation).lastBatch = segment.lastBatch := by
      obtain ⟨-, -, -, -, -, -, batch⟩ := entered_eq segment observation
      exact batch
    have started : ∀ sample ∈ run.samples, sample.stretch ≤
        if pauses watched.previous observation.measuredAt then run.stretches + 1
        else run.stretches := by
      intro sample member
      have older := tracked.stretches sample member
      split_ifs <;> omega
    rcases observe_cases sound.buckets measuring observation with
      ⟨uncounted, result⟩ | ⟨buckets, route, counted, result, taken, later, validity⟩
    · rw [JitterRun.observe, result, watching]
      refine ⟨⟨tracked.segments, started, entered, ?_⟩,
        iff_of_true ⟨sound.buckets, sound.samples, sound.batches⟩ ?_⟩
      · rw [batch]
        exact remembered.call _
      · intro route counted
        rw [uncounted] at counted
        simp at counted
    · obtain ⟨after, samples⟩ := entered.counted rfl taken later sound.samples rfl
      have fresh := fresh_of_comesAlone linked remembered alone taken
      rw [JitterRun.observe, result, watching, measuring]
      refine ⟨⟨?_, ?_, after, remembered.counted _⟩, ?_⟩
      · exact List.forall_mem_append.mpr ⟨tracked.segments, by simp⟩
      · exact List.forall_mem_append.mpr ⟨started, by simp⟩
      · constructor
        · intro holds other same
          rw [counted, Option.some.injEq] at same
          rw [← same]
          exact validity.mp holds.buckets
        · intro clear
          exact ⟨validity.mpr (clear route counted), samples,
            (freshBatches_snoc sound.batches _).mpr fresh⟩

omit [FiniteDouble F] in
theorem start_tracked (tracked : Tracked run) (id : String) (now : Nat) (route : RouteMode) :
    Tracked (run.start id now route) := by
  have opens : Tracked ({ run with
      accumulator :=
        { run.accumulator with
          segment := some { id := id, started := now, route := route, routeSince := now } }
      watched := some { id := id, origin := now }
      calls := []
      segments := run.segments + 1
      stretches := run.stretches + 1 } : JitterRun F) := by
    have older : ∀ sample ∈ run.samples, sample.stretch < run.stretches + 1 :=
      fun sample member => Nat.lt_succ_of_le (tracked.stretches sample member)
    refine ⟨fun sample member => Nat.le_succ_of_le (tracked.segments sample member),
      fun sample member => Nat.le_succ_of_le (tracked.stretches sample member), ?_, ?_⟩
    constructor
    · rfl
    · rfl
    · rfl
    · intro sample member same
      exact absurd same (Nat.ne_of_lt (older sample member))
    · rw [stretchTime_fresh older, Nat.zero_mul]
      exact Nat.zero_le _
    · intro last observed
      simp at observed
    · intro sample member same
      exact absurd same (Nat.ne_of_lt (Nat.lt_succ_of_le (tracked.segments sample member)))
    · intro sample member same
      exact absurd same (Nat.ne_of_lt (Nat.lt_succ_of_le (tracked.segments sample member)))
  rw [JitterRun.start, JitterAccumulator.start]
  rcases tracked.cases with
    ⟨watching, measuring⟩ | ⟨watched, segment, watching, measuring, linked, _⟩
  · rw [watching, measuring]
    exact opens
  · rw [watching, measuring]
    simp only [Option.any_some, linked.id]
    by_cases same : watched.id = id
    · rw [if_pos (decide_eq_true same), if_pos (decide_eq_true same), ← watching]
      exact tracked
    · rw [if_neg (by simpa using same), if_neg (by simpa using same)]
      exact opens

omit [FiniteDouble F] in
theorem routeChanged_tracked (tracked : Tracked run) (route : RouteMode) (now : Nat) :
    Tracked { run with accumulator := run.accumulator.routeChanged route now } := by
  refine ⟨tracked.segments, tracked.stretches, ?_⟩
  rcases tracked.cases with
    ⟨watching, measuring⟩ | ⟨watched, segment, watching, measuring, linked, remembered⟩
  · simp [JitterAccumulator.routeChanged, watching, measuring]
  · simp only [JitterAccumulator.routeChanged, watching, measuring, Option.map_some]
    rw [Segment.routeChanged]
    split
    · exact ⟨⟨linked.id, linked.started, linked.seen, linked.slots, linked.observed,
        linked.times, linked.sequences⟩, remembered⟩
    · exact ⟨linked, remembered⟩

theorem step_tracked (tracked : Tracked run) (sound : run.Sound validTime)
    (event : JitterEvent F validTime) (ordered : run.Ordered event) :
    Tracked (run.step event) ∧ ((run.step event).Sound validTime ↔ run.Clear event) := by
  cases event with
  | start id now route =>
      refine ⟨start_tracked tracked id now route, iff_of_true ?_ trivial⟩
      simp only [JitterRun.step, JitterRun.start, JitterAccumulator.start]
      split_ifs <;> exact ⟨sound.buckets, sound.samples, sound.batches⟩
  | stop =>
      exact ⟨⟨tracked.segments, tracked.stretches, trivial⟩,
        iff_of_true ⟨sound.buckets, sound.samples, sound.batches⟩ trivial⟩
  | routeChanged route now =>
      exact ⟨routeChanged_tracked tracked route now,
        iff_of_true ⟨sound.buckets, sound.samples, sound.batches⟩ trivial⟩
  | observe observation => exact observe_tracked tracked sound observation ordered

/-- From valid buckets, in calls where no batch comes again in its segment after another one with
a later sequence, the buckets stay valid and the samples sound exactly as long as no measurement
that is counted opens a bucket with the key of another. -/
theorem jitter_samples_sound_iff
    (buckets : {buckets : List (JitterBucket F) // ValidBuckets validTime buckets})
    (events : List (JitterEvent F validTime))
    (ordered : Along JitterRun.step JitterRun.Ordered { accumulator := .restore buckets.1 } events) :
    Throughout JitterRun.step (JitterRun.Sound validTime)
        { accumulator := .restore buckets.1 } events ↔
      Along JitterRun.step JitterRun.Clear { accumulator := .restore buckets.1 } events := by
  refine throughout_iff_along_of_along ?_
    (fun run (held : Tracked run ∧ run.Sound validTime) => held.2) ?_ ?_ ordered
  · intro run event held ordered met
    obtain ⟨tracked, sound⟩ := step_tracked held.1 held.2 event ordered
    exact ⟨tracked, sound.mpr met⟩
  · intro run event held ordered violated sound
    exact violated ((step_tracked held.1 held.2 event ordered).2.mp sound)
  · refine ⟨⟨by simp, by simp, trivial⟩, buckets.2, ?_, by simp [FreshBatches]⟩
    exact ⟨by simp, by simp, by simp, by simp, by simp⟩

namespace RepeatedBatch

/-- Whole milliseconds, which doubles add up exactly. -/
scoped instance wholeMillis : FiniteDouble Nat where
  zero := 0
  seven := 7
  fifteen := 15
  add first second := some (first + second)
  zero_le_seven := Nat.zero_le 7
  seven_le_fifteen := by decide
  zero_add value := by rw [Nat.zero_add]
  add_nonneg _ _ _ := Nat.zero_le _

def anyTime (_ : String) : Bool := true

def measured (batchId : String) (sequence seconds : Nat) : JitterEvent Nat anyTime :=
  .observe
    { evidence :=
        { batchId := batchId
          receivedSequence := some sequence
          receivedRttCount := 60
          continuousWindowMs := 60000
          latestReceivedAgeMs := some 0
          metricVersion := metricVersion }
      jitterMs := some 4
      measuredAt := seconds * nanosPerSecond
      receivedAt := seconds * nanosPerSecond
      observedAt := ⟨"2026-01-01T00:00:00.000Z", rfl⟩
      route := .direct }

def repeated : List (JitterEvent Nat anyTime) :=
  [.start "monitor" 0 .direct, measured "a" 1 60, measured "b" 2 61, measured "a" 3 62]

def settled : List (JitterEvent Nat anyTime) :=
  [.start "monitor" 0 .direct, measured "a" 1 60, measured "a" 2 61, measured "b" 3 62,
    measured "a" 1 63]

def otherThresholds : JitterBucket Nat :=
  { JitterBucket.opened .direct 4 "2026-01-01T00:00:00.000Z" with
    sampleCount := 1
    highThresholdMs := 5
    severeThresholdMs := 9 }

end RepeatedBatch

open RepeatedBatch in
theorem jitter_samples_sound_settled :
    Throughout JitterRun.step (JitterRun.Sound anyTime) { accumulator := .restore [] } settled :=
  (jitter_samples_sound_iff ⟨[], by simp [ValidBuckets]⟩ settled (by decide)).mpr (by decide)

open RepeatedBatch in
/-- A batch is counted twice when another one was counted between, and a bucket is opened beside
one of the same key. -/
theorem jitter_samples_unsound :
    ((repeated.foldl JitterRun.step { accumulator := .restore [] }).samples.map
        fun sample => sample.batchId) = ["a", "b", "a"] ∧
      ¬ JitterRun.Sound anyTime (repeated.foldl JitterRun.step { accumulator := .restore [] }) ∧
      ValidBuckets anyTime [otherThresholds] ∧
      ¬ JitterRun.Sound anyTime ([.start "monitor" 0 .direct, measured "a" 1 60].foldl
        JitterRun.step { accumulator := .restore [otherThresholds] }) := by
  refine ⟨by decide, ?_, ?_, ?_⟩
  · intro sound
    have distinct : ((repeated.foldl JitterRun.step { accumulator := .restore [] }).samples.map
        fun sample => (sample.segment, sample.batchId)).Nodup := by
      rw [List.Nodup, List.pairwise_map]
      exact sound.batches.imp fun apart same =>
        apart (congrArg Prod.fst same) (congrArg Prod.snd same)
    exact absurd distinct (by decide)
  · refine ⟨by decide, ?_⟩
    intro bucket member
    rw [List.mem_singleton.mp member]
    refine ⟨by decide, ?_⟩
    constructor <;> decide
  · intro sound
    exact absurd sound.buckets.1 (by decide)

end Noland.Feedback
