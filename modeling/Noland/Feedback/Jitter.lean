import Mathlib.Order.Defs.LinearOrder
import Mathlib.Data.List.Nodup
import Mathlib.Data.String.Basic

/-!
An accumulator holds the buckets of a rental and the segment of the stream that is measured: a
sample counts when a whole window was measured before it and the agent has seen its batch.
Instants count nanoseconds; the times in a bucket are texts of the wall clock. The numbers of a
bucket are finite doubles, of which only the order and the sum matter; a measured jitter may be no
finite number.
-/

namespace Noland.Feedback

inductive RouteMode where
  | direct
  | relay
  | mixed
  deriving DecidableEq

def metricVersion : String := "rtt_jitter_ewma_window60_report1s_v1"

def thresholdVersion : String := "noland_jitter_bands_v1"

def maxBuckets : Nat := 32

/-- Finite doubles with the thresholds of the bands. A sum may overflow. -/
class FiniteDouble (F : Type) extends LinearOrder F where
  zero : F
  seven : F
  fifteen : F
  add : F → F → Option F
  zero_le_seven : zero ≤ seven
  seven_le_fifteen : seven ≤ fifteen
  zero_add : ∀ value, add zero value = some value
  add_nonneg : ∀ {first second sum}, zero ≤ first → zero ≤ second → add first second = some sum →
    zero ≤ sum

structure JitterBucket (F : Type) where
  metricVersion : String
  routeMode : RouteMode
  completeness : String
  nominalReportIntervalMs : Nat
  thresholdVersion : String
  highThresholdMs : F
  severeThresholdMs : F
  sampleCount : Nat
  sumMs : F
  minMs : F
  maxMs : F
  highSampleCount : Nat
  severeSampleCount : Nat
  observedDurationMs : Nat
  firstObservedAt : String
  lastObservedAt : String
  deriving DecidableEq

structure MeasurementEvidence where
  batchId : String
  receivedSequence : Option Nat
  receivedRttCount : Nat
  continuousWindowMs : Nat
  latestReceivedAgeMs : Option Nat
  metricVersion : String
  deriving DecidableEq

/-- A measurement. Its time of the wall clock is one that can be read back. -/
structure JitterObservation (F : Type) (validTime : String → Bool) where
  evidence : MeasurementEvidence
  jitterMs : Option F
  measuredAt : Nat
  receivedAt : Nat
  observedAt : {text : String // validTime text = true}
  route : RouteMode

variable {F : Type} [FiniteDouble F]

namespace JitterBucket

def measures (bucket : JitterBucket F) (route : RouteMode) : Bool :=
  bucket.routeMode = route && bucket.metricVersion = Feedback.metricVersion &&
    bucket.nominalReportIntervalMs = 1000 && bucket.completeness = "full_window" &&
    bucket.thresholdVersion = Feedback.thresholdVersion &&
    bucket.highThresholdMs = FiniteDouble.seven && bucket.severeThresholdMs = FiniteDouble.fifteen

def opened (route : RouteMode) (jitter : F) (observedAt : String) : JitterBucket F :=
  { metricVersion := Feedback.metricVersion
    routeMode := route
    completeness := "full_window"
    nominalReportIntervalMs := 1000
    thresholdVersion := Feedback.thresholdVersion
    highThresholdMs := FiniteDouble.seven
    severeThresholdMs := FiniteDouble.fifteen
    sampleCount := 0
    sumMs := FiniteDouble.zero
    minMs := jitter
    maxMs := jitter
    highSampleCount := 0
    severeSampleCount := 0
    observedDurationMs := 0
    firstObservedAt := observedAt
    lastObservedAt := observedAt }

def counted (bucket : JitterBucket F) (jitter sum : F) (coverage : Nat) (observedAt : String) :
    JitterBucket F :=
  { bucket with
    sampleCount := bucket.sampleCount + 1
    sumMs := sum
    minMs := min bucket.minMs jitter
    maxMs := max bucket.maxMs jitter
    highSampleCount := bucket.highSampleCount + if FiniteDouble.seven < jitter then 1 else 0
    severeSampleCount := bucket.severeSampleCount + if FiniteDouble.fifteen < jitter then 1 else 0
    observedDurationMs := (bucket.observedDurationMs + coverage) % 18446744073709551616
    -- the wall clock may have been set back
    lastObservedAt :=
      if bucket.lastObservedAt < observedAt then observedAt else bucket.lastObservedAt }

/-- One sample more, unless the sum overflows or the bucket is full. -/
def count (bucket : JitterBucket F) (jitter : F) (coverage : Nat) (observedAt : String) :
    Option (JitterBucket F) :=
  match FiniteDouble.add bucket.sumMs jitter with
  | none => none
  | some sum =>
      if 10000000 ≤ bucket.sampleCount then none
      else some (bucket.counted jitter sum coverage observedAt)

def keyText (metric : String) (interval : Nat) (route : RouteMode) (completeness : String)
    (threshold : String) : String :=
  let mode :=
    match route with
    | .direct => "Direct"
    | .relay => "Relay"
    | .mixed => "Mixed"
  metric ++ ":" ++ toString interval ++ ":" ++ mode ++ ":" ++ completeness ++ ":" ++ threshold

def key (bucket : JitterBucket F) : String :=
  keyText bucket.metricVersion bucket.nominalReportIntervalMs bucket.routeMode
    bucket.completeness bucket.thresholdVersion

def routeKey (route : RouteMode) : String :=
  keyText Feedback.metricVersion 1000 route "full_window" Feedback.thresholdVersion

/-- The checks of `valid_buckets` on a bucket, but for the one that it has a sample. -/
structure Sane (validTime : String → Bool) (bucket : JitterBucket F) : Prop where
  count : bucket.sampleCount ≤ 10000000
  sum : FiniteDouble.zero ≤ bucket.sumMs
  least : FiniteDouble.zero ≤ bucket.minMs
  greatest : FiniteDouble.zero ≤ bucket.maxMs
  highThreshold : FiniteDouble.zero ≤ bucket.highThresholdMs
  severeThreshold : FiniteDouble.zero ≤ bucket.severeThresholdMs
  range : bucket.minMs ≤ bucket.maxMs
  severe : bucket.severeSampleCount ≤ bucket.highSampleCount
  high : bucket.highSampleCount ≤ bucket.sampleCount
  thresholds : bucket.highThresholdMs ≤ bucket.severeThresholdMs
  first : validTime bucket.firstObservedAt = true
  last : validTime bucket.lastObservedAt = true

def Valid (validTime : String → Bool) (bucket : JitterBucket F) : Prop :=
  0 < bucket.sampleCount ∧ bucket.Sane validTime

end JitterBucket

/-- `valid_buckets` -/
def ValidBuckets (validTime : String → Bool) (buckets : List (JitterBucket F)) : Prop :=
  (buckets.map JitterBucket.key).Nodup ∧ ∀ bucket ∈ buckets, bucket.Valid validTime

def countAt (buckets : List (JitterBucket F)) (index : Nat) (jitter : F) (coverage : Nat)
    (observedAt : String) : List (JitterBucket F) × Bool :=
  match buckets[index]?.bind fun bucket => bucket.count jitter coverage observedAt with
  | some bucket => (buckets.set index bucket, true)
  | none => (buckets, false)

def addSample (buckets : List (JitterBucket F)) (route : RouteMode) (jitter : F)
    (coverage : Nat) (observedAt : String) : List (JitterBucket F) × Bool :=
  match buckets.findIdx? fun bucket => bucket.measures route with
  | some index => countAt buckets index jitter coverage observedAt
  | none =>
      if buckets.length < maxBuckets then
        countAt (buckets ++ [.opened route jitter observedAt]) buckets.length jitter coverage
          observedAt
      else (buckets, false)

def nanosPerSecond : Nat := 1000000000

def nanosPerMilli : Nat := 1000000

/-- `checked_duration_since`. -/
def elapsed (now earlier : Nat) : Option Nat := if earlier ≤ now then some (now - earlier) else none

structure Segment where
  id : String
  started : Nat
  route : RouteMode
  routeSince : Nat
  lastBatch : Option String := none
  lastReceivedSequence : Option Nat := none
  lastSlot : Option Nat := none
  lastObservation : Option Nat := none
  lastSeen : Option Nat := none
  deriving DecidableEq

variable {validTime : String → Bool}

namespace Segment

/-- A gap in the measurements starts the window again. -/
def seen (segment : Segment) (now : Nat) : Segment :=
  let gap := segment.lastSeen.any fun previous =>
    (elapsed now previous).all fun duration => 3 * nanosPerSecond < duration
  { (if gap then
      { segment with
        started := now
        routeSince := now
        lastObservation := none
        lastSlot := none }
    else segment) with lastSeen := some now }

def routeChanged (segment : Segment) (route : RouteMode) (now : Nat) : Segment :=
  if segment.route ≠ route then { segment with route := route, routeSince := now } else segment

def entered (segment : Segment) (observation : JitterObservation F validTime) : Segment :=
  (segment.seen observation.measuredAt).routeChanged observation.route observation.measuredAt

def refuses (segment : Segment) (observation : JitterObservation F validTime) : Bool :=
  let evidence := observation.evidence
  let now := observation.measuredAt
  observation.jitterMs.all (fun jitter => jitter < FiniteDouble.zero) ||
    evidence.metricVersion ≠ metricVersion || evidence.receivedRttCount < 2 ||
    evidence.latestReceivedAgeMs.all (fun age => 3000 < age) ||
    (elapsed observation.receivedAt now).all (fun age => 3 * nanosPerSecond < age) ||
    (elapsed now segment.started).all (fun age => age < 60 * nanosPerSecond) ||
    evidence.continuousWindowMs < 60000 || segment.lastBatch = some evidence.batchId ||
    evidence.receivedSequence.isNone ||
    segment.lastReceivedSequence.any fun old =>
      evidence.receivedSequence.any fun new => new ≤ old

def slot (segment : Segment) (now : Nat) : Nat := (now - segment.started) / nanosPerMilli / 1000

def coverage (segment : Segment) (now : Nat) : Nat :=
  match (segment.lastObservation.bind fun previous => elapsed now previous).filter
      fun duration => duration ≤ 3 * nanosPerSecond with
  | some duration => min (duration / nanosPerMilli) 1000
  | none => 1000

def sampleRoute (segment : Segment) (observation : JitterObservation F validTime) : RouteMode :=
  if (elapsed observation.measuredAt segment.routeSince).getD 0 < 60 * nanosPerSecond then .mixed
  else observation.route

def counted (segment : Segment) (observation : JitterObservation F validTime) : Segment :=
  { segment with
    lastBatch := some observation.evidence.batchId
    lastReceivedSequence := observation.evidence.receivedSequence
    lastSlot := some (segment.slot observation.measuredAt)
    lastObservation := some observation.measuredAt }

end Segment

structure JitterAccumulator (F : Type) where
  buckets : List (JitterBucket F) := []
  segment : Option Segment := none

namespace JitterAccumulator

def restore (buckets : List (JitterBucket F)) : JitterAccumulator F := { buckets := buckets }

def start (accumulator : JitterAccumulator F) (id : String) (now : Nat) (route : RouteMode) :
    JitterAccumulator F :=
  if accumulator.segment.any fun segment => segment.id = id then accumulator
  else
    { accumulator with
      segment := some { id := id, started := now, route := route, routeSince := now } }

def stop (accumulator : JitterAccumulator F) : JitterAccumulator F :=
  { accumulator with segment := none }

def routeChanged (accumulator : JitterAccumulator F) (route : RouteMode) (now : Nat) :
    JitterAccumulator F :=
  { accumulator with segment := accumulator.segment.map fun segment => segment.routeChanged route now }

def observe (accumulator : JitterAccumulator F) (observation : JitterObservation F validTime) :
    JitterAccumulator F × Bool :=
  match accumulator.segment with
  | none => (accumulator, false)
  | some earlier =>
      let now := observation.measuredAt
      let segment := earlier.entered observation
      let measured := { accumulator with segment := some segment }
      match observation.jitterMs with
      | none => (measured, false)
      | some jitter =>
          if segment.refuses observation ||
              segment.lastSlot.any fun previous => segment.slot now ≤ previous then
            (measured, false)
          else
            match addSample accumulator.buckets (segment.sampleRoute observation) jitter
                (segment.coverage now) observation.observedAt with
            | (buckets, true) => (⟨buckets, some (segment.counted observation)⟩, true)
            | (buckets, false) => ({ measured with buckets := buckets }, false)

end JitterAccumulator

end Noland.Feedback
