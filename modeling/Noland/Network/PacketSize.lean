import Mathlib.Algebra.Order.Ring.Nat
import Mathlib.Data.List.Basic
import Mathlib.Data.List.Sort

/-!
The controller of a stream starts from a size of the ladder under the cap that the MTU of the path
allows, and steps down while packets of the current size do not get through. The arithmetic on
round-trip times and on confidence is that of floating-point numbers; both types, and what is
computed with them, are parameters. Times are in milliseconds, those of the cache in seconds.
-/

namespace Noland.PacketSize

def packetSizeLadder : List Nat := [1392, 1280, 1152, 1088, 1024, 960]

def minPacketSize : Nat := 960

def evaluationInterval : Nat := 500

def validationCooldown : Nat := 5000

def stableSessionDuration : Nat := 30000

def upshiftProbeInterval : Nat := 7 * 24 * 60 * 60

def cacheTtl : Nat := 30 * 24 * 60 * 60

def cacheMaxEntries : Nat := 128

def maxWindowCounter : Nat := 1000000000

def u32Max : Nat := 2 ^ 32 - 1

structure Arithmetic (Baseline Confidence : Type) where
  grow : Option Baseline → Option Nat → Option Nat → Baseline
  congested : Baseline → Option Nat → Option Nat → Bool
  none : Confidence
  raise : Confidence → Confidence
  lower : Confidence → Confidence
  clamp : Confidence → Confidence
  doubtful : Confidence → Bool

structure Counts where
  videoPackets : Nat := 0
  fecPackets : Nat := 0
  fecRecoveries : Nat := 0
  fecFailures : Nat := 0
  outOfSequence : Nat := 0
  invalidPackets : Nat := 0
  invalidFecPackets : Nat := 0
  estimatedRttMs : Option Nat := none
  estimatedRttVarianceMs : Option Nat := none
  deriving DecidableEq

structure Observation where
  generation : Nat
  counts : Counts

def boundedAdd (left right : Nat) : Nat := min (left + right) maxWindowCounter

def Counts.add (sum observed : Counts) : Counts where
  videoPackets := boundedAdd sum.videoPackets observed.videoPackets
  fecPackets := boundedAdd sum.fecPackets observed.fecPackets
  fecRecoveries := boundedAdd sum.fecRecoveries observed.fecRecoveries
  fecFailures := boundedAdd sum.fecFailures observed.fecFailures
  outOfSequence := boundedAdd sum.outOfSequence observed.outOfSequence
  invalidPackets := boundedAdd sum.invalidPackets observed.invalidPackets
  invalidFecPackets := boundedAdd sum.invalidFecPackets observed.invalidFecPackets
  estimatedRttMs := observed.estimatedRttMs.or sum.estimatedRttMs
  estimatedRttVarianceMs := observed.estimatedRttVarianceMs.or sum.estimatedRttVarianceMs

def hasPacketSizeEvidence (window : Counts) : Bool :=
  decide (0 < window.fecFailures) || decide (0 < window.invalidFecPackets) ||
    decide (3 ≤ window.invalidPackets) ||
    (decide (0 < window.videoPackets) &&
      (decide (window.videoPackets ≤ window.invalidPackets * 1000) ||
        decide (window.videoPackets ≤ window.fecRecoveries * 100)))

def scoreWindow (streak : Nat) (window : Counts) : Nat × Nat :=
  let failures := if 0 < window.fecFailures then 3 else 0
  let invalidFec := if 0 < window.invalidFecPackets then 3 else 0
  let invalid :=
    if 0 < window.invalidPackets then
      if 3 ≤ window.invalidPackets ∨ max window.videoPackets 1 ≤ window.invalidPackets * 1000 then 3
      else 1
    else 0
  let streak :=
    if 0 < window.videoPackets ∧ window.videoPackets ≤ window.fecRecoveries * 100 then
      min (streak + 1) 2
    else 0
  let recovery := if 2 ≤ streak then 3 else 0
  (min (failures + invalidFec + invalid + recovery) 10, streak)

def decisionReason (window : Counts) (streak : Nat) : String :=
  ", ".intercalate
    ((if 0 < window.fecFailures then ["FEC failures"] else []) ++
      (if 0 < window.invalidFecPackets then ["invalid FEC packets"] else []) ++
      (if 0 < window.invalidPackets then ["invalid packets"] else []) ++
      (if 2 ≤ streak then ["sustained FEC recovery ratio"] else []))

inductive PathKind where
  | tunnel
  | localDirect
  | privateUnverified
  | remoteDirect
  | unknown
  deriving DecidableEq

def initialCandidate (kind : PathKind) (mtuHint : Option Nat) : Nat :=
  match kind, mtuHint with
  | .localDirect, some mtu =>
      if 1500 ≤ mtu then 1392 else if 1400 ≤ mtu then 1280 else if 1300 ≤ mtu then 1152
      else if 1280 ≤ mtu then 1024 else 960
  | .localDirect, none => 1024
  | .tunnel, some mtu =>
      if 1400 ≤ mtu then 1280 else if 1300 ≤ mtu then 1152 else if 1280 ≤ mtu then 1024 else 960
  | .tunnel, none => 1024
  | .privateUnverified, some mtu | .remoteDirect, some mtu => if mtu < 1280 then 960 else 1024
  | .privateUnverified, none | .remoteDirect, none => 1024
  | .unknown, _ => 1024

def normalizeCachedSize (size : Nat) : Nat :=
  (packetSizeLadder.find? fun candidate => candidate ≤ size).getD minPacketSize

def capCandidate (candidate cap : Nat) : Nat :=
  (packetSizeLadder.find? fun size => size ≤ candidate ∧ size ≤ cap).getD minPacketSize

def nextLowerCandidate (current : Nat) : Option Nat :=
  (packetSizeLadder.findIdx? (· = current)).bind fun index => packetSizeLadder[index + 1]?

def nextHigherCandidate (current : Nat) : Option Nat :=
  (packetSizeLadder.findIdx? (· = current)).bind fun index =>
    if index = 0 then none else packetSizeLadder[index - 1]?

structure CacheEntry (Confidence : Type) where
  fingerprint : String
  selectedSize : Nat
  lastGood : Option Nat
  lastBad : Option Nat
  confidence : Confidence
  successfulSessions : Nat
  updatedAt : Nat
  mtuHint : Option Nat
  lastUpshiftProbeAt : Option Nat

abbrev Cache (Confidence : Type) := List (CacheEntry Confidence)

def cacheIsFresh {Confidence : Type} (entry : CacheEntry Confidence) (now : Nat) : Bool :=
  decide (now < entry.updatedAt) || decide (now - entry.updatedAt ≤ cacheTtl)

def cacheOrder {Confidence : Type} (left right : CacheEntry Confidence) : Bool :=
  decide (right.updatedAt < left.updatedAt) ||
    (decide (left.updatedAt = right.updatedAt) && decide (left.fingerprint ≤ right.fingerprint))

def normalizeCache {Baseline Confidence : Type} (arithmetic : Arithmetic Baseline Confidence)
    (cache : Cache Confidence) (now : Nat) : Cache Confidence :=
  (((cache.filter fun entry => cacheIsFresh entry now).mergeSort cacheOrder).take
    cacheMaxEntries).map fun entry =>
      { entry with
        selectedSize := normalizeCachedSize entry.selectedSize
        lastGood := entry.lastGood.map normalizeCachedSize
        lastBad := entry.lastBad.map normalizeCachedSize
        confidence := arithmetic.clamp entry.confidence }

def updateEntry {Confidence : Type} (fingerprint : String)
    (change : CacheEntry Confidence → CacheEntry Confidence) : Cache Confidence → Cache Confidence
  | [] => []
  | entry :: rest =>
      if entry.fingerprint = fingerprint then change entry :: rest
      else entry :: updateEntry fingerprint change rest

def cachedSessionSelection {Baseline Confidence : Type}
    (arithmetic : Arithmetic Baseline Confidence) (selectedSize mtuCap : Nat)
    (entry : CacheEntry Confidence) (now : Nat) : Nat × Bool :=
  if arithmetic.doubtful entry.confidence ∨ entry.successfulSessions < 4 then (selectedSize, false)
  else if now - entry.lastUpshiftProbeAt.getD entry.updatedAt < upshiftProbeInterval then
    (selectedSize, false)
  else
    match nextHigherCandidate selectedSize with
    | none => (selectedSize, false)
    | some higher => if mtuCap < higher then (selectedSize, false) else (higher, true)

inductive ControllerState where
  | prepared
  | validating
  | monitoring
  | stable
  | downshiftPending
  deriving DecidableEq

/-- An enabled controller; a disabled one keeps its size whatever happens. -/
structure Controller (Baseline Confidence : Type) where
  selectedSize : Nat
  lastGood : Option Nat
  lastBad : Option Nat
  mtuHint : Option Nat
  fingerprint : String
  confidence : Confidence
  successfulSessions : Nat
  cache : Cache Confidence
  generation : Option Nat := none
  state : ControllerState := .prepared
  windowStartedAt : Option Nat := none
  lastObservedAt : Option Nat := none
  validationUntil : Option Nat := none
  stableSince : Option Nat := none
  stableRecordedGeneration : Option Nat := none
  accumulator : Counts := {}
  baseline : Option Baseline := none
  recoveryWindowStreak : Nat := 0
  badWindowCount : Nat := 0
  pendingTarget : Option Nat := none

structure Decision where
  before : Nat
  target : Nat
  score : Nat
  reason : String
  deriving DecidableEq

section Controller

variable {Baseline Confidence : Type} (arithmetic : Arithmetic Baseline Confidence)

/-- `prepare_with_path`, with the cache as it was loaded. -/
def prepareWithPath (loaded : Cache Confidence) (fingerprint : String) (candidateKind : PathKind)
    (mtuHint : Option Nat) (now : Nat) : Controller Baseline Confidence :=
  let mtuCap := initialCandidate candidateKind mtuHint
  let cache := normalizeCache arithmetic loaded now
  match cache.find? fun entry => entry.fingerprint = fingerprint with
  | none =>
      { selectedSize := mtuCap, lastGood := none, lastBad := none, mtuHint := mtuHint
        fingerprint := fingerprint, confidence := arithmetic.none, successfulSessions := 0
        cache := cache }
  | some entry =>
      let capped := capCandidate (normalizeCachedSize entry.selectedSize) mtuCap
      let (selectedSize, probes) := cachedSessionSelection arithmetic capped mtuCap entry now
      { selectedSize := selectedSize
        lastGood := entry.lastGood.map fun size => capCandidate (normalizeCachedSize size) mtuCap
        lastBad := entry.lastBad.map normalizeCachedSize
        mtuHint := mtuHint
        fingerprint := fingerprint
        confidence := arithmetic.clamp entry.confidence
        successfulSessions := entry.successfulSessions
        cache :=
          if probes then
            normalizeCache arithmetic
              (updateEntry fingerprint
                (fun entry => { entry with lastUpshiftProbeAt := some now }) cache) now
          else cache }

namespace Controller

variable (controller : Controller Baseline Confidence)

def onConnected (generation now : Nat) : Controller Baseline Confidence :=
  { controller with
    generation := some generation
    state := .validating
    windowStartedAt := some now
    lastObservedAt := some now
    validationUntil := some (now + validationCooldown)
    stableSince := some now
    stableRecordedGeneration := none
    accumulator := {}
    baseline := none
    recoveryWindowStreak := 0
    badWindowCount := 0
    pendingTarget := none }

def persisted (nowUnix : Nat) : Controller Baseline Confidence :=
  let entry (probed : Option Nat) : CacheEntry Confidence :=
    { fingerprint := controller.fingerprint
      selectedSize := controller.selectedSize
      lastGood := controller.lastGood
      lastBad := controller.lastBad
      confidence := controller.confidence
      successfulSessions := controller.successfulSessions
      updatedAt := nowUnix
      mtuHint := controller.mtuHint
      lastUpshiftProbeAt := probed }
  let known := controller.cache.any fun entry => entry.fingerprint = controller.fingerprint
  let entries :=
    if known then
      updateEntry controller.fingerprint (fun old => entry old.lastUpshiftProbeAt) controller.cache
    else controller.cache ++ [entry none]
  { controller with cache := normalizeCache arithmetic entries nowUnix }

def commitDownshift (target nowUnix : Nat) : Controller Baseline Confidence :=
  if target ∉ packetSizeLadder ∨ target < minPacketSize ∨ controller.selectedSize ≤ target then
    controller
  else
    let stepped : Controller Baseline Confidence :=
      { controller with
        lastBad := some controller.selectedSize
        selectedSize := target
        confidence := arithmetic.lower controller.confidence
        badWindowCount := 0
        recoveryWindowStreak := 0
        pendingTarget := none
        accumulator := {} }
    let timed : Controller Baseline Confidence :=
      match controller.lastObservedAt with
      | some now =>
          { stepped with
            validationUntil := some (now + validationCooldown)
            windowStartedAt := some now
            stableSince := some now
            state := .validating }
      | none => { stepped with state := .prepared }
    timed.persisted arithmetic nowUnix

def inValidationCooldown (now : Nat) : Bool :=
  controller.validationUntil.any fun limit => now < limit

def activeState (now : Nat) : ControllerState :=
  if controller.inValidationCooldown now then .validating else .monitoring

def settled (now : Nat) : Controller Baseline Confidence :=
  if controller.state = .stable then controller
  else { controller with state := controller.activeState now }

def updateRttBaseline (window : Counts) : Controller Baseline Confidence :=
  { controller with
    baseline := some (arithmetic.grow controller.baseline window.estimatedRttMs
      window.estimatedRttVarianceMs) }

def recordStableIfReady (now nowUnix : Nat) : Controller Baseline Confidence :=
  match controller.generation, controller.stableSince with
  | some generation, some since =>
      if controller.stableRecordedGeneration = some generation ∨
          now - since < stableSessionDuration then controller
      else
        persisted arithmetic
          { controller with
            lastGood := some controller.selectedSize
            successfulSessions := min (controller.successfulSessions + 1) u32Max
            confidence := arithmetic.raise controller.confidence
            stableRecordedGeneration := some generation
            state := .stable } nowUnix
  | _, _ => controller

/-- The state that a window without enough evidence leaves. -/
def unmoved (now : Nat) : Controller Baseline Confidence :=
  { controller with badWindowCount := 0, state := controller.activeState now }

def evaluateWindow (window : Counts) (now nowUnix : Nat) :
    Option Decision × Controller Baseline Confidence :=
  match controller.baseline with
  | none =>
      let cleared := { controller with badWindowCount := 0, recoveryWindowStreak := 0 }
      let learned :=
        if !hasPacketSizeEvidence window && window.estimatedRttMs.isSome then
          (cleared.updateRttBaseline arithmetic window).recordStableIfReady arithmetic now nowUnix
        else { cleared with stableSince := some now }
      (none, learned.settled now)
  | some baseline =>
      if window.estimatedRttMs.isSome ∧
          arithmetic.congested baseline window.estimatedRttMs window.estimatedRttVarianceMs then
        (none,
          { controller with
            badWindowCount := 0
            recoveryWindowStreak := 0
            stableSince := some now
            state := controller.activeState now })
      else
        let (score, streak) := scoreWindow controller.recoveryWindowStreak window
        let scored := { controller with recoveryWindowStreak := streak }
        if score = 0 then
          let learned : Controller Baseline Confidence :=
            { scored.updateRttBaseline arithmetic window with badWindowCount := 0 }
          (none, (learned.recordStableIfReady arithmetic now nowUnix).settled now)
        else
          let restless : Controller Baseline Confidence := { scored with stableSince := some now }
          if score < 3 then (none, restless.unmoved now)
          else if restless.inValidationCooldown now ∨ restless.pendingTarget.isSome then
            (none, restless.unmoved now)
          else
            let counted : Controller Baseline Confidence :=
              { restless with
                badWindowCount := min (restless.badWindowCount + 1) 3
                state := .monitoring }
            if counted.badWindowCount < 3 then (none, counted)
            else
              match nextLowerCandidate counted.selectedSize with
              | none => (none, counted)
              | some target =>
                  (some ⟨counted.selectedSize, target, score, decisionReason window streak⟩,
                    { counted with pendingTarget := some target, state := .downshiftPending })

/-- An observation from before the last one starts everything over. -/
def late (now : Nat) : Controller Baseline Confidence :=
  { controller with
    windowStartedAt := some now
    lastObservedAt := some now
    accumulator := {}
    badWindowCount := 0
    recoveryWindowStreak := 0
    stableSince := some now }

def gather (observation : Observation) (now : Nat) :
    Option Counts × Controller Baseline Confidence :=
  if controller.generation ≠ some observation.generation then (none, controller)
  else if controller.lastObservedAt.any fun last => now < last then (none, controller.late now)
  else
    let started := controller.windowStartedAt.getD now
    let sum := controller.accumulator.add observation.counts
    if now - started < evaluationInterval then
      (none,
        { controller with
          lastObservedAt := some now, windowStartedAt := some started, accumulator := sum })
    else
      (some sum,
        { controller with
          lastObservedAt := some now, windowStartedAt := some now, accumulator := {} })

def observe (observation : Observation) (now nowUnix : Nat) :
    Option Decision × Controller Baseline Confidence :=
  match controller.gather observation now with
  | (none, gathered) => (none, gathered)
  | (some window, gathered) => gathered.evaluateWindow arithmetic window now nowUnix

end Controller

end Controller

structure Evaluated where
  connection : Nat
  generation : Option Nat
  congested : Bool
  score : Nat
  cooling : Bool
  deriving DecidableEq

def Evaluated.evidence (evaluated : Evaluated) (connection : Nat) (generation : Option Nat) : Prop :=
  evaluated.connection = connection ∧ evaluated.generation = generation ∧
    evaluated.congested = false ∧ 3 ≤ evaluated.score ∧ evaluated.cooling = false

/-- A controller with its history: how often it was connected, its evaluated windows from the last
one on, the decisions since the last downshift or connection, and the sessions it knew of when
it was connected. -/
structure World (Baseline Confidence : Type) where
  controller : Controller Baseline Confidence
  connection : Nat := 0
  evaluated : List Evaluated := []
  outstanding : Nat := 0
  knownSessions : Nat

inductive Event where
  | onConnected (generation now : Nat)
  | observe (observation : Observation) (now nowUnix : Nat)
  | commitDownshift (target nowUnix : Nat)

section Runs

variable {Baseline Confidence : Type} (arithmetic : Arithmetic Baseline Confidence)

namespace World

variable (world : World Baseline Confidence)

def note (gathered : Controller Baseline Confidence) (window : Counts) (now : Nat) : Evaluated where
  connection := world.connection
  generation := gathered.generation
  congested := window.estimatedRttMs.isSome && gathered.baseline.any fun baseline =>
    arithmetic.congested baseline window.estimatedRttMs window.estimatedRttVarianceMs
  score := (scoreWindow gathered.recoveryWindowStreak window).1
  cooling := gathered.inValidationCooldown now

def observe (observation : Observation) (now nowUnix : Nat) : World Baseline Confidence :=
  let (decision, controller) := world.controller.observe arithmetic observation now nowUnix
  { world with
    controller := controller
    evaluated :=
      match world.controller.gather observation now with
      | (none, _) => world.evaluated
      | (some window, gathered) => world.note arithmetic gathered window now :: world.evaluated
    outstanding := world.outstanding + if decision.isSome then 1 else 0 }

def step : Event → World Baseline Confidence
  | .onConnected generation now =>
      { world with
        controller := world.controller.onConnected generation now
        connection := world.connection + 1
        outstanding := 0
        knownSessions := world.controller.successfulSessions }
  | .observe observation now nowUnix => world.observe arithmetic observation now nowUnix
  | .commitDownshift target nowUnix =>
      let controller := world.controller.commitDownshift arithmetic target nowUnix
      { world with
        controller := controller
        outstanding :=
          if controller.selectedSize = world.controller.selectedSize then world.outstanding else 0 }

end World

def World.start (controller : Controller Baseline Confidence) : World Baseline Confidence where
  controller := controller
  knownSessions := controller.successfulSessions

end Runs

theorem initialCandidate_mem (kind : PathKind) (mtuHint : Option Nat) :
    initialCandidate kind mtuHint ∈ packetSizeLadder := by
  unfold initialCandidate
  split <;> (try split_ifs) <;> decide

theorem ladder_least : ∀ size ∈ packetSizeLadder, minPacketSize ≤ size := by decide

theorem capCandidate_spec (candidate : Nat) {cap : Nat} (onLadder : cap ∈ packetSizeLadder) :
    capCandidate candidate cap ∈ packetSizeLadder ∧ capCandidate candidate cap ≤ cap := by
  unfold capCandidate
  cases found : packetSizeLadder.find? fun size => size ≤ candidate ∧ size ≤ cap with
  | none => exact ⟨by decide, ladder_least cap onLadder⟩
  | some size =>
      have fits := List.find?_some found
      simp only [decide_eq_true_eq] at fits
      exact ⟨List.mem_of_find?_eq_some found, fits.2⟩

theorem nextHigherCandidate_mem {current higher : Nat}
    (next : nextHigherCandidate current = some higher) : higher ∈ packetSizeLadder := by
  obtain ⟨index, -, found⟩ := Option.bind_eq_some_iff.mp next
  split at found
  · cases found
  · exact List.mem_of_getElem? found

section Prepared

variable {Baseline Confidence : Type} {arithmetic : Arithmetic Baseline Confidence}

theorem cachedSessionSelection_spec {size cap : Nat} {entry : CacheEntry Confidence} {now : Nat}
    (onLadder : size ∈ packetSizeLadder) (capped : size ≤ cap) :
    (cachedSessionSelection arithmetic size cap entry now).1 ∈ packetSizeLadder ∧
      (cachedSessionSelection arithmetic size cap entry now).1 ≤ cap := by
  unfold cachedSessionSelection
  split
  · exact ⟨onLadder, capped⟩
  · split
    · exact ⟨onLadder, capped⟩
    · split
      · exact ⟨onLadder, capped⟩
      · rename_i higher next
        split
        · exact ⟨onLadder, capped⟩
        · rename_i fits
          exact ⟨nextHigherCandidate_mem next, Nat.le_of_not_lt fits⟩

theorem prepareWithPath_spec (loaded : Cache Confidence) (fingerprint : String) (kind : PathKind)
    (mtuHint : Option Nat) (now : Nat) :
    let prepared := prepareWithPath arithmetic loaded fingerprint kind mtuHint now
    prepared.selectedSize ∈ packetSizeLadder ∧
      prepared.selectedSize ≤ initialCandidate kind mtuHint ∧ prepared.badWindowCount = 0 ∧
      prepared.pendingTarget = none := by
  have onLadder := initialCandidate_mem kind mtuHint
  unfold prepareWithPath
  dsimp only
  split
  · exact ⟨onLadder, le_rfl, rfl, rfl⟩
  · rename_i entry found
    have capped := capCandidate_spec (normalizeCachedSize entry.selectedSize) onLadder
    have selected := @cachedSessionSelection_spec Baseline Confidence arithmetic _ _ entry now
      capped.1 capped.2
    exact ⟨selected.1, selected.2, rfl, rfl⟩

end Prepared

section Events

variable {Baseline Confidence : Type} {arithmetic : Arithmetic Baseline Confidence}
  {controller before after : Controller Baseline Confidence}

/-- The size and the connection stay; a session is added at most when none was in it. -/
structure Follows (before after : Controller Baseline Confidence) : Prop where
  size : after.selectedSize = before.selectedSize
  generation : after.generation = before.generation
  sessions : after.successfulSessions = before.successfulSessions ∧
      after.stableRecordedGeneration = before.stableRecordedGeneration ∨
    before.stableRecordedGeneration ≠ before.generation ∧
      after.stableRecordedGeneration = before.generation ∧
      after.successfulSessions ≤ before.successfulSessions + 1

theorem Follows.refl (controller : Controller Baseline Confidence) : Follows controller controller :=
  ⟨rfl, rfl, Or.inl ⟨rfl, rfl⟩⟩

theorem recordStableIfReady_follows (controller : Controller Baseline Confidence)
    (now nowUnix : Nat) :
    Follows controller (controller.recordStableIfReady arithmetic now nowUnix) ∧
      (controller.recordStableIfReady arithmetic now nowUnix).badWindowCount =
        controller.badWindowCount ∧
      (controller.recordStableIfReady arithmetic now nowUnix).pendingTarget =
        controller.pendingTarget := by
  unfold Controller.recordStableIfReady
  split
  · rename_i generation since connected started
    split
    · exact ⟨Follows.refl controller, rfl, rfl⟩
    · rename_i ready
      rw [not_or] at ready
      refine ⟨⟨rfl, rfl, Or.inr ⟨?_, ?_, ?_⟩⟩, rfl, rfl⟩
      · rw [connected]
        exact ready.1
      · exact connected.symm
      · exact min_le_left _ _
  · exact ⟨Follows.refl controller, rfl, rfl⟩

structure Against (arithmetic : Arithmetic Baseline Confidence)
    (controller : Controller Baseline Confidence) (window : Counts) (now : Nat) : Prop where
  calm : (window.estimatedRttMs.isSome && controller.baseline.any fun baseline =>
    arithmetic.congested baseline window.estimatedRttMs window.estimatedRttVarianceMs) = false
  score : 3 ≤ (scoreWindow controller.recoveryWindowStreak window).1
  settled : controller.inValidationCooldown now = false

inductive Counted (arithmetic : Arithmetic Baseline Confidence)
    (before : Controller Baseline Confidence) (window : Counts) (now : Nat) :
    Option Decision → Controller Baseline Confidence → Prop where
  | cleared {after : Controller Baseline Confidence} (reset : after.badWindowCount = 0)
      (pending : after.pendingTarget = before.pendingTarget) :
      Counted arithmetic before window now none after
  | counted {after : Controller Baseline Confidence}
      (against : Against arithmetic before window now)
      (more : after.badWindowCount = min (before.badWindowCount + 1) 3)
      (pending : after.pendingTarget = before.pendingTarget) :
      Counted arithmetic before window now none after
  | decided {after : Controller Baseline Confidence} (decision : Decision)
      (against : Against arithmetic before window now)
      (more : after.badWindowCount = min (before.badWindowCount + 1) 3)
      (third : after.badWindowCount = 3) (size : decision.before = before.selectedSize)
      (lower : nextLowerCandidate before.selectedSize = some decision.target)
      (free : before.pendingTarget = none) (pending : after.pendingTarget = some decision.target) :
      Counted arithmetic before window now (some decision) after

theorem learned_spec {learned : Controller Baseline Confidence} {window : Counts}
    {now nowUnix : Nat} (size : learned.selectedSize = before.selectedSize)
    (generation : learned.generation = before.generation)
    (recorded : learned.stableRecordedGeneration = before.stableRecordedGeneration)
    (sessions : learned.successfulSessions = before.successfulSessions)
    (reset : learned.badWindowCount = 0) (pending : learned.pendingTarget = before.pendingTarget) :
    Follows before ((learned.recordStableIfReady arithmetic now nowUnix).settled now) ∧
      Counted arithmetic before window now none
        ((learned.recordStableIfReady arithmetic now nowUnix).settled now) := by
  obtain ⟨follows, count, target⟩ := @recordStableIfReady_follows _ _ arithmetic learned now nowUnix
  have same : ∃ state, (learned.recordStableIfReady arithmetic now nowUnix).settled now =
      { learned.recordStableIfReady arithmetic now nowUnix with state := state } := by
    unfold Controller.settled
    split
    · exact ⟨_, rfl⟩
    · exact ⟨_, rfl⟩
  obtain ⟨state, same⟩ := same
  have added := follows.sessions
  rw [generation, recorded, sessions] at added
  rw [same]
  exact ⟨⟨follows.size.trans size, follows.generation.trans generation, added⟩,
    .cleared (count.trans reset) (target.trans pending)⟩

theorem evaluateWindow_spec (controller : Controller Baseline Confidence) (window : Counts)
    (now nowUnix : Nat) :
    Follows controller (controller.evaluateWindow arithmetic window now nowUnix).2 ∧
      Counted arithmetic controller window now
        (controller.evaluateWindow arithmetic window now nowUnix).1
        (controller.evaluateWindow arithmetic window now nowUnix).2 := by
  have stays : ∀ after : Controller Baseline Confidence,
      after.selectedSize = controller.selectedSize → after.generation = controller.generation →
      after.successfulSessions = controller.successfulSessions →
      after.stableRecordedGeneration = controller.stableRecordedGeneration →
      Follows controller after :=
    fun after size generation sessions recorded =>
      ⟨size, generation, Or.inl ⟨sessions, recorded⟩⟩
  unfold Controller.evaluateWindow
  split
  · dsimp only
    split
    · exact learned_spec rfl rfl rfl rfl rfl rfl
    · rw [Controller.settled]
      split
      · exact ⟨stays _ rfl rfl rfl rfl, .cleared rfl rfl⟩
      · exact ⟨stays _ rfl rfl rfl rfl, .cleared rfl rfl⟩
  · rename_i baseline known
    split
    · exact ⟨stays _ rfl rfl rfl rfl, .cleared rfl rfl⟩
    · rename_i calm
      dsimp only
      split
      · exact learned_spec rfl rfl rfl rfl rfl rfl
      · split
        · exact ⟨stays _ rfl rfl rfl rfl, .cleared rfl rfl⟩
        · rename_i high
          split
          · exact ⟨stays _ rfl rfl rfl rfl, .cleared rfl rfl⟩
          · rename_i free
            rw [not_or, Bool.not_eq_true, Bool.not_eq_true, Option.isSome_eq_false_iff,
              Option.isNone_iff_eq_none] at free
            have against : Against arithmetic controller window now := by
              refine ⟨?_, Nat.le_of_not_lt high, free.1⟩
              rw [known, Option.any_some, ← Bool.not_eq_true, Bool.and_eq_true]
              exact calm
            split
            · exact ⟨stays _ rfl rfl rfl rfl, .counted against rfl rfl⟩
            · rename_i third
              split
              · exact ⟨stays _ rfl rfl rfl rfl, .counted against rfl rfl⟩
              · rename_i target lower
                refine ⟨stays _ rfl rfl rfl rfl, ?_⟩
                refine .decided _ against rfl ?_ rfl lower free.2 rfl
                exact le_antisymm (min_le_right _ _) (Nat.le_of_not_lt third)

theorem gather_none {observation : Observation} {now : Nat}
    (gathered : controller.gather observation now = (none, after)) :
    Follows controller after ∧ after.pendingTarget = controller.pendingTarget ∧
      (after.badWindowCount = controller.badWindowCount ∨ after.badWindowCount = 0) := by
  unfold Controller.gather at gathered
  dsimp only at gathered
  split_ifs at gathered with other late short
  · cases gathered
    exact ⟨Follows.refl _, rfl, Or.inl rfl⟩
  · cases gathered
    exact ⟨⟨rfl, rfl, Or.inl ⟨rfl, rfl⟩⟩, rfl, Or.inr rfl⟩
  · cases gathered
    exact ⟨⟨rfl, rfl, Or.inl ⟨rfl, rfl⟩⟩, rfl, Or.inl rfl⟩
  · cases gathered

theorem gather_some {observation : Observation} {now : Nat} {window : Counts}
    (gathered : controller.gather observation now = (some window, after)) :
    Follows controller after ∧ after.pendingTarget = controller.pendingTarget ∧
      after.badWindowCount = controller.badWindowCount := by
  unfold Controller.gather at gathered
  dsimp only at gathered
  split_ifs at gathered with other late short
  · cases gathered
  · cases gathered
  · cases gathered
  · cases gathered
    exact ⟨⟨rfl, rfl, Or.inl ⟨rfl, rfl⟩⟩, rfl, rfl⟩

theorem commitDownshift_cases (controller : Controller Baseline Confidence)
    (target nowUnix : Nat) :
    controller.commitDownshift arithmetic target nowUnix = controller ∨
      target ∈ packetSizeLadder ∧ target < controller.selectedSize ∧
        (controller.commitDownshift arithmetic target nowUnix).selectedSize = target ∧
        (controller.commitDownshift arithmetic target nowUnix).badWindowCount = 0 ∧
        (controller.commitDownshift arithmetic target nowUnix).pendingTarget = none ∧
        (controller.commitDownshift arithmetic target nowUnix).successfulSessions =
          controller.successfulSessions ∧
        (controller.commitDownshift arithmetic target nowUnix).generation = controller.generation ∧
        (controller.commitDownshift arithmetic target nowUnix).stableRecordedGeneration =
          controller.stableRecordedGeneration := by
  unfold Controller.commitDownshift
  split
  · exact Or.inl rfl
  · rename_i accepted
    rw [not_or, not_or, not_not, Nat.not_le] at accepted
    refine Or.inr ⟨accepted.1, accepted.2.2, ?_⟩
    cases controller.lastObservedAt <;> exact ⟨rfl, rfl, rfl, rfl, rfl, rfl⟩

end Events

section Runs

variable {Baseline Confidence : Type} {arithmetic : Arithmetic Baseline Confidence} {cap : Nat}
  {world : World Baseline Confidence}

/-- The size is one of the ladder under the cap; the counted windows are the last ones, each
evidence in this connection; a decision is outstanding only while its target is pending; and only
the first session of a connection is added. -/
structure Sound (cap : Nat) (world : World Baseline Confidence) : Prop where
  onLadder : world.controller.selectedSize ∈ packetSizeLadder
  capped : world.controller.selectedSize ≤ cap
  counted : world.controller.badWindowCount ≤ world.evaluated.length
  evidence : ∀ evaluated ∈ world.evaluated.take world.controller.badWindowCount,
    evaluated.evidence world.connection world.controller.generation
  outstanding : world.outstanding ≤ 1
  free : world.controller.pendingTarget = none → world.outstanding = 0
  sessions : world.controller.successfulSessions ≤ world.knownSessions + 1
  unrecorded : world.controller.stableRecordedGeneration ≠ world.controller.generation →
    world.controller.successfulSessions ≤ world.knownSessions

theorem Follows.sound_sessions {before after : Controller Baseline Confidence} {known : Nat}
    (follows : Follows before after) (sessions : before.successfulSessions ≤ known + 1)
    (unrecorded : before.stableRecordedGeneration ≠ before.generation →
      before.successfulSessions ≤ known) :
    after.successfulSessions ≤ known + 1 ∧
      (after.stableRecordedGeneration ≠ after.generation → after.successfulSessions ≤ known) := by
  rw [follows.generation]
  obtain ⟨same, recorded⟩ | ⟨unadded, recorded, more⟩ := follows.sessions
  · rw [same, recorded]
    exact ⟨sessions, unrecorded⟩
  · have fewer := unrecorded unadded
    exact ⟨by omega, fun other => absurd recorded other⟩

theorem Sound.start (loaded : Cache Confidence) (fingerprint : String) (kind : PathKind)
    (mtuHint : Option Nat) (now : Nat) :
    Sound (initialCandidate kind mtuHint)
      (World.start (prepareWithPath arithmetic loaded fingerprint kind mtuHint now)) := by
  obtain ⟨onLadder, capped, count, -⟩ :=
    @prepareWithPath_spec _ _ arithmetic loaded fingerprint kind mtuHint now
  constructor
  · exact onLadder
  · exact capped
  · exact count.le
  · intro evaluated member
    cases List.mem_of_mem_take member
  · exact Nat.zero_le 1
  · exact fun _ => rfl
  · exact Nat.le_succ _
  · exact fun _ => le_rfl

theorem Sound.onConnected (sound : Sound cap world) (generation now : Nat) :
    Sound cap (world.step arithmetic (.onConnected generation now)) where
  onLadder := sound.onLadder
  capped := sound.capped
  counted := Nat.zero_le _
  evidence := by
    intro evaluated member
    cases member
  outstanding := Nat.zero_le 1
  free := fun _ => rfl
  sessions := Nat.le_succ _
  unrecorded := fun _ => le_rfl

theorem Sound.commitDownshift (sound : Sound cap world) (target nowUnix : Nat) :
    Sound cap (world.step arithmetic (.commitDownshift target nowUnix)) := by
  unfold World.step
  dsimp only
  obtain same | ⟨onLadder, lower, size, count, pending, sessions, generation, recorded⟩ :=
    @commitDownshift_cases _ _ arithmetic world.controller target nowUnix
  · rw [same, if_pos rfl]
    exact sound
  · have moved : ¬ (world.controller.commitDownshift arithmetic target nowUnix).selectedSize =
        world.controller.selectedSize := by
      rw [size]
      exact lower.ne
    rw [if_neg moved]
    constructor <;> dsimp only
    · rw [size]
      exact onLadder
    · rw [size]
      exact lower.le.trans sound.capped
    · rw [count]
      exact Nat.zero_le _
    · rw [count]
      intro evaluated member
      cases member
    · exact Nat.zero_le 1
    · exact fun _ => rfl
    · rw [sessions]
      exact sound.sessions
    · rw [sessions, generation, recorded]
      exact sound.unrecorded

theorem note_evidence {gathered : Controller Baseline Confidence} {window : Counts} {now : Nat}
    (against : Against arithmetic gathered window now) :
    (world.note arithmetic gathered window now).evidence world.connection gathered.generation :=
  ⟨rfl, rfl, against.calm, against.score, against.settled⟩

theorem take_evidence {note : Evaluated} {evaluated : List Evaluated} {count connection : Nat}
    {generation : Option Nat} (now : note.evidence connection generation)
    (before : ∀ window ∈ evaluated.take count, window.evidence connection generation) :
    ∀ window ∈ (note :: evaluated).take (min (count + 1) 3),
      window.evidence connection generation := by
  intro window member
  have among := (List.take_sublist_take_left (min_le_left (count + 1) 3)).subset member
  rw [List.take_succ_cons] at among
  rcases List.mem_cons.mp among with rfl | earlier
  · exact now
  · exact before window earlier

theorem Sound.gathered (sound : Sound cap world) {after : Controller Baseline Confidence}
    (follows : Follows world.controller after)
    (pending : after.pendingTarget = world.controller.pendingTarget)
    (count : after.badWindowCount = world.controller.badWindowCount ∨ after.badWindowCount = 0) :
    Sound cap { world with controller := after } := by
  obtain ⟨sessions, unrecorded⟩ := follows.sound_sessions sound.sessions sound.unrecorded
  constructor <;> dsimp only
  · rw [follows.size]
    exact sound.onLadder
  · rw [follows.size]
    exact sound.capped
  · rcases count with same | reset
    · rw [same]
      exact sound.counted
    · rw [reset]
      exact Nat.zero_le _
  · rw [follows.generation]
    rcases count with same | reset
    · rw [same]
      exact sound.evidence
    · rw [reset]
      intro evaluated member
      cases member
  · exact sound.outstanding
  · rw [pending]
    exact sound.free
  · exact sessions
  · exact unrecorded

theorem Sound.evaluated (sound : Sound cap world) {window : Counts} {now : Nat}
    {decision : Option Decision} {after : Controller Baseline Confidence}
    (follows : Follows world.controller after)
    (counted : Counted arithmetic world.controller window now decision after) :
    Sound cap { world with
      controller := after
      evaluated := world.note arithmetic world.controller window now :: world.evaluated
      outstanding := world.outstanding + if decision.isSome then 1 else 0 } := by
  obtain ⟨sessions, unrecorded⟩ := follows.sound_sessions sound.sessions sound.unrecorded
  have more : Against arithmetic world.controller window now →
      after.badWindowCount = min (world.controller.badWindowCount + 1) 3 →
      ∀ evaluated ∈ (world.note arithmetic world.controller window now ::
          world.evaluated).take after.badWindowCount,
        evaluated.evidence world.connection after.generation := by
    intro against count
    rw [count, follows.generation]
    exact take_evidence (note_evidence against) sound.evidence
  have length := sound.counted
  constructor <;> dsimp only
  · rw [follows.size]
    exact sound.onLadder
  · rw [follows.size]
    exact sound.capped
  · rw [List.length_cons]
    cases counted with
    | cleared reset pending => omega
    | counted against count pending => omega
    | decided decision against count third size lower free pending => omega
  · cases counted with
    | cleared reset pending =>
        rw [reset]
        intro evaluated member
        cases member
    | counted against count pending => exact more against count
    | decided decision against count third size lower free pending => exact more against count
  · cases counted with
    | cleared reset pending => exact sound.outstanding
    | counted against count pending => exact sound.outstanding
    | decided decision against count third size lower free pending => rw [sound.free free]; rfl
  · cases counted with
    | cleared reset pending =>
        rw [pending]
        exact sound.free
    | counted against count pending =>
        rw [pending]
        exact sound.free
    | decided decision against count third size lower free pending =>
        rw [pending]
        exact nofun
  · exact sessions
  · exact unrecorded

theorem observe_none {observation : Observation} {now nowUnix : Nat}
    {after : Controller Baseline Confidence}
    (gathering : world.controller.gather observation now = (none, after)) :
    world.observe arithmetic observation now nowUnix = { world with controller := after } := by
  rw [World.observe, Controller.observe, gathering]
  rfl

theorem observe_some {observation : Observation} {now nowUnix : Nat} {window : Counts}
    {gathered : Controller Baseline Confidence}
    (gathering : world.controller.gather observation now = (some window, gathered)) :
    world.observe arithmetic observation now nowUnix =
      { world with
        controller := (gathered.evaluateWindow arithmetic window now nowUnix).2
        evaluated := world.note arithmetic gathered window now :: world.evaluated
        outstanding := world.outstanding +
          if (gathered.evaluateWindow arithmetic window now nowUnix).1.isSome then 1 else 0 } := by
  rw [World.observe, Controller.observe, gathering]

theorem Sound.observe (sound : Sound cap world) (observation : Observation) (now nowUnix : Nat) :
    Sound cap (world.observe arithmetic observation now nowUnix) := by
  cases gathering : world.controller.gather observation now with
  | mk window gathered =>
      cases window with
      | none =>
          obtain ⟨follows, pending, count⟩ := gather_none gathering
          rw [observe_none gathering]
          exact sound.gathered follows pending count
      | some window =>
          obtain ⟨first, pending, count⟩ := gather_some gathering
          obtain ⟨second, counted⟩ := @evaluateWindow_spec _ _ arithmetic gathered window now nowUnix
          rw [observe_some gathering]
          exact (sound.gathered first pending (Or.inl count)).evaluated second counted

theorem Sound.step (sound : Sound cap world) (event : Event) :
    Sound cap (world.step arithmetic event) := by
  cases event with
  | onConnected generation now => exact sound.onConnected generation now
  | observe observation now nowUnix => exact sound.observe observation now nowUnix
  | commitDownshift target nowUnix => exact sound.commitDownshift target nowUnix

theorem step_selectedSize_le (world : World Baseline Confidence) (event : Event) :
    (world.step arithmetic event).controller.selectedSize ≤ world.controller.selectedSize := by
  cases event with
  | onConnected generation now => exact le_rfl
  | observe observation now nowUnix =>
      show (world.observe arithmetic observation now nowUnix).controller.selectedSize ≤ _
      cases gathering : world.controller.gather observation now with
      | mk window gathered =>
          cases window with
          | none =>
              rw [observe_none gathering]
              exact (gather_none gathering).1.size.le
          | some window =>
              rw [observe_some gathering]
              exact (@evaluateWindow_spec _ _ arithmetic gathered window now
                nowUnix).1.size.le.trans (gather_some gathering).1.size.le
  | commitDownshift target nowUnix =>
      obtain same | ⟨-, lower, size, -⟩ :=
        @commitDownshift_cases _ _ arithmetic world.controller target nowUnix
      · exact (congrArg Controller.selectedSize same).le
      · exact size.le.trans lower.le

theorem Sound.decision (sound : Sound cap world) {observation : Observation} {now nowUnix : Nat}
    {decision : Decision}
    (decided : (world.controller.observe arithmetic observation now nowUnix).1 = some decision) :
    decision.before = world.controller.selectedSize ∧
      nextLowerCandidate world.controller.selectedSize = some decision.target ∧
      world.outstanding = 0 ∧
      ∃ first second third earlier,
        (world.observe arithmetic observation now nowUnix).evaluated =
          third :: second :: first :: earlier ∧
        ∀ window ∈ [first, second, third],
          window.evidence world.connection world.controller.generation := by
  have kept := @Sound.observe _ _ arithmetic _ _ sound observation now nowUnix
  cases gathering : world.controller.gather observation now with
  | mk window gathered =>
      cases window with
      | none =>
          rw [Controller.observe, gathering] at decided
          cases decided
      | some window =>
          obtain ⟨first, pending, count⟩ := gather_some gathering
          obtain ⟨second, counted⟩ := @evaluateWindow_spec _ _ arithmetic gathered window now nowUnix
          have decided : (gathered.evaluateWindow arithmetic window now nowUnix).1 =
              some decision := by
            rw [Controller.observe, gathering] at decided
            exact decided
          rw [decided] at counted
          rw [observe_some gathering] at kept ⊢
          cases counted with
          | decided _ against more third size lower free target =>
              refine ⟨size.trans first.size, first.size ▸ lower, sound.free (pending ▸ free), ?_⟩
              have evidence := kept.evidence
              have counted := kept.counted
              dsimp only at evidence counted ⊢
              rw [third, second.generation, first.generation] at evidence
              rw [third] at counted
              match world.evaluated, counted, evidence with
              | middle :: oldest :: earlier, _, evidence =>
                  refine ⟨oldest, middle, _, earlier, rfl, ?_⟩
                  intro window member
                  apply evidence
                  simp only [List.mem_cons, List.not_mem_nil, or_false] at member
                  simp only [List.take_succ_cons, List.mem_cons]
                  tauto

end Runs

section Cached

variable {Baseline Confidence : Type} {arithmetic : Arithmetic Baseline Confidence}
  {fingerprint : String}

def ofFingerprint (fingerprint : String) (entry : CacheEntry Confidence) : Bool :=
  entry.fingerprint = fingerprint

variable {cache : Cache Confidence}

theorem mem_normalizeCache {now : Nat} {entry : CacheEntry Confidence}
    (member : entry ∈ normalizeCache arithmetic cache now) :
    ∃ old ∈ cache, old.fingerprint = entry.fingerprint ∧
      old.successfulSessions = entry.successfulSessions := by
  obtain ⟨old, kept, rfl⟩ := List.mem_map.mp member
  have sorted := List.mem_mergeSort.mp (List.mem_of_mem_take kept)
  exact ⟨old, (List.mem_filter.mp sorted).1, rfl, rfl⟩

theorem countP_normalizeCache_le (cache : Cache Confidence) (now : Nat) :
    (normalizeCache arithmetic cache now).countP (ofFingerprint fingerprint) ≤
      cache.countP (ofFingerprint fingerprint) := by
  rw [normalizeCache, List.countP_map]
  show List.countP (ofFingerprint fingerprint) _ ≤ _
  calc List.countP (ofFingerprint fingerprint)
        (((cache.filter fun entry => cacheIsFresh entry now).mergeSort cacheOrder).take
          cacheMaxEntries)
      ≤ ((cache.filter fun entry => cacheIsFresh entry now).mergeSort cacheOrder).countP
          (ofFingerprint fingerprint) := (List.take_sublist _ _).countP_le
    _ = (cache.filter fun entry => cacheIsFresh entry now).countP (ofFingerprint fingerprint) :=
        (List.mergeSort_perm _ _).countP_eq _
    _ ≤ cache.countP (ofFingerprint fingerprint) := List.filter_sublist.countP_le

variable {change : CacheEntry Confidence → CacheEntry Confidence}

theorem mem_updateEntry {entry : CacheEntry Confidence}
    (member : entry ∈ updateEntry fingerprint change cache) :
    entry ∈ cache ∨ ∃ old ∈ cache, old.fingerprint = fingerprint ∧ entry = change old := by
  induction cache with
  | nil => exact Or.inl member
  | cons first rest ih =>
      rw [updateEntry] at member
      split at member
      · rename_i same
        rcases List.mem_cons.mp member with rfl | later
        · exact Or.inr ⟨first, List.mem_cons_self, same, rfl⟩
        · exact Or.inl (List.mem_cons_of_mem first later)
      · rcases List.mem_cons.mp member with rfl | later
        · exact Or.inl List.mem_cons_self
        · rcases ih later with kept | ⟨old, inside, same, changed⟩
          · exact Or.inl (List.mem_cons_of_mem first kept)
          · exact Or.inr ⟨old, List.mem_cons_of_mem first inside, same, changed⟩

theorem countP_updateEntry (cache : Cache Confidence)
    (keeps : ∀ entry, entry.fingerprint = fingerprint → (change entry).fingerprint = fingerprint) :
    (updateEntry fingerprint change cache).countP (ofFingerprint fingerprint) =
      cache.countP (ofFingerprint fingerprint) := by
  induction cache with
  | nil => rfl
  | cons first rest ih =>
      rw [updateEntry]
      split
      · rename_i same
        have changed : ofFingerprint fingerprint (change first) = true :=
          decide_eq_true (keeps first same)
        have found : ofFingerprint fingerprint first = true := decide_eq_true same
        rw [List.countP_cons_of_pos changed, List.countP_cons_of_pos found]
      · rw [List.countP_cons, List.countP_cons, ih]

theorem updateEntry_single {entry : CacheEntry Confidence}
    (single : cache.countP (ofFingerprint fingerprint) ≤ 1)
    (member : entry ∈ updateEntry fingerprint change cache)
    (same : entry.fingerprint = fingerprint) : ∃ old ∈ cache, entry = change old := by
  induction cache with
  | nil => cases member
  | cons first rest ih =>
      rw [updateEntry] at member
      split at member
      · rename_i found
        rcases List.mem_cons.mp member with rfl | later
        · exact ⟨first, List.mem_cons_self, rfl⟩
        · have counted : ofFingerprint fingerprint first = true := decide_eq_true found
          have another : 0 < rest.countP (ofFingerprint fingerprint) :=
            List.countP_pos_iff.mpr ⟨entry, later, decide_eq_true same⟩
          rw [List.countP_cons_of_pos counted] at single
          omega
      · rename_i other
        rcases List.mem_cons.mp member with rfl | later
        · exact absurd same other
        · have fewer : rest.countP (ofFingerprint fingerprint) ≤ 1 :=
            (List.sublist_cons_self first rest).countP_le.trans single
          obtain ⟨old, inside, changed⟩ := ih fewer later
          exact ⟨old, List.mem_cons_of_mem first inside, changed⟩

theorem eq_of_countP_le_one {left right : CacheEntry Confidence}
    (single : cache.countP (ofFingerprint fingerprint) ≤ 1) (leftMember : left ∈ cache)
    (rightMember : right ∈ cache) (leftSame : left.fingerprint = fingerprint)
    (rightSame : right.fingerprint = fingerprint) : left = right := by
  rw [List.countP_eq_length_filter] at single
  have inside : ∀ {entry : CacheEntry Confidence}, entry ∈ cache →
      entry.fingerprint = fingerprint → entry ∈ cache.filter (ofFingerprint fingerprint) :=
    fun member same => List.mem_filter.mpr ⟨member, decide_eq_true same⟩
  match found : cache.filter (ofFingerprint fingerprint), single with
  | [], _ => exact absurd (found ▸ inside leftMember leftSame) List.not_mem_nil
  | [only], _ =>
      have first := List.mem_singleton.mp (found ▸ inside leftMember leftSame)
      have second := List.mem_singleton.mp (found ▸ inside rightMember rightSame)
      exact first.trans second.symm

def OfLoaded (loaded : Cache Confidence) (fingerprint : String) (sessions : Nat) : Prop :=
  ∃ old ∈ loaded, old.fingerprint = fingerprint ∧ old.successfulSessions = sessions

/-- What the entries of the fingerprint may say: no more sessions than the controller knows, or
what a loaded entry said. -/
def Within (loaded : Cache Confidence) (fingerprint : String) (sessions : Nat)
    (cache : Cache Confidence) : Prop :=
  ∀ entry ∈ cache, entry.fingerprint = fingerprint →
    entry.successfulSessions ≤ min sessions u32Max ∨
      OfLoaded loaded fingerprint entry.successfulSessions

variable {loaded : Cache Confidence} {controller after : Controller Baseline Confidence}

/-- The cache against the controller; where the fingerprint had one entry, that entry has what
the controller knows. -/
structure Cached (loaded : Cache Confidence) (fingerprint : String)
    (controller : Controller Baseline Confidence) : Prop where
  own : controller.fingerprint = fingerprint
  sessions : controller.successfulSessions ≤ u32Max ∨
    OfLoaded loaded fingerprint controller.successfulSessions
  within : Within loaded fingerprint controller.successfulSessions controller.cache
  single : loaded.countP (ofFingerprint fingerprint) ≤ 1 →
    controller.cache.countP (ofFingerprint fingerprint) ≤ 1
  current : loaded.countP (ofFingerprint fingerprint) ≤ 1 → ∀ entry ∈ controller.cache,
    entry.fingerprint = fingerprint → entry.successfulSessions = controller.successfulSessions

theorem Cached.same (cached : Cached loaded fingerprint controller)
    (own : after.fingerprint = controller.fingerprint)
    (sessions : after.successfulSessions = controller.successfulSessions)
    (cache : after.cache = controller.cache) : Cached loaded fingerprint after where
  own := own.trans cached.own
  sessions := by
    rw [sessions]
    exact cached.sessions
  within := by
    rw [cache, sessions]
    exact cached.within
  single := by
    rw [cache]
    exact cached.single
  current := by
    rw [cache, sessions]
    exact cached.current

theorem Within.normalizeCache {sessions now : Nat}
    (within : Within loaded fingerprint sessions cache) :
    Within loaded fingerprint sessions (normalizeCache arithmetic cache now) := by
  intro entry member same
  obtain ⟨old, inside, sameFingerprint, sameSessions⟩ := mem_normalizeCache member
  rw [← sameSessions]
  exact within old inside (sameFingerprint.trans same)

theorem cached_persisted (nowUnix : Nat) (own : controller.fingerprint = fingerprint)
    (sessions : controller.successfulSessions ≤ u32Max ∨
      OfLoaded loaded fingerprint controller.successfulSessions)
    (within : Within loaded fingerprint controller.successfulSessions controller.cache)
    (single : loaded.countP (ofFingerprint fingerprint) ≤ 1 →
      controller.cache.countP (ofFingerprint fingerprint) ≤ 1) :
    Cached loaded fingerprint (controller.persisted arithmetic nowUnix) := by
  subst own
  have written : controller.successfulSessions ≤ min controller.successfulSessions u32Max ∨
      OfLoaded loaded controller.fingerprint controller.successfulSessions :=
    sessions.imp_left fun small => le_min le_rfl small
  unfold Controller.persisted
  dsimp only
  split
  · refine ⟨rfl, sessions, Within.normalizeCache ?_, ?_, ?_⟩
    · intro entry member same
      rcases mem_updateEntry member with kept | ⟨old, -, -, rfl⟩
      · exact within entry kept same
      · exact written
    · intro once
      refine (countP_normalizeCache_le _ _).trans ?_
      refine (countP_updateEntry _ ?_).le.trans (single once)
      exact fun _ _ => rfl
    · intro once entry member same
      obtain ⟨updated, inside, sameFingerprint, sameSessions⟩ := mem_normalizeCache member
      obtain ⟨old, -, rfl⟩ :=
        updateEntry_single (single once) inside (sameFingerprint.trans same)
      exact sameSessions.symm
  · rename_i unknown
    have absent : ∀ entry ∈ controller.cache, entry.fingerprint ≠ controller.fingerprint :=
      fun entry member same => unknown (List.any_eq_true.mpr ⟨entry, member, decide_eq_true same⟩)
    have appended : ∀ {added entry : CacheEntry Confidence}, entry ∈ controller.cache ++ [added] →
        entry.fingerprint = controller.fingerprint → entry = added := by
      intro added entry member same
      rcases List.mem_append.mp member with kept | last
      · exact absurd same (absent entry kept)
      · exact List.mem_singleton.mp last
    refine ⟨rfl, sessions, Within.normalizeCache ?_, ?_, ?_⟩
    · intro entry member same
      rw [appended member same]
      exact written
    · intro _
      refine (countP_normalizeCache_le _ _).trans ?_
      have none : controller.cache.countP (ofFingerprint controller.fingerprint) = 0 := by
        rw [List.countP_eq_zero]
        exact fun entry member found => absent entry member (of_decide_eq_true found)
      rw [List.countP_append, none, Nat.zero_add]
      exact List.countP_le_length
    · intro _ entry member same
      obtain ⟨old, inside, sameFingerprint, sameSessions⟩ := mem_normalizeCache member
      rw [appended inside (sameFingerprint.trans same)] at sameSessions
      exact sameSessions.symm

theorem cached_prepareWithPath (loaded : Cache Confidence) (fingerprint : String) (kind : PathKind)
    (mtuHint : Option Nat) (now : Nat) :
    Cached loaded fingerprint (prepareWithPath arithmetic loaded fingerprint kind mtuHint now) := by
  have among : ∀ entry ∈ normalizeCache arithmetic loaded now, entry.fingerprint = fingerprint →
      OfLoaded loaded fingerprint entry.successfulSessions := by
    intro entry member same
    obtain ⟨old, inside, sameFingerprint, sameSessions⟩ := mem_normalizeCache member
    exact ⟨old, inside, sameFingerprint.trans same, sameSessions⟩
  have single : loaded.countP (ofFingerprint fingerprint) ≤ 1 →
      (normalizeCache arithmetic loaded now).countP (ofFingerprint fingerprint) ≤ 1 :=
    fun once => (countP_normalizeCache_le loaded now).trans once
  unfold prepareWithPath
  dsimp only
  split
  · rename_i missing
    refine ⟨rfl, Or.inl (Nat.zero_le _), fun entry member same => Or.inr (among entry member same),
      single, ?_⟩
    intro _ entry member same
    exact absurd (decide_eq_true same) (List.find?_eq_none.mp missing entry member)
  · rename_i found present
    have foundMember := List.mem_of_find?_eq_some present
    have foundSame : found.fingerprint = fingerprint := by
      simpa using List.find?_some present
    have sessions := among found foundMember foundSame
    split
    · refine ⟨rfl, Or.inr sessions, Within.normalizeCache ?_, ?_, ?_⟩
      · intro entry member same
        rcases mem_updateEntry member with kept | ⟨old, kept, oldSame, rfl⟩
        · exact Or.inr (among entry kept same)
        · exact Or.inr (among old kept oldSame)
      · intro once
        refine (countP_normalizeCache_le _ _).trans ?_
        refine (countP_updateEntry _ ?_).le.trans (single once)
        exact fun _ same => same
      · intro once entry member same
        obtain ⟨updated, inside, sameFingerprint, sameSessions⟩ := mem_normalizeCache member
        obtain ⟨old, kept, rfl⟩ :=
          updateEntry_single (single once) inside (sameFingerprint.trans same)
        have only := eq_of_countP_le_one (single once) kept foundMember
          (sameFingerprint.trans same) foundSame
        rw [← sameSessions, only]
    · refine ⟨rfl, Or.inr sessions, fun entry member same => Or.inr (among entry member same),
        single, ?_⟩
      intro once entry member same
      rw [eq_of_countP_le_one (single once) member foundMember same foundSame]

theorem Cached.recordStableIfReady (cached : Cached loaded fingerprint controller)
    (now nowUnix : Nat) :
    Cached loaded fingerprint (controller.recordStableIfReady arithmetic now nowUnix) := by
  unfold Controller.recordStableIfReady
  split
  · split
    · exact cached
    · refine cached_persisted nowUnix cached.own ?_ ?_ ?_
      · exact Or.inl (min_le_right _ _)
      · intro entry member same
        have before := cached.within entry member same
        dsimp only
        exact before.imp_left fun fewer => by omega
      · exact cached.single
  · exact cached

theorem Cached.settled (cached : Cached loaded fingerprint controller) (now : Nat) :
    Cached loaded fingerprint (controller.settled now) := by
  unfold Controller.settled
  split
  · exact cached
  · exact cached.same rfl rfl rfl

theorem Cached.evaluateWindow (cached : Cached loaded fingerprint controller) (window : Counts)
    (now nowUnix : Nat) :
    Cached loaded fingerprint (controller.evaluateWindow arithmetic window now nowUnix).2 := by
  unfold Controller.evaluateWindow
  split
  · dsimp only
    apply Cached.settled
    split
    · apply Cached.recordStableIfReady
      exact cached.same rfl rfl rfl
    · exact cached.same rfl rfl rfl
  · split
    · exact cached.same rfl rfl rfl
    · dsimp only
      split
      · apply Cached.settled
        apply Cached.recordStableIfReady
        exact cached.same rfl rfl rfl
      · split
        · exact cached.same rfl rfl rfl
        · split
          · exact cached.same rfl rfl rfl
          · split
            · exact cached.same rfl rfl rfl
            · split <;> exact cached.same rfl rfl rfl

theorem Cached.gather (cached : Cached loaded fingerprint controller) (observation : Observation)
    (now : Nat) : Cached loaded fingerprint (controller.gather observation now).2 := by
  unfold Controller.gather
  dsimp only
  split
  · exact cached
  · split
    · exact cached.same rfl rfl rfl
    · split <;> exact cached.same rfl rfl rfl

theorem Cached.commitDownshift (cached : Cached loaded fingerprint controller)
    (target nowUnix : Nat) :
    Cached loaded fingerprint (controller.commitDownshift arithmetic target nowUnix) := by
  unfold Controller.commitDownshift
  split
  · exact cached
  · dsimp only
    split <;> exact cached_persisted nowUnix cached.own cached.sessions cached.within cached.single

theorem Cached.step {world : World Baseline Confidence}
    (cached : Cached loaded fingerprint world.controller) (event : Event) :
    Cached loaded fingerprint (world.step arithmetic event).controller := by
  cases event with
  | onConnected generation now => exact cached.same rfl rfl rfl
  | commitDownshift target nowUnix => exact cached.commitDownshift target nowUnix
  | observe observation now nowUnix =>
      have gathered := cached.gather observation now
      show Cached loaded fingerprint
        (world.controller.observe arithmetic observation now nowUnix).2
      unfold Controller.observe
      split <;> rename_i gathering <;> rw [gathering] at gathered
      · exact gathered
      · exact gathered.evaluateWindow _ now nowUnix

theorem kept_run {cap : Nat} {world : World Baseline Confidence} (sound : Sound cap world)
    (cached : Cached loaded fingerprint world.controller) (events : List Event) :
    Sound cap (events.foldl (World.step arithmetic) world) ∧
      Cached loaded fingerprint (events.foldl (World.step arithmetic) world).controller := by
  induction events generalizing world with
  | nil => exact ⟨sound, cached⟩
  | cons event rest ih => exact ih (sound.step event) (cached.step event)

end Cached

end Noland.PacketSize
