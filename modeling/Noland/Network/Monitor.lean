import Mathlib.Data.List.Sort
import Noland.Network.Probe

/-!
A fail-safe tells from the times of the acknowledgements when the connection is lost and when it
is back. A connection probes the host: every probe waits for its acknowledgement, and becomes one
sample of a report. Instants count nanoseconds.
-/

namespace Noland.Network.Monitor

def connectionLostAfter : Nat := 3000000000

def rearmAfter : Nat := 10000000000

inductive FailSafeTransition where
  | connectionLost
  | recovered
  deriving DecidableEq

structure FailSafeState where
  startedAt : Nat
  lastValidAck : Option Nat := none
  connectionLost : Bool := false
  recoverySince : Option Nat := none

inductive FailSafeEvent where
  | tick
  | observeValidAck

namespace FailSafeState

def tick (state : FailSafeState) (now : Nat) : FailSafeState × Option FailSafeTransition :=
  if now - state.lastValidAck.getD state.startedAt < connectionLostAfter then (state, none)
  else if state.connectionLost then ({ state with recoverySince := none }, none)
  else ({ state with recoverySince := none, connectionLost := true }, some .connectionLost)

def observeValidAck (state : FailSafeState) (now : Nat) :
    FailSafeState × Option FailSafeTransition :=
  let observed := { state with lastValidAck := some now }
  if state.connectionLost = false then (observed, none)
  else if state.lastValidAck.all fun previous => connectionLostAfter ≤ now - previous then
    ({ observed with recoverySince := some now }, none)
  else
    let recoverySince := state.recoverySince.getD now
    if now - recoverySince < rearmAfter then
      ({ observed with recoverySince := some recoverySince }, none)
    else ({ observed with connectionLost := false, recoverySince := none }, some .recovered)

def step (state : FailSafeState) : FailSafeEvent → Nat →
    FailSafeState × Option FailSafeTransition
  | .tick, now => state.tick now
  | .observeValidAck, now => state.observeValidAck now

def run (state : FailSafeState) : List (FailSafeEvent × Nat) → List (Option FailSafeTransition)
  | [] => []
  | (event, now) :: rest => (state.step event now).2 :: (state.step event now).1.run rest

/-- Since when the acknowledgements, the last one first, are less than three seconds apart. -/
def unbrokenSince (now : Nat) : List Nat → Nat
  | [] => now
  | previous :: older =>
      if connectionLostAfter ≤ now - previous then now else unbrokenSince previous older

/-- What is asked of the fail-safe: a loss after three seconds without an acknowledgement, and a
recovery after ten seconds in which no two of them were three seconds apart. -/
def expected (startedAt : Nat) (acks : List Nat) (lost : Bool) :
    List (FailSafeEvent × Nat) → List (Option FailSafeTransition)
  | [] => []
  | (.tick, now) :: rest =>
      let silent := connectionLostAfter ≤ now - acks.head?.getD startedAt
      (if silent ∧ lost = false then some .connectionLost else none) ::
        expected startedAt acks (silent || lost) rest
  | (.observeValidAck, now) :: rest =>
      let steady := rearmAfter ≤ now - unbrokenSince now acks
      (if steady ∧ lost = true then some .recovered else none) ::
        expected startedAt (now :: acks) (lost && !steady) rest

structure Follows (state : FailSafeState) (acks : List Nat) (lost : Bool) (last : Nat) :
    Prop where
  ack : state.lastValidAck = acks.head?
  same : state.connectionLost = lost
  recovery : lost = true →
    connectionLostAfter ≤ last - acks.head?.getD state.startedAt ∨
      ∃ latest older, acks = latest :: older ∧
        state.recoverySince = some (unbrokenSince latest older)

variable {state : FailSafeState} {acks : List Nat} {lost : Bool} {last now : Nat}

theorem follows_tick (follows : state.Follows acks lost last) (later : last ≤ now) :
    (state.tick now).2 =
        (if connectionLostAfter ≤ now - acks.head?.getD state.startedAt ∧ lost = false then
          some .connectionLost else none) ∧
      (state.tick now).1.Follows acks
        (decide (connectionLostAfter ≤ now - acks.head?.getD state.startedAt) || lost) now ∧
      (state.tick now).1.startedAt = state.startedAt := by
  obtain ⟨startedAt, lastValidAck, connectionLost, recoverySince⟩ := state
  obtain ⟨rfl, rfl, recovery⟩ := follows
  dsimp only [tick] at recovery ⊢
  by_cases silent : connectionLostAfter ≤ now - acks.head?.getD startedAt
  · rw [if_neg (Nat.not_lt.mpr silent)]
    cases connectionLost <;> simp only [silent, decide_true, Bool.true_or] <;>
      exact ⟨rfl, ⟨rfl, rfl, fun _ => .inl silent⟩, rfl⟩
  · rw [if_pos (Nat.lt_of_not_le silent)]
    simp only [silent, decide_false, Bool.false_or, false_and]
    refine ⟨rfl, ⟨rfl, rfl, fun lost => ?_⟩, trivial⟩
    rcases recovery lost with quiet | steady
    · exact absurd (Nat.le_trans quiet (Nat.sub_le_sub_right later _)) silent
    · exact .inr steady

theorem follows_ack (follows : state.Follows acks lost last) (later : last ≤ now) :
    (state.observeValidAck now).2 =
        (if rearmAfter ≤ now - unbrokenSince now acks ∧ lost = true then some .recovered
          else none) ∧
      (state.observeValidAck now).1.Follows (now :: acks)
        (lost && !decide (rearmAfter ≤ now - unbrokenSince now acks)) now ∧
      (state.observeValidAck now).1.startedAt = state.startedAt := by
  obtain ⟨startedAt, lastValidAck, connectionLost, recoverySince⟩ := state
  obtain ⟨rfl, rfl, recovery⟩ := follows
  dsimp only [observeValidAck] at recovery ⊢
  cases connectionLost with
  | false => exact ⟨by simp, ⟨rfl, rfl, nofun⟩, rfl⟩
  | true =>
      rw [if_neg Bool.false_ne_true.symm]
      by_cases broken : acks.head?.all (fun previous => connectionLostAfter ≤ now - previous) = true
      · have fresh : unbrokenSince now acks = now := by
          cases acks with
          | nil => rfl
          | cons previous older => exact if_pos (of_decide_eq_true broken)
        have early : ¬ rearmAfter ≤ now - now := by
          rw [Nat.sub_self]
          decide
        rw [if_pos broken, fresh]
        simp only [early, decide_false]
        exact ⟨rfl, ⟨rfl, rfl, fun _ => .inr ⟨now, acks, rfl, congrArg some fresh.symm⟩⟩,
          trivial⟩
      · rw [if_neg broken]
        cases acks with
        | nil => exact absurd rfl broken
        | cons previous older =>
            have near : ¬ connectionLostAfter ≤ now - previous := by simpa using broken
            have unbroken : unbrokenSince now (previous :: older) =
                unbrokenSince previous older := if_neg near
            obtain rfl : recoverySince = some (unbrokenSince previous older) := by
              rcases recovery rfl with quiet | ⟨latest, rest, split, since⟩
              · exact absurd (Nat.le_trans quiet (Nat.sub_le_sub_right later _)) near
              · cases split
                exact since
            rw [unbroken, Option.getD_some]
            by_cases steady : rearmAfter ≤ now - unbrokenSince previous older
            · rw [if_neg (Nat.not_lt.mpr steady)]
              simp only [steady, decide_true]
              exact ⟨rfl, ⟨rfl, rfl, nofun⟩, trivial⟩
            · rw [if_pos (Nat.lt_of_not_le steady)]
              simp only [steady, decide_false]
              exact ⟨rfl, ⟨rfl, rfl, fun _ => .inr ⟨now, _, rfl, congrArg some unbroken.symm⟩⟩,
                trivial⟩

theorem run_expected (follows : state.Follows acks lost last) {events : List (FailSafeEvent × Nat)}
    (ordered : (last :: events.map Prod.snd).Pairwise (· ≤ ·)) :
    state.run events = expected state.startedAt acks lost events := by
  induction events generalizing state acks lost last with
  | nil => rfl
  | cons event rest ih =>
      obtain ⟨event, now⟩ := event
      obtain ⟨after, ordered⟩ := List.pairwise_cons.mp ordered
      have later : last ≤ now := after now List.mem_cons_self
      cases event with
      | tick =>
          obtain ⟨answer, follows, start⟩ := follows_tick follows later
          simp only [run, expected, step, answer, ih follows ordered, start]
      | observeValidAck =>
          obtain ⟨answer, follows, start⟩ := follows_ack follows later
          simp only [run, expected, step, answer, ih follows ordered, start]

theorem fail_safe_answers (startedAt : Nat) (events : List (FailSafeEvent × Nat))
    (ordered : (startedAt :: events.map Prod.snd).Pairwise (· ≤ ·)) :
    ({ startedAt := startedAt } : FailSafeState).run events =
      expected startedAt [] false events :=
  run_expected ⟨rfl, rfl, fun lost => absurd lost Bool.false_ne_true⟩ ordered

theorem fail_safe_answers_outage :
    ({ startedAt := 0 } : FailSafeState).run
        [(.tick, 3000000000), (.observeValidAck, 4000000000), (.observeValidAck, 6000000000),
          (.observeValidAck, 8000000000), (.observeValidAck, 10000000000),
          (.observeValidAck, 12000000000), (.observeValidAck, 14000000000)] =
      [some .connectionLost, none, none, none, none, none, some .recovered] :=
  (fail_safe_answers 0 _ (by decide)).trans (by decide)

end FailSafeState

def probeTimeout : Nat := 1000000000

def maxReportSamples : Nat := 100

structure MeasurementSample where
  sequence : Nat
  rtt : Option Nat
  lost : Bool
  measuredAt : Nat
  deriving DecidableEq

/-- The state of `run_monitor` and `run_connected`, with the probes that were sent, the reports,
and the probes that a connection left behind. -/
structure ProbeRun where
  failSafe : FailSafeState
  sequence : Nat := 0
  connected : Bool := false
  udp : Bool := false
  pending : List (Nat × Nat) := []
  samples : List MeasurementSample := []
  sent : List (Nat × Nat) := []
  reports : List (List MeasurementSample) := []
  abandoned : List Nat := []

inductive ProbeEvent where
  | connected
  | disconnected
  | probeTick (now : Nat) (sent : Option Nat)
  | received (validated : Option Nat) (now : Nat)
  | receiveFailed
  | udpRetryTick (connects : Bool)
  | reportTick (now : Nat) (sends : Bool)
  | healthTick (now : Nat)

namespace ProbeRun

def expirePending (run : ProbeRun) (now : Nat) : ProbeRun :=
  let timedOut := run.pending.filter fun probe => probeTimeout ≤ now - probe.2
  { run with
    pending := run.pending.filter fun probe => !decide (probeTimeout ≤ now - probe.2)
    samples := run.samples ++ timedOut.map fun probe => ⟨probe.1, none, true, now⟩ }

/-- `BTreeMap::insert`. -/
def insertPending (pending : List (Nat × Nat)) (sequence now : Nat) : List (Nat × Nat) :=
  (pending.filter fun probe => probe.1 ≠ sequence).orderedInsert (fun first second =>
    first.1 ≤ second.1) (sequence, now)

def probeTick (run : ProbeRun) (now : Nat) (sent : Option Nat) : ProbeRun :=
  let run := run.expirePending now
  if run.udp then
    let current := run.sequence
    let run := { run with sequence := (current + 1) % 2 ^ 64 }
    if sent = some v1PacketLen then
      { run with
        pending := insertPending run.pending current now
        sent := (current, now) :: run.sent }
    else { run with udp := false }
  else run

def received (run : ProbeRun) (validated : Option Nat) (now : Nat) : ProbeRun :=
  match validated.bind fun sequence => run.pending.find? fun probe => probe.1 = sequence with
  | none => run
  | some probe =>
      { run with
        pending := run.pending.filter fun other => other.1 ≠ probe.1
        samples := run.samples ++ [⟨probe.1, some (now - probe.2), false, now⟩]
        failSafe := (run.failSafe.observeValidAck now).1 }

def reportTick (run : ProbeRun) (now : Nat) (sends : Bool) : ProbeRun :=
  let run := run.expirePending now
  if run.samples = [] then run
  else
    let report := run.samples.take maxReportSamples
    let run := { run with samples := run.samples.drop maxReportSamples }
    if sends then { run with reports := report :: run.reports }
    else { run with abandoned := report.map (·.sequence) ++ run.abandoned, connected := false }

def step (run : ProbeRun) (event : ProbeEvent) : ProbeRun :=
  match run.connected, event with
  | _, .connected =>
      { run with
        pending := []
        samples := []
        abandoned := run.pending.map Prod.fst ++ run.samples.map (·.sequence) ++ run.abandoned
        connected := true
        udp := true }
  | _, .healthTick now => { run with failSafe := (run.failSafe.tick now).1 }
  | true, .disconnected => { run with connected := false }
  | true, .probeTick now sent => run.probeTick now sent
  | true, .received validated now => if run.udp then run.received validated now else run
  | true, .receiveFailed => { run with udp := false }
  | true, .udpRetryTick connects => if run.udp then run else { run with udp := connects }
  | true, .reportTick now sends => run.reportTick now sends
  | false, _ => run

def places (run : ProbeRun) : List Nat :=
  run.pending.map Prod.fst ++ (run.samples.map (·.sequence) ++
    (run.reports.flatten.map (·.sequence) ++ run.abandoned))

def Honest (sent : List (Nat × Nat)) (sample : MeasurementSample) : Prop :=
  ∃ sentAt, (sample.sequence, sentAt) ∈ sent ∧
    (if sample.lost then sample.rtt = none ∧ probeTimeout ≤ sample.measuredAt - sentAt
      else sample.rtt = some (sample.measuredAt - sentAt))

structure Accounted (run : ProbeRun) : Prop where
  once : (run.sent.map Prod.fst).Nodup
  fresh : ∀ probe ∈ run.sent, probe.1 < run.sequence
  placed : (run.sent.map Prod.fst).Perm run.places
  pending : ∀ probe ∈ run.pending, probe ∈ run.sent
  honest : ∀ sample ∈ run.samples ++ run.reports.flatten, Honest run.sent sample
  reports : ∀ report ∈ run.reports, report ≠ [] ∧ report.length ≤ maxReportSamples

variable {run : ProbeRun} {now : Nat}

theorem accounted_expirePending (accounted : Accounted run) (now : Nat) :
    Accounted (run.expirePending now) := by
  obtain ⟨once, fresh, placed, pending, honest, reports⟩ := accounted
  refine ⟨once, fresh, placed.trans ?_, ?_, ?_, reports⟩
  · have parts := (List.filter_append_perm (fun probe : Nat × Nat =>
      decide (probeTimeout ≤ now - probe.2)) run.pending).map Prod.fst
    rw [List.perm_iff_count] at parts ⊢
    intro sequence
    have both := parts sequence
    simp only [places, expirePending, List.map_append, List.count_append, List.map_map] at both ⊢
    change _ = _ + (_ + List.count sequence (List.map Prod.fst _) + _)
    omega
  · intro probe member
    exact pending probe (List.mem_of_mem_filter member)
  · intro sample member
    simp only [expirePending, List.append_assoc, List.mem_append, List.mem_map,
      List.mem_filter, decide_eq_true_eq] at member
    rcases member with old | ⟨probe, ⟨waiting, late⟩, rfl⟩ | reported
    · exact honest sample (List.mem_append_left _ old)
    · exact ⟨probe.2, pending probe waiting, rfl, late⟩
    · exact honest sample (List.mem_append_right _ reported)

theorem Honest.mono {sent : List (Nat × Nat)} {sample : MeasurementSample}
    (honest : Honest sent sample) (probe : Nat × Nat) : Honest (probe :: sent) sample := by
  obtain ⟨sentAt, member, told⟩ := honest
  exact ⟨sentAt, List.mem_cons_of_mem _ member, told⟩

theorem accounted_probeTick (accounted : Accounted run) (room : run.sequence + 1 < 2 ^ 64)
    (sent : Option Nat) : Accounted (run.probeTick now sent) := by
  obtain ⟨once, fresh, placed, pending, honest, reports⟩ := accounted_expirePending accounted now
  have next : ((run.expirePending now).sequence + 1) % 2 ^ 64 = run.sequence + 1 :=
    Nat.mod_eq_of_lt room
  have grown : ∀ probe ∈ run.sent, probe.1 < run.sequence + 1 := fun probe member =>
    Nat.lt_succ_of_lt (fresh probe member)
  unfold probeTick
  dsimp only
  rw [next]
  split_ifs with socket whole
  · have absent : (run.expirePending now).pending.filter (fun probe =>
        probe.1 ≠ (run.expirePending now).sequence) = (run.expirePending now).pending := by
      rw [List.filter_eq_self]
      intro probe member
      exact decide_eq_true (fresh probe (pending probe member)).ne
    have inserted := List.perm_orderedInsert (fun first second : Nat × Nat => first.1 ≤ second.1)
      ((run.expirePending now).sequence, now) (run.expirePending now).pending
    unfold insertPending
    rw [absent]
    refine ⟨List.nodup_cons.mpr ⟨?_, once⟩, ?_, ?_, ?_, ?_, reports⟩
    · intro again
      obtain ⟨probe, member, same⟩ := List.mem_map.mp again
      exact absurd same (fresh probe member).ne
    · intro probe member
      rcases List.mem_cons.mp member with rfl | before
      · exact Nat.lt_succ_self _
      · exact grown probe before
    · exact (placed.cons _).trans ((inserted.map Prod.fst).symm.append_right _)
    · intro probe member
      rcases List.mem_cons.mp (inserted.mem_iff.mp member) with rfl | before
      · exact List.mem_cons_self
      · exact List.mem_cons_of_mem _ (pending probe before)
    · exact fun sample member => (honest sample member).mono _
  · exact ⟨once, grown, placed, pending, honest, reports⟩
  · exact ⟨once, fresh, placed, pending, honest, reports⟩

theorem accounted_received (accounted : Accounted run) (validated : Option Nat) :
    Accounted (run.received validated now) := by
  unfold received
  split
  · exact accounted
  · rename_i probe found
    obtain ⟨once, fresh, placed, pending, honest, reports⟩ := accounted
    obtain ⟨sequence, valid, found⟩ := Option.bind_eq_some_iff.mp found
    have waiting := List.mem_of_find?_eq_some found
    have keys := (List.nodup_append.mp (placed.nodup_iff.mp once)).1
    have rest : (run.pending.filter fun other => other.1 ≠ probe.1).map Prod.fst =
        (run.pending.map Prod.fst).erase probe.1 := by
      rw [keys.erase_eq_filter, List.filter_map]
      congr 1
      apply List.filter_congr
      intro other _
      simp [bne, BEq.beq]
    refine ⟨once, fresh, placed.trans ?_, ?_, ?_, reports⟩
    · have taken := List.perm_cons_erase (List.mem_map_of_mem (f := Prod.fst) waiting)
      simp only [places, rest, List.map_append, List.map_cons, List.map_nil]
      rw [List.perm_iff_count] at taken ⊢
      intro other
      have both := taken other
      simp only [List.count_append, List.count_cons, List.count_nil] at both ⊢
      omega
    · exact fun other member => pending other (List.mem_of_mem_filter member)
    · intro sample member
      simp only [List.append_assoc, List.mem_append, List.mem_singleton] at member
      rcases member with old | rfl | reported
      · exact honest sample (List.mem_append_left _ old)
      · exact ⟨probe.2, pending probe waiting, rfl⟩
      · exact honest sample (List.mem_append_right _ reported)

theorem accounted_reportTick (accounted : Accounted run) (sends : Bool) :
    Accounted (run.reportTick now sends) := by
  have expired := accounted_expirePending accounted now
  unfold reportTick
  dsimp only
  split_ifs with none sent
  · exact expired
  all_goals
    obtain ⟨once, fresh, placed, pending, honest, reports⟩ := expired
    have parts := List.take_append_drop maxReportSamples (run.expirePending now).samples
    rw [← parts] at honest
    unfold places at placed
    rw [← parts, List.map_append] at placed
  · refine ⟨once, fresh, placed.trans ?_, pending, ?_, ?_⟩
    · rw [List.perm_iff_count]
      intro sequence
      simp only [places, List.flatten_cons, List.map_append, List.count_append]
      omega
    · intro sample member
      apply honest
      simp only [List.flatten_cons, List.mem_append] at member ⊢
      tauto
    · intro report member
      rcases List.mem_cons.mp member with rfl | before
      · refine ⟨?_, List.length_take_le _ _⟩
        rw [Ne, List.take_eq_nil_iff]
        exact not_or_intro (by decide) none
      · exact reports report before
  · refine ⟨once, fresh, placed.trans ?_, pending, ?_, reports⟩
    · rw [List.perm_iff_count]
      intro sequence
      simp only [places, List.count_append]
      omega
    · intro sample member
      apply honest
      simp only [List.mem_append] at member ⊢
      tauto

def probes (events : List ProbeEvent) : Nat :=
  events.countP fun event => match event with
    | .probeTick .. => true
    | _ => false

theorem accounted_step (accounted : Accounted run) (event : ProbeEvent)
    (room : run.sequence + probes [event] < 2 ^ 64) :
    Accounted (run.step event) ∧ (run.step event).sequence ≤ run.sequence + probes [event] := by
  obtain ⟨once, fresh, placed, pending, honest, reports⟩ := id accounted
  unfold step
  split
  · refine ⟨⟨once, fresh, placed.trans ?_, nofun, ?_, reports⟩, Nat.le_add_right _ _⟩
    · rw [List.perm_iff_count]
      intro sequence
      simp only [places, List.map_nil, List.nil_append, List.count_append]
      omega
    · exact fun sample member => honest sample (List.mem_append_right _ member)
  · exact ⟨{ accounted with }, Nat.le_add_right _ _⟩
  · exact ⟨{ accounted with }, Nat.le_add_right _ _⟩
  · refine ⟨accounted_probeTick accounted room _, ?_⟩
    unfold probeTick
    dsimp only
    split_ifs
    · exact Nat.mod_le _ _
    · exact Nat.mod_le _ _
    · exact Nat.le_add_right _ _
  · split_ifs
    · refine ⟨accounted_received accounted _, ?_⟩
      unfold received
      split <;> exact Nat.le_add_right _ _
    · exact ⟨accounted, Nat.le_add_right _ _⟩
  · exact ⟨{ accounted with }, Nat.le_add_right _ _⟩
  · split_ifs
    · exact ⟨accounted, Nat.le_add_right _ _⟩
    · exact ⟨{ accounted with }, Nat.le_add_right _ _⟩
  · refine ⟨accounted_reportTick accounted _, ?_⟩
    unfold reportTick
    dsimp only
    split_ifs <;> exact Nat.le_add_right _ _
  · exact ⟨accounted, Nat.le_add_right _ _⟩

theorem accounted_foldl (accounted : Accounted run) {events : List ProbeEvent}
    (room : run.sequence + probes events < 2 ^ 64) : Accounted (events.foldl step run) := by
  induction events generalizing run with
  | nil => exact accounted
  | cons event rest ih =>
      have parts : probes (event :: rest) = probes [event] + probes rest := by
        rw [probes, probes, probes, ← List.countP_append]
        rfl
      obtain ⟨kept, counted⟩ := accounted_step accounted event (by omega)
      exact ih kept (by omega)

/-- Over all its connections a monitor keeps every probe in one place and reports it once at
most, as it was. -/
theorem probes_accounted (startedAt : Nat) (events : List ProbeEvent)
    (few : probes events < 2 ^ 64) :
    Accounted (events.foldl step { failSafe := { startedAt := startedAt } }) :=
  have start : Accounted { failSafe := { startedAt := startedAt } } :=
    { once := List.nodup_nil
      fresh := nofun
      placed := List.Perm.nil
      pending := nofun
      honest := nofun
      reports := nofun }
  accounted_foldl start (by rwa [Nat.zero_add])

theorem probes_accounted_reconnected :
    Accounted ([.connected, .probeTick 0 (some 48), .received (some 0) 5,
      .probeTick 10 (some 48), .disconnected, .connected, .probeTick 20 (some 48),
      .reportTick 2000000000 true].foldl step { failSafe := { startedAt := 0 } }) :=
  probes_accounted 0 _ (by decide)

end ProbeRun

end Noland.Network.Monitor
