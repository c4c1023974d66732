import Noland.Network.Evaluation
import Noland.Lib.Machine

/-!
`evaluate_and_apply_automatic` measures both transports and switches to the better one when it has
won often enough and the last change is long enough ago. The model follows one instance and the
calls under way, each at the point it has reached; manual switches and preference changes come
between any two points. Times are milliseconds.
-/

namespace Noland.Network

inductive ConnectionPreference where
  | auto
  | direct
  | cloudflareTurn
  deriving DecidableEq

def qualitySwitchWinStreak : Nat := 3

/-- `QUALITY_SWITCH_MINIMUM_DWELL`. -/
def qualitySwitchMinimumDwell : Nat := 90000

structure ConnectionDecisionState where
  observedActive : Option TransportKind := none
  candidate : Option TransportKind := none
  consecutiveWins : Nat := 0
  lastTransportChange : Option Nat := none
  deriving DecidableEq

structure NetworkBefore where
  preference : ConnectionPreference
  activeTransport : Option TransportKind
  directReady : Bool
  deriving DecidableEq

/-- How far a call is. `checked` has seen the preference and the active transport. -/
inductive AutomaticCall where
  | evaluating (before : NetworkBefore)
  | evaluated (selected : Option TransportKind)
  | checked (selected : TransportKind) (active : Option TransportKind)
  | starts (selected : TransportKind)
  | failsOver
  | switching (selected : TransportKind) (quality : Bool)
  | switched (selected : TransportKind)
  deriving DecidableEq

def AutomaticCall.rests : AutomaticCall → Bool
  | .checked .. | .starts _ => true
  | _ => false

inductive Occurrence where
  | evaluation (selected : Option TransportKind)
  | change (time : Nat)
  deriving DecidableEq

structure QualitySwitch where
  selected : TransportKind
  preference : ConnectionPreference
  activeTransport : Option TransportKind
  time : Nat
  log : List Occurrence
  deriving DecidableEq

/-- `unseen` says that the active transport has changed since the decision was last
written. -/
structure Selection where
  now : Nat := 0
  preference : ConnectionPreference
  activeTransport : Option TransportKind
  decision : ConnectionDecisionState := {}
  calls : List AutomaticCall := []
  log : List Occurrence := []
  unseen : Bool := false
  started : List QualitySwitch := []
  deriving DecidableEq

namespace ConnectionDecisionState

def settle (decision : ConnectionDecisionState) (active : Option TransportKind) :
    ConnectionDecisionState :=
  { decision with observedActive := active, candidate := none, consecutiveWins := 0 }

def observe (decision : ConnectionDecisionState) (active : Option TransportKind) (now : Nat) :
    ConnectionDecisionState :=
  if decision.observedActive ≠ active then
    { observedActive := active
      candidate := none
      consecutiveWins := 0
      lastTransportChange := some now }
  else decision

def count (decision : ConnectionDecisionState) (selected : TransportKind) :
    ConnectionDecisionState :=
  if decision.candidate = some selected then
    { decision with consecutiveWins := min (decision.consecutiveWins + 1) 255 }
  else { decision with candidate := some selected, consecutiveWins := 1 }

def dwellElapsed (decision : ConnectionDecisionState) (now : Nat) : Bool :=
  decision.lastTransportChange.all fun changed =>
    decide (qualitySwitchMinimumDwell ≤ now - changed)

def shouldSwitch (decision : ConnectionDecisionState) (now : Nat) : Bool :=
  decide (qualitySwitchWinStreak ≤ decision.consecutiveWins) && decision.dwellElapsed now

def record (decision : ConnectionDecisionState) (selected : TransportKind) (now : Nat) :
    ConnectionDecisionState :=
  { decision with
    observedActive := some selected
    candidate := none
    consecutiveWins := 0
    lastTransportChange := some now }

end ConnectionDecisionState

inductive SelectionEvent where
  | tick (elapsed : Nat)
  | setPreference (preference : ConnectionPreference)
  | outside (active : Option TransportKind)
  | restart
  | begin (directReady : Bool)
  | evaluationFails (before : NetworkBefore)
  | evaluationEnds (before : NetworkBefore) (selected : Option TransportKind)
  | check (selected : Option TransportKind)
  | decide (selected : TransportKind) (active : Option TransportKind)
  | startSwitch (selected : TransportKind)
  | startFailover
  | endSwitch (selected : TransportKind) (quality succeeds : Bool)
  | record (selected : TransportKind)
  deriving DecidableEq

namespace Selection

def advance (selection : Selection) (call : AutomaticCall) (next : List AutomaticCall) :
    Selection :=
  { selection with calls := next ++ selection.calls.erase call }

def ignore (selection : Selection) (call : AutomaticCall) (selected : Option TransportKind)
    (next : List AutomaticCall) : Selection :=
  { selection.advance call next with log := .evaluation selected :: selection.log }

def changeTransport (selection : Selection) (active : Option TransportKind) : Selection :=
  if selection.activeTransport = active then selection
  else
    { selection with
      activeTransport := active
      log := .change selection.now :: selection.log
      unseen := true }

def locked (selection : Selection) : Bool :=
  selection.calls.any fun call =>
    match call with
    | .switching .. => true
    | _ => false

def mayFailOver (before : NetworkBefore) : Bool :=
  decide (before.preference = .auto) &&
    decide (before.activeTransport = some .cloudflareTurn) && before.directReady

def check (selection : Selection) (selected : Option TransportKind) : Selection :=
  if selection.preference ≠ .auto then selection.ignore (.evaluated selected) selected []
  else
    match selected with
    | none => selection.ignore (.evaluated none) none []
    | some found =>
        selection.advance (.evaluated (some found)) [.checked found selection.activeTransport]

def decideSwitch (selection : Selection) (selected : TransportKind) (active : Option TransportKind) :
    Selection :=
  let ended := { selection.advance (.checked selected active) [] with
    log := .evaluation (some selected) :: selection.log
    unseen := false }
  if active = some selected then { ended with decision := selection.decision.settle active }
  else
    let decision := (selection.decision.observe active selection.now).count selected
    { ended with
      decision := decision
      calls := if decision.shouldSwitch selection.now then .starts selected :: ended.calls
        else ended.calls }

/-- `switch` with the allocation lock. -/
def startSwitch (selection : Selection) (selected : TransportKind) : Selection :=
  if selection.activeTransport = some selected then
    selection.advance (.starts selected) [.switched selected]
  else
    { selection.advance (.starts selected) [.switching selected true] with
      started :=
        { selected := selected
          preference := selection.preference
          activeTransport := selection.activeTransport
          time := selection.now
          log := selection.log } :: selection.started }

def startFailover (selection : Selection) : Selection :=
  selection.advance .failsOver
    (if selection.activeTransport = some .direct then [] else [.switching .direct false])

def endSwitch (selection : Selection) (selected : TransportKind) (quality succeeds : Bool) :
    Selection :=
  let ended := selection.advance (.switching selected quality)
    (if quality && succeeds then [.switched selected] else [])
  if succeeds then ended.changeTransport (some selected) else ended

def step (selection : Selection) : SelectionEvent → Selection
  | .tick elapsed => { selection with now := selection.now + elapsed }
  | .setPreference preference => { selection with preference := preference }
  | .outside active => selection.changeTransport active
  | .restart =>
      { now := selection.now
        preference := selection.preference
        activeTransport := selection.activeTransport
        started := selection.started }
  | .begin directReady =>
      { selection with
        calls := .evaluating ⟨selection.preference, selection.activeTransport, directReady⟩ ::
          selection.calls }
  | .evaluationFails before =>
      if .evaluating before ∈ selection.calls then
        selection.ignore (.evaluating before) none
          (if mayFailOver before then [.failsOver] else [])
      else selection
  | .evaluationEnds before selected =>
      if .evaluating before ∈ selection.calls then
        selection.advance (.evaluating before) [.evaluated selected]
      else selection
  | .check selected =>
      if .evaluated selected ∈ selection.calls then selection.check selected else selection
  | .decide selected active =>
      if .checked selected active ∈ selection.calls then selection.decideSwitch selected active
      else selection
  | .startSwitch selected =>
      if .starts selected ∈ selection.calls ∧ selection.locked = false then
        selection.startSwitch selected
      else selection
  | .startFailover =>
      if .failsOver ∈ selection.calls ∧ selection.locked = false then selection.startFailover
      else selection
  | .endSwitch selected quality succeeds =>
      if .switching selected quality ∈ selection.calls then
        selection.endSwitch selected quality succeeds
      else selection
  | .record selected =>
      if .switched selected ∈ selection.calls then
        { selection.advance (.switched selected) [] with
          decision := selection.decision.record selected selection.now
          unseen := false }
      else selection

end Selection

def Selected (meets : Selection → SelectionEvent → Prop) : Selection → Prop :=
  Machine.Reached Selection.step
    (fun selection => ∃ preference active,
      selection = { preference := preference, activeTransport := active })
    meets

/-- Three evaluations in a row have selected a transport, the active transport has not changed
since, and every change is long enough ago. -/
structure Ripe (log : List Occurrence) (now : Nat) (selected : TransportKind) : Prop where
  streak : ∃ later earlier, log = later ++ List.replicate qualitySwitchWinStreak
    (.evaluation (some selected)) ++ earlier ∧ ∀ time, .change time ∉ later
  dwell : ∀ time, .change time ∈ log → time + qualitySwitchMinimumDwell ≤ now

structure QualitySwitch.Damped (switch : QualitySwitch) : Prop where
  preference : switch.preference = .auto
  other : switch.activeTransport ≠ some switch.selected
  ripe : Ripe switch.log switch.time switch.selected

theorem Ripe.tick {log : List Occurrence} {now : Nat} {selected : TransportKind}
    (ripe : Ripe log now selected) (elapsed : Nat) : Ripe log (now + elapsed) selected := by
  refine ⟨ripe.streak, ?_⟩
  intro time member
  have early := ripe.dwell time member
  omega

theorem Ripe.evaluation {log : List Occurrence} {now : Nat} {selected : TransportKind}
    (ripe : Ripe log now selected) (other : Option TransportKind) :
    Ripe (.evaluation other :: log) now selected := by
  obtain ⟨⟨later, earlier, same, unchanged⟩, long⟩ := ripe
  refine ⟨⟨.evaluation other :: later, earlier, ?_, ?_⟩, ?_⟩
  · rw [same]
    rfl
  · intro time member
    rcases List.mem_cons.mp member with impossible | old
    · cases impossible
    · exact unchanged time old
  · intro time member
    rcases List.mem_cons.mp member with impossible | old
    · cases impossible
    · exact long time old

namespace Selection

def committed (selection : Selection) : Prop := ∃ call ∈ selection.calls, call.rests = true

/-- Between a call's check and its switch neither the preference nor the active transport changes;
no evaluation without a decision falls into a streak; and a change of the active transport is
first seen by a decision that selects another one. -/
def Careful (selection : Selection) : SelectionEvent → Prop
  | .setPreference preference => preference = .auto ∨ ¬ selection.committed
  | .outside active => selection.activeTransport = active ∨ ¬ selection.committed
  | .endSwitch selected _ succeeds =>
      succeeds = false ∨ selection.activeTransport = some selected ∨ ¬ selection.committed
  | .evaluationFails _ => selection.decision.consecutiveWins = 0
  | .check selected =>
      (selection.preference = .auto ∧ selected ≠ none) ∨ selection.decision.consecutiveWins = 0
  | .decide selected active =>
      selection.unseen = false ∨
        selection.decision.observedActive ≠ active ∧ active ≠ some selected
  | _ => True

structure Informed (decision : ConnectionDecisionState) (log : List Occurrence) : Prop where
  streak : ∃ earlier, log =
    List.replicate decision.consecutiveWins (.evaluation decision.candidate) ++ earlier
  covered : ∀ time, .change time ∈ log →
    ∃ last, decision.lastTransportChange = some last ∧ time ≤ last

structure Tracked (selection : Selection) : Prop where
  checked : ∀ selected active, .checked selected active ∈ selection.calls →
    selection.preference = .auto ∧ active = selection.activeTransport
  starts : ∀ selected, .starts selected ∈ selection.calls →
    selection.preference = .auto ∧ Ripe selection.log selection.now selected
  informed : selection.unseen = false → Informed selection.decision selection.log
  past : ∀ time, .change time ∈ selection.log → time ≤ selection.now
  started : ∀ switch ∈ selection.started, switch.Damped

variable {selection : Selection}

theorem Tracked.advance (tracked : selection.Tracked) (call : AutomaticCall)
    (next : List AutomaticCall)
    (unchecked : ∀ selected active, .checked selected active ∈ next →
      selection.preference = .auto ∧ active = selection.activeTransport)
    (unstarted : ∀ selected, .starts selected ∉ next) : (selection.advance call next).Tracked := by
  refine ⟨?_, ?_, tracked.informed, tracked.past, tracked.started⟩
  · intro selected active member
    rcases List.mem_append.mp member with new | old
    · exact unchecked selected active new
    · exact tracked.checked selected active (List.mem_of_mem_erase old)
  · intro selected member
    rcases List.mem_append.mp member with new | old
    · exact absurd new (unstarted selected)
    · exact tracked.starts selected (List.mem_of_mem_erase old)

theorem Tracked.leave (tracked : selection.Tracked) (call : AutomaticCall) :
    (selection.advance call []).Tracked :=
  tracked.advance call [] (by simp) (by simp)

theorem advance_uncommitted (alone : ¬ selection.committed) {call : AutomaticCall}
    {next : List AutomaticCall} (free : ∀ other ∈ next, other.rests = false) :
    ¬ (selection.advance call next).committed := by
  rintro ⟨other, member, rests⟩
  rcases List.mem_append.mp member with new | old
  · rw [free other new] at rests
    cases rests
  · exact alone ⟨other, List.mem_of_mem_erase old, rests⟩

theorem Tracked.noted (tracked : selection.Tracked) (selected : Option TransportKind)
    (idle : selection.decision.consecutiveWins = 0) :
    Tracked { selection with log := .evaluation selected :: selection.log } := by
  have old {time : Nat} (member : .change time ∈ Occurrence.evaluation selected :: selection.log) :
      .change time ∈ selection.log := by
    rcases List.mem_cons.mp member with impossible | old
    · cases impossible
    · exact old
  refine ⟨tracked.checked, ?_, ?_, fun time member => tracked.past time (old member),
    tracked.started⟩
  · intro other member
    obtain ⟨auto, ripe⟩ := tracked.starts other member
    exact ⟨auto, ripe.evaluation selected⟩
  · intro seen
    refine ⟨⟨.evaluation selected :: selection.log, ?_⟩,
      fun time member => (tracked.informed seen).covered time (old member)⟩
    rw [show selection.decision.consecutiveWins = 0 from idle]
    rfl

theorem Tracked.changeTransport (tracked : selection.Tracked) {active : Option TransportKind}
    (careful : selection.activeTransport = active ∨ ¬ selection.committed) :
    (selection.changeTransport active).Tracked := by
  unfold Selection.changeTransport
  split
  · exact tracked
  · rename_i different
    have alone := careful.resolve_left different
    refine ⟨?_, ?_, nofun, ?_, tracked.started⟩
    · intro selected before member
      exact absurd ⟨_, member, rfl⟩ alone
    · intro selected member
      exact absurd ⟨_, member, rfl⟩ alone
    · intro time member
      rcases List.mem_cons.mp member with same | old
      · cases same
        exact le_rfl
      · exact tracked.past time old

theorem count_streak {decision : ConnectionDecisionState} {log earlier : List Occurrence}
    (streak : log = List.replicate decision.consecutiveWins (.evaluation decision.candidate) ++
      earlier) (selected : TransportKind) :
    ∃ rest, .evaluation (some selected) :: log =
      List.replicate (decision.count selected).consecutiveWins
        (.evaluation (decision.count selected).candidate) ++ rest := by
  unfold ConnectionDecisionState.count
  split
  · rename_i same
    refine ⟨List.replicate (decision.consecutiveWins + 1 -
      min (decision.consecutiveWins + 1) 255) (.evaluation (some selected)) ++ earlier, ?_⟩
    dsimp only
    rw [streak, same, ← List.append_assoc, List.replicate_append_replicate, ← List.cons_append,
      ← List.replicate_succ]
    congr 2
    omega
  · exact ⟨log, rfl⟩

theorem count_lastTransportChange (decision : ConnectionDecisionState) (selected : TransportKind) :
    (decision.count selected).lastTransportChange = decision.lastTransportChange := by
  unfold ConnectionDecisionState.count
  split <;> rfl

theorem count_candidate (decision : ConnectionDecisionState) (selected : TransportKind) :
    (decision.count selected).candidate = some selected := by
  unfold ConnectionDecisionState.count
  split
  · rename_i same
    exact same
  · rfl

theorem Tracked.observed (tracked : selection.Tracked) {active : Option TransportKind}
    (careful : selection.unseen = false ∨ selection.decision.observedActive ≠ active) :
    Informed (selection.decision.observe active selection.now) selection.log := by
  unfold ConnectionDecisionState.observe
  split
  · refine ⟨⟨selection.log, rfl⟩, ?_⟩
    intro time member
    exact ⟨selection.now, rfl, tracked.past time member⟩
  · rename_i same
    exact tracked.informed (careful.resolve_right same)

theorem ripe_of_shouldSwitch {decision : ConnectionDecisionState} {log rest : List Occurrence}
    {selected : TransportKind} {now : Nat}
    (streak : log = List.replicate decision.consecutiveWins (.evaluation (some selected)) ++ rest)
    (covered : ∀ time, .change time ∈ log →
      ∃ last, decision.lastTransportChange = some last ∧ time ≤ last)
    (should : decision.shouldSwitch now = true) : Ripe log now selected := by
  unfold ConnectionDecisionState.shouldSwitch at should
  rw [Bool.and_eq_true] at should
  have wins := of_decide_eq_true should.1
  refine ⟨⟨[], List.replicate (decision.consecutiveWins - qualitySwitchWinStreak)
    (.evaluation (some selected)) ++ rest, ?_, nofun⟩, ?_⟩
  · rw [List.nil_append, ← List.append_assoc, List.replicate_append_replicate, streak]
    congr 2
    omega
  · intro time member
    obtain ⟨last, changed, before⟩ := covered time member
    have elapsed := should.2
    unfold ConnectionDecisionState.dwellElapsed at elapsed
    rw [changed] at elapsed
    have long := of_decide_eq_true elapsed
    have positive : 0 < qualitySwitchMinimumDwell := by decide
    omega

theorem Tracked.decideSwitch (tracked : selection.Tracked) {selected : TransportKind}
    {active : Option TransportKind} (member : .checked selected active ∈ selection.calls)
    (careful : selection.Careful (.decide selected active)) :
    (selection.decideSwitch selected active).Tracked := by
  have old {time : Nat}
      (found : .change time ∈ Occurrence.evaluation (some selected) :: selection.log) :
      .change time ∈ selection.log := by
    rcases List.mem_cons.mp found with impossible | old
    · cases impossible
    · exact old
  have checked (other : TransportKind) (seen : Option TransportKind)
      (found : .checked other seen ∈ selection.calls.erase (.checked selected active)) :=
    tracked.checked other seen (List.mem_of_mem_erase found)
  have starts (other : TransportKind)
      (found : .starts other ∈ selection.calls.erase (.checked selected active)) :
      selection.preference = .auto ∧
        Ripe (.evaluation (some selected) :: selection.log) selection.now other := by
    obtain ⟨auto, ripe⟩ := tracked.starts other (List.mem_of_mem_erase found)
    exact ⟨auto, ripe.evaluation (some selected)⟩
  simp only [Selection.decideSwitch]
  split
  · rename_i same
    refine ⟨checked, starts, ?_, fun time found => tracked.past time (old found), tracked.started⟩
    intro _
    have seen := careful.resolve_right fun both => both.2 same
    exact ⟨⟨_, rfl⟩, fun time found => (tracked.informed seen).covered time (old found)⟩
  · have informed := tracked.observed (careful.imp id And.left)
    obtain ⟨earlier, streak⟩ := informed.streak
    obtain ⟨rest, longer⟩ := count_streak streak selected
    have covered (time : Nat)
        (found : .change time ∈ Occurrence.evaluation (some selected) :: selection.log) :
        ∃ last, ((selection.decision.observe active selection.now).count
          selected).lastTransportChange = some last ∧ time ≤ last := by
      rw [count_lastTransportChange]
      exact informed.covered time (old found)
    refine ⟨?_, ?_, ?_, fun time found => tracked.past time (old found), tracked.started⟩
    · intro other seen found
      split at found
      · rcases List.mem_cons.mp found with impossible | found
        · cases impossible
        · exact checked other seen found
      · exact checked other seen found
    · intro other found
      split at found
      · rename_i should
        rcases List.mem_cons.mp found with same | found
        · cases same
          refine ⟨(tracked.checked selected active member).1, ?_⟩
          rw [count_candidate] at longer
          exact ripe_of_shouldSwitch longer covered should
        · exact starts other found
      · exact starts other found
    · intro _
      exact ⟨⟨rest, longer⟩, covered⟩

theorem Tracked.startSwitch (tracked : selection.Tracked) {selected : TransportKind}
    (member : .starts selected ∈ selection.calls) : (selection.startSwitch selected).Tracked := by
  unfold Selection.startSwitch
  split
  · exact tracked.advance _ _ (by simp) (by simp)
  · rename_i other
    have advanced := tracked.advance (.starts selected) [.switching selected true] (by simp)
      (by simp)
    refine ⟨advanced.checked, advanced.starts, advanced.informed, advanced.past, ?_⟩
    intro switch found
    rcases List.mem_cons.mp found with rfl | old
    · obtain ⟨auto, ripe⟩ := tracked.starts selected member
      exact ⟨auto, other, ripe⟩
    · exact tracked.started switch old

theorem Tracked.record (tracked : selection.Tracked) (selected : TransportKind) :
    Tracked { selection.advance (.switched selected) [] with
      decision := selection.decision.record selected selection.now
      unseen := false } := by
  have advanced := tracked.leave (.switched selected)
  refine ⟨advanced.checked, advanced.starts, ?_, advanced.past, advanced.started⟩
  intro _
  refine ⟨⟨selection.log, rfl⟩, ?_⟩
  intro time member
  exact ⟨selection.now, rfl, tracked.past time member⟩

theorem Tracked.step (tracked : selection.Tracked) {event : SelectionEvent}
    (careful : selection.Careful event) : (selection.step event).Tracked := by
  cases event with
  | tick elapsed =>
      refine ⟨tracked.checked, ?_, tracked.informed, ?_, tracked.started⟩
      · intro selected member
        obtain ⟨auto, ripe⟩ := tracked.starts selected member
        exact ⟨auto, ripe.tick elapsed⟩
      · intro time member
        exact Nat.le_add_right_of_le (tracked.past time member)
  | setPreference preference =>
      have kept (call : AutomaticCall) (member : call ∈ selection.calls)
          (rests : call.rests = true) : preference = .auto :=
        careful.resolve_right fun alone => alone ⟨call, member, rests⟩
      refine ⟨?_, ?_, tracked.informed, tracked.past, tracked.started⟩
      · intro selected active member
        exact ⟨kept _ member rfl, (tracked.checked selected active member).2⟩
      · intro selected member
        exact ⟨kept _ member rfl, (tracked.starts selected member).2⟩
  | outside active => exact tracked.changeTransport careful
  | restart => exact ⟨nofun, nofun, fun _ => ⟨⟨[], rfl⟩, nofun⟩, nofun, tracked.started⟩
  | «begin» directReady =>
      refine ⟨?_, ?_, tracked.informed, tracked.past, tracked.started⟩
      · intro selected active member
        rcases List.mem_cons.mp member with impossible | old
        · cases impossible
        · exact tracked.checked selected active old
      · intro selected member
        rcases List.mem_cons.mp member with impossible | old
        · cases impossible
        · exact tracked.starts selected old
  | evaluationFails before =>
      simp only [Selection.step]
      split
      · have advanced := tracked.advance (.evaluating before)
          (if mayFailOver before then [.failsOver] else []) (by split <;> simp)
          (by split <;> simp)
        exact advanced.noted none careful
      · exact tracked
  | evaluationEnds before selected =>
      simp only [Selection.step]
      split
      · exact tracked.advance _ _ (by simp) (by simp)
      · exact tracked
  | check selected =>
      simp only [Selection.step]
      split
      · unfold Selection.check
        split
        · rename_i other
          have idle := careful.resolve_left fun both => other both.1
          exact (tracked.leave _).noted selected idle
        · rename_i auto
          rw [not_not] at auto
          split
          · have idle := careful.resolve_left fun both => both.2 rfl
            exact (tracked.leave _).noted none idle
          · refine tracked.advance _ _ ?_ (by simp)
            intro found active member
            cases List.mem_singleton.mp member
            exact ⟨auto, rfl⟩
      · exact tracked
  | decide selected active =>
      simp only [Selection.step]
      split
      · rename_i member
        exact tracked.decideSwitch member careful
      · exact tracked
  | startSwitch selected =>
      simp only [Selection.step]
      split
      · rename_i allowed
        exact tracked.startSwitch allowed.1
      · exact tracked
  | startFailover =>
      simp only [Selection.step]
      split
      · unfold Selection.startFailover
        split
        · exact tracked.leave _
        · exact tracked.advance _ _ (by simp) (by simp)
      · exact tracked
  | endSwitch selected quality succeeds =>
      simp only [Selection.step]
      split
      · have advanced := tracked.advance (.switching selected quality)
          (if quality && succeeds then [.switched selected] else []) (by split <;> simp)
          (by split <;> simp)
        simp only [Selection.endSwitch]
        split
        · rename_i done
          apply advanced.changeTransport
          rcases careful with failed | same | alone
          · rw [done] at failed
            cases failed
          · exact Or.inl same
          · right
            apply advance_uncommitted alone
            split <;> simp [AutomaticCall.rests]
        · exact advanced
      · exact tracked
  | record selected =>
      simp only [Selection.step]
      split
      · exact tracked.record selected
      · exact tracked

end Selection

theorem selected_tracked {selection : Selection} (reached : Selected Selection.Careful selection) :
    selection.Tracked := by
  apply reached.invariant
  · rintro _ ⟨preference, active, rfl⟩
    exact ⟨nofun, nofun, fun _ => ⟨⟨[], rfl⟩, nofun⟩, nofun, nofun⟩
  · intro before event _ tracked careful
    exact tracked.step careful

/-- Every quality-driven switch starts while the preference is automatic, after three wins in a
row and long enough after the last change. -/
theorem quality_switches_damped {selection : Selection}
    (reached : Selected Selection.Careful selection) :
    ∀ switch ∈ selection.started, switch.Damped :=
  (selected_tracked reached).started

instance (selection : Selection) : Decidable selection.committed :=
  inferInstanceAs (Decidable (∃ call ∈ selection.calls, call.rests = true))

instance (selection : Selection) : ∀ event, Decidable (selection.Careful event)
  | .setPreference _ => instDecidableOr
  | .outside _ => instDecidableOr
  | .endSwitch .. => instDecidableOr
  | .evaluationFails _ => instDecidableEqNat _ _
  | .check _ => instDecidableOr
  | .decide .. => instDecidableOr
  | .tick _ | .restart | .begin _ | .evaluationEnds .. | .startSwitch _ | .startFailover
  | .record _ => .isTrue trivial

def selectingCall (selected active : TransportKind) : List SelectionEvent :=
  [.begin false, .evaluationEnds ⟨.auto, some active, false⟩ (some selected),
   .check (some selected), .decide selected (some active)]

def dampedRun : List SelectionEvent :=
  selectingCall .cloudflareTurn .direct ++ selectingCall .cloudflareTurn .direct ++
    .tick 90000 :: selectingCall .cloudflareTurn .direct ++ [.startSwitch .cloudflareTurn]

theorem quality_switches_damped_sample :
    ∃ selection, Selected Selection.Careful selection ∧
      ∃ switch ∈ selection.started, switch.selected = .cloudflareTurn ∧ switch.Damped := by
  have reached : Selected Selection.Careful
      (dampedRun.foldl Selection.step { preference := .auto, activeTransport := some .direct }) :=
    Machine.Reached.along (.start ⟨.auto, some .direct, rfl⟩) (by decide +kernel)
  refine ⟨_, reached, ⟨.cloudflareTurn, .auto, some .direct, 90000,
    [.evaluation (some .cloudflareTurn), .evaluation (some .cloudflareTurn),
      .evaluation (some .cloudflareTurn)]⟩, by decide +kernel, rfl, ?_⟩
  exact quality_switches_damped reached _ (by decide +kernel)

/-- The user chooses the relay and then lets the program choose again. The first call agrees
with the relay; three calls then prefer the other transport. -/
def undampedRun : List SelectionEvent :=
  [.outside (some .cloudflareTurn), .setPreference .cloudflareTurn, .setPreference .auto] ++
    selectingCall .cloudflareTurn .cloudflareTurn ++ selectingCall .direct .cloudflareTurn ++
    selectingCall .direct .cloudflareTurn ++ selectingCall .direct .cloudflareTurn ++
    [.startSwitch .direct]

theorem quality_switch_within_dwell :
    ¬ ∀ selection, Selected (fun _ _ => True) selection →
      ∀ switch ∈ selection.started, switch.Damped := by
  intro damped
  have reached : Selected (fun _ _ => True)
      (undampedRun.foldl Selection.step { preference := .auto, activeTransport := some .direct }) :=
    Machine.Reached.run (.start ⟨.auto, some .direct, rfl⟩) fun _ _ _ => trivial
  have early := (damped _ reached ⟨.direct, .auto, some .cloudflareTurn, 0,
    [.evaluation (some .direct), .evaluation (some .direct), .evaluation (some .direct),
      .evaluation (some .cloudflareTurn), .change 0]⟩ (by decide +kernel)).ripe.dwell 0
    (by decide)
  exact absurd early (by decide)

end Noland.Network
