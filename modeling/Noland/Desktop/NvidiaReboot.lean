import Mathlib.Data.List.Infix
import Noland.Lib.Machine
import Noland.Lib.Text

/-!
From `ensure_post_nvidia_reboot` in `services/orchestration.rs`. The flow may be started again
and again; the provider and the host give any answers. The history says which boot ids the flow
has got from the host and when the step was recorded.
-/

namespace Noland.Desktop

open Noland.Text
open Noland.Machine

structure SshOutput where
  statusCode : Int
  stdout : List Char
  deriving DecidableEq

/-- What a command of the remote host comes to; the thread that waits for it may fail. -/
inductive SshAnswer where
  | output (output : SshOutput)
  | failed
  | joinFailed
  deriving DecidableEq

structure InstanceAddress where
  publicIp : List Char
  sshHost : List Char
  sshPort : Nat
  status : List Char
  deriving DecidableEq

structure RebootRound where
  cancelled : Bool
  refreshed : Option InstanceAddress
  probe : SshAnswer
  bootId : SshAnswer
  systemStates : Nat → SshAnswer

structure RebootAnswers where
  marker : SshAnswer
  reboot : SshAnswer
  rounds : Nat → RebootRound
  saved : Bool

inductive BootEvent where
  | captured (bootId : List Char)
  | read (bootId : List Char)
  | recorded (rebootConfirmed : Bool)
  deriving DecidableEq

structure RebootFlow where
  stepCompleted : Bool
  address : InstanceAddress
  remoteHost : List Char
  remotePort : Nat
  history : List BootEvent := []

inductive RebootOutcome where
  | skipped
  | completed
  | cancelled
  | commandFailed
  | saveFailed
  | timedOut
  deriving DecidableEq

/-- `split_whitespace` -/
def splitWhitespace (text : List Char) : List (List Char) :=
  (text.splitOnP whitespace).filter fun word => !word.isEmpty

def stripPrefix (head text : List Char) : Option (List Char) :=
  if head.isPrefixOf text then some (text.drop head.length) else none

def parseRebootMarkerValue (stdout key : List Char) : Option (List Char) :=
  (((splitWhitespace stdout).findSome? (stripPrefix (key ++ ['=']))).map trim).filter
    fun value => !value.isEmpty

def oldBootIdKey : List Char := "old_boot_id".toList

def currentBootIdKey : List Char := "current_boot_id".toList

def rebootConfirmedText : List Char := "POST_NVIDIA_REBOOT_CONFIRMED".toList

/-- `remote_post_nvidia_reboot_marker_completed`; `none` is an error. -/
def markerCompleted (answer : SshAnswer) : Option (Option (List Char × List Char)) :=
  match answer with
  | .failed | .joinFailed => none
  | .output output =>
      if output.statusCode ≠ 0 then some none
      else if ¬ rebootConfirmedText <:+: output.stdout then some none
      else
        match parseRebootMarkerValue output.stdout oldBootIdKey,
          parseRebootMarkerValue output.stdout currentBootIdKey with
        | some old, some current => some (some (old, current))
        | _, _ => some none

/-- `probe_remote_boot_id`, whose errors are ignored. -/
def probeRemoteBootId (answer : SshAnswer) : Option (List Char) :=
  match answer with
  | .failed | .joinFailed => none
  | .output output => if (trim output.stdout).isEmpty then none else some (trim output.stdout)

/-- The fields of an answer of the provider that are not empty. -/
def InstanceAddress.refresh (address refreshed : InstanceAddress) : InstanceAddress :=
  { publicIp :=
      if (trim refreshed.publicIp).isEmpty then address.publicIp else refreshed.publicIp
    sshHost := if (trim refreshed.sshHost).isEmpty then address.sshHost else refreshed.sshHost
    sshPort := if refreshed.sshPort > 0 then refreshed.sshPort else address.sshPort
    status := if (trim refreshed.status).isEmpty then address.status else refreshed.status }

def RebootFlow.refresh (flow : RebootFlow) (refreshed : InstanceAddress) : RebootFlow :=
  let address := flow.address.refresh refreshed
  { flow with
    address := address
    remoteHost := if (trim address.publicIp).isEmpty then address.sshHost else address.publicIp
    remotePort := address.sshPort }

/-- The wait for the system to have booted; `none` when a thread fails. Nothing but a log
depends on whether it has. -/
def awaitSystem (states : Nat → SshAnswer) (attempt : Nat) : Nat → Option Bool
  | 0 => some false
  | left + 1 =>
      match states attempt with
      | .joinFailed => none
      | .failed => awaitSystem states (attempt + 1) left
      | .output output =>
          if trim output.stdout = "running".toList ∨ trim output.stdout = "degraded".toList then
            some true
          else awaitSystem states (attempt + 1) left

inductive Reconnected where
  | online (round : RebootRound)
  | stopped (outcome : RebootOutcome)

def reconnect (rounds : Nat → RebootRound) (flow : RebootFlow) (attempt : Nat) :
    Nat → RebootFlow × Reconnected
  | 0 => (flow, .stopped .timedOut)
  | left + 1 =>
      let round := rounds attempt
      if round.cancelled then (flow, .stopped .cancelled)
      else
        match round.refreshed with
        | none => reconnect rounds flow (attempt + 1) left
        | some refreshed =>
            match round.probe with
            | .joinFailed => (flow.refresh refreshed, .stopped .commandFailed)
            | .failed => reconnect rounds (flow.refresh refreshed) (attempt + 1) left
            | .output output =>
                if output.statusCode = 0 then (flow.refresh refreshed, .online round)
                else reconnect rounds (flow.refresh refreshed) (attempt + 1) left

def rebootReconnectAttempts : Nat := 90

def systemStateAttempts : Nat := 30

/-- `mark_server_step_completed` -/
def RebootFlow.record (flow : RebootFlow) (saved rebootConfirmed : Bool) :
    RebootFlow × RebootOutcome :=
  if saved then
    ({ flow with stepCompleted := true, history := flow.history ++ [.recorded rebootConfirmed] },
      .completed)
  else (flow, .saveFailed)

def RebootFlow.saw (flow : RebootFlow) (event : List Char → BootEvent)
    (bootId : Option (List Char)) : RebootFlow :=
  { flow with history := flow.history ++ (bootId.map event).toList }

def rebootConfirmed (old new : Option (List Char)) : Bool :=
  match old, new with
  | some old, some new => old ≠ new
  | _, _ => false

def RebootFlow.settle (flow : RebootFlow) (old : Option (List Char)) (round : RebootRound)
    (saved : Bool) : RebootFlow × RebootOutcome :=
  let new := probeRemoteBootId round.bootId
  match awaitSystem round.systemStates 1 systemStateAttempts with
  | none => (flow.saw .read new, .commandFailed)
  | some _ => (flow.saw .read new).record saved (rebootConfirmed old new)

def RebootFlow.reboot (flow : RebootFlow) (stdout : List Char) (answers : RebootAnswers) :
    RebootFlow × RebootOutcome :=
  let old := parseRebootMarkerValue stdout oldBootIdKey
  match reconnect answers.rounds (flow.saw .captured old) 1 rebootReconnectAttempts with
  | (waited, .stopped outcome) => (waited, outcome)
  | (waited, .online round) => waited.settle old round answers.saved

def ensurePostNvidiaReboot (flow : RebootFlow) (answers : RebootAnswers) :
    RebootFlow × RebootOutcome :=
  if flow.stepCompleted then (flow, .skipped)
  else
    match markerCompleted answers.marker with
    | none => (flow, .commandFailed)
    | some (some (_, current)) => (flow.saw .read (some current)).record answers.saved true
    | some none =>
        match answers.reboot with
        | .failed | .joinFailed => (flow, .commandFailed)
        | .output output => flow.reboot output.stdout answers

structure RebootCall where
  address : InstanceAddress
  remoteHost : List Char
  remotePort : Nat
  answers : RebootAnswers

def rebootStep (flow : RebootFlow) (call : RebootCall) : RebootFlow :=
  (ensurePostNvidiaReboot
    { flow with
      address := call.address
      remoteHost := call.remoteHost
      remotePort := call.remotePort } call.answers).1

def unanswered (history : List BootEvent) : Option (List Char) :=
  history.foldl (fun awaited event =>
    match event with
    | .captured bootId => some bootId
    | .read bootId => awaited.filter fun old => old = bootId
    | .recorded _ => awaited) none

def RebootHappened (flow : RebootFlow) : Prop :=
  ∀ before confirmed after, flow.history = before ++ .recorded confirmed :: after →
    unanswered before = none

def answeringRound (rounds : Nat → RebootRound) (attempt : Nat) : Nat → Option RebootRound
  | 0 => none
  | left + 1 =>
      let round := rounds attempt
      if round.cancelled then none
      else if round.refreshed.isNone then answeringRound rounds (attempt + 1) left
      else
        match round.probe with
        | .joinFailed => none
        | .failed => answeringRound rounds (attempt + 1) left
        | .output output =>
            if output.statusCode = 0 then some round
            else answeringRound rounds (attempt + 1) left

def Confirms (flow : RebootFlow) (answers : RebootAnswers) : Prop :=
  flow.stepCompleted = false → answers.saved = true →
    match markerCompleted answers.marker, answers.reboot with
    | some (some (_, current)), _ => unanswered flow.history ≠ some current
    | some none, .output output =>
        ∀ round old, answeringRound answers.rounds 1 rebootReconnectAttempts = some round →
          awaitSystem round.systemStates 1 systemStateAttempts ≠ none →
          (parseRebootMarkerValue output.stdout oldBootIdKey).or (unanswered flow.history) =
            some old →
          ∃ new, probeRemoteBootId round.bootId = some new ∧ new ≠ old
    | _, _ => True

theorem unanswered_snoc (history : List BootEvent) (event : BootEvent) :
    unanswered (history ++ [event]) =
      match event with
      | .captured bootId => some bootId
      | .read bootId => (unanswered history).filter fun old => old = bootId
      | .recorded _ => unanswered history := by
  rw [unanswered, List.foldl_append]
  rfl

theorem unanswered_read (flow : RebootFlow) (bootId : Option (List Char)) :
    unanswered (flow.saw .read bootId).history =
      match bootId with
      | none => unanswered flow.history
      | some read => (unanswered flow.history).filter fun old => old = read := by
  cases bootId with
  | none => simp [RebootFlow.saw]
  | some read => exact unanswered_snoc flow.history (.read read)

theorem unanswered_captured (flow : RebootFlow) (bootId : Option (List Char)) :
    unanswered (flow.saw .captured bootId).history = bootId.or (unanswered flow.history) := by
  cases bootId with
  | none => simp [RebootFlow.saw]
  | some captured => exact unanswered_snoc flow.history (.captured captured)

theorem happened_snoc {flow after : RebootFlow} {event : BootEvent}
    (extended : after.history = flow.history ++ [event]) :
    RebootHappened after ↔
      RebootHappened flow ∧
        ∀ confirmed, event = .recorded confirmed → unanswered flow.history = none := by
  constructor
  · intro happened
    constructor
    · intro before confirmed rest split
      exact happened before confirmed (rest ++ [event]) (by simp [extended, split])
    · intro confirmed same
      exact happened flow.history confirmed [] (by rw [extended, same])
  · intro held before confirmed rest split
    rw [extended] at split
    rcases List.eq_nil_or_concat rest with none_after | ⟨init, last, some_after⟩
    · subst none_after
      obtain ⟨same, event_eq⟩ := List.append_inj' split rfl
      rw [← same]
      exact held.2 confirmed (List.cons.inj event_eq).1
    · subst some_after
      rw [List.concat_eq_append, ← List.cons_append, ← List.append_assoc] at split
      exact held.1 before confirmed init (List.append_inj' split rfl).1

theorem happened_saw (flow : RebootFlow) {event : List Char → BootEvent}
    (plain : ∀ bootId confirmed, event bootId ≠ .recorded confirmed) (bootId : Option (List Char)) :
    RebootHappened (flow.saw event bootId) ↔ RebootHappened flow := by
  cases bootId with
  | none => simp [RebootFlow.saw, RebootHappened]
  | some read =>
      rw [@happened_snoc _ _ (event read) rfl]
      exact and_iff_left fun confirmed same => absurd same (plain read confirmed)

theorem happened_record (flow : RebootFlow) (saved confirmed : Bool) :
    RebootHappened (flow.record saved confirmed).1 ↔
      RebootHappened flow ∧ (saved = true → unanswered flow.history = none) := by
  cases saved with
  | false => simp [RebootFlow.record]
  | true =>
      rw [RebootFlow.record, if_pos rfl, @happened_snoc _ _ (.recorded confirmed) rfl]
      exact and_congr_right fun _ =>
        ⟨fun quiet _ => quiet confirmed rfl, fun quiet _ _ => quiet rfl⟩

theorem reconnect_spec (rounds : Nat → RebootRound) (flow : RebootFlow) (attempt left : Nat) :
    (reconnect rounds flow attempt left).1.history = flow.history ∧
      match answeringRound rounds attempt left, (reconnect rounds flow attempt left).2 with
      | some round, .online answered => answered = round
      | none, .stopped _ => True
      | _, _ => False := by
  induction left generalizing flow attempt with
  | zero => exact ⟨rfl, trivial⟩
  | succ left ih =>
      rw [reconnect, answeringRound]
      by_cases cancelled : (rounds attempt).cancelled = true
      · simp [cancelled]
      · cases refreshed : (rounds attempt).refreshed with
        | none => simpa [cancelled, refreshed] using ih flow (attempt + 1)
        | some address =>
            cases probe : (rounds attempt).probe with
            | joinFailed => simp [cancelled, RebootFlow.refresh]
            | failed =>
                simpa [cancelled, RebootFlow.refresh] using ih (flow.refresh address) (attempt + 1)
            | output output =>
                by_cases online : output.statusCode = 0
                · simp [cancelled, online, RebootFlow.refresh]
                · simpa [cancelled, online, RebootFlow.refresh] using
                    ih (flow.refresh address) (attempt + 1)

theorem captured_plain (bootId : List Char) (confirmed : Bool) :
    BootEvent.captured bootId ≠ .recorded confirmed := by
  simp

theorem read_plain (bootId : List Char) (confirmed : Bool) :
    BootEvent.read bootId ≠ .recorded confirmed := by
  simp

theorem filter_awaited (awaited : Option (List Char)) (read : List Char) :
    (awaited.filter fun old => old = read) = none ↔ awaited ≠ some read := by
  cases awaited with
  | none => simp
  | some old => simp

theorem happened_settle (flow : RebootFlow) (old : Option (List Char)) (round : RebootRound)
    (saved : Bool) :
    RebootHappened (flow.settle old round saved).1 ↔
      RebootHappened flow ∧
        (saved = true → awaitSystem round.systemStates 1 systemStateAttempts ≠ none →
          ∀ awaited, unanswered flow.history = some awaited →
            ∃ new, probeRemoteBootId round.bootId = some new ∧ new ≠ awaited) := by
  have reading : unanswered (flow.saw .read (probeRemoteBootId round.bootId)).history = none ↔
      ∀ awaited, unanswered flow.history = some awaited →
        ∃ new, probeRemoteBootId round.bootId = some new ∧ new ≠ awaited := by
    rw [unanswered_read]
    cases probeRemoteBootId round.bootId with
    | none => simp [Option.eq_none_iff_forall_ne_some]
    | some new =>
        rw [filter_awaited]
        cases unanswered flow.history with
        | none => simp
        | some awaited => simpa using ne_comm
  rw [RebootFlow.settle]
  cases awaitSystem round.systemStates 1 systemStateAttempts with
  | none => simpa using happened_saw flow read_plain _
  | some ready => simp [happened_record, happened_saw flow read_plain, reading]

theorem happened_reboot (flow : RebootFlow) (stdout : List Char) (answers : RebootAnswers) :
    RebootHappened (flow.reboot stdout answers).1 ↔
      RebootHappened flow ∧
        (answers.saved = true → ∀ round old,
          answeringRound answers.rounds 1 rebootReconnectAttempts = some round →
          awaitSystem round.systemStates 1 systemStateAttempts ≠ none →
          (parseRebootMarkerValue stdout oldBootIdKey).or (unanswered flow.history) = some old →
          ∃ new, probeRemoteBootId round.bootId = some new ∧ new ≠ old) := by
  obtain ⟨history, outcome⟩ := reconnect_spec answers.rounds
    (flow.saw .captured (parseRebootMarkerValue stdout oldBootIdKey)) 1 rebootReconnectAttempts
  have captured : RebootHappened (reconnect answers.rounds
      (flow.saw .captured (parseRebootMarkerValue stdout oldBootIdKey)) 1
        rebootReconnectAttempts).1 ↔ RebootHappened flow := by
    rw [RebootHappened, history]
    exact happened_saw flow captured_plain _
  rw [RebootFlow.reboot]
  cases waited : reconnect answers.rounds
    (flow.saw .captured (parseRebootMarkerValue stdout oldBootIdKey)) 1
      rebootReconnectAttempts with
  | mk after ended =>
      rw [waited] at history outcome captured
      have pending : unanswered after.history =
          (parseRebootMarkerValue stdout oldBootIdKey).or (unanswered flow.history) := by
        rw [history, unanswered_captured]
      cases ended with
      | stopped reason =>
          cases answered : answeringRound answers.rounds 1 rebootReconnectAttempts with
          | none => simpa using captured
          | some round => simp [answered] at outcome
      | online round =>
          cases answered : answeringRound answers.rounds 1 rebootReconnectAttempts with
          | none => simp [answered] at outcome
          | some first =>
              simp only [answered] at outcome
              subst outcome
              simp only [happened_settle, captured, pending]
              constructor
              · rintro ⟨held, confirms⟩
                refine ⟨held, fun saved other old same ready awaited => ?_⟩
                rw [← Option.some.inj same] at ready ⊢
                exact confirms saved ready old awaited
              · rintro ⟨held, confirms⟩
                exact ⟨held, fun saved ready old awaited =>
                  confirms saved round old rfl ready awaited⟩

theorem happened_call (flow : RebootFlow) (answers : RebootAnswers) :
    RebootHappened (ensurePostNvidiaReboot flow answers).1 ↔
      RebootHappened flow ∧ Confirms flow answers := by
  rw [ensurePostNvidiaReboot, Confirms]
  cases completed : flow.stepCompleted with
  | true => simp
  | false =>
      cases checked : markerCompleted answers.marker with
      | none => simp
      | some found =>
          cases found with
          | some ids =>
              obtain ⟨old, current⟩ := ids
              have recorded := happened_record (flow.saw .read (some current)) answers.saved true
              rw [happened_saw flow read_plain, unanswered_read] at recorded
              simp only [filter_awaited] at recorded
              simpa using recorded
          | none =>
              cases rebooted : answers.reboot with
              | failed => simp
              | joinFailed => simp
              | output output => simpa using happened_reboot flow output.stdout answers

/-- A run of the flow records the step only for reboots that have happened exactly if each call
that records it has read a boot id other than the one captured last. -/
theorem nvidia_reboot_recorded_iff (completed : Bool) (address : InstanceAddress)
    (host : List Char) (port : Nat) (calls : List RebootCall) :
    Throughout rebootStep RebootHappened ⟨completed, address, host, port, []⟩ calls ↔
      Along rebootStep (fun flow call => Confirms flow call.answers)
        ⟨completed, address, host, port, []⟩ calls := by
  have step : ∀ flow call, RebootHappened (rebootStep flow call) ↔
      RebootHappened flow ∧ Confirms flow call.answers :=
    fun flow call => happened_call _ call.answers
  refine throughout_iff_along ?_ (fun flow (held : RebootHappened flow) => held) ?_ ?_ calls
  · intro flow call held met
    exact (step flow call).mpr ⟨held, met⟩
  · intro flow call held violated happened
    exact violated ((step flow call).mp happened).2
  · intro before confirmed after split
    simp at split

namespace UnchangedBootId

def said (text : String) : SshAnswer := .output ⟨0, text.toList⟩

def call : RebootCall where
  address := ⟨"198.51.100.7".toList, "ssh5.vast.ai".toList, 22, "running".toList⟩
  remoteHost := "198.51.100.7".toList
  remotePort := 22
  answers :=
    { marker := said "POST_NVIDIA_REBOOT_MARKER_MISSING"
      reboot := said "REBOOT_SCHEDULED old_boot_id=6f1e2d3c"
      rounds := fun _ =>
        { cancelled := false
          refreshed := some ⟨"198.51.100.7".toList, "ssh5.vast.ai".toList, 22, "running".toList⟩
          probe := said "reboot-online"
          bootId := said "6f1e2d3c"
          systemStates := fun _ => said "running" }
      saved := true }

def start : RebootFlow := ⟨false, call.address, call.remoteHost, call.remotePort, []⟩

end UnchangedBootId

/-- The step is recorded with the boot id unchanged. -/
theorem nvidia_reboot_recorded_early :
    (rebootStep UnchangedBootId.start UnchangedBootId.call).stepCompleted = true ∧
      (rebootStep UnchangedBootId.start UnchangedBootId.call).history =
        [.captured "6f1e2d3c".toList, .read "6f1e2d3c".toList, .recorded false] ∧
      ¬ RebootHappened (rebootStep UnchangedBootId.start UnchangedBootId.call) := by
  have history : (rebootStep UnchangedBootId.start UnchangedBootId.call).history =
      [.captured "6f1e2d3c".toList, .read "6f1e2d3c".toList, .recorded false] := by
    decide
  refine ⟨by decide, history, ?_⟩
  intro happened
  have quiet := happened [.captured "6f1e2d3c".toList, .read "6f1e2d3c".toList] false [] history
  simp [unanswered] at quiet

end Noland.Desktop
