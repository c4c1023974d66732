import Noland.Lib.Machine
import Noland.Lib.Text
import Mathlib.Tactic.SplitIfs

/-!
A tick reads the errors that the capture has sent, polls the pipeline, watches for silence and
starts the capture again. Times are in nanoseconds. What the calls meet outside (the devices, the
clock, the counters of the capture thread, the pipeline) is given with each of them.
-/

namespace Noland.Microphone

open Noland.Machine
open Noland.Text (trim)

def devicePollInterval : Nat := 2000000000

def captureRetryInterval : Nat := 1000000000

def captureSilenceDegradeInterval : Nat := 10000000000

def captureSilenceError : String :=
  "microphone capture is running but has produced only zero samples"

inductive SidecarState where
  | idle
  | starting
  | running
  | recovering
  | stopping
  | shutdown
  deriving DecidableEq

inductive Health where
  | healthy
  | degraded
  | failed
  deriving DecidableEq

def SidecarState.debug : SidecarState → String
  | .idle => "Idle"
  | .starting => "Starting"
  | .running => "Running"
  | .recovering => "Recovering"
  | .stopping => "Stopping"
  | .shutdown => "Shutdown"

structure StateMachine where
  state : SidecarState := .idle
  health : Health := .healthy
  lastError : Option String := none

namespace StateMachine

def valid : SidecarState → SidecarState → Bool
  | .idle, .starting => true
  | .starting, .running => true
  | .starting, .recovering => true
  | .starting, .idle => true
  | .running, .recovering => true
  | .running, .stopping => true
  | .recovering, .running => true
  | .recovering, .stopping => true
  | .stopping, .idle => true
  | _, .shutdown => true
  | state, next => state = next

def transition (machine : StateMachine) (next : SidecarState) : Except String StateMachine :=
  if valid machine.state next then .ok { machine with state := next }
  else .error ("invalid sidecar state transition " ++ machine.state.debug ++ " -> " ++ next.debug)

def attempt (machine : StateMachine) (next : SidecarState) : StateMachine :=
  match machine.transition next with
  | .ok moved => moved
  | .error _ => machine

def healthy (machine : StateMachine) : StateMachine :=
  { machine with health := .healthy, lastError := none }

def degraded (machine : StateMachine) (error : String) : StateMachine :=
  { machine with health := .degraded, lastError := some error }

def failed (machine : StateMachine) (error : String) : StateMachine :=
  { machine with health := .failed, lastError := some error }

@[simp] theorem healthy_state (machine : StateMachine) :
    machine.healthy.state = machine.state := rfl

@[simp] theorem degraded_state (machine : StateMachine) (error : String) :
    (machine.degraded error).state = machine.state := rfl

@[simp] theorem failed_state (machine : StateMachine) (error : String) :
    (machine.failed error).state = machine.state := rfl

theorem attempt_state (machine : StateMachine) (next : SidecarState) :
    (machine.attempt next).state = if valid machine.state next then next else machine.state := by
  unfold attempt transition
  by_cases allowed : valid machine.state next = true <;> simp [allowed]

end StateMachine

inductive SourceKind where
  | microphone
  | sine
  deriving DecidableEq

structure SessionConfig where
  sessionId : List Char
  host : List Char
  rtpPort : UInt16
  rtcpPort : Option UInt16
  rtcpListenPort : UInt16
  bitrate : UInt32
  frameMs : UInt32
  packetLossPercent : UInt32
  source : SourceKind

def bitrateError : String := "bitrate must be between 6000 and 128000 bits/s"

def bitrateAllowed (bitrate : UInt32) : Bool := 6000 ≤ bitrate && bitrate ≤ 128000

def checkedAdd (port more : UInt16) : Option UInt16 :=
  if port.toNat + more.toNat < 65536 then some (port + more) else none

namespace SessionConfig

def resolvedRtcpPort (config : SessionConfig) : Except String UInt16 :=
  match config.rtcpPort.or (checkedAdd config.rtpPort 1) with
  | some port => .ok port
  | none => .error "rtcpPort is required when rtpPort is 65535"

def resolvedRtcpListenPort (config : SessionConfig) : Except String UInt16 :=
  if config.rtcpListenPort ≠ 0 then .ok config.rtcpListenPort
  else
    match checkedAdd config.rtpPort 2 with
    | some port => .ok port
    | none => .error "rtcpListenPort is required when rtpPort cannot derive a separate port"

def validate (config : SessionConfig) : Except String Unit :=
  if trim config.sessionId = [] then .error "sessionId must not be empty"
  else if trim config.host = [] then .error "host must not be empty"
  else if config.rtpPort = 0 then .error "rtpPort must be non-zero"
  else config.resolvedRtcpPort.bind fun _ => config.resolvedRtcpListenPort.bind fun _ =>
    if config.frameMs ≠ 10 then .error "only 10 ms Opus frames are supported"
    else if !bitrateAllowed config.bitrate then .error bitrateError
    else if 100 < config.packetLossPercent then
      .error "packetLossPercent must be between 0 and 100"
    else .ok ()

theorem ports_of_bind {config : SessionConfig} {rest : Except String Unit}
    (checked : (config.resolvedRtcpPort.bind fun _ => config.resolvedRtcpListenPort.bind
      fun _ => rest) = .ok ()) :
    ∃ port, (config.resolvedRtcpPort.bind fun _ => config.resolvedRtcpListenPort) = .ok port := by
  cases rtcp : config.resolvedRtcpPort with
  | error error => simp [rtcp, Except.bind] at checked
  | ok port =>
      cases listen : config.resolvedRtcpListenPort with
      | error error => simp [rtcp, listen, Except.bind] at checked
      | ok other => exact ⟨other, rfl⟩

theorem ports_of_validate {config : SessionConfig} (checked : config.validate = .ok ()) :
    ∃ port, (config.resolvedRtcpPort.bind fun _ => config.resolvedRtcpListenPort) = .ok port := by
  unfold validate at checked
  split_ifs at checked <;> exact ports_of_bind checked

end SessionConfig

abbrev DeviceId := List Char

/-- An error of a capture in the channel. The source sends the error alone: the capture and
the session it comes from are kept here to be spoken of. -/
structure CaptureSignal where
  error : String
  capture : Nat
  session : Nat

structure HandledSignal where
  signal : CaptureSignal
  capture : Option Nat
  session : Option Nat

structure CaptureStarted where
  activeDeviceId : DeviceId
  usedFallback : Bool

/-- What a start of the capture meets: the errors that the capture it replaces sends meanwhile,
those that its own sends before it is done, its outcome, the time and the count of samples. -/
structure CaptureStart where
  signalled : List String
  sent : List String
  outcome : Except String CaptureStarted
  time : Nat
  nonzeroSamples : Nat

/-- The last three fields are not in the source: the number of sessions begun, whether the
pipeline of the session has reported an error, and the signals read so far. -/
structure Daemon where
  machine : StateMachine := {}
  handle : Option Nat := none
  generation : Nat := 0
  activeDeviceId : Option DeviceId := none
  waiting : List CaptureSignal := []
  pipeline : Bool := false
  muted : Bool := false
  selectedDeviceId : Option DeviceId := none
  sessionConfig : Option SessionConfig := none
  captureStartedAt : Option Nat := none
  captureNonzeroObserved : Nat := 0
  captureLastNonzeroAt : Option Nat := none
  captureSilenceDegraded : Bool := false
  retryAt : Nat
  nextDevicePoll : Nat
  sessions : Nat := 0
  pipelineFailed : Bool := false
  handled : List HandledSignal := []

structure TickEnvironment where
  readAt : Nat
  readNonzeroSamples : Nat
  pipelineError : Option String
  now : Nat
  nonzeroSamples : Nat
  deviceAvailable : DeviceId → Bool
  defaultDevice : Option DeviceId
  capture : CaptureStart

namespace Daemon

def new (now : Nat) : Daemon := { retryAt := now, nextDevicePoll := now }

def session (daemon : Daemon) : Option Nat := if daemon.pipeline then some daemon.sessions else none

def sentBy (daemon : Daemon) (capture : Nat) (errors : List String) : List CaptureSignal :=
  errors.map fun error => { error := error, capture := capture, session := daemon.sessions }

def signals (daemon : Daemon) (errors : List String) : List CaptureSignal :=
  match daemon.handle with
  | some capture => daemon.sentBy capture errors
  | none => []

def captureStop (daemon : Daemon) : Daemon :=
  { daemon with handle := none, activeDeviceId := none }

def clearCaptureHealth (daemon : Daemon) (nonzeroSamples : Nat) : Daemon :=
  { daemon with
    captureStartedAt := none
    captureNonzeroObserved := nonzeroSamples
    captureLastNonzeroAt := none
    captureSilenceDegraded := false }

def fallbackMessage : String :=
  "selected device is unavailable; capturing from the default device while retrying"

def restartCapture (daemon : Daemon) (start : CaptureStart) : Daemon × Except String Unit :=
  let tried := { daemon with
    generation := daemon.generation + 1
    waiting := daemon.waiting ++ daemon.signals start.signalled ++
      daemon.sentBy (daemon.generation + 1) start.sent }
  match start.outcome with
  | .ok started =>
      let capturing := { tried with
        handle := some tried.generation
        activeDeviceId := some started.activeDeviceId
        captureStartedAt := some start.time
        captureNonzeroObserved := start.nonzeroSamples
        captureLastNonzeroAt := some start.time
        captureSilenceDegraded := false }
      if started.usedFallback then
        ({ capturing with
          machine := (daemon.machine.attempt .recovering).degraded fallbackMessage
          retryAt := start.time + captureRetryInterval }, .ok ())
      else ({ capturing with machine := (daemon.machine.attempt .running).healthy }, .ok ())
  | .error error =>
      ({ tried.captureStop.clearCaptureHealth start.nonzeroSamples with
        machine := (daemon.machine.attempt .recovering).degraded error
        retryAt := start.time + captureRetryInterval }, .error error)

def stopSession (daemon : Daemon) (nonzeroSamples : Nat) : Daemon :=
  if !daemon.pipeline then daemon
  else
    { daemon.captureStop.clearCaptureHealth nonzeroSamples with
      machine := ((daemon.machine.attempt .stopping).attempt .idle).healthy
      pipeline := false
      sessionConfig := none
      pipelineFailed := false }

def shutdown (daemon : Daemon) (nonzeroSamples : Nat) : Daemon :=
  let stopped := daemon.stopSession nonzeroSamples
  { stopped with machine := stopped.machine.attempt .shutdown }

def begun (daemon : Daemon) (machine : StateMachine) (config : SessionConfig) : Daemon :=
  { daemon with
    machine := machine
    pipeline := true
    sessionConfig := some config
    sessions := daemon.sessions + 1 }

def startSession (daemon : Daemon) (config : SessionConfig) (pipeline : Except String Unit)
    (capture : CaptureStart) : Daemon × Except String Unit :=
  if daemon.pipeline then (daemon, .error "a session is already active")
  else
    match config.validate with
    | .error error => (daemon, .error error)
    | .ok () =>
        match daemon.machine.transition .starting with
        | .error error => (daemon, .error error)
        | .ok machine =>
            match pipeline with
            | .error error =>
                ({ daemon with machine := (machine.attempt .idle).failed error }, .error error)
            | .ok () =>
                -- the event that announces the session names the two ports
                match config.resolvedRtcpPort.bind fun _ => config.resolvedRtcpListenPort with
                | .error error => ({ daemon with machine := machine }, .error error)
                | .ok _ =>
                    match (daemon.begun machine config).restartCapture capture with
                    | (capturing, .ok ()) => (capturing, .ok ())
                    | (silent, .error error) =>
                        let stopped := silent.stopSession capture.nonzeroSamples
                        ({ stopped with machine := stopped.machine.failed error },
                          .error ("microphone capture failed to start: " ++ error))

def selectDevice (daemon : Daemon) (deviceId : Option DeviceId) (capture : CaptureStart) :
    Daemon × Except String Unit :=
  let selected := { daemon with
    selectedDeviceId := deviceId.filter fun id => trim id ≠ [] && id ≠ "default".toList }
  match daemon.sessionConfig with
  | some config =>
      if config.source = .microphone then selected.restartCapture capture
      else (selected, .ok ())
  | none => (selected, .ok ())

def setBitrate (daemon : Daemon) (bitrate : UInt32) : Daemon × Except String Unit :=
  if bitrateAllowed bitrate then
    ({ daemon with sessionConfig :=
        daemon.sessionConfig.map fun config => { config with bitrate := bitrate } }, .ok ())
  else (daemon, .error bitrateError)

def handleSignal (tick : TickEnvironment) (daemon : Daemon) (signal : CaptureSignal) : Daemon :=
  { daemon.captureStop.clearCaptureHealth tick.readNonzeroSamples with
    machine := (daemon.machine.attempt .recovering).degraded
      ("microphone capture stream failed: " ++ signal.error)
    retryAt := tick.readAt + captureRetryInterval
    handled := daemon.handled ++
      [{ signal := signal, capture := daemon.handle, session := daemon.session }] }

def readSignals (daemon : Daemon) (tick : TickEnvironment) : Daemon :=
  daemon.waiting.foldl (handleSignal tick) { daemon with waiting := [] }

def pollPipeline (daemon : Daemon) (tick : TickEnvironment) : Daemon :=
  match if daemon.pipeline then tick.pipelineError else none with
  | some error => { daemon with machine := daemon.machine.failed error, pipelineFailed := true }
  | none => daemon

def updateCaptureHealth (daemon : Daemon) (now nonzeroSamples : Nat) : Daemon :=
  match daemon.captureStartedAt with
  | none => daemon
  | some startedAt =>
      if daemon.captureNonzeroObserved < nonzeroSamples then
        let heard := { daemon with
          captureNonzeroObserved := nonzeroSamples
          captureLastNonzeroAt := some now
          captureSilenceDegraded := false }
        if daemon.captureSilenceDegraded && daemon.machine.health = .degraded &&
            daemon.machine.lastError = some captureSilenceError then
          { heard with machine := daemon.machine.healthy }
        else heard
      else if !daemon.captureSilenceDegraded && daemon.machine.state = .running &&
          captureSilenceDegradeInterval ≤ now - daemon.captureLastNonzeroAt.getD startedAt then
        { daemon with
          captureSilenceDegraded := true
          machine := daemon.machine.degraded captureSilenceError }
      else daemon

def deviceChanged (daemon : Daemon) (tick : TickEnvironment) (active : Option DeviceId) : Bool :=
  match daemon.selectedDeviceId with
  | some preferred => active ≠ some preferred || !tick.deviceAvailable preferred
  | none => tick.defaultDevice ≠ active

def followDevice (daemon : Daemon) (tick : TickEnvironment) : Daemon :=
  if daemon.activeDeviceId.isNone && daemon.retryAt ≤ tick.now then
    (daemon.restartCapture tick.capture).1
  else if tick.now < daemon.nextDevicePoll then daemon
  else
    let polled := { daemon with nextDevicePoll := tick.now + devicePollInterval }
    if polled.deviceChanged tick polled.activeDeviceId then
      (polled.restartCapture tick.capture).1
    else polled

def tick (daemon : Daemon) (tick : TickEnvironment) : Daemon :=
  let polled := (daemon.readSignals tick).pollPipeline tick
  match polled.sessionConfig with
  | none => polled
  | some config =>
      if config.source = .sine then polled
      else (polled.updateCaptureHealth tick.now tick.nonzeroSamples).followDevice tick

end Daemon

inductive Command where
  | selectDevice (deviceId : Option DeviceId) (capture : CaptureStart)
  | startSession (config : SessionConfig) (pipeline : Except String Unit) (capture : CaptureStart)
  | stopSession (nonzeroSamples : Nat)
  | mute
  | unmute
  | setBitrate (bitrate : UInt32)
  | shutdown (nonzeroSamples : Nat)

inductive Event where
  | request (command : Command)
  | tick (environment : TickEnvironment)
  | captureError (error : String)

namespace Daemon

def handleRequest (daemon : Daemon) : Command → Daemon × Except String Unit
  | .selectDevice deviceId capture => daemon.selectDevice deviceId capture
  | .startSession config pipeline capture => daemon.startSession config pipeline capture
  | .stopSession nonzeroSamples => (daemon.stopSession nonzeroSamples, .ok ())
  | .mute => ({ daemon with muted := true }, .ok ())
  | .unmute => ({ daemon with muted := false }, .ok ())
  | .setBitrate bitrate => daemon.setBitrate bitrate
  | .shutdown nonzeroSamples => (daemon.shutdown nonzeroSamples, .ok ())

def step (daemon : Daemon) : Event → Daemon
  | .request command => (daemon.handleRequest command).1
  | .tick environment => daemon.tick environment
  | .captureError error => { daemon with waiting := daemon.waiting ++ daemon.signals [error] }

end Daemon

def SidecarState.Active (state : SidecarState) : Prop := state = .running ∨ state = .recovering

instance (state : SidecarState) : Decidable state.Active :=
  inferInstanceAs (Decidable (_ ∨ _))

namespace Daemon

structure Consistent (daemon : Daemon) : Prop where
  settled : daemon.machine.state ≠ .starting ∧ daemon.machine.state ≠ .stopping
  pipeline : daemon.pipeline = true ↔ daemon.machine.state.Active
  config : daemon.sessionConfig.isSome = true ↔ daemon.machine.state.Active

/-- The fields of the session stay, and the state too unless it is one of a session. -/
structure Keeps (before after : Daemon) : Prop where
  pipeline : after.pipeline = before.pipeline
  config : after.sessionConfig.isSome = before.sessionConfig.isSome
  failed : after.pipelineFailed = before.pipelineFailed
  sessions : after.sessions = before.sessions
  state : after.machine.state = before.machine.state ∨
    (before.machine.state.Active ∧ after.machine.state.Active)

variable {daemon before after : Daemon} {tick : TickEnvironment}

theorem Keeps.rfl : daemon.Keeps daemon := ⟨Eq.refl _, Eq.refl _, Eq.refl _,
  Eq.refl _, Or.inl (Eq.refl _)⟩

theorem Keeps.trans {first second third : Daemon} (one : first.Keeps second)
    (two : second.Keeps third) : first.Keeps third := by
  refine ⟨two.pipeline.trans one.pipeline, two.config.trans one.config,
    two.failed.trans one.failed, two.sessions.trans one.sessions, ?_⟩
  cases one.state with
  | inl same =>
      rw [← same]
      exact two.state
  | inr active =>
      cases two.state with
      | inl same => exact Or.inr ⟨active.1, same ▸ active.2⟩
      | inr both => exact Or.inr ⟨active.1, both.2⟩

theorem Consistent.keeps (consistent : before.Consistent) (keeps : before.Keeps after) :
    after.Consistent := by
  have settled := consistent.settled
  have states : (after.machine.state ≠ .starting ∧ after.machine.state ≠ .stopping) ∧
      (after.machine.state.Active ↔ before.machine.state.Active) := by
    cases keeps.state with
    | inl same => rw [same]; exact ⟨settled, Iff.rfl⟩
    | inr active =>
        refine ⟨?_, iff_of_true active.2 active.1⟩
        cases active.2 with
        | inl running => rw [running]; decide
        | inr recovering => rw [recovering]; decide
  exact ⟨states.1, by rw [keeps.pipeline, states.2]; exact consistent.pipeline,
    by rw [keeps.config, states.2]; exact consistent.config⟩

theorem attempt_active {machine : StateMachine} {next : SidecarState} (goal : next.Active)
    (able : machine.state = .starting ∨ machine.state.Active) :
    (machine.attempt next).state = next := by
  rw [StateMachine.attempt_state]
  apply if_pos
  cases goal with
  | inl running => rcases able with state | state | state <;> rw [state, running] <;> rfl
  | inr recovering => rcases able with state | state | state <;> rw [state, recovering] <;> rfl

theorem restartCapture_state (start : CaptureStart)
    (able : daemon.machine.state = .starting ∨ daemon.machine.state.Active) :
    (daemon.restartCapture start).1.machine.state.Active := by
  have recovers : (daemon.machine.attempt .recovering).state = .recovering :=
    attempt_active (Or.inr rfl) able
  have runs : (daemon.machine.attempt .running).state = .running :=
    attempt_active (Or.inl rfl) able
  unfold restartCapture
  cases start.outcome with
  | error error => exact Or.inr recovers
  | ok started =>
      cases fallback : started.usedFallback with
      | true => exact Or.inr (by simpa [fallback] using recovers)
      | false => exact Or.inl (by simpa [fallback] using runs)

theorem restartCapture_fields (daemon : Daemon) (start : CaptureStart) :
    (daemon.restartCapture start).1.pipeline = daemon.pipeline ∧
      (daemon.restartCapture start).1.sessionConfig = daemon.sessionConfig ∧
      (daemon.restartCapture start).1.pipelineFailed = daemon.pipelineFailed ∧
      (daemon.restartCapture start).1.sessions = daemon.sessions ∧
      (daemon.restartCapture start).1.handled = daemon.handled := by
  unfold restartCapture
  cases start.outcome with
  | error error => exact ⟨rfl, rfl, rfl, rfl, rfl⟩
  | ok started => cases fallback : started.usedFallback <;> simp [fallback]

theorem restartCapture_keeps (start : CaptureStart) (active : daemon.machine.state.Active) :
    daemon.Keeps (daemon.restartCapture start).1 := by
  obtain ⟨pipeline, config, failed, sessions, _⟩ := restartCapture_fields daemon start
  exact ⟨pipeline, congrArg Option.isSome config, failed, sessions,
    Or.inr ⟨active, restartCapture_state start (Or.inr active)⟩⟩

theorem handleSignal_keeps (tick : TickEnvironment) (signal : CaptureSignal)
    (settled : daemon.machine.state ≠ .starting ∧ daemon.machine.state ≠ .stopping) :
    daemon.Keeps (handleSignal tick daemon signal) := by
  refine ⟨rfl, rfl, rfl, rfl, ?_⟩
  change (daemon.machine.attempt .recovering).state = _ ∨
    _ ∧ SidecarState.Active (daemon.machine.attempt .recovering).state
  rw [StateMachine.attempt_state]
  unfold SidecarState.Active
  cases state : daemon.machine.state <;> simp_all [StateMachine.valid]

theorem readSignals_keeps (tick : TickEnvironment) (consistent : daemon.Consistent) :
    daemon.Keeps (daemon.readSignals tick) := by
  have handled : ∀ (signals : List CaptureSignal) (daemon : Daemon), daemon.Consistent →
      daemon.Keeps (signals.foldl (handleSignal tick) daemon) := by
    intro signals
    induction signals with
    | nil => exact fun _ _ => Keeps.rfl
    | cons signal rest ih =>
        intro daemon consistent
        have first := handleSignal_keeps tick signal consistent.settled
        exact first.trans (ih _ (consistent.keeps first))
  have emptied : daemon.Keeps { daemon with waiting := [] } :=
    ⟨rfl, rfl, rfl, rfl, Or.inl rfl⟩
  exact emptied.trans (handled daemon.waiting _ (consistent.keeps emptied))

theorem pollPipeline_consistent (tick : TickEnvironment) (consistent : daemon.Consistent) :
    (daemon.pollPipeline tick).Consistent := by
  unfold pollPipeline
  split
  · exact ⟨consistent.settled, consistent.pipeline, consistent.config⟩
  · exact consistent

theorem updateCaptureHealth_keeps (daemon : Daemon) (now nonzeroSamples : Nat) :
    daemon.Keeps (daemon.updateCaptureHealth now nonzeroSamples) := by
  unfold updateCaptureHealth
  split
  · exact Keeps.rfl
  · dsimp only
    split_ifs <;> exact ⟨rfl, rfl, rfl, rfl, Or.inl rfl⟩

def restartDue (daemon : Daemon) (tick : TickEnvironment) (active : Option DeviceId)
    (retryAt : Nat) : Bool :=
  (active.isNone && retryAt ≤ tick.now) ||
    (daemon.nextDevicePoll ≤ tick.now && daemon.deviceChanged tick active)

theorem followDevice_eq (daemon : Daemon) (tick : TickEnvironment) :
    ∃ poll, daemon.followDevice tick =
      if daemon.restartDue tick daemon.activeDeviceId daemon.retryAt then
        ({ daemon with nextDevicePoll := poll }.restartCapture tick.capture).1
      else { daemon with nextDevicePoll := poll } := by
  unfold followDevice restartDue
  by_cases retry : (daemon.activeDeviceId.isNone && decide (daemon.retryAt ≤ tick.now)) = true
  · exact ⟨daemon.nextDevicePoll, by simp only [retry, Bool.true_or, if_true]⟩
  · rw [if_neg retry, Bool.eq_false_iff.mpr retry, Bool.false_or]
    by_cases early : tick.now < daemon.nextDevicePoll
    · have notPolled : ¬ daemon.nextDevicePoll ≤ tick.now := Nat.not_le.mpr early
      exact ⟨daemon.nextDevicePoll, by simp [early, notPolled]⟩
    · refine ⟨tick.now + devicePollInterval, ?_⟩
      simp only [early, if_false, Nat.not_lt.mp early, decide_true, Bool.true_and]
      rfl

theorem followDevice_keeps (tick : TickEnvironment) (active : daemon.machine.state.Active) :
    daemon.Keeps (daemon.followDevice tick) := by
  obtain ⟨poll, same⟩ := followDevice_eq daemon tick
  have polled : daemon.Keeps { daemon with nextDevicePoll := poll } :=
    ⟨rfl, rfl, rfl, rfl, Or.inl rfl⟩
  rw [same]
  split
  · exact polled.trans (restartCapture_keeps tick.capture active)
  · exact polled

theorem tick_consistent (tick : TickEnvironment) (consistent : daemon.Consistent) :
    (daemon.tick tick).Consistent := by
  have polled : ((daemon.readSignals tick).pollPipeline tick).Consistent :=
    pollPipeline_consistent tick (consistent.keeps (readSignals_keeps tick consistent))
  unfold Daemon.tick
  dsimp only
  split
  · exact polled
  · rename_i config present
    split
    · exact polled
    · have checked := updateCaptureHealth_keeps
        ((daemon.readSignals tick).pollPipeline tick) tick.now tick.nonzeroSamples
      have consistent := polled.keeps checked
      refine consistent.keeps (followDevice_keeps tick (consistent.config.mp ?_))
      rw [checked.config, present]
      rfl

theorem stopSession_pipeline (daemon : Daemon) (nonzeroSamples : Nat) :
    (daemon.stopSession nonzeroSamples).pipeline = false := by
  cases present : daemon.pipeline <;> simp [stopSession, present]

theorem stopSession_consistent (nonzeroSamples : Nat) (consistent : daemon.Consistent) :
    (daemon.stopSession nonzeroSamples).Consistent := by
  cases present : daemon.pipeline with
  | false => simpa [stopSession, present] using consistent
  | true =>
      have idle : ((daemon.machine.attempt .stopping).attempt .idle).state = .idle := by
        simp only [StateMachine.attempt_state]
        rcases consistent.pipeline.mp present with state | state <;> rw [state] <;> rfl
      simp only [stopSession, present, Bool.not_true, Bool.false_eq_true, if_false]
      constructor <;> simp [idle, SidecarState.Active]

theorem restartCapture_result (daemon : Daemon) (start : CaptureStart) :
    (daemon.restartCapture start).2 = start.outcome.map fun _ => () := by
  unfold restartCapture
  cases start.outcome with
  | error error => rfl
  | ok started => cases fallback : started.usedFallback <;> simp [fallback] <;> rfl

theorem transition_ok {machine moved : StateMachine} {next : SidecarState}
    (done : machine.transition next = .ok moved) :
    StateMachine.valid machine.state next = true ∧ moved = { machine with state := next } := by
  unfold StateMachine.transition at done
  split_ifs at done with allowed
  exact ⟨allowed, (Except.ok.inj done).symm⟩

theorem startSession_cases (config : SessionConfig) (pipeline : Except String Unit)
    (capture : CaptureStart) (consistent : daemon.Consistent) :
    (daemon.startSession config pipeline capture).1 = daemon ∨
      (∃ machine, machine.state = .idle ∧ daemon.machine.state = .idle ∧
        (daemon.startSession config pipeline capture).1 = { daemon with machine := machine }) ∨
      (daemon.machine.state = .idle ∧ config.validate = .ok () ∧ pipeline = .ok () ∧
        ∃ machine, machine.state = .starting ∧
          (((∃ started, capture.outcome = .ok started) ∧
            (daemon.startSession config pipeline capture).1 =
              ((daemon.begun machine config).restartCapture capture).1) ∨
          ∃ stopped error,
            stopped = ((daemon.begun machine config).restartCapture capture).1.stopSession
              capture.nonzeroSamples ∧
            (daemon.startSession config pipeline capture).1 =
              { stopped with machine := stopped.machine.failed error })) := by
  unfold startSession
  cases absent : daemon.pipeline with
  | true => exact Or.inl rfl
  | false =>
      simp only [Bool.false_eq_true, if_false]
      cases valid : config.validate with
      | error error => exact Or.inl rfl
      | ok checked =>
          obtain ⟨port, ports⟩ := SessionConfig.ports_of_validate valid
          cases moved : daemon.machine.transition .starting with
          | error error => exact Or.inl rfl
          | ok machine =>
              obtain ⟨allowed, starting⟩ := transition_ok moved
              have idle : daemon.machine.state = .idle := by
                have settled := consistent.settled.1
                cases state : daemon.machine.state <;> simp_all [StateMachine.valid]
              cases pipeline with
              | error error =>
                  refine Or.inr (Or.inl ⟨_, ?_, idle, rfl⟩)
                  simp [StateMachine.attempt_state, StateMachine.valid, starting]
              | ok made =>
                  refine Or.inr (Or.inr ⟨idle, rfl, rfl, machine, by rw [starting], ?_⟩)
                  have result := restartCapture_result (daemon.begun machine config) capture
                  simp only [ports]
                  rcases pair : (daemon.begun machine config).restartCapture capture with
                    ⟨after, answer⟩
                  rw [pair] at result
                  cases outcome : capture.outcome with
                  | error error =>
                      rw [outcome] at result
                      obtain rfl : answer = .error error := result
                      exact Or.inr ⟨_, error, rfl, rfl⟩
                  | ok started =>
                      rw [outcome] at result
                      obtain rfl : answer = .ok () := result
                      exact Or.inl ⟨⟨started, rfl⟩, rfl⟩

theorem startSession_consistent (config : SessionConfig) (pipeline : Except String Unit)
    (capture : CaptureStart) (consistent : daemon.Consistent) :
    (daemon.startSession config pipeline capture).1.Consistent := by
  have capturing : ∀ machine, machine.state = .starting →
      ((daemon.begun machine config).restartCapture capture).1.Consistent := by
    intro machine starting
    have fields := restartCapture_fields (daemon.begun machine config) capture
    have able : (daemon.begun machine config).machine.state = .starting ∨
        (daemon.begun machine config).machine.state.Active := Or.inl starting
    have active := restartCapture_state capture able
    have settled := active
    refine ⟨?_, iff_of_true fields.1 active, iff_of_true ?_ active⟩
    · cases settled with
      | inl running => rw [running]; decide
      | inr recovering => rw [recovering]; decide
    · rw [fields.2.1]
      rfl
  rcases startSession_cases config pipeline capture consistent with
    same | ⟨machine, idle, before, same⟩ | ⟨idle, _, _, machine, starting, same⟩
  · rw [same]
    exact consistent
  · have inactive : ¬ daemon.machine.state.Active := by rw [before]; decide
    have still : ¬ machine.state.Active := by rw [idle]; decide
    rw [same]
    refine ⟨by rw [idle]; decide, iff_of_false ?_ still, iff_of_false ?_ still⟩
    · exact fun present => inactive (consistent.pipeline.mp present)
    · exact fun present => inactive (consistent.config.mp present)
  · rcases same with ⟨_, same⟩ | ⟨stopped, error, rfl, same⟩
    · rw [same]
      exact capturing machine starting
    · have halted := stopSession_consistent capture.nonzeroSamples (capturing machine starting)
      rw [same]
      exact ⟨halted.settled, halted.pipeline, halted.config⟩

theorem step_consistent (event : Event) (consistent : daemon.Consistent) :
    (daemon.step event).Consistent := by
  cases event with
  | tick environment => exact tick_consistent environment consistent
  | captureError error => exact ⟨consistent.settled, consistent.pipeline, consistent.config⟩
  | request command =>
      cases command with
      | mute => exact ⟨consistent.settled, consistent.pipeline, consistent.config⟩
      | unmute => exact ⟨consistent.settled, consistent.pipeline, consistent.config⟩
      | stopSession nonzeroSamples => exact stopSession_consistent nonzeroSamples consistent
      | startSession config pipeline capture =>
          exact startSession_consistent config pipeline capture consistent
      | setBitrate bitrate =>
          change (daemon.setBitrate bitrate).1.Consistent
          unfold setBitrate
          split
          · exact ⟨consistent.settled, consistent.pipeline, by
              simpa using consistent.config⟩
          · exact consistent
      | shutdown nonzeroSamples =>
          have stopped := stopSession_consistent nonzeroSamples consistent
          have absent := stopSession_pipeline daemon nonzeroSamples
          have inactive : ¬ (daemon.stopSession nonzeroSamples).machine.state.Active := by
            rw [← stopped.pipeline, absent]
            decide
          have down : (daemon.shutdown nonzeroSamples).machine.state = .shutdown := by
            simp only [shutdown, StateMachine.attempt_state]
            cases (daemon.stopSession nonzeroSamples).machine.state <;> rfl
          have still : ¬ (daemon.shutdown nonzeroSamples).machine.state.Active := by
            rw [down]
            decide
          refine ⟨?_, iff_of_false ?_ still, iff_of_false ?_ still⟩
          · change (daemon.shutdown nonzeroSamples).machine.state ≠ _ ∧
              (daemon.shutdown nonzeroSamples).machine.state ≠ _
            rw [down]
            decide
          · exact fun present => inactive (stopped.pipeline.mp present)
          · exact fun present => inactive (stopped.config.mp present)
      | selectDevice deviceId capture =>
          change (daemon.selectDevice deviceId capture).1.Consistent
          have selected : ∀ id, ({ daemon with selectedDeviceId := id } : Daemon).Consistent :=
            fun _ => ⟨consistent.settled, consistent.pipeline, consistent.config⟩
          unfold selectDevice
          dsimp only
          split
          · rename_i config present
            split
            · refine (selected _).keeps (restartCapture_keeps capture ?_)
              exact consistent.config.mp (by rw [present]; rfl)
            · exact selected _
          · exact selected _

theorem consistent_of_reached {begins : Daemon → Prop} {meets : Daemon → Event → Prop}
    (fresh : ∀ daemon, begins daemon → ∃ now, daemon = new now)
    (reached : Reached step begins meets daemon) : daemon.Consistent := by
  refine reached.invariant ?_ fun daemon event _ consistent _ => step_consistent event consistent
  intro daemon start
  obtain ⟨now, rfl⟩ := fresh daemon start
  constructor <;> simp [new, SidecarState.Active]

def Fits (signal : CaptureSignal) (capture session : Option Nat) : Prop :=
  (∀ running, capture = some running → running = signal.capture) ∧
    (∀ running, session = some running → running = signal.session)

/-- Each error that was read came from the capture that ran when it was, and from the session
that ran then. -/
def Unharmed (daemon : Daemon) : Prop :=
  ∀ handled ∈ daemon.handled, Fits handled.signal handled.capture handled.session

structure Attributed (daemon : Daemon) : Prop where
  capturing : daemon.handle.isSome = true → daemon.pipeline = true
  waiting : ∀ signal ∈ daemon.waiting, Fits signal daemon.handle daemon.session
  handled : daemon.Unharmed

theorem Fits.stopped {signal : CaptureSignal} {capture session : Option Nat}
    (fits : Fits signal capture session) : Fits signal none session :=
  ⟨fun _ running => (nomatch running), fits.2⟩

theorem Fits.outside {signal : CaptureSignal} : Fits signal none none :=
  ⟨fun _ running => (nomatch running), fun _ running => (nomatch running)⟩

theorem sentBy_fit (daemon : Daemon) (capture : Nat) (errors : List String) :
    ∀ signal ∈ daemon.sentBy capture errors, Fits signal (some capture) daemon.session := by
  intro signal member
  obtain ⟨error, _, rfl⟩ := List.mem_map.mp member
  refine ⟨fun other same => (Option.some.inj same).symm, ?_⟩
  intro other same
  unfold session at same
  split_ifs at same
  exact (Option.some.inj same).symm

theorem signals_fit (daemon : Daemon) (errors : List String) :
    ∀ signal ∈ daemon.signals errors, Fits signal daemon.handle daemon.session := by
  intro signal member
  unfold signals at member
  cases capture : daemon.handle with
  | none => simp [capture] at member
  | some running =>
      rw [capture] at member
      exact sentBy_fit daemon running errors signal member

theorem restartCapture_attributed {start : CaptureStart} (attributed : daemon.Attributed)
    (present : daemon.pipeline = true)
    (clear : start.outcome.isOk = true → daemon.waiting ++ daemon.signals start.signalled = []) :
    (daemon.restartCapture start).1.Attributed := by
  have fields := restartCapture_fields daemon start
  refine ⟨fun _ => fields.1.trans present, ?_, ?_⟩
  · have same : (daemon.restartCapture start).1.session = daemon.session := by
      simp only [session, fields.1, fields.2.2.2.1]
    rw [same]
    intro signal
    unfold restartCapture
    cases outcome : start.outcome with
    | ok started =>
        have none := clear (by rw [outcome]; rfl)
        have own := sentBy_fit daemon (daemon.generation + 1) start.sent signal
        cases fallback : started.usedFallback <;> simpa [fallback, none] using own
    | error error =>
        intro member
        rcases List.mem_append.mp member with earlier | own
        · rcases List.mem_append.mp earlier with before | sent
          · exact (attributed.waiting signal before).stopped
          · exact (signals_fit daemon _ signal sent).stopped
        · exact (sentBy_fit daemon _ _ signal own).stopped
  · unfold Unharmed
    rw [fields.2.2.2.2]
    exact attributed.handled

theorem handleSignals_unharmed (tick : TickEnvironment) (signals : List CaptureSignal)
    (daemon : Daemon) (fits : ∀ signal ∈ signals, Fits signal daemon.handle daemon.session)
    (unharmed : daemon.Unharmed) : (signals.foldl (handleSignal tick) daemon).Unharmed := by
  induction signals generalizing daemon with
  | nil => exact unharmed
  | cons signal rest ih =>
      apply ih
      · intro later member
        exact (fits later (List.mem_cons_of_mem signal member)).stopped
      · intro record member
        cases List.mem_append.mp member with
        | inl before => exact unharmed record before
        | inr last =>
            rw [List.mem_singleton.mp last]
            exact fits signal List.mem_cons_self

structure SameDevice (before after : Daemon) : Prop where
  handle : after.handle = before.handle
  active : after.activeDeviceId = before.activeDeviceId
  retryAt : after.retryAt = before.retryAt
  poll : after.nextDevicePoll = before.nextDevicePoll
  selected : after.selectedDeviceId = before.selectedDeviceId
  waiting : after.waiting = before.waiting
  handled : after.handled = before.handled
  pipeline : after.pipeline = before.pipeline
  sessions : after.sessions = before.sessions
  config : after.sessionConfig = before.sessionConfig

theorem pollPipeline_sameDevice (daemon : Daemon) (tick : TickEnvironment) :
    daemon.SameDevice (daemon.pollPipeline tick) := by
  unfold pollPipeline
  split <;> exact ⟨rfl, rfl, rfl, rfl, rfl, rfl, rfl, rfl, rfl, rfl⟩

theorem updateCaptureHealth_sameDevice (daemon : Daemon) (now nonzeroSamples : Nat) :
    daemon.SameDevice (daemon.updateCaptureHealth now nonzeroSamples) := by
  unfold updateCaptureHealth
  split
  · exact ⟨rfl, rfl, rfl, rfl, rfl, rfl, rfl, rfl, rfl, rfl⟩
  · dsimp only
    split_ifs <;> exact ⟨rfl, rfl, rfl, rfl, rfl, rfl, rfl, rfl, rfl, rfl⟩

theorem SameDevice.trans {first second third : Daemon} (one : first.SameDevice second)
    (two : second.SameDevice third) : first.SameDevice third :=
  ⟨two.handle.trans one.handle, two.active.trans one.active, two.retryAt.trans one.retryAt,
    two.poll.trans one.poll, two.selected.trans one.selected, two.waiting.trans one.waiting,
    two.handled.trans one.handled, two.pipeline.trans one.pipeline,
    two.sessions.trans one.sessions, two.config.trans one.config⟩

theorem SameDevice.signals (same : before.SameDevice after) (errors : List String) :
    after.signals errors = before.signals errors := by
  simp only [Daemon.signals, sentBy, same.handle, same.sessions]

theorem SameDevice.session (same : before.SameDevice after) : after.session = before.session := by
  simp only [Daemon.session, same.pipeline, same.sessions]

theorem SameDevice.attributed (same : before.SameDevice after) (attributed : before.Attributed) :
    after.Attributed := by
  refine ⟨?_, ?_, ?_⟩
  · rw [same.handle, same.pipeline]
    exact attributed.capturing
  · rw [same.waiting, same.handle, same.session]
    exact attributed.waiting
  · unfold Unharmed
    rw [same.handled]
    exact attributed.handled

theorem SameDevice.restartDue (same : before.SameDevice after) (tick : TickEnvironment) :
    after.restartDue tick after.activeDeviceId after.retryAt =
      before.restartDue tick before.activeDeviceId before.retryAt := by
  simp only [Daemon.restartDue, deviceChanged, same.active, same.retryAt, same.poll,
    same.selected]

structure Silenced (tick : TickEnvironment) (before after : Daemon) : Prop where
  handle : after.handle = none
  active : after.activeDeviceId = none
  started : after.captureStartedAt = none
  retryAt : after.retryAt = tick.readAt + captureRetryInterval

theorem handleSignals_silenced (tick : TickEnvironment) {signals : List CaptureSignal}
    (daemon : Daemon) (some : signals ≠ []) :
    daemon.Silenced tick (signals.foldl (handleSignal tick) daemon) := by
  obtain ⟨front, last, rfl⟩ := List.eq_nil_or_concat signals |>.resolve_left some
  rw [List.concat_eq_append, List.foldl_append]
  exact ⟨rfl, rfl, rfl, rfl⟩

theorem handleSignals_fields (tick : TickEnvironment) (signals : List CaptureSignal)
    (daemon : Daemon) :
    (signals.foldl (handleSignal tick) daemon).nextDevicePoll = daemon.nextDevicePoll ∧
      (signals.foldl (handleSignal tick) daemon).selectedDeviceId = daemon.selectedDeviceId ∧
      (signals.foldl (handleSignal tick) daemon).waiting = daemon.waiting ∧
      (signals.foldl (handleSignal tick) daemon).pipeline = daemon.pipeline ∧
      (signals.foldl (handleSignal tick) daemon).sessionConfig = daemon.sessionConfig ∧
      (signals.foldl (handleSignal tick) daemon).pipelineFailed = daemon.pipelineFailed := by
  induction signals generalizing daemon with
  | nil => exact ⟨rfl, rfl, rfl, rfl, rfl, rfl⟩
  | cons signal rest ih => exact ih (handleSignal tick daemon signal)

theorem readSignals_of_nil (tick : TickEnvironment) (empty : daemon.waiting = []) :
    daemon.readSignals tick = daemon := by
  unfold readSignals
  rw [empty]
  cases daemon
  cases empty
  rfl

theorem readSignals_attributed (tick : TickEnvironment) (attributed : daemon.Attributed) :
    (daemon.readSignals tick).Attributed := by
  by_cases empty : daemon.waiting = []
  · rw [readSignals_of_nil tick empty]
    exact attributed
  · have silenced := handleSignals_silenced tick { daemon with waiting := [] } empty
    have fields := handleSignals_fields tick daemon.waiting { daemon with waiting := [] }
    refine ⟨?_, ?_, ?_⟩
    · unfold readSignals
      rw [silenced.handle]
      nofun
    · unfold readSignals
      rw [fields.2.2.1]
      nofun
    · exact handleSignals_unharmed tick daemon.waiting { daemon with waiting := [] }
        attributed.waiting attributed.handled

def recordsMicrophone (daemon : Daemon) : Bool :=
  daemon.sessionConfig.any fun config => config.source = .microphone

/-- A capture that starts finds no error that waits or that is sent while it starts. -/
def Clear (daemon : Daemon) : Event → Prop
  | .request (.startSession config pipeline capture) =>
      daemon.machine.state = .idle → config.validate.isOk = true → pipeline.isOk = true →
        capture.outcome.isOk = true → daemon.waiting = []
  | .request (.selectDevice _ capture) =>
      daemon.recordsMicrophone = true → capture.outcome.isOk = true →
        daemon.waiting = [] ∧ daemon.signals capture.signalled = []
  | .tick tick =>
      daemon.recordsMicrophone = true → daemon.waiting = [] →
        daemon.restartDue tick daemon.activeDeviceId daemon.retryAt = true →
        tick.capture.outcome.isOk = true → daemon.signals tick.capture.signalled = []
  | _ => True

theorem tick_eq (daemon : Daemon) (tick : TickEnvironment) :
    daemon.tick tick = if daemon.recordsMicrophone then
        (((daemon.readSignals tick).pollPipeline tick).updateCaptureHealth
          tick.now tick.nonzeroSamples).followDevice tick
      else (daemon.readSignals tick).pollPipeline tick := by
  have config : ((daemon.readSignals tick).pollPipeline tick).sessionConfig =
      daemon.sessionConfig := by
    rw [(pollPipeline_sameDevice _ tick).config]
    exact (handleSignals_fields tick daemon.waiting { daemon with waiting := [] }).2.2.2.2.1
  unfold Daemon.tick recordsMicrophone
  simp only [config]
  cases daemon.sessionConfig with
  | none => rfl
  | some config => cases source : config.source <;> simp [source]

theorem tick_attributed (consistent : daemon.Consistent) (attributed : daemon.Attributed)
    (clear : daemon.Clear (.tick tick)) : (daemon.tick tick).Attributed := by
  have read := readSignals_attributed tick attributed
  have fields := handleSignals_fields tick daemon.waiting { daemon with waiting := [] }
  have polled := pollPipeline_sameDevice (daemon.readSignals tick) tick
  rw [tick_eq]
  split
  · rename_i microphone
    have checked := polled.trans (updateCaptureHealth_sameDevice
      ((daemon.readSignals tick).pollPipeline tick) tick.now tick.nonzeroSamples)
    generalize ((daemon.readSignals tick).pollPipeline tick).updateCaptureHealth
      tick.now tick.nonzeroSamples = after at checked
    have attributed := checked.attributed read
    obtain ⟨poll, same⟩ := followDevice_eq after tick
    have later : ({ after with nextDevicePoll := poll } : Daemon).Attributed :=
      ⟨attributed.capturing, attributed.waiting, attributed.handled⟩
    rw [same]
    split
    · rename_i due
      refine restartCapture_attributed later ?_ ?_
      · refine (checked.pipeline.trans fields.2.2.2.1).trans (consistent.pipeline.mpr ?_)
        refine consistent.config.mp ?_
        unfold recordsMicrophone at microphone
        cases present : daemon.sessionConfig with
        | none => simp [present] at microphone
        | some config => rfl
      · intro started
        have emptied : after.waiting = [] := checked.waiting.trans fields.2.2.1
        have unheard : after.signals tick.capture.signalled = [] := by
          by_cases empty : daemon.waiting = []
          · have unread := readSignals_of_nil tick empty
            rw [checked.restartDue, unread] at due
            rw [checked.signals, unread]
            exact clear microphone empty due started
          · have silenced := handleSignals_silenced tick { daemon with waiting := [] } empty
            unfold Daemon.signals
            rw [checked.handle]
            unfold readSignals
            rw [silenced.handle]
        exact List.append_eq_nil_iff.mpr ⟨emptied, unheard⟩
    · exact later
  · exact polled.attributed read

theorem stopSession_attributed (nonzeroSamples : Nat) (unharmed : daemon.Unharmed)
    (present : daemon.pipeline = true) : (daemon.stopSession nonzeroSamples).Attributed := by
  simp only [stopSession, present, Bool.not_true, Bool.false_eq_true, if_false]
  exact ⟨nofun, fun _ _ => Fits.outside, unharmed⟩

theorem restartCapture_unharmed (start : CaptureStart) (unharmed : daemon.Unharmed) :
    (daemon.restartCapture start).1.Unharmed := by
  unfold Unharmed
  rw [(restartCapture_fields daemon start).2.2.2.2]
  exact unharmed

theorem startSession_attributed {config : SessionConfig} {pipeline : Except String Unit}
    {capture : CaptureStart} (consistent : daemon.Consistent) (attributed : daemon.Attributed)
    (clear : daemon.Clear (.request (.startSession config pipeline capture))) :
    (daemon.startSession config pipeline capture).1.Attributed := by
  rcases startSession_cases config pipeline capture consistent with
    same | ⟨machine, _, _, same⟩ | ⟨idle, valid, made, machine, _, same⟩
  · rw [same]
    exact attributed
  · rw [same]
    exact ⟨attributed.capturing, attributed.waiting, attributed.handled⟩
  · rcases same with ⟨⟨started, outcome⟩, same⟩ | ⟨stopped, error, rfl, same⟩
    · have inactive : ¬ daemon.machine.state.Active := by rw [idle]; decide
      have unheard : daemon.handle = none := by
        cases capturing : daemon.handle with
        | none => rfl
        | some running =>
            have present := attributed.capturing (by rw [capturing]; rfl)
            exact absurd (consistent.pipeline.mp present) inactive
      have ok : capture.outcome.isOk = true := by rw [outcome]; rfl
      have empty := clear idle (by rw [valid]; rfl) (by rw [made]; rfl) ok
      have begun : (daemon.begun machine config).Attributed := by
        refine ⟨fun _ => rfl, ?_, attributed.handled⟩
        change ∀ signal ∈ daemon.waiting, _
        rw [empty]
        nofun
      rw [same]
      refine restartCapture_attributed begun rfl fun _ => List.append_eq_nil_iff.mpr ⟨empty, ?_⟩
      unfold signals
      change (match daemon.handle with | some capture => _ | none => _) = _
      rw [unheard]
    · have begun : (daemon.begun machine config).Unharmed := attributed.handled
      have halted := stopSession_attributed capture.nonzeroSamples
        (restartCapture_unharmed capture begun) (restartCapture_fields _ capture).1
      rw [same]
      exact ⟨halted.capturing, halted.waiting, halted.handled⟩

theorem step_attributed {event : Event} (consistent : daemon.Consistent)
    (attributed : daemon.Attributed) (clear : daemon.Clear event) :
    (daemon.step event).Attributed := by
  have stopped : ∀ nonzeroSamples, (daemon.stopSession nonzeroSamples).Attributed := by
    intro nonzeroSamples
    cases present : daemon.pipeline with
    | true => exact stopSession_attributed nonzeroSamples attributed.handled present
    | false => simpa [stopSession, present] using attributed
  cases event with
  | tick environment => exact tick_attributed consistent attributed clear
  | captureError error =>
      refine ⟨attributed.capturing, ?_, attributed.handled⟩
      intro signal member
      cases List.mem_append.mp member with
      | inl before => exact attributed.waiting signal before
      | inr sent => exact signals_fit daemon _ signal sent
  | request command =>
      cases command with
      | mute => exact ⟨attributed.capturing, attributed.waiting, attributed.handled⟩
      | unmute => exact ⟨attributed.capturing, attributed.waiting, attributed.handled⟩
      | stopSession nonzeroSamples => exact stopped nonzeroSamples
      | startSession config pipeline capture =>
          exact startSession_attributed consistent attributed clear
      | setBitrate bitrate =>
          change (daemon.setBitrate bitrate).1.Attributed
          unfold setBitrate
          split <;> exact ⟨attributed.capturing, attributed.waiting, attributed.handled⟩
      | shutdown nonzeroSamples =>
          have halted := stopped nonzeroSamples
          exact ⟨halted.capturing, halted.waiting, halted.handled⟩
      | selectDevice deviceId capture =>
          change (daemon.selectDevice deviceId capture).1.Attributed
          have selected : ∀ id, ({ daemon with selectedDeviceId := id } : Daemon).Attributed :=
            fun _ => ⟨attributed.capturing, attributed.waiting, attributed.handled⟩
          unfold selectDevice
          dsimp only
          split
          · rename_i config present
            split
            · rename_i microphone
              refine restartCapture_attributed (selected _) ?_ ?_
              · exact consistent.pipeline.mpr (consistent.config.mp (by rw [present]; rfl))
              · intro started
                have records : daemon.recordsMicrophone = true := by
                  simp [recordsMicrophone, present, microphone]
                exact List.append_eq_nil_iff.mpr (clear records started)
            · exact selected _
          · exact selected _

def StaysFailed (daemon : Daemon) : Prop :=
  daemon.pipelineFailed = true → daemon.machine.health = .failed

structure Marked (daemon : Daemon) : Prop where
  present : daemon.pipelineFailed = true → daemon.pipeline = true
  failed : daemon.StaysFailed

def silenceDue (daemon : Daemon) (tick : TickEnvironment) : Bool :=
  match daemon.captureStartedAt with
  | none => false
  | some startedAt =>
      tick.nonzeroSamples ≤ daemon.captureNonzeroObserved &&
        (!daemon.captureSilenceDegraded && daemon.machine.state = .running &&
          captureSilenceDegradeInterval ≤ tick.now - daemon.captureLastNonzeroAt.getD startedAt)

/-- While an error of the pipeline stands, no request starts the capture again, and no tick
starts it again, reports silence, or reads an error of the capture without reading another
one of the pipeline. -/
def Quiet (daemon : Daemon) : Event → Prop
  | .request (.selectDevice _ _) =>
      daemon.pipelineFailed = true → daemon.recordsMicrophone = false
  | .tick tick =>
      (daemon.pipelineFailed || daemon.pipeline && tick.pipelineError.isSome) = true →
        if daemon.waiting = [] then
          daemon.recordsMicrophone = true → daemon.silenceDue tick = false ∧
            daemon.restartDue tick daemon.activeDeviceId daemon.retryAt = false
        else
          tick.pipelineError.isSome = true ∧ (daemon.recordsMicrophone = true →
            daemon.restartDue tick none (tick.readAt + captureRetryInterval) = false)
  | _ => True

theorem updateCaptureHealth_machine (tick : TickEnvironment)
    (failed : daemon.machine.health = .failed) (audible : daemon.silenceDue tick = false) :
    (daemon.updateCaptureHealth tick.now tick.nonzeroSamples).machine = daemon.machine := by
  unfold updateCaptureHealth
  unfold silenceDue at audible
  cases started : daemon.captureStartedAt with
  | none => rfl
  | some startedAt =>
      simp only [started] at audible
      dsimp only
      split_ifs with heard degraded silent
      · simp [failed] at degraded
      · rfl
      · rw [silent, Bool.and_true, decide_eq_true (Nat.not_lt.mp heard)] at audible
        cases audible
      · rfl

theorem pollPipeline_failed (tick : TickEnvironment)
    (stands : (daemon.pollPipeline tick).pipelineFailed = true)
    (before : daemon.pipelineFailed = true →
      (daemon.pipeline && tick.pipelineError.isSome) = false → daemon.machine.health = .failed) :
    (daemon.pollPipeline tick).machine.health = .failed := by
  unfold pollPipeline at stands ⊢
  cases present : daemon.pipeline with
  | false =>
      simp only [present, Bool.false_eq_true, if_false] at stands ⊢
      exact before stands (by rw [present, Bool.false_and])
  | true =>
      simp only [present, if_true] at stands ⊢
      cases observed : tick.pipelineError with
      | some error => rfl
      | none =>
          simp only [observed] at stands
          exact before stands (by rw [observed, Option.isSome_none, Bool.and_false])

theorem pollPipeline_observed (tick : TickEnvironment)
    (stands : (daemon.pollPipeline tick).pipelineFailed = true) :
    (daemon.pipelineFailed || daemon.pipeline && tick.pipelineError.isSome) = true := by
  unfold pollPipeline at stands
  cases present : daemon.pipeline with
  | false => simpa [present] using stands
  | true => cases observed : tick.pipelineError <;> simp_all

theorem pollPipeline_silenceDue (daemon : Daemon) (tick : TickEnvironment) :
    (daemon.pollPipeline tick).silenceDue tick = daemon.silenceDue tick := by
  unfold pollPipeline
  split <;> rfl

theorem followDevice_still
    (still : daemon.restartDue tick daemon.activeDeviceId daemon.retryAt = false) :
    (daemon.followDevice tick).machine = daemon.machine := by
  obtain ⟨poll, same⟩ := followDevice_eq daemon tick
  rw [same, still]
  rfl

theorem tick_fields (daemon : Daemon) (tick : TickEnvironment) :
    (daemon.tick tick).pipelineFailed =
        ((daemon.readSignals tick).pollPipeline tick).pipelineFailed ∧
      (daemon.tick tick).pipeline = daemon.pipeline := by
  have polled : ((daemon.readSignals tick).pollPipeline tick).pipeline = daemon.pipeline :=
    (pollPipeline_sameDevice _ tick).pipeline.trans
      (handleSignals_fields tick daemon.waiting { daemon with waiting := [] }).2.2.2.1
  rw [tick_eq]
  split
  · have checked := updateCaptureHealth_keeps ((daemon.readSignals tick).pollPipeline tick)
      tick.now tick.nonzeroSamples
    generalize ((daemon.readSignals tick).pollPipeline tick).updateCaptureHealth
      tick.now tick.nonzeroSamples = after at checked
    obtain ⟨poll, same⟩ := followDevice_eq after tick
    rw [same, ← polled, ← checked.failed, ← checked.pipeline]
    split
    · have fields := restartCapture_fields { after with nextDevicePoll := poll } tick.capture
      exact ⟨fields.2.2.1, fields.1⟩
    · exact ⟨rfl, rfl⟩
  · exact ⟨rfl, polled⟩

theorem tick_machine
    (failed : ((daemon.readSignals tick).pollPipeline tick).machine.health = .failed)
    (still : daemon.recordsMicrophone = true → (daemon.readSignals tick).silenceDue tick = false ∧
      (daemon.readSignals tick).restartDue tick (daemon.readSignals tick).activeDeviceId
        (daemon.readSignals tick).retryAt = false) :
    (daemon.tick tick).machine.health = .failed := by
  rw [tick_eq]
  split
  · rename_i microphone
    obtain ⟨audible, settled⟩ := still microphone
    rw [← pollPipeline_silenceDue] at audible
    have checked := updateCaptureHealth_machine tick failed audible
    have device := (pollPipeline_sameDevice (daemon.readSignals tick) tick).trans
      (updateCaptureHealth_sameDevice _ tick.now tick.nonzeroSamples)
    rw [followDevice_still ((device.restartDue tick).trans settled), checked]
    exact failed
  · exact failed

theorem tick_staysFailed (marked : daemon.Marked) (quiet : daemon.Quiet (.tick tick)) :
    (daemon.tick tick).StaysFailed := by
  have fields := handleSignals_fields tick daemon.waiting { daemon with waiting := [] }
  intro stands
  rw [(tick_fields daemon tick).1] at stands
  by_cases empty : daemon.waiting = []
  · have unread := readSignals_of_nil tick empty
    rw [unread] at stands
    have due := quiet (pollPipeline_observed tick stands)
    rw [if_pos empty] at due
    apply tick_machine
    · rw [unread]
      exact pollPipeline_failed tick stands fun before _ => marked.failed before
    · rw [unread]
      exact due
  · have silenced := handleSignals_silenced tick { daemon with waiting := [] } empty
    have observed := pollPipeline_observed tick stands
    have failed : (daemon.readSignals tick).pipelineFailed = daemon.pipelineFailed :=
      fields.2.2.2.2.2
    have present : (daemon.readSignals tick).pipeline = daemon.pipeline := fields.2.2.2.1
    rw [failed, present] at observed
    have due := quiet observed
    rw [if_neg empty] at due
    apply tick_machine
    · apply pollPipeline_failed tick stands
      intro before unobserved
      rw [present, marked.present (failed.symm.trans before), due.1] at unobserved
      cases unobserved
    · intro microphone
      have still := due.2 microphone
      constructor
      · unfold silenceDue readSignals
        rw [silenced.started]
      · have retry : (daemon.readSignals tick).retryAt = _ := silenced.retryAt
        have active : (daemon.readSignals tick).activeDeviceId = none := silenced.active
        have poll : (daemon.readSignals tick).nextDevicePoll = daemon.nextDevicePoll := fields.1
        have selected : (daemon.readSignals tick).selectedDeviceId = daemon.selectedDeviceId :=
          fields.2.1
        unfold restartDue deviceChanged at still ⊢
        rw [retry, active, poll, selected]
        exact still

theorem tick_marked (marked : daemon.Marked) (quiet : daemon.Quiet (.tick tick)) :
    (daemon.tick tick).Marked := by
  have after := tick_fields daemon tick
  have fields := handleSignals_fields tick daemon.waiting { daemon with waiting := [] }
  refine ⟨?_, tick_staysFailed marked quiet⟩
  intro stands
  rw [after.1] at stands
  have observed := pollPipeline_observed tick stands
  rw [after.2]
  cases Bool.or_eq_true_iff.mp observed with
  | inl before => exact marked.present (fields.2.2.2.2.2.symm.trans before)
  | inr now => exact fields.2.2.2.1.symm.trans (Bool.and_eq_true_iff.mp now).1

theorem Marked.of_absent (absent : daemon.pipelineFailed = false) : daemon.Marked := by
  constructor <;> intro stands <;> rw [absent] at stands <;> cases stands

theorem stopSession_pipelineFailed (nonzeroSamples : Nat)
    (present : daemon.pipelineFailed = true → daemon.pipeline = true) :
    (daemon.stopSession nonzeroSamples).pipelineFailed = false := by
  cases pipeline : daemon.pipeline with
  | true => simp [stopSession, pipeline]
  | false => simpa [stopSession, pipeline] using present

theorem step_marked {event : Event} (consistent : daemon.Consistent) (marked : daemon.Marked)
    (quiet : daemon.Quiet event) : (daemon.step event).Marked := by
  cases event with
  | tick environment => exact tick_marked marked quiet
  | captureError error => exact ⟨marked.present, marked.failed⟩
  | request command =>
      cases command with
      | mute => exact ⟨marked.present, marked.failed⟩
      | unmute => exact ⟨marked.present, marked.failed⟩
      | stopSession nonzeroSamples =>
          exact Marked.of_absent (stopSession_pipelineFailed nonzeroSamples marked.present)
      | shutdown nonzeroSamples =>
          exact Marked.of_absent (stopSession_pipelineFailed nonzeroSamples marked.present)
      | setBitrate bitrate =>
          change (daemon.setBitrate bitrate).1.Marked
          unfold setBitrate
          split <;> exact ⟨marked.present, marked.failed⟩
      | selectDevice deviceId capture =>
          change (daemon.selectDevice deviceId capture).1.Marked
          unfold selectDevice
          dsimp only
          split
          · rename_i config present
            split
            · rename_i microphone
              apply Marked.of_absent
              rw [(restartCapture_fields _ capture).2.2.1]
              apply Bool.eq_false_iff.mpr
              intro stands
              have other := quiet stands
              simp [recordsMicrophone, present, microphone] at other
            · exact ⟨marked.present, marked.failed⟩
          · exact ⟨marked.present, marked.failed⟩
      | startSession config pipeline capture =>
          have absent : daemon.machine.state = .idle → daemon.pipelineFailed = false := by
            intro idle
            apply Bool.eq_false_iff.mpr
            intro stands
            have active := consistent.pipeline.mp (marked.present stands)
            rw [idle] at active
            exact absurd active (by decide)
          change (daemon.startSession config pipeline capture).1.Marked
          rcases startSession_cases config pipeline capture consistent with
            same | ⟨machine, _, idle, same⟩ | ⟨idle, _, _, machine, _, same⟩
          · rw [same]
            exact marked
          · rw [same]
            exact Marked.of_absent (absent idle)
          · have fields := restartCapture_fields (daemon.begun machine config) capture
            rcases same with ⟨_, same⟩ | ⟨stopped, error, rfl, same⟩
            · rw [same]
              exact Marked.of_absent (fields.2.2.1.trans (absent idle))
            · rw [same]
              exact Marked.of_absent
                (stopSession_pipelineFailed capture.nonzeroSamples fun _ => fields.1)

def Begins (daemon : Daemon) : Prop := ∃ now, daemon = new now

def Careful (daemon : Daemon) (event : Event) : Prop := daemon.Clear event ∧ daemon.Quiet event

instance (daemon : Daemon) (event : Event) : Decidable (daemon.Clear event) := by
  unfold Clear
  split <;> infer_instance

instance (daemon : Daemon) (event : Event) : Decidable (daemon.Quiet event) := by
  unfold Quiet
  split <;> infer_instance

instance (daemon : Daemon) (event : Event) : Decidable (daemon.Careful event) :=
  inferInstanceAs (Decidable (_ ∧ _))

def Sound (daemon : Daemon) : Prop := daemon.Consistent ∧ daemon.Marked ∧ daemon.Attributed

/-- Every run keeps the pipeline, the configuration and the state together. Where captures start
with no error left over and nothing touches the health that an error of the pipeline has left, it
stays failed and no error meets another capture or session. -/
theorem microphone_session (daemon : Daemon) :
    (Reached step Begins (fun _ _ => True) daemon → daemon.Consistent) ∧
    (Reached step Begins Careful daemon →
      daemon.Consistent ∧ daemon.StaysFailed ∧ daemon.Unharmed) := by
  refine ⟨consistent_of_reached fun _ begins => begins, ?_⟩
  intro reached
  have sound : daemon.Sound := by
    refine reached.invariant ?_ ?_
    · intro daemon begins
      have first : Reached step Begins Careful daemon := .start begins
      refine ⟨consistent_of_reached (fun _ begins => begins) first, ?_⟩
      obtain ⟨now, rfl⟩ := begins
      exact ⟨Marked.of_absent rfl, nofun, nofun, nofun⟩
    · intro daemon event _ sound careful
      exact ⟨step_consistent event sound.1, step_marked sound.1 sound.2.1 careful.2,
        step_attributed sound.1 sound.2.2 careful.1⟩
  exact ⟨sound.1, sound.2.1.failed, sound.2.2.handled⟩

def callConfig : SessionConfig where
  sessionId := ['c']
  host := ['h']
  rtpPort := 5004
  rtcpPort := none
  rtcpListenPort := 0
  bitrate := 32000
  frameMs := 10
  packetLossPercent := 5
  source := .microphone

def captureAt (time : Nat) : CaptureStart where
  signalled := []
  sent := []
  outcome := .ok { activeDeviceId := ['m'], usedFallback := false }
  time := time
  nonzeroSamples := 0

def tickAt (now : Nat) (pipelineError : Option String) : TickEnvironment where
  readAt := now
  readNonzeroSamples := now
  pipelineError := pipelineError
  now := now
  nonzeroSamples := now
  deviceAvailable := fun _ => true
  defaultDevice := some ['m']
  capture := captureAt now

def failingCall : List Event :=
  [.request (.startSession callConfig (.ok ()) (captureAt 1)), .captureError "unplugged",
    .tick (tickAt 2 none), .tick (tickAt 1000000002 none),
    .tick (tickAt 1100000000 (some "end of stream")), .tick (tickAt 1200000000 none)]

theorem microphone_session_failing :
    (failingCall.foldl step (new 0)).Consistent ∧
      (failingCall.foldl step (new 0)).StaysFailed ∧
      (failingCall.foldl step (new 0)).Unharmed := by
  have first : Reached step Begins Careful (new 0) := .start ⟨0, rfl⟩
  exact (microphone_session _).2 (first.along (by decide +kernel))

def unpluggedCall : List Event :=
  [.request (.startSession callConfig (.ok ()) (captureAt 1)),
    .tick (tickAt 2 (some "end of stream")), .captureError "unplugged", .tick (tickAt 3 none)]

def secondCall : List Event :=
  [.request (.startSession callConfig (.ok ()) (captureAt 1)), .captureError "unplugged",
    .request (.stopSession 2), .request (.startSession callConfig (.ok ()) (captureAt 3)),
    .tick (tickAt 4 none)]

theorem microphone_session_stale :
    Reached step Begins (fun _ _ => True) (unpluggedCall.foldl step (new 0)) ∧
      ¬ (unpluggedCall.foldl step (new 0)).StaysFailed ∧
      Reached step Begins (fun _ _ => True) (secondCall.foldl step (new 0)) ∧
      ¬ (secondCall.foldl step (new 0)).Unharmed := by
  have first : Reached step Begins (fun _ _ => True) (new 0) := .start ⟨0, rfl⟩
  refine ⟨first.run fun _ _ _ => trivial, ?_, first.run fun _ _ _ => trivial, ?_⟩
  · intro stays
    have failed := stays rfl
    cases failed
  · intro unharmed
    have fits := unharmed _ List.mem_cons_self
    cases fits.1 2 rfl

end Daemon

end Noland.Microphone
