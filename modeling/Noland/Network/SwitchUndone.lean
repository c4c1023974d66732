import Noland.Network.SwitchAgreement

/-!
Each exit of `switch_inner` on failure is to restore the tunnel, to abort the profile on the host
and to record the transition as failed. The exits that do not do all three are named here as a
condition on the steps of a run.
-/

namespace Noland.Network

open Noland.Core Noland.Requests

def undoSucceeds (event : SwitchEvent) : Prop :=
  match event with
  | ⟨.setMtu _ true, .error _⟩ => False
  | ⟨.setPeerEndpoint _ _ true, .error _⟩ => False
  | ⟨.abortConnectionProfile _, .error _⟩ => False
  | _ => True

def transitionStarts (event : SwitchEvent) : Prop :=
  match event with
  | ⟨.checkConfig, .error _⟩ => False
  | ⟨.persist (.start _), .error _⟩ => False
  | _ => True

/-- The step does not lead to an exit that leaves something behind. -/
def exitComplete (instanceId : String) (site : SwitchSite) (event : SwitchEvent)
    (later : SwitchSite) : Prop :=
  match event with
  | ⟨.getStatus, .error _⟩ => False
  | ⟨.getStatus, .ok status⟩ => HostNetworkState.instanceId status = instanceId
  | ⟨.prepareConnectionProfile wanted, .ok prepared⟩ =>
      (PrepareConnectionProfileResponse.linkState prepared).observedMtu =
        some wanted.profile.innerMtu
  | ⟨.setMtu _ false, .error _⟩ => later.tunnel = site.tunnel
  | ⟨.persist (.phase _ phase _), .error _⟩ => phase = .rollingBack
  | ⟨.persist (.failed _), .error _⟩ => False
  | ⟨.persist (.completed _ _ _), .error _⟩ => False
  | ⟨.commitConnectionProfile _, .error _⟩ => False
  | _ => True

namespace SwitchSite

def nothingPending (site : SwitchSite) (transitionId : Uuid) : Prop :=
  ∀ state pending, site.host.memory = some state → state.pendingProfile = some pending →
    pending.profile.transitionId ≠ transitionId

/-- The last transition is recorded as failed, and the previous transport as the effective
one. -/
def recordedFailed (site : SwitchSite) (transitionId : Uuid)
    (previous : Option TransportKind) : Prop :=
  ∃ transition, site.network.lastTransition = some transition ∧
    transition.transitionId = transitionId ∧ transition.phase = .failed ∧
    transition.effectiveTransport = previous

end SwitchSite

theorem rollbackPending_eval {state restored : HostNetworkState}
    {pending : PendingConnectionProfile} {text : String} {host : Host}
    (done : ((rollbackPending state pending text).eval turnHandler host).1 = .ok restored) :
    ((rollbackPending state pending text).eval turnHandler host).2.memory = some restored ∧
      restored.pendingProfile = none := by
  have moved : (rollbackPending state pending text).eval turnHandler host = _ :=
    eval_bind turnHandler _ _ host
  rw [moved] at done ⊢
  split at done
  · rw [← Except.ok.inj done]
    exact ⟨rfl, rfl⟩
  · cases done

theorem reconcileExpiredProfile_eval {state current : HostNetworkState} {host : Host}
    (held : host.memory = some state)
    (done : ((reconcileExpiredProfile state).eval turnHandler host).1 = .ok current) :
    ((reconcileExpiredProfile state).eval turnHandler host).2.memory = some current := by
  unfold reconcileExpiredProfile at done ⊢
  split at done
  · rw [← Except.ok.inj done]
    exact held
  · rename_i pending pends
    have moved : ((do
        let time : Timestamp ← request .now
        if pending.expired time then
          rollbackPending state pending "failed restoring host MTU after profile lease expiry"
        else .done state : TurnProg HostNetworkState).eval turnHandler host) =
      (if pending.expired (host.clock host.ticks) then
          rollbackPending state pending "failed restoring host MTU after profile lease expiry"
        else .done state : TurnProg HostNetworkState).eval turnHandler
          { host with ticks := host.ticks + 1 } := rfl
    rw [moved] at done ⊢
    split at done
    · rename_i expired
      rw [if_pos expired]
      exact (rollbackPending_eval done).1
    · rename_i lasts
      rw [if_neg lasts, ← Except.ok.inj done]
      exact held

theorem abort_eval {named : ProfileRequest} {state : HostNetworkState} {host : Host}
    {link : HostLinkState} (held : host.memory = some state)
    (done : ((abortConnectionProfile named state).eval turnHandler host).1 = .ok link) :
    ∃ later, ((abortConnectionProfile named state).eval turnHandler host).2.memory = some later ∧
      later.pendingProfile = none := by
  unfold abortConnectionProfile at done ⊢
  split at done
  · rename_i nothing
    exact ⟨state, held, nothing⟩
  · rename_i pending pends
    split at done
    · rename_i names
      rw [if_pos names]
      rw [eval_bind] at done ⊢
      split at done
      · rename_i restored later rolled
        have forgets := rollbackPending_eval (congrArg Prod.fst rolled)
        rw [rolled] at forgets
        exact ⟨restored, forgets⟩
      · cases done
    · cases done

theorem abort_serve {named : ProfileRequest} {host : Host} {link : HostLinkState}
    (done : (host.serve (abortConnectionProfile named)).1 = .ok link) :
    ∃ later, (host.serve (abortConnectionProfile named)).2.memory = some later ∧
      later.pendingProfile = none := by
  unfold Host.serve at done ⊢
  split at done
  · cases done
  · rename_i state held
    split at done
    · cases done
    · rename_i current later found
      have remembered := reconcileExpiredProfile_eval held (congrArg Prod.fst found)
      rw [found] at remembered
      exact abort_eval remembered done

def undoneStep (instanceId : String) (site : SwitchSite) (event : SwitchEvent)
    (later : SwitchSite) : Prop :=
  transitionStarts event ∧ undoSucceeds event ∧ exitComplete instanceId site event later

theorem undoneStep_rollsBack (instanceId : String) (site : SwitchSite) (event : SwitchEvent)
    (later : SwitchSite) (allowed : undoneStep instanceId site event later) :
    rollsBack event := by
  have succeeds := allowed.2.1
  unfold rollsBack
  split
  · exact succeeds
  · exact succeeds
  · trivial

def SwitchSite.undone (site : SwitchSite) (tunnel : TunnelRuntime) (transitionId : Uuid)
    (previous : Option TransportKind) : Prop :=
  site.tunnel = tunnel ∧ site.nothingPending transitionId ∧
    site.recordedFailed transitionId previous

def SwitchSite.restored (site : SwitchSite) (tunnel : TunnelRuntime) (transitionId : Uuid) :
    Prop :=
  site.tunnel = tunnel ∧ site.nothingPending transitionId

section Undone

variable {attempt : SwitchAttempt} {previous : PreviousTunnel} {target : TargetPlan}
  {profile : ConnectionProfile} {tunnel : TunnelRuntime}

def Undoes (attempt : SwitchAttempt) (tunnel : TunnelRuntime) (pre : SwitchSite → Prop)
    (program : SwitchProg Unit) : Prop :=
  Ends (undoneStep attempt.instanceId) pre program (fun _ _ => True)
    fun site => site.undone tunnel attempt.transitionId attempt.previousTransport

theorem Undoes.narrow {pre pre' : SwitchSite → Prop} {program : SwitchProg Unit}
    (undoes : Undoes attempt tunnel pre program) (fewer : ∀ site, pre' site → pre site) :
    Undoes attempt tunnel pre' program :=
  undoes.weaken fewer (fun _ _ _ => trivial) fun _ holds => holds

theorem refuse_undoes (code : TransitionErrorCode) (message error : String) :
    Undoes attempt tunnel (fun site => site.restored tunnel attempt.transitionId)
      (attempt.refuse code message error) := by
  apply Ends.perform fun _ site =>
    site.undone tunnel attempt.transitionId attempt.previousTransport
  · rintro site value later ⟨back, nothing⟩ replied _
    obtain ⟨_, rfl⟩ := replied.of_ok
    exact ⟨back, nothing, _, rfl, rfl, rfl, rfl⟩
  · intro site error later holds replied allowed
    exact allowed.2.2.elim
  · intro _
    exact Ends.throw fun _ holds => holds

theorem abort_reply {named : ProfileRequest} {site later : SwitchSite}
    {reply : Except String HostLinkState} {instanceId : String} (transitionId : Uuid)
    (replied : Reply switchHandler (.abortConnectionProfile named) site reply later)
    (allowed : undoneStep instanceId site ⟨.abortConnectionProfile named, reply⟩ later) :
    later.nothingPending transitionId := by
  cases reply with
  | error error => exact allowed.2.1.elim
  | ok link =>
      obtain ⟨done, rfl⟩ := replied.of_ok
      obtain ⟨state, held, nothing⟩ := abort_serve done
      intro other pending found pends
      have same : state = other := Option.some.inj (held.symm.trans found)
      rw [← same, nothing] at pends
      cases pends

theorem undo_undoes (back : previous.runtime = tunnel) :
    Ends (undoneStep attempt.instanceId) (fun _ => True) (attempt.undo previous profile)
      (fun _ site => site.restored tunnel attempt.transitionId)
      fun site => site.undone tunnel attempt.transitionId attempt.previousTransport := by
  have undone : Ends (undoneStep attempt.instanceId) (fun _ => True)
      (attempt.undo previous profile)
      (fun rollback site => rollback = .ok () ∧ site.restored tunnel attempt.transitionId)
      fun _ => False := by
    apply SwitchAttempt.undo_ends (undoneStep_rollsBack attempt.instanceId)
    · intro site _ _
      trivial
    · intro site reply later _ restored replied allowed
      refine ⟨?_, abort_reply _ replied allowed⟩
      rw [sparesTunnel_keeps (by trivial) replied, restored, back]
  apply undone.weaken (fun _ _ => trivial)
  · intro _ site holds
    exact holds.2
  · intro site impossible
    exact impossible.elim

theorem phase_written {phase : TransitionPhase} {effective : Option TransportKind}
    (needed : phase ≠ .rollingBack) {instanceId : String} {site later : SwitchSite}
    {reply : Except String Unit}
    (allowed : undoneStep instanceId site ⟨attempt.persistPhase phase effective, reply⟩ later) :
    reply = .ok () := by
  cases reply with
  | ok value => rfl
  | error error => exact absurd allowed.2.2 needed

theorem commitTarget_undoes :
    Undoes attempt tunnel (fun _ => True) (attempt.commitTarget previous target profile) := by
  refine Ends.observe (fun (reply : Except String Unit) _ => reply = .ok ()) ?_ ?_
  · intro site reply later _ _ allowed
    exact phase_written (by decide) allowed
  intro reply
  apply Ends.learn fun _ written => written
  rintro rfl
  refine Ends.observe (fun (reply : Except String HostLinkState) _ =>
    ∃ link, reply = .ok link) ?_ ?_
  · intro site reply later _ _ allowed
    cases reply with
    | ok link => exact ⟨link, rfl⟩
    | error error => exact allowed.2.2.elim
  intro reply
  apply Ends.learn fun _ committed => committed
  rintro ⟨link, rfl⟩
  apply Ends.last
  · intro site value later _ _ _
    trivial
  · intro site error later _ _ allowed
    exact allowed.2.2.elim

theorem validateTarget_undoes (back : previous.runtime = tunnel) :
    Undoes attempt tunnel (fun _ => True) (attempt.validateTarget previous target profile) := by
  refine Ends.observe (fun (reply : Except String Unit) _ => reply = .ok ()) ?_ ?_
  · intro site reply later _ _ allowed
    exact phase_written (by decide) allowed
  intro reply
  apply Ends.learn fun _ written => written
  rintro rfl
  apply Ends.observe fun _ _ => True
  · intro site reply later _ _ _
    trivial
  intro reply
  cases reply with
  | ok _ => exact commitTarget_undoes
  | error error =>
      apply Ends.observe fun _ _ => True
      · intro site reply later _ _ _
        trivial
      intro _
      apply Ends.bind _ (undo_undoes back)
      intro rollback
      exact refuse_undoes _ _ _

theorem applyEndpoint_undoes (back : previous.runtime = tunnel) :
    Undoes attempt tunnel (fun _ => True) (attempt.applyEndpoint previous target profile) := by
  apply Ends.observe fun _ _ => True
  · intro site reply later _ _ _
    trivial
  intro reply
  cases reply with
  | ok _ => exact validateTarget_undoes back
  | error error =>
      apply Ends.bind _ (undo_undoes back)
      intro rollback
      exact refuse_undoes _ _ _

theorem applyTarget_undoes (back : previous.runtime = tunnel) :
    Undoes attempt tunnel (fun site => site.tunnel = tunnel)
      (attempt.applyTarget previous target profile) := by
  apply Ends.perform fun _ site => site.tunnel = tunnel
  · intro site value later holds replied _
    rw [sparesTunnel_keeps (by trivial) replied]
    exact holds
  · intro site error later _ _ allowed
    cases phase_written (by decide) allowed
  intro _
  split
  · refine Ends.observe (fun (reply : Except String Unit) site =>
      reply ≠ .ok () → site.tunnel = tunnel) ?_ ?_
    · intro site reply later holds replied allowed failed
      cases reply with
      | ok value => exact absurd rfl failed
      | error error => exact allowed.2.2.trans holds
    intro reply
    cases reply with
    | ok _ => exact (applyEndpoint_undoes back).narrow fun _ _ => trivial
    | error error =>
        apply Ends.observe fun _ site => site.restored tunnel attempt.transitionId
        · intro site reply later holds replied allowed
          refine ⟨?_, abort_reply _ replied allowed⟩
          rw [sparesTunnel_keeps (by trivial) replied]
          exact holds nofun
        intro _
        exact refuse_undoes _ _ _
  · exact (applyEndpoint_undoes back).narrow fun _ _ => trivial

theorem prepareHost_undoes (back : previous.runtime = tunnel)
    (asked : profile.innerMtu = target.effectiveMtu) :
    Undoes attempt tunnel (fun site => site.tunnel = tunnel)
      (attempt.prepareHost previous target profile) := by
  apply Ends.perform fun _ site => site.tunnel = tunnel
  · intro site value later holds replied _
    rw [sparesTunnel_keeps (by trivial) replied]
    exact holds
  · intro site error later holds replied _
    obtain ⟨same, _⟩ := replied.of_internal rfl
    cases same
  intro time
  refine Ends.observe (fun (reply : Except String PrepareConnectionProfileResponse) site =>
    site.tunnel = tunnel ∧ ∀ prepared, reply = .ok prepared →
      prepared.linkState.observedMtu = some target.effectiveMtu) ?_ ?_
  · intro site reply later holds replied allowed
    refine ⟨(sparesTunnel_keeps (by trivial) replied).trans holds, ?_⟩
    rintro prepared rfl
    rw [← asked]
    exact allowed.2.2
  intro reply
  cases reply with
  | error error =>
      apply Ends.observe fun _ site => site.restored tunnel attempt.transitionId
      · intro site reply later holds replied allowed
        refine ⟨?_, abort_reply _ replied allowed⟩
        rw [sparesTunnel_keeps (by trivial) replied]
        exact holds.1
      intro _
      exact refuse_undoes _ _ _
  | ok prepared =>
      apply Ends.learn fun _ holds => holds.2 prepared rfl
      intro observed
      dsimp only
      rw [if_pos observed]
      exact (applyTarget_undoes back).narrow fun _ holds => holds.1

theorem restored_keeps {op : SwitchOp} {site later : SwitchSite} {reply : Except String op.Ret}
    {transitionId : Uuid} (spares : op.sparesTunnel)
    (keeps : site.nothingPending transitionId → (site.act op).2.nothingPending transitionId)
    (holds : site.restored tunnel transitionId)
    (replied : Reply switchHandler op site reply later) :
    later.restored tunnel transitionId := by
  refine ⟨(sparesTunnel_keeps spares replied).trans holds.1, ?_⟩
  rcases replied.state_cases with same | acted
  · rw [same]
    exact holds.2
  · rw [acted]
    exact keeps holds.2

theorem connectHost_undoes (back : previous.runtime = tunnel) :
    Undoes attempt tunnel (fun site => site.restored tunnel attempt.transitionId)
      (attempt.connectHost previous target) := by
  apply Ends.observe_keeping
  · intro site reply later holds replied
    exact restored_keeps (by trivial) (fun nothing => nothing) holds replied
  intro reply
  cases reply with
  | error error => exact refuse_undoes _ _ _
  | ok _ =>
      refine Ends.perform (fun (status : HostNetworkState) site =>
        site.tunnel = tunnel ∧ status.instanceId = attempt.instanceId) ?_ ?_ ?_
      · intro site status later holds replied allowed
        exact ⟨(sparesTunnel_keeps (by trivial) replied).trans holds.1, allowed.2.2⟩
      · intro site error later _ _ allowed
        exact allowed.2.2.elim
      intro status
      apply Ends.learn fun _ holds => holds.2
      intro same
      rw [if_neg (not_not.mpr same)]
      exact (prepareHost_undoes back rfl).narrow fun _ holds => holds.1

theorem allocate_nothingPending {site : SwitchSite} {transitionId : Uuid}
    (nothing : site.nothingPending transitionId) :
    (site.act .prepareTarget).2.nothingPending transitionId := by
  intro state pending held pends
  cases allocated : site.allocation with
  | none =>
      have same : (site.act .prepareTarget).2.host = site.host.allocate none :=
        congrArg site.host.allocate allocated
      rw [same] at held
      exact nothing state pending held pends
  | some allocation =>
      have same : (site.act .prepareTarget).2.host = site.host.allocate (some allocation) :=
        congrArg site.host.allocate allocated
      rw [same] at held
      obtain ⟨before, found, rfl⟩ := Option.map_eq_some_iff.mp held
      exact nothing before pending found pends

theorem chooseTarget_undoes (back : previous.runtime = tunnel) :
    Undoes attempt tunnel (fun site => site.restored tunnel attempt.transitionId)
      (attempt.chooseTarget previous) := by
  apply Ends.observe_keeping fun _ _ _ => restored_keeps (by trivial) allocate_nothingPending
  intro reply
  cases reply with
  | error error => exact refuse_undoes _ _ _
  | ok target => exact connectHost_undoes back

theorem runTransition_undoes (attempt : SwitchAttempt) (readable : tunnel.endpoint ≠ none)
    (large : 576 ≤ tunnel.mtu) :
    Undoes attempt tunnel (fun site => site.restored tunnel attempt.transitionId)
      attempt.runTransition := by
  refine Ends.observe (fun (reply : Except String TunnelRuntime) site =>
    site.restored tunnel attempt.transitionId ∧ ∀ runtime, reply = .ok runtime →
      runtime = tunnel) ?_ ?_
  · intro site reply later holds replied _
    refine ⟨restored_keeps (by trivial) (fun nothing => nothing) holds replied, ?_⟩
    rintro runtime rfl
    obtain ⟨answered, _⟩ := replied.of_ok
    exact (Except.ok.inj answered).symm.trans holds.1
  intro reply
  cases reply with
  | error error => exact (refuse_undoes _ _ _).narrow fun _ holds => holds.1
  | ok runtime =>
      apply Ends.learn fun _ holds => holds.2 runtime rfl
      rintro rfl
      dsimp only
      split
      · rename_i unread
        exact absurd unread readable
      · rename_i endpoint reads
        exact (chooseTarget_undoes (previousTunnel_runtime reads large)).narrow
          fun _ holds => holds.1

theorem switchInner_undoes {site : SwitchSite} (readable : tunnel.endpoint ≠ none)
    (large : 576 ≤ tunnel.mtu) (force : Bool) :
    Ends (undoneStep attempt.instanceId)
      (fun before => before = site ∧ site.restored tunnel attempt.transitionId)
      (switchInner attempt force) (fun _ _ => True)
      fun later => later.undone tunnel attempt.transitionId site.network.activeTransport := by
  refine Ends.perform (fun (network : InstanceNetwork) before =>
    network = site.network ∧ before.restored tunnel attempt.transitionId) ?_ ?_ ?_
  · rintro before network later ⟨rfl, holds⟩ replied _
    obtain ⟨answered, rfl⟩ := replied.of_ok
    exact ⟨(Except.ok.inj answered).symm, holds⟩
  · intro before error later _ replied _
    obtain ⟨same, _⟩ := replied.of_internal rfl
    cases same
  intro network
  apply Ends.learn fun _ holds => holds.1
  rintro rfl
  split
  · exact Ends.done fun _ _ => trivial
  · apply Ends.perform fun _ before => before.restored tunnel attempt.transitionId
    · intro before value later holds replied _
      exact restored_keeps (by trivial) (fun nothing => nothing) holds.2 replied
    · intro before error later _ _ allowed
      exact allowed.1.elim
    intro _
    apply Ends.perform fun _ before => before.restored tunnel attempt.transitionId
    · intro before value later holds replied _
      exact restored_keeps (by trivial) (fun nothing => nothing) holds replied
    · intro before error later _ _ allowed
      exact allowed.1.elim
    intro _
    exact runTransition_undoes { attempt with previousTransport := site.network.activeTransport }
      readable large

end Undone

/-- A switch that fails after it has persisted its transition, when what undoes it succeeds,
leaves the tunnel as it was, nothing of its own pending on the host and the transition recorded
as failed, unless it fails at one of the exits that leave something out. -/
theorem failed_switch_undone (attempt : SwitchAttempt) (force : Bool) (site : SwitchSite)
    (fresh : site.nothingPending attempt.transitionId)
    (readable : site.tunnel.endpoint ≠ none) (large : 576 ≤ site.tunnel.mtu)
    {error : String} {final : Config switchInterface String SwitchSite}
    (run : Runs switchHandler
      (fun config event later => transitionStarts event ∧ undoSucceeds event ∧
        exitComplete attempt.instanceId config.state event later)
      (switchInner attempt force) ⟨[], site⟩ (.error error) final) :
    final.state.tunnel = site.tunnel ∧ final.state.nothingPending attempt.transitionId ∧
      final.state.recordedFailed attempt.transitionId site.network.activeTransport :=
  switchInner_undoes readable large force ⟨[], site⟩ _ final ⟨rfl, rfl, fresh⟩ run

namespace SwitchSample

def validationFails : List (Signal String) :=
  List.replicate 11 .proceed ++ [.refuse "Sunshine is unreachable"]

def commitLost : List (Signal String) :=
  List.replicate 13 .proceed ++ [.refuse "Host control timed out"]

def validationCheck (_ : Config switchInterface String SwitchSite) (event : SwitchEvent)
    (_ : SwitchSite) : Bool :=
  match event with
  | ⟨.validateTunnel _, .error _⟩ => true
  | ⟨.getStatus, .ok status⟩ =>
      decide (HostNetworkState.instanceId status = attempt.instanceId)
  | ⟨.prepareConnectionProfile wanted, .ok prepared⟩ =>
      decide ((PrepareConnectionProfileResponse.linkState prepared).observedMtu =
        some wanted.profile.innerMtu)
  | ⟨_, .ok _⟩ => true
  | ⟨_, .error _⟩ => false

theorem transitionStarts_ok (op : SwitchOp) (value : op.Ret) :
    transitionStarts ⟨op, .ok value⟩ := by
  cases op with
  | persist update => cases update <;> trivial
  | _ => trivial

theorem undoSucceeds_ok (op : SwitchOp) (value : op.Ret) : undoSucceeds ⟨op, .ok value⟩ := by
  cases op with
  | setMtu mtu rollback => cases rollback <;> trivial
  | setPeerEndpoint endpoint generation rollback => cases rollback <;> trivial
  | _ => trivial

theorem validationCheck_sound (config : Config switchInterface String SwitchSite)
    (event : SwitchEvent) (later : SwitchSite)
    (passes : validationCheck config event later = true) :
    transitionStarts event ∧ undoSucceeds event ∧
      exitComplete attempt.instanceId config.state event later := by
  obtain ⟨op, reply⟩ := event
  cases reply with
  | ok value =>
      refine ⟨transitionStarts_ok op value, undoSucceeds_ok op value, ?_⟩
      cases op with
      | getStatus =>
          have same := of_decide_eq_true passes
          exact same
      | prepareConnectionProfile wanted =>
          have same := of_decide_eq_true passes
          exact same
      | persist update => cases update <;> trivial
      | setMtu mtu rollback => cases rollback <;> trivial
      | _ => trivial
  | error error =>
      cases op with
      | validateTunnel => exact ⟨trivial, trivial, trivial⟩
      | loadState | checkConfig | persist | managedRuntime | prepareTarget | connect | now
      | getStatus | prepareConnectionProfile | commitConnectionProfile | abortConnectionProfile
      | setMtu | setPeerEndpoint => cases passes

def undoCheck (_ : Config switchInterface String SwitchSite) (event : SwitchEvent)
    (_ : SwitchSite) : Bool :=
  match event with
  | ⟨.commitConnectionProfile _, .error _⟩ => true
  | ⟨_, .ok _⟩ => true
  | ⟨_, .error _⟩ => false

theorem undoCheck_sound (config : Config switchInterface String SwitchSite)
    (event : SwitchEvent) (later : SwitchSite)
    (passes : undoCheck config event later = true) :
    transitionStarts event ∧ undoSucceeds event := by
  obtain ⟨op, reply⟩ := event
  cases reply with
  | ok value => exact ⟨transitionStarts_ok op value, undoSucceeds_ok op value⟩
  | error error =>
      cases op with
      | commitConnectionProfile => exact ⟨trivial, trivial⟩
      | loadState | checkConfig | persist | managedRuntime | prepareTarget | connect | now
      | getStatus | prepareConnectionProfile | validateTunnel | abortConnectionProfile
      | setMtu | setPeerEndpoint => cases passes

theorem site_nothingPending : site.nothingPending transitionId := by
  intro state pending held pends
  rw [← Option.some.inj held] at pends
  cases pends

end SwitchSample

theorem failed_switch_undone_sample :
    (SwitchSample.run SwitchSample.validationFails).2.2.state.tunnel =
        SwitchSample.site.tunnel ∧
      (SwitchSample.run SwitchSample.validationFails).2.2.state.nothingPending
        SwitchSample.transitionId ∧
      (SwitchSample.run SwitchSample.validationFails).2.2.state.recordedFailed
        SwitchSample.transitionId (some .direct) := by
  have follows : (switchInner SwitchSample.attempt false).follows switchHandler
      SwitchSample.validationCheck SwitchSample.validationFails ⟨[], SwitchSample.site⟩ = true := by
    decide +kernel
  have run := SwitchSample.run_runs SwitchSample.validationCheck_sound
    SwitchSample.validationFails follows
  have failed : (SwitchSample.run SwitchSample.validationFails).1 =
      .error "Sunshine is unreachable" := by
    decide +kernel
  rw [failed] at run
  exact failed_switch_undone SwitchSample.attempt false SwitchSample.site
    SwitchSample.site_nothingPending (by decide) (by decide) run

/-- A commit that the host refuses is undone, and its transition stays in the phase
`Committing`. -/
theorem lost_commit_unrecorded :
    SwitchSample.site.nothingPending SwitchSample.attempt.transitionId ∧
      SwitchSample.site.tunnel.endpoint ≠ none ∧ 576 ≤ SwitchSample.site.tunnel.mtu ∧
      ∃ final : Config switchInterface String SwitchSite,
        Runs switchHandler (fun _ event _ => transitionStarts event ∧ undoSucceeds event)
          (switchInner SwitchSample.attempt false) ⟨[], SwitchSample.site⟩
          (.error "Host control timed out") final ∧
        ¬ final.state.recordedFailed SwitchSample.attempt.transitionId (some .direct) := by
  have follows : (switchInner SwitchSample.attempt false).follows switchHandler
      SwitchSample.undoCheck SwitchSample.commitLost ⟨[], SwitchSample.site⟩ = true := by
    decide +kernel
  have run := SwitchSample.run_runs SwitchSample.undoCheck_sound SwitchSample.commitLost follows
  have failed : (SwitchSample.run SwitchSample.commitLost).1 =
      .error "Host control timed out" := by
    decide +kernel
  rw [failed] at run
  refine ⟨SwitchSample.site_nothingPending, by decide, by decide, _, run, ?_⟩
  have committing : (SwitchSample.run SwitchSample.commitLost).2.2.state.network.lastTransition.map
      ConnectionTransition.phase = some .committing := by
    decide +kernel
  rintro ⟨transition, found, _, recorded, _⟩
  rw [found] at committing
  have same : TransitionPhase.failed = .committing :=
    recorded.symm.trans (Option.some.inj committing)
  cases same

end Noland.Network
