import Noland.Network.TransportSwitch

/-!
Until the commit the host holds at most a pending profile of the switch, so whatever failed,
restoring the tunnel is enough. Once the host has carried the commit out there is no way back, and
a client that sees an error rolls back alone.
-/

namespace Noland.Network

open Noland.Core Noland.Requests

def TunnelRuntime.carries (tunnel : TunnelRuntime) (profile : ConnectionProfile) : Prop :=
  tunnel.endpoint = some profile.endpoint ∧ tunnel.mtu = profile.innerMtu

instance (tunnel : TunnelRuntime) (profile : ConnectionProfile) :
    Decidable (tunnel.carries profile) :=
  inferInstanceAs (Decidable (_ ∧ _))

namespace SwitchSite

def committed (site : SwitchSite) : Option ConnectionProfile :=
  site.host.memory.bind HostNetworkState.committedProfile

def agrees (site : SwitchSite) : Prop :=
  ∃ profile, site.committed = some profile ∧ site.tunnel.carries profile

/-- The host has looked for an expired lease once more. -/
def settle (site : SwitchSite) : SwitchSite := (site.act .getStatus).2

/-- Both sides carry the profile from before, or both that of the transition. -/
def agreesAfter (before : SwitchSite) (transitionId : Uuid) (site : SwitchSite) : Prop :=
  ∃ profile, site.committed = some profile ∧ site.tunnel.carries profile ∧
    (before.committed = some profile ∨ profile.transitionId = transitionId)

def unused (site : SwitchSite) (operationId : Uuid) : Prop :=
  ∀ state, site.host.memory = some state → state.committedOperationId ≠ some operationId ∧
    ∀ pending, state.pendingProfile = some pending → pending.operationId ≠ operationId

def committedValid (site : SwitchSite) : Prop :=
  ∀ profile, site.committed = some profile → profile.validate = .ok ()

end SwitchSite

def tunnelSucceeds (event : SwitchEvent) : Prop :=
  match event with
  | ⟨.setMtu _ _, .error _⟩ => False
  | ⟨.setPeerEndpoint _ _ _, .error _⟩ => False
  | _ => True

def commitAnswered (site : SwitchSite) (event : SwitchEvent) (later : SwitchSite) : Prop :=
  match event with
  | ⟨.commitConnectionProfile named, .error _⟩ =>
      ∀ link, (site.act (.commitConnectionProfile named)).1 = .ok link → later = site
  | _ => True

/-- The old profile is committed, and a pending profile of the operation is among `mine`. -/
def HostNetworkState.awaits (old : ConnectionProfile) (operationId : Uuid)
    (mine : ConnectionProfile → Prop) (state : HostNetworkState) : Prop :=
  state.committedProfile = some old ∧ state.committedOperationId ≠ some operationId ∧
    ∀ pending, state.pendingProfile = some pending → pending.operationId = operationId →
      mine pending.profile

section Awaits

variable {old : ConnectionProfile} {operationId : Uuid} {mine : ConnectionProfile → Prop}

theorem awaits_calm : Calm (HostNetworkState.awaits old operationId mine) where
  dropPending := by
    intro state holds
    refine ⟨holds.1, holds.2.1, ?_⟩
    intro pending pends
    cases pends
  observe := fun _ _ holds => holds
  touch := fun _ _ holds => holds
  allocate := fun _ _ _ holds => holds

theorem awaits_journalPrepared {wanted : PrepareConnectionProfileRequest}
    (own : mine wanted.profile) (state : HostNetworkState) (previousMtu : Nat)
    (time lease : Timestamp) (holds : state.awaits old operationId mine) :
    (journalPrepared state wanted previousMtu time lease).awaits old operationId mine := by
  refine ⟨holds.1, holds.2.1, ?_⟩
  intro pending pends _
  rw [← Option.some.inj pends]
  exact own

theorem awaits_uncommitted (named : ProfileRequest) (same : named.operationId = operationId)
    (state : HostNetworkState) (holds : state.awaits old operationId mine) :
    alreadyCommitted state named = false := by
  unfold alreadyCommitted
  rw [holds.1, same]
  have other : decide (state.committedOperationId = some operationId) = false :=
    decide_eq_false holds.2.1
  simp only [other, Bool.false_and]

theorem awaits_mono {wider : ConnectionProfile → Prop} (more : ∀ profile, mine profile → wider profile)
    {state : HostNetworkState} (holds : state.awaits old operationId mine) :
    state.awaits old operationId wider :=
  ⟨holds.1, holds.2.1, fun pending pends own => more _ (holds.2.2 pending pends own)⟩

end Awaits

theorem Host.runsWith_mono {host : Host} {kept wider : HostNetworkState → Prop}
    (more : ∀ state, kept state → wider state) (runs : host.runsWith kept) :
    host.runsWith wider := by
  obtain ⟨state, held, holds⟩ := runs
  exact ⟨state, held, more state holds⟩

theorem Host.allocate_keeps {kept : HostNetworkState → Prop} (calm : Calm kept) {host : Host}
    (runs : host.runsWith kept) (allocation : Option (Nat × Option NetworkEndpoint)) :
    (host.allocate allocation).runsWith kept := by
  obtain ⟨state, held, holds⟩ := runs
  cases allocation with
  | none => exact ⟨state, held, holds⟩
  | some allocated =>
      refine ⟨_, ?_, calm.allocate state allocated.1 allocated.2 holds⟩
      simp only [Host.allocate, held, Option.map_some]

def SwitchOp.undecided (own : PrepareConnectionProfileRequest → Prop) : SwitchOp → Prop
  | .commitConnectionProfile _ => False
  | .prepareConnectionProfile wanted => own wanted
  | _ => True

theorem undecided_keeps {old : ConnectionProfile} {operationId : Uuid}
    {mine : ConnectionProfile → Prop} {op : SwitchOp} {site later : SwitchSite}
    {reply : Except String op.Ret}
    (undecided : op.undecided fun wanted => mine wanted.profile)
    (runs : site.host.runsWith (HostNetworkState.awaits old operationId mine))
    (replied : Reply switchHandler op site reply later) :
    later.host.runsWith (HostNetworkState.awaits old operationId mine) := by
  have carried : (site.act op).2.host.runsWith (HostNetworkState.awaits old operationId mine) := by
    cases op with
    | prepareTarget => exact Host.allocate_keeps awaits_calm runs _
    | getStatus =>
        apply serve_keeps awaits_calm _ runs
        intro state holds
        trivial
    | prepareConnectionProfile wanted =>
        apply serve_keeps awaits_calm _ runs
        intro state holds
        exact prepareConnectionProfile_uses awaits_calm holds wanted
          (awaits_journalPrepared undecided)
    | commitConnectionProfile named => exact undecided.elim
    | abortConnectionProfile named =>
        apply serve_keeps awaits_calm _ runs
        intro state holds
        exact abortConnectionProfile_uses awaits_calm holds named
    | loadState | checkConfig | persist | managedRuntime | connect | now | setMtu
    | setPeerEndpoint | validateTunnel => exact runs
  rcases replied.state_cases with same | acted
  · rw [same]
    exact runs
  · rw [acted]
    exact carried

def SwitchOp.sparesTunnel : SwitchOp → Prop
  | .setMtu _ _ | .setPeerEndpoint _ _ _ => False
  | _ => True

theorem sparesTunnel_keeps {op : SwitchOp} {site later : SwitchSite} {reply : Except String op.Ret}
    (spares : op.sparesTunnel) (replied : Reply switchHandler op site reply later) :
    later.tunnel = site.tunnel := by
  rcases replied.state_cases with same | acted
  · rw [same]
  · rw [acted]
    cases op with
    | setMtu | setPeerEndpoint => exact spares.elim
    | loadState | checkConfig | persist | managedRuntime | prepareTarget | connect | getStatus
    | now | prepareConnectionProfile | commitConnectionProfile | abortConnectionProfile
    | validateTunnel => rfl

def agreementKept (site : SwitchSite) (event : SwitchEvent) (later : SwitchSite) : Prop :=
  tunnelSucceeds event ∧ commitAnswered site event later

theorem agreementKept_rollsBack (site : SwitchSite) (event : SwitchEvent) (later : SwitchSite)
    (allowed : agreementKept site event later) : rollsBack event := by
  have succeeds := allowed.1
  unfold rollsBack
  split
  · exact succeeds
  · exact succeeds
  · trivial

section Agreement

variable {before : SwitchSite} {old : ConnectionProfile} {transitionId operationId : Uuid}
  {mine : ConnectionProfile → Prop}

theorem agrees_unmoved (committed : before.committed = some old) {site : SwitchSite}
    (runs : site.host.runsWith (HostNetworkState.awaits old operationId mine))
    (carries : site.tunnel.carries old) : before.agreesAfter transitionId site := by
  obtain ⟨state, held, holds⟩ := runs
  refine ⟨old, ?_, carries, Or.inl committed⟩
  rw [SwitchSite.committed, held]
  exact holds.1

theorem agrees_moved {profile : ConnectionProfile} (own : profile.transitionId = transitionId)
    {site : SwitchSite}
    (runs : site.host.runsWith fun state => state.committedProfile = some profile)
    (carries : site.tunnel.carries profile) : before.agreesAfter transitionId site := by
  obtain ⟨state, held, holds⟩ := runs
  refine ⟨profile, ?_, carries, Or.inr own⟩
  rw [SwitchSite.committed, held]
  exact holds

variable (attempt : SwitchAttempt) (previous : PreviousTunnel) (target : TargetPlan)
  (profile : ConnectionProfile)

structure Asked : Prop where
  transitionId : profile.transitionId = attempt.transitionId
  endpoint : profile.endpoint = target.endpoint
  innerMtu : profile.innerMtu = target.effectiveMtu

def holdsProfile (old : ConnectionProfile) (site : SwitchSite) : Prop :=
  site.host.runsWith (HostNetworkState.awaits old attempt.operationId (· = profile))

variable {attempt previous target profile}

theorem undo_agrees (committed : before.committed = some old)
    (restores : previous.runtime.carries old) :
    Ends agreementKept (holdsProfile attempt profile old) (attempt.undo previous profile)
      (fun _ => before.agreesAfter attempt.transitionId)
      (before.agreesAfter attempt.transitionId) := by
  have undone : Ends agreementKept (holdsProfile attempt profile old)
      (attempt.undo previous profile) (fun rollback site => rollback = .ok () ∧
        (holdsProfile attempt profile old site ∧ site.tunnel = previous.runtime))
      fun _ => False := by
    apply SwitchAttempt.undo_ends agreementKept_rollsBack
    · intro site tunnel holds
      exact holds
    · intro site reply later holds restored replied _
      refine ⟨undecided_keeps (by trivial) holds replied, ?_⟩
      rw [sparesTunnel_keeps (by trivial) replied, restored]
  apply undone.weaken (fun _ holds => holds)
  · rintro _ site ⟨_, holds, restored⟩
    apply agrees_unmoved committed holds
    rw [restored]
    exact restores
  · intro site impossible
    exact impossible.elim

variable {site later : SwitchSite}

theorem persist_elsewhere {update : NetworkUpdate} {reply : Except String Unit}
    (replied : Reply switchHandler (.persist update) site reply later) :
    later.host = site.host ∧ later.tunnel = site.tunnel := by
  rcases replied.state_cases with same | acted
  · rw [same]
    exact ⟨rfl, rfl⟩
  · rw [acted]
    exact ⟨rfl, rfl⟩

theorem agrees_persist {update : NetworkUpdate} {reply : Except String Unit}
    (agrees : before.agreesAfter transitionId site)
    (replied : Reply switchHandler (.persist update) site reply later) :
    before.agreesAfter transitionId later := by
  obtain ⟨host, tunnel⟩ := persist_elsewhere replied
  obtain ⟨found, committed, carries, whose⟩ := agrees
  refine ⟨found, ?_, ?_, whose⟩
  · rw [← committed, SwitchSite.committed, host]
    rfl
  · rw [tunnel]
    exact carries

theorem refuse_agrees (code : TransitionErrorCode) (message error : String) :
    Ends agreementKept (before.agreesAfter attempt.transitionId)
      (attempt.refuse code message error) (fun _ => before.agreesAfter attempt.transitionId)
      (before.agreesAfter attempt.transitionId) := by
  apply Ends.perform fun _ => before.agreesAfter attempt.transitionId
  · intro site value later holds replied _
    exact agrees_persist holds replied
  · intro site error later holds replied _
    exact agrees_persist holds replied
  · intro _
    exact Ends.throw fun _ holds => holds

theorem undone_agrees (committed : before.committed = some old)
    (restores : previous.runtime.carries old) (error : String) {Value : Type}
    {post : Value → SwitchSite → Prop} :
    Ends agreementKept (holdsProfile attempt profile old)
      (attempt.undo previous profile >>= fun _ => .throw error) post
      (before.agreesAfter attempt.transitionId) := by
  apply Ends.bind _ (undo_agrees committed restores)
  intro _
  exact Ends.throw fun _ holds => holds

def commitLeaves (before : SwitchSite) (old : ConnectionProfile) (attempt : SwitchAttempt)
    (profile : ConnectionProfile) : Except String HostLinkState → SwitchSite → Prop
  | .ok _ => before.agreesAfter attempt.transitionId
  | .error _ => holdsProfile attempt profile old

theorem commit_decides (asked : Asked attempt target profile)
    {reply : Except String HostLinkState} (holds : holdsProfile attempt profile old site)
    (carries : site.tunnel.carries profile)
    (replied : Reply switchHandler (.commitConnectionProfile (attempt.named profile)) site reply
      later)
    (answered : commitAnswered site ⟨.commitConnectionProfile (attempt.named profile), reply⟩
      later) : commitLeaves before old attempt profile reply later := by
  obtain ⟨succeeds, fails⟩ := commit_serve awaits_calm holds
    (awaits_uncommitted (attempt.named profile) rfl)
  cases reply with
  | ok link =>
      obtain ⟨done, rfl⟩ := replied.of_ok
      obtain ⟨held, pending, awaits, pends, names, commits⟩ := succeeds link done
      have own : pending.operationId = attempt.operationId := by
        simp only [ProfileRequest.names, Bool.and_eq_true, decide_eq_true_eq] at names
        exact names.1.1
      rw [awaits.2.2 pending pends own] at commits
      exact agrees_moved asked.transitionId commits carries
  | error error =>
      rcases replied.state_cases with same | acted
      · rw [same]
        exact holds
      · cases decided : (site.act (.commitConnectionProfile (attempt.named profile))).1 with
        | ok link =>
            rw [answered link decided]
            exact holds
        | error refusal =>
            rw [acted]
            exact fails refusal decided

theorem pointed_keeps {op : SwitchOp} {reply : Except String op.Ret}
    (undecided : op.undecided fun wanted => wanted.profile = profile) (spares : op.sparesTunnel)
    (holds : holdsProfile attempt profile old site ∧ site.tunnel.carries profile)
    (replied : Reply switchHandler op site reply later) :
    holdsProfile attempt profile old later ∧ later.tunnel.carries profile :=
  ⟨undecided_keeps undecided holds.1 replied,
    (sparesTunnel_keeps spares replied).symm ▸ holds.2⟩

theorem commitTarget_agrees (committed : before.committed = some old)
    (restores : previous.runtime.carries old) (asked : Asked attempt target profile) :
    Ends agreementKept
      (fun site => holdsProfile attempt profile old site ∧ site.tunnel.carries profile)
      (attempt.commitTarget previous target profile)
      (fun _ => before.agreesAfter attempt.transitionId)
      (before.agreesAfter attempt.transitionId) := by
  refine Ends.observe (fun _ site =>
    holdsProfile attempt profile old site ∧ site.tunnel.carries profile)
    (fun _ _ _ holds replied _ => pointed_keeps (by trivial) (by trivial) holds replied) ?_
  intro reply
  cases reply with
  | error error =>
      exact (undone_agrees committed restores error).of_pre (fun _ holds => holds.1)
  | ok _ =>
      refine Ends.observe (commitLeaves before old attempt profile) ?_ ?_
      · rintro site reply later ⟨holds, carries⟩ replied allowed
        exact commit_decides asked holds carries replied allowed.2
      intro reply
      cases reply with
      | error error => exact undone_agrees committed restores error
      | ok link =>
          apply Ends.last
          · intro site value later holds replied _
            exact agrees_persist holds replied
          · intro site error later holds replied _
            exact agrees_persist holds replied

theorem validateTarget_agrees (committed : before.committed = some old)
    (restores : previous.runtime.carries old) (asked : Asked attempt target profile) :
    Ends agreementKept
      (fun site => holdsProfile attempt profile old site ∧ site.tunnel.carries profile)
      (attempt.validateTarget previous target profile)
      (fun _ => before.agreesAfter attempt.transitionId)
      (before.agreesAfter attempt.transitionId) := by
  refine Ends.observe (fun _ site =>
    holdsProfile attempt profile old site ∧ site.tunnel.carries profile)
    (fun _ _ _ holds replied _ => pointed_keeps (by trivial) (by trivial) holds replied) ?_
  intro reply
  cases reply with
  | error error =>
      exact (undone_agrees committed restores error).of_pre (fun _ holds => holds.1)
  | ok _ =>
      refine Ends.observe (fun _ site =>
        holdsProfile attempt profile old site ∧ site.tunnel.carries profile)
        (fun _ _ _ holds replied _ => pointed_keeps (by trivial) (by trivial) holds replied) ?_
      intro reply
      cases reply with
      | ok _ => exact commitTarget_agrees committed restores asked
      | error error =>
          apply Ends.observe fun _ => holdsProfile attempt profile old
          · intro site reply later holds replied _
            exact undecided_keeps (by trivial) holds.1 replied
          intro _
          apply Ends.bind _ (undo_agrees committed restores)
          intro rollback
          exact refuse_agrees _ _ _

theorem applyEndpoint_agrees (committed : before.committed = some old)
    (restores : previous.runtime.carries old) (asked : Asked attempt target profile) :
    Ends agreementKept
      (fun site => holdsProfile attempt profile old site ∧ site.tunnel.mtu = target.effectiveMtu)
      (attempt.applyEndpoint previous target profile)
      (fun _ => before.agreesAfter attempt.transitionId)
      (before.agreesAfter attempt.transitionId) := by
  apply Ends.observe fun reply site => (∃ value, reply = .ok value) ∧
    holdsProfile attempt profile old site ∧ site.tunnel.carries profile
  · rintro site reply later ⟨holds, mtu⟩ replied allowed
    cases reply with
    | error error => exact allowed.1.elim
    | ok value =>
        refine ⟨⟨value, rfl⟩, undecided_keeps (by trivial) holds replied, ?_⟩
        obtain ⟨_, rfl⟩ := replied.of_ok
        exact ⟨congrArg some asked.endpoint.symm, mtu.trans asked.innerMtu.symm⟩
  intro reply
  apply Ends.learn fun _ holds => holds.1
  rintro ⟨value, rfl⟩
  exact (validateTarget_agrees committed restores asked).of_pre (fun _ holds => holds.2)

def untouched (attempt : SwitchAttempt) (old : ConnectionProfile) (previous : PreviousTunnel)
    (mine : ConnectionProfile → Prop) (site : SwitchSite) : Prop :=
  site.host.runsWith (HostNetworkState.awaits old attempt.operationId mine) ∧
    site.tunnel = previous.runtime

theorem untouched_agrees (committed : before.committed = some old)
    (restores : previous.runtime.carries old) {site : SwitchSite}
    (holds : untouched attempt old previous mine site) :
    before.agreesAfter attempt.transitionId site := by
  apply agrees_unmoved committed holds.1
  rw [holds.2]
  exact restores

theorem untouched_keeps {op : SwitchOp} {reply : Except String op.Ret}
    (undecided : op.undecided fun wanted => mine wanted.profile) (spares : op.sparesTunnel)
    (holds : untouched attempt old previous mine site)
    (replied : Reply switchHandler op site reply later) :
    untouched attempt old previous mine later := by
  refine ⟨undecided_keeps undecided holds.1 replied, ?_⟩
  rw [sparesTunnel_keeps spares replied]
  exact holds.2

theorem refuse_untouched (committed : before.committed = some old)
    (restores : previous.runtime.carries old) (code : TransitionErrorCode)
    (message error : String) :
    Ends agreementKept (untouched attempt old previous mine) (attempt.refuse code message error)
      (fun _ => before.agreesAfter attempt.transitionId)
      (before.agreesAfter attempt.transitionId) :=
  (refuse_agrees code message error).of_pre (fun _ holds => untouched_agrees committed restores holds)

theorem applyTarget_agrees (committed : before.committed = some old)
    (restores : previous.runtime.carries old) (asked : Asked attempt target profile) :
    Ends agreementKept (untouched attempt old previous (· = profile))
      (attempt.applyTarget previous target profile)
      (fun _ => before.agreesAfter attempt.transitionId)
      (before.agreesAfter attempt.transitionId) := by
  apply Ends.perform_keeping (fun _ _ _ => untouched_keeps (by trivial) (by trivial))
    fun _ => untouched_agrees committed restores
  intro _
  split
  · apply Ends.observe fun reply site => (∃ value, reply = .ok value) ∧
      holdsProfile attempt profile old site ∧ site.tunnel.mtu = target.effectiveMtu
    · intro site reply later holds replied allowed
      cases reply with
      | error error => exact allowed.1.elim
      | ok value =>
          refine ⟨⟨value, rfl⟩, undecided_keeps (by trivial) holds.1 replied, ?_⟩
          obtain ⟨_, rfl⟩ := replied.of_ok
          rfl
    intro reply
    apply Ends.learn fun _ holds => holds.1
    rintro ⟨value, rfl⟩
    exact (applyEndpoint_agrees committed restores asked).of_pre (fun _ holds => holds.2)
  · rename_i same
    apply (applyEndpoint_agrees committed restores asked).of_pre _
    intro site holds
    refine ⟨holds.1, ?_⟩
    rw [holds.2]
    exact (not_not.mp same).symm

theorem prepareHost_agrees (committed : before.committed = some old)
    (restores : previous.runtime.carries old) (asked : Asked attempt target profile) :
    Ends agreementKept (untouched attempt old previous fun _ => False)
      (attempt.prepareHost previous target profile)
      (fun _ => before.agreesAfter attempt.transitionId)
      (before.agreesAfter attempt.transitionId) := by
  have held : ∀ site, untouched attempt old previous (fun _ => False) site →
      untouched attempt old previous (· = profile) site := by
    intro site holds
    refine ⟨Host.runsWith_mono ?_ holds.1, holds.2⟩
    intro state awaits
    exact awaits_mono (fun _ impossible => impossible.elim) awaits
  apply Ends.perform fun _ => untouched attempt old previous (· = profile)
  · intro site value later holds replied _
    exact held later (untouched_keeps (by trivial) (by trivial) holds replied)
  · intro site error later holds replied _
    exact untouched_agrees committed restores
      (untouched_keeps (by trivial) (by trivial) holds replied)
  intro time
  apply Ends.observe_keeping fun _ _ _ => untouched_keeps (by exact rfl) (by trivial)
  intro reply
  cases reply with
  | error error =>
      apply Ends.observe_keeping fun _ _ _ => untouched_keeps (by trivial) (by trivial)
      intro _
      exact refuse_untouched committed restores _ _ _
  | ok prepared =>
      dsimp only
      split
      · exact applyTarget_agrees committed restores asked
      · apply Ends.observe fun _ => untouched attempt old previous (· = profile)
        · intro site reply later holds replied _
          exact untouched_keeps (by trivial) (by trivial) holds replied
        intro _
        exact Ends.throw fun _ holds => untouched_agrees committed restores holds

theorem connectHost_agrees (committed : before.committed = some old)
    (restores : previous.runtime.carries old) :
    Ends agreementKept (untouched attempt old previous fun _ => False)
      (attempt.connectHost previous target)
      (fun _ => before.agreesAfter attempt.transitionId)
      (before.agreesAfter attempt.transitionId) := by
  apply Ends.observe_keeping fun _ _ _ => untouched_keeps (by trivial) (by trivial)
  intro reply
  cases reply with
  | error error => exact refuse_untouched committed restores _ _ _
  | ok _ =>
      apply Ends.perform_keeping (fun _ _ _ => untouched_keeps (by trivial) (by trivial))
        fun _ => untouched_agrees committed restores
      intro status
      split
      · exact Ends.throw fun _ holds => untouched_agrees committed restores holds
      · exact prepareHost_agrees committed restores ⟨rfl, rfl, rfl⟩

theorem chooseTarget_agrees (committed : before.committed = some old)
    (restores : previous.runtime.carries old) :
    Ends agreementKept (untouched attempt old previous fun _ => False)
      (attempt.chooseTarget previous) (fun _ => before.agreesAfter attempt.transitionId)
      (before.agreesAfter attempt.transitionId) := by
  apply Ends.observe_keeping fun _ _ _ => untouched_keeps (by trivial) (by trivial)
  intro reply
  cases reply with
  | error error => exact refuse_untouched committed restores _ _ _
  | ok target => exact connectHost_agrees committed restores

theorem previousTunnel_runtime {tunnel : TunnelRuntime} {endpoint : NetworkEndpoint}
    (reads : tunnel.endpoint = some endpoint) (large : 576 ≤ tunnel.mtu) :
    (PreviousTunnel.mk endpoint (max tunnel.mtu 576) tunnel.generation).runtime = tunnel := by
  unfold PreviousTunnel.runtime
  rw [max_eq_left large, ← reads]

def unstarted (attempt : SwitchAttempt) (old : ConnectionProfile) (site : SwitchSite) : Prop :=
  site.host.runsWith (HostNetworkState.awaits old attempt.operationId fun _ => False) ∧
    site.tunnel.carries old

theorem unstarted_agrees (committed : before.committed = some old) {site : SwitchSite}
    (holds : unstarted attempt old site) : before.agreesAfter attempt.transitionId site :=
  agrees_unmoved committed holds.1 holds.2

theorem unstarted_keeps {op : SwitchOp} {reply : Except String op.Ret}
    (undecided : op.undecided fun _ => False) (spares : op.sparesTunnel)
    (holds : unstarted attempt old site) (replied : Reply switchHandler op site reply later) :
    unstarted attempt old later := by
  refine ⟨undecided_keeps undecided holds.1 replied, ?_⟩
  rw [sparesTunnel_keeps spares replied]
  exact holds.2

theorem runTransition_agrees (attempt : SwitchAttempt) (committed : before.committed = some old)
    (large : 576 ≤ old.innerMtu) :
    Ends agreementKept (unstarted attempt old) attempt.runTransition
      (fun _ => before.agreesAfter attempt.transitionId)
      (before.agreesAfter attempt.transitionId) := by
  refine Ends.observe (fun (reply : Except String TunnelRuntime) site =>
    unstarted attempt old site ∧ ∀ runtime, reply = .ok runtime → site.tunnel = runtime) ?_ ?_
  · intro site reply later holds replied _
    refine ⟨unstarted_keeps (by trivial) (by trivial) holds replied, ?_⟩
    rintro runtime rfl
    obtain ⟨answered, rfl⟩ := replied.of_ok
    exact Except.ok.inj answered
  intro reply
  cases reply with
  | error error =>
      exact (refuse_agrees _ _ _).of_pre (fun _ holds => unstarted_agrees committed holds.1)
  | ok runtime =>
      dsimp only
      split
      · exact Ends.throw fun _ holds => unstarted_agrees committed holds.1
      · rename_i endpoint reads
        have carried : ∀ site : SwitchSite, (unstarted attempt old site ∧
            ∀ other, Except.ok runtime = (.ok other : Except String TunnelRuntime) →
              site.tunnel = other) → runtime.carries old := by
          intro site holds
          rw [← holds.2 runtime rfl]
          exact holds.1.2
        apply Ends.learn carried
        intro carries
        have same := previousTunnel_runtime reads (by rw [carries.2]; exact large)
        apply (chooseTarget_agrees committed (by rw [same]; exact carries)).of_pre _
        intro site holds
        refine ⟨holds.1.1, ?_⟩
        rw [same]
        exact holds.2 runtime rfl

theorem switchInner_agrees (committed : before.committed = some old)
    (large : 576 ≤ old.innerMtu) (force : Bool) :
    Ends agreementKept (unstarted attempt old) (switchInner attempt force)
      (fun _ => before.agreesAfter attempt.transitionId)
      (before.agreesAfter attempt.transitionId) := by
  apply Ends.perform_keeping (fun _ _ _ => unstarted_keeps (by trivial) (by trivial))
    fun _ => unstarted_agrees committed
  intro network
  split
  · exact Ends.done fun _ holds => unstarted_agrees committed holds
  · apply Ends.perform fun _ => unstarted attempt old
    · intro site value later holds replied _
      exact unstarted_keeps (by trivial) (by trivial) holds replied
    · intro site error later holds replied _
      exact unstarted_agrees committed (unstarted_keeps (by trivial) (by trivial) holds replied)
    intro _
    apply Ends.perform_keeping (fun _ _ _ => unstarted_keeps (by trivial) (by trivial))
      fun _ => unstarted_agrees committed
    intro _
    exact runTransition_agrees
      { attempt with previousTransport := InstanceNetwork.activeTransport network } committed large

theorem settle_agrees {site : SwitchSite} (agrees : before.agreesAfter transitionId site) :
    before.agreesAfter transitionId site.settle := by
  obtain ⟨found, committed, carries, whose⟩ := agrees
  have calm : Calm fun state => state.committedProfile = some found :=
    ⟨fun _ holds => holds, fun _ _ holds => holds, fun _ _ holds => holds,
      fun _ _ _ holds => holds⟩
  have runs : site.host.runsWith fun state => state.committedProfile = some found := by
    unfold SwitchSite.committed at committed
    obtain ⟨state, held, holds⟩ := Option.bind_eq_some_iff.mp committed
    exact ⟨state, held, holds⟩
  have looked : site.settle.host.runsWith fun state => state.committedProfile = some found := by
    apply serve_keeps calm _ runs
    intro state holds
    trivial
  obtain ⟨state, held, holds⟩ := looked
  refine ⟨found, ?_, carries, whose⟩
  rw [SwitchSite.committed, held]
  exact holds

end Agreement

theorem validate_innerMtu {profile : ConnectionProfile} (valid : profile.validate = .ok ()) :
    576 ≤ profile.innerMtu := by
  unfold ConnectionProfile.validate at valid
  split at valid
  · cases valid
  · split at valid
    · cases valid
    · split at valid
      · cases valid
      · cases endpoint : profile.endpoint.validate with
        | error error =>
            rw [endpoint] at valid
            cases valid
        | ok _ =>
            rw [endpoint] at valid
            dsimp only [bind, Except.bind] at valid
            split at valid
            · cases valid
            · rename_i inRange
              simp only [mtuInRange, Bool.not_eq_false, Bool.and_eq_true,
                decide_eq_true_eq] at inRange
              exact inRange.1

/-- If both sides agreed before, they agree when the switch has returned, also once a lease
that is left has expired: unless the answer of a commit that the host has carried out is
lost. -/
theorem profiles_agree (attempt : SwitchAttempt) (force : Bool) (site : SwitchSite)
    (agreed : site.agrees) (valid : site.committedValid) (fresh : site.unused attempt.operationId)
    {outcome : Outcome String Unit} {final : Config switchInterface String SwitchSite}
    (run : Runs switchHandler
      (fun config event later =>
        tunnelSucceeds event ∧ commitAnswered config.state event later)
      (switchInner attempt force) ⟨[], site⟩ outcome final)
    (returned : outcome ≠ .stopped) :
    site.agreesAfter attempt.transitionId final.state ∧
      site.agreesAfter attempt.transitionId final.state.settle := by
  obtain ⟨old, committed, carries⟩ := agreed
  have large := validate_innerMtu (valid old committed)
  obtain ⟨state, held, holds⟩ := Option.bind_eq_some_iff.mp committed
  obtain ⟨uncommitted, unpending⟩ := fresh state held
  have starts : unstarted attempt old site := ⟨⟨state, held, holds, uncommitted, unpending⟩, carries⟩
  have ends := switchInner_agrees committed large force ⟨[], site⟩ outcome final starts run
  have agrees : site.agreesAfter attempt.transitionId final.state := by
    cases outcome with
    | value value => exact ends
    | error error => exact ends
    | stopped => exact absurd rfl returned
  exact ⟨agrees, settle_agrees agrees⟩

namespace SwitchSample

def commitAnswerLost : List (Signal String) :=
  List.replicate 13 .proceed ++ [.falter "Host control timed out"]

def run (signals : List (Signal String)) :
    Outcome String Unit × List (Signal String) × Config switchInterface String SwitchSite :=
  (switchInner attempt false).exec switchHandler signals ⟨[], site⟩

theorem run_runs {allow : Config switchInterface String SwitchSite → SwitchEvent → SwitchSite → Prop}
    {check : Config switchInterface String SwitchSite → SwitchEvent → SwitchSite → Bool}
    (sound : ∀ config event later, check config event later = true → allow config event later)
    (signals : List (Signal String))
    (follows : (switchInner attempt false).follows switchHandler check signals ⟨[], site⟩ = true) :
    Runs switchHandler allow (switchInner attempt false) ⟨[], site⟩ (run signals).1
      (run signals).2.2 := by
  unfold run
  exact follows_runs sound _ signals _ follows

def allSucceed (_ : Config switchInterface String SwitchSite) (event : SwitchEvent)
    (_ : SwitchSite) : Bool :=
  match event with
  | ⟨_, .ok _⟩ => true
  | ⟨_, .error _⟩ => false

theorem allSucceed_kept (config : Config switchInterface String SwitchSite) (event : SwitchEvent)
    (later : SwitchSite) (succeeds : allSucceed config event later = true) :
    tunnelSucceeds event ∧ commitAnswered config.state event later := by
  obtain ⟨op, reply⟩ := event
  cases reply with
  | ok value => cases op <;> exact ⟨trivial, trivial⟩
  | error error => cases succeeds

def tunnelCheck (_ : Config switchInterface String SwitchSite) (event : SwitchEvent)
    (_ : SwitchSite) : Bool :=
  match event with
  | ⟨.setMtu _ _, .error _⟩ => false
  | ⟨.setPeerEndpoint _ _ _, .error _⟩ => false
  | _ => true

theorem tunnelCheck_sound (config : Config switchInterface String SwitchSite)
    (event : SwitchEvent) (later : SwitchSite)
    (passes : tunnelCheck config event later = true) : tunnelSucceeds event := by
  unfold tunnelSucceeds
  unfold tunnelCheck at passes
  split
  · cases passes
  · cases passes
  · trivial

theorem site_agrees : site.agrees := ⟨earlierProfile, rfl, by decide⟩

theorem site_committedValid : site.committedValid := by
  intro profile committed
  rw [← Option.some.inj committed]
  decide +kernel

theorem site_unused : site.unused operationId := by
  intro state held
  rw [← Option.some.inj held]
  refine ⟨by decide, ?_⟩
  intro pending pends
  cases pends

end SwitchSample

theorem profiles_agree_sample :
    SwitchSample.site.agreesAfter SwitchSample.transitionId (SwitchSample.run []).2.2.state ∧
      SwitchSample.site.agreesAfter SwitchSample.transitionId
        (SwitchSample.run []).2.2.state.settle := by
  have follows : (switchInner SwitchSample.attempt false).follows switchHandler
      SwitchSample.allSucceed [] ⟨[], SwitchSample.site⟩ = true := by
    decide +kernel
  have run := SwitchSample.run_runs SwitchSample.allSucceed_kept [] follows
  have returned : (SwitchSample.run []).1 ≠ .stopped := by decide +kernel
  exact profiles_agree SwitchSample.attempt false SwitchSample.site SwitchSample.site_agrees
    SwitchSample.site_committedValid SwitchSample.site_unused run returned

/-- The host commits the relay and its answer is lost. The client goes back to the direct
endpoint and the abort finds nothing to take back. -/
theorem commit_answer_lost :
    SwitchSample.site.agrees ∧ SwitchSample.site.committedValid ∧
      SwitchSample.site.unused SwitchSample.attempt.operationId ∧
      ∃ final : Config switchInterface String SwitchSite,
        Runs switchHandler (fun _ event _ => tunnelSucceeds event)
          (switchInner SwitchSample.attempt false) ⟨[], SwitchSample.site⟩
          (.error "Host control timed out") final ∧
        (final.state.host.memory.bind HostNetworkState.pendingProfile) = none ∧
        ¬ final.state.agrees := by
  have follows : (switchInner SwitchSample.attempt false).follows switchHandler
      SwitchSample.tunnelCheck SwitchSample.commitAnswerLost ⟨[], SwitchSample.site⟩ = true := by
    decide +kernel
  have failed : (SwitchSample.run SwitchSample.commitAnswerLost).1 =
      .error "Host control timed out" := by
    decide +kernel
  have run := SwitchSample.run_runs SwitchSample.tunnelCheck_sound SwitchSample.commitAnswerLost
    follows
  rw [failed] at run
  refine ⟨SwitchSample.site_agrees, SwitchSample.site_committedValid, SwitchSample.site_unused,
    _, run, by decide +kernel, ?_⟩
  have parted : ((SwitchSample.run SwitchSample.commitAnswerLost).2.2.state.committed.map
        ConnectionProfile.endpoint,
      (SwitchSample.run SwitchSample.commitAnswerLost).2.2.state.tunnel.endpoint) =
      (some SwitchSample.relay, some SwitchSample.direct) := by
    decide +kernel
  obtain ⟨committed, pointed⟩ := Prod.mk.inj parted
  rintro ⟨profile, found, carries⟩
  rw [found] at committed
  rw [carries.1] at pointed
  have same : SwitchSample.relay = SwitchSample.direct :=
    (Option.some.inj committed).symm.trans (Option.some.inj pointed)
  exact absurd same (by decide)

end Noland.Network
