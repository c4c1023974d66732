import Noland.Network.TurnManager

/-!
A call that fails leaves the state in memory as it is on disk only if a state that cannot be
written has not been put into memory first: a commit writes first, but a prepare, an abort and an
expiry do not.
-/

namespace Noland.Network

open Noland.Core Noland.Requests

inductive TurnCall where
  | start (settings : ManagerSettings)
  | prepare (wanted : PrepareConnectionProfileRequest)
  | commit (named : ProfileRequest)
  | abort (named : ProfileRequest)
  | expire
  deriving DecidableEq

/-- A manager is started where none runs; the other calls need one. -/
def TurnCall.program : TurnCall → Option HostNetworkState → Option (TurnProg Unit)
  | .start settings, none => some (newManager settings)
  | .prepare wanted, some state => some do
      let _ ← prepareConnectionProfile wanted state
      .done ()
  | .commit named, some state => some do
      let _ ← commitConnectionProfile named state
      .done ()
  | .abort named, some state => some do
      let _ ← abortConnectionProfile named state
      .done ()
  | .expire, some state => some do
      let _ ← reconcileExpiredProfile state
      .done ()
  | _, _ => none

def TurnCall.commits : TurnCall → Bool
  | .commit _ => true
  | _ => false

def HostNetworkState.allocate (state : HostNetworkState) (generation : Nat)
    (endpoint : Option NetworkEndpoint) : HostNetworkState :=
  { state with allocationGeneration := generation, relayEndpoint := endpoint }

def afterwards (outcome : Outcome String Unit) (host : Host) : Host :=
  match outcome with
  | .stopped => { host with memory := none }
  | _ => host

inductive Reached (allow : Config turnInterface String Host → Event turnInterface String →
    Host → Prop) (initial : Host) : Host → Prop where
  | initial : Reached allow initial initial
  | halted {host : Host} (reached : Reached allow initial host) :
      Reached allow initial { host with memory := none }
  | allocated {host : Host} {state : HostNetworkState} (reached : Reached allow initial host)
      (running : host.memory = some state) (generation : Nat) (endpoint : Option NetworkEndpoint) :
      Reached allow initial { host with
        memory := some (state.allocate generation endpoint)
        disk := some (state.allocate generation endpoint) }
  | called {host : Host} {call : TurnCall} {program : TurnProg Unit}
      {outcome : Outcome String Unit} {final : Config turnInterface String Host}
      (reached : Reached allow initial host) (made : call.program host.memory = some program)
      (run : Runs turnHandler allow program ⟨[], host⟩ outcome final) :
      Reached allow initial (afterwards outcome final.state)

/-- A `set_mtu` that fails leaves the interface unchanged. -/
def KeepsMtu (config : Config turnInterface String Host) (event : Event turnInterface String)
    (later : Host) : Prop :=
  ∀ mtu error, event = ⟨TurnOp.setMtu mtu, .error error⟩ → later.mtu = config.state.mtu

/-- A state that cannot be written is not in memory, and is not found in the file by
a process that goes on. -/
def WritesFirst (config : Config turnInterface String Host) (event : Event turnInterface String)
    (later : Host) : Prop :=
  ∀ state error, event = ⟨TurnOp.persistState state, .error error⟩ →
    config.state.memory = none ∨
      (config.state.memory ≠ some state ∧ later.disk = config.state.disk)

def Careful (config : Config turnInterface String Host) (event : Event turnInterface String)
    (later : Host) : Prop :=
  KeepsMtu config event later ∧ WritesFirst config event later

def HostNetworkState.restingMtu (state : HostNetworkState) (initial : Nat) : Nat :=
  (state.committedProfile.map ConnectionProfile.innerMtu).getD initial

def Host.committedRevision (host : Host) : Nat :=
  (host.disk.map HostNetworkState.committedRevision).getD 0

structure Atomic (initial : Nat) (call : TurnCall) (host : Host) (outcome : Outcome String Unit)
    (later : Host) : Prop where
  onePending : ∀ state ∈ later.memory, ∀ stored ∈ later.disk,
    ∀ pending ∈ state.pendingProfile, ∀ journaled ∈ stored.pendingProfile, pending = journaled
  revision : ∀ state, state ∈ later.memory ∨ state ∈ later.disk →
    state.committedRevision = host.committedRevision ∨
      (call.commits = true ∧ state.committedRevision = host.committedRevision + 1)
  consistent : ∀ error, outcome = .error error → ∀ state ∈ later.memory, later.disk = some state
  resting : ∀ state ∈ later.memory, state.pendingProfile = none →
    later.mtu = state.restingMtu initial

structure Copies where
  memory : Option HostNetworkState
  disk : Option HostNetworkState
  mtu : Nat

def Host.copies (host : Host) : Copies := ⟨host.memory, host.disk, host.mtu⟩

def Checked {Value : Type} (copies : Copies) (program : TurnProg Value)
    (post : Value → Copies → Prop) (fail stop : Copies → Prop) : Prop :=
  Triple turnHandler Careful (fun config => config.state.copies = copies) program
    (fun value config => post value config.state.copies) (fun config => fail config.state.copies)
    (fun config => stop config.state.copies)

section Checked

variable {α β : Type} {copies : Copies} {post : β → Copies → Prop} {fail stop : Copies → Prop}
  {state : HostNetworkState} {mtu : Nat} {text : String}

theorem Checked.done {value : β} (holds : post value copies) :
    Checked copies (.done value) post fail stop := by
  apply Triple.done
  intro config here
  rw [here]
  exact holds

theorem Checked.throw {error : String} (holds : fail copies) :
    Checked copies (.throw error) post fail stop := by
  apply Triple.throw
  intro config here
  rw [here]
  exact holds

theorem Checked.ofExcept {result : Except String α} {f : α → TurnProg β} (fails : fail copies)
    (succeeds : ∀ value, result = .ok value → Checked copies (f value) post fail stop) :
    Checked copies (Prog.ofExcept result >>= f) post fail stop := by
  cases result with
  | ok value => exact succeeds value rfl
  | error error => exact Checked.throw fails

theorem Checked.bind {program : TurnProg α} {f : α → TurnProg β} {middle : α → Copies → Prop}
    (first : Checked copies program middle fail stop)
    (second : ∀ value later, middle value later → Checked later (f value) post fail stop) :
    Checked copies (program >>= f) post fail stop := by
  apply Triple.bind _ first
  intro value
  apply Triple.fix
  intro config holds
  apply (second value config.state.copies holds).weaken
  · rintro _ rfl
    rfl
  · exact fun _ _ last => last
  · exact fun _ last => last
  · exact fun _ last => last

theorem Checked.request {op : TurnOp} {next : Except String op.Ret → TurnProg β}
    (stops : turnHandler.internal op = false → stop copies)
    (replies : ∀ config reply later, config.state.copies = copies →
      Reply turnHandler op config.state reply later → Careful config ⟨op, reply⟩ later →
      Checked later.copies (next reply) post fail stop) :
    Checked copies (.request op next) post fail stop := by
  intro config outcome final here run
  cases run with
  | stop _ _ _ external =>
      show stop config.state.copies
      rw [here]
      exact stops external
  | request replied allowed rest =>
      exact replies config _ _ here replied allowed _ _ _ rfl rest

theorem Checked.now {f : Timestamp → TurnProg β}
    (continues : ∀ time, Checked copies (f time) post fail stop) :
    Checked copies (Network.request .now >>= f) post fail stop := by
  apply Checked.request (fun external => nomatch external)
  intro config reply later here replied _
  obtain ⟨rfl, rfl⟩ := replied.of_internal rfl
  rw [← here] at continues
  exact continues _

theorem Checked.remember {f : Unit → TurnProg β}
    (continues : Checked { copies with memory := some state } (f ()) post fail stop) :
    Checked copies (Network.request (.remember state) >>= f) post fail stop := by
  apply Checked.request (fun external => nomatch external)
  intro config reply later here replied _
  obtain ⟨rfl, rfl⟩ := replied.of_internal rfl
  rw [← here] at continues
  exact continues

theorem Checked.load {f : Option HostNetworkState → TurnProg β}
    (continues : Checked copies (f copies.disk) post fail stop) :
    Checked copies (Network.request .loadPreviousState >>= f) post fail stop := by
  apply Checked.request (fun external => nomatch external)
  intro config reply later here replied _
  obtain ⟨rfl, rfl⟩ := replied.of_internal rfl
  rw [← here] at continues
  exact continues

theorem Checked.getMtu {f : Nat → TurnProg β} (stops : stop copies) (fails : fail copies)
    (continues : Checked copies (f copies.mtu) post fail stop) :
    Checked copies (Network.request .getMtu >>= f) post fail stop := by
  apply Checked.request (fun _ => stops)
  intro config reply later here replied _
  rw [← here] at fails continues
  cases replied with
  | proceed => exact continues
  | refuse error => exact Checked.throw fails
  | falter error => exact Checked.throw fails

theorem Checked.tryGetMtu {f : Except String Nat → TurnProg β} (stops : stop copies)
    (continues : ∀ observed, Checked copies (f observed) post fail stop) :
    Checked copies (tryRequest .getMtu >>= f) post fail stop := by
  apply Checked.request (fun _ => stops)
  intro config reply later here replied _
  rw [← here] at continues
  cases replied with
  | proceed => exact continues _
  | refuse error => exact continues _
  | falter error => exact continues _

theorem Checked.trySetMtu {next : Except String Unit → TurnProg β} (stops : stop copies)
    (fails : ∀ error, Checked copies (next (.error error)) post fail stop)
    (continues : Checked { copies with mtu := mtu } (next (.ok ())) post fail stop) :
    Checked copies (.request (TurnOp.setMtu mtu) next) post fail stop := by
  apply Checked.request (fun _ => stops)
  intro config reply later here replied careful
  rw [← here] at fails continues
  cases replied with
  | proceed =>
      by_cases valid : mtuInRange mtu = true
      · have set : config.state.setMtu mtu = (.ok (), { config.state with mtu := mtu }) :=
          if_pos valid
        show Checked (config.state.setMtu mtu).2.copies (next (config.state.setMtu mtu).1) _ _ _
        rw [set]
        exact continues
      · have refused : config.state.setMtu mtu =
            (.error "WireGuard MTU must be between 576 and 1500 bytes", config.state) :=
          if_neg valid
        show Checked (config.state.setMtu mtu).2.copies (next (config.state.setMtu mtu).1) _ _ _
        rw [refused]
        exact fails _
  | refuse error => exact fails error
  | falter error =>
      have same : (config.state.setMtu mtu).2.mtu = config.state.mtu := careful.1 mtu error rfl
      have kept : (config.state.setMtu mtu).2.copies = config.state.copies := by
        unfold Host.setMtu at same ⊢
        split
        · rename_i valid
          rw [if_pos valid] at same
          rw [Host.copies, Host.copies, same]
        · rfl
      show Checked (config.state.setMtu mtu).2.copies (next (.error error)) _ _ _
      rw [kept]
      exact fails error

theorem Checked.setMtu {f : Unit → TurnProg β} (stops : stop copies) (fails : fail copies)
    (continues : Checked { copies with mtu := mtu } (f ()) post fail stop) :
    Checked copies (withContext (.setMtu mtu) text >>= f) post fail stop :=
  Checked.trySetMtu stops (fun _ => Checked.throw fails) continues

theorem Checked.persist {next : Except String Unit → TurnProg β}
    (known : copies.memory = some state) (stops : stop copies)
    (continues : Checked { copies with disk := some state } (next (.ok ())) post fail stop) :
    Checked copies (.request (TurnOp.persistState state) next) post fail stop := by
  apply Checked.request (fun _ => stops)
  intro config reply later here replied careful
  have held : config.state.memory = some state := by
    rw [← here] at known
    exact known
  have written : ∀ error, reply ≠ .error error := by
    rintro error rfl
    rcases careful.2 state error rfl with absent | ⟨different, _⟩
    · rw [held] at absent
      cases absent
    · exact different held
  rw [← here] at continues
  cases replied with
  | proceed => exact continues
  | refuse error => exact absurd rfl (written error)
  | falter error => exact absurd rfl (written error)

theorem Checked.persistFirst {f : Unit → TurnProg β} (stops : stop copies) (fails : fail copies)
    (halfway : copies.memory = none → fail { copies with disk := some state })
    (continues : Checked { copies with disk := some state } (f ()) post fail stop) :
    Checked copies (Network.request (.persistState state) >>= f) post fail stop := by
  apply Checked.request (fun _ => stops)
  intro config reply later here replied careful
  rw [← here] at fails halfway continues
  cases replied with
  | proceed => exact continues
  | refuse error => exact Checked.throw fails
  | falter error =>
      apply Checked.throw
      rcases careful.2 state error rfl with absent | ⟨_, same⟩
      · exact halfway absent
      · have kept : ({ config.state with disk := some state } : Host).copies =
            config.state.copies := by
          rw [Host.copies, Host.copies, show some state = config.state.disk from same]
        show fail ({ config.state with disk := some state } : Host).copies
        rw [kept]
        exact fails

end Checked

structure Journaled (initial : Nat) (state : HostNetworkState) (mtu : Nat) : Prop where
  idle : state.pendingProfile = none → mtu = state.restingMtu initial
  pending : ∀ pending ∈ state.pendingProfile,
    pending.previousMtu = state.restingMtu initial ∧
      (mtu = state.restingMtu initial ∨ mtu = pending.profile.innerMtu) ∧
      pending.profile.profileRevision = saturatingSucc state.committedRevision

structure Settled (initial : Nat) (committed : Option ConnectionProfile) (copies : Copies) :
    Prop where
  same : ∃ state, copies.memory = some state ∧ copies.disk = some state ∧
    state.committedProfile = committed ∧ Journaled initial state copies.mtu

structure Underway (initial : Nat) (committed : Option ConnectionProfile) (copies : Copies) :
    Prop where
  both : ∃ state stored, copies.memory = some state ∧ copies.disk = some stored ∧
    state.committedProfile = committed ∧ stored.committedProfile = committed ∧
    (∀ pending ∈ state.pendingProfile, ∀ journaled ∈ stored.pendingProfile,
      pending = journaled) ∧
    (state.pendingProfile = none → copies.mtu = state.restingMtu initial) ∧
    Journaled initial stored copies.mtu

section Promises

variable {initial : Nat} {committed : Option ConnectionProfile} {copies : Copies}
  {state : HostNetworkState} {pending : PendingConnectionProfile} {mtu : Nat}

theorem Settled.underway (settled : Settled initial committed copies) :
    Underway initial committed copies := by
  obtain ⟨state, memory, disk, same, journaled⟩ := settled.same
  refine ⟨state, state, memory, disk, same, same, ?_, journaled.idle, journaled⟩
  intro pending here journaled there
  exact Option.mem_unique here there

theorem settled_of (same : state.committedProfile = committed)
    (journaled : Journaled initial state mtu) :
    Settled initial committed ⟨some state, some state, mtu⟩ :=
  ⟨state, rfl, rfl, same, journaled⟩

structure Stored (initial : Nat) (committed : Option ConnectionProfile) (state : HostNetworkState)
    (copies : Copies) : Prop where
  same : state.committedProfile = committed
  copied : copies = ⟨some state, some state, copies.mtu⟩
  journaled : Journaled initial state copies.mtu

theorem Stored.settled (stored : Stored initial committed state copies) :
    Settled initial committed copies := by
  rw [stored.copied]
  exact settled_of stored.same stored.journaled

theorem Journaled.restored (journaled : Journaled initial state mtu)
    (here : state.pendingProfile = some pending) :
    Journaled initial state pending.previousMtu := by
  obtain ⟨previous, _, revision⟩ := journaled.pending pending here
  constructor
  · intro empty
    rw [here] at empty
    cases empty
  · intro other member
    rw [here] at member
    cases member
    exact ⟨previous, Or.inl previous, revision⟩

theorem rollbackPending_checked (same : state.committedProfile = committed)
    (journaled : Journaled initial state mtu) (here : state.pendingProfile = some pending)
    (text : String) :
    Checked ⟨some state, some state, mtu⟩ (rollbackPending state pending text)
      (Stored initial committed) (Settled initial committed) (Underway initial committed) := by
  have settled := settled_of same journaled
  have previous := (journaled.pending pending here).1
  have restored := journaled.restored here
  apply Checked.setMtu settled.underway settled
  apply Checked.now
  intro time
  apply Checked.remember
  have rested : pending.previousMtu =
      ((state.dropPending.observe pending.previousMtu).touch time).restingMtu initial := previous
  have quiet : Journaled initial ((state.dropPending.observe pending.previousMtu).touch time)
      pending.previousMtu :=
    ⟨fun _ => rested, fun _ member => nomatch member⟩
  apply Checked.persist rfl
  · refine ⟨_, state, rfl, rfl, same, same, ?_, fun _ => rested, restored⟩
    intro _ member
    cases member
  · exact Checked.done ⟨same, rfl, quiet⟩

theorem reconcileExpiredProfile_checked (same : state.committedProfile = committed)
    (journaled : Journaled initial state mtu) :
    Checked ⟨some state, some state, mtu⟩ (reconcileExpiredProfile state)
      (Stored initial committed) (Settled initial committed) (Underway initial committed) := by
  unfold reconcileExpiredProfile
  split
  · exact Checked.done ⟨same, rfl, journaled⟩
  · rename_i pending here
    apply Checked.now
    intro time
    split
    · exact rollbackPending_checked same journaled here _
    · exact Checked.done ⟨same, rfl, journaled⟩

theorem journalPrepared_journaled {wanted : PrepareConnectionProfileRequest} {time lease : Timestamp}
    (admitted : admitProfile state wanted = .ok ()) (idle : mtu = state.restingMtu initial) :
    Journaled initial (journalPrepared state wanted mtu time lease) mtu ∧
      Journaled initial (journalPrepared state wanted mtu time lease) wanted.profile.innerMtu := by
  have revision : wanted.profile.profileRevision = saturatingSucc state.committedRevision := by
    by_contra different
    unfold admitProfile at admitted
    rw [if_pos different] at admitted
    split at admitted
    · cases admitted
    · cases admitted
  constructor
  · refine ⟨fun empty => (nomatch empty), ?_⟩
    rintro _ ⟨⟩
    exact ⟨idle, Or.inl idle, revision⟩
  · refine ⟨fun empty => (nomatch empty), ?_⟩
    rintro _ ⟨⟩
    exact ⟨idle, Or.inr rfl, revision⟩

theorem failPrepared_checked (same : state.committedProfile = committed)
    (journaled : Journaled initial state mtu) (idle : mtu = state.restingMtu initial) :
    Checked ⟨some state, some state, mtu⟩ (failPrepared state)
      (fun _ => Settled initial committed) (Settled initial committed)
      (Underway initial committed) := by
  apply Checked.now
  intro time
  apply Checked.remember
  have quiet : Journaled initial (state.dropPending.touch time) mtu :=
    ⟨fun _ => idle, fun _ member => nomatch member⟩
  apply Checked.persist rfl
  · refine ⟨_, state, rfl, rfl, same, same, ?_, fun _ => idle, journaled⟩
    intro _ member
    cases member
  · exact Checked.throw (settled_of same quiet)

theorem finishPrepared_checked (same : state.committedProfile = committed)
    (journaled : Journaled initial state mtu) (profile : ConnectionProfile) :
    Checked ⟨some state, some state, mtu⟩ (finishPrepared state profile)
      (fun _ => Settled initial committed) (Settled initial committed)
      (Underway initial committed) := by
  have settled := settled_of same journaled
  apply Checked.getMtu settled.underway settled
  apply Checked.now
  intro time
  apply Checked.remember
  have applied : Journaled initial ((state.observe mtu).touch time) mtu :=
    ⟨journaled.idle, journaled.pending⟩
  apply Checked.persist rfl
  · refine ⟨_, state, rfl, rfl, same, same, ?_, applied.idle, journaled⟩
    intro _ left _ right
    exact Option.mem_unique left right
  · exact Checked.done (settled_of same applied)

theorem startPrepared_checked (same : state.committedProfile = committed)
    (journaled : Journaled initial state mtu) (empty : state.pendingProfile = none)
    (wanted : PrepareConnectionProfileRequest) (time lease : Timestamp) :
    Checked ⟨some state, some state, mtu⟩ (startPrepared state wanted time lease)
      (fun _ => Settled initial committed) (Settled initial committed)
      (Underway initial committed) := by
  have settled := settled_of same journaled
  have idle := journaled.idle empty
  apply Checked.ofExcept settled
  intro _ admitted
  apply Checked.getMtu settled.underway settled
  obtain ⟨waiting, applied⟩ := @journalPrepared_journaled initial state mtu wanted time lease
    admitted idle
  apply Checked.remember
  apply Checked.persist rfl
  · refine ⟨_, state, rfl, rfl, same, same, ?_, waiting.idle, journaled⟩
    intro _ _ _ member
    rw [empty] at member
    cases member
  · have kept : (journalPrepared state wanted mtu time lease).committedProfile = committed := same
    have ready := settled_of kept waiting
    apply Checked.trySetMtu ready.underway
    · intro error
      exact failPrepared_checked kept waiting idle
    · exact finishPrepared_checked kept applied wanted.profile

theorem prepareConnectionProfile_checked (same : state.committedProfile = committed)
    (journaled : Journaled initial state mtu) (wanted : PrepareConnectionProfileRequest) :
    Checked ⟨some state, some state, mtu⟩ (prepareConnectionProfile wanted state)
      (fun _ => Settled initial committed) (Settled initial committed)
      (Underway initial committed) := by
  have settled := settled_of same journaled
  apply Checked.ofExcept settled
  intro _ _
  apply Checked.ofExcept settled
  intro lease _
  apply Checked.now
  intro time
  split
  · exact Checked.throw settled
  · apply Checked.bind (reconcileExpiredProfile_checked same journaled)
    intro reconciled copies stored
    have ready := stored.settled
    split
    · exact Checked.throw ready
    · split
      · split
        · exact Checked.done ready
        · exact Checked.throw ready
      · rename_i empty
        rw [stored.copied]
        exact startPrepared_checked stored.same stored.journaled empty wanted time lease

structure Advanced (initial : Nat) (committed : Option ConnectionProfile) (copies : Copies) :
    Prop where
  same : ∃ state, copies.memory = some state ∧ copies.disk = some state ∧
    Journaled initial state copies.mtu ∧
    (state.committedRevision = (committed.map ConnectionProfile.profileRevision).getD 0 ∨
      state.committedRevision = (committed.map ConnectionProfile.profileRevision).getD 0 + 1)

theorem Settled.advanced (settled : Settled initial committed copies) :
    Advanced initial committed copies := by
  obtain ⟨state, memory, disk, rfl, journaled⟩ := settled.same
  exact ⟨state, memory, disk, journaled, Or.inl rfl⟩

theorem commitPending_checked (same : state.committedProfile = committed)
    (journaled : Journaled initial state mtu) (here : state.pendingProfile = some pending)
    (named : ProfileRequest) :
    Checked ⟨some state, some state, mtu⟩ (commitPending state pending named)
      (fun _ => Advanced initial committed) (Settled initial committed)
      (Underway initial committed) := by
  have settled := settled_of same journaled
  obtain ⟨_, _, revision⟩ := journaled.pending pending here
  apply Checked.getMtu settled.underway settled
  split
  · exact Checked.throw settled
  · rename_i observed
    have applied : mtu = pending.profile.innerMtu := not_not.mp observed
    apply Checked.now
    intro time
    apply Checked.persistFirst settled.underway settled (fun absent => (nomatch absent))
    apply Checked.remember
    apply Checked.done
    refine ⟨_, rfl, rfl, ⟨fun _ => applied, fun _ member => (nomatch member)⟩, ?_⟩
    have before : state.committedRevision =
        (committed.map ConnectionProfile.profileRevision).getD 0 := by
      rw [← same]
      rfl
    show pending.profile.profileRevision = _ ∨ pending.profile.profileRevision = _
    rw [revision, before, saturatingSucc]
    split
    · exact Or.inr rfl
    · exact Or.inl rfl

theorem commitConnectionProfile_checked (same : state.committedProfile = committed)
    (journaled : Journaled initial state mtu) (named : ProfileRequest) :
    Checked ⟨some state, some state, mtu⟩ (commitConnectionProfile named state)
      (fun _ => Advanced initial committed) (Settled initial committed)
      (Underway initial committed) := by
  apply Checked.bind (reconcileExpiredProfile_checked same journaled)
  intro reconciled copies stored
  have ready := stored.settled
  split
  · exact Checked.done ready.advanced
  · split
    · exact Checked.throw ready
    · rename_i here
      split
      · rw [stored.copied]
        exact commitPending_checked stored.same stored.journaled here named
      · exact Checked.throw ready

theorem abortConnectionProfile_checked (same : state.committedProfile = committed)
    (journaled : Journaled initial state mtu) (named : ProfileRequest) :
    Checked ⟨some state, some state, mtu⟩ (abortConnectionProfile named state)
      (fun _ => Settled initial committed) (Settled initial committed)
      (Underway initial committed) := by
  have settled := settled_of same journaled
  unfold abortConnectionProfile
  split
  · exact Checked.done settled
  · rename_i pending here
    split
    · apply Checked.bind (rollbackPending_checked same journaled here _)
      exact fun _ _ stored => Checked.done stored.settled
    · exact Checked.throw settled

structure Dormant (initial : Nat) (committed : Option ConnectionProfile) (copies : Copies) :
    Prop where
  memory : copies.memory = none
  committed : copies.disk.bind HostNetworkState.committedProfile = committed
  fresh : copies.disk = none → copies.mtu = initial
  journaled : ∀ stored ∈ copies.disk, Journaled initial stored copies.mtu

theorem recoverMtu_checked (dormant : Dormant initial committed copies) :
    Checked copies (recoverMtu copies.disk)
      (fun _ later => Dormant initial committed later ∧ later.disk = copies.disk ∧
        later.mtu = (committed.map ConnectionProfile.innerMtu).getD initial)
      (Dormant initial committed) (Dormant initial committed) := by
  obtain ⟨memory, disk, mtu⟩ := copies
  obtain ⟨rfl, rfl, fresh, journaled⟩ := dormant
  have still : Dormant initial (disk.bind HostNetworkState.committedProfile)
      ⟨none, disk, mtu⟩ := ⟨rfl, rfl, fresh, journaled⟩
  cases disk with
  | none => exact Checked.done ⟨still, rfl, fresh rfl⟩
  | some stored =>
      have known := journaled stored rfl
      cases here : stored.pendingProfile with
      | some pending =>
          have reduced : recoverMtu (some stored) = withContext (.setMtu pending.previousMtu)
              "failed rolling back an interrupted connection profile" := by
            rw [recoverMtu, Option.bind_some, here]
          rw [reduced]
          apply Checked.trySetMtu still (fun _ => Checked.throw still)
          apply Checked.done
          refine ⟨⟨rfl, rfl, fun absent => (nomatch absent), ?_⟩, rfl, ?_⟩
          · rintro _ ⟨⟩
            exact known.restored here
          · exact (known.pending pending here).1
      | none =>
          cases committed : stored.committedProfile with
          | some profile =>
              have reduced : recoverMtu (some stored) = withContext (.setMtu profile.innerMtu)
                  "failed reapplying the committed connection profile" := by
                rw [recoverMtu, Option.bind_some, Option.bind_some, here, committed]
              rw [reduced]
              apply Checked.trySetMtu still (fun _ => Checked.throw still)
              apply Checked.done
              have rested : profile.innerMtu = stored.restingMtu initial := by
                simp [HostNetworkState.restingMtu, committed]
              refine ⟨⟨rfl, rfl, fun absent => (nomatch absent), ?_⟩, rfl, rested⟩
              rintro _ ⟨⟩
              refine ⟨fun _ => rested, ?_⟩
              intro other member
              rw [here] at member
              cases member
          | none =>
              have reduced : recoverMtu (some stored) = .done () := by
                simp [recoverMtu, here, committed]
              rw [reduced]
              exact Checked.done ⟨still, rfl, known.idle here⟩

theorem newManager_checked (settings : ManagerSettings)
    (dormant : Dormant initial committed copies) :
    Checked copies (newManager settings) (fun _ => Settled initial committed)
      (Dormant initial committed) (Dormant initial committed) := by
  apply Checked.load
  apply Checked.bind (recoverMtu_checked dormant)
  rintro _ later ⟨still, disk, rested⟩
  apply Checked.tryGetMtu still
  intro observed
  apply Checked.now
  intro time
  have same : (startedState settings copies.disk observed time).committedProfile = committed :=
    dormant.committed
  have quiet : Journaled initial (startedState settings copies.disk observed time) later.mtu := by
    refine ⟨fun _ => ?_, fun _ member => (nomatch member)⟩
    rw [rested, HostNetworkState.restingMtu, same]
  apply Checked.persistFirst still still
  · intro _
    refine ⟨still.memory, same, fun absent => (nomatch absent), ?_⟩
    rintro _ ⟨⟩
    exact quiet
  · apply Checked.remember
    exact Checked.done ⟨_, rfl, rfl, same, quiet⟩

end Promises

def Steady (initial : Nat) (host : Host) : Prop :=
  ∃ committed, Settled initial committed host.copies ∨ Dormant initial committed host.copies

section Runs

variable {initial : Nat} {committed : Option ConnectionProfile} {host : Host} {call : TurnCall}
  {program : TurnProg Unit} {outcome : Outcome String Unit}
  {final : Config turnInterface String Host}

theorem Settled.committedRevision (settled : Settled initial committed host.copies) :
    host.committedRevision = (committed.map ConnectionProfile.profileRevision).getD 0 := by
  obtain ⟨state, _, disk, rfl, _⟩ := settled.same
  have stored : host.disk = some state := disk
  rw [Host.committedRevision, stored]
  rfl

theorem Dormant.committedRevision (dormant : Dormant initial committed host.copies) :
    host.committedRevision = (committed.map ConnectionProfile.profileRevision).getD 0 := by
  rw [← dormant.committed]
  show (host.disk.map _).getD 0 = ((host.disk.bind _).map _).getD 0
  cases host.disk with
  | none => rfl
  | some state => rfl

theorem call_checked (settled : Settled initial committed host.copies)
    (made : call.program host.memory = some program) :
    Checked host.copies program
      (fun _ copies => Settled initial committed copies ∨
        (call.commits = true ∧ Advanced initial committed copies))
      (Settled initial committed) (Underway initial committed) := by
  obtain ⟨known, memory, disk, same, journaled⟩ := settled.same
  have held : host.memory = some known := memory
  have stored : host.disk = some known := disk
  have copied : host.copies = ⟨some known, some known, host.mtu⟩ := by
    rw [Host.copies, held, stored]
  rw [held] at made
  rw [copied]
  cases call with
  | start settings => cases made
  | prepare wanted =>
      cases made
      apply Checked.bind (prepareConnectionProfile_checked same journaled wanted)
      exact fun _ _ last => Checked.done (Or.inl last)
  | commit named =>
      cases made
      apply Checked.bind (commitConnectionProfile_checked same journaled named)
      exact fun _ _ last => Checked.done (Or.inr ⟨rfl, last⟩)
  | abort named =>
      cases made
      apply Checked.bind (abortConnectionProfile_checked same journaled named)
      exact fun _ _ last => Checked.done (Or.inl last)
  | expire =>
      cases made
      apply Checked.bind (reconcileExpiredProfile_checked same journaled)
      exact fun _ _ last => Checked.done (Or.inl last.settled)

theorem start_checked (dormant : Dormant initial committed host.copies)
    (made : call.program host.memory = some program) :
    Checked host.copies program (fun _ => Settled initial committed)
      (Dormant initial committed) (Dormant initial committed) := by
  have none_runs : host.memory = none := dormant.memory
  rw [none_runs] at made
  cases call with
  | start settings =>
      cases made
      exact newManager_checked settings dormant
  | prepare wanted => cases made
  | commit named => cases made
  | abort named => cases made
  | expire => cases made

theorem Advanced.settled {copies : Copies} (advanced : Advanced initial committed copies) :
    ∃ later, Settled initial later copies := by
  obtain ⟨state, memory, disk, journaled, _⟩ := advanced.same
  exact ⟨state.committedProfile, state, memory, disk, rfl, journaled⟩

theorem Underway.dormant (underway : Underway initial committed host.copies) :
    Dormant initial committed ({ host with memory := none } : Host).copies := by
  obtain ⟨_, stored, _, disk, _, same, _, _, journaled⟩ := underway.both
  have kept : host.disk = some stored := disk
  refine ⟨rfl, ?_, ?_, ?_⟩
  · show host.disk.bind _ = committed
    rw [kept]
    exact same
  · intro absent
    have empty : host.disk = none := absent
    rw [kept] at empty
    cases empty
  · intro other member
    have here : host.disk = some other := member
    rw [kept] at here
    cases here
    exact journaled

theorem Dormant.halted (dormant : Dormant initial committed host.copies) :
    Dormant initial committed ({ host with memory := none } : Host).copies :=
  ⟨rfl, dormant.committed, dormant.fresh, dormant.journaled⟩

theorem steady_called (steady : Steady initial host)
    (made : call.program host.memory = some program)
    (run : Runs turnHandler Careful program ⟨[], host⟩ outcome final) :
    Steady initial (afterwards outcome final.state) := by
  obtain ⟨committed, settled | dormant⟩ := steady
  · have ended := call_checked settled made ⟨[], host⟩ outcome final rfl run
    cases outcome with
    | value value =>
        rcases ended with same | ⟨_, advanced⟩
        · exact ⟨committed, Or.inl same⟩
        · obtain ⟨later, moved⟩ := advanced.settled
          exact ⟨later, Or.inl moved⟩
    | error error => exact ⟨committed, Or.inl ended⟩
    | stopped => exact ⟨committed, Or.inr (Underway.dormant ended)⟩
  · have ended := start_checked dormant made ⟨[], host⟩ outcome final rfl run
    cases outcome with
    | value value => exact ⟨committed, Or.inl ended⟩
    | error error => exact ⟨committed, Or.inr ended⟩
    | stopped => exact ⟨committed, Or.inr (Dormant.halted ended)⟩

theorem steady_allocated {state : HostNetworkState} (steady : Steady initial host)
    (running : host.memory = some state) (generation : Nat) (endpoint : Option NetworkEndpoint) :
    Steady initial { host with
      memory := some (state.allocate generation endpoint)
      disk := some (state.allocate generation endpoint) } := by
  obtain ⟨committed, settled | dormant⟩ := steady
  · obtain ⟨known, memory, _, same, journaled⟩ := settled.same
    have held : host.memory = some known := memory
    rw [running] at held
    cases held
    exact ⟨committed, Or.inl ⟨_, rfl, rfl, same, ⟨journaled.idle, journaled.pending⟩⟩⟩
  · have absent : host.memory = none := dormant.memory
    rw [running] at absent
    cases absent

theorem Reached.steady {mtu : Nat} {clock : Nat → Timestamp}
    (reached : Reached Careful { mtu := mtu, clock := clock } host) : Steady mtu host := by
  induction reached with
  | initial =>
      refine ⟨none, Or.inr ⟨rfl, rfl, fun _ => rfl, ?_⟩⟩
      intro _ member
      cases member
  | halted _ ih =>
      obtain ⟨committed, settled | dormant⟩ := ih
      · exact ⟨committed, Or.inr settled.underway.dormant⟩
      · exact ⟨committed, Or.inr dormant.halted⟩
  | allocated _ running generation endpoint ih =>
      exact steady_allocated ih running generation endpoint
  | called _ made run ih => exact steady_called ih made run

theorem atomic_running {later : Host} {state stored : HostNetworkState}
    (memory : later.memory = some state) (disk : later.disk = some stored)
    (pending : ∀ pending ∈ state.pendingProfile, ∀ journaled ∈ stored.pendingProfile,
      pending = journaled)
    (revision : ∀ known, known = state ∨ known = stored →
      known.committedRevision = host.committedRevision ∨
        (call.commits = true ∧ known.committedRevision = host.committedRevision + 1))
    (consistent : ∀ error, outcome = .error error → state = stored)
    (resting : state.pendingProfile = none → later.mtu = state.restingMtu initial) :
    Atomic initial call host outcome later where
  onePending known here other there := by
    rw [Option.mem_unique here memory, Option.mem_unique there disk]
    exact pending
  revision known member := by
    apply revision
    exact member.imp (Option.mem_unique · memory) (Option.mem_unique · disk)
  consistent error failed known here := by
    rw [Option.mem_unique here memory, consistent error failed]
    exact disk
  resting known here := by
    rw [Option.mem_unique here memory]
    exact resting

theorem Settled.atomic {later : Host} (settled : Settled initial committed later.copies)
    (revision : host.committedRevision =
      (committed.map ConnectionProfile.profileRevision).getD 0) :
    Atomic initial call host outcome later := by
  obtain ⟨state, memory, disk, rfl, journaled⟩ := settled.same
  apply atomic_running memory disk
  · exact fun _ here _ there => Option.mem_unique here there
  · rintro known (rfl | rfl)
    all_goals exact Or.inl revision.symm
  · exact fun _ _ => rfl
  · exact journaled.idle

theorem Advanced.atomic {later : Host} (advanced : Advanced initial committed later.copies)
    (commits : call.commits = true)
    (revision : host.committedRevision =
      (committed.map ConnectionProfile.profileRevision).getD 0) :
    Atomic initial call host outcome later := by
  obtain ⟨state, memory, disk, journaled, moved⟩ := advanced.same
  rw [← revision] at moved
  apply atomic_running memory disk
  · exact fun _ here _ there => Option.mem_unique here there
  · rintro known (rfl | rfl)
    all_goals exact moved.imp_right fun next => ⟨commits, next⟩
  · exact fun _ _ => rfl
  · exact journaled.idle

theorem Underway.atomic {later : Host} (underway : Underway initial committed later.copies)
    (revision : host.committedRevision =
      (committed.map ConnectionProfile.profileRevision).getD 0) :
    Atomic initial call host .stopped later := by
  obtain ⟨state, stored, memory, disk, rfl, same, pending, resting, _⟩ := underway.both
  apply atomic_running memory disk pending
  · rintro known (rfl | rfl)
    · exact Or.inl revision.symm
    · left
      rw [revision, ← same]
      rfl
  · exact fun _ failed => nomatch failed
  · exact resting

theorem Dormant.atomic {later : Host} (dormant : Dormant initial committed later.copies)
    (revision : host.committedRevision =
      (committed.map ConnectionProfile.profileRevision).getD 0) :
    Atomic initial call host outcome later := by
  have absent : later.memory = none := dormant.memory
  have same : later.committedRevision = host.committedRevision := by
    rw [revision, dormant.committedRevision]
  constructor
  · intro state here
    rw [absent] at here
    cases here
  · rintro state (here | here)
    · rw [absent] at here
      cases here
    · left
      rw [← same, Host.committedRevision, show later.disk = some state from here]
      rfl
  · intro _ _ state here
    rw [absent] at here
    cases here
  · intro state here
    rw [absent] at here
    cases here

/-- On every host that calls, stops and TURN allocations lead to, every call is atomic,
whether it succeeds, fails or is stopped, as long as a state that cannot be written is
not in memory. -/
theorem profile_transaction_atomic {mtu : Nat} {clock : Nat → Timestamp}
    (reached : Reached Careful { mtu := mtu, clock := clock } host)
    (made : call.program host.memory = some program)
    (run : Runs turnHandler Careful program ⟨[], host⟩ outcome final) :
    Atomic mtu call host outcome final.state := by
  obtain ⟨committed, settled | dormant⟩ := reached.steady
  · have revision := settled.committedRevision
    have ended := call_checked settled made ⟨[], host⟩ outcome final rfl run
    cases outcome with
    | value value =>
        rcases ended with same | ⟨commits, advanced⟩
        · exact same.atomic revision
        · exact advanced.atomic commits revision
    | error error => exact Settled.atomic ended revision
    | stopped => exact Underway.atomic ended revision
  · have revision := dormant.committedRevision
    have ended := start_checked dormant made ⟨[], host⟩ outcome final rfl run
    cases outcome with
    | value value => exact Settled.atomic ended revision
    | error error => exact Dormant.atomic ended revision
    | stopped => exact Dormant.atomic ended revision

end Runs

namespace Sample

def settings : ManagerSettings := { instanceId := "42" }

def profile : ConnectionProfile :=
  { instanceId := "42"
    profileRevision := 1
    transitionId := ⟨"00000000-0000-4000-8000-00000000000b", Eq.refl true⟩
    desiredTransport := .direct
    endpoint := ⟨"192.0.2.10", 51820⟩
    innerMtu := 1200
    createdAt := "1970-01-01T00:00:00+00:00" }

def wanted : PrepareConnectionProfileRequest :=
  { operationId := ⟨"00000000-0000-4000-8000-00000000000a", Eq.refl true⟩
    expectedProfileRevision := 0
    leaseExpiresAt := some 60000
    profile := profile }

def fresh : Host := { mtu := 1420 }

def start : Outcome String Unit × List (Signal String) × Config turnInterface String Host :=
  (newManager settings).exec turnHandler [] ⟨[], fresh⟩

def started : Host := start.2.2.state

def prepares : TurnProg Unit := (TurnCall.program (.prepare wanted) started.memory).getD (.done ())

def prepared (signals : List (Signal String)) :
    Outcome String Unit × List (Signal String) × Config turnInterface String Host :=
  prepares.exec turnHandler signals ⟨[], started⟩

def onlyWritesFail (_ : Config turnInterface String Host) (event : Event turnInterface String)
    (_ : Host) : Bool :=
  match event with
  | ⟨.setMtu _, .error _⟩ => false
  | _ => true

def onlyMtuFails (config : Config turnInterface String Host) (event : Event turnInterface String)
    (later : Host) : Bool :=
  match event with
  | ⟨.setMtu _, .error _⟩ => later.mtu = config.state.mtu
  | ⟨.persistState _, .error _⟩ => false
  | _ => true

theorem onlyWritesFail_keepsMtu (config : Config turnInterface String Host)
    (event : Event turnInterface String) (later : Host)
    (passed : onlyWritesFail config event later = true) : KeepsMtu config event later := by
  rintro mtu error rfl
  cases passed

theorem onlyMtuFails_careful (config : Config turnInterface String Host)
    (event : Event turnInterface String) (later : Host)
    (passed : onlyMtuFails config event later = true) : Careful config event later := by
  constructor
  · rintro mtu error rfl
    exact of_decide_eq_true passed
  · rintro state error rfl
    cases passed

theorem started_reached {allow : Config turnInterface String Host → Event turnInterface String →
      Host → Prop} {check : Config turnInterface String Host → Event turnInterface String →
      Host → Bool} (sound : ∀ config event later, check config event later = true →
      allow config event later)
    (follows : (newManager settings).follows turnHandler check [] ⟨[], fresh⟩ = true)
    (kept : afterwards start.1 start.2.2.state = started) : Reached allow fresh started := by
  have run := follows_runs sound (newManager settings) [] ⟨[], fresh⟩ follows
  have called := Reached.called .initial (show TurnCall.program (.start settings) fresh.memory =
    some (newManager settings) from rfl) run
  rw [← kept]
  exact called

end Sample

/-- A prepare whose journal cannot be written leaves the profile pending in memory. -/
theorem profile_transaction_not_atomic :
    ∃ (host : Host) (call : TurnCall) (program : TurnProg Unit) (outcome : Outcome String Unit)
      (final : Config turnInterface String Host),
      Reached KeepsMtu { mtu := 1420 } host ∧ call.program host.memory = some program ∧
        Runs turnHandler KeepsMtu program ⟨[], host⟩ outcome final ∧
        ¬ Atomic 1420 call host outcome final.state := by
  let signals : List (Signal String) := [.proceed, .refuse "No space left on device"]
  have reached : Reached KeepsMtu Sample.fresh Sample.started :=
    Sample.started_reached Sample.onlyWritesFail_keepsMtu (by decide +kernel) rfl
  have follows : Sample.prepares.follows turnHandler Sample.onlyWritesFail signals
      ⟨[], Sample.started⟩ = true := by decide +kernel
  have run := follows_runs Sample.onlyWritesFail_keepsMtu _ _ _ follows
  refine ⟨Sample.started, .prepare Sample.wanted, Sample.prepares, _, _, reached, rfl, run, ?_⟩
  intro atomic
  have failed : (Sample.prepared signals).1 = .error "No space left on device" := by
    decide +kernel
  have apart : (Sample.prepared signals).2.2.state.disk ≠
      (Sample.prepared signals).2.2.state.memory := by
    decide +kernel
  obtain ⟨state, held⟩ : ∃ state, (Sample.prepared signals).2.2.state.memory = some state :=
    Option.isSome_iff_exists.mp (by decide +kernel)
  apply apart
  rw [held]
  exact atomic.consistent _ failed state held

theorem prepare_refused_atomic :
    (Sample.prepared [.proceed, .proceed, .refuse "ip failed"]).1 =
        .error "failed applying prepared host MTU" ∧
      Atomic 1420 (.prepare Sample.wanted) Sample.started
        (Sample.prepared [.proceed, .proceed, .refuse "ip failed"]).1
        (Sample.prepared [.proceed, .proceed, .refuse "ip failed"]).2.2.state := by
  have reached : Reached Careful Sample.fresh Sample.started :=
    Sample.started_reached Sample.onlyMtuFails_careful (by decide +kernel) rfl
  have follows : Sample.prepares.follows turnHandler Sample.onlyMtuFails
      [.proceed, .proceed, .refuse "ip failed"] ⟨[], Sample.started⟩ = true := by decide +kernel
  have run := follows_runs Sample.onlyMtuFails_careful _ _ _ follows
  exact ⟨by decide +kernel, profile_transaction_atomic reached rfl run⟩

end Noland.Network
