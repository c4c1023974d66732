import Mathlib.Data.List.Nodup
import Mathlib.Logic.Function.Basic
import Noland.Lib.Machine

/-!
A run writes its intent into the saved state before it sends the paid request, and takes it out
again when the request was rejected or the server is recorded; what is left over is looked up by
the next run, or cleared by the user. The label `Noland Connect {request}` is the number of the
request, and a credential is what the fingerprint makes of the key.
-/

namespace Noland.Desktop

open Noland.Machine

variable {Key Print : Type}

structure ProviderCreationAttempt (Print : Type) where
  requestId : Nat
  credentialFingerprint : Print
  confirmedInstanceId : Option Nat := none
  deriving DecidableEq

structure RentedInstance (Print : Type) where
  id : Nat
  label : Option Nat
  credential : Print
  deriving DecidableEq

inductive CreationOutcome where
  | inFlight
  | created (instanceId : Nat)
  | declined
  deriving DecidableEq

structure CreateRequest (Print : Type) where
  credential : Print
  outcome : CreationOutcome
  deriving DecidableEq

structure Provider (Print : Type) where
  requests : Nat → Option (CreateRequest Print) := fun _ => none
  instances : List (RentedInstance Print) := []

def Provider.listInstances [DecidableEq Print] (provider : Provider Print) (credential : Print) :
    List (RentedInstance Print) :=
  provider.instances.filter (·.credential = credential)

structure CreationState (Key Print : Type) where
  vastApiKey : Key
  pendingProviderCreation : Option (ProviderCreationAttempt Print) := none
  provisionedServers : List Nat := []

namespace CreationState

def accepted (state : CreationState Key Print) (instanceId : Nat) : CreationState Key Print :=
  { state with
    pendingProviderCreation := state.pendingProviderCreation.map fun attempt =>
      { attempt with confirmedInstanceId := some instanceId } }

def rejected (state : CreationState Key Print) (attempt : ProviderCreationAttempt Print) :
    CreationState Key Print :=
  match state.pendingProviderCreation with
  | some current =>
      if current.requestId = attempt.requestId then
        { state with pendingProviderCreation := none }
      else state
  | none => state

def complete (state : CreationState Key Print) (instanceId : Nat) : CreationState Key Print :=
  match state.pendingProviderCreation with
  | some attempt =>
      if attempt.confirmedInstanceId = some instanceId then
        { state with pendingProviderCreation := none }
      else state
  | none => state

def ensureServerRecord (state : CreationState Key Print) (instanceId : Nat) :
    CreationState Key Print :=
  if instanceId ∈ state.provisionedServers then state
  else { state with provisionedServers := state.provisionedServers ++ [instanceId] }

/-- What `recover` saves for the instance it has found. -/
def adopt (state : CreationState Key Print) (instanceId : Nat) : CreationState Key Print :=
  { state.ensureServerRecord instanceId with pendingProviderCreation := none }

end CreationState

/-- The instances that `recover` takes for the one that an attempt has created. -/
def ProviderCreationAttempt.matching (attempt : ProviderCreationAttempt Print)
    (instances : List (RentedInstance Print)) : List (RentedInstance Print) :=
  instances.filter fun listed =>
    attempt.confirmedInstanceId = some listed.id ∨ listed.label = some attempt.requestId

inductive CreationRun (Key Print : Type) where
  | idle
  | started (apiKey : Key)
  /-- `recover` has read the attempt. -/
  | found (apiKey : Key) (attempt : ProviderCreationAttempt Print)
  | listing (apiKey : Key) (attempt : ProviderCreationAttempt Print)
  | matched (attempt : ProviderCreationAttempt Print) (listed : RentedInstance Print)
  | adopting (attempt : ProviderCreationAttempt Print) (listed : RentedInstance Print)
  | looking (apiKey : Key)
  | preparing (apiKey : Key)
  | intending (apiKey : Key) (attempt : ProviderCreationAttempt Print)
  | ready (apiKey : Key) (attempt : ProviderCreationAttempt Print)
  | waiting (attempt : ProviderCreationAttempt Print)
  | rejecting (attempt : ProviderCreationAttempt Print)
  | accepting (attempt : ProviderCreationAttempt Print) (contractId : Nat)
  | recording
  | completing (instanceId : Nat)
  deriving DecidableEq

def CreationRun.sends : CreationRun Key Print → Option Nat
  | .intending _ attempt | .ready _ attempt => some attempt.requestId
  | _ => none

/-- How far a call of `clear_unconfirmed` has come. Beside it stands whether the outcome of the
request was settled when the instances were listed. -/
inductive Clearing (Key Print : Type) where
  | inspecting (apiKey : Key) (attempt : ProviderCreationAttempt Print)
  | absent (attempt : ProviderCreationAttempt Print) (settled : Bool)
  | acknowledging (attempt : ProviderCreationAttempt Print) (settled : Bool)
  deriving DecidableEq

/-- What the saved state and the provider hold, and what has become of the requests. -/
structure CreationWorld (Key Print : Type) where
  state : CreationState Key Print
  provider : Provider Print := {}
  /-- The credentials of the requests, in the order of their numbers. -/
  issued : List Print := []
  /-- The requests whose rejection was received. -/
  refused : List Nat := []
  /-- The requests that were cleared after their outcome was settled. -/
  acknowledged : List Nat := []

structure Provisioning (Key Print : Type) where
  world : CreationWorld Key Print
  run : CreationRun Key Print := .idle
  clearing : Nat → Option (Clearing Key Print) := fun _ => none

inductive CreationEvent (Key Print : Type) where
  /-- The next step of the run: whether it succeeds, and the id that an accepted instance is
  hydrated with. -/
  | advance (ok : Bool) (hydrated : Nat)
  | clearUnconfirmed (id requestId : Nat) (confirmedAbsent : Bool)
  | clear (id : Nat) (ok : Bool)
  | settle (requestId : Nat) (contract : Option Nat)
  | rentElsewhere (credential : Print) (instanceId : Nat)
  | changeCredential (key : Key)
  | restart

namespace Provisioning

def move (system : Provisioning Key Print) (run : CreationRun Key Print) :
    Provisioning Key Print :=
  { system with run := run }

def save (system : Provisioning Key Print) (state : CreationState Key Print)
    (run : CreationRun Key Print) : Provisioning Key Print :=
  { system with world := { system.world with state := state }, run := run }

def send (system : Provisioning Key Print) (requestId : Nat) (credential : Print)
    (run : CreationRun Key Print) : Provisioning Key Print :=
  { system with
    world := { system.world with
      provider := { system.world.provider with
        requests := Function.update system.world.provider.requests requestId
          (some { credential := credential, outcome := .inFlight }) } }
    run := run }

def settled (system : Provisioning Key Print) (requestId : Nat) : Bool :=
  match system.world.provider.requests requestId with
  | some request => request.outcome ≠ .inFlight
  | none => system.run.sends ≠ some requestId

def putClearing (system : Provisioning Key Print) (id : Nat)
    (call : Option (Clearing Key Print)) : Provisioning Key Print :=
  { system with clearing := Function.update system.clearing id call }

variable [DecidableEq Key] [DecidableEq Print]

def advance (fingerprint : Key → Print) (system : Provisioning Key Print) (ok : Bool)
    (hydrated : Nat) : Provisioning Key Print :=
  let state := system.world.state
  match system.run with
  | .idle => system.move (.started state.vastApiKey)
  | .started apiKey =>
      match state.pendingProviderCreation with
      | none => system.move (.looking apiKey)
      | some attempt => system.move (.found apiKey attempt)
  | .found apiKey attempt =>
      if attempt.credentialFingerprint = fingerprint state.vastApiKey then
        system.move (.listing apiKey attempt)
      else system.move .idle
  | .listing apiKey attempt =>
      if ok then
        match attempt.matching
            (system.world.provider.listInstances (fingerprint apiKey)) with
        | [listed] => system.move (.matched attempt listed)
        | _ => system.move .idle
      else system.move .idle
  | .matched attempt listed =>
      if attempt.credentialFingerprint = fingerprint state.vastApiKey then
        system.move (.adopting attempt listed)
      else system.move .idle
  | .adopting _ listed =>
      if ok then system.save (state.adopt listed.id) .idle else system.move .idle
  | .looking apiKey =>
      if ok ∧ state.vastApiKey = apiKey then system.move (.preparing apiKey)
      else system.move .idle
  | .preparing apiKey =>
      if state.pendingProviderCreation.isSome then system.move .idle
      else
        { system with
          world := { system.world with
            issued := system.world.issued ++ [fingerprint apiKey] }
          run := .intending apiKey
            { requestId := system.world.issued.length
              credentialFingerprint := fingerprint apiKey } }
  | .intending apiKey attempt =>
      if ok then
        system.save { state with pendingProviderCreation := some attempt } (.ready apiKey attempt)
      else system.move .idle
  | .ready apiKey attempt =>
      if ok then system.send attempt.requestId (fingerprint apiKey) (.waiting attempt)
      else system.move .idle
  | .waiting attempt =>
      if ok then
        match system.world.provider.requests attempt.requestId with
        | some ⟨_, .created contractId⟩ => system.move (.accepting attempt contractId)
        | some ⟨_, .declined⟩ =>
            { system with
              world := { system.world with
                refused := attempt.requestId :: system.world.refused }
              run := .rejecting attempt }
        | _ => system
      else system.move .idle
  | .rejecting attempt =>
      if ok then system.save (state.rejected attempt) .idle else system.move .idle
  | .accepting _ contractId =>
      if ok then system.save (state.accepted contractId) .recording else system.move .recording
  | .recording =>
      if ok then system.save (state.ensureServerRecord hydrated) (.completing hydrated)
      else system.move .idle
  | .completing instanceId =>
      if ok then system.save (state.complete instanceId) .idle else system.move .idle

/-- The checks of `clear_unconfirmed` on what it has loaded. -/
def clearUnconfirmed (fingerprint : Key → Print) (system : Provisioning Key Print)
    (id requestId : Nat) (confirmedAbsent : Bool) : Provisioning Key Print :=
  match system.clearing id, system.world.state.pendingProviderCreation with
  | none, some attempt =>
      if confirmedAbsent ∧
          attempt.credentialFingerprint = fingerprint system.world.state.vastApiKey ∧
          attempt.requestId = requestId ∧ attempt.confirmedInstanceId = none then
        system.putClearing id (some (.inspecting system.world.state.vastApiKey attempt))
      else system
  | _, _ => system

/-- The next step of a call of `clear_unconfirmed`. -/
def clear (fingerprint : Key → Print) (system : Provisioning Key Print) (id : Nat) (ok : Bool) :
    Provisioning Key Print :=
  match system.clearing id with
  | some (.inspecting apiKey attempt) =>
      if ok ∧ ∀ listed ∈ system.world.provider.listInstances (fingerprint apiKey),
          listed.label ≠ some attempt.requestId then
        system.putClearing id (some (.absent attempt (system.settled attempt.requestId)))
      else system.putClearing id none
  | some (.absent attempt settled) =>
      if attempt.credentialFingerprint = fingerprint system.world.state.vastApiKey then
        system.putClearing id (some (.acknowledging attempt settled))
      else system.putClearing id none
  | some (.acknowledging attempt settled) =>
      if ok then
        { system.putClearing id none with
          world := { system.world with
            state := system.world.state.rejected attempt
            acknowledged :=
              if settled then attempt.requestId :: system.world.acknowledged
              else system.world.acknowledged } }
      else system.putClearing id none
  | none => system

def settle (system : Provisioning Key Print) (requestId : Nat) (contract : Option Nat) :
    Provisioning Key Print :=
  let provider := system.world.provider
  match provider.requests requestId, contract with
  | some ⟨credential, .inFlight⟩, some contractId =>
      if contractId ∈ provider.instances.map (·.id) then system
      else
        { system with world := { system.world with provider :=
          { requests := Function.update provider.requests requestId
              (some { credential := credential, outcome := .created contractId })
            instances := provider.instances ++
              [{ id := contractId, label := some requestId, credential := credential }] } } }
  | some ⟨credential, .inFlight⟩, none =>
      { system with world := { system.world with provider := { provider with
        requests := Function.update provider.requests requestId
          (some { credential := credential, outcome := .declined }) } } }
  | _, _ => system

def rentElsewhere (system : Provisioning Key Print) (credential : Print) (instanceId : Nat) :
    Provisioning Key Print :=
  let provider := system.world.provider
  if instanceId ∈ provider.instances.map (·.id) then system
  else
    { system with world := { system.world with provider := { provider with
      instances := provider.instances ++
        [{ id := instanceId, label := none, credential := credential }] } } }

end Provisioning

def creationStep [DecidableEq Key] [DecidableEq Print] (fingerprint : Key → Print)
    (system : Provisioning Key Print) : CreationEvent Key Print → Provisioning Key Print
  | .advance ok hydrated => system.advance fingerprint ok hydrated
  | .clearUnconfirmed id requestId confirmedAbsent =>
      system.clearUnconfirmed fingerprint id requestId confirmedAbsent
  | .clear id ok => system.clear fingerprint id ok
  | .settle requestId contract => system.settle requestId contract
  | .rentElsewhere credential instanceId => system.rentElsewhere credential instanceId
  | .changeCredential key =>
      { system with world := { system.world with
        state := { system.world.state with vastApiKey := key } } }
  | .restart => { world := system.world }

def NothingRented (system : Provisioning Key Print) : Prop :=
  ∃ key servers, system =
    { world := { state := { vastApiKey := key, provisionedServers := servers } } }

/-- A request was rejected, was acknowledged absent when its outcome was settled, or led to an
instance among the provisioned servers. -/
def CreationWorld.Closed (world : CreationWorld Key Print) (requestId : Nat) : Prop :=
  requestId ∈ world.refused ∨ requestId ∈ world.acknowledged ∨
    ∃ credential instanceId,
      world.provider.requests requestId = some ⟨credential, .created instanceId⟩ ∧
        instanceId ∈ world.state.provisionedServers

/-- When a create request is about to be sent, it has not been sent yet and all others of its
credential are closed. -/
def NeverRepeated (fingerprint : Key → Print) (system : Provisioning Key Print) : Prop :=
  ∀ apiKey attempt, system.run = .ready apiKey attempt →
    system.world.provider.requests attempt.requestId = none ∧
      ∀ requestId request, system.world.provider.requests requestId = some request →
        request.credential = fingerprint apiKey → system.world.Closed requestId

def CreationWorld.recovered [DecidableEq Print] (fingerprint : Key → Print)
    (world : CreationWorld Key Print) (key : Key) : Option Nat :=
  match world.state.pendingProviderCreation with
  | some attempt =>
      if attempt.credentialFingerprint = fingerprint key then
        match attempt.matching (world.provider.listInstances (fingerprint key)) with
        | [listed] => some listed.id
        | _ => none
      else none
  | none => none

/-- An instance that the provider has created is among the provisioned servers, or a run with
its credential recovers it. -/
def NeverForgotten [DecidableEq Print] (fingerprint : Key → Print)
    (system : Provisioning Key Print) : Prop :=
  ∀ requestId credential instanceId,
    system.world.provider.requests requestId = some ⟨credential, .created instanceId⟩ →
      instanceId ∈ system.world.state.provisionedServers ∨
        ∀ key, fingerprint key = credential →
          system.world.recovered fingerprint key = some instanceId

/-- The instances are listed for `clear_unconfirmed` only when the outcome of the request is
settled. -/
def ListedWhenSettled (system : Provisioning Key Print) : CreationEvent Key Print → Prop
  | .clear id ok =>
      match system.clearing id with
      | some (.inspecting _ attempt) => ok = true → system.settled attempt.requestId = true
      | _ => True
  | _ => True

namespace CreationWorld

def CreatedAs (world : CreationWorld Key Print) (requestId instanceId : Nat) : Prop :=
  ∃ credential, world.provider.requests requestId = some ⟨credential, .created instanceId⟩

def About (world : CreationWorld Key Print) (requestId : Nat) : Prop :=
  ∀ attempt, world.state.pendingProviderCreation = some attempt → attempt.requestId = requestId

structure Intended (world : CreationWorld Key Print) (attempt : ProviderCreationAttempt Print) :
    Prop where
  issued : world.issued[attempt.requestId]? = some attempt.credentialFingerprint
  confirmed : ∀ instanceId, attempt.confirmedInstanceId = some instanceId →
    world.CreatedAs attempt.requestId instanceId

def NotComing (world : CreationWorld Key Print) (run : CreationRun Key Print)
    (requestId : Nat) : Prop :=
  (∃ credential, world.provider.requests requestId = some ⟨credential, .declined⟩) ∨
    requestId < world.issued.length ∧ world.provider.requests requestId = none ∧
      run.sends ≠ some requestId

def Sound (fingerprint : Key → Print) (world : CreationWorld Key Print) :
    CreationRun Key Print → Prop
  | .found _ attempt | .listing _ attempt =>
      world.About attempt.requestId ∧ world.Intended attempt
  | .matched attempt listed | .adopting attempt listed =>
      world.About attempt.requestId ∧ world.CreatedAs attempt.requestId listed.id
  | .intending apiKey attempt =>
      world.About attempt.requestId ∧ world.Intended attempt ∧
        attempt.credentialFingerprint = fingerprint apiKey ∧
          world.provider.requests attempt.requestId = none
  | .ready apiKey attempt =>
      world.About attempt.requestId ∧ world.state.pendingProviderCreation.isSome ∧
        world.Intended attempt ∧ attempt.credentialFingerprint = fingerprint apiKey ∧
          world.provider.requests attempt.requestId = none
  | .waiting attempt => world.About attempt.requestId
  | .rejecting attempt => attempt.requestId ∈ world.refused
  | .accepting attempt contractId =>
      world.About attempt.requestId ∧ world.CreatedAs attempt.requestId contractId
  | .completing instanceId => instanceId ∈ world.state.provisionedServers
  | .idle | .started _ | .looking _ | .preparing _ | .recording => True

/-- What a call of `clear_unconfirmed` relies on. -/
def Checked (fingerprint : Key → Print) (world : CreationWorld Key Print)
    (run : CreationRun Key Print) : Clearing Key Print → Prop
  | .inspecting apiKey attempt =>
      world.Intended attempt ∧ attempt.credentialFingerprint = fingerprint apiKey
  | .absent attempt settled | .acknowledging attempt settled =>
      settled = true ∧ world.NotComing run attempt.requestId

structure Listed (world : CreationWorld Key Print) : Prop where
  once : (world.provider.instances.map (·.id)).Nodup
  created : ∀ requestId credential instanceId,
    world.provider.requests requestId = some ⟨credential, .created instanceId⟩ →
      ⟨instanceId, some requestId, credential⟩ ∈ world.provider.instances
  labelled : ∀ listed ∈ world.provider.instances, ∀ requestId, listed.label = some requestId →
    world.provider.requests requestId = some ⟨listed.credential, .created listed.id⟩
  numbered : ∀ requestId request, world.provider.requests requestId = some request →
    world.issued[requestId]? = some request.credential

structure Extends (world later : CreationWorld Key Print) : Prop where
  issued : world.issued <+: later.issued
  decided : ∀ requestId request, world.provider.requests requestId = some request →
    request.outcome ≠ .inFlight → later.provider.requests requestId = some request
  provisioned : world.state.provisionedServers ⊆ later.state.provisionedServers
  refused : world.refused ⊆ later.refused
  acknowledged : world.acknowledged ⊆ later.acknowledged

section Extends

variable {world later : CreationWorld Key Print}

theorem Extends.createdAs (further : world.Extends later) {requestId instanceId : Nat}
    (created : world.CreatedAs requestId instanceId) : later.CreatedAs requestId instanceId := by
  obtain ⟨credential, sent⟩ := created
  refine ⟨credential, further.decided _ _ sent ?_⟩
  intro pending
  cases pending

theorem Extends.intended (further : world.Extends later) {attempt : ProviderCreationAttempt Print}
    (intended : world.Intended attempt) : later.Intended attempt where
  issued := by
    have known := intended.issued
    obtain ⟨rest, grown⟩ := further.issued
    rw [← grown]
    have bound := (List.getElem?_eq_some_iff.mp known).1
    rw [List.getElem?_append_left bound]
    exact known
  confirmed := fun instanceId there => further.createdAs (intended.confirmed instanceId there)

theorem Extends.closed (further : world.Extends later) {requestId : Nat}
    (closed : world.Closed requestId) : later.Closed requestId := by
  rcases closed with refused | acknowledged | ⟨credential, instanceId, sent, server⟩
  · exact Or.inl (further.refused refused)
  · exact Or.inr (Or.inl (further.acknowledged acknowledged))
  · have kept := further.decided _ _ sent (by intro pending; cases pending)
    exact Or.inr (Or.inr ⟨credential, instanceId, kept, further.provisioned server⟩)

theorem Extends.notComing (further : world.Extends later) {run laterRun : CreationRun Key Print}
    {requestId : Nat} (notComing : world.NotComing run requestId)
    (unsent : world.provider.requests requestId = none → run.sends ≠ some requestId →
      requestId < world.issued.length →
      later.provider.requests requestId = none ∧ laterRun.sends ≠ some requestId) :
    later.NotComing laterRun requestId := by
  rcases notComing with ⟨credential, declined⟩ | ⟨bound, fresh, silent⟩
  · left
    refine ⟨credential, further.decided _ _ declined ?_⟩
    intro pending
    cases pending
  · right
    obtain ⟨still, quiet⟩ := unsent fresh silent bound
    exact ⟨Nat.lt_of_lt_of_le bound further.issued.length_le, still, quiet⟩

end Extends

end CreationWorld

/-- Every request is closed or belongs to the attempt in the saved state, and the provider, the
run and the calls agree with it. -/
structure AccountedFor (fingerprint : Key → Print) (system : Provisioning Key Print) : Prop where
  listed : system.world.Listed
  intended : ∀ attempt, system.world.state.pendingProviderCreation = some attempt →
    system.world.Intended attempt
  running : system.world.Sound fingerprint system.run
  clearing : ∀ id call, system.clearing id = some call →
    system.world.Checked fingerprint system.run call
  refused : ∀ requestId ∈ system.world.refused, ∃ credential,
    system.world.provider.requests requestId = some ⟨credential, .declined⟩
  acknowledged : ∀ requestId ∈ system.world.acknowledged,
    system.world.NotComing system.run requestId
  closed : ∀ requestId request, system.world.provider.requests requestId = some request →
    system.world.Closed requestId ∨
      ∃ attempt, system.world.state.pendingProviderCreation = some attempt ∧
        attempt.requestId = requestId

section Consequences

variable {fingerprint : Key → Print} {system : Provisioning Key Print}

theorem AccountedFor.neverRepeated (accounted : AccountedFor fingerprint system) :
    NeverRepeated fingerprint system := by
  intro apiKey attempt ready
  have running := accounted.running
  rw [ready] at running
  obtain ⟨about, _, _, _, unsent⟩ := running
  refine ⟨unsent, ?_⟩
  intro requestId request sent _
  rcases accounted.closed requestId request sent with closed | ⟨pending, there, named⟩
  · exact closed
  · have same := about pending there
    rw [← named, same, unsent] at sent
    cases sent

theorem filter_singleton {Item : Type} {items : List Item} {passes : Item → Bool} {item : Item}
    (once : items.Nodup) (member : item ∈ items) (passing : passes item = true)
    (only : ∀ other ∈ items, passes other = true → other = item) :
    items.filter passes = [item] := by
  have all : ∀ other ∈ items.filter passes, other = item := by
    intro other there
    obtain ⟨inside, passed⟩ := List.mem_filter.mp there
    exact only other inside passed
  have here : item ∈ items.filter passes := List.mem_filter.mpr ⟨member, passing⟩
  have copies := List.eq_replicate_of_mem all
  have distinct : (items.filter passes).Nodup := once.filter passes
  rw [copies, List.nodup_replicate] at distinct
  have some := List.length_pos_of_mem here
  have one : (items.filter passes).length = 1 := by omega
  rw [copies, one]
  rfl

theorem CreationWorld.Listed.matching [DecidableEq Print] {world : CreationWorld Key Print}
    (listed : world.Listed) {attempt : ProviderCreationAttempt Print} {credential : Print}
    {instanceId : Nat}
    (sent : world.provider.requests attempt.requestId = some ⟨credential, .created instanceId⟩)
    (confirmed : ∀ other, attempt.confirmedInstanceId = some other →
      world.CreatedAs attempt.requestId other) :
    attempt.matching (world.provider.listInstances credential) =
      [⟨instanceId, some attempt.requestId, credential⟩] := by
  have member := listed.created _ _ _ sent
  have once : world.provider.instances.Nodup := listed.once.of_map _
  apply filter_singleton
  · exact once.filter _
  · exact List.mem_filter.mpr ⟨member, by simp⟩
  · simp
  · intro other inside passed
    have there := (List.mem_filter.mp inside).1
    have sameId : other.id = instanceId := by
      rcases of_decide_eq_true passed with known | label
      · obtain ⟨_, again⟩ := confirmed _ known
        rw [sent] at again
        cases again
        rfl
      · have again := listed.labelled other there _ label
        rw [sent] at again
        cases again
        rfl
    exact List.inj_on_of_nodup_map listed.once there member sameId

theorem AccountedFor.neverForgotten [DecidableEq Print]
    (accounted : AccountedFor fingerprint system) : NeverForgotten fingerprint system := by
  intro requestId credential instanceId sent
  rcases accounted.closed requestId _ sent with closed | ⟨attempt, pending, named⟩
  · left
    rcases closed with refused | acknowledged | ⟨other, server, again, member⟩
    · obtain ⟨other, declined⟩ := accounted.refused requestId refused
      rw [sent] at declined
      cases declined
    · rcases accounted.acknowledged requestId acknowledged with ⟨other, declined⟩ | ⟨_, unsent, _⟩
      · rw [sent] at declined
        cases declined
      · rw [sent] at unsent
        cases unsent
    · rw [sent] at again
      cases again
      exact member
  · right
    intro key credited
    subst named
    have intended := accounted.intended attempt pending
    have same : attempt.credentialFingerprint = fingerprint key := by
      have numbered := accounted.listed.numbered _ _ sent
      rw [intended.issued] at numbered
      rw [credited]
      exact Option.some.inj numbered
    unfold CreationWorld.recovered
    rw [pending]
    dsimp only
    rw [if_pos same, credited, accounted.listed.matching sent intended.confirmed]

end Consequences

section Steps

variable {fingerprint : Key → Print} {system : Provisioning Key Print}

theorem CreationWorld.Checked.extends {world later : CreationWorld Key Print}
    {run laterRun : CreationRun Key Print} {call : Clearing Key Print}
    (checked : world.Checked fingerprint run call) (further : world.Extends later)
    (notComing : ∀ requestId, world.NotComing run requestId → later.NotComing laterRun requestId) :
    later.Checked fingerprint laterRun call := by
  cases call with
  | inspecting apiKey attempt => exact ⟨further.intended checked.1, checked.2⟩
  | absent attempt settled => exact ⟨checked.1, notComing _ checked.2⟩
  | acknowledging attempt settled => exact ⟨checked.1, notComing _ checked.2⟩

theorem CreationWorld.Extends.same_provider {world later : CreationWorld Key Print}
    {run laterRun : CreationRun Key Print} (further : world.Extends later)
    (same : later.provider = world.provider)
    (silent : ∀ requestId < world.issued.length, laterRun.sends = some requestId →
      run.sends = some requestId)
    (requestId : Nat) (notComing : world.NotComing run requestId) :
    later.NotComing laterRun requestId := by
  apply further.notComing notComing
  intro unsent quiet bound
  refine ⟨?_, ?_⟩
  · rw [same]
    exact unsent
  · intro sends
    exact quiet (silent requestId bound sends)

theorem CreationWorld.Listed.same_provider {world later : CreationWorld Key Print}
    (listed : world.Listed) (same : later.provider = world.provider)
    (issued : world.issued <+: later.issued) : later.Listed where
  once := by rw [same]; exact listed.once
  created := by rw [same]; exact listed.created
  labelled := by rw [same]; exact listed.labelled
  numbered := by
    intro requestId request sent
    rw [same] at sent
    have known := listed.numbered requestId request sent
    obtain ⟨rest, grown⟩ := issued
    rw [← grown, List.getElem?_append_left (List.getElem?_eq_some_iff.mp known).1]
    exact known

theorem AccountedFor.goes_on {later : Provisioning Key Print}
    (accounted : AccountedFor fingerprint system)
    (further : system.world.Extends later.world)
    (same : later.world.provider = system.world.provider)
    (silent : ∀ requestId < system.world.issued.length, later.run.sends = some requestId →
      system.run.sends = some requestId)
    (intended : ∀ attempt, later.world.state.pendingProviderCreation = some attempt →
      system.world.Intended attempt ∨ later.world.Intended attempt)
    (running : later.world.Sound fingerprint later.run)
    (clearing : ∀ id call, later.clearing id = some call →
      system.clearing id = some call ∨ later.world.Checked fingerprint later.run call)
    (refused : ∀ requestId ∈ later.world.refused, requestId ∈ system.world.refused ∨
      ∃ credential, system.world.provider.requests requestId = some ⟨credential, .declined⟩)
    (acknowledged : ∀ requestId ∈ later.world.acknowledged,
      requestId ∈ system.world.acknowledged ∨ system.world.NotComing system.run requestId)
    (closes : ∀ attempt, system.world.state.pendingProviderCreation = some attempt →
      later.world.Closed attempt.requestId ∨
        ∃ left, later.world.state.pendingProviderCreation = some left ∧
          left.requestId = attempt.requestId) :
    AccountedFor fingerprint later where
  listed := accounted.listed.same_provider same further.issued
  intended := by
    intro attempt pending
    rcases intended attempt pending with before | now
    · exact further.intended before
    · exact now
  running := running
  clearing := by
    intro id call there
    rcases clearing id call there with before | now
    · exact (accounted.clearing id call before).extends further
        (further.same_provider same silent)
    · exact now
  refused := by
    intro requestId member
    rw [same]
    rcases refused requestId member with before | declined
    · exact accounted.refused requestId before
    · exact declined
  acknowledged := by
    intro requestId member
    rcases acknowledged requestId member with before | now
    · exact further.same_provider same silent requestId (accounted.acknowledged requestId before)
    · exact further.same_provider same silent requestId now
  closed := by
    intro requestId request sent
    rw [same] at sent
    rcases accounted.closed requestId request sent with closed | ⟨attempt, pending, named⟩
    · exact Or.inl (further.closed closed)
    · subst named
      exact closes attempt pending

theorem CreationWorld.Extends.refl (world : CreationWorld Key Print) : world.Extends world where
  issued := List.prefix_refl _
  decided := fun _ _ sent _ => sent
  provisioned := List.Subset.refl _
  refused := List.Subset.refl _
  acknowledged := List.Subset.refl _

variable {attempt : ProviderCreationAttempt Print} {run : CreationRun Key Print}

theorem AccountedFor.move (accounted : AccountedFor fingerprint system)
    (sound : system.world.Sound fingerprint run)
    (silent : run.sends = none ∨ run.sends = system.run.sends) :
    AccountedFor fingerprint (system.move run) := by
  refine AccountedFor.goes_on accounted
    (CreationWorld.Extends.refl _) rfl ?_ ?_ ?_ ?_ ?_ ?_ ?_
  · intro requestId _ sends
    rcases silent with none | same
    · rw [show (system.move run).run.sends = run.sends from rfl, none] at sends
      cases sends
    · rw [← same]
      exact sends
  · intro attempt pending
    exact Or.inl (accounted.intended attempt pending)
  · exact sound
  · intro id call there
    exact Or.inl there
  · intro requestId member
    exact Or.inl member
  · intro requestId member
    exact Or.inl member
  · intro attempt pending
    exact Or.inr ⟨attempt, pending, rfl⟩

theorem AccountedFor.idle (accounted : AccountedFor fingerprint system) :
    AccountedFor fingerprint (system.move .idle) :=
  accounted.move trivial (Or.inl rfl)

theorem CreationWorld.Extends.restate (world : CreationWorld Key Print)
    {state : CreationState Key Print}
    (kept : world.state.provisionedServers ⊆ state.provisionedServers) :
    world.Extends { world with state := state } where
  issued := List.prefix_refl _
  decided := fun _ _ sent _ => sent
  provisioned := kept
  refused := List.Subset.refl _
  acknowledged := List.Subset.refl _

theorem AccountedFor.save (accounted : AccountedFor fingerprint system)
    {state : CreationState Key Print}
    (kept : system.world.state.provisionedServers ⊆ state.provisionedServers)
    (intended : ∀ attempt, state.pendingProviderCreation = some attempt →
      system.world.Intended attempt)
    (closes : ∀ attempt, system.world.state.pendingProviderCreation = some attempt →
      ({ system.world with state := state } : CreationWorld Key Print).Closed attempt.requestId ∨
        ∃ left, state.pendingProviderCreation = some left ∧
          left.requestId = attempt.requestId)
    (sound : ({ system.world with state := state } : CreationWorld Key Print).Sound
      fingerprint run) (silent : run.sends = none ∨ run.sends = system.run.sends) :
    AccountedFor fingerprint (system.save state run) := by
  refine AccountedFor.goes_on accounted (CreationWorld.Extends.restate _ kept) rfl
    ?_ ?_ ?_ ?_ ?_ ?_ ?_
  · intro requestId _ sends
    rcases silent with none | same
    · rw [show (system.save state run).run.sends = run.sends from rfl, none] at sends
      cases sends
    · rw [← same]
      exact sends
  · intro attempt pending
    exact Or.inl (intended attempt pending)
  · exact sound
  · intro id call there
    exact Or.inl there
  · intro requestId member
    exact Or.inl member
  · intro requestId member
    exact Or.inl member
  · exact closes

theorem CreationState.mem_ensureServerRecord (state : CreationState Key Print)
    (instanceId : Nat) : instanceId ∈ (state.ensureServerRecord instanceId).provisionedServers := by
  unfold CreationState.ensureServerRecord
  split
  · assumption
  · simp

theorem CreationState.ensureServerRecord_subset (state : CreationState Key Print)
    (instanceId : Nat) :
    state.provisionedServers ⊆ (state.ensureServerRecord instanceId).provisionedServers := by
  unfold CreationState.ensureServerRecord
  split
  · exact List.Subset.refl _
  · exact List.subset_append_left _ _

@[simp] theorem CreationState.ensureServerRecord_pending (state : CreationState Key Print)
    (instanceId : Nat) :
    (state.ensureServerRecord instanceId).pendingProviderCreation =
      state.pendingProviderCreation := by
  unfold CreationState.ensureServerRecord
  split <;> rfl

theorem CreationState.rejected_cases (state : CreationState Key Print)
    (attempt : ProviderCreationAttempt Print) :
    (∃ current, state.pendingProviderCreation = some current ∧
        current.requestId = attempt.requestId ∧
          state.rejected attempt = { state with pendingProviderCreation := none }) ∨
      (∀ current, state.pendingProviderCreation = some current →
        current.requestId ≠ attempt.requestId) ∧ state.rejected attempt = state := by
  unfold CreationState.rejected
  cases pending : state.pendingProviderCreation with
  | none => exact Or.inr ⟨nofun, rfl⟩
  | some current =>
      dsimp only
      split
      · next same => exact Or.inl ⟨current, rfl, same, rfl⟩
      · next apart =>
        right
        refine ⟨?_, rfl⟩
        intro other there
        cases there
        exact apart

theorem CreationState.rejected_provisioned (state : CreationState Key Print)
    (attempt : ProviderCreationAttempt Print) :
    (state.rejected attempt).provisionedServers = state.provisionedServers := by
  rcases state.rejected_cases attempt with ⟨_, _, _, taken⟩ | ⟨_, same⟩
  · rw [taken]
  · rw [same]

theorem CreationState.rejected_left (state : CreationState Key Print)
    (attempt : ProviderCreationAttempt Print) {left : ProviderCreationAttempt Print}
    (pending : (state.rejected attempt).pendingProviderCreation = some left) :
    state.pendingProviderCreation = some left := by
  rcases state.rejected_cases attempt with ⟨_, _, _, taken⟩ | ⟨_, same⟩
  · rw [taken] at pending
    cases pending
  · rw [same] at pending
    exact pending

theorem AccountedFor.rejects (accounted : AccountedFor fingerprint system)
    (refused : attempt.requestId ∈ system.world.refused) :
    AccountedFor fingerprint (system.save (system.world.state.rejected attempt) .idle) := by
  apply accounted.save
  · rw [CreationState.rejected_provisioned]
    exact List.Subset.refl _
  · intro left pending
    exact accounted.intended left (CreationState.rejected_left _ _ pending)
  · intro current pending
    rcases system.world.state.rejected_cases attempt with ⟨taken, there, same, _⟩ | ⟨_, same⟩
    · rw [pending] at there
      cases there
      left
      rw [same]
      exact Or.inl refused
    · right
      rw [same]
      exact ⟨current, pending, rfl⟩
  · trivial
  · exact Or.inl rfl

theorem AccountedFor.adopts (accounted : AccountedFor fingerprint system) {requestId : Nat}
    {instanceId : Nat} (about : system.world.About requestId)
    (created : system.world.CreatedAs requestId instanceId) :
    AccountedFor fingerprint (system.save (system.world.state.adopt instanceId) .idle) := by
  apply accounted.save
  · exact CreationState.ensureServerRecord_subset _ _
  · intro attempt pending
    cases pending
  · intro attempt pending
    left
    rw [about attempt pending]
    obtain ⟨credential, sent⟩ := created
    exact Or.inr (Or.inr ⟨credential, instanceId, sent,
      CreationState.mem_ensureServerRecord _ _⟩)
  · trivial
  · exact Or.inl rfl

theorem AccountedFor.intends (accounted : AccountedFor fingerprint system) {apiKey : Key}
    (here : system.run = .intending apiKey attempt) :
    AccountedFor fingerprint
      (system.save { system.world.state with pendingProviderCreation := some attempt }
        (.ready apiKey attempt)) := by
  have running := accounted.running
  rw [here] at running
  obtain ⟨about, intended, credited, unsent⟩ := running
  apply accounted.save
  · exact List.Subset.refl _
  · intro left pending
    cases pending
    exact intended
  · intro current pending
    exact Or.inr ⟨attempt, rfl, (about current pending).symm⟩
  · refine ⟨?_, rfl, ⟨intended.issued, intended.confirmed⟩, credited, unsent⟩
    intro left pending
    cases pending
    rfl
  · rw [here]
    exact Or.inr rfl

theorem AccountedFor.accepts (accounted : AccountedFor fingerprint system) {requestId : Nat}
    {contractId : Nat} (about : system.world.About requestId)
    (created : system.world.CreatedAs requestId contractId) :
    AccountedFor fingerprint
      (system.save (system.world.state.accepted contractId) .recording) := by
  apply accounted.save
  · exact List.Subset.refl _
  · intro left pending
    obtain ⟨attempt, before, named⟩ := Option.map_eq_some_iff.mp pending
    subst named
    have intended := accounted.intended attempt before
    refine ⟨intended.issued, ?_⟩
    intro instanceId known
    cases known
    have same : attempt.requestId = requestId := about attempt before
    rw [← same] at created
    exact created
  · intro current pending
    right
    refine ⟨{ current with confirmedInstanceId := some contractId }, ?_, rfl⟩
    exact Option.map_eq_some_iff.mpr ⟨current, pending, rfl⟩
  · trivial
  · exact Or.inl rfl

theorem AccountedFor.records (accounted : AccountedFor fingerprint system) (instanceId : Nat) :
    AccountedFor fingerprint
      (system.save (system.world.state.ensureServerRecord instanceId)
        (.completing instanceId)) := by
  apply accounted.save
  · exact CreationState.ensureServerRecord_subset _ _
  · intro left pending
    rw [CreationState.ensureServerRecord_pending] at pending
    exact accounted.intended left pending
  · intro current pending
    right
    rw [CreationState.ensureServerRecord_pending]
    exact ⟨current, pending, rfl⟩
  · exact CreationState.mem_ensureServerRecord _ _
  · exact Or.inl rfl

theorem AccountedFor.completes (accounted : AccountedFor fingerprint system) {instanceId : Nat}
    (server : instanceId ∈ system.world.state.provisionedServers) :
    AccountedFor fingerprint (system.save (system.world.state.complete instanceId) .idle) := by
  have kept : (system.world.state.complete instanceId).provisionedServers =
      system.world.state.provisionedServers := by
    unfold CreationState.complete
    repeat' split
    all_goals rfl
  cases pending : system.world.state.pendingProviderCreation with
  | none =>
      apply accounted.save
      · rw [kept]
        exact List.Subset.refl _
      · simp [CreationState.complete, pending]
      · simp [pending]
      · trivial
      · exact Or.inl rfl
  | some attempt =>
      apply accounted.save
      · rw [kept]
        exact List.Subset.refl _
      · intro left there
        simp only [CreationState.complete, pending] at there
        split at there
        · cases there
        · exact accounted.intended left there
      · intro current there
        rw [pending] at there
        cases there
        by_cases known : attempt.confirmedInstanceId = some instanceId
        · left
          obtain ⟨credential, sent⟩ := (accounted.intended attempt pending).confirmed _ known
          refine Or.inr (Or.inr ⟨credential, instanceId, sent, ?_⟩)
          rw [kept]
          exact server
        · right
          refine ⟨attempt, ?_, rfl⟩
          simp only [CreationState.complete, pending, if_neg known]
      · trivial
      · exact Or.inl rfl

theorem AccountedFor.issues (accounted : AccountedFor fingerprint system) (apiKey : Key)
    (nothing : system.world.state.pendingProviderCreation = none) :
    AccountedFor fingerprint
      { system with
        world := { system.world with issued := system.world.issued ++ [fingerprint apiKey] }
        run := .intending apiKey
          { requestId := system.world.issued.length
            credentialFingerprint := fingerprint apiKey } } := by
  have further : system.world.Extends
      { system.world with issued := system.world.issued ++ [fingerprint apiKey] } :=
    { issued := List.prefix_append _ _
      decided := fun _ _ sent _ => sent
      provisioned := List.Subset.refl _
      refused := List.Subset.refl _
      acknowledged := List.Subset.refl _ }
  have unsent : system.world.provider.requests system.world.issued.length = none := by
    cases sent : system.world.provider.requests system.world.issued.length with
    | none => rfl
    | some request =>
        have numbered := accounted.listed.numbered _ _ sent
        rw [List.getElem?_eq_none (Nat.le_refl _)] at numbered
        cases numbered
  refine AccountedFor.goes_on accounted further rfl ?_ ?_ ?_ ?_ ?_ ?_ ?_
  · intro requestId bound sends
    have same : system.world.issued.length = requestId := Option.some.inj sends
    omega
  · intro attempt pending
    exact Or.inl (accounted.intended attempt pending)
  · refine ⟨?_, ⟨List.getElem?_concat_length, nofun⟩, rfl, unsent⟩
    intro attempt pending
    have absent : system.world.state.pendingProviderCreation = some attempt := pending
    rw [nothing] at absent
    cases absent
  · intro id call there
    exact Or.inl there
  · intro requestId member
    exact Or.inl member
  · intro requestId member
    exact Or.inl member
  · intro attempt pending
    rw [nothing] at pending
    cases pending

theorem AccountedFor.refuses (accounted : AccountedFor fingerprint system) {credential : Print}
    (declined : system.world.provider.requests attempt.requestId = some ⟨credential, .declined⟩) :
    AccountedFor fingerprint
      { system with
        world := { system.world with refused := attempt.requestId :: system.world.refused }
        run := .rejecting attempt } := by
  have further : system.world.Extends
      { system.world with refused := attempt.requestId :: system.world.refused } :=
    { issued := List.prefix_refl _
      decided := fun _ _ sent _ => sent
      provisioned := List.Subset.refl _
      refused := List.subset_cons_self _ _
      acknowledged := List.Subset.refl _ }
  refine AccountedFor.goes_on accounted further rfl ?_ ?_ ?_ ?_ ?_ ?_ ?_
  · intro requestId _ sends
    cases sends
  · intro left pending
    exact Or.inl (accounted.intended left pending)
  · exact List.mem_cons_self
  · intro id call there
    exact Or.inl there
  · intro requestId member
    rcases List.mem_cons.mp member with now | before
    · subst now
      exact Or.inr ⟨credential, declined⟩
    · exact Or.inl before
  · intro requestId member
    exact Or.inl member
  · intro current pending
    exact Or.inr ⟨current, pending, rfl⟩

theorem CreationWorld.Sound.extends {world later : CreationWorld Key Print}
    (sound : world.Sound fingerprint run) (further : world.Extends later)
    (fewer : ∀ attempt, later.state.pendingProviderCreation = some attempt →
      world.state.pendingProviderCreation = some attempt)
    (kept : run.sends ≠ none → later.state.pendingProviderCreation =
      world.state.pendingProviderCreation)
    (unsent : ∀ requestId, world.provider.requests requestId = none →
      later.provider.requests requestId = none) : later.Sound fingerprint run := by
  have about : ∀ {requestId}, world.About requestId → later.About requestId := by
    intro requestId about attempt pending
    exact about attempt (fewer attempt pending)
  cases run with
  | idle | started | looking | preparing | recording => trivial
  | found apiKey attempt | listing apiKey attempt =>
      exact ⟨about sound.1, further.intended sound.2⟩
  | matched attempt listed | adopting attempt listed | accepting attempt contractId =>
      exact ⟨about sound.1, further.createdAs sound.2⟩
  | intending apiKey attempt =>
      obtain ⟨named, intended, credited, fresh⟩ := sound
      exact ⟨about named, further.intended intended, credited, unsent _ fresh⟩
  | ready apiKey attempt =>
      obtain ⟨named, there, intended, credited, fresh⟩ := sound
      refine ⟨about named, ?_, further.intended intended, credited, unsent _ fresh⟩
      rw [kept nofun]
      exact there
  | waiting attempt => exact about sound
  | rejecting attempt => exact further.refused sound
  | completing instanceId => exact further.provisioned sound

theorem AccountedFor.provides {provider : Provider Print}
    (accounted : AccountedFor fingerprint system)
    (listed : ({ system.world with provider := provider } : CreationWorld Key Print).Listed)
    (decided : ∀ requestId request, system.world.provider.requests requestId = some request →
      request.outcome ≠ .inFlight → provider.requests requestId = some request)
    (notComing : ∀ requestId, system.world.provider.requests requestId = none →
      system.run.sends ≠ some requestId →
        provider.requests requestId = none ∧ run.sends ≠ some requestId)
    (running : ({ system.world with provider := provider } : CreationWorld Key Print).Sound
      fingerprint run)
    (closed : ∀ requestId request, provider.requests requestId = some request →
      (∃ before, system.world.provider.requests requestId = some before) ∨
        ∃ attempt, system.world.state.pendingProviderCreation = some attempt ∧
          attempt.requestId = requestId) :
    AccountedFor fingerprint
      { system with world := { system.world with provider := provider }, run := run } := by
  have further : system.world.Extends { system.world with provider := provider } :=
    { issued := List.prefix_refl _
      decided := decided
      provisioned := List.Subset.refl _
      refused := List.Subset.refl _
      acknowledged := List.Subset.refl _ }
  have still : ∀ requestId, system.world.NotComing system.run requestId →
      ({ system.world with provider := provider } : CreationWorld Key Print).NotComing run
        requestId := by
    intro requestId absent
    apply further.notComing absent
    intro unsent silent _
    exact notComing requestId unsent silent
  constructor
  · exact listed
  · intro attempt pending
    exact further.intended (accounted.intended attempt pending)
  · exact running
  · intro id call there
    exact (accounted.clearing id call there).extends further still
  · intro requestId member
    obtain ⟨credential, declined⟩ := accounted.refused requestId member
    exact ⟨credential, decided _ _ declined nofun⟩
  · intro requestId member
    exact still requestId (accounted.acknowledged requestId member)
  · intro requestId request sent
    rcases closed requestId request sent with ⟨before, known⟩ | pending
    · rcases accounted.closed requestId before known with closed | pending
      · exact Or.inl (further.closed closed)
      · exact Or.inr pending
    · exact Or.inr pending

theorem requests_update {requests : Nat → Option (CreateRequest Print)} {requestId other : Nat}
    {request found : CreateRequest Print}
    (sent : Function.update requests requestId (some request) other = some found) :
    (other = requestId ∧ found = request) ∨ (other ≠ requestId ∧ requests other = some found) := by
  by_cases mine : other = requestId
  · subst mine
    rw [Function.update_self] at sent
    exact Or.inl ⟨rfl, (Option.some.inj sent).symm⟩
  · rw [Function.update_of_ne mine] at sent
    exact Or.inr ⟨mine, sent⟩

theorem AccountedFor.sends (accounted : AccountedFor fingerprint system) {apiKey : Key}
    (here : system.run = .ready apiKey attempt) :
    AccountedFor fingerprint
      (system.send attempt.requestId (fingerprint apiKey) (.waiting attempt)) := by
  have running := accounted.running
  rw [here] at running
  obtain ⟨about, there, intended, credited, fresh⟩ := running
  have apart : ∀ {requestId request}, system.world.provider.requests requestId = some request →
      requestId ≠ attempt.requestId := by
    intro requestId request sent same
    rw [same, fresh] at sent
    cases sent
  apply accounted.provides
  · constructor
    · exact accounted.listed.once
    · intro requestId credential instanceId sent
      rcases requests_update sent with ⟨_, flying⟩ | ⟨_, before⟩
      · cases flying
      · exact accounted.listed.created _ _ _ before
    · intro listed member requestId label
      have sent := accounted.listed.labelled listed member requestId label
      exact (Function.update_of_ne (apart sent) ..).trans sent
    · intro requestId request sent
      rcases requests_update sent with ⟨rfl, rfl⟩ | ⟨_, before⟩
      · rw [← credited]
        exact intended.issued
      · exact accounted.listed.numbered _ _ before
  · intro requestId request sent _
    exact (Function.update_of_ne (apart sent) ..).trans sent
  · intro requestId unsent silent
    have mine : requestId ≠ attempt.requestId := by
      intro same
      apply silent
      rw [here, same]
      rfl
    exact ⟨(Function.update_of_ne mine ..).trans unsent, nofun⟩
  · exact about
  · intro requestId request sent
    rcases requests_update sent with ⟨mine, _⟩ | ⟨_, before⟩
    · right
      obtain ⟨current, pending⟩ := Option.isSome_iff_exists.mp there
      exact ⟨current, pending, (about current pending).trans mine.symm⟩
    · exact Or.inl ⟨request, before⟩

theorem AccountedFor.decides (accounted : AccountedFor fingerprint system) {requestId : Nat}
    {credential : Print} {outcome : CreationOutcome} {instances : List (RentedInstance Print)}
    (flying : system.world.provider.requests requestId = some ⟨credential, .inFlight⟩)
    (listed : ({ system.world with provider :=
      { requests := Function.update system.world.provider.requests requestId
          (some ⟨credential, outcome⟩)
        instances := instances } } : CreationWorld Key Print).Listed) :
    AccountedFor fingerprint
      { system with world := { system.world with provider :=
        { requests := Function.update system.world.provider.requests requestId
            (some ⟨credential, outcome⟩)
          instances := instances } } } := by
  have others : ∀ {other request}, system.world.provider.requests other = some request →
      request.outcome ≠ .inFlight →
        Function.update system.world.provider.requests requestId
          (some ⟨credential, outcome⟩) other = some request := by
    intro other request sent decided
    have apart : other ≠ requestId := by
      intro same
      rw [same, flying] at sent
      cases sent
      exact decided rfl
    exact (Function.update_of_ne apart ..).trans sent
  have unsent : ∀ other, system.world.provider.requests other = none →
      Function.update system.world.provider.requests requestId
        (some ⟨credential, outcome⟩) other = none := by
    intro other fresh
    have apart : other ≠ requestId := by
      intro same
      rw [same, flying] at fresh
      cases fresh
    exact (Function.update_of_ne apart ..).trans fresh
  have further : system.world.Extends { system.world with provider :=
      { requests := Function.update system.world.provider.requests requestId
          (some ⟨credential, outcome⟩)
        instances := instances } } :=
    { issued := List.prefix_refl _
      decided := fun _ _ sent decided => others sent decided
      provisioned := List.Subset.refl _
      refused := List.Subset.refl _
      acknowledged := List.Subset.refl _ }
  apply accounted.provides listed
  · intro other request sent decided
    exact others sent decided
  · intro other fresh silent
    exact ⟨unsent other fresh, silent⟩
  · exact accounted.running.extends further (fun _ pending => pending) (fun _ => rfl) unsent
  · intro other request sent
    left
    rcases requests_update sent with ⟨rfl, _⟩ | ⟨_, before⟩
    · exact ⟨_, flying⟩
    · exact ⟨request, before⟩

theorem AccountedFor.settle (accounted : AccountedFor fingerprint system) (requestId : Nat)
    (contract : Option Nat) : AccountedFor fingerprint (system.settle requestId contract) := by
  have listed := accounted.listed
  unfold Provisioning.settle
  dsimp only
  split
  · next credential contractId flying =>
    split
    · exact accounted
    · next fresh =>
      apply accounted.decides flying
      constructor
      · simp only [List.map_append, List.map_cons, List.map_nil]
        exact List.nodup_append.mpr ⟨listed.once, List.nodup_singleton _, by
          intro id member other single
          rw [List.mem_singleton.mp single]
          intro same
          subst same
          exact fresh member⟩
      · intro other creditor instanceId sent
        rcases requests_update sent with ⟨rfl, created⟩ | ⟨_, before⟩
        · cases created
          exact List.mem_append_right _ List.mem_cons_self
        · exact List.mem_append_left _ (listed.created _ _ _ before)
      · intro shown member other label
        rcases List.mem_append.mp member with before | single
        · have sent := listed.labelled shown before other label
          have apart : other ≠ requestId := by
            intro same
            rw [same, flying] at sent
            cases sent
          exact (Function.update_of_ne apart ..).trans sent
        · rw [List.mem_singleton.mp single] at label ⊢
          cases label
          exact Function.update_self ..
      · intro other request sent
        rcases requests_update sent with ⟨rfl, rfl⟩ | ⟨_, before⟩
        · have numbered := listed.numbered _ _ flying
          exact numbered
        · exact listed.numbered _ _ before
  · next credential flying =>
    apply accounted.decides flying
    constructor
    · exact listed.once
    · intro other creditor instanceId sent
      rcases requests_update sent with ⟨_, declined⟩ | ⟨_, before⟩
      · cases declined
      · exact listed.created _ _ _ before
    · intro shown member other label
      have sent := listed.labelled shown member other label
      have apart : other ≠ requestId := by
        intro same
        rw [same, flying] at sent
        cases sent
      exact (Function.update_of_ne apart ..).trans sent
    · intro other request sent
      rcases requests_update sent with ⟨rfl, rfl⟩ | ⟨_, before⟩
      · have numbered := listed.numbered _ _ flying
        exact numbered
      · exact listed.numbered _ _ before
  · exact accounted

theorem AccountedFor.rentElsewhere (accounted : AccountedFor fingerprint system)
    (credential : Print) (instanceId : Nat) :
    AccountedFor fingerprint (system.rentElsewhere credential instanceId) := by
  have listed := accounted.listed
  unfold Provisioning.rentElsewhere
  dsimp only
  split
  · exact accounted
  · next fresh =>
    refine AccountedFor.provides accounted ?_ (fun _ _ sent _ => sent)
      (fun _ unsent silent => ⟨unsent, silent⟩) ?_ (fun _ request sent => Or.inl ⟨request, sent⟩)
    · constructor
      · simp only [List.map_append, List.map_cons, List.map_nil]
        exact List.nodup_append.mpr ⟨listed.once, List.nodup_singleton _, by
          intro id member other single
          rw [List.mem_singleton.mp single]
          intro same
          subst same
          exact fresh member⟩
      · intro requestId creditor contractId sent
        exact List.mem_append_left _ (listed.created _ _ _ sent)
      · intro shown member requestId label
        rcases List.mem_append.mp member with before | single
        · exact listed.labelled shown before requestId label
        · rw [List.mem_singleton.mp single] at label
          cases label
      · exact listed.numbered
    · exact accounted.running.extends
        { issued := List.prefix_refl _
          decided := fun _ _ sent _ => sent
          provisioned := List.Subset.refl _
          refused := List.Subset.refl _
          acknowledged := List.Subset.refl _ }
        (fun _ pending => pending) (fun _ => rfl) (fun _ unsent => unsent)

theorem AccountedFor.changeCredential (accounted : AccountedFor fingerprint system) (key : Key) :
    AccountedFor fingerprint
      { system with world := { system.world with
        state := { system.world.state with vastApiKey := key } } } := by
  have further : system.world.Extends { system.world with
      state := { system.world.state with vastApiKey := key } } :=
    CreationWorld.Extends.restate _ (List.Subset.refl _)
  refine AccountedFor.goes_on accounted further rfl (fun _ _ sends => sends)
    ?_ ?_ (fun _ _ there => Or.inl there) (fun _ member => Or.inl member)
    (fun _ member => Or.inl member) (fun attempt pending => Or.inr ⟨attempt, pending, rfl⟩)
  · intro attempt pending
    exact Or.inl (accounted.intended attempt pending)
  · exact accounted.running.extends further (fun _ pending => pending) (fun _ => rfl)
      (fun _ unsent => unsent)

theorem AccountedFor.restart (accounted : AccountedFor fingerprint system) :
    AccountedFor fingerprint { world := system.world } := by
  refine AccountedFor.goes_on accounted (CreationWorld.Extends.refl _) rfl ?_ ?_ trivial ?_
    (fun _ member => Or.inl member) (fun _ member => Or.inl member)
    (fun attempt pending => Or.inr ⟨attempt, pending, rfl⟩)
  · intro requestId _ sends
    cases sends
  · intro attempt pending
    exact Or.inl (accounted.intended attempt pending)
  · intro id call there
    cases there

theorem AccountedFor.putClearing (accounted : AccountedFor fingerprint system) (id : Nat)
    {call : Option (Clearing Key Print)}
    (checked : ∀ found, call = some found →
      system.world.Checked fingerprint system.run found) :
    AccountedFor fingerprint (system.putClearing id call) := by
  refine AccountedFor.goes_on accounted (CreationWorld.Extends.refl _) rfl
    (fun _ _ sends => sends) (fun attempt pending => Or.inl (accounted.intended attempt pending))
    accounted.running ?_ (fun _ member => Or.inl member) (fun _ member => Or.inl member)
    (fun attempt pending => Or.inr ⟨attempt, pending, rfl⟩)
  intro other found there
  by_cases mine : other = id
  · subst mine
    have placed : Function.update system.clearing other call other = some found := there
    rw [Function.update_self] at placed
    exact Or.inr (checked found placed)
  · have placed : Function.update system.clearing id call other = some found := there
    rw [Function.update_of_ne mine] at placed
    exact Or.inl placed

theorem AccountedFor.absent [DecidableEq Print] (accounted : AccountedFor fingerprint system)
    (intended : system.world.Intended attempt)
    (unlisted : ∀ listed ∈ system.world.provider.listInstances attempt.credentialFingerprint,
      listed.label ≠ some attempt.requestId) (settled : system.settled attempt.requestId = true) :
    system.world.NotComing system.run attempt.requestId := by
  unfold Provisioning.settled at settled
  cases sent : system.world.provider.requests attempt.requestId with
  | none =>
      rw [sent] at settled
      have bound := (List.getElem?_eq_some_iff.mp intended.issued).1
      exact Or.inr ⟨bound, sent, of_decide_eq_true settled⟩
  | some request =>
      rw [sent] at settled
      obtain ⟨credential, outcome⟩ := request
      cases outcome with
      | inFlight => cases of_decide_eq_true settled rfl
      | declined => exact Or.inl ⟨credential, sent⟩
      | created instanceId =>
          have numbered := accounted.listed.numbered _ _ sent
          rw [intended.issued] at numbered
          have credited : credential = attempt.credentialFingerprint :=
            (Option.some.inj numbered).symm
          have member := accounted.listed.created _ _ _ sent
          have shown : ⟨instanceId, some attempt.requestId, credential⟩ ∈
              system.world.provider.listInstances attempt.credentialFingerprint :=
            List.mem_filter.mpr ⟨member, decide_eq_true credited⟩
          exact absurd rfl (unlisted _ shown)

theorem AccountedFor.sending (accounted : AccountedFor fingerprint system) {requestId : Nat}
    (sends : system.run.sends = some requestId) :
    system.world.About requestId ∧ system.world.provider.requests requestId = none := by
  have running := accounted.running
  cases run : system.run with
  | intending apiKey attempt =>
      rw [run] at running sends
      cases sends
      exact ⟨running.1, running.2.2.2⟩
  | ready apiKey attempt =>
      rw [run] at running sends
      cases sends
      exact ⟨running.1, running.2.2.2.2⟩
  | idle | started | found | listing | matched | adopting | looking | preparing
    | waiting | rejecting | accepting | recording | completing =>
      rw [run] at sends
      cases sends

theorem AccountedFor.acknowledges (accounted : AccountedFor fingerprint system) (id : Nat)
    (notComing : system.world.NotComing system.run attempt.requestId) :
    AccountedFor fingerprint
      { system.putClearing id none with
        world := { system.world with
          state := system.world.state.rejected attempt
          acknowledged := attempt.requestId :: system.world.acknowledged } } := by
  have further : system.world.Extends { system.world with
      state := system.world.state.rejected attempt
      acknowledged := attempt.requestId :: system.world.acknowledged } :=
    { issued := List.prefix_refl _
      decided := fun _ _ sent _ => sent
      provisioned := by
        rw [CreationState.rejected_provisioned]
        exact List.Subset.refl _
      refused := List.Subset.refl _
      acknowledged := List.subset_cons_self _ _ }
  have fewer : ∀ left, (system.world.state.rejected attempt).pendingProviderCreation = some left →
      system.world.state.pendingProviderCreation = some left :=
    fun left pending => CreationState.rejected_left _ _ pending
  refine AccountedFor.goes_on accounted further rfl (fun _ _ sends => sends) ?_ ?_ ?_
    (fun _ member => Or.inl member) ?_ ?_
  · intro left pending
    exact Or.inl (accounted.intended left (fewer left pending))
  · apply accounted.running.extends further fewer
    · intro sending
      rcases system.world.state.rejected_cases attempt with ⟨current, pending, named, _⟩ | ⟨_, same⟩
      · exfalso
        obtain ⟨requestId, sends⟩ := Option.ne_none_iff_exists'.mp sending
        obtain ⟨about, unsent⟩ := accounted.sending sends
        have same : requestId = attempt.requestId := (about current pending).symm.trans named
        subst same
        rcases notComing with ⟨credential, declined⟩ | ⟨_, _, silent⟩
        · rw [unsent] at declined
          cases declined
        · exact silent sends
      · rw [same]
    · exact fun _ unsent => unsent
  · intro other call there
    by_cases mine : other = id
    · subst mine
      have gone : Function.update system.clearing other none other = some call := there
      rw [Function.update_self] at gone
      cases gone
    · have placed : Function.update system.clearing id none other = some call := there
      rw [Function.update_of_ne mine] at placed
      exact Or.inl placed
  · intro requestId member
    rcases List.mem_cons.mp member with now | before
    · subst now
      exact Or.inr notComing
    · exact Or.inl before
  · intro current pending
    rcases system.world.state.rejected_cases attempt with ⟨taken, there, named, _⟩ | ⟨_, same⟩
    · rw [pending] at there
      cases there
      left
      rw [named]
      exact Or.inr (Or.inl List.mem_cons_self)
    · right
      rw [same]
      exact ⟨current, pending, rfl⟩

theorem matching_created {world : CreationWorld Key Print} [DecidableEq Print]
    (listed : world.Listed) (intended : world.Intended attempt) {credential : Print}
    {shown : RentedInstance Print}
    (found : attempt.matching (world.provider.listInstances credential) = [shown]) :
    world.CreatedAs attempt.requestId shown.id := by
  have member : shown ∈ attempt.matching (world.provider.listInstances credential) := by
    rw [found]
    exact List.mem_cons_self
  obtain ⟨there, matched⟩ := List.mem_filter.mp member
  rcases of_decide_eq_true matched with known | label
  · exact intended.confirmed _ known
  · exact ⟨_, listed.labelled shown (List.mem_of_mem_filter there) _ label⟩

theorem AccountedFor.clearUnconfirmed [DecidableEq Print]
    (accounted : AccountedFor fingerprint system) (id requestId : Nat) (confirmedAbsent : Bool) :
    AccountedFor fingerprint
      (system.clearUnconfirmed fingerprint id requestId confirmedAbsent) := by
  unfold Provisioning.clearUnconfirmed
  split
  · next attempt _ pending =>
    split
    · next checks =>
      apply accounted.putClearing
      intro found same
      cases same
      exact ⟨accounted.intended attempt pending, checks.2.1⟩
    · exact accounted
  · exact accounted

theorem AccountedFor.clear [DecidableEq Print] (accounted : AccountedFor fingerprint system)
    (id : Nat) (ok : Bool)
    (answered : ListedWhenSettled system (.clear id ok)) :
    AccountedFor fingerprint (system.clear fingerprint id ok) := by
  have dropped : AccountedFor fingerprint (system.putClearing id none) :=
    accounted.putClearing id nofun
  simp only [ListedWhenSettled] at answered
  unfold Provisioning.clear
  cases there : system.clearing id with
  | none => exact accounted
  | some call =>
      have checked := accounted.clearing id call there
      rw [there] at answered
      cases call with
      | inspecting apiKey attempt =>
          dsimp only at answered ⊢
          split
          · next seen =>
            have settled := answered seen.1
            apply accounted.putClearing
            intro found same
            cases same
            refine ⟨settled, accounted.absent checked.1 ?_ settled⟩
            rw [checked.2]
            exact seen.2
          · exact dropped
      | absent attempt settled =>
          dsimp only
          split
          · apply accounted.putClearing
            intro found same
            cases same
            exact checked
          · exact dropped
      | acknowledging attempt settled =>
          obtain ⟨settled, notComing⟩ := checked
          subst settled
          dsimp only
          split
          · exact accounted.acknowledges id notComing
          · exact dropped

variable [DecidableEq Key] [DecidableEq Print]

theorem AccountedFor.advance (accounted : AccountedFor fingerprint system) (ok : Bool)
    (hydrated : Nat) : AccountedFor fingerprint (system.advance fingerprint ok hydrated) := by
  have running := accounted.running
  unfold Provisioning.advance
  cases here : system.run with
  | idle => exact accounted.move trivial (Or.inl rfl)
  | started apiKey =>
      dsimp only
      split
      · exact accounted.move trivial (Or.inl rfl)
      · next attempt pending =>
        apply accounted.move _ (Or.inl rfl)
        refine ⟨?_, accounted.intended attempt pending⟩
        intro current there
        rw [pending] at there
        cases there
        rfl
  | found apiKey attempt =>
      rw [here] at running
      dsimp only
      split
      · exact accounted.move running (Or.inl rfl)
      · exact accounted.idle
  | listing apiKey attempt =>
      rw [here] at running
      dsimp only
      split
      · split
        · next shown found =>
          apply accounted.move _ (Or.inl rfl)
          exact ⟨running.1, matching_created accounted.listed running.2 found⟩
        · exact accounted.idle
      · exact accounted.idle
  | matched attempt shown =>
      rw [here] at running
      dsimp only
      split
      · exact accounted.move running (Or.inl rfl)
      · exact accounted.idle
  | adopting attempt shown =>
      rw [here] at running
      dsimp only
      split
      · exact accounted.adopts running.1 running.2
      · exact accounted.idle
  | looking apiKey =>
      dsimp only
      split
      · exact accounted.move trivial (Or.inl rfl)
      · exact accounted.idle
  | preparing apiKey =>
      dsimp only
      split
      · exact accounted.idle
      · next nothing =>
        apply accounted.issues apiKey
        simpa using nothing
  | intending apiKey attempt =>
      dsimp only
      split
      · exact accounted.intends here
      · exact accounted.idle
  | ready apiKey attempt =>
      dsimp only
      split
      · exact accounted.sends here
      · exact accounted.idle
  | waiting attempt =>
      rw [here] at running
      dsimp only
      split
      · split
        · next credential contractId created =>
          apply accounted.move _ (Or.inl rfl)
          exact ⟨running, credential, created⟩
        · next credential declined => exact accounted.refuses declined
        · exact accounted
      · exact accounted.idle
  | rejecting attempt =>
      rw [here] at running
      dsimp only
      split
      · exact accounted.rejects running
      · exact accounted.idle
  | accepting attempt contractId =>
      rw [here] at running
      dsimp only
      split
      · exact accounted.accepts running.1 running.2
      · exact accounted.move trivial (Or.inl rfl)
  | recording =>
      dsimp only
      split
      · exact accounted.records hydrated
      · exact accounted.idle
  | completing instanceId =>
      rw [here] at running
      dsimp only
      split
      · exact accounted.completes running
      · exact accounted.idle

theorem AccountedFor.step (accounted : AccountedFor fingerprint system)
    (event : CreationEvent Key Print) (answered : ListedWhenSettled system event) :
    AccountedFor fingerprint (creationStep fingerprint system event) := by
  cases event with
  | advance ok hydrated => exact accounted.advance ok hydrated
  | clearUnconfirmed id requestId confirmedAbsent =>
      exact accounted.clearUnconfirmed id requestId confirmedAbsent
  | clear id ok => exact accounted.clear id ok answered
  | settle requestId contract => exact accounted.settle requestId contract
  | rentElsewhere credential instanceId => exact accounted.rentElsewhere credential instanceId
  | changeCredential key => exact accounted.changeCredential key
  | restart => exact accounted.restart

end Steps

theorem NothingRented.accountedFor (fingerprint : Key → Print) {system : Provisioning Key Print}
    (start : NothingRented system) : AccountedFor fingerprint system := by
  obtain ⟨key, servers, rfl⟩ := start
  constructor
  · exact ⟨List.nodup_nil, nofun, nofun, nofun⟩
  · intro attempt pending
    cases pending
  · trivial
  · intro id call there
    cases there
  · intro requestId member
    cases member
  · intro requestId member
    cases member
  · intro requestId request sent
    cases sent

section Runs

variable [DecidableEq Key] [DecidableEq Print]

theorem accountedFor_reached (fingerprint : Key → Print) {system : Provisioning Key Print}
    (reached : Reached (creationStep fingerprint) NothingRented ListedWhenSettled system) :
    AccountedFor fingerprint system := by
  apply reached.invariant
  · intro start begins
    exact begins.accountedFor fingerprint
  · intro before event _ accounted answered
    exact accounted.step event answered

/-- Where `clear_unconfirmed` lists the instances only when the outcome of the request is
settled, no creation is repeated and none is forgotten. -/
theorem creations_accounted (fingerprint : Key → Print) {system : Provisioning Key Print}
    (reached : Reached (creationStep fingerprint) NothingRented ListedWhenSettled system) :
    NeverRepeated fingerprint system ∧ NeverForgotten fingerprint system := by
  have accounted := accountedFor_reached fingerprint reached
  exact ⟨accounted.neverRepeated, accounted.neverForgotten⟩

end Runs

def declinedThenLost : List (CreationEvent Nat Nat) :=
  [.advance true 0, .advance true 0, .advance true 0, .advance true 0, .advance true 0,
    .advance true 0, .settle 0 none, .advance false 0, .clearUnconfirmed 0 0 true, .clear 0 true,
    .clear 0 true, .clear 0 true, .advance true 0, .advance true 0, .advance true 0,
    .advance true 0, .advance true 0, .advance true 0, .settle 1 (some 7), .restart,
    .advance true 0, .advance true 0, .advance true 0, .advance true 0, .advance true 0,
    .advance true 0]

def nothingRented : Provisioning Nat Nat := { world := { state := { vastApiKey := 3 } } }

theorem creations_recovered :
    let system := declinedThenLost.foldl (creationStep id) nothingRented
    (NeverRepeated id system ∧ NeverForgotten id system) ∧
      system.world.state.provisionedServers = [7] ∧ system.world.acknowledged = [0] := by
  refine ⟨creations_accounted id (Reached.along (Reached.start ⟨3, [], rfl⟩) ?_),
    by decide +kernel, by decide +kernel⟩
  refine ⟨trivial, trivial, trivial, trivial, trivial, trivial, trivial, trivial, trivial,
    fun _ => by decide +kernel, ?_, ?_, trivial, trivial, trivial, trivial, trivial, trivial,
    trivial, trivial, trivial, trivial, trivial, trivial, trivial, trivial, trivial⟩
  · trivial
  · trivial

def clearedInFlight : List (CreationEvent Nat Nat) :=
  [.advance true 0, .advance true 0, .advance true 0, .advance true 0, .advance true 0,
    .advance true 0, .clearUnconfirmed 0 0 true, .clear 0 true, .clear 0 true, .clear 0 true,
    .settle 0 (some 7), .advance false 0]

def nextRun : List (CreationEvent Nat Nat) :=
  [.advance true 0, .advance true 0, .advance true 0, .advance true 0, .advance true 0]

/-- The listing does not show the instance yet, so the attempt is taken out of the saved state;
the reply is lost, nothing finds the instance and the next run sends a second request. -/
theorem creations_repeated :
    ¬NeverForgotten id (clearedInFlight.foldl (creationStep id) nothingRented) ∧
      ¬NeverRepeated id
        ((clearedInFlight ++ nextRun).foldl (creationStep id) nothingRented) := by
  constructor
  · intro never
    have created : (clearedInFlight.foldl (creationStep id)
        nothingRented).world.provider.requests 0 = some ⟨3, .created 7⟩ := by decide +kernel
    rcases never 0 3 7 created with server | recovers
    · revert server
      decide +kernel
    · have recovered := recovers 3 rfl
      revert recovered
      decide +kernel
  · intro never
    have ready : ((clearedInFlight ++ nextRun).foldl (creationStep id) nothingRented).run =
        .ready 3 { requestId := 1, credentialFingerprint := 3 } := by decide +kernel
    have created : ((clearedInFlight ++ nextRun).foldl (creationStep id)
        nothingRented).world.provider.requests 0 = some ⟨3, .created 7⟩ := by decide +kernel
    rcases (never _ _ ready).2 0 _ created rfl with
      refused | acknowledged | ⟨other, server, again, member⟩
    · revert refused
      decide +kernel
    · revert acknowledged
      decide +kernel
    · rw [created] at again
      cases again
      revert member
      decide +kernel

end Noland.Desktop
