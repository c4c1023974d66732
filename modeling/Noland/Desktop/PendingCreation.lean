import Noland.Desktop.ProviderCreation

/-!
The calls that can take a pending creation out of the saved state when the provider works. Before
them come any runs, and instances may also be removed at the provider.
-/

namespace Noland.Desktop

open Noland.Machine

variable {Key Print : Type} [DecidableEq Print]

def Provider.remove (provider : Provider Print) (credential : Print) (instanceId : Nat) :
    Provider Print :=
  { provider with instances := provider.instances.filter fun listed =>
      ¬ (listed.id = instanceId ∧ listed.credential = credential) }

/-- What `reconcile_owned_instances` leaves of the server records, and adds to them. -/
def CreationState.reconcile (state : CreationState Key Print) (owned : List Nat) :
    CreationState Key Print :=
  owned.foldl CreationState.ensureServerRecord
    { state with provisionedServers := state.provisionedServers.filter (· ∈ owned) }

namespace CreationWorld

variable (fingerprint : Key → Print) (world : CreationWorld Key Print)

def owned : List (RentedInstance Print) :=
  world.provider.listInstances (fingerprint world.state.vastApiKey)

/-- `recover`, when nothing comes between its steps. -/
def recover : CreationWorld Key Print :=
  match world.state.pendingProviderCreation with
  | none => world
  | some attempt =>
      if attempt.credentialFingerprint = fingerprint world.state.vastApiKey then
        match attempt.matching (world.owned fingerprint) with
        | [listed] => { world with state := world.state.adopt listed.id }
        | _ => world
      else world

/-- `clear_unconfirmed`, when nothing comes between its steps. -/
def clearUnconfirmed (requestId : Nat) (confirmedAbsent : Bool) : CreationWorld Key Print :=
  match world.state.pendingProviderCreation with
  | none => world
  | some attempt =>
      if ¬ (confirmedAbsent = true ∧
          attempt.credentialFingerprint = fingerprint world.state.vastApiKey ∧
          attempt.requestId = requestId ∧ attempt.confirmedInstanceId = none) then world
      else if ∃ listed ∈ world.owned fingerprint, listed.label = some attempt.requestId then world
      else { world with state := world.state.rejected attempt }

/-- `destroy_instance`, when its backup does not stop it. Afterwards the instances are listed
and the records follow the list, or the list fails and the one record goes. -/
def destroyInstance (instanceId : Nat) (listed : Bool) : CreationWorld Key Print :=
  if instanceId ∈ (world.owned fingerprint).map (·.id) then
    let after := { world with
      provider := world.provider.remove (fingerprint world.state.vastApiKey) instanceId }
    if listed then
      { after with state := after.state.reconcile ((after.owned fingerprint).map (·.id)) }
    else
      { after with state := { after.state with
          provisionedServers := after.state.provisionedServers.filter (· ≠ instanceId) } }
  else world

end CreationWorld

inductive AccountEvent (Key Print : Type) where
  | creation (event : CreationEvent Key Print)
  | destroy (instanceId : Nat) (listed : Bool)
  | removed (credential : Print) (instanceId : Nat)

def accountStep [DecidableEq Key] (fingerprint : Key → Print) (system : Provisioning Key Print) :
    AccountEvent Key Print → Provisioning Key Print
  | .creation event => creationStep fingerprint system event
  | .destroy instanceId listed =>
      { system with world := system.world.destroyInstance fingerprint instanceId listed }
  | .removed credential instanceId =>
      { system with world := { system.world with
        provider := system.world.provider.remove credential instanceId } }

inductive SettlingCall where
  | recover
  | clearUnconfirmed (requestId : Nat) (confirmedAbsent : Bool)
  | destroy (instanceId : Nat)

def settlingStep (fingerprint : Key → Print) (world : CreationWorld Key Print) :
    SettlingCall → CreationWorld Key Print
  | .recover => world.recover fingerprint
  | .clearUnconfirmed requestId confirmedAbsent =>
      world.clearUnconfirmed fingerprint requestId confirmedAbsent
  | .destroy instanceId => world.destroyInstance fingerprint instanceId true

def Settles (fingerprint : Key → Print) (world : CreationWorld Key Print) : Prop :=
  ∀ attempt, world.state.pendingProviderCreation = some attempt →
    attempt.credentialFingerprint = fingerprint world.state.vastApiKey →
      ∃ calls : List SettlingCall,
        (calls.foldl (settlingStep fingerprint) world).state.pendingProviderCreation = none

def Orphaned (fingerprint : Key → Print) (world : CreationWorld Key Print) : Prop :=
  ∃ attempt, world.state.pendingProviderCreation = some attempt ∧
    attempt.credentialFingerprint = fingerprint world.state.vastApiKey ∧
      attempt.confirmedInstanceId ≠ none ∧ attempt.matching (world.owned fingerprint) = []

variable {attempt : ProviderCreationAttempt Print}

theorem recover_steps [DecidableEq Key] (fingerprint : Key → Print)
    (world : CreationWorld Key Print)
    (pending : world.state.pendingProviderCreation = some attempt) :
    ((List.replicate 6 (CreationEvent.advance true 0)).foldl (creationStep fingerprint)
      { world := world }).world = world.recover fingerprint := by
  rw [CreationWorld.recover, pending, CreationWorld.owned]
  simp only [List.replicate, List.foldl_cons, List.foldl_nil, creationStep]
  by_cases credential : attempt.credentialFingerprint = fingerprint world.state.vastApiKey
  · rcases listed_now : attempt.matching (world.provider.listInstances
      (fingerprint world.state.vastApiKey)) with _ | ⟨listed, _ | ⟨second, rest⟩⟩
    all_goals
      simp [Provisioning.advance, Provisioning.move, Provisioning.save, pending, credential,
        listed_now]
  · simp [Provisioning.advance, Provisioning.move, pending, credential]

omit [DecidableEq Print] in
theorem CreationState.reconcile_pending (state : CreationState Key Print) (owned : List Nat) :
    (state.reconcile owned).pendingProviderCreation = state.pendingProviderCreation ∧
      (state.reconcile owned).vastApiKey = state.vastApiKey := by
  have kept : ∀ (ids : List Nat) (before : CreationState Key Print),
      (ids.foldl CreationState.ensureServerRecord before).pendingProviderCreation =
          before.pendingProviderCreation ∧
        (ids.foldl CreationState.ensureServerRecord before).vastApiKey = before.vastApiKey := by
    intro ids
    induction ids with
    | nil => exact fun _ => ⟨rfl, rfl⟩
    | cons id rest ih =>
        intro before
        rw [List.foldl_cons, (ih _).1, (ih _).2, CreationState.ensureServerRecord]
        split_ifs
        · exact ⟨rfl, rfl⟩
        · exact ⟨rfl, rfl⟩
  exact kept owned _

theorem Provider.listInstances_remove (provider : Provider Print) (credential : Print)
    (instanceId : Nat) :
    (provider.remove credential instanceId).listInstances credential =
      (provider.listInstances credential).filter fun listed => listed.id ≠ instanceId := by
  rw [Provider.listInstances, Provider.listInstances, Provider.remove, List.filter_filter,
    List.filter_filter]
  apply List.filter_congr
  intro listed _
  by_cases same : listed.credential = credential <;> simp [same]

namespace CreationWorld

variable (fingerprint : Key → Print) (world : CreationWorld Key Print)

theorem destroyInstance_state (instanceId : Nat) (listed : Bool) :
    (world.destroyInstance fingerprint instanceId listed).state.pendingProviderCreation =
        world.state.pendingProviderCreation ∧
      (world.destroyInstance fingerprint instanceId listed).state.vastApiKey =
        world.state.vastApiKey := by
  rw [destroyInstance]
  split_ifs
  · exact CreationState.reconcile_pending _ _
  · exact ⟨rfl, rfl⟩
  · exact ⟨rfl, rfl⟩

theorem owned_destroyInstance (instanceId : Nat) (listed : Bool) :
    (world.destroyInstance fingerprint instanceId listed).owned fingerprint =
      (world.owned fingerprint).filter fun listed => listed.id ≠ instanceId := by
  have key := (world.destroyInstance_state fingerprint instanceId listed).2
  rw [owned, key, owned, ← Provider.listInstances_remove]
  rw [destroyInstance]
  split_ifs with present
  · rfl
  · rfl
  · rw [Provider.listInstances_remove, List.filter_eq_self.mpr]
    intro other member
    rw [decide_eq_true_eq]
    intro same
    apply present
    rw [← same]
    exact List.mem_map_of_mem member

theorem destroy_all (ids : List Nat) :
    let after := (ids.map SettlingCall.destroy).foldl (settlingStep fingerprint) world
    after.state.pendingProviderCreation = world.state.pendingProviderCreation ∧
      after.state.vastApiKey = world.state.vastApiKey ∧
      after.owned fingerprint =
        (world.owned fingerprint).filter fun listed => listed.id ∉ ids := by
  induction ids generalizing world with
  | nil => simp
  | cons id rest ih =>
      obtain ⟨pending, key, left⟩ := ih (world.destroyInstance fingerprint id true)
      obtain ⟨samePending, sameKey⟩ := world.destroyInstance_state fingerprint id true
      refine ⟨pending.trans samePending, key.trans sameKey, ?_⟩
      refine left.trans ?_
      rw [owned_destroyInstance, List.filter_filter]
      apply List.filter_congr
      intro listed _
      simp [not_or, Bool.and_comm]

end CreationWorld

omit [DecidableEq Print] in
theorem ProviderCreationAttempt.matching_filter {instances : List (RentedInstance Print)}
    (none_matches : attempt.matching instances = []) (keeps : RentedInstance Print → Bool) :
    attempt.matching (instances.filter keeps) = [] := by
  rw [ProviderCreationAttempt.matching, List.filter_eq_nil_iff] at *
  intro listed member
  exact none_matches listed (List.mem_of_mem_filter member)

theorem Orphaned.call {fingerprint : Key → Print} {world : CreationWorld Key Print}
    (orphaned : Orphaned fingerprint world) (call : SettlingCall) :
    Orphaned fingerprint (settlingStep fingerprint world call) := by
  obtain ⟨attempt, pending, credential, confirmed, lost⟩ := orphaned
  cases call with
  | recover =>
      have unchanged : world.recover fingerprint = world := by
        rw [CreationWorld.recover, pending]
        simp only
        rw [if_pos credential, lost]
      rw [settlingStep, unchanged]
      exact ⟨attempt, pending, credential, confirmed, lost⟩
  | clearUnconfirmed requestId confirmedAbsent =>
      have unchanged : world.clearUnconfirmed fingerprint requestId confirmedAbsent = world := by
        rw [CreationWorld.clearUnconfirmed, pending]
        simp only
        rw [if_pos]
        exact fun accepted => confirmed accepted.2.2.2
      rw [settlingStep, unchanged]
      exact ⟨attempt, pending, credential, confirmed, lost⟩
  | destroy instanceId =>
      obtain ⟨samePending, sameKey⟩ := world.destroyInstance_state fingerprint instanceId true
      rw [settlingStep]
      refine ⟨attempt, samePending.trans pending, ?_, confirmed, ?_⟩
      · rw [sameKey]
        exact credential
      · rw [CreationWorld.owned_destroyInstance]
        exact ProviderCreationAttempt.matching_filter lost _

theorem Orphaned.not_settles {fingerprint : Key → Print} {world : CreationWorld Key Print}
    (orphaned : Orphaned fingerprint world) : ¬ Settles fingerprint world := by
  intro settles
  have stays : ∀ (calls : List SettlingCall) {before : CreationWorld Key Print},
      Orphaned fingerprint before →
        Orphaned fingerprint (calls.foldl (settlingStep fingerprint) before) := by
    intro calls
    induction calls with
    | nil => exact id
    | cons call rest ih => exact fun before => ih (before.call call)
  have always := fun calls => stays calls orphaned
  obtain ⟨attempt, pending, credential, -⟩ := orphaned
  obtain ⟨calls, settled⟩ := settles attempt pending credential
  obtain ⟨left, still, -⟩ := always calls
  rw [settled] at still
  simp at still

def CreationWorld.Distinct (world : CreationWorld Key Print) : Prop :=
  (world.provider.instances.map (·.id)).Nodup

theorem settles_matching {fingerprint : Key → Print} {world : CreationWorld Key Print}
    (distinct : world.Distinct) (pending : world.state.pendingProviderCreation = some attempt)
    (credential : attempt.credentialFingerprint = fingerprint world.state.vastApiKey)
    (some_match : attempt.matching (world.owned fingerprint) ≠ []) :
    ∃ calls : List SettlingCall,
      (calls.foldl (settlingStep fingerprint) world).state.pendingProviderCreation = none := by
  obtain ⟨kept, member⟩ := List.exists_mem_of_ne_nil _ some_match
  obtain ⟨inside, passing⟩ := List.mem_filter.mp member
  let others := ((attempt.matching (world.owned fingerprint)).map (·.id)).filter (· ≠ kept.id)
  refine ⟨others.map SettlingCall.destroy ++ [.recover], ?_⟩
  obtain ⟨samePending, sameKey, left⟩ := world.destroy_all fingerprint others
  have ids : ((world.owned fingerprint).map (·.id)).Nodup :=
    distinct.sublist (List.filter_sublist.map _)
  have only : attempt.matching ((world.owned fingerprint).filter fun listed =>
      listed.id ∉ others) = [kept] := by
    apply filter_singleton
    · exact ids.of_map.filter _
    · exact List.mem_filter.mpr ⟨inside, by simp [others]⟩
    · exact passing
    · intro other there passed
      obtain ⟨listed, unharmed⟩ := List.mem_filter.mp there
      have sameId : other.id = kept.id := by
        by_contra different
        have destroyed : other.id ∈ others :=
          List.mem_filter.mpr ⟨List.mem_map_of_mem (List.mem_filter.mpr ⟨listed, passed⟩),
            by simpa using different⟩
        simp [destroyed] at unharmed
      exact List.inj_on_of_nodup_map ids listed inside sameId
  rw [List.foldl_append, List.foldl_cons, List.foldl_nil, settlingStep, CreationWorld.recover,
    samePending, pending]
  simp only
  rw [sameKey, if_pos credential, left, only]
  rfl

theorem settles_unconfirmed {fingerprint : Key → Print} {world : CreationWorld Key Print}
    (pending : world.state.pendingProviderCreation = some attempt)
    (credential : attempt.credentialFingerprint = fingerprint world.state.vastApiKey)
    (unconfirmed : attempt.confirmedInstanceId = none)
    (no_match : attempt.matching (world.owned fingerprint) = []) :
    ∃ calls : List SettlingCall,
      (calls.foldl (settlingStep fingerprint) world).state.pendingProviderCreation = none := by
  refine ⟨[.clearUnconfirmed attempt.requestId true], ?_⟩
  have unlabelled : ¬ ∃ listed ∈ world.owned fingerprint,
      listed.label = some attempt.requestId := by
    rintro ⟨listed, member, label⟩
    have passed := List.filter_eq_nil_iff.mp no_match listed member
    simp [label] at passed
  rw [List.foldl_cons, List.foldl_nil, settlingStep, CreationWorld.clearUnconfirmed, pending]
  simp only
  rw [if_neg (by simp [credential, unconfirmed]), if_neg unlabelled,
    CreationState.rejected, pending]
  simp

section Runs

variable [DecidableEq Key] (fingerprint : Key → Print)

theorem advance_instances (system : Provisioning Key Print) (ok : Bool) (hydrated : Nat) :
    (system.advance fingerprint ok hydrated).world.provider.instances =
      system.world.provider.instances := by
  rw [Provisioning.advance]
  cases system.run with
  | idle => rfl
  | started apiKey => cases system.world.state.pendingProviderCreation <;> rfl
  | _ =>
      simp only
      split <;> (try split) <;> rfl

theorem creationStep_instances (system : Provisioning Key Print) (event : CreationEvent Key Print) :
    (creationStep fingerprint system event).world.provider.instances =
        system.world.provider.instances ∨
      ∃ added, (creationStep fingerprint system event).world.provider.instances =
          system.world.provider.instances ++ [added] ∧
        added.id ∉ system.world.provider.instances.map (·.id) := by
  cases event with
  | advance ok hydrated => exact .inl (advance_instances fingerprint system ok hydrated)
  | clearUnconfirmed id requestId confirmedAbsent =>
      left
      rw [creationStep, Provisioning.clearUnconfirmed]
      split
      · split_ifs <;> rfl
      · rfl
  | clear id ok =>
      left
      rw [creationStep, Provisioning.clear]
      split <;> (try split_ifs) <;> rfl
  | settle requestId contract =>
      rw [creationStep]
      unfold Provisioning.settle
      simp only
      split
      · rename_i contractId _
        by_cases taken : contractId ∈ system.world.provider.instances.map (·.id)
        · rw [if_pos taken]
          exact .inl rfl
        · rw [if_neg taken]
          exact .inr ⟨_, rfl, taken⟩
      · exact .inl rfl
      · exact .inl rfl
  | rentElsewhere credential instanceId =>
      rw [creationStep, Provisioning.rentElsewhere]
      split_ifs with taken
      · exact .inl rfl
      · exact .inr ⟨_, rfl, taken⟩
  | changeCredential key => exact .inl rfl
  | restart => exact .inl rfl

theorem Provider.remove_distinct {provider : Provider Print}
    (distinct : (provider.instances.map (·.id)).Nodup) (credential : Print) (instanceId : Nat) :
    ((provider.remove credential instanceId).instances.map (·.id)).Nodup :=
  distinct.sublist (List.filter_sublist.map _)

theorem distinct_reached {system : Provisioning Key Print}
    (reached : Reached (accountStep fingerprint) NothingRented (fun _ _ => True) system) :
    system.world.Distinct := by
  apply reached.invariant
  · rintro start ⟨key, servers, rfl⟩
    exact List.nodup_nil
  · intro before event _ distinct _
    cases event with
    | creation event =>
        rw [CreationWorld.Distinct, accountStep]
        rcases creationStep_instances fingerprint before event with same | ⟨added, more, fresh⟩
        · rw [same]
          exact distinct
        · rw [more, List.map_append, List.map_singleton, List.nodup_append]
          refine ⟨distinct, List.nodup_singleton _, ?_⟩
          intro id member other new same
          rw [List.mem_singleton.mp new] at same
          exact fresh (same ▸ member)
    | destroy instanceId listed =>
        rw [accountStep, CreationWorld.Distinct, CreationWorld.destroyInstance]
        split_ifs
        · exact Provider.remove_distinct distinct _ _
        · exact Provider.remove_distinct distinct _ _
        · exact distinct
    | removed credential instanceId => exact Provider.remove_distinct distinct _ _

/-- A reachable state can be settled exactly when it is not orphaned. -/
theorem pending_settles_iff {system : Provisioning Key Print}
    (reached : Reached (accountStep fingerprint) NothingRented (fun _ _ => True) system) :
    Settles fingerprint system.world ↔ ¬ Orphaned fingerprint system.world := by
  constructor
  · intro settles orphaned
    exact orphaned.not_settles settles
  · intro kept attempt pending credential
    by_cases no_match : attempt.matching (system.world.owned fingerprint) = []
    · apply settles_unconfirmed pending credential _ no_match
      by_contra confirmed
      exact kept ⟨attempt, pending, credential, confirmed, no_match⟩
    · exact settles_matching (distinct_reached fingerprint reached) pending credential no_match

end Runs

def confirmedThenRestarted : List (AccountEvent Nat Nat) :=
  [.creation (.advance true 0), .creation (.advance true 0), .creation (.advance true 0),
    .creation (.advance true 0), .creation (.advance true 0), .creation (.advance true 0),
    .creation (.settle 0 (some 7)), .creation (.advance true 0), .creation (.advance true 0),
    .creation .restart]

theorem reached_confirmed (events : List (AccountEvent Nat Nat)) :
    Reached (accountStep id) NothingRented (fun _ _ => True)
      ((confirmedThenRestarted ++ events).foldl (accountStep id) nothingRented) :=
  Reached.run (Reached.start ⟨3, [], rfl⟩) fun _ _ _ => trivial

theorem pending_settles_confirmed :
    Settles id
      ((confirmedThenRestarted ++ []).foldl (accountStep id) nothingRented).world := by
  apply (pending_settles_iff id (reached_confirmed [])).mpr
  rintro ⟨attempt, pending, -, -, lost⟩
  have saved : ((confirmedThenRestarted ++ []).foldl (accountStep id)
      nothingRented).world.state.pendingProviderCreation = some ⟨0, 3, some 7⟩ := by
    decide +kernel
  rw [saved, Option.some.injEq] at pending
  subst pending
  revert lost
  decide +kernel

/-- Neither the list nor the acknowledgement settles the creation. -/
theorem pending_orphaned :
    ¬ ∀ system : Provisioning Nat Nat,
      Reached (accountStep id) NothingRented (fun _ _ => True) system →
        Settles id system.world := by
  intro always
  have orphaned : Orphaned id
      ((confirmedThenRestarted ++ [AccountEvent.destroy 7 true]).foldl (accountStep id)
        nothingRented).world := by
    refine ⟨⟨0, 3, some 7⟩, ?_, ?_, ?_, ?_⟩ <;> decide +kernel
  exact orphaned.not_settles (always _ (reached_confirmed _))

end Noland.Desktop
