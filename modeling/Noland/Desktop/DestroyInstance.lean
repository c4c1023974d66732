import Noland.Desktop.OwnedInstances

/-!
The provider destroys the instance, its tunnel is stopped, and the local state is brought in line
with the list of the instances that are left. The backup, the spend ledger and the feedback
checkpoint touch nothing that is modelled here.
-/

namespace Noland.Desktop

structure DestroyFaults where
  backup : Bool := false
  destroy : Bool := false
  saveLedger : Bool := false
  stop : Bool := false
  listing : Option (List VastInstance)
  stopMissing : ServerRecord → Bool := fun _ => false
  removeMissing : ServerRecord → Bool := fun _ => false
  saveRemoval : Bool := false
  saveTakeOver : Bool := false
  stopAgain : Bool := false
  remove : Bool := false
  saveCleanup : Bool := false

def removeConfigs (faults : DestroyFaults) :
    List ServerRecord → Workstation → Bool × Workstation
  | [], station => (true, station)
  | record :: rest, station =>
      if record.wireguardConfigPath = [] then removeConfigs faults rest station
      else
        let station := if faults.stopMissing record then station
          else teardownLocalWireguardClient station record.wireguardConfigPath
        if faults.removeMissing record then (false, station)
        else
          removeConfigs faults rest
            (removeLocalWireguardConfig station record.wireguardConfigPath)

/-- `reconcile_owned_instances` with nothing in between; the flag says whether it succeeded. -/
def reconcileOwnedInstances (faults : DestroyFaults) (owned : List VastInstance)
    (providerKey : String) (station : Workstation) : Bool × Workstation :=
  if station.state.vastApiKey ≠ providerKey then (false, station)
  else
    let missing := missingFromOwnedSet station.state (ownedIds owned)
    match removeConfigs faults missing.removedRecords station with
    | (false, station) => (false, station)
    | (true, station) =>
        if missing.nothing = false ∧ faults.saveRemoval = true then (false, station)
        else
          let station := if missing.nothing then station
            else { station with state := removeMissing missing (ownedIds owned) station.state }
          if faults.saveTakeOver then (false, station)
          else (true, { station with state := takeOverInstances owned station.state })

def destroyedPath (state : AppState) (instanceId : Nat) : ConfigPath :=
  let recordPath := match state.provisionedServers.find? (·.instanceId = instanceId) with
    | some record => record.wireguardConfigPath
    | none => []
  if recordPath ≠ [] then recordPath else state.wireguard.configPath

def cleanUpDestroyed (instanceId : Nat) (clearActive : Bool) (state : AppState) : AppState :=
  let state := { state with activeInstance := {} }
  let state := if clearActive then
      { state with wireguard := {}, moonlight := { state.moonlight with hostAddress := "" } }
    else state
  { state with
    provisionedServers := state.provisionedServers.filter fun record =>
      record.instanceId ≠ instanceId }

def cleanUp (faults : DestroyFaults) (instanceId : Nat) (path : ConfigPath) (clearActive : Bool)
    (station : Workstation) : Bool × Workstation :=
  let station := if path = [] ∨ faults.stopAgain = true then station
    else teardownLocalWireguardClient station path
  if path ≠ [] ∧ faults.remove = true then (false, station)
  else
    let station := removeLocalWireguardConfig station path
    if faults.saveCleanup then (true, station)
    else (true, { station with state := cleanUpDestroyed instanceId clearActive station.state })

def destroyInstance (faults : DestroyFaults) (station : Workstation) (instanceId : Nat) :
    Bool × Workstation :=
  if faults.backup then (false, station)
  else
    let path := destroyedPath station.state instanceId
    let clearActive := decide (path ≠ [] ∧ path = station.state.wireguard.configPath)
    let apiKey := station.state.vastApiKey
    if trimmed apiKey = "" then (false, station)
    else if faults.destroy then (false, station)
    else if faults.saveLedger then (false, station)
    else
      let station := if path = [] ∨ faults.stop = true then station
        else teardownLocalWireguardClient station path
      match faults.listing with
      | some owned => reconcileOwnedInstances faults owned apiKey station
      | none => cleanUp faults instanceId path clearActive station

def Spared (faults : DestroyFaults) (instanceId other : Nat) : Prop :=
  other ≠ instanceId ∧ ∀ owned, faults.listing = some owned → other ∈ ownedIds owned

inductive Refreshed (active : InstanceState) (owned : List VastInstance) :
    ServerRecord → ServerRecord → Prop where
  | same (record : ServerRecord) : Refreshed active owned record record
  | refresh {record later : ServerRecord} (before : Refreshed active owned record later)
      (listed : VastInstance) (member : listed ∈ owned) (named : listed.id = record.instanceId) :
      Refreshed active owned record (refreshRecord active listed later)

/-- The configurations that the destruction goes for: that of the instance, and those of the
instances that the list does not have. -/
def GoesFor (faults : DestroyFaults) (instanceId : Nat) (state : AppState)
    (path : ConfigPath) : Prop :=
  path ≠ [] ∧ (path = destroyedPath state instanceId ∨
    ∃ owned, faults.listing = some owned ∧ ∃ record ∈ state.provisionedServers,
      record.instanceId ∉ ownedIds owned ∧ record.wireguardConfigPath = path)

def OtherRuntime (faults : DestroyFaults) (instanceId : Nat) (state : AppState)
    (path : ConfigPath) : Prop :=
  ∀ removed, GoesFor faults instanceId state removed →
    gotatunRuntimeDir removed ≠ gotatunRuntimeDir path

/-- What an instance that is spared keeps: its record, but for what the list says, its
configuration, and its tunnel where that has a runtime of its own. -/
structure SparesRecords (spared : Nat → Prop) (otherRuntime : ConfigPath → Prop)
    (owned : List VastInstance) (before after : Workstation) : Prop where
  record : ∀ record ∈ before.state.provisionedServers, spared record.instanceId →
    ∃ later ∈ after.state.provisionedServers,
      Refreshed before.state.activeInstance owned record later
  configuration : ∀ record ∈ before.state.provisionedServers, spared record.instanceId →
    (record.wireguardConfigPath ∈ after.files ↔ record.wireguardConfigPath ∈ before.files)
  tunnel : ∀ record ∈ before.state.provisionedServers, spared record.instanceId →
    otherRuntime record.wireguardConfigPath →
    (record.wireguardConfigPath ∈ after.tunnels ↔ record.wireguardConfigPath ∈ before.tunnels)

structure SparesTunnel (otherRuntime : ConfigPath → Prop) (before after : Workstation) :
    Prop where
  wireguard : after.state.wireguard = before.state.wireguard
  moonlight : after.state.moonlight = before.state.moonlight
  configuration : before.state.wireguard.configPath ∈ after.files ↔
    before.state.wireguard.configPath ∈ before.files
  tunnel : otherRuntime before.state.wireguard.configPath →
    (before.state.wireguard.configPath ∈ after.tunnels ↔
      before.state.wireguard.configPath ∈ before.tunnels)

structure SparesActive (owned : List VastInstance) (before after : AppState) : Prop where
  state : after.activeInstance =
    { before.activeInstance with machineId := after.activeInstance.machineId }
  machine : after.activeInstance.machineId = before.activeInstance.machineId ∨
    ∃ listed ∈ owned, before.activeInstance.instanceId = some listed.id ∧
      after.activeInstance.machineId = listed.machineId
  offer : after.selectedOffer = before.selectedOffer
  orchestration : after.orchestrationState = before.orchestrationState

inductive PathAspect where
  | file
  | tunnel

def PathAspect.Holds (path : ConfigPath) (station : Workstation) : PathAspect → Prop
  | .file => path ∈ station.files
  | .tunnel => path ∈ station.tunnels

def PathAspect.Apart (removed path : ConfigPath) : PathAspect → Prop
  | .file => removesFile removed path = false
  | .tunnel => gotatunRuntimeDir removed ≠ gotatunRuntimeDir path

def LeavesPath (aspect : PathAspect) (path : ConfigPath) (before after : Workstation) : Prop :=
  aspect.Holds path after ↔ aspect.Holds path before

section Paths

variable {aspect : PathAspect} {path removed : ConfigPath} {before between after station : Workstation}

theorem LeavesPath.refl (aspect : PathAspect) (path : ConfigPath) (station : Workstation) :
    LeavesPath aspect path station station :=
  Iff.rfl

theorem LeavesPath.trans (first : LeavesPath aspect path before between)
    (second : LeavesPath aspect path between after) : LeavesPath aspect path before after :=
  Iff.trans second first

theorem teardown_leaves (apart : aspect.Apart removed path) :
    LeavesPath aspect path station (teardownLocalWireguardClient station removed) := by
  cases aspect with
  | file => exact Iff.rfl
  | tunnel =>
      have other : gotatunRuntimeDir path ≠ gotatunRuntimeDir removed := Ne.symm apart
      simp [LeavesPath, PathAspect.Holds, teardownLocalWireguardClient, other]

theorem removeConfig_leaves (apart : aspect.Apart removed path) :
    LeavesPath aspect path station (removeLocalWireguardConfig station removed) := by
  unfold removeLocalWireguardConfig
  split
  · exact .refl _ _ _
  · cases aspect with
    | file =>
        have kept : removesFile removed path = false := apart
        simp [LeavesPath, PathAspect.Holds, kept]
    | tunnel => exact Iff.rfl

theorem stopped_leaves {unstopped : Prop} [Decidable unstopped]
    (apart : ¬ unstopped → aspect.Apart removed path) :
    LeavesPath aspect path station
      (if unstopped then station else teardownLocalWireguardClient station removed) := by
  split
  · exact .refl _ _ _
  · next goes => exact teardown_leaves (apart goes)

theorem removeConfigs_leaves (faults : DestroyFaults) {records : List ServerRecord}
    (apart : ∀ record ∈ records, record.wireguardConfigPath ≠ [] →
      aspect.Apart record.wireguardConfigPath path) :
    LeavesPath aspect path station (removeConfigs faults records station).2 := by
  induction records generalizing station with
  | nil => exact .refl _ _ _
  | cons record rest ih =>
      have later : ∀ other ∈ rest, other.wireguardConfigPath ≠ [] →
          aspect.Apart other.wireguardConfigPath path :=
        fun other member => apart other (List.mem_cons_of_mem _ member)
      unfold removeConfigs
      split
      · exact ih later
      · next named =>
        have here := apart record (List.mem_cons_self ..) named
        have stops : LeavesPath aspect path station
            (if faults.stopMissing record then station
              else teardownLocalWireguardClient station record.wireguardConfigPath) :=
          stopped_leaves fun _ => here
        dsimp only
        by_cases fails : faults.removeMissing record = true
        · rw [if_pos fails]
          exact stops
        · rw [if_neg fails]
          exact (stops.trans (removeConfig_leaves here)).trans (ih later)

end Paths

def missingFromList (state : AppState) (owned : List VastInstance) : MissingInstances :=
  missingFromOwnedSet state (ownedIds owned)

inductive LocalOutcome (faults : DestroyFaults) (instanceId : Nat) (state : AppState) :
    AppState → Prop where
  | untouched : LocalOutcome faults instanceId state state
  | removed (owned : List VastInstance) (listing : faults.listing = some owned) :
      LocalOutcome faults instanceId state
        (removeMissing (missingFromList state owned) (ownedIds owned) state)
  | takenOver (owned : List VastInstance) (listing : faults.listing = some owned) :
      LocalOutcome faults instanceId state
        (takeOverInstances owned
          (removeMissing (missingFromList state owned) (ownedIds owned) state))
  | cleanedUp (listing : faults.listing = none) :
      LocalOutcome faults instanceId state
        (cleanUpDestroyed instanceId (decide (destroyedPath state instanceId ≠ [] ∧
          destroyedPath state instanceId = state.wireguard.configPath)) state)

/-- No configuration that the destruction goes for reaches the file, or the tunnel, of the path. -/
def Unreached (faults : DestroyFaults) (instanceId : Nat) (state : AppState)
    (aspect : PathAspect) (path : ConfigPath) : Prop :=
  ∀ removed, GoesFor faults instanceId state removed → aspect.Apart removed path

/-- Files and tunnels go first, and the state changes once they are gone. -/
structure Outcome (faults : DestroyFaults) (instanceId : Nat) (before after : Workstation) :
    Prop where
  leaves : ∀ aspect path, Unreached faults instanceId before.state aspect path →
    LeavesPath aspect path before after
  state : LocalOutcome faults instanceId before.state after.state

section Outcomes

variable {faults : DestroyFaults} {instanceId : Nat} {station between : Workstation}

variable {state : AppState} {owned : List VastInstance}

theorem removeMissing_nothing {ids : List Nat}
    (nothing : (missingFromOwnedSet state ids).nothing = true) :
    removeMissing (missingFromOwnedSet state ids) ids state = state := by
  simp only [MissingInstances.nothing, Bool.and_eq_true, Bool.not_eq_true'] at nothing
  obtain ⟨⟨removed, active⟩, setup⟩ := nothing
  have kept : (state.provisionedServers.filter fun record => record.instanceId ∈ ids) =
      state.provisionedServers := by
    apply List.filter_eq_self.mpr
    intro record member
    have none := List.isEmpty_iff.mp removed
    simp only [missingFromOwnedSet, List.filter_eq_nil_iff] at none
    simpa using none record member
  unfold removeMissing
  rw [active, setup, kept]
  rfl

theorem Outcome.untouched
    (leaves : ∀ aspect path, Unreached faults instanceId station.state aspect path →
      LeavesPath aspect path station between) (same : between.state = station.state) :
    Outcome faults instanceId station between where
  leaves := leaves
  state := same ▸ .untouched

theorem Outcome.withState
    (leaves : ∀ aspect path, Unreached faults instanceId station.state aspect path →
      LeavesPath aspect path station between)
    (outcome : LocalOutcome faults instanceId station.state state) :
    Outcome faults instanceId station { between with state := state } where
  leaves := by
    intro aspect path unreached
    have kept := leaves aspect path unreached
    cases aspect <;> exact kept
  state := outcome

theorem removeConfigs_state (faults : DestroyFaults) (records : List ServerRecord)
    (station : Workstation) : (removeConfigs faults records station).2.state = station.state := by
  induction records generalizing station with
  | nil => rfl
  | cons record rest ih =>
      have torn : (if faults.stopMissing record then station
          else teardownLocalWireguardClient station record.wireguardConfigPath).state =
          station.state := by
        split <;> rfl
      have deleted : ∀ station : Workstation,
          (removeLocalWireguardConfig station record.wireguardConfigPath).state =
            station.state := by
        intro station
        unfold removeLocalWireguardConfig
        split <;> rfl
      unfold removeConfigs
      split
      · exact ih station
      · dsimp only
        by_cases fails : faults.removeMissing record = true
        · rw [if_pos fails]
          exact torn
        · rw [if_neg fails, ih, deleted, torn]

theorem reconcile_outcome (listing : faults.listing = some owned)
    (same : between.state = station.state)
    (leaves : ∀ aspect path, Unreached faults instanceId station.state aspect path →
      LeavesPath aspect path station between) (providerKey : String) :
    Outcome faults instanceId station
      (reconcileOwnedInstances faults owned providerKey between).2 := by
  unfold reconcileOwnedInstances
  split
  · exact .untouched leaves same
  · rw [same]
    have removal : ∀ aspect path, Unreached faults instanceId station.state aspect path →
        LeavesPath aspect path station (removeConfigs faults
          (missingFromOwnedSet station.state (ownedIds owned)).removedRecords between).2 := by
      intro aspect path unreached
      apply (leaves aspect path unreached).trans
      apply removeConfigs_leaves
      intro record member named
      obtain ⟨recorded, absent⟩ := List.mem_filter.mp member
      exact unreached _ ⟨named, Or.inr ⟨owned, listing, record, recorded, by simpa using absent, rfl⟩⟩
    have kept := removeConfigs_state faults
      (missingFromOwnedSet station.state (ownedIds owned)).removedRecords between
    rw [same] at kept
    dsimp only
    split
    · next later removed =>
      rw [removed] at removal kept
      exact .untouched removal kept
    · next later removed =>
      rw [removed] at removal kept
      dsimp only at removal kept
      have updated : (if (missingFromOwnedSet station.state (ownedIds owned)).nothing = true
          then later
          else { later with
            state := removeMissing (missingFromOwnedSet station.state (ownedIds owned))
              (ownedIds owned) later.state }) =
          { later with
            state := removeMissing (missingFromList station.state owned)
              (ownedIds owned) station.state } := by
        split
        · next nothing =>
          unfold missingFromList
          rw [removeMissing_nothing nothing, ← kept]
        · rw [kept]
          rfl
      by_cases unsaved :
          (missingFromOwnedSet station.state (ownedIds owned)).nothing = false ∧
            faults.saveRemoval = true
      · rw [if_pos unsaved]
        exact .untouched removal kept
      · rw [if_neg unsaved, updated]
        split
        · exact .withState removal (.removed owned listing)
        · exact .withState removal (.takenOver owned listing)

theorem removeConfig_state (station : Workstation) (path : ConfigPath) :
    (removeLocalWireguardConfig station path).state = station.state := by
  unfold removeLocalWireguardConfig
  split <;> rfl

theorem cleanUp_outcome (listing : faults.listing = none) (same : between.state = station.state)
    (leaves : ∀ aspect path, Unreached faults instanceId station.state aspect path →
      LeavesPath aspect path station between) :
    Outcome faults instanceId station
      (cleanUp faults instanceId (destroyedPath station.state instanceId)
        (decide (destroyedPath station.state instanceId ≠ [] ∧
          destroyedPath station.state instanceId = station.state.wireguard.configPath))
        between).2 := by
  have stopped : ∀ aspect path, Unreached faults instanceId station.state aspect path →
      LeavesPath aspect path station
        (if destroyedPath station.state instanceId = [] ∨ faults.stopAgain = true then between
          else teardownLocalWireguardClient between
            (destroyedPath station.state instanceId)) := by
    intro aspect path unreached
    apply (leaves aspect path unreached).trans
    apply stopped_leaves
    exact fun goes => unreached _ ⟨fun blank => goes (Or.inl blank), Or.inl rfl⟩
  have kept : (if destroyedPath station.state instanceId = [] ∨ faults.stopAgain = true
      then between
      else teardownLocalWireguardClient between
        (destroyedPath station.state instanceId)).state = station.state := by
    split
    · exact same
    · exact same
  have removed : ∀ aspect path, Unreached faults instanceId station.state aspect path →
      LeavesPath aspect path station
        (removeLocalWireguardConfig
          (if destroyedPath station.state instanceId = [] ∨ faults.stopAgain = true then between
            else teardownLocalWireguardClient between (destroyedPath station.state instanceId))
          (destroyedPath station.state instanceId)) := by
    intro aspect path unreached
    apply (stopped aspect path unreached).trans
    by_cases blank : destroyedPath station.state instanceId = []
    · rw [removeLocalWireguardConfig, if_pos blank]
      exact .refl _ _ _
    · exact removeConfig_leaves (unreached _ ⟨blank, Or.inl rfl⟩)
  unfold cleanUp
  dsimp only
  by_cases unremoved : destroyedPath station.state instanceId ≠ [] ∧ faults.remove = true
  · rw [if_pos unremoved]
    exact .untouched stopped kept
  · rw [if_neg unremoved]
    have after := (removeConfig_state _ (destroyedPath station.state instanceId)).trans kept
    split
    · exact .untouched removed after
    · rw [after]
      exact .withState removed (.cleanedUp listing)

theorem destroyInstance_outcome (faults : DestroyFaults) (station : Workstation)
    (instanceId : Nat) :
    Outcome faults instanceId station (destroyInstance faults station instanceId).2 := by
  have idle : Outcome faults instanceId station station :=
    .untouched (fun aspect path _ => .refl aspect path station) rfl
  have stopped : ∀ aspect path, Unreached faults instanceId station.state aspect path →
      LeavesPath aspect path station
        (if destroyedPath station.state instanceId = [] ∨ faults.stop = true then station
          else teardownLocalWireguardClient station
            (destroyedPath station.state instanceId)) := by
    intro aspect path unreached
    apply stopped_leaves
    exact fun goes => unreached _ ⟨fun blank => goes (Or.inl blank), Or.inl rfl⟩
  have kept : (if destroyedPath station.state instanceId = [] ∨ faults.stop = true then station
      else teardownLocalWireguardClient station
        (destroyedPath station.state instanceId)).state = station.state := by
    split <;> rfl
  unfold destroyInstance
  split
  · exact idle
  · dsimp only
    split
    · exact idle
    · split
      · exact idle
      · split
        · exact idle
        · split
          · next owned listing => exact reconcile_outcome listing kept stopped _
          · next listing => exact cleanUp_outcome listing kept stopped

theorem Refreshed.named {active : InstanceState} {record later : ServerRecord}
    (refreshed : Refreshed active owned record later) : later.instanceId = record.instanceId := by
  induction refreshed with
  | same => rfl
  | refresh before listed member named ih => exact ih

theorem refreshFirst_mem (active : InstanceState) (listed : VastInstance)
    {records : List ServerRecord} {record : ServerRecord} (member : record ∈ records) :
    record ∈ refreshFirst active listed records ∨
      record.instanceId = listed.id ∧
        refreshRecord active listed record ∈ refreshFirst active listed records := by
  induction records with
  | nil => cases member
  | cons first rest ih =>
      unfold refreshFirst
      rcases List.mem_cons.mp member with here | later
      · subst here
        split
        · next named => exact Or.inr ⟨named, List.mem_cons_self ..⟩
        · exact Or.inl (List.mem_cons_self ..)
      · split
        · exact Or.inl (List.mem_cons_of_mem _ later)
        · rcases ih later with kept | ⟨named, found⟩
          · exact Or.inl (List.mem_cons_of_mem _ kept)
          · exact Or.inr ⟨named, List.mem_cons_of_mem _ found⟩

theorem refreshRecord_active {active other : InstanceState} {listed : VastInstance}
    (same : active.instanceId = some listed.id ↔ other.instanceId = some listed.id)
    (offer : other.instanceId = some listed.id → active.offerId = other.offerId)
    (record : ServerRecord) :
    refreshRecord active listed record = refreshRecord other listed record := by
  have chosen : (if active.instanceId = some listed.id then active.offerId.or record.offerId
      else record.offerId) =
      if other.instanceId = some listed.id then other.offerId.or record.offerId
      else record.offerId := by
    by_cases here : other.instanceId = some listed.id
    · rw [if_pos here, if_pos (same.mpr here), offer here]
    · rw [if_neg here, if_neg fun there => here (same.mp there)]
  unfold refreshRecord
  rw [chosen]

def SameOffers (owned : List VastInstance) (active other : InstanceState) : Prop :=
  ∀ listed ∈ owned, (active.instanceId = some listed.id ↔ other.instanceId = some listed.id) ∧
    (other.instanceId = some listed.id → active.offerId = other.offerId)

theorem takeOver_offer (listed : VastInstance) (state : AppState) :
    (takeOverInstance state listed).activeInstance.offerId = state.activeInstance.offerId := by
  unfold takeOverInstance
  dsimp only
  split <;> rfl

theorem takeOverInstances_refreshed {owned all : List VastInstance} {active : InstanceState}
    (within : ∀ listed ∈ owned, listed ∈ all)
    (offers : SameOffers all state.activeInstance active) {record later : ServerRecord}
    (member : later ∈ state.provisionedServers) (refreshed : Refreshed active all record later) :
    ∃ last ∈ (takeOverInstances owned state).provisionedServers,
      Refreshed active all record last := by
  unfold takeOverInstances
  induction owned generalizing state later with
  | nil => exact ⟨later, member, refreshed⟩
  | cons listed rest ih =>
      have listedIn := within listed (List.mem_cons_self ..)
      have offersLater : SameOffers all (takeOverInstance state listed).activeInstance active := by
        intro other there
        rw [takeOver_active, takeOver_offer]
        exact offers other there
      have restIn : ∀ other ∈ rest, other ∈ all :=
        fun other there => within other (List.mem_cons_of_mem _ there)
      rw [List.foldl_cons]
      rcases refreshFirst_mem state.activeInstance listed member with kept | ⟨named, found⟩
      · exact ih restIn offersLater kept refreshed
      · rw [refreshRecord_active (offers listed listedIn).1 (offers listed listedIn).2] at found
        exact ih restIn offersLater found
          (refreshed.refresh listed listedIn (named.symm.trans refreshed.named))

theorem takeOverInstances_active {owned all : List VastInstance} {before : AppState}
    (within : ∀ listed ∈ owned, listed ∈ all) (spared : SparesActive all before state) :
    SparesActive all before (takeOverInstances owned state) := by
  unfold takeOverInstances
  induction owned generalizing state with
  | nil => exact spared
  | cons listed rest ih =>
      rw [List.foldl_cons]
      apply ih fun other there => within other (List.mem_cons_of_mem _ there)
      have named : state.activeInstance.instanceId = before.activeInstance.instanceId := by
        rw [spared.state]
      unfold takeOverInstance
      refine ⟨?_, ?_, spared.offer, spared.orchestration⟩
      · dsimp only
        split
        · rw [spared.state]
        · exact spared.state
      · dsimp only
        split
        · next here =>
          exact Or.inr ⟨listed, within listed (List.mem_cons_self ..), named ▸ here.1, rfl⟩
        · exact spared.machine

theorem localOutcome_record {state later : AppState}
    (outcome : LocalOutcome faults instanceId state later) {record : ServerRecord}
    (member : record ∈ state.provisionedServers)
    (spared : Spared faults instanceId record.instanceId) :
    ∃ last ∈ later.provisionedServers,
      Refreshed state.activeInstance (faults.listing.getD []) record last := by
  cases outcome with
  | untouched => exact ⟨record, member, .same record⟩
  | removed owned listing =>
      refine ⟨record, ?_, .same record⟩
      rw [removeMissing_records]
      exact List.mem_filter.mpr ⟨member, by simpa using spared.2 owned listing⟩
  | takenOver owned listing =>
      rw [listing, Option.getD_some]
      apply takeOverInstances_refreshed (fun _ here => here) _ _ (.same record)
      · intro listed there
        rw [(removeMissing_active _ _ state).1]
        split
        · -- The active instance is missing, so none of the listed ones is it.
          next cleared =>
          have absent : state.activeInstance.instanceId ≠ some listed.id := by
            intro here
            have known : listed.id ∈ ownedIds owned := List.mem_map_of_mem there
            simp [missingFromList, missingFromOwnedSet, here, known] at cleared
          refine ⟨⟨?_, fun here => absurd here absent⟩, fun here => absurd here absent⟩
          intro cleared
          cases cleared
        · exact ⟨Iff.rfl, fun _ => rfl⟩
      · rw [removeMissing_records]
        exact List.mem_filter.mpr ⟨member, by simpa using spared.2 owned listing⟩
  | cleanedUp listing =>
      refine ⟨record, ?_, .same record⟩
      have kept : record ∈ state.provisionedServers.filter fun record =>
          record.instanceId ≠ instanceId :=
        List.mem_filter.mpr ⟨member, by simpa using spared.1⟩
      unfold cleanUpDestroyed
      split <;> exact kept

theorem active_not_cleared {active : Nat} (here : state.activeInstance.instanceId = some active)
    (listed : active ∈ ownedIds owned) :
    (missingFromList state owned).clearActiveInstance = false := by
  simp [missingFromList, missingFromOwnedSet, here, listed]

theorem removeMissing_spares {missing : MissingInstances} {ids : List Nat}
    (kept : missing.clearActiveInstance = false) (owned : List VastInstance) :
    SparesActive owned state (removeMissing missing ids state) := by
  obtain ⟨active, _, _⟩ := removeMissing_active missing ids state
  rw [kept, if_neg (by decide)] at active
  have others : (removeMissing missing ids state).selectedOffer = state.selectedOffer ∧
      (removeMissing missing ids state).orchestrationState = state.orchestrationState := by
    unfold removeMissing
    rw [kept]
    cases missing.clearPostWireguardSetup <;> exact ⟨rfl, rfl⟩
  exact ⟨by rw [active], Or.inl (by rw [active]), others.1, others.2⟩

theorem localOutcome_active {state later : AppState}
    (outcome : LocalOutcome faults instanceId state later) {active : Nat}
    (here : state.activeInstance.instanceId = some active)
    (spared : Spared faults instanceId active) (listing : faults.listing = some owned) :
    SparesActive owned state later := by
  cases outcome with
  | untouched => exact ⟨rfl, Or.inl rfl, rfl, rfl⟩
  | removed other there =>
      exact removeMissing_spares (active_not_cleared here (spared.2 other there)) owned
  | takenOver other there =>
      rw [listing] at there
      cases there
      exact takeOverInstances_active (fun _ there => there)
        (removeMissing_spares (active_not_cleared here (spared.2 owned listing)) owned)
  | cleanedUp there =>
      rw [listing] at there
      cases there

theorem localOutcome_tunnel {state later : AppState}
    (outcome : LocalOutcome faults instanceId state later) {active : Nat}
    (here : state.activeInstance.instanceId = some active)
    (spared : Spared faults instanceId active)
    (elsewhere : destroyedPath state instanceId ≠ [] →
      destroyedPath state instanceId ≠ state.wireguard.configPath) :
    later.wireguard = state.wireguard ∧ later.moonlight = state.moonlight := by
  have removal : ∀ owned, faults.listing = some owned →
      (removeMissing (missingFromList state owned) (ownedIds owned) state).wireguard =
          state.wireguard ∧
        (removeMissing (missingFromList state owned) (ownedIds owned) state).moonlight =
          state.moonlight := by
    intro owned listing
    obtain ⟨_, wireguard, moonlight⟩ :=
      removeMissing_active (missingFromList state owned) (ownedIds owned) state
    rw [active_not_cleared here (spared.2 owned listing), if_neg (by decide)]
      at wireguard moonlight
    exact ⟨wireguard, moonlight⟩
  cases outcome with
  | untouched => exact ⟨rfl, rfl⟩
  | removed owned listing => exact removal owned listing
  | takenOver owned listing =>
      obtain ⟨_, wireguard, moonlight, _⟩ := takeOverInstances_frame owned
        (removeMissing (missingFromList state owned) (ownedIds owned) state)
      exact ⟨wireguard.trans (removal owned listing).1, moonlight.trans (removal owned listing).2⟩
  | cleanedUp listing =>
      have kept : decide (destroyedPath state instanceId ≠ [] ∧
          destroyedPath state instanceId = state.wireguard.configPath) = false :=
        decide_eq_false fun both => elsewhere both.1 both.2
      rw [kept]
      exact ⟨rfl, rfl⟩

/-- The first record of the instance names a configuration, or none is active. -/
def OwnPath (state : AppState) (instanceId : Nat) : Prop :=
  state.wireguard.configPath ≠ [] →
    ∃ record, state.provisionedServers.find? (·.instanceId = instanceId) = some record ∧
      record.wireguardConfigPath ≠ []

theorem destroyedPath_own (own : OwnPath state instanceId)
    (named : destroyedPath state instanceId ≠ []) :
    ∃ record ∈ state.provisionedServers, record.instanceId = instanceId ∧
      record.wireguardConfigPath = destroyedPath state instanceId := by
  unfold destroyedPath at named ⊢
  cases found : state.provisionedServers.find? (·.instanceId = instanceId) with
  | none =>
      rw [found] at named
      obtain ⟨record, other, _⟩ := own named
      rw [found] at other
      cases other
  | some record =>
      have member := List.mem_of_find?_eq_some found
      have same := List.find?_some found
      refine ⟨record, member, by simpa using same, ?_⟩
      dsimp only
      by_cases blank : record.wireguardConfigPath = []
      · rw [found] at named
        simp only [blank, ne_eq, not_true_eq_false, if_false] at named
        obtain ⟨other, again, filled⟩ := own named
        rw [found] at again
        cases again
        exact absurd blank filled
      · rw [if_pos blank]

/-- No instance shares its configuration or its directory with another. -/
def AllSeparate (state : AppState) : Prop :=
  ∀ record ∈ state.provisionedServers, record.wireguardConfigPath ≠ [] → Separate state record

theorem Separate.apart {record other : ServerRecord} (separate : Separate state record)
    (member : other ∈ state.provisionedServers) (different : other.instanceId ≠ record.instanceId) :
    removesFile record.wireguardConfigPath other.wireguardConfigPath = false := by
  apply Bool.eq_false_iff.mpr
  exact fun reached => different (separate.records other member (Or.inl reached))

theorem Separate.apart_active {record : ServerRecord} (separate : Separate state record)
    {active : Nat} (here : state.activeInstance.instanceId = some active)
    (different : active ≠ record.instanceId) :
    removesFile record.wireguardConfigPath state.wireguard.configPath = false ∧
      state.wireguard.configPath ≠ record.wireguardConfigPath := by
  constructor
  · apply Bool.eq_false_iff.mpr
    exact fun reached => different (separate.active active here (Or.inl reached))
  · exact fun same => different (separate.active active here (Or.inr same))

theorem goesFor_record {removed : ConfigPath} {other : Nat} (own : OwnPath state instanceId)
    (spared : Spared faults instanceId other) (goes : GoesFor faults instanceId state removed) :
    ∃ record ∈ state.provisionedServers, record.wireguardConfigPath ≠ [] ∧
      record.wireguardConfigPath = removed ∧ other ≠ record.instanceId := by
  obtain ⟨named, rfl | ⟨owned, listing, record, member, absent, rfl⟩⟩ := goes
  · obtain ⟨record, member, same, here⟩ := destroyedPath_own own named
    exact ⟨record, member, here ▸ named, here, same ▸ spared.1⟩
  · exact ⟨record, member, named, rfl, fun same => absent (same ▸ spared.2 owned listing)⟩

end Outcomes

/-- Destroying an instance with a configuration of its own spares every other one that the list
still has: records, configurations, with a list the active instance, and tunnels where no other
one is under their WireGuard root. Up to the destruction itself nothing changes. -/
theorem destroyInstance_spares (faults : DestroyFaults) (station : Workstation)
    (instanceId : Nat) (own : OwnPath station.state instanceId)
    (separate : AllSeparate station.state) :
    SparesRecords (Spared faults instanceId) (OtherRuntime faults instanceId station.state)
        (faults.listing.getD []) station (destroyInstance faults station instanceId).2 ∧
      (∀ active, station.state.activeInstance.instanceId = some active →
        Spared faults instanceId active →
        SparesTunnel (OtherRuntime faults instanceId station.state) station
            (destroyInstance faults station instanceId).2 ∧
          ∀ owned, faults.listing = some owned →
            SparesActive owned station.state
              (destroyInstance faults station instanceId).2.state) ∧
      (faults.backup = true ∨ trimmed station.state.vastApiKey = "" ∨ faults.destroy = true ∨
          faults.saveLedger = true →
        (destroyInstance faults station instanceId).2 = station) := by
  have outcome := destroyInstance_outcome faults station instanceId
  refine ⟨⟨?_, ?_, ?_⟩, ?_, ?_⟩
  · intro record member spared
    exact localOutcome_record outcome.state member spared
  · intro record member spared
    apply outcome.leaves .file
    intro removed goes
    obtain ⟨other, there, named, rfl, different⟩ := goesFor_record own spared goes
    exact (separate other there named).apart member different
  · intro record member spared alone
    exact outcome.leaves .tunnel _ alone
  · intro active here spared
    have files : Unreached faults instanceId station.state .file
        station.state.wireguard.configPath := by
      intro removed goes
      obtain ⟨other, there, named, rfl, different⟩ := goesFor_record own spared goes
      exact ((separate other there named).apart_active here different).1
    have elsewhere : destroyedPath station.state instanceId ≠ [] →
        destroyedPath station.state instanceId ≠ station.state.wireguard.configPath := by
      intro named same
      obtain ⟨other, there, filled, path, different⟩ :=
        goesFor_record own spared (⟨named, Or.inl rfl⟩ : GoesFor faults instanceId station.state _)
      exact ((separate other there filled).apart_active here different).2 (same.symm.trans path.symm)
    obtain ⟨wireguard, moonlight⟩ := localOutcome_tunnel outcome.state here spared elsewhere
    refine ⟨⟨wireguard, moonlight, outcome.leaves .file _ files, outcome.leaves .tunnel _⟩, ?_⟩
    exact fun owned listing => localOutcome_active outcome.state here spared listing
  · intro early
    unfold destroyInstance
    dsimp only
    rcases early with backup | key | destroy | ledger
    · rw [if_pos backup]
    · rw [if_pos key]
      split <;> rfl
    · rw [if_pos destroy]
      split
      · rfl
      · split <;> rfl
    · rw [if_pos ledger]
      split
      · rfl
      · split
        · rfl
        · split <;> rfl

namespace DestroySample

open OwnedInstancesSample

def both : Workstation := station [7, 8] 8

def after (faults : DestroyFaults) (start : Workstation) : Workstation :=
  (destroyInstance faults start 7).2

def exited : List VastInstance := [{ id := 8, status := "exited" }]

def shared : Workstation where
  state := {
    vastApiKey := "key"
    provisionedServers := [record 8, { record 8 with instanceId := 7 }]
    activeInstance := { instanceId := some 8, status := "running" }
    wireguard := { configPath := path 8 } }
  files := [path 8]
  tunnels := [path 8]

end DestroySample

open OwnedInstancesSample DestroySample in
/-- The list refreshes a record and takes away one that it lacks; an instance with a configuration
of its own, one without a record, or one that shares its file, takes the active tunnel with it;
and without a list the active instance is cleared. -/
theorem others_not_intact :
    record 8 ∉ (after { listing := some exited } both).state.provisionedServers ∧
    both.tunnels = [path 8] ∧ (after { listing := some exited } both).tunnels = [] ∧
    (after { listing := some [] } both).state.provisionedServers = [] ∧
    (after { listing := some [OwnedInstancesSample.listed 8] } (station [8] 8)).tunnels = [] ∧
    (after { listing := some [OwnedInstancesSample.listed 8] } shared).tunnels = [] ∧
    (after { listing := none } both).state.activeInstance = {} := by
  decide +kernel

open OwnedInstancesSample DestroySample in
theorem destroyInstance_spares_active :
    SparesTunnel (OtherRuntime { listing := some exited } 7 both.state) both
        (after { listing := some exited } both) ∧
      SparesActive exited both.state (after { listing := some exited } both).state := by
  have own : OwnPath both.state 7 := fun _ => ⟨record 7, rfl, by decide⟩
  have separate : AllSeparate both.state := by
    intro one member _
    constructor
    · revert one
      decide
    · intro active here
      cases here
      revert one
      decide
  have spared : Spared { listing := some exited } 7 8 := by
    refine ⟨by decide, ?_⟩
    intro owned listing
    cases listing
    decide
  have kept := (destroyInstance_spares { listing := some exited } both 7 own separate).2.1 8 rfl
    spared
  exact ⟨kept.1, kept.2 exited rfl⟩

end Noland.Desktop
