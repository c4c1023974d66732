import Mathlib.Logic.Function.Basic
import Noland.Lib.Machine
import Noland.Desktop.Instances

/-!
A reconciliation decides on a snapshot what is missing, removes configuration files without the
state lock, and applies its flags to the state of that moment. Several reconciliations and any
other updates of the state interleave between its steps.
-/

namespace Noland.Desktop

open Noland.Machine

inductive ReconcileStage where
  | listed
  | checked
  | removing (missing : MissingInstances) (left : List ServerRecord)
  | deleting (missing : MissingInstances) (record : ServerRecord) (left : List ServerRecord)
  | takingOver
  | finished

structure Reconciliation where
  providerKey : String
  owned : List VastInstance
  known : List Nat
  stage : ReconcileStage

structure Fleet where
  station : Workstation
  runs : Nat → Option Reconciliation := fun _ => none

def knownIds (state : AppState) : List Nat :=
  state.provisionedServers.map ServerRecord.instanceId ++
    state.activeInstance.instanceId.toList ++ state.postWireguardSetup.currentInstanceId.toList

namespace Fleet

def proceed (fleet : Fleet) (id : Nat) (run : Reconciliation) (stage : ReconcileStage) : Fleet :=
  { fleet with runs := Function.update fleet.runs id (some { run with stage := stage }) }

def withState (fleet : Fleet) (state : AppState) : Fleet :=
  { fleet with station := { fleet.station with state := state } }

def advance (fleet : Fleet) (id : Nat) (stopped : Bool) : Fleet :=
  match fleet.runs id with
  | none => fleet
  | some run =>
      match run.stage with
      | .listed =>
          if fleet.station.state.vastApiKey ≠ run.providerKey then
            fleet.proceed id run .finished
          else fleet.proceed id run .checked
      | .checked =>
          let missing := missingFromOwnedSet fleet.station.state (ownedIds run.owned)
          fleet.proceed id run (.removing missing missing.removedRecords)
      | .removing missing (record :: left) =>
          if record.wireguardConfigPath = [] then
            fleet.proceed id run (.removing missing left)
          else
            let station := if stopped then
                teardownLocalWireguardClient fleet.station record.wireguardConfigPath
              else fleet.station
            { fleet.proceed id run (.deleting missing record left) with station := station }
      | .deleting missing record left =>
          { fleet.proceed id run (.removing missing left) with
            station := removeLocalWireguardConfig fleet.station record.wireguardConfigPath }
      | .removing missing [] =>
          let fleet := fleet.proceed id run .takingOver
          if missing.nothing then fleet
          else fleet.withState (removeMissing missing (ownedIds run.owned) fleet.station.state)
      | .takingOver =>
          (fleet.proceed id run .finished).withState
            (takeOverInstances run.owned fleet.station.state)
      | .finished => fleet

end Fleet

inductive FleetEvent where
  /-- A list is requested with a key; `owned` is what the provider will answer. -/
  | request (id : Nat) (providerKey : String) (owned : List VastInstance)
  | advance (id : Nat) (stopped : Bool)
  | fail (id : Nat)
  | update (station : Workstation)

def fleetStep (fleet : Fleet) : FleetEvent → Fleet
  | .request id providerKey owned =>
      match fleet.runs id with
      | some _ => fleet
      | none =>
          { fleet with
            runs := Function.update fleet.runs id (some {
              providerKey := providerKey
              owned := owned
              known := knownIds fleet.station.state
              stage := .listed }) }
  | .advance id stopped => fleet.advance id stopped
  | .fail id =>
      match fleet.runs id with
      | some run => fleet.proceed id run .finished
      | none => fleet
  | .update station => { fleet with station := station }

def Reconciliation.Gone (run : Reconciliation) (instanceId : Nat) : Prop :=
  instanceId ∈ run.known ∧ instanceId ∉ ownedIds run.owned

/-- A step removes the record, the configuration and the tunnel of an instance, and clears the
active instance and its setup, only where the instance is gone. -/
structure RemovesOnlyGone (gone : Nat → Prop) (before after : Workstation) : Prop where
  record : ∀ record ∈ before.state.provisionedServers,
    (∀ other ∈ after.state.provisionedServers, other.instanceId ≠ record.instanceId) →
    gone record.instanceId
  configuration : ∀ record ∈ before.state.provisionedServers,
    record.wireguardConfigPath ∈ before.files → record.wireguardConfigPath ∉ after.files →
    gone record.instanceId
  tunnel : ∀ record ∈ before.state.provisionedServers,
    record.wireguardConfigPath ∈ before.tunnels → record.wireguardConfigPath ∉ after.tunnels →
    gone record.instanceId
  active : ∀ instanceId, before.state.activeInstance.instanceId = some instanceId →
    after.state.activeInstance.instanceId ≠ some instanceId ∨
      after.state.wireguard ≠ before.state.wireguard ∨
      after.state.moonlight ≠ before.state.moonlight ∨
      (before.state.wireguard.configPath ∈ before.files ∧
        before.state.wireguard.configPath ∉ after.files) ∨
      (before.state.wireguard.configPath ∈ before.tunnels ∧
        before.state.wireguard.configPath ∉ after.tunnels) →
    gone instanceId
  setup : ∀ instanceId, before.state.postWireguardSetup.currentInstanceId = some instanceId →
    after.state.postWireguardSetup ≠ before.state.postWireguardSetup → gone instanceId

def ReconcileStage.flags : ReconcileStage → Bool × Bool
  | .removing missing _ | .deleting missing _ _ =>
      (missing.clearActiveInstance, missing.clearPostWireguardSetup)
  | _ => (false, false)

def ReconcileStage.pending : ReconcileStage → Bool
  | .finished => false
  | _ => true

def Reconciliation.Covers (run : Reconciliation) (instanceId : Nat) : Prop :=
  instanceId ∈ ownedIds run.owned ∨ instanceId ∈ run.known

/-- Every recorded and every active instance is covered, and what is about to be cleared is not
in the list. -/
structure Fits (run : Reconciliation) (state : AppState) : Prop where
  records : ∀ record ∈ state.provisionedServers, run.Covers record.instanceId
  active : ∀ instanceId, state.activeInstance.instanceId = some instanceId →
    run.Covers instanceId ∧ (run.stage.flags.1 = true → instanceId ∉ ownedIds run.owned)
  setup : ∀ instanceId, state.postWireguardSetup.currentInstanceId = some instanceId →
    run.Covers instanceId ∧ (run.stage.flags.2 = true → instanceId ∉ ownedIds run.owned)

structure Separate (state : AppState) (record : ServerRecord) : Prop where
  records : ∀ other ∈ state.provisionedServers,
    removesFile record.wireguardConfigPath other.wireguardConfigPath = true ∨
      other.wireguardConfigPath = record.wireguardConfigPath →
    other.instanceId = record.instanceId
  active : ∀ instanceId, state.activeInstance.instanceId = some instanceId →
    removesFile record.wireguardConfigPath state.wireguard.configPath = true ∨
      state.wireguard.configPath = record.wireguardConfigPath →
    instanceId = record.instanceId

def AloneInRuntime (station : Workstation) (record : ServerRecord) : Prop :=
  ∀ tunnel ∈ station.tunnels,
    gotatunRuntimeDir tunnel = gotatunRuntimeDir record.wireguardConfigPath →
    tunnel = record.wireguardConfigPath

/-- While a reconciliation is under way, nothing records or activates an unlisted instance that
was not known before, nor switches to a listed one what is about to be cleared; and an instance
that is removed shares neither its configuration nor the tunnel that is stopped. -/
def Considerate (fleet : Fleet) : FleetEvent → Prop
  | .update station => ∀ id run, fleet.runs id = some run → run.stage.pending = true →
      Fits run station.state
  | .advance id stopped =>
      match fleet.runs id with
      | none => True
      | some run =>
          match run.stage with
          | .removing _ (record :: _) => record.wireguardConfigPath ≠ [] →
              Separate fleet.station.state record ∧
                (stopped = true → AloneInRuntime fleet.station record)
          | .deleting _ record _ =>
              record.wireguardConfigPath ≠ [] → Separate fleet.station.state record
          | .takingOver => ∀ other otherRun, other ≠ id → fleet.runs other = some otherRun →
              otherRun.stage.pending = true → ∀ listed ∈ run.owned, otherRun.Covers listed.id
          | _ => True
  | _ => True

def ReconcileStage.GoesThrough (gone : Nat → Prop) : ReconcileStage → Prop
  | .removing _ left => ∀ record ∈ left, gone record.instanceId
  | .deleting _ record left => ∀ other ∈ record :: left, gone other.instanceId
  | _ => True

structure Fitting (fleet : Fleet) : Prop where
  fits : ∀ id run, fleet.runs id = some run → run.stage.pending = true →
    Fits run fleet.station.state
  through : ∀ id run, fleet.runs id = some run → run.stage.GoesThrough run.Gone

section Steps

variable {fleet : Fleet} {run : Reconciliation} {id : Nat} {state later : AppState}

theorem Fits.of_fewer (fits : Fits run state)
    (records : ∀ record ∈ later.provisionedServers, run.Covers record.instanceId)
    (active : ∀ instanceId, later.activeInstance.instanceId = some instanceId →
      state.activeInstance.instanceId = some instanceId)
    (setup : ∀ instanceId, later.postWireguardSetup.currentInstanceId = some instanceId →
      state.postWireguardSetup.currentInstanceId = some instanceId) : Fits run later where
  records := records
  active := fun instanceId here => fits.active instanceId (active instanceId here)
  setup := fun instanceId here => fits.setup instanceId (setup instanceId here)

theorem Fits.stage (fits : Fits run state) {stage : ReconcileStage}
    (flags : stage.flags = (false, false) ∨ stage.flags = run.stage.flags) :
    Fits { run with stage := stage } state where
  records := fits.records
  active := fun instanceId here => ⟨(fits.active instanceId here).1, by
    intro flagged
    rcases flags with none | same
    · rw [none] at flagged
      cases flagged
    · rw [same] at flagged
      exact (fits.active instanceId here).2 flagged⟩
  setup := fun instanceId here => ⟨(fits.setup instanceId here).1, by
    intro flagged
    rcases flags with none | same
    · rw [none] at flagged
      cases flagged
    · rw [same] at flagged
      exact (fits.setup instanceId here).2 flagged⟩

variable {station : Workstation} {record : ServerRecord}

theorem Fitting.proceed (fitting : Fitting fleet) (here : fleet.runs id = some run)
    {stage : ReconcileStage}
    (own : stage.pending = true → Fits { run with stage := stage } station.state)
    (through : stage.GoesThrough run.Gone)
    (others : ∀ other otherRun, other ≠ id → fleet.runs other = some otherRun →
      otherRun.stage.pending = true → Fits otherRun station.state) :
    Fitting { fleet.proceed id run stage with station := station } := by
  constructor
  · intro other otherRun found pending
    by_cases same : other = id
    · subst same
      rw [show (fleet.proceed other run stage).runs other = some { run with stage := stage } from
        Function.update_self ..] at found
      cases found
      exact own pending
    · rw [show (fleet.proceed id run stage).runs other = fleet.runs other from
        Function.update_of_ne same ..] at found
      exact others other otherRun same found pending
  · intro other otherRun found
    by_cases same : other = id
    · subst same
      rw [show (fleet.proceed other run stage).runs other = some { run with stage := stage } from
        Function.update_self ..] at found
      cases found
      exact through
    · rw [show (fleet.proceed id run stage).runs other = fleet.runs other from
        Function.update_of_ne same ..] at found
      exact fitting.through other otherRun found

theorem Fitting.quiet (fitting : Fitting fleet) (here : fleet.runs id = some run)
    {stage : ReconcileStage} (same : station.state = fleet.station.state)
    (own : stage.pending = true → Fits { run with stage := stage } station.state)
    (through : stage.GoesThrough run.Gone) :
    Fitting { fleet.proceed id run stage with station := station } := by
  apply fitting.proceed here own through
  intro other otherRun _ found pending
  rw [same]
  exact fitting.fits other otherRun found pending

theorem removeMissing_records (missing : MissingInstances) (ids : List Nat) (state : AppState) :
    (removeMissing missing ids state).provisionedServers =
      state.provisionedServers.filter fun record => record.instanceId ∈ ids := by
  unfold removeMissing
  repeat' split
  all_goals rfl

theorem removeMissing_active (missing : MissingInstances) (ids : List Nat) (state : AppState) :
    (removeMissing missing ids state).activeInstance =
        (if missing.clearActiveInstance then {} else state.activeInstance) ∧
      (removeMissing missing ids state).wireguard =
        (if missing.clearActiveInstance then {} else state.wireguard) ∧
      (removeMissing missing ids state).moonlight =
        (if missing.clearActiveInstance then {} else state.moonlight) := by
  unfold removeMissing
  cases missing.clearActiveInstance <;> cases missing.clearPostWireguardSetup <;>
    exact ⟨rfl, rfl, rfl⟩

theorem removeMissing_setup (missing : MissingInstances) (ids : List Nat) (state : AppState) :
    (removeMissing missing ids state).postWireguardSetup =
      if missing.clearPostWireguardSetup then {} else state.postWireguardSetup := by
  unfold removeMissing
  cases missing.clearActiveInstance <;> cases missing.clearPostWireguardSetup <;> rfl

theorem takeOver_active (listed : VastInstance) (state : AppState) :
    (takeOverInstance state listed).activeInstance.instanceId =
      state.activeInstance.instanceId := by
  unfold takeOverInstance
  simp only
  split <;> rfl

theorem takeOverInstances_frame (owned : List VastInstance) (state : AppState) :
    (takeOverInstances owned state).activeInstance.instanceId =
        state.activeInstance.instanceId ∧
      (takeOverInstances owned state).wireguard = state.wireguard ∧
      (takeOverInstances owned state).moonlight = state.moonlight ∧
      (takeOverInstances owned state).postWireguardSetup = state.postWireguardSetup := by
  unfold takeOverInstances
  induction owned generalizing state with
  | nil => exact ⟨rfl, rfl, rfl, rfl⟩
  | cons listed rest ih =>
      obtain ⟨active, wireguard, moonlight, setup⟩ := ih (takeOverInstance state listed)
      exact ⟨active.trans (takeOver_active listed state), wireguard, moonlight, setup⟩

theorem mem_takeOverInstances {owned : List VastInstance}
    (member : record ∈ (takeOverInstances owned state).provisionedServers) :
    record ∈ state.provisionedServers ∨ record.instanceId ∈ ownedIds owned := by
  unfold takeOverInstances at member
  induction owned generalizing state with
  | nil => exact Or.inl member
  | cons listed rest ih =>
      rcases ih member with before | among
      · rcases mem_refreshFirst before with old | new
        · exact Or.inl old
        · exact Or.inr (List.mem_map.mpr ⟨listed, List.mem_cons_self .., new.symm⟩)
      · exact Or.inr (List.mem_cons_of_mem _ among)

theorem refreshFirst_ids (active : InstanceState) (listed : VastInstance)
    {records : List ServerRecord} (member : record ∈ records) :
    ∃ other ∈ refreshFirst active listed records, other.instanceId = record.instanceId := by
  induction records with
  | nil => cases member
  | cons first rest ih =>
      unfold refreshFirst
      split
      · rcases List.mem_cons.mp member with here | later
        · subst here
          exact ⟨_, List.mem_cons_self .., rfl⟩
        · exact ⟨record, List.mem_cons_of_mem _ later, rfl⟩
      · rcases List.mem_cons.mp member with here | later
        · subst here
          exact ⟨record, List.mem_cons_self .., rfl⟩
        · obtain ⟨other, found, same⟩ := ih later
          exact ⟨other, List.mem_cons_of_mem _ found, same⟩

theorem takeOverInstances_ids (owned : List VastInstance)
    (member : record ∈ state.provisionedServers) :
    ∃ other ∈ (takeOverInstances owned state).provisionedServers,
      other.instanceId = record.instanceId := by
  unfold takeOverInstances
  induction owned generalizing state record with
  | nil => exact ⟨record, member, rfl⟩
  | cons listed rest ih =>
      obtain ⟨other, found, same⟩ := refreshFirst_ids state.activeInstance listed member
      have refreshed : other ∈ (takeOverInstance state listed).provisionedServers := found
      obtain ⟨last, there, named⟩ := ih refreshed
      exact ⟨last, there, named.trans same⟩

theorem missing_flags (run : Reconciliation) (fits : Fits run state) (left : List ServerRecord) :
    Fits { run with stage := .removing (missingFromOwnedSet state (ownedIds run.owned)) left }
      state where
  records := fits.records
  active := fun instanceId here => ⟨(fits.active instanceId here).1, by
    intro flagged
    have missing : (missingFromOwnedSet state (ownedIds run.owned)).clearActiveInstance = true :=
      flagged
    simpa [missingFromOwnedSet, here] using missing⟩
  setup := fun instanceId here => ⟨(fits.setup instanceId here).1, by
    intro flagged
    have missing :
        (missingFromOwnedSet state (ownedIds run.owned)).clearPostWireguardSetup = true := flagged
    simpa [missingFromOwnedSet, here] using missing⟩

theorem missing_gone (fits : Fits run state)
    (member : record ∈ (missingFromOwnedSet state (ownedIds run.owned)).removedRecords) :
    run.Gone record.instanceId := by
  obtain ⟨recorded, absent⟩ := List.mem_filter.mp member
  have unlisted : record.instanceId ∉ ownedIds run.owned := by simpa using absent
  rcases fits.records record recorded with listed | known
  · exact absurd listed unlisted
  · exact ⟨known, unlisted⟩

theorem removeMissing_fits (missing : MissingInstances) (ids : List Nat) (fits : Fits run state) :
    Fits run (removeMissing missing ids state) := by
  apply fits.of_fewer
  · intro record member
    rw [removeMissing_records] at member
    exact fits.records record (List.mem_filter.mp member).1
  · intro instanceId here
    rw [(removeMissing_active missing ids state).1] at here
    split at here
    · cases here
    · exact here
  · intro instanceId here
    rw [removeMissing_setup] at here
    split at here
    · cases here
    · exact here

theorem takeOver_fits {owned : List VastInstance} (fits : Fits run state)
    (covered : ∀ listed ∈ owned, run.Covers listed.id) :
    Fits run (takeOverInstances owned state) := by
  obtain ⟨active, _, _, setup⟩ := takeOverInstances_frame owned state
  apply fits.of_fewer
  · intro record member
    rcases mem_takeOverInstances member with before | among
    · exact fits.records record before
    · obtain ⟨listed, found, same⟩ := List.mem_map.mp among
      exact same ▸ covered listed found
  · intro instanceId here
    rw [active] at here
    exact here
  · intro instanceId here
    rw [setup] at here
    exact here

theorem Fitting.advance {stopped : Bool} (fitting : Fitting fleet)
    (considerate : Considerate fleet (.advance id stopped)) :
    Fitting (fleet.advance id stopped) := by
  unfold Fleet.advance
  cases here : fleet.runs id with
  | none => exact fitting
  | some run =>
      have through := fitting.through id run here
      cases at_stage : run.stage with
      | listed =>
          have fits := fitting.fits id run here (by rw [at_stage]; rfl)
          simp only [at_stage]
          split
          · exact fitting.quiet here rfl nofun trivial
          · exact fitting.quiet here rfl (fun _ => fits.stage (Or.inl rfl)) trivial
      | checked =>
          have fits := fitting.fits id run here (by rw [at_stage]; rfl)
          simp only [at_stage]
          exact fitting.quiet here rfl (fun _ => missing_flags run fits _)
            fun record member => missing_gone fits member
      | removing missing left =>
          have fits := fitting.fits id run here (by rw [at_stage]; rfl)
          rw [at_stage] at through
          cases left with
          | nil =>
              simp only [at_stage]
              split
              · exact fitting.quiet here rfl (fun _ => fits.stage (Or.inl rfl)) trivial
              · apply fitting.proceed here
                · exact fun _ => removeMissing_fits _ _ (fits.stage (Or.inl rfl))
                · trivial
                · intro other otherRun _ found pending
                  exact removeMissing_fits _ _ (fitting.fits other otherRun found pending)
          | cons record left =>
              simp only [at_stage]
              split
              · exact fitting.quiet here rfl (fun _ => fits.stage (Or.inr (by rw [at_stage]; rfl)))
                  fun other member => through other (List.mem_cons_of_mem _ member)
              · refine fitting.quiet here ?_ (fun _ => ?_) through
                · split <;> rfl
                · have same : (if stopped then teardownLocalWireguardClient fleet.station
                      record.wireguardConfigPath else fleet.station).state =
                      fleet.station.state := by
                    split <;> rfl
                  rw [same]
                  exact fits.stage (Or.inr (by rw [at_stage]; rfl))
      | deleting missing record left =>
          have fits := fitting.fits id run here (by rw [at_stage]; rfl)
          rw [at_stage] at through
          simp only [at_stage]
          have same : (removeLocalWireguardConfig fleet.station record.wireguardConfigPath).state =
              fleet.station.state := by
            unfold removeLocalWireguardConfig
            split <;> rfl
          refine fitting.quiet here same (fun _ => ?_) ?_
          · rw [same]
            exact fits.stage (Or.inr (by rw [at_stage]; rfl))
          · exact fun other member => through other (List.mem_cons_of_mem _ member)
      | takingOver =>
          simp only [at_stage]
          apply fitting.proceed here
          · nofun
          · trivial
          · intro other otherRun apart found pending
            simp only [Considerate, here, at_stage] at considerate
            exact takeOver_fits (fitting.fits other otherRun found pending)
              (considerate other otherRun apart found pending)
      | finished =>
          simp only [at_stage]
          exact fitting

theorem knownIds_fits (providerKey : String) (owned : List VastInstance) (state : AppState) :
    Fits { providerKey := providerKey, owned := owned, known := knownIds state, stage := .listed }
      state where
  records := fun record member => Or.inr (by
    unfold knownIds
    exact List.mem_append_left _ (List.mem_append_left _ (List.mem_map_of_mem member)))
  active := fun instanceId here => ⟨Or.inr (by
    unfold knownIds
    rw [here]
    exact List.mem_append_left _ (List.mem_append_right _ (List.mem_singleton_self instanceId))),
    nofun⟩
  setup := fun instanceId here => ⟨Or.inr (by
    unfold knownIds
    rw [here]
    exact List.mem_append_right _ (List.mem_singleton_self instanceId)), nofun⟩

theorem Fitting.step {event : FleetEvent} (fitting : Fitting fleet)
    (considerate : Considerate fleet event) : Fitting (fleetStep fleet event) := by
  cases event with
  | request id providerKey owned =>
      cases here : fleet.runs id with
      | some run =>
          simp only [fleetStep, here]
          exact fitting
      | none =>
          simp only [fleetStep, here]
          constructor
          · intro other otherRun found pending
            by_cases same : other = id
            · subst same
              simp only [Function.update_self] at found
              cases found
              exact knownIds_fits providerKey owned fleet.station.state
            · simp only [Function.update_of_ne same] at found
              exact fitting.fits other otherRun found pending
          · intro other otherRun found
            by_cases same : other = id
            · subst same
              simp only [Function.update_self] at found
              cases found
              trivial
            · simp only [Function.update_of_ne same] at found
              exact fitting.through other otherRun found
  | advance id stopped => exact fitting.advance considerate
  | fail id =>
      cases here : fleet.runs id with
      | none =>
          simp only [fleetStep, here]
          exact fitting
      | some run =>
          simp only [fleetStep, here]
          exact fitting.quiet here rfl nofun trivial
  | update station => exact ⟨considerate, fitting.through⟩

theorem RemovesOnlyGone.of_state {gone : Nat → Prop} {before after : Workstation}
    (same : after.state = before.state)
    (records : ∀ record ∈ before.state.provisionedServers,
      record.wireguardConfigPath ∈ before.files ∧ record.wireguardConfigPath ∉ after.files ∨
        record.wireguardConfigPath ∈ before.tunnels ∧
          record.wireguardConfigPath ∉ after.tunnels → gone record.instanceId)
    (active : ∀ instanceId, before.state.activeInstance.instanceId = some instanceId →
      (before.state.wireguard.configPath ∈ before.files ∧
          before.state.wireguard.configPath ∉ after.files) ∨
        (before.state.wireguard.configPath ∈ before.tunnels ∧
          before.state.wireguard.configPath ∉ after.tunnels) → gone instanceId) :
    RemovesOnlyGone gone before after where
  record := by
    intro record member absent
    rw [same] at absent
    exact absurd rfl (absent record member)
  configuration := fun record member there lost => records record member (Or.inl ⟨there, lost⟩)
  tunnel := fun record member there lost => records record member (Or.inr ⟨there, lost⟩)
  active := by
    intro instanceId here cleared
    rw [same] at cleared
    rcases cleared with other | other | other | lost
    · exact absurd here other
    · exact absurd rfl other
    · exact absurd rfl other
    · exact active instanceId here lost
  setup := by
    intro instanceId here cleared
    rw [same] at cleared
    exact absurd rfl cleared

theorem RemovesOnlyGone.refl (gone : Nat → Prop) (station : Workstation) :
    RemovesOnlyGone gone station station :=
  .of_state rfl (by rintro record _ (⟨there, lost⟩ | ⟨there, lost⟩) <;> exact absurd there lost)
    (by rintro instanceId _ (⟨there, lost⟩ | ⟨there, lost⟩) <;> exact absurd there lost)

theorem teardown_removes {gone : Nat → Prop} (isGone : gone record.instanceId)
    (separate : Separate station.state record) (alone : AloneInRuntime station record) :
    RemovesOnlyGone gone station
      (teardownLocalWireguardClient station record.wireguardConfigPath) := by
  have stops : ∀ tunnel, tunnel ∈ station.tunnels →
      tunnel ∉ (teardownLocalWireguardClient station record.wireguardConfigPath).tunnels →
      tunnel = record.wireguardConfigPath := by
    intro tunnel there lost
    apply alone tunnel there
    simpa [teardownLocalWireguardClient, there] using lost
  refine RemovesOnlyGone.of_state rfl ?_ ?_
  · rintro other member (⟨there, lost⟩ | ⟨there, lost⟩)
    · exact absurd there lost
    · rw [separate.records other member (Or.inr (stops _ there lost))]
      exact isGone
  · rintro instanceId here (⟨there, lost⟩ | ⟨there, lost⟩)
    · exact absurd there lost
    · rw [separate.active instanceId here (Or.inr (stops _ there lost))]
      exact isGone

theorem removeConfig_removes {gone : Nat → Prop} (isGone : gone record.instanceId)
    (named : record.wireguardConfigPath ≠ []) (separate : Separate station.state record) :
    RemovesOnlyGone gone station
      (removeLocalWireguardConfig station record.wireguardConfigPath) := by
  unfold removeLocalWireguardConfig
  rw [if_neg named]
  have deletes : ∀ file, file ∈ station.files →
      file ∉ station.files.filter (fun file => !removesFile record.wireguardConfigPath file) →
      removesFile record.wireguardConfigPath file = true := by
    intro file there lost
    simpa [there] using lost
  refine RemovesOnlyGone.of_state rfl ?_ ?_
  · rintro other member (⟨there, lost⟩ | ⟨there, lost⟩)
    · rw [separate.records other member (Or.inl (deletes _ there lost))]
      exact isGone
    · exact absurd there lost
  · rintro instanceId here (⟨there, lost⟩ | ⟨there, lost⟩)
    · rw [separate.active instanceId here (Or.inl (deletes _ there lost))]
      exact isGone
    · exact absurd there lost

theorem removeMissing_removes {missing : MissingInstances} {left : List ServerRecord}
    (at_stage : run.stage = .removing missing left) (fits : Fits run station.state) :
    RemovesOnlyGone run.Gone station
      { station with state := removeMissing missing (ownedIds run.owned) station.state } where
  record := by
    intro record member absent
    rw [removeMissing_records] at absent
    have unlisted : record.instanceId ∉ ownedIds run.owned := by
      intro listed
      exact absent record (List.mem_filter.mpr ⟨member, by simpa using listed⟩) rfl
    rcases fits.records record member with listed | known
    · exact absurd listed unlisted
    · exact ⟨known, unlisted⟩
  configuration := fun _ _ there lost => absurd there lost
  tunnel := fun _ _ there lost => absurd there lost
  active := by
    intro instanceId here cleared
    obtain ⟨active, wireguard, moonlight⟩ :=
      removeMissing_active missing (ownedIds run.owned) station.state
    rw [active, wireguard, moonlight] at cleared
    obtain ⟨covered, flagged⟩ := fits.active instanceId here
    rw [at_stage] at flagged
    by_cases flag : missing.clearActiveInstance = true
    · have unlisted := flagged flag
      rcases covered with listed | known
      · exact absurd listed unlisted
      · exact ⟨known, unlisted⟩
    · rw [if_neg flag, if_neg flag, if_neg flag] at cleared
      rcases cleared with other | other | other | ⟨there, lost⟩ | ⟨there, lost⟩
      · exact absurd here other
      · exact absurd rfl other
      · exact absurd rfl other
      · exact absurd there lost
      · exact absurd there lost
  setup := by
    intro instanceId here cleared
    rw [removeMissing_setup] at cleared
    obtain ⟨covered, flagged⟩ := fits.setup instanceId here
    rw [at_stage] at flagged
    by_cases flag : missing.clearPostWireguardSetup = true
    · have unlisted := flagged flag
      rcases covered with listed | known
      · exact absurd listed unlisted
      · exact ⟨known, unlisted⟩
    · rw [if_neg flag] at cleared
      exact absurd rfl cleared

theorem takeOver_removes (gone : Nat → Prop) (station : Workstation) (owned : List VastInstance) :
    RemovesOnlyGone gone station
      { station with state := takeOverInstances owned station.state } := by
  obtain ⟨active, wireguard, moonlight, setup⟩ := takeOverInstances_frame owned station.state
  constructor
  · intro record member absent
    obtain ⟨other, found, same⟩ := takeOverInstances_ids owned member
    exact absurd same (absent other found)
  · exact fun _ _ there lost => absurd there lost
  · exact fun _ _ there lost => absurd there lost
  · intro instanceId here cleared
    rw [active, wireguard, moonlight] at cleared
    rcases cleared with other | other | other | ⟨there, lost⟩ | ⟨there, lost⟩
    · exact absurd here other
    · exact absurd rfl other
    · exact absurd rfl other
    · exact absurd there lost
    · exact absurd there lost
  · intro instanceId _ cleared
    rw [setup] at cleared
    exact absurd rfl cleared

theorem Fitting.removes {stopped : Bool} (fitting : Fitting fleet)
    (here : fleet.runs id = some run) (considerate : Considerate fleet (.advance id stopped)) :
    RemovesOnlyGone run.Gone fleet.station (fleet.advance id stopped).station := by
  unfold Fleet.advance
  simp only [Considerate, here] at considerate ⊢
  have through := fitting.through id run here
  cases at_stage : run.stage with
  | listed =>
      simp only
      split <;> exact .refl _ _
  | checked => exact .refl _ _
  | removing missing left =>
      have fits := fitting.fits id run here (by rw [at_stage]; rfl)
      cases left with
      | nil =>
          simp only
          split
          · exact .refl _ _
          · exact removeMissing_removes at_stage fits
      | cons record left =>
          rw [at_stage] at through considerate
          simp only
          split
          · exact .refl _ _
          · next named =>
            cases stopped with
            | false => exact .refl _ _
            | true =>
                obtain ⟨separate, alone⟩ := considerate named
                exact teardown_removes (through record (List.mem_cons_self ..)) separate
                  (alone rfl)
  | deleting missing record left =>
      rw [at_stage] at through considerate
      simp only
      by_cases named : record.wireguardConfigPath = []
      · rw [removeLocalWireguardConfig, if_pos named]
        exact .refl _ _
      · exact removeConfig_removes (through record (List.mem_cons_self ..)) named
          (considerate named)
  | takingOver => exact takeOver_removes _ _ _
  | finished => exact .refl _ _

theorem reached_fitting
    (reached : Reached fleetStep (fun fleet => fleet = { station := station }) Considerate fleet) :
    Fitting fleet := by
  apply reached.invariant
  · rintro _ rfl
    exact ⟨nofun, nofun⟩
  · exact fun fleet event _ fitting met => fitting.step met

end Steps

/-- As long as nothing records or activates an unlisted instance while its reconciliation is
under way, a reconciliation removes and clears only what was known when its list was requested
and is absent from it. -/
theorem reconciliation_removes_gone {station : Workstation} {fleet : Fleet}
    (reached : Reached fleetStep (fun fleet => fleet = { station := station }) Considerate fleet)
    {id : Nat} {run : Reconciliation} (here : fleet.runs id = some run) {stopped : Bool}
    (considerate : Considerate fleet (.advance id stopped)) :
    RemovesOnlyGone run.Gone fleet.station (fleetStep fleet (.advance id stopped)).station :=
  (reached_fitting reached).removes here considerate

namespace OwnedInstancesSample

def record (id : Nat) : ServerRecord where
  instanceId := id
  status := "running"
  wireguardConfigPath := ["app", "wireguard", toString id, "noland.conf"]

def path (id : Nat) : ConfigPath := (record id).wireguardConfigPath

def station (recorded : List Nat) (active : Nat) : Workstation where
  state := {
    vastApiKey := "key"
    provisionedServers := recorded.map record
    activeInstance := { instanceId := some active, status := "running" }
    wireguard := { configPath := path active } }
  files := recorded.map path
  tunnels := [path active]

def listed (id : Nat) : VastInstance := { id := id, status := "running" }

def after (start : Workstation) (events : List FleetEvent) : Fleet :=
  events.foldl fleetStep { station := start }

def rented : List FleetEvent :=
  [.request 0 "key" [listed 7], .update (station [7, 9] 9), .advance 0 true, .advance 0 true,
    .advance 0 true, .advance 0 true]

def switched : List FleetEvent :=
  [.request 0 "key" [listed 8], .advance 0 true, .advance 0 true, .advance 0 true, .advance 0 true,
    .update (station [7, 8] 8)]

def snapshot : List FleetEvent :=
  [.request 0 "key" [listed 8], .advance 0 true, .advance 0 true]

def undisturbed : List FleetEvent :=
  [.request 0 "key" [listed 8], .advance 0 true, .advance 0 true, .advance 0 true, .advance 0 true]

def rentedRun : Reconciliation where
  providerKey := "key"
  owned := [listed 7]
  known := [7, 7]
  stage := .removing (missingFromOwnedSet (station [7, 9] 9).state [7]) []

def switchedRun : Reconciliation where
  providerKey := "key"
  owned := [listed 8]
  known := [7, 8, 7]
  stage := .removing (missingFromOwnedSet (station [7, 8] 7).state [8]) []

def snapshotRun : Reconciliation where
  providerKey := "key"
  owned := [listed 8]
  known := [7, 8, 8]
  stage := .removing (missingFromOwnedSet (station [7, 8] 8).state [8]) [record 7]

end OwnedInstancesSample

open OwnedInstancesSample in
/-- A fresh rental is removed, an active instance of the list is cleared, and the tunnel of an
instance of the list is stopped for a missing one. -/
theorem fresh_instances_removed :
    ((after (station [7] 7) rented).runs 0 = some rentedRun ∧
      ¬ RemovesOnlyGone rentedRun.Gone (after (station [7] 7) rented).station
        (fleetStep (after (station [7] 7) rented) (.advance 0 true)).station) ∧
    ((after (station [7, 8] 7) switched).runs 0 = some switchedRun ∧
      ¬ RemovesOnlyGone switchedRun.Gone (after (station [7, 8] 7) switched).station
        (fleetStep (after (station [7, 8] 7) switched) (.advance 0 true)).station) ∧
    ((after (station [7, 8] 8) snapshot).runs 0 = some snapshotRun ∧
      ¬ RemovesOnlyGone snapshotRun.Gone (after (station [7, 8] 8) snapshot).station
        (fleetStep (after (station [7, 8] 8) snapshot) (.advance 0 true)).station) := by
  refine ⟨⟨rfl, fun removes => ?_⟩, ⟨rfl, fun removes => ?_⟩, ⟨rfl, fun removes => ?_⟩⟩
  · have lost : ∀ other ∈ (fleetStep (after (station [7] 7) rented)
        (.advance 0 true)).station.state.provisionedServers, other.instanceId ≠ 9 := by decide
    have gone := removes.record (record 9) (by decide) lost
    exact absurd gone.1 (by decide)
  · have gone := removes.active 8 rfl (Or.inl (by decide))
    exact absurd gone.2 (by decide)
  · have gone := removes.tunnel (record 8) (by decide) (by decide) (by decide)
    exact absurd gone.2 (by decide)

open OwnedInstancesSample in
theorem reconciliation_removes_gone_undisturbed :
    RemovesOnlyGone switchedRun.Gone (after (station [7, 8] 7) undisturbed).station
      (fleetStep (after (station [7, 8] 7) undisturbed) (.advance 0 true)).station := by
  have apart : Separate (station [7, 8] 7).state (record 7) := by
    constructor
    · decide
    · intro instanceId here _
      cases here
      rfl
  have alone : AloneInRuntime (station [7, 8] 7) (record 7) := by
    unfold AloneInRuntime
    decide
  have considerate : Along fleetStep Considerate { station := station [7, 8] 7 } undisturbed :=
    ⟨trivial, trivial, trivial, fun _ => ⟨apart, fun _ => alone⟩, fun _ => apart, trivial⟩
  have starts : Reached fleetStep (fun fleet => fleet = { station := station [7, 8] 7 })
      Considerate { station := station [7, 8] 7 } := .start rfl
  exact reconciliation_removes_gone (starts.along considerate) rfl trivial

end Noland.Desktop
