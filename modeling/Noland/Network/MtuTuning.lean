import Mathlib.Data.List.Basic

/-!
A config file is the values of its MTU lines, which are all replaced; what else stands in it no
step changes. A command to the instance replaces the lines and then sets the link; one that fails
may have done a part of that, or all of it. A write that fails may have put the new file in its
place.
-/

namespace Noland.MtuTuning

def bootstrapTunnelMtu : Nat := 1440

/-- The values of the MTU lines of a file; a value that is no number is none. -/
abbrev ConfigMtus := List (Option Nat)

structure Site where
  localConfig : ConfigMtus
  remoteConfig : ConfigMtus
  remoteLink : Nat
  deriving DecidableEq

/-- How far a command to the instance came that reports an error. -/
inductive Reached where
  | nothing
  | config
  | everything
  deriving DecidableEq

inductive Applied where
  | done
  | failed (reached : Reached)
  deriving DecidableEq

inductive Written where
  | done
  | failed (inPlace : Bool)
  deriving DecidableEq

structure Faults where
  selects : Bool := true
  readsLocal : Bool := true
  readsRemote : Bool := true
  apply : Applied := .done
  write : Written := .done
  reconnects : Bool := true
  rollbackWrite : Written := .done
  rollbackReconnects : Bool := true
  rollbackApply : Applied := .done
  deriving DecidableEq

def replaced (config : ConfigMtus) (mtu : Nat) : ConfigMtus := config.map fun _ => some mtu

def applyRemoteMtu (site : Site) (mtu : Nat) : Applied → Bool × Site
  | .done =>
      (true, { site with remoteConfig := replaced site.remoteConfig mtu, remoteLink := mtu })
  | .failed .nothing => (false, site)
  | .failed .config => (false, { site with remoteConfig := replaced site.remoteConfig mtu })
  | .failed .everything =>
      (false, { site with remoteConfig := replaced site.remoteConfig mtu, remoteLink := mtu })

def writeLocalConfigMtu (site : Site) (mtu : Nat) (written : Written) : Bool × Site :=
  if site.localConfig = [] then (false, site)
  else
    match written with
    | .done => (true, { site with localConfig := replaced site.localConfig mtu })
    | .failed true => (false, { site with localConfig := replaced site.localConfig mtu })
    | .failed false => (false, site)

/-- `read_config_mtu`, which reads the first line. -/
def readConfigMtu (config : ConfigMtus) : Option Nat := config.head?.join

def currentMtu (site : Site) (faults : Faults) : Nat :=
  if faults.readsLocal then (readConfigMtu site.localConfig).getD bootstrapTunnelMtu
  else bootstrapTunnelMtu

/-- An error comes with the results of the rollback commands that were issued. -/
inductive TuneResult where
  | ok
  | failed (rollbacks : List Bool)
  deriving DecidableEq

def rollBackRemote (site : Site) (remoteMtu selected : Nat) (applied : Applied) :
    List Bool × Site :=
  if remoteMtu ≠ selected then
    let (succeeded, site) := applyRemoteMtu site remoteMtu applied
    ([succeeded], site)
  else ([], site)

def tuneLocal (site : Site) (current remoteMtu selected : Nat) (faults : Faults) :
    TuneResult × Site :=
  if current ≠ selected then
    match writeLocalConfigMtu site selected faults.write with
    | (false, site) =>
        let (rollbacks, site) := rollBackRemote site remoteMtu selected faults.rollbackApply
        (.failed rollbacks, site)
    | (true, site) =>
        if faults.reconnects then (.ok, site)
        else
          let (written, site) := writeLocalConfigMtu site current faults.rollbackWrite
          let (rollbacks, site) := rollBackRemote site remoteMtu selected faults.rollbackApply
          (.failed ((written && faults.rollbackReconnects) :: rollbacks), site)
  else (.ok, site)

def tuneConnectedTunnel (site : Site) (selected : Nat) (faults : Faults) : TuneResult × Site :=
  if !faults.selects then (.failed [], site)
  else
    let current := currentMtu site faults
    if !faults.readsRemote then (.failed [], site)
    else
      let remoteMtu := site.remoteLink
      if remoteMtu ≠ selected then
        match applyRemoteMtu site selected faults.apply with
        | (false, site) => (.failed [], site)
        | (true, site) => tuneLocal site current remoteMtu selected faults
      else tuneLocal site current remoteMtu selected faults

def Carries (config : ConfigMtus) (mtu : Nat) : Prop :=
  config ≠ [] ∧ ∀ value ∈ config, value = some mtu

def Already (config : ConfigMtus) (mtu : Nat) : Prop := ∀ value ∈ config, value = some mtu

structure AllCarry (site : Site) (mtu : Nat) : Prop where
  localConfig : Carries site.localConfig mtu
  remoteConfig : Carries site.remoteConfig mtu
  remoteLink : site.remoteLink = mtu

def AllOrNothing (before : Site) (selected : Nat) : TuneResult × Site → Prop
  | (.ok, after) => AllCarry after selected
  | (.failed rollbacks, after) => (∀ succeeded ∈ rollbacks, succeeded = true) → after = before

theorem replaced_eq_iff (config : ConfigMtus) (mtu : Nat) :
    replaced config mtu = config ↔ Already config mtu := by
  have same : replaced config mtu = config ↔ config.map (fun _ => some mtu) = config.map id := by
    rw [List.map_id]
    rfl
  rw [same, List.map_inj_left]
  exact forall₂_congr fun _ _ => eq_comm

theorem carries_replaced (config : ConfigMtus) (mtu : Nat) :
    Carries (replaced config mtu) mtu ↔ config ≠ [] := by
  simp [Carries, replaced]

theorem replaced_replaced (config : ConfigMtus) (first second : Nat) :
    replaced (replaced config first) second = replaced config second := by
  simp [replaced]

theorem replaced_eq_nil (config : ConfigMtus) (mtu : Nat) :
    replaced config mtu = [] ↔ config = [] := by
  simp [replaced]

section Condition

variable (before : Site) (selected : Nat) (faults : Faults)

/-- The remote config has an MTU line, and has the MTU in all of them if it is not written. -/
def RemoteFits : Prop :=
  if before.remoteLink ≠ selected then before.remoteConfig ≠ []
  else Carries before.remoteConfig selected

def RemoteRolledBack : Prop := before.remoteLink ≠ selected → faults.rollbackApply = .done

/-- Taking the remote side back gives its config the MTU of the link. -/
def RemoteReturns : Prop :=
  before.remoteLink ≠ selected → Already before.remoteConfig before.remoteLink

/-- When the run is all or nothing. A first command that fails has not had an effect but on a
config with the MTU already; a config that is taken back had one value in all its lines; a local
write that fails has not put the file in place; and a config that is not written has the MTU. -/
def TuningFits : Prop :=
  faults.selects = true → faults.readsRemote = true →
    if before.remoteLink ≠ selected ∧ faults.apply ≠ .done then
      faults.apply = .failed .nothing ∨
        faults.apply = .failed .config ∧ Already before.remoteConfig selected
    else if currentMtu before faults = selected then
      Carries before.localConfig selected ∧ RemoteFits before selected
    else if before.localConfig = [] ∨ faults.write ≠ .done then
      RemoteRolledBack before selected faults → RemoteReturns before selected ∧
        (faults.write = .failed true → Already before.localConfig selected)
    else if faults.reconnects = true then RemoteFits before selected
    else
      faults.rollbackWrite = .done → faults.rollbackReconnects = true →
        RemoteRolledBack before selected faults → RemoteReturns before selected ∧
          Already before.localConfig (currentMtu before faults)

def Site.applied : Site :=
  if before.remoteLink ≠ selected then
    { before with remoteConfig := replaced before.remoteConfig selected, remoteLink := selected }
  else before

variable {before selected faults}

theorem applied_localConfig : (before.applied selected).localConfig = before.localConfig := by
  unfold Site.applied
  split <;> rfl

theorem applied_carries {localConfig : ConfigMtus} :
    AllCarry { before.applied selected with localConfig := localConfig } selected ↔
      Carries localConfig selected ∧ RemoteFits before selected := by
  unfold Site.applied RemoteFits
  split
  · constructor
    · intro carries
      exact ⟨carries.localConfig, (carries_replaced _ _).mp carries.remoteConfig⟩
    · intro fits
      exact ⟨fits.1, (carries_replaced _ _).mpr fits.2, rfl⟩
  · rename_i same
    constructor
    · exact fun carries => ⟨carries.localConfig, carries.remoteConfig⟩
    · exact fun fits => ⟨fits.1, fits.2, not_not.mp same⟩

theorem site_eq_iff (localConfig remoteConfig : ConfigMtus) (remoteLink : Nat) (site : Site) :
    { localConfig := localConfig, remoteConfig := remoteConfig, remoteLink := remoteLink } = site ↔
      localConfig = site.localConfig ∧ remoteConfig = site.remoteConfig ∧
        remoteLink = site.remoteLink := by
  cases site
  exact Site.mk.injEq .. ▸ Iff.rfl

theorem rolledBack_iff (earlier : List Bool) (localConfig : ConfigMtus) :
    AllOrNothing before selected
        (.failed (earlier ++ (rollBackRemote
            { before.applied selected with localConfig := localConfig } before.remoteLink selected
            faults.rollbackApply).1),
          (rollBackRemote { before.applied selected with localConfig := localConfig }
            before.remoteLink selected faults.rollbackApply).2) ↔
      ((∀ succeeded ∈ earlier, succeeded = true) → RemoteRolledBack before selected faults →
        RemoteReturns before selected ∧ localConfig = before.localConfig) := by
  unfold RemoteRolledBack RemoteReturns
  by_cases differs : before.remoteLink ≠ selected
  · have applied : before.applied selected = { before with
        remoteConfig := replaced before.remoteConfig selected, remoteLink := selected } :=
      if_pos differs
    rw [rollBackRemote, if_pos differs, applied]
    cases outcome : faults.rollbackApply with
    | done =>
        have results : (∀ succeeded ∈ earlier ++ [true], succeeded = true) ↔
            ∀ succeeded ∈ earlier, succeeded = true := by
          simp [or_imp]
        simp only [applyRemoteMtu, AllOrNothing, replaced_replaced, results, site_eq_iff,
          replaced_eq_iff]
        simp only [differs, ne_eq, not_false_eq_true, forall_const, and_true]
        exact imp_congr_right fun _ => and_comm
    | failed reached =>
        have refused : ∀ site, (applyRemoteMtu site before.remoteLink (.failed reached)).1 = false := by
          cases reached <;> exact fun _ => rfl
        refine iff_of_true ?_ ?_
        · intro all
          have last := all false (List.mem_append_right _ (by simp [refused]))
          cases last
        · intro _ done
          cases done differs
  · have same : before.applied selected = before := if_neg differs
    rw [rollBackRemote, if_neg differs, same, List.append_nil]
    simp only [AllOrNothing, site_eq_iff]
    simp only [differs, false_implies, forall_const, true_and, and_true]

theorem applied_eq :
    before.applied selected =
      { before.applied selected with localConfig := before.localConfig } := by
  rw [← @applied_localConfig before selected]

theorem write_cases (localConfig : ConfigMtus) (mtu : Nat) (written : Written) :
    writeLocalConfigMtu { before.applied selected with localConfig := localConfig } mtu written =
      (decide (localConfig ≠ [] ∧ written = .done),
        { before.applied selected with
          localConfig :=
            if written = .failed false then localConfig else replaced localConfig mtu }) := by
  unfold writeLocalConfigMtu
  by_cases empty : localConfig = []
  · subst empty
    simp [replaced]
  · dsimp only
    rw [if_neg empty]
    rcases written with _ | (_ | _) <;> simp [empty]

theorem unharmed (refused : before.localConfig = [] ∨ faults.write ≠ .done) :
    (if faults.write = .failed false then before.localConfig
      else replaced before.localConfig selected) = before.localConfig ↔
      (faults.write = .failed true → Already before.localConfig selected) := by
  rcases refused with empty | failed
  · rw [empty]
    refine iff_of_true ?_ fun _ => nofun
    split <;> rfl
  · cases written : faults.write with
    | done => exact absurd written failed
    | failed inPlace =>
        cases inPlace with
        | false => exact iff_of_true (if_pos rfl) nofun
        | true =>
            rw [if_neg nofun, replaced_eq_iff]
            exact ⟨fun already _ => already, fun implied => implied rfl⟩

theorem tuneLocal_iff (current : Nat) :
    AllOrNothing before selected
        (tuneLocal (before.applied selected) current before.remoteLink selected faults) ↔
      if current = selected then Carries before.localConfig selected ∧ RemoteFits before selected
      else if before.localConfig = [] ∨ faults.write ≠ .done then
        RemoteRolledBack before selected faults → RemoteReturns before selected ∧
          (faults.write = .failed true → Already before.localConfig selected)
      else if faults.reconnects = true then RemoteFits before selected
      else
        faults.rollbackWrite = .done → faults.rollbackReconnects = true →
          RemoteRolledBack before selected faults → RemoteReturns before selected ∧
            Already before.localConfig current := by
  unfold tuneLocal
  by_cases same : current = selected
  · rw [if_neg (not_not.mpr same), if_pos same, applied_eq]
    exact applied_carries
  · rw [if_pos same, if_neg same, applied_eq, write_cases]
    by_cases refused : before.localConfig = [] ∨ faults.write ≠ .done
    · have fails : ¬ (before.localConfig ≠ [] ∧ faults.write = .done) := by
        rintro ⟨nonempty, done⟩
        exact refused.elim nonempty fun failed => failed done
      rw [decide_eq_false fails, if_pos refused]
      dsimp only
      rw [← List.nil_append (rollBackRemote _ _ _ _).1, rolledBack_iff]
      simp only [List.not_mem_nil, false_implies, forall_const]
      apply imp_congr_right
      intro _
      apply and_congr_right
      intro _
      exact unharmed refused
    · have succeeds : before.localConfig ≠ [] ∧ faults.write = .done := by
        rw [not_or, not_not] at refused
        exact refused
      have inPlace : (if faults.write = .failed false then before.localConfig
          else replaced before.localConfig selected) = replaced before.localConfig selected := by
        rw [succeeds.2]
        exact if_neg nofun
      have nonempty : replaced before.localConfig selected ≠ [] := by
        rw [Ne, replaced_eq_nil]
        exact succeeds.1
      rw [decide_eq_true succeeds, if_neg refused, inPlace]
      dsimp only
      cases reconnected : faults.reconnects with
      | true =>
          rw [if_pos rfl, if_pos rfl]
          refine Iff.trans applied_carries ?_
          rw [carries_replaced]
          exact and_iff_right succeeds.1
      | false =>
          rw [if_neg nofun, if_neg nofun, write_cases]
          dsimp only
          rw [← List.singleton_append, rolledBack_iff]
          have written : decide (replaced before.localConfig selected ≠ [] ∧
              faults.rollbackWrite = .done) = decide (faults.rollbackWrite = .done) := by
            simp [nonempty]
          rw [written]
          simp only [List.mem_singleton, forall_eq, Bool.and_eq_true, decide_eq_true_eq, and_imp]
          apply imp_congr_right
          intro done
          rw [done, if_neg nofun, replaced_replaced, replaced_eq_iff]

end Condition

/-- The tuning is all or nothing exactly if the condition holds. -/
theorem tuning_all_or_nothing_iff (before : Site) (selected : Nat) (faults : Faults) :
    AllOrNothing before selected (tuneConnectedTunnel before selected faults) ↔
      TuningFits before selected faults := by
  unfold tuneConnectedTunnel TuningFits
  cases selects : faults.selects with
  | false => exact iff_of_true (fun _ => rfl) nofun
  | true =>
      cases reads : faults.readsRemote with
      | false => exact iff_of_true (fun _ => rfl) fun _ => nofun
      | true =>
          simp only [Bool.not_true, Bool.false_eq_true, if_false, forall_const]
          by_cases differs : before.remoteLink ≠ selected
          · rw [if_pos differs]
            cases outcome : faults.apply with
            | done =>
                rw [if_neg fun both => both.2 rfl, ← tuneLocal_iff]
                rw [Site.applied, if_pos differs]
                rfl
            | failed reached =>
                rw [if_pos ⟨differs, nofun⟩]
                cases reached with
                | nothing => exact iff_of_true (fun _ => rfl) (Or.inl rfl)
                | config =>
                    simp only [applyRemoteMtu, AllOrNothing, site_eq_iff, replaced_eq_iff]
                    simp
                | everything =>
                    refine iff_of_false ?_ (by simp)
                    intro undone
                    have linked := ((site_eq_iff ..).mp (undone nofun)).2.2
                    exact differs linked.symm
          · have same : before.applied selected = before := if_neg differs
            rw [if_neg differs, if_neg fun both => differs both.1, ← tuneLocal_iff, same]

/-- The reply to the command that set the MTU is lost. -/
theorem tuning_half_done : ¬ ∀ before selected faults,
    AllOrNothing before selected (tuneConnectedTunnel before selected faults) := by
  intro always
  have after := always ⟨[some 1440], [some 1440], 1440⟩ 1384 { apply := .failed .everything }
    fun succeeded member => by cases member
  revert after
  decide

end Noland.MtuTuning
