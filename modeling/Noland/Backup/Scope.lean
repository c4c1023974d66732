import Noland.Backup.Evidence

/-!
`run_backup` up to the choice of what it looks at, and what comes after it. A personal backup
chooses by its parent and by the flags, the pending mutations and the dirty paths of the app.
-/

namespace Noland.Backup

open Noland.Core Noland.StateDb Noland.Requests

inductive BackupScope where
  /-- Nothing is looked at; the parent stands. -/
  | upToDate (manifest : BundleManifest)
  | selected (pending : List AppMutationRecord) (parent : Option Parent)
      (candidates : List Candidate)

def scopeOf (call : BackupCall) (dirty : Option DirtyState) (pending : List AppMutationRecord)
    (parent : Option Parent) : AgentProg BackupScope :=
  match upToDate call dirty pending parent with
  | some manifest => .done (.upToDate manifest)
  | none => do
      let requires ← requiresReconciliation call dirty
      reconcile call requires
      let candidates ← gatherCandidates call parent.isSome requires dirty pending
      .done (.selected pending parent candidates)

def backupScope (call : BackupCall) (load : AgentProg (Option Parent)) :
    AgentProg BackupScope := do
  ask .persistOperation
  let dirty ← ask (.dirtyState call.appId)
  let pending ← ask (.pendingMutations call.appId mutationLimit)
  let _ ← ask (.listDirtyRoots call.appId)
  let parent ← load
  scopeOf call dirty pending parent

def finishScope (call : BackupCall) : BackupScope → AgentProg BundleManifest
  | .upToDate manifest => do
      ask .persistOperation
      .done manifest
  | .selected pending parent candidates => planAndCommit call pending parent candidates

theorem scopeOf_bind (call : BackupCall) (dirty : Option DirtyState)
    (pending : List AppMutationRecord) (parent : Option Parent) :
    (scopeOf call dirty pending parent >>= finishScope call) =
      match upToDate call dirty pending parent with
      | some manifest => (do
          ask .persistOperation
          .done manifest)
      | none => (do
          let requires ← requiresReconciliation call dirty
          reconcile call requires
          let candidates ← gatherCandidates call parent.isSome requires dirty pending
          planAndCommit call pending parent candidates) := by
  unfold scopeOf
  cases upToDate call dirty pending parent with
  | some manifest => rfl
  | none =>
      refine (Prog.bind_assoc _ _ _).trans (congrArg _ (funext fun requires => ?_))
      refine (Prog.bind_assoc _ _ _).trans (congrArg _ (funext fun _ => ?_))
      exact Prog.bind_assoc _ _ _

theorem runBackup_eq_scope (call : BackupCall) :
    runBackup call = backupScope call (loadParent call) >>= finishScope call := by
  symm
  unfold backupScope runBackup continueBackup
  iterate 5
    refine (Prog.bind_assoc _ _ _).trans (congrArg _ (funext fun _ => ?_))
  exact scopeOf_bind call _ _ _

def BackupScope.Considers (path : String) : BackupScope → Prop
  | .upToDate _ => False
  | .selected _ _ candidates => ∃ candidate ∈ candidates, candidate.canonical = path

structure SameEvidence (before after : Agent) : Prop where
  mutations : after.mutations = before.mutations
  dirtyApps : after.dirtyApps = before.dirtyApps
  dirtyPaths : after.dirtyPaths = before.dirtyPaths
  dirtyRoots : after.dirtyRoots = before.dirtyRoots
  paths : after.paths = before.paths
  associations : after.associations = before.associations
  weather : after.weather = before.weather

theorem SameEvidence.refl (agent : Agent) : SameEvidence agent agent :=
  ⟨rfl, rfl, rfl, rfl, rfl, rfl, rfl⟩

theorem SameEvidence.trans {first second third : Agent} (one : SameEvidence first second)
    (two : SameEvidence second third) : SameEvidence first third :=
  ⟨two.mutations.trans one.mutations, two.dirtyApps.trans one.dirtyApps,
    two.dirtyPaths.trans one.dirtyPaths, two.dirtyRoots.trans one.dirtyRoots,
    two.paths.trans one.paths, two.associations.trans one.associations,
    two.weather.trans one.weather⟩

def dirtyStateOf (agent : Agent) (appId : AppId) : Option DirtyState :=
  (agent.dirtyApps.find? fun row => row.appId = appId).map fun row =>
    ⟨(agent.dirtyPaths.filter fun path => path.1 = appId).map Prod.snd, row.requiresReconciliation⟩

def reconciliationDue (agent : Agent) (appId : AppId) : Bool :=
  (dirtyStateOf agent appId).any DirtyState.requiresReconciliation ||
    (agent.dirtyRoots.filter fun row => row.appId = appId).any
      DirtyRootRecord.requiresReconciliation

def evidenceRecords (agent : Agent) (appId : AppId) : List PathRecord :=
  (pendingAppMutations agent.mutations appId mutationLimit).filterMap (fun mutation =>
    agent.paths.find? fun record => record.canonicalPath = mutation.path) ++
  (((dirtyStateOf agent appId).map DirtyState.dirtyPaths).getD []).filterMap fun pathId =>
    agent.paths.find? fun record => record.pathId = pathId

def evidenceCandidates (call : BackupCall) (agent : Agent) : List Candidate :=
  (evidenceRecords agent call.appId).filterMap (candidateOf call
    (agent.associations.filter fun association =>
      association.pathId ∈ (evidenceRecords agent call.appId).map PathRecord.pathId))

def seemsClean (call : BackupCall) (parent : Option Parent) (agent : Agent) : Prop :=
  parent.isSome ∧ dirtyStateOf agent call.appId = none ∧
    pendingAppMutations agent.mutations call.appId mutationLimit = []

def looksEverywhere (call : BackupCall) (parent : Option Parent) (agent : Agent) : Prop :=
  parent = none ∨ call.performance = .full ∨
    reconciliationDue agent call.appId = true ∨
      ((dirtyStateOf agent call.appId).isSome ∧ evidenceCandidates call agent = [])

def namedByEvidence (call : BackupCall) (agent : Agent) (path : String) : Prop :=
  ∃ candidate ∈ evidenceCandidates call agent, candidate.canonical = path

/-- The path has a row and the app a likely association with it. The table of
paths numbers its rows by path. -/
structure StillTracked (number : String → Nat) (appId : AppId) (path : String) (agent : Agent) :
    Prop where
  numbered : ∀ record ∈ agent.paths, record.pathId = number record.canonicalPath
  stored : ∃ record ∈ agent.paths, record.canonicalPath = path
  likely : ∃ association ∈ agent.associations,
    association.appId = appId ∧ association.likely = true ∧ association.pathId = number path

/-- What a later walk stores and the classifier decides keeps the path tracked,
and it is not the manifest of a Steam app. -/
structure Undisturbed (number : String → Nat) (appId : AppId) (path : String)
    (weather : Weather) : Prop where
  distinct : ∀ other, number other = number path → other = path
  numbered : ∀ steps, ∀ entry ∈ weather.walked steps,
    entry.record.pathId = number entry.record.canonicalPath ∧
      entry.association.pathId = entry.record.pathId
  likely : ∀ steps, ∀ entry ∈ weather.walked steps, entry.record.canonicalPath = path →
    entry.association.likely = true
  classified : ∀ steps rows,
    (∃ association ∈ rows, association.appId = appId ∧ association.likely = true ∧
      association.pathId = number path) →
    ∃ association ∈ weather.reclassified steps rows, association.appId = appId ∧
      association.likely = true ∧ association.pathId = number path
  kept : ∀ steps rows, ∀ association ∈ rows, ∃ row ∈ weather.reclassified steps rows,
    row.appId = association.appId ∧ row.pathId = association.pathId
  steam : ∀ steps, ∀ candidate ∈ weather.steamManifest steps,
    candidate.record.pathId = number candidate.record.canonicalPath ∧
      candidate.association.pathId = candidate.record.pathId
  noManifest : ∀ steps, ∀ candidate ∈ weather.steamManifest steps, candidate.canonical ≠ path

section Evaluation

variable {agent : Agent} {call : BackupCall}

theorem settle_evidence (agent : Agent) : SameEvidence agent agent.settle :=
  ⟨rfl, rfl, rfl, rfl, rfl, rfl, rfl⟩

theorem returns_ask {Value : Type} {op : AgentOp} {value : op.Ret} {f : op.Ret → AgentProg Value}
    {post : Value → Agent → Prop} (answered : agent.settle.answer op = .ok value)
    (rest : Returns agentHandler (f value) (agent.settle.after op) post) :
    Returns agentHandler (ask op >>= f) agent post := by
  obtain ⟨found, later, evaluated, holds⟩ := rest
  refine ⟨found, later, ?_, holds⟩
  have replied : (ask op).eval agentHandler agent = (.ok value, agent.settle.after op) := by
    rw [← answered]
    exact eval_perform agentHandler op agent
  rw [eval_bind, replied]
  exact evaluated

theorem ite_cases {Program : Type} (property : Program → Prop) {condition : Prop}
    [Decidable condition] {yes no : Program} (holds : condition → property yes)
    (fails : ¬ condition → property no) : property (if condition then yes else no) := by
  split
  · exact holds (by assumption)
  · exact fails (by assumption)

theorem names_insertCandidate {path : String} (candidates : List Candidate) (added : Candidate) :
    (∃ candidate ∈ insertCandidate candidates added, candidate.canonical = path) ↔
      added.canonical = path ∨ ∃ candidate ∈ candidates, candidate.canonical = path := by
  induction candidates with
  | nil => simp [insertCandidate]
  | cons first rest ih =>
      unfold insertCandidate
      split
      · simp
      · split
        · rename_i same
          simp [← same]
        · simp only [List.exists_mem_cons_iff, ih]
          exact or_left_comm

theorem names_insertCandidates {path : String} (rows candidates : List Candidate) :
    (∃ candidate ∈ rows.foldl insertCandidate candidates, candidate.canonical = path) ↔
      (∃ row ∈ rows, row.canonical = path) ∨
        ∃ candidate ∈ candidates, candidate.canonical = path := by
  induction rows generalizing candidates with
  | nil => simp
  | cons row rest ih =>
      rw [List.foldl_cons, ih, names_insertCandidate, List.exists_mem_cons_iff, or_left_comm,
        or_assoc]

theorem insertCandidates_eq_nil {rows : List Candidate} :
    rows.foldl insertCandidate [] = [] ↔ rows = [] := by
  constructor
  · intro empty
    by_contra nonempty
    obtain ⟨row, member⟩ := List.exists_mem_of_ne_nil rows nonempty
    have named := (names_insertCandidates rows []).mpr (Or.inl ⟨row, member, rfl⟩)
    rw [empty] at named
    simp at named
  · rintro rfl
    rfl

theorem recordByPath_returns (wanted : List String) :
    Returns agentHandler (recordByPath wanted) agent fun records later =>
      records = wanted.filterMap (fun path =>
        agent.paths.find? fun record => record.canonicalPath = path) ∧
      SameEvidence agent later := by
  induction wanted generalizing agent with
  | nil => exact Returns.done ⟨rfl, SameEvidence.refl agent⟩
  | cons path rest ih =>
      unfold recordByPath
      apply returns_ask rfl
      apply Returns.bind (@ih agent.settle)
      rintro others later ⟨rfl, same⟩
      refine Returns.done ⟨?_, (settle_evidence agent).trans same⟩
      rw [List.filterMap_cons]
      show (agent.paths.find? fun record => record.canonicalPath = path).toList ++ _ = _
      cases agent.paths.find? fun record => record.canonicalPath = path with
      | none => rfl
      | some record => rfl

theorem recordById_returns (wanted : List Nat) :
    Returns agentHandler (recordById wanted) agent fun records later =>
      records = wanted.filterMap (fun pathId =>
        agent.paths.find? fun record => record.pathId = pathId) ∧
      SameEvidence agent later := by
  induction wanted generalizing agent with
  | nil => exact Returns.done ⟨rfl, SameEvidence.refl agent⟩
  | cons pathId rest ih =>
      unfold recordById
      apply returns_ask rfl
      apply Returns.bind (@ih agent.settle)
      rintro others later ⟨rfl, same⟩
      refine Returns.done ⟨?_, (settle_evidence agent).trans same⟩
      rw [List.filterMap_cons]
      show (agent.paths.find? fun record => record.pathId = pathId).toList ++ _ = _
      cases agent.paths.find? fun record => record.pathId = pathId with
      | none => rfl
      | some record => rfl

theorem StillTracked.of_same {number : String → Nat} {appId : AppId} {path : String}
    {before after : Agent} (tracked : StillTracked number appId path before)
    (same : SameEvidence before after) : StillTracked number appId path after := by
  constructor
  · rw [same.paths]
    exact tracked.numbered
  · rw [same.paths]
    exact tracked.stored
  · rw [same.associations]
    exact tracked.likely

theorem StillTracked.listed {number : String → Nat} {path : String}
    (distinct : ∀ other, number other = number path → other = path)
    (tracked : StillTracked number call.appId path agent) :
    ∃ row ∈ agent.candidatesOf (fun association =>
      association.appId = call.appId && association.likely), row.canonical = path := by
  obtain ⟨association, member, owner, likely, numbered⟩ := tracked.likely
  obtain ⟨stored, inside, named⟩ := tracked.stored
  have known : (agent.paths.find? fun record =>
      record.pathId = association.pathId).isSome := by
    apply List.find?_isSome.mpr
    refine ⟨stored, inside, ?_⟩
    rw [tracked.numbered stored inside, named, numbered]
    exact decide_eq_true rfl
  obtain ⟨record, found⟩ := Option.isSome_iff_exists.mp known
  have same : record.pathId = association.pathId := by simpa using List.find?_some found
  rw [tracked.numbered record (List.mem_of_find?_eq_some found), numbered] at same
  refine ⟨⟨record, association⟩, ?_, distinct _ same⟩
  apply List.mem_filterMap.mpr
  refine ⟨association, List.mem_filter.mpr ⟨member, by simp [owner, likely]⟩, ?_⟩
  rw [found]
  rfl

theorem StillTracked.indexScanned {number : String → Nat} {path : String} {weather : Weather}
    {steps : Nat} {entry : ScanEntry} {appId : AppId}
    (calm : Undisturbed number appId path weather) (walked : entry ∈ weather.walked steps)
    (tracked : StillTracked number appId path agent) :
    StillTracked number appId path (agent.indexScanned appId entry) := by
  have numbers := calm.numbered steps entry walked
  constructor
  · intro record member
    rcases List.mem_append.mp member with old | new
    · exact tracked.numbered record (List.mem_filter.mp old).1
    · rw [List.mem_singleton.mp new]
      exact numbers.1
  · obtain ⟨record, member, named⟩ := tracked.stored
    by_cases same : entry.record.canonicalPath = path
    · exact ⟨entry.record, List.mem_append_right _ (List.mem_singleton_self _), same⟩
    · refine ⟨record, List.mem_append_left _ (List.mem_filter.mpr ⟨member, ?_⟩), named⟩
      rw [named]
      exact decide_eq_true (Ne.symm same)
  · obtain ⟨association, member, owner, likely, numbered⟩ := tracked.likely
    by_cases same : association.appId ≠ entry.association.appId ∨
        association.pathId ≠ entry.association.pathId
    · exact ⟨association,
        List.mem_append_left _ (List.mem_filter.mpr ⟨member, decide_eq_true same⟩), owner, likely,
        numbered⟩
    · push Not at same
      have named : entry.record.canonicalPath = path := by
        apply calm.distinct
        rw [← numbers.1, ← numbers.2, ← same.2, numbered]
      exact ⟨entry.association, List.mem_append_right _ (List.mem_singleton_self _),
        same.1.symm.trans owner, calm.likely steps entry walked named, same.2.symm.trans numbered⟩

section Later

variable {start : Agent} {path : String} {number : String → Nat}
  (same : SameEvidence start agent)
include same

theorem orLikely_returns (distinct : ∀ other, number other = number path → other = path)
    (tracked : StillTracked number call.appId path start) :
    Returns agentHandler (orLikelyCandidates call (dirtyStateOf start call.appId)
        ((evidenceCandidates call start).foldl insertCandidate [])) agent
      fun candidates later => SameEvidence start later ∧
        ((∃ candidate ∈ candidates, candidate.canonical = path) ↔
          ((dirtyStateOf start call.appId).isSome ∧ evidenceCandidates call start = []) ∨
            namedByEvidence call start path) := by
  unfold orLikelyCandidates
  split
  · rename_i whole
    apply returns_ask rfl
    refine Returns.done ⟨same.trans (settle_evidence agent), ?_⟩
    have likely := (tracked.of_same (same.trans (settle_evidence agent))).listed distinct
    constructor
    · intro _
      exact Or.inl ⟨whole.2, insertCandidates_eq_nil.mp whole.1⟩
    · intro _
      exact (names_insertCandidates _ []).mpr (Or.inl likely)
  · rename_i partly
    refine Returns.done ⟨same, ?_⟩
    rw [names_insertCandidates]
    constructor
    · rintro (named | none)
      · exact Or.inr named
      · simp at none
    · rintro (⟨dirty, empty⟩ | named)
      · exact absurd ⟨insertCandidates_eq_nil.mpr empty, dirty⟩ partly
      · exact Or.inl named

theorem changedCandidates_returns (distinct : ∀ other, number other = number path → other = path)
    (tracked : StillTracked number call.appId path start) :
    Returns agentHandler (changedCandidates call (dirtyStateOf start call.appId)
        (pendingAppMutations start.mutations call.appId mutationLimit)) agent
      fun candidates later => SameEvidence start later ∧
        ((∃ candidate ∈ candidates, candidate.canonical = path) ↔
          ((dirtyStateOf start call.appId).isSome ∧ evidenceCandidates call start = []) ∨
            namedByEvidence call start path) := by
  unfold changedCandidates
  apply Returns.bind (recordByPath_returns _)
  rintro observed first ⟨rfl, one⟩
  apply Returns.bind (recordById_returns _)
  rintro marked second ⟨rfl, two⟩
  apply returns_ask rfl
  have still : SameEvidence start (second.settle.after (.associationsForPaths [])) :=
    same.trans (one.trans (two.trans (settle_evidence second)))
  have gathered : ((pendingAppMutations start.mutations call.appId mutationLimit).map
      AppMutationRecord.path).filterMap (fun path =>
        agent.paths.find? fun record => record.canonicalPath = path) ++
      ((((dirtyStateOf start call.appId).map DirtyState.dirtyPaths).getD []).filterMap fun pathId =>
        first.paths.find? fun record => record.pathId = pathId) =
      evidenceRecords start call.appId := by
    rw [List.filterMap_map, same.paths, one.paths, same.paths]
    rfl
  rw [gathered]
  have associations : second.settle.associations = start.associations := by
    rw [← still.associations]
    rfl
  have asked : evidenceCandidates call start = (evidenceRecords start call.appId).filterMap
      (candidateOf call (second.settle.associations.filter fun association =>
        association.pathId ∈ (evidenceRecords start call.appId).map PathRecord.pathId)) := by
    rw [associations]
    rfl
  rw [← asked]
  exact orLikely_returns still distinct tracked

theorem requiresReconciliation_returns :
    Returns agentHandler (requiresReconciliation call (dirtyStateOf start call.appId)) agent
      fun requires later =>
        requires = reconciliationDue start call.appId ∧ SameEvidence start later := by
  unfold requiresReconciliation reconciliationDue
  split
  · rename_i flagged
    exact Returns.done ⟨by rw [flagged, Bool.true_or], same⟩
  · rename_i unflagged
    apply returns_ask rfl
    refine Returns.done ⟨?_, same.trans (settle_evidence agent)⟩
    have roots : agent.settle.dirtyRoots = start.dirtyRoots := same.dirtyRoots
    rw [Bool.eq_false_iff.mpr unflagged, Bool.false_or, roots]

end Later

structure Looks (number : String → Nat) (appId : AppId) (path : String) (weather : Weather)
    (agent : Agent) : Prop where
  tracked : StillTracked number appId path agent
  weather : agent.weather = weather

section Everywhere

variable {path : String} {weather : Weather} {number : String → Nat}
  (calm : Undisturbed number call.appId path weather) (personal : call.mode = .personalState)

theorem Looks.settle {appId : AppId} (looks : Looks number appId path weather agent) :
    Looks number appId path weather agent.settle :=
  ⟨looks.tracked.of_same (settle_evidence agent), looks.weather⟩

include calm in
theorem scan_returns {found : List ScanEntry} {steps : Nat} (walked : found = weather.walked steps)
    (looks : Looks number call.appId path weather agent) :
    Returns agentHandler (Prog.forEach found fun entry => ask (.indexScanned call.appId entry))
      agent fun _ later => Looks number call.appId path weather later := by
  apply Returns.forEach looks
  intro entry member before still
  rw [walked] at member
  apply Returns.perform rfl
  exact ⟨still.settle.tracked.indexScanned calm member, still.weather⟩

theorem clearReconciled_returns (looks : Looks number call.appId path weather agent) :
    Returns agentHandler (clearReconciled call) agent
      fun _ later => Looks number call.appId path weather later := by
  unfold clearReconciled
  apply ite_cases (fun program : AgentProg Unit =>
    Returns agentHandler program agent fun _ later => Looks number call.appId path weather later)
  · intro _
    exact Returns.done looks
  · intro _
    apply returns_ask rfl
    apply Returns.perform rfl
    exact ⟨⟨looks.tracked.numbered, looks.tracked.stored, looks.tracked.likely⟩, looks.weather⟩

include calm in
theorem reconcile_returns (requires : Bool) (looks : Looks number call.appId path weather agent) :
    Returns agentHandler (reconcile call requires) agent
      fun _ later => Looks number call.appId path weather later := by
  unfold reconcile
  split
  · apply returns_ask rfl
    apply returns_ask rfl
    have walked : agent.settle.settle.weather.walked agent.settle.settle.steps =
        weather.walked agent.settle.settle.steps := by rw [looks.settle.settle.weather]
    apply Returns.bind (scan_returns calm walked looks.settle.settle)
    intro _ later still
    exact clearReconciled_returns still
  · exact Returns.done looks

include calm personal in
theorem allCandidates_returns (looks : Looks number call.appId path weather agent) :
    Returns agentHandler (allCandidates call) agent
      fun candidates later => Looks number call.appId path weather later ∧
        ∃ candidate ∈ candidates, candidate.canonical = path := by
  have partly : call.complete = false := by simp [BackupCall.complete, personal]
  have unscoped : call.scope = none := by simp [BackupCall.scope, partly]
  have classified : Looks number call.appId path weather
      (agent.settle.after (.reclassifyApp call.appId)) := by
    refine ⟨?_, looks.weather⟩
    have kept := calm.classified agent.settle.steps agent.associations looks.tracked.likely
    rw [← looks.weather] at kept
    exact ⟨looks.tracked.numbered, looks.tracked.stored, kept⟩
  have listed : Returns agentHandler (trackedAssociations call)
      (agent.settle.after (.reclassifyApp call.appId)) fun rows later =>
        Looks number call.appId path weather later ∧ ∃ row ∈ rows, row.canonical = path := by
    unfold trackedAssociations
    apply ite_cases (fun program : AgentProg (List Candidate) =>
      Returns agentHandler program (agent.settle.after (.reclassifyApp call.appId))
        fun rows later => Looks number call.appId path weather later ∧
          ∃ row ∈ rows, row.canonical = path)
    · intro complete
      rw [partly] at complete
      cases complete
    · intro _
      exact Returns.perform rfl ⟨classified.settle, classified.settle.tracked.listed calm.distinct⟩
  unfold allCandidates
  apply returns_ask rfl
  apply Returns.bind listed
  rintro rows later ⟨still, row, member, named⟩
  refine Returns.done ⟨still, (names_insertCandidates _ []).mpr (Or.inl ⟨row, ?_, named⟩)⟩
  exact List.mem_filter.mpr ⟨member, by rw [unscoped]; rfl⟩

include calm in
theorem gather_returns {hasParent requires : Bool} {dirty : Option DirtyState}
    {pending : List AppMutationRecord} {named : Prop}
    (chosen : Returns agentHandler (scopeCandidates call hasParent requires dirty pending) agent
      fun candidates later => later.weather = weather ∧
        ((∃ candidate ∈ candidates, candidate.canonical = path) ↔ named)) :
    Returns agentHandler (gatherCandidates call hasParent requires dirty pending) agent
      fun candidates _ => (∃ candidate ∈ candidates, candidate.canonical = path) ↔ named := by
  unfold gatherCandidates
  apply Returns.bind chosen
  rintro candidates later ⟨still, same⟩
  apply returns_ask rfl
  apply Returns.done
  rw [names_insertCandidates, same]
  apply or_iff_right
  rintro ⟨steam, member, at_path⟩
  have tracked := Option.mem_toList.mp member
  have settled : later.settle.weather = weather := still
  rw [settled] at tracked
  exact calm.noManifest _ steam tracked at_path

include personal in
theorem looksEverywhere_iff (parent : Option Parent) (start : Agent) :
    looksEverywhere call parent start ↔
      (!parent.isSome || call.complete || call.performance = .full ||
        reconciliationDue start call.appId) = true ∨
      ((dirtyStateOf start call.appId).isSome ∧ evidenceCandidates call start = []) := by
  have partly : call.complete = false := by simp [BackupCall.complete, personal]
  rw [looksEverywhere, partly]
  simp [or_assoc]

include calm personal in
theorem candidates_returns (parent : Option Parent) {start : Agent}
    (same : SameEvidence start agent) (tracked : StillTracked number call.appId path start)
    (sky : start.weather = weather) :
    Returns agentHandler (do
        reconcile call (reconciliationDue start call.appId)
        gatherCandidates call parent.isSome
          (reconciliationDue start call.appId) (dirtyStateOf start call.appId)
          (pendingAppMutations start.mutations call.appId mutationLimit)) agent
      fun candidates _ => (∃ candidate ∈ candidates, candidate.canonical = path) ↔
        looksEverywhere call parent start ∨ namedByEvidence call start path := by
  by_cases every : (!parent.isSome || call.complete ||
      call.performance = .full || reconciliationDue start call.appId) = true
  · have whole := (looksEverywhere_iff personal parent start).mpr (Or.inl every)
    apply Returns.bind (reconcile_returns calm _ ⟨tracked.of_same same, same.weather.trans sky⟩)
    intro _ second looks
    apply gather_returns calm
    unfold scopeCandidates
    rw [if_pos every]
    apply (allCandidates_returns calm personal looks).mono
    rintro candidates later ⟨still, named⟩
    exact ⟨still.weather, fun _ => Or.inl whole, fun _ => named⟩
  · have unflagged := every
    simp only [Bool.or_eq_true, not_or, Bool.not_eq_true] at unflagged
    have idle : reconcile call (reconciliationDue start call.appId) = .done () := by
      rw [unflagged.2]
      simp [reconcile, BackupCall.complete, personal]
    rw [idle]
    apply gather_returns calm
    unfold scopeCandidates
    rw [if_neg every]
    apply (changedCandidates_returns same calm.distinct tracked).mono
    rintro candidates later ⟨still, named⟩
    rw [looksEverywhere_iff personal, or_iff_right every]
    exact ⟨still.weather.trans sky, named⟩

include calm personal in
theorem scopeOf_returns (parent : Option Parent) (start : Agent) (same : SameEvidence start agent)
    (tracked : StillTracked number call.appId path start) (sky : start.weather = weather) :
    Returns agentHandler (scopeOf call (dirtyStateOf start call.appId)
        (pendingAppMutations start.mutations call.appId mutationLimit) parent)
      agent fun scope _ => scope.Considers path ↔
        ¬ seemsClean call parent start ∧
          (looksEverywhere call parent start ∨ namedByEvidence call start path) := by
  unfold scopeOf
  cases clean : upToDate call (dirtyStateOf start call.appId)
      (pendingAppMutations start.mutations call.appId mutationLimit) parent with
  | some manifest =>
      apply Returns.done
      have idle : seemsClean call parent start := by
        unfold upToDate at clean
        split at clean
        · rename_i nothing
          obtain ⟨parent, found, _⟩ := Option.map_eq_some_iff.mp clean
          exact ⟨by rw [found]; rfl, nothing.1, nothing.2.1⟩
        · cases clean
      exact ⟨False.elim, fun considered => considered.1 idle⟩
  | none =>
      have busy : ¬ seemsClean call parent start := by
        rintro ⟨parent, dirty, pending⟩
        rw [upToDate, if_pos ⟨dirty, pending, personal⟩] at clean
        rw [Option.map_eq_none_iff.mp clean] at parent
        cases parent
      dsimp only
      apply Returns.bind (requiresReconciliation_returns same)
      rintro requires first ⟨rfl, one⟩
      rw [← Prog.bind_assoc]
      apply Returns.bind (candidates_returns calm personal parent one tracked sky)
      intro candidates later named
      exact Returns.done (named.trans (and_iff_right busy).symm)

end Everywhere

theorem backupScope_returns {path : String} {number : String → Nat} (parent : Option Parent)
    (calm : Undisturbed number call.appId path agent.weather)
    (personal : call.mode = .personalState) (tracked : StillTracked number call.appId path agent) :
    Returns agentHandler (backupScope call (.done parent)) agent fun scope _ =>
      scope.Considers path ↔ ¬ seemsClean call parent agent ∧
        (looksEverywhere call parent agent ∨ namedByEvidence call agent path) := by
  have same : SameEvidence agent agent.settle.settle.settle.settle :=
    (settle_evidence agent).trans ((settle_evidence agent.settle).trans
      ((settle_evidence agent.settle.settle).trans (settle_evidence agent.settle.settle.settle)))
  unfold backupScope
  apply returns_ask rfl
  apply returns_ask rfl
  apply returns_ask rfl
  apply returns_ask rfl
  exact scopeOf_returns calm personal parent agent same tracked rfl

end Evaluation

end Noland.Backup
