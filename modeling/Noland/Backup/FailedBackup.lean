import Noland.Backup.Scope
import Noland.Backup.Seal

/-!
A reconciliation of a personal backup or of a seal clears the flags that asked for it before
the backup has committed. A run that then fails leaves the mutations and the dirty paths, and
the next one has what only the reconciliation found in its scope when they or the request
lead to it.
-/

namespace Noland.Backup

open Noland.Core Noland.StateDb Noland.Requests

/-- The operations that retire the evidence of an app: marks on its rows and the end of its own
backup. -/
def AgentOp.retires (appId : AppId) (agent : Agent) : AgentOp → Bool
  | .markProcessed ids => agent.mutations.any fun mutation =>
      mutation.appId = appId && mutation.mutationId ∈ ids
  | .pendingMutations other limit => other = appId && limit = 1
  | .clearDirtyApp other | .clearDirtyPaths other => other = appId
  | _ => false

/-- The rows that pending mutations and dirty paths of an app are about. -/
def evidenceIds (number : String → Nat) (appId : AppId) (agent : Agent) : List Nat :=
  (pendingAppMutations agent.mutations appId mutationLimit).map (fun mutation =>
    number mutation.path) ++ ((dirtyStateOf agent appId).map DirtyState.dirtyPaths).getD []

/-- What ingestion leaves behind: the table of paths numbers its rows by path, and what is
pending or dirty has its row and an association of the app. -/
structure Ingested (number : String → Nat) (appId : AppId) (agent : Agent) : Prop where
  numbered : ∀ record ∈ agent.paths, record.pathId = number record.canonicalPath
  observed : ∀ mutation ∈ pendingAppMutations agent.mutations appId mutationLimit,
    ∃ record ∈ agent.paths, record.canonicalPath = mutation.path
  marked : ∀ pathId ∈ ((dirtyStateOf agent appId).map DirtyState.dirtyPaths).getD [],
    ∃ record ∈ agent.paths, number record.canonicalPath = pathId
  associated : ∀ pathId ∈ evidenceIds number appId agent,
    ∃ association ∈ agent.associations, association.appId = appId ∧ association.pathId = pathId

structure Carried (number : String → Nat) (appId : AppId) (before agent : Agent) : Prop where
  weather : agent.weather = before.weather
  mutations : agent.mutations.filter (fun row => row.appId = appId) =
    before.mutations.filter fun row => row.appId = appId
  dirty : (dirtyStateOf agent appId).map DirtyState.dirtyPaths =
    (dirtyStateOf before appId).map DirtyState.dirtyPaths
  numbered : ∀ record ∈ agent.paths, record.pathId = number record.canonicalPath
  stored : ∀ record ∈ before.paths,
    ∃ kept ∈ agent.paths, kept.canonicalPath = record.canonicalPath
  associated : ∀ association ∈ before.associations, ∃ kept ∈ agent.associations,
    kept.appId = association.appId ∧ kept.pathId = association.pathId

structure Reconciled (number : String → Nat) (appId : AppId) (path : String) (keeps : Bool)
    (before : Agent) (done : AgentOp → Prop) (agent : Agent) : Prop where
  unflagged : done (.clearReconciliation appId) →
    (dirtyStateOf agent appId).any DirtyState.requiresReconciliation = false
  rootless : done (.clearDirtyRoots appId) →
    agent.dirtyRoots.filter (fun row => row.appId = appId) = []
  tracked : ∀ entry, done (.indexScanned appId entry) → entry.record.canonicalPath = path →
    entry.association.appId = appId → StillTracked number appId path agent
  due : keeps = true → reconciliationDue agent appId = reconciliationDue before appId

def AgentOp.ofRun (weather : Weather) (keeps : Bool) : AgentOp → Prop
  | .indexScanned _ entry => ∃ steps, entry ∈ weather.walked steps
  | .clearReconciliation _ | .clearDirtyRoots _ => keeps = false
  | .appendMutation _ | .markDirtyApp _ _ | .markDirtyPath _ _ | .markDirtyRoot _ => False
  | _ => True

/-- The replies that a run gets as long as it retires nothing. -/
def Heard (weather : Weather) (appId : AppId) : Event agentInterface StateError → Prop
  | ⟨.walkRoots _, .ok found⟩ => ∃ steps, found = weather.walked steps
  | ⟨.pendingMutations other limit, _⟩ => ¬ (other = appId ∧ limit = 1)
  | _ => True

theorem Carried.refl {number : String → Nat} {appId : AppId} {agent : Agent}
    (ingested : Ingested number appId agent) : Carried number appId agent agent :=
  ⟨rfl, rfl, rfl, ingested.numbered, fun record member => ⟨record, member, rfl⟩,
    fun association member => ⟨association, member, rfl, rfl⟩⟩

section Carrying

variable {number : String → Nat} {appId : AppId} {path : String} {before agent : Agent}
  {keeps : Bool} {done done' : AgentOp → Prop} {op : AgentOp}

theorem filter_marked {ids : List Uuid} {time : Timestamp} (rows : List AppMutationRecord)
    (apart : ∀ row ∈ rows, row.appId = appId → row.mutationId ∉ ids) :
    (markAppMutationsProcessed rows ids time).filter (fun row => row.appId = appId) =
      rows.filter fun row => row.appId = appId := by
  unfold markAppMutationsProcessed
  rw [List.filter_map]
  have same : ((fun row : AppMutationRecord => decide (row.appId = appId)) ∘ fun row =>
      if row.mutationId ∈ ids ∧ row.pending then { row with processedAt := some time } else row) =
      fun row => decide (row.appId = appId) := by
    funext row
    dsimp only [Function.comp]
    split <;> rfl
  rw [same]
  refine (List.map_congr_left fun row member => ?_).trans (List.map_id _)
  have own : row.appId = appId := by simpa using (List.mem_filter.mp member).2
  rw [if_neg fun marked => apart row (List.mem_filter.mp member).1 own marked.1]
  rfl

theorem numbered_upsertPath {rows : List PathRecord} {record : PathRecord}
    (numbered : ∀ row ∈ rows, row.pathId = number row.canonicalPath)
    (new : record.pathId = number record.canonicalPath) :
    ∀ row ∈ Agent.upsertPath rows record, row.pathId = number row.canonicalPath := by
  intro row member
  rcases List.mem_append.mp member with old | same
  · exact numbered row (List.mem_filter.mp old).1
  · rw [List.mem_singleton.mp same]
    exact new

theorem stored_upsertPath {rows : List PathRecord} {record : PathRecord} {wanted : String}
    (stored : ∃ row ∈ rows, row.canonicalPath = wanted) :
    ∃ row ∈ Agent.upsertPath rows record, row.canonicalPath = wanted := by
  obtain ⟨row, member, named⟩ := stored
  by_cases same : record.canonicalPath = wanted
  · exact ⟨record, List.mem_append_right _ (List.mem_singleton_self _), same⟩
  · refine ⟨row, List.mem_append_left _ (List.mem_filter.mpr ⟨member, ?_⟩), named⟩
    rw [named]
    exact decide_eq_true (Ne.symm same)

theorem associated_upsert {rows : List PathAssociation} {association : PathAssociation}
    {owner : AppId} {pathId : Nat}
    (associated : ∃ row ∈ rows, row.appId = owner ∧ row.pathId = pathId) :
    ∃ row ∈ Agent.upsertAssociation rows association, row.appId = owner ∧ row.pathId = pathId := by
  obtain ⟨row, member, owned, numbered⟩ := associated
  by_cases other : row.appId ≠ association.appId ∨ row.pathId ≠ association.pathId
  · exact ⟨row, List.mem_append_left _ (List.mem_filter.mpr ⟨member, decide_eq_true other⟩),
      owned, numbered⟩
  · push Not at other
    exact ⟨association, List.mem_append_right _ (List.mem_singleton_self _),
      other.1.symm.trans owned, other.2.symm.trans numbered⟩

theorem dirtyStateOf_clearReconciliation (other : AppId) :
    dirtyStateOf (agent.after (.clearReconciliation other)) appId =
      (dirtyStateOf agent appId).map fun dirty =>
        if other = appId then { dirty with requiresReconciliation := false } else dirty := by
  unfold dirtyStateOf
  show ((clearReconciliationRequired agent.dirtyApps other).find? _).map _ = _
  unfold clearReconciliationRequired
  rw [List.find?_map, Option.map_map, Option.map_map]
  have same : ((fun row : DirtyApp => decide (row.appId = appId)) ∘ fun row : DirtyApp =>
      if row.appId = other then { row with requiresReconciliation := false } else row) =
      fun row => decide (row.appId = appId) := by
    funext row
    dsimp only [Function.comp]
    split <;> rfl
  rw [same]
  cases found : agent.dirtyApps.find? fun row => decide (row.appId = appId) with
  | none => rfl
  | some row =>
      have own : row.appId = appId := by simpa using List.find?_some found
      simp only [Option.map_some, Function.comp, own]
      by_cases reached : appId = other
      · simp [reached]
        rfl
      · simp [reached, Ne.symm reached]
        rfl

theorem dirtyStateOf_after (kept : op.retires appId agent = false)
    (used : op.ofRun before.weather true) :
    dirtyStateOf (agent.after op) appId = dirtyStateOf agent appId := by
  cases op with
  | clearDirtyApp other =>
      have apart : other ≠ appId := by simpa [AgentOp.retires] using kept
      unfold dirtyStateOf
      show ((agent.dirtyApps.filter fun row => row.appId ≠ other).find? _).map _ = _
      rw [List.find?_filter]
      congr 2
      funext row
      by_cases own : row.appId = appId
      · simp [own, Ne.symm apart]
      · simp [own]
  | clearDirtyPaths other =>
      have apart : other ≠ appId := by simpa [AgentOp.retires] using kept
      have same : (agent.dirtyPaths.filter fun row => row.1 ≠ other).filter (fun row =>
          row.1 = appId) = agent.dirtyPaths.filter fun row => row.1 = appId := by
        rw [List.filter_filter]
        congr 1
        funext row
        by_cases own : row.1 = appId
        · simp [own, Ne.symm apart]
        · simp [own]
      unfold dirtyStateOf
      show (agent.dirtyApps.find? _).map (fun row => (⟨((agent.dirtyPaths.filter fun row =>
        row.1 ≠ other).filter fun row => row.1 = appId).map Prod.snd, _⟩ : DirtyState)) = _
      rw [same]
  | appendMutation _ | markDirtyApp _ _ | markDirtyPath _ _ | markDirtyRoot _ => exact used.elim
  | clearReconciliation other | clearDirtyRoots other => cases used
  | _ => rfl

theorem flag_after (used : op.ofRun before.weather keeps) (kept : op.retires appId agent = false)
    (down : (dirtyStateOf agent appId).any DirtyState.requiresReconciliation = false) :
    (dirtyStateOf (agent.after op) appId).any DirtyState.requiresReconciliation = false := by
  cases op with
  | clearReconciliation other =>
      rw [dirtyStateOf_clearReconciliation]
      cases found : dirtyStateOf agent appId with
      | none => rfl
      | some dirty =>
          rw [found] at down
          simp only [Option.map_some]
          split
          · rfl
          · exact down
  | clearDirtyRoots other => exact down
  | _ => rwa [@dirtyStateOf_after appId before agent _ kept (by trivial)]

theorem roots_after (used : op.ofRun before.weather keeps)
    (none : agent.dirtyRoots.filter (fun row => row.appId = appId) = []) :
    (agent.after op).dirtyRoots.filter (fun row => row.appId = appId) = [] := by
  cases op with
  | clearDirtyRoots other =>
      show (agent.dirtyRoots.filter fun row => row.appId ≠ other).filter _ = []
      rw [List.filter_filter, List.filter_eq_nil_iff] at *
      intro row member own
      exact none row member (Bool.and_eq_true_iff.mp own).1
  | appendMutation _ | markDirtyApp _ _ | markDirtyPath _ _ | markDirtyRoot _ => exact used.elim
  | _ => exact none

variable (calm : Undisturbed number appId path before.weather)
include calm

theorem StillTracked.after (tracked : StillTracked number appId path agent)
    (sky : agent.weather = before.weather) (used : op.ofRun before.weather keeps) :
    StillTracked number appId path (agent.after op) := by
  cases op with
  | indexScanned other entry =>
      obtain ⟨steps, walked⟩ := used
      have still := tracked.indexScanned calm walked
      exact ⟨still.numbered, still.stored, still.likely⟩
  | reclassifyApp other =>
      have kept := calm.classified agent.steps agent.associations tracked.likely
      rw [← sky] at kept
      exact ⟨tracked.numbered, tracked.stored, kept⟩
  | trackSteamManifest other =>
      show StillTracked number appId path { agent with
        paths := (agent.weather.steamManifest agent.steps).toList.foldl _ agent.paths
        associations :=
          (agent.weather.steamManifest agent.steps).toList.foldl _ agent.associations }
      cases found : agent.weather.steamManifest agent.steps with
      | none => exact tracked
      | some candidate =>
          rw [sky] at found
          obtain ⟨association, member, owner, likely, numbered⟩ := tracked.likely
          refine ⟨numbered_upsertPath tracked.numbered (calm.steam _ candidate found).1,
            stored_upsertPath tracked.stored, association, ?_, owner, likely, numbered⟩
          have apart : association.pathId ≠ candidate.association.pathId := by
            intro same
            refine calm.noManifest _ candidate found (calm.distinct candidate.canonical ?_)
            rw [← numbered, same, (calm.steam _ candidate found).2]
            exact (calm.steam _ candidate found).1.symm
          exact List.mem_append_left _
            (List.mem_filter.mpr ⟨member, decide_eq_true (Or.inr apart)⟩)
  | appendMutation _ | markDirtyApp _ _ | markDirtyPath _ _ | markDirtyRoot _ => exact used.elim
  | _ => exact ⟨tracked.numbered, tracked.stored, tracked.likely⟩

theorem StillTracked.of_scanned {entry : ScanEntry} (carried : Carried number appId before agent)
    (walked : ∃ steps, entry ∈ before.weather.walked steps)
    (named : entry.record.canonicalPath = path) (own : entry.association.appId = appId) :
    StillTracked number appId path (agent.after (.indexScanned appId entry)) := by
  obtain ⟨steps, member⟩ := walked
  have numbers := calm.numbered steps entry member
  refine ⟨numbered_upsertPath carried.numbered numbers.1,
    ⟨entry.record, List.mem_append_right _ (List.mem_singleton_self _), named⟩,
    entry.association, List.mem_append_right _ (List.mem_singleton_self _), own,
    calm.likely steps entry member named, ?_⟩
  rw [numbers.2, numbers.1, named]

theorem Carried.after (carried : Carried number appId before agent)
    (used : op.ofRun before.weather keeps) (kept : op.retires appId agent = false) :
    Carried number appId before (agent.after op) := by
  cases op with
  | markProcessed ids =>
      refine { carried with
        mutations := (filter_marked agent.mutations ?_).trans carried.mutations }
      intro row member own marked
      rw [AgentOp.retires, List.any_eq_false] at kept
      exact kept row member (by simp [own, marked])
  | clearReconciliation other =>
      refine { carried with dirty := ?_ }
      rw [dirtyStateOf_clearReconciliation, Option.map_map, ← carried.dirty]
      congr 1
      funext dirty
      dsimp only [Function.comp]
      split <;> rfl
  | clearDirtyApp other | clearDirtyPaths other =>
      exact { carried with
        dirty := by rw [@dirtyStateOf_after appId before agent _ kept trivial, carried.dirty] }
  | indexScanned other entry =>
      obtain ⟨steps, walked⟩ := used
      exact { carried with
        numbered := numbered_upsertPath carried.numbered (calm.numbered steps entry walked).1
        stored := fun record member => stored_upsertPath (carried.stored record member)
        associated := fun row member => associated_upsert (carried.associated row member) }
  | reclassifyApp other =>
      refine { carried with associated := fun row member => ?_ }
      obtain ⟨same, inside, owner, numbered⟩ := carried.associated row member
      have classified := calm.kept agent.steps agent.associations same inside
      rw [← carried.weather, owner, numbered] at classified
      exact classified
  | trackSteamManifest other =>
      show Carried number appId before { agent with
        paths := (agent.weather.steamManifest agent.steps).toList.foldl _ agent.paths
        associations :=
          (agent.weather.steamManifest agent.steps).toList.foldl _ agent.associations }
      cases found : agent.weather.steamManifest agent.steps with
      | none => exact { carried with }
      | some candidate =>
          rw [carried.weather] at found
          exact { carried with
            numbered := numbered_upsertPath carried.numbered (calm.steam _ candidate found).1
            stored := fun record member => stored_upsertPath (carried.stored record member)
            associated := fun row member => associated_upsert (carried.associated row member) }
  | appendMutation _ | markDirtyApp _ _ | markDirtyPath _ _ | markDirtyRoot _ => exact used.elim
  | _ => exact { carried with }

/-- One operation that may have been acknowledged. -/
theorem Reconciled.after (reconciled : Reconciled number appId path keeps before done agent)
    (carried : Carried number appId before agent) (used : op.ofRun before.weather keeps)
    (kept : op.retires appId agent = false)
    (heard : ∀ other, done' other → done other ∨ other = op) :
    Reconciled number appId path keeps before done' (agent.after op) where
  unflagged cleared := by
    rcases heard _ cleared with earlier | rfl
    · exact flag_after used kept (reconciled.unflagged earlier)
    · rw [dirtyStateOf_clearReconciliation]
      cases dirtyStateOf agent appId with
      | none => rfl
      | some dirty => simp
  rootless cleared := by
    rcases heard _ cleared with earlier | rfl
    · exact roots_after used (reconciled.rootless earlier)
    · show (agent.dirtyRoots.filter fun row => row.appId ≠ appId).filter _ = []
      rw [List.filter_filter, List.filter_eq_nil_iff]
      intro row _ both
      simp at both
  tracked entry scanned named own := by
    rcases heard _ scanned with earlier | rfl
    · exact (reconciled.tracked entry earlier named own).after calm carried.weather used
    · exact StillTracked.of_scanned calm carried used named own
  due keep := by
    subst keep
    have roots : (agent.after op).dirtyRoots = agent.dirtyRoots := by
      cases op with
      | clearDirtyRoots other => cases used
      | markDirtyRoot root => exact used.elim
      | _ => rfl
    rw [← reconciled.due rfl, reconciliationDue, reconciliationDue, roots,
      dirtyStateOf_after kept used]

omit calm in
theorem Reconciled.mono (reconciled : Reconciled number appId path keeps before done agent)
    (fewer : ∀ other, done' other → done other) :
    Reconciled number appId path keeps before done' agent :=
  ⟨fun cleared => reconciled.unflagged (fewer _ cleared),
    fun cleared => reconciled.rootless (fewer _ cleared),
    fun entry scanned => reconciled.tracked entry (fewer _ scanned), reconciled.due⟩

theorem leaves_step {state : Agent} {reply : Except StateError op.Ret}
    (carried : Carried number appId before agent)
    (reconciled : Reconciled number appId path keeps before done agent)
    (used : op.ofRun before.weather keeps) (kept : op.retires appId agent = false)
    (replied : Reply agentHandler op agent reply state)
    (heard : ∀ other, done' other → done other ∨ (other = op ∧ ∃ value, reply = .ok value)) :
    Carried number appId before state ∧
      Reconciled number appId path keeps before done' state := by
  have settled : Carried number appId before agent.settle := { carried with }
  have walked : Reconciled number appId path keeps before done agent.settle :=
    { reconciled with
      tracked := fun entry scanned named own =>
        (reconciled.tracked entry scanned named own).of_same (settle_evidence agent) }
  rcases replied.cases with ⟨_, rfl⟩ | ⟨error, rfl, _, rfl | rfl⟩
  · exact ⟨settled.after calm used kept, walked.after calm settled used kept
      fun other said => (heard other said).imp_right And.left⟩
  · refine ⟨carried, reconciled.mono fun other said => (heard other said).resolve_right ?_⟩
    rintro ⟨_, value, acknowledged⟩
    cases acknowledged
  · refine ⟨settled.after calm used kept, walked.after calm settled used kept
      fun other said => Or.inl ((heard other said).resolve_right ?_)⟩
    rintro ⟨_, value, acknowledged⟩
    cases acknowledged

end Carrying

def acknowledged (history : List (Event sealInterface StateError)) (op : AgentOp) : Prop :=
  ∃ value : op.Ret, (⟨.agent op, .ok value⟩ : Event sealInterface StateError) ∈ history

def SealOp.retires (appId : AppId) (agent : Agent) : SealOp → Bool
  | .agent op => op.retires appId agent
  | _ => false

def SealWork.serves (appId : AppId) : SealWork → Prop
  | .backup call => call.appId = appId
  | .sealing _ => True

def SealWork.keeps : SealWork → Bool
  | .backup call => call.complete
  | .sealing _ => false

/-- A backup of the app, or a seal, that fails after it has reconciled the app and before it
retires the evidence. -/
structure FailedRun (work : SealWork) (appId : AppId) (path : String) (start : SealAgent)
    (final : Config sealInterface StateError SealAgent) : Prop where
  serves : work.serves appId
  failed : ∃ error, Runs sealHandler
    (fun config event _ => event.op.retires appId config.state.agent = false)
    work.program ⟨[], start⟩ (.error error) final
  visited : ∃ entry, entry.record.canonicalPath = path ∧ entry.association.appId = appId ∧
    acknowledged final.history (.indexScanned appId entry)
  cleared : work.keeps = false → acknowledged final.history (.clearReconciliation appId) ∧
    acknowledged final.history (.clearDirtyRoots appId)

def SealOp.ofRun (weather : Weather) (keeps : Bool) : SealOp → Prop
  | .agent op => op.ofRun weather keeps
  | _ => True

def SealHeard (weather : Weather) (appId : AppId) : Event sealInterface StateError → Prop
  | ⟨.agent op, reply⟩ => Heard weather appId ⟨op, reply⟩
  | _ => True

section Failing

variable {number : String → Nat} {appId : AppId} {path : String} {before : Agent}
  {weather : Weather} {keeps : Bool}

theorem ofRun_handles {call : BackupCall} {pending : List AppMutationRecord}
    (same : keeps = true → call.complete = true ∧ call.appId = appId) :
    Handles (AgentOp.ofRun weather keeps) (Heard weather appId) call pending where
  common op common := by cases op <;> trivial
  stores found walked entry member := by
    obtain ⟨steps, rfl⟩ := walked
    exact ⟨steps, member⟩
  clears personal := by
    have clears : keeps = false := by
      by_contra kept
      rw [(same (Bool.eq_true_of_not_eq_false kept)).1] at personal
      cases personal
    exact ⟨clears, clears⟩
  marks := trivial
  reads := trivial
  ends reply heard := by
    show keeps = false
    by_contra kept
    exact heard ⟨(same (Bool.eq_true_of_not_eq_false kept)).2, rfl⟩

theorem runBackup_uses {call : BackupCall}
    (same : keeps = true → call.complete = true ∧ call.appId = appId) :
    (runBackup call).Uses (AgentOp.ofRun weather keeps) (Heard weather appId) fun _ => True := by
  apply (ask_uses trivial).andThen
  intro _
  apply (ask_uses trivial).andThen
  intro dirty
  apply (ask_uses trivial).andThen
  intro pending
  exact continueBackup_uses (ofRun_handles same) dirty

theorem reconcileApp_uses (owner : AppId) :
    (reconcileApp owner).Uses (AgentOp.ofRun weather false) (Heard weather appId)
      fun _ => True := by
  apply (ask_uses trivial).andThen
  intro _
  apply (@ask_answers (AgentOp.ofRun weather false) (Heard weather appId) (.walkRoots owner)
    (fun found : List ScanEntry => ∃ steps, found = weather.walked steps) trivial
    fun _ heard => heard).bind
  rintro found ⟨steps, rfl⟩
  apply (Prog.Uses.forEach fun entry member => ask_uses ⟨steps, member⟩).andThen
  intro _
  apply (ask_uses (by rfl)).andThen
  intro _
  exact ask_uses (by rfl)

theorem embed_uses {Value : Type} {post : Value → Prop} {program : AgentProg Value}
    (uses : program.Uses (AgentOp.ofRun weather keeps) (Heard weather appId) post) :
    (embed program).Uses (SealOp.ofRun weather keeps) (SealHeard weather appId) post := by
  induction program with
  | done value => exact uses
  | throw error => trivial
  | request op next ih => exact ⟨uses.1, fun reply heard => ih reply (uses.2 reply heard)⟩

theorem askSeal_uses {op : SealOp} (used : op.ofRun weather keeps) :
    (askSeal op).Uses (SealOp.ofRun weather keeps) (SealHeard weather appId) fun _ => True :=
  Prog.Uses.perform used fun _ _ => trivial

theorem backUpDirtyApps_uses (call : SealCall) (dirty : List AppId) :
    (backUpDirtyApps call dirty).Uses (SealOp.ofRun weather false) (SealHeard weather appId)
      fun _ => True := by
  induction dirty with
  | nil => trivial
  | cons owner rest ih =>
      apply (embed_uses (runBackup_uses (by simp))).andThen
      intro manifest
      exact ih.andThen fun _ => trivial

theorem cleanCommits_uses (commits : List SealAppCommit) (apps : List AppId) :
    (cleanCommits commits apps).Uses (SealOp.ofRun weather false) (SealHeard weather appId)
      fun _ => True := by
  induction apps with
  | nil => trivial
  | cons owner rest ih =>
      apply Prog.Uses.ite
      · exact fun _ => ih
      · intro _
        apply (askSeal_uses (by trivial)).andThen
        intro ids
        exact ih.andThen fun _ => trivial

theorem runSeal_uses (call : SealCall) :
    (runSeal call).Uses (SealOp.ofRun weather false) (SealHeard weather appId)
      fun _ => True := by
  unfold runSeal
  repeat (apply (askSeal_uses (by trivial)).andThen; intro _)
  apply (Prog.Uses.forEach fun owner _ => embed_uses (reconcileApp_uses owner)).andThen
  intro _
  repeat (apply (askSeal_uses (by trivial)).andThen; intro _)
  apply (backUpDirtyApps_uses call _).andThen
  intro _
  repeat (apply (askSeal_uses (by trivial)).andThen; intro _)
  apply (cleanCommits_uses _ _).andThen
  intro _
  repeat (apply (askSeal_uses (by trivial)).andThen; intro _)
  trivial

theorem SealWork.uses {work : SealWork} (serves : work.serves appId) :
    work.program.Uses (SealOp.ofRun weather work.keeps) (SealHeard weather appId)
      fun _ => True := by
  cases work with
  | backup call =>
      exact (embed_uses (runBackup_uses fun complete => ⟨complete, serves⟩)).andThen
        fun _ => trivial
  | sealing call => exact (runSeal_uses call).andThen fun _ => trivial

theorem heard_of_reply {agent state : Agent} {op : AgentOp} {reply : Except StateError op.Ret}
    (sky : agent.weather = weather) (kept : op.retires appId agent = false)
    (replied : Reply agentHandler op agent reply state) : Heard weather appId ⟨op, reply⟩ := by
  cases op with
  | walkRoots owner =>
      cases reply with
      | error error => trivial
      | ok found =>
          have answered : Except.ok (agent.settle.weather.walked agent.settle.steps) =
              Except.ok found := replied.of_ok.1
          rw [show agent.settle.weather = weather from sky] at answered
          exact ⟨_, (Except.ok.inj answered).symm⟩
  | pendingMutations owner limit =>
      rintro ⟨own, one⟩
      simp [AgentOp.retires, own, one] at kept
  | _ => trivial

theorem agent_reply {op : AgentOp} {old new : SealAgent} {reply : Except StateError op.Ret}
    (replied : Reply sealHandler (.agent op) old reply new) :
    Reply agentHandler op old.agent reply new.agent := by
  rcases replied.cases with ⟨same, rfl⟩ | ⟨error, same, external, rfl | rfl⟩
  · rw [show reply = _ from same]
    exact .proceed
  · rw [show reply = _ from same]
    exact .refuse error external
  · rw [show reply = _ from same]
    exact .falter error external

end Failing

section Leaving

variable {number : String → Nat} {appId : AppId} {path : String} {before : Agent}
  {keeps : Bool} (calm : Undisturbed number appId path before.weather)
include calm

theorem seal_step {done done' : AgentOp → Prop} {op : SealOp} {old new : SealAgent}
    {reply : Except StateError op.Ret} (carried : Carried number appId before old.agent)
    (reconciled : Reconciled number appId path keeps before done old.agent)
    (used : op.ofRun before.weather keeps) (kept : op.retires appId old.agent = false)
    (replied : Reply sealHandler op old reply new)
    (heard : ∀ other, done' other → done other ∨ ∃ value : other.Ret,
      (⟨op, reply⟩ : Event sealInterface StateError) = ⟨.agent other, .ok value⟩) :
    Carried number appId before new.agent ∧
      Reconciled number appId path keeps before done' new.agent := by
  cases op with
  | agent inner =>
      refine leaves_step calm carried reconciled used kept (agent_reply replied) ?_
      intro other said
      rcases heard other said with earlier | ⟨value, same⟩
      · exact Or.inl earlier
      · cases same
        exact Or.inr ⟨rfl, value, rfl⟩
  | _ =>
      have fewer : ∀ other, done' other → done other := by
        intro other said
        refine (heard other said).resolve_right ?_
        rintro ⟨value, same⟩
        cases congrArg Event.op same
      have still := reconciled.mono fewer
      rcases replied.state_cases with rfl | rfl
      · exact ⟨carried, still⟩
      · exact ⟨{ carried with }, { still with
          tracked := fun entry said named own => (still.tracked entry said named own).of_same
            ⟨rfl, rfl, rfl, rfl, rfl, rfl, rfl⟩ }⟩

theorem FailedRun.leaves {work : SealWork} {start : SealAgent}
    {final : Config sealInterface StateError SealAgent} (sky : start.agent = before)
    (ingested : Ingested number appId before) (failed : FailedRun work appId path start final) :
    Carried number appId before final.state.agent ∧
      Reconciled number appId path work.keeps before (acknowledged final.history)
        final.state.agent := by
  obtain ⟨error, run⟩ := failed.failed
  let left : Config sealInterface StateError SealAgent → Prop := fun config =>
    Carried number appId before config.state.agent ∧
      Reconciled number appId path work.keeps before (acknowledged config.history)
        config.state.agent
  have kept : Triple sealHandler (fun config event state =>
      event.op.retires appId config.state.agent = false ∧
        Reply sealHandler event.op config.state event.reply state) left work.program
      (fun _ config => True ∧ left config) left left := by
    apply Triple.uses (@SealWork.uses appId before.weather work failed.serves)
    · rintro config ⟨op, reply⟩ state ⟨carried, _⟩ ⟨pending, replied⟩
      cases op with
      | agent inner => exact heard_of_reply carried.weather pending (agent_reply replied)
      | _ => trivial
    · rintro config op reply state used ⟨carried, reconciled⟩ replied ⟨pending, _⟩
      refine seal_step calm carried reconciled used pending replied ?_
      rintro other ⟨value, member⟩
      rcases List.mem_append.mp member with earlier | new
      · exact Or.inl ⟨value, earlier⟩
      · exact Or.inr ⟨value, (List.mem_singleton.mp new).symm⟩
  refine kept ⟨[], start⟩ (.error error) final ⟨?_, ?_⟩ run.replied
  · rw [sky]
    exact Carried.refl ingested
  · have nothing : ∀ op, ¬ acknowledged [] op := by
      rintro op ⟨value, member⟩
      cases member
    exact ⟨fun said => absurd said (nothing _), fun said => absurd said (nothing _),
      fun _ said => absurd said (nothing _), fun _ => by rw [sky]⟩

end Leaving

section Scope

variable {number : String → Nat} {path : String} {before agent : Agent} {call : BackupCall}

theorem pending_of_carried {appId : AppId} (carried : Carried number appId before agent) :
    pendingAppMutations agent.mutations appId mutationLimit =
      pendingAppMutations before.mutations appId mutationLimit := by
  unfold pendingAppMutations
  have same : ∀ rows : List AppMutationRecord,
      rows.filter (fun row => row.appId = appId && row.pending) =
        (rows.filter fun row => row.appId = appId).filter AppMutationRecord.pending := by
    intro rows
    rw [List.filter_filter]
    congr 1
    funext row
    exact Bool.and_comm _ _
  rw [same, same, carried.mutations]

theorem evidenceIds_of_carried {appId : AppId} (carried : Carried number appId before agent) :
    evidenceIds number appId agent = evidenceIds number appId before := by
  rw [evidenceIds, evidenceIds, pending_of_carried carried, carried.dirty]

theorem ingested_of_carried {appId : AppId} (carried : Carried number appId before agent)
    (ingested : Ingested number appId before) : Ingested number appId agent where
  numbered := carried.numbered
  observed mutation member := by
    rw [pending_of_carried carried] at member
    obtain ⟨record, stored, named⟩ := ingested.observed mutation member
    obtain ⟨row, kept, same⟩ := carried.stored record stored
    exact ⟨row, kept, same.trans named⟩
  marked pathId member := by
    rw [carried.dirty] at member
    obtain ⟨record, stored, named⟩ := ingested.marked pathId member
    obtain ⟨row, kept, same⟩ := carried.stored record stored
    exact ⟨row, kept, by rw [same, named]⟩
  associated pathId member := by
    rw [evidenceIds_of_carried carried] at member
    obtain ⟨association, inside, owner, numbered⟩ := ingested.associated pathId member
    obtain ⟨row, kept, own, same⟩ := carried.associated association inside
    exact ⟨row, kept, own.trans owner, same.trans numbered⟩

theorem stored_of_evidence {appId : AppId} {record : PathRecord}
    (member : record ∈ evidenceRecords agent appId) : record ∈ agent.paths := by
  rcases List.mem_append.mp member with observed | marked
  · obtain ⟨mutation, _, found⟩ := List.mem_filterMap.mp observed
    exact List.mem_of_find?_eq_some found
  · obtain ⟨pathId, _, found⟩ := List.mem_filterMap.mp marked
    exact List.mem_of_find?_eq_some found

theorem record_iff {appId : AppId} (ingested : Ingested number appId agent) (pathId : Nat) :
    (∃ record ∈ evidenceRecords agent appId, number record.canonicalPath = pathId) ↔
      pathId ∈ evidenceIds number appId agent := by
  constructor
  · rintro ⟨record, member, rfl⟩
    apply List.mem_append.mpr
    rcases List.mem_append.mp member with observed | marked
    · obtain ⟨mutation, pending, found⟩ := List.mem_filterMap.mp observed
      have same : record.canonicalPath = mutation.path := by simpa using List.find?_some found
      exact Or.inl (List.mem_map.mpr ⟨mutation, pending, by rw [same]⟩)
    · obtain ⟨listed, dirty, found⟩ := List.mem_filterMap.mp marked
      have same : record.pathId = listed := by simpa using List.find?_some found
      rw [← ingested.numbered record (List.mem_of_find?_eq_some found), same]
      exact Or.inr dirty
  · intro member
    rcases List.mem_append.mp member with observed | marked
    · obtain ⟨mutation, pending, rfl⟩ := List.mem_map.mp observed
      obtain ⟨stored, inside, named⟩ := ingested.observed mutation pending
      have known : (agent.paths.find? fun record =>
          record.canonicalPath = mutation.path).isSome :=
        List.find?_isSome.mpr ⟨stored, inside, decide_eq_true named⟩
      obtain ⟨record, found⟩ := Option.isSome_iff_exists.mp known
      have same : record.canonicalPath = mutation.path := by simpa using List.find?_some found
      exact ⟨record, List.mem_append_left _ (List.mem_filterMap.mpr ⟨mutation, pending, found⟩),
        by rw [same]⟩
    · obtain ⟨stored, inside, named⟩ := ingested.marked pathId marked
      have known : (agent.paths.find? fun record => record.pathId = pathId).isSome :=
        List.find?_isSome.mpr
          ⟨stored, inside, decide_eq_true ((ingested.numbered stored inside).trans named)⟩
      obtain ⟨record, found⟩ := Option.isSome_iff_exists.mp known
      have same : record.pathId = pathId := by simpa using List.find?_some found
      refine ⟨record,
        List.mem_append_right _ (List.mem_filterMap.mpr ⟨pathId, marked, found⟩), ?_⟩
      rw [← ingested.numbered record (List.mem_of_find?_eq_some found), same]

theorem candidate_iff (ingested : Ingested number call.appId agent) (pathId : Nat) :
    (∃ candidate ∈ evidenceCandidates call agent, number candidate.canonical = pathId) ↔
      pathId ∈ evidenceIds number call.appId agent := by
  rw [← record_iff ingested]
  constructor
  · rintro ⟨candidate, member, named⟩
    obtain ⟨record, inside, found⟩ := List.mem_filterMap.mp member
    obtain ⟨association, _, rfl⟩ := Option.map_eq_some_iff.mp found
    exact ⟨record, inside, named⟩
  · rintro ⟨record, member, named⟩
    obtain ⟨association, inside, owner, numbered⟩ :=
      ingested.associated pathId ((record_iff ingested pathId).mp ⟨record, member, named⟩)
    have same : association.pathId = record.pathId := by
      rw [numbered, ingested.numbered record (stored_of_evidence member), named]
    have asked : association ∈ agent.associations.filter fun association =>
        association.pathId ∈ (evidenceRecords agent call.appId).map PathRecord.pathId :=
      List.mem_filter.mpr ⟨inside, decide_eq_true (same ▸ List.mem_map_of_mem member)⟩
    have known : ((agent.associations.filter fun association => association.pathId ∈
        (evidenceRecords agent call.appId).map PathRecord.pathId).find? fun association =>
          association.pathId = record.pathId && association.appId = call.appId).isSome :=
      List.find?_isSome.mpr ⟨association, asked, by simp [owner, same]⟩
    obtain ⟨first, found⟩ := Option.isSome_iff_exists.mp known
    refine ⟨⟨record, first⟩, List.mem_filterMap.mpr ⟨record, member, ?_⟩, named⟩
    rw [candidateOf, found]
    rfl

theorem named_iff (ingested : Ingested number call.appId agent)
    (distinct : ∀ other, number other = number path → other = path) :
    namedByEvidence call agent path ↔ number path ∈ evidenceIds number call.appId agent := by
  rw [← candidate_iff ingested]
  constructor
  · rintro ⟨candidate, member, rfl⟩
    exact ⟨candidate, member, rfl⟩
  · rintro ⟨candidate, member, same⟩
    exact ⟨candidate, member, distinct _ same⟩

theorem no_candidates_iff (ingested : Ingested number call.appId agent) :
    evidenceCandidates call agent = [] ↔ evidenceIds number call.appId agent = [] := by
  rw [List.eq_nil_iff_forall_not_mem, List.eq_nil_iff_forall_not_mem]
  constructor
  · intro none pathId member
    obtain ⟨candidate, inside, _⟩ := (candidate_iff ingested pathId).mpr member
    exact none candidate inside
  · intro none candidate member
    exact none _ ((candidate_iff ingested _).mp ⟨candidate, member, rfl⟩)

end Scope

/-- What the next personal backup of an app has in its scope, by the state before the one that
failed: `due` tells whether a reconciliation is still asked for. -/
def InScope (next : BackupCall) (parent : Option Parent) (number : String → Nat) (path : String)
    (due : Prop) (agent : Agent) : Prop :=
  ¬ seemsClean next parent agent ∧
    (parent = none ∨ next.performance = .full ∨ due ∨
      ((dirtyStateOf agent next.appId).isSome ∧ evidenceIds number next.appId agent = []) ∨
      number path ∈ evidenceIds number next.appId agent)

def StillConsiders (next : BackupCall) (parent : Option Parent) (path : String) (agent : Agent) :
    Prop :=
  ∃ scope last, (backupScope next (.done parent)).eval agentHandler agent = (.ok scope, last) ∧
    scope.Considers path

theorem inScope_of_left {number : String → Nat} {path : String} {before later : Agent}
    {next : BackupCall} {parent : Option Parent} {keeps : Bool} {done : AgentOp → Prop}
    (carried : Carried number next.appId before later)
    (reconciled : Reconciled number next.appId path keeps before done later)
    (cleared : keeps = false →
      done (.clearReconciliation next.appId) ∧ done (.clearDirtyRoots next.appId))
    (ingested : Ingested number next.appId before)
    (distinct : ∀ other, number other = number path → other = path) :
    (¬ seemsClean next parent later ∧
        (looksEverywhere next parent later ∨ namedByEvidence next later path)) ↔
      InScope next parent number path
        (keeps = true ∧ reconciliationDue before next.appId = true) before := by
  have kept := ingested_of_carried carried ingested
  have dirty : (dirtyStateOf later next.appId).isSome =
      (dirtyStateOf before next.appId).isSome := by
    rw [← Option.isSome_map, carried.dirty, Option.isSome_map]
  have clean : seemsClean next parent later ↔ seemsClean next parent before := by
    unfold seemsClean
    rw [pending_of_carried carried, ← Option.not_isSome_iff_eq_none,
      ← Option.not_isSome_iff_eq_none, dirty]
  have due : reconciliationDue later next.appId = true ↔
      keeps = true ∧ reconciliationDue before next.appId = true := by
    cases keeps with
    | true => rw [reconciled.due rfl, and_iff_right rfl]
    | false =>
        rw [reconciliationDue, reconciled.unflagged (cleared rfl).1,
          reconciled.rootless (cleared rfl).2]
        simp
  rw [InScope, clean, looksEverywhere, due, named_iff kept distinct, no_candidates_iff kept,
    evidenceIds_of_carried carried, dirty]
  simp only [or_assoc]

/-- After a backup or a seal that fails between reconciling an app and retiring its evidence, a
path that the reconciliation visited is in the scope of the next personal backup exactly when
the app did not seem clean and everything is looked at, or the evidence is about the path. -/
theorem considered_after_failure (work : SealWork) (next : BackupCall) (number : String → Nat)
    (path : String) (start : SealAgent) (final : Config sealInterface StateError SealAgent)
    (failed : FailedRun work next.appId path start final) (personal : next.mode = .personalState)
    (ingested : Ingested number next.appId start.agent)
    (calm : Undisturbed number next.appId path start.agent.weather) (parent : Option Parent) :
    StillConsiders next parent path final.state.agent ↔
      InScope next parent number path
        (work.keeps = true ∧ reconciliationDue start.agent next.appId = true) start.agent := by
  obtain ⟨carried, reconciled⟩ := failed.leaves calm rfl ingested
  obtain ⟨entry, named, own, scanned⟩ := failed.visited
  have tracked := reconciled.tracked entry scanned named own
  have still := calm
  rw [← carried.weather] at still
  have returns := backupScope_returns parent still personal tracked
  rw [← inScope_of_left carried reconciled failed.cleared ingested calm.distinct]
  constructor
  · rintro ⟨scope, last, evaluated, considered⟩
    exact (returns.of_eval evaluated).mp considered
  · intro inside
    obtain ⟨scope, last, evaluated, exactly⟩ := returns
    exact ⟨scope, last, evaluated, exactly.mpr inside⟩

def acknowledges (test : AgentOp → Bool) : Event sealInterface StateError → Bool
  | ⟨.agent op, .ok _⟩ => test op
  | _ => false

theorem acknowledged_of_any {test : AgentOp → Bool}
    {history : List (Event sealInterface StateError)}
    (found : history.any (acknowledges test) = true) :
    ∃ op, test op = true ∧ acknowledged history op := by
  obtain ⟨⟨op, reply⟩, member, holds⟩ := List.any_eq_true.mp found
  cases op with
  | agent op =>
      cases reply with
      | ok value => exact ⟨op, holds, value, member⟩
      | error error => cases holds
  | _ => cases holds

def scans (appId : AppId) (path : String) : AgentOp → Bool
  | .indexScanned owner entry => owner = appId && entry.record.canonicalPath = path &&
      entry.association.appId = appId
  | _ => false

def unflags (appId : AppId) : AgentOp → Bool
  | .clearReconciliation owner => owner = appId
  | _ => false

def uproots (appId : AppId) : AgentOp → Bool
  | .clearDirtyRoots owner => owner = appId
  | _ => false

def SealWork.attempt (work : SealWork) (signals : List (Signal StateError)) (start : SealAgent) :
    Outcome StateError Unit × List (Signal StateError) ×
      Config sealInterface StateError SealAgent :=
  work.program.exec sealHandler signals ⟨[], start⟩

def SealWork.fails (work : SealWork) (appId : AppId) (path : String)
    (signals : List (Signal StateError)) (start : SealAgent) : Bool :=
  work.program.follows sealHandler
    (fun config event _ => !event.op.retires appId config.state.agent) signals ⟨[], start⟩ &&
  (work.attempt signals start).2.2.history.any (acknowledges (scans appId path)) &&
  (work.attempt signals start).2.2.history.any (acknowledges (unflags appId)) &&
  (work.attempt signals start).2.2.history.any (acknowledges (uproots appId)) &&
  match (work.attempt signals start).1 with
  | .error _ => true
  | _ => false

theorem failedRun_of_fails {work : SealWork} {appId : AppId} {path : String}
    {signals : List (Signal StateError)} {start : SealAgent} (serves : work.serves appId)
    (fails : work.fails appId path signals start = true) :
    FailedRun work appId path start (work.attempt signals start).2.2 := by
  simp only [SealWork.fails, Bool.and_eq_true] at fails
  obtain ⟨⟨⟨⟨follows, scanned⟩, unflagged⟩, uprooted⟩, error⟩ := fails
  have run := @follows_runs _ _ _ _ sealHandler
    (fun config event _ => event.op.retires appId config.state.agent = false) _
    (fun config event state checked => by simpa using checked) work.program signals
    ⟨[], start⟩ follows
  refine ⟨serves, ?_, ?_, fun _ => ⟨?_, ?_⟩⟩
  · split at error
    · rename_i reason failed
      rw [SealWork.attempt] at failed ⊢
      rw [failed] at run
      exact ⟨reason, run⟩
    · cases error
  · obtain ⟨op, tested, asked⟩ := acknowledged_of_any scanned
    cases op with
    | indexScanned owner entry =>
        simp only [scans, Bool.and_eq_true, decide_eq_true_eq] at tested
        obtain ⟨⟨rfl, named⟩, own⟩ := tested
        exact ⟨entry, named, own, asked⟩
    | _ => cases tested
  · obtain ⟨op, tested, asked⟩ := acknowledged_of_any unflagged
    cases op with
    | clearReconciliation owner =>
        rw [show owner = appId by simpa [unflags] using tested] at asked
        exact asked
    | _ => cases tested
  · obtain ⟨op, tested, asked⟩ := acknowledged_of_any uprooted
    cases op with
    | clearDirtyRoots owner =>
        rw [show owner = appId by simpa [uproots] using tested] at asked
        exact asked
    | _ => cases tested

namespace Sample

def slotPath : String := "/home/gamer/.local/share/game/slot.dat"

def slotCandidate : Candidate :=
  { record := { pathId := 2, canonicalPath := slotPath }
    association :=
      { appId := appId, pathId := 2, persistenceClass := .persistentState,
        semanticRole := .userState } }

def walkedEntry (candidate : Candidate) : ScanEntry :=
  { record := candidate.record
    association := candidate.association
    key := some (context.logicalOf candidate).key
    node := some (saveFile [2]) }

def committedParent : Parent :=
  ({ bundleId := uuidA
     commitId := uuidB
     app := { appId := appId, displayName := "Game" }
     source := ⟨uuidA, 1⟩
     mode := .personalState }, [])

def flaggedAgent : Agent :=
  { dirtyApps := [⟨appId, true⟩]
    dirtyPaths := [(appId, 1)]
    paths := [saveCandidate.record]
    associations := [saveCandidate.association]
    commits := [⟨uuidB, appId, uuidA, some 1⟩]
    parents := [((appId, uuidA), committedParent)]
    tree := fun path => if path = savePath ∨ path = slotPath then some (saveFile [2]) else none
    stores := fun _ => {}
    uuids := uuidAt
    clock := fun n => n
    weather := { stillWeather with
      walked := fun _ => [walkedEntry saveCandidate, walkedEntry slotCandidate] } }

def flaggedStart : SealAgent := ⟨flaggedAgent, [appId], []⟩

def refusal (work : SealWork) : List (Signal StateError) :=
  match work with
  | .backup _ => List.replicate 46 .proceed ++ [.refuse (.storage "unreachable")]
  | .sealing _ => List.replicate 42 .proceed ++ [.refuse (.storage "unreachable")]

def gameSeal : SealWork :=
  .sealing { instanceId := uuidA, imageId := "image", backupOf := fun _ => backupCall }

def afterRefusal (work : SealWork) : Agent :=
  (work.attempt (refusal work) flaggedStart).2.2.state.agent

theorem backup_fails : FailedRun (.backup backupCall) appId slotPath flaggedStart
    ((SealWork.backup backupCall).attempt (refusal (.backup backupCall)) flaggedStart).2.2 :=
  failedRun_of_fails rfl (by decide +kernel)

theorem gameSeal_fails : FailedRun gameSeal appId slotPath flaggedStart
    (gameSeal.attempt (refusal gameSeal) flaggedStart).2.2 :=
  failedRun_of_fails trivial (by decide +kernel)

def pathNumber (path : String) : Nat :=
  if path = savePath then 1 else if path = slotPath then 2 else 0

theorem flaggedAgent_ingested : Ingested pathNumber appId flaggedAgent := by
  constructor <;> decide +kernel

theorem flaggedAgent_calm : Undisturbed pathNumber appId slotPath flaggedAgent.weather where
  distinct other same := by
    unfold pathNumber at same
    split at same
    · exact absurd same (by decide)
    · split at same
      · assumption
      · exact absurd same (by decide)
  numbered steps entry member := by
    rcases List.mem_pair.mp member with rfl | rfl <;> decide
  likely steps entry member _ := by
    rcases List.mem_pair.mp member with rfl | rfl <;> rfl
  classified steps rows kept := kept
  kept steps rows association member := ⟨association, member, rfl, rfl⟩
  steam steps candidate member := by cases member
  noManifest steps candidate member := by cases member

def leavesOut (path : String) : Except StateError BackupScope → Bool
  | .ok (.selected _ _ candidates) => candidates.all fun candidate => candidate.canonical ≠ path
  | .ok (.upToDate _) => true
  | .error _ => false

theorem not_considers_of_leavesOut {path : String} {agent : Agent} {program : AgentProg BackupScope}
    (out : leavesOut path (program.eval agentHandler agent).1 = true) :
    ∃ scope last, program.eval agentHandler agent = (.ok scope, last) ∧
      ¬ scope.Considers path := by
  cases evaluated : program.eval agentHandler agent with
  | mk outcome last =>
      rw [evaluated] at out
      cases outcome with
      | error error => cases out
      | ok scope =>
          refine ⟨scope, last, rfl, ?_⟩
          cases scope with
          | upToDate manifest => exact id
          | selected pending parent candidates =>
              rintro ⟨candidate, member, named⟩
              have other := List.all_eq_true.mp out candidate member
              rw [decide_eq_true_eq] at other
              exact other named

end Sample

/-- The run fails, and the next one leaves out a path that the reconciliation has found. -/
def SealWork.Drops (work : SealWork) : Prop :=
  ∃ next path start final, FailedRun work next.appId path start final ∧
    next.mode = .personalState ∧
    ∃ scope last, (backupScope next (loadParent next)).eval agentHandler final.state.agent =
      (.ok scope, last) ∧ ¬ scope.Considers path

/-- The provider refuses the bundle of a backup, and that of a seal, after a reconciliation has
found a second file. The next run has the dirty path in its scope and not the second file. -/
theorem reconciled_change_dropped :
    (SealWork.backup Sample.backupCall).Drops ∧ Sample.gameSeal.Drops := by
  constructor
  · refine ⟨Sample.backupCall, _, _, _, Sample.backup_fails, rfl, ?_⟩
    exact Sample.not_considers_of_leavesOut (by decide +kernel)
  · refine ⟨Sample.backupCall, _, _, _, Sample.gameSeal_fails, rfl, ?_⟩
    exact Sample.not_considers_of_leavesOut (by decide +kernel)

theorem considered_after_failure_full :
    StillConsiders { Sample.backupCall with performance := .full } (some Sample.committedParent)
      Sample.slotPath (Sample.afterRefusal (.backup Sample.backupCall)) := by
  apply (considered_after_failure (.backup Sample.backupCall)
    { Sample.backupCall with performance := .full } Sample.pathNumber Sample.slotPath
    Sample.flaggedStart _ Sample.backup_fails rfl Sample.flaggedAgent_ingested
    Sample.flaggedAgent_calm _).mpr
  have dirty : dirtyStateOf Sample.flaggedAgent Sample.appId ≠ none := by decide +kernel
  exact ⟨fun clean => dirty clean.2.1, Or.inr (Or.inl rfl)⟩

end Noland.Backup
