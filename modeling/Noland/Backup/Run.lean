import Noland.Backup.Packs
import Noland.Restore.Planner

/-!
`run_backup` as a request tree. The files are hashed one after another here; the workers of the
agent hash them in any order and sort the results.
-/

namespace Noland.Backup

open Noland.Core Noland.StateDb Noland.Requests Noland.Restore

structure BackupCall where
  app : ManifestApp
  instanceId : Uuid
  mode : BackupMode
  performance : BackupPerformanceMode
  storage : String
  identified : Bool := true
  roots : LogicalRootMap
  steamScope : Option (String → Bool) := none
  knownInstallRoots : List String := []
  decide : PathRecord → PathAssociation → BackupMode → BackupDecision
  packWorkers : Nat := 4
  packing : Packing
  chunker : Chunker

namespace BackupCall

def appId (call : BackupCall) : AppId := call.app.appId

def complete (call : BackupCall) : Bool := call.mode = .completeApplication

def scope (call : BackupCall) : Option (String → Bool) :=
  if call.complete then call.steamScope else none

def installRoots (call : BackupCall) : List String :=
  if call.complete then call.knownInstallRoots else []

def context (call : BackupCall) (hasParent : Bool) (states : List FileStateRecord) : PlanContext :=
  { roots := call.roots
    mode := call.mode
    performance := call.performance
    scope := call.scope
    installRoots := call.installRoots
    hasParent := hasParent
    decide := call.decide
    indexed := indexedState states call.appId }

end BackupCall

def rememberRemotePackIndex (call : BackupCall) (index : List PackIndexEntry) : AgentProg Unit :=
  if call.identified then ask (.rememberPackIndex call.storage index) else .done ()

def fetchParent (call : BackupCall) (bundle : Uuid) : AgentProg Parent := do
  let manifest ← ask (.readCommittedManifest call.storage call.appId bundle)
  let index ← ask (.readPackIndex call.storage call.appId bundle)
  ask (.cacheParent (manifest, index))
  let _ ← (rememberRemotePackIndex call index).attempt
  .done (manifest, index)

def loadParent (call : BackupCall) : AgentProg (Option Parent) := do
  match ← tell (.latestCommit call.appId) with
  | .ok (some bundle) =>
      match ← tell (.readCachedParent call.appId bundle) with
      | .ok (some parent) => do
          let _ ← (rememberRemotePackIndex call parent.2).attempt
          .done (some parent)
      | _ => do
          let fetched ← (fetchParent call bundle).attempt
          .done fetched.toOption
  | _ => .done none

def requiresReconciliation (call : BackupCall) (dirty : Option DirtyState) : AgentProg Bool :=
  if dirty.any DirtyState.requiresReconciliation then .done true
  else do
    let roots ← ask (.listDirtyRoots call.appId)
    .done (roots.any DirtyRootRecord.requiresReconciliation)

/-- A complete backup keeps the dirty evidence until it has committed. -/
def clearReconciled (call : BackupCall) : AgentProg Unit :=
  if call.complete then .done ()
  else do
    ask (.clearReconciliation call.appId)
    ask (.clearDirtyRoots call.appId)

def reconcile (call : BackupCall) (requires : Bool) : AgentProg Unit :=
  if requires || call.complete then do
    ask .persistOperation
    let found ← ask (.walkRoots call.appId)
    Prog.forEach found fun entry => ask (.indexScanned call.appId entry)
    clearReconciled call
  else .done ()

def insertCandidate (candidates : List Candidate) (candidate : Candidate) : List Candidate :=
  match candidates with
  | [] => [candidate]
  | first :: rest =>
      if candidate.canonical < first.canonical then candidate :: first :: rest
      else if candidate.canonical = first.canonical then candidate :: rest
      else first :: insertCandidate rest candidate

def trackedAssociations (call : BackupCall) : AgentProg (List Candidate) :=
  if call.complete then ask (.associationsForApp call.appId)
  else ask (.likelyAssociations call.appId)

def allCandidates (call : BackupCall) : AgentProg (List Candidate) := do
  ask (.reclassifyApp call.appId)
  let rows ← trackedAssociations call
  .done ((rows.filter fun row => call.scope.all fun contains => contains row.canonical).foldl
    insertCandidate [])

def recordByPath : List String → AgentProg (List PathRecord)
  | [] => .done []
  | path :: rest => do
      let record ← ask (.pathByCanonical path)
      let others ← recordByPath rest
      .done (record.toList ++ others)

def recordById : List Nat → AgentProg (List PathRecord)
  | [] => .done []
  | pathId :: rest => do
      let record ← ask (.pathById pathId)
      let others ← recordById rest
      .done (record.toList ++ others)

def candidateOf (call : BackupCall) (associations : List PathAssociation) (record : PathRecord) :
    Option Candidate :=
  (associations.find? fun association =>
    association.pathId = record.pathId && association.appId = call.appId).map fun association =>
      ⟨record, association⟩

def orLikelyCandidates (call : BackupCall) (dirty : Option DirtyState)
    (candidates : List Candidate) : AgentProg (List Candidate) :=
  if candidates = [] ∧ dirty.isSome then do
    let rows ← ask (.likelyAssociations call.appId)
    .done (rows.foldl insertCandidate [])
  else .done candidates

def changedCandidates (call : BackupCall) (dirty : Option DirtyState)
    (pending : List AppMutationRecord) : AgentProg (List Candidate) := do
  let observed ← recordByPath (pending.map AppMutationRecord.path)
  let marked ← recordById ((dirty.map DirtyState.dirtyPaths).getD [])
  let associations ← ask (.associationsForPaths ((observed ++ marked).map PathRecord.pathId))
  orLikelyCandidates call dirty (((observed ++ marked).filterMap
    (candidateOf call associations)).foldl insertCandidate [])

def scopeCandidates (call : BackupCall) (hasParent requires : Bool) (dirty : Option DirtyState)
    (pending : List AppMutationRecord) : AgentProg (List Candidate) :=
  if !hasParent || call.complete || call.performance = .full || requires then allCandidates call
  else changedCandidates call dirty pending

def gatherCandidates (call : BackupCall) (hasParent requires : Bool) (dirty : Option DirtyState)
    (pending : List AppMutationRecord) : AgentProg (List Candidate) := do
  let candidates ← scopeCandidates call hasParent requires dirty pending
  let steam ← ask (.trackSteamManifest call.appId)
  .done (steam.toList.foldl insertCandidate candidates)

def planCandidates (context : PlanContext) : List Candidate → Plan → AgentProg Plan
  | [], plan => .done plan
  | candidate :: rest, plan => do
      match ← tell (.isFile candidate.canonical) with
      | .ok true =>
          if context.keepsContent candidate then do
            let node ← ask (.metadata candidate.canonical)
            match context.candidateAction plan candidate (some node) with
            | .reuse inherited => do
                ask (.keepInherited inherited node)
                planCandidates context rest
                  (context.applyAction plan candidate (.reuse inherited))
            | action => planCandidates context rest (context.applyAction plan candidate action)
          else planCandidates context rest (context.applyAction plan candidate .skip)
      | _ => planCandidates context rest (context.applyAction plan candidate .missing)

def inheritedPlan (context : PlanContext) (parent : Option Parent)
    (pending : List AppMutationRecord) : Plan :=
  pending.foldl context.applyMutation
    (context.inherit ((parent.map fun parent => parent.1.files).getD []))

def finishBackupEvidence (appId : AppId) (pending : List AppMutationRecord) : AgentProg Unit := do
  ask (.markProcessed (pending.map AppMutationRecord.mutationId))
  let remaining : List AppMutationRecord ← ask (.pendingMutations appId 1)
  if remaining ≠ [] then .done ()
  else do
    ask (.clearDirtyRoots appId)
    ask (.clearDirtyApp appId)
    ask (.clearDirtyPaths appId)

def stableCopy : Except StateError FileNode → Except StateError FileNode → Bool
  | .ok before, .ok after =>
      before.bytes.length = after.bytes.length && before.mtimeNs = after.mtimeNs
  | _, _ => false

def copyStable (path : String) : AgentProg Unit := do
  let first ← tell (.metadata path)
  ask (.copySource path)
  let second ← tell (.metadata path)
  if stableCopy first second then .done () else ask (.copySource path)

def createView : List (Candidate × LogicalPath) → AgentProg (List (Candidate × LogicalPath))
  | [] => .done []
  | job :: rest => do
      match ← tell (.exists job.1.canonical) with
      | .ok true => do
          copyStable job.1.canonical
          let others ← createView rest
          .done (job :: others)
      | _ => createView rest

def smallFileThreshold : Nat := 256 * 1024

structure Hashed where
  files : List ManifestFile := []
  states : List FileStateRecord := []
  newChunks : List ChunkRef := []
  remoteEntries : List PackIndexEntry := []
  smallHashes : List String := []

def hashChunks (inherited : List String) (remote : List RemoteContentEntry) :
    List ChunkRef → Hashed → AgentProg Hashed
  | [], hashed => .done hashed
  | chunk :: rest, hashed =>
      if chunk.hash ∈ inherited then hashChunks inherited remote rest hashed
      else
        match remote.find? fun row => row.contentHash = chunk.hash with
        | some row =>
            hashChunks inherited remote rest
              { hashed with remoteEntries := hashed.remoteEntries ++ [row.entry] }
        | none => do
            ask (.putChunk chunk.hash)
            hashChunks inherited remote rest
              { hashed with newChunks := hashed.newChunks ++ [chunk] }

def capturedState (call : BackupCall) (candidate : Candidate) (logical : LogicalPath)
    (bytes : List UInt8) (live : FileNode) : FileStateRecord :=
  { appId := call.appId
    logicalRoot := logical.key.1
    relativePath := logical.key.2
    size := bytes.length
    mtimeNs := live.mtimeNs.getD 0
    inode := some live.inode
    mountId := candidate.record.mountId
    contentHash := some (call.chunker.fileHash bytes)
    trust := .trusted }

def Hashed.addFile (call : BackupCall) (hashed : Hashed) (candidate : Candidate)
    (logical : LogicalPath) (bytes : List UInt8) (live : FileNode) : Hashed :=
  { hashed with
    files := hashed.files ++ [capturedFile call.chunker candidate logical bytes live]
    states := hashed.states ++ [capturedState call candidate logical bytes live]
    smallHashes := hashed.smallHashes ++
      if bytes.length ≤ smallFileThreshold then (call.chunker.chunks bytes).map ChunkRef.hash
      else [] }

def hashFiles (call : BackupCall) (inherited : List String) (remote : List RemoteContentEntry) :
    List (Candidate × LogicalPath) → Hashed → AgentProg Hashed
  | [], hashed => .done hashed
  | (candidate, logical) :: rest, hashed => do
      ask .checkCancelled
      let bytes ← ask (.stagedBytes candidate.canonical)
      let chunked ← hashChunks inherited remote (call.chunker.chunks bytes) hashed
      let live ← ask (.sourceMetadata candidate.canonical)
      hashFiles call inherited remote rest (chunked.addFile call candidate logical bytes live)

def knownRemoteContent (call : BackupCall) : AgentProg (List RemoteContentEntry) :=
  if call.identified then ask (.listRemoteContent call.storage) else .done []

def capture (call : BackupCall) (inherited : List String)
    (changed : List (Candidate × LogicalPath)) : AgentProg Hashed := do
  ask .persistOperation
  let jobs ← createView changed
  ask .persistOperation
  let remote ← knownRemoteContent call
  let handed ← ask (.feedJobs jobs.length)
  hashFiles call inherited remote (jobs.take handed) {}

/-- An ordered map by hash; the last chunk of a hash stays. -/
def insertChunk (chunks : List ChunkRef) (chunk : ChunkRef) : List ChunkRef :=
  chunks.filter (fun known => known.hash ≠ chunk.hash) ++ [chunk]

def packNewChunks (call : BackupCall) (hashed : Hashed) : AgentProg (List BuiltPack) := do
  let chunks := hashed.newChunks.foldl insertChunk []
  let small ← buildPacks call.packing call.packWorkers smallPackLimits
    (chunks.filter fun chunk => chunk.hash ∈ hashed.smallHashes)
  let regular ← buildPacks call.packing call.packWorkers regularPackLimits
    (chunks.filter fun chunk => chunk.hash ∉ hashed.smallHashes)
  .done (small ++ regular)

def bundleIndex (parent : Option Parent) (hashed : Hashed) (packs : List BuiltPack) :
    List PackIndexEntry :=
  mergeIndex ((parent.map Prod.snd).getD [] ++ hashed.remoteEntries ++
    packs.flatMap BuiltPack.entries)

def restoreModeForBackup : BackupMode → RestoreMode
  | .personalState => .personalState
  | .completeApplication => .completeApplication
  | .custom => .custom

structure BundleIds where
  capturedAt : Timestamp
  bundleId : Uuid
  commitId : Uuid

def drawBundleIds : AgentProg BundleIds := do
  let capturedAt ← ask .utcNow
  let bundleId ← ask .newUuid
  let commitId ← ask .newUuid
  .done ⟨capturedAt, bundleId, commitId⟩

def bundleManifest (call : BackupCall) (ids : BundleIds) (parent : Option Parent) (plan : Plan)
    (hashed : Hashed) : BundleManifest :=
  { bundleId := ids.bundleId
    commitId := ids.commitId
    parentBundleId := parent.map fun parent => parent.1.bundleId
    app := call.app
    source := ⟨call.instanceId, ids.capturedAt⟩
    mode := call.mode
    files := sortFiles (plan.files ++ hashed.files)
    tombstones := sortTombstones plan.tombstones }

def commitBundle (call : BackupCall) (pending : List AppMutationRecord) (manifest : BundleManifest)
    (index : List PackIndexEntry) (packs : List BuiltPack) (states : List FileStateRecord) :
    AgentProg BundleManifest := do
  ask .persistOperation
  ask (.recordUploading manifest)
  Prog.forEach packs fun pack => ask (.uploadPack call.storage pack.packId)
  ask (.publishBundle call.storage (manifest, index))
  ask (.recordCommitted manifest)
  ask .persistOperation
  ask (.updateCatalog call.storage manifest)
  ask (.cacheParent (manifest, index))
  rememberRemotePackIndex call index
  ask (.upsertFileStates states)
  finishBackupEvidence call.appId pending
  ask .persistOperation
  .done manifest

def captureAndCommit (call : BackupCall) (pending : List AppMutationRecord) (ids : BundleIds)
    (parent : Option Parent) (plan : Plan) : AgentProg BundleManifest := do
  let hashed ← capture call (((parent.map Prod.snd).getD []).map PackIndexEntry.chunkHash)
    plan.changed
  ask .persistOperation
  let packs ← packNewChunks call hashed
  let manifest := bundleManifest call ids parent plan hashed
  if call.complete ∧ manifest.files = [] then
    .throw (.invalid ("complete application backup for " ++ call.appId.text ++
      " contains no application files; the application is not installed on this instance"))
  else
    commitBundle call pending (embedRestorePlan manifest (restoreModeForBackup call.mode))
      (bundleIndex parent hashed packs) packs hashed.states

/-- Nothing to capture and nothing deleted: the parent, if it can be read. -/
def unchangedParent (call : BackupCall) (parent : Option Parent) (plan : Plan) :
    AgentProg (Option BundleManifest) :=
  match parent with
  | some parent =>
      if plan.changed = [] ∧ plan.tombstones = [] then do
        let manifest ← tell (.readCommittedManifest call.storage call.appId parent.1.bundleId)
        .done manifest.toOption
      else .done none
  | none => .done none

def planAndCommit (call : BackupCall) (pending : List AppMutationRecord) (parent : Option Parent)
    (candidates : List Candidate) : AgentProg BundleManifest := do
  let ids ← drawBundleIds
  let states ← ask (.listFileStates call.appId)
  let context := call.context parent.isSome states
  let plan ← planCandidates context candidates (inheritedPlan context parent pending)
  match ← unchangedParent call parent plan with
  | some manifest => do
      finishBackupEvidence call.appId pending
      ask .persistOperation
      .done manifest
  | none => captureAndCommit call pending ids parent plan

def upToDate (call : BackupCall) (dirty : Option DirtyState) (pending : List AppMutationRecord)
    (parent : Option Parent) : Option BundleManifest :=
  if dirty = none ∧ pending = [] ∧ call.mode = .personalState then parent.map Prod.fst else none

def continueBackup (call : BackupCall) (dirty : Option DirtyState)
    (pending : List AppMutationRecord) : AgentProg BundleManifest := do
  let _ ← ask (.listDirtyRoots call.appId)
  let parent ← loadParent call
  match upToDate call dirty pending parent with
  | some manifest => do
      ask .persistOperation
      .done manifest
  | none => do
      let requires ← requiresReconciliation call dirty
      reconcile call requires
      let candidates ← gatherCandidates call parent.isSome requires dirty pending
      planAndCommit call pending parent candidates

def runBackup (call : BackupCall) : AgentProg BundleManifest := do
  ask .persistOperation
  let dirty ← ask (.dirtyState call.appId)
  let pending ← ask (.pendingMutations call.appId mutationLimit)
  continueBackup call dirty pending

/-- Operations that leave alone what a backup has to keep consistent: the
journal, the commits, the stores and what is remembered of them, the path tables
and the flags of a reconciliation. -/
def AgentOp.passive : AgentOp → Bool
  | .cacheParent _ | .rememberPackIndex _ _ | .keepInherited _ _ | .sourceMetadata _
  | .recordUploading _ | .uploadPack _ _ | .publishBundle _ _ | .recordCommitted _
  | .upsertFileStates _ | .markProcessed _ | .pendingMutations _ _ | .writeFile _ _
  | .appendMutation _ | .setFileStateTrust _ _ _ | .indexScanned _ _ | .clearReconciliation _
  | .clearDirtyRoots _ | .markDirtyApp _ _ | .markDirtyPath _ _ | .markDirtyRoot _ => false
  | _ => true

section Shape

variable {ops : AgentOp → Prop} {replies : Event agentInterface StateError → Prop}

variable {call : BackupCall} (passive : ∀ op : AgentOp, op.passive = true → ops op)

include passive

theorem requiresReconciliation_uses {dirty : Option DirtyState} :
    (requiresReconciliation call dirty).Uses ops replies fun _ => True := by
  unfold requiresReconciliation
  split
  · trivial
  · exact (ask_uses (passive _ rfl)).andThen fun _ => trivial

theorem reconcile_uses {requires : Bool}
    (stores : ∀ found : List ScanEntry, replies ⟨.walkRoots call.appId, .ok found⟩ →
      ∀ entry ∈ found, ops (.indexScanned call.appId entry))
    (clears : call.complete = false →
      ops (.clearReconciliation call.appId) ∧ ops (.clearDirtyRoots call.appId)) :
    (reconcile call requires).Uses ops replies fun _ => True := by
  unfold reconcile clearReconciled
  split
  · apply (ask_uses (passive _ rfl)).andThen
    intro _
    apply (@ask_answers ops replies (.walkRoots call.appId)
      (fun found : List ScanEntry => ∀ entry ∈ found, ops (.indexScanned call.appId entry))
      (passive _ rfl) stores).bind
    intro found stored
    apply Prog.Uses.andThen
    · exact Prog.Uses.forEach fun entry member => ask_uses (stored entry member)
    · intro _
      apply Prog.Uses.ite
      · exact fun _ => trivial
      · intro personal
        obtain ⟨flags, roots⟩ := clears (Bool.eq_false_iff.mpr personal)
        exact (ask_uses flags).andThen fun _ => ask_uses roots
  · trivial

theorem recordByPath_uses (paths : List String) :
    (recordByPath paths).Uses ops replies fun _ => True := by
  induction paths with
  | nil => trivial
  | cons path rest ih =>
      exact (ask_uses (passive _ rfl)).andThen fun _ => ih.andThen fun _ => trivial

theorem recordById_uses (pathIds : List Nat) :
    (recordById pathIds).Uses ops replies fun _ => True := by
  induction pathIds with
  | nil => trivial
  | cons pathId rest ih =>
      exact (ask_uses (passive _ rfl)).andThen fun _ => ih.andThen fun _ => trivial

theorem orLikelyCandidates_uses {dirty : Option DirtyState} (candidates : List Candidate) :
    (orLikelyCandidates call dirty candidates).Uses ops replies fun _ => True := by
  unfold orLikelyCandidates
  split
  · exact (ask_uses (passive _ rfl)).andThen fun _ => trivial
  · trivial

theorem gatherCandidates_uses {hasParent requires : Bool} {dirty : Option DirtyState}
    {pending : List AppMutationRecord} :
    (gatherCandidates call hasParent requires dirty pending).Uses ops replies fun _ => True := by
  apply Prog.Uses.andThen
  · unfold scopeCandidates
    split
    · apply (ask_uses (passive _ rfl)).andThen
      intro _
      apply Prog.Uses.andThen
      · apply Prog.Uses.ite
        · exact fun _ => ask_uses (passive _ rfl)
        · exact fun _ => ask_uses (passive _ rfl)
      · exact fun _ => trivial
    · apply (recordByPath_uses passive _).andThen
      intro _
      apply (recordById_uses passive _).andThen
      intro _
      apply (ask_uses (passive _ rfl)).andThen
      intro _
      exact orLikelyCandidates_uses passive _
  · intro _
    exact (ask_uses (passive _ rfl)).andThen fun _ => trivial

theorem drawBundleIds_uses : drawBundleIds.Uses ops replies fun _ => True := by
  apply (ask_uses (passive _ rfl)).andThen
  intro _
  apply (ask_uses (passive _ rfl)).andThen
  intro _
  exact (ask_uses (passive _ rfl)).andThen fun _ => trivial

theorem copyStable_uses (path : String) : (copyStable path).Uses ops replies fun _ => True := by
  apply (tell_uses (passive _ rfl)).andThen
  intro first
  apply (ask_uses (passive _ rfl)).andThen
  intro _
  apply (tell_uses (passive _ rfl)).andThen
  intro second
  apply Prog.Uses.ite
  · exact fun _ => trivial
  · exact fun _ => ask_uses (passive _ rfl)

theorem createView_uses (jobs : List (Candidate × LogicalPath)) :
    (createView jobs).Uses ops replies fun kept => kept.Sublist jobs := by
  induction jobs with
  | nil => exact List.Sublist.refl _
  | cons job rest ih =>
      apply (tell_uses (passive _ rfl)).andThen
      intro found
      split
      · apply (copyStable_uses passive _).andThen
        intro _
        exact ih.bind fun kept inside => inside.cons_cons job
      · exact ih.to_post fun kept inside => inside.cons job

theorem hashChunks_uses (inherited : List String) (remote : List RemoteContentEntry)
    (chunks : List ChunkRef) (hashed : Hashed) :
    (hashChunks inherited remote chunks hashed).Uses ops replies fun _ => True := by
  induction chunks generalizing hashed with
  | nil => trivial
  | cons chunk rest ih =>
      unfold hashChunks
      split
      · exact ih _
      · split
        · exact ih _
        · exact (ask_uses (passive _ rfl)).andThen fun _ => ih _

theorem packChunkFiles_uses (packing : Packing) (limits : PackLimits) (chunks : List ChunkRef)
    (current : Option BuiltPack) :
    (packChunkFiles packing limits chunks current).Uses ops replies fun _ => True := by
  induction chunks generalizing current with
  | nil => trivial
  | cons chunk rest ih =>
      unfold packChunkFiles
      split
      · trivial
      · split
        · exact (ask_uses (passive _ rfl)).andThen fun _ => ih _
        · split
          · exact (ask_uses (passive _ rfl)).andThen fun _ => (ih _).andThen fun _ => trivial
          · exact ih _

theorem buildPacks_uses (packing : Packing) (workers : Nat) (limits : PackLimits)
    (chunks : List ChunkRef) :
    (buildPacks packing workers limits chunks).Uses ops replies fun _ => True := by
  have serial : ∀ plans,
      (packPlans packing limits plans).Uses ops replies fun _ => True := by
    intro plans
    induction plans with
    | nil => trivial
    | cons plan rest ih =>
        apply (ask_uses (passive _ rfl)).andThen
        intro _
        apply (packChunkFiles_uses passive packing limits plan none).andThen
        intro _
        exact ih.andThen fun _ => trivial
  have parallel : ∀ plans,
      (packPlansParallel packing limits plans).Uses ops replies fun _ => True := by
    intro plans
    induction plans with
    | nil => trivial
    | cons plan rest ih =>
        apply (ask_uses (passive _ rfl)).andThen
        intro _
        apply (packChunkFiles_uses passive packing limits plan none).andThen
        intro packs
        split
        · trivial
        · exact ih.andThen fun _ => trivial
  unfold buildPacks
  cases planPackChunks limits chunks with
  | error error => trivial
  | ok plans =>
      show Prog.Uses ops replies _ (if _ then _ else _)
      split
      · exact serial plans
      · apply (ask_uses (passive _ rfl)).andThen
        intro handed
        exact (parallel _).andThen fun _ => trivial

theorem packNewChunks_uses (hashed : Hashed) :
    (packNewChunks call hashed).Uses ops replies fun _ => True := by
  apply (buildPacks_uses passive _ _ _ _).andThen
  intro _
  exact (buildPacks_uses passive _ _ _ _).andThen fun _ => trivial

theorem finishBackupEvidence_uses {appId : AppId} {pending : List AppMutationRecord}
    (marks : ops (.markProcessed (pending.map AppMutationRecord.mutationId)))
    (reads : ops (.pendingMutations appId 1))
    (clears : ∀ reply, replies ⟨.pendingMutations appId 1, reply⟩ → ops (.clearDirtyRoots appId)) :
    (finishBackupEvidence appId pending).Uses ops replies fun _ => True := by
  apply (ask_uses marks).andThen
  intro _
  apply (ask_answers reads fun value replied => clears (.ok value) replied).bind
  intro (remaining : List AppMutationRecord) roots
  apply Prog.Uses.ite
  · exact fun _ => trivial
  · intro _
    apply (ask_uses roots).andThen
    intro _
    exact (ask_uses (passive _ rfl)).andThen fun _ => ask_uses (passive _ rfl)

end Shape

/-- Operations of a run that no reader of its evidence has to know. -/
def AgentOp.common : AgentOp → Bool
  | .markProcessed _ | .pendingMutations _ _ | .writeFile _ _ | .appendMutation _
  | .setFileStateTrust _ _ _ | .indexScanned _ _ | .clearReconciliation _ | .clearDirtyRoots _
  | .markDirtyApp _ _ | .markDirtyPath _ _ | .markDirtyRoot _ => false
  | _ => true

theorem AgentOp.common_of_passive (op : AgentOp) (passive : op.passive = true) :
    op.common = true := by
  cases op <;> first | rfl | cases passive

section Evidence

variable {ops : AgentOp → Prop} {replies : Event agentInterface StateError → Prop}
  {call : BackupCall} {pending : List AppMutationRecord}

/-- What a run may ask of the rows that say what there is to back up. -/
structure Handles (ops : AgentOp → Prop) (replies : Event agentInterface StateError → Prop)
    (call : BackupCall) (pending : List AppMutationRecord) : Prop where
  common : ∀ op : AgentOp, op.common = true → ops op
  stores : ∀ found : List ScanEntry, replies ⟨.walkRoots call.appId, .ok found⟩ →
    ∀ entry ∈ found, ops (.indexScanned call.appId entry)
  clears : call.complete = false →
    ops (.clearReconciliation call.appId) ∧ ops (.clearDirtyRoots call.appId)
  marks : ops (.markProcessed (pending.map AppMutationRecord.mutationId))
  reads : ops (.pendingMutations call.appId 1)
  ends : ∀ reply, replies ⟨.pendingMutations call.appId 1, reply⟩ →
    ops (.clearDirtyRoots call.appId)

variable (handles : Handles ops replies call pending)

include handles

theorem Handles.passive (op : AgentOp) (passive : op.passive = true) : ops op :=
  handles.common op (op.common_of_passive passive)

theorem rememberRemotePackIndex_uses (index : List PackIndexEntry) :
    (rememberRemotePackIndex call index).Uses ops replies fun _ => True :=
  Prog.Uses.ite (fun _ => ask_uses (handles.common _ rfl)) fun _ => trivial

theorem fetchParent_uses (bundle : Uuid) :
    (fetchParent call bundle).Uses ops replies fun _ => True := by
  apply (ask_uses (handles.common _ rfl)).andThen
  intro manifest
  apply (ask_uses (handles.common _ rfl)).andThen
  intro index
  apply (ask_uses (handles.common _ rfl)).andThen
  intro _
  exact Prog.Uses.bind (rememberRemotePackIndex_uses handles index).attempt fun _ _ => trivial

theorem loadParent_uses :
    (loadParent call).Uses ops replies fun _ => True := by
  apply (tell_uses (handles.common _ rfl)).andThen
  intro latest
  split
  · apply (tell_uses (handles.common _ rfl)).andThen
    intro cached
    split
    · exact Prog.Uses.bind (rememberRemotePackIndex_uses handles _).attempt fun _ _ => trivial
    · exact Prog.Uses.bind (fetchParent_uses handles _).attempt fun _ _ => trivial
  · trivial

theorem planCandidates_uses (context : PlanContext)
    (candidates : List Candidate) (plan : Plan) :
    (planCandidates context candidates plan).Uses ops replies fun _ => True := by
  induction candidates generalizing plan with
  | nil => trivial
  | cons candidate rest ih =>
      apply (tell_uses (handles.common _ rfl)).andThen
      intro found
      split
      · apply Prog.Uses.ite
        · intro _
          apply (ask_uses (handles.common _ rfl)).andThen
          intro node
          split
          · exact (ask_uses (handles.common _ rfl)).andThen fun _ => ih _
          · exact ih _
        · exact fun _ => ih _
      · exact ih _

theorem finishes_uses : (finishBackupEvidence call.appId pending).Uses ops replies fun _ => True :=
  finishBackupEvidence_uses handles.passive handles.marks handles.reads handles.ends

theorem hashFiles_uses (inherited : List String)
    (remote : List RemoteContentEntry) (jobs : List (Candidate × LogicalPath)) (hashed : Hashed) :
    (hashFiles call inherited remote jobs hashed).Uses ops replies
      fun _ => True := by
  induction jobs generalizing hashed with
  | nil => trivial
  | cons job rest ih =>
      apply (ask_uses (handles.common _ rfl)).andThen
      intro _
      apply (ask_uses (handles.common _ rfl)).andThen
      intro bytes
      apply (hashChunks_uses handles.passive _ _ _ _).andThen
      intro chunked
      exact (ask_uses (handles.common _ rfl)).andThen fun live => ih _

theorem capture_uses (inherited : List String)
    (changed : List (Candidate × LogicalPath)) :
    (capture call inherited changed).Uses ops replies fun _ => True := by
  apply (ask_uses (handles.common _ rfl)).andThen
  intro _
  apply (createView_uses handles.passive changed).bind
  intro jobs _
  apply (ask_uses (handles.common _ rfl)).andThen
  intro _
  apply Prog.Uses.andThen
  · exact Prog.Uses.ite (fun _ => ask_uses (handles.common _ rfl)) fun _ => trivial
  · intro remote
    apply (ask_uses (handles.common _ rfl)).andThen
    intro handed
    exact hashFiles_uses handles _ _ _ _

theorem commitBundle_uses (manifest : BundleManifest) (index : List PackIndexEntry)
    (packs : List BuiltPack) (states : List FileStateRecord) :
    (commitBundle call pending manifest index packs states).Uses
      ops replies fun _ => True := by
  apply (ask_uses (handles.common _ rfl)).andThen
  intro _
  apply (ask_uses (handles.common _ rfl)).andThen
  intro _
  apply (Prog.Uses.forEach fun _ _ => ask_uses (handles.common _ rfl)).andThen
  intro _
  apply (ask_uses (handles.common _ rfl)).andThen
  intro _
  apply (ask_uses (handles.common _ rfl)).andThen
  intro _
  apply (ask_uses (handles.common _ rfl)).andThen
  intro _
  apply (ask_uses (handles.common _ rfl)).andThen
  intro _
  apply (ask_uses (handles.common _ rfl)).andThen
  intro _
  apply (rememberRemotePackIndex_uses handles index).andThen
  intro _
  apply (ask_uses (handles.common _ rfl)).andThen
  intro _
  apply (finishes_uses handles).andThen
  intro _
  exact (ask_uses (handles.common _ rfl)).andThen fun _ => trivial

theorem captureAndCommit_uses (ids : BundleIds) (parent : Option Parent) (plan : Plan) :
    (captureAndCommit call pending ids parent plan).Uses
      ops replies fun _ => True := by
  apply (capture_uses handles _ _).andThen
  intro hashed
  apply (ask_uses (handles.common _ rfl)).andThen
  intro _
  apply (packNewChunks_uses handles.passive hashed).andThen
  intro packs
  apply Prog.Uses.ite
  · exact fun _ => trivial
  · exact fun _ => commitBundle_uses handles _ _ _ _

theorem planAndCommit_uses (parent : Option Parent) (candidates : List Candidate) :
    (planAndCommit call pending parent candidates).Uses
      ops replies fun _ => True := by
  apply (drawBundleIds_uses handles.passive).andThen
  intro ids
  apply (ask_uses (handles.common _ rfl)).andThen
  intro states
  apply (planCandidates_uses handles _ _ _).andThen
  intro plan
  apply Prog.Uses.andThen
  · unfold unchangedParent
    split
    · exact Prog.Uses.ite (fun _ => (tell_uses (handles.common _ rfl)).andThen fun _ => trivial)
        fun _ => trivial
    · trivial
  · intro unchanged
    split
    · apply (finishes_uses handles).andThen
      intro _
      exact (ask_uses (handles.common _ rfl)).andThen fun _ => trivial
    · exact captureAndCommit_uses handles _ _ _

theorem continueBackup_uses (dirty : Option DirtyState) :
    (continueBackup call dirty pending).Uses
      ops replies fun _ => True := by
  apply (ask_uses (handles.common _ rfl)).andThen
  intro _
  apply (loadParent_uses handles).andThen
  intro parent
  split
  · exact (ask_uses (handles.common _ rfl)).andThen fun _ => trivial
  · apply (requiresReconciliation_uses handles.passive).andThen
    intro requires
    apply (reconcile_uses handles.passive handles.stores handles.clears).andThen
    intro _
    apply (gatherCandidates_uses handles.passive).andThen
    intro candidates
    exact planAndCommit_uses handles _ _

end Evidence

end Noland.Backup
