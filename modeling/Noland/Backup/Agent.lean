import Noland.Lib.Requests
import Noland.Backup.Plan

/-!
What a run of `run_backup` reads and changes. One operation is one statement, file access or
provider call; `Weather` lists what comes from outside between two of them, such as writes to the
files of the app.
-/

namespace Noland.Backup

open Noland.Core Noland.StateDb Noland.Requests

abbrev Parent := BundleManifest × List PackIndexEntry

structure Store where
  packs : List String := []
  bundles : List ((AppId × Uuid) × Parent) := []

def lookupParent (bundles : List ((AppId × Uuid) × Parent)) (appId : AppId) (bundle : Uuid) :
    Option Parent :=
  (bundles.find? fun entry => entry.1 = (appId, bundle)).map Prod.snd

def insertParent (bundles : List ((AppId × Uuid) × Parent)) (parent : Parent) :
    List ((AppId × Uuid) × Parent) :=
  bundles.filter (fun entry => entry.1 ≠ (parent.1.app.appId, parent.1.bundleId)) ++
    [((parent.1.app.appId, parent.1.bundleId), parent)]

/-- A row of `bundle_commits`, in the order of insertion. -/
structure BundleCommit where
  commitId : Uuid
  appId : AppId
  bundleId : Uuid
  committedAt : Option Timestamp
  deriving DecidableEq

/-- `record_commit`: an existing row keeps its app and bundle. -/
def recordBundleCommit (rows : List BundleCommit) (row : BundleCommit) : List BundleCommit :=
  if rows.any fun known => known.commitId = row.commitId then
    rows.map fun known =>
      if known.commitId = row.commitId then
        { known with committedAt := row.committedAt.or known.committedAt }
      else known
  else rows ++ [row]

def laterCommit (best : Option BundleCommit) (row : BundleCommit) : Option BundleCommit :=
  match best with
  | none => some row
  | some known => if known.committedAt.getD 0 ≤ row.committedAt.getD 0 then some row else some known

def latestCommit (rows : List BundleCommit) (appId : AppId) : Option BundleCommit :=
  (rows.filter fun row => row.appId = appId && row.committedAt.isSome).foldl laterCommit none

structure ScanEntry where
  record : PathRecord
  association : PathAssociation
  key : Option PathKey
  node : Option FileNode

/-- What the outside does, by the number of operations carried out. -/
structure Weather where
  writes : Nat → List (String × Option FileNode)
  walked : Nat → List ScanEntry
  reclassified : Nat → List PathAssociation → List PathAssociation
  steamManifest : Nat → Option Candidate
  /-- How many items a feeder hands out when a cancellation stops it. -/
  fed : Nat → Option Nat

structure DirtyState where
  dirtyPaths : List Nat
  requiresReconciliation : Bool
  deriving DecidableEq

structure Agent where
  mutations : List AppMutationRecord := []
  dirtyApps : List DirtyApp := []
  dirtyPaths : List (AppId × Nat) := []
  dirtyRoots : List DirtyRootRecord := []
  fileStates : List FileStateRecord := []
  remoteContent : List RemoteContentEntry := []
  commits : List BundleCommit := []
  paths : List PathRecord := []
  associations : List PathAssociation := []
  parents : List ((AppId × Uuid) × Parent) := []
  tree : String → Option FileNode
  staged : List (String × List UInt8) := []
  stores : String → Store
  uuids : Nat → Uuid
  clock : Nat → Timestamp
  drawn : Nat := 0
  ticks : Nat := 0
  weather : Weather
  steps : Nat := 0

inductive AgentOp where
  | persistOperation
  | dirtyState (appId : AppId)
  | pendingMutations (appId : AppId) (limit : Nat)
  | listDirtyRoots (appId : AppId)
  | latestCommit (appId : AppId)
  | readCachedParent (appId : AppId) (bundle : Uuid)
  | readCommittedManifest (storage : String) (appId : AppId) (bundle : Uuid)
  | readPackIndex (storage : String) (appId : AppId) (bundle : Uuid)
  | cacheParent (parent : Parent)
  | rememberPackIndex (storage : String) (index : List PackIndexEntry)
  | walkRoots (appId : AppId)
  | indexScanned (appId : AppId) (entry : ScanEntry)
  | clearReconciliation (appId : AppId)
  | clearDirtyRoots (appId : AppId)
  | reclassifyApp (appId : AppId)
  | associationsForApp (appId : AppId)
  | likelyAssociations (appId : AppId)
  | pathByCanonical (path : String)
  | pathById (pathId : Nat)
  | associationsForPaths (pathIds : List Nat)
  | trackSteamManifest (appId : AppId)
  | listFileStates (appId : AppId)
  | isFile (path : String)
  | metadata (path : String)
  | keepInherited (entry : ManifestFile) (node : FileNode)
  | exists (path : String)
  | copySource (path : String)
  | stagedBytes (path : String)
  | sourceMetadata (path : String)
  | listRemoteContent (storage : String)
  | putChunk (hash : String)
  | checkCancelled
  | feedJobs (count : Nat)
  | feedPlans (count : Nat)
  | recordUploading (manifest : BundleManifest)
  | uploadPack (storage : String) (packId : String)
  | publishBundle (storage : String) (parent : Parent)
  | recordCommitted (manifest : BundleManifest)
  | updateCatalog (storage : String) (manifest : BundleManifest)
  | upsertFileStates (states : List FileStateRecord)
  | markProcessed (ids : List Uuid)
  | clearDirtyApp (appId : AppId)
  | clearDirtyPaths (appId : AppId)
  | newUuid
  | utcNow
  | writeFile (path : String) (node : Option FileNode)
  | appendMutation (mutation : AppMutationRecord)
  | markDirtyApp (appId : AppId) (requiresReconciliation : Bool)
  | markDirtyPath (appId : AppId) (pathId : Nat)
  | markDirtyRoot (root : DirtyRootRecord)
  | setFileStateTrust (appId : AppId) (key : PathKey) (trust : FileStateTrust)

def AgentOp.Ret : AgentOp → Type
  | .dirtyState _ => Option DirtyState
  | .pendingMutations _ _ => List AppMutationRecord
  | .listDirtyRoots _ => List DirtyRootRecord
  | .latestCommit _ => Option Uuid
  | .readCachedParent _ _ => Option Parent
  | .readCommittedManifest _ _ _ => BundleManifest
  | .readPackIndex _ _ _ => List PackIndexEntry
  | .walkRoots _ => List ScanEntry
  | .associationsForApp _ | .likelyAssociations _ => List Candidate
  | .pathByCanonical _ | .pathById _ => Option PathRecord
  | .associationsForPaths _ => List PathAssociation
  | .trackSteamManifest _ => Option Candidate
  | .listFileStates _ => List FileStateRecord
  | .isFile _ | .exists _ | .appendMutation _ => Bool
  | .metadata _ | .sourceMetadata _ => FileNode
  | .stagedBytes _ => List UInt8
  | .listRemoteContent _ => List RemoteContentEntry
  | .feedJobs _ | .feedPlans _ => Nat
  | .newUuid => Uuid
  | .utcNow => Timestamp
  | _ => Unit

def agentInterface : Interface := { Op := AgentOp, Ret := AgentOp.Ret }

abbrev AgentProg := Prog agentInterface StateError

namespace Agent

def settle (agent : Agent) : Agent :=
  { agent with
    tree := (agent.weather.writes agent.steps).foldl
      (fun tree write path => if path = write.1 then write.2 else tree path) agent.tree
    steps := agent.steps + 1 }

def withStore (agent : Agent) (storage : String) (store : Store) : Agent :=
  { agent with stores := fun other => if other = storage then store else agent.stores other }

def upsertPath (rows : List PathRecord) (record : PathRecord) : List PathRecord :=
  rows.filter (fun row => row.canonicalPath ≠ record.canonicalPath) ++ [record]

def upsertAssociation (rows : List PathAssociation) (association : PathAssociation) :
    List PathAssociation :=
  rows.filter (fun row => row.appId ≠ association.appId ∨ row.pathId ≠ association.pathId) ++
    [association]

def scannedState (appId : AppId) (key : PathKey) (node : Option FileNode) : FileStateRecord :=
  { appId := appId
    logicalRoot := key.1
    relativePath := key.2
    size := (node.map fun node => node.bytes.length).getD 0
    mtimeNs := (node.bind FileNode.mtimeNs).getD 0
    inode := node.map FileNode.inode
    contentHash := none
    trust := .verifyRequired }

def indexScanned (agent : Agent) (appId : AppId) (entry : ScanEntry) : Agent :=
  { agent with
    paths := upsertPath agent.paths entry.record
    associations := upsertAssociation agent.associations entry.association
    fileStates :=
      match entry.key with
      | none => agent.fileStates
      | some key => upsertFileState agent.fileStates (scannedState appId key entry.node) }

def commitRow (agent : Agent) (manifest : BundleManifest) (committed : Bool) : BundleCommit :=
  { commitId := manifest.commitId
    appId := manifest.app.appId
    bundleId := manifest.bundleId
    committedAt := if committed then some (agent.clock agent.ticks) else none }

def after (agent : Agent) : AgentOp → Agent
  | .cacheParent parent => { agent with parents := insertParent agent.parents parent }
  | .rememberPackIndex storage index =>
      { agent with
        remoteContent := upsertRemoteContentEntries agent.remoteContent
          (index.map fun entry => ⟨storage, entry.chunkHash, entry⟩) }
  | .indexScanned appId entry => agent.indexScanned appId entry
  | .clearReconciliation appId =>
      { agent with dirtyApps := clearReconciliationRequired agent.dirtyApps appId }
  | .clearDirtyRoots appId =>
      { agent with dirtyRoots := agent.dirtyRoots.filter fun row => row.appId ≠ appId }
  | .reclassifyApp _ =>
      { agent with associations := agent.weather.reclassified agent.steps agent.associations }
  | .trackSteamManifest _ =>
      { agent with
        paths := (agent.weather.steamManifest agent.steps).toList.foldl
          (fun rows candidate => upsertPath rows candidate.record) agent.paths
        associations := (agent.weather.steamManifest agent.steps).toList.foldl
          (fun rows candidate => upsertAssociation rows candidate.association) agent.associations }
  | .copySource path =>
      { agent with
        staged := (agent.tree path).toList.foldl
          (fun copies node => copies.filter (fun copy => copy.1 ≠ path) ++ [(path, node.bytes)])
          agent.staged }
  | .recordUploading manifest =>
      { agent with
        commits := recordBundleCommit agent.commits (agent.commitRow manifest false)
        ticks := agent.ticks + 1 }
  | .uploadPack storage packId =>
      agent.withStore storage
        { agent.stores storage with packs := (agent.stores storage).packs ++ [packId] }
  | .publishBundle storage parent =>
      agent.withStore storage
        { agent.stores storage with bundles := insertParent (agent.stores storage).bundles parent }
  | .recordCommitted manifest =>
      { agent with
        commits := recordBundleCommit agent.commits (agent.commitRow manifest true)
        ticks := agent.ticks + 1 }
  | .upsertFileStates states =>
      { agent with fileStates := StateDb.upsertFileStates agent.fileStates states }
  | .markProcessed ids =>
      { agent with
        mutations := markAppMutationsProcessed agent.mutations ids (agent.clock agent.ticks)
        ticks := agent.ticks + 1 }
  | .clearDirtyApp appId =>
      { agent with dirtyApps := agent.dirtyApps.filter fun row => row.appId ≠ appId }
  | .clearDirtyPaths appId =>
      { agent with dirtyPaths := agent.dirtyPaths.filter fun row => row.1 ≠ appId }
  | .newUuid => { agent with drawn := agent.drawn + 1 }
  | .utcNow => { agent with ticks := agent.ticks + 1 }
  | .writeFile path node =>
      { agent with tree := fun other => if other = path then node else agent.tree other }
  | .appendMutation mutation =>
      { agent with mutations := (appendAppMutation agent.mutations mutation).2 }
  | .markDirtyApp appId requiresReconciliation =>
      { agent with dirtyApps := markDirtyApp agent.dirtyApps appId requiresReconciliation }
  | .markDirtyPath appId pathId =>
      { agent with dirtyPaths := markDirtyPath agent.dirtyPaths appId pathId }
  | .markDirtyRoot root => { agent with dirtyRoots := markDirtyRoot agent.dirtyRoots root }
  | .setFileStateTrust appId key trust =>
      { agent with fileStates := setFileStateTrust agent.fileStates appId key.1 key.2 trust }
  | _ => agent

def found {α : Type} : Option α → Except StateError α
  | some value => .ok value
  | none => .error (.io .notFound)

def candidatesOf (agent : Agent) (keep : PathAssociation → Bool) : List Candidate :=
  (agent.associations.filter keep).filterMap fun association =>
    (agent.paths.find? fun record => record.pathId = association.pathId).map fun record =>
      ⟨record, association⟩

def answer (agent : Agent) : (op : AgentOp) → Except StateError op.Ret
  | .dirtyState appId =>
      .ok ((agent.dirtyApps.find? fun row => row.appId = appId).map fun row =>
        (⟨(agent.dirtyPaths.filter fun path => path.1 = appId).map Prod.snd,
          row.requiresReconciliation⟩ : DirtyState))
  | .pendingMutations appId limit => .ok (pendingAppMutations agent.mutations appId limit)
  | .listDirtyRoots appId => .ok (agent.dirtyRoots.filter fun row => row.appId = appId)
  | .latestCommit appId => .ok ((Backup.latestCommit agent.commits appId).map BundleCommit.bundleId)
  | .readCachedParent appId bundle => .ok (lookupParent agent.parents appId bundle)
  | .readCommittedManifest storage appId bundle =>
      (found (lookupParent (agent.stores storage).bundles appId bundle)).map Prod.fst
  | .readPackIndex storage appId bundle =>
      (found (lookupParent (agent.stores storage).bundles appId bundle)).map Prod.snd
  | .walkRoots _ => .ok (agent.weather.walked agent.steps)
  | .associationsForApp appId =>
      .ok (agent.candidatesOf fun association => association.appId = appId)
  | .likelyAssociations appId =>
      .ok (agent.candidatesOf fun association => association.appId = appId && association.likely)
  | .pathByCanonical path => .ok (agent.paths.find? fun record => record.canonicalPath = path)
  | .pathById pathId => .ok (agent.paths.find? fun record => record.pathId = pathId)
  | .associationsForPaths pathIds =>
      .ok (agent.associations.filter fun association => association.pathId ∈ pathIds)
  | .trackSteamManifest _ => .ok (agent.weather.steamManifest agent.steps)
  | .listFileStates appId => .ok (agent.fileStates.filter fun state => state.appId = appId)
  | .isFile path | .exists path => .ok (agent.tree path).isSome
  | .metadata path | .sourceMetadata path => found (agent.tree path)
  | .copySource path => (found (agent.tree path)).map fun _ => ()
  | .stagedBytes path => found ((agent.staged.find? fun copy => copy.1 = path).map Prod.snd)
  | .listRemoteContent storage =>
      .ok (agent.remoteContent.filter fun row => row.storageId = storage)
  | .feedJobs count | .feedPlans count =>
      .ok (((agent.weather.fed agent.steps).map fun handed => min handed count).getD count)
  | .newUuid => .ok (agent.uuids agent.drawn)
  | .utcNow => .ok (agent.clock agent.ticks)
  | .appendMutation mutation => .ok (appendAppMutation agent.mutations mutation).1
  | .persistOperation | .checkCancelled | .cacheParent _ | .rememberPackIndex _ _
  | .indexScanned _ _ | .clearReconciliation _ | .clearDirtyRoots _ | .reclassifyApp _
  | .keepInherited _ _ | .putChunk _
  | .recordUploading _ | .uploadPack _ _ | .publishBundle _ _ | .recordCommitted _
  | .updateCatalog _ _ | .upsertFileStates _ | .markProcessed _ | .clearDirtyApp _
  | .clearDirtyPaths _ | .writeFile _ _ | .markDirtyApp _ _ | .markDirtyPath _ _ | .markDirtyRoot _
  | .setFileStateTrust _ _ _ => .ok ()

end Agent

/-- Taking an entry over into the manifest, drawing ids and reading the clock
cannot fail. -/
def agentHandler : Handler agentInterface StateError Agent where
  act op agent := (agent.settle.answer op, agent.settle.after op)
  internal
    | .keepInherited _ _ | .newUuid | .utcNow => true
    | _ => false

abbrev AgentConfig := Config agentInterface StateError Agent

def ask (op : AgentOp) : AgentProg op.Ret := @Prog.perform agentInterface StateError op

def tell (op : AgentOp) : AgentProg (Except StateError op.Ret) :=
  @Prog.observe agentInterface StateError op

section Shape

variable {ops : AgentOp → Prop} {replies : Event agentInterface StateError → Prop}

theorem ask_answers {op : AgentOp} {post : op.Ret → Prop} (used : ops op)
    (answers : ∀ value, replies ⟨op, .ok value⟩ → post value) :
    (ask op).Uses ops replies post :=
  Prog.Uses.perform used answers

theorem ask_uses {op : AgentOp} (used : ops op) : (ask op).Uses ops replies fun _ => True :=
  ask_answers used fun _ _ => trivial

theorem tell_uses {op : AgentOp} (used : ops op) : (tell op).Uses ops replies fun _ => True :=
  Prog.Uses.observe used fun _ _ => trivial

end Shape

end Noland.Backup
