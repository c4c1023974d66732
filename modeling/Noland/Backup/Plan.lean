import Noland.Core.LogicalPath
import Noland.StateDb.Tables

/-!
The part of `run_backup` that decides what the next manifest holds. Files and tombstones are
collected in separate places, and nothing takes a tombstone back when its path turns out to exist.
-/

namespace Noland.Backup

open Noland.Core Noland.StateDb

structure FileNode where
  bytes : List UInt8
  mtimeNs : Option Int
  inode : Nat
  mode : Nat
  deriving DecidableEq

/-- The file hash and the content-defined chunks of some bytes. -/
structure Chunker where
  fileHash : List UInt8 → String
  chunks : List UInt8 → List ChunkRef

structure PathRecord where
  pathId : Nat
  canonicalPath : String
  fileType : Option String := none
  mountId : Option Nat := none
  deriving DecidableEq

/-- `likely` tells whether the row passes the filter of
`likely_backup_associations`. -/
structure PathAssociation where
  appId : AppId
  pathId : Nat
  persistenceClass : PersistenceClass
  semanticRole : SemanticRole
  likely : Bool := true
  deriving DecidableEq

structure Candidate where
  record : PathRecord
  association : PathAssociation
  deriving DecidableEq

def Candidate.canonical (candidate : Candidate) : String := candidate.record.canonicalPath

inductive BackupPerformanceMode where
  | fast
  | balanced
  | full
  deriving DecidableEq

inductive BackupDecision where
  | include
  | includeSharedReference
  | includeAsOverlay
  | includeAsBaseOrOverlay
  | metadataOnly
  | encryptedInclude
  | exclude
  | deferAndReconcile
  deriving DecidableEq

def BackupDecision.keepsContent (completeInstallContent : Bool) : BackupDecision → Bool
  | .exclude => false
  | .metadataOnly | .deferAndReconcile => completeInstallContent
  | _ => true

abbrev PathKey := String × String

def fileKey (file : ManifestFile) : PathKey := (file.logicalRoot, file.relativePath)

def manifestFile (files : List ManifestFile) (key : PathKey) : Option ManifestFile :=
  files.find? fun file => fileKey file = key

def removeManifestFile (files : List ManifestFile) (key : PathKey) : List ManifestFile :=
  files.filter fun file => fileKey file ≠ key

def insertTombstone (tombstones : List (PathKey × String)) (key : PathKey) (reason : String) :
    List (PathKey × String) :=
  tombstones.filter (fun entry => entry.1 ≠ key) ++ [(key, reason)]

def outsideScopeReason : String := "outside strict Steam backup scope"

def observedDeletionReason : String := "observed deletion or rename"

structure PlanContext where
  roots : LogicalRootMap
  mode : BackupMode
  performance : BackupPerformanceMode
  scope : Option (String → Bool)
  installRoots : List String
  hasParent : Bool
  decide : PathRecord → PathAssociation → BackupMode → BackupDecision
  indexed : PathKey → Option FileStateRecord

structure Plan where
  files : List ManifestFile
  tombstones : List (PathKey × String) := []
  changed : List (Candidate × LogicalPath) := []

namespace PlanContext

def manifestSourcePath (context : PlanContext) (file : ManifestFile) : Option String :=
  file.sourcePathHint.or ((LogicalRoot.parse file.logicalRoot).bind fun root =>
    (context.roots.resolve root).map fun base => pathJoin base file.relativePath)

def inScope (context : PlanContext) (file : ManifestFile) : Bool :=
  match context.scope with
  | none => true
  | some contains => (context.manifestSourcePath file).any contains

def inherit (context : PlanContext) (files : List ManifestFile) : Plan :=
  { files := files.filter context.inScope
    tombstones := (files.filter fun file => !context.inScope file).foldl
      (fun tombstones file => insertTombstone tombstones (fileKey file) outsideScopeReason) [] }

def removedKeys (context : PlanContext) (mutation : AppMutationRecord) : List PathKey :=
  ((if mutation.kind = .delete then some mutation.path else none).toList ++
    mutation.previousPath.toList).filterMap fun path =>
      (context.roots.classify path).map LogicalPath.key

def removeKey (plan : Plan) (key : PathKey) : Plan :=
  { plan with
    files := removeManifestFile plan.files key
    tombstones := insertTombstone plan.tombstones key observedDeletionReason }

def applyMutation (context : PlanContext) (plan : Plan) (mutation : AppMutationRecord) : Plan :=
  (context.removedKeys mutation).foldl removeKey plan

/-- A candidate outside every root is filed under the home directory. -/
def logicalOf (context : PlanContext) (candidate : Candidate) : LogicalPath :=
  (context.roots.classify candidate.canonical).getD
    (LogicalPath.new .home (candidate.canonical.toList.dropWhile (· == '/')))

def completeInstallContent (context : PlanContext) (candidate : Candidate) : Bool :=
  context.mode = .completeApplication && context.installRoots.any fun root =>
    pathStartsWith candidate.canonical.toList root.toList

def keepsContent (context : PlanContext) (candidate : Candidate) : Bool :=
  (context.decide candidate.record candidate.association context.mode).keepsContent
    (context.completeInstallContent candidate)

def unchanged (context : PlanContext) (key : PathKey) (node : FileNode) : Bool :=
  context.performance ≠ .full && (context.indexed key).any fun state =>
    state.fastIdentityMatches node.bytes.length (node.mtimeNs.getD 0) (some node.inode) none

inductive CandidateAction where
  | missing
  | skip
  | reuse (inherited : ManifestFile)
  | capture
  deriving DecidableEq

def candidateAction (context : PlanContext) (plan : Plan) (candidate : Candidate)
    (node : Option FileNode) : CandidateAction :=
  match node with
  | none => .missing
  | some node =>
      if context.keepsContent candidate then
        match manifestFile plan.files (context.logicalOf candidate).key with
        | some inherited =>
            if context.unchanged (context.logicalOf candidate).key node then .reuse inherited
            else .capture
        | none => .capture
      else .skip

def applyAction (context : PlanContext) (plan : Plan) (candidate : Candidate) :
    CandidateAction → Plan
  | .missing =>
      { plan with
        files := removeManifestFile plan.files (context.logicalOf candidate).key
        tombstones :=
          if context.hasParent then
            insertTombstone plan.tombstones (context.logicalOf candidate).key observedDeletionReason
          else plan.tombstones }
  | .skip => { plan with files := removeManifestFile plan.files (context.logicalOf candidate).key }
  | .reuse inherited =>
      { plan with
        files := removeManifestFile plan.files (context.logicalOf candidate).key ++ [inherited] }
  | .capture =>
      { plan with
        files := removeManifestFile plan.files (context.logicalOf candidate).key
        changed := plan.changed ++ [(candidate, context.logicalOf candidate)] }

def planCandidate (context : PlanContext) (plan : Plan) (candidate : Candidate)
    (node : Option FileNode) : Plan :=
  context.applyAction plan candidate (context.candidateAction plan candidate node)

end PlanContext

/-- The entry of a captured file: what was hashed, with the live metadata read
afterwards. -/
def capturedFile (chunker : Chunker) (candidate : Candidate) (logical : LogicalPath)
    (bytes : List UInt8) (live : FileNode) : ManifestFile :=
  { logicalRoot := logical.logicalRoot.asToken
    relativePath := logical.relativePath
    sourcePathHint := some candidate.canonical
    fileType := candidate.record.fileType.getD "file"
    size := bytes.length
    fileHash := chunker.fileHash bytes
    chunks := chunker.chunks bytes
    mode := some live.mode
    mtimeNs := live.mtimeNs
    persistenceClass := candidate.association.persistenceClass
    semanticRole := candidate.association.semanticRole }

def keyLe (left right : PathKey) : Bool :=
  left.1 < right.1 || (left.1 = right.1 && left.2 ≤ right.2)

def sortFiles (files : List ManifestFile) : List ManifestFile :=
  files.insertionSort fun left right => keyLe (fileKey left) (fileKey right)

def sortTombstones (tombstones : List (PathKey × String)) : List ManifestTombstone :=
  (tombstones.insertionSort fun left right => keyLe left.1 right.1).map fun (key, reason) =>
    ⟨key.1, key.2, reason⟩

def tombstoneKey (tombstone : ManifestTombstone) : PathKey :=
  (tombstone.logicalRoot, tombstone.relativePath)

/-- All that the plan of one run depends on. The candidates come in the order of
their canonical paths. -/
structure BackupInput where
  context : PlanContext
  parentFiles : List ManifestFile
  pending : List AppMutationRecord
  candidates : List Candidate
  ordered : candidates.Pairwise fun left right => left.canonical < right.canonical
  tree : String → Option FileNode
  chunker : Chunker

namespace BackupInput

def node (input : BackupInput) (candidate : Candidate) : Option FileNode :=
  input.tree candidate.canonical

def plan (input : BackupInput) : Plan :=
  input.candidates.foldl
    (fun plan candidate => input.context.planCandidate plan candidate (input.node candidate))
    (input.pending.foldl input.context.applyMutation (input.context.inherit input.parentFiles))

def captured (input : BackupInput) : List ManifestFile :=
  input.plan.changed.filterMap fun (candidate, logical) =>
    (input.node candidate).map fun node =>
      capturedFile input.chunker candidate logical node.bytes node

def files (input : BackupInput) : List ManifestFile :=
  sortFiles (input.plan.files ++ input.captured)

def tombstones (input : BackupInput) : List ManifestTombstone :=
  sortTombstones input.plan.tombstones

end BackupInput

end Noland.Backup
