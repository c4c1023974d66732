import Noland.Restore.Transaction

/-!
The state a restore works on and what its operations do there. An operation
stands for one call or for a group of calls of which only the last one changes
something.
-/

namespace Noland.Restore

open Noland.Core Noland.FileTree Noland.Text Noland.Requests

structure Workspace where
  present : Bool := true
  journal : Option Journal := none
  artifacts : List (Staged × (List UInt8 × Nat)) := []
  chunks : List (String × List UInt8) := []

namespace Workspace

def artifact (workspace : Workspace) (staged : Staged) : Option (List UInt8 × Nat) :=
  workspace.artifacts.lookup staged

def items (workspace : Workspace) : List WorkspaceItem :=
  workspace.journal.toList.map (fun _ => .journal) ++
    workspace.artifacts.map (fun entry => .artifact entry.1) ++
    workspace.chunks.map fun entry => .chunk entry.1

def removeItem (workspace : Workspace) : WorkspaceItem → Workspace
  | .journal => { workspace with journal := none }
  | .artifact staged =>
      { workspace with artifacts := workspace.artifacts.filter fun entry => entry.1 ≠ staged }
  | .chunk token =>
      { workspace with chunks := workspace.chunks.filter fun entry => entry.1 ≠ token }

end Workspace

structure RestoredAssociation where
  canonicalPath : String
  persistenceClass : PersistenceClass
  semanticRole : SemanticRole
  deriving DecidableEq

structure World where
  tree : Tree
  workspace : Workspace := {}
  transaction : Transaction := {}
  views : Nat := 0
  associations : List RestoredAssociation := []

def longestRoot (path : Path) : Option Path → List Path → Option Path
  | best, [] => best
  | best, root :: rest =>
      if root.isPrefixOf path ∧ ∀ other ∈ best, other.length ≤ root.length then
        longestRoot path (some root) rest
      else longestRoot path best rest

def validateRecoveryDestination (tree : Tree) (journal : Journal) (destination : Path) :
    Except StateError Unit :=
  match longestRoot destination none journal.allowedRoots with
  | none =>
      .error (.unsafePath ("recovery destination is outside journaled logical roots: " ++
        display destination))
  | some root => validateParentChain tree root destination

def Journal.destinations (journal : Journal) : List Path :=
  journal.rollbackMappings.map PathMapping.source ++
    journal.priorSymlinks.map SymlinkRollback.destination ++
    journal.createdPaths ++ journal.createdDirectories ++ journal.partialPaths

def validateAll (tree : Tree) (journal : Journal) : List Path → Except StateError Unit
  | [] => .ok ()
  | destination :: rest => do
      validateRecoveryDestination tree journal destination
      validateAll tree journal rest

/-- Journaled paths are absolute and normalized as lists of components, and the
copies they name lie below the workspace. -/
def validateRecoveryJournal (tree : Tree) (journal : Journal) : Except StateError Unit :=
  if journal.version ≠ transactionJournalVersion then
    .error (.invalid ("unsupported restore transaction journal version " ++
      toString journal.version))
  else validateAll tree journal journal.destinations

def requireDestinationParent (tree : Tree) (path : Path) : Except StateError Unit :=
  if path = [] then .error (.unsafePath ("destination has no parent: " ++ display path))
  else
    match tree.lstat path.dropLast with
    | .ok (.symlink _) =>
        .error (.unsafePath ("destination parent is a symlink: " ++ display path.dropLast))
    | .ok .directory => .ok ()
    | .ok (.file _ _) =>
        .error (.invalid ("destination parent is not a directory: " ++ display path.dropLast))
    | .error error => .error (.io (ioKind error))

def foundDirectory {α : Type} (path : Path) : Except StateError α :=
  .error (.unsafePath ("recovery expected a file or symlink but found a directory: " ++
    display path))

def ensureRecoveryLeafReplaceable (tree : Tree) (path : Path) : Except StateError Unit := do
  match ← lstatIfPresent tree path with
  | some .directory => foundDirectory path
  | _ => .ok ()

def removeRecoveryLeaf (tree : Tree) (path : Path) : Except StateError Tree := do
  match ← lstatIfPresent tree path with
  | none => .ok tree
  | some .directory => foundDirectory path
  | some _ => ofIo (tree.removeFile path)

def removePathIfPresent (tree : Tree) (path : Path) : Except StateError (Tree × Bool) := do
  match ← lstatIfPresent tree path with
  | none => .ok (tree, false)
  | some .directory => do
      let later ← ofIo (tree.removeDirAll path)
      .ok (later, true)
  | some _ => do
      let later ← ofIo (tree.removeFile path)
      .ok (later, true)

def syncParentDirectory (tree : Tree) (path : Path) : Except StateError Unit :=
  if path = [] then .error (.unsafePath ("path has no parent: " ++ display path))
  else do
    let _ ← ofIo (tree.stat path.dropLast)
    .ok ()

def trimLabel : Nat → List Char → List Char
  | 0, text => text
  | count + 1, text =>
      if "blake3:".toList.isPrefixOf text then trimLabel count (text.drop 7) else text

def hexDigit (c : Char) : Bool :=
  ('0' ≤ c && c ≤ '9') || ('a' ≤ c && c ≤ 'f') || ('A' ≤ c && c ≤ 'F')

def restoreChunkToken (hash : String) : Except StateError String :=
  let token := trimLabel hash.length hash.toList
  if token.length = 64 ∧ token.all hexDigit = true then .ok (String.ofList token)
  else .error (.integrity ("invalid restore chunk hash " ++ hash))

def verifyPartial (hash : List UInt8 → String) (tree : Tree) (path : Path) (file : ManifestFile) :
    Except StateError Unit := do
  let bytes ← ofIo (tree.readFile path)
  if bytes.length ≠ file.size then
    .error (.integrity ("file size mismatch for " ++ file.relativePath ++ ": expected " ++
      toString file.size ++ ", got " ++ toString bytes.length))
  else if hash bytes ≠ file.fileHash then
    .error (.integrity ("file hash mismatch for " ++ file.relativePath))
  else .ok ()

def captureFiles (tree : Tree) (view : Nat) (files : List Path) :
    List (PathMapping × (List UInt8 × Nat)) :=
  files.zipIdx.filterMap fun (source, index) =>
    match tree.stat source with
    | .ok (.file bytes mode) => some (⟨source, ⟨view, index⟩⟩, (bytes, mode))
    | _ => none

/-- `fs::copy` of a staged copy. -/
def copyTo (tree : Tree) (path : Path) (bytes : List UInt8) (mode : Nat) : Except Errno Tree :=
  tree.change path fun place found =>
    match found with
    | some .directory => .error .isADirectory
    | _ => .ok (tree.insert place (.file bytes mode))

inductive RestoreOp where
  | recollect
  | remember (update : Transaction → Transaction)
  | preflight (target : RestoreTarget)
  | rollbackSources (destinations : List Path)
  | createView (files : List Path)
  | persistJournal (state : JournalState)
  | missingDirectoryChain (root destination : Path)
  | createDir (path : Path)
  | syncParent (path : Path)
  | validateParentChain (root destination : Path)
  | removeLeaf (path : Path)
  | createNew (path : Path)
  | appendChunk (path : Path) (hash : String)
  | verifyPartial (path : Path) (file : ManifestFile)
  | setPermissions (path : Path) (mode : Nat)
  | createSymlink (target : String) (path : Path)
  | rename (source destination : Path)
  | evictChunk (hash : String)
  | removePathIfPresent (path : Path)
  | validateRecoveryJournal (journal : Journal)
  | validateRecoveryDestination (journal : Journal) (destination : Path)
  | requireDestinationParent (path : Path)
  | ensureLeafReplaceable (path : Path)
  | artifactMetadata (staged : Staged)
  | copyArtifact (staged : Staged) (path : Path)
  | syncFile (path : Path)
  | removeDir (path : Path)
  | releasePackLinks
  | prunePackCache
  | resolveAssociation (file : ManifestFile)
  | upsertAssociations (associations : List RestoredAssociation)
  | workspaceExists
  | listWorkspace
  | removeWorkspaceItem (item : WorkspaceItem)
  | removeWorkspaceDirectory
  | readJournal

def RestoreOp.Ret : RestoreOp → Type
  | .recollect => Transaction
  | .preflight _ => List PlannedDestination × List PlannedTombstone
  | .rollbackSources _ => List Path × List SymlinkRollback
  | .createView _ => List PathMapping
  | .missingDirectoryChain _ _ => List Path
  | .evictChunk _ | .removePathIfPresent _ | .workspaceExists => Bool
  | .resolveAssociation _ => RestoredAssociation
  | .listWorkspace => List WorkspaceItem
  | .readJournal => Option Journal
  | _ => Unit

def restoreInterface : Interface := { Op := RestoreOp, Ret := RestoreOp.Ret }

abbrev RestoreProg := Prog restoreInterface StateError

namespace World

def onTree (world : World) (later : Except StateError Tree) : Except StateError Unit × World :=
  match later with
  | .ok tree => (.ok (), { world with tree := tree })
  | .error error => (.error error, world)

def look {α : Type} (world : World) (answer : Except StateError α) : Except StateError α × World :=
  (answer, world)

def appendChunk (world : World) (path : Path) (hash : String) : Except StateError Tree := do
  let token ← restoreChunkToken hash
  match world.workspace.chunks.lookup token with
  | none => .error (.io .notFound)
  | some bytes => ofIo (world.tree.append path bytes)

def evictChunk (world : World) (hash : String) : Except StateError Bool × World :=
  match restoreChunkToken hash with
  | .error error => (.error error, world)
  | .ok token =>
      (.ok (world.workspace.chunks.lookup token).isSome,
        { world with workspace := world.workspace.removeItem (.chunk token) })

def createView (world : World) (files : List Path) : Except StateError (List PathMapping) × World :=
  let captured := captureFiles world.tree world.views files
  (.ok (captured.map Prod.fst),
    { world with
      views := world.views + 1
      workspace :=
        { world.workspace with
          artifacts := world.workspace.artifacts ++
            captured.map fun entry => (entry.1.staged, entry.2) } })

def copyArtifact (world : World) (staged : Staged) (path : Path) : Except StateError Tree :=
  match world.workspace.artifact staged with
  | none => .error (.io .notFound)
  | some (bytes, mode) => ofIo (copyTo world.tree path bytes mode)

def artifactMetadata (world : World) (staged : Staged) : Except StateError Unit :=
  match world.workspace.artifact staged with
  | none => .error (.invalid "rollback artifact is unavailable")
  | some _ => .ok ()

def resolveAssociation (world : World) (roots : LogicalRootMap) (file : ManifestFile) :
    Except StateError RestoredAssociation := do
  let (_, destination) ← resolveDestination roots world.tree file
  .ok ⟨display destination, file.persistenceClass, file.semanticRole⟩

def act (setup : RestoreSetup) (world : World) : (op : RestoreOp) → Except StateError op.Ret × World
  | .recollect => (.ok world.transaction, world)
  | .remember update => (.ok (), { world with transaction := update world.transaction })
  | .preflight target => world.look (Restore.preflight setup world.tree world.transaction target)
  | .rollbackSources destinations => world.look (Restore.rollbackSources world.tree destinations)
  | .createView files => world.createView files
  | .persistJournal state =>
      (.ok (), { world with
        workspace := { world.workspace with
          present := true
          journal := some (world.transaction.journalSnapshot setup.plan state) } })
  | .missingDirectoryChain root destination =>
      world.look (Restore.missingDirectoryChain world.tree root destination)
  | .createDir path => world.onTree (ofIo (world.tree.createDir path))
  | .syncParent path => world.look (syncParentDirectory world.tree path)
  | .validateParentChain root destination =>
      world.look (Restore.validateParentChain world.tree root destination)
  | .removeLeaf path => world.onTree (removeRecoveryLeaf world.tree path)
  | .createNew path => world.onTree (ofIo (world.tree.createNew path))
  | .appendChunk path hash => world.onTree (world.appendChunk path hash)
  | .verifyPartial path file => world.look (Restore.verifyPartial setup.hash world.tree path file)
  | .setPermissions path mode => world.onTree (ofIo (world.tree.setMode path mode))
  | .createSymlink target path => world.onTree (ofIo (world.tree.createSymlink target path))
  | .rename source destination => world.onTree (ofIo (world.tree.rename source destination))
  | .evictChunk hash => world.evictChunk hash
  | .removePathIfPresent path =>
      match Restore.removePathIfPresent world.tree path with
      | .ok (tree, removed) => (.ok removed, { world with tree := tree })
      | .error error => (.error error, world)
  | .validateRecoveryJournal journal =>
      world.look (Restore.validateRecoveryJournal world.tree journal)
  | .validateRecoveryDestination journal destination =>
      world.look (Restore.validateRecoveryDestination world.tree journal destination)
  | .requireDestinationParent path => world.look (Restore.requireDestinationParent world.tree path)
  | .ensureLeafReplaceable path => world.look (ensureRecoveryLeafReplaceable world.tree path)
  | .artifactMetadata staged => world.look (world.artifactMetadata staged)
  | .copyArtifact staged path => world.onTree (world.copyArtifact staged path)
  | .syncFile path => world.look ((ofIo (world.tree.stat path)).map fun _ => ())
  | .removeDir path => world.onTree (ofIo (world.tree.removeDir path))
  | .releasePackLinks | .prunePackCache => (.ok (), world)
  | .resolveAssociation file => world.look (world.resolveAssociation setup.roots file)
  | .upsertAssociations associations => (.ok (), { world with associations := associations })
  | .workspaceExists => (.ok world.workspace.present, world)
  | .listWorkspace => (.ok (setup.listing world.workspace.items), world)
  | .removeWorkspaceItem item =>
      (.ok (), { world with workspace := world.workspace.removeItem item })
  | .removeWorkspaceDirectory =>
      (.ok (), { world with workspace := { world.workspace with present := false } })
  | .readJournal => (.ok world.workspace.journal, world)

end World

def restoreHandler (setup : RestoreSetup) : Handler restoreInterface StateError World where
  act op world := world.act setup op
  internal
    | .recollect | .remember _ => true
    | _ => false

def perform (op : RestoreOp) : RestoreProg op.Ret := @Prog.perform restoreInterface StateError op

theorem uses_perform {ops : RestoreOp → Prop} {op : RestoreOp} (used : ops op) :
    (perform op).Uses ops (fun _ => True) fun _ => True :=
  @Prog.Uses.perform restoreInterface StateError ops _ op _ used fun _ _ => trivial

theorem uses_then {ops : RestoreOp → Prop} {α : Type} {op : RestoreOp}
    {next : op.Ret → RestoreProg α} {post : α → Prop} (used : ops op)
    (rest : ∀ value, (next value).Uses ops (fun _ => True) post) :
    (perform op >>= next).Uses ops (fun _ => True) post :=
  (uses_perform used).andThen rest

theorem uses_ofExcept {ops : RestoreOp → Prop} {α : Type} (result : Except StateError α) :
    (Prog.ofExcept result : RestoreProg α).Uses ops (fun _ => True) fun _ => True := by
  cases result with
  | ok value => trivial
  | error error => trivial

def observe (op : RestoreOp) : RestoreProg (Except StateError op.Ret) :=
  @Prog.observe restoreInterface StateError op

def recollect : RestoreProg Transaction := perform .recollect

def remember (update : Transaction → Transaction) : RestoreProg Unit := perform (.remember update)

end Noland.Restore
