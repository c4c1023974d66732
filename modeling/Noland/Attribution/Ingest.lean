import Noland.Attribution.PathPolicy
import Noland.StateDb.Sessions
import Noland.StateDb.Tables

/-!
An event is deferred or excluded by its path, attributed to an app, and then recorded. Of a rename
it is the second path that is looked at. Evidence and its scores are left out, and so are the
columns that describe a file. The foreign key of associations on apps is the one that can fail.
-/

namespace Noland.Attribution

open Noland.Core
open Noland.StateDb

inductive FsEventKind where
  | «open»
  | read
  | write
  | create
  | truncate
  | rename
  | unlink
  | mkdir
  | rmdir
  | chmod
  | chown
  | symlink
  | mmap
  | execve
  deriving DecidableEq

def FsEventKind.isMutation : FsEventKind → Bool
  | .write | .create | .truncate | .rename | .unlink | .mkdir | .rmdir | .chmod | .chown
  | .symlink => true
  | _ => false

structure FilesystemEvent where
  kind : FsEventKind
  pid : Pid
  path : String
  secondPath : Option String := none
  observedAt : Timestamp := 0
  deriving DecidableEq

structure EbpfFilesystemFact where
  kind : FsEventKind
  tgid : Pid
  tid : Pid := 0
  ppid : Pid := 0
  cgroupId : Nat := 0
  path : String
  secondPath : Option String := none
  ioResult : Option Int := none
  observedAt : Timestamp := 0
  deriving DecidableEq

def EbpfFilesystemFact.processId (fact : EbpfFilesystemFact) : Pid :=
  if fact.tgid ≠ 0 then fact.tgid else fact.tid

def EbpfFilesystemFact.asFilesystemEvent (fact : EbpfFilesystemFact) : FilesystemEvent :=
  ⟨fact.kind, fact.processId, fact.path, fact.secondPath, fact.observedAt⟩

inductive FilesystemFact where
  | legacy (event : FilesystemEvent)
  | ebpf (fact : EbpfFilesystemFact)
  deriving DecidableEq

def FilesystemFact.event : FilesystemFact → FilesystemEvent
  | .legacy event => event
  | .ebpf fact => fact.asFilesystemEvent

def FilesystemFact.failed : FilesystemFact → Bool
  | .legacy _ => false
  | .ebpf fact => fact.ioResult.any (· < 0)

def FilesystemEvent.observedPath (event : FilesystemEvent) : String :=
  if event.kind = .rename then event.secondPath.getD event.path else event.path

structure KnownApp where
  appId : AppId
  launcher : Option LauncherKind := none
  steamAppId : Option Nat := none
  deriving DecidableEq

structure RegisteredRoot where
  appId : AppId
  kind : String
  path : String
  deriving DecidableEq

structure CgroupSessionBinding where
  rootPid : Pid
  dedicated : Bool
  ambiguous : Bool
  deriving DecidableEq

/-- A row of `path_associations`. -/
structure AssociationRow where
  pathId : Nat
  appId : AppId
  persistenceClass : PersistenceClass
  deriving DecidableEq

structure FsTables where
  sessions : SessionTables := {}
  apps : List AppId := []
  paths : List String := []
  associations : List AssociationRow := []
  mutations : List AppMutationRecord := []
  dirtyApps : List DirtyApp := []
  dirtyPaths : List (AppId × Nat) := []
  dirtyRoots : List DirtyRootRecord := []
  fileStates : List FileStateRecord := []
  knownRoots : List RegisteredRoot := []
  installers : List (AppId × List String) := []
  deriving DecidableEq

structure FsEngine where
  db : FsTables := {}
  knownApps : List KnownApp := []
  rootRegistry : List RegisteredRoot := []
  steamRoots : List RegisteredRoot := []
  cgroupSessions : List (Nat × CgroupSessionBinding) := []
  openInstallers : List AppId := []
  unresolved : List (FilesystemFact × Nat) := []
  home : Option String := none
  stateRoot : String := "/var/lib/noland/state"
  runRoot : String := "/run/noland"
  deriving DecidableEq

/-- What a call of the engine finds outside: how paths resolve, their logical roots, an id that is
drawn, and the instant in milliseconds. -/
structure Moment where
  canonicalize : String → String
  logical : String → Option (String × String)
  freshId : Uuid
  now : Nat

variable (engine : FsEngine) (moment : Moment)

/-- `max_by_key` of the length keeps the last of the longest. -/
def longest (roots : List RegisteredRoot) : Option RegisteredRoot :=
  roots.foldl (fun best root =>
    match best with
    | none => some root
    | some current =>
        if current.path.utf8ByteSize ≤ root.path.utf8ByteSize then some root else some current)
    none

def knownRootForPath (path : String) : Option RegisteredRoot :=
  let within := fun (root : RegisteredRoot) => startsWith path.toList root.path.toList
  (longest (engine.rootRegistry.filter within)).or (longest (engine.steamRoots.filter within))

def supportsLauncherAttribution (root : RegisteredRoot) : Bool :=
  root.kind = "install" || root.kind = "proton"

def isSteamId (appId : AppId) : Bool := beginsWith appId.text.toList "steam:"

def appLauncher (appId : AppId) : Option LauncherKind :=
  ((engine.knownApps.find? fun app => app.appId = appId).bind KnownApp.launcher).or
    (if isSteamId appId then some .steam else none)

def launcherCanAttributeRoot (session : AppSession) (root : RegisteredRoot) : Bool :=
  supportsLauncherAttribution root &&
    let writerIsGame := isSteamId session.appId ||
      (engine.knownApps.find? fun app => app.appId = session.appId).any
        fun app => app.steamAppId.isSome
    let writerLauncher : Option LauncherKind :=
      match session.source with
      | .steam => some .steam
      | .proton => some .proton
      | .wine => some .wine
      | .bottles => some .bottles
      | _ => appLauncher engine session.appId
    match writerLauncher with
    | some .steam => !writerIsGame && appLauncher engine root.appId = some .steam
    | some .proton =>
        !writerIsGame && (appLauncher engine root.appId = some .steam ||
          appLauncher engine root.appId = some .proton)
    | some .wine => appLauncher engine root.appId = some .wine
    | some .bottles => appLauncher engine root.appId = some .bottles
    | _ => false

def attributedAppId (canonical : String) (event : FilesystemEvent) (session : AppSession) :
    AppId :=
  match knownRootForPath engine canonical with
  | some root =>
      if event.kind.isMutation && root.appId ≠ session.appId &&
          launcherCanAttributeRoot engine session root
      then root.appId
      else session.appId
  | none => session.appId

def inferInitialClass (path : List Char) (kind : FsEventKind) (inKnownRoot : Bool) :
    PersistenceClass :=
  if isNolandInternal path || looksLikeCache path || looksLikeLockOrSocket path ||
      isHardVolatileRoot path then .ephemeral
  else if isBaseSystemPath path && !kind.isMutation then .baseImage
  else if inKnownRoot && kind.isMutation then .reconstructableApp
  else if looksLikeUserState path || kind.isMutation then .persistentState
  else .unknown

def initialClass (canonical : String) (event : FilesystemEvent) (session : AppSession) :
    PersistenceClass :=
  let appId := attributedAppId engine canonical event session
  inferInitialClass canonical.toList event.kind
    ((knownRootForPath engine canonical).any fun root =>
      root.appId = appId && root.kind = "install")

def pathIsExcluded (path : String) : Bool :=
  (isNolandInternal path.toList || isAtOrBelow path.toList engine.stateRoot ||
    isAtOrBelow path.toList engine.runRoot) ||
  isTrackingExcluded path.toList (knownRootForPath engine path).isSome engine.home

def eventIsExcluded (event : FilesystemEvent) : Bool :=
  pathIsExcluded engine (moment.canonicalize event.observedPath)

def upsertPath (paths : List String) (canonical : String) : List String × Nat :=
  match paths.idxOf? canonical with
  | some pathId => (paths, pathId)
  | none => (paths ++ [canonical], paths.length)

def upsertAssociation (rows : List AssociationRow) (row : AssociationRow) : List AssociationRow :=
  rows.filter (fun other => other.appId ≠ row.appId ∨ other.pathId ≠ row.pathId) ++ [row]

def mutationKind : FsEventKind → AppMutationKind
  | .create | .mkdir | .symlink => .create
  | .rename => .rename
  | .unlink | .rmdir => .delete
  | .chmod | .chown => .metadata
  | _ => .modify

def requiresReconciliation (kind : FsEventKind) : Bool :=
  kind = .rename || kind = .unlink || kind = .rmdir

def mutationOf (canonical : String) (appId : AppId) (event : FilesystemEvent) :
    AppMutationRecord where
  mutationId := moment.freshId
  appId := appId
  path := canonical
  previousPath := if event.kind = .rename then some (moment.canonicalize event.path) else none
  kind := mutationKind event.kind
  observedAt := event.observedAt

def dirtyRootOf (canonical : String) : String :=
  match parentOf canonical.toList with
  | some parent => String.ofList parent
  | none => canonical

def recordMutation (db : FsTables) (canonical : String) (row : AssociationRow)
    (event : FilesystemEvent) : FsTables :=
  let appended := appendAppMutation db.mutations (mutationOf moment canonical row.appId event)
  if appended.1 then
    let logical := moment.logical canonical
    { db with
      mutations := appended.2
      dirtyApps := markDirtyApp db.dirtyApps row.appId (requiresReconciliation event.kind)
      dirtyPaths := markDirtyPath db.dirtyPaths row.appId row.pathId
      dirtyRoots := markDirtyRoot db.dirtyRoots
        { appId := row.appId
          canonicalRoot := dirtyRootOf canonical
          logicalRoot := logical.map Prod.fst
          mutationCount := 1
          requiresReconciliation := requiresReconciliation event.kind }
      fileStates :=
        match logical with
        | some (root, relative) =>
            setFileStateTrust db.fileStates row.appId root relative
              (if mutationKind event.kind = .delete then .missing else .dirty)
        | none => db.fileStates }
  else { db with mutations := appended.2 }

def associationOf (canonical : String) (event : FilesystemEvent) (session : AppSession) :
    AssociationRow :=
  ⟨(upsertPath engine.db.paths canonical).2, attributedAppId engine canonical event session,
    initialClass engine canonical event session⟩

def recordAssociation (db : FsTables) (canonical : String) (row : AssociationRow) : FsTables :=
  { db with
    paths := (upsertPath db.paths canonical).1
    associations := upsertAssociation db.associations row }

def ingestFsForSession (event : FilesystemEvent) (session : AppSession) :
    FsEngine × Except StateError (Option AssociationRow) :=
  let canonical := moment.canonicalize event.observedPath
  if pathIsExcluded engine canonical then (engine, .ok none)
  else
    let row := associationOf engine canonical event session
    if row.appId ∈ engine.db.apps then
      let db := recordAssociation engine.db canonical row
      if event.kind.isMutation && row.persistenceClass ≠ .ephemeral then
        ({ engine with db := recordMutation moment db canonical row event }, .ok (some row))
      else ({ engine with db }, .ok (some row))
    else
      ({ engine with db := { engine.db with paths := (upsertPath engine.db.paths canonical).1 } },
        .error (.database "FOREIGN KEY constraint failed"))

def markInstallRoots (db : FsTables) (appId : AppId) : List DirtyRootRecord :=
  if appId ∈ db.apps then
    (db.knownRoots.filter fun root => root.appId = appId && root.kind = "install" &&
      (classifyObservedPath root.path.toList).disposition ≠ .installStagingFile &&
      (classifyObservedPath root.path.toList).disposition ≠ .temporaryFile).foldl
      (fun rows root => markDirtyRoot rows
        { appId, canonicalRoot := root.path, logicalRoot := none, mutationCount := 1
          requiresReconciliation := true })
      db.dirtyRoots
  else db.dirtyRoots

def deferUnfinishedEvent (event : FilesystemEvent) : FsEngine × Bool :=
  let decision := classifyObservedPath event.observedPath.toList
  match decision.disposition with
  | .temporaryFile => (engine, true)
  | .installStagingFile =>
      match decision.appId with
      | none => (engine, true)
      | some appId =>
          if appId ∈ engine.openInstallers then (engine, true)
          else
            ({ engine with
              openInstallers := engine.openInstallers ++ [appId]
              db := { engine.db with
                installers := engine.db.installers ++
                  [(appId, (decision.transactionRoot.map String.ofList).toList)]
                dirtyApps := markDirtyApp engine.db.dirtyApps appId true
                dirtyRoots := markInstallRoots engine.db appId } }, true)
  | .runtimeDependency => (engine, true)
  | .finalApplicationFile | .userStateFile | .unknown => (engine, false)

def sessionForEbpfFs (fact : EbpfFilesystemFact) : Option AppSession :=
  let forPid := fun (pid : Pid) => if pid ≠ 0 then engine.db.sessions.sessionForPid pid else none
  let direct := (forPid fact.tgid).or (forPid fact.tid)
  let bound :=
    if fact.cgroupId ≠ 0 then
      match engine.cgroupSessions.find? fun binding => binding.1 = fact.cgroupId with
      | some (_, binding) =>
          if binding.dedicated && !binding.ambiguous then
            engine.db.sessions.sessionForPid binding.rootPid
          else none
      | none => none
    else none
  bound.or (direct.or (forPid fact.ppid))

def sessionFor : FilesystemFact → Option AppSession
  | .legacy event => engine.db.sessions.sessionForPid event.pid
  | .ebpf fact => sessionForEbpfFs engine fact

def unresolvedTtl : Nat := 2000

def unresolvedLimit : Nat := 256

def dropExpired (now : Nat) (pending : List (FilesystemFact × Nat)) :
    List (FilesystemFact × Nat) :=
  pending.dropWhile fun entry => unresolvedTtl < now - entry.2

def queueUnresolved (fact : FilesystemFact) : FsEngine :=
  let pending := dropExpired moment.now engine.unresolved
  let pending := if pending.length = unresolvedLimit then pending.tail else pending
  { engine with unresolved := pending ++ [(fact, moment.now)] }

/-- `ingest_fs` and `ingest_ebpf_fs`. -/
def ingestFs (fact : FilesystemFact) : FsEngine × Except StateError (Option AssociationRow) :=
  if fact.failed then (engine, .ok none)
  else
    let (deferred, ends) := deferUnfinishedEvent engine fact.event
    if ends || eventIsExcluded deferred moment fact.event then (deferred, .ok none)
    else
      match sessionFor deferred fact with
      | none => (queueUnresolved deferred moment fact, .ok none)
      | some session => ingestFsForSession deferred moment fact.event session

end Noland.Attribution
