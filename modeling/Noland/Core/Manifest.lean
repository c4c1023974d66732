import Mathlib.Algebra.Order.Ring.Nat
import Mathlib.Order.Basic

/-!
The records of `noland-state-core` that the storage, backup and restore models share. A `Uuid` is
its canonical text; a `Timestamp` counts milliseconds. Record fields that no modelled function
reads are left out.
-/

namespace Noland.Core

/-- Lower-case hexadecimal digits with hyphens after the 8th, 12th, 16th and
20th, as `Uuid` is displayed. -/
def hyphenatedUuid (text : List Char) : Bool :=
  text.length == 36 && text.zipIdx.all fun (c, i) =>
    if i = 8 ∨ i = 13 ∨ i = 18 ∨ i = 23 then c == '-'
    else ('0' ≤ c && c ≤ '9') || ('a' ≤ c && c ≤ 'f')

structure Uuid where
  text : String
  hyphenated : hyphenatedUuid text.toList = true
  deriving DecidableEq

structure AppId where
  text : String
  deriving DecidableEq

abbrev Timestamp := Int

/-- On `u64`. -/
def saturatingAdd (left right : Nat) : Nat := min (left + right) (2 ^ 64 - 1)

/-- `StateError` with its message texts; `io` keeps only the kinds the code
tells apart. -/
inductive IoKind where
  | notFound
  | notADirectory
  | isADirectory
  | directoryNotEmpty
  | alreadyExists
  | filesystemLoop
  | invalidInput
  | other
  deriving DecidableEq

inductive StateError where
  | message (text : String)
  | notFound (text : String)
  | invalid (text : String)
  | conflict (text : String)
  | unsafePath (text : String)
  | integrity (text : String)
  | storage (text : String)
  | io (kind : IoKind)
  | database (text : String)
  | incompleteCommit
  | sealRequired
  deriving DecidableEq

/-- The characters `storage_safe` keeps; every other one becomes `_`. -/
def storageSafeChar (c : Char) : Bool :=
  ('a' ≤ c && c ≤ 'z') || ('A' ≤ c && c ≤ 'Z') || ('0' ≤ c && c ≤ '9') ||
    c == '-' || c == '_' || c == '.'

def AppId.storageSafe (app : AppId) : String :=
  String.ofList (app.text.toList.map fun c => if storageSafeChar c then c else '_')

inductive PersistenceClass where
  | baseImage
  | reconstructableApp
  | persistentState
  | ephemeral
  | sharedState
  | unknown
  deriving DecidableEq

inductive SemanticRole where
  | appContent
  | userState
  | sharedRuntime
  | cache
  | temp
  | os
  | secret
  | unknown
  deriving DecidableEq

inductive BackupMode where
  | personalState
  | completeApplication
  | custom
  deriving DecidableEq

inductive LauncherKind where
  | steam
  | proton
  | wine
  | bottles
  | heroic
  | lutris
  | flatpak
  | snap
  | native
  | appImage
  | custom
  deriving DecidableEq

inductive RestorePriority where
  | prerequisite
  | critical
  | soon
  | background
  deriving DecidableEq

def RestorePriority.rank : RestorePriority → Nat
  | .prerequisite => 0
  | .critical => 1
  | .soon => 2
  | .background => 3

structure ChunkRef where
  hash : String
  size : Nat
  deriving DecidableEq

structure ManifestFile where
  logicalRoot : String
  relativePath : String
  sourcePathHint : Option String := none
  fileType : String
  size : Nat
  fileHash : String
  chunks : List ChunkRef := []
  mode : Option Nat := none
  mtimeNs : Option Int := none
  symlinkTarget : Option String := none
  persistenceClass : PersistenceClass
  semanticRole : SemanticRole
  deriving DecidableEq

structure ManifestTombstone where
  logicalRoot : String
  relativePath : String
  reason : String
  deriving DecidableEq

structure ManifestApp where
  appId : AppId
  displayName : String
  aliases : List String := []
  desktopEntryId : Option String := none
  steamAppId : Option Nat := none
  launcher : Option LauncherKind := none
  canonicalExecutable : Option String := none
  iconPath : Option String := none
  deriving DecidableEq

structure ManifestSource where
  instanceId : Uuid
  capturedAt : Timestamp
  deriving DecidableEq

/-- One readable row of the `files` array of `restore_plan`. -/
structure RestorePlanHint where
  logicalRoot : String
  relativePath : String
  priority : RestorePriority
  deriving DecidableEq

structure BundleManifest where
  bundleId : Uuid
  commitId : Uuid
  parentBundleId : Option Uuid := none
  app : ManifestApp
  source : ManifestSource
  mode : BackupMode
  files : List ManifestFile := []
  tombstones : List ManifestTombstone := []
  restorePlan : List RestorePlanHint := []
  deriving DecidableEq

def BundleManifest.logicalSize (manifest : BundleManifest) : Nat :=
  (manifest.files.map ManifestFile.size).sum

inductive PackCompression where
  | none
  | zstd
  deriving DecidableEq

structure PackIndexEntry where
  chunkHash : String
  packId : String
  offset : Nat
  ciphertextLen : Nat
  plaintextLen : Nat
  compression : PackCompression := .none
  nonce : List Nat
  deriving DecidableEq

def committedMarker : String := "COMMITTED"

def bundleDir (app : AppId) (bundle : Uuid) : String :=
  "bundles/" ++ app.storageSafe ++ "/" ++ bundle.text

def packKey (packId : String) : String :=
  "packs/" ++ String.ofList (packId.toList.take 2) ++ "/" ++ packId ++ ".pack"

def catalogCommitKey (commit : Uuid) : String :=
  "catalog/commits/" ++ commit.text ++ ".enc"

def catalogCommitMarkerKey (commit : Uuid) : String :=
  "catalog/commits/" ++ commit.text ++ "." ++ committedMarker

def catalogLatestKey : String := "catalog/LATEST"

end Noland.Core
