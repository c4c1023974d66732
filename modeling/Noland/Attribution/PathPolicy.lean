import Mathlib.Data.List.Basic
import Noland.Core.Manifest
import Noland.Lib.Text

/-!
The classifiers by which observed paths are deferred, excluded and given a persistence class. They
look at the text and the components of a path and never at the file.
-/

namespace Noland.Attribution

open Noland.Core
open Noland.Text

def components (path : List Char) : List (List Char) :=
  (pieces '/' path).filter fun piece => piece ≠ [] && piece ≠ ['.']

def isAbsolute (path : List Char) : Bool := path.head? = some '/'

def rootedComponents (path : List Char) : List (List Char) :=
  if isAbsolute path then ['/'] :: components path else components path

/-- `Path::starts_with`: whole components are compared. -/
def startsWith (path root : List Char) : Bool :=
  (rootedComponents root).isPrefixOf (rootedComponents path)

def isAtOrBelow (path : List Char) (root : String) : Bool := startsWith path root.toList

def normalComponents (path : List Char) : List (List Char) :=
  (components path).filter fun component => component ≠ ['.', '.']

/-- `Path::file_name`: none when the last component is `..`. -/
def pathName (path : List Char) : Option (List Char) :=
  match (components path).getLast? with
  | some name => if name = ['.', '.'] then none else some name
  | none => none

def pathExtension (path : List Char) : Option (List Char) :=
  match pathName path with
  | none => none
  | some name =>
      match splitOnce '.' name.reverse with
      | some (reversed, before) => if before = [] then none else some reversed.reverse
      | none => none

/-- `Path::parent` -/
def parentOf (path : List Char) : Option (List Char) :=
  match components path with
  | [] => none
  | parts =>
      some ((if isAbsolute path then ['/'] else []) ++ List.intercalate ['/'] parts.dropLast)

def contains (text : List Char) (part : String) : Bool :=
  text.tails.any fun rest => part.toList.isPrefixOf rest

def endsIn (text : List Char) (ending : String) : Bool := endsWith ending.toList text

def beginsWith (text : List Char) (start : String) : Bool := start.toList.isPrefixOf text

def lower (text : List Char) : List Char := text.map Char.toLower

def hasComponentSequence (path : List Char) (sequence : List String) : Bool :=
  (normalComponents path).tails.any fun rest => (sequence.map String.toList).isPrefixOf rest

def unitRoots : List String :=
  ["/etc/systemd/system", "/usr/lib/systemd/system", "/usr/local/lib/systemd/system",
    "/lib/systemd/system"]

def unitSuffixes : List String :=
  [".service", ".socket", ".timer", ".path", ".target", ".mount", ".slice"]

def nolandUnit (component : List Char) : Bool :=
  (component = "noland".toList || beginsWith component "noland-" ||
    beginsWith component "noland@" || beginsWith component "noland.") &&
  unitSuffixes.any fun ending => endsIn component ending || endsIn component (ending ++ ".d")

def isNolandSystemdUnit (path : List Char) : Bool :=
  unitRoots.any fun root =>
    isAtOrBelow path root &&
      ((components path).drop (components root.toList).length).any fun component =>
        component ≠ ['.', '.'] && nolandUnit component

def isStandardUserSunshine (path : List Char) : Bool :=
  isAbsolute path &&
    match (normalComponents path).map String.ofList with
    | "home" :: _ :: ".config" :: "sunshine" :: _ => true
    | "var" :: "home" :: _ :: ".config" :: "sunshine" :: _ => true
    | "root" :: ".config" :: "sunshine" :: _ => true
    | _ => false

def isNolandInternal (path : List Char) : Bool :=
  isAtOrBelow path "/var/lib/noland" || isAtOrBelow path "/run/noland" ||
    isAtOrBelow path "/opt/noland" ||
    rootedComponents path = rootedComponents "/usr/local/bin/noland-state-agent".toList ||
    isAtOrBelow path "/usr/local/lib/noland" || isAtOrBelow path "/etc/noland" ||
    isAtOrBelow path "/etc/sunshine" || isNolandSystemdUnit path ||
    isStandardUserSunshine path || hasComponentSequence path ["noland", "state"] ||
    (normalComponents path).contains ".noland".toList

def isNolandInternalForHome (path : List Char) (targetHome : Option String) : Bool :=
  isNolandInternal path ||
    match targetHome with
    | some home => isAtOrBelow path (home ++ "/.config/sunshine")
    | none => false

def isHardVolatileRoot (path : List Char) : Bool :=
  ["/tmp", "/var/tmp", "/run", "/proc", "/sys", "/dev", "/var/run"].any (isAtOrBelow path)

def isBaseSystemPath (path : List Char) : Bool :=
  ["/usr", "/lib", "/bin", "/sbin", "/boot", "/etc", "/root", "/opt/nvidia"].any
    (isAtOrBelow path)

def isTrackingExcluded (path : List Char) (inKnownAppRoot : Bool) (targetHome : Option String) :
    Bool :=
  let text := path.dropWhile (· = '/')
  (beginsWith text "anon_inode:" || beginsWith text "pipe:" || beginsWith text "socket:") ||
    isNolandInternalForHome path targetHome || isHardVolatileRoot path ||
    (isBaseSystemPath path && !inKnownAppRoot)

def looksLikeLockOrSocket (path : List Char) : Bool :=
  match pathExtension path with
  | some extension =>
      ["lock", "pid", "sock", "socket"].any (fun known => known.toList = extension) || byName
  | none => byName
where
  byName : Bool :=
    let name := (pathName path).getD []
    endsIn name ".lock" || endsIn name ".pid" || (name.head? = some '.' && endsIn name ".swp")

def looksLikeCache (path : List Char) : Bool :=
  let text := lower path
  contains text "/.cache/" || contains text "/cache/" || contains text "/shadercache/" ||
    contains text "/gpu-cache/" || contains text "/code cache/" || contains text "/tmp/" ||
    endsIn text ".tmp" || endsIn text ".log"

def looksLikeUserState (path : List Char) : Bool :=
  let text := lower path
  contains text "/saves/" || contains text "/save/" || contains text "/worlds/" ||
    contains text "/saves" || contains text "/mods/" || contains text "/config/" ||
    contains text "/.config/" || contains text "/.local/share/" || endsIn text ".sav" ||
    endsIn text ".save" || contains text "userdata"

inductive PathDisposition where
  | finalApplicationFile
  | userStateFile
  | installStagingFile
  | runtimeDependency
  | temporaryFile
  | unknown
  deriving DecidableEq

structure PathPolicyDecision where
  disposition : PathDisposition
  appId : Option AppId := none
  transactionRoot : Option (List Char) := none
  deriving DecidableEq

def decimal (digits : List Char) : Nat :=
  digits.foldl (fun value digit => 10 * value + (digit.toNat - '0'.toNat)) 0

/-- `str::parse::<u32>` -/
def parseU32 (text : List Char) : Option Nat :=
  let digits := if text.head? = some '+' then text.tail else text
  if digits ≠ [] ∧ digits.all Char.isDigit ∧ decimal digits < 2 ^ 32 then some (decimal digits)
  else none

def steamApp (appId : Nat) : AppId := ⟨"steam:" ++ toString appId⟩

/-- The first `steamapps/downloading` pair decides; the search ends when a component after
`steamapps` is missing or the app id does not parse. -/
def stagingSearch (root : List (List Char)) : List (List Char) → Option (AppId × List (List Char))
  | [] => none
  | component :: rest =>
      if lower component = "steamapps".toList then
        match rest with
        | [] => none
        | staging :: others =>
            if lower staging = "downloading".toList then
              match others with
              | [] => none
              | raw :: _ =>
                  (parseU32 raw).map fun appId =>
                    (steamApp appId, root ++ [component, staging, raw])
            else stagingSearch (root ++ [component]) rest
      else stagingSearch (root ++ [component]) rest

def steamStagingPath (path : List Char) : Option (AppId × List Char) :=
  (stagingSearch [] (components path)).map fun (appId, root) =>
    (appId, (if isAbsolute path then ['/'] else []) ++ List.intercalate ['/'] root)

def isTemporaryPath (path : List Char) : Bool :=
  match pathName path with
  | none => false
  | some name =>
      [".tmp", ".part", ".partial", ".crdownload"].any fun ending => endsIn (lower name) ending

def normalizedPath (path : List Char) : List Char :=
  let slashes := path.map fun c => if c = '\u005c' then '/' else c
  lower ('/' :: slashes.dropWhile (· = '/'))

def afterFirst (part : List Char) : List Char → Option (List Char)
  | [] => if part = [] then some [] else none
  | c :: rest =>
      if part.isPrefixOf (c :: rest) then some ((c :: rest).drop part.length)
      else afterFirst part rest

/-- The directory below `steamapps/common` is one of the runtimes. -/
def steamCommonRuntimePath (normalized : List Char) : Bool :=
  match afterFirst "/steamapps/common/".toList normalized with
  | none => false
  | some relative =>
      let installDir := relative.takeWhile (· ≠ '/')
      installDir = "proton".toList || beginsWith installDir "proton " ||
        beginsWith installDir "steamlinuxruntime" || installDir = "steamworks shared".toList

def classifyObservedPath (path : List Char) : PathPolicyDecision :=
  match steamStagingPath path with
  | some (appId, root) => ⟨.installStagingFile, some appId, some root⟩
  | none =>
      if isTemporaryPath path then { disposition := .temporaryFile }
      else
        let normalized := normalizedPath path
        if contains normalized "/steamapps/compatdata/" then
          if looksLikeUserState path then { disposition := .userStateFile }
          else { disposition := .runtimeDependency }
        else if contains normalized "/compatibilitytools.d/" || steamCommonRuntimePath normalized
        then { disposition := .runtimeDependency }
        else if contains normalized "/steamapps/common/" then
          { disposition := .finalApplicationFile }
        else if looksLikeUserState path then { disposition := .userStateFile }
        else { disposition := .unknown }

end Noland.Attribution
