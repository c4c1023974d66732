import Noland.Core.Manifest
import Noland.Lib.Text

/-!
`classify` takes the longest configured root that contains a path; `resolve` goes back. Paths are
compared by components, as `std::path` does: repeated separators and inner dots do not count.
-/

namespace Noland.Core

open Noland.Text

def redundantPiece (piece : List Char) : Bool := piece == [] || piece == ['.']

/-- The components of a path; the root directory is one of them, and so is a dot
that starts a relative path. -/
def components (path : List Char) : List (List Char) :=
  match pieces '/' path with
  | [] => []
  | [] :: rest => if path = [] then [] else ['/'] :: rest.filter fun piece => !redundantPiece piece
  | first :: rest => first :: rest.filter fun piece => !redundantPiece piece

/-- `Path::starts_with`. -/
def pathStartsWith (path base : List Char) : Bool := (components base).isPrefixOf (components path)

def dropComponents : Nat → List (List Char) → List (List Char)
  | 0, left => left.dropWhile redundantPiece
  | _ + 1, [] => []
  | count + 1, piece :: rest =>
      if redundantPiece piece then dropComponents (count + 1) rest else dropComponents count rest

/-- `Path::strip_prefix` of an absolute path: the text after the base, without
redundant pieces at its ends. -/
def stripBase (path base : List Char) : List Char :=
  ['/'].intercalate
    (((dropComponents ((components base).length - 1) (pieces '/' path)).reverse.dropWhile
      redundantPiece).reverse)

inductive LogicalRoot where
  | home
  | xdgConfigHome
  | xdgDataHome
  | xdgCacheHome
  | documents
  | downloads
  | games
  | steamRoot
  | steamLibrary (id : String)
  | steamUserdata
  | protonPrefix (steamAppId : Nat)
  | winePrefix (id : String)
  | bottlesPrefix (id : String)
  | appInstallRoot (appId : AppId)
  | nolandCustomRoot (id : String)
  deriving DecidableEq

def LogicalRoot.asToken : LogicalRoot → String
  | .home => "$HOME"
  | .xdgConfigHome => "$XDG_CONFIG_HOME"
  | .xdgDataHome => "$XDG_DATA_HOME"
  | .xdgCacheHome => "$XDG_CACHE_HOME"
  | .documents => "$DOCUMENTS"
  | .downloads => "$DOWNLOADS"
  | .games => "$GAMES"
  | .steamRoot => "$STEAM_ROOT"
  | .steamLibrary id => "$STEAM_LIBRARY:" ++ id
  | .steamUserdata => "$STEAM_USERDATA"
  | .protonPrefix steamAppId => "$PROTON_PREFIX:" ++ toString steamAppId
  | .winePrefix id => "$WINE_PREFIX:" ++ id
  | .bottlesPrefix id => "$BOTTLES_PREFIX:" ++ id
  | .appInstallRoot appId => "$APP_INSTALL_ROOT:" ++ appId.text
  | .nolandCustomRoot id => "$NOLAND_CUSTOM_ROOT:" ++ id

/-- `str::parse::<u32>`: digits after an optional plus sign, below `2 ^ 32`. -/
def parseU32 (text : List Char) : Option Nat :=
  let digits := if text.head? = some '+' then text.tail else text
  if digits ≠ [] ∧ (digits.all fun c => '0' ≤ c && c ≤ '9') = true then
    let value := digits.foldl (fun total c => 10 * total + (c.toNat - '0'.toNat)) 0
    if value < 2 ^ 32 then some value else none
  else none

def afterLabel (label : String) (text : List Char) : Option (List Char) :=
  if label.toList.isPrefixOf text then some (text.drop label.toList.length) else none

def plainRoots : List LogicalRoot :=
  [.home, .xdgConfigHome, .xdgDataHome, .xdgCacheHome, .documents, .downloads, .games, .steamRoot,
    .steamUserdata]

def LogicalRoot.parse (token : String) : Option LogicalRoot :=
  let text := trim token.toList
  match afterLabel "$STEAM_LIBRARY:" text with
  | some rest => some (.steamLibrary (String.ofList rest))
  | none =>
  match afterLabel "$PROTON_PREFIX:" text with
  | some rest => (parseU32 rest).map .protonPrefix
  | none =>
  match afterLabel "$WINE_PREFIX:" text with
  | some rest => some (.winePrefix (String.ofList rest))
  | none =>
  match afterLabel "$BOTTLES_PREFIX:" text with
  | some rest => some (.bottlesPrefix (String.ofList rest))
  | none =>
  match afterLabel "$APP_INSTALL_ROOT:" text with
  | some rest => some (.appInstallRoot ⟨String.ofList rest⟩)
  | none =>
  match afterLabel "$NOLAND_CUSTOM_ROOT:" text with
  | some rest => some (.nolandCustomRoot (String.ofList rest))
  | none => plainRoots.find? fun root => root.asToken.toList = text

/-- `Path::join`: an absolute path replaces the base. -/
def pathJoin (base relative : String) : String :=
  if relative.toList.head? = some '/' then relative
  else if base.toList = [] ∨ base.toList.getLast? = some '/' then base ++ relative
  else base ++ "/" ++ relative

def forwardSlashes (text : List Char) : List Char := text.map fun c => if c = '\\' then '/' else c

/-- `trim_start_matches("./")`. -/
def trimDotSlash : List Char → List Char
  | '.' :: '/' :: rest => trimDotSlash rest
  | text => text

def normalizeRelative (text : List Char) : List Char :=
  (trimDotSlash (forwardSlashes text)).dropWhile (· == '/')

structure LogicalPath where
  logicalRoot : LogicalRoot
  relativePath : String
  deriving DecidableEq

def LogicalPath.new (root : LogicalRoot) (relative : List Char) : LogicalPath :=
  ⟨root, String.ofList (normalizeRelative relative)⟩

def LogicalPath.key (logical : LogicalPath) : String × String :=
  (logical.logicalRoot.asToken, logical.relativePath)

/-- The directories that stand for the roots on one instance; the maps are in
the order of their keys. -/
structure LogicalRootMap where
  home : Option String := none
  xdgConfigHome : Option String := none
  xdgDataHome : Option String := none
  xdgCacheHome : Option String := none
  documents : Option String := none
  downloads : Option String := none
  games : Option String := none
  steamRoot : Option String := none
  steamUserdata : Option String := none
  steamLibraries : List (String × String) := []
  protonPrefixes : List (Nat × String) := []
  winePrefixes : List (String × String) := []
  bottlesPrefixes : List (String × String) := []
  appInstallRoots : List (String × String) := []
  customRoots : List (String × String) := []

namespace LogicalRootMap

/-- The configured roots, in the order in which `classify` looks at them. -/
def bases (roots : LogicalRootMap) : List (LogicalRoot × String) :=
  (roots.xdgConfigHome.map fun base => (LogicalRoot.xdgConfigHome, base)).toList ++
  (roots.xdgDataHome.map fun base => (LogicalRoot.xdgDataHome, base)).toList ++
  (roots.xdgCacheHome.map fun base => (LogicalRoot.xdgCacheHome, base)).toList ++
  (roots.steamUserdata.map fun base => (LogicalRoot.steamUserdata, base)).toList ++
  (roots.steamRoot.map fun base => (LogicalRoot.steamRoot, base)).toList ++
  (roots.documents.map fun base => (LogicalRoot.documents, base)).toList ++
  (roots.downloads.map fun base => (LogicalRoot.downloads, base)).toList ++
  (roots.games.map fun base => (LogicalRoot.games, base)).toList ++
  (roots.home.map fun base => (LogicalRoot.home, base)).toList ++
  (roots.steamLibraries.map fun (id, base) => (LogicalRoot.steamLibrary id, base)) ++
  (roots.protonPrefixes.map fun (id, base) => (LogicalRoot.protonPrefix id, base)) ++
  (roots.winePrefixes.map fun (id, base) => (LogicalRoot.winePrefix id, base)) ++
  (roots.bottlesPrefixes.map fun (id, base) => (LogicalRoot.bottlesPrefix id, base)) ++
  (roots.appInstallRoots.map fun (id, base) => (LogicalRoot.appInstallRoot ⟨id⟩, base)) ++
  (roots.customRoots.map fun (id, base) => (LogicalRoot.nolandCustomRoot id, base))

def best (path : List Char) :
    Option (LogicalRoot × String) → List (LogicalRoot × String) → Option (LogicalRoot × String)
  | found, [] => found
  | found, (root, base) :: rest =>
      if pathStartsWith path base.toList ∧
          ∀ other ∈ found, other.2.utf8ByteSize < base.utf8ByteSize then
        best path (some (root, base)) rest
      else best path found rest

def classify (roots : LogicalRootMap) (path : String) : Option LogicalPath :=
  (best path.toList none roots.bases).map fun (root, base) =>
    LogicalPath.new root (stripBase path.toList base.toList)

def resolve (roots : LogicalRootMap) : LogicalRoot → Option String
  | .home => roots.home
  | .xdgConfigHome => roots.xdgConfigHome
  | .xdgDataHome => roots.xdgDataHome
  | .xdgCacheHome => roots.xdgCacheHome
  | .documents => roots.documents
  | .downloads => roots.downloads
  | .games => roots.games
  | .steamRoot => roots.steamRoot
  | .steamLibrary id => roots.steamLibraries.lookup id
  | .steamUserdata => roots.steamUserdata
  | .protonPrefix id => roots.protonPrefixes.lookup id
  | .winePrefix id => roots.winePrefixes.lookup id
  | .bottlesPrefix id => roots.bottlesPrefixes.lookup id
  | .appInstallRoot appId => roots.appInstallRoots.lookup appId.text
  | .nolandCustomRoot id => roots.customRoots.lookup id

end LogicalRootMap

/-- `from_home`, with the defaults it derives from the home directory. -/
def LogicalRootMap.fromHome (home : String) : LogicalRootMap :=
  { home := some home
    xdgConfigHome := some (home ++ "/.config")
    xdgDataHome := some (home ++ "/.local/share")
    xdgCacheHome := some (home ++ "/.cache")
    documents := some (home ++ "/Documents")
    downloads := some (home ++ "/Downloads")
    games := some (home ++ "/Games")
    steamRoot := some (home ++ "/.steam/steam")
    steamUserdata := some (home ++ "/.steam/steam/userdata") }

example : LogicalRoot.parse " $PROTON_PREFIX:+42" = some (.protonPrefix 42) := by decide +kernel

example : (LogicalRootMap.fromHome "/home/gamer").classify
    "/home/gamer/.local/share/example-game/save1.db" =
    some ⟨.xdgDataHome, "example-game/save1.db"⟩ := by decide +kernel

end Noland.Core
