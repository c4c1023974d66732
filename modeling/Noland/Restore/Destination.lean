import Noland.Lib.FileTree
import Noland.Core.LogicalPath
import Noland.Restore.Planner

/-!
The logical root is made canonical, the relative path is joined to it, and no directory between
them may be a link. All of this looks at the file tree and changes nothing.
-/

namespace Noland.Restore

open Noland.Core Noland.FileTree Noland.Text

def ioKind : Errno → IoKind
  | .notFound => .notFound
  | .notADirectory => .notADirectory
  | .isADirectory => .isADirectory
  | .directoryNotEmpty => .directoryNotEmpty
  | .alreadyExists => .alreadyExists
  | .filesystemLoop => .filesystemLoop
  | .invalidInput => .invalidInput

/-- `?` on a result of `std::io`. -/
def ofIo {α : Type} : Except Errno α → Except StateError α
  | .ok value => .ok value
  | .error error => .error (.io (ioKind error))

def display (path : Path) : String := "/" ++ "/".intercalate path

def validateRelativePath (relative : String) : Except StateError Unit :=
  let normalized := forwardSlashes relative.toList
  if normalized = [] then .error (.unsafePath "empty relative path")
  else if normalized.head? = some '/' ∨ '\x00' ∈ normalized then .error (.unsafePath relative)
  else if ['.', '.'] ∈ pieces '/' normalized then
    .error (.unsafePath ("path traversal in '" ++ relative ++ "'"))
  else .ok ()

def relativeParts (relative : String) : List String :=
  Tree.targetParts (String.ofList (forwardSlashes relative.toList))

def joinValidated (root : Path) (relative : String) : Except StateError Path := do
  validateRelativePath relative
  .ok (root ++ relativeParts relative)

def lstatIfPresent (tree : Tree) (path : Path) : Except StateError (Option Node) :=
  match tree.lstat path with
  | .ok node => .ok (some node)
  | .error .notFound => .ok none
  | .error error => .error (.io (ioKind error))

def validateDirectoryComponent (tree : Tree) (path : Path) : Except StateError Unit :=
  match tree.lstat path with
  | .ok (.symlink _) => .error (.unsafePath ("destination parent is a symlink: " ++ display path))
  | .ok .directory => .ok ()
  | .ok (.file _ _) => .error (.invalid ("destination parent is not a directory: " ++ display path))
  | .error .notFound => .ok ()
  | .error error => .error (.io (ioKind error))

def validateBelow (tree : Tree) : Path → List String → Except StateError Unit
  | _, [] => .ok ()
  | current, name :: rest => do
      validateDirectoryComponent tree (current ++ [name])
      match tree.stat (current ++ [name]) with
      | .ok _ => validateBelow tree (current ++ [name]) rest
      | .error _ => .ok ()

/-- `Path::strip_prefix`. -/
def stripRoot (root path : Path) : Option (List String) :=
  if root.isPrefixOf path then some (path.drop root.length) else none

def escapes {α : Type} (destination root : Path) : Except StateError α :=
  .error (.unsafePath ("destination " ++ display destination ++ " escapes " ++ display root))

def validateParentChain (tree : Tree) (root destination : Path) : Except StateError Unit := do
  validateDirectoryComponent tree root
  if destination = root then .ok ()
  else if destination = [] then
    .error (.unsafePath ("destination has no parent: " ++ display destination))
  else
    match stripRoot root destination.dropLast with
    | none => escapes destination root
    | some relative => validateBelow tree root relative

/-- Goes up from a path, given by its reversed components, to an existing
directory and collects what is missing. -/
def missingUp (tree : Tree) : List String → List Path → Except StateError (List Path)
  | [], missing => .ok missing
  | name :: above, missing => do
      match ← lstatIfPresent tree (name :: above).reverse with
      | some (.symlink _) =>
          .error (.unsafePath ("destination directory is a symlink: " ++
            display (name :: above).reverse))
      | some .directory => .ok missing
      | some (.file _ _) =>
          .error (.invalid ("destination parent is not a directory: " ++
            display (name :: above).reverse))
      | none => missingUp tree above ((name :: above).reverse :: missing)

def missingDirectoryChain (tree : Tree) (root destination : Path) :
    Except StateError (List Path) :=
  match stripRoot root destination with
  | none => escapes destination root
  | some _ => missingUp tree destination.reverse []

/-- Goes up from a root, given by its reversed components, to an ancestor that
exists; what is missing is kept below its canonical path. -/
def canonicalizeUp (tree : Tree) (root : Path) :
    List String → List String → Except StateError Path
  | above, missing =>
      match tree.lstat above.reverse with
      | .ok _ =>
          match tree.canonicalize above.reverse with
          | .ok canonical => .ok (canonical ++ missing)
          | .error error => .error (.io (ioKind error))
      | .error .notFound =>
          match above with
          | [] =>
              .error (.unsafePath ("logical root has no existing ancestor: " ++ display root))
          | name :: rest =>
              if name = ".." then
                .error (.unsafePath ("logical root has no existing ancestor: " ++ display root))
              else canonicalizeUp tree root rest (name :: missing)
      | .error error => .error (.io (ioKind error))

def canonicalizeRootIfPresent (tree : Tree) (root : Path) : Except StateError Path :=
  canonicalizeUp tree root root.reverse []

def resolveRoot (tree : Tree) (root : String) : Except StateError Path :=
  canonicalizeRootIfPresent tree (Tree.targetParts root)

def resolveDestination (roots : LogicalRootMap) (tree : Tree) (file : ManifestFile) :
    Except StateError (Path × Path) := do
  validateRelativePath file.relativePath
  match LogicalRoot.parse file.logicalRoot with
  | none => .error (.unsafePath file.logicalRoot)
  | some logical =>
      match roots.resolve logical with
      | none => .error (.notFound ("logical root " ++ file.logicalRoot))
      | some base => do
          let root ← resolveRoot tree base
          let destination ← joinValidated root file.relativePath
          .ok (root, destination)

def auxiliaryPath (destination : Path) (suffix : String) : Except StateError Path :=
  match destination.getLast? with
  | none => .error (.unsafePath ("destination has no filename: " ++ display destination))
  | some name => .ok (destination.dropLast ++ [name ++ suffix])

def partialSuffix (restoreId : Uuid) : String := ".noland-" ++ restoreId.text ++ ".partial"

def rollbackSuffix (restoreId : Uuid) : String := ".noland-" ++ restoreId.text ++ ".rollback.partial"

def destinationPartialPath (destination : Path) (restoreId : Uuid) : Except StateError Path :=
  auxiliaryPath destination (partialSuffix restoreId)

def rollbackPartialPath (destination : Path) (restoreId : Uuid) : Except StateError Path :=
  auxiliaryPath destination (rollbackSuffix restoreId)

def targetFileIsIdentical (hash : List UInt8 → String) (tree : Tree) (path : Path)
    (file : ManifestFile) : Bool :=
  match tree.stat path with
  | .ok (.file bytes _) =>
      file.fileType = "file" && bytes.length = file.size && hash bytes = file.fileHash
  | _ => false

/-- `str::contains`. -/
def containsText (pattern text : List Char) : Bool := text.tails.any pattern.isPrefixOf

def validateSymlinkTarget (target : String) : Except StateError Unit :=
  if "/proc".toList.isPrefixOf target.toList ∨ "/sys".toList.isPrefixOf target.toList ∨
      "/dev".toList.isPrefixOf target.toList ∨ containsText "..".toList target.toList then
    .error (.unsafePath ("symlink target rejected: " ++ target))
  else .ok ()

def targetLinkIsIdentical (tree : Tree) (path : Path) (target : String) : Bool :=
  match tree.readLink path with
  | .ok existing => components existing.toList = components target.toList
  | .error _ => false

end Noland.Restore
