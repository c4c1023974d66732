import Mathlib.Data.List.Basic
import Mathlib.Data.List.Induction
import Noland.Lib.Text

/-!
A file system as a finite map from real paths to nodes. Every call resolves the directories of its
path and follows the symbolic links it meets there; the last component is followed only by those
calls that open a file.
-/

namespace Noland.FileTree

open Noland.Text

abbrev Path := List String

inductive Node where
  | file (bytes : List UInt8) (mode : Nat)
  | symlink (target : String)
  | directory
  deriving DecidableEq

inductive Errno where
  | notFound
  | notADirectory
  | isADirectory
  | directoryNotEmpty
  | alreadyExists
  | filesystemLoop
  | invalidInput
  deriving DecidableEq

structure Tree where
  entries : List (Path × Node) := []
  deriving DecidableEq

namespace Tree

def lookup (tree : Tree) (path : Path) : Option Node :=
  if path = [] then some .directory
  else (tree.entries.find? fun entry => entry.1 = path).map Prod.snd

def insert (tree : Tree) (path : Path) (node : Node) : Tree :=
  ⟨(path, node) :: tree.entries.filter fun entry => entry.1 ≠ path⟩

def erase (tree : Tree) (path : Path) : Tree :=
  ⟨tree.entries.filter fun entry => entry.1 ≠ path⟩

def eraseBelow (tree : Tree) (path : Path) : Tree :=
  ⟨tree.entries.filter fun entry => !path.isPrefixOf entry.1⟩

def hasChild (tree : Tree) (path : Path) : Bool :=
  tree.entries.any fun entry => entry.1 ≠ [] && entry.1.dropLast = path

/-- The components of a link's target, and whether it starts at the root. -/
def targetParts (target : String) : List String :=
  ((pieces '/' target.toList).filter fun piece => piece ≠ [] && piece ≠ ['.']).map String.ofList

def absoluteTarget (target : String) : Bool := target.toList.head? = some '/'

/-- Goes down from a real directory; what a link stands for is left to `expand`. -/
def walk (tree : Tree) (expand : Path → List String → Except Errno Path) :
    Path → List String → Except Errno Path
  | base, [] => .ok base
  | base, name :: rest =>
      if name = ".." then walk tree expand base.dropLast rest
      else
        match tree.lookup (base ++ [name]) with
        | none => .error .notFound
        | some .directory => walk tree expand (base ++ [name]) rest
        | some (.file _ _) => if rest = [] then .ok (base ++ [name]) else .error .notADirectory
        | some (.symlink target) =>
            expand (if absoluteTarget target then [] else base) (targetParts target ++ rest)

def follow (tree : Tree) : Nat → Path → List String → Except Errno Path
  | 0 => walk tree fun _ _ => .error .filesystemLoop
  | links + 1 => walk tree (follow tree links)

def linkLimit : Nat := 40

def canonicalize (tree : Tree) (path : Path) : Except Errno Path := follow tree linkLimit [] path

/-- The real place of a path whose last component is not followed. -/
def locate (tree : Tree) (path : Path) : Except Errno Path :=
  match path.getLast? with
  | none => .ok []
  | some name => do
      let parent ← canonicalize tree path.dropLast
      match tree.lookup parent with
      | some .directory => .ok (if name = ".." then parent.dropLast else parent ++ [name])
      | _ => .error .notADirectory

def nodeAt (tree : Tree) (place : Path) : Except Errno Node :=
  match tree.lookup place with
  | some node => .ok node
  | none => .error .notFound

def lstat (tree : Tree) (path : Path) : Except Errno Node := do
  let place ← tree.locate path
  tree.nodeAt place

def stat (tree : Tree) (path : Path) : Except Errno Node := do
  let place ← tree.canonicalize path
  tree.nodeAt place

def readLink (tree : Tree) (path : Path) : Except Errno String := do
  match ← tree.lstat path with
  | .symlink target => .ok target
  | _ => .error .invalidInput

def readFile (tree : Tree) (path : Path) : Except Errno (List UInt8) := do
  match ← tree.stat path with
  | .file bytes _ => .ok bytes
  | _ => .error .isADirectory

def change (tree : Tree) (path : Path) (act : Path → Option Node → Except Errno Tree) :
    Except Errno Tree := do
  let place ← tree.locate path
  act place (tree.lookup place)

def create (tree : Tree) (path : Path) (node : Node) : Except Errno Tree :=
  tree.change path fun place found =>
    match found with
    | some _ => .error .alreadyExists
    | none => .ok (tree.insert place node)

def createDir (tree : Tree) (path : Path) : Except Errno Tree := tree.create path .directory

def defaultMode : Nat := 0o644

def createNew (tree : Tree) (path : Path) : Except Errno Tree :=
  tree.create path (.file [] defaultMode)

def createSymlink (tree : Tree) (target : String) (path : Path) : Except Errno Tree :=
  tree.create path (.symlink target)

def removeFile (tree : Tree) (path : Path) : Except Errno Tree :=
  tree.change path fun place found =>
    match found with
    | none => .error .notFound
    | some .directory => .error .isADirectory
    | some _ => .ok (tree.erase place)

def removeDir (tree : Tree) (path : Path) : Except Errno Tree :=
  tree.change path fun place found =>
    match found with
    | none => .error .notFound
    | some .directory =>
        if place = [] then .error .invalidInput
        else if tree.hasChild place then .error .directoryNotEmpty
        else .ok (tree.erase place)
    | some _ => .error .notADirectory

def removeDirAll (tree : Tree) (path : Path) : Except Errno Tree :=
  tree.change path fun place found =>
    match found with
    | none => .error .notFound
    | some .directory => if place = [] then .error .invalidInput else .ok (tree.eraseBelow place)
    | some _ => .error .notADirectory

def append (tree : Tree) (path : Path) (more : List UInt8) : Except Errno Tree :=
  tree.change path fun place found =>
    match found with
    | some (.file bytes mode) => .ok (tree.insert place (.file (bytes ++ more) mode))
    | some _ => .error .isADirectory
    | none => .error .notFound

def setModeAt (tree : Tree) (mode : Nat) (place : Path) : Option Node → Except Errno Tree
  | some (.file bytes _) => .ok (tree.insert place (.file bytes (mode % 0o10000)))
  | some _ => .ok tree
  | none => .error .notFound

/-- `chmod`, which follows links; the modes of directories are not kept. -/
def setMode (tree : Tree) (path : Path) (mode : Nat) : Except Errno Tree := do
  let place ← tree.canonicalize path
  tree.setModeAt mode place (tree.lookup place)

def moveTo (tree : Tree) (origin path : Path) : Option Node → Except Errno Tree
  | none => .error .notFound
  | some .directory => .error .isADirectory
  | some node =>
      tree.change path fun place found =>
        match found with
        | some .directory => .error .isADirectory
        | _ => .ok ((tree.erase origin).insert place node)

/-- Renames a file or a link; an existing file or link is replaced. -/
def rename (tree : Tree) (source path : Path) : Except Errno Tree := do
  let origin ← tree.locate source
  tree.moveTo origin path (tree.lookup origin)

end Tree

end Noland.FileTree
