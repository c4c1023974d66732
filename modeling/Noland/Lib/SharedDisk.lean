import Mathlib.Data.List.Basic

/-!
A program looks at a disk with system calls, and others write to the disk between any two of them.
The instants are the program's calls. A path is taken with its links followed. An open file is
followed by its inode, so that a file that is renamed over goes on being read as it was opened.
-/

namespace Noland.SharedDisk

abbrev Path := List String

structure FileData where
  content : List UInt8
  modified : Nat
  deriving DecidableEq

inductive Entry where
  | file (inode : Nat)
  | directory (inode : Nat)
  deriving DecidableEq

def Entry.inode : Entry → Nat
  | .file inode => inode
  | .directory inode => inode

structure Disk where
  entry : Path → Option Entry
  data : Nat → FileData

/-- What a program meets at each of its instants: the disk, a failure of the call, how many
bytes after the first a read may return, and what an open directory yields next. -/
structure Surroundings where
  disk : Nat → Disk
  failure : Nat → Option String
  block : Nat → Nat
  listed : Nat → Option String

/-- A computation that starts at an instant: `none` when it has not ended, else its error or its
result with the instant at which the next call is made. -/
def Timed (α : Type) := Nat → Option (Except String (α × Nat))

namespace Timed

variable {α β : Type}

def run (computation : Timed α) (now : Nat) : Option (Except String (α × Nat)) :=
  computation now

def bind (first : Timed α) (next : α → Timed β) : Timed β := fun now =>
  match first.run now with
  | none => none
  | some (.error error) => some (.error error)
  | some (.ok (value, later)) => (next value).run later

instance : Monad Timed where
  pure value := fun now => some (.ok (value, now))
  bind := bind

def endless : Timed α := fun _ => none

def mapError (change : String → String) (computation : Timed α) : Timed α := fun now =>
  match computation.run now with
  | some (.error error) => some (.error (change error))
  | other => other

def Returns (computation : Timed α) (now : Nat) (value : α) (later : Nat) : Prop :=
  computation.run now = some (.ok (value, later))

theorem returns_pure {value result : α} {now later : Nat} :
    (pure value : Timed α).Returns now result later ↔ value = result ∧ now = later := by
  simp [Returns, run, pure]

theorem returns_bind {first : Timed α} {next : α → Timed β} {now later : Nat} {result : β} :
    (first >>= next).Returns now result later ↔
      ∃ value middle, first.Returns now value middle ∧
        (next value).Returns middle result later := by
  change (first.bind next).run now = _ ↔ _
  simp only [Returns, run, bind]
  cases first now with
  | none => simp
  | some outcome =>
      cases outcome with
      | error error => simp
      | ok pair =>
          obtain ⟨value, middle⟩ := pair
          simp

theorem returns_mapError {change : String → String} {computation : Timed α} {now later : Nat}
    {result : α} :
    (computation.mapError change).Returns now result later ↔
      computation.Returns now result later := by
  simp only [Returns, run, mapError]
  cases computation now with
  | none => simp
  | some outcome => cases outcome <;> simp

theorem not_returns_endless {now later : Nat} {result : α} :
    ¬ (endless : Timed α).Returns now result later := by
  simp [Returns, run, endless]

end Timed

namespace Surroundings

variable (surroundings : Surroundings)

/-- Length and time of the last change of what a path names. -/
structure Metadata where
  len : Nat
  modified : Nat
  deriving DecidableEq

def metadataAt (now : Nat) (path : Path) : Option Metadata :=
  ((surroundings.disk now).entry path).map fun entry =>
    ⟨((surroundings.disk now).data entry.inode).content.length,
      ((surroundings.disk now).data entry.inode).modified⟩

def contentAt (now : Nat) (path : Path) : Option (List UInt8) :=
  match (surroundings.disk now).entry path with
  | some (.file inode) => some ((surroundings.disk now).data inode).content
  | _ => none

def call : Timed Unit := fun now =>
  match surroundings.failure now with
  | some error => some (.error error)
  | none => some (.ok ((), now + 1))

/-- What a look at a path shows: nothing when the call fails. -/
def seen (now : Nat) (path : Path) : Option Metadata :=
  match surroundings.failure now with
  | some _ => none
  | none => surroundings.metadataAt now path

def metadata (path : Path) : Timed (Option Metadata) := fun now =>
  some (.ok (surroundings.seen now path, now + 1))

def «exists» (path : Path) : Timed Bool := fun now =>
  match surroundings.failure now with
  | some _ => some (.ok (false, now + 1))
  | none => some (.ok (((surroundings.disk now).entry path).isSome, now + 1))

def isDir (path : Path) : Timed Bool := fun now =>
  match surroundings.failure now, (surroundings.disk now).entry path with
  | none, some (.directory _) => some (.ok (true, now + 1))
  | _, _ => some (.ok (false, now + 1))

def openFile (path : Path) : Timed Nat := fun now =>
  match surroundings.failure now, (surroundings.disk now).entry path with
  | some error, _ => some (.error error)
  | none, some (.file inode) => some (.ok (inode, now + 1))
  | none, some (.directory _) =>
      some (.error "the source path is neither a regular file nor a symlink to a regular file")
  | none, none => some (.error "No such file or directory (os error 2)")

def openDir (path : Path) : Timed Unit := fun now =>
  match surroundings.failure now, (surroundings.disk now).entry path with
  | some error, _ => some (.error error)
  | none, some (.directory _) => some (.ok ((), now + 1))
  | none, some (.file _) => some (.error "Not a directory (os error 20)")
  | none, none => some (.error "No such file or directory (os error 2)")

def nextEntry : Timed (Option String) := fun now =>
  match surroundings.failure now with
  | some error => some (.error error)
  | none => some (.ok (surroundings.listed now, now + 1))

def readBlock (inode offset : Nat) : Timed (List UInt8) := fun now =>
  match surroundings.failure now with
  | some error => some (.error error)
  | none =>
      some (.ok ((((surroundings.disk now).data inode).content.drop offset).take
        (surroundings.block now + 1), now + 1))

def readAll (inode : Nat) : Nat → List UInt8 → Timed (List UInt8)
  | 0, _ => .endless
  | fuel + 1, bytes => do
      let piece ← surroundings.readBlock inode bytes.length
      if piece = [] then pure bytes else readAll inode fuel (bytes ++ piece)

variable {surroundings}

variable {now later : Nat} {path : Path}

theorem call_later {done : Unit} (returned : surroundings.call.Returns now done later) :
    later = now + 1 := by
  simp only [Timed.Returns, Timed.run, call] at returned
  cases failed : surroundings.failure now with
  | some error => simp [failed] at returned
  | none => simpa [failed] using returned.symm

theorem metadata_returned {found : Option Metadata}
    (returned : (surroundings.metadata path).Returns now found later) :
    later = now + 1 ∧ found = surroundings.seen now path := by
  simp only [Timed.Returns, Timed.run, metadata, Option.some.injEq, Except.ok.injEq,
    Prod.mk.injEq] at returned
  exact ⟨returned.2.symm, returned.1.symm⟩

theorem metadataAt_of_seen {now : Nat} {found : Metadata}
    (looked : surroundings.seen now path = some found) :
    surroundings.metadataAt now path = some found := by
  rw [seen] at looked
  split at looked
  · simp at looked
  · exact looked

theorem exists_returned {found : Bool}
    (returned : (surroundings.exists path).Returns now found later) :
    later = now + 1 ∧
      (found = true ↔ surroundings.failure now = none ∧
        ((surroundings.disk now).entry path).isSome) := by
  simp only [Timed.Returns, Timed.run, «exists»] at returned
  cases failed : surroundings.failure now with
  | some error =>
      simp only [failed, Option.some.injEq, Except.ok.injEq, Prod.mk.injEq] at returned
      simp [← returned.1, ← returned.2]
  | none =>
      simp only [failed, Option.some.injEq, Except.ok.injEq, Prod.mk.injEq] at returned
      simp [← returned.1, ← returned.2]

theorem isDir_later {found : Bool} (returned : (surroundings.isDir path).Returns now found later) :
    later = now + 1 := by
  simp only [Timed.Returns, Timed.run, isDir] at returned
  split at returned <;>
  · simp only [Option.some.injEq, Except.ok.injEq, Prod.mk.injEq] at returned
    exact returned.2.symm

theorem openFile_returned {now later inode : Nat}
    (returned : (surroundings.openFile path).Returns now inode later) :
    later = now + 1 ∧ (surroundings.disk now).entry path = some (.file inode) := by
  simp only [Timed.Returns, Timed.run, openFile] at returned
  split at returned
  · simp at returned
  · rename_i opened named
    simp only [Option.some.injEq, Except.ok.injEq, Prod.mk.injEq] at returned
    exact ⟨returned.2.symm, by rw [named, returned.1]⟩
  · simp at returned
  · simp at returned

theorem openDir_later {done : Unit}
    (returned : (surroundings.openDir path).Returns now done later) : later = now + 1 := by
  simp only [Timed.Returns, Timed.run, openDir] at returned
  split at returned
  · simp at returned
  · simpa using returned.symm
  · simp at returned
  · simp at returned

theorem nextEntry_later {name : Option String}
    (returned : surroundings.nextEntry.Returns now name later) : later = now + 1 := by
  simp only [Timed.Returns, Timed.run, nextEntry] at returned
  cases failed : surroundings.failure now with
  | some error => simp [failed] at returned
  | none =>
      simp only [failed, Option.some.injEq, Except.ok.injEq, Prod.mk.injEq] at returned
      exact returned.2.symm

theorem readBlock_returned {now later inode offset : Nat} {piece : List UInt8}
    (returned : (surroundings.readBlock inode offset).Returns now piece later) :
    later = now + 1 ∧
      piece = (((surroundings.disk now).data inode).content.drop offset).take
        (surroundings.block now + 1) := by
  simp only [Timed.Returns, Timed.run, readBlock] at returned
  cases failed : surroundings.failure now with
  | some error => simp [failed] at returned
  | none =>
      simp only [failed, Option.some.injEq, Except.ok.injEq, Prod.mk.injEq] at returned
      exact ⟨returned.2.symm, returned.1.symm⟩

theorem readAll_later {inode fuel now later : Nat} {bytes result : List UInt8}
    (returned : (surroundings.readAll inode fuel bytes).Returns now result later) :
    now < later := by
  induction fuel generalizing bytes now with
  | zero => exact absurd returned Timed.not_returns_endless
  | succ fuel ih =>
      rw [readAll, Timed.returns_bind] at returned
      obtain ⟨piece, middle, read, rest⟩ := returned
      have step := (readBlock_returned read).1
      split at rest
      · have ended := (Timed.returns_pure.mp rest).2
        omega
      · have further := ih rest
        omega

theorem readAll_content {inode fuel now later : Nat} {bytes result content : List UInt8}
    (returned : (surroundings.readAll inode fuel bytes).Returns now result later)
    (begun : bytes = content.take bytes.length)
    (unwritten : ∀ instant, now ≤ instant → instant < later →
      ((surroundings.disk instant).data inode).content = content) :
    result = content := by
  induction fuel generalizing bytes now with
  | zero => exact absurd returned Timed.not_returns_endless
  | succ fuel ih =>
      have ended := readAll_later returned
      rw [readAll, Timed.returns_bind] at returned
      obtain ⟨piece, middle, read, rest⟩ := returned
      obtain ⟨step, block⟩ := readBlock_returned read
      rw [unwritten now (Nat.le_refl now) ended] at block
      split at rest
      · rename_i empty
        rw [← (Timed.returns_pure.mp rest).1]
        rw [empty] at block
        have exhausted : content.drop bytes.length = [] := by
          simpa using block.symm
        have long : content.length ≤ bytes.length := List.drop_eq_nil_iff.mp exhausted
        rw [begun, List.take_of_length_le long]
      · apply ih rest
        · have joined : bytes ++ piece =
              content.take (bytes.length + (surroundings.block now + 1)) := by
            rw [List.take_add, ← begun, block]
          rw [joined, List.length_take, ← List.take_eq_take_min]
        · intro instant after before
          exact unwritten instant (by omega) before

/-- The opened file keeps its content until it has been read. -/
def Unwritten (surroundings : Surroundings) (path : Path) (opened closed : Nat) : Prop :=
  ∀ inode, (surroundings.disk opened).entry path = some (.file inode) →
    ∀ instant, opened ≤ instant → instant < closed →
      ((surroundings.disk instant).data inode).content =
        ((surroundings.disk opened).data inode).content

/-- Every write shows: a path with one modification time at two instants has named one file with
one content from the first to the second. -/
def WritesShow (surroundings : Surroundings) : Prop :=
  ∀ path first second before after, first ≤ second →
    surroundings.metadataAt first path = some before →
    surroundings.metadataAt second path = some after →
    before.modified = after.modified →
    ∀ instant, first ≤ instant → instant ≤ second →
      ∃ entry, (surroundings.disk first).entry path = some entry ∧
        (surroundings.disk instant).entry path = some entry ∧
        ((surroundings.disk instant).data entry.inode).content =
          ((surroundings.disk first).data entry.inode).content

theorem WritesShow.unwritten {first second opened closed : Nat} {before after : Metadata}
    (shows : surroundings.WritesShow)
    (seenFirst : surroundings.metadataAt first path = some before)
    (seenSecond : surroundings.metadataAt second path = some after)
    (same : before.modified = after.modified) (starts : first ≤ opened) (ends : opened < closed)
    (ended : closed ≤ second) : surroundings.Unwritten path opened closed := by
  have between := shows path first second before after (by omega) seenFirst seenSecond same
  intro inode named instant since before'
  obtain ⟨entry, atFirst, atOpened, openedContent⟩ := between opened starts (by omega)
  obtain ⟨later, alsoFirst, -, laterContent⟩ := between instant (by omega) (by omega)
  rw [atFirst, Option.some.injEq] at alsoFirst
  subst alsoFirst
  rw [atOpened, Option.some.injEq] at named
  subst named
  exact laterContent.trans openedContent.symm

end Surroundings

end Noland.SharedDisk
