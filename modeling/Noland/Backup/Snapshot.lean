import Noland.Lib.SharedDisk

/-!
`create_view` copies the sources while games and launchers go on writing. A file is copied between
two looks at its metadata; when these differ it is copied once more, and then only the two lengths
are compared. Sources that are gone are left out, and the files of a directory are copied without
a look.
-/

namespace Noland.Snapshot

open Noland.SharedDisk

inductive ConsistencyKind where
  | snapshot
  | bestEffort
  deriving DecidableEq

structure PathMapping where
  source : Path
  staged : Path
  deriving DecidableEq

/-- How a copy is judged: by equal times before and after it, by its length alone, or not at all. -/
inductive Judged where
  | byTime
  | byLength
  | unjudged
  deriving DecidableEq

structure StagedFile where
  source : Path
  staged : Path
  bytes : List UInt8
  opened : Nat
  closed : Nat
  judged : Judged
  deriving DecidableEq

structure SnapshotView where
  id : String
  root : Path
  consistency : ConsistencyKind
  mappings : List PathMapping
  files : List StagedFile
  looked : List (Path × Nat)
  deriving DecidableEq

/-- `format!("{index:016x}")` -/
def hexIndex (index : Nat) : String :=
  let digits := Nat.toDigits 16 index
  String.ofList (List.replicate (16 - digits.length) '0' ++ digits)

def display (path : Path) : String := "/" ++ "/".intercalate path

/-- `path.parent()`: the root has none. -/
def parent (path : Path) : Option Path := if path = [] then none else some path.dropLast

def riseTo (source : Path) : Nat → Path → Option Path
  | 0, _ => none
  | fuel + 1, directory =>
      if directory.isPrefixOf source then some directory
      else
        match parent directory with
        | none => none
        | some above => riseTo source fuel above

def commonBtrfsParent : List Path → Option Path
  | [] => none
  | first :: rest =>
      match parent first with
      | none => none
      | some above =>
          rest.foldl (fun found source =>
            found.bind fun directory => riseTo source (directory.length + 1) directory) (some above)

def btrfsMappings (common dest : Path) (sources : List Path) : List PathMapping :=
  sources.filterMap fun source =>
    if common.isPrefixOf source then
      some ⟨source, dest ++ ["btrfs"] ++ source.drop common.length⟩
    else none

/-- The parent of which a snapshot is taken; `btrfs` is the outcome of the command. -/
def btrfsParent (btrfs : Path → Bool) (preferBtrfs : Bool) (sources : List Path) : Option Path :=
  if preferBtrfs then
    match commonBtrfsParent sources with
    | some common => if btrfs common then some common else none
    | none => none
  else none

variable (surroundings : Surroundings)

def copyFile (fuel : Nat) (source dest : Path) : Timed StagedFile := fun now =>
  (Timed.mapError (fun error => "failed to copy " ++ display source ++ ": " ++ error) do
    let inode ← surroundings.openFile source
    surroundings.call
    let bytes ← surroundings.readAll inode fuel []
    (fun later => some (.ok (⟨source, dest, bytes, now, later, .unjudged⟩, later)))).run now

def openAndCopy (entries : Path → Path → Timed (List StagedFile)) (source dest : Path) :
    Timed (List StagedFile) := do
  surroundings.call
  Timed.mapError (fun error => "failed to read directory " ++ display source ++ ": " ++ error)
    (surroundings.openDir source)
  entries source dest

def copyEntry (fuel : Nat) (entries : Path → Path → Timed (List StagedFile)) (source dest : Path) :
    Timed (List StagedFile) := do
  if ← surroundings.isDir source then openAndCopy surroundings entries source dest
  else do
    surroundings.call
    let file ← copyFile surroundings fuel source dest
    pure [file]

def copyEntries : Nat → Path → Path → Timed (List StagedFile)
  | 0, _, _ => .endless
  | fuel + 1, source, dest => do
      match ← surroundings.nextEntry with
      | none => pure []
      | some name => do
          let here ← copyEntry surroundings fuel (copyEntries fuel) (source ++ [name])
            (dest ++ [name])
          let rest ← copyEntries fuel source dest
          pure (here ++ rest)

def copyDir (fuel : Nat) : Path → Path → Timed (List StagedFile) :=
  openAndCopy surroundings (copyEntries surroundings fuel)

def stable : Option Surroundings.Metadata → Option Surroundings.Metadata → Bool
  | some first, some second => first.len = second.len && first.modified = second.modified
  | _, _ => false

def sameLength : Option Surroundings.Metadata → Option Nat → Bool
  | some third, some length => third.len = length
  | _, _ => false

def destSeen (now : Nat) (copied : List UInt8) : Option Nat :=
  match surroundings.failure now with
  | some _ => none
  | none => some copied.length

def destMetadata (copied : List UInt8) : Timed (Option Nat) := fun now =>
  some (.ok (destSeen surroundings now copied, now + 1))

def copyStable (fuel : Nat) (source dest : Path) : Timed (Bool × List StagedFile) := do
  if ← surroundings.isDir source then do
    let files ← copyDir surroundings fuel source dest
    pure (true, files)
  else do
    let first ← surroundings.metadata source
    surroundings.call
    let copy ← copyFile surroundings fuel source dest
    let second ← surroundings.metadata source
    if stable first second then
      pure (true, [{ copy with judged := .byTime }])
    else do
      let again ← copyFile surroundings fuel source dest
      let third ← surroundings.metadata source
      let written ← destMetadata surroundings again.bytes
      pure (sameLength third written, [{ again with judged := .byLength }])

def copySources (fuel : Nat) (dest : Path) : List Path → Nat → SnapshotView → Timed SnapshotView
  | [], _, view => pure view
  | source :: rest, index, view => fun now =>
      (do
        let found ← surroundings.exists source
        if found then do
          let staged := dest ++ ["copy", hexIndex index]
          surroundings.call
          let (same, files) ← copyStable surroundings fuel source staged
          copySources fuel dest rest (index + 1)
            { view with
              consistency := if same then view.consistency else .bestEffort
              mappings := view.mappings ++ [⟨source, staged⟩]
              files := view.files ++ files
              looked := view.looked ++ [(source, now)] }
        else
          copySources fuel dest rest (index + 1)
            { view with looked := view.looked ++ [(source, now)] } : Timed SnapshotView).run now

def createView (fuel : Nat) (btrfs : Path → Bool) (snapshotRoot : Path) (id : String)
    (sources : List Path) (preferBtrfs : Bool) : Timed SnapshotView := do
  let dest := snapshotRoot ++ [id]
  surroundings.call
  match btrfsParent btrfs preferBtrfs sources with
  | some common =>
      pure ⟨id, dest, .snapshot, btrfsMappings common dest sources, [], []⟩
  | none => copySources surroundings fuel dest sources 0 ⟨id, dest, .snapshot, [], [], []⟩

variable {surroundings}

/-- A copy made between two instants: it holds the content of the file as it was opened if nobody
has written to that while it was read, and a copy that is judged by the times is such a copy. -/
structure Taken (surroundings : Surroundings) (start finish : Nat) (file : StagedFile) : Prop where
  begins : start ≤ file.opened
  ends : file.closed ≤ finish
  order : file.opened < file.closed
  content : surroundings.Unwritten file.source file.opened file.closed →
    surroundings.contentAt file.opened file.source = some file.bytes
  kept : file.judged = .byTime → surroundings.WritesShow →
    surroundings.Unwritten file.source file.opened file.closed

theorem Taken.widen {start finish earlier later : Nat} {file : StagedFile}
    (taken : Taken surroundings start finish file) (before : earlier ≤ start)
    (after : finish ≤ later) : Taken surroundings earlier later file :=
  ⟨Nat.le_trans before taken.begins, Nat.le_trans taken.ends after, taken.order, taken.content,
    taken.kept⟩

variable {files : List StagedFile} {source dest : Path}

theorem copyFile_returned {fuel now later : Nat} {file : StagedFile}
    (returned : (copyFile surroundings fuel source dest).Returns now file later) :
    file.source = source ∧ file.opened = now ∧ file.closed = later ∧
      file.judged = .unjudged ∧ Taken surroundings now later file := by
  have mapped := Timed.returns_mapError.mp returned
  obtain ⟨inode, middle, opened, rest⟩ := Timed.returns_bind.mp mapped
  obtain ⟨done, ready, created, rest⟩ := Timed.returns_bind.mp rest
  obtain ⟨bytes, finish, read, ended⟩ := Timed.returns_bind.mp rest
  simp only [Timed.Returns, Timed.run, Option.some.injEq, Except.ok.injEq, Prod.mk.injEq] at ended
  obtain ⟨rfl, rfl⟩ := ended
  obtain ⟨rfl, named⟩ := Surroundings.openFile_returned opened
  have dated := Surroundings.call_later created
  have took := Surroundings.readAll_later read
  refine ⟨rfl, rfl, rfl, rfl, Nat.le_refl _, Nat.le_refl _, ?_, ?_, ?_⟩
  · change now < finish
    omega
  · intro unwritten
    have whole : bytes = ((surroundings.disk now).data inode).content := by
      apply Surroundings.readAll_content read rfl
      intro instant after before
      have since : now ≤ instant := by omega
      exact unwritten inode named instant since before
    simp only [Surroundings.contentAt, named, whole]
  · intro judged
    simp at judged

def Unjudged (surroundings : Surroundings) (start finish : Nat) (files : List StagedFile) : Prop :=
  start ≤ finish ∧
    ∀ file ∈ files, file.judged = .unjudged ∧ Taken surroundings start finish file

theorem Unjudged.widen {start finish earlier later : Nat}
    (unjudged : Unjudged surroundings start finish files) (before : earlier ≤ start)
    (after : finish ≤ later) : Unjudged surroundings earlier later files := by
  refine ⟨Nat.le_trans before (Nat.le_trans unjudged.1 after), ?_⟩
  intro file member
  obtain ⟨judged, taken⟩ := unjudged.2 file member
  exact ⟨judged, taken.widen before after⟩

theorem Unjudged.append {start middle finish : Nat} {files others : List StagedFile}
    (first : Unjudged surroundings start middle files)
    (second : Unjudged surroundings middle finish others) :
    Unjudged surroundings start finish (files ++ others) := by
  refine ⟨Nat.le_trans first.1 second.1, ?_⟩
  intro file member
  rcases List.mem_append.mp member with member | member
  · exact (first.widen (Nat.le_refl _) second.1).2 file member
  · exact (second.widen first.1 (Nat.le_refl _)).2 file member

theorem openAndCopy_returned {entries : Path → Path → Timed (List StagedFile)} {now later : Nat}
    (inside : ∀ start finish files, (entries source dest).Returns start files finish →
      Unjudged surroundings start finish files)
    (returned : (openAndCopy surroundings entries source dest).Returns now files later) :
    Unjudged surroundings now later files := by
  rw [openAndCopy] at returned
  obtain ⟨done, made, called, rest⟩ := Timed.returns_bind.mp returned
  have call := Surroundings.call_later called
  obtain ⟨done, opened, read, copied⟩ := Timed.returns_bind.mp rest
  have reading := Surroundings.openDir_later (Timed.returns_mapError.mp read)
  exact (inside _ _ _ copied).widen (by omega) (Nat.le_refl _)

theorem copyEntry_returned {fuel : Nat} {entries : Path → Path → Timed (List StagedFile)}
    {now later : Nat}
    (inside : ∀ start finish files, (entries source dest).Returns start files finish →
      Unjudged surroundings start finish files)
    (returned : (copyEntry surroundings fuel entries source dest).Returns now files later) :
    Unjudged surroundings now later files := by
  rw [copyEntry] at returned
  obtain ⟨isDirectory, looked, asked, rest⟩ := Timed.returns_bind.mp returned
  have look := Surroundings.isDir_later asked
  split at rest
  · exact (openAndCopy_returned inside rest).widen (by omega) (Nat.le_refl _)
  · obtain ⟨done, made, called, rest⟩ := Timed.returns_bind.mp rest
    have call := Surroundings.call_later called
    obtain ⟨file, closed, copy, ended⟩ := Timed.returns_bind.mp rest
    obtain ⟨rfl, rfl⟩ := Timed.returns_pure.mp ended
    obtain ⟨-, opens, closes, unjudged, taken⟩ := copyFile_returned copy
    have order := taken.order
    refine ⟨by omega, ?_⟩
    intro other member
    rw [List.mem_singleton] at member
    subst member
    exact ⟨unjudged, taken.widen (by omega) (Nat.le_refl _)⟩

theorem copyEntries_returned {fuel now later : Nat}
    (returned : (copyEntries surroundings fuel source dest).Returns now files later) :
    Unjudged surroundings now later files := by
  induction fuel generalizing now later source dest files with
  | zero => exact absurd returned Timed.not_returns_endless
  | succ fuel ih =>
      rw [copyEntries] at returned
      obtain ⟨name, middle, listed, rest⟩ := Timed.returns_bind.mp returned
      have step := Surroundings.nextEntry_later listed
      cases name with
      | none =>
          obtain ⟨rfl, rfl⟩ := Timed.returns_pure.mp rest
          exact ⟨by omega, by simp⟩
      | some name =>
          obtain ⟨here, between, copied, rest⟩ := Timed.returns_bind.mp rest
          obtain ⟨others, finish, further, ended⟩ := Timed.returns_bind.mp rest
          obtain ⟨rfl, rfl⟩ := Timed.returns_pure.mp ended
          have first := copyEntry_returned (fun _ _ _ inside => ih inside) copied
          exact (first.append (ih further)).widen (by omega) (Nat.le_refl _)

theorem copyDir_returned {fuel now later : Nat}
    (returned : (copyDir surroundings fuel source dest).Returns now files later) :
    Unjudged surroundings now later files :=
  openAndCopy_returned (fun _ _ _ inside => copyEntries_returned inside) returned

def Noticed (surroundings : Surroundings) (file : StagedFile) : Prop :=
  file.judged = .byLength ∧
    sameLength (surroundings.seen file.closed file.source)
      (destSeen surroundings (file.closed + 1) file.bytes) = false

theorem stable_times {first second : Option Surroundings.Metadata}
    (unchanged : stable first second = true) :
    ∃ before after, first = some before ∧ second = some after ∧
      before.modified = after.modified := by
  cases first with
  | none => simp [stable] at unchanged
  | some before =>
      cases second with
      | none => simp [stable] at unchanged
      | some after =>
          simp only [stable, Bool.and_eq_true, decide_eq_true_eq] at unchanged
          exact ⟨before, after, rfl, rfl, unchanged.2⟩

theorem bracketed_taken {first now later : Nat} {source : Path} {file : StagedFile}
    (taken : Taken surroundings now later file) (isSource : file.source = source)
    (opens : file.opened = now) (closes : file.closed = later) (earlier : first ≤ now)
    (unchanged : stable (surroundings.seen first source) (surroundings.seen later source) = true) :
    Taken surroundings first (later + 1) { file with judged := .byTime } := by
  obtain ⟨before, after, isFirst, isSecond, times⟩ := stable_times unchanged
  have order := taken.order
  refine ⟨by change first ≤ file.opened; omega, by change file.closed ≤ later + 1; omega, order,
    taken.content, ?_⟩
  intro _ shows
  change surroundings.Unwritten file.source file.opened file.closed
  subst isSource
  exact shows.unwritten (Surroundings.metadataAt_of_seen isFirst)
    (Surroundings.metadataAt_of_seen isSecond) times (by omega) order (by omega)

theorem copyStable_returned {fuel now later : Nat} {same : Bool}
    (returned : (copyStable surroundings fuel source dest).Returns now (same, files) later) :
    now ≤ later ∧ (∀ file ∈ files, Taken surroundings now later file) ∧
      ((∃ file ∈ files, Noticed surroundings file) → same = false) := by
  rw [copyStable] at returned
  obtain ⟨isDirectory, looked, asked, rest⟩ := Timed.returns_bind.mp returned
  have look := Surroundings.isDir_later asked
  split at rest
  · obtain ⟨copied, finish, made, ended⟩ := Timed.returns_bind.mp rest
    obtain ⟨equal, rfl⟩ := Timed.returns_pure.mp ended
    simp only [Prod.mk.injEq] at equal
    obtain ⟨rfl, rfl⟩ := equal
    have inside := copyDir_returned made
    refine ⟨Nat.le_trans (by omega) inside.1, ?_, ?_⟩
    · intro file member
      exact (inside.2 file member).2.widen (by omega) (Nat.le_refl _)
    · rintro ⟨file, member, judged, -⟩
      rw [(inside.2 file member).1] at judged
      simp at judged
  · obtain ⟨first, seen, lookFirst, rest⟩ := Timed.returns_bind.mp rest
    obtain ⟨rfl, rfl⟩ := Surroundings.metadata_returned lookFirst
    obtain ⟨done, made, called, rest⟩ := Timed.returns_bind.mp rest
    have call := Surroundings.call_later called
    obtain ⟨copy, closed, copied, rest⟩ := Timed.returns_bind.mp rest
    obtain ⟨isSource, opens, closes, -, taken⟩ := copyFile_returned copied
    have order := taken.order
    obtain ⟨second, seenAgain, lookSecond, rest⟩ := Timed.returns_bind.mp rest
    obtain ⟨rfl, rfl⟩ := Surroundings.metadata_returned lookSecond
    split at rest
    · rename_i unchanged
      obtain ⟨equal, rfl⟩ := Timed.returns_pure.mp rest
      simp only [Prod.mk.injEq] at equal
      obtain ⟨rfl, rfl⟩ := equal
      have bracketed := bracketed_taken taken isSource opens closes (by omega) unchanged
      refine ⟨by omega, ?_, ?_⟩
      · intro file member
        rw [List.mem_singleton] at member
        subst member
        exact bracketed.widen (by omega) (Nat.le_refl _)
      · rintro ⟨file, member, judged, -⟩
        rw [List.mem_singleton] at member
        simp [member] at judged
    · obtain ⟨again, reclosed, copiedAgain, rest⟩ := Timed.returns_bind.mp rest
      obtain ⟨againSource, reopens, recloses, -, retaken⟩ := copyFile_returned copiedAgain
      have reorder := retaken.order
      obtain ⟨third, seenThird, lookThird, rest⟩ := Timed.returns_bind.mp rest
      obtain ⟨rfl, rfl⟩ := Surroundings.metadata_returned lookThird
      obtain ⟨written, measured, lookCopy, ended⟩ := Timed.returns_bind.mp rest
      simp only [Timed.Returns, Timed.run, destMetadata, Option.some.injEq, Except.ok.injEq,
        Prod.mk.injEq] at lookCopy
      obtain ⟨rfl, rfl⟩ := lookCopy
      obtain ⟨equal, rfl⟩ := Timed.returns_pure.mp ended
      simp only [Prod.mk.injEq] at equal
      obtain ⟨rfl, rfl⟩ := equal
      refine ⟨by omega, ?_, ?_⟩
      · intro file member
        rw [List.mem_singleton] at member
        subst member
        have wide := retaken.widen (show now ≤ closed + 1 by omega)
          (show reclosed ≤ reclosed + 1 + 1 by omega)
        exact ⟨wide.begins, wide.ends, wide.order, wide.content, by simp⟩
      · rintro ⟨file, member, -, differs⟩
        rw [List.mem_singleton] at member
        subst member
        rw [← againSource, ← recloses]
        exact differs

def Present (surroundings : Surroundings) (look : Path × Nat) : Prop :=
  surroundings.failure look.2 = none ∧ ((surroundings.disk look.2).entry look.1).isSome

structure Grown (surroundings : Surroundings) (sources : List Path) (start finish : Nat)
    (before after : SnapshotView) : Prop where
  goesOn : start ≤ finish
  files : ∀ file ∈ after.files, file ∈ before.files ∨ Taken surroundings start finish file
  looks : ∀ look ∈ before.looked, look ∈ after.looked
  mapped : (∀ look ∈ after.looked, Present surroundings look) →
    after.mappings.map PathMapping.source = before.mappings.map PathMapping.source ++ sources
  label : after.consistency = .snapshot →
    before.consistency = .snapshot ∧
      ∀ file ∈ after.files, file ∈ before.files ∨ ¬ Noticed surroundings file

theorem Grown.trans {source : Path} {rest : List Path} {start middle finish : Nat}
    {before between after : SnapshotView}
    (first : Grown surroundings [source] start middle before between)
    (second : Grown surroundings rest middle finish between after) :
    Grown surroundings (source :: rest) start finish before after where
  goesOn := Nat.le_trans first.goesOn second.goesOn
  files := by
    intro file member
    rcases second.files file member with earlier | taken
    · rcases first.files file earlier with earliest | taken
      · exact Or.inl earliest
      · exact Or.inr (taken.widen (Nat.le_refl _) second.goesOn)
    · exact Or.inr (taken.widen first.goesOn (Nat.le_refl _))
  looks := fun look member => second.looks look (first.looks look member)
  mapped := by
    intro present
    have earlier : ∀ look ∈ between.looked, Present surroundings look :=
      fun look member => present look (second.looks look member)
    rw [second.mapped present, first.mapped earlier, List.append_assoc, List.singleton_append]
  label := by
    intro honest
    obtain ⟨honestBetween, unnoticedLater⟩ := second.label honest
    obtain ⟨honestBefore, unnoticed⟩ := first.label honestBetween
    refine ⟨honestBefore, ?_⟩
    intro file member
    rcases unnoticedLater file member with earlier | other
    · exact unnoticed file earlier
    · exact Or.inr other

theorem copySources_returned {fuel now later index : Nat} {dest : Path} {sources : List Path}
    {before after : SnapshotView}
    (returned : (copySources surroundings fuel dest sources index before).Returns now after later) :
    Grown surroundings sources now later before after := by
  induction sources generalizing now index before with
  | nil =>
      obtain ⟨rfl, rfl⟩ := Timed.returns_pure.mp returned
      exact ⟨Nat.le_refl _, fun _ member => Or.inl member, fun _ member => member, by simp,
        fun honest => ⟨honest, fun _ member => Or.inl member⟩⟩
  | cons source rest ih =>
      obtain ⟨found, looked, look, further⟩ := Timed.returns_bind.mp returned
      obtain ⟨step, present⟩ := Surroundings.exists_returned look
      split at further
      · obtain ⟨done, made, called, further⟩ := Timed.returns_bind.mp further
        have call := Surroundings.call_later called
        obtain ⟨⟨same, files⟩, copied, copies, further⟩ := Timed.returns_bind.mp further
        obtain ⟨onwards, taken, noticed⟩ := copyStable_returned copies
        refine Grown.trans ?_ (ih further)
        refine ⟨by omega, ?_, ?_, by simp, ?_⟩
        · intro file member
          rcases List.mem_append.mp member with earlier | here
          · exact Or.inl earlier
          · exact Or.inr ((taken file here).widen (by omega) (Nat.le_refl _))
        · intro earlier member
          exact List.mem_append_left _ member
        · intro honest
          cases same with
          | false => simp at honest
          | true =>
              refine ⟨honest, ?_⟩
              intro file member
              rcases List.mem_append.mp member with earlier | here
              · exact Or.inl earlier
              · refine Or.inr fun seen => ?_
                simpa using noticed ⟨file, here, seen⟩
      · rename_i missing
        refine Grown.trans ?_ (ih further)
        refine ⟨by omega, fun _ member => Or.inl member, ?_, ?_,
          fun honest => ⟨honest, fun _ member => Or.inl member⟩⟩
        · intro earlier member
          exact List.mem_append_left _ member
        · intro allPresent
          have here : Present surroundings (source, now) := by
            apply allPresent
            simp
          exact absurd (present.mpr here) missing

/-- The view claims no more than it holds: under the label of a snapshot every source is mapped
and every staged file is the content of its source at an instant of the call. -/
def Honest (surroundings : Surroundings) (sources : List Path) (start finish : Nat)
    (view : SnapshotView) : Prop :=
  view.consistency = .snapshot →
    view.mappings.map PathMapping.source = sources ∧
    ∀ file ∈ view.files, ∃ instant, start ≤ instant ∧ instant < finish ∧
      surroundings.contentAt instant file.source = some file.bytes

/-- Either a second copy is seen to differ in length, or every source is there when it is looked
for and nobody writes to an opened file while it is copied without being judged by its times. -/
def Undisturbed (surroundings : Surroundings) (view : SnapshotView) : Prop :=
  (∃ file ∈ view.files, Noticed surroundings file) ∨
    ((∀ look ∈ view.looked, Present surroundings look) ∧
      ∀ file ∈ view.files, file.judged ≠ .byTime →
        surroundings.Unwritten file.source file.opened file.closed)

theorem snapshot_honest {fuel start finish : Nat} {btrfs : Path → Bool} {snapshotRoot : Path}
    {id : String} {sources : List Path} {preferBtrfs : Bool} {view : SnapshotView}
    (shows : surroundings.WritesShow)
    (copies : btrfsParent btrfs preferBtrfs sources = none)
    (returned : (createView surroundings fuel btrfs snapshotRoot id sources preferBtrfs).Returns
      start view finish)
    (undisturbed : Undisturbed surroundings view) :
    Honest surroundings sources start finish view := by
  rw [createView] at returned
  obtain ⟨done, made, called, rest⟩ := Timed.returns_bind.mp returned
  have call := Surroundings.call_later called
  simp only [copies] at rest
  have grown := copySources_returned rest
  intro honest
  obtain ⟨-, unnoticed⟩ := grown.label honest
  rcases undisturbed with ⟨file, member, noticed⟩ | ⟨present, unwritten⟩
  · rcases unnoticed file member with earlier | not
    · simp at earlier
    · exact absurd noticed not
  · refine ⟨by simpa using grown.mapped present, ?_⟩
    intro file member
    have taken : Taken surroundings made finish file := by
      rcases grown.files file member with earlier | taken
      · simp at earlier
      · exact taken
    have calm : surroundings.Unwritten file.source file.opened file.closed := by
      by_cases judged : file.judged = .byTime
      · exact taken.kept judged shows
      · exact unwritten file member judged
    have begins := taken.begins
    have order := taken.order
    have ends := taken.ends
    exact ⟨file.opened, by omega, by omega, taken.content calm⟩

namespace Sample

def phase (second third now : Nat) : Nat :=
  if now < second then 0 else if now < third then 1 else 2

def save : Path := ["home", "save"]

def saveWritten (second third : Nat) : Surroundings where
  disk now :=
    { entry := fun path => if path = save then some (.file 7) else none
      data := fun _ =>
        ⟨List.replicate 2 (UInt8.ofNat (phase second third now + 1)), phase second third now⟩ }
  failure _ := none
  block _ := 0
  listed _ := none

theorem phase_between {second third first last now : Nat}
    (same : phase second third first = phase second third last) (after : first ≤ now)
    (before : now ≤ last) : phase second third now = phase second third first := by
  simp only [phase] at *
  split_ifs at * <;> omega

theorem writesShow (second third : Nat) :
    (saveWritten second third).WritesShow := by
  intro path first last before after _ seenFirst seenLast same instant since before'
  by_cases isSave : path = save
  · simp only [Surroundings.metadataAt, saveWritten, isSave, if_true, Option.map_some,
      Option.some.injEq] at seenFirst seenLast
    have phases : phase second third first = phase second third last := by
      rw [← seenFirst, ← seenLast] at same
      exact same
    refine ⟨.file 7, by simp [saveWritten, isSave], by simp [saveWritten, isSave], ?_⟩
    simp only [saveWritten, phase_between phases since before']
  · simp [Surroundings.metadataAt, saveWritten, isSave] at seenFirst

def staged : Path := ["snapshots", "view", "copy", "0000000000000000"]

def view (bytes : List UInt8) : SnapshotView :=
  ⟨"view", ["snapshots", "view"], .snapshot, [⟨save, staged⟩],
    [⟨save, staged, bytes, 12, 17, .byLength⟩], [(save, 1)]⟩

def taken (second third : Nat) : Timed SnapshotView :=
  createView (saveWritten second third) 5 (fun _ => false) ["snapshots"] "view" [save] false

end Sample

open Sample in
theorem snapshot_honest_retried :
    Honest (saveWritten 10 100) [save] 0 19 (Sample.view [2, 2]) := by
  refine snapshot_honest (writesShow 10 100) rfl (show (taken 10 100).Returns 0 _ 19 from rfl)
    (Or.inr ⟨?_, ?_⟩)
  · simp [Sample.view, Present, saveWritten]
  · intro file member _ inode _ instant since before
    simp only [Sample.view, List.mem_singleton] at member
    subst member
    have written : phase 10 100 instant = phase 10 100 12 :=
      phase_between (show phase 10 100 12 = phase 10 100 17 from rfl) since (Nat.le_of_lt before)
    simp only [saveWritten, written]

open Sample in
/-- The save is written during both copies: the second holds one byte of each, and the label is
that of a snapshot. A source that is gone is left out under the same label. -/
theorem torn_save_labelled :
    (saveWritten 10 15).WritesShow ∧
      (taken 10 15).Returns 0 (Sample.view [2, 3]) 19 ∧
      ¬ Honest (saveWritten 10 15) [save] 0 19 (Sample.view [2, 3]) ∧
      (createView (saveWritten 10 15) 5 (fun _ => false) ["snapshots"] "view" [["gone"]]
        false).Returns 0 ⟨"view", ["snapshots", "view"], .snapshot, [], [], [(["gone"], 1)]⟩ 2 := by
  refine ⟨writesShow 10 15, rfl, ?_, rfl⟩
  intro honest
  obtain ⟨-, contents⟩ := honest rfl
  obtain ⟨instant, -, -, content⟩ := contents _ (List.mem_singleton.mpr rfl)
  simp only [Surroundings.contentAt, saveWritten, if_true, Option.some.injEq] at content
  have bytes : List.replicate 2 (UInt8.ofNat (phase 10 15 instant + 1)) ≠ [2, 3] := by
    intro equal
    simp only [List.replicate, List.cons.injEq] at equal
    have both := equal.1.symm.trans equal.2.1
    simp at both
  exact bytes content

end Noland.Snapshot
