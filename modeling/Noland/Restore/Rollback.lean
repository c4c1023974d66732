import Noland.Restore.Publish

/-!
Partial files and created paths are removed, replaced files and links are put back and created
directories are removed if they are empty. A step that fails does not keep the later ones from
running. `abort` does it with the journal in memory.
-/

namespace Noland.Restore

open Noland.Core Noland.FileTree Noland.Text Noland.Requests

def removeRecoveryLeafDurable (path : Path) : RestoreProg Unit := do
  perform (.removeLeaf path)
  perform (.syncParent path)

def restoreRegularMapping (journal : Journal) (mapping : PathMapping) : RestoreProg Unit := do
  perform (.artifactMetadata mapping.staged)
  perform (.validateRecoveryDestination journal mapping.source)
  perform (.requireDestinationParent mapping.source)
  perform (.ensureLeafReplaceable mapping.source)
  let beside ← Prog.ofExcept (rollbackPartialPath mapping.source journal.restoreId)
  perform (.validateRecoveryDestination journal beside)
  perform (.removeLeaf beside)
  perform (.copyArtifact mapping.staged beside)
  perform (.syncFile beside)
  perform (.rename beside mapping.source)
  perform (.syncParent mapping.source)

def restorePriorSymlink (journal : Journal) (rollback : SymlinkRollback) : RestoreProg Unit := do
  perform (.validateRecoveryDestination journal rollback.destination)
  perform (.requireDestinationParent rollback.destination)
  perform (.ensureLeafReplaceable rollback.destination)
  let beside ← Prog.ofExcept (rollbackPartialPath rollback.destination journal.restoreId)
  perform (.validateRecoveryDestination journal beside)
  perform (.removeLeaf beside)
  perform (.createSymlink rollback.target beside)
  perform (.rename beside rollback.destination)
  perform (.syncParent rollback.destination)

def afterRemoveDir (directory : Path) : Except StateError Unit → RestoreProg Unit
  | .ok _ | .error (.io .notFound) => perform (.syncParent directory)
  | .error (.io .directoryNotEmpty) => .done ()
  | .error error => .throw error

def removeCreatedDirectory (directory : Path) : RestoreProg Unit := do
  let removed : Except StateError Unit ← observe (.removeDir directory)
  afterRemoveDir directory removed

def deepestFirst (directories : List Path) : List Path :=
  directories.insertionSort fun left right => right.length ≤ left.length

def rollbackSteps (journal : Journal) : List (RestoreProg Unit) :=
  journal.partialPaths.map removeRecoveryLeafDurable ++
    journal.createdPaths.reverse.map removeRecoveryLeafDurable ++
    journal.rollbackMappings.reverse.map (restoreRegularMapping journal) ++
    journal.priorSymlinks.reverse.map (restorePriorSymlink journal) ++
    (deepestFirst journal.createdDirectories).map removeCreatedDirectory

/-- `record_cleanup_error`. -/
def firstError (found : Option StateError) : Except StateError Unit → Option StateError
  | .ok _ => found
  | .error error => found.or (some error)

def cleanUp : List (RestoreProg Unit) → Option StateError → RestoreProg (Option StateError)
  | [], found => .done found
  | step :: rest, found => do
      let result ← step.attempt
      cleanUp rest (firstError found result)

def failWith : Option StateError → RestoreProg Unit
  | some error => .throw error
  | none => .done ()

def rollbackFromJournal (journal : Journal) : RestoreProg Unit := do
  perform (.validateRecoveryJournal journal)
  let found ← cleanUp (rollbackSteps journal) none
  failWith found

theorem cleanUp_append (first second : List (RestoreProg Unit)) (found : Option StateError) :
    cleanUp (first ++ second) found = cleanUp first found >>= cleanUp second := by
  induction first generalizing found with
  | nil => rfl
  | cons step rest ih =>
      show (step.attempt >>= fun result => cleanUp (rest ++ second) (firstError found result)) = _
      simp only [ih]
      exact (Prog.bind_assoc _ _ _).symm

def abort (setup : RestoreSetup) : RestoreProg Unit := do
  let transaction ← recollect
  if transaction.state ≠ .active then .done ()
  else do
    let found ← cleanUp
      [persistJournal .active,
        rollbackFromJournal (transaction.journalSnapshot setup.plan .active),
        perform .releasePackLinks, perform .prunePackCache] none
    failWith found
    remember fun transaction => { transaction with state := .aborted }
    removeWorkspaceIfPresent

end Noland.Restore
