import Noland.Backup.ManifestPaths
import Noland.Restore.Publish

/-!
The tombstones are planned against the destinations of the entries and removed after the entries
have been written; a directory that is there before is left alone, one that the restore itself has
made is removed with what is in it.
-/

namespace Noland.Restore

open Noland.Backup Noland.Core Noland.FileTree Noland.Text Noland.Requests

def clash (destination : Path) : StateError :=
  .invalid ("manifest entry and tombstone both resolve to " ++ display destination)

def tombstoneDestination (setup : RestoreSetup) (tree : Tree) (tombstone : ManifestTombstone) :
    Option Path :=
  match resolveTombstone setup.roots tree tombstone with
  | .ok (some resolved) => some resolved.2
  | _ => none

def entryDestination (setup : RestoreSetup) (tree : Tree) (file : ManifestFile) : Option Path :=
  match resolveDestination setup.roots tree file with
  | .ok resolved => some resolved.2
  | .error _ => none

/-- On the machine no two tombstones go to one place, nor do a file and a tombstone that the
manifest names differently. No tombstone goes below a file or a link of the manifest, and what
one names above an entry is a directory already. -/
structure Apart (setup : RestoreSetup) (tree : Tree) : Prop where
  once : (setup.plan.manifest.tombstones.filterMap (tombstoneDestination setup tree)).Nodup
  distinct : ∀ file ∈ setup.plan.manifest.files, ∀ tombstone ∈ setup.plan.manifest.tombstones,
    fileKey file ≠ tombstoneKey tombstone → ∀ destination ∈ entryDestination setup tree file,
      tombstoneDestination setup tree tombstone ≠ some destination
  beside : ∀ file ∈ setup.plan.manifest.files, ∀ tombstone ∈ setup.plan.manifest.tombstones,
    ∀ destination ∈ entryDestination setup tree file,
    ∀ buried ∈ tombstoneDestination setup tree tombstone,
      (file.fileType ≠ "directory" → ¬ destination <+: buried) ∧
      (buried <+: destination → lstatIfPresent tree buried = .ok (some .directory))

/-- Files and links are only written where the manifest has them, and nothing is removed above,
at or below the place of one. -/
structure Spares (setup : RestoreSetup) (tree : Tree)
    (history : List (Event restoreInterface StateError)) : Prop where
  written : ∀ beside destination renamed,
    (⟨.rename beside destination, renamed⟩ : Event restoreInterface StateError) ∈ history →
    ∃ file ∈ setup.plan.manifest.files, file.fileType ≠ "directory" ∧
      entryDestination setup tree file = some destination
  removed : ∀ path removed,
    (⟨.removePathIfPresent path, removed⟩ : Event restoreInterface StateError) ∈ history →
    ∀ file ∈ setup.plan.manifest.files, file.fileType ≠ "directory" →
      ∀ destination ∈ entryDestination setup tree file,
        ¬ path <+: destination ∧ ¬ destination <+: path

section Planning

def Clean {α : Type} (result : Except StateError α) : Prop :=
  ∀ destination, result ≠ .error (clash destination)

variable {α β : Type}

theorem clean_ok (value : α) : Clean (.ok value) := nofun

theorem clean_bind {first : Except StateError α} {next : α → Except StateError β}
    (one : Clean first) (two : ∀ value, first = .ok value → Clean (next value)) :
    Clean (first >>= next) := by
  cases first with
  | ok value => exact two value rfl
  | error error =>
      exact fun destination same => one destination (congrArg _ (Except.error.inj same))

theorem clean_invalid {start text : String} (long : 2 ≤ start.toList.length)
    (other : start.toList.take 2 ≠ ['m', 'a']) :
    Clean (.error (.invalid (start ++ text)) : Except StateError α) := by
  intro destination same
  have texts := congrArg String.toList (StateError.invalid.inj (Except.error.inj same))
  rw [String.toList_append, String.toList_append] at texts
  have starts := congrArg (List.take 2) texts
  rw [List.take_append_of_le_length long, List.take_append_of_le_length (by decide)] at starts
  exact other (starts.trans (by decide))

theorem clean_validateRelativePath (relative : String) : Clean (validateRelativePath relative) := by
  fun_cases validateRelativePath relative <;> nofun

theorem clean_joinValidated (root : Path) (relative : String) :
    Clean (joinValidated root relative) :=
  clean_bind (clean_validateRelativePath relative) fun _ _ => nofun

theorem clean_lstatIfPresent (tree : Tree) (path : Path) : Clean (lstatIfPresent tree path) := by
  fun_cases lstatIfPresent tree path <;> nofun

theorem clean_resolveRoot (tree : Tree) (root : String) : Clean (resolveRoot tree root) := by
  have up : ∀ (path : Path) (above missing : List String),
      Clean (canonicalizeUp tree path above missing) := by
    intro path above missing
    fun_induction canonicalizeUp tree path above missing <;>
      first | assumption | (intro destination same; cases same)
  exact up _ _ _

theorem clean_validateDirectoryComponent (tree : Tree) (path : Path) :
    Clean (validateDirectoryComponent tree path) := by
  fun_cases validateDirectoryComponent tree path with
  | case3 => exact clean_invalid (by decide) (by decide)
  | _ => nofun

theorem clean_validateBelow (tree : Tree) (names : List String) (current : Path) :
    Clean (validateBelow tree current names) := by
  induction names generalizing current with
  | nil => exact clean_ok ()
  | cons name rest ih =>
      apply clean_bind (clean_validateDirectoryComponent tree _)
      intro _ _
      split
      · exact ih _
      · exact clean_ok ()

theorem clean_validateParentChain (tree : Tree) (root destination : Path) :
    Clean (validateParentChain tree root destination) := by
  apply clean_bind (clean_validateDirectoryComponent tree root)
  intro _ _
  split
  · exact clean_ok ()
  · split
    · nofun
    · split
      · nofun
      · exact clean_validateBelow tree _ _

theorem clean_isIdentical (hash : List UInt8 → String) (tree : Tree) (file : ManifestFile)
    (destination : Path) (metadata : Option Node) :
    Clean (isIdentical hash tree file destination metadata) := by
  fun_cases isIdentical hash tree file destination metadata with
  | case3 => exact @clean_invalid Bool "symlink missing target" "" (by decide) (by decide)
  | case5 =>
      apply clean_bind
      · unfold validateSymlinkTarget
        split <;> nofun
      · exact fun _ _ => nofun
  | _ => nofun

theorem clean_resolveDestination (roots : LogicalRootMap) (tree : Tree) (file : ManifestFile) :
    Clean (resolveDestination roots tree file) := by
  apply clean_bind (clean_validateRelativePath _)
  intro _ _
  split
  · nofun
  · split
    · nofun
    · apply clean_bind (clean_resolveRoot tree _)
      intro root _
      exact clean_bind (clean_joinValidated root _) fun _ _ => nofun

theorem clean_resolveTombstone (roots : LogicalRootMap) (tree : Tree)
    (tombstone : ManifestTombstone) : Clean (resolveTombstone roots tree tombstone) := by
  apply clean_bind (clean_validateRelativePath _)
  intro _ _
  split
  · nofun
  · split
    · nofun
    · apply clean_bind (clean_resolveRoot tree _)
      intro root _
      exact clean_bind (clean_joinValidated root _) fun _ _ => nofun

theorem planDestination_spec (setup : RestoreSetup) (tree : Tree) (seen : List Path)
    (entry : RestorePlanEntry) :
    Clean (planDestination setup tree seen entry) ∧
      ∀ planned, planDestination setup tree seen entry = .ok planned →
        planned.file = entry.file ∧ resolveDestination setup.roots tree entry.file =
          .ok (planned.root, planned.destination) := by
  unfold planDestination
  constructor
  · apply clean_bind (clean_resolveDestination _ tree _)
    rintro ⟨root, destination⟩ _
    dsimp only
    split
    · exact clean_invalid (by decide) (by decide)
    · apply clean_bind (clean_validateParentChain tree root destination)
      intro _ _
      apply clean_bind (clean_lstatIfPresent tree destination)
      intro metadata _
      apply clean_bind (clean_isIdentical _ tree _ destination metadata)
      intro identical _
      split
      · exact clean_invalid (by decide) (by decide)
      · exact clean_ok _
  · intro planned succeeded
    obtain ⟨⟨root, destination⟩, resolved, rest⟩ := bind_ok succeeded
    dsimp only at rest
    split at rest
    · cases rest
    · obtain ⟨_, _, rest⟩ := bind_ok rest
      obtain ⟨metadata, _, rest⟩ := bind_ok rest
      obtain ⟨identical, _, rest⟩ := bind_ok rest
      split at rest
      · cases rest
      · cases rest
        exact ⟨rfl, resolved⟩

theorem planDestinations_spec (setup : RestoreSetup) (tree : Tree)
    (entries : List RestorePlanEntry) (seen : List Path) :
    Clean (planDestinations setup tree seen entries) ∧
      ∀ planned, planDestinations setup tree seen entries = .ok planned →
        ∀ one ∈ planned, ∃ entry ∈ entries, one.file = entry.file ∧
          resolveDestination setup.roots tree entry.file = .ok (one.root, one.destination) := by
  induction entries generalizing seen with
  | nil =>
      refine ⟨clean_ok _, fun planned same one member => ?_⟩
      cases same
      cases member
  | cons entry rest ih =>
      have first := planDestination_spec setup tree seen entry
      constructor
      · apply clean_bind first.1
        intro planned _
        exact clean_bind (ih _).1 fun _ _ => clean_ok _
      · intro planned succeeded one member
        obtain ⟨head, planned_head, succeeded⟩ := bind_ok succeeded
        obtain ⟨others, planned_others, succeeded⟩ := bind_ok succeeded
        cases succeeded
        rcases List.mem_cons.mp member with rfl | later
        · exact ⟨entry, List.mem_cons_self, first.2 _ planned_head⟩
        · obtain ⟨other, inside, found⟩ := (ih _).2 others planned_others one later
          exact ⟨other, List.mem_cons_of_mem _ inside, found⟩

/-- Tombstones whose destinations are new and differ are planned without a clash, and none of
those that are planned is a directory. -/
theorem planTombstones_spec (setup : RestoreSetup) (tree : Tree)
    (tombstones : List ManifestTombstone) (seen : List Path)
    (new : ∀ tombstone ∈ tombstones, ∀ buried,
      tombstoneDestination setup tree tombstone = some buried → buried ∉ seen)
    (once : (tombstones.filterMap (tombstoneDestination setup tree)).Nodup) :
    Clean (planTombstones setup.roots tree seen tombstones) ∧
      ∀ planned, planTombstones setup.roots tree seen tombstones = .ok planned →
        ∀ one ∈ planned, ∃ tombstone ∈ tombstones,
          tombstoneDestination setup tree tombstone = some one.destination ∧
          lstatIfPresent tree one.destination ≠ .ok (some .directory) := by
  induction tombstones generalizing seen with
  | nil =>
      refine ⟨clean_ok _, fun planned same one member => ?_⟩
      cases same
      cases member
  | cons tombstone rest ih =>
      have later : ∀ seen', (∀ other ∈ rest, ∀ buried,
          tombstoneDestination setup tree other = some buried → buried ∉ seen') → _ :=
        fun seen' apart => ih seen' apart
          ((once.sublist ((List.sublist_cons_self _ _).filterMap _)))
      unfold planTombstones
      cases resolved : resolveTombstone setup.roots tree tombstone with
      | error error =>
          refine ⟨fun destination same => clean_resolveTombstone _ tree tombstone destination
            (resolved.trans (congrArg _ (Except.error.inj same))), nofun⟩
      | ok found =>
          cases found with
          | none =>
              have tail := later seen fun other member => new other (List.mem_cons_of_mem _ member)
              refine ⟨tail.1, fun planned succeeded one member => ?_⟩
              obtain ⟨other, inside, found⟩ := tail.2 planned succeeded one member
              exact ⟨other, List.mem_cons_of_mem _ inside, found⟩
          | some place =>
              obtain ⟨root, destination⟩ := place
              have goes : tombstoneDestination setup tree tombstone = some destination := by
                unfold tombstoneDestination
                rw [resolved]
              have unseen := new tombstone List.mem_cons_self destination goes
              rw [List.filterMap_cons_some goes] at once
              have tail := later (destination :: seen) fun other member buried going inside => by
                rcases List.mem_cons.mp inside with rfl | old
                · exact (List.nodup_cons.mp once).1 (List.mem_filterMap.mpr ⟨other, member, going⟩)
                · exact new other (List.mem_cons_of_mem _ member) buried going old
              constructor
              · apply clean_bind (clean_validateParentChain tree root destination)
                intro _ _
                rw [if_neg unseen]
                apply clean_bind (clean_lstatIfPresent tree destination)
                intro metadata _
                exact clean_bind tail.1 fun _ _ => clean_ok _
              · intro planned succeeded one member
                obtain ⟨_, same, succeeded⟩ := bind_ok succeeded
                cases same
                obtain ⟨_, _, succeeded⟩ := bind_ok succeeded
                rw [if_neg unseen] at succeeded
                obtain ⟨metadata, looked, succeeded⟩ := bind_ok succeeded
                obtain ⟨others, planned_others, succeeded⟩ := bind_ok succeeded
                cases succeeded
                have among : (one = ⟨root, destination⟩ ∧ metadata ≠ some .directory) ∨
                    one ∈ others := by
                  split at member
                  · exact Or.inr member
                  · rename_i plain
                    exact (List.mem_cons.mp member).imp_left fun same => ⟨same, plain⟩
                rcases among with ⟨rfl, plain⟩ | other
                · refine ⟨tombstone, List.mem_cons_self, goes, fun directory => plain ?_⟩
                  rw [looked] at directory
                  exact Except.ok.inj directory
                · obtain ⟨other, inside, found⟩ := tail.2 others planned_others one other
                  exact ⟨other, List.mem_cons_of_mem _ inside, found⟩

end Planning

section Writing

variable {written removed : List Path}

def Writes (written removed : List Path) : RestoreOp → Prop
  | .rename _ destination => destination ∈ written
  | .removePathIfPresent path => path ∈ removed
  | _ => True

abbrev Keeping {α : Type} (written removed : List Path) (program : RestoreProg α) : Prop :=
  program.Uses (Writes written removed) (fun _ => True) fun _ => True

theorem keeping_prepareRollback (planned : List PlannedDestination)
    (tombstones : List PlannedTombstone) :
    Keeping written removed (prepareRollback planned tombstones) := by
  refine uses_then (by trivial) fun _ => uses_then (by trivial) fun sources => ?_
  apply Prog.Uses.andThen
  · unfold captureView
    apply Prog.Uses.ite
    · exact fun _ => trivial
    · intro _
      refine uses_then (by trivial) fun mappings => ?_
      exact Prog.Uses.ite (fun _ => trivial) fun _ => uses_perform (by trivial)
  · intro _
    exact uses_then (by trivial) fun _ => uses_perform (by trivial)

theorem keeping_directories (root destination : Path) :
    Keeping written removed (createDirectoryChainJournaled root destination) := by
  refine uses_then (by trivial) fun missing => Prog.Uses.forEach fun directory _ => ?_
  exact uses_then (by trivial) fun _ => uses_then (by trivial) fun _ =>
    uses_then (by trivial) fun _ => uses_perform (by trivial)

theorem keeping_journaled (update : Transaction → Transaction) :
    Keeping written removed (remember update >>= fun _ => persistJournal .active) :=
  uses_then (by trivial) fun _ => uses_perform (by trivial)

variable {planned : PlannedDestination}

theorem keeping_moveIntoPlace (beside : Path) (known : planned.destination ∈ written) :
    Keeping written removed (moveIntoPlace planned beside) := by
  have moves : Keeping written removed (do
      perform (.rename beside planned.destination)
      perform (.syncParent planned.destination)
      clearPartial beside) :=
    uses_then known fun _ => uses_then (by trivial) fun _ => keeping_journaled _
  apply Prog.Uses.ite
  · exact fun _ => moves
  · exact fun _ => (keeping_journaled _).andThen fun _ => moves

theorem keeping_publishFile (setup : RestoreSetup) (known : planned.destination ∈ written) :
    Keeping written removed (publishFile setup planned) := by
  apply (uses_ofExcept _).andThen
  intro parent
  apply (keeping_directories _ _).andThen
  intro _
  refine uses_then (by trivial) fun _ => ?_
  apply (uses_ofExcept _).andThen
  intro beside
  apply (keeping_journaled _).andThen
  intro _
  refine uses_then (by trivial) fun _ => uses_then (by trivial) fun _ => ?_
  apply (Prog.Uses.forEach fun chunk _ => uses_perform (by trivial)).andThen
  intro _
  refine uses_then (by trivial) fun _ => ?_
  apply Prog.Uses.andThen
  · cases planned.file.mode with
    | none => trivial
    | some mode => exact uses_perform (by trivial)
  · intro _
    exact uses_then (by trivial) fun _ => keeping_moveIntoPlace beside known

theorem keeping_publishSymlink (setup : RestoreSetup) (known : planned.destination ∈ written) :
    Keeping written removed (publishSymlink setup planned) := by
  apply (uses_ofExcept _).andThen
  intro target
  apply (uses_ofExcept _).andThen
  intro parent
  apply (keeping_directories _ _).andThen
  intro _
  refine uses_then (by trivial) fun _ => ?_
  apply (uses_ofExcept _).andThen
  intro beside
  apply (keeping_journaled _).andThen
  intro _
  exact uses_then (by trivial) fun _ => uses_then (by trivial) fun _ =>
    keeping_moveIntoPlace beside known

theorem keeping_releaseEntryChunks (file : ManifestFile) :
    Keeping written removed (releaseEntryChunks file) := by
  apply Prog.Uses.forEach
  intro hash _
  refine uses_then (by trivial) fun (transaction : Transaction) => ?_
  split
  · trivial
  · trivial
  · refine uses_then (by trivial) fun _ => Prog.Uses.ite (fun _ => ?_) fun _ => trivial
    exact uses_then (by trivial) fun _ => trivial

theorem keeping_publishEntry (setup : RestoreSetup)
    (known : planned.file.fileType ≠ "directory" → planned.destination ∈ written) :
    Keeping written removed (publishEntry setup planned) := by
  apply Prog.Uses.andThen
  · unfold writeEntry
    apply Prog.Uses.ite
    · exact fun _ => trivial
    · intro _
      apply Prog.Uses.ite
      · exact fun _ => keeping_directories _ _
      · intro plain
        apply Prog.Uses.ite
        · exact fun _ => keeping_publishSymlink setup (known plain)
        · intro _
          exact Prog.Uses.ite (fun _ => keeping_publishFile setup (known plain))
            fun _ => uses_ofExcept _
  · intro _
    exact (keeping_releaseEntryChunks _).andThen fun _ => uses_perform (by trivial)

theorem keeping_applyTombstones (target : RestoreTarget) (applied : Bool)
    {tombstones : List PlannedTombstone}
    (known : ∀ tombstone ∈ tombstones, tombstone.destination ∈ removed) :
    Keeping written removed (applyTombstones target applied tombstones) := by
  apply Prog.Uses.ite
  · intro _
    apply Prog.Uses.andThen
    · apply Prog.Uses.forEach
      intro tombstone member
      refine uses_then (known tombstone member) fun (found : Bool) => ?_
      exact Prog.Uses.ite (fun _ => uses_perform (by trivial)) fun _ => trivial
    · intro _
      exact uses_perform (by trivial)
  · exact fun _ => trivial

def carryOut (setup : RestoreSetup) (target : RestoreTarget) (applied : Bool)
    (planned : List PlannedDestination) (tombstones : List PlannedTombstone) :
    RestoreProg RestoreReport := do
  prepareRollback planned tombstones
  Prog.forEach planned (publishEntry setup)
  applyTombstones target applied tombstones
  .done (reportOf planned)

theorem keeping_carryOut (setup : RestoreSetup) (target : RestoreTarget) (applied : Bool)
    (planned : List PlannedDestination) (tombstones : List PlannedTombstone) :
    Keeping ((planned.filter fun one => one.file.fileType ≠ "directory").map
        PlannedDestination.destination) (tombstones.map PlannedTombstone.destination)
      (carryOut setup target applied planned tombstones) := by
  apply (keeping_prepareRollback _ _).andThen
  intro _
  apply Prog.Uses.andThen
  · apply Prog.Uses.forEach
    intro one member
    apply keeping_publishEntry
    intro plain
    exact List.mem_map_of_mem (List.mem_filter.mpr ⟨member, decide_eq_true plain⟩)
  · intro _
    apply (keeping_applyTombstones _ _ fun tombstone member => List.mem_map_of_mem member).andThen
    exact fun _ => trivial

end Writing

theorem publishTo_eq (setup : RestoreSetup) (target : RestoreTarget) :
    publishTo setup target = perform .recollect >>= fun transaction : Transaction =>
      if transaction.state ≠ .active then notActive
      else perform (.preflight target) >>= fun plan :
          List PlannedDestination × List PlannedTombstone =>
        carryOut setup target transaction.tombstonesApplied plan.1 plan.2 := rfl

theorem preflight_spec {setup : RestoreSetup} {tree : Tree} (apart : Apart setup tree)
    (disjoint : PathsDisjoint setup.plan.manifest.files setup.plan.manifest.tombstones)
    (transaction : Transaction) (target : RestoreTarget) :
    Clean (preflight setup tree transaction target) ∧
      ∀ plan, preflight setup tree transaction target = .ok plan →
        (∀ one ∈ plan.1, one.file ∈ setup.plan.manifest.files ∧
          entryDestination setup tree one.file = some one.destination) ∧
        ∀ tombstone ∈ plan.2, ∀ file ∈ setup.plan.manifest.files, file.fileType ≠ "directory" →
          ∀ destination ∈ entryDestination setup tree file,
            ¬ tombstone.destination <+: destination ∧ ¬ destination <+: tombstone.destination := by
  have planned := planDestinations_spec setup tree
    ((entriesFor setup.plan.priorityPlan target).filter fun entry =>
      entry.manifestIndex ∉ transaction.publishedEntries) []
  have selected : ∀ destinations, planDestinations setup tree []
      ((entriesFor setup.plan.priorityPlan target).filter fun entry =>
        entry.manifestIndex ∉ transaction.publishedEntries) = .ok destinations →
      ∀ one ∈ destinations, one.file ∈ setup.plan.manifest.files ∧
        entryDestination setup tree one.file = some one.destination := by
    intro destinations succeeded one member
    obtain ⟨entry, inside, named, resolved⟩ := planned.2 destinations succeeded one member
    have known := file_of_mem_planRestorePriorities
      (List.mem_filter.mp (List.mem_filter.mp inside).1).1
    rw [named, entryDestination, resolved]
    exact ⟨known.1, rfl⟩
  have buried : ∀ destinations, planDestinations setup tree []
      ((entriesFor setup.plan.priorityPlan target).filter fun entry =>
        entry.manifestIndex ∉ transaction.publishedEntries) = .ok destinations → _ :=
    fun destinations succeeded => planTombstones_spec setup tree setup.plan.manifest.tombstones
      (destinations.map PlannedDestination.destination).reverse (by
        intro tombstone member place goes inside
        obtain ⟨one, among, rfl⟩ := List.mem_map.mp (List.mem_reverse.mp inside)
        obtain ⟨known, resolved⟩ := selected destinations succeeded one among
        refine apart.distinct one.file known tombstone member ?_ _ resolved goes
        intro same
        exact disjoint.2 _ (List.mem_map_of_mem known) (same ▸ List.mem_map_of_mem member))
      apart.once
  unfold preflight
  constructor
  · apply clean_bind planned.1
    intro destinations succeeded
    split
    · exact clean_bind (buried destinations succeeded).1 fun _ _ => clean_ok _
    · exact clean_ok _
  · intro plan succeeded
    obtain ⟨destinations, planned_destinations, rest⟩ := bind_ok succeeded
    split at rest
    · obtain ⟨tombstones, planned_tombstones, rest⟩ := bind_ok rest
      cases rest
      refine ⟨selected _ planned_destinations, ?_⟩
      intro tombstone member file known regular destination resolved
      obtain ⟨listed, inside, goes, plain⟩ :=
        (buried _ planned_destinations).2 tombstones planned_tombstones tombstone member
      obtain ⟨below, above⟩ := apart.beside file known listed inside _ resolved _ goes
      exact ⟨fun inner => plain (above inner), below regular⟩
    · cases rest
      exact ⟨selected _ planned_destinations, nofun⟩

theorem publishTo_spares {setup : RestoreSetup} {target : RestoreTarget} {world : World}
    {outcome : Outcome StateError RestoreReport}
    {final : Config restoreInterface StateError World} (apart : Apart setup world.tree)
    (disjoint : PathsDisjoint setup.plan.manifest.files setup.plan.manifest.tombstones)
    (run : Runs (restoreHandler setup) (fun _ _ _ => True) (publishTo setup target) ⟨[], world⟩
      outcome final) : Spares setup world.tree final.history := by
  have asks : ∀ {op : RestoreOp}, (perform op).Uses (fun other => other = op) (fun _ => True)
      fun _ => True := uses_perform rfl
  have idle : ∀ {history : List (Event restoreInterface StateError)},
      (∀ event ∈ history, event.op = .recollect ∨ event.op = .preflight target) →
      Spares setup world.tree history := by
    intro history looks
    constructor
    · intro beside destination renamed writing
      rcases looks _ writing with same | same <;> cases same
    · intro path removed removal
      rcases looks _ removal with same | same <;> cases same
  rw [publishTo_eq] at run
  rcases runs_bind run with ⟨transaction, first, looked, rest⟩ | ⟨error, looked, _⟩ | ⟨looked, _⟩
  · have recollected : ∀ event ∈ first.history, event.op = .recollect := fun event member =>
      (asks.history looked event member).resolve_left List.not_mem_nil
    have still : first.state = world := (runs_perform looked).of_ok.2
    split at rest
    · cases rest
      exact idle fun event member => Or.inl (recollected event member)
    · have events : ∀ {middle : Config restoreInterface StateError World} {ended},
          Runs (restoreHandler setup) (fun _ _ _ => True) (perform (.preflight target)) first ended
            middle → ∀ event ∈ middle.history,
            event.op = .recollect ∨ event.op = .preflight target := fun planned event member =>
        (asks.history planned event member).imp_left (recollected event)
      rcases runs_bind rest with ⟨plan, second, planned, rest⟩ | ⟨error, planned, _⟩ | ⟨planned, _⟩
      · have answered := (runs_perform planned).of_ok.1
        rw [still] at answered
        have separate := (preflight_spec apart disjoint world.transaction target).2 plan answered
        have wrote : ∀ event ∈ final.history, Writes _ _ event.op := fun event member =>
          ((keeping_carryOut setup target _ plan.1 plan.2).history rest event member).elim
            (fun old => by
              rcases events planned event old with same | same <;> rw [same] <;> trivial)
            id
        constructor
        · intro beside destination renamed writing
          obtain ⟨one, among, rfl⟩ := List.mem_map.mp (wrote _ writing)
          obtain ⟨inside, plain⟩ := List.mem_filter.mp among
          exact ⟨one.file, (separate.1 one inside).1, of_decide_eq_true plain,
            (separate.1 one inside).2⟩
        · intro path removed removal
          obtain ⟨tombstone, member, rfl⟩ := List.mem_map.mp (wrote _ removal)
          exact separate.2 tombstone member
      · exact idle (events planned)
      · exact idle (events planned)
  · exact idle fun event member =>
      Or.inl ((asks.history looked event member).resolve_left List.not_mem_nil)
  · exact idle fun event member =>
      Or.inl ((asks.history looked event member).resolve_left List.not_mem_nil)

/-- The manifest names every path once exactly when the paths are settled. Then, where the
manifest keeps its places apart on the machine, its restore never finds an entry and a tombstone
in one place, and a call of it removes nothing that a call writes. -/
theorem manifest_paths_restored (input : BackupInput) :
    (PathsDisjoint input.files input.tombstones ↔ input.PathsSettled) ∧
    (input.PathsSettled → ∀ setup target (world : World),
      setup.plan.manifest.files = input.files →
      setup.plan.manifest.tombstones = input.tombstones → Apart setup world.tree →
      (∀ destination,
        preflight setup world.tree world.transaction target ≠ .error (clash destination)) ∧
      ∀ outcome final, Runs (restoreHandler setup) (fun _ _ _ => True) (publishTo setup target)
        ⟨[], world⟩ outcome final → Spares setup world.tree final.history) := by
  refine ⟨manifest_paths_disjoint_iff input, fun settled setup target world files tombstones
    apart => ?_⟩
  have disjoint : PathsDisjoint setup.plan.manifest.files setup.plan.manifest.tombstones := by
    rw [files, tombstones]
    exact (manifest_paths_disjoint_iff input).mpr settled
  exact ⟨(preflight_spec apart disjoint world.transaction target).1,
    fun outcome final run => publishTo_spares apart disjoint run⟩

namespace Sample

def savePlace : Path := ["home", "gamer", ".local", "share", "game", "save.dat"]

def oldPlace : Path := ["home", "gamer", ".local", "share", "game", "old.dat"]

def saveAnd (deleted : String) (parentFiles : List ManifestFile) : BackupInput :=
  { Backup.Sample.recreated with
    parentFiles := parentFiles
    pending := [{ Backup.Sample.mutation Backup.Sample.uuidA .delete 1 with path := deleted },
      Backup.Sample.mutation Backup.Sample.uuidB .create 2]
    tree := fun path =>
      if path = Backup.Sample.savePath then some (Backup.Sample.saveFile []) else none
    chunker := { fileHash := fun _ => emptyHash, chunks := fun _ => [] } }

def besides : BackupInput := saveAnd "/home/gamer/.local/share/game/old.dat" []

def around : BackupInput := saveAnd "/home/gamer/.local/share/game" []

def setupFor (input : BackupInput) : RestoreSetup where
  plan :=
    { restoreId := restoreId
      manifest := manifest input.files input.tombstones
      mode := .personalState }
  roots := LogicalRootMap.fromHome "/home/gamer"
  hash := fun _ => emptyHash

def bare : World := { tree := ⟨[(["home"], .directory), (["home", "gamer"], .directory)]⟩ }

def renames (destination : Path) : Event restoreInterface StateError → Bool
  | ⟨.rename _ place, .ok _⟩ => place = destination
  | _ => false

def restored (input : BackupInput) :
    Outcome StateError RestoreReport × List (Signal StateError) ×
      Config restoreInterface StateError World :=
  (publishTo (setupFor input) .complete).exec (restoreHandler (setupFor input)) [] ⟨[], bare⟩

theorem besides_places :
    (setupFor besides).plan.manifest.tombstones.filterMap
        (tombstoneDestination (setupFor besides) bare.tree) = [oldPlace] ∧
      (setupFor besides).plan.manifest.files.filterMap
        (entryDestination (setupFor besides) bare.tree) = [savePlace] := by
  decide +kernel

theorem besides_apart : Apart (setupFor besides) bare.tree := by
  obtain ⟨buried, placed⟩ := besides_places
  have old : ∀ tombstone ∈ (setupFor besides).plan.manifest.tombstones,
      ∀ place ∈ tombstoneDestination (setupFor besides) bare.tree tombstone, place = oldPlace := by
    intro tombstone member place found
    exact List.mem_singleton.mp (buried ▸ List.mem_filterMap.mpr ⟨tombstone, member, found⟩)
  have saved : ∀ file ∈ (setupFor besides).plan.manifest.files,
      ∀ place ∈ entryDestination (setupFor besides) bare.tree file, place = savePlace := by
    intro file member place found
    exact List.mem_singleton.mp (placed ▸ List.mem_filterMap.mpr ⟨file, member, found⟩)
  constructor
  · rw [buried]
    exact List.nodup_singleton _
  · intro file member tombstone named _ destination found same
    have apart : savePlace ≠ oldPlace := by decide
    exact apart ((saved file member _ found).symm.trans (old tombstone named _ same))
  · intro file member tombstone named destination found place gone
    rw [saved file member _ found, old tombstone named _ gone]
    exact ⟨fun _ => by decide, fun below => absurd below (by decide)⟩

theorem besides_restored :
    (restored besides).1 = .value ⟨[savePlace], 1, 0⟩ ∧
      (restored besides).2.2.history.any (renames savePlace) = true := by
  decide +kernel

theorem around_restored :
    (restored around).1 = .value ⟨[savePlace], 1, 0⟩ ∧
      (restored around).2.2.history.any (renames savePlace) = true ∧
      lstatIfPresent (restored around).2.2.state.tree savePlace = .ok none := by
  decide +kernel

theorem restored_runs {input : BackupInput} {report : RestoreReport}
    (ended : (restored input).1 = .value report) :
    Runs (restoreHandler (setupFor input)) (fun _ _ _ => True)
      (publishTo (setupFor input) .complete) ⟨[], bare⟩ (.value report)
      (restored input).2.2 := by
  rw [← ended]
  exact exec_runs _ _ _ _

end Sample

theorem manifest_paths_restored_besides :
    ∃ report final, Runs (restoreHandler (Sample.setupFor Sample.besides)) (fun _ _ _ => True)
      (publishTo (Sample.setupFor Sample.besides) .complete) ⟨[], Sample.bare⟩ (.value report)
      final ∧
      final.history.any (Sample.renames Sample.savePlace) = true ∧
      Spares (Sample.setupFor Sample.besides) Sample.bare.tree final.history := by
  have disjoint : PathsDisjoint Sample.besides.files Sample.besides.tombstones := by decide +kernel
  obtain ⟨settled, spares⟩ := manifest_paths_restored Sample.besides
  have run := Sample.restored_runs Sample.besides_restored.1
  exact ⟨_, _, run, Sample.besides_restored.2,
    (spares (settled.mp disjoint) (Sample.setupFor Sample.besides) .complete Sample.bare rfl rfl
      Sample.besides_apart).2 _ _ run⟩

/-- A save file that was deleted and written again is a file and a tombstone, and the restore
fails. When its directory was deleted and made again, a restore on a machine without it writes the
file and then removes the directory. -/
theorem restored_file_removed :
    ¬ PathsDisjoint Backup.Sample.recreated.files Backup.Sample.recreated.tombstones ∧
    preflight (Sample.setupFor Backup.Sample.recreated) Sample.bare.tree {} .complete =
      .error (clash Sample.savePlace) ∧
    PathsDisjoint Sample.around.files Sample.around.tombstones ∧
    ∃ report final, Runs (restoreHandler (Sample.setupFor Sample.around)) (fun _ _ _ => True)
      (publishTo (Sample.setupFor Sample.around) .complete) ⟨[], Sample.bare⟩ (.value report)
      final ∧
      final.history.any (Sample.renames Sample.savePlace) = true ∧
      lstatIfPresent final.state.tree Sample.savePlace = .ok none := by
  refine ⟨by decide +kernel, by decide +kernel, by decide +kernel, ?_⟩
  obtain ⟨ended, renamed, removed⟩ := Sample.around_restored
  exact ⟨_, _, Sample.restored_runs ended, renamed, removed⟩

end Noland.Restore
