import Noland.Restore.Rollback

/-!
Downloaded packs lie in one cache, and every restore hard links the packs it needs into its
workspace. A commit ends with a prune of the whole cache, which fails when something is gone that
it has listed or a pack has a second link; the restore is then rolled back. What the other
restores have done to the cache since the last look is one change.
-/

namespace Noland.Restore

open Noland.Core Noland.FileTree Noland.Text Noland.Requests

/-- What lies at the marker's path: its size, its time and whether it is a file. -/
structure PackMarker where
  size : Nat
  modified : Nat
  isFile : Bool := true
  deriving DecidableEq

structure CachedPack where
  file : Nat
  packId : String
  size : Nat
  modified : Nat
  marker : Option PackMarker := none
  deriving DecidableEq

def CachedPack.bytes (pack : CachedPack) : Nat :=
  saturatingAdd pack.size ((pack.marker.map PackMarker.size).getD 0)

def CachedPack.lastUsed (pack : CachedPack) : Nat :=
  (pack.marker.map PackMarker.modified).getD pack.modified

def CachedPack.dropsMarker (pack : CachedPack) : Bool := pack.marker.any PackMarker.isFile

structure PackCacheGcOptions where
  maxBytes : Nat
  maxPacks : Nat
  minUnusedAge : Nat := 0
  protectedPackIds : List String := []

structure PackCacheGcReport where
  bytesBefore : Nat := 0
  bytesAfter : Nat := 0
  packsBefore : Nat := 0
  packsAfter : Nat := 0
  packsPruned : Nat := 0
  markersPruned : Nat := 0
  deriving DecidableEq

def CachedPack.oldEnough (pack : CachedPack) (options : PackCacheGcOptions) (now : Nat) : Bool :=
  pack.lastUsed ≤ now && options.minUnusedAge ≤ now - pack.lastUsed

def CachedPack.olderOrEqual (left right : CachedPack) : Prop :=
  left.lastUsed < right.lastUsed ∨ (left.lastUsed = right.lastUsed ∧ left.packId ≤ right.packId)

instance (left right : CachedPack) : Decidable (left.olderOrEqual right) :=
  inferInstanceAs (Decidable (_ ∨ _))

def PackCacheGcReport.drop (report : PackCacheGcReport) (pack : CachedPack) : PackCacheGcReport :=
  { report with
    bytesAfter := report.bytesAfter - pack.bytes
    packsAfter := report.packsAfter - 1
    packsPruned := report.packsPruned + 1
    markersPruned := report.markersPruned + if pack.dropsMarker then 1 else 0 }

def prunePacks (options : PackCacheGcOptions) (inUse : CachedPack → Bool) (now : Nat) :
    List CachedPack → PackCacheGcReport → List CachedPack × PackCacheGcReport
  | [], report => ([], report)
  | pack :: rest, report =>
      if report.bytesAfter ≤ options.maxBytes ∧ report.packsAfter ≤ options.maxPacks then
        (pack :: rest, report)
      else if inUse pack || !pack.oldEnough options now then
        (pack :: (prunePacks options inUse now rest report).1,
          (prunePacks options inUse now rest report).2)
      else prunePacks options inUse now rest (report.drop pack)

/-- `links` tells how many names a file has when the cache is read. -/
def pruneLocalPackCache (options : PackCacheGcOptions) (links : Nat → Nat) (now : Nat)
    (cached : List CachedPack) : List CachedPack × PackCacheGcReport :=
  prunePacks options (fun pack => pack.packId ∈ options.protectedPackIds || 1 < links pack.file) now
    (cached.insertionSort CachedPack.olderOrEqual)
    { bytesBefore := (cached.map CachedPack.bytes).sum
      bytesAfter := (cached.map CachedPack.bytes).sum
      packsBefore := cached.length
      packsAfter := cached.length }

inductive StagedEntry where
  | link (file : Nat)
  | directory
  deriving DecidableEq

/-- The `packs` directory of a workspace. -/
inductive PackStaging where
  | missing
  | notDirectory
  | directory (entries : List StagedEntry)
  deriving DecidableEq

def PackStaging.files : PackStaging → List Nat
  | .directory entries => entries.filterMap fun
      | .link file => some file
      | .directory => none
  | _ => []

/-- Removes the links up to a directory that should not be there. -/
def releaseEntries : List StagedEntry → Option StateError × List StagedEntry
  | [] => (none, [])
  | .directory :: rest =>
      (some (.unsafePath "unexpected directory in restore pack staging"), .directory :: rest)
  | .link _ :: rest => releaseEntries rest

def PackStaging.release : PackStaging → Except StateError Unit × PackStaging
  | .missing => (.ok (), .missing)
  | .notDirectory =>
      (.error (.unsafePath "restore pack staging is not a directory"), .notDirectory)
  | .directory entries =>
      match releaseEntries entries with
      | (some error, left) => (.error error, .directory left)
      | (none, _) => (.ok (), .missing)

def CachedPack.directory (pack : CachedPack) : String := String.ofList (pack.packId.toList.take 2)

def CachedPack.fileName (pack : CachedPack) : String := pack.packId ++ ".pack"

def CachedPack.markerName (pack : CachedPack) : String := pack.packId ++ ".pack.verified.json"

/-- What all restores share, with the packs that the other workspaces have linked. `loose` are
the files that are no packs, each with its directory: partial downloads and lone markers. -/
structure SharedPacks where
  cached : List CachedPack := []
  loose : List (String × String) := []
  others : List (Uuid × List Nat) := []
  now : Nat := 0

def SharedPacks.directories (shared : SharedPacks) : List String :=
  (shared.cached.map CachedPack.directory ++ shared.loose.map Prod.fst).dedup

def SharedPacks.namesIn (shared : SharedPacks) (directory : String) : List String :=
  ((shared.cached.filter fun pack => pack.directory = directory).flatMap fun pack =>
    pack.fileName :: (pack.marker.map fun _ => pack.markerName).toList) ++
  (shared.loose.filter fun file => file.1 = directory).map Prod.snd

/-- A restore among others. `rivals` is what the others do to the cache before each
look at it. -/
structure Site where
  world : World
  staging : PackStaging := .missing
  shared : SharedPacks := {}
  rivals : List (SharedPacks → SharedPacks) := []

namespace Site

def links (site : Site) (file : Nat) : Nat :=
  (site.shared.cached.map CachedPack.file).count file + site.staging.files.count file +
    (site.shared.others.flatMap Prod.snd).count file

def interfere (site : Site) : Site :=
  match site.rivals with
  | [] => site
  | change :: rest => { site with shared := change site.shared, rivals := rest }

end Site

structure Visit where
  directory : String
  name : Option String
  site : Site

namespace Visit

def present (visit : Visit) : Bool :=
  match visit.name with
  | none => visit.directory ∈ visit.site.shared.directories
  | some name => name ∈ visit.site.shared.namesIn visit.directory

def pack (visit : Visit) : Option CachedPack :=
  visit.name.bind fun name => visit.site.shared.cached.find? fun pack =>
    pack.directory = visit.directory && pack.fileName = name

end Visit

namespace Site

def lookAt (directory : String) : List String → Site → List Visit × Site
  | [], site => ([], site)
  | name :: rest, site =>
      (⟨directory, some name, site.interfere⟩ :: (lookAt directory rest site.interfere).1,
        (lookAt directory rest site.interfere).2)

def lookInto : List String → Site → List Visit × Site
  | [], site => ([], site)
  | directory :: rest, site =>
      let here := site.interfere
      let files := lookAt directory (here.interfere.shared.namesIn directory) here.interfere
      (⟨directory, none, here⟩ :: files.1 ++ (lookInto rest files.2).1, (lookInto rest files.2).2)

/-- The looks of `collect_cached_packs`, as if none failed. -/
def visits (site : Site) : List Visit × Site :=
  lookInto site.interfere.shared.directories site.interfere

def unlink (site : Site) (pack : CachedPack) : Site :=
  { site.interfere with
    shared := { site.interfere.shared with
      cached := site.interfere.shared.cached.filter fun other => other.packId ≠ pack.packId } }

def pruned (visits : List Visit) (now : Nat) : Nat × List CachedPack :=
  let packs := visits.filterMap Visit.pack
  let inUse := fun pack => visits.any fun visit =>
    visit.pack = some pack && 1 < visit.site.links pack.file
  let swept := prunePacks { maxBytes := 0, maxPacks := 0 } inUse now
    (packs.insertionSort CachedPack.olderOrEqual)
    { bytesBefore := (packs.map CachedPack.bytes).sum
      bytesAfter := (packs.map CachedPack.bytes).sum
      packsBefore := packs.length
      packsAfter := packs.length }
  (swept.2.packsAfter, packs.filter fun pack => pack ∉ swept.1)

/-- `prune_restore_pack_cache`. The first entry that is gone when it is looked at ends it. -/
def prune (site : Site) : Except StateError Unit × Site :=
  match site.visits.1.find? fun visit => !visit.present with
  | some gone => (.error (.io .notFound), gone.site)
  | none =>
      let result := pruned site.visits.1 site.visits.2.shared.now
      (if result.1 ≠ 0 then
          .error (.invalid (toString result.1 ++ " restore packs remain linked or protected"))
        else .ok (),
        result.2.foldl unlink site.visits.2)

def act (setup : RestoreSetup) (site : Site) : (op : RestoreOp) → Except StateError op.Ret × Site
  | .releasePackLinks => (site.staging.release.1, { site with staging := site.staging.release.2 })
  | .prunePackCache => site.prune
  | .removeWorkspaceDirectory =>
      ((site.world.act setup .removeWorkspaceDirectory).1,
        { site with
          world := (site.world.act setup .removeWorkspaceDirectory).2
          staging := .missing })
  | op => ((site.world.act setup op).1, { site with world := (site.world.act setup op).2 })

/-- The same restore with nothing in the cache and no other workspace. -/
def alone (site : Site) : Site := { site with shared := {}, rivals := [] }

end Site

def siteHandler (setup : RestoreSetup) : Handler restoreInterface StateError Site where
  act op site := site.act setup op
  internal := (restoreHandler setup).internal

def commitOutcome (setup : RestoreSetup) (site : Site) : Except StateError Unit × Tree :=
  let committed := (commit setup).eval (siteHandler setup) site
  if committed.2.world.transaction.state = .active then
    (committed.1, ((abort setup).eval (siteHandler setup) committed.2).2.world.tree)
  else (committed.1, committed.2.world.tree)

/-- When the prune looks at it, every entry that a listing gave is there, and no pack has a
second name or was last used after the time that the prune takes. -/
def Site.Clear (site : Site) : Prop :=
  ∀ visit ∈ site.visits.1, visit.present = true ∧ ∀ pack ∈ visit.pack,
    visit.site.links pack.file ≤ 1 ∧ pack.lastUsed ≤ site.visits.2.shared.now

theorem prunePacks_zero {options : PackCacheGcOptions} (empty : options.maxPacks = 0)
    (inUse : CachedPack → Bool) (now held : Nat) (packs : List CachedPack)
    (report : PackCacheGcReport) (counted : report.packsAfter = held + packs.length) :
    (prunePacks options inUse now packs report).2.packsAfter =
      held + packs.countP fun pack => inUse pack || !pack.oldEnough options now := by
  induction packs generalizing report held with
  | nil => simpa [prunePacks] using counted
  | cons pack rest ih =>
      rw [List.length_cons] at counted
      have full : ¬ (report.bytesAfter ≤ options.maxBytes ∧
          report.packsAfter ≤ options.maxPacks) := by
        intro within
        omega
      unfold prunePacks
      rw [if_neg full, List.countP_cons]
      by_cases stays : (inUse pack || !pack.oldEnough options now) = true
      · have counted' : report.packsAfter = held + 1 + rest.length := by omega
        have later := ih (held + 1) report counted'
        rw [if_pos stays, if_pos stays]
        show (prunePacks options inUse now rest report).2.packsAfter = _
        omega
      · have counted' : (report.drop pack).packsAfter = held + rest.length := by
          show report.packsAfter - 1 = _
          omega
        rw [if_neg stays, if_neg stays]
        exact ih held (report.drop pack) counted'

theorem pruned_zero (visits : List Visit) (now : Nat) :
    (Site.pruned visits now).1 = 0 ↔ ∀ visit ∈ visits, ∀ pack ∈ visit.pack,
      visit.site.links pack.file ≤ 1 ∧ pack.lastUsed ≤ now := by
  unfold Site.pruned
  dsimp only
  rw [prunePacks_zero rfl _ _ 0 _ _ (by simp [List.length_insertionSort]), Nat.zero_add,
    (List.perm_insertionSort _ _).countP_eq, List.countP_eq_zero]
  constructor
  · intro free visit member pack known
    have unused := free pack (List.mem_filterMap.mpr ⟨visit, member, known⟩)
    simp only [CachedPack.oldEnough, Nat.zero_le, decide_true, Bool.and_true, Bool.or_eq_true,
      List.any_eq_true, Bool.and_eq_true, decide_eq_true_eq, Bool.not_eq_true',
      decide_eq_false_iff_not, not_or, not_not] at unused
    exact ⟨not_lt.mp fun linked => unused.1 ⟨visit, member, known, linked⟩, unused.2⟩
  · intro free pack member
    obtain ⟨visit, inside, known⟩ := List.mem_filterMap.mp member
    simp only [CachedPack.oldEnough, Nat.zero_le, decide_true, Bool.and_true, Bool.or_eq_true,
      List.any_eq_true, Bool.and_eq_true, decide_eq_true_eq, Bool.not_eq_true',
      decide_eq_false_iff_not, not_or, not_not]
    refine ⟨?_, (free visit inside pack known).2⟩
    rintro ⟨other, among, same, linked⟩
    exact absurd linked (not_lt.mpr (free other among pack same).1)

theorem prune_clear {site : Site} (clear : site.Clear) : site.prune.1 = .ok () := by
  unfold Site.prune
  split
  · rename_i gone found
    have absent := List.find?_some found
    rw [(clear gone (List.mem_of_find?_eq_some found)).1] at absent
    cases absent
  · exact if_neg (not_not.mpr ((pruned_zero _ _).mpr fun visit member =>
      (clear visit member).2))

theorem prune_held {site : Site} (held : ¬ site.Clear) :
    ∃ error, site.prune.1 = .error error := by
  unfold Site.prune
  split
  · exact ⟨_, rfl⟩
  · rename_i found
    refine ⟨_, if_pos fun none => held fun visit member => ⟨?_, ?_⟩⟩
    · simpa using List.find?_eq_none.mp found visit member
    · exact (pruned_zero _ _).mp none visit member

def SameOwn (left right : Site) : Prop :=
  left.world = right.world ∧ left.staging = right.staging

theorem interfere_keeps (site : Site) : SameOwn site.interfere site := by
  unfold Site.interfere
  split <;> exact ⟨rfl, rfl⟩

theorem SameOwn.trans {first second third : Site} (one : SameOwn first second)
    (two : SameOwn second third) : SameOwn first third :=
  ⟨one.1.trans two.1, one.2.trans two.2⟩

theorem lookAt_keeps (directory : String) (names : List String) (site : Site) :
    (∀ visit ∈ (Site.lookAt directory names site).1, SameOwn visit.site site) ∧
      SameOwn (Site.lookAt directory names site).2 site := by
  induction names generalizing site with
  | nil => exact ⟨List.forall_mem_nil _, rfl, rfl⟩
  | cons name rest ih =>
      have here := interfere_keeps site
      refine ⟨fun visit member => ?_, (ih _).2.trans here⟩
      rcases List.mem_cons.mp member with rfl | later
      · exact here
      · exact ((ih _).1 visit later).trans here

theorem lookInto_keeps (directories : List String) (site : Site) :
    (∀ visit ∈ (Site.lookInto directories site).1, SameOwn visit.site site) ∧
      SameOwn (Site.lookInto directories site).2 site := by
  induction directories generalizing site with
  | nil => exact ⟨List.forall_mem_nil _, rfl, rfl⟩
  | cons directory rest ih =>
      have here := interfere_keeps site
      have listed := (interfere_keeps site.interfere).trans here
      have files := lookAt_keeps directory (site.interfere.interfere.shared.namesIn directory)
        site.interfere.interfere
      refine ⟨fun visit member => ?_, (ih _).2.trans (files.2.trans listed)⟩
      rcases List.mem_append.mp member with first | later
      · rcases List.mem_cons.mp first with rfl | file
        · exact here
        · exact (files.1 visit file).trans listed
      · exact ((ih _).1 visit later).trans (files.2.trans listed)

theorem prune_keeps (site : Site) : SameOwn site.prune.2 site := by
  have start := interfere_keeps site
  have looked := lookInto_keeps site.interfere.shared.directories site.interfere
  unfold Site.prune
  split
  · rename_i gone found
    exact (looked.1 gone (List.mem_of_find?_eq_some found)).trans start
  · have unlinked : ∀ (packs : List CachedPack) (left : Site),
        SameOwn (packs.foldl Site.unlink left) left := by
      intro packs
      induction packs with
      | nil => exact fun _ => ⟨rfl, rfl⟩
      | cons pack rest ih => exact fun left => (ih _).trans (interfere_keeps left)
    exact (unlinked _ _).trans (looked.2.trans start)

def Own (op : RestoreOp) : Prop := op ≠ .prunePackCache

theorem own_agrees (setup : RestoreSetup) (op : RestoreOp) (own : Own op) (left right : Site)
    (same : SameOwn left right) :
    ((siteHandler setup).act op left).1 = ((siteHandler setup).act op right).1 ∧
      SameOwn ((siteHandler setup).act op left).2 ((siteHandler setup).act op right).2 := by
  obtain ⟨world, staging, shared, rivals⟩ := left
  obtain ⟨world', staging', shared', rivals'⟩ := right
  obtain ⟨rfl, rfl⟩ : world = world' ∧ staging = staging' := same
  cases op with
  | prunePackCache => exact absurd rfl own
  | _ => exact ⟨rfl, rfl, rfl⟩

abbrev Private {α : Type} (program : RestoreProg α) : Prop :=
  program.Uses Own (fun _ => True) fun _ => True

theorem private_attempt {α : Type} {program : RestoreProg α} (own : Private program) :
    Private program.attempt :=
  own.attempt.to_post fun _ _ => trivial

theorem private_resolveAssociations (setup : RestoreSetup) (indices : List Nat) :
    Private (resolveAssociations setup indices) := by
  induction indices with
  | nil => trivial
  | cons index rest ih =>
      unfold resolveAssociations
      split
      · exact ih
      · refine uses_then (by nofun) ?_
        intro association
        apply ih.andThen
        intro others
        trivial

theorem uses_removeWorkspaceIfPresent {ops : RestoreOp → Prop} (looks : ops .workspaceExists)
    (lists : ops .listWorkspace) (items : ∀ item, ops (.removeWorkspaceItem item))
    (directory : ops .removeWorkspaceDirectory) :
    removeWorkspaceIfPresent.Uses ops (fun _ => True) fun _ => True := by
  unfold removeWorkspaceIfPresent
  apply Prog.Uses.andThen
  · exact uses_perform looks
  · intro (present : Bool)
    apply Prog.Uses.ite
    · intro _
      unfold removeWorkspaceDurable
      apply Prog.Uses.andThen
      · exact uses_perform lists
      · intro found
        apply Prog.Uses.andThen
        · apply Prog.Uses.forEach
          intro item _
          exact uses_perform (items item)
        · intro _
          exact uses_perform directory
    · intro _
      trivial

theorem private_removeWorkspaceIfPresent : Private removeWorkspaceIfPresent :=
  uses_removeWorkspaceIfPresent nofun nofun nofun nofun

theorem private_publishAssociations (setup : RestoreSetup)
    (associations : List RestoredAssociation) : Private (publishAssociations setup associations) := by
  unfold publishAssociations
  apply Prog.Uses.ite
  · intro _
    refine ⟨nofun, ?_⟩
    intro stored _
    cases stored with
    | ok value => trivial
    | error error =>
        refine ⟨nofun, ?_⟩
        intro written _
        cases written with
        | error error => trivial
        | ok value =>
            refine uses_then (by nofun) ?_
            intro _
            trivial
  · intro _
    trivial

theorem private_removeRecoveryLeafDurable (path : Path) :
    Private (removeRecoveryLeafDurable path) := by
  refine uses_then (by nofun) ?_
  intro _
  exact uses_perform nofun

theorem private_restoreRegularMapping (journal : Journal) (mapping : PathMapping) :
    Private (restoreRegularMapping journal mapping) := by
  unfold restoreRegularMapping
  refine uses_then (by nofun) fun _ => uses_then (by nofun) fun _ =>
    uses_then (by nofun) fun _ => uses_then (by nofun) fun _ => ?_
  apply (uses_ofExcept _).andThen
  intro beside
  exact uses_then (by nofun) fun _ => uses_then (by nofun) fun _ =>
    uses_then (by nofun) fun _ => uses_then (by nofun) fun _ =>
    uses_then (by nofun) fun _ => uses_perform nofun

theorem private_restorePriorSymlink (journal : Journal) (rollback : SymlinkRollback) :
    Private (restorePriorSymlink journal rollback) := by
  unfold restorePriorSymlink
  refine uses_then (by nofun) fun _ => uses_then (by nofun) fun _ =>
    uses_then (by nofun) fun _ => ?_
  apply (uses_ofExcept _).andThen
  intro beside
  exact uses_then (by nofun) fun _ => uses_then (by nofun) fun _ =>
    uses_then (by nofun) fun _ => uses_then (by nofun) fun _ => uses_perform nofun

theorem private_removeCreatedDirectory (directory : Path) :
    Private (removeCreatedDirectory directory) := by
  refine ⟨nofun, ?_⟩
  intro removed _
  show Private (afterRemoveDir directory removed)
  fun_cases afterRemoveDir directory removed with
  | case1 => exact uses_perform nofun
  | case2 => exact uses_perform nofun
  | case3 => trivial
  | case4 => trivial

theorem private_cleanUp {steps : List (RestoreProg Unit)} (each : ∀ step ∈ steps, Private step)
    (found : Option StateError) : Private (cleanUp steps found) := by
  induction steps generalizing found with
  | nil => trivial
  | cons step rest ih =>
      apply (private_attempt (each step List.mem_cons_self)).andThen
      intro result
      exact ih (fun later member => each later (List.mem_cons_of_mem _ member)) _

theorem private_failWith (found : Option StateError) : Private (failWith found) := by
  cases found with
  | none => trivial
  | some error => trivial

theorem private_rollbackFromJournal (journal : Journal) : Private (rollbackFromJournal journal) := by
  unfold rollbackFromJournal
  refine uses_then (by nofun) fun _ => ?_
  apply Prog.Uses.andThen
  · apply private_cleanUp
    intro step member
    unfold rollbackSteps at member
    simp only [List.mem_append, List.mem_map] at member
    rcases member with (((⟨path, _, rfl⟩ | ⟨path, _, rfl⟩) | ⟨mapping, _, rfl⟩) |
      ⟨rollback, _, rfl⟩) | ⟨directory, _, rfl⟩
    · exact private_removeRecoveryLeafDurable path
    · exact private_removeRecoveryLeafDurable path
    · exact private_restoreRegularMapping journal mapping
    · exact private_restorePriorSymlink journal rollback
    · exact private_removeCreatedDirectory directory
  · intro found
    exact private_failWith found

def associationsOf (setup : RestoreSetup) (transaction : Transaction) :
    RestoreProg (List RestoredAssociation) :=
  if setup.hasDatabase then resolveAssociations setup transaction.pendingAssociations
  else .done []

def prepareCommit (setup : RestoreSetup) : RestoreProg (List RestoredAssociation) := do
  let transaction ← recollect
  if transaction.state ≠ .active then notActive
  else if transaction.remainingChunkRefs.any fun reference => reference.2 ≠ 0 then
    .throw (.invalid "cannot commit restore before every selected file is published")
  else associationsOf setup transaction

def finishCommit (setup : RestoreSetup) (associations : List RestoredAssociation) :
    RestoreProg Unit := do
  persistJournal .committed
  remember fun transaction => { transaction with state := .committed }
  publishAssociations setup associations
  removeWorkspaceIfPresent

theorem commit_eq (setup : RestoreSetup) :
    commit setup = prepareCommit setup >>= fun associations =>
      perform .releasePackLinks >>= fun _ => perform .prunePackCache >>= fun _ =>
        finishCommit setup associations := by
  unfold commit prepareCommit associationsOf
  rw [Prog.bind_assoc]
  congr 1
  funext transaction
  split
  · rfl
  · split
    · rfl
    · split
      · rfl
      · rfl

theorem private_prepareCommit (setup : RestoreSetup) : Private (prepareCommit setup) := by
  unfold prepareCommit associationsOf
  refine uses_then (by nofun) fun (transaction : Transaction) => ?_
  apply Prog.Uses.ite
  · intro _
    trivial
  · intro _
    apply Prog.Uses.ite
    · intro _
      trivial
    · intro _
      apply Prog.Uses.ite
      · intro _
        exact private_resolveAssociations setup _
      · intro _
        trivial

theorem private_finishCommit (setup : RestoreSetup) (associations : List RestoredAssociation) :
    Private (finishCommit setup associations) := by
  unfold finishCommit
  refine uses_then (by nofun) fun _ => uses_then (by nofun) fun _ => ?_
  apply (private_publishAssociations setup associations).andThen
  intro _
  exact private_removeWorkspaceIfPresent

def PackStaging.OnlyLinks : PackStaging → Prop
  | .missing => True
  | .notDirectory => False
  | .directory entries => .directory ∉ entries

def Resolves (setup : RestoreSetup) (world : World) (index : Nat) : Prop :=
  ∀ file, setup.plan.manifest.files[index]? = some file →
    ∃ association, world.resolveAssociation setup.roots file = .ok association

structure World.Published (setup : RestoreSetup) (world : World) : Prop where
  active : world.transaction.state = .active
  released : ∀ reference ∈ world.transaction.remainingChunkRefs, reference.2 = 0
  resolves : setup.hasDatabase = true → ∀ index ∈ world.transaction.pendingAssociations,
    Resolves setup world index

theorem releaseEntries_eq (entries : List StagedEntry) :
    (.directory ∉ entries ∧ (releaseEntries entries).1 = none) ∨
      (.directory ∈ entries ∧ ∃ error, (releaseEntries entries).1 = some error) := by
  induction entries with
  | nil => exact Or.inl ⟨List.not_mem_nil, rfl⟩
  | cons entry rest ih =>
      cases entry with
      | directory => exact Or.inr ⟨List.mem_cons_self, _, rfl⟩
      | link file => simpa [releaseEntries] using ih

theorem release_eq (staging : PackStaging) :
    (staging.OnlyLinks ∧ staging.release = (.ok (), .missing)) ∨
      (¬ staging.OnlyLinks ∧ ∃ error, staging.release.1 = .error error) := by
  cases staging with
  | missing => exact Or.inl ⟨trivial, rfl⟩
  | notDirectory => exact Or.inr ⟨not_false, _, rfl⟩
  | directory entries =>
      rcases released : releaseEntries entries with ⟨result, left⟩
      have outcome := releaseEntries_eq entries
      rw [released] at outcome
      simp only [PackStaging.release, PackStaging.OnlyLinks, released]
      rcases outcome with ⟨clean, none⟩ | ⟨dirty, error, some⟩
      · subst none
        exact Or.inl ⟨clean, rfl⟩
      · subst some
        exact Or.inr ⟨not_not.mpr dirty, error, rfl⟩

variable {setup : RestoreSetup} {associations : List RestoredAssociation}

theorem perform_ok {β : Type} {op : RestoreOp} {site : Site} {value : op.Ret}
    (next : op.Ret → RestoreProg β) (answered : (site.act setup op).1 = .ok value) :
    (perform op >>= next).eval (siteHandler setup) site =
      (next value).eval (siteHandler setup) (site.act setup op).2 := by
  have evaluated : (perform op).eval (siteHandler setup) site = site.act setup op :=
    eval_perform _ _ _
  rw [eval_bind, evaluated, ← Prod.mk.eta (p := site.act setup op), answered]

theorem perform_error {β : Type} {setup : RestoreSetup} {op : RestoreOp} {site : Site}
    {error : StateError} (next : op.Ret → RestoreProg β)
    (answered : (site.act setup op).1 = .error error) :
    (perform op >>= next).eval (siteHandler setup) site =
      (.error error, (site.act setup op).2) := by
  have evaluated : (perform op).eval (siteHandler setup) site = site.act setup op :=
    eval_perform _ _ _
  rw [eval_bind, evaluated, ← Prod.mk.eta (p := site.act setup op), answered]

theorem resolveAssociations_cons {index : Nat} {file : ManifestFile}
    (listed : setup.plan.manifest.files[index]? = some file) (rest : List Nat) (site : Site) :
    (resolveAssociations setup (index :: rest)).eval (siteHandler setup) site =
      match site.world.resolveAssociation setup.roots file with
      | .error error => (.error error, site)
      | .ok association => (resolveAssociations setup rest >>= fun others =>
          .done (association :: others)).eval (siteHandler setup) site := by
  rw [resolveAssociations, listed]
  cases resolved : site.world.resolveAssociation setup.roots file with
  | error error => exact perform_error _ resolved
  | ok association => exact perform_ok _ resolved

theorem resolveAssociations_eval (setup : RestoreSetup) (site : Site) (indices : List Nat) :
    ((∀ index ∈ indices, Resolves setup site.world index) ∧
      ∃ associations, (resolveAssociations setup indices).eval (siteHandler setup) site =
        (.ok associations, site)) ∨
    ((¬ ∀ index ∈ indices, Resolves setup site.world index) ∧
      ∃ error, ((resolveAssociations setup indices).eval (siteHandler setup) site).1 =
        .error error) := by
  induction indices with
  | nil => exact Or.inl ⟨nofun, [], rfl⟩
  | cons index rest ih =>
      cases listed : setup.plan.manifest.files[index]? with
      | none =>
          have resolves : Resolves setup site.world index := by
            intro file found
            rw [listed] at found
            cases found
          rw [resolveAssociations, listed]
          simpa [resolves] using ih
      | some file =>
          rw [resolveAssociations_cons listed]
          cases resolved : site.world.resolveAssociation setup.roots file with
          | error error =>
              refine Or.inr ⟨?_, error, rfl⟩
              intro all
              obtain ⟨association, same⟩ := all index List.mem_cons_self file listed
              rw [resolved] at same
              cases same
          | ok association =>
              have resolves : Resolves setup site.world index := by
                intro other found
                rw [listed] at found
                exact ⟨association, Option.some.inj found ▸ resolved⟩
              rcases ih with ⟨all, associations, evaluated⟩ | ⟨some_, error, evaluated⟩
              · refine Or.inl ⟨by simpa [resolves] using all, association :: associations, ?_⟩
                simp only [eval_bind, evaluated]
                rfl
              · refine Or.inr ⟨by simpa [resolves] using some_, error, ?_⟩
                simp only [eval_bind]
                rcases found : (resolveAssociations setup rest).eval (siteHandler setup) site with
                  ⟨result, later⟩
                rw [found] at evaluated
                subst evaluated
                rfl

theorem associationsOf_eval (setup : RestoreSetup) (site : Site) :
    ((setup.hasDatabase = true → ∀ index ∈ site.world.transaction.pendingAssociations,
        Resolves setup site.world index) ∧
      ∃ associations, (associationsOf setup site.world.transaction).eval (siteHandler setup) site =
        (.ok associations, site)) ∨
    ((¬ (setup.hasDatabase = true → ∀ index ∈ site.world.transaction.pendingAssociations,
        Resolves setup site.world index)) ∧
      ∃ error, ((associationsOf setup site.world.transaction).eval (siteHandler setup) site).1 =
        .error error) := by
  unfold associationsOf
  by_cases database : setup.hasDatabase = true
  · simpa [database] using
      resolveAssociations_eval setup site site.world.transaction.pendingAssociations
  · rw [if_neg database]
    exact Or.inl ⟨fun has => absurd has database, [], rfl⟩

theorem prepareCommit_eval (setup : RestoreSetup) (site : Site) :
    (site.world.Published setup ∧ ∃ associations,
      (prepareCommit setup).eval (siteHandler setup) site = (.ok associations, site)) ∨
    (¬ site.world.Published setup ∧
      ∃ error, ((prepareCommit setup).eval (siteHandler setup) site).1 = .error error) := by
  have recalled : (prepareCommit setup).eval (siteHandler setup) site =
      (if site.world.transaction.state ≠ .active then notActive
        else if site.world.transaction.remainingChunkRefs.any fun reference => reference.2 ≠ 0 then
          .throw (.invalid "cannot commit restore before every selected file is published")
        else associationsOf setup site.world.transaction).eval (siteHandler setup) site :=
    rfl
  rw [recalled]
  by_cases active : site.world.transaction.state = .active
  · rw [if_neg (not_not.mpr active)]
    by_cases open_ : (site.world.transaction.remainingChunkRefs.any fun reference =>
        decide (reference.2 ≠ 0)) = true
    · rw [if_pos open_]
      refine Or.inr ⟨?_, _, rfl⟩
      intro published
      obtain ⟨reference, member, left⟩ := List.any_eq_true.mp open_
      exact of_decide_eq_true left (published.released reference member)
    · rw [if_neg open_]
      have released : ∀ reference ∈ site.world.transaction.remainingChunkRefs,
          reference.2 = 0 := by
        intro reference member
        by_contra left
        exact open_ (List.any_eq_true.mpr ⟨reference, member, decide_eq_true left⟩)
      rcases associationsOf_eval setup site with ⟨all, evaluated⟩ | ⟨some_, evaluated⟩
      · exact Or.inl ⟨⟨active, released, all⟩, evaluated⟩
      · exact Or.inr ⟨fun published => some_ published.resolves, evaluated⟩
  · rw [if_pos active]
    exact Or.inr ⟨fun published => active published.active, _, rfl⟩

theorem removeWorkspaceIfPresent_returns (setup : RestoreSetup) (site : Site) :
    Returns (siteHandler setup) removeWorkspaceIfPresent site fun _ _ => True := by
  have looks : Returns (siteHandler setup) (perform .workspaceExists) site fun _ _ => True :=
    Returns.perform rfl trivial
  apply Returns.bind looks
  intro (present : Bool) later _
  cases present with
  | false => exact Returns.done trivial
  | true =>
      have lists : Returns (siteHandler setup) (perform .listWorkspace) later fun _ _ => True :=
        Returns.perform rfl trivial
      apply Returns.bind lists
      intro items found _
      have removes : Returns (siteHandler setup)
          (Prog.forEach items fun item => perform (.removeWorkspaceItem item)) found
          fun _ _ => True :=
        Returns.forEach trivial fun item _ before _ => Returns.perform rfl trivial
      apply Returns.bind removes
      intro _ left _
      exact Returns.perform rfl trivial

theorem finishCommit_returns (setup : RestoreSetup) (site : Site)
    (associations : List RestoredAssociation) :
    Returns (siteHandler setup) (finishCommit setup associations) site fun _ _ => True := by
  have journaled : Returns (siteHandler setup) (persistJournal .committed) site fun _ _ => True :=
    Returns.perform rfl trivial
  apply Returns.bind journaled
  intro _ later _
  have marked : Returns (siteHandler setup)
      (remember fun transaction => { transaction with state := .committed }) later
      fun _ _ => True :=
    Returns.perform rfl trivial
  apply Returns.bind marked
  intro _ last _
  have stored : Returns (siteHandler setup) (publishAssociations setup associations) last
      fun _ _ => True := by
    unfold publishAssociations
    split
    · exact ⟨(), _, rfl, trivial⟩
    · exact Returns.done trivial
  apply Returns.bind stored
  intro _ left _
  exact removeWorkspaceIfPresent_returns setup left

theorem private_rollback (setup : RestoreSetup) (transaction : Transaction) :
    Private (cleanUp [persistJournal .active,
      rollbackFromJournal (transaction.journalSnapshot setup.plan .active),
      perform .releasePackLinks] none) := by
  apply private_cleanUp
  intro step member
  rcases List.mem_cons.mp member with rfl | later
  · exact uses_perform nofun
  · rcases List.mem_cons.mp later with rfl | last
    · exact private_rollbackFromJournal _
    · rw [List.mem_singleton.mp last]
      exact uses_perform nofun

/-- The last steps of a rollback leave the tree alone. -/
def Treeless : RestoreOp → Prop
  | .prunePackCache | .remember _ | .workspaceExists | .listWorkspace | .removeWorkspaceItem _
  | .removeWorkspaceDirectory => True
  | _ => False

theorem treeless_keeps {tree : Tree} (op : RestoreOp) (treeless : Treeless op) (site : Site)
    (same : site.world.tree = tree) : ((siteHandler setup).act op site).2.world.tree = tree := by
  cases op with
  | prunePackCache =>
      show site.prune.2.world.tree = tree
      rw [(prune_keeps site).1]
      exact same
  | remember update => exact same
  | workspaceExists => exact same
  | listWorkspace => exact same
  | removeWorkspaceItem item => exact same
  | removeWorkspaceDirectory => exact same
  | _ => exact absurd treeless id

/-- What `abort` does after the links are released. -/
def settle (found : Option StateError) : RestoreProg Unit := do
  let result ← cleanUp [perform .prunePackCache] found
  failWith result
  remember fun transaction => { transaction with state := .aborted }
  removeWorkspaceIfPresent

theorem treeless_settle (found : Option StateError) :
    (settle found).Uses Treeless (fun _ => True) fun _ => True := by
  unfold settle
  apply Prog.Uses.andThen
  · refine ⟨trivial, fun reply _ => ?_⟩
    cases reply with
    | ok value => trivial
    | error error => trivial
  · intro result
    apply Prog.Uses.andThen
    · cases result with
      | none => trivial
      | some error => trivial
    · intro _
      apply Prog.Uses.andThen
      · exact @uses_perform Treeless (.remember _) trivial
      · intro _
        exact uses_removeWorkspaceIfPresent trivial trivial (fun _ => trivial) trivial

theorem abort_eq (setup : RestoreSetup) (site : Site)
    (active : site.world.transaction.state = .active) :
    (abort setup).eval (siteHandler setup) site =
      (cleanUp [persistJournal .active,
        rollbackFromJournal (site.world.transaction.journalSnapshot setup.plan .active),
        perform .releasePackLinks] none >>= settle).eval (siteHandler setup) site := by
  have recalled : (abort setup).eval (siteHandler setup) site =
      (if site.world.transaction.state ≠ .active then .done ()
        else cleanUp (([persistJournal .active,
          rollbackFromJournal (site.world.transaction.journalSnapshot setup.plan .active),
          perform .releasePackLinks] : List (RestoreProg Unit)) ++
            ([perform .prunePackCache] : List (RestoreProg Unit))) none >>= fun found =>
            failWith found >>= fun _ =>
              remember (fun transaction => { transaction with state := .aborted }) >>= fun _ =>
                removeWorkspaceIfPresent).eval (siteHandler setup) site := rfl
  rw [recalled, if_neg (not_not.mpr active), cleanUp_append, Prog.bind_assoc]
  rfl

theorem abort_tree (setup : RestoreSetup) {left right : Site} (same : SameOwn left right)
    (active : left.world.transaction.state = .active) :
    ((abort setup).eval (siteHandler setup) left).2.world.tree =
      ((abort setup).eval (siteHandler setup) right).2.world.tree := by
  have active' : right.world.transaction.state = .active := same.1 ▸ active
  rw [abort_eq setup left active, abort_eq setup right active', same.1]
  have agreed := (private_rollback setup right.world.transaction).eval_agrees
    (own_agrees setup) same
  have keeps : ∀ found (site : Site),
      ((settle found).eval (siteHandler setup) site).2.world.tree = site.world.tree :=
    fun found site => @Prog.Uses.eval_keeps restoreInterface StateError Site Unit Treeless
      (siteHandler setup) (fun later => later.world.tree = site.world.tree) _ _
      (treeless_settle found) treeless_keeps site rfl
  rw [eval_bind, eval_bind]
  generalize (cleanUp [persistJournal .active, rollbackFromJournal
    (right.world.transaction.journalSnapshot setup.plan .active),
    perform .releasePackLinks] none).eval (siteHandler setup) left = one at agreed ⊢
  generalize (cleanUp [persistJournal .active, rollbackFromJournal
    (right.world.transaction.journalSnapshot setup.plan .active),
    perform .releasePackLinks] none).eval (siteHandler setup) right = two at agreed ⊢
  obtain ⟨result, first⟩ := one
  obtain ⟨result', second⟩ := two
  obtain ⟨rfl, own⟩ := agreed
  cases result with
  | ok found =>
      simp only [keeps]
      rw [own.1]
  | error error =>
      show first.world.tree = second.world.tree
      rw [own.1]

def Site.atPrune (site : Site) : Site := { site with staging := .missing }

/-- The result of a commit and the tree it leaves are those of a restore without any
other. -/
def Undisturbed (setup : RestoreSetup) (site : Site) : Prop :=
  commitOutcome setup site = commitOutcome setup site.alone

def dropped (setup : RestoreSetup) (committed : Except StateError Unit × Site) :
    Except StateError Unit × Tree :=
  if committed.2.world.transaction.state = .active then
    (committed.1, ((abort setup).eval (siteHandler setup) committed.2).2.world.tree)
  else (committed.1, committed.2.world.tree)

theorem dropped_agrees (setup : RestoreSetup) {left right : Except StateError Unit × Site}
    (result : left.1 = right.1) (same : SameOwn left.2 right.2) :
    dropped setup left = dropped setup right := by
  unfold dropped
  rw [← same.1, ← result]
  split
  · rename_i active
    rw [abort_tree setup same active]
  · rfl

theorem alone_clear (site : Site) : site.alone.atPrune.Clear := List.forall_mem_nil _

theorem commit_released {site : Site}
    (prepared : (prepareCommit setup).eval (siteHandler setup) site = (.ok associations, site))
    (links : site.staging.OnlyLinks) :
    (commit setup).eval (siteHandler setup) site =
      (perform .prunePackCache >>= fun _ => finishCommit setup associations).eval
        (siteHandler setup) { site with staging := .missing } := by
  have released : site.staging.release = (.ok (), .missing) := by
    rcases release_eq site.staging with ⟨_, same⟩ | ⟨other, _⟩
    · exact same
    · exact absurd links other
  have answered : (site.act setup .releasePackLinks).1 = .ok () := by
    show site.staging.release.1 = _
    rw [released]
    rfl
  have later : (site.act setup .releasePackLinks).2 = { site with staging := .missing } := by
    show ({ site with staging := site.staging.release.2 } : Site) = _
    rw [released]
  rw [commit_eq, eval_bind, prepared]
  exact (perform_ok _ answered).trans (by rw [later])

theorem commit_clear {site : Site}
    (prepared : (prepareCommit setup).eval (siteHandler setup) site = (.ok associations, site))
    (links : site.staging.OnlyLinks) (clear : site.atPrune.Clear) :
    (commit setup).eval (siteHandler setup) site =
      (finishCommit setup associations).eval (siteHandler setup) site.atPrune.prune.2 := by
  have answered : (site.atPrune.act setup .prunePackCache).1 = .ok () := prune_clear clear
  rw [commit_released prepared links]
  exact perform_ok _ answered

theorem dropped_fst (setup : RestoreSetup) (committed : Except StateError Unit × Site) :
    (dropped setup committed).1 = committed.1 := by
  unfold dropped
  split <;> rfl

theorem commit_held {site : Site}
    (prepared : (prepareCommit setup).eval (siteHandler setup) site = (.ok associations, site))
    (links : site.staging.OnlyLinks) (held : ¬ site.atPrune.Clear) :
    ∃ error, ((commit setup).eval (siteHandler setup) site).1 = .error error := by
  obtain ⟨error, refused⟩ := prune_held held
  have answered : (site.atPrune.act setup .prunePackCache).1 = .error error := refused
  refine ⟨error, ?_⟩
  rw [commit_released prepared links]
  exact congrArg Prod.fst (perform_error _ answered)

theorem commit_early (setup : RestoreSetup) (site : Site)
    (early : ¬ (site.world.Published setup ∧ site.staging.OnlyLinks)) :
    Undisturbed setup site := by
  have own : SameOwn site site.alone := ⟨rfl, rfl⟩
  have agreed := (private_prepareCommit setup).eval_agrees (own_agrees setup) own
  show dropped setup _ = dropped setup _
  rw [commit_eq, eval_bind, eval_bind]
  rcases prepareCommit_eval setup site with ⟨published, associations, prepared⟩ | ⟨_, error, failed⟩
  · obtain ⟨error, refused⟩ : ∃ error, site.staging.release.1 = .error error := by
      rcases release_eq site.staging with ⟨links, _⟩ | ⟨_, refused⟩
      · exact absurd ⟨published, links⟩ early
      · exact refused
    rw [prepared] at agreed ⊢
    rcases found : (prepareCommit setup).eval (siteHandler setup) site.alone with ⟨result, later⟩
    rw [found] at agreed
    obtain ⟨rfl, same⟩ := agreed
    have refused' : later.staging.release.1 = .error error := same.2 ▸ refused
    have here := @perform_error _ setup .releasePackLinks site error (fun _ =>
      perform .prunePackCache >>= fun _ => finishCommit setup associations) refused
    have there := @perform_error _ setup .releasePackLinks later error (fun _ =>
      perform .prunePackCache >>= fun _ => finishCommit setup associations) refused'
    apply dropped_agrees
    · exact (congrArg Prod.fst here).trans (congrArg Prod.fst there).symm
    · have after := own_agrees setup .releasePackLinks nofun site later same
      have left := congrArg Prod.snd here
      have right := congrArg Prod.snd there
      exact left ▸ right ▸ after.2
  · rcases one : (prepareCommit setup).eval (siteHandler setup) site with ⟨result, later⟩
    rcases two : (prepareCommit setup).eval (siteHandler setup) site.alone with ⟨result', later'⟩
    rw [one] at failed
    rw [one, two] at agreed
    subst failed
    obtain ⟨rfl, same⟩ := agreed
    exact dropped_agrees setup rfl same

def Sample.besideAnother : Site :=
  { world := (publishAll (setupOf [emptyFile "a"] []) [.complete]).exec
      (restoreHandler (setupOf [emptyFile "a"] [])) []
      ⟨[], World.opened (setupOf [emptyFile "a"] []) home [] false⟩ |>.2.2.state
    staging := .directory []
    shared :=
      { cached := [⟨7, "pack", 100, 1, none⟩]
        others := [(⟨"00000000-0000-4000-8000-00000000000b", Eq.refl true⟩, [7])]
        now := 2 } }

def Sample.besidePrune : Site :=
  { Sample.besideAnother with
    shared := { cached := [⟨7, "pack", 100, 1, none⟩], now := 2 }
    rivals := [id, id, id, fun shared => { shared with cached := [] }] }

end Noland.Restore
