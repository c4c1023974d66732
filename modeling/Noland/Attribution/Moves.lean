import Noland.Attribution.Ingest

/-!
A rename is deferred, excluded, attributed and classified by its second path alone, so of the apps
that the first path was associated with one at most learns of it.
-/

namespace Noland.Attribution

open Noland.Core
open Noland.StateDb

def Associated (db : FsTables) (path : String) (appId : AppId) : Prop :=
  ∃ row ∈ db.associations, row.appId = appId ∧ db.paths[row.pathId]? = some path

def PendingAbout (rows : List AppMutationRecord) (path : String) (appId : AppId) : Prop :=
  ∃ row ∈ rows, row.pending = true ∧ row.appId = appId ∧
    (row.path = path ∨ row.previousPath = some path)

def Reconciles (rows : List DirtyApp) (appId : AppId) : Prop :=
  ∃ row ∈ rows, row.appId = appId ∧ row.requiresReconciliation = true

def Noticed (db : FsTables) (path : String) (appId : AppId) : Prop :=
  PendingAbout db.mutations path appId ∨ Reconciles db.dirtyApps appId

def proceeds (path : String) : Bool :=
  match (classifyObservedPath path.toList).disposition with
  | .finalApplicationFile | .userStateFile | .unknown => true
  | .installStagingFile | .runtimeDependency | .temporaryFile => false

variable (engine : FsEngine) (moment : Moment)

def opensInstall (event : FilesystemEvent) : Option AppId :=
  let decision := classifyObservedPath event.observedPath.toList
  if decision.disposition = .installStagingFile then
    decision.appId.filter fun appId => appId ∉ engine.openInstallers
  else none

def journalledFor (event : FilesystemEvent) (session : AppSession) : Option AppId :=
  let canonical := moment.canonicalize event.observedPath
  let appId := attributedAppId engine canonical event session
  if proceeds event.observedPath && !pathIsExcluded engine canonical &&
      initialClass engine canonical event session ≠ .ephemeral && appId ∈ engine.db.apps
  then some appId else none

/-- The rename is recorded for the app: an install begins for it, or the rename is journalled for
it with the first path as one of the two, or as a row of its own. -/
def Records (event : FilesystemEvent) (session : AppSession) (appId : AppId) : Prop :=
  opensInstall engine event = some appId ∨
    (journalledFor engine moment event session = some appId ∧
      (moment.canonicalize event.observedPath = event.path ∨
        moment.canonicalize event.path = event.path ∨
        existingMutation engine.db.mutations
          (mutationOf moment (moment.canonicalize event.observedPath) appId event) = none))

theorem reconciles_markDirtyApp {rows : List DirtyApp} {marked appId : AppId} :
    Reconciles (markDirtyApp rows marked true) appId ↔ appId = marked ∨ Reconciles rows appId := by
  rw [markDirtyApp]
  split_ifs with present
  · constructor
    · rintro ⟨row, member, same, required⟩
      obtain ⟨before, inRows, rfl⟩ := List.mem_map.mp member
      by_cases isMarked : before.appId = marked
      · rw [if_pos isMarked] at same
        exact Or.inl (same.symm.trans isMarked)
      · rw [if_neg isMarked] at same required
        exact Or.inr ⟨before, inRows, same, required⟩
    · rintro (rfl | ⟨row, member, same, required⟩)
      · obtain ⟨row, member, isMarked⟩ := List.any_eq_true.mp present
        rw [decide_eq_true_eq] at isMarked
        refine ⟨_, List.mem_map.mpr ⟨row, member, rfl⟩, ?_⟩
        simp [isMarked]
      · refine ⟨_, List.mem_map.mpr ⟨row, member, rfl⟩, ?_⟩
        by_cases isMarked : row.appId = marked
        · rw [if_pos isMarked]
          exact ⟨same, Bool.or_true _⟩
        · rw [if_neg isMarked]
          exact ⟨same, required⟩
  · constructor
    · rintro ⟨row, member, same, required⟩
      rcases List.mem_append.mp member with earlier | new
      · exact Or.inr ⟨row, earlier, same, required⟩
      · rw [List.mem_singleton] at new
        rw [new] at same
        exact Or.inl same.symm
    · rintro (rfl | ⟨row, member, same, required⟩)
      · exact ⟨_, List.mem_append_right _ (List.mem_singleton.mpr rfl), rfl, rfl⟩
      · exact ⟨row, List.mem_append_left _ member, same, required⟩

theorem pendingAbout_folded {rows : List AppMutationRecord} {mutation existing : AppMutationRecord}
    (folded : existingMutation rows mutation = some existing) {path : String} {appId : AppId} :
    (appendAppMutation rows mutation).1 = false ∧
      (PendingAbout (appendAppMutation rows mutation).2 path appId ↔
        PendingAbout rows path appId) := by
  simp only [appendAppMutation, folded, true_and]
  constructor
  · rintro ⟨row, member, pending, same, about⟩
    obtain ⟨before, inRows, rfl⟩ := List.mem_map.mp member
    refine ⟨before, inRows, ?_⟩
    split at pending <;> simp_all [AppMutationRecord.pending]
  · rintro ⟨row, member, pending, same, about⟩
    refine ⟨_, List.mem_map.mpr ⟨row, member, rfl⟩, ?_⟩
    split <;> simp_all [AppMutationRecord.pending]

theorem appendAppMutation_inserted {rows : List AppMutationRecord} {mutation : AppMutationRecord}
    (new : existingMutation rows mutation = none)
    (fresh : ∀ row ∈ rows, row.mutationId ≠ mutation.mutationId) :
    appendAppMutation rows mutation = (true, rows ++ [mutation]) := by
  simp only [appendAppMutation, new]
  rw [if_neg]
  simpa using fresh

variable {moment}

variable {event : FilesystemEvent}

theorem noticed_recordMutation {db : FsTables} {canonical : String} {row : AssociationRow}
    (rename : event.kind = .rename)
    (fresh : ∀ old ∈ db.mutations, old.mutationId ≠ moment.freshId) {path : String}
    {appId : AppId} :
    Noticed (recordMutation moment db canonical row event) path appId ↔
      Noticed db path appId ∨ (row.appId = appId ∧
        (canonical = path ∨ moment.canonicalize event.path = path ∨
          existingMutation db.mutations (mutationOf moment canonical row.appId event) = none)) := by
  have previous : (mutationOf moment canonical row.appId event).previousPath =
      some (moment.canonicalize event.path) := by
    simp [mutationOf, rename]
  cases found : existingMutation db.mutations (mutationOf moment canonical row.appId event) with
  | some existing =>
      obtain ⟨notInserted, about⟩ := @pendingAbout_folded _ _ _ found path appId
      obtain ⟨member, coalesces⟩ := existingMutation_some found
      simp only [AppMutationRecord.coalesces, Bool.and_eq_true, decide_eq_true_eq] at coalesces
      obtain ⟨⟨⟨⟨pending, sameApp⟩, samePath⟩, -⟩, samePrevious⟩ := coalesces
      have same : Noticed (recordMutation moment db canonical row event) path appId ↔
          Noticed db path appId := by
        simp only [Noticed, recordMutation, notInserted]
        rw [if_neg (by simp)]
        exact or_congr about Iff.rfl
      rw [same]
      constructor
      · exact Or.inl
      · rintro (noticed | ⟨isApp, isPath | isPrevious | none_found⟩)
        · exact noticed
        · refine Or.inl ⟨existing, member, pending, sameApp.trans isApp, Or.inl ?_⟩
          exact samePath.trans isPath
        · refine Or.inl ⟨existing, member, pending, sameApp.trans isApp, Or.inr ?_⟩
          rw [samePrevious, previous, isPrevious]
        · simp at none_found
  | none =>
      have inserted := appendAppMutation_inserted found fresh
      have marks : requiresReconciliation event.kind = true := by
        simp [requiresReconciliation, rename]
      simp only [Noticed, recordMutation, inserted, if_true, marks, reconciles_markDirtyApp]
      constructor
      · rintro (⟨old, member, pending, sameApp, about⟩ | sameApp | reconciles)
        · rcases List.mem_append.mp member with earlier | new
          · exact Or.inl (Or.inl ⟨old, earlier, pending, sameApp, about⟩)
          · rw [List.mem_singleton] at new
            rw [new] at sameApp
            exact Or.inr ⟨sameApp, Or.inr (Or.inr trivial)⟩
        · exact Or.inr ⟨sameApp.symm, Or.inr (Or.inr trivial)⟩
        · exact Or.inl (Or.inr reconciles)
      · rintro ((⟨old, member, rest⟩ | reconciles) | ⟨sameApp, -⟩)
        · exact Or.inl ⟨old, List.mem_append_left _ member, rest⟩
        · exact Or.inr (Or.inr reconciles)
        · exact Or.inr (Or.inl sameApp.symm)

variable {engine}

theorem noticed_ingestFsForSession {session : AppSession} (rename : event.kind = .rename)
    (goesOn : proceeds event.observedPath = true)
    (fresh : ∀ old ∈ engine.db.mutations, old.mutationId ≠ moment.freshId) {appId : AppId} :
    Noticed (ingestFsForSession engine moment event session).1.db event.path appId ↔
      Noticed engine.db event.path appId ∨
        (journalledFor engine moment event session = some appId ∧
          (moment.canonicalize event.observedPath = event.path ∨
            moment.canonicalize event.path = event.path ∨
            existingMutation engine.db.mutations
              (mutationOf moment (moment.canonicalize event.observedPath) appId event) =
                none)) := by
  have mutates : event.kind.isMutation = true := by
    rw [rename]
    rfl
  simp only [ingestFsForSession, journalledFor, goesOn, Bool.true_and, mutates]
  generalize moment.canonicalize event.observedPath = canonical
  by_cases excluded : pathIsExcluded engine canonical = true
  · simp [excluded]
  · by_cases known : (associationOf engine canonical event session).appId ∈ engine.db.apps
    · by_cases ephemeral : (associationOf engine canonical event session).persistenceClass =
          .ephemeral
      · have isEphemeral : initialClass engine canonical event session = .ephemeral := ephemeral
        simp [excluded, known, ephemeral, isEphemeral, Noticed, recordAssociation]
      · have lasting : initialClass engine canonical event session ≠ .ephemeral := ephemeral
        have attributed : attributedAppId engine canonical event session ∈ engine.db.apps := known
        have sameRows : ∀ old ∈ (recordAssociation engine.db canonical
            (associationOf engine canonical event session)).mutations,
            old.mutationId ≠ moment.freshId := fresh
        simp only [excluded, known, ephemeral, lasting, attributed, if_true, ne_eq,
          not_false_eq_true, decide_true, Bool.and_self, Bool.not_false, if_neg,
          Option.some.injEq, Bool.false_eq_true]
        refine (noticed_recordMutation rename sameRows).trans (or_congr Iff.rfl (and_congr_right ?_))
        intro sameApp
        rw [sameApp]
        exact Iff.rfl
    · have unknown : attributedAppId engine canonical event session ∉ engine.db.apps := known
      simp [excluded, known, unknown, Noticed]

theorem deferUnfinishedEvent_proceeds (goesOn : proceeds event.observedPath = true) :
    deferUnfinishedEvent engine event = (engine, false) := by
  rw [proceeds] at goesOn
  rw [deferUnfinishedEvent]
  split at goesOn <;> simp_all

theorem deferUnfinishedEvent_ends {event : FilesystemEvent}
    (ends : proceeds event.observedPath = false) :
    (deferUnfinishedEvent engine event).2 = true ∧
      ∀ path appId, Noticed (deferUnfinishedEvent engine event).1.db path appId ↔
        Noticed engine.db path appId ∨ opensInstall engine event = some appId := by
  rw [proceeds] at ends
  rw [deferUnfinishedEvent, opensInstall]
  generalize classifyObservedPath event.observedPath.toList = decision at ends ⊢
  obtain ⟨disposition, app, root⟩ := decision
  cases disposition with
  | finalApplicationFile | userStateFile | unknown => simp at ends
  | temporaryFile | runtimeDependency => simp
  | installStagingFile =>
      cases app with
      | none => simp
      | some opened =>
          by_cases already : opened ∈ engine.openInstallers
          · simp [already]
          · refine ⟨by simp [already], ?_⟩
            intro path appId
            simp only [already, if_false, if_true, Option.filter_some, not_false_eq_true,
              decide_true, Option.some.injEq, Noticed, reconciles_markDirtyApp]
            constructor
            · rintro (about | same | reconciles)
              · exact Or.inl (Or.inl about)
              · exact Or.inr same.symm
              · exact Or.inl (Or.inr reconciles)
            · rintro ((about | reconciles) | same)
              · exact Or.inl about
              · exact Or.inr (Or.inr reconciles)
              · exact Or.inr (Or.inl same.symm)

theorem opensInstall_proceeds (goesOn : proceeds event.observedPath = true) :
    opensInstall engine event = none := by
  rw [proceeds] at goesOn
  rw [opensInstall]
  split at goesOn <;> simp_all

theorem journalledFor_deferred {session : AppSession} (ends : proceeds event.observedPath = false) :
    journalledFor engine moment event session = none := by
  simp [journalledFor, ends]

theorem journalledFor_excluded {session : AppSession}
    (excluded : eventIsExcluded engine moment event = true) :
    journalledFor engine moment event session = none := by
  rw [eventIsExcluded] at excluded
  simp [journalledFor, excluded]

/-- After a successful rename by a process with a session, every app that its first path was
associated with notices it exactly when the app had noticed the path before or the rename is
recorded for it. -/
theorem move_noticed_iff (engine : FsEngine) (moment : Moment) (fact : FilesystemFact)
    (rename : fact.event.kind = .rename) (successful : fact.failed = false)
    {session : AppSession} (process : sessionFor engine fact = some session)
    (fresh : ∀ old ∈ engine.db.mutations, old.mutationId ≠ moment.freshId) :
    (∀ appId, Associated engine.db fact.event.path appId →
      Noticed (ingestFs engine moment fact).1.db fact.event.path appId) ↔
    ∀ appId, Associated engine.db fact.event.path appId →
      Noticed engine.db fact.event.path appId ∨
        Records engine moment fact.event session appId := by
  apply forall₂_congr
  intro appId _
  rw [ingestFs, successful, if_neg (by simp)]
  cases goesOn : proceeds fact.event.observedPath with
  | false =>
      obtain ⟨ends, marks⟩ := @deferUnfinishedEvent_ends engine _ goesOn
      simp only [ends, Bool.true_or, if_true, marks, Records,
        journalledFor_deferred goesOn]
      simp
  | true =>
      simp only [deferUnfinishedEvent_proceeds goesOn, Bool.false_or, Records,
        opensInstall_proceeds goesOn]
      cases excluded : eventIsExcluded engine moment fact.event with
      | true => simp [journalledFor_excluded excluded]
      | false =>
          simp only [process]
          rw [if_neg (by simp), noticed_ingestFsForSession rename goesOn fresh]
          simp

instance (rows : List AppMutationRecord) (path : String) (appId : AppId) :
    Decidable (PendingAbout rows path appId) :=
  inferInstanceAs (Decidable (∃ row ∈ rows, _))

instance (rows : List DirtyApp) (appId : AppId) : Decidable (Reconciles rows appId) :=
  inferInstanceAs (Decidable (∃ row ∈ rows, _))

instance (db : FsTables) (path : String) (appId : AppId) : Decidable (Noticed db path appId) :=
  inferInstanceAs (Decidable (_ ∨ _))

namespace MoveSample

def doom : AppId := ⟨"exe:doom"⟩

def save : String := "/home/u/doom/a.sav"

def doomSession : AppSession := ⟨0, doom, 10, 0, none, .executableDiscovery⟩

def tracking : FsEngine where
  db :=
    { sessions := { appSessions := [doomSession], sessionPids := [(10, 0)] }
      apps := [doom]
      paths := [save]
      associations := [⟨0, doom, .persistentState⟩] }

def quiet : Moment where
  canonicalize path := path
  logical _ := none
  freshId := ⟨"00000000-0000-4000-8000-000000000001", Eq.refl true⟩
  now := 0

def moveTo (destination : String) : FilesystemFact :=
  .legacy ⟨.rename, 10, save, some destination, 0⟩

end MoveSample

open MoveSample in
theorem move_noticed_beside :
    (∀ appId, Associated tracking.db save appId →
      Noticed (ingestFs tracking quiet (moveTo "/home/u/doom/b.sav")).1.db save
        appId) ↔
    ∀ appId, Associated tracking.db save appId →
      Noticed tracking.db save appId ∨
        Records tracking quiet (moveTo "/home/u/doom/b.sav").event doomSession
          appId :=
  move_noticed_iff tracking quiet (moveTo "/home/u/doom/b.sav") rfl rfl rfl
    (by simp [tracking])

open MoveSample in
/-- Moved to a temporary name, to a volatile directory or into a cache, the tracked save is gone
and its app notices nothing. -/
theorem move_aside_unnoticed :
    Associated tracking.db save doom ∧
      sessionFor tracking (moveTo "/home/u/doom/a.tmp") = some doomSession ∧
      ¬ Noticed (ingestFs tracking quiet
        (moveTo "/home/u/doom/a.tmp")).1.db save doom ∧
      ¬ Noticed (ingestFs tracking quiet (moveTo "/tmp/a.sav")).1.db save
        doom ∧
      ¬ Noticed (ingestFs tracking quiet
        (moveTo "/home/u/.cache/a.sav")).1.db save doom := by
  refine ⟨⟨⟨0, doom, .persistentState⟩, by decide, rfl, rfl⟩, rfl, ?_, ?_, ?_⟩
  · decide +kernel
  · decide +kernel
  · decide +kernel

end Noland.Attribution
