import Noland.Attribution.Rounds
import Noland.Lib.Machine

/-!
A mutation of an app is accounted for when it is ingested for the app, merged into a queued write
of its path, or the app is marked for reconciliation; until the next round it may also be in the
queue or be covered by the loss flag.
-/

namespace Noland.Attribution

open Noland.Core
open Noland.StateDb

variable {Db Session : Type} {statements : Statements Db Session}

namespace Round

variable {round : Round Db}

def Done (round : Round Db) (number : Nat) : Prop :=
  (∃ appId, (number, appId) ∈ round.ingested) ∨ number ∈ round.passedOver ∨
    number ∈ round.overflowed ∨ number ∈ round.expired

def Waits (round : Round Db) (number : Nat) : Prop :=
  ∃ pending ∈ round.unresolved, pending.number = number

def Has (round : Round Db) (number : Nat) : Prop := round.Waits number ∨ round.Done number

theorem done_mono {later : Round Db} {number : Nat} (done : round.Done number)
    (ingested : ∀ found ∈ round.ingested, found ∈ later.ingested)
    (passedOver : ∀ n ∈ round.passedOver, n ∈ later.passedOver)
    (overflowed : ∀ n ∈ round.overflowed, n ∈ later.overflowed)
    (expired : ∀ n ∈ round.expired, n ∈ later.expired) : later.Done number := by
  rcases done with ⟨appId, found⟩ | passed | lost | old
  · exact Or.inl ⟨appId, ingested _ found⟩
  · exact Or.inr (Or.inl (passedOver _ passed))
  · exact Or.inr (Or.inr (Or.inl (overflowed _ lost)))
  · exact Or.inr (Or.inr (Or.inr (expired _ old)))

theorem has_dropExpired {number : Nat} (now : Nat) (has : round.Has number) :
    (round.dropExpiredUnresolved now).Has number := by
  rcases has with ⟨pending, member, same⟩ | done
  · rw [← List.takeWhile_append_dropWhile (p := old now) (l := round.unresolved)] at member
    rcases List.mem_append.mp member with expires | stays
    · refine Or.inr (Or.inr (Or.inr (Or.inr ?_)))
      exact List.mem_append_right _ (List.mem_map.mpr ⟨pending, expires, same⟩)
    · exact Or.inl ⟨pending, stays, same⟩
  · exact Or.inr (done_mono done (fun _ member => member) (fun _ member => member)
      (fun _ member => member) (fun _ member => List.mem_append_left _ member))

theorem has_makeRoom {number : Nat} (has : round.Has number) : round.makeRoom.Has number := by
  rw [makeRoom]
  split
  · rcases has with ⟨pending, member, same⟩ | done
    · cases waiting : round.unresolved with
      | nil =>
          rw [waiting] at member
          simp at member
      | cons first rest =>
          rw [waiting] at member
          rcases List.mem_cons.mp member with head | stays
          · refine Or.inr (Or.inr (Or.inr (Or.inl ?_)))
            simp [← same, head]
          · exact Or.inl ⟨pending, stays, same⟩
    · exact Or.inr (done_mono done (fun _ member => member) (fun _ member => member)
        (fun _ member => List.mem_append_left _ member) (fun _ member => member))
  · exact has

theorem has_queueUnresolved {number : Nat} {fact : FilesystemFact} {now : Nat} :
    (round.queueUnresolved number fact now).Has number ∧
      ∀ other, round.Has other → (round.queueUnresolved number fact now).Has other := by
  constructor
  · exact Or.inl ⟨_, List.mem_append_right _ (List.mem_singleton.mpr rfl), rfl⟩
  · intro other has
    rcases has_makeRoom (has_dropExpired now has) with ⟨pending, member, same⟩ | done
    · exact Or.inl ⟨pending, List.mem_append_left _ member, same⟩
    · exact Or.inr done

theorem has_retryEach {pending remaining : List PendingFilesystemEvent}
    (ok : (retryEach statements pending remaining round).2 = true) {number : Nat}
    (has : (∃ other ∈ pending ++ remaining, other.number = number) ∨ round.Done number) :
    (retryEach statements pending remaining round).1.Has number := by
  induction pending generalizing remaining round with
  | nil =>
      rcases has with waits | done
      · exact Or.inl waits
      · exact Or.inr done
  | cons first rest ih =>
      rcases sessionFound : statements.sessionFor first.fact round.db with ⟨db, outcome⟩
      cases outcome with
      | none => simp [retryEach, sessionFound] at ok
      | some session =>
          cases session with
          | none =>
              simp only [retryEach, sessionFound] at ok ⊢
              apply ih ok
              rcases has with ⟨other, member, same⟩ | done
              · refine Or.inl ⟨other, ?_, same⟩
                simp only [List.cons_append, List.mem_cons, List.mem_append] at member ⊢
                tauto
              · exact Or.inr done
          | some session =>
              rcases ingests : statements.ingestFsForSession first.fact session db with
                ⟨later, recorded⟩
              cases recorded with
              | none => simp [retryEach, sessionFound, ingests] at ok
              | some done =>
                  simp only [retryEach, sessionFound, ingests] at ok ⊢
                  apply ih ok
                  rcases has with ⟨other, member, same⟩ | earlier
                  · simp only [List.cons_append, List.mem_cons] at member
                    rcases member with head | later
                    · refine Or.inr (Or.inl ⟨statements.appOf session, ?_⟩)
                      simp [← same, head]
                    · exact Or.inl ⟨other, later, same⟩
                  · exact Or.inr (done_mono earlier (fun _ member => List.mem_append_left _ member)
                      (fun _ member => member) (fun _ member => member) (fun _ member => member))

theorem has_ingestProcess {event : ProcessEvent} {now number : Nat}
    (ok : (round.ingestProcess statements event now).2 = true) (has : round.Has number) :
    (round.ingestProcess statements event now).1.Has number := by
  rcases ingests : statements.ingestProcessInner event round.db with ⟨db, outcome⟩
  cases outcome with
  | none => simp [ingestProcess, ingests] at ok
  | some done =>
      simp only [ingestProcess, ingests] at ok ⊢
      by_cases exits : event.kind = .exit
      · simp only [if_pos exits]
        exact has
      · simp only [if_neg exits] at ok ⊢
        apply has_retryEach ok
        have kept : ({ round with db } : Round Db).Has number := has
        rcases has_dropExpired now kept with ⟨pending, member, same⟩ | settled
        · exact Or.inl ⟨pending, by simpa using member, same⟩
        · exact Or.inr settled

theorem has_ingestFs {fact : FilesystemFact} {now number : Nat}
    (ok : (round.ingestFs statements number fact now).2 = true) :
    (round.ingestFs statements number fact now).1.Has number ∧
      ∀ other, round.Has other → (round.ingestFs statements number fact now).1.Has other := by
  have passes (db : Db) : ({ round with db, passedOver := round.passedOver ++ [number] } :
      Round Db).Has number ∧ ∀ other, round.Has other →
        ({ round with db, passedOver := round.passedOver ++ [number] } : Round Db).Has other := by
    constructor
    · exact Or.inr (Or.inr (Or.inl (List.mem_append_right _ (List.mem_singleton.mpr rfl))))
    · rintro other (waits | done)
      · exact Or.inl waits
      · exact Or.inr (done_mono done (fun _ member => member)
          (fun _ member => List.mem_append_left _ member) (fun _ member => member)
          (fun _ member => member))
  by_cases failed : fact.failed = true
  · simp only [ingestFs, if_pos failed]
    exact passes round.db
  · rcases defers : statements.deferOrExclude fact round.db with ⟨db, outcome⟩
    cases outcome with
    | none => simp [ingestFs, failed, defers] at ok
    | some ends =>
        cases ends with
        | true =>
            simp only [ingestFs, if_neg failed, defers]
            exact passes db
        | false =>
            rcases finds : statements.sessionFor fact db with ⟨found, session⟩
            cases session with
            | none => simp [ingestFs, failed, defers, finds] at ok
            | some session =>
                cases session with
                | none =>
                    simp only [ingestFs, if_neg failed, defers, finds]
                    exact has_queueUnresolved
                | some session =>
                    rcases ingests : statements.ingestFsForSession fact session found with
                      ⟨later, recorded⟩
                    cases recorded with
                    | none => simp [ingestFs, failed, defers, finds, ingests] at ok
                    | some done =>
                        simp only [ingestFs, if_neg failed, defers, finds, ingests]
                        constructor
                        · exact Or.inr (Or.inl ⟨statements.appOf session,
                            List.mem_append_right _ (List.mem_singleton.mpr rfl)⟩)
                        · rintro other (waits | earlier)
                          · exact Or.inl waits
                          · exact Or.inr (done_mono earlier
                              (fun _ member => List.mem_append_left _ member)
                              (fun _ member => member) (fun _ member => member)
                              (fun _ member => member))

theorem has_processHubEvents {drained : List (Entry × Nat)}
    (ok : (processHubEvents statements drained round).2 = true) :
    (∀ other, round.Has other → (processHubEvents statements drained round).1.Has other) ∧
      ∀ taken ∈ drained, taken.1.event.isProcess = false →
        (processHubEvents statements drained round).1.Has taken.1.number := by
  induction drained generalizing round with
  | nil => exact ⟨fun _ has => has, by simp⟩
  | cons first rest ih =>
      obtain ⟨entry, now⟩ := first
      rcases ingests : round.ingest statements entry now with ⟨next, fine⟩
      cases fine with
      | false => simp [processHubEvents, ingests] at ok
      | true =>
          simp only [processHubEvents, ingests] at ok ⊢
          obtain ⟨kept, taken⟩ := ih ok
          have known : (∀ other, round.Has other → next.Has other) ∧
              (entry.event.isProcess = false → next.Has entry.number) := by
            cases kind : entry.event with
            | process event =>
                simp only [ingest, kind] at ingests
                have result := @has_ingestProcess Db Session statements round event now
                rw [ingests] at result
                exact ⟨fun _ has => result rfl has, by simp [QueuedEvent.isProcess]⟩
            | filesystem fact =>
                simp only [ingest, kind] at ingests
                have result := @has_ingestFs Db Session statements round fact now entry.number
                rw [ingests] at result
                exact ⟨(result rfl).2, fun _ => (result rfl).1⟩
          refine ⟨fun other has => kept other (known.1 other has), ?_⟩
          intro other member isFile
          rcases List.mem_cons.mp member with head | later
          · rw [head] at isFile ⊢
            exact kept entry.number (known.2 isFile)
          · exact taken other later isFile

end Round

theorem markApps_all {appIds : List AppId} {db : Db}
    (ok : (markApps statements appIds db).2 = true) :
    (markApps statements appIds db).1.2 = appIds := by
  induction appIds generalizing db with
  | nil => rfl
  | cons appId rest ih =>
      rcases marks : statements.markDirty appId db with ⟨first, marked⟩
      cases marked with
      | none => simp [markApps, marks] at ok
      | some done =>
          rcases roots : statements.markRoots appId first with ⟨second, rooted⟩
          cases rooted with
          | none => simp [markApps, marks, roots] at ok
          | some done =>
              simp only [markApps, marks, roots] at ok ⊢
              rw [ih ok]

namespace ObservedWorld

variable {world : ObservedWorld Db} {belongs : Nat → Option AppId}

/-- The event has been ingested for the app or passed over, merged into a queued write of its path,
or its app is marked for reconciliation. -/
def Accounted (world : ObservedWorld Db) (entry : Entry) (appId : AppId) : Prop :=
  (entry.number, appId) ∈ world.ingested ∨ entry.number ∈ world.passedOver ∨
    (∃ target path, (entry, target) ∈ world.merged ∧ entry.event.writeKey = some path ∧
      target.event.writeKey = some path) ∨ appId ∈ world.marked

def StillWaits (world : ObservedWorld Db) (entry : Entry) : Prop :=
  world.queue.Holds entry.number ∨
    (entry.number ∈ world.evicted ∧ world.queue.lossDetected = true)

def mutates (event : QueuedEvent) : Bool :=
  event.filesystemIdentity.any fun identity => identity.1.isMutation

def Covered (belongs : Nat → Option AppId) (world : ObservedWorld Db) : Prop :=
  ∀ entry ∈ world.pushed, mutates entry.event = true → ∀ appId,
    belongs entry.number = some appId → world.Accounted entry appId ∨ world.StillWaits entry

def Settled (belongs : Nat → Option AppId) (world : ObservedWorld Db) : Prop :=
  ∀ entry ∈ world.pushed, mutates entry.event = true → ∀ appId,
    belongs entry.number = some appId → world.Accounted entry appId

/-- The app of an event is that of the session which is found for it, and an event that has waited
longer than its time for a session belongs to no app. -/
def Assigned (belongs : Nat → Option AppId) (report : RoundReport Db) : Prop :=
  (∀ found ∈ report.round.ingested, belongs found.1 = some found.2) ∧
    ∀ number ∈ report.round.expired, belongs number = none

/-- No statement of the round fails, no event of an app is pushed out of the full queue of waiting
events or waits at the end of the round, and the apps of evicted events are open when the loss
flag is taken. -/
def Smooth (belongs : Nat → Option AppId) (world : ObservedWorld Db) (report : RoundReport Db) :
    Prop :=
  report.ok = true ∧ (∀ number ∈ report.round.overflowed, belongs number = none) ∧
    (∀ pending ∈ report.round.unresolved, belongs pending.number = none) ∧
    ∀ appIds, report.openApps = some appIds → ∀ number ∈ world.evicted, ∀ appId,
      belongs number = some appId → appId ∈ appIds

def Meets (statements : Statements Db Session) (belongs : Nat → Option AppId)
    (world : ObservedWorld Db) : ObservedStep Db → Prop
  | .processEvents times =>
      Assigned belongs (world.report statements times) ∧
        Smooth belongs world (world.report statements times)
  | _ => True

structure Kept (belongs : Nat → Option AppId) (world : ObservedWorld Db) : Prop where
  placed : world.queue.Placed
  flagged : world.evicted ≠ [] → world.queue.lossDetected = true
  covered : ∀ entry ∈ world.pushed, entry.event.isProcess = false → ∀ appId,
    belongs entry.number = some appId →
      world.Accounted entry appId ∨ world.queue.Holds entry.number ∨
        entry.number ∈ world.evicted

theorem mutates_isProcess {event : QueuedEvent} (mutation : mutates event = true) :
    event.isProcess = false := by
  cases event with
  | process event => simp [mutates, QueuedEvent.filesystemIdentity] at mutation
  | filesystem fact => rfl

theorem Kept.covers (kept : world.Kept belongs) : world.Covered belongs := by
  intro entry pushed mutation appId owner
  rcases kept.covered entry pushed (mutates_isProcess mutation) appId owner with
    accounted | holds | evicted
  · exact Or.inl accounted
  · exact Or.inr (Or.inl holds)
  · exact Or.inr (Or.inr ⟨evicted, kept.flagged (List.ne_nil_of_mem evicted)⟩)

theorem Kept.push (kept : world.Kept belongs) (event : QueuedEvent) :
    (world.afterPush event).Kept belongs := by
  obtain ⟨placed, flagStays, outcome⟩ := kept.placed.push ⟨world.pushed.length, event⟩
  refine ⟨placed, ?_, ?_⟩
  · intro nonempty
    change (world.queue.push ⟨world.pushed.length, event⟩).1.lossDetected = true
    simp only [afterPush, ne_eq, List.append_eq_nil_iff] at nonempty
    cases result : (world.queue.push ⟨world.pushed.length, event⟩).2 with
    | merged target =>
        simp only [result, PushOutcome.lost, and_true] at nonempty
        exact flagStays (kept.flagged nonempty)
    | queued =>
        simp only [result, PushOutcome.lost, and_true] at nonempty
        exact flagStays (kept.flagged nonempty)
    | queuedFor evicted =>
        rw [result] at outcome
        exact outcome.2.2
    | refused =>
        rw [result] at outcome
        exact outcome.2
  · intro entry member isFile appId owner
    rcases List.mem_append.mp member with earlier | new
    · rcases kept.covered entry earlier isFile appId owner with accounted | holds | evicted
      · left
        rcases accounted with ingested | passed | ⟨target, path, pair, keys⟩ | marked
        · exact Or.inl ingested
        · exact Or.inr (Or.inl passed)
        · exact Or.inr (Or.inr (Or.inl ⟨target, path, List.mem_append_left _ pair, keys⟩))
        · exact Or.inr (Or.inr (Or.inr marked))
      · right
        cases result : (world.queue.push ⟨world.pushed.length, event⟩).2 with
        | merged target =>
            rw [result] at outcome
            exact Or.inl (outcome.1 _ holds)
        | queued =>
            rw [result] at outcome
            exact Or.inl (outcome.1 _ holds)
        | queuedFor evicted =>
            rw [result] at outcome
            rcases outcome.1 _ holds with gone | stays
            · refine Or.inr (List.mem_append_right _ ?_)
              rw [result, gone]
              exact List.mem_singleton.mpr rfl
            · exact Or.inl stays
        | refused =>
            rw [result] at outcome
            exact Or.inl (outcome.1 _ holds)
      · exact Or.inr (Or.inr (List.mem_append_left _ evicted))
    · rw [List.mem_singleton] at new
      subst new
      cases result : (world.queue.push ⟨world.pushed.length, event⟩).2 with
      | merged target =>
          rw [result] at outcome
          obtain ⟨-, path, key, targetKey, -⟩ := outcome
          refine Or.inl (Or.inr (Or.inr (Or.inl ⟨target, path, ?_, key, targetKey⟩)))
          refine List.mem_append_right _ ?_
          rw [result]
          exact List.mem_singleton.mpr rfl
      | queued =>
          rw [result] at outcome
          exact Or.inr (Or.inl (outcome.2 isFile))
      | queuedFor evicted =>
          rw [result] at outcome
          exact Or.inr (Or.inl (outcome.2.1 isFile))
      | refused =>
          refine Or.inr (Or.inr (List.mem_append_right _ ?_))
          rw [result]
          exact List.mem_singleton.mpr rfl

theorem report_ok {times : Nat → Nat} (ok : (world.report statements times).ok = true) :
    (world.report statements times).drainedAll = true ∧
      (Round.processHubEvents statements
        (world.queue.events.zipIdx.map fun (entry, index) => (entry, times index))
        { db := statements.begin world.db }).2 = true ∧
      (world.report statements times).round = (Round.processHubEvents statements
        (world.queue.events.zipIdx.map fun (entry, index) => (entry, times index))
        { db := statements.begin world.db }).1 ∧
      (world.queue.lossDetected = true →
        (world.report statements times).openApps =
          some (world.report statements times).marked) := by
  rcases hub : Round.processHubEvents statements
      (world.queue.events.zipIdx.map fun (entry, index) => (entry, times index))
      { db := statements.begin world.db } with ⟨round, fine⟩
  cases fine with
  | false => simp [report, EventQueue.drain, hub] at ok
  | true =>
      simp only [report, EventQueue.drain, hub, EventQueue.takeLossFlag] at ok ⊢
      by_cases lost : world.queue.lossDetected = true
      · simp only [lost, if_true] at ok ⊢
        rcases opens : statements.openSessionAppIds round.db with ⟨db, found⟩
        cases found with
        | none => simp [afterLoss, opens] at ok
        | some appIds =>
            rcases marks : markApps statements appIds db with ⟨⟨later, marked⟩, all⟩
            cases all with
            | false => simp [afterLoss, opens, marks] at ok
            | true =>
                have whole : marked = appIds := by
                  have every := @markApps_all Db Session statements appIds db (by rw [marks])
                  rw [marks] at every
                  exact every
                rcases recovers : statements.reconcileLiveProcesses later with ⟨last, recovered⟩
                cases recovered with
                | none => simp [afterLoss, opens, marks, recovers] at ok
                | some done => simp [afterLoss, opens, marks, recovers, whole]
      · simp [lost]

theorem Kept.settles (kept : world.Kept belongs) {times : Nat → Nat}
    (assigned : Assigned belongs (world.report statements times))
    (smooth : Smooth belongs world (world.report statements times)) :
    ∀ entry ∈ world.pushed, entry.event.isProcess = false → ∀ appId,
      belongs entry.number = some appId →
        (world.afterRound statements times).Accounted entry appId := by
  obtain ⟨ok, overflowed, unresolved, opened⟩ := smooth
  obtain ⟨drainedAll, fine, sameRound, marks⟩ := report_ok ok
  intro entry pushed isFile appId owner
  rcases kept.covered entry pushed isFile appId owner with accounted | holds | evicted
  · rcases accounted with ingested | passed | merged | marked
    · exact Or.inl (List.mem_append_left _ ingested)
    · exact Or.inr (Or.inl (List.mem_append_left _ passed))
    · exact Or.inr (Or.inr (Or.inl merged))
    · exact Or.inr (Or.inr (Or.inr (List.mem_append_left _ marked)))
  · obtain ⟨queued, member, same, notProcess⟩ := holds
    obtain ⟨place, at_place⟩ := List.mem_iff_getElem?.mp member
    have drained : (queued, times place) ∈
        world.queue.events.zipIdx.map fun (entry, index) => (entry, times index) := by
      rw [List.mem_map]
      exact ⟨(queued, place), List.mem_zipIdx_iff_getElem?.mpr at_place, rfl⟩
    have known := (Round.has_processHubEvents fine).2 _ drained notProcess
    rw [← sameRound, same] at known
    rcases known with ⟨pending, waits, number⟩ | ⟨found, ingested⟩ | passed | lost | old
    · have nobody := unresolved pending waits
      rw [number, owner] at nobody
      simp at nobody
    · have owned := assigned.1 _ ingested
      rw [owner, Option.some.injEq] at owned
      subst owned
      exact Or.inl (List.mem_append_right _ ingested)
    · exact Or.inr (Or.inl (List.mem_append_right _ passed))
    · have nobody := overflowed _ lost
      rw [owner] at nobody
      simp at nobody
    · have nobody := assigned.2 _ old
      rw [owner] at nobody
      simp at nobody
  · have lost := kept.flagged (List.ne_nil_of_mem evicted)
    have isOpen := opened _ (marks lost) _ evicted appId owner
    exact Or.inr (Or.inr (Or.inr (List.mem_append_right _ isOpen)))

theorem Kept.step (kept : world.Kept belongs) (step : ObservedStep Db)
    (meets : world.Meets statements belongs step) : (world.step statements step).Kept belongs := by
  cases step with
  | push event => exact kept.push event
  | reportLoss count =>
      have raises : world.queue.lossDetected = true →
          (world.queue.reportLoss count).lossDetected = true := by
        intro lost
        rw [EventQueue.reportLoss]
        split
        · exact lost
        · rfl
      have events : (world.queue.reportLoss count).events = world.queue.events ∧
          (world.queue.reportLoss count).lastWrite = world.queue.lastWrite := by
        rw [EventQueue.reportLoss]
        split <;> exact ⟨rfl, rfl⟩
      refine ⟨?_, fun nonempty => raises (kept.flagged nonempty), ?_⟩
      · intro path index remembered
        simp only [ObservedWorld.step, events.1, events.2] at remembered ⊢
        exact kept.placed path index remembered
      · intro entry pushed isFile appId owner
        rcases kept.covered entry pushed isFile appId owner with accounted | holds | evicted
        · exact Or.inl accounted
        · refine Or.inr (Or.inl ?_)
          simp only [EventQueue.Holds, ObservedWorld.step, events.1]
          exact holds
        · exact Or.inr (Or.inr evicted)
  | other change => exact ⟨kept.placed, kept.flagged, kept.covered⟩
  | processEvents times =>
      obtain ⟨assigned, smooth⟩ := meets
      obtain ⟨drainedAll, -, -, -⟩ := report_ok smooth.1
      refine ⟨?_, ?_, ?_⟩
      · intro path index remembered
        simp [ObservedWorld.step, afterRound, drainedAll, EventQueue.drain,
          EventQueue.takeLossFlag] at remembered
      · intro nonempty
        simp [ObservedWorld.step, afterRound, drainedAll] at nonempty
      · intro entry pushed isFile appId owner
        exact Or.inl (kept.settles assigned smooth entry pushed isFile appId owner)

def Fresh (world : ObservedWorld Db) : Prop :=
  world.pushed = [] ∧ world.queue.events = [] ∧ world.evicted = [] ∧
    ∀ path, world.queue.lastWrite path = none

theorem Fresh.kept (fresh : world.Fresh) : world.Kept belongs := by
  obtain ⟨pushed, events, evicted, places⟩ := fresh
  refine ⟨EventQueue.placed_forgotten _ places, fun nonempty => absurd evicted nonempty, ?_⟩
  intro entry member
  rw [pushed] at member
  simp at member

/-- In every run with smooth rounds the mutations that belong to an app are accounted for or still
wait, and after each round all that were pushed are accounted for. -/
theorem mutations_accounted (statements : Statements Db Session) (belongs : Nat → Option AppId)
    (reached : Machine.Reached (ObservedWorld.step statements) Fresh
      (Meets statements belongs) world) :
    world.Covered belongs ∧
      ∀ times, world.Meets statements belongs (.processEvents times) →
        (world.step statements (.processEvents times)).Settled belongs := by
  have kept : world.Kept belongs :=
    reached.invariant (fun _ fresh => fresh.kept)
      (fun _ step _ kept meets => kept.step step meets)
  refine ⟨kept.covers, ?_⟩
  intro times meets entry pushed mutation appId owner
  exact kept.settles meets.1 meets.2 entry pushed (mutates_isProcess mutation) appId owner

end ObservedWorld

/-- The statements as the engine of the other modules computes them; identification of executables
and the look at live processes stay parameters. -/
def engineStatements (moment : Moment) (discovery : Discovery KnownApp)
    (reconcile : FsEngine → FsEngine) : Statements FsEngine AppSession where
  begin engine :=
    { engine with
      cgroupSessions := [], unresolved := []
      openInstallers := engine.db.installers.map Prod.fst }
  deferOrExclude fact engine :=
    let (deferred, ends) := deferUnfinishedEvent engine fact.event
    (deferred, some (ends || eventIsExcluded deferred moment fact.event))
  sessionFor fact engine := (engine, some (sessionFor engine fact))
  ingestFsForSession fact session engine :=
    match ingestFsForSession engine moment fact.event session with
    | (engine, .ok _) => (engine, some ())
    | (engine, .error _) => (engine, none)
  ingestProcessInner event engine :=
    let inner := (ingestProcessInner discovery ⟨engine.db.sessions, engine.knownApps⟩ event).1
    ({ engine with db := { engine.db with sessions := inner.db }, knownApps := inner.knownApps },
      some ())
  openSessionAppIds engine :=
    (engine, some (((engine.db.sessions.appSessions.filter AppSession.isOpen).map
      AppSession.appId).eraseDups))
  markDirty appId engine :=
    ({ engine with
      db := { engine.db with dirtyApps := markDirtyApp engine.db.dirtyApps appId true } }, some ())
  markRoots appId engine :=
    let roots := (engine.db.knownRoots.filter fun root => root.appId = appId).map
      RegisteredRoot.path
    let dirty := if roots = [] then engine.home.toList else roots
    ({ engine with
      db := { engine.db with
        dirtyRoots := dirty.foldl (fun rows root => markDirtyRoot rows
          { appId, canonicalRoot := root, logicalRoot := none, mutationCount := 1
            requiresReconciliation := true }) engine.db.dirtyRoots
        fileStates := engine.db.fileStates.map fun row =>
          if row.appId = appId then { row with trust := .verifyRequired } else row } }, some ())
  reconcileLiveProcesses engine := (reconcile engine, some ())
  appOf := AppSession.appId

namespace LossSample

def doom : AppId := ⟨"exe:doom"⟩

def doomSession : AppSession := ⟨0, doom, 10, 0, none, .executableDiscovery⟩

def agent : ObservedWorld FsEngine where
  queue := { cap := 16 }
  db :=
    { db :=
        { sessions := { appSessions := [doomSession], sessionPids := [(10, 0)] }
          apps := [doom] } }

def plain : Discovery KnownApp where
  appId app := app.appId
  isBackupCandidate _ := true
  resolveIdentity _ exe _ := ⟨⟨exe⟩, none, none⟩
  inferSessionSource _ _ := .executableDiscovery

def embedded : Statements FsEngine AppSession :=
  engineStatements ⟨id, fun _ => none, ⟨"00000000-0000-4000-8000-000000000002", Eq.refl true⟩, 0⟩ plain
    id

def writeBy (pid : Pid) : FilesystemFact := .legacy ⟨.write, pid, "/home/u/doom/a.sav", none, 0⟩

def ofDoom (number : Nat) : Option AppId := if number = 0 then some doom else none

def written : List (ObservedStep FsEngine) :=
  [.push (.filesystem (writeBy 10)), .processEvents fun _ => 0]

def writtenEarly : List (ObservedStep FsEngine) :=
  [.push (.filesystem (writeBy 11)), .processEvents fun _ => 0,
    .push (.process { kind := .fork, pid := 11, ppid := 10 }), .processEvents fun _ => 1]

def afterwards : ObservedWorld FsEngine :=
  writtenEarly.foldl (ObservedWorld.step embedded) agent

def takesWrite : RoundReport FsEngine :=
  (agent.step embedded (.push (.filesystem (writeBy 10)))).report embedded fun _ => 0

theorem takesWrite_smooth :
    takesWrite.round.ingested = [(0, doom)] ∧ takesWrite.round.expired = [] ∧
      takesWrite.round.overflowed = [] ∧ takesWrite.round.unresolved = [] ∧
      takesWrite.openApps = none ∧ takesWrite.ok = true := by
  decide +kernel

theorem afterwards_lists :
    afterwards.queue.events = [] ∧ afterwards.ingested = [] ∧ afterwards.passedOver = [] ∧
      afterwards.merged = [] ∧ afterwards.marked = [] ∧ afterwards.evicted = [] ∧
      ⟨0, .filesystem (writeBy 11)⟩ ∈ afterwards.pushed ∧
      sessionFor afterwards.db (writeBy 11) = some doomSession := by
  decide +kernel

end LossSample

open LossSample in
theorem mutations_accounted_write :
    ObservedWorld.Covered ofDoom (written.foldl (ObservedWorld.step embedded) agent) := by
  have fresh : ObservedWorld.Fresh agent := ⟨rfl, rfl, rfl, fun _ => rfl⟩
  have start : Machine.Reached (ObservedWorld.step embedded) ObservedWorld.Fresh
      (ObservedWorld.Meets embedded ofDoom) agent := .start fresh
  obtain ⟨ingested, expired, overflowed, unresolved, untaken, ok⟩ := takesWrite_smooth
  have assigned : ObservedWorld.Assigned ofDoom takesWrite := by
    constructor
    · simp [ingested, ofDoom]
    · simp [expired]
  have smooth : ObservedWorld.Smooth ofDoom
      (agent.step embedded (.push (.filesystem (writeBy 10)))) takesWrite := by
    refine ⟨ok, by simp [overflowed], by simp [unresolved], ?_⟩
    intro appIds taken
    rw [untaken] at taken
    simp at taken
  have along : Machine.Along (ObservedWorld.step embedded)
      (ObservedWorld.Meets embedded ofDoom) agent written :=
    ⟨trivial, ⟨assigned, smooth⟩, trivial⟩
  exact (ObservedWorld.mutations_accounted embedded ofDoom (start.along along)).1

open LossSample in
/-- The write is in no list and not in the queue, no app is marked, and its process has a session
of the game one millisecond later. -/
theorem early_write_lost :
    sessionFor afterwards.db (writeBy 11) = some doomSession ∧
      ¬ afterwards.Covered ofDoom := by
  obtain ⟨events, ingested, passedOver, merged, marked, evicted, pushed, session⟩ :=
    afterwards_lists
  refine ⟨session, ?_⟩
  intro covered
  have lost := covered _ pushed (by decide) doom rfl
  simp [ObservedWorld.Accounted, ObservedWorld.StillWaits, EventQueue.Holds, events, ingested,
    passedOver, merged, marked, evicted] at lost

end Noland.Attribution
