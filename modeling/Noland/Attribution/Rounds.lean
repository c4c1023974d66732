import Noland.Attribution.EventQueue

/-!
`process_events` takes what the observer queue holds, ingests it with an engine of its own, and
then looks at the loss flag. What the database does is a parameter, its errors included; the lists
of numbers record what became of each event.
-/

namespace Noland.Attribution

open Noland.Core
open Noland.StateDb

/-- The statements of a round on the database, with the maps of the engine: each yields nothing
when it fails. -/
structure Statements (Db Session : Type) where
  /-- `attribution_engine` -/
  begin : Db → Db
  deferOrExclude : FilesystemFact → Db → Db × Option Bool
  sessionFor : FilesystemFact → Db → Db × Option (Option Session)
  ingestFsForSession : FilesystemFact → Session → Db → Db × Option Unit
  ingestProcessInner : ProcessEvent → Db → Db × Option Unit
  openSessionAppIds : Db → Db × Option (List AppId)
  markDirty : AppId → Db → Db × Option Unit
  markRoots : AppId → Db → Db × Option Unit
  reconcileLiveProcesses : Db → Db × Option Unit
  appOf : Session → AppId

structure PendingFilesystemEvent where
  number : Nat
  fact : FilesystemFact
  queuedAt : Nat
  deriving DecidableEq

structure Round (Db : Type) where
  db : Db
  unresolved : List PendingFilesystemEvent := []
  ingested : List (Nat × AppId) := []
  passedOver : List Nat := []
  overflowed : List Nat := []
  expired : List Nat := []

variable {Db Session : Type} (statements : Statements Db Session)

namespace Round

variable (round : Round Db)

def old (now : Nat) (pending : PendingFilesystemEvent) : Bool :=
  unresolvedTtl < now - pending.queuedAt

def dropExpiredUnresolved (now : Nat) : Round Db :=
  { round with
    unresolved := round.unresolved.dropWhile (old now)
    expired := round.expired ++
      (round.unresolved.takeWhile (old now)).map PendingFilesystemEvent.number }

def makeRoom : Round Db :=
  if round.unresolved.length = unresolvedLimit then
    { round with
      unresolved := round.unresolved.tail
      overflowed := round.overflowed ++
        (round.unresolved.head?.map PendingFilesystemEvent.number).toList }
  else round

def queueUnresolved (number : Nat) (fact : FilesystemFact) (now : Nat) : Round Db :=
  let round := (round.dropExpiredUnresolved now).makeRoom
  { round with unresolved := round.unresolved ++ [⟨number, fact, now⟩] }

/-- Takes the waiting events one by one; the second component is false after an error. -/
def retryEach : List PendingFilesystemEvent → List PendingFilesystemEvent → Round Db →
    Round Db × Bool
  | [], remaining, round => ({ round with unresolved := remaining }, true)
  | pending :: rest, remaining, round =>
      match statements.sessionFor pending.fact round.db with
      | (db, none) => ({ round with db, unresolved := rest }, false)
      | (db, some none) => retryEach rest (remaining ++ [pending]) { round with db }
      | (db, some (some session)) =>
          match statements.ingestFsForSession pending.fact session db with
          | (db, none) => ({ round with db, unresolved := rest }, false)
          | (db, some ()) =>
              retryEach rest remaining
                { round with
                  db
                  ingested := round.ingested ++ [(pending.number, statements.appOf session)] }

def retryUnresolved (now : Nat) : Round Db × Bool :=
  let round := round.dropExpiredUnresolved now
  retryEach statements round.unresolved [] round

def ingestProcess (event : ProcessEvent) (now : Nat) : Round Db × Bool :=
  match statements.ingestProcessInner event round.db with
  | (db, none) => ({ round with db }, false)
  | (db, some ()) =>
      if event.kind = .exit then ({ round with db }, true)
      else ({ round with db } : Round Db).retryUnresolved statements now

def ingestFs (number : Nat) (fact : FilesystemFact) (now : Nat) : Round Db × Bool :=
  if fact.failed then ({ round with passedOver := round.passedOver ++ [number] }, true)
  else
    match statements.deferOrExclude fact round.db with
    | (db, none) => ({ round with db }, false)
    | (db, some true) => ({ round with db, passedOver := round.passedOver ++ [number] }, true)
    | (db, some false) =>
        match statements.sessionFor fact db with
        | (db, none) => ({ round with db }, false)
        | (db, some none) =>
            (({ round with db } : Round Db).queueUnresolved number fact now, true)
        | (db, some (some session)) =>
            match statements.ingestFsForSession fact session db with
            | (db, none) => ({ round with db }, false)
            | (db, some ()) =>
                ({ round with
                  db
                  ingested := round.ingested ++ [(number, statements.appOf session)] }, true)

def ingest (entry : Entry) (now : Nat) : Round Db × Bool :=
  match entry.event with
  | .process event => round.ingestProcess statements event now
  | .filesystem fact => round.ingestFs statements entry.number fact now

/-- `process_hub_events`: the drained batch is given up at the first error. -/
def processHubEvents : List (Entry × Nat) → Round Db → Round Db × Bool
  | [], round => (round, true)
  | (entry, now) :: rest, round =>
      match round.ingest statements entry now with
      | (round, true) => processHubEvents rest round
      | (round, false) => (round, false)

end Round

def markApps : List AppId → Db → (Db × List AppId) × Bool
  | [], db => ((db, []), true)
  | appId :: rest, db =>
      match statements.markDirty appId db with
      | (db, none) => ((db, []), false)
      | (db, some ()) =>
          match statements.markRoots appId db with
          | (db, none) => ((db, [appId]), false)
          | (db, some ()) =>
              let (marked, ok) := markApps rest db
              ((marked.1, appId :: marked.2), ok)

/-- The agent, and what has become of the pushed events: the numbers of those that were evicted
since the loss flag was last taken, and the pairs of a merged write with the one in the queue. -/
structure ObservedWorld (Db : Type) where
  queue : EventQueue
  db : Db
  pushed : List Entry := []
  merged : List (Entry × Entry) := []
  evicted : List Nat := []
  ingested : List (Nat × AppId) := []
  passedOver : List Nat := []
  marked : List AppId := []

/-- A push, a loss that the observer reports, a change by another task of the agent, and a round
with the instants at which it takes the drained events. -/
inductive ObservedStep (Db : Type) where
  | push (event : QueuedEvent)
  | reportLoss (count : Nat)
  | other (change : Db → Db)
  | processEvents (times : Nat → Nat)

/-- What a round does: whether all drained events were taken, which apps were open when the loss
flag was taken, and whether no statement failed. -/
structure RoundReport (Db : Type) where
  round : Round Db
  db : Db
  marked : List AppId := []
  openApps : Option (List AppId) := none
  drainedAll : Bool
  ok : Bool

def PushOutcome.mergedWith (entry : Entry) : PushOutcome → List (Entry × Entry)
  | .merged target => [(entry, target)]
  | .queued | .queuedFor _ | .refused => []

def PushOutcome.lost (entry : Entry) : PushOutcome → List Nat
  | .queuedFor evicted => [evicted.number]
  | .refused => [entry.number]
  | .queued | .merged _ => []

namespace ObservedWorld

variable (world : ObservedWorld Db)

/-- The second half of `process_events`. -/
def afterLoss (round : Round Db) : RoundReport Db :=
  match statements.openSessionAppIds round.db with
  | (db, none) => ⟨round, db, [], none, true, false⟩
  | (db, some appIds) =>
      match markApps statements appIds db with
      | ((db, marked), false) => ⟨round, db, marked, some appIds, true, false⟩
      | ((db, marked), true) =>
          match statements.reconcileLiveProcesses db with
          | (db, none) => ⟨round, db, marked, some appIds, true, false⟩
          | (db, some ()) => ⟨round, db, marked, some appIds, true, true⟩

/-- `process_events`, with the instant at which each drained event is taken. -/
def report (times : Nat → Nat) : RoundReport Db :=
  match Round.processHubEvents statements
      (world.queue.drain.2.zipIdx.map fun (entry, index) => (entry, times index))
      { db := statements.begin world.db } with
  | (round, false) => ⟨round, round.db, [], none, false, false⟩
  | (round, true) =>
      if world.queue.takeLossFlag.2 then afterLoss statements round
      else ⟨round, round.db, [], none, true, true⟩

/-- After an error among the drained events the loss flag stays. -/
def afterRound (times : Nat → Nat) : ObservedWorld Db :=
  let report := world.report statements times
  { world with
    queue :=
      if report.drainedAll then world.queue.drain.1.takeLossFlag.1 else world.queue.drain.1
    db := report.db
    evicted := if report.drainedAll then [] else world.evicted
    ingested := world.ingested ++ report.round.ingested
    passedOver := world.passedOver ++ report.round.passedOver
    marked := world.marked ++ report.marked }

def afterPush (event : QueuedEvent) : ObservedWorld Db :=
  let entry : Entry := ⟨world.pushed.length, event⟩
  let pushed := world.queue.push entry
  { world with
    queue := pushed.1
    pushed := world.pushed ++ [entry]
    merged := world.merged ++ pushed.2.mergedWith entry
    evicted := world.evicted ++ pushed.2.lost entry }

def step (step : ObservedStep Db) : ObservedWorld Db :=
  match step with
  | .push event => world.afterPush event
  | .reportLoss count => { world with queue := world.queue.reportLoss count }
  | .other change => { world with db := change world.db }
  | .processEvents times => world.afterRound statements times

end ObservedWorld

end Noland.Attribution
