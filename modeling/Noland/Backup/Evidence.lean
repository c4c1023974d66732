import Noland.Lib.Interleaving
import Noland.Backup.ManifestPaths
import Noland.Backup.Run

/-!
The backup reads the pending mutations once and marks exactly those rows processed at its end. An
event that is folded into such a row is closed with it, although the file may have been copied
before the event; every other event keeps a pending row.
-/

namespace Noland.Backup

open Noland.Core Noland.StateDb Noland.Requests

/-- A write of an application together with the mutation recorded for it. -/
structure ObservedEvent where
  mutation : AppMutationRecord
  written : Option FileNode
  pathId : Nat
  logical : Option PathKey
  pending : mutation.processedAt = none

namespace ObservedEvent

def requiresReconciliation (event : ObservedEvent) : Bool :=
  event.mutation.kind = .rename || event.mutation.kind = .delete

def trust (event : ObservedEvent) : FileStateTrust :=
  if event.mutation.kind = .delete then .missing else .dirty

def writes (event : ObservedEvent) : List (String × Option FileNode) :=
  event.mutation.previousPath.toList.map (fun path => (path, none)) ++
    [(event.mutation.path, event.written)]

end ObservedEvent

/-- `Path::parent`; the root has none and stands for itself. -/
def parentDir (path : String) : String :=
  let stem := (path.toList.reverse.dropWhile (· ≠ '/')).reverse
  String.ofList (if stem.length ≤ 1 then stem else stem.dropLast)

def setTrust (event : ObservedEvent) : AgentProg Unit :=
  match event.logical with
  | none => .done ()
  | some key => ask (.setFileStateTrust event.mutation.appId key event.trust)

/-- The end of `ingest_fs`: a mutation that was folded into a pending row marks
nothing dirty. -/
def recordMutation (event : ObservedEvent) : AgentProg Unit := do
  let inserted : Bool ← ask (.appendMutation event.mutation)
  if inserted then do
    ask (.markDirtyApp event.mutation.appId event.requiresReconciliation)
    ask (.markDirtyPath event.mutation.appId event.pathId)
    ask (.markDirtyRoot
      { appId := event.mutation.appId
        canonicalRoot := parentDir event.mutation.path
        logicalRoot := event.logical.map Prod.fst
        mutationCount := 1
        requiresReconciliation := event.requiresReconciliation })
    setTrust event
  else .done ()

def writeAndRecord (event : ObservedEvent) : AgentProg Unit := do
  Prog.forEach event.writes fun write => ask (.writeFile write.1 write.2)
  recordMutation event

def sharedAgentHandler : Handler agentInterface StateError (Agent × Unit) where
  act op state := ((agentHandler.act op state.1).1, (agentHandler.act op state.1).2, ())
  internal := agentHandler.internal

abbrev AgentPool (ι : Type) :=
  Requests.Pool ι agentInterface StateError Agent Unit (Option BundleManifest)

abbrev AgentClient := Client agentInterface StateError Unit (Option BundleManifest)

def backingUp (call : BackupCall) : AgentClient :=
  { program := runBackup call >>= fun manifest => .done (some manifest)
    history := []
    own := () }

def observing (events : List ObservedEvent) : AgentClient :=
  { program := Prog.forEach events writeAndRecord >>= fun _ => .done none
    history := []
    own := () }

section Pools

variable {ι : Type} [DecidableEq ι]

structure Observed (call : BackupCall) (backup : ι) (events : ι → List ObservedEvent)
    (start : AgentPool ι) : Prop where
  backs : start.client backup = backingUp call
  observes : ∀ i, i ≠ backup → start.client i = observing (events i)

def Captures (chunker : Chunker) (manifest : BundleManifest) (event : ObservedEvent) : Prop :=
  ∃ node, event.written = some node ∧ ∃ file ∈ manifest.files,
    file.sourcePathHint = some event.mutation.path ∧ file.fileHash = chunker.fileHash node.bytes

/-- An event recorded after the backup has read the pending mutations, and not
captured by it, leaves a pending mutation or a dirty app. `allow` restricts the
operations after that read by the mutations that were read. -/
def MutationsSurvive (call : BackupCall) (backup : ι) (events : ι → List ObservedEvent)
    (allow : List AppMutationRecord → AgentOp → Agent → Prop) (start : AgentPool ι) : Prop :=
  ∀ read final snapshot manifest,
    Requests.Pool.Reaches sharedAgentHandler (fun _ _ _ _ => True) start read →
    (read.client backup).history.getLast? =
      some ⟨.pendingMutations call.appId mutationLimit, .ok snapshot⟩ →
    Requests.Pool.Reaches sharedAgentHandler (fun _ _ => allow snapshot) read final →
    (final.client backup).program = .done (some manifest) →
    ∀ i, i ≠ backup → ∀ event ∈ events i, event.mutation.appId = call.appId →
      (∃ observed ∈ (final.client i).history.drop (read.client i).history.length,
        observed.op = .appendMutation event.mutation) →
      ¬ Captures call.chunker manifest event →
      pendingMutation final.shared.mutations call.appId event.mutation.path ∨
        ∃ row ∈ final.shared.dirtyApps, row.appId = call.appId

end Pools

/-- A mutation gets an id of its own and is not folded into a row of the
snapshot. -/
def NotFolded (snapshot : List AppMutationRecord) (op : AgentOp) (agent : Agent) : Prop :=
  ∀ mutation, op = .appendMutation mutation →
    (∀ row ∈ agent.mutations, row.mutationId ≠ mutation.mutationId) ∧
    ∀ existing, existingMutation agent.mutations mutation = some existing →
      existing.mutationId ∉ snapshot.map AppMutationRecord.mutationId

theorem mutations_after (agent : Agent) (op : AgentOp) :
    (agent.after op).mutations =
      match op with
      | .markProcessed ids =>
          markAppMutationsProcessed agent.mutations ids (agent.clock agent.ticks)
      | .appendMutation mutation => (appendAppMutation agent.mutations mutation).2
      | _ => agent.mutations := by
  cases op <;> rfl

section Rows

variable {appId : AppId} {ids : List Uuid} {rows : List AppMutationRecord}

def Kept (appId : AppId) (ids : List Uuid) (rows : List AppMutationRecord) (path : String) : Prop :=
  ∃ row ∈ rows, row.appId = appId ∧ row.path = path ∧ row.pending = true ∧ row.mutationId ∉ ids

def Known (ids : List Uuid) (rows : List AppMutationRecord) : Prop :=
  ∀ id ∈ ids, ∃ row ∈ rows, row.mutationId = id

theorem Kept.pendingMutation {path : String} (kept : Kept appId ids rows path) :
    pendingMutation rows appId path := by
  obtain ⟨row, member, app, same, pending, _⟩ := kept
  exact ⟨row, member, app, same, pending⟩

theorem Kept.append {path : String} (kept : Kept appId ids rows path)
    (mutation : AppMutationRecord) : Kept appId ids (appendAppMutation rows mutation).2 path := by
  obtain ⟨row, member, app, same, pending, outside⟩ := kept
  obtain ⟨observedAt, later⟩ := mem_appendAppMutation member mutation
  exact ⟨_, later, app, same, pending, outside⟩

theorem Kept.mark {path : String} (kept : Kept appId ids rows path) (now : Timestamp) :
    Kept appId ids (markAppMutationsProcessed rows ids now) path := by
  obtain ⟨row, member, app, same, pending, outside⟩ := kept
  exact ⟨row, mem_markAppMutationsProcessed member outside, app, same, pending, outside⟩

theorem Known.append (known : Known ids rows) (mutation : AppMutationRecord) :
    Known ids (appendAppMutation rows mutation).2 := by
  intro id member
  obtain ⟨row, inside, same⟩ := known id member
  obtain ⟨observedAt, later⟩ := mem_appendAppMutation inside mutation
  exact ⟨_, later, same⟩

theorem Known.mark (known : Known ids rows) (others : List Uuid) (now : Timestamp) :
    Known ids (markAppMutationsProcessed rows others now) := by
  intro id member
  obtain ⟨row, inside, same⟩ := known id member
  refine ⟨_, List.mem_map.mpr ⟨row, inside, rfl⟩, ?_⟩
  split
  · exact same
  · exact same

theorem kept_appended {mutation : AppMutationRecord} (known : Known ids rows)
    (app : mutation.appId = appId) (pending : mutation.processedAt = none)
    (fresh : ∀ row ∈ rows, row.mutationId ≠ mutation.mutationId)
    (apart : ∀ existing, existingMutation rows mutation = some existing →
      existing.mutationId ∉ ids) :
    Kept appId ids (appendAppMutation rows mutation).2 mutation.path := by
  cases found : existingMutation rows mutation with
  | some existing =>
      obtain ⟨member, coalesces⟩ := existingMutation_some found
      simp only [AppMutationRecord.coalesces, Bool.and_eq_true, decide_eq_true_eq] at coalesces
      have before : Kept appId ids rows mutation.path :=
        ⟨existing, member, coalesces.1.1.1.2.trans app, coalesces.1.1.2, coalesces.1.1.1.1,
          apart existing found⟩
      exact before.append mutation
  | none =>
      have new : rows.any (fun row => row.mutationId = mutation.mutationId) = false := by
        simpa using fresh
      have outside : mutation.mutationId ∉ ids := by
        intro inside
        obtain ⟨row, member, same⟩ := known _ inside
        exact fresh row member same
      have rows_after : (appendAppMutation rows mutation).2 = rows ++ [mutation] := by
        simp [appendAppMutation, found, new]
      rw [rows_after]
      exact ⟨mutation, by simp, app, rfl, by simp [AppMutationRecord.pending, pending], outside⟩

end Rows

/-- The operations of a backup that has read its mutations: it closes the rows
it read, and appends none. -/
def ClosesOnly (ids : List Uuid) : AgentOp → Prop
  | .markProcessed others => others = ids
  | .pendingMutations _ limit => limit = 1
  | .appendMutation _ => False
  | _ => True

def RecordsOnly : AgentOp → Prop
  | .markProcessed _ => False
  | .appendMutation mutation => mutation.processedAt = none
  | _ => True

section Backup

variable {call : BackupCall} {pending : List AppMutationRecord}
  {replies : Event agentInterface StateError → Prop}

theorem closesOnly_common {ids : List Uuid} (op : AgentOp) (common : op.common = true) :
    ClosesOnly ids op := by
  cases op with
  | markProcessed others => cases common
  | pendingMutations appId limit => cases common
  | appendMutation mutation => cases common
  | _ => trivial

theorem closesOnly_handles {ids : List Uuid}
    (same : pending.map AppMutationRecord.mutationId = ids) :
    Handles (ClosesOnly ids) replies call pending where
  common := closesOnly_common
  stores _ _ _ _ := trivial
  clears _ := ⟨trivial, trivial⟩
  marks := same
  reads := rfl
  ends _ _ := trivial

end Backup

theorem writeAndRecord_records {replies : Event agentInterface StateError → Prop}
    (event : ObservedEvent) : (writeAndRecord event).Uses RecordsOnly replies fun _ => True := by
  apply (Prog.Uses.forEach fun _ _ => ask_uses trivial).andThen
  intro _
  apply (ask_uses event.pending).andThen
  intro (inserted : Bool)
  apply Prog.Uses.ite
  · intro _
    apply (ask_uses trivial).andThen
    intro _
    apply (ask_uses trivial).andThen
    intro _
    apply (ask_uses trivial).andThen
    intro _
    unfold setTrust
    split
    · trivial
    · exact ask_uses trivial
  · exact fun _ => trivial

theorem closes_after_read {call : BackupCall} {events : List (Event agentInterface StateError)}
    {rest : AgentProg (Option BundleManifest)} {snapshot : List AppMutationRecord}
    (trace : Prog.Trace (backingUp call).program events rest)
    (last : events.getLast? = some ⟨.pendingMutations call.appId mutationLimit, .ok snapshot⟩) :
    rest.Uses (ClosesOnly (snapshot.map AppMutationRecord.mutationId)) (fun _ => True)
      fun _ => True := by
  -- the first two operations are not the read
  rcases trace.of_request with rfl | ⟨persisted, afterPersist, rfl, persisting⟩
  · cases last
  cases persisted with
  | error error =>
      rw [persisting.of_throw] at last
      cases last
  | ok _ =>
      rcases persisting.of_request with rfl | ⟨listed, afterList, rfl, listing⟩
      · cases last
      cases listed with
      | error error =>
          rw [listing.of_throw] at last
          cases last
      | ok dirty =>
          rcases listing.of_request with rfl | ⟨answer, afterRead, rfl, reading⟩
          · cases last
          cases answer with
          | error error =>
              rw [reading.of_throw] at last
              cases last
          | ok pending =>
              have uses : (continueBackup call dirty pending >>= fun manifest =>
                  .done (some manifest)).Uses
                  (ClosesOnly (pending.map AppMutationRecord.mutationId)) (fun _ => True)
                  fun _ => True :=
                (continueBackup_uses (closesOnly_handles rfl) dirty).andThen fun _ => trivial
              obtain ⟨still, all⟩ := uses.trace reading
              cases afterRead with
              | nil =>
                  cases last
                  exact still
              | cons event more =>
                  -- no later operation reads the pending mutations with this limit
                  have member : _ ∈ event :: more := List.mem_of_getLast? (by simpa using last)
                  have limit : mutationLimit = 1 := all _ member
                  cases limit

section Pools

variable {ι : Type} [DecidableEq ι] {call : BackupCall} {backup : ι}
  {events : ι → List ObservedEvent} {start read final : AgentPool ι}
  {snapshot : List AppMutationRecord}

/-- What is kept after the read: the rows of the snapshot, and a row for every
event recorded since. -/
structure SinceRead (call : BackupCall) (snapshot : List AppMutationRecord)
    (read pool : AgentPool ι) : Prop where
  known : Known (snapshot.map AppMutationRecord.mutationId) pool.shared.mutations
  longer : ∀ i, (read.client i).history.length ≤ (pool.client i).history.length
  kept : ∀ i, ∀ observed ∈ (pool.client i).history.drop (read.client i).history.length,
    ∀ mutation, observed.op = .appendMutation mutation → mutation.appId = call.appId →
      Kept call.appId (snapshot.map AppMutationRecord.mutationId) pool.shared.mutations mutation.path

def ClientOps (backup : ι) (ids : List Uuid) (i : ι) (op : AgentOp) : Prop :=
  if i = backup then ClosesOnly ids op else RecordsOnly op

theorem clientOps_cases {ids : List Uuid} {i : ι} {op : AgentOp} (used : ClientOps backup ids i op) :
    (op = .markProcessed ids) ∨
    (∃ mutation, op = .appendMutation mutation ∧ mutation.processedAt = none) ∨
    ((∀ mutation, op ≠ .appendMutation mutation) ∧
      ∀ agent : Agent, (agent.after op).mutations = agent.mutations) := by
  unfold ClientOps at used
  cases op with
  | markProcessed others =>
      split at used
      · exact Or.inl (congrArg AgentOp.markProcessed used)
      · exact used.elim
  | appendMutation mutation =>
      split at used
      · exact used.elim
      · exact Or.inr (Or.inl ⟨mutation, rfl, used⟩)
  | _ => exact Or.inr (Or.inr ⟨by simp, fun agent => mutations_after agent _⟩)

theorem known_after {ids : List Uuid} (agent : Agent) (op : AgentOp)
    (known : Known ids agent.mutations) : Known ids (agent.after op).mutations := by
  rw [mutations_after]
  cases op with
  | markProcessed others => exact known.mark others _
  | appendMutation mutation => exact known.append mutation
  | _ => exact known

theorem kept_after {ids : List Uuid} {i : ι} {op : AgentOp} {path : String} (agent : Agent)
    (used : ClientOps backup ids i op) (kept : Kept call.appId ids agent.mutations path) :
    Kept call.appId ids (agent.after op).mutations path := by
  rcases clientOps_cases used with rfl | ⟨mutation, rfl, _⟩ | ⟨_, same⟩
  · exact kept.mark _
  · exact kept.append mutation
  · rwa [same agent]

theorem sinceRead_step {pool : AgentPool ι} {i : ι} {op : AgentOp}
    {next : Except StateError op.Ret → AgentProg (Option BundleManifest)}
    (since : SinceRead call snapshot read pool)
    (used : ClientOps backup (snapshot.map AppMutationRecord.mutationId) i op)
    (allowed : NotFolded snapshot op pool.shared) :
    SinceRead call snapshot read (pool.advance sharedAgentHandler i op next) where
  known := known_after pool.shared.settle op since.known
  longer j := by
    by_cases mine : j = i
    · subst mine
      have before := since.longer j
      simp [Requests.Pool.advance]
      omega
    · simpa [Requests.Pool.advance, Function.update_of_ne mine] using since.longer j
  kept j observed member mutation appends app := by
    have old : ∀ event ∈ (pool.client j).history.drop (read.client j).history.length,
        event.op = .appendMutation mutation →
        Kept call.appId (snapshot.map AppMutationRecord.mutationId)
          (pool.shared.settle.after op).mutations mutation.path := by
      intro event inside same
      exact kept_after pool.shared.settle used (since.kept j event inside mutation same app)
    by_cases mine : j = i
    · subst mine
      have history : ((pool.advance sharedAgentHandler j op next).client j).history =
          (pool.client j).history ++
            [⟨op, (sharedAgentHandler.act op (pool.shared, (pool.client j).own)).1⟩] := by
        simp [Requests.Pool.advance]
      rw [history, List.drop_append_of_le_length (since.longer j)] at member
      rcases List.mem_append.mp member with before | last
      · exact old observed before appends
      · rw [List.mem_singleton.mp last] at appends
        obtain rfl : op = .appendMutation mutation := appends
        obtain ⟨fresh, apart⟩ := allowed mutation rfl
        rcases clientOps_cases used with impossible | ⟨other, same, pending⟩ | ⟨never, _⟩
        · cases impossible
        · cases same
          exact kept_appended since.known app pending fresh apart
        · exact (never mutation rfl).elim
    · have history : ((pool.advance sharedAgentHandler i op next).client j).history =
          (pool.client j).history := by
        simp [Requests.Pool.advance, Function.update_of_ne mine]
      rw [history] at member
      exact old observed member appends

theorem known_since_read
    (reaches : Requests.Pool.Reaches sharedAgentHandler (fun _ _ _ _ => True) start read)
    (fresh : (start.client backup).history = [])
    (last : (read.client backup).history.getLast? =
      some ⟨.pendingMutations call.appId mutationLimit, .ok snapshot⟩) :
    Known (snapshot.map AppMutationRecord.mutationId) read.shared.mutations := by
  have always : ∀ rows, (⟨.pendingMutations call.appId mutationLimit, .ok rows⟩ :
      Event agentInterface StateError) ∈ (read.client backup).history →
      Known (rows.map AppMutationRecord.mutationId) read.shared.mutations := by
    apply uses_reaches (fun pool => ∀ rows, (⟨.pendingMutations call.appId mutationLimit,
      .ok rows⟩ : Event agentInterface StateError) ∈ (pool.client backup).history →
      Known (rows.map AppMutationRecord.mutationId) pool.shared.mutations)
      (fun i => Prog.uses_any _) _ reaches
    · rw [fresh]
      simp
    · intro pool i op next before _ _ rows member
      by_cases mine : backup = i
      · subst mine
        have history : ((pool.advance sharedAgentHandler backup op next).client backup).history =
            (pool.client backup).history ++
              [⟨op, (sharedAgentHandler.act op (pool.shared, (pool.client backup).own)).1⟩] := by
          simp [Requests.Pool.advance]
        rw [history] at member
        rcases List.mem_append.mp member with earlier | new
        · exact known_after pool.shared.settle op (before rows earlier)
        · cases List.mem_singleton.mp new
          intro id inside
          obtain ⟨row, listed, same⟩ := List.mem_map.mp inside
          exact ⟨row, (pending_of_mem_pendingAppMutations listed).1, same⟩
      · have history : ((pool.advance sharedAgentHandler i op next).client backup).history =
            (pool.client backup).history := by
          simp [Requests.Pool.advance, Function.update_of_ne mine]
        rw [history] at member
        exact known_after pool.shared.settle op (before rows member)
  exact always snapshot (List.mem_of_getLast? last)

/-- Events that are not folded into rows the backup has read keep a pending row. -/
theorem observed_mutations_survive (call : BackupCall) (backup : ι)
    (events : ι → List ObservedEvent) (start : AgentPool ι)
    (observed : Observed call backup events start) :
    MutationsSurvive call backup events NotFolded start := by
  intro read final snapshot manifest reads last runs returned i other event member app appended
    missed
  have fresh : (start.client backup).history = [] := by
    rw [observed.backs]
    rfl
  have uses : ∀ j, (read.client j).program.Uses
      (ClientOps backup (snapshot.map AppMutationRecord.mutationId) j) (fun _ => True)
      fun _ => True := by
    intro j
    obtain ⟨done, history, trace⟩ := trace_reaches reads j
    by_cases mine : j = backup
    · subst mine
      rw [observed.backs] at trace history
      rw [history] at last
      have closes := closes_after_read trace last
      exact closes.weaken (fun op used => by simpa [ClientOps] using used) (fun _ _ => trivial)
        fun _ _ => trivial
    · rw [observed.observes j mine] at trace
      have records : (observing (events j)).program.Uses RecordsOnly (fun _ => True)
          fun _ => True :=
        (Prog.Uses.forEach fun event _ => writeAndRecord_records event).andThen fun _ => trivial
      exact (records.trace trace).1.weaken (fun op used => by simpa [ClientOps, mine] using used)
        (fun _ _ => trivial) fun _ _ => trivial
  have since : SinceRead call snapshot read final := by
    apply uses_reaches (SinceRead call snapshot read) uses _ runs
    · exact ⟨known_since_read reads fresh last, fun _ => le_rfl, fun j => by simp⟩
    · intro pool j op next before used allowed
      exact sinceRead_step before used allowed
  obtain ⟨record, inside, same⟩ := appended
  exact Or.inl (since.kept i record inside event.mutation same app).pendingMutation

end Pools

def AgentOp.appended : AgentOp → Option AppMutationRecord
  | .appendMutation mutation => some mutation
  | _ => none

theorem AgentOp.eq_appendMutation {op : AgentOp} {mutation : AppMutationRecord}
    (appends : op.appended = some mutation) : op = .appendMutation mutation := by
  cases op <;> cases appends
  rfl

def pendingRead (appId : AppId) : Event agentInterface StateError → Option (List AppMutationRecord)
  | ⟨.pendingMutations app limit, .ok rows⟩ =>
      if app = appId ∧ limit = mutationLimit then some rows else none
  | _ => none

theorem eq_of_pendingRead {appId : AppId} {event : Event agentInterface StateError}
    {rows : List AppMutationRecord} (reads : pendingRead appId event = some rows) :
    event = ⟨.pendingMutations appId mutationLimit, .ok rows⟩ := by
  obtain ⟨op, reply⟩ := event
  cases op with
  | pendingMutations app limit =>
      cases reply with
      | ok found =>
          have reads : (if app = appId ∧ limit = mutationLimit then some found else none) =
            some rows := reads
          split at reads
          · rename_i same
            cases reads
            rw [same.1, same.2]
          · cases reads
      | error error => cases reads
  | _ => cases reads

def notFoldedCheck (snapshot : List AppMutationRecord) (op : AgentOp) (agent : Agent) : Bool :=
  match op.appended with
  | none => true
  | some mutation =>
      agent.mutations.all (fun row => row.mutationId ≠ mutation.mutationId) &&
        (existingMutation agent.mutations mutation).all fun existing =>
          existing.mutationId ∉ snapshot.map AppMutationRecord.mutationId

theorem notFoldedCheck_sound {snapshot : List AppMutationRecord} {op : AgentOp} {agent : Agent}
    (checked : notFoldedCheck snapshot op agent = true) : NotFolded snapshot op agent := by
  rintro mutation rfl
  simp only [notFoldedCheck, AgentOp.appended, Bool.and_eq_true, List.all_eq_true,
    decide_eq_true_eq] at checked
  refine ⟨checked.1, fun existing found => ?_⟩
  have apart := checked.2
  rw [found] at apart
  simpa using apart

namespace Sample

def uuidAt (n : Nat) : Uuid :=
  [⟨"00000000-0000-4000-8000-000000000010", Eq.refl true⟩,
    ⟨"00000000-0000-4000-8000-000000000011", Eq.refl true⟩,
    ⟨"00000000-0000-4000-8000-000000000012", Eq.refl true⟩,
    ⟨"00000000-0000-4000-8000-000000000013", Eq.refl true⟩,
    ⟨"00000000-0000-4000-8000-000000000014", Eq.refl true⟩,
    ⟨"00000000-0000-4000-8000-000000000015", Eq.refl true⟩,
    ⟨"00000000-0000-4000-8000-000000000016", Eq.refl true⟩,
    ⟨"00000000-0000-4000-8000-000000000017", Eq.refl true⟩].getD n uuidA

def packing : Packing := { compressed := fun _ => none, nonce := fun _ _ => [] }

def backupCall : BackupCall :=
  { app := { appId := appId, displayName := "Game" }
    instanceId := uuidA
    mode := .personalState
    performance := .balanced
    storage := "local"
    roots := LogicalRootMap.fromHome "/home/gamer"
    decide := fun _ _ _ => .include
    packing := packing
    chunker := chunker }

def stillWeather : Weather :=
  { writes := fun _ => []
    walked := fun _ => []
    reclassified := fun _ rows => rows
    steamManifest := fun _ => none
    fed := fun _ => none }

def modifiedAgent : Agent :=
  { mutations := [mutation uuidA .modify 1]
    dirtyApps := [⟨appId, false⟩]
    dirtyPaths := [(appId, 1)]
    paths := [saveCandidate.record]
    associations := [saveCandidate.association]
    tree := fun path => if path = savePath then some (saveFile [1]) else none
    stores := fun _ => {}
    uuids := uuidAt
    clock := fun n => n
    weather := stillWeather }

/-- A write to the save file; as a modification it is folded into the pending
row. -/
def saveWritten (folded : Bool) : ObservedEvent :=
  { mutation := mutation uuidB (if folded then .modify else .create) 2
    written := some (saveFile [2])
    pathId := 1
    logical := some (context.logicalOf saveCandidate).key
    pending := rfl }

def backupAndWrite (folded : Bool) : AgentPool Bool :=
  { shared := modifiedAgent
    client := fun backup => if backup then backingUp backupCall else observing [saveWritten folded] }

def afterRead (folded : Bool) : AgentPool Bool :=
  Requests.Pool.interleave sharedAgentHandler (List.replicate 3 true) (backupAndWrite folded)

def writeAfterCopy : List Bool :=
  List.replicate 20 true ++ List.replicate 6 false ++ List.replicate 25 true

def afterWrite (folded : Bool) : AgentPool Bool :=
  Requests.Pool.interleave sharedAgentHandler writeAfterCopy (afterRead folded)

theorem backupAndWrite_observed (folded : Bool) :
    Observed backupCall true (fun _ => [saveWritten folded]) (backupAndWrite folded) where
  backs := rfl
  observes i other := by
    cases i with
    | false => rfl
    | true => exact (other rfl).elim

/-- The runs take place in this order, the backup reads the row and misses the new content, and
the write is recorded. A created row stays apart, and a modified one is gone in the end. -/
theorem backupAndWrite_runs :
    (∀ folded, (Requests.Pool.follows sharedAgentHandler (fun _ _ _ _ => true)
        (List.replicate 3 true) (backupAndWrite folded) = true ∧
      Requests.Pool.follows sharedAgentHandler (fun _ _ _ _ => true) writeAfterCopy
        (afterRead folded) = true) ∧
      ((afterRead folded).client true).history.getLast?.bind (pendingRead backupCall.appId) =
        some [mutation uuidA .modify 1] ∧
      (((afterWrite folded).client true).program.returned.bind id).any (fun manifest =>
        manifest.files.all fun file => file.fileHash ≠ chunker.fileHash [2]) = true ∧
      some (saveWritten folded).mutation ∈
        (((afterWrite folded).client false).history.drop
          ((afterRead folded).client false).history.length).map
          fun observed => AgentOp.appended observed.op) ∧
      Requests.Pool.follows sharedAgentHandler
        (fun _ _ => notFoldedCheck [mutation uuidA .modify 1]) writeAfterCopy (afterRead false) =
        true ∧
      ¬ (pendingMutation (afterWrite true).shared.mutations appId savePath ∨
        ∃ row ∈ (afterWrite true).shared.dirtyApps, row.appId = appId) := by
  refine ⟨fun folded => ⟨⟨?_, ?_⟩, ?_, ?_, ?_⟩, ?_, ?_⟩ <;> try cases folded
  all_goals decide +kernel

theorem reaches_afterRead (folded : Bool) :
    Requests.Pool.Reaches sharedAgentHandler (fun _ _ _ _ => True) (backupAndWrite folded)
      (afterRead folded) :=
  interleave_reaches (fun _ _ _ _ => true) (fun _ _ _ _ _ => trivial) _ _
    (backupAndWrite_runs.1 folded).1.1

theorem afterRead_last (folded : Bool) :
    ((afterRead folded).client true).history.getLast? =
      some ⟨.pendingMutations backupCall.appId mutationLimit, .ok [mutation uuidA .modify 1]⟩ := by
  obtain ⟨event, last, found⟩ := Option.bind_eq_some_iff.mp (backupAndWrite_runs.1 folded).2.1
  rw [last, eq_of_pendingRead found]

theorem afterWrite_returns (folded : Bool) :
    ∃ manifest, ((afterWrite folded).client true).program = .done (some manifest) ∧
      ¬ Captures backupCall.chunker manifest (saveWritten folded) := by
  obtain ⟨manifest, inside, all⟩ :=
    (Option.any_eq_true _ _).mp (backupAndWrite_runs.1 folded).2.2.1
  obtain ⟨value, returned, same⟩ := Option.bind_eq_some_iff.mp inside
  obtain rfl : value = some manifest := same
  refine ⟨manifest, Prog.eq_done_of_returned returned, ?_⟩
  rintro ⟨node, written, file, member, _, hash⟩
  cases written
  have different := List.all_eq_true.mp all file member
  rw [decide_eq_true_eq] at different
  exact different hash

theorem afterWrite_recorded (folded : Bool) :
    ∃ observed ∈ ((afterWrite folded).client false).history.drop
      ((afterRead folded).client false).history.length,
      observed.op = .appendMutation (saveWritten folded).mutation := by
  obtain ⟨observed, inside, appends⟩ := List.mem_map.mp (backupAndWrite_runs.1 folded).2.2.2
  exact ⟨observed, inside, AgentOp.eq_appendMutation appends⟩

theorem reaches_folded :
    Requests.Pool.Reaches sharedAgentHandler (fun _ _ _ _ => True) (afterRead true)
      (afterWrite true) :=
  interleave_reaches (fun _ _ _ _ => true) (fun _ _ _ _ _ => trivial) _ _
    (backupAndWrite_runs.1 true).1.2

theorem reaches_unfolded :
    Requests.Pool.Reaches sharedAgentHandler (fun _ _ => NotFolded [mutation uuidA .modify 1])
      (afterRead false) (afterWrite false) := by
  refine interleave_reaches (fun _ _ => notFoldedCheck [mutation uuidA .modify 1]) ?_ _ _ ?_
  · exact fun _ _ _ _ checked => notFoldedCheck_sound checked
  · exact backupAndWrite_runs.2.1

end Sample

/-- The file is modified after it was copied, and the modification is folded
into the row that the backup closes. -/
theorem modification_forgotten :
    ¬ MutationsSurvive Sample.backupCall true (fun _ => [Sample.saveWritten true])
      (fun _ _ _ => True) (Sample.backupAndWrite true) := by
  intro survive
  obtain ⟨manifest, returned, missed⟩ := Sample.afterWrite_returns true
  have kept := survive _ _ _ manifest (Sample.reaches_afterRead true) (Sample.afterRead_last true)
    Sample.reaches_folded returned false (by decide) _ List.mem_cons_self rfl
    (Sample.afterWrite_recorded true) missed
  exact Sample.backupAndWrite_runs.2.2 kept

theorem creation_survives :
    MutationsSurvive Sample.backupCall true (fun _ => [Sample.saveWritten false]) NotFolded
      (Sample.backupAndWrite false) ∧
    ∃ read final, Requests.Pool.Reaches sharedAgentHandler (fun _ _ _ _ => True)
        (Sample.backupAndWrite false) read ∧
      Requests.Pool.Reaches sharedAgentHandler
        (fun _ _ => NotFolded [Sample.mutation Sample.uuidA .modify 1]) read final ∧
      ∃ manifest, (final.client true).program = .done (some manifest) ∧
        ¬ Captures Sample.backupCall.chunker manifest (Sample.saveWritten false) :=
  ⟨observed_mutations_survive _ _ _ _ (Sample.backupAndWrite_observed false),
    Sample.afterRead false, Sample.afterWrite false, Sample.reaches_afterRead false,
    Sample.reaches_unfolded, Sample.afterWrite_returns false⟩

end Noland.Backup
