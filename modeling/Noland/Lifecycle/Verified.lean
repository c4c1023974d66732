import Noland.Lifecycle.Engine

/-!
The invariant is about the rows of the database and the log alone. The tasks beside the evaluation
loop touch neither, so it is enough that each request of a tick keeps it; only the requests that
record a success need to know what came before them.
-/

namespace Noland.Lifecycle

open Noland.Requests

/-- The state agent reported the bundle and the commit as the result of the
operation, and confirmed them. -/
def Confirmed (log : List Record) (app operation bundle commit : String) : Prop :=
  (∃ status, .status operation status ∈ log ∧ status.state = "COMPLETED" ∧
    status.completionIds = .ok (bundle, commit)) ∧
  .verification app bundle commit true ∈ log

def Evidence (log : List Record) (run : Nat) (app bundle commit : String) : Prop :=
  ∃ operation, .attempted run app (some operation) ∈ log ∧
    Confirmed log app operation bundle commit

section Runs

variable {world : World} {log : List Record} {run : Nat} {change : BackupApp → BackupApp}
  {rows : List BackupApp}

theorem Confirmed.grow {app operation bundle commit : String}
    (confirmed : Confirmed log app operation bundle commit) (more : List Record) :
    Confirmed (log ++ more) app operation bundle commit := by
  obtain ⟨⟨status, answered, state, ids⟩, verified⟩ := confirmed
  exact ⟨⟨status, List.mem_append_left _ answered, state, ids⟩, List.mem_append_left _ verified⟩

theorem Evidence.grow {app bundle commit : String} (evidence : Evidence log run app bundle commit)
    (more : List Record) : Evidence (log ++ more) run app bundle commit := by
  obtain ⟨operation, attempted, confirmed⟩ := evidence
  exact ⟨operation, List.mem_append_left _ attempted, confirmed.grow more⟩

def attemptOf (run : Nat) (app : String) : Record → Bool
  | .attempted other name _ => decide (other = run) && decide (name = app)
  | _ => false

structure Entry (log : List Record) (row : BackupApp) : Prop where
  limit : row.attempts ≤ backupMaxAttempts
  count : row.attempts = log.countP (attemptOf row.runId row.appId)
  backed : row.status = .verified → ∃ bundle commit, row.bundleId = some bundle ∧
    row.commitId = some commit ∧ Evidence log row.runId row.appId bundle commit
  running : row.status = .running → ∀ operation, row.operationId = some operation →
    .attempted row.runId row.appId (some operation) ∈ log

structure Justified (log : List Record) (run : Nat) (rows : List BackupApp) : Prop where
  some : rows ≠ []
  frozen : ∃ apps timeoutMs time, .created run apps timeoutMs time ∈ log ∧
    rows.map (·.appId) = apps
  verified : ∀ row ∈ rows, row.runId = run ∧ row.status = .verified ∧
    row.attempts ≤ backupMaxAttempts ∧ ∃ bundle commit, row.bundleId = Option.some bundle ∧
      row.commitId = Option.some commit ∧ Evidence log run row.appId bundle commit

structure Recorded (rows : List BackupApp) (runs : Nat) (log : List Record) : Prop where
  keys : (rows.map fun row => (row.runId, row.appId)).Nodup
  entries : ∀ row ∈ rows, Entry log row
  origin : ∀ row ∈ rows, ∃ apps timeoutMs time, .created row.runId apps timeoutMs time ∈ log
  frozen : ∀ run apps timeoutMs time, .created run apps timeoutMs time ∈ log →
    run < runs ∧ apps ≠ [] ∧ (rows.filter (·.runId = run)).map (·.appId) = apps
  counted : ∀ run app operation, .attempted run app operation ∈ log → run < runs
  requested : ∀ run app operation, .attempted run app (some operation) ∈ log →
    ∃ mode, .requested run app mode operation ∈ log
  asked : ∀ run app mode operation, .requested run app mode operation ∈ log →
    ∃ complete, .baseline run app complete ∈ log ∧ mode = modeOf complete
  applied : ∀ early late run frozen request, log = early ++ .applied run frozen request :: late →
    Justified early run frozen

theorem recorded_nil : Recorded [] 0 [] where
  keys := List.nodup_nil
  entries _ member := nomatch member
  origin _ member := nomatch member
  frozen _ _ _ _ member := nomatch member
  counted _ _ _ member := nomatch member
  requested _ _ _ member := nomatch member
  asked _ _ _ _ member := nomatch member
  applied early late run frozen request split := by
    have lengths := congrArg List.length split
    simp at lengths

def Calm (runs : Nat) (log : List Record) : Record → Prop
  | .created _ _ _ _ => False
  | .attempted run app operation => run < runs ∧ ∀ name, operation = some name →
      ∃ mode, .requested run app mode name ∈ log
  | .requested run app mode _ => ∃ complete, .baseline run app complete ∈ log ∧
      mode = modeOf complete
  | .applied run rows _ => Justified log run rows
  | _ => True

theorem split_snoc {log early late : List Record} {record last : Record}
    (split : log ++ [last] = early ++ record :: late) :
    (early = log ∧ record = last) ∨ ∃ rest, log = early ++ record :: rest := by
  rcases late.eq_nil_or_concat with rfl | ⟨rest, final, rfl⟩
  · obtain ⟨same, tail⟩ := List.append_inj' split rfl
    exact Or.inl ⟨same.symm, (List.cons.inj tail).1.symm⟩
  · refine Or.inr ⟨rest, ?_⟩
    have parts : log ++ [last] = (early ++ record :: rest) ++ [final] := by simpa using split
    exact (List.append_inj' parts rfl).1

theorem Recorded.extend {runs : Nat} {more : Option Record} (recorded : Recorded rows runs log)
    (same : ∀ row, (change row).runId = row.runId ∧ (change row).appId = row.appId)
    (entries : ∀ row ∈ rows, Entry (log ++ more.toList) (change row))
    (calm : ∀ record, more = some record → Calm runs log record) :
    Recorded (rows.map change) runs (log ++ more.toList) := by
  have grown : ∀ record, record ∈ log ++ more.toList → record ∈ log ∨ more = some record := by
    intro record member
    rcases List.mem_append.mp member with old | new
    · exact Or.inl old
    · exact Or.inr (Option.mem_toList.mp new)
  have kept : ∀ {record}, record ∈ log → record ∈ log ++ more.toList :=
    fun member => List.mem_append_left _ member
  constructor
  · rw [List.map_map]
    have keys : ((fun row : BackupApp => (row.runId, row.appId)) ∘ change) =
        fun row => (row.runId, row.appId) := by
      funext row
      exact Prod.ext (same row).1 (same row).2
    rw [keys]
    exact recorded.keys
  · intro row member
    obtain ⟨old, found, rfl⟩ := List.mem_map.mp member
    exact entries old found
  · intro row member
    obtain ⟨old, found, rfl⟩ := List.mem_map.mp member
    obtain ⟨apps, timeoutMs, time, created⟩ := recorded.origin old found
    rw [(same old).1]
    exact ⟨apps, timeoutMs, time, kept created⟩
  · intro run apps timeoutMs time member
    rcases grown _ member with old | new
    · obtain ⟨less, nonempty, names⟩ := recorded.frozen run apps timeoutMs time old
      refine ⟨less, nonempty, ?_⟩
      have keys : (fun row : BackupApp => decide (row.runId = run)) ∘ change =
          fun row => decide (row.runId = run) := by
        funext row
        simp [(same row).1]
      have named : (fun row : BackupApp => row.appId) ∘ change = fun row => row.appId := by
        funext row
        exact (same row).2
      rw [List.filter_map, List.map_map, keys, named]
      exact names
    · exact (calm _ new).elim
  · intro run app operation member
    rcases grown _ member with old | new
    · exact recorded.counted run app operation old
    · exact (calm _ new).1
  · intro run app operation member
    rcases grown _ member with old | new
    · obtain ⟨mode, requested⟩ := recorded.requested run app operation old
      exact ⟨mode, kept requested⟩
    · obtain ⟨mode, requested⟩ := (calm _ new).2 operation rfl
      exact ⟨mode, kept requested⟩
  · intro run app mode operation member
    have found : ∃ complete, .baseline run app complete ∈ log ∧ mode = modeOf complete := by
      rcases grown _ member with old | new
      · exact recorded.asked run app mode operation old
      · exact calm _ new
    obtain ⟨complete, answered, chosen⟩ := found
    exact ⟨complete, kept answered, chosen⟩
  · intro early late run frozen request split
    cases more with
    | none => exact recorded.applied early late run frozen request (by simpa using split)
    | some last =>
        rcases split_snoc split with ⟨rfl, rfl⟩ | ⟨rest, earlier⟩
        · exact calm _ rfl
        · exact recorded.applied early rest run frozen request earlier

theorem Entry.grow {row : BackupApp} (entry : Entry log row) {more : List Record}
    (quiet : ∀ record ∈ more, attemptOf row.runId row.appId record = false) :
    Entry (log ++ more) row := by
  refine ⟨entry.limit, ?_, ?_, ?_⟩
  · have none : more.countP (attemptOf row.runId row.appId) = 0 :=
      List.countP_eq_zero.mpr (by simpa using quiet)
    rw [List.countP_append, none, entry.count]
    rfl
  · intro verified
    obtain ⟨bundle, commit, first, second, evidence⟩ := entry.backed verified
    exact ⟨bundle, commit, first, second, evidence.grow more⟩
  · intro running operation named
    exact List.mem_append_left _ (entry.running running operation named)

theorem Recorded.note {runs : Nat} {record : Record} (recorded : Recorded rows runs log)
    (calm : Calm runs log record) (quiet : ∀ run app, attemptOf run app record = false) :
    Recorded rows runs (log ++ [record]) := by
  have entries : ∀ row ∈ rows, Entry (log ++ (some record).toList) (id row) :=
    fun row member => (recorded.entries row member).grow (by simp [quiet])
  have extended := recorded.extend (fun _ => ⟨rfl, rfl⟩) entries
    (fun other same => Option.some.inj same ▸ calm)
  simpa using extended

theorem revise_key {app : String} {condition : BackupApp → Bool}
    (same : ∀ row, (change row).runId = row.runId ∧ (change row).appId = row.appId)
    (row : BackupApp) :
    (Database.revise run app condition change row).runId = row.runId ∧
      (Database.revise run app condition change row).appId = row.appId := by
  unfold Database.revise
  split
  · exact same row
  · exact ⟨rfl, rfl⟩

theorem Recorded.update {database : Database} {app : String} {condition : BackupApp → Bool}
    (recorded : Recorded database.backupApps database.runs log)
    (same : ∀ row, (change row).runId = row.runId ∧ (change row).appId = row.appId)
    (entries : ∀ row ∈ database.backupApps, row.runId = run → row.appId = app →
      Entry log (change row)) :
    Recorded (database.updateApp run app condition change).backupApps
      (database.updateApp run app condition change).runs log := by
  have changed : ∀ row ∈ database.backupApps, Entry (log ++ (none : Option Record).toList)
      (Database.revise run app condition change row) := by
    intro row member
    rw [Option.toList_none, List.append_nil, Database.revise]
    split
    · rename_i meets
      exact entries row member meets.1 meets.2.1
    · exact recorded.entries row member
  have extended := recorded.extend (revise_key same) changed
    (fun _ impossible => (nomatch impossible))
  simpa [Database.updateApp] using extended

theorem Recorded.attempt {database : Database} {app : String} {operation : Option String}
    (recorded : Recorded database.backupApps database.runs log)
    (requested : ∀ name, operation = some name → ∃ mode, .requested run app mode name ∈ log)
    (updates : database.updates run app Database.mayAttempt = true)
    (same : ∀ row, (change row).runId = row.runId ∧ (change row).appId = row.appId)
    (counts : ∀ row, (change row).attempts = row.attempts + 1)
    (unverified : ∀ row, (change row).status ≠ .verified)
    (running : ∀ row name, (change row).status = .running → (change row).operationId = some name →
      operation = some name) :
    Recorded (database.updateApp run app Database.mayAttempt change).backupApps
      (database.updateApp run app Database.mayAttempt change).runs
      (log ++ [.attempted run app operation]) := by
  obtain ⟨target, member, meets⟩ := List.any_eq_true.mp updates
  simp only [Bool.and_eq_true, decide_eq_true_eq] at meets
  obtain ⟨⟨rfl, rfl⟩, eligible⟩ := meets
  have known : target.runId < database.runs := by
    obtain ⟨apps, timeoutMs, time, created⟩ := recorded.origin target member
    exact (recorded.frozen _ _ _ _ created).1
  have changed : ∀ row ∈ database.backupApps,
      Entry (log ++ (some (.attempted target.runId target.appId operation) : Option Record).toList)
        (Database.revise target.runId target.appId Database.mayAttempt change row) := by
    intro row found
    have entry := recorded.entries row found
    unfold Database.revise
    split
    · rename_i meets
      have below : row.attempts < 3 := by
        have parts := meets.2.2
        simp only [Database.mayAttempt, Bool.and_eq_true, decide_eq_true_eq] at parts
        exact parts.2
      refine ⟨?_, ?_, ?_, ?_⟩
      · rw [counts]
        exact below
      · rw [counts, (same row).1, (same row).2, List.countP_append, entry.count]
        simp [attemptOf, meets.1, meets.2.1]
      · exact fun verified => absurd verified (unverified row)
      · intro runs name named
        rw [(same row).1, (same row).2, meets.1, meets.2.1, running row name runs named]
        simp
    · rename_i fails
      apply entry.grow
      intro record joined
      rw [List.mem_singleton.mp joined]
      by_contra counted
      simp only [attemptOf, Bool.not_eq_false, Bool.and_eq_true, decide_eq_true_eq] at counted
      have itself : row = target :=
        List.inj_on_of_nodup_map recorded.keys found member (by rw [counted.1, counted.2])
      exact fails ⟨counted.1.symm, counted.2.symm, itself ▸ eligible⟩
  have calm : ∀ record, (some (.attempted target.runId target.appId operation) : Option Record) =
      some record → Calm database.runs log record := by
    intro record joined
    rw [← Option.some.inj joined]
    exact ⟨known, requested⟩
  have extended := recorded.extend (revise_key same) changed calm
  simpa [Database.updateApp] using extended

theorem frozenApps_names (run : Nat) (apps : List RankedApp) :
    (Database.frozenApps run apps).map (·.appId) = apps.map (·.appId) := by
  unfold Database.frozenApps
  apply List.ext_getElem
  · simp
  · simp

theorem frozenApps_row {apps : List RankedApp} {row : BackupApp}
    (member : row ∈ Database.frozenApps run apps) :
    row.runId = run ∧ row.status = .pending ∧ row.attempts = 0 := by
  obtain ⟨index, bound, rfl⟩ := List.mem_mapIdx.mp member
  exact ⟨rfl, rfl, rfl⟩

theorem Recorded.create {runs : Nat} (recorded : Recorded rows runs log) {apps : List RankedApp}
    (some : apps ≠ []) (distinct : (apps.map (·.appId)).Nodup) (timeoutMs time : Nat) :
    Recorded (rows ++ Database.frozenApps runs apps) (runs + 1)
      (log ++ [.created runs (apps.map (·.appId)) timeoutMs time]) := by
  have older : ∀ row ∈ rows, row.runId < runs := by
    intro row member
    obtain ⟨_, _, _, created⟩ := recorded.origin row member
    exact (recorded.frozen _ _ _ _ created).1
  have kept : ∀ {record}, record ∈ log →
      record ∈ log ++ [.created runs (apps.map (·.appId)) timeoutMs time] :=
    fun member => List.mem_append_left _ member
  have before : ∀ {record}, record ∈ log ++ [.created runs (apps.map (·.appId)) timeoutMs time] →
      record ≠ .created runs (apps.map (·.appId)) timeoutMs time → record ∈ log := by
    intro record member other
    rcases List.mem_append.mp member with old | new
    · exact old
    · exact absurd (List.mem_singleton.mp new) other
  have untried : ∀ app, log.countP (attemptOf runs app) = 0 := by
    intro app
    apply List.countP_eq_zero.mpr
    intro record member counted
    cases record with
    | attempted run name operation =>
        simp only [attemptOf, Bool.and_eq_true, decide_eq_true_eq] at counted
        have less := recorded.counted run name operation member
        omega
    | _ => cases counted
  constructor
  · rw [List.map_append]
    apply List.Nodup.append recorded.keys
    · have names : (Database.frozenApps runs apps).map (fun row => (row.runId, row.appId)) =
          (apps.map (·.appId)).map fun app => (runs, app) := by
        rw [← frozenApps_names runs apps, List.map_map]
        apply List.map_congr_left
        intro row member
        rw [(frozenApps_row member).1]
        rfl
      rw [names]
      exact distinct.map fun _ _ same => (Prod.mk.inj same).2
    · intro key left right
      obtain ⟨old, found, rfl⟩ := List.mem_map.mp left
      obtain ⟨new, added, same⟩ := List.mem_map.mp right
      have less := older old found
      have equal := (frozenApps_row added).1
      have runsSame := (Prod.mk.inj same).1
      omega
  · intro row member
    rcases List.mem_append.mp member with old | new
    · exact (recorded.entries row old).grow (by simp [attemptOf])
    · obtain ⟨sameRun, pending, none⟩ := frozenApps_row new
      refine ⟨by rw [none]; exact Nat.zero_le _, ?_, ?_, ?_⟩
      · rw [none, sameRun, List.countP_append, untried]
        simp [attemptOf]
      · intro verified
        rw [pending] at verified
        cases verified
      · intro running
        rw [pending] at running
        cases running
  · intro row member
    rcases List.mem_append.mp member with old | new
    · obtain ⟨names, limit, since, created⟩ := recorded.origin row old
      exact ⟨names, limit, since, kept created⟩
    · rw [(frozenApps_row new).1]
      exact ⟨_, _, _, List.mem_append_right _ (List.mem_singleton_self _)⟩
  · intro run names limit since member
    rcases List.mem_append.mp member with old | new
    · obtain ⟨less, nonempty, same⟩ := recorded.frozen run names limit since old
      have others : (Database.frozenApps runs apps).filter (fun row => row.runId = run) = [] := by
        apply List.filter_eq_nil_iff.mpr
        intro row added
        have equal := (frozenApps_row added).1
        simp only [decide_eq_true_eq]
        omega
      refine ⟨by omega, nonempty, ?_⟩
      rw [List.filter_append, others, List.append_nil]
      exact same
    · obtain ⟨rfl, rfl, rfl, rfl⟩ := Record.created.inj (List.mem_singleton.mp new)
      have none : rows.filter (fun row => row.runId = run) = [] := by
        apply List.filter_eq_nil_iff.mpr
        intro row found
        have less := older row found
        simp only [decide_eq_true_eq]
        omega
      have all : (Database.frozenApps run apps).filter (fun row => row.runId = run) =
          Database.frozenApps run apps := by
        apply List.filter_eq_self.mpr
        intro row added
        simp [(frozenApps_row added).1]
      refine ⟨by omega, by simpa using some, ?_⟩
      rw [List.filter_append, none, all, List.nil_append, frozenApps_names]
  · intro run app operation member
    have less := recorded.counted run app operation (before member (by simp))
    omega
  · intro run app operation member
    obtain ⟨mode, requested⟩ := recorded.requested run app operation (before member (by simp))
    exact ⟨mode, kept requested⟩
  · intro run app mode operation member
    obtain ⟨complete, answered, chosen⟩ :=
      recorded.asked run app mode operation (before member (by simp))
    exact ⟨complete, kept answered, chosen⟩
  · intro early late run frozen request split
    rcases split_snoc split with ⟨rfl, impossible⟩ | ⟨rest, earlier⟩
    · cases impossible
    · exact recorded.applied early rest run frozen request earlier

def World.Recorded (world : World) : Prop :=
  Lifecycle.Recorded world.database.backupApps world.database.runs world.log

def Licensed : Op → World → Prop
  | .startBackup run app mode, world =>
      ∃ complete, .baseline run app complete ∈ world.log ∧ mode = modeOf complete
  | .markAppRunning run app operation, world =>
      ∃ mode, .requested run app mode operation ∈ world.log
  | .markAppVerified run app bundle commit, world => Evidence world.log run app bundle commit
  | .apply run _, world => world.database.allAppsVerified run = true
  | _, _ => True

theorem allAppsVerified_rows {database : Database}
    (verified : database.allAppsVerified run = true) :
    database.appsOf run ≠ [] ∧ ∀ row ∈ database.appsOf run, row.status = .verified := by
  simp only [Database.allAppsVerified, Bool.and_eq_true, decide_eq_true_eq] at verified
  obtain ⟨positive, all⟩ := verified
  constructor
  · intro empty
    rw [empty] at positive
    cases positive
  · intro row member
    have each := List.countP_eq_length.mp all.symm row member
    simpa using each

theorem Recorded.justified {database : Database}
    (recorded : Recorded database.backupApps database.runs log)
    (verified : database.allAppsVerified run = true) : Justified log run (database.appsOf run) := by
  obtain ⟨nonempty, all⟩ := allAppsVerified_rows verified
  refine ⟨nonempty, ?_, ?_⟩
  · obtain ⟨row, member⟩ := List.exists_mem_of_ne_nil _ nonempty
    obtain ⟨stored, sameRun⟩ := List.mem_filter.mp member
    obtain ⟨apps, timeoutMs, time, created⟩ := recorded.origin row stored
    rw [of_decide_eq_true sameRun] at created
    exact ⟨apps, timeoutMs, time, created, (recorded.frozen _ _ _ _ created).2.2⟩
  · intro row member
    obtain ⟨stored, sameRun⟩ := List.mem_filter.mp member
    have entry := recorded.entries row stored
    have same : row.runId = run := of_decide_eq_true sameRun
    obtain ⟨bundle, commit, first, second, evidence⟩ := entry.backed (all row member)
    rw [same] at evidence
    exact ⟨same, all row member, entry.limit, bundle, commit, first, second, evidence⟩

theorem putUsage_rows (database : Database) (row : RankedApp) :
    (database.putUsage row).backupApps = database.backupApps ∧
      (database.putUsage row).runs = database.runs := by
  unfold Database.putUsage
  split <;> exact ⟨rfl, rfl⟩

theorem World.Recorded.of_same {world later : World} (recorded : world.Recorded)
    (rows : later.database.backupApps = world.database.backupApps)
    (runs : later.database.runs = world.database.runs) (log : later.log = world.log) :
    later.Recorded := by
  unfold World.Recorded
  rw [rows, runs, log]
  exact recorded

theorem World.Recorded.noted {record : Record} (recorded : world.Recorded)
    (calm : Calm world.database.runs world.log record)
    (quiet : ∀ run app, attemptOf run app record = false) : (world.note record).Recorded :=
  Lifecycle.Recorded.note recorded calm quiet

theorem World.Recorded.updated (recorded : world.Recorded) {app : String}
    {condition : BackupApp → Bool} (change : BackupApp → BackupApp)
    (same : ∀ row, (change row).runId = row.runId ∧ (change row).appId = row.appId)
    (entries : ∀ row ∈ world.database.backupApps, row.runId = run → row.appId = app →
      Entry world.log (change row)) :
    (world.setDatabase (world.database.updateApp run app condition change)).Recorded :=
  Lifecycle.Recorded.update recorded same entries

theorem recorded_create (recorded : world.Recorded) (apps : List RankedApp) :
    (world.createRun apps).2.Recorded := by
  rcases createRun_cases world apps with ⟨error, same⟩ | ⟨nonempty, _, distinct, same⟩
  · rw [same]
    exact recorded
  · rw [same]
    exact Recorded.create recorded nonempty distinct _ _

theorem recorded_act (op : Op) (licensed : Licensed op world) (recorded : world.Recorded) :
    (act op world).2.Recorded := by
  cases op with
  | boot config => exact recorded.noted trivial fun _ _ => rfl
  | writeConfig config =>
      simp only [act]
      rcases writeConfig_cases world config with ⟨_, same⟩ | ⟨_, same⟩ | ⟨_, same⟩
      · rw [same]
        exact recorded
      · rw [same]
        exact recorded
      · rw [same]
        exact recorded.noted trivial fun _ _ => rfl
  | latchTimeoutIfElapsed timeoutMs =>
      simp only [act]
      rcases latchTimeoutIfElapsed_cases world timeoutMs with
        ⟨_, same⟩ | ⟨_, _, same⟩ | ⟨_, _, same⟩ <;> rw [same] <;> exact recorded
  | resetForMonitoring => exact recorded.noted trivial fun _ _ => rfl
  | recordActivity source =>
      simp only [act]
      rcases recordActivity_cases world source with same | same | same
      · rw [same]
        exact recorded
      · rw [same]
        exact recorded.noted trivial fun _ _ => rfl
      · rw [same]
        exact recorded
  | initializeMonitoring enabled =>
      simp only [act]
      rcases initializeMonitoring_cases world.database enabled with ⟨_, same⟩ | ⟨_, same⟩ <;>
        rw [same] <;> exact recorded
  | resetTerminalFailure =>
      simp only [act]
      rcases resetTerminalFailure_cases world with ⟨_, same⟩ | ⟨_, same⟩
      · rw [same]
        exact recorded
      · rw [same]
        exact recorded.noted trivial fun _ _ => rfl
  | recordActiveSession session app runtimeMs now =>
      obtain ⟨rows, runs⟩ := putUsage_rows world.database _
      exact recorded.of_same rows runs rfl
  | recordForeground app foregroundMs now =>
      obtain ⟨rows, runs⟩ := putUsage_rows world.database _
      exact recorded.of_same rows runs rfl
  | createRun apps => exact recorded_create recorded apps
  | markShutdownStarted run =>
      simp only [act, Database.markShutdownStarted]
      split <;> exact recorded
  | completeRun run =>
      simp only [act, Database.completeRun]
      split <;> exact recorded
  | markAppRunning run app operation =>
      rcases markAppRunning_cases world run app operation with
        ⟨_, error, same⟩ | ⟨updates, same⟩
      · rw [same]
        exact recorded
      · rw [same]
        have requested : ∀ name, some operation = some name →
            ∃ mode, .requested run app mode name ∈ world.log := by
          intro name named
          rw [← Option.some.inj named]
          exact licensed
        exact Recorded.attempt recorded requested updates (fun _ => ⟨rfl, rfl⟩) (fun _ => rfl)
          (fun _ named => by cases named) (fun _ _ _ named => named)
  | recordStartFailure run app error =>
      rcases recordStartFailure_cases world run app error with
        ⟨_, message, same⟩ | ⟨updates, same⟩
      · rw [same]
        exact recorded
      · rw [same]
        exact Recorded.attempt recorded (fun _ named => by cases named) updates
          (fun _ => ⟨rfl, rfl⟩) (fun _ => rfl) (fun _ named => by cases named) (fun _ _ _ named => named)
  | markAppPendingRetry run app error =>
      apply recorded.updated (Database.pendingRow error) fun _ => ⟨rfl, rfl⟩
      intro row member _ _
      have entry := recorded.entries row member
      refine ⟨entry.limit, entry.count, ?_, ?_⟩
      · intro named
        cases named
      · intro named
        cases named
  | markAppFailed run app error =>
      apply recorded.updated (Database.failedRow error) fun _ => ⟨rfl, rfl⟩
      intro row member _ _
      have entry := recorded.entries row member
      refine ⟨entry.limit, entry.count, ?_, ?_⟩
      · intro named
        cases named
      · intro named
        cases named
  | markAppVerified run app bundle commit =>
      apply recorded.updated (Database.verifiedRow bundle commit) fun _ => ⟨rfl, rfl⟩
      intro row member sameRun sameApp
      have entry := recorded.entries row member
      refine ⟨entry.limit, entry.count, fun _ => ⟨bundle, commit, rfl, rfl, ?_⟩,
        fun named => by cases named⟩
      show Evidence world.log row.runId row.appId bundle commit
      rw [sameRun, sameApp]
      exact licensed
  | hasCompleteBaseline run app => exact recorded.noted trivial fun _ _ => rfl
  | startBackup run app mode => exact recorded.noted licensed fun _ _ => rfl
  | operationStatus operation => exact recorded.noted trivial fun _ _ => rfl
  | verifyBackupCommit app bundle commit => exact recorded.noted trivial fun _ _ => rfl
  | apply run request => exact recorded.noted (Recorded.justified recorded licensed) fun _ _ => rfl
  | _ => exact recorded

def Grew (before after : World) : Prop := ∃ more, after.log = before.log ++ more

theorem Grew.refl (world : World) : Grew world world := ⟨[], by simp⟩

theorem Grew.trans {first second third : World} (one : Grew first second)
    (two : Grew second third) : Grew first third := by
  obtain ⟨more, same⟩ := one
  obtain ⟨rest, later⟩ := two
  exact ⟨more ++ rest, by rw [later, same, List.append_assoc]⟩

theorem Grew.mem {before after : World} (grew : Grew before after) {record : Record}
    (member : record ∈ before.log) : record ∈ after.log := by
  obtain ⟨more, same⟩ := grew
  rw [same]
  exact List.mem_append_left _ member

theorem grew_act (op : Op) (world : World) : Grew world (act op world).2 := by
  have noted : ∀ (later : World) (record : Record), later.log = world.log ++ [record] →
      Grew world later := fun later record same => ⟨[record], same⟩
  have same : ∀ later : World, later.log = world.log → Grew world later :=
    fun later same => ⟨[], by simp [same]⟩
  cases op with
  | boot config => exact noted _ _ rfl
  | writeConfig config =>
      simp only [act]
      rcases writeConfig_cases world config with ⟨_, moved⟩ | ⟨_, moved⟩ | ⟨_, moved⟩ <;> rw [moved]
      · exact same _ rfl
      · exact same _ rfl
      · exact noted _ _ rfl
  | latchTimeoutIfElapsed timeoutMs =>
      simp only [act]
      rcases latchTimeoutIfElapsed_cases world timeoutMs with
        ⟨_, moved⟩ | ⟨_, _, moved⟩ | ⟨_, _, moved⟩ <;> rw [moved] <;> exact same _ rfl
  | resetForMonitoring => exact noted _ _ rfl
  | recordActivity source =>
      simp only [act]
      rcases recordActivity_cases world source with moved | moved | moved <;> rw [moved]
      · exact same _ rfl
      · exact noted _ _ rfl
      · exact same _ rfl
  | resetTerminalFailure =>
      simp only [act]
      rcases resetTerminalFailure_cases world with ⟨_, moved⟩ | ⟨_, moved⟩ <;> rw [moved]
      · exact same _ rfl
      · exact noted _ _ rfl
  | createRun apps =>
      simp only [act]
      rcases createRun_cases world apps with ⟨_, moved⟩ | ⟨_, _, _, moved⟩ <;> rw [moved]
      · exact same _ rfl
      · exact noted _ _ rfl
  | markAppRunning run app operation =>
      rcases markAppRunning_cases world run app operation with
        ⟨_, _, moved⟩ | ⟨_, moved⟩ <;> rw [moved]
      · exact same _ rfl
      · exact noted _ _ rfl
  | recordStartFailure run app error =>
      rcases recordStartFailure_cases world run app error with
        ⟨_, _, moved⟩ | ⟨_, moved⟩ <;> rw [moved]
      · exact same _ rfl
      · exact noted _ _ rfl
  | hasCompleteBaseline run app => exact noted _ _ rfl
  | startBackup run app mode => exact noted _ _ rfl
  | operationStatus operation => exact noted _ _ rfl
  | verifyBackupCommit app bundle commit => exact noted _ _ rfl
  | apply run request => exact noted _ _ rfl
  | _ => exact same _ rfl

theorem grew_reply {op : Op} {before after : World} {reply : Except String op.Ret}
    (replied : Reply handler op before reply after) : Grew before after := by
  rcases replied.state_cases with rfl | rfl
  · exact Grew.refl _
  · exact grew_act op before

theorem recorded_reply {op : Op} {before after : World} {reply : Except String op.Ret}
    (licensed : Licensed op before) (recorded : before.Recorded)
    (replied : Reply handler op before reply after) : after.Recorded := by
  rcases replied.state_cases with rfl | rfl
  · exact recorded
  · exact recorded_act op licensed recorded

/-- What the tasks beside the evaluation loop leave alone. -/
def Beside (before after : World) : Prop :=
  after.database.backupApps = before.database.backupApps ∧ Grew before after

def mainTerms : Terms interface String World where
  rely := Beside
  allow before _ _ := before.Recorded
  guarantee before after := after.Recorded ∧ Grew before after
  rely_refl world := ⟨rfl, Grew.refl world⟩
  rely_trans _ _ _ one two := ⟨two.1.trans one.1, one.2.trans two.2⟩

def taskTerms : Terms interface String World where
  rely _ _ := True
  allow before _ _ := before.Recorded
  guarantee before after := after.Recorded ∧ Beside before after
  rely_refl _ := trivial
  rely_trans _ _ _ _ _ := trivial

def Unlicensed (op : Op) : Prop := ∀ world, Licensed op world

def Op.beside : Op → Bool
  | .loadConfig | .writeConfig _ | .resetTerminalFailure | .initializeMonitoring _
  | .resetForMonitoring | .snapshot | .readConfig | .recordActivity _ => true
  | _ => false

theorem Op.unlicensed_of_beside {op : Op} (aside : op.beside = true) : Unlicensed op := by
  cases op <;> first | exact fun _ => trivial | cases aside

theorem beside_act {op : Op} (aside : op.beside = true) (world : World) :
    Beside world (act op world).2 := by
  refine ⟨?_, grew_act op world⟩
  cases op with
  | loadConfig => rfl
  | snapshot => rfl
  | readConfig => rfl
  | resetForMonitoring => rfl
  | writeConfig config =>
      simp only [act]
      rcases writeConfig_cases world config with ⟨_, moved⟩ | ⟨_, moved⟩ | ⟨_, moved⟩ <;> rw [moved]
  | recordActivity source =>
      simp only [act]
      rcases recordActivity_cases world source with moved | moved | moved <;> rw [moved]
  | initializeMonitoring enabled =>
      simp only [act]
      rcases initializeMonitoring_cases world.database enabled with ⟨_, moved⟩ | ⟨_, moved⟩ <;>
        rw [moved] <;> rfl
  | resetTerminalFailure =>
      simp only [act]
      rcases resetTerminalFailure_cases world with ⟨_, moved⟩ | ⟨_, moved⟩ <;> rw [moved]
  | _ => cases aside

section Uses

variable {α : Type} {ops : Op → Prop} {op : Op} {post : α → Prop}

/-- The program only makes requests among `ops`. -/
def Makes (ops : Op → Prop) (program : Agent α) : Prop :=
  Prog.Uses (I := interface) ops (fun _ => True) (fun _ => True) program

theorem makes_request (used : ops op) : Makes ops (request op) :=
  Prog.Uses.perform used fun _ _ => trivial

theorem makes_bind {β : Type} {program : Agent β} {next : β → Agent α}
    (first : Makes ops program) (rest : ∀ value, Makes ops (next value)) :
    Makes ops (program >>= next) :=
  Prog.Uses.andThen first rest

theorem makes_then {next : op.Ret → Agent α} (used : ops op)
    (rest : ∀ value, Makes ops (next value)) : Makes ops (request op >>= next) :=
  makes_bind (makes_request used) rest

theorem makes_ite {condition : Prop} [Decidable condition] {yes no : Agent α}
    (left : Makes ops yes) (right : Makes ops no) :
    Makes ops (if condition then yes else no) :=
  Prog.Uses.ite (fun _ => left) fun _ => right

theorem makes_ofExcept (result : Except String α) : Makes ops (Prog.ofExcept result) := by
  cases result <;> trivial

theorem makes_attempt {program : Agent α} (makes : Makes ops program) :
    Makes ops program.attempt :=
  Prog.Uses.weaken (Prog.Uses.attempt makes) (fun _ used => used) (fun _ replied => replied)
    fun _ _ => trivial

end Uses

def Aside (op : Op) : Prop := op.beside = true

theorem reloadConfig_makes : Makes Aside reloadConfig := by
  refine makes_then rfl fun file => makes_bind (makes_ofExcept _) fun config => ?_
  refine makes_then rfl fun newlyEnabled => makes_ite ?_ ?_
  · refine makes_then rfl fun _ => makes_ite ?_ trivial
    exact makes_then rfl fun _ => makes_request rfl
  · exact makes_then rfl fun _ => makes_ite trivial (makes_request rfl)

theorem recordActivity_makes (event : ActivityEvent) : Makes Aside (recordActivity event) := by
  refine makes_ite trivial (makes_ite trivial (makes_ite trivial (makes_ite ?_ ?_)))
  · cases event.magnitude with
    | none => trivial
    | some magnitude => exact makes_then rfl fun _ => makes_ite trivial (makes_request rfl)
  · exact makes_request rfl

theorem serves_makes {task : Agent Unit} (served : Serves task) : Makes Aside task := by
  cases served with
  | reload => exact reloadConfig_makes
  | activity event => exact makes_bind (recordActivity_makes event) fun _ => trivial

theorem task_secure {task : Agent Unit} (served : Serves task) (world : World) :
    Secure handler taskTerms (fun _ _ => True) (fun _ => True) task world := by
  refine Secure.uses (fun _ => True) (serves_makes served) ?_ (fun _ _ _ _ => trivial) trivial
  intro op aside before reply after replied recorded _
  refine ⟨⟨recorded_reply (Op.unlicensed_of_beside aside before) recorded replied, ?_⟩, trivial⟩
  rcases replied.state_cases with rfl | rfl
  · exact ⟨rfl, Grew.refl _⟩
  · exact beside_act aside before

theorem secure_unlicensed {α : Type} {program : Agent α}
    (makes : Makes Unlicensed program) (world : World) :
    Secure handler mainTerms (fun _ _ => True) (fun _ => True) program world := by
  refine Secure.uses (fun _ => True) makes ?_ (fun _ _ _ _ => trivial) trivial
  intro op unlicensed before reply after replied recorded _
  exact ⟨⟨recorded_reply (unlicensed before) recorded replied, grew_reply replied⟩, trivial⟩

theorem secure_request {op : Op} {post : op.Ret → World → Prop}
    (licensed : ∀ before, Beside world before → Licensed op before)
    (succeeds : ∀ before value, Beside world before → before.Recorded →
      (act op before).1 = .ok value → ∀ last, Beside (act op before).2 last → post value last) :
    Secure handler mainTerms post (fun _ => True) (request op) world := by
  apply Secure.perform
  · intro before moved reply after replied recorded
    exact ⟨recorded_reply (licensed before moved) recorded replied, grew_reply replied⟩
  · intro before moved value after replied recorded last moves
    obtain ⟨answered, rfl⟩ := replied.of_ok
    exact succeeds before value moved recorded answered last moves
  · exact fun _ _ _ _ _ _ _ _ => trivial

theorem secure_free {op : Op} (unlicensed : Unlicensed op) (world : World) :
    Secure handler mainTerms (fun _ _ => True) (fun _ => True) (request op) world :=
  secure_unlicensed (makes_request unlicensed) world

theorem secure_remember {α : Type} {program : Agent α} {post : α → World → Prop}
    (known : List Record → Prop) (grows : ∀ log more, known log → known (log ++ more))
    (secure : Secure handler mainTerms post (fun _ => True) program world)
    (holds : known world.log) :
    Secure handler mainTerms (fun value later => post value later ∧ known later.log)
      (fun later => True ∧ known later.log) program world := by
  apply Secure.frame (fun world => known world.log) _ _ secure holds
  · rintro before after ⟨_, more, same⟩ still
    rw [same]
    exact grows _ more still
  · rintro before after ⟨_, more, same⟩ still
    rw [same]
    exact grows _ more still

theorem secure_then {α : Type} {op : Op} {next : op.Ret → Agent α} {post : α → World → Prop}
    (unlicensed : Unlicensed op)
    (rest : ∀ value before, before.Recorded → (act op before).1 = .ok value →
      Beside world before → Grew world (act op before).2 →
      Secure handler mainTerms post (fun _ => True) (next value) (act op before).2) :
    Secure handler mainTerms post (fun _ => True) (request op >>= next) world := by
  apply Secure.bind
  apply secure_request (fun before _ => unlicensed before)
  intro before value moved recorded answered last moves
  have grew := moved.2.trans (grew_act op before)
  exact (rest value before recorded answered moved grew).rely moves

theorem monitorAndVerify_secure (app operation : String) (started polls : Nat) (world : World) :
    Secure handler mainTerms
      (fun ids later => Confirmed later.log app operation ids.1 ids.2) (fun _ => True)
      (monitorAndVerify app operation started polls) world := by
  induction polls generalizing world with
  | zero => exact fun _ _ => trivial
  | succ polls ih =>
      unfold monitorAndVerify
      refine secure_then (fun _ => trivial) ?_
      intro status before _ answered _ _
      have logged : .status operation status ∈ (act (.operationStatus operation) before).2.log := by
        rw [← Except.ok.inj answered]
        exact List.mem_append_right _ (List.mem_singleton_self _)
      generalize (act (.operationStatus operation) before).2 = now at logged
      split
      · rename_i completed
        apply Secure.bind
        apply Secure.ofExcept fun _ _ => trivial
        rintro ⟨bundle, commit⟩ ids later moved
        have logged := moved.2.mem logged
        refine secure_then (fun _ => trivial) ?_
        intro _ _ _ _ _ grew
        have logged := grew.mem logged
        refine secure_then (fun _ => trivial) ?_
        intro verified third _ replied _ grew
        have logged := grew.mem logged
        split
        · rename_i confirmed
          have answer : .verification app bundle commit true ∈
              (act (.verifyBackupCommit app bundle commit) third).2.log := by
            rw [← confirmed, ← Except.ok.inj replied]
            exact List.mem_append_right _ (List.mem_singleton_self _)
          refine secure_then (fun _ => trivial) ?_
          intro _ _ _ _ _ grew last moves
          have grew := grew.trans moves.2
          exact ⟨⟨status, grew.mem logged, completed, ids⟩, grew.mem answer⟩
        · exact fun _ _ => trivial
      · split
        · exact fun _ _ => trivial
        · split
          · refine secure_then (fun _ => trivial) ?_
            intro reading _ _ _ _ _
            split
            · exact fun _ _ => trivial
            · refine secure_then (fun _ => trivial) ?_
              intro _ _ _ _ _ _
              exact ih _
          · exact fun _ _ => trivial

theorem monitor_secure (app operation : String) (world : World) :
    Secure handler mainTerms
      (fun ids later => Confirmed later.log app operation ids.1 ids.2) (fun _ => True)
      (monitor app operation) world := by
  refine secure_then (fun _ => trivial) ?_
  intro started _ _ _ _ _
  exact monitorAndVerify_secure app operation started backupPolls _

theorem follow_secure {app operation : String} {failed : String → Agent Unit}
    (kept : List Record → Prop) (grows : ∀ log more, kept log → kept (log ++ more))
    (holds : kept world.log) (attempted : .attempted run app (some operation) ∈ world.log)
    (fails : ∀ error later, kept later.log →
      Secure handler mainTerms (fun _ _ => True) (fun _ => True) (failed error) later) :
    Secure handler mainTerms (fun _ _ => True) (fun _ => True)
      (follow run app operation failed) world := by
  have remembered := secure_remember
    (fun log => .attempted run app (some operation) ∈ log ∧ kept log)
    (fun log more known => ⟨List.mem_append_left _ known.1, grows log more known.2⟩)
    (monitor_secure app operation world) ⟨attempted, holds⟩
  apply Secure.bind
  apply Secure.attempt (fun later => kept later.log)
  · intro error later known
    exact fails error later known
  · apply remembered.weaken
    · rintro ⟨bundle, commit⟩ later ⟨confirmed, known, _⟩
      apply secure_request
      · intro before moved
        obtain ⟨more, same⟩ := moved.2
        show Evidence before.log run app bundle commit
        rw [same]
        exact Evidence.grow ⟨operation, known, confirmed⟩ more
      · exact fun _ _ _ _ _ _ _ => trivial
    · exact fun later known => known.2.2

theorem startFailed_secure {app error : String} {left : Nat} {retry : Agent Unit}
    {kept : List Record → Prop} (grows : ∀ log more, kept log → kept (log ++ more))
    (holds : kept world.log)
    (retries : ∀ later, kept later.log →
      Secure handler mainTerms (fun _ _ => True) (fun _ => True) retry later) :
    Secure handler mainTerms (fun _ _ => True) (fun _ => True)
      (startFailed run app error left retry) world := by
  refine secure_then (fun _ => trivial) ?_
  intro _ _ _ _ _ grew
  split
  · refine secure_then (fun _ => trivial) ?_
    intro _ _ _ _ _ _ _ _
    trivial
  · apply retries
    obtain ⟨more, same⟩ := grew
    rw [same]
    exact grows _ more holds

theorem backoff_makes (made : Nat) : Makes Unlicensed (backoff made) :=
  makes_ite (makes_request fun _ => trivial) trivial

theorem attempted_of_running {app operation : String} {value : Unit}
    (accepted : (act (.markAppRunning run app operation) world).1 = .ok value) :
    .attempted run app (some operation) ∈ (act (.markAppRunning run app operation) world).2.log := by
  rcases markAppRunning_cases world run app operation with ⟨_, error, moved⟩ | ⟨_, moved⟩
  · rw [moved] at accepted
    cases accepted
  · rw [moved]
    exact List.mem_append_right _ (List.mem_singleton_self _)

theorem backupAttempts_secure (run : Nat) (app : String) (complete : Bool) (left : Nat)
    (answered : .baseline run app complete ∈ world.log) :
    Secure handler mainTerms (fun _ _ => True) (fun _ => True)
      (backupAttempts run app (modeOf complete) left) world := by
  have grows : ∀ log more, Record.baseline run app complete ∈ log →
      Record.baseline run app complete ∈ log ++ more :=
    fun _ _ known => List.mem_append_left _ known
  induction left generalizing world with
  | zero => exact fun _ _ => trivial
  | succ left ih =>
      have paused := secure_remember (fun log => Record.baseline run app complete ∈ log) grows
        (secure_unlicensed (backoff_makes (backupMaxAttempts - (left + 1))) world) answered
      apply Secure.bind
      apply paused.weaken _ fun _ _ => trivial
      rintro _ later ⟨_, answered⟩
      apply Secure.bind
      apply Secure.observe
      · intro before moved reply after replied recorded
        have licence : Licensed (.startBackup run app (modeOf complete)) before :=
          ⟨complete, moved.2.mem answered, rfl⟩
        exact ⟨recorded_reply licence recorded replied, grew_reply replied⟩
      · intro before moved reply after replied recorded last moves
        have answered := moves.2.mem ((grew_reply replied).mem (moved.2.mem answered))
        cases reply with
        | error error => exact startFailed_secure grows answered fun _ known => ih known
        | ok operation =>
            show Secure _ _ _ _ (if _ then _ else _) last
            split
            · exact startFailed_secure grows answered fun _ known => ih known
            · obtain ⟨named, rfl⟩ := replied.of_ok
              have requested : .requested run app (modeOf complete) operation ∈ last.log := by
                apply moves.2.mem
                rw [← Except.ok.inj named]
                exact List.mem_append_right _ (List.mem_singleton_self _)
              apply Secure.bind
              apply secure_request
              · exact fun before moved => ⟨_, moved.2.mem requested⟩
              · intro before _ moved _ accepted later moves
                have answered := moves.2.mem ((grew_act _ before).mem (moved.2.mem answered))
                have attempted := moves.2.mem (attempted_of_running accepted)
                apply follow_secure (fun log => Record.baseline run app complete ∈ log) grows
                  answered attempted
                intro error later answered
                split
                · refine secure_then (fun _ => trivial) ?_
                  intro _ _ _ _ _ grew
                  exact ih (grew.mem answered)
                · refine secure_then (fun _ => trivial) ?_
                  intro _ _ _ _ _ _ _ _
                  trivial

theorem backupFrom_secure (run : Nat) (row : BackupApp) (world : World) :
    Secure handler mainTerms (fun _ _ => True) (fun _ => True) (backupFrom run row) world := by
  refine secure_then (fun _ => trivial) ?_
  intro complete before _ answered _ _
  apply backupAttempts_secure
  rw [← Except.ok.inj answered]
  exact List.mem_append_right _ (List.mem_singleton_self _)

theorem backupAgain_secure (run : Nat) (app : String) (world : World) :
    Secure handler mainTerms (fun _ _ => True) (fun _ => True) (backupAgain run app) world := by
  refine secure_then (fun _ => trivial) ?_
  intro rows _ _ _ _ _
  split
  · exact backupFrom_secure run _ _
  · exact fun _ _ => trivial

def Resumable (run : Nat) (row : BackupApp) (log : List Record) : Prop :=
  row.status = .running → ∀ operation, row.operationId = some operation →
    .attempted run row.appId (some operation) ∈ log

theorem backupApp_secure {row : BackupApp} (resumable : Resumable run row world.log) :
    Secure handler mainTerms (fun _ _ => True) (fun _ => True) (backupApp run row) world := by
  have again : ∀ error later, Secure handler mainTerms (fun _ _ => True) (fun _ => True)
      (do
        request (.markAppPendingRetry run row.appId error)
        backupAgain run row.appId) later := by
    intro error later
    refine secure_then (fun _ => trivial) ?_
    intro _ _ _ _ _ _
    exact backupAgain_secure run row.appId _
  unfold backupApp
  split
  · rename_i running
    cases named : row.operationId with
    | none => exact again _ world
    | some operation =>
        exact follow_secure (fun _ => True) (fun _ _ _ => trivial) trivial
          (resumable running operation named) fun error later _ => again error later
  · exact backupFrom_secure run row world

theorem backupEach_secure (resumable : ∀ row ∈ rows, Resumable run row world.log) :
    Secure handler mainTerms (fun _ _ => True) (fun _ => True) (backupEach run rows) world := by
  induction rows generalizing world with
  | nil => exact fun _ _ => trivial
  | cons row rest ih =>
      have others : ∀ {later : World}, (∀ row ∈ rest, Resumable run row later.log) →
          Secure handler mainTerms (fun _ _ => True) (fun _ => True) (backupEach run rest) later :=
        fun known => ih known
      have left : ∀ row ∈ rest, Resumable run row world.log :=
        fun other member => resumable other (List.mem_cons_of_mem _ member)
      unfold backupEach
      split
      · exact others left
      · have remembered := secure_remember (fun log => ∀ row ∈ rest, Resumable run row log)
          (fun log more known row member running operation named =>
            List.mem_append_left _ (known row member running operation named))
          (backupApp_secure (resumable row List.mem_cons_self)) left
        apply Secure.bind
        apply Secure.attempt (fun _ => True)
        · intro error later _
          refine secure_then (fun _ => trivial) ?_
          intro _ _ _ _ _ _ _ _
          trivial
        · apply remembered.weaken
          · exact fun _ later known => others known.2
          · exact fun _ _ => trivial

def Op.keepsRows : Op → Bool
  | .transition _ _ | .failRun _ _ _ | .sleep _ | .nowUtc | .markShutdownStarted _
  | .completeRun _ | .apply _ _ => true
  | _ => false

theorem beside_act_keepsRows {op : Op} (keeps : op.keepsRows = true) (world : World) :
    Beside world (act op world).2 := by
  refine ⟨?_, grew_act op world⟩
  cases op with
  | transition state error => rfl
  | failRun run state error => rfl
  | sleep durationMs => rfl
  | nowUtc => rfl
  | apply run request => rfl
  | markShutdownStarted run =>
      simp only [act, Database.markShutdownStarted]
      split <;> rfl
  | completeRun run =>
      simp only [act, Database.completeRun]
      split <;> rfl
  | _ => cases keeps

theorem Beside.trans {first second third : World} (one : Beside first second)
    (two : Beside second third) : Beside first third :=
  mainTerms.rely_trans _ _ _ one two

theorem Beside.cleared {before after : World} (beside : Beside before after)
    (cleared : before.database.allAppsVerified run = true) :
    after.database.allAppsVerified run = true := by
  unfold Database.allAppsVerified Database.appsOf at cleared ⊢
  rw [beside.1]
  exact cleared

theorem secure_keeping {α : Type} {op : Op} {next : op.Ret → Agent α} {post : α → World → Prop}
    (keeps : op.keepsRows = true) (unlicensed : Unlicensed op)
    (rest : ∀ value later, Beside world later →
      Secure handler mainTerms post (fun _ => True) (next value) later) :
    Secure handler mainTerms post (fun _ => True) (request op >>= next) world := by
  refine secure_then unlicensed ?_
  intro value before _ _ moved _
  exact rest value _ (moved.trans (beside_act_keepsRows keeps before))

theorem waitForRetry_secure (lastError : Option String) (pause : Option Nat) (world : World) :
    Secure handler mainTerms (fun _ later => Beside world later) (fun _ => True)
      (waitForRetry lastError pause) world := by
  cases pause with
  | none => exact fun _ moved => moved
  | some durationMs =>
      refine secure_keeping rfl (fun _ => trivial) ?_
      intro _ later moved
      apply secure_request (by exact fun _ _ => trivial)
      intro before _ moves _ _ last moved'
      exact (moved.trans moves).trans ((beside_act_keepsRows rfl before).trans moved')

theorem shutdown_secure (config : Config) (capability : StorageCapability)
    (pauses : List (Option Nat)) (lastError : Option String)
    (cleared : world.database.allAppsVerified run = true) :
    Secure handler mainTerms (fun _ _ => True) (fun _ => True)
      (shutdown run config capability pauses lastError) world := by
  induction pauses generalizing world lastError with
  | nil => exact secure_free (by exact fun _ => trivial) world
  | cons pause rest ih =>
      unfold shutdown
      apply Secure.bind
      apply (waitForRetry_secure lastError pause world).weaken _ fun _ _ => trivial
      intro _ later moved
      have cleared := moved.cleared cleared
      refine secure_keeping rfl (fun _ => trivial) ?_
      intro now later moved
      have cleared := moved.cleared cleared
      split
      · exact secure_free (by exact fun _ => trivial) later
      · refine secure_keeping rfl (fun _ => trivial) ?_
        intro _ later moved
        have cleared := moved.cleared cleared
        apply Secure.bind
        apply Secure.observe
        · intro before moved reply after replied recorded
          refine ⟨recorded_reply ?_ recorded replied, grew_reply replied⟩
          exact moved.cleared cleared
        · intro before moved reply after replied recorded last moves
          cases reply with
          | ok _ => exact secure_free (by exact fun _ => trivial) last
          | error error =>
              apply ih
              apply moves.cleared
              rcases replied.state_cases with rfl | rfl
              · exact moved.cleared cleared
              · exact (beside_act_keepsRows rfl before).cleared (moved.cleared cleared)

theorem loadAndValidate_makes (config : Config) : Makes Unlicensed (loadAndValidate config) := by
  refine makes_then (fun _ => trivial) fun now => makes_then (fun _ => trivial) fun capability => ?_
  exact makes_bind (makes_ofExcept _) fun _ => trivial

theorem executeRun_secure (run : Nat) (config : Config) (world : World) :
    Secure handler mainTerms (fun _ _ => True) (fun _ => True) (executeRun run config) world := by
  unfold executeRun
  apply Secure.bind
  apply (secure_unlicensed (makes_attempt (loadAndValidate_makes config)) world).weaken _
    fun _ _ => trivial
  intro loaded later _
  cases loaded with
  | error error => exact secure_free (by exact fun _ => trivial) later
  | ok capability =>
      refine secure_then (fun _ => trivial) ?_
      intro rows before recorded answered _ _
      have resumable : ∀ row ∈ rows, Resumable run row before.log := by
        intro row member running operation named
        rw [← Except.ok.inj answered] at member
        obtain ⟨stored, sameRun⟩ := List.mem_filter.mp member
        have same : row.runId = run := of_decide_eq_true sameRun
        rw [← same]
        exact (recorded.entries row stored).running running operation named
      apply Secure.bind
      apply (backupEach_secure resumable).weaken _ fun _ _ => trivial
      intro backedUp later _
      split
      · refine secure_then (fun _ => trivial) ?_
        intro verified before _ answered _ _
        split
        · rename_i cleared
          apply shutdown_secure
          rw [← cleared]
          exact Except.ok.inj answered
        · exact secure_free (by exact fun _ => trivial) _
      · exact fun _ _ => trivial

end Runs

variable (ignored : List Char → Bool)

theorem recordSessions_makes (candidates : List String) (elapsed now : Nat)
    (sessions : List (String × String)) :
    Makes Unlicensed (recordSessions ignored candidates elapsed now sessions) := by
  induction sessions with
  | nil => trivial
  | cons entry rest ih =>
      exact makes_ite (makes_then (fun _ => trivial) fun _ => ih) ih

theorem updateUsage_makes : Makes Unlicensed (updateUsage ignored) := by
  refine makes_then (fun _ => trivial) fun elapsed => makes_ite trivial ?_
  refine makes_then (fun _ => trivial) fun sessions => makes_then (fun _ => trivial) fun apps => ?_
  refine makes_then (fun _ => trivial) fun _ => makes_then (fun _ => trivial) fun now => ?_
  refine makes_bind (recordSessions_makes ignored apps elapsed now sessions) fun _ => ?_
  refine makes_then (fun _ => trivial) fun pid => ?_
  cases pid with
  | none => trivial
  | some pid =>
      refine makes_then (fun _ => trivial) fun app => ?_
      cases app with
      | none => trivial
      | some app => exact makes_ite (makes_request fun _ => trivial) trivial

theorem validatedRankedApps_makes (limit : Nat) :
    Makes Unlicensed (validatedRankedApps ignored limit) := by
  refine makes_then (fun _ => trivial) fun apps => makes_then (fun _ => trivial) fun _ => ?_
  exact makes_then (fun _ => trivial) fun _ => makes_then (fun _ => trivial) fun _ => trivial

theorem beginRun_secure (config : Config) (world : World) :
    Secure handler mainTerms (fun _ _ => True) (fun _ => True) (beginRun ignored config) world := by
  refine secure_then (fun _ => trivial) fun _ _ _ _ _ _ => ?_
  refine secure_then (fun _ => trivial) fun _ _ _ _ _ _ => ?_
  apply Secure.bind
  apply (secure_unlicensed (makes_attempt (validatedRankedApps_makes ignored _)) _).weaken _
    fun _ _ => trivial
  intro selected later _
  cases selected with
  | error error => exact secure_free (by exact fun _ => trivial) later
  | ok apps =>
      show Secure _ _ _ _ (if _ then _ else _) later
      split
      · exact secure_free (by exact fun _ => trivial) later
      · exact secure_then (fun _ => trivial) fun run _ _ _ _ _ => executeRun_secure run config _

theorem evaluate_secure (config : Config) (state : LifecycleState) (activeRunId : Option Nat)
    (world : World) :
    Secure handler mainTerms (fun _ _ => True) (fun _ => True)
      (evaluate ignored config state activeRunId) world := by
  unfold evaluate
  split
  · cases activeRunId with
    | none => exact fun _ _ => trivial
    | some run => exact executeRun_secure run config _
  · split
    · exact fun _ _ => trivial
    · refine secure_then (fun _ => trivial) fun latched _ _ _ _ _ => ?_
      split
      · exact beginRun_secure ignored config _
      · split
        · exact fun _ _ => trivial
        · exact secure_free (by exact fun _ => trivial) _

theorem tick_secure (world : World) :
    Secure handler mainTerms (fun _ _ => True) (fun _ => True) (tick ignored) world := by
  refine secure_then (fun _ => trivial) fun config _ _ _ _ _ => ?_
  split
  · apply Secure.bind
    apply (secure_unlicensed (makes_attempt (updateUsage_makes ignored)) _).weaken _
      fun _ _ => trivial
    intro _ later _
    refine secure_then (fun _ => trivial) ?_
    intro snapshot _ _ _ _ _
    exact evaluate_secure ignored config snapshot.1 snapshot.2 _
  · refine secure_then (fun _ => trivial) ?_
    intro snapshot _ _ _ _ _
    show Secure _ _ _ _ (if _ then _ else _) _
    split
    · exact secure_free (by exact fun _ => trivial) _
    · exact fun _ _ => trivial

theorem startup_makes : Makes Unlicensed startup := by
  refine makes_then (fun _ => trivial) fun file => makes_bind (makes_ofExcept _) fun config => ?_
  refine makes_then (fun _ => trivial) fun _ => makes_then (fun _ => trivial) fun _ => ?_
  exact makes_then (fun _ => trivial) fun _ => makes_ite (makes_request fun _ => trivial) trivial

theorem agent_cooperates : Cooperates handler (plan ignored) Discipline.free World.Recorded
    mainTerms taskTerms where
  startup world _ := secure_unlicensed startup_makes world
  turn world _ := tick_secure ignored world
  task _ served world _ := task_secure served world
  outside before after recorded moved := by
    obtain ⟨outside, elapsed, rfl⟩ := moved
    exact ⟨recorded, ⟨rfl, Grew.refl _⟩, trivial⟩
  halt _ recorded := recorded
  mainAllowed _ _ _ recorded _ := recorded
  taskAllowed _ _ _ _ recorded _ := recorded
  mainKeeps _ _ _ guaranteed := ⟨guaranteed.1, trivial⟩
  taskKeeps _ _ _ guaranteed := ⟨guaranteed.1, guaranteed.2, trivial⟩

/-- The agent's states in every run from a fresh installation, whatever the
services answer and wherever the process stops. -/
def Reached (world : World) (service : Service interface String World) : Prop :=
  Fresh world ∧ Service.Reaches handler (plan ignored) Discipline.free (Service.initial world)
    service

theorem reached_recorded {world : World} {service : Service interface String World}
    (reached : Reached ignored world service) : service.state.Recorded := by
  obtain ⟨⟨database, _, log⟩, reaches⟩ := reached
  apply (guarded_reaches (agent_cooperates ignored) reaches (guarded_initial _)).holds
  unfold World.Recorded
  rw [database, log]
  exact recorded_nil

/-- Whenever the provider is called for a run, every application frozen in the run
is verified, with a bundle and a commit that were reported for an operation of
this run and application and confirmed; a run's applications never change; and
none of them has more than three attempts whose outcome was recorded. -/
theorem applied_after_verified {world : World} {service : Service interface String World}
    (reached : Reached ignored world service) :
    (∀ early late run rows request,
      service.state.log = early ++ .applied run rows request :: late → Justified early run rows) ∧
    (∀ run apps timeoutMs time, .created run apps timeoutMs time ∈ service.state.log →
      apps ≠ [] ∧ (service.state.database.appsOf run).map (·.appId) = apps) ∧
    (∀ row ∈ service.state.database.backupApps, row.attempts ≤ backupMaxAttempts ∧
      row.attempts = service.state.log.countP (attemptOf row.runId row.appId)) := by
  have recorded := reached_recorded ignored reached
  refine ⟨recorded.applied, ?_, ?_⟩
  · intro run apps timeoutMs time created
    exact (recorded.frozen run apps timeoutMs time created).2
  · intro row member
    have entry := recorded.entries row member
    exact ⟨entry.limit, entry.count⟩

namespace Sample

def settings : Settings := { enabled := true, instanceId := 7, inactivitySeconds := 300 }

def capability : StorageCapability where
  version := 1
  instanceId := 7
  profileId := "profile"
  expiresAt := 10
  masterKeyHex := "0123456789abcdef0123456789abcdef0123456789abcdef0123456789abcdef"
  providerApiKey := "key"
  providerInstanceId := 7
  providerAction := .destroy

def completed : OperationStatus where
  state := "COMPLETED"
  detail := [("bundle_id", .text "bundle"), ("commit_id", .text "commit")]

def outside : Outside where
  nowUtc := 1
  configFile := some settings
  capability := capability
  recordsActivity := true
  activeSessions := [("session", "game")]
  candidateAppIds := ["game"]
  foregroundPid := none
  processApp := none
  completeBaseline := false
  startedOperation := "operation"
  operationStatus := completed
  commitVerified := true

def world : World where
  database := {}
  memory := Memory.blank 0
  outside := outside
  now := 0
  log := []

theorem world_fresh : Fresh world := ⟨rfl, rfl, rfl⟩

def noneIgnored (_ : List Char) : Bool := false

abbrev Moves := List (Move (plan noneIgnored))

def elapse (ms : Nat) : Move (plan noneIgnored) :=
  .outside (fun world => { world with now := world.now + ms }) fun world => ⟨world.outside, ms, rfl⟩

def answer (change : Outside → Outside) : Move (plan noneIgnored) :=
  .outside (fun world => { world with outside := change world.outside })
    fun world => ⟨change world.outside, 0, rfl⟩

def proceed (count : Nat) : Moves := List.replicate count (.main .proceed)

def begin : Moves := .start :: proceed 6 ++ [.serve]

def run (moves : Moves) : Service interface String World :=
  (Service.initial world).moves handler moves

theorem run_reached (moves : Moves) : Reached noneIgnored world (run moves) :=
  ⟨world_fresh, moves_reach_free moves (Service.initial world)⟩

/-- The timeout passes, and the tick after it backs the application up and asks
the provider. -/
def whole : Moves := begin ++ [elapse 300000, .turn] ++ proceed 40

def verifiedGame : BackupApp where
  runId := 0
  appId := "game"
  rank := 1
  status := .verified
  attempts := 1
  operationId := some "operation"
  bundleId := some "bundle"
  commitId := some "commit"
  lastError := none

def destroyRequest : ProviderRequest where
  baseUrl := "https://console.vast.ai"
  instanceId := 7
  action := .destroy
  apiKey := "key"

end Sample

theorem applied_after_verified_game :
    ∃ world service early late, Reached Sample.noneIgnored world service ∧
      service.state.log = early ++ .applied 0 [Sample.verifiedGame] Sample.destroyRequest :: late ∧
      Justified early 0 [Sample.verifiedGame] := by
  have reached := Sample.run_reached Sample.whole
  have split : (Sample.run Sample.whole).state.log = (Sample.run Sample.whole).state.log.take 7 ++
      .applied 0 [Sample.verifiedGame] Sample.destroyRequest :: [] := by decide +kernel
  have justified := (applied_after_verified Sample.noneIgnored reached).1 _ _ _ _ _ split
  exact ⟨_, _, _, _, reached, split, justified⟩

def requestOf (run : Nat) (app : String) : Record → Bool
  | .requested other name _ _ => decide (other = run) && decide (name = app)
  | _ => false

namespace Sample

/-- A life of the process that ends between a request and the record of it. -/
def unrecorded (waited requests : Nat) : Moves :=
  begin ++ [elapse waited, .turn] ++ proceed requests ++ [.stop]

def fourRequests : Moves :=
  unrecorded 300000 22 ++ unrecorded 1000 14 ++ unrecorded 1000 14 ++ unrecorded 1000 14

end Sample

/-- A request that the process does not live to record is made again and not counted. -/
theorem requests_not_limited :
    ¬ ∀ world service, Reached Sample.noneIgnored world service → ∀ run app,
      service.state.log.countP (requestOf run app) ≤ backupMaxAttempts := by
  intro always
  have limited := always _ _ (Sample.run_reached Sample.fourRequests) 0 "game"
  have four : (Sample.run Sample.fourRequests).state.log.countP (requestOf 0 "game") = 4 := by
    decide +kernel
  rw [four] at limited
  exact absurd limited (by decide)

/-- All requests to back up the application carry the same mode. -/
def ModeFixed (log : List Record) (run : Nat) (app : String) : Prop :=
  ∀ mode mode' operation operation', .requested run app mode operation ∈ log →
    .requested run app mode' operation' ∈ log → mode = mode'

/-- Where a complete baseline was missing, the operation whose result was verified
before the provider was called is a complete backup. -/
def BaselineVerified (log : List Record) (run : Nat) (app : String) : Prop :=
  .baseline run app false ∈ log → ∀ early late rows request row,
    log = early ++ .applied run rows request :: late → row ∈ rows → row.appId = app →
    ∃ bundle commit operation, row.bundleId = some bundle ∧ row.commitId = some commit ∧
      .attempted run app (some operation) ∈ early ∧
      Confirmed early app operation bundle commit ∧
      .requested run app .completeApplication operation ∈ log

/-- While the state agent's answers for an application of a run agree, the mode of
its backups is fixed. -/
theorem mode_fixed {world : World} {service : Service interface String World}
    (reached : Reached ignored world service) (run : Nat) (app : String)
    (agree : ∀ first second, .baseline run app first ∈ service.state.log →
      .baseline run app second ∈ service.state.log → first = second) :
    ModeFixed service.state.log run app ∧ BaselineVerified service.state.log run app := by
  have recorded := reached_recorded ignored reached
  constructor
  · intro mode mode' operation operation' first second
    obtain ⟨complete, answered, rfl⟩ := recorded.asked run app mode operation first
    obtain ⟨complete', answered', rfl⟩ := recorded.asked run app mode' operation' second
    rw [agree complete complete' answered answered']
  · intro missing early late rows request row split member named
    have justified := recorded.applied early late run rows request split
    obtain ⟨_, _, _, bundle, commit, bundled, committed, operation, attempted, confirmed⟩ :=
      justified.verified row member
    rw [named] at attempted confirmed
    have logged : .attempted run app (some operation) ∈ service.state.log := by
      rw [split]
      exact List.mem_append_left _ attempted
    obtain ⟨mode, requested⟩ := recorded.requested run app operation logged
    obtain ⟨complete, answered, rfl⟩ := recorded.asked run app mode operation requested
    rw [← agree false complete missing answered] at requested
    exact ⟨bundle, commit, operation, bundled, committed, attempted, confirmed, requested⟩

theorem mode_fixed_game :
    ∃ world service, Reached Sample.noneIgnored world service ∧
      .baseline 0 "game" false ∈ service.state.log ∧
      ModeFixed service.state.log 0 "game" ∧ BaselineVerified service.state.log 0 "game" := by
  have reached := Sample.run_reached Sample.whole
  have log : (Sample.run Sample.whole).state.log.all (fun record =>
        record != .baseline 0 "game" true) = true ∧
      .baseline 0 "game" false ∈ (Sample.run Sample.whole).state.log := by decide +kernel
  have never : .baseline 0 "game" true ∉ (Sample.run Sample.whole).state.log := by
    intro member
    have differs := List.all_eq_true.mp log.1 _ member
    simp at differs
  have agree : ∀ first second, .baseline 0 "game" first ∈ (Sample.run Sample.whole).state.log →
      .baseline 0 "game" second ∈ (Sample.run Sample.whole).state.log → first = second := by
    intro first second one two
    cases first with
    | true => exact absurd one never
    | false =>
        cases second with
        | true => exact absurd two never
        | false => rfl
  exact ⟨_, _, reached, log.2, mode_fixed Sample.noneIgnored reached 0 "game" agree⟩

namespace Sample

/-- The process stops after the first request, before it is recorded; by the time
it runs again the state agent has a complete baseline. -/
def interrupted : Moves :=
  begin ++ [elapse 300000, .turn] ++ proceed 22 ++
    [.stop, answer fun outside => { outside with
      completeBaseline := true, startedOperation := "second" }] ++ begin ++
    [elapse 1000, .turn] ++ proceed 40

end Sample

/-- A process that stops in a run may go on in another mode. -/
theorem mode_not_fixed :
    ¬ ∀ world service, Reached Sample.noneIgnored world service → ∀ run app,
      ModeFixed service.state.log run app := by
  intro always
  have fixed := always _ _ (Sample.run_reached Sample.interrupted) 0 "game"
  have both : .requested 0 "game" .completeApplication "operation" ∈
        (Sample.run Sample.interrupted).state.log ∧
      .requested 0 "game" .personalState "second" ∈
        (Sample.run Sample.interrupted).state.log := by decide +kernel
  have same := fixed _ _ _ _ both.1 both.2
  cases same

end Noland.Lifecycle
