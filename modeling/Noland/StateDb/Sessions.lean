import Mathlib.Data.List.MinMax
import Mathlib.Data.List.Nodup
import Noland.Core.Manifest

/-!
A session's id is the number of sessions before it instead of a random one. In `session_pids` the
process is the key, so that a process is attached to one session.
-/

namespace Noland.StateDb

open Noland.Core

abbrev Pid := Int

inductive SessionSource where
  | nolandLaunch
  | desktopEntry
  | steam
  | proton
  | wine
  | bottles
  | executableDiscovery
  | installerTransaction
  | manualBinding
  | learned
  deriving DecidableEq

structure AppSession where
  sessionId : Nat
  appId : AppId
  rootPid : Pid
  startedAt : Timestamp
  endedAt : Option Timestamp := none
  source : SessionSource
  deriving DecidableEq

def AppSession.isOpen (session : AppSession) : Bool := session.endedAt.isNone

structure SessionTables where
  appSessions : List AppSession := []
  sessionPids : List (Pid × Nat) := []
  deriving DecidableEq

namespace SessionTables

variable (tables : SessionTables)

def attachPid (sessionId : Nat) (pid : Pid) : SessionTables :=
  { tables with
    sessionPids := tables.sessionPids.filter (fun row => row.1 ≠ pid) ++ [(pid, sessionId)] }

def detachPid (pid : Pid) : SessionTables :=
  { tables with sessionPids := tables.sessionPids.filter fun row => row.1 ≠ pid }

def insertSession (session : AppSession) : SessionTables :=
  ({ tables with appSessions := tables.appSessions ++ [session] } : SessionTables).attachPid
    session.sessionId session.rootPid

def session (sessionId : Nat) : Option AppSession :=
  tables.appSessions.find? fun session => session.sessionId = sessionId

def sessionForPid (pid : Pid) : Option AppSession :=
  (tables.sessionPids.find? fun row => row.1 = pid).bind fun row => tables.session row.2

def pidsOf (sessionId : Nat) : List Pid :=
  (tables.sessionPids.filter fun row => row.2 = sessionId).map Prod.fst

def openSessionForApp (appId : AppId) : Option AppSession :=
  @List.argmax _ _ Int.instLinearOrder.toPreorder Int.decLt AppSession.startedAt
    (tables.appSessions.filter fun session => session.appId = appId && session.isOpen)

def closing (sessionId : Nat) (now : Timestamp) (session : AppSession) : AppSession :=
  if session.sessionId = sessionId then { session with endedAt := some now } else session

def endSession (sessionId : Nat) (now : Timestamp) : SessionTables where
  appSessions := tables.appSessions.map (closing sessionId now)
  sessionPids := tables.sessionPids.filter fun row => row.2 ≠ sessionId

variable {tables}

structure Sound (tables : SessionTables) : Prop where
  numbered : ∀ session ∈ tables.appSessions, session.sessionId < tables.appSessions.length
  distinct : (tables.appSessions.map AppSession.sessionId).Nodup
  single : (tables.sessionPids.map Prod.fst).Nodup
  rows : ∀ row ∈ tables.sessionPids, row.2 < tables.appSessions.length

variable {session : AppSession}

theorem session_mem {sessionId : Nat} (found : tables.session sessionId = some session) :
    session ∈ tables.appSessions ∧ session.sessionId = sessionId := by
  have matched := List.find?_some found
  rw [decide_eq_true_eq] at matched
  exact ⟨List.mem_of_find?_eq_some found, matched⟩

theorem Sound.session_of_mem (sound : tables.Sound) (member : session ∈ tables.appSessions) :
    tables.session session.sessionId = some session := by
  cases found : tables.session session.sessionId with
  | none =>
      have absent := List.find?_eq_none.mp found session member
      simp at absent
  | some other =>
      obtain ⟨otherMember, same⟩ := session_mem found
      rw [List.inj_on_of_nodup_map sound.distinct otherMember member same]

theorem sessionForPid_mem {pid : Pid} (found : tables.sessionForPid pid = some session) :
    session ∈ tables.appSessions ∧ (pid, session.sessionId) ∈ tables.sessionPids := by
  rw [sessionForPid, Option.bind_eq_some_iff] at found
  obtain ⟨row, rowFound, sessionFound⟩ := found
  obtain ⟨member, same⟩ := session_mem sessionFound
  have matched := List.find?_some rowFound
  rw [decide_eq_true_eq] at matched
  have rowMember := List.mem_of_find?_eq_some rowFound
  refine ⟨member, ?_⟩
  rw [same, ← matched]
  exact rowMember

theorem Sound.sessionForPid_of_row (sound : tables.Sound) {pid : Pid}
    (member : session ∈ tables.appSessions) (row : (pid, session.sessionId) ∈ tables.sessionPids) :
    tables.sessionForPid pid = some session := by
  have found : (tables.sessionPids.find? fun row => row.1 = pid) =
      some (pid, session.sessionId) := by
    cases found : tables.sessionPids.find? fun row => row.1 = pid with
    | none =>
        have absent := List.find?_eq_none.mp found _ row
        simp at absent
    | some other =>
        have matched := List.find?_some found
        rw [decide_eq_true_eq] at matched
        have otherRow := List.mem_of_find?_eq_some found
        rw [List.inj_on_of_nodup_map sound.single otherRow row matched]
  rw [sessionForPid, found, Option.bind_some]
  exact sound.session_of_mem member

theorem Sound.mem_pidsOf (sound : tables.Sound) {pid : Pid}
    (member : session ∈ tables.appSessions) :
    pid ∈ tables.pidsOf session.sessionId ↔ tables.sessionForPid pid = some session := by
  rw [pidsOf, List.mem_map]
  constructor
  · rintro ⟨row, row_mem, rfl⟩
    obtain ⟨inTable, same⟩ := List.mem_filter.mp row_mem
    rw [decide_eq_true_eq] at same
    apply sound.sessionForPid_of_row member
    rw [← same]
    exact inTable
  · intro found
    refine ⟨_, List.mem_filter.mpr ⟨(sessionForPid_mem found).2, ?_⟩, rfl⟩
    simp

theorem openSessionForApp_some {appId : AppId}
    (found : tables.openSessionForApp appId = some session) :
    session ∈ tables.appSessions ∧ session.appId = appId ∧ session.isOpen = true := by
  have member := List.mem_filter.mp (List.argmax_mem found)
  rw [Bool.and_eq_true, decide_eq_true_eq] at member
  exact member

theorem openSessionForApp_none {appId : AppId} (absent : tables.openSessionForApp appId = none)
    (member : session ∈ tables.appSessions) (isOpen : session.isOpen = true) :
    session.appId ≠ appId := by
  intro same
  have empty := List.argmax_eq_none.mp absent
  have listed : session ∈ tables.appSessions.filter
      fun session => session.appId = appId && session.isOpen := by
    rw [List.mem_filter]
    simp [same, isOpen, member]
  rw [empty] at listed
  simp at listed

theorem find_filtered (rows : List (Pid × Nat)) (pid other : Pid) :
    ((rows.filter fun row => row.1 ≠ pid).find? fun row => row.1 = other) =
      if other = pid then none else rows.find? fun row => row.1 = other := by
  rw [List.find?_filter]
  split_ifs with same
  · rw [List.find?_eq_none]
    intro row _
    simp [same]
  · congr 1
    funext row
    by_cases hit : row.1 = other
    · have apart : row.1 ≠ pid := by
        rw [hit]
        exact same
      simp [hit, same]
    · simp [hit]

theorem sessionForPid_detachPid (pid other : Pid) :
    (tables.detachPid pid).sessionForPid other =
      if other = pid then none else tables.sessionForPid other := by
  simp only [sessionForPid, detachPid, find_filtered]
  split_ifs with same
  · rfl
  · rfl

theorem sessionForPid_attachPid (sessionId : Nat) (pid other : Pid) :
    (tables.attachPid sessionId pid).sessionForPid other =
      if other = pid then tables.session sessionId else tables.sessionForPid other := by
  simp only [sessionForPid, attachPid, List.find?_append, find_filtered]
  split_ifs with same
  · subst same
    simp [session]
  · have apart : pid ≠ other := fun equal => same equal.symm
    simp [apart, session]

theorem Sound.detachPid (sound : tables.Sound) (pid : Pid) : (tables.detachPid pid).Sound where
  numbered := sound.numbered
  distinct := sound.distinct
  single := sound.single.sublist (List.filter_sublist.map _)
  rows := fun row member => sound.rows row (List.mem_filter.mp member).1

theorem Sound.attachPid (sound : tables.Sound) {sessionId : Nat} (pid : Pid)
    (exists_session : sessionId < tables.appSessions.length) :
    (tables.attachPid sessionId pid).Sound where
  numbered := sound.numbered
  distinct := sound.distinct
  single := by
    simp only [SessionTables.attachPid, List.map_append, List.map_cons, List.map_nil]
    refine List.Nodup.append (sound.single.sublist (List.filter_sublist.map _))
      (List.nodup_singleton pid) ?_
    intro other member here
    rw [List.mem_singleton] at here
    obtain ⟨row, row_mem, same⟩ := List.mem_map.mp member
    have apart := (List.mem_filter.mp row_mem).2
    simp [same, here] at apart
  rows := by
    intro row member
    rcases List.mem_append.mp member with earlier | here
    · exact sound.rows row (List.mem_filter.mp earlier).1
    · rw [List.mem_singleton] at here
      subst here
      exact exists_session

theorem attachPid_detachPid (sessionId : Nat) (pid : Pid) :
    (tables.detachPid pid).attachPid sessionId pid = tables.attachPid sessionId pid := by
  simp only [SessionTables.attachPid, SessionTables.detachPid, List.filter_filter, Bool.and_self]

theorem insertSession_detachPid (session : AppSession) :
    (tables.detachPid session.rootPid).insertSession session = tables.insertSession session := by
  simp only [SessionTables.insertSession, SessionTables.attachPid, SessionTables.detachPid,
    List.filter_filter, Bool.and_self]

def Fresh (tables : SessionTables) (session : AppSession) : Prop :=
  session.sessionId = tables.appSessions.length

theorem Sound.insertSession (sound : tables.Sound) (fresh : tables.Fresh session) :
    (tables.insertSession session).Sound := by
  have later : session.sessionId < (tables.appSessions ++ [session]).length := by
    rw [fresh, List.length_append]
    exact Nat.lt_succ_self _
  have inserted : ({ tables with appSessions := tables.appSessions ++ [session] } :
      SessionTables).Sound := by
    refine ⟨?_, ?_, sound.single, ?_⟩
    · intro other member
      rcases List.mem_append.mp member with earlier | here
      · have bound := sound.numbered other earlier
        rw [List.length_append]
        exact Nat.lt_add_right _ bound
      · rw [List.mem_singleton] at here
        rw [here]
        exact later
    · rw [List.map_append]
      refine List.Nodup.append sound.distinct (List.nodup_singleton _) ?_
      intro id member here
      obtain ⟨other, earlier, rfl⟩ := List.mem_map.mp member
      simp only [List.map_cons, List.map_nil, List.mem_singleton] at here
      have bound := sound.numbered other earlier
      rw [here, fresh] at bound
      exact Nat.lt_irrefl _ bound
    · intro row member
      have bound := sound.rows row member
      rw [List.length_append]
      exact Nat.lt_add_right _ bound
  exact inserted.attachPid session.rootPid later

theorem Sound.session_append (sound : tables.Sound) {added : AppSession}
    (fresh : tables.Fresh added) (sessionId : Nat) :
    ({ tables with appSessions := tables.appSessions ++ [added] } : SessionTables).session
      sessionId =
      if sessionId = added.sessionId then some added else tables.session sessionId := by
  simp only [session, List.find?_append, List.find?_cons, List.find?_nil]
  by_cases same : sessionId = added.sessionId
  · have absent : (tables.appSessions.find? fun session => session.sessionId = sessionId) =
        none := by
      rw [List.find?_eq_none]
      intro other member
      have bound := sound.numbered other member
      rw [← fresh, ← same] at bound
      simp [Nat.ne_of_lt bound]
    rw [if_pos same, absent]
    simp [same]
  · have apart : added.sessionId ≠ sessionId := fun equal => same equal.symm
    simp [same, apart]

theorem Sound.sessionForPid_insertSession (sound : tables.Sound) {added : AppSession}
    (fresh : tables.Fresh added) (pid : Pid) :
    (tables.insertSession added).sessionForPid pid =
      if pid = added.rootPid then some added else tables.sessionForPid pid := by
  rw [SessionTables.insertSession, sessionForPid_attachPid, sound.session_append fresh]
  split_ifs with root
  · rfl
  · rename_i other
    exact absurd rfl other
  · simp only [sessionForPid]
    cases found : tables.sessionPids.find? fun row => row.1 = pid with
    | none => rfl
    | some row =>
        have bound := sound.rows row (List.mem_of_find?_eq_some found)
        rw [Option.bind_some, Option.bind_some, sound.session_append fresh]
        rw [if_neg]
        rw [fresh]
        exact Nat.ne_of_lt bound

@[simp] theorem closing_sessionId (sessionId : Nat) (now : Timestamp) (session : AppSession) :
    (closing sessionId now session).sessionId = session.sessionId := by
  rw [closing]
  split <;> rfl

theorem Sound.endSession (sound : tables.Sound) (sessionId : Nat) (now : Timestamp) :
    (tables.endSession sessionId now).Sound where
  numbered := by
    intro session member
    obtain ⟨earlier, inTable, rfl⟩ := List.mem_map.mp member
    rw [closing_sessionId, SessionTables.endSession, List.length_map]
    exact sound.numbered earlier inTable
  distinct := by
    have same : (AppSession.sessionId ∘ closing sessionId now) = AppSession.sessionId := by
      funext session
      exact closing_sessionId sessionId now session
    rw [SessionTables.endSession, List.map_map, same]
    exact sound.distinct
  single := sound.single.sublist (List.filter_sublist.map _)
  rows := by
    intro row member
    rw [SessionTables.endSession, List.length_map]
    exact sound.rows row (List.mem_filter.mp member).1

theorem Sound.sessionForPid_endSession (sound : tables.Sound)
    (member : session ∈ tables.appSessions) (now : Timestamp) (pid : Pid) :
    (tables.endSession session.sessionId now).sessionForPid pid =
      if tables.sessionForPid pid = some session then none else tables.sessionForPid pid := by
  have ended := sound.endSession session.sessionId now
  cases found : tables.sessionForPid pid with
  | none =>
      rw [if_neg (by simp)]
      cases later : (tables.endSession session.sessionId now).sessionForPid pid with
      | none => rfl
      | some other =>
          exfalso
          obtain ⟨otherMember, row⟩ := sessionForPid_mem later
          obtain ⟨earlier, inTable, rfl⟩ := List.mem_map.mp otherMember
          rw [closing_sessionId] at row
          have before := sound.sessionForPid_of_row inTable (List.mem_filter.mp row).1
          rw [found] at before
          simp at before
  | some attached =>
      obtain ⟨attachedMember, row⟩ := sessionForPid_mem found
      by_cases same : attached = session
      · subst same
        rw [if_pos rfl]
        cases later : (tables.endSession attached.sessionId now).sessionForPid pid with
        | none => rfl
        | some other =>
            exfalso
            obtain ⟨otherMember, laterRow⟩ := sessionForPid_mem later
            obtain ⟨earlier, inTable, rfl⟩ := List.mem_map.mp otherMember
            rw [closing_sessionId] at laterRow
            obtain ⟨earlierRow, apart⟩ := List.mem_filter.mp laterRow
            have before := sound.sessionForPid_of_row inTable earlierRow
            rw [found, Option.some.injEq] at before
            simp [before] at apart
      · rw [if_neg (by simpa using same)]
        have apart : attached.sessionId ≠ session.sessionId := by
          intro equal
          exact same (List.inj_on_of_nodup_map sound.distinct attachedMember member equal)
        have unchanged : closing session.sessionId now attached = attached := if_neg apart
        apply ended.sessionForPid_of_row
        · rw [SessionTables.endSession, List.mem_map]
          exact ⟨attached, attachedMember, unchanged⟩
        · rw [SessionTables.endSession, List.mem_filter]
          exact ⟨row, by simpa using apart⟩

end SessionTables

end Noland.StateDb
