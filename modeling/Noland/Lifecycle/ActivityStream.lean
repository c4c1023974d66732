import Mathlib.Data.List.Basic

/-!
A line of more than 4096 bytes is discarded up to its newline. What the recorder answers to an
event, and why a line is no event, is only logged.
-/

namespace Noland.Lifecycle

def maxActivityLineBytes : Nat := 4 * 1024

def newline : UInt8 := 10

inductive ActivityLog (Event : Type) where
  | recorded (event : Event)
  | malformed (line : List UInt8)
  | oversized
  deriving DecidableEq

inductive SocketRead where
  | bytes (chunk : List UInt8)
  | failed
  deriving DecidableEq

structure ActivityReader (Event : Type) where
  line : List UInt8 := []
  discardingOversize : Bool := false
  log : List (ActivityLog Event) := []

section Reader

variable {Event : Type} (parse : List UInt8 → Option Event)

def lineLog (line : List UInt8) : List (ActivityLog Event) :=
  if line.isEmpty then []
  else
    match parse line with
    | some event => [.recorded event]
    | none => [.malformed line]

namespace ActivityReader

def feed (reader : ActivityReader Event) (byte : UInt8) : ActivityReader Event :=
  if byte = newline then
    { line := []
      discardingOversize := false
      log :=
        if reader.discardingOversize then reader.log else reader.log ++ lineLog parse reader.line }
  else if reader.discardingOversize then reader
  else if reader.line.length = maxActivityLineBytes then
    { line := [], discardingOversize := true, log := reader.log ++ [.oversized] }
  else { reader with line := reader.line ++ [byte] }

/-- `read_activity_stream`, from a reader on. -/
def read (reader : ActivityReader Event) : List SocketRead → ActivityReader Event
  | [] => reader
  | .failed :: _ => reader
  | .bytes chunk :: later =>
      if chunk.isEmpty then reader else read (chunk.foldl (feed parse) reader) later

end ActivityReader

/-- `read_activity_stream` -/
def readActivityStream (reads : List SocketRead) : ActivityReader Event :=
  ActivityReader.read parse {} reads

end Reader

def received : List SocketRead → List UInt8
  | [] => []
  | .failed :: _ => []
  | .bytes chunk :: later => if chunk.isEmpty then [] else chunk ++ received later

def recordedEvents {Event : Type} (log : List (ActivityLog Event)) : List Event :=
  log.filterMap fun entry =>
    match entry with
    | .recorded event => some event
    | _ => none

def terminatedLines (stream : List UInt8) : List (List UInt8) :=
  (stream.splitOn newline).dropLast

/-- The events of the lines that are neither empty nor too long. -/
def activityEvents {Event : Type} (parse : List UInt8 → Option Event) (stream : List UInt8) :
    List Event :=
  ((terminatedLines stream).filter fun line =>
    1 ≤ line.length && line.length ≤ maxActivityLineBytes).filterMap parse

section Framing

variable {Event : Type} {parse : List UInt8 → Option Event}

theorem read_eq_foldl (reader : ActivityReader Event) (reads : List SocketRead) :
    reader.read parse reads = (received reads).foldl (ActivityReader.feed parse) reader := by
  induction reads generalizing reader with
  | nil => rfl
  | cons outcome later ih =>
      cases outcome with
      | failed => rfl
      | bytes chunk =>
          simp only [ActivityReader.read, received]
          split
          · rfl
          · rw [ih, List.foldl_append]

theorem recordedEvents_append (log more : List (ActivityLog Event)) :
    recordedEvents (log ++ more) = recordedEvents log ++ recordedEvents more := by
  simp [recordedEvents]

variable {line : List UInt8}

theorem terminatedLines_unfinished (open_line : newline ∉ line) : terminatedLines line = [] := by
  rw [terminatedLines, List.splitOn_eq_singleton open_line]
  rfl

theorem terminatedLines_cons (open_line : newline ∉ line) (rest : List UInt8) :
    terminatedLines (line ++ newline :: rest) = line :: terminatedLines rest := by
  rw [terminatedLines, List.splitOn_append_cons_self, List.splitOn_eq_singleton open_line,
    List.singleton_append, List.dropLast_cons_of_ne_nil (List.splitOn_ne_nil newline rest)]
  rfl

theorem activityEvents_cons (open_line : newline ∉ line) (rest : List UInt8) :
    activityEvents parse (line ++ newline :: rest) =
      (if 1 ≤ line.length ∧ line.length ≤ maxActivityLineBytes then (parse line).toList else []) ++
        activityEvents parse rest := by
  rw [activityEvents, terminatedLines_cons open_line, List.filter_cons]
  by_cases fits : 1 ≤ line.length ∧ line.length ≤ maxActivityLineBytes
  · rw [if_pos fits, if_pos (by simpa using fits), List.filterMap_cons]
    cases parse line with
    | none => rfl
    | some event => rfl
  · rw [if_neg fits, if_neg (by simpa using fits)]
    rfl

theorem recordedEvents_lineLog (short : line.length ≤ maxActivityLineBytes) :
    recordedEvents (lineLog parse line) =
      if 1 ≤ line.length ∧ line.length ≤ maxActivityLineBytes then (parse line).toList else [] := by
  cases line with
  | nil => rfl
  | cons byte rest =>
      rw [if_pos ⟨by simp, short⟩, lineLog, if_neg (by simp)]
      cases parse (byte :: rest) with
      | none => rfl
      | some event => rfl

structure Within (reader : ActivityReader Event) (line : List UInt8) : Prop where
  unfinished : newline ∉ line
  kept : reader.discardingOversize = false →
    reader.line = line ∧ line.length ≤ maxActivityLineBytes
  discarded : reader.discardingOversize = true → maxActivityLineBytes < line.length

theorem within_newline (reader : ActivityReader Event) :
    Within (reader.feed parse newline) [] := by
  rw [ActivityReader.feed, if_pos rfl]
  exact ⟨by simp, fun _ => ⟨rfl, Nat.zero_le _⟩, by simp⟩

theorem Within.recorded {reader : ActivityReader Event} (within : Within reader line) :
    recordedEvents (reader.feed parse newline).log =
      recordedEvents reader.log ++
        if 1 ≤ line.length ∧ line.length ≤ maxActivityLineBytes then (parse line).toList
        else [] := by
  rw [ActivityReader.feed, if_pos rfl]
  cases discarding : reader.discardingOversize with
  | true =>
      have long := within.discarded discarding
      rw [if_pos rfl, if_neg (by omega), List.append_nil]
  | false =>
      obtain ⟨same, short⟩ := within.kept discarding
      rw [← same] at short ⊢
      simp [recordedEvents_append, recordedEvents_lineLog short]

theorem Within.byte {reader : ActivityReader Event} {line : List UInt8}
    (within : Within reader line) {byte : UInt8} (inside : byte ≠ Lifecycle.newline) :
    Within (reader.feed parse byte) (line ++ [byte]) ∧
      recordedEvents (reader.feed parse byte).log = recordedEvents reader.log := by
  have unfinished : Lifecycle.newline ∉ line ++ [byte] := by
    simpa [Ne.symm inside] using within.unfinished
  rw [ActivityReader.feed, if_neg inside]
  cases discarding : reader.discardingOversize with
  | true =>
      have long := within.discarded discarding
      rw [if_pos rfl]
      refine ⟨⟨unfinished, by simp [discarding], fun _ => ?_⟩, rfl⟩
      rw [List.length_append]
      omega
  | false =>
      obtain ⟨same, short⟩ := within.kept discarding
      rw [if_neg (by simp), same]
      split_ifs with full
      · refine ⟨⟨unfinished, by simp, fun _ => ?_⟩, by simp [recordedEvents]⟩
        rw [List.length_append, List.length_singleton]
        omega
      · refine ⟨⟨unfinished, fun _ => ⟨rfl, ?_⟩, by simp⟩, rfl⟩
        rw [List.length_append, List.length_singleton]
        omega

theorem Within.stream {reader : ActivityReader Event} (within : Within reader line)
    (stream : List UInt8) :
    recordedEvents (stream.foldl (ActivityReader.feed parse) reader).log =
      recordedEvents reader.log ++ activityEvents parse (line ++ stream) := by
  induction stream generalizing reader line with
  | nil =>
      rw [List.foldl_nil, List.append_nil, activityEvents,
        terminatedLines_unfinished within.unfinished]
      simp
  | cons byte rest ih =>
      rw [List.foldl_cons]
      by_cases ends : byte = Lifecycle.newline
      · subst ends
        rw [ih (within_newline reader), within.recorded, activityEvents_cons within.unfinished,
          List.nil_append, List.append_assoc]
      · obtain ⟨inside, same⟩ := @Within.byte _ parse _ _ within _ ends
        rw [ih inside, same, List.append_assoc, List.singleton_append]

end Framing

/-- The recorder is given the events of the terminated lines of 1 to 4096 bytes, whatever reads
the stream arrives in. -/
theorem activity_stream_frames {Event : Type} (parse : List UInt8 → Option Event)
    (reads : List SocketRead) :
    recordedEvents (readActivityStream parse reads).log =
        activityEvents parse (received reads) ∧
      ∀ others, received others = received reads →
        (readActivityStream parse others).log = (readActivityStream parse reads).log := by
  have begins : Within ({} : ActivityReader Event) [] :=
    ⟨by simp, fun _ => ⟨rfl, Nat.zero_le _⟩, by simp⟩
  constructor
  · rw [readActivityStream, read_eq_foldl, begins.stream, List.nil_append]
    rfl
  · intro others same
    rw [readActivityStream, readActivityStream, read_eq_foldl, read_eq_foldl, same]

end Noland.Lifecycle
