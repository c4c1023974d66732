import Mathlib.Data.List.Basic

/-!
`CommandLineToArgvW` splits a line at blanks outside quotes. Backslashes are kept, except before a
quote, where two of them stand for one and a single one makes the quote part of the argument. The
third of three quotes in a row is part of the argument, too.
-/

namespace Noland.WindowsArguments

def doubleQuote : Char := '\u0022'

def backslash : Char := '\u005c'

/-- What was read so far. `argument` is the one that is being read; the backslashes at its end
are only counted. -/
structure Reader where
  arguments : List (List Char) := []
  argument : Option (List Char) := none
  backslashes : Nat := 0
  quotes : Nat := 0
  afterQuote : Bool := false
  deriving DecidableEq

namespace Reader

variable (reader : Reader)

def text : List Char := reader.argument.getD []

def written : List Char := reader.text ++ List.replicate reader.backslashes backslash

def settled : Reader :=
  { reader with
    quotes := if reader.afterQuote ∧ reader.quotes = 2 then 0 else reader.quotes
    afterQuote := false }

def finish : Reader :=
  match reader.argument with
  | none => reader
  | some _ => { arguments := reader.arguments ++ [reader.written] }

def quoted : Reader :=
  if reader.afterQuote then
    if reader.quotes = 2 then
      { reader with argument := some (reader.text ++ [doubleQuote]), quotes := 0 }
    else { reader with quotes := reader.quotes + 1 }
  else
    let kept := reader.text ++ List.replicate (reader.backslashes / 2) backslash
    if reader.backslashes % 2 = 0 then
      { reader with
        argument := some kept
        backslashes := 0
        quotes := reader.quotes + 1
        afterQuote := true }
    else
      { reader with
        argument := some (kept ++ [doubleQuote])
        backslashes := 0
        afterQuote := true }

def step (c : Char) : Reader :=
  if c = doubleQuote then reader.quoted
  else
    let reader := reader.settled
    if c = backslash then
      { reader with argument := some reader.text, backslashes := reader.backslashes + 1 }
    else if (c = ' ' ∨ c = '\t') ∧ reader.quotes = 0 then reader.finish
    else { reader with argument := some (reader.written ++ [c]), backslashes := 0 }

end Reader

def split (line : List Char) : List (List Char) := (line.foldl Reader.step {}).finish.arguments

structure Holds (reader : Reader) (arguments : List (List Char)) (value : List Char) : Prop where
  arguments : reader.arguments = arguments
  reading : reader.argument.isSome = true
  written : reader.written = value
  outside : reader.settled.quotes = 0

section Holding

variable {reader : Reader} {arguments : List (List Char)} {value : List Char}

theorem Holds.finish (holds : Holds reader arguments value) :
    reader.finish = { arguments := arguments ++ [value] } := by
  obtain ⟨text, reading⟩ := Option.isSome_iff_exists.mp holds.reading
  unfold Reader.finish
  rw [reading, ← holds.arguments, ← holds.written]

theorem Holds.blank (holds : Holds reader arguments value) :
    reader.step ' ' = { arguments := arguments ++ [value] } := by
  have settled : Holds reader.settled arguments value :=
    ⟨holds.arguments, holds.reading, holds.written, by
      have outside := holds.outside
      unfold Reader.settled at outside ⊢
      simp only [Bool.false_eq_true, false_and, if_false]
      exact outside⟩
  unfold Reader.step
  rw [if_neg (by decide), if_neg (by decide), if_pos ⟨Or.inl rfl, holds.outside⟩]
  exact settled.finish

end Holding

theorem fold_intercalate {quote : List Char → List Char}
    (reads : ∀ (arguments : List (List Char)) (value : List Char),
      Holds ((quote value).foldl Reader.step { arguments := arguments }) arguments value)
    (before values : List (List Char)) :
    (([' '].intercalate (values.map quote)).foldl Reader.step
      { arguments := before }).finish.arguments = before ++ values := by
  induction values generalizing before with
  | nil => simp [Reader.finish, List.intercalate]
  | cons value rest ih =>
      have holds := reads before value
      cases rest with
      | nil =>
          simp only [List.map_cons, List.map_nil, List.intercalate_singleton]
          rw [holds.finish]
      | cons next others =>
          have later := ih (before ++ [value])
          rw [List.map_cons, List.map_cons, List.intercalate_cons_cons, ← List.map_cons,
            List.foldl_append, List.foldl_append, List.foldl_cons, List.foldl_nil, holds.blank, later]
          simp

/-- The text so far, with backslashes that may still belong to a quote. -/
structure Inside (reader : Reader) (arguments : List (List Char)) (value : List Char)
    (pending : Nat) : Prop where
  arguments : reader.arguments = arguments
  argument : reader.argument = some value
  backslashes : reader.backslashes = pending
  quotes : reader.quotes = 1
  apart : reader.afterQuote = true → pending = 0

section Insides

variable {reader : Reader} {arguments : List (List Char)} {value : List Char} {n : Nat}

theorem Inside.text (inside : Inside reader arguments value n) : reader.text = value := by
  unfold Reader.text
  rw [inside.argument]
  rfl

theorem Inside.settled (inside : Inside reader arguments value n) :
    reader.settled.quotes = 1 := by
  unfold Reader.settled
  rw [inside.quotes]
  exact if_neg (by omega)

theorem Inside.backslash (inside : Inside reader arguments value n) :
    Inside (reader.step backslash) arguments value (n + 1) := by
  unfold Reader.step
  rw [if_neg (by decide), if_pos rfl]
  refine ⟨inside.arguments, ?_, ?_, inside.settled, nofun⟩
  · exact congrArg some inside.text
  · exact congrArg (· + 1) inside.backslashes

theorem Inside.replicate (inside : Inside reader arguments value 0) (n : Nat) :
    Inside ((List.replicate n WindowsArguments.backslash).foldl Reader.step reader) arguments
      value n := by
  induction n with
  | zero => exact inside
  | succ n ih =>
      rw [List.replicate_succ', List.foldl_append]
      exact ih.backslash

theorem Inside.character (inside : Inside reader arguments value n) {c : Char}
    (plain : c ≠ doubleQuote) (other : c ≠ WindowsArguments.backslash) :
    Inside (reader.step c) arguments
      (value ++ List.replicate n WindowsArguments.backslash ++ [c]) 0 := by
  have written : reader.settled.written =
      value ++ List.replicate n WindowsArguments.backslash := by
    show reader.text ++ List.replicate reader.backslashes WindowsArguments.backslash = _
    rw [inside.text, inside.backslashes]
  have unblank : ¬ ((c = ' ' ∨ c = '\t') ∧ reader.settled.quotes = 0) := by
    intro blank
    have quotes := inside.settled
    omega
  unfold Reader.step
  rw [if_neg plain]
  dsimp only
  rw [if_neg other, if_neg unblank, written]
  exact ⟨inside.arguments, rfl, rfl, inside.settled, fun _ => rfl⟩

theorem Inside.escaped (inside : Inside reader arguments value (2 * n + 1)) :
    Inside (reader.step doubleQuote) arguments
      (value ++ List.replicate n WindowsArguments.backslash ++ [doubleQuote]) 0 := by
  have apart : reader.afterQuote = false := by
    cases after : reader.afterQuote with
    | false => rfl
    | true => exact absurd (inside.apart after) (by omega)
  have half : (2 * n + 1) / 2 = n := by omega
  unfold Reader.step Reader.quoted
  rw [if_pos rfl, apart, if_neg (by decide)]
  dsimp only
  rw [inside.backslashes, inside.text, half, if_neg (by omega)]
  exact ⟨inside.arguments, rfl, rfl, inside.quotes, fun _ => rfl⟩

theorem Inside.closed (inside : Inside reader arguments value (2 * n)) :
    Holds (reader.step doubleQuote) arguments
      (value ++ List.replicate n WindowsArguments.backslash) := by
  have half : 2 * n / 2 = n := by omega
  unfold Reader.step Reader.quoted
  rw [if_pos rfl]
  cases after : reader.afterQuote with
  | true =>
      have none : n = 0 := by
        have zero := inside.apart after
        omega
      subst none
      rw [if_pos rfl, if_neg (by rw [inside.quotes]; decide)]
      refine ⟨inside.arguments, ?_, ?_, ?_⟩
      · exact congrArg Option.isSome inside.argument
      · show reader.text ++ List.replicate reader.backslashes WindowsArguments.backslash = _
        rw [inside.text, inside.backslashes]
      · unfold Reader.settled
        dsimp only
        rw [inside.quotes]
        rfl
  | false =>
      rw [if_neg (by decide)]
      dsimp only
      rw [inside.backslashes, inside.text, half, if_pos (by omega)]
      refine ⟨inside.arguments, rfl, List.append_nil _, ?_⟩
      unfold Reader.settled
      rw [inside.quotes]
      rfl

end Insides

theorem inside_opened (arguments : List (List Char)) :
    Inside (Reader.step { arguments := arguments } doubleQuote) arguments [] 0 := by
  have opened : Reader.step { arguments := arguments } doubleQuote =
      { arguments := arguments, argument := some [], quotes := 1, afterQuote := true } := by
    simp [Reader.step, Reader.quoted, Reader.text]
  rw [opened]
  exact ⟨rfl, rfl, rfl, rfl, fun _ => rfl⟩

structure Outside (reader : Reader) (arguments : List (List Char)) (value : List Char) :
    Prop where
  arguments : reader.arguments = arguments
  reading : value ≠ [] → reader.argument.isSome = true
  written : reader.written = value
  quotes : reader.quotes = 0
  apart : reader.afterQuote = false

section Outsides

variable {reader : Reader} {arguments : List (List Char)} {value : List Char}

theorem Outside.settled (outside : Outside reader arguments value) :
    reader.settled.quotes = 0 := by
  unfold Reader.settled
  rw [outside.quotes]
  exact if_neg (by omega)

theorem Outside.character (outside : Outside reader arguments value) {c : Char}
    (plain : c ≠ doubleQuote) (unspaced : c ≠ ' ') (untabbed : c ≠ '\t') :
    Outside (reader.step c) arguments (value ++ [c]) := by
  unfold Reader.step
  rw [if_neg plain]
  dsimp only
  split
  · rename_i same
    refine ⟨outside.arguments, fun _ => rfl, ?_, outside.settled, rfl⟩
    rw [← outside.written, same]
    unfold Reader.written Reader.text
    dsimp only
    rw [List.replicate_succ', ← List.append_assoc]
    rfl
  · have unblank : ¬ ((c = ' ' ∨ c = '\t') ∧ reader.settled.quotes = 0) := by
      intro blank
      rcases blank.1 with space | tab
      · exact unspaced space
      · exact untabbed tab
    rw [if_neg unblank]
    refine ⟨outside.arguments, fun _ => rfl, ?_, outside.settled, rfl⟩
    rw [← outside.written]
    exact List.append_nil _

theorem Outside.characters (outside : Outside reader arguments value) {text : List Char}
    (plain : ∀ c ∈ text, c ≠ doubleQuote ∧ c ≠ ' ' ∧ c ≠ '\t') :
    Outside (text.foldl Reader.step reader) arguments (value ++ text) := by
  induction text generalizing reader value with
  | nil =>
      rw [List.append_nil]
      exact outside
  | cons c rest ih =>
      obtain ⟨first, others⟩ := List.forall_mem_cons.mp plain
      have later := ih (outside.character first.1 first.2.1 first.2.2) others
      rw [List.append_assoc] at later
      exact later

theorem Outside.holds (outside : Outside reader arguments value) (some : value ≠ []) :
    Holds reader arguments value :=
  ⟨outside.arguments, outside.reading some, outside.written, outside.settled⟩

end Outsides

theorem outside_between (arguments : List (List Char)) :
    Outside { arguments := arguments } arguments [] :=
  ⟨rfl, fun some => absurd rfl some, rfl, rfl, rfl⟩

section Counting

variable {counts : Char → Bool}

theorem countP_backslashes (unescaped : counts backslash = false) (n : Nat) :
    (List.replicate n backslash).countP counts = 0 := by
  rw [List.countP_replicate, unescaped]
  rfl

variable (unquoted : counts doubleQuote = false) (unescaped : counts backslash = false)

include unquoted unescaped

theorem countP_step_le (reader : Reader) (c : Char) :
    ((reader.step c).arguments.flatten ++ (reader.step c).text).countP counts ≤
      (reader.arguments.flatten ++ reader.text).countP counts + [c].countP counts := by
  have none (n : Nat) := countP_backslashes unescaped n
  have settled : reader.settled.text = reader.text := rfl
  have kept : reader.settled.arguments = reader.arguments := rfl
  unfold Reader.step
  split
  · unfold Reader.quoted
    split
    · split
      · simp [Reader.text, List.countP_append, unquoted]
      · simp [Reader.text, List.countP_append]
    · dsimp only
      split
      · simp [Reader.text, List.countP_append, none]
      · simp [Reader.text, List.countP_append, none, unquoted]
  · dsimp only
    split
    · simp [Reader.text, Reader.settled, List.countP_append]
    · split
      · unfold Reader.finish
        split
        · simp only [settled, kept, List.countP_append]
          omega
        · simp [Reader.written, Reader.text, Reader.settled, List.countP_append, none]
      · simp [Reader.written, Reader.text, Reader.settled, List.countP_append, none,
          List.countP_cons, Nat.add_assoc]

theorem countP_split_le (line : List Char) :
    (split line).flatten.countP counts ≤ line.countP counts := by
  have none (n : Nat) := countP_backslashes unescaped n
  have folded (reader : Reader) :
      ((line.foldl Reader.step reader).arguments.flatten ++
        (line.foldl Reader.step reader).text).countP counts ≤
        (reader.arguments.flatten ++ reader.text).countP counts + line.countP counts := by
    induction line generalizing reader with
    | nil => exact Nat.le_refl _
    | cons c rest ih =>
        have first := countP_step_le unquoted unescaped reader c
        have later := ih (reader.step c)
        rw [List.foldl_cons, List.countP_cons]
        rw [List.countP_cons, List.countP_nil, Nat.zero_add] at first
        omega
  have whole := folded {}
  have finished (reader : Reader) : reader.finish.arguments.flatten.countP counts ≤
      (reader.arguments.flatten ++ reader.text).countP counts := by
    unfold Reader.finish
    split
    · simp [List.countP_append]
    · simp [Reader.written, List.countP_append, none]
  have last := finished (line.foldl Reader.step {})
  have start : (([] : List (List Char)).flatten ++ Reader.text {}).countP counts = 0 := rfl
  unfold split
  dsimp only at whole
  omega

end Counting

end Noland.WindowsArguments
