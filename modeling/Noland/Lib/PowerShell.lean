import Noland.Lib.Text

/-!
A command of words and of strings in single quotes. There are five characters that open and close
such a string, and two of them in a row inside a string stand for the second one.
-/

namespace Noland.PowerShell

def apostrophe : Char := '\u0027'

/-- The quotes that word processors put in place of an apostrophe. -/
def isCurly (c : Char) : Bool := c = '\u2018' || c = '\u2019' || c = '\u201a' || c = '\u201b'

def isSingleQuote (c : Char) : Bool := c = apostrophe || isCurly c

def isBlank (c : Char) : Bool := Text.whitespace c && c != '\n' && c != '\r'

def isSpecial (c : Char) : Bool :=
  c ∈ ['\u0000', '\n', '\r', '\u0022', '\u201c', '\u201d', '\u201e', '\u0060', '\u0023', '$', '&',
    '|', ';', ',', '(', ')', '{', '}', '@', '<', '>']

def isPlain (c : Char) : Bool := !isSingleQuote c && !isBlank c && !isSpecial c

inductive Token where
  | word (text : List Char)
  | string (text : List Char)
  deriving DecidableEq

/-- Where the reader is. After a quote in a string, the next character tells whether it was
doubled. -/
inductive Mode where
  | between
  | word (text : List Char)
  | string (text : List Char)
  | quoted (text : List Char)
  deriving DecidableEq

/-- The tokens of a command, unless it is more than words and strings. -/
def read : Mode → List Char → Option (List Token)
  | .between, [] => some []
  | .word text, [] => some [.word text]
  | .string _, [] => none
  | .quoted text, [] => some [.string text]
  | .between, c :: rest =>
      if isBlank c then read .between rest
      else if isSingleQuote c then read (.string []) rest
      else if isPlain c then read (.word [c]) rest
      else none
  | .word text, c :: rest =>
      if isBlank c then (read .between rest).map (.word text :: ·)
      else if isPlain c then read (.word (text ++ [c])) rest
      else none
  | .string text, c :: rest =>
      if isSingleQuote c then read (.quoted text) rest else read (.string (text ++ [c])) rest
  | .quoted text, c :: rest =>
      if isSingleQuote c then read (.string (text ++ [c])) rest
      else if isBlank c then (read .between rest).map (.string text :: ·)
      else if isPlain c then (read (.word [c]) rest).map (.string text :: ·)
      else none

def readCommand (script : List Char) : Option (List Token) := read .between script

section Equations

variable (c : Char) (rest text : List Char)

theorem read_between_cons : read .between (c :: rest) =
    if isBlank c then read .between rest
    else if isSingleQuote c then read (.string []) rest
    else if isPlain c then read (.word [c]) rest
    else none := rfl

theorem read_word_cons : read (.word text) (c :: rest) =
    if isBlank c then (read .between rest).map (.word text :: ·)
    else if isPlain c then read (.word (text ++ [c])) rest
    else none := rfl

theorem read_string_nil : read (.string text) [] = none := rfl

theorem read_string_cons : read (.string text) (c :: rest) =
    if isSingleQuote c then read (.quoted text) rest
    else read (.string (text ++ [c])) rest := rfl

theorem read_quoted_nil : read (.quoted text) [] = some [.string text] := rfl

theorem read_quoted_cons : read (.quoted text) (c :: rest) =
    if isSingleQuote c then read (.string (text ++ [c])) rest
    else if isBlank c then (read .between rest).map (.string text :: ·)
    else if isPlain c then (read (.word [c]) rest).map (.string text :: ·)
    else none := rfl

end Equations

theorem isBlank_space : isBlank ' ' = true := by decide

theorem not_blank_of_plain {c : Char} (plain : isPlain c = true) : isBlank c = false := by
  unfold isPlain at plain
  simp only [Bool.and_eq_true, Bool.not_eq_true'] at plain
  exact plain.1.2

theorem not_quote_of_plain {c : Char} (plain : isPlain c = true) : isSingleQuote c = false := by
  unfold isPlain at plain
  simp only [Bool.and_eq_true, Bool.not_eq_true'] at plain
  exact plain.1.1

theorem read_word_append {text word rest : List Char} (plain : ∀ c ∈ word, isPlain c = true) :
    read (.word text) (word ++ ' ' :: rest) =
      (read .between rest).map (.word (text ++ word) :: ·) := by
  induction word generalizing text with
  | nil =>
      rw [List.nil_append, List.append_nil, read_word_cons, if_pos isBlank_space]
  | cons c word ih =>
      obtain ⟨first, others⟩ := List.forall_mem_cons.mp plain
      rw [List.cons_append, read_word_cons, if_neg (by rw [not_blank_of_plain first]; nofun),
        if_pos first, ih others, List.append_assoc, List.singleton_append]

theorem read_word {word rest : List Char} (some : word ≠ []) (plain : word.all isPlain = true) :
    read .between (word ++ ' ' :: rest) = (read .between rest).map (.word word :: ·) := by
  cases word with
  | nil => exact absurd rfl some
  | cons c word =>
      obtain ⟨first, others⟩ := List.forall_mem_cons.mp (List.all_eq_true.mp plain)
      rw [List.cons_append, read_between_cons, if_neg (by rw [not_blank_of_plain first]; nofun),
        if_neg (by rw [not_quote_of_plain first]; nofun), if_pos first, read_word_append others,
        List.singleton_append]

def doubled (text : List Char) : List Char :=
  text.flatMap fun c => if c = apostrophe then [apostrophe, apostrophe] else [c]

theorem isSingleQuote_apostrophe : isSingleQuote apostrophe = true := by decide

theorem isSingleQuote_of_curly {c : Char} (curly : isCurly c = true) : isSingleQuote c = true := by
  unfold isSingleQuote
  rw [curly, Bool.or_true]

theorem doubled_cons (c : Char) (text : List Char) :
    doubled (c :: text) =
      (if c = apostrophe then [apostrophe, apostrophe] else [c]) ++ doubled text :=
  List.flatMap_cons

theorem ne_apostrophe_of_curly {c : Char} (curly : isCurly c = true) : c ≠ apostrophe := by
  intro same
  rw [same] at curly
  exact absurd curly (by decide)

theorem read_doubled_cons {c : Char} (straight : isCurly c = false) (text before after : List Char) :
    read (.string before) (doubled (c :: text) ++ after) =
      read (.string (before ++ [c])) (doubled text ++ after) := by
  rw [doubled_cons]
  by_cases same : c = apostrophe
  · rw [if_pos same, same]
    show read (.string before) (apostrophe :: apostrophe :: (doubled text ++ after)) = _
    rw [read_string_cons, if_pos isSingleQuote_apostrophe, read_quoted_cons,
      if_pos isSingleQuote_apostrophe]
  · have plain : isSingleQuote c = false := by
      unfold isSingleQuote
      rw [straight, decide_eq_false same]
      rfl
    rw [if_neg same]
    show read (.string before) (c :: (doubled text ++ after)) = _
    rw [read_string_cons, if_neg (by rw [plain]; nofun)]

theorem read_doubled {text : List Char} (straight : ∀ c ∈ text, isCurly c = false)
    (before after : List Char) :
    read (.string before) (doubled text ++ apostrophe :: after) =
      read (.quoted (before ++ text)) after := by
  induction text generalizing before with
  | nil =>
      rw [List.append_nil]
      show read (.string before) (apostrophe :: after) = _
      rw [read_string_cons, if_pos isSingleQuote_apostrophe]
  | cons c text ih =>
      obtain ⟨first, others⟩ := List.forall_mem_cons.mp straight
      rw [read_doubled_cons first, ih others, List.append_assoc, List.singleton_append]

theorem read_quoted_space (text after : List Char) :
    read (.quoted text) (' ' :: after) = (read .between after).map (.string text :: ·) := by
  rw [read_quoted_cons, if_neg (by decide), if_pos isBlank_space]

theorem read_string_grows {text before : List Char} {tokens : List Token} :
    (read (.string before) text = some tokens →
      ∃ tail more, tokens = .string (before ++ tail) :: more) ∧
    (read (.quoted before) text = some tokens →
      ∃ tail more, tokens = .string (before ++ tail) :: more) := by
  induction text generalizing before with
  | nil =>
      constructor
      · intro found
        rw [read_string_nil] at found
        cases found
      · intro found
        rw [read_quoted_nil] at found
        cases found
        exact ⟨[], [], by rw [List.append_nil]⟩
  | cons c rest ih =>
      have longer (found : read (.string (before ++ [c])) rest = some tokens) :
          ∃ tail more, tokens = .string (before ++ tail) :: more := by
        obtain ⟨tail, more, rfl⟩ := ih.1 found
        exact ⟨c :: tail, more, by rw [List.append_assoc, List.singleton_append]⟩
      have ended {after : Option (List Token)}
          (found : after.map (Token.string before :: ·) = some tokens) :
          ∃ tail more, tokens = .string (before ++ tail) :: more := by
        obtain ⟨more, _, rfl⟩ := Option.map_eq_some_iff.mp found
        exact ⟨[], more, by rw [List.append_nil]⟩
      constructor
      · intro found
        rw [read_string_cons] at found
        split at found
        · exact ih.2 found
        · exact longer found
      · intro found
        rw [read_quoted_cons] at found
        split at found
        · exact longer found
        · split at found
          · exact ended found
          · split at found
            · exact ended found
            · cases found

variable {more : List Token}

theorem head_of_read {before tail text : List Char} {c q : Char}
    (found : read (.string (before ++ [c])) text = some (.string (before ++ q :: tail) :: more)) :
    q = c := by
  obtain ⟨others, _, same⟩ := read_string_grows.1 found
  have texts := Token.string.inj (List.cons.inj same).1
  rw [List.append_assoc] at texts
  exact (List.cons.inj (List.append_cancel_left texts)).1

theorem not_ended {before rest : List Char} {q : Char} {others : Option (List Token)} :
    others.map (Token.string before :: ·) ≠
      some (.string (before ++ q :: rest) :: more) := by
  intro found
  obtain ⟨_, _, equal⟩ := Option.map_eq_some_iff.mp found
  have texts := Token.string.inj (List.cons.inj equal).1
  have lengths := congrArg List.length texts
  rw [List.length_append, List.length_cons] at lengths
  omega

theorem read_lost {text before after rest : List Char} {c q : Char} (curled : isCurly c = true)
    (quote : isCurly q = true)
    (found : read (.string before) (doubled (c :: text) ++ apostrophe :: ' ' :: after) =
      some (.string (before ++ q :: rest) :: more)) :
    ∃ later, text = q :: later ∧
      read (.string (before ++ [q])) (doubled later ++ apostrophe :: ' ' :: after) =
        some (.string (before ++ [q] ++ rest) :: more) := by
  have straight {text : List Char} :
      read (.string (before ++ [apostrophe])) text ≠
        some (.string (before ++ q :: rest) :: more) :=
    fun found => ne_apostrophe_of_curly quote (head_of_read found)
  rw [doubled_cons, if_neg (ne_apostrophe_of_curly curled), List.singleton_append,
    List.cons_append, read_string_cons, if_pos (isSingleQuote_of_curly curled)] at found
  cases text with
  | nil =>
      rw [show doubled [] = [] from rfl, List.nil_append, read_quoted_cons,
        if_pos isSingleQuote_apostrophe] at found
      exact absurd found straight
  | cons d later =>
      by_cases apart : d = apostrophe
      · rw [doubled_cons, if_pos apart] at found
        simp only [List.cons_append, List.nil_append] at found
        rw [read, if_pos isSingleQuote_apostrophe] at found
        exact absurd found straight
      · rw [doubled_cons, if_neg apart, List.singleton_append, List.cons_append,
          read_quoted_cons] at found
        split at found
        · have head := head_of_read found
          rw [← head] at found ⊢
          rw [List.append_cons before q rest] at found
          exact ⟨later, rfl, found⟩
        · split at found
          · exact absurd found not_ended
          · split at found
            · exact absurd found not_ended
            · cases found

theorem read_behind {text before behind after : List Char}
    (curly : ∀ c ∈ behind, isCurly c = true)
    (starts : ∃ q rest, behind ++ text = q :: rest ∧ isCurly q = true) :
    read (.string before) (doubled text ++ apostrophe :: ' ' :: after) ≠
      some (.string (before ++ (behind ++ text)) :: more) := by
  induction length : text.length using Nat.strongRecOn generalizing text before behind with
  | ind size ih =>
  intro found
  obtain ⟨q, rest, same, quote⟩ := starts
  rw [same] at found
  cases text with
  | nil =>
      rw [show doubled [] = [] from rfl, List.nil_append, read_string_cons,
        if_pos isSingleQuote_apostrophe,
        read_quoted_space] at found
      exact not_ended found
  | cons c text =>
      cases curled : isCurly c with
      | false =>
          rw [read_doubled_cons curled] at found
          rw [head_of_read found, curled] at quote
          cases quote
      | true =>
          obtain ⟨later, rfl, read⟩ := read_lost curled quote found
          -- the quotes that are behind are one more than before
          have all : ∀ other ∈ behind ++ [c], isCurly other = true := by
            intro other member
            rcases List.mem_append.mp member with old | last
            · exact curly other old
            · rw [List.mem_singleton.mp last]
              exact curled
          obtain ⟨others, ahead⟩ : ∃ others, behind ++ [c] = q :: others := by
            cases behind with
            | nil =>
                cases same
                exact ⟨[], rfl⟩
            | cons first others =>
                cases same
                exact ⟨others ++ [c], rfl⟩
          have remaining : rest = others ++ [q] ++ later := by
            have whole : behind ++ [c] ++ (q :: later) = q :: rest := by
              rw [← same]
              simp
            rw [ahead, List.cons_append] at whole
            rw [← (List.cons.inj whole).2]
            simp
          rw [ahead] at all
          obtain ⟨_, tail⟩ := List.forall_mem_cons.mp all
          have next : ∀ other ∈ others ++ [q], isCurly other = true := by
            intro other member
            rcases List.mem_append.mp member with old | last
            · exact tail other old
            · rw [List.mem_singleton.mp last]
              exact quote
          rw [remaining] at read
          refine ih later.length ?_ next ?_ rfl read
          · rw [← length, List.length_cons, List.length_cons]
            omega
          · cases others with
            | nil => exact ⟨q, later, rfl, quote⟩
            | cons first others =>
                exact ⟨first, others ++ [q] ++ later, rfl, tail first List.mem_cons_self⟩

theorem straight_of_read {text before after : List Char}
    (found : read (.string before) (doubled text ++ apostrophe :: ' ' :: after) =
      some (.string (before ++ text) :: more)) : ∀ c ∈ text, isCurly c = false := by
  induction text generalizing before with
  | nil => exact List.forall_mem_nil _
  | cons c text ih =>
      cases curled : isCurly c with
      | false =>
          rw [read_doubled_cons curled, List.append_cons before c text] at found
          exact List.forall_mem_cons.mpr ⟨curled, ih found⟩
      | true => exact absurd found (read_behind (List.forall_mem_nil _) ⟨c, text, rfl, curled⟩)

theorem countP_doubled (text : List Char) : (doubled text).countP isCurly = text.countP isCurly := by
  induction text with
  | nil => rfl
  | cons c text ih =>
      rw [doubled_cons, List.countP_append, ih, List.countP_cons]
      split
      · rename_i same
        rw [same, Nat.add_comm]
        rfl
      · rw [List.countP_singleton, Nat.add_comm]

theorem countP_read_le {text before result : List Char} :
    (read (.string before) text = some (.string result :: more) →
      result.countP isCurly ≤ before.countP isCurly + text.countP isCurly) ∧
    (read (.quoted before) text = some (.string result :: more) →
      result.countP isCurly ≤ before.countP isCurly + text.countP isCurly) := by
  induction text generalizing before with
  | nil =>
      constructor
      · intro found
        rw [read_string_nil] at found
        cases found
      · intro found
        rw [read_quoted_nil] at found
        cases found
        exact Nat.le_refl _
  | cons c rest ih =>
      have longer (found : read (.string (before ++ [c])) rest = some (.string result :: more)) :
          result.countP isCurly ≤ before.countP isCurly + (c :: rest).countP isCurly := by
        have bound := ih.1 found
        rw [List.countP_append, List.countP_singleton] at bound
        rw [List.countP_cons]
        omega
      have ended {after : Option (List Token)}
          (found : after.map (Token.string before :: ·) = some (.string result :: more)) :
          result.countP isCurly ≤ before.countP isCurly + (c :: rest).countP isCurly := by
        obtain ⟨_, _, same⟩ := Option.map_eq_some_iff.mp found
        rw [Token.string.inj (List.cons.inj same).1]
        exact Nat.le_add_right _ _
      constructor
      · intro found
        rw [read_string_cons] at found
        split at found
        · have bound := ih.2 found
          rw [List.countP_cons]
          omega
        · exact longer found
      · intro found
        rw [read_quoted_cons] at found
        split at found
        · exact longer found
        · split at found
          · exact ended found
          · split at found
            · exact ended found
            · cases found

theorem countP_read_lt {text before after result : List Char}
    (found : read (.string before) (doubled text ++ after) = some (.string result :: more))
    (curly : ∃ c ∈ text, isCurly c = true) :
    result.countP isCurly <
      before.countP isCurly + text.countP isCurly + after.countP isCurly := by
  induction text generalizing before with
  | nil =>
      obtain ⟨_, member, _⟩ := curly
      cases member
  | cons c text ih =>
      cases curled : isCurly c with
      | false =>
          rw [read_doubled_cons curled] at found
          have others : ∃ c ∈ text, isCurly c = true := by
            obtain ⟨other, member, quote⟩ := curly
            rcases List.mem_cons.mp member with rfl | later
            · rw [curled] at quote
              cases quote
            · exact ⟨other, later, quote⟩
          have bound := ih found others
          rw [List.countP_append, List.countP_singleton, curled] at bound
          rw [List.countP_cons, curled]
          exact bound
      | true =>
          rw [doubled_cons, if_neg (ne_apostrophe_of_curly curled), List.singleton_append,
            List.cons_append, read_string_cons, if_pos (isSingleQuote_of_curly curled)] at found
          have bound := countP_read_le.2 found
          rw [List.countP_append, countP_doubled] at bound
          rw [List.countP_cons, curled, if_pos rfl]
          omega

end Noland.PowerShell
