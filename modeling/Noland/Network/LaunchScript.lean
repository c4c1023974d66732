import Noland.Lib.PowerShell
import Noland.Lib.WindowsArguments

/-!
The helper of the managed tunnel is started by a PowerShell command. Its arguments are quoted
twice: each of them for the command line of the helper, and the line for PowerShell.
-/

namespace Noland.Network

open Noland.PowerShell
open Noland.WindowsArguments (doubleQuote backslash)

/-- The loop over a value: what is added to the line, with the backslashes that were seen last
still to be written. -/
def quoteFrom : Nat → List Char → List Char
  | backslashes, [] => List.replicate (backslashes * 2) backslash ++ [doubleQuote]
  | backslashes, ch :: rest =>
      if ch = backslash then quoteFrom (backslashes + 1) rest
      else if ch = doubleQuote then
        List.replicate (backslashes * 2 + 1) backslash ++ doubleQuote :: quoteFrom 0 rest
      else List.replicate backslashes backslash ++ ch :: quoteFrom 0 rest

def windowsCommandLineQuote (value : List Char) : List Char :=
  if !value.isEmpty && !value.any fun ch => Text.whitespace ch || ch == doubleQuote then value
  else doubleQuote :: quoteFrom 0 value

def powershellSingleQuote (value : List Char) : List Char :=
  apostrophe :: doubled value ++ [apostrophe]

def argumentLine (arguments : List (List Char)) : List Char :=
  [' '].intercalate (arguments.map windowsCommandLineQuote)

def buildWindowsTunnelLaunchScript (helper : List Char) (arguments : List (List Char)) :
    List Char :=
  "Start-Process -FilePath ".toList ++ powershellSingleQuote helper ++
    " -Verb RunAs -WindowStyle Hidden -ArgumentList ".toList ++
      powershellSingleQuote (argumentLine arguments)

def Launches (script helper : List Char) (arguments : List (List Char)) : Prop :=
  ∃ line, readCommand script =
      some [.word "Start-Process".toList, .word "-FilePath".toList, .string helper,
        .word "-Verb".toList, .word "RunAs".toList, .word "-WindowStyle".toList,
        .word "Hidden".toList, .word "-ArgumentList".toList, .string line] ∧
    WindowsArguments.split line = arguments

section Arguments

open WindowsArguments

theorem fold_quoteFrom {reader : Reader} {arguments : List (List Char)} {before : List Char}
    {n : Nat} (inside : Inside reader arguments before 0) (value : List Char) :
    Holds ((quoteFrom n value).foldl Reader.step reader) arguments
      (before ++ List.replicate n backslash ++ value) := by
  induction value generalizing reader before n with
  | nil =>
      have pending := inside.replicate (2 * n)
      unfold quoteFrom
      rw [List.foldl_append, Nat.mul_comm, List.append_nil]
      exact pending.closed
  | cons ch rest ih =>
      unfold quoteFrom
      split
      · rename_i same
        have later := @ih reader before (n + 1) inside
        rw [List.replicate_succ', ← List.append_assoc] at later
        rw [same, List.append_cons]
        exact later
      · rename_i other
        split
        · rename_i quote
          have pending := (inside.replicate (2 * n + 1)).escaped
          have later := @ih _ _ 0 pending
          rw [List.replicate_zero, List.append_nil] at later
          rw [List.foldl_append, List.foldl_cons, Nat.mul_comm, quote, List.append_cons]
          exact later
        · rename_i plain
          have pending := (inside.replicate n).character plain other
          have later := @ih _ _ 0 pending
          rw [List.replicate_zero, List.append_nil] at later
          rw [List.foldl_append, List.foldl_cons, List.append_cons]
          exact later

theorem fold_windowsCommandLineQuote (arguments : List (List Char)) (value : List Char) :
    Holds ((windowsCommandLineQuote value).foldl Reader.step { arguments := arguments })
      arguments value := by
  unfold windowsCommandLineQuote
  split
  · rename_i plain
    simp only [Bool.and_eq_true, Bool.not_eq_true', List.any_eq_false, Bool.or_eq_true,
      beq_iff_eq, not_or, List.isEmpty_eq_false_iff] at plain
    have read : Outside (value.foldl Reader.step { arguments := arguments }) arguments
        ([] ++ value) := by
      apply (outside_between arguments).characters
      intro c member
      obtain ⟨unblank, unquoted⟩ := plain.2 c member
      refine ⟨unquoted, ?_, ?_⟩
      · intro space
        exact unblank (by rw [space]; decide)
      · intro tab
        exact unblank (by rw [tab]; decide)
    exact read.holds plain.1
  · have read := @fold_quoteFrom _ _ _ 0 (inside_opened arguments) value
    exact read

theorem split_argumentLine (arguments : List (List Char)) :
    split (argumentLine arguments) = arguments := by
  have whole := fold_intercalate fold_windowsCommandLineQuote [] arguments
  rw [List.nil_append] at whole
  exact whole

end Arguments

theorem countP_quoteFrom (n : Nat) (value : List Char) :
    (quoteFrom n value).countP isCurly = value.countP isCurly := by
  have none (n : Nat) : (List.replicate n backslash).countP isCurly = 0 :=
    WindowsArguments.countP_backslashes (by decide) n
  induction value generalizing n with
  | nil =>
      unfold quoteFrom
      rw [List.countP_append, none]
      rfl
  | cons ch rest ih =>
      have quote : isCurly doubleQuote = false := by decide
      unfold quoteFrom
      split
      · rename_i same
        rw [ih, List.countP_cons, same]
        rfl
      · split
        · rename_i same
          rw [List.countP_append, List.countP_cons, List.countP_cons, ih, none, same, Nat.zero_add]
        · rw [List.countP_append, List.countP_cons, List.countP_cons, ih, none, Nat.zero_add]

theorem countP_windowsCommandLineQuote (value : List Char) :
    (windowsCommandLineQuote value).countP isCurly = value.countP isCurly := by
  unfold windowsCommandLineQuote
  split
  · rfl
  · rw [List.countP_cons, countP_quoteFrom]
    rfl

theorem countP_argumentLine (arguments : List (List Char)) :
    (argumentLine arguments).countP isCurly = arguments.flatten.countP isCurly := by
  unfold argumentLine
  induction arguments with
  | nil => rfl
  | cons value rest ih =>
      cases rest with
      | nil =>
          simp only [List.map_cons, List.map_nil, List.intercalate_singleton, List.flatten_cons,
            List.flatten_nil, List.append_nil]
          exact countP_windowsCommandLineQuote value
      | cons next others =>
          rw [List.map_cons, List.map_cons, List.intercalate_cons_cons, ← List.map_cons,
            List.countP_append, List.countP_append, ih, countP_windowsCommandLineQuote,
            List.flatten_cons (L := next :: others), List.countP_append]
          rfl

theorem curly_argumentLine {arguments : List (List Char)} :
    (∃ c ∈ argumentLine arguments, isCurly c = true) ↔
      ∃ argument ∈ arguments, ∃ c ∈ argument, isCurly c = true := by
  have counts := countP_argumentLine arguments
  have one (text : List Char) : (∃ c ∈ text, isCurly c = true) ↔ 0 < text.countP isCurly :=
    List.countP_pos_iff.symm
  rw [one, counts, ← one]
  constructor
  · rintro ⟨c, member, curly⟩
    obtain ⟨argument, inside, within⟩ := List.mem_flatten.mp member
    exact ⟨argument, inside, c, within, curly⟩
  · rintro ⟨argument, inside, c, within, curly⟩
    exact ⟨c, List.mem_flatten.mpr ⟨argument, inside, within⟩, curly⟩

theorem read_script (helper : List Char) (arguments : List (List Char)) :
    readCommand (buildWindowsTunnelLaunchScript helper arguments) =
      (PowerShell.read (.string []) (doubled helper ++ apostrophe :: ' ' ::
        ("-Verb RunAs -WindowStyle Hidden -ArgumentList ".toList ++
          powershellSingleQuote (argumentLine arguments)))).map fun tokens =>
            .word "Start-Process".toList :: .word "-FilePath".toList :: tokens := by
  have shape : buildWindowsTunnelLaunchScript helper arguments =
      "Start-Process".toList ++ ' ' :: ("-FilePath".toList ++ ' ' :: apostrophe ::
        (doubled helper ++ apostrophe :: ' ' ::
          ("-Verb RunAs -WindowStyle Hidden -ArgumentList ".toList ++
            powershellSingleQuote (argumentLine arguments)))) := by
    have start : "Start-Process -FilePath ".toList =
        "Start-Process".toList ++ ' ' :: ("-FilePath".toList ++ [' ']) := by decide +kernel
    have options : " -Verb RunAs -WindowStyle Hidden -ArgumentList ".toList =
        ' ' :: "-Verb RunAs -WindowStyle Hidden -ArgumentList ".toList := by decide +kernel
    unfold buildWindowsTunnelLaunchScript
    rw [start, options]
    simp only [powershellSingleQuote, List.append_assoc, List.cons_append, List.nil_append]
  have first {rest : List Char} := @read_word "Start-Process".toList rest (by decide +kernel)
    (by decide +kernel)
  have second {rest : List Char} := @read_word "-FilePath".toList rest (by decide +kernel)
    (by decide +kernel)
  unfold readCommand
  rw [shape, first, second, read_between_cons, if_neg (by decide), if_pos isSingleQuote_apostrophe,
    Option.map_map]
  rfl

theorem read_options (line : List Char) :
    PowerShell.read .between ("-Verb RunAs -WindowStyle Hidden -ArgumentList ".toList ++
      powershellSingleQuote line) =
      (PowerShell.read (.string []) (doubled line ++ [apostrophe])).map fun tokens =>
        .word "-Verb".toList :: .word "RunAs".toList :: .word "-WindowStyle".toList ::
          .word "Hidden".toList :: .word "-ArgumentList".toList :: tokens := by
  have shape : "-Verb RunAs -WindowStyle Hidden -ArgumentList ".toList ++ powershellSingleQuote line =
      "-Verb".toList ++ ' ' :: ("RunAs".toList ++ ' ' :: ("-WindowStyle".toList ++ ' ' ::
        ("Hidden".toList ++ ' ' :: ("-ArgumentList".toList ++ ' ' :: apostrophe ::
          (doubled line ++ [apostrophe]))))) := by
    have options : "-Verb RunAs -WindowStyle Hidden -ArgumentList ".toList =
        "-Verb".toList ++ ' ' :: ("RunAs".toList ++ ' ' :: ("-WindowStyle".toList ++ ' ' ::
          ("Hidden".toList ++ ' ' :: ("-ArgumentList".toList ++ [' '])))) := by decide +kernel
    rw [options]
    simp only [powershellSingleQuote, List.append_assoc, List.cons_append, List.nil_append]
  have first {rest : List Char} := @read_word "-Verb".toList rest (by decide +kernel)
    (by decide +kernel)
  have second {rest : List Char} := @read_word "RunAs".toList rest (by decide +kernel)
    (by decide +kernel)
  have third {rest : List Char} := @read_word "-WindowStyle".toList rest (by decide +kernel)
    (by decide +kernel)
  have fourth {rest : List Char} := @read_word "Hidden".toList rest (by decide +kernel)
    (by decide +kernel)
  have fifth {rest : List Char} := @read_word "-ArgumentList".toList rest (by decide +kernel)
    (by decide +kernel)
  rw [shape, first, second, third, fourth, fifth, read_between_cons, if_neg (by decide),
    if_pos isSingleQuote_apostrophe]
  simp only [Option.map_map]
  rfl

/-- The script starts the helper as it was meant exactly when neither the path nor an argument
has a curly quote. -/
theorem launches_iff (helper : List Char) (arguments : List (List Char)) :
    Launches (buildWindowsTunnelLaunchScript helper arguments) helper arguments ↔
      (∀ c ∈ helper, isCurly c = false) ∧
        ∀ argument ∈ arguments, ∀ c ∈ argument, isCurly c = false := by
  constructor
  · rintro ⟨line, script, same⟩
    rw [read_script] at script
    obtain ⟨tokens, read, equal⟩ := Option.map_eq_some_iff.mp script
    simp only [List.cons.injEq, true_and] at equal
    rw [equal] at read
    have straight := straight_of_read read
    refine ⟨straight, ?_⟩
    rw [read_doubled straight, read_quoted_space, read_options] at read
    obtain ⟨_, options, equal⟩ := Option.map_eq_some_iff.mp read
    obtain ⟨_, last, rfl⟩ := Option.map_eq_some_iff.mp options
    simp only [List.cons.injEq, true_and] at equal
    rw [equal.2] at last
    by_contra curled
    have curly : ∃ argument ∈ arguments, ∃ c ∈ argument, isCurly c = true := by
      simpa using curled
    have fewer := countP_read_lt last (curly_argumentLine.mpr curly)
    have kept := @WindowsArguments.countP_split_le isCurly (by decide) (by decide) line
    rw [same, ← countP_argumentLine] at kept
    have closing : [apostrophe].countP isCurly = 0 := by decide
    rw [closing, List.countP_nil] at fewer
    omega
  · rintro ⟨straight, plain⟩
    have lines : ∀ c ∈ argumentLine arguments, isCurly c = false := by
      intro c member
      by_contra curly
      obtain ⟨argument, inside, other, within, curled⟩ :=
        curly_argumentLine.mp ⟨c, member, by simpa using curly⟩
      rw [plain argument inside other within] at curled
      cases curled
    refine ⟨argumentLine arguments, ?_, split_argumentLine arguments⟩
    rw [read_script, read_doubled straight, read_quoted_space, read_options, read_doubled lines]
    rfl

def curlyHelper : List Char :=
  "C:\\Users\\O\u2019Brien\\Noland Connect\\noland-net-helper.exe".toList

def runArguments : List (List Char) := ["run".toList, "--launch-id".toList, "7 a".toList]

example : PowerShell.read (.string []) "C:\\Users\\O\u2019 Brien".toList =
    some [.string "C:\\Users\\O".toList, .word "Brien".toList] := by
  decide +kernel

/-- PowerShell takes the path up to the typographic apostrophe for the program. -/
theorem curly_path_cut :
    ¬ Launches (buildWindowsTunnelLaunchScript curlyHelper runArguments) curlyHelper
      runArguments := by
  rintro ⟨line, script, _⟩
  have unread : readCommand (buildWindowsTunnelLaunchScript curlyHelper runArguments) = none := by
    decide +kernel
  rw [unread] at script
  cases script

end Noland.Network
