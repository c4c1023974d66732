import Mathlib.Data.List.DropRight
import Noland.Network.TunnelRecords

/-!
Three programs read the MTU of the Interface section of a config file, each with a scanner of its
own, and the tuning of the MTU writes it. The scanners differ in what they take for a header, for
a comment and for the end of their search.
-/

namespace Noland.Network

open Noland.Text

abbrev Line := List Char

def interfaceName : Line := "interface".toList

def mtuKey : Line := "mtu".toList

def entersInterface (trimmed : Line) (inside : Bool) : Bool :=
  if isHeader trimmed then eqIgnoreCase (headerName trimmed) interfaceName else inside

def mtuValue (trimmed : Line) : Option Line :=
  match splitOnce '=' trimmed with
  | none => none
  | some (key, value) => if eqIgnoreCase (trim key) mtuKey then some (trim value) else none

def scanMtu (cut : Line → Line) (read : Line → Option Nat) : Bool → List Line → Option Nat
  | _, [] => none
  | inside, line :: rest =>
      let trimmed := cut line
      if isHeader trimmed then scanMtu cut read (entersInterface trimmed inside) rest
      else if inside then
        match mtuValue trimmed with
        | none => scanMtu cut read inside rest
        | some value => read value
      else scanMtu cut read inside rest

/-- `read_config_mtu` of the tuning. -/
def readConfigMtu (config : List Char) : Option Nat := scanMtu trim parseU16 false (textLines config)

def beforeHash (line : Line) : Line := line.takeWhile fun c => c ≠ '#'

/-- `parse` of an unsigned number below a limit. -/
def parseBelow (limit : Nat) (text : List Char) : Option Nat :=
  let digits := if text.head? = some '+' then text.tail else text
  let value := digits.foldl (fun sum digit => 10 * sum + (digit.toNat - '0'.toNat)) 0
  if digits ≠ [] ∧ digits.all Char.isDigit ∧ value < limit then some value else none

/-- `parse_interface_mtu` of the packet sizes, which cuts comments off first. -/
def parseInterfaceMtu (config : List Char) : Option Nat :=
  scanMtu (fun line => trim (beforeHash line))
    (fun value => (parseBelow (2 ^ 32) value).filter fun mtu => 0 < mtu) false (textLines config)

/-- `optional_value` of the helper for the MTU. -/
def helperMtu (config : List Char) : Option Line :=
  optionalValue "Interface".toList "MTU".toList false (textLines config)

def mtuText (mtu : Nat) : Line := (toString mtu).toList

def mtuLine (mtu : Nat) : Line := "MTU = ".toList ++ mtuText mtu

def replaceLines (mtu : Nat) : Bool → List Line → List (Line × Bool)
  | _, [] => []
  | inside, line :: rest =>
      let trimmed := trim line
      let inside := entersInterface trimmed inside
      if inside && (mtuValue trimmed).isSome then (mtuLine mtu, true) :: replaceLines mtu inside rest
      else (line, false) :: replaceLines mtu inside rest

def joinLines (lines : List Line) : List Char := lines.flatMap fun line => line ++ ['\n']

def replaceInterfaceMtu (config : List Char) (mtu : Nat) : Option (List Char) :=
  let lines := replaceLines mtu false (textLines config)
  if lines.any Prod.snd then some (joinLines (lines.map Prod.fst)) else none

theorem stripReturn_append (line : Line) : stripReturn (line ++ ['\r']) = line := by
  simp [stripReturn]

theorem stripReturn_cases (line : Line) :
    stripReturn line = line ∧ line.getLast? ≠ some '\r' ∨
      line = stripReturn line ++ ['\r'] ∧ line.getLast? = some '\r' := by
  by_cases last : line.getLast? = some '\r'
  · refine Or.inr ⟨?_, last⟩
    obtain ⟨front, rfl⟩ := List.getLast?_eq_some_iff.mp last
    rw [stripReturn_append]
  · exact Or.inl ⟨if_neg last, last⟩

theorem stripReturn_eq_iff (line : Line) : stripReturn line = line ↔ line.getLast? ≠ some '\r' := by
  obtain ⟨same, plain⟩ | ⟨longer, last⟩ := stripReturn_cases line
  · exact iff_of_true same plain
  · refine iff_of_false ?_ fun plain => plain last
    intro same
    have length := congrArg List.length longer
    rw [same] at length
    simp at length

theorem linesOf_append (lines : List Line) : linesOf (lines ++ [[]]) = lines.map stripReturn := by
  induction lines with
  | nil => rfl
  | cons line rest ih =>
      cases rest with
      | nil => rfl
      | cons next others =>
          rw [List.cons_append, List.cons_append, linesOf, ← List.cons_append, ih]
          rfl

theorem pieces_joinLines {lines : List Line} (whole : ∀ line ∈ lines, '\n' ∉ line) :
    pieces '\n' (joinLines lines) = lines ++ [[]] := by
  induction lines with
  | nil => rfl
  | cons line rest ih =>
      have joined : joinLines (line :: rest) = line ++ '\n' :: joinLines rest := by
        simp [joinLines]
      rw [joined, pieces_append, pieces_of_notMem (whole line List.mem_cons_self),
        ih fun other member => whole other (List.mem_cons_of_mem line member)]
      rfl

theorem textLines_joinLines {lines : List Line} (whole : ∀ line ∈ lines, '\n' ∉ line) :
    textLines (joinLines lines) = lines.map stripReturn := by
  rw [textLines, pieces_joinLines whole, linesOf_append]

theorem notMem_pieces (separator : Char) (text : List Char) :
    ∀ piece ∈ pieces separator text, separator ∉ piece := by
  induction text with
  | nil => simp [pieces]
  | cons c rest ih =>
      intro piece member
      unfold pieces at member
      split at member
      · rcases List.mem_cons.mp member with rfl | later
        · exact List.not_mem_nil
        · exact ih piece later
      · rename_i different
        cases all : pieces separator rest with
        | nil => exact absurd all (pieces_ne_nil separator rest)
        | cons first others =>
            rw [all] at member ih
            rcases List.mem_cons.mp member with rfl | later
            · intro inside
              rcases List.mem_cons.mp inside with same | later
              · exact different same.symm
              · exact ih first List.mem_cons_self later
            · exact ih piece (List.mem_cons_of_mem _ later)

theorem notMem_stripReturn {c : Char} {line : Line} (outside : c ∉ line) :
    c ∉ stripReturn line := by
  unfold stripReturn
  split
  · exact fun inside => outside (List.dropLast_subset _ inside)
  · exact outside

theorem notMem_linesOf {lines : List Line} (whole : ∀ line ∈ lines, '\n' ∉ line) :
    ∀ line ∈ linesOf lines, '\n' ∉ line := by
  induction lines with
  | nil => exact whole
  | cons line rest ih =>
      cases rest with
      | nil =>
          intro other member
          unfold linesOf at member
          split at member
          · cases member
          · exact whole other member
      | cons next others =>
          intro other member
          rcases List.mem_cons.mp member with rfl | later
          · exact notMem_stripReturn (whole line List.mem_cons_self)
          · exact ih (fun line member => whole line (List.mem_cons_of_mem _ member)) other later

theorem notMem_textLines (config : List Char) : ∀ line ∈ textLines config, '\n' ∉ line :=
  notMem_linesOf (notMem_pieces '\n' config)

theorem trim_eq (text : Line) : trim text = (text.dropWhile whitespace).rdropWhile whitespace := rfl

theorem trim_append_return (line : Line) : trim (line ++ ['\r']) = trim line := by
  rw [trim_eq, trim_eq, List.dropWhile_append]
  split
  · rename_i blank
    rw [List.isEmpty_iff.mp blank]
    rfl
  · rw [List.rdropWhile_concat_pos _ _ _ rfl]

theorem trim_stripReturn (line : Line) : trim (stripReturn line) = trim line := by
  obtain ⟨same, -⟩ | ⟨longer, -⟩ := stripReturn_cases line
  · rw [same]
  · exact (trim_append_return _).symm.trans (congrArg trim longer.symm)

theorem trim_beforeHash_stripReturn (line : Line) :
    trim (beforeHash (stripReturn line)) = trim (beforeHash line) := by
  obtain ⟨same, -⟩ | ⟨longer, -⟩ := stripReturn_cases line
  · rw [same]
  · have cut : beforeHash line = beforeHash (stripReturn line ++ ['\r']) :=
      congrArg beforeHash longer
    rw [cut, beforeHash, beforeHash, List.takeWhile_append]
    split
    · rename_i all
      rw [(List.takeWhile_prefix _).eq_of_length all]
      exact (trim_append_return _).symm
    · rfl

theorem trim_around {c : Char} (solid : whitespace c = false) (front back : Line) :
    trim (front ++ c :: back) =
      front.dropWhile whitespace ++ c :: back.rdropWhile whitespace := by
  have left : (front ++ c :: back).dropWhile whitespace = front.dropWhile whitespace ++ c :: back := by
    rw [List.dropWhile_append]
    split
    · rename_i blank
      rw [List.isEmpty_iff.mp blank, List.dropWhile_cons_of_neg (by rw [solid]; exact nofun)]
      rfl
    · rfl
  rw [trim_eq, left, List.rdropWhile, List.reverse_append, List.reverse_cons, List.append_assoc,
    List.dropWhile_append]
  have kept : ([c] ++ (front.dropWhile whitespace).reverse).dropWhile whitespace =
      [c] ++ (front.dropWhile whitespace).reverse :=
    List.dropWhile_cons_of_neg (by rw [solid]; exact nofun)
  split
  · rename_i blank
    rw [kept, List.rdropWhile, List.isEmpty_iff.mp blank]
    simp
  · rw [List.rdropWhile]
    simp

theorem mem_trim {c : Char} (solid : whitespace c = false) {text : Line} (member : c ∈ text) :
    c ∈ trim text := by
  obtain ⟨front, back, rfl⟩ := List.append_of_mem member
  rw [trim_around solid]
  exact List.mem_append_right _ List.mem_cons_self

theorem trim_dropWhile (text : Line) : trim (text.dropWhile whitespace) = trim text := by
  rw [trim_eq, trim_eq, List.dropWhile_idempotent]

theorem trim_subset (text : Line) : trim text ⊆ text := fun _ member =>
  (List.dropWhile_sublist _).subset ((List.rdropWhile_prefix _ _).subset member)

theorem splitOnce_none {separator : Char} {text : Line} (outside : separator ∉ text) :
    splitOnce separator text = none := by
  induction text with
  | nil => rfl
  | cons c rest ih =>
      have different : c ≠ separator := fun same => outside (same ▸ List.mem_cons_self)
      rw [splitOnce, if_neg different, ih fun member => outside (List.mem_cons_of_mem c member)]
      rfl

theorem mtuValue_append {key : Line} (outside : '=' ∉ key) (value : Line) :
    mtuValue (key ++ '=' :: value) =
      if eqIgnoreCase (trim key) mtuKey then some (trim value) else none := by
  rw [mtuValue, splitOnce_append outside]

theorem mtuValue_none {text : Line} (outside : '=' ∉ text) : mtuValue text = none := by
  rw [mtuValue, splitOnce_none outside]

theorem mtuValue_trim (line : Line) : (mtuValue (trim line)).isSome = (mtuValue line).isSome := by
  by_cases assigned : '=' ∈ line
  · obtain ⟨key, value, rfl, outside⟩ := List.eq_append_cons_of_mem assigned
    have still : '=' ∉ key.dropWhile whitespace :=
      fun member => outside ((List.dropWhile_sublist _).subset member)
    rw [trim_around rfl, mtuValue_append still, mtuValue_append outside, trim_dropWhile]
    split <;> rfl
  · rw [mtuValue_none assigned, mtuValue_none fun member => assigned (trim_subset line member)]

theorem beforeHash_append {front : Line} (plain : '#' ∉ front) (back : Line) :
    beforeHash (front ++ back) = front ++ beforeHash back := by
  rw [beforeHash, List.takeWhile_append_of_pos]
  · rfl
  · intro c member
    exact decide_eq_true fun same => plain (same ▸ member)

theorem eqIgnoreCase_hash {key : Line} (member : '#' ∈ key) :
    eqIgnoreCase (trim key) mtuKey = false := by
  refine decide_eq_false fun same => ?_
  have lowered : Char.toLower '#' ∈ (trim key).map Char.toLower :=
    List.mem_map_of_mem (mem_trim rfl member)
  rw [same] at lowered
  revert lowered
  decide

theorem mtuValue_beforeHash (line : Line) :
    (mtuValue (beforeHash line)).isSome = (mtuValue line).isSome := by
  by_cases assigned : '=' ∈ line
  · obtain ⟨key, value, rfl, outside⟩ := List.eq_append_cons_of_mem assigned
    by_cases commented : '#' ∈ key
    · have cut : beforeHash (key ++ '=' :: value) = beforeHash key := by
        obtain ⟨front, back, rfl, plain⟩ := List.eq_append_cons_of_mem commented
        rw [List.append_assoc, beforeHash_append plain, beforeHash_append plain]
        rfl
      have dropped : '=' ∉ beforeHash key :=
        fun member => outside ((List.takeWhile_sublist _).subset member)
      rw [cut, mtuValue_none dropped, mtuValue_append outside, eqIgnoreCase_hash commented]
      rfl
    · have kept : beforeHash (key ++ '=' :: value) = key ++ '=' :: beforeHash value :=
        beforeHash_append commented _
      rw [kept, mtuValue_append outside, mtuValue_append outside]
      split <;> rfl
  · have dropped : '=' ∉ beforeHash line :=
      fun member => assigned ((List.takeWhile_sublist _).subset member)
    rw [mtuValue_none assigned, mtuValue_none dropped]

theorem mtuValue_header {line : Line} (header : isHeader line = true) : mtuValue line = none := by
  have opened : line.head? = some '[' := by
    unfold isHeader at header
    simp only [Bool.and_eq_true, decide_eq_true_eq] at header
    exact header.1
  by_cases assigned : '=' ∈ line
  · obtain ⟨key, value, rfl, outside⟩ := List.eq_append_cons_of_mem assigned
    rw [mtuValue_append outside]
    cases key with
    | nil => cases opened
    | cons c rest =>
        cases opened
        have bracket : Char.toLower '[' ∈ (trim ('[' :: rest)).map Char.toLower :=
          List.mem_map_of_mem (mem_trim rfl List.mem_cons_self)
        refine if_neg fun same => ?_
        rw [of_decide_eq_true same] at bracket
        revert bracket
        decide
  · exact mtuValue_none assigned

section Written

variable (mtu : Nat)

theorem mtuText_eq : mtuText mtu = Nat.toDigits 10 mtu := Nat.toList_repr

theorem mtuText_digits : ∀ c ∈ mtuText mtu, c.isDigit = true := by
  intro c member
  rw [mtuText_eq] at member
  exact Nat.isDigit_of_mem_toDigits (by decide) (by decide) member

theorem mtuText_ne_nil : mtuText mtu ≠ [] := by
  rw [mtuText_eq]
  exact Nat.toDigits_ne_nil

theorem digit_solid {c : Char} (digit : c.isDigit = true) :
    whitespace c = false ∧ c ≠ '+' ∧ c ≠ '#' ∧ c ≠ '\n' ∧ c ≠ '\r' := by
  have bounds : 48 ≤ c.toNat ∧ c.toNat ≤ 57 := by
    unfold Char.isDigit at digit
    rw [Bool.and_eq_true, decide_eq_true_eq, decide_eq_true_eq] at digit
    exact ⟨UInt32.le_iff_toNat_le.mp digit.1, UInt32.le_iff_toNat_le.mp digit.2⟩
  have listed : ∀ number < 58, 48 ≤ number → Char.ofNat number ∈ "0123456789".toList := by
    decide +kernel
  have member : c ∈ "0123456789".toList := by
    rw [← Char.ofNat_toNat c]
    exact listed c.toNat (by omega) bounds.1
  have solid : ("0123456789".toList.all fun c => decide (whitespace c = false ∧ c ≠ '+' ∧
      c ≠ '#' ∧ c ≠ '\n' ∧ c ≠ '\r')) = true := by
    decide
  exact of_decide_eq_true (List.all_eq_true.mp solid c member)

theorem foldl_mtuText : (mtuText mtu).foldl
    (fun sum digit => 10 * sum + (digit.toNat - '0'.toNat)) 0 = mtu := by
  rw [mtuText_eq]
  have read := @Nat.ofDigitChars_ten_toDigits mtu
  rw [Nat.ofDigitChars_eq_foldl] at read
  exact read

theorem parseBelow_mtuText {limit : Nat} (small : mtu < limit) :
    parseBelow limit (mtuText mtu) = some mtu := by
  have unsigned : (mtuText mtu).head? ≠ some '+' := by
    intro signed
    exact (digit_solid (mtuText_digits mtu _ (List.mem_of_mem_head? signed))).2.1 rfl
  rw [parseBelow, if_neg unsigned, foldl_mtuText]
  exact if_pos ⟨mtuText_ne_nil mtu, List.all_eq_true.mpr (mtuText_digits mtu), small⟩

theorem notMem_mtuLine {c : Char} (outside : c ∉ "MTU = ".toList)
    (nodigit : ∀ digit : Char, digit.isDigit = true → digit ≠ c) : c ∉ mtuLine mtu := by
  intro member
  rcases List.mem_append.mp member with inside | digit
  · exact outside inside
  · exact nodigit c (mtuText_digits mtu c digit) rfl

theorem mtuLine_header : isHeader (mtuLine mtu) = false := rfl

theorem trim_mtuLine : trim (mtuLine mtu) = mtuLine mtu := by
  have kept : (' ' :: mtuText mtu).rdropWhile whitespace = ' ' :: mtuText mtu := by
    rw [List.rdropWhile_eq_self_iff]
    intro nonempty
    have last := List.getLast_mem (mtuText_ne_nil mtu)
    rw [List.getLast_cons (mtuText_ne_nil mtu),
      (digit_solid (mtuText_digits mtu _ last)).1]
    exact nofun
  have parted : mtuLine mtu = "MTU ".toList ++ '=' :: ' ' :: mtuText mtu := rfl
  rw [parted, trim_around rfl, kept]
  rfl

theorem mtuValue_mtuLine : mtuValue (mtuLine mtu) = some (mtuText mtu) := by
  have parted : mtuLine mtu = "MTU ".toList ++ '=' :: ' ' :: mtuText mtu := rfl
  have blank : (' ' :: mtuText mtu).dropWhile whitespace = (mtuText mtu).dropWhile whitespace := rfl
  rw [parted, mtuValue_append (by decide), ← trim_dropWhile (' ' :: mtuText mtu), blank,
    trim_dropWhile, trim_of_all fun c member => (digit_solid (mtuText_digits mtu c member)).1]
  rfl

theorem beforeHash_mtuLine : beforeHash (mtuLine mtu) = mtuLine mtu := by
  have plain : '#' ∉ mtuLine mtu :=
    notMem_mtuLine mtu (by decide) fun digit is => (digit_solid is).2.2.1
  have kept : beforeHash (mtuLine mtu ++ []) = mtuLine mtu ++ [] := beforeHash_append plain []
  rwa [List.append_nil] at kept

theorem stripReturn_mtuLine : stripReturn (mtuLine mtu) = mtuLine mtu := by
  rw [stripReturn_eq_iff]
  intro last
  exact notMem_mtuLine mtu (by decide) (fun digit is => (digit_solid is).2.2.2.2)
    (List.mem_of_getLast? last)

theorem newline_notMem_mtuLine : '\n' ∉ mtuLine mtu :=
  notMem_mtuLine mtu (by decide) fun digit is => (digit_solid is).2.2.2.1

end Written

def endsSearch (inside : Bool) (trimmed : Line) : Bool :=
  inside && !isHeader trimmed && decide (trimmed ≠ []) && decide (trimmed.head? ≠ some '#') &&
    (splitOnce '=' trimmed).isNone

def Assigning : Bool → List Line → Bool
  | _, [] => true
  | inside, line :: rest =>
      let trimmed := trim line
      let inside := entersInterface trimmed inside
      if inside && (mtuValue trimmed).isSome then true
      else !endsSearch inside trimmed && Assigning inside rest

/-- The line that is the first one for the reader that cuts comments off is in an Interface section
for the writer as well, or has the value already. The flags are the two sections. -/
def Shared (mtu : Nat) : Bool → Bool → List Line → Bool
  | _, _, [] => false
  | plain, commented, line :: rest =>
      let trimmed := trim (beforeHash line)
      let plain := entersInterface (trim line) plain
      let commented := entersInterface trimmed commented
      if commented && (mtuValue trimmed).isSome then
        plain || decide ((mtuValue trimmed).bind (parseBelow (2 ^ 32)) = some mtu)
      else Shared mtu plain commented rest

def inInterface (start : Bool) (lines : List Line) (index : Nat) : Bool :=
  match (lines.take (index + 1)).reverse.find? fun line => isHeader (trim line) with
  | some header => eqIgnoreCase (headerName (trim header)) interfaceName
  | none => start

def OtherLine (config : List Char) (index : Nat) (line : Line) : Prop :=
  (textLines config)[index]? = some line ∧
    ¬ (inInterface false (textLines config) index = true ∧ (mtuValue (trim line)).isSome = true)

/-- No line but an MTU line of an Interface section ends in a carriage return. -/
def NoReturns (config : List Char) : Prop :=
  ∀ index line, OtherLine config index line → line.getLast? ≠ some '\r'

structure Agrees (config : List Char) (mtu : Nat) (written : List Char) : Prop where
  read : readConfigMtu written = some mtu
  parsed : parseInterfaceMtu written = some mtu
  helped : helperMtu written = some (mtuText mtu)
  again : replaceInterfaceMtu written mtu = some written
  unchanged : ∀ index line, OtherLine config index line →
    (textLines written)[index]? = some line
  length : (textLines written).length = (textLines config).length

section Scans

variable {mtu : Nat} {inside plain commented : Bool} {line trimmed : Line} {lines rest : List Line}

theorem scanMtu_stripped {cut : Line → Line} {read : Line → Option Nat}
    (stripped : ∀ line, cut (stripReturn line) = cut line) (inside : Bool) (lines : List Line) :
    scanMtu cut read inside (lines.map stripReturn) = scanMtu cut read inside lines := by
  induction lines generalizing inside with
  | nil => rfl
  | cons line rest ih => rw [List.map_cons, scanMtu, scanMtu, stripped, ih, ih]

theorem optionalValue_stripped (name key : Line) (inside : Bool) (lines : List Line) :
    optionalValue name key inside (lines.map stripReturn) = optionalValue name key inside lines := by
  induction lines generalizing inside with
  | nil => rfl
  | cons line rest ih =>
      rw [List.map_cons, optionalValue, optionalValue, trim_stripReturn]
      simp only [ih]

theorem enters_of_value (assigned : (mtuValue trimmed).isSome = true) (inside : Bool) :
    entersInterface trimmed inside = inside := by
  refine if_neg fun header => ?_
  rw [mtuValue_header header] at assigned
  cases assigned

theorem replaceLines_stripped (mtu : Nat) (inside : Bool) (lines : List Line) :
    replaceLines mtu inside (((replaceLines mtu inside lines).map Prod.fst).map stripReturn) =
      (replaceLines mtu inside lines).map fun (line, replaced) => (stripReturn line, replaced) := by
  induction lines generalizing inside with
  | nil => rfl
  | cons line rest ih =>
      rw [replaceLines]
      by_cases assigned : (entersInterface (trim line) inside && (mtuValue (trim line)).isSome) = true
      · have stays : entersInterface (trim line) inside = inside :=
          enters_of_value (Bool.and_eq_true_iff.mp assigned).2 inside
        have here : inside = true := stays.symm.trans (Bool.and_eq_true_iff.mp assigned).1
        subst here
        rw [if_pos assigned, List.map_cons, List.map_cons, replaceLines, stripReturn_mtuLine,
          trim_mtuLine, mtuValue_mtuLine, stays, entersInterface, mtuLine_header]
        have written : (mtuLine mtu, true) = (stripReturn (mtuLine mtu), true) := by
          rw [stripReturn_mtuLine]
        exact congrArg₂ List.cons written (ih true)
      · rw [if_neg assigned, List.map_cons, List.map_cons, replaceLines, trim_stripReturn,
          if_neg assigned, ih]
        rfl

theorem scanMtu_cons (cut : Line → Line) (read : Line → Option Nat) :
    scanMtu cut read inside (line :: rest) =
      if entersInterface (cut line) inside && (mtuValue (cut line)).isSome then
        (mtuValue (cut line)).bind read
      else scanMtu cut read (entersInterface (cut line) inside) rest := by
  rw [scanMtu]
  by_cases header : isHeader (cut line) = true
  · rw [if_pos header, mtuValue_header header, Option.isSome_none, Bool.and_false]
    rfl
  · have stays : entersInterface (cut line) inside = inside := if_neg header
    rw [if_neg header, stays]
    cases inside <;> cases mtuValue (cut line) <;> rfl

theorem header_split {header : Line} (is : isHeader header = true) :
    header = headerOf (headerName header) := by
  unfold isHeader at is
  simp only [Bool.and_eq_true, decide_eq_true_eq] at is
  obtain ⟨opened, closed⟩ := is
  obtain ⟨rest, rfl⟩ := List.head?_eq_some_iff.mp opened
  obtain ⟨front, same⟩ := List.getLast?_eq_some_iff.mp closed
  cases front with
  | nil => cases same
  | cons c front =>
      rw [List.cons_append, List.cons.injEq] at same
      obtain ⟨-, rfl⟩ := same
      rw [headerName, List.tail_cons, List.dropLast_concat]
      rfl

theorem eqIgnoreCase_header {header : Line} (is : isHeader header = true) :
    eqIgnoreCase header (headerOf "Interface".toList) =
      eqIgnoreCase (headerName header) interfaceName := by
  have lowered : "Interface".toList.map Char.toLower = interfaceName.map Char.toLower := by decide
  conv_lhs => rw [header_split is]
  apply decide_eq_decide.mpr
  rw [headerOf, headerOf, List.map_cons, List.map_cons, List.map_append, List.map_append,
    List.cons.injEq, and_iff_right rfl, List.append_left_inj, lowered]

theorem mtuValue_comment {comment : Line} (is : comment.head? = some '#') :
    mtuValue comment = none := by
  obtain ⟨rest, rfl⟩ := List.head?_eq_some_iff.mp is
  by_cases assigned : '=' ∈ '#' :: rest
  · obtain ⟨key, value, parted, outside⟩ := List.eq_append_cons_of_mem assigned
    rw [parted, mtuValue_append outside]
    have commented : '#' ∈ key := by
      cases key with
      | nil => cases parted
      | cons c front =>
          cases parted
          exact List.mem_cons_self
    rw [eqIgnoreCase_hash commented]
    rfl
  · exact mtuValue_none assigned

theorem helper_cons :
    optionalValue "Interface".toList "MTU".toList inside (line :: rest) =
      if entersInterface (trim line) inside && (mtuValue (trim line)).isSome then mtuValue (trim line)
      else if endsSearch (entersInterface (trim line) inside) (trim line) then none
      else optionalValue "Interface".toList "MTU".toList (entersInterface (trim line) inside)
        rest := by
  have sameKey : ∀ key, eqIgnoreCase key "MTU".toList = eqIgnoreCase key mtuKey := fun _ => rfl
  rw [optionalValue]
  by_cases skipped : trim line = [] ∨ (trim line).head? = some '#'
  · have unassigned : mtuValue (trim line) = none := by
      rcases skipped with blank | comment
      · rw [blank]
        rfl
      · exact mtuValue_comment comment
    have plain : isHeader (trim line) = false := by
      rcases skipped with blank | comment
      · rw [blank]
        rfl
      · rw [isHeader, comment]
        rfl
    have passed : endsSearch inside (trim line) = false := by
      rcases skipped with blank | comment
      · simp [endsSearch, blank]
      · simp [endsSearch, comment]
    have stays : entersInterface (trim line) inside = inside :=
      if_neg (by rw [plain]; exact nofun)
    rw [if_pos skipped, unassigned, stays, passed, Option.isSome_none, Bool.and_false]
    rfl
  · rw [if_neg skipped]
    by_cases header : isHeader (trim line) = true
    · have enters : entersInterface (trim line) inside =
          eqIgnoreCase (headerName (trim line)) interfaceName := if_pos header
      have passed : ∀ inside, endsSearch inside (trim line) = false := by
        simp [endsSearch, header]
      rw [if_pos header, mtuValue_header header, passed, eqIgnoreCase_header header, enters,
        Option.isSome_none, Bool.and_false]
      rfl
    · have stays : entersInterface (trim line) inside = inside := if_neg header
      rw [not_or] at skipped
      rw [if_neg header, stays]
      cases inside with
      | false => simp [endsSearch]
      | true =>
          cases parted : splitOnce '=' (trim line) with
          | none =>
              have unassigned : mtuValue (trim line) = none := by rw [mtuValue, parted]
              have ends : endsSearch true (trim line) = true := by
                simp [endsSearch, parted, header, skipped.1, skipped.2]
              rw [unassigned, ends]
              rfl
          | some parts =>
              obtain ⟨key, value⟩ := parts
              have passed : endsSearch true (trim line) = false := by simp [endsSearch, parted]
              rw [passed, if_pos rfl]
              dsimp only
              rw [sameKey]
              by_cases mine : eqIgnoreCase (trim key) mtuKey = true
              · have assigned : mtuValue (trim line) = some (trim value) := by
                  rw [mtuValue, parted]
                  exact if_pos mine
                rw [if_pos mine, assigned]
                rfl
              · have unassigned : mtuValue (trim line) = none := by
                  rw [mtuValue, parted]
                  exact if_neg mine
                rw [if_neg mine, unassigned]
                rfl

theorem scan_replaced (small : mtu < 2 ^ 16)
    (replaced : (replaceLines mtu inside lines).any Prod.snd = true) :
    scanMtu trim parseU16 inside ((replaceLines mtu inside lines).map Prod.fst) = some mtu := by
  induction lines generalizing inside with
  | nil => cases replaced
  | cons line rest ih =>
      rw [replaceLines] at replaced ⊢
      by_cases assigned : (entersInterface (trim line) inside && (mtuValue (trim line)).isSome) = true
      · have stays := enters_of_value (Bool.and_eq_true_iff.mp assigned).2 inside
        have here : inside = true := stays.symm.trans (Bool.and_eq_true_iff.mp assigned).1
        rw [if_pos assigned, List.map_cons, scanMtu_cons, trim_mtuLine, mtuValue_mtuLine, here,
          entersInterface, mtuLine_header]
        exact parseBelow_mtuText mtu small
      · rw [if_neg assigned] at replaced
        rw [if_neg assigned, List.map_cons, scanMtu_cons, if_neg assigned]
        exact ih replaced

theorem helper_replaced (replaced : (replaceLines mtu inside lines).any Prod.snd = true) :
    optionalValue "Interface".toList "MTU".toList inside
        ((replaceLines mtu inside lines).map Prod.fst) = some (mtuText mtu) ↔
      Assigning inside lines = true := by
  induction lines generalizing inside with
  | nil => cases replaced
  | cons line rest ih =>
      rw [replaceLines] at replaced ⊢
      rw [Assigning]
      by_cases assigned : (entersInterface (trim line) inside && (mtuValue (trim line)).isSome) = true
      · have stays := enters_of_value (Bool.and_eq_true_iff.mp assigned).2 inside
        have here : inside = true := stays.symm.trans (Bool.and_eq_true_iff.mp assigned).1
        rw [if_pos assigned, if_pos assigned, List.map_cons, helper_cons, trim_mtuLine,
          mtuValue_mtuLine, here, entersInterface, mtuLine_header]
        exact iff_of_true rfl rfl
      · rw [if_neg assigned] at replaced
        rw [if_neg assigned, if_neg assigned, List.map_cons, helper_cons, if_neg assigned]
        cases endsSearch (entersInterface (trim line) inside) (trim line) with
        | true => exact iff_of_false nofun nofun
        | false => exact ih replaced

theorem parse_replaced (positive : 0 < mtu) (small : mtu < 2 ^ 16) :
    scanMtu (fun line => trim (beforeHash line))
        (fun value => (parseBelow (2 ^ 32) value).filter fun mtu => 0 < mtu) commented
        ((replaceLines mtu plain lines).map Prod.fst) = some mtu ↔
      Shared mtu plain commented lines = true := by
  induction lines generalizing plain commented with
  | nil => exact iff_of_false nofun nofun
  | cons line rest ih =>
      have sameKey : (mtuValue (trim (beforeHash line))).isSome = (mtuValue (trim line)).isSome := by
        rw [mtuValue_trim, mtuValue_beforeHash, mtuValue_trim]
      rw [replaceLines, Shared]
      by_cases assigned : (entersInterface (trim line) plain && (mtuValue (trim line)).isSome) = true
      · obtain ⟨inside, value⟩ := Bool.and_eq_true_iff.mp assigned
        have bare := enters_of_value (sameKey.trans value) commented
        rw [if_pos assigned, List.map_cons, scanMtu_cons, beforeHash_mtuLine, trim_mtuLine,
          mtuValue_mtuLine, bare, sameKey, value, inside]
        have stays : entersInterface (mtuLine mtu) commented = commented := rfl
        rw [stays]
        cases commented with
        | false => exact ih
        | true =>
            have large : mtu < 2 ^ 32 := by omega
            refine iff_of_true ?_ rfl
            show (parseBelow (2 ^ 32) (mtuText mtu)).filter _ = some mtu
            rw [parseBelow_mtuText mtu large]
            simp [Option.filter, positive]
      · rw [if_neg assigned, List.map_cons, scanMtu_cons]
        by_cases taken : (entersInterface (trim (beforeHash line)) commented &&
            (mtuValue (trim (beforeHash line))).isSome) = true
        · have outside : entersInterface (trim line) plain = false := by
            rw [← sameKey, (Bool.and_eq_true_iff.mp taken).2, Bool.and_true] at assigned
            exact Bool.not_eq_true _ ▸ assigned
          rw [if_pos taken, if_pos taken, outside, Bool.false_or, decide_eq_true_eq]
          obtain ⟨value, present⟩ := Option.isSome_iff_exists.mp (Bool.and_eq_true_iff.mp taken).2
          rw [present, Option.bind_some, Option.bind_some]
          cases parseBelow (2 ^ 32) value with
          | none => exact Iff.rfl
          | some read =>
              rw [Option.filter_eq_some_iff, and_iff_left_of_imp]
              intro same
              cases same
              exact decide_eq_true positive
        · rw [if_neg taken, if_neg taken]
          exact ih

theorem scan_positive {read : Line → Option Nat} {cut : Line → Line} {found : Nat}
    (scanned : scanMtu cut (fun value => (read value).filter fun mtu => 0 < mtu) inside lines =
      some found) : 0 < found := by
  induction lines generalizing inside with
  | nil => cases scanned
  | cons line rest ih =>
      rw [scanMtu_cons] at scanned
      split at scanned
      · obtain ⟨value, -, taken⟩ := Option.bind_eq_some_iff.mp scanned
        exact of_decide_eq_true (Option.filter_eq_some_iff.mp taken).2
      · exact ih scanned

theorem inInterface_succ (line : Line) (lines : List Line) (index : Nat) :
    inInterface inside (line :: lines) (index + 1) =
      inInterface (entersInterface (trim line) inside) lines index := by
  unfold inInterface
  rw [List.take_succ_cons, List.reverse_cons, List.find?_append]
  cases (lines.take (index + 1)).reverse.find? fun line => isHeader (trim line) with
  | some header => rfl
  | none =>
      by_cases header : isHeader (trim line) = true
      · simp [entersInterface, header]
      · simp [entersInterface, header]

theorem inInterface_zero (line : Line) (lines : List Line) :
    inInterface inside (line :: lines) 0 = entersInterface (trim line) inside := by
  unfold inInterface entersInterface
  by_cases header : isHeader (trim line) = true
  · simp [header]
  · simp [header]

theorem getElem?_replaceLines (index : Nat) :
    (replaceLines mtu inside lines)[index]? = lines[index]?.map fun line =>
      if inInterface inside lines index && (mtuValue (trim line)).isSome then (mtuLine mtu, true)
      else (line, false) := by
  induction lines generalizing inside index with
  | nil => rfl
  | cons line rest ih =>
      rw [replaceLines]
      cases index with
      | zero =>
          rw [inInterface_zero, List.getElem?_cons_zero, Option.map_some]
          split <;> rfl
      | succ index =>
          rw [inInterface_succ]
          split <;> exact ih index

end Scans

section Replaced

variable {config written : List Char} {mtu : Nat}

def writtenLines (mtu : Nat) (config : List Char) : List Line :=
  (replaceLines mtu false (textLines config)).map Prod.fst

theorem replaceLines_cases {index : Nat} {entry : Line × Bool}
    (found : (replaceLines mtu false (textLines config))[index]? = some entry) :
    entry = (mtuLine mtu, true) ∨ entry.2 = false ∧ OtherLine config index entry.1 := by
  rw [getElem?_replaceLines] at found
  obtain ⟨line, present, rfl⟩ := Option.map_eq_some_iff.mp found
  split
  · exact Or.inl rfl
  · rename_i other
    exact Or.inr ⟨rfl, present, by rwa [← Bool.and_eq_true]⟩

theorem replaceLines_other {index : Nat} {line : Line} (other : OtherLine config index line) :
    (replaceLines mtu false (textLines config))[index]? = some (line, false) := by
  rw [getElem?_replaceLines, other.1, Option.map_some, if_neg]
  rw [Bool.and_eq_true]
  exact other.2

theorem whole_writtenLines : ∀ line ∈ writtenLines mtu config, '\n' ∉ line := by
  intro line member
  obtain ⟨entry, inside, rfl⟩ := List.mem_map.mp member
  obtain ⟨index, found⟩ := List.mem_iff_getElem?.mp inside
  rcases replaceLines_cases found with same | ⟨-, other⟩
  · rw [same]
    exact newline_notMem_mtuLine mtu
  · exact notMem_textLines config _ (List.mem_of_getElem? other.1)

theorem joinLines_injective {left right : List Line} (leftWhole : ∀ line ∈ left, '\n' ∉ line)
    (rightWhole : ∀ line ∈ right, '\n' ∉ line) (same : joinLines left = joinLines right) :
    left = right := by
  have split := congrArg (pieces '\n') same
  rw [pieces_joinLines leftWhole, pieces_joinLines rightWhole] at split
  exact List.append_cancel_right split

theorem noReturns_iff (mtu : Nat) :
    NoReturns config ↔ ∀ line ∈ writtenLines mtu config, stripReturn line = line := by
  constructor
  · intro plain line member
    obtain ⟨entry, inside, rfl⟩ := List.mem_map.mp member
    obtain ⟨index, found⟩ := List.mem_iff_getElem?.mp inside
    rcases replaceLines_cases found with same | ⟨-, other⟩
    · rw [same]
      exact stripReturn_mtuLine mtu
    · exact (stripReturn_eq_iff _).mpr (plain index _ other)
  · intro same index line other
    apply (stripReturn_eq_iff line).mp
    exact same line (List.mem_map_of_mem (List.mem_of_getElem? (replaceLines_other other)))

theorem replaced_text (replaced : replaceInterfaceMtu config mtu = some written) :
    (replaceLines mtu false (textLines config)).any Prod.snd = true ∧
      written = joinLines (writtenLines mtu config) := by
  unfold replaceInterfaceMtu at replaced
  dsimp only at replaced
  split at replaced
  · rename_i changed
    exact ⟨changed, (Option.some.inj replaced).symm⟩
  · cases replaced

theorem replaced_lines (replaced : replaceInterfaceMtu config mtu = some written) :
    textLines written = (writtenLines mtu config).map stripReturn := by
  rw [(replaced_text replaced).2, textLines_joinLines whole_writtenLines]

theorem again_iff (replaced : replaceInterfaceMtu config mtu = some written) :
    replaceInterfaceMtu written mtu = some written ↔ NoReturns config := by
  obtain ⟨changed, text⟩ := replaced_text replaced
  have rewritten : replaceLines mtu false (textLines written) =
      (replaceLines mtu false (textLines config)).map
        fun (line, replaced) => (stripReturn line, replaced) := by
    rw [replaced_lines replaced]
    exact replaceLines_stripped mtu false (textLines config)
  have lines : (replaceLines mtu false (textLines written)).map Prod.fst =
      (writtenLines mtu config).map stripReturn := by
    rw [rewritten, writtenLines, List.map_map, List.map_map]
    rfl
  have still : (replaceLines mtu false (textLines written)).any Prod.snd = true := by
    rw [rewritten, List.any_map]
    exact changed
  have stripped : ∀ line ∈ (writtenLines mtu config).map stripReturn, '\n' ∉ line := by
    intro line member
    obtain ⟨old, inside, rfl⟩ := List.mem_map.mp member
    exact notMem_stripReturn (whole_writtenLines old inside)
  rw [replaceInterfaceMtu, if_pos still, lines, noReturns_iff mtu, Option.some.injEq, text]
  constructor
  · intro same line member
    have unchanged := joinLines_injective stripped whole_writtenLines same
    exact List.map_inj_left.mp (unchanged.trans (List.map_id _).symm) line member
  · intro same
    rw [List.map_congr_left same, List.map_id']

theorem unchanged_iff (replaced : replaceInterfaceMtu config mtu = some written) :
    (∀ index line, OtherLine config index line → (textLines written)[index]? = some line) ↔
      NoReturns config := by
  have found : ∀ index line, OtherLine config index line →
      (textLines written)[index]? = some (stripReturn line) := by
    intro index line other
    rw [replaced_lines replaced, writtenLines, List.getElem?_map, List.getElem?_map,
      replaceLines_other other]
    rfl
  constructor
  · intro unchanged index line other
    have same := (found index line other).symm.trans (unchanged index line other)
    exact (stripReturn_eq_iff line).mp (Option.some.inj same)
  · intro plain index line other
    rw [found index line other, (stripReturn_eq_iff line).mpr (plain index line other)]

theorem length_replaced (replaced : replaceInterfaceMtu config mtu = some written) :
    (textLines written).length = (textLines config).length := by
  rw [replaced_lines replaced, List.length_map, writtenLines, List.length_map]
  apply Nat.le_antisymm
  · apply List.getElem?_eq_none_iff.mp
    rw [getElem?_replaceLines, List.getElem?_eq_none (Nat.le_refl _), Option.map_none]
  · have past := List.getElem?_eq_none (Nat.le_refl (replaceLines mtu false (textLines config)).length)
    rw [getElem?_replaceLines, Option.map_eq_none_iff] at past
    exact List.getElem?_eq_none_iff.mp past

/-- After a replacement the readers agree on the MTU, another one changes nothing and the other
lines are kept, exactly if the MTU is positive, no line of an Interface section before its MTU
line assigns nothing, both readers start from one line or one value, and no other line ends in a
carriage return. -/
theorem replaced_mtu_agrees_iff (config : List Char) (mtu : Nat) (written : List Char)
    (small : mtu < 2 ^ 16) (replaced : replaceInterfaceMtu config mtu = some written) :
    Agrees config mtu written ↔
      0 < mtu ∧ Assigning false (textLines config) = true ∧
        Shared mtu false false (textLines config) = true ∧ NoReturns config := by
  obtain ⟨changed, text⟩ := replaced_text replaced
  have read : readConfigMtu written = some mtu := by
    rw [readConfigMtu, replaced_lines replaced, scanMtu_stripped trim_stripReturn]
    exact scan_replaced small changed
  have helped : helperMtu written = some (mtuText mtu) ↔
      Assigning false (textLines config) = true := by
    rw [helperMtu, replaced_lines replaced, optionalValue_stripped]
    exact helper_replaced changed
  have parsed : 0 < mtu → (parseInterfaceMtu written = some mtu ↔
      Shared mtu false false (textLines config) = true) := by
    intro positive
    rw [parseInterfaceMtu, replaced_lines replaced, scanMtu_stripped trim_beforeHash_stripReturn]
    exact parse_replaced positive small
  constructor
  · intro agrees
    have positive : 0 < mtu := scan_positive agrees.parsed
    exact ⟨positive, helped.mp agrees.helped, (parsed positive).mp agrees.parsed,
      (again_iff replaced).mp agrees.again⟩
  · rintro ⟨positive, assigning, shared, plain⟩
    exact ⟨read, (parsed positive).mpr shared, helped.mpr assigning, (again_iff replaced).mpr plain,
      (unchanged_iff replaced).mpr plain, length_replaced replaced⟩

end Replaced

namespace MtuSample

def config : List Char := "[Interface]\nSaveConfig\nMTU = 1440\n".toList

def accepted : List Char := "[Interface]\nMTU = 1440\n\n[Peer]\nMTU = 999\n".toList

def written : List Char := "[Interface]\nMTU = 1384\n\n[Peer]\nMTU = 999\n".toList

end MtuSample

/-- The helper finds no MTU after the tuning wrote one. -/
theorem replaced_mtu_unread : ¬ ∀ config mtu written, mtu < 2 ^ 16 →
    replaceInterfaceMtu config mtu = some written → Agrees config mtu written := by
  intro always
  have replaced : replaceInterfaceMtu MtuSample.config 1384 =
      some "[Interface]\nSaveConfig\nMTU = 1384\n".toList := by decide +kernel
  have helped := (always _ _ _ (by decide) replaced).helped
  revert helped
  decide +kernel

theorem replaced_mtu_agrees_sample : Agrees MtuSample.accepted 1384 MtuSample.written := by
  apply (replaced_mtu_agrees_iff MtuSample.accepted 1384 MtuSample.written (by decide)
    (by decide +kernel)).mpr
  refine ⟨by decide, by decide +kernel, by decide +kernel, ?_⟩
  rw [noReturns_iff 1384]
  decide +kernel

end Noland.Network
