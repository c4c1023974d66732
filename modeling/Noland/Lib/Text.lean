import Mathlib.Data.List.Basic

/-!
The operations of Rust's `str` and `Path` that remote keys and pointers go through, on lists of
characters.
-/

namespace Noland.Text

/-- The Unicode `White_Space` property, which `str::trim` uses. -/
def whitespace (c : Char) : Bool :=
  ('\u0009' ≤ c && c ≤ '\u000d') || c == ' ' || c == '\u0085' || c == '\u00a0' ||
    c == '\u1680' || ('\u2000' ≤ c && c ≤ '\u200a') || c == '\u2028' || c == '\u2029' ||
    c == '\u202f' || c == '\u205f' || c == '\u3000'

def trim (text : List Char) : List Char :=
  ((text.dropWhile whitespace).reverse.dropWhile whitespace).reverse

def endsWith (suffix text : List Char) : Bool := suffix.isSuffixOf text

def splitOnce (separator : Char) : List Char → Option (List Char × List Char)
  | [] => none
  | c :: rest =>
      if c = separator then some ([], rest)
      else (splitOnce separator rest).map fun (before, after) => (c :: before, after)

def pieces (separator : Char) : List Char → List (List Char)
  | [] => [[]]
  | c :: rest =>
      if c = separator then [] :: pieces separator rest
      else
        match pieces separator rest with
        | [] => [[c]]
        | piece :: others => (c :: piece) :: others

def fileName (path : List Char) : List Char := (pieces '/' path).getLastD []

/-- `Path::file_stem`: a name that only starts with a dot is its own stem. -/
def fileStem (path : List Char) : List Char :=
  match splitOnce '.' (fileName path).reverse with
  | none => fileName path
  | some (_, before) => if before = [] then fileName path else before.reverse

theorem pieces_ne_nil (separator : Char) (text : List Char) : pieces separator text ≠ [] := by
  cases text with
  | nil => simp [pieces]
  | cons c rest =>
      unfold pieces
      split
      · simp
      · split <;> simp

theorem pieces_of_notMem {separator : Char} {text : List Char} (outside : separator ∉ text) :
    pieces separator text = [text] := by
  induction text with
  | nil => rfl
  | cons c rest ih =>
      have different : c ≠ separator := fun same => outside (same ▸ List.mem_cons_self)
      have rest_pieces := ih fun member => outside (List.mem_cons_of_mem c member)
      simp [pieces, different, rest_pieces]

theorem pieces_append (separator : Char) (front text : List Char) :
    pieces separator (front ++ separator :: text) =
      pieces separator front ++ pieces separator text := by
  induction front with
  | nil => simp [pieces]
  | cons c rest ih =>
      have some_piece := pieces_ne_nil separator rest
      by_cases same : c = separator
      · simp [pieces, same, ih]
      · rw [List.cons_append, pieces, if_neg same, ih, pieces, if_neg same]
        cases all : pieces separator rest with
        | nil => exact absurd all some_piece
        | cons piece others => rfl

theorem splitOnce_append {separator : Char} {front : List Char} (outside : separator ∉ front)
    (text : List Char) : splitOnce separator (front ++ separator :: text) = some (front, text) := by
  induction front with
  | nil => simp [splitOnce]
  | cons c rest ih =>
      have different : c ≠ separator := fun same => outside (same ▸ List.mem_cons_self)
      have inner := ih fun member => outside (List.mem_cons_of_mem c member)
      simp [splitOnce, different, inner]

theorem dropWhile_of_head {p : Char → Bool} {text : List Char}
    (head : ∀ c ∈ text.head?, p c = false) : text.dropWhile p = text := by
  cases text with
  | nil => rfl
  | cons c rest => simp [head c (by simp)]

theorem trim_of_all {text : List Char} (clean : ∀ c ∈ text, whitespace c = false) :
    trim text = text := by
  unfold trim
  rw [dropWhile_of_head fun c member => clean c (List.mem_of_mem_head? member)]
  rw [dropWhile_of_head fun c member =>
    clean c (List.mem_reverse.mp (List.mem_of_mem_head? member))]
  exact List.reverse_reverse text

theorem fileStem_append {front stem extension : List Char} (named : stem ≠ [])
    (stem_clean : '/' ∉ stem) (extension_slash : '/' ∉ extension)
    (extension_dot : '.' ∉ extension) :
    fileStem (front ++ '/' :: (stem ++ '.' :: extension)) = stem := by
  have clean : '/' ∉ stem ++ '.' :: extension := by simp [stem_clean, extension_slash]
  have name : fileName (front ++ '/' :: (stem ++ '.' :: extension)) = stem ++ '.' :: extension := by
    unfold fileName
    rw [pieces_append, pieces_of_notMem clean]
    simp
  have reversed : (stem ++ '.' :: extension).reverse = extension.reverse ++ '.' :: stem.reverse := by
    simp
  unfold fileStem
  rw [name, reversed, splitOnce_append (by simpa using extension_dot)]
  simp [named]

theorem getLast?_append_text (front : String) {text : String} (some_text : text.toList ≠ []) :
    (front ++ text).toList.getLast? = text.toList.getLast? := by
  rw [String.toList_append, List.getLast?_append]
  cases last : text.toList.getLast? with
  | none => exact absurd (List.getLast?_eq_none_iff.mp last) some_text
  | some c => rfl

end Noland.Text
