import Mathlib.Data.List.Infix
import Mathlib.Tactic.IntervalCases
import Noland.Backup.Plan

/-!
A restore goes back from a logical root and a relative path if the file lies below a configured
root, nothing below the root contains a backslash and the root's id survives the trimming of its
token. Otherwise another file may have the same record.
-/

namespace Noland.Core

open Noland.Text

def solid (piece : List Char) : Bool := !redundantPiece piece

def relativeComponents (text : List Char) : List (List Char) := (pieces '/' text).filter solid

theorem pieces_clean {separator : Char} {text piece : List Char}
    (member : piece ∈ pieces separator text) : separator ∉ piece := by
  induction text generalizing piece with
  | nil =>
      rw [pieces, List.mem_singleton] at member
      simp [member]
  | cons c rest ih =>
      unfold pieces at member
      split at member
      · rcases List.mem_cons.mp member with rfl | later
        · simp
        · exact ih later
      · rename_i different
        cases found : pieces separator rest with
        | nil => exact absurd found (pieces_ne_nil separator rest)
        | cons first others =>
            rw [found] at member ih
            rcases List.mem_cons.mp member with rfl | later
            · intro inside
              rcases List.mem_cons.mp inside with same | inner
              · exact different same.symm
              · exact ih List.mem_cons_self inner
            · exact ih (List.mem_cons_of_mem _ later)

theorem pieces_intercalate {separator : Char} {list : List (List Char)} (some_ : list ≠ [])
    (clean : ∀ piece ∈ list, separator ∉ piece) :
    pieces separator ([separator].intercalate list) = list := by
  induction list with
  | nil => exact absurd rfl some_
  | cons first rest ih =>
      cases rest with
      | nil =>
          have only : [separator].intercalate [first] = first := by simp [List.intercalate]
          rw [only]
          exact pieces_of_notMem (clean first List.mem_cons_self)
      | cons second others =>
          have joined : [separator].intercalate (first :: second :: others) =
              first ++ separator :: [separator].intercalate (second :: others) := by
            simp [List.intercalate]
          rw [joined, pieces_append, pieces_of_notMem (clean first List.mem_cons_self),
            ih (by simp) fun piece member => clean piece (List.mem_cons_of_mem _ member)]
          rfl

def assembled : List (List Char) → List (List Char)
  | [] => []
  | [] :: rest => ['/'] :: rest.filter solid
  | first :: rest => first :: rest.filter solid

variable {roots : LogicalRootMap} {path : List Char} {list : List (LogicalRoot × String)}

theorem components_eq (some_ : path ≠ []) : components path = assembled (pieces '/' path) := by
  unfold components assembled solid
  split <;> simp_all

theorem assembled_append {list : List (List Char)} (some_ : list ≠ []) (more : List (List Char)) :
    assembled (list ++ more) = assembled list ++ more.filter solid := by
  cases list with
  | nil => exact absurd rfl some_
  | cons first rest =>
      cases first with
      | nil => simp [assembled]
      | cons c others => simp [assembled]

theorem components_absolute (absolute : path.head? = some '/') :
    components path = ['/'] :: relativeComponents path := by
  cases path with
  | nil => cases absolute
  | cons c rest =>
      obtain rfl : c = '/' := by simpa using absolute
      rw [components_eq (by simp)]
      simp [relativeComponents, pieces, assembled, solid, redundantPiece]

theorem components_join {base relative : String} (some_ : base ≠ "")
    (relative_ : relative.toList.head? ≠ some '/') :
    components (pathJoin base relative).toList =
      components base.toList ++ relativeComponents relative.toList := by
  have filled : base.toList ≠ [] := by
    intro empty
    exact some_ (String.toList_inj.mp (empty.trans String.toList_empty.symm))
  unfold pathJoin
  rw [if_neg relative_]
  split
  · rename_i slash
    have last : base.toList.getLast? = some '/' := slash.resolve_left filled
    obtain ⟨front, whole⟩ := List.getLast?_eq_some_iff.mp last
    rw [String.toList_append, components_eq (by simp [filled]), components_eq filled, whole]
    have split : front ++ ['/'] ++ relative.toList = front ++ '/' :: relative.toList := by simp
    rw [split, pieces_append, pieces_append, assembled_append (pieces_ne_nil _ _),
      assembled_append (pieces_ne_nil _ _)]
    simp [relativeComponents, pieces, solid, redundantPiece]
  · have joined : (base ++ "/" ++ relative).toList = base.toList ++ '/' :: relative.toList := by
      simp
    rw [joined, components_eq (by simp), components_eq filled, pieces_append,
      assembled_append (pieces_ne_nil _ _)]
    rfl

/-- The components that a component turns into when a backslash is a separator. -/
def parts (piece : List Char) : List (List Char) := (pieces '\\' piece).filter solid

theorem pieces_forwardSlashes (text : List Char) :
    pieces '/' (forwardSlashes text) = (pieces '/' text).flatMap (pieces '\\') := by
  induction text with
  | nil => rfl
  | cons c rest ih =>
      have heads : forwardSlashes (c :: rest) =
          (if c = '\\' then '/' else c) :: forwardSlashes rest := rfl
      rw [heads]
      by_cases slash : c = '/'
      · subst slash
        simp only [if_neg (by decide : ¬ ('/' : Char) = '\\')]
        rw [pieces, if_pos rfl, pieces, if_pos rfl, ih]
        rfl
      · cases found : pieces '/' rest with
        | nil => exact absurd found (pieces_ne_nil _ _)
        | cons piece others =>
            rw [found] at ih
            by_cases back : c = '\\'
            · subst back
              rw [if_pos rfl, pieces, if_pos rfl, ih, pieces, if_neg (by decide), found]
              simp [pieces]
            · rw [if_neg back, pieces, if_neg slash, ih, pieces, if_neg slash, found]
              cases inner : pieces '\\' piece with
              | nil => exact absurd inner (pieces_ne_nil _ _)
              | cons first more => simp [pieces, back, inner]

theorem relativeComponents_trimDotSlash (text : List Char) :
    relativeComponents (trimDotSlash text) = relativeComponents text := by
  induction text using trimDotSlash.induct with
  | case1 rest ih =>
      rw [trimDotSlash, ih]
      simp [relativeComponents, pieces, solid, redundantPiece]
  | case2 text other => rw [trimDotSlash.eq_2 text other]

theorem relativeComponents_dropSlashes (text : List Char) :
    relativeComponents (text.dropWhile (· == '/')) = relativeComponents text := by
  induction text with
  | nil => rfl
  | cons c rest ih =>
      by_cases slash : c = '/'
      · subst slash
        rw [List.dropWhile_cons_of_pos (by simp), ih]
        simp [relativeComponents, pieces, solid, redundantPiece]
      · rw [List.dropWhile_cons_of_neg (by simpa using slash)]

theorem parts_of_redundant {piece : List Char} (redundant : solid piece = false) :
    parts piece = [] := by
  have cases : piece = [] ∨ piece = ['.'] := by
    simpa [solid, redundantPiece, or_iff_not_imp_left] using redundant
  rcases cases with rfl | rfl <;> decide

theorem flatMap_parts_filter (list : List (List Char)) :
    (list.filter solid).flatMap parts = list.flatMap parts := by
  induction list with
  | nil => rfl
  | cons piece rest ih =>
      by_cases keeps : solid piece = true
      · rw [List.filter_cons_of_pos keeps, List.flatMap_cons, List.flatMap_cons, ih]
      · rw [List.filter_cons_of_neg keeps, List.flatMap_cons, ih,
          parts_of_redundant (by simpa using keeps), List.nil_append]

theorem relativeComponents_normalizeRelative (text : List Char) :
    relativeComponents (normalizeRelative text) = (pieces '/' text).flatMap parts := by
  unfold normalizeRelative
  rw [relativeComponents_dropSlashes, relativeComponents_trimDotSlash]
  unfold relativeComponents
  rw [pieces_forwardSlashes, List.filter_flatMap]
  rfl

theorem filter_dropWhile_redundant (list : List (List Char)) :
    (list.dropWhile redundantPiece).filter solid = list.filter solid := by
  induction list with
  | nil => rfl
  | cons piece rest ih =>
      by_cases redundant : redundantPiece piece = true
      · rw [List.dropWhile_cons_of_pos redundant, ih,
          List.filter_cons_of_neg (by simp [solid, redundant])]
      · rw [List.dropWhile_cons_of_neg redundant]

theorem dropComponents_filter (count : Nat) (list : List (List Char)) :
    (dropComponents count list).filter solid = (list.filter solid).drop count := by
  induction list generalizing count with
  | nil => cases count <;> simp [dropComponents]
  | cons piece rest ih =>
      cases count with
      | zero =>
          rw [dropComponents, filter_dropWhile_redundant]
          rfl
      | succ count =>
          unfold dropComponents
          split
          · rename_i redundant
            rw [ih, List.filter_cons_of_neg (by simp [solid, redundant])]
          · rename_i keeps
            rw [ih, List.filter_cons_of_pos (by simpa [solid] using keeps), List.drop_succ_cons]

theorem dropComponents_suffix (count : Nat) (list : List (List Char)) :
    dropComponents count list <:+ list := by
  induction list generalizing count with
  | nil => cases count <;> simp [dropComponents]
  | cons piece rest ih =>
      cases count with
      | zero => exact List.dropWhile_suffix _
      | succ count =>
          unfold dropComponents
          split
          · exact (ih _).trans (List.suffix_cons _ _)
          · exact (ih _).trans (List.suffix_cons _ _)

theorem relativeComponents_stripBase (path base : List Char) :
    relativeComponents (normalizeRelative (stripBase path base)) =
      ((relativeComponents path).drop ((components base).length - 1)).flatMap parts := by
  rw [relativeComponents_normalizeRelative]
  unfold stripBase
  set left := dropComponents ((components base).length - 1) (pieces '/' path) with named
  have within : ∀ piece ∈ (left.reverse.dropWhile redundantPiece).reverse, '/' ∉ piece := by
    intro piece member
    have inside : piece ∈ left :=
      List.mem_reverse.mp ((List.dropWhile_suffix _).mem (List.mem_reverse.mp member))
    exact pieces_clean ((dropComponents_suffix _ _).mem inside)
  have trimmed : ((left.reverse.dropWhile redundantPiece).reverse).filter solid =
      left.filter solid := by
    rw [List.filter_reverse, filter_dropWhile_redundant, List.filter_reverse, List.reverse_reverse]
  have kept : left.filter solid = (relativeComponents path).drop ((components base).length - 1) :=
    dropComponents_filter _ _
  rw [← kept, ← trimmed, flatMap_parts_filter]
  generalize (left.reverse.dropWhile redundantPiece).reverse = list at within
  cases list with
  | nil => decide
  | cons first rest => rw [pieces_intercalate (by simp) within]

def trimEnd (text : List Char) : List Char := (text.reverse.dropWhile whitespace).reverse

/-- The root that a token is read as: white space at the end of an id is lost. -/
def LogicalRoot.trimmed : LogicalRoot → LogicalRoot
  | .steamLibrary id => .steamLibrary (String.ofList (trimEnd id.toList))
  | .winePrefix id => .winePrefix (String.ofList (trimEnd id.toList))
  | .bottlesPrefix id => .bottlesPrefix (String.ofList (trimEnd id.toList))
  | .appInstallRoot appId => .appInstallRoot ⟨String.ofList (trimEnd appId.text.toList)⟩
  | .nolandCustomRoot id => .nolandCustomRoot (String.ofList (trimEnd id.toList))
  | root => root

theorem trim_label {label : List Char} (first : ∀ c ∈ label.head?, whitespace c = false)
    (last : ∃ c, label.getLast? = some c ∧ whitespace c = false) (text : List Char) :
    trim (label ++ text) = label ++ trimEnd text := by
  obtain ⟨c, ends, clean⟩ := last
  obtain ⟨front, rfl⟩ := List.getLast?_eq_some_iff.mp ends
  have starts : ∀ d ∈ (front ++ [c] ++ text).head?, whitespace d = false := by
    intro d member
    apply first d
    cases front <;> simpa using member
  unfold trim
  rw [dropWhile_of_head starts, List.reverse_append, List.dropWhile_append]
  have stops : (front ++ [c]).reverse.dropWhile whitespace = (front ++ [c]).reverse := by
    rw [List.reverse_append, List.reverse_singleton, List.singleton_append,
      List.dropWhile_cons_of_neg (by simp [clean])]
  unfold trimEnd
  split
  · rename_i empty
    rw [List.isEmpty_iff.mp empty, stops]
    simp
  · simp

theorem afterLabel_self (label : String) (text : List Char) :
    afterLabel label (label.toList ++ text) = some text := by
  unfold afterLabel
  rw [if_pos (List.isPrefixOf_iff_prefix.mpr (List.prefix_append _ _)), List.drop_left]

theorem afterLabel_other {label other : String} (text : List Char)
    (enough : 3 ≤ label.toList.length ∧ 3 ≤ other.toList.length)
    (differ : label.toList.take 3 ≠ other.toList.take 3) :
    afterLabel label (other.toList ++ text) = none := by
  unfold afterLabel
  apply if_neg
  intro starts
  have begins := List.isPrefixOf_iff_prefix.mp starts
  have first : label.toList.take 3 = (other.toList ++ text).take 3 := by
    obtain ⟨rest, whole⟩ := begins
    rw [← whole, List.take_append_of_le_length enough.1]
  rw [List.take_append_of_le_length enough.2] at first
  exact differ first

def idLabels : List String :=
  ["$STEAM_LIBRARY:", "$PROTON_PREFIX:", "$WINE_PREFIX:", "$BOTTLES_PREFIX:", "$APP_INSTALL_ROOT:",
    "$NOLAND_CUSTOM_ROOT:"]

theorem idLabels_checked : ∀ label ∈ idLabels, 3 ≤ label.toList.length ∧
    (label.toList.head?.all fun c => !whitespace c) = true ∧
      label.toList.getLast? = some ':' := by
  decide +kernel

theorem idLabels_differ : ∀ label ∈ idLabels, ∀ other ∈ idLabels,
    label.toList.take 3 = other.toList.take 3 → label = other := by decide +kernel

theorem idLabels_clean : ∀ label ∈ idLabels,
    (∀ c ∈ label.toList.head?, whitespace c = false) ∧ label.toList.getLast? = some ':' := by
  intro label member
  obtain ⟨_, clean, last⟩ := idLabels_checked label member
  refine ⟨?_, last⟩
  intro c head
  rw [Option.mem_def.mp head] at clean
  simpa using clean

theorem trim_idLabel {label : String} (member : label ∈ idLabels) (id : String) :
    trim (label ++ id).toList = label.toList ++ trimEnd id.toList := by
  obtain ⟨first, last⟩ := idLabels_clean label member
  rw [String.toList_append]
  exact trim_label first ⟨':', last, by decide⟩ id.toList

theorem afterLabel_idLabel {label other : String} (member : label ∈ idLabels)
    (present : other ∈ idLabels) (differ : label ≠ other) (text : List Char) :
    afterLabel label (other.toList ++ text) = none :=
  afterLabel_other text ⟨(idLabels_checked label member).1, (idLabels_checked other present).1⟩
    fun same => differ (idLabels_differ label member other present same)

/-! `str::parse` reads back what was printed of a number. -/

theorem digit_bounds {c : Char} (digit : c.isDigit = true) : '0' ≤ c ∧ c ≤ '9' := by
  have bounds : 48 ≤ c.val ∧ c.val ≤ 57 := by simpa [Char.isDigit] using digit
  exact bounds

theorem whitespace_of_digit {c : Char} (digit : c.isDigit = true) : whitespace c = false := by
  obtain ⟨low, high⟩ := digit_bounds digit
  have lower : 48 ≤ c.toNat := low
  have upper : c.toNat ≤ 57 := high
  have itself := (Char.ofNat_toNat c).symm
  generalize c.toNat = code at *
  subst itself
  interval_cases code <;> decide

theorem digits_toString (id : Nat) : ∀ c ∈ (toString id).toList, c.isDigit = true := by
  intro c member
  rw [show (toString id).toList = Nat.toDigits 10 id from Nat.toList_repr] at member
  exact Nat.isDigit_of_mem_toDigits (by decide) (by decide) member

theorem trimEnd_toString (id : Nat) : trimEnd (toString id).toList = (toString id).toList := by
  have clean : ∀ c ∈ (toString id).toList.reverse.head?, whitespace c = false := by
    intro c member
    exact whitespace_of_digit
      (digits_toString id c (List.mem_reverse.mp (List.mem_of_mem_head? member)))
  unfold trimEnd
  rw [dropWhile_of_head clean, List.reverse_reverse]

theorem parseU32_toString {id : Nat} (bounded : id < 2 ^ 32) :
    parseU32 (toString id).toList = some id := by
  have unsigned : ¬ (toString id).toList.head? = some '+' := by
    intro plus
    have digit := digits_toString id '+' (List.mem_of_mem_head? plus)
    cases digit
  have digits : (toString id).toList ≠ [] ∧
      ((toString id).toList.all fun c => '0' ≤ c && c ≤ '9') = true := by
    refine ⟨?_, ?_⟩
    · rw [show (toString id).toList = Nat.toDigits 10 id from Nat.toList_repr]
      exact Nat.toDigits_ne_nil
    · apply List.all_eq_true.mpr
      intro c member
      simpa using digit_bounds (digits_toString id c member)
  have value : (toString id).toList.foldl (fun total c => 10 * total + (c.toNat - '0'.toNat)) 0 =
      id := by
    rw [show (toString id).toList = Nat.toDigits 10 id from Nat.toList_repr]
    exact Nat.ofDigitChars_ten_toDigits
  unfold parseU32
  simp only [if_neg unsigned, if_pos digits, value, if_pos bounded]

theorem parse_asToken {root : LogicalRoot}
    (typed : ∀ id, root = .protonPrefix id → id < 2 ^ 32) :
    LogicalRoot.parse root.asToken = some root.trimmed := by
  have steam : "$STEAM_LIBRARY:" ∈ idLabels := by decide
  have proton : "$PROTON_PREFIX:" ∈ idLabels := by decide
  have wine : "$WINE_PREFIX:" ∈ idLabels := by decide
  have bottles : "$BOTTLES_PREFIX:" ∈ idLabels := by decide
  have install : "$APP_INSTALL_ROOT:" ∈ idLabels := by decide
  have custom : "$NOLAND_CUSTOM_ROOT:" ∈ idLabels := by decide
  cases root with
  | steamLibrary id =>
      show LogicalRoot.parse ("$STEAM_LIBRARY:" ++ id) = _
      unfold LogicalRoot.parse
      simp only [trim_idLabel steam, afterLabel_self,
        LogicalRoot.trimmed]
  | protonPrefix id =>
      have skips := afterLabel_idLabel steam proton (by decide)
      show LogicalRoot.parse ("$PROTON_PREFIX:" ++ toString id) = _
      unfold LogicalRoot.parse
      simp only [trim_idLabel proton, afterLabel_self,
        skips, trimEnd_toString, parseU32_toString (typed id rfl), LogicalRoot.trimmed,
        Option.map_some]
  | winePrefix id =>
      have skips := fun label (member : label ∈ idLabels) => afterLabel_idLabel member wine
      show LogicalRoot.parse ("$WINE_PREFIX:" ++ id) = _
      unfold LogicalRoot.parse
      simp only [trim_idLabel wine, afterLabel_self,
        skips _ steam (by decide), skips _ proton (by decide), LogicalRoot.trimmed]
  | bottlesPrefix id =>
      have skips := fun label (member : label ∈ idLabels) => afterLabel_idLabel member bottles
      show LogicalRoot.parse ("$BOTTLES_PREFIX:" ++ id) = _
      unfold LogicalRoot.parse
      simp only [trim_idLabel bottles, afterLabel_self,
        skips _ steam (by decide), skips _ proton (by decide), skips _ wine (by decide),
        LogicalRoot.trimmed]
  | appInstallRoot appId =>
      have skips := fun label (member : label ∈ idLabels) => afterLabel_idLabel member install
      show LogicalRoot.parse ("$APP_INSTALL_ROOT:" ++ appId.text) = _
      unfold LogicalRoot.parse
      simp only [trim_idLabel install, afterLabel_self,
        skips _ steam (by decide), skips _ proton (by decide), skips _ wine (by decide),
        skips _ bottles (by decide), LogicalRoot.trimmed]
  | nolandCustomRoot id =>
      have skips := fun label (member : label ∈ idLabels) => afterLabel_idLabel member custom
      show LogicalRoot.parse ("$NOLAND_CUSTOM_ROOT:" ++ id) = _
      unfold LogicalRoot.parse
      simp only [trim_idLabel custom, afterLabel_self,
        skips _ steam (by decide), skips _ proton (by decide), skips _ wine (by decide),
        skips _ bottles (by decide), skips _ install (by decide), LogicalRoot.trimmed]
  | _ => decide +kernel

/-- The entry is the first among the longest bases that contain the path. -/
structure Owner (list : List (LogicalRoot × String)) (path : List Char)
    (entry : LogicalRoot × String) : Prop where
  contains : pathStartsWith path entry.2.toList = true
  first : ∃ before after, list = before ++ entry :: after ∧
    (∀ other ∈ before, pathStartsWith path other.2.toList = true →
      other.2.utf8ByteSize < entry.2.utf8ByteSize) ∧
    ∀ other ∈ after, pathStartsWith path other.2.toList = true →
      other.2.utf8ByteSize ≤ entry.2.utf8ByteSize

theorem best_some (path : List Char) (found : LogicalRoot × String)
    (list : List (LogicalRoot × String)) :
    ∃ entry, LogicalRootMap.best path (some found) list = some entry ∧
      ((entry = found ∧ ∀ other ∈ list, pathStartsWith path other.2.toList = true →
          other.2.utf8ByteSize ≤ found.2.utf8ByteSize) ∨
        (Owner list path entry ∧ found.2.utf8ByteSize < entry.2.utf8ByteSize)) := by
  induction list generalizing found with
  | nil => exact ⟨found, rfl, Or.inl ⟨rfl, nofun⟩⟩
  | cons head rest ih =>
      obtain ⟨root, base⟩ := head
      by_cases better : pathStartsWith path base.toList = true ∧
          ∀ other ∈ some found, other.2.utf8ByteSize < base.utf8ByteSize
      · have longer := better.2 found rfl
        obtain ⟨entry, evaluated, outcome⟩ := ih (root, base)
        refine ⟨entry, ?_, ?_⟩
        · rw [LogicalRootMap.best, if_pos better]
          exact evaluated
        · rcases outcome with ⟨rfl, shorter⟩ | ⟨owner, more⟩
          · exact Or.inr ⟨⟨better.1, [], rest, rfl, nofun, shorter⟩, longer⟩
          · obtain ⟨before, after, split, early, late⟩ := owner.first
            refine Or.inr ⟨⟨owner.contains, (root, base) :: before, after, by rw [split]; rfl, ?_,
              late⟩, longer.trans more⟩
            intro other member contains
            rcases List.mem_cons.mp member with rfl | inside
            · exact more
            · exact early other inside contains
      · obtain ⟨entry, evaluated, outcome⟩ := ih found
        refine ⟨entry, ?_, ?_⟩
        · rw [LogicalRootMap.best, if_neg better]
          exact evaluated
        · have shorter : pathStartsWith path base.toList = true →
              base.utf8ByteSize ≤ found.2.utf8ByteSize := by
            intro contains
            by_contra longer
            refine better ⟨contains, ?_⟩
            intro other same
            rw [← Option.some.inj same]
            omega
          rcases outcome with ⟨rfl, others⟩ | ⟨owner, more⟩
          · refine Or.inl ⟨rfl, ?_⟩
            intro other member contains
            rcases List.mem_cons.mp member with rfl | inside
            · exact shorter contains
            · exact others other inside contains
          · obtain ⟨before, after, split, early, late⟩ := owner.first
            refine Or.inr ⟨⟨owner.contains, (root, base) :: before, after, by rw [split]; rfl, ?_,
              late⟩, more⟩
            intro other member contains
            rcases List.mem_cons.mp member with rfl | inside
            · exact (shorter contains).trans_lt more
            · exact early other inside contains

theorem best_none (path : List Char) (list : List (LogicalRoot × String)) :
    (LogicalRootMap.best path none list = none ∧
      ∀ other ∈ list, pathStartsWith path other.2.toList = false) ∨
    ∃ entry, LogicalRootMap.best path none list = some entry ∧ Owner list path entry := by
  induction list with
  | nil => exact Or.inl ⟨rfl, nofun⟩
  | cons head rest ih =>
      obtain ⟨root, base⟩ := head
      by_cases contains : pathStartsWith path base.toList = true
      · have first : LogicalRootMap.best path none ((root, base) :: rest) =
            LogicalRootMap.best path (some (root, base)) rest := by
          rw [LogicalRootMap.best, if_pos ⟨contains, nofun⟩]
        obtain ⟨entry, evaluated, outcome⟩ := best_some path (root, base) rest
        refine Or.inr ⟨entry, first.trans evaluated, ?_⟩
        rcases outcome with ⟨rfl, shorter⟩ | ⟨owner, more⟩
        · exact ⟨contains, [], rest, rfl, nofun, shorter⟩
        · obtain ⟨before, after, split, early, late⟩ := owner.first
          refine ⟨owner.contains, (root, base) :: before, after, by rw [split]; rfl, ?_, late⟩
          intro other member inside
          rcases List.mem_cons.mp member with rfl | found
          · exact more
          · exact early other found inside
      · have skipped : LogicalRootMap.best path none ((root, base) :: rest) =
            LogicalRootMap.best path none rest := by
          rw [LogicalRootMap.best, if_neg fun better => contains better.1]
        rw [skipped]
        rcases ih with ⟨none, outside⟩ | ⟨entry, evaluated, owner⟩
        · refine Or.inl ⟨none, ?_⟩
          intro other member
          rcases List.mem_cons.mp member with rfl | inside
          · simpa using contains
          · exact outside other inside
        · obtain ⟨before, after, split, early, late⟩ := owner.first
          refine Or.inr ⟨entry, evaluated, owner.contains, (root, base) :: before, after,
            by rw [split]; rfl, ?_, late⟩
          intro other member inside
          rcases List.mem_cons.mp member with rfl | found
          · exact absurd inside contains
          · exact early other found inside

theorem owner_of_best {list : List (LogicalRoot × String)} {path : List Char}
    {entry : LogicalRoot × String} (found : LogicalRootMap.best path none list = some entry) :
    Owner list path entry := by
  rcases best_none path list with ⟨missing, _⟩ | ⟨other, same, owner⟩
  · rw [missing] at found
    cases found
  · rw [same] at found
    exact Option.some.inj found ▸ owner

theorem Owner.mem {entry : LogicalRoot × String} (owner : Owner list path entry) :
    entry ∈ list := by
  obtain ⟨before, after, rfl, _⟩ := owner.first
  simp

theorem Owner.longest {entry other : LogicalRoot × String} (owner : Owner list path entry)
    (member : other ∈ list) (contains : pathStartsWith path other.2.toList = true) :
    other.2.utf8ByteSize ≤ entry.2.utf8ByteSize := by
  obtain ⟨before, after, rfl, early, late⟩ := owner.first
  rcases List.mem_append.mp member with old | rest
  · exact (early other old contains).le
  · rcases List.mem_cons.mp rest with rfl | new
    · exact le_refl _
    · exact late other new contains

theorem Owner.unique {entry other : LogicalRoot × String} (one : Owner list path entry)
    (two : Owner list path other) : entry = other := by
  obtain ⟨before, after, split, early, late⟩ := one.first
  obtain ⟨before', after', split', early', late'⟩ := two.first
  have sizes : entry.2.utf8ByteSize = other.2.utf8ByteSize :=
    le_antisymm (two.longest one.mem one.contains) (one.longest two.mem two.contains)
  rcases List.append_eq_append_iff.mp (split.symm.trans split') with
    ⟨more, first, rest⟩ | ⟨more, first, rest⟩
  · cases more with
    | nil =>
        rw [List.nil_append] at rest
        exact (List.cons.inj rest).1
    | cons head tail =>
        obtain ⟨rfl, _⟩ := List.cons.inj rest
        have less := early' entry (by rw [first]; simp) one.contains
        omega
  · cases more with
    | nil =>
        rw [List.nil_append] at rest
        exact (List.cons.inj rest).1.symm
    | cons head tail =>
        obtain ⟨rfl, _⟩ := List.cons.inj rest
        have less := early other (by rw [first]; simp) two.contains
        omega

theorem mem_of_lookup {α β : Type} [BEq α] [LawfulBEq α] {key : α} {value : β}
    {list : List (α × β)} (found : list.lookup key = some value) : (key, value) ∈ list := by
  induction list with
  | nil => cases found
  | cons entry rest ih =>
      obtain ⟨first, second⟩ := entry
      rw [List.lookup_cons] at found
      cases same : key == first with
      | true =>
          rw [same] at found
          have second_ : second = value := Option.some.inj found
          rw [eq_of_beq same, second_]
          exact List.mem_cons_self
      | false =>
          rw [same] at found
          exact List.mem_cons_of_mem _ (ih found)

theorem mem_bases_of_resolve {root : LogicalRoot} {base : String}
    (resolved : roots.resolve root = some base) : (root, base) ∈ roots.bases := by
  cases root with
  | steamLibrary id => simp [LogicalRootMap.bases, mem_of_lookup resolved]
  | protonPrefix id => simp [LogicalRootMap.bases, mem_of_lookup resolved]
  | winePrefix id => simp [LogicalRootMap.bases, mem_of_lookup resolved]
  | bottlesPrefix id => simp [LogicalRootMap.bases, mem_of_lookup resolved]
  | appInstallRoot appId =>
      have found := mem_of_lookup resolved
      simp only [LogicalRootMap.bases, List.mem_append, List.mem_map]
      exact Or.inl (Or.inr ⟨_, found, rfl⟩)
  | nolandCustomRoot id => simp [LogicalRootMap.bases, mem_of_lookup resolved]
  | _ =>
      simp only [LogicalRootMap.resolve] at resolved
      simp [LogicalRootMap.bases, resolved]

def LogicalRootMap.Typed (roots : LogicalRootMap) : Prop :=
  ∀ entry ∈ roots.protonPrefixes, entry.1 < 2 ^ 32

theorem LogicalRootMap.Typed.bounded (typed : roots.Typed) {entry : LogicalRoot × String}
    (member : entry ∈ roots.bases) : ∀ id, entry.1 = .protonPrefix id → id < 2 ^ 32 := by
  intro id same
  obtain ⟨root, base⟩ := entry
  obtain rfl : root = .protonPrefix id := same
  have inside : (id, base) ∈ roots.protonPrefixes := by
    simpa [LogicalRootMap.bases] using member
  exact typed _ inside

/-- What a backup records of a path; outside every root it is filed under the home
directory. -/
def recordedPath (roots : LogicalRootMap) (path : String) : LogicalPath :=
  (roots.classify path).getD (LogicalPath.new .home (path.toList.dropWhile (· == '/')))

def retrace (roots : LogicalRootMap) (key : String × String) : Option String :=
  match LogicalRoot.parse key.1 with
  | none => none
  | some root => (roots.resolve root).map fun base => pathJoin base key.2

def SamePath (left right : String) : Prop := components left.toList = components right.toList

instance (left right : String) : Decidable (SamePath left right) :=
  inferInstanceAs (Decidable (_ = _))

def RoundTrips (roots : LogicalRootMap) (path : String) : Prop :=
  ∃ back, retrace roots (recordedPath roots path).key = some back ∧ SamePath back path

theorem normalizeRelative_head (text : List Char) :
    (normalizeRelative text).head? ≠ some '/' := by
  unfold normalizeRelative
  intro slash
  have stopped := List.head?_dropWhile_not (· == '/') (trimDotSlash (forwardSlashes text))
  rw [slash] at stopped
  simp at stopped

theorem within_of_join {base relative path : String} (some_ : base ≠ "")
    (relative_ : relative.toList.head? ≠ some '/') (same : SamePath (pathJoin base relative) path) :
    pathStartsWith path.toList base.toList = true := by
  have joined := components_join some_ relative_
  unfold SamePath at same
  unfold pathStartsWith
  rw [← same, joined]
  exact List.isPrefixOf_iff_prefix.mpr (List.prefix_append _ _)

theorem not_absolute_of_join {relative path : String}
    (relative_ : relative.toList.head? ≠ some '/') (absolute : path.toList.head? = some '/') :
    ¬ SamePath (pathJoin "" relative) path := by
  intro same
  unfold SamePath pathJoin at same
  rw [if_neg relative_, if_pos (Or.inl (by simp)), components_absolute absolute] at same
  have empty : ("" ++ relative).toList = relative.toList := by simp
  rw [empty] at same
  cases found : relative.toList with
  | nil =>
      rw [found] at same
      cases same
  | cons c rest =>
      rw [found] at same relative_
      have other : c ≠ '/' := by simpa using relative_
      rw [components_eq (by simp), pieces, if_neg other] at same
      cases inner : pieces '/' rest with
      | nil => exact absurd inner (pieces_ne_nil _ _)
      | cons piece others =>
          rw [inner] at same
          have heads := (List.cons.inj same).1
          have first := (List.cons.inj heads).1
          exact other first

theorem parts_clean {piece part : List Char} (member : part ∈ parts piece) :
    '\\' ∉ part ∧ solid part = true := by
  obtain ⟨inside, keeps⟩ := List.mem_filter.mp member
  exact ⟨pieces_clean inside, keeps⟩

theorem flatMap_parts_self {list : List (List Char)}
    (clean : ∀ piece ∈ list, '\\' ∉ piece ∧ solid piece = true) : list.flatMap parts = list := by
  induction list with
  | nil => rfl
  | cons piece rest ih =>
      obtain ⟨plain, keeps⟩ := clean piece List.mem_cons_self
      have itself : parts piece = [piece] := by
        unfold parts
        rw [pieces_of_notMem plain]
        simp [keeps]
      rw [List.flatMap_cons, itself, ih fun other member => clean other (List.mem_cons_of_mem _ member)]
      rfl

theorem flatMap_parts_clean {list : List (List Char)} {part : List Char}
    (member : part ∈ list.flatMap parts) : '\\' ∉ part ∧ solid part = true := by
  obtain ⟨piece, _, inside⟩ := List.mem_flatMap.mp member
  exact parts_clean inside

theorem rejoined_iff {base other tail : List (List Char)}
    (keeps : ∀ piece ∈ tail, solid piece = true) :
    other ++ tail.flatMap parts = base ++ tail ↔
      ∃ middle rest, other = base ++ middle ∧ tail = middle ++ rest ∧
        (∀ piece ∈ middle, parts piece = []) ∧ ∀ piece ∈ rest, '\\' ∉ piece := by
  constructor
  · intro same
    rcases List.append_eq_append_iff.mp same with ⟨more, shorter, recorded⟩ | ⟨middle, longer, left⟩
    · have clean : ∀ piece ∈ tail, '\\' ∉ piece ∧ solid piece = true := by
        intro piece member
        apply @flatMap_parts_clean tail
        rw [recorded]
        exact List.mem_append_right _ member
      have empty : more = [] := by
        have lengths := congrArg List.length recorded
        rw [flatMap_parts_self clean, List.length_append] at lengths
        exact List.length_eq_zero_iff.mp (by omega)
      refine ⟨[], tail, ?_, rfl, nofun, fun piece member => (clean piece member).1⟩
      rw [shorter, empty, List.append_nil, List.append_nil]
    · refine ⟨middle, tail.flatMap parts, longer, left, ?_, ?_⟩
      · have again : (tail.flatMap parts).flatMap parts = tail.flatMap parts :=
          flatMap_parts_self fun part member => flatMap_parts_clean member
        have twice : tail.flatMap parts = middle.flatMap parts ++ tail.flatMap parts := by
          conv => lhs; rw [left, List.flatMap_append, again]
        have vanished : middle.flatMap parts = [] := by
          have lengths := congrArg List.length twice
          rw [List.length_append] at lengths
          exact List.length_eq_zero_iff.mp (by omega)
        exact fun piece member => List.flatMap_eq_nil_iff.mp vanished piece member
      · exact fun part member => (flatMap_parts_clean member).1
  · rintro ⟨middle, rest, rfl, rfl, vanish, clean⟩
    have vanished : middle.flatMap parts = [] := List.flatMap_eq_nil_iff.mpr vanish
    have kept : rest.flatMap parts = rest := flatMap_parts_self fun piece member =>
      ⟨clean piece member, keeps piece (List.mem_append_right _ member)⟩
    rw [List.flatMap_append, vanished, kept, List.nil_append, List.append_assoc]

/-- The path lies below a configured root, the id of the longest one names the directory also
without white space at its end, and nothing below the directory contains a backslash but what
vanishes when backslashes are separators. -/
def Retraceable (roots : LogicalRootMap) (path : String) : Prop :=
  ∃ root base other middle rest, Owner roots.bases path.toList (root, base) ∧ base ≠ "" ∧
    roots.resolve root.trimmed = some other ∧
    components path.toList = components base.toList ++ middle ++ rest ∧
    components other.toList = components base.toList ++ middle ∧
    (∀ piece ∈ middle, parts piece = []) ∧ ∀ piece ∈ rest, '\\' ∉ piece

theorem components_ne_nil (some_ : path ≠ []) : components path ≠ [] := by
  rw [components_eq some_]
  cases found : pieces '/' path with
  | nil => exact absurd found (pieces_ne_nil _ _)
  | cons first rest => cases first <;> simp [assembled]

theorem toList_ne_nil {text : String} (some_ : text ≠ "") : text.toList ≠ [] := by
  intro empty
  exact some_ (String.toList_inj.mp (empty.trans String.toList_empty.symm))

theorem retrace_owner {path : String} {root : LogicalRoot} {base : String} (typed : roots.Typed)
    (owner : Owner roots.bases path.toList (root, base))
    (found : LogicalRootMap.best path.toList none roots.bases = some (root, base)) :
    (recordedPath roots path).relativePath.toList =
      normalizeRelative (stripBase path.toList base.toList) ∧
    retrace roots (recordedPath roots path).key = (roots.resolve root.trimmed).map fun other =>
      pathJoin other (recordedPath roots path).relativePath := by
  have recorded : recordedPath roots path =
      LogicalPath.new root (stripBase path.toList base.toList) := by
    unfold recordedPath LogicalRootMap.classify
    rw [found]
    rfl
  have parsed := parse_asToken (typed.bounded owner.mem)
  rw [recorded]
  constructor
  · simp [LogicalPath.new]
  · unfold retrace LogicalPath.key
    simp only [LogicalPath.new, parsed]

theorem components_below {path base : String} (absolute : path.toList.head? = some '/')
    (some_ : base ≠ "") (contains : pathStartsWith path.toList base.toList = true) :
    ∃ tail, components path.toList = components base.toList ++ tail ∧
      (∀ piece ∈ tail, solid piece = true) ∧
      relativeComponents (normalizeRelative (stripBase path.toList base.toList)) =
        tail.flatMap parts := by
  have whole := components_absolute absolute
  obtain ⟨tail, split⟩ := List.isPrefixOf_iff_prefix.mp contains
  have filled := components_ne_nil (toList_ne_nil some_)
  have dropped : (relativeComponents path.toList).drop ((components base.toList).length - 1) =
      tail := by
    cases parts_ : components base.toList with
    | nil => exact absurd parts_ filled
    | cons first rest =>
        rw [parts_, whole, List.cons_append] at split
        rw [← (List.cons.inj split).2]
        simp
  refine ⟨tail, split.symm, ?_, ?_⟩
  · intro piece member
    rw [← dropped] at member
    exact (List.mem_filter.mp (List.mem_of_mem_drop member)).2
  · rw [relativeComponents_stripBase, dropped]

theorem not_roundTrips_outside {path : String} (absolute : path.toList.head? = some '/')
    (none_ : LogicalRootMap.best path.toList none roots.bases = none)
    (outside : ∀ other ∈ roots.bases, pathStartsWith path.toList other.2.toList = false) :
    ¬ RoundTrips roots path := by
  rintro ⟨back, returned, same⟩
  have recorded : recordedPath roots path =
      LogicalPath.new .home (path.toList.dropWhile (· == '/')) := by
    unfold recordedPath LogicalRootMap.classify
    rw [none_]
    rfl
  have parsed : LogicalRoot.parse LogicalRoot.home.asToken = some .home := parse_asToken nofun
  have unrooted : (recordedPath roots path).relativePath.toList.head? ≠ some '/' := by
    rw [recorded]
    simpa [LogicalPath.new] using normalizeRelative_head (path.toList.dropWhile (· == '/'))
  rw [recorded] at returned unrooted
  unfold retrace LogicalPath.key at returned
  simp only [LogicalPath.new, parsed] at returned
  obtain ⟨home, resolved, rfl⟩ := Option.map_eq_some_iff.mp returned
  have contains : pathStartsWith path.toList home.toList = true := by
    by_cases empty : home = ""
    · subst empty
      exact absurd same (not_absolute_of_join unrooted absolute)
    · exact within_of_join empty unrooted same
  rw [outside _ (mem_bases_of_resolve resolved)] at contains
  cases contains

theorem roundTrips_iff {path : String} (typed : roots.Typed)
    (absolute : path.toList.head? = some '/') : RoundTrips roots path ↔ Retraceable roots path := by
  rcases best_none path.toList roots.bases with ⟨none_, outside⟩ | ⟨⟨root, base⟩, found, owner⟩
  · constructor
    · intro trips
      exact absurd trips (not_roundTrips_outside absolute none_ outside)
    · rintro ⟨root, base, _, _, _, owner, _⟩
      have contains := owner.contains
      rw [outside _ owner.mem] at contains
      cases contains
  · obtain ⟨relative, back⟩ := retrace_owner typed owner found
    have unrooted : (recordedPath roots path).relativePath.toList.head? ≠ some '/' := by
      rw [relative]
      exact normalizeRelative_head _
    constructor
    · rintro ⟨target, returned, same⟩
      rw [back] at returned
      obtain ⟨other, resolved, rfl⟩ := Option.map_eq_some_iff.mp returned
      have filled : other ≠ "" := by
        rintro rfl
        exact not_absolute_of_join unrooted absolute same
      have longest : other.utf8ByteSize ≤ base.utf8ByteSize :=
        owner.longest (mem_bases_of_resolve resolved) (within_of_join filled unrooted same)
      have some_ : base ≠ "" := by
        rintro rfl
        simp at longest
        exact filled longest
      obtain ⟨tail, whole, keeps, recorded⟩ := components_below absolute some_ owner.contains
      have joined := components_join filled unrooted
      unfold SamePath at same
      rw [relative, recorded, same, whole] at joined
      obtain ⟨middle, rest, down, split, vanish, clean⟩ := (rejoined_iff keeps).mp joined.symm
      exact ⟨root, base, other, middle, rest, owner, some_, resolved,
        by rw [whole, split, List.append_assoc], down, vanish, clean⟩
    · rintro ⟨root', base', other, middle, rest, owner', some_, resolved, whole, down, vanish,
        clean⟩
      obtain ⟨rfl, rfl⟩ := Prod.mk.inj (owner.unique owner')
      have filled : other ≠ "" := by
        rintro rfl
        have empty : components base.toList ++ middle = [] := by
          rw [← down]
          rfl
        exact components_ne_nil (toList_ne_nil some_) (List.append_eq_nil_iff.mp empty).1
      obtain ⟨tail, whole', keeps, recorded⟩ := components_below absolute some_ owner.contains
      have split : tail = middle ++ rest := by
        rw [whole', List.append_assoc] at whole
        exact List.append_cancel_left whole
      refine ⟨pathJoin other (recordedPath roots path).relativePath, by rw [back, resolved]; rfl, ?_⟩
      unfold SamePath
      rw [components_join filled unrooted, relative, recorded, whole']
      exact (rejoined_iff keeps).mpr ⟨middle, rest, down, split, vanish, clean⟩

/-- What a restore makes of two files is what the backup recorded of them: the records
differ, and both lead back. -/
def Faithful (roots : LogicalRootMap) (left right : String) : Prop :=
  (recordedPath roots left).key ≠ (recordedPath roots right).key ∧
    RoundTrips roots left ∧ RoundTrips roots right

theorem key_ne_of_roundTrips {left right : String} (one : RoundTrips roots left)
    (two : RoundTrips roots right) (differ : ¬ SamePath left right) :
    (recordedPath roots left).key ≠ (recordedPath roots right).key := by
  obtain ⟨back, returned, same⟩ := one
  obtain ⟨back', returned', same'⟩ := two
  intro equal
  rw [equal, returned'] at returned
  have backs : back' = back := Option.some.inj returned
  subst backs
  exact differ (same.symm.trans same')

/-- Two files are recorded faithfully exactly when both records can be retraced. -/
theorem faithful_iff_retraceable (roots : LogicalRootMap) (left right : String)
    (typed : roots.Typed) (absolute : left.toList.head? = some '/')
    (absolute' : right.toList.head? = some '/') (differ : ¬ SamePath left right) :
    Faithful roots left right ↔ Retraceable roots left ∧ Retraceable roots right := by
  rw [← roundTrips_iff typed absolute, ← roundTrips_iff typed absolute']
  constructor
  · rintro ⟨_, one, two⟩
    exact ⟨one, two⟩
  · rintro ⟨one, two⟩
    exact ⟨key_ne_of_roundTrips one two differ, one, two⟩

theorem faithful_below_home :
    Faithful (LogicalRootMap.fromHome "/home/gamer") "/home/gamer/.local/share/game/save.db"
      "/home/gamer/save.db" := by
  apply (faithful_iff_retraceable (LogicalRootMap.fromHome "/home/gamer") _ _ nofun (by decide)
    (by decide) (by decide +kernel)).mpr
  constructor
  · have found := @owner_of_best (LogicalRootMap.fromHome "/home/gamer").bases
      "/home/gamer/.local/share/game/save.db".toList (.xdgDataHome, "/home/gamer/.local/share")
      (by decide +kernel)
    refine ⟨_, _, "/home/gamer/.local/share", [], ["game".toList, "save.db".toList], found, ?_⟩
    decide +kernel
  · have found := @owner_of_best (LogicalRootMap.fromHome "/home/gamer").bases
      "/home/gamer/save.db".toList (.home, "/home/gamer") (by decide +kernel)
    refine ⟨_, _, "/home/gamer", [], ["save.db".toList], found, ?_⟩
    decide +kernel

/-- A backslash in a name becomes a separator, and a file outside the roots is filed
under the home directory. -/
theorem backslash_unfaithful :
    ¬ Faithful (LogicalRootMap.fromHome "/home/gamer") "/home/gamer/.local/share/game/a\\b"
        "/home/gamer/.local/share/game/a/b" ∧
      ¬ Faithful (LogicalRootMap.fromHome "/home/gamer") "/etc/hosts"
        "/home/gamer/etc/hosts" ∧
      ¬ SamePath "/home/gamer/.local/share/game/a\\b" "/home/gamer/.local/share/game/a/b" ∧
      ¬ SamePath "/etc/hosts" "/home/gamer/etc/hosts" := by
  refine ⟨fun faithful => faithful.1 ?_, fun faithful => faithful.1 ?_, ?_, ?_⟩ <;> decide +kernel

end Noland.Core
