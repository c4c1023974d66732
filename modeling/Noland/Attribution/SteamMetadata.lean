import Mathlib.Algebra.Order.BigOperators.Group.List
import Noland.Attribution.Identity

/-!
`libraryfolders.vdf` and the manifests of apps are documents of keys with values and of blocks;
the discovery reads them line by line and looks at neither braces nor blocks. The tokens are taken
as they stand between the quotes.
-/

namespace Noland.Attribution.SteamMetadata

open Noland.Text
open Noland.Attribution.Identity (SteamApp)

def stripReturn (line : List Char) : List Char :=
  if line.getLast? = some '\r' then line.dropLast else line

def linesOf : List (List Char) → List (List Char)
  | [] => []
  | [last] => if last = [] then [] else [last]
  | line :: next :: rest => stripReturn line :: linesOf (next :: rest)

def textLines (text : List Char) : List (List Char) := linesOf (pieces '\n' text)

/-- `trim().is_empty()` -/
def blank (text : List Char) : Bool := text.all whitespace

def digits (text : List Char) : Bool := text.all Char.isDigit

def tokens (line : List Char) : List (List Char) :=
  (pieces '"' line).filter fun piece => !blank piece

abbrev Libraries := List (List Char × List Char)

def readLibraryTokens (state : Libraries × Option (List Char)) :
    List (List Char) → Libraries × Option (List Char)
  | [] => state
  | first :: rest =>
      if digits first then
        match rest with
        | value :: _ => (state.1 ++ [(first, value)], none)
        | [] => (state.1, some first)
      else if first = "path".toList then
        match rest, state.2 with
        | value :: _, some id => (state.1 ++ [(id, value)], none)
        | _, _ => state
      else state

def parseLibraryfolders (text : List Char) : Libraries :=
  ((textLines text).foldl (fun state line => readLibraryTokens state (tokens line)) ([], none)).1

abbrev AcfMap := List Char → Option (List Char)

def insertTokens (map : AcfMap) : List (List Char) → AcfMap
  | key :: value :: _ =>
      if !key.contains '{' && !value.contains '{' then Function.update map key (some value)
      else map
  | _ => map

def parseAcf (text : List Char) : AcfMap :=
  (textLines text).foldl (fun map line => insertTokens map (tokens line)) fun _ => none

def join (base relative : List Char) : List Char :=
  if isAbsolute relative then relative
  else if base = [] ∨ base.getLast? = some '/' then base ++ relative
  else base ++ '/' :: relative

def nameOf (name : Option (List Char)) (appId : Nat) : List Char :=
  name.getD ("Steam " ++ toString appId).toList

def installDirOf (name installdir : Option (List Char)) (steamapps : List Char) (appId : Nat) :
    List Char :=
  join (join steamapps "common".toList)
    ((installdir.filter fun dir => !blank dir).getD (nameOf name appId))

def manifestApp (appid name installdir : Option (List Char)) (libraryId steamapps : List Char) :
    Option SteamApp :=
  (appid.bind parseU32).map fun appId =>
    { appId := appId
      name := nameOf name appId
      installDir := installDirOf name installdir steamapps appId
      libraryId := libraryId
      protonPrefix := some (join (join (join steamapps "compatdata".toList)
        (toString appId).toList) "pfx".toList) }

def parseAppmanifest (text libraryId steamapps : List Char) : Option SteamApp :=
  let map := parseAcf text
  manifestApp (map "appid".toList) (map "name".toList) (map "installdir".toList) libraryId
    steamapps

inductive Node where
  | pair (key value : List Char)
  | block (key : List Char) (children : List Node)

inductive Line where
  | pair (key value : List Char)
  | heading (key : List Char)
  | opening
  | closing
  deriving DecidableEq

mutual

def Node.lines : Node → List Line
  | .pair key value => [.pair key value]
  | .block key children => .heading key :: .opening :: (linesOfAll children ++ [.closing])

def linesOfAll : List Node → List Line
  | [] => []
  | node :: rest => node.lines ++ linesOfAll rest

end

def readLine (line : List Char) : Option Line :=
  match pieces '"' line with
  | [before, key, between, value, after] =>
      if blank before && blank between && blank after then some (.pair key value) else none
  | [before, key, after] => if blank before && blank after then some (.heading key) else none
  | [brace] =>
      if trim brace = ['{'] then some .opening
      else if trim brace = ['}'] then some .closing
      else none
  | _ => none

def Written (document : Node) (text : List Char) : Prop :=
  ((textLines text).filter fun line => !blank line).mapM readLine = some document.lines

instance (document : Node) (text : List Char) : Decidable (Written document text) :=
  inferInstanceAs (Decidable (_ = _))

def ownPath (children : List Node) : Option (List Char) :=
  children.findSome? fun
    | .pair key value => if key = "path".toList then some value else none
    | .block _ _ => none

/-- The library that an entry of the file stands for: an id with a path, or an id with a block
that has one. -/
def libraryEntry : Node → Option (List Char × List Char)
  | .pair key value => if digits key then some (key, value) else none
  | .block key children =>
      if digits key then (ownPath children).map fun path => (key, path) else none

def libraryEntries (children : List Node) : Libraries := children.filterMap libraryEntry

def LibraryNode : Node → Prop
  | .pair key _ => blank key = false ∧ key ≠ "path".toList
  | .block key children => blank key = false ∧ digits key = true ∧ (ownPath children).isSome = true

instance : DecidablePred LibraryNode
  | .pair _ _ => inferInstanceAs (Decidable (_ ∧ _))
  | .block _ _ => inferInstanceAs (Decidable (_ ∧ _ ∧ _))

def ownValue (key : List Char) (children : List Node) : Option (List Char) :=
  (children.filterMap fun
    | .pair other value => if other = key ∧ blank value = false then some value else none
    | .block _ _ => none).getLast?

def Line.tokens : Line → List (List Char)
  | .pair key value => [key, value].filter fun token => !blank token
  | .heading key => [key].filter fun token => !blank token
  | .opening => []
  | .closing => []

theorem mem_of_mem_trim {c : Char} {text : List Char} (member : c ∈ trim text) : c ∈ text := by
  have reversed := List.mem_reverse.mp member
  have inner := (List.dropWhile_suffix whitespace).subset reversed
  exact (List.dropWhile_suffix whitespace).subset (List.mem_reverse.mp inner)

theorem tokens_of_blank {line : List Char} (isBlank : blank line = true) : tokens line = [] := by
  have noQuote : '"' ∉ line := fun member =>
    absurd (List.all_eq_true.mp isBlank '"' member) (by decide)
  simp [tokens, pieces_of_notMem noQuote, isBlank]

theorem tokens_of_readLine {line : List Char} {read : Line} (written : readLine line = some read) :
    tokens line = read.tokens ∨
      ((read = .opening ∨ read = .closing) ∧ ∃ brace, tokens line = [brace] ∧
        ('{' ∈ brace ∨ '}' ∈ brace)) := by
  unfold readLine at written
  split at written
  · rename_i before key between value after parts
    split_ifs at written with blanks
    obtain rfl := Option.some.inj written
    simp only [Bool.and_eq_true] at blanks
    left
    simp [tokens, parts, Line.tokens, List.filter_cons, blanks.1.1, blanks.1.2, blanks.2]
  · rename_i before key after parts
    split_ifs at written with blanks
    obtain rfl := Option.some.inj written
    simp only [Bool.and_eq_true] at blanks
    left
    simp [tokens, parts, Line.tokens, List.filter_cons, blanks.1, blanks.2]
  · rename_i brace parts
    have single : ∀ c : Char, c ∈ brace → whitespace c = false → tokens line = [brace] := by
      intro c member visible
      have shown : blank brace = false := by
        apply Bool.eq_false_iff.mpr
        intro isBlank
        rw [List.all_eq_true.mp isBlank c member] at visible
        cases visible
      simp [tokens, parts, shown]
    right
    split_ifs at written with opens closes
    · have member : '{' ∈ brace := mem_of_mem_trim (by rw [opens]; exact List.mem_cons_self)
      exact ⟨Or.inl (Option.some.inj written).symm, brace, single '{' member (by decide),
        Or.inl member⟩
    · have member : '}' ∈ brace := mem_of_mem_trim (by rw [closes]; exact List.mem_cons_self)
      exact ⟨Or.inr (Option.some.inj written).symm, brace, single '}' member (by decide),
        Or.inr member⟩
  · cases written

theorem foldl_tokens {State : Type} {reader : State → List (List Char) → State}
    (skips : ∀ state, reader state [] = state)
    (ignores : ∀ state brace, '{' ∈ brace ∨ '}' ∈ brace → reader state [brace] = state)
    {lines : List (List Char)} {read : List Line}
    (written : (lines.filter fun line => !blank line).mapM readLine = some read) (state : State) :
    lines.foldl (fun state line => reader state (tokens line)) state =
      read.foldl (fun state line => reader state line.tokens) state := by
  induction lines generalizing read state with
  | nil =>
      obtain rfl := Option.some.inj written
      rfl
  | cons line rest ih =>
      cases isBlank : blank line with
      | true =>
          rw [List.filter_cons_of_neg (by simp [isBlank])] at written
          rw [List.foldl_cons, tokens_of_blank isBlank, skips]
          exact ih written state
      | false =>
          rw [List.filter_cons_of_pos (by simp [isBlank]), List.mapM_cons] at written
          cases first : readLine line with
          | none => simp [first] at written
          | some line' =>
              cases others : (rest.filter fun line => !blank line).mapM readLine with
              | none => simp [first, others] at written
              | some later =>
                  obtain rfl : line' :: later = read := by simpa [first, others] using written
                  have same : reader state (tokens line) = reader state line'.tokens := by
                    rcases tokens_of_readLine first with equal | ⟨braces, brace, single, holds⟩
                    · rw [equal]
                    · rw [single, ignores state brace holds]
                      rcases braces with rfl | rfl <;> exact (skips state).symm
                  rw [List.foldl_cons, List.foldl_cons, same]
                  exact ih others _

/-- A key of digits with a value is taken for a library, in whatever block. -/
def Line.numbered : Line → Option (List Char × List Char)
  | .pair key value =>
      if digits key && !blank key && !blank value then some (key, value) else none
  | _ => none

/-- The value of a key `path`. -/
def Line.pathValue : Line → Option (List Char)
  | .pair key value => if key = "path".toList && !blank value then some value else none
  | _ => none

/-- Digits that stand alone on their line are taken for the id of the library that comes. -/
def Line.names : Line → Option (List Char)
  | .pair key value =>
      if digits key && !blank key && blank value then some key
      else if blank key && digits value && !blank value then some value
      else none
  | .heading key => if digits key && !blank key then some key else none
  | _ => none

def Line.gives (line : Line) (current : Option (List Char)) : Libraries :=
  match line.numbered with
  | some entry => [entry]
  | none =>
      match line.pathValue, current with
      | some path, some id => [(id, path)]
      | _, _ => []

def Line.next (line : Line) (current : Option (List Char)) : Option (List Char) :=
  match line.names with
  | some id => some id
  | none => if line.numbered.isSome || line.pathValue.isSome then none else current

theorem readLibraryTokens_line (state : Libraries × Option (List Char)) (line : Line) :
    readLibraryTokens state line.tokens =
      (state.1 ++ line.gives state.2, line.next state.2) := by
  obtain ⟨found, current⟩ := state
  have path_digits : digits "path".toList = false := by decide
  have path_blank : blank "path".toList = false := by decide
  cases line with
  | opening => simp [Line.tokens, readLibraryTokens, Line.gives, Line.next, Line.numbered,
      Line.pathValue, Line.names]
  | closing => simp [Line.tokens, readLibraryTokens, Line.gives, Line.next, Line.numbered,
      Line.pathValue, Line.names]
  | heading key =>
      cases keyBlank : blank key <;> cases keyDigits : digits key <;>
        simp [Line.tokens, readLibraryTokens, Line.gives, Line.next, Line.numbered,
          Line.pathValue, Line.names, keyBlank, keyDigits]
  | pair key value =>
      cases keyBlank : blank key <;> cases keyDigits : digits key <;>
        cases valueBlank : blank value <;> cases valueDigits : digits value <;>
        by_cases isPath : key = "path".toList <;> cases current <;>
        simp_all [Line.tokens, readLibraryTokens, Line.gives, Line.next, Line.numbered,
          Line.pathValue, Line.names]

def scan : Option (List Char) → List Line → Libraries
  | _, [] => []
  | current, line :: rest => line.gives current ++ scan (line.next current) rest

theorem foldl_lines (lines : List Line) (state : Libraries × Option (List Char)) :
    (lines.foldl (fun state line => readLibraryTokens state line.tokens) state).1 =
      state.1 ++ scan state.2 lines := by
  induction lines generalizing state with
  | nil => simp [scan]
  | cons line rest ih => rw [List.foldl_cons, ih, readLibraryTokens_line, List.append_assoc, scan]

/-- No line is taken for a library: there is no key of digits with a value, and no `path` after
digits that stand alone. -/
def Quiet (lines : List Line) : Prop :=
  (∀ line ∈ lines, line.numbered = none) ∧
    lines.Pairwise fun line later => line.names = none ∨ later.pathValue = none

/-- Of the lines of a block that is named `current`, the first one that is a key of digits with
a value, or a `path`, stands for the library, and after it no line is taken for one. -/
def Undisturbed (current id path : List Char) (lines : List Line) : Prop :=
  ∃ front line back, lines = front ++ line :: back ∧
    (∀ other ∈ front, other.numbered = none ∧ other.pathValue = none) ∧
    (line.numbered = some (id, path) ∨
      line.pathValue = some path ∧ ((front.filterMap Line.names).getLast?.getD current) = id) ∧
    Quiet back

variable {line : Line}

theorem eq_of_pathValue {path : List Char} (given : line.pathValue = some path) :
    line = .pair "path".toList path := by
  cases line with
  | pair key value =>
      simp only [Line.pathValue] at given
      split_ifs at given with isPath
      rw [Bool.and_eq_true] at isPath
      rw [of_decide_eq_true isPath.1, Option.some.inj given]
  | heading key => cases given
  | opening => cases given
  | closing => cases given

theorem numbered_of_pathValue {path : List Char} (given : line.pathValue = some path) :
    line.numbered = none := by
  rw [eq_of_pathValue given]
  rfl

theorem names_of_pathValue {path : List Char} (given : line.pathValue = some path) :
    line.names = none := by
  rw [eq_of_pathValue given]
  rfl

theorem names_of_numbered {entry : List Char × List Char} (given : line.numbered = some entry) :
    line.names = none := by
  cases line with
  | pair key value =>
      simp only [Line.numbered] at given
      split_ifs at given with numbered
      simp only [Bool.and_eq_true, Bool.not_eq_true'] at numbered
      simp [Line.names, numbered.1.1, numbered.1.2, numbered.2]
  | heading key => cases given
  | opening => cases given
  | closing => cases given

theorem scan_of_numbered {entry : List Char × List Char} (given : line.numbered = some entry)
    (current : Option (List Char)) (rest : List Line) :
    scan current (line :: rest) = entry :: scan none rest := by
  simp [scan, Line.gives, Line.next, given, names_of_numbered given]

theorem scan_of_path {path : List Char} (given : line.pathValue = some path) (id : List Char)
    (rest : List Line) : scan (some id) (line :: rest) = (id, path) :: scan none rest := by
  simp [scan, Line.gives, Line.next, given, numbered_of_pathValue given, names_of_pathValue given]

theorem scan_of_neither (unnumbered : line.numbered = none) (noPath : line.pathValue = none)
    (current : Option (List Char)) (rest : List Line) :
    scan current (line :: rest) = scan (line.names.or current) rest := by
  cases names : line.names <;> simp [scan, Line.gives, Line.next, unnumbered, noPath, names]

theorem scan_some_eq_nil_iff {id : List Char} {lines : List Line} :
    scan (some id) lines = [] ↔ ∀ line ∈ lines, line.numbered = none ∧ line.pathValue = none := by
  induction lines generalizing id with
  | nil => simp [scan]
  | cons line rest ih =>
      rw [List.forall_mem_cons]
      cases numbered : line.numbered with
      | some entry => simp [scan_of_numbered numbered]
      | none =>
          cases given : line.pathValue with
          | some path => simp [scan_of_path given]
          | none =>
              rw [scan_of_neither numbered given]
              cases line.names <;> simp [ih]

theorem scan_none_eq_nil_iff {lines : List Line} : scan none lines = [] ↔ Quiet lines := by
  unfold Quiet
  induction lines with
  | nil => simp [scan]
  | cons line rest ih =>
      rw [List.forall_mem_cons, List.pairwise_cons]
      cases numbered : line.numbered with
      | some entry => simp [scan_of_numbered numbered]
      | none =>
          have passes : scan none (line :: rest) = scan line.names rest := by
            cases given : line.pathValue with
            | none =>
                rw [scan_of_neither numbered given]
                cases line.names <;> rfl
            | some path =>
                simp [scan, Line.gives, Line.next, numbered, given, names_of_pathValue given]
          rw [passes]
          cases names : line.names with
          | none => simpa using ih
          | some id =>
              rw [scan_some_eq_nil_iff]
              constructor
              · intro still
                refine ⟨⟨rfl, fun other member => (still other member).1⟩,
                  fun other member => Or.inr (still other member).2, ?_⟩
                exact List.pairwise_of_forall_mem_list fun _ _ other member =>
                  Or.inr (still other member).2
              · rintro ⟨⟨_, unnumbered⟩, noPaths, _⟩ other member
                exact ⟨unnumbered other member, by simpa using noPaths other member⟩

theorem undisturbed_of_first {current id path : List Char} {rest : List Line}
    (taken : line.numbered ≠ none ∨ line.pathValue ≠ none) :
    Undisturbed current id path (line :: rest) ↔
      (line.numbered = some (id, path) ∨ line.pathValue = some path ∧ current = id) ∧
        Quiet rest := by
  constructor
  · rintro ⟨front, first, back, parts, untaken, stands, quiet⟩
    cases front with
    | nil =>
        obtain ⟨rfl, rfl⟩ := List.cons.inj parts
        exact ⟨stands, quiet⟩
    | cons other front =>
        obtain ⟨rfl, _⟩ := List.cons.inj parts
        have neither := untaken line List.mem_cons_self
        cases taken with
        | inl numbered => exact absurd neither.1 numbered
        | inr given => exact absurd neither.2 given
  · rintro ⟨stands, quiet⟩
    exact ⟨[], line, rest, rfl, nofun, stands, quiet⟩

theorem undisturbed_of_later {current id path : List Char} {rest : List Line}
    (unnumbered : line.numbered = none) (noPath : line.pathValue = none) :
    Undisturbed current id path (line :: rest) ↔
      Undisturbed (line.names.getD current) id path rest := by
  have names : ∀ front : List Line,
      ((line :: front).filterMap Line.names).getLast?.getD current =
        (front.filterMap Line.names).getLast?.getD (line.names.getD current) := by
    intro front
    cases names : line.names with
    | none => simp [names]
    | some id =>
        rw [List.filterMap_cons_some names, List.getLast?_cons]
        rfl
  constructor
  · rintro ⟨front, first, back, parts, untaken, stands, quiet⟩
    cases front with
    | nil =>
        obtain ⟨rfl, _⟩ := List.cons.inj parts
        simp [unnumbered, noPath] at stands
    | cons other front =>
        obtain ⟨rfl, same⟩ := List.cons.inj parts
        rw [names] at stands
        exact ⟨front, first, back, same,
          fun other member => untaken other (List.mem_cons_of_mem line member), stands, quiet⟩
  · rintro ⟨front, first, back, rfl, untaken, stands, quiet⟩
    refine ⟨line :: front, first, back, rfl, ?_, by rw [names]; exact stands, quiet⟩
    rw [List.forall_mem_cons]
    exact ⟨⟨unnumbered, noPath⟩, untaken⟩

theorem scan_eq_singleton_iff {current id path : List Char} {lines : List Line} :
    scan (some current) lines = [(id, path)] ↔ Undisturbed current id path lines := by
  induction lines generalizing current with
  | nil =>
      constructor
      · intro none
        cases none
      · rintro ⟨front, line, back, parts, _⟩
        simp at parts
  | cons line rest ih =>
      cases numbered : line.numbered with
      | some entry =>
          rw [scan_of_numbered numbered, undisturbed_of_first (Or.inl (by simp [numbered]))]
          have noPath : line.pathValue = none := by
            cases given : line.pathValue with
            | none => rfl
            | some path => rw [numbered_of_pathValue given] at numbered; cases numbered
          simp [numbered, noPath, scan_none_eq_nil_iff]
      | none =>
          cases given : line.pathValue with
          | some value =>
              rw [scan_of_path given, undisturbed_of_first (Or.inr (by simp [given]))]
              simp [numbered, given, scan_none_eq_nil_iff, and_comm]
          | none =>
              rw [scan_of_neither numbered given, undisturbed_of_later numbered given]
              cases line.names with
              | none => exact ih
              | some id => exact ih

def entryGives : Node → Libraries
  | .pair key value => (Line.pair key value).numbered.toList
  | .block key children => scan (some key) (linesOfAll children)

theorem scan_append (current : Option (List Char)) (front back : List Line) :
    ∃ later, scan current (front ++ back) = scan current front ++ scan later back := by
  induction front generalizing current with
  | nil => exact ⟨current, rfl⟩
  | cons line rest ih =>
      obtain ⟨later, same⟩ := ih (line.next current)
      exact ⟨later, by rw [List.cons_append, scan, same, scan, List.append_assoc]⟩

theorem scan_libraryNode {node : Node} (formed : LibraryNode node)
    (current : Option (List Char)) : scan current node.lines = entryGives node := by
  cases node with
  | pair key value =>
      have noPath : (Line.pair key value).pathValue = none := by
        simp only [Line.pathValue, decide_eq_false formed.2, Bool.false_and, Bool.false_eq_true,
          if_false]
      unfold Node.lines
      change _ = (Line.pair key value).numbered.toList
      cases numbered : (Line.pair key value).numbered with
      | some entry =>
          rw [scan_of_numbered numbered]
          rfl
      | none =>
          rw [scan_of_neither numbered noPath]
          rfl
  | block key children =>
      have names : (Line.heading key).names = some key := by
        simp [Line.names, formed.1, formed.2.1]
      unfold Node.lines entryGives
      rw [scan_of_neither rfl rfl, names, Option.some_or, scan_of_neither rfl rfl]
      obtain ⟨later, same⟩ := scan_append (some key) (linesOfAll children) [.closing]
      change scan (some key) _ = _
      rw [same, scan_of_neither rfl rfl]
      exact List.append_nil _

theorem scan_libraryNodes {nodes : List Node} (formed : ∀ node ∈ nodes, LibraryNode node)
    (current : Option (List Char)) :
    scan current (linesOfAll nodes) = nodes.flatMap entryGives := by
  induction nodes generalizing current with
  | nil => rfl
  | cons node rest ih =>
      obtain ⟨first, others⟩ := List.forall_mem_cons.mp formed
      obtain ⟨later, same⟩ := scan_append current node.lines (linesOfAll rest)
      rw [linesOfAll, same, scan_libraryNode first, ih others, List.flatMap_cons]

theorem readLibraryTokens_brace (state : Libraries × Option (List Char)) (brace : List Char)
    (holds : '{' ∈ brace ∨ '}' ∈ brace) : readLibraryTokens state [brace] = state := by
  have visible : digits brace = false := by
    apply Bool.eq_false_iff.mpr
    intro all
    cases holds with
    | inl opens => exact absurd (List.all_eq_true.mp all '{' opens) (by decide)
    | inr closes => exact absurd (List.all_eq_true.mp all '}' closes) (by decide)
  simp [readLibraryTokens, visible]

theorem parseLibraryfolders_eq {root : List Char} {children : List Node} {text : List Char}
    (named : digits root = false) (formed : ∀ node ∈ children, LibraryNode node)
    (written : Written (.block root children) text) :
    parseLibraryfolders text = children.flatMap entryGives := by
  have skips : ∀ state, readLibraryTokens state [] = state := fun _ => rfl
  have read := foldl_tokens skips readLibraryTokens_brace written ([], none)
  unfold parseLibraryfolders
  rw [read, foldl_lines, List.nil_append]
  obtain ⟨later, same⟩ := scan_append none (linesOfAll children) [.closing]
  have heading : (Line.heading root).names = none := by simp [Line.names, named]
  unfold Node.lines
  rw [scan_of_neither rfl rfl, heading, scan_of_neither rfl rfl]
  change scan none _ = _
  rw [same, scan_of_neither rfl rfl, scan_libraryNodes formed]
  exact List.append_nil _

/-- A pair of the block that is an id has a path, and a block of the file is undisturbed. -/
def ClearNode : Node → Prop
  | .pair key value => digits key = true → blank value = false
  | .block key children =>
      ∀ path, ownPath children = some path → Undisturbed key key path (linesOfAll children)

theorem entryGives_eq_iff {node : Node} (formed : LibraryNode node) :
    entryGives node = (libraryEntry node).toList ↔ ClearNode node := by
  cases node with
  | pair key value =>
      have keyShown : blank key = false := formed.1
      simp only [entryGives, Line.numbered, libraryEntry, ClearNode]
      cases keyDigits : digits key <;> cases valueBlank : blank value <;>
        simp [keyShown]
  | block key children =>
      obtain ⟨_, numbered, some_path⟩ := formed
      obtain ⟨path, own⟩ := Option.isSome_iff_exists.mp some_path
      simp only [entryGives, libraryEntry, ClearNode, numbered, if_true, own, Option.map_some,
        Option.toList_some, Option.some.injEq, forall_eq']
      exact scan_eq_singleton_iff

theorem gives_shown {current : Option (List Char)} :
    ∀ entry ∈ line.gives current, blank entry.2 = false := by
  intro entry member
  unfold Line.gives at member
  cases numbered : line.numbered with
  | some found =>
      cases line with
      | pair key value =>
          simp only [numbered, List.mem_singleton] at member
          simp only [Line.numbered] at numbered
          split_ifs at numbered with shown
          rw [Bool.and_eq_true, Bool.not_eq_true'] at shown
          rw [member, ← Option.some.inj numbered]
          exact shown.2
      | heading key => cases numbered
      | opening => cases numbered
      | closing => cases numbered
  | none =>
      cases given : line.pathValue with
      | none => simp [numbered, given] at member
      | some path =>
          cases current with
          | none => simp [numbered, given] at member
          | some id =>
              simp only [numbered, given, List.mem_singleton] at member
              have same := eq_of_pathValue given
              rw [same, Line.pathValue] at given
              split_ifs at given with shown
              rw [Bool.and_eq_true, Bool.not_eq_true'] at shown
              rw [member]
              exact shown.2

theorem scan_shown {lines : List Line} {current : Option (List Char)} :
    ∀ entry ∈ scan current lines, blank entry.2 = false := by
  induction lines generalizing current with
  | nil => nofun
  | cons line rest ih =>
      intro entry member
      cases List.mem_append.mp member with
      | inl first => exact gives_shown entry first
      | inr later => exact ih entry later

theorem entryGives_shown {node : Node} : ∀ entry ∈ entryGives node, blank entry.2 = false := by
  cases node with
  | pair key value =>
      intro entry member
      have given : entry ∈ (Line.pair key value).gives none := by
        unfold Line.gives
        simp only [entryGives, Option.mem_toList] at member
        rw [member]
        exact List.mem_singleton_self entry
      exact gives_shown entry given
  | block key children => exact scan_shown

theorem mem_linesOfAll {key value : List Char} {nodes : List Node}
    (member : Node.pair key value ∈ nodes) : Line.pair key value ∈ linesOfAll nodes := by
  induction nodes with
  | nil => cases member
  | cons node rest ih =>
      rw [linesOfAll, List.mem_append]
      cases List.mem_cons.mp member with
      | inl same =>
          rw [← same, Node.lines]
          exact Or.inl List.mem_cons_self
      | inr later => exact Or.inr (ih later)

theorem entryGives_length {node : Node} (shown : ∀ entry ∈ libraryEntry node, blank entry.2 = false)
    (formed : LibraryNode node) :
    (libraryEntry node).toList.length ≤ (entryGives node).length := by
  cases node with
  | pair key value =>
      have keyShown : blank key = false := formed.1
      simp only [entryGives, Line.numbered, libraryEntry] at shown ⊢
      cases keyDigits : digits key with
      | false => simp
      | true =>
          have valueShown : blank value = false := shown (key, value) (by simp [keyDigits])
          simp [keyShown, valueShown]
  | block key children =>
      obtain ⟨_, numbered, some_path⟩ := formed
      obtain ⟨path, own⟩ := Option.isSome_iff_exists.mp some_path
      have entry : libraryEntry (.block key children) = some (key, path) := by
        simp [libraryEntry, numbered, own]
      have pathShown := shown (key, path) entry
      obtain ⟨node, member, found⟩ := List.exists_of_findSome?_eq_some own
      have line : Line.pair "path".toList path ∈ linesOfAll children := by
        cases node with
        | block other nodes => cases found
        | pair other value =>
            dsimp only at found
            split_ifs at found with isPath
            rw [← isPath, ← Option.some.inj found]
            exact mem_linesOfAll member
      have some_given : scan (some key) (linesOfAll children) ≠ [] := by
        intro none
        have ignored := (scan_some_eq_nil_iff.mp none _ line).2
        simp [Line.pathValue, pathShown] at ignored
      rw [entry]
      exact List.length_pos_iff.mpr some_given

theorem flatMap_eq_iff {Item Value : Type} {one two : Item → List Value} {items : List Item}
    (longer : ∀ item ∈ items, (two item).length ≤ (one item).length) :
    items.flatMap one = items.flatMap two ↔ ∀ item ∈ items, one item = two item := by
  induction items with
  | nil => simp
  | cons item rest ih =>
      obtain ⟨first, others⟩ := List.forall_mem_cons.mp longer
      rw [List.flatMap_cons, List.flatMap_cons, List.forall_mem_cons]
      constructor
      · intro same
        have total := congrArg List.length same
        have rest_longer : (rest.flatMap two).length ≤ (rest.flatMap one).length := by
          rw [List.length_flatMap, List.length_flatMap]
          exact List.sum_le_sum others
        rw [List.length_append, List.length_append] at total
        obtain ⟨equal, later⟩ := List.append_inj same (by omega)
        exact ⟨equal, (ih others).mp later⟩
      · rintro ⟨equal, later⟩
        rw [equal, (ih others).mpr later]

theorem libraries_iff {root : List Char} {children : List Node} {text : List Char}
    (named : digits root = false) (formed : ∀ node ∈ children, LibraryNode node)
    (written : Written (.block root children) text) :
    parseLibraryfolders text = libraryEntries children ↔ ∀ node ∈ children, ClearNode node := by
  rw [parseLibraryfolders_eq named formed written, libraryEntries,
    List.filterMap_eq_flatMap_toList]
  constructor
  · intro same
    -- What is given is never blank, so neither are the paths of the entries.
    have shown : ∀ node ∈ children, ∀ entry ∈ libraryEntry node, blank entry.2 = false := by
      intro node member entry own
      have among : entry ∈ children.flatMap fun node => (libraryEntry node).toList :=
        List.mem_flatMap.mpr ⟨node, member, Option.mem_toList.mpr own⟩
      rw [← same] at among
      obtain ⟨other, _, given⟩ := List.mem_flatMap.mp among
      exact entryGives_shown entry given
    have longer : ∀ node ∈ children,
        (libraryEntry node).toList.length ≤ (entryGives node).length :=
      fun node member => entryGives_length (shown node member) (formed node member)
    intro node member
    exact (entryGives_eq_iff (formed node member)).mp ((flatMap_eq_iff longer).mp same node member)
  · intro clear
    have equal : ∀ node ∈ children, entryGives node = (libraryEntry node).toList :=
      fun node member => (entryGives_eq_iff (formed node member)).mpr (clear node member)
    exact (flatMap_eq_iff fun node member => (congrArg List.length (equal node member)).ge).mpr
      equal

/-- The last value in the file of a key, wherever it stands, that is not blank and has no
brace. -/
def lastValue (key : List Char) (lines : List Line) : Option (List Char) :=
  (lines.filterMap fun
    | .pair other value =>
        if other = key ∧ blank value = false ∧ value.contains '{' = false then some value else none
    | _ => none).getLast?

theorem insertTokens_line {key : List Char} (keyShown : blank key = false)
    (keyPlain : key.contains '{' = false) (map : AcfMap) (line : Line) :
    insertTokens map line.tokens key = (lastValue key [line]).or (map key) := by
  cases line with
  | opening => rfl
  | closing => rfl
  | heading other =>
      cases shown : blank other <;> simp [Line.tokens, insertTokens, lastValue, shown]
  | pair other value =>
      by_cases same : other = key
      · subst same
        cases valueShown : blank value <;> cases plain : value.contains '{' <;>
          simp_all [Line.tokens, insertTokens, lastValue]
      · cases otherShown : blank other <;> cases valueShown : blank value <;>
          simp [Line.tokens, insertTokens, lastValue, otherShown, valueShown, same]
        split <;> simp [Function.update_of_ne (Ne.symm same)]

theorem foldl_insertTokens {key : List Char} (keyShown : blank key = false)
    (keyPlain : key.contains '{' = false) (lines : List Line) (map : AcfMap) :
    lines.foldl (fun map line => insertTokens map line.tokens) map key =
      (lastValue key lines).or (map key) := by
  induction lines generalizing map with
  | nil => rfl
  | cons line rest ih =>
      have whole : lastValue key ([line] ++ rest) =
          (lastValue key rest).or (lastValue key [line]) := by
        unfold lastValue
        rw [List.filterMap_append, List.getLast?_append]
      rw [List.foldl_cons, ih, insertTokens_line keyShown keyPlain, ← Option.or_assoc, ← whole]
      rfl

theorem parseAcf_eq {document : Node} {text key : List Char} (keyShown : blank key = false)
    (keyPlain : key.contains '{' = false) (written : Written document text) :
    parseAcf text key = lastValue key document.lines := by
  have skips : ∀ map, insertTokens map [] = map := fun _ => rfl
  have ignores : ∀ map brace, '{' ∈ brace ∨ '}' ∈ brace → insertTokens map [brace] = map :=
    fun _ _ _ => rfl
  unfold parseAcf
  rw [foldl_tokens skips ignores written, foldl_insertTokens keyShown keyPlain, Option.or_none]

/-- The values that the lines of the file leave for the three keys read as the same number, name
and directory as the block's own values. -/
def Unshadowed (lines : List Line) (children : List Node) (steamapps : List Char) : Prop :=
  (lastValue "appid".toList lines).bind parseU32 =
      (ownValue "appid".toList children).bind parseU32 ∧
    ∀ appId, (ownValue "appid".toList children).bind parseU32 = some appId →
      nameOf (lastValue "name".toList lines) appId =
          nameOf (ownValue "name".toList children) appId ∧
        installDirOf (lastValue "name".toList lines) (lastValue "installdir".toList lines)
            steamapps appId =
          installDirOf (ownValue "name".toList children) (ownValue "installdir".toList children)
            steamapps appId

def ownApp (children : List Node) (libraryId steamapps : List Char) : Option SteamApp :=
  manifestApp (ownValue "appid".toList children) (ownValue "name".toList children)
    (ownValue "installdir".toList children) libraryId steamapps

theorem manifest_iff {root : List Char} {children : List Node} {text : List Char}
    (libraryId steamapps : List Char) (written : Written (.block root children) text) :
    parseAppmanifest text libraryId steamapps = ownApp children libraryId steamapps ↔
      Unshadowed (Node.block root children).lines children steamapps := by
  unfold parseAppmanifest ownApp Unshadowed
  simp only [parseAcf_eq (show blank "appid".toList = false by decide) (by decide) written,
    parseAcf_eq (show blank "name".toList = false by decide) (by decide) written,
    parseAcf_eq (show blank "installdir".toList = false by decide) (by decide) written]
  unfold manifestApp
  cases (lastValue "appid".toList (Node.block root children).lines).bind parseU32 with
  | none => cases (ownValue "appid".toList children).bind parseU32 <;> simp
  | some found =>
      cases (ownValue "appid".toList children).bind parseU32 with
      | none => simp
      | some appId =>
          simp only [Option.map_some, Option.some.injEq, SteamApp.mk.injEq, true_and, forall_eq']
          constructor
          · rintro ⟨rfl, name, dir, _⟩
            exact ⟨rfl, name, dir⟩
          · rintro ⟨rfl, name, dir⟩
            exact ⟨rfl, name, dir, rfl⟩

/-- The libraries that are read are the entries of the file exactly when no entry is disturbed,
and the app that is read is that of the block exactly when no other line shadows its values. -/
theorem steam_metadata_iff {folders state : List Char} {libraries values : List Node}
    {librariesText manifestText : List Char} (libraryId steamapps : List Char)
    (named : digits folders = false) (formed : ∀ node ∈ libraries, LibraryNode node)
    (librariesWritten : Written (.block folders libraries) librariesText)
    (manifestWritten : Written (.block state values) manifestText) :
    (parseLibraryfolders librariesText = libraryEntries libraries ↔
      ∀ node ∈ libraries, ClearNode node) ∧
    (parseAppmanifest manifestText libraryId steamapps = ownApp values libraryId steamapps ↔
      Unshadowed (Node.block state values).lines values steamapps) :=
  ⟨libraries_iff named formed librariesWritten,
    manifest_iff libraryId steamapps manifestWritten⟩

def plainLibraries : List Node :=
  [.block "0".toList [.pair "path".toList "/steam".toList, .pair "label".toList []],
    .pair "1".toList "/mnt".toList]

def plainLibrariesText : List Char :=
  ("\"libraryfolders\"\n\x7b\n\t\"0\"\n\t\x7b\n\t\t\"path\"\t\t\"/steam\"\n" ++
    "\t\t\"label\"\t\t\"\"\n\t\x7d\n\t\"1\" \"/mnt\"\n\x7d\n").toList

def plainManifest : List Node :=
  [.pair "appid".toList "480".toList, .pair "name".toList "Spacewar".toList,
    .pair "installdir".toList []]

def plainManifestText : List Char :=
  ("\"AppState\"\n\x7b\n\"appid\" \"480\"\n\"name\" \"Spacewar\"\n" ++
    "\"installdir\" \"\"\n\x7d\n").toList

theorem steam_metadata_plain :
    parseLibraryfolders plainLibrariesText = libraryEntries plainLibraries ∧
      parseAppmanifest plainManifestText [] "/steam".toList =
        ownApp plainManifest [] "/steam".toList := by
  have librariesWritten :
      Written (.block "libraryfolders".toList plainLibraries) plainLibrariesText := by
    decide +kernel
  have manifestWritten : Written (.block "AppState".toList plainManifest) plainManifestText := by
    decide +kernel
  have both := steam_metadata_iff [] "/steam".toList (by decide) (by decide) librariesWritten
    manifestWritten
  constructor
  · apply both.1.mpr
    intro node member
    rcases List.mem_cons.mp member with rfl | later
    · intro path own
      cases own
      exact scan_eq_singleton_iff.mp (by decide)
    · rw [List.mem_singleton.mp later]
      intro _
      decide
  · exact both.2.mpr ⟨rfl, fun appId _ => ⟨rfl, rfl⟩⟩

def libraryWithApps : List Node :=
  [.block "0".toList [.pair "path".toList "/steam".toList,
    .block "apps".toList [.pair "480".toList "7".toList]]]

def libraryWithAppsText : List Char :=
  ("\"libraryfolders\"\n\x7b\n\"0\"\n\x7b\n\"path\" \"/steam\"\n\"apps\"\n\x7b\n" ++
    "\"480\" \"7\"\n\x7d\n\x7d\n\x7d\n").toList

def manifestWithBranch : List Node :=
  [.pair "appid".toList "480".toList, .pair "name".toList "Spacewar".toList,
    .block "UserConfig".toList [.pair "name".toList "beta".toList]]

def manifestWithBranchText : List Char :=
  ("\"AppState\"\n\x7b\n\"appid\" \"480\"\n\"name\" \"Spacewar\"\n\"UserConfig\"\n\x7b\n" ++
    "\"name\" \"beta\"\n\x7d\n\x7d\n").toList

theorem steam_metadata_nested :
    (Written (.block "libraryfolders".toList libraryWithApps) libraryWithAppsText ∧
      (∀ node ∈ libraryWithApps, LibraryNode node) ∧
      parseLibraryfolders libraryWithAppsText ≠ libraryEntries libraryWithApps) ∧
    Written (.block "AppState".toList manifestWithBranch) manifestWithBranchText ∧
      parseAppmanifest manifestWithBranchText [] "/steam".toList ≠
        ownApp manifestWithBranch [] "/steam".toList := by
  decide +kernel

end Noland.Attribution.SteamMetadata
