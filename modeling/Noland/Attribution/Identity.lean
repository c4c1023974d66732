import Noland.Attribution.Ingest

/-!
A process belongs to the app of a registered root that its executable lies in, else to a Steam
app, else to a known app with its executable or its name, else to an app of its own. Paths and
names are lists of characters.
-/

namespace Noland.Attribution.Identity

open Noland.Core
open Noland.Text

/-- The entry of the desktop, the icon, the aliases and the confidence are left out. -/
structure AppIdentity where
  appId : AppId
  displayName : List Char
  canonicalExecutable : Option (List Char) := none
  steamAppId : Option Nat := none
  launcher : Option LauncherKind := none
  deriving DecidableEq

structure SteamApp where
  appId : Nat
  name : List Char
  installDir : List Char
  libraryId : List Char := []
  protonPrefix : Option (List Char) := none
  deriving DecidableEq

def SteamApp.toIdentity (app : SteamApp) : AppIdentity where
  appId := steamApp app.appId
  displayName := app.name
  steamAppId := some app.appId
  launcher := some .steam

/-- What the engine knows, how paths resolve, and the size and time of a file as text. -/
structure IdentityEngine where
  knownApps : List AppIdentity
  steamApps : List SteamApp
  rootRegistry : List RegisteredRoot
  canonicalize : List Char → List Char
  fingerprint : List Char → List Char

/-- `str::replace` with nothing; the number counts the characters still to be dropped. -/
def removeAll (part : List Char) : Nat → List Char → List Char
  | _, [] => []
  | skipped + 1, _ :: rest => removeAll part skipped rest
  | 0, c :: rest =>
      if part.isPrefixOf (c :: rest) then removeAll part (part.length - 1) rest
      else c :: removeAll part 0 rest

def normalizeName (name : List Char) : List Char :=
  (removeAll "launcher".toList 0 (lower name)).filter Char.isAlphanum

def namesEquivalent (one two : List Char) : Bool := normalizeName one = normalizeName two

/-- `trim_end_matches`, on the reversed text. -/
def dropEndings (ending : List Char) : Nat → List Char → List Char
  | 0, reversed => reversed
  | fuel + 1, reversed =>
      if ending.isPrefixOf reversed then dropEndings ending fuel (reversed.drop ending.length)
      else reversed

def normalizeDesktopId (raw : List Char) : List Char :=
  let trimmed := (trim raw).reverse
  (lower (dropEndings ".desktop".toList.reverse trimmed.length trimmed).reverse).map fun c =>
    if ('a' ≤ c && c ≤ 'z') || ('0' ≤ c && c ≤ '9') || c = '-' || c = '_' || c = '.' then c
    else '-'

def exeAppId (name fingerprint : List Char) : AppId :=
  ⟨String.ofList ("exe:".toList ++ normalizeDesktopId name ++ ':' :: fingerprint)⟩

/-- `Path::file_stem` of a name: a name that only starts with a dot is its own stem. -/
def stemOf (name : List Char) : List Char :=
  match splitOnce '.' name.reverse with
  | none => name
  | some (_, before) => if before = [] then name else before.reverse

def supportsProcessIdentity (root : RegisteredRoot) : Bool :=
  root.kind = "install" || root.kind = "proton"

def commandText (exe : List Char) (comm : Option (List Char)) : List Char :=
  exe ++ ' ' :: comm.getD []

def SteamApp.below (app : SteamApp) (exe : List Char) : Bool :=
  startsWith exe app.installDir || app.protonPrefix.any (startsWith exe)

def SteamApp.isMatch (app : SteamApp) (exe : List Char) (comm : Option (List Char)) : Bool :=
  contains (commandText exe comm) (toString app.appId) || app.below exe

def resolveIdentityForExecutable (apps : List AppIdentity) (exe : List Char) :
    Option AppIdentity :=
  apps.find? fun app => app.canonicalExecutable.any fun path =>
    rootedComponents path = rootedComponents exe ||
      (pathName path).any fun name => lower name = lower ((pathName exe).getD [])

namespace IdentityEngine

variable (engine : IdentityEngine) (exe : List Char) (comm : Option (List Char))

def containing : List RegisteredRoot :=
  engine.rootRegistry.filter fun root =>
    supportsProcessIdentity root && startsWith (engine.canonicalize exe) root.path.toList

def processOwner : Option AppId := (longest (engine.containing exe)).map RegisteredRoot.appId

def knownOwner : Option AppIdentity :=
  (engine.processOwner exe).bind fun owner =>
    engine.knownApps.find? fun app => app.appId = owner

def identifySteam : Option AppIdentity :=
  (engine.steamApps.find? fun app => app.isMatch exe comm).map SteamApp.toIdentity

def fallbackExeIdentity : AppIdentity :=
  let name := ((pathName exe).map stemOf).getD "unknown".toList
  { appId := exeAppId name (engine.fingerprint exe)
    displayName := name
    canonicalExecutable := some exe
    launcher := some .native }

def namedByExecutableOrCommand : Option AppIdentity :=
  (resolveIdentityForExecutable engine.knownApps exe).or
    (comm.bind fun comm =>
      engine.knownApps.find? fun app => namesEquivalent app.displayName comm)

def resolveIdentity : AppIdentity :=
  match engine.knownOwner exe with
  | some found => found
  | none =>
      match engine.identifySteam exe comm with
      | some steam => steam
      | none =>
          match engine.namedByExecutableOrCommand exe comm with
          | some found => found
          | none => engine.fallbackExeIdentity exe

end IdentityEngine

/-- What words and components are made of, so that `python3.10` is one. -/
def wordChar (c : Char) : Bool := c ≠ '/' && !whitespace c

def namedFrom (word : List Char) : Bool → List Char → Bool
  | _, [] => false
  | inWord, c :: rest =>
      (!inWord && word.isPrefixOf (c :: rest) &&
        ((c :: rest).drop word.length).head?.all fun next => !wordChar next) ||
      namedFrom word (wordChar c) rest

def namesWord (word text : List Char) : Bool := namedFrom word false text

def depth (root : RegisteredRoot) : Nat := (rootedComponents root.path.toList).length

namespace IdentityEngine

variable (engine : IdentityEngine) (exe : List Char) (comm : Option (List Char))

def OwnsDeepest (appId : AppId) : Prop :=
  ∃ root ∈ engine.containing exe, root.appId = appId ∧
    ∀ other ∈ engine.containing exe, depth other ≤ depth root

def Evident (appId : AppId) : Prop :=
  ∃ app ∈ engine.steamApps, steamApp app.appId = appId ∧
    (app.below exe = true ∨
      namesWord (toString app.appId).toList (commandText exe comm) = true)

structure Sound : Prop where
  owned : engine.containing exe ≠ [] →
    engine.OwnsDeepest exe (engine.resolveIdentity exe comm).appId
  evident : engine.containing exe = [] → ∀ app ∈ engine.steamApps,
    steamApp app.appId = (engine.resolveIdentity exe comm).appId →
      engine.Evident exe comm (steamApp app.appId)
  ordered : ∀ others : List SteamApp, others.Perm engine.steamApps →
    { engine with steamApps := others }.resolveIdentity exe comm =
      engine.resolveIdentity exe comm

def Agree : Prop :=
  ∀ one ∈ engine.steamApps, ∀ two ∈ engine.steamApps, one.isMatch exe comm = true →
    two.isMatch exe comm = true → one.toIdentity = two.toIdentity

/-- The longest root belongs to a known app that has a deepest one. Without a root, the one Steam
app that matches is evident, and with none neither the executable nor the command is that of a
Steam app. With roots of an unknown app, the other rules give an app with a deepest root. -/
def Decided : Prop :=
  match longest (engine.containing exe) with
  | none =>
      engine.Agree exe comm ∧
      (∀ app ∈ engine.steamApps, app.isMatch exe comm = true →
        engine.Evident exe comm (steamApp app.appId)) ∧
      ((∀ app ∈ engine.steamApps, app.isMatch exe comm = false) →
        ∀ found, engine.namedByExecutableOrCommand exe comm = some found →
          ∀ app ∈ engine.steamApps, steamApp app.appId ≠ found.appId)
  | some root =>
      if root.appId ∈ engine.knownApps.map AppIdentity.appId then
        engine.OwnsDeepest exe root.appId
      else
        engine.Agree exe comm ∧
        (∀ app ∈ engine.steamApps, app.isMatch exe comm = true →
          engine.OwnsDeepest exe (steamApp app.appId)) ∧
        ((∀ app ∈ engine.steamApps, app.isMatch exe comm = false) →
          engine.OwnsDeepest exe ((engine.namedByExecutableOrCommand exe comm).getD
            (engine.fallbackExeIdentity exe)).appId)

end IdentityEngine

theorem longest_concat (roots : List RegisteredRoot) (root : RegisteredRoot) :
    longest (roots ++ [root]) = some root ∨ longest (roots ++ [root]) = longest roots ∧
      longest roots ≠ none := by
  unfold longest
  rw [List.foldl_append, List.foldl_cons, List.foldl_nil]
  split
  · exact Or.inl rfl
  · rename_i current present
    rw [present]
    by_cases longer : current.path.utf8ByteSize ≤ root.path.utf8ByteSize <;> simp [longer]

theorem longest_eq_none_iff {roots : List RegisteredRoot} : longest roots = none ↔ roots = [] := by
  constructor
  · intro none
    rcases List.eq_nil_or_concat roots with empty | ⟨front, root, rfl⟩
    · exact empty
    · rw [List.concat_eq_append] at none
      rcases longest_concat front root with last | ⟨before, present⟩
      · rw [last] at none
        cases none
      · exact absurd (before.symm.trans none) present
  · rintro rfl
    rfl

theorem occurs_of_namedFrom {word text : List Char} {inWord : Bool}
    (named : namedFrom word inWord text = true) :
    (text.tails.any fun rest => word.isPrefixOf rest) = true := by
  induction text generalizing inWord with
  | nil => cases named
  | cons c rest ih =>
      rw [List.tails, List.any_cons, Bool.or_eq_true]
      rw [namedFrom, Bool.or_eq_true] at named
      cases named with
      | inl here =>
          rw [Bool.and_eq_true, Bool.and_eq_true] at here
          exact Or.inl here.1.2
      | inr later => exact Or.inr (ih later)

theorem isMatch_of_named {app : SteamApp} {exe : List Char} {comm : Option (List Char)}
    (named : app.below exe = true ∨
      namesWord (toString app.appId).toList (commandText exe comm) = true) :
    app.isMatch exe comm = true := by
  unfold SteamApp.isMatch contains
  rw [Bool.or_eq_true]
  cases named with
  | inl inside => exact Or.inr inside
  | inr word => exact Or.inl (occurs_of_namedFrom word)

namespace IdentityEngine

variable {engine : IdentityEngine} {exe : List Char} {comm : Option (List Char)}

theorem resolveIdentity_of_match (unowned : engine.knownOwner exe = none)
    (agree : engine.Agree exe comm) {app : SteamApp} (member : app ∈ engine.steamApps)
    (matching : app.isMatch exe comm = true) :
    engine.resolveIdentity exe comm = app.toIdentity := by
  have same : engine.identifySteam exe comm = some app.toIdentity := by
    unfold identifySteam
    cases found : engine.steamApps.find? fun app => app.isMatch exe comm with
    | none => exact absurd matching (List.find?_eq_none.mp found app member)
    | some other =>
        have otherMatches := List.find?_some found
        have otherMember := List.mem_of_find?_eq_some found
        exact congrArg some (agree other otherMember app member otherMatches matching)
  unfold resolveIdentity
  rw [unowned, same]

theorem resolveIdentity_of_no_match (unowned : engine.knownOwner exe = none)
    (unmatched : ∀ app ∈ engine.steamApps, app.isMatch exe comm = false) :
    engine.resolveIdentity exe comm =
      (engine.namedByExecutableOrCommand exe comm).getD (engine.fallbackExeIdentity exe) := by
  have none : engine.identifySteam exe comm = none := by
    unfold identifySteam
    rw [List.find?_eq_none.mpr]
    · rfl
    · intro app member
      rw [unmatched app member]
      exact Bool.false_ne_true
  unfold resolveIdentity
  rw [unowned, none]
  cases engine.namedByExecutableOrCommand exe comm <;> rfl

theorem ordered_iff (unowned : engine.knownOwner exe = none) :
    (∀ others : List SteamApp, others.Perm engine.steamApps →
      { engine with steamApps := others }.resolveIdentity exe comm =
        engine.resolveIdentity exe comm) ↔ engine.Agree exe comm := by
  constructor
  · intro ordered
    -- Each app that matches can be put first.
    have given : ∀ app ∈ engine.steamApps, app.isMatch exe comm = true →
        app.toIdentity = engine.resolveIdentity exe comm := by
      intro app member matching
      obtain ⟨front, back, parts⟩ := List.append_of_mem member
      have moved : (app :: (front ++ back)).Perm engine.steamApps := by
        rw [parts]
        exact List.perm_middle.symm
      rw [← ordered _ moved]
      have first : ({ engine with steamApps := app :: (front ++ back) } :
          IdentityEngine).identifySteam exe comm = some app.toIdentity := by
        unfold identifySteam
        simp [matching]
      unfold resolveIdentity
      rw [first]
      change _ = match engine.knownOwner exe with | some found => found | none => _
      rw [unowned]
    intro one oneMember two twoMember oneMatches twoMatches
    exact (given one oneMember oneMatches).trans (given two twoMember twoMatches).symm
  · intro agree others perm
    have agreeOthers : ({ engine with steamApps := others } : IdentityEngine).Agree exe comm :=
      fun one oneMember two twoMember =>
        agree one (perm.subset oneMember) two (perm.subset twoMember)
    have unownedOthers :
        ({ engine with steamApps := others } : IdentityEngine).knownOwner exe = none := unowned
    by_cases matching : ∃ app ∈ engine.steamApps, app.isMatch exe comm = true
    · obtain ⟨app, member, matching⟩ := matching
      rw [resolveIdentity_of_match unowned agree member matching]
      exact resolveIdentity_of_match unownedOthers agreeOthers (perm.symm.subset member) matching
    · have unmatched : ∀ app ∈ engine.steamApps, app.isMatch exe comm = false :=
        fun app member => Bool.eq_false_iff.mpr fun matched => matching ⟨app, member, matched⟩
      rw [resolveIdentity_of_no_match unowned unmatched]
      exact resolveIdentity_of_no_match unownedOthers fun app member =>
        unmatched app (perm.subset member)

theorem knownOwner_eq (engine : IdentityEngine) (exe : List Char) :
    (match longest (engine.containing exe) with
      | none => engine.containing exe = [] ∧ engine.knownOwner exe = none
      | some root => engine.containing exe ≠ [] ∧
          if root.appId ∈ engine.knownApps.map AppIdentity.appId then
            ∃ found, engine.knownOwner exe = some found ∧ found.appId = root.appId
          else engine.knownOwner exe = none) := by
  unfold knownOwner processOwner
  cases longestRoot : longest (engine.containing exe) with
  | none => exact ⟨longest_eq_none_iff.mp longestRoot, rfl⟩
  | some root =>
      constructor
      · intro empty
        rw [longest_eq_none_iff.mpr empty] at longestRoot
        cases longestRoot
      · simp only [Option.map_some, Option.bind_some]
        split
        · rename_i known
          obtain ⟨app, member, same⟩ := List.mem_map.mp known
          cases found : engine.knownApps.find? fun app => app.appId = root.appId with
          | none => exact absurd (decide_eq_true same) (List.find?_eq_none.mp found app member)
          | some first => exact ⟨first, rfl, of_decide_eq_true (List.find?_some found :)⟩
        · rename_i unknown
          apply List.find?_eq_none.mpr
          intro app member same
          exact unknown (List.mem_map.mpr ⟨app, member, of_decide_eq_true same⟩)

theorem exeAppId_ne (name fingerprint : List Char) (appId : Nat) :
    steamApp appId ≠ exeAppId name fingerprint := by
  intro same
  have texts : ("steam:" ++ toString appId).toList =
      (String.ofList ("exe:".toList ++ normalizeDesktopId name ++ ':' :: fingerprint)).toList :=
    congrArg (fun id : AppId => id.text.toList) same
  have exe : "exe:".toList = 'e' :: "xe:".toList := by decide
  rw [String.toList_append, String.toList_ofList, exe, String.toList_ofList] at texts
  exact absurd (List.cons.inj texts).1 (by decide)

theorem sound_iff_of_unowned_root (unowned : engine.knownOwner exe = none)
    (inside : engine.containing exe ≠ []) :
    engine.Sound exe comm ↔ engine.Agree exe comm ∧
      (∀ app ∈ engine.steamApps, app.isMatch exe comm = true →
        engine.OwnsDeepest exe (steamApp app.appId)) ∧
      ((∀ app ∈ engine.steamApps, app.isMatch exe comm = false) →
        engine.OwnsDeepest exe ((engine.namedByExecutableOrCommand exe comm).getD
          (engine.fallbackExeIdentity exe)).appId) := by
  constructor
  · intro sound
    have agree := (ordered_iff unowned).mp sound.ordered
    have owned := sound.owned inside
    refine ⟨agree, fun app member matching => ?_, fun unmatched => ?_⟩
    · rw [resolveIdentity_of_match unowned agree member matching] at owned
      exact owned
    · rw [resolveIdentity_of_no_match unowned unmatched] at owned
      exact owned
  · rintro ⟨agree, matched, others⟩
    refine ⟨fun _ => ?_, fun empty => absurd empty inside, (ordered_iff unowned).mpr agree⟩
    by_cases matching : ∃ app ∈ engine.steamApps, app.isMatch exe comm = true
    · obtain ⟨app, member, matching⟩ := matching
      rw [resolveIdentity_of_match unowned agree member matching]
      exact matched app member matching
    · have unmatched : ∀ app ∈ engine.steamApps, app.isMatch exe comm = false :=
        fun app member => Bool.eq_false_iff.mpr fun matched => matching ⟨app, member, matched⟩
      rw [resolveIdentity_of_no_match unowned unmatched]
      exact others unmatched

theorem sound_iff_of_no_root (unowned : engine.knownOwner exe = none)
    (outside : engine.containing exe = []) :
    engine.Sound exe comm ↔ engine.Agree exe comm ∧
      (∀ app ∈ engine.steamApps, app.isMatch exe comm = true →
        engine.Evident exe comm (steamApp app.appId)) ∧
      ((∀ app ∈ engine.steamApps, app.isMatch exe comm = false) →
        ∀ found, engine.namedByExecutableOrCommand exe comm = some found →
          ∀ app ∈ engine.steamApps, steamApp app.appId ≠ found.appId) := by
  constructor
  · intro sound
    have agree := (ordered_iff unowned).mp sound.ordered
    have evident := sound.evident outside
    refine ⟨agree, fun app member matching => ?_, ?_⟩
    · rw [resolveIdentity_of_match unowned agree member matching] at evident
      exact evident app member rfl
    · intro unmatched found named app member same
      rw [resolveIdentity_of_no_match unowned unmatched, named] at evident
      -- A Steam app that is evident matches.
      obtain ⟨other, otherMember, _, shown⟩ := evident app member same
      have matched := isMatch_of_named shown
      rw [unmatched other otherMember] at matched
      cases matched
  · rintro ⟨agree, matched, others⟩
    refine ⟨fun inside => absurd outside inside, ?_, (ordered_iff unowned).mpr agree⟩
    intro _ app member same
    by_cases matching : ∃ app ∈ engine.steamApps, app.isMatch exe comm = true
    · obtain ⟨other, otherMember, matching⟩ := matching
      rw [resolveIdentity_of_match unowned agree otherMember matching] at same
      rw [same]
      exact matched other otherMember matching
    · have unmatched : ∀ app ∈ engine.steamApps, app.isMatch exe comm = false :=
        fun app member => Bool.eq_false_iff.mpr fun matched => matching ⟨app, member, matched⟩
      rw [resolveIdentity_of_no_match unowned unmatched] at same
      cases named : engine.namedByExecutableOrCommand exe comm with
      | some found =>
          rw [named] at same
          exact absurd same (others unmatched found named app member)
      | none =>
          rw [named] at same
          exact absurd same (exeAppId_ne _ _ app.appId)

theorem sound_iff_of_owned {found : AppIdentity} (owned : engine.knownOwner exe = some found)
    (inside : engine.containing exe ≠ []) :
    engine.Sound exe comm ↔ engine.OwnsDeepest exe found.appId := by
  have answer : ∀ apps : List SteamApp,
      ({ engine with steamApps := apps } : IdentityEngine).resolveIdentity exe comm = found := by
    intro apps
    unfold resolveIdentity
    change (match engine.knownOwner exe with | some found => found | none => _) = _
    rw [owned]
  constructor
  · intro sound
    have deepest := sound.owned inside
    rw [answer engine.steamApps] at deepest
    exact deepest
  · intro deepest
    refine ⟨fun _ => ?_, fun empty => absurd empty inside, fun others _ => ?_⟩
    · rw [answer engine.steamApps]
      exact deepest
    · rw [answer others, answer engine.steamApps]

/-- One Steam app is installed, and no root is registered. -/
def counterStrike : IdentityEngine where
  knownApps := []
  steamApps := [{ appId := 10, name := "Counter-Strike".toList
                  installDir := "/games/common/Half-Life".toList }]
  rootRegistry := []
  canonicalize := id
  fingerprint := fun _ => "0-0".toList

end IdentityEngine

end Noland.Attribution.Identity
