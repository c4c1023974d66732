import Noland.Lib.Machine
import Noland.Storage.Catalog

/-!
The heads of a catalog are taken from the newest complete bundle of an app, and an empty one has
no head: one that is the newest hides the full bundles before it. A bundle whose commit is
recorded already is not recorded again, but becomes the latest one.
-/

namespace Noland.Storage

open Noland.Core Noland.Machine

def CatalogApp.restorableBundleId (app : CatalogApp) : Option Uuid :=
  app.latestCompleteBundleId.or
    ((latestNonemptyCompleteBundle app.bundles).map CatalogBundle.bundleId)

structure Upsert where
  appId : AppId
  displayName : String
  bundle : CatalogBundle
  deriving DecidableEq

def CatalogDocument.upsert (catalog : CatalogDocument) (event : Upsert) : CatalogDocument :=
  catalog.upsertBundle event.appId event.displayName event.bundle

def CatalogBundle.full (bundle : CatalogBundle) : Prop :=
  bundle.mode = .completeApplication ∧ 0 < bundle.logicalSize

def CatalogBundle.personal (bundle : CatalogBundle) : Prop := bundle.mode = .personalState

structure NewestOf (wanted : CatalogBundle → Prop) (bundles : List CatalogBundle)
    (head : Option Uuid) : Prop where
  newest : ∀ id, head = some id → ∃ bundle ∈ bundles, wanted bundle ∧ bundle.bundleId = id ∧
    ∀ other ∈ bundles, wanted other → other.capturedAt ≤ bundle.capturedAt
  none : head = none → ∀ other ∈ bundles, ¬ wanted other

structure CatalogApp.HeadsRight (app : CatalogApp) : Prop where
  restorable : NewestOf CatalogBundle.full app.bundles app.restorableBundleId
  personal : NewestOf CatalogBundle.personal app.bundles app.latestPersonalStateBundleId
  latest : ∃ bundle ∈ app.bundles, bundle.bundleId = app.latestBundleId

structure CatalogDocument.HeadsRight (catalog : CatalogDocument) : Prop where
  apps_once : (catalog.apps.map CatalogApp.appId).Nodup
  heads_once : catalog.heads.Nodup
  same : ∀ appId, appId ∈ catalog.heads ↔ appId ∈ catalog.apps.map CatalogApp.appId
  apps : ∀ app ∈ catalog.apps, app.HeadsRight

def CatalogDocument.recorded (catalog : CatalogDocument) (appId : AppId) : List CatalogBundle :=
  match catalog.apps.find? fun app => app.appId = appId with
  | some app => app.bundles
  | none => []

def completeBundles (bundles : List CatalogBundle) : List CatalogBundle :=
  bundles.filter fun bundle => bundle.mode = .completeApplication

/-- If there is a full bundle, there is one that no empty complete bundle comes after: each
was captured before it, or at the same time and recorded before it. -/
def FullNotHidden (bundles : List CatalogBundle) : Prop :=
  (∃ bundle ∈ bundles, bundle.full) →
    ∃ front bundle back, completeBundles bundles = front ++ bundle :: back ∧
      0 < bundle.logicalSize ∧
      (∀ other ∈ front, other.logicalSize = 0 → other.capturedAt ≤ bundle.capturedAt) ∧
      ∀ other ∈ back, other.logicalSize = 0 → other.capturedAt < bundle.capturedAt

/-- The bundle does not hide a full one, and a repeated commit comes with a recorded bundle. -/
def CatalogDocument.Clear (catalog : CatalogDocument) (event : Upsert) : Prop :=
  FullNotHidden (addBundleOnce (catalog.recorded event.appId) event.bundle) ∧
    ∃ bundle ∈ addBundleOnce (catalog.recorded event.appId) event.bundle,
      bundle.bundleId = event.bundle.bundleId

variable {bundles : List CatalogBundle} {catalog : CatalogDocument}

theorem latestCaptured_isSome (filled : bundles ≠ []) :
    ∃ best, latestCaptured bundles = some best := by
  cases bundles with
  | nil => exact absurd rfl filled
  | cons bundle rest =>
      unfold latestCaptured
      cases latestCaptured rest with
      | none => exact ⟨_, rfl⟩
      | some best =>
          by_cases older : best.capturedAt < bundle.capturedAt
          · exact ⟨bundle, if_pos older⟩
          · exact ⟨best, if_neg older⟩

theorem latestCaptured_none : latestCaptured bundles = none ↔ bundles = [] := by
  constructor
  · intro nothing
    by_contra filled
    obtain ⟨best, found⟩ := latestCaptured_isSome filled
    rw [nothing] at found
    cases found
  · rintro rfl
    rfl

theorem latestCaptured_split {best : CatalogBundle} (found : latestCaptured bundles = some best) :
    ∃ front back, bundles = front ++ best :: back ∧
      (∀ other ∈ front, other.capturedAt ≤ best.capturedAt) ∧
      ∀ other ∈ back, other.capturedAt < best.capturedAt := by
  induction bundles generalizing best with
  | nil => cases found
  | cons bundle rest ih =>
      unfold latestCaptured at found
      cases later : latestCaptured rest with
      | none =>
          rw [later] at found
          cases found
          rw [latestCaptured_none.mp later]
          exact ⟨[], [], rfl, by simp, by simp⟩
      | some newest =>
          rw [later] at found
          obtain ⟨front, back, rfl, before, after⟩ := ih later
          by_cases older : newest.capturedAt < bundle.capturedAt
          · simp only [if_pos older, Option.some.injEq] at found
            rw [← found]
            refine ⟨[], _, rfl, by simp, ?_⟩
            intro other member
            rcases List.mem_append.mp member with inside | inside
            · exact Int.lt_of_le_of_lt (before other inside) older
            · rcases List.mem_cons.mp inside with rfl | inside
              · exact older
              · exact Int.lt_trans (after other inside) older
          · simp only [if_neg older, Option.some.injEq] at found
            rw [← found]
            refine ⟨bundle :: front, back, rfl, ?_, after⟩
            intro other member
            rcases List.mem_cons.mp member with rfl | inside
            · exact Int.not_lt.mp older
            · exact before other inside

theorem mem_of_latest {mode : BackupMode} {best : CatalogBundle}
    (found : latestBundleForMode bundles mode = some best) :
    best ∈ bundles ∧ best.mode = mode ∧
      ∀ other ∈ bundles, other.mode = mode → other.capturedAt ≤ best.capturedAt := by
  obtain ⟨front, back, split, before, after⟩ := latestCaptured_split found
  have inside : best ∈ bundles.filter fun bundle => bundle.mode = mode := by
    rw [split]
    exact List.mem_append_right _ List.mem_cons_self
  have ⟨member, same⟩ := List.mem_filter.mp inside
  refine ⟨member, of_decide_eq_true same, ?_⟩
  intro other listed other_mode
  have among : other ∈ bundles.filter fun bundle => bundle.mode = mode :=
    List.mem_filter.mpr ⟨listed, decide_eq_true other_mode⟩
  rw [split] at among
  rcases List.mem_append.mp among with inside | inside
  · exact before other inside
  · rcases List.mem_cons.mp inside with rfl | inside
    · exact Int.le_refl _
    · exact Int.le_of_lt (after other inside)

theorem fullNotHidden_iff (bundles : List CatalogBundle) :
    FullNotHidden bundles ↔
      ((∃ bundle ∈ bundles, bundle.full) → (latestNonemptyCompleteBundle bundles).isSome) := by
  constructor
  · intro visible some_full
    obtain ⟨front, full, back, split, size, before, after⟩ := visible some_full
    have filled : completeBundles bundles ≠ [] := by
      rw [split]
      simp
    obtain ⟨best, found⟩ := latestCaptured_isSome filled
    obtain ⟨first, last, same, newer, newest⟩ := latestCaptured_split found
    have large : 0 < best.logicalSize := by
      by_contra empty
      have none_inside : best.logicalSize = 0 := by omega
      have joined : front ++ full :: back = first ++ best :: last := split.symm.trans same
      rcases List.append_eq_append_iff.mp joined with ⟨between, rfl, rest⟩ | ⟨between, rfl, rest⟩
      · cases between with
        | nil =>
            have same_bundle := (List.cons.inj rest).1
            rw [same_bundle] at size
            omega
        | cons other between =>
            -- The full bundle is recorded first, so the empty one is older.
            obtain ⟨rfl, rfl⟩ := List.cons.inj rest
            have older := after best (List.mem_append_right _ List.mem_cons_self) none_inside
            have not_older := newer full (List.mem_append_right _ List.mem_cons_self)
            exact absurd older (Int.not_lt.mpr not_older)
      · cases between with
        | nil =>
            have same_bundle := (List.cons.inj rest).1
            rw [same_bundle] at none_inside
            omega
        | cons other between =>
            obtain ⟨rfl, rfl⟩ := List.cons.inj rest
            have older := newest full (List.mem_append_right _ List.mem_cons_self)
            have not_older := before best (List.mem_append_right _ List.mem_cons_self) none_inside
            exact absurd older (Int.not_lt.mpr not_older)
    have latest : latestBundleForMode bundles .completeApplication = some best := found
    rw [latestNonemptyCompleteBundle, latest, Option.filter_some, if_pos (decide_eq_true large)]
    rfl
  · intro visible some_full
    have found := visible some_full
    obtain ⟨best, kept⟩ := Option.isSome_iff_exists.mp found
    have ⟨latest, large⟩ := Option.filter_eq_some_iff.mp kept
    obtain ⟨front, back, split, before, after⟩ := latestCaptured_split latest
    exact ⟨front, best, back, split, of_decide_eq_true large, fun other member _ =>
      before other member, fun other member _ => after other member⟩

structure CatalogApp.Computed (app : CatalogApp) : Prop where
  complete : app.latestCompleteBundleId =
    (latestNonemptyCompleteBundle app.bundles).map CatalogBundle.bundleId
  personal : app.latestPersonalStateBundleId =
    (latestBundleForMode app.bundles .personalState).map CatalogBundle.bundleId

theorem CatalogApp.Computed.restorable {app : CatalogApp} (computed : app.Computed) :
    app.restorableBundleId =
      (latestNonemptyCompleteBundle app.bundles).map CatalogBundle.bundleId := by
  rw [CatalogApp.restorableBundleId, computed.complete, Option.or_self]

theorem computed_addBundle (app : CatalogApp) (displayName : String) (bundle : CatalogBundle) :
    (app.addBundle displayName bundle).Computed := ⟨rfl, rfl⟩

theorem computed_first (appId : AppId) (displayName : String) (bundle : CatalogBundle) :
    (CatalogApp.first appId displayName bundle).Computed := by
  constructor
  · show (if _ then _ else _) = (latestNonemptyCompleteBundle [bundle]).map _
    by_cases complete : bundle.mode = .completeApplication
    · by_cases large : 0 < bundle.logicalSize
      · simp [latestNonemptyCompleteBundle, latestBundleForMode, latestCaptured, Option.filter, complete,
          large]
      · simp [latestNonemptyCompleteBundle, latestBundleForMode, latestCaptured, Option.filter, complete,
          large]
    · simp [latestNonemptyCompleteBundle, latestBundleForMode, latestCaptured, complete]
  · show (if _ then _ else _) = (latestBundleForMode [bundle] _).map _
    by_cases personal : bundle.mode = .personalState
    · simp [latestBundleForMode, latestCaptured, personal]
    · simp [latestBundleForMode, latestCaptured, personal]

theorem newestOf_personal (bundles : List CatalogBundle) :
    NewestOf CatalogBundle.personal bundles
      ((latestBundleForMode bundles .personalState).map CatalogBundle.bundleId) := by
  constructor
  · intro id found
    obtain ⟨best, latest, rfl⟩ := Option.map_eq_some_iff.mp found
    have ⟨member, mode, newest⟩ := mem_of_latest latest
    exact ⟨best, member, mode, rfl, newest⟩
  · intro nothing other member personal
    have none_latest := Option.map_eq_none_iff.mp nothing
    have none_there := latestCaptured_none.mp none_latest
    rw [List.filter_eq_nil_iff] at none_there
    exact none_there other member (decide_eq_true personal)

theorem newestOf_full_iff (bundles : List CatalogBundle) :
    NewestOf CatalogBundle.full bundles
      ((latestNonemptyCompleteBundle bundles).map CatalogBundle.bundleId) ↔
      FullNotHidden bundles := by
  rw [fullNotHidden_iff]
  constructor
  · rintro right ⟨bundle, member, full⟩
    by_contra hidden
    rw [Option.not_isSome_iff_eq_none] at hidden
    exact right.none (Option.map_eq_none_iff.mpr hidden) bundle member full
  · intro visible
    constructor
    · intro id found
      obtain ⟨best, kept, rfl⟩ := Option.map_eq_some_iff.mp found
      have ⟨latest, large⟩ := Option.filter_eq_some_iff.mp kept
      have ⟨member, mode, newest⟩ := mem_of_latest latest
      exact ⟨best, member, ⟨mode, of_decide_eq_true large⟩, rfl, fun other inside full =>
        newest other inside full.1⟩
    · intro nothing other member full
      have found := visible ⟨other, member, full⟩
      rw [Option.map_eq_none_iff.mp nothing] at found
      cases found

theorem CatalogApp.Computed.headsRight_iff {app : CatalogApp} (computed : app.Computed) :
    app.HeadsRight ↔ FullNotHidden app.bundles ∧
      ∃ bundle ∈ app.bundles, bundle.bundleId = app.latestBundleId := by
  constructor
  · intro right
    have restorable := right.restorable
    rw [computed.restorable] at restorable
    exact ⟨(newestOf_full_iff _).mp restorable, right.latest⟩
  · rintro ⟨visible, latest⟩
    refine ⟨?_, ?_, latest⟩
    · rw [computed.restorable]
      exact (newestOf_full_iff _).mpr visible
    · rw [computed.personal]
      exact newestOf_personal _

structure Updated (catalog : CatalogDocument) (event : Upsert) (app : CatalogApp) : Prop where
  appId : app.appId = event.appId
  bundles : app.bundles = addBundleOnce (catalog.recorded event.appId) event.bundle
  latest : app.latestBundleId = event.bundle.bundleId
  computed : app.Computed

theorem updateApp_ids {appId : AppId} {change : CatalogApp → CatalogApp}
    (named : ∀ app, (change app).appId = app.appId) (apps : List CatalogApp) :
    (updateApp appId change apps).map CatalogApp.appId = apps.map CatalogApp.appId := by
  induction apps with
  | nil => rfl
  | cons app rest ih =>
      unfold updateApp
      split
      · rw [List.map_cons, List.map_cons, named]
      · rw [List.map_cons, List.map_cons, ih]

theorem mem_updateApp {appId : AppId} {change : CatalogApp → CatalogApp} {apps : List CatalogApp}
    {known : CatalogApp} (found : (apps.find? fun app => app.appId = appId) = some known)
    {app : CatalogApp} (distinct : (apps.map CatalogApp.appId).Nodup) :
    app ∈ updateApp appId change apps ↔
      app = change known ∨ (app ∈ apps ∧ app.appId ≠ appId) := by
  induction apps with
  | nil => cases found
  | cons first rest ih =>
      rw [List.map_cons, List.nodup_cons] at distinct
      unfold updateApp
      by_cases same : first.appId = appId
      · rw [List.find?_cons_of_pos (by simpa using same)] at found
        cases found
        have others : ∀ other ∈ rest, other.appId ≠ appId := fun other member equal =>
          distinct.1 (List.mem_map.mpr ⟨other, member, equal.trans same.symm⟩)
        rw [if_pos same, List.mem_cons, List.mem_cons]
        constructor
        · rintro (rfl | member)
          · exact Or.inl rfl
          · exact Or.inr ⟨Or.inr member, others app member⟩
        · rintro (rfl | ⟨rfl | member, different⟩)
          · exact Or.inl rfl
          · exact absurd same different
          · exact Or.inr member
      · rw [List.find?_cons_of_neg (by simpa using same)] at found
        rw [if_neg same, List.mem_cons, ih found distinct.2, List.mem_cons]
        constructor
        · rintro (rfl | rfl | ⟨member, different⟩)
          · exact Or.inr ⟨Or.inl rfl, same⟩
          · exact Or.inl rfl
          · exact Or.inr ⟨Or.inr member, different⟩
        · rintro (rfl | ⟨rfl | member, different⟩)
          · exact Or.inr (Or.inl rfl)
          · exact Or.inl rfl
          · exact Or.inr (Or.inr ⟨member, different⟩)

theorem upsert_apps (event : Upsert) (distinct : (catalog.apps.map CatalogApp.appId).Nodup) :
    ∃ updated, Updated catalog event updated ∧ ∀ app, app ∈ (catalog.upsert event).apps ↔
      app = updated ∨ (app ∈ catalog.apps ∧ app.appId ≠ event.appId) := by
  unfold CatalogDocument.upsert CatalogDocument.upsertBundle
  cases found : catalog.apps.find? fun app => app.appId = event.appId with
  | some known =>
      have named : known.appId = event.appId := by simpa using List.find?_some found
      have present : (catalog.apps.any fun app => app.appId = event.appId) = true :=
        List.any_eq_true.mpr ⟨known, List.mem_of_find?_eq_some found, decide_eq_true named⟩
      have recorded : catalog.recorded event.appId = known.bundles := by
        rw [CatalogDocument.recorded, found]
      rw [if_pos present]
      refine ⟨known.addBundle event.displayName event.bundle, ⟨named, ?_, rfl,
        computed_addBundle _ _ _⟩, fun app => mem_updateApp found distinct⟩
      rw [recorded]
      rfl
  | none =>
      have absent : ¬ (catalog.apps.any fun app => app.appId = event.appId) = true := by
        rw [List.any_eq_true]
        rintro ⟨app, member, same⟩
        exact absurd same (List.find?_eq_none.mp found app member)
      have recorded : catalog.recorded event.appId = [] := by
        rw [CatalogDocument.recorded, found]
      rw [if_neg absent]
      refine ⟨CatalogApp.first event.appId event.displayName event.bundle, ⟨rfl, ?_, rfl,
        computed_first _ _ _⟩, ?_⟩
      · rw [recorded]
        rfl
      · intro app
        have others : app ∈ catalog.apps → app.appId ≠ event.appId := fun member same =>
          List.find?_eq_none.mp found app member (decide_eq_true same)
        simp only [List.mem_append, List.mem_singleton]
        constructor
        · rintro (member | rfl)
          · exact Or.inr ⟨member, others member⟩
          · exact Or.inl rfl
        · rintro (rfl | ⟨member, _⟩)
          · exact Or.inr rfl
          · exact Or.inl member

structure CatalogDocument.Filed (catalog : CatalogDocument) : Prop where
  apps_once : (catalog.apps.map CatalogApp.appId).Nodup
  heads_once : catalog.heads.Nodup
  same : ∀ appId, appId ∈ catalog.heads ↔ appId ∈ catalog.apps.map CatalogApp.appId
  computed : ∀ app ∈ catalog.apps, app.Computed

theorem CatalogDocument.Filed.upsert (filed : catalog.Filed) (event : Upsert) :
    (catalog.upsert event).Filed := by
  obtain ⟨updated, is_updated, apps⟩ := upsert_apps event filed.apps_once
  have computed : ∀ app ∈ (catalog.upsert event).apps, app.Computed := by
    intro app member
    rcases (apps app).mp member with rfl | ⟨old, _⟩
    · exact is_updated.computed
    · exact filed.computed app old
  suffices lists : ((catalog.upsert event).apps.map CatalogApp.appId).Nodup ∧
      (catalog.upsert event).heads.Nodup ∧ ∀ appId, appId ∈ (catalog.upsert event).heads ↔
        appId ∈ (catalog.upsert event).apps.map CatalogApp.appId from
    ⟨lists.1, lists.2.1, lists.2.2, computed⟩
  unfold CatalogDocument.upsert CatalogDocument.upsertBundle
  split
  · have ids : (updateApp event.appId (fun app =>
        app.addBundle event.displayName event.bundle) catalog.apps).map CatalogApp.appId =
        catalog.apps.map CatalogApp.appId := by
      apply updateApp_ids
      exact fun _ => rfl
    dsimp only
    rw [ids]
    exact ⟨filed.apps_once, filed.heads_once, filed.same⟩
  · rename_i absent
    have unknown : event.appId ∉ catalog.apps.map CatalogApp.appId := by
      intro member
      obtain ⟨app, inside, same⟩ := List.mem_map.mp member
      exact absent (List.any_eq_true.mpr ⟨app, inside, decide_eq_true same⟩)
    have no_head : event.appId ∉ catalog.heads := fun head => unknown ((filed.same _).mp head)
    dsimp only
    rw [if_neg no_head, List.map_append]
    refine ⟨?_, ?_, ?_⟩
    · apply List.nodup_append.mpr
      refine ⟨filed.apps_once, by simp, ?_⟩
      rintro appId known _ single rfl
      rw [List.mem_singleton.mp single] at known
      exact unknown known
    · apply List.nodup_append.mpr
      refine ⟨filed.heads_once, by simp, ?_⟩
      rintro appId known _ single rfl
      rw [List.mem_singleton.mp single] at known
      exact no_head known
    · intro appId
      rw [List.mem_append, List.mem_append, filed.same]
      rfl

theorem headsRight_upsert (filed : catalog.Filed) (right : catalog.HeadsRight) {event : Upsert}
    (clear : catalog.Clear event) : (catalog.upsert event).HeadsRight := by
  have later := filed.upsert event
  obtain ⟨updated, is_updated, apps⟩ := upsert_apps event filed.apps_once
  refine ⟨later.apps_once, later.heads_once, later.same, ?_⟩
  intro app member
  rcases (apps app).mp member with rfl | ⟨old, _⟩
  · rw [is_updated.computed.headsRight_iff, is_updated.bundles, is_updated.latest]
    exact clear
  · exact right.apps app old

theorem not_headsRight_upsert (filed : catalog.Filed) {event : Upsert}
    (unclear : ¬ catalog.Clear event) : ¬ (catalog.upsert event).HeadsRight := by
  intro right
  obtain ⟨updated, is_updated, apps⟩ := upsert_apps event filed.apps_once
  have app_right := right.apps updated ((apps updated).mpr (Or.inl rfl))
  rw [is_updated.computed.headsRight_iff, is_updated.bundles, is_updated.latest] at app_right
  exact unclear app_right

theorem filed_empty (commit : Uuid) (now : Timestamp) :
    (CatalogDocument.empty commit now).Filed :=
  ⟨List.nodup_nil, List.nodup_nil, fun _ => Iff.rfl, by simp [CatalogDocument.empty]⟩

theorem headsRight_empty (commit : Uuid) (now : Timestamp) :
    (CatalogDocument.empty commit now).HeadsRight :=
  ⟨List.nodup_nil, List.nodup_nil, fun _ => Iff.rfl, by simp [CatalogDocument.empty]⟩

/-- From an empty catalog on, the heads are right after each update exactly if no update
records a bundle that hides a full one, or repeats a commit with an unrecorded bundle. -/
theorem catalog_heads_iff (commit : Uuid) (now : Timestamp) (events : List Upsert) :
    Throughout CatalogDocument.upsert CatalogDocument.HeadsRight
      (CatalogDocument.empty commit now) events ↔
    Along CatalogDocument.upsert CatalogDocument.Clear (CatalogDocument.empty commit now) events :=
  @throughout_iff_along _ _ _ _ _
    (fun catalog : CatalogDocument => catalog.Filed ∧ catalog.HeadsRight) _
    (fun _ _ held clear => ⟨held.1.upsert _, headsRight_upsert held.1 held.2 clear⟩)
    (fun _ held => held.2) (fun _ _ held unclear => not_headsRight_upsert held.1 unclear)
    ⟨filed_empty commit now, headsRight_empty commit now⟩ events

namespace Sample

def fullId : Uuid := ⟨"00000000-0000-4000-8000-000000000001", Eq.refl true⟩

def otherId : Uuid := ⟨"00000000-0000-4000-8000-000000000002", Eq.refl true⟩

def game : AppId := ⟨"desktop:game"⟩

def gameBundle (bundleId commitId : Uuid) (capturedAt : Timestamp) (size : Nat) : CatalogBundle :=
  { bundleId := bundleId, commitId := commitId, parentBundleId := none, capturedAt := capturedAt,
    sourceInstanceId := fullId, mode := .completeApplication, logicalSize := size,
    storedIncrementalSize := size }

def fullGame : CatalogBundle := gameBundle fullId fullId 0 10

def emptyGame : CatalogBundle := gameBundle otherId otherId 1 0

def renamedGame : CatalogBundle := gameBundle otherId fullId 0 10

end Sample

/-- The empty bundle hides the full one before it, and an id that is not recorded becomes the
latest one. -/
theorem newer_empty_hides_full :
    ¬ ([(⟨Sample.game, "Game", Sample.fullGame⟩ : Upsert),
      ⟨Sample.game, "Game", Sample.emptyGame⟩].foldl CatalogDocument.upsert
      (CatalogDocument.empty Sample.fullId 0)).HeadsRight ∧
    ¬ ([(⟨Sample.game, "Game", Sample.fullGame⟩ : Upsert),
      ⟨Sample.game, "Game", Sample.renamedGame⟩].foldl CatalogDocument.upsert
      (CatalogDocument.empty Sample.fullId 0)).HeadsRight := by
  constructor
  · intro right
    have app_right := right.apps ((CatalogApp.first Sample.game "Game" Sample.fullGame).addBundle
      "Game" Sample.emptyGame) (by decide +kernel)
    have hidden := app_right.restorable.none (by decide +kernel)
    exact hidden Sample.fullGame (by decide +kernel) ⟨rfl, by decide⟩
  · intro right
    have app_right := right.apps ((CatalogApp.first Sample.game "Game" Sample.fullGame).addBundle
      "Game" Sample.renamedGame) (by decide +kernel)
    obtain ⟨bundle, member, same⟩ := app_right.latest
    have nowhere : ∀ bundle ∈ ((CatalogApp.first Sample.game "Game" Sample.fullGame).addBundle
      "Game" Sample.renamedGame).bundles, bundle.bundleId ≠ Sample.otherId := by decide +kernel
    exact nowhere bundle member same

end Noland.Storage
