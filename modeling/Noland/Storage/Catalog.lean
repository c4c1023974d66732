import Noland.Core.Manifest

/-!
The lemmas say what an update may do to the history a catalog records: a bundle, once recorded, is
never dropped by an update of the same document.
-/

namespace Noland.Storage

open Noland.Core

structure CatalogBundle where
  bundleId : Uuid
  commitId : Uuid
  parentBundleId : Option Uuid
  capturedAt : Timestamp
  sourceInstanceId : Uuid
  mode : BackupMode
  logicalSize : Nat
  storedIncrementalSize : Nat
  deriving DecidableEq

structure CatalogApp where
  appId : AppId
  displayName : String
  aliases : List String := []
  desktopEntryId : Option String := none
  steamAppId : Option Nat := none
  launcher : Option LauncherKind := none
  canonicalExecutable : Option String := none
  iconPath : Option String := none
  latestBundleId : Uuid
  latestCompleteBundleId : Option Uuid := none
  latestPersonalStateBundleId : Option Uuid := none
  latestCompleteCapturedAt : Option Timestamp := none
  latestPersonalStateCapturedAt : Option Timestamp := none
  bundles : List CatalogBundle
  deriving DecidableEq

structure CatalogDocument where
  catalogCommitId : Uuid
  createdAt : Timestamp
  heads : List AppId := []
  apps : List CatalogApp := []
  deriving DecidableEq

def CatalogDocument.empty (commit : Uuid) (now : Timestamp) : CatalogDocument :=
  { catalogCommitId := commit, createdAt := now }

/-- `max_by_key` on `captured_at`: among equals the last one wins. -/
def latestCaptured : List CatalogBundle → Option CatalogBundle
  | [] => none
  | bundle :: rest =>
      match latestCaptured rest with
      | none => some bundle
      | some best => if best.capturedAt < bundle.capturedAt then some bundle else some best

def latestBundleForMode (bundles : List CatalogBundle) (mode : BackupMode) :
    Option CatalogBundle :=
  latestCaptured (bundles.filter fun bundle => bundle.mode = mode)

def latestNonemptyCompleteBundle (bundles : List CatalogBundle) : Option CatalogBundle :=
  (latestBundleForMode bundles .completeApplication).filter fun bundle => 0 < bundle.logicalSize

def CatalogApp.refreshBundleHeads (app : CatalogApp) : CatalogApp :=
  { app with
    latestCompleteBundleId :=
      (latestNonemptyCompleteBundle app.bundles).map CatalogBundle.bundleId
    latestCompleteCapturedAt :=
      (latestNonemptyCompleteBundle app.bundles).map CatalogBundle.capturedAt
    latestPersonalStateBundleId :=
      (latestBundleForMode app.bundles .personalState).map CatalogBundle.bundleId
    latestPersonalStateCapturedAt :=
      (latestBundleForMode app.bundles .personalState).map CatalogBundle.capturedAt }

def CatalogDocument.refreshBundleHeads (catalog : CatalogDocument) : CatalogDocument :=
  { catalog with apps := catalog.apps.map CatalogApp.refreshBundleHeads }

/-- An update through `app_mut`, which finds the first app of that id. -/
def updateApp (appId : AppId) (change : CatalogApp → CatalogApp) :
    List CatalogApp → List CatalogApp
  | [] => []
  | app :: rest =>
      if app.appId = appId then change app :: rest else app :: updateApp appId change rest

def addBundleOnce (bundles : List CatalogBundle) (bundle : CatalogBundle) : List CatalogBundle :=
  if bundles.any fun known => known.commitId = bundle.commitId then bundles
  else bundles ++ [bundle]

def CatalogApp.addBundle (app : CatalogApp) (displayName : String) (bundle : CatalogBundle) :
    CatalogApp :=
  CatalogApp.refreshBundleHeads
    { app with
      displayName := displayName
      latestBundleId := bundle.bundleId
      bundles := addBundleOnce app.bundles bundle }

def CatalogApp.first (appId : AppId) (displayName : String) (bundle : CatalogBundle) :
    CatalogApp :=
  let complete := bundle.mode = .completeApplication ∧ 0 < bundle.logicalSize
  let personal := bundle.mode = .personalState
  { appId := appId
    displayName := displayName
    latestBundleId := bundle.bundleId
    latestCompleteBundleId := if complete then some bundle.bundleId else none
    latestPersonalStateBundleId := if personal then some bundle.bundleId else none
    latestCompleteCapturedAt := if complete then some bundle.capturedAt else none
    latestPersonalStateCapturedAt := if personal then some bundle.capturedAt else none
    bundles := [bundle] }

def CatalogDocument.upsertBundle (catalog : CatalogDocument) (appId : AppId)
    (displayName : String) (bundle : CatalogBundle) : CatalogDocument :=
  if catalog.apps.any fun app => app.appId = appId then
    { catalog with
      apps := updateApp appId (fun app => app.addBundle displayName bundle) catalog.apps }
  else
    { catalog with
      apps := catalog.apps ++ [CatalogApp.first appId displayName bundle]
      heads := if appId ∈ catalog.heads then catalog.heads else catalog.heads ++ [appId] }

def addAliases (known : List String) : List String → List String
  | [] => known
  | item :: rest => addAliases (if item ∈ known then known else known ++ [item]) rest

def CatalogApp.describe (app : CatalogApp) (source : ManifestApp) : CatalogApp :=
  { app with
    aliases := addAliases app.aliases source.aliases
    desktopEntryId := source.desktopEntryId.or app.desktopEntryId
    steamAppId := source.steamAppId.or app.steamAppId
    launcher := source.launcher.or app.launcher
    canonicalExecutable := source.canonicalExecutable.or app.canonicalExecutable
    iconPath := source.iconPath.or app.iconPath }

def CatalogDocument.upsertBundleFromManifest (catalog : CatalogDocument) (app : ManifestApp)
    (bundle : CatalogBundle) : CatalogDocument :=
  let updated := catalog.upsertBundle app.appId app.displayName bundle
  { updated with apps := updateApp app.appId (fun known => known.describe app) updated.apps }

structure Record where
  appId : AppId
  commitId : Uuid
  deriving DecidableEq

def CatalogApp.records (app : CatalogApp) (record : Record) : Prop :=
  app.appId = record.appId ∧ ∃ bundle ∈ app.bundles, bundle.commitId = record.commitId

def CatalogDocument.records (catalog : CatalogDocument) (record : Record) : Prop :=
  ∃ app ∈ catalog.apps, app.records record

instance (app : CatalogApp) (record : Record) : Decidable (app.records record) :=
  inferInstanceAs (Decidable (_ ∧ _))

instance (catalog : CatalogDocument) (record : Record) : Decidable (catalog.records record) :=
  inferInstanceAs (Decidable (∃ app ∈ catalog.apps, app.records record))

theorem CatalogApp.records_refreshBundleHeads (app : CatalogApp) (record : Record) :
    app.refreshBundleHeads.records record ↔ app.records record := Iff.rfl

theorem CatalogDocument.records_refreshBundleHeads (catalog : CatalogDocument)
    (record : Record) : catalog.refreshBundleHeads.records record ↔ catalog.records record := by
  simp [CatalogDocument.records, CatalogDocument.refreshBundleHeads,
    CatalogApp.records_refreshBundleHeads]

theorem not_records_empty (commit : Uuid) (now : Timestamp) (record : Record) :
    ¬ (CatalogDocument.empty commit now).records record := by
  simp [CatalogDocument.records, CatalogDocument.empty]

theorem exists_records_updateApp {appId : AppId} (change : CatalogApp → CatalogApp)
    {record : Record}
    (keeps : ∀ app : CatalogApp, app.records record → (change app).records record)
    {apps : List CatalogApp} (recorded : ∃ app ∈ apps, app.records record) :
    ∃ app ∈ updateApp appId change apps, app.records record := by
  induction apps with
  | nil => simp at recorded
  | cons app rest ih =>
      unfold updateApp
      obtain ⟨found, member, holds⟩ := recorded
      split
      · rcases List.mem_cons.mp member with rfl | later
        · exact ⟨change found, List.mem_cons_self, keeps found holds⟩
        · exact ⟨found, List.mem_cons_of_mem _ later, holds⟩
      · rcases List.mem_cons.mp member with rfl | later
        · exact ⟨found, List.mem_cons_self, holds⟩
        · obtain ⟨kept, inside, still⟩ := ih ⟨found, later, holds⟩
          exact ⟨kept, List.mem_cons_of_mem _ inside, still⟩

theorem exists_changed_updateApp {appId : AppId} (change : CatalogApp → CatalogApp)
    {apps : List CatalogApp} (known : ∃ app ∈ apps, app.appId = appId) :
    ∃ app ∈ apps, app.appId = appId ∧ change app ∈ updateApp appId change apps := by
  induction apps with
  | nil => simp at known
  | cons app rest ih =>
      unfold updateApp
      by_cases same : app.appId = appId
      · rw [if_pos same]
        exact ⟨app, List.mem_cons_self, same, List.mem_cons_self⟩
      · rw [if_neg same]
        obtain ⟨found, member, named⟩ := known
        have later : found ∈ rest := by
          rcases List.mem_cons.mp member with rfl | later
          · exact absurd named same
          · exact later
        obtain ⟨target, inside, matches_, changed⟩ := ih ⟨found, later, named⟩
        exact ⟨target, List.mem_cons_of_mem _ inside, matches_, List.mem_cons_of_mem _ changed⟩

theorem mem_addBundleOnce {bundles : List CatalogBundle} {bundle known : CatalogBundle}
    (member : known ∈ bundles) : known ∈ addBundleOnce bundles bundle := by
  unfold addBundleOnce
  split
  · exact member
  · exact List.mem_append_left _ member

theorem exists_commit_addBundleOnce (bundles : List CatalogBundle) (bundle : CatalogBundle) :
    ∃ known ∈ addBundleOnce bundles bundle, known.commitId = bundle.commitId := by
  unfold addBundleOnce
  split
  · rename_i present
    simpa using present
  · exact ⟨bundle, List.mem_append_right _ List.mem_cons_self, rfl⟩

theorem CatalogApp.records_addBundle {app : CatalogApp} {displayName : String}
    {bundle : CatalogBundle} {record : Record} (recorded : app.records record) :
    (app.addBundle displayName bundle).records record := by
  obtain ⟨named, known, member, same⟩ := recorded
  exact ⟨named, known, mem_addBundleOnce member, same⟩

theorem CatalogDocument.records_upsertBundle {catalog : CatalogDocument} {appId : AppId}
    {displayName : String} {bundle : CatalogBundle} {record : Record}
    (recorded : catalog.records record) :
    (catalog.upsertBundle appId displayName bundle).records record := by
  unfold CatalogDocument.upsertBundle
  split
  · exact exists_records_updateApp _ (fun _ holds => CatalogApp.records_addBundle holds) recorded
  · obtain ⟨app, member, holds⟩ := recorded
    exact ⟨app, List.mem_append_left _ member, holds⟩

theorem CatalogDocument.records_upserted (catalog : CatalogDocument) (appId : AppId)
    (displayName : String) (bundle : CatalogBundle) :
    (catalog.upsertBundle appId displayName bundle).records ⟨appId, bundle.commitId⟩ := by
  unfold CatalogDocument.upsertBundle
  split
  · rename_i present
    have known : ∃ app ∈ catalog.apps, app.appId = appId := by simpa using present
    obtain ⟨app, _, named, changed⟩ :=
      exists_changed_updateApp (fun app => app.addBundle displayName bundle) known
    exact ⟨_, changed, named, exists_commit_addBundleOnce app.bundles bundle⟩
  · exact ⟨CatalogApp.first appId displayName bundle,
      List.mem_append_right _ List.mem_cons_self, rfl, bundle, List.mem_cons_self, rfl⟩

theorem CatalogDocument.records_upsertBundleFromManifest {catalog : CatalogDocument}
    {app : ManifestApp} {bundle : CatalogBundle} {record : Record}
    (recorded : catalog.records record ∨ record = ⟨app.appId, bundle.commitId⟩) :
    (catalog.upsertBundleFromManifest app bundle).records record := by
  have inner : (catalog.upsertBundle app.appId app.displayName bundle).records record := by
    rcases recorded with before | rfl
    · exact CatalogDocument.records_upsertBundle before
    · exact catalog.records_upserted app.appId app.displayName bundle
  exact exists_records_updateApp (fun known => known.describe app) (fun _ holds => holds) inner

end Noland.Storage
