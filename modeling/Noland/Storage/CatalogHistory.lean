import Mathlib.Order.ConditionallyCompleteLattice.Basic
import Mathlib.Data.Int.ConditionallyCompleteOrder
import Mathlib.Order.Monotone.Basic
import Noland.Storage.CatalogStore
import Noland.Storage.Commit

/-!
The code ignores a failed write of `LATEST`, and a load that cannot follow `LATEST` takes whatever
part of the history it can list and read. So a record can be forgotten. It is not when every write
of `LATEST` takes effect and a load that falls back to the history can read all of it.
-/

namespace Noland.Storage

open Noland.Core Noland.Requests Noland.Text

section Rules

variable {allow : StorageConfig → Event storageInterface StateError → StorageState → Prop}
  {pre fail stop : StorageConfig → Prop} {op : StorageOp}

theorem triple_ask {post : op.Ret → StorageConfig → Prop}
    (stops : ∀ config, pre config → stop config)
    (succeeds : ∀ config value, pre config → config.state.answer op = .ok value →
      allow config ⟨op, .ok value⟩ (config.state.after op) →
      post value (Config.record config op (.ok value) (config.state.after op)))
    (fails : ∀ config error state, pre config →
      (state = config.state ∨ state = config.state.after op) →
      allow config ⟨op, .error error⟩ state →
      fail (Config.record config op (.error error) state)) :
    Triple storageHandler allow pre (ask op) post fail stop := by
  apply @Triple.perform storageInterface StateError StorageState storageHandler allow pre fail
    stop op post stops
  · intro config value state before replied allowed
    obtain ⟨answered, rfl⟩ := replied.of_ok
    exact succeeds config value before answered allowed
  · intro config error state before replied allowed
    exact fails config error state before replied.state_cases allowed

theorem triple_tell {post : Except StateError op.Ret → StorageConfig → Prop}
    (stops : ∀ config, pre config → stop config)
    (answers : ∀ config, pre config →
      allow config ⟨op, config.state.answer op⟩ (config.state.after op) →
      post (config.state.answer op)
        (Config.record config op (config.state.answer op) (config.state.after op)))
    (fails : ∀ config error state, pre config →
      (state = config.state ∨ state = config.state.after op) →
      allow config ⟨op, .error error⟩ state →
      post (.error error) (Config.record config op (.error error) state)) :
    Triple storageHandler allow pre (tell op) post fail stop := by
  apply @Triple.observe storageInterface StateError StorageState storageHandler allow pre fail
    stop op post stops
  intro config reply state before replied allowed
  rcases replied.cases with ⟨rfl, rfl⟩ | ⟨error, rfl, _, moved⟩
  · exact answers config before allowed
  · exact fails config error state before moved allowed

end Rules

structure SourcesLater (before after : StorageState) : Prop where
  uuids : after.host.uuids = before.host.uuids
  clock : after.host.clock = before.host.clock
  drawn : before.host.drawn ≤ after.host.drawn
  ticks : before.host.ticks ≤ after.host.ticks

theorem SourcesLater.refl (state : StorageState) : SourcesLater state state :=
  ⟨rfl, rfl, le_rfl, le_rfl⟩

theorem SourcesLater.trans {first second third : StorageState}
    (left : SourcesLater first second) (right : SourcesLater second third) :
    SourcesLater first third :=
  ⟨right.uuids.trans left.uuids, right.clock.trans left.clock, left.drawn.trans right.drawn,
    left.ticks.trans right.ticks⟩

theorem sourcesLater_updateJournal (state : StorageState) (operation : Uuid) (key : RemoteKey)
    (change : SyncJournalEntry → SyncJournalEntry) :
    SourcesLater state (state.updateJournal operation key change) := by
  unfold StorageState.updateJournal
  split
  · exact .refl state
  · exact ⟨rfl, rfl, le_rfl, le_rfl⟩

theorem sourcesLater_after (op : StorageOp) (state : StorageState) :
    SourcesLater state (state.after op) := by
  cases op with
  | uploadImmutable path key =>
      show SourcesLater state (state.upload path key)
      rcases upload_cases state path key with same | ⟨content, same⟩
      · rw [same]
        exact .refl state
      · rw [same]
        exact ⟨rfl, rfl, le_rfl, le_rfl⟩
  | download key dest =>
      show SourcesLater state (state.fetch key dest)
      unfold StorageState.fetch
      split
      · exact .refl state
      · exact ⟨rfl, rfl, le_rfl, le_rfl⟩
  | setJournalState operation key entered lastError => exact sourcesLater_updateJournal ..
  | raiseJournalBytes operation key bytes => exact sourcesLater_updateJournal ..
  | fillJournalSize operation key size => exact sourcesLater_updateJournal ..
  | newUuid => exact ⟨rfl, rfl, Nat.le_succ _, le_rfl⟩
  | utcNow => exact ⟨rfl, rfl, le_rfl, Nat.le_succ _⟩
  | _ => exact ⟨rfl, rfl, le_rfl, le_rfl⟩

def HistoryDoc (codec : Codec) (state : StorageState) (id : Uuid) (catalog : CatalogDocument) :
    Prop :=
  state.content (catalogCommitKey id) = some (wrapEnvelope codec (.catalog catalog))

/-- `recorded` holds of every record that a successful update wrote. -/
structure CatalogInv (codec : Codec) (recorded : Record → Prop) (state : StorageState) : Prop where
  clock : StrictMono state.host.clock
  listed : ∀ key, underFolder catalogFolder key = true → endsWith ".enc".toList key.toList = true →
    state.present key → ∃ i < state.host.drawn, key = catalogCommitKey (state.host.uuids i)
  documents : ∀ id, state.present (catalogCommitKey id) → ∃ catalog, HistoryDoc codec state id catalog ∧
    ∃ j < state.host.ticks, catalog.createdAt = state.host.clock j
  newest : ∀ id catalog, HistoryDoc codec state id catalog →
    (∀ other older, HistoryDoc codec state other older → older.createdAt ≤ catalog.createdAt) →
    ∀ record, recorded record → catalog.records record
  nonempty : (∃ record, recorded record) → ∃ id, state.present (catalogCommitKey id)
  latest : (state.content catalogLatestKey = none ∧ ∀ record, ¬ recorded record) ∨
    ∃ id catalog, state.content catalogLatestKey = some (.text id.text) ∧
      HistoryDoc codec state id catalog ∧ ∀ record, recorded record → catalog.records record

theorem content_congr {before after : StorageState} (same : after.remote = before.remote)
    (key : RemoteKey) : after.content key = before.content key := by
  unfold StorageState.content
  rw [same]

/-- The folder of everything the catalog functions read and write. -/
def catalogRoot : RemoteKey := "catalog"

theorem underRoot_of_underFolder {key : RemoteKey} (inside : underFolder catalogFolder key = true) :
    underFolder catalogRoot key = true := by
  rw [underFolder, List.isPrefixOf_iff_prefix] at inside ⊢
  have nested : catalogRoot.toList ++ ['/'] <+: catalogFolder.toList ++ ['/'] := by decide
  exact nested.trans inside

theorem underRoot_catalogCommitKey (id : Uuid) :
    underFolder catalogRoot (catalogCommitKey id) = true :=
  underRoot_of_underFolder (underFolder_catalogCommitKey id)

def SameCatalog (before after : StorageState) : Prop :=
  ∀ key, underFolder catalogRoot key = true → after.content key = before.content key

section Invariant

variable {codec : Codec} {recorded : Record → Prop} {before after : StorageState}

theorem HistoryDoc.congr {id : Uuid} {catalog : CatalogDocument}
    (same : SameCatalog before after) :
    HistoryDoc codec after id catalog ↔ HistoryDoc codec before id catalog := by
  unfold HistoryDoc
  rw [same _ (underRoot_catalogCommitKey id)]

theorem HistoryDoc.unique {id : Uuid} {left right : CatalogDocument}
    (first : HistoryDoc codec before id left) (second : HistoryDoc codec before id right) :
    left = right := by
  have same : some (wrapEnvelope codec (.catalog left)) = some (wrapEnvelope codec (.catalog right)) :=
    first.symm.trans second
  simp only [wrapEnvelope, Option.some.injEq, Content.sealed.injEq, Document.catalog.injEq] at same
  exact same.2.1

theorem HistoryDoc.present {id : Uuid} {catalog : CatalogDocument}
    (stored : HistoryDoc codec before id catalog) : before.present (catalogCommitKey id) := by
  rw [present_iff_content, stored]
  rfl

theorem CatalogInv.congr (inv : CatalogInv codec recorded before)
    (same : SameCatalog before after) (later : SourcesLater before after) :
    CatalogInv codec recorded after := by
  have there : ∀ key, underFolder catalogRoot key = true →
      (after.present key ↔ before.present key) := by
    intro key inside
    rw [present_iff_content, present_iff_content, same key inside]
  refine ⟨later.clock ▸ inv.clock, ?_, ?_, ?_, ?_, ?_⟩
  · intro key inside named present
    obtain ⟨i, below, rfl⟩ := inv.listed key inside named
      ((there key (underRoot_of_underFolder inside)).mp present)
    exact ⟨i, below.trans_le later.drawn, by rw [later.uuids]⟩
  · intro id present
    obtain ⟨catalog, stored, j, below, created⟩ :=
      inv.documents id ((there _ (underRoot_catalogCommitKey id)).mp present)
    exact ⟨catalog, (HistoryDoc.congr same).mpr stored, j, below.trans_le later.ticks, by
      rw [later.clock, created]⟩
  · intro id catalog stored maximal
    apply inv.newest id catalog ((HistoryDoc.congr same).mp stored)
    intro other older found
    exact maximal other older ((HistoryDoc.congr same).mpr found)
  · intro some_record
    obtain ⟨id, present⟩ := inv.nonempty some_record
    exact ⟨id, (there _ (underRoot_catalogCommitKey id)).mpr present⟩
  · rw [same _ (by decide)]
    rcases inv.latest with absent | ⟨id, catalog, pointed, stored, covers⟩
    · exact Or.inl absent
    · exact Or.inr ⟨id, catalog, pointed, (HistoryDoc.congr same).mpr stored, covers⟩

theorem CatalogInv.fewer (inv : CatalogInv codec recorded before) {fewer : Record → Prop}
    (less : ∀ record, fewer record → recorded record) : CatalogInv codec fewer before := by
  refine ⟨inv.clock, inv.listed, inv.documents, ?_, ?_, ?_⟩
  · exact fun id catalog stored maximal record kept =>
      inv.newest id catalog stored maximal record (less record kept)
  · rintro ⟨record, kept⟩
    exact inv.nonempty ⟨record, less record kept⟩
  · rcases inv.latest with ⟨absent, nothing⟩ | ⟨id, catalog, pointed, stored, covers⟩
    · exact Or.inl ⟨absent, fun record kept => nothing record (less record kept)⟩
    · exact Or.inr ⟨id, catalog, pointed, stored, fun record kept =>
        covers record (less record kept)⟩

theorem CatalogInv.after_read (inv : CatalogInv codec recorded before) {op : StorageOp}
    (reads : op.target = none) {state : StorageState}
    (moved : state = before ∨ state = before.after op) : CatalogInv codec recorded state := by
  rcases moved with rfl | rfl
  · exact inv
  · exact inv.congr (fun key _ => content_congr (after_remote_of_target before reads) key)
      (sourcesLater_after op before)

end Invariant

def listedBefore (config : StorageConfig) : Prop :=
  ∃ event ∈ config.history, ∃ folder, event.op = StorageOp.listPrefix folder

/-- Every write of `LATEST` takes effect; a listing of the history succeeds, and
so does every download and local read that follows it. No id is drawn twice. -/
structure CatalogFaults (config : StorageConfig) (event : Event storageInterface StateError)
    (after : StorageState) : Prop where
  pointer : ∀ content, event.op = StorageOp.putSmallVersioned content catalogLatestKey →
    after.content catalogLatestKey = some content
  listing : ∀ folder, event.op = StorageOp.listPrefix folder → event.reply.isOk = true
  download : ∀ key dest, event.op = StorageOp.download key dest → listedBefore config →
    event.reply.isOk = true
  read : ∀ path, event.op = StorageOp.readLocal path → listedBefore config →
    event.reply.isOk = true
  fresh : event.op = StorageOp.newUuid → ∀ i < config.state.host.drawn,
    config.state.host.uuids i ≠ config.state.host.uuids config.state.host.drawn

theorem listedBefore_record {config : StorageConfig} {op : storageInterface.Op}
    {reply : Except StateError (storageInterface.Ret op)} {state : StorageState}
    (listed : listedBefore config) : listedBefore (config.record op reply state) := by
  obtain ⟨event, member, folder, named⟩ := listed
  exact ⟨event, List.mem_append_left _ member, folder, named⟩

theorem decodeCatalog_wrapEnvelope (codec : Codec) (catalog : CatalogDocument) :
    decodeCatalog codec (wrapEnvelope codec (.catalog catalog)) = .ok catalog := by
  simp [decodeCatalog, unwrapEnvelope, wrapEnvelope]

section Load

variable {codec : Codec} {recorded : Record → Prop} {origin : StorageState}

/-- The invariant while the provider holds the objects of `origin`. -/
structure Reading (codec : Codec) (recorded : Record → Prop) (origin : StorageState)
    (config : StorageConfig) : Prop where
  inv : CatalogInv codec recorded config.state
  same : config.state.remote = origin.remote

theorem Reading.content {config : StorageConfig} (reading : Reading codec recorded origin config)
    (key : RemoteKey) : config.state.content key = origin.content key :=
  content_congr reading.same key

theorem Reading.read {config : StorageConfig} (reading : Reading codec recorded origin config)
    (op : StorageOp) (reads : op.target = none) (reply : Except StateError op.Ret)
    {state : StorageState} (moved : state = config.state ∨ state = config.state.after op) :
    Reading codec recorded origin (Config.record config op reply state) := by
  refine ⟨reading.inv.after_read reads moved, ?_⟩
  rcases moved with rfl | rfl
  · exact reading.same
  · exact (after_remote_of_target config.state reads).trans reading.same

theorem triple_read {op : StorageOp} (reads : op.target = none) :
    Triple storageHandler CatalogFaults (Reading codec recorded origin) (ask op)
      (fun _ => Reading codec recorded origin) (Reading codec recorded origin)
      (Reading codec recorded origin) :=
  triple_ask (fun _ reading => reading)
    (fun _ _ reading _ _ => reading.read _ reads _ (Or.inr rfl))
    (fun _ _ _ reading moved _ => reading.read _ reads _ moved)

theorem triple_emptyCatalog :
    Triple storageHandler CatalogFaults (Reading codec recorded origin) emptyCatalog
      (fun _ => Reading codec recorded origin) (Reading codec recorded origin)
      (Reading codec recorded origin) := by
  apply Triple.bind _ (triple_read rfl)
  intro commit
  apply Triple.bind _ (triple_read rfl)
  intro now
  exact Triple.done fun _ reading => reading

/-- Reading, with a listing behind it when `certain`. -/
def ReadingAfter (codec : Codec) (recorded : Record → Prop) (origin : StorageState)
    (certain : Prop) (config : StorageConfig) : Prop :=
  Reading codec recorded origin config ∧ (certain → listedBefore config)

theorem ReadingAfter.read {certain : Prop} {config : StorageConfig}
    (reading : ReadingAfter codec recorded origin certain config) (op : StorageOp)
    (reads : op.target = none) (reply : Except StateError op.Ret) {state : StorageState}
    (moved : state = config.state ∨ state = config.state.after op) :
    ReadingAfter codec recorded origin certain (Config.record config op reply state) :=
  ⟨reading.1.read op reads reply moved, fun holds => listedBefore_record (reading.2 holds)⟩

theorem content_of_downloaded {state : StorageState} {key : RemoteKey} {dest : String}
    (answered : state.answer (.download key dest) = .ok ()) :
    ∃ bytes, state.content key = some bytes ∧
      (state.fetch key dest).host.files.lookup dest = some bytes := by
  cases stored : state.content key with
  | none => simp [StorageState.answer, stored, found, Except.map] at answered
  | some bytes =>
      refine ⟨bytes, rfl, ?_⟩
      unfold StorageState.fetch
      rw [stored]
      simp [StorageState.withFiles, StorageState.withHost]

theorem triple_fetchCatalogCommit (id : Uuid) (certain : Prop) :
    Triple storageHandler CatalogFaults
      (ReadingAfter codec recorded origin certain) (fetchCatalogCommit codec id.text)
      (fun catalog config => ReadingAfter codec recorded origin certain config ∧
        HistoryDoc codec origin id catalog)
      (fun config => Reading codec recorded origin config ∧
        ¬ (certain ∧ origin.present (catalogCommitKey id)))
      (Reading codec recorded origin) := by
  let tmp := tempDir ++ "/noland-catc-" ++ id.text
  -- The local copy holds the document from the download to the read.
  apply Triple.bind (fun _ config => ReadingAfter codec recorded origin certain config ∧
    ∃ catalog, HistoryDoc codec origin id catalog ∧
      config.state.host.files.lookup tmp = some (wrapEnvelope codec (.catalog catalog)))
  · apply triple_ask
    · exact fun _ reading => reading.1
    · intro config value reading answered _
      obtain ⟨bytes, stored, copied⟩ := content_of_downloaded answered
      have there : config.state.present (catalogCommitKey id) := by
        rw [present_iff_content]
        exact Option.isSome_iff_exists.mpr ⟨bytes, stored⟩
      obtain ⟨catalog, document, _⟩ := reading.1.inv.documents id there
      refine ⟨reading.read _ rfl _ (Or.inr rfl), catalog, ?_, ?_⟩
      · exact (HistoryDoc.congr fun key _ => reading.1.content key).mp document
      · exact copied.trans (stored.symm.trans document)
    · intro config error state reading moved allowed
      refine ⟨reading.1.read _ rfl _ moved, ?_⟩
      rintro ⟨holds, _⟩
      cases allowed.download _ _ rfl (reading.2 holds)
  intro _
  apply Triple.bind (fun bytes config => ReadingAfter codec recorded origin certain config ∧
    ∃ catalog, HistoryDoc codec origin id catalog ∧ bytes = wrapEnvelope codec (.catalog catalog))
  · apply triple_ask
    · exact fun _ holds => holds.1.1
    · rintro config bytes ⟨reading, catalog, document, copied⟩ answered _
      refine ⟨reading.read _ rfl _ (Or.inr rfl), catalog, document, ?_⟩
      have read : found (config.state.host.files.lookup tmp) = .ok bytes := answered
      rw [copied] at read
      exact (Except.ok.inj read).symm
    · rintro config error state ⟨reading, _⟩ moved allowed
      refine ⟨reading.1.read _ rfl _ moved, ?_⟩
      rintro ⟨holds, _⟩
      cases allowed.read _ rfl (reading.2 holds)
  intro bytes
  apply Triple.bind (fun _ config => ReadingAfter codec recorded origin certain config ∧
    ∃ catalog, HistoryDoc codec origin id catalog ∧ bytes = wrapEnvelope codec (.catalog catalog))
  · apply triple_tell
    · exact fun _ holds => holds.1.1
    · exact fun config holds _ => ⟨holds.1.read _ rfl _ (Or.inr rfl), holds.2⟩
    · exact fun config error state holds moved _ => ⟨holds.1.read _ rfl _ moved, holds.2⟩
  intro _
  rintro config outcome final ⟨reading, catalog, document, rfl⟩ run
  rw [decodeCatalog_wrapEnvelope] at run
  cases run
  exact ⟨reading, document⟩

def Listed (origin : StorageState) (entries : List RemoteEntry) : Prop :=
  ∀ entry ∈ entries, endsWith ".enc".toList entry.key.toList = true →
    ∃ id, entry.key = catalogCommitKey id ∧ origin.present (catalogCommitKey id)

theorem le_newerCatalog (best : Option CatalogDocument) (catalog : CatalogDocument) :
    catalog.createdAt ≤ (newerCatalog best catalog).createdAt ∧
      ∀ older ∈ best, older.createdAt ≤ (newerCatalog best catalog).createdAt := by
  cases best with
  | none => simp [newerCatalog]
  | some older =>
      by_cases newer : older.createdAt < catalog.createdAt
      · simp [newerCatalog, newer, le_of_lt newer]
      · simp [newerCatalog, newer, not_lt.mp newer]

theorem newerCatalog_cases (best : Option CatalogDocument) (catalog : CatalogDocument) :
    newerCatalog best catalog = catalog ∨ newerCatalog best catalog ∈ best := by
  cases best with
  | none => exact Or.inl rfl
  | some older =>
      by_cases newer : older.createdAt < catalog.createdAt
      · simp [newerCatalog, newer]
      · simp [newerCatalog, newer]

/-- The scan so far: `best` is a document of the history and as new as every
one that the scanned entries name. -/
structure Best (codec : Codec) (origin : StorageState) (scanned : List RemoteEntry)
    (best : Option CatalogDocument) : Prop where
  known : ∀ catalog ∈ best, ∃ id, HistoryDoc codec origin id catalog
  covers : ∀ entry ∈ scanned, ∀ id catalog, entry.key = catalogCommitKey id →
    HistoryDoc codec origin id catalog → ∃ newest ∈ best, catalog.createdAt ≤ newest.createdAt

theorem Best.step {scanned : List RemoteEntry} {best : Option CatalogDocument}
    {entry : RemoteEntry} {id : Uuid} {catalog : CatalogDocument}
    (scan : Best codec origin scanned best) (named : entry.key = catalogCommitKey id)
    (document : HistoryDoc codec origin id catalog) :
    Best codec origin (scanned ++ [entry]) (some (newerCatalog best catalog)) := by
  obtain ⟨at_least, keeps⟩ := le_newerCatalog best catalog
  constructor
  · rintro _ ⟨⟩
    rcases newerCatalog_cases best catalog with same | kept
    · rw [same]
      exact ⟨id, document⟩
    · exact scan.known _ kept
  · intro other member other_id stored other_named other_document
    refine ⟨_, rfl, ?_⟩
    rcases List.mem_append.mp member with earlier | last
    · obtain ⟨newest, is_best, older⟩ :=
        scan.covers other earlier other_id stored other_named other_document
      exact older.trans (keeps newest is_best)
    · have same_entry : other = entry := List.mem_singleton.mp last
      have same_id : other_id = id := by
        apply catalogCommitKey_injective
        rw [← other_named, same_entry, named]
      subst same_id
      rw [other_document.unique document]
      exact at_least

theorem Best.skip {scanned : List RemoteEntry} {best : Option CatalogDocument}
    {entry : RemoteEntry} (scan : Best codec origin scanned best)
    (other : endsWith ".enc".toList entry.key.toList = false) :
    Best codec origin (scanned ++ [entry]) best := by
  refine ⟨scan.known, ?_⟩
  intro item member id catalog named document
  rcases List.mem_append.mp member with earlier | last
  · exact scan.covers item earlier id catalog named document
  · have same_entry : item = entry := List.mem_singleton.mp last
    rw [← same_entry, named, endsWith_catalogCommitKey] at other
    cases other

theorem triple_recoverFrom (entries scanned : List RemoteEntry) (best : Option CatalogDocument)
    (listed : Listed origin entries) (scan : Best codec origin scanned best) :
    Triple storageHandler CatalogFaults (ReadingAfter codec recorded origin True)
      (recoverFrom codec best entries)
      (fun result config => Reading codec recorded origin config ∧
        Best codec origin (scanned ++ entries) result)
      (Reading codec recorded origin) (Reading codec recorded origin) := by
  induction entries generalizing scanned best with
  | nil =>
      apply Triple.done
      intro config reading
      exact ⟨reading.1, by simpa using scan⟩
  | cons entry rest ih =>
      have tail := fun scanned best => ih scanned best fun other later =>
        listed other (List.mem_cons_of_mem _ later)
      have whole : scanned ++ entry :: rest = scanned ++ [entry] ++ rest := by simp
      rw [whole]
      unfold recoverFrom
      split
      · rename_i suffix
        obtain ⟨id, named, there⟩ := listed entry List.mem_cons_self suffix
        rw [named, fileStem_catalogCommitKey]
        apply Triple.bind (fun fetched config => ReadingAfter codec recorded origin True config ∧
          ∃ catalog, fetched = .ok catalog ∧ HistoryDoc codec origin id catalog)
        · apply Triple.attempt (triple_fetchCatalogCommit id True)
          · exact fun catalog config holds => ⟨holds.1, catalog, rfl, holds.2⟩
          · exact fun error config holds => absurd ⟨trivial, there⟩ holds.2
        · rintro fetched config outcome final ⟨reading, catalog, rfl, document⟩ run
          exact tail _ _ (scan.step named document) config outcome final reading run
      · rename_i other
        exact tail _ _ (scan.skip (by simpa using other))

theorem listed_of_listing (inv : CatalogInv codec recorded origin) :
    Listed origin (origin.remote.list catalogFolder) := by
  intro entry member suffix
  have inside := (origin.remote.arrange_perm _).mem_iff.mp member
  obtain ⟨stored, kept, rfl⟩ := List.mem_map.mp inside
  have stored_inside : stored ∈ origin.remote.objects.entries := (List.mem_filter.mp kept).1
  have there : origin.present stored.1 := List.mem_map.mpr ⟨stored, stored_inside, rfl⟩
  obtain ⟨i, _, named⟩ := inv.listed stored.1 (List.mem_filter.mp kept).2 suffix there
  exact ⟨_, named, named ▸ there⟩

theorem mem_listing {id : Uuid} (there : origin.present (catalogCommitKey id)) :
    ∃ entry ∈ origin.remote.list catalogFolder, entry.key = catalogCommitKey id := by
  obtain ⟨stored, inside, named⟩ := List.mem_map.mp there
  have kept : stored ∈ origin.remote.objects.entries.filter fun entry =>
      underFolder catalogFolder entry.1 := by
    refine List.mem_filter.mpr ⟨inside, ?_⟩
    rw [named]
    exact underFolder_catalogCommitKey id
  exact ⟨_, (origin.remote.arrange_perm _).mem_iff.mpr (List.mem_map_of_mem kept), named⟩

theorem Best.records {best : Option CatalogDocument} (inv : CatalogInv codec recorded origin)
    (scan : Best codec origin (origin.remote.list catalogFolder) best) :
    (∀ catalog ∈ best, ∀ record, recorded record → catalog.records record) ∧
      (best = none → ∀ record, ¬ recorded record) := by
  have covered : ∀ id catalog, HistoryDoc codec origin id catalog →
      ∃ newest ∈ best, catalog.createdAt ≤ newest.createdAt := by
    intro id catalog document
    obtain ⟨entry, member, named⟩ := mem_listing document.present
    exact scan.covers entry member id catalog named document
  constructor
  · intro catalog is_best record recorded_before
    obtain ⟨id, document⟩ := scan.known catalog is_best
    refine inv.newest id catalog document ?_ record recorded_before
    intro other older stored
    obtain ⟨newest, also_best, at_least⟩ := covered other older stored
    rwa [Option.mem_unique also_best is_best] at at_least
  · rintro rfl record recorded_before
    obtain ⟨id, there⟩ := inv.nonempty ⟨record, recorded_before⟩
    obtain ⟨catalog, document, _⟩ := inv.documents id there
    obtain ⟨newest, impossible, _⟩ := covered id catalog document
    cases impossible

def Loaded (codec : Codec) (recorded : Record → Prop) (origin : StorageState)
    (catalog : CatalogDocument) (config : StorageConfig) : Prop :=
  Reading codec recorded origin config ∧ ∀ record, recorded record → catalog.records record

theorem triple_recoverLatestCatalog (inv : CatalogInv codec recorded origin) :
    Triple storageHandler CatalogFaults (Reading codec recorded origin)
      (recoverLatestCatalog codec) (Loaded codec recorded origin)
      (Reading codec recorded origin) (Reading codec recorded origin) := by
  apply Triple.bind (fun listed config => ReadingAfter codec recorded origin True config ∧
    listed = .ok (origin.remote.list catalogFolder))
  · have listed_now : ∀ (config : StorageConfig) reply state,
        listedBefore (Config.record config (StorageOp.listPrefix catalogFolder) reply state) :=
      fun config reply state => ⟨⟨StorageOp.listPrefix catalogFolder, reply⟩,
        List.mem_append_right _ List.mem_cons_self, catalogFolder, rfl⟩
    apply triple_tell
    · exact fun _ reading => reading
    · intro config reading _
      have same : config.state.remote.list catalogFolder = origin.remote.list catalogFolder := by
        rw [reading.same]
      exact ⟨⟨reading.read _ rfl _ (Or.inr rfl), fun _ => listed_now _ _ _⟩, congrArg Except.ok same⟩
    · intro config error state reading moved allowed
      cases allowed.listing _ rfl
  rintro listed
  apply Triple.bind (fun best config => Reading codec recorded origin config ∧
    Best codec origin (origin.remote.list catalogFolder) best)
  · rintro config outcome final ⟨reading, rfl⟩ run
    have start : Best codec origin [] none := ⟨by simp, by simp⟩
    exact triple_recoverFrom _ [] none (listed_of_listing inv) start config outcome final
      reading run
  intro best
  cases best with
  | some catalog =>
      apply Triple.done
      exact fun config holds => ⟨holds.1, (holds.2.records inv).1 catalog rfl⟩
  | none =>
      rintro config outcome final ⟨reading, scan⟩ run
      have result := triple_emptyCatalog config outcome final reading run
      cases outcome with
      | value value =>
          exact ⟨result, fun record before => absurd before ((scan.records inv).2 rfl record)⟩
      | error error => exact result
      | stopped => exact result

theorem triple_readPointer (id : Uuid)
    (pointed : origin.content catalogLatestKey = some (.text id.text)) :
    Triple storageHandler CatalogFaults (Reading codec recorded origin) readPointer
      (fun pointer config => Reading codec recorded origin config ∧
        (pointer = [] ∨ pointer = id.text.toList))
      (Reading codec recorded origin) (Reading codec recorded origin) := by
  apply Triple.bind _ (triple_read rfl)
  intro drawn
  let tmp := tempDir ++ "/noland-catalog-" ++ Uuid.text drawn
  apply Triple.bind (fun _ config => Reading codec recorded origin config ∧
    config.state.host.files.lookup tmp = some (.text id.text))
  · apply triple_ask
    · exact fun _ reading => reading
    · intro config value reading answered _
      obtain ⟨bytes, stored, copied⟩ := content_of_downloaded answered
      refine ⟨reading.read _ rfl _ (Or.inr rfl), copied.trans ?_⟩
      rw [← stored, reading.content, pointed]
    · exact fun config error state reading moved _ => reading.read _ rfl _ moved
  intro _
  apply Triple.bind (fun read config => Reading codec recorded origin config ∧
    (pointerText read = [] ∨ pointerText read = id.text.toList))
  · apply triple_tell
    · exact fun _ holds => holds.1
    · intro config holds _
      have answered : config.state.answer (.readLocal tmp) = .ok (.text id.text) := by
        show found (config.state.host.files.lookup tmp) = _
        rw [holds.2]
        rfl
      rw [answered]
      exact ⟨holds.1.read _ rfl _ (Or.inr rfl), Or.inr (trim_uuid id)⟩
    · exact fun config error state holds moved _ => ⟨holds.1.read _ rfl _ moved, Or.inl rfl⟩
  intro read
  apply Triple.bind (fun _ config => Reading codec recorded origin config ∧
    (pointerText read = [] ∨ pointerText read = id.text.toList))
  · apply triple_tell
    · exact fun _ holds => holds.1
    · exact fun config holds _ => ⟨holds.1.read _ rfl _ (Or.inr rfl), holds.2⟩
    · exact fun config error state holds moved _ => ⟨holds.1.read _ rfl _ moved, holds.2⟩
  intro _
  exact Triple.done fun _ holds => holds

theorem triple_followPointer (inv : CatalogInv codec recorded origin) (id : Uuid)
    (catalog : CatalogDocument) (document : HistoryDoc codec origin id catalog)
    (covers : ∀ record, recorded record → catalog.records record) (pointer : List Char)
    (read : pointer = [] ∨ pointer = id.text.toList) :
    Triple storageHandler CatalogFaults (Reading codec recorded origin)
      (followPointer codec pointer) (Loaded codec recorded origin)
      (Reading codec recorded origin) (Reading codec recorded origin) := by
  unfold followPointer
  split
  · exact triple_recoverLatestCatalog inv
  · rename_i some_pointer
    have same : pointer = id.text.toList := read.resolve_left some_pointer
    rw [same, String.ofList_toList]
    apply Triple.bind (fun fetched config => Reading codec recorded origin config ∧
      ∀ loaded, fetched = .ok loaded → loaded = catalog)
    · have fetch : Triple storageHandler CatalogFaults (Reading codec recorded origin)
          (fetchCatalogCommit codec id.text) _ _ (Reading codec recorded origin) :=
        (triple_fetchCatalogCommit id False).of_pre (fun _ reading => ⟨reading, False.elim⟩)
      apply Triple.attempt fetch
      · rintro loaded config ⟨reading, stored⟩
        refine ⟨reading.1, ?_⟩
        rintro _ ⟨⟩
        exact stored.unique document
      · exact fun error config holds => ⟨holds.1, by rintro _ ⟨⟩⟩
    intro fetched
    cases fetched with
    | ok loaded =>
        apply Triple.done
        rintro config ⟨reading, is_catalog⟩
        rw [is_catalog loaded rfl]
        exact ⟨reading, covers⟩
    | error error =>
        exact (triple_recoverLatestCatalog inv).of_pre (fun _ holds => holds.1)

theorem triple_loadCatalog (inv : CatalogInv codec recorded origin) :
    Triple storageHandler CatalogFaults (Reading codec recorded origin) (loadCatalog codec)
      (Loaded codec recorded origin) (Reading codec recorded origin)
      (Reading codec recorded origin) := by
  apply Triple.bind (fun latest config => Reading codec recorded origin config ∧
    (Option.isNone latest = true ↔ origin.content catalogLatestKey = none))
  · apply triple_ask
    · exact fun _ reading => reading
    · intro config latest reading answered _
      refine ⟨reading.read _ rfl _ (Or.inr rfl), ?_⟩
      rw [← reading.content, ← Except.ok.inj answered]
      simp
    · exact fun config error state reading moved _ => reading.read _ rfl _ moved
  intro latest
  by_cases absent : origin.content catalogLatestKey = none
  · rintro config outcome final ⟨reading, same⟩ run
    rw [if_pos (same.mpr absent)] at run
    have result := triple_emptyCatalog config outcome final reading run
    have none_recorded : ∀ record, ¬ recorded record := by
      rcases inv.latest with ⟨_, nothing⟩ | ⟨id, catalog, pointed, _⟩
      · exact nothing
      · rw [absent] at pointed
        cases pointed
    cases outcome with
    | value value => exact ⟨result, fun record before => absurd before (none_recorded record)⟩
    | error error => exact result
    | stopped => exact result
  · rintro config outcome final ⟨reading, same⟩ run
    rw [if_neg (by simpa using fun isNone => absent (same.mp isNone))] at run
    rcases inv.latest with ⟨missing, _⟩ | ⟨id, catalog, pointed, document, covers⟩
    · exact absurd missing absent
    · refine Triple.bind _ (triple_readPointer id pointed) (fun pointer => ?_) config outcome final
        reading run
      apply Triple.learn fun _ holds => holds.2
      intro read
      apply Triple.bind _ ((triple_followPointer inv id catalog document covers pointer read).of_pre (fun _ holds => holds.1))
      intro loaded
      apply Triple.done
      rintro config ⟨later, records⟩
      exact ⟨later, fun record before =>
        (CatalogDocument.records_refreshBundleHeads _ _).mpr (records record before)⟩

end Load

theorem content_put (state : StorageState) (key other : RemoteKey) (content : Content) :
    (state.put key content).content other =
      if other = key then some content else state.content other := by
  unfold StorageState.content StorageState.put
  by_cases same : other = key
  · subst same
    simp
  · simp [same, AList.lookup_insert_ne same]

theorem catalogCommitKey_last (id : Uuid) :
    (catalogCommitKey id).toList.getLast? = some 'c' :=
  getLast?_append_text _ (by decide)

theorem catalogCommitMarkerKey_last (id : Uuid) :
    (catalogCommitMarkerKey id).toList.getLast? = some 'D' :=
  getLast?_append_text _ (by decide)

theorem catalogCommitKey_ne_marker (id other : Uuid) :
    catalogCommitKey id ≠ catalogCommitMarkerKey other := by
  intro same
  have last := catalogCommitKey_last id
  rw [same, catalogCommitMarkerKey_last] at last
  cases last

theorem latest_ne_catalogCommitKey (id : Uuid) : catalogLatestKey ≠ catalogCommitKey id := by
  intro same
  have last := catalogCommitKey_last id
  rw [← same] at last
  exact absurd last (by decide)

theorem latest_ne_marker (id : Uuid) : catalogLatestKey ≠ catalogCommitMarkerKey id := by
  intro same
  have last := catalogCommitMarkerKey_last id
  rw [← same] at last
  exact absurd last (by decide)

theorem endsWith_marker (id : Uuid) :
    endsWith ".enc".toList (catalogCommitMarkerKey id).toList ≠ true := by
  intro suffix
  obtain ⟨front, whole⟩ := List.isSuffixOf_iff_suffix.mp suffix
  have last := catalogCommitMarkerKey_last id
  rw [← whole] at last
  simp at last

section Update

variable {codec : Codec} {recorded : Record → Prop}

/-- What a commit batch may have written, at any point of it. -/
def Wrote (codec : Codec) (catalog : CatalogDocument) (before after : StorageState) : Prop :=
  ∀ key, after.content key = before.content key ∨
    (key = catalogCommitKey catalog.catalogCommitId ∧
      after.content key = some (wrapEnvelope codec (.catalog catalog))) ∨
    (key = catalogCommitMarkerKey catalog.catalogCommitId ∧ (after.content key).isSome = true)

/-- A document that may be written: its id is new, it is newer than the history
and has every record. -/
structure Writable (codec : Codec) (recorded : Record → Prop) (catalog : CatalogDocument)
    (state : StorageState) : Prop where
  inv : CatalogInv codec recorded state
  absent : ¬ state.present (catalogCommitKey catalog.catalogCommitId)
  drawn : ∃ i < state.host.drawn, catalog.catalogCommitId = state.host.uuids i
  created : ∃ j < state.host.ticks, catalog.createdAt = state.host.clock j
  newest : ∀ id older, HistoryDoc codec state id older → older.createdAt < catalog.createdAt
  covers : ∀ record, recorded record → catalog.records record

variable {catalog : CatalogDocument} {before after : StorageState}

theorem Wrote.historyDoc (wrote : Wrote codec catalog before after) {id : Uuid}
    {document : CatalogDocument} (stored : HistoryDoc codec after id document) :
    HistoryDoc codec before id document ∨
      (id = catalog.catalogCommitId ∧ document = catalog) := by
  rcases wrote (catalogCommitKey id) with same | ⟨named, written⟩ | ⟨named, _⟩
  · exact Or.inl (same.symm.trans stored)
  · have same_id := catalogCommitKey_injective named
    have own : HistoryDoc codec after id catalog := written
    exact Or.inr ⟨same_id, stored.unique own⟩
  · exact absurd named (catalogCommitKey_ne_marker _ _)

theorem Wrote.kept (wrote : Wrote codec catalog before after)
    (absent : ¬ before.present (catalogCommitKey catalog.catalogCommitId)) {id : Uuid}
    {document : CatalogDocument} (stored : HistoryDoc codec before id document) :
    HistoryDoc codec after id document := by
  rcases wrote (catalogCommitKey id) with same | ⟨named, _⟩ | ⟨named, _⟩
  · exact same.trans stored
  · exact absurd (named ▸ stored.present) absent
  · exact absurd named (catalogCommitKey_ne_marker _ _)

theorem Wrote.latest (wrote : Wrote codec catalog before after) :
    after.content catalogLatestKey = before.content catalogLatestKey := by
  rcases wrote catalogLatestKey with same | ⟨named, _⟩ | ⟨named, _⟩
  · exact same
  · exact absurd named (latest_ne_catalogCommitKey _)
  · exact absurd named (latest_ne_marker _)

theorem Writable.catalogInv (ready : Writable codec recorded catalog before)
    (wrote : Wrote codec catalog before after) (later : SourcesLater before after) :
    CatalogInv codec recorded after := by
  have inv := ready.inv
  refine ⟨later.clock ▸ inv.clock, ?_, ?_, ?_, ?_, ?_⟩
  · intro key inside suffix there
    rcases wrote key with same | ⟨rfl, _⟩ | ⟨rfl, _⟩
    · rw [present_iff_content, same, ← present_iff_content] at there
      obtain ⟨i, below, rfl⟩ := inv.listed key inside suffix there
      exact ⟨i, below.trans_le later.drawn, by rw [later.uuids]⟩
    · obtain ⟨i, below, named⟩ := ready.drawn
      exact ⟨i, below.trans_le later.drawn, by rw [later.uuids, named]⟩
    · exact absurd suffix (endsWith_marker _)
  · intro id there
    rcases wrote (catalogCommitKey id) with same | ⟨named, written⟩ | ⟨named, _⟩
    · rw [present_iff_content, same, ← present_iff_content] at there
      obtain ⟨document, stored, j, below, created⟩ := inv.documents id there
      exact ⟨document, same.trans stored, j, below.trans_le later.ticks, by
        rw [later.clock, created]⟩
    · obtain ⟨j, below, created⟩ := ready.created
      exact ⟨catalog, written, j, below.trans_le later.ticks, by rw [later.clock, created]⟩
    · exact absurd named (catalogCommitKey_ne_marker _ _)
  · intro id document stored maximal
    rcases wrote.historyDoc stored with old | ⟨_, rfl⟩
    · apply inv.newest id document old
      intro other older found_older
      exact maximal other older (wrote.kept ready.absent found_older)
    · exact ready.covers
  · intro some_record
    obtain ⟨id, there⟩ := inv.nonempty some_record
    obtain ⟨document, stored, _⟩ := inv.documents id there
    exact ⟨id, (wrote.kept ready.absent stored).present⟩
  · rw [wrote.latest]
    rcases inv.latest with absent | ⟨id, document, pointed, stored, covers⟩
    · exact Or.inl absent
    · exact Or.inr ⟨id, document, pointed, wrote.kept ready.absent stored, covers⟩

theorem CatalogInv.pointed (inv : CatalogInv codec recorded before)
    (stored : HistoryDoc codec before catalog.catalogCommitId catalog)
    (newest : ∀ id older, HistoryDoc codec before id older → id = catalog.catalogCommitId ∨
      older.createdAt < catalog.createdAt)
    (same : ∀ key, key ≠ catalogLatestKey → after.content key = before.content key)
    (pointer : after.content catalogLatestKey = some (.text catalog.catalogCommitId.text))
    (later : SourcesLater before after) :
    CatalogInv codec catalog.records after := by
  have document : ∀ id older, HistoryDoc codec after id older ↔ HistoryDoc codec before id older := by
    intro id older
    unfold HistoryDoc
    rw [same _ (latest_ne_catalogCommitKey id).symm]
  have commit_there : ∀ id, after.present (catalogCommitKey id) ↔
      before.present (catalogCommitKey id) := by
    intro id
    rw [present_iff_content, present_iff_content, same _ (latest_ne_catalogCommitKey id).symm]
  refine ⟨later.clock ▸ inv.clock, ?_, ?_, ?_, ?_, ?_⟩
  · intro key inside suffix there
    have other : key ≠ catalogLatestKey := by
      rintro rfl
      exact absurd inside (by decide)
    rw [present_iff_content, same key other, ← present_iff_content] at there
    obtain ⟨i, below, rfl⟩ := inv.listed key inside suffix there
    exact ⟨i, below.trans_le later.drawn, by rw [later.uuids]⟩
  · intro id there
    obtain ⟨older, found_older, j, below, created⟩ := inv.documents id ((commit_there id).mp there)
    exact ⟨older, (document id older).mpr found_older, j, below.trans_le later.ticks, by
      rw [later.clock, created]⟩
  · intro id newer found_newer maximal record recorded_now
    have found_before := (document id newer).mp found_newer
    rcases newest id newer found_before with rfl | older
    · rw [found_before.unique stored]
      exact recorded_now
    · exact absurd (maximal _ _ ((document _ _).mpr stored)) (not_le.mpr older)
  · exact fun _ => ⟨catalog.catalogCommitId, (commit_there _).mpr stored.present⟩
  · exact Or.inr ⟨catalog.catalogCommitId, catalog, pointer, (document _ _).mpr stored,
      fun record recorded_now => recorded_now⟩

theorem triple_catalogBatch (provider : Provider)
    {allow : StorageConfig → Event storageInterface StateError → StorageState → Prop} :
    Triple storageHandler allow
      (fun config => config.state = before ∧ Writable codec recorded catalog before)
      (provider.putMetadataBatch (catalogBatch codec catalog))
      (fun _ config => CatalogInv codec recorded config.state ∧
        HistoryDoc codec config.state catalog.catalogCommitId catalog ∧
        ∀ id older, HistoryDoc codec config.state id older →
          id = catalog.catalogCommitId ∨ older.createdAt < catalog.createdAt)
      (fun config => CatalogInv codec recorded config.state)
      (fun config => CatalogInv codec recorded config.state) := by
  have batch := provider.batch_contract (catalogBatch codec catalog) (Wrote codec catalog before)
    (fun _ _ _ _ holds => holds) ?entries ?marker
  case entries =>
    intro entry member state holds key
    obtain rfl : entry = ⟨catalogCommitKey catalog.catalogCommitId,
      wrapEnvelope codec (.catalog catalog)⟩ := List.mem_singleton.mp member
    rw [content_put]
    split
    · rename_i same
      exact Or.inr (Or.inl ⟨same, rfl⟩)
    · exact holds key
  case marker =>
    intro marker member state holds _ key
    obtain rfl : (⟨catalogCommitMarkerKey catalog.catalogCommitId, .text committedMarker⟩ :
      MetadataWrite) = marker := Option.some.inj member
    rw [content_put]
    split
    · rename_i same
      exact Or.inr (Or.inr ⟨same, rfl⟩)
    · exact holds key
  rintro config outcome final ⟨rfl, ready⟩ run
  have free := run.mono fun _ _ _ _ => trivial
  have later : SourcesLater config.state final.state :=
    runs_keep (fun state => SourcesLater config.state state)
      (fun op state holds => holds.trans (sourcesLater_after op state)) run (.refl _)
  have result := batch config outcome final (fun _ => Or.inl rfl) free
  cases outcome with
  | error error => exact ready.catalogInv result later
  | stopped => exact ready.catalogInv result later
  | value value =>
      obtain ⟨wrote, landed⟩ := result
      have there := landed _ List.mem_cons_self
      have stored : HistoryDoc codec final.state catalog.catalogCommitId catalog := by
        rcases wrote (catalogCommitKey catalog.catalogCommitId) with same | ⟨_, written⟩ | ⟨named, _⟩
        · rw [present_iff_content, same, ← present_iff_content] at there
          exact absurd there ready.absent
        · exact written
        · exact absurd named (catalogCommitKey_ne_marker _ _)
      refine ⟨ready.catalogInv wrote later, stored, ?_⟩
      intro id older found_older
      rcases wrote.historyDoc found_older with old | ⟨same, _⟩
      · exact Or.inr (ready.newest id older old)
      · exact Or.inl same

theorem triple_writeCatalog (provider : Provider) :
    Triple storageHandler CatalogFaults
      (fun config => Writable codec recorded catalog config.state)
      (writeCatalog provider codec catalog)
      (fun _ config => CatalogInv codec catalog.records config.state ∧
        HistoryDoc codec config.state catalog.catalogCommitId catalog)
      (fun config => CatalogInv codec recorded config.state)
      (fun config => CatalogInv codec recorded config.state) := by
  apply Triple.fix
  intro start ready
  apply Triple.bind _ ((triple_catalogBatch provider).of_pre (fun config same => ⟨congrArg Config.state same, ready⟩))
  intro _
  apply Triple.bind (fun _ config => CatalogInv codec catalog.records config.state ∧
    HistoryDoc codec config.state catalog.catalogCommitId catalog)
  · have moves : ∀ {config : StorageConfig} {state : StorageState},
        (CatalogInv codec recorded config.state ∧
          HistoryDoc codec config.state catalog.catalogCommitId catalog ∧
          ∀ id older, HistoryDoc codec config.state id older →
            id = catalog.catalogCommitId ∨ older.createdAt < catalog.createdAt) →
        (state = config.state ∨ state = config.state.after
          (.putSmallVersioned (.text catalog.catalogCommitId.text) catalogLatestKey)) →
        state.content catalogLatestKey = some (.text catalog.catalogCommitId.text) →
        CatalogInv codec catalog.records state ∧
          HistoryDoc codec state catalog.catalogCommitId catalog := by
      rintro config state ⟨inv, stored, newest⟩ moved pointer
      have same : ∀ key, key ≠ catalogLatestKey → state.content key = config.state.content key := by
        intro key other
        rcases moved with rfl | rfl
        · rfl
        · exact (content_put _ _ _ _).trans (if_neg other)
      have later : SourcesLater config.state state := by
        rcases moved with rfl | rfl
        · exact .refl _
        · exact sourcesLater_after _ _
      exact ⟨inv.pointed stored newest same pointer later,
        (same _ (latest_ne_catalogCommitKey _).symm).trans stored⟩
    apply triple_tell
    · exact fun _ holds => holds.1
    · exact fun config holds allowed => moves holds (Or.inr rfl) (allowed.pointer _ rfl)
    · exact fun config error state holds moved allowed =>
        moves holds moved (allowed.pointer _ rfl)
  intro _
  exact Triple.done fun _ holds => holds

theorem triple_updateCatalog (provider : Provider) (manifest : BundleManifest) (size : Nat) :
    Triple storageHandler CatalogFaults (fun config => CatalogInv codec recorded config.state)
      (updateCatalogWithBundle provider codec manifest size)
      (fun catalog config => CatalogInv codec catalog.records config.state ∧
        HistoryDoc codec config.state catalog.catalogCommitId catalog ∧
        catalog.records (manifestRecord manifest) ∧
        ∀ record, recorded record → catalog.records record)
      (fun config => CatalogInv codec recorded config.state)
      (fun config => CatalogInv codec recorded config.state) := by
  apply Triple.fix
  intro start inv
  let origin := start.state
  have leaves : ∀ {α : Type} {program : StorageProg α} {pre : StorageConfig → Prop}
      {post : α → StorageConfig → Prop},
      Triple storageHandler CatalogFaults pre program post (Reading codec recorded origin)
        (Reading codec recorded origin) →
      Triple storageHandler CatalogFaults pre program post
        (fun config => CatalogInv codec recorded config.state)
        (fun config => CatalogInv codec recorded config.state) :=
    fun triple => triple.weaken (fun _ holds => holds) (fun _ _ holds => holds)
      (fun _ reading => reading.inv) (fun _ reading => reading.inv)
  apply Triple.bind (fun _ => Reading codec recorded origin) ((leaves (triple_read rfl)).of_pre (by rintro config rfl; exact ⟨inv, rfl⟩))
  intro committed
  split
  · exact Triple.throw fun _ reading => reading.inv
  apply Triple.bind _ (leaves (triple_loadCatalog inv))
  intro loaded
  apply Triple.bind (fun commit config => Loaded codec recorded origin loaded config ∧
    (∃ i < config.state.host.drawn, commit = config.state.host.uuids i) ∧
    ¬ config.state.present (catalogCommitKey commit))
  · apply leaves
    apply triple_ask
    · exact fun _ holds => holds.1
    · rintro config commit ⟨reading, records⟩ answered allowed
      obtain rfl : config.state.host.uuids config.state.host.drawn = commit :=
        Except.ok.inj answered
      refine ⟨⟨reading.read _ rfl _ (Or.inr rfl), records⟩,
        ⟨config.state.host.drawn, Nat.lt_succ_self _, rfl⟩, ?_⟩
      intro there
      -- A key of the history carries an id drawn before.
      obtain ⟨i, below, named⟩ := reading.inv.listed _ (underFolder_catalogCommitKey _)
        (endsWith_catalogCommitKey _) there
      exact allowed.fresh rfl i below (catalogCommitKey_injective named).symm
    · exact fun config error state holds moved _ => holds.1.read _ rfl _ moved
  intro commit
  apply Triple.bind (fun now config => Writable codec recorded
    (updatedCatalog manifest size commit now loaded) config.state ∧
    ∀ record, recorded record → loaded.records record)
  · apply leaves
    apply triple_ask
    · exact fun _ holds => holds.1.1
    · rintro config now ⟨⟨reading, records⟩, ⟨i, below, drawn⟩, absent⟩ answered _
      obtain rfl : config.state.host.clock config.state.host.ticks = now := Except.ok.inj answered
      have later := reading.read .utcNow rfl
        (.ok (config.state.host.clock config.state.host.ticks)) (Or.inr rfl)
      refine ⟨⟨later.inv, ?_, ?_, ?_, ?_, ?_⟩, records⟩
      · rw [updatedCatalog_commit]
        exact absent
      · rw [updatedCatalog_commit]
        exact ⟨i, below, drawn⟩
      · rw [updatedCatalog_createdAt]
        exact ⟨config.state.host.ticks, Nat.lt_succ_self _, rfl⟩
      · intro id older stored
        rw [updatedCatalog_createdAt]
        have found_older : HistoryDoc codec config.state id older := stored
        obtain ⟨document, also, j, earlier, created⟩ :=
          reading.inv.documents id found_older.present
        rw [found_older.unique also, created]
        exact reading.inv.clock earlier
      · exact fun record before => records_updatedCatalog (Or.inl (records record before))
    · exact fun config error state holds moved _ => holds.1.1.read _ rfl _ moved
  intro now
  apply Triple.learn fun _ holds => holds.2
  intro records
  apply Triple.bind _ ((triple_writeCatalog provider).of_pre (fun _ holds => holds.1))
  intro _
  apply Triple.done
  rintro config ⟨later, stored⟩
  refine ⟨later, stored, records_updatedCatalog (Or.inr rfl), ?_⟩
  exact fun record before => records_updatedCatalog (Or.inl (records record before))

end Update

/-- The states that a client's updates and loads can reach, with what its
successful updates have recorded. Between them other functions write objects
outside the catalog, and local files change. -/
inductive CatalogSession (provider : Provider) (codec : Codec)
    (allow : StorageConfig → Event storageInterface StateError → StorageState → Prop)
    (start : StorageState) : (Record → Prop) → StorageState → Prop where
  | start : CatalogSession provider codec allow start (fun _ => False) start
  | updated {recorded : Record → Prop} {state : StorageState} {manifest : BundleManifest}
      {size : Nat} {catalog : CatalogDocument} {final : StorageConfig}
      (before : CatalogSession provider codec allow start recorded state)
      (run : Runs storageHandler allow (updateCatalogWithBundle provider codec manifest size)
        ⟨[], state⟩ (.value catalog) final) :
      CatalogSession provider codec allow start
        (fun record => recorded record ∨ catalog.records record) final.state
  | failed {recorded : Record → Prop} {state : StorageState} {manifest : BundleManifest}
      {size : Nat} {outcome : Outcome StateError CatalogDocument} {final : StorageConfig}
      (before : CatalogSession provider codec allow start recorded state)
      (run : Runs storageHandler allow (updateCatalogWithBundle provider codec manifest size)
        ⟨[], state⟩ outcome final) (unsuccessful : ∀ catalog, outcome ≠ .value catalog) :
      CatalogSession provider codec allow start recorded final.state
  | loaded {recorded : Record → Prop} {state : StorageState}
      {outcome : Outcome StateError CatalogDocument} {final : StorageConfig}
      (before : CatalogSession provider codec allow start recorded state)
      (run : Runs storageHandler allow (loadCatalog codec) ⟨[], state⟩ outcome final) :
      CatalogSession provider codec allow start recorded final.state
  | object {recorded : Record → Prop} {state : StorageState} {key : RemoteKey}
      (content : Content) (before : CatalogSession provider codec allow start recorded state)
      (outside : underFolder catalogRoot key = false) :
      CatalogSession provider codec allow start recorded (state.put key content)
  | files {recorded : Record → Prop} {state : StorageState}
      (files : AList fun _ : String => Content)
      (before : CatalogSession provider codec allow start recorded state) :
      CatalogSession provider codec allow start recorded (state.withFiles files)

/-- Nothing of the catalog is at the provider, and the clock moves forward
between two readings. -/
structure CatalogStart (start : StorageState) : Prop where
  clock : StrictMono start.host.clock
  empty : ∀ key, underFolder catalogRoot key = true → start.content key = none

/-- Every successful update writes a catalog with its own bundle and everything
recorded before, and every successful load returns everything recorded. -/
def Remembers (provider : Provider) (codec : Codec)
    (allow : StorageConfig → Event storageInterface StateError → StorageState → Prop)
    (start : StorageState) : Prop :=
  ∀ recorded state, CatalogSession provider codec allow start recorded state →
    (∀ manifest size catalog final,
      Runs storageHandler allow (updateCatalogWithBundle provider codec manifest size)
        ⟨[], state⟩ (.value catalog) final →
      HistoryDoc codec final.state catalog.catalogCommitId catalog ∧
      catalog.records (manifestRecord manifest) ∧
      ∀ record, recorded record → catalog.records record) ∧
    (∀ catalog final,
      Runs storageHandler allow (loadCatalog codec) ⟨[], state⟩ (.value catalog) final →
      ∀ record, recorded record → catalog.records record)

theorem CatalogStart.catalogInv {codec : Codec} {start : StorageState}
    (starts : CatalogStart start) : CatalogInv codec (fun _ => False) start := by
  have absent : ∀ key, underFolder catalogRoot key = true → ¬ start.present key := by
    intro key inside there
    rw [present_iff_content, starts.empty key inside] at there
    cases there
  refine ⟨starts.clock, ?_, ?_, ?_, ?_, Or.inl ⟨starts.empty _ (by decide), ?_⟩⟩
  · exact fun key inside _ there => absurd there (absent key (underRoot_of_underFolder inside))
  · exact fun id there => absurd there (absent _ (underRoot_catalogCommitKey id))
  · exact fun _ _ _ _ _ impossible => impossible.elim
  · rintro ⟨_, impossible⟩
    exact impossible.elim
  · exact fun _ impossible => impossible

theorem catalogInv_of_session {provider : Provider} {codec : Codec} {start state : StorageState}
    {recorded : Record → Prop} (starts : CatalogStart start)
    (session : CatalogSession provider codec CatalogFaults start recorded state) :
    CatalogInv codec recorded state := by
  induction session with
  | start => exact starts.catalogInv
  | updated _ run ih =>
      obtain ⟨inv, _, _, covers⟩ := triple_updateCatalog provider _ _ _ _ _ ih run
      apply inv.fewer
      rintro record (before | now_recorded)
      · exact covers record before
      · exact now_recorded
  | @failed _ _ _ _ outcome _ _ run unsuccessful ih =>
      have result := triple_updateCatalog provider _ _ _ _ _ ih run
      cases outcome with
      | value catalog => exact absurd rfl (unsuccessful catalog)
      | error error => exact result
      | stopped => exact result
  | @loaded _ state outcome _ _ run ih =>
      have result := triple_loadCatalog ih ⟨[], state⟩ outcome _ ⟨ih, rfl⟩ run
      cases outcome with
      | value catalog => exact result.1.inv
      | error error => exact result.inv
      | stopped => exact result.inv
  | object content _ outside ih =>
      refine ih.congr ?_ ⟨rfl, rfl, le_rfl, le_rfl⟩
      intro key inside
      rw [content_put, if_neg]
      rintro rfl
      rw [outside] at inside
      cases inside
  | files files _ ih => exact ih.congr (fun _ _ => rfl) ⟨rfl, rfl, le_rfl, le_rfl⟩

/-- Under `CatalogFaults` the catalog never forgets. -/
theorem catalog_remembers (provider : Provider) (codec : Codec) (start : StorageState)
    (starts : CatalogStart start) : Remembers provider codec CatalogFaults start := by
  intro recorded state session
  have inv := catalogInv_of_session starts session
  constructor
  · intro manifest size catalog final run
    obtain ⟨_, stored, own, covers⟩ := triple_updateCatalog provider manifest size _ _ _ inv run
    exact ⟨stored, own, covers⟩
  · intro catalog final run
    exact (triple_loadCatalog inv ⟨[], state⟩ _ _ ⟨inv, rfl⟩ run).2

/-- A check of `CatalogFaults` that can be evaluated. -/
def catalogFaultsCheck (config : StorageConfig) (event : Event storageInterface StateError)
    (after : StorageState) : Bool :=
  match event with
  | ⟨StorageOp.putSmallVersioned content key, _⟩ =>
      key ≠ catalogLatestKey || after.content catalogLatestKey = some content
  | ⟨StorageOp.listPrefix _, reply⟩ => reply.isOk
  | ⟨StorageOp.download _ _, reply⟩ => reply.isOk
  | ⟨StorageOp.readLocal _, reply⟩ => reply.isOk
  | ⟨StorageOp.newUuid, _⟩ => (List.range config.state.host.drawn).all fun i =>
      config.state.host.uuids i ≠ config.state.host.uuids config.state.host.drawn
  | _ => true

theorem catalogFaultsCheck_sound (config : StorageConfig)
    (event : Event storageInterface StateError) (after : StorageState)
    (checked : catalogFaultsCheck config event after = true) :
    CatalogFaults config event after := by
  obtain ⟨op, reply⟩ := event
  constructor
  · rintro content ⟨⟩
    simpa [catalogFaultsCheck] using checked
  · rintro folder ⟨⟩
    exact checked
  · rintro key dest ⟨⟩ _
    exact checked
  · rintro path ⟨⟩ _
    exact checked
  · rintro ⟨⟩ i below
    simpa using List.all_eq_true.mp checked i (List.mem_range.mpr below)

namespace Sample

def uuidC : Uuid := ⟨"00000000-0000-4000-8000-00000000000c", Eq.refl true⟩

def uuidD : Uuid := ⟨"00000000-0000-4000-8000-00000000000d", Eq.refl true⟩

def bundle : BundleManifest := manifest uuidB

def catalogStart : StorageState :=
  StorageState.put ⟨remote, host ∅ (fun n => [uuidA, uuidC, uuidD].getD n uuidB) fun n => n⟩
    (bundleMarkerKey bundle) (.text uuidB.text)

theorem catalogStart_starts : CatalogStart catalogStart where
  clock := fun _ _ less => by simpa [catalogStart, host, StorageState.put] using less
  empty := by
    intro key inside
    have other : key ≠ bundleMarkerKey bundle := by
      rintro rfl
      exact absurd inside (by decide)
    rw [catalogStart, content_put, if_neg other]
    rfl

def firstCatalog : CatalogDocument :=
  updatedCatalog bundle 0 uuidC 1 (CatalogDocument.empty uuidA 0)

def update (signals : List (Signal StateError)) :
    Outcome StateError CatalogDocument × List (Signal StateError) × StorageConfig :=
  (updateCatalogWithBundle localStorage codec bundle 0).exec storageHandler signals
    ⟨[], catalogStart⟩

/-- Every operation proceeds, except that the write of `LATEST` is refused. -/
def latestRefused : List (Signal StateError) :=
  [.proceed, .proceed, .proceed, .proceed, .refuse (.storage "quota exceeded")]

theorem update_value (signals : List (Signal StateError))
    (known : signals = [] ∨ signals = latestRefused) :
    (update signals).1 = .value firstCatalog := by
  rcases known with rfl | rfl
  · decide +kernel
  · decide +kernel

end Sample

/-- A refused write of `LATEST` is reported as success, and the next load returns
an empty catalog. -/
theorem catalog_forgets_after_refused_pointer :
    ¬ Remembers localStorage Sample.codec (fun _ _ _ => True) Sample.catalogStart := by
  intro remembers
  have first : Runs storageHandler (fun _ _ _ => True)
      (updateCatalogWithBundle localStorage Sample.codec Sample.bundle 0)
      ⟨[], Sample.catalogStart⟩ (Sample.update Sample.latestRefused).1
      (Sample.update Sample.latestRefused).2.2 := exec_runs _ _ _ _
  rw [Sample.update_value _ (Or.inr rfl)] at first
  have second : Runs storageHandler (fun _ _ _ => True) (loadCatalog Sample.codec)
      ⟨[], (Sample.update Sample.latestRefused).2.2.state⟩
      ((loadCatalog Sample.codec).exec storageHandler []
        ⟨[], (Sample.update Sample.latestRefused).2.2.state⟩).1 _ := exec_runs _ _ _ _
  have empty : ((loadCatalog Sample.codec).exec storageHandler []
      ⟨[], (Sample.update Sample.latestRefused).2.2.state⟩).1 =
      .value (CatalogDocument.empty Sample.uuidD 2) := by decide +kernel
  rw [empty] at second
  have recorded : Sample.firstCatalog.records (manifestRecord Sample.bundle) :=
    records_updatedCatalog (Or.inr rfl)
  have kept := (remembers _ _ (.updated .start first)).2 _ _ second _ (Or.inr recorded)
  exact not_records_empty _ _ _ kept

theorem catalog_remembers_first_update :
    Remembers localStorage Sample.codec CatalogFaults Sample.catalogStart ∧
    ∃ final, Runs storageHandler CatalogFaults
      (updateCatalogWithBundle localStorage Sample.codec Sample.bundle 0)
      ⟨[], Sample.catalogStart⟩ (.value Sample.firstCatalog) final := by
  refine ⟨catalog_remembers localStorage Sample.codec Sample.catalogStart
    Sample.catalogStart_starts, (Sample.update []).2.2, ?_⟩
  have passes : (updateCatalogWithBundle localStorage Sample.codec Sample.bundle 0).follows
      storageHandler catalogFaultsCheck [] ⟨[], Sample.catalogStart⟩ = true := by decide +kernel
  have run : Runs storageHandler CatalogFaults
      (updateCatalogWithBundle localStorage Sample.codec Sample.bundle 0)
      ⟨[], Sample.catalogStart⟩ (Sample.update []).1 (Sample.update []).2.2 :=
    follows_runs catalogFaultsCheck_sound _ _ _ passes
  rwa [Sample.update_value _ (Or.inl rfl)] at run

end Noland.Storage
