import Noland.Lib.Interleaving
import Noland.Storage.CatalogHistory

/-!
An update reads `LATEST`, writes a commit document of its own and then moves `LATEST` to it, with
no comparison in between, so an update that moved `LATEST` after another one had read it is lost.
Nothing is lost when each run finds `LATEST`, at the moment it writes it, as it had read it.
-/

namespace Noland.Storage

open Noland.Core Noland.Requests Noland.Text

def sharedHandler : Handler storageInterface StateError (Remote × Host) where
  act op pair :=
    (StorageState.answer ⟨pair.1, pair.2⟩ op,
      ((StorageState.after ⟨pair.1, pair.2⟩ op).remote, (StorageState.after ⟨pair.1, pair.2⟩ op).host))
  internal := storageHandler.internal

def Remote.content (remote : Remote) (key : RemoteKey) : Option Content :=
  (remote.objects.lookup key).map Stored.content

def Remote.holds (codec : Codec) (remote : Remote) (id : Uuid) (catalog : CatalogDocument) : Prop :=
  remote.content (catalogCommitKey id) = some (wrapEnvelope codec (.catalog catalog))

/-- The document that `LATEST` names. -/
def Remote.head (codec : Codec) (remote : Remote) (catalog : CatalogDocument) : Prop :=
  ∃ id, remote.content catalogLatestKey = some (.text id.text) ∧ remote.holds codec id catalog

def Remote.readable (codec : Codec) (remote : Remote) : Prop :=
  remote.content catalogLatestKey = none ∨ ∃ catalog, remote.head codec catalog

theorem Remote.holds_unique {codec : Codec} {remote : Remote} {id : Uuid}
    {left right : CatalogDocument} (first : remote.holds codec id left)
    (second : remote.holds codec id right) : left = right := by
  have same : some (wrapEnvelope codec (.catalog left)) = some (wrapEnvelope codec (.catalog right)) :=
    first.symm.trans second
  simp only [wrapEnvelope, Option.some.injEq, Content.sealed.injEq, Document.catalog.injEq] at same
  exact same.2.1

theorem Uuid.eq_of_text {left right : Uuid} (same : left.text = right.text) : left = right := by
  cases left
  cases right
  simpa using same

theorem Remote.head.unique {codec : Codec} {remote : Remote} {left right : CatalogDocument}
    (first : remote.head codec left) (second : remote.head codec right) : left = right := by
  obtain ⟨id, text, stored⟩ := first
  obtain ⟨other, other_text, other_stored⟩ := second
  have same : id = other := by
    rw [text] at other_text
    exact Uuid.eq_of_text (Content.text.inj (Option.some.inj other_text))
  exact Remote.holds_unique stored (same ▸ other_stored)

/-- What every client may count on: commit documents stay, and whatever `LATEST`
led to is still recorded where it leads later. -/
structure CatalogGrows (codec : Codec) (before after : Remote) : Prop where
  objects : ∀ key, key ∈ before.objects → key ∈ after.objects
  documents : ∀ id content, before.content (catalogCommitKey id) = some content →
    after.content (catalogCommitKey id) = some content
  head : ∀ catalog, before.head codec catalog →
    ∃ later, after.head codec later ∧ ∀ record, catalog.records record → later.records record
  readable : before.readable codec → after.readable codec

theorem CatalogGrows.refl (codec : Codec) (remote : Remote) : CatalogGrows codec remote remote where
  objects _ there := there
  documents _ _ stored := stored
  head catalog pointed := ⟨catalog, pointed, fun _ recorded => recorded⟩
  readable holds := holds

theorem CatalogGrows.trans {codec : Codec} {first second third : Remote}
    (left : CatalogGrows codec first second) (right : CatalogGrows codec second third) :
    CatalogGrows codec first third where
  objects key there := right.objects key (left.objects key there)
  documents id content stored := right.documents id content (left.documents id content stored)
  head catalog pointed := by
    obtain ⟨middle, middle_pointed, covers⟩ := left.head catalog pointed
    obtain ⟨later, later_pointed, also⟩ := right.head middle middle_pointed
    exact ⟨later, later_pointed, fun record recorded => also record (covers record recorded)⟩
  readable holds := right.readable (left.readable holds)

theorem CatalogGrows.holds {codec : Codec} {before after : Remote} {id : Uuid}
    {catalog : CatalogDocument} (grows : CatalogGrows codec before after)
    (stored : before.holds codec id catalog) : after.holds codec id catalog :=
  grows.documents id _ stored

/-- What a client that alone draws the ids in `mine` may rely on. -/
structure Relies (codec : Codec) (mine : Uuid → Prop) (before after : Remote) : Prop where
  grows : CatalogGrows codec before after
  fresh : ∀ id, mine id → before.content (catalogCommitKey id) = none →
    after.content (catalogCommitKey id) = none

theorem Relies.trans {codec : Codec} {mine : Uuid → Prop} {first second third : Remote}
    (left : Relies codec mine first second) (right : Relies codec mine second third) :
    Relies codec mine first third where
  grows := left.grows.trans right.grows
  fresh id own absent := right.fresh id own (left.fresh id own absent)

def catalogRules (codec : Codec) (mine : Uuid → Prop)
    (allow : List (Event storageInterface StateError) → StorageOp → Remote → Prop) :
    Rules storageInterface StateError Remote where
  rely := Relies codec mine
  guarantee before after := CatalogGrows codec before after ∧
    ∀ id, ¬ mine id → after.content (catalogCommitKey id) = before.content (catalogCommitKey id)
  allow := allow
  rely_refl remote := ⟨.refl codec remote, fun _ _ absent => absent⟩
  rely_trans _ _ _ left right := left.trans right

theorem catalogRules_compatible {codec : Codec} {mine other : Uuid → Prop}
    {allow allow' : List (Event storageInterface StateError) → StorageOp → Remote → Prop}
    (disjoint : ∀ id, mine id → ¬ other id) {before after : Remote}
    (keeps : (catalogRules codec other allow').guarantee before after) :
    (catalogRules codec mine allow).rely before after :=
  ⟨keeps.1, fun id own absent => (keeps.2 id (disjoint id own)).trans absent⟩

section Operations

variable {codec : Codec} {mine : Uuid → Prop}
  {allow : List (Event storageInterface StateError) → StorageOp → Remote → Prop}
  {history : List (Event storageInterface StateError)} {shared : Remote} {own : Host}
  {fail : List (Event storageInterface StateError) → Remote → Host → Prop} {op : StorageOp}

abbrev ClientPost (α : Type) :=
  α → List (Event storageInterface StateError) → Remote → Host → Prop

theorem safe_read {post : ClientPost op.Ret} (reads : op.target = none)
    (result : ∀ later, (catalogRules codec mine allow).rely shared later → ∃ value,
      StorageState.answer ⟨later, own⟩ op = .ok value ∧
      ∀ last, (catalogRules codec mine allow).rely later last →
        post value (history ++ [⟨op, .ok value⟩]) last (StorageState.after ⟨later, own⟩ op).host) :
    Safe sharedHandler (catalogRules codec mine allow) post fail (ask op) history shared own := by
  apply @Safe.perform storageInterface StateError Remote Host sharedHandler
    (catalogRules codec mine allow) fail history shared own op post
  intro later moved _
  obtain ⟨value, answered, holds⟩ := result later moved
  have same : (StorageState.after ⟨later, own⟩ op).remote = later :=
    after_remote_of_target ⟨later, own⟩ reads
  constructor
  · show (catalogRules codec mine allow).guarantee later (StorageState.after ⟨later, own⟩ op).remote
    rw [same]
    exact ⟨.refl codec later, fun _ _ => rfl⟩
  · intro last moves
    have from_later : (catalogRules codec mine allow).rely later last := by
      have moves : (catalogRules codec mine allow).rely
        (StorageState.after ⟨later, own⟩ op).remote last := moves
      rwa [same] at moves
    have replied : (sharedHandler.act op (later, own)).1 = .ok value := answered
    rw [replied]
    exact holds last from_later

theorem safe_tell_read {post : ClientPost (Except StateError op.Ret)} (reads : op.target = none)
    (result : ∀ later, (catalogRules codec mine allow).rely shared later →
      ∀ last, (catalogRules codec mine allow).rely later last →
        post (StorageState.answer ⟨later, own⟩ op)
          (history ++ [⟨op, StorageState.answer ⟨later, own⟩ op⟩]) last
          (StorageState.after ⟨later, own⟩ op).host) :
    Safe sharedHandler (catalogRules codec mine allow) post fail (tell op) history shared own := by
  intro later moved _
  have same : (StorageState.after ⟨later, own⟩ op).remote = later :=
    after_remote_of_target ⟨later, own⟩ reads
  constructor
  · show (catalogRules codec mine allow).guarantee later (StorageState.after ⟨later, own⟩ op).remote
    rw [same]
    exact ⟨.refl codec later, fun _ _ => rfl⟩
  · intro last moves
    have moves : (catalogRules codec mine allow).rely
      (StorageState.after ⟨later, own⟩ op).remote last := moves
    rw [same] at moves
    exact result later moved last moves

end Operations

def Remote.put (remote : Remote) (host : Host) (write : MetadataWrite) : Remote :=
  (StorageState.put ⟨remote, host⟩ write.key write.content).remote

theorem Remote.content_put (remote : Remote) (host : Host) (write : MetadataWrite)
    (key : RemoteKey) :
    (remote.put host write).content key =
      if key = write.key then some write.content else remote.content key :=
  Storage.content_put ⟨remote, host⟩ write.key key write.content

theorem Remote.mem_put {remote : Remote} {host : Host} {write : MetadataWrite} {key : RemoteKey} :
    key ∈ (remote.put host write).objects ↔ key = write.key ∨ key ∈ remote.objects :=
  present_put

/-- What the writes of a batch have to keep, while others write too. -/
structure BatchInv (rules : Rules storageInterface StateError Remote)
    (writes : List MetadataWrite) (inv : Remote → Prop) : Prop where
  reads : ∀ remote, rules.guarantee remote remote
  stable : ∀ before after, rules.rely before after → inv before → inv after
  present : ∀ before after, rules.rely before after → ∀ key, key ∈ before.objects →
    key ∈ after.objects
  writes : ∀ write ∈ writes, ∀ remote host, inv remote →
    rules.guarantee remote (remote.put host write) ∧ inv (remote.put host write)

theorem BatchInv.fewer {rules : Rules storageInterface StateError Remote}
    {writes fewer : List MetadataWrite} {inv : Remote → Prop} (holds : BatchInv rules writes inv)
    (inside : ∀ write ∈ fewer, write ∈ writes) : BatchInv rules fewer inv where
  reads := holds.reads
  stable := holds.stable
  present := holds.present
  writes write member := holds.writes write (inside write member)

theorem BatchInv.and_present {rules : Rules storageInterface StateError Remote}
    {writes : List MetadataWrite} {inv : Remote → Prop} (holds : BatchInv rules writes inv)
    (keys : RemoteKey → Prop) :
    BatchInv rules writes fun remote => inv remote ∧ ∀ key, keys key → key ∈ remote.objects where
  reads := holds.reads
  stable before after moved both :=
    ⟨holds.stable before after moved both.1, fun key wanted =>
      holds.present before after moved key (both.2 key wanted)⟩
  present := holds.present
  writes write member remote host both := by
    obtain ⟨guaranteed, kept⟩ := holds.writes write member remote host both.1
    exact ⟨guaranteed, kept, fun key wanted => Remote.mem_put.mpr (Or.inr (both.2 key wanted))⟩

theorem BatchInv.and_kept {rules : Rules storageInterface StateError Remote}
    {writes : List MetadataWrite} {inv : Remote → Prop} (holds : BatchInv rules writes inv)
    (kept : Remote → Prop)
    (relied : ∀ before after, rules.rely before after → kept before → kept after)
    (guaranteed : ∀ before after, rules.guarantee before after → kept before → kept after) :
    BatchInv rules writes fun remote => inv remote ∧ kept remote where
  reads := holds.reads
  stable before after moved both :=
    ⟨holds.stable before after moved both.1, relied before after moved both.2⟩
  present := holds.present
  writes write member remote host both := by
    obtain ⟨moves, still⟩ := holds.writes write member remote host both.1
    exact ⟨moves, still, guaranteed _ _ moves both.2⟩

/-- A batch on a shared provider, when no call fails: nothing else is written,
and at the end the entries are there. -/
def SharedBatchContract (putBatch : MetadataBatch → StorageProg (List RemoteMeta)) : Prop :=
  ∀ (rules : Rules storageInterface StateError Remote) (batch : MetadataBatch)
    (inv : Remote → Prop), BatchInv rules (batch.entries ++ batch.committed.toList) inv →
    ∀ history shared own, inv shared →
      Safe sharedHandler rules
        (fun _ _ later _ => inv later ∧ ∀ entry ∈ batch.entries, entry.key ∈ later.objects)
        (fun _ _ _ => True) (putBatch batch) history shared own

/-- A provider whose batches are also safe when others use it at the same time. -/
structure SharedProvider extends Provider where
  batch_shared : SharedBatchContract putMetadataBatch

section Batches

variable {rules : Rules storageInterface StateError Remote} {inv : Remote → Prop}
  {history : List (Event storageInterface StateError)} {shared : Remote} {own : Host}

theorem safe_tell_put {writes : List MetadataWrite} (kept : BatchInv rules writes inv)
    {write : MetadataWrite} (member : write ∈ writes) (holds : inv shared) :
    Safe sharedHandler rules
      (fun reply _ later _ => reply = .ok (⟨write.key, write.content.len⟩ : RemoteMeta) ∧
        inv later ∧ write.key ∈ later.objects)
      (fun _ _ _ => True) (tell (.putSmallVersioned write.content write.key)) history shared
      own := by
  intro later moved _
  obtain ⟨guaranteed, still⟩ :=
    kept.writes write member later own (kept.stable shared later moved holds)
  constructor
  · exact guaranteed
  · intro last moves
    have there : write.key ∈ (later.put own write).objects := Remote.mem_put.mpr (Or.inl rfl)
    exact ⟨rfl, kept.stable _ _ moves still, kept.present _ _ moves _ there⟩

theorem safe_ask_put {writes : List MetadataWrite} (kept : BatchInv rules writes inv)
    {write : MetadataWrite} (member : write ∈ writes) (holds : inv shared) :
    Safe sharedHandler rules (fun _ _ later _ => inv later ∧ write.key ∈ later.objects)
      (fun _ _ _ => True) (ask (.putSmallVersioned write.content write.key)) history shared
      own := by
  intro later moved allowed
  obtain ⟨guaranteed, rest⟩ :=
    @safe_tell_put rules inv history shared own writes kept write member holds later moved allowed
  exact ⟨guaranteed, fun last moves => (rest last moves).2⟩

def SharedWrites (put : List MetadataWrite → StorageProg (List RemoteMeta)) : Prop :=
  ∀ (rules : Rules storageInterface StateError Remote) (inv : Remote → Prop)
    (entries : List MetadataWrite), BatchInv rules entries inv →
    ∀ history shared own, inv shared →
      Safe sharedHandler rules
        (fun _ _ later _ => inv later ∧ ∀ entry ∈ entries, entry.key ∈ later.objects)
        (fun _ _ _ => True) (put entries) history shared own

theorem SharedWrites.batch {put : List MetadataWrite → StorageProg (List RemoteMeta)}
    (writes : SharedWrites put) : SharedBatchContract fun batch => do
      let written ← put batch.entries
      let marker ← put batch.committed.toList
      return written ++ marker := by
  intro rules batch inv kept history shared own holds
  apply Safe.bind
  have entries_kept : BatchInv rules batch.entries inv :=
    kept.fewer fun _ => List.mem_append_left _
  apply (writes rules inv batch.entries entries_kept history shared own holds).weaken _
    (fun _ _ _ failed => failed)
  rintro _ history later own ⟨holds, there⟩
  have marker_kept : BatchInv rules batch.committed.toList fun remote => inv remote ∧
      ∀ key, key ∈ batch.entries.map MetadataWrite.key → key ∈ remote.objects :=
    (kept.fewer fun _ => List.mem_append_right _).and_present _
  apply Safe.bind
  apply (writes rules _ batch.committed.toList marker_kept history later own
    ⟨holds, by simpa using there⟩).weaken _ (fun _ _ _ failed => failed)
  rintro _ history later own ⟨both, _⟩ last moves
  have last_holds := marker_kept.stable later last moves both
  exact ⟨last_holds.1, by simpa using last_holds.2⟩

theorem Sequential.putEntries_shared : SharedWrites Sequential.putEntries := by
  intro rules inv entries kept history shared own holds
  induction entries generalizing inv history shared own with
  | nil => exact fun later moved => ⟨kept.stable shared later moved holds, by simp⟩
  | cons entry rest ih =>
      apply Safe.bind
      apply (safe_ask_put kept List.mem_cons_self holds).weaken _ (fun _ _ _ failed => failed)
      rintro _ history later own ⟨holds, there⟩
      have rest_kept := (kept.fewer fun write member => List.mem_cons_of_mem entry member).and_present
        (fun key => key = entry.key)
      apply Safe.bind
      apply (ih _ rest_kept history later own ⟨holds, fun _ same => same ▸ there⟩).weaken _
        (fun _ _ _ failed => failed)
      rintro _ history later own ⟨⟨holds, there⟩, others⟩ last moves
      have last_holds := rest_kept.stable later last moves ⟨holds, there⟩
      refine ⟨last_holds.1, fun other member => ?_⟩
      rcases List.mem_cons.mp member with rfl | inside
      · exact last_holds.2 _ rfl
      · exact kept.present later last moves _ (others other inside)

end Batches

def localStorageShared : SharedProvider where
  toProvider := localStorage
  batch_shared := Sequential.putEntries_shared.batch

/-- What an event says about the contents of `LATEST`: that there is none, or the
local copy of it. -/
def pointerOf : Event storageInterface StateError → Option (Option Content)
  | ⟨.stat key, .ok none⟩ => if key = catalogLatestKey then some none else none
  | ⟨.readLocal _, .ok content⟩ => some (some content)
  | _ => none

/-- The contents of `LATEST` that a run has read, `none` when it found none. -/
def pointerRead (history : List (Event storageInterface StateError)) : Option Content :=
  (history.findSome? pointerOf).join

/-- A run writes `LATEST` only when it still is as the run has read it. -/
def PointerUnchanged (history : List (Event storageInterface StateError)) (op : StorageOp)
    (remote : Remote) : Prop :=
  ∀ content, op = .putSmallVersioned content catalogLatestKey →
    remote.content catalogLatestKey = pointerRead history

section Load

variable {codec : Codec} {mine : Uuid → Prop}
  {allow : List (Event storageInterface StateError) → StorageOp → Remote → Prop}
  {history : List (Event storageInterface StateError)} {shared : Remote} {own : Host}
  {fail : List (Event storageInterface StateError) → Remote → Host → Prop}

theorem fetch_some {remote : Remote} {host : Host} {key : RemoteKey} {dest : String}
    {content : Content} (stored : remote.content key = some content) :
    StorageState.fetch ⟨remote, host⟩ key dest =
      ⟨remote, { host with files := host.files.insert dest content }⟩ := by
  have same : StorageState.content ⟨remote, host⟩ key = some content := stored
  unfold StorageState.fetch
  rw [same]
  rfl

theorem safe_download_read {α : Type} {post : ClientPost α} {key : RemoteKey} {dest : String}
    {next : Except StateError Content → StorageProg α}
    (result : ∀ later, (catalogRules codec mine allow).rely shared later → ∃ content,
      later.content key = some content ∧
      ∀ last host, (catalogRules codec mine allow).rely later last →
        Safe sharedHandler (catalogRules codec mine allow) post fail
          (next (.ok content))
          (history ++ [⟨StorageOp.download key dest, .ok ()⟩] ++
            [⟨StorageOp.readLocal dest, .ok content⟩]) last host) :
    Safe sharedHandler (catalogRules codec mine allow) post fail
      (ask (.download key dest) >>= fun _ => .request (StorageOp.readLocal dest) next) history
      shared own := by
  apply Safe.bind
  apply safe_read rfl
  intro later moved
  obtain ⟨content, stored, holds⟩ := result later moved
  have same : StorageState.content ⟨later, own⟩ key = some content := stored
  refine ⟨(), by simp [StorageState.answer, same, found, Except.map], fun last moves => ?_⟩
  intro third moves_third _
  have copied : (sharedHandler.act (.readLocal dest) (third, (StorageState.after ⟨later, own⟩
      (.download key dest)).host)).1 = .ok content := by
    show found ((StorageState.fetch ⟨later, own⟩ key dest).host.files.lookup dest) = .ok content
    rw [fetch_some stored]
    simp [found]
  refine ⟨⟨.refl codec third, fun _ _ => rfl⟩, ?_⟩
  rw [copied]
  exact holds _ _ (moves.trans moves_third)

theorem safe_fetchCatalogCommit {id : Uuid} {catalog : CatalogDocument}
    (stored : shared.holds codec id catalog) :
    Safe sharedHandler (catalogRules codec mine allow)
      (fun fetched _ later _ => fetched = catalog ∧ Relies codec mine shared later) fail
      (fetchCatalogCommit codec id.text) history shared own := by
  apply safe_download_read
  intro second moved
  refine ⟨_, moved.grows.holds stored, fun third host moves_third => ?_⟩
  apply Safe.bind
  intro fourth moves_fourth
  apply Safe.bind
  apply safe_tell_read rfl
  intro fifth moves_fifth sixth moves_sixth
  rw [decodeCatalog_wrapEnvelope]
  intro last moves_last
  exact ⟨rfl, moved.trans (moves_third.trans (moves_fourth.trans (moves_fifth.trans
    (moves_sixth.trans moves_last))))⟩

structure Loads (codec : Codec) (origin : Remote) (loaded : CatalogDocument)
    (history : List (Event storageInterface StateError)) (remote : Remote) : Prop where
  read : ∃ pointer, history.findSome? pointerOf = some pointer ∧
    (pointer = none ∨ ∃ id base, pointer = some (.text id.text) ∧ remote.holds codec id base ∧
      ∀ record, base.records record → loaded.records record)
  covers : ∀ catalog, origin.head codec catalog →
    ∀ record, catalog.records record → loaded.records record

theorem Loads.later {origin : Remote} {loaded : CatalogDocument} {later : Remote}
    (loads : Loads codec origin loaded history shared) (grows : CatalogGrows codec shared later) :
    Loads codec origin loaded history later where
  covers := loads.covers
  read := by
    obtain ⟨pointer, read, known⟩ := loads.read
    refine ⟨pointer, read, known.imp_right ?_⟩
    rintro ⟨id, base, text, stored, covered⟩
    exact ⟨id, base, text, grows.holds stored, covered⟩

theorem findSome_of_quiet {event : Event storageInterface StateError}
    (unread : history.findSome? pointerOf = none) (quiet : pointerOf event = none) :
    (history ++ [event]).findSome? pointerOf = none := by
  simp [List.findSome?_append, unread, quiet]

theorem findSome_of_told {event : Event storageInterface StateError} {pointer : Option Content}
    (unread : history.findSome? pointerOf = none) (told : pointerOf event = some pointer) :
    (history ++ [event]).findSome? pointerOf = some pointer := by
  simp [List.findSome?_append, unread, told]

theorem findSome_of_read {pointer : Option Content} (event : Event storageInterface StateError)
    (read : history.findSome? pointerOf = some pointer) :
    (history ++ [event]).findSome? pointerOf = some pointer := by
  simp [List.findSome?_append, read]

theorem Loads.append {origin : Remote} {loaded : CatalogDocument}
    (loads : Loads codec origin loaded history shared)
    (event : Event storageInterface StateError) :
    Loads codec origin loaded (history ++ [event]) shared where
  covers := loads.covers
  read := by
    obtain ⟨pointer, read, known⟩ := loads.read
    exact ⟨pointer, findSome_of_read event read, known⟩

theorem safe_emptyCatalog {post : ClientPost CatalogDocument}
    (result : ∀ commit now history' later host, history <+: history' →
      (catalogRules codec mine allow).rely shared later →
      post (CatalogDocument.empty commit now) history' later host) :
    Safe sharedHandler (catalogRules codec mine allow) post fail emptyCatalog
      history shared own := by
  apply Safe.bind
  apply safe_read rfl
  intro second moved
  refine ⟨_, rfl, fun third moves => ?_⟩
  apply Safe.bind
  apply safe_read rfl
  intro fourth moves_fourth
  refine ⟨_, rfl, fun fifth moves_fifth => ?_⟩
  intro last moves_last
  apply result
  · simp
  · exact moved.trans (moves.trans (moves_fourth.trans (moves_fifth.trans moves_last)))

theorem safe_readPointer {catalog : CatalogDocument} (pointed : shared.head codec catalog)
    (unread : history.findSome? pointerOf = none) :
    Safe sharedHandler (catalogRules codec mine allow)
      (fun pointer history' later _ => ∃ id base, pointer = id.text.toList ∧
        history'.findSome? pointerOf = some (some (.text id.text)) ∧ later.holds codec id base ∧
        (∀ record, catalog.records record → base.records record) ∧ Relies codec mine shared later)
      fail readPointer history shared own := by
  apply Safe.bind
  apply safe_read rfl
  intro second moved
  refine ⟨_, rfl, fun third moves => ?_⟩
  apply safe_download_read
  intro fourth moves_fourth
  obtain ⟨base, ⟨id, text, stored⟩, covers⟩ :=
    (moved.grows.trans (moves.grows.trans moves_fourth.grows)).head catalog pointed
  refine ⟨_, text, fun fifth host moves_fifth => ?_⟩
  apply Safe.bind
  intro sixth moves_sixth
  apply Safe.bind
  apply safe_tell_read rfl
  intro seventh moves_seventh eighth moves_eighth last moves_last
  have after_read := moves_fifth.trans (moves_sixth.trans (moves_seventh.trans
    (moves_eighth.trans moves_last)))
  refine ⟨id, base, trim_uuid id, ?_, after_read.grows.holds stored, covers,
    moved.trans (moves.trans (moves_fourth.trans after_read))⟩
  exact findSome_of_read _
    (findSome_of_told (findSome_of_quiet (findSome_of_quiet unread rfl) rfl) rfl)

theorem safe_followPointer {id : Uuid} {catalog : CatalogDocument}
    (stored : shared.holds codec id catalog) :
    Safe sharedHandler (catalogRules codec mine allow)
      (fun loaded _ later _ => loaded = catalog ∧ Relies codec mine shared later)
      fail (followPointer codec id.text.toList) history shared own := by
  unfold followPointer
  rw [if_neg (Uuid.text_ne_nil id), String.ofList_toList]
  apply Safe.bind
  apply Safe.attempt (fun _ _ _ => False) (fun _ _ _ _ failed => failed.elim)
  apply (safe_fetchCatalogCommit stored).weaken _ (fun _ _ _ failed => failed)
  rintro fetched history later own ⟨rfl, relied⟩ last moves
  exact ⟨rfl, relied.trans moves⟩

theorem safe_loadCatalog (readable : shared.readable codec)
    (unread : history.findSome? pointerOf = none) :
    Safe sharedHandler (catalogRules codec mine allow)
      (fun loaded history' later _ => Loads codec shared loaded history' later ∧
        Relies codec mine shared later) fail
      (loadCatalog codec) history shared own := by
  apply Safe.bind
  apply safe_read rfl
  intro second moved
  rcases moved.grows.readable readable with absent | ⟨catalog, id, text, stored⟩
  · have nothing : StorageState.content ⟨second, own⟩ catalogLatestKey = none := absent
    refine ⟨none, by simp [StorageState.answer, nothing], fun third moves => ?_⟩
    apply safe_emptyCatalog
    rintro commit now _ later host ⟨more, rfl⟩ relied
    refine ⟨⟨?_, ?_⟩, moved.trans (moves.trans relied)⟩
    · have told : pointerOf ⟨StorageOp.stat catalogLatestKey, .ok none⟩ = some none := rfl
      refine ⟨none, ?_, Or.inl rfl⟩
      rw [List.findSome?_append, findSome_of_told unread told]
      rfl
    · intro catalog pointed
      obtain ⟨_, ⟨id, text, _⟩, _⟩ := moved.grows.head catalog pointed
      rw [absent] at text
      cases text
  · have there : StorageState.content ⟨second, own⟩ catalogLatestKey = some (.text id.text) := text
    refine ⟨some ⟨catalogLatestKey, (Content.text id.text).len⟩,
      by simp [StorageState.answer, there], fun third moves => ?_⟩
    obtain ⟨current, current_pointed, current_covers⟩ := moves.grows.head catalog ⟨id, text, stored⟩
    apply Safe.bind
    apply (safe_readPointer current_pointed (findSome_of_quiet unread rfl)).weaken _
      (fun _ _ _ failed => failed)
    rintro _ history fourth own ⟨base_id, base, rfl, read, base_stored, base_covers, relied⟩
    apply Safe.bind
    apply ((safe_followPointer base_stored).frame
      (fun history _ => history.findSome? pointerOf = some (some (.text base_id.text)))
      (fun _ _ _ _ known => findSome_of_read _ known) read).weaken _ (fun _ _ _ failed => failed)
    rintro loaded history fifth own ⟨⟨rfl, followed⟩, read⟩ last moves_last
    have since := followed.trans moves_last
    refine ⟨⟨?_, ?_⟩, moved.trans (moves.trans (relied.trans since))⟩
    · refine ⟨_, read, Or.inr ⟨base_id, loaded, rfl, since.grows.holds base_stored, ?_⟩⟩
      exact fun record recorded => (CatalogDocument.records_refreshBundleHeads _ _).mpr recorded
    · intro before pointed record recorded
      obtain ⟨middle, middle_pointed, middle_covers⟩ := moved.grows.head before pointed
      have same : middle = catalog := middle_pointed.unique ⟨id, text, stored⟩
      rw [CatalogDocument.records_refreshBundleHeads]
      exact base_covers record (current_covers record (same ▸ middle_covers record recorded))

end Load

def ownIds (host : Host) (id : Uuid) : Prop := ∃ n, host.drawn ≤ n ∧ host.uuids n = id

section Update

variable {codec : Codec} {mine : Uuid → Prop} {remote : Remote} {host : Host}

theorem mem_put_of_mem (write : MetadataWrite) {key : RemoteKey} (there : key ∈ remote.objects) :
    key ∈ (remote.put host write).objects :=
  Remote.mem_put.mpr (Or.inr there)

theorem grows_put {write : MetadataWrite} (other : write.key ≠ catalogLatestKey)
    (keeps : ∀ id content, write.key = catalogCommitKey id →
      remote.content (catalogCommitKey id) = some content → content = write.content) :
    CatalogGrows codec remote (remote.put host write) := by
  have documents : ∀ id content, remote.content (catalogCommitKey id) = some content →
      (remote.put host write).content (catalogCommitKey id) = some content := by
    intro id content stored
    rw [Remote.content_put]
    split
    · rename_i same
      rw [keeps id content same.symm stored]
    · exact stored
  have pointer : (remote.put host write).content catalogLatestKey =
      remote.content catalogLatestKey := by
    rw [Remote.content_put, if_neg other.symm]
  have head : ∀ catalog, remote.head codec catalog →
      (remote.put host write).head codec catalog := by
    rintro catalog ⟨id, text, stored⟩
    exact ⟨id, pointer.trans text, documents id _ stored⟩
  refine ⟨fun key there => mem_put_of_mem write there, documents, ?_, ?_⟩
  · exact fun catalog pointed => ⟨catalog, head catalog pointed, fun _ recorded => recorded⟩
  · rintro (absent | ⟨catalog, pointed⟩)
    · exact Or.inl (pointer.trans absent)
    · exact Or.inr ⟨catalog, head catalog pointed⟩

theorem grows_latest {id : Uuid} {catalog : CatalogDocument}
    (stored : remote.holds codec id catalog)
    (covers : ∀ before, remote.head codec before →
      ∀ record, before.records record → catalog.records record) :
    CatalogGrows codec remote (remote.put host ⟨catalogLatestKey, .text id.text⟩) ∧
      (remote.put host ⟨catalogLatestKey, .text id.text⟩).head codec catalog := by
  have documents : ∀ other content, remote.content (catalogCommitKey other) = some content →
      (remote.put host ⟨catalogLatestKey, .text id.text⟩).content (catalogCommitKey other) =
        some content := by
    intro other content there
    rw [Remote.content_put, if_neg (latest_ne_catalogCommitKey other).symm]
    exact there
  have pointed : (remote.put host ⟨catalogLatestKey, .text id.text⟩).head codec catalog := by
    refine ⟨id, ?_, documents id _ stored⟩
    rw [Remote.content_put, if_pos rfl]
  exact ⟨⟨fun key there => mem_put_of_mem _ there, documents,
    fun before head => ⟨catalog, pointed, covers before head⟩, fun _ => Or.inr ⟨catalog, pointed⟩⟩,
    pointed⟩

def OwnDocument (codec : Codec) (catalog : CatalogDocument) (remote : Remote) : Prop :=
  remote.content (catalogCommitKey catalog.catalogCommitId) = none ∨
    remote.holds codec catalog.catalogCommitId catalog

theorem batchInv_catalog {allow : List (Event storageInterface StateError) → StorageOp → Remote → Prop}
    {catalog : CatalogDocument} (own : mine catalog.catalogCommitId) :
    BatchInv (catalogRules codec mine allow)
      ((catalogBatch codec catalog).entries ++ (catalogBatch codec catalog).committed.toList)
      (OwnDocument codec catalog) where
  reads remote := ⟨.refl codec remote, fun _ _ => rfl⟩
  stable before after moved holds :=
    holds.imp (fun absent => moved.fresh _ own absent) fun stored => moved.grows.holds stored
  present before after moved := moved.grows.objects
  writes write member remote host holds := by
    have which : write = ⟨catalogCommitKey catalog.catalogCommitId,
          wrapEnvelope codec (.catalog catalog)⟩ ∨
        write = ⟨catalogCommitMarkerKey catalog.catalogCommitId, .text committedMarker⟩ := by
      simpa [catalogBatch] using member
    rcases which with rfl | rfl
    · refine ⟨⟨grows_put (latest_ne_catalogCommitKey _).symm ?_, ?_⟩, Or.inr ?_⟩
      · intro id content same there
        obtain rfl := catalogCommitKey_injective same
        rcases holds with absent | stored
        · rw [absent] at there
          cases there
        · exact Option.some.inj (there.symm.trans stored)
      · intro id other
        have different : catalogCommitKey id ≠ catalogCommitKey catalog.catalogCommitId :=
          fun same => other (catalogCommitKey_injective same ▸ own)
        rw [Remote.content_put, if_neg different]
      · exact (Remote.content_put _ _ _ _).trans (if_pos rfl)
    · have unmoved : ∀ id, (remote.put host ⟨catalogCommitMarkerKey catalog.catalogCommitId,
          .text committedMarker⟩).content (catalogCommitKey id) =
          remote.content (catalogCommitKey id) :=
        fun id => (Remote.content_put _ _ _ _).trans (if_neg (catalogCommitKey_ne_marker id _))
      refine ⟨⟨grows_put (latest_ne_marker _).symm ?_, fun id _ => unmoved id⟩, ?_⟩
      · exact fun id _ same => absurd same.symm (catalogCommitKey_ne_marker id _)
      · unfold OwnDocument Remote.holds
        rw [unmoved]
        exact holds

variable {history : List (Event storageInterface StateError)} {shared : Remote} {own : Host}

theorem safe_writeCatalog (provider : SharedProvider) {origin : Remote}
    {loaded catalog : CatalogDocument} (drawn : mine catalog.catalogCommitId)
    (covers : ∀ record, loaded.records record → catalog.records record)
    (loads : Loads codec origin loaded history shared)
    (absent : shared.content (catalogCommitKey catalog.catalogCommitId) = none) :
    Safe sharedHandler (catalogRules codec mine PointerUnchanged)
      (fun _ _ later _ => ∃ head, later.head codec head ∧
        ∀ record, catalog.records record → head.records record)
      (fun _ _ _ => True) (writeCatalog provider.toProvider codec catalog) history shared own := by
  obtain ⟨pointer, read, known⟩ := loads.read
  have inv : BatchInv (catalogRules codec mine PointerUnchanged) _ (OwnDocument codec catalog) :=
    batchInv_catalog drawn
  have kept := inv.and_kept (CatalogGrows codec shared)
    (fun _ _ moved before => before.trans moved.grows)
    (fun _ _ moved before => before.trans moved.1)
  have batch := provider.batch_shared _ _ _ kept history shared own
    ⟨Or.inl absent, .refl codec shared⟩
  apply Safe.bind
  apply (batch.frame (fun history _ => history.findSome? pointerOf = some pointer)
    (fun _ _ _ _ known => findSome_of_read _ known) read).weaken _ (fun _ _ _ failed => failed)
  rintro _ history second own ⟨⟨⟨document, grows⟩, landed⟩, read⟩
  have stored : second.holds codec catalog.catalogCommitId catalog := by
    have there := landed _ List.mem_cons_self
    rcases document with missing | stored
    · have written : (second.content (catalogCommitKey catalog.catalogCommitId)).isSome = true :=
        (@present_iff_content ⟨second, own⟩ _).mp there
      rw [missing] at written
      cases written
    · exact stored
  apply Safe.bind
  intro third moved allowed
  have unchanged : third.content catalogLatestKey = pointer := by
    rw [allowed _ rfl, pointerRead, read]
    rfl
  have still := moved.grows.holds stored
  have covered : ∀ before, third.head codec before →
      ∀ record, before.records record → catalog.records record := by
    rintro before ⟨id, text, before_stored⟩ record recorded
    rcases known with rfl | ⟨base_id, base, rfl, base_stored, base_covers⟩
    · rw [unchanged] at text
      cases text
    · rw [unchanged] at text
      obtain rfl := Uuid.eq_of_text (Content.text.inj (Option.some.inj text))
      have same := Remote.holds_unique before_stored
        (moved.grows.holds (grows.holds base_stored))
      exact covers record (base_covers record (same ▸ recorded))
  obtain ⟨moves, pointed⟩ := @grows_latest codec third own _ _ still covered
  refine ⟨⟨moves, fun id _ => ?_⟩, ?_⟩
  · have unmoved : (third.put own ⟨catalogLatestKey, .text catalog.catalogCommitId.text⟩).content
        (catalogCommitKey id) = third.content (catalogCommitKey id) := by
      rw [Remote.content_put, if_neg (latest_ne_catalogCommitKey id).symm]
    exact unmoved
  · intro fourth moves_fourth last moves_last
    exact (CatalogGrows.trans moves_fourth.grows moves_last.grows).head catalog pointed

theorem safe_updateCatalog (provider : SharedProvider) (manifest : BundleManifest) (size : Nat)
    (readable : shared.readable codec)
    (fresh : ∀ id, ownIds own id → shared.content (catalogCommitKey id) = none) :
    Safe sharedHandler (catalogRules codec (ownIds own) PointerUnchanged)
      (fun _ _ later _ => ∃ head, later.head codec head ∧
        head.records (manifestRecord manifest))
      (fun _ _ _ => True) (updateCatalogWithBundle provider.toProvider codec manifest size) []
      shared own := by
  apply Safe.bind
  apply safe_read rfl
  intro second moved
  cases stored : StorageState.content ⟨second, own⟩ (bundleMarkerKey manifest) with
  | none =>
      refine ⟨none, by simp [StorageState.answer, stored], fun third moves => ?_⟩
      exact fun _ _ => trivial
  | some content =>
      refine ⟨some ⟨bundleMarkerKey manifest, content.len⟩, by simp [StorageState.answer, stored],
        fun third moves => ?_⟩
      apply Safe.bind
      have third_readable := moves.grows.readable (moved.grows.readable readable)
      apply ((safe_loadCatalog third_readable (findSome_of_quiet rfl rfl)).frame
        (fun _ host => host.uuids = own.uuids ∧ own.drawn ≤ host.drawn) ?later ⟨rfl, le_rfl⟩).weaken _
        (fun _ _ _ failed => failed)
      case later =>
        intro op _ shared host sources
        have step := sourcesLater_after op ⟨shared, host⟩
        exact ⟨step.uuids.trans sources.1, sources.2.trans step.drawn⟩
      rintro loaded history fourth host ⟨⟨loads, relied⟩, uuids, drawn⟩
      apply Safe.bind
      apply safe_read rfl
      intro fifth moves_fifth
      refine ⟨_, rfl, fun sixth moves_sixth => ?_⟩
      apply Safe.bind
      apply safe_read rfl
      intro seventh moves_seventh
      refine ⟨_, rfl, fun eighth moves_eighth => ?_⟩
      have since := moves_fifth.trans (moves_sixth.trans (moves_seventh.trans moves_eighth))
      have commit_own : ownIds own (host.uuids host.drawn) :=
        ⟨host.drawn, drawn, congrFun uuids.symm _⟩
      have absent := (moved.trans (moves.trans (relied.trans since))).fresh _ commit_own
        (fresh _ commit_own)
      apply Safe.bind
      apply (safe_writeCatalog provider _ (fun record recorded => records_updatedCatalog
        (Or.inl recorded)) (((loads.later since.grows).append _).append _) _).weaken _
        (fun _ _ _ failed => failed)
      · rw [updatedCatalog_commit]
        exact commit_own
      · rw [updatedCatalog_commit]
        exact absent
      · rintro _ history ninth host ⟨head, pointed, covers⟩ last moves_last
        obtain ⟨later, later_pointed, later_covers⟩ := moves_last.grows.head head pointed
        exact ⟨later, later_pointed, later_covers _ (covers _
          (records_updatedCatalog (Or.inr rfl)))⟩

end Update

section Clients

variable {ι : Type} [DecidableEq ι]

def updating (provider : SharedProvider) (codec : Codec) (manifest : BundleManifest) (size : Nat)
    (host : Host) : Client storageInterface StateError Host CatalogDocument where
  program := updateCatalogWithBundle provider.toProvider codec manifest size
  history := []
  own := host

/-- Instances about to run one update each, on a shared provider whose `LATEST`,
if there is one, leads to a document. No id is drawn twice. -/
structure Updating (codec : Codec) (manifest : ι → BundleManifest)
    (start : Pool ι storageInterface StateError Remote Host CatalogDocument) : Prop where
  runs : ∀ i, ∃ provider size, start.client i =
    updating provider codec (manifest i) size (start.client i).own
  readable : start.shared.readable codec
  fresh : ∀ i id, ownIds (start.client i).own id →
    start.shared.content (catalogCommitKey id) = none
  distinct : ∀ i j, i ≠ j → ∀ id, ownIds (start.client i).own id → ¬ ownIds (start.client j).own id

def NoneLost (codec : Codec) (manifest : ι → BundleManifest)
    (allow : List (Event storageInterface StateError) → StorageOp → Remote → Prop)
    (start : Pool ι storageInterface StateError Remote Host CatalogDocument) : Prop :=
  ∀ pool, Pool.Reaches sharedHandler (fun _ => allow) start pool →
    (∀ i, ∃ written, (pool.client i).program = .done written) →
    ∀ host, ∃ loaded later,
      (loadCatalog codec).eval sharedHandler (pool.shared, host) = (.ok loaded, later) ∧
      ∀ i, loaded.records (manifestRecord (manifest i))

theorem no_update_lost (codec : Codec) (manifest : ι → BundleManifest)
    (start : Pool ι storageInterface StateError Remote Host CatalogDocument)
    (updates : Updating codec manifest start) :
    NoneLost codec manifest PointerUnchanged start := by
  intro pool reaches returned host
  let rules := fun i => catalogRules codec (ownIds (start.client i).own) PointerUnchanged
  have compatible : ∀ i j, i ≠ j → ∀ before after,
      (rules j).guarantee before after → (rules i).rely before after :=
    fun i j different _ _ keeps => catalogRules_compatible (updates.distinct i j different) keeps
  have safe : ∀ i, Safe sharedHandler (rules i)
      (fun _ _ later _ => ∃ head, later.head codec head ∧ head.records (manifestRecord (manifest i)))
      (fun _ _ _ => True) (start.client i).program (start.client i).history start.shared
      (start.client i).own := by
    intro i
    obtain ⟨provider, size, client⟩ := updates.runs i
    rw [client]
    exact safe_updateCatalog provider (manifest i) size updates.readable (updates.fresh i)
  have readable : pool.shared.readable codec :=
    keep_reaches compatible (fun remote => remote.readable codec)
      (fun _ _ _ keeps before => keeps.1.readable before) reaches safe updates.readable
  have loading : Safe sharedHandler (catalogRules codec (fun _ => False) fun _ _ _ => True)
      (fun loaded history later _ => Loads codec pool.shared loaded history later ∧
        Relies codec (fun _ => False) pool.shared later) (fun _ _ _ => False) (loadCatalog codec) []
      pool.shared host := safe_loadCatalog readable rfl
  obtain ⟨history, result⟩ := loading.eval fun _ _ _ => trivial
  rcases evaluated : (loadCatalog codec).eval sharedHandler (pool.shared, host) with ⟨reply, later⟩
  rw [evaluated] at result
  cases reply with
  | error error => exact result.elim
  | ok loaded =>
      refine ⟨loaded, later, rfl, fun i => ?_⟩
      obtain ⟨written, finished⟩ := returned i
      have done := safe_reaches compatible reaches safe i
      rw [finished] at done
      obtain ⟨head, pointed, recorded⟩ := done pool.shared ((rules i).rely_refl _)
      exact result.1.covers head pointed _ recorded

end Clients

def pointerUnchangedCheck (history : List (Event storageInterface StateError)) (op : StorageOp)
    (remote : Remote) : Bool :=
  match op with
  | .putSmallVersioned _ key => key != catalogLatestKey ||
      remote.content catalogLatestKey == pointerRead history
  | _ => true

theorem pointerUnchangedCheck_sound (history : List (Event storageInterface StateError))
    (op : StorageOp) (remote : Remote) (checked : pointerUnchangedCheck history op remote = true) :
    PointerUnchanged history op remote := by
  rintro content rfl
  simpa [pointerUnchangedCheck] using checked

namespace Sample

def bundleOf (second : Bool) : BundleManifest :=
  if second then { manifest uuidD with bundleId := uuidB } else manifest uuidC

def instanceHost (second : Bool) : Host :=
  host ∅ (fun _ => if second then uuidB else uuidA) fun n => n

def instances : Pool Bool storageInterface StateError Remote Host CatalogDocument where
  shared := (remote.put (instanceHost false) ⟨bundleMarkerKey (bundleOf false), .text committedMarker⟩).put
    (instanceHost true) ⟨bundleMarkerKey (bundleOf true), .text committedMarker⟩
  client i := updating localStorageShared codec (bundleOf i) 0 (instanceHost i)

def turns : List Bool := (List.replicate 9 [false, true]).flatten

def oneAfterAnother : List Bool := List.replicate 9 false ++ List.replicate 14 true

def instancesAfter (order : List Bool) :
    Pool Bool storageInterface StateError Remote Host CatalogDocument :=
  Pool.interleave sharedHandler order instances

theorem instances_blank :
    instances.shared.content catalogLatestKey = none ∧
      instances.shared.content (catalogCommitKey uuidA) = none ∧
      instances.shared.content (catalogCommitKey uuidB) = none := by
  decide +kernel

theorem instances_updating : Updating codec bundleOf instances where
  runs i := ⟨localStorageShared, 0, rfl⟩
  readable := Or.inl instances_blank.1
  fresh := by
    rintro second id ⟨n, _, rfl⟩
    cases second with
    | false => exact instances_blank.2.1
    | true => exact instances_blank.2.2
  distinct := by
    rintro first second different id ⟨n, _, rfl⟩ ⟨m, _, same⟩
    have differ : uuidA ≠ uuidB := by decide
    cases first with
    | false =>
        cases second with
        | false => exact different rfl
        | true => exact differ same.symm
    | true =>
        cases second with
        | false => exact differ same
        | true => exact different rfl

def soleCatalog (second : Bool) : CatalogDocument :=
  updatedCatalog (bundleOf second) 0 (if second then uuidB else uuidA) 1
    (CatalogDocument.empty (if second then uuidB else uuidA) 0)

theorem turns_run :
    Pool.follows sharedHandler (fun _ _ _ _ => true) turns instances = true ∧
      (((instancesAfter turns).client false).program.returned = some (soleCatalog false) ∧
        ((instancesAfter turns).client true).program.returned = some (soleCatalog true)) ∧
      ((loadCatalog codec).eval sharedHandler
        ((instancesAfter turns).shared, instanceHost false)).1 =
        .ok (soleCatalog true).refreshBundleHeads ∧
      ¬ (soleCatalog true).refreshBundleHeads.records (manifestRecord (bundleOf false)) := by
  refine ⟨?_, ⟨?_, ?_⟩, ?_, ?_⟩ <;> decide +kernel

theorem turns_reach :
    Pool.Reaches sharedHandler (fun _ _ _ _ => True) instances (instancesAfter turns) :=
  interleave_reaches (fun _ _ _ _ => true) (fun _ _ _ _ _ => trivial) turns instances turns_run.1

theorem turns_return (second : Bool) :
    ((instancesAfter turns).client second).program.returned = some (soleCatalog second) := by
  cases second with
  | false => exact turns_run.2.1.1
  | true => exact turns_run.2.1.2

theorem oneAfterAnother_run :
    Pool.follows sharedHandler (fun _ => pointerUnchangedCheck) oneAfterAnother instances = true ∧
      ((instancesAfter oneAfterAnother).client false).program.returned =
        some (soleCatalog false) ∧
      ((instancesAfter oneAfterAnother).client true).program.returned =
        some (updatedCatalog (bundleOf true) 0 uuidB 0 (soleCatalog false).refreshBundleHeads) := by
  refine ⟨?_, ?_, ?_⟩ <;> decide +kernel

theorem oneAfterAnother_reach :
    Pool.Reaches sharedHandler (fun _ => PointerUnchanged) instances
      (instancesAfter oneAfterAnother) := by
  refine interleave_reaches (fun _ => pointerUnchangedCheck) ?_ oneAfterAnother instances ?_
  · exact fun _ history op remote => pointerUnchangedCheck_sound history op remote
  · exact oneAfterAnother_run.1

theorem oneAfterAnother_return (second : Bool) :
    ((instancesAfter oneAfterAnother).client second).program.returned =
      some (if second then updatedCatalog (bundleOf true) 0 uuidB 0
        (soleCatalog false).refreshBundleHeads else soleCatalog false) := by
  cases second with
  | false => exact oneAfterAnother_run.2.1
  | true => exact oneAfterAnother_run.2.2

end Sample

/-- Two instances that take turns both read that there is no `LATEST`; the one
that writes it last drops the other's bundle. -/
theorem update_lost_in_turns :
    ¬ NoneLost Sample.codec Sample.bundleOf (fun _ _ _ => True) Sample.instances := by
  intro none_lost
  have reaches : Pool.Reaches sharedHandler (fun _ _ _ _ => True) Sample.instances
      (Sample.instancesAfter Sample.turns) := Sample.turns_reach
  obtain ⟨loaded, later, evaluated, recorded⟩ := none_lost _ reaches
    (fun second => ⟨_, Prog.eq_done_of_returned (Sample.turns_return second)⟩)
    (Sample.instanceHost false)
  have same : loaded = (Sample.soleCatalog true).refreshBundleHeads := by
    have reply := congrArg Prod.fst evaluated
    rw [Sample.turns_run.2.2.1] at reply
    exact (Except.ok.inj reply).symm
  have kept := recorded false
  rw [same] at kept
  exact Sample.turns_run.2.2.2 kept

theorem no_update_lost_one_after_another :
    NoneLost Sample.codec Sample.bundleOf PointerUnchanged Sample.instances ∧
    ∃ pool, Pool.Reaches sharedHandler (fun _ => PointerUnchanged) Sample.instances pool ∧
      ∀ second, ∃ written, (pool.client second).program = .done written := by
  refine ⟨no_update_lost Sample.codec Sample.bundleOf Sample.instances Sample.instances_updating,
    Sample.instancesAfter Sample.oneAfterAnother, Sample.oneAfterAnother_reach, ?_⟩
  exact fun second => ⟨_, Prog.eq_done_of_returned (Sample.oneAfterAnother_return second)⟩

end Noland.Storage
