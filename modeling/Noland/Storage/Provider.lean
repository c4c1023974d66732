import Mathlib.Data.List.AList
import Noland.Lib.Requests
import Noland.Lib.Text
import Noland.Storage.Catalog

/-!
The operations that the storage functions request, and their effect on the state. A provider call
writes one object or none, existing objects are never removed, and the order of a listing is the
provider's own. Sealing, serialisation and hashing are represented by what they produce.
-/

namespace Noland.Storage

open Noland.Core Noland.Requests

abbrev RemoteKey := String

inductive Document where
  | packIndex (entries : List PackIndexEntry)
  | manifest (manifest : BundleManifest)
  | catalog (catalog : CatalogDocument)
  deriving DecidableEq

/-- What the code obtains from the master key, the serialisers and the hash. -/
structure Codec where
  keyId : Nat
  sealedLen : Document → Nat
  manifestHash : BundleManifest → String

inductive Content where
  | raw (size : Nat)
  | text (value : String)
  | sealed (keyId : Nat) (document : Document) (size : Nat)
  deriving DecidableEq

def Content.len : Content → Nat
  | .raw size => size
  | .text value => value.utf8ByteSize
  | .sealed _ _ size => size

def wrapEnvelope (codec : Codec) (document : Document) : Content :=
  .sealed codec.keyId document (codec.sealedLen document)

def unwrapEnvelope (codec : Codec) : Content → Except StateError Document
  | .sealed keyId document _ =>
      if keyId = codec.keyId then .ok document else .error (.integrity "decrypt failed")
  | _ => .error (.integrity "invalid envelope")

structure RemoteMeta where
  key : RemoteKey
  size : Nat
  deriving DecidableEq

structure RemoteEntry where
  key : RemoteKey
  size : Nat
  deriving DecidableEq

structure ImmutableUpload where
  path : String
  key : RemoteKey
  deriving DecidableEq

structure MetadataWrite where
  key : RemoteKey
  content : Content
  deriving DecidableEq

/-- Providers must finish every write of `entries` before `committed`. -/
structure MetadataBatch where
  entries : List MetadataWrite
  committed : Option MetadataWrite
  deriving DecidableEq

inductive ContentObjectKind where
  | file
  | chunk
  | pack
  | manifest
  | other
  deriving DecidableEq

inductive SyncDirection where
  | upload
  | download
  deriving DecidableEq

inductive SyncJournalState where
  | pending
  | inProgress
  | retryScheduled
  | completed
  | failed
  | skipped
  deriving DecidableEq

structure SyncJournalEntry where
  itemKind : ContentObjectKind
  direction : SyncDirection
  state : SyncJournalState := .pending
  localPath : Option String := none
  remotePath : Option String := none
  size : Option Nat := none
  attempts : Nat := 0
  bytesTransferred : Nat := 0
  lastError : Option StateError := none
  deriving DecidableEq

inductive CommitVisibility where
  | pending
  | uploading
  | committed
  | failed
  deriving DecidableEq

/-- A row of `bundle_commits`. -/
structure CommitRow where
  commitId : Uuid
  appId : AppId
  bundleId : Uuid
  manifestHash : String
  cloudPath : Option String
  state : CommitVisibility
  deriving DecidableEq

/-- `ON CONFLICT(commit_id)` keeps the app, the bundle and the hash of the
first row. -/
def recordCommit (rows : List CommitRow) (row : CommitRow) : List CommitRow :=
  if rows.any fun known => known.commitId = row.commitId then
    rows.map fun known =>
      if known.commitId = row.commitId then
        { known with state := row.state, cloudPath := row.cloudPath.or known.cloudPath }
      else known
  else rows ++ [row]

/-- An object with the commit call that wrote it; `none` stands for an object
that was there before. -/
structure Stored where
  content : Content
  writer : Option Nat := none
  deriving DecidableEq

structure Remote where
  objects : AList fun _ : RemoteKey => Stored
  arrange : List RemoteEntry → List RemoteEntry
  arrange_perm : ∀ entries, (arrange entries).Perm entries

/-- The machine that runs the agent: its files, the tables of its database that
the storage functions write, and its sources of ids and time. `call` counts the
commit calls it has made. -/
structure Host where
  files : AList fun _ : String => Content
  journal : AList fun _ : Uuid × RemoteKey => SyncJournalEntry
  uploads : List (Uuid × RemoteKey)
  commits : List CommitRow
  uuids : Nat → Uuid
  clock : Nat → Timestamp
  drawn : Nat
  ticks : Nat
  call : Nat

structure StorageState where
  remote : Remote
  host : Host

namespace StorageState

def present (state : StorageState) (key : RemoteKey) : Prop := key ∈ state.remote.objects

def content (state : StorageState) (key : RemoteKey) : Option Content :=
  (state.remote.objects.lookup key).map Stored.content

def put (state : StorageState) (key : RemoteKey) (content : Content) : StorageState :=
  { state with
    remote := { state.remote with
      objects := state.remote.objects.insert key ⟨content, some state.host.call⟩ } }

/-- `upload_immutable` keeps an object that is already there. -/
def upload (state : StorageState) (path : String) (key : RemoteKey) : StorageState :=
  match state.content key, state.host.files.lookup path with
  | none, some content => state.put key content
  | _, _ => state

def withHost (state : StorageState) (host : Host) : StorageState := { state with host := host }

def withFiles (state : StorageState) (files : AList fun _ : String => Content) :
    StorageState :=
  state.withHost { state.host with files := files }

def withJournal (state : StorageState)
    (journal : AList fun _ : Uuid × RemoteKey => SyncJournalEntry) : StorageState :=
  state.withHost { state.host with journal := journal }

def fetch (state : StorageState) (key : RemoteKey) (dest : String) : StorageState :=
  match state.content key with
  | none => state
  | some content => state.withFiles (state.host.files.insert dest content)

/-- An `UPDATE` of one journal row; a missing row is left missing. -/
def updateJournal (state : StorageState) (operation : Uuid) (key : RemoteKey)
    (change : SyncJournalEntry → SyncJournalEntry) : StorageState :=
  match state.host.journal.lookup (operation, key) with
  | none => state
  | some entry => state.withJournal (state.host.journal.insert (operation, key) (change entry))

end StorageState

inductive StorageOp where
  | ensureRoot
  | stat (key : RemoteKey)
  | uploadImmutable (path : String) (key : RemoteKey)
  | download (key : RemoteKey) (dest : String)
  | listPrefix (folder : RemoteKey)
  | putSmallVersioned (content : Content) (key : RemoteKey)
  | localLen (path : String)
  | readLocal (path : String)
  | removeLocal (path : String)
  | stageLocal (path : String)
  | stageBytes (content : Content)
  | getJournal (operation : Uuid) (key : RemoteKey)
  | upsertJournal (operation : Uuid) (key : RemoteKey) (entry : SyncJournalEntry)
  | setJournalState (operation : Uuid) (key : RemoteKey) (state : SyncJournalState)
      (lastError : Option StateError)
  | raiseJournalBytes (operation : Uuid) (key : RemoteKey) (bytes : Nat)
  | fillJournalSize (operation : Uuid) (key : RemoteKey) (size : Nat)
  | operationProgress (operation : Uuid)
  | journalPut (commit : Uuid) (key : RemoteKey)
  | recordCommit (row : CommitRow)
  | newUuid
  | utcNow

def StorageOp.Ret : StorageOp → Type
  | .stat _ => Option RemoteMeta
  | .uploadImmutable _ _ | .putSmallVersioned _ _ => RemoteMeta
  | .listPrefix _ => List RemoteEntry
  | .localLen _ => Nat
  | .readLocal _ => Content
  | .getJournal _ _ => Option SyncJournalEntry
  | .newUuid => Uuid
  | .utcNow => Timestamp
  | _ => Unit

def storageInterface : Interface := { Op := StorageOp, Ret := StorageOp.Ret }

abbrev StorageProg := Prog storageInterface StateError

def underFolder (folder key : RemoteKey) : Bool :=
  (folder.toList ++ ['/']).isPrefixOf key.toList

def Remote.list (remote : Remote) (folder : RemoteKey) : List RemoteEntry :=
  remote.arrange ((remote.objects.entries.filter fun entry => underFolder folder entry.1).map
    fun entry => ⟨entry.1, entry.2.content.len⟩)

/-- `attempts` grows when a row enters `IN_PROGRESS` from another state. -/
def SyncJournalEntry.enter (entry : SyncJournalEntry) (state : SyncJournalState)
    (lastError : Option StateError) : SyncJournalEntry :=
  { entry with
    state := state
    attempts :=
      if state = .inProgress ∧ entry.state ≠ .inProgress then entry.attempts + 1
      else entry.attempts
    lastError := lastError }

def StorageState.after (state : StorageState) : StorageOp → StorageState
  | .uploadImmutable path key => state.upload path key
  | .download key dest => state.fetch key dest
  | .putSmallVersioned content key => state.put key content
  | .removeLocal path => state.withFiles (state.host.files.erase path)
  | .upsertJournal operation key entry =>
      state.withJournal (state.host.journal.insert (operation, key) entry)
  | .setJournalState operation key entered lastError =>
      state.updateJournal operation key fun entry => entry.enter entered lastError
  | .raiseJournalBytes operation key bytes =>
      state.updateJournal operation key fun entry =>
        { entry with bytesTransferred := max entry.bytesTransferred bytes }
  | .fillJournalSize operation key size =>
      state.updateJournal operation key fun entry =>
        { entry with size := entry.size.or (some size) }
  | .journalPut commit key => state.withHost
      { state.host with uploads := state.host.uploads ++ [(commit, key)] }
  | .recordCommit row => state.withHost
      { state.host with commits := Storage.recordCommit state.host.commits row }
  | .newUuid => state.withHost { state.host with drawn := state.host.drawn + 1 }
  | .utcNow => state.withHost { state.host with ticks := state.host.ticks + 1 }
  | _ => state

def found {α : Type} : Option α → Except StateError α
  | some value => .ok value
  | none => .error (.io .notFound)

def StorageState.answer (state : StorageState) : (op : StorageOp) → Except StateError op.Ret
  | .ensureRoot => .ok ()
  | .stat key => .ok ((state.content key).map fun content => (⟨key, content.len⟩ : RemoteMeta))
  | .uploadImmutable path key =>
      (found ((state.content key).or (state.host.files.lookup path))).map fun content =>
        (⟨key, content.len⟩ : RemoteMeta)
  | .download key _ => (found (state.content key)).map fun _ => ()
  | .listPrefix folder => .ok (state.remote.list folder)
  | .putSmallVersioned content key => .ok (⟨key, content.len⟩ : RemoteMeta)
  | .localLen path => (found (state.host.files.lookup path)).map Content.len
  | .readLocal path => found (state.host.files.lookup path)
  | .stageLocal path => (found (state.host.files.lookup path)).map fun _ => ()
  | .getJournal operation key => .ok (state.host.journal.lookup (operation, key))
  | .newUuid => .ok (state.host.uuids state.host.drawn)
  | .utcNow => .ok (state.host.clock state.host.ticks)
  | .removeLocal _ | .stageBytes _ | .upsertJournal _ _ _ | .setJournalState _ _ _ _
  | .raiseJournalBytes _ _ _ | .fillJournalSize _ _ _ | .operationProgress _ | .journalPut _ _
  | .recordCommit _ => .ok ()

def storageHandler : Handler storageInterface StateError StorageState where
  act op state := (state.answer op, state.after op)
  internal
    | .newUuid | .utcNow => true
    | _ => false

abbrev StorageConfig := Config storageInterface StateError StorageState

@[simp] theorem present_put {state : StorageState} {key other : RemoteKey} {content : Content} :
    (state.put key content).present other ↔ other = key ∨ state.present other := by
  simp [StorageState.present, StorageState.put, AList.mem_insert]

theorem present_iff_content {state : StorageState} {key : RemoteKey} :
    state.present key ↔ (state.content key).isSome = true := by
  simp [StorageState.present, StorageState.content, AList.lookup_isSome]

theorem upload_cases (state : StorageState) (path : String) (key : RemoteKey) :
    state.upload path key = state ∨ ∃ content, state.upload path key = state.put key content := by
  unfold StorageState.upload
  split
  · exact Or.inr ⟨_, rfl⟩
  · exact Or.inl rfl

theorem present_upload {state : StorageState} {path : String} {key : RemoteKey}
    {written : RemoteMeta} (answered : state.answer (.uploadImmutable path key) = .ok written) :
    (state.upload path key).present key := by
  have there := @present_iff_content state key
  unfold StorageState.upload
  cases old : state.content key with
  | some content =>
      rw [old] at there
      simpa using there
  | none =>
      cases file : state.host.files.lookup path with
      | some content => simp
      | none => simp [StorageState.answer, old, file, found, Except.map] at answered

@[simp] theorem fetch_remote (state : StorageState) (key : RemoteKey) (dest : String) :
    (state.fetch key dest).remote = state.remote := by
  unfold StorageState.fetch
  split <;> rfl

@[simp] theorem updateJournal_remote (state : StorageState) (operation : Uuid)
    (key : RemoteKey) (change : SyncJournalEntry → SyncJournalEntry) :
    (state.updateJournal operation key change).remote = state.remote := by
  unfold StorageState.updateJournal
  split <;> rfl

/-- The operations that may add an object, with the key they write. -/
def StorageOp.target : StorageOp → Option RemoteKey
  | .uploadImmutable _ key => some key
  | .putSmallVersioned _ key => some key
  | _ => none

theorem after_remote_of_target {op : StorageOp} (state : StorageState)
    (reads : op.target = none) : (state.after op).remote = state.remote := by
  cases op with
  | uploadImmutable path key | putSmallVersioned content key => cases reads
  | _ => first | rfl | simp [StorageState.after]

theorem present_after {op : StorageOp} {state : StorageState} {key : RemoteKey}
    (there : state.present key) : (state.after op).present key := by
  cases op with
  | uploadImmutable path target =>
      show (state.upload path target).present key
      rcases upload_cases state path target with same | ⟨content, same⟩
      · rw [same]
        exact there
      · rw [same]
        exact present_put.mpr (Or.inr there)
  | putSmallVersioned content target => exact present_put.mpr (Or.inr there)
  | _ =>
      unfold StorageState.present
      rw [after_remote_of_target state rfl]
      exact there

/-- Operations that write neither an object nor a journal row. -/
def StorageOp.plain : StorageOp → Bool
  | .uploadImmutable _ _ | .putSmallVersioned _ _ | .upsertJournal _ _ _
  | .setJournalState _ _ _ _ | .raiseJournalBytes _ _ _ | .fillJournalSize _ _ _ => false
  | _ => true

def IgnoresFiles (inv : StorageState → Prop) : Prop :=
  ∀ state host, host.journal = state.host.journal → host.call = state.host.call →
    inv state → inv (state.withHost host)

theorem IgnoresFiles.after {inv : StorageState → Prop} (ignores : IgnoresFiles inv)
    {op : StorageOp} (plain : op.plain = true) {state : StorageState} (holds : inv state) :
    inv (state.after op) := by
  cases op with
  | uploadImmutable path key | putSmallVersioned content key | upsertJournal operation key entry
  | setJournalState operation key entered lastError | raiseJournalBytes operation key bytes
  | fillJournalSize operation key size => cases plain
  | download key dest =>
      show inv (state.fetch key dest)
      unfold StorageState.fetch
      split
      · exact holds
      · exact ignores _ _ rfl rfl holds
  | removeLocal path | journalPut commit key | recordCommit row | newUuid | utcNow =>
      exact ignores _ _ rfl rfl holds
  | _ => exact holds

theorem IgnoresFiles.and {left right : StorageState → Prop} (first : IgnoresFiles left)
    (second : IgnoresFiles right) : IgnoresFiles fun state => left state ∧ right state :=
  fun state host journal call holds =>
    ⟨first state host journal call holds.1, second state host journal call holds.2⟩

def ask (op : StorageOp) : StorageProg op.Ret :=
  @Prog.perform storageInterface StateError op

theorem spec_ask {op : StorageOp} {pre exit : StorageState → Prop}
    {post : op.Ret → StorageState → Prop} (stops : ∀ state, pre state → exit state)
    (succeeds : ∀ state value, pre state → state.answer op = .ok value →
      post value (state.after op))
    (fails : ∀ state, pre state → exit (state.after op)) :
    Spec storageHandler pre (ask op) post exit :=
  @Spec.perform storageInterface StateError StorageState storageHandler pre exit op post
    stops succeeds fails

def tell (op : StorageOp) : StorageProg (Except StateError op.Ret) :=
  @Prog.observe storageInterface StateError op

theorem spec_ask_plain {inv : StorageState → Prop} (ignores : IgnoresFiles inv)
    {op : StorageOp} (plain : op.plain = true) :
    Spec storageHandler inv (ask op) (fun _ => inv) inv :=
  spec_ask (fun _ holds => holds) (fun _ _ holds _ => ignores.after plain holds)
    (fun _ holds => ignores.after plain holds)

end Noland.Storage
