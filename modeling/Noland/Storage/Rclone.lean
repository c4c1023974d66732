import Mathlib.Data.List.Dedup
import Noland.Storage.Upload

/-!
A bulk upload looks at what is there, folder by folder, and copies the rest from a staging
directory, one command for a chunk of the files; a batch stages its entries in the same way, with
the marker in a command of its own.
-/

namespace Noland.Storage

open Noland.Core Noland.Requests

/-- The limits of a chunk, the orders that hash maps and commands take, and the numbers of bytes
that a command reports while it copies a file. -/
structure Rclone where
  maxBulkFiles : Nat
  maxBulkBytes : Nat
  normalized : 0 < maxBulkFiles
  groupOrder : List (String × List ImmutableUpload) → List (String × List ImmutableUpload)
  groupOrder_perm : ∀ groups, (groupOrder groups).Perm groups
  copyOrder : List ImmutableUpload → List ImmutableUpload
  copyOrder_perm : ∀ uploads, (copyOrder uploads).Perm uploads
  writeOrder : List MetadataWrite → List MetadataWrite
  writeOrder_perm : ∀ entries, (writeOrder entries).Perm entries
  statistics : RemoteKey → List Nat

def validateRemoteKey (key : RemoteKey) : Except StateError Unit :=
  if key.toList.all Char.isWhitespace ∨ key.toList.head? = some '/' ∨
      key.toList.head? = some '\\' ∨ ".." ∈ key.splitOn "/" then .error (.unsafePath key)
  else .ok ()

structure RemoteKnownComparison where
  known : List RemoteMeta := []
  missing : List ImmutableUpload := []
  sizeConflicts : List (RemoteKey × Nat × Nat) := []

def RemoteKnownComparison.extend (left right : RemoteKnownComparison) : RemoteKnownComparison :=
  { known := left.known ++ right.known
    missing := left.missing ++ right.missing
    sizeConflicts := left.sizeConflicts ++ right.sizeConflicts }

def compareSize (upload : ImmutableUpload) (localSize : Nat) : Option Nat → RemoteKnownComparison
  | some remoteSize =>
      if remoteSize = localSize then { known := [⟨upload.key, remoteSize⟩] }
      else { sizeConflicts := [(upload.key, localSize, remoteSize)] }
  | none => { missing := [upload] }

def compareKnownMap (entries : List RemoteEntry) :
    List RemoteKey → List ImmutableUpload → StorageProg RemoteKnownComparison
  | _, [] => .done {}
  | seen, upload :: rest => do
      Prog.ofExcept (validateRemoteKey upload.key)
      if upload.key ∈ seen then
        .throw (.invalid ("duplicate immutable upload key: " ++ upload.key))
      else do
        let localSize : Nat ← ask (.localLen upload.path)
        let others ← compareKnownMap entries (upload.key :: seen) rest
        .done ((compareSize upload localSize
          ((entries.find? fun entry => entry.key = upload.key).map RemoteEntry.size)).extend others)

def compareRemoteKnown (folder : RemoteKey) (uploads : List ImmutableUpload) :
    StorageProg RemoteKnownComparison := do
  let entries : List RemoteEntry ← ask (.listPrefix folder)
  compareKnownMap entries [] uploads

def compareGroup (folder : RemoteKey) : List ImmutableUpload → StorageProg RemoteKnownComparison
  | [upload] =>
      if upload.key = folder then do
        let localSize : Nat ← ask (.localLen upload.path)
        let remote : Option RemoteMeta ← ask (.stat upload.key)
        .done (compareSize upload localSize (remote.map RemoteMeta.size))
      else compareRemoteKnown folder [upload]
  | uploads => compareRemoteKnown folder uploads

def compareGroups : List (String × List ImmutableUpload) → StorageProg RemoteKnownComparison
  | [] => .done {}
  | group :: rest => do
      let here ← compareGroup group.1 group.2
      let others ← compareGroups rest
      .done (here.extend others)

def topFolder (key : RemoteKey) : String := (key.splitOn "/").headD key

def groupsOf (uploads : List ImmutableUpload) : List (String × List ImmutableUpload) :=
  (uploads.map fun upload => topFolder upload.key).dedup.map fun folder =>
    (folder, uploads.filter fun upload => topFolder upload.key = folder)

def notifyKnown (observer : Option ImmutableUploadObserver) (known : List ImmutableUpload) :
    StorageProg Unit :=
  if known = [] then .done ()
  else notify observer fun listener => listener.completed known .reusedRemote

def conflictText (conflict : RemoteKey × Nat × Nat) : String :=
  conflict.1 ++ " (local " ++ toString conflict.2.1 ++ ", remote " ++ toString conflict.2.2 ++ ")"

/-- The last bytes written under a key are the ones that stay staged. -/
def staged : List MetadataWrite → List MetadataWrite
  | [] => []
  | entry :: rest =>
      if rest.any fun other => other.key = entry.key then staged rest else entry :: staged rest

namespace Rclone

variable (rclone : Rclone)

def takeChunk : Nat → Nat → List ImmutableUpload →
    StorageProg (List ImmutableUpload × List ImmutableUpload)
  | _, _, [] => .done ([], [])
  | count, bytes, upload :: rest =>
      if rclone.maxBulkFiles ≤ count then .done ([], upload :: rest)
      else do
        let size : Nat ← ask (.localLen upload.path)
        if 0 < count ∧ rclone.maxBulkBytes < saturatingAdd bytes size then
          .done ([], upload :: rest)
        else do
          let chunk ← takeChunk (count + 1) (saturatingAdd bytes size) rest
          .done (upload :: chunk.1, chunk.2)

/-- One command copies the files in its own order and prints statistics while it does. -/
def copyStaged (observer : Option ImmutableUploadObserver) (chunk : List ImmutableUpload) :
    StorageProg Unit := do
  Prog.forEach chunk fun upload => ask (.stageLocal upload.path)
  notify observer ImmutableUploadObserver.transferStarted
  Prog.forEach (rclone.copyOrder chunk) fun upload => do
    let _ ← ask (.uploadImmutable upload.path upload.key)
    Prog.forEach (rclone.statistics upload.key) fun bytes =>
      notify observer fun listener => listener.transferProgress bytes

def readMetas : List ImmutableUpload → StorageProg (List RemoteMeta)
  | [] => .done []
  | upload :: rest => do
      let size : Nat ← ask (.localLen upload.path)
      let others ← readMetas rest
      .done (⟨upload.key, size⟩ :: others)

def uploadChunks (observer : Option ImmutableUploadObserver) :
    Nat → List ImmutableUpload → StorageProg (List RemoteMeta)
  | 0, _ => .done []
  | _, [] => .done []
  | turns + 1, missing => do
      let chunk ← rclone.takeChunk 0 0 missing
      rclone.copyStaged observer chunk.1
      notify observer fun listener => listener.completed chunk.1 .uploaded
      let metas ← readMetas chunk.1
      let others ← uploadChunks observer turns chunk.2
      .done (metas ++ others)

def uploadImmutableBulkObserved (uploads : List ImmutableUpload)
    (observer : Option ImmutableUploadObserver) : StorageProg (List RemoteMeta) :=
  if uploads = [] then .done []
  else do
    Prog.forEach uploads fun upload => Prog.ofExcept (validateRemoteKey upload.key)
    let comparison ← compareGroups (rclone.groupOrder (groupsOf uploads))
    if comparison.sizeConflicts ≠ [] then
      .throw (.conflict ("immutable remote objects differ: " ++
        String.intercalate ", " (comparison.sizeConflicts.map conflictText)))
    else do
      notifyKnown observer (uploads.filter fun upload =>
        comparison.known.any fun found => found.key = upload.key)
      let metas ← rclone.uploadChunks observer comparison.missing.length comparison.missing
      Prog.ofExcept (uploads.mapM fun upload =>
        match (comparison.known ++ metas).find? fun found => found.key = upload.key with
        | some found => .ok found
        | none => .error (.storage ("bulk upload produced no result for " ++ upload.key)))

/-- `put_metadata_entries`. -/
def putMetadataEntries : Nat → List MetadataWrite → StorageProg (List RemoteMeta)
  | 0, _ => .done []
  | _, [] => .done []
  | turns + 1, entries => do
      Prog.forEach (entries.take rclone.maxBulkFiles) fun entry => do
        Prog.ofExcept (validateRemoteKey entry.key)
        ask (.stageBytes entry.content)
      Prog.forEach (rclone.writeOrder (staged (entries.take rclone.maxBulkFiles))) fun entry => do
        let _ ← ask (.putSmallVersioned entry.content entry.key)
        .done ()
      let others ← putMetadataEntries turns (entries.drop rclone.maxBulkFiles)
      .done ((entries.take rclone.maxBulkFiles).map (fun entry =>
        ⟨entry.key, entry.content.len⟩) ++ others)

def putMetadataBatch (batch : MetadataBatch) : StorageProg (List RemoteMeta) := do
  let written ← rclone.putMetadataEntries batch.entries.length batch.entries
  let marker ← rclone.putMetadataEntries batch.committed.toList.length batch.committed.toList
  return written ++ marker

end Rclone

section Comparing

variable {inv : StorageState → Prop} (ignores : IgnoresFiles inv)

/-- An upload is found, left to be copied, or in conflict. -/
structure Compared (uploads : List ImmutableUpload) (comparison : RemoteKnownComparison) :
    Prop where
  covered : ∀ upload ∈ uploads, (∃ found ∈ comparison.known, found.key = upload.key) ∨
    upload ∈ comparison.missing ∨ comparison.sizeConflicts ≠ []
  missing : ∀ upload ∈ comparison.missing, upload ∈ uploads

def Shows (comparison : RemoteKnownComparison) (state : StorageState) : Prop :=
  ∀ found ∈ comparison.known, state.present found.key

theorem Compared.nil : Compared [] {} := ⟨nofun, nofun⟩

theorem Compared.append {left right : List ImmutableUpload} {one two : RemoteKnownComparison}
    (first : Compared left one) (second : Compared right two) :
    Compared (left ++ right) (one.extend two) where
  covered upload member := by
    rcases List.mem_append.mp member with here | there
    · rcases first.covered upload here with ⟨found, known, same⟩ | missing | conflicts
      · exact Or.inl ⟨found, List.mem_append_left _ known, same⟩
      · exact Or.inr (Or.inl (List.mem_append_left _ missing))
      · exact Or.inr (Or.inr (List.append_ne_nil_of_left_ne_nil conflicts _))
    · rcases second.covered upload there with ⟨found, known, same⟩ | missing | conflicts
      · exact Or.inl ⟨found, List.mem_append_right _ known, same⟩
      · exact Or.inr (Or.inl (List.mem_append_right _ missing))
      · exact Or.inr (Or.inr (List.append_ne_nil_of_right_ne_nil _ conflicts))
  missing upload member := by
    rcases List.mem_append.mp member with here | there
    · exact List.mem_append_left _ (first.missing upload here)
    · exact List.mem_append_right _ (second.missing upload there)

theorem Shows.append {one two : RemoteKnownComparison} {state : StorageState}
    (first : Shows one state) (second : Shows two state) : Shows (one.extend two) state := by
  intro found member
  exact (List.mem_append.mp member).elim (first found) (second found)

theorem compared_size (upload : ImmutableUpload) (localSize : Nat) (remote : Option Nat) :
    Compared [upload] (compareSize upload localSize remote) := by
  unfold compareSize
  split
  · split
    · exact ⟨fun other member => Or.inl
        ⟨_, List.mem_singleton_self _, by rw [List.mem_singleton.mp member]⟩, nofun⟩
    · exact ⟨fun _ _ => Or.inr (Or.inr (List.cons_ne_nil _ _)), nofun⟩
  · exact ⟨fun _ member => Or.inr (Or.inl member), fun _ member => member⟩

theorem shows_size {upload : ImmutableUpload} {localSize : Nat} {remote : Option Nat}
    {state : StorageState} (there : remote.isSome → state.present upload.key) :
    Shows (compareSize upload localSize remote) state := by
  unfold compareSize
  split
  · split
    · intro found member
      rw [List.mem_singleton.mp member]
      exact there rfl
    · exact nofun
  · exact nofun

theorem spec_ofExcept {α : Type} {pre : StorageState → Prop} {result : Except StateError α}
    (holds : ∀ state, pre state → inv state) :
    Spec storageHandler pre (Prog.ofExcept result) (fun _ => pre) inv := by
  cases result with
  | ok value => exact Spec.done fun _ before => before
  | error error => exact Spec.throw holds

include ignores

theorem spec_compareKnownMap (entries : List RemoteEntry) (seen : List RemoteKey)
    (uploads : List ImmutableUpload) :
    Spec storageHandler (fun state => inv state ∧ ∀ entry ∈ entries, state.present entry.key)
      (compareKnownMap entries seen uploads)
      (fun comparison state => (inv state ∧ ∀ entry ∈ entries, state.present entry.key) ∧
        Compared uploads comparison ∧ Shows comparison state) inv := by
  have still : IgnoresFiles fun state => inv state ∧ ∀ entry ∈ entries, state.present entry.key :=
    ignores.and fun _ _ _ _ there => there
  induction uploads generalizing seen with
  | nil => exact Spec.done fun state holds => ⟨holds, Compared.nil, nofun⟩
  | cons upload rest ih =>
      unfold compareKnownMap
      refine Spec.bind _ (spec_ofExcept fun _ holds => holds.1) fun _ => ?_
      split
      · exact Spec.throw fun _ holds => holds.1
      · refine Spec.bind _ ((spec_ask_plain still rfl).weaken (fun _ holds => holds)
          (fun _ _ holds => holds) fun _ holds => holds.1) fun localSize => ?_
        refine Spec.bind _ (ih _) fun others => Spec.done fun state holds => ?_
        refine ⟨holds.1, (compared_size upload _ _).append holds.2.1,
          (shows_size fun some_there => ?_).append holds.2.2⟩
        rw [Option.isSome_map] at some_there
        obtain ⟨entry, found⟩ := Option.isSome_iff_exists.mp some_there
        have named : entry.key = upload.key := by simpa using List.find?_some found
        exact named ▸ holds.1.2 entry (List.mem_of_find?_eq_some found)

theorem spec_compareGroup (folder : RemoteKey) (uploads : List ImmutableUpload) :
    Spec storageHandler inv (compareGroup folder uploads)
      (fun comparison state => inv state ∧ Compared uploads comparison ∧ Shows comparison state)
      inv := by
  have listed : Spec storageHandler inv (compareRemoteKnown folder uploads)
      (fun comparison state => inv state ∧ Compared uploads comparison ∧ Shows comparison state)
      inv := by
    refine Spec.bind (fun (entries : List RemoteEntry) state =>
      inv state ∧ ∀ entry ∈ entries, state.present entry.key) ?_ fun entries => ?_
    · refine spec_ask (fun _ holds => holds) (fun state entries holds answered => ⟨holds, ?_⟩)
        fun _ holds => holds
      have same : state.remote.list folder = entries := Except.ok.inj answered
      intro entry member
      rw [← same] at member
      obtain ⟨stored, inside, rfl⟩ := List.mem_map.mp
        ((state.remote.arrange_perm _).mem_iff.mp member)
      exact AList.mem_keys.mpr (List.mem_map_of_mem (List.mem_filter.mp inside).1)
    · exact (spec_compareKnownMap ignores entries [] uploads).to_post (fun _ _ holds => ⟨holds.1.1, holds.2⟩)
  unfold compareGroup
  split
  · rename_i upload
    split
    · refine Spec.bind _ (spec_ask_plain ignores rfl) fun localSize => ?_
      refine Spec.bind (fun (remote : Option RemoteMeta) state =>
        inv state ∧ (remote.isSome → state.present upload.key)) ?_ fun remote => ?_
      · refine spec_ask (fun _ holds => holds) (fun state remote holds answered => ⟨holds, ?_⟩)
          fun _ holds => holds
        rintro some_there
        rw [← show _ = remote from Except.ok.inj answered, Option.isSome_map] at some_there
        exact present_iff_content.mpr some_there
      · exact Spec.done fun state holds => ⟨holds.1, compared_size _ _ _,
          shows_size fun some_there => holds.2 (by rwa [Option.isSome_map] at some_there)⟩
    · exact listed
  · exact listed

theorem spec_compareGroups (groups : List (String × List ImmutableUpload)) :
    Spec storageHandler inv (compareGroups groups)
      (fun comparison state => inv state ∧ Compared (groups.flatMap Prod.snd) comparison ∧
        Shows comparison state) inv := by
  induction groups with
  | nil => exact Spec.done fun state holds => ⟨holds, Compared.nil, nofun⟩
  | cons group rest ih =>
      refine Spec.bind _ (spec_compareGroup ignores group.1 group.2) fun here => ?_
      refine Spec.learn (fun _ holds => holds.2.1) fun compared => ?_
      refine Spec.bind _ ((spec_present (fun key => ∃ found ∈ here.known, found.key = key)
        ih).of_pre (fun _ holds => ⟨holds.1, ?_⟩))
        fun others => Spec.done fun state holds => ⟨holds.1.1, compared.append holds.1.2.1, ?_⟩
      · rintro _ ⟨found, known, rfl⟩
        exact holds.2.2 found known
      · exact Shows.append (fun found known => holds.2 _ ⟨found, known, rfl⟩) holds.1.2.2

end Comparing

theorem mem_groups {uploads : List ImmutableUpload} {upload : ImmutableUpload} :
    upload ∈ (groupsOf uploads).flatMap Prod.snd ↔ upload ∈ uploads := by
  simp only [groupsOf, List.mem_flatMap, List.mem_map, List.mem_dedup, exists_exists_and_eq_and,
    List.mem_filter, decide_eq_true_eq]
  constructor
  · rintro ⟨_, _, member, _⟩
    exact member
  · exact fun member => ⟨upload, member, member, rfl⟩

theorem staged_spec (entries : List MetadataWrite) :
    (∀ entry ∈ staged entries, entry ∈ entries) ∧
      ∀ entry ∈ entries, entry.key ∈ (staged entries).map MetadataWrite.key := by
  induction entries with
  | nil => simp [staged]
  | cons entry rest ih =>
      unfold staged
      split
      · rename_i again
        obtain ⟨other, later, same⟩ := List.any_eq_true.mp again
        refine ⟨fun one member => List.mem_cons_of_mem _ (ih.1 one member), fun one member => ?_⟩
        rcases List.mem_cons.mp member with rfl | inside
        · exact of_decide_eq_true same ▸ ih.2 other later
        · exact ih.2 one inside
      · refine ⟨fun one member => ?_, fun one member => ?_⟩
        · rcases List.mem_cons.mp member with rfl | inside
          · exact List.mem_cons_self
          · exact List.mem_cons_of_mem _ (ih.1 one inside)
        · rcases List.mem_cons.mp member with rfl | inside
          · exact List.mem_cons_self
          · exact List.mem_cons_of_mem _ (ih.2 one inside)

/-- A property that is kept, and objects that are there. -/
def Holding (inv : StorageState → Prop) (keys : List RemoteKey) (state : StorageState) : Prop :=
  inv state ∧ ∀ key ∈ keys, state.present key

theorem Spec.hold {α β : Type} {inv pre : StorageState → Prop} {keys more : List RemoteKey}
    {program : StorageProg α} {f : α → StorageProg β}
    (first : Spec storageHandler pre program (fun _ => Holding inv keys) inv)
    (second : ∀ value, Spec storageHandler inv (f value) (fun _ => Holding inv more) inv) :
    Spec storageHandler pre (program >>= f) (fun _ => Holding inv (keys ++ more)) inv := by
  refine Spec.bind _ first fun value => ?_
  refine (spec_present (fun key => key ∈ keys) (second value)).to_post (fun _ state holds => ⟨holds.1.1, fun key member => ?_⟩)
  exact (List.mem_append.mp member).elim (holds.2 key) (holds.1.2 key)

theorem spec_forEach_hold {α : Type} {inv : StorageState → Prop} (key : α → RemoteKey)
    {body : α → StorageProg Unit} (items : List α)
    (each : ∀ item ∈ items, Spec storageHandler inv (body item)
      (fun _ => Holding inv [key item]) inv) :
    Spec storageHandler inv (Prog.forEach items body)
      (fun _ => Holding inv (items.map key)) inv := by
  induction items with
  | nil => exact Spec.done fun _ holds => ⟨holds, by simp⟩
  | cons item rest ih =>
      exact Spec.hold (each item List.mem_cons_self) fun _ =>
        ih fun other later => each other (List.mem_cons_of_mem _ later)

namespace Rclone

variable (rclone : Rclone) {inv : StorageState → Prop}

theorem spec_takeChunk (ignores : IgnoresFiles inv) (count bytes : Nat)
    (missing : List ImmutableUpload) :
    Spec storageHandler inv (rclone.takeChunk count bytes missing)
      (fun chunk state => inv state ∧ chunk.1 ++ chunk.2 = missing ∧
        (count = 0 → missing ≠ [] → chunk.1 ≠ [])) inv := by
  induction missing generalizing count bytes with
  | nil => exact Spec.done fun _ holds => ⟨holds, rfl, fun _ some_left => absurd rfl some_left⟩
  | cons upload rest ih =>
      unfold takeChunk
      split
      · rename_i full
        exact Spec.done fun _ holds => ⟨holds, rfl, fun none _ =>
          absurd full (Nat.not_le.mpr (none ▸ rclone.normalized))⟩
      · refine Spec.bind _ (spec_ask_plain ignores rfl) fun size => ?_
        split
        · rename_i beyond
          exact Spec.done fun _ holds => ⟨holds, rfl, fun none _ =>
            absurd beyond.1 (Nat.not_lt.mpr (Nat.le_of_eq none))⟩
        · refine Spec.bind _ (ih _ _) fun chunk => Spec.done fun _ holds => ?_
          exact ⟨holds.1, congrArg (upload :: ·) holds.2.1, fun _ _ => List.cons_ne_nil _ _⟩

theorem spec_copyStaged (ignores : IgnoresFiles inv) {uploads chunk : List ImmutableUpload}
    {observer : Option ImmutableUploadObserver} (inside : ∀ upload ∈ chunk, upload ∈ uploads)
    (keeps : ∀ upload ∈ uploads, ∀ state content, inv state → inv (state.put upload.key content))
    (listens : ∀ listener ∈ observer, ObserverKeeps inv uploads listener) :
    Spec storageHandler inv (rclone.copyStaged observer chunk)
      (fun _ => Holding inv (chunk.map ImmutableUpload.key)) inv := by
  have order := rclone.copyOrder_perm chunk
  unfold copyStaged
  refine Spec.bind (fun _ => inv) ?_ fun _ => ?_
  · exact Spec.forEach (fun _ => inv) fun _ _ => spec_ask_plain ignores rfl
  refine Spec.bind (fun _ => inv) ?_ fun _ => ?_
  · exact spec_notify inv (fun _ holds => holds) fun listener present =>
      (listens listener present).started
  refine (spec_forEach_hold ImmutableUpload.key (rclone.copyOrder chunk) fun upload member =>
    ?_).to_post (fun _ _ holds => ⟨holds.1, fun key named =>
      holds.2 key ((order.map _).mem_iff.mpr named)⟩)
  have told : Spec storageHandler inv (Prog.forEach (rclone.statistics upload.key) fun bytes =>
      notify observer fun listener => listener.transferProgress bytes)
      (fun _ => Holding inv []) inv :=
    (Spec.forEach (fun _ => inv) fun bytes _ => spec_notify inv (fun _ holds => holds)
      fun listener present => (listens listener present).progress bytes).to_post (fun _ _ holds => ⟨holds, by simp⟩)
  have copied : Spec storageHandler inv (ask (.uploadImmutable upload.path upload.key))
      (fun _ => Holding inv [upload.key]) inv :=
    (spec_upload (keeps upload (inside upload (order.mem_iff.mp member)))).to_post (fun _ _ holds => ⟨holds.1, by simpa using holds.2⟩)
  exact Spec.hold copied fun _ => told

theorem spec_readMetas (ignores : IgnoresFiles inv) (chunk : List ImmutableUpload) :
    Spec storageHandler inv (readMetas chunk) (fun _ => inv) inv := by
  induction chunk with
  | nil => exact Spec.done fun _ holds => holds
  | cons upload rest ih =>
      refine Spec.bind _ (spec_ask_plain ignores rfl) fun size => ?_
      exact Spec.bind _ ih fun others => Spec.done fun _ holds => holds

theorem spec_uploadChunks (ignores : IgnoresFiles inv) {uploads : List ImmutableUpload}
    {observer : Option ImmutableUploadObserver}
    (keeps : ∀ upload ∈ uploads, ∀ state content, inv state → inv (state.put upload.key content))
    (listens : ∀ listener ∈ observer, ObserverKeeps inv uploads listener) (turns : Nat)
    (missing : List ImmutableUpload) (enough : missing.length ≤ turns)
    (inside : ∀ upload ∈ missing, upload ∈ uploads) :
    Spec storageHandler inv (rclone.uploadChunks observer turns missing)
      (fun _ => Holding inv (missing.map ImmutableUpload.key)) inv := by
  induction turns generalizing missing with
  | zero =>
      rw [List.length_eq_zero_iff.mp (Nat.le_zero.mp enough)]
      exact Spec.done fun _ holds => ⟨holds, by simp⟩
  | succ turns ih =>
      cases missing with
      | nil => exact Spec.done fun _ holds => ⟨holds, by simp⟩
      | cons first rest =>
          refine Spec.bind _ (rclone.spec_takeChunk ignores 0 0 (first :: rest)) fun chunk => ?_
          refine Spec.learn (fun _ holds => holds.2) fun taken => ?_
          have among : ∀ upload ∈ chunk.1, upload ∈ uploads := fun upload member =>
            inside upload (taken.1 ▸ List.mem_append_left _ member)
          have fewer : chunk.2.length ≤ turns := by
            have total := congrArg List.length taken.1
            have some_taken := List.length_pos_of_ne_nil (taken.2 rfl (List.cons_ne_nil _ _))
            rw [List.length_append] at total
            omega
          have told : Spec storageHandler (Holding inv (chunk.1.map ImmutableUpload.key))
              (notify observer fun listener => listener.completed chunk.1 .uploaded)
              (fun _ => inv) inv :=
            spec_notify inv (fun _ holds => holds.1) fun listener present =>
              ((listens listener present).completed chunk.1 .uploaded among).of_pre (fun _ holds => ⟨holds.1, fun upload member =>
                  holds.2 _ (List.mem_map_of_mem member)⟩)
          refine Spec.bind _ ((rclone.spec_copyStaged ignores among keeps listens).of_pre (fun _ holds => holds.1)) fun _ => ?_
          rw [← taken.1, List.map_append]
          refine Spec.hold ((spec_present (fun key => key ∈ chunk.1.map ImmutableUpload.key)
            told).weaken (fun _ holds => ⟨holds, holds.2⟩) (fun _ _ holds => holds)
            fun _ holds => holds) fun _ => ?_
          refine Spec.bind _ (spec_readMetas ignores chunk.1) fun metas => ?_
          exact Spec.bind _ (ih chunk.2 fewer fun upload member =>
            inside upload (taken.1 ▸ List.mem_append_right _ member)) fun others =>
              Spec.done fun _ holds => holds

theorem bulk_contract : BulkContract rclone.uploadImmutableBulkObserved := by
  intro uploads observer inv ignores keeps listens
  unfold uploadImmutableBulkObserved
  split
  · rename_i none
    exact Spec.done fun _ holds => ⟨holds, by rw [none]; exact nofun⟩
  · refine Spec.bind (fun _ => inv) ?_ fun _ => ?_
    · exact Spec.forEach (fun _ => inv) fun _ _ => spec_ofExcept fun _ holds => holds
    refine Spec.bind _ (spec_compareGroups ignores _) fun comparison => ?_
    refine Spec.learn (fun _ holds => holds.2.1) fun compared => ?_
    have grouped : ∀ upload, upload ∈ (rclone.groupOrder (groupsOf uploads)).flatMap
        Prod.snd ↔ upload ∈ uploads := fun upload =>
      ((rclone.groupOrder_perm _).flatMap_right Prod.snd).mem_iff.trans mem_groups
    split
    · exact Spec.throw fun _ holds => holds.1
    · rename_i agree
      have known : Spec storageHandler (fun state => inv state ∧ Shows comparison state)
          (notifyKnown observer (uploads.filter fun upload =>
            comparison.known.any fun found => found.key = upload.key)) (fun _ => inv) inv := by
        unfold notifyKnown
        split
        · exact Spec.done fun _ holds => holds.1
        · refine spec_notify inv (fun _ holds => holds.1) fun listener present => ?_
          refine ((listens listener present).completed _ .reusedRemote fun upload member =>
            (List.mem_filter.mp member).1).weaken (fun state holds => ⟨holds.1, ?_⟩)
            (fun _ _ holds => holds) fun _ holds => holds
          intro upload member
          obtain ⟨found, inside, same⟩ := List.any_eq_true.mp (List.mem_filter.mp member).2
          exact of_decide_eq_true same ▸ holds.2 found inside
      refine Spec.bind (fun _ => Holding inv (comparison.known.map RemoteMeta.key)) ?_ fun _ => ?_
      · refine (spec_present (fun key => key ∈ comparison.known.map RemoteMeta.key) known).of_pre (fun _ holds => ⟨⟨holds.1, holds.2.2⟩, ?_⟩)
        exact List.forall_mem_map.mpr holds.2.2
      refine Spec.bind _ (spec_present (fun key => key ∈ comparison.known.map RemoteMeta.key)
        (rclone.spec_uploadChunks ignores keeps listens _ comparison.missing (Nat.le_refl _)
          fun upload member => (grouped upload).mp (compared.missing upload member)))
        fun metas => ?_
      refine (spec_ofExcept fun _ holds => holds.1.1).to_post (fun _ state holds => ⟨holds.1.1, fun upload member => ?_⟩)
      rcases compared.covered upload ((grouped upload).mpr member) with
        ⟨found, known, same⟩ | missing | conflicts
      · exact same ▸ holds.2 _ (List.mem_map_of_mem known)
      · exact holds.1.2 _ (List.mem_map_of_mem missing)
      · exact absurd conflicts agree

theorem spec_putMetadataEntries (turns : Nat) (entries : List MetadataWrite)
    (ignores : IgnoresFiles inv) (enough : entries.length ≤ turns)
    (keeps : ∀ entry ∈ entries, ∀ state, inv state → inv (state.put entry.key entry.content)) :
    Spec storageHandler inv (rclone.putMetadataEntries turns entries)
      (fun _ => Holding inv (entries.map MetadataWrite.key)) inv := by
  induction turns generalizing entries with
  | zero =>
      rw [List.length_eq_zero_iff.mp (Nat.le_zero.mp enough)]
      exact Spec.done fun _ holds => ⟨holds, by simp⟩
  | succ turns ih =>
      cases entries with
      | nil => exact Spec.done fun _ holds => ⟨holds, by simp⟩
      | cons first rest =>
          have parts := List.take_append_drop rclone.maxBulkFiles (first :: rest)
          have fewer : ((first :: rest).drop rclone.maxBulkFiles).length ≤ turns := by
            have positive := rclone.normalized
            rw [List.length_drop]
            simp only [List.length_cons] at enough ⊢
            omega
          have order := rclone.writeOrder_perm
            (staged ((first :: rest).take rclone.maxBulkFiles))
          obtain ⟨sub, named⟩ := staged_spec ((first :: rest).take rclone.maxBulkFiles)
          unfold putMetadataEntries
          refine Spec.bind (fun _ => inv) ?_ fun _ => ?_
          · refine Spec.forEach (fun _ => inv) fun entry _ => ?_
            exact Spec.bind _ (spec_ofExcept fun _ holds => holds) fun _ =>
              spec_ask_plain ignores rfl
          have written := spec_forEach_hold MetadataWrite.key (rclone.writeOrder
            (staged ((first :: rest).take rclone.maxBulkFiles))) fun entry member =>
            Spec.bind _ (spec_put (keeps entry (List.mem_of_mem_take
              (sub entry (order.mem_iff.mp member))))) fun _ =>
              (Spec.done fun _ holds => ⟨holds.1, by simpa using holds.2⟩ :
                Spec storageHandler _ (.done ()) (fun _ => Holding inv [entry.key]) inv)
          refine (Spec.hold written fun _ => Spec.bind _ (ih _ fewer fun entry member =>
            keeps entry (List.mem_of_mem_drop member)) fun others =>
              Spec.done fun _ holds => holds).weaken (fun _ holds => holds)
            (fun _ state holds => ⟨holds.1, List.forall_mem_map.mpr fun entry member => ?_⟩)
            fun _ holds => holds
          rw [← parts] at member
          rcases List.mem_append.mp member with here | later
          · exact holds.2 _ (List.mem_append_left _
              ((order.map _).mem_iff.mpr (named entry here)))
          · exact holds.2 _ (List.mem_append_right _ (List.mem_map_of_mem later))

theorem batch_contract : BatchContract rclone.putMetadataBatch := by
  intro batch inv ignores keeps last
  refine Spec.bind _ (rclone.spec_putMetadataEntries _ batch.entries ignores (Nat.le_refl _) keeps)
    fun written => ?_
  have marked := @spec_putMetadataEntries rclone
    (Holding inv (batch.entries.map MetadataWrite.key)) _ batch.committed.toList
    (ignores.and fun _ _ _ _ there => there) (Nat.le_refl _) (by
      intro marker member state holds
      exact ⟨last marker (by simpa using member) state holds.1 (List.forall_mem_map.mp holds.2),
        fun key inside => present_put.mpr (Or.inr (holds.2 key inside))⟩)
  refine Spec.bind _ (marked.weaken (fun _ holds => holds) (fun _ _ holds => holds.1)
    fun _ holds => holds.1) fun marker => ?_
  exact Spec.done fun _ holds => ⟨holds.1, List.forall_mem_map.mp holds.2⟩

def provider : Provider where
  uploadImmutableBulkObserved := rclone.uploadImmutableBulkObserved
  putMetadataBatch := rclone.putMetadataBatch
  bulk_contract := rclone.bulk_contract
  batch_contract := rclone.batch_contract

end Rclone

end Noland.Storage
