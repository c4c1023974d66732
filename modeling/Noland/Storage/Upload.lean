import Noland.Storage.Provider

/-!
The trait's own bulk upload and metadata batch, which `LocalStorage` uses. `Provider` carries the
trait's documented contract as fields.
-/

namespace Noland.Storage

open Noland.Core Noland.Requests

inductive ImmutableUploadCompletion where
  | uploaded
  | reusedRemote
  deriving DecidableEq

structure ImmutableUploadObserver where
  transferStarted : StorageProg Unit
  transferProgress : Nat → StorageProg Unit
  completed : List ImmutableUpload → ImmutableUploadCompletion → StorageProg Unit

def notify (observer : Option ImmutableUploadObserver)
    (call : ImmutableUploadObserver → StorageProg Unit) : StorageProg Unit :=
  match observer with
  | none => .done ()
  | some observer => call observer

structure ObserverKeeps (inv : StorageState → Prop) (uploads : List ImmutableUpload)
    (observer : ImmutableUploadObserver) : Prop where
  started : Spec storageHandler inv observer.transferStarted (fun _ => inv) inv
  progress : ∀ bytes, Spec storageHandler inv (observer.transferProgress bytes) (fun _ => inv) inv
  completed : ∀ finished completion, (∀ upload ∈ finished, upload ∈ uploads) →
    Spec storageHandler (fun state => inv state ∧ ∀ upload ∈ finished, state.present upload.key)
      (observer.completed finished completion) (fun _ => inv) inv

/-- A bulk upload writes only the keys of its uploads, reports an upload as
completed only when its object is there, and succeeds only when all are. -/
def BulkContract
    (bulk : List ImmutableUpload → Option ImmutableUploadObserver → StorageProg (List RemoteMeta)) :
    Prop :=
  ∀ (uploads : List ImmutableUpload) (observer : Option ImmutableUploadObserver)
    (inv : StorageState → Prop), IgnoresFiles inv →
    (∀ upload ∈ uploads, ∀ state content, inv state → inv (state.put upload.key content)) →
    (∀ listener ∈ observer, ObserverKeeps inv uploads listener) →
    Spec storageHandler inv (bulk uploads observer)
      (fun _ state => inv state ∧ ∀ upload ∈ uploads, state.present upload.key) inv

def BatchContract (putBatch : MetadataBatch → StorageProg (List RemoteMeta)) : Prop :=
  ∀ (batch : MetadataBatch) (inv : StorageState → Prop), IgnoresFiles inv →
    (∀ entry ∈ batch.entries, ∀ state, inv state → inv (state.put entry.key entry.content)) →
    (∀ marker ∈ batch.committed, ∀ state, inv state →
      (∀ entry ∈ batch.entries, state.present entry.key) →
      inv (state.put marker.key marker.content)) →
    Spec storageHandler inv (putBatch batch)
      (fun _ state => inv state ∧ ∀ entry ∈ batch.entries, state.present entry.key) inv

structure Provider where
  uploadImmutableBulkObserved :
    List ImmutableUpload → Option ImmutableUploadObserver → StorageProg (List RemoteMeta)
  putMetadataBatch : MetadataBatch → StorageProg (List RemoteMeta)
  bulk_contract : BulkContract uploadImmutableBulkObserved
  batch_contract : BatchContract putMetadataBatch

theorem spec_notify (inv : StorageState → Prop) {pre : StorageState → Prop}
    {observer : Option ImmutableUploadObserver}
    {call : ImmutableUploadObserver → StorageProg Unit} (holds : ∀ state, pre state → inv state)
    (keeps : ∀ listener ∈ observer, Spec storageHandler pre (call listener) (fun _ => inv) inv) :
    Spec storageHandler pre (notify observer call) (fun _ => inv) inv := by
  cases observer with
  | none => exact Spec.done holds
  | some listener => exact keeps listener rfl

theorem spec_present {α : Type} {program : StorageProg α} {pre exit : StorageState → Prop}
    {post : α → StorageState → Prop} (kept : RemoteKey → Prop)
    (spec : Spec storageHandler pre program post exit) :
    Spec storageHandler (fun state => pre state ∧ ∀ key, kept key → state.present key) program
      (fun value state => post value state ∧ ∀ key, kept key → state.present key) exit :=
  spec.frame (fun state => ∀ key, kept key → state.present key)
    fun _ _ holds key wanted => present_after (holds key wanted)

theorem spec_put {inv : StorageState → Prop} {key : RemoteKey} {content : Content}
    (keeps : ∀ state, inv state → inv (state.put key content)) :
    Spec storageHandler inv (ask (.putSmallVersioned content key))
      (fun _ state => inv state ∧ state.present key) inv :=
  spec_ask (fun _ holds => holds)
    (fun state _ holds _ => ⟨keeps state holds, present_put.mpr (Or.inl rfl)⟩)
    (fun state holds => keeps state holds)

theorem inv_upload {inv : StorageState → Prop} {path : String} {key : RemoteKey}
    (keeps : ∀ state content, inv state → inv (state.put key content)) (state : StorageState)
    (holds : inv state) : inv (state.upload path key) := by
  rcases upload_cases state path key with same | ⟨content, same⟩
  · rwa [same]
  · rw [same]
    exact keeps state content holds

theorem spec_upload {inv : StorageState → Prop} {path : String} {key : RemoteKey}
    (keeps : ∀ state content, inv state → inv (state.put key content)) :
    Spec storageHandler inv (ask (.uploadImmutable path key))
      (fun _ state => inv state ∧ state.present key) inv :=
  spec_ask (fun _ holds => holds)
    (fun state _ holds answered => ⟨inv_upload keeps state holds, present_upload answered⟩)
    (fun state holds => inv_upload keeps state holds)

namespace Sequential

def uploadImmutableBulkObserved (observer : Option ImmutableUploadObserver) :
    List ImmutableUpload → StorageProg (List RemoteMeta)
  | [] => .done []
  | upload :: rest => do
      let written ← ask (.uploadImmutable upload.path upload.key)
      notify observer fun listener => listener.completed [upload] .uploaded
      let others ← uploadImmutableBulkObserved observer rest
      return written :: others

def putEntries : List MetadataWrite → StorageProg (List RemoteMeta)
  | [] => .done []
  | entry :: rest => do
      let written ← ask (.putSmallVersioned entry.content entry.key)
      let others ← putEntries rest
      return written :: others

def putMetadataBatch (batch : MetadataBatch) : StorageProg (List RemoteMeta) := do
  let written ← putEntries batch.entries
  let marker ← putEntries batch.committed.toList
  return written ++ marker

theorem bulk_contract : BulkContract fun uploads observer =>
    uploadImmutableBulkObserved observer uploads := by
  intro uploads observer inv ignores keeps listens
  -- The uploads still to be made are a suffix of all of them.
  suffices ∀ rest, (∀ upload ∈ rest, upload ∈ uploads) →
      Spec storageHandler inv (uploadImmutableBulkObserved observer rest)
        (fun _ state => inv state ∧ ∀ upload ∈ rest, state.present upload.key) inv from
    this uploads fun _ member => member
  intro rest
  induction rest with
  | nil => exact fun _ => Spec.done fun state holds => ⟨holds, by simp⟩
  | cons upload rest ih =>
      intro inside
      have member := inside upload List.mem_cons_self
      have tail := ih fun other later => inside other (List.mem_cons_of_mem _ later)
      refine Spec.bind _ (spec_upload (keeps upload member)) fun written => ?_
      refine Spec.bind (fun _ state => inv state ∧ state.present upload.key) ?_ fun _ => ?_
      · have listening : Spec storageHandler
            (fun state => inv state ∧ state.present upload.key)
            (notify observer fun listener => listener.completed [upload] .uploaded)
            (fun _ => inv) inv := by
          refine spec_notify inv (fun _ holds => holds.1) fun listener present => ?_
          have told := (listens listener present).completed [upload] .uploaded (by simpa using member)
          exact told.of_pre (fun state holds => ⟨holds.1, by simpa using holds.2⟩)
        exact (spec_present (fun key => key = upload.key) listening).weaken
          (fun state holds => ⟨holds, by rintro _ rfl; exact holds.2⟩)
          (fun _ state holds => ⟨holds.1, holds.2 _ rfl⟩) (fun _ holds => holds)
      · refine Spec.bind (fun _ state => inv state ∧
          ∀ other ∈ upload :: rest, state.present other.key) ?_ fun others => ?_
        · exact (spec_present (fun key => key = upload.key) tail).weaken
            (fun state holds => ⟨holds.1, by rintro _ rfl; exact holds.2⟩)
            (fun _ state holds => ⟨holds.1.1, by
              intro other inside
              rcases List.mem_cons.mp inside with rfl | later
              · exact holds.2 _ rfl
              · exact holds.1.2 other later⟩)
            (fun _ holds => holds)
        · exact Spec.done fun _ holds => holds

theorem spec_putEntries {entries : List MetadataWrite} (inv : StorageState → Prop)
    (keeps : ∀ entry ∈ entries, ∀ state, inv state → inv (state.put entry.key entry.content)) :
    Spec storageHandler inv (putEntries entries)
      (fun _ state => inv state ∧ ∀ entry ∈ entries, state.present entry.key) inv := by
  induction entries with
  | nil => exact Spec.done fun state holds => ⟨holds, by simp⟩
  | cons entry rest ih =>
      have tail := ih fun other later => keeps other (List.mem_cons_of_mem _ later)
      refine Spec.bind _ (spec_put (keeps entry List.mem_cons_self)) fun written => ?_
      refine Spec.bind _ ((spec_present (fun key => key = entry.key) tail).of_pre (fun state holds => ⟨holds.1, by rintro _ rfl; exact holds.2⟩)) fun others => ?_
      refine Spec.done fun state holds => ⟨holds.1.1, ?_⟩
      intro other inside
      rcases List.mem_cons.mp inside with rfl | later
      · exact holds.2 _ rfl
      · exact holds.1.2 other later

theorem batch_contract : BatchContract putMetadataBatch := by
  intro batch inv _ keeps last
  refine Spec.bind _ (spec_putEntries inv keeps) fun written => ?_
  refine Spec.bind _ ?_ fun marker => Spec.done fun _ holds => holds
  -- Presence of the entries is kept by the write of the marker.
  refine (spec_putEntries (fun state => inv state ∧
    ∀ entry ∈ batch.entries, state.present entry.key) ?_).weaken
    (fun _ holds => holds) (fun _ _ holds => holds.1) (fun _ holds => holds.1)
  intro marker member state holds
  exact ⟨last marker (by simpa using member) state holds.1 holds.2,
    fun entry inside => present_put.mpr (Or.inr (holds.2 entry inside))⟩

end Sequential

/-- `LocalStorage`, which overrides none of the defaults. -/
def localStorage : Provider where
  uploadImmutableBulkObserved uploads observer :=
    Sequential.uploadImmutableBulkObserved observer uploads
  putMetadataBatch := Sequential.putMetadataBatch
  bulk_contract := Sequential.bulk_contract
  batch_contract := Sequential.batch_contract

end Noland.Storage
