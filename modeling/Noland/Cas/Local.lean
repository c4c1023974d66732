import Mathlib.Data.List.Sort
import Mathlib.Logic.Function.Basic
import Noland.Core.Manifest
import Noland.Lib.Interleaving

/-!
Objects lie under the hash of their content, and a marker beside them pins one. A put writes a
temporary file and links it. An eviction looks at the marker of an object before it removes the
object, in a step of its own.
-/

namespace Noland.Cas.Local

open Noland.Core Noland.Requests

def isObjectName (name : String) : Bool :=
  name.toList.length = 64 &&
    name.toList.all fun c => ('0' ≤ c && c ≤ '9') || ('a' ≤ c && c ≤ 'f')

def invalidHash {α : Type} (hash : String) : Except StateError α :=
  .error (.invalid ("invalid CAS hash " ++ hash))

def objectName (hash : String) : Except StateError String :=
  if "blake3:".toList.isPrefixOf hash.toList then
    let name := String.ofList (hash.toList.drop 7)
    if isObjectName name then .ok name else invalidHash hash
  else invalidHash hash

theorem objectName_ok {hash name : String} (named : objectName hash = .ok name) :
    hash = "blake3:" ++ name ∧ isObjectName name = true := by
  unfold objectName at named
  split at named
  · rename_i labelled
    dsimp only at named
    split at named
    · rename_i proper
      cases named
      refine ⟨?_, proper⟩
      obtain ⟨rest, whole⟩ := List.isPrefixOf_iff_prefix.mp labelled
      have seven : ("blake3:".toList ++ rest).drop 7 = rest := rfl
      apply String.toList_injective
      rw [String.toList_append, ← whole, seven, String.toList_ofList (l := rest)]
    · cases named
  · cases named

structure Temp where
  name : String
  sequence : Nat
  deriving DecidableEq

structure Content where
  bytes : List UInt8
  modified : Nat
  deriving DecidableEq

/-- A failure: its kind, and how far the operation came (0 is no effect). -/
structure Fault where
  kind : IoKind
  reach : Nat
  deriving DecidableEq

structure Turn where
  fault : Option Fault := none
  now : Nat := 0
  deriving DecidableEq

/-- The directory of the store, and who drew each number of the temporary files. The last fields
record the objects that a client has found unpinned and not yet removed, those pinned in between,
and those removed while they were pinned. -/
structure Store (ι : Type) where
  objects : List (String × Content) := []
  pins : List String := []
  temps : Temp → Option Content := fun _ => none
  sequences : List ι := []
  turns : List Turn := []
  sightings : List (ι × String) := []
  pinnedLate : List String := []
  removedPinned : List String := []

variable {ι : Type}

namespace Store

def setTemp (store : Store ι) (temp : Temp) (content : Option Content) : Store ι :=
  { store with temps := Function.update store.temps temp content }

def mark (store : Store ι) (name : String) : Store ι :=
  { store with
    pins := name :: store.pins
    pinnedLate :=
      if store.sightings.any fun seen => seen.2 = name then name :: store.pinnedLate
      else store.pinnedLate }

def overlook (store : Store ι) (me : ι) (name : String) : Store ι :=
  { store with
    sightings := (me, name) :: store.sightings
    pinnedLate := if name ∈ store.pins then name :: store.pinnedLate else store.pinnedLate }

def forget [DecidableEq ι] (store : Store ι) (me : ι) (name : String) : Store ι :=
  { store with sightings := store.sightings.filter fun seen => seen ≠ (me, name) }

def dropObject (store : Store ι) (name : String) : Store ι :=
  { store with
    objects := store.objects.filter fun object => object.1 ≠ name
    removedPinned :=
      if name ∈ store.pins then name :: store.removedPinned else store.removedPinned }

end Store

inductive CasOp where
  | existsObject (name : String)
  | readObject (name : String)
  | statObject (name : String)
  | nextTemp
  | createTemp (temp : Temp)
  | writeTemp (temp : Temp) (data : List UInt8)
  | syncTemp (temp : Temp)
  | linkObject (temp : Temp) (name : String)
  | removeTemp (temp : Temp)
  | createPins
  | createMarker (name : String)
  | syncMarker (name : String)
  | removeMarker (name : String)
  | isPinned (name : String)
  | readDir
  | removeObject (name : String)
  deriving DecidableEq

def CasOp.Ret : CasOp → Type
  | .existsObject _ | .isPinned _ => Bool
  | .readObject _ => List UInt8
  | .statObject _ => Nat × Nat
  | .nextTemp => Nat
  | .readDir => List String
  | _ => Unit

def casInterface : Interface := { Op := CasOp, Ret := CasOp.Ret }

abbrev CasProg := Prog casInterface StateError

def missing {α : Type} : Except StateError α := .error (.io .notFound)

def occupied {α : Type} : Except StateError α := .error (.io .alreadyExists)

section Acting

variable [DecidableEq ι] (me : ι)

def Store.carryOut (now : Nat) (store : Store ι) :
    (op : CasOp) → Except StateError op.Ret × Store ι
  | .existsObject name => (.ok (store.objects.lookup name).isSome, store)
  | .readObject name =>
      match store.objects.lookup name with
      | none => (missing, store)
      | some content => (.ok content.bytes, store)
  | .statObject name =>
      match store.objects.lookup name with
      | none => (missing, store)
      | some content => (.ok (content.bytes.length, content.modified), store)
  | .nextTemp =>
      (.ok store.sequences.length, { store with sequences := store.sequences ++ [me] })
  | .createTemp temp =>
      match store.temps temp with
      | some _ => (occupied, store)
      | none => (.ok (), store.setTemp temp (some ⟨[], now⟩))
  | .writeTemp temp data =>
      (.ok (), store.setTemp temp ((store.temps temp).map fun _ => ⟨data, now⟩))
  | .syncTemp _ => (.ok (), store)
  | .linkObject temp name =>
      match store.temps temp with
      | none => (missing, store)
      | some content =>
          match store.objects.lookup name with
          | some _ => (occupied, store)
          | none => (.ok (), { store with objects := store.objects ++ [(name, content)] })
  | .removeTemp temp =>
      match store.temps temp with
      | none => (missing, store)
      | some _ => (.ok (), store.setTemp temp none)
  | .createPins => (.ok (), store)
  | .createMarker name => if name ∈ store.pins then (occupied, store) else (.ok (), store.mark name)
  | .syncMarker _ => (.ok (), store)
  | .removeMarker name =>
      if name ∈ store.pins then
        (.ok (), { store with pins := store.pins.filter fun pin => pin ≠ name })
      else (missing, store)
  | .isPinned name =>
      if name ∈ store.pins then (.ok true, store) else (.ok false, store.overlook me name)
  | .readDir => (.ok (store.objects.map Prod.fst), store)
  | .removeObject name =>
      match store.objects.lookup name with
      | none => (missing, store.forget me name)
      | some _ => (.ok (), (store.forget me name).dropObject name)

/-- What an operation does that fails. `exists` and `is_file` answer no. -/
def Store.fail (fault : Fault) (now : Nat) (store : Store ι) :
    (op : CasOp) → Except StateError op.Ret × Store ι
  | .nextTemp => store.carryOut me now .nextTemp
  | .existsObject _ => (.ok false, store)
  | .isPinned name => (.ok false, store.overlook me name)
  | .writeTemp temp data =>
      (.error (.io fault.kind), (store.carryOut me now (.writeTemp temp (data.take fault.reach))).2)
  | .removeObject name =>
      (.error (.io fault.kind),
        if fault.reach = 0 then store.forget me name
        else (store.carryOut me now (.removeObject name)).2)
  | op =>
      (.error (.io fault.kind),
        if fault.reach = 0 then store else (store.carryOut me now op).2)

def Store.act (store : Store ι) (op : CasOp) : Except StateError op.Ret × Store ι :=
  match (store.turns.headD {}).fault with
  | none => { store with turns := store.turns.tail }.carryOut me (store.turns.headD {}).now op
  | some fault =>
      { store with turns := store.turns.tail }.fail me fault (store.turns.headD {}).now op

end Acting

def casHandler [DecidableEq ι] : Handler casInterface StateError (Store ι × ι) where
  act op pair := ((pair.1.act pair.2 op).1, ((pair.1.act pair.2 op).2, pair.2))
  internal _ := false

def perform (op : CasOp) : CasProg op.Ret := @Prog.perform casInterface StateError op

def observe (op : CasOp) : CasProg (Except StateError op.Ret) :=
  @Prog.observe casInterface StateError op

section Programs

variable (blake3Hex : List UInt8 → String)

structure CasPut where
  hash : String
  path : String
  bytes : Nat
  reused : Bool
  deriving DecidableEq

def read (hash : String) : CasProg (List UInt8) := do
  let name ← Prog.ofExcept (objectName hash)
  match ← observe (.readObject name) with
  | .ok data => .done data
  | .error (.io .notFound) => .throw (.notFound hash)
  | .error error => .throw error

def verifyObject (hash name : String) : CasProg Unit := do
  let data : List UInt8 ← perform (.readObject name)
  if blake3Hex data ≠ hash then
    .throw (.integrity ("existing CAS object does not match key " ++ hash))
  else .done ()

def writeAndLink (hash : String) (temp : Temp) (data : List UInt8) : CasProg Unit := do
  perform (.createTemp temp)
  perform (.writeTemp temp data)
  perform (.syncTemp temp)
  match ← observe (.linkObject temp temp.name) with
  | .ok _ => .done ()
  | .error (.io .alreadyExists) => verifyObject blake3Hex hash temp.name
  | .error error => .throw error

def putNew (hash name : String) (data : List UInt8) : CasProg CasPut := do
  let sequence : Nat ← perform .nextTemp
  let written ← (writeAndLink blake3Hex hash ⟨name, sequence⟩ data).attempt
  let _ ← observe (.removeTemp ⟨name, sequence⟩)
  let _ ← Prog.ofExcept written
  .done ⟨hash, name, data.length, false⟩

def putPrehashed (hash : String) (data : List UInt8) : CasProg CasPut := do
  let name ← Prog.ofExcept (objectName hash)
  let present : Bool ← perform (.existsObject name)
  if present = true then do
    verifyObject blake3Hex hash name
    .done ⟨hash, name, data.length, true⟩
  else putNew blake3Hex hash name data

def putVerified (hash : String) (data : List UInt8) : CasProg CasPut :=
  if blake3Hex data ≠ hash then
    .throw (.integrity ("payload does not match CAS key " ++ hash))
  else putPrehashed blake3Hex hash data

def put (data : List UInt8) : CasProg CasPut := putVerified blake3Hex (blake3Hex data) data

end Programs

def statKnown (hash name : String) : CasProg (Nat × Nat) := do
  match ← observe (.statObject name) with
  | .ok metadata => .done metadata
  | .error (.io .notFound) => .throw (.notFound hash)
  | .error error => .throw error

def createMarker (name : String) : CasProg Unit := do
  match ← observe (.createMarker name) with
  | .ok _ => perform (.syncMarker name)
  | .error (.io .alreadyExists) => .done ()
  | .error error => .throw error

def pin (hash : String) : CasProg Nat := do
  let name ← Prog.ofExcept (objectName hash)
  let metadata ← statKnown hash name
  perform .createPins
  createMarker name
  .done metadata.1

def unpin (hash : String) : CasProg Bool := do
  let name ← Prog.ofExcept (objectName hash)
  match ← observe (.removeMarker name) with
  | .ok _ => .done true
  | .error (.io .notFound) => .done false
  | .error error => .throw error

structure CasObject where
  name : String
  bytes : Nat
  modified : Nat
  deriving DecidableEq

def CasObject.olderOrEqual (left right : CasObject) : Prop :=
  left.modified < right.modified ∨ (left.modified = right.modified ∧ left.name ≤ right.name)

instance : DecidableRel CasObject.olderOrEqual :=
  fun _ _ => inferInstanceAs (Decidable (_ ∨ _))

structure EvictionResult where
  bytesBefore : Nat := 0
  bytesAfter : Nat := 0
  bytesEvicted : Nat := 0
  objectsEvicted : Nat := 0
  targetMet : Bool := false
  deriving DecidableEq

def statObjects : List String → CasProg (List CasObject)
  | [] => .done []
  | name :: rest =>
      if isObjectName name then do
        let metadata : Nat × Nat ← perform (.statObject name)
        let others ← statObjects rest
        .done (⟨name, metadata.1, metadata.2⟩ :: others)
      else statObjects rest

def objects : CasProg (List CasObject) := do
  let names : List String ← perform .readDir
  statObjects names

/-- An object that was there is counted, one that is gone is only subtracted. -/
def EvictionResult.without (result : EvictionResult) (bytes : Nat) (present : Bool) :
    EvictionResult :=
  { result with
    bytesAfter := result.bytesAfter - bytes
    bytesEvicted := if present then result.bytesEvicted + bytes else result.bytesEvicted
    objectsEvicted := if present then result.objectsEvicted + 1 else result.objectsEvicted }

def evictObjects (maxBytes : Nat) : List CasObject → EvictionResult → CasProg EvictionResult
  | [], result => .done result
  | object :: rest, result =>
      if result.bytesAfter ≤ maxBytes then .done result
      else do
        let pinned : Bool ← perform (.isPinned object.name)
        if pinned = true then evictObjects maxBytes rest result
        else
          match ← observe (.removeObject object.name) with
          | .ok _ => evictObjects maxBytes rest (result.without object.bytes true)
          | .error (.io .notFound) =>
              evictObjects maxBytes rest (result.without object.bytes false)
          | .error error => .throw error

def evictTo (maxBytes : Nat) : CasProg EvictionResult := do
  let found ← objects
  let before := (found.map CasObject.bytes).sum
  let result ← evictObjects maxBytes (found.insertionSort CasObject.olderOrEqual)
    { bytesBefore := before, bytesAfter := before }
  .done { result with targetMet := result.bytesAfter ≤ maxBytes }

inductive Call where
  | put (data : List UInt8)
  | putVerified (hash : String) (data : List UInt8)
  | putPrehashed (hash : String) (data : List UInt8)
  | read (hash : String)
  | pin (hash : String)
  | unpin (hash : String)
  | evictTo (maxBytes : Nat)

def discard {α : Type} (program : CasProg α) : CasProg Unit := do
  let _ ← program.attempt
  .done ()

def Call.run (blake3Hex : List UInt8 → String) : Call → CasProg Unit
  | .put data => discard (Local.put blake3Hex data)
  | .putVerified hash data => discard (Local.putVerified blake3Hex hash data)
  | .putPrehashed hash data => discard (Local.putPrehashed blake3Hex hash data)
  | .read hash => discard (Local.read hash)
  | .pin hash => discard (Local.pin hash)
  | .unpin hash => discard (Local.unpin hash)
  | .evictTo maxBytes => discard (Local.evictTo maxBytes)

/-- A prehashed payload has the hash it is put under. -/
def Call.Honest (blake3Hex : List UInt8 → String) : Call → Prop
  | .putPrehashed hash data => blake3Hex data = hash
  | _ => True

def clones [DecidableEq ι] (blake3Hex : List UInt8 → String) (calls : ι → List Call)
    (store : Store ι) : Pool ι casInterface StateError (Store ι) ι Unit where
  shared := store
  client i := ⟨Prog.forEach (calls i) (Call.run blake3Hex), [], i⟩

end Noland.Cas.Local
