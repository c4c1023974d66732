import Noland.Cas.Clones
import Noland.Lib.Keyed
import Noland.Lib.Pruning

/-!
Alone and without a fault, `evict_to` is a sweep over the objects from the oldest on. Together
with other clients it may remove an object that is pinned after the look at its marker.
-/

namespace Noland.Cas.Local

open Noland.Core Noland.Requests Noland.Pruning
open Noland.Keyed (lookup_of_mem)

variable {ι : Type} {blake3Hex : List UInt8 → String} {me : ι} {store : Store ι}

def Faultless (store : Store ι) : Prop := ∀ turn ∈ store.turns, turn.fault = none

def Store.totalBytes (store : Store ι) : Nat :=
  (store.objects.map fun object => object.2.bytes.length).sum

structure Evicted (maxBytes : Nat) (before after : Store ι) (result : EvictionResult) : Prop where
  bytesBefore : result.bytesBefore = before.totalBytes
  bytesAfter : result.bytesAfter = after.totalBytes
  bytesEvicted : result.bytesEvicted + after.totalBytes = before.totalBytes
  objectsEvicted : result.objectsEvicted + after.objects.length = before.objects.length
  targetMet : result.targetMet = decide (after.totalBytes ≤ maxBytes)
  within : after.totalBytes ≤ maxBytes ∨ ∀ object ∈ after.objects, object.1 ∈ after.pins
  pins : after.pins = before.pins
  objects : after.objects.Sublist before.objects
  pinned : ∀ object ∈ before.objects, object.1 ∈ before.pins → object ∈ after.objects

section Rounds

variable [DecidableEq ι]

theorem act_faultless (faultless : Faultless store) (op : CasOp) :
    store.act me op =
      { store with turns := store.turns.tail }.carryOut me (store.turns.headD {}).now op := by
  have none_next : (store.turns.headD {}).fault = none := by
    cases turns : store.turns with
    | nil => rfl
    | cons turn rest => exact faultless turn (turns ▸ List.mem_cons_self)
  unfold Store.act
  rw [none_next]

/-- What a client alone knows of the store after an operation that changes nothing. -/
structure Unchanged (before : Store ι) (pair : Store ι × ι) : Prop where
  objects : pair.1.objects = before.objects
  pins : pair.1.pins = before.pins
  faultless : Faultless pair.1

theorem act_state (faultless : Faultless store) (op : CasOp) :
    (store.act me op).2.turns = store.turns.tail := by
  rw [act_faultless faultless]
  cases op with
  | existsObject | nextTemp | writeTemp | syncTemp | createPins | syncMarker | readDir => rfl
  | linkObject temp name =>
      simp only [Store.carryOut]
      split
      · rfl
      · split
        · rfl
        · rfl
  | _ =>
      simp only [Store.carryOut]
      split
      · rfl
      · rfl

theorem act_stays_faultless (me : ι) (faultless : Faultless store) (op : CasOp) :
    Faultless (store.act me op).2 := by
  intro turn member
  rw [act_state faultless] at member
  exact faultless turn (List.mem_of_mem_tail member)

section Alone

variable {α : Type} {op : CasOp} {post : α → Store ι × ι → Prop}

theorem returns_perform {value : op.Ret} {f : op.Ret → CasProg α}
    (answered : (store.act me op).1 = .ok value)
    (rest : Returns casHandler (f value) ((store.act me op).2, me) post) :
    Returns casHandler (perform op >>= f) (store, me) post := by
  have first : Returns casHandler (perform op) (store, me)
      fun result pair => result = value ∧ pair = ((store.act me op).2, me) :=
    Returns.perform answered ⟨rfl, rfl⟩
  apply first.bind
  rintro _ _ ⟨rfl, rfl⟩
  exact rest

theorem returns_observe {f : Except StateError op.Ret → CasProg α}
    (rest : Returns casHandler (f (store.act me op).1) ((store.act me op).2, me) post) :
    Returns casHandler (observe op >>= f) (store, me) post := rest

end Alone

def casObject (object : String × Content) : CasObject :=
  ⟨object.1, object.2.bytes.length, object.2.modified⟩

theorem act_statObject (me : ι) (faultless : Faultless store) {object : String × Content}
    (there : store.objects.lookup object.1 = some object.2) :
    store.act me (.statObject object.1) =
      (.ok (object.2.bytes.length, object.2.modified),
        { store with turns := store.turns.tail }) := by
  rw [act_faultless faultless]
  simp only [Store.carryOut, there]

theorem statObjects_returns {listed : List (String × Content)} (faultless : Faultless store)
    (there : ∀ object ∈ listed, store.objects.lookup object.1 = some object.2)
    (proper : ∀ object ∈ listed, isObjectName object.1 = true) :
    Returns casHandler (statObjects (listed.map Prod.fst)) (store, me) fun found pair =>
      found = listed.map casObject ∧ Unchanged store pair ∧ pair.2 = me := by
  induction listed generalizing store with
  | nil => exact Returns.done ⟨rfl, ⟨rfl, rfl, faultless⟩, rfl⟩
  | cons object rest ih =>
      have acted := act_statObject me faultless (there object List.mem_cons_self)
      have still := act_stays_faultless me faultless (.statObject object.1)
      rw [List.map_cons]
      unfold statObjects
      rw [if_pos (proper object List.mem_cons_self)]
      apply returns_perform (congrArg Prod.fst acted)
      rw [acted] at still ⊢
      have others := ih still (fun other member => there other (List.mem_cons_of_mem _ member))
        fun other member => proper other (List.mem_cons_of_mem _ member)
      apply others.bind
      rintro found pair ⟨rfl, unchanged, same⟩
      exact Returns.done ⟨rfl, ⟨unchanged.objects, unchanged.pins, unchanged.faultless⟩, same⟩

theorem objects_returns (intact : Intact blake3Hex store) (faultless : Faultless store) :
    Returns casHandler objects (store, me) fun found pair =>
      found = store.objects.map casObject ∧ Unchanged store pair ∧ pair.2 = me := by
  have acted : store.act me .readDir =
      (.ok (store.objects.map Prod.fst), { store with turns := store.turns.tail }) :=
    act_faultless faultless .readDir
  have still := act_stays_faultless me faultless .readDir
  unfold objects
  apply returns_perform (congrArg Prod.fst acted)
  rw [acted] at still ⊢
  apply (statObjects_returns still (fun object member => lookup_of_mem intact.once member)
    intact.named).mono
  rintro found pair ⟨listed, unchanged, same⟩
  exact ⟨listed, ⟨unchanged.objects, unchanged.pins, unchanged.faultless⟩, same⟩

def swept (maxBytes : Nat) (pins : List String) (found : List CasObject) (total : Nat) :
    List CasObject × List CasObject :=
  sweep (fun total _ => total ≤ maxBytes) CasObject.bytes (fun object => object.name ∉ pins) found
    total found.length

def EvictionResult.afterAll (result : EvictionResult) (removed : List CasObject) :
    EvictionResult :=
  { result with
    bytesAfter := result.bytesAfter - totalOf CasObject.bytes removed
    bytesEvicted := result.bytesEvicted + totalOf CasObject.bytes removed
    objectsEvicted := result.objectsEvicted + removed.length }

theorem EvictionResult.afterAll_cons (result : EvictionResult) (object : CasObject)
    (removed : List CasObject) : (result.without object.bytes true).afterAll removed =
      result.afterAll (object :: removed) := by
  simp only [EvictionResult.afterAll, EvictionResult.without, totalOf, List.map_cons,
    List.sum_cons, List.length_cons, if_true, EvictionResult.mk.injEq]
  refine ⟨trivial, ?_, ?_, ?_, trivial⟩
  · omega
  · omega
  · omega

structure Removed (removed : List CasObject) (before : Store ι) (pair : Store ι × ι) : Prop where
  objects : pair.1.objects =
    before.objects.filter fun object => object.1 ∉ removed.map CasObject.name
  pins : pair.1.pins = before.pins

theorem act_isPinned_pinned (me : ι) (faultless : Faultless store) {name : String}
    (pinned : name ∈ store.pins) :
    (store.act me (.isPinned name)).1 = .ok true ∧
      (store.act me (.isPinned name)).2.objects = store.objects ∧
      (store.act me (.isPinned name)).2.pins = store.pins := by
  rw [act_faultless faultless]
  simp only [Store.carryOut, if_pos pinned, and_self]

theorem act_isPinned_unpinned (me : ι) (faultless : Faultless store) {name : String}
    (unpinned : name ∉ store.pins) :
    (store.act me (.isPinned name)).1 = .ok false ∧
      (store.act me (.isPinned name)).2.objects = store.objects ∧
      (store.act me (.isPinned name)).2.pins = store.pins := by
  rw [act_faultless faultless]
  simp only [Store.carryOut, if_neg unpinned, Store.overlook, and_self]

theorem act_removeObject (me : ι) (faultless : Faultless store) {name : String} {content : Content}
    (there : store.objects.lookup name = some content) :
    (store.act me (.removeObject name)).1 = .ok () ∧
      (store.act me (.removeObject name)).2.objects =
        (store.objects.filter fun object => object.1 ≠ name) ∧
      (store.act me (.removeObject name)).2.pins = store.pins := by
  rw [act_faultless faultless]
  simp only [Store.carryOut, there, Store.forget, Store.dropObject, and_self]

theorem lookup_filter_ne {objects : List (String × Content)} {name other : String}
    (apart : other ≠ name) :
    (objects.filter fun object => object.1 ≠ name).lookup other = objects.lookup other := by
  induction objects with
  | nil => rfl
  | cons first rest ih =>
      by_cases removed : first.1 = name
      · have elsewhere : (other == first.1) = false := by
          rw [removed]
          exact beq_eq_false_iff_ne.mpr apart
        rw [List.filter_cons_of_neg (by simp [removed]), List.lookup_cons, elsewhere]
        exact ih
      · rw [List.filter_cons_of_pos (by simp [removed]), List.lookup_cons, List.lookup_cons, ih]

theorem swept_cons {maxBytes total : Nat} {pins : List String} {object : CasObject}
    {rest : List CasObject} (exceeds : ¬ total ≤ maxBytes) :
    (swept maxBytes pins (object :: rest) total).1 =
      if object.name ∈ pins then (swept maxBytes pins rest total).1
      else object :: (swept maxBytes pins rest (total - object.bytes)).1 := by
  unfold swept
  rw [sweep, if_neg (by simpa using exceeds)]
  by_cases pinned : object.name ∈ pins
  · rw [if_neg (by simpa using pinned), if_pos pinned]
    have counted := @sweep_count CasObject (fun total => total ≤ maxBytes) CasObject.bytes
      (fun object => object.name ∉ pins) rest total (object :: rest).length rest.length
    rw [counted]
  · rw [if_pos (by simpa using pinned), if_neg pinned]
    rfl

theorem swept_within {maxBytes total : Nat} {pins : List String} {found : List CasObject}
    (within : total ≤ maxBytes) : (swept maxBytes pins found total).1 = [] := by
  cases found with
  | nil => rfl
  | cons object rest =>
      unfold swept sweep
      rw [if_pos (decide_eq_true within)]

theorem evictObjects_pinned {maxBytes : Nat} {object : CasObject} {rest : List CasObject}
    {result : EvictionResult} {post : EvictionResult → Store ι × ι → Prop}
    (faultless : Faultless store) (exceeds : ¬ result.bytesAfter ≤ maxBytes)
    (pinned : object.name ∈ store.pins)
    (others : Returns casHandler (evictObjects maxBytes rest result)
      ((store.act me (.isPinned object.name)).2, me) post) :
    Returns casHandler (evictObjects maxBytes (object :: rest) result) (store, me) post := by
  unfold evictObjects
  rw [if_neg exceeds]
  exact returns_perform (act_isPinned_pinned me faultless pinned).1 others

theorem evictObjects_unpinned {maxBytes : Nat} {object : CasObject} {rest : List CasObject}
    {result : EvictionResult} {post : EvictionResult → Store ι × ι → Prop} {looked : Store ι}
    (faultless : Faultless store) (exceeds : ¬ result.bytesAfter ≤ maxBytes)
    (unpinned : object.name ∉ store.pins)
    (after : looked = (store.act me (.isPinned object.name)).2)
    (removed : (looked.act me (.removeObject object.name)).1 = .ok ())
    (others : Returns casHandler (evictObjects maxBytes rest (result.without object.bytes true))
      ((looked.act me (.removeObject object.name)).2, me) post) :
    Returns casHandler (evictObjects maxBytes (object :: rest) result) (store, me) post := by
  unfold evictObjects
  rw [if_neg exceeds]
  apply returns_perform (act_isPinned_unpinned me faultless unpinned).1
  rw [← after]
  apply returns_observe
  rw [removed]
  exact others

theorem evictObjects_returns (maxBytes : Nat) {found : List CasObject}
    (result : EvictionResult) (faultless : Faultless store)
    (once : (found.map CasObject.name).Nodup)
    (there : ∀ object ∈ found, ∃ content, store.objects.lookup object.name = some content) :
    Returns casHandler (evictObjects maxBytes found result) (store, me) fun final pair =>
      final = result.afterAll (swept maxBytes store.pins found result.bytesAfter).1 ∧
        Removed (swept maxBytes store.pins found result.bytesAfter).1 store pair := by
  induction found generalizing store result with
  | nil =>
      refine Returns.done ⟨?_, ?_, rfl⟩
      · simp [EvictionResult.afterAll, swept, sweep, totalOf]
      · simp [swept, sweep]
  | cons object rest ih =>
      obtain ⟨fresh, later⟩ := List.nodup_cons.mp once
      by_cases enough : result.bytesAfter ≤ maxBytes
      · unfold evictObjects
        rw [if_pos enough, swept_within enough]
        refine Returns.done ⟨?_, ?_, rfl⟩
        · simp [EvictionResult.afterAll, totalOf]
        · simp
      · rw [swept_cons enough]
        have elsewhere : ∀ other ∈ rest, other.name ≠ object.name := by
          intro other member same
          exact fresh (same ▸ List.mem_map_of_mem member)
        by_cases pinned : object.name ∈ store.pins
        · obtain ⟨_, objects, pins⟩ := act_isPinned_pinned me faultless pinned
          rw [if_pos pinned]
          apply evictObjects_pinned faultless enough pinned
          have next := ih result
            (act_stays_faultless me faultless (.isPinned object.name)) later
            (by
              rw [objects]
              exact fun other member => there other (List.mem_cons_of_mem _ member))
          rw [pins] at next
          apply next.mono
          rintro final pair ⟨same, left⟩
          exact ⟨same, left.objects.trans (by rw [objects]), left.pins.trans pins⟩
        · obtain ⟨_, objects, pins⟩ := act_isPinned_unpinned me faultless pinned
          obtain ⟨content, found⟩ := there object List.mem_cons_self
          have looked := act_stays_faultless me faultless (.isPinned object.name)
          rw [← objects] at found
          obtain ⟨removed, left, marked⟩ := act_removeObject me looked found
          have next := ih (result.without object.bytes true)
            (act_stays_faultless me looked (.removeObject object.name)) later (by
              intro other member
              rw [left, lookup_filter_ne (elsewhere other member), objects]
              exact there other (List.mem_cons_of_mem _ member))
          rw [if_neg pinned]
          apply evictObjects_unpinned faultless enough pinned rfl removed
          rw [marked, pins] at next
          apply next.mono
          rintro final pair ⟨same, gone⟩
          refine ⟨?_, ?_, ?_⟩
          · rw [same, EvictionResult.afterAll_cons]
            rfl
          · rw [gone.objects, left, objects, List.filter_filter]
            apply List.filter_congr
            intro entry _
            simp only [List.map_cons, List.mem_cons, not_or, Bool.decide_and, Bool.and_comm]
            rfl
          · rw [gone.pins, marked, pins]

end Rounds

theorem totalBytes_eq (store : Store ι) :
    store.totalBytes = totalOf CasObject.bytes (store.objects.map casObject) := by
  unfold Store.totalBytes totalOf
  rw [List.map_map]
  rfl

theorem kept_perm {objects : List (String × Content)} {sorted removed kept : List CasObject}
    (once : (objects.map Prod.fst).Nodup) (same : sorted.Perm (objects.map casObject))
    (parts : (removed ++ kept).Perm sorted) :
    ((objects.filter fun object => object.1 ∉ removed.map CasObject.name).map casObject).Perm
      kept := by
  have names : ((removed ++ kept).map CasObject.name).Nodup := by
    have permuted := ((parts.trans same).map CasObject.name).nodup_iff
    rw [permuted, List.map_map]
    exact once
  rw [List.map_append, List.nodup_append] at names
  obtain ⟨_, _, apart⟩ := names
  have gone : removed.filter (fun object => object.name ∉ removed.map CasObject.name) = [] := by
    rw [List.filter_eq_nil_iff]
    intro object member
    simp only [decide_eq_true_eq, not_not]
    exact List.mem_map_of_mem member
  have stays : kept.filter (fun object => object.name ∉ removed.map CasObject.name) = kept := by
    rw [List.filter_eq_self]
    intro object member
    apply decide_eq_true
    intro removed_too
    exact apart _ removed_too _ (List.mem_map_of_mem member) rfl
  have filtered := (parts.trans same).filter
    fun object : CasObject => object.name ∉ removed.map CasObject.name
  rw [List.filter_append, gone, stays, List.nil_append, List.filter_map] at filtered
  exact filtered.symm

theorem evicted_of_removed {maxBytes : Nat} {sorted : List CasObject} {after : Store ι}
    {pair : Store ι × ι} (intact : Intact blake3Hex store)
    (same : sorted.Perm (store.objects.map casObject)) (pins : pair.1.pins = store.pins)
    (objects : pair.1.objects = store.objects)
    (removed : Removed (swept maxBytes store.pins sorted store.totalBytes).1 pair.1 (after, me)) :
    let result := EvictionResult.afterAll
      { bytesBefore := store.totalBytes, bytesAfter := store.totalBytes }
      (swept maxBytes store.pins sorted store.totalBytes).1
    Evicted maxBytes store after { result with targetMet := result.bytesAfter ≤ maxBytes } := by
  have sweeping : Swept (fun total _ => total ≤ maxBytes) CasObject.bytes
      (fun object => object.name ∉ store.pins) sorted store.totalBytes sorted.length
      (swept maxBytes store.pins sorted store.totalBytes).1
      (swept maxBytes store.pins sorted store.totalBytes).2 := swept_sweep _ _ _
  generalize (swept maxBytes store.pins sorted store.totalBytes).1 = gone at sweeping removed ⊢
  generalize (swept maxBytes store.pins sorted store.totalBytes).2 = kept at sweeping
  have left : after.objects = store.objects.filter fun object =>
      object.1 ∉ gone.map CasObject.name := by
    have listed := removed.objects
    rw [objects] at listed
    exact listed
  have stays := kept_perm intact.once same sweeping.parts
  rw [← left] at stays
  have sum : totalOf CasObject.bytes gone + totalOf CasObject.bytes kept = store.totalBytes := by
    rw [sweeping.total, totalBytes_eq]
    exact (same.map CasObject.bytes).sum_nat
  have kept_sum : totalOf CasObject.bytes kept = after.totalBytes := by
    rw [totalBytes_eq]
    exact (stays.map CasObject.bytes).sum_nat.symm
  have counts : gone.length + after.objects.length = store.objects.length := by
    have kept_length := stays.length_eq
    have listed := same.length_eq
    rw [List.length_map] at kept_length listed
    rw [kept_length, sweeping.length, listed]
  have bytes : store.totalBytes - totalOf CasObject.bytes gone = after.totalBytes := by
    omega
  have marks : after.pins = store.pins := removed.pins.trans pins
  refine ⟨rfl, bytes, ?_, ?_, ?_, ?_, marks, ?_, ?_⟩
  · simp only [EvictionResult.afterAll]
    omega
  · simp only [EvictionResult.afterAll]
    omega
  · exact congrArg (fun total => decide (total ≤ maxBytes)) bytes
  · rcases sweeping.met with within | nothing
    · left
      rw [← bytes]
      exact of_decide_eq_true within
    · right
      intro object member
      have inside : casObject object ∈ kept := stays.mem_iff.mp (List.mem_map_of_mem member)
      have ineligible := List.filter_eq_nil_iff.mp nothing _ inside
      have pinned : (casObject object).name ∈ store.pins := by
        simpa using ineligible
      rw [marks]
      exact pinned
  · rw [left]
    exact List.filter_sublist
  · intro object member pinned
    rw [left]
    refine List.mem_filter.mpr ⟨member, decide_eq_true ?_⟩
    intro listed
    obtain ⟨found, inside, named⟩ := List.mem_map.mp listed
    have unpinned := of_decide_eq_true (sweeping.eligible_of_removed inside)
    rw [named] at unpinned
    exact unpinned pinned

variable [DecidableEq ι]

theorem evictTo_alone (intact : Intact blake3Hex store) (faultless : Faultless store)
    (maxBytes : Nat) :
    Returns casHandler (evictTo maxBytes) (store, me) fun result pair =>
      Evicted maxBytes store pair.1 result := by
  apply (objects_returns intact faultless).bind
  rintro found ⟨listed, client⟩ ⟨rfl, unchanged, same⟩
  have client_eq : client = me := same
  rw [client_eq] at unchanged ⊢
  have total : ((store.objects.map casObject).map CasObject.bytes).sum = store.totalBytes :=
    (totalBytes_eq store).symm
  have sorted := List.perm_insertionSort CasObject.olderOrEqual (store.objects.map casObject)
  have once : (((store.objects.map casObject).insertionSort CasObject.olderOrEqual).map
      CasObject.name).Nodup := by
    rw [(sorted.map CasObject.name).nodup_iff, List.map_map]
    exact intact.once
  have there : ∀ object ∈ (store.objects.map casObject).insertionSort CasObject.olderOrEqual,
      ∃ content, listed.objects.lookup object.name = some content := by
    intro object member
    obtain ⟨entry, inside, rfl⟩ := List.mem_map.mp (sorted.mem_iff.mp member)
    rw [unchanged.objects]
    exact ⟨entry.2, lookup_of_mem intact.once inside⟩
  rw [total]
  apply (evictObjects_returns maxBytes _ unchanged.faultless once there).bind
  rintro result ⟨after, _⟩ ⟨rfl, removed⟩
  apply Returns.done
  rw [unchanged.pins] at removed ⊢
  exact evicted_of_removed intact sorted unchanged.pins unchanged.objects removed

/-- Whatever clients do to an intact store and whichever operations fail: the objects have the
content of their names, one that is removed while pinned was pinned after an eviction looked at
its marker, and the next eviction that is alone reports exactly what it does. -/
theorem local_cas_clones (blake3Hex : List UInt8 → String) (calls : ι → List Call)
    (honest : ∀ i, ∀ call ∈ calls i, call.Honest blake3Hex) (store : Store ι)
    (intact : Intact blake3Hex store) (unseen : store.sightings = [])
    (unremoved : store.removedPinned = [])
    {pool : Pool ι casInterface StateError (Store ι) ι Unit}
    (reaches : Pool.Reaches casHandler (fun _ _ _ _ => True) (clones blake3Hex calls store)
      pool) :
    Intact blake3Hex pool.shared ∧
      (∀ name ∈ pool.shared.removedPinned, name ∈ pool.shared.pinnedLate) ∧
      ∀ me maxBytes, Faultless pool.shared →
        Returns casHandler (evictTo maxBytes) (pool.shared, me) fun result pair =>
          Evicted maxBytes pool.shared pair.1 result := by
  have accounted : Accounted store := by
    constructor
    · rw [unseen]
      exact fun _ member => absurd member List.not_mem_nil
    · rw [unremoved]
      exact fun _ member => absurd member List.not_mem_nil
  have still := clones_keep honest reaches (fun _ _ _ guarantee => guarantee.intact) intact
  have kept := clones_keep honest reaches (fun _ _ _ guarantee => guarantee.accounted) accounted
  exact ⟨still, kept.removed, fun me maxBytes faultless => evictTo_alone still faultless maxBytes⟩

namespace Sample

def byteName : String := "2d3adedff11b61f14c886e35afa036736dcd87a74d27b5c1510225d0f592e213"

def hashOf (data : List UInt8) : String :=
  if data = [0] then "blake3:" ++ byteName
  else "blake3:af1349b9f5f9a1a6a0404dea36dcc9499bcb25c9adc112b7cc9a93cae41f3262"

def calls : Bool → List Call
  | true => [.pin ("blake3:" ++ byteName)]
  | false => [.put [0], .evictTo 0]

def start : Pool Bool casInterface StateError (Store Bool) Bool Unit := clones hashOf calls {}

def after (order : List Bool) : Pool Bool casInterface StateError (Store Bool) Bool Unit :=
  Pool.interleave casHandler order start

theorem after_reaches (order : List Bool)
    (follows : Pool.follows casHandler (fun _ _ _ _ => true) order start = true) :
    Pool.Reaches casHandler (fun _ _ _ _ => True) start (after order) :=
  interleave_reaches (fun _ _ _ _ => true) (fun _ _ _ _ _ => trivial) order start follows

end Sample

theorem pinned_object_stays :
    ∃ pool, Pool.Reaches casHandler (fun _ _ _ _ => True) Sample.start pool ∧
      pool.shared.pins = [Sample.byteName] ∧ Intact Sample.hashOf pool.shared ∧
      Returns casHandler (evictTo 0) (pool.shared, true) fun result pair =>
        Evicted 0 pool.shared pair.1 result := by
  let order := List.replicate 7 false ++ List.replicate 4 true ++ List.replicate 4 false
  have left : Pool.follows casHandler (fun _ _ _ _ => true) order Sample.start = true ∧
      (Sample.after order).shared.pins = [Sample.byteName] ∧
      (Sample.after order).shared.turns = [] := by decide +kernel
  have reaches := Sample.after_reaches order left.1
  have sound := local_cas_clones Sample.hashOf Sample.calls
    (by
      intro i call member
      cases i with
      | false =>
          rcases List.mem_pair.mp member with rfl | rfl
          · trivial
          · trivial
      | true =>
          rw [List.mem_singleton.mp member]
          trivial)
    {} ⟨List.nodup_nil, fun _ member => absurd member List.not_mem_nil,
      fun _ member => absurd member List.not_mem_nil⟩ rfl rfl reaches
  refine ⟨_, reaches, left.2.1, sound.1, sound.2.2 true 0 ?_⟩
  intro turn member
  rw [left.2.2] at member
  exact absurd member List.not_mem_nil

/-- The pin comes between the look and the removal. -/
theorem pinned_object_evicted :
    ∃ pool, Pool.Reaches casHandler (fun _ _ _ _ => True) Sample.start pool ∧
      pool.shared.pins = [Sample.byteName] ∧ pool.shared.objects = [] ∧
      pool.shared.removedPinned = [Sample.byteName] := by
  let order := List.replicate 10 false ++ List.replicate 4 true ++ [false]
  have raced : Pool.follows casHandler (fun _ _ _ _ => true) order Sample.start = true ∧
      (Sample.after order).shared.pins = [Sample.byteName] ∧
      (Sample.after order).shared.objects = [] ∧
      (Sample.after order).shared.removedPinned = [Sample.byteName] := by decide +kernel
  exact ⟨_, Sample.after_reaches order raced.1, raced.2⟩

end Noland.Cas.Local
