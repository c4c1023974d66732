import Mathlib.Data.Finset.Dedup
import Mathlib.Data.Finset.Card
import Mathlib.Data.List.Induction
import Noland.Attribution.EventQueue

/-!
A write is merged into a queued one by the text of its path alone. Two paths may have the same
text, and a rename or an unlink does not make the queue forget where the last write is.
-/

namespace Noland.Attribution

open Noland.Core
open Noland.StateDb

structure Observed {Path : Type} (text : Path → String) where
  event : QueuedEvent
  path : Path
  shown : ∀ identity, event.filesystemIdentity = some identity → identity.2.1 = text path

def QueuedEvent.process? : QueuedEvent → Option Pid
  | .process _ => none
  | .filesystem fact => some fact.event.pid

def QueuedEvent.displaces (event : QueuedEvent) : Bool :=
  event.filesystemIdentity.any fun identity =>
    identity.1 = .rename || identity.1 = .unlink

section Paths

variable {Path : Type} {text : Path → String}

def entries (pushes : List (Observed text)) : List Entry :=
  pushes.mapIdx fun number pushed => ⟨number, pushed.event⟩

def pushedQueue (cap : Nat) (pushes : List (Observed text)) : EventQueue :=
  (entries pushes).foldl (fun queue entry => (queue.push entry).1) { cap := cap }

/-- A later write may be merged into an earlier one: both are of one path and one process, and
the path is neither renamed nor unlinked between them. -/
def MayMerge (pushes : List (Observed text)) (earlier later : Nat) : Prop :=
  ∃ target pushed, pushes[earlier]? = some target ∧ pushes[later]? = some pushed ∧
    earlier < later ∧ target.event.writeKey.isSome ∧ pushed.event.writeKey.isSome ∧
    target.path = pushed.path ∧ target.event.process? = pushed.event.process? ∧
    ∀ place between, earlier < place → place < later → pushes[place]? = some between →
      between.path = pushed.path → between.event.displaces = false

/-- What is drained are the pushed events in their order. A missing one is merged into one that
is there, and an event that others are merged into bears the time of one of them. -/
structure Coalesced (pushes : List (Observed text)) (drained : List Entry) : Prop where
  order : (drained.map fun entry => entry.number).Sublist (List.range pushes.length)
  pushed : ∀ entry ∈ drained, ∃ original latest place, pushes[entry.number]? = some original ∧
    pushes[place]? = some latest ∧ (place = entry.number ∨ MayMerge pushes entry.number place) ∧
    entry = Entry.retimed (EventQueue.observedAt latest.event) ⟨entry.number, original.event⟩
  merged : ∀ number, number < pushes.length → number ∉ drained.map (fun entry => entry.number) →
    ∃ target ∈ drained, MayMerge pushes target.number number

def placesNeeded (pushes : List (Observed text)) : Nat :=
  (pushes.filter fun pushed => pushed.event.writeKey.isNone).length +
    (pushes.filterMap fun pushed => pushed.event.writeKey).toFinset.card

def FirstWrite (pushes : List (Observed text)) (key : String) (number : Nat) : Prop :=
  (∃ pushed, pushes[number]? = some pushed ∧ pushed.event.writeKey = some key) ∧
    ∀ place before, place < number → pushes[place]? = some before →
      before.event.writeKey ≠ some key

/-- The writes of a text are of one path and one process, and the path is neither renamed nor
unlinked between the first of them and another. -/
def WritesAgree (pushes : List (Observed text)) : Prop :=
  ∀ key first number pushed, FirstWrite pushes key first → first < number →
    pushes[number]? = some pushed → pushed.event.writeKey = some key →
    ∃ target, pushes[first]? = some target ∧ target.path = pushed.path ∧
      target.event.process? = pushed.event.process? ∧
      ∀ place between, first < place → place < number → pushes[place]? = some between →
        between.path = pushed.path → between.event.displaces = false

theorem entries_snoc (pushes : List (Observed text)) (pushed : Observed text) :
    entries (pushes ++ [pushed]) = entries pushes ++ [⟨pushes.length, pushed.event⟩] := by
  rw [entries, entries, List.mapIdx_concat]

theorem pushedQueue_snoc (cap : Nat) (pushes : List (Observed text)) (pushed : Observed text) :
    pushedQueue cap (pushes ++ [pushed]) =
      ((pushedQueue cap pushes).push ⟨pushes.length, pushed.event⟩).1 := by
  rw [pushedQueue, pushedQueue, entries_snoc, List.foldl_append]
  rfl

theorem retimed_retimed (first second : Timestamp) (entry : Entry) :
    (entry.retimed first).retimed second = entry.retimed second := by
  obtain ⟨number, event⟩ := entry
  cases event with
  | process event => rfl
  | filesystem fact => cases fact <;> rfl

theorem retimed_observedAt (entry : Entry) :
    entry.retimed (EventQueue.observedAt entry.event) = entry := by
  obtain ⟨number, event⟩ := entry
  cases event with
  | process event => rfl
  | filesystem fact => cases fact <;> rfl

variable {pushes : List (Observed text)} {queue : EventQueue}

theorem FirstWrite.snoc {key : String} {number : Nat} (first : FirstWrite pushes key number)
    (pushed : Observed text) : FirstWrite (pushes ++ [pushed]) key number := by
  obtain ⟨⟨own, at_number, written⟩, none_before⟩ := first
  have bound := (List.getElem?_eq_some_iff.mp at_number).1
  refine ⟨⟨own, by rw [List.getElem?_append_left bound]; exact at_number, written⟩, ?_⟩
  intro place before earlier at_place
  rw [List.getElem?_append_left (earlier.trans bound)] at at_place
  exact none_before place before earlier at_place

theorem FirstWrite.unique {key : String} {one other : Nat} (first : FirstWrite pushes key one)
    (again : FirstWrite pushes key other) : one = other := by
  obtain ⟨⟨own, at_one, written⟩, none_before⟩ := first
  obtain ⟨⟨also, at_other, rewritten⟩, none_earlier⟩ := again
  rcases Nat.lt_trichotomy one other with less | same | more
  · exact absurd written (none_earlier one own less at_one)
  · exact same
  · exact absurd rewritten (none_before other also more at_other)

structure Follows (pushes : List (Observed text)) (queue : EventQueue) : Prop where
  order : (queue.events.map fun entry => entry.number).Sublist (List.range pushes.length)
  unwritten : ∀ key, queue.lastWrite key = none →
    ∀ pushed ∈ pushes, pushed.event.writeKey ≠ some key
  written : ∀ key index, queue.lastWrite key = some index →
    ∃ entry, queue.events[index]? = some entry ∧ FirstWrite pushes key entry.number
  firsts : ∀ entry ∈ queue.events, ∀ key, entry.event.writeKey = some key →
    FirstWrite pushes key entry.number
  held : ∀ number pushed, pushes[number]? = some pushed →
    (∃ entry ∈ queue.events, entry.number = number) ∨
      ∃ key, pushed.event.writeKey = some key ∧
        ∃ entry ∈ queue.events, entry.number < number ∧ FirstWrite pushes key entry.number
  times : ∀ entry ∈ queue.events, ∃ original latest place,
    pushes[entry.number]? = some original ∧ pushes[place]? = some latest ∧
      (place = entry.number ∨
        entry.number < place ∧ ∃ key, FirstWrite pushes key entry.number ∧
          latest.event.writeKey = some key) ∧
      entry = Entry.retimed (EventQueue.observedAt latest.event) ⟨entry.number, original.event⟩
  places : queue.events.length = placesNeeded pushes

theorem follows_new (cap : Nat) : Follows ([] : List (Observed text)) { cap := cap } := by
  exact ⟨List.Sublist.refl _, by simp, by simp, by simp, by simp, by simp, rfl⟩

theorem Follows.mergeTarget (follows : Follows pushes queue) (event : QueuedEvent) :
    (∃ key index target, event.writeKey = some key ∧ queue.events[index]? = some target ∧
        FirstWrite pushes key target.number ∧ queue.mergeTarget event = some (index, target)) ∨
      (∀ key, event.writeKey = some key → ∀ pushed ∈ pushes, pushed.event.writeKey ≠ some key) ∧
        queue.mergeTarget event = none := by
  cases written : event.writeKey with
  | none => exact Or.inr ⟨by simp, by rw [EventQueue.mergeTarget, written]; rfl⟩
  | some key =>
      cases remembered : queue.lastWrite key with
      | none =>
          refine Or.inr ⟨?_, by rw [EventQueue.mergeTarget, written]; simp [remembered]⟩
          intro other same
          rw [← Option.some.inj same]
          exact follows.unwritten key remembered
      | some index =>
          obtain ⟨target, at_index, first⟩ := follows.written key index remembered
          exact Or.inl ⟨key, index, target, rfl, at_index, first,
            by rw [EventQueue.mergeTarget, written]; simp [remembered, at_index]⟩

theorem placesNeeded_snoc (pushes : List (Observed text)) (pushed : Observed text) :
    placesNeeded (pushes ++ [pushed]) =
      if ∃ key, pushed.event.writeKey = some key ∧
          ∃ before ∈ pushes, before.event.writeKey = some key
      then placesNeeded pushes else placesNeeded pushes + 1 := by
  rw [placesNeeded, List.filter_append, List.filterMap_append, List.toFinset_append,
    List.length_append, placesNeeded]
  cases written : pushed.event.writeKey with
  | none => simp [written, Nat.add_right_comm]
  | some key =>
      by_cases before : ∃ earlier ∈ pushes, earlier.event.writeKey = some key
      · rw [if_pos ⟨key, rfl, before⟩]
        have known : key ∈ (pushes.filterMap fun earlier => earlier.event.writeKey).toFinset := by
          simpa using before
        simp [written, Finset.union_singleton, Finset.insert_eq_of_mem known]
      · rw [if_neg (by simpa using before)]
        have unknown : key ∉ (pushes.filterMap fun earlier => earlier.event.writeKey).toFinset := by
          simpa using before
        simp [written, Finset.union_singleton, Finset.card_insert_of_notMem unknown, Nat.add_assoc]

theorem getElem?_snoc_cases {pushed found : Observed text} {number : Nat}
    (at_number : (pushes ++ [pushed])[number]? = some found) :
    pushes[number]? = some found ∨ number = pushes.length ∧ found = pushed := by
  rw [List.getElem?_append] at at_number
  split_ifs at at_number with bound
  · exact Or.inl at_number
  · rw [List.getElem?_singleton] at at_number
    split_ifs at at_number with last
    exact Or.inr ⟨by omega, (Option.some.inj at_number).symm⟩

theorem getElem?_snoc {found : Observed text} {number : Nat}
    (at_number : pushes[number]? = some found) (pushed : Observed text) :
    (pushes ++ [pushed])[number]? = some found := by
  rw [List.getElem?_append_left (List.getElem?_eq_some_iff.mp at_number).1]
  exact at_number

theorem Follows.merge (follows : Follows pushes queue) (pushed : Observed text) {key : String}
    {index : Nat} {target : Entry} (written : pushed.event.writeKey = some key)
    (at_index : queue.events[index]? = some target) (first : FirstWrite pushes key target.number) :
    Follows (pushes ++ [pushed])
      { queue with
        events := queue.events.set index
          (target.retimed (EventQueue.observedAt pushed.event)) } := by
  have bound := (List.getElem?_eq_some_iff.mp at_index).1
  have inQueue := List.mem_of_getElem? at_index
  obtain ⟨⟨own, at_target, ownKey⟩, -⟩ := id first
  have early := (List.getElem?_eq_some_iff.mp at_target).1
  have numbers : (queue.events.set index (target.retimed
      (EventQueue.observedAt pushed.event))).map (fun entry => entry.number) =
      queue.events.map fun entry => entry.number := by
    apply List.ext_getElem?
    intro place
    simp only [List.map_set, EventQueue.retimed_number, List.getElem?_set, List.length_map,
      List.getElem?_map]
    split_ifs with here
    · subst here
      simp [at_index]
    · rfl
  have stays : ∀ entry ∈ queue.events, ∃ kept ∈ queue.events.set index
      (target.retimed (EventQueue.observedAt pushed.event)), kept.number = entry.number := by
    intro entry member
    have listed : entry.number ∈ queue.events.map fun entry => entry.number :=
      List.mem_map_of_mem member
    rw [← numbers] at listed
    obtain ⟨kept, member, same⟩ := List.mem_map.mp listed
    exact ⟨kept, member, same⟩
  constructor
  · rw [numbers, List.length_append]
    exact follows.order.trans (by simp [List.range_succ])
  · intro other forgotten earlier member
    rcases List.mem_append.mp member with old | new
    · exact follows.unwritten other forgotten earlier old
    · rw [List.mem_singleton.mp new, written]
      intro same
      rw [← Option.some.inj same] at forgotten
      exact follows.unwritten key forgotten own (List.mem_of_getElem? at_target) ownKey
  · intro other place remembered
    obtain ⟨entry, at_place, firstOther⟩ := follows.written other place remembered
    simp only [List.getElem?_set]
    split_ifs with here
    · subst here
      rw [at_index, Option.some.injEq] at at_place
      subst at_place
      exact ⟨_, rfl, by rw [EventQueue.retimed_number]; exact firstOther.snoc pushed⟩
    · exact ⟨entry, at_place, firstOther.snoc pushed⟩
  · intro entry member other entryKey
    rcases List.mem_or_eq_of_mem_set member with old | new
    · exact (follows.firsts entry old other entryKey).snoc pushed
    · rw [new, EventQueue.retimed_writeKey] at entryKey
      rw [new, EventQueue.retimed_number]
      exact (follows.firsts target inQueue other entryKey).snoc pushed
  · intro number found at_number
    rcases getElem?_snoc_cases at_number with old | ⟨rfl, rfl⟩
    · rcases follows.held number found old with ⟨entry, member, same⟩ | ⟨other, foundKey, entry,
        member, before, firstOther⟩
      · obtain ⟨kept, keptMember, keptNumber⟩ := stays entry member
        exact Or.inl ⟨kept, keptMember, keptNumber.trans same⟩
      · obtain ⟨kept, keptMember, keptNumber⟩ := stays entry member
        exact Or.inr ⟨other, foundKey, kept, keptMember, by rw [keptNumber]; exact before,
          by rw [keptNumber]; exact firstOther.snoc pushed⟩
    · obtain ⟨kept, keptMember, keptNumber⟩ := stays target inQueue
      exact Or.inr ⟨key, written, kept, keptMember, by rw [keptNumber]; exact early,
        by rw [keptNumber]; exact first.snoc found⟩
  · intro entry member
    rcases List.mem_or_eq_of_mem_set member with old | new
    · obtain ⟨original, latest, place, at_number, at_place, merged, shape⟩ :=
        follows.times entry old
      refine ⟨original, latest, place, getElem?_snoc at_number pushed,
        getElem?_snoc at_place pushed, ?_, shape⟩
      rcases merged with same | ⟨after, other, firstOther, latestKey⟩
      · exact Or.inl same
      · exact Or.inr ⟨after, other, firstOther.snoc pushed, latestKey⟩
    · obtain ⟨original, latest, place, at_number, -, -, shape⟩ := follows.times target inQueue
      rw [new, EventQueue.retimed_number]
      refine ⟨original, pushed, pushes.length, getElem?_snoc at_number pushed, by simp,
        Or.inr ⟨early, key, first.snoc pushed, written⟩, ?_⟩
      rw [shape, retimed_retimed, EventQueue.retimed_number]
  · rw [List.length_set, follows.places, placesNeeded_snoc,
      if_pos ⟨key, written, own, List.mem_of_getElem? at_target, ownKey⟩]

theorem Follows.append (follows : Follows pushes queue) (pushed : Observed text)
    (unwritten : ∀ key, pushed.event.writeKey = some key →
      ∀ before ∈ pushes, before.event.writeKey ≠ some key) :
    Follows (pushes ++ [pushed]) (queue.append ⟨pushes.length, pushed.event⟩) := by
  have opens : ∀ key, pushed.event.writeKey = some key →
      FirstWrite (pushes ++ [pushed]) key pushes.length := by
    intro key written
    refine ⟨⟨pushed, by simp, written⟩, ?_⟩
    intro place before early at_place
    rw [List.getElem?_append_left early] at at_place
    exact unwritten key written before (List.mem_of_getElem? at_place)
  have stays : ∀ entry ∈ queue.events,
      entry ∈ (queue.append ⟨pushes.length, pushed.event⟩).events :=
    fun entry member => List.mem_append_left _ member
  constructor
  · simp only [EventQueue.append, List.map_append, List.length_append, List.length_singleton,
      List.range_succ]
    exact follows.order.append (List.Sublist.refl _)
  · intro key forgotten before member
    have apart : queue.lastWrite key = none ∧ pushed.event.writeKey ≠ some key := by
      simp only [EventQueue.append] at forgotten
      cases written : pushed.event.writeKey with
      | none => simpa [written] using forgotten
      | some other =>
          simp only [written] at forgotten
          split_ifs at forgotten with same
          exact ⟨forgotten, by simpa using Ne.symm same⟩
    rcases List.mem_append.mp member with old | new
    · exact follows.unwritten key apart.1 before old
    · rw [List.mem_singleton.mp new]
      exact apart.2
  · intro key index remembered
    have either : pushed.event.writeKey = some key ∧ index = queue.events.length ∨
        queue.lastWrite key = some index := by
      simp only [EventQueue.append] at remembered
      cases written : pushed.event.writeKey with
      | none => exact Or.inr (by simpa [written] using remembered)
      | some other =>
          simp only [written] at remembered
          split_ifs at remembered with same
          · exact Or.inl ⟨by rw [same], (Option.some.inj remembered).symm⟩
          · exact Or.inr remembered
    rcases either with ⟨written, rfl⟩ | old
    · exact ⟨⟨pushes.length, pushed.event⟩, by simp [EventQueue.append], opens key written⟩
    · obtain ⟨entry, at_index, first⟩ := follows.written key index old
      refine ⟨entry, ?_, first.snoc pushed⟩
      simp only [EventQueue.append]
      rw [List.getElem?_append_left (List.getElem?_eq_some_iff.mp at_index).1]
      exact at_index
  · intro entry member key written
    rcases List.mem_append.mp member with old | new
    · exact (follows.firsts entry old key written).snoc pushed
    · rw [List.mem_singleton.mp new] at written ⊢
      exact opens key written
  · intro number found at_number
    rcases getElem?_snoc_cases at_number with old | ⟨rfl, rfl⟩
    · rcases follows.held number found old with ⟨entry, member, same⟩ | ⟨key, foundKey, entry,
        member, before, first⟩
      · exact Or.inl ⟨entry, stays entry member, same⟩
      · exact Or.inr ⟨key, foundKey, entry, stays entry member, before, first.snoc pushed⟩
    · exact Or.inl ⟨_, List.mem_append_right _ (List.mem_singleton.mpr rfl), rfl⟩
  · intro entry member
    rcases List.mem_append.mp member with old | new
    · obtain ⟨original, latest, place, at_number, at_place, merged, shape⟩ :=
        follows.times entry old
      refine ⟨original, latest, place, getElem?_snoc at_number pushed,
        getElem?_snoc at_place pushed, ?_, shape⟩
      rcases merged with same | ⟨after, other, firstOther, latestKey⟩
      · exact Or.inl same
      · exact Or.inr ⟨after, other, firstOther.snoc pushed, latestKey⟩
    · rw [List.mem_singleton.mp new]
      exact ⟨pushed, pushed, pushes.length, by simp, by simp, Or.inl rfl,
        (retimed_observedAt _).symm⟩
  · rw [EventQueue.append, List.length_append, List.length_singleton, follows.places,
      placesNeeded_snoc, if_neg]
    rintro ⟨key, written, before, member, beforeKey⟩
    exact unwritten key written before member beforeKey

theorem push_cap (queue : EventQueue) (entry : Entry) : (queue.push entry).1.cap = queue.cap := by
  rw [EventQueue.push]
  split
  · rfl
  · split_ifs
    · split <;> rfl
    · split <;> rfl
    · rfl

theorem push_room {queue : EventQueue} {entry : Entry}
    (alone : queue.mergeTarget entry.event = none) (room : queue.events.length < queue.cap) :
    (queue.push entry).1 = queue.append entry := by
  rw [EventQueue.push, alone]
  simp only [if_neg (Nat.not_le.mpr room)]

theorem push_full {queue : EventQueue} {entry : Entry}
    (alone : queue.mergeTarget entry.event = none) (full : queue.cap ≤ queue.events.length) :
    (queue.push entry).1.dropped = queue.dropped + 1 := by
  rw [EventQueue.push, alone]
  simp only [if_pos full]
  split
  · rfl
  · split <;> rfl

theorem push_merged {queue : EventQueue} {entry target : Entry} {index : Nat}
    (found : queue.mergeTarget entry.event = some (index, target)) :
    (queue.push entry).1 =
      { queue with
        events := queue.events.set index
          (target.retimed (EventQueue.observedAt entry.event)) } := by
  rw [EventQueue.push, found]

theorem dropped_le_push (queue : EventQueue) (entry : Entry) :
    queue.dropped ≤ (queue.push entry).1.dropped := by
  cases found : queue.mergeTarget entry.event with
  | some target => rw [push_merged found]
  | none =>
      by_cases full : queue.cap ≤ queue.events.length
      · rw [push_full found full]
        exact Nat.le_succ _
      · rw [push_room found (by omega)]
        exact Nat.le_refl _

theorem follows_pushed (cap : Nat) (pushes : List (Observed text)) :
    (pushedQueue cap pushes).cap = cap ∧ (pushedQueue cap pushes).Placed ∧
      ((pushedQueue cap pushes).dropped = 0 ↔ placesNeeded pushes ≤ cap) ∧
      ((pushedQueue cap pushes).dropped = 0 → Follows pushes (pushedQueue cap pushes)) := by
  induction pushes using List.reverseRecOn with
  | nil =>
      exact ⟨rfl, EventQueue.placed_forgotten _ fun _ => rfl,
        iff_of_true rfl (Nat.zero_le _), fun _ => follows_new cap⟩
  | append_singleton pushes pushed ih =>
      obtain ⟨capacity, placed, dropping, following⟩ := ih
      rw [pushedQueue_snoc]
      refine ⟨(push_cap _ _).trans capacity, (placed.push _).1, ?_⟩
      by_cases kept : (pushedQueue cap pushes).dropped = 0
      · have follows := following kept
        have fits := dropping.mp kept
        rcases follows.mergeTarget pushed.event with
          ⟨key, index, target, written, at_index, first, found⟩ | ⟨unwritten, found⟩
        · rw [@push_merged _ ⟨pushes.length, pushed.event⟩ _ _ found]
          have after := follows.merge pushed written at_index first
          refine ⟨iff_of_true kept ?_, fun _ => after⟩
          rw [← after.places, List.length_set, follows.places]
          exact fits
        · by_cases full : (pushedQueue cap pushes).cap ≤ (pushedQueue cap pushes).events.length
          · have dropped := @push_full _ ⟨pushes.length, pushed.event⟩ found full
            have places := (follows.append pushed unwritten).places
            rw [EventQueue.append, List.length_append, List.length_singleton] at places
            constructor
            · rw [dropped, ← places]
              omega
            · rw [dropped]
              omega
          · rw [@push_room _ ⟨pushes.length, pushed.event⟩ found (by omega)]
            have after := follows.append pushed unwritten
            refine ⟨iff_of_true kept ?_, fun _ => after⟩
            rw [← after.places, EventQueue.append, List.length_append, List.length_singleton]
            omega
      · have grown := dropped_le_push (pushedQueue cap pushes) ⟨pushes.length, pushed.event⟩
        have more : placesNeeded pushes ≤ placesNeeded (pushes ++ [pushed]) := by
          rw [placesNeeded_snoc]
          split_ifs
          · exact Nat.le_refl _
          · exact Nat.le_succ _
        have short : ¬ placesNeeded pushes ≤ cap := fun fits => kept (dropping.mpr fits)
        exact ⟨iff_of_false (by omega) (by omega), fun none => absurd none (by omega)⟩

theorem Observed.text_path (pushed : Observed text) {key : String}
    (written : pushed.event.writeKey = some key) : key = text pushed.path := by
  rw [QueuedEvent.writeKey] at written
  cases identity : pushed.event.filesystemIdentity with
  | none => simp [identity] at written
  | some found =>
      obtain ⟨kind, name, time⟩ := found
      have shown := pushed.shown _ identity
      cases kind <;> simp [identity] at written <;> rw [← written] <;> exact shown

theorem Follows.writeKey (follows : Follows pushes queue) {entry : Entry}
    (member : entry ∈ queue.events) {original : Observed text}
    (at_number : pushes[entry.number]? = some original) :
    entry.event.writeKey = original.event.writeKey := by
  obtain ⟨own, latest, place, at_own, -, -, shape⟩ := follows.times entry member
  rw [at_number, Option.some.injEq] at at_own
  subst at_own
  rw [shape, EventQueue.retimed_writeKey]

theorem WritesAgree.mayMerge (agree : WritesAgree pushes) {key : String} {first number : Nat}
    (opens : FirstWrite pushes key first) (later : first < number) {pushed : Observed text}
    (at_number : pushes[number]? = some pushed) (written : pushed.event.writeKey = some key) :
    MayMerge pushes first number := by
  obtain ⟨target, at_first, path, process, between⟩ :=
    agree key first number pushed opens later at_number written
  obtain ⟨⟨own, at_own, ownKey⟩, -⟩ := opens
  rw [at_first, Option.some.injEq] at at_own
  subst at_own
  exact ⟨target, pushed, at_first, at_number, later, by rw [ownKey]; rfl, by rw [written]; rfl,
    path, process, between⟩

theorem Follows.coalesced (follows : Follows pushes queue) (agree : WritesAgree pushes) :
    Coalesced pushes queue.events := by
  constructor
  · exact follows.order
  · intro entry member
    obtain ⟨original, latest, place, at_number, at_place, merged, shape⟩ :=
      follows.times entry member
    refine ⟨original, latest, place, at_number, at_place, ?_, shape⟩
    rcases merged with same | ⟨later, key, opens, written⟩
    · exact Or.inl same
    · exact Or.inr (agree.mayMerge opens later at_place written)
  · intro number bound missing
    have at_number : pushes[number]? = some pushes[number] := List.getElem?_eq_getElem bound
    rcases follows.held number _ at_number with ⟨entry, member, same⟩ | ⟨key, written, entry,
      member, earlier, opens⟩
    · rw [← same] at missing
      exact absurd (List.mem_map_of_mem member) missing
    · exact ⟨entry, member, agree.mayMerge opens earlier at_number written⟩

theorem Follows.writesAgree (follows : Follows pushes queue)
    (coalesced : Coalesced pushes queue.events) : WritesAgree pushes := by
  intro key first number pushed opens later at_number written
  have bound := (List.getElem?_eq_some_iff.mp at_number).1
  have missing : number ∉ queue.events.map fun entry => entry.number := by
    intro listed
    obtain ⟨entry, member, same⟩ := List.mem_map.mp listed
    subst same
    have entryKey := (follows.writeKey member at_number).trans written
    have same := opens.unique (follows.firsts entry member key entryKey)
    omega
  obtain ⟨target, member, original, also, at_target, at_also, earlier, targetWritten, -, path,
    process, between⟩ := coalesced.merged number bound missing
  rw [at_number, Option.some.injEq] at at_also
  subst at_also
  obtain ⟨other, otherKey⟩ := Option.isSome_iff_exists.mp targetWritten
  have same : other = key := by
    rw [original.text_path otherKey, path, ← pushed.text_path written]
  rw [same] at otherKey
  have entryKey := (follows.writeKey member at_target).trans otherKey
  have here := opens.unique (follows.firsts target member key entryKey)
  rw [here]
  exact ⟨original, at_target, path, process, between⟩

/-- A remembered place always holds a write of the text. What is drained when nothing was
dropped keeps the order exactly when the pushes need more places than there are or the writes
of each text agree. -/
theorem coalescing_order_iff (cap : Nat) (pushes : List (Observed text)) :
    ((∀ key index, (pushedQueue cap pushes).lastWrite key = some index →
        ∃ entry, (pushedQueue cap pushes).events[index]? = some entry ∧
          entry.event.writeKey = some key) ∧
      ((pushedQueue cap pushes).dropped = 0 →
        Coalesced pushes (pushedQueue cap pushes).drain.2)) ↔
      (cap < placesNeeded pushes ∨ WritesAgree pushes) := by
  obtain ⟨-, placed, dropping, following⟩ := follows_pushed cap pushes
  constructor
  · rintro ⟨-, ordered⟩
    by_cases short : cap < placesNeeded pushes
    · exact Or.inl short
    · have kept := dropping.mpr (by omega)
      exact Or.inr ((following kept).writesAgree (ordered kept))
  · intro condition
    refine ⟨placed, fun kept => ?_⟩
    rcases condition with short | agree
    · have fits := dropping.mp kept
      omega
    · exact (following kept).coalesced agree

end Paths

namespace MergedSample

def observed (kind : FsEventKind) (time : Timestamp) : Observed (fun path : String => path) where
  event := .filesystem (.legacy ⟨kind, 7, "/home/player/save.dat", none, time⟩)
  path := "/home/player/save.dat"
  shown := by
    intro identity same
    rw [← Option.some.inj same]
    rfl

def rewritten : List (Observed (fun path : String => path)) :=
  [observed .write 1, observed .unlink 2, observed .write 3]

end MergedSample

/-- The write after the unlink is delivered before it, in place of the write that came first. -/
theorem coalescing_reorders :
    (pushedQueue 16 MergedSample.rewritten).dropped = 0 ∧
      (pushedQueue 16 MergedSample.rewritten).drain.2 =
        [⟨0, (MergedSample.observed .write 3).event⟩,
          ⟨1, (MergedSample.observed .unlink 2).event⟩] ∧
      ¬ Coalesced MergedSample.rewritten (pushedQueue 16 MergedSample.rewritten).drain.2 := by
  have drained : (pushedQueue 16 MergedSample.rewritten).drain.2 =
      [⟨0, (MergedSample.observed .write 3).event⟩,
        ⟨1, (MergedSample.observed .unlink 2).event⟩] := by
    decide
  refine ⟨by decide, drained, ?_⟩
  rw [drained]
  intro coalesced
  obtain ⟨target, member, original, pushed, at_target, at_pushed, -, written, -, -, -, between⟩ :=
    coalesced.merged 2 (by decide) (by decide)
  have same : pushed = MergedSample.observed .write 3 := (Option.some.inj at_pushed).symm
  rcases List.mem_cons.mp member with rfl | rest
  · have quiet := between 1 (MergedSample.observed .unlink 2) (by decide) (by decide) rfl
      (by rw [same]; rfl)
    simp [QueuedEvent.displaces, MergedSample.observed, QueuedEvent.filesystemIdentity,
      FilesystemFact.event] at quiet
  · rw [List.mem_singleton.mp rest] at at_target
    rw [← Option.some.inj at_target] at written
    simp [MergedSample.observed, QueuedEvent.writeKey, QueuedEvent.filesystemIdentity,
      FilesystemFact.event] at written

end Noland.Attribution
