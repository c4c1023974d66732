import Noland.Attribution.Ingest
import Noland.Attribution.Processes

/-!
A write is merged into a queued write of the same path. A full queue gives up reads first, then
other filesystem events, then its oldest process event; whatever it gives up raises the loss flag.
An event carries the number of pushes before it.
-/

namespace Noland.Attribution

open Noland.Core
open Noland.StateDb

inductive QueuedEvent where
  | process (event : ProcessEvent)
  | filesystem (fact : FilesystemFact)
  deriving DecidableEq

structure Entry where
  number : Nat
  event : QueuedEvent
  deriving DecidableEq

/-- `filesystem_identity` -/
def QueuedEvent.filesystemIdentity : QueuedEvent → Option (FsEventKind × String × Timestamp)
  | .process _ => none
  | .filesystem fact => some (fact.event.kind, fact.event.path, fact.event.observedAt)

def FsEventKind.isRead : FsEventKind → Bool
  | .open | .read | .mmap => true
  | _ => false

def QueuedEvent.isProcess : QueuedEvent → Bool
  | .process _ => true
  | .filesystem _ => false

def QueuedEvent.writeKey (event : QueuedEvent) : Option String :=
  match event.filesystemIdentity with
  | some (.write, path, _) => some path
  | some (.truncate, path, _) => some path
  | _ => none

def QueuedEvent.readOnly (event : QueuedEvent) : Bool :=
  event.filesystemIdentity.any fun identity => identity.1.isRead && !identity.1.isMutation

def FilesystemFact.at (fact : FilesystemFact) (time : Timestamp) : FilesystemFact :=
  match fact with
  | .legacy event => .legacy { event with observedAt := time }
  | .ebpf fact => .ebpf { fact with observedAt := time }

/-- `existing.at = at` -/
def Entry.retimed (time : Timestamp) (entry : Entry) : Entry :=
  match entry.event with
  | .process _ => entry
  | .filesystem fact => { entry with event := .filesystem (fact.at time) }

structure EventQueue where
  cap : Nat
  events : List Entry := []
  lastWrite : String → Option Nat := fun _ => none
  dropped : Nat := 0
  lossDetected : Bool := false

inductive PushOutcome where
  | merged (into : Entry)
  | queued
  | queuedFor (evicted : Entry)
  | refused
  deriving DecidableEq

namespace EventQueue

variable (queue : EventQueue)

def mergeTarget (event : QueuedEvent) : Option (Nat × Entry) :=
  event.writeKey.bind fun path =>
    (queue.lastWrite path).bind fun index => queue.events[index]?.map fun target => (index, target)

def observedAt (event : QueuedEvent) : Timestamp :=
  (event.filesystemIdentity.map fun identity => identity.2.2).getD 0

def append (entry : Entry) : EventQueue :=
  { queue with
    lastWrite :=
      match entry.event.writeKey with
      | none => queue.lastWrite
      | some key => fun path => if path = key then some queue.events.length else queue.lastWrite path
    events := queue.events ++ [entry] }

def evict (index : Nat) : EventQueue :=
  { queue with
    events := queue.events.eraseIdx index
    lastWrite := fun _ => none
    dropped := queue.dropped + 1
    lossDetected := true }

def victim : Option Nat :=
  (queue.events.findIdx? fun entry => entry.event.readOnly).or
    (queue.events.findIdx? fun entry => entry.event.filesystemIdentity.isSome)

def push (entry : Entry) : EventQueue × PushOutcome :=
  match queue.mergeTarget entry.event with
  | some (index, target) =>
      ({ queue with events := queue.events.set index (target.retimed (observedAt entry.event)) },
        .merged target)
  | none =>
      if queue.cap ≤ queue.events.length then
        match queue.victim with
        | some index =>
            ((queue.evict index).append entry,
              match queue.events[index]? with
              | some evicted => .queuedFor evicted
              | none => .queued)
        | none =>
            if entry.event.isProcess then
              (({ queue with
                  events := queue.events.tail
                  dropped := queue.dropped + 1
                  lossDetected := true } : EventQueue).append entry,
                match queue.events.head? with
                | some evicted => .queuedFor evicted
                | none => .queued)
            else
              ({ queue with dropped := queue.dropped + 1, lossDetected := true }, .refused)
      else (queue.append entry, .queued)

def drain : EventQueue × List Entry :=
  ({ queue with events := [], lastWrite := fun _ => none }, queue.events)

def reportLoss (count : Nat) : EventQueue :=
  if count = 0 then queue
  else { queue with dropped := min (queue.dropped + count) (2 ^ 64 - 1), lossDetected := true }

def takeLossFlag : EventQueue × Bool :=
  ({ queue with lossDetected := false }, queue.lossDetected)

variable {queue}

def Placed (queue : EventQueue) : Prop :=
  ∀ path index, queue.lastWrite path = some index →
    ∃ entry, queue.events[index]? = some entry ∧ entry.event.writeKey = some path

theorem retimed_writeKey (time : Timestamp) (entry : Entry) :
    (entry.retimed time).event.writeKey = entry.event.writeKey := by
  obtain ⟨number, event⟩ := entry
  cases event with
  | process event => rfl
  | filesystem fact =>
      cases fact with
      | legacy event =>
          obtain ⟨kind, pid, path, secondPath, observedAt⟩ := event
          cases kind <;> rfl
      | ebpf fact =>
          obtain ⟨kind, tgid, tid, ppid, cgroupId, path, secondPath, ioResult, observedAt⟩ := fact
          cases kind <;> rfl

theorem Placed.append (placed : queue.Placed) (entry : Entry) : (queue.append entry).Placed := by
  have kept : ∀ path index, queue.lastWrite path = some index →
      ∃ other, (queue.events ++ [entry])[index]? = some other ∧
        other.event.writeKey = some path := by
    intro path index remembered
    obtain ⟨other, at_index, key⟩ := placed path index remembered
    refine ⟨other, ?_, key⟩
    rw [List.getElem?_append_left (List.getElem?_eq_some_iff.mp at_index).1]
    exact at_index
  intro path index remembered
  simp only [EventQueue.append] at remembered ⊢
  cases found : entry.event.writeKey with
  | none =>
      rw [found] at remembered
      exact kept path index remembered
  | some key =>
      simp only [found] at remembered
      split_ifs at remembered with same
      · rw [Option.some.injEq] at remembered
        subst remembered
        exact ⟨entry, by simp, by rw [found, same]⟩
      · exact kept path index remembered

theorem placed_forgotten (lost : EventQueue) (forgotten : ∀ path, lost.lastWrite path = none) :
    lost.Placed := by
  intro path index remembered
  rw [forgotten] at remembered
  simp at remembered

theorem Placed.merges (placed : queue.Placed) {event : QueuedEvent} {index : Nat} {target : Entry}
    (found : queue.mergeTarget event = some (index, target)) :
    target ∈ queue.events ∧ queue.events[index]? = some target ∧
      ∃ path, event.writeKey = some path ∧ target.event.writeKey = some path := by
  rw [mergeTarget, Option.bind_eq_some_iff] at found
  obtain ⟨path, key, found⟩ := found
  rw [Option.bind_eq_some_iff] at found
  obtain ⟨place, remembered, found⟩ := found
  obtain ⟨other, at_place, otherKey⟩ := placed path place remembered
  rw [at_place, Option.map_some, Option.some.injEq, Prod.mk.injEq] at found
  obtain ⟨rfl, rfl⟩ := found
  exact ⟨List.mem_of_getElem? at_place, at_place, path, key, otherKey⟩

def Holds (queue : EventQueue) (number : Nat) : Prop :=
  ∃ entry ∈ queue.events, entry.number = number ∧ entry.event.isProcess = false

theorem holds_append_of_holds {entry : Entry} {number : Nat} (holds : queue.Holds number) :
    (queue.append entry).Holds number := by
  obtain ⟨other, member, same⟩ := holds
  exact ⟨other, List.mem_append_left _ member, same⟩

theorem holds_append (entry : Entry) (isFile : entry.event.isProcess = false) :
    (queue.append entry).Holds entry.number :=
  ⟨entry, List.mem_append_right _ (List.mem_singleton.mpr rfl), rfl, isFile⟩

@[simp] theorem retimed_number (time : Timestamp) (entry : Entry) :
    (entry.retimed time).number = entry.number := by
  rw [Entry.retimed]
  split <;> rfl

@[simp] theorem retimed_isProcess (time : Timestamp) (entry : Entry) :
    (entry.retimed time).event.isProcess = entry.event.isProcess := by
  obtain ⟨number, event⟩ := entry
  cases event <;> rfl

theorem mem_eraseIdx_or {α : Type} {items : List α} {item removed : α} {index : Nat}
    (at_index : items[index]? = some removed) (member : item ∈ items) :
    item = removed ∨ item ∈ items.eraseIdx index := by
  obtain ⟨place, at_place⟩ := List.mem_iff_getElem?.mp member
  by_cases same : place = index
  · rw [same, at_index, Option.some.injEq] at at_place
    exact Or.inl at_place.symm
  · exact Or.inr (List.mem_eraseIdx_iff_getElem?.mpr ⟨place, same, at_place⟩)

theorem victim_some {index : Nat} (found : queue.victim = some index) :
    ∃ evicted, queue.events[index]? = some evicted := by
  have bound : index < queue.events.length := by
    rw [victim, Option.or_eq_some_iff] at found
    rcases found with found | ⟨-, found⟩
    · exact (List.findIdx?_eq_some_iff_getElem.mp found).1
    · exact (List.findIdx?_eq_some_iff_getElem.mp found).1
  exact ⟨_, List.getElem?_eq_getElem bound⟩

theorem Placed.unplaced (placed : queue.Placed) (absent : queue.victim = none) (path : String) :
    queue.lastWrite path = none := by
  cases remembered : queue.lastWrite path with
  | none => rfl
  | some index =>
      obtain ⟨entry, at_index, key⟩ := placed path index remembered
      rw [victim, Option.or_eq_none_iff] at absent
      have notFilesystem :=
        List.findIdx?_eq_none_iff.mp absent.2 entry (List.mem_of_getElem? at_index)
      rw [Option.isSome_eq_false_iff, Option.isNone_iff_eq_none] at notFilesystem
      rw [QueuedEvent.writeKey, notFilesystem] at key
      simp at key

theorem Placed.push (placed : queue.Placed) (entry : Entry) :
    (queue.push entry).1.Placed ∧
      (queue.lossDetected = true → (queue.push entry).1.lossDetected = true) ∧
      match (queue.push entry).2 with
      | .merged target =>
          (∀ number, queue.Holds number → (queue.push entry).1.Holds number) ∧
            ∃ path, entry.event.writeKey = some path ∧ target.event.writeKey = some path ∧
              target ∈ queue.events
      | .queued =>
          (∀ number, queue.Holds number → (queue.push entry).1.Holds number) ∧
            (entry.event.isProcess = false → (queue.push entry).1.Holds entry.number)
      | .queuedFor evicted =>
          (∀ number, queue.Holds number →
            number = evicted.number ∨ (queue.push entry).1.Holds number) ∧
            (entry.event.isProcess = false → (queue.push entry).1.Holds entry.number) ∧
            (queue.push entry).1.lossDetected = true
      | .refused =>
          (∀ number, queue.Holds number → (queue.push entry).1.Holds number) ∧
            (queue.push entry).1.lossDetected = true := by
  rw [EventQueue.push]
  cases merges : queue.mergeTarget entry.event with
  | some found =>
      obtain ⟨index, target⟩ := found
      obtain ⟨member, at_index, path, key, targetKey⟩ := placed.merges merges
      have bound := (List.getElem?_eq_some_iff.mp at_index).1
      refine ⟨?_, id, ?_, path, key, targetKey, member⟩
      · intro other place remembered
        obtain ⟨old, at_place, oldKey⟩ := placed other place remembered
        simp only [List.getElem?_set]
        split_ifs with same
        · subst same
          rw [at_index, Option.some.injEq] at at_place
          subst at_place
          exact ⟨_, rfl, by rw [retimed_writeKey, oldKey]⟩
        · exact ⟨old, at_place, oldKey⟩
      · rintro number ⟨other, inQueue, same, isFile⟩
        obtain ⟨place, at_place⟩ := List.mem_iff_getElem?.mp inQueue
        by_cases here : index = place
        · subst here
          rw [at_index, Option.some.injEq] at at_place
          subst at_place
          exact ⟨_, List.mem_set bound _, by rw [retimed_number, same],
            by rw [retimed_isProcess, isFile]⟩
        · refine ⟨other, List.mem_iff_getElem?.mpr ⟨place, ?_⟩, same, isFile⟩
          rw [List.getElem?_set_ne here]
          exact at_place
  | none =>
      by_cases full : queue.cap ≤ queue.events.length
      · simp only [if_pos full]
        cases victims : queue.victim with
        | some index =>
            obtain ⟨evicted, at_index⟩ := victim_some victims
            have forgotten := placed_forgotten (queue.evict index) fun _ => rfl
            simp only [at_index]
            refine ⟨forgotten.append entry, fun _ => rfl, ?_, holds_append entry, rfl⟩
            rintro number ⟨other, member, same⟩
            rcases mem_eraseIdx_or at_index member with removed | stays
            · exact Or.inl (by rw [← same.1, removed])
            · exact Or.inr (holds_append_of_holds ⟨other, stays, same⟩)
        | none =>
            have unplaced := placed.unplaced victims
            by_cases isProcess : entry.event.isProcess = true
            · simp only [if_pos isProcess]
              have forgotten : ({ queue with
                  events := queue.events.tail
                  dropped := queue.dropped + 1
                  lossDetected := true } : EventQueue).Placed := placed_forgotten _ unplaced
              cases oldest : queue.events with
              | nil =>
                  refine ⟨?_, fun _ => rfl, ?_, holds_append entry⟩
                  · rw [oldest] at forgotten
                    exact forgotten.append entry
                  · rintro number ⟨other, member, -⟩
                    rw [oldest] at member
                    simp at member
              | cons first rest =>
                  refine ⟨?_, fun _ => rfl, ?_, holds_append entry, rfl⟩
                  · rw [oldest] at forgotten
                    exact forgotten.append entry
                  · rintro number ⟨other, member, same⟩
                    rw [oldest] at member
                    rcases List.mem_cons.mp member with head | stays
                    · exact Or.inl (by rw [← same.1, head])
                    · exact Or.inr (holds_append_of_holds ⟨other, stays, same⟩)
            · simp only [if_neg isProcess]
              refine ⟨?_, fun _ => trivial, fun _ holds => holds, trivial⟩
              intro path index remembered
              exact placed path index remembered
      · simp only [if_neg full]
        exact ⟨placed.append entry, id, fun _ holds => holds_append_of_holds holds,
          holds_append entry⟩

end EventQueue

end Noland.Attribution
