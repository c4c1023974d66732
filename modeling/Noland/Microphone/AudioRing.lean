import Mathlib.Data.List.Basic
import Mathlib.Data.Nat.ModEq
import Mathlib.Logic.Function.Basic

/-!
When the ring is full a push moves the read position on, so that the oldest samples are dropped.
Here the calls come one after the other; `AudioRingSteps` has their single atomic steps.
-/

namespace Noland.Microphone

structure AudioRing where
  capacity : Nat
  positive : 0 < capacity
  values : Nat → Int16
  sequences : Nat → Nat
  write : Nat
  read : Nat

structure PushReport where
  written : Nat
  droppedStale : Nat
  overrun : Bool
  deriving DecidableEq

namespace AudioRing

def new (capacity : Nat) (positive : 0 < capacity) : AudioRing where
  capacity := capacity
  positive := positive
  values _ := 0
  sequences _ := 0
  write := 0
  read := 0

def storeSequence (ring : AudioRing) (position sequence : Nat) : AudioRing :=
  { ring with sequences := Function.update ring.sequences (position % ring.capacity) sequence }

def storeValue (ring : AudioRing) (position : Nat) (sample : Int16) : AudioRing :=
  { ring with values := Function.update ring.values (position % ring.capacity) sample }

def len (ring : AudioRing) : Nat := min (ring.write - ring.read) ring.capacity

def clear (ring : AudioRing) : AudioRing := { ring with read := ring.write }

def storeSample (ring : AudioRing) (position : Nat) (sample : Int16) : AudioRing :=
  ((ring.storeSequence position 0).storeValue position sample).storeSequence position
    (position + 1)

def fill (ring : AudioRing) (position : Nat) : List Int16 → AudioRing
  | [] => ring
  | sample :: rest => (ring.storeSample position sample).fill (position + 1) rest

def pushFromIter (ring : AudioRing) (samples : List Int16) : PushReport × AudioRing :=
  if samples.length = 0 then (⟨0, 0, false⟩, ring)
  else
    let newWrite := ring.write + samples.length
    let minimumRead := newWrite - ring.capacity
    let moved :=
      if minimumRead ≤ ring.read then (0, ring)
      else (minimumRead - ring.read, { ring with read := minimumRead })
    let skip := samples.length - ring.capacity
    let filled := moved.2.fill (ring.write + skip) (samples.drop skip)
    (⟨samples.length - skip, moved.1, 0 < moved.1⟩, { filled with write := newWrite })

def sampleAt (ring : AudioRing) (position : Nat) : Int16 :=
  if ring.sequences (position % ring.capacity) = position + 1 then
    ring.values (position % ring.capacity)
  else 0

def popSlice (ring : AudioRing) (outputLen : Nat) : List Int16 × AudioRing :=
  let count := min outputLen (min (ring.write - ring.read) ring.capacity)
  ((List.range count).map fun offset => ring.sampleAt (ring.read + offset),
    { ring with read := ring.read + count })

end AudioRing

inductive RingCall where
  | push (samples : List Int16)
  | pop (outputLen : Nat)
  | clear
  | len

inductive RingAnswer where
  | pushed (report : PushReport)
  | popped (samples : List Int16)
  | cleared
  | counted (samples : Nat)

def AudioRing.answer (ring : AudioRing) : RingCall → RingAnswer × AudioRing
  | .push samples => (.pushed (ring.pushFromIter samples).1, (ring.pushFromIter samples).2)
  | .pop outputLen => (.popped (ring.popSlice outputLen).1, (ring.popSlice outputLen).2)
  | .clear => (.cleared, ring.clear)
  | .len => (.counted ring.len, ring)

def queueAnswer (capacity : Nat) (queue : List Int16) : RingCall → RingAnswer × List Int16
  | .push samples =>
      let dropped := queue.length + samples.length - capacity
      (.pushed ⟨min samples.length capacity, dropped, 0 < dropped⟩,
        (queue ++ samples).drop dropped)
  | .pop outputLen => (.popped (queue.take outputLen), queue.drop outputLen)
  | .clear => (.cleared, [])
  | .len => (.counted queue.length, queue)

def AudioRing.answers (ring : AudioRing) : List RingCall → List RingAnswer
  | [] => []
  | call :: rest => (ring.answer call).1 :: (ring.answer call).2.answers rest

def queueAnswers (capacity : Nat) (queue : List Int16) : List RingCall → List RingAnswer
  | [] => []
  | call :: rest =>
      (queueAnswer capacity queue call).1 ::
        queueAnswers capacity (queueAnswer capacity queue call).2 rest

namespace AudioRing

variable {ring : AudioRing}

def Holds (ring : AudioRing) (position : Nat) (sample : Int16) : Prop :=
  ring.sequences (position % ring.capacity) = position + 1 ∧
    ring.values (position % ring.capacity) = sample

theorem Holds.sampleAt {position : Nat} {sample : Int16} (holds : ring.Holds position sample) :
    ring.sampleAt position = sample := by
  unfold AudioRing.sampleAt
  rw [if_pos holds.1, holds.2]

theorem slot_ne {capacity position other : Nat} (before : position < other)
    (close : other < position + capacity) : position % capacity ≠ other % capacity := by
  intro same
  have divides := (Nat.modEq_iff_dvd' before.le).mp same
  have most := Nat.le_of_dvd (by omega) divides
  omega

theorem storeSequence_self (position sequence : Nat) :
    (ring.storeSequence position sequence).sequences (position % ring.capacity) = sequence :=
  Function.update_self _ _ _

theorem storeSequence_of_ne {position sequence slot : Nat}
    (apart : slot ≠ position % ring.capacity) :
    (ring.storeSequence position sequence).sequences slot = ring.sequences slot :=
  Function.update_of_ne apart _ _

theorem storeSample_holds (position : Nat) (sample : Int16) :
    (ring.storeSample position sample).Holds position sample :=
  ⟨Function.update_self _ _ _, Function.update_self _ _ _⟩

theorem storeSample_keeps {position other : Nat} {sample kept : Int16}
    (different : other % ring.capacity ≠ position % ring.capacity)
    (holds : ring.Holds other kept) : (ring.storeSample position sample).Holds other kept := by
  constructor
  · change Function.update (Function.update ring.sequences (position % ring.capacity) 0)
      (position % ring.capacity) (position + 1) (other % ring.capacity) = _
    rw [Function.update_of_ne different, Function.update_of_ne different]
    exact holds.1
  · change Function.update ring.values (position % ring.capacity) sample
      (other % ring.capacity) = _
    rw [Function.update_of_ne different]
    exact holds.2

@[simp] theorem fill_capacity (position : Nat) (samples : List Int16) :
    (ring.fill position samples).capacity = ring.capacity := by
  induction samples generalizing ring position with
  | nil => rfl
  | cons sample rest ih => exact @ih (ring.storeSample position sample) (position + 1)

@[simp] theorem fill_read (position : Nat) (samples : List Int16) :
    (ring.fill position samples).read = ring.read := by
  induction samples generalizing ring position with
  | nil => rfl
  | cons sample rest ih => exact @ih (ring.storeSample position sample) (position + 1)

theorem fill_keeps {position other : Nat} {samples : List Int16} {kept : Int16}
    (before : other < position) (close : position + samples.length ≤ other + ring.capacity)
    (holds : ring.Holds other kept) : (ring.fill position samples).Holds other kept := by
  induction samples generalizing ring position with
  | nil => exact holds
  | cons sample rest ih =>
      rw [List.length_cons] at close
      have different : other % ring.capacity ≠ position % ring.capacity :=
        slot_ne before (by omega)
      have near : position + 1 + rest.length ≤ other + ring.capacity := by omega
      exact ih (Nat.lt_succ_of_lt before) near (storeSample_keeps different holds)

theorem fill_holds {position offset : Nat} {samples : List Int16} {sample : Int16}
    (fits : samples.length ≤ ring.capacity) (found : samples[offset]? = some sample) :
    (ring.fill position samples).Holds (position + offset) sample := by
  induction samples generalizing ring position offset with
  | nil => cases found
  | cons first rest ih =>
      rw [List.length_cons] at fits
      cases offset with
      | zero =>
          obtain rfl : first = sample := Option.some.inj found
          change ((ring.storeSample position first).fill (position + 1) rest).Holds position first
          have near : position + 1 + rest.length ≤ position + ring.capacity := by omega
          exact fill_keeps (Nat.lt_succ_self position) near (storeSample_holds position first)
      | succ offset =>
          change ((ring.storeSample position first).fill (position + 1) rest).Holds
            (position + (offset + 1)) sample
          have fitting : rest.length ≤ ring.capacity := by omega
          rw [← Nat.add_assoc, Nat.add_right_comm]
          exact ih fitting found

structure Represents (ring : AudioRing) (queue : List Int16) : Prop where
  fits : queue.length ≤ ring.capacity
  written : ring.write = ring.read + queue.length
  holds : ∀ offset sample, queue[offset]? = some sample → ring.Holds (ring.read + offset) sample

theorem represents_new (capacity : Nat) (positive : 0 < capacity) :
    (new capacity positive).Represents [] where
  fits := Nat.zero_le _
  written := rfl
  holds := nofun

variable {queue : List Int16}

theorem Represents.drop (represents : ring.Represents queue) (count : Nat)
    (few : count ≤ queue.length) :
    ({ ring with read := ring.read + count } : AudioRing).Represents (queue.drop count) := by
  have written := represents.written
  have fits := represents.fits
  constructor
  · rw [List.length_drop]
    exact (Nat.sub_le _ _).trans fits
  · rw [List.length_drop]
    dsimp only
    omega
  · intro offset sample found
    rw [List.getElem?_drop] at found
    have holds := represents.holds _ _ found
    rw [← Nat.add_assoc] at holds
    exact holds

theorem Represents.pop (represents : ring.Represents queue) (outputLen : Nat) :
    (ring.popSlice outputLen).1 = queue.take outputLen ∧
      (ring.popSlice outputLen).2.Represents (queue.drop outputLen) := by
  have written := represents.written
  have fits := represents.fits
  have count : min outputLen (min (ring.write - ring.read) ring.capacity) =
      min outputLen queue.length := by omega
  unfold popSlice
  rw [count]
  constructor
  · apply List.ext_getElem?
    intro offset
    rw [List.getElem?_map]
    by_cases inside : offset < min outputLen queue.length
    · rw [List.getElem?_range inside, List.getElem?_take_of_lt (by omega),
        List.getElem?_eq_getElem (by omega)]
      exact congrArg some (represents.holds _ _ (List.getElem?_eq_getElem (by omega))).sampleAt
    · rw [List.getElem?_eq_none (by rw [List.length_range]; omega),
        List.getElem?_eq_none (by rw [List.length_take]; omega)]
      rfl
  · have same : queue.drop outputLen = queue.drop (min outputLen queue.length) := by
      rcases le_total outputLen queue.length with few | many
      · rw [min_eq_left few]
      · rw [min_eq_right many, List.drop_eq_nil_of_le many, List.drop_length]
    rw [same]
    exact represents.drop _ (min_le_right _ _)

theorem Represents.push (represents : ring.Represents queue) (samples : List Int16) :
    (ring.pushFromIter samples).1 =
        ⟨min samples.length ring.capacity, queue.length + samples.length - ring.capacity,
          0 < queue.length + samples.length - ring.capacity⟩ ∧
      (ring.pushFromIter samples).2.Represents
        ((queue ++ samples).drop (queue.length + samples.length - ring.capacity)) := by
  have written := represents.written
  have fits := represents.fits
  unfold pushFromIter
  by_cases empty : samples.length = 0
  · rw [if_pos empty]
    have none : queue.length + samples.length - ring.capacity = 0 := by omega
    rw [none, empty, List.length_eq_zero_iff.mp empty, List.append_nil, Nat.zero_min]
    exact ⟨rfl, represents⟩
  · rw [if_neg empty]
    -- The read position moves on by as many samples as do not fit.
    have moved : (if ring.write + samples.length - ring.capacity ≤ ring.read then (0, ring)
        else (ring.write + samples.length - ring.capacity - ring.read,
          { ring with read := ring.write + samples.length - ring.capacity })) =
        (queue.length + samples.length - ring.capacity,
          { ring with
            read := ring.read + (queue.length + samples.length - ring.capacity) }) := by
      split
      · rename_i room
        have none : queue.length + samples.length - ring.capacity = 0 := by omega
        rw [none]
        rfl
      · have dropped : ring.write + samples.length - ring.capacity - ring.read =
            queue.length + samples.length - ring.capacity := by omega
        have minimum : ring.write + samples.length - ring.capacity =
            ring.read + (queue.length + samples.length - ring.capacity) := by omega
        rw [dropped, minimum]
    dsimp only
    rw [moved]
    have written_count : samples.length - (samples.length - ring.capacity) =
        min samples.length ring.capacity := by omega
    refine ⟨by rw [written_count], ?_⟩
    constructor
    · rw [List.length_drop, List.length_append]
      dsimp only
      rw [fill_capacity]
      dsimp only
      omega
    · rw [List.length_drop, List.length_append]
      dsimp only
      rw [fill_read]
      dsimp only
      omega
    · intro offset sample found
      rw [List.getElem?_drop] at found
      dsimp only
      rw [fill_read]
      dsimp only
      rw [Nat.add_assoc]
      rcases Nat.lt_or_ge (queue.length + samples.length - ring.capacity + offset)
        queue.length with older | newer
      · rw [List.getElem?_append_left older] at found
        have kept := represents.holds _ _ found
        apply fill_keeps
        · omega
        · rw [List.length_drop]
          dsimp only
          omega
        · exact kept
      · rw [List.getElem?_append_right newer] at found
        have place : ring.read + (queue.length + samples.length - ring.capacity + offset) =
            ring.write + (samples.length - ring.capacity) +
              (queue.length + samples.length - ring.capacity + offset - queue.length -
                (samples.length - ring.capacity)) := by omega
        rw [place]
        apply fill_holds
        · rw [List.length_drop]
          dsimp only
          omega
        · rw [List.getElem?_drop, ← found]
          congr 1
          omega

theorem push_capacity (samples : List Int16) :
    (ring.pushFromIter samples).2.capacity = ring.capacity := by
  unfold pushFromIter
  split
  · rfl
  · dsimp only
    rw [fill_capacity]
    split <;> rfl

theorem answers_eq (represents : ring.Represents queue) (calls : List RingCall) :
    ring.answers calls = queueAnswers ring.capacity queue calls := by
  induction calls generalizing ring queue with
  | nil => rfl
  | cons call rest ih =>
      unfold answers queueAnswers
      cases call with
      | push samples =>
          obtain ⟨report, later⟩ := represents.push samples
          dsimp only [answer, queueAnswer]
          rw [report, ih later, push_capacity]
      | pop outputLen =>
          obtain ⟨popped, later⟩ := represents.pop outputLen
          dsimp only [answer, queueAnswer]
          rw [popped, ih later]
          rfl
      | clear =>
          have later := represents.drop queue.length (Nat.le_refl _)
          rw [List.drop_length, ← represents.written] at later
          exact congrArg (RingAnswer.cleared :: ·) (ih later)
      | len =>
          have written := represents.written
          have fits := represents.fits
          have counted : ring.len = queue.length := by
            unfold len
            omega
          dsimp only [answer, queueAnswer]
          rw [counted, ih represents]

end AudioRing

end Noland.Microphone
