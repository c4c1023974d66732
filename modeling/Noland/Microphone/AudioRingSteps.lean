import Mathlib.Logic.Function.Iterate
import Noland.Lib.Machine
import Noland.Microphone.AudioRing

/-!
One producer pushes while one consumer pops and clears. Every load, store and exchange of a call
is a step of its own.
-/

namespace Noland.Microphone

inductive SlotStore where
  | clearing
  | valuing
  | sealing

inductive Producer where
  | idle
  | loadingWrite (samples : List Int16)
  | loadingRead (samples : List Int16) (write : Nat)
  | exchanging (samples : List Int16) (write read : Nat)
  | storing (slot : SlotStore) (sample : Int16) (rest : List Int16) (position newWrite : Nat)
      (report : PushReport)
  | publishing (newWrite : Nat) (report : PushReport)

inductive Consumer where
  | idle
  | loadingRead (outputLen : Nat)
  | loadingWrite (outputLen read : Nat)
  | exchanging (outputLen read count : Nat)
  | loadingBefore (read count offset : Nat)
  | loadingValue (read count offset before : Nat)
  | loadingAfter (read count offset before : Nat) (value : Int16)
  | clearLoading
  | clearStoring (write : Nat)

/-- The ring and its two users, with all samples pushed so far and the positions and values
popped, the newest first. -/
structure RingUse where
  ring : AudioRing
  producer : Producer := .idle
  consumer : Consumer := .idle
  stream : List Int16 := []
  popped : List (Nat × Int16) := []

/-- A call that an idle user makes, or the next step of a user. An exchange may fail for no
reason. -/
inductive RingEvent where
  | push (samples : List Int16)
  | pop (outputLen : Nat)
  | clear
  | producer (spurious : Bool)
  | consumer (spurious : Bool)

def Producer.storeNext (position newWrite : Nat) (report : PushReport) : List Int16 → Producer
  | [] => .publishing newWrite report
  | sample :: rest => .storing .clearing sample rest position newWrite report

def Producer.storeAll (capacity : Nat) (samples : List Int16) (write dropped : Nat) : Producer :=
  let skip := samples.length - capacity
  .storeNext (write + skip) (write + samples.length)
    ⟨samples.length - skip, dropped, 0 < dropped⟩ (samples.drop skip)

namespace RingUse

def start (capacity : Nat) (positive : 0 < capacity) : RingUse :=
  { ring := .new capacity positive }

def stepProducer (use : RingUse) (spurious : Bool) : RingUse :=
  match use.producer with
  | .idle => use
  | .loadingWrite samples => { use with producer := .loadingRead samples use.ring.write }
  | .loadingRead samples write =>
      let minimumRead := write + samples.length - use.ring.capacity
      if minimumRead ≤ use.ring.read then
        { use with producer := .storeAll use.ring.capacity samples write 0 }
      else { use with producer := .exchanging samples write use.ring.read }
  | .exchanging samples write read =>
      let minimumRead := write + samples.length - use.ring.capacity
      if use.ring.read = read ∧ spurious = false then
        { use with
          ring := { use.ring with read := minimumRead }
          producer := .storeAll use.ring.capacity samples write (minimumRead - read) }
      else { use with producer := .loadingRead samples write }
  | .storing .clearing sample rest position newWrite report =>
      { use with
        ring := use.ring.storeSequence position 0
        producer := .storing .valuing sample rest position newWrite report }
  | .storing .valuing sample rest position newWrite report =>
      { use with
        ring := use.ring.storeValue position sample
        producer := .storing .sealing sample rest position newWrite report }
  | .storing .sealing _ rest position newWrite report =>
      { use with
        ring := use.ring.storeSequence position (position + 1)
        producer := .storeNext (position + 1) newWrite report rest }
  | .publishing newWrite _ =>
      { use with ring := { use.ring with write := newWrite }, producer := .idle }

def stepConsumer (use : RingUse) (spurious : Bool) : RingUse :=
  match use.consumer with
  | .idle => use
  | .loadingRead outputLen => { use with consumer := .loadingWrite outputLen use.ring.read }
  | .loadingWrite outputLen read =>
      let count := min outputLen (min (use.ring.write - read) use.ring.capacity)
      if count = 0 then { use with consumer := .idle }
      else { use with consumer := .exchanging outputLen read count }
  | .exchanging outputLen read count =>
      if use.ring.read = read ∧ spurious = false then
        { use with
          ring := { use.ring with read := read + count }
          consumer := .loadingBefore read count 0 }
      else { use with consumer := .loadingRead outputLen }
  | .loadingBefore read count offset =>
      let before := use.ring.sequences ((read + offset) % use.ring.capacity)
      { use with consumer := .loadingValue read count offset before }
  | .loadingValue read count offset before =>
      let value := use.ring.values ((read + offset) % use.ring.capacity)
      { use with consumer := .loadingAfter read count offset before value }
  | .loadingAfter read count offset before value =>
      let expected := read + offset + 1
      let after := use.ring.sequences ((read + offset) % use.ring.capacity)
      let sample := if before = expected ∧ after = expected then value else 0
      { use with
        popped := (read + offset, sample) :: use.popped
        consumer :=
          if offset + 1 < count then .loadingBefore read count (offset + 1) else .idle }
  | .clearLoading => { use with consumer := .clearStoring use.ring.write }
  | .clearStoring write =>
      { use with ring := { use.ring with read := write }, consumer := .idle }

def step (use : RingUse) : RingEvent → RingUse
  | .push samples =>
      match use.producer with
      | .idle =>
          if samples.length = 0 then use
          else { use with producer := .loadingWrite samples, stream := use.stream ++ samples }
      | _ => use
  | .pop outputLen =>
      match use.consumer with
      | .idle => if outputLen = 0 then use else { use with consumer := .loadingRead outputLen }
      | _ => use
  | .clear =>
      match use.consumer with
      | .idle => { use with consumer := .clearLoading }
      | _ => use
  | .producer spurious => use.stepProducer spurious
  | .consumer spurious => use.stepConsumer spurious

def KeepsRead (use : RingUse) : RingEvent → Prop
  | .consumer _ => ∀ write, use.consumer = .clearStoring write → use.ring.read ≤ write
  | _ => True

end RingUse

def Producer.Continues (ring : AudioRing) (stream : List Int16) : Producer → Prop
  | .idle => stream.length = ring.write
  | .loadingWrite samples =>
      ring.write + samples.length = stream.length ∧ stream.drop ring.write = samples
  | .loadingRead samples write =>
      write = ring.write ∧ write + samples.length = stream.length ∧ stream.drop write = samples
  | .exchanging samples write read =>
      (write = ring.write ∧ write + samples.length = stream.length ∧
        stream.drop write = samples) ∧ read < write + samples.length - ring.capacity
  | .storing slot sample rest position newWrite _ =>
      newWrite = stream.length ∧ ring.write ≤ position ∧ stream.drop position = sample :: rest ∧
        (slot ≠ .clearing → ring.sequences (position % ring.capacity) = 0) ∧
        (slot = .sealing → ring.values (position % ring.capacity) = sample)
  | .publishing newWrite _ => newWrite = stream.length ∧ ring.write ≤ newWrite

def Sealed (ring : AudioRing) (stream : List Int16) : Prop :=
  ∀ slot position, ring.sequences slot = position + 1 →
    position % ring.capacity = slot ∧ stream[position]? = some (ring.values slot)

def PoppedBelow (popped : List (Nat × Int16)) (position : Nat) : Prop :=
  ∀ entry ∈ popped, entry.1 < position

def Consumer.Reads (ring : AudioRing) (stream : List Int16) (popped : List (Nat × Int16)) :
    Consumer → Prop
  | .exchanging _ read count => 0 < count ∧ read + count ≤ ring.write
  | .loadingBefore read count offset =>
      offset < count ∧ read + count ≤ ring.read ∧ read + count ≤ ring.write ∧
        PoppedBelow popped (read + offset)
  | .loadingValue read count offset _ =>
      offset < count ∧ read + count ≤ ring.read ∧ read + count ≤ ring.write ∧
        PoppedBelow popped (read + offset)
  | .loadingAfter read count offset _ value =>
      (offset < count ∧ read + count ≤ ring.read ∧ read + count ≤ ring.write ∧
        PoppedBelow popped (read + offset)) ∧
        (ring.sequences ((read + offset) % ring.capacity) = read + offset + 1 →
          stream[read + offset]? = some value)
  | .clearStoring write => PoppedBelow popped write ∧ write ≤ ring.write
  | _ => True

def Delivered (stream : List Int16) (popped : List (Nat × Int16)) : Prop :=
  ∀ entry ∈ popped, stream[entry.1]? = some entry.2 ∨ (entry.1 < stream.length ∧ entry.2 = 0)

structure RingUse.Sound (use : RingUse) : Prop where
  continues : use.producer.Continues use.ring use.stream
  sealed : Sealed use.ring use.stream
  reads : use.consumer.Reads use.ring use.stream use.popped
  delivered : Delivered use.stream use.popped
  increasing : use.popped.Pairwise fun later earlier => earlier.1 < later.1
  unread : PoppedBelow use.popped use.ring.read
  written : PoppedBelow use.popped use.ring.write

section Steps

variable {ring later : AudioRing} {stream extended : List Int16} {popped : List (Nat × Int16)}

theorem PoppedBelow.mono {position other : Nat} (below : PoppedBelow popped position)
    (ordered : position ≤ other) : PoppedBelow popped other :=
  fun entry member => (below entry member).trans_le ordered

theorem Consumer.Reads.mono {consumer : Consumer} (reads : consumer.Reads ring stream popped)
    (capacity : later.capacity = ring.capacity) (read : ring.read ≤ later.read)
    (write : ring.write ≤ later.write)
    (sealed : ∀ position, position < ring.write →
      later.sequences (position % ring.capacity) = position + 1 →
        ring.sequences (position % ring.capacity) = position + 1)
    (grows : ∀ (position : Nat) (sample : Int16), stream[position]? = some sample →
      extended[position]? = some sample) :
    consumer.Reads later extended popped := by
  cases consumer with
  | idle => trivial
  | loadingRead _ => trivial
  | loadingWrite _ _ => trivial
  | exchanging _ _ _ => exact ⟨reads.1, reads.2.trans write⟩
  | loadingBefore _ _ _ =>
      exact ⟨reads.1, reads.2.1.trans read, reads.2.2.1.trans write, reads.2.2.2⟩
  | loadingValue _ _ _ _ =>
      exact ⟨reads.1, reads.2.1.trans read, reads.2.2.1.trans write, reads.2.2.2⟩
  | loadingAfter from_read count offset _ _ =>
      obtain ⟨⟨inside, behind, below, before⟩, value⟩ := reads
      refine ⟨⟨inside, behind.trans read, below.trans write, before⟩, ?_⟩
      rw [capacity]
      intro same
      exact grows _ _ (value (sealed _ (by omega) same))
  | clearLoading => trivial
  | clearStoring _ => exact ⟨reads.1, reads.2.trans write⟩

theorem continues_storeNext {rest : List Int16} {position newWrite : Nat} {report : PushReport}
    (whole : newWrite = stream.length) (behind : ring.write ≤ position)
    (published : ring.write ≤ newWrite) (remain : stream.drop position = rest) :
    (Producer.storeNext position newWrite report rest).Continues ring stream := by
  cases rest with
  | nil => exact ⟨whole, published⟩
  | cons sample rest => exact ⟨whole, behind, remain, fun same => (same rfl).elim, nofun⟩

theorem continues_storeAll {samples : List Int16} {capacity write dropped : Nat}
    (same : write = ring.write) (whole : write + samples.length = stream.length)
    (remain : stream.drop write = samples) :
    (Producer.storeAll capacity samples write dropped).Continues ring stream := by
  apply continues_storeNext whole
  · omega
  · omega
  · rw [← List.drop_drop, remain]

variable {use : RingUse}

theorem RingUse.Sound.store (sound : use.Sound) (later : AudioRing) {producer : Producer}
    (capacity : later.capacity = use.ring.capacity) (read : later.read = use.ring.read)
    (write : later.write = use.ring.write)
    (continues : producer.Continues later use.stream) (sealed : Sealed later use.stream)
    (kept : ∀ position, position < use.ring.write →
      later.sequences (position % use.ring.capacity) = position + 1 →
        use.ring.sequences (position % use.ring.capacity) = position + 1) :
    ({ use with ring := later, producer := producer } : RingUse).Sound where
  continues := continues
  sealed := sealed
  reads := sound.reads.mono capacity read.ge write.ge kept fun _ _ found => found
  delivered := sound.delivered
  increasing := sound.increasing
  unread := sound.unread.mono read.ge
  written := sound.written.mono write.ge

theorem stepProducer_sound (sound : use.Sound) (spurious : Bool) :
    (use.stepProducer spurious).Sound := by
  have continues := sound.continues
  unfold RingUse.stepProducer
  cases producer : use.producer with
  | idle => exact sound
  | loadingWrite samples =>
      rw [producer] at continues
      exact { sound with continues := ⟨rfl, continues⟩ }
  | loadingRead samples write =>
      rw [producer] at continues
      obtain ⟨same, whole, remain⟩ := continues
      dsimp only
      split
      · exact { sound with continues := continues_storeAll same whole remain }
      · rename_i behind
        exact { sound with continues := ⟨⟨same, whole, remain⟩, Nat.lt_of_not_le behind⟩ }
  | exchanging samples write read =>
      rw [producer] at continues
      obtain ⟨⟨same, whole, remain⟩, behind⟩ := continues
      dsimp only
      split
      · rename_i exchanged
        obtain ⟨current, _⟩ := exchanged
        have ahead : use.ring.read ≤ write + samples.length - use.ring.capacity := by omega
        exact {
          continues := continues_storeAll same whole remain
          sealed := sound.sealed
          reads := sound.reads.mono rfl ahead (Nat.le_refl _) (fun _ _ same => same)
            fun _ _ found => found
          delivered := sound.delivered
          increasing := sound.increasing
          unread := sound.unread.mono ahead
          written := sound.written }
      · exact { sound with continues := ⟨same, whole, remain⟩ }
  | storing slot sample rest position newWrite report =>
      rw [producer] at continues
      obtain ⟨whole, behind, remain, cleared, valued⟩ := continues
      cases slot with
      | clearing =>
          apply sound.store (use.ring.storeSequence position 0) rfl rfl rfl
          · refine ⟨whole, behind, remain, fun _ => Function.update_self _ _ _, ?_⟩
            intro same
            cases same
          · intro slot other sequence
            by_cases here : slot = position % use.ring.capacity
            · subst here
              rw [AudioRing.storeSequence_self] at sequence
              cases sequence
            · rw [AudioRing.storeSequence_of_ne here] at sequence
              exact sound.sealed slot other sequence
          · intro other _ sequence
            by_cases here : other % use.ring.capacity = position % use.ring.capacity
            · rw [here, AudioRing.storeSequence_self] at sequence
              cases sequence
            · rwa [AudioRing.storeSequence_of_ne here] at sequence
      | valuing =>
          have empty : use.ring.sequences (position % use.ring.capacity) = 0 := by
            apply cleared
            intro same
            cases same
          apply sound.store (use.ring.storeValue position sample) rfl rfl rfl
          · exact ⟨whole, behind, remain, fun _ => empty, fun _ => Function.update_self _ _ _⟩
          · intro slot other sequence
            have apart : slot ≠ position % use.ring.capacity := by
              rintro rfl
              exact absurd (empty.symm.trans sequence) (Nat.succ_ne_zero other).symm
            obtain ⟨place, value⟩ := sound.sealed slot other sequence
            refine ⟨place, value.trans (congrArg some ?_)⟩
            exact (Function.update_of_ne apart _ _).symm
          · exact fun _ _ same => same
      | sealing =>
          have value := valued rfl
          have found : use.stream[position]? = some sample := by
            rw [← Nat.add_zero position, ← List.getElem?_drop, remain]
            rfl
          have inside := (List.getElem?_eq_some_iff.mp found).1
          apply sound.store (use.ring.storeSequence position (position + 1)) rfl rfl rfl
          · refine continues_storeNext whole ?_ ?_ ?_
            · exact behind.trans (Nat.le_succ position)
            · exact behind.trans (whole ▸ inside.le)
            · rw [← List.drop_drop, remain]
              rfl
          · intro slot other sequence
            by_cases here : slot = position % use.ring.capacity
            · subst here
              rw [AudioRing.storeSequence_self] at sequence
              obtain rfl : position = other := Nat.succ.inj sequence
              exact ⟨rfl, found.trans (congrArg some value.symm)⟩
            · rw [AudioRing.storeSequence_of_ne here] at sequence
              exact sound.sealed slot other sequence
          · intro other below sequence
            by_cases here : other % use.ring.capacity = position % use.ring.capacity
            · rw [here, AudioRing.storeSequence_self] at sequence
              omega
            · rwa [AudioRing.storeSequence_of_ne here] at sequence
  | publishing newWrite report =>
      rw [producer] at continues
      obtain ⟨whole, ahead⟩ := continues
      exact {
        continues := whole.symm
        sealed := sound.sealed
        reads := sound.reads.mono rfl (Nat.le_refl _) ahead (fun _ _ same => same)
          fun _ _ found => found
        delivered := sound.delivered
        increasing := sound.increasing
        unread := sound.unread
        written := sound.written.mono ahead }

theorem written_le_stream (sound : use.Sound) : use.ring.write ≤ use.stream.length := by
  have continues := sound.continues
  cases producer : use.producer with
  | idle =>
      rw [producer] at continues
      exact continues.ge
  | loadingWrite samples =>
      rw [producer] at continues
      exact (Nat.le_add_right _ _).trans continues.1.le
  | loadingRead samples write =>
      rw [producer] at continues
      obtain ⟨rfl, whole, _⟩ := continues
      exact (Nat.le_add_right _ _).trans whole.le
  | exchanging samples write read =>
      rw [producer] at continues
      obtain ⟨⟨rfl, whole, _⟩, _⟩ := continues
      exact (Nat.le_add_right _ _).trans whole.le
  | storing slot sample rest position newWrite report =>
      rw [producer] at continues
      obtain ⟨_, behind, remain, _⟩ := continues
      have inside : position < use.stream.length := by
        by_contra outside
        rw [List.drop_eq_nil_of_le (Nat.le_of_not_lt outside)] at remain
        cases remain
      exact behind.trans inside.le
  | publishing newWrite report =>
      rw [producer] at continues
      exact continues.1 ▸ continues.2

theorem RingUse.Sound.moveRead (sound : use.Sound) {consumer : Consumer} (position : Nat)
    (unread : PoppedBelow use.popped position)
    (reads : consumer.Reads { use.ring with read := position } use.stream use.popped) :
    ({ use with ring := { use.ring with read := position }, consumer := consumer } :
      RingUse).Sound where
  continues := by
    have continues := sound.continues
    cases producer : use.producer <;> rw [producer] at continues <;> exact continues
  sealed := sound.sealed
  reads := reads
  delivered := sound.delivered
  increasing := sound.increasing
  unread := unread
  written := sound.written

theorem stepConsumer_sound (sound : use.Sound) (spurious : Bool) :
    (use.stepConsumer spurious).Sound := by
  have reads := sound.reads
  unfold RingUse.stepConsumer
  cases consumer : use.consumer with
  | idle => exact sound
  | loadingRead outputLen => exact { sound with reads := trivial }
  | loadingWrite outputLen read =>
      dsimp only
      split
      · exact { sound with reads := trivial }
      · rename_i some_count
        have inside : read + min outputLen (min (use.ring.write - read) use.ring.capacity) ≤
            use.ring.write := by omega
        exact { sound with reads := ⟨Nat.pos_of_ne_zero some_count, inside⟩ }
  | exchanging outputLen read count =>
      rw [consumer] at reads
      dsimp only
      split
      · rename_i exchanged
        obtain ⟨rfl, _⟩ := exchanged
        apply sound.moveRead
        · exact sound.unread.mono (Nat.le_add_right _ _)
        · exact ⟨reads.1, Nat.le_refl _, reads.2, sound.unread⟩
      · exact { sound with reads := trivial }
  | loadingBefore read count offset =>
      rw [consumer] at reads
      exact { sound with reads := reads }
  | loadingValue read count offset before =>
      rw [consumer] at reads
      refine { sound with reads := ⟨reads, fun same => ?_⟩ }
      exact (sound.sealed _ _ same).2
  | loadingAfter read count offset before value =>
      rw [consumer] at reads
      obtain ⟨⟨inside, behind, below, earlier⟩, same⟩ := reads
      have known := written_le_stream sound
      have next : PoppedBelow ((read + offset,
          if before = read + offset + 1 ∧ use.ring.sequences
            ((read + offset) % use.ring.capacity) = read + offset + 1 then value else 0) ::
          use.popped) (read + offset + 1) := by
        intro entry member
        rcases List.mem_cons.mp member with rfl | older
        · exact Nat.lt_succ_self _
        · exact (earlier entry older).trans (Nat.lt_succ_self _)
      exact {
        continues := sound.continues
        sealed := sound.sealed
        reads := by
          dsimp only
          by_cases more : offset + 1 < count
          · rw [if_pos more]
            exact ⟨more, behind, below, next⟩
          · rw [if_neg more]
            trivial
        delivered := by
          intro entry member
          rcases List.mem_cons.mp member with rfl | older
          · dsimp only
            split
            · rename_i valid
              exact Or.inl (same valid.2)
            · exact Or.inr ⟨by omega, rfl⟩
          · exact sound.delivered entry older
        increasing := List.pairwise_cons.mpr ⟨earlier, sound.increasing⟩
        unread := next.mono (by dsimp only; omega)
        written := next.mono (by dsimp only; omega) }
  | clearLoading => exact { sound with reads := ⟨sound.written, Nat.le_refl _⟩ }
  | clearStoring write =>
      rw [consumer] at reads
      exact sound.moveRead write reads.1 trivial

theorem step_sound (sound : use.Sound) (event : RingEvent) : (use.step event).Sound := by
  cases event with
  | push samples =>
      unfold RingUse.step
      cases producer : use.producer with
      | idle =>
          have whole := sound.continues
          rw [producer] at whole
          have longer : ∀ (position : Nat) (sample : Int16),
              use.stream[position]? = some sample →
                (use.stream ++ samples)[position]? = some sample := by
            intro position sample found
            have inside := (List.getElem?_eq_some_iff.mp found).1
            rw [List.getElem?_append_left inside]
            exact found
          dsimp only
          split
          · exact sound
          · exact {
              continues := by
                change use.stream.length = use.ring.write at whole
                refine ⟨?_, ?_⟩
                · rw [List.length_append, whole]
                · rw [← whole, List.drop_left]
              sealed := by
                intro slot position sequence
                obtain ⟨place, value⟩ := sound.sealed slot position sequence
                exact ⟨place, longer _ _ value⟩
              reads := sound.reads.mono rfl (Nat.le_refl _) (Nat.le_refl _)
                (fun _ _ same => same) longer
              delivered := by
                intro entry member
                rcases sound.delivered entry member with found | ⟨inside, silent⟩
                · exact Or.inl (longer _ _ found)
                · refine Or.inr ⟨?_, silent⟩
                  rw [List.length_append]
                  exact inside.trans_le (Nat.le_add_right _ _)
              increasing := sound.increasing
              unread := sound.unread
              written := sound.written }
      | _ => exact sound
  | pop outputLen =>
      unfold RingUse.step
      cases consumer : use.consumer with
      | idle =>
          dsimp only
          split
          · exact sound
          · exact { sound with reads := trivial }
      | _ => exact sound
  | clear =>
      unfold RingUse.step
      cases consumer : use.consumer with
      | idle => exact { sound with reads := trivial }
      | _ => exact sound
  | producer spurious => exact stepProducer_sound sound spurious
  | consumer spurious => exact stepConsumer_sound sound spurious

end Steps

theorem start_sound (capacity : Nat) (positive : 0 < capacity) :
    (RingUse.start capacity positive).Sound where
  continues := rfl
  sealed := nofun
  reads := trivial
  delivered := nofun
  increasing := List.Pairwise.nil
  unread := nofun
  written := nofun

section Alone

variable {use final : RingUse} {event : RingEvent}

def Alone (event : RingEvent) (use final : RingUse) : Prop :=
  ∃ count, (fun use : RingUse => use.step event)^[count] use = final

theorem Alone.step (rest : Alone event (use.step event) final) : Alone event use final := by
  obtain ⟨count, ends⟩ := rest
  exact ⟨count + 1, ends⟩

theorem alone_storeNext {ring : AudioRing} {position newWrite : Nat} {report : PushReport}
    (rest : List Int16) :
    Alone (.producer false)
      { use with ring := ring, producer := .storeNext position newWrite report rest }
      { use with
        ring := { ring.fill position rest with write := newWrite }
        producer := .idle } := by
  induction rest generalizing ring position with
  | nil => exact Alone.step ⟨0, rfl⟩
  | cons sample rest ih =>
      exact Alone.step (Alone.step (Alone.step
        (@ih (ring.storeSample position sample) (position + 1))))

theorem alone_push (idle : use.producer = .idle) (samples : List Int16) :
    Alone (.producer false) (use.step (.push samples))
      { use with
        ring := (use.ring.pushFromIter samples).2
        stream := use.stream ++ samples } := by
  obtain ⟨ring, producer, consumer, stream, popped⟩ := use
  obtain rfl : producer = .idle := idle
  unfold AudioRing.pushFromIter
  dsimp only [RingUse.step]
  by_cases empty : samples.length = 0
  · rw [if_pos empty, if_pos empty, List.length_eq_zero_iff.mp empty, List.append_nil]
    exact ⟨0, rfl⟩
  · rw [if_neg empty, if_neg empty]
    apply Alone.step
    apply Alone.step
    dsimp only [RingUse.step, RingUse.stepProducer]
    by_cases room : ring.write + samples.length - ring.capacity ≤ ring.read
    · rw [if_pos room, if_pos room]
      exact @alone_storeNext ⟨ring, .idle, consumer, stream ++ samples, popped⟩ ring _ _ _ _
    · rw [if_neg room, if_neg room]
      apply Alone.step
      dsimp only [RingUse.step, RingUse.stepProducer]
      rw [if_pos ⟨rfl, rfl⟩]
      exact @alone_storeNext ⟨ring, .idle, consumer, stream ++ samples, popped⟩
        { ring with read := ring.write + samples.length - ring.capacity } _ _ _ _

theorem alone_reads {read count : Nat} (remaining : Nat) {offset : Nat}
    (rest : offset + (remaining + 1) = count) {popped : List (Nat × Int16)} :
    Alone (.consumer false)
      { use with consumer := .loadingBefore read count offset, popped := popped }
      { use with
        consumer := .idle
        popped := ((List.range' offset (remaining + 1)).map fun offset =>
          (read + offset, use.ring.sampleAt (read + offset))).reverse ++ popped } := by
  have silent : ∀ offset,
      (if use.ring.sequences ((read + offset) % use.ring.capacity) = read + offset + 1 ∧
          use.ring.sequences ((read + offset) % use.ring.capacity) = read + offset + 1 then
        use.ring.values ((read + offset) % use.ring.capacity) else 0) =
      use.ring.sampleAt (read + offset) := by
    intro offset
    unfold AudioRing.sampleAt
    simp only [and_self]
  induction remaining generalizing offset popped with
  | zero =>
      apply Alone.step
      apply Alone.step
      apply Alone.step
      dsimp only [RingUse.step, RingUse.stepConsumer]
      rw [silent, if_neg (by omega)]
      exact ⟨0, rfl⟩
  | succ remaining ih =>
      apply Alone.step
      apply Alone.step
      apply Alone.step
      dsimp only [RingUse.step, RingUse.stepConsumer]
      rw [silent, if_pos (by omega)]
      have later := @ih (offset + 1) (by omega)
        ((read + offset, use.ring.sampleAt (read + offset)) :: popped)
      rw [List.range'_succ, List.map_cons, List.reverse_cons, List.append_assoc]
      exact later

theorem alone_pop (idle : use.consumer = .idle) (outputLen : Nat) :
    ∃ entries : List (Nat × Int16),
      entries.map Prod.snd = (use.ring.popSlice outputLen).1 ∧
        Alone (.consumer false) (use.step (.pop outputLen))
          { use with
            ring := (use.ring.popSlice outputLen).2
            popped := entries.reverse ++ use.popped } := by
  obtain ⟨ring, producer, consumer, stream, popped⟩ := use
  obtain rfl : consumer = .idle := idle
  unfold AudioRing.popSlice
  refine ⟨(List.range (min outputLen (min (ring.write - ring.read) ring.capacity))).map
    fun offset => (ring.read + offset, ring.sampleAt (ring.read + offset)), ?_, ?_⟩
  · rw [List.map_map]
    rfl
  · dsimp only [RingUse.step]
    by_cases empty : outputLen = 0
    · rw [if_pos empty, empty, Nat.zero_min]
      exact ⟨0, rfl⟩
    · rw [if_neg empty]
      apply Alone.step
      apply Alone.step
      dsimp only [RingUse.step, RingUse.stepConsumer]
      cases count : min outputLen (min (ring.write - ring.read) ring.capacity) with
      | zero =>
          rw [if_pos rfl]
          exact ⟨0, rfl⟩
      | succ remaining =>
          rw [if_neg (Nat.succ_ne_zero remaining)]
          apply Alone.step
          dsimp only [RingUse.step, RingUse.stepConsumer]
          rw [if_pos ⟨rfl, rfl⟩, List.range_eq_range']
          exact @alone_reads ⟨{ ring with read := ring.read + (remaining + 1) }, producer, .idle,
            stream, popped⟩ ring.read _ remaining 0 (Nat.zero_add _) popped

end Alone

def Producer.HasRoom (ring : AudioRing) : Producer → Prop
  | .storing _ _ _ _ newWrite _ => newWrite ≤ ring.read + ring.capacity
  | .publishing newWrite _ => newWrite ≤ ring.read + ring.capacity
  | _ => True

structure RingUse.Fits (use : RingUse) : Prop where
  backlog : use.ring.write ≤ use.ring.read + use.ring.capacity
  room : use.producer.HasRoom use.ring

section Backlog

variable {use : RingUse}

theorem hasRoom_storeNext {ring : AudioRing} {position newWrite : Nat} {report : PushReport}
    (rest : List Int16) (fits : newWrite ≤ ring.read + ring.capacity) :
    (Producer.storeNext position newWrite report rest).HasRoom ring := by
  cases rest with
  | nil => exact fits
  | cons sample rest => exact fits

theorem RingUse.Fits.moveRead (fits : use.Fits) {consumer : Consumer} {position : Nat}
    (ahead : use.ring.read ≤ position) :
    ({ use with ring := { use.ring with read := position }, consumer := consumer } :
      RingUse).Fits where
  backlog := fits.backlog.trans (Nat.add_le_add_right ahead _)
  room := by
    have room := fits.room
    cases producer : use.producer <;> rw [producer] at room
    case storing => exact room.trans (Nat.add_le_add_right ahead _)
    case publishing => exact room.trans (Nat.add_le_add_right ahead _)
    all_goals trivial

theorem stepProducer_fits (sound : use.Sound) (fits : use.Fits) (spurious : Bool) :
    (use.stepProducer spurious).Fits := by
  have continues := sound.continues
  have room := fits.room
  have backlog := fits.backlog
  unfold RingUse.stepProducer
  cases producer : use.producer with
  | idle => exact fits
  | loadingWrite samples => exact ⟨backlog, trivial⟩
  | loadingRead samples write =>
      dsimp only
      split
      · refine ⟨backlog, hasRoom_storeNext _ ?_⟩
        dsimp only
        omega
      · exact ⟨backlog, trivial⟩
  | exchanging samples write read =>
      rw [producer] at continues
      obtain ⟨⟨same, _⟩, behind⟩ := continues
      dsimp only
      split
      · rename_i exchanged
        obtain ⟨current, _⟩ := exchanged
        refine ⟨?_, hasRoom_storeNext _ ?_⟩
        · dsimp only
          omega
        · dsimp only
          omega
      · exact ⟨backlog, trivial⟩
  | storing slot sample rest position newWrite report =>
      rw [producer] at room
      cases slot with
      | clearing => exact ⟨backlog, room⟩
      | valuing => exact ⟨backlog, room⟩
      | sealing => exact ⟨backlog, hasRoom_storeNext rest room⟩
  | publishing newWrite report =>
      rw [producer] at room
      exact ⟨room, trivial⟩

theorem stepConsumer_fits (fits : use.Fits) (spurious : Bool)
    (keeps : use.KeepsRead (.consumer spurious)) : (use.stepConsumer spurious).Fits := by
  unfold RingUse.stepConsumer
  cases consumer : use.consumer with
  | idle => exact fits
  | loadingRead outputLen => exact ⟨fits.backlog, fits.room⟩
  | loadingWrite outputLen read =>
      dsimp only
      split
      · exact ⟨fits.backlog, fits.room⟩
      · exact ⟨fits.backlog, fits.room⟩
  | exchanging outputLen read count =>
      dsimp only
      split
      · rename_i exchanged
        obtain ⟨rfl, _⟩ := exchanged
        exact fits.moveRead (Nat.le_add_right _ _)
      · exact ⟨fits.backlog, fits.room⟩
  | loadingBefore read count offset => exact ⟨fits.backlog, fits.room⟩
  | loadingValue read count offset before => exact ⟨fits.backlog, fits.room⟩
  | loadingAfter read count offset before value => exact ⟨fits.backlog, fits.room⟩
  | clearLoading => exact ⟨fits.backlog, fits.room⟩
  | clearStoring write => exact fits.moveRead (keeps write consumer)

theorem step_fits (sound : use.Sound) (fits : use.Fits) (event : RingEvent)
    (keeps : use.KeepsRead event) : (use.step event).Fits := by
  cases event with
  | push samples =>
      unfold RingUse.step
      cases producer : use.producer with
      | idle =>
          dsimp only
          split
          · exact fits
          · exact ⟨fits.backlog, trivial⟩
      | _ => exact fits
  | pop outputLen =>
      unfold RingUse.step
      cases consumer : use.consumer with
      | idle =>
          dsimp only
          split
          · exact fits
          · exact ⟨fits.backlog, fits.room⟩
      | _ => exact fits
  | clear =>
      unfold RingUse.step
      cases consumer : use.consumer with
      | idle => exact ⟨fits.backlog, fits.room⟩
      | _ => exact fits
  | producer spurious => exact stepProducer_fits sound fits spurious
  | consumer spurious => exact stepConsumer_fits fits spurious keeps

end Backlog

theorem reached_sound {capacity : Nat} {positive : 0 < capacity} {use : RingUse}
    {meets : RingUse → RingEvent → Prop}
    (reached : Machine.Reached RingUse.step (· = RingUse.start capacity positive) meets use) :
    use.Sound := by
  apply reached.invariant
  · rintro _ rfl
    exact start_sound capacity positive
  · exact fun _ event _ sound _ => step_sound sound event

theorem step_capacity (use : RingUse) (event : RingEvent) :
    (use.step event).ring.capacity = use.ring.capacity := by
  cases event with
  | push samples =>
      unfold RingUse.step
      cases use.producer <;> dsimp only
      split <;> rfl
  | pop outputLen =>
      unfold RingUse.step
      cases use.consumer <;> dsimp only
      split <;> rfl
  | clear =>
      unfold RingUse.step
      cases use.consumer <;> rfl
  | producer spurious =>
      unfold RingUse.step RingUse.stepProducer
      cases use.producer with
      | loadingRead samples write =>
          dsimp only
          split <;> rfl
      | exchanging samples write read =>
          dsimp only
          split <;> rfl
      | storing slot sample rest position newWrite report => cases slot <;> rfl
      | _ => rfl
  | consumer spurious =>
      unfold RingUse.step RingUse.stepConsumer
      cases use.consumer with
      | loadingWrite outputLen read =>
          dsimp only
          split <;> rfl
      | exchanging outputLen read count =>
          dsimp only
          split <;> rfl
      | _ => rfl

theorem reached_fits {capacity : Nat} {positive : 0 < capacity} {use : RingUse}
    (reached : Machine.Reached RingUse.step (· = RingUse.start capacity positive)
      RingUse.KeepsRead use) : use.Fits ∧ use.ring.capacity = capacity := by
  apply reached.invariant
  · rintro _ rfl
    exact ⟨⟨Nat.zero_le _, trivial⟩, rfl⟩
  · intro use event before fits keeps
    exact ⟨step_fits (reached_sound before) fits.1 event keeps,
      (step_capacity use event).trans fits.2⟩

/-- Calls one after the other are those of a queue that drops its oldest samples. In every order
of steps samples or silence are popped at growing positions, and the backlog fits between pushes
if no clear moves the read position back. -/
theorem audio_ring_bounded (capacity : Nat) (positive : 0 < capacity) :
    (∀ calls, (AudioRing.new capacity positive).answers calls = queueAnswers capacity [] calls) ∧
      (∀ use, Machine.Reached RingUse.step (· = RingUse.start capacity positive)
          (fun _ _ => True) use →
        (∀ entry ∈ use.popped, use.stream[entry.1]? = some entry.2 ∨
            (entry.1 < use.stream.length ∧ entry.2 = 0)) ∧
          use.popped.Pairwise fun later earlier => earlier.1 < later.1) ∧
      ∀ use, Machine.Reached RingUse.step (· = RingUse.start capacity positive)
          RingUse.KeepsRead use →
        use.producer = .idle → use.ring.write - use.ring.read ≤ capacity := by
  refine ⟨?_, ?_, ?_⟩
  · intro calls
    exact AudioRing.answers_eq (AudioRing.represents_new capacity positive) calls
  · intro use reached
    have sound := reached_sound reached
    exact ⟨sound.delivered, sound.increasing⟩
  · intro use reached _
    obtain ⟨fits, same⟩ := reached_fits reached
    have backlog := fits.backlog
    omega

theorem audio_ring_bounded_four :
    (AudioRing.new 4 (by decide)).answers [.push [1, 2, 3], .push [4, 5, 6], .pop 4] =
      [.pushed ⟨3, 0, false⟩, .pushed ⟨3, 2, true⟩, .popped [3, 4, 5, 6]] :=
  (audio_ring_bounded 4 (by decide)).1 _

/-- The clear loads the write position, six samples are pushed, and the clear stores what it
loaded. -/
def lateClear : List RingEvent :=
  [.clear, .consumer false, .push [1, 2, 3, 4, 5, 6]] ++ List.replicate 16 (.producer false) ++
    [.consumer false]

/-- The clear moves the read position back, and six samples are left to read in a ring of four. -/
theorem audio_ring_clear_late :
    ¬ ∀ use, Machine.Reached RingUse.step (· = RingUse.start 4 (by decide))
        (fun _ _ => True) use →
      use.producer = .idle → use.ring.write - use.ring.read ≤ 4 := by
  intro bounded
  have begins : Machine.Reached RingUse.step (· = RingUse.start 4 (by decide))
      (fun _ _ => True) (RingUse.start 4 (by decide)) := .start rfl
  have reached := @Machine.Reached.run _ _ _ _ _ _ begins lateClear fun _ _ _ => trivial
  have backlog := bounded _ reached rfl
  revert backlog
  decide +kernel

end Noland.Microphone
