import Mathlib.Data.List.Basic
import Noland.Core.Manifest

/-!
Both functions look for the first position where a gear hash vanishes under a mask. A reader may
return fewer bytes than it is asked for, as long as it returns some before the end of its input.
-/

namespace Noland.Cas

open Noland.Core

/-- What the chunkers use from outside: the hash of some bytes as it is written
into manifests, and the logarithm that is computed in floating point. -/
structure Primitives where
  blake3Hex : List UInt8 → String
  log2Floor : Nat → Nat

def gear (byte : UInt8) : UInt64 :=
  let z := byte.toUInt64 + 0x9E3779B97F4A7C15
  let z := (z ^^^ (z >>> 30)) * 0xBF58476D1CE4E5B9
  let z := (z ^^^ (z >>> 27)) * 0x94D049BB133111EB
  z ^^^ (z >>> 31)

def maskFor (primitives : Primitives) (avg : Nat) : UInt64 :=
  (1 <<< UInt64.ofNat (min (primitives.log2Floor (max avg 2)) 31)) - 1

structure FileChunks where
  fileHash : String
  size : Nat
  chunks : List ChunkRef
  payloads : List (List UInt8)
  deriving DecidableEq

/-- The loop over a window, from position `i` on: the end of the chunk, if the
hash vanishes in the window. -/
def scanWindow (least : Nat) (mask : UInt64) : List UInt8 → Nat → UInt64 → Option Nat
  | [], _, _ => none
  | byte :: rest, i, hash =>
      let hash := (hash <<< 1) + gear byte
      if least ≤ i ∧ hash &&& mask = 0 then some (i + 1)
      else scanWindow least mask rest (i + 1) hash

/-- The positions after `pos`, where `rest` begins. A round that cuts nothing
off would go on for ever; `fuel` counts the rounds. -/
def offsetsFrom (least most : Nat) (mask : UInt64) : Nat → List UInt8 → Nat → List Nat
  | 0, _, _ => []
  | fuel + 1, rest, pos =>
      if rest.length = 0 then []
      else if rest.length ≤ least then [pos + rest.length]
      else
        let windowEnd := min rest.length most
        let start := min least windowEnd
        let cut := (scanWindow least mask ((rest.take windowEnd).drop start) start 0).getD windowEnd
        (pos + cut) :: offsetsFrom least most mask fuel (rest.drop cut) (pos + cut)

def fastcdcOffsets (primitives : Primitives) (data : List UInt8) (least avg most : Nat) : List Nat :=
  if data = [] then []
  else
    let offsets := offsetsFrom least most (maskFor primitives avg) data.length data 0
    if offsets.getLast?.getD 0 ≠ data.length then offsets ++ [data.length] else offsets

def slicesAt (data : List UInt8) : Nat → List Nat → List (List UInt8)
  | _, [] => []
  | start, cut :: rest => ((data.take cut).drop start) :: slicesAt data cut rest

def chunkRef (primitives : Primitives) (payload : List UInt8) : ChunkRef :=
  ⟨primitives.blake3Hex payload, payload.length⟩

def chunkBytesWith (primitives : Primitives) (data : List UInt8) (least avg most : Nat) : FileChunks :=
  let payloads :=
    if data = [] then []
    else if data.length ≤ least then [data]
    else slicesAt data 0 (fastcdcOffsets primitives data least avg most)
  { fileHash := primitives.blake3Hex data
    size := data.length
    chunks := payloads.map (chunkRef primitives)
    payloads := payloads }

/-- A reader over the bytes that are left. The `n`-th read returns `sizes n`
bytes, but at least one and no more than there are or fit. -/
structure Reader where
  remaining : List UInt8
  sizes : Nat → Nat
  failing : Nat → Option StateError := fun _ => none
  reads : Nat := 0

def Reader.read (reader : Reader) (room : Nat) : Except StateError (List UInt8 × Reader) :=
  match reader.failing reader.reads with
  | some error => .error error
  | none =>
      let size := min (max 1 (reader.sizes reader.reads)) (min room reader.remaining.length)
      .ok (reader.remaining.take size,
        { reader with remaining := reader.remaining.drop size, reads := reader.reads + 1 })

structure Stream where
  reader : Reader
  buffer : List UInt8 := []
  eof : Bool := false
  hashed : List UInt8 := []

def fill (most : Nat) : Nat → Stream → Except StateError Stream
  | 0, stream => .ok stream
  | fuel + 1, stream =>
      if stream.buffer.length < most ∧ stream.eof = false then
        match stream.reader.read (most - stream.buffer.length) with
        | .error error => .error error
        | .ok ([], reader) => fill most fuel { stream with reader := reader, eof := true }
        | .ok (bytes, reader) =>
            fill most fuel
              { stream with
                reader := reader
                buffer := stream.buffer ++ bytes
                hashed := stream.hashed ++ bytes }
      else .ok stream

def streamingCut (data : List UInt8) (least most : Nat) (mask : UInt64) (eof : Bool) : Nat :=
  if eof ∧ data.length ≤ least then data.length
  else
    let windowEnd := min data.length most
    let start := min least windowEnd
    (scanWindow 0 mask ((data.take windowEnd).drop start) start 0).getD windowEnd

structure ChunkStreamResult where
  fileHash : String
  size : Nat
  chunks : List ChunkRef
  deriving DecidableEq

section Callback

variable {State : Type}

abbrev OnChunk (State : Type) := ChunkRef → List UInt8 → State → Except StateError Unit × State

def chunkLoop (primitives : Primitives) (least most : Nat) (mask : UInt64)
    (onChunk : OnChunk State) :
    Nat → Stream → List ChunkRef → State → Except StateError ChunkStreamResult × State
  | 0, stream, chunks, state =>
      (.ok ⟨primitives.blake3Hex stream.hashed, (chunks.map ChunkRef.size).sum, chunks⟩, state)
  | fuel + 1, stream, chunks, state =>
      match fill most (most + 1) stream with
      | .error error => (.error error, state)
      | .ok filled =>
          if filled.buffer.length = 0 then
            (.ok ⟨primitives.blake3Hex filled.hashed, (chunks.map ChunkRef.size).sum, chunks⟩, state)
          else
            let cut := streamingCut filled.buffer least most mask filled.eof
            let payload := filled.buffer.take cut
            let chunk : ChunkRef := ⟨primitives.blake3Hex payload, cut⟩
            match onChunk chunk payload state with
            | (.error error, state) => (.error error, state)
            | (.ok (), state) =>
                chunkLoop primitives least most mask onChunk fuel
                  { filled with buffer := filled.buffer.drop cut } (chunks ++ [chunk]) state

def invalidSizes (least avg most : Nat) : StateError :=
  .invalid ("FastCDC sizes must satisfy 0 < min <= avg <= max; got " ++ toString least ++ "/" ++
    toString avg ++ "/" ++ toString most)

/-- `chunk_reader_with`; every round cuts at least one byte off. -/
def chunkReaderWith (primitives : Primitives) (reader : Reader) (least avg most : Nat)
    (onChunk : OnChunk State) (state : State) : Except StateError ChunkStreamResult × State :=
  if least = 0 ∨ avg < least ∨ most < avg then (.error (invalidSizes least avg most), state)
  else
    chunkLoop primitives least most (maskFor primitives avg) onChunk
      (reader.remaining.length + 1) { reader := reader } [] state

def deliver (onChunk : OnChunk State) : List (ChunkRef × List UInt8) → State →
    Except StateError Unit × State
  | [], state => (.ok (), state)
  | (chunk, payload) :: rest, state =>
      match onChunk chunk payload state with
      | (.error error, state) => (.error error, state)
      | (.ok (), state) => deliver onChunk rest state

end Callback

section Cuts

variable {least most : Nat} {mask : UInt64}

def cutLength (least most : Nat) (mask : UInt64) (rest : List UInt8) : Nat :=
  if rest.length ≤ least then rest.length
  else (scanWindow least mask ((rest.take (min rest.length most)).drop
    (min least (min rest.length most))) (min least (min rest.length most)) 0).getD
    (min rest.length most)

def pieces (least most : Nat) (mask : UInt64) : Nat → List UInt8 → List (List UInt8)
  | 0, _ => []
  | fuel + 1, rest =>
      if rest = [] then []
      else rest.take (cutLength least most mask rest) ::
        pieces least most mask fuel (rest.drop (cutLength least most mask rest))

/-- Where pieces end that follow one another from `pos` on. -/
def ends : Nat → List (List UInt8) → List Nat
  | _, [] => []
  | pos, piece :: rest => (pos + piece.length) :: ends (pos + piece.length) rest

theorem scanWindow_some {window : List UInt8} {i cut : Nat} {hash : UInt64}
    (found : scanWindow least mask window i hash = some cut) : i < cut ∧ cut ≤ i + window.length := by
  induction window generalizing i hash with
  | nil => cases found
  | cons byte rest ih =>
      unfold scanWindow at found
      dsimp only at found
      rw [List.length_cons]
      split at found
      · cases found
        omega
      · have later := ih found
        omega

theorem scanWindow_least {window : List UInt8} {i : Nat} {hash : UInt64} (above : least ≤ i) :
    scanWindow least mask window i hash = scanWindow 0 mask window i hash := by
  induction window generalizing i hash with
  | nil => rfl
  | cons byte rest ih =>
      unfold scanWindow
      simp only [above, Nat.zero_le, true_and]
      rw [ih (Nat.le_succ_of_le above)]

def LoopEnds (least most length : Nat) : Prop := 0 < most ∨ length ≤ least

theorem LoopEnds.mono {shorter longer : Nat} (ends : LoopEnds least most longer)
    (le : shorter ≤ longer) : LoopEnds least most shorter := by
  rcases ends with positive | short
  · exact Or.inl positive
  · exact Or.inr (Nat.le_trans le short)

theorem LoopEnds.drop {rest : List UInt8} (ends : LoopEnds least most rest.length) (n : Nat) :
    LoopEnds least most (rest.drop n).length :=
  ends.mono (by rw [List.length_drop]; omega)

theorem cutLength_of_lt {rest : List UInt8} (long : ¬ rest.length ≤ least) :
    cutLength least most mask rest = (scanWindow least mask
      ((rest.take (min rest.length most)).drop (min least (min rest.length most)))
      (min least (min rest.length most)) 0).getD (min rest.length most) :=
  if_neg long

theorem cutLength_step {rest : List UInt8} (ends : LoopEnds least most rest.length)
    (filled : rest ≠ []) :
    0 < cutLength least most mask rest ∧ cutLength least most mask rest ≤ rest.length := by
  have length := List.length_pos_iff.mpr filled
  unfold cutLength
  split
  · omega
  · rename_i long
    have positive : 0 < most := ends.resolve_right long
    cases found : scanWindow least mask ((rest.take (min rest.length most)).drop
        (min least (min rest.length most))) (min least (min rest.length most)) 0 with
    | none =>
        rw [Option.getD_none]
        omega
    | some cut =>
        have bounds := scanWindow_some found
        rw [List.length_drop, List.length_take] at bounds
        rw [Option.getD_some]
        omega

theorem cutLength_bounds (positive : 0 < least) (ordered : least ≤ most) {rest : List UInt8}
    (filled : rest ≠ []) :
    0 < cutLength least most mask rest ∧ cutLength least most mask rest ≤ rest.length :=
  cutLength_step (Or.inl (Nat.lt_of_lt_of_le positive ordered)) filled

theorem cutLength_le_most (ordered : least ≤ most) (rest : List UInt8) :
    cutLength least most mask rest ≤ most := by
  unfold cutLength
  split
  · omega
  · cases found : scanWindow least mask ((rest.take (min rest.length most)).drop
        (min least (min rest.length most))) (min least (min rest.length most)) 0 with
    | none =>
        rw [Option.getD_none]
        omega
    | some cut =>
        have bounds := scanWindow_some found
        rw [List.length_drop, List.length_take] at bounds
        rw [Option.getD_some]
        omega

theorem pieces_flatten (positive : 0 < least) (ordered : least ≤ most) {fuel : Nat}
    {rest : List UInt8} (enough : rest.length ≤ fuel) :
    (pieces least most mask fuel rest).flatten = rest := by
  induction fuel generalizing rest with
  | zero => exact (List.length_eq_zero_iff.mp (Nat.le_zero.mp enough)).symm
  | succ fuel ih =>
      unfold pieces
      split
      · rename_i empty
        rw [empty]
        rfl
      · rename_i filled
        have bounds := @cutLength_bounds least most mask positive ordered rest filled
        rw [List.flatten_cons, ih (by rw [List.length_drop]; omega), List.take_append_drop]

theorem pieces_eq_offsets (positive : 0 < least) (ordered : least ≤ most) {fuel : Nat}
    {rest : List UInt8} (enough : rest.length ≤ fuel) (pos : Nat) :
    offsetsFrom least most mask fuel rest pos = ends pos (pieces least most mask fuel rest) := by
  induction fuel generalizing rest pos with
  | zero => rfl
  | succ fuel ih =>
      unfold offsetsFrom pieces
      split
      · rename_i empty
        rw [if_pos (List.length_eq_zero_iff.mp empty)]
        rfl
      · rename_i length
        have filled : rest ≠ [] := fun empty => length (by rw [empty]; rfl)
        have bounds := @cutLength_bounds least most mask positive ordered rest filled
        rw [if_neg filled]
        unfold ends
        rw [List.length_take, Nat.min_eq_left bounds.2]
        split
        · rename_i short
          have whole : cutLength least most mask rest = rest.length := if_pos short
          rw [whole, List.drop_length]
          cases fuel with
          | zero => rfl
          | succ fuel => rfl
        · rename_i long
          rw [← ih (by rw [List.length_drop]; omega), cutLength_of_lt long]

theorem ends_getLast (pos : Nat) {parts : List (List UInt8)} (filled : parts ≠ []) :
    (ends pos parts).getLast? = some (pos + parts.flatten.length) := by
  induction parts generalizing pos with
  | nil => exact (filled rfl).elim
  | cons part rest ih =>
      cases rest with
      | nil => simp [ends]
      | cons second others =>
          have last := ih (pos + part.length) (by simp)
          unfold ends
          rw [List.getLast?_cons, last]
          simp [Nat.add_assoc]

theorem slicesAt_ends {data : List UInt8} {pos : Nat} {parts : List (List UInt8)}
    (rest : data.drop pos = parts.flatten) : slicesAt data pos (ends pos parts) = parts := by
  induction parts generalizing pos with
  | nil => rfl
  | cons part others ih =>
      rw [List.flatten_cons] at rest
      unfold ends slicesAt
      have first : (data.take (pos + part.length)).drop pos = part := by
        rw [List.drop_take, rest, Nat.add_sub_cancel_left, List.take_left]
      have later : data.drop (pos + part.length) = others.flatten := by
        rw [← List.drop_drop, rest, List.drop_left]
      rw [first, ih later]

theorem chunkBytesWith_pieces (primitives : Primitives) {avg : Nat} (positive : 0 < least)
    (ordered : least ≤ most) (data : List UInt8) :
    (chunkBytesWith primitives data least avg most).payloads =
      pieces least most (maskFor primitives avg) data.length data ∧
    fastcdcOffsets primitives data least avg most =
      ends 0 (pieces least most (maskFor primitives avg) data.length data) := by
  have flat := @pieces_flatten least most (maskFor primitives avg) positive ordered data.length data
    (Nat.le_refl _)
  have offsets : fastcdcOffsets primitives data least avg most =
      ends 0 (pieces least most (maskFor primitives avg) data.length data) := by
    unfold fastcdcOffsets
    split
    · rename_i empty
      rw [empty]
      rfl
    · rename_i filled
      have some_ : pieces least most (maskFor primitives avg) data.length data ≠ [] := by
        intro none_
        rw [none_] at flat
        exact filled flat.symm
      dsimp only
      rw [pieces_eq_offsets positive ordered (Nat.le_refl _), if_neg]
      rw [ends_getLast 0 some_, flat, Option.getD_some, Nat.zero_add]
      exact fun differs => differs rfl
  refine ⟨?_, offsets⟩
  unfold chunkBytesWith
  dsimp only
  split
  · rename_i empty
    rw [empty]
    rfl
  · rename_i filled
    split
    · rename_i short
      have whole : cutLength least most (maskFor primitives avg) data = data.length := if_pos short
      have length := List.length_pos_iff.mpr filled
      obtain ⟨fuel, count⟩ := Nat.exists_eq_add_of_lt length
      rw [Nat.zero_add] at count
      rw [count]
      unfold pieces
      rw [if_neg filled, whole, List.take_length, List.drop_length]
      cases fuel with
      | zero => rfl
      | succ fuel => rfl
    · rw [offsets]
      exact slicesAt_ends (by rw [List.drop_zero, flat])

end Cuts

section Buffer

variable {least most : Nat} {mask : UInt64}

theorem streamingCut_eq (ordered : least ≤ most) (rest : List UInt8) :
    streamingCut (rest.take most) least most mask (decide (rest.length < most)) =
      cutLength least most mask rest := by
  unfold streamingCut cutLength
  rw [List.length_take]
  by_cases short : rest.length < most
  · rw [Nat.min_eq_right (Nat.le_of_lt short), List.take_of_length_le (Nat.le_of_lt short)]
    simp only [decide_eq_true short, true_and]
    split
    · rfl
    · rename_i long
      rw [scanWindow_least (show least ≤ min least (min rest.length most) by omega)]
  · have full : min most rest.length = most := Nat.min_eq_left (Nat.le_of_not_lt short)
    rw [full]
    simp only [decide_eq_false short, Bool.false_eq_true, false_and, if_false]
    rw [Nat.min_self, Nat.min_eq_right (Nat.le_of_not_lt short), List.take_take, Nat.min_self]
    split
    · -- everything that is left is one chunk of the greatest length
      have exact_ : rest.length = most := by omega
      have window : ((rest.take most).drop (min least most)) = [] := by
        rw [List.drop_eq_nil_iff, List.length_take]
        omega
      rw [window]
      exact exact_.symm
    · rw [scanWindow_least (show least ≤ min least most by omega)]

/-- The buffer is never full when the end of the input has been seen. -/
structure Stream.Sound (most : Nat) (stream : Stream) : Prop where
  steady : ∀ n, stream.reader.failing n = none
  room : stream.buffer.length ≤ most
  ended : stream.eof = true → stream.reader.remaining = [] ∧ stream.buffer.length < most

def Stream.rest (stream : Stream) : List UInt8 := stream.buffer ++ stream.reader.remaining

structure Stream.Filled (most : Nat) (stream filled : Stream) : Prop where
  sound : filled.Sound most
  rest : filled.rest = stream.rest
  hashed : filled.hashed ++ filled.reader.remaining = stream.hashed ++ stream.reader.remaining
  buffer : filled.buffer = stream.rest.take most
  eof : filled.eof = decide (stream.rest.length < most)

theorem Stream.filled_self {stream : Stream} (sound : stream.Sound most)
    (done : ¬ (stream.buffer.length < most ∧ stream.eof = false)) : stream.Filled most stream := by
  refine ⟨sound, rfl, rfl, ?_, ?_⟩
  · unfold Stream.rest
    cases ended : stream.eof with
    | true =>
        obtain ⟨nothing, below⟩ := sound.ended ended
        rw [nothing, List.append_nil, List.take_of_length_le (Nat.le_of_lt below)]
    | false =>
        have full : stream.buffer.length = most := by
          have room := sound.room
          have notLess : ¬ stream.buffer.length < most := fun less => done ⟨less, ended⟩
          omega
        rw [← full, List.take_left]
  · unfold Stream.rest
    rw [List.length_append]
    cases ended : stream.eof with
    | true =>
        obtain ⟨nothing, below⟩ := sound.ended ended
        simp [nothing, below]
    | false =>
        have notLess : ¬ stream.buffer.length < most := fun less => done ⟨less, ended⟩
        simp only [Bool.false_eq, decide_eq_false_iff_not]
        omega

theorem fill_filled {fuel : Nat} {stream : Stream} (sound : stream.Sound most)
    (enough : most - stream.buffer.length < fuel) :
    ∃ filled, fill most fuel stream = .ok filled ∧ stream.Filled most filled := by
  induction fuel generalizing stream with
  | zero => omega
  | succ fuel ih =>
      unfold fill
      split
      · rename_i going
        unfold Reader.read
        rw [sound.steady]
        dsimp only
        cases left : stream.reader.remaining with
        | nil =>
            -- the reader has nothing left, and says so
            refine ⟨{ stream with
              reader := { stream.reader with remaining := [], reads := stream.reader.reads + 1 }
              eof := true }, ?_, ?_⟩
            · simp only [List.take_nil, List.drop_nil]
              cases fuel with
              | zero => rfl
              | succ fuel =>
                  unfold fill
                  rw [if_neg (by simp)]
            · refine ⟨⟨sound.steady, sound.room, fun _ => ⟨rfl, going.1⟩⟩, ?_, ?_, ?_, ?_⟩
              · simp [Stream.rest, left]
              · simp [left]
              · rw [Stream.rest, left, List.append_nil, List.take_of_length_le sound.room]
              · simp [Stream.rest, left, going.1]
        | cons byte rest =>
            have some_ : 0 < min (max 1 (stream.reader.sizes stream.reader.reads))
                (min (most - stream.buffer.length) (byte :: rest).length) := by
              rw [List.length_cons]
              omega
            obtain ⟨size, least⟩ := Nat.exists_eq_add_of_lt some_
            rw [Nat.zero_add] at least
            rw [least, List.take_succ_cons, List.drop_succ_cons]
            dsimp only
            have fits : size + 1 ≤ most - stream.buffer.length := by omega
            have taken : (rest.take size).length ≤ size := by
              rw [List.length_take]
              omega
            have next : Stream.Sound most { stream with
                reader := { stream.reader with
                  remaining := rest.drop size, reads := stream.reader.reads + 1 }
                buffer := stream.buffer ++ byte :: rest.take size
                hashed := stream.hashed ++ byte :: rest.take size } := by
              refine ⟨sound.steady, ?_, fun ended => ?_⟩
              · rw [List.length_append, List.length_cons]
                omega
              · rw [going.2] at ended
                cases ended
            obtain ⟨filled, done, spec⟩ := ih next (by
              rw [List.length_append, List.length_cons]
              omega)
            have whole : stream.rest = stream.buffer ++ byte :: rest.take size ++ rest.drop size := by
              rw [Stream.rest, left, List.append_assoc, List.cons_append, List.take_append_drop]
            refine ⟨filled, done, spec.sound, ?_, ?_, ?_, ?_⟩
            · rw [spec.rest, whole]
              rfl
            · rw [spec.hashed, left, List.append_assoc, List.cons_append, List.take_append_drop]
            · rw [spec.buffer, whole]
              rfl
            · rw [spec.eof, whole]
              rfl
      · rename_i done
        exact ⟨stream, rfl, Stream.filled_self sound done⟩

theorem Stream.Filled.take {stream filled : Stream} (spec : stream.Filled most filled) {n : Nat}
    (within : n ≤ filled.buffer.length) : filled.buffer.take n = stream.rest.take n := by
  rw [← spec.rest, Stream.rest, List.take_append_of_le_length within]

theorem Stream.Filled.drop {stream filled : Stream} (spec : stream.Filled most filled) {n : Nat}
    (within : n ≤ filled.buffer.length) :
    Stream.rest { filled with buffer := filled.buffer.drop n } = stream.rest.drop n := by
  rw [← spec.rest, Stream.rest, Stream.rest, List.drop_append_of_le_length within]

theorem Stream.Sound.drop {stream : Stream} (sound : stream.Sound most) (n : Nat) :
    Stream.Sound most { stream with buffer := stream.buffer.drop n } where
  steady := sound.steady
  room := by
    have room := sound.room
    rw [List.length_drop]
    omega
  ended finished := by
    obtain ⟨nothing, below⟩ := sound.ended finished
    refine ⟨nothing, ?_⟩
    rw [List.length_drop]
    omega

end Buffer

section Agreement

variable {State : Type} {least most : Nat} {mask : UInt64}

theorem pieces_succ (positive : 0 < least) (ordered : least ≤ most) {fuel : Nat}
    {rest : List UInt8} (enough : rest.length ≤ fuel) :
    pieces least most mask (fuel + 1) rest = pieces least most mask fuel rest := by
  induction fuel generalizing rest with
  | zero =>
      rw [List.length_eq_zero_iff.mp (Nat.le_zero.mp enough)]
      rfl
  | succ fuel ih =>
      by_cases empty : rest = []
      · rw [empty]
        rfl
      · have bounds := @cutLength_bounds least most mask positive ordered rest empty
        have later : (rest.drop (cutLength least most mask rest)).length ≤ fuel := by
          rw [List.length_drop]
          omega
        have first : ∀ fuel, pieces least most mask (fuel + 1) rest =
            rest.take (cutLength least most mask rest) ::
              pieces least most mask fuel (rest.drop (cutLength least most mask rest)) :=
          fun _ => if_neg empty
        rw [first, first, ih later]

def withRefs (primitives : Primitives) (payloads : List (List UInt8)) :
    List (ChunkRef × List UInt8) :=
  payloads.map fun payload => (chunkRef primitives payload, payload)

def afterDelivery (primitives : Primitives) (bytes : List UInt8) (chunks : List ChunkRef) :
    Except StateError Unit × State → Except StateError ChunkStreamResult × State
  | (.error error, state) => (.error error, state)
  | (.ok (), state) =>
      (.ok ⟨primitives.blake3Hex bytes, (chunks.map ChunkRef.size).sum, chunks⟩, state)

theorem chunkLoop_pieces (primitives : Primitives) (onChunk : OnChunk State)
    (positive : 0 < least) (ordered : least ≤ most) {fuel : Nat} {stream : Stream}
    (sound : stream.Sound most) (enough : stream.rest.length < fuel) (chunks : List ChunkRef)
    (state : State) :
    chunkLoop primitives least most mask onChunk fuel stream chunks state =
      afterDelivery primitives (stream.hashed ++ stream.reader.remaining)
        (chunks ++ (pieces least most mask fuel stream.rest).map (chunkRef primitives))
        (deliver onChunk (withRefs primitives (pieces least most mask fuel stream.rest)) state) := by
  induction fuel generalizing stream chunks state with
  | zero => omega
  | succ fuel ih =>
      obtain ⟨filled, done, spec⟩ := fill_filled sound
        (show most - stream.buffer.length < most + 1 by omega)
      unfold chunkLoop
      rw [done]
      dsimp only
      have wide : 0 < most := Nat.lt_of_lt_of_le positive ordered
      by_cases empty : stream.rest = []
      · have drained : filled.buffer = [] := by rw [spec.buffer, empty, List.take_nil]
        have nothing : filled.reader.remaining = [] := by
          have whole := spec.rest
          rw [empty, Stream.rest] at whole
          exact (List.append_eq_nil_iff.mp whole).2
        have hashed := spec.hashed
        rw [nothing, List.append_nil] at hashed
        rw [drained, if_pos List.length_nil, empty, hashed]
        unfold pieces
        rw [if_pos rfl]
        simp only [List.map_nil, List.append_nil, withRefs, deliver, afterDelivery]
      · have some_ : filled.buffer.length ≠ 0 := by
          have length := List.length_pos_iff.mpr empty
          rw [spec.buffer, List.length_take]
          omega
        have cut : streamingCut filled.buffer least most mask filled.eof =
            cutLength least most mask stream.rest := by
          rw [spec.buffer, spec.eof]
          exact streamingCut_eq ordered stream.rest
        have bounds := @cutLength_bounds least most mask positive ordered stream.rest empty
        have within : cutLength least most mask stream.rest ≤ filled.buffer.length := by
          have atMost := @cutLength_le_most least most mask ordered stream.rest
          rw [spec.buffer, List.length_take]
          omega
        have payload := spec.take within
        have left := spec.drop within
        have next := spec.sound.drop (cutLength least most mask stream.rest)
        have reference : (⟨primitives.blake3Hex
              (stream.rest.take (cutLength least most mask stream.rest)),
              cutLength least most mask stream.rest⟩ : ChunkRef) =
            chunkRef primitives (stream.rest.take (cutLength least most mask stream.rest)) := by
          unfold chunkRef
          rw [List.length_take, Nat.min_eq_left bounds.2]
        have first : pieces least most mask (fuel + 1) stream.rest =
            stream.rest.take (cutLength least most mask stream.rest) :: pieces least most mask fuel
              (stream.rest.drop (cutLength least most mask stream.rest)) := if_neg empty
        rw [if_neg some_, cut, payload, reference, first]
        simp only [withRefs, List.map_cons, deliver]
        cases consumed : onChunk (chunkRef primitives
            (stream.rest.take (cutLength least most mask stream.rest)))
            (stream.rest.take (cutLength least most mask stream.rest)) state with
        | mk outcome later =>
            cases outcome with
            | error error => rfl
            | ok value =>
                dsimp only
                rw [ih next (by rw [left, List.length_drop]; omega), left, List.append_assoc]
                rw [List.singleton_append]
                have hashed := spec.hashed
                dsimp only
                rw [hashed]
                rfl

theorem zip_refs (primitives : Primitives) (payloads : List (List UInt8)) :
    (payloads.map (chunkRef primitives)).zip payloads = withRefs primitives payloads := by
  induction payloads with
  | nil => rfl
  | cons payload rest ih => exact congrArg _ ih

theorem sum_sizes (primitives : Primitives) (payloads : List (List UInt8)) :
    ((payloads.map (chunkRef primitives)).map ChunkRef.size).sum = payloads.flatten.length := by
  induction payloads with
  | nil => rfl
  | cons payload rest ih =>
      simp only [List.map_cons, List.sum_cons, List.flatten_cons, List.length_append]
      rw [ih]
      rfl

/-- A consumer sees the chunks of the data in memory, in order, however the
reader splits it, and if it takes them all the result is that of the data. -/
theorem chunk_reader_agrees (primitives : Primitives) (onChunk : OnChunk State) (state : State)
    (reader : Reader) (least avg most : Nat) (steady : ∀ n, reader.failing n = none)
    (positive : 0 < least) (ordered : least ≤ avg) (bounded : avg ≤ most) :
    (chunkReaderWith primitives reader least avg most onChunk state =
      match deliver onChunk
        ((chunkBytesWith primitives reader.remaining least avg most).chunks.zip
          (chunkBytesWith primitives reader.remaining least avg most).payloads) state with
      | (.error error, later) => (.error error, later)
      | (.ok (), later) =>
          (.ok ⟨(chunkBytesWith primitives reader.remaining least avg most).fileHash,
            (chunkBytesWith primitives reader.remaining least avg most).size,
            (chunkBytesWith primitives reader.remaining least avg most).chunks⟩, later)) ∧
    ends 0 (chunkBytesWith primitives reader.remaining least avg most).payloads =
      fastcdcOffsets primitives reader.remaining least avg most := by
  have within : least ≤ most := Nat.le_trans ordered bounded
  obtain ⟨payloads, offsets⟩ := @chunkBytesWith_pieces least most primitives avg positive within
    reader.remaining
  refine ⟨?_, by rw [payloads, offsets]⟩
  have sound : Stream.Sound most { reader := reader } :=
    ⟨steady, Nat.zero_le _, fun ended => by cases ended⟩
  have chunks : (chunkBytesWith primitives reader.remaining least avg most).chunks =
      (chunkBytesWith primitives reader.remaining least avg most).payloads.map
        (chunkRef primitives) := rfl
  have flat := @pieces_flatten least most (maskFor primitives avg) positive within
    reader.remaining.length reader.remaining (Nat.le_refl _)
  have loop := @chunkLoop_pieces State least most (maskFor primitives avg) primitives onChunk positive
    within (reader.remaining.length + 1) { reader := reader } sound
    (Nat.lt_succ_self reader.remaining.length) [] state
  unfold chunkReaderWith
  rw [if_neg (by omega), loop, chunks, zip_refs, payloads]
  have same : pieces least most (maskFor primitives avg) (reader.remaining.length + 1)
      (Stream.rest { reader := reader }) =
      pieces least most (maskFor primitives avg) reader.remaining.length reader.remaining :=
    pieces_succ positive within (Nat.le_refl _)
  rw [same, List.nil_append, List.nil_append]
  cases deliver onChunk (withRefs primitives (pieces least most (maskFor primitives avg)
    reader.remaining.length reader.remaining)) state with
  | mk outcome later =>
      cases outcome with
      | error error => rfl
      | ok value =>
          simp only [afterDelivery, sum_sizes, flat]
          rfl

end Agreement

namespace Sample

def primitives : Primitives :=
  { blake3Hex := fun bytes => String.ofList (bytes.map fun byte => Char.ofNat (byte.toNat + 65))
    log2Floor := Nat.log2 }

def reader : Reader := { remaining := [1, 2, 3, 4, 5, 6, 7], sizes := fun _ => 2 }

def collect : OnChunk (List (List UInt8)) := fun _ payload seen => (.ok (), seen ++ [payload])

end Sample

theorem chunk_reader_agrees_seven :
    (chunkReaderWith Sample.primitives Sample.reader 2 2 3 Sample.collect []).2 =
      (chunkBytesWith Sample.primitives Sample.reader.remaining 2 2 3).payloads ∧
    1 < (chunkBytesWith Sample.primitives Sample.reader.remaining 2 2 3).chunks.length := by
  have agrees := (chunk_reader_agrees Sample.primitives Sample.collect [] Sample.reader 2 2 3
    (fun _ => rfl) (by decide) (by decide) (by decide)).1
  rw [agrees]
  decide

end Noland.Cas
