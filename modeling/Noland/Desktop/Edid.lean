import Mathlib.Algebra.Order.Ring.Nat
import Noland.Desktop.DisplayModes
import Noland.Lib.Base64
import Noland.Lib.Text

/-!
From `services/sunshine.rs`: an EDID block with one detailed timing, standard timings of the
catalog and a range limits descriptor, and the reader of its preferred mode.
-/

namespace Noland.Desktop

def headlessEdidTemplate : List Char :=
  "AP///////wAQrLCgUzIwMQ4aAQS1PCJ4Ok2VqFVOoSYPUFSlSwBxT4GAqcDRwAEBAQEBAQEBtmwAoKCAKWAwIDUA".toList ++
    "VVAhAAAaAAAA/wBGMExNWDc1MzIwMVMKAAAA/ABERUxMIFUyNzEzSE0KAAAA/QBFTB5TEQAKICAgICAgACs=".toList

def edidMinRefreshHz : Nat := 30

def edidMaxRefreshHz : Nat := 240

inductive EdidError where
  | refreshOutOfRange
  | zeroSize
  | tooLarge
  | template
  | clockOutOfRange
  | notBase64
  | shortBlock
  | noTiming
  | invalidTiming
  deriving DecidableEq

abbrev Block := Nat → Nat

def Block.put (block : Block) (offset number : Nat) : Block := fun place =>
  if place = offset then number % 256 else block place

def Block.bytes (block : Block) : List Nat := (List.range 128).map block

def hBlanking : Nat := 160

def vBlanking : Nat := 28

def hSyncOffset : Nat := 48

def hSyncWidth : Nat := 32

def vSyncOffset : Nat := 3

def vSyncWidth : Nat := 5

def pixelClock (width height refreshHz : Nat) : Nat :=
  ((width + hBlanking) * (height + vBlanking) * refreshHz + 5000) / 10000

def Block.detailedTiming (block : Block) (clock width height : Nat) : Block :=
  (((((((((((block.put 54 (clock &&& 255)).put 55 (clock >>> 8 &&& 255)).put 56
    (width &&& 255)).put 57 (hBlanking &&& 255)).put 58
    ((width >>> 8 &&& 15) <<< 4 ||| (hBlanking >>> 8 &&& 15))).put 59
    (height &&& 255)).put 60 (vBlanking &&& 255)).put 61
    ((height >>> 8 &&& 15) <<< 4 ||| (vBlanking >>> 8 &&& 15))).put 62
    (hSyncOffset &&& 255)).put 63 (hSyncWidth &&& 255)).put 64
    ((vSyncOffset &&& 15) <<< 4 ||| (vSyncWidth &&& 15))).put 65
    ((hSyncOffset >>> 8 &&& 3) <<< 6 ||| (hSyncWidth >>> 8 &&& 3) <<< 4 |||
      (vSyncOffset >>> 4 &&& 3) <<< 2 ||| (vSyncWidth >>> 4 &&& 3))

def encodeStandardTiming (mode : DisplayModeSpec) : Option (Nat × Nat) :=
  let refreshHz := mode.refreshMillihz / 1000
  let aspect :=
    if mode.width * 10 = mode.height * 16 then some 0
    else if mode.width * 3 = mode.height * 4 then some 1
    else if mode.width * 4 = mode.height * 5 then some 2
    else if mode.width * 9 = mode.height * 16 then some 3
    else none
  if mode.width < 256 ∨ 2288 < mode.width ∨ mode.width % 8 ≠ 0 then none
  else if mode.refreshMillihz % 1000 ≠ 0 then none
  else if ¬ (60 ≤ refreshHz ∧ refreshHz ≤ 123) then none
  else aspect.map fun ratio => (mode.width / 8 - 31, ratio <<< 6 ||| (refreshHz - 60))

def Block.clearTimings (block : Block) : Block := fun place =>
  if 38 ≤ place ∧ place < 54 then 1 else block place

def Block.standardTimings (preferred : DisplayModeSpec) :
    Nat → List DisplayModeSpec → Block → Block
  | _, [], block => block
  | slot, mode :: rest, block =>
      if mode = preferred then Block.standardTimings preferred slot rest block
      else
        match encodeStandardTiming mode with
        | none => Block.standardTimings preferred slot rest block
        | some (first, second) =>
            let written := (block.put (38 + slot * 2) first).put (38 + slot * 2 + 1) second
            if slot + 1 = 8 then written
            else Block.standardTimings preferred (slot + 1) rest written

def maxHorizontal (height refreshHz : Nat) : Nat :=
  min (max ((refreshHz * (height + vBlanking) + 500) / 1000) 15) 255

def Block.rangeLimits (block : Block) (clock height refreshHz : Nat) : Block :=
  if block 108 = 0 ∧ block 109 = 0 ∧ block 110 = 0 ∧ block 111 = 253 then
    ((((block.put 113 (max (min edidMinRefreshHz refreshHz) 1)).put 114
      (min (max refreshHz 60) 255)).put 115 15).put 116 (maxHorizontal height refreshHz)).put 117
      (min (max ((clock + 999) / 1000) 1) 255)
  else block

def serialSeed (width height refreshHz : Nat) : Nat :=
  (width * 31 + height * 17 + refreshHz * 13) % 4294967296

def Block.serial (block : Block) (seed : Nat) : Block :=
  (((block.put 12 (seed &&& 255)).put 13 (seed >>> 8 &&& 255)).put 14
    (seed >>> 16 &&& 255)).put 15 (seed >>> 24 &&& 255)

def Block.checksum (block : Block) : Block :=
  block.put 127 (256 - ((List.range 127).map block).sum % 256)

def clearedBlock (template : List Nat) (width height refreshHz : Nat) : Block :=
  (Block.detailedTiming (fun place => template.getD place 0)
    (min (pixelClock width height refreshHz) 65535) width height).clearTimings

def edidBlock (family : Nat → Nat → AspectFamily) (template : List Nat)
    (width height refreshHz : Nat) : Block :=
  let preferred : DisplayModeSpec := ⟨width, height, refreshHz * 1000⟩
  let timings := Block.standardTimings preferred 0 (commonModeCatalog family preferred)
    (clearedBlock template width height refreshHz)
  ((timings.rangeLimits (min (pixelClock width height refreshHz) 65535) height refreshHz).serial
    (serialSeed width height refreshHz)).checksum

def generateHeadlessEdidBase64 (family : Nat → Nat → AspectFamily)
    (width height refreshHz : Nat) : Except EdidError (List Char) :=
  if ¬ (edidMinRefreshHz ≤ refreshHz ∧ refreshHz ≤ edidMaxRefreshHz) then
    .error .refreshOutOfRange
  else if width = 0 ∨ height = 0 then .error .zeroSize
  else if width > 4095 ∨ height > 4095 then .error .tooLarge
  else
    match Base64.decode headlessEdidTemplate with
    | none => .error .template
    | some template =>
        if template.length < 128 then .error .template
        else if pixelClock width height refreshHz = 0 then .error .clockOutOfRange
        else .ok (Base64.encode (edidBlock family template width height refreshHz).bytes)

def decodeHeadlessEdidPreferredMode (edid : List Char) : Except EdidError (Nat × Nat × Nat) :=
  match Base64.decode (Text.trim edid) with
  | none => .error .notBase64
  | some bytes =>
      if bytes.length < 128 then .error .shortBlock
      else
        let byte := fun offset => bytes.getD offset 0
        let clock := byte 54 ||| byte 55 <<< 8
        let width := byte 56 ||| (byte 58 &&& 240) <<< 4
        let hBlank := byte 57 ||| (byte 58 &&& 15) <<< 8
        let height := byte 59 ||| (byte 61 &&& 240) <<< 4
        let vBlank := byte 60 ||| (byte 61 &&& 15) <<< 8
        let total := (width + hBlank) * (height + vBlank)
        if clock = 0 then .error .noTiming
        else if width = 0 ∨ height = 0 ∨ width + hBlank = 0 ∨ height + vBlank = 0 then
          .error .invalidTiming
        else .ok (width, height, (clock * 10000 * 1000 + total / 2) / total % 4294967296)

def decodeStandardTiming (first second : Nat) : DisplayModeSpec :=
  let width := (first + 31) * 8
  let height :=
    match second / 64 with
    | 0 => width * 10 / 16
    | 1 => width * 3 / 4
    | 2 => width * 4 / 5
    | _ => width * 9 / 16
  ⟨width, height, (second % 64 + 60) * 1000⟩

namespace Block

theorem put_apply (block : Block) (offset number place : Nat) :
    block.put offset number place = if place = offset then number % 256 else block place := rfl

theorem bytes_getD (block : Block) {place : Nat} (inside : place < 128) :
    block.bytes.getD place 0 = block place := by
  simp [bytes, List.getD_eq_getElem?_getD, inside]

theorem detailedTiming_fields (block : Block) (clock width height : Nat) :
    let timed := block.detailedTiming clock width height
    (timed 54 = (clock &&& 255) % 256 ∧ timed 55 = (clock >>> 8 &&& 255) % 256) ∧
      (timed 56 = (width &&& 255) % 256 ∧ timed 57 = 160 ∧
        timed 58 = ((width >>> 8 &&& 15) <<< 4 ||| 0) % 256) ∧
      timed 59 = (height &&& 255) % 256 ∧ timed 60 = 28 ∧
        timed 61 = ((height >>> 8 &&& 15) <<< 4 ||| 0) % 256 :=
  ⟨⟨rfl, rfl⟩, ⟨rfl, rfl, rfl⟩, rfl, rfl, rfl⟩

theorem checksum_apply (block : Block) {place : Nat} (other : place ≠ 127) :
    block.checksum place = block place := by
  rw [checksum, put_apply, if_neg other]

theorem serial_apply (block : Block) (seed : Nat) {place : Nat} (other : 15 < place) :
    block.serial seed place = block place := by
  simp only [serial, put_apply]
  rw [if_neg (by omega), if_neg (by omega), if_neg (by omega), if_neg (by omega)]

theorem rangeLimits_apply (block : Block) (clock height refreshHz : Nat) {place : Nat}
    (other : place < 113) : block.rangeLimits clock height refreshHz place = block place := by
  rw [rangeLimits]
  split_ifs
  · simp only [put_apply]
    rw [if_neg (by omega), if_neg (by omega), if_neg (by omega), if_neg (by omega),
      if_neg (by omega)]
  · rfl

theorem standardTimings_skip {preferred mode : DisplayModeSpec}
    (skipped : mode = preferred ∨ encodeStandardTiming mode = none) (slot : Nat)
    (rest : List DisplayModeSpec) (block : Block) :
    standardTimings preferred slot (mode :: rest) block =
      standardTimings preferred slot rest block := by
  rw [standardTimings]
  by_cases same : mode = preferred
  · rw [if_pos same]
  · rw [if_neg same, skipped.resolve_left same]

theorem standardTimings_write {preferred mode : DisplayModeSpec} {first second : Nat}
    (other : mode ≠ preferred) (encoded : encodeStandardTiming mode = some (first, second))
    (slot : Nat) (rest : List DisplayModeSpec) (block : Block) :
    standardTimings preferred slot (mode :: rest) block =
      if slot + 1 = 8 then (block.put (38 + slot * 2) first).put (38 + slot * 2 + 1) second
      else standardTimings preferred (slot + 1) rest
        ((block.put (38 + slot * 2) first).put (38 + slot * 2 + 1) second) := by
  rw [standardTimings, if_neg other, encoded]

theorem standardTimings_apply (preferred : DisplayModeSpec) (modes : List DisplayModeSpec)
    {slot place : Nat} (block : Block) (inside : slot < 8)
    (other : place < 38 + slot * 2 ∨ 54 ≤ place) :
    standardTimings preferred slot modes block place = block place := by
  induction modes generalizing slot block with
  | nil => rfl
  | cons mode rest ih =>
      by_cases skipped : mode = preferred ∨ encodeStandardTiming mode = none
      · rw [standardTimings_skip skipped]
        exact ih block inside other
      · rw [not_or] at skipped
        obtain ⟨⟨first, second⟩, encoded⟩ := Option.ne_none_iff_exists'.mp skipped.2
        have kept : ((block.put (38 + slot * 2) first).put (38 + slot * 2 + 1) second) place =
            block place := by
          rw [put_apply, put_apply, if_neg (by omega), if_neg (by omega)]
        rw [standardTimings_write skipped.1 encoded]
        split_ifs with last
        · exact kept
        · rw [ih _ (by omega) (by omega), kept]

def Small (block : Block) : Prop := ∀ place, block place < 256

theorem Small.put {block : Block} (small : block.Small) (offset number : Nat) :
    (block.put offset number).Small := by
  intro place
  rw [put_apply]
  split_ifs
  · exact Nat.mod_lt _ (by decide)
  · exact small place

theorem Small.clearTimings {block : Block} (small : block.Small) : block.clearTimings.Small := by
  intro place
  rw [Block.clearTimings]
  split_ifs
  · decide
  · exact small place

theorem Small.standardTimings {block : Block} (small : block.Small)
    (preferred : DisplayModeSpec) (slot : Nat) (modes : List DisplayModeSpec) :
    (standardTimings preferred slot modes block).Small := by
  induction modes generalizing slot block with
  | nil => exact small
  | cons mode rest ih =>
      by_cases skipped : mode = preferred ∨ encodeStandardTiming mode = none
      · rw [standardTimings_skip skipped]
        exact ih small slot
      · rw [not_or] at skipped
        obtain ⟨⟨first, second⟩, encoded⟩ := Option.ne_none_iff_exists'.mp skipped.2
        rw [standardTimings_write skipped.1 encoded]
        split_ifs
        · exact (small.put _ _).put _ _
        · exact ih ((small.put _ _).put _ _) (slot + 1)

theorem Small.rangeLimits {block : Block} (small : block.Small) (clock height refreshHz : Nat) :
    (block.rangeLimits clock height refreshHz).Small := by
  rw [Block.rangeLimits]
  split_ifs
  · exact ((((small.put _ _).put _ _).put _ _).put _ _).put _ _
  · exact small

theorem checksum_sum (block : Block) : block.checksum.bytes.sum % 256 = 0 := by
  have before : (List.range 127).map block.checksum = (List.range 127).map block := by
    apply List.map_congr_left
    intro place member
    exact block.checksum_apply (Nat.ne_of_lt (List.mem_range.mp member))
  have last : block.checksum 127 = (256 - ((List.range 127).map block).sum % 256) % 256 := by
    rw [checksum, put_apply, if_pos rfl]
  rw [bytes, List.range_succ, List.map_append, before, List.map_singleton, last, List.sum_append,
    List.sum_singleton]
  omega

end Block

theorem template_decodes :
    ∃ template, Base64.decode headlessEdidTemplate = some template ∧ template.length = 128 ∧
      (template.getD 108 0 = 0 ∧ template.getD 109 0 = 0 ∧ template.getD 110 0 = 0 ∧
        template.getD 111 0 = 253) ∧ ∀ byte ∈ template, byte < 256 := by
  have read : (Base64.decode headlessEdidTemplate).any (fun template =>
      template.length = 128 ∧ (template.getD 108 0 = 0 ∧ template.getD 109 0 = 0 ∧
        template.getD 110 0 = 0 ∧ template.getD 111 0 = 253) ∧
        template.all (fun byte => byte < 256) = true) = true := by
    decide +kernel
  cases decoded : Base64.decode headlessEdidTemplate with
  | none => simp [decoded] at read
  | some template =>
      rw [decoded, Option.any_some, decide_eq_true_eq] at read
      exact ⟨template, rfl, read.1, read.2.1, by simpa using read.2.2⟩

theorem aspect_byte (ratio : Nat) {number : Nat} (small : number < 64) :
    (ratio <<< 6 ||| number) / 64 = ratio ∧ (ratio <<< 6 ||| number) % 64 = number := by
  rw [← Nat.shiftLeft_add_eq_or_of_lt (i := 6) small, Nat.shiftLeft_eq]
  omega

theorem decode_timing {width number : Nat} (size : 256 ≤ width) (whole : width % 8 = 0)
    (small : number < 64) (ratio : Nat) :
    decodeStandardTiming (width / 8 - 31) (ratio <<< 6 ||| number) =
      ⟨width,
        match ratio with
        | 0 => width * 10 / 16
        | 1 => width * 3 / 4
        | 2 => width * 4 / 5
        | _ => width * 9 / 16, (number + 60) * 1000⟩ := by
  obtain ⟨quotient, remainder⟩ := aspect_byte ratio small
  rw [decodeStandardTiming, quotient, remainder, show (width / 8 - 31 + 31) * 8 = width by omega]

theorem decode_encodeStandardTiming {mode : DisplayModeSpec} {first second : Nat}
    (encoded : encodeStandardTiming mode = some (first, second)) :
    first < 256 ∧ second < 256 ∧ decodeStandardTiming first second = mode := by
  obtain ⟨width, height, refresh⟩ := mode
  simp only [encodeStandardTiming] at encoded
  split_ifs at encoded with size millis rate wide third fifth high
  all_goals
    simp only [Option.map_some, Option.map_none, Option.some.injEq, Prod.mk.injEq,
      reduceCtorEq] at encoded
  all_goals
    obtain ⟨rfl, rfl⟩ := encoded
    rw [decode_timing (by omega) (by omega) (by omega)]
    simp only [DisplayModeSpec.mk.injEq, true_and]
  · have byte := (aspect_byte 0 (show refresh / 1000 - 60 < 64 by omega)).1
    omega
  · have byte := (aspect_byte 1 (show refresh / 1000 - 60 < 64 by omega)).1
    omega
  · have byte := (aspect_byte 2 (show refresh / 1000 - 60 < 64 by omega)).1
    omega
  · have byte := (aspect_byte 3 (show refresh / 1000 - 60 < 64 by omega)).1
    omega

def slotEncoding (preferred mode : DisplayModeSpec) : Option (Nat × Nat) :=
  if mode = preferred then none else encodeStandardTiming mode

theorem standardTimings_slot (preferred : DisplayModeSpec) (modes : List DisplayModeSpec)
    {slot index : Nat} (block : Block) (later : slot ≤ index) (inside : index < 8) :
    match (modes.filterMap (slotEncoding preferred))[index - slot]? with
    | some (first, second) =>
        Block.standardTimings preferred slot modes block (38 + index * 2) = first % 256 ∧
          Block.standardTimings preferred slot modes block (38 + index * 2 + 1) = second % 256
    | none =>
        Block.standardTimings preferred slot modes block (38 + index * 2) =
            block (38 + index * 2) ∧
          Block.standardTimings preferred slot modes block (38 + index * 2 + 1) =
            block (38 + index * 2 + 1) := by
  induction modes generalizing slot block with
  | nil => exact ⟨rfl, rfl⟩
  | cons mode rest ih =>
      by_cases skipped : mode = preferred ∨ encodeStandardTiming mode = none
      · have unwritten : slotEncoding preferred mode = none := by
          rw [slotEncoding]
          split_ifs with same
          · rfl
          · exact skipped.resolve_left same
        rw [Block.standardTimings_skip skipped, List.filterMap_cons_none unwritten]
        exact ih block later
      · rw [not_or] at skipped
        obtain ⟨⟨first, second⟩, encoded⟩ := Option.ne_none_iff_exists'.mp skipped.2
        have written : slotEncoding preferred mode = some (first, second) := by
          rw [slotEncoding, if_neg skipped.1, encoded]
        rw [Block.standardTimings_write skipped.1 encoded, List.filterMap_cons_some written]
        have bytes : ∀ after : Block,
            after (38 + slot * 2) = ((block.put (38 + slot * 2) first).put (38 + slot * 2 + 1)
                second) (38 + slot * 2) →
              after (38 + slot * 2 + 1) = ((block.put (38 + slot * 2) first).put
                (38 + slot * 2 + 1) second) (38 + slot * 2 + 1) →
              after (38 + slot * 2) = first % 256 ∧
                after (38 + slot * 2 + 1) = second % 256 := by
          intro after even odd
          rw [even, odd]
          simp [Block.put_apply]
        by_cases here : index = slot
        · subst here
          rw [Nat.sub_self, List.getElem?_cons_zero]
          split_ifs with last
          · exact bytes _ rfl rfl
          · exact bytes _ (Block.standardTimings_apply _ _ _ (by omega) (by omega))
              (Block.standardTimings_apply _ _ _ (by omega) (by omega))
        · obtain ⟨gap, ahead⟩ : ∃ gap, index - slot = gap + 1 := ⟨index - slot - 1, by omega⟩
          have further := @ih (slot + 1)
            ((block.put (38 + slot * 2) first).put (38 + slot * 2 + 1) second) (by omega)
          rw [show index - (slot + 1) = gap by omega] at further
          rw [ahead, List.getElem?_cons_succ, if_neg (by omega)]
          cases found : (rest.filterMap (slotEncoding preferred))[gap]? with
          | some pair =>
              rw [found] at further
              exact further
          | none =>
              rw [found] at further
              simp only [Block.put_apply] at further
              rw [if_neg (by omega), if_neg (by omega), if_neg (by omega),
                if_neg (by omega)] at further
              exact further

theorem map_slotEncoding (preferred : DisplayModeSpec) (modes : List DisplayModeSpec) :
    (modes.filterMap (slotEncoding preferred)).map (fun pair =>
        decodeStandardTiming pair.1 pair.2) =
      modes.filter fun mode => (slotEncoding preferred mode).isSome := by
  induction modes with
  | nil => rfl
  | cons mode rest ih =>
      cases written : slotEncoding preferred mode with
      | none => rw [List.filterMap_cons_none written, List.filter_cons_of_neg (by simp [written]), ih]
      | some pair =>
          have read : decodeStandardTiming pair.1 pair.2 = mode := by
            rw [slotEncoding] at written
            split_ifs at written
            exact (decode_encodeStandardTiming written).2.2
          rw [List.filterMap_cons_some written, List.filter_cons_of_pos (by simp [written]),
            List.map_cons, read, ih]

structure EdidRequest where
  width : Nat
  height : Nat
  refreshHz : Nat
  width_bounds : 1 ≤ width ∧ width ≤ 4095
  height_bounds : 1 ≤ height ∧ height ≤ 4095
  refresh_bounds : edidMinRefreshHz ≤ refreshHz ∧ refreshHz ≤ edidMaxRefreshHz

def EdidRequest.preferred (request : EdidRequest) : DisplayModeSpec :=
  ⟨request.width, request.height, request.refreshHz * 1000⟩

def byteAt (bytes : List Nat) (offset : Nat) : Nat := bytes.getD offset 0

theorem byteAt_block (block : Block) {place : Nat} (inside : place < 128) :
    byteAt block.bytes place = block place :=
  Block.bytes_getD block inside

/-- The range limits contain a timing: its vertical rate in Hz, its horizontal rate in kHz and
its pixel clock in units of 10 MHz, as far as the fields can hold them. -/
def RangeAdmits (bytes : List Nat) (request : EdidRequest) : Prop :=
  let horizontal := request.refreshHz * (request.height + vBlanking)
  let clock := byteAt bytes 54 + 256 * byteAt bytes 55
  (byteAt bytes 113 ≤ request.refreshHz ∧ request.refreshHz ≤ byteAt bytes 114) ∧
    (byteAt bytes 115 * 1000 ≤ horizontal ∧
      (horizontal ≤ byteAt bytes 116 * 1000 ∨ 255 * 1000 < horizontal)) ∧
    (clock ≤ byteAt bytes 117 * 1000 ∨ 255 * 1000 < clock)

def slotMode (bytes : List Nat) (slot : Nat) : DisplayModeSpec :=
  decodeStandardTiming (byteAt bytes (38 + slot * 2)) (byteAt bytes (38 + slot * 2 + 1))

def SlotUsed (bytes : List Nat) (slot : Nat) : Prop :=
  slot < 8 ∧ ¬ (byteAt bytes (38 + slot * 2) = 1 ∧ byteAt bytes (38 + slot * 2 + 1) = 1)

/-- The used slots stand for distinct modes of the catalog that are not larger. -/
def SlotsListed (family : Nat → Nat → AspectFamily) (bytes : List Nat) (request : EdidRequest) :
    Prop :=
  (∀ slot, SlotUsed bytes slot →
      slotMode bytes slot ∈ commonModeCatalog family request.preferred ∧
        (slotMode bytes slot).width ≤ request.width ∧
        (slotMode bytes slot).height ≤ request.height) ∧
    ∀ slot other, SlotUsed bytes slot → SlotUsed bytes other →
      slotMode bytes slot = slotMode bytes other → slot = other

def ReadsBack (text : List Char) (request : EdidRequest) : Prop :=
  ∃ millihz, decodeHeadlessEdidPreferredMode text =
      .ok (request.width, request.height, millihz) ∧
    let total := (request.width + hBlanking) * (request.height + vBlanking)
    2 * (millihz * total) ≤ 2000 * (total * request.refreshHz) + 10000000 + total ∧
      2000 * (total * request.refreshHz) ≤ 2 * (millihz * total) + 10000000 + total

def EdidAgrees (family : Nat → Nat → AspectFamily) (request : EdidRequest) : Prop :=
  ∃ text bytes,
    generateHeadlessEdidBase64 family request.width request.height request.refreshHz = .ok text ∧
      Base64.decode text = some bytes ∧ bytes.length = 128 ∧ bytes.sum % 256 = 0 ∧
      (pixelClock request.width request.height request.refreshHz ≤ 65535 →
        ReadsBack text request) ∧
      RangeAdmits bytes request ∧ SlotsListed family bytes request

/-- The horizontal rate is at least 15 kHz and not rounded down below the limit of its field. -/
def HorizontalFits (request : EdidRequest) : Prop :=
  let horizontal := request.refreshHz * (request.height + vBlanking)
  15000 ≤ horizontal ∧ (255000 < horizontal ∨ horizontal % 1000 = 0 ∨ 500 ≤ horizontal % 1000)

theorem and_255 (number : Nat) : number &&& 255 = number % 256 :=
  Nat.and_two_pow_sub_one_eq_mod number 8

theorem and_15 (number : Nat) : number &&& 15 = number % 16 :=
  Nat.and_two_pow_sub_one_eq_mod number 4

theorem low_or_high {low : Nat} (small : low < 256) (high : Nat) :
    low ||| high * 256 = high * 256 + low := by
  have joined := Nat.two_pow_add_eq_or_of_lt (i := 8) small high
  rw [Nat.or_comm, Nat.mul_comm high, ← joined]

theorem twelve_bits {number : Nat} (bound : number < 4096) :
    (number &&& 255) % 256 |||
      (((number >>> 8 &&& 15) <<< 4 ||| 0) % 256 &&& 240) <<< 4 = number := by
  have upper : ∀ nibble < 16, ((nibble <<< 4 ||| 0) % 256 &&& 240) <<< 4 = nibble * 256 := by
    decide
  rw [and_255, and_15, Nat.shiftRight_eq_div_pow, upper _ (Nat.mod_lt _ (by decide)),
    low_or_high (Nat.mod_lt _ (by decide))]
  omega

theorem nibble_empty (number : Nat) :
    (((number >>> 8 &&& 15) <<< 4 ||| 0) % 256 &&& 15) <<< 8 = 0 := by
  have lower : ∀ nibble < 16, ((nibble <<< 4 ||| 0) % 256 &&& 15) <<< 8 = 0 := by
    decide
  rw [and_15 (number >>> 8)]
  exact lower _ (Nat.mod_lt _ (by decide))

theorem sixteen_bits {number : Nat} (bound : number < 65536) :
    (number &&& 255) % 256 ||| ((number >>> 8 &&& 255) % 256) <<< 8 = number := by
  rw [and_255, and_255, Nat.shiftRight_eq_div_pow, Nat.shiftLeft_eq,
    show (2 : Nat) ^ 8 = 256 from rfl, low_or_high (by omega)]
  omega

theorem sixteen_sum {number : Nat} (bound : number < 65536) :
    (number &&& 255) % 256 + 256 * ((number >>> 8 &&& 255) % 256) = number := by
  rw [and_255, and_255, Nat.shiftRight_eq_div_pow]
  omega

section Generated

variable (family : Nat → Nat → AspectFamily) (template : List Nat) (width height refreshHz : Nat)

theorem edidBlock_middle {place : Nat} (above : 15 < place) (below : place < 113) :
    edidBlock family template width height refreshHz place =
      Block.standardTimings ⟨width, height, refreshHz * 1000⟩ 0
        (commonModeCatalog family ⟨width, height, refreshHz * 1000⟩)
        (clearedBlock template width height refreshHz) place := by
  rw [edidBlock, Block.checksum_apply _ (by omega), Block.serial_apply _ _ above,
    Block.rangeLimits_apply _ _ _ _ below]

theorem edidBlock_timing {place : Nat} (above : 54 ≤ place) (below : place < 113) :
    edidBlock family template width height refreshHz place =
      Block.detailedTiming (fun place => template.getD place 0)
        (min (pixelClock width height refreshHz) 65535) width height place := by
  rw [edidBlock_middle family template width height refreshHz (by omega) below,
    Block.standardTimings_apply _ _ _ (by decide) (Or.inr above), clearedBlock,
    Block.clearTimings, if_neg (by omega)]

theorem edidBlock_range (limits : template.getD 108 0 = 0 ∧ template.getD 109 0 = 0 ∧
      template.getD 110 0 = 0 ∧ template.getD 111 0 = 253) {place : Nat} (above : 113 ≤ place)
    (below : place ≤ 117) :
    edidBlock family template width height refreshHz place =
      (if place = 117 then
        min (max ((min (pixelClock width height refreshHz) 65535 + 999) / 1000) 1) 255
      else if place = 116 then maxHorizontal height refreshHz
      else if place = 115 then 15
      else if place = 114 then min (max refreshHz 60) 255
      else max (min edidMinRefreshHz refreshHz) 1) % 256 := by
  have header : ∀ offset, 66 ≤ offset → offset < 113 →
      Block.standardTimings ⟨width, height, refreshHz * 1000⟩ 0
        (commonModeCatalog family ⟨width, height, refreshHz * 1000⟩)
        (clearedBlock template width height refreshHz) offset = template.getD offset 0 := by
    intro offset after before
    rw [Block.standardTimings_apply _ _ _ (by decide) (Or.inr (by omega)), clearedBlock,
      Block.clearTimings, if_neg (by omega)]
    simp only [Block.detailedTiming, Block.put_apply]
    repeat rw [if_neg (by omega)]
  have found := And.intro (header 108 (by decide) (by decide)) (And.intro
    (header 109 (by decide) (by decide)) (And.intro (header 110 (by decide) (by decide))
      (header 111 (by decide) (by decide))))
  rw [limits.1, limits.2.1, limits.2.2.1, limits.2.2.2] at found
  rw [edidBlock, Block.checksum_apply _ (by omega), Block.serial_apply _ _ (by omega)]
  rw [Block.rangeLimits, if_pos found]
  simp only [Block.put_apply]
  have places : place = 113 ∨ place = 114 ∨ place = 115 ∨ place = 116 ∨ place = 117 := by omega
  rcases places with rfl | rfl | rfl | rfl | rfl <;> rfl

theorem edidBlock_small (bytes : ∀ byte ∈ template, byte < 256) :
    (edidBlock family template width height refreshHz).Small := by
  have start : Block.Small fun place => template.getD place 0 := by
    intro place
    show template.getD place 0 < 256
    rw [List.getD_eq_getElem?_getD]
    cases found : template[place]? with
    | none => decide
    | some byte => exact bytes byte (List.mem_of_getElem? found)
  have timed : (Block.detailedTiming (fun place => template.getD place 0)
      (min (pixelClock width height refreshHz) 65535) width height).Small := by
    rw [Block.detailedTiming]
    repeat apply Block.Small.put
    exact start
  have limited := ((timed.clearTimings.standardTimings ⟨width, height, refreshHz * 1000⟩ 0
    (commonModeCatalog family ⟨width, height, refreshHz * 1000⟩)).rangeLimits
      (min (pixelClock width height refreshHz) 65535) height refreshHz)
  rw [edidBlock, Block.checksum, Block.serial]
  repeat apply Block.Small.put
  exact limited

end Generated

variable {family : Nat → Nat → AspectFamily} {template : List Nat}

def requestBlock (family : Nat → Nat → AspectFamily) (template : List Nat)
    (request : EdidRequest) : Block :=
  edidBlock family template request.width request.height request.refreshHz

theorem pixelClock_pos (request : EdidRequest) :
    14 ≤ pixelClock request.width request.height request.refreshHz := by
  have width : 161 ≤ request.width + hBlanking := Nat.add_le_add_right request.width_bounds.1 160
  have height : 29 ≤ request.height + vBlanking := Nat.add_le_add_right request.height_bounds.1 28
  have least : 161 * 29 * 30 ≤
      (request.width + hBlanking) * (request.height + vBlanking) * request.refreshHz :=
    Nat.mul_le_mul (Nat.mul_le_mul width height) request.refresh_bounds.1
  rw [pixelClock]
  omega

theorem generated (family : Nat → Nat → AspectFamily) (request : EdidRequest)
    (decoded : Base64.decode headlessEdidTemplate = some template)
    (length : template.length = 128) (small : ∀ byte ∈ template, byte < 256) :
    generateHeadlessEdidBase64 family request.width request.height request.refreshHz =
        .ok (Base64.encode (requestBlock family template request).bytes) ∧
      Base64.decode (Base64.encode (requestBlock family template request).bytes) =
        some (requestBlock family template request).bytes := by
  obtain ⟨widthLow, widthHigh⟩ := request.width_bounds
  obtain ⟨heightLow, heightHigh⟩ := request.height_bounds
  have positive := pixelClock_pos request
  constructor
  · rw [generateHeadlessEdidBase64, if_neg (not_not.mpr request.refresh_bounds),
      if_neg (by omega), if_neg (by omega), decoded]
    simp only
    rw [if_neg (by omega), if_neg (by omega)]
    rfl
  · apply Base64.decode_encode
    intro byte member
    rw [Block.bytes, List.mem_map] at member
    obtain ⟨place, -, rfl⟩ := member
    exact edidBlock_small family template _ _ _ small place

theorem refresh_rounding {total refreshHz : Nat} (positive : 0 < total) (fast : refreshHz ≤ 240) :
    let clock := (total * refreshHz + 5000) / 10000
    let millihz := (clock * 10000 * 1000 + total / 2) / total
    millihz < 4294967296 ∧
      2 * (millihz * total) ≤ 2000 * (total * refreshHz) + 10000000 + total ∧
      2000 * (total * refreshHz) ≤ 2 * (millihz * total) + 10000000 + total := by
  intro clock millihz
  have exact_division : total * millihz + (clock * 10000 * 1000 + total / 2) % total =
      clock * 10000 * 1000 + total / 2 := Nat.div_add_mod _ _
  have remainder := Nat.mod_lt (clock * 10000 * 1000 + total / 2) positive
  have steps : millihz * total = total * millihz := Nat.mul_comm _ _
  have bounded : millihz * total ≤ 5240001 * total := by
    have slow : total * refreshHz ≤ total * 240 := Nat.mul_le_mul_left total fast
    omega
  refine ⟨?_, by omega, by omega⟩
  have below := Nat.le_of_mul_le_mul_right bounded positive
  omega

theorem trim_encode (bytes : List Nat) :
    Text.trim (Base64.encode bytes) = Base64.encode bytes := by
  apply Text.trim_of_all
  intro c member
  have clean : ('=' :: Base64.alphabet).all (fun c => !Text.whitespace c) = true := by decide
  simpa using List.all_eq_true.mp clean c (Base64.mem_encode member)

theorem readsBack (request : EdidRequest) (small : ∀ byte ∈ template, byte < 256)
    (unclamped : pixelClock request.width request.height request.refreshHz ≤ 65535) :
    ReadsBack (Base64.encode (requestBlock family template request).bytes) request := by
  have decoded := Base64.decode_encode (requestBlock family template request).bytes (by
    intro byte member
    rw [Block.bytes, List.mem_map] at member
    obtain ⟨place, -, rfl⟩ := member
    exact edidBlock_small family template _ _ _ small place)
  have positive := pixelClock_pos request
  have timing : ∀ place, 54 ≤ place → place < 66 →
      (requestBlock family template request).bytes.getD place 0 =
        Block.detailedTiming (fun place => template.getD place 0)
          (pixelClock request.width request.height request.refreshHz) request.width
          request.height place := by
    intro place above below
    rw [Block.bytes_getD _ (by omega), requestBlock,
      edidBlock_timing _ _ _ _ _ above (by omega), Nat.min_eq_left unclamped]
  obtain ⟨⟨low, high⟩, ⟨wide, wideBlank, wideUpper⟩, tall, tallBlank, tallUpper⟩ :=
    Block.detailedTiming_fields (fun place => template.getD place 0)
      (pixelClock request.width request.height request.refreshHz) request.width request.height
  have total : 0 < (request.width + hBlanking) * (request.height + vBlanking) :=
    Nat.mul_pos (Nat.add_pos_left request.width_bounds.1 _)
      (Nat.add_pos_left request.height_bounds.1 _)
  have rounding := refresh_rounding total request.refresh_bounds.2
  have clock_bits := sixteen_bits (Nat.lt_succ_of_le unclamped)
  have width_bits := twelve_bits (Nat.lt_succ_of_le request.width_bounds.2)
  have height_bits := twelve_bits (Nat.lt_succ_of_le request.height_bounds.2)
  refine ⟨_, ?_, rounding.2⟩
  rw [decodeHeadlessEdidPreferredMode, trim_encode, decoded]
  simp only
  rw [if_neg (by simp [Block.bytes])]
  rw [timing 54 (by decide) (by decide), timing 55 (by decide) (by decide),
    timing 56 (by decide) (by decide), timing 57 (by decide) (by decide),
    timing 58 (by decide) (by decide), timing 59 (by decide) (by decide),
    timing 60 (by decide) (by decide), timing 61 (by decide) (by decide), low, high, wide,
    wideBlank, wideUpper, tall, tallBlank, tallUpper, clock_bits, width_bits, height_bits,
    nibble_empty, nibble_empty, Nat.or_zero, Nat.or_zero, if_neg (by omega)]
  have least := request.width_bounds.1
  have lowest := request.height_bounds.1
  rw [if_neg (by omega), Nat.mod_eq_of_lt]
  · rfl
  · exact rounding.1

theorem rangeAdmits_iff (request : EdidRequest)
    (limits : template.getD 108 0 = 0 ∧ template.getD 109 0 = 0 ∧ template.getD 110 0 = 0 ∧
      template.getD 111 0 = 253) :
    RangeAdmits (requestBlock family template request).bytes request ↔
      HorizontalFits request := by
  have range := @edidBlock_range family template request.width request.height request.refreshHz
    limits
  have timing := @edidBlock_timing family template request.width request.height
    request.refreshHz
  obtain ⟨⟨low, high⟩, -⟩ := Block.detailedTiming_fields (fun place => template.getD place 0)
    (min (pixelClock request.width request.height request.refreshHz) 65535) request.width
    request.height
  have clock := sixteen_sum (show min (pixelClock request.width request.height
    request.refreshHz) 65535 < 65536 by omega)
  have refresh := request.refresh_bounds
  rw [edidMinRefreshHz, edidMaxRefreshHz] at refresh
  simp (disch := decide) only [RangeAdmits, byteAt_block, requestBlock]
  simp (disch := decide) only [timing]
  rw [low, high, clock, @range 113 (by decide) (by decide), @range 114 (by decide) (by decide),
    @range 115 (by decide) (by decide), @range 116 (by decide) (by decide),
    @range 117 (by decide) (by decide), maxHorizontal, edidMinRefreshHz, HorizontalFits]
  generalize request.refreshHz * (request.height + vBlanking) = horizontal
  generalize min (pixelClock request.width request.height request.refreshHz) 65535 = limited at *
  simp only [Nat.reduceEqDiff, if_true, if_false]
  omega

theorem slot_used {request : EdidRequest} {slot : Nat}
    (used : SlotUsed (requestBlock family template request).bytes slot) :
    ((commonModeCatalog family request.preferred).filter fun mode =>
        (slotEncoding request.preferred mode).isSome)[slot]? =
      some (slotMode (requestBlock family template request).bytes slot) := by
  obtain ⟨inside, marked⟩ := used
  have written := standardTimings_slot request.preferred
    (commonModeCatalog family request.preferred)
    (clearedBlock template request.width request.height request.refreshHz) (Nat.zero_le slot)
    inside
  have bytes : ∀ place, 15 < place → place < 113 →
      byteAt (requestBlock family template request).bytes place =
        Block.standardTimings request.preferred 0 (commonModeCatalog family request.preferred)
          (clearedBlock template request.width request.height request.refreshHz) place := by
    intro place above below
    rw [byteAt_block _ (by omega)]
    exact edidBlock_middle family template _ _ _ above below
  have even := bytes (38 + slot * 2) (by omega) (by omega)
  have odd := bytes (38 + slot * 2 + 1) (by omega) (by omega)
  rw [Nat.sub_zero] at written
  rw [← map_slotEncoding, List.getElem?_map]
  cases found : ((commonModeCatalog family request.preferred).filterMap
      (slotEncoding request.preferred))[slot]? with
  | none =>
      rw [found] at written
      have cleared : ∀ place, 38 ≤ place → place < 54 →
          clearedBlock template request.width request.height request.refreshHz place = 1 := by
        intro place above below
        rw [clearedBlock, Block.clearTimings, if_pos ⟨above, below⟩]
      apply absurd _ marked
      rw [even, odd, written.1, written.2]
      exact ⟨cleared _ (by omega) (by omega), cleared _ (by omega) (by omega)⟩
  | some pair =>
      obtain ⟨mode, -, encoded⟩ := List.mem_filterMap.mp (List.mem_of_getElem? found)
      rw [slotEncoding] at encoded
      split_ifs at encoded
      obtain ⟨first, second, -⟩ := decode_encodeStandardTiming encoded
      rw [found] at written
      rw [slotMode, even, odd, written.1, written.2, Nat.mod_eq_of_lt first,
        Nat.mod_eq_of_lt second]
      rfl

theorem slotsListed (request : EdidRequest) :
    SlotsListed family (requestBlock family template request).bytes request := by
  constructor
  · intro slot used
    have listed := (List.mem_filter.mp (List.mem_of_getElem? (slot_used used))).1
    exact ⟨listed, catalog_fits family listed⟩
  · intro slot other used otherUsed same
    have here := slot_used used
    have there := slot_used otherUsed
    rw [same] at here
    obtain ⟨inside, at_slot⟩ := List.getElem?_eq_some_iff.mp here
    obtain ⟨otherInside, at_other⟩ := List.getElem?_eq_some_iff.mp there
    exact (((nodup_catalog family _).filter _).getElem_inj_iff).mp (at_slot.trans at_other.symm)

/-- The block agrees with its readers exactly when the horizontal rate fits. -/
theorem edid_agrees_iff (family : Nat → Nat → AspectFamily) (request : EdidRequest) :
    EdidAgrees family request ↔ HorizontalFits request := by
  obtain ⟨template, decoded, length, limits, small⟩ := template_decodes
  obtain ⟨success, read⟩ := generated family request decoded length small
  constructor
  · rintro ⟨text, bytes, made, bytesRead, -, -, -, admits, -⟩
    rw [success, Except.ok.injEq] at made
    subst made
    rw [read, Option.some.injEq] at bytesRead
    subst bytesRead
    exact (rangeAdmits_iff request limits).mp admits
  · intro fits
    refine ⟨_, _, success, read, ?_, ?_, readsBack request small, ?_, slotsListed request⟩
    · simp [Block.bytes]
    · exact Block.checksum_sum _
    · exact (rangeAdmits_iff request limits).mpr fits

def fullHdRequest : EdidRequest :=
  { width := 1920
    height := 1080
    refreshHz := 60
    width_bounds := by decide
    height_bounds := by decide
    refresh_bounds := by decide }

/-- At 1920x1080 and 60 Hz the limits end at 66 kHz, below the 66.48 kHz of the timing. -/
theorem edid_disagrees :
    ¬ ∀ (family : Nat → Nat → AspectFamily) (request : EdidRequest),
      EdidAgrees family request := by
  intro always
  obtain ⟨template, decoded, length, limits, small⟩ := template_decodes
  obtain ⟨text, bytes, made, bytesRead, -, -, -, admits, -⟩ :=
    always (fun _ _ => .widescreen16By9) fullHdRequest
  obtain ⟨success, read⟩ := generated (fun _ _ => .widescreen16By9) fullHdRequest decoded length
    small
  rw [success, Except.ok.injEq] at made
  subst made
  rw [read, Option.some.injEq] at bytesRead
  subst bytesRead
  have fits := (rangeAdmits_iff fullHdRequest limits).mp admits
  revert fits
  simp [HorizontalFits, fullHdRequest, vBlanking]

end Noland.Desktop
