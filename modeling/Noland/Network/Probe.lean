import Noland.Lib.Buffer

/-!
The three versions of a packet share an encoder, a decoder and an acknowledger. The authentication
tag is a keyed hash cut to 16 bytes; here it is any function of the authenticated bytes and the
token.
-/

namespace Noland.Network

open Noland.Buffer

def v1PacketLen : Nat := 48
def v2PacketLen : Nat := 56
def v3AckPacketLen : Nat := 72
def v3MinPacketLen : Nat := v3AckPacketLen
def v3MaxPacketLen : Nat := 1500
def v1AuthenticatedLen : Nat := 32
def v2AuthenticatedLen : Nat := 40
def tagLen : Nat := 16

/-- `NLND`. -/
def magic : List UInt8 := [78, 76, 78, 68]

inductive PacketType where
  | probe
  | ack
  deriving DecidableEq

def PacketType.byte : PacketType → UInt8
  | .probe => 1
  | .ack => 2

inductive ProbePath where
  | unspecified
  | direct
  | cloudflareTurn
  deriving DecidableEq

def ProbePath.byte : ProbePath → UInt8
  | .unspecified => 0
  | .direct => 1
  | .cloudflareTurn => 2

inductive ProbeDirection where
  | unspecified
  | clientToHost
  | hostToClient
  deriving DecidableEq

def ProbeDirection.byte : ProbeDirection → UInt8
  | .unspecified => 0
  | .clientToHost => 1
  | .hostToClient => 2

structure ProbePacket where
  version : UInt8
  packetType : PacketType
  path : ProbePath
  sequence : UInt64
  sessionId : FixedBytes 16
  clientMonotonicUs : UInt64
  profileGeneration : UInt64
  payloadSize : UInt16
  observedPayloadSize : UInt16
  direction : ProbeDirection
  deriving DecidableEq

namespace ProbePacket

def v3Len (packet : ProbePacket) : Nat :=
  if packet.packetType = .ack then v3AckPacketLen else packet.payloadSize.toNat

def wireLen (packet : ProbePacket) : Option (Nat × Nat) :=
  if packet.version = 1 then some (v1PacketLen, v1AuthenticatedLen)
  else if packet.version = 2 then some (v2PacketLen, v2AuthenticatedLen)
  else if packet.version = 3 then
    let len := packet.v3Len
    if v3MinPacketLen ≤ len ∧ len ≤ v3MaxPacketLen then some (len, len - tagLen) else none
  else none

def fill (packet : ProbePacket) (len : Nat) : List UInt8 :=
  let bytes := List.replicate len 0
  let bytes := write bytes 0 magic
  let bytes := write bytes 4 [packet.version]
  let bytes := write bytes 5 [packet.packetType.byte]
  let bytes := write bytes 6 [if packet.version ≥ 2 then packet.path.byte else 0]
  let bytes := write bytes 7 [if packet.version = 3 then packet.direction.byte else 0]
  let bytes := write bytes 8 (toBytes 8 packet.sequence.toNat)
  let bytes := write bytes 16 packet.sessionId.bytes
  let bytes := if packet.version ≥ 2 then
    write bytes 32 (toBytes 8 packet.clientMonotonicUs.toNat) else bytes
  if packet.version = 3 then
    let bytes := write bytes 40 (toBytes 8 packet.profileGeneration.toNat)
    let bytes := write bytes 48 (toBytes 2 packet.payloadSize.toNat)
    write bytes 50 (toBytes 2 packet.observedPayloadSize.toNat)
  else bytes

variable (authenticationTag : List UInt8 → FixedBytes 32 → FixedBytes 16)

def encode (packet : ProbePacket) (token : FixedBytes 32) : List UInt8 :=
  match packet.wireLen with
  | none => []
  | some (len, authenticatedLen) =>
      let bytes := packet.fill len
      let tag := authenticationTag (bytes.take authenticatedLen) token
      write bytes authenticatedLen tag.bytes

def expectedLen (version : UInt8) (bytes : List UInt8) : Option Nat :=
  if version = 1 ∧ byteAt bytes 7 = 0 then some v1PacketLen
  else if version = 2 ∧ byteAt bytes 7 = 0 then some v2PacketLen
  else if version = 3 ∧ v3MinPacketLen ≤ bytes.length ∧ bytes.length ≤ v3MaxPacketLen then
    some bytes.length
  else none

def packetTypeOf (byte : UInt8) : Option PacketType :=
  if byte = 1 then some .probe
  else if byte = 2 then some .ack
  else none

def pathOf (version byte : UInt8) : Option ProbePath :=
  if (version = 1 ∨ version = 2) ∧ byte = 0 then some .unspecified
  else if (version = 2 ∨ version = 3) ∧ byte = 1 then some .direct
  else if (version = 2 ∨ version = 3) ∧ byte = 2 then some .cloudflareTurn
  else none

def directionOf (version byte : UInt8) : Option ProbeDirection :=
  if (version = 1 ∨ version = 2) ∧ byte = 0 ∨ version = 3 ∧ byte = 0 then some .unspecified
  else if version = 3 ∧ byte = 1 then some .clientToHost
  else if version = 3 ∧ byte = 2 then some .hostToClient
  else none

def sizesMismatch (packetType : PacketType) (len : Nat) (payloadSize observed : UInt16) : Prop :=
  match packetType with
  | .probe => payloadSize.toNat ≠ len ∨ observed ≠ 0
  | .ack => len ≠ v3AckPacketLen ∨ payloadSize.toNat < v3MinPacketLen ∨
      payloadSize.toNat > v3MaxPacketLen ∨ observed ≠ payloadSize

instance (packetType : PacketType) (len : Nat) (payloadSize observed : UInt16) :
    Decidable (sizesMismatch packetType len payloadSize observed) :=
  match packetType with
  | .probe => inferInstanceAs (Decidable (_ ∨ _))
  | .ack => inferInstanceAs (Decidable (_ ∨ _))

def decodeUnverified (bytes : List UInt8) : Option ProbePacket :=
  if bytes.length < 8 ∨ slice bytes 0 4 ≠ magic then none
  else do
    let version := byteAt bytes 4
    let expected ← expectedLen version bytes
    if bytes.length ≠ expected then none
    else do
      let packetType ← packetTypeOf (byteAt bytes 5)
      let path ← pathOf version (byteAt bytes 6)
      let direction ← directionOf version (byteAt bytes 7)
      let payloadSize := if version = 3 then readU16 bytes 48 else 0
      let observedPayloadSize := if version = 3 then readU16 bytes 50 else 0
      if version = 3 ∧ (slice bytes 52 56 ≠ [0, 0, 0, 0] ∨
          sizesMismatch packetType bytes.length payloadSize observedPayloadSize) then none
      else do
        let sessionId ← FixedBytes.ofList 16 (slice bytes 16 32)
        some {
          version := version
          packetType := packetType
          path := path
          sequence := readU64 bytes 8
          sessionId := sessionId
          clientMonotonicUs := if version ≥ 2 then readU64 bytes 32 else 0
          profileGeneration := if version = 3 then readU64 bytes 40 else 0
          payloadSize := payloadSize
          observedPayloadSize := observedPayloadSize
          direction := direction }

def authenticatedLen (packet : ProbePacket) (len : Nat) : Option Nat :=
  if packet.version = 1 then some v1AuthenticatedLen
  else if packet.version = 2 then some v2AuthenticatedLen
  else if packet.version = 3 then
    if tagLen ≤ len then some (len - tagLen) else none
  else none

def decodeAndVerify (bytes : List UInt8) (token : FixedBytes 32) : Option ProbePacket := do
  let packet ← decodeUnverified bytes
  let authenticated ← packet.authenticatedLen bytes.length
  let expected := authenticationTag (bytes.take authenticated) token
  if expected.bytes = slice bytes authenticated (authenticated + tagLen) then some packet else none

end ProbePacket

def acknowledgeProbe (authenticationTag : List UInt8 → FixedBytes 32 → FixedBytes 16)
    (bytes : List UInt8) (token : FixedBytes 32) : Option (List UInt8) := do
  let probe ← ProbePacket.decodeAndVerify authenticationTag bytes token
  if probe.packetType ≠ .probe then none
  else do
    let observed ← if probe.version = 3 then
        if bytes.length < 65536 then some (UInt16.ofNat bytes.length) else none
      else some 0
    some (ProbePacket.encode authenticationTag
      { probe with packetType := .ack, observedPayloadSize := observed } token)

namespace ProbePacket

/-- Version 1 has no path, no timestamp and none of the fields of version 3. -/
structure FitsV1 (packet : ProbePacket) : Prop where
  version : packet.version = 1
  path : packet.path = .unspecified
  timestamp : packet.clientMonotonicUs = 0
  generation : packet.profileGeneration = 0
  payload : packet.payloadSize = 0
  observed : packet.observedPayloadSize = 0
  direction : packet.direction = .unspecified

structure FitsV2 (packet : ProbePacket) : Prop where
  version : packet.version = 2
  generation : packet.profileGeneration = 0
  payload : packet.payloadSize = 0
  observed : packet.observedPayloadSize = 0
  direction : packet.direction = .unspecified

structure FitsV3 (packet : ProbePacket) : Prop where
  version : packet.version = 3
  path : packet.path = .direct ∨ packet.path = .cloudflareTurn
  lower : 72 ≤ packet.payloadSize.toNat
  upper : packet.payloadSize.toNat ≤ 1500
  observed : packet.observedPayloadSize =
    match packet.packetType with
    | .probe => 0
    | .ack => packet.payloadSize

inductive OnWire (packet : ProbePacket) : Prop where
  | v1 (fits : packet.FitsV1)
  | v2 (fits : packet.FitsV2)
  | v3 (fits : packet.FitsV3)

/-- The fields that `fill` writes, in the order of their offsets. -/
def fields (packet : ProbePacket) : List (Nat × List UInt8) :=
  [(0, magic), (4, [packet.version]), (5, [packet.packetType.byte]),
    (6, [if packet.version ≥ 2 then packet.path.byte else 0]),
    (7, [if packet.version = 3 then packet.direction.byte else 0]),
    (8, toBytes 8 packet.sequence.toNat), (16, packet.sessionId.bytes)] ++
  (if packet.version ≥ 2 then [(32, toBytes 8 packet.clientMonotonicUs.toNat)] else []) ++
  (if packet.version = 3 then
    [(40, toBytes 8 packet.profileGeneration.toNat), (48, toBytes 2 packet.payloadSize.toNat),
      (50, toBytes 2 packet.observedPayloadSize.toNat)] else [])

variable {packet : ProbePacket} {bytes : List UInt8} {len authenticated : Nat}

theorem fill_eq (packet : ProbePacket) (len : Nat) :
    packet.fill len = writeAll (List.replicate len 0) packet.fields := by
  by_cases second : packet.version ≥ 2
  · by_cases third : packet.version = 3
    · simp [fill, fields, writeAll, third]
    · simp [fill, fields, writeAll, second, third]
  · by_cases third : packet.version = 3
    · rw [third] at second
      exact absurd (by decide) second
    · simp [fill, fields, writeAll, second, third]

theorem fields_inOrder (packet : ProbePacket) : InOrder packet.fields := by
  have session := packet.sessionId.length_bytes
  by_cases second : packet.version ≥ 2 <;> by_cases third : packet.version = 3 <;>
    simp [InOrder, fields, second, third, magic, session]

theorem wireLen_cases (wire : packet.wireLen = some (len, authenticated)) :
    authenticated + 16 = len ∧
      (packet.version = 1 ∧ len = 48 ∨ packet.version = 2 ∧ len = 56 ∨
        packet.version = 3 ∧ 72 ≤ len ∧ len ≤ 1500 ∧ len = packet.v3Len) := by
  unfold wireLen at wire
  by_cases first : packet.version = 1
  · rw [if_pos first] at wire
    cases wire
    exact ⟨rfl, Or.inl ⟨first, rfl⟩⟩
  by_cases second : packet.version = 2
  · rw [if_neg first, if_pos second] at wire
    cases wire
    exact ⟨rfl, Or.inr (Or.inl ⟨second, rfl⟩)⟩
  by_cases third : packet.version = 3
  · rw [if_neg first, if_neg second, if_pos third] at wire
    by_cases inside : v3MinPacketLen ≤ packet.v3Len ∧ packet.v3Len ≤ v3MaxPacketLen
    · rw [if_pos inside] at wire
      cases wire
      have lower : 72 ≤ packet.v3Len := inside.1
      exact ⟨Nat.sub_add_cancel (Nat.le_trans (by decide) lower),
        Or.inr (Or.inr ⟨third, lower, inside.2, rfl⟩)⟩
    · rw [if_neg inside] at wire
      cases wire
  · rw [if_neg first, if_neg second, if_neg third] at wire
    cases wire

theorem fields_fit (wire : packet.wireLen = some (len, authenticated)) :
    Fit authenticated packet.fields := by
  have session := packet.sessionId.length_bytes
  obtain ⟨tagged, first | second | third⟩ := wireLen_cases wire
  · simp [Fit, fields, first, magic, session]
    omega
  · simp [Fit, fields, second, magic, session]
    omega
  · simp [Fit, fields, third, magic, session]
    omega

structure Carries (bytes : List UInt8) (packet : ProbePacket) : Prop where
  fields : ∀ field ∈ packet.fields, slice bytes field.1 (field.1 + field.2.length) = field.2
  reserved : packet.version = 3 → slice bytes 52 56 = [0, 0, 0, 0]

theorem fill_carries (wire : packet.wireLen = some (len, authenticated)) {tag : List UInt8}
    (room : tag.length = 16) : Carries (write (packet.fill len) authenticated tag) packet := by
  obtain ⟨tagged, lengths⟩ := wireLen_cases wire
  have fits := fields_fit wire
  have filled : (List.replicate len (0 : UInt8)).length = len := List.length_replicate
  have fit : Fit (List.replicate len (0 : UInt8)).length packet.fields := by
    rw [filled]
    exact fun field member => Nat.le_trans (fits field member) (by omega)
  have whole : authenticated + tag.length = (packet.fill len).length := by
    rw [fill_eq, length_writeAll fit, filled, room, tagged]
  have inside := Nat.le_of_eq whole
  constructor
  · intro field member
    rw [slice_write_apart inside (Or.inl (fits field member)), fill_eq]
    exact slice_writeAll_mem fit (fields_inOrder packet) member rfl
  · intro third
    have long : 72 ≤ len := by
      rcases lengths with first | second | third
      · rw [first.1] at third
        cases third
      · rw [second.1] at third
        cases third
      · exact third.2.1
    have apart : ∀ field ∈ packet.fields, 56 ≤ field.1 ∨ field.1 + field.2.length ≤ 52 := by
      have session := packet.sessionId.length_bytes
      simp [fields, third, magic, session]
    rw [slice_write_apart inside (Or.inl (by omega)), fill_eq, slice_writeAll_apart fit apart,
      slice_replicate (by omega)]
    rfl

namespace Carries

variable (carries : Carries bytes packet)
include carries

theorem magic_eq : slice bytes 0 4 = magic :=
  carries.fields (0, magic) (by simp [ProbePacket.fields])

theorem version_eq : byteAt bytes 4 = packet.version :=
  byteAt_of_slice (carries.fields (4, [packet.version]) (by simp [ProbePacket.fields]))

theorem packetType_eq : byteAt bytes 5 = packet.packetType.byte :=
  byteAt_of_slice (carries.fields (5, [packet.packetType.byte]) (by simp [ProbePacket.fields]))

theorem path_eq : byteAt bytes 6 = if packet.version ≥ 2 then packet.path.byte else 0 :=
  byteAt_of_slice (carries.fields (6, [_]) (by simp [ProbePacket.fields]))

theorem direction_eq : byteAt bytes 7 = if packet.version = 3 then packet.direction.byte else 0 :=
  byteAt_of_slice (carries.fields (7, [_]) (by simp [ProbePacket.fields]))

theorem sequence_eq : readU64 bytes 8 = packet.sequence :=
  readU64_of_slice (carries.fields (8, toBytes 8 packet.sequence.toNat)
    (by simp [ProbePacket.fields]))

theorem session_eq : slice bytes 16 32 = packet.sessionId.bytes := by
  have read := carries.fields (16, packet.sessionId.bytes) (by simp [ProbePacket.fields])
  rw [packet.sessionId.length_bytes] at read
  exact read

theorem timestamp_eq (second : packet.version ≥ 2) :
    readU64 bytes 32 = packet.clientMonotonicUs :=
  readU64_of_slice (carries.fields (32, toBytes 8 packet.clientMonotonicUs.toNat)
    (by simp [ProbePacket.fields, second]))

theorem generation_eq (third : packet.version = 3) :
    readU64 bytes 40 = packet.profileGeneration :=
  readU64_of_slice (carries.fields (40, toBytes 8 packet.profileGeneration.toNat)
    (by simp [ProbePacket.fields, third]))

theorem payload_eq (third : packet.version = 3) : readU16 bytes 48 = packet.payloadSize :=
  readU16_of_slice (carries.fields (48, toBytes 2 packet.payloadSize.toNat)
    (by simp [ProbePacket.fields, third]))

theorem observed_eq (third : packet.version = 3) :
    readU16 bytes 50 = packet.observedPayloadSize :=
  readU16_of_slice (carries.fields (50, toBytes 2 packet.observedPayloadSize.toNat)
    (by simp [ProbePacket.fields, third]))

end Carries

theorem packetTypeOf_byte (packetType : PacketType) :
    packetTypeOf packetType.byte = some packetType := by
  cases packetType <;> decide

theorem pathOf_byte (onWire : packet.OnWire) :
    pathOf packet.version (if packet.version ≥ 2 then packet.path.byte else 0) =
      some packet.path := by
  cases onWire with
  | v1 fits =>
      rw [fits.version, fits.path]
      decide
  | v2 fits =>
      rw [fits.version]
      cases packet.path <;> decide
  | v3 fits =>
      rw [fits.version]
      rcases fits.path with direct | relayed
      · rw [direct]
        decide
      · rw [relayed]
        decide

theorem directionOf_byte (onWire : packet.OnWire) :
    directionOf packet.version (if packet.version = 3 then packet.direction.byte else 0) =
      some packet.direction := by
  cases onWire with
  | v1 fits =>
      rw [fits.version, fits.direction]
      decide
  | v2 fits =>
      rw [fits.version, fits.direction]
      decide
  | v3 fits =>
      rw [fits.version]
      cases packet.direction <;> decide

theorem wireLen_of_onWire (onWire : packet.OnWire) :
    ∃ len authenticated, packet.wireLen = some (len, authenticated) ∧
      packet.authenticatedLen len = some authenticated ∧
      (packet.version = 3 → len = packet.v3Len) := by
  cases onWire with
  | v1 fits =>
      refine ⟨48, 32, ?_, ?_, ?_⟩
      · simp only [wireLen, fits.version, if_true, v1PacketLen, v1AuthenticatedLen]
      · simp only [authenticatedLen, fits.version, if_true, v1AuthenticatedLen]
      · intro third
        rw [fits.version] at third
        cases third
  | v2 fits =>
      have first : ¬ packet.version = 1 := by
        rw [fits.version]
        decide
      refine ⟨56, 40, ?_, ?_, ?_⟩
      · rw [wireLen, if_neg first, if_pos fits.version]
        rfl
      · rw [authenticatedLen, if_neg first, if_pos fits.version]
        rfl
      · intro third
        rw [fits.version] at third
        cases third
  | v3 fits =>
      have first : ¬ packet.version = 1 := by
        rw [fits.version]
        decide
      have second : ¬ packet.version = 2 := by
        rw [fits.version]
        decide
      have inside : 72 ≤ packet.v3Len ∧ packet.v3Len ≤ 1500 := by
        unfold v3Len v3AckPacketLen
        split
        · omega
        · exact ⟨fits.lower, fits.upper⟩
      refine ⟨packet.v3Len, packet.v3Len - 16, ?_, ?_, fun _ => rfl⟩
      · rw [wireLen, if_neg first, if_neg second, if_pos fits.version]
        exact if_pos inside
      · rw [authenticatedLen, if_neg first, if_neg second, if_pos fits.version]
        exact if_pos (Nat.le_trans (by decide) inside.1)

theorem expectedLen_of_carries (carries : Carries bytes packet)
    (wire : packet.wireLen = some (bytes.length, authenticated)) :
    expectedLen packet.version bytes = some bytes.length := by
  have direction := carries.direction_eq
  obtain ⟨tagged, first | second | third⟩ := wireLen_cases wire
  · have zero : byteAt bytes 7 = 0 := by
      rw [direction, if_neg (by rw [first.1]; decide)]
    rw [expectedLen, if_pos ⟨first.1, zero⟩, first.2]
    rfl
  · have zero : byteAt bytes 7 = 0 := by
      rw [direction, if_neg (by rw [second.1]; decide)]
    rw [expectedLen, if_neg (by rw [second.1]; exact fun both => absurd both.1 (by decide)),
      if_pos ⟨second.1, zero⟩, second.2]
    rfl
  · rw [expectedLen, if_neg (by rw [third.1]; exact fun both => absurd both.1 (by decide)),
      if_neg (by rw [third.1]; exact fun both => absurd both.1 (by decide)),
      if_pos ⟨third.1, third.2.1, third.2.2.1⟩]

theorem sizes_fit (fits : packet.FitsV3) :
    ¬ sizesMismatch packet.packetType packet.v3Len packet.payloadSize
      packet.observedPayloadSize := by
  have lower := fits.lower
  have upper := fits.upper
  have observed := fits.observed
  cases kind : packet.packetType with
  | probe =>
      rw [kind] at observed
      simp [sizesMismatch, v3Len, kind, observed]
  | ack =>
      rw [kind] at observed
      simp [sizesMismatch, v3Len, kind, observed, v3AckPacketLen, v3MinPacketLen, v3MaxPacketLen]
      omega

theorem lacks_of_onWire (onWire : packet.OnWire) :
    (¬ packet.version ≥ 2 → packet.clientMonotonicUs = 0) ∧
      (packet.version ≠ 3 → packet.profileGeneration = 0 ∧ packet.payloadSize = 0 ∧
        packet.observedPayloadSize = 0) := by
  cases onWire with
  | v1 fits =>
      exact ⟨fun _ => fits.timestamp, fun _ => ⟨fits.generation, fits.payload, fits.observed⟩⟩
  | v2 fits =>
      constructor
      · intro first
        rw [fits.version] at first
        exact absurd (by decide) first
      · exact fun _ => ⟨fits.generation, fits.payload, fits.observed⟩
  | v3 fits =>
      constructor
      · intro first
        rw [fits.version] at first
        exact absurd (by decide) first
      · exact fun older => absurd fits.version older

theorem sizes_read (onWire : packet.OnWire) (carries : Carries bytes packet)
    (sized : packet.version = 3 → bytes.length = packet.v3Len) :
    ¬ (packet.version = 3 ∧ (slice bytes 52 56 ≠ [0, 0, 0, 0] ∨
      sizesMismatch packet.packetType bytes.length packet.payloadSize
        packet.observedPayloadSize)) := by
  rintro ⟨third, filled | mismatch⟩
  · exact filled (carries.reserved third)
  · cases onWire with
    | v1 fits =>
        rw [fits.version] at third
        cases third
    | v2 fits =>
        rw [fits.version] at third
        cases third
    | v3 fits =>
        rw [sized third] at mismatch
        exact sizes_fit fits mismatch

theorem ite_read {α : Type} {condition : Prop} [Decidable condition] {read value zero : α}
    (present : condition → read = value) (lacks : ¬ condition → value = zero) :
    (if condition then read else zero) = value := by
  by_cases holds : condition
  · rw [if_pos holds, present holds]
  · rw [if_neg holds, lacks holds]

theorem decode_of_carries (onWire : packet.OnWire) (carries : Carries bytes packet)
    (wire : packet.wireLen = some (bytes.length, authenticated)) :
    decodeUnverified bytes = some packet := by
  obtain ⟨tagged, lengths⟩ := wireLen_cases wire
  have starts : ¬ (bytes.length < 8 ∨ slice bytes 0 4 ≠ magic) := by
    rintro (short | other)
    · omega
    · exact other carries.magic_eq
  have sized : packet.version = 3 → bytes.length = packet.v3Len := by
    intro third
    rcases lengths with first | second | both
    · rw [first.1] at third
      cases third
    · rw [second.1] at third
      cases third
    · exact both.2.2.2
  have session : FixedBytes.ofList 16 (slice bytes 16 32) = some packet.sessionId := by
    rw [carries.session_eq]
    exact packet.sessionId.ofList_bytes
  obtain ⟨noTimestamp, older⟩ := lacks_of_onWire onWire
  have timestamp := ite_read carries.timestamp_eq noTimestamp
  have generation := ite_read carries.generation_eq fun other => (older other).1
  have payload := ite_read carries.payload_eq fun other => (older other).2.1
  have observed := ite_read carries.observed_eq fun other => (older other).2.2
  unfold decodeUnverified
  rw [if_neg starts]
  simp only [carries.version_eq, expectedLen_of_carries carries wire, carries.packetType_eq,
    packetTypeOf_byte, carries.path_eq, pathOf_byte onWire, carries.direction_eq,
    directionOf_byte onWire, carries.sequence_eq, session, ne_eq, not_true_eq_false, if_false,
    Option.bind_eq_bind, Option.bind_some, timestamp, generation, payload, observed]
  rw [if_neg (sizes_read onWire carries sized)]

theorem version_of_expectedLen {version : UInt8} (expected : expectedLen version bytes = some len) :
    version = 1 ∨ version = 2 ∨ version = 3 := by
  unfold expectedLen at expected
  split at expected
  next both => exact Or.inl both.1
  split at expected
  next both => exact Or.inr (Or.inl both.1)
  split at expected
  next both => exact Or.inr (Or.inr both.1)
  cases expected

theorem inside_of_expectedLen {version : UInt8} (expected : expectedLen version bytes = some len)
    (third : version = 3) : 72 ≤ bytes.length ∧ bytes.length ≤ 1500 := by
  unfold expectedLen at expected
  split at expected
  next both =>
    rw [third] at both
    exact absurd both.1 (by decide)
  split at expected
  next both =>
    rw [third] at both
    exact absurd both.1 (by decide)
  split at expected
  next both => exact both.2
  cases expected

theorem path_of_pathOf {version byte : UInt8} {path : ProbePath}
    (found : pathOf version byte = some path) :
    (version = 1 → path = .unspecified) ∧
      (version = 3 → path = .direct ∨ path = .cloudflareTurn) := by
  unfold pathOf at found
  split at found
  next both =>
    cases found
    refine ⟨fun _ => rfl, fun third => ?_⟩
    rw [third] at both
    exact absurd both.1 (by decide)
  split at found
  next both =>
    cases found
    refine ⟨fun first => ?_, fun _ => Or.inl rfl⟩
    rw [first] at both
    exact absurd both.1 (by decide)
  split at found
  next both =>
    cases found
    refine ⟨fun first => ?_, fun _ => Or.inr rfl⟩
    rw [first] at both
    exact absurd both.1 (by decide)
  cases found

theorem direction_of_directionOf {version byte : UInt8} {direction : ProbeDirection}
    (found : directionOf version byte = some direction) (older : version ≠ 3) :
    direction = .unspecified := by
  unfold directionOf at found
  split at found
  · cases found
    rfl
  split at found
  next both => exact absurd both.1 older
  split at found
  next both => exact absurd both.1 older
  cases found

theorem onWire_of_decode (decoded : decodeUnverified bytes = some packet) :
    packet.OnWire ∧ (packet.version = 3 → packet.packetType = .probe →
      packet.payloadSize.toNat = bytes.length) := by
  unfold decodeUnverified at decoded
  split at decoded
  · cases decoded
  simp only [Option.bind_eq_bind, Option.bind_eq_some_iff] at decoded
  obtain ⟨expected, lengthOf, decoded⟩ := decoded
  split at decoded
  · cases decoded
  simp only [Option.bind_eq_some_iff] at decoded
  obtain ⟨packetType, typed, path, routed, direction, directed, decoded⟩ := decoded
  generalize payloadIs : (if byteAt bytes 4 = 3 then readU16 bytes 48 else 0) = payload at decoded
  generalize observedIs : (if byteAt bytes 4 = 3 then readU16 bytes 50 else 0) = observed at decoded
  split at decoded
  · cases decoded
  next sizes =>
    simp only [Option.bind_eq_some_iff] at decoded
    obtain ⟨session, read, built⟩ := decoded
    cases built
    rcases version_of_expectedLen lengthOf with first | second | third
    · have older : ¬ byteAt bytes 4 = 3 := by
        rw [first]
        decide
      have oldest : ¬ byteAt bytes 4 ≥ 2 := by
        rw [first]
        decide
      rw [if_neg older] at payloadIs observedIs
      refine ⟨.v1 ⟨first, (path_of_pathOf routed).1 first, if_neg oldest, if_neg older,
        payloadIs.symm, observedIs.symm, direction_of_directionOf directed older⟩, ?_⟩
      exact fun third => absurd third older
    · have older : ¬ byteAt bytes 4 = 3 := by
        rw [second]
        decide
      rw [if_neg older] at payloadIs observedIs
      refine ⟨.v2 ⟨second, if_neg older, payloadIs.symm, observedIs.symm,
        direction_of_directionOf directed older⟩, ?_⟩
      exact fun third => absurd third older
    · have fits : ¬ sizesMismatch packetType bytes.length payload observed :=
        fun mismatch => sizes ⟨third, Or.inr mismatch⟩
      have long : 72 ≤ bytes.length ∧ bytes.length ≤ 1500 := inside_of_expectedLen lengthOf third
      cases packetType with
      | probe =>
          simp only [sizesMismatch, not_or, ne_eq, not_not] at fits
          refine ⟨.v3 ⟨third, (path_of_pathOf routed).2 third, ?_, ?_, fits.2⟩, fun _ _ => fits.1⟩
          · exact fits.1.symm ▸ long.1
          · exact fits.1.symm ▸ long.2
      | ack =>
          simp only [sizesMismatch, not_or, ne_eq, not_not] at fits
          refine ⟨.v3 ⟨third, (path_of_pathOf routed).2 third, ?_, ?_, fits.2.2.2⟩, nofun⟩
          · exact Nat.not_lt.mp fits.2.1
          · exact Nat.not_lt.mp fits.2.2.1

end ProbePacket

section Codec

open ProbePacket

variable (authenticationTag : List UInt8 → FixedBytes 32 → FixedBytes 16)

theorem encode_eq {packet : ProbePacket} {len authenticated : Nat} (token : FixedBytes 32)
    (wire : packet.wireLen = some (len, authenticated)) :
    ∃ tag : FixedBytes 16,
      packet.encode authenticationTag token =
        write (packet.fill len) authenticated tag.bytes ∧
      (packet.encode authenticationTag token).length = len ∧
      authenticationTag ((packet.encode authenticationTag token).take authenticated) token = tag ∧
      slice (packet.encode authenticationTag token) authenticated (authenticated + 16) =
        tag.bytes := by
  obtain ⟨tagged, lengths⟩ := wireLen_cases wire
  have filled : (packet.fill len).length = len := by
    have blank : (List.replicate len (0 : UInt8)).length = len := List.length_replicate
    rw [fill_eq, length_writeAll, blank]
    rw [blank]
    exact fun field member => Nat.le_trans (fields_fit wire field member) (by omega)
  let tag := authenticationTag ((packet.fill len).take authenticated) token
  have encoded : packet.encode authenticationTag token =
      write (packet.fill len) authenticated tag.bytes := by
    rw [encode, wire]
  have whole : authenticated + tag.bytes.length = (packet.fill len).length := by
    rw [tag.length_bytes, filled, tagged]
  have room := Nat.le_of_eq whole
  refine ⟨tag, encoded, ?_, ?_, ?_⟩
  · rw [encoded, length_write room, filled]
  · rw [encoded, take_eq_slice, slice_write_apart room (Or.inl (Nat.le_refl _)), ← take_eq_slice]
  · rw [encoded, slice_write_self room (by rw [tag.length_bytes])]

theorem decodeAndVerify_encode {packet : ProbePacket} (onWire : packet.OnWire)
    (token : FixedBytes 32) :
    decodeAndVerify authenticationTag (packet.encode authenticationTag token) token =
      some packet := by
  obtain ⟨len, authenticated, wire, received, _⟩ := wireLen_of_onWire onWire
  obtain ⟨tag, encoded, sized, computed, sent⟩ := encode_eq authenticationTag token wire
  have carries : Carries (packet.encode authenticationTag token) packet := by
    rw [encoded]
    exact fill_carries wire tag.length_bytes
  have decoded : decodeUnverified (packet.encode authenticationTag token) = some packet := by
    apply decode_of_carries onWire carries
    rw [sized]
    exact wire
  unfold decodeAndVerify
  simp only [decoded, sized, received, Option.bind_eq_bind, Option.bind_some]
  rw [if_pos]
  rw [computed]
  exact sent.symm

theorem decode_of_decodeAndVerify {bytes : List UInt8} {token : FixedBytes 32}
    {packet : ProbePacket} (accepted : decodeAndVerify authenticationTag bytes token = some packet) :
    decodeUnverified bytes = some packet := by
  unfold decodeAndVerify at accepted
  simp only [Option.bind_eq_bind, Option.bind_eq_some_iff] at accepted
  obtain ⟨found, decoded, authenticated, received, verified⟩ := accepted
  split at verified
  · cases verified
    exact decoded
  · cases verified

def acknowledged (probe : ProbePacket) : ProbePacket :=
  { probe with packetType := .ack, observedPayloadSize := probe.payloadSize }

theorem acknowledged_onWire {probe : ProbePacket} (onWire : probe.OnWire) :
    (acknowledged probe).OnWire := by
  cases onWire with
  | v1 fits =>
      exact .v1 ⟨fits.version, fits.path, fits.timestamp, fits.generation, fits.payload,
        fits.payload, fits.direction⟩
  | v2 fits =>
      exact .v2 ⟨fits.version, fits.generation, fits.payload, fits.payload, fits.direction⟩
  | v3 fits => exact .v3 ⟨fits.version, fits.path, fits.lower, fits.upper, rfl⟩

theorem acknowledgeProbe_eq {bytes : List UInt8} {token : FixedBytes 32} {packet : ProbePacket}
    (accepted : decodeAndVerify authenticationTag bytes token = some packet) :
    acknowledgeProbe authenticationTag bytes token =
      match packet.packetType with
      | .probe => some ((acknowledged packet).encode authenticationTag token)
      | .ack => none := by
  obtain ⟨onWire, sized⟩ := onWire_of_decode (decode_of_decodeAndVerify authenticationTag accepted)
  unfold acknowledgeProbe
  simp only [accepted, Option.bind_eq_bind, Option.bind_some]
  cases kind : packet.packetType with
  | ack => rw [if_pos (by decide)]
  | probe =>
      rw [if_neg (by decide)]
      by_cases third : packet.version = 3
      · have payload := sized third kind
        have small : bytes.length < 65536 := by
          rw [← payload]
          exact packet.payloadSize.toNat_lt
        rw [if_pos third, if_pos small, ← payload, UInt16.ofNat_toNat]
        rfl
      · have lacks := ((lacks_of_onWire onWire).2 third).2.1
        rw [if_neg third, acknowledged, lacks]

theorem acknowledged_shorter {probe : ProbePacket} (onWire : probe.OnWire)
    (token : FixedBytes 32) :
    ((acknowledged probe).encode authenticationTag token).length ≤
      (probe.encode authenticationTag token).length := by
  obtain ⟨len, authenticated, wire, _, _⟩ := wireLen_of_onWire onWire
  obtain ⟨answered, part, answer, _, fixed⟩ := wireLen_of_onWire (acknowledged_onWire onWire)
  obtain ⟨_, _, sized, _, _⟩ := encode_eq authenticationTag token wire
  obtain ⟨_, _, answerSized, _, _⟩ := encode_eq authenticationTag token answer
  rw [sized, answerSized]
  have same : (acknowledged probe).version = probe.version := rfl
  have lengths := (wireLen_cases wire).2
  have answerLengths := (wireLen_cases answer).2
  rw [same] at answerLengths fixed
  rcases lengths with first | second | third
  · rw [first.1] at answerLengths
    simp at answerLengths
    omega
  · rw [second.1] at answerLengths
    simp at answerLengths
    omega
  · have short : answered = 72 := fixed third.1
    omega

structure Acknowledges (probe : ProbePacket) (received : Nat) (ack : ProbePacket) : Prop where
  packetType : ack.packetType = .ack
  version : ack.version = probe.version
  session : ack.sessionId = probe.sessionId
  sequence : ack.sequence = probe.sequence
  timestamp : ack.clientMonotonicUs = probe.clientMonotonicUs
  path : ack.path = probe.path
  direction : ack.direction = probe.direction
  generation : ack.profileGeneration = probe.profileGeneration
  observed : probe.version = 3 → ack.observedPayloadSize.toNat = received

/-- Packets of the wire format survive the codec, the decoder accepts no others, a probe is
answered by its acknowledgement, which is no longer, and no acknowledgement is answered. -/
theorem probe_codec (token : FixedBytes 32) :
    (∀ packet : ProbePacket, packet.OnWire →
      decodeAndVerify authenticationTag (packet.encode authenticationTag token) token =
        some packet) ∧
    (∀ bytes packet, decodeAndVerify authenticationTag bytes token = some packet →
      packet.OnWire) ∧
    (∀ probe : ProbePacket, probe.OnWire → probe.packetType = .probe →
      ∃ answer ack,
        acknowledgeProbe authenticationTag (probe.encode authenticationTag token) token =
          some answer ∧
        answer.length ≤ (probe.encode authenticationTag token).length ∧
        decodeAndVerify authenticationTag answer token = some ack ∧
        Acknowledges probe (probe.encode authenticationTag token).length ack) ∧
    (∀ bytes packet, decodeAndVerify authenticationTag bytes token = some packet →
      packet.packetType = .ack → acknowledgeProbe authenticationTag bytes token = none) ∧
    ∀ bytes answer, acknowledgeProbe authenticationTag bytes token = some answer →
      ∀ other, acknowledgeProbe authenticationTag answer other = none := by
  have accepts : ∀ bytes packet, decodeAndVerify authenticationTag bytes token = some packet →
      packet.OnWire := fun bytes packet accepted =>
    (onWire_of_decode (decode_of_decodeAndVerify authenticationTag accepted)).1
  refine ⟨fun packet onWire => decodeAndVerify_encode authenticationTag onWire token, accepts,
    ?_, ?_, ?_⟩
  · intro probe onWire kind
    have decoded := decodeAndVerify_encode authenticationTag onWire token
    have answered := acknowledgeProbe_eq authenticationTag decoded
    rw [kind] at answered
    refine ⟨_, acknowledged probe, answered, acknowledged_shorter authenticationTag onWire token,
      decodeAndVerify_encode authenticationTag (acknowledged_onWire onWire) token,
      rfl, rfl, rfl, rfl, rfl, rfl, rfl, rfl, ?_⟩
    intro third
    exact (onWire_of_decode (decode_of_decodeAndVerify authenticationTag decoded)).2 third kind
  · intro bytes packet accepted kind
    rw [acknowledgeProbe_eq authenticationTag accepted, kind]
  · intro bytes answer answered other
    cases accepted : decodeAndVerify authenticationTag bytes token with
    | none =>
        rw [acknowledgeProbe, accepted] at answered
        cases answered
    | some packet =>
        have onWire := acknowledged_onWire (accepts bytes packet accepted)
        rw [acknowledgeProbe_eq authenticationTag accepted] at answered
        cases kind : packet.packetType with
        | ack =>
            rw [kind] at answered
            cases answered
        | probe =>
            rw [kind] at answered
            cases answered
            have read := decode_of_decodeAndVerify authenticationTag
              (decodeAndVerify_encode authenticationTag onWire token)
            cases again : decodeAndVerify authenticationTag
                ((acknowledged packet).encode authenticationTag token) other with
            | none =>
                rw [acknowledgeProbe, again]
                rfl
            | some found =>
                have same := decode_of_decodeAndVerify authenticationTag again
                rw [read] at same
                cases same
                rw [acknowledgeProbe_eq authenticationTag again]
                rfl

end Codec

namespace ProbeSample

def token : FixedBytes 32 := ⟨List.replicate 32 0x11, rfl⟩

def probe : ProbePacket where
  version := 2
  packetType := .probe
  path := .cloudflareTurn
  sequence := 9
  sessionId := ⟨List.replicate 15 0 ++ [7], rfl⟩
  clientMonotonicUs := 123456
  profileGeneration := 0
  payloadSize := 0
  observedPayloadSize := 0
  direction := .unspecified

/-- The keyed hash of this probe and of its acknowledgement, which differ in one byte. -/
def tag (bytes : List UInt8) (key : FixedBytes 32) : FixedBytes 16 :=
  if key = token ∧ bytes = (probe.fill 56).take 40 then
    ⟨[49, 244, 100, 2, 154, 132, 62, 12, 54, 63, 27, 85, 15, 103, 158, 129], rfl⟩
  else if key = token ∧ bytes = ((acknowledged probe).fill 56).take 40 then
    ⟨[91, 41, 92, 3, 161, 173, 220, 234, 216, 5, 58, 213, 210, 100, 91, 220], rfl⟩
  else ⟨List.replicate 16 0, rfl⟩

theorem probe_onWire : probe.OnWire := .v2 ⟨rfl, rfl, rfl, rfl, rfl⟩

end ProbeSample

theorem probe_codec_sample :
    ∃ answer ack,
      acknowledgeProbe ProbeSample.tag (ProbeSample.probe.encode ProbeSample.tag ProbeSample.token)
        ProbeSample.token = some answer ∧
      answer.length ≤ (ProbeSample.probe.encode ProbeSample.tag ProbeSample.token).length ∧
      ProbePacket.decodeAndVerify ProbeSample.tag answer ProbeSample.token = some ack ∧
      Acknowledges ProbeSample.probe
        (ProbeSample.probe.encode ProbeSample.tag ProbeSample.token).length ack :=
  (probe_codec ProbeSample.tag ProbeSample.token).2.2.1 ProbeSample.probe ProbeSample.probe_onWire
    rfl

end Noland.Network
