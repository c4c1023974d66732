import Mathlib.Data.List.Basic
import Noland.Lib.Buffer

/-!
What is fed to the MAC is a label and then the fields, each with its length in four bytes before
it; a field whose length does not fit ends the input. The MAC itself is a parameter, and a text is
its UTF-8 bytes.
-/

namespace Noland.HandshakeMac

open Noland.Buffer

def hexByte (byte : UInt8) : List Char :=
  [Nat.digitChar (byte.toNat / 16), Nat.digitChar (byte.toNat % 16)]

/-- `hex::encode`. -/
def hexEncode (bytes : List UInt8) : String := String.ofList (bytes.flatMap hexByte)

def hexValue (c : Char) : Option Nat :=
  if '0' ≤ c ∧ c ≤ '9' then some (c.toNat - '0'.toNat)
  else if 'a' ≤ c ∧ c ≤ 'f' then some (c.toNat - 'a'.toNat + 10)
  else if 'A' ≤ c ∧ c ≤ 'F' then some (c.toNat - 'A'.toNat + 10)
  else none

def hexBytes : List Char → Option (List UInt8)
  | [] => some []
  | [_] => none
  | high :: low :: rest => do
      let high ← hexValue high
      let low ← hexValue low
      let bytes ← hexBytes rest
      some (UInt8.ofNat (16 * high + low) :: bytes)

/-- `hex::decode`. -/
def hexDecode (text : String) : Option (List UInt8) := hexBytes text.toList

theorem hexValue_digitChar : ∀ digit < 16, hexValue (Nat.digitChar digit) = some digit := by
  decide

theorem hexDecode_hexEncode (bytes : List UInt8) : hexDecode (hexEncode bytes) = some bytes := by
  rw [hexDecode, hexEncode, String.toList_ofList]
  induction bytes with
  | nil => rfl
  | cons byte rest ih =>
      have small : byte.toNat < 256 := byte.toNat_lt
      have high := hexValue_digitChar (byte.toNat / 16) (by omega)
      have low := hexValue_digitChar (byte.toNat % 16) (by omega)
      have whole : 16 * (byte.toNat / 16) + byte.toNat % 16 = byte.toNat := Nat.div_add_mod _ _
      simp only [List.flatMap_cons, hexByte, List.cons_append, List.nil_append, hexBytes, high, low,
        Option.bind_eq_bind, Option.bind_some, ih, whole, UInt8.ofNat_toNat]

/-- `update_mac_fields`. -/
def macInput : List (List UInt8) → List UInt8
  | [] => []
  | field :: rest =>
      if field.length < 2 ^ 32 then toBytes 4 field.length ++ field ++ macInput rest else []

def textBytes (text : String) : List UInt8 := text.toByteArray.data.toList

structure FieldText where
  text : String
  short : (textBytes text).length < 2 ^ 32

structure HelloFields where
  protocolVersion : UInt16
  instanceId : FieldText
  clientNonce : FieldText
  timestamp : FieldText

structure AuthHello extends HelloFields where
  mac : String

/-- The nonce of the client is not in the message, but in the input of its MAC. -/
structure OkFields where
  clientNonce : FieldText
  protocolVersion : UInt16
  controlSessionId : FixedBytes 16
  serverNonce : FieldText
  nextSequence : UInt64

structure AuthOk extends OkFields where
  mac : String

def HelloFields.fields (hello : HelloFields) : List (List UInt8) :=
  [textBytes "auth-hello-v1", toBytes 2 hello.protocolVersion.toNat,
    textBytes hello.instanceId.text, textBytes hello.clientNonce.text,
    textBytes hello.timestamp.text]

def OkFields.fields (value : OkFields) : List (List UInt8) :=
  [textBytes "auth-ok-v1", textBytes value.clientNonce.text,
    toBytes 2 value.protocolVersion.toNat, value.controlSessionId.bytes,
    textBytes value.serverNonce.text, toBytes 8 value.nextSequence.toNat]

def HelloFields.input (hello : HelloFields) : List UInt8 := macInput hello.fields

def OkFields.input (value : OkFields) : List UInt8 := macInput value.fields

section Macs

variable (hmac : List UInt8 → List UInt8 → FixedBytes 32) (secret : FixedBytes 32)

def controlMac (fields : List (List UInt8)) : String :=
  hexEncode (hmac secret.bytes (macInput fields)).bytes

def verifyControlMac (fields : List (List UInt8)) (encoded : String) : Bool :=
  match hexDecode encoded with
  | none => false
  | some expected => decide ((hmac secret.bytes (macInput fields)).bytes = expected)

def authHelloMac (hello : HelloFields) : String := controlMac hmac secret hello.fields

def authOkMac (value : OkFields) : String := controlMac hmac secret value.fields

def verifyAuthHelloMac (hello : AuthHello) : Bool :=
  verifyControlMac hmac secret hello.fields hello.mac

def verifyAuthOkMac (value : AuthOk) : Bool :=
  verifyControlMac hmac secret value.fields value.mac

def Collision (left right : List UInt8) : Prop :=
  left ≠ right ∧ hmac secret.bytes left = hmac secret.bytes right

end Macs

theorem macInput_injective {left right : List (List UInt8)}
    (leftShort : ∀ field ∈ left, field.length < 2 ^ 32)
    (rightShort : ∀ field ∈ right, field.length < 2 ^ 32)
    (same : macInput left = macInput right) : left = right := by
  induction left generalizing right with
  | nil =>
      cases right with
      | nil => rfl
      | cons field rest =>
          have size := congrArg List.length same
          rw [macInput, macInput, if_pos (rightShort field List.mem_cons_self), List.length_append,
            List.length_append, length_toBytes, List.length_nil] at size
          omega
  | cons field rest ih =>
      have fieldShort := leftShort field List.mem_cons_self
      cases right with
      | nil =>
          have size := congrArg List.length same
          rw [macInput, macInput, if_pos fieldShort, List.length_append, List.length_append,
            length_toBytes, List.length_nil] at size
          omega
      | cons other others =>
          have otherShort := rightShort other List.mem_cons_self
          rw [macInput, macInput, if_pos fieldShort, if_pos otherShort, List.append_assoc,
            List.append_assoc] at same
          obtain ⟨lengths, later⟩ := List.append_inj same (by simp)
          have sizes : field.length = other.length := by
            have read := congrArg ofBytes lengths
            have small : ∀ size < 2 ^ 32, size % 256 ^ 4 = size :=
              fun size less => Nat.mod_eq_of_lt less
            rwa [ofBytes_toBytes, ofBytes_toBytes, small _ fieldShort, small _ otherShort] at read
          obtain ⟨sameField, sameRest⟩ := List.append_inj later sizes
          rw [sameField, ih (fun item member => leftShort item (List.mem_cons_of_mem _ member))
            (fun item member => rightShort item (List.mem_cons_of_mem _ member)) sameRest]

theorem textBytes_injective {left right : FieldText}
    (same : textBytes left.text = textBytes right.text) : left = right := by
  have texts : left.text = right.text :=
    String.toByteArray_inj.mp (ByteArray.ext (Array.ext' same))
  cases left
  cases right
  congr

theorem toBytes_injective {width left right : Nat} (leftSmall : left < 256 ^ width)
    (rightSmall : right < 256 ^ width) (same : toBytes width left = toBytes width right) :
    left = right := by
  have read := congrArg ofBytes same
  rwa [ofBytes_toBytes, ofBytes_toBytes, Nat.mod_eq_of_lt leftSmall,
    Nat.mod_eq_of_lt rightSmall] at read

theorem HelloFields.short (hello : HelloFields) :
    ∀ field ∈ hello.fields, field.length < 2 ^ 32 := by
  simp only [fields, List.forall_mem_cons, length_toBytes]
  exact ⟨by decide, by decide, hello.instanceId.short, hello.clientNonce.short,
    hello.timestamp.short, by simp⟩

theorem OkFields.short (value : OkFields) : ∀ field ∈ value.fields, field.length < 2 ^ 32 := by
  simp only [fields, List.forall_mem_cons, length_toBytes, value.controlSessionId.length_bytes]
  exact ⟨by decide, value.clientNonce.short, by decide, by decide, value.serverNonce.short,
    by decide, by simp⟩

theorem HelloFields.input_injective : Function.Injective HelloFields.input := by
  intro left right same
  have fields := macInput_injective left.short right.short same
  simp only [HelloFields.fields, List.cons.injEq] at fields
  obtain ⟨-, version, instanceId, clientNonce, timestamp, -⟩ := fields
  have versions := UInt16.toNat_inj.mp
    (toBytes_injective left.protocolVersion.toNat_lt right.protocolVersion.toNat_lt version)
  cases left
  cases right
  congr
  · exact textBytes_injective instanceId
  · exact textBytes_injective clientNonce
  · exact textBytes_injective timestamp

theorem OkFields.input_injective : Function.Injective OkFields.input := by
  intro left right same
  have fields := macInput_injective left.short right.short same
  simp only [OkFields.fields, List.cons.injEq] at fields
  obtain ⟨-, clientNonce, version, session, serverNonce, sequence, -⟩ := fields
  have versions := UInt16.toNat_inj.mp
    (toBytes_injective left.protocolVersion.toNat_lt right.protocolVersion.toNat_lt version)
  have sequences := UInt64.toNat_inj.mp
    (toBytes_injective left.nextSequence.toNat_lt right.nextSequence.toNat_lt sequence)
  have sessions : left.controlSessionId = right.controlSessionId := by
    cases hLeft : left.controlSessionId
    cases hRight : right.controlSessionId
    rw [hLeft, hRight] at session
    congr
  cases left
  cases right
  congr
  · exact textBytes_injective clientNonce
  · exact textBytes_injective serverNonce

theorem input_apart (hello : HelloFields) (value : OkFields) : hello.input ≠ value.input := by
  intro same
  have fields := macInput_injective hello.short value.short same
  have labels : textBytes "auth-hello-v1" = textBytes "auth-ok-v1" := (List.cons.inj fields).1
  revert labels
  decide

section Verification

variable {hmac : List UInt8 → List UInt8 → FixedBytes 32} {secret : FixedBytes 32}

theorem verifyControlMac_accepts {made accepted : List (List UInt8)}
    (accepts : verifyControlMac hmac secret accepted (controlMac hmac secret made) = true) :
    macInput made = macInput accepted ∨
      Collision hmac secret (macInput made) (macInput accepted) := by
  rw [verifyControlMac, controlMac, hexDecode_hexEncode] at accepts
  have digests := of_decide_eq_true accepts
  have same : hmac secret.bytes (macInput made) = hmac secret.bytes (macInput accepted) := by
    cases hMade : hmac secret.bytes (macInput made)
    cases hAccepted : hmac secret.bytes (macInput accepted)
    rw [hMade, hAccepted] at digests
    congr
    exact digests.symm
  by_cases equal : macInput made = macInput accepted
  · exact Or.inl equal
  · exact Or.inr ⟨equal, same⟩

end Verification

/-- The inputs of the two MACs tell all fields, and which message it is; so a message is accepted
with a MAC that was made for other fields, or for the other message, only if it collides. -/
theorem handshake_macs_bind :
    Function.Injective HelloFields.input ∧ Function.Injective OkFields.input ∧
      (∀ (hello : HelloFields) (value : OkFields), hello.input ≠ value.input) ∧
      ∀ (hmac : List UInt8 → List UInt8 → FixedBytes 32) (secret : FixedBytes 32),
        (∀ (made : HelloFields) (hello : AuthHello), hello.mac = authHelloMac hmac secret made →
          verifyAuthHelloMac hmac secret hello = true →
          hello.toHelloFields = made ∨ Collision hmac secret made.input hello.input) ∧
        (∀ (made : OkFields) (value : AuthOk), value.mac = authOkMac hmac secret made →
          verifyAuthOkMac hmac secret value = true →
          value.toOkFields = made ∨ Collision hmac secret made.input value.input) ∧
        (∀ (made : OkFields) (hello : AuthHello), hello.mac = authOkMac hmac secret made →
          verifyAuthHelloMac hmac secret hello = true →
          Collision hmac secret made.input hello.input) ∧
        ∀ (made : HelloFields) (value : AuthOk), value.mac = authHelloMac hmac secret made →
          verifyAuthOkMac hmac secret value = true →
          Collision hmac secret made.input value.input := by
  refine ⟨HelloFields.input_injective, OkFields.input_injective, input_apart, ?_⟩
  intro hmac secret
  refine ⟨?_, ?_, ?_, ?_⟩
  · intro made hello carried accepts
    rw [verifyAuthHelloMac, carried] at accepts
    exact (verifyControlMac_accepts accepts).imp_left fun same =>
      (HelloFields.input_injective same).symm
  · intro made value carried accepts
    rw [verifyAuthOkMac, carried] at accepts
    exact (verifyControlMac_accepts accepts).imp_left fun same =>
      (OkFields.input_injective same).symm
  · intro made hello carried accepts
    rw [verifyAuthHelloMac, carried] at accepts
    exact (verifyControlMac_accepts accepts).resolve_left
      (Ne.symm (input_apart hello.toHelloFields made))
  · intro made value carried accepts
    rw [verifyAuthOkMac, carried] at accepts
    exact (verifyControlMac_accepts accepts).resolve_left (input_apart made value.toOkFields)

end Noland.HandshakeMac
