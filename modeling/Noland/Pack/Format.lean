import Noland.Restore.Download

/-!
A pack file is a header followed by records, one for each chunk: a tag, two lengths, the nonce and
the encrypted, possibly compressed payload. `extract_chunk` finds a record again by the offset and
length of its entry. Files are byte lists here; a failure to read or write them is not modelled.
-/

namespace Noland.Pack

open Noland.Core

abbrev Bytes := List UInt8

structure Nonce where
  bytes : Bytes
  length : bytes.length = 24

structure Primitives where
  blake3Hex : Bytes → String
  lowEntropy : Bytes → Bool
  compress : Bytes → Except String Bytes
  decompress : Bytes → Nat → Except String Bytes
  packKey : String → Bytes
  encrypt : Bytes → String → Nonce → Bytes → Except StateError Bytes
  decrypt : Bytes → String → Bytes → Bytes → Except StateError Bytes

structure Supply where
  uuids : Nat → Uuid
  nonces : Nat → Nonce

def le32 (value : Nat) : Bytes :=
  [UInt8.ofNat value, UInt8.ofNat (value / 256), UInt8.ofNat (value / 65536),
    UInt8.ofNat (value / 16777216)]

def fromLe32 : Bytes → Nat
  | [] => 0
  | byte :: rest => byte.toNat + 256 * fromLe32 rest

def magic : Bytes := "NLPK".toUTF8.toList

def recordTag : Bytes := "NLCH".toUTF8.toList

def version : Nat := 2

def packHeaderLen : Nat := 4 + 4 + 16

def nonceLen : Nat := 24

def recordHeaderLen : Nat := 4 + 4 + 4 + nonceLen

def aeadTagLen : Nat := 16

def hexDigit (c : Char) : Nat :=
  if '0' ≤ c ∧ c ≤ '9' then c.toNat - '0'.toNat else c.toNat - 'a'.toNat + 10

def hexBytes : List Char → Bytes
  | high :: low :: rest => UInt8.ofNat (16 * hexDigit high + hexDigit low) :: hexBytes rest
  | _ => []

def uuidDigits (id : Uuid) : List Char :=
  let text := id.text.toList
  text.take 8 ++ (text.drop 9).take 4 ++ (text.drop 14).take 4 ++ (text.drop 19).take 4 ++
    (text.drop 24).take 12

def uuidBytes (id : Uuid) : Bytes := hexBytes (uuidDigits id)

def hasCompressedMagic (data : Bytes) : Bool :=
  [0x1f, 0x8b].isPrefixOf data || [0x28, 0xb5, 0x2f, 0xfd].isPrefixOf data ||
    [0x50, 0x4b, 0x03, 0x04].isPrefixOf data || [0x89, 0x50, 0x4e, 0x47].isPrefixOf data ||
    [0xff, 0xd8, 0xff].isPrefixOf data

def shouldCompress (primitives : Primitives) (data : Bytes) : Bool :=
  if data.length < 1024 then false
  else if hasCompressedMagic data then false
  else primitives.lowEntropy (data.take (64 * 1024))

def compressChunk (primitives : Primitives) (plaintext : Bytes) :
    Except StateError (PackCompression × Bytes) :=
  if shouldCompress primitives plaintext then
    match primitives.compress plaintext with
    | .error error => .error (.message ("chunk compression failed: " ++ error))
    | .ok compressed =>
        if plaintext.length ≤ compressed.length then .ok (.none, plaintext)
        else .ok (.zstd, compressed)
  else .ok (.none, plaintext)

structure BuiltPack where
  packId : String
  file : Bytes
  bytes : Nat
  entries : List PackIndexEntry

def createPack (id : Uuid) : BuiltPack :=
  { packId := id.text
    file := magic ++ le32 version ++ uuidBytes id
    bytes := packHeaderLen
    entries := [] }

def record (plaintextLen : Nat) (nonce : Nonce) (ciphertext : Bytes) : Bytes :=
  recordTag ++ le32 plaintextLen ++ le32 ciphertext.length ++ nonce.bytes ++ ciphertext

def BuiltPack.append (pack : BuiltPack) (hash : String) (plaintextLen : Nat)
    (compression : PackCompression) (nonce : Nonce) (ciphertext : Bytes) : BuiltPack :=
  { pack with
    file := pack.file ++ record plaintextLen nonce ciphertext
    bytes := pack.bytes + (recordHeaderLen + ciphertext.length)
    entries := pack.entries ++
      [{ chunkHash := hash
         packId := pack.packId
         offset := pack.bytes
         ciphertextLen := ciphertext.length
         plaintextLen := plaintextLen
         compression := compression
         nonce := nonce.bytes.map UInt8.toNat }] }

def BuiltPack.writeChunk (primitives : Primitives) (nonce : Nonce) (pack : BuiltPack)
    (hash : String) (plaintext : Bytes) : Except StateError BuiltPack :=
  if 2 ^ 32 ≤ plaintext.length then
    .error (.message "chunk plaintext length exceeds pack format")
  else
    match compressChunk primitives plaintext with
    | .error error => .error error
    | .ok (compression, stored) =>
        match primitives.encrypt (primitives.packKey pack.packId) hash nonce stored with
        | .error error => .error error
        | .ok ciphertext =>
            if 2 ^ 32 ≤ ciphertext.length then
              .error (.message "chunk ciphertext length exceeds pack format")
            else .ok (pack.append hash plaintext.length compression nonce ciphertext)

section Packing

variable {Known : Type}

/-- The loop of `pack_chunk_files_with_limits`, with how many ids and nonces
have been drawn and what the predicate remembers. -/
structure PackState (Known : Type) where
  out : List BuiltPack := []
  current : Option BuiltPack := none
  ids : Nat := 0
  nonces : Nat := 0
  known : Known

def recordLen (payload : Bytes) : Nat := recordHeaderLen + (payload.length + aeadTagLen)

def BuiltPack.shouldSeal (pack : BuiltPack) (payload : Bytes) (target max : Nat) : Bool :=
  target ≤ pack.bytes || max < pack.bytes + recordLen payload

def PackState.pack (primitives : Primitives) (supply : Supply) (target max : Nat)
    (state : PackState Known) (hash : String) (payload : Bytes) :
    Except StateError (PackState Known) :=
  let sealed := state.current.filter fun pack => pack.shouldSeal payload target max
  let open_ := state.current.filter fun pack => !pack.shouldSeal payload target max
  let pack := open_.getD (createPack (supply.uuids state.ids))
  match pack.writeChunk primitives (supply.nonces state.nonces) hash payload with
  | .error error => .error error
  | .ok written =>
      .ok { state with
        out := state.out ++ sealed.toList
        current := some written
        ids := if open_.isSome then state.ids else state.ids + 1
        nonces := state.nonces + 1 }

def packStep (primitives : Primitives) (supply : Supply) (known : Known → String → Bool × Known)
    (target max : Nat) (state : PackState Known) (chunk : String × Bytes) :
    Except StateError (PackState Known) :=
  let (skip, remembered) := known state.known chunk.1
  let state := { state with known := remembered }
  if skip then .ok state
  else if 2 ^ 64 ≤ recordLen chunk.2 then
    .error (.message "chunk length exceeds pack format")
  else if 2 ^ 64 ≤ packHeaderLen + recordLen chunk.2 ∨ max < packHeaderLen + recordLen chunk.2 then
    .error (.message "chunk exceeds pack hard maximum")
  else state.pack primitives supply target max chunk.1 chunk.2

def packChunkFilesWithLimits (primitives : Primitives) (supply : Supply)
    (known : Known → String → Bool × Known) (start : Known) (chunks : List (String × Bytes))
    (target max : Nat) : Except StateError (List BuiltPack) :=
  if target = 0 ∨ max < target ∨ max < packHeaderLen then
    .error (.message "invalid pack size limits")
  else
    match chunks.foldlM (packStep primitives supply known target max) { known := start } with
    | .error error => .error error
    | .ok state => .ok (state.out ++ state.current.toList)

def unknownChunks (known : Known → String → Bool × Known) : Known → List (String × Bytes) →
    List (String × Bytes)
  | _, [] => []
  | memory, chunk :: rest =>
      if (known memory chunk.1).1 then unknownChunks known (known memory chunk.1).2 rest
      else chunk :: unknownChunks known (known memory chunk.1).2 rest

end Packing

def readExact (file : Bytes) (offset length : Nat) : Except StateError Bytes :=
  if offset + length ≤ file.length then .ok ((file.drop offset).take length)
  else .error (.io .other)

def unpackStored (primitives : Primitives) (entry : PackIndexEntry) (stored : Bytes) :
    Except StateError Bytes :=
  match entry.compression with
  | .none => .ok stored
  | .zstd =>
      match primitives.decompress stored entry.plaintextLen with
      | .error error => .error (.integrity ("chunk decompression failed: " ++ error))
      | .ok plain => .ok plain

def checkHeader (header : Bytes) : Except StateError Unit :=
  if header.take 4 ≠ magic then .error (.integrity "bad pack header")
  else if fromLe32 (header.drop 4) < 1 ∨ version < fromLe32 (header.drop 4) then
    .error (.integrity ("unsupported pack version " ++ toString (fromLe32 (header.drop 4))))
  else .ok ()

def openRecord (primitives : Primitives) (entry : PackIndexEntry) (buf : Bytes) :
    Except StateError Bytes :=
  if buf.take 4 ≠ recordTag then .error (.integrity "bad pack record")
  else do
    let stored ← primitives.decrypt (primitives.packKey entry.packId) entry.chunkHash
      ((buf.drop 12).take nonceLen) (buf.drop (12 + nonceLen))
    let plain ← unpackStored primitives entry stored
    if plain.length ≠ entry.plaintextLen ∨ primitives.blake3Hex plain ≠ entry.chunkHash then
      .error (.integrity "chunk hash or length mismatch")
    else .ok plain

def extractChunk (primitives : Primitives) (file : Bytes) (entry : PackIndexEntry) :
    Except StateError Bytes := do
  let header ← readExact file 0 8
  checkHeader header
  let buf ← readExact file entry.offset (entry.ciphertextLen + 4 + 4 + 4 + nonceLen)
  openRecord primitives entry buf

end Noland.Pack
