import Noland.Pack.Format

/-!
A chunk that was written is read back at its entry, also after more records have been appended,
and the records of a pack lie one after the other from the end of its header.
-/

namespace Noland.Pack

open Noland.Core

/-- Decryption undoes encryption, which adds the tag, and decompression undoes
compression. -/
structure Primitives.Laws (primitives : Primitives) : Prop where
  encrypt_length : ∀ key aad nonce plain cipher,
    primitives.encrypt key aad nonce plain = .ok cipher → cipher.length = plain.length + aeadTagLen
  decrypt_encrypt : ∀ key aad nonce plain cipher,
    primitives.encrypt key aad nonce plain = .ok cipher →
      primitives.decrypt key aad nonce.bytes cipher = .ok plain
  decompress_compress : ∀ plain compressed,
    primitives.compress plain = .ok compressed →
      primitives.decompress compressed plain.length = .ok plain

theorem readExact_append {file more bytes : Bytes} {offset length : Nat}
    (read : readExact file offset length = .ok bytes) :
    readExact (file ++ more) offset length = .ok bytes := by
  unfold readExact at read ⊢
  split at read
  · rename_i inside
    rw [if_pos (by rw [List.length_append]; omega), ← read, List.drop_append_of_le_length (by omega),
      List.take_append_of_le_length (by rw [List.length_drop]; omega)]
  · cases read

theorem extractChunk_append {primitives : Primitives} {file more plain : Bytes}
    {entry : PackIndexEntry} (found : extractChunk primitives file entry = .ok plain) :
    extractChunk primitives (file ++ more) entry = .ok plain := by
  unfold extractChunk at found ⊢
  cases header : readExact file 0 8 with
  | error error =>
      rw [header] at found
      cases found
  | ok first =>
      rw [header] at found
      rw [readExact_append header]
      cases checked : checkHeader first with
      | error error =>
          simp only [bind, Except.bind, checked] at found
          cases found
      | ok passed =>
          simp only [bind, Except.bind, checked] at found ⊢
          cases buf : readExact file entry.offset (entry.ciphertextLen + 4 + 4 + 4 + nonceLen) with
          | error error =>
              rw [buf] at found
              cases found
          | ok read =>
              rw [buf] at found
              rw [readExact_append buf]
              exact found

theorem hexBytes_length (digits : List Char) : (hexBytes digits).length = digits.length / 2 := by
  induction digits using hexBytes.induct with
  | case1 high low rest ih =>
      simp only [hexBytes, List.length_cons, ih]
      omega
  | case2 digits short =>
      match digits, short with
      | [], _ => rfl
      | [_], _ => simp [hexBytes]
      | high :: low :: rest, short => exact (short high low rest rfl).elim

theorem uuidBytes_length (id : Uuid) : (uuidBytes id).length = 16 := by
  have hyphenated := id.hyphenated
  unfold hyphenatedUuid at hyphenated
  rw [Bool.and_eq_true, beq_iff_eq] at hyphenated
  have length := hyphenated.1
  unfold uuidBytes uuidDigits
  rw [hexBytes_length]
  simp only [List.length_append, List.length_take, List.length_drop, length]
  decide

def Headed (file : Bytes) : Prop := ∃ rest, file = magic ++ le32 version ++ rest

theorem header_opens :
    (magic ++ le32 version).length = 8 ∧ checkHeader (magic ++ le32 version) = .ok () := by
  decide +kernel

theorem headed_reads {file : Bytes} (headed : Headed file) :
    readExact file 0 8 = .ok (magic ++ le32 version) := by
  obtain ⟨rest, rfl⟩ := headed
  unfold readExact
  rw [if_pos (by rw [List.length_append, header_opens.1]; omega), List.drop_zero, ← header_opens.1,
    List.take_left]

section Records

variable {primitives : Primitives}

theorem compressChunk_shorter {plaintext stored : Bytes} {compression : PackCompression}
    (compressed : compressChunk primitives plaintext = .ok (compression, stored)) :
    stored.length ≤ plaintext.length := by
  unfold compressChunk at compressed
  split at compressed
  · split at compressed
    · cases compressed
    · split at compressed
      · obtain ⟨_, rfl⟩ := Prod.mk.inj (Except.ok.inj compressed)
        exact Nat.le_refl _
      · rename_i shorter
        obtain ⟨_, rfl⟩ := Prod.mk.inj (Except.ok.inj compressed)
        omega
  · obtain ⟨_, rfl⟩ := Prod.mk.inj (Except.ok.inj compressed)
    exact Nat.le_refl _

theorem unpackStored_compressChunk (laws : primitives.Laws) {plaintext stored : Bytes}
    {entry : PackIndexEntry} (length : entry.plaintextLen = plaintext.length)
    (compressed : compressChunk primitives plaintext = .ok (entry.compression, stored)) :
    unpackStored primitives entry stored = .ok plaintext := by
  unfold compressChunk at compressed
  unfold unpackStored
  split at compressed
  · split at compressed
    · cases compressed
    · rename_i small done
      split at compressed
      · obtain ⟨plain, rfl⟩ := Prod.mk.inj (Except.ok.inj compressed)
        rw [← plain]
      · obtain ⟨zstd, rfl⟩ := Prod.mk.inj (Except.ok.inj compressed)
        rw [← zstd]
        dsimp only
        rw [length, laws.decompress_compress plaintext _ done]
  · obtain ⟨plain, rfl⟩ := Prod.mk.inj (Except.ok.inj compressed)
    rw [← plain]

theorem recordTag_length : recordTag.length = 4 := by
  decide +kernel

theorem record_length (plaintextLen : Nat) (nonce : Nonce) (ciphertext : Bytes) :
    (record plaintextLen nonce ciphertext).length = recordHeaderLen + ciphertext.length := by
  simp only [record, List.length_append, recordTag_length, nonce.length, le32, List.length_cons,
    List.length_nil, recordHeaderLen, nonceLen]

theorem record_drop (plaintextLen : Nat) (nonce : Nonce) (ciphertext : Bytes) :
    (record plaintextLen nonce ciphertext).drop 12 = nonce.bytes ++ ciphertext := by
  have length : (recordTag ++ le32 plaintextLen ++ le32 ciphertext.length).length = 12 := by
    simp only [List.length_append, recordTag_length, le32, List.length_cons, List.length_nil]
  unfold record
  rw [List.append_assoc, ← length, List.drop_left]

theorem openRecord_record (laws : primitives.Laws) {hash : String} {plaintext stored ciphertext : Bytes}
    {nonce : Nonce} {entry : PackIndexEntry}
    (named : hash = primitives.blake3Hex plaintext) (same : entry.chunkHash = hash)
    (length : entry.plaintextLen = plaintext.length)
    (compressed : compressChunk primitives plaintext = .ok (entry.compression, stored))
    (encrypted : primitives.encrypt (primitives.packKey entry.packId) hash nonce stored =
      .ok ciphertext) :
    openRecord primitives entry (record entry.plaintextLen nonce ciphertext) = .ok plaintext := by
  have tagged : (record entry.plaintextLen nonce ciphertext).take 4 = recordTag := by
    unfold record
    rw [List.append_assoc, List.append_assoc, List.append_assoc, ← recordTag_length,
      List.take_left]
  have nonced : (nonce.bytes ++ ciphertext).take nonceLen = nonce.bytes := by
    rw [show nonceLen = nonce.bytes.length from nonce.length.symm, List.take_left]
  have rest : (record entry.plaintextLen nonce ciphertext).drop (12 + nonceLen) = ciphertext := by
    rw [← List.drop_drop, record_drop, show nonceLen = nonce.bytes.length from nonce.length.symm,
      List.drop_left]
  unfold openRecord
  rw [if_neg (by rw [tagged]; simp), record_drop, nonced, rest, same,
    laws.decrypt_encrypt _ _ _ _ _ encrypted]
  show (unpackStored primitives entry stored >>= fun plain => _) = _
  rw [unpackStored_compressChunk laws length compressed]
  show (if _ then _ else _) = _
  rw [if_neg]
  rintro (other | other)
  · exact other length.symm
  · exact other named.symm

end Records

def recordStop (entry : PackIndexEntry) : Nat :=
  entry.offset + 12 + entry.nonce.length + entry.ciphertextLen

theorem recordEnd_eq (entry : PackIndexEntry) :
    Restore.recordEnd entry = min (recordStop entry) (2 ^ 64 - 1) := by
  simp only [Restore.recordEnd, recordStop, saturatingAdd]
  omega

/-- Records from `start` to `stop`, each where the one before it ends. -/
def Contiguous : Nat → List PackIndexEntry → Nat → Prop
  | start, [], stop => start = stop
  | start, entry :: rest, stop =>
      entry.offset = start ∧ Contiguous (recordStop entry) rest stop

def ReadsBack (primitives : Primitives) (file : Bytes) (entry : PackIndexEntry)
    (chunk : String × Bytes) : Prop :=
  entry.chunkHash = chunk.1 ∧ extractChunk primitives file entry = .ok chunk.2

structure PackWrites (primitives : Primitives) (pack : BuiltPack)
    (group : List (String × Bytes)) : Prop where
  chunks : List.Forall₂ (ReadsBack primitives pack.file) pack.entries group
  headed : Headed pack.file
  length : pack.file.length = pack.bytes
  contiguous : Contiguous packHeaderLen pack.entries pack.bytes
  named : ∀ entry ∈ pack.entries, entry.packId = pack.packId

structure PackHolds (primitives : Primitives) (max : Nat) (pack : BuiltPack)
    (group : List (String × Bytes)) : Prop extends PackWrites primitives pack group where
  nonempty : group ≠ []
  below : pack.bytes ≤ max

theorem contiguous_snoc {start stop : Nat} {entries : List PackIndexEntry} {entry : PackIndexEntry}
    (before : Contiguous start entries stop) (next : entry.offset = stop) :
    Contiguous start (entries ++ [entry]) (recordStop entry) := by
  induction entries generalizing start with
  | nil => exact ⟨next.trans before.symm, rfl⟩
  | cons first rest ih => exact ⟨before.1, ih before.2⟩

theorem contiguous_le {start stop : Nat} {entries : List PackIndexEntry}
    (contiguous : Contiguous start entries stop) :
    start ≤ stop ∧ ∀ entry ∈ entries, recordStop entry ≤ stop := by
  induction entries generalizing start with
  | nil => exact ⟨Nat.le_of_eq contiguous, by simp⟩
  | cons first rest ih =>
      obtain ⟨after, within⟩ := ih contiguous.2
      refine ⟨?_, fun entry member => ?_⟩
      · have begins := contiguous.1
        unfold recordStop at after
        omega
      · rcases List.mem_cons.mp member with rfl | later
        · exact after
        · exact within entry later

theorem contiguous_last {start stop : Nat} {entries : List PackIndexEntry}
    (contiguous : Contiguous start entries stop) (nonempty : entries ≠ []) :
    ∃ entry ∈ entries, recordStop entry = stop := by
  induction entries generalizing start with
  | nil => exact (nonempty rfl).elim
  | cons first rest ih =>
      cases rest with
      | nil => exact ⟨first, List.mem_cons_self, contiguous.2⟩
      | cons second others =>
          obtain ⟨entry, member, ends⟩ := ih contiguous.2 (List.cons_ne_nil _ _)
          exact ⟨entry, List.mem_cons_of_mem _ member, ends⟩

theorem PackHolds.entries_ne {primitives : Primitives} {max : Nat} {pack : BuiltPack}
    {group : List (String × Bytes)} (holds : PackHolds primitives max pack group) :
    pack.entries ≠ [] := by
  intro empty
  have chunks := holds.chunks
  rw [empty] at chunks
  cases chunks
  exact holds.nonempty rfl

theorem PackHolds.packSize {primitives : Primitives} {max : Nat} {pack : BuiltPack}
    {group : List (String × Bytes)} (holds : PackHolds primitives max pack group)
    {index : List PackIndexEntry}
    (indexed : (index.filter fun entry => entry.packId = pack.packId).Perm pack.entries) :
    Restore.packSize index pack.packId = min pack.bytes (2 ^ 64 - 1) := by
  have within := (contiguous_le holds.contiguous).2
  obtain ⟨last, member, ends⟩ := contiguous_last holds.contiguous holds.entries_ne
  have ended : min pack.bytes (2 ^ 64 - 1) ∈
      (index.filter fun entry => entry.packId = pack.packId).map Restore.recordEnd := by
    rw [← ends, ← recordEnd_eq]
    exact List.mem_map_of_mem (indexed.mem_iff.mpr member)
  unfold Restore.packSize
  rw [List.foldl_max_eq_max (List.ne_nil_of_mem ended), Nat.zero_max]
  apply Nat.le_antisymm
  · rw [List.max_le_iff]
    intro value inside
    obtain ⟨entry, found, rfl⟩ := List.mem_map.mp inside
    rw [recordEnd_eq]
    exact min_le_min_right _ (within entry (indexed.mem_iff.mp found))
  · exact List.le_max_of_mem ended

section Writing

variable {primitives : Primitives} {target max : Nat}

theorem writeChunk_ok {pack written : BuiltPack} {nonce : Nonce} {hash : String}
    {plaintext : Bytes} (wrote : pack.writeChunk primitives nonce hash plaintext = .ok written) :
    ∃ compression stored ciphertext,
      compressChunk primitives plaintext = .ok (compression, stored) ∧
      primitives.encrypt (primitives.packKey pack.packId) hash nonce stored = .ok ciphertext ∧
      written = pack.append hash plaintext.length compression nonce ciphertext := by
  unfold BuiltPack.writeChunk at wrote
  split at wrote
  · cases wrote
  · split at wrote
    · cases wrote
    · rename_i compressed
      split at wrote
      · cases wrote
      · rename_i encrypted
        split at wrote
        · cases wrote
        · exact ⟨_, _, _, compressed, encrypted, (Except.ok.inj wrote).symm⟩

theorem writeChunk_bytes (laws : primitives.Laws) {pack written : BuiltPack} {nonce : Nonce}
    {hash : String} {plaintext : Bytes}
    (wrote : pack.writeChunk primitives nonce hash plaintext = .ok written) :
    written.bytes ≤ pack.bytes + recordLen plaintext := by
  obtain ⟨compression, stored, ciphertext, compressed, encrypted, rfl⟩ := writeChunk_ok wrote
  have shorter := compressChunk_shorter compressed
  have tagged := laws.encrypt_length _ _ _ _ _ encrypted
  simp only [BuiltPack.append, recordLen]
  omega

theorem append_readsBack (laws : primitives.Laws) {pack : BuiltPack} {hash : String}
    {plaintext stored ciphertext : Bytes} {compression : PackCompression} {nonce : Nonce}
    (headed : Headed pack.file) (length : pack.file.length = pack.bytes)
    (named : hash = primitives.blake3Hex plaintext)
    (compressed : compressChunk primitives plaintext = .ok (compression, stored))
    (encrypted : primitives.encrypt (primitives.packKey pack.packId) hash nonce stored =
      .ok ciphertext) (entry : PackIndexEntry)
    (new : entry = { chunkHash := hash
                     packId := pack.packId
                     offset := pack.bytes
                     ciphertextLen := ciphertext.length
                     plaintextLen := plaintext.length
                     compression := compression
                     nonce := nonce.bytes.map UInt8.toNat }) :
    extractChunk primitives (pack.file ++ record plaintext.length nonce ciphertext) entry =
      .ok plaintext := by
  have start : readExact (pack.file ++ record plaintext.length nonce ciphertext) 0 8 =
      .ok (magic ++ le32 version) := readExact_append (headed_reads headed)
  have whole : readExact (pack.file ++ record plaintext.length nonce ciphertext) entry.offset
      (entry.ciphertextLen + 4 + 4 + 4 + nonceLen) =
        .ok (record plaintext.length nonce ciphertext) := by
    have size : entry.ciphertextLen + 4 + 4 + 4 + nonceLen =
        (record plaintext.length nonce ciphertext).length := by
      rw [record_length, new]
      simp only [recordHeaderLen]
      omega
    have offset : entry.offset = pack.file.length := by
      rw [new, length]
    unfold readExact
    rw [size, offset, if_pos (by rw [List.length_append]), List.drop_left, List.take_length]
  have opened : openRecord primitives entry (record plaintext.length nonce ciphertext) =
      .ok plaintext := by
    subst new
    exact openRecord_record laws named rfl rfl compressed encrypted
  unfold extractChunk
  rw [start]
  show (checkHeader (magic ++ le32 version) >>= fun _ => _) = _
  rw [header_opens.2]
  show (readExact _ _ _ >>= fun buf => _) = _
  rw [whole]
  exact opened

theorem createPack_writes (id : Uuid) : PackWrites primitives (createPack id) [] where
  chunks := List.Forall₂.nil
  headed := ⟨uuidBytes id, rfl⟩
  length := by
    have header := header_opens.1
    simp only [createPack, List.length_append, uuidBytes_length, packHeaderLen] at header ⊢
    omega
  contiguous := rfl
  named := fun entry member => by cases member

theorem writeChunk_holds (laws : primitives.Laws) {pack written : BuiltPack} {nonce : Nonce}
    {hash : String} {plaintext : Bytes} {group : List (String × Bytes)}
    (writes : PackWrites primitives pack group) (named : hash = primitives.blake3Hex plaintext)
    (room : pack.bytes + recordLen plaintext ≤ max)
    (wrote : pack.writeChunk primitives nonce hash plaintext = .ok written) :
    PackHolds primitives max written (group ++ [(hash, plaintext)]) := by
  have below : written.bytes ≤ max := Nat.le_trans (writeChunk_bytes laws wrote) room
  obtain ⟨compression, stored, ciphertext, compressed, encrypted, rfl⟩ := writeChunk_ok wrote
  have read := append_readsBack laws writes.headed writes.length named compressed encrypted _ rfl
  refine ⟨⟨?_, ?_, ?_, ?_, ?_⟩, by simp, below⟩
  · apply List.rel_append
    · exact writes.chunks.imp fun entry chunk old => ⟨old.1, extractChunk_append old.2⟩
    · exact List.Forall₂.cons ⟨rfl, read⟩ List.Forall₂.nil
  · obtain ⟨rest, starts⟩ := writes.headed
    refine ⟨rest ++ record plaintext.length nonce ciphertext, ?_⟩
    rw [← List.append_assoc, ← starts]
    rfl
  · have length := writes.length
    simp only [BuiltPack.append, List.length_append, record_length, length]
  · have ends := @contiguous_snoc _ _ _ ⟨hash, pack.packId, pack.bytes, ciphertext.length,
      plaintext.length, compression, nonce.bytes.map UInt8.toNat⟩ writes.contiguous rfl
    have stop : recordStop ⟨hash, pack.packId, pack.bytes, ciphertext.length,
        plaintext.length, compression, nonce.bytes.map UInt8.toNat⟩ =
          pack.bytes + (recordHeaderLen + ciphertext.length) := by
      simp only [recordStop, List.length_map, nonce.length, recordHeaderLen, nonceLen]
      omega
    rw [stop] at ends
    exact ends
  · intro entry member
    rcases List.mem_append.mp member with old | new
    · exact writes.named entry old
    · rw [List.mem_singleton.mp new]
      rfl

end Writing

section Loop

variable {primitives : Primitives} {supply : Supply} {target max : Nat} {Known : Type}
  {known : Known → String → Bool × Known}

def PackState.packs (state : PackState Known) : List BuiltPack := state.out ++ state.current.toList

def StateHolds (primitives : Primitives) (max : Nat) (packs : List BuiltPack)
    (chunks : List (String × Bytes)) : Prop :=
  ∃ groups, groups.flatten = chunks ∧ List.Forall₂ (PackHolds primitives max) packs groups

variable {state later : PackState Known} {chunks : List (String × Bytes)}

theorem stateHolds_last {packs : List BuiltPack} {pack : BuiltPack}
    (holds : StateHolds primitives max (packs ++ [pack]) chunks) :
    ∃ before group, chunks = before ++ group ∧ StateHolds primitives max packs before ∧
      PackHolds primitives max pack group := by
  obtain ⟨groups, rfl, held⟩ := holds
  have front := (List.forall₂_take_append groups packs [pack] held.flip).flip
  have back := (List.forall₂_drop_append groups packs [pack] held.flip).flip
  obtain ⟨group, _, last, none, single⟩ := List.forall₂_cons_left_iff.mp back
  obtain rfl := List.forall₂_nil_left_iff.mp none
  refine ⟨(groups.take packs.length).flatten, group, ?_, ⟨_, rfl, front⟩, last⟩
  conv_lhs => rw [← List.take_append_drop packs.length groups, single]
  simp

theorem stateHolds_extend {packs : List BuiltPack} {pack : BuiltPack}
    {before group : List (String × Bytes)} (holds : StateHolds primitives max packs before)
    (last : PackHolds primitives max pack group) :
    StateHolds primitives max (packs ++ [pack]) (before ++ group) := by
  obtain ⟨groups, rfl, held⟩ := holds
  refine ⟨groups ++ [group], by simp, ?_⟩
  exact List.rel_append held (List.Forall₂.cons last List.Forall₂.nil)

theorem pack_holds (laws : primitives.Laws) {hash : String} {payload : Bytes}
    (holds : StateHolds primitives max state.packs chunks)
    (named : hash = primitives.blake3Hex payload)
    (small : packHeaderLen + recordLen payload ≤ max)
    (packed : state.pack primitives supply target max hash payload = .ok later) :
    StateHolds primitives max later.packs (chunks ++ [(hash, payload)]) := by
  have fresh : ∀ {written : BuiltPack}, (createPack (supply.uuids state.ids)).writeChunk primitives
      (supply.nonces state.nonces) hash payload = .ok written →
        PackHolds primitives max written [(hash, payload)] := fun wrote =>
    writeChunk_holds laws (createPack_writes _) named small wrote
  unfold PackState.pack at packed
  dsimp only at packed
  split at packed
  · cases packed
  · rename_i written wrote
    obtain rfl := Except.ok.inj packed
    cases current : state.current with
    | none =>
        rw [current] at wrote
        have packs : state.packs = state.out := by simp [PackState.packs, current]
        rw [packs] at holds
        simpa [PackState.packs] using stateHolds_extend holds (fresh wrote)
    | some pack =>
        rw [current] at wrote
        have packs : state.packs = state.out ++ [pack] := by simp [PackState.packs, current]
        rw [packs] at holds
        cases full : pack.shouldSeal payload target max with
        | true =>
            simp only [Option.filter, full, Bool.not_true, Bool.false_eq_true, if_false,
              Option.getD_none] at wrote
            simpa [PackState.packs, Option.filter, full] using stateHolds_extend holds (fresh wrote)
        | false =>
            simp only [Option.filter, full, Bool.not_false, if_true, Option.getD_some] at wrote
            have room : pack.bytes + recordLen payload ≤ max := by
              simp only [BuiltPack.shouldSeal, Bool.or_eq_false_iff, decide_eq_false_iff_not,
                not_lt] at full
              exact full.2
            obtain ⟨before, group, rfl, earlier, open_⟩ := stateHolds_last holds
            have written_holds := writeChunk_holds laws open_.toPackWrites named room wrote
            rw [List.append_assoc]
            simpa [PackState.packs, Option.filter, full] using stateHolds_extend earlier written_holds

theorem packStep_ok {chunk : String × Bytes}
    (stepped : packStep primitives supply known target max state chunk = .ok later) :
    later.known = (known state.known chunk.1).2 ∧
      if (known state.known chunk.1).1 then later.packs = state.packs
      else packHeaderLen + recordLen chunk.2 ≤ max ∧
        ({ state with known := (known state.known chunk.1).2 } : PackState Known).pack primitives
          supply target max chunk.1 chunk.2 = .ok later := by
  unfold packStep at stepped
  dsimp only at stepped
  split at stepped
  · rename_i skip
    obtain rfl := Except.ok.inj stepped
    rw [if_pos skip]
    exact ⟨rfl, rfl⟩
  · rename_i wanted
    rw [if_neg wanted]
    split at stepped
    · cases stepped
    · split at stepped
      · cases stepped
      · rename_i small
        refine ⟨?_, by omega, stepped⟩
        unfold PackState.pack at stepped
        dsimp only at stepped
        split at stepped
        · cases stepped
        · obtain rfl := Except.ok.inj stepped
          rfl

theorem packStep_holds (laws : primitives.Laws) {chunk : String × Bytes}
    (holds : StateHolds primitives max state.packs chunks)
    (named : chunk.1 = primitives.blake3Hex chunk.2)
    (stepped : packStep primitives supply known target max state chunk = .ok later) :
    later.known = (known state.known chunk.1).2 ∧
      StateHolds primitives max later.packs
        (chunks ++ if (known state.known chunk.1).1 then [] else [chunk]) := by
  obtain ⟨remembered, packed⟩ := packStep_ok stepped
  refine ⟨remembered, ?_⟩
  split at packed
  · rename_i skip
    rw [if_pos skip, List.append_nil, packed]
    exact holds
  · rename_i wanted
    rw [if_neg wanted]
    have before : StateHolds primitives max
        ({ state with known := (known state.known chunk.1).2 } : PackState Known).packs chunks :=
      holds
    exact pack_holds laws before named packed.1 packed.2

theorem foldlM_packStep_holds (laws : primitives.Laws) {chunks done : List (String × Bytes)}
    {state final : PackState Known} (holds : StateHolds primitives max state.packs done)
    (named : ∀ chunk ∈ chunks, chunk.1 = primitives.blake3Hex chunk.2)
    (folded : chunks.foldlM (packStep primitives supply known target max) state = .ok final) :
    StateHolds primitives max final.packs (done ++ unknownChunks known state.known chunks) := by
  induction chunks generalizing state done with
  | nil =>
      obtain rfl := Except.ok.inj folded
      simpa [unknownChunks] using holds
  | cons chunk rest ih =>
      rw [List.foldlM_cons] at folded
      cases stepped : packStep primitives supply known target max state chunk with
      | error error =>
          rw [stepped] at folded
          cases folded
      | ok later =>
          rw [stepped] at folded
          obtain ⟨remembered, held⟩ := packStep_holds laws holds (named chunk List.mem_cons_self)
            stepped
          have rest_holds := ih held (fun other member => named other (List.mem_cons_of_mem _ member))
            folded
          rw [remembered, List.append_assoc] at rest_holds
          unfold unknownChunks
          split
          · rename_i skip
            rw [if_pos skip, List.nil_append] at rest_holds
            exact rest_holds
          · rename_i wanted
            rw [if_neg wanted] at rest_holds
            exact rest_holds

def packedHashes (packs : List BuiltPack) : List String :=
  (packs.flatMap BuiltPack.entries).map PackIndexEntry.chunkHash

theorem pack_hashes {hash : String} {payload : Bytes}
    (packed : state.pack primitives supply target max hash payload = .ok later) :
    packedHashes later.packs = packedHashes state.packs ++ [hash] := by
  unfold PackState.pack at packed
  dsimp only at packed
  split at packed
  · cases packed
  · rename_i written wrote
    obtain rfl := Except.ok.inj packed
    obtain ⟨compression, stored, ciphertext, _, _, rfl⟩ := writeChunk_ok wrote
    cases current : state.current with
    | none => simp [PackState.packs, packedHashes, current, BuiltPack.append, createPack]
    | some pack =>
        cases full : pack.shouldSeal payload target max with
        | true =>
            simp [PackState.packs, packedHashes, current, Option.filter, full, BuiltPack.append,
              createPack]
        | false =>
            simp [PackState.packs, packedHashes, current, Option.filter, full, BuiltPack.append]

theorem packStep_hashes {chunk : String × Bytes}
    (stepped : packStep primitives supply known target max state chunk = .ok later) :
    later.known = (known state.known chunk.1).2 ∧
      packedHashes later.packs = packedHashes state.packs ++
        if (known state.known chunk.1).1 then [] else [chunk.1] := by
  obtain ⟨remembered, packed⟩ := packStep_ok stepped
  refine ⟨remembered, ?_⟩
  split at packed
  · rename_i skip
    rw [if_pos skip, List.append_nil, packed]
  · rename_i wanted
    rw [if_neg wanted]
    have hashes := pack_hashes packed.2
    exact hashes

theorem foldlM_packStep_hashes {state final : PackState Known}
    (folded : chunks.foldlM (packStep primitives supply known target max) state = .ok final) :
    packedHashes final.packs =
      packedHashes state.packs ++ (unknownChunks known state.known chunks).map Prod.fst := by
  induction chunks generalizing state with
  | nil =>
      obtain rfl := Except.ok.inj folded
      simp [unknownChunks]
  | cons chunk rest ih =>
      rw [List.foldlM_cons] at folded
      cases stepped : packStep primitives supply known target max state chunk with
      | error error =>
          rw [stepped] at folded
          cases folded
      | ok later =>
          rw [stepped] at folded
          rw [ih folded]
          obtain ⟨remembered, hashes⟩ := packStep_hashes stepped
          rw [remembered, hashes, List.append_assoc, unknownChunks]
          split
          · rw [List.nil_append]
          · rw [List.map_cons, List.singleton_append]

/-- The packs hold exactly the chunks that are not known, each once and in order,
in files of at most `max` bytes without gaps; a restore expects every file at its
size, which it counts in a `u64`, and reads every chunk back. -/
theorem pack_chunk_files_round_trip (laws : primitives.Laws) (start : Known)
    (chunks : List (String × Bytes)) (packs : List BuiltPack)
    (named : ∀ chunk ∈ chunks, chunk.1 = primitives.blake3Hex chunk.2)
    (packed : packChunkFilesWithLimits primitives supply known start chunks target max =
      .ok packs) :
    ∃ groups, groups.flatten = unknownChunks known start chunks ∧
      List.Forall₂ (fun pack group => PackHolds primitives max pack group ∧
        ∀ index : List PackIndexEntry,
          (index.filter fun entry => entry.packId = pack.packId).Perm pack.entries →
            Restore.packSize index pack.packId = min pack.bytes (2 ^ 64 - 1)) packs groups := by
  unfold packChunkFilesWithLimits at packed
  split at packed
  · cases packed
  · split at packed
    · cases packed
    · rename_i final folded
      obtain rfl := Except.ok.inj packed
      have empty : StateHolds primitives max ({ known := start } : PackState Known).packs [] :=
        ⟨[], rfl, List.Forall₂.nil⟩
      obtain ⟨groups, flat, held⟩ := foldlM_packStep_holds laws empty named folded
      refine ⟨groups, flat, held.imp fun pack group holds => ⟨holds, ?_⟩⟩
      exact fun index indexed => holds.packSize indexed

end Loop

namespace Sample

/-- Compression turns a run of one byte into that byte. -/
def primitives : Primitives where
  blake3Hex data := if data.length < 1024 then "short" else "long"
  lowEntropy _ := true
  compress data :=
    .ok (if data = List.replicate data.length (data.headD 0) then [data.headD 0] else data)
  decompress data length :=
    match data with
    | [byte] => .ok (List.replicate length byte)
    | _ => .ok data
  packKey _ := []
  encrypt _ _ _ plain := .ok (plain ++ List.replicate aeadTagLen 7)
  decrypt _ _ _ cipher := .ok (cipher.take (cipher.length - aeadTagLen))

theorem primitives_laws : primitives.Laws where
  encrypt_length key aad nonce plain cipher encrypted := by
    rw [← Except.ok.inj encrypted, List.length_append, List.length_replicate]
  decrypt_encrypt key aad nonce plain cipher encrypted := by
    rw [← Except.ok.inj encrypted]
    simp [primitives]
  decompress_compress plain compressed done := by
    rw [← Except.ok.inj done]
    split
    · rename_i run
      exact congrArg Except.ok run.symm
    · rename_i mixed
      match plain, mixed with
      | [], mixed => exact (mixed rfl).elim
      | [_], mixed => exact (mixed rfl).elim
      | _ :: _ :: _, _ => rfl

def supply : Supply where
  uuids _ := ⟨"00000000-0000-4000-8000-000000000000", by decide +kernel⟩
  nonces _ := ⟨List.replicate 24 9, by simp⟩

def chunks : List (String × Bytes) := [("short", [1, 2, 3]), ("long", List.replicate 1100 5)]

end Sample

theorem pack_chunk_files_round_trip_two :
    ∃ packs groups, packChunkFilesWithLimits Sample.primitives Sample.supply
        (fun _ _ => (false, ())) () Sample.chunks 90 1200 = .ok packs ∧
      groups.flatten = Sample.chunks ∧
      List.Forall₂ (fun pack group => PackHolds Sample.primitives 1200 pack group ∧
        ∀ index : List PackIndexEntry,
          (index.filter fun entry => entry.packId = pack.packId).Perm pack.entries →
            Restore.packSize index pack.packId = min pack.bytes (2 ^ 64 - 1)) packs groups := by
  have done : (packChunkFilesWithLimits Sample.primitives Sample.supply
      (fun _ _ => (false, ())) () Sample.chunks 90 1200).isOk = true := by decide +kernel
  cases packed : packChunkFilesWithLimits Sample.primitives Sample.supply
      (fun _ _ => (false, ())) () Sample.chunks 90 1200 with
  | error error =>
      rw [packed] at done
      cases done
  | ok packs =>
      obtain ⟨groups, flat, held⟩ := pack_chunk_files_round_trip Sample.primitives_laws ()
        Sample.chunks packs (by decide +kernel) packed
      exact ⟨packs, groups, rfl, flat, held⟩

end Noland.Pack
