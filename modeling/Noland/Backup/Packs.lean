import Mathlib.Data.List.Destutter
import Noland.Backup.Agent

/-!
New chunks are sorted into plans below the size limits, and each plan is written as a pack under a
drawn id. A plan counts a chunk at its plain size; the pack holds it compressed, so it never grows
past what the plan allows.
-/

namespace Noland.Backup

open Noland.Core Noland.Requests

structure PackLimits where
  target : Nat
  max : Nat

def smallPackLimits : PackLimits := ⟨16 * 1024 * 1024, 32 * 1024 * 1024⟩

def regularPackLimits : PackLimits := ⟨512 * 1024 * 1024, 1024 * 1024 * 1024⟩

def packHeaderBytes : Nat := 24

def recordOverheadBytes : Nat := 52

def planRecordBytes (chunk : ChunkRef) : Nat := recordOverheadBytes + chunk.size

structure PlanState where
  plans : List (List ChunkRef) := []
  current : List ChunkRef := []
  bytes : Nat := packHeaderBytes

def PlanState.full (limits : PackLimits) (state : PlanState) (chunk : ChunkRef) : Bool :=
  !state.current.isEmpty &&
    (limits.target ≤ state.bytes || limits.max < state.bytes + planRecordBytes chunk)

def PlanState.push (limits : PackLimits) (state : PlanState) (chunk : ChunkRef) : PlanState :=
  if state.full limits chunk then
    { plans := state.plans ++ [state.current]
      current := [chunk]
      bytes := packHeaderBytes + planRecordBytes chunk }
  else
    { state with
      current := state.current ++ [chunk]
      bytes := state.bytes + planRecordBytes chunk }

def planChunk (limits : PackLimits) (state : PlanState) (chunk : ChunkRef) :
    Except StateError PlanState :=
  if limits.max < packHeaderBytes + planRecordBytes chunk then
    .error (.message "chunk exceeds pack hard maximum")
  else .ok (state.push limits chunk)

def PlanState.finish (state : PlanState) : List (List ChunkRef) :=
  if state.current.isEmpty then state.plans else state.plans ++ [state.current]

def planPackChunks (limits : PackLimits) (chunks : List ChunkRef) :
    Except StateError (List (List ChunkRef)) :=
  if limits.target = 0 ∨ limits.max < limits.target then
    .error (.invalid "invalid pack size limits")
  else do
    let state ← (chunks.insertionSort fun left right => left.hash ≤ right.hash).foldlM
      (planChunk limits) {}
    .ok state.finish

structure Packing where
  compressed : String → Option Nat
  nonce : String → String → List Nat

def Packing.stored (packing : Packing) (chunk : ChunkRef) : PackCompression × Nat :=
  match packing.compressed chunk.hash with
  | none => (.none, chunk.size)
  | some size => if chunk.size ≤ size then (.none, chunk.size) else (.zstd, size)

structure BuiltPack where
  packId : String
  bytes : Nat
  entries : List PackIndexEntry
  deriving DecidableEq

def createPack (packId : Uuid) : BuiltPack :=
  { packId := packId.text, bytes := packHeaderBytes, entries := [] }

def BuiltPack.writeChunk (packing : Packing) (pack : BuiltPack) (chunk : ChunkRef) : BuiltPack :=
  { pack with
    bytes := pack.bytes + (recordOverheadBytes + (packing.stored chunk).2)
    entries := pack.entries ++
      [{ chunkHash := chunk.hash
         packId := pack.packId
         offset := pack.bytes
         ciphertextLen := (packing.stored chunk).2 + 16
         plaintextLen := chunk.size
         compression := (packing.stored chunk).1
         nonce := packing.nonce pack.packId chunk.hash }] }

def BuiltPack.sealedBefore (limits : PackLimits) (pack : BuiltPack) (chunk : ChunkRef) : Bool :=
  limits.target ≤ pack.bytes || limits.max < pack.bytes + planRecordBytes chunk

/-- The loop of `pack_chunk_files_with_limits`; the result starts with the packs
that are sealed. -/
def packChunkFiles (packing : Packing) (limits : PackLimits) :
    List ChunkRef → Option BuiltPack → AgentProg (List BuiltPack)
  | [], current => .done current.toList
  | chunk :: rest, current =>
      if limits.max < packHeaderBytes + planRecordBytes chunk then
        .throw (.message "chunk exceeds pack hard maximum")
      else
        match current with
        | none => do
            let packId ← ask .newUuid
            packChunkFiles packing limits rest ((createPack packId).writeChunk packing chunk)
        | some pack =>
            if pack.sealedBefore limits chunk then do
              let packId ← ask .newUuid
              let packs ← packChunkFiles packing limits rest
                ((createPack packId).writeChunk packing chunk)
              .done (pack :: packs)
            else packChunkFiles packing limits rest (pack.writeChunk packing chunk)

def packPlans (packing : Packing) (limits : PackLimits) :
    List (List ChunkRef) → AgentProg (List BuiltPack)
  | [] => .done []
  | plan :: rest => do
      ask .checkCancelled
      let packs ← packChunkFiles packing limits plan none
      let others ← packPlans packing limits rest
      .done (packs ++ others)

def packPlansParallel (packing : Packing) (limits : PackLimits) :
    List (List ChunkRef) → AgentProg (List BuiltPack)
  | [] => .done []
  | plan :: rest => do
      ask .checkCancelled
      let packs ← packChunkFiles packing limits plan none
      match packs.getLast? with
      | none => .throw (.message "pack plan produced no pack")
      | some pack => do
          let others ← packPlansParallel packing limits rest
          .done (pack :: others)

def BuiltPack.firstHash (pack : BuiltPack) : String :=
  (pack.entries.head?.map PackIndexEntry.chunkHash).getD ""

/-- A cancelled feeder leaves out the plans it has not handed out yet. -/
def buildPacks (packing : Packing) (workers : Nat) (limits : PackLimits)
    (chunks : List ChunkRef) : AgentProg (List BuiltPack) := do
  let plans ← Prog.ofExcept (planPackChunks limits chunks)
  if plans.length ≤ 1 ∨ workers ≤ 1 then packPlans packing limits plans
  else do
    let handed ← ask (.feedPlans plans.length)
    let packs ← packPlansParallel packing limits (plans.take handed)
    .done (packs.insertionSort fun left right => left.firstHash ≤ right.firstHash)

def mergeIndex (entries : List PackIndexEntry) : List PackIndexEntry :=
  (entries.insertionSort fun left right => left.chunkHash ≤ right.chunkHash).destutter
    fun left right => left.chunkHash ≠ right.chunkHash

/-- The chunks can follow in a pack that the plan counts at `bytes`. -/
def FitsFrom (limits : PackLimits) : Nat → List ChunkRef → Prop
  | _, [] => True
  | bytes, chunk :: rest =>
      bytes < limits.target ∧ bytes + planRecordBytes chunk ≤ limits.max ∧
        FitsFrom limits (bytes + planRecordBytes chunk) rest

def FitsPack (limits : PackLimits) : List ChunkRef → Prop
  | [] => False
  | chunk :: rest =>
      packHeaderBytes + planRecordBytes chunk ≤ limits.max ∧
        FitsFrom limits (packHeaderBytes + planRecordBytes chunk) rest

def plannedBytes (plan : List ChunkRef) : Nat :=
  packHeaderBytes + (plan.map planRecordBytes).sum

theorem fitsFrom_snoc {limits : PackLimits} {bytes : Nat} {rest : List ChunkRef} {chunk : ChunkRef}
    (fits : FitsFrom limits bytes rest)
    (room : bytes + (rest.map planRecordBytes).sum < limits.target)
    (below : bytes + (rest.map planRecordBytes).sum + planRecordBytes chunk ≤ limits.max) :
    FitsFrom limits bytes (rest ++ [chunk]) := by
  induction rest generalizing bytes with
  | nil => exact ⟨by simpa using room, by simpa using below, trivial⟩
  | cons first rest ih =>
      obtain ⟨less, within, later⟩ := fits
      simp only [List.map_cons, List.sum_cons] at room below
      exact ⟨less, within, ih later (by omega) (by omega)⟩

theorem fitsPack_snoc {limits : PackLimits} {plan : List ChunkRef} {chunk : ChunkRef}
    (fits : FitsPack limits plan) (room : plannedBytes plan < limits.target)
    (below : plannedBytes plan + planRecordBytes chunk ≤ limits.max) :
    FitsPack limits (plan ++ [chunk]) := by
  cases plan with
  | nil => exact fits.elim
  | cons first rest =>
      simp only [plannedBytes, List.map_cons, List.sum_cons] at room below
      exact ⟨fits.1, fitsFrom_snoc fits.2 (by omega) (by omega)⟩

structure PlanState.Sound (limits : PackLimits) (state : PlanState) : Prop where
  plans : ∀ plan ∈ state.plans, FitsPack limits plan
  current : state.current = [] ∨ FitsPack limits state.current
  bytes : state.bytes = plannedBytes state.current

theorem sound_push {limits : PackLimits} {state : PlanState} {chunk : ChunkRef}
    (sound : state.Sound limits) (small : packHeaderBytes + planRecordBytes chunk ≤ limits.max) :
    (state.push limits chunk).Sound limits := by
  have alone : FitsPack limits [chunk] := ⟨small, trivial⟩
  unfold PlanState.push
  split
  · rename_i full
    have open_plan : state.current ≠ [] := by
      intro empty
      simp [PlanState.full, empty] at full
    refine ⟨fun plan member => ?_, Or.inr alone, by simp [plannedBytes]⟩
    rcases List.mem_append.mp member with old | new
    · exact sound.plans plan old
    · rw [List.mem_singleton.mp new]
      exact sound.current.resolve_left open_plan
  · rename_i space
    have counted := sound.bytes
    refine ⟨sound.plans, Or.inr ?_, ?_⟩
    · rcases sound.current with empty | fits
      · rw [empty]
        exact alone
      · have open_plan : state.current.isEmpty = false := by
          cases current : state.current with
          | nil => exact (current ▸ fits : FitsPack limits []).elim
          | cons first rest => rfl
        simp only [PlanState.full, open_plan, Bool.not_false, Bool.true_and, Bool.or_eq_true,
          decide_eq_true_eq, not_or, not_le, not_lt] at space
        exact fitsPack_snoc fits (by omega) (by omega)
    · simp only [plannedBytes, List.map_append, List.sum_append, List.map_cons, List.map_nil,
        List.sum_cons, List.sum_nil] at counted ⊢
      omega

def PlanState.all (state : PlanState) : List ChunkRef := state.plans.flatten ++ state.current

theorem all_push (limits : PackLimits) (state : PlanState) (chunk : ChunkRef) :
    (state.push limits chunk).all = state.all ++ [chunk] := by
  unfold PlanState.push PlanState.all
  split
  · simp
  · simp

theorem foldlM_planChunk {limits : PackLimits} {chunks : List ChunkRef} {state final : PlanState}
    (planned : chunks.foldlM (planChunk limits) state = .ok final) (sound : state.Sound limits) :
    final.Sound limits ∧ final.all = state.all ++ chunks := by
  induction chunks generalizing state with
  | nil =>
      obtain rfl : state = final := Except.ok.inj planned
      exact ⟨sound, by simp⟩
  | cons chunk rest ih =>
      rw [List.foldlM_cons] at planned
      unfold planChunk at planned
      split at planned
      · cases planned
      · rename_i small
        obtain ⟨later, same⟩ := ih planned (sound_push sound (by omega))
        exact ⟨later, by rw [same, all_push, List.append_assoc]; rfl⟩

theorem planPackChunks_ok {limits : PackLimits} {chunks : List ChunkRef}
    {plans : List (List ChunkRef)} (planned : planPackChunks limits chunks = .ok plans) :
    (∀ chunk ∈ chunks, ∃ plan ∈ plans, chunk ∈ plan) ∧ ∀ plan ∈ plans, FitsPack limits plan := by
  unfold planPackChunks at planned
  split at planned
  · cases planned
  · cases folded : (chunks.insertionSort fun left right => left.hash ≤ right.hash).foldlM
      (planChunk limits) {} with
    | error error =>
        rw [folded] at planned
        cases planned
    | ok final =>
        rw [folded] at planned
        obtain rfl : final.finish = plans := Except.ok.inj planned
        obtain ⟨sound, all⟩ := foldlM_planChunk folded
          ⟨by simp, Or.inl rfl, by simp [plannedBytes]⟩
        have flat : final.finish.flatten = final.all := by
          unfold PlanState.finish PlanState.all
          split
          · rename_i empty
            simp [List.isEmpty_iff.mp empty]
          · simp
        refine ⟨fun chunk member => ?_, fun plan member => ?_⟩
        · have inside : chunk ∈ final.finish.flatten := by
            rw [flat, all]
            simpa [PlanState.all] using member
          exact List.mem_flatten.mp inside
        · unfold PlanState.finish at member
          split at member
          · exact sound.plans plan member
          · rename_i filled
            rcases List.mem_append.mp member with old | new
            · exact sound.plans plan old
            · rw [List.mem_singleton.mp new]
              refine sound.current.resolve_left fun empty => filled ?_
              rw [empty]
              rfl

section Packs

variable {packing : Packing} {limits : PackLimits}

theorem stored_le (packing : Packing) (chunk : ChunkRef) : (packing.stored chunk).2 ≤ chunk.size := by
  unfold Packing.stored
  split
  · exact le_rfl
  · split
    · exact le_rfl
    · rename_i shorter
      exact Nat.le_of_lt (by simpa using shorter)

def writeChunks (packing : Packing) (pack : BuiltPack) (chunks : List ChunkRef) : BuiltPack :=
  chunks.foldl (BuiltPack.writeChunk packing) pack

theorem packChunkFiles_some {chunks : List ChunkRef} {pack : BuiltPack} {bytes : Nat}
    (header : packHeaderBytes ≤ bytes) (within : pack.bytes ≤ bytes)
    (fits : FitsFrom limits bytes chunks) :
    packChunkFiles packing limits chunks (some pack) = .done [writeChunks packing pack chunks] := by
  induction chunks generalizing pack bytes with
  | nil => rfl
  | cons chunk rest ih =>
      obtain ⟨below, room, later⟩ := fits
      have fitting : ¬ limits.max < packHeaderBytes + planRecordBytes chunk := by omega
      have unsealed : pack.sealedBefore limits chunk = false := by
        simp only [BuiltPack.sealedBefore, Bool.or_eq_false_iff, decide_eq_false_iff_not, not_le,
          not_lt]
        omega
      have smaller : (pack.writeChunk packing chunk).bytes ≤ bytes + planRecordBytes chunk := by
        have stored := stored_le packing chunk
        simp only [BuiltPack.writeChunk, planRecordBytes]
        omega
      unfold packChunkFiles
      rw [if_neg fitting]
      simp only [unsealed, Bool.false_eq_true, if_false]
      exact ih (by omega) smaller later

theorem packChunkFiles_plan {plan : List ChunkRef} (fits : FitsPack limits plan) :
    packChunkFiles packing limits plan none =
      ask .newUuid >>= fun packId => .done [writeChunks packing (createPack packId) plan] := by
  cases plan with
  | nil => exact fits.elim
  | cons chunk rest =>
      obtain ⟨small, later⟩ := fits
      have fitting : ¬ limits.max < packHeaderBytes + planRecordBytes chunk := by omega
      unfold packChunkFiles
      rw [if_neg fitting]
      show (ask .newUuid >>= fun packId => packChunkFiles packing limits rest
        (some ((createPack packId).writeChunk packing chunk))) = _
      congr 1
      funext packId
      refine packChunkFiles_some (by omega) ?_ later
      have stored := stored_le packing chunk
      simp only [BuiltPack.writeChunk, createPack, planRecordBytes]
      omega

theorem writeChunks_hashes (pack : BuiltPack) (chunks : List ChunkRef) :
    (writeChunks packing pack chunks).entries.map PackIndexEntry.chunkHash =
      pack.entries.map PackIndexEntry.chunkHash ++ chunks.map ChunkRef.hash := by
  unfold writeChunks
  induction chunks generalizing pack with
  | nil => simp
  | cons chunk rest ih =>
      rw [List.foldl_cons, ih]
      simp [BuiltPack.writeChunk]

def BuiltPack.Named (pack : BuiltPack) : Prop := ∀ entry ∈ pack.entries, entry.packId = pack.packId

theorem writeChunks_named (pack : BuiltPack) (chunks : List ChunkRef) (named : pack.Named) :
    (writeChunks packing pack chunks).Named := by
  unfold writeChunks
  induction chunks generalizing pack with
  | nil => exact named
  | cons chunk rest ih =>
      apply ih
      intro entry member
      rcases List.mem_append.mp member with old | new
      · exact named entry old
      · rw [List.mem_singleton.mp new]
        rfl

structure PacksHold (packs : List BuiltPack) (chunks : List ChunkRef) : Prop where
  holds : ∀ chunk ∈ chunks, ∃ entry ∈ packs.flatMap BuiltPack.entries, entry.chunkHash = chunk.hash
  named : ∀ pack ∈ packs, pack.Named

theorem packsHold_plan (packId : Uuid) (plan : List ChunkRef) :
    PacksHold [writeChunks packing (createPack packId) plan] plan where
  holds chunk member := by
    have hash : chunk.hash ∈ (writeChunks packing (createPack packId) plan).entries.map
        PackIndexEntry.chunkHash := by
      rw [writeChunks_hashes]
      exact List.mem_append_right _ (List.mem_map_of_mem member)
    obtain ⟨entry, inside, same⟩ := List.mem_map.mp hash
    exact ⟨entry, by simpa using inside, same⟩
  named pack member := by
    rw [List.mem_singleton.mp member]
    exact writeChunks_named _ _ (by simp [BuiltPack.Named, createPack])

theorem PacksHold.append {left right : List BuiltPack} {first second : List ChunkRef}
    (one : PacksHold left first) (two : PacksHold right second) :
    PacksHold (left ++ right) (first ++ second) where
  holds chunk member := by
    rw [List.flatMap_append]
    rcases List.mem_append.mp member with old | new
    · obtain ⟨entry, inside, same⟩ := one.holds chunk old
      exact ⟨entry, List.mem_append_left _ inside, same⟩
    · obtain ⟨entry, inside, same⟩ := two.holds chunk new
      exact ⟨entry, List.mem_append_right _ inside, same⟩
  named pack member := by
    rcases List.mem_append.mp member with old | new
    · exact one.named pack old
    · exact two.named pack new

theorem PacksHold.mono {packs : List BuiltPack} {chunks fewer : List ChunkRef}
    (hold : PacksHold packs chunks) (among : ∀ chunk ∈ fewer, chunk ∈ chunks) :
    PacksHold packs fewer :=
  ⟨fun chunk member => hold.holds chunk (among chunk member), hold.named⟩

def FullyFed : Event agentInterface StateError → Prop
  | ⟨.feedPlans count, .ok handed⟩ => handed = count
  | _ => True

theorem packChunkFiles_one {replies : Event agentInterface StateError → Prop}
    {plan : List ChunkRef} (fits : FitsPack limits plan) :
    (packChunkFiles packing limits plan none).Uses (fun _ => True) replies
      fun packs => ∃ packId, packs = [writeChunks packing (createPack packId) plan] := by
  rw [packChunkFiles_plan fits]
  exact (ask_uses trivial).andThen fun packId => ⟨packId, rfl⟩

theorem packPlans_hold {plans : List (List ChunkRef)} (fit : ∀ plan ∈ plans, FitsPack limits plan) :
    (packPlans packing limits plans).Uses (fun _ => True) FullyFed
      fun packs => PacksHold packs plans.flatten := by
  induction plans with
  | nil => exact ⟨by simp, by simp⟩
  | cons plan rest ih =>
      have others := ih fun later member => fit later (List.mem_cons_of_mem _ member)
      apply (ask_uses trivial).andThen
      intro _
      apply (packChunkFiles_one (fit plan List.mem_cons_self)).bind
      rintro _ ⟨packId, rfl⟩
      exact others.bind fun more held => (packsHold_plan packId plan).append held

theorem packPlansParallel_hold {plans : List (List ChunkRef)}
    (fit : ∀ plan ∈ plans, FitsPack limits plan) :
    (packPlansParallel packing limits plans).Uses (fun _ => True) FullyFed
      fun packs => PacksHold packs plans.flatten := by
  induction plans with
  | nil => exact ⟨by simp, by simp⟩
  | cons plan rest ih =>
      have others := ih fun later member => fit later (List.mem_cons_of_mem _ member)
      apply (ask_uses trivial).andThen
      intro _
      apply (packChunkFiles_one (fit plan List.mem_cons_self)).bind
      rintro _ ⟨packId, rfl⟩
      exact others.bind fun more held => (packsHold_plan packId plan).append held

theorem PacksHold.perm {packs sorted : List BuiltPack} {chunks : List ChunkRef}
    (hold : PacksHold packs chunks) (same : sorted.Perm packs) : PacksHold sorted chunks where
  holds chunk member := by
    obtain ⟨entry, inside, equal⟩ := hold.holds chunk member
    exact ⟨entry, ((same.flatMap_right BuiltPack.entries).mem_iff).mpr inside, equal⟩
  named pack member := hold.named pack (same.mem_iff.mp member)

theorem buildPacks_hold (workers : Nat) (chunks : List ChunkRef) :
    (buildPacks packing workers limits chunks).Uses (fun _ => True) FullyFed
      fun packs => PacksHold packs chunks := by
  unfold buildPacks
  cases planned : planPackChunks limits chunks with
  | error error => trivial
  | ok plans =>
      obtain ⟨covered, fit⟩ := planPackChunks_ok planned
      have among : ∀ chunk ∈ chunks, chunk ∈ plans.flatten := fun chunk member =>
        List.mem_flatten.mpr (covered chunk member)
      show Prog.Uses _ _ _ (if _ then _ else _)
      apply Prog.Uses.ite
      · intro _
        exact (packPlans_hold fit).to_post fun packs hold => hold.mono among
      · intro _
        have fed : (ask (.feedPlans plans.length)).Uses (fun _ => True) FullyFed
            fun handed => handed = plans.length :=
          @ask_answers _ _ (.feedPlans plans.length) _ trivial fun _ all => all
        apply fed.bind
        rintro _ rfl
        rw [List.take_length]
        apply (packPlansParallel_hold fit).bind
        intro packs hold
        exact (hold.mono among).perm (List.perm_insertionSort _ _)

end Packs

theorem exists_mem_destutter' (first : PackIndexEntry) (rest : List PackIndexEntry) :
    ∀ entry ∈ first :: rest,
      ∃ kept ∈ rest.destutter' (fun left right => left.chunkHash ≠ right.chunkHash) first,
        kept.chunkHash = entry.chunkHash := by
  induction rest generalizing first with
  | nil => exact fun entry member => ⟨entry, member, rfl⟩
  | cons second rest ih =>
      intro entry member
      by_cases same : first.chunkHash = second.chunkHash
      · rw [List.destutter'_cons_neg _ (by simpa using same)]
        rcases List.mem_cons.mp member with rfl | later
        · exact ih entry entry List.mem_cons_self
        · rcases List.mem_cons.mp later with rfl | tail
          · obtain ⟨kept, inside, equal⟩ := ih first first List.mem_cons_self
            exact ⟨kept, inside, equal.trans same⟩
          · exact ih first entry (List.mem_cons_of_mem _ tail)
      · rw [List.destutter'_cons_pos _ same]
        rcases List.mem_cons.mp member with rfl | later
        · exact ⟨entry, List.mem_cons_self, rfl⟩
        · obtain ⟨kept, inside, equal⟩ := ih second entry later
          exact ⟨kept, List.mem_cons_of_mem _ inside, equal⟩

theorem exists_mem_mergeIndex {entries : List PackIndexEntry} {entry : PackIndexEntry}
    (member : entry ∈ entries) :
    ∃ kept ∈ mergeIndex entries, kept.chunkHash = entry.chunkHash := by
  have sorted : entry ∈ entries.insertionSort fun left right => left.chunkHash ≤ right.chunkHash := by
    rwa [List.mem_insertionSort]
  unfold mergeIndex
  cases list : entries.insertionSort fun left right => left.chunkHash ≤ right.chunkHash with
  | nil =>
      rw [list] at sorted
      cases sorted
  | cons first rest =>
      rw [list] at sorted
      exact exists_mem_destutter' first rest entry sorted

theorem mem_of_mem_mergeIndex {entries : List PackIndexEntry} {entry : PackIndexEntry}
    (member : entry ∈ mergeIndex entries) : entry ∈ entries := by
  have inside := (List.destutter_sublist _ _).mem member
  rwa [List.mem_insertionSort] at inside

theorem pairwise_lt_of_isChain_ne {hashes : List String} (ordered : hashes.Pairwise (· ≤ ·))
    (apart : hashes.IsChain (· ≠ ·)) : hashes.Pairwise (· < ·) := by
  induction hashes with
  | nil => exact List.Pairwise.nil
  | cons first rest ih =>
      obtain ⟨above, later⟩ := List.pairwise_cons.mp ordered
      refine List.pairwise_cons.mpr ⟨fun hash member => ?_, ih later apart.tail⟩
      cases rest with
      | nil => cases member
      | cons second others =>
          have below : first < second :=
            lt_of_le_of_ne (above second List.mem_cons_self) (List.isChain_cons_cons.mp apart).1
          rcases List.mem_cons.mp member with rfl | tail
          · exact below
          · exact lt_of_lt_of_le below ((List.pairwise_cons.mp later).1 hash tail)

theorem mergeIndex_nodup (entries : List PackIndexEntry) :
    ((mergeIndex entries).map PackIndexEntry.chunkHash).Nodup := by
  have ordered : ((mergeIndex entries).map PackIndexEntry.chunkHash).Pairwise (· ≤ ·) := by
    rw [List.pairwise_map]
    apply List.Pairwise.sublist (List.destutter_sublist _ _)
    exact List.pairwise_insertionSort (fun left right : PackIndexEntry =>
      left.chunkHash ≤ right.chunkHash) entries
  have apart : ((mergeIndex entries).map PackIndexEntry.chunkHash).IsChain (· ≠ ·) := by
    rw [List.isChain_map]
    exact List.isChain_destutter _ _
  exact (pairwise_lt_of_isChain_ne ordered apart).imp fun less => ne_of_lt less

end Noland.Backup
