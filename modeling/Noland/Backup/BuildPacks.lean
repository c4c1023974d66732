import Noland.Pack.RoundTrip
import Noland.Backup.Packs
import Noland.Backup.Workers

/-!
The planner counts headers and records with constants of its own. A plan it makes goes into one
pack, so a worker that keeps only the last pack of a plan keeps all of it.
-/

namespace Noland.Backup.Files

open Noland.Core Noland.Pack

def chunkRef (chunk : String × Bytes) : ChunkRef := ⟨chunk.1, chunk.2.length⟩

def recordBytes (chunk : String × Bytes) : Nat := recordOverheadBytes + chunk.2.length

structure PlanState where
  plans : List (List (String × Bytes)) := []
  current : List (String × Bytes) := []
  bytes : Nat := packHeaderBytes

def PlanState.full (limits : PackLimits) (state : PlanState) (chunk : String × Bytes) : Bool :=
  !state.current.isEmpty &&
    (limits.target ≤ state.bytes || limits.max < state.bytes + recordBytes chunk)

def PlanState.push (limits : PackLimits) (state : PlanState) (chunk : String × Bytes) : PlanState :=
  if state.full limits chunk then
    { plans := state.plans ++ [state.current]
      current := [chunk]
      bytes := packHeaderBytes + recordBytes chunk }
  else
    { state with
      current := state.current ++ [chunk]
      bytes := state.bytes + recordBytes chunk }

def planChunk (limits : PackLimits) (state : PlanState) (chunk : String × Bytes) :
    Except StateError PlanState :=
  if 2 ^ 64 ≤ recordBytes chunk then .error (.message "chunk length exceeds pack format")
  else if 2 ^ 64 ≤ packHeaderBytes + recordBytes chunk ∨
      limits.max < packHeaderBytes + recordBytes chunk then
    .error (.message "chunk exceeds pack hard maximum")
  else .ok (state.push limits chunk)

def PlanState.finish (state : PlanState) : List (List (String × Bytes)) :=
  if state.current.isEmpty then state.plans else state.plans ++ [state.current]

def sortByHash (chunks : List (String × Bytes)) : List (String × Bytes) :=
  chunks.insertionSort fun left right => left.1 ≤ right.1

def planPackChunks (limits : PackLimits) (chunks : List (String × Bytes)) :
    Except StateError (List (List (String × Bytes))) :=
  if limits.target = 0 ∨ limits.max < limits.target then
    .error (.invalid "invalid pack size limits")
  else
    match (sortByHash chunks).foldlM (planChunk limits) {} with
    | .error error => .error error
    | .ok state => .ok state.finish

/-- `pack_chunk_files_with_limits` on a plan, with nothing known. -/
def packFiles (primitives : Primitives) (limits : PackLimits) (plan : List (String × Bytes))
    (supply : Supply) : Except StateError (List Pack.BuiltPack) :=
  packChunkFilesWithLimits primitives supply (fun _ _ => (false, ())) () plan limits.target limits.max

def packPlan (primitives : Primitives) (limits : PackLimits) (plan : List (String × Bytes))
    (supply : Supply) : Except StateError Pack.BuiltPack :=
  match packFiles primitives limits plan supply with
  | .error error => .error error
  | .ok packs =>
      match packs.getLast? with
      | none => .error (.message "pack plan produced no pack")
      | some pack => .ok pack

/-- One worker; `cancelled` and `supplies` are what it finds before each plan. -/
def buildSequential (primitives : Primitives) (limits : PackLimits) (cancelled : Nat → Bool)
    (supplies : Nat → Supply) : Nat → List (List (String × Bytes)) →
    Except StateError (List Pack.BuiltPack)
  | _, [] => .ok []
  | i, plan :: rest =>
      if cancelled i then .error cancellationError
      else
        match packFiles primitives limits plan (supplies i) with
        | .error error => .error error
        | .ok packs =>
            match buildSequential primitives limits cancelled supplies (i + 1) rest with
            | .error error => .error error
            | .ok others => .ok (packs ++ others)

def firstHash (pack : Pack.BuiltPack) : String :=
  (pack.entries.head?.map PackIndexEntry.chunkHash).getD ""

def sortPacks (packs : List Pack.BuiltPack) : List Pack.BuiltPack :=
  packs.insertionSort fun left right => firstHash left ≤ firstHash right

/-- What `build_packs_parallel` may return, when the moves of its pool are
`allowed`. -/
inductive Builds (primitives : Primitives) (limits : PackLimits)
    (allowed : Pool (List (String × Bytes)) Pack.BuiltPack → Move Supply → Prop)
    (chunks : List (String × Bytes)) (workers : Nat) :
    Except StateError (List Pack.BuiltPack) → Prop where
  | refused (error : StateError) (planned : planPackChunks limits chunks = .error error) :
      Builds primitives limits allowed chunks workers (.error error)
  | sequential (plans : List (List (String × Bytes)))
      (planned : planPackChunks limits chunks = .ok plans) (few : plans.length ≤ 1 ∨ workers ≤ 1)
      (cancelled : Nat → Bool) (supplies : Nat → Supply) :
      Builds primitives limits allowed chunks workers
        (buildSequential primitives limits cancelled supplies 0 plans)
  | failing (plans : List (List (String × Bytes)))
      (planned : planPackChunks limits chunks = .ok plans) (many : 1 < plans.length)
      (parallel : 1 < workers) (pool : Pool (List (String × Bytes)) Pack.BuiltPack)
      (steps : Steps .pack (packPlan primitives limits) allowed
        (startPool plans (min workers plans.length)) pool) (error : StateError)
      (returned : pool.outcome = some (.error error)) :
      Builds primitives limits allowed chunks workers (.error error)
  | parallel (plans : List (List (String × Bytes)))
      (planned : planPackChunks limits chunks = .ok plans) (many : 1 < plans.length)
      (parallel : 1 < workers) (pool : Pool (List (String × Bytes)) Pack.BuiltPack)
      (steps : Steps .pack (packPlan primitives limits) allowed
        (startPool plans (min workers plans.length)) pool)
      (built : List (List (String × Bytes) × Pack.BuiltPack))
      (returned : pool.outcome = some (.ok built)) :
      Builds primitives limits allowed chunks workers (.ok (sortPacks (built.map Prod.snd)))

def PlanState.refs (state : PlanState) : Backup.PlanState :=
  { plans := state.plans.map (List.map chunkRef)
    current := state.current.map chunkRef
    bytes := state.bytes }

theorem full_refs (limits : PackLimits) (state : PlanState) (chunk : String × Bytes) :
    state.refs.full limits (chunkRef chunk) = state.full limits chunk := by
  simp only [PlanState.refs, PlanState.full, Backup.PlanState.full, List.isEmpty_map]
  rfl

theorem push_refs (limits : PackLimits) (state : PlanState) (chunk : String × Bytes) :
    (state.push limits chunk).refs = state.refs.push limits (chunkRef chunk) := by
  unfold PlanState.push Backup.PlanState.push
  rw [full_refs]
  split
  · simp [PlanState.refs, recordBytes, planRecordBytes, chunkRef]
  · simp [PlanState.refs, recordBytes, planRecordBytes, chunkRef]

def PlanState.all (state : PlanState) : List (String × Bytes) := state.plans.flatten ++ state.current

theorem all_push_files (limits : PackLimits) (state : PlanState) (chunk : String × Bytes) :
    (state.push limits chunk).all = state.all ++ [chunk] := by
  unfold PlanState.push PlanState.all
  split
  · simp
  · simp

theorem foldlM_planChunk_files {limits : PackLimits} {chunks : List (String × Bytes)}
    {state final : PlanState} (planned : chunks.foldlM (planChunk limits) state = .ok final)
    (sound : state.refs.Sound limits) :
    final.refs.Sound limits ∧ final.all = state.all ++ chunks := by
  induction chunks generalizing state with
  | nil =>
      obtain rfl : state = final := Except.ok.inj planned
      exact ⟨sound, by simp⟩
  | cons chunk rest ih =>
      rw [List.foldlM_cons] at planned
      unfold planChunk at planned
      split at planned
      · cases planned
      · split at planned
        · cases planned
        · rename_i small
          have fits : packHeaderBytes + planRecordBytes (chunkRef chunk) ≤ limits.max := by
            simp only [recordBytes, planRecordBytes, chunkRef] at small ⊢
            omega
          have pushed : (state.push limits chunk).refs.Sound limits := by
            rw [push_refs]
            exact sound_push sound fits
          obtain ⟨later, same⟩ := ih planned pushed
          refine ⟨later, ?_⟩
          rw [same, all_push_files, List.append_assoc]
          rfl

theorem planPackChunks_partition {limits : PackLimits} {chunks : List (String × Bytes)}
    {plans : List (List (String × Bytes))} (planned : planPackChunks limits chunks = .ok plans) :
    plans.flatten = sortByHash chunks ∧ ∀ plan ∈ plans, FitsPack limits (plan.map chunkRef) := by
  unfold planPackChunks at planned
  split at planned
  · cases planned
  · split at planned
    · cases planned
    · rename_i final folded
      obtain rfl := Except.ok.inj planned
      have start : ({} : PlanState).refs.Sound limits :=
        ⟨by simp [PlanState.refs], Or.inl rfl, by simp [plannedBytes, PlanState.refs]⟩
      obtain ⟨sound, all⟩ := foldlM_planChunk_files folded start
      have everything : final.all = sortByHash chunks := by
        simpa [PlanState.all] using all
      unfold PlanState.finish
      split
      · rename_i empty
        rw [List.isEmpty_iff] at empty
        refine ⟨by simpa [PlanState.all, empty] using everything, fun plan member => ?_⟩
        exact sound.plans _ (List.mem_map_of_mem member)
      · rename_i filled
        refine ⟨by simpa [PlanState.all] using everything, fun plan member => ?_⟩
        rcases List.mem_append.mp member with old | new
        · exact sound.plans _ (List.mem_map_of_mem old)
        · rw [List.mem_singleton.mp new]
          refine sound.current.resolve_left fun empty => filled ?_
          have none : final.current = [] := List.map_eq_nil_iff.mp empty
          rw [none]
          rfl

section OnePack

variable {primitives : Primitives} {limits : PackLimits} {supply : Supply}

abbrev writeStep (primitives : Primitives) (supply : Supply) (limits : PackLimits) :
    PackState Unit → String × Bytes → Except StateError (PackState Unit) :=
  packStep primitives supply (fun _ _ => (false, ())) limits.target limits.max

theorem recordLen_eq (chunk : String × Bytes) :
    recordLen chunk.2 = planRecordBytes (chunkRef chunk) := by
  simp only [recordLen, planRecordBytes, chunkRef, recordHeaderLen, nonceLen, aeadTagLen,
    recordOverheadBytes]
  omega

theorem packHeaderLen_eq : packHeaderLen = packHeaderBytes := rfl

theorem writeStep_open {state later : PackState Unit} {pack : Pack.BuiltPack} {bytes : Nat}
    {chunk : String × Bytes} (laws : primitives.Laws) (open_ : state.current = some pack)
    (within : pack.bytes ≤ bytes) (below : bytes < limits.target)
    (room : bytes + planRecordBytes (chunkRef chunk) ≤ limits.max)
    (stepped : writeStep primitives supply limits state chunk = .ok later) :
    later.out = state.out ∧ ∃ written, later.current = some written ∧
      written.bytes ≤ bytes + planRecordBytes (chunkRef chunk) := by
  have unsealed : pack.shouldSeal chunk.2 limits.target limits.max = false := by
    simp only [BuiltPack.shouldSeal, Bool.or_eq_false_iff, decide_eq_false_iff_not, not_le, not_lt,
      recordLen_eq]
    omega
  unfold writeStep packStep at stepped
  simp only [Bool.false_eq_true, if_false] at stepped
  split at stepped
  · cases stepped
  · split at stepped
    · cases stepped
    · unfold PackState.pack at stepped
      simp only [open_, Option.filter, unsealed, Bool.false_eq_true, if_false, Bool.not_false,
        if_true, Option.getD_some] at stepped
      split at stepped
      · cases stepped
      · rename_i written wrote
        obtain rfl := Except.ok.inj stepped
        have grown := writeChunk_bytes laws wrote
        rw [recordLen_eq] at grown
        exact ⟨by simp, written, rfl, by omega⟩

theorem writeStep_first {later : PackState Unit} {chunk : String × Bytes} (laws : primitives.Laws)
    (stepped : writeStep primitives supply limits { known := () } chunk = .ok later) :
    later.out = [] ∧ ∃ written, later.current = some written ∧
      written.bytes ≤ packHeaderBytes + planRecordBytes (chunkRef chunk) := by
  unfold writeStep packStep at stepped
  simp only [Bool.false_eq_true, if_false] at stepped
  split at stepped
  · cases stepped
  · split at stepped
    · cases stepped
    · unfold PackState.pack at stepped
      simp only [Option.filter, Option.getD_none] at stepped
      split at stepped
      · cases stepped
      · rename_i written wrote
        obtain rfl := Except.ok.inj stepped
        have grown := writeChunk_bytes laws wrote
        rw [recordLen_eq] at grown
        exact ⟨by simp, written, rfl, grown⟩

theorem foldlM_writeStep_open {chunks : List (String × Bytes)} {state final : PackState Unit}
    {pack : Pack.BuiltPack} {bytes : Nat} (laws : primitives.Laws)
    (open_ : state.current = some pack) (within : pack.bytes ≤ bytes)
    (fits : FitsFrom limits bytes (chunks.map chunkRef))
    (folded : chunks.foldlM (writeStep primitives supply limits) state = .ok final) :
    final.out = state.out ∧ ∃ written, final.current = some written := by
  induction chunks generalizing state pack bytes with
  | nil =>
      obtain rfl := Except.ok.inj folded
      exact ⟨rfl, pack, open_⟩
  | cons chunk rest ih =>
      obtain ⟨below, room, others⟩ := fits
      rw [List.foldlM_cons] at folded
      cases stepped : writeStep primitives supply limits state chunk with
      | error error =>
          rw [stepped] at folded
          cases folded
      | ok later =>
          rw [stepped] at folded
          obtain ⟨same, written, current, grown⟩ := writeStep_open laws open_ within below room stepped
          obtain ⟨out, last⟩ := ih current grown others folded
          exact ⟨out.trans same, last⟩

theorem packFiles_one {plan : List (String × Bytes)} {packs : List Pack.BuiltPack}
    (laws : primitives.Laws) (fits : FitsPack limits (plan.map chunkRef))
    (packed : packFiles primitives limits plan supply = .ok packs) : ∃ pack, packs = [pack] := by
  unfold packFiles packChunkFilesWithLimits at packed
  split at packed
  · cases packed
  · split at packed
    · cases packed
    · rename_i final folded
      obtain rfl := Except.ok.inj packed
      cases plan with
      | nil => exact fits.elim
      | cons chunk rest =>
          have folded : (chunk :: rest).foldlM (writeStep primitives supply limits) { known := () } =
              .ok final := folded
          rw [List.foldlM_cons] at folded
          cases stepped : writeStep primitives supply limits { known := () } chunk with
          | error error =>
              rw [stepped] at folded
              cases folded
          | ok later =>
              rw [stepped] at folded
              obtain ⟨none, written, current, small⟩ := writeStep_first laws stepped
              obtain ⟨out, last, filled⟩ := foldlM_writeStep_open laws current small fits.2 folded
              exact ⟨last, by rw [out, none, filled]; rfl⟩

theorem packFiles_plan {plan : List (String × Bytes)} {packs : List Pack.BuiltPack}
    (laws : primitives.Laws) (fits : FitsPack limits (plan.map chunkRef))
    (packed : packFiles primitives limits plan supply = .ok packs) :
    ∃ pack, packs = [pack] ∧ pack.entries.map PackIndexEntry.chunkHash = plan.map Prod.fst := by
  obtain ⟨pack, rfl⟩ := packFiles_one laws fits packed
  refine ⟨pack, rfl, ?_⟩
  have everything : ∀ (chunks : List (String × Bytes)),
      unknownChunks (fun (_ : Unit) _ => (false, ())) () chunks = chunks := by
    intro chunks
    induction chunks with
    | nil => rfl
    | cons chunk rest ih =>
        rw [unknownChunks, if_neg Bool.false_ne_true, ih]
  unfold packFiles packChunkFilesWithLimits at packed
  split at packed
  · cases packed
  · split at packed
    · cases packed
    · rename_i final folded
      have hashes := foldlM_packStep_hashes folded
      rw [everything] at hashes
      have packs : final.packs = [pack] := Except.ok.inj packed
      rw [packs] at hashes
      simpa [packedHashes, PackState.packs] using hashes

/-- The pack format has room for the chunk, and neither compression nor
encryption fails. -/
structure Writable (primitives : Primitives) (chunk : String × Bytes) : Prop where
  short : chunk.2.length + aeadTagLen < 2 ^ 32
  compresses : ∀ error, primitives.compress chunk.2 ≠ .error error
  encrypts : ∀ key nonce stored error, primitives.encrypt key chunk.1 nonce stored ≠ .error error

theorem compressChunk_total {plaintext : Bytes}
    (compresses : ∀ error, primitives.compress plaintext ≠ .error error) :
    ∃ compression stored, compressChunk primitives plaintext = .ok (compression, stored) := by
  unfold compressChunk
  split
  · split
    · rename_i error failed
      exact (compresses error failed).elim
    · split
      · exact ⟨_, _, rfl⟩
      · exact ⟨_, _, rfl⟩
  · exact ⟨_, _, rfl⟩

theorem writeChunk_total {pack : Pack.BuiltPack} {nonce : Nonce} {chunk : String × Bytes}
    (laws : primitives.Laws) (writable : Writable primitives chunk) :
    ∃ written, pack.writeChunk primitives nonce chunk.1 chunk.2 = .ok written := by
  have short := writable.short
  obtain ⟨compression, stored, compressed⟩ := compressChunk_total writable.compresses
  have shorter := compressChunk_shorter compressed
  unfold Pack.BuiltPack.writeChunk
  rw [if_neg (by omega), compressed]
  dsimp only
  cases encrypted : primitives.encrypt (primitives.packKey pack.packId) chunk.1 nonce stored with
  | error error => exact (writable.encrypts _ _ _ _ encrypted).elim
  | ok ciphertext =>
      have tagged := laws.encrypt_length _ _ _ _ _ encrypted
      dsimp only
      rw [if_neg (by omega)]
      exact ⟨_, rfl⟩

theorem foldlM_writeStep_total {chunks : List (String × Bytes)} {state : PackState Unit}
    (laws : primitives.Laws) (machine : limits.max < 2 ^ 64)
    (small : ∀ chunk ∈ chunks, packHeaderBytes + planRecordBytes (chunkRef chunk) ≤ limits.max)
    (writable : ∀ chunk ∈ chunks, Writable primitives chunk) :
    ∃ final, chunks.foldlM (writeStep primitives supply limits) state = .ok final := by
  induction chunks generalizing state with
  | nil => exact ⟨state, rfl⟩
  | cons chunk rest ih =>
      have stepped : ∃ later, writeStep primitives supply limits state chunk = .ok later := by
        have fits := small chunk List.mem_cons_self
        rw [← recordLen_eq, ← packHeaderLen_eq] at fits
        unfold writeStep packStep
        simp only [Bool.false_eq_true, if_false]
        rw [if_neg (by omega), if_neg (by omega)]
        unfold PackState.pack
        dsimp only
        obtain ⟨written, wrote⟩ := @writeChunk_total primitives
          ((state.current.filter fun pack =>
            !pack.shouldSeal chunk.2 limits.target limits.max).getD
              (Pack.createPack (supply.uuids state.ids)))
          (supply.nonces state.nonces) chunk laws (writable chunk List.mem_cons_self)
        rw [wrote]
        exact ⟨_, rfl⟩
      obtain ⟨later, done⟩ := stepped
      rw [List.foldlM_cons, done]
      exact ih (fun other member => small other (List.mem_cons_of_mem _ member))
        fun other member => writable other (List.mem_cons_of_mem _ member)

theorem fitsFrom_small {bytes : Nat} {chunks : List ChunkRef} (header : packHeaderBytes ≤ bytes)
    (fits : FitsFrom limits bytes chunks) :
    ∀ chunk ∈ chunks, packHeaderBytes + planRecordBytes chunk ≤ limits.max := by
  induction chunks generalizing bytes with
  | nil => simp
  | cons first rest ih =>
      obtain ⟨below, room, others⟩ := fits
      intro chunk member
      rcases List.mem_cons.mp member with rfl | later
      · omega
      · exact ih (by omega) others chunk later

theorem fitsPack_small {chunks : List ChunkRef} (fits : FitsPack limits chunks) :
    ∀ chunk ∈ chunks, packHeaderBytes + planRecordBytes chunk ≤ limits.max := by
  cases chunks with
  | nil => exact fits.elim
  | cons first rest =>
      intro chunk member
      rcases List.mem_cons.mp member with rfl | later
      · exact fits.1
      · exact fitsFrom_small (by omega) fits.2 chunk later

theorem packFiles_total {plan : List (String × Bytes)} (laws : primitives.Laws)
    (valid : 0 < limits.target ∧ limits.target ≤ limits.max) (machine : limits.max < 2 ^ 64)
    (fits : FitsPack limits (plan.map chunkRef))
    (writable : ∀ chunk ∈ plan, Writable primitives chunk) :
    ∃ packs, packFiles primitives limits plan supply = .ok packs := by
  have small : ∀ chunk ∈ plan, packHeaderBytes + planRecordBytes (chunkRef chunk) ≤ limits.max :=
    fun chunk member => fitsPack_small fits _ (List.mem_map_of_mem member)
  have header : packHeaderLen ≤ limits.max := by
    cases plan with
    | nil => exact fits.elim
    | cons chunk rest =>
        have room := small chunk List.mem_cons_self
        rw [packHeaderLen_eq]
        omega
  obtain ⟨final, folded⟩ := @foldlM_writeStep_total primitives limits supply plan { known := () }
    laws machine small writable
  unfold packFiles packChunkFilesWithLimits
  rw [if_neg (by omega), folded]
  exact ⟨_, rfl⟩

end OnePack

section Built

variable {primitives : Primitives} {limits : PackLimits}

def entryHashes (pack : Pack.BuiltPack) : List String :=
  pack.entries.map PackIndexEntry.chunkHash

theorem packPlan_hashes {plan : List (String × Bytes)} {supply : Supply} {pack : Pack.BuiltPack}
    (laws : primitives.Laws) (fits : FitsPack limits (plan.map chunkRef))
    (packed : packPlan primitives limits plan supply = .ok pack) :
    entryHashes pack = plan.map Prod.fst := by
  unfold packPlan at packed
  split at packed
  · cases packed
  · rename_i packs done
    obtain ⟨only, rfl, hashes⟩ := packFiles_plan laws fits done
    obtain rfl := Except.ok.inj packed
    exact hashes

theorem buildSequential_hashes {plans : List (List (String × Bytes))} {cancelled : Nat → Bool}
    {supplies : Nat → Supply} {i : Nat} {packs : List Pack.BuiltPack} (laws : primitives.Laws)
    (fits : ∀ plan ∈ plans, FitsPack limits (plan.map chunkRef))
    (built : buildSequential primitives limits cancelled supplies i plans = .ok packs) :
    packs.map entryHashes = plans.map (List.map Prod.fst) := by
  induction plans generalizing i packs with
  | nil =>
      obtain rfl := Except.ok.inj built
      rfl
  | cons plan rest ih =>
      unfold buildSequential at built
      split at built
      · cases built
      · split at built
        · cases built
        · rename_i first done
          split at built
          · cases built
          · rename_i others later
            obtain rfl := Except.ok.inj built
            obtain ⟨pack, rfl, hashes⟩ := packFiles_plan laws (fits plan List.mem_cons_self) done
            have tail := ih (fun other member => fits other (List.mem_cons_of_mem _ member)) later
            rw [List.map_append, tail]
            show [entryHashes pack] ++ _ = _
            rw [entryHashes, hashes]
            rfl

theorem builds_hashes {chunks : List (String × Bytes)} {workers : Nat}
    {packs : List Pack.BuiltPack} (laws : primitives.Laws)
    (built : Builds primitives limits (Loud .pack) chunks workers (.ok packs)) :
    ∃ plans, planPackChunks limits chunks = .ok plans ∧
      (packs.map entryHashes).Perm (plans.map (List.map Prod.fst)) := by
  generalize outcome : (Except.ok packs : Except StateError (List Pack.BuiltPack)) = result at built
  cases built with
  | refused error planned => cases outcome
  | failing => cases outcome
  | sequential plans planned few cancelled supplies =>
      obtain ⟨_, fits⟩ := planPackChunks_partition planned
      exact ⟨plans, planned, .of_eq (buildSequential_hashes laws fits outcome.symm)⟩
  | parallel plans planned many several pool steps built returned =>
      obtain ⟨_, fits⟩ := planPackChunks_partition planned
      obtain rfl := Except.ok.inj outcome
      have crew : 0 < pool.workers.length := by
        rw [workers_length_steps steps]
        simp only [startPool, List.length_replicate]
        omega
      obtain ⟨once, genuine⟩ := complete_outcome (complete_steps steps) crew returned
      refine ⟨plans, planned, ?_⟩
      have each : ∀ item ∈ built, entryHashes item.2 = item.1.map Prod.fst := by
        intro item member
        obtain ⟨supply, packed⟩ := genuine item member
        exact packPlan_hashes laws
          (fits item.1 (once.mem_iff.mp (List.mem_map_of_mem member))) packed
      have sorted : ((sortPacks (built.map Prod.snd)).map entryHashes).Perm
          ((built.map Prod.snd).map entryHashes) := (List.perm_insertionSort _ _).map _
      have same : (built.map Prod.snd).map entryHashes =
          (built.map Prod.fst).map (List.map Prod.fst) := by
        rw [List.map_map, List.map_map]
        exact List.map_congr_left each
      rw [same] at sorted
      exact sorted.trans (once.map _)

theorem builds_chunks {chunks : List (String × Bytes)} {workers : Nat}
    {packs : List Pack.BuiltPack} (laws : primitives.Laws)
    (built : Builds primitives limits (Loud .pack) chunks workers (.ok packs)) :
    (packedHashes packs).Perm (chunks.map Prod.fst) := by
  obtain ⟨plans, planned, same⟩ := builds_hashes laws built
  have flat : packedHashes packs = (packs.map entryHashes).flatten := by
    rw [packedHashes, List.flatMap_def, List.map_flatten, List.map_map]
    rfl
  have sorted : (sortByHash chunks).Perm chunks := List.perm_insertionSort _ _
  rw [flat]
  refine same.flatten.trans ?_
  rw [← List.map_flatten, (planPackChunks_partition planned).1]
  exact sorted.map _

/-- A pool that nobody leaves silently on a cancellation and that returns no
error has a result for each job, and every chunk in one of its packs. -/
theorem parallel_pools_complete (primitives : Primitives) (laws : primitives.Laws) :
    (∀ (Job Result World : Type) (work : Job → World → Except StateError Result)
        (jobs : List Job) (workers : Nat) (pool : Pool Job Result) (results : List (Job × Result)),
      Steps .hash work (Loud .hash) (startPool jobs (max workers 1)) pool →
      pool.outcome = some (.ok results) →
        (results.map Prod.fst).Perm jobs ∧
          ∀ item ∈ results, ∃ world, work item.1 world = .ok item.2) ∧
    ∀ (limits : PackLimits) (chunks : List (String × Bytes)) (workers : Nat)
        (packs : List Pack.BuiltPack),
      Builds primitives limits (Loud .pack) chunks workers (.ok packs) →
        (packedHashes packs).Perm (chunks.map Prod.fst) := by
  constructor
  · intro Job Result World work jobs workers pool results steps returned
    have crew : 0 < pool.workers.length := by
      rw [workers_length_steps steps]
      simp only [startPool, List.length_replicate]
      omega
    exact complete_outcome (complete_steps steps) crew returned
  · intro limits chunks workers packs built
    exact builds_chunks laws built

/-- The planner and the writer agree on what goes into a pack, so the branches of
`build_packs_parallel` agree on the chunks of the packs. -/
theorem parallel_packing_agrees (laws : primitives.Laws)
    (valid : 0 < limits.target ∧ limits.target ≤ limits.max) (machine : limits.max < 2 ^ 64)
    (chunks : List (String × Bytes)) (plans : List (List (String × Bytes)))
    (planned : planPackChunks limits chunks = .ok plans) :
    plans.flatten = sortByHash chunks ∧
    (∀ plan ∈ plans, ∀ supply,
      (∀ packs, packFiles primitives limits plan supply = .ok packs →
        ∃ pack, packs = [pack] ∧ entryHashes pack = plan.map Prod.fst) ∧
      ((∀ chunk ∈ plan, Writable primitives chunk) →
        ∃ pack, packFiles primitives limits plan supply = .ok [pack])) ∧
    ∀ (several one : Nat) (fast slow : List Pack.BuiltPack),
      Builds primitives limits (Loud .pack) chunks several (.ok fast) →
      Builds primitives limits (Loud .pack) chunks one (.ok slow) →
        (fast.map entryHashes).Perm (slow.map entryHashes) := by
  obtain ⟨partition, fits⟩ := planPackChunks_partition planned
  refine ⟨partition, fun plan member supply => ⟨fun packs packed => ?_, fun writable => ?_⟩, ?_⟩
  · exact packFiles_plan laws (fits plan member) packed
  · obtain ⟨packs, packed⟩ := @packFiles_total primitives limits supply plan laws valid machine
      (fits plan member) writable
    obtain ⟨pack, rfl⟩ := packFiles_one laws (fits plan member) packed
    exact ⟨pack, packed⟩
  · intro several one fast slow quickly slowly
    obtain ⟨first, planned_first, left⟩ := builds_hashes laws quickly
    obtain ⟨second, planned_second, right⟩ := builds_hashes laws slowly
    obtain rfl : first = second := Except.ok.inj (planned_first.symm.trans planned_second)
    exact left.trans right.symm

end Built

namespace Sample

def limits : PackLimits := ⟨78, 1200⟩

def chunks : List (String × Bytes) := [("a", [1, 2, 3]), ("b", [4, 5, 6])]

def work (job : Nat) (_ : Unit) : Except StateError Nat := .ok job

def handOut {World : Type} : List (Move World) := [.feed, .feed, .feed]

def serve {World : Type} (worker : Nat) (world : World) : List (Move World) :=
  List.replicate 8 (.work worker world)

def collectTwo {World : Type} : List (Move World) := List.replicate 4 .coordinate

def allMoves : List (Move Unit) :=
  handOut ++ handOut ++ [.feed] ++ serve 0 () ++ [.work 0 ()] ++ serve 0 () ++
    List.replicate 3 (.work 0 ()) ++ collectTwo

def cancelledMoves : List (Move Unit) :=
  handOut ++ serve 0 () ++ [.requestCancel, .work 0 (), .feed, .coordinate, .coordinate, .coordinate]

def cancelledPacking : List (Move Supply) :=
  handOut ++ serve 0 Pack.Sample.supply ++ [.requestCancel, .feed] ++
    List.replicate 3 (.work 0 Pack.Sample.supply) ++ List.replicate 2 (.work 1 Pack.Sample.supply) ++
    [.coordinate, .coordinate, .coordinate]

def plans : List (List (String × Bytes)) := [[("a", [1, 2, 3])], [("b", [4, 5, 6])]]

theorem chunks_planned : planPackChunks limits chunks = .ok plans := by rfl

end Sample

theorem parallel_pools_complete_two :
    (∃ pool results, Steps .hash Sample.work (Loud .hash) (startPool [1, 2] (max 1 1)) pool ∧
      pool.outcome = some (.ok results) ∧ (results.map Prod.fst).Perm [1, 2]) ∧
    ∃ packs, Builds Pack.Sample.primitives Sample.limits (Loud .pack) Sample.chunks 1 (.ok packs) ∧
      (packedHashes packs).Perm (Sample.chunks.map Prod.fst) := by
  obtain ⟨hashing, packing⟩ := parallel_pools_complete Pack.Sample.primitives
    Pack.Sample.primitives_laws
  constructor
  · have done : (((startPool [1, 2] (max 1 1) : Pool Nat Nat).follow .hash Sample.work (Loud .hash)
        Sample.allMoves).bind Pool.okResults).map List.length = some 2 := by decide +kernel
    obtain ⟨pool, results, steps, returned, _⟩ := follow_returns done
    exact ⟨pool, results, steps, returned,
      (hashing _ _ _ Sample.work [1, 2] 1 pool results steps returned).1⟩
  · have done : (buildSequential Pack.Sample.primitives Sample.limits (fun _ => false)
        (fun _ => Pack.Sample.supply) 0 Sample.plans).isOk = true := by decide +kernel
    have built := @Builds.sequential Pack.Sample.primitives Sample.limits (Loud .pack) Sample.chunks 1
      Sample.plans Sample.chunks_planned (Or.inr (Nat.le_refl 1)) (fun _ => false)
      fun _ => Pack.Sample.supply
    cases sequential : buildSequential Pack.Sample.primitives Sample.limits (fun _ => false)
        (fun _ => Pack.Sample.supply) 0 Sample.plans with
    | error error =>
        rw [sequential] at done
        cases done
    | ok packs =>
        rw [sequential] at built
        exact ⟨packs, built, packing _ _ _ _ built⟩

/-- A cancellation between two jobs goes unreported. -/
theorem cancellation_loses_jobs :
    (∃ pool results, Steps .hash Sample.work (fun _ _ => True) (startPool [1, 2] (max 1 1)) pool ∧
      pool.outcome = some (.ok results) ∧ ¬ (results.map Prod.fst).Perm [1, 2]) ∧
    ∃ packs, Builds Pack.Sample.primitives Sample.limits (fun _ _ => True) Sample.chunks 2
        (.ok packs) ∧ ¬ (packedHashes packs).Perm (Sample.chunks.map Prod.fst) := by
  constructor
  · have done : (((startPool [1, 2] (max 1 1) : Pool Nat Nat).follow .hash Sample.work
        (fun _ _ => True) Sample.cancelledMoves).bind Pool.okResults).map (List.map Prod.fst) =
          some [1] := by decide +kernel
    obtain ⟨pool, results, steps, returned, only⟩ := follow_returns done
    refine ⟨pool, results, steps, returned, ?_⟩
    rw [only]
    decide
  · have done : (((startPool Sample.plans (min 2 Sample.plans.length) :
        Pool (List (String × Bytes)) Pack.BuiltPack).follow .pack
          (packPlan Pack.Sample.primitives Sample.limits) (fun _ _ => True)
          Sample.cancelledPacking).bind Pool.okResults).map
            (fun results => packedHashes (sortPacks (results.map Prod.snd))) = some ["a"] := by
      decide +kernel
    obtain ⟨pool, results, steps, returned, only⟩ := follow_returns done
    refine ⟨_, Builds.parallel Sample.plans Sample.chunks_planned (by decide) (by decide) pool steps
      results returned, ?_⟩
    rw [only]
    decide

theorem parallel_packing_agrees_two :
    ∃ plans, planPackChunks Sample.limits Sample.chunks = .ok plans ∧
      plans.flatten = sortByHash Sample.chunks ∧ ∀ plan ∈ plans,
        ∃ pack, packFiles Pack.Sample.primitives Sample.limits plan Pack.Sample.supply = .ok [pack] := by
  obtain ⟨partition, each, _⟩ := parallel_packing_agrees Pack.Sample.primitives_laws
    (by decide : 0 < Sample.limits.target ∧ Sample.limits.target ≤ Sample.limits.max) (by decide)
    Sample.chunks Sample.plans Sample.chunks_planned
  refine ⟨Sample.plans, Sample.chunks_planned, partition, fun plan member => ?_⟩
  apply (each plan member Pack.Sample.supply).2
  intro chunk inside
  have short : ∀ plan ∈ Sample.plans, ∀ chunk ∈ plan, chunk.2.length + aeadTagLen < 2 ^ 32 := by
    decide
  exact ⟨short plan member chunk inside, fun error => by simp [Pack.Sample.primitives],
    fun key nonce stored error => by simp [Pack.Sample.primitives]⟩

theorem planPackChunks_single {limits : PackLimits} {chunk : String × Bytes}
    (valid : 0 < limits.target ∧ limits.target ≤ limits.max) (machine : limits.max < 2 ^ 64)
    (fits : packHeaderBytes + recordBytes chunk ≤ limits.max) :
    planPackChunks limits [chunk] = .ok [[chunk]] := by
  unfold planPackChunks
  rw [if_neg (by omega)]
  show (match ([chunk].foldlM (planChunk limits) {} : Except StateError PlanState) with
    | .error error => _
    | .ok state => _) = _
  rw [List.foldlM_cons, planChunk, if_neg (by omega), if_neg (by omega)]
  rfl

theorem packFiles_refuses {primitives : Primitives} {limits : PackLimits} {chunk : String × Bytes}
    {supply : Supply} (long : 2 ^ 32 ≤ chunk.2.length) (packs : List Pack.BuiltPack) :
    packFiles primitives limits [chunk] supply ≠ .ok packs := by
  intro packed
  unfold packFiles packChunkFilesWithLimits at packed
  split at packed
  · cases packed
  · split at packed
    · cases packed
    · rename_i final folded
      rw [List.foldlM_cons] at folded
      cases stepped : writeStep primitives supply limits { known := () } chunk with
      | error error =>
          have failed : (Except.error error >>= fun later =>
              [].foldlM (writeStep primitives supply limits) later) = .ok final := by
            rw [← stepped]
            exact folded
          cases failed
      | ok later =>
          obtain ⟨_, step⟩ := packStep_ok stepped
          rw [if_neg Bool.false_ne_true] at step
          have wrote := step.2
          unfold PackState.pack at wrote
          dsimp only at wrote
          rw [Pack.BuiltPack.writeChunk, if_pos long] at wrote
          cases wrote

/-- The lengths in a record have 32 bits. -/
theorem long_chunk_not_packed :
    ¬ ∀ (limits : PackLimits) (chunks : List (String × Bytes)) (plans : List (List (String × Bytes))),
      0 < limits.target ∧ limits.target ≤ limits.max → planPackChunks limits chunks = .ok plans →
        ∀ plan ∈ plans, ∃ pack,
          packFiles Pack.Sample.primitives limits plan Pack.Sample.supply = .ok [pack] := by
  intro packs
  obtain ⟨payload, length⟩ : ∃ payload : Bytes, payload.length = 2 ^ 32 :=
    ⟨List.replicate (2 ^ 32) 0, List.length_replicate⟩
  have planned : planPackChunks ⟨2 ^ 33, 2 ^ 33⟩ [("a", payload)] = .ok [[("a", payload)]] := by
    apply planPackChunks_single
    · decide
    · decide
    · simp only [packHeaderBytes, recordBytes, recordOverheadBytes, length]
      decide
  obtain ⟨pack, packed⟩ := packs _ _ _ (by decide) planned [("a", payload)] List.mem_cons_self
  exact packFiles_refuses (by rw [length]) _ packed

end Noland.Backup.Files
