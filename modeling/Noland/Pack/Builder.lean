import Noland.Lib.Machine
import Noland.Lib.Requests
import Noland.Pack.RoundTrip

/-!
Sealing takes the chunks out first and may fail at each file operation; a chunk offered to a full
builder is not kept and nothing says so.
-/

namespace Noland.Pack

open Noland.Core Noland.Machine
open Noland.Requests (bind_ok)

abbrev Chunk := String × Bytes

def packTarget : Nat := 512 * 1024 * 1024

def packMax : Nat := 1024 * 1024 * 1024

/-- What one call of `seal_pack` meets: the id and nonces that are drawn, and what the file
operations return. -/
structure SealAttempt where
  id : Uuid
  nonces : Nat → Nonce
  create : Except StateError Unit := .ok ()
  write : Nat → Except StateError Unit := fun _ => .ok ()
  flush : Except StateError Unit := .ok ()

def writePending (primitives : Primitives) (attempt : SealAttempt) :
    Nat → BuiltPack → List Chunk → Except StateError BuiltPack
  | _, pack, [] => .ok pack
  | index, pack, chunk :: rest => do
      let written ← pack.writeChunk primitives (attempt.nonces index) chunk.1 chunk.2
      attempt.write index
      writePending primitives attempt (index + 1) written rest

def sealPack (primitives : Primitives) (attempt : SealAttempt) (pending : List Chunk) :
    Except StateError BuiltPack := do
  attempt.create
  let pack ← writePending primitives attempt 0 (createPack attempt.id) pending
  attempt.flush
  if packMax < pack.bytes then .error (.message "pack exceeded 1 GiB hard maximum") else .ok pack

structure PackBuilder where
  target : Nat
  max : Nat
  current : List Chunk := []
  currentSize : Nat := 0
  finished : List BuiltPack := []

def PackBuilder.withLimits (target max : Nat) : PackBuilder := { target := target, max := max }

def PackBuilder.new : PackBuilder := PackBuilder.withLimits packTarget packMax

def PackBuilder.push (builder : PackBuilder) (chunk : Chunk) : PackBuilder :=
  { builder with
    currentSize := builder.currentSize + chunk.2.length
    current := builder.current ++ [chunk] }

/-- `add_chunk`; nothing is returned where it panics. -/
def PackBuilder.addChunk (builder : PackBuilder) (chunk : Chunk) : Option PackBuilder :=
  if builder.max < builder.currentSize + chunk.2.length ∧ builder.current ≠ [] then none
  -- the chunk is dropped here
  else if builder.target ≤ builder.currentSize ∧ builder.current ≠ [] then some builder
  else some (builder.push chunk)

def PackBuilder.flush (primitives : Primitives) (attempt : SealAttempt) (builder : PackBuilder) :
    Except StateError (Option BuiltPack) × PackBuilder :=
  if builder.current = [] then (.ok none, builder)
  else
    match sealPack primitives attempt builder.current with
    | .error error => (.error error, { builder with current := [] })
    | .ok pack =>
        (.ok (some pack),
          { builder with
            current := []
            currentSize := 0
            finished := builder.finished ++ [pack] })

section Packing

variable {Known : Type}

/-- The loop of `pack_chunks`, with how many packs were sealed and what the predicate
remembers. -/
structure PackingState (Known : Type) where
  builder : PackBuilder := PackBuilder.new
  out : List BuiltPack := []
  attempts : Nat := 0
  known : Known

def PackingState.flush (primitives : Primitives) (attempts : Nat → SealAttempt)
    (state : PackingState Known) : Except StateError (PackingState Known) :=
  match state.builder.flush primitives (attempts state.attempts) with
  | (.error error, _) => .error error
  | (.ok pack, builder) =>
      .ok { state with
        builder := builder
        out := state.out ++ pack.toList
        attempts := state.attempts + 1 }

def PackingState.flushIf (primitives : Primitives) (attempts : Nat → SealAttempt)
    (state : PackingState Known) (condition : Prop) [Decidable condition] :
    Except StateError (PackingState Known) :=
  if condition then state.flush primitives attempts else .ok state

def packingStep (primitives : Primitives) (attempts : Nat → SealAttempt)
    (known : Known → String → Bool × Known) (state : PackingState Known) (chunk : Chunk) :
    Except StateError (PackingState Known) :=
  let (skip, remembered) := known state.known chunk.1
  let state := { state with known := remembered }
  if skip then .ok state
  else do
    let state ← state.flushIf primitives attempts
      (state.builder.max < state.builder.currentSize + chunk.2.length ∧ state.builder.current ≠ [])
    let state ← state.flushIf primitives attempts
      (state.builder.target ≤ state.builder.currentSize ∧ state.builder.current ≠ [])
    .ok { state with builder := state.builder.push chunk }

def packChunks (primitives : Primitives) (attempts : Nat → SealAttempt)
    (known : Known → String → Bool × Known) (start : Known) (chunks : List Chunk) :
    Except StateError (List BuiltPack) := do
  let state ← chunks.foldlM (packingStep primitives attempts known) { known := start }
  let state ← state.flush primitives attempts
  .ok state.out

end Packing

inductive Written (primitives : Primitives) : BuiltPack → List Chunk → Prop where
  | created (id : Uuid) : Written primitives (createPack id) []
  | wrote {pack written : BuiltPack} {group : List Chunk} {nonce : Nonce} {chunk : Chunk}
      (before : Written primitives pack group)
      (writes : pack.writeChunk primitives nonce chunk.1 chunk.2 = .ok written) :
      Written primitives written (group ++ [chunk])

def Sealed (primitives : Primitives) (pack : BuiltPack) (group : List Chunk) : Prop :=
  Written primitives pack group ∧ pack.bytes ≤ packMax

section Writing

variable {primitives : Primitives}

theorem Written.length {pack : BuiltPack} {group : List Chunk}
    (written : Written primitives pack group) : pack.entries.length = group.length := by
  induction written with
  | created id => rfl
  | wrote before writes ih =>
      obtain ⟨_, _, _, _, _, rfl⟩ := writeChunk_ok writes
      simp [BuiltPack.append, ih]

theorem writePending_written {attempt : SealAttempt} {pending : List Chunk} {index : Nat}
    {pack sealed : BuiltPack} {group : List Chunk} (written : Written primitives pack group)
    (done : writePending primitives attempt index pack pending = .ok sealed) :
    Written primitives sealed (group ++ pending) := by
  induction pending generalizing index pack group with
  | nil =>
      obtain rfl := Except.ok.inj done
      rw [List.append_nil]
      exact written
  | cons chunk rest ih =>
      unfold writePending at done
      obtain ⟨later, wrote, done⟩ := bind_ok done
      obtain ⟨_, _, done⟩ := bind_ok done
      rw [List.append_cons]
      exact ih (written.wrote wrote) done

theorem sealPack_sealed {attempt : SealAttempt} {pending : List Chunk} {pack : BuiltPack}
    (done : sealPack primitives attempt pending = .ok pack) : Sealed primitives pack pending := by
  unfold sealPack at done
  obtain ⟨_, _, done⟩ := bind_ok done
  obtain ⟨written, wrote, done⟩ := bind_ok done
  obtain ⟨_, _, done⟩ := bind_ok done
  split at done
  · cases done
  · rename_i small
    obtain rfl := Except.ok.inj done
    exact ⟨writePending_written (Written.created attempt.id) wrote, Nat.le_of_not_lt small⟩

end Writing

structure BuilderRun where
  builder : PackBuilder
  packs : List BuiltPack := []
  accepted : List Chunk := []

inductive BuilderCall where
  | addChunk (chunk : Chunk)
  | flush (attempt : SealAttempt)

namespace BuilderRun

def step (primitives : Primitives) (run : BuilderRun) : BuilderCall → BuilderRun
  | .addChunk chunk =>
      match run.builder.addChunk chunk with
      | some builder => { run with builder := builder, accepted := run.accepted ++ [chunk] }
      | none => run
  | .flush attempt =>
      { run with
        builder := (run.builder.flush primitives attempt).2
        packs := run.packs ++
          match (run.builder.flush primitives attempt).1 with
          | .ok (some pack) => [pack]
          | _ => [] }

def Conserved (primitives : Primitives) (run : BuilderRun) : Prop :=
  ∃ groups, List.Forall₂ (Sealed primitives) run.packs groups ∧
    groups.flatten ++ run.builder.current = run.accepted

/-- After the call every accepted chunk is in one of the packs or waits, and a flush that
failed has changed nothing. -/
def Upholds (primitives : Primitives) (run : BuilderRun) (call : BuilderCall) : Prop :=
  (run.step primitives call).Conserved primitives ∧
    match call with
    | .addChunk _ => True
    | .flush attempt =>
        (∃ error, (run.builder.flush primitives attempt).1 = .error error) →
          (run.builder.flush primitives attempt).2.current = run.builder.current ∧
            (run.builder.flush primitives attempt).2.currentSize = run.builder.currentSize

/-- Nothing is added to a builder that has reached its target, unless the call panics; and
waiting chunks are flushed only where sealing them succeeds. -/
def Careful (primitives : Primitives) (run : BuilderRun) : BuilderCall → Prop
  | .addChunk chunk =>
      run.builder.current ≠ [] → run.builder.target ≤ run.builder.currentSize →
        run.builder.max < run.builder.currentSize + chunk.2.length
  | .flush attempt =>
      run.builder.current ≠ [] → ∃ pack, sealPack primitives attempt run.builder.current = .ok pack

end BuilderRun

section Runs

variable {primitives : Primitives} {run : BuilderRun}

theorem groups_length {packs : List BuiltPack} {groups : List (List Chunk)}
    (held : List.Forall₂ (Sealed primitives) packs groups) :
    groups.flatten.length = (packs.flatMap BuiltPack.entries).length := by
  induction held with
  | nil => rfl
  | cons sealed rest ih =>
      rw [List.flatten_cons, List.flatMap_cons, List.length_append, List.length_append, ih,
        sealed.1.length]

theorem conserved_length (conserved : run.Conserved primitives) :
    (run.packs.flatMap BuiltPack.entries).length + run.builder.current.length =
      run.accepted.length := by
  obtain ⟨groups, held, whole⟩ := conserved
  rw [← whole, List.length_append, groups_length held]

theorem conserved_push (conserved : run.Conserved primitives) (chunk : Chunk) :
    BuilderRun.Conserved primitives
      { run with builder := run.builder.push chunk, accepted := run.accepted ++ [chunk] } := by
  obtain ⟨groups, held, whole⟩ := conserved
  refine ⟨groups, held, ?_⟩
  show groups.flatten ++ (run.builder.current ++ [chunk]) = run.accepted ++ [chunk]
  rw [← List.append_assoc, whole]

theorem conserved_seal (conserved : run.Conserved primitives) {attempt : SealAttempt}
    {pack : BuiltPack} (sealed : sealPack primitives attempt run.builder.current = .ok pack)
    {builder : PackBuilder} (emptied : builder.current = []) :
    BuilderRun.Conserved primitives
      { run with builder := builder, packs := run.packs ++ [pack] } := by
  obtain ⟨groups, held, whole⟩ := conserved
  refine ⟨groups ++ [run.builder.current], ?_, ?_⟩
  · exact List.rel_append held (List.Forall₂.cons (sealPack_sealed sealed) List.Forall₂.nil)
  · show (groups ++ [run.builder.current]).flatten ++ builder.current = run.accepted
    rw [emptied, List.append_nil, List.flatten_append, List.flatten_singleton, whole]

theorem upholds_addChunk_iff (conserved : run.Conserved primitives) (chunk : Chunk) :
    run.Upholds primitives (.addChunk chunk) ↔ run.Careful primitives (.addChunk chunk) := by
  simp only [BuilderRun.Upholds, BuilderRun.Careful, BuilderRun.step, PackBuilder.addChunk,
    and_true]
  by_cases waiting : run.builder.current = []
  · simp only [waiting, ne_eq, not_true_eq_false, and_false, if_false, false_implies, iff_true]
    exact conserved_push conserved chunk
  · by_cases over_max : run.builder.max < run.builder.currentSize + chunk.2.length
    · simp only [over_max, waiting, ne_eq, not_false_eq_true, and_self, if_true, implies_true,
        iff_true]
      exact conserved
    · by_cases full : run.builder.target ≤ run.builder.currentSize
      · simp only [over_max, full, waiting, ne_eq, not_false_eq_true, and_true, if_false, if_true,
          true_implies, iff_false]
        intro kept
        have before := conserved_length conserved
        have after := conserved_length kept
        simp only [List.length_append, List.length_singleton] at after
        omega
      · simp only [over_max, full, false_and, if_false, false_implies, implies_true, iff_true]
        exact conserved_push conserved chunk

theorem upholds_flush_iff (conserved : run.Conserved primitives) (attempt : SealAttempt) :
    run.Upholds primitives (.flush attempt) ↔ run.Careful primitives (.flush attempt) := by
  simp only [BuilderRun.Upholds, BuilderRun.Careful, BuilderRun.step, PackBuilder.flush]
  by_cases waiting : run.builder.current = []
  · simp only [waiting, if_true, ne_eq, not_true_eq_false, false_implies, iff_true,
      List.append_nil]
    exact ⟨conserved, fun _ => ⟨trivial, trivial⟩⟩
  · simp only [waiting, if_false]
    cases sealed : sealPack primitives attempt run.builder.current with
    | error error =>
        constructor
        · rintro ⟨_, unchanged⟩
          exact absurd (unchanged ⟨error, rfl⟩).1.symm waiting
        · intro succeeds
          obtain ⟨pack, other⟩ := succeeds waiting
          cases other
    | ok pack =>
        constructor
        · intro _ _
          exact ⟨pack, rfl⟩
        · intro _
          refine ⟨conserved_seal conserved sealed rfl, ?_⟩
          rintro ⟨error, failed⟩
          cases failed

theorem upholds_iff (conserved : run.Conserved primitives) (call : BuilderCall) :
    run.Upholds primitives call ↔ run.Careful primitives call := by
  cases call with
  | addChunk chunk => exact upholds_addChunk_iff conserved chunk
  | flush attempt => exact upholds_flush_iff conserved attempt

end Runs

section Loop

variable {primitives : Primitives} {attempts : Nat → SealAttempt} {Known : Type}
  {known : Known → String → Bool × Known}

def PackingState.Holds (primitives : Primitives) (state : PackingState Known)
    (taken : List Chunk) : Prop :=
  ∃ groups, List.Forall₂ (Sealed primitives) state.out groups ∧
    groups.flatten ++ state.builder.current = taken

theorem flush_holds {state later : PackingState Known} {taken : List Chunk}
    (holds : state.Holds primitives taken) (flushed : state.flush primitives attempts = .ok later) :
    later.Holds primitives taken ∧ later.builder.current = [] ∧ later.known = state.known := by
  unfold PackingState.flush PackBuilder.flush at flushed
  by_cases waiting : state.builder.current = []
  · rw [if_pos waiting] at flushed
    obtain rfl := Except.ok.inj flushed
    refine ⟨?_, waiting, rfl⟩
    obtain ⟨groups, held, whole⟩ := holds
    refine ⟨groups, ?_, whole⟩
    simpa using held
  · rw [if_neg waiting] at flushed
    cases sealed : sealPack primitives (attempts state.attempts) state.builder.current with
    | error error =>
        rw [sealed] at flushed
        cases flushed
    | ok pack =>
        rw [sealed] at flushed
        obtain rfl := Except.ok.inj flushed
        refine ⟨?_, rfl, rfl⟩
        obtain ⟨groups, held, whole⟩ := holds
        refine ⟨groups ++ [state.builder.current], ?_, ?_⟩
        · exact List.rel_append held (List.Forall₂.cons (sealPack_sealed sealed) List.Forall₂.nil)
        · rw [List.append_nil, List.flatten_append, List.flatten_singleton, whole]

theorem flushIf_holds {state later : PackingState Known} {taken : List Chunk} {condition : Prop}
    [Decidable condition] (holds : state.Holds primitives taken)
    (done : state.flushIf primitives attempts condition = .ok later) :
    later.Holds primitives taken ∧ later.known = state.known := by
  unfold PackingState.flushIf at done
  split at done
  · obtain ⟨held, _, same⟩ := flush_holds holds done
    exact ⟨held, same⟩
  · obtain rfl := Except.ok.inj done
    exact ⟨holds, rfl⟩

theorem packingStep_holds {state later : PackingState Known} {taken : List Chunk} {chunk : Chunk}
    (holds : state.Holds primitives taken)
    (stepped : packingStep primitives attempts known state chunk = .ok later) :
    later.Holds primitives (taken ++ if (known state.known chunk.1).1 then [] else [chunk]) ∧
      later.known = (known state.known chunk.1).2 := by
  unfold packingStep at stepped
  dsimp only at stepped
  by_cases skip : (known state.known chunk.1).1 = true
  · rw [if_pos skip] at stepped
    obtain rfl := Except.ok.inj stepped
    rw [if_pos skip, List.append_nil]
    exact ⟨holds, rfl⟩
  · rw [if_neg skip] at stepped
    rw [if_neg skip]
    have started : PackingState.Holds primitives
        { state with known := (known state.known chunk.1).2 } taken := holds
    obtain ⟨sized, first, stepped⟩ := bind_ok stepped
    obtain ⟨sized_holds, sized_known⟩ := flushIf_holds started first
    obtain ⟨below, second, stepped⟩ := bind_ok stepped
    obtain ⟨below_holds, below_known⟩ := flushIf_holds sized_holds second
    obtain rfl := Except.ok.inj stepped
    refine ⟨?_, below_known.trans sized_known⟩
    obtain ⟨groups, held, whole⟩ := below_holds
    refine ⟨groups, held, ?_⟩
    show groups.flatten ++ (below.builder.current ++ [chunk]) = taken ++ [chunk]
    rw [← List.append_assoc, whole]

theorem foldlM_packingStep_holds {chunks : List Chunk} {state final : PackingState Known}
    {taken : List Chunk} (holds : state.Holds primitives taken)
    (folded : chunks.foldlM (packingStep primitives attempts known) state = .ok final) :
    final.Holds primitives (taken ++ unknownChunks known state.known chunks) := by
  induction chunks generalizing state taken with
  | nil =>
      obtain rfl := Except.ok.inj folded
      rw [unknownChunks, List.append_nil]
      exact holds
  | cons chunk rest ih =>
      rw [List.foldlM_cons] at folded
      obtain ⟨later, stepped, folded⟩ := bind_ok folded
      obtain ⟨held, remembered⟩ := packingStep_holds holds stepped
      have whole := ih held folded
      rw [remembered, List.append_assoc] at whole
      rw [unknownChunks]
      split
      · rename_i skip
        rw [if_pos skip, List.nil_append] at whole
        exact whole
      · rename_i new
        rw [if_neg new, List.singleton_append] at whole
        exact whole

theorem packChunks_sealed {start : Known} {chunks : List Chunk} {packs : List BuiltPack}
    (packed : packChunks primitives attempts known start chunks = .ok packs) :
    ∃ groups, List.Forall₂ (Sealed primitives) packs groups ∧
      groups.flatten = unknownChunks known start chunks := by
  unfold packChunks at packed
  obtain ⟨state, folded, packed⟩ := bind_ok packed
  obtain ⟨final, flushed, packed⟩ := bind_ok packed
  obtain rfl := Except.ok.inj packed
  have empty : PackingState.Holds primitives ({ known := start } : PackingState Known) [] :=
    ⟨[], List.Forall₂.nil, rfl⟩
  obtain ⟨held, emptied, _⟩ := flush_holds (foldlM_packingStep_holds empty folded) flushed
  obtain ⟨groups, each, whole⟩ := held
  rw [emptied, List.append_nil, List.nil_append] at whole
  exact ⟨groups, each, whole⟩

end Loop

/-- Every accepted chunk stays in one pack or waits, and failed flushes change nothing, exactly if
no call offers a chunk to a full builder and no flush of waiting chunks fails. The packs of
`pack_chunks` hold each chunk once and keep the hard maximum. -/
theorem pack_builder_conserves_iff (primitives : Primitives) (target max : Nat)
    (calls : List BuilderCall) :
    (Along (BuilderRun.step primitives) (BuilderRun.Upholds primitives)
        ⟨PackBuilder.withLimits target max, [], []⟩ calls ↔
      Along (BuilderRun.step primitives) (BuilderRun.Careful primitives)
        ⟨PackBuilder.withLimits target max, [], []⟩ calls) ∧
    ∀ (Known : Type) (known : Known → String → Bool × Known) (start : Known)
      (attempts : Nat → SealAttempt) (chunks : List Chunk) (packs : List BuiltPack),
      packChunks primitives attempts known start chunks = .ok packs →
        (∀ pack ∈ packs, pack.bytes ≤ packMax) ∧
          ∃ groups, List.Forall₂ (Written primitives) packs groups ∧
            groups.flatten = unknownChunks known start chunks := by
  constructor
  · have kept : ∀ (run : BuilderRun) (call : BuilderCall), run.Conserved primitives →
        run.Careful primitives call → (run.step primitives call).Conserved primitives := by
      intro run call conserved careful
      exact ((upholds_iff conserved call).mpr careful).1
    have same : ∀ (run : BuilderRun) (call : BuilderCall), run.Conserved primitives →
        (run.Upholds primitives call ↔ run.Careful primitives call) :=
      fun _ call conserved => upholds_iff conserved call
    exact along_iff_along kept same ⟨[], List.Forall₂.nil, rfl⟩ calls
  · intro Known known start attempts chunks packs packed
    obtain ⟨groups, held, whole⟩ := packChunks_sealed packed
    have small : List.Forall₂ (fun (pack : BuiltPack) (_ : List Chunk) =>
        pack.bytes ≤ packMax ∧ True) packs groups := held.imp fun _ _ sealed => ⟨sealed.2, trivial⟩
    exact ⟨((List.forall₂_and_left _ _).mp small).1, groups,
      held.imp fun _ _ sealed => sealed.1, whole⟩

namespace Sample

def attempt : SealAttempt where
  id := supply.uuids 0
  nonces := supply.nonces

def failingAttempt : SealAttempt := { attempt with create := .error (.io .other) }

end Sample

/-- A chunk offered to a full builder is lost, and so are the chunks of a failed flush, whose
size stays. -/
theorem chunks_dropped :
    ([.addChunk ("a", [1]), .addChunk ("b", [2])].foldl (BuilderRun.step Sample.primitives)
        ⟨PackBuilder.withLimits 1 10, [], []⟩).builder.current = [("a", [1])] ∧
      ([.addChunk ("a", [1]), .addChunk ("b", [2])].foldl (BuilderRun.step Sample.primitives)
        ⟨PackBuilder.withLimits 1 10, [], []⟩).accepted = [("a", [1]), ("b", [2])] ∧
      ([.addChunk ("a", [1]), .flush Sample.failingAttempt].foldl
        (BuilderRun.step Sample.primitives)
        ⟨PackBuilder.new, [], []⟩).builder.current = [] ∧
      ([.addChunk ("a", [1]), .flush Sample.failingAttempt].foldl
        (BuilderRun.step Sample.primitives)
        ⟨PackBuilder.new, [], []⟩).builder.currentSize = 1 := by
  exact ⟨rfl, rfl, rfl, rfl⟩

end Noland.Pack
