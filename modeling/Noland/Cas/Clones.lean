import Noland.Cas.Local

/-!
Every clone keeps to its own temporary files and removes only what it has found unpinned, so an
object that is removed while it is pinned was pinned after the look at its marker.
-/

namespace Noland.Cas.Local

open Noland.Core Noland.Requests

variable {ι : Type} {blake3Hex : List UInt8 → String} {me : ι}

structure Intact (blake3Hex : List UInt8 → String) (store : Store ι) : Prop where
  once : (store.objects.map Prod.fst).Nodup
  named : ∀ object ∈ store.objects, isObjectName object.1 = true
  content : ∀ object ∈ store.objects, blake3Hex object.2.bytes = "blake3:" ++ object.1

structure Accounted (store : Store ι) : Prop where
  seen : ∀ sighting ∈ store.sightings, sighting.2 ∈ store.pins → sighting.2 ∈ store.pinnedLate
  removed : ∀ name ∈ store.removedPinned, name ∈ store.pinnedLate

def Owned (me : ι) (temp : Temp) (store : Store ι) : Prop :=
  store.sequences[temp.sequence]? = some me

structure Guarantee (blake3Hex : List UInt8 → String) (me : ι) (before after : Store ι) : Prop where
  drawn : before.sequences <+: after.sequences
  temps : ∀ temp, ¬ Owned me temp before → after.temps temp = before.temps temp
  sightings : ∀ other name, other ≠ me → (other, name) ∈ before.sightings →
    (other, name) ∈ after.sightings
  intact : Intact blake3Hex before → Intact blake3Hex after
  accounted : Accounted before → Accounted after

structure Rely (me : ι) (before after : Store ι) : Prop where
  drawn : before.sequences <+: after.sequences
  temps : ∀ temp, Owned me temp before → after.temps temp = before.temps temp
  sightings : ∀ name, (me, name) ∈ before.sightings → (me, name) ∈ after.sightings

theorem Owned.of_prefix {temp : Temp} {before after : Store ι} (owned : Owned me temp before)
    (drawn : before.sequences <+: after.sequences) : Owned me temp after := by
  obtain ⟨more, same⟩ := drawn
  unfold Owned at owned ⊢
  obtain ⟨inside, _⟩ := List.getElem?_eq_some_iff.mp owned
  rw [← same, List.getElem?_append_left inside]
  exact owned

theorem Rely.refl (store : Store ι) : Rely me store store :=
  ⟨List.prefix_rfl, fun _ _ => rfl, fun _ member => member⟩

theorem Rely.trans {first second third : Store ι} (left : Rely me first second)
    (right : Rely me second third) : Rely me first third := by
  refine ⟨left.drawn.trans right.drawn, ?_, ?_⟩
  · intro temp owned
    rw [right.temps temp (owned.of_prefix left.drawn), left.temps temp owned]
  · exact fun name member => right.sightings name (left.sightings name member)

theorem Guarantee.rely {other : ι} {before after : Store ι}
    (guarantee : Guarantee blake3Hex other before after) (apart : me ≠ other) :
    Rely me before after := by
  refine ⟨guarantee.drawn, ?_, fun name => guarantee.sightings me name apart⟩
  intro temp owned
  apply guarantee.temps
  intro theirs
  exact apart (Option.some.inj (owned.symm.trans theirs))

namespace Guarantee

variable {store : Store ι}

theorem refl (store : Store ι) : Guarantee blake3Hex me store store :=
  ⟨List.prefix_rfl, fun _ _ => rfl, fun _ _ _ member => member, id, id⟩

theorem of_turns {turns : List Turn} {after : Store ι}
    (guarantee : Guarantee blake3Hex me { store with turns := turns } after) :
    Guarantee blake3Hex me store after :=
  ⟨guarantee.drawn, guarantee.temps, guarantee.sightings,
    fun intact => guarantee.intact ⟨intact.once, intact.named, intact.content⟩,
    fun accounted => guarantee.accounted ⟨accounted.seen, accounted.removed⟩⟩

theorem draw : Guarantee blake3Hex me store { store with sequences := store.sequences ++ [me] } :=
  ⟨List.prefix_append _ _, fun _ _ => rfl, fun _ _ _ member => member,
    fun intact => ⟨intact.once, intact.named, intact.content⟩,
    fun accounted => ⟨accounted.seen, accounted.removed⟩⟩

theorem setTemp {temp : Temp} (owned : Owned me temp store) (content : Option Content) :
    Guarantee blake3Hex me store (store.setTemp temp content) := by
  refine ⟨List.prefix_rfl, ?_, fun _ _ _ member => member,
    fun intact => ⟨intact.once, intact.named, intact.content⟩,
    fun accounted => ⟨accounted.seen, accounted.removed⟩⟩
  intro other theirs
  apply Function.update_of_ne
  rintro rfl
  exact theirs owned

theorem mark (name : String) : Guarantee blake3Hex me store (store.mark name) := by
  refine ⟨List.prefix_rfl, fun _ _ => rfl, fun _ _ _ member => member,
    fun intact => ⟨intact.once, intact.named, intact.content⟩, ?_⟩
  intro accounted
  have late : ∀ other, other ∈ store.pinnedLate → other ∈ (store.mark name).pinnedLate := by
    intro other known
    simp only [Store.mark]
    split
    · exact List.mem_cons_of_mem _ known
    · exact known
  refine ⟨?_, fun other gone => late other (accounted.removed other gone)⟩
  intro sighting seen pinned
  rcases List.mem_cons.mp pinned with here | before
  · have sighted : (store.sightings.any fun seen => seen.2 = name) = true :=
      List.any_eq_true.mpr ⟨sighting, seen, decide_eq_true here⟩
    simp only [Store.mark, sighted, if_true, here]
    exact List.mem_cons_self
  · exact late _ (accounted.seen sighting seen before)

theorem unmark (name : String) : Guarantee blake3Hex me store
    { store with pins := store.pins.filter fun pin => pin ≠ name } := by
  refine ⟨List.prefix_rfl, fun _ _ => rfl, fun _ _ _ member => member,
    fun intact => ⟨intact.once, intact.named, intact.content⟩, ?_⟩
  intro accounted
  refine ⟨?_, accounted.removed⟩
  intro sighting seen pinned
  exact accounted.seen sighting seen (List.mem_filter.mp pinned).1

theorem overlook (name : String) : Guarantee blake3Hex me store (store.overlook me name) := by
  refine ⟨List.prefix_rfl, fun _ _ => rfl, fun _ _ _ member => List.mem_cons_of_mem _ member,
    fun intact => ⟨intact.once, intact.named, intact.content⟩, ?_⟩
  intro accounted
  have late : ∀ other, other ∈ store.pinnedLate → other ∈ (store.overlook me name).pinnedLate := by
    intro other known
    simp only [Store.overlook]
    split
    · exact List.mem_cons_of_mem _ known
    · exact known
  refine ⟨?_, fun other gone => late other (accounted.removed other gone)⟩
  intro sighting seen pinned
  rcases List.mem_cons.mp seen with rfl | before
  · have marked : name ∈ store.pins := pinned
    simp only [Store.overlook, if_pos marked]
    exact List.mem_cons_self
  · exact late _ (accounted.seen sighting before pinned)

theorem link {name : String} {content : Content} (free : store.objects.lookup name = none)
    (proper : isObjectName name = true)
    (named : blake3Hex content.bytes = "blake3:" ++ name) :
    Guarantee blake3Hex me store { store with objects := store.objects ++ [(name, content)] } := by
  refine ⟨List.prefix_rfl, fun _ _ => rfl, fun _ _ _ member => member, ?_,
    fun accounted => ⟨accounted.seen, accounted.removed⟩⟩
  intro intact
  have fresh : name ∉ store.objects.map Prod.fst := by
    intro member
    obtain ⟨object, inside, same⟩ := List.mem_map.mp member
    have absent := List.lookup_eq_none_iff.mp free object inside
    rw [same] at absent
    simp at absent
  refine ⟨?_, ?_, ?_⟩
  · rw [List.map_append]
    apply List.Nodup.append intact.once (List.nodup_singleton _)
    intro other before here
    rw [List.mem_singleton.mp here] at before
    exact fresh before
  · intro object member
    rcases List.mem_append.mp member with before | here
    · exact intact.named object before
    · rw [List.mem_singleton.mp here]
      exact proper
  · intro object member
    rcases List.mem_append.mp member with before | here
    · exact intact.content object before
    · rw [List.mem_singleton.mp here]
      exact named

variable [DecidableEq ι]

theorem forget (name : String) : Guarantee blake3Hex me store (store.forget me name) := by
  refine ⟨List.prefix_rfl, fun _ _ => rfl, ?_,
    fun intact => ⟨intact.once, intact.named, intact.content⟩, ?_⟩
  · intro other seen apart member
    apply List.mem_filter.mpr
    refine ⟨member, decide_eq_true ?_⟩
    intro same
    exact apart (Prod.mk.inj same).1
  · intro accounted
    refine ⟨?_, accounted.removed⟩
    intro sighting seen
    exact accounted.seen sighting (List.mem_filter.mp seen).1

theorem remove {name : String} (sighted : (me, name) ∈ store.sightings) :
    Guarantee blake3Hex me store ((store.forget me name).dropObject name) := by
  have passed : Guarantee blake3Hex me store (store.forget me name) := Guarantee.forget name
  refine ⟨List.prefix_rfl, fun _ _ => rfl, passed.sightings, ?_, ?_⟩
  · intro intact
    refine ⟨?_, ?_, ?_⟩
    · exact intact.once.sublist (List.Sublist.map _ List.filter_sublist)
    · exact fun object member => intact.named object (List.mem_filter.mp member).1
    · exact fun object member => intact.content object (List.mem_filter.mp member).1
  · intro accounted
    refine ⟨(passed.accounted accounted).seen, ?_⟩
    intro other gone
    have removed : other ∈ (if name ∈ store.pins then name :: store.removedPinned
        else store.removedPinned) := gone
    split at removed
    · rename_i pinned
      rcases List.mem_cons.mp removed with rfl | before
      · exact accounted.seen _ sighted pinned
      · exact accounted.removed other before
    · exact accounted.removed other removed

end Guarantee

def Permitted (blake3Hex : List UInt8 → String) (me : ι) (store : Store ι) : CasOp → Prop
  | .createTemp temp | .writeTemp temp _ | .removeTemp temp => Owned me temp store
  | .linkObject temp name => isObjectName name = true ∧ ∀ content, store.temps temp = some content →
      blake3Hex content.bytes = "blake3:" ++ name
  | .removeObject name => (me, name) ∈ store.sightings
  | _ => True

def Plain : CasOp → Prop
  | .createTemp _ | .writeTemp _ _ | .removeTemp _ | .linkObject _ _ | .removeObject _ => False
  | _ => True

theorem Plain.permitted {op : CasOp} (plain : Plain op) (store : Store ι) :
    Permitted blake3Hex me store op := by
  cases op with
  | createTemp | writeTemp | removeTemp | linkObject | removeObject => exact plain.elim
  | _ => trivial

section Acting

variable [DecidableEq ι] {store : Store ι} {op : CasOp}

theorem carryOut_guarantee {now : Nat} (permitted : Permitted blake3Hex me store op) :
    Guarantee blake3Hex me store (store.carryOut me now op).2 := by
  cases op with
  | existsObject | syncTemp | createPins | syncMarker | readDir => exact Guarantee.refl store
  | nextTemp => exact Guarantee.draw
  | writeTemp temp data => exact Guarantee.setTemp permitted _
  | readObject name =>
      simp only [Store.carryOut]
      split
      · exact Guarantee.refl store
      · exact Guarantee.refl store
  | statObject name =>
      simp only [Store.carryOut]
      split
      · exact Guarantee.refl store
      · exact Guarantee.refl store
  | createTemp temp =>
      simp only [Store.carryOut]
      split
      · exact Guarantee.refl store
      · exact Guarantee.setTemp permitted _
  | removeTemp temp =>
      simp only [Store.carryOut]
      split
      · exact Guarantee.refl store
      · exact Guarantee.setTemp permitted _
  | createMarker name =>
      simp only [Store.carryOut]
      split
      · exact Guarantee.refl store
      · exact Guarantee.mark name
  | removeMarker name =>
      simp only [Store.carryOut]
      split
      · exact Guarantee.unmark name
      · exact Guarantee.refl store
  | isPinned name =>
      simp only [Store.carryOut]
      split
      · exact Guarantee.refl store
      · exact Guarantee.overlook name
  | removeObject name =>
      simp only [Store.carryOut]
      split
      · exact Guarantee.forget name
      · exact Guarantee.remove permitted
  | linkObject temp name =>
      simp only [Store.carryOut]
      split
      · exact Guarantee.refl store
      · rename_i content written
        split
        · exact Guarantee.refl store
        · rename_i free
          exact Guarantee.link free permitted.1 (permitted.2 content written)

theorem fail_guarantee {fault : Fault} {now : Nat} (permitted : Permitted blake3Hex me store op) :
    Guarantee blake3Hex me store (store.fail me fault now op).2 := by
  have either : Guarantee blake3Hex me store
      (if fault.reach = 0 then store else (store.carryOut me now op).2) := by
    split
    · exact Guarantee.refl store
    · exact carryOut_guarantee permitted
  cases op with
  | existsObject => exact Guarantee.refl store
  | nextTemp => exact Guarantee.draw
  | writeTemp temp data => exact Guarantee.setTemp permitted _
  | isPinned name => exact Guarantee.overlook name
  | removeObject name =>
      simp only [Store.fail]
      split
      · exact Guarantee.forget name
      · exact carryOut_guarantee permitted
  | _ => exact either

theorem act_guarantee (permitted : Permitted blake3Hex me store op) :
    Guarantee blake3Hex me store (store.act me op).2 := by
  have same : Permitted blake3Hex me { store with turns := store.turns.tail } op := by
    cases op with
    | _ => exact permitted
  unfold Store.act
  split
  · exact (carryOut_guarantee same).of_turns
  · exact (fail_guarantee same).of_turns

theorem act_nextTemp {sequence : Nat} {name : String}
    (drawn : (store.act me .nextTemp).1 = .ok sequence) :
    Owned me ⟨name, sequence⟩ (store.act me .nextTemp).2 := by
  have both : (store.act me .nextTemp) = (.ok store.sequences.length,
      { store with turns := store.turns.tail, sequences := store.sequences ++ [me] }) := by
    unfold Store.act
    split
    · rfl
    · rfl
  rw [both] at drawn ⊢
  cases drawn
  unfold Owned
  simp

theorem act_writeTemp {temp : Temp} {data : List UInt8} {content : Content}
    (returned : (store.act me (.writeTemp temp data)).1 = .ok ())
    (written : (store.act me (.writeTemp temp data)).2.temps temp = some content) :
    content.bytes = data := by
  unfold Store.act at returned written
  split at returned
  · rename_i faultless
    simp only [faultless, Store.carryOut, Store.setTemp, Function.update_self] at written
    obtain ⟨before, _, rfl⟩ := Option.map_eq_some_iff.mp written
    rfl
  · cases returned

theorem act_syncTemp {temp : Temp} (other : Temp) :
    (store.act me (.syncTemp temp)).2.temps other = store.temps other := by
  unfold Store.act
  split
  · rfl
  · simp only [Store.fail, Store.carryOut]
    split
    · rfl
    · rfl

theorem act_isPinned {name : String} (answered : (store.act me (.isPinned name)).1 = .ok false) :
    (me, name) ∈ (store.act me (.isPinned name)).2.sightings := by
  unfold Store.act at answered ⊢
  split at answered
  · rename_i faultless
    simp only [Store.carryOut] at answered ⊢
    split at answered
    · cases answered
    · rename_i unpinned
      rw [if_neg unpinned]
      exact List.mem_cons_self
  · exact List.mem_cons_self

end Acting

section Programs

variable [DecidableEq ι] {α β : Type} {history : List (Event casInterface StateError)}
  {shared : Store ι}

def rules (blake3Hex : List UInt8 → String) (me : ι) : Rules casInterface StateError (Store ι) where
  rely := Rely me
  guarantee := Guarantee blake3Hex me
  allow _ _ _ := True
  rely_refl := Rely.refl
  rely_trans _ _ _ := Rely.trans

structure Kept (me : ι) (kept : Store ι → Prop) : Prop where
  others : ∀ before after, Rely me before after → kept before → kept after
  own : ∀ store op, kept store → kept (Store.act me store op).2

theorem kept_true : Kept me fun _ => True := ⟨fun _ _ _ => id, fun _ _ => id⟩

theorem carryOut_sequences (now : Nat) (store : Store ι) (op : CasOp) :
    store.sequences <+: (store.carryOut me now op).2.sequences := by
  cases op with
  | nextTemp => exact List.prefix_append _ _
  | existsObject | writeTemp | syncTemp | createPins | syncMarker | readDir =>
      exact List.prefix_rfl
  | linkObject temp name =>
      simp only [Store.carryOut]
      split
      · exact List.prefix_rfl
      · split
        · exact List.prefix_rfl
        · exact List.prefix_rfl
  | _ =>
      simp only [Store.carryOut]
      split
      · exact List.prefix_rfl
      · exact List.prefix_rfl

theorem act_sequences (store : Store ι) (op : CasOp) :
    store.sequences <+: (store.act me op).2.sequences := by
  have carried := fun now => @carryOut_sequences ι me _ now
    { store with turns := store.turns.tail } op
  unfold Store.act
  split
  · exact carried _
  · cases op with
    | nextTemp => exact List.prefix_append _ _
    | existsObject | isPinned | writeTemp => exact List.prefix_rfl
    | removeObject name =>
        simp only [Store.fail]
        split
        · exact List.prefix_rfl
        · exact carried _
    | _ =>
        simp only [Store.fail]
        split
        · exact List.prefix_rfl
        · exact carried _

theorem kept_owned (temp : Temp) : Kept me (Owned me temp) :=
  ⟨fun _ _ moved owned => owned.of_prefix moved.drawn,
    fun store op owned => owned.of_prefix (act_sequences store op)⟩

theorem safe_request {kept : Store ι → Prop} (stable : Kept me kept) {op : CasOp}
    {next : Except StateError op.Ret → CasProg α}
    {post : α → List (Event casInterface StateError) → Store ι → ι → Prop}
    {fail : List (Event casInterface StateError) → Store ι → ι → Prop}
    (holds : kept shared)
    (permitted : ∀ later, Rely me shared later → Permitted blake3Hex me later op)
    (continues : ∀ later, Rely me shared later → kept (later.act me op).2 →
      Safe casHandler (rules blake3Hex me) post fail (next (later.act me op).1)
        (history ++ [⟨op, (later.act me op).1⟩]) (later.act me op).2 me) :
    Safe casHandler (rules blake3Hex me) post fail (.request op next) history shared me := by
  intro later moved _
  refine ⟨act_guarantee (permitted later moved), ?_⟩
  exact continues later moved (stable.own later op (stable.others _ _ moved holds))

def Keeps (blake3Hex : List UInt8 → String) (me : ι) (kept : Store ι → Prop)
    (program : CasProg α) (history : List (Event casInterface StateError)) (shared : Store ι) :
    Prop :=
  Safe casHandler (rules blake3Hex me) (fun _ _ later _ => kept later)
    (fun _ later _ => kept later) program history shared me

variable {kept : Store ι → Prop}

theorem Keeps.done (stable : Kept me kept) {value : α} (holds : kept shared) :
    Keeps blake3Hex me kept (.done value) history shared :=
  fun _ moved => stable.others _ _ moved holds

theorem Keeps.throw (stable : Kept me kept) {error : StateError} (holds : kept shared) :
    Keeps blake3Hex me kept (.throw error : CasProg α) history shared :=
  fun _ moved => stable.others _ _ moved holds

theorem Keeps.perform (stable : Kept me kept) (holds : kept shared) {op : CasOp}
    {f : op.Ret → CasProg α}
    (permitted : ∀ later, Rely me shared later → Permitted blake3Hex me later op)
    (continues : ∀ later value, Rely me shared later → kept (later.act me op).2 →
      (later.act me op).1 = .ok value → ∀ history,
        Keeps blake3Hex me kept (f value) history (later.act me op).2) :
    Keeps blake3Hex me kept (perform op >>= f) history shared := by
  apply safe_request stable holds permitted
  intro later moved still
  cases replied : (later.act me op).1 with
  | ok value => exact continues later value moved still replied _
  | error error => exact Keeps.throw stable still

theorem Keeps.observe (stable : Kept me kept) (holds : kept shared) {op : CasOp}
    {f : Except StateError op.Ret → CasProg α}
    (permitted : ∀ later, Rely me shared later → Permitted blake3Hex me later op)
    (continues : ∀ later, Rely me shared later → kept (later.act me op).2 → ∀ history,
      Keeps blake3Hex me kept (f (later.act me op).1) history (later.act me op).2) :
    Keeps blake3Hex me kept (observe op >>= f) history shared :=
  safe_request stable holds permitted fun later moved still => continues later moved still _

theorem Keeps.bind (stable : Kept me kept) {program : CasProg α} {f : α → CasProg β}
    (first : Keeps blake3Hex me kept program history shared)
    (second : ∀ value history later, kept later →
      Keeps blake3Hex me kept (f value) history later) :
    Keeps blake3Hex me kept (program >>= f) history shared := by
  apply Safe.bind
  apply Safe.frame (fun _ own => own = me) (fun _ _ _ _ same => same) first rfl |>.weaken
  · rintro value later_history later own ⟨still, rfl⟩
    exact second value _ _ still
  · exact fun _ _ _ still => still

theorem Keeps.attempt {program : CasProg α}
    (safe : Keeps blake3Hex me kept program history shared) :
    Keeps blake3Hex me kept program.attempt history shared :=
  Safe.attempt (fun _ later _ => kept later) (fun _ _ _ _ still => still) safe

theorem Keeps.plain (stable : Kept me kept) {program : CasProg α}
    (uses : program.Uses Plain (fun _ => True) fun _ => True) (holds : kept shared) :
    Keeps blake3Hex me kept program history shared := by
  induction program generalizing history shared with
  | done value => exact Keeps.done stable holds
  | throw error => exact Keeps.throw stable holds
  | request op next ih =>
      apply safe_request stable holds
      · exact fun later _ => uses.1.permitted later
      · intro later _ still
        exact ih _ (uses.2 _ trivial) still

end Programs

section Calls

variable [DecidableEq ι] {history : List (Event casInterface StateError)} {shared : Store ι}
  {kept : Store ι → Prop}

theorem ofExcept_uses {α : Type} (result : Except StateError α) :
    (Prog.ofExcept result : CasProg α).Uses Plain (fun _ => True) fun _ => True := by
  cases result with
  | ok value => trivial
  | error error => trivial

theorem perform_uses {op : CasOp} (plain : Plain op) :
    (perform op).Uses Plain (fun _ => True) fun _ => True :=
  Prog.Uses.perform plain fun _ _ => trivial

theorem observe_uses {op : CasOp} (plain : Plain op) :
    (observe op).Uses Plain (fun _ => True) fun _ => True :=
  Prog.Uses.observe plain fun _ _ => trivial

theorem verifyObject_uses (hash name : String) :
    (verifyObject blake3Hex hash name).Uses Plain (fun _ => True) fun _ => True := by
  apply Prog.Uses.andThen
  · exact perform_uses trivial
  intro data
  split
  · trivial
  · trivial

theorem linkObject_keeps {temp : Temp} {hash : String} {data : List UInt8}
    (stable : Kept me kept) (holds : kept shared) (owned : Owned me temp shared)
    (proper : isObjectName temp.name = true)
    (named : blake3Hex data = "blake3:" ++ temp.name)
    (written : ∀ content, shared.temps temp = some content → content.bytes = data) :
    Keeps blake3Hex me kept (do
      match ← observe (.linkObject temp temp.name) with
      | .ok _ => .done ()
      | .error (.io .alreadyExists) => verifyObject blake3Hex hash temp.name
      | .error error => .throw error) history shared := by
  apply Keeps.observe stable holds
  · intro later moved
    refine ⟨proper, ?_⟩
    intro content found
    rw [moved.temps temp owned] at found
    rw [written content found]
    exact named
  · intro later moved still history
    split
    · exact Keeps.done stable still
    · exact Keeps.plain stable (verifyObject_uses _ _) still
    · exact Keeps.throw stable still

theorem writeAndLink_keeps {temp : Temp} {hash : String} {data : List UInt8}
    (owned : Owned me temp shared) (proper : isObjectName temp.name = true)
    (named : blake3Hex data = "blake3:" ++ temp.name) :
    Keeps blake3Hex me (Owned me temp) (writeAndLink blake3Hex hash temp data) history shared := by
  have stable : Kept me (Owned me temp) := kept_owned temp
  apply Keeps.perform stable owned
  · exact fun later moved => owned.of_prefix moved.drawn
  intro created _ moved still _ _
  apply Keeps.perform stable still
  · exact fun later moved => still.of_prefix moved.drawn
  intro before _ moved mine returned _
  apply Keeps.perform stable mine
  · exact fun _ _ => trivial
  intro later _ moved last _ _
  apply linkObject_keeps stable last last proper named
  intro content found
  rw [act_syncTemp, moved.temps temp mine] at found
  exact act_writeTemp returned found

theorem putNew_keeps {hash name : String} {data : List UInt8} (proper : isObjectName name = true)
    (named : blake3Hex data = "blake3:" ++ name) :
    Keeps blake3Hex me (fun _ => True) (putNew blake3Hex hash name data) history shared := by
  apply Keeps.perform kept_true trivial
  · exact fun _ _ => trivial
  intro drawn sequence _ _ answered _
  have owned : Owned me ⟨name, sequence⟩ (drawn.act me .nextTemp).2 := act_nextTemp answered
  have stable : Kept me (Owned me ⟨name, sequence⟩) := kept_owned _
  have whole : ∀ history, Keeps blake3Hex me (Owned me ⟨name, sequence⟩) (do
      let written ← (writeAndLink blake3Hex hash ⟨name, sequence⟩ data).attempt
      let _ ← observe (.removeTemp ⟨name, sequence⟩)
      let _ ← Prog.ofExcept written
      .done (⟨hash, name, data.length, false⟩ : CasPut)) history (drawn.act me .nextTemp).2 := by
    intro history
    apply Keeps.bind stable (Keeps.attempt (writeAndLink_keeps owned proper named))
    intro written _ later mine
    apply Keeps.observe stable mine
    · exact fun last moved => mine.of_prefix moved.drawn
    intro _ _ still _
    apply Keeps.bind stable (Keeps.plain stable (ofExcept_uses written) still)
    intro _ _ _ still
    exact Keeps.done stable still
  exact (whole _).weaken (fun _ _ _ _ _ => trivial) fun _ _ _ _ => trivial

theorem putPrehashed_keeps {hash : String} {data : List UInt8} (honest : blake3Hex data = hash) :
    Keeps blake3Hex me (fun _ => True) (putPrehashed blake3Hex hash data) history shared := by
  unfold putPrehashed
  cases named : objectName hash with
  | error error => exact Keeps.throw kept_true trivial
  | ok name =>
      obtain ⟨whole, proper⟩ := objectName_ok named
      apply Keeps.perform kept_true trivial
      · exact fun _ _ => trivial
      intro later present _ _ _ _
      cases present with
      | false => exact putNew_keeps proper (honest.trans whole)
      | true =>
          apply Keeps.plain kept_true _ trivial
          exact Prog.Uses.andThen (verifyObject_uses _ _) fun _ => trivial

theorem evictObjects_keeps (maxBytes : Nat) (found : List CasObject) (result : EvictionResult) :
    Keeps blake3Hex me (fun _ => True) (evictObjects maxBytes found result) history shared := by
  induction found generalizing result history shared with
  | nil => exact Keeps.done kept_true trivial
  | cons object rest ih =>
      unfold evictObjects
      split
      · exact Keeps.done kept_true trivial
      · apply Keeps.perform kept_true trivial
        · exact fun _ _ => trivial
        intro later pinned _ _ answered _
        cases pinned with
        | true => exact ih result
        | false =>
            have sighted := act_isPinned answered
            apply Keeps.observe kept_true trivial
            · exact fun last moved => moved.sightings object.name sighted
            intro _ _ _ _
            split
            · exact ih _
            · exact ih _
            · exact Keeps.throw kept_true trivial

theorem statObjects_uses (names : List String) :
    (statObjects names).Uses Plain (fun _ => True) fun _ => True := by
  induction names with
  | nil => trivial
  | cons name rest ih =>
      unfold statObjects
      split
      · apply Prog.Uses.andThen
        · exact perform_uses trivial
        intro metadata
        exact Prog.Uses.andThen ih fun _ => trivial
      · exact ih

theorem evictTo_keeps (maxBytes : Nat) :
    Keeps blake3Hex me (fun _ => True) (evictTo maxBytes) history shared := by
  have listed : objects.Uses Plain (fun _ => True) fun _ => True := by
    apply Prog.Uses.andThen
    · exact perform_uses trivial
    exact statObjects_uses
  apply Keeps.bind kept_true (Keeps.plain kept_true listed trivial)
  intro found _ _ _
  apply Keeps.bind kept_true (evictObjects_keeps _ _ _)
  intro _ _ _ _
  exact Keeps.done kept_true trivial

theorem read_uses (hash : String) : (read hash).Uses Plain (fun _ => True) fun _ => True := by
  apply Prog.Uses.andThen (ofExcept_uses _)
  intro name
  apply Prog.Uses.andThen
  · exact observe_uses trivial
  intro reply
  split
  · trivial
  · trivial
  · trivial

theorem pin_uses (hash : String) : (pin hash).Uses Plain (fun _ => True) fun _ => True := by
  have known : ∀ name, (statKnown hash name).Uses Plain (fun _ => True) fun _ => True := by
    intro name
    apply Prog.Uses.andThen
    · exact observe_uses trivial
    intro reply
    split
    · trivial
    · trivial
    · trivial
  have marked : ∀ name, (createMarker name).Uses Plain (fun _ => True) fun _ => True := by
    intro name
    apply Prog.Uses.andThen
    · exact observe_uses trivial
    intro reply
    cases reply with
    | ok _ => exact perform_uses trivial
    | error error =>
        cases error with
        | io kind =>
            cases kind with
            | _ => trivial
        | _ => trivial
  apply Prog.Uses.andThen (ofExcept_uses _)
  intro name
  apply Prog.Uses.andThen (known name)
  intro metadata
  apply Prog.Uses.andThen
  · exact perform_uses trivial
  intro _
  exact Prog.Uses.andThen (marked name) fun _ => trivial

theorem unpin_uses (hash : String) : (unpin hash).Uses Plain (fun _ => True) fun _ => True := by
  apply Prog.Uses.andThen (ofExcept_uses _)
  intro name
  apply Prog.Uses.andThen
  · exact observe_uses trivial
  intro reply
  split
  · trivial
  · trivial
  · trivial

theorem discard_keeps {α : Type} {program : CasProg α}
    (safe : Keeps blake3Hex me (fun _ => True) program history shared) :
    Keeps blake3Hex me (fun _ => True) (discard program) history shared := by
  apply Keeps.bind kept_true safe.attempt
  intro _ _ _ _
  exact Keeps.done kept_true trivial

theorem run_keeps {call : Call} (honest : call.Honest blake3Hex) :
    Keeps blake3Hex me (fun _ => True) (call.run blake3Hex) history shared := by
  cases call with
  | put data =>
      apply discard_keeps
      unfold put putVerified
      rw [if_neg (not_not.mpr rfl)]
      exact putPrehashed_keeps rfl
  | putVerified hash data =>
      apply discard_keeps
      unfold putVerified
      split
      · exact Keeps.throw kept_true trivial
      · rename_i same
        exact putPrehashed_keeps (not_not.mp same)
  | putPrehashed hash data => exact discard_keeps (putPrehashed_keeps honest)
  | read hash => exact discard_keeps (Keeps.plain kept_true (read_uses hash) trivial)
  | pin hash => exact discard_keeps (Keeps.plain kept_true (pin_uses hash) trivial)
  | unpin hash => exact discard_keeps (Keeps.plain kept_true (unpin_uses hash) trivial)
  | evictTo maxBytes => exact discard_keeps (evictTo_keeps maxBytes)

theorem calls_keep {calls : List Call} (honest : ∀ call ∈ calls, call.Honest blake3Hex) :
    Keeps blake3Hex me (fun _ => True) (Prog.forEach calls (Call.run blake3Hex)) history
      shared := by
  induction calls generalizing history shared with
  | nil => exact Keeps.done kept_true trivial
  | cons call rest ih =>
      apply Keeps.bind kept_true (run_keeps (honest call List.mem_cons_self))
      intro _ _ _ _
      exact ih fun other member => honest other (List.mem_cons_of_mem _ member)

theorem clones_keep {calls : ι → List Call}
    (honest : ∀ i, ∀ call ∈ calls i, call.Honest blake3Hex)
    {pool : Pool ι casInterface StateError (Store ι) ι Unit}
    (reaches : Pool.Reaches casHandler (fun _ _ _ _ => True) (clones blake3Hex calls shared) pool)
    {kept : Store ι → Prop}
    (keeps : ∀ i before after, Guarantee blake3Hex i before after → kept before → kept after)
    (holds : kept shared) : kept pool.shared := by
  have safe : ∀ i, Safe casHandler (rules blake3Hex i) (fun _ _ _ _ => True) (fun _ _ _ => True)
      ((clones blake3Hex calls shared).client i).program
      ((clones blake3Hex calls shared).client i).history shared
      ((clones blake3Hex calls shared).client i).own := fun i => calls_keep (honest i)
  have compatible : ∀ i j : ι, i ≠ j → ∀ before after,
      (rules blake3Hex j).guarantee before after → (rules blake3Hex i).rely before after :=
    fun i j apart before after guarantee => Guarantee.rely guarantee apart
  exact keep_reaches compatible kept keeps reaches safe holds

end Calls

end Noland.Cas.Local
