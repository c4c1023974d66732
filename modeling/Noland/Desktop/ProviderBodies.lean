import Mathlib.Data.List.Nodup
import Noland.Lib.Json

/-!
From `services/vast_api.rs` and `models/vast.rs`: how the body of an answer is read as one
instance or as the list of the owned instances.
-/

namespace Noland.Desktop

inductive BodyError where
  | missingFields
  | unrecognizedList
  | invalidRental
  deriving DecidableEq

/-- A `VastInstance`, with the value that its other fields are read from. -/
structure ParsedInstance where
  id : Nat
  status : List Char
  value : Json

def fieldAsU64 (value : Json) (keys : List String) : Option Nat :=
  keys.findSome? fun key =>
    match value.get key with
    | some (.natural number) => some number
    | some (.string text) => Text.parseUnsigned 18446744073709551616 (Text.trim text)
    | _ => none

def ownId (value : Json) : Option Nat :=
  fieldAsU64 value ["id", "new_contract", "instance_id", "contract_id"]

def statusOf (value : Json) : List Char :=
  ((((value.get "actual_status").or (value.get "status")).or (value.get "cur_state")).bind
    Json.asStr).getD "pending".toList

def fromValueWithFallbackId (value : Json) (fallbackId : Option Nat) : Option ParsedInstance :=
  ((ownId value).or fallbackId).map fun id => ⟨id, statusOf value, value⟩

def fromValue (value : Json) : Option ParsedInstance := fromValueWithFallbackId value none

def looksLikeInstanceObject (fields : List (List Char × Json)) : Bool :=
  ["actual_status", "status", "cur_state", "ssh_host", "ssh_port", "public_ipaddr"].any fun key =>
    (Json.find key fields).isSome

def mergedId (fields : List (List Char × Json)) (id : Nat) : Json :=
  if (Json.find "id" fields).isSome then .object fields
  else .object (fields ++ [("id".toList, .natural id)])

def parseKey (key : List Char) : Option Nat := Text.parseUnsigned 18446744073709551616 key

/-- What a field of the `instances` object contributes. -/
def entryValues : List Char × Json → List Json
  | (_, .array items) => items
  | (key, .object fields) =>
      match parseKey key with
      | some id => [mergedId fields id]
      | none => [.object fields]
  | _ => []

def keyedValues : List Char × Json → List Json
  | (key, .object fields) =>
      match parseKey key with
      | some id => [mergedId fields id]
      | none => []
  | _ => []

/-- The values of an `instances` object. -/
def groupedValues (fields : List (List Char × Json)) : List Json :=
  let listed := (if looksLikeInstanceObject fields then [.object fields] else []) ++
    fields.flatMap entryValues
  if listed.isEmpty then fields.flatMap keyedValues else listed

def wholeBody : Json → List Json
  | .object fields => [.object fields]
  | _ => []

def extractInstanceValues (body : Json) : List Json :=
  match body.asArray with
  | some items => items
  | none =>
      match body.get "instance" with
      | some (.object fields) => [.object fields]
      | _ =>
          match body.get "instances" with
          | some (.array items) => items
          | some (.object fields) =>
              if (groupedValues fields).isEmpty then wholeBody body else groupedValues fields
          | _ => wholeBody body

def getInstance (body : Json) (instanceId : Nat) : Except BodyError ParsedInstance :=
  let parsed := (extractInstanceValues body).filterMap fun value =>
    fromValueWithFallbackId value (some instanceId)
  match parsed.find? fun found => found.id = instanceId with
  | some exact => .ok exact
  | none =>
      match parsed with
      | first :: _ => .ok first
      | [] => .error .missingFields

def recognizedList (body : Json) : Bool :=
  let recognized :=
    body.asArray.isSome ||
    (match body.get "instances" with
      | some (.array _) => true
      | some (.object _) => true
      | _ => false) ||
    (body.get "id").isSome
  let failed :=
    match body.get "success" with
    | some (.bool success) => !success
    | _ => false
  recognized && !failed

def collectOwned : List Nat → List Json → Except BodyError (List ParsedInstance)
  | _, [] => .ok []
  | seen, value :: rest =>
      match fromValue value with
      | none => .error .invalidRental
      | some found =>
          if 0 < found.id ∧ found.id ∉ seen then
            match collectOwned (found.id :: seen) rest with
            | .ok others => .ok (found :: others)
            | .error error => .error error
          else .error .invalidRental

def parseOwnedInstances (body : Json) : Except BodyError (List ParsedInstance) :=
  if recognizedList body = false then .error .unrecognizedList
  else
    match body.get "instances" with
    | some (.object []) => .ok []
    | _ => collectOwned [] (extractInstanceValues body)

def InstanceObject : Json → Prop
  | .object fields => (ownId (.object fields)).isSome = true ∨ looksLikeInstanceObject fields = true
  | _ => False

inductive HeldBy (body : Json) : Json → Prop where
  | whole : HeldBy body body
  | item {items : List Json} {value : Json} :
      body = .array items → value ∈ items → HeldBy body value
  | single {value : Json} : body.get "instance" = some value → HeldBy body value
  | grouped {value : Json} : body.get "instances" = some value → HeldBy body value
  | listed {items : List Json} {value : Json} :
      body.get "instances" = some (.array items) → value ∈ items → HeldBy body value
  | entry {fields : List (List Char × Json)} {field : List Char × Json} {value : Json} :
      body.get "instances" = some (.object fields) → field ∈ fields →
        value ∈ entryValues field → HeldBy body value

def ErrorShaped (body : Json) : Prop :=
  match body.get "success" with
  | some (.bool false) => True
  | _ => False

def FindsInstance (body : Json) (instanceId : Nat) : Prop :=
  ∀ found, getInstance body instanceId = .ok found →
    found.id = instanceId ∧ ¬ ErrorShaped body ∧ HeldBy body found.value ∧
      InstanceObject found.value ∧ (ownId found.value).getD instanceId = instanceId

def isContainer : Json → Bool
  | .array _ => true
  | .object _ => true
  | _ => false

def ownedList : Json → Option (List Json)
  | .array items => some items
  | .object fields =>
      match Json.find "instance" fields, Json.find "instances" fields with
      | some (.object _), _ => none
      | _, some (.array items) => some items
      | _, some (.object entries) =>
          if (ownId (.object entries)).isSome || looksLikeInstanceObject entries then
            some [.object entries]
          else if entries.all fun entry => isContainer entry.2 then
            some (entries.flatMap entryValues)
          else none
      | _, _ => if (Json.find "id" fields).isSome then some [.object fields] else none
  | _ => none

def ListsInstances (body : Json) : Prop :=
  ∀ rentals, parseOwnedInstances body = .ok rentals →
    ¬ ErrorShaped body ∧ ownedList body = some (rentals.map ParsedInstance.value) ∧
      (∀ rental ∈ rentals, 0 < rental.id ∧ ownId rental.value = some rental.id) ∧
      (rentals.map ParsedInstance.id).Nodup

def answering (instanceId : Nat) (values : List Json) : Option Json :=
  values.find? fun value => (ownId value).getD instanceId = instanceId

def OffersInstance (body : Json) (instanceId : Nat) : Prop :=
  extractInstanceValues body = [] ∨
    ¬ ErrorShaped body ∧
      ∃ value, answering instanceId (extractInstanceValues body) = some value ∧
        InstanceObject value

def DistinctlyNamed (values : List Json) : Prop :=
  (∀ value ∈ values, ∃ id, ownId value = some id ∧ 0 < id) ∧ (values.map ownId).Nodup

inductive MisreadList (body : Json) : Prop where
  /-- One instance beside a list or an id hides it. -/
  | single {fields : List (List Char × Json)} :
      body.get "instance" = some (.object fields) →
        body.get "instances" = some (.object []) ∨ DistinctlyNamed [.object fields] →
        MisreadList body
  /-- The parts of an instance are counted beside it. -/
  | parts {fields : List (List Char × Json)} :
      (∀ inner, body.get "instance" ≠ some (.object inner)) →
        body.get "instances" = some (.object fields) → looksLikeInstanceObject fields = true →
        fields.flatMap entryValues ≠ [] →
        DistinctlyNamed (.object fields :: fields.flatMap entryValues) → MisreadList body
  /-- Entries of an instance, or of a map that has other entries too. -/
  | entries {fields : List (List Char × Json)} :
      (∀ inner, body.get "instance" ≠ some (.object inner)) →
        body.get "instances" = some (.object fields) → looksLikeInstanceObject fields = false →
        fields.flatMap entryValues ≠ [] →
        (ownId (.object fields)).isSome = true ∨
          (∃ field ∈ fields, isContainer field.2 = false) →
        DistinctlyNamed (fields.flatMap entryValues) → MisreadList body
  /-- The body itself in place of a map without instances. -/
  | whole {fields : List (List Char × Json)} :
      (∀ inner, body.get "instance" ≠ some (.object inner)) →
        body.get "instances" = some (.object fields) → looksLikeInstanceObject fields = false →
        fields ≠ [] → fields.flatMap entryValues = [] → DistinctlyNamed [body] →
        MisreadList body

theorem getInstance_eq (body : Json) (instanceId : Nat) :
    getInstance body instanceId =
      match answering instanceId (extractInstanceValues body) with
      | some value => .ok ⟨(ownId value).getD instanceId, statusOf value, value⟩
      | none =>
          match extractInstanceValues body with
          | value :: _ => .ok ⟨(ownId value).getD instanceId, statusOf value, value⟩
          | [] => .error .missingFields := by
  have parsed : (extractInstanceValues body).filterMap (fun value =>
      fromValueWithFallbackId value (some instanceId)) =
        (extractInstanceValues body).map fun value =>
          ⟨(ownId value).getD instanceId, statusOf value, value⟩ := by
    rw [← List.filterMap_eq_map]
    apply List.filterMap_congr
    intro value _
    rw [fromValueWithFallbackId]
    cases own : ownId value <;> simp [own]
  rw [getInstance, parsed, List.find?_map, answering]
  cases first : List.find? (fun value => decide ((ownId value).getD instanceId = instanceId))
      (extractInstanceValues body) with
  | some value =>
      simp only [Function.comp_def, first]
      rfl
  | none =>
      simp only [Function.comp_def, first]
      cases extractInstanceValues body <;> rfl

theorem mem_entryValues {field : List Char × Json} {value : Json}
    (member : value ∈ keyedValues field) : value ∈ entryValues field := by
  obtain ⟨key, inner⟩ := field
  cases inner with
  | object fields =>
      rw [keyedValues] at member
      rw [entryValues]
      cases read : parseKey key with
      | none => simp [read] at member
      | some id => simpa [read] using member
  | _ => simp [keyedValues] at member

theorem groupedValues_eq (fields : List (List Char × Json)) :
    groupedValues fields =
      (if looksLikeInstanceObject fields then [.object fields] else []) ++
        fields.flatMap entryValues := by
  rw [groupedValues]
  split_ifs with instance_like empty empty
  · simp at empty
  · rfl
  · rw [List.nil_append, List.isEmpty_iff, List.flatMap_eq_nil_iff] at empty
    rw [List.nil_append, List.flatMap_eq_nil_iff.mpr empty, List.flatMap_eq_nil_iff]
    intro field member
    have none_listed := empty field member
    rw [List.eq_nil_iff_forall_not_mem] at none_listed ⊢
    intro value keyed
    exact none_listed value (mem_entryValues keyed)
  · rfl

variable {fields : List (List Char × Json)} {body : Json}

theorem groupedValues_plain (plain : looksLikeInstanceObject fields = false) :
    groupedValues fields = fields.flatMap entryValues := by
  simp [groupedValues_eq, plain]

theorem mem_wholeBody {body value : Json} (member : value ∈ wholeBody body) : value = body := by
  cases body with
  | object fields => exact List.mem_singleton.mp member
  | _ => simp [wholeBody] at member

theorem extract_held {body value : Json} (member : value ∈ extractInstanceValues body) :
    HeldBy body value := by
  rw [extractInstanceValues] at member
  split at member
  · rename_i items found
    exact .item (Json.asArray_eq_some.mp found) member
  · split at member
    · rename_i found
      rw [List.mem_singleton.mp member]
      exact .single found
    · split at member
      · rename_i found
        exact .listed found member
      · rename_i fields found
        split_ifs at member
        · rw [mem_wholeBody member]
          exact .whole
        · rw [groupedValues_eq, List.mem_append] at member
          rcases member with alone | nested
          · split_ifs at alone
            · rw [List.mem_singleton.mp alone]
              exact .grouped found
            · simp at alone
          · obtain ⟨field, inner, entry⟩ := List.mem_flatMap.mp nested
            exact .entry found inner entry
      · rw [mem_wholeBody member]
        exact .whole

theorem finds_instance_iff (body : Json) (instanceId : Nat) :
    FindsInstance body instanceId ↔ OffersInstance body instanceId := by
  rw [FindsInstance, getInstance_eq, OffersInstance]
  cases answer : answering instanceId (extractInstanceValues body) with
  | some value =>
      have named := List.find?_some answer
      rw [decide_eq_true_eq] at named
      have member := List.mem_of_find?_eq_some answer
      have offered : extractInstanceValues body ≠ [] := List.ne_nil_of_mem member
      constructor
      · intro finds
        obtain ⟨-, failure, -, shape, -⟩ := finds _ rfl
        exact .inr ⟨failure, value, rfl, shape⟩
      · intro offers found same
        rw [Except.ok.injEq] at same
        subst same
        obtain ⟨failure, other, ⟨⟩, shape⟩ := offers.resolve_left offered
        exact ⟨named, failure, extract_held member, shape, named⟩
  | none =>
      have unnamed := List.find?_eq_none.mp answer
      cases offered : extractInstanceValues body with
      | nil =>
          constructor
          · intro _
            exact .inl rfl
          · intro _ found same
            simp at same
      | cons value rest =>
          constructor
          · intro finds
            have first := unnamed value (offered ▸ List.mem_cons_self)
            rw [decide_eq_true_eq] at first
            exact absurd (finds _ rfl).1 first
          · intro offers
            simp at offers

theorem fromValue_eq_some {value : Json} {found : ParsedInstance} :
    fromValue value = some found ↔
      ∃ id, ownId value = some id ∧ found = ⟨id, statusOf value, value⟩ := by
  rw [fromValue, fromValueWithFallbackId, Option.or_none, Option.map_eq_some_iff]
  simp only [eq_comm]

theorem collectOwned_ok {seen : List Nat} {values : List Json} {rentals : List ParsedInstance}
    (read : collectOwned seen values = .ok rentals) :
    rentals.map ParsedInstance.value = values ∧
      (∀ rental ∈ rentals,
        (0 < rental.id ∧ ownId rental.value = some rental.id) ∧ rental.id ∉ seen) ∧
      (rentals.map ParsedInstance.id).Nodup := by
  induction values generalizing seen rentals with
  | nil =>
      rw [collectOwned, Except.ok.injEq] at read
      subst read
      simp
  | cons value rest ih =>
      rw [collectOwned] at read
      split at read
      · simp at read
      · rename_i found parsed
        obtain ⟨id, own, same⟩ := fromValue_eq_some.mp parsed
        subst same
        split_ifs at read with fresh
        split at read
        · rename_i others tail
          rw [Except.ok.injEq] at read
          subst read
          obtain ⟨values_eq, named, distinct⟩ := ih tail
          refine ⟨by rw [List.map_cons, values_eq], ?_, ?_⟩
          · intro rental member
            rcases List.mem_cons.mp member with same | later
            · rw [same]
              exact ⟨⟨fresh.1, own⟩, fresh.2⟩
            · obtain ⟨known, unseen⟩ := named rental later
              exact ⟨known, fun before => unseen (List.mem_cons_of_mem _ before)⟩
          · rw [List.map_cons, List.nodup_cons]
            refine ⟨?_, distinct⟩
            intro member
            obtain ⟨rental, later, same⟩ := List.mem_map.mp member
            apply (named rental later).2
            rw [same]
            exact List.mem_cons_self
        · simp at read

theorem collectOwned_named {seen : List Nat} {values : List Json} (named : DistinctlyNamed values)
    (fresh : ∀ id ∈ seen, some id ∉ values.map ownId) :
    ∃ rentals, collectOwned seen values = .ok rentals := by
  induction values generalizing seen with
  | nil => exact ⟨[], rfl⟩
  | cons value rest ih =>
      obtain ⟨⟨own, others⟩, distinct⟩ := And.intro (List.forall_mem_cons.mp named.1) named.2
      obtain ⟨id, own, positive⟩ := own
      rw [List.map_cons, own, List.nodup_cons] at distinct
      have unseen : id ∉ seen := by
        intro before
        apply fresh id before
        rw [List.map_cons, own]
        exact List.mem_cons_self
      obtain ⟨rentals, read⟩ := @ih (id :: seen) ⟨others, distinct.2⟩ (by
        intro other member
        rcases List.mem_cons.mp member with same | before
        · rw [same]
          exact distinct.1
        · intro later
          exact fresh other before (List.mem_cons_of_mem _ later))
      refine ⟨⟨id, statusOf value, value⟩ :: rentals, ?_⟩
      rw [collectOwned, fromValue_eq_some.mpr ⟨id, own, rfl⟩]
      simp only
      rw [if_pos ⟨positive, unseen⟩, read]

theorem collect_distinct {values : List Json} {rentals : List ParsedInstance}
    (read : collectOwned [] values = .ok rentals) : DistinctlyNamed values := by
  obtain ⟨values_eq, named, distinct⟩ := collectOwned_ok read
  subst values_eq
  constructor
  · intro value member
    obtain ⟨rental, inside, rfl⟩ := List.mem_map.mp member
    exact ⟨rental.id, (named rental inside).1.2, (named rental inside).1.1⟩
  · have ids : (rentals.map ParsedInstance.value).map ownId =
        (rentals.map ParsedInstance.id).map some := by
      rw [List.map_map, List.map_map]
      exact List.map_congr_left fun rental inside => (named rental inside).1.2
    rw [ids]
    exact distinct.map fun _ _ same => Option.some.inj same

theorem parseOwned_read (recognized : recognizedList body = true)
    (named : DistinctlyNamed (extractInstanceValues body) ∨
      body.get "instances" = some (.object [])) :
    ∃ rentals, parseOwnedInstances body = .ok rentals ∧
      (body.get "instances" ≠ some (.object []) →
        rentals.map ParsedInstance.value = extractInstanceValues body) := by
  rw [parseOwnedInstances, if_neg (by simp [recognized])]
  by_cases empty : body.get "instances" = some (.object [])
  · refine ⟨[], ?_, fun filled => absurd empty filled⟩
    rw [empty]
  · obtain ⟨rentals, read⟩ := @collectOwned_named [] _ (named.resolve_right empty)
      (by simp)
    refine ⟨rentals, ?_, fun _ => (collectOwned_ok read).1⟩
    split
    · rename_i found
      exact absurd found empty
    · exact read

theorem object_of_get {key : String} {body value : Json} (found : body.get key = some value) :
    ∃ fields, body = .object fields := by
  cases body with
  | object fields => exact ⟨fields, rfl⟩
  | _ => simp [Json.get] at found

theorem extract_single (single : body.get "instance" = some (.object fields)) :
    extractInstanceValues body = [.object fields] := by
  obtain ⟨outer, rfl⟩ := object_of_get single
  rw [extractInstanceValues, show (Json.object outer).asArray = none from rfl, single]

theorem extract_grouped (alone : ∀ inner, body.get "instance" ≠ some (.object inner))
    (grouped : body.get "instances" = some (.object fields)) :
    extractInstanceValues body =
      if (groupedValues fields).isEmpty then [body] else groupedValues fields := by
  obtain ⟨outer, rfl⟩ := object_of_get grouped
  rw [extractInstanceValues, show (Json.object outer).asArray = none from rfl, grouped]
  cases single : (Json.object outer).get "instance" with
  | none => rfl
  | some value =>
      cases value with
      | object inner => exact absurd single (alone inner)
      | _ => rfl

theorem ownedList_single (single : body.get "instance" = some (.object fields)) :
    ownedList body = none := by
  obtain ⟨outer, rfl⟩ := object_of_get single
  rw [Json.get] at single
  rw [ownedList, single]

theorem ownedList_grouped (alone : ∀ inner, body.get "instance" ≠ some (.object inner))
    (grouped : body.get "instances" = some (.object fields)) :
    ownedList body =
      if (ownId (.object fields)).isSome || looksLikeInstanceObject fields then
        some [.object fields]
      else if fields.all fun entry => isContainer entry.2 then some (fields.flatMap entryValues)
      else none := by
  obtain ⟨outer, rfl⟩ := object_of_get grouped
  rw [Json.get] at grouped
  rw [ownedList, grouped]
  split
  · rename_i inner single
    exact absurd single (alone inner)
  · rename_i same _
    simp at same
  · rename_i entries same _
    rw [Option.some.injEq, Json.object.injEq] at same
    rw [same]
  · rename_i other
    exact absurd rfl (other fields)

theorem object_notMem_entries (fields : List (List Char × Json)) :
    Json.object fields ∉ fields.flatMap entryValues := by
  intro member
  obtain ⟨⟨key, value⟩, inside, entry⟩ := List.mem_flatMap.mp member
  have smaller := Json.sizeOf_field inside
  cases value with
  | array items =>
      have nested := Json.sizeOf_item (show Json.object fields ∈ items from entry)
      omega
  | object inner =>
      rw [entryValues] at entry
      split at entry
      · rename_i id _
        have merged : Json.object fields = mergedId inner id := List.mem_singleton.mp entry
        rw [mergedId] at merged
        split_ifs at merged
        · rw [merged] at smaller
          omega
        · rw [Json.object.injEq] at merged
          rw [merged, List.mem_append] at inside
          rcases inside with deep | added
          · have deeper := Json.sizeOf_field deep
            omega
          · simp at added
      · have same : Json.object fields = Json.object inner := List.mem_singleton.mp entry
        rw [same] at smaller
        omega
  | _ => simp [entryValues] at entry

theorem not_errorShaped (recognized : recognizedList body = true) : ¬ ErrorShaped body := by
  rw [recognizedList, Bool.and_eq_true] at recognized
  intro failure
  rw [ErrorShaped] at failure
  split at failure
  · rename_i failed
    simp [failed] at recognized
  · exact failure

theorem misread_list (recognized : recognizedList body = true) (misread : MisreadList body) :
    ¬ ListsInstances body := by
  intro lists
  -- Each kind of body is read, and the values that were read are not the owned list.
  have apart : ∀ values, extractInstanceValues body = values → DistinctlyNamed values →
      body.get "instances" ≠ some (.object []) → ownedList body ≠ some values → False := by
    intro values extracted named filled other
    obtain ⟨rentals, read, same⟩ := parseOwned_read recognized (.inl (extracted ▸ named))
    have owned := (lists rentals read).2.1
    rw [same filled, extracted] at owned
    exact other owned
  have entry_filled : ∀ {fields : List (List Char × Json)},
      body.get "instances" = some (.object fields) → fields.flatMap entryValues ≠ [] →
        body.get "instances" ≠ some (.object []) := by
    intro fields grouped some_entry empty
    rw [grouped, Option.some.injEq, Json.object.injEq] at empty
    rw [empty] at some_entry
    exact some_entry rfl
  cases misread with
  | single single accepted =>
      obtain ⟨rentals, read, -⟩ := parseOwned_read recognized
        (accepted.symm.imp_left fun named => (extract_single single).symm ▸ named)
      have owned := (lists rentals read).2.1
      rw [ownedList_single single] at owned
      simp at owned
  | parts alone grouped instance_like nested named =>
      refine apart _ ?_ named (entry_filled grouped nested) ?_
      · rw [extract_grouped alone grouped, groupedValues_eq, if_pos instance_like]
        rfl
      · rw [ownedList_grouped alone grouped, instance_like, Bool.or_true, if_pos rfl]
        simpa using nested.symm
  | entries alone grouped plain nested other named =>
      refine apart _ ?_ named (entry_filled grouped nested) ?_
      · rw [extract_grouped alone grouped, groupedValues_plain plain,
          if_neg (by rwa [List.isEmpty_iff])]
      · rw [ownedList_grouped alone grouped, plain, Bool.or_false]
        rcases other with own | ⟨field, inside, scalar⟩
        · rw [if_pos own, Ne, Option.some.injEq]
          intro same
          apply object_notMem_entries _
          rw [← same]
          exact List.mem_singleton_self _
        · split_ifs with own all
          · rw [Ne, Option.some.injEq]
            intro same
            apply object_notMem_entries _
            rw [← same]
            exact List.mem_singleton_self _
          · have holds := List.all_eq_true.mp all field inside
            simp [scalar] at holds
          · simp
  | whole alone grouped plain filled nested named =>
      refine apart [body] ?_ named ?_ ?_
      · rw [extract_grouped alone grouped, groupedValues_plain plain, nested]
        rfl
      · rw [grouped, Ne, Option.some.injEq, Json.object.injEq]
        exact filled
      · rw [ownedList_grouped alone grouped, nested]
        split_ifs
        · rw [Ne, Option.some.injEq, List.singleton_inj]
          intro same
          have smaller := Json.sizeOf_get grouped
          rw [same] at smaller
          omega
        · simp
        · simp

theorem parseOwned_ok {rentals : List ParsedInstance}
    (read : parseOwnedInstances body = .ok rentals) :
    recognizedList body = true ∧
      (body.get "instances" = some (.object []) ∧ rentals = [] ∨
        body.get "instances" ≠ some (.object []) ∧
          collectOwned [] (extractInstanceValues body) = .ok rentals) := by
  rw [parseOwnedInstances] at read
  split_ifs at read with refused
  rw [Bool.not_eq_false] at refused
  split at read
  · rename_i empty
    rw [Except.ok.injEq] at read
    exact ⟨refused, .inl ⟨empty, read.symm⟩⟩
  · rename_i filled
    exact ⟨refused, .inr ⟨filled, read⟩⟩

theorem extract_listed {items : List Json}
    (alone : ∀ inner, body.get "instance" ≠ some (.object inner))
    (listed : body.get "instances" = some (.array items)) :
    extractInstanceValues body = items ∧ ownedList body = some items := by
  obtain ⟨outer, rfl⟩ := object_of_get listed
  rw [Json.get] at listed alone
  rw [ownedList, extractInstanceValues, show (Json.object outer).asArray = none from rfl, Json.get,
    Json.get, listed]
  cases single : Json.find "instance" outer with
  | none => exact ⟨rfl, rfl⟩
  | some value =>
      cases value with
      | object inner => exact absurd single (alone inner)
      | _ => exact ⟨rfl, rfl⟩

theorem extract_unlisted {outer : List (List Char × Json)}
    (alone : ∀ inner, (Json.object outer).get "instance" ≠ some (.object inner))
    (no_list : ∀ items, (Json.object outer).get "instances" ≠ some (.array items))
    (no_map : ∀ fields, (Json.object outer).get "instances" ≠ some (.object fields))
    (recognized : recognizedList (.object outer) = true) :
    ownedList (.object outer) = some (extractInstanceValues (.object outer)) := by
  rw [Json.get] at alone no_list no_map
  have named : (Json.find "id" outer).isSome = true := by
    rw [recognizedList, Bool.and_eq_true, Bool.or_eq_true, Bool.or_eq_true] at recognized
    rcases recognized.1 with (bare | map) | id
    · simp [Json.asArray] at bare
    · split at map
      · rename_i items found
        exact absurd found (no_list items)
      · rename_i fields found
        exact absurd found (no_map fields)
      · simp at map
    · exact id
  rw [ownedList, extractInstanceValues, show (Json.object outer).asArray = none from rfl, Json.get,
    Json.get]
  split
  · rename_i inner single
    exact absurd single (alone inner)
  · rename_i items listed _
    exact absurd listed (no_list items)
  · rename_i fields grouped _
    exact absurd grouped (no_map fields)
  · rw [if_pos named]
    simp only
    rfl

theorem ownedList_extract (recognized : recognizedList body = true) (sound : ¬ MisreadList body)
    (named : DistinctlyNamed (extractInstanceValues body))
    (filled : body.get "instances" ≠ some (.object [])) :
    ownedList body = some (extractInstanceValues body) := by
  cases body with
  | array items => rfl
  | object outer =>
      have alone : ∀ inner, (Json.object outer).get "instance" ≠ some (.object inner) := by
        intro inner single
        apply sound
        apply MisreadList.single single
        rw [extract_single single] at named
        exact .inr named
      cases grouped : (Json.object outer).get "instances" with
      | some value =>
          cases value with
          | array items =>
              obtain ⟨extracted, owned⟩ := extract_listed alone grouped
              rw [extracted, owned]
          | object fields =>
              have entries_some : fields ≠ [] := by
                intro empty
                rw [empty] at grouped
                exact filled grouped
              have extracted := extract_grouped alone grouped
              rw [ownedList_grouped alone grouped]
              cases shape : looksLikeInstanceObject fields with
              | true =>
                  rw [groupedValues_eq, if_pos shape, List.singleton_append] at extracted
                  have nested : fields.flatMap entryValues = [] := by
                    by_contra some_entry
                    apply sound
                    apply MisreadList.parts alone grouped shape some_entry
                    rwa [extracted] at named
                  rw [extracted, nested, Bool.or_true]
                  rfl
              | false =>
                  rw [groupedValues_plain shape] at extracted
                  by_cases nested : fields.flatMap entryValues = []
                  · rw [nested] at extracted
                    rw [extracted] at named
                    exact absurd (.whole alone grouped shape entries_some nested named) sound
                  · rw [if_neg (by rwa [List.isEmpty_iff])] at extracted
                    rw [extracted] at named ⊢
                    have complete : ¬ ((ownId (.object fields)).isSome = true ∨
                        ∃ field ∈ fields, isContainer field.2 = false) := by
                      intro other
                      exact sound (.entries alone grouped shape nested other named)
                    rw [not_or] at complete
                    rw [Bool.or_false, if_neg complete.1, if_pos]
                    rw [List.all_eq_true]
                    intro field inside
                    by_contra scalar
                    exact complete.2 ⟨field, inside, by simpa using scalar⟩
          | _ => exact extract_unlisted alone (by simp [grouped]) (by simp [grouped]) recognized
      | none => exact extract_unlisted alone (by simp [grouped]) (by simp [grouped]) recognized
  | _ => simp [recognizedList, Json.asArray, Json.get] at recognized

theorem lists_instances_iff (body : Json) :
    ListsInstances body ↔ ¬ (recognizedList body = true ∧ MisreadList body) := by
  constructor
  · rintro lists ⟨recognized, misread⟩
    exact misread_list recognized misread lists
  · intro sound rentals read
    obtain ⟨recognized, outcome⟩ := parseOwned_ok read
    have kept : ¬ MisreadList body := fun misread => sound ⟨recognized, misread⟩
    refine ⟨not_errorShaped recognized, ?_⟩
    rcases outcome with ⟨empty, rfl⟩ | ⟨filled, collected⟩
    · have alone : ∀ inner, body.get "instance" ≠ some (.object inner) :=
        fun inner single => kept (.single single (.inl empty))
      rw [ownedList_grouped alone empty]
      simp [ownId, fieldAsU64, looksLikeInstanceObject, Json.get, Json.find]
    · obtain ⟨values_eq, named, distinct⟩ := collectOwned_ok collected
      refine ⟨?_, fun rental member => (named rental member).1, distinct⟩
      rw [values_eq]
      exact ownedList_extract recognized kept (collect_distinct collected) filled

/-- Answers are read for what they hold, exactly outside the bodies that are misread. -/
theorem provider_bodies_iff (body : Json) (instanceId : Nat) :
    FindsInstance body instanceId ∧ ListsInstances body ↔
      OffersInstance body instanceId ∧ ¬ (recognizedList body = true ∧ MisreadList body) := by
  rw [finds_instance_iff, lists_instances_iff]

def failedBody : Json :=
  .object [("success".toList, .bool false), ("msg".toList, .string "gone".toList)]

/-- A body that reports a failure is taken for a pending instance. -/
theorem provider_bodies_misread :
    ¬ ∀ (body : Json) (instanceId : Nat),
      FindsInstance body instanceId ∧ ListsInstances body := by
  intro always
  have found : getInstance failedBody 7 = .ok ⟨7, "pending".toList, failedBody⟩ := rfl
  exact ((always failedBody 7).1 _ found).2.1 trivial

end Noland.Desktop
