import Noland.Lib.Text

/-!
The values of `serde_json` with the accessors that readers of untyped answers use. Numbers that
are not stored as `u64` keep their text only.
-/

namespace Noland

inductive Json where
  | null
  | bool (value : Bool)
  | natural (value : Nat)
  | number (text : List Char)
  | string (text : List Char)
  | array (items : List Json)
  | object (fields : List (List Char × Json))

/-- `str::parse` for an unsigned integer below a limit. -/
def Text.parseUnsigned (limit : Nat) (text : List Char) : Option Nat :=
  let digits := if text.head? = some '+' then text.tail else text
  let value := digits.foldl (fun sum digit => 10 * sum + (digit.toNat - '0'.toNat)) 0
  if digits ≠ [] ∧ digits.all Char.isDigit = true ∧ value < limit then some value else none

namespace Json

def find (key : String) (fields : List (List Char × Json)) : Option Json :=
  (fields.find? fun field => field.1 = key.toList).map Prod.snd

def get (key : String) : Json → Option Json
  | object fields => find key fields
  | _ => none

def asArray : Json → Option (List Json)
  | array items => some items
  | _ => none

def asStr : Json → Option (List Char)
  | string text => some text
  | _ => none

theorem asArray_eq_some {body : Json} {items : List Json} :
    body.asArray = some items ↔ body = array items := by
  cases body <;> simp [asArray]

theorem mem_of_find {key : String} {fields : List (List Char × Json)} {value : Json}
    (found : find key fields = some value) : (key.toList, value) ∈ fields := by
  rw [find, Option.map_eq_some_iff] at found
  obtain ⟨field, first, rfl⟩ := found
  have same := List.find?_some first
  rw [decide_eq_true_eq] at same
  rw [← same]
  exact List.mem_of_find?_eq_some first

theorem sizeOf_field {fields : List (List Char × Json)} {key : List Char} {value : Json}
    (member : (key, value) ∈ fields) : sizeOf value < sizeOf (object fields) := by
  have inside := List.sizeOf_lt_of_mem member
  simp only [Prod.mk.sizeOf_spec, object.sizeOf_spec] at *
  omega

theorem sizeOf_item {items : List Json} {value : Json} (member : value ∈ items) :
    sizeOf value < sizeOf (array items) := by
  have inside := List.sizeOf_lt_of_mem member
  simp only [array.sizeOf_spec]
  omega

theorem sizeOf_get {key : String} {body value : Json} (found : body.get key = some value) :
    sizeOf value < sizeOf body := by
  cases body with
  | object fields => exact sizeOf_field (mem_of_find found)
  | _ => simp [get] at found

end Json

end Noland
