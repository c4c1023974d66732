import Mathlib.Data.List.Basic

/-!
The decoder takes what the encoder writes and nothing else: the padding is required and the bits
that are left over are zero.
-/

namespace Noland.Base64

def alphabet : List Char :=
  "ABCDEFGHIJKLMNOPQRSTUVWXYZabcdefghijklmnopqrstuvwxyz0123456789+/".toList

def digit (value : Nat) : Char := alphabet.getD value '='

def value (c : Char) : Option Nat :=
  let code := c.toNat
  if 65 ≤ code ∧ code ≤ 90 then some (code - 65)
  else if 97 ≤ code ∧ code ≤ 122 then some (code - 71)
  else if 48 ≤ code ∧ code ≤ 57 then some (code + 4)
  else if code = 43 then some 62
  else if code = 47 then some 63
  else none

def encode : List Nat → List Char
  | [] => []
  | [a] => [digit (a / 4), digit (a % 4 * 16), '=', '=']
  | [a, b] => [digit (a / 4), digit (a % 4 * 16 + b / 16), digit (b % 16 * 4), '=']
  | a :: b :: c :: rest =>
      digit (a / 4) :: digit (a % 4 * 16 + b / 16) :: digit (b % 16 * 4 + c / 64) ::
        digit (c % 64) :: encode rest

def decodeLast (first second : Nat) (c d : Char) : Option (List Nat) :=
  if d ≠ '=' then none
  else if c = '=' then if second % 16 = 0 then some [first * 4 + second / 16] else none
  else
    match value c with
    | none => none
    | some third =>
        if third % 4 = 0 then some [first * 4 + second / 16, second % 16 * 16 + third / 4]
        else none

def decode : List Char → Option (List Nat)
  | [] => some []
  | a :: b :: c :: d :: rest =>
      match value a, value b with
      | some first, some second =>
          match value c, value d with
          | some third, some fourth =>
              (decode rest).map fun bytes =>
                (first * 4 + second / 16) :: (second % 16 * 16 + third / 4) ::
                  (third % 4 * 64 + fourth) :: bytes
          | _, _ => if rest.isEmpty then decodeLast first second c d else none
      | _, _ => none
  | _ => none

theorem value_digit {number : Nat} (bound : number < 64) : value (digit number) = some number := by
  have all : ∀ n < 64, value (digit n) = some n := by decide +kernel
  exact all number bound

theorem value_pad : value '=' = none := by decide

theorem digit_ne_pad {number : Nat} (bound : number < 64) : digit number ≠ '=' := by
  intro same
  have known := value_digit bound
  rw [same, value_pad] at known
  simp at known

theorem decode_encode (bytes : List Nat) (small : ∀ byte ∈ bytes, byte < 256) :
    decode (encode bytes) = some bytes := by
  induction bytes using encode.induct with
  | case1 => rfl
  | case2 a =>
      have bound : a < 256 := small a (by simp)
      rw [encode, decode, value_digit (by omega), value_digit (by omega)]
      simp only [value_pad, List.isEmpty_nil, if_true, decodeLast, ne_eq, not_true_eq_false,
        if_false]
      rw [if_pos (by omega)]
      congr 2
      omega
  | case3 a b =>
      have boundA : a < 256 := small a (by simp)
      have boundB : b < 256 := small b (by simp)
      rw [encode, decode, value_digit (by omega), value_digit (by omega)]
      simp only [value_pad, List.isEmpty_nil, if_true, decodeLast, ne_eq, not_true_eq_false,
        if_false, value_digit (show b % 16 * 4 < 64 by omega),
        digit_ne_pad (show b % 16 * 4 < 64 by omega)]
      rw [if_pos (by omega)]
      congr 2
      · omega
      · congr 1
        omega
  | case4 a b c rest ih =>
      have boundA : a < 256 := small a (by simp)
      have boundB : b < 256 := small b (by simp)
      have boundC : c < 256 := small c (by simp)
      rw [encode, decode, value_digit (by omega), value_digit (by omega),
        value_digit (by omega), value_digit (by omega)]
      simp only
      rw [ih fun byte member => small byte (by simp [member]), Option.map_some]
      congr 2
      · omega
      · congr 1
        · omega
        · congr 1
          omega

theorem digit_mem (number : Nat) : digit number ∈ '=' :: alphabet := by
  rw [digit, List.getD_eq_getElem?_getD]
  cases found : alphabet[number]? with
  | none => exact List.mem_cons_self
  | some c => exact List.mem_cons_of_mem _ (List.mem_of_getElem? found)

theorem mem_encode {bytes : List Nat} {c : Char} (member : c ∈ encode bytes) :
    c ∈ '=' :: alphabet := by
  have pad : '=' ∈ '=' :: alphabet := List.mem_cons_self
  induction bytes using encode.induct with
  | case1 => simp [encode] at member
  | case2 a =>
      simp only [encode, List.mem_cons, List.not_mem_nil, or_false] at member
      rcases member with rfl | rfl | rfl | rfl <;> first | exact pad | exact digit_mem _
  | case3 a b =>
      simp only [encode, List.mem_cons, List.not_mem_nil, or_false] at member
      rcases member with rfl | rfl | rfl | rfl <;> first | exact pad | exact digit_mem _
  | case4 a b c rest ih =>
      simp only [encode, List.mem_cons] at member
      rcases member with rfl | rfl | rfl | rfl | later
      · exact digit_mem _
      · exact digit_mem _
      · exact digit_mem _
      · exact digit_mem _
      · exact ih later

end Noland.Base64
