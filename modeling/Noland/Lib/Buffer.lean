import Mathlib.Algebra.Order.Ring.Nat
import Mathlib.Data.List.Basic

/-!
A write that ends inside the buffer keeps its length, is read back as a slice, and leaves the
other slices.
-/

namespace Noland.Buffer

def slice (bytes : List UInt8) (start stop : Nat) : List UInt8 :=
  (bytes.drop start).take (stop - start)

def write (bytes : List UInt8) (start : Nat) (field : List UInt8) : List UInt8 :=
  bytes.take start ++ field ++ bytes.drop (start + field.length)

def byteAt (bytes : List UInt8) (offset : Nat) : UInt8 := bytes.getD offset 0

structure FixedBytes (length : Nat) where
  bytes : List UInt8
  length_bytes : bytes.length = length
  deriving DecidableEq

def FixedBytes.ofList (length : Nat) (bytes : List UInt8) : Option (FixedBytes length) :=
  if fits : bytes.length = length then some ⟨bytes, fits⟩ else none

theorem FixedBytes.ofList_bytes {length : Nat} (fixed : FixedBytes length) :
    FixedBytes.ofList length fixed.bytes = some fixed := by
  rw [ofList, dif_pos fixed.length_bytes]

section Slices

variable {bytes field : List UInt8} {start stop lower upper : Nat}

theorem getElem?_slice (bytes : List UInt8) (start stop index : Nat) :
    (slice bytes start stop)[index]? =
      if start + index < stop then bytes[start + index]? else none := by
  simp only [slice, List.getElem?_take, List.getElem?_drop]
  by_cases inside : start + index < stop
  · rw [if_pos inside, if_pos (by omega)]
  · rw [if_neg inside, if_neg (by omega)]

theorem length_write (fits : start + field.length ≤ bytes.length) :
    (write bytes start field).length = bytes.length := by
  simp only [write, List.length_append, List.length_take, List.length_drop]
  omega

theorem getElem?_write (fits : start + field.length ≤ bytes.length) (index : Nat) :
    (write bytes start field)[index]? =
      if index < start then bytes[index]?
      else if index < start + field.length then field[index - start]?
      else bytes[index]? := by
  have taken : (bytes.take start).length = start := by
    rw [List.length_take]
    omega
  rw [write, List.append_assoc, List.getElem?_append, taken]
  by_cases before : index < start
  · rw [if_pos before, if_pos before, List.getElem?_take_of_lt before]
  · rw [if_neg before, if_neg before, List.getElem?_append]
    by_cases inside : index < start + field.length
    · rw [if_pos (by omega), if_pos inside]
    · rw [if_neg (by omega), if_neg inside, List.getElem?_drop]
      apply congrArg (bytes[·]?)
      omega

theorem slice_write_self (fits : start + field.length ≤ bytes.length)
    (stops : stop = start + field.length) : slice (write bytes start field) start stop = field := by
  subst stops
  apply List.ext_getElem?
  intro index
  rw [getElem?_slice, getElem?_write fits]
  by_cases inside : index < field.length
  · rw [if_pos (by omega), if_neg (by omega), if_pos (by omega)]
    apply congrArg (field[·]?)
    omega
  · rw [if_neg (by omega), List.getElem?_eq_none (by omega)]

theorem slice_write_apart (fits : start + field.length ≤ bytes.length)
    (apart : upper ≤ start ∨ start + field.length ≤ lower) :
    slice (write bytes start field) lower upper = slice bytes lower upper := by
  apply List.ext_getElem?
  intro index
  rw [getElem?_slice, getElem?_slice]
  by_cases inside : lower + index < upper
  · rw [if_pos inside, if_pos inside, getElem?_write fits]
    rcases apart with before | after
    · rw [if_pos (by omega)]
    · rw [if_neg (by omega), if_neg (by omega)]
  · rw [if_neg inside, if_neg inside]

theorem slice_replicate (inside : stop ≤ upper) (value : UInt8) :
    slice (List.replicate upper value) start stop = List.replicate (stop - start) value := by
  rw [slice, List.drop_replicate, List.take_replicate]
  apply congrArg (List.replicate · value)
  omega

theorem take_eq_slice : bytes.take stop = slice bytes 0 stop := by
  rw [slice, List.drop_zero, Nat.sub_zero]

theorem byteAt_of_slice {value : UInt8} (read : slice bytes start (start + 1) = [value]) :
    byteAt bytes start = value := by
  have first := getElem?_slice bytes start (start + 1) 0
  rw [read, if_pos (by omega)] at first
  rw [byteAt, List.getD_eq_getElem?_getD, ← Nat.add_zero start, ← first]
  rfl

end Slices

def writeAll (bytes : List UInt8) (fields : List (Nat × List UInt8)) : List UInt8 :=
  fields.foldl (fun bytes field => write bytes field.1 field.2) bytes

def Fit (len : Nat) (fields : List (Nat × List UInt8)) : Prop :=
  ∀ field ∈ fields, field.1 + field.2.length ≤ len

def InOrder (fields : List (Nat × List UInt8)) : Prop :=
  fields.Pairwise fun field later => field.1 + field.2.length ≤ later.1

section Fields

variable {bytes : List UInt8} {fields : List (Nat × List UInt8)} {lower upper : Nat}

theorem length_writeAll (fit : Fit bytes.length fields) :
    (writeAll bytes fields).length = bytes.length := by
  induction fields generalizing bytes with
  | nil => rfl
  | cons field rest ih =>
      have kept : (write bytes field.1 field.2).length = bytes.length :=
        length_write (fit field (List.mem_cons_self ..))
      have later : Fit (write bytes field.1 field.2).length rest := by
        rw [kept]
        exact fun other member => fit other (List.mem_cons_of_mem _ member)
      exact (ih later).trans kept

theorem slice_writeAll_apart (fit : Fit bytes.length fields)
    (apart : ∀ field ∈ fields, upper ≤ field.1 ∨ field.1 + field.2.length ≤ lower) :
    slice (writeAll bytes fields) lower upper = slice bytes lower upper := by
  induction fields generalizing bytes with
  | nil => rfl
  | cons field rest ih =>
      have inside := fit field (List.mem_cons_self ..)
      have later : Fit (write bytes field.1 field.2).length rest := by
        rw [length_write inside]
        exact fun other member => fit other (List.mem_cons_of_mem _ member)
      have untouched := ih later fun other member => apart other (List.mem_cons_of_mem _ member)
      exact untouched.trans (slice_write_apart inside (apart field (List.mem_cons_self ..)))

theorem slice_writeAll_mem (fit : Fit bytes.length fields) (inOrder : InOrder fields)
    {field : Nat × List UInt8} (member : field ∈ fields) (stops : upper = field.1 + field.2.length) :
    slice (writeAll bytes fields) field.1 upper = field.2 := by
  induction fields generalizing bytes with
  | nil => cases member
  | cons first rest ih =>
      have inside := fit first (List.mem_cons_self ..)
      have later : Fit (write bytes first.1 first.2).length rest := by
        rw [length_write inside]
        exact fun other member => fit other (List.mem_cons_of_mem _ member)
      obtain ⟨before, ordered⟩ := List.pairwise_cons.mp inOrder
      rcases List.mem_cons.mp member with same | among
      · subst same
        have untouched : slice (writeAll (write bytes field.1 field.2) rest) field.1 upper =
            slice (write bytes field.1 field.2) field.1 upper := by
          apply slice_writeAll_apart later
          intro other member
          exact Or.inl (stops ▸ before other member)
        exact untouched.trans (slice_write_self inside stops)
      · exact ih later ordered among

end Fields

def toBytes : Nat → Nat → List UInt8
  | 0, _ => []
  | width + 1, value => toBytes width (value / 256) ++ [UInt8.ofNat value]

def ofBytes (bytes : List UInt8) : Nat :=
  bytes.foldl (fun value byte => value * 256 + byte.toNat) 0

@[simp] theorem length_toBytes (width value : Nat) : (toBytes width value).length = width := by
  induction width generalizing value with
  | zero => rfl
  | succ width ih => rw [toBytes, List.length_append, ih, List.length_singleton]

theorem ofBytes_snoc (bytes : List UInt8) (byte : UInt8) :
    ofBytes (bytes ++ [byte]) = ofBytes bytes * 256 + byte.toNat := by
  simp only [ofBytes, List.foldl_append, List.foldl_cons, List.foldl_nil]

theorem ofBytes_toBytes (width value : Nat) :
    ofBytes (toBytes width value) = value % 256 ^ width := by
  induction width generalizing value with
  | zero =>
      rw [toBytes, Nat.pow_zero, Nat.mod_one]
      rfl
  | succ width ih =>
      have byte : (UInt8.ofNat value).toNat = value % 256 := by simp
      rw [toBytes, ofBytes_snoc, ih, byte, Nat.pow_succ, Nat.mul_comm (256 ^ width), Nat.mod_mul]
      omega

def readU16 (bytes : List UInt8) (offset : Nat) : UInt16 :=
  UInt16.ofNat (ofBytes (slice bytes offset (offset + 2)))

def readU64 (bytes : List UInt8) (offset : Nat) : UInt64 :=
  UInt64.ofNat (ofBytes (slice bytes offset (offset + 8)))

theorem readU16_of_slice {bytes : List UInt8} {offset : Nat} {value : UInt16}
    (read : slice bytes offset (offset + 2) = toBytes 2 value.toNat) :
    readU16 bytes offset = value := by
  have small : value.toNat < 256 ^ 2 := value.toNat_lt
  rw [readU16, read, ofBytes_toBytes, Nat.mod_eq_of_lt small, UInt16.ofNat_toNat]

theorem readU64_of_slice {bytes : List UInt8} {offset : Nat} {value : UInt64}
    (read : slice bytes offset (offset + 8) = toBytes 8 value.toNat) :
    readU64 bytes offset = value := by
  have small : value.toNat < 256 ^ 8 := value.toNat_lt
  rw [readU64, read, ofBytes_toBytes, Nat.mod_eq_of_lt small, UInt64.ofNat_toNat]

end Noland.Buffer
