import Mathlib.Data.Nat.Digits.Lemmas

/-!
# Little-endian encodings

A number is written as its bytes, the least significant first.  A signed number is
written as the two's complement of the width, so reading it back takes the remainder
that is closest to zero.  A field of a record that spans some of the bytes is read from
a part of the list, which the law of concatenation composes.
-/

namespace Wrest.LittleEndian

/-- The low bytes of a number. -/
def encode : Nat → Nat → List UInt8
  | 0, _ => []
  | width + 1, value => UInt8.ofNat (value % 256) :: encode width (value / 256)

def decode (bytes : List UInt8) : Nat :=
  Nat.ofDigits 256 (bytes.map UInt8.toNat)

/-- The two's complement of a signed number. -/
def encodeSigned (width : Nat) (value : Int) : List UInt8 :=
  encode width (value % (256 ^ width : Nat)).toNat

def decodeSigned (bytes : List UInt8) : Int :=
  (decode bytes : Int).bmod (256 ^ bytes.length)

@[simp]
theorem length_encode (width value : Nat) : (encode width value).length = width := by
  induction width generalizing value with
  | zero => rfl
  | succ width ih => simp [encode, ih]

theorem decode_cons (byte : UInt8) (bytes : List UInt8) :
    decode (byte :: bytes) = byte.toNat + 256 * decode bytes := by
  simp [decode, Nat.ofDigits_cons]

theorem decode_encode (width value : Nat) :
    decode (encode width value) = value % 256 ^ width := by
  induction width generalizing value with
  | zero => simp [encode, decode, Nat.mod_one]
  | succ width ih =>
    have small : value % 256 % 2 ^ 8 = value % 256 := by omega
    rw [encode, decode_cons, ih, UInt8.toNat_ofNat', small, pow_succ', Nat.mod_mul]

theorem decode_lt (bytes : List UInt8) : decode bytes < 256 ^ bytes.length := by
  have digits : ∀ digit ∈ bytes.map UInt8.toNat, digit < 256 := by
    intro digit member
    obtain ⟨byte, -, rfl⟩ := List.mem_map.mp member
    exact byte.toNat_lt
  simpa [decode] using Nat.ofDigits_lt_base_pow_length (by decide) digits

theorem decode_append (first second : List UInt8) :
    decode (first ++ second) = decode first + 256 ^ first.length * decode second := by
  simp [decode, Nat.ofDigits_append]

@[simp]
theorem length_encodeSigned (width : Nat) (value : Int) :
    (encodeSigned width value).length = width :=
  length_encode width _

theorem decode_encodeSigned (width : Nat) (value : Int) :
    (decode (encodeSigned width value) : Int) = value % (256 ^ width : Nat) := by
  have positive : 0 < ((256 ^ width : Nat) : Int) :=
    Int.natCast_pos.mpr (Nat.pow_pos (by decide))
  have nonneg := Int.emod_nonneg value positive.ne'
  have below := Int.emod_lt_of_pos value positive
  have small : (value % (256 ^ width : Nat)).toNat < 256 ^ width := by omega
  rw [encodeSigned, decode_encode, Nat.mod_eq_of_lt small, Int.toNat_of_nonneg nonneg]

/-- A signed number that fits in the width is read back. -/
theorem decodeSigned_encodeSigned {width : Nat} {value : Int}
    (least : -(256 ^ width : Nat) ≤ 2 * value)
    (greatest : 2 * value < (256 ^ width : Nat)) :
    decodeSigned (encodeSigned width value) = value := by
  rw [decodeSigned, decode_encodeSigned, length_encodeSigned, Int.emod_bmod]
  apply Int.bmod_eq_of_le_mul_two <;> omega

end Wrest.LittleEndian
