import Wrest.ChunkedCoding

/-!
# Percent-encoded octets

A percent sign and two hexadecimal digits stand for one octet.  A percent sign
without two such digits behind it stands for itself, as `percent_decode_str` of the
`percent-encoding` crate documents.  Its sets of octets to encode are left out.
-/

namespace Wrest.PercentEncoding

open ChunkedCoding

/-- The percent sign. -/
def percent : UInt8 := 37

/-- The octet of two hexadecimal digits. -/
def octetOf (high low : UInt8) : Option UInt8 := do
  let highDigit ← hexValue high
  let lowDigit ← hexValue low
  some (UInt8.ofNat (16 * highDigit + lowDigit))

def percentDecode : List UInt8 → List UInt8
  | [] => []
  | octet :: rest =>
    if octet = percent then
      match rest with
      | high :: low :: behind =>
        match octetOf high low with
        | some decoded => decoded :: percentDecode behind
        | none => octet :: percentDecode (high :: low :: behind)
      | short => octet :: percentDecode short
    else
      octet :: percentDecode rest

theorem percentDecode_of_notMem {octets : List UInt8} (absent : percent ∉ octets) :
    percentDecode octets = octets := by
  induction octets with
  | nil => rfl
  | cons octet rest ih =>
    simp only [List.mem_cons, not_or] at absent
    unfold percentDecode
    rw [if_neg (Ne.symm absent.1), ih absent.2]

/-- An octet that is not a percent sign stands for itself. -/
theorem percentDecode_cons_of_ne {octet : UInt8} (different : octet ≠ percent)
    (rest : List UInt8) : percentDecode (octet :: rest) = octet :: percentDecode rest := by
  conv => lhs; unfold percentDecode
  exact if_neg different

/-- A hexadecimal digit in upper case. -/
def hexDigit (digit : Nat) : UInt8 :=
  UInt8.ofNat (if digit < 10 then 48 + digit else 55 + digit)

def percentEncode (octet : UInt8) : List UInt8 :=
  [percent, hexDigit (octet.toNat / 16), hexDigit (octet.toNat % 16)]

theorem octetOf_hexDigits (octet : UInt8) :
    octetOf (hexDigit (octet.toNat / 16)) (hexDigit (octet.toNat % 16)) = some octet := by
  have digits : ∀ digit : Fin 16, hexValue (hexDigit digit.val) = some digit.val := by decide
  have bound := octet.toNat_lt
  have high := digits ⟨octet.toNat / 16, by omega⟩
  have low := digits ⟨octet.toNat % 16, by omega⟩
  simp only [octetOf, high, low, Option.bind_eq_bind, Option.bind_some]
  rw [Nat.div_add_mod, UInt8.ofNat_toNat]

theorem percentDecode_percentEncode (octet : UInt8) (rest : List UInt8) :
    percentDecode (percentEncode octet ++ rest) = octet :: percentDecode rest := by
  simp only [percentEncode, List.cons_append, List.nil_append]
  rw [percentDecode, if_pos rfl, octetOf_hexDigits]

end Wrest.PercentEncoding
