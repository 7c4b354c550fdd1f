/-!
# The base-64 encoding

Three octets are written as four characters of a 64-character alphabet.  One or
two octets at the end are filled up with zero bits, and the text with padding.
Reading accepts only texts that writing can produce, so the fill bits must be
zero and padding stands at the end only.  This is what the `base64` crate documents of its
engine `STANDARD`; what it says about the place of an error is left out.
-/

namespace Wrest.Base64

/-- The character of a six-bit value: letters, digits, plus and slash. -/
def symbol (value : Nat) : UInt8 :=
  if value < 26 then
    UInt8.ofNat (65 + value)
  else if value < 52 then
    UInt8.ofNat (71 + value)
  else if value < 62 then
    UInt8.ofNat (value - 4)
  else if value = 62 then
    43
  else
    47

/-- The equals sign. -/
def padding : UInt8 := 61

def symbolValue (octet : UInt8) : Option Nat :=
  let code := octet.toNat
  if 65 ≤ code ∧ code ≤ 90 then
    some (code - 65)
  else if 97 ≤ code ∧ code ≤ 122 then
    some (code - 71)
  else if 48 ≤ code ∧ code ≤ 57 then
    some (code + 4)
  else if code = 43 then
    some 62
  else if code = 47 then
    some 63
  else
    none

def encode : List UInt8 → List UInt8
  | [] => []
  | [first] => [symbol (first.toNat / 4), symbol (first.toNat % 4 * 16), padding, padding]
  | [first, second] =>
    [symbol (first.toNat / 4), symbol (first.toNat % 4 * 16 + second.toNat / 16),
      symbol (second.toNat % 16 * 4), padding]
  | first :: second :: third :: rest =>
    symbol (first.toNat / 4) :: symbol (first.toNat % 4 * 16 + second.toNat / 16) ::
      symbol (second.toNat % 16 * 4 + third.toNat / 64) :: symbol (third.toNat % 64) ::
      encode rest

/-- The octets of a group of four characters. -/
def decodeGroup (first second third fourth : UInt8) : Option (List UInt8) := do
  let high ← symbolValue first
  let low ← symbolValue second
  let octet := UInt8.ofNat (high * 4 + low / 16)
  if third = padding then
    if fourth = padding ∧ low % 16 = 0 then some [octet] else none
  else
    let next ← symbolValue third
    let nextOctet := UInt8.ofNat (low % 16 * 16 + next / 4)
    if fourth = padding then
      if next % 4 = 0 then some [octet, nextOctet] else none
    else
      let last ← symbolValue fourth
      some [octet, nextOctet, UInt8.ofNat (next % 4 * 64 + last)]

/-- Only the last group may be shorter. -/
def decode : List UInt8 → Option (List UInt8)
  | [] => some []
  | first :: second :: third :: fourth :: rest => do
    let octets ← decodeGroup first second third fourth
    if octets.length < 3 ∧ rest ≠ [] then
      none
    else
      let more ← decode rest
      some (octets ++ more)
  | _ => none

@[simp]
theorem symbolValue_symbol {value : Nat} (bound : value < 64) :
    symbolValue (symbol value) = some value := by
  have all : ∀ value < 64, symbolValue (symbol value) = some value := by decide
  exact all value bound

@[simp]
theorem symbol_ne_padding {value : Nat} (bound : value < 64) :
    symbol value ≠ padding := by
  intro same
  have read := symbolValue_symbol bound
  rw [same] at read
  cases read

theorem decodeGroup_one {high low : Nat} (highBound : high < 64) (lowBound : low < 64)
    (filled : low % 16 = 0) :
    decodeGroup (symbol high) (symbol low) padding padding =
      some [UInt8.ofNat (high * 4 + low / 16)] := by
  simp [decodeGroup, highBound, lowBound, filled]

theorem decodeGroup_two {high low next : Nat} (highBound : high < 64)
    (lowBound : low < 64) (nextBound : next < 64) (filled : next % 4 = 0) :
    decodeGroup (symbol high) (symbol low) (symbol next) padding =
      some [UInt8.ofNat (high * 4 + low / 16), UInt8.ofNat (low % 16 * 16 + next / 4)] := by
  simp [decodeGroup, highBound, lowBound, nextBound, filled]

theorem decodeGroup_three {high low next last : Nat} (highBound : high < 64)
    (lowBound : low < 64) (nextBound : next < 64) (lastBound : last < 64) :
    decodeGroup (symbol high) (symbol low) (symbol next) (symbol last) =
      some [UInt8.ofNat (high * 4 + low / 16), UInt8.ofNat (low % 16 * 16 + next / 4),
        UInt8.ofNat (next % 4 * 64 + last)] := by
  simp [decodeGroup, highBound, lowBound, nextBound, lastBound]

private theorem ofNat_eq {octet : UInt8} {value : Nat} (same : value = octet.toNat) :
    UInt8.ofNat value = octet := by
  rw [same, UInt8.ofNat_toNat]

/-- Reading undoes writing. -/
theorem decode_encode (octets : List UInt8) : decode (encode octets) = some octets := by
  induction octets using encode.induct with
  | case1 => rfl
  | case2 first =>
    have bound := first.toNat_lt
    have firstOctet : first.toNat / 4 * 4 + first.toNat % 4 * 16 / 16 = first.toNat := by
      omega
    rw [encode, decode, decodeGroup_one (by omega) (by omega) (by omega),
      ofNat_eq firstOctet]
    rfl
  | case3 first second =>
    have firstBound := first.toNat_lt
    have secondBound := second.toNat_lt
    have firstOctet : first.toNat / 4 * 4 +
        (first.toNat % 4 * 16 + second.toNat / 16) / 16 = first.toNat := by omega
    have secondOctet : (first.toNat % 4 * 16 + second.toNat / 16) % 16 * 16 +
        second.toNat % 16 * 4 / 4 = second.toNat := by omega
    rw [encode, decode, decodeGroup_two (by omega) (by omega) (by omega) (by omega),
      ofNat_eq firstOctet, ofNat_eq secondOctet]
    rfl
  | case4 first second third rest ih =>
    have firstBound := first.toNat_lt
    have secondBound := second.toNat_lt
    have thirdBound := third.toNat_lt
    have firstOctet : first.toNat / 4 * 4 +
        (first.toNat % 4 * 16 + second.toNat / 16) / 16 = first.toNat := by omega
    have secondOctet : (first.toNat % 4 * 16 + second.toNat / 16) % 16 * 16 +
        (second.toNat % 16 * 4 + third.toNat / 64) / 4 = second.toNat := by omega
    have thirdOctet : (second.toNat % 16 * 4 + third.toNat / 64) % 4 * 64 +
        third.toNat % 64 = third.toNat := by omega
    rw [encode, decode, decodeGroup_three (by omega) (by omega) (by omega) (by omega),
      ofNat_eq firstOctet, ofNat_eq secondOctet, ofNat_eq thirdOctet, ih]
    simp

/-- A property of the alphabet and of the padding is one of every text. -/
theorem forall_mem_encode {condition : UInt8 → Prop}
    (symbols : ∀ value < 64, condition (symbol value)) (pad : condition padding)
    (octets : List UInt8) : ∀ octet ∈ encode octets, condition octet := by
  induction octets using encode.induct with
  | case1 => simp [encode]
  | case2 first =>
    have bound := first.toNat_lt
    simp only [encode, List.forall_mem_cons, List.not_mem_nil, false_implies, implies_true]
    exact ⟨symbols _ (by omega), symbols _ (by omega), pad, pad, trivial⟩
  | case3 first second =>
    have firstBound := first.toNat_lt
    have secondBound := second.toNat_lt
    simp only [encode, List.forall_mem_cons, List.not_mem_nil, false_implies, implies_true]
    exact ⟨symbols _ (by omega), symbols _ (by omega), symbols _ (by omega), pad, trivial⟩
  | case4 first second third rest ih =>
    have firstBound := first.toNat_lt
    have secondBound := second.toNat_lt
    have thirdBound := third.toNat_lt
    simp only [encode, List.forall_mem_cons]
    exact ⟨symbols _ (by omega), symbols _ (by omega), symbols _ (by omega),
      symbols _ (by omega), ih⟩

end Wrest.Base64
