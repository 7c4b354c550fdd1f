import Wrest.RequestUrls
import Mathlib.Data.List.Nodup

/-!
# Header maps and protocol versions

A header map gives each header name a nonempty list of values, in the order in
which they were added, and an iteration gives the values of a name one after the other, as
the `http` crate documents.  The crate leaves the order of the names open; here it is the
order in which they were added first.  Its hash table is left out, and with it the panic of
a map that grows too large, which only `ResponseHeaders` takes into account.

Names are nonempty lower-case tokens of limited length, and values are octets without
control characters other than tabs, as the parsed types of the crate guarantee.  The
transport sees a value as text with one character for each octet.
-/

namespace Wrest

/-- `http::Version`; the default is HTTP/1.1. -/
inductive Version
  | http09
  | http10
  | http11
  | http2
  | http3
deriving DecidableEq, Repr

instance : Inhabited Version :=
  ⟨.http11⟩

def isTokenChar (character : Char) : Bool :=
  ('a' ≤ character && character ≤ 'z') || ('0' ≤ character && character ≤ '9') ||
    "!#$%&'*+-.^_`|~".toList.contains character

def maxHeaderNameLength : Nat := 65535

structure HeaderName where
  text : String
  tokens : ∀ character ∈ text.toList, isTokenChar character = true
  nonempty : text ≠ ""
  short : text.length ≤ maxHeaderNameLength
deriving DecidableEq

def isValueByte (byte : UInt8) : Bool :=
  (32 ≤ byte.toNat && byte.toNat != 127) || byte.toNat == 9

structure HeaderValue where
  bytes : List UInt8
  valid : ∀ byte ∈ bytes, isValueByte byte = true
deriving DecidableEq

def latin1Char (byte : UInt8) : Char :=
  Char.ofNat byte.toNat

/-- The text that the transport is given for a value. -/
def widenLatin1 (bytes : List UInt8) : String :=
  String.ofList (bytes.map latin1Char)

/-- The occurrences of a header map, grouped by name. -/
structure HeaderMap where
  entries : List (HeaderName × HeaderValue × List HeaderValue)
  distinct : (entries.map Prod.fst).Nodup

namespace HeaderMap

def valuesOf (entry : HeaderName × HeaderValue × List HeaderValue) :
    List HeaderValue :=
  entry.2.1 :: entry.2.2

/-- The occurrences, one for each value. -/
def iter (map : HeaderMap) : List (HeaderName × HeaderValue) :=
  map.entries.flatMap fun entry =>
    (valuesOf entry).map fun value => (entry.1, value)

end HeaderMap

/-- The list that `Client::execute` makes of the map. -/
def headerList (map : HeaderMap) : List (String × String) :=
  map.iter.map fun occurrence =>
    (occurrence.1.text, widenLatin1 occurrence.2.bytes)

theorem not_isTokenChar_colon : isTokenChar ':' = false := by
  decide

theorem asciiLower_of_isTokenChar {character : Char}
    (token : isTokenChar character = true) : asciiLower character = character := by
  unfold asciiLower
  rw [if_neg]
  rintro ⟨fromA, toZ⟩
  simp only [isTokenChar, Bool.or_eq_true, Bool.and_eq_true, decide_eq_true_eq,
    List.contains_iff_mem] at token
  rcases token with (⟨lower, -⟩ | ⟨-, digit⟩) | punctuation
  · exact absurd (Char.le_trans lower toZ) (by decide)
  · exact absurd (Char.le_trans fromA digit) (by decide)
  · have notUpper : ("!#$%&'*+-.^_`|~".toList.all fun other =>
        !(decide ('A' ≤ other) && decide (other ≤ 'Z'))) = true := by decide
    have upper := List.all_eq_true.mp notUpper character punctuation
    simp [fromA, toZ] at upper

theorem latin1Char_toNat (byte : UInt8) : (latin1Char byte).toNat = byte.toNat := by
  have bound := byte.toNat_lt
  have valid : byte.toNat.isValidChar := Or.inl (by omega)
  rw [latin1Char, Char.ofNat, dif_pos valid]
  rfl

theorem latin1Char_injective : Function.Injective latin1Char := by
  intro first second same
  have natEq := congrArg Char.toNat same
  rw [latin1Char_toNat, latin1Char_toNat] at natEq
  exact UInt8.toNat_inj.mp natEq

/-- Widening loses nothing. -/
theorem widenLatin1_injective : Function.Injective widenLatin1 := by
  intro first second same
  have listEq := congrArg String.toList same
  simp only [widenLatin1, String.toList_ofList] at listEq
  exact List.map_injective_iff.mpr latin1Char_injective listEq

section Example

def nameX : HeaderName :=
  ⟨"x", List.all_eq_true.mp (by decide), by decide, by decide⟩

def nameY : HeaderName :=
  ⟨"y", List.all_eq_true.mp (by decide), by decide, by decide⟩

/-- The last digit of a number. -/
def digitValue (number : Nat) : HeaderValue where
  bytes := [UInt8.ofNat (48 + number % 10)]
  valid := by
    intro byte member
    have digit : number % 10 < 10 := Nat.mod_lt _ (by decide)
    have value : (UInt8.ofNat (48 + number % 10)).toNat = 48 + number % 10 :=
      Nat.mod_eq_of_lt (by omega)
    rw [List.mem_singleton.mp member, isValueByte, value]
    simp only [Bool.or_eq_true, Bool.and_eq_true, decide_eq_true_eq, bne_iff_ne]
    exact .inl ⟨by omega, by omega⟩

end Example

end Wrest
