import Mathlib.Data.List.Induction
import Wrest.PercentEncodings

/-!
# Form encoding

The encoding `application/x-www-form-urlencoded` writes pairs of octet strings with an
equals sign inside each pair and an ampersand between pairs.  Letters, digits and four
marks stand for themselves, a blank is written as a plus sign, and every other octet is
percent-encoded.  Reading undoes writing.

The `form_urlencoded` crate implements this encoding of the URL standard.  Of its serializer
only `append_pair` is here, with the encoding UTF-8, and of its parser the octets before
they are decoded as UTF-8.
-/

namespace Wrest.FormEncoding

open PercentEncoding

/-- The octets that stand for themselves. -/
def isLiteral (octet : UInt8) : Bool :=
  (48 ≤ octet.toNat && octet.toNat ≤ 57) || (65 ≤ octet.toNat && octet.toNat ≤ 90) ||
    (97 ≤ octet.toNat && octet.toNat ≤ 122) || [42, 45, 46, 95].contains octet

def blank : UInt8 := 32
def ampersand : UInt8 := 38
def plus : UInt8 := 43
def equalsSign : UInt8 := 61

def encodeOctet (octet : UInt8) : List UInt8 :=
  if isLiteral octet then [octet]
  else if octet = blank then [plus]
  else percentEncode octet

def encode (octets : List UInt8) : List UInt8 :=
  octets.flatMap encodeOctet

def pairText (pair : List UInt8 × List UInt8) : List UInt8 :=
  encode pair.1 ++ equalsSign :: encode pair.2

/-- Behind another pair, a pair follows an ampersand. -/
def appendPair (target : List UInt8) (pair : List UInt8 × List UInt8) : List UInt8 :=
  if target = [] then pairText pair else target ++ ampersand :: pairText pair

def serialize (pairs : List (List UInt8 × List UInt8)) : List UInt8 :=
  pairs.foldl appendPair []

theorem serialize_concat (pairs : List (List UInt8 × List UInt8))
    (pair : List UInt8 × List UInt8) :
    serialize (pairs ++ [pair]) = appendPair (serialize pairs) pair := by
  rw [serialize, List.foldl_append]
  rfl

def unplus (octet : UInt8) : UInt8 :=
  if octet = plus then blank else octet

def decode (octets : List UInt8) : List UInt8 :=
  percentDecode (octets.map unplus)

/-- A name, and a value behind the first equals sign. -/
def parsePair (octets : List UInt8) : List UInt8 × List UInt8 :=
  (decode (octets.takeWhile (· != equalsSign)),
    decode ((octets.dropWhile (· != equalsSign)).drop 1))

def parse (octets : List UInt8) : List (List UInt8 × List UInt8) :=
  ((octets.splitOn ampersand).filter fun piece => !piece.isEmpty).map parsePair

/-- The octets that encoded text has besides percent signs. -/
def isFormOctet (octet : UInt8) : Bool :=
  isLiteral octet || octet == plus

theorem hexDigit_isLiteral {digit : Nat} (lt : digit < 16) :
    isLiteral (hexDigit digit) = true := by
  have checked : ∀ digit : Fin 16, isLiteral (hexDigit digit.val) = true := by decide
  exact checked ⟨digit, lt⟩

theorem mem_encode {octets : List UInt8} {octet : UInt8} (member : octet ∈ encode octets) :
    isFormOctet octet = true ∨ octet = percent := by
  obtain ⟨source, -, member⟩ := List.mem_flatMap.mp member
  have bound := source.toNat_lt
  unfold encodeOctet at member
  split at member
  · next literal =>
    obtain rfl := List.mem_singleton.mp member
    exact .inl (by rw [isFormOctet, literal, Bool.true_or])
  · split at member
    · obtain rfl := List.mem_singleton.mp member
      exact .inl (by decide)
    · simp only [percentEncode, List.mem_cons, List.not_mem_nil, or_false] at member
      rcases member with rfl | rfl | rfl
      · exact .inr rfl
      · exact .inl (by rw [isFormOctet, hexDigit_isLiteral (by omega), Bool.true_or])
      · exact .inl (by rw [isFormOctet, hexDigit_isLiteral (by omega), Bool.true_or])

/-- Encoded text has no separators. -/
theorem separator_notMem_encode {separator : UInt8}
    (among : separator = ampersand ∨ separator = equalsSign) (octets : List UInt8) :
    separator ∉ encode octets := by
  intro member
  rcases mem_encode member with form | isPercent
  · rcases among with rfl | rfl <;> cases form
  · rcases among with rfl | rfl <;> cases isPercent

section RoundTrip

theorem decode_encodeOctet (octet : UInt8) (rest : List UInt8) :
    decode (encodeOctet octet ++ rest) = octet :: decode rest := by
  have keptLiteral : ∀ {octet : UInt8}, isLiteral octet = true → unplus octet = octet := by
    intro octet literal
    apply if_neg
    rintro rfl
    cases literal
  have bound := octet.toNat_lt
  unfold decode
  rw [List.map_append, encodeOctet]
  split
  · next literal =>
    have notPercent : octet ≠ percent := by
      rintro rfl
      cases literal
    rw [List.map_singleton, keptLiteral literal, List.singleton_append,
      percentDecode_cons_of_ne notPercent]
  · split
    · next isBlank =>
      rw [isBlank]
      exact percentDecode_cons_of_ne (by decide) _
    · have kept : (percentEncode octet).map unplus = percentEncode octet := by
        simp only [percentEncode, List.map_cons, List.map_nil,
          keptLiteral (hexDigit_isLiteral (by omega : octet.toNat / 16 < 16)),
          keptLiteral (hexDigit_isLiteral (by omega : octet.toNat % 16 < 16))]
        rfl
      rw [kept, percentDecode_percentEncode]

theorem decode_encode (octets : List UInt8) : decode (encode octets) = octets := by
  induction octets with
  | nil => rfl
  | cons octet octets ih =>
    rw [encode, List.flatMap_cons, decode_encodeOctet]
    exact congrArg _ ih

theorem parsePair_pairText (pair : List UInt8 × List UInt8) :
    parsePair (pairText pair) = pair := by
  have before : ∀ octet ∈ encode pair.1, (octet != equalsSign) = true := by
    intro octet member
    rw [bne_iff_ne]
    rintro rfl
    exact separator_notMem_encode (.inr rfl) pair.1 member
  rw [parsePair, pairText, List.takeWhile_append_of_pos before,
    List.dropWhile_append_of_pos before, List.takeWhile_cons_of_neg (by decide),
    List.dropWhile_cons_of_neg (by decide), List.append_nil, List.drop_one, List.tail_cons,
    decode_encode, decode_encode]

theorem pairText_ne_nil (pair : List UInt8 × List UInt8) : pairText pair ≠ [] :=
  List.append_ne_nil_of_right_ne_nil _ (List.cons_ne_nil _ _)

theorem ampersand_notMem_pairText (pair : List UInt8 × List UInt8) :
    ampersand ∉ pairText pair := by
  have notEquals : ampersand ≠ equalsSign := by decide
  simp [pairText, separator_notMem_encode (.inl rfl), notEquals]

theorem parse_pairText (pair : List UInt8 × List UInt8) : parse (pairText pair) = [pair] := by
  rw [parse, List.splitOn_eq_singleton (ampersand_notMem_pairText pair)]
  simp [pairText_ne_nil pair, parsePair_pairText]

theorem parse_appendPair (target : List UInt8) (pair : List UInt8 × List UInt8) :
    parse (appendPair target pair) = parse target ++ [pair] := by
  unfold appendPair
  split
  · next empty =>
    rw [empty, parse_pairText]
    rfl
  · rw [← parse_pairText pair]
    simp only [parse, List.splitOn_append_cons_self, List.filter_append, List.map_append]

/-- Reading undoes writing. -/
theorem parse_serialize (pairs : List (List UInt8 × List UInt8)) :
    parse (serialize pairs) = pairs := by
  induction pairs using List.reverseRecOn with
  | nil => rfl
  | append_singleton pairs pair ih =>
    rw [serialize_concat, parse_appendPair, ih]

theorem serialize_injective : Function.Injective serialize :=
  Function.LeftInverse.injective parse_serialize

end RoundTrip

section Append

theorem serialize_eq_nil_iff {pairs : List (List UInt8 × List UInt8)} :
    serialize pairs = [] ↔ pairs = [] :=
  ⟨fun empty => serialize_injective empty, fun empty => empty ▸ rfl⟩

/-- Two texts of pairs, with an ampersand between if neither is empty. -/
def join (first second : List UInt8) : List UInt8 :=
  if second = [] then first
  else if first = [] then second
  else first ++ ampersand :: second

theorem appendPair_join (first second : List UInt8) (pair : List UInt8 × List UInt8) :
    appendPair (join first second) pair = join first (appendPair second pair) := by
  have nonempty := pairText_ne_nil pair
  unfold appendPair join
  by_cases secondEmpty : second = []
  · subst secondEmpty
    simp [nonempty]
  · by_cases firstEmpty : first = []
    · simp [secondEmpty, firstEmpty]
    · simp [secondEmpty, firstEmpty]

theorem foldl_appendPair (target : List UInt8) (pairs : List (List UInt8 × List UInt8)) :
    pairs.foldl appendPair target = join target (serialize pairs) := by
  induction pairs using List.reverseRecOn with
  | nil => rfl
  | append_singleton pairs pair ih =>
    rw [serialize_concat, List.foldl_append, ih]
    exact appendPair_join target (serialize pairs) pair

theorem serialize_append (first second : List (List UInt8 × List UInt8)) :
    serialize (first ++ second) = join (serialize first) (serialize second) := by
  rw [serialize, List.foldl_append]
  exact foldl_appendPair (serialize first) second

end Append

theorem lt_of_isFormOctet {octet : UInt8} (form : isFormOctet octet = true) :
    octet.toNat < 128 := by
  simp only [isFormOctet, isLiteral, plus, Bool.or_eq_true, Bool.and_eq_true,
    decide_eq_true_eq, List.contains_iff_mem, List.mem_cons, List.not_mem_nil, or_false,
    beq_iff_eq] at form
  rcases form with (((digit | upper) | lower) | rfl | rfl | rfl | rfl) | rfl
  all_goals first | omega | decide

theorem lt_of_mem_encode {octets : List UInt8} {octet : UInt8}
    (member : octet ∈ encode octets) : octet.toNat < 128 := by
  rcases mem_encode member with form | rfl
  · exact lt_of_isFormOctet form
  · decide

theorem lt_of_mem_pairText {pair : List UInt8 × List UInt8} {octet : UInt8}
    (member : octet ∈ pairText pair) : octet.toNat < 128 := by
  rw [pairText, List.mem_append, List.mem_cons] at member
  rcases member with name | rfl | value
  · exact lt_of_mem_encode name
  · decide
  · exact lt_of_mem_encode value

/-- What is written is ASCII. -/
theorem lt_of_mem_serialize {pairs : List (List UInt8 × List UInt8)} {octet : UInt8}
    (member : octet ∈ serialize pairs) : octet.toNat < 128 := by
  induction pairs using List.reverseRecOn with
  | nil => cases member
  | append_singleton pairs pair ih =>
    rw [serialize_concat, appendPair] at member
    split at member
    · exact lt_of_mem_pairText member
    · rw [List.mem_append, List.mem_cons] at member
      rcases member with before | rfl | inPair
      · exact ih before
      · decide
      · exact lt_of_mem_pairText inPair

end Wrest.FormEncoding
