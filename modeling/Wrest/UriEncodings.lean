/-!
# Characters and encoded text of URIs

The character classes of URIs and IRIs, and text of a class in which other octets are
percent-encoded.  An IRI becomes a URI when every character outside ASCII is replaced
by its encoded octets.
-/

namespace Wrest.Uri

def isAscii (character : Char) : Bool :=
  decide (character.toNat < 128)

def isUnreserved (character : Char) : Bool :=
  character.isAlphanum || ['-', '.', '_', '~'].contains character

def isSubDelim (character : Char) : Bool :=
  ['!', '$', '&', '\'', '(', ')', '*', '+', ',', ';', '='].contains character

/-- The characters outside ASCII that an IRI may have anywhere but in its scheme. -/
def isUcschar (character : Char) : Bool :=
  let code := character.toNat
  (0xA0 ≤ code && code ≤ 0xD7FF) || (0xF900 ≤ code && code ≤ 0xFDCF) ||
    (0xFDF0 ≤ code && code ≤ 0xFFEF) ||
    (0x10000 ≤ code && code ≤ 0xDFFFF && code % 0x10000 ≤ 0xFFFD) ||
    (0xE1000 ≤ code && code ≤ 0xEFFFD)

/-- The characters that an IRI may have in its query only. -/
def isIprivate (character : Char) : Bool :=
  let code := character.toNat
  (0xE000 ≤ code && code ≤ 0xF8FF) || (0xF0000 ≤ code && code ≤ 0xFFFFD) ||
    (0x100000 ≤ code && code ≤ 0x10FFFD)

def isRegNameChar (character : Char) : Bool :=
  isUnreserved character || isUcschar character || isSubDelim character

def isUserinfoChar (character : Char) : Bool :=
  isRegNameChar character || character == ':'

def isPathChar (character : Char) : Bool :=
  isRegNameChar character || [':', '@', '/'].contains character

def isFragmentChar (character : Char) : Bool :=
  isPathChar character || character == '?'

def isQueryChar (character : Char) : Bool :=
  isFragmentChar character || isIprivate character

/-- Text of a class of characters and of percent-encoded octets. -/
def isEncoded (allowed : Char → Bool) : List Char → Bool
  | [] => true
  | '%' :: high :: low :: rest =>
    high.isHexDigit && low.isHexDigit && isEncoded allowed rest
  | character :: rest => allowed character && isEncoded allowed rest

/-- A hexadecimal digit in upper case. -/
def upperHexDigit (digit : Nat) : Char :=
  Char.ofNat (if digit < 10 then 48 + digit else 55 + digit)

def percentOctet (octet : UInt8) : List Char :=
  ['%', upperHexDigit (octet.toNat / 16), upperHexDigit (octet.toNat % 16)]

/-- Encode the octets of one character outside ASCII. -/
def encodeCharacter (character : Char) : List Char :=
  if isAscii character then
    [character]
  else
    (String.utf8EncodeChar character).flatMap percentOctet

def encodeNonAscii (text : List Char) : List Char :=
  text.flatMap encodeCharacter

section Encoded

variable {allowed : Char → Bool} {text : List Char}

theorem isEncoded_cons {character : Char} (notPercent : character ≠ '%') (rest : List Char) :
    isEncoded allowed (character :: rest) =
      (allowed character && isEncoded allowed rest) := by
  rw [isEncoded]
  intro high low behind impossible
  exact absurd impossible notPercent

/-- Encoded text is a whole number of characters and encoded octets. -/
theorem isEncoded_append (percent : allowed '%' = false)
    (encoded : isEncoded allowed text = true) (rest : List Char) :
    isEncoded allowed (text ++ rest) = isEncoded allowed rest := by
  fun_induction isEncoded allowed text with
  | case1 => rfl
  | case2 high low behind ih =>
    simp only [Bool.and_eq_true] at encoded
    simp [isEncoded, encoded.1.1, encoded.1.2, ih encoded.2]
  | case3 first behind _ ih =>
    simp only [Bool.and_eq_true] at encoded
    have notPercent : first ≠ '%' := by
      rintro rfl
      exact Bool.false_ne_true (percent.symm.trans encoded.1)
    rw [List.cons_append, isEncoded_cons notPercent, encoded.1, ih encoded.2, Bool.true_and]

theorem mem_of_isEncoded (encoded : isEncoded allowed text = true) {character : Char}
    (member : character ∈ text) :
    allowed character = true ∨ character = '%' ∨ character.isHexDigit = true := by
  fun_induction isEncoded allowed text with
  | case1 => cases member
  | case2 high low rest ih =>
    simp only [Bool.and_eq_true] at encoded
    obtain ⟨⟨highHex, lowHex⟩, restEncoded⟩ := encoded
    simp only [List.mem_cons] at member
    rcases member with rfl | rfl | rfl | member
    · exact .inr (.inl rfl)
    · exact .inr (.inr highHex)
    · exact .inr (.inr lowHex)
    · exact ih restEncoded member
  | case3 first rest _ ih =>
    simp only [Bool.and_eq_true] at encoded
    rcases List.mem_cons.mp member with rfl | member
    · exact .inl encoded.1
    · exact ih encoded.2 member

theorem isEncoded_mono {wider : Char → Bool}
    (includes : ∀ character, allowed character = true → wider character = true)
    (encoded : isEncoded allowed text = true) : isEncoded wider text = true := by
  fun_induction isEncoded allowed text with
  | case1 => rfl
  | case2 high low rest ih =>
    simp only [Bool.and_eq_true] at encoded
    simp only [isEncoded, Bool.and_eq_true]
    exact ⟨encoded.1, ih encoded.2⟩
  | case3 first rest short ih =>
    simp only [Bool.and_eq_true] at encoded
    rw [isEncoded]
    · simp only [Bool.and_eq_true]
      exact ⟨includes first encoded.1, ih encoded.2⟩
    · exact short

/-- Text without encoded octets. -/
theorem isEncoded_of_forall (all : ∀ character ∈ text, allowed character = true)
    (percent : allowed '%' = false) : isEncoded allowed text = true := by
  fun_induction isEncoded allowed text with
  | case1 => rfl
  | case2 high low rest ih =>
    cases percent.symm.trans (all '%' List.mem_cons_self)
  | case3 first rest _ ih =>
    simp only [Bool.and_eq_true]
    exact ⟨all first List.mem_cons_self,
      ih fun character member => all character (List.mem_cons_of_mem first member)⟩

end Encoded

section NonAscii

theorem upperHexDigit_spec {digit : Nat} (lt : digit < 16) :
    (upperHexDigit digit).isHexDigit = true ∧ isAscii (upperHexDigit digit) = true := by
  have checked : ∀ digit : Fin 16, (upperHexDigit digit.val).isHexDigit = true ∧
      isAscii (upperHexDigit digit.val) = true := by decide
  exact checked ⟨digit, lt⟩

theorem octet_div_lt (octet : UInt8) : octet.toNat / 16 < 16 := by
  have bound := octet.toNat_lt
  omega

theorem octet_mod_lt (octet : UInt8) : octet.toNat % 16 < 16 := by
  omega

theorem isEncoded_percentOctets (allowed : Char → Bool) (octets : List UInt8)
    (rest : List Char) :
    isEncoded allowed (octets.flatMap percentOctet ++ rest) = isEncoded allowed rest := by
  induction octets with
  | nil => rfl
  | cons octet octets ih =>
    have high := (upperHexDigit_spec (octet_div_lt octet)).1
    have low := (upperHexDigit_spec (octet_mod_lt octet)).1
    rw [List.flatMap_cons, List.append_assoc, ← ih]
    simp only [percentOctet, List.cons_append, List.nil_append, isEncoded, high, low,
      Bool.true_and]

theorem isAscii_of_mem_percentOctets {octets : List UInt8} {character : Char}
    (member : character ∈ octets.flatMap percentOctet) : isAscii character = true := by
  obtain ⟨octet, -, member⟩ := List.mem_flatMap.mp member
  simp only [percentOctet, List.mem_cons, List.not_mem_nil, or_false] at member
  rcases member with rfl | rfl | rfl
  · rfl
  · exact (upperHexDigit_spec (octet_div_lt octet)).2
  · exact (upperHexDigit_spec (octet_mod_lt octet)).2

theorem isAscii_of_mem_encodeNonAscii {text : List Char} {character : Char}
    (member : character ∈ encodeNonAscii text) : isAscii character = true := by
  obtain ⟨source, -, member⟩ := List.mem_flatMap.mp member
  unfold encodeCharacter at member
  split at member
  · next ascii =>
    obtain rfl := List.mem_singleton.mp member
    exact ascii
  · exact isAscii_of_mem_percentOctets member

@[simp]
theorem encodeNonAscii_nil : encodeNonAscii [] = [] :=
  rfl

theorem encodeNonAscii_cons {character : Char} (ascii : isAscii character = true)
    (rest : List Char) : encodeNonAscii (character :: rest) = character :: encodeNonAscii rest := by
  rw [encodeNonAscii, List.flatMap_cons, encodeCharacter, if_pos ascii]
  rfl

/-- A URI is not changed. -/
theorem encodeNonAscii_of_ascii {text : List Char}
    (ascii : ∀ character ∈ text, isAscii character = true) : encodeNonAscii text = text := by
  induction text with
  | nil => rfl
  | cons character rest ih =>
    rw [encodeNonAscii_cons (ascii character List.mem_cons_self),
      ih fun other member => ascii other (List.mem_cons_of_mem character member)]

/-- What is checked for 128 codes holds of every ASCII character. -/
theorem exists_code {character : Char} (ascii : isAscii character = true) :
    ∃ code : Fin 128, character = Char.ofNat code.val :=
  ⟨⟨character.toNat, of_decide_eq_true ascii⟩, (Char.ofNat_toNat character).symm⟩

theorem isAscii_of_isAlphanum {character : Char} (alphanum : character.isAlphanum = true) :
    isAscii character = true := by
  have kinds : (character.isUpper = true ∨ character.isLower = true) ∨
      character.isDigit = true := by
    rw [← Bool.or_eq_true, ← Bool.or_eq_true]
    exact alphanum
  have below : ∀ last : Char, last.toNat < 128 → character.val ≤ last.val →
      isAscii character = true :=
    fun last small le => decide_eq_true (Nat.lt_of_le_of_lt le small)
  rcases kinds with (upper | lower) | digit
  · exact below 'Z' (by decide) (of_decide_eq_true upper).2
  · exact below 'z' (by decide) (of_decide_eq_true ((Bool.and_eq_true _ _).mp lower).2)
  · exact below '9' (by decide) (of_decide_eq_true ((Bool.and_eq_true _ _).mp digit).2)

theorem isAscii_of_isHexDigit {character : Char} (hex : character.isHexDigit = true) :
    isAscii character = true := by
  simp only [Char.isHexDigit, Char.isDigit, Bool.or_eq_true, Bool.and_eq_true,
    decide_eq_true_eq, UInt32.le_iff_toNat_le] at hex
  simp only [isAscii, decide_eq_true_eq, Char.toNat]
  rcases hex with (⟨-, digit⟩ | ⟨-, lower⟩) | ⟨-, upper⟩
  · exact Nat.lt_of_le_of_lt digit (by decide)
  · exact Nat.lt_of_le_of_lt lower (by decide)
  · exact Nat.lt_of_le_of_lt upper (by decide)

theorem isEncoded_encodeNonAscii {allowed : Char → Bool} {text : List Char}
    (percent : allowed '%' = false) (encoded : isEncoded allowed text = true) :
    isEncoded allowed (encodeNonAscii text) = true := by
  fun_induction isEncoded allowed text with
  | case1 => rfl
  | case2 high low rest ih =>
    simp only [Bool.and_eq_true] at encoded
    obtain ⟨⟨highHex, lowHex⟩, restEncoded⟩ := encoded
    rw [encodeNonAscii_cons rfl, encodeNonAscii_cons (isAscii_of_isHexDigit highHex),
      encodeNonAscii_cons (isAscii_of_isHexDigit lowHex)]
    simp [isEncoded, highHex, lowHex, ih restEncoded]
  | case3 first rest short ih =>
    simp only [Bool.and_eq_true] at encoded
    by_cases ascii : isAscii first = true
    · have notPercent : first ≠ '%' := by
        rintro rfl
        exact Bool.false_ne_true (percent.symm.trans encoded.1)
      rw [encodeNonAscii_cons ascii, isEncoded_cons notPercent, encoded.1, ih encoded.2]
      rfl
    · rw [encodeNonAscii, List.flatMap_cons, encodeCharacter, if_neg ascii,
        isEncoded_percentOctets]
      exact ih encoded.2

end NonAscii

end Wrest.Uri
