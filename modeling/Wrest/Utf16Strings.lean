import Wrest.Utf16Decoders

/-!
# Texts in UTF-16

A character is one code unit, or two surrogates.  The strict decoder rejects a surrogate
without its partner.  It accepts exactly the encoded texts, and on these the decoder that
replaces surrogates gives the same text.
-/

namespace Wrest.TextDecoding

def utf16EncodeChar (character : Char) : List UInt16 :=
  let code := character.toNat
  if code < 0x10000 then [UInt16.ofNat code]
  else
    [UInt16.ofNat (0xD800 + (code - 0x10000) / 0x400),
      UInt16.ofNat (0xDC00 + (code - 0x10000) % 0x400)]

def encodeUtf16 (text : List Char) : List UInt16 :=
  text.flatMap utf16EncodeChar

/-- `String::from_utf16`. -/
def fromUtf16 : List UInt16 → Option (List Char)
  | [] => some []
  | unit :: rest =>
    if isLeadingSurrogate unit.toNat then
      match rest with
      | [] => none
      | next :: behind =>
        if isTrailingSurrogate next.toNat then
          (fromUtf16 behind).map (surrogatePair unit.toNat next.toNat :: ·)
        else none
    else if isTrailingSurrogate unit.toNat then none
    else (fromUtf16 rest).map (Char.ofNat unit.toNat :: ·)

theorem fromUtf16_pair {leading trailing : UInt16}
    (isLeading : isLeadingSurrogate leading.toNat = true)
    (isTrailing : isTrailingSurrogate trailing.toNat = true) (rest : List UInt16) :
    fromUtf16 (leading :: trailing :: rest) =
      (fromUtf16 rest).map (surrogatePair leading.toNat trailing.toNat :: ·) := by
  conv => lhs; unfold fromUtf16
  rw [if_pos isLeading]
  exact if_pos isTrailing

theorem fromUtf16_scalar {unit : UInt16} (notLeading : isLeadingSurrogate unit.toNat = false)
    (notTrailing : isTrailingSurrogate unit.toNat = false) (rest : List UInt16) :
    fromUtf16 (unit :: rest) = (fromUtf16 rest).map (Char.ofNat unit.toNat :: ·) := by
  conv => lhs; unfold fromUtf16
  rw [notLeading, notTrailing]
  rfl

theorem fromUtf16_trailing {unit : UInt16} (notLeading : isLeadingSurrogate unit.toNat = false)
    (trailing : isTrailingSurrogate unit.toNat = true) (rest : List UInt16) :
    fromUtf16 (unit :: rest) = none := by
  conv => lhs; unfold fromUtf16
  rw [notLeading, trailing]
  rfl

section Encoded

theorem toNat_ofNat_unit {code : Nat} (small : code < 0x10000) :
    (UInt16.ofNat code).toNat = code :=
  UInt16.toNat_ofNat_of_lt' small

theorem not_surrogate_of_char {character : Char} (small : character.toNat < 0x10000) :
    isLeadingSurrogate character.toNat = false ∧
      isTrailingSurrogate character.toNat = false := by
  have valid : character.toNat < 0xD800 ∨
      0xDFFF < character.toNat ∧ character.toNat < 0x110000 := character.valid
  simp only [isLeadingSurrogate, isTrailingSurrogate, Bool.and_eq_false_iff,
    decide_eq_false_iff_not]
  omega

/-- The surrogates of a character above the first plane. -/
theorem surrogates_of_char {character : Char} (large : ¬character.toNat < 0x10000) :
    ∃ leading trailing : UInt16, utf16EncodeChar character = [leading, trailing] ∧
      isLeadingSurrogate leading.toNat = true ∧
      isTrailingSurrogate trailing.toNat = true ∧
      surrogatePair leading.toNat trailing.toNat = character := by
  have valid : character.toNat < 0xD800 ∨
      0xDFFF < character.toNat ∧ character.toNat < 0x110000 := character.valid
  refine ⟨_, _, if_neg large, ?_⟩
  rw [toNat_ofNat_unit (by omega), toNat_ofNat_unit (by omega)]
  refine ⟨?_, ?_, ofNat_of_eq ?_⟩
  · simp only [isLeadingSurrogate, Bool.and_eq_true, decide_eq_true_eq]
    omega
  · simp only [isTrailingSurrogate, Bool.and_eq_true, decide_eq_true_eq]
    omega
  · change _ = character.toNat
    omega

/-- The code units of one character give it back. -/
theorem fromUtf16_utf16EncodeChar (character : Char) (rest : List UInt16) :
    fromUtf16 (utf16EncodeChar character ++ rest) =
      (fromUtf16 rest).map (character :: ·) := by
  by_cases small : character.toNat < 0x10000
  · obtain ⟨notLeading, notTrailing⟩ := not_surrogate_of_char small
    have one : utf16EncodeChar character = [UInt16.ofNat character.toNat] := if_pos small
    rw [← toNat_ofNat_unit small] at notLeading notTrailing
    rw [one, List.singleton_append, fromUtf16_scalar notLeading notTrailing,
      toNat_ofNat_unit small, Char.ofNat_toNat]
  · obtain ⟨leading, trailing, two, isLeading, isTrailing, pair⟩ := surrogates_of_char small
    rw [two, List.cons_append, List.singleton_append, fromUtf16_pair isLeading isTrailing,
      pair]

theorem fromUtf16_encodeUtf16 (text : List Char) :
    fromUtf16 (encodeUtf16 text) = some text := by
  induction text with
  | nil => rfl
  | cons character text ih =>
    rw [encodeUtf16, List.flatMap_cons, fromUtf16_utf16EncodeChar]
    exact congrArg (Option.map (character :: ·)) ih

end Encoded

section Decoded

theorem toNat_ofNat_char {code : Nat} (valid : code.isValidChar) :
    (Char.ofNat code).toNat = code := by
  rw [Char.ofNat, dif_pos valid]
  rfl

theorem utf16EncodeChar_ofNat {unit : UInt16}
    (notLeading : isLeadingSurrogate unit.toNat = false)
    (notTrailing : isTrailingSurrogate unit.toNat = false) :
    utf16EncodeChar (Char.ofNat unit.toNat) = [unit] := by
  have bound : unit.toNat < 0x10000 := unit.toNat_lt
  simp only [isLeadingSurrogate, isTrailingSurrogate, Bool.and_eq_false_iff,
    decide_eq_false_iff_not] at notLeading notTrailing
  have valid : unit.toNat.isValidChar := by
    unfold Nat.isValidChar
    omega
  simp only [utf16EncodeChar, toNat_ofNat_char valid]
  rw [if_pos bound, UInt16.ofNat_toNat]

theorem utf16EncodeChar_surrogatePair {leading trailing : UInt16}
    (isLeading : isLeadingSurrogate leading.toNat = true)
    (isTrailing : isTrailingSurrogate trailing.toNat = true) :
    utf16EncodeChar (surrogatePair leading.toNat trailing.toNat) = [leading, trailing] := by
  simp only [isLeadingSurrogate, isTrailingSurrogate, Bool.and_eq_true,
    decide_eq_true_eq] at isLeading isTrailing
  have valid : (0x10000 + (leading.toNat - 0xD800) * 0x400 +
      (trailing.toNat - 0xDC00)).isValidChar := by
    unfold Nat.isValidChar
    omega
  have large : ¬0x10000 + (leading.toNat - 0xD800) * 0x400 + (trailing.toNat - 0xDC00) <
      0x10000 := by omega
  have high : 0xD800 + (0x10000 + (leading.toNat - 0xD800) * 0x400 +
      (trailing.toNat - 0xDC00) - 0x10000) / 0x400 = leading.toNat := by omega
  have low : 0xDC00 + (0x10000 + (leading.toNat - 0xD800) * 0x400 +
      (trailing.toNat - 0xDC00) - 0x10000) % 0x400 = trailing.toNat := by omega
  simp only [utf16EncodeChar, surrogatePair, toNat_ofNat_char valid]
  rw [if_neg large, high, low, UInt16.ofNat_toNat, UInt16.ofNat_toNat]

/-- What the strict decoder accepts is the encoding of its text. -/
theorem encodeUtf16_of_fromUtf16 {units : List UInt16} {text : List Char}
    (decoded : fromUtf16 units = some text) : encodeUtf16 text = units := by
  induction units using fromUtf16.induct generalizing text with
  | case1 =>
    cases decoded
    rfl
  | case2 unit leading => simp [fromUtf16, leading] at decoded
  | case3 unit leading next behind trailing ih =>
    rw [fromUtf16_pair leading trailing] at decoded
    obtain ⟨rest, restDecoded, rfl⟩ := Option.map_eq_some_iff.mp decoded
    rw [encodeUtf16, List.flatMap_cons, utf16EncodeChar_surrogatePair leading trailing]
    exact congrArg ([unit, next] ++ ·) (ih restDecoded)
  | case4 unit leading next behind notTrailing =>
    simp [fromUtf16, leading, notTrailing] at decoded
  | case5 unit rest notLeading trailing =>
    rw [fromUtf16_trailing (Bool.not_eq_true _ ▸ notLeading) trailing] at decoded
    cases decoded
  | case6 unit rest notLeading notTrailing ih =>
    rw [Bool.not_eq_true] at notLeading notTrailing
    rw [fromUtf16_scalar notLeading notTrailing] at decoded
    obtain ⟨rest, restDecoded, rfl⟩ := Option.map_eq_some_iff.mp decoded
    rw [encodeUtf16, List.flatMap_cons, utf16EncodeChar_ofNat notLeading notTrailing]
    exact congrArg ([unit] ++ ·) (ih restDecoded)

theorem fromUtf16_eq_some_iff {units : List UInt16} {text : List Char} :
    fromUtf16 units = some text ↔ encodeUtf16 text = units := by
  constructor
  · exact encodeUtf16_of_fromUtf16
  · rintro rfl
    exact fromUtf16_encodeUtf16 text

/-- Encoded text is decoded without replacements. -/
theorem fromUtf16Lossy_of_fromUtf16 {units : List UInt16} {text : List Char}
    (decoded : fromUtf16 units = some text) :
    fromUtf16Lossy (units.map UInt16.toNat) = text := by
  induction units using fromUtf16.induct generalizing text with
  | case1 =>
    cases decoded
    rfl
  | case2 unit leading => simp [fromUtf16, leading] at decoded
  | case3 unit leading next behind trailing ih =>
    rw [fromUtf16_pair leading trailing] at decoded
    obtain ⟨rest, restDecoded, rfl⟩ := Option.map_eq_some_iff.mp decoded
    rw [List.map_cons, List.map_cons, fromUtf16Lossy, if_pos leading]
    simp only [trailing, if_true, ih restDecoded]
  | case4 unit leading next behind notTrailing =>
    simp [fromUtf16, leading, notTrailing] at decoded
  | case5 unit rest notLeading trailing =>
    rw [fromUtf16_trailing (Bool.not_eq_true _ ▸ notLeading) trailing] at decoded
    cases decoded
  | case6 unit rest notLeading notTrailing ih =>
    rw [Bool.not_eq_true] at notLeading notTrailing
    rw [fromUtf16_scalar notLeading notTrailing] at decoded
    obtain ⟨rest, restDecoded, rfl⟩ := Option.map_eq_some_iff.mp decoded
    rw [List.map_cons, fromUtf16Lossy_cons notLeading, notTrailing, ih restDecoded]
    rfl

end Decoded

end Wrest.TextDecoding
