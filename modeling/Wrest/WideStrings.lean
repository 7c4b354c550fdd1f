import Wrest.Utf16Strings
import Wrest.BodyDecoding
import Wrest.InteractionPrograms
import Mathlib.Data.List.TakeWhile

/-!
# Wide strings of the system

The system takes and returns UTF-16.  A string that is passed on ends in NUL, and a
string that comes in is a pointer with a count of code units, or without one, and then
it ends in NUL.  A pointer is modelled by the code units behind it, to the end of the
memory that may be read.
-/

namespace Wrest.WideString

open TextDecoding

def nul : Char := Char.ofNat 0

def toWide (text : String) : List UInt16 :=
  encodeUtf16 text.toList ++ [0]

/-- A null pointer, or the code units behind the pointer. -/
abbrev WidePointer : Type := Option (List UInt16)

def wcslen (memory : List UInt16) : Nat :=
  (memory.takeWhile (· != 0)).length

/-- One NUL at the end is not part of a string. -/
def stripSuffix (units : List UInt16) : List UInt16 :=
  if units.getLast? = some 0 then units.dropLast else units

def wideSlice (pointer : WidePointer) (charCount : Option Nat) : List UInt16 :=
  match pointer with
  | none => []
  | some memory => stripSuffix (memory.take (charCount.getD (wcslen memory)))

/-- `String::from_utf16_lossy`. -/
def lossyString (units : List UInt16) : String :=
  String.ofList (fromUtf16Lossy (units.map UInt16.toNat))

def wideToString (pointer : WidePointer) (charCount : Option Nat) : Except Error String :=
  match fromUtf16 (wideSlice pointer charCount) with
  | some text => .ok (String.ofList text)
  | none =>
    .error (Error.request
      (.message "WinHTTP returned invalid UTF-16 in callback string"))

def wideToStringLossy (pointer : WidePointer) (charCount : Option Nat) : String :=
  lossyString (wideSlice pointer charCount)

def stringFromUtf16 (units : List UInt16) (context : String) : Except Error String :=
  match fromUtf16 units with
  | some text => .ok (String.ofList text)
  | none =>
    .error (Error.decode
      (.context context (.foreign "invalid utf-16: lone surrogate found")))

theorem wideToString_eq_ok_iff {pointer : WidePointer} {charCount : Option Nat}
    {text : String} :
    wideToString pointer charCount = .ok text ↔
      encodeUtf16 text.toList = wideSlice pointer charCount := by
  rw [← fromUtf16_eq_some_iff, wideToString]
  cases fromUtf16 (wideSlice pointer charCount) with
  | none => simp
  | some decoded =>
    simp only [Except.ok.injEq, Option.some.injEq]
    constructor
    · rintro rfl
      exact String.toList_ofList.symm
    · rintro rfl
      exact String.ofList_toList

theorem lossyString_encodeUtf16 (text : List Char) :
    lossyString (encodeUtf16 text) = String.ofList text := by
  rw [lossyString, fromUtf16Lossy_of_fromUtf16 (fromUtf16_encodeUtf16 text)]

/-- Where both decoders of a callback string can be used, they agree. -/
theorem wideToStringLossy_of_ok {pointer : WidePointer} {charCount : Option Nat}
    {text : String} (strict : wideToString pointer charCount = .ok text) :
    wideToStringLossy pointer charCount = text := by
  rw [wideToStringLossy, ← wideToString_eq_ok_iff.mp strict, lossyString_encodeUtf16,
    String.ofList_toList]

section RoundTrip

theorem stripSuffix_append_nul (units : List UInt16) :
    stripSuffix (units ++ [0]) = units := by
  simp [stripSuffix]

theorem stripSuffix_of_notMem {units : List UInt16} (none : 0 ∉ units) :
    stripSuffix units = units := by
  apply if_neg
  intro last
  exact none (List.mem_of_getLast? last)

theorem zero_mem_utf16EncodeChar {character : Char} :
    0 ∈ utf16EncodeChar character ↔ character = nul := by
  by_cases small : character.toNat < 0x10000
  · have one : utf16EncodeChar character = [UInt16.ofNat character.toNat] := if_pos small
    rw [one, List.mem_singleton]
    constructor
    · intro zero
      have code := toNat_ofNat_unit small
      rw [← zero] at code
      exact Char.toNat_inj.mp code.symm
    · rintro rfl
      rfl
  · obtain ⟨leading, trailing, two, isLeading, isTrailing, -⟩ := surrogates_of_char small
    rw [two]
    constructor
    · intro member
      simp only [List.mem_cons, List.not_mem_nil, or_false] at member
      obtain rfl | rfl := member
      · cases isLeading
      · cases isTrailing
    · rintro rfl
      exact absurd (by decide) small

theorem zero_notMem_encodeUtf16 {text : List Char} (none : nul ∉ text) :
    0 ∉ encodeUtf16 text := by
  intro member
  obtain ⟨character, there, zero⟩ := List.mem_flatMap.mp member
  rw [zero_mem_utf16EncodeChar.mp zero] at there
  exact none there

theorem utf16EncodeChar_nul : utf16EncodeChar nul = [0] :=
  rfl

/-- The length of a string ends at its first NUL. -/
theorem takeWhile_encodeUtf16 (text : List Char) (rest : List UInt16) :
    (encodeUtf16 text ++ 0 :: rest).takeWhile (· != 0) =
      encodeUtf16 (text.takeWhile (· != nul)) := by
  induction text with
  | nil => simp [encodeUtf16]
  | cons character text ih =>
    rw [encodeUtf16, List.flatMap_cons, List.append_assoc]
    by_cases isNul : character = nul
    · subst isNul
      simp [utf16EncodeChar_nul, encodeUtf16]
    · have others : ∀ unit ∈ utf16EncodeChar character, (unit != 0) = true := by
        intro unit member
        rw [bne_iff_ne]
        rintro rfl
        exact isNul (zero_mem_utf16EncodeChar.mp member)
      rw [List.takeWhile_append_of_pos others, List.takeWhile_cons_of_pos (by simpa using isNul)]
      exact congrArg (utf16EncodeChar character ++ ·) ih

theorem zero_notMem_takeWhile (text : List Char) :
    0 ∉ encodeUtf16 (text.takeWhile (· != nul)) := by
  apply zero_notMem_encodeUtf16
  intro member
  simpa using List.mem_takeWhile_imp member

theorem wideSlice_terminated (text : String) (rest : List UInt16) :
    wideSlice (some (toWide text ++ rest)) none =
      encodeUtf16 (text.toList.takeWhile (· != nul)) := by
  have memory : toWide text ++ rest = encodeUtf16 text.toList ++ 0 :: rest := by
    simp [toWide]
  have slice : (toWide text ++ rest).take (wcslen (toWide text ++ rest)) =
      encodeUtf16 (text.toList.takeWhile (· != nul)) := by
    rw [wcslen, ← List.prefix_iff_eq_take.mp (List.takeWhile_prefix _), memory,
      takeWhile_encodeUtf16]
  simp only [wideSlice, Option.getD_none, slice]
  exact stripSuffix_of_notMem (zero_notMem_takeWhile _)

end RoundTrip

/-- A text that is passed on as a wide string reads back: with the count of its code
units as it is, and without a count up to its first NUL. -/
structure ReadsBack (text : String) (rest : List UInt16) : Prop where
  counted : wideToString (some (toWide text ++ rest)) (some (toWide text).length) = .ok text
  countedLossy :
    wideToStringLossy (some (toWide text ++ rest)) (some (toWide text).length) = text
  terminated : wideToString (some (toWide text ++ rest)) none =
    .ok (String.ofList (text.toList.takeWhile (· != nul)))
  exact : wideToString (some (toWide text ++ rest)) none = .ok text ↔ nul ∉ text.toList
  lossy : wideToStringLossy (some (toWide text ++ rest)) none =
    String.ofList (text.toList.takeWhile (· != nul))

/-- What is passed to the system as a wide string is what it reads. -/
theorem toWide_readsBack (text : String) (rest : List UInt16) : ReadsBack text rest := by
  have terminated : wideToString (some (toWide text ++ rest)) none =
      .ok (String.ofList (text.toList.takeWhile (· != nul))) := by
    rw [wideToString_eq_ok_iff, String.toList_ofList, wideSlice_terminated]
  have counted : wideToString (some (toWide text ++ rest)) (some (toWide text).length) =
      .ok text := by
    rw [wideToString_eq_ok_iff]
    simp only [wideSlice, Option.getD_some, List.take_left]
    exact (stripSuffix_append_nul _).symm
  refine ⟨counted, wideToStringLossy_of_ok counted, terminated, ?_,
    wideToStringLossy_of_ok terminated⟩
  · have whole : String.ofList (text.toList.takeWhile (· != nul)) = text ↔
        text.toList.takeWhile (· != nul) = text.toList := by
      rw [← String.toList_inj, String.toList_ofList]
    rw [terminated, Except.ok.injEq, whole, List.takeWhile_eq_self_iff]
    simp only [bne_iff_ne, ne_eq]
    exact ⟨fun others member => others nul member rfl,
      fun none character member same => none (same ▸ member)⟩

end Wrest.WideString
