import Wrest.CharsetLabels
import Wrest.UrlHosts
import Wrest.Utf16Decoders

/-!
# Decoding bodies

A body is decoded as its byte order mark says, and without one as its charset label says.
The decoders of Windows and of ICU are given from outside.

The standard runs the streaming decoder of the encoding over what follows the mark.  For
the Unicode encodings the client decodes whole texts instead, and both results agree.
-/

namespace Wrest

open TextDecoding Uri

namespace Error

def decode (source : ErrorSource) : Error := withKind .decode source

end Error

/-- The decoders outside the client. -/
structure CharsetLibraries where
  icuDecode : String → List UInt8 → Except Error String
  icuDecodeIfAvailable : String → List UInt8 → Except Error (Option String)
  multiByteToString : Nat → List UInt8 → Except Error String

/-- A system without ICU and without code pages. -/
def CharsetLibraries.unavailable : CharsetLibraries where
  icuDecode icuName _ := .error (Error.decode (.message
    s!"charset \"{icuName}\" requires icu.dll (Windows 10 1903+)"))
  icuDecodeIfAvailable _ _ := .ok none
  multiByteToString codepage _ :=
    .error (Error.decode (.message s!"MultiByteToWideChar failed for code page {codepage}"))

section Decoders

/-- `char::from_u32` with a replacement. -/
def charFromU32 (code : Nat) : Char :=
  if code.isValidChar then Char.ofNat code else replacement

def decodeXUserDefined (data : List UInt8) : String :=
  String.ofList (data.map fun octet =>
    if octet.toNat < 0x80 then Char.ofNat octet.toNat
    else charFromU32 (0xF700 ||| octet.toNat))

/-- The upper half of the table of ISO-8859-16. -/
def iso885916High : Array Nat := #[
  0x0080, 0x0081, 0x0082, 0x0083, 0x0084, 0x0085, 0x0086, 0x0087,
  0x0088, 0x0089, 0x008A, 0x008B, 0x008C, 0x008D, 0x008E, 0x008F,
  0x0090, 0x0091, 0x0092, 0x0093, 0x0094, 0x0095, 0x0096, 0x0097,
  0x0098, 0x0099, 0x009A, 0x009B, 0x009C, 0x009D, 0x009E, 0x009F,
  0x00A0, 0x0104, 0x0105, 0x0141, 0x20AC, 0x201E, 0x0160, 0x00A7,
  0x0161, 0x00A9, 0x0218, 0x00AB, 0x0179, 0x00AD, 0x017A, 0x017B,
  0x00B0, 0x00B1, 0x010C, 0x0142, 0x017D, 0x201D, 0x00B6, 0x00B7,
  0x017E, 0x010D, 0x0219, 0x00BB, 0x0152, 0x0153, 0x0178, 0x017C,
  0x00C0, 0x00C1, 0x00C2, 0x0102, 0x00C4, 0x0106, 0x00C6, 0x00C7,
  0x00C8, 0x00C9, 0x00CA, 0x00CB, 0x00CC, 0x00CD, 0x00CE, 0x00CF,
  0x0110, 0x0143, 0x00D2, 0x00D3, 0x00D4, 0x0150, 0x00D6, 0x015A,
  0x0170, 0x00D9, 0x00DA, 0x00DB, 0x00DC, 0x0118, 0x021A, 0x00DF,
  0x00E0, 0x00E1, 0x00E2, 0x0103, 0x00E4, 0x0107, 0x00E6, 0x00E7,
  0x00E8, 0x00E9, 0x00EA, 0x00EB, 0x00EC, 0x00ED, 0x00EE, 0x00EF,
  0x0111, 0x0144, 0x00F2, 0x00F3, 0x00F4, 0x0151, 0x00F6, 0x015B,
  0x0171, 0x00F9, 0x00FA, 0x00FB, 0x00FC, 0x0119, 0x021B, 0x00FF]

def decodeIso885916 (data : List UInt8) : String :=
  String.ofList (data.map fun octet =>
    if octet.toNat < 0x80 then Char.ofNat octet.toNat
    else charFromU32 (iso885916High.getD (octet.toNat &&& 0x7F) 0))

def decodeUtf16 (data : List UInt8) (fromBytes : UInt8 → UInt8 → Nat) : String :=
  String.ofList (decodeUnits fromBytes data)

/-- `String::from_utf8` and, for what is not UTF-8, `String::from_utf8_lossy`. -/
def decodeUtf8OrLossy (data : List UInt8) : String :=
  match decodeUtf8 data with
  | some text => text
  | none => String.ofList (fromUtf8Lossy data)

/-- `decode_icu_preferred`. -/
def decodeIcuPreferred (codepage : Nat) (icuName : String) (data : List UInt8)
    (tryIcu : String → List UInt8 → Except Error (Option String))
    (decodeNls : Nat → List UInt8 → Except Error String) : Except Error String := do
  match ← tryIcu icuName data with
  | some decoded => .ok decoded
  | none => decodeNls codepage data

end Decoders

section Body

variable (libraries : CharsetLibraries)

/-- The decoder that a code page stands for. -/
def decodeCodepage (codepage : Nat) (data : List UInt8) : Except Error String :=
  if codepage = cpXUserDefined then .ok (decodeXUserDefined data)
  else if codepage = cpReplacement then .ok (String.singleton replacement)
  else if codepage = cpUtf16Le then .ok (decodeUtf16 data (codeUnit false))
  else if codepage = cpUtf16Be then .ok (decodeUtf16 data (codeUnit true))
  else if codepage = cpIso885916 then .ok (decodeIso885916 data)
  else
    match codepageBackend codepage with
    | some (.icuRequired icuName) => libraries.icuDecode icuName data
    | some (.icuPreferred icuName) =>
      decodeIcuPreferred codepage icuName data libraries.icuDecodeIfAvailable
        libraries.multiByteToString
    | some .nls => libraries.multiByteToString codepage data
    | none =>
      .error (Error.decode (.message s!"no charset decoder for code page {codepage}"))

/-- The decoder that a normalized label stands for; unknown labels stand for UTF-8. -/
def decodeLabeled (data : List UInt8) (label : String) : Except Error String :=
  if isUtf8Label label then .ok (decodeUtf8OrLossy data)
  else
    match whatwgLabelToCodepage label with
    | none => .ok (decodeUtf8OrLossy data)
    | some codepage => decodeCodepage libraries codepage data

/-- The octets behind a byte order mark, and the label that it overrides the given one
with. -/
def sniffMark (data : List UInt8) (charset : String) : List UInt8 × String :=
  match data with
  | 0xEF :: 0xBB :: 0xBF :: rest => (rest, "utf-8")
  | 0xFF :: 0xFE :: rest => (rest, "utf-16le")
  | 0xFE :: 0xFF :: rest => (rest, "utf-16be")
  | _ => (data, normalizeLabel charset)

def decodeBody (data : List UInt8) (charset : String) : Except Error String :=
  if data.isEmpty then .ok ""
  else decodeLabeled libraries (sniffMark data charset).1 (sniffMark data charset).2

end Body

section Labels

theorem isAsciiWhitespace_asciiLower (character : Char) :
    isAsciiWhitespace (asciiLower character) = isAsciiWhitespace character := by
  by_cases ascii : isAscii character = true
  · have checked : ∀ code : Fin 128,
        isAsciiWhitespace (asciiLower (Char.ofNat code.val)) =
          isAsciiWhitespace (Char.ofNat code.val) := by decide
    obtain ⟨code, rfl⟩ := exists_code ascii
    exact checked code
  · rw [asciiLower_of_not_isAscii ascii]

/-- The encodings of Unicode. -/
inductive UnicodeEncoding
  | utf8
  | utf16Be
  | utf16Le

namespace UnicodeEncoding

/-- The names of an encoding in the standard. -/
def labels : UnicodeEncoding → List String
  | utf8 => ["unicode-1-1-utf-8", "unicode11utf8", "unicode20utf8", "utf-8", "utf8",
      "x-unicode20utf8"]
  | utf16Be => ["unicodefffe", "utf-16be"]
  | utf16Le => ["csunicode", "iso-10646-ucs-2", "ucs-2", "unicode", "unicodefeff", "utf-16",
      "utf-16le"]

def byteOrderMark : UnicodeEncoding → List UInt8
  | utf8 => [0xEF, 0xBB, 0xBF]
  | utf16Be => [0xFE, 0xFF]
  | utf16Le => [0xFF, 0xFE]

/-- What the streaming decoder of an encoding makes of octets. -/
def Decodes : UnicodeEncoding → List UInt8 → List Char → Prop
  | utf8 => Processes utf8Handler {}
  | utf16Be => Processes (utf16Handler true) {}
  | utf16Le => Processes (utf16Handler false) {}

/-- The text that the client makes of octets in an encoding. -/
def text : UnicodeEncoding → List UInt8 → String
  | utf8, data => decodeUtf8OrLossy data
  | utf16Be, data => decodeUtf16 data (codeUnit true)
  | utf16Le, data => decodeUtf16 data (codeUnit false)

end UnicodeEncoding

/-- A label resolves to an encoding when it is one of its names, up to ASCII case and ASCII
white space around it. -/
def ResolvesTo (label : String) (encoding : UnicodeEncoding) : Prop :=
  ∃ before name after : List Char,
    label.toList = before ++ (name ++ after) ∧
      (∀ character ∈ before ++ after, isAsciiWhitespace character = true) ∧
      toAsciiLowercase (String.ofList name) ∈ encoding.labels

/-- The standard's decoding of a body. -/
inductive DecodesBody (label : String) : List UInt8 → List Char → Prop
  | marked {encoding : UnicodeEncoding} {rest : List UInt8} {output : List Char}
      (decodes : encoding.Decodes rest output) :
      DecodesBody label (encoding.byteOrderMark ++ rest) output
  | unmarked {encoding : UnicodeEncoding} {data : List UInt8} {output : List Char}
      (noMark : ∀ encoding : UnicodeEncoding, ¬encoding.byteOrderMark <+: data)
      (resolves : ResolvesTo label encoding) (decodes : encoding.Decodes data output) :
      DecodesBody label data output

end Labels

section Standard

variable {libraries : CharsetLibraries} {encoding : UnicodeEncoding}
variable {data : List UInt8} {label : String} {output : List Char}

theorem decodeUtf8OrLossy_toList (data : List UInt8) :
    (decodeUtf8OrLossy data).toList = fromUtf8Lossy data := by
  unfold decodeUtf8OrLossy
  cases decoded : decodeUtf8 data with
  | none => exact String.toList_ofList
  | some text =>
    rw [← utf8Bytes_of_decodeUtf8 decoded, utf8Bytes, fromUtf8Lossy_flatMap_utf8EncodeChar]

theorem decodes_text (encoding : UnicodeEncoding) (data : List UInt8) :
    encoding.Decodes data (encoding.text data).toList := by
  cases encoding with
  | utf8 =>
    rw [UnicodeEncoding.text, decodeUtf8OrLossy_toList]
    exact processes_fromUtf8Lossy data
  | utf16Be =>
    rw [UnicodeEncoding.text, decodeUtf16, String.toList_ofList]
    exact processes_decodeUnits true data
  | utf16Le =>
    rw [UnicodeEncoding.text, decodeUtf16, String.toList_ofList]
    exact processes_decodeUnits false data

/-- The streaming decoders have one result. -/
theorem text_of_decodes (decodes : encoding.Decodes data output) :
    encoding.text data = String.ofList output := by
  have decodesText := decodes_text encoding data
  have same : (encoding.text data).toList = output := by
    cases encoding with
    | utf8 | utf16Be | utf16Le => exact Processes.unique decodes decodesText
  rw [← same, String.ofList_toList]

/-- The labels of an encoding select its decoder. -/
theorem decodeLabeled_of_mem_labels {name : String} (isLabel : name ∈ encoding.labels)
    (data : List UInt8) :
    decodeLabeled libraries data name = .ok (encoding.text data) := by
  cases encoding with
  | utf8 =>
    have utf8 : ∀ name ∈ UnicodeEncoding.utf8.labels, isUtf8Label name = true := by decide
    exact if_pos (utf8 name isLabel)
  | utf16Be =>
    have found : ∀ name ∈ UnicodeEncoding.utf16Be.labels,
        isUtf8Label name = false ∧ whatwgLabelToCodepage name = some cpUtf16Be := by decide
    obtain ⟨otherThanUtf8, codepage⟩ := found name isLabel
    simp only [decodeLabeled, otherThanUtf8, codepage]
    rfl
  | utf16Le =>
    have found : ∀ name ∈ UnicodeEncoding.utf16Le.labels,
        isUtf8Label name = false ∧ whatwgLabelToCodepage name = some cpUtf16Le := by decide
    obtain ⟨otherThanUtf8, codepage⟩ := found name isLabel
    simp only [decodeLabeled, otherThanUtf8, codepage]
    rfl

theorem normalizeLabel_mem_labels (resolves : ResolvesTo label encoding) :
    normalizeLabel label ∈ encoding.labels := by
  have plain : ∀ encoding : UnicodeEncoding, ∀ name ∈ encoding.labels,
      (name.toList.any isAsciiWhitespace) = false := by
    intro encoding
    cases encoding <;> decide
  obtain ⟨before, name, after, labelEq, white, isLabel⟩ := resolves
  have kept : ∀ character ∈ name, isAsciiWhitespace character = false := by
    intro character member
    have lowered : asciiLower character ∈
        (toAsciiLowercase (String.ofList name)).toList := by
      simpa [toAsciiLowercase] using ⟨character, member, rfl⟩
    rw [← isAsciiWhitespace_asciiLower]
    exact Bool.eq_false_iff.mpr (List.any_eq_false.mp (plain encoding _ isLabel) _ lowered)
  have trimmed : trimMatches isAsciiWhitespace label.toList = name := by
    rw [labelEq]
    exact trimMatches_append
      (fun character member => white character (List.mem_append_left _ member)) kept
      (fun character member => white character (List.mem_append_right _ member))
  rwa [normalizeLabel, trimmed]

theorem sniffMark_byteOrderMark (encoding : UnicodeEncoding) (rest : List UInt8)
    (charset : String) :
    ∃ name ∈ encoding.labels,
      sniffMark (encoding.byteOrderMark ++ rest) charset = (rest, name) := by
  cases encoding with
  | utf8 => exact ⟨"utf-8", by decide, rfl⟩
  | utf16Be => exact ⟨"utf-16be", by decide, rfl⟩
  | utf16Le => exact ⟨"utf-16le", by decide, rfl⟩

theorem sniffMark_of_unmarked
    (noMark : ∀ encoding : UnicodeEncoding, ¬encoding.byteOrderMark <+: data)
    (charset : String) : sniffMark data charset = (data, normalizeLabel charset) := by
  unfold sniffMark
  split
  · next rest => exact absurd ⟨rest, rfl⟩ (noMark .utf8)
  · next rest => exact absurd ⟨rest, rfl⟩ (noMark .utf16Le)
  · next rest => exact absurd ⟨rest, rfl⟩ (noMark .utf16Be)
  · rfl

theorem decodeBody_of_decodesBody (decodes : DecodesBody label data output) :
    decodeBody libraries data label = .ok (String.ofList output) := by
  cases decodes with
  | @marked encoding rest output decodes =>
    obtain ⟨name, isLabel, sniffed⟩ := sniffMark_byteOrderMark encoding rest label
    have nonempty : (encoding.byteOrderMark ++ rest).isEmpty = false := by
      cases encoding <;> rfl
    rw [decodeBody, nonempty, if_neg Bool.false_ne_true, sniffed, ← text_of_decodes decodes]
    exact decodeLabeled_of_mem_labels isLabel rest
  | @unmarked encoding _ _ noMark resolves decodes =>
    rw [decodeBody, sniffMark_of_unmarked noMark, ← text_of_decodes decodes]
    cases data with
    | nil => cases encoding <;> rfl
    | cons first rest =>
      rw [List.isEmpty_cons, if_neg Bool.false_ne_true]
      exact decodeLabeled_of_mem_labels (normalizeLabel_mem_labels resolves) (first :: rest)

end Standard

/-- A body with a byte order mark, or with the label of an encoding of Unicode, is decoded
as the standard decodes it. -/
theorem decodeBody_standard (libraries : CharsetLibraries) (data : List UInt8)
    (label : String)
    (unicode : (∃ encoding : UnicodeEncoding, encoding.byteOrderMark <+: data) ∨
      ∃ encoding : UnicodeEncoding, ResolvesTo label encoding) :
    ∃ text, decodeBody libraries data label = .ok text ∧
      ∀ output, DecodesBody label data output ↔ output = text.toList := by
  obtain ⟨output, decodes⟩ : ∃ output, DecodesBody label data output := by
    by_cases marked : ∃ encoding : UnicodeEncoding, encoding.byteOrderMark <+: data
    · obtain ⟨encoding, rest, rfl⟩ := marked
      exact ⟨_, .marked (decodes_text encoding rest)⟩
    · obtain ⟨encoding, resolves⟩ := unicode.resolve_left marked
      exact ⟨_, .unmarked (not_exists.mp marked) resolves (decodes_text encoding data)⟩
  have decoded : decodeBody libraries data label = .ok (String.ofList output) :=
    decodeBody_of_decodesBody decodes
  refine ⟨_, decoded, fun other => ⟨fun otherwise => ?_, fun same => ?_⟩⟩
  · have decodedToo : decodeBody libraries data label = .ok (String.ofList other) :=
      decodeBody_of_decodesBody otherwise
    have sameText := Except.ok.inj (decodedToo.symm.trans decoded)
    rw [← sameText, String.toList_ofList]
  · rwa [same, String.toList_ofList]

/-- A mark beats the label, and a leading surrogate with an octet behind it is one error. -/
theorem decodeBody_standard_mark :
    decodeBody .unavailable [0xFF, 0xFE, 0x41, 0x00, 0x00, 0xD8, 0x42] " UTF-8" =
        .ok "A\ufffd" ∧
      ∃ text,
        decodeBody .unavailable [0xFF, 0xFE, 0x41, 0x00, 0x00, 0xD8, 0x42] " UTF-8" =
            .ok text ∧
          ∀ output,
            DecodesBody " UTF-8" [0xFF, 0xFE, 0x41, 0x00, 0x00, 0xD8, 0x42] output ↔
              output = text.toList := by
  refine ⟨rfl, decodeBody_standard _ _ _ (.inl ⟨.utf16Le, ?_⟩)⟩
  exact ⟨[0x41, 0x00, 0x00, 0xD8, 0x42], rfl⟩

end Wrest
