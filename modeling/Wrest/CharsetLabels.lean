import Wrest.SourceStrings

/-!
# Charset labels

A charset label names an encoding up to ASCII case and surrounding ASCII white space.
The client looks the label up in one table of Windows code pages, and picks the decoder
of a code page from another.  Some code pages are not those of Windows but stand for
decoders of the client.
-/

namespace Wrest

/-- `char::is_ascii_whitespace`. -/
def isAsciiWhitespace (character : Char) : Bool :=
  character = ' ' || character = '\t' || character = '\n' || character = '\x0c' ||
    character = '\r'

/-- `str::trim_matches`. -/
def trimMatches (drops : Char → Bool) (text : List Char) : List Char :=
  (text.dropWhile drops).rdropWhile drops

def normalizeLabel (label : String) : String :=
  toAsciiLowercase (String.ofList (trimMatches isAsciiWhitespace label.toList))

def isUtf8Label (label : String) : Bool :=
  ["utf-8", "utf8", "unicode-1-1-utf-8", "unicode11utf8", "unicode20utf8",
    "x-unicode20utf8"].contains label

section CodePages

def cpXUserDefined : Nat := 0
def cpReplacement : Nat := 0xFFFFFFFF
def cpUtf16Le : Nat := 1200
def cpUtf16Be : Nat := 1201
def cpIso885916 : Nat := 28606

/-- The labels of each code page. -/
def codepageLabels : List (Nat × List String) := [
  (65001, ["unicode-1-1-utf-8", "unicode11utf8", "unicode20utf8", "utf-8", "utf8",
    "x-unicode20utf8"]),
  (866, ["866", "cp866", "csibm866", "ibm866"]),
  (28592, ["csisolatin2", "iso-8859-2", "iso-ir-101", "iso8859-2", "iso88592", "iso_8859-2",
    "iso_8859-2:1987", "l2", "latin2"]),
  (28593, ["csisolatin3", "iso-8859-3", "iso-ir-109", "iso8859-3", "iso88593", "iso_8859-3",
    "iso_8859-3:1988", "l3", "latin3"]),
  (28594, ["csisolatin4", "iso-8859-4", "iso-ir-110", "iso8859-4", "iso88594", "iso_8859-4",
    "iso_8859-4:1988", "l4", "latin4"]),
  (28595, ["csisolatincyrillic", "cyrillic", "iso-8859-5", "iso-ir-144", "iso8859-5",
    "iso88595", "iso_8859-5", "iso_8859-5:1988"]),
  (28596, ["arabic", "asmo-708", "csiso88596e", "csiso88596i", "csisolatinarabic", "ecma-114",
    "iso-8859-6", "iso-8859-6-e", "iso-8859-6-i", "iso-ir-127", "iso8859-6", "iso88596",
    "iso_8859-6", "iso_8859-6:1987"]),
  (28597, ["csisolatingreek", "ecma-118", "elot_928", "greek", "greek8", "iso-8859-7",
    "iso-ir-126", "iso8859-7", "iso88597", "iso_8859-7", "iso_8859-7:1987", "sun_eu_greek"]),
  (28598, ["csiso88598e", "csisolatinhebrew", "hebrew", "iso-8859-8", "iso-8859-8-e",
    "iso-ir-138", "iso8859-8", "iso88598", "iso_8859-8", "iso_8859-8:1988", "visual"]),
  (38598, ["csiso88598i", "iso-8859-8-i", "logical"]),
  (28600, ["csisolatin6", "iso-8859-10", "iso-ir-157", "iso8859-10", "iso885910", "l6",
    "latin6"]),
  (28603, ["iso-8859-13", "iso8859-13", "iso885913"]),
  (28604, ["iso-8859-14", "iso8859-14", "iso885914"]),
  (28605, ["csisolatin9", "iso-8859-15", "iso8859-15", "iso885915", "iso_8859-15", "l9"]),
  (cpIso885916, ["iso-8859-16"]),
  (20866, ["cskoi8r", "koi", "koi8", "koi8-r", "koi8_r"]),
  (21866, ["koi8-ru", "koi8-u"]),
  (10000, ["csmacintosh", "mac", "macintosh", "x-mac-roman"]),
  (874, ["dos-874", "iso-8859-11", "iso8859-11", "iso885911", "tis-620", "windows-874"]),
  (1250, ["cp1250", "windows-1250", "x-cp1250"]),
  (1251, ["cp1251", "windows-1251", "x-cp1251"]),
  (1252, ["ansi_x3.4-1968", "ascii", "cp1252", "cp819", "csisolatin1", "ibm819", "iso-8859-1",
    "iso-ir-100", "iso8859-1", "iso88591", "iso_8859-1", "iso_8859-1:1987", "l1", "latin1",
    "us-ascii", "windows-1252", "x-cp1252"]),
  (1253, ["cp1253", "windows-1253", "x-cp1253"]),
  (1254, ["cp1254", "csisolatin5", "iso-8859-9", "iso-ir-148", "iso8859-9", "iso88599",
    "iso_8859-9", "iso_8859-9:1989", "l5", "latin5", "windows-1254", "x-cp1254"]),
  (1255, ["cp1255", "windows-1255", "x-cp1255"]),
  (1256, ["cp1256", "windows-1256", "x-cp1256"]),
  (1257, ["cp1257", "windows-1257", "x-cp1257"]),
  (1258, ["cp1258", "windows-1258", "x-cp1258"]),
  (10017, ["x-mac-cyrillic", "x-mac-ukrainian"]),
  (936, ["chinese", "csgb2312", "csiso58gb231280", "gb2312", "gb_2312", "gb_2312-80", "gbk",
    "iso-ir-58", "x-gbk"]),
  (54936, ["gb18030"]),
  (950, ["big5", "big5-hkscs", "cn-big5", "csbig5", "x-x-big5"]),
  (51932, ["cseucpkdfmtjapanese", "euc-jp", "x-euc-jp"]),
  (50220, ["csiso2022jp", "iso-2022-jp"]),
  (932, ["csshiftjis", "ms932", "ms_kanji", "shift-jis", "shift_jis", "sjis", "windows-31j",
    "x-sjis"]),
  (51949, ["cseuckr", "csksc56011987", "euc-kr", "iso-ir-149", "korean", "ks_c_5601-1987",
    "ks_c_5601-1989", "ksc5601", "ksc_5601", "windows-949"]),
  (cpUtf16Be, ["unicodefffe", "utf-16be"]),
  (cpUtf16Le, ["csunicode", "iso-10646-ucs-2", "ucs-2", "unicode", "unicodefeff", "utf-16",
    "utf-16le"]),
  (cpXUserDefined, ["x-user-defined"]),
  (cpReplacement, ["csiso2022kr", "hz-gb-2312", "iso-2022-cn", "iso-2022-cn-ext", "iso-2022-kr",
    "replacement"])
]

def whatwgLabelToCodepage (label : String) : Option Nat :=
  (codepageLabels.find? fun row => row.2.contains label).map Prod.fst

inductive CodepageBackend
  | icuRequired (name : String)
  | icuPreferred (name : String)
  | nls

/-- The decoder of each code page of Windows. -/
def codepageBackends : List (Nat × CodepageBackend) :=
  [(28600, .icuRequired "ISO-8859-10"), (28604, .icuRequired "ISO-8859-14"),
    (51932, .icuRequired "EUC-JP"), (28593, .icuPreferred "ISO-8859-3"),
    (28596, .icuPreferred "ISO-8859-6"), (28597, .icuPreferred "ISO-8859-7"),
    (28598, .icuPreferred "ISO-8859-8"), (38598, .icuPreferred "ISO-8859-8"),
    (10000, .icuPreferred "macintosh"), (1253, .icuPreferred "windows-1253"),
    (1257, .icuPreferred "windows-1257"), (10017, .icuPreferred "x-mac-cyrillic"),
    (936, .icuPreferred "gb18030"), (54936, .icuPreferred "gb18030"),
    (950, .icuPreferred "Big5-HKSCS"), (51949, .icuPreferred "windows-949"), (866, .nls),
    (28592, .nls), (28594, .nls), (28595, .nls), (28603, .nls), (28605, .nls), (20866, .nls),
    (21866, .nls), (874, .icuPreferred "ibm-1162"), (1250, .nls), (1251, .nls), (1252, .nls),
    (1254, .nls), (1255, .nls), (1256, .nls), (1258, .nls),
    (50220, .icuPreferred "ISO-2022-JP"), (932, .nls)]

def codepageBackend (codepage : Nat) : Option CodepageBackend :=
  (codepageBackends.find? fun row => row.1 == codepage).map Prod.snd

end CodePages

section Trimming

variable {drops : Char → Bool}

theorem dropWhile_of_kept {text : List Char}
    (kept : ∀ character ∈ text, drops character = false) (after : List Char)
    (droppedAfter : ∀ character ∈ after, drops character = true) :
    (text ++ after).dropWhile drops = if text = [] then [] else text ++ after := by
  cases text with
  | nil => exact List.dropWhile_eq_nil_iff.mpr droppedAfter
  | cons first rest =>
    have keeps := kept first List.mem_cons_self
    simp [keeps]

theorem rdropWhile_of_kept {text : List Char}
    (kept : ∀ character ∈ text, drops character = false) (after : List Char)
    (droppedAfter : ∀ character ∈ after, drops character = true) :
    (text ++ after).rdropWhile drops = text := by
  have droppedReversed : ∀ character ∈ after.reverse, drops character = true :=
    fun character member => droppedAfter character (List.mem_reverse.mp member)
  have keptReversed : ∀ character ∈ text.reverse, drops character = false :=
    fun character member => kept character (List.mem_reverse.mp member)
  rw [List.rdropWhile, List.reverse_append, List.dropWhile_append_of_pos droppedReversed]
  have keeps := dropWhile_of_kept keptReversed [] (by simp)
  rw [List.append_nil] at keeps
  rw [keeps, ite_eq_right_iff.mpr Eq.symm, List.reverse_reverse]

/-- Trimming leaves a text without dropped characters, and nothing around it. -/
theorem trimMatches_append {before text after : List Char}
    (droppedBefore : ∀ character ∈ before, drops character = true)
    (kept : ∀ character ∈ text, drops character = false)
    (droppedAfter : ∀ character ∈ after, drops character = true) :
    trimMatches drops (before ++ (text ++ after)) = text := by
  rw [trimMatches, List.dropWhile_append_of_pos droppedBefore,
    dropWhile_of_kept kept after droppedAfter]
  split
  · next empty => rw [empty, List.rdropWhile_nil]
  · exact rdropWhile_of_kept kept after droppedAfter

end Trimming

end Wrest
