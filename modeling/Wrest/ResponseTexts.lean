import Wrest.BodyDecoding
import Wrest.PipedResponses
import Wrest.RequestDeadlines
import Wrest.Utf16Strings

/-!
# The text of a response

`text` collects the body of a response and decodes it, in the charset that the
`Content-Type` declares or in a given one.  `json` hands the same octets to a parser.

Texts in an encoding of Unicode come back as they were encoded, however their octets are
spread over the reads.  The parsers of media types and of JSON are given from outside.
-/

namespace Wrest

open Interaction TextDecoding Uri

/-- The parser of media types. -/
structure MimeLibrary where
  Mime : Type
  parse : String → Option Mime
  getParam : Mime → String → Option String

/-- `extract_charset_from_content_type`. -/
def extractCharsetFromContentType (library : MimeLibrary) (headers : HeaderMap) :
    Option String := do
  let value ← headers.get .contentType
  let text ← value.toStr
  let mime ← library.parse text
  (library.getParam mime "charset").filter fun charset => !charset.isEmpty

namespace Response

open ResponseChunk Relay

/-- The end of the readers that need the whole body: the octets are handed on, and the
response is dropped. -/
def readWhole {α : Type} (finish : List UInt8 → Except Error α) (limit : Nat)
    (response : Response) : ClientProgram (Option (Except Error α)) := do
  match ← response.collectBody limit with
  | (some result, last) => do
    last.drop
    pure (some (result.bind fun data => finish (octets data)))
  | (none, _) => pure none

/-- The charset that the response declares, or the given one. -/
def charset (library : MimeLibrary) (response : Response) (defaultEncoding : String) :
    String :=
  (extractCharsetFromContentType library response.headers).getD defaultEncoding

def textWithCharset (library : MimeLibrary) (libraries : CharsetLibraries)
    (defaultEncoding : String) (limit : Nat) (response : Response) :
    ClientProgram (Option (Except Error String)) :=
  readWhole (fun data => decodeBody libraries data (response.charset library defaultEncoding))
    limit response

def text (library : MimeLibrary) (libraries : CharsetLibraries) (limit : Nat)
    (response : Response) : ClientProgram (Option (Except Error String)) :=
  response.textWithCharset library libraries "utf-8" limit

def json {α : Type} (fromSlice : List UInt8 → Except ErrorSource α) (limit : Nat)
    (response : Response) : ClientProgram (Option (Except Error α)) :=
  readWhole (fun data => (fromSlice data).mapError fun source =>
    Error.decode (.context "JSON deserialization failed" source)) limit response

end Response

section Encodings

/-- A text in an encoding of Unicode, without a mark. -/
def UnicodeEncoding.encode : UnicodeEncoding → String → List UInt8
  | utf8, content => utf8Bytes content
  | utf16Be, content =>
    (encodeUtf16 content.toList).flatMap fun unit => unitOctets true unit.toNat
  | utf16Le, content =>
    (encodeUtf16 content.toList).flatMap fun unit => unitOctets false unit.toNat

theorem codeUnit_unitOctets {isBigEndian : Bool} {unit : Nat} (small : unit < 0x10000) :
    ∃ first second, unitOctets isBigEndian unit = [first, second] ∧
      codeUnit isBigEndian first second = unit := by
  have high : (UInt8.ofNat (unit / 0x100)).toNat = unit / 0x100 :=
    UInt8.toNat_ofNat_of_lt' (by rw [UInt8.size]; omega)
  have low : (UInt8.ofNat (unit % 0x100)).toNat = unit % 0x100 :=
    UInt8.toNat_ofNat_of_lt' (by rw [UInt8.size]; omega)
  cases isBigEndian with
  | true =>
    refine ⟨_, _, rfl, ?_⟩
    simp only [codeUnit, if_true, high, low]
    omega
  | false =>
    refine ⟨_, _, rfl, ?_⟩
    simp only [codeUnit, Bool.false_eq_true, if_false, high, low]
    omega

theorem splitUnits_flatMap (isBigEndian : Bool) (units : List UInt16) :
    splitUnits (codeUnit isBigEndian)
      (units.flatMap fun unit => unitOctets isBigEndian unit.toNat) =
        (units.map UInt16.toNat, []) := by
  induction units with
  | nil => rfl
  | cons unit units ih =>
    obtain ⟨first, second, octetsEq, unitEq⟩ := codeUnit_unitOctets unit.toNat_lt
    rw [List.flatMap_cons, octetsEq, List.cons_append, List.singleton_append, splitUnits, ih,
      unitEq, List.map_cons]

/-- The strict decoder accepts the code units, so that the lossy one replaces nothing. -/
theorem decodeUtf16_encode (isBigEndian : Bool) (content : String) :
    decodeUtf16 ((encodeUtf16 content.toList).flatMap
      fun unit => unitOctets isBigEndian unit.toNat) (codeUnit isBigEndian) = content := by
  have strict := fromUtf16_encodeUtf16 content.toList
  rw [decodeUtf16, decodeUnits, splitUnits_flatMap, leftOver, if_neg (by simp),
    List.append_nil, fromUtf16Lossy_of_fromUtf16 strict, String.ofList_toList]

theorem text_encode (encoding : UnicodeEncoding) (content : String) :
    encoding.text (encoding.encode content) = content := by
  cases encoding with
  | utf8 =>
    rw [UnicodeEncoding.text, UnicodeEncoding.encode, decodeUtf8OrLossy,
      decodeUtf8_utf8Bytes]
  | utf16Be => exact decodeUtf16_encode true content
  | utf16Le => exact decodeUtf16_encode false content

/-- An octet that begins no sequence is replaced. -/
theorem fromUtf8Lossy_wrong {first : UInt8} (width : charWidth first = 0)
    (rest : List UInt8) :
    fromUtf8Lossy (first :: rest) = replacement :: fromUtf8Lossy rest := by
  conv => lhs; unfold fromUtf8Lossy
  simp only [width]

theorem toList_of_utf8Bytes {content : String} {octets : List UInt8}
    (encoded : utf8Bytes content = octets) : content.toList = fromUtf8Lossy octets := by
  rw [← encoded, utf8Bytes, fromUtf8Lossy_flatMap_utf8EncodeChar]

/-- Encoded text never begins with an octet that begins no sequence. -/
theorem utf8Bytes_ne_cons {first : UInt8} (width : charWidth first = 0)
    (other : (String.utf8EncodeChar replacement).head? ≠ some first) (content : String)
    (rest : List UInt8) : utf8Bytes content ≠ first :: rest := by
  intro encoded
  have decoded := toList_of_utf8Bytes encoded
  rw [fromUtf8Lossy_wrong width] at decoded
  rw [utf8Bytes, decoded, List.flatMap_cons] at encoded
  apply other
  have heads := congrArg List.head? encoded
  rw [List.head?_append_of_ne_nil _ (by decide)] at heads
  exact heads

/-- Among the texts in UTF-8 only those that begin with the mark begin like one. -/
theorem noMark_utf8 {content : String} (plain : content.toList.head? ≠ some '\ufeff')
    (other : UnicodeEncoding) : ¬other.byteOrderMark <+: utf8Bytes content := by
  rintro ⟨rest, encoded⟩
  cases other with
  | utf8 =>
    have mark : UnicodeEncoding.utf8.byteOrderMark = String.utf8EncodeChar '\ufeff' := by
      decide
    have decoded := toList_of_utf8Bytes encoded.symm
    rw [mark, fromUtf8Lossy_utf8EncodeChar] at decoded
    exact plain (congrArg List.head? decoded)
  | utf16Be => exact utf8Bytes_ne_cons (by decide) (by decide) content _ encoded.symm
  | utf16Le => exact utf8Bytes_ne_cons (by decide) (by decide) content _ encoded.symm

/-- How octets carry a text: behind the mark of its encoding, or under a label of its
encoding without beginning like a mark. -/
inductive Carries (label : String) (content : String) : List UInt8 → Prop
  | marked (encoding : UnicodeEncoding) :
      Carries label content (encoding.byteOrderMark ++ encoding.encode content)
  | unmarked {encoding : UnicodeEncoding}
      (noMark : ∀ other : UnicodeEncoding, ¬other.byteOrderMark <+: encoding.encode content)
      (resolves : ResolvesTo label encoding) : Carries label content (encoding.encode content)

theorem carries_utf8 {label content : String} (resolves : ResolvesTo label .utf8)
    (plain : content.toList.head? ≠ some '\ufeff') :
    Carries label content (utf8Bytes content) :=
  @Carries.unmarked label content .utf8 (noMark_utf8 plain) resolves

theorem decodeBody_of_carries {libraries : CharsetLibraries} {label content : String}
    {data : List UInt8} (carries : Carries label content data) :
    decodeBody libraries data label = .ok content := by
  have decodes (encoding : UnicodeEncoding) :
      encoding.Decodes (encoding.encode content) content.toList := by
    have decoded := decodes_text encoding (encoding.encode content)
    rwa [text_encode] at decoded
  rw [← String.ofList_toList (s := content)]
  cases carries with
  | marked encoding => exact decodeBody_of_decodesBody (.marked (decodes encoding))
  | unmarked noMark resolves =>
    exact decodeBody_of_decodesBody (.unmarked noMark resolves (decodes _))

end Encodings

namespace Response

open ResponseChunk Relay

section Reading

variable {response : Response} {trace : ClientTrace} {chunks : List ChunkBytes}
  {ending : Except Error Unit} {limit : Nat}

/-- The whole body goes through the exchanges of a loop over `chunk`, to the same end. -/
theorem readWhole_of_chunkLoop {α : Type} (finish : List UInt8 → Except Error α)
    (reads : Traces (chunkLoop limit response) trace (chunks, some ending))
    (fits : chunks.flatten.length ≤ usizeMax) :
    Traces (readWhole finish limit response) trace
      (some (ending.bind fun _ => finish (octets chunks.flatten))) := by
  obtain ⟨readsTo, fewer⟩ := readsTo_of_chunkLoop reads
  obtain ⟨before, after, last, rfl, collects, drops⟩ :=
    collectParts_of_readsTo readsTo fewer [] 0 (by rwa [Nat.zero_add])
  rw [List.nil_append, concatParts_eq_flatten] at collects
  have finishes := drops.bind_pure fun _ =>
    some ((ending.map fun _ => chunks.flatten).bind fun data => finish (octets data))
  have whole : Traces (readWhole finish limit response) (before ++ after) _ :=
    Traces.bind collects finishes
  cases ending with
  | ok value => exact whole
  | error error => exact whole

end Reading

/-- The octets of the body are decoded as a whole, wherever they are cut into reads, in the
declared charset or in the given one.  A body that carries a text in an encoding of Unicode
gives back this text.  When a read fails its error is returned. -/
theorem textWithCharset_readsBack (library : MimeLibrary) (libraries : CharsetLibraries)
    (defaultEncoding : String) (response : Response) (limit : Nat) (trace : ClientTrace)
    (chunks : List ChunkBytes) (ending : Except Error Unit)
    (reads : Traces (chunkLoop limit response) trace (chunks, some ending))
    (fits : chunks.flatten.length ≤ usizeMax) :
    Traces (response.textWithCharset library libraries defaultEncoding limit) trace
        (some (ending.bind fun _ => decodeBody libraries (octets chunks.flatten)
          (response.charset library defaultEncoding))) ∧
      ∀ content, Carries (response.charset library defaultEncoding) content
          (octets chunks.flatten) →
        Traces (response.textWithCharset library libraries defaultEncoding limit) trace
          (some (ending.map fun _ => content)) := by
  have whole := readWhole_of_chunkLoop
    (fun data => decodeBody libraries data (response.charset library defaultEncoding)) reads
    fits
  refine ⟨whole, fun content carries => ?_⟩
  rw [decodeBody_of_carries carries] at whole
  cases ending with
  | ok value => exact whole
  | error error => exact whole

section Example

/-- A read of one octet. -/
def octetRead (octet : UInt8) : ReadCompletion :=
  .completed (.ok (.readComplete 1)) (some { allocation := 0, capacity := READ_BUF_SIZE })
    fun _ => [octet]

/-- Two reads that cut a character of two octets. -/
def cutReads : ClientTrace :=
  [⟨.read, octetRead 0xC3⟩, ⟨.read, octetRead 0xA9⟩, ⟨.read, zerosRead 0⟩, ⟨.close, ()⟩]

theorem cutReads_reads :
    Traces (chunkLoop 3 (openResponse none)) cutReads ([[some 0xC3], [some 0xA9]], some (.ok ())) :=
  .call _ (.call _ (.call _ (.call _ (.done _))))

def noMime : MimeLibrary where
  Mime := Empty
  parse _ := none
  getParam := nofun

theorem resolvesTo_utf8 : ResolvesTo "utf-8" .utf8 :=
  ⟨[], "utf-8".toList, [], rfl, nofun, by decide⟩

theorem textWithCharset_readsBack_cut :
    Traces ((openResponse none).textWithCharset noMime .unavailable "utf-8" 3) cutReads
        (some (.ok "é")) ∧
      (Traces ((openResponse none).textWithCharset noMime .unavailable "utf-8" 3) cutReads
        (some ((Except.ok () : Except Error Unit).bind fun _ =>
          decodeBody .unavailable (octets [[some 0xC3], [some 0xA9]].flatten)
            ((openResponse none).charset noMime "utf-8")))) := by
  obtain ⟨decodes, readsBack⟩ := textWithCharset_readsBack noMime .unavailable "utf-8"
    (openResponse none) 3 cutReads [[some 0xC3], [some 0xA9]] (.ok ()) cutReads_reads
    (by decide)
  exact ⟨readsBack "é" (carries_utf8 resolvesTo_utf8 (by decide)), decodes⟩

end Example

end Response

end Wrest
