import Wrest.BuiltHeaders

/-!
# Blocks of response headers

WinHTTP renders a response head as a status line and one line for each field, every line
ended by a carriage return and a line feed, with an empty line at the end.  Parsing such a
block gives a map of its fields: names in lower case, the values of each name in order.  A
name of more octets than a header name may have is no header name, and its field is not in
the map.  The parse panics if the map runs out of room on the way.
-/

namespace Wrest

open HeaderMap

/-- The characters of a field value: visible ASCII, blanks and tabs. -/
def isFieldChar (character : Char) : Bool :=
  (32 ≤ character.toNat && character.toNat ≤ 126) || character.toNat == 9

/-- A field of a response head: a token and a value without white space around it. -/
structure HeaderField where
  name : List Char
  value : List Char
  nonempty : name ≠ []
  token : ∀ character ∈ name, isTokenChar (asciiLower character) = true
  ascii : ∀ character ∈ value, isFieldChar character = true
  begins : ∀ character, value.head? = some character → isWhitespace character = false
  ends : ∀ character, value.getLast? = some character → isWhitespace character = false

structure StatusLine where
  text : List Char
  begins : "HTTP/".toList <+: text
  single : '\n' ∉ text

def HeaderField.row (field : HeaderField) : List Char :=
  field.name ++ ':' :: ' ' :: field.value

/-- The block that WinHTTP returns for a response head. -/
def renderHeaders (status : StatusLine) (fields : List HeaderField) : String :=
  String.ofList
    ((status.text :: fields.map HeaderField.row ++ [[]]).flatMap (· ++ ['\r', '\n']))

/-- The name fits into a header name. -/
def HeaderField.isShort (field : HeaderField) : Bool :=
  decide (field.name.length ≤ maxHeaderNameLength)

def HeaderField.lowerName (field : HeaderField) : String :=
  String.ofList (field.name.map asciiLower)

/-- The occurrence is the field with its name in lower case. -/
def Denotes (field : HeaderField) (occurrence : HeaderName × HeaderValue) : Prop :=
  occurrence.1.text = field.lowerName ∧
    occurrence.2.bytes = field.value.map narrowChar

/-- The map holds the fields and nothing else, and the values of each name in order. -/
def HoldsFields (map : HeaderMap) (fields : List HeaderField) : Prop :=
  ∃ occurrences, List.Forall₂ Denotes fields occurrences ∧
    map.iter.Perm occurrences ∧
    ∀ name, map.getAll name = valuesAmong occurrences name

section Characters

theorem toNat_of_isTokenChar {character : Char} (token : isTokenChar character = true) :
    33 ≤ character.toNat ∧ character.toNat ≤ 126 := by
  simp only [isTokenChar, Bool.or_eq_true, Bool.and_eq_true, decide_eq_true_eq,
    List.contains_iff_mem] at token
  rcases token with (⟨lower, upper⟩ | ⟨lower, upper⟩) | punctuation
  · have low : 97 ≤ character.toNat := lower
    have high : character.toNat ≤ 122 := upper
    omega
  · have low : 48 ≤ character.toNat := lower
    have high : character.toNat ≤ 57 := upper
    omega
  · have bounds : ("!#$%&'*+-.^_`|~".toList.all fun other =>
        decide (33 ≤ other.toNat) && decide (other.toNat ≤ 126)) = true := by decide
    simpa using List.all_eq_true.mp bounds character punctuation

theorem toNat_of_isWhitespace {character : Char}
    (white : isWhitespace character = true) :
    character.toNat ≤ 32 ∨ 127 ≤ character.toNat := by
  simp only [isWhitespace, Bool.or_eq_true, Bool.and_eq_true, decide_eq_true_eq,
    beq_iff_eq] at white
  omega

theorem asciiLower_eq_self {character : Char} (notLetter : character.toNat ≤ 64 ∨
    91 ≤ character.toNat) : asciiLower character = character := by
  unfold asciiLower
  rw [if_neg]
  rintro ⟨fromA, toZ⟩
  have low : 65 ≤ character.toNat := fromA
  have high : character.toNat ≤ 90 := toZ
  omega

/-- A character of a token in any case is neither white space nor a delimiter. -/
theorem ne_of_token {character other : Char}
    (token : isTokenChar (asciiLower character) = true)
    (notLetter : other.toNat ≤ 64 ∨ 91 ≤ other.toNat) (notToken : isTokenChar other = false) :
    character ≠ other := by
  rintro rfl
  rw [asciiLower_eq_self notLetter, notToken] at token
  cases token

theorem not_isWhitespace_of_token {character : Char}
    (token : isTokenChar (asciiLower character) = true) : isWhitespace character = false := by
  by_contra white
  rw [Bool.not_eq_false] at white
  have outside := toNat_of_isWhitespace white
  rw [asciiLower_eq_self (by omega)] at token
  have inside := toNat_of_isTokenChar token
  omega

theorem narrowChar_toNat {character : Char} (octet : character.toNat < 256) :
    (narrowChar character).toNat = character.toNat := by
  rw [narrowChar, UInt8.toNat_ofNat', Nat.mod_eq_of_lt octet]

theorem latin1Char_narrowChar {character : Char} (octet : character.toNat < 256) :
    latin1Char (narrowChar character) = character := by
  apply Char.toNat_inj.mp
  rw [latin1Char_toNat, narrowChar_toNat octet]

theorem toList_loop (bytes : ByteArray) (index : Nat) (taken : List UInt8) :
    ByteArray.toList.loop bytes index taken =
      taken.reverse ++ bytes.data.toList.drop index := by
  fun_induction ByteArray.toList.loop bytes index taken with
  | case1 index taken inside ih =>
    have bound : index < bytes.data.toList.length := inside
    have found : bytes.get! index = bytes.data.toList[index] := by
      rw [Array.getElem_toList]
      exact getElem!_pos bytes.data index inside
    rw [ih, List.drop_eq_getElem_cons bound, found, List.reverse_cons, List.append_assoc,
      List.singleton_append]
  | case2 index taken outside =>
    have bound : bytes.data.toList.length ≤ index := Nat.le_of_not_lt outside
    rw [List.drop_eq_nil_of_le bound, List.append_nil]

theorem toUTF8_toList (text : String) : text.toUTF8.toList = utf8Bytes text := by
  have encoded : text.toUTF8 = (text.toList.flatMap String.utf8EncodeChar).toByteArray :=
    String.utf8Encode_toList.symm
  rw [encoded, ByteArray.toList, toList_loop, List.toList_data_toByteArray]
  rfl

end Characters

namespace HeaderField

variable (field : HeaderField)

theorem colon_notMem : ':' ∉ field.name := fun member =>
  ne_of_token (field.token _ member) (by decide) (by decide) rfl

theorem slash_notMem : '/' ∉ field.name := fun member =>
  ne_of_token (field.token _ member) (by decide) (by decide) rfl

theorem newline_notMem_row : '\n' ∉ field.row := by
  intro member
  simp only [row, List.mem_append, List.mem_cons] at member
  rcases member with inName | isColon | isBlank | inValue
  · exact ne_of_token (field.token _ inName) (by decide) (by decide) rfl
  · exact absurd isColon (by decide)
  · exact absurd isBlank (by decide)
  · exact absurd (field.ascii _ inValue) (by decide)

/-- A field is not taken for a status line. -/
theorem not_status : ¬"HTTP/".toList <+: field.row := by
  intro status
  have named : field.name ++ [':'] <+: field.row :=
    ⟨' ' :: field.value, by simp [row]⟩
  rcases List.prefix_or_prefix_of_prefix status named with within | around
  · have slash : '/' ∈ field.name ++ [':'] := within.subset (by decide)
    rcases List.mem_append.mp slash with inName | isColon
    · exact field.slash_notMem inName
    · exact absurd isColon (by decide)
  · have colon : ':' ∈ "HTTP/".toList := around.subset (by simp)
    exact absurd colon (by decide)

theorem trim_name : trim field.name = field.name := by
  apply trim_eq_self
  · intro character first
    exact not_isWhitespace_of_token (field.token _ (List.mem_of_head? first))
  · intro character last
    exact not_isWhitespace_of_token (field.token _ (List.mem_of_getLast? last))

theorem trim_value : trim (' ' :: field.value) = field.value := by
  have blank : ∀ character ∈ [' '] ++ [], isWhitespace character = true := by
    intro character member
    rw [List.append_nil, List.mem_singleton] at member
    rw [member]
    rfl
  have padded : trim ([' '] ++ field.value ++ []) = trim field.value :=
    trim_pad field.value blank
  rw [List.append_nil, List.singleton_append] at padded
  rw [padded]
  exact trim_eq_self field.begins field.ends

/-- The octets of a value are its characters. -/
theorem toUTF8_value :
    (String.ofList field.value).toUTF8.toList = field.value.map narrowChar := by
  have small : ∀ character ∈ field.value, character.toNat < 128 := by
    intro character member
    have visible := field.ascii character member
    simp only [isFieldChar, Bool.or_eq_true, Bool.and_eq_true, decide_eq_true_eq,
      beq_iff_eq] at visible
    omega
  have widened : (field.value.map narrowChar).map latin1Char = field.value := by
    rw [List.map_map]
    refine (List.map_congr_left fun character member => ?_).trans (List.map_id _)
    exact latin1Char_narrowChar (Nat.lt_trans (small character member) (by decide))
  have octets : ∀ byte ∈ field.value.map narrowChar, byte.toNat < 128 := by
    intro byte member
    obtain ⟨character, inValue, rfl⟩ := List.mem_map.mp member
    have bound := small character inValue
    rw [narrowChar_toNat (by omega)]
    exact bound
  rw [toUTF8_toList, ← utf8Bytes_latin1 octets, widened]

theorem fromBytes_value : ∃ value, HeaderValue.fromBytes (field.value.map narrowChar) =
    some value ∧ value.bytes = field.value.map narrowChar := by
  have valid : (field.value.map narrowChar).all isValueByte = true := by
    rw [List.all_map, List.all_eq_true]
    intro character member
    have visible := field.ascii character member
    simp only [isFieldChar, Bool.or_eq_true, Bool.and_eq_true, decide_eq_true_eq,
      beq_iff_eq] at visible
    have octet : (narrowChar character).toNat = character.toNat :=
      narrowChar_toNat (by omega)
    simp only [Function.comp_apply, isValueByte, octet, Bool.or_eq_true, Bool.and_eq_true,
      decide_eq_true_eq, beq_iff_eq, bne_iff_ne]
    omega
  rw [HeaderValue.fromBytes, dif_pos valid]
  exact ⟨_, rfl, rfl⟩

theorem fromText_name :
    (field.isShort = true → ∃ name, HeaderName.fromText field.name = some name ∧
      name.text = String.ofList (field.name.map asciiLower)) ∧
    (field.isShort = false → HeaderName.fromText field.name = none) := by
  have token : (field.name.map asciiLower).all isTokenChar = true := by
    rw [List.all_map, List.all_eq_true]
    exact field.token
  unfold HeaderName.fromText isShort
  constructor
  · intro short
    rw [dif_pos ⟨field.nonempty, of_decide_eq_true short, token⟩]
    exact ⟨_, rfl, rfl⟩
  · intro long
    exact dif_neg fun valid => of_decide_eq_false long valid.2.1

/-- The line of a field is read as the field, unless its name is too long. -/
theorem parseRawHeader_row :
    (field.isShort = true → ∃ occurrence, parseRawHeader field.row = some occurrence ∧
      Denotes field occurrence) ∧
    (field.isShort = false → parseRawHeader field.row = none) := by
  obtain ⟨value, valueEq, bytes⟩ := field.fromBytes_value
  have line : (field.row.isEmpty || "HTTP/".toList.isPrefixOf field.row) = false := by
    rw [Bool.or_eq_false_iff]
    constructor
    · simp [row]
    · rw [Bool.eq_false_iff, Ne, List.isPrefixOf_iff_prefix]
      exact field.not_status
  have split : splitOnce ':' field.row = some (field.name, ' ' :: field.value) :=
    splitOnce_append field.colon_notMem _
  unfold parseRawHeader
  rw [line, split]
  simp only [Bool.false_eq_true, if_false, trim_name, trim_value, toUTF8_value, valueEq]
  constructor
  · intro short
    obtain ⟨name, nameEq, text⟩ := field.fromText_name.1 short
    rw [nameEq]
    exact ⟨_, rfl, text, bytes⟩
  · intro long
    rw [field.fromText_name.2 long]

end HeaderField

namespace HeaderMap

/-- The occurrences of a map are those that the values of each name say. -/
theorem iter_perm {map : HeaderMap} {occurrences : List (HeaderName × HeaderValue)}
    (values : ∀ name, map.getAll name = valuesAmong occurrences name) :
    map.iter.Perm occurrences := by
  have counts : ∀ (list : List (HeaderName × HeaderValue)) (name : HeaderName)
      (value : HeaderValue), list.count (name, value) = (valuesAmong list name).count value := by
    intro list name value
    rw [valuesAmong, List.count, List.count, List.countP_map, List.countP_filter]
    apply List.countP_congr
    intro occurrence _
    simp [Prod.ext_iff, and_comm]
  rw [List.perm_iff_count]
  rintro ⟨name, value⟩
  rw [counts, counts, valuesAmong_iter, values]

end HeaderMap

section Blocks

variable (status : StatusLine) (fields : List HeaderField)

/-- The lines of a block, with the empty one at its end. -/
theorem lines_renderHeaders :
    lines (renderHeaders status fields).toList =
      status.text :: fields.map HeaderField.row ++ [[]] := by
  rw [renderHeaders, String.toList_ofList]
  apply lines_crlf
  intro row member
  rcases List.mem_append.mp member with inside | last
  · rcases List.mem_cons.mp inside with rfl | inFields
    · exact status.single
    · obtain ⟨field, -, rfl⟩ := List.mem_map.mp inFields
      exact field.newline_notMem_row
  · rw [List.mem_singleton.mp last]
    exact List.not_mem_nil

theorem parseRawHeader_status : parseRawHeader status.text = none := by
  have skipped : (status.text.isEmpty || "HTTP/".toList.isPrefixOf status.text) = true := by
    rw [Bool.or_eq_true, List.isPrefixOf_iff_prefix]
    exact .inr status.begins
  rw [parseRawHeader, skipped]
  rfl

/-- The status line and the empty line hold no occurrence. -/
theorem occurrences_renderHeaders :
    (lines (renderHeaders status fields).toList).filterMap parseRawHeader =
      (fields.map HeaderField.row).filterMap parseRawHeader := by
  have blank : parseRawHeader [] = none := rfl
  rw [lines_renderHeaders, List.filterMap_append, List.filterMap_cons, parseRawHeader_status]
  simp [blank]

theorem parseRawHeaders_eq (raw : String) :
    parseRawHeaders raw = ((lines raw.toList).filterMap parseRawHeader).foldl
      (fun map occurrence => map.append occurrence.1 occurrence.2) .empty := by
  rw [parseRawHeaders, List.foldl_filterMap]
  congr 1
  funext map line
  cases parseRawHeader line <;> rfl

theorem denotes_rows :
    List.Forall₂ Denotes (fields.filter HeaderField.isShort)
      ((fields.map HeaderField.row).filterMap parseRawHeader) := by
  induction fields with
  | nil => exact .nil
  | cons field fields ih =>
    obtain ⟨short, long⟩ := field.parseRawHeader_row
    rw [List.map_cons, List.filterMap_cons]
    cases shortness : field.isShort with
    | true =>
      obtain ⟨occurrence, parsed, denotes⟩ := short shortness
      rw [parsed, List.filter_cons_of_pos shortness]
      exact .cons denotes ih
    | false =>
      rw [long shortness, List.filter_cons_of_neg (by rw [shortness]; exact Bool.false_ne_true)]
      exact ih

theorem names_of_denotes {fields : List HeaderField}
    {occurrences : List (HeaderName × HeaderValue)}
    (denotes : List.Forall₂ Denotes fields occurrences) :
    occurrences.map (fun occurrence => occurrence.1.text) =
      fields.map HeaderField.lowerName := by
  induction denotes with
  | nil => rfl
  | cons denoted _ ih => rw [List.map_cons, List.map_cons, ih, denoted.1]

theorem parsedNames_renderHeaders :
    parsedNames (lines (renderHeaders status fields).toList) =
      (fields.filter HeaderField.isShort).map HeaderField.lowerName := by
  rw [parsedNames, occurrences_renderHeaders]
  exact names_of_denotes (denotes_rows fields)

/-- A map with room holds the fields whose names fit into a header name. -/
theorem holdsFields_renderHeaders :
    HoldsFields (parseRawHeaders (renderHeaders status fields))
      (fields.filter HeaderField.isShort) := by
  have values : ∀ name, (parseRawHeaders (renderHeaders status fields)).getAll name =
      valuesAmong ((fields.map HeaderField.row).filterMap parseRawHeader) name := by
    intro name
    rw [parseRawHeaders_eq, occurrences_renderHeaders, getAll_foldl_append, getAll_empty,
      List.nil_append]
  exact ⟨_, denotes_rows fields, iter_perm values, values⟩

/-- A block is parsed into the fields whose names fit into a header name if the map has room
for each of them in turn, and the parse panics if not.  A crate that can hold more names than
the block has always has room. -/
theorem parseRawHeaders_renderHeaders (hasRoom : List String → Bool) :
    (HasRoomFor hasRoom [] ((fields.filter HeaderField.isShort).map HeaderField.lowerName) →
        tryParseRawHeaders hasRoom (renderHeaders status fields) =
            some (parseRawHeaders (renderHeaders status fields)) ∧
          HoldsFields (parseRawHeaders (renderHeaders status fields))
            (fields.filter HeaderField.isShort)) ∧
      (¬HasRoomFor hasRoom [] ((fields.filter HeaderField.isShort).map HeaderField.lowerName) →
        tryParseRawHeaders hasRoom (renderHeaders status fields) = none) ∧
      ∀ capacity, (∀ names : List String, names.dedup.length < capacity →
          hasRoom names = true) →
        ((fields.filter HeaderField.isShort).map HeaderField.lowerName).dedup.length <
            capacity →
          HasRoomFor hasRoom []
            ((fields.filter HeaderField.isShort).map HeaderField.lowerName) := by
  have parses : ∀ map, tryParseRawHeaders hasRoom (renderHeaders status fields) = some map ↔
      HasRoomFor hasRoom [] ((fields.filter HeaderField.isShort).map HeaderField.lowerName) ∧
        map = parseRawHeaders (renderHeaders status fields) := by
    intro map
    rw [tryParseRawHeaders, appendLines_eq_some_iff, parsedNames_renderHeaders, parseRawHeaders_eq]
  refine ⟨fun room => ⟨(parses _).mpr ⟨room, rfl⟩, holdsFields_renderHeaders status fields⟩,
    fun full => ?_, fun capacity holds few => hasRoomFor_of_dedup_lt holds few⟩
  rw [Option.eq_none_iff_forall_ne_some]
  exact fun map parsed => full ((parses map).mp parsed).1

end Blocks

section Examples

def okStatus : StatusLine where
  text := "HTTP/1.1 200 OK".toList
  begins := by decide
  single := by decide

/-- A field of one letter, without a value. -/
def letterField (letter : Char) (token : isTokenChar (asciiLower letter) = true) :
    HeaderField where
  name := [letter]
  value := []
  nonempty := List.cons_ne_nil _ _
  token character member := by rwa [List.mem_singleton.mp member]
  ascii := fun _ member => absurd member List.not_mem_nil
  begins := nofun
  ends := nofun

/-- Two fields of one name, in a crate that holds two names. -/
theorem parseRawHeaders_renderHeaders_twice :
    tryParseRawHeaders (fun names => names.dedup.length < 2)
        (renderHeaders okStatus [letterField 'A' rfl, letterField 'a' rfl]) =
          some (parseRawHeaders
            (renderHeaders okStatus [letterField 'A' rfl, letterField 'a' rfl])) ∧
      HoldsFields
        (parseRawHeaders (renderHeaders okStatus [letterField 'A' rfl, letterField 'a' rfl]))
        [letterField 'A' rfl, letterField 'a' rfl] := by
  obtain ⟨parses, -, roomy⟩ := parseRawHeaders_renderHeaders okStatus
    [letterField 'A' rfl, letterField 'a' rfl] fun names => names.dedup.length < 2
  exact parses (roomy 2 (fun names few => decide_eq_true few) (by decide))

/-- A field with a name of 65536 characters and an empty value. -/
def longField : HeaderField where
  name := List.replicate (maxHeaderNameLength + 1) 'a'
  value := []
  nonempty := List.replicate_succ_ne_nil
  token character member := by
    rw [List.eq_of_mem_replicate member]
    rfl
  ascii := fun _ member => absurd member List.not_mem_nil
  begins := nofun
  ends := nofun

/-- No header name is so long. -/
theorem parseRawHeaders_drops_longField :
    ¬HoldsFields (parseRawHeaders (renderHeaders okStatus [longField])) [longField] := by
  rintro ⟨occurrences, denotes, -⟩
  cases denotes with
  | cons denoted rest =>
    rename_i occurrence others
    have short := occurrence.1.short
    rw [denoted.1, HeaderField.lowerName, String.length_ofList, List.length_map] at short
    have long : longField.name.length = maxHeaderNameLength + 1 := List.length_replicate
    omega

end Examples

end Wrest
