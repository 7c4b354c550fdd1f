import Wrest.UrlParsing

/-!
# The host of a URL

The host that a parsed URL keeps is a host itself, and is kept unchanged when it is
parsed again.
-/

namespace Wrest

open Uri IpAddress PercentEncoding

section Results

variable {α β : Type} {error : ParseError}

theorem bind_eq_ok {step : Except ParseError α} {rest : α → Except ParseError β}
    {result : β} :
    (step >>= rest) = .ok result ↔ ∃ value, step = .ok value ∧ rest value = .ok result := by
  cases step with
  | error error => simp [bind, Except.bind]
  | ok value => simp [bind, Except.bind]

theorem okOr_eq_ok {option : Option α} {value : α} :
    okOr option error = .ok value ↔ option = some value := by
  cases option <;> simp [okOr]

theorem mapError_eq_ok {kind : Type} {step : Except kind α} {translate : kind → ParseError}
    {value : α} : step.mapError translate = .ok value ↔ step = .ok value := by
  cases step <;> simp [Except.mapError]

theorem toOption_eq_some {kind : Type} {step : Except kind α} {value : α} :
    step.toOption = some value ↔ step = .ok value := by
  cases step <;> simp [Except.toOption]

theorem ensure_eq_ok {condition : Bool} {value : Unit} :
    ensure condition error = .ok value ↔ condition = true := by
  cases condition <;> simp [ensure]

end Results

theorem asciiLower_of_not_isAscii {character : Char} (wide : ¬isAscii character = true) :
    asciiLower character = character := by
  unfold asciiLower
  rw [if_neg]
  rintro ⟨-, toZ⟩
  exact wide (decide_eq_true (Nat.lt_of_le_of_lt toZ (by decide)))

theorem asciiLower_asciiLower (character : Char) :
    asciiLower (asciiLower character) = asciiLower character := by
  by_cases ascii : isAscii character = true
  · have checked : ∀ code : Fin 128,
        asciiLower (asciiLower (Char.ofNat code.val)) = asciiLower (Char.ofNat code.val) := by
      decide
    obtain ⟨code, rfl⟩ := exists_code ascii
    exact checked code
  · have unchanged := asciiLower_of_not_isAscii ascii
    rw [unchanged, unchanged]

theorem toAsciiLowercase_toAsciiLowercase (text : String) :
    toAsciiLowercase (toAsciiLowercase text) = toAsciiLowercase text := by
  simp [toAsciiLowercase, Function.comp_def, asciiLower_asciiLower]

theorem isAscii_of_allowsRegName {character : Char}
    (allowed : allowsRegName character = true) : isAscii character = true := by
  have marks : (['-', '.', '_', '~', '!', '$', '&', '\'', '(', ')', '*', '+', ',', ';',
      '='].all isAscii) = true := by decide
  simp only [allowsRegName, isUnreserved, isSubDelim, Bool.or_eq_true,
    List.contains_iff_mem] at allowed
  rcases allowed with (alphanum | mark) | mark
  · exact isAscii_of_isAlphanum alphanum
  · exact List.all_eq_true.mp marks character (List.mem_append_left _ mark)
  · exact List.all_eq_true.mp marks character (List.mem_append_right ['-', '.', '_', '~'] mark)

/-- The characters of a registered name that is kept. -/
def isNameChar (character : Char) : Bool :=
  allowsRegName character && asciiLower character == character

theorem isNameChar_asciiLower {character : Char}
    (allowed : allowsRegName character = true) :
    isNameChar (asciiLower character) = true := by
  have checked : ∀ code : Fin 128, allowsRegName (Char.ofNat code.val) = true →
      isNameChar (asciiLower (Char.ofNat code.val)) = true := by decide
  obtain ⟨code, rfl⟩ := exists_code (isAscii_of_allowsRegName allowed)
  exact checked code allowed

section Octets

theorem utf8EncodeChar_of_isAscii {character : Char} (ascii : isAscii character = true) :
    String.utf8EncodeChar character = [UInt8.ofNat character.toNat] := by
  have small : character.toNat ≤ 127 := Nat.le_of_lt_succ (of_decide_eq_true ascii)
  have notLarge : ¬127 < character.toNat := Nat.not_lt.mpr small
  simp [String.utf8EncodeChar, notLarge]

theorem percent_notMem_utf8Bytes {text : String}
    (ascii : ∀ character ∈ text.toList, isAscii character = true)
    (absent : '%' ∉ text.toList) : percent ∉ utf8Bytes text := by
  intro member
  obtain ⟨character, among, member⟩ := List.mem_flatMap.mp member
  have checked : ∀ code : Fin 128, percent = UInt8.ofNat (Char.ofNat code.val).toNat →
      Char.ofNat code.val = '%' := by decide
  rw [utf8EncodeChar_of_isAscii (ascii character among), List.mem_singleton] at member
  obtain ⟨code, rfl⟩ := exists_code (ascii character among)
  rw [checked code member] at among
  exact absent among

theorem utf8Bytes_ne_nil {text : String} (nonempty : text ≠ "") : utf8Bytes text ≠ [] := by
  cases listEq : text.toList with
  | nil => exact absurd (String.toList_eq_nil_iff.mp listEq) nonempty
  | cons character rest =>
    rw [utf8Bytes, listEq, List.flatMap_cons]
    intro empty
    have length := congrArg List.length (List.append_eq_nil_iff.mp empty).1
    rw [String.length_utf8EncodeChar] at length
    exact absurd length (Nat.ne_of_gt character.utf8Size_pos)

theorem percentDecode_ne_nil {octets : List UInt8} (nonempty : octets ≠ []) :
    percentDecode octets ≠ [] := by
  cases octets with
  | nil => exact absurd rfl nonempty
  | cons octet rest =>
    unfold percentDecode
    split
    · split
      · split <;> exact List.cons_ne_nil _ _
      · exact List.cons_ne_nil _ _
    · exact List.cons_ne_nil _ _

theorem decodeUtf8_utf8Bytes (text : String) : decodeUtf8 (utf8Bytes text) = some text := by
  have encoded : (utf8Bytes text).toByteArray = text.toList.utf8Encode := rfl
  rw [decodeUtf8, encoded, List.utf8Decode?_utf8Encode]
  simp

theorem utf8Bytes_of_decodeUtf8 {octets : List UInt8} {text : String}
    (decoded : decodeUtf8 octets = some text) : utf8Bytes text = octets := by
  simp only [decodeUtf8, Option.map_eq_some_iff] at decoded
  obtain ⟨characters, decoded, rfl⟩ := decoded
  have isSome : octets.toByteArray.utf8Decode?.isSome := by
    rw [decoded]
    rfl
  have encoded := ByteArray.utf8Encode_get_utf8Decode? (h := isSome)
  simp only [decoded, Option.get_some] at encoded
  have sameData := congrArg (fun octets => octets.data.toList) encoded
  simpa [List.utf8Encode, utf8Bytes] using sameData

theorem decodeUtf8_ne_empty {octets : List UInt8} {text : String} (nonempty : octets ≠ [])
    (decoded : decodeUtf8 octets = some text) : text ≠ "" := by
  rintro rfl
  exact nonempty (utf8Bytes_of_decodeUtf8 decoded).symm

end Octets

/-- A host that is kept unchanged when it is parsed again. -/
structure HostFixed (libraries : UrlLibraries) (host : String) : Prop where
  valid : isHost host.toList = true
  nonempty : host ≠ ""
  text : hostText libraries host.toList (hostKind host.toList) = .ok host

section Names

variable {libraries : UrlLibraries}

theorem normalizeRegisteredName_spec (conforms : libraries.Conforms) {host name : String}
    (nonempty : host ≠ "") (normalized : normalizeRegisteredName libraries host = .ok name) :
    name ≠ "" ∧ ∀ character ∈ name.toList, isNameChar character = true := by
  simp only [normalizeRegisteredName, bind_eq_ok, okOr_eq_ok, ensure_eq_ok] at normalized
  obtain ⟨decoded, decodes, -, allowed, rest⟩ := normalized
  split at rest
  · next ascii =>
    obtain rfl := Except.ok.inj rest
    have decodedNonempty : decoded ≠ "" :=
      decodeUtf8_ne_empty (percentDecode_ne_nil (utf8Bytes_ne_nil nonempty)) decodes
    constructor
    · simpa [toAsciiLowercase] using decodedNonempty
    · intro character member
      simp only [toAsciiLowercase, String.toList_ofList, List.mem_map] at member
      obtain ⟨source, among, rfl⟩ := member
      apply isNameChar_asciiLower
      have isAsciiSource := List.all_eq_true.mp ascii source among
      simp only [Bool.not_eq_true', List.any_eq_false, Bool.and_eq_true, not_and,
        Bool.not_eq_false] at allowed
      exact allowed source among isAsciiSource
  · simp only [bind_eq_ok, okOr_eq_ok, ensure_eq_ok, Except.ok.injEq] at rest
    obtain ⟨ascii, converts, -, allowed, rfl⟩ := rest
    obtain ⟨asciiNonempty, lower⟩ := conforms.idnaToAscii decoded ascii converts
    refine ⟨asciiNonempty, ?_⟩
    intro character member
    simp [isNameChar, List.all_eq_true.mp allowed character member,
      (lower character member).2]

theorem normalizeRegisteredName_of_isNameChar {name : String}
    (all : ∀ character ∈ name.toList, isNameChar character = true) :
    normalizeRegisteredName libraries name = .ok name := by
  simp only [isNameChar, Bool.and_eq_true, beq_iff_eq] at all
  have ascii : ∀ character ∈ name.toList, isAscii character = true :=
    fun character member => isAscii_of_allowsRegName (all character member).1
  have noPercent : '%' ∉ name.toList := fun member => by cases (all '%' member).1
  have decodes : decodeUtf8 (percentDecode (utf8Bytes name)) = some name := by
    rw [percentDecode_of_notMem (percent_notMem_utf8Bytes ascii noPercent),
      decodeUtf8_utf8Bytes]
  have allowed : (!name.toList.any fun character =>
      isAscii character && !allowsRegName character) = true := by
    simp only [Bool.not_eq_true', List.any_eq_false, Bool.and_eq_true, not_and]
    intro character member _
    simp [(all character member).1]
  have lower : toAsciiLowercase name = name := by
    have unchanged : name.toList.map asciiLower = name.toList := by
      rw [List.map_congr_left fun character member => (all character member).2]
      exact List.map_id' _
    rw [toAsciiLowercase, unchanged, String.ofList_toList]
  simp only [normalizeRegisteredName, bind_eq_ok, okOr_eq_ok, ensure_eq_ok]
  refine ⟨name, decodes, (), allowed, ?_⟩
  rw [if_pos (List.all_eq_true.mpr ascii), lower]

theorem isHost_of_isNameChar {name : List Char}
    (all : ∀ character ∈ name, isNameChar character = true) :
    name.head? ≠ some '[' ∧ isHost name = true := by
  have noBracket : name.head? ≠ some '[' := by
    intro bracket
    cases all '[' (List.mem_of_head? bracket)
  refine ⟨noBracket, ?_⟩
  rw [isHost_regName noBracket]
  apply isEncoded_of_forall
  · intro character member
    have isName := all character member
    simp only [isNameChar, allowsRegName, Bool.and_eq_true, Bool.or_eq_true] at isName
    simp only [isRegNameChar, Bool.or_eq_true]
    exact isName.1.imp_left .inl
  · rfl

theorem HostFixed.of_isNameChar {name : String} (nonempty : name ≠ "")
    (all : ∀ character ∈ name.toList, isNameChar character = true) :
    HostFixed libraries name := by
  obtain ⟨noBracket, valid⟩ := isHost_of_isNameChar all
  refine ⟨valid, nonempty, ?_⟩
  cases parsed : Ipv4Addr.parse name.toList with
  | none =>
    rw [hostKind_regName noBracket parsed, hostText, String.ofList_toList]
    exact normalizeRegisteredName_of_isNameChar all
  | some address =>
    rw [hostKind_ipv4 noBracket parsed, hostText, ← Ipv4Addr.parse_eq_some.mp parsed,
      String.ofList_toList]

theorem HostFixed.of_ipv6 (address : Ipv6Addr) :
    HostFixed libraries ("[" ++ String.ofList address.text ++ "]") := by
  have listEq : ("[" ++ String.ofList address.text ++ "]").toList =
      '[' :: (address.text ++ [']']) := by
    simp
  have kind : hostKind ('[' :: (address.text ++ [']'])) = .ipv6 address := by
    simp [hostKind, Ipv6Addr.parse_text]
  constructor
  · have literal : isIpLiteral address.text = true := by
      have characters : ∀ character ∈ address.text, isLiteralChar character = true :=
        fun character member =>
          isLiteralChar_of_isAddressChar (Ipv6Addr.isAddressChar_of_mem_text member)
      simp [isIpLiteral, List.all_eq_true.mpr characters, Ipv6Addr.parse_text]
    rw [listEq]
    simp [isHost, literal]
  · intro empty
    have impossible := congrArg String.toList empty
    rw [listEq] at impossible
    cases impossible
  · rw [listEq, kind]
    rfl

/-- The host that is kept is kept again. -/
theorem HostFixed.of_hostText (conforms : libraries.Conforms) {host : List Char}
    {text : String} (valid : isHost host = true) (nonempty : host ≠ [])
    (kept : hostText libraries host (hostKind host) = .ok text) :
    HostFixed libraries text := by
  have named : String.ofList host ≠ "" := String.ofList_eq_empty_iff.not.mpr nonempty
  have same : text = String.ofList host → HostFixed libraries text := by
    rintro rfl
    refine ⟨?_, named, ?_⟩
    · rwa [String.toList_ofList]
    · rwa [String.toList_ofList]
  by_cases bracket : host.head? = some '['
  · obtain ⟨rest, rfl⟩ := List.head?_eq_some_iff.mp bracket
    cases parsed : Ipv6Addr.parse rest.dropLast with
    | some address =>
      simp only [hostKind, parsed, hostText, Except.ok.injEq] at kept
      rw [← kept]
      exact .of_ipv6 address
    | none =>
      simp only [hostKind, parsed, hostText, Except.ok.injEq] at kept
      exact same kept.symm
  · cases parsed : Ipv4Addr.parse host with
    | some address =>
      rw [hostKind_ipv4 bracket parsed, hostText, ← Ipv4Addr.parse_eq_some.mp parsed] at kept
      exact same (Except.ok.inj kept).symm
    | none =>
      rw [hostKind_regName bracket parsed, hostText] at kept
      obtain ⟨textNonempty, all⟩ := normalizeRegisteredName_spec conforms named kept
      exact .of_isNameChar textNonempty all

end Names

end Wrest
