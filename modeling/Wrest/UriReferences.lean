import Mathlib.Data.List.DropRight
import Wrest.DelimitedLists
import Wrest.UriEncodings
import Wrest.IpAddresses

/-!
# URI references

The components of an IRI or of a relative reference, and the text that they make up.
The text is split at its first delimiters, and is a reference when every component fits
the grammar.  Composing valid components and splitting the text gives them back.
-/

namespace Wrest.Uri

open IpAddress

inductive Host
  | ipv4 (address : Ipv4Addr)
  | ipv6 (address : Ipv6Addr)
  | ipvFuture
  | regName (name : List Char)

structure Authority where
  userinfo : Option (List Char)
  host : List Char
  port : Option (List Char)
deriving DecidableEq, Repr

/-- What follows the scheme. -/
structure Hierarchy where
  authority : Option Authority
  path : List Char
  query : Option (List Char)
  fragment : Option (List Char)
deriving DecidableEq, Repr

structure Reference extends Hierarchy where
  scheme : Option (List Char)
deriving DecidableEq, Repr

structure Iri extends Hierarchy where
  scheme : List Char
deriving DecidableEq, Repr

/-- The text in front of the first separator, and behind it if there is one. -/
def splitOptional (separator : Char) (text : List Char) :
    List Char × Option (List Char) :=
  (text.takeWhile (· != separator),
    if separator ∈ text then some ((text.dropWhile (· != separator)).drop 1) else none)

def appendOptional (separator : Char) (text : List Char) : Option (List Char) → List Char
  | none => text
  | some behind => text ++ separator :: behind

namespace Authority

/-- A port is the digits behind the last colon. -/
def splitPort (text : List Char) : List Char × Option (List Char) :=
  let before := text.rdropWhile Char.isDigit
  if before.getLast? = some ':' then
    (before.dropLast, some (text.rtakeWhile Char.isDigit))
  else
    (text, none)

def split (text : List Char) : Authority :=
  match splitOptional '@' text with
  | (userinfo, some rest) =>
    { userinfo := some userinfo, host := (splitPort rest).1, port := (splitPort rest).2 }
  | (_, none) =>
    { userinfo := none, host := (splitPort text).1, port := (splitPort text).2 }

def text (authority : Authority) : List Char :=
  match authority.userinfo with
  | some userinfo => userinfo ++ '@' :: appendOptional ':' authority.host authority.port
  | none => appendOptional ':' authority.host authority.port

end Authority

/-- A scheme ends at a colon in front of every slash. -/
def splitScheme (text : List Char) : Option (List Char) × List Char :=
  if ':' ∈ text.takeWhile (· != '/') then
    (some (text.takeWhile (· != ':')), (text.dropWhile (· != ':')).drop 1)
  else
    (none, text)

/-- An authority stands between two slashes and the next one. -/
def splitAuthority : List Char → Option Authority × List Char
  | '/' :: '/' :: rest =>
    (some (.split (rest.takeWhile (· != '/'))), rest.dropWhile (· != '/'))
  | text => (none, text)

def Hierarchy.authorityText (hierarchy : Hierarchy) : List Char :=
  match hierarchy.authority with
  | some authority => '/' :: '/' :: authority.text
  | none => []

namespace Reference

def split (text : List Char) : Reference :=
  let (text, fragment) := splitOptional '#' text
  let (text, query) := splitOptional '?' text
  let (scheme, text) := splitScheme text
  let (authority, path) := splitAuthority text
  { scheme, authority, path, query, fragment }

def schemeText (reference : Reference) : List Char :=
  match reference.scheme with
  | some scheme => scheme ++ [':']
  | none => []

def recompose (reference : Reference) : List Char :=
  appendOptional '#'
    (appendOptional '?'
      (reference.schemeText ++ (reference.authorityText ++ reference.path))
      reference.query)
    reference.fragment

end Reference

def isSchemeChar (character : Char) : Bool :=
  character.isAlphanum || ['+', '-', '.'].contains character

def isScheme : List Char → Bool
  | [] => false
  | first :: rest => first.isAlpha && rest.all isSchemeChar

/-- The characters between the brackets of a host. -/
def isLiteralChar (character : Char) : Bool :=
  isUnreserved character || isSubDelim character || character == ':'

/-- The form of an address of a later version. -/
def isIpvFuture : List Char → Bool
  | [] => false
  | first :: rest =>
    ['v', 'V'].contains first &&
      match splitOptional '.' rest with
      | (version, some address) =>
        !version.isEmpty && version.all Char.isHexDigit && !address.isEmpty
      | (_, none) => false

def isIpLiteral (text : List Char) : Bool :=
  text.all isLiteralChar && ((Ipv6Addr.parse text).isSome || isIpvFuture text)

def isHost : List Char → Bool
  | '[' :: rest => rest.getLast? == some ']' && isIpLiteral rest.dropLast
  | host => isEncoded isRegNameChar host

/-- The kind of a host: an address first, and a registered name otherwise. -/
def hostKind : List Char → Host
  | '[' :: rest =>
    match Ipv6Addr.parse rest.dropLast with
    | some address => .ipv6 address
    | none => .ipvFuture
  | host =>
    match Ipv4Addr.parse host with
    | some address => .ipv4 address
    | none => .regName host

structure Authority.IsValid (authority : Authority) : Prop where
  userinfo : ∀ userinfo ∈ authority.userinfo, isEncoded isUserinfoChar userinfo = true
  host : isHost authority.host = true
  port : ∀ port ∈ authority.port, port.all Char.isDigit = true

structure Reference.IsValid (reference : Reference) : Prop where
  scheme : ∀ scheme ∈ reference.scheme, isScheme scheme = true
  authority : ∀ authority ∈ reference.authority, authority.IsValid
  path : isEncoded isPathChar reference.path = true
  rooted : reference.authority ≠ none →
    reference.path = [] ∨ reference.path.head? = some '/'
  bare : reference.authority = none → reference.path.take 2 ≠ ['/', '/'] ∧
    (reference.scheme = none → ':' ∉ reference.path.takeWhile (· != '/'))
  query : ∀ query ∈ reference.query, isEncoded isQueryChar query = true
  fragment : ∀ fragment ∈ reference.fragment, isEncoded isFragmentChar fragment = true

instance (authority : Authority) : Decidable authority.IsValid :=
  decidable_of_iff
    ((∀ userinfo ∈ authority.userinfo, isEncoded isUserinfoChar userinfo = true) ∧
      isHost authority.host = true ∧
      ∀ port ∈ authority.port, port.all Char.isDigit = true)
    ⟨fun ⟨userinfo, host, port⟩ => ⟨userinfo, host, port⟩,
      fun valid => ⟨valid.userinfo, valid.host, valid.port⟩⟩

instance (reference : Reference) : Decidable reference.IsValid :=
  decidable_of_iff
    ((∀ scheme ∈ reference.scheme, isScheme scheme = true) ∧
      (∀ authority ∈ reference.authority, authority.IsValid) ∧
      isEncoded isPathChar reference.path = true ∧
      (reference.authority ≠ none → reference.path = [] ∨ reference.path.head? = some '/') ∧
      (reference.authority = none → reference.path.take 2 ≠ ['/', '/'] ∧
        (reference.scheme = none → ':' ∉ reference.path.takeWhile (· != '/'))) ∧
      (∀ query ∈ reference.query, isEncoded isQueryChar query = true) ∧
      ∀ fragment ∈ reference.fragment, isEncoded isFragmentChar fragment = true)
    ⟨fun ⟨scheme, authority, path, rooted, bare, query, fragment⟩ =>
        ⟨scheme, authority, path, rooted, bare, query, fragment⟩,
      fun valid => ⟨valid.scheme, valid.authority, valid.path, valid.rooted, valid.bare,
        valid.query, valid.fragment⟩⟩

def Reference.parse (text : List Char) : Option Reference :=
  let reference := Reference.split text
  if reference.IsValid then some reference else none

def Iri.toReference (iri : Iri) : Reference where
  toHierarchy := iri.toHierarchy
  scheme := some iri.scheme

/-- A reference with a scheme. -/
def Iri.parse (text : List Char) : Option Iri :=
  (Reference.parse text).bind fun reference =>
    reference.scheme.map fun scheme => { toHierarchy := reference.toHierarchy, scheme }

def Iri.recompose (iri : Iri) : List Char :=
  iri.toReference.recompose

example : Iri.parse "http://u@[::1]:8/a?b#c".toList =
    some
      { scheme := "http".toList
        authority := some ⟨some ['u'], "[::1]".toList, some ['8']⟩
        path := ['/', 'a']
        query := some ['b']
        fragment := some ['c'] } := by decide

section Separators

variable {separator : Char} {text : List Char} (absent : separator ∉ text)

include absent

/-- Text is split where it was put together. -/
theorem splitOptional_appendOptional (behind : Option (List Char)) :
    splitOptional separator (appendOptional separator text behind) = (text, behind) := by
  cases behind with
  | none => simp [splitOptional, appendOptional, absent, takeWhile_ne absent]
  | some behind =>
    simp [splitOptional, appendOptional, takeWhile_ne_append absent,
      dropWhile_ne_append absent]

end Separators

/-- An authority whose delimiters are found again. -/
structure Authority.Delimited (authority : Authority) : Prop where
  userinfo : ∀ userinfo ∈ authority.userinfo, '@' ∉ userinfo
  host : '@' ∉ authority.host
  port : ∀ port ∈ authority.port, port.all Char.isDigit = true
  colon : (authority.host.rdropWhile Char.isDigit).getLast? ≠ some ':'

namespace Authority

theorem splitPort_appendOptional {host : List Char} {port : Option (List Char)}
    (digits : ∀ digits ∈ port, digits.all Char.isDigit = true)
    (colon : (host.rdropWhile Char.isDigit).getLast? ≠ some ':') :
    splitPort (appendOptional ':' host port) = (host, port) := by
  cases port with
  | none => exact if_neg colon
  | some port =>
    have all : ∀ digit ∈ port.reverse, digit.isDigit = true := by
      intro digit member
      exact List.all_eq_true.mp (digits port rfl) digit (List.mem_reverse.mp member)
    have reversed : (host ++ ':' :: port).reverse = port.reverse ++ ':' :: host.reverse := by
      simp
    have before : (host ++ ':' :: port).rdropWhile Char.isDigit = host ++ [':'] := by
      rw [List.rdropWhile, reversed, List.dropWhile_append_of_pos all,
        List.dropWhile_cons_of_neg (by decide)]
      simp
    have behind : (host ++ ':' :: port).rtakeWhile Char.isDigit = port := by
      rw [List.rtakeWhile, reversed, List.takeWhile_append_of_pos all,
        List.takeWhile_cons_of_neg (by decide)]
      simp
    simp [splitPort, appendOptional, before, behind]

theorem notMem_hostPort {authority : Authority} (delimited : authority.Delimited) :
    '@' ∉ appendOptional ':' authority.host authority.port := by
  cases portEq : authority.port with
  | none => exact delimited.host
  | some port =>
    have noDigit : '@' ∉ port := by
      intro member
      cases List.all_eq_true.mp (delimited.port port portEq) '@' member
    simp [appendOptional, delimited.host, noDigit]

theorem split_text {authority : Authority} (delimited : authority.Delimited) :
    split authority.text = authority := by
  have noAt := notMem_hostPort delimited
  have ports := splitPort_appendOptional delimited.port delimited.colon
  obtain ⟨userinfo, host, port⟩ := authority
  cases userinfo with
  | none =>
    have whole : splitOptional '@' (appendOptional ':' host port) =
        (appendOptional ':' host port, none) := splitOptional_appendOptional noAt none
    simp only [split, text, whole, ports]
  | some userinfo =>
    have noUserinfo : '@' ∉ userinfo := delimited.userinfo userinfo rfl
    have halves : splitOptional '@' (userinfo ++ '@' :: appendOptional ':' host port) =
        (userinfo, some (appendOptional ':' host port)) :=
      splitOptional_appendOptional noUserinfo (some _)
    simp only [split, text, halves, ports]

end Authority

/-- A reference whose delimiters are found again. -/
structure Reference.Delimited (reference : Reference) : Prop where
  scheme : ∀ scheme ∈ reference.scheme, ∀ delimiter ∈ [':', '/', '?', '#'],
    delimiter ∉ scheme
  authority : ∀ authority ∈ reference.authority, authority.Delimited ∧
    ∀ delimiter ∈ ['/', '?', '#'], delimiter ∉ authority.text
  path : ∀ delimiter ∈ ['?', '#'], delimiter ∉ reference.path
  rooted : reference.authority ≠ none →
    reference.path = [] ∨ reference.path.head? = some '/'
  bare : reference.authority = none → reference.path.take 2 ≠ ['/', '/'] ∧
    (reference.scheme = none → ':' ∉ reference.path.takeWhile (· != '/'))
  query : ∀ query ∈ reference.query, '#' ∉ query

namespace Reference

variable {reference : Reference} (delimited : reference.Delimited)

include delimited

theorem notMem_schemeText {delimiter : Char} (among : delimiter ∈ ['/', '?', '#']) :
    delimiter ∉ reference.schemeText := by
  unfold schemeText
  split
  · next scheme schemeEq =>
    have absent := delimited.scheme scheme schemeEq delimiter (List.mem_cons_of_mem ':' among)
    have notColon : delimiter ≠ ':' := by
      rintro rfl
      revert among
      decide
    simp [absent, notColon]
  · exact List.not_mem_nil

theorem notMem_hierarchical {delimiter : Char} (among : delimiter ∈ ['?', '#']) :
    delimiter ∉ reference.schemeText ++ (reference.authorityText ++ reference.path) := by
  have wider : delimiter ∈ ['/', '?', '#'] := List.mem_cons_of_mem '/' among
  have notSlash : delimiter ≠ '/' := by
    rintro rfl
    revert among
    decide
  have authority : delimiter ∉ reference.authorityText := by
    unfold Hierarchy.authorityText
    split
    · next authority authorityEq =>
      have absent := (delimited.authority authority authorityEq).2 delimiter wider
      simp [absent, notSlash]
    · exact List.not_mem_nil
  simp [notMem_schemeText delimited wider, authority, delimited.path delimiter among]

theorem splitAuthority_text :
    splitAuthority (reference.authorityText ++ reference.path) =
      (reference.authority, reference.path) := by
  unfold Hierarchy.authorityText
  cases authorityEq : reference.authority with
  | none =>
    have notRooted := (delimited.bare authorityEq).1
    show splitAuthority reference.path = (none, reference.path)
    unfold splitAuthority
    split
    · next rest pathEq => exact absurd (congrArg (List.take 2) pathEq) notRooted
    · rfl
  | some authority =>
    obtain ⟨inner, absent⟩ := delimited.authority authority authorityEq
    have rooted := delimited.rooted (by rw [authorityEq]; exact Option.some_ne_none _)
    have noSlash : '/' ∉ authority.text := absent '/' List.mem_cons_self
    obtain ⟨front, behind⟩ := span_ne noSlash rooted
    show splitAuthority ('/' :: '/' :: (authority.text ++ reference.path)) = _
    rw [splitAuthority, front, behind, Authority.split_text inner]

theorem notMem_firstSegment (schemeless : reference.scheme = none) :
    ':' ∉ (reference.authorityText ++ reference.path).takeWhile (· != '/') := by
  unfold Hierarchy.authorityText
  cases authorityEq : reference.authority with
  | none => exact (delimited.bare authorityEq).2 schemeless
  | some authority => simp

theorem splitScheme_text :
    splitScheme (reference.schemeText ++ (reference.authorityText ++ reference.path)) =
      (reference.scheme, reference.authorityText ++ reference.path) := by
  cases schemeEq : reference.scheme with
  | none =>
    simp only [schemeText, schemeEq, List.nil_append]
    exact if_neg (notMem_firstSegment delimited schemeEq)
  | some scheme =>
    have absent := delimited.scheme scheme schemeEq
    have noColon : ':' ∉ scheme := absent ':' (by decide)
    have noSlash : ∀ character ∈ scheme, (character != '/') = true := by
      intro character member
      simp only [bne_iff_ne]
      rintro rfl
      exact absent '/' (by decide) member
    simp only [schemeText, schemeEq, List.append_assoc, List.singleton_append]
    have first : ':' ∈ (scheme ++ ':' :: (reference.authorityText ++
        reference.path)).takeWhile (· != '/') := by
      rw [List.takeWhile_append_of_pos noSlash]
      simp
    rw [splitScheme, if_pos first, takeWhile_ne_append noColon, dropWhile_ne_append noColon]
    rfl

theorem hash_notMem : '#' ∉ appendOptional '?'
    (reference.schemeText ++ (reference.authorityText ++ reference.path))
    reference.query := by
  have hash : '#' ∈ ['?', '#'] := by decide
  have hierarchical := notMem_hierarchical delimited hash
  cases queryEq : reference.query with
  | none => exact hierarchical
  | some query =>
    rw [appendOptional, List.mem_append, List.mem_cons]
    rintro (member | impossible | member)
    · exact hierarchical member
    · cases impossible
    · exact delimited.query query queryEq member

/-- Composed text is split into its components. -/
theorem split_recompose : split reference.recompose = reference := by
  have question : '?' ∈ ['?', '#'] := by decide
  have noQuery := notMem_hierarchical delimited question
  rw [split, recompose, splitOptional_appendOptional (hash_notMem delimited)]
  simp only [splitOptional_appendOptional noQuery, splitScheme_text delimited,
    splitAuthority_text delimited]

end Reference

section Valid

/-- Characters outside a class do not occur in text of the class. -/
theorem notMem_of_class {inside : Char → Bool} {text delimiters : List Char}
    (all : ∀ character ∈ text, inside character = true)
    (outside : (delimiters.all fun delimiter => !inside delimiter) = true) :
    ∀ delimiter ∈ delimiters, delimiter ∉ text := by
  intro delimiter among member
  have excluded := List.all_eq_true.mp outside delimiter among
  rw [all delimiter member] at excluded
  cases excluded

/-- The characters of encoded text. -/
def isEncodedChar (allowed : Char → Bool) (character : Char) : Bool :=
  allowed character || character == '%' || character.isHexDigit

theorem isEncodedChar_of_mem {allowed : Char → Bool} {text : List Char}
    (encoded : isEncoded allowed text = true) :
    ∀ character ∈ text, isEncodedChar allowed character = true := by
  intro character member
  simp only [isEncodedChar, Bool.or_eq_true, beq_iff_eq, or_assoc]
  exact mem_of_isEncoded encoded member

theorem isSchemeChar_of_mem {scheme : List Char} (valid : isScheme scheme = true) :
    ∀ character ∈ scheme, isSchemeChar character = true := by
  cases scheme with
  | nil => cases valid
  | cons first rest =>
    simp only [isScheme, Bool.and_eq_true, List.all_eq_true] at valid
    intro character member
    rcases List.mem_cons.mp member with rfl | member
    · simp [isSchemeChar, Char.isAlphanum, valid.1]
    · exact valid.2 character member

/-- The characters of a host. -/
def isHostChar (character : Char) : Bool :=
  isEncodedChar isRegNameChar character || isLiteralChar character ||
    ['[', ']'].contains character

theorem isHost_literal {rest : List Char} (valid : isHost ('[' :: rest) = true) :
    ∃ inner, rest = inner ++ [']'] ∧ isIpLiteral inner = true := by
  simp only [isHost, Bool.and_eq_true, beq_iff_eq] at valid
  exact ⟨rest.dropLast, (List.dropLast_append_getLast? _ valid.1).symm, valid.2⟩

theorem isHost_regName {host : List Char} (noBracket : host.head? ≠ some '[') :
    isHost host = isEncoded isRegNameChar host := by
  unfold isHost
  split
  · exact absurd rfl noBracket
  · rfl

theorem hostKind_ipv4 {host : List Char} {address : Ipv4Addr}
    (noBracket : host.head? ≠ some '[') (parsed : Ipv4Addr.parse host = some address) :
    hostKind host = .ipv4 address := by
  unfold hostKind
  split
  · exact absurd rfl noBracket
  · rw [parsed]

theorem hostKind_regName {host : List Char} (noBracket : host.head? ≠ some '[')
    (parsed : Ipv4Addr.parse host = none) : hostKind host = .regName host := by
  unfold hostKind
  split
  · exact absurd rfl noBracket
  · rw [parsed]

theorem isLiteralChar_of_isAddressChar {character : Char}
    (address : isAddressChar character = true) : isLiteralChar character = true := by
  have checked : ∀ code : Fin 128, (Char.ofNat code.val).isHexDigit = true →
      isLiteralChar (Char.ofNat code.val) = true := by decide
  simp only [isAddressChar, Bool.or_eq_true, List.contains_iff_mem, List.mem_cons,
    List.not_mem_nil, or_false] at address
  rcases address with hex | rfl | rfl
  · obtain ⟨code, rfl⟩ := exists_code (isAscii_of_isHexDigit hex)
    exact checked code hex
  · rfl
  · rfl

theorem isHostChar_of_mem {host : List Char} (valid : isHost host = true) :
    ∀ character ∈ host, isHostChar character = true := by
  intro character member
  simp only [isHostChar, Bool.or_eq_true]
  by_cases bracket : host.head? = some '['
  · obtain ⟨rest, rfl⟩ := List.head?_eq_some_iff.mp bracket
    obtain ⟨inner, rfl, literal⟩ := isHost_literal valid
    simp only [isIpLiteral, Bool.and_eq_true, List.all_eq_true] at literal
    simp only [List.mem_cons, List.mem_append, List.not_mem_nil, or_false] at member
    rcases member with rfl | member | rfl
    · exact .inr rfl
    · exact .inl (.inr (literal.1 character member))
    · exact .inr rfl
  · rw [isHost_regName bracket] at valid
    exact .inl (.inl (isEncodedChar_of_mem valid character member))

/-- No colon stands in front of the digits that end a host. -/
theorem rdropWhile_isHost {host : List Char} (valid : isHost host = true) :
    (host.rdropWhile Char.isDigit).getLast? ≠ some ':' := by
  by_cases bracket : host.head? = some '['
  · obtain ⟨rest, rfl⟩ := List.head?_eq_some_iff.mp bracket
    obtain ⟨inner, rfl, -⟩ := isHost_literal valid
    rw [← List.cons_append, List.rdropWhile_concat_neg, List.getLast?_concat]
    · decide
    · decide
  · rw [isHost_regName bracket] at valid
    intro colon
    have member := List.mem_of_getLast? colon
    have outside : ([':'].all fun delimiter => !isEncodedChar isRegNameChar delimiter) =
      true := by decide
    exact notMem_of_class (isEncodedChar_of_mem valid) outside ':' List.mem_cons_self
      ((List.rdropWhile_prefix _ _).subset member)

theorem Authority.delimited_of_isValid {authority : Authority} (valid : authority.IsValid) :
    authority.Delimited := by
  have userinfoOutside : (['@'].all fun delimiter =>
      !isEncodedChar isUserinfoChar delimiter) = true := by decide
  have hostOutside : (['@'].all fun delimiter => !isHostChar delimiter) = true := by decide
  constructor
  · intro userinfo userinfoEq
    exact notMem_of_class (isEncodedChar_of_mem (valid.userinfo userinfo userinfoEq))
      userinfoOutside '@' List.mem_cons_self
  · exact notMem_of_class (isHostChar_of_mem valid.host) hostOutside '@' List.mem_cons_self
  · exact valid.port
  · exact rdropWhile_isHost valid.host

/-- The characters of an authority. -/
def isAuthorityChar (character : Char) : Bool :=
  isEncodedChar isUserinfoChar character || isHostChar character ||
    [':', '@'].contains character || character.isDigit

theorem Authority.isAuthorityChar_of_mem {authority : Authority}
    (valid : authority.IsValid) :
    ∀ character ∈ authority.text, isAuthorityChar character = true := by
  have hostPort : ∀ character ∈ appendOptional ':' authority.host authority.port,
      isAuthorityChar character = true := by
    intro character member
    simp only [isAuthorityChar, Bool.or_eq_true]
    cases portEq : authority.port with
    | none =>
      rw [portEq] at member
      exact .inl (.inl (.inr (isHostChar_of_mem valid.host character member)))
    | some port =>
      rw [portEq, appendOptional, List.mem_append, List.mem_cons] at member
      rcases member with member | rfl | member
      · exact .inl (.inl (.inr (isHostChar_of_mem valid.host character member)))
      · exact .inl (.inr rfl)
      · exact .inr (List.all_eq_true.mp (valid.port port portEq) character member)
  intro character member
  unfold text at member
  split at member
  · next userinfo userinfoEq =>
    rw [List.mem_append, List.mem_cons] at member
    rcases member with member | rfl | member
    · have inside := isEncodedChar_of_mem (valid.userinfo userinfo userinfoEq) character member
      simp [isAuthorityChar, inside]
    · rfl
    · exact hostPort character member
  · exact hostPort character member

theorem Reference.delimited_of_isValid {reference : Reference} (valid : reference.IsValid) :
    reference.Delimited := by
  have schemeOutside : ([':', '/', '?', '#'].all fun delimiter =>
      !isSchemeChar delimiter) = true := by decide
  have authorityOutside : (['/', '?', '#'].all fun delimiter =>
      !isAuthorityChar delimiter) = true := by decide
  have pathOutside : (['?', '#'].all fun delimiter =>
      !isEncodedChar isPathChar delimiter) = true := by decide
  have queryOutside : (['#'].all fun delimiter =>
      !isEncodedChar isQueryChar delimiter) = true := by decide
  constructor
  · intro scheme schemeEq
    exact notMem_of_class (isSchemeChar_of_mem (valid.scheme scheme schemeEq)) schemeOutside
  · intro authority authorityEq
    have inner := valid.authority authority authorityEq
    exact ⟨Authority.delimited_of_isValid inner,
      notMem_of_class (Authority.isAuthorityChar_of_mem inner) authorityOutside⟩
  · exact notMem_of_class (isEncodedChar_of_mem valid.path) pathOutside
  · exact valid.rooted
  · exact valid.bare
  · intro query queryEq
    exact notMem_of_class (isEncodedChar_of_mem (valid.query query queryEq)) queryOutside
      '#' List.mem_cons_self

/-- A valid reference is read back from its text. -/
theorem Reference.parse_recompose {reference : Reference} (valid : reference.IsValid) :
    parse reference.recompose = some reference := by
  simp only [parse, split_recompose (delimited_of_isValid valid), if_pos valid]

theorem Iri.parse_recompose {iri : Iri} (valid : iri.toReference.IsValid) :
    parse iri.recompose = some iri := by
  rw [parse, recompose, Reference.parse_recompose valid]
  rfl

theorem Reference.isValid_of_parse {text : List Char} {reference : Reference}
    (parsed : parse text = some reference) : reference.IsValid := by
  simp only [parse, Option.ite_none_right_eq_some, Option.some.injEq] at parsed
  obtain ⟨valid, rfl⟩ := parsed
  exact valid

/-- What is read from composed text is what was composed. -/
theorem Iri.eq_of_parse_recompose {iri other : Iri} (delimited : iri.toReference.Delimited)
    (parsed : parse iri.recompose = some other) : other = iri := by
  simp only [parse, recompose, Reference.parse, Reference.split_recompose delimited] at parsed
  by_cases valid : iri.toReference.IsValid
  · rw [if_pos valid] at parsed
    exact (Option.some.inj parsed).symm
  · rw [if_neg valid] at parsed
    cases parsed

theorem Iri.fragment_of_parse {text : List Char} {iri : Iri}
    (parsed : parse text = some iri) (noHash : '#' ∉ text) : iri.fragment = none := by
  simp only [parse, Reference.parse, Option.bind_eq_some_iff, Option.map_eq_some_iff,
    Option.ite_none_right_eq_some, Option.some.injEq] at parsed
  obtain ⟨reference, ⟨-, rfl⟩, scheme, -, rfl⟩ := parsed
  have noFragment := congrArg Prod.snd (splitOptional_appendOptional noHash none)
  exact noFragment

theorem Iri.isValid_of_parse {text : List Char} {iri : Iri} (parsed : parse text = some iri) :
    iri.toReference.IsValid := by
  simp only [parse, Option.bind_eq_some_iff, Option.map_eq_some_iff] at parsed
  obtain ⟨reference, parsed, scheme, schemeEq, rfl⟩ := parsed
  have valid := Reference.isValid_of_parse parsed
  obtain ⟨hierarchy, referenceScheme⟩ := reference
  obtain rfl : referenceScheme = some scheme := schemeEq
  exact valid

end Valid

end Wrest.Uri
