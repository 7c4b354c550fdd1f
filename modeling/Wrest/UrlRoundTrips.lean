import Wrest.UrlHosts

/-!
# The text of a URL

A parsed URL keeps its text beside its components, and three changes rebuild it.  In
every URL that parsing and the changes make, the text is composed of the components, has
no userinfo, and is parsed into the same components again.
-/

namespace Wrest.Url

open Uri

def optionalText (mark : String) : Option String → String
  | some text => mark ++ text
  | none => ""

/-- The text and the other derived fields agree with the components. -/
structure Consistent (url : Url) : Prop where
  scheme : url.scheme = if url.isHttps then "https" else "http"
  explicitPort : url.explicitPort = (url.port != defaultPort url.isHttps)
  path : url.path.toList.head? = some '/'
  pathAndQuery : url.pathAndQuery = url.path ++ optionalText "?" url.query
  serialized : url.serialized = url.scheme ++ "://" ++ url.host ++
    (if url.port = defaultPort url.isHttps then "" else ":" ++ toString url.port) ++
    url.pathAndQuery ++ optionalText "#" url.fragment

/-- Encoded text without characters outside ASCII. -/
structure IsUriText (allowed : Char → Bool) (text : String) : Prop where
  encoded : isEncoded allowed text.toList = true
  ascii : ∀ character ∈ text.toList, isAscii character = true

/-- Each component is one of a URI, and the host is kept when it is parsed again. -/
structure Lexical (libraries : UrlLibraries) (url : Url) : Prop where
  host : HostFixed libraries url.host
  port : url.port < 65536
  path : IsUriText isPathChar url.path
  query : ∀ query ∈ url.query, IsUriText isQueryChar query
  fragment : ∀ fragment ∈ url.fragment, IsUriText isFragmentChar fragment

structure WellFormed (libraries : UrlLibraries) (url : Url) : Prop where
  lexical : url.Lexical libraries
  consistent : url.Consistent

/-- The components that the text is made of. -/
def toIri (url : Url) : Iri where
  scheme := url.scheme.toList
  authority := some
    { userinfo := none
      host := url.host.toList
      port :=
        if url.port = defaultPort url.isHttps then none else some (toString url.port).toList }
  path := url.path.toList
  query := url.query.map String.toList
  fragment := url.fragment.map String.toList

def withoutUserinfo (url : Url) : Url :=
  { url with username := "", password := none }

section Text

variable {url : Url}

theorem recompose_toIri (consistent : url.Consistent) :
    url.toIri.recompose = url.serialized.toList := by
  rw [consistent.serialized, consistent.pathAndQuery]
  simp only [toIri, Iri.recompose, Iri.toReference, Reference.recompose,
    Reference.schemeText, Hierarchy.authorityText, Authority.text]
  by_cases isDefault : url.port = defaultPort url.isHttps
  · cases url.query <;> cases url.fragment <;>
      simp [isDefault, appendOptional, optionalText]
  · cases url.query <;> cases url.fragment <;>
      simp [isDefault, appendOptional, optionalText]

/-- The components determine the other fields. -/
theorem Consistent.ext {other : Url} (consistent : url.Consistent)
    (otherConsistent : other.Consistent) (host : url.host = other.host)
    (port : url.port = other.port) (path : url.path = other.path)
    (query : url.query = other.query) (fragment : url.fragment = other.fragment)
    (isHttps : url.isHttps = other.isHttps) (username : url.username = other.username)
    (password : url.password = other.password) : url = other := by
  have scheme : url.scheme = other.scheme := by
    rw [consistent.scheme, otherConsistent.scheme, isHttps]
  have explicitPort : url.explicitPort = other.explicitPort := by
    rw [consistent.explicitPort, otherConsistent.explicitPort, port, isHttps]
  have pathAndQuery : url.pathAndQuery = other.pathAndQuery := by
    rw [consistent.pathAndQuery, otherConsistent.pathAndQuery, path, query]
  have serialized : url.serialized = other.serialized := by
    rw [consistent.serialized, otherConsistent.serialized, scheme, host, port, isHttps,
      pathAndQuery, fragment]
  cases url
  cases other
  simp_all

theorem Consistent.withUserinfo (consistent : url.Consistent) (username : String)
    (password : Option String) : { url with username, password }.Consistent :=
  ⟨consistent.scheme, consistent.explicitPort, consistent.path, consistent.pathAndQuery,
    consistent.serialized⟩

/-- Rebuilding the text after a change of the query and the fragment. -/
theorem Consistent.rebuilt (consistent : url.Consistent) (query fragment : Option String) :
    { url with query, fragment }.rebuildSerialized.Consistent := by
  have pathAndQuery : (match query with
      | some query => url.path ++ "?" ++ query
      | none => url.path) = url.path ++ optionalText "?" query := by
    cases query <;> simp [optionalText, String.append_assoc]
  constructor
  · exact consistent.scheme
  · exact consistent.explicitPort
  · exact consistent.path
  · exact pathAndQuery
  · simp only [rebuildSerialized, consistent.explicitPort]
    cases fragment <;> by_cases isDefault : url.port = defaultPort url.isHttps <;>
      simp [isDefault, optionalText, String.append_assoc]

end Text

section Parsing

variable {libraries : UrlLibraries} {url : Url}

theorem isValid_toIri (formed : url.WellFormed libraries) :
    url.toIri.toReference.IsValid := by
  have lexical := formed.lexical
  have consistent := formed.consistent
  constructor
  · rintro scheme ⟨⟩
    show isScheme url.scheme.toList = true
    rw [consistent.scheme]
    cases url.isHttps <;> decide
  · rintro authority ⟨⟩
    constructor
    · nofun
    · exact lexical.host.valid
    · intro port portEq
      obtain ⟨-, same⟩ := Option.ite_none_left_eq_some.mp portEq
      obtain rfl := Option.some.inj same
      rw [Nat.toString_eq_repr, Nat.toList_repr, List.all_eq_true]
      intro digit member
      exact Nat.isDigit_of_mem_toDigits (by decide) (by decide) member
  · exact lexical.path.encoded
  · intro _
    exact .inr consistent.path
  · nofun
  · intro query queryEq
    obtain ⟨text, textEq, rfl⟩ := Option.map_eq_some_iff.mp queryEq
    exact (lexical.query text textEq).encoded
  · intro fragment fragmentEq
    obtain ⟨text, textEq, rfl⟩ := Option.map_eq_some_iff.mp fragmentEq
    exact (lexical.fragment text textEq).encoded

theorem ofIri_eq_ok {iri : Iri} :
    ofIri libraries iri = .ok url ↔
      ∃ authority host parsedPort encodedAuthority,
        (eqIgnoreAsciiCase (toAsciiLowercase (String.ofList iri.scheme)) "https" ||
          eqIgnoreAsciiCase (toAsciiLowercase (String.ofList iri.scheme)) "http") = true ∧
        iri.authority = some authority ∧ authority.host ≠ [] ∧
        hostText libraries authority.host (libraries.hostParsed authority) = .ok host ∧
        libraries.portToU16 authority = some parsedPort ∧
        (libraries.toUri iri).authority = some encodedAuthority ∧
        ofParts (toAsciiLowercase (String.ofList iri.scheme)) host parsedPort
          (libraries.toUri iri) encodedAuthority.userinfo = url := by
  simp only [ofIri, bind_eq_ok, okOr_eq_ok, ensure_eq_ok, Except.ok.injEq]
  constructor
  · rintro ⟨-, supported, authority, authorityEq, -, nonempty, host, hostEq, parsedPort,
      portEq, encodedAuthority, encodedEq, urlEq⟩
    have hostNonempty : authority.host ≠ [] := by simpa using nonempty
    exact ⟨authority, host, parsedPort, encodedAuthority, supported, authorityEq,
      hostNonempty, hostEq, portEq, encodedEq, urlEq⟩
  · rintro ⟨authority, host, parsedPort, encodedAuthority, supported, authorityEq,
      hostNonempty, hostEq, portEq, encodedEq, urlEq⟩
    have nonempty : (!authority.host.isEmpty) = true := by simpa using hostNonempty
    exact ⟨(), supported, authority, authorityEq, (), nonempty, host, hostEq, parsedPort,
      portEq, encodedAuthority, encodedEq, urlEq⟩

/-- The supported schemes are kept in lower case. -/
theorem scheme_of_supported {scheme : String}
    (supported : (eqIgnoreAsciiCase (toAsciiLowercase scheme) "https" ||
      eqIgnoreAsciiCase (toAsciiLowercase scheme) "http") = true) :
    toAsciiLowercase scheme =
      if eqIgnoreAsciiCase (toAsciiLowercase scheme) "https" then "https" else "http" := by
  have https : toAsciiLowercase "https" = "https" := by decide
  have http : toAsciiLowercase "http" = "http" := by decide
  simp only [eqIgnoreAsciiCase, toAsciiLowercase_toAsciiLowercase, https, http, Bool.or_eq_true,
    beq_iff_eq] at supported ⊢
  split
  · next same => exact same
  · next other => exact supported.resolve_left other

theorem ofParts_consistent {scheme host : String} {parsedPort : Option Nat} {encoded : Iri}
    {userinfo : Option (List Char)}
    (schemeEq : scheme = if eqIgnoreAsciiCase scheme "https" then "https" else "http")
    (rooted : encoded.path = [] ∨ encoded.path.head? = some '/') :
    (ofParts scheme host parsedPort encoded userinfo).Consistent := by
  have explicitPort : parsedPort.any (· != defaultPort (eqIgnoreAsciiCase scheme "https")) =
      (parsedPort.getD (defaultPort (eqIgnoreAsciiCase scheme "https")) !=
        defaultPort (eqIgnoreAsciiCase scheme "https")) := by
    cases parsedPort <;> simp
  constructor
  · exact schemeEq
  · exact explicitPort
  · show (if encoded.path.isEmpty then "/" else String.ofList encoded.path).toList.head? = _
    rcases rooted with empty | begins
    · simp [empty]
    · have nonempty : encoded.path ≠ [] := by
        intro empty
        rw [empty] at begins
        cases begins
      simpa [nonempty] using begins
  · show (match encoded.query.map String.ofList with
      | some query => _ ++ "?" ++ query
      | none => _) = _
    cases queryEq : encoded.query <;> simp [ofParts, queryEq, optionalText, String.append_assoc]
  · simp only [ofParts, explicitPort]
    by_cases isDefault : parsedPort.getD (defaultPort (eqIgnoreAsciiCase scheme "https")) =
        defaultPort (eqIgnoreAsciiCase scheme "https")
    · cases encoded.fragment <;> simp [isDefault, optionalText, String.append_assoc]
    · cases encoded.fragment <;> simp [isDefault, optionalText, String.append_assoc]

theorem isUriText_encodeNonAscii {allowed : Char → Bool} {text : List Char}
    (percent : allowed '%' = false) (encoded : isEncoded allowed text = true) :
    IsUriText allowed (String.ofList (encodeNonAscii text)) := by
  constructor
  · rw [String.toList_ofList]
    exact isEncoded_encodeNonAscii percent encoded
  · rw [String.toList_ofList]
    exact fun character member => isAscii_of_mem_encodeNonAscii member

theorem isUriText_map {allowed : Char → Bool} (percent : allowed '%' = false)
    {source : Option (List Char)} (encoded : ∀ text ∈ source, isEncoded allowed text = true) :
    ∀ text ∈ (source.map encodeNonAscii).map String.ofList, IsUriText allowed text := by
  cases source with
  | none => nofun
  | some text =>
    rintro _ ⟨⟩
    exact isUriText_encodeNonAscii percent (encoded text rfl)

theorem rooted_encodeNonAscii {path : List Char} (rooted : path = [] ∨ path.head? = some '/') :
    encodeNonAscii path = [] ∨ (encodeNonAscii path).head? = some '/' := by
  rcases rooted with rfl | begins
  · exact .inl rfl
  · obtain ⟨rest, rfl⟩ := List.head?_eq_some_iff.mp begins
    exact .inr rfl

theorem portNumber_lt {authority : Authority} {port : Nat}
    (found : authority.portNumber = some (some port)) : port < 65536 := by
  unfold Authority.portNumber at found
  split at found
  · cases found
  · cases found
  · simp only [Option.ite_none_right_eq_some, Option.some.injEq] at found
    obtain ⟨bound, rfl⟩ := found
    exact bound

theorem ofParts_port_lt {scheme host : String} {parsedPort : Option Nat} {encoded : Iri}
    {userinfo : Option (List Char)} (bound : ∀ port, parsedPort = some port → port < 65536) :
    (ofParts scheme host parsedPort encoded userinfo).port < 65536 := by
  simp only [ofParts]
  cases parsedPort with
  | none =>
    rw [Option.getD_none]
    unfold defaultPort
    split <;> omega
  | some port => exact bound port rfl

/-- What `parse_impl` makes of a valid IRI. -/
theorem wellFormed_of_ofIri (conforms : libraries.Conforms) {iri : Iri}
    (valid : iri.toReference.IsValid) (made : ofIri libraries iri = .ok url) :
    url.WellFormed libraries := by
  obtain ⟨authority, host, parsedPort, encodedAuthority, supported, authorityEq, nonempty,
    hostEq, portEq, -, rfl⟩ := ofIri_eq_ok.mp made
  have authorityValid := valid.authority authority authorityEq
  rw [conforms.hostParsed authority authorityValid] at hostEq
  rw [conforms.portToU16 authority authorityValid] at portEq
  rw [conforms.toUri iri valid]
  have rooted : iri.path = [] ∨ iri.path.head? = some '/' := by
    apply valid.rooted
    show iri.authority ≠ none
    rw [authorityEq]
    exact Option.some_ne_none _
  constructor
  · constructor
    · exact .of_hostText conforms authorityValid.host nonempty hostEq
    · exact ofParts_port_lt fun port found => portNumber_lt (found ▸ portEq)
    · show IsUriText isPathChar
        (if (encodeNonAscii iri.path).isEmpty then "/"
          else String.ofList (encodeNonAscii iri.path))
      split
      · constructor
        · decide
        · intro character member
          obtain rfl := List.mem_singleton.mp member
          rfl
      · exact isUriText_encodeNonAscii rfl valid.path
    · exact isUriText_map rfl valid.query
    · exact isUriText_map rfl valid.fragment
  · exact ofParts_consistent (scheme_of_supported supported) (rooted_encodeNonAscii rooted)

theorem parse_eq_ok (conforms : libraries.Conforms) {text : String} :
    parse libraries text = .ok url ↔
      ∃ iri, Iri.parse text.toList = some iri ∧ ofIri libraries iri = .ok url := by
  simp only [parse, bind_eq_ok, mapError_eq_ok, ← conforms.parseIri text,
    toOption_eq_some]

theorem wellFormed_of_parse (conforms : libraries.Conforms) {text : String}
    (parsed : parse libraries text = .ok url) : url.WellFormed libraries := by
  obtain ⟨iri, iriEq, made⟩ := (parse_eq_ok conforms).mp parsed
  exact wellFormed_of_ofIri conforms (Iri.isValid_of_parse iriEq) made

theorem portNumber_toString {port : Nat} (bound : port < 65536)
    (userinfo : Option (List Char)) (host : List Char) :
    Authority.portNumber ⟨userinfo, host, some (toString port).toList⟩ = some (some port) := by
  have digits : (toString port).toList = Nat.toDigits 10 port := Nat.toList_repr
  rw [digits]
  unfold Authority.portNumber
  split
  · next impossible => cases impossible
  · next empty => exact absurd (Option.some.inj empty) Nat.toDigits_ne_nil
  · next found =>
    obtain rfl := Option.some.inj found
    simp only [Nat.ofDigitChars_ten_toDigits, if_pos bound]

theorem map_encoded_of_isUriText {allowed : Char → Bool} {text : Option String}
    (isText : ∀ present ∈ text, IsUriText allowed present) :
    ((text.map String.toList).map encodeNonAscii).map String.ofList = text := by
  cases text with
  | none => rfl
  | some present =>
    have ascii := (isText present rfl).ascii
    simp only [Option.map_some, encodeNonAscii_of_ascii ascii, String.ofList_toList]

/-- The port that the text of a URL writes. -/
def writtenPort (url : Url) : Option Nat :=
  if url.port = defaultPort url.isHttps then none else some url.port

theorem portNumber_toIri (lexical : url.Lexical libraries) {authority : Authority}
    (found : url.toIri.authority = some authority) :
    authority.portNumber = some url.writtenPort := by
  obtain rfl := Option.some.inj found
  unfold writtenPort
  split
  · rfl
  · exact portNumber_toString lexical.port _ _

theorem ofParts_toIri (formed : url.WellFormed libraries) :
    ofParts url.scheme url.host url.writtenPort url.toIri.toUri none =
      url.withoutUserinfo := by
  have lexical := formed.lexical
  have consistent := formed.consistent
  have isHttpsEq : eqIgnoreAsciiCase url.scheme "https" = url.isHttps := by
    rw [consistent.scheme]
    cases url.isHttps <;> decide
  have rooted : encodeNonAscii url.path.toList = [] ∨
      (encodeNonAscii url.path.toList).head? = some '/' :=
    rooted_encodeNonAscii (.inr consistent.path)
  have made : (ofParts url.scheme url.host url.writtenPort url.toIri.toUri none).Consistent := by
    apply ofParts_consistent _ rooted
    rw [isHttpsEq]
    exact consistent.scheme
  apply made.ext (consistent.withUserinfo "" none)
  · rfl
  · show url.writtenPort.getD (defaultPort (eqIgnoreAsciiCase url.scheme "https")) = url.port
    rw [isHttpsEq]
    unfold writtenPort
    split
    · next isDefault => exact isDefault.symm
    · rfl
  · show (if (encodeNonAscii url.path.toList).isEmpty then "/"
      else String.ofList (encodeNonAscii url.path.toList)) = url.path
    rw [encodeNonAscii_of_ascii lexical.path.ascii, String.ofList_toList]
    split
    · next empty =>
      rw [List.isEmpty_iff] at empty
      have path := consistent.path
      rw [empty] at path
      cases path
    · rfl
  · exact map_encoded_of_isUriText lexical.query
  · exact map_encoded_of_isUriText lexical.fragment
  · exact isHttpsEq
  · rfl
  · rfl

/-- The components are kept when they are parsed again. -/
theorem ofIri_toIri (conforms : libraries.Conforms) (formed : url.WellFormed libraries) :
    ofIri libraries url.toIri = .ok url.withoutUserinfo := by
  have lexical := formed.lexical
  have consistent := formed.consistent
  have valid := isValid_toIri formed
  have schemeEq : toAsciiLowercase (String.ofList url.toIri.scheme) = url.scheme := by
    show toAsciiLowercase (String.ofList url.scheme.toList) = url.scheme
    rw [String.ofList_toList, consistent.scheme]
    cases url.isHttps <;> decide
  have supported : (eqIgnoreAsciiCase url.scheme "https" ||
      eqIgnoreAsciiCase url.scheme "http") = true := by
    rw [consistent.scheme]
    cases url.isHttps <;> decide
  obtain ⟨authority, found⟩ : ∃ authority, url.toIri.authority = some authority := ⟨_, rfl⟩
  have noUserinfo : authority.toUri.userinfo = none := by
    obtain rfl := Option.some.inj found
    rfl
  have hostEq : authority.host = url.host.toList := by
    obtain rfl := Option.some.inj found
    rfl
  have authorityValid := valid.authority authority found
  rw [ofIri_eq_ok, schemeEq]
  refine ⟨authority, url.host, url.writtenPort, authority.toUri, supported, found,
    ?_, ?_, ?_, ?_, ?_⟩
  · rw [hostEq]
    exact fun empty => lexical.host.nonempty (String.toList_eq_nil_iff.mp empty)
  · rw [conforms.hostParsed authority authorityValid, hostEq]
    exact lexical.host.text
  · rw [conforms.portToU16 authority authorityValid]
    exact portNumber_toIri lexical found
  · rw [conforms.toUri _ valid]
    show url.toIri.authority.map Authority.toUri = _
    rw [found]
    rfl
  · rw [conforms.toUri _ valid, noUserinfo]
    exact ofParts_toIri formed

theorem parse_serialized (conforms : libraries.Conforms)
    (formed : url.WellFormed libraries) :
    parse libraries url.serialized = .ok url.withoutUserinfo := by
  rw [parse_eq_ok conforms]
  refine ⟨url.toIri, ?_, ofIri_toIri conforms formed⟩
  rw [← recompose_toIri formed.consistent]
  exact Iri.parse_recompose (isValid_toIri formed)

end Parsing

section Changes

variable {libraries : UrlLibraries} {url : Url}

theorem WellFormed.withUserinfo (formed : url.WellFormed libraries) (username : String)
    (password : Option String) : { url with username, password }.WellFormed libraries := by
  have lexical := formed.lexical
  exact ⟨⟨lexical.host, lexical.port, lexical.path, lexical.query, lexical.fragment⟩,
    formed.consistent.withUserinfo username password⟩

theorem WellFormed.rebuilt (formed : url.WellFormed libraries) {query fragment : Option String}
    (queryText : ∀ text ∈ query, IsUriText isQueryChar text)
    (fragmentText : ∀ text ∈ fragment, IsUriText isFragmentChar text) :
    { url with query, fragment }.rebuildSerialized.WellFormed libraries := by
  have lexical := formed.lexical
  exact ⟨⟨lexical.host, lexical.port, lexical.path, queryText, fragmentText⟩,
    formed.consistent.rebuilt query fragment⟩

theorem WellFormed.setQuery (formed : url.WellFormed libraries) {query : Option String}
    (queryText : ∀ text ∈ query, IsUriText isQueryChar text) :
    (url.setQuery query).WellFormed libraries :=
  formed.rebuilt queryText formed.lexical.fragment

theorem joinEmptyPath_eq (encoded : Reference) :
    url.joinEmptyPath encoded =
      { url with
        query := (encoded.query.map String.ofList).or url.query
        fragment := encoded.fragment.map String.ofList }.rebuildSerialized := by
  unfold joinEmptyPath
  cases encoded.query <;> rfl

theorem WellFormed.joinEmptyPath (formed : url.WellFormed libraries) {reference : Reference}
    (valid : reference.IsValid) : (url.joinEmptyPath reference.toUri).WellFormed libraries := by
  rw [joinEmptyPath_eq]
  apply formed.rebuilt
  · intro query queryEq
    rcases Option.or_eq_some_iff.mp queryEq with given | ⟨-, kept⟩
    · exact isUriText_map rfl valid.query query given
    · exact formed.lexical.query query kept
  · exact isUriText_map rfl valid.fragment

theorem isValid_of_parseIriRef (conforms : libraries.Conforms) {input : String}
    {reference : Reference} (parsed : libraries.parseIriRef input = .ok reference) :
    reference.IsValid := by
  have read : Reference.parse input.toList = some reference := by
    rw [← conforms.parseIriRef input, parsed]
    rfl
  exact Reference.isValid_of_parse read

/-- The two ways in which `join` succeeds. -/
theorem join_eq_ok {input : String} {joined : Url} :
    url.join libraries input = .ok joined ↔
      ∃ base reference, libraries.parseIri url.serializedWithoutFragment = .ok base ∧
        libraries.parseIriRef input = .ok reference ∧
        if reference.scheme = none ∧ reference.authority = none ∧ reference.path = [] then
          joined = url.joinEmptyPath (libraries.toUriRef reference)
        else
          ∃ resolved target, libraries.resolveAgainst reference base = some resolved ∧
            parse libraries resolved = .ok target ∧
            joined =
              if reference.scheme = none ∧ reference.authority = none then
                { target with username := url.username, password := url.password }
              else
                target := by
  have branches : ∀ (base : Iri) (reference : Reference),
      (if (reference.scheme.isNone && reference.authority.isNone &&
          reference.path.isEmpty) = true then
        .ok (url.joinEmptyPath (libraries.toUriRef reference))
      else do
        let resolved ← okOr (libraries.resolveAgainst reference base) .invalidUrl
        let target ← parse libraries resolved
        if (reference.scheme.isNone && reference.authority.isNone) = true then
          .ok { target with username := url.username, password := url.password }
        else
          .ok target : Except ParseError Url) = .ok joined ↔
      if reference.scheme = none ∧ reference.authority = none ∧ reference.path = [] then
        joined = url.joinEmptyPath (libraries.toUriRef reference)
      else
        ∃ resolved target, libraries.resolveAgainst reference base = some resolved ∧
          parse libraries resolved = .ok target ∧
          joined =
            if reference.scheme = none ∧ reference.authority = none then
              { target with username := url.username, password := url.password }
            else
              target := by
    intro base reference
    simp only [Bool.and_eq_true, Option.isNone_iff_eq_none, List.isEmpty_iff, and_assoc]
    split
    · simp only [Except.ok.injEq, eq_comm]
    · simp only [bind_eq_ok, okOr_eq_ok, exists_and_left]
      split <;> simp only [Except.ok.injEq, eq_comm]
  simp only [join, bind_eq_ok, mapError_eq_ok, branches, exists_and_left]

theorem WellFormed.join (conforms : libraries.Conforms) (formed : url.WellFormed libraries)
    {input : String} {joined : Url} (joins : url.join libraries input = .ok joined) :
    joined.WellFormed libraries := by
  obtain ⟨base, reference, -, referenceEq, made⟩ := join_eq_ok.mp joins
  split at made
  · have valid := isValid_of_parseIriRef conforms referenceEq
    rw [made, conforms.toUriRef reference valid]
    exact formed.joinEmptyPath valid
  · obtain ⟨resolved, target, -, targetEq, rfl⟩ := made
    have targetFormed := wellFormed_of_parse conforms targetEq
    split
    · exact targetFormed.withUserinfo _ _
    · exact targetFormed

theorem WellFormed.takeDecodedUserinfo (formed : url.WellFormed libraries) :
    url.takeDecodedUserinfo.2.WellFormed libraries := by
  unfold Url.takeDecodedUserinfo
  split
  · exact formed
  · exact formed.withUserinfo "" none

end Changes

/-- The characters that form encoding leaves or writes. -/
def isFormChar (character : Char) : Bool :=
  character.isAlphanum || ['*', '-', '.', '_', '+', '=', '&'].contains character

theorem isUriText_of_isFormChar {text : String}
    (encoded : isEncoded isFormChar text.toList = true) : IsUriText isQueryChar text := by
  have ascii : ∀ character, isFormChar character = true → isAscii character = true := by
    intro character form
    have marks : (['*', '-', '.', '_', '+', '=', '&'].all isAscii) = true := by decide
    simp only [isFormChar, Bool.or_eq_true, List.contains_iff_mem] at form
    rcases form with alphanum | mark
    · exact isAscii_of_isAlphanum alphanum
    · exact List.all_eq_true.mp marks character mark
  have inQuery : ∀ code : Fin 128, isFormChar (Char.ofNat code.val) = true →
      isQueryChar (Char.ofNat code.val) = true := by decide
  constructor
  · apply isEncoded_mono _ encoded
    intro character form
    obtain ⟨code, rfl⟩ := exists_code (ascii character form)
    exact inQuery code form
  · intro character member
    rcases mem_of_isEncoded encoded member with form | rfl | hex
    · exact ascii character form
    · rfl
    · exact isAscii_of_isHexDigit hex

/-- The URLs that parsing and changes make.  A query that is set is one of a URI, as
form encoding writes it. -/
inductive Reachable (libraries : UrlLibraries) : Url → Prop
  | parse {text : String} {url : Url} (parsed : Url.parse libraries text = .ok url) :
      Reachable libraries url
  | join {base url : Url} {input : String} (reachable : Reachable libraries base)
      (joined : base.join libraries input = .ok url) : Reachable libraries url
  | setQuery {url : Url} {query : Option String} (reachable : Reachable libraries url)
      (encoded : ∀ text ∈ query, IsUriText isQueryChar text) :
      Reachable libraries (url.setQuery query)
  | takeDecodedUserinfo {url : Url} (reachable : Reachable libraries url) :
      Reachable libraries url.takeDecodedUserinfo.2

theorem Reachable.wellFormed {libraries : UrlLibraries} (conforms : libraries.Conforms)
    {url : Url} (reachable : url.Reachable libraries) : url.WellFormed libraries := by
  induction reachable with
  | parse parsed => exact wellFormed_of_parse conforms parsed
  | join _ joined ih => exact ih.join conforms joined
  | setQuery _ encoded ih => exact ih.setQuery encoded
  | takeDecodedUserinfo _ ih => exact ih.takeDecodedUserinfo

theorem parseIri_serialized {libraries : UrlLibraries} (conforms : libraries.Conforms)
    {url : Url} (formed : url.WellFormed libraries) :
    libraries.parseIri url.serialized = .ok url.toIri := by
  rw [← toOption_eq_some, conforms.parseIri, ← recompose_toIri formed.consistent]
  exact Iri.parse_recompose (isValid_toIri formed)

/-- The text of every URL is made of its components, has no userinfo, and is parsed into
the same URL without its userinfo. -/
theorem reachable_parsesAgain {libraries : UrlLibraries} (conforms : libraries.Conforms)
    {url : Url} (reachable : url.Reachable libraries) :
    url.Consistent ∧
      (∃ iri authority, libraries.parseIri url.serialized = .ok iri ∧
        iri.authority = some authority ∧ authority.userinfo = none) ∧
      parse libraries url.serialized = .ok url.withoutUserinfo := by
  have formed := reachable.wellFormed conforms
  exact ⟨formed.consistent, ⟨url.toIri, _, parseIri_serialized conforms formed, rfl, rfl⟩,
    parse_serialized conforms formed⟩

/-- Libraries that follow the grammar, with only those international names that one label
converts. -/
def grammarLibraries : UrlLibraries where
  parseIri text :=
    match Iri.parse text.toList with
    | some iri => .ok iri
    | none => .error .unexpectedChar
  parseIriRef text :=
    match Reference.parse text.toList with
    | some reference => .ok reference
    | none => .error .unexpectedChar
  hostParsed authority := hostKind authority.host
  portToU16 := Authority.portNumber
  toUri := Iri.toUri
  toUriRef := Reference.toUri
  resolveAgainst reference base := some (targetText base reference)
  idnaToAscii name := if name = "bücher" then some "xn--bcher-kva" else none

theorem grammarLibraries_conforms : grammarLibraries.Conforms where
  parseIri text := by
    show (match Iri.parse text.toList with
      | some iri => Except.ok iri
      | none => .error UriErrorKind.unexpectedChar).toOption = _
    cases Iri.parse text.toList <;> rfl
  parseIriRef text := by
    show (match Reference.parse text.toList with
      | some reference => Except.ok reference
      | none => .error UriErrorKind.unexpectedChar).toOption = _
    cases Reference.parse text.toList <;> rfl
  hostParsed _ _ := rfl
  portToU16 _ _ := rfl
  toUri _ _ := rfl
  toUriRef _ _ := rfl
  idnaToAscii name ascii converts := by
    simp only [grammarLibraries, Option.ite_none_right_eq_some, Option.some.injEq] at converts
    obtain ⟨-, rfl⟩ := converts
    have checked : ("xn--bcher-kva".toList.all fun character =>
        isAscii character && asciiLower character == character) = true := by decide
    refine ⟨by decide, ?_⟩
    intro character member
    simpa using List.all_eq_true.mp checked character member

theorem reachable_parsesAgain_joined :
    ∃ url : Url, url.Reachable grammarLibraries ∧ url.password = some "p" ∧
      url.serialized = "http://1.2.3.4:81/x?c=d%20+e" ∧
      parse grammarLibraries url.serialized = .ok url.withoutUserinfo := by
  have form : ∀ text ∈ some "c=d%20+e", IsUriText isQueryChar text := by
    rintro _ ⟨⟩
    exact isUriText_of_isFormChar (by decide)
  have parsed : ∃ base, parse grammarLibraries "http://u:p@1.2.3.4:81/y#z" = .ok base ∧
      ∃ joined, base.join grammarLibraries "x?b" = .ok joined ∧
        (joined.setQuery (some "c=d%20+e")).password = some "p" ∧
        (joined.setQuery (some "c=d%20+e")).serialized = "http://1.2.3.4:81/x?c=d%20+e" :=
    ⟨_, rfl, _, rfl, rfl, rfl⟩
  obtain ⟨base, baseEq, joined, joinedEq, password, serialized⟩ := parsed
  have reachable : (joined.setQuery (some "c=d%20+e")).Reachable grammarLibraries :=
    .setQuery (.join (.parse baseEq) joinedEq) form
  exact ⟨_, reachable, password, serialized,
    (reachable_parsesAgain grammarLibraries_conforms reachable).2.2⟩

end Wrest.Url
