import Wrest.RequestBuilders
import Wrest.UriResolution

/-!
# Parsing and joining URLs

`Url::parse`, `Url::join` and the changes of a parsed URL.  The library that parses and
resolves IRIs and the conversion of international names are parameters;
`UrlLibraries.Conforms` and `UrlLibraries.Resolves` say what is relied on.
-/

namespace Wrest

open Uri IpAddress PercentEncoding

/-- `fluent_uri::ParseErrorKind`. -/
inductive UriErrorKind
  | invalidIpv6Addr
  | invalidPctEncodedOctet
  | unexpectedChar
deriving DecidableEq, Repr

inductive ParseError
  | emptyHost
  | idnaError
  | invalidPort
  | invalidIpv6Address
  | invalidDomainCharacter
  | invalidUrl
  | unsupportedScheme
deriving DecidableEq, Repr

/-- The functions of other libraries. -/
structure UrlLibraries where
  parseIri : String → Except UriErrorKind Iri
  parseIriRef : String → Except UriErrorKind Reference
  hostParsed : Authority → Host
  portToU16 : Authority → Option (Option Nat)
  toUri : Iri → Iri
  toUriRef : Reference → Reference
  resolveAgainst : Reference → Iri → Option String
  idnaToAscii : String → Option String

/-- The libraries implement the grammar of IRIs and their conversion to URIs, and
international names become lower-case text. -/
structure UrlLibraries.Conforms (libraries : UrlLibraries) : Prop where
  parseIri : ∀ text, (libraries.parseIri text).toOption = Iri.parse text.toList
  parseIriRef : ∀ text, (libraries.parseIriRef text).toOption = Reference.parse text.toList
  hostParsed : ∀ authority : Authority, authority.IsValid →
    libraries.hostParsed authority = hostKind authority.host
  portToU16 : ∀ authority : Authority, authority.IsValid →
    libraries.portToU16 authority = authority.portNumber
  toUri : ∀ iri : Iri, iri.toReference.IsValid → libraries.toUri iri = iri.toUri
  toUriRef : ∀ reference : Reference, reference.IsValid →
    libraries.toUriRef reference = reference.toUri
  idnaToAscii : ∀ name ascii, libraries.idnaToAscii name = some ascii →
    ascii ≠ "" ∧ ∀ character ∈ ascii.toList,
      isAscii character = true ∧ asciiLower character = character

/-- The text of the target of a reference. -/
def targetText (base : Iri) (reference : Reference) : String :=
  String.ofList (transform base reference).recompose

/-- References that are more than a query and a fragment are resolved to their target. -/
def UrlLibraries.Resolves (libraries : UrlLibraries) : Prop :=
  ∀ (reference : Reference) (base : Iri), reference.IsValid →
    base.toReference.IsValid → base.fragment = none →
    (reference.scheme ≠ none ∨ reference.authority ≠ none ∨ reference.path ≠ []) →
    libraries.resolveAgainst reference base = some (targetText base reference)

/-- `map_fluent_error`. -/
def mapFluentError : UriErrorKind → ParseError
  | .invalidIpv6Addr => .invalidIpv6Address
  | .invalidPctEncodedOctet | .unexpectedChar => .invalidUrl

def okOr {α : Type} (value : Option α) (error : ParseError) : Except ParseError α :=
  match value with
  | some value => .ok value
  | none => .error error

def ensure (condition : Bool) (error : ParseError) : Except ParseError Unit :=
  if condition then .ok () else .error error

def eqIgnoreAsciiCase (first second : String) : Bool :=
  toAsciiLowercase first == toAsciiLowercase second

/-- Valid UTF-8 as text. -/
def decodeUtf8 (octets : List UInt8) : Option String :=
  (octets.toByteArray.utf8Decode?).map fun characters => String.ofList characters.toList

/-- `RegName::TABLE`, for characters that are not encoded. -/
def allowsRegName (character : Char) : Bool :=
  isUnreserved character || isSubDelim character

/-- `normalize_registered_name`. -/
def normalizeRegisteredName (libraries : UrlLibraries) (host : String) :
    Except ParseError String := do
  let decoded ← okOr (decodeUtf8 (percentDecode (utf8Bytes host))) .invalidUrl
  ensure (!decoded.toList.any fun character => isAscii character && !allowsRegName character)
    .invalidDomainCharacter
  if decoded.toList.all isAscii then
    .ok (toAsciiLowercase decoded)
  else do
    let ascii ← okOr (libraries.idnaToAscii decoded) .idnaError
    ensure (ascii.toList.all allowsRegName) .idnaError
    .ok ascii

/-- The text that is kept of a host. -/
def hostText (libraries : UrlLibraries) (host : List Char) : Host → Except ParseError String
  | .ipv4 address => .ok (String.ofList address.text)
  | .ipv6 address => .ok ("[" ++ String.ofList address.text ++ "]")
  | .ipvFuture => .ok (String.ofList host)
  | .regName name => normalizeRegisteredName libraries (String.ofList name)

/-- The username and password of a userinfo; an empty password is none. -/
def splitUserinfo : Option (List Char) → String × Option String
  | some userinfo =>
    match splitOnce ':' userinfo with
    | some (user, []) => (String.ofList user, none)
    | some (user, password) => (String.ofList user, some (String.ofList password))
    | none => (String.ofList userinfo, none)
  | none => ("", none)

namespace Url

def defaultPort (isHttps : Bool) : Nat :=
  if isHttps then 443 else 80

/-- The URL of an IRI that `parse_impl` has checked. -/
def ofParts (scheme host : String) (parsedPort : Option Nat) (encoded : Iri)
    (userinfo : Option (List Char)) : Url :=
  let isHttps := eqIgnoreAsciiCase scheme "https"
  let port := parsedPort.getD (defaultPort isHttps)
  let explicitPort := parsedPort.any (· != defaultPort isHttps)
  let path := if encoded.path.isEmpty then "/" else String.ofList encoded.path
  let query := encoded.query.map String.ofList
  let fragment := encoded.fragment.map String.ofList
  let pathAndQuery := match query with
    | some query => path ++ "?" ++ query
    | none => path
  let serialized := scheme ++ "://" ++ host
  let serialized := if explicitPort then serialized ++ ":" ++ toString port else serialized
  let serialized := serialized ++ pathAndQuery
  let serialized := match fragment with
    | some fragment => serialized ++ "#" ++ fragment
    | none => serialized
  { serialized, scheme, host, port, explicitPort, path, query, fragment, isHttps
    pathAndQuery
    username := (splitUserinfo userinfo).1
    password := (splitUserinfo userinfo).2 }

/-- `parse_impl` behind `Iri::parse`. -/
def ofIri (libraries : UrlLibraries) (parsed : Iri) : Except ParseError Url := do
  let scheme := toAsciiLowercase (String.ofList parsed.scheme)
  ensure (eqIgnoreAsciiCase scheme "https" || eqIgnoreAsciiCase scheme "http")
    .unsupportedScheme
  let authority ← okOr parsed.authority .emptyHost
  ensure (!authority.host.isEmpty) .emptyHost
  let host ← hostText libraries authority.host (libraries.hostParsed authority)
  let parsedPort ← okOr (libraries.portToU16 authority) .invalidPort
  let encoded := libraries.toUri parsed
  let encodedAuthority ← okOr encoded.authority .emptyHost
  .ok (ofParts scheme host parsedPort encoded encodedAuthority.userinfo)

/-- `Url::parse`. -/
def parse (libraries : UrlLibraries) (text : String) : Except ParseError Url := do
  let parsed ← (libraries.parseIri text).mapError mapFluentError
  ofIri libraries parsed

def serializedWithoutFragment (url : Url) : String :=
  match splitOnce '#' url.serialized.toList with
  | some (before, _) => String.ofList before
  | none => url.serialized

def rebuildSerialized (url : Url) : Url :=
  let pathAndQuery := match url.query with
    | some query => url.path ++ "?" ++ query
    | none => url.path
  let serialized :=
    if url.explicitPort then
      url.scheme ++ "://" ++ url.host ++ ":" ++ toString url.port
    else
      url.scheme ++ "://" ++ url.host
  let serialized := serialized ++ pathAndQuery
  let serialized := match url.fragment with
    | some fragment => serialized ++ "#" ++ fragment
    | none => serialized
  { url with pathAndQuery, serialized }

def setQuery (url : Url) (query : Option String) : Url :=
  { url with query }.rebuildSerialized

/-- The reference has no path: only its query and fragment count. -/
def joinEmptyPath (url : Url) (encoded : Reference) : Url :=
  let joined := match encoded.query with
    | some query => { url with query := some (String.ofList query) }
    | none => url
  { joined with fragment := encoded.fragment.map String.ofList }.rebuildSerialized

/-- `Url::join`. -/
def join (libraries : UrlLibraries) (url : Url) (input : String) : Except ParseError Url := do
  let base ← (libraries.parseIri url.serializedWithoutFragment).mapError mapFluentError
  let reference ← (libraries.parseIriRef input).mapError mapFluentError
  let inheritsUserinfo := reference.scheme.isNone && reference.authority.isNone
  if inheritsUserinfo && reference.path.isEmpty then
    .ok (url.joinEmptyPath (libraries.toUriRef reference))
  else do
    let resolved ← okOr (libraries.resolveAgainst reference base) .invalidUrl
    let joined ← parse libraries resolved
    if inheritsUserinfo then
      .ok { joined with username := url.username, password := url.password }
    else
      .ok joined

end Url

end Wrest
