import Wrest.RequestBuilders
import Wrest.UrlRoundTrips

/-!
# Requests of the `http` crate

A request is converted to one of the `http` crate by giving the components of its URL to
the crate's builder of a URI, and back by parsing the text of the URI.  What a URI or an
`http` request has no place for is lost on the way: the userinfo and the fragment of the
URL, the timeout, and the difference between no body and an empty one.  The rest comes
back, and a second conversion changes nothing more.

The `http` crate is a parameter.
-/

namespace Wrest

open Uri

/-- The `http` crate's URIs. -/
structure HttpUris where
  Uri : Type
  build (scheme authority pathAndQuery : String) : Except ErrorSource Uri
  hasScheme : Uri → Bool
  text : Uri → String

/-- What is relied on: a URI that is built shows the parts that it was built from, and no
URI has a fragment. -/
structure HttpUris.Conforms (uris : HttpUris) : Prop where
  built : ∀ {scheme authority pathAndQuery : String} {uri : uris.Uri},
    scheme = "http" ∨ scheme = "https" → pathAndQuery.toList.head? = some '/' →
      '#' ∉ pathAndQuery.toList → uris.build scheme authority pathAndQuery = .ok uri →
        uris.hasScheme uri = true ∧
          uris.text uri = scheme ++ "://" ++ authority ++ pathAndQuery
  noFragment : ∀ uri : uris.Uri, '#' ∉ (uris.text uri).toList

/-- `Display` for `ParseError`. -/
def ParseError.text : ParseError → String
  | .emptyHost => "empty host"
  | .idnaError => "invalid international domain name"
  | .invalidPort => "invalid port number"
  | .invalidIpv6Address => "invalid IPv6 address"
  | .invalidDomainCharacter => "invalid domain character"
  | .invalidUrl => "invalid URL"
  | .unsupportedScheme => "unsupported URL scheme"

namespace Url

/-- `from_http_uri`, with the text of a `ParseError` as the error. -/
def fromHttpUri (libraries : UrlLibraries) (uris : HttpUris) (uri : uris.Uri) :
    Except String Url :=
  if uris.hasScheme uri then
    (Url.parse libraries (uris.text uri)).mapError ParseError.text
  else
    .error "relative URL without a base"

/-- `to_http_uri`. -/
def toHttpUri (uris : HttpUris) (url : Url) : Except ErrorSource uris.Uri :=
  let authority := if url.explicitPort then url.host ++ ":" ++ toString url.port else url.host
  uris.build url.scheme authority url.pathAndQuery

/-- What a URI keeps of a URL. -/
def bare (url : Url) : Url :=
  { url.withoutUserinfo with fragment := none }.rebuildSerialized

end Url

/-- `http::Request<Body>`. -/
structure HttpRequest (uris : HttpUris) where
  method : String
  uri : uris.Uri
  version : Version
  headers : HeaderMap
  body : Body

/-- `Body::default`. -/
def Body.empty : Body where
  inner := .bytes []

namespace Request

variable {uris : HttpUris}

/-- `TryFrom<http::Request<T>> for Request`, for a body that was converted. -/
def ofHttp (libraries : UrlLibraries) (request : HttpRequest uris) : Except Error Request :=
  match Url.fromHttpUri libraries uris request.uri with
  | .error text => .error (.builder (.foreign text))
  | .ok url =>
    .ok
      { method := request.method
        url
        headers := request.headers
        body := some request.body
        timeout := none
        version := request.version }

/-- `TryFrom<Request> for http::Request<Body>`.  The builder of the request cannot fail on
parts that have their types already. -/
def toHttp (uris : HttpUris) (request : Request) : Except Error (HttpRequest uris) :=
  match request.url.toHttpUri uris with
  | .error source => .error (.builder source)
  | .ok uri =>
    .ok
      { method := request.method
        uri
        version := request.version
        headers := request.headers
        body := request.body.getD .empty }

/-- What an `http` request keeps of a request. -/
def bare (request : Request) : Request :=
  { request with
    url := request.url.bare
    body := some (request.body.getD .empty)
    timeout := none }

end Request

namespace Url

variable {libraries : UrlLibraries} {uris : HttpUris} {url : Url}

theorem Consistent.bare (consistent : url.Consistent) : url.bare.Consistent :=
  Consistent.rebuilt (consistent.withUserinfo "" none) url.query none

theorem WellFormed.bare (formed : url.WellFormed libraries) :
    url.bare.WellFormed libraries :=
  WellFormed.rebuilt (formed.withUserinfo "" none) formed.lexical.query nofun

theorem pathAndQuery_bare (consistent : url.Consistent) :
    url.bare.pathAndQuery = url.pathAndQuery := by
  rw [consistent.bare.pathAndQuery, consistent.pathAndQuery]
  rfl

/-- The builder of a URI is given the same parts. -/
theorem toHttpUri_bare (consistent : url.Consistent) :
    url.bare.toHttpUri uris = url.toHttpUri uris := by
  rw [toHttpUri, toHttpUri, pathAndQuery_bare consistent]
  rfl

/-- The text of a URL without userinfo and fragment is made of these parts. -/
theorem serialized_bare (consistent : url.Consistent) :
    url.bare.serialized = url.scheme ++ "://" ++
      (if url.explicitPort then url.host ++ ":" ++ toString url.port else url.host) ++
      url.pathAndQuery := by
  rw [← pathAndQuery_bare consistent]
  cases explicit : url.explicitPort <;>
    simp [Url.bare, rebuildSerialized, withoutUserinfo, explicit, String.append_assoc]

theorem hash_notMem_pathAndQuery (formed : url.WellFormed libraries) :
    '#' ∉ url.pathAndQuery.toList := by
  have outside : ∀ {allowed : Char → Bool} {text : String},
      (['#'].all fun delimiter => !isEncodedChar allowed delimiter) = true →
        IsUriText allowed text → '#' ∉ text.toList :=
    fun excluded isText => notMem_of_class (isEncodedChar_of_mem isText.encoded) excluded
      '#' List.mem_cons_self
  have path := outside rfl formed.lexical.path
  rw [formed.consistent.pathAndQuery]
  cases queryEq : url.query with
  | none => simpa [optionalText] using path
  | some query =>
    have queryText := outside rfl (formed.lexical.query query queryEq)
    simp [optionalText, path, queryText]

theorem rooted_pathAndQuery (consistent : url.Consistent) :
    url.pathAndQuery.toList.head? = some '/' := by
  rw [consistent.pathAndQuery, String.toList_append, List.head?_append, consistent.path]
  rfl

/-- A URI that was made of a URL is parsed into what it keeps of the URL. -/
theorem fromHttpUri_of_toHttpUri (conforms : libraries.Conforms)
    (urisConform : uris.Conforms) (formed : url.WellFormed libraries) {uri : uris.Uri}
    (made : url.toHttpUri uris = .ok uri) : fromHttpUri libraries uris uri = .ok url.bare := by
  have scheme : url.scheme = "http" ∨ url.scheme = "https" := by
    rw [formed.consistent.scheme]
    cases url.isHttps
    · exact .inl rfl
    · exact .inr rfl
  obtain ⟨hasScheme, text⟩ := urisConform.built scheme
    (rooted_pathAndQuery formed.consistent) (hash_notMem_pathAndQuery formed) made
  have parsed : parse libraries url.bare.serialized = .ok url.bare :=
    parse_serialized conforms formed.bare
  rw [fromHttpUri, if_pos hasScheme, text, ← serialized_bare formed.consistent, parsed]
  rfl

theorem fromHttpUri_eq_ok {uri : uris.Uri} :
    fromHttpUri libraries uris uri = .ok url ↔
      uris.hasScheme uri = true ∧ parse libraries (uris.text uri) = .ok url := by
  unfold fromHttpUri
  split
  · next hasScheme =>
    rw [and_iff_right hasScheme]
    cases parse libraries (uris.text uri) <;> simp [Except.mapError]
  · next relative => simp [relative]

/-- A URI gives a URL without a fragment. -/
theorem fragment_of_fromHttpUri (conforms : libraries.Conforms) (urisConform : uris.Conforms)
    {uri : uris.Uri} (made : fromHttpUri libraries uris uri = .ok url) :
    url.fragment = none := by
  obtain ⟨-, parsed⟩ := fromHttpUri_eq_ok.mp made
  obtain ⟨iri, iriEq, ofIri⟩ := (parse_eq_ok conforms).mp parsed
  have none := Iri.fragment_of_parse iriEq (urisConform.noFragment uri)
  obtain ⟨_, _, _, _, -, -, -, -, -, -, rfl⟩ := ofIri_eq_ok.mp ofIri
  rw [conforms.toUri iri (Iri.isValid_of_parse iriEq)]
  simp [ofParts, Iri.toUri, Hierarchy.toUri, none]

theorem bare_of_noFragment (consistent : url.Consistent) (noFragment : url.fragment = none) :
    url.bare = url.withoutUserinfo :=
  consistent.bare.ext (consistent.withUserinfo "" none) rfl rfl rfl rfl noFragment.symm rfl
    rfl rfl

end Url

namespace Request

variable {libraries : UrlLibraries} {uris : HttpUris} {request : Request}

theorem toHttp_eq_ok {http : HttpRequest uris} :
    request.toHttp uris = .ok http ↔
      ∃ uri, request.url.toHttpUri uris = .ok uri ∧
        http = ⟨request.method, uri, request.version, request.headers,
          request.body.getD .empty⟩ := by
  unfold toHttp
  cases request.url.toHttpUri uris <;> simp [eq_comm]

theorem ofHttp_eq_ok {http : HttpRequest uris} :
    ofHttp libraries http = .ok request ↔
      ∃ url, Url.fromHttpUri libraries uris http.uri = .ok url ∧
        request = ⟨http.method, url, http.headers, some http.body, none, http.version⟩ := by
  unfold ofHttp
  cases Url.fromHttpUri libraries uris http.uri <;> simp [eq_comm]

theorem ofHttp_of_toHttp (conforms : libraries.Conforms) (urisConform : uris.Conforms)
    (formed : request.url.WellFormed libraries) {http : HttpRequest uris}
    (converted : request.toHttp uris = .ok http) :
    ofHttp libraries http = .ok request.bare := by
  obtain ⟨uri, made, rfl⟩ := toHttp_eq_ok.mp converted
  exact ofHttp_eq_ok.mpr
    ⟨_, Url.fromHttpUri_of_toHttpUri conforms urisConform formed made, rfl⟩

theorem toHttp_bare (consistent : request.url.Consistent) :
    request.bare.toHttp uris = request.toHttp uris := by
  have parts : request.bare.url.toHttpUri uris = request.url.toHttpUri uris :=
    Url.toHttpUri_bare consistent
  rw [toHttp, toHttp, parts]
  rfl

end Request

/-- A request whose URL was made by parsing and changes comes back from the `http` crate
without userinfo, fragment and timeout, and with a body; converted again it gives the same
`http` request.  A request that was made of an `http` request comes back from another
conversion whole, but for the userinfo of its URL. -/
theorem conversions_readBack {libraries : UrlLibraries} {uris : HttpUris}
    (conforms : libraries.Conforms) (urisConform : uris.Conforms) :
    (∀ (request : Request) (http : HttpRequest uris),
      request.url.Reachable libraries → request.toHttp uris = .ok http →
        Request.ofHttp libraries http = .ok request.bare ∧
          request.bare.toHttp uris = .ok http) ∧
    ∀ (http again : HttpRequest uris) (request : Request),
      Request.ofHttp libraries http = .ok request → request.toHttp uris = .ok again →
        Request.ofHttp libraries again =
          .ok { request with url := request.url.withoutUserinfo } := by
  constructor
  · intro request http reachable converted
    have formed := reachable.wellFormed conforms
    refine ⟨Request.ofHttp_of_toHttp conforms urisConform formed converted, ?_⟩
    rw [Request.toHttp_bare formed.consistent, converted]
  · intro http again request made converted
    obtain ⟨url, urlEq, rfl⟩ := Request.ofHttp_eq_ok.mp made
    have formed := Url.wellFormed_of_parse conforms (Url.fromHttpUri_eq_ok.mp urlEq).2
    have noFragment := Url.fragment_of_fromHttpUri conforms urisConform urlEq
    rw [Request.ofHttp_of_toHttp conforms urisConform formed converted, Request.bare,
      Url.bare_of_noFragment formed.consistent noFragment]
    rfl

/-- URIs as their texts, for the two schemes. -/
def textUris : HttpUris where
  Uri := { text : String // '#' ∉ text.toList }
  build scheme authority pathAndQuery :=
    let text := scheme ++ "://" ++ authority ++ pathAndQuery
    if plain : '#' ∉ text.toList then .ok ⟨text, plain⟩
    else .error (.foreign "invalid authority")
  hasScheme uri := "http".toList.isPrefixOf uri.val.toList
  text uri := uri.val

theorem textUris_conforms : textUris.Conforms where
  built := by
    intro scheme authority pathAndQuery uri supported _ _ built
    simp only [textUris] at built
    split at built
    · obtain rfl := Except.ok.inj built
      refine ⟨?_, rfl⟩
      rcases supported with rfl | rfl <;> simp [textUris]
    · cases built
  noFragment uri := uri.property

/-- A request with all that is lost. -/
theorem conversions_readBack_userinfo :
    ∃ (request : Request) (http : HttpRequest textUris),
      request.url.password = some "p" ∧ request.url.fragment = some "z" ∧
      request.timeout = some 5 ∧ request.toHttp textUris = .ok http ∧
      http.uri.val = "http://1.2.3.4:81/y?q" ∧
      Request.ofHttp Url.grammarLibraries http = .ok request.bare ∧
      Request.ofHttp Url.grammarLibraries http =
        .ok { request.bare with url := request.bare.url.withoutUserinfo } := by
  have parsed : ∃ url, Url.parse Url.grammarLibraries "http://u:p@1.2.3.4:81/y?q#z" = .ok url ∧
      url.password = some "p" ∧ url.fragment = some "z" ∧
      ∃ http : HttpRequest textUris,
        { Request.new "GET" url with timeout := some 5 }.toHttp textUris = .ok http ∧
          http.uri.val = "http://1.2.3.4:81/y?q" := ⟨_, rfl, rfl, rfl, _, rfl, rfl⟩
  obtain ⟨url, urlEq, password, fragment, http, converted, text⟩ := parsed
  have readBack := conversions_readBack Url.grammarLibraries_conforms textUris_conforms
  obtain ⟨first, again⟩ := readBack.1 _ http (.parse urlEq) converted
  exact ⟨_, http, password, fragment, rfl, converted, text, first,
    readBack.2 http http _ first again⟩

end Wrest
