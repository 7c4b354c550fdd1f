import Wrest.Base64Encodings
import Wrest.HeaderMapValues
import Wrest.PercentEncodings
import Wrest.ProxyConfiguration
import Wrest.RetryExecution

/-!
# Building requests

A request builder collects header lines as pairs of texts.  An error takes the place of
its URL, and a later call that fails puts its own error there.  Building merges the
client's default headers with the collected ones, adds an `Accept` header, and turns the
userinfo of the URL into an `Authorization` header.

Conversions of caller-given names and values are results of other code, so a
call carries their outcomes.
-/

namespace Wrest

open HeaderMap PercentEncoding

/-- The UTF-8 octets of a text. -/
def utf8Bytes (text : String) : List UInt8 :=
  text.toList.flatMap String.utf8EncodeChar

namespace Error

def builder (source : ErrorSource) : Error := withKind .builder source

end Error

/-- `take_decoded_userinfo`: the decoded userinfo, and the URL without it. -/
def Url.takeDecodedUserinfo (url : Url) :
    Option (List UInt8 × Option (List UInt8)) × Url :=
  if url.username = "" ∧ url.password = none then
    (none, url)
  else
    (some (percentDecode (utf8Bytes url.username),
        url.password.map fun password => percentDecode (utf8Bytes password)),
      { url with username := "", password := none })

/-- The settings of a client that its requests use. -/
structure Client (Uri : Type) where
  defaultHeaders : HeaderMap
  proxyConfig : ProxyConfig
  acceptInvalidCerts : Bool
  httpsOnly : Bool
  totalTimeout : Option Nat
  retryPolicy : Retry.Policy Uri

/-- A fully-built request. -/
structure Request where
  method : String
  url : Url
  headers : HeaderMap
  body : Option Body
  timeout : Option Nat
  version : Version

namespace Request

def new (method : String) (url : Url) : Request where
  method := method
  url := url
  headers := .empty
  body := none
  timeout := none
  version := default

end Request

namespace HeaderName

def accept : HeaderName :=
  ⟨"accept", List.all_eq_true.mp (by decide), by decide, by decide⟩

def authorization : HeaderName :=
  ⟨"authorization", List.all_eq_true.mp (by decide), by decide, by decide⟩

end HeaderName

namespace HeaderValue

/-- `HeaderValue::from_static("*/*")`. -/
def anyMedia : HeaderValue := ⟨[42, 47, 42], List.all_eq_true.mp (by decide)⟩

/-- `HeaderValue::try_from` of a `String`. -/
def ofString (text : String) : Except ErrorSource HeaderValue :=
  match fromBytes (utf8Bytes text) with
  | some value => .ok value
  | none => .error (.foreign "failed to parse header value")

def isVisibleAscii (byte : UInt8) : Bool :=
  (32 ≤ byte.toNat && byte.toNat < 127) || byte.toNat == 9

theorem isValueByte_of_isVisibleAscii {byte : UInt8}
    (visible : isVisibleAscii byte = true) : isValueByte byte = true := by
  simp only [isVisibleAscii, isValueByte, Bool.or_eq_true, Bool.and_eq_true,
    decide_eq_true_eq, bne_iff_ne, beq_iff_eq] at visible ⊢
  omega

/-- `HeaderValue::from_str`, on the octets of the text. -/
def fromVisible (bytes : List UInt8) : Option HeaderValue :=
  if visible : bytes.all isVisibleAscii = true then
    some
      { bytes
        valid := fun byte member =>
          isValueByte_of_isVisibleAscii (List.all_eq_true.mp visible byte member) }
  else
    none

end HeaderValue

/-- `http::Method::from_bytes`: a nonempty token, in either letter case. -/
def isMethod (text : String) : Bool :=
  !text.toList.isEmpty && text.toList.all fun character => isTokenChar (asciiLower character)

structure RequestBuilder (Uri : Type) where
  client : Client Uri
  method : String
  url : Except Error Url
  headers : List (String × String)
  body : Option Body
  timeout : Option Nat

/-- The calls on a builder that add headers. -/
inductive HeaderCall
  | header (name : Except ErrorSource HeaderName) (value : Except ErrorSource HeaderValue)
  | headers (map : HeaderMap)
  | bearerAuth (token : String)
  | basicAuth (username : String) (password : Option String)
  | json (data : Except ErrorSource (List UInt8))
  | form (encoded : Except Error String)

namespace RequestBuilder

variable {Uri : Type}

def new (client : Client Uri) (method : String) (url : Except Error Url) :
    RequestBuilder Uri where
  client := client
  method := method
  url := url
  headers := []
  body := none
  timeout := none

def header (builder : RequestBuilder Uri) (name : Except ErrorSource HeaderName)
    (value : Except ErrorSource HeaderValue) : RequestBuilder Uri :=
  match name with
  | .error source => { builder with url := .error (.builder source) }
  | .ok name =>
    match value with
    | .error source => { builder with url := .error (.builder source) }
    | .ok value =>
      { builder with headers := builder.headers ++ [(name.text, widenLatin1 value.bytes)] }

def addHeaderMap (builder : RequestBuilder Uri) (map : HeaderMap) : RequestBuilder Uri :=
  { builder with headers := builder.headers ++ headerList map }

def bearerAuth (builder : RequestBuilder Uri) (token : String) : RequestBuilder Uri :=
  builder.header (.ok .authorization) (HeaderValue.ofString ("Bearer " ++ token))

/-- The text `username:password`, and its base-64 form behind the scheme. -/
def basicAuth (builder : RequestBuilder Uri) (username : String)
    (password : Option String) : RequestBuilder Uri :=
  let credentials :=
    match password with
    | some password => username ++ ":" ++ password
    | none => username ++ ":"
  let encoded := String.ofList
    ((Base64.encode (utf8Bytes credentials)).map latin1Char)
  builder.header (.ok .authorization) (HeaderValue.ofString ("Basic " ++ encoded))

def json (builder : RequestBuilder Uri) (data : Except ErrorSource (List UInt8)) :
    RequestBuilder Uri :=
  match data with
  | .ok content =>
    { builder with
      headers := builder.headers ++ [("Content-Type", "application/json")]
      body := some { inner := .bytes content } }
  | .error source =>
    { builder with
      url := .error (.builder (.context "JSON serialization failed" source)) }

def form (builder : RequestBuilder Uri) (encoded : Except Error String) :
    RequestBuilder Uri :=
  match encoded with
  | .ok encoded =>
    { builder with
      headers := builder.headers ++
        [("Content-Type", "application/x-www-form-urlencoded")]
      body := some { inner := .bytes (utf8Bytes encoded) } }
  | .error error => { builder with url := .error error }

def call (builder : RequestBuilder Uri) : HeaderCall → RequestBuilder Uri
  | .header name value => builder.header name value
  | .headers map => builder.addHeaderMap map
  | .bearerAuth token => builder.bearerAuth token
  | .basicAuth username password => builder.basicAuth username password
  | .json data => builder.json data
  | .form encoded => builder.form encoded

/-- The default headers whose names no per-request header has. -/
def addDefaults (perRequestNames : List String) (defaults : HeaderMap) : HeaderMap :=
  defaults.iter.foldl
    (fun map occurrence =>
      if perRequestNames.contains occurrence.1.text then map
      else map.append occurrence.1 occurrence.2)
    .empty

/-- The loop over the per-request headers. -/
def appendHeaders : List (String × String) → HeaderMap → Except Error HeaderMap
  | [], map => .ok map
  | (name, value) :: headers, map =>
    match HeaderName.fromText name.toList with
    | none => .error (.builder (.foreign "invalid HTTP header name"))
    | some headerName =>
      match HeaderValue.fromBytes (narrowLatin1 value) with
      | none => .error (.builder (.foreign "failed to parse header value"))
      | some headerValue => appendHeaders headers (map.append headerName headerValue)

def injectAccept (map : HeaderMap) : HeaderMap :=
  if map.containsKey .accept then map else map.insert .accept .anyMedia

/-- The octets `username:password`. -/
def credentialsOf (userinfo : List UInt8 × Option (List UInt8)) : List UInt8 :=
  userinfo.1 ++ [58] ++ userinfo.2.getD []

/-- The octets of `Basic ` and a blank. -/
def basicScheme : List UInt8 := [66, 97, 115, 105, 99, 32]

def injectAuthorization (userinfo : Option (List UInt8 × Option (List UInt8)))
    (map : HeaderMap) : HeaderMap :=
  match userinfo with
  | none => map
  | some userinfo =>
    if map.containsKey .authorization then
      map
    else
      match HeaderValue.fromVisible
          (basicScheme ++ Base64.encode (credentialsOf userinfo)) with
      | some value => map.insert .authorization value
      | none => map

def build (builder : RequestBuilder Uri) : Except Error Request := do
  let url ← builder.url
  let perRequestNames := builder.headers.map fun header => toAsciiLowercase header.1
  let defaults := addDefaults perRequestNames builder.client.defaultHeaders
  let merged ← appendHeaders builder.headers defaults
  let (userinfo, url) := url.takeDecodedUserinfo
  let headers := injectAuthorization userinfo (injectAccept merged)
  if isMethod builder.method then
    .ok
      { method := builder.method
        url
        headers
        body := builder.body
        timeout := builder.timeout
        version := default }
  else
    .error (.builder (.foreign "invalid HTTP method"))

end RequestBuilder

end Wrest
