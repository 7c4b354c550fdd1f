import Wrest.RequestCalls
import Wrest.RequestBodies
import Wrest.ProxyConfiguration
import Wrest.ResponseHeaders
import Wrest.WireHeaders

/-!
# Executing a request

`execute_request` as a program over the interface of a request: prepare the
handle, send the request and its body on one of three paths, receive the
response, and query its head.  A request without a body that was redirected to
HTTPS may be sent once more after a client-certificate challenge.

`Url::parse` is a parameter.
-/

namespace Wrest

open Interaction RequestStep Win32

/-- The arguments of `execute_request`. -/
structure RequestParts where
  url : Url
  method : String
  headers : List (String × String)
  body : Option Body
  proxyConfig : ProxyConfig
  acceptInvalidCerts : Bool

/-- The flags that ignore an unknown authority and a wrong date, name or
usage. -/
def ignoredCertificateFlags : Nat :=
  0x100 ||| 0x2000 ||| 0x1000 ||| 0x200

def WINHTTP_IGNORE_REQUEST_TOTAL_LENGTH : Nat := 0

def largeBodyThreshold : Nat := u32Max

def largeBodyChunkMax : Nat := u32Max

/-- `winhttp_add_request_header`. -/
def addRequestHeader (url : Url) (line : String) : RequestStep Unit :=
  if utf16Length line ≤ u32Max then do
    checkWin32 url (← ask (.addRequestHeaders line))
  else
    fail ((Error.request (.message
      ("header line too long (" ++ toString (utf16Length line) ++ " chars)"))).withUrl url)

/-- The loop over the custom headers. -/
def addHeaders (url : Url) : List (String × String) → RequestStep Unit
  | [] => pure ()
  | (name, value) :: headers => do
    addRequestHeader url (headerLine name value)
    addHeaders url headers

def setProxy (url : Url) : ProxyAction → RequestStep Unit
  | .direct => do checkWin32 url (← ask .setProxyDirect)
  | .named proxyUrl creds => do
    checkWin32 url (← ask (.setProxyNamed proxyUrl))
    match creds with
    | some (username, password) =>
      checkWin32 url (← ask (.setProxyCredentials username password))
    | none => pure ()
  | .automatic => pure ()

/-- Where the body is and how it is sent. -/
structure PreparedBody where
  pointer : Nat
  length : Nat
  hasBytes : Bool
  stream : Option (List (Except ErrorSource (List UInt8)))

/-- In-memory bodies are kept in the shared state. -/
def storeBody : Option Body → RequestStep PreparedBody
  | some { inner := .bytes content } => do
    let pointer ← ask (.storeSendBody content)
    if content.isEmpty then
      pure { pointer := 0, length := 0, hasBytes := false, stream := none }
    else
      pure { pointer, length := content.length, hasBytes := true, stream := none }
  | some { inner := .stream items } =>
    pure { pointer := 0, length := 0, hasBytes := false, stream := some items }
  | none => pure { pointer := 0, length := 0, hasBytes := false, stream := none }

/-- The connection and the request handle, with the callback's context. -/
def openHandle (parts : RequestParts) : RequestStep PreparedBody := do
  let url := parts.url
  let body ← storeBody parts.body
  checkWin32 url (← ask (.connect url.host url.port))
  checkWin32 url (← ask (.openRequest parts.method url.pathAndQuery url.isHttps))
  checkWin32 url (← ask .setContextValue)
  pure body

def setCertificateOptions (parts : RequestParts) : RequestStep Unit := do
  let url := parts.url
  if url.isHttps then
    checkWin32 url (← ask .setNoClientCert)
  if parts.acceptInvalidCerts then
    checkWin32 url (← ask (.setSecurityFlags ignoredCertificateFlags))

/-- The request handle with its options, before any header is added. -/
def configureRequest (parts : RequestParts) : RequestStep PreparedBody := do
  let body ← openHandle parts
  setProxy parts.url (parts.proxyConfig.resolve parts.url.host parts.url.isHttps)
  setCertificateOptions parts
  pure body

/-- Everything before the request is sent; the header loop comes last. -/
def prepareRequest (parts : RequestParts) : RequestStep PreparedBody := do
  let body ← configureRequest parts
  addHeaders parts.url parts.headers
  pure body

def sendAndComplete (url : Url) (body : Option Nat) (bodyLength totalLength : Nat) :
    RequestStep Unit := do
  let event ← awaitWin32 do
    checkWin32 url (← ask (.sendRequest body bodyLength totalLength))
  event.intoResult url

def writeZeroText : String :=
  "WinHTTP completed a non-empty write without writing data"

def checkedSub (minuend subtrahend : Nat) : Option Nat :=
  if subtrahend ≤ minuend then some (minuend - subtrahend) else none

def checkedAdd (left right : Nat) : Option Nat :=
  if left + right ≤ usizeMax then some (left + right) else none

/-- `advance_write_offset`. -/
def advanceWriteOffset (offset totalLength written : Nat) (url : Url) :
    Except Error Nat :=
  match checkedSub totalLength offset with
  | none =>
    .error ((Error.body (.message
      "WinHTTP write offset exceeds buffer length")).withUrl url)
  | some remaining =>
    if written = 0 then
      .error ((Error.body (.writeZero writeZeroText)).withUrl url)
    else if written > remaining then
      .error ((Error.body (.message
        ("WinHTTP reported " ++ toString written ++ " bytes written for a " ++
          toString remaining ++ "-byte buffer"))).withUrl url)
    else
      match checkedAdd offset written with
      | none =>
        .error ((Error.body (.message "WinHTTP write offset overflow")).withUrl url)
      | some next => .ok next

theorem advanceWriteOffset_eq_ok {offset totalLength written next : Nat} {url : Url}
    (advanced : advanceWriteOffset offset totalLength written url = .ok next) :
    next = offset + written ∧ 0 < written ∧ next ≤ totalLength := by
  unfold advanceWriteOffset at advanced
  cases remaining : checkedSub totalLength offset with
  | none =>
    rw [remaining] at advanced
    cases advanced
  | some rest =>
    rw [remaining] at advanced
    simp only [checkedSub, Option.ite_none_right_eq_some, Option.some.injEq] at remaining
    by_cases empty : written = 0
    · simp [empty] at advanced
    · by_cases beyond : written > rest
      · simp [empty, beyond] at advanced
      · cases sum : checkedAdd offset written with
        | none => simp [empty, beyond, sum] at advanced
        | some total =>
          simp only [checkedAdd, Option.ite_none_right_eq_some,
            Option.some.injEq] at sum
          simp only [empty, beyond, checkedAdd, sum.1, if_true, if_false] at advanced
          cases advanced
          omega

/-- Progress within the buffer advances the offset. -/
theorem advanceWriteOffset_of_within {offset length count : Nat} (url : Url)
    (positive : 0 < count) (within : count ≤ length - offset) (before : offset ≤ length)
    (fits : length ≤ usizeMax) :
    advanceWriteOffset offset length count url = .ok (offset + count) := by
  have remaining : checkedSub length offset = some (length - offset) := if_pos before
  have sum : checkedAdd offset count = some (offset + count) := if_pos (by omega)
  simp only [advanceWriteOffset, remaining, sum]
  rw [if_neg (by omega), if_neg (by omega)]

def withContext {α : Type} (url : Url) (step : RequestStep α) : RequestStep α :=
  Program.bind step fun result => .pure (urlContext url result)

/-- `write_data_with`, from an offset on. -/
def writeDataWith (write : Nat → Nat → RequestStep Nat) (pointer length : Nat)
    (url : Url) (offset : Nat) : RequestStep Unit :=
  if offset < length then
    match checkedSub length offset with
    | none =>
      fail ((Error.body (.message
        "WinHTTP write offset exceeds buffer length")).withUrl url)
    | some remaining =>
      match checkedAdd pointer offset with
      | none =>
        fail ((Error.body (.message "WinHTTP write pointer overflow")).withUrl url)
      | some position =>
        if remaining ≤ u32Max then do
          let written ← withContext url (write position remaining)
          match _advanced : advanceWriteOffset offset length written url with
          | .ok next => writeDataWith write pointer length url next
          | .error error => fail error
        else
          fail ((Error.body (.message "WinHTTP write buffer exceeds 4 GiB")).withUrl url)
  else
    pure ()
termination_by length - offset
decreasing_by
  have facts := advanceWriteOffset_eq_ok _advanced
  omega

/-- One write of `write_data`. -/
def writeOnce (url : Url) (pointer length : Nat) : RequestStep Nat := do
  let event ← awaitWin32 do
    checkWin32 url (← ask (.writeData pointer length))
  ofResult (event.intoWriteComplete url)

def writeData (url : Url) (pointer length : Nat) : RequestStep Unit :=
  writeDataWith (writeOnce url) pointer length url 0

def asciiBytes (text : String) : List UInt8 :=
  text.toList.map fun character => UInt8.ofNat character.toNat

/-- The frame of one chunk: its size in hexadecimal, the data, and line ends. -/
def chunkFrame (chunk : List UInt8) : List UInt8 :=
  asciiBytes (String.ofList (Nat.toDigits 16 chunk.length) ++ "\r\n") ++ chunk ++
    asciiBytes "\r\n"

/-- Keep the bytes in the shared state and write them. -/
def storeAndWrite (url : Url) (bytes : List UInt8) : RequestStep Unit := do
  let pointer ← ask (.storeSendBody bytes)
  writeData url pointer bytes.length

/-- The loop over a streamed body. -/
def writeStream (url : Url) :
    List (Except ErrorSource (List UInt8)) → RequestStep Unit
  | [] => pure ()
  | .error source :: _ =>
    fail ((Error.request (.context "stream body error" source)).withUrl url)
  | .ok chunk :: items =>
    if chunk.isEmpty then
      writeStream url items
    else do
      storeAndWrite url (chunkFrame chunk)
      writeStream url items

/-- The loop over a large in-memory body. -/
def writeLargeBody (url : Url) (pointer length offset : Nat) : RequestStep Unit :=
  if offset < length then do
    let chunkSize := min (length - offset) largeBodyChunkMax
    writeData url (pointer + offset) chunkSize
    writeLargeBody url pointer length (offset + chunkSize)
  else
    pure ()
termination_by length - offset
decreasing_by
  unfold largeBodyChunkMax u32Max UInt32.size
  omega

structure CertlessRedirectRetry where
  replaySafe : Bool
  attempted : Bool
deriving DecidableEq, Repr

namespace CertlessRedirectRetry

def new (url : Url) (method : String) (body : Option Body) :
    CertlessRedirectRetry where
  replaySafe := !url.isHttps && method == "GET" && body.isNone
  attempted := false

def isClientCertNeeded (error : Error) : Bool :=
  error.isConnect && error.source.any fun source =>
    source.rawOsError == some ERROR_WINHTTP_CLIENT_AUTH_CERT_NEEDED

/-- A retry that has now been attempted, for the first time. -/
abbrev Attempted (retry : CertlessRedirectRetry) : Type :=
  { next : CertlessRedirectRetry // next.attempted = true ∧ retry.attempted = false }

/-- `on_error`: send once more, or return the error. -/
def onError (parse : String → Option Url) (retry : CertlessRedirectRetry)
    (error : Error) (url : Url) : RequestStep retry.Attempted :=
  if resend : retry.replaySafe = true ∧ retry.attempted = false ∧
      isClientCertNeeded error = true then do
    let aborted : Bool ← ask .isAborted
    if aborted then
      fail error
    else
      let current ← ask .queryUrl
      if (current.bind parse).any Url.isHttps then
        checkWin32 url (← ask .setNoClientCert)
        sendAndComplete url none 0 0
        pure ⟨{ retry with attempted := true }, rfl, resend.2.1⟩
      else
        fail error
  else
    fail error

end CertlessRedirectRetry

/-- Send the request with its body, on the path that the body asks for. -/
def sendBody (parse : String → Option Url) (url : Url) (body : PreparedBody)
    (retry : CertlessRedirectRetry) : RequestStep CertlessRedirectRetry :=
  match body.stream with
  | some items => do
    addRequestHeader url "Transfer-Encoding: chunked\r\n"
    sendAndComplete url none 0 WINHTTP_IGNORE_REQUEST_TOTAL_LENGTH
    writeStream url items
    storeAndWrite url (asciiBytes "0\r\n\r\n")
    pure retry
  | none =>
    if body.length ≤ largeBodyThreshold then do
      let pointer := if body.length > 0 then some body.pointer else none
      match ← outcome (sendAndComplete url pointer body.length body.length) with
      | .ok () => pure retry
      | .error error => do
        let next ← retry.onError parse error url
        pure next.val
    else do
      addRequestHeader url ("Content-Length: " ++ toString body.length ++ "\r\n")
      sendAndComplete url none 0 WINHTTP_IGNORE_REQUEST_TOTAL_LENGTH
      if body.hasBytes then
        writeLargeBody url body.pointer body.length 0
      pure retry

def receiveAndComplete (url : Url) : RequestStep Unit := do
  let event ← awaitWin32 do
    checkWin32 url (← ask .receiveResponse)
  event.intoResult url

/-- The loop that receives the response. -/
def receiveResponse (parse : String → Option Url) (url : Url)
    (retry : CertlessRedirectRetry) : RequestStep Unit := do
  match ← outcome (receiveAndComplete url) with
  | .ok () => pure ()
  | .error error => do
    let next ← retry.onError parse error url
    receiveResponse parse url next.val
termination_by if retry.attempted then 0 else 1
decreasing_by
  simp [next.property.1, next.property.2]

/-- `resolve_version`. -/
def resolveVersion (protocolFlags : Option Nat) (versionText : Option String) :
    Version :=
  let flags := protocolFlags.getD 0
  if flags &&& 0x2 ≠ 0 then
    .http3
  else if flags &&& 0x1 ≠ 0 then
    .http2
  else if versionText = some "HTTP/1.0" then
    .http10
  else
    .http11

/-- `parse_winhttp_status_code`. -/
def parseWinHttpStatusCode (statusCode : Nat) (url : Url) : Except Error Nat :=
  let text := "invalid status code: " ++ toString statusCode
  if statusCode < UInt16.size then
    if 100 ≤ statusCode ∧ statusCode < 1000 then
      .ok statusCode
    else
      .error ((Error.request
        (.context text (.foreign "invalid status code"))).withUrl url)
  else
    .error ((Error.request (.message text)).withUrl url)

structure RawResponse where
  status : Nat
  version : Version
  url : Url
  headers : HeaderMap

def queryResponse (parse : String → Option Url) (url : Url) :
    RequestStep RawResponse := do
  let _ ← ask .takeSendBody
  let statusCode ← checkWin32 url (← ask .queryStatusCode)
  let status ← ofResult (parseWinHttpStatusCode statusCode url)
  let protocolFlags ← ask .queryProtocolUsed
  let versionText ← ask .queryVersion
  let rawHeaders ← checkWin32 url (← ask .queryRawHeaders)
  let current ← ask .queryUrl
  pure
    { status
      version := resolveVersion protocolFlags versionText
      url := (current.bind parse).getD url
      headers := parseRawHeaders rawHeaders }

/-- `execute_request`. -/
def executeRequest (parse : String → Option Url) (parts : RequestParts) :
    RequestStep RawResponse := do
  let body ← prepareRequest parts
  let retry ← sendBody parse parts.url body
    (.new parts.url parts.method parts.body)
  receiveResponse parse parts.url retry
  queryResponse parse parts.url

end Wrest
