import Wrest.LittleEndians
import Wrest.WideStrings
import Wrest.AbortTracking
import Wrest.UrlParsing

/-!
# The callback of a request

WinHTTP reports what happens to a request by calling `winhttp_callback` with a status, a
pointer and a length.  What the pointer points to, and in which unit the length counts,
depends on the status.  The callback turns a report into a completion, into stored flags
or into the treatment of a redirect, and the final report releases the context.

The memory behind a pointer is modelled by its bytes, to the end of what may be read, and
a step that would read past it, or use a released context, has no result.
-/

namespace Wrest.Callback

open Win32 Redirect WideString

def WINHTTP_CALLBACK_STATUS_RESOLVING_NAME : Nat := 0x1
def WINHTTP_CALLBACK_STATUS_NAME_RESOLVED : Nat := 0x2
def WINHTTP_CALLBACK_STATUS_CONNECTING_TO_SERVER : Nat := 0x4
def WINHTTP_CALLBACK_STATUS_CONNECTED_TO_SERVER : Nat := 0x8
def WINHTTP_CALLBACK_STATUS_SENDING_REQUEST : Nat := 0x10
def WINHTTP_CALLBACK_STATUS_REQUEST_SENT : Nat := 0x20
def WINHTTP_CALLBACK_STATUS_RECEIVING_RESPONSE : Nat := 0x40
def WINHTTP_CALLBACK_STATUS_RESPONSE_RECEIVED : Nat := 0x80
def WINHTTP_CALLBACK_STATUS_HANDLE_CLOSING : Nat := 0x800
def WINHTTP_CALLBACK_STATUS_REDIRECT : Nat := 0x4000
def WINHTTP_CALLBACK_STATUS_SECURE_FAILURE : Nat := 0x10000
def WINHTTP_CALLBACK_STATUS_HEADERS_AVAILABLE : Nat := 0x20000
def WINHTTP_CALLBACK_STATUS_READ_COMPLETE : Nat := 0x80000
def WINHTTP_CALLBACK_STATUS_WRITE_COMPLETE : Nat := 0x100000
def WINHTTP_CALLBACK_STATUS_REQUEST_ERROR : Nat := 0x200000
def WINHTTP_CALLBACK_STATUS_SENDREQUEST_COMPLETE : Nat := 0x400000

def ERROR_WINHTTP_INTERNAL_ERROR : Nat := 12004

/-- The size of a `u32`. -/
def dwordSize : Nat := 4

/-- The size of `WINHTTP_ASYNC_RESULT`, and the offset of its `dwError` behind the
pointer-sized `dwResult`. -/
def asyncResultSize : Nat := 16

def dwErrorOffset : Nat := 8

/-- A null pointer, or the bytes behind the pointer. -/
abbrev Info : Type := Option (List UInt8)

/-- One call of the callback, and how the removals of headers turn out that it asks
for. -/
structure Delivery where
  context : Nat
  status : Nat
  info : Info
  infoLength : Nat
  removal : RemoveHeader

/-- Read a `u32` behind a pointer. -/
def readU32 (memory : List UInt8) (offset : Nat) : Option Nat :=
  if offset + dwordSize ≤ memory.length then
    some (LittleEndian.decode ((memory.drop offset).take dwordSize))
  else
    none

/-- Read a `u32` of a payload of the given size, unless the pointer is null or the payload
is too short. -/
def payloadU32 (info : Info) (infoLength size offset fallback : Nat) : Option Nat :=
  match info with
  | some memory => if size ≤ infoLength then readU32 memory offset else some fallback
  | none => some fallback

/-- The code units in memory. -/
def units : List UInt8 → List UInt16
  | low :: high :: rest => UInt16.ofNat (LittleEndian.decode [low, high]) :: units rest
  | _ => []

/-- A wide pointer that may be used with the given count. -/
def widePointer (info : Info) (charCount : Option Nat) : Option WidePointer :=
  match info, charCount with
  | none, _ => some none
  | some memory, some count =>
    if count ≤ (units memory).length then some (some (units memory)) else none
  | some memory, none =>
    if 0 ∈ units memory then some (some (units memory)) else none

/-- A traced event of a verbose connection. -/
inductive VerboseEvent
  | redirect (url : String)
  | resolvingName (name : String)
  | nameResolved (name : String)
  | connectingToServer (ip : String)
  | connectedToServer (ip : String)
  | sendingRequest
  | requestSent (bytes : Nat)
  | receivingResponse
  | responseReceived (bytes : Nat)
deriving DecidableEq, Repr

def readText (info : Info) : Option String :=
  (widePointer info none).map fun pointer => wideToStringLossy pointer none

def logVerboseStatus (status : Nat) (info : Info) (infoLength : Nat) :
    Option (List VerboseEvent) :=
  if status = WINHTTP_CALLBACK_STATUS_RESOLVING_NAME then
    (readText info).map fun name => [.resolvingName name]
  else if status = WINHTTP_CALLBACK_STATUS_NAME_RESOLVED then
    (readText info).map fun name => [.nameResolved name]
  else if status = WINHTTP_CALLBACK_STATUS_CONNECTING_TO_SERVER then
    (readText info).map fun ip => [.connectingToServer ip]
  else if status = WINHTTP_CALLBACK_STATUS_CONNECTED_TO_SERVER then
    (readText info).map fun ip => [.connectedToServer ip]
  else if status = WINHTTP_CALLBACK_STATUS_SENDING_REQUEST then
    some [.sendingRequest]
  else if status = WINHTTP_CALLBACK_STATUS_REQUEST_SENT then
    (payloadU32 info infoLength dwordSize 0 0).map fun bytes => [.requestSent bytes]
  else if status = WINHTTP_CALLBACK_STATUS_RECEIVING_RESPONSE then
    some [.receivingResponse]
  else if status = WINHTTP_CALLBACK_STATUS_RESPONSE_RECEIVED then
    (payloadU32 info infoLength dwordSize 0 0).map fun bytes => [.responseReceived bytes]
  else
    some []

/-- The state shared with the callbacks of one request, with the headers on its handle.
`address` is the registered context, which holds a reference to the state while it is
`retained`; `strong` counts all references, and `closes` the calls that close the handle. -/
structure CallbackState where
  address : Nat
  verbose : Bool
  request : RequestState
  headers : List WireHeader
  retained : Bool
  strong : Nat
  closes : Nat
  log : List VerboseEvent

namespace CallbackState

def signals (state : CallbackState) (event : CallbackEvent) : CallbackState :=
  { state with request := { state.request with signal := state.request.signal.signal event } }

def storesFlags (state : CallbackState) (flags : Nat) : CallbackState :=
  { state with request := { state.request with tlsFailureFlags := flags } }

def logs (state : CallbackState) (events : List VerboseEvent) : CallbackState :=
  if state.verbose then { state with log := state.log ++ events } else state

/-- A target is traced once it is parsed. -/
def logsTarget (state : CallbackState) : RedirectTarget → CallbackState
  | .valid parsed => state.logs [.redirect parsed.serialized]
  | .invalidUtf16 | .unparsable => state

/-- The state after the treatment of a redirect.  An abort closes the handle if it is the
first one. -/
def treated (state : CallbackState) (next : RedirectState) : CallbackState :=
  { state with
    request := next.request
    headers := next.headers
    closes :=
      if next.request.isAborted && !state.request.isAborted then state.closes + 1
      else state.closes }

def redirects (state : CallbackState) (callback : RedirectCallback) : CallbackState :=
  state.treated (redirectCallback { request := state.request, headers := state.headers } callback)

/-- The final callback takes a reference of its own, releases that of the context, and
drops its own after it has marked the state. -/
def finishes (state : CallbackState) : CallbackState :=
  let cloned := { state with strong := state.strong + 1 }
  let released := { cloned with retained := false, strong := cloned.strong - 1 }
  let marked := { released with request := released.request.markFinalCallbackSeen }
  { marked with strong := marked.strong - 1 }

end CallbackState

/-- What the callback takes the target of a redirect to be. -/
def redirectTarget (libraries : UrlLibraries) (pointer : WidePointer) (charCount : Nat) :
    RedirectTarget :=
  match wideToString pointer (some charCount) with
  | .error _ => .invalidUtf16
  | .ok newUrl =>
    match Url.parse libraries newUrl with
    | .error _ => .unparsable
    | .ok parsed => .valid parsed

/-- The arms of the callback, from the status on. -/
def dispatch (libraries : UrlLibraries) (state : CallbackState) (delivery : Delivery) :
    Option CallbackState :=
  if delivery.status = WINHTTP_CALLBACK_STATUS_SENDREQUEST_COMPLETE then
    some (state.signals .complete)
  else if delivery.status = WINHTTP_CALLBACK_STATUS_HEADERS_AVAILABLE then
    some (state.signals .complete)
  else if delivery.status = WINHTTP_CALLBACK_STATUS_READ_COMPLETE then
    some (state.signals (.readComplete delivery.infoLength))
  else if delivery.status = WINHTTP_CALLBACK_STATUS_WRITE_COMPLETE then
    (payloadU32 delivery.info delivery.infoLength dwordSize 0 0).map fun bytes =>
      state.signals (.writeComplete bytes)
  else if delivery.status = WINHTTP_CALLBACK_STATUS_REQUEST_ERROR then
    (payloadU32 delivery.info delivery.infoLength asyncResultSize dwErrorOffset
      ERROR_WINHTTP_INTERNAL_ERROR).map fun code => state.signals (.win32Error code)
  else if delivery.status = WINHTTP_CALLBACK_STATUS_SECURE_FAILURE then
    -- The error itself comes with the `REQUEST_ERROR` that follows.
    (payloadU32 delivery.info delivery.infoLength dwordSize 0 0).map state.storesFlags
  else if delivery.status = WINHTTP_CALLBACK_STATUS_REDIRECT then
    (widePointer delivery.info (some delivery.infoLength)).map fun pointer =>
      let target := redirectTarget libraries pointer delivery.infoLength
      (state.logsTarget target).redirects { target, removal := delivery.removal }
  else
    (if state.verbose then
      logVerboseStatus delivery.status delivery.info delivery.infoLength
    else
      some []).map state.logs

/-- `winhttp_callback_body` behind the panic barrier of `winhttp_callback`. -/
def winhttpCallback (libraries : UrlLibraries) (state : CallbackState)
    (delivery : Delivery) : Option CallbackState :=
  if delivery.context = 0 then
    some state
  else if state.retained = false ∨ delivery.context ≠ state.address then
    none
  else if delivery.status = WINHTTP_CALLBACK_STATUS_HANDLE_CLOSING then
    some state.finishes
  else
    match state.request.enterCallback with
    -- The counter overflows: the panic is swallowed, and nothing was done.
    | none => some state
    | some entered =>
      (dispatch libraries { state with request := entered } delivery).map fun next =>
        { next with request := next.request.leaveCallback }

def winhttpCallbacks (libraries : UrlLibraries) (state : CallbackState)
    (deliveries : List Delivery) : Option CallbackState :=
  deliveries.foldlM (winhttpCallback libraries) state

section Guards

variable {libraries : UrlLibraries}

theorem abortFromCallback_closeState (request : RequestState) (closeState : RequestCloseState)
    (reason : Error) :
    ({ request with closeState } : RequestState).abortFromCallback reason =
      { request.abortFromCallback reason with closeState } := by
  obtain ⟨signal, flags, closeBefore, readBuffer, sendBody, origin, abort⟩ := request
  cases abort <;> rfl

/-- The treatment of a redirect neither reads nor changes the close state. -/
theorem redirectCallback_closeState (state : RedirectState) (closeState : RequestCloseState)
    (callback : RedirectCallback) :
    redirectCallback { state with request := { state.request with closeState } } callback =
      { redirectCallback state callback with
        request := { (redirectCallback state callback).request with closeState } } := by
  unfold redirectCallback
  cases callback.target.parsed with
  | error reason => simp only [abortFromCallback_closeState]
  | ok url =>
    simp only [stripSensitiveHeaders]
    by_cases same : state.request.currentOrigin = Origin.fromUrl url
    · simp only [if_pos same]
    · simp only [if_neg same]
      rcases removeHeaders callback.removal sensitiveHeadersOnCrossOrigin state.headers with
        ⟨⟨name, error⟩ | _, headers⟩
      · simp only [abortFromCallback_closeState]
      · rfl

theorem closeState_redirectCallback (state : RedirectState) (callback : RedirectCallback) :
    (redirectCallback state callback).request.closeState = state.request.closeState :=
  congrArg (fun next => next.request.closeState)
    (redirectCallback_closeState state state.request.closeState callback)

/-- The state while one more callback is active. -/
def CallbackState.entered (state : CallbackState) : CallbackState :=
  { state with request := { state.request with closeState :=
    { state.request.closeState with
      activeCallbacks := state.request.closeState.activeCallbacks + 1 } } }

theorem leaveCallback_entered (state : CallbackState) :
    { state.entered with request := state.entered.request.leaveCallback } = state := by
  simp [CallbackState.entered, RequestState.leaveCallback]

theorem redirects_entered (state : CallbackState) (callback : RedirectCallback) :
    state.entered.redirects callback = (state.redirects callback).entered := by
  have after := redirectCallback_closeState
    { request := state.request, headers := state.headers }
    state.entered.request.closeState callback
  have kept := closeState_redirectCallback
    { request := state.request, headers := state.headers } callback
  have entered : state.entered.redirects callback = state.entered.treated
      { redirectCallback { request := state.request, headers := state.headers } callback with
        request := { (redirectCallback { request := state.request, headers := state.headers }
          callback).request with closeState := state.entered.request.closeState } } :=
    congrArg state.entered.treated after
  rw [entered]
  simp only [CallbackState.entered, CallbackState.redirects, CallbackState.treated, kept]
  rfl

theorem logs_entered (state : CallbackState) (events : List VerboseEvent) :
    state.entered.logs events = (state.logs events).entered := by
  obtain ⟨address, verbose, request, headers, retained, strong, closes, log⟩ := state
  cases verbose <;> rfl

theorem logsTarget_entered (state : CallbackState) (target : RedirectTarget) :
    state.entered.logsTarget target = (state.logsTarget target).entered := by
  cases target with
  | invalidUtf16 | unparsable => rfl
  | valid parsed => exact logs_entered state _

theorem signals_entered (state : CallbackState) (event : CallbackEvent) :
    state.entered.signals event = (state.signals event).entered :=
  rfl

theorem storesFlags_entered (state : CallbackState) :
    state.entered.storesFlags = fun flags => (state.storesFlags flags).entered :=
  rfl

/-- The arms of the callback neither read nor change the close state. -/
theorem dispatch_entered (state : CallbackState) (delivery : Delivery) :
    dispatch libraries state.entered delivery =
      (dispatch libraries state delivery).map CallbackState.entered := by
  have verbose : state.entered.verbose = state.verbose := rfl
  have logs : state.entered.logs = fun events => (state.logs events).entered :=
    funext (logs_entered state)
  simp only [dispatch, verbose, logs, apply_ite (Option.map CallbackState.entered),
    Option.map_some, Option.map_map, Function.comp_def, signals_entered, storesFlags_entered,
    logsTarget_entered, redirects_entered]

/-- A callback before the final one is its arm, with the counter as it was. -/
theorem winhttpCallback_eq_dispatch {state : CallbackState} {delivery : Delivery}
    (retained : state.retained = true) (registered : delivery.context = state.address)
    (address : state.address ≠ 0)
    (early : delivery.status ≠ WINHTTP_CALLBACK_STATUS_HANDLE_CLOSING)
    (room : state.request.closeState.activeCallbacks < usizeMax) :
    winhttpCallback libraries state delivery = dispatch libraries state delivery := by
  have context : delivery.context ≠ 0 := registered ▸ address
  have entered : state.request.enterCallback = some state.entered.request := if_pos room
  have inForce : ¬(state.retained = false ∨ delivery.context ≠ state.address) := by
    simp [retained, registered]
  simp only [winhttpCallback, if_neg context, if_neg inForce, if_neg early, entered]
  have arms : dispatch libraries { state with request := state.entered.request } delivery =
      (dispatch libraries state delivery).map CallbackState.entered :=
    dispatch_entered state delivery
  rw [arms, Option.map_map]
  exact (congrArg (Option.map · _) (funext leaveCallback_entered)).trans Option.map_id'

end Guards

end Wrest.Callback
