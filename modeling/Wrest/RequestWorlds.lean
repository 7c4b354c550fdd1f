import Wrest.RequestExecution
import Wrest.RedirectOrigins

/-!
# WinHTTP and the callback around a request

The other side of the interface of a request: the state of WinHTTP's request
handle together with the state shared with the callback, the callbacks that may
run between two calls of the executing future, and the replies that a call may
receive.

The assumptions about WinHTTP are these.  Redirect callbacks run only after a
send has been started.  A callback that aborts first latches its reason and then
closes the handle.  Once it has done so, calls on the handle fail, the operation
then pending completes with a cancellation error, and no other completion is
delivered.  Header lines are added as documented.  A
request uses the proxy of its session unless a proxy was set on the request.
-/

namespace Wrest

open Interaction Win32 Redirect

/-- `WinHttpSession::open`: the access type and the proxy of the session, which
carries no credentials. -/
def openSession : ProxyAction → ProxyAction
  | .direct => .direct
  | .named url _ => .named url none
  | .automatic => .automatic

/-- The asynchronous operation of a request handle.  A send or a receive whose
completion was an error stays `failed` until the error has been converted. -/
inductive Operation
  | idle
  | transferring
  | writing
  | failed
deriving DecidableEq, Repr

namespace Operation

def isPending : Operation → Bool
  | .transferring | .writing => true
  | .idle | .failed => false

def completed : Operation → CallbackEvent → Operation
  | .transferring, .win32Error _ => .failed
  | _, _ => .idle

end Operation

/-- The state around one request.  `closing` is a callback that has latched an
abort and has yet to close the handle.  `sent` lists the proxy action in force at
each send, `firstReason` is the reason of the first abort, and `failedAborted`
records that the request was aborted while an operation was `failed`. -/
structure RequestWorld where
  request : RequestState
  closing : Bool
  closed : Bool
  sendStarted : Bool
  operation : Operation
  headers : List WireHeader
  sessionProxy : ProxyAction
  requestProxy : Option ProxyAction
  proxyCredentials : Option ProxyCredentials
  sent : List ProxyAction
  firstReason : Option Error
  failedAborted : Bool

inductive CallbackStep
  | completes (event : CallbackEvent)
  | secureFailure (flags : Nat)
  | redirects (callback : RedirectCallback)
  | closes

namespace CallbackAbort

def reason : CallbackAbort → Option Error
  | .notAborted => none
  | .aborted reason => reason

end CallbackAbort

namespace RequestWorld

/-- The world of a request of a client whose session uses `session`. -/
def initial (parts : RequestParts) (session : ProxyAction) : RequestWorld where
  request := .new (.fromUrl parts.url)
  closing := false
  closed := false
  sendStarted := false
  operation := .idle
  headers := []
  sessionProxy := openSession session
  requestProxy := none
  proxyCredentials := none
  sent := []
  firstReason := none
  failedAborted := false

/-- The proxy action in force: the request's own one wins over the session's. -/
def proxyInForce (world : RequestWorld) : ProxyAction :=
  match world.requestProxy.getD world.sessionProxy with
  | .named url _ => .named url world.proxyCredentials
  | other => other

/-- A redirect callback, which may latch an abort. -/
def redirect (world : RequestWorld) (callback : RedirectCallback) : RequestWorld :=
  let next := redirectCallback { request := world.request, headers := world.headers }
    callback
  if next.request.isAborted && !world.request.isAborted then
    { world with
      request := next.request
      headers := next.headers
      closing := true
      firstReason := next.request.callbackAbort.reason
      failedAborted := world.operation == .failed }
  else
    { world with request := next.request, headers := next.headers }

def interfere (world : RequestWorld) : CallbackStep → Option RequestWorld
  | .completes event =>
    if world.operation.isPending = true ∧
        (world.closed = true →
          event = .win32Error ERROR_WINHTTP_OPERATION_CANCELLED) then
      some { world with
        request := { world.request with signal := world.request.signal.signal event }
        operation := world.operation.completed event
        failedAborted := world.failedAborted ||
          (world.request.isAborted && world.operation.completed event == .failed) }
    else
      none
  | .secureFailure flags =>
    if world.operation.isPending then
      some { world with request := { world.request with tlsFailureFlags := flags } }
    else
      none
  | .redirects callback =>
    if world.sendStarted then some (world.redirect callback) else none
  | .closes =>
    if world.closing then
      some { world with closing := false, closed := true }
    else
      none

/-- A call on the request handle fails and changes nothing, or succeeds on an
open handle with the given effect. -/
def Acts {α : Type} (world : RequestWorld) (effect : RequestWorld → RequestWorld)
    (reply : Except Nat α) (next : RequestWorld) : Prop :=
  match reply with
  | .error _ => next = world
  | .ok _ => world.closed = false ∧ next = effect world

theorem Acts.cases {α : Type} {world next : RequestWorld}
    {effect : RequestWorld → RequestWorld} {reply : Except Nat α}
    (acts : world.Acts effect reply next) :
    next = world ∨ world.closed = false ∧ next = effect world := by
  cases reply with
  | error code => exact .inl acts
  | ok value => exact .inr acts

/-- The replies that a call may receive. -/
def Answers (world : RequestWorld) :
    (call : RequestCall) → call.Reply → RequestWorld → Prop
  | .connect _ _, _, next => next = world
  | .openRequest _ _ _, _, next => next = world
  | .setContextValue, reply, next => world.Acts id reply next
  | .setProxyDirect, reply, next =>
    world.Acts (fun world => { world with requestProxy := some .direct }) reply next
  | .setProxyNamed url, reply, next =>
    world.Acts (fun world => { world with requestProxy := some (.named url none) })
      reply next
  | .setProxyCredentials username password, reply, next =>
    world.Acts
      (fun world => { world with proxyCredentials := some (username, password) })
      reply next
  | .setNoClientCert, reply, next => world.Acts id reply next
  | .setSecurityFlags _, reply, next => world.Acts id reply next
  | .addRequestHeaders line, reply, next =>
    match reply with
    | .error _ => next = world
    | .ok _ => world.closed = false ∧ ∃ headers,
      winHttpAddRequestHeaders line .addReplace world.headers = .ok headers ∧
        next = { world with headers }
  | .storeSendBody body, (pointer : Nat), next =>
    pointer + body.length ≤ usizeMax ∧
      next = { world with request := { world.request with sendBody := some body } }
  | .takeSendBody, _, next =>
    next = { world with request := { world.request with sendBody := none } }
  | .listen, listener, next =>
    listener = world.request.signal.nextListener ∧
      next = { world with
        request := { world.request with signal := world.request.signal.listen } }
  | .sendRequest _ _ _, reply, next =>
    world.Acts
      (fun world => { world with
        sendStarted := true
        operation := .transferring
        sent := world.sent ++ [world.proxyInForce] })
      reply next
  | .writeData _ _, reply, next =>
    world.Acts (fun world => { world with operation := .writing }) reply next
  | .receiveResponse, reply, next =>
    world.Acts (fun world => { world with operation := .transferring }) reply next
  | .poll listener, reply, next =>
    world.request.signal.poll listener = some reply ∧ next = world
  | .takeAbortReason, reply, next =>
    reply = world.request.callbackAbort.takeReason.1 ∧
      next = { world with
        request := { world.request with
          callbackAbort := world.request.callbackAbort.takeReason.2 }
        operation := .idle }
  | .isAborted, reply, next => reply = world.request.isAborted ∧ next = world
  | .tlsFailureFlags, reply, next =>
    reply = world.request.tlsFailureFlags ∧ next = world
  | .queryUrl, reply, next => (world.closed = true → reply = none) ∧ next = world
  | .queryStatusCode, reply, next => world.Acts id reply next
  | .queryProtocolUsed, reply, next =>
    (world.closed = true → reply = none) ∧ next = world
  | .queryVersion, reply, next => (world.closed = true → reply = none) ∧ next = world
  | .queryRawHeaders, reply, next => world.Acts id reply next

end RequestWorld

/-- WinHTTP and its callbacks. -/
def winHttp : Environment requestInterface RequestWorld where
  Event := CallbackStep
  interfere := RequestWorld.interfere
  respond := RequestWorld.Answers

end Wrest
