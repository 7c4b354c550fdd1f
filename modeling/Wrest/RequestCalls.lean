import Wrest.InteractionPrograms
import Wrest.RequestStates

/-!
# The interface of a request

The future that executes a request talks to WinHTTP and to the state that it
shares with the callback.  Each constructor of `RequestCall` is one call of
WinHTTP or one critical section of the shared state; the reply of a WinHTTP
call that can fail is the code of `GetLastError`.

On top of the calls stand the helpers that every step of the request uses: the
conversion of a failure into an error with the request's URL, and waiting for
the completion of an asynchronous operation.
-/

namespace Wrest

open Interaction Win32

inductive RequestCall
  | connect (host : String) (port : Nat)
  | openRequest (method path : String) (secure : Bool)
  | setContextValue
  | setProxyDirect
  | setProxyNamed (url : String)
  | setProxyCredentials (username password : String)
  | setNoClientCert
  | setSecurityFlags (flags : Nat)
  | addRequestHeaders (line : String)
  | storeSendBody (body : List UInt8)
  | takeSendBody
  | listen
  | sendRequest (body : Option Nat) (bodyLength totalLength : Nat)
  | writeData (pointer length : Nat)
  | receiveResponse
  | poll (listener : Nat)
  | takeAbortReason
  | isAborted
  | tlsFailureFlags
  | queryUrl
  | queryStatusCode
  | queryProtocolUsed
  | queryVersion
  | queryRawHeaders
deriving DecidableEq, Repr

abbrev Outcome : Type := Except Nat Unit

/-- Storing a body replies with the address at which it is kept. -/
def RequestCall.Reply : RequestCall → Type
  | .connect _ _ | .openRequest _ _ _ | .setContextValue | .setProxyDirect
  | .setProxyNamed _ | .setProxyCredentials _ _ | .setNoClientCert
  | .setSecurityFlags _ | .addRequestHeaders _ | .sendRequest _ _ _
  | .writeData _ _ | .receiveResponse => Outcome
  | .storeSendBody _ | .listen | .tlsFailureFlags => Nat
  | .takeSendBody => Unit
  | .poll _ => Except SignalCancelled CallbackEvent
  | .takeAbortReason => Option Error
  | .isAborted => Bool
  | .queryUrl | .queryVersion => Option String
  | .queryStatusCode => Except Nat Nat
  | .queryProtocolUsed => Option Nat
  | .queryRawHeaders => Except Nat String

def requestInterface : Interface where
  Call := RequestCall
  Reply := RequestCall.Reply

/-- A step of the request, which may end it with an error. -/
abbrev RequestStep (α : Type) : Type :=
  Attempt requestInterface Error α

namespace RequestStep

variable {α : Type}

def fail (error : Error) : RequestStep α :=
  Program.pure (.error error)

def ask (call : RequestCall) : RequestStep call.Reply :=
  Program.call call fun reply => .pure (.ok reply)

/-- The outcome of a step as a value, for a step whose error is examined. -/
def outcome (step : RequestStep α) : RequestStep (Except Error α) :=
  Program.bind step fun result => .pure (.ok result)

def ofResult (result : Except Error α) : RequestStep α :=
  Program.pure result

end RequestStep

open RequestStep

/-- `url_context`. -/
def urlContext {α : Type} (url : Url) (result : Except Error α) : Except Error α :=
  result.mapError fun error => error.withUrl url

/-- The reply of a fallible WinHTTP call, with the URL attached to a failure. -/
def checkWin32 {α : Type} (url : Url) (reply : Except Nat α) : RequestStep α :=
  ofResult (urlContext url (reply.mapError Error.fromWin32))

/-- `await_win32`: install a listener, start the operation, and wait for its
completion. -/
def awaitWin32 (start : RequestStep Unit) : RequestStep CallbackEvent := do
  let listener ← ask .listen
  start
  match ← ask (.poll listener) with
  | .ok event => pure event
  | .error .cancelled => fail .fromSignalCancelled

section Rules

variable {World α : Type} {environment : Environment requestInterface World}
  {before : World → Prop} {returns : α → World → Prop}
  {fails : Error → World → Prop}

theorem triple_ask {call : RequestCall} {after : call.Reply → World → Prop}
    (stable : environment.Stable before)
    (replies : ∀ world reply next, before world →
      environment.respond world call reply next → after reply next)
    (stableAfter : ∀ reply, environment.Stable (after reply)) :
    Triple environment before (ask call) after fails :=
  Triple.call stable replies fun reply =>
    Triple.pure (stableAfter reply) fun _ holds => holds

/-- A fallible WinHTTP call whose failure ends the step. -/
theorem triple_checked {url : Url} {call : RequestCall}
    {check : call.Reply → Except Nat α} (stable : environment.Stable before)
    (returned : ∀ world reply value next, before world →
      environment.respond world call reply next → check reply = .ok value →
        returns value next)
    (failed : ∀ world reply code next, before world →
      environment.respond world call reply next → check reply = .error code →
        fails ((Error.fromWin32 code).withUrl url) next)
    (stableReturns : ∀ value, environment.Stable (returns value))
    (stableFails : ∀ error, environment.Stable (fails error)) :
    Triple environment before (do checkWin32 url (check (← ask call)))
      returns fails := by
  have replies : ∀ world reply next, before world →
      environment.respond world call reply next →
        outcomes returns fails
          (urlContext url ((check reply).mapError Error.fromWin32)) next := by
    intro world reply next holds answers
    cases outcome : check reply with
    | ok value => exact returned world reply value next holds answers outcome
    | error code => exact failed world reply code next holds answers outcome
  refine Triple.call stable replies fun reply => ?_
  · show Triple environment _ (checkWin32 url (check reply)) returns fails
    unfold checkWin32
    cases check reply with
    | ok value => exact Triple.pure (stableReturns value) fun _ holds => holds
    | error code => exact Triple.throw (stableFails _) fun _ holds => holds

/-- Waiting for an operation whose listener receives exactly its completion. -/
theorem triple_await {start : RequestStep Unit} {listening pending : Nat → World → Prop}
    {completed : CallbackEvent → World → Prop}
    (listens : Triple environment before (ask .listen) listening fails)
    (starts : ∀ listener,
      Triple environment (listening listener) start (fun _ => pending listener) fails)
    (polls : ∀ listener world reply next, pending listener world →
      environment.respond world (RequestCall.poll listener) reply next →
        ∃ event, reply = .ok event ∧ completed event next)
    (stablePending : ∀ listener, environment.Stable (pending listener))
    (stableCompleted : ∀ event, environment.Stable (completed event))
    (stableFails : ∀ error, environment.Stable (fails error)) :
    Triple environment before (awaitWin32 start) completed fails := by
  apply listens.bind _ stableFails
  intro listener
  apply (starts listener).bind _ stableFails
  intro started
  have polled : Triple environment (pending listener) (ask (.poll listener))
      (fun reply world => ∃ event, reply = .ok event ∧ completed event world) fails := by
    apply triple_ask (stablePending listener) (polls listener)
    rintro reply world step next ⟨event, rfl, holds⟩ happens
    exact ⟨event, rfl, stableCompleted event world step next holds happens⟩
  apply polled.bind _ stableFails
  intro reply
  cases reply with
  | ok event =>
    apply Triple.pure (stableCompleted event)
    rintro world ⟨found, same, holds⟩
    obtain rfl := Except.ok.inj same
    exact holds
  | error signal =>
    rintro world ⟨found, impossible, holds⟩
    cases impossible

end Rules

def tlsFailureDescriptions : List (Nat × String) :=
  [(0x1, "revocation check failed"), (0x2, "invalid certificate"),
    (0x4, "certificate revoked"), (0x8, "invalid CA"),
    (0x10, "certificate CN mismatch"),
    (0x20, "certificate expired or not yet valid"),
    (0x80000000, "security channel error")]

/-- `describe_tls_failure`. -/
def describeTlsFailure (flags : Nat) : String :=
  let parts := tlsFailureDescriptions.filterMap fun (flag, text) =>
    if flags &&& flag ≠ 0 then some text else none
  if parts.isEmpty then "unknown TLS failure" else ", ".intercalate parts

/-- An error of the callback with the details of a TLS failure in front of its
source. -/
def enrichTlsFailure (flags : Nat) (error : Error) : Error :=
  let text := "TLS error: " ++ describeTlsFailure flags
  { error with source := error.source.map (ErrorSource.context text) }

/-- `callback_error_to_error`: the reason of an abort, if there is one to take,
and otherwise the error of the code. -/
def callbackErrorToError (code : Nat) (url : Url) : RequestStep Error := do
  match ← ask .takeAbortReason with
  | some reason => pure (reason.withUrl url)
  | none =>
    let error := (Error.fromWin32 code).withUrl url
    if code = ERROR_WINHTTP_SECURE_FAILURE then
      let flags ← ask .tlsFailureFlags
      pure (enrichTlsFailure flags error)
    else
      pure error

/-- `CallbackEvent::into_result`. -/
def CallbackEvent.intoResult (event : CallbackEvent) (url : Url) : RequestStep Unit :=
  match event with
  | .complete => pure ()
  | .win32Error code => do
    let error ← callbackErrorToError code url
    fail error
  | other => fail (other.unexpected url)

end Wrest
