import Wrest.RequestExecution
import Wrest.ResourceProtocols

/-!
# The use of a request handle

WinHTTP has its own order of calls: a handle is connected, opened, configured and sent,
its body is written, the response is received, and only then its head can be read.  One
operation is in flight at a time, and the memory that it reads must stay where it is; the
optional data of a send must stay until the response has been received.

`execute_request` keeps to this order, whatever WinHTTP replies.
-/

namespace Wrest.RequestUse

open Interaction RequestStep Win32

/-- An operation that goes on after its call has returned. -/
inductive Operation
  | send
  | write (pointer length : Nat)
  | receive
deriving DecidableEq

/-- A part of the memory. -/
structure Buffer where
  pointer : Nat
  length : Nat
deriving DecidableEq

def Buffer.Contains (outer inner : Buffer) : Prop :=
  outer.pointer ≤ inner.pointer ∧ inner.pointer + inner.length ≤ outer.pointer + outer.length

instance (outer inner : Buffer) : Decidable (outer.Contains inner) :=
  inferInstanceAs (Decidable (_ ∧ _))

/-- How far the handle has been set up. -/
inductive Stage
  | absent
  | connected
  | opened
  | registered
deriving DecidableEq

/-- What the last operation has come to. -/
inductive Progress
  | unsent
  | sent
  | received
deriving DecidableEq

/-- The handle between two calls: `started` says that a send was started once, `stored` is
the body in the shared state, and `optional` the data that a send was given. -/
structure HandleState where
  stage : Stage
  progress : Progress
  started : Bool
  stored : Option Buffer
  optional : Option Buffer
  listener : Option Nat
  pending : Option Operation

namespace HandleState

def initial : HandleState where
  stage := .absent
  progress := .unsent
  started := false
  stored := none
  optional := none
  listener := none
  pending := none

/-- The handle is set up, and no operation is in flight. -/
def Idle (state : HandleState) : Prop :=
  state.stage = .registered ∧ state.pending = none

/-- The buffer lies in the body in the shared state. -/
def Stores (state : HandleState) (buffer : Buffer) : Prop :=
  ∃ stored, state.stored = some stored ∧ stored.Contains buffer

/-- A send may be given this part of the memory. -/
def Lends (state : HandleState) : Option Nat → Nat → Prop
  | none, length => length = 0
  | some pointer, length => state.optional = none ∧ state.Stores ⟨pointer, length⟩

/-- The operation in flight has completed.  Behind a failure only another send helps, and a
listener that was dropped says nothing. -/
def complete (state : HandleState) : Except SignalCancelled CallbackEvent → HandleState
  | .error .cancelled => state
  | .ok event =>
    let idle := { state with pending := none, listener := none }
    match state.pending, event with
    | some .send, .complete => { idle with progress := .sent }
    | some (.write _ _), .writeComplete _ => idle
    | some .receive, .complete => { idle with progress := .received, optional := none }
    | _, _ => { idle with progress := .unsent }

end HandleState

open HandleState

/-- The calls that a state permits.  Lengths fit in the types of their parameters. -/
def permitsCall (state : HandleState) : RequestCall → Prop
  | .connect _ _ => state.stage = .absent
  | .openRequest _ _ _ => state.stage = .connected
  | .setContextValue => state.stage = .opened
  | .setProxyDirect | .setProxyNamed _ | .setProxyCredentials _ _ | .setSecurityFlags _ =>
    state.Idle ∧ state.started = false
  | .addRequestHeaders line =>
    state.Idle ∧ state.started = false ∧ utf16Length line ≤ u32Max
  | .setNoClientCert => state.Idle ∧ state.progress = .unsent
  | .storeSendBody _ | .takeSendBody => state.pending = none ∧ state.optional = none
  | .listen => state.Idle
  | .sendRequest body bodyLength totalLength =>
    state.Idle ∧ state.listener.isSome ∧ state.progress = .unsent ∧
      bodyLength ≤ u32Max ∧ totalLength ≤ u32Max ∧ state.Lends body bodyLength
  | .writeData pointer length =>
    state.Idle ∧ state.listener.isSome ∧ state.progress = .sent ∧
      0 < length ∧ length ≤ u32Max ∧ state.Stores ⟨pointer, length⟩
  | .receiveResponse => state.Idle ∧ state.listener.isSome ∧ state.progress = .sent
  | .poll listener => state.pending.isSome ∧ state.listener = some listener
  | .takeAbortReason | .isAborted | .tlsFailureFlags => state.stage = .registered
  | .queryUrl => state.Idle
  | .queryStatusCode | .queryProtocolUsed | .queryVersion | .queryRawHeaders =>
    state.Idle ∧ state.progress = .received

def nextState (state : HandleState) : (call : RequestCall) → call.Reply → HandleState
  | .connect _ _, .ok _ => { state with stage := .connected }
  | .openRequest _ _ _, .ok _ => { state with stage := .opened }
  | .setContextValue, .ok _ => { state with stage := .registered }
  | .storeSendBody body, pointer => { state with stored := some ⟨pointer, body.length⟩ }
  | .takeSendBody, _ => { state with stored := none }
  | .listen, listener => { state with listener := some listener }
  | .sendRequest body bodyLength _, .ok _ =>
    { state with
      started := true
      optional := (body.map fun pointer => ⟨pointer, bodyLength⟩).or state.optional
      pending := some .send }
  | .sendRequest _ _ _, .error _ => { state with started := true }
  | .writeData pointer length, .ok _ => { state with pending := some (.write pointer length) }
  | .receiveResponse, .ok _ => { state with pending := some .receive }
  | .writeData _ _, .error _ | .receiveResponse, .error _ => { state with progress := .unsent }
  | .poll _, reply => state.complete reply
  | _, _ => state

def requestProtocol : Protocol requestInterface HandleState where
  initial := .initial
  permits := permitsCall
  expects := fun _ _ => True
  next := fun state exchange => nextState state exchange.call exchange.reply

/-- A step that keeps to the order of calls, with what it leaves when it returns and when it
fails. -/
def Uses {α : Type} (before : HandleState → Prop) (step : RequestStep α)
    (returns : α → HandleState → Prop) (fails : Error → HandleState → Prop) : Prop :=
  requestProtocol.AttemptRespects before step returns fails

section Rules

variable {α β : Type} {before : HandleState → Prop} {url : Url}
variable {returns : α → HandleState → Prop} {fails : Error → HandleState → Prop}

theorem uses_pure {value : α} (holds : ∀ state, before state → returns value state) :
    Uses before (pure value) returns fails :=
  Protocol.AttemptRespects.pure holds

theorem uses_fail {error : Error} (holds : ∀ state, before state → fails error state) :
    Uses before (fail error : RequestStep α) returns fails :=
  Protocol.AttemptRespects.throw holds

theorem Uses.bind {step : RequestStep α} {rest : α → RequestStep β}
    {after : β → HandleState → Prop} (first : Uses before step returns fails)
    (second : ∀ value, Uses (returns value) (rest value) after fails) :
    Uses before (step >>= rest) after fails :=
  Protocol.AttemptRespects.bind first second

/-- Sequencing with what holds in the middle. -/
theorem uses_bind {step : RequestStep α} {rest : α → RequestStep β}
    {after : β → HandleState → Prop} (middle : α → HandleState → Prop)
    (first : Uses before step middle fails)
    (second : ∀ value, Uses (middle value) (rest value) after fails) :
    Uses before (step >>= rest) after fails :=
  first.bind second

theorem Uses.mono {weaker : HandleState → Prop} {step : RequestStep α}
    {moreReturns : α → HandleState → Prop} {moreFails : Error → HandleState → Prop}
    (uses : Uses before step returns fails) (starts : ∀ state, weaker state → before state)
    (returned : ∀ value state, returns value state → moreReturns value state)
    (failed : ∀ error state, fails error state → moreFails error state) :
    Uses weaker step moreReturns moreFails :=
  Protocol.AttemptRespects.mono uses starts returned failed

theorem uses_of_forall {step : RequestStep α}
    (each : ∀ state, before state → Uses (· = state) step returns fails) :
    Uses before step returns fails :=
  Protocol.respects_of_forall each

theorem uses_ask {call : RequestCall} {after : call.Reply → HandleState → Prop}
    (permitted : ∀ state, before state → permitsCall state call)
    (steps : ∀ state reply, before state → after reply (nextState state call reply)) :
    Uses before (ask call) after fails :=
  Protocol.respects_call after permitted (fun state reply holds _ => steps state reply holds)
    fun _ => Protocol.respects_pure fun _ holds => holds

theorem uses_checkWin32 {reply : Except Nat α} :
    Uses (outcomes returns fails (urlContext url (reply.mapError Error.fromWin32)))
      (checkWin32 url reply) returns fails :=
  Protocol.respects_pure fun _ holds => holds

section Checked

variable {call : RequestCall} {check : call.Reply → Except Nat α}

theorem outcomes_checked (returned : ∀ state reply value, before state →
      check reply = .ok value → returns value (nextState state call reply))
    (failed : ∀ state reply code, before state → check reply = .error code →
      fails ((Error.fromWin32 code).withUrl url) (nextState state call reply))
    (state : HandleState) (reply : call.Reply) (holds : before state) :
    outcomes returns fails (urlContext url ((check reply).mapError Error.fromWin32))
      (nextState state call reply) := by
  cases outcome : check reply with
  | ok value => exact returned state reply value holds outcome
  | error code => exact failed state reply code holds outcome

/-- A fallible WinHTTP call whose failure ends the step. -/
theorem uses_checked (permitted : ∀ state, before state → permitsCall state call)
    (returned : ∀ state reply value, before state → check reply = .ok value →
      returns value (nextState state call reply))
    (failed : ∀ state reply code, before state → check reply = .error code →
      fails ((Error.fromWin32 code).withUrl url) (nextState state call reply)) :
    Uses before (do checkWin32 url (check (← ask call))) returns fails :=
  (uses_ask permitted (outcomes_checked returned failed)).bind fun _ => uses_checkWin32

/-- A fallible WinHTTP call with what follows it. -/
theorem uses_checked_bind {rest : α → RequestStep β} {after : β → HandleState → Prop}
    (permitted : ∀ state, before state → permitsCall state call)
    (returned : ∀ state reply value, before state → check reply = .ok value →
      returns value (nextState state call reply))
    (failed : ∀ state reply code, before state → check reply = .error code →
      fails ((Error.fromWin32 code).withUrl url) (nextState state call reply))
    (second : ∀ value, Uses (returns value) (rest value) after fails) :
    Uses before (ask call >>= fun reply => checkWin32 url (check reply) >>= rest) after
      fails :=
  (uses_ask permitted (outcomes_checked returned failed)).bind fun _ =>
    uses_checkWin32.bind second

end Checked

/-- The outcome of a step as a value. -/
theorem Uses.outcome {step : RequestStep α} (uses : Uses before step returns fails)
    {failsLater : Error → HandleState → Prop} :
    Uses before (RequestStep.outcome step) (outcomes returns fails) failsLater :=
  Protocol.Respects.bind uses fun _ => Protocol.respects_pure fun _ holds => holds

theorem Uses.withContext {step : RequestStep α} {failsLater : Error → HandleState → Prop}
    (uses : Uses before step returns fails)
    (failed : ∀ error state, fails error state → failsLater (error.withUrl url) state) :
    Uses before (withContext url step) returns failsLater := by
  refine Protocol.Respects.bind uses fun result => Protocol.respects_pure fun state holds => ?_
  cases result with
  | ok value => exact holds
  | error error => exact failed error state holds

end Rules

end Wrest.RequestUse
