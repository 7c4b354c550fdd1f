import Wrest.InteractionTraces
import Wrest.RequestCallUse

/-!
# Traces of a request

How the traces of the helpers begin: a call is the first exchange, a checked call that
failed is the last one, and waiting for an operation installs a listener, starts the
operation and polls.
-/

namespace Wrest

open Interaction RequestStep Win32

abbrev RequestTrace : Type :=
  List (Exchange requestInterface)

variable {α β : Type} {trace : RequestTrace}

theorem traces_ask {call : RequestCall} {rest : call.Reply → RequestStep α}
    {result : Except Error α} :
    AttemptTraces (ask call >>= rest) trace result ↔
      ∃ (reply : call.Reply) (remaining : RequestTrace),
        trace = ⟨call, reply⟩ :: remaining ∧ AttemptTraces (rest reply) remaining result :=
  traces_call

theorem traces_fail {error : Error} {result : Except Error α} :
    AttemptTraces (fail error : RequestStep α) trace result ↔
      trace = [] ∧ result = .error error :=
  traces_pure

theorem traces_makes {step : RequestStep α} {allowed : RequestCall → Prop}
    {result : Except Error α} (makes : step.Makes allowed)
    (traces : AttemptTraces step trace result) :
    ∀ exchange ∈ trace, allowed exchange.call := by
  unfold RequestStep.Makes at makes
  exact Traces.makes makes traces

theorem traces_yields {step : RequestStep α} {condition : α → Prop} {value : α}
    (yields : step.Yields condition) (traces : AttemptTraces step trace (.ok value)) :
    condition value :=
  Traces.returns yields traces value rfl

/-- A step whose outcome is examined. -/
theorem traces_outcome {step : RequestStep α} {rest : Except Error α → RequestStep β}
    {result : Except Error β} (traces : AttemptTraces (outcome step >>= rest) trace result) :
    ∃ inner before after, trace = before ++ after ∧ AttemptTraces step before inner ∧
      AttemptTraces (rest inner) after result := by
  rcases traces.of_bind with ⟨error, first, rfl⟩ | ⟨inner, before, after, rfl, first, second⟩
  · obtain ⟨inner, before, after, -, -, ends⟩ := Traces.of_bind first
    cases (traces_pure.mp ends).2
  · obtain ⟨found, before, last, rfl, runs, ends⟩ := Traces.of_bind first
    obtain ⟨rfl, same⟩ := traces_pure.mp ends
    cases same
    rw [List.append_nil]
    exact ⟨inner, before, after, rfl, runs, second⟩

/-- A checked reply. -/
theorem traces_checkWin32 {url : Url} {reply : Except Nat α} {result : Except Error α}
    (traces : AttemptTraces (checkWin32 url reply) trace result) :
    trace = [] ∧
      ((∃ code, reply = .error code ∧ result = .error ((Error.fromWin32 code).withUrl url)) ∨
        ∃ value, reply = .ok value ∧ result = .ok value) := by
  cases reply with
  | error code =>
    obtain ⟨rfl, rfl⟩ := traces_pure.mp traces
    exact ⟨rfl, .inl ⟨code, rfl, rfl⟩⟩
  | ok value =>
    obtain ⟨rfl, rfl⟩ := traces_pure.mp traces
    exact ⟨rfl, .inr ⟨value, rfl, rfl⟩⟩

/-- Waiting for an operation that one call starts. -/
theorem traces_await {url : Url} (call : RequestCall) (start : call.Reply → Outcome)
    {result : Except Error CallbackEvent}
    (traces : AttemptTraces (awaitWin32 do checkWin32 url (start (← ask call))) trace
      result) :
    (∃ (listener : Nat) (reply : call.Reply) (code : Nat),
        start reply = .error code ∧
        trace = [⟨.listen, listener⟩, ⟨call, reply⟩] ∧
        result = .error ((Error.fromWin32 code).withUrl url)) ∨
      ∃ (listener : Nat) (reply : call.Reply)
          (polled : Except SignalCancelled CallbackEvent),
        start reply = .ok () ∧
        trace = [⟨.listen, listener⟩, ⟨call, reply⟩, ⟨.poll listener, polled⟩] ∧
        result = polled.mapError fun _ => .fromSignalCancelled := by
  obtain ⟨listener, remaining, rfl, waits⟩ := traces_ask.mp traces
  rcases waits.of_bind with ⟨error, failed, rfl⟩ | ⟨_, before, after, rfl, started, polls⟩
  · obtain ⟨reply, rest, rfl, checked⟩ := traces_ask.mp failed
    obtain ⟨rfl, ⟨code, startEq, errorEq⟩ | ⟨value, -, impossible⟩⟩ :=
      traces_checkWin32 checked
    · cases errorEq
      exact .inl ⟨listener, reply, code, startEq, rfl, rfl⟩
    · cases impossible
  · obtain ⟨reply, rest, rfl, checked⟩ := traces_ask.mp started
    obtain ⟨rfl, ⟨code, -, impossible⟩ | ⟨value, startEq, -⟩⟩ :=
      traces_checkWin32 checked
    · cases impossible
    · obtain ⟨polled, rest, rfl, ends⟩ := traces_ask.mp polls
      refine .inr ⟨listener, reply, polled, startEq, ?_⟩
      cases polled with
      | ok event =>
        obtain ⟨rfl, rfl⟩ := traces_pure.mp ends
        exact ⟨rfl, rfl⟩
      | error signal =>
        cases signal
        obtain ⟨rfl, rfl⟩ := traces_fail.mp ends
        exact ⟨rfl, rfl⟩

section Operations

variable {url : Url}

/-- The completion of an operation, with the result that it leads to. -/
inductive Completion (url : Url) : Outcome → RequestTrace → Except Error Unit → Prop
  | refused (code : Nat) :
      Completion url (.error code) [] (.error ((Error.fromWin32 code).withUrl url))
  | cancelled (listener : Nat) :
      Completion url (.ok ())
        [⟨.poll listener, (.error .cancelled : Except SignalCancelled CallbackEvent)⟩]
        (.error .fromSignalCancelled)
  | completed (listener : Nat) :
      Completion url (.ok ())
        [⟨.poll listener, (.ok .complete : Except SignalCancelled CallbackEvent)⟩] (.ok ())
  | unexpected (listener : Nat) (event : CallbackEvent) (incomplete : event ≠ .complete)
      (noCode : ∀ code, event ≠ .win32Error code) :
      Completion url (.ok ())
        [⟨.poll listener, (.ok event : Except SignalCancelled CallbackEvent)⟩]
        (.error (event.unexpected url))
  | aborted (listener code : Nat) (reason : Error) :
      Completion url (.ok ())
        [⟨.poll listener, (.ok (.win32Error code) : Except SignalCancelled CallbackEvent)⟩,
          ⟨.takeAbortReason, some reason⟩]
        (.error (reason.withUrl url))
  | reported (listener code : Nat) (other : code ≠ ERROR_WINHTTP_SECURE_FAILURE) :
      Completion url (.ok ())
        [⟨.poll listener, (.ok (.win32Error code) : Except SignalCancelled CallbackEvent)⟩,
          ⟨.takeAbortReason, (none : Option Error)⟩]
        (.error ((Error.fromWin32 code).withUrl url))
  | insecure (listener flags : Nat) :
      Completion url (.ok ())
        [⟨.poll listener, (.ok (.win32Error ERROR_WINHTTP_SECURE_FAILURE) :
            Except SignalCancelled CallbackEvent)⟩,
          ⟨.takeAbortReason, (none : Option Error)⟩, ⟨.tlsFailureFlags, flags⟩]
        (.error (enrichTlsFailure flags
          ((Error.fromWin32 ERROR_WINHTTP_SECURE_FAILURE).withUrl url)))

/-- A code is always converted. -/
theorem traces_callbackErrorToError {code : Nat} {result : Except Error Error}
    (traces : AttemptTraces (callbackErrorToError code url) trace result) (listener : Nat) :
    ∃ error, result = .ok error ∧
      Completion url (.ok ())
        (⟨.poll listener, (.ok (.win32Error code) : Except SignalCancelled CallbackEvent)⟩ ::
          trace)
        (.error error) := by
  obtain ⟨reason, remaining, rfl, tells⟩ := traces_ask.mp traces
  cases reason with
  | some reason =>
    obtain ⟨rfl, rfl⟩ := traces_pure.mp tells
    exact ⟨_, rfl, .aborted listener code reason⟩
  | none =>
    simp only at tells
    split at tells
    · next secure =>
      subst secure
      obtain ⟨flags, remaining, rfl, ends⟩ := traces_ask.mp tells
      obtain ⟨rfl, rfl⟩ := traces_pure.mp ends
      exact ⟨_, rfl, .insecure listener flags⟩
    · next other =>
      obtain ⟨rfl, rfl⟩ := traces_pure.mp tells
      exact ⟨_, rfl, .reported listener code other⟩

theorem traces_intoResult {event : CallbackEvent} {result : Except Error Unit}
    (traces : AttemptTraces (event.intoResult url) trace result) (listener : Nat) :
    Completion url (.ok ())
      (⟨.poll listener, (.ok event : Except SignalCancelled CallbackEvent)⟩ :: trace)
      result := by
  cases event with
  | complete =>
    obtain ⟨rfl, rfl⟩ := traces_pure.mp traces
    exact .completed listener
  | readComplete count | writeComplete count =>
    obtain ⟨rfl, rfl⟩ := traces_fail.mp traces
    exact .unexpected listener _ nofun nofun
  | win32Error code =>
    rcases traces.of_bind with
      ⟨error, converts, rfl⟩ | ⟨error, before, after, rfl, converts, ends⟩
    · obtain ⟨found, impossible, -⟩ := traces_callbackErrorToError converts listener
      cases impossible
    · obtain ⟨rfl, rfl⟩ := traces_fail.mp ends
      obtain ⟨found, same, completion⟩ := traces_callbackErrorToError converts listener
      cases same
      rw [List.append_nil]
      exact completion

/-- The trace of a send or a receive. -/
theorem traces_operation (call : RequestCall) (start : call.Reply → Outcome)
    {result : Except Error Unit}
    (traces : AttemptTraces (do
      let event ← awaitWin32 do checkWin32 url (start (← ask call))
      event.intoResult url) trace result) :
    ∃ (listener : Nat) (reply : call.Reply) (rest : RequestTrace),
      trace = ⟨.listen, listener⟩ :: ⟨call, reply⟩ :: rest ∧
        Completion url (start reply) rest result := by
  rcases traces.of_bind with ⟨error, waits, rfl⟩ | ⟨event, before, after, rfl, waits, ends⟩
  · rcases traces_await call start waits with
      ⟨listener, reply, code, failed, rfl, same⟩ | ⟨listener, reply, polled, started, rfl, same⟩
    · cases same
      refine ⟨listener, reply, [], rfl, ?_⟩
      rw [failed]
      exact .refused code
    · cases polled with
      | ok event => cases same
      | error signal =>
        cases signal
        cases same
        refine ⟨listener, reply, _, rfl, ?_⟩
        rw [started]
        exact .cancelled listener
  · rcases traces_await call start waits with
      ⟨listener, reply, code, -, -, impossible⟩ | ⟨listener, reply, polled, started, rfl, same⟩
    · cases impossible
    · cases polled with
      | error signal => cases same
      | ok found =>
        cases same
        refine ⟨listener, reply, _, rfl, ?_⟩
        rw [started]
        exact traces_intoResult ends listener

/-- The calls behind the start of an operation complete it. -/
theorem Completion.completes {url : Url} {reply : Outcome} {result : Except Error Unit}
    (completion : Completion url reply trace result) :
    (∀ exchange ∈ trace, RequestCall.completes exchange.call = true) ∧
      (result = .ok () → reply = .ok ()) := by
  cases completion with
  | refused code => exact ⟨fun _ member => absurd member List.not_mem_nil, nofun⟩
  | cancelled | completed | unexpected | aborted | reported | insecure =>
    exact ⟨by simp [RequestCall.completes], fun _ => rfl⟩

end Operations

/-- An operation that starts and completes. -/
theorem await_trace (url : Url) (call : RequestCall) (start : call.Reply → Outcome)
    {reply : call.Reply} (started : start reply = .ok ()) (listener : Nat)
    (event : CallbackEvent) :
    AttemptTraces (awaitWin32 do checkWin32 url (start (← ask call)))
      [⟨.listen, listener⟩, ⟨call, reply⟩,
        ⟨.poll listener, (.ok event : Except SignalCancelled CallbackEvent)⟩]
      (.ok event) := by
  have starts : AttemptTraces (do checkWin32 url (start (← ask call))) [⟨call, reply⟩]
      (.ok ()) := by
    refine traces_ask.mpr ⟨reply, [], rfl, ?_⟩
    rw [started]
    exact .done _
  have polls : AttemptTraces
      (do match ← ask (.poll listener) with
        | .ok event => pure event
        | .error .cancelled => fail .fromSignalCancelled)
      [⟨.poll listener, (.ok event : Except SignalCancelled CallbackEvent)⟩] (.ok event) :=
    traces_ask.mpr ⟨.ok event, [], rfl, .done _⟩
  exact traces_ask.mpr ⟨listener, _, rfl, starts.bind polls⟩

/-- A receive that is refused. -/
def refusedReceive (listener code : Nat) : RequestTrace :=
  [⟨.listen, listener⟩, ⟨.receiveResponse, (.error code : Outcome)⟩]

theorem refusedReceive_traces (url : Url) (listener code : Nat) :
    AttemptTraces (outcome (receiveAndComplete url)) (refusedReceive listener code)
      (.ok (.error ((Error.fromWin32 code).withUrl url))) := by
  have fails : AttemptTraces (receiveAndComplete url) (refusedReceive listener code)
      (.error ((Error.fromWin32 code).withUrl url)) := .call _ (.call _ (.done _))
  exact Traces.bind fails (.done _)

end Wrest
