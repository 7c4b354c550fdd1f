import Wrest.RequestCallUse
import Wrest.RequestHandleClose
import Wrest.RequestProgress

/-!
# The context reference of the callback

A request parks one strong reference of its shared state as the context of the
WinHTTP callback.  If WinHTTP does not accept the context, the executing future
releases the reference at once; otherwise the `HANDLE_CLOSING` callback does.

The state is the remaining program of `execute_request` and then the response,
together with the closing of the request handle and the callbacks around it.  The
future may be dropped before each of its calls, and the response at any time.  The
strong count is changed as the source changes it.

WinHTTP runs callbacks with the context only if it accepted the context, and
`HANDLE_CLOSING` once and last: after a successful close, and no callback starts behind
it.  A callback that was started before may still run on another thread, and the closing
callback releases the retained reference without waiting for it.
-/

namespace Wrest.CallbackContext

open Interaction RequestHandle Transition

/-- The wrapper of the request handle.  Only a handle with the context is drained
when it is dropped. -/
inductive HandleKind
  | unopened
  | plain
  | registered
deriving DecidableEq, Repr

/-- The reference that is retained for the callback. -/
inductive ContextReference
  | absent
  | parked
  | released
deriving DecidableEq, Repr

/-- Where the `HANDLE_CLOSING` callback is: it clones the reference, releases the
retained one, reports that it was seen, and drops its clone. -/
inductive ClosingPosition
  | waiting
  | cloned
  | released
  | seen
  | finished
deriving DecidableEq, Repr

namespace ClosingPosition

/-- The retained reference was not released yet. -/
def isEarly : ClosingPosition → Bool
  | .waiting | .cloned => true
  | .released | .seen | .finished => false

/-- The strong references of the callback itself. -/
def clones : ClosingPosition → Nat
  | .cloned | .released | .seen => 1
  | .waiting | .finished => 0

end ClosingPosition

/-- Who owns the request handle: the executing future, its unwinding, the response, or
the drop of the response.  A handle without the context is only closed. -/
inductive Holder
  | executing (rest : Program requestInterface (Except Error RawResponse))
  | unwinding
  | closingPlain
  | responded
  | releasing
  | ended

structure ContextState where
  holder : Holder
  handle : HandleKind
  context : ContextReference
  closing : ClosingPosition
  strong : Nat
  releases : Nat
  drain : DrainState

inductive ContextStep
  | replies (answer : (call : RequestCall) → call.Reply)
  | returns
  | cancelled
  | plainCloses
  | responseDropped
  | drains (step : DrainStep)
  | closingClones
  | contextDropped
  | finalCallbackSeen
  | closingFinishes
  | handleDropped

namespace ContextState

def initial (program : Program requestInterface (Except Error RawResponse))
    (origin : Origin) : ContextState where
  holder := .executing program
  handle := .unopened
  context := .absent
  closing := .waiting
  strong := 1
  releases := 0
  drain := .initial origin

/-- What a call does to the handle and the context.  The reference is created before
the call that installs it; on success the handle takes a reference of its own. -/
def afterCall (state : ContextState) : (call : RequestCall) → call.Reply → ContextState
  | .openRequest _ _ _, .ok _ => { state with handle := .plain }
  | .setContextValue, .ok _ =>
    { state with handle := .registered, context := .parked, strong := state.strong + 2 }
  | .setContextValue, .error _ =>
    { state with context := .released, releases := state.releases + 1 }
  | _, _ => state

/-- The locals of `execute_request` are dropped, the handle first. -/
def exits (state : ContextState) : ContextState :=
  match state.handle with
  | .unopened => { state with holder := .ended, strong := state.strong - 1 }
  | .plain => { state with holder := .closingPlain }
  | .registered => { state with holder := .unwinding }

/-- The steps around an open handle that has the context. -/
def permits (state : ContextState) : DrainStep → Bool
  | .dropChecksAbort =>
    match state.holder with
    | .unwinding | .releasing => true
    | _ => false
  | .finalCallbackSeen => false
  | _ => true

end ContextState

/-- One atomic step of one party. -/
def contextStep (owner : WinHttpRequestHandle) (state : ContextState) :
    ContextStep → Option ContextState
  | .replies answer =>
    match state.holder with
    | .executing (.call call next) =>
      some { state.afterCall call (answer call) with
        holder := .executing (next (answer call)) }
    | _ => none
  | .returns =>
    match state.holder with
    | .executing (.pure (.ok _)) =>
      some { state with holder := .responded, strong := state.strong - 1 }
    | .executing (.pure (.error _)) => some state.exits
    | _ => none
  | .cancelled =>
    match state.holder with
    | .executing (.call _ _) => some state.exits
    | _ => none
  | .plainCloses =>
    match state.holder with
    | .closingPlain =>
      some { state with
        holder := .ended
        strong := state.strong - 1
        drain := { state.drain with record :=
          (closeWinHttpHandle owner.handle state.drain.record).2 } }
    | _ => none
  | .responseDropped =>
    match state.holder with
    | .responded => some { state with holder := .releasing }
    | _ => none
  | .drains step =>
    if state.handle = .registered ∧ state.permits step = true then
      (drainStep owner state.drain step).map fun drain => { state with drain }
    else
      none
  | .closingClones =>
    if state.drain.record.closingDelivered = true ∧ state.closing = .waiting then
      some { state with closing := .cloned, strong := state.strong + 1 }
    else
      none
  | .contextDropped =>
    if state.closing = .cloned then
      some { state with
        closing := .released
        context := .released
        strong := state.strong - 1
        releases := state.releases + 1 }
    else
      none
  | .finalCallbackSeen =>
    if state.closing = .released then
      (drainStep owner state.drain .finalCallbackSeen).map fun drain =>
        { state with closing := .seen, drain }
    else
      none
  | .closingFinishes =>
    if state.closing = .seen then
      some { state with closing := .finished, strong := state.strong - 1 }
    else
      none
  | .handleDropped =>
    if state.drain.drop = .returned then
      match state.holder with
      | .unwinding => some { state with holder := .ended, strong := state.strong - 2 }
      | .releasing => some { state with holder := .ended, strong := state.strong - 1 }
      | _ => none
    else
      none

/-- What one step can do, with the condition under which it is taken. -/
inductive ContextMove (state : ContextState) : ContextStep → ContextState → Prop
  | replies {answer : (call : RequestCall) → call.Reply} {call : RequestCall}
      {rest : call.Reply → Program requestInterface (Except Error RawResponse)}
      (executing : state.holder = .executing (.call call rest)) :
      ContextMove state (.replies answer)
        { state.afterCall call (answer call) with
          holder := .executing (rest (answer call)) }
  | returnsResponse {response : RawResponse}
      (executing : state.holder = .executing (.pure (.ok response))) :
      ContextMove state .returns
        { state with holder := .responded, strong := state.strong - 1 }
  | returnsError {error : Error}
      (executing : state.holder = .executing (.pure (.error error))) :
      ContextMove state .returns state.exits
  | cancelled {call : RequestCall}
      {rest : call.Reply → Program requestInterface (Except Error RawResponse)}
      (executing : state.holder = .executing (.call call rest)) :
      ContextMove state .cancelled state.exits
  | plainCloses (closing : state.holder = .closingPlain) :
      ContextMove state .plainCloses
        { state with
          holder := .ended
          strong := state.strong - 1
          drain := { state.drain with record := state.drain.record.close.2 } }
  | responseDropped (responded : state.holder = .responded) :
      ContextMove state .responseDropped { state with holder := .releasing }
  | drains {step : DrainStep} {drain : DrainState} (registered : state.handle = .registered)
      (move : DrainMove state.drain step drain) :
      ContextMove state (.drains step) { state with drain }
  | closingClones (delivered : state.drain.record.closingDelivered = true)
      (waiting : state.closing = .waiting) :
      ContextMove state .closingClones
        { state with closing := .cloned, strong := state.strong + 1 }
  | contextDropped (cloned : state.closing = .cloned) :
      ContextMove state .contextDropped
        { state with
          closing := .released
          context := .released
          strong := state.strong - 1
          releases := state.releases + 1 }
  | finalCallbackSeen {drain : DrainState} (released : state.closing = .released)
      (move : DrainMove state.drain .finalCallbackSeen drain) :
      ContextMove state .finalCallbackSeen { state with closing := .seen, drain }
  | closingFinishes (seen : state.closing = .seen) :
      ContextMove state .closingFinishes
        { state with closing := .finished, strong := state.strong - 1 }
  | unwound (returned : state.drain.drop = .returned)
      (unwinding : state.holder = .unwinding) :
      ContextMove state .handleDropped
        { state with holder := .ended, strong := state.strong - 2 }
  | released (returned : state.drain.drop = .returned)
      (releasing : state.holder = .releasing) :
      ContextMove state .handleDropped
        { state with holder := .ended, strong := state.strong - 1 }

theorem contextMove_of_contextStep {owner : WinHttpRequestHandle}
    {state next : ContextState} {label : ContextStep}
    (steps : contextStep owner state label = some next) :
    ContextMove state label next := by
  cases label with
  | replies answer =>
    cases holderEq : state.holder with
    | executing program =>
      cases program with
      | pure result => simp [contextStep, holderEq] at steps
      | call call rest =>
        simp only [contextStep, holderEq, Option.some.injEq] at steps
        obtain rfl := steps
        exact .replies holderEq
    | _ => simp [contextStep, holderEq] at steps
  | returns =>
    cases holderEq : state.holder with
    | executing program =>
      cases program with
      | pure result =>
        cases result with
        | ok response =>
          simp only [contextStep, holderEq, Option.some.injEq] at steps
          obtain rfl := steps
          exact .returnsResponse holderEq
        | error error =>
          simp only [contextStep, holderEq, Option.some.injEq] at steps
          obtain rfl := steps
          exact .returnsError holderEq
      | call call rest => simp [contextStep, holderEq] at steps
    | _ => simp [contextStep, holderEq] at steps
  | cancelled =>
    cases holderEq : state.holder with
    | executing program =>
      cases program with
      | pure result => simp [contextStep, holderEq] at steps
      | call call rest =>
        simp only [contextStep, holderEq, Option.some.injEq] at steps
        obtain rfl := steps
        exact .cancelled holderEq
    | _ => simp [contextStep, holderEq] at steps
  | plainCloses =>
    cases holderEq : state.holder with
    | closingPlain =>
      simp only [contextStep, holderEq, Option.some.injEq, closeWinHttpHandle_owner]
        at steps
      obtain rfl := steps
      exact .plainCloses holderEq
    | _ => simp [contextStep, holderEq] at steps
  | responseDropped =>
    cases holderEq : state.holder with
    | responded =>
      simp only [contextStep, holderEq, Option.some.injEq] at steps
      obtain rfl := steps
      exact .responseDropped holderEq
    | _ => simp [contextStep, holderEq] at steps
  | drains step =>
    simp only [contextStep, Option.ite_none_right_eq_some, Option.map_eq_some_iff] at steps
    obtain ⟨⟨registered, -⟩, drain, drainSteps, rfl⟩ := steps
    exact .drains registered (drainMove_of_drainStep drainSteps)
  | closingClones =>
    simp only [contextStep, Option.ite_none_right_eq_some, Option.some.injEq] at steps
    obtain ⟨⟨delivered, waiting⟩, rfl⟩ := steps
    exact .closingClones delivered waiting
  | contextDropped =>
    simp only [contextStep, Option.ite_none_right_eq_some, Option.some.injEq] at steps
    obtain ⟨cloned, rfl⟩ := steps
    exact .contextDropped cloned
  | finalCallbackSeen =>
    simp only [contextStep, Option.ite_none_right_eq_some, Option.map_eq_some_iff] at steps
    obtain ⟨released, drain, drainSteps, rfl⟩ := steps
    exact .finalCallbackSeen released (drainMove_of_drainStep drainSteps)
  | closingFinishes =>
    simp only [contextStep, Option.ite_none_right_eq_some, Option.some.injEq] at steps
    obtain ⟨seen, rfl⟩ := steps
    exact .closingFinishes seen
  | handleDropped =>
    simp only [contextStep, Option.ite_none_right_eq_some] at steps
    obtain ⟨returned, steps⟩ := steps
    cases holderEq : state.holder with
    | unwinding =>
      simp only [holderEq, Option.some.injEq] at steps
      obtain rfl := steps
      exact .unwound returned holderEq
    | releasing =>
      simp only [holderEq, Option.some.injEq] at steps
      obtain rfl := steps
      exact .released returned holderEq
    | _ => simp [holderEq] at steps

/-- When `HANDLE_CLOSING` starts, every other callback has returned. -/
def ClosingIsLast (state : ContextState) : ContextStep → Prop
  | .drains .closingStarts => ∀ position ∈ state.drain.callbacks, position = .finished
  | _ => True

instance (state : ContextState) (label : ContextStep) :
    Decidable (ClosingIsLast state label) :=
  match label with
  | .drains .closingStarts =>
    inferInstanceAs (Decidable (∀ position ∈ state.drain.callbacks, position = .finished))
  | .drains .callbackStarts | .drains (.enterCallback _) | .drains (.abortFromCallback _ _)
  | .drains (.abortCloses _) | .drains (.leaveCallback _) | .drains .finalCallbackSeen
  | .drains .dropChecksAbort | .drains .dropCloses | .drains .dropWaits
  | .replies _ | .returns | .cancelled | .plainCloses | .responseDropped | .closingClones
  | .contextDropped | .finalCallbackSeen | .closingFinishes | .handleDropped =>
    inferInstanceAs (Decidable True)

section Program

variable {α β : Type}

/-- Neither opens a handle nor installs a context. -/
def Later : RequestCall → Prop
  | .openRequest _ _ _ | .setContextValue => False
  | _ => True

/-- The program installs the context at most once, and returns an error if it does
not. -/
def RegistersOnce : Program requestInterface (Except Error α) → Prop
  | .pure result => ∃ error, result = .error error
  | .call .setContextValue next =>
    (∀ code, ∃ error, next (.error code) = .pure (.error error)) ∧
      ∀ value, (next (.ok value)).Makes Later
  | .call _ next => ∀ reply, RegistersOnce (next reply)

theorem registersOnce_bind {program : RequestStep α} {rest : α → RequestStep β}
    (registers : RegistersOnce program)
    (later : ∀ value, Program.Makes (α := Except Error β) Later (rest value)) :
    RegistersOnce (α := β) (program >>= rest : RequestStep β) := by
  induction program with
  | pure result =>
    obtain ⟨error, rfl⟩ := registers
    exact ⟨error, rfl⟩
  | call request next ih =>
    cases request with
    | setContextValue =>
      constructor
      · intro code
        obtain ⟨error, nextEq⟩ := registers.1 code
        refine ⟨error, ?_⟩
        show (next (.error code)).bind _ = _
        rw [nextEq]
        rfl
      · intro value
        exact Program.Makes.attempt_bind (registers.2 value) later
    | _ => exact fun reply => ih reply (registers reply)

end Program

theorem openHandle_registersOnce (parts : RequestParts) :
    RegistersOnce (α := PreparedBody) (openHandle parts) := by
  have registers : ∀ body : PreparedBody, RegistersOnce (α := PreparedBody) (do
      checkWin32 parts.url (← RequestStep.ask (.connect parts.url.host parts.url.port))
      checkWin32 parts.url (← RequestStep.ask
        (.openRequest parts.method parts.url.pathAndQuery parts.url.isHttps))
      checkWin32 parts.url (← RequestStep.ask .setContextValue)
      pure body : RequestStep PreparedBody) := by
    intro body
    refine fun connected => ?_
    cases connected with
    | error code => exact ⟨_, rfl⟩
    | ok connection =>
      refine fun opened => ?_
      cases opened with
      | error code => exact ⟨_, rfl⟩
      | ok handle =>
        constructor
        · intro code
          exact ⟨_, rfl⟩
        · intro value
          trivial
  unfold openHandle storeBody
  rcases parts.body with _ | ⟨content | items⟩
  · exact registers _
  · refine fun pointer => ?_
    dsimp only
    split
    · exact registers _
    · exact registers _
  · exact registers _

theorem later_of_transfers (call : RequestCall) (transfers : call.transfers = true) :
    Later call := by
  cases call <;> trivial

theorem later_of_sends (call : RequestCall) (sends : call.sends = true) : Later call := by
  cases call <;> trivial

theorem later_of_setsProxy (call : RequestCall) (sets : call.setsProxy = true) :
    Later call := by
  cases call <;> trivial

theorem later_of_setsCertificates (call : RequestCall)
    (sets : call.setsCertificates = true) : Later call := by
  cases call <;> trivial

/-- `execute_request` installs the context once, before any other option. -/
theorem executeRequest_registersOnce (parse : String → Option Url)
    (parts : RequestParts) : RegistersOnce (executeRequest parse parts) := by
  have proxy : RequestStep.Makes Later (setProxy parts.url
      (parts.proxyConfig.resolve parts.url.host parts.url.isHttps)) :=
    setProxy_makes later_of_setsProxy _ _
  have certificates : RequestStep.Makes Later (setCertificateOptions parts) :=
    setCertificateOptions_makes later_of_setsCertificates parts
  have headers : RequestStep.Makes Later (addHeaders parts.url parts.headers) :=
    addHeaders_makes (fun _ => later_of_transfers _ rfl) parts.headers
  have sends : ∀ body, RequestStep.Makes Later (sendBody parse parts.url body
      (.new parts.url parts.method parts.body)) :=
    fun body => sendBody_makes later_of_transfers later_of_sends body _
  have receives : ∀ retry, RequestStep.Makes Later (receiveResponse parse parts.url retry) :=
    receiveResponse_makes later_of_transfers later_of_sends
  have queries : RequestStep.Makes Later (queryResponse parse parts.url) :=
    queryResponse_makes (allowed_of_narrower RequestCall.receives_of_queries
      (allowed_of_narrower RequestCall.transfers_of_receives later_of_transfers))
  unfold RequestStep.Makes at proxy certificates headers sends receives queries
  have configured : RegistersOnce (α := PreparedBody) (configureRequest parts) := by
    apply registersOnce_bind (openHandle_registersOnce parts)
    intro body
    exact proxy.attempt_bind fun _ => certificates.attempt_bind fun _ => trivial
  have prepared : RegistersOnce (α := PreparedBody) (prepareRequest parts) := by
    apply registersOnce_bind configured
    intro body
    exact headers.attempt_bind fun _ => trivial
  apply registersOnce_bind prepared
  intro body
  exact (sends body).attempt_bind fun retry =>
    (receives retry).attempt_bind fun _ => queries

/-- What the owner of the handle may still do. -/
def Holder.Fits : Holder → HandleKind → ContextReference → Prop
  | .executing rest, .registered, _ => rest.Makes Later
  | .executing rest, _, .absent => RegistersOnce rest
  | .executing rest, _, _ => ∃ error, rest = .pure (.error error)
  | .closingPlain, handle, _ => handle = .plain
  | .ended, _, _ => True
  | _, handle, _ => handle = .registered

/-- The strong references of the locals of `execute_request`. -/
def Holder.locals : Holder → Nat
  | .executing _ | .unwinding | .closingPlain => 1
  | .responded | .releasing | .ended => 0

namespace ContextState

/-- The reference of the request handle. -/
def handleReferences (state : ContextState) : Nat :=
  match state.handle, state.holder with
  | .registered, .ended => 0
  | .registered, _ => 1
  | _, _ => 0

def contextReferences (state : ContextState) : Nat :=
  if state.context = .parked then 1 else 0

/-- The owners of strong references. -/
def owners (state : ContextState) : Nat :=
  state.holder.locals + state.handleReferences + state.contextReferences +
    state.closing.clones

end ContextState

/-- No callback has run with the context. -/
structure Untouched (drain : DrainState) : Prop where
  callbacks : drain.callbacks = []
  closingDelivered : drain.record.closingDelivered = false
  closed : drain.request.closeState.closed = false

/-- What WinHTTP and the drop know of the close. -/
structure ClosesBefore (drain : DrainState) : Prop where
  delivered : drain.record.closingDelivered = true → drain.record.isOpen = false
  seen : drain.request.closeState.closed = true → drain.record.closingDelivered = true
  returned : drain.drop = .returned → drain.record.isOpen = false

/-- The reference of a context that WinHTTP has. -/
structure Registered (state : ContextState) : Prop where
  context : state.context = if state.closing.isEarly then .parked else .released
  releases : state.releases = if state.closing.isEarly then 0 else 1
  delivered : state.closing ≠ .waiting → state.drain.record.closingDelivered = true
  returned : state.holder = .ended → state.drain.drop = .returned

/-- The reference of a context that WinHTTP does not have. -/
structure Unregistered (state : ContextState) : Prop where
  context : state.context ≠ .parked
  releases : state.releases = if state.context = .absent then 0 else 1
  closing : state.closing = .waiting
  untouched : Untouched state.drain

structure ContextInvariant (state : ContextState) : Prop where
  fits : state.holder.Fits state.handle state.context
  registered : state.handle = .registered → Registered state
  unregistered : state.handle ≠ .registered → Unregistered state
  strong : state.strong = state.owners
  closes : ClosesBefore state.drain

section Drain

variable {drain next : DrainState} {label : DrainStep}

theorem ClosesBefore.step (closes : ClosesBefore drain)
    (move : DrainMove drain label next) : ClosesBefore next := by
  cases move with
  | callbackStarts | callbackOverflows | abortIgnored | abortLatches =>
    exact ⟨closes.delivered, closes.seen, closes.returned⟩
  | callbackEnters found enters =>
    refine ⟨closes.delivered, ?_, closes.returned⟩
    simp only [RequestState.enterCallback_closeState enters]
    exact closes.seen
  | callbackLeaves found =>
    refine ⟨closes.delivered, ?_, closes.returned⟩
    simp only [RequestState.leaveCallback_closed]
    exact closes.seen
  | abortCloses found => exact ⟨fun _ => rfl, closes.seen, fun _ => rfl⟩
  | closingStarts shut first => exact ⟨fun _ => shut, fun _ => rfl, closes.returned⟩
  | finalCallbackSeen delivered =>
    exact ⟨closes.delivered, fun _ => delivered, closes.returned⟩
  | dropFindsAbort | dropFindsNoAbort => exact ⟨closes.delivered, closes.seen, nofun⟩
  | dropCloses => exact ⟨fun _ => rfl, closes.seen, nofun⟩
  | dropCloseFails => exact ⟨fun _ => rfl, closes.seen, fun _ => rfl⟩
  | dropWaits waiting idle =>
    have closed := ((RequestState.closedAndIdle_iff _).mp idle).1
    exact ⟨closes.delivered, closes.seen, fun _ => closes.delivered (closes.seen closed)⟩

theorem delivered_of_drainMove (move : DrainMove drain label next)
    (delivered : drain.record.closingDelivered = true) :
    next.record.closingDelivered = true := by
  cases move <;> first | exact delivered | rfl

theorem returned_of_drainMove (move : DrainMove drain label next)
    (returned : drain.drop = .returned) : next.drop = .returned := by
  cases move with
  | dropFindsAbort owned | dropFindsNoAbort owned => cases returned.symm.trans owned
  | dropCloses closing => cases returned.symm.trans closing
  | dropCloseFails | dropWaits => rfl
  | _ => exact returned

end Drain

/-- A call that opens nothing changes nothing here. -/
theorem afterCall_of_later {call : RequestCall} (later : Later call)
    (state : ContextState) (reply : call.Reply) : state.afterCall call reply = state := by
  cases call <;> first | rfl | cases later

theorem fits_executing_absent {handle : HandleKind} (other : handle ≠ .registered)
    (rest : Program requestInterface (Except Error RawResponse)) :
    (Holder.executing rest).Fits handle .absent ↔ RegistersOnce rest := by
  cases handle with
  | registered => exact absurd rfl other
  | unopened | plain => rfl

theorem fits_executing_released {handle : HandleKind} (other : handle ≠ .registered)
    (rest : Program requestInterface (Except Error RawResponse)) :
    (Holder.executing rest).Fits handle .released ↔ ∃ error, rest = .pure (.error error) := by
  cases handle with
  | registered => exact absurd rfl other
  | unopened | plain => rfl

/-- For a registered handle the context says nothing about the owner. -/
theorem fits_registered {holder : Holder} {context : ContextReference}
    (fits : holder.Fits .registered context) (other : ContextReference) :
    holder.Fits .registered other := by
  cases holder <;> exact fits

theorem handleReferences_of_ne {state : ContextState} (other : state.handle ≠ .registered) :
    state.handleReferences = 0 := by
  unfold ContextState.handleReferences
  cases handleEq : state.handle with
  | registered => exact absurd handleEq other
  | unopened | plain => cases state.holder <;> rfl

namespace ContextInvariant

variable {state : ContextState} (holds : ContextInvariant state)

include holds

/-- The callback of a registered handle changes only the state around the handle. -/
theorem drains (registered : state.handle = .registered) {label : DrainStep}
    {drain : DrainState} (move : DrainMove state.drain label drain) :
    ContextInvariant { state with drain } := by
  have known := holds.registered registered
  constructor
  · exact holds.fits
  · intro _
    constructor
    · exact known.context
    · exact known.releases
    · intro started
      exact delivered_of_drainMove move (known.delivered started)
    · intro ended
      exact returned_of_drainMove move (known.returned ended)
  · intro other
    exact absurd registered other
  · exact holds.strong
  · exact holds.closes.step move

/-- Only the owner of the handle changes, and the references it holds. -/
theorem withHolder {holder : Holder} {strong : Nat}
    (fits : holder.Fits state.handle state.context)
    (returned : holder = .ended → state.handle = .registered → state.drain.drop = .returned)
    (strongEq : strong = ({ state with holder } : ContextState).owners) :
    ContextInvariant { state with holder, strong } where
  fits := fits
  registered isRegistered :=
    have known := holds.registered isRegistered
    ⟨known.context, known.releases, known.delivered,
      fun ended => returned ended isRegistered⟩
  unregistered other :=
    have free := holds.unregistered other
    ⟨free.context, free.releases, free.closing, free.untouched⟩
  strong := strongEq
  closes := holds.closes

theorem fits_of_holder {holder : Holder} (holderEq : state.holder = holder) :
    holder.Fits state.handle state.context :=
  holderEq ▸ holds.fits

/-- The drop of a registered handle gives up the references of its owner. -/
theorem handleDropped {references : Nat} (registered : state.handle = .registered)
    (returned : state.drain.drop = .returned)
    (referencesEq : references = state.holder.locals + state.handleReferences) :
    ContextInvariant
      { state with holder := .ended, strong := state.strong - references } := by
  have strong := holds.strong
  apply holds.withHolder
  · trivial
  · exact fun _ _ => returned
  · rw [strong, referencesEq]
    simp only [ContextState.owners, ContextState.handleReferences,
      ContextState.contextReferences, registered, Holder.locals]
    omega

theorem exits {rest : Program requestInterface (Except Error RawResponse)}
    (executing : state.holder = .executing rest) : ContextInvariant state.exits := by
  have strong := holds.strong
  unfold ContextState.exits
  split
  · next handleEq =>
    apply holds.withHolder
    · trivial
    · intro _ registered
      cases handleEq.symm.trans registered
    · simp only [ContextState.owners, ContextState.handleReferences,
        ContextState.contextReferences, handleEq, executing, Holder.locals] at strong ⊢
      omega
  · next handleEq =>
    apply holds.withHolder
    · exact handleEq
    · nofun
    · simpa only [ContextState.owners, ContextState.handleReferences,
        ContextState.contextReferences, handleEq, executing, Holder.locals] using strong
  · next handleEq =>
    apply holds.withHolder
    · exact handleEq
    · nofun
    · simpa only [ContextState.owners, ContextState.handleReferences,
        ContextState.contextReferences, handleEq, executing, Holder.locals] using strong

/-- A response is returned only with a registered handle. -/
theorem registered_of_response {response : RawResponse}
    (executing : state.holder = .executing (.pure (.ok response))) :
    state.handle = .registered := by
  have fits := holds.fits_of_holder executing
  by_contra other
  have free := holds.unregistered other
  cases handleEq : state.handle with
  | registered => exact other handleEq
  | unopened | plain =>
    cases contextEq : state.context with
    | parked => exact free.context contextEq
    | absent | released =>
      rw [handleEq, contextEq] at fits
      obtain ⟨error, impossible⟩ := fits
      cases impossible

theorem replies_registered {call : RequestCall}
    {rest : call.Reply → Program requestInterface (Except Error RawResponse)}
    (executing : state.holder = .executing (.call call rest))
    (registered : state.handle = .registered) (reply : call.Reply) :
    ContextInvariant { state.afterCall call reply with holder := .executing (rest reply) } := by
  have fits := holds.fits_of_holder executing
  rw [registered] at fits
  obtain ⟨later, makes⟩ := fits
  rw [afterCall_of_later later]
  have strong := holds.strong
  apply holds.withHolder
  · rw [registered]
    exact makes reply
  · nofun
  · simpa only [ContextState.owners, ContextState.handleReferences,
      ContextState.contextReferences, registered, executing, Holder.locals] using strong

section Unregistered

variable {call : RequestCall}
  {rest : call.Reply → Program requestInterface (Except Error RawResponse)}
  (executing : state.holder = .executing (.call call rest))
  (other : state.handle ≠ .registered)

include executing other

/-- A program that has more calls has not created the reference yet. -/
theorem absent_of_call : state.context = .absent ∧ RegistersOnce (.call call rest) := by
  have fits := holds.fits_of_holder executing
  have free := holds.unregistered other
  cases contextEq : state.context with
  | parked => exact absurd contextEq free.context
  | released =>
    rw [contextEq] at fits
    obtain ⟨error, impossible⟩ := (fits_executing_released other _).mp fits
    cases impossible
  | absent =>
    rw [contextEq] at fits
    exact ⟨rfl, (fits_executing_absent other _).mp fits⟩

/-- Before the context is created there is one reference. -/
theorem strong_of_call : state.strong = 1 := by
  have absent := (holds.absent_of_call executing other).1
  have closing := (holds.unregistered other).closing
  rw [holds.strong, ContextState.owners, executing, handleReferences_of_ne other,
    ContextState.contextReferences, absent, closing]
  rfl

/-- The handle is opened, or nothing changes. -/
theorem replies_other {handle : HandleKind} (stillOther : handle ≠ .registered)
    {next : Program requestInterface (Except Error RawResponse)}
    (registers : RegistersOnce next) :
    ContextInvariant { state with handle, holder := .executing next } := by
  obtain ⟨absent, -⟩ := holds.absent_of_call executing other
  have free := holds.unregistered other
  constructor
  · show (Holder.executing next).Fits handle state.context
    rw [absent]
    exact (fits_executing_absent stillOther next).mpr registers
  · intro registered
    exact absurd registered stillOther
  · intro _
    exact ⟨free.context, free.releases, free.closing, free.untouched⟩
  · rw [ContextState.owners, handleReferences_of_ne stillOther,
      ContextState.contextReferences]
    simp [holds.strong_of_call executing other, absent, free.closing, Holder.locals,
      ClosingPosition.clones]
  · exact holds.closes

/-- WinHTTP did not accept the context. -/
theorem replies_refused {next : Program requestInterface (Except Error RawResponse)}
    (fails : ∃ error, next = .pure (.error error)) :
    ContextInvariant
      { state with
        context := .released
        releases := state.releases + 1
        holder := .executing next } := by
  obtain ⟨absent, -⟩ := holds.absent_of_call executing other
  have free := holds.unregistered other
  constructor
  · exact (fits_executing_released other next).mpr fails
  · intro registered
    exact absurd registered other
  · intro _
    refine ⟨nofun, ?_, free.closing, free.untouched⟩
    show state.releases + 1 = 1
    rw [free.releases, absent]
    rfl
  · rw [ContextState.owners, handleReferences_of_ne, ContextState.contextReferences]
    · simp [holds.strong_of_call executing other, free.closing, Holder.locals,
        ClosingPosition.clones]
    · exact other
  · exact holds.closes

/-- WinHTTP accepted the context. -/
theorem replies_accepted {next : Program requestInterface (Except Error RawResponse)}
    (makes : next.Makes Later) :
    ContextInvariant
      { state with
        handle := .registered
        context := .parked
        strong := state.strong + 2
        holder := .executing next } := by
  obtain ⟨absent, -⟩ := holds.absent_of_call executing other
  have free := holds.unregistered other
  constructor
  · exact makes
  · intro _
    constructor
    · show ContextReference.parked = _
      rw [free.closing]
      rfl
    · show state.releases = _
      rw [free.releases, free.closing, absent]
      rfl
    · exact fun started => absurd free.closing started
    · nofun
  · exact fun impossible => absurd rfl impossible
  · rw [ContextState.owners, ContextState.handleReferences,
      ContextState.contextReferences]
    simp [holds.strong_of_call executing other, free.closing, Holder.locals,
      ClosingPosition.clones]
  · exact holds.closes

theorem replies_unregistered (reply : call.Reply) :
    ContextInvariant { state.afterCall call reply with holder := .executing (rest reply) } := by
  obtain ⟨-, registers⟩ := holds.absent_of_call executing other
  cases call with
  | setContextValue =>
    cases reply with
    | error code => exact holds.replies_refused executing other (registers.1 code)
    | ok value => exact holds.replies_accepted executing other (registers.2 value)
  | openRequest method path secure =>
    cases reply with
    | error code => exact holds.replies_other executing other other (registers _)
    | ok value =>
      have plain : HandleKind.plain ≠ .registered := nofun
      exact holds.replies_other executing other plain (registers _)
  | _ => exact holds.replies_other executing other other (registers reply)

end Unregistered

/-- A closing callback has the context. -/
theorem registered_of_closing
    (started : state.drain.record.closingDelivered = true ∨ state.closing ≠ .waiting) :
    state.handle = .registered := by
  by_contra other
  have free := holds.unregistered other
  rcases started with delivered | moved
  · cases free.untouched.closingDelivered.symm.trans delivered
  · exact moved free.closing

/-- Behind its start the closing callback is the one that WinHTTP has delivered. -/
theorem of_closing {closing : ClosingPosition} (closingEq : state.closing = closing)
    (started : closing ≠ .waiting) :
    state.drain.record.closingDelivered = true ∧
      (state.context = if closing.isEarly then .parked else .released) ∧
      state.releases = if closing.isEarly then 0 else 1 := by
  subst closingEq
  have known := holds.registered (holds.registered_of_closing (.inr started))
  exact ⟨known.delivered started, known.context, known.releases⟩

/-- The closing callback moves on. -/
theorem withClosing {closing : ClosingPosition} {context : ContextReference}
    {strong releases : Nat}
    (delivered : state.drain.record.closingDelivered = true)
    (contextEq : context = if closing.isEarly then .parked else .released)
    (releasesEq : releases = if closing.isEarly then 0 else 1)
    (strongEq : strong = ({ state with closing, context } : ContextState).owners) :
    ContextInvariant { state with closing, context, strong, releases } := by
  have registered := holds.registered_of_closing (.inl delivered)
  have known := holds.registered registered
  have fits := holds.fits
  constructor
  · rw [registered] at fits ⊢
    exact fits_registered fits _
  · intro _
    exact ⟨contextEq, releasesEq, fun _ => delivered, known.returned⟩
  · intro other
    exact absurd registered other
  · exact strongEq
  · exact holds.closes

theorem closingClones (delivered : state.drain.record.closingDelivered = true)
    (waiting : state.closing = .waiting) :
    ContextInvariant { state with closing := .cloned, strong := state.strong + 1 } := by
  have known := holds.registered (holds.registered_of_closing (.inl delivered))
  have contextEq := known.context
  have releasesEq := known.releases
  rw [waiting] at contextEq releasesEq
  apply holds.withClosing
  · exact delivered
  · exact contextEq
  · exact releasesEq
  · rw [holds.strong]
    simp only [ContextState.owners, ContextState.handleReferences,
      ContextState.contextReferences, waiting, ClosingPosition.clones]

theorem contextDropped (cloned : state.closing = .cloned) :
    ContextInvariant
      { state with
        closing := .released
        context := .released
        strong := state.strong - 1
        releases := state.releases + 1 } := by
  obtain ⟨delivered, contextEq, releasesEq⟩ := holds.of_closing cloned nofun
  apply holds.withClosing
  · exact delivered
  · rfl
  · rw [releasesEq]
    rfl
  · rw [holds.strong]
    simp [ContextState.owners, ContextState.handleReferences,
      ContextState.contextReferences, cloned, contextEq, ClosingPosition.clones,
      ClosingPosition.isEarly]

theorem finalCallbackSeen {drain : DrainState} (released : state.closing = .released)
    (move : DrainMove state.drain .finalCallbackSeen drain) :
    ContextInvariant { state with closing := .seen, drain } := by
  obtain ⟨delivered, contextEq, releasesEq⟩ := holds.of_closing released nofun
  have seen : ContextInvariant { state with closing := .seen } := by
    apply holds.withClosing
    · exact delivered
    · exact contextEq
    · exact releasesEq
    · rw [holds.strong]
      simp [ContextState.owners, ContextState.handleReferences,
        ContextState.contextReferences, released, ClosingPosition.clones]
  exact seen.drains (holds.registered_of_closing (.inl delivered)) move

theorem closingFinishes (seen : state.closing = .seen) :
    ContextInvariant { state with closing := .finished, strong := state.strong - 1 } := by
  obtain ⟨delivered, contextEq, releasesEq⟩ := holds.of_closing seen nofun
  apply holds.withClosing
  · exact delivered
  · exact contextEq
  · exact releasesEq
  · rw [holds.strong]
    simp [ContextState.owners, ContextState.handleReferences,
      ContextState.contextReferences, seen, ClosingPosition.clones]

theorem plainCloses (closing : state.holder = .closingPlain) :
    ContextInvariant
      { state with
        holder := .ended
        strong := state.strong - 1
        drain := { state.drain with record := state.drain.record.close.2 } } := by
  have plain : state.handle = .plain := holds.fits_of_holder closing
  have free := holds.unregistered (by rw [plain]; nofun)
  have strong := holds.strong
  constructor
  · trivial
  · intro registered
    cases plain.symm.trans registered
  · intro _
    exact ⟨free.context, free.releases, free.closing, free.untouched.callbacks,
      free.untouched.closingDelivered, free.untouched.closed⟩
  · simp only [ContextState.owners, ContextState.handleReferences,
      ContextState.contextReferences, plain, closing, Holder.locals] at strong ⊢
    omega
  · exact ⟨fun _ => rfl, holds.closes.seen, fun _ => rfl⟩

theorem step {label : ContextStep} {next : ContextState}
    (move : ContextMove state label next) : ContextInvariant next := by
  have strong := holds.strong
  cases move with
  | replies executing =>
    by_cases registered : state.handle = .registered
    · exact holds.replies_registered executing registered _
    · exact holds.replies_unregistered executing registered _
  | returnsResponse executing =>
    have registered := holds.registered_of_response executing
    apply holds.withHolder
    · exact registered
    · nofun
    · simp only [ContextState.owners, ContextState.handleReferences,
        ContextState.contextReferences, registered, executing, Holder.locals] at strong ⊢
      omega
  | returnsError executing => exact holds.exits executing
  | cancelled executing => exact holds.exits executing
  | plainCloses closing => exact holds.plainCloses closing
  | responseDropped responded =>
    have registered : state.handle = .registered := holds.fits_of_holder responded
    apply holds.withHolder
    · exact registered
    · nofun
    · simpa only [ContextState.owners, ContextState.handleReferences,
        ContextState.contextReferences, registered, responded, Holder.locals] using strong
  | drains registered move => exact holds.drains registered move
  | closingClones delivered waiting => exact holds.closingClones delivered waiting
  | contextDropped cloned => exact holds.contextDropped cloned
  | finalCallbackSeen released move => exact holds.finalCallbackSeen released move
  | closingFinishes seen => exact holds.closingFinishes seen
  | unwound returned unwinding =>
    have registered : state.handle = .registered := holds.fits_of_holder unwinding
    apply holds.handleDropped registered returned
    simp only [ContextState.handleReferences, registered, unwinding, Holder.locals]
  | released returned releasing =>
    have registered : state.handle = .registered := holds.fits_of_holder releasing
    apply holds.handleDropped registered returned
    simp only [ContextState.handleReferences, registered, releasing, Holder.locals]

end ContextInvariant

theorem contextInvariant_initial
    {program : Program requestInterface (Except Error RawResponse)}
    (registers : RegistersOnce program) (origin : Origin) :
    ContextInvariant (.initial program origin) where
  fits := registers
  registered := nofun
  unregistered _ := ⟨nofun, rfl, rfl, rfl, rfl, rfl⟩
  strong := rfl
  closes := ⟨nofun, nofun, nofun⟩

theorem contextInvariant_of_run {owner : WinHttpRequestHandle} {initial last : ContextState}
    {labels : List ContextStep} (holds : ContextInvariant initial)
    (reaches : run (contextStep owner) initial labels = some last) :
    ContextInvariant last :=
  invariant_of_run ContextInvariant
    (fun _ _ _ invariant steps => invariant.step (contextMove_of_contextStep steps)) holds
    reaches

/-- The retained reference is released once, and no callback starts behind the release.
Nothing is left when the handle is dropped and the closing callback of a handle with the
context has returned. -/
structure ReleasesOnce (owner : WinHttpRequestHandle) (state : ContextState) : Prop where
  releases : state.releases = if state.context = .released then 1 else 0
  closing : state.drain.record.closingDelivered = true → state.closing = .waiting →
    state.context = .parked ∧ 0 < state.strong
  late : state.context = .released →
    contextStep owner state (.drains .callbackStarts) = none
  due : state.holder = .ended → state.context = .parked →
    state.drain.record.isOpen = false
  settled : state.holder = .ended →
    (state.handle = .registered → state.closing = .finished) →
      state.strong = 0 ∧ state.context ≠ .parked

/-- A running callback has a context that was not released. -/
def Borrows (state : ContextState) : Prop :=
  ∀ position ∈ state.drain.callbacks, position ≠ .finished →
    state.context = .parked ∧ 0 < state.strong

namespace ContextInvariant

variable {state : ContextState} (holds : ContextInvariant state)

include holds

theorem registered_of_parked (parked : state.context = .parked) :
    state.handle = .registered := by
  by_contra other
  exact (holds.unregistered other).context parked

/-- A context that was not released is still owned. -/
theorem parked_of_isEarly (registered : state.handle = .registered)
    (early : state.closing.isEarly = true) :
    state.context = .parked ∧ 0 < state.strong := by
  have parked : state.context = .parked := by
    rw [(holds.registered registered).context, if_pos early]
  refine ⟨parked, ?_⟩
  rw [holds.strong, ContextState.owners, ContextState.contextReferences, if_pos parked]
  omega

theorem releases_eq : state.releases = if state.context = .released then 1 else 0 := by
  by_cases registered : state.handle = .registered
  · have known := holds.registered registered
    rw [known.releases, known.context]
    cases state.closing <;> rfl
  · have free := holds.unregistered registered
    rw [free.releases]
    cases contextEq : state.context with
    | parked => exact absurd contextEq free.context
    | absent | released => rfl

theorem late (owner : WinHttpRequestHandle) (released : state.context = .released) :
    contextStep owner state (.drains .callbackStarts) = none := by
  by_cases registered : state.handle = .registered
  · have known := holds.registered registered
    have started : state.closing ≠ .waiting := by
      intro waiting
      have parked := known.context
      rw [waiting, released] at parked
      cases parked
    simp [contextStep, drainStep, known.delivered started]
  · exact if_neg fun enabled => registered enabled.1

theorem settled (ended : state.holder = .ended)
    (closed : state.handle = .registered → state.closing = .finished) :
    state.strong = 0 ∧ state.context ≠ .parked := by
  have notParked : state.context ≠ .parked := by
    intro parked
    have registered := holds.registered_of_parked parked
    have released := (holds.registered registered).context
    rw [closed registered, parked] at released
    cases released
  have noClone : state.closing.clones = 0 := by
    by_cases registered : state.handle = .registered
    · rw [closed registered]
      rfl
    · rw [(holds.unregistered registered).closing]
      rfl
  have noHandle : state.handleReferences = 0 := by
    unfold ContextState.handleReferences
    rw [ended]
    cases state.handle <;> rfl
  refine ⟨?_, notParked⟩
  rw [holds.strong, ContextState.owners, ContextState.contextReferences,
    if_neg notParked, noClone, noHandle, ended]
  rfl

theorem releasesOnce (owner : WinHttpRequestHandle) : ReleasesOnce owner state where
  releases := holds.releases_eq
  closing delivered waiting :=
    holds.parked_of_isEarly (holds.registered_of_closing (.inl delivered))
      (by rw [waiting]; rfl)
  late := holds.late owner
  due ended parked := by
    have registered := holds.registered_of_parked parked
    exact holds.closes.returned ((holds.registered registered).returned ended)
  settled := holds.settled

end ContextInvariant

section Callbacks

variable {state next : ContextState}

/-- Behind the start of the closing callback, no callback of the request runs. -/
def EndsBeforeClosing (drain : DrainState) : Prop :=
  drain.record.closingDelivered = true → ∀ position ∈ drain.callbacks, position = .finished

theorem EndsBeforeClosing.step {drain after : DrainState} {label : DrainStep}
    (ends : EndsBeforeClosing drain) (move : DrainMove drain label after)
    (isLast : label = .closingStarts → ∀ position ∈ drain.callbacks, position = .finished) :
    EndsBeforeClosing after := by
  have noneAt : ∀ {index : Nat} {position : CallbackPosition},
      drain.callbacks[index]? = some position → position ≠ .finished →
        drain.record.closingDelivered ≠ true := by
    intro index position found running delivered
    exact running (ends delivered position (List.mem_of_getElem? found))
  intro delivered
  cases move with
  | callbackStarts live => exact absurd delivered (by simp [live])
  | callbackEnters found | callbackOverflows found | abortLatches found
  | abortCloses found | callbackLeaves found => exact absurd delivered (noneAt found nofun)
  | closingStarts => exact isLast rfl
  | _ => exact ends delivered

theorem afterCall_drain (state : ContextState) (call : RequestCall) (reply : call.Reply) :
    (state.afterCall call reply).drain = state.drain := by
  cases call with
  | openRequest _ _ _ | setContextValue => cases reply <;> rfl
  | _ => rfl

theorem exits_drain (state : ContextState) : state.exits.drain = state.drain := by
  unfold ContextState.exits
  split <;> rfl

/-- Only the steps around the handle start and end callbacks. -/
theorem endsBeforeClosing_of_contextMove {label : ContextStep}
    (ends : EndsBeforeClosing state.drain) (isLast : ClosingIsLast state label)
    (move : ContextMove state label next) : EndsBeforeClosing next.drain := by
  cases move with
  | replies =>
    rw [show ContextState.drain { state.afterCall _ _ with holder := _ } = state.drain from
      afterCall_drain state _ _]
    exact ends
  | returnsError | cancelled => rwa [exits_drain]
  | drains registered move =>
    exact ends.step move fun starts => by
      subst starts
      exact isLast
  | finalCallbackSeen released move => exact ends.step move nofun
  | _ => exact ends

theorem endsBeforeClosing_of_run {owner : WinHttpRequestHandle} {labels : List ContextStep}
    (ends : EndsBeforeClosing state.drain)
    (guarded : Guarded (contextStep owner) ClosingIsLast state labels)
    (reaches : run (contextStep owner) state labels = some next) :
    EndsBeforeClosing next.drain := by
  apply invariant_of_guarded_run (fun state => EndsBeforeClosing state.drain) _ ends guarded
    reaches
  intro current label after isLast holds steps
  exact endsBeforeClosing_of_contextMove holds isLast (contextMove_of_contextStep steps)

theorem ContextInvariant.borrows (holds : ContextInvariant state)
    (ends : EndsBeforeClosing state.drain) : Borrows state := by
  intro position member running
  have registered : state.handle = .registered := by
    by_contra other
    have none := (holds.unregistered other).untouched.callbacks
    rw [none] at member
    cases member
  have known := holds.registered registered
  apply holds.parked_of_isEarly registered
  have waiting : state.closing = .waiting := by
    by_contra started
    exact running (ends (known.delivered started) position member)
  rw [waiting]
  rfl

/-- The closing callback does not wait for a callback that it finds running. -/
theorem released_of_overlap (owner : WinHttpRequestHandle)
    (delivered : state.drain.record.closingDelivered = true)
    (waiting : state.closing = .waiting)
    (running : ∃ position ∈ state.drain.callbacks, position ≠ .finished) :
    ∃ next, run (contextStep owner) state [.closingClones, .contextDropped] = some next ∧
      ¬ Borrows next := by
  obtain ⟨position, member, unfinished⟩ := running
  refine ⟨_, by simp only [run, contextStep, delivered, waiting]; rfl, fun borrows => ?_⟩
  have impossible := (borrows position member unfinished).1
  cases impossible

end Callbacks

def accepts : (call : RequestCall) → call.Reply
  | .connect _ _ | .openRequest _ _ _ | .setContextValue | .setProxyDirect
  | .setProxyNamed _ | .setProxyCredentials _ _ | .setNoClientCert
  | .setSecurityFlags _ | .addRequestHeaders _ | .sendRequest _ _ _
  | .writeData _ _ | .receiveResponse => Except.ok ()
  | .storeSendBody _ | .listen | .tlsFailureFlags => (0 : Nat)
  | .takeSendBody => ()
  | .poll _ => Except.ok .complete
  | .takeAbortReason => none
  | .isAborted => false
  | .queryUrl | .queryVersion => none
  | .queryStatusCode => Except.ok 200
  | .queryProtocolUsed => none
  | .queryRawHeaders => Except.ok ""

/-- The future is dropped while a callback runs, and waits for the last one. -/
def cancelledRun : List ContextStep :=
  [.replies accepts, .replies accepts, .replies accepts, .drains .callbackStarts,
    .cancelled, .drains .dropChecksAbort, .drains .dropCloses,
    .drains (.enterCallback 0), .drains (.leaveCallback 0), .drains .closingStarts,
    .closingClones, .contextDropped, .finalCallbackSeen, .drains .dropWaits,
    .handleDropped, .closingFinishes]

/-- The future is dropped while a callback has borrowed the context but not entered yet.
Everything is released, and then the callback goes on. -/
def overlappedRun : List ContextStep :=
  [.replies accepts, .replies accepts, .replies accepts, .drains .callbackStarts,
    .cancelled, .drains .dropChecksAbort, .drains .dropCloses, .drains .closingStarts,
    .closingClones, .contextDropped, .finalCallbackSeen, .drains .dropWaits,
    .handleDropped, .closingFinishes]

end Wrest.CallbackContext
