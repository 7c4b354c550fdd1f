import Wrest.CallbackDispatches
import Wrest.UrlRoundTrips

/-!
# Safety of the callbacks of a request

WinHTTP decides what it reports, and the callback believes little of it: a pointer may be
null, and a payload may be shorter than its status promises.  What it relies on is that a
payload is as long as its length says, or ends in NUL if it is the text of a tracing event,
and that nothing is reported with a context after its final report.
-/

namespace Wrest.Callback

open Win32 Redirect WideString

section Safety

variable {libraries : UrlLibraries}

def textStatuses : List Nat :=
  [WINHTTP_CALLBACK_STATUS_RESOLVING_NAME, WINHTTP_CALLBACK_STATUS_NAME_RESOLVED,
    WINHTTP_CALLBACK_STATUS_CONNECTING_TO_SERVER, WINHTTP_CALLBACK_STATUS_CONNECTED_TO_SERVER]

/-- The statuses that end an asynchronous operation. -/
def completionStatuses : List Nat :=
  [WINHTTP_CALLBACK_STATUS_SENDREQUEST_COMPLETE, WINHTTP_CALLBACK_STATUS_HEADERS_AVAILABLE,
    WINHTTP_CALLBACK_STATUS_READ_COMPLETE, WINHTTP_CALLBACK_STATUS_WRITE_COMPLETE,
    WINHTTP_CALLBACK_STATUS_REQUEST_ERROR]

/-- The number of bytes that the length stands for: a redirect counts code units. -/
def Delivery.size (delivery : Delivery) : Nat :=
  if delivery.status = WINHTTP_CALLBACK_STATUS_REDIRECT then 2 * delivery.infoLength
  else delivery.infoLength

/-- What WinHTTP promises of a delivery.  The pointer may be null, the payload may have any
length and content. -/
structure Delivery.Readable (address : Nat) (delivery : Delivery) : Prop where
  context : delivery.context = 0 ∨ delivery.context = address
  spans : delivery.status ∉ textStatuses →
    ∀ memory, delivery.info = some memory → delivery.size ≤ memory.length
  terminated : delivery.status ∈ textStatuses →
    ∀ memory, delivery.info = some memory → 0 ∈ units memory

def Delivery.isFinal (delivery : Delivery) : Bool :=
  delivery.context != 0 && delivery.status == WINHTTP_CALLBACK_STATUS_HANDLE_CLOSING

def Delivery.isCompletion (delivery : Delivery) : Bool :=
  delivery.context != 0 && completionStatuses.contains delivery.status

theorem length_units (memory : List UInt8) : (units memory).length = memory.length / 2 := by
  induction memory using units.induct with
  | case1 low high rest ih => simp [units, ih]; omega
  | case2 memory short =>
    rcases memory with _ | ⟨low, _ | ⟨high, rest⟩⟩
    · rfl
    · simp [units]
    · exact absurd rfl (short low high rest)

theorem payloadU32_isSome {info : Info} {infoLength : Nat}
    (spans : ∀ memory, info = some memory → infoLength ≤ memory.length)
    (size offset fallback : Nat) (fits : offset + dwordSize ≤ size) :
    ∃ value, payloadU32 info infoLength size offset fallback = some value := by
  cases info with
  | none => exact ⟨fallback, rfl⟩
  | some memory =>
    by_cases long : size ≤ infoLength
    · have inside : offset + dwordSize ≤ memory.length :=
        fits.trans (long.trans (spans memory rfl))
      exact ⟨_, (if_pos long).trans (if_pos inside)⟩
    · exact ⟨fallback, if_neg long⟩

theorem widePointer_isSome {info : Info} {charCount : Nat}
    (spans : ∀ memory, info = some memory → 2 * charCount ≤ memory.length) :
    ∃ pointer, widePointer info (some charCount) = some pointer := by
  cases info with
  | none => exact ⟨none, rfl⟩
  | some memory =>
    have inside : charCount ≤ (units memory).length := by
      have span := spans memory rfl
      rw [length_units]
      omega
    exact ⟨_, if_pos inside⟩

theorem readText_isSome {info : Info}
    (terminated : ∀ memory, info = some memory → 0 ∈ units memory) :
    ∃ text, readText info = some text := by
  cases info with
  | none => exact ⟨_, rfl⟩
  | some memory =>
    refine ⟨wideToStringLossy (some (units memory)) none, ?_⟩
    simp only [readText, widePointer, if_pos (terminated memory rfl), Option.map_some]

theorem logVerboseStatus_isSome {delivery : Delivery} {address : Nat}
    (readable : delivery.Readable address)
    (counted : delivery.status ≠ WINHTTP_CALLBACK_STATUS_REDIRECT) :
    ∃ events, logVerboseStatus delivery.status delivery.info delivery.infoLength =
      some events := by
  have text : delivery.status ∈ textStatuses → ∃ text, readText delivery.info = some text :=
    fun textual => readText_isSome (readable.terminated textual)
  unfold logVerboseStatus
  by_cases resolving : delivery.status = WINHTTP_CALLBACK_STATUS_RESOLVING_NAME
  · obtain ⟨name, reads⟩ := text (by rw [resolving]; decide)
    exact ⟨_, by rw [if_pos resolving, reads, Option.map_some]⟩
  by_cases resolved : delivery.status = WINHTTP_CALLBACK_STATUS_NAME_RESOLVED
  · obtain ⟨name, reads⟩ := text (by rw [resolved]; decide)
    exact ⟨_, by rw [if_neg resolving, if_pos resolved, reads, Option.map_some]⟩
  rw [if_neg resolving, if_neg resolved]
  by_cases connecting : delivery.status = WINHTTP_CALLBACK_STATUS_CONNECTING_TO_SERVER
  · obtain ⟨ip, reads⟩ := text (by rw [connecting]; decide)
    exact ⟨_, by rw [if_pos connecting, reads, Option.map_some]⟩
  by_cases connected : delivery.status = WINHTTP_CALLBACK_STATUS_CONNECTED_TO_SERVER
  · obtain ⟨ip, reads⟩ := text (by rw [connected]; decide)
    exact ⟨_, by rw [if_neg connecting, if_pos connected, reads, Option.map_some]⟩
  have counts : delivery.status ∉ textStatuses := by
    simp [textStatuses, resolving, resolved, connecting, connected]
  have spans : ∀ memory, delivery.info = some memory → delivery.infoLength ≤ memory.length := by
    simpa only [Delivery.size, if_neg counted] using readable.spans counts
  obtain ⟨bytes, reads⟩ := payloadU32_isSome spans dwordSize 0 0 le_rfl
  rw [if_neg connecting, if_neg connected, reads, Option.map_some, Option.map_some]
  split
  · exact ⟨_, rfl⟩
  · split
    · exact ⟨_, rfl⟩
    · split
      · exact ⟨_, rfl⟩
      · split <;> exact ⟨_, rfl⟩

/-- What a callback before the final one does to the state. -/
inductive Effect (state : CallbackState) : CallbackState → Prop
  | nothing : Effect state state
  | signals (event : CallbackEvent) : Effect state (state.signals event)
  | flags (flags : Nat) : Effect state (state.storesFlags flags)
  | redirects (callback : RedirectCallback) :
      Effect state ((state.logsTarget callback.target).redirects callback)
  | logs (events : List VerboseEvent) : Effect state (state.logs events)

variable (libraries) in
/-- An arm reads within its payload, and a completion is signalled whatever the payload
is. -/
theorem dispatch_effect {delivery : Delivery} {address : Nat}
    (readable : delivery.Readable address) (state : CallbackState) :
    ∃ next, dispatch libraries state delivery = some next ∧ Effect state next ∧
      (completionStatuses.contains delivery.status = true →
        ∃ event, next = state.signals event) := by
  have notRedirect : ∀ {status : Nat}, delivery.status = status →
      status ∉ textStatuses ∧ status ≠ WINHTTP_CALLBACK_STATUS_REDIRECT →
        ∀ memory, delivery.info = some memory → delivery.infoLength ≤ memory.length := by
    intro status isStatus other
    have counts : delivery.status ∉ textStatuses := isStatus ▸ other.1
    have counted : delivery.status ≠ WINHTTP_CALLBACK_STATUS_REDIRECT := isStatus ▸ other.2
    simpa only [Delivery.size, if_neg counted] using readable.spans counts
  have completes : ∀ {next event}, next = state.signals event → Effect state next ∧
      (completionStatuses.contains delivery.status = true →
        ∃ event, next = state.signals event) := by
    rintro _ event rfl
    exact ⟨.signals event, fun _ => ⟨event, rfl⟩⟩
  unfold dispatch
  by_cases sent : delivery.status = WINHTTP_CALLBACK_STATUS_SENDREQUEST_COMPLETE
  · exact ⟨_, if_pos sent, completes rfl⟩
  by_cases headers : delivery.status = WINHTTP_CALLBACK_STATUS_HEADERS_AVAILABLE
  · exact ⟨_, by rw [if_neg sent, if_pos headers], completes rfl⟩
  by_cases read : delivery.status = WINHTTP_CALLBACK_STATUS_READ_COMPLETE
  · exact ⟨_, by rw [if_neg sent, if_neg headers, if_pos read], completes rfl⟩
  rw [if_neg sent, if_neg headers, if_neg read]
  by_cases written : delivery.status = WINHTTP_CALLBACK_STATUS_WRITE_COMPLETE
  · obtain ⟨bytes, reads⟩ := payloadU32_isSome (notRedirect written (by decide))
      dwordSize 0 0 le_rfl
    exact ⟨_, by rw [if_pos written, reads, Option.map_some], completes rfl⟩
  by_cases failed : delivery.status = WINHTTP_CALLBACK_STATUS_REQUEST_ERROR
  · obtain ⟨code, reads⟩ := payloadU32_isSome (notRedirect failed (by decide))
      asyncResultSize dwErrorOffset ERROR_WINHTTP_INTERNAL_ERROR (by decide)
    exact ⟨_, by rw [if_neg written, if_pos failed, reads, Option.map_some], completes rfl⟩
  rw [if_neg written, if_neg failed]
  have other : ∀ {next : CallbackState}, completionStatuses.contains delivery.status = true →
      ∃ event, next = state.signals event := by
    intro next completion
    simp [completionStatuses, sent, headers, read, written, failed] at completion
  by_cases insecure : delivery.status = WINHTTP_CALLBACK_STATUS_SECURE_FAILURE
  · obtain ⟨flags, reads⟩ := payloadU32_isSome (notRedirect insecure (by decide))
      dwordSize 0 0 le_rfl
    exact ⟨_, by rw [if_pos insecure, reads, Option.map_some], .flags flags, other⟩
  by_cases redirected : delivery.status = WINHTTP_CALLBACK_STATUS_REDIRECT
  · have counts : delivery.status ∉ textStatuses := by
      rw [redirected]
      decide
    have spans : ∀ memory, delivery.info = some memory →
        2 * delivery.infoLength ≤ memory.length := by
      simpa only [Delivery.size, if_pos redirected] using readable.spans counts
    obtain ⟨pointer, reads⟩ := widePointer_isSome spans
    exact ⟨_, by rw [if_neg insecure, if_pos redirected, reads, Option.map_some],
      .redirects ⟨_, delivery.removal⟩, other⟩
  rw [if_neg insecure, if_neg redirected]
  cases state.verbose with
  | true =>
    obtain ⟨events, reads⟩ := logVerboseStatus_isSome readable redirected
    exact ⟨_, by rw [if_pos rfl, reads, Option.map_some], .logs events, other⟩
  | false => exact ⟨_, rfl, .logs [], other⟩

/-- What holds across callbacks.  The first abort closes the handle and keeps its reason,
a listener waits until it hears an event, and what it has heard does not change. -/
structure Continues (state next : CallbackState) : Prop where
  address : next.address = state.address
  closes : next.closes = state.closes +
    if next.request.isAborted && !state.request.isAborted then 1 else 0
  abort : state.request.isAborted = true →
    next.request.callbackAbort = state.request.callbackAbort
  waiting : ∀ listener, state.request.signal.sender = some listener →
    next.request.signal.sender = some listener ∨
      ∃ event, next.request.signal.poll listener = some (.ok event)
  heard : ∀ listener result, state.request.signal.poll listener = some result →
    next.request.signal.poll listener = some result

theorem Continues.refl (state : CallbackState) : Continues state state where
  address := rfl
  closes := by simp
  abort _ := rfl
  waiting _ installed := .inl installed
  heard _ _ polled := polled

theorem Continues.signals (state : CallbackState) (event : CallbackEvent) :
    Continues state (state.signals event) where
  address := rfl
  closes := by simp [CallbackState.signals, RequestState.isAborted]
  abort _ := rfl
  waiting _ installed := .inr ⟨event, CompletionSignal.poll_signal installed event⟩
  heard listener result polled := by
    have other : state.request.signal.sender ≠ some listener := by
      intro installed
      rw [CompletionSignal.poll_of_sender installed] at polled
      cases polled
    exact (CompletionSignal.poll_signal_of_ne other event).trans polled

theorem closes_treated (state : CallbackState) (next : RedirectState) :
    (state.treated next).closes = state.closes +
      if next.request.isAborted && !state.request.isAborted then 1 else 0 := by
  unfold CallbackState.treated
  cases next.request.isAborted <;> cases state.request.isAborted <;> rfl

theorem Continues.redirects (state : CallbackState) (callback : RedirectCallback) :
    Continues state (state.redirects callback) where
  address := rfl
  closes := closes_treated state _
  abort aborted := redirectCallback_callbackAbort aborted callback
  waiting _ installed := .inl ((congrArg CompletionSignal.sender
    (redirectCallback_signal _ callback)).trans installed)
  heard listener _ polled := (congrArg (CompletionSignal.poll · listener)
    (redirectCallback_signal _ callback)).trans polled

theorem Continues.logs (state : CallbackState) (events : List VerboseEvent) :
    Continues state (state.logs events) := by
  obtain ⟨address, verbose, request, headers, retained, strong, closes, log⟩ := state
  cases verbose <;> exact { Continues.refl _ with }

theorem Continues.trans {first middle last : CallbackState} (before : Continues first middle)
    (after : Continues middle last) : Continues first last where
  address := after.address.trans before.address
  closes := by
    have sticky : ∀ {state next : CallbackState}, Continues state next →
        state.request.isAborted = true → next.request.isAborted = true := by
      intro state next step aborted
      rw [RequestState.isAborted, step.abort aborted]
      exact aborted
    rw [after.closes, before.closes]
    cases isFirst : first.request.isAborted with
    | true =>
      have isMiddle := sticky before isFirst
      simp [isMiddle]
    | false =>
      cases isMiddle : middle.request.isAborted with
      | true => simp [sticky after isMiddle]
      | false => simp
  abort aborted := by
    have stillAborted : middle.request.isAborted = true := by
      rw [RequestState.isAborted, before.abort aborted]
      exact aborted
    exact (after.abort stillAborted).trans (before.abort aborted)
  waiting listener installed := by
    rcases before.waiting listener installed with still | ⟨event, heard⟩
    · exact after.waiting listener still
    · exact .inr ⟨event, after.heard listener _ heard⟩
  heard listener result polled := after.heard listener result (before.heard listener result polled)

theorem Effect.continues {state next : CallbackState} (effect : Effect state next) :
    Continues state next := by
  cases effect with
  | nothing => exact .refl state
  | signals event => exact .signals state event
  | flags flags => exact { Continues.refl state with }
  | redirects callback =>
    refine Continues.trans ?_ (.redirects _ callback)
    cases callback.target with
    | invalidUtf16 | unparsable => exact .refl state
    | valid parsed => exact .logs state _
  | logs events => exact .logs state events

/-- Only the final callback changes the context and the close state. -/
theorem Effect.keeps {state next : CallbackState} (effect : Effect state next) :
    next.retained = state.retained ∧ next.strong = state.strong ∧
      next.request.closeState = state.request.closeState := by
  have logs : ∀ events, (state.logs events).retained = state.retained ∧
      (state.logs events).strong = state.strong ∧
        (state.logs events).request.closeState = state.request.closeState := by
    intro events
    unfold CallbackState.logs
    split <;> exact ⟨rfl, rfl, rfl⟩
  cases effect with
  | nothing => exact ⟨rfl, rfl, rfl⟩
  | signals event => exact ⟨rfl, rfl, rfl⟩
  | flags flags => exact ⟨rfl, rfl, rfl⟩
  | redirects callback =>
    have kept : ∀ logged : CallbackState,
        (logged.redirects callback).request.closeState = logged.request.closeState :=
      fun logged => closeState_redirectCallback _ callback
    cases target : callback.target with
    | invalidUtf16 | unparsable => exact ⟨rfl, rfl, kept state⟩
    | valid parsed =>
      obtain ⟨retained, strong, closeState⟩ := logs [.redirect parsed.serialized]
      exact ⟨retained, strong, (kept _).trans closeState⟩
  | logs events => exact logs events

theorem Continues.finishes (state : CallbackState) : Continues state state.finishes :=
  { Continues.refl state with }

/-- The safety of the callbacks of a request, from the registration of its context on. -/
structure CallbackSafety (state : CallbackState) (deliveries : List Delivery)
    (last : CallbackState) : Prop where
  continues : Continues state last
  idle : last.request.closeState.activeCallbacks = state.request.closeState.activeCallbacks
  closed : last.request.closeState.closed =
    (state.request.closeState.closed || deliveries.any Delivery.isFinal)
  retained : last.retained = !deliveries.any Delivery.isFinal
  strong : last.strong = state.strong - (deliveries.any Delivery.isFinal).toNat
  answered : deliveries.any Delivery.isCompletion = true → ∀ listener,
    state.request.signal.sender = some listener →
      ∃ event, last.request.signal.poll listener = some (.ok event)

theorem isFinal_of_context {delivery : Delivery} (foreign : delivery.context = 0) :
    delivery.isFinal = false := by
  simp [Delivery.isFinal, foreign]

theorem isCompletion_of_context {delivery : Delivery} (foreign : delivery.context = 0) :
    delivery.isCompletion = false := by
  simp [Delivery.isCompletion, foreign]

/-- Callbacks without a context are those of other handles. -/
theorem winhttpCallbacks_of_context {state : CallbackState} {deliveries : List Delivery}
    (foreign : ∀ delivery ∈ deliveries, delivery.context = 0) :
    winhttpCallbacks libraries state deliveries = some state := by
  induction deliveries with
  | nil => rfl
  | cons delivery deliveries ih =>
    have first : winhttpCallback libraries state delivery = some state :=
      if_pos (foreign delivery List.mem_cons_self)
    rw [winhttpCallbacks, List.foldlM_cons, first]
    exact ih fun other member => foreign other (List.mem_cons_of_mem _ member)

/-- One arm, and then the rest of the run. -/
theorem CallbackSafety.cons {state next last : CallbackState} {delivery : Delivery}
    {deliveries : List Delivery} (effect : Effect state next)
    (early : delivery.isFinal = false)
    (completes : delivery.isCompletion = true → ∃ event, next = state.signals event)
    (rest : CallbackSafety next deliveries last) :
    CallbackSafety state (delivery :: deliveries) last := by
  obtain ⟨retained, strong, closeState⟩ := effect.keeps
  refine ⟨effect.continues.trans rest.continues, ?_, ?_, ?_, ?_, ?_⟩
  · rw [rest.idle, closeState]
  · rw [rest.closed, closeState, List.any_cons, early, Bool.false_or]
  · rw [rest.retained, List.any_cons, early, Bool.false_or]
  · rw [rest.strong, strong, List.any_cons, early, Bool.false_or]
  · intro answers listener installed
    rcases effect.continues.waiting listener installed with waits | ⟨event, heard⟩
    · cases completion : delivery.isCompletion with
      | true =>
        obtain ⟨event, rfl⟩ := completes completion
        cases waits
      | false =>
        rw [List.any_cons, completion, Bool.false_or] at answers
        exact rest.answered answers listener waits
    · exact ⟨event, rest.continues.heard listener _ heard⟩

/-- The final callback, after which the context is gone. -/
theorem CallbackSafety.of_final {state : CallbackState} {delivery : Delivery}
    {deliveries : List Delivery} (isFinal : delivery.isFinal = true)
    (other : delivery.isCompletion = false)
    (foreign : ∀ later ∈ deliveries, later.context = 0) :
    CallbackSafety state (delivery :: deliveries) state.finishes := by
  have once : (delivery :: deliveries).any Delivery.isFinal = true := by simp [isFinal]
  have quiet : (delivery :: deliveries).any Delivery.isCompletion = false := by
    rw [List.any_cons, other, Bool.false_or, List.any_eq_false]
    exact fun later member => by simp [isCompletion_of_context (foreign later member)]
  refine ⟨.finishes state, rfl, ?_, ?_, ?_, ?_⟩
  · rw [once, Bool.or_true]
    rfl
  · rw [once]
    rfl
  · rw [once]
    rfl
  · rw [quiet]
    nofun

variable (libraries) in
/-- Whatever WinHTTP reports, and whatever is behind the pointers, the callback reads
within the payload and uses the context only until it is released, which the final
callback does once.  The active callbacks are counted down again, the handle is closed at
most once, and a completion never leaves a listener waiting. -/
theorem winhttpCallbacks_isSafe (deliveries : List Delivery) (state : CallbackState)
    (registered : state.address ≠ 0) (retained : state.retained = true)
    (room : state.request.closeState.activeCallbacks < usizeMax)
    (readable : ∀ delivery ∈ deliveries, delivery.Readable state.address)
    (ordered : deliveries.Pairwise fun earlier later =>
      earlier.isFinal = true → later.context = 0) :
    ∃ last, winhttpCallbacks libraries state deliveries = some last ∧
      CallbackSafety state deliveries last := by
  induction deliveries generalizing state with
  | nil =>
    refine ⟨state, rfl, .refl state, rfl, ?_, ?_, rfl, nofun⟩
    · simp
    · simp [retained]
  | cons delivery deliveries ih =>
    obtain ⟨after, ordered⟩ := List.pairwise_cons.mp ordered
    have readableRest : ∀ other ∈ deliveries, other.Readable state.address :=
      fun other member => readable other (List.mem_cons_of_mem _ member)
    have readableFirst := readable delivery List.mem_cons_self
    rw [winhttpCallbacks, List.foldlM_cons]
    by_cases foreign : delivery.context = 0
    · have first : winhttpCallback libraries state delivery = some state := if_pos foreign
      obtain ⟨last, runs, safe⟩ := ih state registered retained room readableRest ordered
      rw [first]
      exact ⟨last, runs, .cons .nothing (isFinal_of_context foreign)
        (by simp [isCompletion_of_context foreign]) safe⟩
    have context : delivery.context = state.address :=
      readableFirst.context.resolve_left foreign
    by_cases closing : delivery.status = WINHTTP_CALLBACK_STATUS_HANDLE_CLOSING
    · have isFinal : delivery.isFinal = true := by simp [Delivery.isFinal, foreign, closing]
      have foreignRest : ∀ other ∈ deliveries, other.context = 0 :=
        fun other member => after other member isFinal
      have inForce : ¬(state.retained = false ∨ delivery.context ≠ state.address) := by
        simp [retained, context]
      have other : delivery.isCompletion = false := by
        rw [Delivery.isCompletion, closing, Bool.and_eq_false_iff]
        exact .inr (by decide)
      have first : winhttpCallback libraries state delivery = some state.finishes := by
        rw [winhttpCallback, if_neg foreign, if_neg inForce, if_pos closing]
      rw [first]
      exact ⟨_, winhttpCallbacks_of_context foreignRest,
        .of_final isFinal other foreignRest⟩
    · have early : delivery.isFinal = false := by simp [Delivery.isFinal, closing]
      obtain ⟨next, runs, effect, completes⟩ := dispatch_effect libraries readableFirst state
      obtain ⟨nextRetained, -, closeState⟩ := effect.keeps
      have address := effect.continues.address
      obtain ⟨last, runsRest, safe⟩ := ih next (address ▸ registered)
        (nextRetained.trans retained) (closeState ▸ room) (address ▸ readableRest) ordered
      rw [winhttpCallback_eq_dispatch retained context registered closing room, runs]
      refine ⟨last, runsRest, .cons effect early (fun completion => completes ?_) safe⟩
      exact (Bool.and_eq_true_iff.mp completion).2

end Safety

section Example

/-- A request that waits for a completion. -/
def waitingState : CallbackState where
  address := 1
  verbose := true
  request := { RequestState.new ⟨"http", "h", 80⟩ with signal := .listen .new }
  headers := []
  retained := true
  strong := 2
  closes := 0
  log := []

/-- A traced name, an error without its payload, and the end. -/
def shortReports : List Delivery :=
  [⟨1, WINHTTP_CALLBACK_STATUS_RESOLVING_NAME, some [104, 0, 0, 0], 0,
      winHttpRemoval fun _ => none⟩,
    ⟨1, WINHTTP_CALLBACK_STATUS_REQUEST_ERROR, none, 16, winHttpRemoval fun _ => none⟩,
    ⟨1, WINHTTP_CALLBACK_STATUS_HANDLE_CLOSING, none, 0, winHttpRemoval fun _ => none⟩]

theorem winhttpCallbacks_isSafe_short :
    ∃ last, winhttpCallbacks Url.grammarLibraries waitingState shortReports = some last ∧
      last.retained = false ∧ last.strong = 1 ∧
        ∃ event, last.request.signal.poll 0 = some (.ok event) := by
  have readable : ∀ delivery ∈ shortReports, delivery.Readable waitingState.address := by
    intro delivery member
    simp only [shortReports, List.mem_cons, List.not_mem_nil, or_false] at member
    rcases member with rfl | rfl | rfl
    · refine ⟨.inr rfl, fun counts => absurd (by decide) counts, ?_⟩
      rintro - memory ⟨⟩
      decide
    · exact ⟨.inr rfl, fun _ => nofun, nofun⟩
    · exact ⟨.inr rfl, fun _ => nofun, nofun⟩
  have ordered : shortReports.Pairwise fun earlier later =>
      earlier.isFinal = true → later.context = 0 := by
    simp [shortReports, Delivery.isFinal, WINHTTP_CALLBACK_STATUS_HANDLE_CLOSING,
      WINHTTP_CALLBACK_STATUS_RESOLVING_NAME, WINHTTP_CALLBACK_STATUS_REQUEST_ERROR]
  obtain ⟨last, runs, safe⟩ := winhttpCallbacks_isSafe Url.grammarLibraries shortReports
    waitingState (by decide) rfl (by decide) readable ordered
  refine ⟨last, runs, ?_, ?_, safe.answered rfl 0 rfl⟩
  · rw [safe.retained]
    rfl
  · rw [safe.strong]
    rfl

end Example

end Wrest.Callback
