import Wrest.CallbackSafety
import Wrest.TransitionRuns

/-!
# The reports of WinHTTP and the steps of the callback

The world around a request takes abstract steps: an operation completes, a TLS failure is
stored, a redirect is treated, a handle is closed.  WinHTTP reports them as documented, in
the layout of each status and with anything in the memory behind the payload, between
reports that only inform.  On such reports the callback takes exactly these steps.
-/

namespace Wrest.Callback

open Win32 Redirect WideString Transition TextDecoding

/-- Code units in memory. -/
def unitBytes (text : List UInt16) : List UInt8 :=
  text.flatMap fun unit => LittleEndian.encode 2 unit.toNat

/-- What the units of a redirect target say. -/
def targetOf (libraries : UrlLibraries) (text : List UInt16) : RedirectTarget :=
  match fromUtf16 text with
  | none => .invalidUtf16
  | some characters =>
    match Url.parse libraries (String.ofList characters) with
    | .error _ => .unparsable
    | .ok url => .valid url

/-- The payload of a status that reports one number. -/
def Delivery.HasDword (delivery : Delivery) (value : Nat) : Prop :=
  dwordSize ≤ delivery.infoLength ∧ value < 2 ^ 32 ∧
    ∃ rest, delivery.info = some (LittleEndian.encode dwordSize value ++ rest)

/-- The payload of a failed operation: a `WINHTTP_ASYNC_RESULT`. -/
def Delivery.HasAsyncResult (delivery : Delivery) (dwError : Nat) : Prop :=
  asyncResultSize ≤ delivery.infoLength ∧ dwError < 2 ^ 32 ∧
    ∃ dwResult rest, delivery.info = some (LittleEndian.encode dwErrorOffset dwResult ++
      (LittleEndian.encode dwordSize dwError ++ rest))

/-- The payload of a redirect: its units, counted with or without the NUL that may follow
them. -/
def Delivery.HasText (delivery : Delivery) (text : List UInt16) : Prop :=
  text.getLast? ≠ some 0 ∧ ∃ ending rest, (ending = [] ∨ ending = [0]) ∧
    delivery.infoLength = (text ++ ending).length ∧
      delivery.info = some (unitBytes (text ++ ending) ++ rest)

/-- The documented delivery of a step.  Closing the handle is not reported, until the final
callback. -/
def Reports (libraries : UrlLibraries) (step : CallbackStep) (delivery : Delivery) : Prop :=
  match step with
  | .completes .complete =>
    delivery.status = WINHTTP_CALLBACK_STATUS_SENDREQUEST_COMPLETE ∨
      delivery.status = WINHTTP_CALLBACK_STATUS_HEADERS_AVAILABLE
  | .completes (.readComplete count) =>
    delivery.status = WINHTTP_CALLBACK_STATUS_READ_COMPLETE ∧ delivery.infoLength = count
  | .completes (.writeComplete count) =>
    delivery.status = WINHTTP_CALLBACK_STATUS_WRITE_COMPLETE ∧ delivery.HasDword count
  | .completes (.win32Error code) =>
    delivery.status = WINHTTP_CALLBACK_STATUS_REQUEST_ERROR ∧ delivery.HasAsyncResult code
  | .secureFailure flags =>
    delivery.status = WINHTTP_CALLBACK_STATUS_SECURE_FAILURE ∧ delivery.HasDword flags
  | .redirects callback =>
    delivery.status = WINHTTP_CALLBACK_STATUS_REDIRECT ∧
      delivery.removal = callback.removal ∧
        ∃ text, delivery.HasText text ∧ callback.target = targetOf libraries text
  | .closes => False

section Payloads

variable {libraries : UrlLibraries}

theorem decode_dword {value : Nat} (fits : value < 2 ^ 32) (rest : List UInt8) :
    LittleEndian.decode ((LittleEndian.encode dwordSize value ++ rest).take dwordSize) =
      value := by
  rw [List.take_left' (LittleEndian.length_encode _ _), LittleEndian.decode_encode]
  exact Nat.mod_eq_of_lt fits

theorem payloadU32_dword {delivery : Delivery} {value : Nat}
    (has : delivery.HasDword value) (fallback : Nat) :
    payloadU32 delivery.info delivery.infoLength dwordSize 0 fallback = some value := by
  obtain ⟨long, fits, rest, isInfo⟩ := has
  have inside : 0 + dwordSize ≤ (LittleEndian.encode dwordSize value ++ rest).length := by
    simp
  simp only [payloadU32, isInfo, if_pos long, readU32, if_pos inside, List.drop_zero]
  rw [decode_dword fits]

theorem payloadU32_asyncResult {delivery : Delivery} {code : Nat}
    (has : delivery.HasAsyncResult code) (fallback : Nat) :
    payloadU32 delivery.info delivery.infoLength asyncResultSize dwErrorOffset fallback =
      some code := by
  obtain ⟨long, fits, dwResult, rest, isInfo⟩ := has
  have inside : dwErrorOffset + dwordSize ≤
      (LittleEndian.encode dwErrorOffset dwResult ++
        (LittleEndian.encode dwordSize code ++ rest)).length := by
    simp only [List.length_append, LittleEndian.length_encode]
    omega
  simp only [payloadU32, isInfo, if_pos long, readU32, if_pos inside]
  rw [List.drop_left' (LittleEndian.length_encode _ _), decode_dword fits]

theorem units_unitBytes (text : List UInt16) (rest : List UInt8) :
    units (unitBytes text ++ rest) = text ++ units rest := by
  induction text with
  | nil => rfl
  | cons unit text ih =>
    have value : LittleEndian.decode (LittleEndian.encode 2 unit.toNat) = unit.toNat := by
      rw [LittleEndian.decode_encode]
      exact Nat.mod_eq_of_lt unit.toNat_lt
    have first : units (unitBytes (unit :: text) ++ rest) =
        UInt16.ofNat (LittleEndian.decode (LittleEndian.encode 2 unit.toNat)) ::
          units (unitBytes text ++ rest) := rfl
    rw [first, value, UInt16.ofNat_toNat, ih, List.cons_append]

theorem wideSlice_text {text ending rest : List UInt16} (noNul : text.getLast? ≠ some 0)
    (ends : ending = [] ∨ ending = [0]) :
    wideSlice (some (text ++ ending ++ rest)) (some (text ++ ending).length) = text := by
  simp only [wideSlice, Option.getD_some, List.take_left' rfl]
  rcases ends with rfl | rfl
  · rw [List.append_nil]
    exact if_neg noNul
  · exact stripSuffix_append_nul text

variable (libraries) in
/-- A redirect target is read as it was written. -/
theorem redirectTarget_text {delivery : Delivery} {text : List UInt16}
    (has : delivery.HasText text) :
    ∃ pointer, widePointer delivery.info (some delivery.infoLength) = some pointer ∧
      redirectTarget libraries pointer delivery.infoLength = targetOf libraries text := by
  obtain ⟨noNul, ending, rest, ends, isLength, isInfo⟩ := has
  have inside : (text ++ ending).length ≤ (units (unitBytes (text ++ ending) ++ rest)).length := by
    rw [units_unitBytes]
    exact (List.prefix_append _ _).length_le
  refine ⟨some (text ++ ending ++ units rest), ?_, ?_⟩
  · rw [isInfo, isLength]
    exact (if_pos inside).trans (by rw [units_unitBytes])
  · rw [redirectTarget, isLength, wideToString, wideSlice_text noNul ends, targetOf]
    cases fromUtf16 text with
    | none => rfl
    | some characters => rfl

end Payloads

section Worlds

variable {libraries : UrlLibraries} {state : CallbackState} {world next : RequestWorld}

/-- The state that the callback works on is that of the world. -/
structure Matches (state : CallbackState) (world : RequestWorld) : Prop where
  request : state.request = world.request
  headers : state.headers = world.headers

theorem Matches.logs (same : Matches state world) (events : List VerboseEvent) :
    Matches (state.logs events) world := by
  unfold CallbackState.logs
  split
  · exact ⟨same.request, same.headers⟩
  · exact same

theorem Matches.logsTarget (same : Matches state world) (target : RedirectTarget) :
    Matches (state.logsTarget target) world := by
  cases target with
  | invalidUtf16 | unparsable => exact same
  | valid parsed => exact same.logs [.redirect parsed.serialized]

theorem Matches.redirects (same : Matches state world) (callback : RedirectCallback) :
    Matches (state.redirects callback) (world.redirect callback) := by
  obtain ⟨request, headers⟩ := same
  simp only [CallbackState.redirects, CallbackState.treated, RequestWorld.redirect, request,
    headers]
  split <;> exact ⟨rfl, rfl⟩

/-- A report of a step makes the callback take it. -/
theorem dispatch_reports {step : CallbackStep} {delivery : Delivery}
    (reports : Reports libraries step delivery) (same : Matches state world)
    (happens : world.interfere step = some next) :
    ∃ after, dispatch libraries state delivery = some after ∧ Effect state after ∧
      Matches after next := by
  have signals : ∀ event, world.interfere (.completes event) = some next →
      Matches (state.signals event) next := by
    intro event completes
    simp only [RequestWorld.interfere, Option.ite_none_right_eq_some,
      Option.some.injEq] at completes
    obtain ⟨-, rfl⟩ := completes
    exact ⟨by rw [CallbackState.signals, same.request], same.headers⟩
  cases step with
  | completes event =>
    refine ⟨state.signals event, ?_, .signals event, signals event happens⟩
    cases event with
    | complete =>
      rcases reports with sent | headers
      · rw [dispatch, if_pos sent]
      · simp [dispatch, headers]
    | readComplete count =>
      obtain ⟨status, length⟩ := reports
      rw [← length]
      simp only [dispatch, status]
      rfl
    | writeComplete count =>
      obtain ⟨status, has⟩ := reports
      simp only [dispatch, status, payloadU32_dword has]
      rfl
    | win32Error code =>
      obtain ⟨status, has⟩ := reports
      simp only [dispatch, status, payloadU32_asyncResult has]
      rfl
  | secureFailure flags =>
    obtain ⟨status, has⟩ := reports
    simp only [RequestWorld.interfere, Option.ite_none_right_eq_some,
      Option.some.injEq] at happens
    obtain ⟨-, rfl⟩ := happens
    refine ⟨_, ?_, .flags flags, ⟨by rw [CallbackState.storesFlags, same.request], same.headers⟩⟩
    simp only [dispatch, status, payloadU32_dword has]
    rfl
  | redirects callback =>
    obtain ⟨target, removal⟩ := callback
    obtain ⟨status, rfl, text, has, rfl⟩ := reports
    simp only [RequestWorld.interfere, Option.ite_none_right_eq_some,
      Option.some.injEq] at happens
    obtain ⟨-, rfl⟩ := happens
    obtain ⟨pointer, reads, target⟩ := redirectTarget_text libraries has
    refine ⟨_, ?_, .redirects ⟨targetOf libraries text, delivery.removal⟩,
      (same.logsTarget _).redirects _⟩
    simp only [dispatch, status, reads, Option.map_some, target]
    rfl
  | closes => exact reports.elim

/-- The statuses that the callback acts on. -/
def handledStatuses : List Nat :=
  completionStatuses ++ [WINHTTP_CALLBACK_STATUS_SECURE_FAILURE,
    WINHTTP_CALLBACK_STATUS_REDIRECT, WINHTTP_CALLBACK_STATUS_HANDLE_CLOSING]

/-- A delivery that only informs, or that belongs to another handle. -/
def Delivery.Informs (address : Nat) (delivery : Delivery) : Prop :=
  delivery.context = 0 ∨ delivery.context = address ∧ delivery.Readable address ∧
    handledStatuses.contains delivery.status = false

/-- The deliveries of a run: a report of each step, in order, but of those that close the
handle, and in between what only informs. -/
inductive Delivers (libraries : UrlLibraries) (address : Nat) :
    List CallbackStep → List Delivery → Prop
  | nil : Delivers libraries address [] []
  | reports {step : CallbackStep} {delivery : Delivery} {steps : List CallbackStep}
      {deliveries : List Delivery} (context : delivery.context = address)
      (reports : Reports libraries step delivery)
      (rest : Delivers libraries address steps deliveries) :
      Delivers libraries address (step :: steps) (delivery :: deliveries)
  | closes {steps : List CallbackStep} {deliveries : List Delivery}
      (rest : Delivers libraries address steps deliveries) :
      Delivers libraries address (.closes :: steps) deliveries
  | informs {delivery : Delivery} {steps : List CallbackStep} {deliveries : List Delivery}
      (informs : delivery.Informs address)
      (rest : Delivers libraries address steps deliveries) :
      Delivers libraries address steps (delivery :: deliveries)

theorem notFinal_of_reports {step : CallbackStep} {delivery : Delivery}
    (reports : Reports libraries step delivery) :
    delivery.status ≠ WINHTTP_CALLBACK_STATUS_HANDLE_CLOSING := by
  have other : ∀ {status : Nat}, delivery.status = status →
      status ≠ WINHTTP_CALLBACK_STATUS_HANDLE_CLOSING →
        delivery.status ≠ WINHTTP_CALLBACK_STATUS_HANDLE_CLOSING := by
    rintro _ rfl
    exact id
  cases step with
  | completes event =>
    cases event with
    | complete => exact reports.elim (other · (by decide)) (other · (by decide))
    | readComplete count => exact other reports.1 (by decide)
    | writeComplete count => exact other reports.1 (by decide)
    | win32Error code => exact other reports.1 (by decide)
  | secureFailure flags => exact other reports.1 (by decide)
  | redirects callback => exact other reports.1 (by decide)
  | closes => exact reports.elim

/-- What only informs is at most traced. -/
theorem winhttpCallback_informs {delivery : Delivery} (informs : delivery.Informs state.address)
    (registered : state.address ≠ 0) (retained : state.retained = true)
    (room : state.request.closeState.activeCallbacks < usizeMax) :
    ∃ events, winhttpCallback libraries state delivery = some (state.logs events) ∨
      winhttpCallback libraries state delivery = some state := by
  rcases informs with foreign | ⟨context, readable, unhandled⟩
  · exact ⟨[], .inr (if_pos foreign)⟩
  · simp only [handledStatuses, completionStatuses, List.contains_eq_mem, List.cons_append,
      List.nil_append, List.mem_cons, List.not_mem_nil, or_false, decide_eq_false_iff_not,
      not_or] at unhandled
    obtain ⟨sent, headers, read, written, failed, insecure, redirected, closing⟩ := unhandled
    rw [winhttpCallback_eq_dispatch retained context registered closing room]
    simp only [dispatch, if_neg sent, if_neg headers, if_neg read, if_neg written,
      if_neg failed, if_neg insecure, if_neg redirected]
    cases state.verbose with
    | true =>
      obtain ⟨events, traces⟩ := logVerboseStatus_isSome readable redirected
      exact ⟨events, .inl (by rw [if_pos rfl, traces]; rfl)⟩
    | false => exact ⟨[], .inl rfl⟩

/-- A run of the callback beside a run of the world. -/
structure RunsBeside (libraries : UrlLibraries) (state : CallbackState)
    (deliveries : List Delivery) (last : RequestWorld) (after : CallbackState) : Prop where
  runs : winhttpCallbacks libraries state deliveries = some after
  same : Matches after last
  continues : Continues state after
  retained : after.retained = true
  strong : after.strong = state.strong

theorem RunsBeside.cons {delivery : Delivery} {deliveries : List Delivery}
    {middle after : CallbackState} {last : RequestWorld}
    (first : winhttpCallback libraries state delivery = some middle)
    (effect : Effect state middle)
    (rest : RunsBeside libraries middle deliveries last after) :
    RunsBeside libraries state (delivery :: deliveries) last after where
  runs := by
    rw [winhttpCallbacks, List.foldlM_cons, first]
    exact rest.runs
  same := rest.same
  continues := effect.continues.trans rest.continues
  retained := rest.retained
  strong := rest.strong.trans effect.keeps.2.1

theorem runsBeside_of_delivers {address : Nat} {steps : List CallbackStep}
    {deliveries : List Delivery} {last : RequestWorld}
    (delivers : Delivers libraries address steps deliveries)
    (runs : run RequestWorld.interfere world steps = some last) (same : Matches state world)
    (isAddress : state.address = address) (registered : address ≠ 0)
    (retained : state.retained = true)
    (room : state.request.closeState.activeCallbacks < usizeMax) :
    ∃ after, RunsBeside libraries state deliveries last after := by
  induction delivers generalizing state world with
  | nil =>
    cases runs
    exact ⟨state, rfl, same, .refl state, retained, rfl⟩
  | @reports step delivery steps deliveries context reports rest ih =>
    obtain ⟨next, happens, restRuns⟩ := run_cons_eq_some.mp runs
    obtain ⟨middle, dispatched, effect, sameMiddle⟩ := dispatch_reports reports same happens
    obtain ⟨middleRetained, -, closeState⟩ := effect.keeps
    obtain ⟨after, beside⟩ := ih restRuns sameMiddle
      (effect.continues.address.trans isAddress) (middleRetained.trans retained)
      (closeState ▸ room)
    have first : winhttpCallback libraries state delivery = some middle :=
      (winhttpCallback_eq_dispatch retained (context.trans isAddress.symm)
        (isAddress ▸ registered) (notFinal_of_reports reports) room).trans dispatched
    exact ⟨after, .cons first effect beside⟩
  | closes rest ih =>
    obtain ⟨next, happens, restRuns⟩ := run_cons_eq_some.mp runs
    simp only [RequestWorld.interfere, Option.ite_none_right_eq_some,
      Option.some.injEq] at happens
    obtain ⟨-, rfl⟩ := happens
    exact ih restRuns ⟨same.request, same.headers⟩ isAddress retained room
  | @informs delivery steps deliveries informs rest ih =>
    obtain ⟨events, traces | unchanged⟩ := winhttpCallback_informs (isAddress ▸ informs)
      (isAddress ▸ registered) retained room
    · have effect : Effect state (state.logs events) := .logs events
      obtain ⟨tracedRetained, -, closeState⟩ := effect.keeps
      obtain ⟨after, beside⟩ := ih runs (same.logs events)
        (effect.continues.address.trans isAddress) (tracedRetained.trans retained)
        (closeState ▸ room)
      exact ⟨after, .cons traces effect beside⟩
    · obtain ⟨after, beside⟩ := ih runs same isAddress retained room
      exact ⟨after, .cons unchanged .nothing beside⟩

/-- On documented deliveries the callback takes the steps of the world around the request,
and closes the handle exactly when the world's abort does. -/
theorem winhttpCallbacks_follow {steps : List CallbackStep} {deliveries : List Delivery}
    {last : RequestWorld} (delivers : Delivers libraries state.address steps deliveries)
    (runs : run RequestWorld.interfere world steps = some last) (same : Matches state world)
    (registered : state.address ≠ 0) (retained : state.retained = true)
    (room : state.request.closeState.activeCallbacks < usizeMax) :
    ∃ after, winhttpCallbacks libraries state deliveries = some after ∧
      after.request = last.request ∧ after.headers = last.headers ∧
        after.retained = true ∧ after.strong = state.strong ∧
          after.closes = state.closes +
            if last.request.isAborted && !world.request.isAborted then 1 else 0 := by
  obtain ⟨after, beside⟩ := runsBeside_of_delivers delivers runs same rfl registered retained
    room
  refine ⟨after, beside.runs, beside.same.request, beside.same.headers, beside.retained,
    beside.strong, ?_⟩
  rw [beside.continues.closes, beside.same.request, same.request]

end Worlds

section Example

/-- A request that has been sent. -/
def sentWorld : RequestWorld where
  request := waitingState.request
  closing := false
  closed := false
  sendStarted := true
  operation := .transferring
  headers := []
  sessionProxy := .direct
  requestProxy := none
  proxyCredentials := none
  sent := [.direct]
  firstReason := none
  failedAborted := false

/-- A TLS failure is stored, a redirect to an undecodable target aborts the request, and
the operation is cancelled. -/
def abortedSteps : List CallbackStep :=
  [.secureFailure 8, .redirects ⟨.invalidUtf16, winHttpRemoval fun _ => none⟩, .closes,
    .completes (.win32Error ERROR_WINHTTP_OPERATION_CANCELLED)]

def abortedReports : List Delivery :=
  [⟨1, WINHTTP_CALLBACK_STATUS_SECURE_FAILURE, some [8, 0, 0, 0], 4,
      winHttpRemoval fun _ => none⟩,
    ⟨1, WINHTTP_CALLBACK_STATUS_REDIRECT, some [0, 0xD8, 0, 0], 2,
      winHttpRemoval fun _ => none⟩,
    ⟨1, WINHTTP_CALLBACK_STATUS_REQUEST_ERROR,
      some [5, 0, 0, 0, 0, 0, 0, 0, 0xF1, 0x2E, 0, 0, 0, 0, 0, 0], 16,
      winHttpRemoval fun _ => none⟩]

theorem abortedReports_delivers (libraries : UrlLibraries) :
    Delivers libraries waitingState.address abortedSteps abortedReports := by
  refine .reports rfl ⟨rfl, le_rfl, by decide, [], rfl⟩ (.reports rfl ⟨rfl, rfl, [0xD800], ?_, rfl⟩
    (.closes (.reports rfl ⟨rfl, le_rfl, by decide, 5, [0, 0, 0, 0], rfl⟩ .nil)))
  exact ⟨by decide, [0], [], .inr rfl, rfl, rfl⟩

theorem winhttpCallbacks_follow_aborted : ∃ after,
    winhttpCallbacks Url.grammarLibraries waitingState abortedReports = some after ∧
      after.request.isAborted = true ∧ after.request.tlsFailureFlags = 8 ∧ after.closes = 1 := by
  obtain ⟨last, runs⟩ : ∃ last, run RequestWorld.interfere sentWorld abortedSteps = some last :=
    ⟨_, rfl⟩
  obtain ⟨after, follows, request, -, -, -, closes⟩ :=
    winhttpCallbacks_follow (abortedReports_delivers Url.grammarLibraries) runs
      (⟨rfl, rfl⟩ : Matches waitingState sentWorld) (by decide) rfl (by decide)
  cases runs
  refine ⟨after, follows, ?_, ?_, ?_⟩
  · rw [request]
    rfl
  · rw [request]
    rfl
  · rw [closes]
    rfl

end Example

end Wrest.Callback
