import Wrest.RequestWorlds

/-!
# Aborts around a pending operation

An abort latches its reason and then closes the handle.  The reason reaches the
caller through the conversion of the error of a send or a receive and through
nothing else.  The invariant of this file says that an aborted request has met
such an error exactly while it waits for its conversion.
-/

namespace Wrest

open Interaction RequestStep Redirect

namespace Operation

theorem isPending_completed (operation : Operation) (event : CallbackEvent) :
    (operation.completed event).isPending = false := by
  cases operation <;> cases event <;> rfl

end Operation

/-- The reasons for which a callback aborts, by their kind and by the beginning of
their text: `WinHTTP ...` for a target that cannot be classified, `failed ...`
for a header that cannot be stripped. -/
def Error.IsAbortReason (error : Error) : Prop :=
  error.kind = .request ∧
    match error.source with
    | some (.message text) => text.toList.head? = some 'W'
    | some (.context text _) => text.toList.head? = some 'f'
    | _ => False

namespace Error

theorem not_isAbortReason_of_kind {error : Error} (other : error.kind ≠ .request) :
    ¬ error.IsAbortReason :=
  fun shape => other shape.1

theorem not_isAbortReason_fromWin32 (code : Nat) : ¬ (fromWin32 code).IsAbortReason :=
  fun shape => shape.2

end Error

theorem stripFailure_isAbortReason (name : String) (newUrl : Url) (error : Error) :
    (stripFailure name newUrl error).IsAbortReason := by
  refine ⟨rfl, ?_⟩
  simp [stripFailure, Error.request, Error.withKind, String.toList_append]

theorem parsed_isAbortReason {target : RedirectTarget} {reason : Error}
    (unclassified : target.parsed = .error reason) : reason.IsAbortReason := by
  cases target with
  | invalidUtf16 | unparsable =>
    cases unclassified
    exact ⟨rfl, by simp [Error.request, Error.withKind]⟩
  | valid url => cases unclassified

/-- An abort by a redirect callback either finds the request aborted already, or
latches a reason. -/
theorem abortFromCallback_cases {state : RequestState}
    (running : state.callbackAbort = .notAborted) (reason : Error) :
    (state.abortFromCallback reason).callbackAbort = .aborted (some reason) := by
  simp [RequestState.abortFromCallback, RequestState.latchAbort,
    RequestState.isAborted, running]

theorem redirectCallback_latches (state : RedirectState)
    (running : state.request.callbackAbort = .notAborted)
    (callback : RedirectCallback) :
    (redirectCallback state callback).request.callbackAbort = .notAborted ∨
      ∃ reason, reason.IsAbortReason ∧
        (redirectCallback state callback).request.callbackAbort =
          .aborted (some reason) := by
  unfold redirectCallback
  cases target : callback.target.parsed with
  | error reason =>
    exact .inr ⟨reason, parsed_isAbortReason target, abortFromCallback_cases running _⟩
  | ok url =>
    simp only [stripSensitiveHeaders]
    split
    · exact .inl running
    · rcases removeHeaders callback.removal sensitiveHeadersOnCrossOrigin
        state.headers with ⟨⟨name, error⟩ | _, headers⟩
      · exact .inr ⟨_, stripFailure_isAbortReason name url error,
          abortFromCallback_cases running _⟩
      · exact .inl running

theorem redirectCallback_signal (state : RedirectState) (callback : RedirectCallback) :
    (redirectCallback state callback).request.signal = state.request.signal := by
  have aborts : ∀ reason,
      (state.request.abortFromCallback reason).signal = state.request.signal := by
    intro reason
    unfold RequestState.abortFromCallback RequestState.latchAbort
    split <;> rfl
  unfold redirectCallback
  cases callback.target.parsed with
  | error reason => exact aborts reason
  | ok url =>
    simp only [stripSensitiveHeaders]
    split
    · rfl
    · rcases removeHeaders callback.removal sensitiveHeadersOnCrossOrigin
        state.headers with ⟨⟨name, error⟩ | _, headers⟩
      · exact aborts _
      · rfl

namespace AbortReason

/-- The request was not aborted; or it was, with a reason that is still stored,
and it has met an error to convert exactly if one is waiting. -/
inductive Tracked (world : RequestWorld) : Prop
  | live (abort : world.request.callbackAbort = .notAborted)
      (first : world.firstReason = none) (failed : world.failedAborted = false)
  | latched (reason : Error)
      (abort : world.request.callbackAbort = .aborted (some reason))
      (first : world.firstReason = some reason) (shape : reason.IsAbortReason)
      (failed : world.failedAborted = (world.operation == .failed))

theorem Tracked.congr {world next : RequestWorld} (tracked : Tracked world)
    (abort : next.request.callbackAbort = world.request.callbackAbort)
    (first : next.firstReason = world.firstReason)
    (failed : next.failedAborted = world.failedAborted)
    (operation : (next.operation == .failed) = (world.operation == .failed)) :
    Tracked next := by
  cases tracked with
  | live notAborted none unmet =>
    exact .live (abort.trans notAborted) (first.trans none) (failed.trans unmet)
  | latched reason aborted some shape met =>
    exact .latched reason (abort.trans aborted) (first.trans some) shape
      (by rw [failed, met, operation])

/-- What one callback does. -/
inductive Interferes (world next : RequestWorld) : Prop
  | completes (event : CallbackEvent) (pending : world.operation.isPending = true)
      (effect : next = { world with
        request := { world.request with signal := world.request.signal.signal event }
        operation := world.operation.completed event
        failedAborted := world.failedAborted ||
          (world.request.isAborted && world.operation.completed event == .failed) })
  | aborts (reason : Error) (shape : reason.IsAbortReason)
      (running : world.request.callbackAbort = .notAborted)
      (abort : next.request.callbackAbort = .aborted (some reason))
      (first : next.firstReason = some reason)
      (failed : next.failedAborted = (world.operation == .failed))
      (signal : next.request.signal = world.request.signal)
      (operation : next.operation = world.operation)
  | keeps (abort : next.request.callbackAbort = world.request.callbackAbort)
      (first : next.firstReason = world.firstReason)
      (failed : next.failedAborted = world.failedAborted)
      (signal : next.request.signal = world.request.signal)
      (operation : next.operation = world.operation)

theorem redirect_interferes (world : RequestWorld) (callback : RedirectCallback) :
    Interferes world (world.redirect callback) := by
  let state : RedirectState := { request := world.request, headers := world.headers }
  have signalEq := redirectCallback_signal state callback
  unfold RequestWorld.redirect
  dsimp only
  cases abort : world.request.callbackAbort with
  | notAborted =>
    rcases redirectCallback_latches state abort callback with
      running | ⟨reason, shape, aborted⟩
    · have notAborted : ¬ ((redirectCallback state callback).request.isAborted &&
          !world.request.isAborted) = true := by
        simp [RequestState.isAborted, running]
      rw [if_neg notAborted]
      exact .keeps (running.trans abort.symm) rfl rfl signalEq rfl
    · have nowAborted : ((redirectCallback state callback).request.isAborted &&
          !world.request.isAborted) = true := by
        simp [RequestState.isAborted, aborted, abort]
      rw [if_pos nowAborted]
      refine .aborts reason shape abort aborted ?_ rfl signalEq rfl
      exact congrArg CallbackAbort.reason aborted
  | aborted reason =>
    have already : world.request.isAborted = true := by
      simp [RequestState.isAborted, abort]
    rw [if_neg (by simp [already])]
    exact .keeps (redirectCallback_callbackAbort already callback) rfl rfl signalEq rfl

theorem interferes_of_some {world next : RequestWorld} {step : CallbackStep}
    (happens : world.interfere step = some next) : Interferes world next := by
  cases step with
  | completes event =>
    simp only [RequestWorld.interfere, Option.ite_none_right_eq_some,
      Option.some.injEq] at happens
    obtain ⟨⟨pending, -⟩, rfl⟩ := happens
    exact .completes event pending rfl
  | secureFailure flags | closes =>
    simp only [RequestWorld.interfere, Option.ite_none_right_eq_some,
      Option.some.injEq] at happens
    obtain ⟨-, rfl⟩ := happens
    exact .keeps rfl rfl rfl rfl rfl
  | redirects callback =>
    simp only [RequestWorld.interfere, Option.ite_none_right_eq_some,
      Option.some.injEq] at happens
    obtain ⟨-, rfl⟩ := happens
    exact redirect_interferes world callback

theorem tracked_stable : winHttp.Stable Tracked := by
  intro world event next tracked happens
  cases interferes_of_some happens with
  | completes event pending effect =>
    subst effect
    cases tracked with
    | live abort first failed =>
      refine .live abort first ?_
      simp [failed, RequestState.isAborted, abort]
    | latched reason abort first shape failed =>
      refine .latched reason abort first shape ?_
      have notFailed : (world.operation == .failed) = false := by
        cases operation : world.operation <;> first | rfl | simp [operation,
          Operation.isPending] at pending
      simp [failed, notFailed, RequestState.isAborted, abort]
  | aborts reason shape running abort first failed signal operation =>
    exact .latched reason abort first shape (by rw [failed, operation])
  | keeps abort first failed signal operation =>
    exact tracked.congr abort first failed (by rw [operation])

/-- No operation is pending, and no error of one waits for its conversion. -/
def Between (world : RequestWorld) : Prop :=
  Tracked world ∧ world.operation = .idle

/-- Moreover, the listener is installed. -/
def Listening (listener : Nat) (world : RequestWorld) : Prop :=
  Between world ∧ world.request.signal.sender = some listener

/-- The event has been delivered that completed an operation of the kind. -/
def Completed (kind : Operation) (event : CallbackEvent) (world : RequestWorld) :
    Prop :=
  Tracked world ∧ world.operation = kind.completed event

/-- An operation of the kind is pending, and the listener will receive its
completion; or the listener has received it. -/
inductive Awaiting (kind : Operation) (listener : Nat) (world : RequestWorld) : Prop
  | pending (tracked : Tracked world) (operation : world.operation = kind)
      (sender : world.request.signal.sender = some listener)
  | delivered (event : CallbackEvent) (completed : Completed kind event world)
      (polled : world.request.signal.poll listener = some (.ok event))

/-- An error of the request: the reason of the first abort, if the aborted request
met an error to convert, and otherwise an error that is no such reason. -/
inductive Settled (url : Url) (error : Error) (world : RequestWorld) : Prop
  | generic (between : Between world) (shape : ¬ error.IsAbortReason)
  | reason (reason : Error) (abort : world.request.callbackAbort = .aborted none)
      (idle : world.operation = .idle) (first : world.firstReason = some reason)
      (failed : world.failedAborted = true) (shape : reason.IsAbortReason)
      (returned : error = reason.withUrl url)

/-- While nothing is pending, callbacks keep the operation and the signal. -/
theorem interfere_of_not_pending {world next : RequestWorld} {step : CallbackStep}
    (none : world.operation.isPending = false)
    (happens : world.interfere step = some next) :
    next.operation = world.operation ∧ next.request.signal = world.request.signal := by
  cases interferes_of_some happens with
  | completes event pending effect =>
    rw [none] at pending
    cases pending
  | aborts reason shape running abort first failed signal operation =>
    exact ⟨operation, signal⟩
  | keeps abort first failed signal operation => exact ⟨operation, signal⟩

theorem between_stable : winHttp.Stable Between := by
  intro world event next ⟨tracked, idle⟩ happens
  have kept := interfere_of_not_pending (by rw [idle]; rfl) happens
  exact ⟨tracked_stable _ event _ tracked happens, kept.1.trans idle⟩

theorem listening_stable (listener : Nat) : winHttp.Stable (Listening listener) := by
  intro world event next ⟨between, sender⟩ happens
  have kept := interfere_of_not_pending (by rw [between.2]; rfl) happens
  refine ⟨between_stable _ event _ between happens, ?_⟩
  rw [kept.2]
  exact sender

theorem completed_stable (kind : Operation) (event : CallbackEvent) :
    winHttp.Stable (Completed kind event) := by
  intro world step next ⟨tracked, operation⟩ happens
  have kept := interfere_of_not_pending
    (by rw [operation]; exact kind.isPending_completed event) happens
  exact ⟨tracked_stable _ step _ tracked happens, kept.1.trans operation⟩

theorem awaiting_stable (kind : Operation) (listener : Nat) :
    winHttp.Stable (Awaiting kind listener) := by
  intro world step next awaiting happens
  cases awaiting with
  | pending tracked operation sender =>
    have nextTracked := tracked_stable _ step _ tracked happens
    cases interferes_of_some happens with
    | completes event pending effect =>
      subst effect
      refine .delivered event ⟨nextTracked, ?_⟩ (CompletionSignal.poll_signal sender event)
      rw [← operation]
    | aborts reason shape running abort first failed signal kept =>
      exact .pending nextTracked (kept.trans operation) (by rw [signal]; exact sender)
    | keeps abort first failed signal kept =>
      exact .pending nextTracked (kept.trans operation) (by rw [signal]; exact sender)
  | delivered event completed polled =>
    have kept := interfere_of_not_pending
      (by rw [completed.2]; exact kind.isPending_completed event) happens
    refine .delivered event (completed_stable kind event _ step _ completed happens) ?_
    rw [kept.2]
    exact polled

theorem settled_stable (url : Url) (error : Error) :
    winHttp.Stable (Settled url error) := by
  intro world step next settled happens
  cases settled with
  | generic between shape =>
    exact .generic (between_stable _ step _ between happens) shape
  | reason reason abort idle first failed shape returned =>
    have kept := interfere_of_not_pending (by rw [idle]; rfl) happens
    cases interferes_of_some happens with
    | completes event pending effect =>
      rw [idle] at pending
      cases pending
    | aborts other otherShape running nextAbort nextFirst nextFailed signal same =>
      rw [abort] at running
      cases running
    | keeps nextAbort nextFirst nextFailed signal same =>
      exact .reason reason (nextAbort.trans abort) (kept.1.trans idle)
        (nextFirst.trans first) (nextFailed.trans failed) shape returned

end AbortReason

end Wrest
