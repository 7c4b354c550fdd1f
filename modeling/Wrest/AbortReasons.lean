import Wrest.AbortTracking
import Wrest.RequestCallUse
import Wrest.RequestProgress

/-!
# The error of an aborted request

Every step of a request keeps the invariant of the abort, and a step that fails
returns the reason of the first abort exactly when the aborted request met the
error of a send or a receive before its conversion.  Closing the handle while a
send or a receive is pending leads there; an abort during a body write or between
two operations is reported by an error of the code that a later call fails with.
-/

namespace Wrest

open Interaction RequestStep Win32 Redirect

/-- The call neither starts an operation nor takes the reason of an abort. -/
def RequestCall.keepsAbort : RequestCall → Bool
  | .sendRequest _ _ _ | .writeData _ _ | .receiveResponse | .takeAbortReason => false
  | _ => true

namespace AbortReason

theorem between_of_frame {world next : RequestWorld} (between : Between world)
    (abort : next.request.callbackAbort = world.request.callbackAbort)
    (first : next.firstReason = world.firstReason)
    (failed : next.failedAborted = world.failedAborted)
    (operation : next.operation = world.operation) : Between next :=
  ⟨between.1.congr abort first failed (by rw [operation]), operation.trans between.2⟩

theorem answers_between {call : RequestCall} (keeps : call.keepsAbort = true)
    {world next : RequestWorld} {reply : call.Reply}
    (between : Between world) (answers : world.Answers call reply next) :
    Between next := by
  cases call with
  | sendRequest _ _ _ | writeData _ _ | receiveResponse | takeAbortReason => cases keeps
  | connect _ _ | openRequest _ _ _ | takeSendBody =>
    cases answers
    exact between_of_frame between rfl rfl rfl rfl
  | setContextValue | setProxyDirect | setProxyNamed _ | setProxyCredentials _ _
  | setNoClientCert | setSecurityFlags _ | queryStatusCode | queryRawHeaders =>
    unfold RequestWorld.Answers at answers
    rcases RequestWorld.Acts.cases answers with rfl | ⟨-, rfl⟩
    · exact between
    · exact between_of_frame between rfl rfl rfl rfl
  | addRequestHeaders line =>
    cases reply with
    | error code =>
      obtain rfl : next = world := answers
      exact between
    | ok value =>
      obtain ⟨-, headers, -, rfl⟩ := answers
      exact between_of_frame between rfl rfl rfl rfl
  | storeSendBody _ | listen | poll _ | isAborted | tlsFailureFlags | queryUrl
  | queryProtocolUsed | queryVersion =>
    obtain ⟨-, rfl⟩ := answers
    exact between_of_frame between rfl rfl rfl rfl

section Rules

variable {α β : Type} {url : Url} {before : RequestWorld → Prop}

/-- Between two operations, the step returns between two operations, or with a
settled error. -/
def Keeps (url : Url) (step : RequestStep α) : Prop :=
  Triple winHttp Between step (fun _ => Between) (Settled url)

theorem triple_bind {step : RequestStep α} {rest : α → RequestStep β}
    {middle : α → RequestWorld → Prop} {returns : β → RequestWorld → Prop}
    (first : Triple winHttp before step middle (Settled url))
    (second : ∀ value, Triple winHttp (middle value) (rest value) returns (Settled url)) :
    Triple winHttp before (step >>= rest) returns (Settled url) :=
  first.bind second (settled_stable url)

theorem keeps_pure (value : α) : Keeps url (Program.pure (.ok value) : RequestStep α) :=
  Triple.pure between_stable fun _ between => between

theorem keeps_fail {error : Error} (shape : ¬ error.IsAbortReason) :
    Keeps url (fail error : RequestStep α) :=
  Triple.throw (settled_stable url error) fun _ between => .generic between shape

theorem keeps_ofResult {result : Except Error α}
    (shape : ∀ error, result = .error error → ¬ error.IsAbortReason) :
    Keeps url (ofResult result) := by
  cases result with
  | ok value => exact keeps_pure value
  | error error => exact keeps_fail (shape error rfl)

theorem keeps_bind {step : RequestStep α} {rest : α → RequestStep β}
    (first : Keeps url step) (second : ∀ value, Keeps url (rest value)) :
    Keeps url (step >>= rest) :=
  triple_bind first second

theorem keeps_ask {call : RequestCall} (keeps : call.keepsAbort = true) :
    Keeps url (ask call) :=
  triple_ask between_stable
    (fun _ _ _ between answers => answers_between keeps between answers)
    fun _ => between_stable

theorem keeps_call {call : RequestCall} {rest : call.Reply → RequestStep β}
    (keeps : call.keepsAbort = true) (second : ∀ reply, Keeps url (rest reply)) :
    Keeps url (ask call >>= rest) :=
  keeps_bind (keeps_ask keeps) second

theorem keeps_check (reply : Except Nat α) : Keeps url (checkWin32 url reply) := by
  cases reply with
  | ok value => exact keeps_pure value
  | error code => exact keeps_fail (Error.not_isAbortReason_fromWin32 code)

theorem keeps_checked {reply : Except Nat α} {rest : α → RequestStep β}
    (second : ∀ value, Keeps url (rest value)) :
    Keeps url (checkWin32 url reply >>= rest) :=
  keeps_bind (keeps_check reply) second

end Rules

section Operations

variable {url : Url} {kind : Operation}

/-- A call that starts an operation fails or leaves the operation pending. -/
theorem start_awaiting {call : RequestCall} {check : call.Reply → Outcome}
    (effect : RequestWorld → RequestWorld)
    (acts : ∀ (world : RequestWorld) reply next, world.Answers call reply next →
      world.Acts effect (check reply) next)
    (starts : ∀ world, (effect world).operation = kind ∧
      (effect world).request = world.request ∧
      (effect world).firstReason = world.firstReason ∧
      (effect world).failedAborted = world.failedAborted)
    (notFailed : (kind == .failed) = false) (listener : Nat) :
    Triple winHttp (Listening listener) (do checkWin32 url (check (← ask call)))
      (fun _ => Awaiting kind listener) (Settled url) := by
  refine triple_checked (listening_stable listener)
    (fun world reply value next listening answers outcome => ?_)
    (fun world reply code next listening answers outcome => ?_)
    (fun _ => awaiting_stable kind listener) (settled_stable url)
  · have acted := acts world reply next answers
    rw [outcome] at acted
    obtain ⟨opened, rfl⟩ := acted
    obtain ⟨operation, requestEq, firstEq, failedEq⟩ := starts world
    refine .pending ?_ operation (by rw [requestEq]; exact listening.2)
    refine listening.1.1.congr (by rw [requestEq]) firstEq failedEq ?_
    rw [operation, notFailed, listening.1.2]
    rfl
  · have acted := acts world reply next answers
    rw [outcome] at acted
    obtain rfl : next = world := acted
    exact .generic listening.1 (Error.not_isAbortReason_fromWin32 code)

/-- An operation that is awaited returns the event that completed it. -/
theorem awaitWin32_completed {start : RequestStep Unit}
    (starts : ∀ listener, Triple winHttp (Listening listener) start
      (fun _ => Awaiting kind listener) (Settled url)) :
    Triple winHttp Between (awaitWin32 start) (Completed kind) (Settled url) := by
  have listens : Triple winHttp Between (ask .listen)
      (fun listener => Listening listener) (Settled url) := by
    refine triple_ask between_stable (fun world reply next between answers => ?_)
      listening_stable
    obtain ⟨rfl, rfl⟩ := answers
    exact ⟨between_of_frame between rfl rfl rfl rfl, rfl⟩
  refine triple_await listens starts
    (fun listener world reply next awaiting answers => ?_)
    (awaiting_stable kind) (completed_stable kind) (settled_stable url)
  obtain ⟨polled, rfl⟩ := answers
  cases awaiting with
  | pending tracked operation sender =>
    rw [CompletionSignal.poll_of_sender sender] at polled
    cases polled
  | delivered event completed delivered =>
    rw [delivered] at polled
    cases polled
    exact ⟨event, rfl, completed⟩

theorem unexpected_shape (event : CallbackEvent) :
    ¬ (event.unexpected url).IsAbortReason := by
  rintro ⟨-, text⟩
  simp [CallbackEvent.unexpected, Error.withUrl, Error.request, Error.withKind,
    String.toList_append] at text

/-- An event that completes the operation without an error leaves nothing to
convert. -/
theorem between_of_completed {event : CallbackEvent}
    (converted : kind.completed event = .idle) {world : RequestWorld}
    (completed : Completed kind event world) : Between world :=
  ⟨completed.1, completed.2.trans converted⟩

theorem enrichTlsFailure_shape {error : Error} (other : error.kind ≠ .request)
    (flags : Nat) : ¬ (enrichTlsFailure flags error).IsAbortReason :=
  Error.not_isAbortReason_of_kind other

/-- The conversion of an error takes the reason, if there is one. -/
theorem callbackErrorToError_settled (code : Nat) :
    Triple winHttp (Completed .transferring (.win32Error code))
      (callbackErrorToError code url) (fun error => Settled url error)
      (Settled url) := by
  have takes : Triple winHttp (Completed .transferring (.win32Error code))
      (ask .takeAbortReason)
      (fun reply world => reply.elim (Between world)
        fun reason => Settled url (reason.withUrl url) world) (Settled url) := by
    refine triple_ask (completed_stable _ _)
      (fun world reply next completed answers => ?_) fun reply => ?_
    · obtain ⟨rfl, rfl⟩ := answers
      cases completed.1 with
      | live abort first failed =>
        simp only [abort, CallbackAbort.takeReason]
        exact ⟨.live rfl first failed, rfl⟩
      | latched reason abort first shape failed =>
        simp only [abort, CallbackAbort.takeReason]
        refine .reason reason rfl rfl first ?_ shape rfl
        rw [failed, completed.2]
        rfl
    · cases reply with
      | none => exact between_stable
      | some reason => exact settled_stable url _
  apply triple_bind takes
  intro reply
  cases reply with
  | some reason => exact Triple.pure (settled_stable url _) fun _ settled => settled
  | none =>
    dsimp only
    split
    · next secure =>
      have asked : Keeps url (ask .tlsFailureFlags) := keeps_ask rfl
      refine triple_bind asked fun flags =>
        Triple.pure (settled_stable url _) fun _ between => .generic between ?_
      refine enrichTlsFailure_shape ?_ flags
      simp [Error.fromWin32, errorKindFromWin32, secure]
    · exact Triple.pure (settled_stable url _) fun _ between =>
        .generic between (Error.not_isAbortReason_fromWin32 code)

theorem intoResult_settled (event : CallbackEvent) :
    Triple winHttp (Completed .transferring event) (event.intoResult url)
      (fun _ => Between) (Settled url) := by
  cases event with
  | complete =>
    exact Triple.pure between_stable fun _ completed => between_of_completed rfl completed
  | readComplete count | writeComplete count =>
    exact (keeps_fail (unexpected_shape _)).weaken fun _ completed =>
      between_of_completed rfl completed
  | win32Error code =>
    exact triple_bind (callbackErrorToError_settled code) fun error =>
      Triple.throw (settled_stable url error) fun _ settled => settled

theorem sendAndComplete_keeps (body : Option Nat) (bodyLength totalLength : Nat) :
    Keeps url (sendAndComplete url body bodyLength totalLength) :=
  triple_bind
    (awaitWin32_completed (start_awaiting RequestWorld.sending
      (fun _ _ _ answers => answers) (fun _ => ⟨rfl, rfl, rfl, rfl⟩) rfl))
    intoResult_settled

theorem receiveAndComplete_keeps : Keeps url (receiveAndComplete url) :=
  triple_bind
    (awaitWin32_completed (start_awaiting
      (fun world => { world with operation := .transferring })
      (fun _ _ _ answers => answers) (fun _ => ⟨rfl, rfl, rfl, rfl⟩) rfl))
    intoResult_settled

theorem writeOnce_keeps (pointer length : Nat) :
    Keeps url (writeOnce url pointer length) := by
  refine triple_bind
    (awaitWin32_completed (start_awaiting
      (fun world => { world with operation := .writing })
      (fun _ _ _ answers => answers) (fun _ => ⟨rfl, rfl, rfl, rfl⟩) rfl))
    fun event => ?_
  have converted : Keeps url (ofResult (event.intoWriteComplete url)) := by
    apply keeps_ofResult
    intro error failed
    cases event with
    | writeComplete count => cases failed
    | win32Error code =>
      cases failed
      exact Error.not_isAbortReason_fromWin32 code
    | complete | readComplete count =>
      cases failed
      exact unexpected_shape _
  exact converted.weaken fun _ completed => between_of_completed rfl completed

end Operations

section Phases

variable {α : Type} {url : Url}

theorem withContext_keeps {step : RequestStep α} (keeps : Keeps url step) :
    Keeps url (withContext url step) := by
  refine Triple.bind_outcome keeps (fun value => keeps_pure value) fun error =>
    Triple.throw (settled_stable url _) fun world settled => ?_
  cases settled with
  | generic between shape => exact .generic between shape
  | reason reason abort idle first failed shape returned =>
    exact .reason reason abort idle first failed shape (by rw [returned]; rfl)

theorem outcome_settled {step : RequestStep α} (keeps : Keeps url step) :
    Triple winHttp Between (outcome step)
      (fun result world => match result with
        | .ok _ => Between world
        | .error error => Settled url error world) (Settled url) :=
  Triple.bind_outcome keeps
    (fun _ => Triple.pure between_stable fun _ between => between)
    fun error => Triple.pure (settled_stable url error) fun _ settled => settled

theorem advanceWriteOffset_shape {offset totalLength written : Nat} {error : Error}
    (failed : advanceWriteOffset offset totalLength written url = .error error) :
    ¬ error.IsAbortReason := by
  have kind : error.kind = .body := by
    unfold advanceWriteOffset at failed
    repeat' split at failed
    all_goals cases failed
    all_goals rfl
  exact Error.not_isAbortReason_of_kind (by rw [kind]; decide)

theorem writeDataWith_keeps {write : Nat → Nat → RequestStep Nat}
    (writes : ∀ position remaining, Keeps url (write position remaining))
    (pointer length offset : Nat) :
    Keeps url (writeDataWith write pointer length url offset) := by
  have bodyFails : ∀ text, Keeps url
      (fail ((Error.body (.message text)).withUrl url) : RequestStep Unit) :=
    fun text => keeps_fail (Error.not_isAbortReason_of_kind nofun)
  fun_induction writeDataWith write pointer length url offset with
  | case1 offset before none => exact bodyFails _
  | case2 offset before remaining some none => exact bodyFails _
  | case3 offset before remaining some position found fits ih =>
    apply keeps_bind (withContext_keeps (writes _ _))
    intro written
    split
    · next next advanced => exact ih written next advanced
    · next error failed => exact keeps_fail (advanceWriteOffset_shape failed)
  | case4 => exact bodyFails _
  | case5 => exact keeps_pure _

theorem writeData_keeps (pointer length : Nat) :
    Keeps url (writeData url pointer length) :=
  writeDataWith_keeps writeOnce_keeps pointer length 0

theorem storeAndWrite_keeps (bytes : List UInt8) :
    Keeps url (storeAndWrite url bytes) :=
  keeps_call rfl fun _ => writeData_keeps _ _

theorem writeStream_keeps (items : List (Except ErrorSource (List UInt8))) :
    Keeps url (writeStream url items) := by
  induction items with
  | nil => exact keeps_pure _
  | cons item items ih =>
    cases item with
    | error source =>
      apply keeps_fail
      intro shape
      simpa [Error.withUrl, Error.request, Error.withKind] using shape.2
    | ok chunk =>
      unfold writeStream
      split
      · exact ih
      · exact keeps_bind (storeAndWrite_keeps _) fun _ => ih

theorem writeLargeBody_keeps (pointer length offset : Nat) :
    Keeps url (writeLargeBody url pointer length offset) := by
  fun_induction writeLargeBody url pointer length offset with
  | case1 offset before chunkSize ih =>
    exact keeps_bind (writeData_keeps _ _) fun _ => ih
  | case2 => exact keeps_pure _

theorem addRequestHeader_keeps (line : String) :
    Keeps url (addRequestHeader url line) := by
  unfold addRequestHeader
  split
  · exact keeps_call rfl keeps_check
  · apply keeps_fail
    intro shape
    simpa [Error.withUrl, Error.request, Error.withKind, String.toList_append]
      using shape.2

theorem addHeaders_keeps (headers : List (String × String)) :
    Keeps url (addHeaders url headers) := by
  induction headers with
  | nil => exact keeps_pure _
  | cons header headers ih =>
    exact keeps_bind (addRequestHeader_keeps _) fun _ => ih

theorem storeBody_keeps (body : Option Body) : Keeps url (storeBody body) := by
  rcases body with _ | ⟨content | items⟩
  · exact keeps_pure _
  · apply keeps_call rfl
    intro pointer
    split <;> exact keeps_pure _
  · exact keeps_pure _

theorem openHandle_keeps (parts : RequestParts) :
    Keeps parts.url (openHandle parts) :=
  keeps_bind (storeBody_keeps _) fun _ =>
    keeps_call rfl fun _ => keeps_checked fun _ =>
      keeps_call rfl fun _ => keeps_checked fun _ =>
        keeps_call rfl fun _ => keeps_checked fun _ => keeps_pure _

theorem setProxy_keeps (action : ProxyAction) : Keeps url (setProxy url action) := by
  cases action with
  | direct => exact keeps_call rfl keeps_check
  | named proxyUrl creds =>
    refine keeps_call rfl fun _ => keeps_checked fun _ => ?_
    cases creds with
    | none => exact keeps_pure _
    | some credentials => exact keeps_call rfl keeps_check
  | automatic => exact keeps_pure _

theorem setCertificateOptions_keeps (parts : RequestParts) :
    Keeps parts.url (setCertificateOptions parts) := by
  have ignoring : Keeps parts.url
      (if parts.acceptInvalidCerts then do
        checkWin32 parts.url (← ask (.setSecurityFlags ignoredCertificateFlags))
      else pure () : RequestStep Unit) := by
    split
    · exact keeps_call rfl keeps_check
    · exact keeps_pure _
  unfold setCertificateOptions
  dsimp only
  split
  · exact keeps_call rfl fun _ => keeps_checked fun _ => ignoring
  · exact ignoring

theorem prepareRequest_keeps (parts : RequestParts) :
    Keeps parts.url (prepareRequest parts) :=
  keeps_bind
    (keeps_bind (openHandle_keeps parts) fun _ =>
      keeps_bind (setProxy_keeps _) fun _ =>
        keeps_bind (setCertificateOptions_keeps parts) fun _ => keeps_pure _)
    fun _ => keeps_bind (addHeaders_keeps _) fun _ => keeps_pure _

variable {parse : String → Option Url}

/-- A client-certificate challenge is no reason of an abort. -/
theorem between_of_isConnect {error : Error} (connect : error.isConnect = true)
    {world : RequestWorld} (settled : Settled url error world) :
    Between world ∧ ¬ error.IsAbortReason := by
  have kind : error.kind = .connect := by simpa [Error.isConnect] using connect
  cases settled with
  | generic between shape => exact ⟨between, shape⟩
  | reason reason abort idle first failed shape returned =>
    rw [returned, Error.withUrl_kind, shape.1] at kind
    cases kind

theorem onError_settled (retry : CertlessRedirectRetry) (error : Error) :
    Triple winHttp (Settled url error) (retry.onError parse error url)
      (fun _ => Between) (Settled url) := by
  unfold CertlessRedirectRetry.onError
  split
  · next resend =>
    have connect : error.isConnect = true := by
      have needed := resend.2.2
      simp only [CertlessRedirectRetry.isClientCertNeeded, Bool.and_eq_true] at needed
      exact needed.1
    have shape : ¬ error.IsAbortReason := by
      apply Error.not_isAbortReason_of_kind
      intro request
      simp [Error.isConnect, request] at connect
    refine Triple.weaken (keeps_call rfl fun (aborted : Bool) => ?_)
      fun world settled => (between_of_isConnect connect settled).1
    cases aborted with
    | true => exact keeps_fail shape
    | false =>
      apply keeps_call rfl
      intro current
      split
      · exact keeps_call rfl fun _ => keeps_checked fun _ =>
          keeps_bind (sendAndComplete_keeps _ _ _) fun _ => keeps_pure _
      · exact keeps_fail shape
  · exact Triple.throw (settled_stable url error) fun _ settled => settled

theorem sendBody_keeps (body : PreparedBody) (retry : CertlessRedirectRetry) :
    Keeps url (sendBody parse url body retry) := by
  unfold sendBody
  split
  · exact keeps_bind (addRequestHeader_keeps _) fun _ =>
      keeps_bind (sendAndComplete_keeps _ _ _) fun _ =>
        keeps_bind (writeStream_keeps _) fun _ =>
          keeps_bind (storeAndWrite_keeps _) fun _ => keeps_pure _
  · split
    · apply triple_bind (outcome_settled (sendAndComplete_keeps _ _ _))
      intro result
      cases result with
      | ok value => exact keeps_pure _
      | error error => exact triple_bind (onError_settled _ _) fun _ => keeps_pure _
    · refine keeps_bind (addRequestHeader_keeps _) fun _ =>
        keeps_bind (sendAndComplete_keeps _ _ _) fun _ => ?_
      dsimp only
      split
      · exact keeps_bind (writeLargeBody_keeps _ _ _) fun _ => keeps_pure _
      · exact keeps_pure _

theorem receiveResponse_keeps (retry : CertlessRedirectRetry) :
    Keeps url (receiveResponse parse url retry) := by
  fun_induction receiveResponse parse url retry with
  | case1 retry ih =>
    apply triple_bind (outcome_settled receiveAndComplete_keeps)
    intro result
    cases result with
    | ok value => exact keeps_pure _
    | error error => exact triple_bind (onError_settled _ _) fun next => ih next

theorem parseStatus_shape {statusCode : Nat} {error : Error}
    (failed : parseWinHttpStatusCode statusCode url = .error error) :
    ¬ error.IsAbortReason := by
  intro shape
  unfold parseWinHttpStatusCode at failed
  dsimp only at failed
  split at failed
  · split at failed
    · cases failed
    · cases failed
      simpa [Error.withUrl, Error.request, Error.withKind, String.toList_append]
        using shape.2
  · cases failed
    simpa [Error.withUrl, Error.request, Error.withKind, String.toList_append]
      using shape.2

theorem queryResponse_keeps : Keeps url (queryResponse parse url) :=
  keeps_call rfl fun _ => keeps_call rfl fun _ => keeps_checked fun _ =>
    keeps_bind (keeps_ofResult fun _ => parseStatus_shape) fun _ =>
      keeps_call rfl fun _ => keeps_call rfl fun _ =>
        keeps_call rfl fun _ => keeps_checked fun _ => keeps_call rfl fun _ =>
          keeps_pure _

theorem executeRequest_keeps (parts : RequestParts) :
    Keeps parts.url (executeRequest parse parts) :=
  keeps_bind (prepareRequest_keeps parts) fun body =>
    keeps_bind (sendBody_keeps body _) fun retry =>
      keeps_bind (receiveResponse_keeps retry) fun _ => queryResponse_keeps

end Phases

/-- In every run in which a callback aborted the request, the request returns the
reason of the first abort if and only if it was aborted at some moment while the
error of a send or a receive waited for its conversion. -/
theorem executeRequest_returns_reason_iff (parse : String → Option Url)
    (parts : RequestParts) (session : ProxyAction)
    (result : Except Error RawResponse) (last : RequestWorld)
    (runs : Runs winHttp (executeRequest parse parts) (.initial parts session)
      result last)
    (reason : Error) (aborted : last.firstReason = some reason) :
    result = .error (reason.withUrl parts.url) ↔ last.failedAborted = true := by
  have initial : Between (.initial parts session) := ⟨.live rfl rfl rfl, rfl⟩
  have ends := executeRequest_keeps parts _ initial result last runs
  have generic : Between last → last.failedAborted = false ∧ reason.IsAbortReason := by
    rintro ⟨tracked, idle⟩
    cases tracked with
    | live abort first failed =>
      rw [first] at aborted
      cases aborted
    | latched other abort first shape failed =>
      rw [first] at aborted
      cases aborted
      rw [failed, idle]
      exact ⟨rfl, shape⟩
  cases result with
  | ok response => simp [(generic ends).1]
  | error error =>
    cases ends with
    | generic between shape =>
      have lost := generic between
      rw [lost.1]
      refine ⟨fun returned => ?_, nofun⟩
      cases returned
      exact absurd lost.2 shape
    | reason other abort idle first failed shape returned =>
      rw [first] at aborted
      cases aborted
      simp [returned, failed]

/-- A redirect to a target that is no text. -/
def undecodable : RedirectCallback where
  target := .invalidUtf16
  removal := winHttpRemoval fun _ => none

def undecodableReason : Error :=
  .request (.message "WinHTTP returned invalid UTF-16 in callback string")

theorem prepareRequest_runs_bare :
    Runs winHttp (α := Except Error PreparedBody)
      (prepareRequest (bareParts .none false))
      (.initial (bareParts .none false) .automatic) (.ok .absent)
      (.initial (bareParts .none false) .automatic) := by
  have configured : Runs winHttp (α := Except Error PreparedBody)
      (configureRequest (bareParts .none false))
      (.initial (bareParts .none false) .automatic) _ _ := configureRequest_runs rfl rfl
  exact configured.bind (.done _ _)

/-- An abort while the send is pending is returned. -/
theorem executeRequest_returns_reason_iff_sending :
    ∃ result last,
      Runs winHttp (executeRequest (fun _ => none) (bareParts .none false))
        (.initial (bareParts .none false) .automatic) result last ∧
      result = .error (undecodableReason.withUrl (bareParts .none false).url) ∧
      RequestWorld.firstReason last = some undecodableReason := by
  let parts := bareParts .none false
  let listening := (RequestWorld.initial parts .automatic).listened
  let latched := listening.sending.redirect undecodable
  let aborted := { latched with closing := false, closed := true }
  have starts : Runs winHttp (α := Except Error Unit)
      (do checkWin32 parts.url (← ask (.sendRequest none 0 0)) : RequestStep Unit)
      listening (.ok ()) aborted :=
    .call (.ok ()) ⟨rfl, rfl⟩ (.interfere (.redirects undecodable) rfl
      (.interfere .closes rfl (.done _ _)))
  have awaited := awaitWin32_runs starts rfl rfl fun _ => rfl
  obtain ⟨last, sends, first, failed⟩ : ∃ last : RequestWorld,
      Runs winHttp (α := Except Error Unit) (sendAndComplete parts.url none 0 0)
        (.initial parts .automatic) (.error (undecodableReason.withUrl parts.url)) last ∧
      last.firstReason = some undecodableReason ∧ last.failedAborted = true :=
    ⟨_, awaited.bind (.call (some undecodableReason) ⟨rfl, rfl⟩ (.done _ _)), rfl, rfl⟩
  have runs : Runs winHttp (executeRequest (fun _ => none) parts)
      (.initial parts .automatic) _ last :=
    prepareRequest_runs_bare.bind ((sendBody_runs_error sends rfl).bind (.done _ _))
  exact ⟨_, last, runs,
    (executeRequest_returns_reason_iff _ _ _ _ _ runs undecodableReason first).mpr failed,
    first⟩

/-- An abort between the completion of the send and the start of the receive is
reported as an invalid handle. -/
theorem executeRequest_hides_reason :
    ∃ last,
      Runs winHttp (executeRequest (fun _ => none) (bareParts .none false))
        (.initial (bareParts .none false) .automatic)
        (.error ((Error.fromWin32 ERROR_INVALID_HANDLE).withUrl
          (bareParts .none false).url)) last ∧
      RequestWorld.firstReason last = some undecodableReason := by
  let parts := bareParts .none false
  let listening := (RequestWorld.initial parts .automatic).listened
  let sent := listening.sending.completed .complete
  have cancelled : listening.sending.closed = true →
      CallbackEvent.complete = .win32Error ERROR_WINHTTP_OPERATION_CANCELLED := nofun
  have awaited := awaitWin32_runs (startSend_runs rfl parts.url) rfl rfl cancelled
  have sends : Runs winHttp (α := Except Error Unit)
      (sendAndComplete parts.url none 0 0) (.initial parts .automatic) (.ok ()) sent :=
    awaited.bind (.done _ _)
  obtain ⟨last, receives, first⟩ : ∃ last : RequestWorld,
      Runs winHttp (α := Except Error Unit) (receiveAndComplete parts.url) sent
        (.error ((Error.fromWin32 ERROR_INVALID_HANDLE).withUrl parts.url)) last ∧
      last.firstReason = some undecodableReason :=
    ⟨_, .interfere (.redirects undecodable) rfl (.interfere .closes rfl
      (.call _ ⟨rfl, rfl⟩ (.call (.error ERROR_INVALID_HANDLE) rfl (.done _ _)))), rfl⟩
  exact ⟨last, prepareRequest_runs_bare.bind ((sendBody_runs_ok sends).bind
    ((receiveResponse_runs_error receives rfl).bind (.done _ _))), first⟩

end AbortReason

end Wrest
