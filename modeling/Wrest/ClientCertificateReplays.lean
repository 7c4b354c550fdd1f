import Wrest.RequestTraces
import Wrest.AbortTracking
import Wrest.RequestProgress
import Wrest.TraceGuarantees

/-!
# Sending again without a client certificate

A send or a receive may fail because the server asks for a client certificate.  A request
that was redirected to HTTPS is then sent a second time without one, if it was an original
GET over HTTP without a body.  Any other failure is the result of the request, and so is
one of the second send.
-/

namespace Wrest

open Interaction RequestStep Win32

/-- The history ends with a send or a receive that failed. -/
inductive EndsFailed (url : Url) (error : Error) : RequestTrace → Prop
  | send (early : RequestTrace) (listener : Nat) (body : Option Nat)
      (bodyLength totalLength : Nat) (reply : Outcome) (rest : RequestTrace)
      (fails : Completion url reply rest (.error error)) :
      EndsFailed url error (early ++ ⟨.listen, listener⟩ ::
        ⟨.sendRequest body bodyLength totalLength, reply⟩ :: rest)
  | receive (early : RequestTrace) (listener : Nat) (reply : Outcome) (rest : RequestTrace)
      (fails : Completion url reply rest (.error error)) :
      EndsFailed url error
        (early ++ ⟨.listen, listener⟩ :: ⟨.receiveResponse, reply⟩ :: rest)

/-- The server asked for a client certificate. -/
def certificateChallenge (url : Url) : Error :=
  (Error.fromWin32 ERROR_WINHTTP_CLIENT_AUTH_CERT_NEEDED).withUrl url

/-- A challenge to a request over HTTP, GET and without a body, whose handle is not aborted
and has reached an HTTPS URL. -/
structure MayResend (parse : String → Option Url) (parts : RequestParts)
    (history : RequestTrace) : Prop where
  http : parts.url.isHttps = false
  get : parts.method = "GET"
  bodyless : parts.body = none
  challenged : ∃ (early : RequestTrace) (text : String),
    history = early ++ [⟨.isAborted, false⟩, ⟨.queryUrl, some text⟩] ∧
      EndsFailed parts.url (certificateChallenge parts.url) early ∧
      (parse text).any Url.isHttps = true

/-- What a history says about its last send or receive. -/
inductive TransferState
  | settled
  | started
  | reported (code : Nat)
  | insecure
  | failed (error : Error)

namespace TransferState

variable {url : Url}

def starts (url : Url) : Outcome → TransferState
  | .ok _ => .started
  | .error code => .failed ((Error.fromWin32 code).withUrl url)

def polled (url : Url) (state : TransferState) :
    Except SignalCancelled CallbackEvent → TransferState
  | .error _ => match state with
    | .started => .failed .fromSignalCancelled
    | other => other
  | .ok event => match state, event with
    | .started, .complete => .settled
    | .started, .win32Error code => .reported code
    | .started, event => .failed (event.unexpected url)
    | other, _ => other

def converted (url : Url) (state : TransferState) (taken : Option Error) : TransferState :=
  match state, taken with
  | .reported _, some reason => .failed (reason.withUrl url)
  | .reported code, none =>
    if code = ERROR_WINHTTP_SECURE_FAILURE then .insecure
    else .failed ((Error.fromWin32 code).withUrl url)
  | other, _ => other

def described (url : Url) (flags : Nat) : TransferState → TransferState
  | .insecure => .failed (enrichTlsFailure flags
      ((Error.fromWin32 ERROR_WINHTTP_SECURE_FAILURE).withUrl url))
  | other => other

/-- The option for a second send drops the failure of the first, or fails itself. -/
def uncertified (url : Url) (state : TransferState) (reply : Outcome) : TransferState :=
  match state, reply with
  | .failed _, .ok _ => .settled
  | .failed _, .error code => .failed ((Error.fromWin32 code).withUrl url)
  | other, _ => other

def next (url : Url) (state : TransferState) : Exchange requestInterface → TransferState
  | ⟨.sendRequest _ _ _, reply⟩ => starts url reply
  | ⟨.receiveResponse, reply⟩ => starts url reply
  | ⟨.poll _, reply⟩ => state.polled url reply
  | ⟨.takeAbortReason, taken⟩ => state.converted url taken
  | ⟨.tlsFailureFlags, flags⟩ => state.described url flags
  | ⟨.setNoClientCert, reply⟩ => state.uncertified url reply
  | _ => state

end TransferState

def transferState (url : Url) (history : RequestTrace) : TransferState :=
  history.foldl (TransferState.next url) .settled

section States

variable {url : Url} {history rest : RequestTrace} {error : Error}

theorem transferState_append (url : Url) (history rest : RequestTrace) :
    transferState url (history ++ rest) =
      rest.foldl (TransferState.next url) (transferState url history) :=
  List.foldl_append

/-- Only a send or a receive leaves the settled state. -/
theorem next_settled {exchange : Exchange requestInterface}
    (noSend : RequestCall.isSend exchange.call = false)
    (noReceive : RequestCall.isReceive exchange.call = false) :
    TransferState.next url .settled exchange = .settled := by
  obtain ⟨call, reply⟩ := exchange
  cases call with
  | sendRequest => cases noSend
  | receiveResponse => cases noReceive
  | poll listener => rcases reply with _ | event <;> rfl
  | _ => rfl

/-- A completion leads to the state that its result says. -/
theorem Completion.state {reply : Outcome} {result : Except Error Unit}
    (completion : Completion url reply rest result) :
    rest.foldl (TransferState.next url) (TransferState.starts url reply) =
      match result with
      | .ok _ => .settled
      | .error error => .failed error := by
  cases completion with
  | refused | cancelled | completed | aborted | insecure => rfl
  | unexpected listener event incomplete noCode =>
    cases event with
    | complete => exact absurd rfl incomplete
    | win32Error code => exact absurd rfl (noCode code)
    | readComplete | writeComplete => rfl
  | reported listener code other =>
    exact if_neg other

theorem EndsFailed.state (ends : EndsFailed url error history) :
    transferState url history = .failed error := by
  cases ends with
  | send early listener body bodyLength totalLength reply rest fails =>
    rw [transferState_append]
    exact fails.state
  | receive early listener reply rest fails =>
    rw [transferState_append]
    exact fails.state

/-- A code asks for a certificate only if it is the one of the challenge. -/
theorem certNeeded_fromWin32 {code : Nat}
    (needed : CertlessRedirectRetry.isClientCertNeeded
      ((Error.fromWin32 code).withUrl url) = true) :
    code = ERROR_WINHTTP_CLIENT_AUTH_CERT_NEEDED := by
  simp only [CertlessRedirectRetry.isClientCertNeeded, Bool.and_eq_true] at needed
  have raw : ErrorSource.rawOsError (.io code) =
      some ERROR_WINHTTP_CLIENT_AUTH_CERT_NEEDED := by
    simpa [Error.withUrl, Error.fromWin32] using needed.2
  simp only [ErrorSource.rawOsError] at raw
  split at raw
  · cases raw
  · exact Option.some.inj raw

/-- A failure that asks for a certificate is the challenge or the reason of an abort. -/
theorem Completion.certNeeded {reply : Outcome}
    (completion : Completion url reply rest (.error error))
    (needed : CertlessRedirectRetry.isClientCertNeeded error = true) :
    error = certificateChallenge url ∨
      ∃ reason, (⟨.takeAbortReason, some reason⟩ : Exchange requestInterface) ∈ rest := by
  cases completion with
  | refused code =>
    obtain rfl := certNeeded_fromWin32 needed
    exact .inl rfl
  | reported listener code other =>
    obtain rfl := certNeeded_fromWin32 needed
    exact .inl rfl
  | cancelled listener => cases needed
  | unexpected listener event => cases needed
  | aborted listener code reason => exact .inr ⟨reason, by simp⟩
  | insecure listener flags => cases needed

end States

namespace CertificateReplay

section Rules

variable {parse : String → Option Url} {parts : RequestParts}

def sendCount (history : RequestTrace) : Nat :=
  history.countP fun exchange => RequestCall.isSend exchange.call

def receiveCount (history : RequestTrace) : Nat :=
  history.countP fun exchange => RequestCall.isReceive exchange.call

/-- What may follow a history of the request. -/
structure ReplayRule (parse : String → Option Url) (parts : RequestParts)
    (history : RequestTrace) (exchange : Exchange requestInterface) : Prop where
  sends : RequestCall.isSend exchange.call = true → sendCount history ≤ 1
  receives : RequestCall.isReceive exchange.call = true → receiveCount history ≤ 1
  resends : RequestCall.isSend exchange.call = true → sendCount history = 0 ∨
    ∃ (early : RequestTrace) (listener : Nat),
      history = early ++ [⟨.setNoClientCert, (.ok () : Outcome)⟩, ⟨.listen, listener⟩] ∧
        MayResend parse parts early
  failed : ∀ error, transferState parts.url history = .failed error →
    exchange.call = .isAborted ∨ exchange.call = .queryUrl ∨
      exchange.call = .setNoClientCert ∧ MayResend parse parts history

/-- A request is not found running after the reason of its abort was taken. -/
def AbortsStay (history : RequestTrace) (exchange : Exchange requestInterface) : Prop :=
  exchange = ⟨.isAborted, false⟩ →
    ∀ reason, (⟨.takeAbortReason, some reason⟩ : Exchange requestInterface) ∉ history

/-- No operation has failed, and the sends and receives so far. -/
structure Settled (parts : RequestParts) (sends receives : Nat) (history : RequestTrace) :
    Prop where
  state : transferState parts.url history = .settled
  sends : sendCount history ≤ sends
  receives : receiveCount history ≤ receives

/-- The last operation failed, and the sends and receives so far. -/
structure FailedWith (parts : RequestParts) (sends receives : Nat) (error : Error)
    (history : RequestTrace) : Prop where
  ends : EndsFailed parts.url error history
  sends : sendCount history ≤ sends
  receives : receiveCount history ≤ receives
  certified : CertlessRedirectRetry.isClientCertNeeded error = true →
    error = certificateChallenge parts.url ∨
      ∃ reason, (⟨.takeAbortReason, some reason⟩ : Exchange requestInterface) ∈ history

/-- A failure of the last operation is the one that is returned. -/
def Returned (parts : RequestParts) (error : Error) (history : RequestTrace) : Prop :=
  ∀ found, transferState parts.url history = .failed found → found = error

/-- What a step guarantees from the histories of a precondition. -/
abbrev Replays {α : Type} (parse : String → Option Url) (parts : RequestParts)
    (before : RequestTrace → Prop) (step : RequestStep α)
    (returns : α → RequestTrace → Prop) (fails : Error → RequestTrace → Prop) : Prop :=
  AttemptGuarantees AbortsStay (ReplayRule parse parts) before step returns fails

variable {history rest : RequestTrace} {exchange : Exchange requestInterface}
variable {sends receives : Nat} {error : Error}

theorem sendCount_append (history rest : RequestTrace) :
    sendCount (history ++ rest) = sendCount history + sendCount rest :=
  List.countP_append

theorem receiveCount_append (history rest : RequestTrace) :
    receiveCount (history ++ rest) = receiveCount history + receiveCount rest :=
  List.countP_append

theorem sendCount_cons (exchange : Exchange requestInterface) (rest : RequestTrace) :
    sendCount (exchange :: rest) =
      sendCount rest + (RequestCall.isSend exchange.call).toNat := by
  unfold sendCount
  rw [List.countP_cons]
  cases RequestCall.isSend exchange.call <;> rfl

theorem receiveCount_cons (exchange : Exchange requestInterface) (rest : RequestTrace) :
    receiveCount (exchange :: rest) =
      receiveCount rest + (RequestCall.isReceive exchange.call).toNat := by
  unfold receiveCount
  rw [List.countP_cons]
  cases RequestCall.isReceive exchange.call <;> rfl

theorem Settled.running (settled : Settled parts sends receives history) (error : Error) :
    transferState parts.url history ≠ .failed error := by
  rw [settled.state]
  exact TransferState.noConfusion

theorem Settled.returned (settled : Settled parts sends receives history) (error : Error) :
    Returned parts error history :=
  fun found failed => absurd failed (settled.running found)

theorem returned_of_state (failed : transferState parts.url history = .failed error) :
    Returned parts error history := by
  intro found same
  rw [failed] at same
  exact (TransferState.failed.inj same).symm

/-- Other calls than sends and receives are bound by a failure only. -/
theorem replayRule_of_other (noSend : RequestCall.isSend exchange.call = false)
    (noReceive : RequestCall.isReceive exchange.call = false)
    (failed : ∀ error, transferState parts.url history = .failed error →
      exchange.call = .isAborted ∨ exchange.call = .queryUrl ∨
        exchange.call = .setNoClientCert ∧ MayResend parse parts history) :
    ReplayRule parse parts history exchange where
  sends impossible := by rw [noSend] at impossible; cases impossible
  receives impossible := by rw [noReceive] at impossible; cases impossible
  resends impossible := by rw [noSend] at impossible; cases impossible
  failed := failed

theorem replayRule_of_running (noSend : RequestCall.isSend exchange.call = false)
    (noReceive : RequestCall.isReceive exchange.call = false)
    (running : ∀ error, transferState parts.url history ≠ .failed error) :
    ReplayRule parse parts history exchange :=
  replayRule_of_other noSend noReceive fun error failed => absurd failed (running error)

theorem Settled.append_quiet (settled : Settled parts sends receives history)
    (noSend : RequestCall.isSend exchange.call = false)
    (noReceive : RequestCall.isReceive exchange.call = false) :
    Settled parts sends receives (history ++ [exchange]) := by
  constructor
  · rw [transferState_append, settled.state]
    exact next_settled noSend noReceive
  · rw [sendCount_append, sendCount_cons, noSend]
    exact settled.sends
  · rw [receiveCount_append, receiveCount_cons, noReceive]
    exact settled.receives

/-- The steps between the operations. -/
theorem replays_quiet {α : Type} {step : RequestStep α}
    (makes : step.Makes fun call => call.isSend = false ∧ call.isReceive = false)
    (sends receives : Nat) :
    Replays parse parts (Settled parts sends receives) step
      (fun _ => Settled parts sends receives) (Returned parts) := by
  have keeps : Guarantees (α := Except Error α) AbortsStay (ReplayRule parse parts)
      (Settled parts sends receives) step fun _ => Settled parts sends receives := by
    unfold RequestStep.Makes at makes
    refine guarantees_of_makes makes fun history exchange settled quiet => ⟨?_, ?_⟩
    · exact replayRule_of_running quiet.1 quiet.2 settled.running
    · exact settled.append_quiet quiet.1 quiet.2
  refine keeps.mono (fun _ holds => holds) fun result history settled => ?_
  cases result with
  | ok value => exact settled
  | error error => exact settled.returned error

/-- A completion reads what the state asks for. -/
theorem follows_of_completion {reply : Outcome} {result : Except Error Unit}
    (completion : Completion parts.url reply rest result)
    (state : transferState parts.url history = .starts parts.url reply) :
    Follows (ReplayRule parse parts) history rest := by
  have running : ∀ {history exchange}, RequestCall.isSend exchange.call = false →
      RequestCall.isReceive exchange.call = false →
        (∀ error, transferState parts.url history ≠ .failed error) →
          ReplayRule parse parts history exchange := replayRule_of_running
  cases completion with
  | refused code => trivial
  | cancelled | completed | unexpected =>
    refine ⟨running rfl rfl fun error => ?_, trivial⟩
    rw [state]
    exact TransferState.noConfusion
  | aborted listener code | reported listener code =>
    refine ⟨running rfl rfl fun error => ?_, running rfl rfl fun error => ?_, trivial⟩
    · rw [state]
      exact TransferState.noConfusion
    · rw [transferState_append, state]
      exact TransferState.noConfusion
  | insecure listener flags =>
    refine ⟨running rfl rfl fun error => ?_, running rfl rfl fun error => ?_,
      running rfl rfl fun error => ?_, trivial⟩
    · rw [state]
      exact TransferState.noConfusion
    · rw [transferState_append, state]
      exact TransferState.noConfusion
    · rw [transferState_append, transferState_append, state]
      exact TransferState.noConfusion

theorem counts_of_completion {reply : Outcome} {result : Except Error Unit}
    (completion : Completion parts.url reply rest result) :
    sendCount rest = 0 ∧ receiveCount rest = 0 := by
  cases completion <;> exact ⟨rfl, rfl⟩

/-- A send or a receive that the rule allows. -/
theorem replays_operation {call : RequestCall} {start : call.Reply → Outcome}
    (reads : ∀ state reply, TransferState.next parts.url state ⟨call, reply⟩ =
      .starts parts.url (start reply))
    (ends : ∀ early listener reply rest error,
      Completion parts.url (start reply) rest (.error error) →
        EndsFailed parts.url error
          (early ++ ⟨.listen, (listener : Nat)⟩ :: ⟨call, reply⟩ :: rest))
    (sends receives : Nat) :
    Replays parse parts
      (fun history => Settled parts sends receives history ∧ ∀ listener reply,
        ReplayRule parse parts (history ++ [⟨.listen, (listener : Nat)⟩]) ⟨call, reply⟩)
      (do
        let event ← awaitWin32 do checkWin32 parts.url (start (← ask call))
        event.intoResult parts.url)
      (fun _ => Settled parts (sends + call.isSend.toNat) (receives + call.isReceive.toNat))
      (FailedWith parts (sends + call.isSend.toNat) (receives + call.isReceive.toNat)) := by
  rintro history trace result ⟨settled, allowed⟩ traces -
  obtain ⟨listener, reply, rest, rfl, completion⟩ := traces_operation call start traces
  have listening : Settled parts sends receives (history ++ [⟨.listen, listener⟩]) :=
    settled.append_quiet rfl rfl
  have started : transferState parts.url
      (history ++ [⟨.listen, listener⟩] ++ [⟨call, reply⟩]) =
        .starts parts.url (start reply) := by
    rw [transferState_append]
    exact reads _ reply
  have waits : ReplayRule parse parts history ⟨.listen, listener⟩ :=
    replayRule_of_running rfl rfl settled.running
  obtain ⟨noSends, noReceives⟩ := counts_of_completion completion
  have sendsLe : sendCount (history ++ ⟨.listen, listener⟩ :: ⟨call, reply⟩ :: rest) ≤
      sends + call.isSend.toNat := by
    rw [sendCount_append, sendCount_cons, sendCount_cons, noSends, Nat.zero_add]
    exact Nat.add_le_add_right settled.sends _
  have receivesLe : receiveCount (history ++ ⟨.listen, listener⟩ :: ⟨call, reply⟩ :: rest) ≤
      receives + call.isReceive.toNat := by
    rw [receiveCount_append, receiveCount_cons, receiveCount_cons, noReceives, Nat.zero_add]
    exact Nat.add_le_add_right settled.receives _
  refine ⟨⟨waits, allowed listener reply, follows_of_completion completion started⟩, ?_⟩
  cases result with
  | ok value =>
    refine ⟨?_, sendsLe, receivesLe⟩
    have ended := completion.state
    rw [← started, ← transferState_append] at ended
    simpa using ended
  | error error =>
    refine ⟨ends history listener reply rest error completion, sendsLe, receivesLe, ?_⟩
    intro needed
    rcases completion.certNeeded needed with challenge | ⟨reason, member⟩
    · exact .inl challenge
    · exact .inr ⟨reason, by simp [member]⟩

end Rules

section Resends

variable {α : Type} {parse : String → Option Url} {parts : RequestParts}
variable {before : RequestTrace → Prop} {fails : Error → RequestTrace → Prop}

theorem replays_ask {call : RequestCall} {rest : call.Reply → RequestStep α}
    {middle : call.Reply → RequestTrace → Prop} {returns : α → RequestTrace → Prop}
    (steps : ∀ history (reply : call.Reply), before history →
      AbortsStay history ⟨call, reply⟩ → ReplayRule parse parts history ⟨call, reply⟩ ∧
        middle reply (history ++ [⟨call, reply⟩]))
    (continues : ∀ reply, Replays parse parts (middle reply) (rest reply) returns fails) :
    Replays parse parts before (ask call >>= rest) returns fails :=
  guarantees_call steps continues

theorem replays_fail {error : Error} {returns : α → RequestTrace → Prop}
    (holds : ∀ history, before history → fails error history) :
    Replays parse parts before (fail error : RequestStep α) returns fails :=
  guarantees_pure holds

theorem replays_pure {value : α} {returns : α → RequestTrace → Prop}
    (holds : ∀ history, before history → returns value history) :
    Replays parse parts before (pure value : RequestStep α) returns fails :=
  guarantees_pure holds

variable {history : RequestTrace} {retry : CertlessRedirectRetry} {error : Error}

/-- The request may still be sent without a certificate once, or was. -/
def Ready (parts : RequestParts) (retry : CertlessRedirectRetry) : RequestTrace → Prop :=
  Settled parts (if retry.attempted then 2 else 1) (if retry.attempted then 1 else 0)

def Failing (parts : RequestParts) (retry : CertlessRedirectRetry) (error : Error) :
    RequestTrace → Prop :=
  FailedWith parts (if retry.attempted then 2 else 1) (if retry.attempted then 2 else 1) error

/-- The request is one that may be sent again. -/
def Replayable (parts : RequestParts) : Prop :=
  parts.url.isHttps = false ∧ parts.method = "GET" ∧ parts.body = none

/-- The retry that is kept may be used for a request that may be sent again. -/
def Retries (parts : RequestParts) (retry : CertlessRedirectRetry) : Prop :=
  retry.replaySafe = true → retry.attempted = false → Replayable parts

/-- A failure may be examined. -/
theorem replayRule_of_guard {call : RequestCall} {reply : call.Reply}
    (guard : call = .isAborted ∨ call = .queryUrl) :
    ReplayRule parse parts history ⟨call, reply⟩ := by
  rcases guard with rfl | rfl
  · exact replayRule_of_other rfl rfl fun _ _ => .inl rfl
  · exact replayRule_of_other rfl rfl fun _ _ => .inr (.inl rfl)

/-- The first send, or the second one after a challenge. -/
theorem replays_send {sends : Nat} (few : sends ≤ 1) (receives : Nat) (body : Option Nat)
    (bodyLength totalLength : Nat) :
    Replays parse parts
      (fun history => Settled parts sends receives history ∧ (sends = 0 ∨
        ∃ early, history = early ++ [⟨.setNoClientCert, (.ok () : Outcome)⟩] ∧
          MayResend parse parts early))
      (sendAndComplete parts.url body bodyLength totalLength)
      (fun _ => Settled parts (sends + 1) receives)
      (FailedWith parts (sends + 1) receives) := by
  have operation := @replays_operation parse parts (.sendRequest body bodyLength totalLength)
    id (fun _ _ => rfl)
    (fun early listener reply rest _ fails => .send early listener _ _ _ reply rest fails)
    sends receives
  refine operation.mono ?_ fun _ _ holds => holds
  rintro history ⟨settled, first⟩
  refine ⟨settled, fun listener reply => ?_⟩
  have listening : Settled parts sends receives (history ++ [⟨.listen, listener⟩]) :=
    settled.append_quiet rfl rfl
  constructor
  · exact fun _ => listening.sends.trans few
  · exact fun impossible => nomatch impossible
  · intro _
    rcases first with rfl | ⟨early, rfl, mayResend⟩
    · exact .inl (Nat.le_zero.mp listening.sends)
    · exact .inr ⟨early, listener, by rw [List.append_assoc]; rfl, mayResend⟩
  · exact fun error failed => absurd failed (listening.running error)

/-- A receive. -/
theorem replays_receive {receives : Nat} (few : receives ≤ 1) (sends : Nat) :
    Replays parse parts (Settled parts sends receives) (receiveAndComplete parts.url)
      (fun _ => Settled parts sends (receives + 1))
      (FailedWith parts sends (receives + 1)) := by
  have operation := @replays_operation parse parts .receiveResponse id (fun _ _ => rfl)
    (fun early listener reply rest _ fails => .receive early listener reply rest fails)
    sends receives
  refine operation.mono ?_ fun _ _ holds => holds
  intro history settled
  refine ⟨settled, fun listener reply => ?_⟩
  have listening : Settled parts sends receives (history ++ [⟨.listen, listener⟩]) :=
    settled.append_quiet rfl rfl
  constructor
  · exact fun impossible => nomatch impossible
  · exact fun _ => listening.receives.trans few
  · exact fun impossible => nomatch impossible
  · exact fun error failed => absurd failed (listening.running error)

theorem returned_of_failedWith {sends receives : Nat} {returns : α → RequestTrace → Prop}
    (result : Except Error α) (history : RequestTrace)
    (holds : outcomes returns (FailedWith parts sends receives) result history) :
    outcomes returns (Returned parts) result history := by
  cases result with
  | ok value => exact holds
  | error error => exact returned_of_state (EndsFailed.state (FailedWith.ends holds))

/-- What was found out before the second send. -/
def Examined (parse : String → Option Url) (parts : RequestParts) (history : RequestTrace) :
    Prop :=
  MayResend parse parts history ∧
    transferState parts.url history = .failed (certificateChallenge parts.url) ∧
      sendCount history ≤ 1 ∧ receiveCount history ≤ 1

/-- The option is set, and the request is sent again. -/
theorem replays_resend (value : α) :
    Replays parse parts (Examined parse parts)
      (do
        checkWin32 parts.url (← ask .setNoClientCert)
        sendAndComplete parts.url none 0 0
        pure value)
      (fun _ => Settled parts 2 1) (Returned parts) := by
  refine @replays_ask _ parse parts _ _ .setNoClientCert _
    (fun (reply : Outcome) history => match reply with
      | .ok _ => Settled parts 1 1 history ∧
          ∃ early, history = early ++ [⟨.setNoClientCert, (.ok () : Outcome)⟩] ∧
            MayResend parse parts early
      | .error code => Returned parts ((Error.fromWin32 code).withUrl parts.url) history)
    _ ?_ ?_
  · rintro history reply ⟨mayResend, failed, sends, receives⟩ -
    refine ⟨replayRule_of_other rfl rfl fun _ _ => .inr (.inr ⟨rfl, mayResend⟩), ?_⟩
    cases reply with
    | error code =>
      apply returned_of_state
      rw [transferState_append, failed]
      rfl
    | ok value =>
      refine ⟨⟨?_, ?_, ?_⟩, history, rfl, mayResend⟩
      · rw [transferState_append, failed]
        rfl
      · rw [sendCount_append]
        exact sends
      · rw [receiveCount_append]
        exact receives
  · intro reply
    cases reply with
    | error code => exact replays_fail fun _ holds => holds
    | ok _ =>
      have sends : Replays parse parts
          (fun history => Settled parts 1 1 history ∧
            ∃ early, history = early ++ [⟨.setNoClientCert, (.ok () : Outcome)⟩] ∧
              MayResend parse parts early)
          (sendAndComplete parts.url none 0 0) (fun _ => Settled parts 2 1)
          (Returned parts) :=
        (replays_send le_rfl 1 none 0 0).mono
          (fun _ holds => ⟨holds.1, .inr holds.2⟩) returned_of_failedWith
      have resent : Replays parse parts _
          (do sendAndComplete parts.url none 0 0; pure value)
          (fun _ => Settled parts 2 1) (Returned parts) :=
        AttemptGuarantees.bind sends fun _ => replays_pure fun _ holds => holds
      exact resent

/-- The failure has been examined with these exchanges. -/
def ExaminedWith (parts : RequestParts) (error : Error) (guards : RequestTrace)
    (history : RequestTrace) : Prop :=
  ∃ early, history = early ++ guards ∧ FailedWith parts 1 1 error early

/-- Examining a failure does not change it. -/
theorem ExaminedWith.state {guards : RequestTrace}
    (examined : ExaminedWith parts error guards history)
    (examines : ∀ state, guards.foldl (TransferState.next parts.url) state = state) :
    transferState parts.url history = .failed error := by
  obtain ⟨early, rfl, failed⟩ := examined
  rw [transferState_append, examines]
  exact failed.ends.state

theorem ExaminedWith.returned {guards : RequestTrace}
    (examined : ExaminedWith parts error guards history)
    (examines : ∀ state, guards.foldl (TransferState.next parts.url) state = state) :
    Returned parts error history :=
  returned_of_state (examined.state examines)

theorem ExaminedWith.mayResend {current : Option String}
    (examined : ExaminedWith parts (certificateChallenge parts.url)
      [⟨.isAborted, false⟩, ⟨.queryUrl, current⟩] history)
    (replayable : Replayable parts) (secure : (current.bind parse).any Url.isHttps = true) :
    Examined parse parts history := by
  have state := examined.state fun _ => rfl
  obtain ⟨early, rfl, failed⟩ := examined
  obtain ⟨http, get, bodyless⟩ := replayable
  cases current with
  | none => cases secure
  | some text =>
    refine ⟨⟨http, get, bodyless, early, text, rfl, failed.ends, secure⟩, state, ?_, ?_⟩
    · rw [sendCount_append]
      exact failed.sends
    · rw [receiveCount_append]
      exact failed.receives

/-- The failure of an operation of the request that may ask for a certificate. -/
theorem replays_onError (retries : Retries parts retry) :
    Replays parse parts (Failing parts retry error) (retry.onError parse error parts.url)
      (fun next => Ready parts next.val) (Returned parts) := by
  unfold CertlessRedirectRetry.onError
  split
  · next resend =>
    obtain ⟨safe, fresh, needed⟩ := resend
    refine @replays_ask _ parse parts _ _ .isAborted _
      (fun (aborted : Bool) history => ExaminedWith parts error [⟨.isAborted, aborted⟩] history ∧
        (aborted = false → error = certificateChallenge parts.url)) _ ?_ fun aborted => ?_
    · intro history aborted failing stays
      rw [Failing, fresh] at failing
      refine ⟨replayRule_of_guard (.inl rfl), ⟨history, rfl, failing⟩, ?_⟩
      rintro rfl
      rcases failing.certified needed with challenge | ⟨reason, taken⟩
      · exact challenge
      · exact absurd taken (stays rfl reason)
    · cases aborted with
      | true => exact replays_fail fun _ holds => holds.1.returned fun _ => rfl
      | false =>
        refine @replays_ask _ parse parts _ _ .queryUrl _
          (fun (current : Option String) history =>
            ExaminedWith parts error [⟨.isAborted, false⟩, ⟨.queryUrl, current⟩] history ∧
              error = certificateChallenge parts.url) _ ?_ fun current => ?_
        · rintro history current ⟨⟨early, rfl, failed⟩, challenge⟩ -
          refine ⟨replayRule_of_guard (.inr rfl), ⟨early, ?_, failed⟩, challenge rfl⟩
          rw [List.append_assoc]
          rfl
        · split
          · next secure =>
            have resent := @replays_resend _ parse parts
              (⟨{ retry with attempted := true }, rfl, fresh⟩ : retry.Attempted)
            refine Guarantees.mono resent ?_ fun result history holds => ?_
            · rintro history ⟨examined, rfl⟩
              exact examined.mayResend (retries safe fresh) secure
            · cases result with
              | ok next =>
                change Ready parts next.val history
                rw [Ready, next.property.1]
                exact holds
              | error error => exact holds
          · exact replays_fail fun _ holds => holds.1.returned fun _ => rfl
  · exact replays_fail fun _ failing =>
      returned_of_state (EndsFailed.state (FailedWith.ends failing))

end Resends

section Requests

variable {α : Type} {parse : String → Option Url} {parts : RequestParts}

theorem replays_outcome {step : RequestStep Unit} {before : RequestTrace → Prop}
    {returns : RequestTrace → Prop} {fails : Error → RequestTrace → Prop}
    (replays : Replays parse parts before step (fun _ => returns) fails) :
    Replays parse parts before (outcome step)
      (fun result history => outcomes (fun _ => returns) fails result history)
      (Returned parts) :=
  Guarantees.bind replays fun _ => guarantees_pure fun _ holds => holds

theorem replays_receiveReady (retry : CertlessRedirectRetry) :
    Replays parse parts (Ready parts retry) (receiveAndComplete parts.url)
      (fun _ => Settled parts 2 2) (Failing parts retry) := by
  obtain ⟨safe, attempted⟩ := retry
  cases attempted with
  | true => exact replays_receive le_rfl 2
  | false =>
    refine (replays_receive (Nat.zero_le 1) 1).mono (fun _ ready => ready)
      fun result history holds => ?_
    cases result with
    | ok value =>
      have fewSends := Nat.le_succ_of_le holds.sends
      have fewReceives := Nat.le_succ_of_le holds.receives
      exact ⟨holds.state, fewSends, fewReceives⟩
    | error error => exact holds

/-- The loop that receives the response. -/
theorem replays_receiveResponse {retry : CertlessRedirectRetry}
    (retries : Retries parts retry) :
    Replays parse parts (Ready parts retry) (receiveResponse parse parts.url retry)
      (fun _ => Settled parts 2 2) (Returned parts) := by
  fun_induction receiveResponse parse parts.url retry with
  | case1 retry ih =>
    refine AttemptGuarantees.bind (replays_outcome (replays_receiveReady retry)) fun result => ?_
    cases result with
    | ok value => exact replays_pure fun _ holds => holds
    | error error =>
      refine AttemptGuarantees.bind (replays_onError retries) fun next => ih next ?_
      intro _ fresh
      rw [next.property.1] at fresh
      cases fresh

theorem replays_firstSend {retry : CertlessRedirectRetry} (fresh : retry.attempted = false)
    (body : Option Nat) (bodyLength totalLength : Nat) :
    Replays parse parts (Settled parts 0 0)
      (sendAndComplete parts.url body bodyLength totalLength) (fun _ => Ready parts retry)
      (Failing parts retry) := by
  obtain ⟨safe, attempted⟩ := retry
  cases fresh
  refine (replays_send (Nat.zero_le 1) 0 body bodyLength totalLength).mono
    (fun _ settled => ⟨settled, .inl rfl⟩) fun result history holds => ?_
  cases result with
  | ok value => exact holds
  | error error =>
    have fewReceives := Nat.le_succ_of_le holds.receives
    exact ⟨holds.ends, holds.sends, fewReceives, holds.certified⟩

/-- The calls of a step that neither send nor receive. -/
theorem quiet_of_writes (call : RequestCall) (writes : call.writes = true) :
    call.isSend = false ∧ call.isReceive = false := by
  cases call <;> first | exact ⟨rfl, rfl⟩ | cases writes

theorem quiet_of_queries (call : RequestCall) (queries : call.queries = true) :
    call.isSend = false ∧ call.isReceive = false := by
  cases call <;> first | exact ⟨rfl, rfl⟩ | cases queries

/-- The steps that write a body behind the headers. -/
theorem replays_written {retry : CertlessRedirectRetry} {rest : RequestStep α}
    {returns : α → RequestTrace → Prop} {write : RequestStep Unit}
    (writes : write.Makes fun call => call.isSend = false ∧ call.isReceive = false)
    (continues : Replays parse parts (Ready parts retry) rest returns (Returned parts)) :
    Replays parse parts (Ready parts retry) (do write; rest) returns (Returned parts) :=
  AttemptGuarantees.bind (replays_quiet writes _ _) fun _ => continues

/-- A body that is announced by a header. -/
theorem replays_announced {retry : CertlessRedirectRetry} (fresh : retry.attempted = false)
    (line : String) {rest : RequestStep α} {returns : α → RequestTrace → Prop}
    (continues : Replays parse parts (Ready parts retry) rest returns (Returned parts)) :
    Replays parse parts (Settled parts 0 0)
      (do
        addRequestHeader parts.url line
        sendAndComplete parts.url none 0 WINHTTP_IGNORE_REQUEST_TOTAL_LENGTH
        rest)
      returns (Returned parts) := by
  have adds := @replays_quiet parse parts _ (addRequestHeader parts.url line)
    (addRequestHeader_makes (fun _ => ⟨rfl, rfl⟩) line) 0 0
  have sends : Replays parse parts (Settled parts 0 0)
      (sendAndComplete parts.url none 0 WINHTTP_IGNORE_REQUEST_TOTAL_LENGTH)
      (fun _ => Ready parts retry) (Returned parts) :=
    (replays_firstSend fresh _ _ _).mono (fun _ settled => settled) returned_of_failedWith
  exact AttemptGuarantees.bind adds fun _ => AttemptGuarantees.bind sends fun _ => continues

/-- The request is sent with its body on one of three paths. -/
theorem replays_sendBody {retry : CertlessRedirectRetry} (fresh : retry.attempted = false)
    (retries : Retries parts retry) (body : PreparedBody) :
    Replays parse parts (Settled parts 0 0) (sendBody parse parts.url body retry)
      (fun next history => Ready parts next history ∧ Retries parts next)
      (Returned parts) := by
  have ends : Replays parse parts (Ready parts retry) (pure retry)
      (fun next history => Ready parts next history ∧ Retries parts next) (Returned parts) :=
    replays_pure fun _ ready => ⟨ready, retries⟩
  unfold sendBody
  split
  · next items streamed =>
    have writesStream := @writeStream_makes parts.url _ quiet_of_writes
      (fun _ => ⟨rfl, rfl⟩) items
    have writesEnd := @storeAndWrite_makes parts.url _ quiet_of_writes
      (fun _ => ⟨rfl, rfl⟩) (asciiBytes "0\r\n\r\n")
    exact replays_announced fresh _
      (replays_written writesStream (replays_written writesEnd ends))
  · split
    · refine AttemptGuarantees.bind (replays_outcome (replays_firstSend fresh _ _ _))
        fun result => ?_
      cases result with
      | ok value => exact ends
      | error error =>
        refine AttemptGuarantees.bind (replays_onError retries) fun next => ?_
        refine replays_pure fun _ ready => ⟨ready, fun _ unattempted => ?_⟩
        rw [next.property.1] at unattempted
        cases unattempted
    · refine replays_announced fresh _ ?_
      dsimp only
      split
      · exact replays_written (writeLargeBody_makes quiet_of_writes _ _ _) ends
      · exact ends

theorem quiet_of_configures (call : RequestCall) (configures : call.configures = true) :
    call.isSend = false ∧ call.isReceive = false := by
  cases call <;> first | exact ⟨rfl, rfl⟩ | cases configures

theorem retries_new (parts : RequestParts) :
    Retries parts (.new parts.url parts.method parts.body) := by
  intro safe _
  simp only [CertlessRedirectRetry.new, Bool.and_eq_true, Bool.not_eq_true', beq_iff_eq,
    Option.isNone_iff_eq_none] at safe
  exact ⟨safe.1.1, safe.1.2, safe.2⟩

theorem replays_executeRequest :
    Replays parse parts (Settled parts 0 0) (executeRequest parse parts)
      (fun _ => Settled parts 2 2) (Returned parts) := by
  have prepares : Replays parse parts (Settled parts 0 0) (prepareRequest parts)
      (fun _ => Settled parts 0 0) (Returned parts) :=
    replays_quiet (makes_bind ((configureRequest_makes parts).mono quiet_of_configures)
      fun _ => makes_bind (addHeaders_makes (fun _ => ⟨rfl, rfl⟩) _) fun _ => makes_pure _) 0 0
  have queries : Replays parse parts (Settled parts 2 2) (queryResponse parse parts.url)
      (fun _ => Settled parts 2 2) (Returned parts) :=
    replays_quiet (queryResponse_makes quiet_of_queries) 2 2
  refine AttemptGuarantees.bind prepares fun body =>
    AttemptGuarantees.bind (replays_sendBody rfl (retries_new parts) body) fun retry => ?_
  rintro history trace result ⟨ready, retries⟩ traces stays
  have receives := AttemptGuarantees.bind (replays_receiveResponse retries) fun _ => queries
  exact receives history trace result ready traces stays

end Requests

section Aborts

variable {world next : RequestWorld}

/-- Only taking the reason of an abort changes it. -/
theorem callbackAbort_of_answers {call : RequestCall} (other : call ≠ .takeAbortReason)
    {reply : call.Reply} (answers : world.Answers call reply next) :
    next.request.callbackAbort = world.request.callbackAbort := by
  cases call with
  | takeAbortReason => exact absurd rfl other
  | connect _ _ | openRequest _ _ _ | takeSendBody =>
    cases answers
    rfl
  | setContextValue | setProxyDirect | setProxyNamed _ | setProxyCredentials _ _
  | setNoClientCert | setSecurityFlags _ | queryStatusCode | queryRawHeaders
  | sendRequest _ _ _ | writeData _ _ | receiveResponse =>
    unfold RequestWorld.Answers at answers
    rcases RequestWorld.Acts.cases answers with rfl | ⟨-, rfl⟩ <;> rfl
  | addRequestHeaders line =>
    cases reply with
    | error code =>
      obtain rfl : next = world := answers
      rfl
    | ok value =>
      obtain ⟨-, headers, -, rfl⟩ := answers
      rfl
  | storeSendBody _ | listen | poll _ | isAborted | tlsFailureFlags | queryUrl
  | queryProtocolUsed | queryVersion =>
    obtain ⟨-, rfl⟩ := answers
    rfl

/-- An aborted request stays aborted. -/
theorem isAborted_of_answers {call : RequestCall} {reply : call.Reply}
    (answers : world.Answers call reply next) (aborted : world.request.isAborted = true) :
    next.request.isAborted = true := by
  by_cases taken : call = .takeAbortReason
  · subst taken
    obtain ⟨-, rfl⟩ := answers
    unfold RequestState.isAborted at aborted ⊢
    cases abort : world.request.callbackAbort with
    | notAborted =>
      rw [abort] at aborted
      cases aborted
    | aborted reason => rfl
  · rw [RequestState.isAborted, callbackAbort_of_answers taken answers]
    exact aborted

theorem isAborted_of_interfere {step : CallbackStep}
    (happens : world.interfere step = some next) (aborted : world.request.isAborted = true) :
    next.request.isAborted = true := by
  cases AbortReason.interferes_of_some happens with
  | completes event pending effect =>
    rw [effect]
    exact aborted
  | aborts reason shape running abort => rw [RequestState.isAborted, abort]; rfl
  | keeps abort => rw [RequestState.isAborted, abort]; exact aborted

/-- A reason is taken from an aborted request only. -/
theorem isAborted_of_taken {reason : Error}
    (answers : world.Answers .takeAbortReason (some reason : Option Error) next) :
    next.request.isAborted = true := by
  obtain ⟨taken, rfl⟩ := answers
  unfold RequestState.isAborted
  cases abort : world.request.callbackAbort with
  | notAborted =>
    rw [abort] at taken
    cases taken
  | aborted reason => rfl

/-- Around WinHTTP, an aborted request stays aborted. -/
theorem abortsStay_of_exchanges {trace : RequestTrace} {last : RequestWorld}
    (exchanges : Exchanges winHttp world trace last) {history : RequestTrace}
    (aborted : ∀ reason, (⟨.takeAbortReason, some reason⟩ : Exchange requestInterface) ∈
      history → world.request.isAborted = true) :
    Follows AbortsStay history trace := by
  induction exchanges generalizing history with
  | done world => trivial
  | interfere event happens _ ih =>
    exact ih fun reason member => isAborted_of_interfere happens (aborted reason member)
  | @call exchange trace world middle last answers _ ih =>
    refine ⟨?_, ih fun reason member => ?_⟩
    · rintro rfl reason member
      have running : false = world.request.isAborted := answers.1
      rw [aborted reason member] at running
      cases running
    · rcases List.mem_append.mp member with earlier | now
      · exact isAborted_of_answers answers (aborted reason earlier)
      · obtain rfl := List.mem_singleton.mp now
        exact isAborted_of_taken answers

end Aborts

/-- How the history of a failure ends. -/
def EndsWith (parse : String → Option Url) (parts : RequestParts) (error : Error)
    (history trace : RequestTrace) : Prop :=
  (transferState parts.url (history ++ trace) = .failed error ∧
      ∀ exchange ∈ trace, exchange.call = RequestCall.isAborted ∨
        exchange.call = RequestCall.queryUrl) ∨
    error = certificateChallenge parts.url ∧
      ∃ (more : RequestTrace) (reply : Outcome) (rest : RequestTrace),
        trace = more ++ ⟨.setNoClientCert, reply⟩ :: rest ∧
          MayResend parse parts (history ++ more)

theorem EndsWith.cons {parse : String → Option Url} {parts : RequestParts} {error : Error}
    {history trace : RequestTrace} {exchange : Exchange requestInterface}
    (guard : exchange.call = RequestCall.isAborted ∨ exchange.call = RequestCall.queryUrl)
    (ends : EndsWith parse parts error (history ++ [exchange]) trace) :
    EndsWith parse parts error history (exchange :: trace) := by
  rcases ends with ⟨failed, guards⟩ | ⟨challenge, more, reply, rest, rfl, mayResend⟩
  · rw [List.append_assoc] at failed
    exact .inl ⟨failed, List.forall_mem_cons.mpr ⟨guard, guards⟩⟩
  · rw [List.append_assoc] at mayResend
    exact .inr ⟨challenge, exchange :: more, reply, rest, rfl, mayResend⟩

/-- Behind a failure of an operation, the request ends with it or may be sent again. -/
theorem failed_follows {parse : String → Option Url} {parts : RequestParts} {error : Error}
    {history trace : RequestTrace} (follows : Follows (ReplayRule parse parts) history trace)
    (failed : transferState parts.url history = .failed error) :
    EndsWith parse parts error history trace := by
  induction trace generalizing history with
  | nil =>
    refine .inl ⟨?_, fun _ member => absurd member List.not_mem_nil⟩
    rwa [List.append_nil]
  | cons exchange trace ih =>
    have examines : exchange.call = .isAborted ∨ exchange.call = .queryUrl →
        transferState parts.url (history ++ [exchange]) = .failed error := by
      obtain ⟨call, reply⟩ := exchange
      intro guard
      rw [transferState_append, failed]
      rcases guard with rfl | rfl <;> rfl
    rcases follows.1.failed error failed with isAborted | queryUrl | ⟨uncertified, mayResend⟩
    · exact (ih follows.2 (examines (.inl isAborted))).cons (.inl isAborted)
    · exact (ih follows.2 (examines (.inr queryUrl))).cons (.inr queryUrl)
    · obtain ⟨early, text, rfl, ends, -⟩ := mayResend.challenged
      have challenge : transferState parts.url (early ++ [⟨.isAborted, false⟩,
          ⟨.queryUrl, some text⟩]) = .failed (certificateChallenge parts.url) := by
        rw [transferState_append, ends.state]
        rfl
      rw [challenge] at failed
      obtain ⟨call, reply⟩ := exchange
      obtain rfl : call = .setNoClientCert := uncertified
      refine .inr ⟨(TransferState.failed.inj failed).symm, [], reply, trace, rfl, ?_⟩
      rwa [List.append_nil]

/-- How often, and after what, the exchanges of a request send it, and what becomes of the
failure of a send or a receive. -/
structure ReplaysOnce (parse : String → Option Url) (parts : RequestParts)
    (trace : RequestTrace) (result : Except Error RawResponse) : Prop where
  sends : sendCount trace ≤ 2
  receives : receiveCount trace ≤ 2
  resends : ∀ before exchange after, trace = before ++ exchange :: after →
    RequestCall.isSend exchange.call = true → 0 < sendCount before →
      ∃ (early : RequestTrace) (listener : Nat),
        before = early ++ [⟨.setNoClientCert, (.ok () : Outcome)⟩, ⟨.listen, listener⟩] ∧
          MayResend parse parts early
  unchanged : ∀ before after error, trace = before ++ after →
    EndsFailed parts.url error before →
      (result = .error error ∧ ∀ exchange ∈ after,
          exchange.call = RequestCall.isAborted ∨ exchange.call = RequestCall.queryUrl) ∨
        error = certificateChallenge parts.url ∧
          ∃ (more : RequestTrace) (reply : Outcome) (rest : RequestTrace),
            after = more ++ ⟨.setNoClientCert, reply⟩ :: rest ∧
              MayResend parse parts (before ++ more)

/-- In every run, a request is sent at most twice, and the second time without a client
certificate. -/
theorem executeRequest_replaysOnce {parse : String → Option Url} {parts : RequestParts}
    {session : ProxyAction} {trace : RequestTrace} {result : Except Error RawResponse}
    {last : RequestWorld} (traces : AttemptTraces (executeRequest parse parts) trace result)
    (exchanges : Exchanges winHttp (.initial parts session) trace last) :
    ReplaysOnce parse parts trace result := by
  have starts : Settled parts 0 0 [] := ⟨rfl, le_rfl, le_rfl⟩
  have stays : Follows AbortsStay [] trace :=
    abortsStay_of_exchanges exchanges fun _ member => absurd member List.not_mem_nil
  obtain ⟨follows, ends⟩ := replays_executeRequest [] trace result starts traces stays
  rw [List.nil_append] at ends
  constructor
  · have bounded := follows.mono fun _ _ rule => rule.sends
    have few := bounded.countP_le (Nat.zero_le 2)
    exact few
  · have bounded := follows.mono fun _ _ rule => rule.receives
    have few := bounded.countP_le (Nat.zero_le 2)
    exact few
  · intro before exchange after split isSend earlier
    rcases (follows.holds split).resends isSend with none | resends
    · rw [List.nil_append] at none
      omega
    · exact resends
  · rintro before after error rfl failed
    have behind := (follows_append.mp follows).2
    rcases failed_follows behind failed.state with ⟨state, guards⟩ | resent
    · refine .inl ⟨?_, guards⟩
      rw [List.nil_append] at state
      cases result with
      | ok response =>
        rw [Settled.state ends] at state
        cases state
      | error found => rw [ends error state]
    · exact .inr resent

section Run

def challengedHead : RequestTrace :=
  [⟨.connect "a" 80, (.ok () : Outcome)⟩, ⟨.openRequest "GET" "/" false, (.ok () : Outcome)⟩,
    ⟨.setContextValue, (.ok () : Outcome)⟩]

def sentWithout (listener : Nat) : RequestTrace :=
  [⟨.listen, listener⟩, ⟨.sendRequest none 0 0, (.ok () : Outcome)⟩,
    ⟨.poll listener, (.ok .complete : Except SignalCancelled CallbackEvent)⟩]

def challengedReceive : RequestTrace :=
  [⟨.listen, (1 : Nat)⟩, ⟨.receiveResponse, (.ok () : Outcome)⟩,
    ⟨.poll 1, (.ok (.win32Error ERROR_WINHTTP_CLIENT_AUTH_CERT_NEEDED) :
      Except SignalCancelled CallbackEvent)⟩,
    ⟨.takeAbortReason, (none : Option Error)⟩]

def examinedChallenge : RequestTrace :=
  [⟨.isAborted, false⟩, ⟨.queryUrl, some "https://a/"⟩, ⟨.setNoClientCert, (.ok () : Outcome)⟩]

def challengedTrace : RequestTrace :=
  challengedHead ++ (sentWithout 0 ++ (challengedReceive ++
    (examinedChallenge ++ (sentWithout 2 ++ refusedReceive 3 12152))))

theorem challengedTrace_exchanges : ∃ last,
    Exchanges winHttp (.initial (bareParts .none false) .automatic) challengedTrace last := by
  let challenge := CallbackEvent.win32Error ERROR_WINHTTP_CLIENT_AUTH_CERT_NEEDED
  let prepared := RequestWorld.initial (bareParts .none false) .automatic
  let sent := prepared.listened.sending.completed .complete
  let received := { sent.listened with operation := .transferring }
  let challenged := { received.completed challenge with operation := .idle }
  let resent := challenged.listened.sending.completed .complete
  have prepares : Exchanges winHttp prepared challengedHead prepared :=
    .call rfl (.call rfl (.call ⟨rfl, rfl⟩ (.done _)))
  have sends : Exchanges winHttp prepared (sentWithout 0) sent :=
    .call ⟨rfl, rfl⟩ (.call ⟨rfl, rfl⟩
      (.interfere (.completes .complete) rfl (.call ⟨rfl, rfl⟩ (.done _))))
  have receives : Exchanges winHttp sent challengedReceive challenged :=
    .call ⟨rfl, rfl⟩ (.call ⟨rfl, rfl⟩
      (.interfere (.completes challenge) rfl (.call ⟨rfl, rfl⟩ (.call ⟨rfl, rfl⟩ (.done _)))))
  have examines : Exchanges winHttp challenged examinedChallenge challenged :=
    .call ⟨rfl, rfl⟩ (.call ⟨nofun, rfl⟩ (.call ⟨rfl, rfl⟩ (.done _)))
  have resends : Exchanges winHttp challenged (sentWithout 2) resent :=
    .call ⟨rfl, rfl⟩ (.call ⟨rfl, rfl⟩
      (.interfere (.completes .complete) rfl (.call ⟨rfl, rfl⟩ (.done _))))
  have refuses : Exchanges winHttp resent (refusedReceive 3 12152) resent.listened :=
    .call ⟨rfl, rfl⟩ (.call rfl (.done _))
  exact ⟨_, prepares.append (sends.append (receives.append
    (examines.append (resends.append refuses))))⟩

def redirectedUrl (text : String) : Option Url :=
  if text = "https://a/" then some (bareUrl true) else none

theorem challengedHead_traces :
    AttemptTraces (prepareRequest (bareParts .none false)) challengedHead (.ok .absent) :=
  .call _ (.call _ (.call _ (.done _)))

theorem sentWithout_traces (listener : Nat) :
    AttemptTraces (sendAndComplete (bareUrl false) none 0 0) (sentWithout listener) (.ok ()) :=
  (await_trace (bareUrl false) (.sendRequest none 0 0) id rfl listener .complete).bind (.done _)

theorem sentBody_traces (retry : CertlessRedirectRetry) :
    AttemptTraces (sendBody redirectedUrl (bareUrl false) .absent retry) (sentWithout 0)
      (.ok retry) := by
  have examined : AttemptTraces (outcome (sendAndComplete (bareUrl false) none 0 0))
      (sentWithout 0) (.ok (.ok ())) := Traces.bind (sentWithout_traces 0) (.done _)
  have small : PreparedBody.absent.length ≤ largeBodyThreshold := Nat.zero_le _
  unfold sendBody
  split
  · next items streamed => cases streamed
  rw [if_pos small]
  exact examined.bind (.done _)

theorem challengedReceive_traces :
    AttemptTraces (outcome (receiveAndComplete (bareUrl false))) challengedReceive
      (.ok (.error (certificateChallenge (bareUrl false)))) := by
  have waits := await_trace (bareUrl false) .receiveResponse id rfl 1
    (.win32Error ERROR_WINHTTP_CLIENT_AUTH_CERT_NEEDED)
  have fails : AttemptTraces (receiveAndComplete (bareUrl false)) challengedReceive
      (.error (certificateChallenge (bareUrl false))) :=
    waits.bind (.call _ (.done _))
  exact Traces.bind fails (.done _)

theorem resent_traces {retry : CertlessRedirectRetry} (safe : retry.replaySafe = true)
    (fresh : retry.attempted = false) :
    AttemptTraces
      (retry.onError redirectedUrl (certificateChallenge (bareUrl false)) (bareUrl false))
      (examinedChallenge ++ sentWithout 2)
      (.ok ⟨{ retry with attempted := true }, rfl, fresh⟩) := by
  have needed : CertlessRedirectRetry.isClientCertNeeded
      (certificateChallenge (bareUrl false)) = true := by decide
  have secure : ((some "https://a/").bind redirectedUrl).any Url.isHttps = true := by decide
  unfold CertlessRedirectRetry.onError
  rw [dif_pos ⟨safe, fresh, needed⟩]
  refine traces_ask.mpr ⟨false, _, rfl, traces_ask.mpr ⟨some "https://a/", _, rfl, ?_⟩⟩
  rw [if_pos secure]
  refine traces_ask.mpr ⟨.ok (), _, rfl, ?_⟩
  exact (sentWithout_traces 2).bind (.done _)

/-- The first receive is challenged, and the second one fails. -/
theorem challengedTrace_traces :
    AttemptTraces (executeRequest redirectedUrl (bareParts .none false)) challengedTrace
      (.error ((Error.fromWin32 12152).withUrl (bareUrl false))) := by
  let retry := CertlessRedirectRetry.new (bareUrl false) "GET" none
  have attempted : AttemptTraces
      (receiveResponse redirectedUrl (bareUrl false) { retry with attempted := true })
      (refusedReceive 3 12152) (.error ((Error.fromWin32 12152).withUrl (bareUrl false))) := by
    have ends : AttemptTraces (CertlessRedirectRetry.onError redirectedUrl
        { retry with attempted := true } ((Error.fromWin32 12152).withUrl (bareUrl false))
        (bareUrl false)) [] (.error ((Error.fromWin32 12152).withUrl (bareUrl false))) := by
      unfold CertlessRedirectRetry.onError
      rw [dif_neg (by decide)]
      exact .done _
    unfold receiveResponse
    exact (refusedReceive_traces (bareUrl false) 3 12152).bind ends.bind_error
  have receives : AttemptTraces (receiveResponse redirectedUrl (bareUrl false) retry)
      (challengedReceive ++ (examinedChallenge ++ (sentWithout 2 ++ refusedReceive 3 12152)))
      (.error ((Error.fromWin32 12152).withUrl (bareUrl false))) := by
    unfold receiveResponse
    refine challengedReceive_traces.bind ?_
    rw [← List.append_assoc]
    exact (resent_traces rfl rfl).bind attempted
  exact challengedHead_traces.bind ((sentBody_traces retry).bind receives.bind_error)

theorem executeRequest_replaysOnce_challenged :
    ∃ last,
      Exchanges winHttp (.initial (bareParts .none false) .automatic) challengedTrace last ∧
        sendCount challengedTrace = 2 ∧
        ReplaysOnce redirectedUrl (bareParts .none false) challengedTrace
          (.error ((Error.fromWin32 12152).withUrl (bareUrl false))) := by
  obtain ⟨last, exchanges⟩ := challengedTrace_exchanges
  exact ⟨last, exchanges, rfl,
    executeRequest_replaysOnce challengedTrace_traces exchanges⟩

end Run
end CertificateReplay

end Wrest
