import Wrest.RequestExecution

/-!
# The calls that each phase of a request makes

Only the configuration of the request handle sets proxy options, and it neither
adds headers nor starts an operation.  The later phases make the calls of the
transfer; a resend after a certificate challenge is the only other call of the
loop that receives the response.
-/

namespace Wrest

open Interaction RequestStep

namespace RequestCall

def isSend : RequestCall → Bool
  | .sendRequest _ _ _ => true
  | _ => false

def isReceive : RequestCall → Bool
  | .receiveResponse => true
  | _ => false

def configures : RequestCall → Bool
  | .connect _ _ | .openRequest _ _ _ | .setContextValue | .setProxyDirect
  | .setProxyNamed _ | .setProxyCredentials _ _ | .setNoClientCert
  | .setSecurityFlags _ | .storeSendBody _ => true
  | _ => false

def setsProxy : RequestCall → Bool
  | .setProxyDirect | .setProxyNamed _ | .setProxyCredentials _ _ => true
  | _ => false

def setsCertificates : RequestCall → Bool
  | .setNoClientCert | .setSecurityFlags _ => true
  | _ => false

/-- The calls of the phases after the configuration, the sends apart. -/
def transfers : RequestCall → Bool
  | .addRequestHeaders _ | .storeSendBody _ | .takeSendBody | .listen
  | .writeData _ _ | .receiveResponse | .poll _ | .takeAbortReason | .isAborted
  | .tlsFailureFlags | .queryUrl | .queryStatusCode | .queryProtocolUsed
  | .queryVersion | .queryRawHeaders => true
  | _ => false

/-- The calls behind the start of an operation, until its outcome is known. -/
def completes : RequestCall → Bool
  | .poll _ | .takeAbortReason | .tlsFailureFlags => true
  | _ => false

/-- The calls that query the head of the response. -/
def queries : RequestCall → Bool
  | .takeSendBody | .queryUrl | .queryStatusCode | .queryProtocolUsed | .queryVersion
  | .queryRawHeaders => true
  | _ => false

/-- The calls behind the body, a resend apart. -/
def receives : RequestCall → Bool
  | .takeSendBody | .listen | .receiveResponse | .poll _ | .takeAbortReason
  | .tlsFailureFlags | .queryUrl | .queryStatusCode | .queryProtocolUsed
  | .queryVersion | .queryRawHeaders => true
  | _ => false

/-- The calls that write a buffer. -/
def writes : RequestCall → Bool
  | .listen | .writeData _ _ | .poll _ => true
  | _ => false

/-- The calls that send, and the option that a resend sets before. -/
def sends : RequestCall → Bool
  | .sendRequest _ _ _ | .setNoClientCert => true
  | _ => false

end RequestCall

def RequestStep.Makes {α : Type} (allowed : RequestCall → Prop)
    (step : RequestStep α) : Prop :=
  Program.Makes (I := requestInterface) (α := Except Error α) allowed step

/-- Every value that the step can return satisfies the condition. -/
def RequestStep.Yields {α : Type} (condition : α → Prop) (step : RequestStep α) : Prop :=
  Program.Returns (I := requestInterface) (α := Except Error α)
    (fun result => ∀ value, result = .ok value → condition value) step

namespace RequestStep

variable {α β : Type} {allowed : RequestCall → Prop} {url : Url}

theorem yields_pure {condition : α → Prop} {value : α} (holds : condition value) :
    Yields condition (pure value) := by
  rintro _ ⟨rfl⟩
  exact holds

theorem yields_any (step : RequestStep α) : Yields (fun _ => True) step :=
  Program.returns_of_forall (fun _ _ _ => trivial) step

theorem yields_bind {first : α → Prop} {condition : β → Prop} {step : RequestStep α}
    {rest : α → RequestStep β} (yields : Yields first step)
    (second : ∀ value, first value → (rest value).Yields condition) :
    Yields condition (step >>= rest) := by
  apply Program.Returns.bind yields
  intro result holds
  cases result with
  | ok value => exact second value (holds value rfl)
  | error error => exact fun _ impossible => by cases impossible

/-- A value that an earlier step returned is passed on. -/
theorem yields_after {condition : β → Prop} {step : RequestStep α}
    {rest : α → RequestStep β} (second : ∀ value, (rest value).Yields condition) :
    Yields condition (step >>= rest) :=
  yields_bind (yields_any step) fun value _ => second value

theorem makes_bind {step : RequestStep α} {rest : α → RequestStep β}
    (first : step.Makes allowed) (second : ∀ value, (rest value).Makes allowed) :
    Makes allowed (step >>= rest) :=
  Program.Makes.attempt_bind first second

theorem Makes.mono {more : RequestCall → Prop} {step : RequestStep α}
    (makes : step.Makes allowed) (implies : ∀ call, allowed call → more call) :
    step.Makes more :=
  Program.Makes.mono makes implies

theorem makes_pure (result : Except Error α) :
    Makes allowed (Program.pure result : RequestStep α) :=
  trivial

theorem makes_ask {call : RequestCall} (holds : allowed call) :
    Makes allowed (ask call) :=
  ⟨holds, fun _ => trivial⟩

theorem makes_call {call : RequestCall} {rest : call.Reply → RequestStep β}
    (holds : allowed call) (second : ∀ reply, (rest reply).Makes allowed) :
    Makes allowed (ask call >>= rest) :=
  makes_bind (makes_ask holds) second

theorem makes_checked {reply : Except Nat α} {rest : α → RequestStep β}
    (second : ∀ value, (rest value).Makes allowed) :
    Makes allowed (checkWin32 url reply >>= rest) :=
  makes_bind trivial second

theorem makes_outcome {step : RequestStep α} (makes : step.Makes allowed) :
    Makes allowed (outcome step) :=
  Program.Makes.bind makes fun _ => trivial

theorem makes_withContext {step : RequestStep α} (makes : step.Makes allowed) :
    Makes allowed (withContext url step) :=
  Program.Makes.bind makes fun _ => trivial

theorem Makes.triple {World : Type} {environment : Environment requestInterface World}
    {invariant : World → Prop} {step : RequestStep α} (makes : step.Makes allowed)
    (stable : environment.Stable invariant)
    (replies : ∀ current request reply later, allowed request →
      invariant current → environment.respond current request reply later →
        invariant later) :
    Triple environment invariant step (fun _ => invariant) (fun _ => invariant) :=
  Triple.of_makes makes stable replies

/-- A triple about unobserved calls holds with any history. -/
theorem Makes.recording {World Entry : Type}
    {environment : Environment requestInterface World}
    {observe : World → RequestCall → Option Entry} {before : World → Prop}
    {returns : α → World → Prop} {fails : Error → World → Prop} {step : RequestStep α}
    (makes : step.Makes fun call => ∀ world, observe world call = none)
    (triple : Triple environment before step returns fails) (history : List Entry) :
    Triple (environment.recording observe)
      (fun world => before world.1 ∧ world.2 = history) step
      (fun value world => returns value world.1 ∧ world.2 = history)
      (fun failure world => fails failure world.1 ∧ world.2 = history) :=
  triple.recording makes history

theorem Makes.runs_recording {World Entry : Type}
    {environment : Environment requestInterface World}
    {observe : World → RequestCall → Option Entry} {step : RequestStep α}
    (makes : step.Makes fun call => ∀ world, observe world call = none)
    {world last : World} {result : Except Error α}
    (runs : Runs environment step world result last) (history : List Entry) :
    Runs (environment.recording observe) step (world, history) result (last, history) :=
  runs.recording_of_makes makes history

/-- A triple also returns what the step always returns. -/
theorem Yields.triple {World : Type} {environment : Environment requestInterface World}
    {condition : α → Prop} {before : World → Prop} {returns : α → World → Prop}
    {fails : Error → World → Prop} {step : RequestStep α} (yields : step.Yields condition)
    (triple : Triple environment before step returns fails) :
    Triple environment before step
      (fun value world => returns value world ∧ condition value) fails := by
  intro world holds result last runs
  have ends := triple world holds result last runs
  cases result with
  | ok value => exact ⟨ends, runs.returns yields value rfl⟩
  | error failure => exact ends

-- from here on the rules above are used, and no program is evaluated
attribute [irreducible] RequestStep.Makes

end RequestStep

/-- The calls that leave the proxy options alone. -/
def RequestCall.KeepsProxy (call : RequestCall) : Prop :=
  call.setsProxy = false

theorem RequestCall.keepsProxy_of_transfers (call : RequestCall)
    (transfers : call.transfers = true) : call.KeepsProxy := by
  cases call <;> first | rfl | cases transfers

theorem RequestCall.keepsProxy_of_sends (call : RequestCall)
    (sends : call.sends = true) : call.KeepsProxy := by
  cases call <;> first | rfl | cases sends

/-- The calls that configure the handle otherwise. -/
def RequestCall.ConfiguresOther (call : RequestCall) : Prop :=
  call.configures = true ∧ call.setsProxy = false

theorem storeBody_makes (body : Option Body) :
    RequestStep.Makes RequestCall.ConfiguresOther (storeBody body) := by
  rcases body with _ | ⟨content | items⟩
  · exact makes_pure _
  · apply makes_call ⟨rfl, rfl⟩
    intro pointer
    split <;> exact makes_pure _
  · exact makes_pure _

theorem openHandle_makes (parts : RequestParts) :
    RequestStep.Makes RequestCall.ConfiguresOther (openHandle parts) :=
  makes_bind (storeBody_makes _) fun _ =>
    makes_call ⟨rfl, rfl⟩ fun _ => makes_checked fun _ =>
      makes_call ⟨rfl, rfl⟩ fun _ => makes_checked fun _ =>
        makes_call ⟨rfl, rfl⟩ fun _ => makes_checked fun _ => makes_pure _

theorem RequestCall.configuresOther_of_setsCertificates (call : RequestCall)
    (sets : call.setsCertificates = true) : call.ConfiguresOther := by
  cases call <;> first | exact ⟨rfl, rfl⟩ | cases sets

theorem RequestCall.configures_of_setsProxy (call : RequestCall)
    (sets : call.setsProxy = true) : call.configures = true := by
  cases call <;> first | rfl | cases sets

section Options

variable {allowed : RequestCall → Prop}

theorem setCertificateOptions_makes
    (certificates : ∀ call, RequestCall.setsCertificates call = true → allowed call)
    (parts : RequestParts) : RequestStep.Makes allowed (setCertificateOptions parts) := by
  have ignoring : RequestStep.Makes allowed
      (if parts.acceptInvalidCerts then do
        checkWin32 parts.url (← ask (.setSecurityFlags ignoredCertificateFlags))
      else pure ()) := by
    split
    · exact makes_call (certificates _ rfl) fun _ => makes_pure _
    · exact makes_pure _
  unfold setCertificateOptions
  dsimp only
  split
  · exact makes_call (certificates _ rfl) fun _ => makes_checked fun _ => ignoring
  · exact ignoring

theorem setProxy_makes
    (proxies : ∀ call, RequestCall.setsProxy call = true → allowed call) (url : Url)
    (action : ProxyAction) : RequestStep.Makes allowed (setProxy url action) := by
  cases action with
  | direct => exact makes_call (proxies _ rfl) fun _ => makes_pure _
  | named proxyUrl creds =>
    refine makes_call (proxies _ rfl) fun _ => makes_checked fun _ => ?_
    cases creds with
    | none => exact makes_pure _
    | some credentials => exact makes_call (proxies _ rfl) fun _ => makes_pure _
  | automatic => exact makes_pure _

end Options

theorem configureRequest_makes (parts : RequestParts) :
    RequestStep.Makes (fun call => call.configures = true)
      (configureRequest parts) :=
  makes_bind ((openHandle_makes _).mono fun _ => And.left) fun _ =>
    makes_bind (setProxy_makes RequestCall.configures_of_setsProxy _ _) fun _ =>
      makes_bind (setCertificateOptions_makes (fun call sets =>
        (RequestCall.configuresOther_of_setsCertificates call sets).1) _) fun _ =>
          makes_pure _

section Headers

variable {url : Url} {allowed : RequestCall → Prop}
variable (adds : ∀ line, allowed (.addRequestHeaders line))

include adds

theorem addRequestHeader_makes (line : String) :
    RequestStep.Makes allowed (addRequestHeader url line) := by
  unfold addRequestHeader
  split
  · exact makes_call (adds _) fun _ => makes_pure _
  · exact makes_pure _

theorem addHeaders_makes (headers : List (String × String)) :
    RequestStep.Makes allowed (addHeaders url headers) := by
  induction headers with
  | nil => exact makes_pure _
  | cons header headers ih =>
    exact makes_bind (addRequestHeader_makes adds _) fun _ => ih

end Headers

theorem intoResult_makes {url : Url} {allowed : RequestCall → Prop}
    (completes : ∀ call, RequestCall.completes call = true → allowed call)
    (event : CallbackEvent) :
    RequestStep.Makes allowed (event.intoResult url) := by
  cases event with
  | complete | readComplete _ | writeComplete _ => exact makes_pure _
  | win32Error code =>
    refine makes_bind (makes_call (completes _ rfl) fun reply => ?_) fun _ => makes_pure _
    cases reply with
    | some reason => exact makes_pure _
    | none =>
      dsimp only
      split
      · exact makes_call (completes _ rfl) fun _ => makes_pure _
      · exact makes_pure _

theorem RequestCall.receives_of_completes (call : RequestCall)
    (completes : call.completes = true) : call.receives = true := by
  cases call <;> first | rfl | cases completes

theorem RequestCall.receives_of_queries (call : RequestCall)
    (queries : call.queries = true) : call.receives = true := by
  cases call <;> first | rfl | cases queries

theorem RequestCall.transfers_of_receives (call : RequestCall)
    (receives : call.receives = true) : call.transfers = true := by
  cases call <;> first | rfl | cases receives

theorem RequestCall.transfers_of_writes (call : RequestCall)
    (writes : call.writes = true) : call.transfers = true := by
  cases call <;> first | rfl | cases writes

section Waiting

variable {url : Url} {allowed : RequestCall → Prop}

/-- Where the calls of a kind are allowed, so are those of a narrower kind. -/
theorem allowed_of_narrower {narrow wide : RequestCall → Bool}
    (narrower : ∀ call, narrow call = true → wide call = true)
    (allows : ∀ call, wide call = true → allowed call) (call : RequestCall)
    (isNarrow : narrow call = true) : allowed call :=
  allows call (narrower call isNarrow)

theorem awaitWin32_makes {start : RequestStep Unit} (listens : allowed .listen)
    (polls : ∀ listener, allowed (.poll listener)) (starts : start.Makes allowed) :
    RequestStep.Makes allowed (awaitWin32 start) := by
  refine makes_call listens fun listener => makes_bind starts fun _ => ?_
  refine makes_call (polls listener) fun reply => ?_
  cases reply <;> exact makes_pure _

theorem writeDataWith_makes {write : Nat → Nat → RequestStep Nat}
    (writes : ∀ position remaining, (write position remaining).Makes allowed)
    (pointer length offset : Nat) :
    RequestStep.Makes allowed (writeDataWith write pointer length url offset) := by
  fun_induction writeDataWith write pointer length url offset with
  | case1 offset before none => exact makes_pure _
  | case2 offset before remaining some none => exact makes_pure _
  | case3 offset before remaining some position found fits ih =>
    apply makes_bind (makes_withContext (writes _ _))
    intro written
    split
    · next next advanced => exact ih written next advanced
    · exact makes_pure _
  | case4 => exact makes_pure _
  | case5 => exact makes_pure _

variable (writes : ∀ call, RequestCall.writes call = true → allowed call)

include writes

theorem writeOnce_makes (pointer length : Nat) :
    RequestStep.Makes allowed (writeOnce url pointer length) :=
  makes_bind
    (awaitWin32_makes (writes _ rfl) (fun _ => writes _ rfl)
      (makes_call (writes _ rfl) fun _ => makes_pure _))
    fun _ => makes_pure _

theorem writeData_makes (pointer length : Nat) :
    RequestStep.Makes allowed (writeData url pointer length) :=
  writeDataWith_makes (writeOnce_makes writes) pointer length 0

theorem writeLargeBody_makes (pointer length offset : Nat) :
    RequestStep.Makes allowed (writeLargeBody url pointer length offset) := by
  fun_induction writeLargeBody url pointer length offset with
  | case1 offset before chunkSize ih =>
    exact makes_bind (writeData_makes writes _ _) fun _ => ih
  | case2 => exact makes_pure _

variable (stores : ∀ bytes, allowed (.storeSendBody bytes))

include stores

theorem storeAndWrite_makes (bytes : List UInt8) :
    RequestStep.Makes allowed (storeAndWrite url bytes) :=
  makes_call (stores _) fun _ => writeData_makes writes _ _

theorem writeStream_makes (items : List (Except ErrorSource (List UInt8))) :
    RequestStep.Makes allowed (writeStream url items) := by
  induction items with
  | nil => exact makes_pure _
  | cons item items ih =>
    cases item with
    | error source => exact makes_pure _
    | ok chunk =>
      unfold writeStream
      split
      · exact ih
      · exact makes_bind (storeAndWrite_makes writes stores _) fun _ => ih

end Waiting

section Receive

variable {url : Url} {parse : String → Option Url} {allowed : RequestCall → Prop}

/-- A request that is not safe to replay is not sent again. -/
theorem onError_of_notReplaySafe {retry : CertlessRedirectRetry}
    (notSafe : retry.replaySafe = false) (error : Error) :
    retry.onError parse error url = fail error := by
  apply dif_neg
  intro resend
  rw [notSafe] at resend
  cases resend.1

theorem queryResponse_makes
    (queries : ∀ call, RequestCall.queries call = true → allowed call) :
    RequestStep.Makes allowed (queryResponse parse url) :=
  makes_call (queries _ rfl) fun _ => makes_call (queries _ rfl) fun _ =>
    makes_checked fun _ => makes_bind (makes_pure _) fun _ =>
      makes_call (queries _ rfl) fun _ => makes_call (queries _ rfl) fun _ =>
        makes_call (queries _ rfl) fun _ => makes_checked fun _ =>
          makes_call (queries _ rfl) fun _ => makes_pure _

variable (receives : ∀ call, RequestCall.receives call = true → allowed call)

include receives

theorem receiveAndComplete_makes :
    RequestStep.Makes allowed (receiveAndComplete url) :=
  makes_bind
    (awaitWin32_makes (receives _ rfl) (fun _ => receives _ rfl)
      (makes_call (receives _ rfl) fun _ => makes_pure _))
    (intoResult_makes fun call completes =>
      receives call (call.receives_of_completes completes))

theorem receiveResponse_makes_of_notReplaySafe {retry : CertlessRedirectRetry}
    (notSafe : retry.replaySafe = false) :
    RequestStep.Makes allowed (receiveResponse parse url retry) := by
  unfold receiveResponse
  apply makes_bind (makes_outcome (receiveAndComplete_makes receives))
  intro result
  cases result with
  | ok value => exact makes_pure _
  | error error =>
    simp only [onError_of_notReplaySafe notSafe]
    exact makes_pure (.error error)

end Receive

section Transfer

variable {url : Url} {allowed : RequestCall → Prop}
variable (transfers : ∀ call, RequestCall.transfers call = true → allowed call)

include transfers

variable {parse : String → Option Url}

omit transfers in
theorem sendBody_yields_of_notReplaySafe {retry : CertlessRedirectRetry}
    (notSafe : retry.replaySafe = false) (body : PreparedBody) :
    RequestStep.Yields (fun next => next.replaySafe = false)
      (sendBody parse url body retry) := by
  unfold sendBody
  split
  · exact yields_after fun _ => yields_after fun _ => yields_after fun _ =>
      yields_after fun _ => yields_pure notSafe
  · split
    · apply yields_after
      intro result
      cases result with
      | ok value => exact yields_pure notSafe
      | error error =>
        simp only [onError_of_notReplaySafe notSafe]
        exact fun _ impossible => by cases impossible
    · apply yields_after
      intro _
      apply yields_after
      intro _
      dsimp only
      split
      · exact yields_after fun _ => yields_pure notSafe
      · exact yields_pure notSafe

section Sends

variable (sends : ∀ call, RequestCall.sends call = true → allowed call)

include sends

theorem sendAndComplete_makes (body : Option Nat) (bodyLength totalLength : Nat) :
    RequestStep.Makes allowed (sendAndComplete url body bodyLength totalLength) :=
  makes_bind
    (awaitWin32_makes (transfers _ rfl) (fun _ => transfers _ rfl)
      (makes_call (sends _ rfl) fun _ => makes_pure _))
    (intoResult_makes (allowed_of_narrower RequestCall.receives_of_completes
      (allowed_of_narrower RequestCall.transfers_of_receives transfers)))

theorem onError_makes (retry : CertlessRedirectRetry) (error : Error) :
    RequestStep.Makes allowed (retry.onError parse error url) := by
  unfold CertlessRedirectRetry.onError
  split
  · refine makes_call (transfers _ rfl) fun (aborted : Bool) => ?_
    cases aborted with
    | true => exact makes_pure _
    | false =>
      refine makes_call (transfers _ rfl) fun current => ?_
      split
      · exact makes_call (sends _ rfl) fun _ => makes_checked fun _ =>
          makes_bind (sendAndComplete_makes transfers sends _ _ _) fun _ => makes_pure _
      · exact makes_pure _
  · exact makes_pure _

theorem sendBody_makes (body : PreparedBody) (retry : CertlessRedirectRetry) :
    RequestStep.Makes allowed (sendBody parse url body retry) := by
  have stores := fun bytes => transfers (.storeSendBody bytes) rfl
  have writes := allowed_of_narrower RequestCall.transfers_of_writes transfers
  unfold sendBody
  split
  · exact makes_bind (addRequestHeader_makes (fun _ => transfers _ rfl) _) fun _ =>
      makes_bind (sendAndComplete_makes transfers sends _ _ _) fun _ =>
        makes_bind (writeStream_makes writes stores _) fun _ =>
          makes_bind (storeAndWrite_makes writes stores _) fun _ => makes_pure _
  · split
    · apply makes_bind (makes_outcome (sendAndComplete_makes transfers sends _ _ _))
      intro result
      cases result with
      | ok value => exact makes_pure _
      | error error =>
        exact makes_bind (onError_makes transfers sends _ _) fun _ => makes_pure _
    · refine makes_bind (addRequestHeader_makes (fun _ => transfers _ rfl) _) fun _ =>
        makes_bind (sendAndComplete_makes transfers sends _ _ _) fun _ => ?_
      dsimp only
      split
      · exact makes_bind (writeLargeBody_makes writes _ _ _) fun _ => makes_pure _
      · exact makes_pure _

theorem receiveResponse_makes (retry : CertlessRedirectRetry) :
    RequestStep.Makes allowed (receiveResponse parse url retry) := by
  fun_induction receiveResponse parse url retry with
  | case1 retry ih =>
    apply makes_bind (makes_outcome
      (receiveAndComplete_makes (allowed_of_narrower RequestCall.transfers_of_receives transfers)))
    intro result
    cases result with
    | ok value => exact makes_pure _
    | error error =>
      exact makes_bind (onError_makes transfers sends _ _) fun next => ih next

end Sends

end Transfer

end Wrest
