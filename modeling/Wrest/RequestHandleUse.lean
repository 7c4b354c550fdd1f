import Wrest.InMemoryBodies
import Wrest.RequestProtocols

/-!
# The order of calls of a request

Each step of `execute_request` keeps to the order that WinHTTP asks for.  The steps are
followed one after the other: what a step leaves is what the next one may start from, and a
step that fails leaves no operation in flight.
-/

namespace Wrest.RequestUse

open Interaction RequestStep Win32 HandleState

/-- A send may be started. -/
structure Ready (state : HandleState) : Prop where
  idle : state.Idle
  unsent : state.progress = .unsent

/-- The send has completed. -/
structure Sent (state : HandleState) : Prop where
  idle : state.Idle
  sent : state.progress = .sent

/-- The handle before its first send, with the body that it will be sent with. -/
structure Configuring (body : PreparedBody) (state : HandleState) : Prop extends
    Ready state where
  fresh : state.started = false
  optional : state.optional = none
  stored : 0 < body.length → state.stored = some ⟨body.pointer, body.length⟩

/-- The body can be written, and the one in the shared state replaced. -/
structure Streaming (state : HandleState) : Prop extends Sent state where
  optional : state.optional = none

/-- Between two writes from this buffer. -/
structure Writing (stored : Option Buffer) (state : HandleState) : Prop extends
    Streaming state where
  stored : state.stored = stored

/-- The response has been received, and its head can be read. -/
structure Received (state : HandleState) : Prop where
  idle : state.Idle
  received : state.progress = .received
  optional : state.optional = none

/-- Behind the error another send may be started, unless the listener was dropped. -/
def Resendable (error : Error) (state : HandleState) : Prop :=
  Ready state ∨ error.source = some .signalCancelled

/-- The error leaves no operation in flight, unless the listener was dropped. -/
def Stopped (error : Error) (state : HandleState) : Prop :=
  state.pending = none ∨ error.source = some .signalCancelled

theorem stopped_of_idle {error : Error} {state : HandleState} (idle : state.Idle) :
    Stopped error state :=
  .inl idle.2

theorem Resendable.stopped {error : Error} {state : HandleState}
    (resendable : Resendable error state) : Stopped error state :=
  resendable.imp_left fun ready => ready.idle.2

section Awaiting

variable {url : Url} {state : HandleState}

/-- An operation that was started is waited for, and then it has completed. -/
theorem awaitWin32_uses (call : RequestCall) (check : call.Reply → Outcome)
    (operation : Operation) (starts : HandleState) (idle : state.Idle)
    (permitted : ∀ listener, permitsCall { state with listener := some listener } call)
    (started : ∀ listener reply, check reply = .ok () →
      nextState { state with listener := some listener } call reply =
        { starts with listener := some listener, pending := some operation })
    (refused : ∀ listener reply code, check reply = .error code →
      Ready (nextState { state with listener := some listener } call reply)) :
    Uses (· = state) (awaitWin32 do checkWin32 url (check (← ask call)))
      (fun event after =>
        after = { starts with pending := some operation }.complete (.ok event))
      Resendable := by
  refine uses_bind (fun (listener : Nat) after =>
    after = { state with listener := some listener }) ?_ fun (listener : Nat) => ?_
  · refine uses_ask ?_ ?_
    · rintro _ rfl
      exact idle
    · rintro _ listener rfl
      rfl
  refine uses_bind (fun _ after =>
    after = { starts with listener := some listener, pending := some operation }) ?_ fun _ => ?_
  · refine uses_checked ?_ ?_ ?_
    · rintro _ rfl
      exact permitted listener
    · rintro _ reply _ rfl outcome
      exact started listener reply outcome
    · rintro _ reply code rfl outcome
      exact .inl (refused listener reply code outcome)
  refine uses_bind (fun (reply : Except SignalCancelled CallbackEvent) after =>
    after = HandleState.complete
      { starts with listener := some listener, pending := some operation } reply) ?_
    fun (reply : Except SignalCancelled CallbackEvent) => ?_
  · refine uses_ask ?_ ?_
    · rintro _ rfl
      exact ⟨rfl, rfl⟩
    · rintro _ reply rfl
      rfl
  rcases reply with dropped | event
  · exact uses_fail fun _ _ => .inr rfl
  · refine uses_pure ?_
    rintro _ rfl
    rfl

/-- The error behind a code takes nothing but what the callbacks left. -/
theorem callbackErrorToError_uses (code : Nat) :
    Uses Ready (callbackErrorToError code url) (fun _ => Ready) Resendable := by
  refine uses_bind (fun _ => Ready) (uses_ask ?_ ?_) fun (reason : Option Error) => ?_
  · exact fun _ ready => ready.idle.1
  · exact fun _ _ ready => ready
  cases reason with
  | some reason => exact uses_pure fun _ ready => ready
  | none =>
    dsimp only
    split
    · refine uses_bind (fun _ => Ready) (uses_ask ?_ ?_) fun _ =>
        uses_pure fun _ ready => ready
      · exact fun _ ready => ready.idle.1
      · exact fun _ _ ready => ready
    · exact uses_pure fun _ ready => ready

theorem intoResult_uses {after : HandleState → Prop} (event : CallbackEvent) :
    Uses (fun state => (event = .complete → after state) ∧ (event ≠ .complete → Ready state))
      (event.intoResult url) (fun _ => after) Resendable := by
  cases event with
  | complete => exact uses_pure fun _ holds => holds.1 rfl
  | readComplete count | writeComplete count =>
    exact uses_fail fun _ holds => .inl (holds.2 (by rintro ⟨⟩))
  | win32Error code =>
    refine uses_bind (fun _ => Ready) ?_ fun error => uses_fail fun _ ready => .inl ready
    refine (callbackErrorToError_uses code).mono ?_ (fun _ _ ready => ready)
      fun _ _ holds => holds
    exact fun _ holds => holds.2 (by rintro ⟨⟩)

theorem sendAndComplete_uses {body : Option Nat} {bodyLength totalLength : Nat}
    (ready : Ready state) (fits : bodyLength ≤ u32Max) (totalFits : totalLength ≤ u32Max)
    (lends : state.Lends body bodyLength) :
    Uses (· = state) (sendAndComplete url body bodyLength totalLength)
      (fun _ after => after =
        { state with
          started := true
          progress := .sent
          optional := (body.map fun pointer => ⟨pointer, bodyLength⟩).or state.optional
          listener := none
          pending := none })
      Resendable := by
  refine Uses.bind (awaitWin32_uses (.sendRequest body bodyLength totalLength)
    (fun reply => reply) .send
    { state with
      started := true
      optional := (body.map fun pointer => ⟨pointer, bodyLength⟩).or state.optional }
    ready.idle ?_ ?_ ?_) fun event => ?_
  · exact fun listener => ⟨ready.idle, rfl, ready.unsent, fits, totalFits, lends⟩
  · rintro listener _ rfl
    rfl
  · rintro listener _ code rfl
    exact ⟨ready.idle, ready.unsent⟩
  · refine (intoResult_uses event).mono ?_ (fun _ _ holds => holds) fun _ _ holds => holds
    rintro _ rfl
    refine ⟨?_, fun other => ?_⟩
    · rintro rfl
      rfl
    · cases event with
      | complete => exact absurd rfl other
      | readComplete _ | writeComplete _ | win32Error _ => exact ⟨⟨ready.idle.1, rfl⟩, rfl⟩

theorem receiveAndComplete_uses :
    Uses Sent (receiveAndComplete url) (fun _ => Received) Resendable := by
  refine uses_of_forall fun state sent => ?_
  refine Uses.bind (awaitWin32_uses .receiveResponse (fun reply => reply) .receive state
    sent.idle ?_ ?_ ?_) fun event => ?_
  · exact fun listener => ⟨sent.idle, rfl, sent.sent⟩
  · rintro listener _ rfl
    rfl
  · rintro listener _ code rfl
    exact ⟨sent.idle, rfl⟩
  · refine (intoResult_uses event).mono ?_ (fun _ _ holds => holds) fun _ _ holds => holds
    rintro _ rfl
    refine ⟨?_, fun other => ?_⟩
    · rintro rfl
      exact ⟨⟨sent.idle.1, rfl⟩, rfl, rfl⟩
    · cases event with
      | complete => exact absurd rfl other
      | readComplete _ | writeComplete _ | win32Error _ => exact ⟨⟨sent.idle.1, rfl⟩, rfl⟩

end Awaiting

section Writes

variable {url : Url} {stored : Option Buffer} {state : HandleState}

/-- The buffer lies in what is stored. -/
def Within (stored : Option Buffer) (buffer : Buffer) : Prop :=
  ∃ outer, stored = some outer ∧ outer.Contains buffer

theorem Writing.stores (writing : Writing stored state) {buffer : Buffer}
    (within : Within stored buffer) : state.Stores buffer := by
  obtain ⟨outer, rfl, contains⟩ := within
  exact ⟨outer, writing.stored, contains⟩

theorem writeOnce_uses {pointer length : Nat} (positive : 0 < length)
    (fits : length ≤ u32Max) (within : Within stored ⟨pointer, length⟩) :
    Uses (Writing stored) (writeOnce url pointer length) (fun _ => Writing stored)
      Resendable := by
  refine uses_of_forall fun state writing => ?_
  refine Uses.bind (awaitWin32_uses (.writeData pointer length) (fun reply => reply)
    (.write pointer length) state writing.idle ?_ ?_ ?_) fun event => ?_
  · exact fun listener =>
      ⟨writing.idle, rfl, writing.sent, positive, fits, writing.stores within⟩
  · rintro listener _ rfl
    rfl
  · rintro listener _ code rfl
    exact ⟨writing.idle, rfl⟩
  · cases event with
    | writeComplete count =>
      refine uses_pure ?_
      rintro _ rfl
      exact ⟨⟨⟨⟨writing.idle.1, rfl⟩, writing.sent⟩, writing.optional⟩, writing.stored⟩
    | complete | readComplete _ | win32Error _ =>
      refine uses_fail ?_
      rintro _ rfl
      exact .inl ⟨⟨writing.idle.1, rfl⟩, rfl⟩

/-- The writes of a buffer stay within it, whatever counts are reported. -/
theorem writeDataWith_uses {pointer length : Nat} (within : Within stored ⟨pointer, length⟩)
    (offset : Nat) :
    Uses (Writing stored) (writeDataWith (writeOnce url) pointer length url offset)
      (fun _ => Writing stored) Stopped := by
  fun_induction writeDataWith (writeOnce url) pointer length url offset with
  | case1 offset before exhausted => exact uses_fail fun _ writing => stopped_of_idle writing.idle
  | case2 offset before remaining counted outside =>
    exact uses_fail fun _ writing => stopped_of_idle writing.idle
  | case3 offset before remaining left position found fits ih =>
    have leftEq : remaining = length - offset := by
      simp only [checkedSub, Option.ite_none_right_eq_some, Option.some.injEq] at left
      exact left.2.symm
    have positionEq : position = pointer + offset := by
      simp only [checkedAdd, Option.ite_none_right_eq_some, Option.some.injEq] at found
      exact found.2.symm
    have part : Within stored ⟨position, remaining⟩ := by
      obtain ⟨outer, outerEq, lower, upper⟩ := within
      refine ⟨outer, outerEq, ?_, ?_⟩
      · change outer.pointer ≤ position
        change outer.pointer ≤ pointer at lower
        omega
      · change position + remaining ≤ _
        change pointer + length ≤ _ at upper
        omega
    have once : Uses (Writing stored) (writeOnce url position remaining)
        (fun _ => Writing stored) Resendable := writeOnce_uses (by omega) fits part
    refine uses_bind (fun _ => Writing stored) (once.withContext ?_) fun written => ?_
    · exact fun error state holds => holds.stopped
    · split
      · next next advanced => exact ih written next advanced
      · exact uses_fail fun _ writing => stopped_of_idle writing.idle
  | case4 => exact uses_fail fun _ writing => stopped_of_idle writing.idle
  | case5 => exact uses_pure fun _ writing => writing

theorem writeData_uses {pointer length : Nat} (within : Within stored ⟨pointer, length⟩) :
    Uses (Writing stored) (writeData url pointer length) (fun _ => Writing stored) Stopped :=
  writeDataWith_uses within 0

theorem within_self (buffer : Buffer) : Within (some buffer) buffer :=
  ⟨buffer, rfl, Nat.le_refl _, Nat.le_refl _⟩

theorem storeAndWrite_uses (bytes : List UInt8) :
    Uses Streaming (storeAndWrite url bytes) (fun _ => Streaming) Stopped := by
  refine uses_bind (fun (pointer : Nat) => Writing (some ⟨pointer, bytes.length⟩))
    (uses_ask ?_ ?_) fun (pointer : Nat) => ?_
  · exact fun _ streaming => ⟨streaming.idle.2, streaming.optional⟩
  · exact fun _ pointer streaming => ⟨⟨⟨streaming.idle, streaming.sent⟩, streaming.optional⟩, rfl⟩
  · exact (writeData_uses (within_self _)).mono (fun _ writing => writing)
      (fun _ _ writing => writing.toStreaming) fun _ _ stopped => stopped

theorem writeStream_uses (items : List (Except ErrorSource (List UInt8))) :
    Uses Streaming (writeStream url items) (fun _ => Streaming) Stopped := by
  induction items with
  | nil => exact uses_pure fun _ streaming => streaming
  | cons item items ih =>
    cases item with
    | error source => exact uses_fail fun _ streaming => stopped_of_idle streaming.idle
    | ok chunk =>
      unfold writeStream
      split
      · exact ih
      · exact (storeAndWrite_uses _).bind fun _ => ih

theorem writeLargeBody_uses (pointer length offset : Nat) :
    Uses (Writing (some ⟨pointer, length⟩)) (writeLargeBody url pointer length offset)
      (fun _ => Writing (some ⟨pointer, length⟩)) Stopped := by
  fun_induction writeLargeBody url pointer length offset with
  | case1 offset before chunkSize ih =>
    refine (writeData_uses ⟨_, rfl, ?_, ?_⟩).bind fun _ => ih
    · exact Nat.le_add_right pointer offset
    · have fits : chunkSize ≤ length - offset := Nat.min_le_left _ _
      change pointer + offset + chunkSize ≤ pointer + length
      omega
  | case2 => exact uses_pure fun _ writing => writing

end Writes

section Sends

variable {url : Url} {parse : String → Option Url} {body : PreparedBody}

section Options

variable {call : RequestCall} {check : call.Reply → Outcome} {before : HandleState → Prop}

/-- An option of the handle is set, or the request ends. -/
theorem option_uses (idle : ∀ state, before state → state.Idle)
    (permitted : ∀ state, before state → permitsCall state call)
    (keeps : ∀ state reply, nextState state call reply = state) :
    Uses before (do checkWin32 url (check (← ask call))) (fun _ => before) Stopped := by
  refine uses_checked permitted ?_ ?_
  · intro state reply _ holds _
    rwa [keeps]
  · intro state reply code holds _
    rw [keeps]
    exact stopped_of_idle (idle state holds)

theorem option_uses_bind {β : Type} {rest : Unit → RequestStep β}
    {after : β → HandleState → Prop} (idle : ∀ state, before state → state.Idle)
    (permitted : ∀ state, before state → permitsCall state call)
    (keeps : ∀ state reply, nextState state call reply = state)
    (second : Uses before (rest ()) after Stopped) :
    Uses before (ask call >>= fun reply => checkWin32 url (check reply) >>= rest) after
      Stopped := by
  refine uses_checked_bind permitted ?_ ?_ fun _ => second
  · intro state reply _ holds _
    rwa [keeps]
  · intro state reply code holds _
    rw [keeps]
    exact stopped_of_idle (idle state holds)

end Options

theorem addRequestHeader_uses (line : String) :
    Uses (Configuring body) (addRequestHeader url line) (fun _ => Configuring body)
      Stopped := by
  unfold addRequestHeader
  split
  · next fits =>
    refine option_uses (fun _ configuring => configuring.idle)
      (fun _ configuring => ⟨configuring.idle, configuring.fresh, fits⟩) ?_
    intro state reply
    cases reply <;> rfl
  · exact uses_fail fun _ configuring => stopped_of_idle configuring.idle

/-- A send without optional data. -/
theorem sendEmpty_uses :
    Uses Ready (sendAndComplete url none 0 0) (fun _ => Sent) Stopped := by
  refine uses_of_forall fun state ready => ?_
  refine (sendAndComplete_uses ready (Nat.zero_le _) (Nat.zero_le _)
    (show state.Lends none 0 from rfl)).mono
    (fun _ same => same) ?_ fun _ _ resendable => resendable.stopped
  rintro _ _ rfl
  exact ⟨⟨ready.idle.1, rfl⟩, rfl⟩

theorem onError_uses (retry : CertlessRedirectRetry) (error : Error) :
    Uses (Resendable error) (retry.onError parse error url) (fun _ => Sent) Stopped := by
  unfold CertlessRedirectRetry.onError
  split
  · next resend =>
    have ready : ∀ state, Resendable error state → Ready state := by
      intro state resendable
      refine resendable.resolve_right fun dropped => ?_
      have needed := resend.2.2
      rw [CertlessRedirectRetry.isClientCertNeeded, dropped] at needed
      simp [ErrorSource.rawOsError] at needed
    refine uses_bind (fun _ => Ready) (uses_ask ?_ ?_) fun (aborted : Bool) => ?_
    · exact fun state holds => (ready state holds).idle.1
    · exact fun state _ holds => ready state holds
    cases aborted with
    | true => exact uses_fail fun _ ready => stopped_of_idle ready.idle
    | false =>
      refine uses_bind (fun _ => Ready) (uses_ask ?_ ?_) fun (current : Option String) => ?_
      · exact fun _ ready => ready.idle
      · exact fun _ _ ready => ready
      split
      · refine option_uses_bind (fun _ ready => ready.idle)
          (fun _ ready => ⟨ready.idle, ready.unsent⟩) ?_ ?_
        · intro state reply
          cases reply <;> rfl
        · refine uses_bind (fun _ => Sent) ?_ fun _ => uses_pure fun _ sent => sent
          exact sendEmpty_uses
      · exact uses_fail fun _ ready => stopped_of_idle ready.idle
  · exact uses_fail fun _ resendable => resendable.stopped

theorem storeBody_uses (content : Option Body) :
    Uses (· = .initial) (storeBody content)
      (fun body state => ∃ stored, state = { HandleState.initial with stored := stored } ∧
        (0 < body.length → stored = some ⟨body.pointer, body.length⟩))
      Stopped := by
  match content with
  | none =>
    refine uses_pure ?_
    rintro _ rfl
    exact ⟨none, rfl, fun positive => absurd positive (Nat.lt_irrefl 0)⟩
  | some { inner := .stream items } =>
    refine uses_pure ?_
    rintro _ rfl
    exact ⟨none, rfl, fun positive => absurd positive (Nat.lt_irrefl 0)⟩
  | some { inner := .bytes content } =>
    refine uses_bind (fun (pointer : Nat) state =>
      state = { HandleState.initial with stored := some ⟨pointer, content.length⟩ })
      (uses_ask ?_ ?_) fun (pointer : Nat) => ?_
    · rintro _ rfl
      exact ⟨rfl, rfl⟩
    · rintro _ pointer rfl
      rfl
    dsimp only
    split
    · refine uses_pure ?_
      rintro _ rfl
      exact ⟨_, rfl, fun positive => absurd positive (Nat.lt_irrefl 0)⟩
    · refine uses_pure ?_
      rintro _ rfl
      exact ⟨_, rfl, fun _ => rfl⟩

/-- A step of the setup, which moves to the next stage. -/
theorem stage_uses {call : RequestCall} {check : call.Reply → Outcome} {β : Type}
    {rest : Unit → RequestStep β} {after : β → HandleState → Prop} {state : HandleState}
    (next : HandleState) (idle : state.pending = none) (permitted : permitsCall state call)
    (moves : ∀ reply, check reply = .ok () → nextState state call reply = next)
    (stays : ∀ reply code, check reply = .error code → nextState state call reply = state)
    (second : Uses (· = next) (rest ()) after Stopped) :
    Uses (· = state) (ask call >>= fun reply => checkWin32 url (check reply) >>= rest) after
      Stopped := by
  have moved : ∀ before reply value, before = state → check reply = .ok value →
      nextState before call reply = next := by
    rintro _ reply _ rfl outcome
    exact moves reply outcome
  refine uses_checked_bind ?_ moved ?_ fun _ => second
  · rintro _ rfl
    exact permitted
  · rintro _ reply code rfl outcome
    rw [stays reply code outcome]
    exact .inl idle

theorem openHandle_uses (parts : RequestParts) :
    Uses (· = .initial) (openHandle parts) Configuring Stopped := by
  refine (storeBody_uses parts.body).bind fun body => ?_
  refine uses_of_forall ?_
  rintro _ ⟨stored, rfl, fits⟩
  refine stage_uses { HandleState.initial with stage := .connected, stored := stored } rfl rfl
    ?_ ?_ ?_
  · rintro _ rfl
    rfl
  · rintro _ code rfl
    rfl
  refine stage_uses { HandleState.initial with stage := .opened, stored := stored } rfl rfl
    ?_ ?_ ?_
  · rintro _ rfl
    rfl
  · rintro _ code rfl
    rfl
  refine stage_uses { HandleState.initial with stage := .registered, stored := stored } rfl rfl
    ?_ ?_ ?_
  · rintro _ rfl
    rfl
  · rintro _ code rfl
    rfl
  refine uses_pure ?_
  rintro _ rfl
  exact ⟨⟨⟨rfl, rfl⟩, rfl⟩, rfl, rfl, fits⟩

theorem setProxy_uses (action : ProxyAction) :
    Uses (Configuring body) (setProxy url action) (fun _ => Configuring body) Stopped := by
  have idle : ∀ state, Configuring body state → state.Idle :=
    fun _ configuring => configuring.idle
  have fresh : ∀ state, Configuring body state → state.Idle ∧ state.started = false :=
    fun _ configuring => ⟨configuring.idle, configuring.fresh⟩
  cases action with
  | direct => exact option_uses idle fresh fun _ reply => by cases reply <;> rfl
  | named proxyUrl creds =>
    refine option_uses_bind idle fresh (fun _ reply => by cases reply <;> rfl) ?_
    cases creds with
    | none => exact uses_pure fun _ configuring => configuring
    | some credentials => exact option_uses idle fresh fun _ reply => by cases reply <;> rfl
  | automatic => exact uses_pure fun _ configuring => configuring

theorem setCertificateOptions_uses (parts : RequestParts) :
    Uses (Configuring body) (setCertificateOptions parts) (fun _ => Configuring body)
      Stopped := by
  have idle : ∀ state, Configuring body state → state.Idle :=
    fun _ configuring => configuring.idle
  have ignoring : Uses (Configuring body)
      (if parts.acceptInvalidCerts then do
        checkWin32 parts.url (← ask (.setSecurityFlags ignoredCertificateFlags))
      else pure ()) (fun _ => Configuring body) Stopped := by
    split
    · exact option_uses idle (fun _ configuring => ⟨configuring.idle, configuring.fresh⟩)
        fun _ reply => by cases reply <;> rfl
    · exact uses_pure fun _ configuring => configuring
  unfold setCertificateOptions
  dsimp only
  split
  · exact option_uses_bind idle (fun _ configuring => ⟨configuring.idle, configuring.unsent⟩)
      (fun _ reply => by cases reply <;> rfl) ignoring
  · exact ignoring

theorem addHeaders_uses (headers : List (String × String)) :
    Uses (Configuring body) (addHeaders url headers) (fun _ => Configuring body) Stopped := by
  induction headers with
  | nil => exact uses_pure fun _ configuring => configuring
  | cons header headers ih => exact (addRequestHeader_uses _).bind fun _ => ih

theorem prepareRequest_uses (parts : RequestParts) :
    Uses (· = .initial) (prepareRequest parts) Configuring Stopped := by
  refine uses_bind Configuring ?_ fun body =>
    (addHeaders_uses parts.headers).bind fun _ => uses_pure fun _ configuring => configuring
  exact (openHandle_uses parts).bind fun body => (setProxy_uses _).bind fun _ =>
    (setCertificateOptions_uses parts).bind fun _ => uses_pure fun _ configuring => configuring

/-- A send before the body, which is written behind it. -/
theorem sendHead_uses :
    Uses (Configuring body) (sendAndComplete url none 0 WINHTTP_IGNORE_REQUEST_TOTAL_LENGTH)
      (fun _ state => Streaming state ∧
        (0 < body.length → state.stored = some ⟨body.pointer, body.length⟩)) Stopped := by
  refine uses_of_forall fun state configuring => ?_
  refine (sendAndComplete_uses configuring.toReady (Nat.zero_le _) (Nat.zero_le _)
    (show state.Lends none 0 from rfl)).mono (fun _ same => same) ?_
    fun _ _ resendable => resendable.stopped
  rintro _ _ rfl
  exact ⟨⟨⟨⟨configuring.idle.1, rfl⟩, rfl⟩, configuring.optional⟩, configuring.stored⟩

/-- A send that is given the body. -/
theorem sendInline_uses (short : body.length ≤ largeBodyThreshold) :
    Uses (Configuring body)
      (sendAndComplete url (if body.length > 0 then some body.pointer else none) body.length
        body.length)
      (fun _ => Sent) Resendable := by
  refine uses_of_forall fun state configuring => ?_
  have lends : state.Lends (if body.length > 0 then some body.pointer else none)
      body.length := by
    split
    · next positive =>
      exact ⟨configuring.optional, _, configuring.stored positive, Nat.le_refl _, Nat.le_refl _⟩
    · next empty => exact Nat.eq_zero_of_not_pos empty
  refine (sendAndComplete_uses configuring.toReady short short lends).mono
    (fun _ same => same) ?_ fun _ _ resendable => resendable
  rintro _ _ rfl
  exact ⟨⟨configuring.idle.1, rfl⟩, rfl⟩

theorem sendBody_uses (retry : CertlessRedirectRetry) :
    Uses (Configuring body) (sendBody parse url body retry) (fun _ => Sent) Stopped := by
  unfold sendBody
  split
  · refine (addRequestHeader_uses _).bind fun _ => ?_
    refine uses_bind (fun _ => Streaming) ?_ fun _ => ?_
    · exact sendHead_uses.mono (fun _ holds => holds) (fun _ _ holds => holds.1)
        fun _ _ stopped => stopped
    exact (writeStream_uses _).bind fun _ => (storeAndWrite_uses _).bind fun _ =>
      uses_pure fun _ streaming => streaming.toSent
  · split
    · next short =>
      refine uses_bind (outcomes (fun _ => Sent) Resendable) (sendInline_uses short).outcome
        fun result => ?_
      rcases result with error | _
      · exact (onError_uses retry error).bind fun _ => uses_pure fun _ sent => sent
      · exact uses_pure fun _ sent => sent
    · next long =>
      refine (addRequestHeader_uses _).bind fun _ => sendHead_uses.bind fun _ => ?_
      dsimp only
      split
      · have writing : Uses (Writing (some ⟨body.pointer, body.length⟩))
            (writeLargeBody url body.pointer body.length 0)
            (fun _ => Writing (some ⟨body.pointer, body.length⟩)) Stopped :=
          writeLargeBody_uses body.pointer body.length 0
        refine uses_bind (fun _ => Sent) (writing.mono ?_ ?_ fun _ _ stopped => stopped)
          fun _ => uses_pure fun _ sent => sent
        · exact fun _ holds => ⟨holds.1, holds.2 (by omega)⟩
        · exact fun _ _ writing => writing.toSent
      · exact uses_pure fun _ holds => holds.1.toSent

theorem receiveResponse_uses (retry : CertlessRedirectRetry) :
    Uses Sent (receiveResponse parse url retry) (fun _ => Received) Stopped := by
  fun_induction receiveResponse parse url retry with
  | case1 retry ih =>
    refine uses_bind (outcomes (fun _ => Received) Resendable)
      receiveAndComplete_uses.outcome fun result => ?_
    rcases result with error | _
    · exact (onError_uses retry error).bind fun next => ih next
    · exact uses_pure fun _ received => received

/-- The response has been received, and the body is no longer kept. -/
structure Finished (state : HandleState) : Prop extends Received state where
  released : state.stored = none

/-- A value is read from the received head. -/
theorem query_uses (call : RequestCall)
    (permitted : ∀ state, Finished state → permitsCall state call)
    (keeps : ∀ state reply, nextState state call reply = state) :
    Uses Finished (ask call) (fun _ => Finished) Stopped :=
  uses_ask permitted fun state reply finished => by rwa [keeps]

theorem queryChecked_uses {α β : Type} {rest : α → RequestStep β}
    {after : β → HandleState → Prop} (call : RequestCall) (check : call.Reply → Except Nat α)
    (permitted : ∀ state, Finished state → permitsCall state call)
    (keeps : ∀ state reply, nextState state call reply = state)
    (second : ∀ value, Uses Finished (rest value) after Stopped) :
    Uses Finished (ask call >>= fun reply => checkWin32 url (check reply) >>= rest) after
      Stopped := by
  have kept : ∀ state reply value, Finished state → check reply = .ok value →
      Finished (nextState state call reply) := by
    intro state reply _ finished _
    rwa [keeps]
  refine uses_checked_bind permitted kept ?_ second
  intro state reply code finished _
  rw [keeps]
  exact stopped_of_idle finished.idle

theorem queryResponse_uses :
    Uses Received (queryResponse parse url) (fun _ => Finished) Stopped := by
  have readable : ∀ state, Finished state → state.Idle ∧ state.progress = .received :=
    fun _ finished => ⟨finished.idle, finished.received⟩
  refine uses_bind (fun _ => Finished) (uses_ask ?_ ?_) fun _ => ?_
  · exact fun _ received => ⟨received.idle.2, received.optional⟩
  · exact fun _ _ received => ⟨⟨received.idle, received.received, received.optional⟩, rfl⟩
  refine queryChecked_uses .queryStatusCode (fun reply => reply) readable (fun _ _ => rfl)
    fun statusCode => ?_
  refine uses_bind (fun _ => Finished) ?_ fun status => ?_
  · cases parseWinHttpStatusCode statusCode url with
    | ok status => exact uses_pure fun _ finished => finished
    | error error => exact uses_fail fun _ finished => stopped_of_idle finished.idle
  refine (query_uses .queryProtocolUsed readable fun _ _ => rfl).bind fun protocolFlags =>
    (query_uses .queryVersion readable fun _ _ => rfl).bind fun versionText => ?_
  refine queryChecked_uses .queryRawHeaders (fun reply => reply) readable (fun _ _ => rfl)
    fun rawHeaders => ?_
  exact (query_uses .queryUrl (fun _ finished => finished.idle) fun _ _ => rfl).bind
    fun current => uses_pure fun _ finished => finished

theorem executeRequest_uses (parts : RequestParts) :
    Uses (· = .initial) (executeRequest parse parts) (fun _ => Finished) Stopped :=
  (prepareRequest_uses parts).bind fun _ => (sendBody_uses _).bind fun retry =>
    (receiveResponse_uses retry).bind fun _ => queryResponse_uses

end Sends

/-- What WinHTTP may read lies in the body in the shared state. -/
structure Held (state : HandleState) : Prop where
  written : ∀ pointer length, state.pending = some (.write pointer length) →
    state.Stores ⟨pointer, length⟩
  lent : ∀ buffer, state.optional = some buffer → state.Stores buffer

section Memory

variable {state : HandleState}

theorem Held.of_same {next : HandleState} (held : Held state)
    (pending : next.pending = state.pending) (optional : next.optional = state.optional)
    (stored : next.stored = state.stored) : Held next where
  written pointer length writes := by
    rw [pending] at writes
    obtain ⟨outer, outerEq, contains⟩ := held.written pointer length writes
    exact ⟨outer, stored.trans outerEq, contains⟩
  lent buffer lends := by
    rw [optional] at lends
    obtain ⟨outer, outerEq, contains⟩ := held.lent buffer lends
    exact ⟨outer, stored.trans outerEq, contains⟩

/-- Without an operation in flight only the optional data counts. -/
theorem Held.of_idle {next : HandleState} (held : Held state) (pending : next.pending = none)
    (optional : next.optional = none ∨ next.optional = state.optional)
    (stored : next.stored = state.stored) : Held next where
  written pointer length writes := by
    rw [pending] at writes
    cases writes
  lent buffer lends := by
    rcases optional with none | same
    · rw [none] at lends
      cases lends
    · obtain ⟨outer, outerEq, contains⟩ := held.lent buffer (same ▸ lends)
      exact ⟨outer, stored.trans outerEq, contains⟩

theorem complete_ok (state : HandleState) (event : CallbackEvent) :
    (state.complete (.ok event)).pending = none ∧
      ((state.complete (.ok event)).optional = none ∨
        (state.complete (.ok event)).optional = state.optional) ∧
      (state.complete (.ok event)).stored = state.stored := by
  unfold HandleState.complete
  dsimp only
  split <;> simp

theorem Held.complete (held : Held state) (reply : Except SignalCancelled CallbackEvent) :
    Held (state.complete reply) := by
  rcases reply with dropped | event
  · exact held
  · obtain ⟨pending, optional, stored⟩ := complete_ok state event
    exact held.of_idle pending optional stored

/-- While nothing may be read, the body can be replaced. -/
theorem held_of_unused {next : HandleState} (pending : next.pending = none)
    (optional : next.optional = none) : Held next where
  written pointer length writes := by
    rw [pending] at writes
    cases writes
  lent buffer lends := by
    rw [optional] at lends
    cases lends

/-- A send reads the data that it was given, beside the data of an earlier one. -/
theorem Held.send (held : Held state) {body : Option Nat} {bodyLength : Nat}
    (lends : state.Lends body bodyLength) :
    Held { state with
      started := true
      optional := (body.map fun pointer => ⟨pointer, bodyLength⟩).or state.optional
      pending := some .send } where
  written _ _ impossible := by cases impossible
  lent buffer found := by
    cases body with
    | none => exact held.lent buffer found
    | some pointer =>
      obtain rfl := Option.some.inj found
      exact lends.2

theorem held_next {call : RequestCall} {reply : call.Reply} (held : Held state)
    (permitted : permitsCall state call) : Held (nextState state call reply) := by
  cases call with
  | poll listener => exact held.complete reply
  | storeSendBody _ | takeSendBody => exact held_of_unused permitted.1 permitted.2
  | sendRequest body bodyLength totalLength =>
    obtain ⟨-, -, -, -, -, lends⟩ := permitted
    rcases reply with code | _
    · exact held.of_same rfl rfl rfl
    · exact held.send lends
  | writeData pointer length =>
    obtain ⟨-, -, -, -, -, stores⟩ := permitted
    rcases reply with code | _
    · exact held.of_same rfl rfl rfl
    · refine ⟨?_, held.lent⟩
      rintro _ _ ⟨rfl⟩
      exact stores
  | receiveResponse =>
    rcases reply with code | _
    · exact held.of_same rfl rfl rfl
    · refine ⟨?_, held.lent⟩
      rintro _ _ ⟨⟩
  | connect _ _ | openRequest _ _ _ | setContextValue =>
    cases reply <;> exact held.of_same rfl rfl rfl
  | _ => exact held.of_same rfl rfl rfl

end Memory

/-- Whatever WinHTTP replies: `execute_request` makes its calls in the order that the handle
asks for, one operation at a time.  Wherever its future is dropped, the memory that WinHTTP
may still read lies in the body that the shared state keeps.  When it returns nothing is in
flight, and behind a response the body has been released. -/
theorem executeRequest_keepsOrder (parse : String → Option Url) (parts : RequestParts)
    {trace : RequestTrace} {result : Except Error RawResponse}
    (traces : AttemptTraces (executeRequest parse parts) trace result) :
    Follows (fun history exchange =>
        permitsCall (requestProtocol.after history) exchange.call) [] trace ∧
      (∀ before after, trace = before ++ after → Held (requestProtocol.after before)) ∧
      outcomes (fun _ => Finished) Stopped result (requestProtocol.after trace) := by
  have expected : Follows (fun history exchange =>
      requestProtocol.expects (requestProtocol.after history) exchange) [] trace :=
    follows_of_forall fun _ _ => trivial
  have respects : requestProtocol.Respects (α := Except Error RawResponse) (· = .initial)
      (executeRequest parse parts) (outcomes (fun _ => Finished) Stopped) :=
    executeRequest_uses parts
  obtain ⟨follows, ends⟩ := respects.traces rfl traces expected
  have starts : Held requestProtocol.initial := held_of_unused rfl rfl
  refine ⟨follows, fun before after split => ?_, ends⟩
  exact Protocol.invariant_of_follows starts (fun _ _ held => held_next held) follows split

section Run

theorem executeRequest_keepsOrder_answered : ∃ response,
    Follows (fun history exchange =>
        permitsCall (requestProtocol.after history) exchange.call) [] postedAnswered ∧
      (∀ before after, postedAnswered = before ++ after →
        Held (requestProtocol.after before)) ∧
      outcomes (fun _ : RawResponse => Finished) Stopped (.ok response)
        (requestProtocol.after postedAnswered) := by
  obtain ⟨response, traces⟩ := postedAnswered_traces fun _ => none
  exact ⟨response, executeRequest_keepsOrder (fun _ => none) postParts traces⟩

end Run

end Wrest.RequestUse
