import Wrest.RequestWorlds
import Wrest.WireHeaderLists

/-!
# Runs of a request that meets no failure

On an open handle every configuration step can succeed, and its effect on the
state around the request is determined.  These runs show that the statements
about all runs of a request are not empty.
-/

namespace Wrest

open Interaction RequestStep Win32

namespace RequestWorld

/-- The override of an action, on the handle. -/
def withProxy (world : RequestWorld) : ProxyAction → RequestWorld
  | .direct => { world with requestProxy := some .direct }
  | .named url none => { world with requestProxy := some (.named url none) }
  | .named url (some creds) =>
    { world with
      requestProxy := some (.named url none)
      proxyCredentials := some creds }
  | .automatic => world

theorem withProxy_closed (world : RequestWorld) (action : ProxyAction) :
    (world.withProxy action).closed = world.closed := by
  cases action with
  | direct | automatic => rfl
  | named url creds => cases creds <;> rfl

end RequestWorld

def PreparedBody.absent : PreparedBody where
  pointer := 0
  length := 0
  hasBytes := false
  stream := none

def bareParts (config : ProxyConfig) (isHttps : Bool) : RequestParts where
  url := bareUrl isHttps
  method := "GET"
  headers := []
  body := none
  proxyConfig := config
  acceptInvalidCerts := false

section Progress

variable {world : RequestWorld} (opened : world.closed = false)

include opened

theorem setProxy_runs (url : Url) (action : ProxyAction) :
    Runs winHttp (α := Except Error Unit) (setProxy url action) world (.ok ())
      (world.withProxy action) := by
  cases action with
  | direct => exact .call (.ok ()) ⟨opened, rfl⟩ (.done _ _)
  | named proxyUrl creds =>
    cases creds with
    | none => exact .call (.ok ()) ⟨opened, rfl⟩ (.done _ _)
    | some credentials =>
      exact .call (.ok ()) ⟨opened, rfl⟩ (.call (.ok ()) ⟨opened, rfl⟩ (.done _ _))
  | automatic => exact .done _ _

theorem openHandle_runs {parts : RequestParts} {prepared : PreparedBody}
    (stored : storeBody parts.body = pure prepared) :
    Runs winHttp (α := Except Error PreparedBody) (openHandle parts) world
      (.ok prepared) world := by
  unfold openHandle
  rw [stored]
  exact .call (.ok ()) rfl (.call (.ok ()) rfl
    (.call (.ok ()) ⟨opened, rfl⟩ (.done _ _)))

theorem setCertificateOptions_runs (parts : RequestParts) :
    Runs winHttp (α := Except Error Unit) (setCertificateOptions parts) world
      (.ok ()) world := by
  have ignoring : Runs winHttp (α := Except Error Unit)
      (if parts.acceptInvalidCerts then do
        checkWin32 parts.url (← ask (.setSecurityFlags ignoredCertificateFlags))
      else pure () : RequestStep Unit) world (.ok ()) world := by
    split
    · exact .call (.ok ()) ⟨opened, rfl⟩ (.done _ _)
    · exact .done _ _
  unfold setCertificateOptions
  dsimp only
  split
  · exact .call (.ok ()) ⟨opened, rfl⟩ ignoring
  · exact ignoring

theorem configureRequest_runs {parts : RequestParts} {prepared : PreparedBody}
    (stored : storeBody parts.body = pure prepared) :
    Runs winHttp (α := Except Error PreparedBody) (configureRequest parts) world
      (.ok prepared)
      (world.withProxy
        (parts.proxyConfig.resolve parts.url.host parts.url.isHttps)) := by
  have stillOpen := fun action => (world.withProxy_closed action).trans opened
  exact (openHandle_runs opened stored).bind
    ((setProxy_runs opened parts.url _).bind
      ((setCertificateOptions_runs (stillOpen _) parts).bind (.done _ _)))

theorem addHeaders_runs (url : Url) {occurrences : List (HeaderName × HeaderValue)}
    (short : ∀ occurrence ∈ occurrences,
      utf16Length (headerLine occurrence.1.text
        (widenLatin1 occurrence.2.bytes)) ≤ u32Max) :
    let wire := occurrences.map fun occurrence =>
      (occurrence.1.text, widenLatin1 occurrence.2.bytes)
    Runs winHttp (α := Except Error Unit) (addHeaders url wire) world (.ok ())
      { world with headers := wire.foldl addReplaced world.headers } := by
  induction occurrences generalizing world with
  | nil => exact .done _ _
  | cons occurrence occurrences ih =>
    obtain ⟨name, value⟩ := occurrence
    have added : Runs winHttp (α := Except Error Unit)
        (addRequestHeader url (headerLine name.text (widenLatin1 value.bytes))) world
        (.ok ())
        { world with headers :=
          addReplaced world.headers (name.text, widenLatin1 value.bytes) } := by
      unfold addRequestHeader
      rw [if_pos (short (name, value) List.mem_cons_self)]
      exact .call (.ok ()) ⟨opened, _, winHttpAddRequestHeaders_headerLine
        name.colon_notMem value.return_notMem _, rfl⟩ (.done _ _)
    refine added.bind (ih ?_ fun other member =>
      short other (List.mem_cons_of_mem _ member))
    exact opened

theorem prepareRequest_runs {parts : RequestParts} {prepared : PreparedBody}
    {map : HeaderMap} (stored : storeBody parts.body = pure prepared)
    (carried : parts.headers = headerList map)
    (short : ∀ occurrence ∈ map.iter,
      utf16Length (headerLine occurrence.1.text
        (widenLatin1 occurrence.2.bytes)) ≤ u32Max) :
    let configured := world.withProxy
      (parts.proxyConfig.resolve parts.url.host parts.url.isHttps)
    Runs winHttp (α := Except Error PreparedBody) (prepareRequest parts) world
      (.ok prepared)
      { configured with
        headers := (headerList map).foldl addReplaced configured.headers } := by
  intro configured
  have stillOpen : configured.closed = false :=
    (world.withProxy_closed _).trans opened
  apply (configureRequest_runs opened stored).bind
  rw [carried]
  exact (addHeaders_runs stillOpen parts.url short).bind (.done _ _)

end Progress

namespace RequestWorld

def listened (world : RequestWorld) : RequestWorld :=
  { world with request := { world.request with signal := world.request.signal.listen } }

def completed (world : RequestWorld) (event : CallbackEvent) : RequestWorld :=
  { world with
    request := { world.request with signal := world.request.signal.signal event }
    operation := world.operation.completed event
    failedAborted := world.failedAborted ||
      (world.request.isAborted && world.operation.completed event == .failed) }

def sending (world : RequestWorld) : RequestWorld :=
  { world with
    sendStarted := true
    operation := .transferring
    sent := world.sent ++ [world.proxyInForce] }

end RequestWorld

/-- An operation that has started completes with any event, but only with its
cancellation when the handle was closed meanwhile. -/
theorem awaitWin32_runs {world started : RequestWorld} {start : RequestStep Unit}
    (starts : Runs winHttp (α := Except Error Unit) start world.listened (.ok ()) started)
    (signalEq : started.request.signal = world.request.signal.listen)
    (pending : started.operation.isPending = true) {event : CallbackEvent}
    (cancelled : started.closed = true →
      event = .win32Error ERROR_WINHTTP_OPERATION_CANCELLED) :
    Runs winHttp (α := Except Error CallbackEvent) (awaitWin32 start) world
      (.ok event) (started.completed event) := by
  have completes : winHttp.interfere started (.completes event) =
      some (started.completed event) :=
    if_pos ⟨pending, cancelled⟩
  have polled : (started.completed event).request.signal.poll
      world.request.signal.nextListener = some (.ok event) := by
    show (started.request.signal.signal event).poll _ = _
    rw [signalEq]
    exact CompletionSignal.poll_signal (CompletionSignal.listen_sender _) event
  refine .call _ ⟨rfl, rfl⟩ (starts.bind ?_)
  exact .interfere (.completes event) completes
    (.call (.ok event) ⟨polled, rfl⟩ (.done _ _))

theorem startSend_runs {world : RequestWorld} (opened : world.closed = false)
    (url : Url) :
    Runs winHttp (α := Except Error Unit)
      (do checkWin32 url (← ask (.sendRequest none 0 0)) : RequestStep Unit)
      world (.ok ()) world.sending :=
  .call (.ok ()) ⟨opened, rfl⟩ (.done _ _)

theorem sendAndComplete_runs {world : RequestWorld} (opened : world.closed = false)
    (notAborted : world.request.callbackAbort = .notAborted) (url : Url) :
    ∃ last : RequestWorld,
      Runs winHttp (α := Except Error Unit) (sendAndComplete url none 0 0) world
        (.error ((Error.fromWin32 ERROR_WINHTTP_CANNOT_CONNECT).withUrl url)) last ∧
      last.sent = world.sent ++ [world.proxyInForce] := by
  let event := CallbackEvent.win32Error ERROR_WINHTTP_CANNOT_CONNECT
  have listening : world.listened.closed = false := opened
  have cancelled : world.listened.sending.closed = true →
      event = .win32Error ERROR_WINHTTP_OPERATION_CANCELLED := by
    intro closed
    rw [show world.listened.sending.closed = false from opened] at closed
    cases closed
  have awaited := awaitWin32_runs (startSend_runs listening url) rfl rfl cancelled
  have noReason : none =
      (world.listened.sending.completed event).request.callbackAbort.takeReason.1 := by
    show none = world.request.callbackAbort.takeReason.1
    rw [notAborted]
    rfl
  exact ⟨_, awaited.bind (.call none ⟨noReason, rfl⟩ (.done _ _)), rfl⟩

section Outcomes

variable {parse : String → Option Url} {url : Url} {world last : RequestWorld}
  {retry : CertlessRedirectRetry} {error : Error}

/-- An error that is no certificate challenge is returned. -/
theorem onError_runs (other : CertlessRedirectRetry.isClientCertNeeded error = false) :
    Runs winHttp (α := Except Error retry.Attempted) (retry.onError parse error url)
      world (.error error) world := by
  have returned : retry.onError parse error url = fail error := by
    apply dif_neg
    intro resend
    rw [other] at resend
    cases resend.2.2
  rw [returned]
  exact .done _ _

theorem sendBody_runs_ok
    (sends : Runs winHttp (α := Except Error Unit) (sendAndComplete url none 0 0) world
      (.ok ()) last) :
    Runs winHttp (α := Except Error CertlessRedirectRetry)
      (sendBody parse url .absent retry) world (.ok retry) last := by
  have small : PreparedBody.absent.length ≤ largeBodyThreshold := Nat.zero_le _
  have examined : Runs winHttp (α := Except Error (Except Error Unit))
      (outcome (sendAndComplete url none 0 0)) world (.ok (.ok ())) last :=
    sends.bind (.done _ _)
  unfold sendBody
  split
  · next items streamed => cases streamed
  rw [if_pos small]
  exact examined.bind (.done _ _)

theorem sendBody_runs_error
    (sends : Runs winHttp (α := Except Error Unit) (sendAndComplete url none 0 0) world
      (.error error) last)
    (other : CertlessRedirectRetry.isClientCertNeeded error = false) :
    Runs winHttp (α := Except Error CertlessRedirectRetry)
      (sendBody parse url .absent retry) world (.error error) last := by
  have small : PreparedBody.absent.length ≤ largeBodyThreshold := Nat.zero_le _
  have examined : Runs winHttp (α := Except Error (Except Error Unit))
      (outcome (sendAndComplete url none 0 0)) world (.ok (.error error)) last :=
    sends.bind (.done _ _)
  have notResent : Runs winHttp (α := Except Error retry.Attempted)
      (retry.onError parse error url) last (.error error) last := onError_runs other
  unfold sendBody
  split
  · next items streamed => cases streamed
  rw [if_pos small]
  exact examined.bind (notResent.bind (.done _ _))

theorem receiveResponse_runs_error
    (receives : Runs winHttp (α := Except Error Unit) (receiveAndComplete url) world
      (.error error) last)
    (other : CertlessRedirectRetry.isClientCertNeeded error = false) :
    Runs winHttp (α := Except Error Unit) (receiveResponse parse url retry) world
      (.error error) last := by
  have examined : Runs winHttp (α := Except Error (Except Error Unit))
      (outcome (receiveAndComplete url)) world (.ok (.error error)) last :=
    receives.bind (.done _ _)
  have notResent : Runs winHttp (α := Except Error retry.Attempted)
      (retry.onError parse error url) last (.error error) last := onError_runs other
  unfold receiveResponse
  exact examined.bind (notResent.bind (.done _ _))

end Outcomes

/-- A request without a body can be sent, whatever its proxies are. -/
theorem executeRequest_runs (parse : String → Option Url) {parts : RequestParts}
    (session : ProxyAction) (bodyless : parts.body = none)
    (headerless : parts.headers = []) :
    ∃ result last,
      Runs winHttp (executeRequest parse parts) (.initial parts session) result last ∧
      last.sent = [((RequestWorld.initial parts session).withProxy
        (parts.proxyConfig.resolve parts.url.host parts.url.isHttps)).proxyInForce] := by
  let configured := (RequestWorld.initial parts session).withProxy
    (parts.proxyConfig.resolve parts.url.host parts.url.isHttps)
  have frame : configured.closed = false ∧
      configured.request.callbackAbort = .notAborted ∧ configured.sent = [] := by
    unfold configured RequestWorld.withProxy
    split <;> exact ⟨rfl, rfl, rfl⟩
  have stored : storeBody parts.body = pure .absent := by
    rw [bodyless]
    rfl
  have prepared : Runs winHttp (α := Except Error PreparedBody) (prepareRequest parts)
      (.initial parts session) (.ok .absent) configured := by
    apply (configureRequest_runs rfl stored).bind
    rw [headerless]
    exact .done _ _
  obtain ⟨last, sendFails, sent⟩ := sendAndComplete_runs frame.1 frame.2.1 parts.url
  refine ⟨_, last, prepared.bind ((sendBody_runs_error sendFails rfl).bind (.done _ _)), ?_⟩
  rw [sent, frame.2.2]
  rfl

end Wrest
