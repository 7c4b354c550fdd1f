import Wrest.RequestDeadlines
import Wrest.ResourceProtocols
import Wrest.ResponseTexts

/-!
# The use of a response

A response owns a request handle until it is released.  A client that retries gives up a
response before it starts the next attempt, and the readers of a response release it at
its end, at its deadline, or when they drop it.

A caller makes requests one after another and reads each response in any of the ways that
there are.  Nothing is read or closed that is not open, every response is closed exactly
once, and none is open when the next attempt starts.
-/

namespace Wrest.ResponseUse

open Interaction ResponseChunk Response

/-- The calls that are permitted when a response is open, or when none is. -/
def permitsCall (isOpen : Bool) : ClientCall → Prop
  | .request _ | .requestWithin _ _ => isOpen = false
  | .read | .readWithin _ | .close => isOpen = true
  | _ => True

def nextState (isOpen : Bool) : (call : ClientCall) → call.Reply → Bool
  | .request _, .ok _ => true
  | .requestWithin _ _, some (.ok _) => true
  | .close, _ => false
  | _, _ => isOpen

def responseProtocol : Protocol clientInterface Bool where
  initial := false
  permits := permitsCall
  expects _ _ := True
  next isOpen exchange := nextState isOpen exchange.call exchange.reply

/-- The ways to read a response. -/
inductive Reader
  | unread
  | chunkCalls (calls : Nat)
  | chunkLoop (limit : Nat)
  | bytes (limit : Nat)
  | text (library : MimeLibrary) (libraries : CharsetLibraries) (defaultEncoding : String)
      (limit : Nat)
  | json (fromSlice : List UInt8 → Except ErrorSource Unit) (limit : Nat)
  | stream (polls : Nat)

/-- A stream that is polled some times. -/
def pollTimes : Nat → BytesStream → ClientProgram BytesStream
  | 0, stream => pure stream
  | polls + 1, stream => do
    let (_, next) ← stream.pollNext
    pollTimes polls next

/-- Read a response and drop it.  A loop that has not ended by its limit has not dropped it
yet. -/
def Reader.read (response : Response) : Reader → ClientProgram Bool
  | .unread => do
    response.drop
    pure true
  | .chunkCalls calls => do
    let (_, last) ← response.chunkCalls calls
    last.drop
    pure true
  | .chunkLoop limit => do
    let (_, ending) ← response.chunkLoop limit
    pure ending.isSome
  | .bytes limit => do
    let result ← response.bytes limit
    pure result.isSome
  | .text library libraries defaultEncoding limit => do
    let result ← response.textWithCharset library libraries defaultEncoding limit
    pure result.isSome
  | .json fromSlice limit => do
    let result ← response.json fromSlice limit
    pure result.isSome
  | .stream polls => do
    let last ← pollTimes polls response.bytesStream
    Relay.dropStream last
    pure true

inductive SessionEnd
  | finished
  | panicked
  | reading
deriving DecidableEq

/-- Requests that are executed one after another, with the readers of their responses. -/
def session {Uri : Type} (inner : ClientInner Uri) (libraries : UrlLibraries) (latest : Nat) :
    List (Request × Reader) → ClientProgram SessionEnd
  | [] => pure .finished
  | (request, reader) :: uses => do
    match ← inner.execute libraries latest request with
    | none => pure .panicked
    | some (.error _) => session inner libraries latest uses
    | some (.ok response) => do
      let released ← reader.read response
      if released then session inner libraries latest uses else pure .reading

/-- The response holds a handle exactly if one is open. -/
def Holds (response : Response) (isOpen : Bool) : Prop :=
  isOpen = response.raw.isSome

/-- What is open when an attempt has come to a result. -/
def Owns : Option (Except Error Response) → Bool → Prop
  | some (.ok response) => Holds response
  | _ => (· = false)

/-- Whether a request has come to a response. -/
def responds : Option (Except Error RawResponse) → Bool
  | some (.ok _) => true
  | _ => false

abbrev Uses {α : Type} (before : Bool → Prop) (program : ClientProgram α)
    (after : α → Bool → Prop) : Prop :=
  responseProtocol.Respects before program after

section Readers

variable {response : Response}

/-- A call that is permitted from one state. -/
theorem uses_ask {before : Bool → Prop} {call : ClientCall} {after : call.Reply → Bool → Prop}
    (steps : ∀ isOpen, before isOpen → permitsCall isOpen call ∧
      ∀ reply, after reply (nextState isOpen call reply)) :
    Uses before (askClient call) after :=
  Protocol.respects_call after (fun isOpen holds => (steps isOpen holds).1)
    (fun isOpen reply holds _ => (steps isOpen holds).2 reply)
    fun _ => Protocol.respects_pure fun _ holds => holds

theorem takeRaw_uses :
    Uses (Holds response) response.takeRaw fun released isOpen =>
      released.raw = none ∧ isOpen = false := by
  unfold takeRaw
  cases rawEq : response.raw with
  | none =>
    refine Protocol.respects_pure fun isOpen holds => ⟨rawEq, ?_⟩
    rw [holds, rawEq]
    rfl
  | some raw =>
    have isOpen : ∀ isOpen, Holds response isOpen → isOpen = true := by
      intro isOpen holds
      rw [holds, rawEq]
      rfl
    have closes : Uses (Holds response) (askClient .close) fun _ isOpen => isOpen = false :=
      uses_ask fun state holds => ⟨isOpen state holds, fun _ => rfl⟩
    exact Protocol.Respects.bind closes fun _ =>
      Protocol.respects_pure fun _ closed => ⟨rfl, closed⟩

theorem drop_uses : Uses (Holds response) response.drop fun _ isOpen => isOpen = false :=
  Protocol.Respects.bind takeRaw_uses fun _ =>
    Protocol.respects_pure fun _ released => released.2

/-- A response that was released, with what is returned along with it. -/
theorem release_uses {α : Type} (value : α) :
    Uses (Holds response) (do
      let released ← response.takeRaw
      pure (value, released)) fun returned => Holds returned.2 := by
  refine Protocol.Respects.bind takeRaw_uses fun released =>
    Protocol.respects_pure fun isOpen taken => ?_
  rw [Holds, taken.1, taken.2]
  rfl

theorem settle_uses (result : Option ChunkResult) :
    Uses (Holds response) (response.settle result) fun returned =>
      Holds returned.2 := by
  rcases result with _ | (error | (_ | bytes))
  · exact release_uses _
  · exact Protocol.respects_pure fun _ holds => holds
  · exact release_uses _
  · exact Protocol.respects_pure fun _ holds => holds

theorem keeps_ask {isOpen : Bool} {call : ClientCall} (permitted : permitsCall isOpen call)
    (kept : ∀ reply, nextState isOpen call reply = isOpen) :
    Uses (· = isOpen) (askClient call) fun _ => (· = isOpen) := by
  refine uses_ask ?_
  rintro _ rfl
  exact ⟨permitted, kept⟩

/-- A read of an open response leaves it open. -/
theorem readUntil_uses (url : Url) (deadline : Option Nat) :
    Uses (· = true) (readUntil url deadline) fun _ => (· = true) := by
  cases deadline with
  | none =>
    exact Protocol.Respects.bind (keeps_ask rfl fun _ => rfl) fun _ =>
      Protocol.respects_pure fun _ holds => holds
  | some deadline =>
    refine Protocol.Respects.bind (keeps_ask trivial fun _ => rfl) fun now => ?_
    dsimp only
    split
    · exact Protocol.respects_pure fun _ holds => holds
    · refine Protocol.Respects.bind (keeps_ask rfl fun _ => rfl) fun completion => ?_
      cases completion with
      | none => exact Protocol.respects_pure fun _ holds => holds
      | some completion => exact Protocol.respects_pure fun _ holds => holds

theorem chunk_uses :
    Uses (Holds response) response.chunk fun returned => Holds returned.2 := by
  cases rawEq : response.raw with
  | none =>
    rw [chunk_of_taken rawEq]
    exact Protocol.respects_pure fun _ holds => holds
  | some raw =>
    have isOpen : ∀ isOpen, Holds response isOpen ↔ isOpen = true := by
      intro isOpen
      rw [Holds, rawEq]
      rfl
    simp only [chunk, rawEq]
    refine Protocol.Respects.bind
      ((readUntil_uses raw.url response.deadline).mono (fun state => (isOpen state).mp)
        fun _ _ holds => holds) fun result => ?_
    exact (settle_uses result).mono (fun state => (isOpen state).mpr) fun _ _ holds => holds

theorem chunkCalls_uses (calls : Nat) :
    Uses (Holds response) (response.chunkCalls calls) fun returned => Holds returned.2 := by
  induction calls generalizing response with
  | zero => exact Protocol.respects_pure fun _ holds => holds
  | succ calls ih =>
    exact Protocol.Respects.bind chunk_uses fun _ => Protocol.Respects.bind ih fun _ =>
      Protocol.respects_pure fun _ holds => holds

/-- A loop that has ended has dropped the response. -/
theorem chunkLoop_uses (limit : Nat) :
    Uses (Holds response) (response.chunkLoop limit) fun returned isOpen =>
      returned.2.isSome = true → isOpen = false := by
  induction limit generalizing response with
  | zero =>
    refine Protocol.respects_pure fun _ _ impossible => ?_
    cases impossible
  | succ limit ih =>
    refine Protocol.Respects.bind chunk_uses fun returned => ?_
    obtain ⟨error | (_ | bytes), next⟩ := returned
    · exact Protocol.Respects.bind drop_uses fun _ =>
        Protocol.respects_pure fun _ closed _ => closed
    · exact Protocol.Respects.bind drop_uses fun _ =>
        Protocol.respects_pure fun _ closed _ => closed
    · exact Protocol.Respects.bind ih fun _ => Protocol.respects_pure fun _ ended => ended

theorem collectParts_uses (limit : Nat) (parts : List ChunkBytes) (totalLength : Nat) :
    Uses (Holds response) (collectParts limit parts totalLength response) fun returned =>
      Holds returned.2 := by
  induction limit generalizing response parts totalLength with
  | zero => exact Protocol.respects_pure fun _ holds => holds
  | succ limit ih =>
    refine Protocol.Respects.bind chunk_uses fun returned => ?_
    obtain ⟨error | (_ | bytes), next⟩ := returned
    · exact Protocol.respects_pure fun _ holds => holds
    · exact release_uses _
    · dsimp only
      split
      · exact ih _ _
      · exact Protocol.respects_pure fun _ holds => holds

/-- A reader of the whole body has dropped the response when it returns a result. -/
theorem readWhole_uses {α : Type} (finish : List UInt8 → Except Error α) (limit : Nat) :
    Uses (Holds response) (response.readWhole finish limit) fun result isOpen =>
      result.isSome = true → isOpen = false := by
  refine Protocol.Respects.bind (collectParts_uses limit [] 0) fun returned => ?_
  obtain ⟨_ | result, last⟩ := returned
  · refine Protocol.respects_pure fun _ _ impossible => ?_
    cases impossible
  · exact Protocol.Respects.bind drop_uses fun _ =>
      Protocol.respects_pure fun _ closed _ => closed

theorem bytes_uses (limit : Nat) :
    Uses (Holds response) (response.bytes limit) fun result isOpen =>
      result.isSome = true → isOpen = false := by
  refine Protocol.Respects.bind (collectParts_uses limit [] 0) fun returned => ?_
  obtain ⟨_ | result, last⟩ := returned
  · refine Protocol.respects_pure fun _ _ impossible => ?_
    cases impossible
  · exact Protocol.Respects.bind drop_uses fun _ =>
      Protocol.respects_pure fun _ closed _ => closed

/-- The stream holds the response of which it is made, until it ends. -/
def HoldsStream : BytesStream → Bool → Prop
  | .value (some response) => Holds response
  | .value none | .finished => (· = false)

theorem pollNext_uses (stream : BytesStream) :
    Uses (HoldsStream stream) stream.pollNext fun returned => HoldsStream returned.2 := by
  rcases stream with (_ | response) | _
  · exact Protocol.respects_pure fun _ closed => closed
  · refine Protocol.Respects.bind chunk_uses fun returned => ?_
    obtain ⟨error | (_ | bytes), next⟩ := returned
    · exact Protocol.Respects.bind drop_uses fun _ =>
        Protocol.respects_pure fun _ closed => closed
    · exact Protocol.Respects.bind drop_uses fun _ =>
        Protocol.respects_pure fun _ closed => closed
    · exact Protocol.respects_pure fun _ holds => holds
  · exact Protocol.respects_pure fun _ closed => closed

theorem pollTimes_uses (polls : Nat) (stream : BytesStream) :
    Uses (HoldsStream stream) (pollTimes polls stream) HoldsStream := by
  induction polls generalizing stream with
  | zero => exact Protocol.respects_pure fun _ holds => holds
  | succ polls ih =>
    exact Protocol.Respects.bind (pollNext_uses stream) fun returned => ih returned.2

theorem dropStream_uses (stream : BytesStream) :
    Uses (HoldsStream stream) (Relay.dropStream stream) fun _ isOpen => isOpen = false := by
  rcases stream with (_ | response) | _
  · exact Protocol.respects_pure fun _ closed => closed
  · exact drop_uses
  · exact Protocol.respects_pure fun _ closed => closed

/-- However a response is read, it is released when the reader is done with it. -/
theorem read_uses (reader : Reader) :
    Uses (Holds response) (reader.read response) fun released isOpen =>
      released = true → isOpen = false := by
  cases reader with
  | unread =>
    exact Protocol.Respects.bind drop_uses fun _ =>
      Protocol.respects_pure fun _ closed _ => closed
  | chunkCalls calls =>
    exact Protocol.Respects.bind (chunkCalls_uses calls) fun _ =>
      Protocol.Respects.bind drop_uses fun _ =>
        Protocol.respects_pure fun _ closed _ => closed
  | chunkLoop limit =>
    exact Protocol.Respects.bind (chunkLoop_uses limit) fun _ =>
      Protocol.respects_pure fun _ ended => ended
  | bytes limit =>
    exact Protocol.Respects.bind (bytes_uses limit) fun _ =>
      Protocol.respects_pure fun _ ended => ended
  | text library libraries defaultEncoding limit =>
    exact Protocol.Respects.bind (readWhole_uses _ limit) fun _ =>
      Protocol.respects_pure fun _ ended => ended
  | json fromSlice limit =>
    exact Protocol.Respects.bind (readWhole_uses _ limit) fun _ =>
      Protocol.respects_pure fun _ ended => ended
  | stream polls =>
    exact Protocol.Respects.bind (pollTimes_uses polls response.bytesStream) fun last =>
      Protocol.Respects.bind (dropStream_uses last) fun _ =>
        Protocol.respects_pure fun _ closed _ => closed

end Readers

section Execution

variable {Uri : Type} {inner : ClientInner Uri} {libraries : UrlLibraries}

theorem dropResult_uses (result : Except Error Response) :
    Uses (Owns (some result)) (ClientInner.dropResult result) fun _ isOpen =>
      isOpen = false := by
  cases result with
  | ok response => exact drop_uses
  | error error => exact Protocol.respects_pure fun _ closed => closed

theorem respond_uses (raw : RawResponse) (deadline : Option Nat) :
    Uses (· = true) (inner.respond libraries raw deadline) fun result =>
      Owns (some result) := by
  unfold ClientInner.respond
  split
  · refine Protocol.Respects.bind (drop_uses.mono ?_ fun _ _ closed => closed) fun _ =>
      Protocol.respects_pure fun _ closed => closed
    rintro _ rfl
    rfl
  · refine Protocol.respects_pure ?_
    rintro _ rfl
    rfl

theorem raceRequest_uses (parts : RequestParts) (timeout : Option Nat) :
    Uses (· = false) (ClientInner.raceRequest parts timeout) fun result isOpen =>
      isOpen = responds result := by
  cases timeout with
  | none =>
    have asks : Uses (· = false) (askClient (.request parts)) fun result isOpen =>
        isOpen = responds (some result) := by
      refine uses_ask ?_
      rintro _ rfl
      exact ⟨rfl, fun result => by cases result <;> rfl⟩
    exact Protocol.Respects.bind asks fun _ => Protocol.respects_pure fun _ holds => holds
  | some timeout =>
    refine uses_ask ?_
    rintro _ rfl
    refine ⟨rfl, fun result => ?_⟩
    rcases result with _ | (_ | _) <;> rfl

/-- An attempt starts when nothing is open. -/
theorem executeInner_uses (request : Request) (body : Option Body) (deadline : Option Nat) :
    Uses (· = false) (inner.executeInner libraries request body deadline) fun result =>
      Owns (some result) := by
  unfold ClientInner.executeInner
  split
  · exact Protocol.respects_pure fun _ closed => closed
  · have remaining : Uses (· = false) (ClientInner.remainingTimeout deadline) fun _ =>
        (· = false) := by
      cases deadline with
      | none => exact Protocol.respects_pure fun _ closed => closed
      | some deadline =>
        exact Protocol.Respects.bind (keeps_ask trivial fun _ => rfl) fun _ =>
          Protocol.respects_pure fun _ closed => closed
    refine Protocol.Respects.bind remaining fun remaining => ?_
    split
    · exact Protocol.respects_pure fun _ closed => closed
    · refine Protocol.Respects.bind (raceRequest_uses _ remaining) fun result => ?_
      rcases result with _ | (error | raw)
      · exact Protocol.respects_pure fun _ closed => closed
      · exact Protocol.respects_pure fun _ closed => closed
      · exact respond_uses raw deadline

theorem canWithdraw_uses (before : Bool → Prop) :
    Uses before inner.canWithdraw fun _ => before := by
  unfold ClientInner.canWithdraw
  split
  · exact Protocol.respects_pure fun _ holds => holds
  · exact uses_ask fun _ holds => ⟨trivial, fun _ => holds⟩

theorem deposit_uses (before : Bool → Prop) : Uses before inner.deposit fun _ => before := by
  unfold ClientInner.deposit
  split
  · exact Protocol.respects_pure fun _ holds => holds
  · exact uses_ask fun _ holds => ⟨trivial, fun _ => holds⟩

/-- A response that is not returned is released before the next attempt. -/
theorem retryLoop_uses (request : Request) (deadline : Option Nat) (retries : Nat) :
    Uses (· = false) (inner.retryLoop libraries request deadline retries) Owns := by
  induction retries with
  | zero =>
    unfold ClientInner.retryLoop
    exact Protocol.Respects.bind (executeInner_uses request _ deadline) fun _ =>
      Protocol.respects_pure fun _ holds => holds
  | succ remainingRetries ih =>
    unfold ClientInner.retryLoop
    generalize ClientInner.bodyToSend request.body (remainingRetries + 1) = sent
    obtain ⟨body, canRetry⟩ := sent
    refine Protocol.Respects.bind (executeInner_uses request body deadline) fun result => ?_
    cases canRetry with
    | false => exact Protocol.respects_pure fun _ holds => holds
    | true =>
      have classifies : Uses (Owns (some result)) (askClient (.classify result)) fun _ =>
          Owns (some result) := uses_ask fun _ holds => ⟨trivial, fun _ => holds⟩
      refine Protocol.Respects.bind classifies fun action => ?_
      rcases action with _ | (_ | _)
      · exact Protocol.Respects.bind (dropResult_uses result) fun _ =>
          Protocol.respects_pure fun _ closed => closed
      · exact Protocol.respects_pure fun _ holds => holds
      · refine Protocol.Respects.bind (canWithdraw_uses _) fun permitted => ?_
        cases permitted with
        | false => exact Protocol.respects_pure fun _ holds => holds
        | true => exact Protocol.Respects.bind (dropResult_uses result) fun _ => ih

theorem execute_uses (latest : Nat) (request : Request) :
    Uses (· = false) (inner.execute libraries latest request) Owns := by
  have deadline : Uses (· = false)
      (ClientInner.deadlineOf latest (request.timeout.or inner.totalTimeout)) fun _ =>
        (· = false) := by
    unfold ClientInner.deadlineOf
    split
    · exact Protocol.Respects.bind (keeps_ask trivial fun _ => rfl) fun _ =>
        Protocol.respects_pure fun _ closed => closed
    · exact Protocol.respects_pure fun _ closed => closed
  refine Protocol.Respects.bind deadline fun deadline => ?_
  have attempts : Uses (· = false) (inner.attempts libraries request deadline) Owns := by
    unfold ClientInner.attempts
    split
    · exact Protocol.Respects.bind (executeInner_uses request _ deadline) fun _ =>
        Protocol.respects_pure fun _ holds => holds
    · exact retryLoop_uses request deadline _
  exact Protocol.Respects.bind attempts fun result =>
    Protocol.Respects.bind (deposit_uses _) fun _ =>
      Protocol.respects_pure fun _ holds => holds

theorem session_uses (latest : Nat) (uses : List (Request × Reader)) :
    Uses (· = false) (session inner libraries latest uses) fun ending isOpen =>
      ending ≠ .reading → isOpen = false := by
  induction uses with
  | nil => exact Protocol.respects_pure fun _ closed _ => closed
  | cons use uses ih =>
    obtain ⟨request, reader⟩ := use
    refine Protocol.Respects.bind (execute_uses latest request) fun result => ?_
    rcases result with _ | (error | response)
    · exact Protocol.respects_pure fun _ closed _ => closed
    · exact ih
    · refine Protocol.Respects.bind (read_uses reader) fun released => ?_
      cases released with
      | false => exact Protocol.respects_pure fun _ _ other => absurd rfl other
      | true => exact ih.mono (fun _ closed => closed rfl) fun _ _ holds => holds

end Execution

/-- Exchanges that open a response. -/
def opens : Exchange clientInterface → Bool
  | ⟨.request _, .ok _⟩ => true
  | ⟨.requestWithin _ _, some (.ok _)⟩ => true
  | _ => false

def closes : Exchange clientInterface → Bool
  | ⟨.close, _⟩ => true
  | _ => false

/-- The state counts the response that is open. -/
theorem counts_of_permits {isOpen : Bool} {exchange : Exchange clientInterface}
    (permitted : permitsCall isOpen exchange.call) :
    isOpen.toNat + (opens exchange).toNat =
      (closes exchange).toNat + (nextState isOpen exchange.call exchange.reply).toNat := by
  obtain ⟨call, reply⟩ := exchange
  cases call with
  | request parts =>
    obtain rfl : isOpen = false := permitted
    cases reply <;> rfl
  | requestWithin parts timeout =>
    obtain rfl : isOpen = false := permitted
    rcases reply with _ | (_ | _) <;> rfl
  | close =>
    obtain rfl : isOpen = true := permitted
    rfl
  | _ => exact Nat.add_comm isOpen.toNat 0

/-- As many responses were closed as were opened, but for the one that is open. -/
theorem countP_opens {history : ClientTrace}
    (follows : Follows (fun history exchange =>
      responseProtocol.permits (responseProtocol.after history) exchange.call) [] history) :
    history.countP opens = history.countP closes + (responseProtocol.after history).toNat := by
  induction history using List.reverseRecOn with
  | nil => rfl
  | append_singleton history exchange ih =>
    obtain ⟨before, last⟩ := follows_append.mp follows
    have counts := counts_of_permits last.1
    have counted : ∀ kind : Bool, (if kind = true then 1 else 0) = kind.toNat := by decide
    rw [List.countP_append, List.countP_append, List.countP_singleton, List.countP_singleton,
      counted, counted, ih before, Protocol.after_concat, Nat.add_assoc]
    exact (congrArg _ counts).trans (Nat.add_assoc ..).symm

/-- What holds of the exchanges of a session. -/
structure ReleasesResponses (trace : ClientTrace) (ending : SessionEnd) : Prop where
  permitted : Follows (fun history exchange =>
    permitsCall (responseProtocol.after history) exchange.call) [] trace
  closed : ∀ before after, trace = before ++ after →
    before.countP closes ≤ before.countP opens ∧
      before.countP opens ≤ before.countP closes + 1
  released : ending ≠ .reading → trace.countP opens = trace.countP closes

/-- In every session of a client, whatever is replied: a response is read and closed only
while it is open, no attempt starts while a response is open, and unless the session stops
in the middle of a response, every response that was opened has been closed, once. -/
theorem session_releases {Uri : Type} {inner : ClientInner Uri} {libraries : UrlLibraries}
    {latest : Nat} {uses : List (Request × Reader)} {trace : ClientTrace} {ending : SessionEnd}
    (traces : Traces (session inner libraries latest uses) trace ending) :
    ReleasesResponses trace ending := by
  obtain ⟨permitted, closed⟩ := (session_uses latest uses).traces rfl traces
    (follows_of_forall fun _ _ => trivial)
  refine ⟨permitted, ?_, fun done => ?_⟩
  · intro before after split
    rw [split] at permitted
    have counts := countP_opens (follows_append.mp permitted).1
    have atMost : (responseProtocol.after before).toNat ≤ 1 := Bool.toNat_le _
    omega
  · have counts := countP_opens permitted
    rw [closed done] at counts
    exact counts

/-- A client that retries once. -/
def retryingClient : ClientInner Unit where
  toClient :=
    { exampleClient .empty with
      retryPolicy := { budget := none, classify := none, maxRetriesPerRequest := 1,
                       scope := none } }
  redirectFollows := false

/-- A response is given up for another attempt, whose response is dropped unread. -/
def givenUp : ClientTrace :=
  [⟨.request plainParts, (.ok foundResponse : Except Error RawResponse)⟩,
    ⟨.classify (.ok (.fromRaw foundResponse none)), some Retry.Action.retryable⟩,
    ⟨.close, ()⟩, ⟨.request plainParts, (.ok foundResponse : Except Error RawResponse)⟩,
    ⟨.close, ()⟩]

theorem session_releases_givenUp :
    ReleasesResponses givenUp .finished ∧ givenUp.countP closes = 2 := by
  have traces : Traces (session retryingClient Url.grammarLibraries 1000
      [(.new "GET" (bareUrl true), .unread)]) givenUp .finished :=
    .call _ (.call _ (.call _ (.call _ (.call _ (.done _)))))
  exact ⟨session_releases traces, rfl⟩

end Wrest.ResponseUse
