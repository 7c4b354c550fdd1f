import Wrest.ResponseBodies
import Wrest.TraceGuarantees
import Wrest.BuiltHeaders
import Wrest.UrlRoundTrips

/-!
# The deadline of a request

`Client::execute` turns the total timeout into one deadline, which its attempts share with
the reads of the response.  Before each attempt and each read the client takes the time,
and either fails with a timeout or races what it starts against the time that remains.

A caller executes a request and calls `chunk` on the response.  Its traces are checked for
what may follow a reading of the clock, and for what may follow the end of the body.
-/

namespace Wrest

open Interaction ResponseChunk

namespace HeaderName

def location : HeaderName :=
  ⟨"location", List.all_eq_true.mp (by decide), by decide, by decide⟩

end HeaderName

/-- The first value of a name. -/
def HeaderMap.get (map : HeaderMap) (name : HeaderName) : Option HeaderValue :=
  (map.entries.find? fun entry => entry.1 = name).map fun entry => entry.2.1

def HeaderValue.toStr (value : HeaderValue) : Option String :=
  if value.bytes.all isVisibleAscii then some (widenLatin1 value.bytes) else none

def Error.redirect (source : ErrorSource) : Error :=
  .withKind .redirect source

/-- `translate_blocked_https_downgrade`. -/
def translateBlockedHttpsDowngrade (libraries : UrlLibraries) (raw : RawResponse) :
    Option Error :=
  if raw.status / 100 ≠ 3 || !raw.url.isHttps then
    none
  else do
    let value ← raw.headers.get .location
    let location ← value.toStr
    let target ← (raw.url.join libraries location).toOption
    if target.isHttps then
      none
    else
      some ((Error.redirect (.message
        "https->http redirect blocked by redirect policy")).withUrl raw.url)

/-- The client, with the setting that only the execution of a request uses. -/
structure ClientInner (Uri : Type) extends Client Uri where
  redirectFollows : Bool

namespace ClientInner

variable {Uri : Type} (inner : ClientInner Uri) (libraries : UrlLibraries)

def requestTimeout (url : Url) : Error :=
  (Error.timeout (.message "total request timeout elapsed")).withUrl url

def remainingTimeout : Option Nat → ClientProgram (Option Nat)
  | some deadline => do
    let now : Nat ← askClient .now
    pure (some (deadline - now))
  | none => pure none

/-- The request, raced against the total timeout if there is one. -/
def raceRequest (parts : RequestParts) :
    Option Nat → ClientProgram (Option (Except Error RawResponse))
  | some timeout => askClient (.requestWithin parts timeout)
  | none => do
    let result ← askClient (.request parts)
    pure (some result)

/-- The end of `execute_inner`. -/
def respond (raw : RawResponse) (deadline : Option Nat) :
    ClientProgram (Except Error Response) :=
  match if inner.redirectFollows then translateBlockedHttpsDowngrade libraries raw
    else none with
  | some error => do
    (Response.fromRaw raw deadline).drop
    pure (.error error)
  | none => pure (.ok (.fromRaw raw deadline))

/-- `execute_inner`: one attempt. -/
def executeInner (request : Request) (body : Option Body) (deadline : Option Nat) :
    ClientProgram (Except Error Response) :=
  if inner.httpsOnly && !request.url.isHttps then
    pure (.error ((Error.builder (.message "URL scheme is not allowed")).withUrl
      request.url))
  else do
    let remaining ← remainingTimeout deadline
    if remaining = some 0 then
      pure (.error (requestTimeout request.url))
    else
      let parts : RequestParts :=
        { url := request.url
          method := request.method
          headers := headerList request.headers
          body
          proxyConfig := inner.proxyConfig
          acceptInvalidCerts := inner.acceptInvalidCerts }
      match ← raceRequest parts remaining with
      | none => pure (.error (requestTimeout request.url))
      | some (.error error) => pure (.error error)
      | some (.ok raw) => inner.respond libraries raw deadline

/-- The body to send next, and whether another attempt could follow. -/
def bodyToSend (body : Option Body) (remainingRetries : Nat) : Option Body × Bool :=
  if remainingRetries > 0 then
    match body with
    | some body =>
      match body.tryClone with
      | some cloned => (some cloned, true)
      | none => (some body, false)
    | none => (none, true)
  else
    (body, false)

def canWithdraw : ClientProgram Bool :=
  match inner.retryPolicy.budget with
  | none => pure true
  | some _ => askClient .canWithdraw

def deposit : ClientProgram Unit :=
  match inner.retryPolicy.budget with
  | none => pure ()
  | some _ => askClient .deposit

/-- The drop of a result that is not returned. -/
def dropResult : Except Error Response → ClientProgram Unit
  | .ok response => response.drop
  | .error _ => pure ()

/-- The retry loop; `none` is a panic of the classifier. -/
def retryLoop (request : Request) (deadline : Option Nat) :
    Nat → ClientProgram (Option (Except Error Response))
  | 0 => do
    let result ← inner.executeInner libraries request (bodyToSend request.body 0).1 deadline
    pure (some result)
  | remainingRetries + 1 => do
    let (body, canRetry) := bodyToSend request.body (remainingRetries + 1)
    let result ← inner.executeInner libraries request body deadline
    if canRetry then
      match ← askClient (.classify result) with
      | none => do
        dropResult result
        pure none
      | some .success => pure (some result)
      | some .retryable =>
        if ← inner.canWithdraw then do
          dropResult result
          retryLoop request deadline remainingRetries
        else
          pure (some result)
    else
      pure (some result)

/-- `Instant::checked_add`, with the latest time that can be represented. -/
def checkedDeadline (latest now timeout : Nat) : Option Nat :=
  if now + timeout ≤ latest then some (now + timeout) else none

def deadlineOf (latest : Nat) : Option Nat → ClientProgram (Option Nat)
  | some timeout => do
    let now : Nat ← askClient .now
    pure (checkedDeadline latest now timeout)
  | none => pure none

/-- The attempts of `execute`; without retries there is one. -/
def attempts (request : Request) (deadline : Option Nat) :
    ClientProgram (Option (Except Error Response)) :=
  if inner.retryPolicy.maxRetries = 0 then do
    let result ← inner.executeInner libraries request request.body deadline
    pure (some result)
  else
    inner.retryLoop libraries request deadline inner.retryPolicy.maxRetries

/-- `Client::execute` once the deadline is known. -/
def executeUntil (request : Request) (deadline : Option Nat) :
    ClientProgram (Option (Except Error Response)) := do
  let result ← inner.attempts libraries request deadline
  inner.deposit
  pure result

/-- `Client::execute`. -/
def execute (latest : Nat) (request : Request) :
    ClientProgram (Option (Except Error Response)) := do
  let deadline ← deadlineOf latest (request.timeout.or inner.totalTimeout)
  inner.executeUntil libraries request deadline

end ClientInner

/-- Calls of `chunk`, each with a note of what it returned. -/
def readChunks : Nat → Response → ClientProgram Unit
  | 0, _ => pure ()
  | chunks + 1, response => do
    let (result, next) ← response.chunk
    askClient (.chunked result)
    readChunks chunks next

/-- The caller notes the result and calls `chunk` on the response. -/
def readResult (chunks : Nat) (result : Option (Except Error Response)) :
    ClientProgram Unit := do
  askClient (.executed result)
  match result with
  | some (.ok response) => readChunks chunks response
  | _ => pure ()

/-- A caller that executes a request and reads the response. -/
def ClientInner.use {Uri : Type} (inner : ClientInner Uri) (libraries : UrlLibraries)
    (latest : Nat) (request : Request) (chunks : Nat) : ClientProgram Unit := do
  let result ← inner.execute libraries latest request
  readResult chunks result

/-- The timeout that a started request or read is raced against. -/
def ClientCall.race : ClientCall → Option (Option Nat)
  | .request _ | .read => some none
  | .requestWithin _ timeout | .readWithin timeout => some (some timeout)
  | _ => none

def ClientCall.isBookkeeping : ClientCall → Bool
  | .canWithdraw | .deposit | .close => true
  | _ => false

/-- A reading stands until something other than the release of a handle or a deposit
follows it. -/
def noteReading (reading : Option Nat) (exchange : Exchange clientInterface) : Option Nat :=
  match exchange with
  | { call := .now, reply := now } => some now
  | { call := .deposit, .. } | { call := .close, .. } => reading
  | _ => none

def openReading (history : ClientTrace) : Option Nat :=
  history.foldl noteReading none

/-- An attempt or a call of `chunk` comes to the timeout of the client. -/
inductive TimesOut : ClientCall → Prop
  | classified (url : Url) : TimesOut (.classify (.error (ClientInner.requestTimeout url)))
  | executed (url : Url) :
      TimesOut (.executed (some (.error (ClientInner.requestTimeout url))))
  | chunked (url : Url) : TimesOut (.chunked (.error (Response.bodyTimeout url)))

/-- A call of `chunk` reports the end of the body, or that the deadline has passed. -/
inductive EndsBody : ClientCall → Prop
  | endOfBody : EndsBody (.chunked (.ok none))
  | timedOut (url : Url) : EndsBody (.chunked (.error (Response.bodyTimeout url)))

/-- The execution has returned. -/
def Executed (history : ClientTrace) : Prop :=
  ∃ result, ∃ earlier ∈ history, earlier.call = .executed result

/-- What may follow a history under the deadline. -/
structure KeepsDeadline (deadline : Nat) (history : ClientTrace)
    (exchange : Exchange clientInterface) : Prop where
  starts : ∀ timeout, exchange.call.race = some timeout →
    ∃ (earlier : ClientTrace) (now : Nat), history = earlier ++ [⟨.now, now⟩] ∧
      now < deadline ∧ timeout = some (deadline - now)
  expires : ∀ now, openReading history = some now → deadline ≤ now →
    TimesOut exchange.call ∨ exchange.call = .deposit ∨
      exchange.call = .close ∧ Executed history
  released : (∃ earlier ∈ history, EndsBody earlier.call) →
    exchange.call = .chunked (.error Response.alreadyConsumed)

/-- No call of `chunk` has reported the end of the body or of the time. -/
def Unreleased (history : ClientTrace) : Prop :=
  ∀ earlier ∈ history, ¬EndsBody earlier.call

/-- No reading stands, and the body has not ended. -/
structure Settled (history : ClientTrace) : Prop where
  closed : openReading history = none
  unreleased : Unreleased history

/-- An attempt, or an execution, has come to a result, which is a timeout if its reading of
the clock still stands. -/
structure ComesTo (deadline : Nat) (result : Option (Except Error Response))
    (history : ClientTrace) : Prop where
  unreleased : Unreleased history
  expired : ∀ now, openReading history = some now →
    deadline ≤ now ∧ ∃ url, result = some (.error (ClientInner.requestTimeout url))
  bounded : ∀ response, result = some (.ok response) → response.deadline = some deadline

/-- From the precondition, the exchanges of the program keep the deadline and leave the
postcondition. -/
def Keeps {α : Type} (deadline : Nat) (before : ClientTrace → Prop)
    (program : ClientProgram α) (after : α → ClientTrace → Prop) : Prop :=
  Guarantees (fun _ _ => True) (KeepsDeadline deadline) before program after

section Rules

variable {α β : Type} {deadline : Nat} {history : ClientTrace}
  {exchange : Exchange clientInterface} {before : ClientTrace → Prop}

theorem openReading_concat :
    openReading (history ++ [exchange]) = noteReading (openReading history) exchange :=
  List.foldl_concat ..

theorem Unreleased.concat (unreleased : Unreleased history)
    (continues : ¬EndsBody exchange.call) : Unreleased (history ++ [exchange]) := by
  intro earlier member
  rcases List.mem_append.mp member with known | last
  · exact unreleased earlier known
  · rw [List.mem_singleton.mp last]
    exact continues

theorem Unreleased.not_exists (unreleased : Unreleased history) :
    ¬∃ earlier ∈ history, EndsBody earlier.call :=
  fun ⟨earlier, member, ends⟩ => unreleased earlier member ends

theorem not_stands (closed : openReading history = none) {now : Nat} :
    openReading history ≠ some now := by
  rw [closed]
  rintro ⟨⟩

/-- A call that starts nothing may follow a settled history. -/
theorem Settled.keeps (settled : Settled history) (quiet : exchange.call.race = none) :
    KeepsDeadline deadline history exchange where
  starts := by
    intro timeout starts
    rw [quiet] at starts
    cases starts
  expires := fun _ stands => absurd stands (not_stands settled.closed)
  released := fun ends => absurd ends settled.unreleased.not_exists

theorem Settled.concat (settled : Settled history) (timeless : exchange.call ≠ .now)
    (continues : ¬EndsBody exchange.call) : Settled (history ++ [exchange]) where
  closed := by
    rw [openReading_concat, settled.closed]
    obtain ⟨call, reply⟩ := exchange
    cases call with
    | now => exact absurd rfl timeless
    | _ => rfl
  unreleased := settled.unreleased.concat continues

theorem keeps_ask {call : ClientCall} {middle : call.Reply → ClientTrace → Prop}
    (steps : ∀ history reply, before history → KeepsDeadline deadline history ⟨call, reply⟩ ∧
      middle reply (history ++ [⟨call, reply⟩])) :
    Keeps deadline before (askClient call) middle :=
  guarantees_call (fun history reply holds _ => steps history reply holds)
    fun _ => guarantees_pure fun _ holds => holds

theorem keeps_of_fact {fact : Prop} {program : ClientProgram α}
    {after : α → ClientTrace → Prop} (keeps : fact → Keeps deadline before program after) :
    Keeps deadline (fun history => before history ∧ fact) program after :=
  fun history trace value holds => keeps holds.2 history trace value holds.1

/-- Calls that start nothing leave a settled history settled. -/
theorem keeps_bookkeeping {program : ClientProgram α}
    (makes : program.Makes fun call => ClientCall.isBookkeeping call = true) :
    Keeps deadline Settled program fun _ => Settled := by
  refine guarantees_of_makes makes fun history exchange settled allowed => ?_
  obtain ⟨call, reply⟩ := exchange
  cases call with
  | canWithdraw | deposit | close =>
    exact ⟨settled.keeps rfl, settled.concat (by rintro ⟨⟩) (by rintro ⟨⟩)⟩
  | _ => cases allowed

theorem Settled.comesTo (settled : Settled history)
    {result : Option (Except Error Response)}
    (bounded : ∀ response, result = some (.ok response) → response.deadline = some deadline) :
    ComesTo deadline result history where
  unreleased := settled.unreleased
  expired := fun _ stands => absurd stands (not_stands settled.closed)
  bounded := bounded

/-- An attempt that fails for another reason than the time. -/
theorem keeps_failed (error : Error) :
    Keeps deadline Settled (pure (.error error)) fun result =>
      ComesTo deadline (some result) := by
  refine guarantees_pure fun history settled => settled.comesTo ?_
  rintro response ⟨⟩

end Rules

section Execution

variable {Uri : Type} {inner : ClientInner Uri} {libraries : UrlLibraries}
  {request : Request} {deadline : Nat}

theorem takeRaw_makes (response : Response) :
    response.takeRaw.Makes fun call => ClientCall.isBookkeeping call = true := by
  unfold Response.takeRaw
  split
  · exact ⟨rfl, fun _ => trivial⟩
  · trivial

theorem drop_makes (response : Response) :
    response.drop.Makes fun call => ClientCall.isBookkeeping call = true :=
  (takeRaw_makes response).bind fun _ => trivial

theorem dropResult_makes (result : Except Error Response) :
    (ClientInner.dropResult result).Makes fun call =>
      ClientCall.isBookkeeping call = true := by
  cases result with
  | ok response => exact drop_makes response
  | error error => trivial

theorem canWithdraw_makes :
    inner.canWithdraw.Makes fun call => ClientCall.isBookkeeping call = true := by
  unfold ClientInner.canWithdraw
  split
  · trivial
  · exact ⟨rfl, fun _ => trivial⟩

theorem keeps_respond (raw : RawResponse) :
    Keeps deadline Settled (inner.respond libraries raw (some deadline)) fun result =>
      ComesTo deadline (some result) := by
  unfold ClientInner.respond
  split
  · exact Guarantees.bind (keeps_bookkeeping (drop_makes _)) fun _ => keeps_failed _
  · refine guarantees_pure fun history settled => settled.comesTo ?_
    rintro response ⟨⟩
    rfl

/-- A reading of the clock has just been taken. -/
structure Read (now : Nat) (history : ClientTrace) : Prop where
  last : ∃ earlier, history = earlier ++ [⟨.now, now⟩]
  unreleased : Unreleased history

theorem Read.stands {now : Nat} {history : ClientTrace} (read : Read now history) :
    openReading history = some now := by
  obtain ⟨earlier, rfl⟩ := read.last
  exact openReading_concat

theorem Read.eq_of_stands {now other : Nat} {history : ClientTrace}
    (read : Read now history) (stands : openReading history = some other) : other = now :=
  Option.some.inj (stands.symm.trans read.stands)

theorem keeps_now :
    Keeps deadline Settled (askClient .now) fun now => Read now :=
  keeps_ask fun history now settled =>
    ⟨settled.keeps rfl, ⟨history, rfl⟩, settled.unreleased.concat (by rintro ⟨⟩)⟩

/-- What is started in time is raced against the time that remains. -/
theorem Read.keeps {now : Nat} {history : ClientTrace} (read : Read now history)
    (early : now < deadline) {exchange : Exchange clientInterface}
    (race : exchange.call.race = some (some (deadline - now))) :
    KeepsDeadline deadline history exchange where
  starts := by
    intro timeout starts
    rw [race] at starts
    obtain ⟨earlier, last⟩ := read.last
    exact ⟨earlier, now, last, early, (Option.some.inj starts).symm⟩
  expires := by
    intro other stands late
    rw [read.eq_of_stands stands] at late
    omega
  released := fun ends => absurd ends read.unreleased.not_exists

theorem keeps_remainingTimeout :
    Keeps deadline Settled (ClientInner.remainingTimeout (some deadline))
      fun remaining history => ∃ now, remaining = some (deadline - now) ∧ Read now history :=
  Guarantees.bind keeps_now fun now => guarantees_pure fun _ read => ⟨now, rfl, read⟩

theorem keeps_raceRequest (parts : RequestParts) {remaining : Option Nat}
    (left : remaining ≠ some 0) :
    Keeps deadline
      (fun history => ∃ now, remaining = some (deadline - now) ∧ Read now history)
      (ClientInner.raceRequest parts remaining) fun _ => Settled := by
  cases remaining with
  | none =>
    rintro history trace value ⟨now, impossible, -⟩
    cases impossible
  | some timeout =>
    refine keeps_ask fun history reply holds => ?_
    obtain ⟨now, timeoutEq, read⟩ := holds
    cases timeoutEq
    have early : now < deadline := by
      by_contra late
      exact left (congrArg some (Nat.sub_eq_zero_of_le (Nat.le_of_not_lt late)))
    refine ⟨read.keeps early rfl, ?_, read.unreleased.concat (by rintro ⟨⟩)⟩
    exact openReading_concat

theorem keeps_executeInner (body : Option Body) :
    Keeps deadline Settled (inner.executeInner libraries request body (some deadline))
      fun result => ComesTo deadline (some result) := by
  unfold ClientInner.executeInner
  split
  · exact keeps_failed _
  · refine Guarantees.bind keeps_remainingTimeout fun remaining => ?_
    split
    · next nothingLeft =>
      refine guarantees_pure fun history holds => ?_
      obtain ⟨now, remainingEq, read⟩ := holds
      refine ⟨read.unreleased, ?_, by rintro response ⟨⟩⟩
      intro other stands
      rw [read.eq_of_stands stands]
      rw [nothingLeft] at remainingEq
      exact ⟨Nat.le_of_sub_eq_zero (Option.some.inj remainingEq).symm, _, rfl⟩
    · next left =>
      refine Guarantees.bind (keeps_raceRequest _ left) fun result => ?_
      rcases result with _ | (error | raw)
      · exact keeps_failed _
      · exact keeps_failed error
      · exact keeps_respond raw

/-- A classifier is shown the timeout of an attempt that started nothing. -/
theorem keeps_classify (result : Except Error Response) :
    Keeps deadline (ComesTo deadline (some result)) (askClient (.classify result))
      fun _ history => Settled history ∧
        ∀ response, result = .ok response → response.deadline = some deadline := by
  refine keeps_ask fun history reply comes => ⟨⟨nofun, ?_, ?_⟩, ⟨?_, ?_⟩, ?_⟩
  · intro now stands late
    obtain ⟨-, url, resultEq⟩ := comes.expired now stands
    cases resultEq
    exact .inl (.classified url)
  · exact fun ends => absurd ends comes.unreleased.not_exists
  · exact openReading_concat
  · exact comes.unreleased.concat (by rintro ⟨⟩)
  · rintro response rfl
    exact comes.bounded response rfl

theorem keeps_retryLoop (remainingRetries : Nat) :
    Keeps deadline Settled
      (inner.retryLoop libraries request (some deadline) remainingRetries)
      (ComesTo deadline) := by
  induction remainingRetries with
  | zero =>
    exact Guarantees.bind (keeps_executeInner _) fun _ => guarantees_pure fun _ comes => comes
  | succ remainingRetries ih =>
    unfold ClientInner.retryLoop
    obtain ⟨body, canRetry⟩ := ClientInner.bodyToSend request.body (remainingRetries + 1)
    refine Guarantees.bind (keeps_executeInner body) fun result => ?_
    cases canRetry with
    | false => exact guarantees_pure fun _ comes => comes
    | true =>
      refine Guarantees.bind (keeps_classify result) fun action => ?_
      refine keeps_of_fact fun bounded => ?_
      have returns : ∀ response, some result = some (.ok response) →
          response.deadline = some deadline :=
        fun response same => bounded response (Option.some.inj same)
      have drops : Keeps deadline Settled (ClientInner.dropResult result) fun _ => Settled :=
        keeps_bookkeeping (dropResult_makes result)
      rcases action with _ | (_ | _)
      · refine Guarantees.bind drops fun _ => guarantees_pure fun _ settled => ?_
        exact settled.comesTo (by rintro response ⟨⟩)
      · exact guarantees_pure fun _ settled => settled.comesTo returns
      · refine Guarantees.bind (keeps_bookkeeping canWithdraw_makes) fun granted => ?_
        cases granted with
        | true => exact Guarantees.bind drops fun _ => ih
        | false => exact guarantees_pure fun _ settled => settled.comesTo returns

theorem keeps_deposit (result : Option (Except Error Response)) :
    Keeps deadline (ComesTo deadline result) inner.deposit fun _ =>
      ComesTo deadline result := by
  unfold ClientInner.deposit
  split
  · exact guarantees_pure fun _ comes => comes
  · refine keeps_ask fun history reply comes => ⟨⟨nofun, ?_, ?_⟩, ?_⟩
    · exact fun _ _ _ => .inr (.inl rfl)
    · exact fun ends => absurd ends comes.unreleased.not_exists
    · refine ⟨comes.unreleased.concat (by rintro ⟨⟩), ?_, comes.bounded⟩
      intro now stands
      rw [openReading_concat] at stands
      exact comes.expired now stands

theorem keeps_attempts :
    Keeps deadline Settled (inner.attempts libraries request (some deadline))
      (ComesTo deadline) := by
  unfold ClientInner.attempts
  split
  · exact Guarantees.bind (keeps_executeInner _) fun _ =>
      guarantees_pure fun _ comes => comes
  · exact keeps_retryLoop _

theorem keeps_executeUntil :
    Keeps deadline Settled (inner.executeUntil libraries request (some deadline))
      (ComesTo deadline) :=
  Guarantees.bind keeps_attempts fun result =>
    Guarantees.bind (keeps_deposit result) fun _ => guarantees_pure fun _ comes => comes

end Execution

section Reads

variable {deadline : Nat} {response : Response} {history : ClientTrace}
  {exchange : Exchange clientInterface}

theorem Executed.concat (executed : Executed history) : Executed (history ++ [exchange]) :=
  have ⟨result, earlier, member, callEq⟩ := executed
  ⟨result, earlier, List.mem_append_left _ member, callEq⟩

/-- Between two calls of `chunk`: the response has the deadline, and no handle once the
body has ended. -/
structure Reading (deadline : Nat) (response : Response) (history : ClientTrace) :
    Prop where
  closed : openReading history = none
  executed : Executed history
  bounded : response.deadline = some deadline
  taken : ¬Unreleased history → response.raw = none

/-- A call of `chunk` has come to a result. -/
structure Chunked (deadline : Nat) (returned : ChunkResult × Response)
    (history : ClientTrace) : Prop where
  executed : Executed history
  bounded : returned.2.deadline = some deadline
  expired : ∀ now, openReading history = some now →
    deadline ≤ now ∧ ∃ url, returned.1 = .error (Response.bodyTimeout url)
  taken : ¬Unreleased history →
    returned.2.raw = none ∧ returned.1 = .error Response.alreadyConsumed
  ended : EndsBody (.chunked returned.1) → returned.2.raw = none

/-- The errors of a read are not the timeout of the client. -/
theorem readChunk_ne_bodyTimeout (url other : Url) (completion : ReadCompletion) :
    Response.readChunk url completion ≠ .error (Response.bodyTimeout other) := by
  intro same
  rcases completion with code | ⟨⟨⟨⟩⟩ | event, buffer, memory⟩
  · cases congrArg Error.source (Except.error.inj same)
  · cases same
  · cases event with
    | complete | writeComplete => cases same
    | win32Error code => cases congrArg Error.source (Except.error.inj same)
    | readComplete read =>
      simp only [Response.readChunk, CallbackEvent.intoReadComplete] at same
      split at same
      · cases same
      · cases buffer with
        | none => cases same
        | some buffer =>
          simp only [freezeBuffer] at same
          split at same <;> cases same

/-- What the read of `chunk` leaves: the clock is only left standing by the timeout. -/
structure ReadUntil (deadline : Nat) (outcome : Option ChunkResult) (history : ClientTrace) :
    Prop where
  executed : Executed history
  unreleased : Unreleased history
  expired : ∀ now, openReading history = some now → deadline ≤ now ∧ outcome = none
  failed : ∀ url, outcome ≠ some (.error (Response.bodyTimeout url))

theorem keeps_readUntil (url : Url) :
    Keeps deadline (fun history => Settled history ∧ Executed history)
      (Response.readUntil url (some deadline)) (ReadUntil deadline) := by
  have reads : Keeps deadline (fun history => Settled history ∧ Executed history)
      (askClient .now) fun now history => Read now history ∧ Executed history :=
    keeps_ask fun history now holds =>
      ⟨holds.1.keeps rfl,
        ⟨⟨history, rfl⟩, holds.1.unreleased.concat (by rintro ⟨⟩)⟩, holds.2.concat⟩
  refine Guarantees.bind reads fun now => ?_
  dsimp only
  split
  · next nothingLeft =>
    refine guarantees_pure fun history holds => ?_
    obtain ⟨read, executed⟩ := holds
    refine ⟨executed, read.unreleased, ?_, nofun⟩
    intro other stands
    rw [read.eq_of_stands stands]
    exact ⟨Nat.le_of_sub_eq_zero nothingLeft, rfl⟩
  · next left =>
    have starts : Keeps deadline (fun history => Read now history ∧ Executed history)
        (askClient (.readWithin (deadline - now))) fun _ history =>
          Settled history ∧ Executed history := by
      refine keeps_ask fun history reply holds => ?_
      obtain ⟨read, executed⟩ := holds
      have early : now < deadline := by omega
      refine ⟨read.keeps early rfl, ⟨?_, ?_⟩, executed.concat⟩
      · exact openReading_concat
      · exact read.unreleased.concat (by rintro ⟨⟩)
    refine Guarantees.bind starts fun reply => ?_
    have closes : ∀ {outcome : Option ChunkResult} {history : ClientTrace},
        (∀ url, outcome ≠ some (.error (Response.bodyTimeout url))) →
        Settled history ∧ Executed history → ReadUntil deadline outcome history := by
      rintro outcome history failed ⟨settled, executed⟩
      refine ⟨executed, settled.unreleased, ?_, failed⟩
      exact fun _ stands => absurd stands (not_stands settled.closed)
    cases reply with
    | none => exact guarantees_pure fun _ => closes nofun
    | some completion =>
      refine guarantees_pure fun _ => closes fun other same => ?_
      exact readChunk_ne_bodyTimeout _ _ completion (Option.some.inj same)

theorem ReadUntil.closed {result : ChunkResult}
    (left : ReadUntil deadline (some result) history) : openReading history = none := by
  cases reading : openReading history with
  | none => rfl
  | some now => exact nomatch (left.expired now reading).2

/-- The handle may be closed behind a reading that has expired. -/
theorem keeps_takeRaw (outcome : Option ChunkResult) :
    Keeps deadline (ReadUntil deadline outcome) response.takeRaw fun released history =>
      released = { response with raw := none } ∧ ReadUntil deadline outcome history := by
  unfold Response.takeRaw
  cases rawEq : response.raw with
  | none => exact guarantees_pure fun _ left => ⟨Response.eq_released_of_taken rawEq, left⟩
  | some raw =>
    have closes : Keeps deadline (ReadUntil deadline outcome) (askClient .close) fun _ =>
        ReadUntil deadline outcome := by
      refine keeps_ask fun history reply left => ⟨⟨nofun, ?_, ?_⟩, ?_⟩
      · exact fun _ _ _ => .inr (.inr ⟨rfl, left.executed⟩)
      · exact fun ends => absurd ends left.unreleased.not_exists
      · refine ⟨left.executed.concat, left.unreleased.concat (by rintro ⟨⟩), ?_,
          left.failed⟩
        intro now stands
        rw [openReading_concat] at stands
        exact left.expired now stands
    exact Guarantees.bind closes fun _ => guarantees_pure fun _ left => ⟨rfl, left⟩

/-- The result of a completed read. -/
theorem ReadUntil.chunked {result : ChunkResult}
    (left : ReadUntil deadline (some result) history)
    (bounded : response.deadline = some deadline)
    (ended : EndsBody (.chunked result) → response.raw = none) :
    Chunked deadline (result, response) history where
  executed := left.executed
  bounded := bounded
  expired := fun _ stands => absurd stands (not_stands left.closed)
  taken := fun released => absurd left.unreleased released
  ended := ended

theorem keeps_settle (outcome : Option ChunkResult)
    (bounded : response.deadline = some deadline) :
    Keeps deadline (ReadUntil deadline outcome) (response.settle outcome)
      (Chunked deadline) := by
  rcases outcome with _ | (error | (_ | bytes))
  · refine Guarantees.bind (keeps_takeRaw none) fun released =>
      guarantees_pure fun history holds => ?_
    obtain ⟨rfl, left⟩ := holds
    refine ⟨left.executed, bounded, ?_, fun ends => absurd left.unreleased ends,
      fun _ => rfl⟩
    exact fun now stands => ⟨(left.expired now stands).1, _, rfl⟩
  · refine guarantees_pure fun history left => left.chunked bounded ?_
    intro ends
    cases ends with
    | timedOut url => exact absurd rfl (left.failed url)
  · refine Guarantees.bind (keeps_takeRaw _) fun released =>
      guarantees_pure fun history holds => ?_
    obtain ⟨rfl, left⟩ := holds
    exact left.chunked bounded fun _ => rfl
  · exact guarantees_pure fun history left => left.chunked bounded nofun

theorem keeps_chunk :
    Keeps deadline (Reading deadline response) response.chunk (Chunked deadline) := by
  unfold Response.chunk
  cases rawEq : response.raw with
  | none =>
    refine guarantees_pure fun history reading => ?_
    refine ⟨reading.executed, reading.bounded, ?_, fun _ => ⟨rawEq, rfl⟩, fun _ => rawEq⟩
    exact fun _ stands => absurd stands (not_stands reading.closed)
  | some raw =>
    have reads (bounded : response.deadline = some deadline) :
        Keeps deadline (fun history => Settled history ∧ Executed history)
          (Response.readUntil raw.url response.deadline >>= response.settle)
          (Chunked deadline) := by
      rw [bounded]
      exact Guarantees.bind (keeps_readUntil raw.url) fun outcome =>
        keeps_settle outcome bounded
    intro history trace value reading
    have unreleased : Unreleased history := by
      by_contra ended
      have taken := reading.taken ended
      rw [rawEq] at taken
      cases taken
    exact reads reading.bounded history trace value
      ⟨⟨reading.closed, unreleased⟩, reading.executed⟩

theorem keeps_chunked (returned : ChunkResult × Response) :
    Keeps deadline (Chunked deadline returned) (askClient (.chunked returned.1)) fun _ =>
      Reading deadline returned.2 := by
  refine keeps_ask fun history reply chunked => ⟨⟨nofun, ?_, ?_⟩, ?_⟩
  · intro now stands late
    obtain ⟨-, url, resultEq⟩ := chunked.expired now stands
    rw [resultEq]
    exact .inl (.chunked url)
  · rintro ⟨earlier, member, ends⟩
    have released : ¬Unreleased history := fun unreleased => unreleased earlier member ends
    rw [(chunked.taken released).2]
  · refine ⟨openReading_concat, chunked.executed.concat, chunked.bounded, ?_⟩
    intro released
    by_cases unreleased : Unreleased history
    · refine chunked.ended ?_
      by_contra continues
      exact released (unreleased.concat continues)
    · exact (chunked.taken unreleased).1

theorem keeps_readChunks (chunks : Nat) :
    Keeps deadline (Reading deadline response) (readChunks chunks response) fun _ history =>
      openReading history = none := by
  induction chunks generalizing response with
  | zero => exact guarantees_pure fun _ reading => reading.closed
  | succ chunks ih =>
    exact Guarantees.bind keeps_chunk fun returned =>
      Guarantees.bind (keeps_chunked returned) fun _ => ih

theorem keeps_readResult (chunks : Nat) (result : Option (Except Error Response)) :
    Keeps deadline (ComesTo deadline result) (readResult chunks result) fun _ history =>
      openReading history = none := by
  have reports : Keeps deadline (ComesTo deadline result) (askClient (.executed result))
      fun _ history => (Settled history ∧ Executed history) ∧
        ∀ response, result = some (.ok response) → response.deadline = some deadline := by
    refine keeps_ask fun history reply comes => ⟨⟨nofun, ?_, ?_⟩, ⟨⟨?_, ?_⟩, ?_⟩, ?_⟩
    · intro now stands late
      obtain ⟨-, url, resultEq⟩ := comes.expired now stands
      rw [resultEq]
      exact .inl (.executed url)
    · exact fun ends => absurd ends comes.unreleased.not_exists
    · exact openReading_concat
    · exact comes.unreleased.concat (by rintro ⟨⟩)
    · exact ⟨result, _, List.mem_append_right _ (List.mem_singleton_self _), rfl⟩
    · exact comes.bounded
  refine Guarantees.bind reports fun _ => ?_
  refine keeps_of_fact fun bounded => ?_
  rcases result with _ | (error | response)
  · exact guarantees_pure fun _ holds => holds.1.closed
  · exact guarantees_pure fun _ holds => holds.1.closed
  · refine (keeps_readChunks chunks).mono ?_ fun _ _ closed => closed
    intro history holds
    refine ⟨holds.1.closed, holds.2, bounded response rfl, ?_⟩
    exact fun released => absurd holds.1.unreleased released

end Reads

theorem traces_deadlineOf {latest timeout : Nat} {trace : ClientTrace}
    {deadline : Option Nat}
    (traces : Traces (ClientInner.deadlineOf latest (some timeout)) trace deadline) :
    ∃ start : Nat, trace = [⟨.now, start⟩] ∧
      deadline = ClientInner.checkedDeadline latest start timeout := by
  obtain ⟨start, behind, rfl, ends⟩ := traces_call.mp traces
  obtain ⟨rfl, rfl⟩ := traces_pure.mp ends
  exact ⟨start, rfl, rfl⟩

/-- With a total timeout whose deadline can be represented, a run takes the time once and
then keeps the deadline of that time.  No reading of the clock is left without an
outcome. -/
theorem use_keepsDeadline {Uri : Type} (inner : ClientInner Uri) (libraries : UrlLibraries)
    (latest : Nat) (request : Request) (chunks timeout : Nat) (trace : ClientTrace)
    (limited : request.timeout.or inner.totalTimeout = some timeout)
    (traces : Traces (inner.use libraries latest request chunks) trace ()) :
    ∃ (start : Nat) (rest : ClientTrace), trace = ⟨.now, start⟩ :: rest ∧
      (start + timeout ≤ latest →
        Follows (KeepsDeadline (start + timeout)) [] rest ∧ openReading rest = none) := by
  obtain ⟨result, executes, reads, rfl, executed, rest⟩ := traces.of_bind
  obtain ⟨deadline, readings, attempts, rfl, clock, bounded⟩ := Traces.of_bind executed
  rw [limited] at clock
  obtain ⟨start, rfl, rfl⟩ := traces_deadlineOf clock
  refine ⟨start, attempts ++ reads, rfl, fun representable => ?_⟩
  rw [ClientInner.checkedDeadline, if_pos representable] at bounded
  have keeps : Keeps (start + timeout) Settled
      (inner.executeUntil libraries request (some (start + timeout)) >>= readResult chunks)
      fun _ history => openReading history = none :=
    Guarantees.bind keeps_executeUntil fun result => keeps_readResult chunks result
  have begins : Settled [] := ⟨rfl, fun _ member => absurd member List.not_mem_nil⟩
  exact keeps [] _ () begins (Traces.bind bounded rest) (follows_of_forall fun _ _ => trivial)

section Example

/-- A client with a total timeout and no retries. -/
def timedClient : ClientInner Unit where
  toClient := { exampleClient .empty with totalTimeout := some 100 }
  redirectFollows := false

def foundResponse : RawResponse where
  status := 200
  version := .http11
  url := bareUrl true
  headers := .empty

def plainParts : RequestParts where
  url := bareUrl true
  method := "GET"
  headers := []
  body := none
  proxyConfig := .none
  acceptInvalidCerts := false

/-- A read that WinHTTP completes with its own timeout. -/
def timedOutRead : ReadCompletion :=
  .completed (.ok (.win32Error Win32.ERROR_WINHTTP_TIMEOUT)) none fun _ => []

def readTimeout : Error :=
  (Error.fromWin32 Win32.ERROR_WINHTTP_TIMEOUT).withUrl (bareUrl true)

/-- The response arrives at once, and so does a timeout of WinHTTP for its first read. -/
def answeredTrace : ClientTrace :=
  [⟨.now, (0 : Nat)⟩, ⟨.now, (0 : Nat)⟩,
    ⟨.requestWithin plainParts 100, some (.ok foundResponse : Except Error RawResponse)⟩,
    ⟨.executed (some (.ok (.fromRaw foundResponse (some 100)))), ()⟩,
    ⟨.now, (10 : Nat)⟩, ⟨.readWithin 90, some timedOutRead⟩,
    ⟨.chunked (.error readTimeout), ()⟩]

/-- Another read, and a call of `chunk` at the deadline. -/
def retriedReads : ClientTrace :=
  [⟨.now, (20 : Nat)⟩, ⟨.readWithin 80, some timedOutRead⟩,
    ⟨.chunked (.error readTimeout), ()⟩, ⟨.now, (100 : Nat)⟩, ⟨.close, ()⟩,
    ⟨.chunked (.error (Response.bodyTimeout (bareUrl true))), ()⟩]

theorem retriedReads_traces :
    Traces (timedClient.use Url.grammarLibraries 1000 (.new "GET" (bareUrl true)) 3)
      (answeredTrace ++ retriedReads) () :=
  .call _ (.call _ (.call _ (.call _ (.call _ (.call _ (.call _ (.call _ (.call _ (.call _
    (.call _ (.call _ (.call _ (.done _)))))))))))))

theorem use_keepsDeadline_retriedReads :
    ∃ (start : Nat) (rest : ClientTrace),
      answeredTrace ++ retriedReads = ⟨.now, start⟩ :: rest ∧
        (start + 100 ≤ 1000 →
          Follows (KeepsDeadline (start + 100)) [] rest ∧ openReading rest = none) :=
  use_keepsDeadline timedClient Url.grammarLibraries 1000 (.new "GET" (bareUrl true)) 3 100
    (answeredTrace ++ retriedReads) rfl retriedReads_traces

/-- `chunk` reports the timeout of a read and reads again when it is called again, and at
the deadline it closes the handle. -/
theorem use_touches_handle :
    ∃ before between behind : ClientTrace,
      Traces (timedClient.use Url.grammarLibraries 1000 (.new "GET" (bareUrl true)) 3)
          (before ++ ⟨.chunked (.error readTimeout), ()⟩ :: ⟨.now, (20 : Nat)⟩ ::
            ⟨.readWithin 80, some timedOutRead⟩ :: between ++
              ⟨.now, (100 : Nat)⟩ :: ⟨.close, ()⟩ :: behind) () ∧
        readTimeout.kind = .timeout :=
  ⟨answeredTrace.dropLast, [⟨.chunked (.error readTimeout), ()⟩],
    [⟨.chunked (.error (Response.bodyTimeout (bareUrl true))), ()⟩], retriedReads_traces,
    rfl⟩

end Example

end Wrest
