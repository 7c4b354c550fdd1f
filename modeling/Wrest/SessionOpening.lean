import Wrest.ClientBuilders
import Wrest.ResourceProtocols

/-!
# Opening a session

Building a client opens one WinHTTP session and configures it.  Some of the settings are
required: when one of them fails, the building fails and the session is closed again.  The
others may fail.
-/

namespace Wrest.Session

open Interaction LastWrites

inductive AccessType
  | noProxy
  | namedProxy
  | automaticProxy
deriving DecidableEq, Repr

/-- The options of `WinHttpSetOption` that a session uses. -/
inductive SessionOption
  | enableHttpProtocol
  | decompression
  | assuredNonBlockingCallbacks
  | maxConnsPerServer
  | redirectPolicy
  | maxHttpAutomaticRedirects
deriving DecidableEq, Repr

def WINHTTP_PROTOCOL_FLAG_HTTP2 : Nat := 1

def WINHTTP_DECOMPRESSION_FLAG_GZIP : Nat := 1

def WINHTTP_DECOMPRESSION_FLAG_DEFLATE : Nat := 2

def WINHTTP_OPTION_REDIRECT_POLICY_NEVER : Nat := 0

/-- A call that configures a session. -/
inductive Setting
  | statusCallback
  | timeouts (resolve connect send receive : Nat)
  | option (name : SessionOption) (value : Nat)
deriving DecidableEq, Repr

/-- The calls into WinHTTP; a failure carries the last error. -/
inductive SessionCall
  | openSession (userAgent : String) (accessType : AccessType) (proxy : Option String)
  | set (handle : Nat) (setting : Setting)
  | closeHandle (handle : Nat)

def sessionInterface : Interface where
  Call := SessionCall
  Reply
    | .openSession _ _ _ => Except Nat Nat
    | .set _ _ => Except Nat Unit
    | .closeHandle _ => Bool

abbrev SessionProgram (α : Type) : Type :=
  Program sessionInterface α

structure WinHttpSession where
  handle : Nat
  verbose : Bool

section Opening

def accessOf : ProxyAction → AccessType × Option String
  | .direct => (.noProxy, none)
  | .named url _ => (.namedProxy, some url)
  | .automatic => (.automaticProxy, none)

def redirectSetting : Option RedirectPolicy → Setting
  | some { inner := .none } =>
    .option .redirectPolicy WINHTTP_OPTION_REDIRECT_POLICY_NEVER
  | some { inner := .limited max } => .option .maxHttpAutomaticRedirects max
  | none => .option .maxHttpAutomaticRedirects 10

/-- The settings of a session in the order of the calls, and whether each is required. -/
def settings (config : SessionConfig) : List (Bool × Setting) :=
  [(true, .statusCallback),
    (true, .timeouts 0 config.connectTimeoutMs config.sendTimeoutMs config.readTimeoutMs)] ++
  (if config.http1Only then []
    else [(false, .option .enableHttpProtocol WINHTTP_PROTOCOL_FLAG_HTTP2)]) ++
  [(false, .option .decompression
      (WINHTTP_DECOMPRESSION_FLAG_GZIP ||| WINHTTP_DECOMPRESSION_FLAG_DEFLATE)),
    (true, .option .assuredNonBlockingCallbacks 1)] ++
  (config.maxConnectionsPerHost.map fun max =>
    (true, Setting.option .maxConnsPerServer max.toNat)).toList ++
  [(true, redirectSetting config.redirectPolicy)]

/-- One call after the other, up to a required one that fails. -/
def configure (handle : Nat) : List (Bool × Setting) → SessionProgram (Except Error Unit)
  | [] => .pure (.ok ())
  | (required, setting) :: rest =>
    .call (.set handle setting) fun reply : Except Nat Unit =>
      match required, reply with
      | true, .error code => .pure (.error (Error.fromWin32 code))
      | _, _ => configure handle rest

/-- `WinHttpSession::open`.  On a failure the handle is dropped, which closes it. -/
def openSession (config : SessionConfig) : SessionProgram (Except Error WinHttpSession) :=
  let (accessType, proxy) := accessOf config.proxy
  .call (.openSession config.userAgent accessType proxy) fun opened : Except Nat Nat =>
    match opened with
    | .error code => .pure (.error (Error.fromWin32 code))
    | .ok handle =>
      configure handle (settings config) >>= fun
        | .ok () => .pure (.ok { handle, verbose := config.verbose })
        | .error error => .call (.closeHandle handle) fun _ => .pure (.error error)

/-- `ClientBuilder::build`, up to the parts of the client that its session is not
configured with. -/
def build {Uri : Type} (environment : ProcessEnvironment) (builder : ClientBuilder Uri) :
    SessionProgram (Except Error WinHttpSession) :=
  match builder.error with
  | some error => .pure (.error error)
  | none => openSession (builder.sessionConfig environment)

end Opening

/-- What is known of an open session, with the settings that were asked for in the order
of the calls, and whether each was made. -/
structure SessionRecord where
  userAgent : String
  accessType : AccessType
  proxy : Option String
  answers : List (Setting × Bool)

def SessionRecord.answer (record : SessionRecord) (setting : Setting) (made : Bool) :
    SessionRecord :=
  { record with answers := record.answers ++ [(setting, made)] }

/-- The open sessions, and the code of the last call that failed. -/
structure SessionState where
  sessions : Nat → Option SessionRecord
  lastError : Option Nat

/-- WinHTTP is only called with open handles. -/
def permitsCall (state : SessionState) : SessionCall → Prop
  | .openSession _ _ _ => True
  | .set handle _ | .closeHandle handle => (state.sessions handle).isSome = true

/-- A new handle is not the handle of an open session. -/
def expectsReply (state : SessionState) : Exchange sessionInterface → Prop
  | ⟨.openSession _ _ _, (reply : Except Nat Nat)⟩ =>
    ∀ handle, reply = .ok handle → state.sessions handle = none
  | _ => True

/-- The sessions with one more, or with another record of one. -/
def withSession (sessions : Nat → Option SessionRecord) (handle : Nat)
    (record : SessionRecord) : Nat → Option SessionRecord :=
  Function.update sessions handle (some record)

def nextState (state : SessionState) : Exchange sessionInterface → SessionState
  | ⟨.openSession userAgent accessType proxy, (reply : Except Nat Nat)⟩ =>
    match reply with
    | .ok handle =>
      { state with
        sessions := withSession state.sessions handle
          { userAgent, accessType, proxy, answers := [] } }
    | .error code => { state with lastError := some code }
  | ⟨.set handle setting, (reply : Except Nat Unit)⟩ =>
    match state.sessions handle, reply with
    | some record, .ok _ =>
      { state with
        sessions := withSession state.sessions handle (record.answer setting true) }
    | some record, .error code =>
      { sessions := withSession state.sessions handle (record.answer setting false)
        lastError := some code }
    | none, _ => state
  | ⟨.closeHandle handle, _⟩ =>
    { state with sessions := Function.update state.sessions handle none }

def sessionProtocol : Protocol sessionInterface SessionState where
  initial := ⟨fun _ => none, none⟩
  permits := permitsCall
  expects := expectsReply
  next := nextState

/-- Every setting was asked for once, in this order, and the required ones were made. -/
def Meets (asked : List (Bool × Setting)) (answers : List (Setting × Bool)) : Prop :=
  List.Forall₂ (fun request answer =>
    answer.1 = request.2 ∧ (request.1 = true → answer.2 = true)) asked answers

/-- A session as its configuration says. -/
structure Configured (config : SessionConfig) (record : SessionRecord) : Prop where
  userAgent : record.userAgent = config.userAgent
  access : (record.accessType, record.proxy) = accessOf config.proxy
  meets : Meets (settings config) record.answers

section Opening

variable {handle : Nat}

theorem Meets.map_eq {asked : List (Bool × Setting)} {answers : List (Setting × Bool)}
    (meets : Meets asked answers) : answers.map Prod.fst = asked.map Prod.snd := by
  induction meets with
  | nil => rfl
  | cons same _ ih => rw [List.map_cons, List.map_cons, same.1, ih]

theorem Meets.required {asked : List (Bool × Setting)} {answers : List (Setting × Bool)}
    (meets : Meets asked answers) {setting : Setting} (member : (true, setting) ∈ asked) :
    (setting, true) ∈ answers := by
  induction meets with
  | nil => cases member
  | @cons request answer asked answers same _ ih =>
    rcases List.mem_cons.mp member with first | later
    · rw [← first] at same
      exact List.mem_cons.mpr (.inl (Prod.ext same.1.symm (same.2 rfl).symm))
    · exact List.mem_cons_of_mem _ (ih later)

theorem withSession_self (sessions : Nat → Option SessionRecord) (handle : Nat)
    (record : SessionRecord) : withSession sessions handle record handle = some record :=
  Function.update_self ..

theorem withSession_of_ne (sessions : Nat → Option SessionRecord) {handle other : Nat}
    (record : SessionRecord) (different : other ≠ handle) :
    withSession sessions handle record other = sessions other :=
  Function.update_of_ne different ..

theorem withSession_idem (sessions : Nat → Option SessionRecord) (handle : Nat)
    (first second : SessionRecord) :
    withSession (withSession sessions handle first) handle second =
      withSession sessions handle second :=
  Function.update_idem ..

/-- Every setting that is asked for is added to the session, and a required one that fails
is the error. -/
theorem configure_respects (sessions : Nat → Option SessionRecord)
    (asked : List (Bool × Setting)) (record : SessionRecord) :
    sessionProtocol.Respects (fun state => state.sessions = withSession sessions handle record)
      (configure handle asked) fun result after =>
        ∃ answers, after.sessions = withSession sessions handle
            { record with answers := record.answers ++ answers } ∧
          match result with
          | .ok () => Meets asked answers
          | .error error => ∃ code, after.lastError = some code ∧
              error = Error.fromWin32 code := by
  induction asked generalizing record with
  | nil =>
    refine Protocol.respects_pure fun state same => ⟨[], ?_, .nil⟩
    rw [same, List.append_nil]
  | cons first asked ih =>
    obtain ⟨required, setting⟩ := first
    have continues (made : Bool) (allowed : required = true → made = true) :
        sessionProtocol.Respects
          (fun state =>
            state.sessions = withSession sessions handle (record.answer setting made))
          (configure handle asked) fun result after =>
            ∃ answers, after.sessions = withSession sessions handle
                { record with answers := record.answers ++ answers } ∧
              match result with
              | .ok () => Meets ((required, setting) :: asked) answers
              | .error error => ∃ code, after.lastError = some code ∧
                  error = Error.fromWin32 code := by
      refine (ih _).mono (fun _ holds => holds) ?_
      rintro result after ⟨answers, same, holds⟩
      refine ⟨(setting, made) :: answers, ?_, ?_⟩
      · rw [same, SessionRecord.answer, List.append_assoc, List.singleton_append]
      · cases result with
        | ok value => exact .cons ⟨rfl, allowed⟩ holds
        | error error => exact holds
    refine Protocol.respects_call (fun reply after =>
      match reply with
      | Except.ok () => after.sessions =
          withSession sessions handle (record.answer setting true)
      | .error code => after.sessions =
          withSession sessions handle (record.answer setting false) ∧
            after.lastError = some code) ?_ ?_ ?_
    · intro state same
      simp only [sessionProtocol, permitsCall, same, withSession_self, Option.isSome_some]
    · intro state reply same _
      cases reply with
      | ok value =>
        simp only [sessionProtocol, nextState, same, withSession_self]
        exact withSession_idem ..
      | error code =>
        simp only [sessionProtocol, nextState, same, withSession_self]
        exact ⟨withSession_idem .., trivial⟩
    · rintro (code | value)
      · cases required with
        | true =>
          refine Protocol.respects_pure fun state holds =>
            ⟨[(setting, false)], holds.1, code, holds.2, rfl⟩
        | false =>
          refine (continues false ?_).mono (fun _ holds => holds.1) fun _ _ holds => holds
          rintro ⟨⟩
      · have rest := continues true fun _ => rfl
        cases required <;> exact rest

/-- What became of one session that was asked for. -/
def Opened (config : SessionConfig) (before after : Nat → Option SessionRecord) :
    Except Error WinHttpSession → Prop
  | .error _ => after = before
  | .ok session => before session.handle = none ∧ session.verbose = config.verbose ∧
      ∃ record, Configured config record ∧ after = withSession before session.handle record

theorem openSession_respects (sessions : Nat → Option SessionRecord)
    (config : SessionConfig) :
    sessionProtocol.Respects (fun state => state.sessions = sessions) (openSession config)
      fun result after => Opened config sessions after.sessions result ∧
        ∀ error, result = .error error →
          ∃ code, after.lastError = some code ∧ error = Error.fromWin32 code := by
  refine Protocol.respects_call (fun reply after =>
    match reply with
    | Except.ok handle => sessions handle = none ∧ after.sessions = withSession sessions handle
        { userAgent := config.userAgent
          accessType := (accessOf config.proxy).1
          proxy := (accessOf config.proxy).2
          answers := [] }
    | .error code => after.sessions = sessions ∧ after.lastError = some code)
    (fun _ _ => trivial) ?_ ?_
  · intro state reply same expected
    cases reply with
    | ok handle =>
      refine ⟨same ▸ expected handle rfl, ?_⟩
      rw [← same]
      rfl
    | error code => exact ⟨same, rfl⟩
  · rintro (code | handle)
    · refine Protocol.respects_pure fun state holds => ⟨holds.1, ?_⟩
      rintro _ ⟨⟩
      exact ⟨code, holds.2, rfl⟩
    · refine Protocol.respects_of_forall ?_
      rintro state ⟨fresh, same⟩
      refine ((configure_respects sessions (settings config) _).mono
        (fun _ isState => isState ▸ same) fun _ _ holds => holds).bind ?_
      rintro (error | value)
      · refine Protocol.respects_of_forall ?_
        rintro failed ⟨answers, isOpen, code, lastError, rfl⟩
        refine Protocol.respects_call (fun _ after =>
          after.sessions = sessions ∧ after.lastError = some code) ?_ ?_ fun _ =>
            Protocol.respects_pure ?_
        · rintro _ rfl
          simp only [sessionProtocol, permitsCall, isOpen, withSession_self,
            Option.isSome_some]
        · rintro _ reply rfl _
          refine ⟨?_, lastError⟩
          simp only [sessionProtocol, nextState, isOpen, withSession]
          rw [Function.update_idem, ← fresh, Function.update_eq_self]
        · rintro after ⟨closed, lastError⟩
          refine ⟨closed, ?_⟩
          rintro _ ⟨⟩
          exact ⟨code, lastError, rfl⟩
      · refine Protocol.respects_pure ?_
        rintro after ⟨answers, isOpen, meets⟩
        refine ⟨⟨fresh, rfl, _, ⟨rfl, rfl, ?_⟩, isOpen⟩, ?_⟩
        · simpa using meets
        · rintro _ ⟨⟩

end Opening

section Building

variable {Uri : Type} (environment : ProcessEnvironment)

/-- The clients of a process, each built after the calls of its setters. -/
def buildAll : List (List (ClientSetting Uri)) →
    SessionProgram (List (Except Error WinHttpSession))
  | [] => .pure []
  | settings :: rest =>
    build environment (.configured environment settings) >>= fun result =>
      buildAll rest >>= fun results => .pure (result :: results)

def openHandles (results : List (Except Error WinHttpSession)) : List Nat :=
  results.filterMap fun result => result.toOption.map (·.handle)

/-- What the building of a client comes to.  A user agent that is no header value is an
error before anything is opened, and any other error is one of WinHTTP. -/
def IsBuilt (sessions : Nat → Option SessionRecord) (settings : List (ClientSetting Uri))
    (result : Except Error WinHttpSession) : Prop :=
  match lastWrite ClientSetting.failure? settings, result with
  | some failure, result => result = .error failure
  | none, .error error => ∃ code, error = Error.fromWin32 code
  | none, .ok session =>
    session.verbose = (lastWrite ClientSetting.verbose? settings).getD false ∧
      ∃ record, sessions session.handle = some record ∧
        Configured (requestedConfig environment settings) record

/-- The sessions that are open are those of the clients that were built, one for each. -/
structure Accounts (before after : Nat → Option SessionRecord)
    (requests : List (List (ClientSetting Uri)))
    (results : List (Except Error WinHttpSession)) : Prop where
  built : List.Forall₂ (IsBuilt environment after) requests results
  distinct : (openHandles results).Nodup
  fresh : ∀ handle ∈ openHandles results, before handle = none
  others : ∀ handle, handle ∉ openHandles results → after handle = before handle

variable {environment}

theorem build_respects (sessions : Nat → Option SessionRecord)
    (settings : List (ClientSetting Uri)) :
    sessionProtocol.Respects (fun state => state.sessions = sessions)
      (build environment (.configured environment settings))
      fun result after =>
        Accounts environment sessions after.sessions [settings] [result] := by
  unfold build
  rw [ClientBuilder.configured_error]
  cases failed : lastWrite ClientSetting.failure? settings with
  | some failure =>
    refine Protocol.respects_pure fun state same => ⟨?_, List.nodup_nil, ?_, ?_⟩
    · refine .cons ?_ .nil
      unfold IsBuilt
      rw [failed]
    · rintro _ ⟨⟩
    · exact fun _ _ => congrFun same _
  | none =>
    simp only
    rw [ClientBuilder.configured_sessionConfig]
    refine (openSession_respects sessions _).mono (fun _ same => same) ?_
    rintro result after ⟨opened, reports⟩
    cases result with
    | error error =>
      refine ⟨.cons ?_ .nil, List.nodup_nil, ?_, ?_⟩
      · obtain ⟨code, -, isCode⟩ := reports error rfl
        unfold IsBuilt
        rw [failed]
        exact ⟨code, isCode⟩
      · rintro _ ⟨⟩
      · exact fun handle _ => congrFun opened handle
    | ok session =>
      obtain ⟨fresh, verbose, record, configured, same⟩ := opened
      refine ⟨.cons ?_ .nil, List.nodup_singleton _, ?_, ?_⟩
      · unfold IsBuilt
        rw [failed, same]
        exact ⟨verbose, record, withSession_self .., configured⟩
      · intro handle member
        rw [List.mem_singleton.mp member]
        exact fresh
      · intro handle missing
        rw [same, withSession_of_ne]
        exact fun isHandle => missing (isHandle ▸ List.mem_singleton_self _)

theorem IsBuilt.isSome {sessions : Nat → Option SessionRecord}
    {settings : List (ClientSetting Uri)} {session : WinHttpSession}
    (built : IsBuilt environment sessions settings (.ok session)) :
    (sessions session.handle).isSome = true := by
  unfold IsBuilt at built
  cases failed : lastWrite ClientSetting.failure? settings with
  | some failure =>
    rw [failed] at built
    cases built
  | none =>
    rw [failed] at built
    obtain ⟨-, record, isRecord, -⟩ := built
    rw [isRecord]
    rfl

theorem IsBuilt.congr {first second : Nat → Option SessionRecord}
    {settings : List (ClientSetting Uri)} {result : Except Error WinHttpSession}
    (built : IsBuilt environment first settings result)
    (same : ∀ handle ∈ openHandles [result], second handle = first handle) :
    IsBuilt environment second settings result := by
  unfold IsBuilt at built ⊢
  cases failed : lastWrite ClientSetting.failure? settings with
  | some failure =>
    rw [failed] at built
    exact built
  | none =>
    rw [failed] at built
    cases result with
    | error error => exact built
    | ok session =>
      obtain ⟨verbose, record, isRecord, configured⟩ := built
      refine ⟨verbose, record, ?_, configured⟩
      rw [same session.handle (List.mem_singleton_self _)]
      exact isRecord

theorem openHandles_cons (result : Except Error WinHttpSession)
    (results : List (Except Error WinHttpSession)) :
    openHandles (result :: results) = openHandles [result] ++ openHandles results := by
  rw [← List.singleton_append]
  exact List.filterMap_append

/-- The sessions of the later clients are not those of the first one. -/
theorem Accounts.cons {before middle after : Nat → Option SessionRecord}
    {settings : List (ClientSetting Uri)} {requests : List (List (ClientSetting Uri))}
    {result : Except Error WinHttpSession} {results : List (Except Error WinHttpSession)}
    (first : Accounts environment before middle [settings] [result])
    (rest : Accounts environment middle after requests results) :
    Accounts environment before after (settings :: requests) (result :: results) := by
  obtain ⟨isBuilt, -⟩ := List.forall₂_cons.mp first.built
  have isOpen : ∀ handle ∈ openHandles [result], (middle handle).isSome = true := by
    intro handle member
    cases result with
    | error error => cases member
    | ok session =>
      rw [List.mem_singleton.mp member]
      exact isBuilt.isSome
  have apart : ∀ handle ∈ openHandles [result], handle ∉ openHandles results := by
    intro handle member later
    have opened := isOpen handle member
    rw [rest.fresh handle later] at opened
    cases opened
  refine ⟨.cons ?_ rest.built, ?_, ?_, ?_⟩
  · exact isBuilt.congr fun handle member => rest.others handle (apart handle member)
  · rw [openHandles_cons]
    exact first.distinct.append rest.distinct apart
  · rw [openHandles_cons]
    intro handle member
    rcases List.mem_append.mp member with isFirst | later
    · exact first.fresh handle isFirst
    · rw [← first.others handle fun isFirst => apart handle isFirst later]
      exact rest.fresh handle later
  · rw [openHandles_cons]
    intro handle missing
    rw [List.mem_append, not_or] at missing
    rw [rest.others handle missing.2, first.others handle missing.1]

theorem buildAll_respects (requests : List (List (ClientSetting Uri)))
    (sessions : Nat → Option SessionRecord) :
    sessionProtocol.Respects (fun state => state.sessions = sessions)
      (buildAll environment requests)
      fun results after => Accounts environment sessions after.sessions requests results := by
  induction requests generalizing sessions with
  | nil =>
    refine Protocol.respects_pure fun state same => ⟨.nil, List.nodup_nil, ?_, ?_⟩
    · rintro _ ⟨⟩
    · exact fun _ _ => congrFun same _
  | cons settings requests ih =>
    refine (build_respects sessions settings).bind fun result => ?_
    refine Protocol.respects_of_forall fun state first => ?_
    have later := (ih state.sessions).mono (fun _ same => congrArg SessionState.sessions same)
      fun _ _ holds => holds
    exact later.bind fun results => Protocol.respects_pure fun after rest => first.cons rest

/-- A user agent that is no header value fails the building, and WinHTTP is not called. -/
theorem build_of_failure {settings : List (ClientSetting Uri)} {failure : Error}
    (failed : lastWrite ClientSetting.failure? settings = some failure)
    {trace : List (Exchange sessionInterface)} {result : Except Error WinHttpSession}
    (traces : Traces (build environment (.configured environment settings)) trace result) :
    trace = [] ∧ result = .error failure := by
  rw [build, ClientBuilder.configured_error, failed] at traces
  exact traces_pure.mp traces

/-- Whatever clients a process builds: WinHTTP is only called with open handles, each
client that was built has a session of its own, which was asked for all the settings that
came last, and nothing stays open of the others.  No client with an invalid user agent
calls WinHTTP. -/
theorem buildAll_accounts (environment : ProcessEnvironment)
    (requests : List (List (ClientSetting Uri))) {trace : List (Exchange sessionInterface)}
    {results : List (Except Error WinHttpSession)}
    (traces : Traces (buildAll environment requests) trace results)
    (expected : Follows (fun history exchange =>
      expectsReply (sessionProtocol.after history) exchange) [] trace) :
    Follows (fun history exchange =>
        permitsCall (sessionProtocol.after history) exchange.call) [] trace ∧
      Accounts environment (fun _ => none) (sessionProtocol.after trace).sessions
        requests results ∧
      ∀ settings ∈ requests, ∀ failure,
        lastWrite ClientSetting.failure? settings = some failure →
          ∀ calls built, Traces (build environment (.configured environment settings))
            calls built → calls = [] ∧ built = .error failure := by
  obtain ⟨permitted, accounts⟩ := (buildAll_respects requests _).traces rfl traces expected
  exact ⟨permitted, accounts, fun _ _ _ failed _ _ => build_of_failure failed⟩

/-- At most two sessions are open. -/
def newHandle (state : SessionState) : Except Nat Nat :=
  if state.sessions 1 = none then .ok 1
  else if state.sessions 2 = none then .ok 2
  else .error 8

theorem newHandle_fresh {state : SessionState} {handle : Nat}
    (opened : newHandle state = .ok handle) : state.sessions handle = none := by
  unfold newHandle at opened
  split at opened
  · next free =>
    cases opened
    exact free
  · split at opened
    · next free =>
      cases opened
      exact free
    · cases opened

/-- One option cannot be set. -/
def exampleReplies (state : SessionState) :
    (request : SessionCall) → sessionInterface.Reply request
  | .openSession _ _ _ => newHandle state
  | .set _ (.option .enableHttpProtocol _) => (.error 12009 : Except Nat Unit)
  | .set _ _ => (.ok () : Except Nat Unit)
  | .closeHandle _ => true

theorem exampleReplies_expected (state : SessionState) (request : SessionCall) :
    expectsReply state ⟨request, exampleReplies state request⟩ := by
  cases request with
  | openSession userAgent accessType proxy => exact fun handle => newHandle_fresh
  | _ => trivial

/-- A user agent that is no header value, and one that is. -/
def invalidUserAgent : List (ClientSetting Unit) :=
  [.userAgent (.error (.foreign "failed to parse header value")),
    .userAgent (.ok HeaderValue.anyMedia)]

/-- Three clients, of which the second has an invalid user agent. -/
def exampleRequests : List (List (ClientSetting Unit)) :=
  [[.connectTimeout ⟨0, 1500000, by decide, by decide⟩, .redirect .none,
      .redirect (.limited 3)],
    invalidUserAgent,
    [.http1Only]]

theorem buildAll_accounts_three :
    ∃ trace results, openHandles results = [1, 2] ∧
      Follows (fun history exchange =>
        permitsCall (sessionProtocol.after history) exchange.call) [] trace ∧
      Accounts (fun _ => none) (fun _ => none) (sessionProtocol.after trace).sessions
        exampleRequests results ∧
      ∀ calls built,
        Traces (build (fun _ => none) (.configured (fun _ => none) invalidUserAgent))
          calls built → calls = [] ∧ ∃ failure, built = .error failure := by
  obtain ⟨permitted, accounts, invalid⟩ := buildAll_accounts (fun _ => none) exampleRequests
    (Protocol.traces_replay (buildAll (fun _ => none) exampleRequests) sessionProtocol.initial)
    (sessionProtocol.follows_replay exampleReplies_expected _ [])
  refine ⟨_, _, ?_, permitted, accounts, fun calls built traces => ?_⟩
  · decide +kernel
  · obtain ⟨isNil, failed⟩ := invalid invalidUserAgent (by simp [exampleRequests]) _ rfl calls
      built traces
    exact ⟨isNil, _, failed⟩

end Building

end Wrest.Session
