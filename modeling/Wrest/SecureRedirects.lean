import Wrest.SessionOpening

/-!
# Requests that stay encrypted

Redirects are followed by WinHTTP, as the options of the session say.  A client never lets
it leave HTTPS, whatever settings the client was built with, and a response that asks for
that is an error.
-/

namespace Wrest

open Interaction LastWrites Session

/-- `WINHTTP_OPTION_REDIRECT_POLICY_DISALLOW_HTTPS_TO_HTTP`, which is in force by
default. -/
def WINHTTP_OPTION_REDIRECT_POLICY_DISALLOW_HTTPS_TO_HTTP : Nat := 1

namespace Session

def Setting.value? (name : SessionOption) : Setting → Option Nat
  | .option other value => if other = name then some value else none
  | _ => none

/-- The settings that were made. -/
def SessionRecord.applied (record : SessionRecord) : List Setting :=
  (record.answers.filter fun answer => answer.2).map Prod.fst

/-- The value of an option of a session. -/
def SessionRecord.value (record : SessionRecord) (name : SessionOption) : Option Nat :=
  lastWrite (Setting.value? name) record.applied

/-- Whether WinHTTP follows a redirect from one URL to another. -/
def SessionRecord.Follows (record : SessionRecord) (source target : Url) : Prop :=
  match (record.value .redirectPolicy).getD
      WINHTTP_OPTION_REDIRECT_POLICY_DISALLOW_HTTPS_TO_HTTP with
  | 0 => False
  | 1 => source.isHttps = true → target.isHttps = true
  | _ => True

/-- The targets that WinHTTP follows from a URL, up to a number of redirects. -/
inductive SessionRecord.Redirects (record : SessionRecord) : Nat → Url → List Url → Prop
  | stop (limit : Nat) (url : Url) : record.Redirects limit url []
  | hop {limit : Nat} {url target : Url} {targets : List Url}
      (follows : record.Follows url target) (rest : record.Redirects limit target targets) :
      record.Redirects (limit + 1) url (target :: targets)

/-- The redirects of a request, with the limit of the session. -/
def SessionRecord.Visits (record : SessionRecord) (url : Url) (targets : List Url) : Prop :=
  record.Redirects ((record.value .maxHttpAutomaticRedirects).getD 10) url targets

/-- The redirects that a policy allows. -/
def redirectLimit : Option RedirectPolicy → Nat
  | some { inner := .none } => 0
  | some { inner := .limited max } => max
  | none => 10

section Options

variable {config : SessionConfig} {record : SessionRecord}

theorem mem_applied {setting : Setting} :
    setting ∈ record.applied ↔ (setting, true) ∈ record.answers := by
  simp [SessionRecord.applied]

/-- The settings about redirects are those of the policy. -/
theorem redirectSetting_of_mem {setting : Setting} (configured : Configured config record)
    (member : setting ∈ record.applied) {name : SessionOption} {value : Nat}
    (isOption : setting.value? name = some value)
    (isRedirect : name = .redirectPolicy ∨ name = .maxHttpAutomaticRedirects) :
    redirectSetting config.redirectPolicy = .option name value := by
  have isSetting : setting = .option name value := by
    cases setting with
    | statusCallback | timeouts _ _ _ _ => cases isOption
    | option other known =>
      rw [Setting.value?, Option.ite_none_right_eq_some] at isOption
      rw [isOption.1, Option.some.inj isOption.2]
  have asked : setting ∈ (settings config).map Prod.snd := by
    rw [← configured.meets.map_eq]
    exact List.mem_map_of_mem (mem_applied.mp member)
  rw [isSetting] at asked
  have isLast : .option name value = redirectSetting config.redirectPolicy := by
    rcases isRedirect with rfl | rfl <;> cases http1 : config.http1Only <;>
      cases connections : config.maxConnectionsPerHost <;>
      simpa [settings, http1, connections] using asked
  exact isLast.symm

theorem redirectSetting_mem (configured : Configured config record) :
    redirectSetting config.redirectPolicy ∈ record.applied :=
  mem_applied.mpr
    (configured.meets.required (List.mem_append_right _ (List.mem_singleton_self _)))

/-- A redirect option of the session has the value that the policy sets. -/
theorem value_eq {name : SessionOption} {value : Nat} (configured : Configured config record)
    (isRedirect : name = .redirectPolicy ∨ name = .maxHttpAutomaticRedirects)
    (sets : redirectSetting config.redirectPolicy = .option name value) :
    record.value name = some value := by
  refine lastWrite_eq_some (redirectSetting_mem configured) ?_ ?_
  · rw [sets, Setting.value?, if_pos rfl]
  · intro other member written isOption
    have same := redirectSetting_of_mem configured member isOption isRedirect
    rw [sets] at same
    exact (Setting.option.inj same).2.symm

theorem value_redirectPolicy (configured : Configured config record)
    (follows : config.redirectPolicy ≠ some .none) :
    record.value .redirectPolicy = none := by
  cases known : record.value .redirectPolicy with
  | none => rfl
  | some value =>
    obtain ⟨setting, member, isOption⟩ := exists_of_lastWrite known
    have sets := redirectSetting_of_mem configured member isOption (.inl rfl)
    rcases policy : config.redirectPolicy with _ | ⟨max | _⟩
    · rw [policy] at sets
      cases sets
    · rw [policy] at sets
      cases sets
    · exact absurd policy follows

/-- Every redirect keeps HTTPS, so a sequence of them does. -/
theorem SessionRecord.Redirects.bounded {limit : Nat} {url : Url} {targets : List Url}
    (redirects : record.Redirects limit url targets)
    (keeps : ∀ source target, record.Follows source target →
      source.isHttps = true → target.isHttps = true) :
    targets.length ≤ limit ∧
      (url.isHttps = true → ∀ target ∈ targets, target.isHttps = true) := by
  induction redirects with
  | stop limit url =>
    refine ⟨Nat.zero_le _, ?_⟩
    rintro _ _ ⟨⟩
  | hop follows _ ih =>
    refine ⟨Nat.succ_le_succ ih.1, fun secure target member => ?_⟩
    have next := keeps _ _ follows secure
    rcases List.mem_cons.mp member with rfl | later
    · exact next
    · exact ih.2 next target later

/-- Without redirects WinHTTP stays where it is, and with them it stays within the limit
and in HTTPS. -/
theorem visits_bounded (configured : Configured config record) {url : Url}
    {targets : List Url} (visits : record.Visits url targets) :
    targets.length ≤ redirectLimit config.redirectPolicy ∧
      (url.isHttps = true → ∀ target ∈ targets, target.isHttps = true) := by
  by_cases never : config.redirectPolicy = some .none
  · have policy : record.value .redirectPolicy = some WINHTTP_OPTION_REDIRECT_POLICY_NEVER :=
      value_eq configured (.inl rfl) (by rw [never]; rfl)
    unfold SessionRecord.Visits at visits
    generalize (record.value .maxHttpAutomaticRedirects).getD 10 = limit at visits
    cases visits with
    | stop =>
      refine ⟨Nat.zero_le _, ?_⟩
      rintro _ _ ⟨⟩
    | hop follows _ =>
      rw [SessionRecord.Follows, policy] at follows
      exact absurd follows id
  · have policy := value_redirectPolicy configured never
    have limit : (record.value .maxHttpAutomaticRedirects).getD 10 =
        redirectLimit config.redirectPolicy := by
      rcases known : config.redirectPolicy with _ | ⟨max | _⟩
      · rw [value_eq configured (.inr rfl) (by rw [known]; rfl)]
        rfl
      · rw [value_eq configured (.inr rfl) (by rw [known]; rfl)]
        rfl
      · exact absurd known never
    rw [← limit]
    refine visits.bounded fun source target follows => ?_
    rw [SessionRecord.Follows, policy] at follows
    exact follows

end Options

end Session

section Executions

variable {Uri : Type} {inner : ClientInner Uri} {libraries : UrlLibraries}

/-- A call that sends the request. -/
def ClientCall.parts? : ClientCall → Option RequestParts
  | .request parts | .requestWithin parts _ => some parts
  | _ => none

/-- A response from HTTPS that redirects to HTTP. -/
def Response.IsDowngrade (libraries : UrlLibraries) (response : Response) : Prop :=
  response.status / 100 = 3 ∧ response.url.isHttps = true ∧
    ∃ value location target, response.headers.get .location = some value ∧
      value.toStr = some location ∧ response.url.join libraries location = .ok target ∧
      target.isHttps = false

theorem translateBlockedHttpsDowngrade_eq_none {raw : RawResponse}
    (translated : translateBlockedHttpsDowngrade libraries raw = none)
    (deadline : Option Nat) : ¬(Response.fromRaw raw deadline).IsDowngrade libraries := by
  rintro ⟨redirection, secure, value, location, target, isValue, isLocation, joins, plain⟩
  simp only [Response.fromRaw] at redirection secure isValue joins
  simp [translateBlockedHttpsDowngrade, redirection, secure, isValue, isLocation, joins,
    Except.toOption, plain] at translated

/-- What a client sends, and what it accepts as a response. -/
def Sends (inner : ClientInner Uri) (request : Request) (call : ClientCall) : Prop :=
  ∀ parts, call.parts? = some parts →
    parts.url = request.url ∧ (inner.httpsOnly = true → request.url.isHttps = true)

def Accepts (inner : ClientInner Uri) (libraries : UrlLibraries)
    (result : Except Error Response) : Prop :=
  ∀ response, result = .ok response → inner.redirectFollows = true →
    ¬response.IsDowngrade libraries

section Attempts

variable {request : Request} {body : Option Body} {deadline : Option Nat}

theorem makes_ask {call : ClientCall} (sends : Sends inner request call) :
    (askClient call).Makes (Sends inner request) :=
  ⟨sends, fun _ => trivial⟩

theorem sends_of_parts_eq_none {call : ClientCall} (quiet : call.parts? = none) :
    Sends inner request call := by
  intro parts known
  rw [quiet] at known
  cases known

theorem makes_quiet {call : ClientCall} (quiet : call.parts? = none) :
    (askClient call).Makes (Sends inner request) :=
  makes_ask (sends_of_parts_eq_none quiet)

theorem sends_of_isBookkeeping (call : ClientCall) (bookkeeping : call.isBookkeeping = true) :
    Sends inner request call := by
  cases call with
  | canWithdraw | deposit | close => exact sends_of_parts_eq_none rfl
  | _ => cases bookkeeping

theorem respond_makes (raw : RawResponse) :
    (inner.respond libraries raw deadline).Makes (Sends inner request) := by
  unfold ClientInner.respond
  split
  · exact ((drop_makes _).mono sends_of_isBookkeeping).bind fun _ => trivial
  · exact trivial

theorem respond_accepts (raw : RawResponse) :
    (inner.respond libraries raw deadline).Returns (Accepts inner libraries) := by
  unfold ClientInner.respond
  split
  · refine (Program.returns_of_forall (fun _ => trivial) _).bind fun _ _ => ?_
    rintro _ ⟨⟩
  · next translated =>
    rintro _ ⟨⟩ follows
    rw [if_pos follows] at translated
    exact translateBlockedHttpsDowngrade_eq_none translated deadline

theorem remainingTimeout_makes :
    (ClientInner.remainingTimeout deadline).Makes (Sends inner request) := by
  cases deadline with
  | none => exact trivial
  | some deadline => exact (makes_quiet rfl).bind fun _ => trivial

theorem executeInner_makes :
    (inner.executeInner libraries request body deadline).Makes (Sends inner request) := by
  unfold ClientInner.executeInner
  split
  · exact trivial
  · next allowed =>
    refine remainingTimeout_makes.bind fun remaining => ?_
    split
    · exact trivial
    · have secure : inner.httpsOnly = true → request.url.isHttps = true := by
        intro httpsOnly
        rw [httpsOnly, Bool.true_and, Bool.not_eq_true, Bool.not_eq_false'] at allowed
        exact allowed
      refine Program.Makes.bind ?_ fun result => ?_
      · cases remaining with
        | none =>
          refine (makes_ask ?_).bind fun _ => trivial
          rintro _ ⟨⟩
          exact ⟨rfl, secure⟩
        | some timeout =>
          refine makes_ask ?_
          rintro _ ⟨⟩
          exact ⟨rfl, secure⟩
      · rcases result with _ | error | raw
        · exact trivial
        · exact trivial
        · exact respond_makes raw

theorem executeInner_accepts :
    (inner.executeInner libraries request body deadline).Returns
      (Accepts inner libraries) := by
  have rejects (error : Error) :
      Program.Returns (I := clientInterface) (Accepts inner libraries)
        (.pure (.error error)) := by
    rintro _ ⟨⟩
  unfold ClientInner.executeInner
  split
  · exact rejects _
  · refine (Program.returns_of_forall (fun _ => trivial) _).bind fun remaining _ => ?_
    split
    · exact rejects _
    · refine (Program.returns_of_forall (fun _ => trivial) _).bind fun result _ => ?_
      rcases result with _ | error | raw
      · exact rejects _
      · exact rejects _
      · exact respond_accepts raw

/-- What holds of the result of an execution, which is none after a panic. -/
def AcceptsLast (inner : ClientInner Uri) (libraries : UrlLibraries)
    (result : Option (Except Error Response)) : Prop :=
  ∀ response, result = some (.ok response) → inner.redirectFollows = true →
    ¬response.IsDowngrade libraries

theorem acceptsLast_of_accepts {result : Except Error Response}
    (accepts : Accepts inner libraries result) : AcceptsLast inner libraries (some result) :=
  fun response known => accepts response (Option.some.inj known)

theorem retryLoop_makes (remainingRetries : Nat) :
    (inner.retryLoop libraries request deadline remainingRetries).Makes
      (Sends inner request) := by
  induction remainingRetries with
  | zero => exact executeInner_makes.bind fun _ => trivial
  | succ remainingRetries ih =>
    unfold ClientInner.retryLoop
    obtain ⟨body, canRetry⟩ := ClientInner.bodyToSend request.body (remainingRetries + 1)
    refine executeInner_makes.bind fun result => ?_
    cases canRetry with
    | false => exact trivial
    | true =>
      refine (makes_quiet rfl).bind fun action => ?_
      rcases action with _ | _ | _
      · exact ((dropResult_makes result).mono sends_of_isBookkeeping).bind fun _ => trivial
      · exact trivial
      · refine (canWithdraw_makes.mono sends_of_isBookkeeping).bind fun granted => ?_
        cases granted with
        | true => exact ((dropResult_makes result).mono sends_of_isBookkeeping).bind fun _ => ih
        | false => exact trivial

theorem retryLoop_accepts (remainingRetries : Nat) :
    (inner.retryLoop libraries request deadline remainingRetries).Returns
      (AcceptsLast inner libraries) := by
  induction remainingRetries with
  | zero => exact executeInner_accepts.bind fun _ accepts => acceptsLast_of_accepts accepts
  | succ remainingRetries ih =>
    unfold ClientInner.retryLoop
    obtain ⟨body, canRetry⟩ := ClientInner.bodyToSend request.body (remainingRetries + 1)
    refine executeInner_accepts.bind fun result accepts => ?_
    have panics : Program.Returns (I := clientInterface) (AcceptsLast inner libraries)
        (.pure none) := by
      rintro _ ⟨⟩
    cases canRetry with
    | false => exact acceptsLast_of_accepts accepts
    | true =>
      refine (Program.returns_of_forall (fun _ => trivial) _).bind fun action _ => ?_
      rcases action with _ | _ | _
      · exact (Program.returns_of_forall (fun _ => trivial) _).bind fun _ _ => panics
      · exact acceptsLast_of_accepts accepts
      · refine (Program.returns_of_forall (fun _ => trivial) _).bind fun granted _ => ?_
        cases granted with
        | true => exact (Program.returns_of_forall (fun _ => trivial) _).bind fun _ _ => ih
        | false => exact acceptsLast_of_accepts accepts

end Attempts

theorem execute_makes (latest : Nat) (request : Request) :
    (inner.execute libraries latest request).Makes (Sends inner request) := by
  refine Program.Makes.bind ?_ fun deadline => ?_
  · cases request.timeout.or inner.totalTimeout with
    | none => exact trivial
    | some timeout => exact (makes_quiet rfl).bind fun _ => trivial
  · refine Program.Makes.bind ?_ fun result => ?_
    · unfold ClientInner.attempts
      split
      · exact executeInner_makes.bind fun _ => trivial
      · exact retryLoop_makes _
    · refine Program.Makes.bind ?_ fun _ => trivial
      unfold ClientInner.deposit
      cases inner.retryPolicy.budget with
      | none => exact trivial
      | some budget => exact makes_quiet rfl

theorem execute_accepts (latest : Nat) (request : Request) :
    (inner.execute libraries latest request).Returns (AcceptsLast inner libraries) := by
  refine (Program.returns_of_forall (fun _ => trivial) _).bind fun deadline _ => ?_
  have attempts : (inner.attempts libraries request deadline).Returns
      (AcceptsLast inner libraries) := by
    unfold ClientInner.attempts
    split
    · exact executeInner_accepts.bind fun _ accepts => acceptsLast_of_accepts accepts
    · exact retryLoop_accepts _
  exact attempts.bind fun result accepts =>
    (Program.returns_of_forall (fun _ => trivial) _).bind fun _ _ => accepts

end Executions

section Example

def exampleSettings : List (ClientSetting Unit) :=
  [.redirect .none, .httpsOnly true, .redirect (.limited 3)]

/-- A session on which every setting was made. -/
def exampleRecord : SessionRecord where
  userAgent := ""
  accessType := .automaticProxy
  proxy := none
  answers := (Session.settings (requestedConfig (fun _ => none) exampleSettings)).map
    fun asked => (asked.2, true)

theorem exampleRecord_configured :
    Configured (requestedConfig (fun _ => none) exampleSettings) exampleRecord where
  userAgent := rfl
  access := rfl
  meets := List.forall₂_map_right_iff.mpr
    (List.forall₂_same.mpr fun _ _ => ⟨rfl, fun _ => rfl⟩)

def secureClient : ClientInner Unit :=
  (ClientBuilder.configured (fun _ => none) exampleSettings).client (fun _ => none) .exact
    fun _ => false

/-- One attempt, which succeeds. -/
def exampleAttempt : ClientTrace :=
  [⟨.request
      { url := bareUrl true
        method := "GET"
        headers := []
        body := none
        proxyConfig := .fromEnv fun _ => none
        acceptInvalidCerts := false },
      (.ok ⟨200, .http11, bareUrl true, .empty⟩ : Except Error RawResponse)⟩,
    ⟨.classify (.ok (.fromRaw ⟨200, .http11, bareUrl true, .empty⟩ none)),
      some Retry.Action.success⟩]

theorem exampleAttempt_traces :
    Traces (secureClient.execute Url.grammarLibraries 0 (.new "GET" (bareUrl true))) exampleAttempt
      (some (.ok (.fromRaw ⟨200, .http11, bareUrl true, .empty⟩ none))) :=
  .call _ (.call _ (.done _))

end Example

end Wrest
