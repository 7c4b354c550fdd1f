import Wrest.ObservedTraces
import Wrest.RequestDeadlines
import Wrest.UserinfoCredentials

/-!
# Where the userinfo of a URL goes

An observer sees every call of a client and every call of WinHTTP, with all arguments and
replies, except the value of an `Authorization` header.  To this observer the requests of
two URLs that differ in their userinfo look alike, whatever is replied: nothing else that a
client does, and no error or response that it returns, tells one userinfo from another.

A line that is too long for WinHTTP is not hidden: its length is part of an error.
-/

namespace Wrest.Secrecy

open Interaction HeaderMap RequestStep

def FitsLine (header : String × String) : Prop :=
  utf16Length (headerLine header.1 header.2) ≤ u32Max

instance (header : String × String) : Decidable (FitsLine header) :=
  inferInstanceAs (Decidable (_ ≤ _))

/-- The value of an `Authorization` that can be sent is not shown. -/
def hideValue (header : String × String) : String × String :=
  if header.1 = HeaderName.authorization.text ∧ FitsLine header then (header.1, "")
  else header

def hideParts (parts : RequestParts) : RequestParts :=
  { parts with headers := parts.headers.map hideValue }

/-- What is shown of an exchange of the client. -/
inductive ClientView
  | request (parts : RequestParts) (result : Except Error RawResponse)
  | requestWithin (parts : RequestParts) (timeout : Nat)
      (result : Option (Except Error RawResponse))
  | other (exchange : Exchange clientInterface)

def clientView : Exchange clientInterface → ClientView
  | ⟨.request parts, result⟩ => .request (hideParts parts) result
  | ⟨.requestWithin parts timeout, result⟩ =>
    .requestWithin (hideParts parts) timeout result
  | exchange => .other exchange

/-- What is shown of an exchange with WinHTTP. -/
inductive RequestView
  | credentials (result : Outcome)
  | other (exchange : Exchange requestInterface)

def isCredentials (line : String) : Bool :=
  (parseHeaderLine line).1 == HeaderName.authorization.text

def requestView : Exchange requestInterface → RequestView
  | ⟨.addRequestHeaders line, result⟩ =>
    if isCredentials line then .credentials result
    else .other ⟨.addRequestHeaders line, result⟩
  | exchange => .other exchange

/-- How an exchange of the client is conducted: a request makes the calls of
`execute_request`, up to any of them if the timer comes first. -/
def Performs (parse : String → Option Url) :
    Exchange clientInterface → List (Exchange requestInterface) → Prop
  | ⟨.request parts, result⟩, calls =>
    AttemptTraces (executeRequest parse parts) calls result
  | ⟨.requestWithin parts _, some result⟩, calls =>
    AttemptTraces (executeRequest parse parts) calls result
  | ⟨.requestWithin parts _, none⟩, calls =>
    ∃ rest result, AttemptTraces (executeRequest parse parts) (calls ++ rest) result
  | _, calls => calls = []

section Headers

theorem hideValue_fst (header : String × String) : (hideValue header).1 = header.1 := by
  unfold hideValue
  split <;> rfl

theorem fitsLine_empty : FitsLine (HeaderName.authorization.text, "") := by decide

/-- Headers that look alike are the same, or both are credentials that can be sent. -/
theorem hideValue_inj {first second : String × String}
    (same : hideValue first = hideValue second) :
    first = second ∨ (first.1 = HeaderName.authorization.text ∧
      second.1 = HeaderName.authorization.text ∧ FitsLine first ∧ FitsLine second) := by
  have names : first.1 = second.1 := by rw [← hideValue_fst, same, hideValue_fst]
  by_cases firstHidden : first.1 = HeaderName.authorization.text ∧ FitsLine first
  · by_cases secondFits : FitsLine second
    · exact .inr ⟨firstHidden.1, names.symm.trans firstHidden.1, firstHidden.2, secondFits⟩
    · rw [hideValue, if_pos firstHidden, hideValue,
        if_neg fun hidden => secondFits hidden.2] at same
      rw [← same, firstHidden.1] at secondFits
      exact absurd fitsLine_empty secondFits
  · by_cases secondHidden : second.1 = HeaderName.authorization.text ∧ FitsLine second
    · rw [hideValue, if_neg firstHidden, hideValue, if_pos secondHidden] at same
      rw [same, secondHidden.1] at firstHidden
      exact absurd ⟨rfl, fitsLine_empty⟩ firstHidden
    · rw [hideValue, if_neg firstHidden, hideValue, if_neg secondHidden] at same
      exact .inl same

theorem requestView_credentials (value : String) (result : Outcome) :
    requestView ⟨.addRequestHeaders (headerLine HeaderName.authorization.text value), result⟩ =
      .credentials result := by
  have lineEq : (headerLine HeaderName.authorization.text value).toList =
      HeaderName.authorization.text.toList ++ ':' :: (' ' :: value.toList ++ ['\r', '\n']) := by
    simp [headerLine]
  have name : (parseHeaderLine (headerLine HeaderName.authorization.text value)).1 =
      HeaderName.authorization.text := by
    unfold parseHeaderLine
    rw [lineEq, takeWhile_ne_append HeaderName.authorization.colon_notMem]
    exact String.ofList_toList
  exact if_pos (beq_iff_eq.mpr name)

end Headers

section Requests

variable {parse : String → Option Url}

theorem addRequestHeader_of_fits (url : Url) {header : String × String}
    (fits : FitsLine header) :
    addRequestHeader url (headerLine header.1 header.2) =
      (do checkWin32 url (← ask (.addRequestHeaders (headerLine header.1 header.2)))) :=
  if_pos fits

theorem addRequestHeader_matchedBy (url : Url) {first second : String × String}
    (same : hideValue first = hideValue second) :
    AttemptMatchedBy requestView (addRequestHeader url (headerLine first.1 first.2))
      (addRequestHeader url (headerLine second.1 second.2)) := by
  rcases hideValue_inj same with rfl | ⟨firstName, secondName, firstFits, secondFits⟩
  · exact .refl _
  · rw [addRequestHeader_of_fits url firstFits, addRequestHeader_of_fits url secondFits,
      firstName, secondName]
    refine AttemptMatchedBy.bind ?_ fun reply => .refl _
    refine matchedBy_call id (fun reply => ?_) fun reply => .refl _
    exact (requestView_credentials second.2 reply).trans
      (requestView_credentials first.2 reply).symm

theorem addHeaders_matchedBy (url : Url) {first second : List (String × String)}
    (same : first.map hideValue = second.map hideValue) :
    AttemptMatchedBy requestView (addHeaders url first) (addHeaders url second) := by
  induction first generalizing second with
  | nil =>
    rw [List.map_nil] at same
    rw [List.map_eq_nil_iff.mp same.symm]
    exact .refl _
  | cons header headers ih =>
    obtain ⟨other, others, rfl, head, rest⟩ := List.map_eq_cons_iff.mp same.symm
    exact AttemptMatchedBy.bind (addRequestHeader_matchedBy url head.symm)
      fun _ => ih rest.symm

/-- Requests that look alike are executed alike. -/
theorem executeRequest_matchedBy {first second : RequestParts}
    (same : hideParts first = hideParts second) :
    AttemptMatchedBy requestView (executeRequest parse first)
      (executeRequest parse second) := by
  obtain ⟨url, method, headers, body, proxyConfig, acceptInvalidCerts⟩ := first
  obtain ⟨_, _, others, _, _, _⟩ := second
  simp only [hideParts, RequestParts.mk.injEq] at same
  obtain ⟨rfl, rfl, headersSame, rfl, rfl, rfl⟩ := same
  refine AttemptMatchedBy.bind (AttemptMatchedBy.bind (.refl _) fun prepared => ?_)
    fun prepared => .refl _
  exact AttemptMatchedBy.bind (addHeaders_matchedBy url headersSame) fun _ => .refl _

/-- What looks alike to the client's observer is conducted alike. -/
theorem performs_alike {exchange other : Exchange clientInterface}
    {calls : List (Exchange requestInterface)} (performs : Performs parse exchange calls)
    (same : clientView other = clientView exchange) :
    ∃ matching, Performs parse other matching ∧
      matching.map requestView = calls.map requestView := by
  obtain ⟨call, reply⟩ := exchange
  obtain ⟨otherCall, otherReply⟩ := other
  cases call with
  | request parts =>
    cases otherCall with
    | request otherParts =>
      obtain ⟨partsSame, rfl⟩ := ClientView.request.inj same
      exact executeRequest_matchedBy partsSame.symm calls otherReply performs
    | _ => cases same
  | requestWithin parts timeout =>
    cases otherCall with
    | requestWithin otherParts otherTimeout =>
      obtain ⟨partsSame, rfl, rfl⟩ := ClientView.requestWithin.inj same
      have matched : AttemptMatchedBy requestView (executeRequest parse parts)
          (executeRequest parse otherParts) := executeRequest_matchedBy partsSame.symm
      cases otherReply with
      | some result => exact matched calls result performs
      | none =>
        obtain ⟨rest, result, traces⟩ := performs
        obtain ⟨matching, matchingRest, matchingTraces, seen⟩ := matched.of_prefix traces
        exact ⟨matching, ⟨matchingRest, result, matchingTraces⟩, seen⟩
    | _ => cases same
  | _ =>
    obtain rfl : calls = [] := performs
    cases otherCall with
    | request otherParts => cases same
    | requestWithin otherParts timeout => cases same
    | _ => exact ⟨[], rfl, rfl⟩

end Requests

/-- Requests that an observer of their execution cannot tell apart. -/
structure LooksLike (first second : Request) : Prop where
  method : first.method = second.method
  url : first.url = second.url
  headers : (headerList first.headers).map hideValue =
    (headerList second.headers).map hideValue
  body : first.body = second.body
  timeout : first.timeout = second.timeout
  version : first.version = second.version

section Client

variable {Uri : Type} {inner : ClientInner Uri} {libraries : UrlLibraries}
  {first second : Request}

theorem raceRequest_matchedBy {parts otherParts : RequestParts}
    (same : hideParts parts = hideParts otherParts) (timeout : Option Nat) :
    MatchedBy clientView (ClientInner.raceRequest parts timeout)
      (ClientInner.raceRequest otherParts timeout) := by
  cases timeout with
  | none =>
    refine MatchedBy.bind (matchedBy_call id (fun result => ?_) fun _ => .refl _)
      fun _ => .refl _
    exact congrArg (ClientView.request · result) same.symm
  | some timeout =>
    refine matchedBy_call id (fun result => ?_) fun _ => .refl _
    exact congrArg (ClientView.requestWithin · timeout result) same.symm

theorem executeInner_matchedBy (alike : LooksLike first second) (body : Option Body)
    (deadline : Option Nat) :
    MatchedBy clientView (inner.executeInner libraries first body deadline)
      (inner.executeInner libraries second body deadline) := by
  unfold ClientInner.executeInner
  rw [alike.url, alike.method]
  split
  · exact .refl _
  · refine MatchedBy.bind (.refl _) fun remaining => ?_
    split
    · exact .refl _
    · refine MatchedBy.bind (raceRequest_matchedBy ?_ remaining) fun _ => .refl _
      simp only [hideParts, alike.headers]

theorem retryLoop_matchedBy (alike : LooksLike first second) (deadline : Option Nat)
    (retries : Nat) :
    MatchedBy clientView (inner.retryLoop libraries first deadline retries)
      (inner.retryLoop libraries second deadline retries) := by
  induction retries with
  | zero =>
    unfold ClientInner.retryLoop
    rw [alike.body]
    exact MatchedBy.bind (executeInner_matchedBy alike _ deadline) fun _ => .refl _
  | succ remainingRetries ih =>
    unfold ClientInner.retryLoop
    rw [alike.body]
    generalize ClientInner.bodyToSend second.body (remainingRetries + 1) = sent
    obtain ⟨body, canRetry⟩ := sent
    refine MatchedBy.bind (executeInner_matchedBy alike body deadline) fun result => ?_
    cases canRetry with
    | false => exact .refl _
    | true =>
      refine MatchedBy.bind (.refl _) fun action => ?_
      rcases action with _ | (_ | _)
      · exact .refl _
      · exact .refl _
      · refine MatchedBy.bind (.refl _) fun permitted => ?_
        cases permitted with
        | false => exact .refl _
        | true => exact MatchedBy.bind (.refl _) fun _ => ih

theorem execute_matchedBy (alike : LooksLike first second) (latest : Nat) :
    MatchedBy clientView (inner.execute libraries latest first)
      (inner.execute libraries latest second) := by
  unfold ClientInner.execute
  rw [alike.timeout]
  refine MatchedBy.bind (.refl _) fun deadline => ?_
  refine MatchedBy.bind ?_ fun _ => .refl _
  unfold ClientInner.attempts
  split
  · rw [alike.body]
    exact MatchedBy.bind (executeInner_matchedBy alike _ deadline) fun _ => .refl _
  · exact retryLoop_matchedBy alike deadline _

end Client

/-- The line of the credentials is not too long to be sent. -/
def CredentialsFit (url : Url) : Prop :=
  FitsLine (HeaderName.authorization.text,
    widenLatin1 (RequestBuilder.basicScheme ++ Base64.encode url.userinfoOctets))

/-- A call, or a default of the client, gives an `Authorization`. -/
def GivesAuthorization {Uri : Type} (client : Client Uri) (calls : List BuilderCall) : Prop :=
  mergedOctets client.defaultHeaders (calls.flatMap BuilderCall.occurrences)
    .authorization ≠ []

section Building

theorem iter_append_of_absent {map : HeaderMap} {name : HeaderName}
    (absent : map.containsKey name = false) (value : HeaderValue) :
    (map.append name value).iter = map.iter ++ [(name, value)] := by
  have unknown : name ∉ map.entries.map Prod.fst := of_decide_eq_false absent
  rw [append, dif_neg unknown, iter, List.flatMap_append]
  rfl

/-- Injected credentials are the last header. -/
theorem headerList_injectAuthorization {map : HeaderMap}
    (absent : map.containsKey .authorization = false)
    (userinfo : List UInt8 × Option (List UInt8)) :
    headerList (RequestBuilder.injectAuthorization (some userinfo) map) =
      headerList map ++ [(HeaderName.authorization.text, widenLatin1
        (RequestBuilder.basicScheme ++
          Base64.encode (RequestBuilder.credentialsOf userinfo)))] := by
  obtain ⟨value, read, bytesEq⟩ :=
    RequestBuilder.fromVisible_basic (RequestBuilder.credentialsOf userinfo)
  have injected : RequestBuilder.injectAuthorization (some userinfo) map =
      map.append .authorization value := by
    rw [← insert_of_absent absent]
    simp only [RequestBuilder.injectAuthorization, absent, read]
    rfl
  rw [injected, headerList, iter_append_of_absent absent, List.map_append, bytesEq.symm]
  rfl

theorem injectAuthorization_looksAlike {first second : Url} (map : HeaderMap)
    (present : first.HasUserinfo ↔ second.HasUserinfo) (firstFits : CredentialsFit first)
    (secondFits : CredentialsFit second) :
    (headerList (RequestBuilder.injectAuthorization
        first.takeDecodedUserinfo.1 map)).map hideValue =
      (headerList (RequestBuilder.injectAuthorization
        second.takeDecodedUserinfo.1 map)).map hideValue := by
  by_cases given : map.containsKey .authorization = true
  · have value : map.octets .authorization ≠ [] := fun none => by
      rw [octets_eq_nil_iff.mp none] at given
      cases given
    rw [RequestBuilder.injectAuthorization_of_present value,
      RequestBuilder.injectAuthorization_of_present value]
  · have absent := Bool.eq_false_of_not_eq_true given
    by_cases firstPresent : first.HasUserinfo
    · obtain ⟨firstInfo, firstTaken, firstOctets⟩ :=
        RequestBuilder.takeDecodedUserinfo_of_present firstPresent
      obtain ⟨secondInfo, secondTaken, secondOctets⟩ :=
        RequestBuilder.takeDecodedUserinfo_of_present (present.mp firstPresent)
      rw [firstTaken, secondTaken, headerList_injectAuthorization absent,
        headerList_injectAuthorization absent, firstOctets, secondOctets, List.map_append,
        List.map_append]
      refine congrArg _ ?_
      rw [List.map_singleton, List.map_singleton, hideValue, hideValue,
        if_pos ⟨rfl, firstFits⟩, if_pos ⟨rfl, secondFits⟩]
    · rw [RequestBuilder.takeDecodedUserinfo_of_absent firstPresent,
        RequestBuilder.takeDecodedUserinfo_of_absent (mt present.mpr firstPresent)]

variable {Uri : Type} {client : Client Uri} {method : String} {calls : List BuilderCall}
  {first second : Url}

/-- The builder of a URL after some calls. -/
def builderOf (client : Client Uri) (method : String) (calls : List BuilderCall) (url : Url) :
    RequestBuilder Uri :=
  calls.foldl RequestBuilder.perform (.new client method (.ok url))

theorem builderOf_withoutUserinfo (alike : first.withoutUserinfo = second.withoutUserinfo) :
    (builderOf client method calls first).withoutUserinfo =
      (builderOf client method calls second).withoutUserinfo := by
  have bare : ∀ url : Url, (builderOf client method calls url).withoutUserinfo =
      builderOf client method calls url.withoutUserinfo :=
    fun url => (RequestBuilder.performs_withoutUserinfo calls (.new client method (.ok url))).symm
  rw [bare, bare, alike]

theorem hasUserinfo_of_builderOf {url after : Url}
    (kept : (builderOf client method calls url).url = .ok after) :
    after.HasUserinfo ↔ url.HasUserinfo := by
  obtain ⟨before, beforeEq, username, password⟩ := RequestBuilder.performs_userinfo kept
  obtain rfl : url = before := Except.ok.inj beforeEq
  rw [Url.HasUserinfo, Url.HasUserinfo, username, password]

theorem credentialsFit_of_builderOf {url after : Url}
    (kept : (builderOf client method calls url).url = .ok after)
    (fits : CredentialsFit url) : CredentialsFit after := by
  obtain ⟨before, beforeEq, username, password⟩ := RequestBuilder.performs_userinfo kept
  obtain rfl : url = before := Except.ok.inj beforeEq
  rw [CredentialsFit, Url.userinfoOctets, username, password]
  exact fits

/-- Builders that agree without their userinfo fail alike, or both build. -/
theorem build_alike {builder other : RequestBuilder Uri}
    (same : builder.withoutUserinfo = other.withoutUserinfo) :
    (∃ error, builder.build = .error error ∧ other.build = .error error) ∨
      ∃ (url otherUrl : Url) (merged : HeaderMap) (request : Request),
        builder.url = .ok url ∧ other.url = .ok otherUrl ∧
        RequestBuilder.appendHeaders builder.headers
          (RequestBuilder.addDefaults
            (builder.headers.map fun header => toAsciiLowercase header.1)
            builder.client.defaultHeaders) = .ok merged ∧
        builder.build = .ok
          { request with
            headers := RequestBuilder.injectAuthorization url.takeDecodedUserinfo.1
              (RequestBuilder.injectAccept merged) } ∧
        other.build = .ok
          { request with
            headers := RequestBuilder.injectAuthorization otherUrl.takeDecodedUserinfo.1
              (RequestBuilder.injectAccept merged) } := by
  obtain ⟨client, method, url, headers, body, timeout⟩ := builder
  obtain ⟨_, _, otherUrl, _, _, _⟩ := other
  simp only [RequestBuilder.withoutUserinfo, RequestBuilder.mk.injEq] at same
  obtain ⟨rfl, rfl, urlSame, rfl, rfl, rfl⟩ := same
  cases url with
  | error error =>
    cases otherUrl with
    | error otherError =>
      obtain rfl : error = otherError := Except.error.inj urlSame
      exact .inl ⟨error, rfl, rfl⟩
    | ok otherUrl => cases urlSame
  | ok url =>
    cases otherUrl with
    | error otherError => cases urlSame
    | ok otherUrl =>
      have bare : url.takeDecodedUserinfo.2 = otherUrl.takeDecodedUserinfo.2 := by
        rw [Url.takeDecodedUserinfo_url, Url.takeDecodedUserinfo_url]
        exact Except.ok.inj urlSame
      cases mergedEq : RequestBuilder.appendHeaders headers (RequestBuilder.addDefaults
          (headers.map fun header => toAsciiLowercase header.1) client.defaultHeaders) with
      | error error =>
        refine .inl ⟨error, ?_, ?_⟩ <;>
          simp only [RequestBuilder.build, bind, Except.bind, mergedEq]
      | ok merged =>
        by_cases valid : isMethod method = true
        · refine .inr ⟨url, otherUrl, merged, ⟨method, url.takeDecodedUserinfo.2, .empty, body,
            timeout, default⟩, rfl, rfl, rfl, ?_, ?_⟩
          · simp only [RequestBuilder.build, bind, Except.bind, mergedEq, valid, if_true]
          · simp only [RequestBuilder.build, bind, Except.bind, mergedEq, valid, if_true, bare]
        · refine .inl ⟨.builder (.foreign "invalid HTTP method"), ?_, ?_⟩ <;>
            simp only [RequestBuilder.build, bind, Except.bind, mergedEq, valid,
              Bool.false_eq_true, if_false]

/-- With an `Authorization` among the headers, none is injected. -/
theorem merged_authorization {url : Url} {merged : HeaderMap} {after : Url}
    (given : GivesAuthorization client calls)
    (kept : (builderOf client method calls url).url = .ok after)
    (appended : RequestBuilder.appendHeaders (builderOf client method calls url).headers
      (RequestBuilder.addDefaults
        ((builderOf client method calls url).headers.map fun header =>
          toAsciiLowercase header.1)
        (builderOf client method calls url).client.defaultHeaders) = .ok merged) :
    (RequestBuilder.injectAccept merged).octets .authorization ≠ [] := by
  have gives := RequestBuilder.performs_giveHeaders kept
  obtain ⟨pairs, pairsEq, carries⟩ := gives.headers
  have headersEq : (builderOf client method calls url).headers = pairs :=
    pairsEq.trans (List.nil_append pairs)
  have clientEq : (builderOf client method calls url).client = client := gives.client
  rw [← headersEq] at carries
  have mergedEq := RequestBuilder.merged_octets carries appended
  rw [RequestBuilder.injectAccept_other mergedEq (by decide), clientEq]
  exact given

end Building

/-- What an observer is told of two requests. -/
structure StaysSecret {Uri : Type} (parse : String → Option Url) (libraries : UrlLibraries)
    (latest : Nat) (inner : ClientInner Uri) (request other : Request) : Prop where
  alike : LooksLike request other
  executes : ∀ run result,
    Conducts (Performs parse) (inner.execute libraries latest request) run result →
      ∃ matching, Conducts (Performs parse) (inner.execute libraries latest other) matching
          result ∧
        matching.map (Conducted.seenBy clientView requestView) =
          run.map (Conducted.seenBy clientView requestView)

theorem StaysSecret.of_looksLike {Uri : Type} {parse : String → Option Url}
    {libraries : UrlLibraries} {latest : Nat} {inner : ClientInner Uri}
    {request other : Request} (looks : LooksLike request other) :
    StaysSecret parse libraries latest inner request other where
  alike := looks
  executes := fun _ _ conducts =>
    (execute_matchedBy looks latest).conducts (fun _ _ _ => performs_alike) conducts

/-- For every client, every sequence of calls on its request builder, and two URLs that
differ in their userinfo only: either both requests fail to be built with the same error,
or both are built, and an observer of all that executing them does, who is not shown the
value of an `Authorization` header, cannot tell one from the other.  With an
`Authorization` of the caller's or the client's, the requests are the same. -/
theorem userinfo_staysSecret {Uri : Type} (inner : ClientInner Uri)
    (parse : String → Option Url) (libraries : UrlLibraries) (latest : Nat)
    (method : String) (calls : List BuilderCall) (first second : Url)
    (alike : first.withoutUserinfo = second.withoutUserinfo)
    (present : (first.HasUserinfo ↔ second.HasUserinfo) ∨
      GivesAuthorization inner.toClient calls)
    (firstFits : CredentialsFit first) (secondFits : CredentialsFit second) :
    (∃ error, (builderOf inner.toClient method calls first).build = .error error ∧
      (builderOf inner.toClient method calls second).build = .error error) ∨
    ∃ request other, (builderOf inner.toClient method calls first).build = .ok request ∧
      (builderOf inner.toClient method calls second).build = .ok other ∧
      StaysSecret parse libraries latest inner request other ∧
      (GivesAuthorization inner.toClient calls → request = other) := by
  have agree : (builderOf inner.toClient method calls first).withoutUserinfo =
      (builderOf inner.toClient method calls second).withoutUserinfo :=
    builderOf_withoutUserinfo alike
  rcases build_alike agree with
    failed | ⟨url, otherUrl, merged, request, urlEq, otherEq, appended, built, otherBuilt⟩
  · exact .inl failed
  · have same : GivesAuthorization inner.toClient calls →
        RequestBuilder.injectAuthorization url.takeDecodedUserinfo.1
            (RequestBuilder.injectAccept merged) =
          RequestBuilder.injectAuthorization otherUrl.takeDecodedUserinfo.1
            (RequestBuilder.injectAccept merged) := by
      intro given
      have value := merged_authorization given urlEq appended
      rw [RequestBuilder.injectAuthorization_of_present value,
        RequestBuilder.injectAuthorization_of_present value]
    have headers : (headerList (RequestBuilder.injectAuthorization
          url.takeDecodedUserinfo.1 (RequestBuilder.injectAccept merged))).map hideValue =
        (headerList (RequestBuilder.injectAuthorization
          otherUrl.takeDecodedUserinfo.1 (RequestBuilder.injectAccept merged))).map
            hideValue := by
      rcases present with both | given
      · have bothAfter : url.HasUserinfo ↔ otherUrl.HasUserinfo :=
          (hasUserinfo_of_builderOf urlEq).trans
            (both.trans (hasUserinfo_of_builderOf otherEq).symm)
        exact injectAuthorization_looksAlike _ bothAfter
          (credentialsFit_of_builderOf urlEq firstFits)
          (credentialsFit_of_builderOf otherEq secondFits)
      · rw [same given]
    exact .inr ⟨_, _, built, otherBuilt, .of_looksLike ⟨rfl, rfl, headers, rfl, rfl, rfl⟩,
      fun given => by rw [same given]⟩

/-- Two names for one host, at a client with a timeout. -/
theorem userinfo_staysSecret_named :
    ∃ request other,
      (builderOf timedClient.toClient "GET" []
        { bareUrl true with username := "a" }).build = .ok request ∧
      (builderOf timedClient.toClient "GET" []
        { bareUrl true with username := "b" }).build = .ok other ∧
      request.headers.octets .authorization ≠ other.headers.octets .authorization ∧
      StaysSecret (fun _ => none) Url.grammarLibraries 100 timedClient request other := by
  have secret := userinfo_staysSecret timedClient (fun _ => none) Url.grammarLibraries 100
    "GET" [] { bareUrl true with username := "a" } { bareUrl true with username := "b" } rfl
    (.inl ⟨fun _ => .inl (by decide), fun _ => .inl (by decide)⟩)
    (show FitsLine _ by decide) (show FitsLine _ by decide)
  rcases secret with ⟨error, failed, -⟩ | ⟨request, other, built, otherBuilt, secret, -⟩
  · cases failed
  · refine ⟨request, other, built, otherBuilt, ?_, secret⟩
    cases built
    cases otherBuilt
    decide

end Wrest.Secrecy
