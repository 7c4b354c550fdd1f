import Wrest.RequestBuilderCalls

/-!
# The content type of a built request

A JSON or form body announces its media type by one more `Content-Type` header, and a
later call takes neither the header of an earlier one back nor adds its own to it.  The
body itself is the one that the last call set.
-/

namespace Wrest

open HeaderMap

namespace BuilderCall

/-- The media type that a call announces. -/
def media : BuilderCall → Option String
  | .headers (.json _) => some "application/json"
  | .headers (.form _) => some "application/x-www-form-urlencoded"
  | _ => none

def bodySet : BuilderCall → Option Body
  | .headers (.json (.ok content)) => some { inner := .bytes content }
  | .headers (.form (.ok encoded)) => some { inner := .bytes (utf8Bytes encoded) }
  | .body content => some content
  | _ => none

/-- The caller gives a `Content-Type` as a header. -/
def GivesContentType (call : BuilderCall) : Prop :=
  call.media = none ∧ .contentType ∈ call.occurrences.map Prod.fst

instance (call : BuilderCall) : Decidable call.GivesContentType :=
  inferInstanceAs (Decidable (_ ∧ _))

/-- The last body that was set, and the media type announced with it. -/
def inForce (calls : List BuilderCall) : Option (Body × Option String) :=
  calls.reverse.findSome? fun call => call.bodySet.map fun content => (content, call.media)

theorem inForce_append (calls : List BuilderCall) (call : BuilderCall) :
    inForce (calls ++ [call]) =
      (call.bodySet.map fun content => (content, call.media)).or (inForce calls) := by
  rw [inForce, List.reverse_append, List.reverse_singleton, List.singleton_append,
    List.findSome?_cons]
  cases call.bodySet <;> rfl

theorem media_mem_of_inForce {calls : List BuilderCall} {body : Body} {media : String}
    (last : inForce calls = some (body, some media)) :
    media ∈ calls.filterMap BuilderCall.media := by
  obtain ⟨call, member, found⟩ := List.exists_of_findSome?_eq_some last
  rw [List.mem_filterMap]
  refine ⟨call, List.mem_reverse.mp member, ?_⟩
  obtain ⟨_, _, pairEq⟩ := Option.map_eq_some_iff.mp found
  exact congrArg Prod.snd pairEq

/-- A call that does not give the header gives the one of its media type. -/
theorem valuesAmong_contentType {call : BuilderCall} (implicit : ¬call.GivesContentType) :
    valuesAmong call.occurrences .contentType = call.media.toList.map utf8Bytes := by
  by_cases none : call.media = none
  · have absent : .contentType ∉ call.occurrences.map Prod.fst :=
      fun given => implicit ⟨none, given⟩
    rw [valuesAmong_eq_nil_iff.mpr absent, none]
    rfl
  · cases call with
    | headers headerCall =>
      cases headerCall with
      | json data => rfl
      | form encoded => rfl
      | header name value => exact absurd rfl none
      | headers map => exact absurd rfl none
      | bearerAuth token => exact absurd rfl none
      | basicAuth username password => exact absurd rfl none
    | body body => exact absurd rfl none
    | query encoded => exact absurd rfl none
    | timeout timeout => exact absurd rfl none

theorem valuesAmong_flatMap_contentType {calls : List BuilderCall}
    (implicit : ∀ call ∈ calls, ¬call.GivesContentType) :
    valuesAmong (calls.flatMap occurrences) .contentType =
      (calls.filterMap media).map utf8Bytes := by
  induction calls with
  | nil => rfl
  | cons call calls ih =>
    rw [List.flatMap_cons, valuesAmong_append,
      valuesAmong_contentType (implicit call List.mem_cons_self),
      ih fun other member => implicit other (List.mem_cons_of_mem call member),
      ← List.map_append]
    congr 1
    cases mediaEq : call.media with
    | none => simp [mediaEq]
    | some media => simp [mediaEq]

end BuilderCall

namespace RequestBuilder

variable {Uri : Type}

theorem header_body (builder : RequestBuilder Uri) (name : Except ErrorSource HeaderName)
    (value : Except ErrorSource HeaderValue) :
    (builder.header name value).body = builder.body := by
  cases name with
  | error source => rfl
  | ok name => cases value <;> rfl

theorem perform_body (builder : RequestBuilder Uri) (call : BuilderCall) :
    (builder.perform call).body = call.bodySet.or builder.body := by
  cases call with
  | headers headerCall =>
    cases headerCall with
    | header name value => exact header_body builder name value
    | headers map => rfl
    | bearerAuth token =>
      exact header_body builder (.ok .authorization)
        (HeaderValue.ofString ("Bearer " ++ token))
    | basicAuth username password =>
      change (builder.basicAuth username password).body = builder.body
      rw [basicAuth_eq]
      exact header_body builder (.ok .authorization) _
    | json data => cases data <;> rfl
    | form encoded => cases encoded <;> rfl
  | body body => rfl
  | query encoded =>
    cases encoded with
    | error error => rfl
    | ok queryText =>
      change (builder.query (.ok queryText)).body = builder.body
      unfold query
      cases builder.url <;> rfl
  | timeout timeout => rfl

theorem performs_body (calls : List BuilderCall) (builder : RequestBuilder Uri) :
    (calls.foldl perform builder).body =
      ((BuilderCall.inForce calls).map Prod.fst).or builder.body := by
  induction calls using List.reverseRecOn with
  | nil => rfl
  | append_singleton calls call ih =>
    rw [List.foldl_append, List.foldl_cons, List.foldl_nil, perform_body, ih,
      BuilderCall.inForce_append]
    cases call.bodySet <;> rfl

end RequestBuilder

/-- What the headers of a request say of its body. -/
structure AnnouncesMedia (calls : List BuilderCall) (request : Request) : Prop where
  single : (request.headers.octets .contentType).length ≤ 1
  last : ∀ body media, BuilderCall.inForce calls = some (body, some media) →
    request.headers.octets .contentType = [utf8Bytes media]

theorem announcesMedia_iff {calls : List BuilderCall} {request : Request}
    (octetsEq : request.headers.octets .contentType =
      (calls.filterMap BuilderCall.media).map utf8Bytes) :
    AnnouncesMedia calls request ↔ (calls.filterMap BuilderCall.media).length ≤ 1 := by
  constructor
  · intro announces
    have single := announces.single
    rwa [octetsEq, List.length_map] at single
  · intro single
    refine ⟨by rwa [octetsEq, List.length_map], ?_⟩
    intro body media last
    have member := BuilderCall.media_mem_of_inForce last
    obtain ⟨other, mediaEq⟩ := List.length_eq_one_iff.mp
      (Nat.le_antisymm single (List.length_pos_of_mem member))
    rw [mediaEq] at member
    rw [octetsEq, mediaEq, List.mem_singleton.mp member]
    rfl

/-- For every sequence of calls on a new builder that gives no `Content-Type` itself:
a built request has the last body, and the media type of this body as its only content
type if and only if at most one of the calls announces a media type. -/
theorem build_announcesMedia_iff {Uri : Type} (client : Client Uri) (method : String)
    (url : Except Error Url) (calls : List BuilderCall) (request : Request)
    (noDefault : client.defaultHeaders.containsKey .contentType = false)
    (implicit : ∀ call ∈ calls, ¬call.GivesContentType)
    (built : (calls.foldl RequestBuilder.perform
      (RequestBuilder.new client method url)).build = .ok request) :
    request.body = (BuilderCall.inForce calls).map Prod.fst ∧
      (AnnouncesMedia calls request ↔
        (calls.filterMap BuilderCall.media).length ≤ 1) := by
  obtain ⟨_, _, urlEq, _, _, requestEq⟩ := RequestBuilder.build_eq_ok_iff.mp built
  have gives := RequestBuilder.performs_giveHeaders urlEq
  obtain ⟨pairs, headersEq, carries⟩ := gives.headers
  change _ = [] ++ pairs at headersEq
  rw [List.nil_append] at headersEq
  obtain ⟨_, -, -, merges⟩ :=
    RequestBuilder.mergesHeaders_of_build (headersEq ▸ carries) built
  have clientEq : (calls.foldl RequestBuilder.perform
      (RequestBuilder.new client method url)).client = client := gives.client
  have octetsEq : request.headers.octets .contentType =
      (calls.filterMap BuilderCall.media).map utf8Bytes := by
    rw [merges.other .contentType (by decide) (by decide), mergedOctets, clientEq,
      octets_eq_nil_iff.mpr noDefault, BuilderCall.valuesAmong_flatMap_contentType implicit]
    split
    · next none => exact none.symm
    · rfl
  refine ⟨?_, announcesMedia_iff octetsEq⟩
  rw [requestEq]
  exact (RequestBuilder.performs_body calls _).trans Option.or_none

section Example

def jsonCall : BuilderCall :=
  .headers (.json (.ok [123, 125]))

def formCall : BuilderCall :=
  .headers (.form (.ok "a=b"))

theorem build_announcesMedia_iff_json :
    ∃ request,
      ([jsonCall].foldl RequestBuilder.perform (RequestBuilder.new
        (exampleClient .empty) "POST" (.ok (bareUrl true)))).build = .ok request ∧
      request.body = (BuilderCall.inForce [jsonCall]).map Prod.fst ∧
      (AnnouncesMedia [jsonCall] request ↔
        ([jsonCall].filterMap BuilderCall.media).length ≤ 1) :=
  ⟨_, rfl, build_announcesMedia_iff (exampleClient .empty) "POST" (.ok (bareUrl true))
    [jsonCall] _ rfl (by decide) rfl⟩

/-- A form body behind a JSON body is sent with two content types. -/
theorem build_announces_two :
    ∃ request,
      ([jsonCall, formCall].foldl RequestBuilder.perform (RequestBuilder.new
        (exampleClient .empty) "POST" (.ok (bareUrl true)))).build = .ok request ∧
      request.headers.octets .contentType =
        [utf8Bytes "application/json", utf8Bytes "application/x-www-form-urlencoded"] ∧
      ¬AnnouncesMedia [jsonCall, formCall] request :=
  ⟨_, rfl, rfl, fun announces => absurd announces.single (by decide)⟩

end Example

end Wrest
