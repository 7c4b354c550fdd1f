import Wrest.RebuiltRequests
import Wrest.UrlRoundTrips

/-!
# The credentials of a userinfo

The userinfo of a URL is split at its first colon, and the octets that its two parts
encode are sent as the credentials of an `Authorization` header, unless there is one.
The request is the one that `basic_auth` gives for the URL without its userinfo.
-/

namespace Wrest

open HeaderMap PercentEncoding Uri

/-- Text in a userinfo that stands for octets. -/
def Encodes (text : List Char) (octets : List UInt8) : Prop :=
  percentDecode (utf8Bytes (String.ofList (encodeNonAscii text))) = octets

/-- A userinfo that gives a name and a password.  No colon is needed for an empty
password. -/
inductive Presents : List Char → List UInt8 → List UInt8 → Prop
  | pair {user password : List Char} {u p : List UInt8} (noColon : ':' ∉ user)
      (name : Encodes user u) (secret : Encodes password p) :
      Presents (user ++ ':' :: password) u p
  | name {user : List Char} {u : List UInt8} (noColon : ':' ∉ user)
      (name : Encodes user u) : Presents user u []

section Encoding

theorem utf8Bytes_percentOctets (octets : List UInt8) :
    utf8Bytes (String.ofList (octets.flatMap percentOctet)) =
      octets.flatMap percentEncode := by
  have asciiDigit : ∀ digit < 16,
      String.utf8EncodeChar (upperHexDigit digit) = [hexDigit digit] := by
    intro digit lt
    rw [utf8EncodeChar_of_isAscii (upperHexDigit_spec lt).2]
    have checked : ∀ digit : Fin 16,
        [UInt8.ofNat (upperHexDigit digit.val).toNat] = [hexDigit digit.val] := by decide
    exact checked ⟨digit, lt⟩
  have sign : String.utf8EncodeChar '%' = [percent] := by decide
  rw [utf8Bytes, String.toList_ofList, List.flatMap_assoc]
  apply List.flatMap_congr
  intro octet _
  simp only [percentOctet, List.flatMap_cons, List.flatMap_nil, sign,
    asciiDigit _ (octet_div_lt octet), asciiDigit _ (octet_mod_lt octet), percentEncode,
    List.cons_append, List.nil_append]

/-- The octets of text that is percent-encoded throughout. -/
theorem percentDecode_flatMap_percentEncode (octets : List UInt8) :
    percentDecode (octets.flatMap percentEncode) = octets := by
  induction octets with
  | nil => rfl
  | cons octet octets ih => rw [List.flatMap_cons, percentDecode_percentEncode, ih]

theorem encodes_percentOctets (octets : List UInt8) :
    Encodes (octets.flatMap percentOctet) octets := by
  rw [Encodes, encodeNonAscii_of_ascii fun _ => isAscii_of_mem_percentOctets,
    utf8Bytes_percentOctets, percentDecode_flatMap_percentEncode]

theorem colon_notMem_percentOctets (octets : List UInt8) :
    ':' ∉ octets.flatMap percentOctet := by
  intro member
  have digits : ∀ digit : Fin 16, upperHexDigit digit.val ≠ ':' := by decide
  obtain ⟨octet, -, member⟩ := List.mem_flatMap.mp member
  simp only [percentOctet, List.mem_cons, List.not_mem_nil, or_false] at member
  rcases member with impossible | same | same
  · exact absurd impossible (by decide)
  · exact digits ⟨_, octet_div_lt octet⟩ same.symm
  · exact digits ⟨_, octet_mod_lt octet⟩ same.symm

/-- Every name and password has a userinfo that is valid in a URL. -/
theorem exists_presents (u p : List UInt8) :
    ∃ userinfo, isEncoded isUserinfoChar userinfo = true ∧ Presents userinfo u p := by
  refine ⟨_, ?_, .pair (colon_notMem_percentOctets u) (encodes_percentOctets u)
    (encodes_percentOctets p)⟩
  rw [isEncoded_percentOctets, isEncoded_cons (by decide)]
  have rest := isEncoded_percentOctets isUserinfoChar p []
  rw [List.append_nil] at rest
  rw [rest]
  rfl

end Encoding

namespace Url

/-- The raw userinfo is split at its first colon, and an empty password is dropped. -/
structure SplitsAtFirstColon (userinfo : List Char) (url : Url) : Prop where
  pair : ∀ user password, userinfo = user ++ ':' :: password → ':' ∉ user →
    url.username = String.ofList (encodeNonAscii user) ∧
    url.password =
      if password = [] then none else some (String.ofList (encodeNonAscii password))
  name : ':' ∉ userinfo →
    url.username = String.ofList (encodeNonAscii userinfo) ∧ url.password = none

end Url

theorem splitUserinfo_colon {user : List Char} (noColon : ':' ∉ user)
    (password : List Char) :
    splitUserinfo (some (user ++ ':' :: password)) =
      (String.ofList user,
        if password = [] then none else some (String.ofList password)) := by
  simp only [splitUserinfo, splitOnce_append noColon]
  cases password <;> rfl

theorem splitUserinfo_noColon {userinfo : List Char} (noColon : ':' ∉ userinfo) :
    splitUserinfo (some userinfo) = (String.ofList userinfo, none) := by
  have whole : splitOnce ':' userinfo = none := by simp [splitOnce, noColon]
  simp only [splitUserinfo, whole]

theorem colon_mem_of_encodeNonAscii {text : List Char} (member : ':' ∈ encodeNonAscii text) :
    ':' ∈ text := by
  obtain ⟨source, sourceMember, member⟩ := List.mem_flatMap.mp member
  unfold encodeCharacter at member
  split at member
  · rwa [List.mem_singleton.mp member]
  · exact absurd member (colon_notMem_percentOctets _)

theorem encodeNonAscii_eq_nil_iff {text : List Char} :
    encodeNonAscii text = [] ↔ text = [] := by
  constructor
  · intro empty
    cases text with
    | nil => rfl
    | cons character rest =>
      have none := List.flatMap_eq_nil_iff.mp empty character List.mem_cons_self
      unfold encodeCharacter at none
      split at none
      · cases none
      · obtain ⟨octet, member⟩ :=
          List.exists_mem_of_ne_nil _ (String.utf8EncodeChar_ne_nil (c := character))
        exact absurd (List.flatMap_eq_nil_iff.mp none octet member) (List.cons_ne_nil _ _)
  · rintro rfl
    rfl

theorem encodeNonAscii_colon (user password : List Char) :
    encodeNonAscii (user ++ ':' :: password) =
      encodeNonAscii user ++ ':' :: encodeNonAscii password := by
  rw [encodeNonAscii, List.flatMap_append]
  exact congrArg _ (encodeNonAscii_cons rfl password)

namespace Url

/-- The userinfo of a URL is split behind the encoding of what is outside ASCII. -/
theorem splitsAtFirstColon_of_split {url : Url} {userinfo : List Char}
    (username : url.username = (splitUserinfo (some (encodeNonAscii userinfo))).1)
    (password : url.password = (splitUserinfo (some (encodeNonAscii userinfo))).2) :
    url.SplitsAtFirstColon userinfo := by
  constructor
  · rintro user secret rfl noColon
    have split := splitUserinfo_colon (mt colon_mem_of_encodeNonAscii noColon)
      (encodeNonAscii secret)
    rw [encodeNonAscii_colon, split] at username password
    refine ⟨username, ?_⟩
    rw [password]
    simp only [encodeNonAscii_eq_nil_iff]
  · intro noColon
    rw [splitUserinfo_noColon (mt colon_mem_of_encodeNonAscii noColon)] at username password
    exact ⟨username, password⟩

theorem takeDecodedUserinfo_url (url : Url) :
    url.takeDecodedUserinfo.2 = url.withoutUserinfo := by
  unfold takeDecodedUserinfo
  split
  · next absent =>
    obtain ⟨username, password⟩ := absent
    cases url
    cases username
    cases password
    rfl
  · rfl

theorem not_hasUserinfo_withoutUserinfo (url : Url) : ¬url.withoutUserinfo.HasUserinfo := by
  rintro (username | password)
  · exact username rfl
  · exact password rfl

/-- The octets of a userinfo that gives a name and a password. -/
theorem userinfoOctets_of_presents {url : Url} {userinfo : List Char} {u p : List UInt8}
    (splits : url.SplitsAtFirstColon userinfo) (presents : Presents userinfo u p)
    (nonempty : u ≠ [] ∨ p ≠ []) :
    url.HasUserinfo ∧ url.userinfoOctets = u ++ [58] ++ p := by
  have named : ∀ {text : List Char}, Encodes text u → u ≠ [] →
      String.ofList (encodeNonAscii text) ≠ "" := by
    intro text encodes given empty
    rw [Encodes, empty] at encodes
    exact given encodes.symm
  cases presents with
  | @pair user password _ _ noColon name secret =>
    obtain ⟨usernameEq, passwordEq⟩ := splits.pair user password rfl noColon
    rw [userinfoOctets, HasUserinfo, usernameEq, passwordEq]
    by_cases empty : password = []
    · subst empty
      obtain rfl : [] = p := secret
      refine ⟨.inl (named name (nonempty.resolve_right fun given => given rfl)), ?_⟩
      rw [if_pos rfl, name]
      rfl
    · rw [if_neg empty, Option.getD_some, name, secret]
      exact ⟨.inr (Option.some_ne_none _), rfl⟩
  | name noColon name =>
    obtain ⟨usernameEq, passwordEq⟩ := splits.name noColon
    rw [userinfoOctets, HasUserinfo, usernameEq, passwordEq, name]
    exact ⟨.inl (named name (nonempty.resolve_right fun given => given rfl)), rfl⟩

end Url

namespace RequestBuilder

variable {Uri : Type}

def withoutUserinfo (builder : RequestBuilder Uri) : RequestBuilder Uri :=
  { builder with url := builder.url.map Url.withoutUserinfo }

theorem appendQuery_withoutUserinfo (url : Url) (queryText : String) :
    appendQuery url.withoutUserinfo queryText =
      (appendQuery url queryText).withoutUserinfo := by
  unfold appendQuery
  split
  · change (if url.query = some "" then _ else _) = _
    split <;> rfl
  · rfl

theorem appendQuery_userinfo (url : Url) (queryText : String) :
    (appendQuery url queryText).username = url.username ∧
      (appendQuery url queryText).password = url.password := by
  unfold appendQuery
  split
  · split <;> exact ⟨rfl, rfl⟩
  · exact ⟨rfl, rfl⟩

theorem header_withoutUserinfo (builder : RequestBuilder Uri)
    (name : Except ErrorSource HeaderName) (value : Except ErrorSource HeaderValue) :
    builder.withoutUserinfo.header name value =
      (builder.header name value).withoutUserinfo := by
  cases name with
  | error source => rfl
  | ok name => cases value <;> rfl

/-- No call reads the userinfo. -/
theorem perform_withoutUserinfo (builder : RequestBuilder Uri) (call : BuilderCall) :
    builder.withoutUserinfo.perform call = (builder.perform call).withoutUserinfo := by
  cases call with
  | headers headerCall =>
    cases headerCall with
    | header name value => exact header_withoutUserinfo builder name value
    | headers map => rfl
    | bearerAuth token =>
      exact header_withoutUserinfo builder (.ok .authorization)
        (HeaderValue.ofString ("Bearer " ++ token))
    | basicAuth username password =>
      change builder.withoutUserinfo.basicAuth username password =
        (builder.basicAuth username password).withoutUserinfo
      rw [basicAuth_eq, basicAuth_eq]
      exact header_withoutUserinfo builder (.ok .authorization) _
    | json data => cases data <;> rfl
    | form encoded => cases encoded <;> rfl
  | body body => rfl
  | query encoded =>
    cases encoded with
    | error error => rfl
    | ok queryText =>
      obtain ⟨client, method, url, headers, body, timeout⟩ := builder
      cases url with
      | error error => rfl
      | ok url =>
        simp only [perform, query, withoutUserinfo, Except.map, appendQuery_withoutUserinfo]
  | timeout timeout => rfl

theorem performs_withoutUserinfo (calls : List BuilderCall) (builder : RequestBuilder Uri) :
    calls.foldl perform builder.withoutUserinfo =
      (calls.foldl perform builder).withoutUserinfo := by
  induction calls generalizing builder with
  | nil => rfl
  | cons call calls ih =>
    rw [List.foldl_cons, perform_withoutUserinfo, ih]
    rfl

/-- Every call keeps the userinfo. -/
theorem perform_userinfo {builder : RequestBuilder Uri} {call : BuilderCall} {after : Url}
    (kept : (builder.perform call).url = .ok after) :
    ∃ before, builder.url = .ok before ∧ after.username = before.username ∧
      after.password = before.password := by
  cases call with
  | headers headerCall =>
    have adds := call_adds kept
    exact ⟨after, adds.url.symm.trans kept, rfl, rfl⟩
  | body body => exact ⟨after, kept, rfl, rfl⟩
  | query encoded =>
    cases encoded with
    | error error => cases kept
    | ok queryText =>
      obtain ⟨client, method, url, headers, body, timeout⟩ := builder
      cases url with
      | error error => cases kept
      | ok before =>
        cases kept
        exact ⟨before, rfl, appendQuery_userinfo before queryText⟩
  | timeout timeout => exact ⟨after, kept, rfl, rfl⟩

theorem performs_userinfo {calls : List BuilderCall} {builder : RequestBuilder Uri}
    {after : Url} (kept : (calls.foldl perform builder).url = .ok after) :
    ∃ before, builder.url = .ok before ∧ after.username = before.username ∧
      after.password = before.password := by
  induction calls generalizing builder with
  | nil => exact ⟨after, kept, rfl, rfl⟩
  | cons call calls ih =>
    obtain ⟨middle, middleEq, username, password⟩ := ih kept
    obtain ⟨before, beforeEq, usernameEq, passwordEq⟩ := perform_userinfo middleEq
    exact ⟨before, beforeEq, username.trans usernameEq, password.trans passwordEq⟩

/-- The octets of every name when the credentials of the URL are injected. -/
theorem injected_octets {builder : RequestBuilder Uri} {request : Request} {url : Url}
    (built : builder.build = .ok request) (urlEq : builder.url = .ok url)
    (present : url.HasUserinfo) {occurrences : List (HeaderName × List UInt8)}
    (carries : List.Forall₂ Carries builder.headers occurrences)
    (missing : mergedOctets builder.client.defaultHeaders occurrences .authorization = []) :
    request.headers.octets .authorization =
      [basicScheme ++ Base64.encode url.userinfoOctets] := by
  obtain ⟨found, merged, foundEq, appended, -, rfl⟩ := build_eq_ok_iff.mp built
  obtain rfl : url = found := Except.ok.inj (urlEq.symm.trans foundEq)
  obtain ⟨userinfo, taken, credentials⟩ := takeDecodedUserinfo_of_present present
  have mergedEq := merged_octets carries appended
  have none : (injectAccept merged).octets .authorization = [] :=
    (injectAccept_other mergedEq (by decide)).trans missing
  change (injectAuthorization url.takeDecodedUserinfo.1 (injectAccept merged)).octets _ = _
  rw [taken, injectAuthorization_octets none, if_pos rfl, credentials]

/-- The loop over the headers ends without an error when each pair can be read. -/
theorem appendHeaders_isOk_iff {pairs : List (String × String)} {map : HeaderMap} :
    (∃ merged, appendHeaders pairs map = .ok merged) ↔
      ∀ pair ∈ pairs, HeaderName.fromText pair.1.toList ≠ none ∧
        HeaderValue.fromBytes (narrowLatin1 pair.2) ≠ none := by
  induction pairs generalizing map with
  | nil => exact ⟨fun _ => nofun, fun _ => ⟨map, rfl⟩⟩
  | cons pair pairs ih =>
    rw [appendHeaders, List.forall_mem_cons]
    cases HeaderName.fromText pair.1.toList with
    | none => simp
    | some name =>
      cases HeaderValue.fromBytes (narrowLatin1 pair.2) with
      | none => simp
      | some value =>
        simp only [ne_eq, reduceCtorEq, not_false_eq_true, and_self, true_and]
        exact ih

theorem basicAuth_adds (builder : RequestBuilder Uri) (username : String)
    (password : Option String) :
    ∃ value : HeaderValue,
      value.bytes = basicScheme ++
        Base64.encode (utf8Bytes username ++ [58] ++ utf8Bytes (password.getD "")) ∧
      builder.basicAuth username password =
        { builder with
          headers := builder.headers ++
            [(HeaderName.authorization.text, widenLatin1 value.bytes)] } := by
  obtain ⟨value, -, bytesEq⟩ :=
    fromVisible_basic (utf8Bytes username ++ [58] ++ utf8Bytes (password.getD ""))
  refine ⟨value, bytesEq, ?_⟩
  have read : HeaderValue.ofString ("Basic " ++ String.ofList
      ((Base64.encode (utf8Bytes username ++ [58] ++
        utf8Bytes (password.getD ""))).map latin1Char)) = .ok value := by
    have scheme : utf8Bytes "Basic " = basicScheme := by decide
    rw [HeaderValue.ofString, utf8Bytes_append, utf8Bytes_latin1 (encode_ascii _), scheme,
      ← bytesEq, HeaderValue.fromBytes_bytes_self]
  rw [basicAuth_eq, read]
  rfl

/-- Basic authentication on a builder whose build succeeds. -/
theorem build_basicAuth {builder : RequestBuilder Uri} {request : Request}
    (built : builder.build = .ok request) (username : String) (password : Option String) :
    ∃ other, (builder.withoutUserinfo.basicAuth username password).build = .ok other ∧
      { other with headers := request.headers } = request := by
  obtain ⟨url, merged, urlEq, appended, valid, rfl⟩ := build_eq_ok_iff.mp built
  obtain ⟨value, -, added⟩ := basicAuth_adds builder.withoutUserinfo username password
  have readable : ∀ pair ∈ builder.headers ++
      [(HeaderName.authorization.text, widenLatin1 value.bytes)],
      HeaderName.fromText pair.1.toList ≠ none ∧
        HeaderValue.fromBytes (narrowLatin1 pair.2) ≠ none := by
    rw [List.forall_mem_append, List.forall_mem_singleton, HeaderName.fromText_toList,
      narrowLatin1_widenLatin1, HeaderValue.fromBytes_bytes_self]
    exact ⟨appendHeaders_isOk_iff.mp ⟨merged, appended⟩, Option.some_ne_none _,
      Option.some_ne_none _⟩
  obtain ⟨mergedToo, appendedToo⟩ := appendHeaders_isOk_iff.mpr readable
  have plainUrl : builder.withoutUserinfo.url = .ok url.withoutUserinfo := by
    rw [withoutUserinfo, urlEq]
    rfl
  rw [added]
  refine ⟨_, build_eq_ok_iff.mpr ⟨_, mergedToo, plainUrl, appendedToo, valid, rfl⟩, ?_⟩
  rw [takeDecodedUserinfo_of_absent url.not_hasUserinfo_withoutUserinfo,
    Url.takeDecodedUserinfo_url]
  rfl

end RequestBuilder

theorem mergedOctets_append_of_ne (defaults : HeaderMap)
    (given : List (HeaderName × List UInt8)) {name other : HeaderName}
    (different : name ≠ other) (value : List UInt8) :
    mergedOctets defaults (given ++ [(name, value)]) other =
      mergedOctets defaults given other := by
  have absent : valuesAmong [(name, value)] other = [] := by
    rw [valuesAmong_eq_nil_iff]
    simpa using Ne.symm different
  simp only [mergedOctets, valuesAmong_append, absent, List.append_nil]

/-- Two requests with the same headers apart from `Authorization`, where one injects
what the other is given. -/
theorem octets_eq_of_merges {defaults headers others : HeaderMap}
    {given : List (HeaderName × List UInt8)} {url plain : Url} {value : List UInt8}
    (missing : mergedOctets defaults given .authorization = [])
    (merges : MergesHeaders defaults given url headers)
    (injected : headers.octets .authorization = [value])
    (othersMerge : MergesHeaders defaults (given ++ [(.authorization, value)]) plain others)
    (name : HeaderName) : others.octets name = headers.octets name := by
  by_cases isAuthorization : name = .authorization
  · have notGiven : valuesAmong given .authorization = [] := by
      by_contra some
      rw [mergedOctets, if_neg some] at missing
      exact some missing
    have added : mergedOctets defaults (given ++ [(.authorization, value)])
        .authorization = [value] := by
      simp [mergedOctets, valuesAmong_append, valuesAmong_cons, notGiven]
    have kept := othersMerge.authorization
      (.inl (added.symm ▸ List.cons_ne_nil value []))
    rw [isAuthorization, injected, kept, added]
  · have same := mergedOctets_append_of_ne defaults given (Ne.symm isAuthorization) value
    by_cases isAccept : name = .accept
    · subst isAccept
      rw [othersMerge.accept, merges.accept, same]
    · rw [othersMerge.other name isAccept isAuthorization,
        merges.other name isAccept isAuthorization, same]

namespace RequestBuilder

variable {Uri : Type} {builder : RequestBuilder Uri} {request : Request} {url : Url}
variable {occurrences : List (HeaderName × List UInt8)}

/-- Basic authentication gives the octets that the userinfo gave. -/
theorem build_basicAuth_octets (built : builder.build = .ok request)
    (urlEq : builder.url = .ok url) (present : url.HasUserinfo)
    (carries : List.Forall₂ Carries builder.headers occurrences)
    (missing : mergedOctets builder.client.defaultHeaders occurrences .authorization = [])
    {username : String} {password : Option String}
    (credentials : utf8Bytes username ++ [58] ++ utf8Bytes (password.getD "") =
      url.userinfoOctets)
    {other : Request}
    (otherBuilt : (builder.withoutUserinfo.basicAuth username password).build = .ok other)
    (name : HeaderName) : other.headers.octets name = request.headers.octets name := by
  have injected := injected_octets built urlEq present carries missing
  obtain ⟨_, -, -, merges⟩ := mergesHeaders_of_build carries built
  obtain ⟨value, valueEq, added⟩ := basicAuth_adds builder.withoutUserinfo username password
  have carriesToo : List.Forall₂ Carries
      (builder.withoutUserinfo.basicAuth username password).headers
        (occurrences ++ [(.authorization, value.bytes)]) := by
    rw [added]
    exact List.rel_append carries (.cons (carries_widen .authorization value) .nil)
  obtain ⟨_, -, -, othersMerge⟩ := mergesHeaders_of_build carriesToo otherBuilt
  rw [added, valueEq, credentials] at othersMerge
  exact octets_eq_of_merges missing merges injected othersMerge name

end RequestBuilder

section Requests

variable {Uri : Type} (client : Client Uri) (method : String) (calls : List BuilderCall)

/-- A request carries the credentials, and apart from the order of its header names it
is the one that `basic_auth` gives for the URL without userinfo. -/
structure SendsCredentials (plain : Url) (u p : List UInt8) (request : Request) : Prop where
  authorization : request.headers.octets .authorization =
    [RequestBuilder.basicScheme ++ Base64.encode (u ++ [58] ++ p)]
  url : ¬request.url.HasUserinfo
  basicAuth : ∀ (username : String) (password : Option String),
    utf8Bytes username = u → utf8Bytes (password.getD "") = p →
    ∃ other,
      ((calls ++ [BuilderCall.headers (.basicAuth username password)]).foldl
        RequestBuilder.perform (RequestBuilder.new client method (.ok plain))).build =
          .ok other ∧
      { other with headers := request.headers } = request ∧
      ∀ name, other.headers.octets name = request.headers.octets name

variable {client method calls}
variable {url : Url} {userinfo : List Char} {u p : List UInt8} {request : Request}

theorem sendsCredentials_of_presents (splits : url.SplitsAtFirstColon userinfo)
    (presents : Presents userinfo u p) (nonempty : u ≠ [] ∨ p ≠ [])
    (noDefault : client.defaultHeaders.containsKey .authorization = false)
    (implicit : ∀ call ∈ calls, .authorization ∉ call.occurrences.map Prod.fst)
    (built : (calls.foldl RequestBuilder.perform
      (RequestBuilder.new client method (.ok url))).build = .ok request) :
    SendsCredentials client method calls url.withoutUserinfo u p request := by
  obtain ⟨final, _, finalEq, _, _, requestEq⟩ := RequestBuilder.build_eq_ok_iff.mp built
  obtain ⟨_, ⟨⟩, username, password⟩ := RequestBuilder.performs_userinfo finalEq
  have finalSplits : final.SplitsAtFirstColon userinfo :=
    ⟨by rw [username, password]; exact splits.pair,
      by rw [username, password]; exact splits.name⟩
  obtain ⟨present, octetsEq⟩ := Url.userinfoOctets_of_presents finalSplits presents nonempty
  have gives := RequestBuilder.performs_giveHeaders finalEq
  obtain ⟨pairs, headersEq, carries⟩ := gives.headers
  change _ = [] ++ pairs at headersEq
  rw [List.nil_append] at headersEq
  rw [← headersEq] at carries
  have notGiven : valuesAmong (calls.flatMap BuilderCall.occurrences) .authorization = [] := by
    rw [valuesAmong_eq_nil_iff]
    intro member
    obtain ⟨occurrence, among, nameEq⟩ := List.mem_map.mp member
    obtain ⟨call, callMember, occurs⟩ := List.mem_flatMap.mp among
    exact implicit call callMember (nameEq ▸ List.mem_map_of_mem occurs)
  have missing : mergedOctets (calls.foldl RequestBuilder.perform
      (RequestBuilder.new client method (.ok url))).client.defaultHeaders
      (calls.flatMap BuilderCall.occurrences) .authorization = [] := by
    rw [gives.client, mergedOctets, if_pos notGiven]
    exact octets_eq_nil_iff.mpr noDefault
  constructor
  · rw [RequestBuilder.injected_octets built finalEq present carries missing, octetsEq]
  · rw [requestEq]
    exact final.not_hasUserinfo_taken
  · rintro name secret rfl rfl
    obtain ⟨other, otherBuilt, same⟩ := RequestBuilder.build_basicAuth built name secret
    refine ⟨other, ?_, same, RequestBuilder.build_basicAuth_octets built finalEq present
      carries missing octetsEq.symm otherBuilt⟩
    rw [List.foldl_append, List.foldl_cons, List.foldl_nil]
    rw [← RequestBuilder.performs_withoutUserinfo] at otherBuilt
    exact otherBuilt

end Requests

section Parsing

namespace Uri.Iri

def withoutUserinfo (iri : Iri) : Iri :=
  { iri with
    authority := iri.authority.map fun authority => { authority with userinfo := none } }

theorem isValid_withoutUserinfo {iri : Iri} (valid : iri.toReference.IsValid) :
    iri.withoutUserinfo.toReference.IsValid := by
  refine ⟨valid.scheme, ?_, valid.path, ?_, ?_, valid.query, valid.fragment⟩
  · intro authority member
    obtain ⟨given, givenEq, rfl⟩ := Option.map_eq_some_iff.mp member
    have inner := valid.authority given givenEq
    exact ⟨nofun, inner.host, inner.port⟩
  · intro given
    exact valid.rooted fun none => given (congrArg (Option.map _) none)
  · intro none
    exact valid.bare (Option.map_eq_none_iff.mp none)

end Uri.Iri

variable {libraries : UrlLibraries} {text : String} {url : Url} {iri : Iri}
variable {authority : Authority} {userinfo : List Char}

theorem ofIri_withoutUserinfo (conforms : libraries.Conforms)
    (valid : iri.toReference.IsValid) (made : Url.ofIri libraries iri = .ok url) :
    Url.ofIri libraries iri.withoutUserinfo = .ok url.withoutUserinfo := by
  have plainValid := Iri.isValid_withoutUserinfo valid
  obtain ⟨authority, host, parsedPort, encodedAuthority, supported, authorityEq, nonempty,
    hostEq, portEq, -, rfl⟩ := Url.ofIri_eq_ok.mp made
  have inner := valid.authority authority authorityEq
  have plainAuthority : iri.withoutUserinfo.authority =
      some { authority with userinfo := none } := by
    rw [Iri.withoutUserinfo, authorityEq]
    rfl
  have plainInner := plainValid.authority _ plainAuthority
  rw [conforms.hostParsed authority inner] at hostEq
  rw [conforms.portToU16 authority inner] at portEq
  rw [conforms.toUri iri valid]
  refine Url.ofIri_eq_ok.mpr ⟨_, host, parsedPort,
    Authority.toUri { authority with userinfo := none }, supported, plainAuthority, nonempty,
    ?_, ?_, ?_, ?_⟩
  · rw [conforms.hostParsed _ plainInner]
    exact hostEq
  · rw [conforms.portToU16 _ plainInner]
    exact portEq
  · rw [conforms.toUri _ plainValid]
    exact congrArg (Option.map Authority.toUri) plainAuthority
  · rw [conforms.toUri _ plainValid]
    rfl

theorem ofIri_of_parse (conforms : libraries.Conforms)
    (iriEq : libraries.parseIri text = .ok iri)
    (parsed : Url.parse libraries text = .ok url) :
    iri.toReference.IsValid ∧ Url.ofIri libraries iri = .ok url := by
  rw [← toOption_eq_some, conforms.parseIri] at iriEq
  obtain ⟨found, foundEq, made⟩ := (Url.parse_eq_ok conforms).mp parsed
  obtain rfl : iri = found := Option.some.inj (iriEq.symm.trans foundEq)
  exact ⟨Iri.isValid_of_parse iriEq, made⟩

/-- The text of an IRI without its userinfo is parsed into the URL without it. -/
theorem parse_withoutUserinfo (conforms : libraries.Conforms)
    (iriEq : libraries.parseIri text = .ok iri)
    (parsed : Url.parse libraries text = .ok url) :
    Url.parse libraries (String.ofList iri.withoutUserinfo.recompose) =
      .ok url.withoutUserinfo := by
  obtain ⟨valid, made⟩ := ofIri_of_parse conforms iriEq parsed
  refine (Url.parse_eq_ok conforms).mpr
    ⟨iri.withoutUserinfo, ?_, ofIri_withoutUserinfo conforms valid made⟩
  rw [String.toList_ofList]
  exact Iri.parse_recompose (Iri.isValid_withoutUserinfo valid)

theorem splitsAtFirstColon_of_parse (conforms : libraries.Conforms)
    (iriEq : libraries.parseIri text = .ok iri) (authorityEq : iri.authority = some authority)
    (userinfoEq : authority.userinfo = some userinfo)
    (parsed : Url.parse libraries text = .ok url) : url.SplitsAtFirstColon userinfo := by
  obtain ⟨valid, made⟩ := ofIri_of_parse conforms iriEq parsed
  obtain ⟨_, _, _, encodedAuthority, -, -, -, -, -, encodedEq, rfl⟩ :=
    Url.ofIri_eq_ok.mp made
  rw [conforms.toUri iri valid] at encodedEq
  have mapped : iri.authority.map Authority.toUri = some encodedAuthority := encodedEq
  rw [authorityEq] at mapped
  obtain rfl := Option.some.inj mapped
  have encodedUserinfo : authority.toUri.userinfo = some (encodeNonAscii userinfo) :=
    congrArg (Option.map encodeNonAscii) userinfoEq
  apply Url.splitsAtFirstColon_of_split
  · rw [← encodedUserinfo]
    rfl
  · rw [← encodedUserinfo]
    rfl

/-- For every URL with a userinfo: it is split at its first colon, the text without it is
parsed into the URL without it, and every request without an explicit `Authorization`
sends the encoded credentials as `basic_auth` does. -/
theorem build_sendsCredentials {Uri : Type} {libraries : UrlLibraries}
    (conforms : libraries.Conforms) {text : String} {iri : Iri} {authority : Authority}
    {userinfo : List Char} {url : Url} (iriEq : libraries.parseIri text = .ok iri)
    (authorityEq : iri.authority = some authority)
    (userinfoEq : authority.userinfo = some userinfo)
    (parsed : Url.parse libraries text = .ok url) :
    url.SplitsAtFirstColon userinfo ∧
      Url.parse libraries (String.ofList iri.withoutUserinfo.recompose) =
        .ok url.withoutUserinfo ∧
      ∀ (u p : List UInt8), Presents userinfo u p → (u ≠ [] ∨ p ≠ []) →
        ∀ (client : Client Uri) (method : String) (calls : List BuilderCall)
          (request : Request),
          client.defaultHeaders.containsKey .authorization = false →
          (∀ call ∈ calls, .authorization ∉ call.occurrences.map Prod.fst) →
          (calls.foldl RequestBuilder.perform
            (RequestBuilder.new client method (.ok url))).build = .ok request →
          SendsCredentials client method calls url.withoutUserinfo u p request := by
  have splits := splitsAtFirstColon_of_parse conforms iriEq authorityEq userinfoEq parsed
  refine ⟨splits, parse_withoutUserinfo conforms iriEq parsed, ?_⟩
  intro u p presents nonempty client method calls request noDefault implicit built
  exact sendsCredentials_of_presents splits presents nonempty noDefault implicit built

theorem build_sendsCredentials_colons :
    ∃ iri authority url request,
      Url.grammarLibraries.parseIri "http://a%3A:p:%40@1.2.3.4/" = .ok iri ∧
      iri.authority = some authority ∧
      authority.userinfo = some ("a%3A".toList ++ ':' :: "p:%40".toList) ∧
      Url.parse Url.grammarLibraries "http://a%3A:p:%40@1.2.3.4/" = .ok url ∧
      SendsCredentials (exampleClient .empty) "GET" [] url.withoutUserinfo
        (utf8Bytes "a:") (utf8Bytes "p:@") request := by
  have runs : ∃ iri authority url request,
      Url.grammarLibraries.parseIri "http://a%3A:p:%40@1.2.3.4/" = .ok iri ∧
      iri.authority = some authority ∧
      authority.userinfo = some ("a%3A".toList ++ ':' :: "p:%40".toList) ∧
      Url.parse Url.grammarLibraries "http://a%3A:p:%40@1.2.3.4/" = .ok url ∧
      (RequestBuilder.new (exampleClient .empty) "GET" (.ok url)).build = .ok request :=
    ⟨_, _, _, _, rfl, rfl, rfl, rfl, rfl⟩
  obtain ⟨iri, authority, url, request, iriEq, authorityEq, userinfoEq, parsed, built⟩ := runs
  have name : Encodes "a%3A".toList (utf8Bytes "a:") := rfl
  have secret : Encodes "p:%40".toList (utf8Bytes "p:@") := rfl
  have sends := (build_sendsCredentials Url.grammarLibraries_conforms iriEq authorityEq
    userinfoEq parsed).2.2 (utf8Bytes "a:") (utf8Bytes "p:@")
      (.pair (by decide) name secret) (.inl (by decide)) (exampleClient .empty) "GET" []
      request rfl (List.forall_mem_nil _) built
  exact ⟨iri, authority, url, request, iriEq, authorityEq, userinfoEq, parsed, sends⟩

end Parsing

end Wrest
