import Wrest.BuiltHeaders
import Wrest.RequestExecution
import Wrest.WireHeaderLists

/-!
# Executing a request that was not built by the client

`Client::execute` hands the headers of its request to the transport as they are.
Only building a request merges the default headers of the client and injects the
credentials of the URL, so a request of another origin is executed with these
headers exactly when it has them already.
-/

namespace Wrest

open HeaderMap

variable {Response Uri : Type}

namespace Client

/-- `execute_inner` up to the call of the transport. -/
def executeInner (client : Client Uri) (url : Url) (method : String)
    (headers : List (String × String)) (body : Option Body) (deadline : Option Nat)
    (now : Nat) : Except Error RequestParts :=
  if client.httpsOnly && !url.isHttps then
    .error ((Error.builder (.message "URL scheme is not allowed")).withUrl url)
  else if deadline.map (· - now) = some 0 then
    .error ((Error.timeout (.message "total request timeout elapsed")).withUrl url)
  else
    .ok
      { url
        method
        headers
        body
        proxyConfig := client.proxyConfig
        acceptInvalidCerts := client.acceptInvalidCerts }

/-- `execute`: the retry loop over the parts of the request. -/
def execute (client : Client Uri) (request : Request)
    (conversions : Retry.Conversions Response Uri)
    (outcome : Nat → Retry.AttemptOutcome Response) (answer : Nat → Bool) :
    Retry.Execution Response :=
  Retry.execute
    { policy := client.retryPolicy
      conversions
      url := request.url
      method := request.method
      body := request.body
      outcome
      answer }

/-- An attempt of the execution hands these parts to the transport, at some time.  The
header list is made once, from the headers of the request. -/
def Hands (client : Client Uri) (request : Request) (execution : Retry.Execution Response)
    (parts : RequestParts) : Prop :=
  ∃ body deadline now, .attempt body ∈ execution.events ∧
    client.executeInner request.url request.method (headerList request.headers) body
      deadline now = .ok parts

end Client

section Merge

variable (defaults : HeaderMap) (request : Request)

/-- The default headers that the request does not set are sent, and so are the
credentials of a URL when the request sets no `Authorization`. -/
structure CarriesMerge (wire : List WireHeader) : Prop where
  defaults : ∀ occurrence ∈ defaults.iter,
    request.headers.containsKey occurrence.1 = false →
      (occurrence.1.text, widenLatin1 occurrence.2.bytes) ∈ wire
  authorization : request.url.HasUserinfo →
    request.headers.containsKey .authorization = false →
      ∃ value, headersNamed "authorization" wire =
          [("authorization", widenLatin1 value)] ∧
        basicCredentials value = some request.url.userinfoOctets

/-- The request sets every default header, and an `Authorization` if its URL has
userinfo. -/
def NothingToMerge : Prop :=
  (∀ name ∈ defaults.entries.map Prod.fst, request.headers.containsKey name = true) ∧
    (request.url.HasUserinfo → request.headers.containsKey .authorization = true)

instance : Decidable (NothingToMerge defaults request) :=
  inferInstanceAs (Decidable (_ ∧ _))

end Merge

theorem mem_names_of_mem_iter {map : HeaderMap} {occurrence : HeaderName × HeaderValue}
    (member : occurrence ∈ map.iter) : occurrence.1 ∈ map.entries.map Prod.fst := by
  unfold HeaderMap.iter at member
  obtain ⟨entry, entryMember, valueMember⟩ := List.mem_flatMap.mp member
  obtain ⟨value, -, rfl⟩ := List.mem_map.mp valueMember
  exact List.mem_map_of_mem entryMember

theorem exists_mem_iter_of_mem_names {map : HeaderMap} {name : HeaderName}
    (member : name ∈ map.entries.map Prod.fst) : ∃ value, (name, value) ∈ map.iter := by
  obtain ⟨entry, entryMember, rfl⟩ := List.mem_map.mp member
  refine ⟨entry.2.1, List.mem_flatMap.mpr ⟨entry, entryMember, ?_⟩⟩
  simp [valuesOf]

/-- The header list has only names of the map. -/
theorem containsKey_of_mem_headerList {map : HeaderMap} {name : HeaderName}
    {value : String} (member : (name.text, value) ∈ headerList map) :
    map.containsKey name = true := by
  obtain ⟨occurrence, occurs, pairEq⟩ := List.mem_map.mp member
  have nameEq : occurrence.1 = name :=
    HeaderName.text_injective (congrArg Prod.fst pairEq)
  rw [← nameEq]
  exact decide_eq_true (mem_names_of_mem_iter occurs)

theorem containsKey_of_headersNamed {map : HeaderMap} {name : HeaderName}
    (named : headersNamed name.text (headerList map) ≠ []) :
    map.containsKey name = true := by
  obtain ⟨header, member⟩ := List.exists_mem_of_ne_nil _ named
  obtain ⟨inList, isNamed⟩ := List.mem_filter.mp member
  obtain ⟨occurrence, occurs, rfl⟩ := List.mem_map.mp inList
  simp only [Wrest.isNamed, HeaderName.toAsciiLowercase_text, beq_iff_eq] at isNamed
  have nameEq : occurrence.1 = name := HeaderName.text_injective isNamed
  rw [← nameEq]
  exact decide_eq_true (mem_names_of_mem_iter occurs)

theorem carriesMerge_iff (defaults : HeaderMap) (request : Request) :
    CarriesMerge defaults request (headerList request.headers) ↔
      NothingToMerge defaults request := by
  constructor
  · intro carries
    constructor
    · intro name member
      by_contra missing
      obtain ⟨value, occurs⟩ := exists_mem_iter_of_mem_names member
      have sent := carries.defaults _ occurs (Bool.eq_false_of_not_eq_true missing)
      exact missing (containsKey_of_mem_headerList sent)
    · intro userinfo
      by_contra missing
      obtain ⟨value, sent, -⟩ :=
        carries.authorization userinfo (Bool.eq_false_of_not_eq_true missing)
      apply missing
      apply containsKey_of_headersNamed
      rw [show HeaderName.authorization.text = "authorization" from rfl, sent]
      exact List.cons_ne_nil _ _
  · rintro ⟨named, authorized⟩
    constructor
    · intro occurrence member missing
      rw [named occurrence.1 (mem_names_of_mem_iter member)] at missing
      cases missing
    · intro userinfo missing
      rw [authorized userinfo] at missing
      cases missing

/-- The headers handed to the transport in any execution of any request are complete
if and only if the request had nothing left to merge. -/
theorem execute_carriesMerge_iff (client : Client Uri) (request : Request)
    (conversions : Retry.Conversions Response Uri)
    (outcome : Nat → Retry.AttemptOutcome Response) (answer : Nat → Bool)
    (parts : RequestParts)
    (hands : client.Hands request (client.execute request conversions outcome answer)
      parts) :
    CarriesMerge client.defaultHeaders request parts.headers ↔
      NothingToMerge client.defaultHeaders request := by
  obtain ⟨body, deadline, now, -, handed⟩ := hands
  have headersEq : parts.headers = headerList request.headers := by
    unfold Client.executeInner at handed
    split at handed
    · cases handed
    · split at handed
      · cases handed
      · cases handed
        rfl
  rw [headersEq]
  exact carriesMerge_iff client.defaultHeaders request

/-- A request that a builder of the client built has nothing left to merge. -/
theorem nothingToMerge_of_build {builder : RequestBuilder Uri} {request : Request}
    (built : builder.build = .ok request) :
    NothingToMerge builder.client.defaultHeaders request := by
  obtain ⟨_, _, _, appended, _⟩ := RequestBuilder.build_eq_ok_iff.mp built
  obtain ⟨occurrences, carries⟩ := RequestBuilder.carries_of_appendHeaders appended
  obtain ⟨url, -, taken, merges⟩ := RequestBuilder.mergesHeaders_of_build carries built
  constructor
  · intro name member
    by_contra missing
    have absent := octets_eq_nil_iff.mpr (Bool.eq_false_of_not_eq_true missing)
    have given : mergedOctets builder.client.defaultHeaders occurrences name ≠ [] := by
      unfold mergedOctets
      split
      · intro none
        have unknown := octets_eq_nil_iff.mp none
        rw [containsKey, decide_eq_true member] at unknown
        cases unknown
      · next some => exact some
    by_cases isAccept : name = .accept
    · rw [isAccept, merges.accept, if_neg (isAccept ▸ given)] at absent
      exact given (isAccept ▸ absent)
    · by_cases isAuthorization : name = .authorization
      · rw [isAuthorization, merges.authorization (.inl (isAuthorization ▸ given))]
          at absent
        exact given (isAuthorization ▸ absent)
      · rw [merges.other name isAccept isAuthorization] at absent
        exact given absent
  · intro userinfo
    rw [taken] at userinfo
    exact absurd userinfo url.not_hasUserinfo_taken

section Example

def singleAttempt : Nat → Retry.AttemptOutcome Nat :=
  fun _ => .abandoned

def noConversions : Retry.Conversions Nat Unit where
  toHttpUri _ := none
  status response := response

/-- A request that gives `x`, and one that gives `y` as well. -/
def givenX : HeaderMap :=
  HeaderMap.empty.append nameX (digitValue 8)

def givenBoth : HeaderMap :=
  givenX.append nameY (digitValue 2)

def requestWith (headers : HeaderMap) : Request :=
  { Request.new "GET" (bareUrl true) with headers }

/-- With defaults for both names, only the second request is sent as it would be if it
had been built. -/
theorem execute_carriesMerge_iff_given :
    ¬CarriesMerge twoDefaults (requestWith givenX) [("x", "8")] ∧
      CarriesMerge twoDefaults (requestWith givenBoth) [("x", "8"), ("y", "2")] := by
  have complete (headers : HeaderMap) :
      CarriesMerge twoDefaults (requestWith headers) (headerList headers) ↔
        NothingToMerge twoDefaults (requestWith headers) :=
    execute_carriesMerge_iff (exampleClient twoDefaults) (requestWith headers)
      noConversions singleAttempt (fun _ => false)
      { url := bareUrl true
        method := "GET"
        headers := headerList headers
        body := none
        proxyConfig := .none
        acceptInvalidCerts := false }
      ⟨none, none, 0, List.mem_singleton_self _, rfl⟩
  exact ⟨fun carries => absurd ((complete givenX).mp carries) (by decide),
    (complete givenBoth).mpr (by decide)⟩

/-- The default header `x: 7`. -/
def defaultHeader : HeaderMap :=
  HeaderMap.empty.append nameX (digitValue 7)

/-- A new request of a URL with userinfo is executed without any header. -/
theorem execute_omits_defaults :
    ∃ parts,
      (exampleClient defaultHeader).Hands (.new "GET" { bareUrl true with username := "a" })
        ((exampleClient defaultHeader).execute
          (.new "GET" { bareUrl true with username := "a" }) noConversions singleAttempt
          fun _ => false) parts ∧
      parts.headers = [] ∧
      ¬CarriesMerge defaultHeader (.new "GET" { bareUrl true with username := "a" })
        parts.headers := by
  refine ⟨_, ⟨none, none, 0, List.mem_singleton_self _, rfl⟩, rfl, ?_⟩
  intro carries
  have sent := carries.defaults _ (List.mem_singleton_self _) rfl
  cases sent

end Example

end Wrest
