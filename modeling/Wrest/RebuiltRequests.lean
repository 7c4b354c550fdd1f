import Wrest.ClientRequests
import Wrest.RequestBuilderCalls

/-!
# Rebuilding a built request

A builder made of a built request has the request's headers as texts, and building it
again reads them back, merges the same defaults and looks for userinfo once more.  The
second build finds nothing left to add, and gives the request that it was made of,
except that the version of every built request is the default one.
-/

namespace Wrest

open HeaderMap

namespace HeaderMap

variable {map : HeaderMap} {name : HeaderName}

theorem entries_append_of_unknown (unknown : name ∉ map.entries.map Prod.fst)
    (value : HeaderValue) :
    (map.append name value).entries = map.entries ++ [(name, value, [])] := by
  rw [append, dif_neg unknown]

/-- Appending to the last entry of a map adds to the values of this entry. -/
theorem entries_append_last {before : List (HeaderName × HeaderValue × List HeaderValue)}
    {first : HeaderValue} {more : List HeaderValue}
    (entriesEq : map.entries = before ++ [(name, first, more)]) (value : HeaderValue) :
    (map.append name value).entries = before ++ [(name, first, more ++ [value])] := by
  have distinct := map.distinct
  rw [entriesEq, List.map_append, List.map_singleton] at distinct
  have known : name ∈ map.entries.map Prod.fst := by simp [entriesEq]
  have others : ∀ entry ∈ before, entry.1 ≠ name := by
    intro entry member same
    have disjoint := List.disjoint_of_nodup_append distinct
    exact disjoint (List.mem_map_of_mem member) (by simp [same])
  have unchanged : (before.map fun entry =>
      if entry.1 = name then (entry.1, entry.2.1, entry.2.2 ++ [value]) else entry) =
        before := by
    refine (List.map_congr_left fun entry member => ?_).trans (List.map_id before)
    exact if_neg (others entry member)
  rw [append, dif_pos known]
  simp only [entriesEq, List.map_append, unchanged, List.map_singleton, if_true]

/-- Append each occurrence of a list. -/
def appendAll (map : HeaderMap) (occurrences : List (HeaderName × HeaderValue)) :
    HeaderMap :=
  occurrences.foldl (fun map occurrence => map.append occurrence.1 occurrence.2) map

theorem entries_appendAll_last {map : HeaderMap} {name : HeaderName}
    {before : List (HeaderName × HeaderValue × List HeaderValue)}
    {first : HeaderValue} {more : List HeaderValue}
    (entriesEq : map.entries = before ++ [(name, first, more)])
    (values : List HeaderValue) :
    (map.appendAll (values.map fun value => (name, value))).entries =
      before ++ [(name, first, more ++ values)] := by
  induction values generalizing map more with
  | nil => rw [List.append_nil, ← entriesEq]; rfl
  | cons value values ih =>
    have appended := ih (entries_append_last entriesEq value)
    rw [List.append_assoc, List.singleton_append] at appended
    exact appended

/-- The occurrences of new entries give these entries, behind the ones of the map. -/
theorem entries_appendAll {map : HeaderMap}
    {entries : List (HeaderName × HeaderValue × List HeaderValue)}
    (distinct : ((map.entries ++ entries).map Prod.fst).Nodup) :
    (map.appendAll (entries.flatMap fun entry =>
      (valuesOf entry).map fun value => (entry.1, value))).entries =
        map.entries ++ entries := by
  induction entries generalizing map with
  | nil => rw [List.append_nil]; rfl
  | cons entry entries ih =>
    obtain ⟨name, first, more⟩ := entry
    have unknown : name ∉ map.entries.map Prod.fst := by
      intro known
      rw [List.map_append] at distinct
      exact List.disjoint_of_nodup_append distinct known List.mem_cons_self
    have one := entries_appendAll_last (entries_append_of_unknown unknown first) more
    rw [List.nil_append] at one
    have distinctRest : ((((map.append name first).appendAll
        (more.map fun value => (name, value))).entries ++ entries).map Prod.fst).Nodup := by
      rw [one, List.append_assoc]
      exact distinct
    have rest := ih distinctRest
    rw [one, List.append_assoc, List.singleton_append] at rest
    rw [List.flatMap_cons, valuesOf, List.map_cons, appendAll, List.cons_append,
      List.foldl_cons, List.foldl_append]
    exact rest

/-- The occurrences of a map give the map back. -/
theorem appendAll_iter (map : HeaderMap) : empty.appendAll map.iter = map := by
  have distinct : ((empty.entries ++ map.entries).map Prod.fst).Nodup := map.distinct
  have entriesEq : (empty.appendAll map.iter).entries = map.entries :=
    entries_appendAll distinct
  generalize empty.appendAll map.iter = appended at entriesEq
  cases appended
  cases map
  cases entriesEq
  rfl

end HeaderMap

theorem HeaderName.fromText_toList (name : HeaderName) :
    HeaderName.fromText name.text.toList = some name := by
  have lowered : name.text.toList.map asciiLower = name.text.toList :=
    (List.map_congr_left fun character member =>
      asciiLower_of_isTokenChar (name.tokens character member)).trans (List.map_id _)
  have nonempty : name.text.toList ≠ [] := by simpa using name.nonempty
  have valid : name.text.toList ≠ [] ∧ name.text.toList.length ≤ maxHeaderNameLength ∧
      (name.text.toList.map asciiLower).all isTokenChar = true := by
    refine ⟨nonempty, name.short, ?_⟩
    rw [lowered, List.all_eq_true]
    exact name.tokens
  rw [fromText, dif_pos valid, Option.some.injEq]
  apply HeaderName.text_injective
  exact (congrArg String.ofList lowered).trans String.ofList_toList

theorem HeaderValue.fromBytes_bytes_self (value : HeaderValue) :
    HeaderValue.fromBytes value.bytes = some value :=
  dif_pos (List.all_eq_true.mpr value.valid)

namespace RequestBuilder

variable {Uri : Type}

/-- The texts of occurrences are read back as the occurrences. -/
theorem appendHeaders_texts (occurrences : List (HeaderName × HeaderValue))
    (map : HeaderMap) :
    appendHeaders (occurrences.map fun occurrence =>
      (occurrence.1.text, widenLatin1 occurrence.2.bytes)) map =
        .ok (map.appendAll occurrences) := by
  induction occurrences generalizing map with
  | nil => rfl
  | cons occurrence occurrences ih =>
    rw [List.map_cons, appendHeaders, HeaderName.fromText_toList]
    dsimp only
    rw [narrowLatin1_widenLatin1, HeaderValue.fromBytes_bytes_self]
    exact ih _

/-- No default is added when every default name is given. -/
theorem addDefaults_eq_empty {names : List String} {defaults : HeaderMap}
    (given : ∀ name ∈ defaults.entries.map Prod.fst, name.text ∈ names) :
    addDefaults names defaults = .empty := by
  unfold addDefaults
  have named : ∀ occurrence ∈ defaults.iter, names.contains occurrence.1.text = true := by
    intro occurrence member
    rw [List.contains_iff_mem]
    exact given occurrence.1 (mem_names_of_mem_iter member)
  revert named
  induction defaults.iter with
  | nil => exact fun _ => rfl
  | cons occurrence rest ih =>
    intro named
    rw [List.foldl_cons, if_pos (named occurrence List.mem_cons_self)]
    exact ih fun other member => named other (List.mem_cons_of_mem occurrence member)

theorem text_mem_names {map : HeaderMap} {name : HeaderName}
    (present : map.containsKey name = true) :
    name.text ∈ (headerList map).map fun header => toAsciiLowercase header.1 := by
  obtain ⟨value, occurs⟩ := exists_mem_iter_of_mem_names (of_decide_eq_true present)
  rw [headerList, List.map_map]
  exact List.mem_map.mpr ⟨(name, value), occurs, name.toAsciiLowercase_text⟩

/-- A built request has an `Accept` header. -/
theorem containsKey_accept_of_build {builder : RequestBuilder Uri} {request : Request}
    (built : builder.build = .ok request) :
    request.headers.containsKey .accept = true := by
  obtain ⟨_, merged, _, appended, _⟩ := build_eq_ok_iff.mp built
  obtain ⟨occurrences, carries⟩ := carries_of_appendHeaders appended
  obtain ⟨url, -, -, merges⟩ := mergesHeaders_of_build carries built
  by_contra missing
  have none := octets_eq_nil_iff.mpr (Bool.eq_false_of_not_eq_true missing)
  rw [merges.accept] at none
  split at none
  · cases none
  · next given => exact given none

variable {builder : RequestBuilder Uri} {request : Request}

/-- Building a built request again keeps everything but the version. -/
theorem build_fromParts (built : builder.build = .ok request) (timeout : Option Nat)
    (version : Version) :
    (fromParts builder.client { request with timeout, version }).build =
      .ok { request with timeout, version := default } := by
  have complete := nothingToMerge_of_build built
  have noDefaults : addDefaults
      ((headerList request.headers).map fun header => toAsciiLowercase header.1)
        builder.client.defaultHeaders = .empty :=
    addDefaults_eq_empty fun name member => text_mem_names (complete.1 name member)
  have readBack : appendHeaders (headerList request.headers) .empty =
      .ok request.headers := by
    rw [headerList, appendHeaders_texts, appendAll_iter]
  have accepted : injectAccept request.headers = request.headers :=
    if_pos (containsKey_accept_of_build built)
  obtain ⟨url, _, _, _, valid, requestEq⟩ := build_eq_ok_iff.mp built
  have taken : request.url.takeDecodedUserinfo = (none, request.url) := by
    apply takeDecodedUserinfo_of_absent
    rw [requestEq]
    exact url.not_hasUserinfo_taken
  have isMethod : isMethod request.method = true := by
    rw [requestEq]
    exact valid
  refine build_eq_ok_iff.mpr ⟨request.url, request.headers, rfl, ?_, isMethod, ?_⟩
  · exact (congrArg (appendHeaders (headerList request.headers)) noDefaults).trans readBack
  · rw [taken, accepted]
    rfl

end RequestBuilder

/-- For every builder whose build succeeds, and every timeout and version that its
request is given: the rebuilt request is the same if and only if the version is the
default one. -/
theorem build_fromParts_eq_iff {Uri : Type} (builder : RequestBuilder Uri)
    (request : Request) (built : builder.build = .ok request) (timeout : Option Nat)
    (version : Version) :
    (RequestBuilder.fromParts builder.client { request with timeout, version }).build =
        .ok { request with timeout, version } ↔
      version = default := by
  rw [RequestBuilder.build_fromParts built]
  constructor
  · intro same
    have requestEq := Except.ok.inj same
    exact (congrArg Request.version requestEq).symm
  · rintro rfl
    rfl

section Example

def plainBuilder : RequestBuilder Unit :=
  .new (exampleClient .empty) "GET" (.ok (bareUrl true))

/-- Headers of the client and of the calls, and the credentials of the URL. -/
def headedBuilder : RequestBuilder Unit :=
  twoCalls.foldl RequestBuilder.call
    (.new (exampleClient twoDefaults) "POST" (.ok namedUrl))

theorem build_fromParts_eq_iff_headed :
    ∃ request, headedBuilder.build = .ok request ∧
      (RequestBuilder.fromParts headedBuilder.client
          { request with timeout := some 1, version := .http11 }).build =
        .ok { request with timeout := some 1, version := .http11 } ∧
      (RequestBuilder.fromParts headedBuilder.client
          { request with timeout := some 1, version := .http2 }).build ≠
        .ok { request with timeout := some 1, version := .http2 } := by
  obtain ⟨request, built⟩ : ∃ request, headedBuilder.build = .ok request := ⟨_, rfl⟩
  have same := build_fromParts_eq_iff headedBuilder request built (some 1)
  exact ⟨request, built, (same .http11).mpr rfl,
    fun rebuilt => absurd ((same .http2).mp rebuilt) (by decide)⟩

/-- A request whose version was set to HTTP/2 is rebuilt as one of HTTP/1.1. -/
theorem build_fromParts_loses_version :
    ∃ request, plainBuilder.build = .ok request ∧
      ∃ rebuilt, (RequestBuilder.fromParts plainBuilder.client
          { request with version := .http2 }).build = .ok rebuilt ∧
        rebuilt.version = .http11 ∧ rebuilt ≠ { request with version := .http2 } :=
  ⟨_, rfl, _, rfl, rfl, fun same => absurd (congrArg Request.version same) (by decide)⟩

end Example

end Wrest
