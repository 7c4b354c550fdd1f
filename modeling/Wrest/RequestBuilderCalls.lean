import Wrest.BuiltHeaders
import Wrest.UrlParsing

/-!
# Calls on a request builder

Besides the calls that add headers, a builder has calls that set the body, the query
and the timeout, and a builder can be made of a request that was built before.  A
sequence of calls that leaves a URL gives the headers of its calls, in their order.
-/

namespace Wrest

open HeaderMap

inductive BuilderCall
  | headers (call : HeaderCall)
  | body (body : Body)
  | query (encoded : Except Error String)
  | timeout (timeout : Nat)

namespace RequestBuilder

variable {Uri : Type}

/-- `RequestBuilder::body`. -/
def withBody (builder : RequestBuilder Uri) (body : Body) : RequestBuilder Uri :=
  { builder with body := some body }

/-- `RequestBuilder::timeout`. -/
def withTimeout (builder : RequestBuilder Uri) (timeout : Nat) : RequestBuilder Uri :=
  { builder with timeout := some timeout }

/-- The URL with more parameters behind its query. -/
def appendQuery (url : Url) (queryText : String) : Url :=
  if queryText = "" then
    if url.query = some "" then url.setQuery none else url
  else
    let newQuery :=
      match url.query with
      | some existing => if existing ≠ "" then existing ++ "&" ++ queryText else queryText
      | none => queryText
    url.setQuery (some newQuery)

/-- `RequestBuilder::query`, with the outcome of the serialization. -/
def query (builder : RequestBuilder Uri) (encoded : Except Error String) :
    RequestBuilder Uri :=
  match encoded with
  | .error error => { builder with url := .error error }
  | .ok queryText =>
    match builder.url with
    | .ok url => { builder with url := .ok (appendQuery url queryText) }
    | .error _ => builder

def perform (builder : RequestBuilder Uri) : BuilderCall → RequestBuilder Uri
  | .headers headerCall => builder.call headerCall
  | .body body => builder.withBody body
  | .query encoded => builder.query encoded
  | .timeout timeout => builder.withTimeout timeout

/-- `RequestBuilder::from_parts`. -/
def fromParts (client : Client Uri) (request : Request) : RequestBuilder Uri where
  client := client
  method := request.method
  url := .ok request.url
  headers := headerList request.headers
  body := request.body
  timeout := request.timeout

end RequestBuilder

def BuilderCall.occurrences : BuilderCall → List (HeaderName × List UInt8)
  | .headers call => call.occurrences
  | _ => []

namespace RequestBuilder

variable {Uri : Type}

/-- A call that leaves a URL found one, and adds the headers of the call. -/
structure GivesHeaders (before after : RequestBuilder Uri)
    (occurrences : List (HeaderName × List UInt8)) : Prop where
  url : ∃ url, before.url = .ok url
  client : after.client = before.client
  headers : ∃ pairs, after.headers = before.headers ++ pairs ∧
    List.Forall₂ Carries pairs occurrences

theorem query_givesHeaders {builder : RequestBuilder Uri} {encoded : Except Error String}
    {url : Url} (kept : (builder.query encoded).url = .ok url) :
    GivesHeaders builder (builder.query encoded) [] := by
  cases encoded with
  | error error => cases kept
  | ok queryText =>
    cases urlEq : builder.url with
    | error error =>
      simp only [query, urlEq] at kept
      cases kept
    | ok found =>
      have added : builder.query (.ok queryText) =
          { builder with url := .ok (appendQuery found queryText) } := by
        simp only [query, urlEq]
      rw [added]
      exact ⟨⟨found, urlEq⟩, rfl, [], (List.append_nil _).symm, .nil⟩

theorem perform_givesHeaders {builder : RequestBuilder Uri} {call : BuilderCall}
    {url : Url} (kept : (builder.perform call).url = .ok url) :
    GivesHeaders builder (builder.perform call) call.occurrences := by
  cases call with
  | headers headerCall =>
    have adds := call_adds kept
    exact ⟨⟨url, adds.url.symm.trans kept⟩, adds.client, adds.headers⟩
  | body body => exact ⟨⟨url, kept⟩, rfl, [], (List.append_nil _).symm, .nil⟩
  | query encoded => exact query_givesHeaders kept
  | timeout timeout => exact ⟨⟨url, kept⟩, rfl, [], (List.append_nil _).symm, .nil⟩

/-- A sequence of calls. -/
theorem performs_giveHeaders {calls : List BuilderCall} {builder : RequestBuilder Uri}
    {url : Url} (kept : (calls.foldl perform builder).url = .ok url) :
    GivesHeaders builder (calls.foldl perform builder)
      (calls.flatMap BuilderCall.occurrences) := by
  induction calls generalizing builder with
  | nil => exact ⟨⟨url, kept⟩, rfl, [], (List.append_nil _).symm, .nil⟩
  | cons first calls ih =>
    have rest := ih kept
    obtain ⟨middle, middleEq⟩ := rest.url
    have gives := perform_givesHeaders middleEq
    obtain ⟨pairs, headersEq, carries⟩ := gives.headers
    obtain ⟨morePairs, moreEq, moreCarries⟩ := rest.headers
    refine ⟨gives.url, rest.client.trans gives.client, pairs ++ morePairs, ?_, ?_⟩
    · rw [List.foldl_cons, moreEq, headersEq, List.append_assoc]
    · rw [List.flatMap_cons]
      exact List.rel_append carries moreCarries

end RequestBuilder

end Wrest
