import Wrest.RequestCallUse
import Wrest.RequestProgress

/-!
# What the header loop sends

Before a send no callback runs, so the header list that a successful header loop
leaves is determined by the header map.  It is the list of the map's occurrences
exactly when no name of the map has a second value: a second value replaces the
first, or removes it when it is empty.
-/

namespace Wrest.RequestHeaderLoop

open Interaction RequestStep

/-- Nothing was sent yet, and these headers were added. -/
structure Unsent (headers : List WireHeader) (world : RequestWorld) : Prop where
  closing : world.closing = false
  sendStarted : world.sendStarted = false
  operation : world.operation = .idle
  headers : world.headers = headers

theorem unsent_stable (headers : List WireHeader) : winHttp.Stable (Unsent headers) := by
  intro world event next unsent happens
  have quiet : world.interfere event = none := by
    cases event <;>
      simp [RequestWorld.interfere, unsent.closing, unsent.sendStarted,
        unsent.operation, Operation.isPending]
  rw [show world.interfere event = some next from happens] at quiet
  cases quiet

theorem answers_configures {call : RequestCall} (configures : call.configures = true)
    {headers : List WireHeader} {world next : RequestWorld} {reply : call.Reply}
    (unsent : Unsent headers world) (answers : world.Answers call reply next) :
    Unsent headers next := by
  cases call with
  | connect _ _ | openRequest _ _ _ =>
    cases answers
    exact unsent
  | setContextValue | setProxyDirect | setProxyNamed _ | setProxyCredentials _ _
  | setNoClientCert | setSecurityFlags _ =>
    unfold RequestWorld.Answers at answers
    rcases RequestWorld.Acts.cases answers with rfl | ⟨-, rfl⟩
    · exact unsent
    · exact ⟨unsent.closing, unsent.sendStarted, unsent.operation, unsent.headers⟩
  | storeSendBody _ =>
    obtain ⟨-, rfl⟩ := answers
    exact ⟨unsent.closing, unsent.sendStarted, unsent.operation, unsent.headers⟩
  | _ => cases configures

theorem configureRequest_unsent (parts : RequestParts) (headers : List WireHeader) :
    Triple winHttp (Unsent headers) (configureRequest parts)
      (fun _ => Unsent headers) (fun _ => Unsent headers) :=
  (configureRequest_makes parts).triple (unsent_stable headers)
    fun _ _ _ _ configures unsent answers =>
      answers_configures configures unsent answers

theorem addRequestHeader_unsent {url : Url} {name value : String}
    (noColon : ':' ∉ name.toList) (noReturn : '\r' ∉ value.toList)
    (headers : List WireHeader) :
    Triple winHttp (Unsent headers) (addRequestHeader url (headerLine name value))
      (fun _ => Unsent (addReplaced headers (name, value))) (fun _ _ => True) := by
  unfold addRequestHeader
  split
  · refine triple_checked (unsent_stable headers)
      (fun world reply added next unsent answers outcome => ?_)
      (fun _ _ _ _ _ _ _ => trivial) (fun _ => unsent_stable _)
      (fun _ _ _ _ _ _ => trivial)
    obtain rfl : reply = .ok added := outcome
    obtain ⟨-, rest, accepted, rfl⟩ := answers
    rw [unsent.headers, winHttpAddRequestHeaders_headerLine noColon noReturn]
      at accepted
    cases accepted
    exact ⟨unsent.closing, unsent.sendStarted, unsent.operation, rfl⟩
  · exact Triple.throw (fun _ _ _ _ _ => trivial) fun _ _ => trivial

theorem addHeaders_unsent (url : Url)
    (occurrences : List (HeaderName × HeaderValue)) (headers : List WireHeader) :
    let wire := occurrences.map fun occurrence =>
      (occurrence.1.text, widenLatin1 occurrence.2.bytes)
    Triple winHttp (Unsent headers) (addHeaders url wire)
      (fun _ => Unsent (wire.foldl addReplaced headers)) (fun _ _ => True) := by
  induction occurrences generalizing headers with
  | nil => exact Triple.pure (unsent_stable headers) fun _ holds => holds
  | cons occurrence occurrences ih =>
    obtain ⟨name, value⟩ := occurrence
    exact Triple.bind
      (addRequestHeader_unsent name.colon_notMem value.return_notMem headers)
      (fun _ => ih _) fun _ _ _ _ _ _ => trivial

theorem prepareRequest_unsent {parts : RequestParts} {map : HeaderMap}
    (carried : parts.headers = headerList map) :
    Triple winHttp (Unsent []) (prepareRequest parts)
      (fun _ => Unsent ((headerList map).foldl addReplaced []))
      (fun _ _ => True) := by
  have always : ∀ _ : Error, winHttp.Stable fun _ => True :=
    fun _ _ _ _ _ _ => trivial
  have configured : Triple winHttp (Unsent []) (configureRequest parts)
      (fun _ => Unsent []) (fun _ _ => True) :=
    (configureRequest_unsent parts []).mono (fun _ _ holds => holds)
      fun _ _ _ => trivial
  unfold prepareRequest
  refine configured.bind (fun body => ?_) always
  rw [carried]
  exact (addHeaders_unsent parts.url map.iter []).bind
    (fun _ => Triple.pure (unsent_stable _) fun _ holds => holds) always

/-- In every run in which the header loop ends without an error, the headers of
each name on the wire are the occurrences of the map, all of them in order and no
others, if and only if no name of the map has a second value. -/
theorem prepareRequest_sends_iff (parts : RequestParts) (map : HeaderMap)
    (session : ProxyAction) (body : PreparedBody) (last : RequestWorld)
    (carried : parts.headers = headerList map)
    (runs : Runs winHttp (α := Except Error PreparedBody) (prepareRequest parts)
      (.initial parts session) (.ok body) last) :
    (∀ name, headersNamed name last.headers = headersNamed name (headerList map)) ↔
      map.NoRepeats := by
  have unsent := prepareRequest_unsent carried (.initial parts session) ⟨rfl, rfl, rfl, rfl⟩
    (.ok body) last runs
  rw [show last.headers = _ from unsent.headers]
  exact wireHeaders_iff map

def plainParts (map : HeaderMap) : RequestParts :=
  { bareParts .none false with headers := headerList map }

/-- A map of one name, whose first value is `1`. -/
def mapOfOneName (more : List HeaderValue) : HeaderMap where
  entries := [(⟨"a", List.all_eq_true.mp (by decide), by decide, by decide⟩,
    ⟨[49], List.all_eq_true.mp (by decide)⟩, more)]
  distinct := List.nodup_singleton _

theorem prepareRequest_sends_iff_oneValue :
    ∃ body last,
      (∀ name, headersNamed name (RequestWorld.headers last) =
        headersNamed name (headerList (mapOfOneName []))) ∧
      Runs winHttp (α := Except Error PreparedBody)
        (prepareRequest (plainParts (mapOfOneName [])))
        (.initial (plainParts (mapOfOneName [])) .automatic) (.ok body) last := by
  have runs : Runs winHttp (α := Except Error PreparedBody)
      (prepareRequest (plainParts (mapOfOneName [])))
      (.initial (plainParts (mapOfOneName [])) .automatic) _ _ :=
    prepareRequest_runs rfl rfl rfl (by decide)
  exact ⟨_, _, (prepareRequest_sends_iff _ _ _ _ _ rfl runs).mpr (by decide), runs⟩

/-- Of the values `1` and `2` of one name, only `2` is sent. -/
theorem prepareRequest_drops_value :
    ∃ body last, ∃ second : HeaderValue,
      Runs winHttp (α := Except Error PreparedBody)
        (prepareRequest (plainParts (mapOfOneName [second])))
        (.initial (plainParts (mapOfOneName [second])) .automatic) (.ok body) last ∧
      headersNamed "a" (headerList (mapOfOneName [second])) = [("a", "1"), ("a", "2")] ∧
      headersNamed "a" last.headers = [("a", "2")] := by
  let second : HeaderValue := ⟨[50], List.all_eq_true.mp (by decide)⟩
  have runs : Runs winHttp (α := Except Error PreparedBody)
      (prepareRequest (plainParts (mapOfOneName [second])))
      (.initial (plainParts (mapOfOneName [second])) .automatic) _ _ :=
    prepareRequest_runs rfl rfl rfl (by decide)
  exact ⟨_, _, second, runs, by decide, by decide⟩

end Wrest.RequestHeaderLoop
