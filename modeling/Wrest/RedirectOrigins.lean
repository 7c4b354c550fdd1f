import Wrest.RequestStates
import Wrest.WireHeaders
import Mathlib.Data.List.Induction

/-!
# Sensitive headers across redirects

WinHTTP forwards the headers of a request to every redirect target.  The
`REDIRECT` callback compares the origin of the target with the tracked origin;
when they differ it removes the sensitive headers before the next hop, and it
aborts the request when a header cannot be removed or when the target cannot be
classified.

A run is any sequence of `REDIRECT` callbacks, each with its own target and its
own outcome of every removal.
-/

namespace Wrest.Redirect

open Win32

/-- Headers that are stripped when a redirect crosses origins. -/
def sensitiveHeadersOnCrossOrigin : List String :=
  ["Authorization", "Cookie", "Cookie2", "Proxy-Authorization",
    "Proxy-Authenticate", "WWW-Authenticate"]

/-- A way in which the removals of one callback turn out.  A removal reported as
successful leaves the header absent, and no removal adds a header. -/
structure RemoveHeader where
  remove : String → List WireHeader → Except Error Unit × List WireHeader
  absent : ∀ name ∈ sensitiveHeadersOnCrossOrigin, ∀ headers,
    (remove name headers).1 = .ok () →
      ∀ header ∈ (remove name headers).2, isNamed name header = false
  subset : ∀ name ∈ sensitiveHeadersOnCrossOrigin, ∀ headers,
    (remove name headers).2 ⊆ headers

/-- What the callback is told about the target of the redirect. -/
inductive RedirectTarget
  | invalidUtf16
  | unparsable
  | valid (url : Url)

/-- The target as the callback classifies it. -/
def RedirectTarget.parsed : RedirectTarget → Except Error Url
  | .invalidUtf16 =>
    .error (.request (.message
      "WinHTTP returned invalid UTF-16 in callback string"))
  | .unparsable =>
    .error (.request (.message
      ("WinHTTP redirect target is unparsable; aborting to avoid " ++
        "leaking sensitive headers to an unclassifiable origin")))
  | .valid url => .ok url

structure RedirectCallback where
  target : RedirectTarget
  removal : RemoveHeader

/-- The request's shared state and the headers on its handle. -/
structure RedirectState where
  request : RequestState
  headers : List WireHeader

/-- The reason for which a failed removal aborts the request. -/
def stripFailure (name : String) (newUrl : Url) (error : Error) : Error :=
  .request (.context
    ("failed to strip " ++ name ++ " on cross-origin redirect to " ++
      newUrl.serialized ++ "; aborting to avoid sensitive-header leak")
    error.asSource)

/-- Remove the headers in order, up to the first failure. -/
def removeHeaders (removal : RemoveHeader) :
    List String → List WireHeader → Except (String × Error) Unit × List WireHeader
  | [], headers => (.ok (), headers)
  | name :: names, headers =>
    match removal.remove name headers with
    | (.ok (), headers) => removeHeaders removal names headers
    | (.error error, headers) => (.error (name, error), headers)

/-- `strip_sensitive_headers_on_cross_origin_redirect_with`. -/
def stripSensitiveHeaders (removal : RemoveHeader) (state : RedirectState)
    (newUrl : Url) : RedirectState :=
  let newOrigin := Origin.fromUrl newUrl
  if state.request.currentOrigin = newOrigin then
    state
  else
    match removeHeaders removal sensitiveHeadersOnCrossOrigin state.headers with
    | (.error (name, error), headers) =>
      { request := state.request.abortFromCallback (stripFailure name newUrl error)
        headers }
    | (.ok (), headers) =>
      { request := { state.request with currentOrigin := newOrigin }, headers }

/-- The `REDIRECT` arm of the callback. -/
def redirectCallback (state : RedirectState) (callback : RedirectCallback) :
    RedirectState :=
  match callback.target.parsed with
  | .ok url => stripSensitiveHeaders callback.removal state url
  | .error reason =>
    { state with request := state.request.abortFromCallback reason }

def redirectCallbacks (state : RedirectState) (callbacks : List RedirectCallback) :
    RedirectState :=
  callbacks.foldl redirectCallback state

def RedirectState.initial (url : Url) (headers : List WireHeader) : RedirectState where
  request := .new (.fromUrl url)
  headers := headers

def HasSensitiveHeader (headers : List WireHeader) : Prop :=
  ∃ name ∈ sensitiveHeadersOnCrossOrigin, ∃ header ∈ headers,
    isNamed name header = true

/-- A code other than the one that means that the header was absent already. -/
abbrev RemovalFailure : Type :=
  { code : Nat // code ≠ ERROR_WINHTTP_HEADER_NOT_FOUND }

/-- `winhttp_remove_request_header`, given which calls fail and with which
code. -/
def winHttpRemoveRequestHeader (failure : String → Option RemovalFailure)
    (name : String) (headers : List WireHeader) :
    Except Error Unit × List WireHeader :=
  let length := utf16Length (removalLine name)
  if length ≤ u32Max then
    let outcome :=
      match failure name with
      | some code => Except.error code.val
      | none => winHttpAddRequestHeaders (removalLine name) .replace headers
    match outcome with
    | .ok headers => (.ok (), headers)
    | .error code =>
      if code = ERROR_WINHTTP_HEADER_NOT_FOUND then
        (.ok (), headers)
      else
        (.error (.fromWin32 code), headers)
  else
    (.error (.request (.message
      ("header name too long (" ++ toString length ++ " chars)"))), headers)

/-- Removing a header either reports success, and then the headers of that name
are gone and the others left, or changes nothing. -/
theorem winHttpRemoveRequestHeader_cases (failure : String → Option RemovalFailure)
    {name : String} (noColon : ':' ∉ name.toList) (headers : List WireHeader) :
    winHttpRemoveRequestHeader failure name headers =
        (.ok (), headers.filter fun other => !isNamed name other) ∨
      ∃ error,
        winHttpRemoveRequestHeader failure name headers = (.error error, headers) := by
  simp only [winHttpRemoveRequestHeader]
  split
  · cases failed : failure name with
    | some code => exact .inr ⟨.fromWin32 code, if_neg code.property⟩
    | none =>
      simp only [winHttpAddRequestHeaders, parseHeaderLine_removalLine noColon, if_true]
      by_cases present : headers.any (isNamed name) = true
      · rw [if_pos present]
        exact .inl rfl
      · have unchanged : (headers.filter fun other => !isNamed name other) = headers := by
          apply List.filter_eq_self.mpr
          intro other member
          simp only [List.any_eq_true, not_exists, not_and, Bool.not_eq_true] at present
          simp [present other member]
        rw [if_neg present, unchanged]
        exact .inl rfl
  · exact .inr ⟨_, rfl⟩

theorem sensitiveHeaders_noColon :
    ∀ name ∈ sensitiveHeadersOnCrossOrigin, ':' ∉ name.toList := by
  decide

/-- The calls of WinHTTP are removals in the sense of this file. -/
def winHttpRemoval (failure : String → Option RemovalFailure) : RemoveHeader where
  remove := winHttpRemoveRequestHeader failure
  absent := by
    intro name sensitive headers removed header present
    rcases winHttpRemoveRequestHeader_cases failure
      (sensitiveHeaders_noColon name sensitive) headers with gone | ⟨error, kept⟩
    · rw [gone] at present
      simpa using (List.mem_filter.mp present).2
    · rw [kept] at removed
      cases removed
  subset := by
    intro name sensitive headers
    rcases winHttpRemoveRequestHeader_cases failure
      (sensitiveHeaders_noColon name sensitive) headers with gone | ⟨error, kept⟩
    · rw [gone]
      exact List.filter_subset_self _
    · rw [kept]
      exact List.Subset.refl headers

theorem removeHeaders_subset (removal : RemoveHeader) {names : List String}
    (sensitive : names ⊆ sensitiveHeadersOnCrossOrigin) (headers : List WireHeader) :
    (removeHeaders removal names headers).2 ⊆ headers := by
  induction names generalizing headers with
  | nil => exact List.Subset.refl headers
  | cons name names ih =>
    have later := List.subset_of_cons_subset sensitive
    have step := removal.subset name (sensitive List.mem_cons_self) headers
    unfold removeHeaders
    rcases removed : removal.remove name headers with ⟨_ | _, rest⟩
    · rw [removed] at step
      exact step
    · rw [removed] at step
      exact List.Subset.trans (ih later rest) step

/-- After removals that all succeed, none of the names is present. -/
theorem removeHeaders_absent {removal : RemoveHeader} {names : List String}
    {headers : List WireHeader} (sensitive : names ⊆ sensitiveHeadersOnCrossOrigin)
    (removed : (removeHeaders removal names headers).1 = .ok ()) :
    ∀ name ∈ names, ∀ header ∈ (removeHeaders removal names headers).2,
      isNamed name header = false := by
  induction names generalizing headers with
  | nil => nofun
  | cons first names ih =>
    have absent := removal.absent first (sensitive List.mem_cons_self) headers
    unfold removeHeaders at removed ⊢
    rcases step : removal.remove first headers with ⟨_ | _, rest⟩
    · rw [step] at removed
      cases removed
    · rw [step] at removed absent
      intro name member header present
      rcases List.mem_cons.mp member with rfl | later
      · exact absent rfl header
          (removeHeaders_subset removal (List.subset_of_cons_subset sensitive) rest
            present)
      · exact ih (List.subset_of_cons_subset sensitive) removed name later header
          present

/-- What one callback does to the tracked origin and the headers. -/
inductive HopOutcome (state : RedirectState) (callback : RedirectCallback)
    (next : RedirectState) : Prop
  | sameOrigin (url : Url) (target : callback.target = .valid url)
      (same : Origin.fromUrl url = state.request.currentOrigin)
      (unchanged : next = state)
  | stripped (url : Url) (target : callback.target = .valid url)
      (removed : (removeHeaders callback.removal sensitiveHeadersOnCrossOrigin
        state.headers).1 = .ok ())
      (absent : ¬ HasSensitiveHeader next.headers)
      (tracked : next.request.currentOrigin = Origin.fromUrl url)
  | aborted (isAborted : next.request.isAborted = true)
      (untracked : next.request.currentOrigin = state.request.currentOrigin)

theorem not_hasSensitiveHeader_of_removed {removal : RemoveHeader}
    {headers : List WireHeader}
    (removed : (removeHeaders removal sensitiveHeadersOnCrossOrigin headers).1 =
      .ok ()) :
    ¬ HasSensitiveHeader
      (removeHeaders removal sensitiveHeadersOnCrossOrigin headers).2 := by
  rintro ⟨name, member, header, present, named⟩
  rw [removeHeaders_absent (List.Subset.refl _) removed name member header present]
    at named
  cases named

theorem redirectCallback_hopOutcome (state : RedirectState)
    (callback : RedirectCallback) :
    HopOutcome state callback (redirectCallback state callback) := by
  obtain ⟨target, removal⟩ := callback
  unfold redirectCallback
  cases target with
  | invalidUtf16 | unparsable =>
    exact .aborted (RequestState.isAborted_abortFromCallback _ _)
      (RequestState.abortFromCallback_currentOrigin _ _)
  | valid url =>
    simp only [RedirectTarget.parsed, stripSensitiveHeaders]
    split
    · next same => exact .sameOrigin url rfl same.symm rfl
    · rcases outcome : removeHeaders removal sensitiveHeadersOnCrossOrigin
          state.headers with ⟨⟨name, error⟩ | _, headers⟩
      · exact .aborted (RequestState.isAborted_abortFromCallback _ _)
          (RequestState.abortFromCallback_currentOrigin _ _)
      · have removed : (removeHeaders removal sensitiveHeadersOnCrossOrigin
            state.headers).1 = .ok () := by rw [outcome]
        have absent := not_hasSensitiveHeader_of_removed removed
        rw [outcome] at absent
        exact .stripped url rfl removed absent rfl

/-- No callback replaces the reason of an earlier abort. -/
theorem redirectCallback_callbackAbort {state : RedirectState}
    (aborted : state.request.isAborted = true) (callback : RedirectCallback) :
    (redirectCallback state callback).request.callbackAbort =
      state.request.callbackAbort := by
  have ignored : ∀ reason, state.request.abortFromCallback reason = state.request :=
    RequestState.abortFromCallback_of_isAborted aborted
  unfold redirectCallback
  cases callback.target.parsed with
  | error reason => simp only [ignored]
  | ok url =>
    simp only [stripSensitiveHeaders]
    split
    · rfl
    · rcases removeHeaders callback.removal sensitiveHeadersOnCrossOrigin
        state.headers with ⟨_ | _, _⟩ <;> simp only [ignored]

def LeadsTo (origin : Origin) (callback : RedirectCallback) : Prop :=
  ∃ hop, callback.target = .valid hop ∧ Origin.fromUrl hop = origin

/-- While the request is not aborted and a sensitive header is present, every
hop so far has stayed on the initial origin, which is still the tracked one. -/
theorem redirectCallbacks_sameOrigin (url : Url) (headers : List WireHeader)
    (callbacks : List RedirectCallback)
    (notAborted : (redirectCallbacks (.initial url headers)
      callbacks).request.isAborted = false)
    (sensitive : HasSensitiveHeader
      (redirectCallbacks (.initial url headers) callbacks).headers) :
    (redirectCallbacks (.initial url headers) callbacks).request.currentOrigin =
        Origin.fromUrl url ∧
      ∀ callback ∈ callbacks, LeadsTo (Origin.fromUrl url) callback := by
  induction callbacks using List.reverseRecOn with
  | nil => exact ⟨rfl, nofun⟩
  | append_singleton callbacks callback ih =>
    simp only [redirectCallbacks, List.foldl_append, List.foldl_cons,
      List.foldl_nil] at notAborted sensitive ih ⊢
    rcases redirectCallback_hopOutcome
        (callbacks.foldl redirectCallback (.initial url headers)) callback with
      ⟨hop, target, same, unchanged⟩ | ⟨_, _, _, absent, _⟩ | ⟨aborted, _⟩
    · rw [unchanged] at notAborted sensitive ⊢
      obtain ⟨tracked, earlier⟩ := ih notAborted sensitive
      refine ⟨tracked, fun other member => ?_⟩
      rcases List.mem_append.mp member with before | last
      · exact earlier other before
      · rw [List.mem_singleton.mp last]
        exact ⟨hop, target, same.trans tracked⟩
    · exact absurd sensitive absent
    · rw [aborted] at notAborted
      cases notAborted

/-- After every callback of every sequence, the target has the tracked origin,
or the sensitive headers are gone and the target's origin is tracked, or the
request is aborted and the tracked origin unchanged; an earlier abort keeps its
reason; and a sensitive header can still be present on a request that is not
aborted only if every hop had the origin of the initial URL. -/
theorem redirectCallbacks_safe (url : Url) (headers : List WireHeader)
    (callbacks : List RedirectCallback) (callback : RedirectCallback) :
    let state := redirectCallbacks (.initial url headers) callbacks
    let next := redirectCallback state callback
    HopOutcome state callback next ∧
      (state.request.isAborted = true →
        next.request.callbackAbort = state.request.callbackAbort) ∧
      (next.request.isAborted = false → HasSensitiveHeader next.headers →
        ∀ earlier ∈ callbacks ++ [callback],
          LeadsTo (Origin.fromUrl url) earlier) := by
  intro state next
  refine ⟨redirectCallback_hopOutcome state callback,
    fun aborted => redirectCallback_callbackAbort aborted callback,
    fun notAborted sensitive => ?_⟩
  have nextEq : redirectCallbacks (.initial url headers) (callbacks ++ [callback]) =
      next := by
    simp [redirectCallbacks, next, state]
  rw [← nextEq] at notAborted sensitive
  exact (redirectCallbacks_sameOrigin url headers _ notAborted sensitive).2

end Wrest.Redirect
