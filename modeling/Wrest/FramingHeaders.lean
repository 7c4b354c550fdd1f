import Wrest.RequestHeaderLoop

/-!
# The framing headers of a body

A streamed body is announced by `Transfer-Encoding: chunked` and a large
in-memory body by its `Content-Length`.  The header is added after the caller's
headers, with the flags that replace a header of the same name.  The caller's
header of the other framing name is left alone, so the headers that are sent
agree with the body exactly when the header loop leaves none.
-/

namespace Wrest.Framing

open Interaction RequestStep RequestHeaderLoop

/-- The header list at each `WinHttpSendRequest`. -/
def sentHeaders (world : RequestWorld) : RequestCall → Option (List WireHeader)
  | .sendRequest _ _ _ => some world.headers
  | _ => none

def winHttpSends : Environment requestInterface (RequestWorld × List (List WireHeader)) :=
  winHttp.recording sentHeaders

/-- The only framing header is this one, with this value. -/
def FramedBy (name other value : String) (headers : List WireHeader) : Prop :=
  (headersNamed name headers).map Prod.snd = [value] ∧ headersNamed other headers = []

/-- The values of a name, in the order of the map. -/
def valuesNamed (name : String) (occurrences : List (HeaderName × HeaderValue)) :
    List HeaderValue :=
  (occurrences.filter fun occurrence => occurrence.1.text == name).map Prod.snd

/-- The number of empty values at the end. -/
def trailingEmpty (values : List HeaderValue) : Nat :=
  (values.reverse.takeWhile fun value => value.bytes.isEmpty).length

/-- Each empty value of a name removes what the value before it left, and is itself
added when there is nothing to remove.  So nothing is left when the empty values
behind the last other value are odd in number, or even if there is no other. -/
def Cancel (values : List HeaderValue) : Prop :=
  trailingEmpty values % 2 = if trailingEmpty values = values.length then 0 else 1

instance (values : List HeaderValue) : Decidable (Cancel values) :=
  inferInstanceAs (Decidable (_ = _))

theorem trailingEmpty_le (values : List HeaderValue) :
    trailingEmpty values ≤ values.length := by
  have le := (List.takeWhile_prefix (l := values.reverse)
    fun value => value.bytes.isEmpty).length_le
  rwa [List.length_reverse] at le

theorem trailingEmpty_concat (values : List HeaderValue) (value : HeaderValue) :
    trailingEmpty (values ++ [value]) =
      if value.bytes.isEmpty then trailingEmpty values + 1 else 0 := by
  simp only [trailingEmpty, List.reverse_append, List.reverse_singleton,
    List.singleton_append, List.takeWhile_cons]
  split <;> simp

theorem cancel_nil : Cancel [] := by
  decide

theorem cancel_concat (values : List HeaderValue) (value : HeaderValue) :
    Cancel (values ++ [value]) ↔ value.bytes = [] ∧ ¬Cancel values := by
  have le := trailingEmpty_le values
  unfold Cancel
  rw [trailingEmpty_concat, List.length_append, List.length_singleton]
  by_cases empty : value.bytes = []
  · simp only [empty, List.isEmpty_nil, if_true, true_and]
    split <;> split <;> omega
  · simp [empty]

theorem widenLatin1_eq_empty {bytes : List UInt8} :
    widenLatin1 bytes = "" ↔ bytes = [] := by
  constructor
  · intro empty
    exact widenLatin1_injective empty
  · rintro rfl
    rfl

/-- What the header loop leaves of a name. -/
theorem headersNamed_loop_eq_nil {name : String}
    (lower : toAsciiLowercase name = name)
    (occurrences : List (HeaderName × HeaderValue)) :
    headersNamed name ((occurrences.map fun occurrence =>
        (occurrence.1.text, widenLatin1 occurrence.2.bytes)).foldl addReplaced []) = [] ↔
      Cancel (valuesNamed name occurrences) := by
  induction occurrences using List.reverseRecOn with
  | nil => simp [headersNamed, valuesNamed, cancel_nil]
  | append_singleton occurrences occurrence ih =>
    simp only [List.map_append, List.map_singleton, List.foldl_append, List.foldl_cons,
      List.foldl_nil]
    have lowerText := HeaderName.toAsciiLowercase_text occurrence.1
    by_cases same : occurrence.1.text = name
    · have valuesEq : valuesNamed name (occurrences ++ [occurrence]) =
          valuesNamed name occurrences ++ [occurrence.2] := by
        simp [valuesNamed, same]
      rw [headersNamed_addReplaced_eq_nil (by rw [lowerText, lower, same]), valuesEq,
        cancel_concat, widenLatin1_eq_empty, ← ih]
    · have valuesEq : valuesNamed name (occurrences ++ [occurrence]) =
          valuesNamed name occurrences := by
        simp [valuesNamed, same]
      rw [headersNamed_addReplaced_of_ne (by rw [lowerText, lower]; exact same), valuesEq,
        ih]

/-- The framing header is added behind the caller's. -/
theorem framedBy_iff {field name other value : String}
    (nameEq : toAsciiLowercase field = toAsciiLowercase name)
    (otherNe : toAsciiLowercase field ≠ toAsciiLowercase other) (nonempty : value ≠ "")
    (lower : toAsciiLowercase other = other) (map : HeaderMap) :
    FramedBy name other value
        (addReplaced ((headerList map).foldl addReplaced []) (field, value)) ↔
      Cancel (valuesNamed other map.iter) := by
  have named : headersNamed name (addReplaced ((headerList map).foldl addReplaced [])
      (field, value)) = [(field, value)] := by
    apply headersNamed_addReplaced_of_value
    · exact nameEq
    · exact nonempty
  have others : headersNamed other (addReplaced ((headerList map).foldl addReplaced [])
      (field, value)) = headersNamed other ((headerList map).foldl addReplaced []) := by
    apply headersNamed_addReplaced_of_ne
    exact otherNe
  unfold FramedBy
  rw [named, others]
  simp only [List.map_singleton, true_and]
  exact headersNamed_loop_eq_nil lower map.iter

/-- Nothing was sent yet, and these headers were added. -/
def UnsentWith (headers : List WireHeader)
    (world : RequestWorld × List (List WireHeader)) : Prop :=
  Unsent headers world.1 ∧ world.2 = []

/-- Every header list sent so far satisfies the condition. -/
def AllSent (condition : List WireHeader → Prop)
    (world : RequestWorld × List (List WireHeader)) : Prop :=
  ∀ headers ∈ world.2, condition headers

variable {condition : List WireHeader → Prop} {url : Url}

theorem unsentWith_stable (headers : List WireHeader) :
    winHttpSends.Stable (UnsentWith headers) := by
  apply Environment.Stable.recording
  rintro history world event next ⟨unsent, empty⟩ happens
  exact ⟨unsent_stable headers world event next unsent happens, empty⟩

theorem allSent_stable (condition : List WireHeader → Prop) :
    winHttpSends.Stable (AllSent condition) := by
  apply Environment.Stable.recording
  intro history world event next all happens
  exact all

theorem unobserved_of_transfers (call : RequestCall) (transfers : call.transfers = true) :
    ∀ world, sentHeaders world call = none := by
  intro world
  cases call <;> first | rfl | cases transfers

theorem unobserved_of_receives (call : RequestCall) (receives : call.receives = true) :
    ∀ world, sentHeaders world call = none :=
  unobserved_of_transfers call (call.transfers_of_receives receives)

theorem unobserved_of_configures (call : RequestCall)
    (configures : call.configures = true) :
    ∀ world, sentHeaders world call = none := by
  intro world
  cases call <;> first | rfl | cases configures

/-- A step that sends nothing adds no header list. -/
theorem allSent_of_makes {α : Type} {step : RequestStep α}
    (makes : step.Makes fun call => ∀ world, sentHeaders world call = none) :
    Triple winHttpSends (AllSent condition) step (fun _ => AllSent condition)
      (fun _ => AllSent condition) := by
  apply makes.triple (allSent_stable condition)
  intro world call reply next unobserved all answers sent member
  rw [answers.2, unobserved] at member
  exact all sent (by simpa using member)

theorem prepareRequest_makes (parts : RequestParts) :
    RequestStep.Makes (fun call => ∀ world, sentHeaders world call = none)
      (prepareRequest parts) :=
  makes_bind ((configureRequest_makes parts).mono unobserved_of_configures) fun _ =>
    makes_bind (addHeaders_makes (fun _ _ => rfl) _) fun _ => makes_pure _

/-- What `store_body` returns for each kind of body. -/
def Prepares : Option Body → PreparedBody → Prop
  | some { inner := .stream items }, prepared => prepared.stream = some items
  | some { inner := .bytes content }, prepared =>
    prepared.stream = none ∧ prepared.length = content.length
  | none, _ => True

theorem storeBody_yields (body : Option Body) :
    RequestStep.Yields (Prepares body) (storeBody body) := by
  rcases body with _ | ⟨content | items⟩
  · exact yields_pure trivial
  · apply yields_after
    intro pointer
    split
    · next empty => exact yields_pure ⟨rfl, by simp [List.isEmpty_iff.mp empty]⟩
    · exact yields_pure ⟨rfl, rfl⟩
  · exact yields_pure rfl

theorem prepareRequest_yields (parts : RequestParts) :
    RequestStep.Yields (Prepares parts.body) (prepareRequest parts) := by
  have opened : RequestStep.Yields (Prepares parts.body) (openHandle parts) :=
    yields_bind (storeBody_yields parts.body) fun _ prepares =>
      yields_after fun _ => yields_after fun _ => yields_after fun _ =>
        yields_after fun _ => yields_after fun _ => yields_after fun _ =>
          yields_pure prepares
  have configured : RequestStep.Yields (Prepares parts.body) (configureRequest parts) :=
    yields_bind opened fun _ prepares =>
      yields_after fun _ => yields_after fun _ => yields_pure prepares
  exact yields_bind configured fun _ prepares =>
    yields_after fun _ => yields_pure prepares

/-- The send records the header list that was added. -/
theorem sendAndComplete_allSent {headers : List WireHeader} (holds : condition headers)
    (body : Option Nat) (bodyLength totalLength : Nat) :
    Triple winHttpSends (UnsentWith headers)
      (sendAndComplete url body bodyLength totalLength)
      (fun _ => AllSent condition) (fun _ => AllSent condition) := by
  have stable := fun _ : Error => allSent_stable condition
  have listens : Triple winHttpSends (UnsentWith headers) (ask .listen)
      (fun _ => UnsentWith headers) (fun _ => AllSent condition) := by
    refine triple_ask (unsentWith_stable headers)
      (fun world listener next unsent answers => ?_) fun _ => unsentWith_stable headers
    obtain ⟨⟨unsent, empty⟩, ⟨-, nextEq⟩, extended⟩ := And.intro unsent answers
    rw [UnsentWith, nextEq, extended, empty]
    exact ⟨⟨unsent.closing, unsent.sendStarted, unsent.operation, unsent.headers⟩, rfl⟩
  have recorded : ∀ (world next : RequestWorld × List (List WireHeader)),
      UnsentWith headers world → next.2 = world.2 ++ [world.1.headers] →
        AllSent condition next := by
    intro world next unsent extended sent member
    rw [extended, unsent.2, unsent.1.headers, List.nil_append, List.mem_singleton] at member
    rw [member]
    exact holds
  have starts : Triple winHttpSends (UnsentWith headers)
      (do checkWin32 url (← ask (.sendRequest body bodyLength totalLength)))
      (fun _ => AllSent condition) (fun _ => AllSent condition) :=
    triple_checked (unsentWith_stable headers)
      (fun world reply value next unsent answers _ => recorded world next unsent answers.2)
      (fun world reply code next unsent answers _ => recorded world next unsent answers.2)
      (fun _ => allSent_stable condition) stable
  have awaited : Triple winHttpSends (UnsentWith headers)
      (awaitWin32 do
        checkWin32 url (← ask (.sendRequest body bodyLength totalLength)))
      (fun _ => AllSent condition) (fun _ => AllSent condition) := by
    refine listens.bind (fun listener => starts.bind (fun _ => ?_) stable) stable
    apply allSent_of_makes
    refine makes_call (unobserved_of_transfers _ rfl) fun reply => ?_
    cases reply <;> exact makes_pure _
  apply awaited.bind _ stable
  intro event
  exact allSent_of_makes (intoResult_makes
    (allowed_of_narrower RequestCall.receives_of_completes unobserved_of_receives) event)

theorem addFraming_unsentWith {name value : String} (noColon : ':' ∉ name.toList)
    (noReturn : '\r' ∉ value.toList) (headers : List WireHeader) :
    Triple winHttpSends (UnsentWith headers) (addRequestHeader url (headerLine name value))
      (fun _ => UnsentWith (addReplaced headers (name, value)))
      (fun _ => AllSent condition) := by
  have makes : RequestStep.Makes (fun call => ∀ world, sentHeaders world call = none)
      (addRequestHeader url (headerLine name value)) :=
    addRequestHeader_makes (fun _ _ => rfl) _
  apply (makes.recording (addRequestHeader_unsent noColon noReturn headers) []).mono
  · exact fun _ _ holds => holds
  · intro _ world holds sent member
    rw [holds.2] at member
    cases member

/-- A body that is announced by a header: the send records the caller's headers
and the framing header, and nothing is sent later. -/
theorem announced_allSent {name value : String} {headers : List WireHeader}
    (noColon : ':' ∉ name.toList) (noReturn : '\r' ∉ value.toList)
    (holds : condition (addReplaced headers (name, value))) {α : Type}
    (rest : RequestStep α)
    (makes : rest.Makes fun call => ∀ world, sentHeaders world call = none) :
    Triple winHttpSends (UnsentWith headers)
      (do
        addRequestHeader url (headerLine name value)
        sendAndComplete url none 0 WINHTTP_IGNORE_REQUEST_TOTAL_LENGTH
        rest)
      (fun _ => AllSent condition) (fun _ => AllSent condition) := by
  have stable := fun _ : Error => allSent_stable condition
  apply (addFraming_unsentWith noColon noReturn headers).bind _ stable
  intro added
  apply (sendAndComplete_allSent holds none 0 _).bind _ stable
  intro sent
  exact allSent_of_makes makes

/-- The header that announces a body. -/
def announcement : Option Body → WireHeader
  | some { inner := .bytes content } => ("Content-Length", toString content.length)
  | _ => ("Transfer-Encoding", "chunked")

/-- The body is announced by a header of its own. -/
def Announced : Option Body → Prop
  | some { inner := .bytes content } => largeBodyThreshold < content.length
  | some { inner := .stream _ } => True
  | none => False

theorem return_notMem_toString (number : Nat) : '\r' ∉ (toString number).toList := by
  intro member
  have digits : '\r' ∈ Nat.toDigits 10 number := by
    simpa [Nat.repr] using member
  have digit := Nat.isDigit_of_mem_toDigits (by decide) (by decide) digits
  cases digit

theorem sendBody_allSent (parse : String → Option Url) {body : Option Body}
    {prepared : PreparedBody} (announced : Announced body)
    (prepares : Prepares body prepared) (retry : CertlessRedirectRetry)
    {headers : List WireHeader}
    (holds : condition (addReplaced headers (announcement body))) :
    Triple winHttpSends (UnsentWith headers) (sendBody parse url prepared retry)
      (fun _ => AllSent condition) (fun _ => AllSent condition) := by
  unfold sendBody
  rcases body with _ | ⟨content | items⟩
  · cases announced
  · obtain ⟨noStream, lengthEq⟩ := prepares
    have large : ¬content.length ≤ largeBodyThreshold := Nat.not_le.mpr announced
    have noColon : ':' ∉ "Content-Length".toList := by decide
    simp only [noStream, lengthEq]
    rw [if_neg large]
    apply announced_allSent noColon (return_notMem_toString content.length) holds
    split
    · have writes := allowed_of_narrower RequestCall.transfers_of_writes unobserved_of_transfers
      exact makes_bind (writeLargeBody_makes writes _ _ _) fun _ => makes_pure _
    · exact makes_pure _
  · have noColon : ':' ∉ "Transfer-Encoding".toList := by decide
    have noReturn : '\r' ∉ "chunked".toList := by decide
    simp only [show prepared.stream = some items from prepares]
    apply announced_allSent noColon noReturn holds
    have writes := allowed_of_narrower RequestCall.transfers_of_writes unobserved_of_transfers
    have stores := fun bytes => unobserved_of_transfers (.storeSendBody bytes) rfl
    exact makes_bind (writeStream_makes writes stores _) fun _ =>
      makes_bind (storeAndWrite_makes writes stores _) fun _ => makes_pure _

/-- A body that is announced is not sent a second time. -/
theorem replaySafe_of_announced {body : Option Body} (announced : Announced body)
    (method : String) : (CertlessRedirectRetry.new url method body).replaySafe = false := by
  cases body with
  | none => cases announced
  | some body => simp [CertlessRedirectRetry.new]

theorem prepareRequest_unsentWith {parts : RequestParts} {map : HeaderMap}
    (carried : parts.headers = headerList map) :
    Triple winHttpSends (UnsentWith []) (prepareRequest parts)
      (fun prepared world => UnsentWith ((headerList map).foldl addReplaced []) world ∧
        Prepares parts.body prepared)
      (fun _ => AllSent condition) := by
  apply (prepareRequest_yields parts).triple
  apply ((prepareRequest_makes parts).recording (prepareRequest_unsent carried) []).mono
  · exact fun _ _ holds => holds
  · intro _ world holds sent member
    rw [holds.2] at member
    cases member

theorem executeRequest_allSent (parse : String → Option Url) {parts : RequestParts}
    {map : HeaderMap} (carried : parts.headers = headerList map)
    (announced : Announced parts.body)
    (holds : condition
      (addReplaced ((headerList map).foldl addReplaced []) (announcement parts.body))) :
    Triple winHttpSends (UnsentWith []) (executeRequest parse parts)
      (fun _ => AllSent condition) (fun _ => AllSent condition) := by
  have stable := fun _ : Error => allSent_stable condition
  apply (prepareRequest_unsentWith carried).bind _ stable
  rintro prepared world ⟨unsent, prepares⟩
  have notSafe : (CertlessRedirectRetry.new parts.url parts.method parts.body).replaySafe =
      false := replaySafe_of_announced announced parts.method
  apply ((sendBody_yields_of_notReplaySafe notSafe prepared).triple
    (sendBody_allSent parse announced prepares _ holds)).bind _ stable _ unsent
  rintro retry last ⟨all, notSafeRetry⟩
  have receives : RequestStep.Makes (fun call => ∀ world, sentHeaders world call = none)
      (do receiveResponse parse parts.url retry; queryResponse parse parts.url) :=
    makes_bind (receiveResponse_makes_of_notReplaySafe unobserved_of_receives notSafeRetry)
      fun _ => queryResponse_makes
        (allowed_of_narrower RequestCall.receives_of_queries unobserved_of_receives)
  exact allSent_of_makes receives last all

/-- The framing headers agree with the body that is written behind them. -/
def AgreesWith : Option Body → List WireHeader → Prop
  | some { inner := .bytes content } =>
    FramedBy "content-length" "transfer-encoding" (toString content.length)
  | _ => FramedBy "transfer-encoding" "content-length" "chunked"

/-- The framing header that a body must not have. -/
def otherFraming : Option Body → String
  | some { inner := .bytes _ } => "transfer-encoding"
  | _ => "content-length"

theorem toString_ne_empty (number : Nat) : toString number ≠ "" := by
  intro empty
  have digits : Nat.toDigits 10 number ≠ [] := Nat.toDigits_ne_nil
  apply digits
  simpa [Nat.repr] using congrArg String.toList empty

theorem agreesWith_iff {body : Option Body} (announced : Announced body)
    (map : HeaderMap) :
    AgreesWith body
        (addReplaced ((headerList map).foldl addReplaced []) (announcement body)) ↔
      Cancel (valuesNamed (otherFraming body) map.iter) := by
  rcases body with _ | ⟨content | items⟩
  · cases announced
  · have nameEq : toAsciiLowercase "Content-Length" =
        toAsciiLowercase "content-length" := by decide
    have otherNe : toAsciiLowercase "Content-Length" ≠
        toAsciiLowercase "transfer-encoding" := by decide
    have lower : toAsciiLowercase "transfer-encoding" = "transfer-encoding" := by decide
    exact framedBy_iff nameEq otherNe (toString_ne_empty _) lower map
  · have nameEq : toAsciiLowercase "Transfer-Encoding" =
        toAsciiLowercase "transfer-encoding" := by decide
    have otherNe : toAsciiLowercase "Transfer-Encoding" ≠
        toAsciiLowercase "content-length" := by decide
    have lower : toAsciiLowercase "content-length" = "content-length" := by decide
    have nonempty : "chunked" ≠ "" := by decide
    exact framedBy_iff nameEq otherNe nonempty lower map

/-- In every run of a request with a streamed or a large body, the framing headers at
each send agree with the body if and only if the caller's values of the other
framing header cancel. -/
theorem executeRequest_agreesWith_iff (parse : String → Option Url)
    (parts : RequestParts) (map : HeaderMap) (session : ProxyAction)
    (carried : parts.headers = headerList map) (announced : Announced parts.body)
    (result : Except Error RawResponse) (last : RequestWorld)
    (history : List (List WireHeader))
    (runs : Runs winHttpSends (executeRequest parse parts) (.initial parts session, [])
      result (last, history)) :
    ∀ headers ∈ history, AgreesWith parts.body headers ↔
      Cancel (valuesNamed (otherFraming parts.body) map.iter) := by
  intro headers member
  have fresh : UnsentWith [] (.initial parts session, []) :=
    ⟨⟨rfl, rfl, rfl, rfl⟩, rfl⟩
  let wire := addReplaced ((headerList map).foldl addReplaced [])
    (announcement parts.body)
  have holds : Eq wire wire := rfl
  have ends := executeRequest_allSent parse carried announced holds _ fresh result _ runs
  have same : wire = headers := by
    cases result with
    | ok response => exact ends headers member
    | error error => exact ends headers member
  rw [← same]
  exact agreesWith_iff announced map

section Run

def streamParts (map : HeaderMap) : RequestParts :=
  { bareParts .none false with
    headers := headerList map
    body := some { inner := .stream [] } }

def streamedWorld (map : HeaderMap) : RequestWorld :=
  { RequestWorld.initial (streamParts map) .automatic with
    headers := addReplaced ((headerList map).foldl addReplaced [])
      ("Transfer-Encoding", "chunked") }

/-- A streamed request that cannot connect has sent its header list. -/
theorem streamParts_runs {map : HeaderMap}
    (short : ∀ occurrence ∈ map.iter,
      utf16Length (headerLine occurrence.1.text
        (widenLatin1 occurrence.2.bytes)) ≤ u32Max) :
    ∃ result last,
      Runs winHttpSends (executeRequest (fun _ => none) (streamParts map))
        (.initial (streamParts map) .automatic, []) result
        (last, [(streamedWorld map).headers]) := by
  let event := CallbackEvent.win32Error Win32.ERROR_WINHTTP_CANNOT_CONNECT
  have prepared : Runs winHttpSends (α := Except Error PreparedBody)
      (prepareRequest (streamParts map)) (.initial (streamParts map) .automatic, []) _
      (_, []) :=
    (prepareRequest_makes _).runs_recording (prepareRequest_runs rfl rfl rfl short) []
  have framed : Runs winHttpSends (α := Except Error Unit)
      (addRequestHeader (bareUrl false) (headerLine "Transfer-Encoding" "chunked"))
      ({ RequestWorld.initial (streamParts map) .automatic with
        headers := (headerList map).foldl addReplaced [] }, []) (.ok ())
      (streamedWorld map, []) := by
    apply (addRequestHeader_makes (fun _ _ => rfl) _).runs_recording
    unfold addRequestHeader
    rw [if_pos (by decide)]
    exact .call (.ok ()) ⟨rfl, _,
      winHttpAddRequestHeaders_headerLine (by decide) (by decide) _, rfl⟩ (.done _ _)
  let error := (Error.fromWin32 Win32.ERROR_WINHTTP_CANNOT_CONNECT).withUrl (bareUrl false)
  let last : RequestWorld :=
    { (streamedWorld map).listened.sending.completed event with operation := .idle }
  have sends : Runs winHttpSends (α := Except Error Unit)
      (sendAndComplete (bareUrl false) none 0 WINHTTP_IGNORE_REQUEST_TOTAL_LENGTH)
      (streamedWorld map, []) (.error error) (last, [(streamedWorld map).headers]) := by
    refine .recording_call (0 : Nat) ⟨rfl, rfl⟩ ?_
    refine .recording_call (.ok ()) ⟨rfl, rfl⟩ ?_
    refine .interfere (.completes event) rfl ?_
    refine .recording_call (.ok event) ⟨rfl, rfl⟩ ?_
    refine .recording_call none ⟨rfl, rfl⟩ ?_
    exact .done (Except.error error) _
  have streamed : Runs winHttpSends (α := Except Error CertlessRedirectRetry)
      (sendBody (fun _ => none) (bareUrl false) ⟨0, 0, false, some []⟩
        (.new (bareUrl false) "GET" (streamParts map).body))
      ({ RequestWorld.initial (streamParts map) .automatic with
        headers := (headerList map).foldl addReplaced [] }, []) (.error error)
      (last, [(streamedWorld map).headers]) :=
    framed.bind (sends.bind (.done _ _))
  exact ⟨_, _, prepared.bind (streamed.bind (.done _ _))⟩

def contentLengthOf (value : HeaderValue) : HeaderMap where
  entries := [(⟨"content-length", List.all_eq_true.mp (by decide), by decide, by decide⟩,
    value, [])]
  distinct := List.nodup_singleton _

/-- Another header, and a `Content-Length` that an empty value takes back. -/
def cancelledLength : HeaderMap where
  entries :=
    [(nameX, digitValue 7, []),
      (⟨"content-length", List.all_eq_true.mp (by decide), by decide, by decide⟩,
        digitValue 5, [⟨[], nofun⟩])]
  distinct := by decide

theorem executeRequest_agreesWith_iff_cancelled :
    ∃ result last,
      Runs winHttpSends (executeRequest (fun _ => none) (streamParts cancelledLength))
        (.initial (streamParts cancelledLength) .automatic, []) result
        (last, [[("x", "7"), ("Transfer-Encoding", "chunked")]]) ∧
      AgreesWith (some { inner := .stream [] })
        [("x", "7"), ("Transfer-Encoding", "chunked")] := by
  have short : ∀ occurrence ∈ cancelledLength.iter,
      utf16Length (headerLine occurrence.1.text
        (widenLatin1 occurrence.2.bytes)) ≤ u32Max := by decide
  have announced : Announced (streamParts cancelledLength).body := trivial
  obtain ⟨result, last, runs⟩ := streamParts_runs short
  have wire : (streamedWorld cancelledLength).headers =
      [("x", "7"), ("Transfer-Encoding", "chunked")] := by decide
  rw [wire] at runs
  exact ⟨result, last, runs,
    (executeRequest_agreesWith_iff _ _ _ _ rfl announced _ _ _ runs _
      (List.mem_singleton_self _)).mpr (by decide)⟩

/-- The caller's `Content-Length` is sent together with the framing of a stream. -/
theorem executeRequest_sends_contentLength :
    ∃ value result last headers,
      Runs winHttpSends (executeRequest (fun _ => none) (streamParts (contentLengthOf value)))
        (.initial (streamParts (contentLengthOf value)) .automatic, []) result
        (last, [headers]) ∧
      headersNamed "content-length" headers = [("content-length", "5")] ∧
      headersNamed "transfer-encoding" headers = [("Transfer-Encoding", "chunked")] := by
  let value : HeaderValue := ⟨[53], List.all_eq_true.mp (by decide)⟩
  have short : ∀ occurrence ∈ (contentLengthOf value).iter,
      utf16Length (headerLine occurrence.1.text
        (widenLatin1 occurrence.2.bytes)) ≤ u32Max := by decide
  obtain ⟨result, last, runs⟩ := streamParts_runs short
  exact ⟨value, result, last, _, runs, by decide, by decide⟩

end Run

end Wrest.Framing
