import Wrest.RequestBuilders
import Wrest.WireHeaders

/-!
# The headers of a built request

The values of each name in a built request are the ones that the calls on the
builder gave, in their order, or else the client's default values.  In addition a
request without an `Accept` gets the one for any media type, and one without an
`Authorization` gets the basic credentials of its URL.  Values are compared as
octets, so nothing is lost on the way through the builder's texts.
-/

namespace Wrest

open HeaderMap PercentEncoding

namespace HeaderName

def contentType : HeaderName :=
  ⟨"content-type", List.all_eq_true.mp (by decide), by decide, by decide⟩

end HeaderName

/-- The values of a name, as octets. -/
def HeaderMap.octets (map : HeaderMap) (name : HeaderName) : List (List UInt8) :=
  (map.getAll name).map HeaderValue.bytes

theorem HeaderMap.octets_eq_nil_iff {map : HeaderMap} {name : HeaderName} :
    map.octets name = [] ↔ map.containsKey name = false := by
  rw [octets, List.map_eq_nil_iff, getAll_eq_nil_iff]

theorem HeaderMap.octets_insert {map : HeaderMap} {name : HeaderName}
    (missing : map.octets name = []) (value : HeaderValue) (other : HeaderName) :
    (map.insert name value).octets other =
      if other = name then [value.bytes] else map.octets other := by
  rw [insert_of_absent (octets_eq_nil_iff.mp missing), octets, getAll_append]
  by_cases same : other = name
  · subst same
    rw [octets, List.map_eq_nil_iff] at missing
    simp [missing]
  · simp [same, Ne.symm same, octets]

/-- The occurrences that a call gives.  A call that cannot be converted gives
none. -/
def HeaderCall.occurrences : HeaderCall → List (HeaderName × List UInt8)
  | .header (.ok name) (.ok value) => [(name, value.bytes)]
  | .header _ _ => []
  | .headers map => map.iter.map fun occurrence => (occurrence.1, occurrence.2.bytes)
  | .bearerAuth token => [(.authorization, utf8Bytes ("Bearer " ++ token))]
  | .basicAuth username password =>
    [(.authorization, RequestBuilder.basicScheme ++
      Base64.encode (utf8Bytes username ++ [58] ++ utf8Bytes (password.getD "")))]
  | .json _ => [(.contentType, utf8Bytes "application/json")]
  | .form _ => [(.contentType, utf8Bytes "application/x-www-form-urlencoded")]

namespace Url

def HasUserinfo (url : Url) : Prop :=
  url.username ≠ "" ∨ url.password ≠ none

instance (url : Url) : Decidable url.HasUserinfo :=
  inferInstanceAs (Decidable (_ ∨ _))

/-- The decoded username and password, with a colon between. -/
def userinfoOctets (url : Url) : List UInt8 :=
  percentDecode (utf8Bytes url.username) ++ [58] ++
    percentDecode (utf8Bytes (url.password.getD ""))

end Url

/-- The URL that is left when the userinfo is taken has none. -/
theorem Url.not_hasUserinfo_taken (url : Url) : ¬url.takeDecodedUserinfo.2.HasUserinfo := by
  intro userinfo
  rw [takeDecodedUserinfo] at userinfo
  split at userinfo
  · next none =>
    rcases userinfo with username | password
    · exact username none.1
    · exact password none.2
  · rcases userinfo with username | password
    · exact username rfl
    · exact password rfl

/-- The credentials in a value of the scheme `Basic`. -/
def basicCredentials (value : List UInt8) : Option (List UInt8) :=
  if RequestBuilder.basicScheme.isPrefixOf value then
    Base64.decode (value.drop RequestBuilder.basicScheme.length)
  else
    none

section Merge

variable (defaults : HeaderMap) (given : List (HeaderName × List UInt8))

/-- The given values of a name, or else the default ones. -/
def mergedOctets (name : HeaderName) : List (List UInt8) :=
  if valuesAmong given name = [] then defaults.octets name else valuesAmong given name

/-- What the headers of a built request are, for every name. -/
structure MergesHeaders (url : Url) (headers : HeaderMap) : Prop where
  other : ∀ name, name ≠ .accept → name ≠ .authorization →
    headers.octets name = mergedOctets defaults given name
  accept : headers.octets .accept =
    if mergedOctets defaults given .accept = [] then [HeaderValue.anyMedia.bytes]
    else mergedOctets defaults given .accept
  authorization : mergedOctets defaults given .authorization ≠ [] ∨ ¬url.HasUserinfo →
    headers.octets .authorization = mergedOctets defaults given .authorization
  injected : mergedOctets defaults given .authorization = [] → url.HasUserinfo →
    ∃ value, headers.octets .authorization = [value] ∧
      basicCredentials value = some url.userinfoOctets

end Merge

theorem utf8Bytes_append (first second : String) :
    utf8Bytes (first ++ second) = utf8Bytes first ++ utf8Bytes second := by
  simp [utf8Bytes]

/-- Text of ASCII octets is encoded as these octets. -/
theorem utf8Bytes_latin1 {bytes : List UInt8} (ascii : ∀ byte ∈ bytes, byte.toNat < 128) :
    utf8Bytes (String.ofList (bytes.map latin1Char)) = bytes := by
  simp only [utf8Bytes, String.toList_ofList]
  induction bytes with
  | nil => rfl
  | cons byte bytes ih =>
    have small : byte.toNat ≤ 127 := Nat.le_of_lt_succ (ascii byte List.mem_cons_self)
    have encoded : String.utf8EncodeChar (latin1Char byte) = [byte] := by
      have natEq : (latin1Char byte).val.toNat = byte.toNat := latin1Char_toNat byte
      simp [String.utf8EncodeChar, natEq, small]
    rw [List.map_cons, List.flatMap_cons, encoded,
      ih fun other member => ascii other (List.mem_cons_of_mem byte member)]
    rfl

theorem HeaderName.fromText_text {text : List Char} {name : HeaderName}
    (parsed : HeaderName.fromText text = some name) :
    name.text = String.ofList (text.map asciiLower) := by
  unfold HeaderName.fromText at parsed
  dsimp only at parsed
  split at parsed
  · cases parsed
    rfl
  · cases parsed

theorem HeaderValue.fromBytes_bytes {bytes : List UInt8} {value : HeaderValue}
    (parsed : HeaderValue.fromBytes bytes = some value) : value.bytes = bytes := by
  unfold HeaderValue.fromBytes at parsed
  split at parsed
  · cases parsed
    rfl
  · cases parsed

theorem HeaderValue.ofString_bytes {text : String} {value : HeaderValue}
    (parsed : HeaderValue.ofString text = .ok value) : value.bytes = utf8Bytes text := by
  unfold HeaderValue.ofString at parsed
  split at parsed
  · next found read =>
    cases parsed
    exact HeaderValue.fromBytes_bytes read
  · cases parsed

namespace RequestBuilder

variable {Uri : Type}

/-- A pair of the builder stands for an occurrence. -/
def Carries (pair : String × String) (occurrence : HeaderName × List UInt8) : Prop :=
  toAsciiLowercase pair.1 = occurrence.1.text ∧ narrowLatin1 pair.2 = occurrence.2

theorem carries_widen (name : HeaderName) (value : HeaderValue) :
    Carries (name.text, widenLatin1 value.bytes) (name, value.bytes) :=
  ⟨name.toAsciiLowercase_text, narrowLatin1_widenLatin1 value.bytes⟩

theorem carries_headerList (map : HeaderMap) :
    List.Forall₂ Carries (headerList map)
      (map.iter.map fun occurrence => (occurrence.1, occurrence.2.bytes)) := by
  rw [headerList, List.forall₂_map_left_iff, List.forall₂_map_right_iff, List.forall₂_same]
  intro occurrence _
  exact carries_widen occurrence.1 occurrence.2

/-- A call that leaves a URL adds its occurrences, and changes no other part that
building the headers reads. -/
structure Adds (before after : RequestBuilder Uri)
    (occurrences : List (HeaderName × List UInt8)) : Prop where
  client : after.client = before.client
  method : after.method = before.method
  url : after.url = before.url
  headers : ∃ pairs, after.headers = before.headers ++ pairs ∧
    List.Forall₂ Carries pairs occurrences

theorem header_adds {builder : RequestBuilder Uri} {name : HeaderName}
    {value : Except ErrorSource HeaderValue} {url : Url}
    (kept : (builder.header (.ok name) value).url = .ok url) :
    ∃ parsed, value = .ok parsed ∧
      Adds builder (builder.header (.ok name) value) [(name, parsed.bytes)] := by
  cases value with
  | error source => cases kept
  | ok value =>
    refine ⟨value, rfl, rfl, rfl, rfl, _, rfl, ?_⟩
    exact .cons (carries_widen name value) .nil

/-- A header whose value is given as a text. -/
theorem header_ofString_adds {builder : RequestBuilder Uri} {name : HeaderName}
    {text : String} {url : Url}
    (kept : (builder.header (.ok name) (HeaderValue.ofString text)).url = .ok url) :
    Adds builder (builder.header (.ok name) (HeaderValue.ofString text))
      [(name, utf8Bytes text)] := by
  obtain ⟨parsed, valueEq, adds⟩ := header_adds kept
  rw [HeaderValue.ofString_bytes valueEq] at adds
  exact adds

theorem encode_ascii (octets : List UInt8) :
    ∀ octet ∈ Base64.encode octets, octet.toNat < 128 := by
  have symbols : ∀ value < 64, (Base64.symbol value).toNat < 128 := by decide
  have pad : Base64.padding.toNat < 128 := by decide
  exact Base64.forall_mem_encode symbols pad octets

theorem basicAuth_eq (builder : RequestBuilder Uri) (username : String)
    (password : Option String) :
    builder.basicAuth username password =
      builder.header (.ok .authorization) (HeaderValue.ofString ("Basic " ++ String.ofList
        ((Base64.encode (utf8Bytes username ++ [58] ++
          utf8Bytes (password.getD ""))).map latin1Char))) := by
  have colon : String.utf8EncodeChar ':' = [58] := by decide
  cases password with
  | none => simp [basicAuth, utf8Bytes, colon]
  | some password => simp [basicAuth, utf8Bytes, colon]

theorem call_adds {builder : RequestBuilder Uri} {call : HeaderCall} {url : Url}
    (kept : (builder.call call).url = .ok url) :
    Adds builder (builder.call call) call.occurrences := by
  cases call with
  | header name value =>
    cases name with
    | error source => cases kept
    | ok name =>
      obtain ⟨parsed, rfl, adds⟩ := header_adds kept
      exact adds
  | headers map => exact ⟨rfl, rfl, rfl, _, rfl, carries_headerList map⟩
  | bearerAuth token =>
    change (builder.bearerAuth token).url = .ok url at kept
    exact header_ofString_adds kept
  | basicAuth username password =>
    change (builder.basicAuth username password).url = .ok url at kept
    change Adds builder (builder.basicAuth username password) _
    rw [basicAuth_eq] at kept ⊢
    have adds := header_ofString_adds kept
    rw [utf8Bytes_append, utf8Bytes_latin1 (encode_ascii _)] at adds
    exact adds
  | json data =>
    cases data with
    | error source => cases kept
    | ok content =>
      have carries : Carries ("Content-Type", "application/json")
          (.contentType, utf8Bytes "application/json") :=
        ⟨by decide, by decide⟩
      exact ⟨rfl, rfl, rfl, _, rfl, .cons carries .nil⟩
  | form encoded =>
    cases encoded with
    | error error => cases kept
    | ok encoded =>
      have carries : Carries ("Content-Type", "application/x-www-form-urlencoded")
          (.contentType, utf8Bytes "application/x-www-form-urlencoded") :=
        ⟨by decide, by decide⟩
      exact ⟨rfl, rfl, rfl, _, rfl, .cons carries .nil⟩

/-- A sequence of calls that leaves a URL adds the occurrences of all calls. -/
theorem calls_add {builder : RequestBuilder Uri} {calls : List HeaderCall} {url : Url}
    (kept : (calls.foldl call builder).url = .ok url) :
    Adds builder (calls.foldl call builder) (calls.flatMap HeaderCall.occurrences) := by
  induction calls generalizing builder with
  | nil => exact ⟨rfl, rfl, rfl, [], (List.append_nil _).symm, .nil⟩
  | cons first calls ih =>
    have rest := ih kept
    have firstKept : (builder.call first).url = .ok url := rest.url.symm.trans kept
    have adds := call_adds firstKept
    obtain ⟨pairs, headersEq, carries⟩ := adds.headers
    obtain ⟨morePairs, moreEq, moreCarries⟩ := rest.headers
    refine ⟨rest.client.trans adds.client, rest.method.trans adds.method,
      rest.url.trans adds.url, pairs ++ morePairs, ?_, ?_⟩
    · rw [List.foldl_cons, moreEq, headersEq, List.append_assoc]
    · rw [List.flatMap_cons]
      exact List.rel_append carries moreCarries

theorem addDefaults_getAll (names : List String) (defaults : HeaderMap)
    (name : HeaderName) :
    (addDefaults names defaults).getAll name =
      if name.text ∈ names then [] else defaults.getAll name := by
  have filtered : addDefaults names defaults =
      (defaults.iter.filter fun occurrence => !names.contains occurrence.1.text).foldl
        (fun map occurrence => map.append occurrence.1 occurrence.2) .empty := by
    rw [addDefaults, List.foldl_filter]
    congr
    funext map occurrence
    by_cases found : occurrence.1.text ∈ names <;> simp [found]
  rw [filtered, getAll_foldl_append, getAll_empty, List.nil_append, ← valuesAmong_iter]
  unfold valuesAmong
  rw [List.filter_filter]
  split
  · next found =>
    have noneLeft : (defaults.iter.filter fun occurrence =>
        decide (occurrence.1 = name) && !names.contains occurrence.1.text) = [] := by
      rw [List.filter_eq_nil_iff]
      rintro occurrence _
      by_cases same : occurrence.1 = name <;> simp [same, found]
    rw [noneLeft]
    rfl
  · next absent =>
    congr 1
    apply List.filter_congr
    intro occurrence _
    by_cases same : occurrence.1 = name <;> simp [same, absent]

/-- The loop appends the occurrence of each pair. -/
theorem appendHeaders_octets {pairs : List (String × String)}
    {occurrences : List (HeaderName × List UInt8)} {map merged : HeaderMap}
    (carries : List.Forall₂ Carries pairs occurrences)
    (appended : appendHeaders pairs map = .ok merged) (name : HeaderName) :
    merged.octets name = map.octets name ++ valuesAmong occurrences name := by
  induction carries generalizing map with
  | nil =>
    cases appended
    simp
  | @cons pair occurrence pairs occurrences carried _ ih =>
    rw [appendHeaders] at appended
    split at appended
    · cases appended
    · next headerName parsedName =>
      split at appended
      · cases appended
      · next headerValue parsedValue =>
        have nameEq : headerName = occurrence.1 := by
          apply HeaderName.text_injective
          rw [HeaderName.fromText_text parsedName, ← carried.1]
          rfl
        have valueEq : headerValue.bytes = occurrence.2 := by
          rw [HeaderValue.fromBytes_bytes parsedValue, carried.2]
        rw [ih appended, valuesAmong_cons, octets, getAll_append, nameEq]
        by_cases same : occurrence.1 = name <;> simp [same, octets, valueEq]

theorem injectAccept_octets (map : HeaderMap) (name : HeaderName) :
    (injectAccept map).octets name =
      if name = .accept ∧ map.octets .accept = [] then [HeaderValue.anyMedia.bytes]
      else map.octets name := by
  unfold injectAccept
  split
  · next present =>
    have given : map.octets .accept ≠ [] := by
      rw [Ne, octets_eq_nil_iff, present]
      decide
    rw [if_neg fun both => given both.2]
  · next absent =>
    have missing : map.octets .accept = [] :=
      octets_eq_nil_iff.mpr (Bool.eq_false_of_not_eq_true absent)
    rw [octets_insert missing]
    simp [missing]

theorem fromVisible_basic (credentials : List UInt8) :
    ∃ value, HeaderValue.fromVisible (basicScheme ++ Base64.encode credentials) =
      some value ∧ value.bytes = basicScheme ++ Base64.encode credentials := by
  have symbols : ∀ value < 64,
      HeaderValue.isVisibleAscii (Base64.symbol value) = true := by decide
  have pad : HeaderValue.isVisibleAscii Base64.padding = true := by decide
  have encoded : ∀ octet ∈ Base64.encode credentials,
      HeaderValue.isVisibleAscii octet = true :=
    Base64.forall_mem_encode symbols pad credentials
  have scheme : basicScheme.all HeaderValue.isVisibleAscii = true := by decide
  have visible : (basicScheme ++ Base64.encode credentials).all
      HeaderValue.isVisibleAscii = true := by
    rw [List.all_append, scheme, Bool.true_and, List.all_eq_true]
    exact encoded
  exact ⟨_, dif_pos visible, rfl⟩

theorem basicCredentials_basic (credentials : List UInt8) :
    basicCredentials (basicScheme ++ Base64.encode credentials) = some credentials := by
  have isPrefix : basicScheme.isPrefixOf (basicScheme ++ Base64.encode credentials) =
      true := by
    rw [List.isPrefixOf_iff_prefix]
    exact List.prefix_append _ _
  rw [basicCredentials, if_pos isPrefix, List.drop_left, Base64.decode_encode]

/-- The injected value is the only one, and it carries the credentials. -/
theorem injectAuthorization_octets {userinfo : List UInt8 × Option (List UInt8)}
    {map : HeaderMap} (missing : map.octets .authorization = []) (name : HeaderName) :
    (injectAuthorization (some userinfo) map).octets name =
      if name = .authorization then
        [basicScheme ++ Base64.encode (credentialsOf userinfo)]
      else map.octets name := by
  obtain ⟨value, read, bytesEq⟩ := fromVisible_basic (credentialsOf userinfo)
  have absent := octets_eq_nil_iff.mp missing
  have injected : injectAuthorization (some userinfo) map =
      map.insert .authorization value := by
    simp only [injectAuthorization, absent, read]
    rfl
  rw [injected, octets_insert missing, bytesEq]

theorem injectAuthorization_of_present {map : HeaderMap}
    (present : map.octets .authorization ≠ [])
    (userinfo : Option (List UInt8 × Option (List UInt8))) :
    injectAuthorization userinfo map = map := by
  cases userinfo with
  | none => rfl
  | some userinfo =>
    apply if_pos
    by_contra absent
    exact present (octets_eq_nil_iff.mpr (Bool.eq_false_of_not_eq_true absent))

/-- What a build does when it succeeds. -/
theorem build_eq_ok_iff {builder : RequestBuilder Uri} {request : Request} :
    builder.build = .ok request ↔
      ∃ url merged, builder.url = .ok url ∧
        appendHeaders builder.headers
            (addDefaults (builder.headers.map fun header => toAsciiLowercase header.1)
              builder.client.defaultHeaders) = .ok merged ∧
        isMethod builder.method = true ∧
        request =
          { method := builder.method
            url := url.takeDecodedUserinfo.2
            headers := injectAuthorization url.takeDecodedUserinfo.1 (injectAccept merged)
            body := builder.body
            timeout := builder.timeout
            version := default } := by
  constructor
  · intro built
    unfold build at built
    cases urlEq : builder.url with
    | error error =>
      rw [urlEq] at built
      cases built
    | ok url =>
      rw [urlEq] at built
      cases mergedEq : appendHeaders builder.headers
          (addDefaults (builder.headers.map fun header => toAsciiLowercase header.1)
            builder.client.defaultHeaders) with
      | error error =>
        simp only [bind, Except.bind, mergedEq] at built
        cases built
      | ok merged =>
        simp only [bind, Except.bind, mergedEq] at built
        split at built
        · next valid =>
          cases built
          exact ⟨url, merged, rfl, rfl, valid, rfl⟩
        · cases built
  · rintro ⟨url, merged, urlEq, appended, valid, rfl⟩
    simp only [build, urlEq, bind, Except.bind, appended, valid, if_true]

theorem names_of_carries {pairs : List (String × String)}
    {occurrences : List (HeaderName × List UInt8)}
    (carries : List.Forall₂ Carries pairs occurrences) :
    (pairs.map fun pair => toAsciiLowercase pair.1) =
      occurrences.map fun occurrence => occurrence.1.text := by
  induction carries with
  | nil => rfl
  | cons carried _ ih => rw [List.map_cons, List.map_cons, carried.1, ih]

/-- The merged headers, before the automatic ones. -/
theorem merged_octets {pairs : List (String × String)}
    {occurrences : List (HeaderName × List UInt8)} {defaults merged : HeaderMap}
    (carries : List.Forall₂ Carries pairs occurrences)
    (appended : appendHeaders pairs
      (addDefaults (pairs.map fun pair => toAsciiLowercase pair.1) defaults) =
        .ok merged)
    (name : HeaderName) :
    merged.octets name = mergedOctets defaults occurrences name := by
  have given : name.text ∈ (pairs.map fun pair => toAsciiLowercase pair.1) ↔
      valuesAmong occurrences name ≠ [] := by
    have textIff : name.text ∈ (occurrences.map fun occurrence => occurrence.1.text) ↔
        name ∈ occurrences.map Prod.fst := by
      simp [HeaderName.text_injective.eq_iff]
    rw [names_of_carries carries, textIff, Ne, valuesAmong_eq_nil_iff, not_not]
  rw [appendHeaders_octets carries appended, octets, addDefaults_getAll, mergedOctets]
  by_cases none : valuesAmong occurrences name = []
  · rw [if_neg (given.not.mpr (not_not.mpr none)), if_pos none, none, List.append_nil]
    rfl
  · rw [if_pos (given.mpr none), if_neg none]
    rfl

theorem takeDecodedUserinfo_of_absent {url : Url} (absent : ¬url.HasUserinfo) :
    url.takeDecodedUserinfo = (none, url) := by
  apply if_pos
  simpa [Url.HasUserinfo] using absent

theorem takeDecodedUserinfo_of_present {url : Url} (present : url.HasUserinfo) :
    ∃ userinfo, url.takeDecodedUserinfo.1 = some userinfo ∧
      credentialsOf userinfo = url.userinfoOctets := by
  have given : ¬(url.username = "" ∧ url.password = none) := by
    rcases present with username | password
    · exact fun both => username both.1
    · exact fun both => password both.2
  rw [Url.takeDecodedUserinfo, if_neg given]
  refine ⟨_, rfl, ?_⟩
  cases passwordEq : url.password <;>
    simp [credentialsOf, Url.userinfoOctets, passwordEq, utf8Bytes, percentDecode]

section Injection

variable {defaults merged : HeaderMap} {given : List (HeaderName × List UInt8)}
variable (mergedEq : ∀ name, merged.octets name = mergedOctets defaults given name)

include mergedEq

theorem injectAccept_other {name : HeaderName} (different : name ≠ .accept) :
    (injectAccept merged).octets name = mergedOctets defaults given name := by
  rw [injectAccept_octets, if_neg fun both => different both.1, mergedEq]

theorem injectAccept_accept :
    (injectAccept merged).octets .accept =
      if mergedOctets defaults given .accept = [] then [HeaderValue.anyMedia.bytes]
      else mergedOctets defaults given .accept := by
  rw [injectAccept_octets, mergedEq]
  simp

/-- No `Authorization` is injected when there is one, or no userinfo. -/
theorem mergesHeaders_of_kept {url : Url}
    (kept : mergedOctets defaults given .authorization ≠ [] ∨ ¬url.HasUserinfo) :
    MergesHeaders defaults given url (injectAccept merged) where
  other _ notAccept _ := injectAccept_other mergedEq notAccept
  accept := injectAccept_accept mergedEq
  authorization _ := injectAccept_other mergedEq (by decide)
  injected missing present := by
    rcases kept with given | absent
    · exact absurd missing given
    · exact absurd present absent

theorem mergesHeaders_of_injected {url : Url} {userinfo : List UInt8 × Option (List UInt8)}
    (missing : mergedOctets defaults given .authorization = [])
    (present : url.HasUserinfo) (credentials : credentialsOf userinfo = url.userinfoOctets) :
    MergesHeaders defaults given url
      (injectAuthorization (some userinfo) (injectAccept merged)) := by
  have noValue : (injectAccept merged).octets .authorization = [] :=
    (injectAccept_other mergedEq (by decide)).trans missing
  constructor
  · intro name notAccept notAuthorization
    rw [injectAuthorization_octets noValue, if_neg notAuthorization]
    exact injectAccept_other mergedEq notAccept
  · rw [injectAuthorization_octets noValue, if_neg (by decide)]
    exact injectAccept_accept mergedEq
  · intro kept
    rcases kept with given | absent
    · exact absurd missing given
    · exact absurd present absent
  · intro _ _
    rw [injectAuthorization_octets noValue, if_pos rfl, credentials]
    exact ⟨_, rfl, basicCredentials_basic url.userinfoOctets⟩

/-- Injection in both cases. -/
theorem mergesHeaders_injectAuthorization (url : Url) :
    MergesHeaders defaults given url
      (injectAuthorization url.takeDecodedUserinfo.1 (injectAccept merged)) := by
  by_cases missing : mergedOctets defaults given .authorization = []
  · by_cases present : url.HasUserinfo
    · obtain ⟨userinfo, taken, credentials⟩ := takeDecodedUserinfo_of_present present
      rw [taken]
      exact mergesHeaders_of_injected mergedEq missing present credentials
    · rw [takeDecodedUserinfo_of_absent present]
      exact mergesHeaders_of_kept mergedEq (.inr present)
  · have value : (injectAccept merged).octets .authorization ≠ [] := by
      rw [injectAccept_other mergedEq (by decide)]
      exact missing
    rw [injectAuthorization_of_present value]
    exact mergesHeaders_of_kept mergedEq (.inl missing)

end Injection

/-- The loop ends without an error only on pairs that stand for occurrences. -/
theorem carries_of_appendHeaders {pairs : List (String × String)} {map merged : HeaderMap}
    (appended : appendHeaders pairs map = .ok merged) :
    ∃ occurrences, List.Forall₂ Carries pairs occurrences := by
  induction pairs generalizing map with
  | nil => exact ⟨[], .nil⟩
  | cons pair pairs ih =>
    rw [appendHeaders] at appended
    split at appended
    · cases appended
    · next name parsedName =>
      split at appended
      · cases appended
      · next value parsedValue =>
        obtain ⟨occurrences, carries⟩ := ih appended
        refine ⟨(name, value.bytes) :: occurrences, .cons ⟨?_, ?_⟩ carries⟩
        · rw [HeaderName.fromText_text parsedName]
          rfl
        · rw [HeaderValue.fromBytes_bytes parsedValue]

/-- The headers that any builder gives to the request that it builds. -/
theorem mergesHeaders_of_build {builder : RequestBuilder Uri} {request : Request}
    {occurrences : List (HeaderName × List UInt8)}
    (carries : List.Forall₂ Carries builder.headers occurrences)
    (built : builder.build = .ok request) :
    ∃ url, builder.url = .ok url ∧ request.url = url.takeDecodedUserinfo.2 ∧
      MergesHeaders builder.client.defaultHeaders occurrences url request.headers := by
  obtain ⟨url, merged, urlEq, appended, -, rfl⟩ := build_eq_ok_iff.mp built
  exact ⟨url, urlEq, rfl,
    mergesHeaders_injectAuthorization (merged_octets carries appended) url⟩

/-- The headers and the URL of a request that header calls on a new builder built. -/
theorem build_merges {client : Client Uri} {method : String} {url : Except Error Url}
    {calls : List HeaderCall} {request : Request}
    (built : (calls.foldl call (new client method url)).build = .ok request) :
    ∃ parsed, url = .ok parsed ∧ request.url = parsed.takeDecodedUserinfo.2 ∧
      MergesHeaders client.defaultHeaders (calls.flatMap HeaderCall.occurrences) parsed
        request.headers := by
  obtain ⟨parsed, -, urlEq, -⟩ := build_eq_ok_iff.mp built
  have adds := calls_add urlEq
  obtain ⟨pairs, pairsEq, carries⟩ := adds.headers
  change _ = [] ++ pairs at pairsEq
  rw [List.nil_append] at pairsEq
  obtain ⟨found, foundEq, taken, merges⟩ :=
    mergesHeaders_of_build (pairsEq ▸ carries) built
  rw [adds.client] at merges
  exact ⟨found, adds.url.symm.trans foundEq, taken, merges⟩

end RequestBuilder

/-- For every client and every sequence of calls on a new builder: a request that is
built has the merged headers of the client and the calls, with the automatic ones. -/
theorem build_mergesHeaders {Uri : Type} (client : Client Uri) (method : String)
    (url : Except Error Url) (calls : List HeaderCall) (request : Request)
    (built : (calls.foldl RequestBuilder.call
      (RequestBuilder.new client method url)).build = .ok request) :
    ∃ parsed, url = .ok parsed ∧
      MergesHeaders client.defaultHeaders (calls.flatMap HeaderCall.occurrences) parsed
        request.headers := by
  obtain ⟨parsed, urlEq, -, merges⟩ := RequestBuilder.build_merges built
  exact ⟨parsed, urlEq, merges⟩

def exampleClient (defaults : HeaderMap) : Client Unit where
  defaultHeaders := defaults
  proxyConfig := .none
  acceptInvalidCerts := false
  httpsOnly := false
  totalTimeout := none
  retryPolicy :=
    { budget := none, classify := none, maxRetriesPerRequest := 0, scope := none }

section Example

/-- The default headers `x: 7` and `y: 1`. -/
def twoDefaults : HeaderMap :=
  (HeaderMap.empty.append nameX (digitValue 7)).append nameY (digitValue 1)

/-- Two values for `x`. -/
def twoCalls : List HeaderCall :=
  [.header (.ok nameX) (.ok (digitValue 8)), .header (.ok nameX) (.ok (digitValue 9))]

def namedUrl : Url :=
  { bareUrl true with username := "a" }

def twoCallsBuild : Except Error Request :=
  (twoCalls.foldl RequestBuilder.call
    (RequestBuilder.new (exampleClient twoDefaults) "GET" (.ok namedUrl))).build

/-- The given values replace one default, and the other one stays.  The credentials of
the URL are injected. -/
theorem build_mergesHeaders_repeated :
    ∃ request, twoCallsBuild = .ok request ∧
      request.headers.octets nameX = [[56], [57]] ∧ request.headers.octets nameY = [[49]] ∧
      request.headers.octets .accept = [HeaderValue.anyMedia.bytes] ∧
      ∃ value, request.headers.octets .authorization = [value] ∧
        basicCredentials value = some namedUrl.userinfoOctets := by
  obtain ⟨request, built⟩ : ∃ request, twoCallsBuild = .ok request := ⟨_, rfl⟩
  obtain ⟨parsed, parsedEq, merges⟩ :=
    build_mergesHeaders (exampleClient twoDefaults) "GET" (.ok namedUrl) twoCalls request built
  cases parsedEq
  refine ⟨request, built, ?_, ?_, ?_, merges.injected (by decide) (by decide)⟩
  · exact (merges.other nameX (by decide) (by decide)).trans (by decide)
  · exact (merges.other nameY (by decide) (by decide)).trans (by decide)
  · exact merges.accept.trans (by decide)

end Example

end Wrest
