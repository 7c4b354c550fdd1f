import Wrest.FormSerialization
import Wrest.UrlRoundTrips

/-!
# Query parameters

Each call of `query` puts its pairs behind the query that the URL has.  Adding two lists
of pairs one after the other gives the URL that adding both lists at once gives, and
every URL that is made in this way has the other components of the first one and a text
that agrees with them.
-/

namespace Wrest

open FormSerialization Uri

/-- The text of pairs. -/
def pairsText (pairs : List (String × Scalar)) : String :=
  finish (FormEncoding.serialize (pairs.map listPair))

/-- Two texts of pairs, with an ampersand between if neither is empty. -/
def joinPairs (first second : String) : String :=
  if second = "" then first
  else if first = "" then second
  else first ++ "&" ++ second

section Text

theorem finish_eq_empty_iff {target : List UInt8} : finish target = "" ↔ target = [] := by
  simp [finish, String.ofList_eq_empty_iff]

theorem pairsText_eq_empty_iff {pairs : List (String × Scalar)} :
    pairsText pairs = "" ↔ pairs = [] := by
  rw [pairsText, finish_eq_empty_iff, FormEncoding.serialize_eq_nil_iff, List.map_eq_nil_iff]

theorem finish_join (first second : List UInt8) :
    finish (FormEncoding.join first second) = joinPairs (finish first) (finish second) := by
  have sign : latin1Char FormEncoding.ampersand = '&' := by decide
  unfold FormEncoding.join joinPairs
  simp only [finish_eq_empty_iff]
  split
  · rfl
  · split
    · rfl
    · simp [finish, sign, String.ofList_append, String.append_assoc]

theorem pairsText_append (first second : List (String × Scalar)) :
    pairsText (first ++ second) = joinPairs (pairsText first) (pairsText second) := by
  rw [pairsText, List.map_append, FormEncoding.serialize_append, finish_join]
  rfl

/-- The characters of the octets that form encoding writes. -/
theorem isFormChar_latin1Char {octet : UInt8} (form : FormEncoding.isFormOctet octet = true) :
    Url.isFormChar (latin1Char octet) = true := by
  have checked : ∀ code : Fin 128, FormEncoding.isFormOctet (UInt8.ofNat code.val) = true →
      Url.isFormChar (latin1Char (UInt8.ofNat code.val)) = true := by decide
  have known := checked ⟨octet.toNat, FormEncoding.lt_of_isFormOctet form⟩
  rw [UInt8.ofNat_toNat] at known
  exact known form

theorem isEncoded_formChar {character : Char} (form : Url.isFormChar character = true)
    (rest : List Char) :
    isEncoded Url.isFormChar (character :: rest) = isEncoded Url.isFormChar rest := by
  have notPercent : character ≠ '%' := by
    rintro rfl
    cases form
  rw [isEncoded_cons notPercent, form, Bool.true_and]

theorem isEncoded_encodeOctet (octet : UInt8) (rest : List Char) :
    isEncoded Url.isFormChar ((FormEncoding.encodeOctet octet).map latin1Char ++ rest) =
      isEncoded Url.isFormChar rest := by
  unfold FormEncoding.encodeOctet
  split
  · next literal =>
    apply isEncoded_formChar (isFormChar_latin1Char _)
    rw [FormEncoding.isFormOctet, literal, Bool.true_or]
  · split
    · exact isEncoded_formChar (isFormChar_latin1Char (by decide)) rest
    · have digits : ∀ digit : Fin 16,
          (latin1Char (PercentEncoding.hexDigit digit.val)).isHexDigit = true := by decide
      have high := digits ⟨octet.toNat / 16, octet_div_lt octet⟩
      have low := digits ⟨octet.toNat % 16, octet_mod_lt octet⟩
      have sign : latin1Char PercentEncoding.percent = '%' := by decide
      simp only [PercentEncoding.percentEncode, List.map_cons, List.map_nil,
        List.cons_append, List.nil_append, sign, isEncoded, high, low, Bool.true_and]

theorem isEncoded_encode (octets : List UInt8) (rest : List Char) :
    isEncoded Url.isFormChar ((FormEncoding.encode octets).map latin1Char ++ rest) =
      isEncoded Url.isFormChar rest := by
  induction octets with
  | nil => rfl
  | cons octet octets ih =>
    rw [FormEncoding.encode, List.flatMap_cons, List.map_append, List.append_assoc,
      isEncoded_encodeOctet]
    exact ih

theorem isEncoded_pairText (pair : List UInt8 × List UInt8) :
    isEncoded Url.isFormChar ((FormEncoding.pairText pair).map latin1Char) = true := by
  have value := isEncoded_encode pair.2 []
  rw [List.append_nil] at value
  rw [FormEncoding.pairText, List.map_append, isEncoded_encode, List.map_cons,
    isEncoded_formChar (by decide), value]
  rfl

/-- The text of pairs is text of form characters and encoded octets. -/
theorem isEncoded_pairsText (pairs : List (String × Scalar)) :
    isEncoded Url.isFormChar (pairsText pairs).toList = true := by
  rw [pairsText, finish, String.toList_ofList]
  induction pairs using List.reverseRecOn with
  | nil => rfl
  | append_singleton pairs pair ih =>
    rw [List.map_append, List.map_singleton, FormEncoding.serialize_concat,
      FormEncoding.appendPair]
    split
    · exact isEncoded_pairText (listPair pair)
    · rw [List.map_append, isEncoded_append rfl ih, List.map_cons,
        isEncoded_formChar (by decide)]
      exact isEncoded_pairText (listPair pair)

end Text

namespace RequestBuilder

variable {Uri : Type}

section Joined

variable {url : Url} {text : String}

theorem query_setQuery (query : Option String) : (url.setQuery query).query = query :=
  rfl

/-- The query behind which a text is put. -/
def joinQuery (query : Option String) (text : String) : String :=
  match query with
  | some existing => if existing ≠ "" then existing ++ "&" ++ text else text
  | none => text

theorem appendQuery_nonempty (nonempty : text ≠ "") :
    appendQuery url text = url.setQuery (some (joinQuery url.query text)) := by
  rw [appendQuery, if_neg nonempty]
  rfl

theorem appendQuery_empty :
    appendQuery url "" = if url.query = some "" then url.setQuery none else url :=
  if_pos rfl

theorem joinQuery_ne_empty (nonempty : text ≠ "") (query : Option String) :
    joinQuery query text ≠ "" := by
  unfold joinQuery
  split
  · split
    · simp [nonempty]
    · exact nonempty
  · exact nonempty

theorem joinQuery_joinQuery {first : String} (nonempty : first ≠ "") (second : String)
    (query : Option String) :
    joinQuery (some (joinQuery query first)) second =
      joinQuery query (first ++ "&" ++ second) := by
  have outer : joinQuery (some (joinQuery query first)) second =
      joinQuery query first ++ "&" ++ second := if_pos (joinQuery_ne_empty nonempty query)
  rw [outer]
  unfold joinQuery
  split
  · split
    · simp only [String.append_assoc]
    · rfl
  · rfl

/-- Adding two texts one after the other adds the joined text. -/
theorem appendQuery_appendQuery (url : Url) (first second : String) :
    appendQuery (appendQuery url first) second =
      appendQuery url (joinPairs first second) := by
  by_cases firstEmpty : first = ""
  · subst firstEmpty
    have joined : joinPairs "" second = second := by
      unfold joinPairs
      split
      · next empty => exact empty.symm
      · rfl
    rw [joined, appendQuery_empty]
    split
    · next given =>
      by_cases secondEmpty : second = ""
      · rw [secondEmpty, appendQuery_empty, appendQuery_empty, if_pos given]
        exact if_neg (by nofun)
      · rw [appendQuery_nonempty secondEmpty, appendQuery_nonempty secondEmpty, given]
        rfl
    · rfl
  · rw [appendQuery_nonempty firstEmpty]
    by_cases secondEmpty : second = ""
    · have kept : ¬(url.setQuery (some (joinQuery url.query first))).query = some "" :=
        fun same => joinQuery_ne_empty firstEmpty url.query (Option.some.inj same)
      rw [secondEmpty, appendQuery_empty, if_neg kept, joinPairs, if_pos rfl,
        appendQuery_nonempty firstEmpty]
    · have joined : joinPairs first second = first ++ "&" ++ second := by
        rw [joinPairs, if_neg secondEmpty, if_neg firstEmpty]
      rw [appendQuery_nonempty secondEmpty, joined, appendQuery_nonempty (by simp [firstEmpty]),
        ← joinQuery_joinQuery firstEmpty]
      rfl

end Joined

/-- `query` with a list of pairs. -/
def queryPairs (builder : RequestBuilder Uri) (pairs : List (String × Scalar)) :
    RequestBuilder Uri :=
  builder.query (serializeFormUrlencoded (pairsValue pairs))

variable {builder : RequestBuilder Uri} {pairs : List (String × Scalar)}

theorem queryPairs_inRange (inRange : ∀ pair ∈ pairs, pair.2.InRange) :
    (builder.queryPairs pairs).url =
      builder.url.map fun url => appendQuery url (pairsText pairs) := by
  rw [queryPairs, serializeFormUrlencoded_pairs, if_pos inRange, query]
  split
  · next url urlEq =>
    rw [urlEq]
    rfl
  · next error urlEq => rw [urlEq]; rfl

theorem queryPairs_outOfRange (outOfRange : ¬∀ pair ∈ pairs, pair.2.InRange) :
    (builder.queryPairs pairs).url = .error rangeError := by
  rw [queryPairs, serializeFormUrlencoded_pairs, if_neg outOfRange]
  rfl

/-- Two lists, one after the other, on any builder. -/
theorem queryPairs_append (builder : RequestBuilder Uri)
    (first second : List (String × Scalar)) :
    ((builder.queryPairs first).queryPairs second).url =
      (builder.queryPairs (first ++ second)).url := by
  by_cases secondIn : ∀ pair ∈ second, pair.2.InRange
  · by_cases firstIn : ∀ pair ∈ first, pair.2.InRange
    · have bothIn : ∀ pair ∈ first ++ second, pair.2.InRange :=
        List.forall_mem_append.mpr ⟨firstIn, secondIn⟩
      rw [queryPairs_inRange secondIn, queryPairs_inRange firstIn, queryPairs_inRange bothIn,
        pairsText_append]
      cases builder.url with
      | error error => rfl
      | ok url => exact congrArg Except.ok (appendQuery_appendQuery url _ _)
    · rw [queryPairs_inRange secondIn, queryPairs_outOfRange firstIn,
        queryPairs_outOfRange fun both => firstIn (List.forall_mem_append.mp both).1]
      rfl
  · rw [queryPairs_outOfRange secondIn,
      queryPairs_outOfRange fun both => secondIn (List.forall_mem_append.mp both).2]

end RequestBuilder

section Extension

/-- What adding pairs makes of a URL. -/
structure ExtendsQuery (url after : Url) (pairs : List (String × Scalar)) : Prop where
  behind : ∀ existing, url.query = some existing → existing ≠ "" →
    after.query =
      some (if pairs = [] then existing else existing ++ "&" ++ pairsText pairs)
  alone : url.query = none ∨ url.query = some "" →
    after.query = if pairs = [] then none else some (pairsText pairs)
  kept : after =
    { url with
      query := after.query
      pathAndQuery := after.pathAndQuery
      serialized := after.serialized }
  consistent : after.Consistent

variable {libraries : UrlLibraries} {url : Url} {pairs : List (String × Scalar)}

theorem isUriText_joinQuery (formed : url.WellFormed libraries) :
    Url.IsUriText isQueryChar (RequestBuilder.joinQuery url.query (pairsText pairs)) := by
  have added := Url.isUriText_of_isFormChar (isEncoded_pairsText pairs)
  unfold RequestBuilder.joinQuery
  split
  · next existing queryEq =>
    split
    · have given := formed.lexical.query existing queryEq
      have listEq : (existing ++ "&" ++ pairsText pairs).toList =
          existing.toList ++ '&' :: (pairsText pairs).toList := by
        simp
      constructor
      · rw [listEq, isEncoded_append rfl given.encoded, isEncoded_cons (by decide),
          added.encoded]
        rfl
      · rw [listEq, List.forall_mem_append, List.forall_mem_cons]
        exact ⟨given.ascii, rfl, added.ascii⟩
    · exact added
  · exact added

/-- Adding pairs gives a URL that parsing and changes make. -/
theorem reachable_appendQuery (conforms : libraries.Conforms)
    (reachable : url.Reachable libraries) (pairs : List (String × Scalar)) :
    (RequestBuilder.appendQuery url (pairsText pairs)).Reachable libraries := by
  unfold RequestBuilder.appendQuery
  split
  · split
    · exact .setQuery reachable nofun
    · exact reachable
  · apply Url.Reachable.setQuery reachable
    rintro _ ⟨⟩
    exact isUriText_joinQuery (reachable.wellFormed conforms)

theorem appendQuery_extends (conforms : libraries.Conforms)
    (reachable : url.Reachable libraries) (pairs : List (String × Scalar)) :
    ExtendsQuery url (RequestBuilder.appendQuery url (pairsText pairs)) pairs := by
  have consistent :=
    ((reachable_appendQuery conforms reachable pairs).wellFormed conforms).consistent
  by_cases empty : pairs = []
  · subst empty
    have textEq : pairsText [] = "" := rfl
    rw [textEq] at consistent ⊢
    by_cases given : url.query = some ""
    · rw [RequestBuilder.appendQuery_empty, if_pos given] at consistent ⊢
      refine ⟨?_, fun _ => rfl, rfl, consistent⟩
      intro existing queryEq nonempty
      exact absurd (Option.some.inj (queryEq.symm.trans given)) nonempty
    · rw [RequestBuilder.appendQuery_empty, if_neg given] at consistent ⊢
      refine ⟨fun existing queryEq _ => queryEq, ?_, rfl, consistent⟩
      intro none
      exact none.resolve_right given
  · have nonempty : pairsText pairs ≠ "" := mt pairsText_eq_empty_iff.mp empty
    rw [RequestBuilder.appendQuery_nonempty nonempty] at consistent ⊢
    refine ⟨?_, ?_, rfl, consistent⟩
    · intro existing queryEq given
      rw [RequestBuilder.query_setQuery, queryEq, if_neg empty]
      exact congrArg some (if_pos given)
    · intro none
      rw [RequestBuilder.query_setQuery, if_neg empty]
      rcases none with queryEq | queryEq <;> rw [queryEq] <;> rfl

end Extension

/-- For every URL that parsing and changes make, and all lists of pairs: adding two lists
one after the other gives the URL that adding both at once gives, and pairs whose integers
JSON has extend the query and change nothing else. -/
theorem queryPairs_law {Uri : Type} {libraries : UrlLibraries}
    (conforms : libraries.Conforms) {url : Url} (reachable : url.Reachable libraries)
    (builder : RequestBuilder Uri) (urlEq : builder.url = .ok url) :
    (∀ first second : List (String × Scalar),
      ((builder.queryPairs first).queryPairs second).url =
        (builder.queryPairs (first ++ second)).url) ∧
    ∀ pairs : List (String × Scalar), (∀ pair ∈ pairs, pair.2.InRange) →
      ∃ after, (builder.queryPairs pairs).url = .ok after ∧
        after.Reachable libraries ∧ ExtendsQuery url after pairs := by
  refine ⟨builder.queryPairs_append, fun pairs inRange => ?_⟩
  refine ⟨_, ?_, reachable_appendQuery conforms reachable pairs,
    appendQuery_extends conforms reachable pairs⟩
  rw [RequestBuilder.queryPairs_inRange inRange, urlEq]
  rfl

theorem queryPairs_law_emptyQuery :
    ∃ url, Url.parse Url.grammarLibraries "http://u@1.2.3.4?#f" = .ok url ∧
      ∃ after, ((RequestBuilder.new (exampleClient .empty) "GET" (.ok url)).queryPairs
        [("a b", .string "&"), ("c", .null)]).url = .ok after ∧
        after.query = some "a+b=%26&c=" ∧ after.serialized = "http://1.2.3.4/?a+b=%26&c=#f" ∧
        ExtendsQuery url after [("a b", .string "&"), ("c", .null)] := by
  obtain ⟨url, parsed, query⟩ : ∃ url,
      Url.parse Url.grammarLibraries "http://u@1.2.3.4?#f" = .ok url ∧
        ∃ after, ((RequestBuilder.new (exampleClient .empty) "GET" (.ok url)).queryPairs
          [("a b", .string "&"), ("c", .null)]).url = .ok after ∧
          after.query = some "a+b=%26&c=" ∧
          after.serialized = "http://1.2.3.4/?a+b=%26&c=#f" :=
    ⟨_, rfl, _, rfl, rfl, rfl⟩
  obtain ⟨after, afterEq, queryEq, serializedEq⟩ := query
  obtain ⟨found, foundEq, -, extended⟩ := (queryPairs_law Url.grammarLibraries_conforms
    (.parse parsed) (RequestBuilder.new (exampleClient .empty) "GET" (.ok url)) rfl).2
      [("a b", .string "&"), ("c", .null)] (by decide)
  obtain rfl : after = found := Except.ok.inj (afterEq.symm.trans foundEq)
  exact ⟨url, parsed, after, afterEq, queryEq, serializedEq, extended⟩

end Wrest
