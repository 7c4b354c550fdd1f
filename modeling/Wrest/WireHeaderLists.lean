import Wrest.WireHeaders

/-!
# The header list that the header loop leaves

The header loop adds each occurrence of the header map with the flags
`ADD | REPLACE`.  A name that is absent is added, and a second occurrence of a
name replaces or removes the first.  Started on an empty header list, the loop
therefore leaves at most one header of each name, and it leaves exactly the
occurrences of the map when no name is repeated.
-/

namespace Wrest

/-- One header with the flags `ADD | REPLACE`. -/
def addReplaced (headers : List WireHeader) (header : WireHeader) : List WireHeader :=
  if headers.any (isNamed header.1) then
    let others := headers.filter fun other => !isNamed header.1 other
    if header.2 = "" then others else others ++ [header]
  else
    headers ++ [header]

def headersNamed (name : String) (headers : List WireHeader) : List WireHeader :=
  headers.filter (isNamed name)

theorem winHttpAddRequestHeaders_headerLine {name value : String}
    (noColon : ':' ∉ name.toList) (noReturn : '\r' ∉ value.toList)
    (headers : List WireHeader) :
    winHttpAddRequestHeaders (headerLine name value) .addReplace headers =
      .ok (addReplaced headers (name, value)) := by
  simp only [winHttpAddRequestHeaders, parseHeaderLine_headerLine noColon noReturn,
    addReplaced]
  split <;> rfl

theorem isNamed_congr {first second : String}
    (same : toAsciiLowercase first = toAsciiLowercase second) (header : WireHeader) :
    isNamed first header = isNamed second header := by
  simp [isNamed, same]

theorem headersNamed_addReplaced_of_ne {name : String} {header : WireHeader}
    (different : toAsciiLowercase header.1 ≠ toAsciiLowercase name)
    (headers : List WireHeader) :
    headersNamed name (addReplaced headers header) = headersNamed name headers := by
  have notNamed : isNamed name header = false := by
    simpa [isNamed] using different
  have kept : ∀ other, isNamed name other = true → isNamed header.1 other = false := by
    intro other named
    simp only [isNamed, beq_iff_eq] at named
    simpa [isNamed, named] using different.symm
  have others : (headers.filter fun other => !isNamed header.1 other).filter
      (isNamed name) = headers.filter (isNamed name) := by
    rw [List.filter_filter]
    apply List.filter_congr
    intro other _
    cases named : isNamed name other with
    | false => rfl
    | true => simp [kept other named]
  unfold addReplaced headersNamed
  split
  · dsimp only
    split
    · exact others
    · rw [List.filter_append, others]
      simp [notNamed]
  · rw [List.filter_append]
    simp [notNamed]

theorem headersNamed_filter_not {name : String} {header : WireHeader}
    (same : toAsciiLowercase header.1 = toAsciiLowercase name)
    (headers : List WireHeader) :
    headersNamed name (headers.filter fun other => !isNamed header.1 other) = [] := by
  rw [headersNamed, List.filter_filter, List.filter_eq_nil_iff]
  intro other _
  rw [isNamed_congr same]
  simp

/-- The headers of the added name are then that header, or none. -/
theorem headersNamed_addReplaced_length {name : String} {header : WireHeader}
    (same : toAsciiLowercase header.1 = toAsciiLowercase name)
    (headers : List WireHeader) :
    (headersNamed name (addReplaced headers header)).length ≤ 1 := by
  have noOthers : (headers.filter fun other => !isNamed header.1 other).filter
      (isNamed name) = [] := headersNamed_filter_not same headers
  unfold addReplaced headersNamed
  split
  · dsimp only
    split
    · rw [noOthers]
      exact Nat.zero_le 1
    · rw [List.filter_append, noOthers, List.nil_append]
      exact List.length_filter_le _ _
  · next absent =>
    have none : headers.filter (isNamed name) = [] := by
      rw [List.filter_eq_nil_iff]
      intro other member named
      rw [← isNamed_congr same] at named
      exact absent (List.any_eq_true.mpr ⟨other, member, named⟩)
    rw [List.filter_append, none, List.nil_append]
    exact List.length_filter_le _ _

/-- The added name is absent then only if its present header was removed. -/
theorem headersNamed_addReplaced_eq_nil {name : String} {header : WireHeader}
    (same : toAsciiLowercase header.1 = toAsciiLowercase name)
    (headers : List WireHeader) :
    headersNamed name (addReplaced headers header) = [] ↔
      header.2 = "" ∧ headersNamed name headers ≠ [] := by
  have itself : isNamed name header = true := by
    simpa [isNamed] using same
  have present : headers.any (isNamed header.1) = true ↔ headersNamed name headers ≠ [] := by
    rw [List.any_eq_true, headersNamed, Ne, List.filter_eq_nil_iff]
    simp [isNamed_congr same]
  unfold addReplaced
  by_cases found : headers.any (isNamed header.1) = true
  · rw [if_pos found]
    dsimp only
    split
    · next empty =>
      have others := headersNamed_filter_not same headers
      simp [others, empty, present.mp found]
    · next nonempty =>
      simp [headersNamed, itself, nonempty]
  · rw [if_neg found]
    have absent := present.not.mp found
    simp [headersNamed, itself] at absent ⊢
    exact fun _ => absent

/-- A header with a value replaces every other of its name. -/
theorem headersNamed_addReplaced_of_value {name : String} {header : WireHeader}
    (same : toAsciiLowercase header.1 = toAsciiLowercase name) (value : header.2 ≠ "")
    (headers : List WireHeader) :
    headersNamed name (addReplaced headers header) = [header] := by
  have atMostOne := headersNamed_addReplaced_length same headers
  have notNil : headersNamed name (addReplaced headers header) ≠ [] := by
    intro contrary
    exact value ((headersNamed_addReplaced_eq_nil same headers).mp contrary).1
  have member : header ∈ headersNamed name (addReplaced headers header) := by
    rw [headersNamed, List.mem_filter]
    constructor
    · unfold addReplaced
      split <;> simp
    · simpa [isNamed] using same
  obtain ⟨only, listEq⟩ := List.length_eq_one_iff.mp
    (Nat.le_antisymm atMostOne (List.length_pos_iff.mpr notNil))
  rw [listEq, List.mem_singleton] at member
  rw [listEq, member]

theorem headersNamed_foldl_length {headers occurrences : List WireHeader}
    (atMostOne : ∀ name, (headersNamed name headers).length ≤ 1) (name : String) :
    (headersNamed name (occurrences.foldl addReplaced headers)).length ≤ 1 := by
  induction occurrences generalizing headers with
  | nil => exact atMostOne name
  | cons header occurrences ih =>
    apply ih
    intro other
    by_cases same : toAsciiLowercase header.1 = toAsciiLowercase other
    · exact headersNamed_addReplaced_length same headers
    · rw [headersNamed_addReplaced_of_ne same]
      exact atMostOne other

/-- Occurrences of new and distinct names are all appended. -/
theorem foldl_addReplaced_of_distinct {headers occurrences : List WireHeader}
    (distinct : (headers ++ occurrences).Pairwise fun first second =>
      toAsciiLowercase first.1 ≠ toAsciiLowercase second.1) :
    occurrences.foldl addReplaced headers = headers ++ occurrences := by
  induction occurrences generalizing headers with
  | nil => simp
  | cons header occurrences ih =>
    have absent : ¬ headers.any (isNamed header.1) = true := by
      rw [List.any_eq_true]
      rintro ⟨other, member, named⟩
      have ne := (List.pairwise_append.mp distinct).2.2 other member header
        List.mem_cons_self
      simp only [isNamed, beq_iff_eq] at named
      exact ne named
    have added : addReplaced headers header = headers ++ [header] := if_neg absent
    rw [List.foldl_cons, added]
    have rest : occurrences.foldl addReplaced (headers ++ [header]) =
        headers ++ [header] ++ occurrences := ih (by simpa using distinct)
    simpa using rest

/-- No name of the map has a second value. -/
def HeaderMap.NoRepeats (map : HeaderMap) : Prop :=
  ∀ entry ∈ map.entries, entry.2.2 = []

instance (map : HeaderMap) : Decidable map.NoRepeats :=
  inferInstanceAs (Decidable (∀ entry ∈ map.entries, _ = _))

/-- The occurrences of a map without repeated names. -/
theorem headerList_of_noRepeats {map : HeaderMap} (single : map.NoRepeats) :
    headerList map = map.entries.map fun entry =>
      (entry.1.text, widenLatin1 entry.2.1.bytes) := by
  have eachEntry : ∀ entry ∈ map.entries,
      (HeaderMap.valuesOf entry).map (fun value => (entry.1, value)) =
        [(entry.1, entry.2.1)] := by
    intro entry member
    simp [HeaderMap.valuesOf, single entry member]
  have iterEq : map.iter = map.entries.map fun entry => (entry.1, entry.2.1) := by
    unfold HeaderMap.iter
    rw [List.flatMap_congr eachEntry, List.map_eq_flatMap]
  simp [headerList, iterEq, Function.comp_def]

theorem headerList_distinct {map : HeaderMap} (single : map.NoRepeats) :
    (headerList map).Pairwise fun first second =>
      toAsciiLowercase first.1 ≠ toAsciiLowercase second.1 := by
  rw [headerList_of_noRepeats single, List.pairwise_map]
  refine (List.pairwise_map.mp map.distinct).imp fun {first second} different same => ?_
  rw [HeaderName.toAsciiLowercase_text, HeaderName.toAsciiLowercase_text] at same
  exact different (HeaderName.text_injective same)

/-- A name with a second value occurs at least twice. -/
theorem two_le_headersNamed {map : HeaderMap}
    {entry : HeaderName × HeaderValue × List HeaderValue}
    (member : entry ∈ map.entries) (repeated : entry.2.2 ≠ []) :
    2 ≤ (headersNamed entry.1.text (headerList map)).length := by
  obtain ⟨name, first, rest⟩ := entry
  obtain ⟨second, others, rfl⟩ := List.exists_cons_of_ne_nil repeated
  have occurrences : [(name, first), (name, second)].Sublist map.iter := by
    have ofEntry : [(name, first), (name, second)].Sublist
        ((HeaderMap.valuesOf (name, first, second :: others)).map
          fun value => (name, value)) := by
      simp [HeaderMap.valuesOf]
    apply ofEntry.trans
    unfold HeaderMap.iter
    rw [List.flatMap_def]
    exact List.sublist_flatten_of_mem (List.mem_map.mpr ⟨_, member, rfl⟩)
  have wire := (occurrences.map fun occurrence =>
    (occurrence.1.text, widenLatin1 occurrence.2.bytes)).filter (isNamed name.text)
  simpa [headersNamed, headerList, isNamed] using wire.length_le

/-- The header loop leaves the occurrences of the map exactly when no name has a
second value. -/
theorem wireHeaders_iff (map : HeaderMap) :
    (∀ name, headersNamed name ((headerList map).foldl addReplaced []) =
        headersNamed name (headerList map)) ↔
      map.NoRepeats := by
  constructor
  · intro exact entry member
    by_contra repeated
    have twice := two_le_headersNamed member repeated
    have once : (headersNamed entry.1.text
        ((headerList map).foldl addReplaced [])).length ≤ 1 :=
      headersNamed_foldl_length (by simp [headersNamed]) entry.1.text
    rw [exact] at once
    omega
  · intro single name
    rw [foldl_addReplaced_of_distinct (by simpa using headerList_distinct single)]
    rfl

end Wrest
