import Wrest.ResponseHeaders

/-!
# The values of a name in a header map

What the updates of a header map do to the values of each name: appending adds
one value behind the others, and inserting an absent name gives it one value.
-/

namespace Wrest

namespace HeaderMap

/-- The values of an entry, if it has the name. -/
def entryValues (name : HeaderName)
    (entry : HeaderName × HeaderValue × List HeaderValue) : List HeaderValue :=
  if entry.1 = name then valuesOf entry else []

def getAll (map : HeaderMap) (name : HeaderName) : List HeaderValue :=
  map.entries.flatMap (entryValues name)

def containsKey (map : HeaderMap) (name : HeaderName) : Bool :=
  decide (name ∈ map.entries.map Prod.fst)

/-- Replace the values of the name by one, or add the name. -/
def insert (map : HeaderMap) (name : HeaderName) (value : HeaderValue) : HeaderMap :=
  if known : name ∈ map.entries.map Prod.fst then
    { entries := map.entries.map fun entry =>
        if entry.1 = name then (entry.1, value, []) else entry
      distinct := by
        have names : (map.entries.map fun entry =>
            if entry.1 = name then (entry.1, value, []) else entry).map Prod.fst =
              map.entries.map Prod.fst := by
          rw [List.map_map]
          apply List.map_congr_left
          intro entry _
          simp only [Function.comp_apply]
          split <;> rfl
        rw [names]
        exact map.distinct }
  else
    map.append name value

section Occurrences

variable {Value : Type}

/-- The values of a name in a list of occurrences. -/
def valuesAmong (occurrences : List (HeaderName × Value)) (name : HeaderName) :
    List Value :=
  (occurrences.filter fun occurrence => occurrence.1 = name).map Prod.snd

@[simp]
theorem valuesAmong_nil (name : HeaderName) :
    valuesAmong ([] : List (HeaderName × Value)) name = [] :=
  rfl

theorem valuesAmong_cons (occurrence : HeaderName × Value)
    (rest : List (HeaderName × Value)) (name : HeaderName) :
    valuesAmong (occurrence :: rest) name =
      (if occurrence.1 = name then [occurrence.2] else []) ++ valuesAmong rest name := by
  by_cases same : occurrence.1 = name <;> simp [valuesAmong, same]

theorem valuesAmong_append (first second : List (HeaderName × Value))
    (name : HeaderName) :
    valuesAmong (first ++ second) name = valuesAmong first name ++ valuesAmong second name := by
  simp [valuesAmong]

theorem valuesAmong_eq_nil_iff {occurrences : List (HeaderName × Value)}
    {name : HeaderName} :
    valuesAmong occurrences name = [] ↔ name ∉ occurrences.map Prod.fst := by
  simp only [valuesAmong, List.map_eq_nil_iff, List.filter_eq_nil_iff, decide_eq_true_eq,
    List.mem_map, not_exists, not_and]

end Occurrences

theorem valuesAmong_iter (map : HeaderMap) (name : HeaderName) :
    valuesAmong map.iter name = map.getAll name := by
  unfold iter getAll
  induction map.entries with
  | nil => rfl
  | cons entry rest ih =>
    have ofEntry : valuesAmong ((valuesOf entry).map fun value => (entry.1, value)) name =
        entryValues name entry := by
      unfold valuesAmong entryValues
      by_cases same : entry.1 = name <;> simp [same, List.filter_map, Function.comp_def]
    rw [List.flatMap_cons, List.flatMap_cons, valuesAmong_append, ofEntry, ih]

theorem entryValues_of_ne {name : HeaderName}
    {entry : HeaderName × HeaderValue × List HeaderValue} (different : entry.1 ≠ name) :
    entryValues name entry = [] :=
  if_neg different

theorem getAll_eq_nil_iff {map : HeaderMap} {name : HeaderName} :
    map.getAll name = [] ↔ map.containsKey name = false := by
  simp only [getAll, containsKey, List.flatMap_eq_nil_iff, decide_eq_false_iff_not,
    List.mem_map, not_exists, not_and]
  constructor
  · intro none entry member same
    have values := none entry member
    rw [entryValues, if_pos same] at values
    cases values
  · intro absent entry member
    exact entryValues_of_ne fun same => absent entry member same

@[simp]
theorem getAll_empty (name : HeaderName) : empty.getAll name = [] :=
  rfl

private theorem flatMap_update {name : HeaderName} {value : HeaderValue}
    {entries : List (HeaderName × HeaderValue × List HeaderValue)}
    (distinct : (entries.map Prod.fst).Nodup) (known : name ∈ entries.map Prod.fst) :
    (entries.map fun entry =>
      if entry.1 = name then (entry.1, entry.2.1, entry.2.2 ++ [value]) else entry).flatMap
        (entryValues name) = entries.flatMap (entryValues name) ++ [value] := by
  induction entries with
  | nil => cases known
  | cons entry rest ih =>
    obtain ⟨notInRest, distinctRest⟩ := List.nodup_cons.mp distinct
    rw [List.map_cons, List.flatMap_cons, List.flatMap_cons]
    by_cases same : entry.1 = name
    · have others : ∀ other ∈ rest, other.1 ≠ name := by
        intro other member otherSame
        rw [same, ← otherSame] at notInRest
        exact notInRest (List.mem_map_of_mem member)
      have unchanged : (rest.map fun entry =>
          if entry.1 = name then (entry.1, entry.2.1, entry.2.2 ++ [value]) else entry) =
            rest := by
        refine (List.map_congr_left fun other member => ?_).trans (List.map_id rest)
        exact if_neg (others other member)
      have noValues : rest.flatMap (entryValues name) = [] := by
        rw [List.flatMap_eq_nil_iff]
        intro other member
        exact entryValues_of_ne (others other member)
      rw [unchanged, noValues]
      simp [entryValues, same, valuesOf]
    · have inRest : name ∈ rest.map Prod.fst := by
        simpa [Ne.symm same] using known
      rw [ih distinctRest inRest]
      simp [entryValues, same]

private theorem flatMap_update_of_ne {name other : HeaderName} {value : HeaderValue}
    (different : name ≠ other)
    (entries : List (HeaderName × HeaderValue × List HeaderValue)) :
    (entries.map fun entry =>
      if entry.1 = name then (entry.1, entry.2.1, entry.2.2 ++ [value]) else entry).flatMap
        (entryValues other) = entries.flatMap (entryValues other) := by
  rw [List.flatMap_map]
  apply List.flatMap_congr
  intro entry _
  split
  · next same =>
    have notOther : entry.1 ≠ other := same ▸ different
    simp [entryValues, notOther]
  · rfl

/-- Appending adds one value of one name. -/
theorem getAll_append (map : HeaderMap) (name : HeaderName) (value : HeaderValue)
    (other : HeaderName) :
    (map.append name value).getAll other =
      map.getAll other ++ if name = other then [value] else [] := by
  unfold append getAll
  split
  · next known =>
    by_cases same : name = other
    · subst same
      rw [if_pos rfl]
      exact flatMap_update map.distinct known
    · rw [if_neg same, List.append_nil]
      exact flatMap_update_of_ne same map.entries
  · simp [entryValues, valuesOf]

theorem insert_of_absent {map : HeaderMap} {name : HeaderName}
    (absent : map.containsKey name = false) (value : HeaderValue) :
    map.insert name value = map.append name value := by
  have unknown : name ∉ map.entries.map Prod.fst := of_decide_eq_false absent
  rw [insert, dif_neg unknown]

theorem getAll_foldl_append (map : HeaderMap)
    (occurrences : List (HeaderName × HeaderValue)) (name : HeaderName) :
    (occurrences.foldl (fun map occurrence => map.append occurrence.1 occurrence.2)
        map).getAll name =
      map.getAll name ++ valuesAmong occurrences name := by
  induction occurrences generalizing map with
  | nil => simp
  | cons occurrence rest ih =>
    rw [List.foldl_cons, ih, getAll_append, valuesAmong_cons, List.append_assoc]

end HeaderMap

def narrowChar (character : Char) : UInt8 :=
  UInt8.ofNat character.toNat

/-- `narrow_latin1`. -/
def narrowLatin1 (text : String) : List UInt8 :=
  text.toList.map narrowChar

/-- Narrowing undoes widening, for every octet. -/
theorem narrowLatin1_widenLatin1 (bytes : List UInt8) :
    narrowLatin1 (widenLatin1 bytes) = bytes := by
  have narrowed : ∀ byte : UInt8, narrowChar (latin1Char byte) = byte := by
    intro byte
    rw [narrowChar, latin1Char_toNat, UInt8.ofNat_toNat]
  simp [narrowLatin1, widenLatin1, Function.comp_def, narrowed]

end Wrest
