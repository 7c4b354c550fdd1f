import Mathlib.Data.String.Basic
import Wrest.FormSerialization
import Wrest.Utf8Decoders

/-!
# Reading forms back

A form is read by splitting it into pairs, decoding their octets and reading them as
UTF-8.  What is read back from an encoded list has an empty text for each null, and what
is read back from a struct or a map has no nulls but comes in the order of the names.
-/

namespace Wrest

open FormSerialization TextDecoding

/-- The pairs of a form as text. -/
def formPairs (text : String) : List (String × String) :=
  (FormEncoding.parse (utf8Bytes text)).map fun pair =>
    (String.ofList (fromUtf8Lossy pair.1), String.ofList (fromUtf8Lossy pair.2))

/-- A value is encoded to a form in which these pairs are read. -/
def DecodesTo (value : SerdeValue) (pairs : List (String × String)) : Prop :=
  ∃ text, serializeFormUrlencoded value = .ok text ∧ formPairs text = pairs

/-- The pairs that are not null. -/
def nonNull (pairs : List (String × Scalar)) : List (String × String) :=
  pairs.filterMap fun pair => pair.2.text.map fun text => (pair.1, text)

/-- The names come in their order, each once. -/
def Ascending {Value : Type} (entries : List (String × Value)) : Prop :=
  entries.Pairwise fun first second => first.1 < second.1

section Text

/-- The form of pairs of texts. -/
def formText (pairs : List (String × String)) : String :=
  finish (FormEncoding.serialize (pairs.map fun pair => octetPair pair.1 pair.2))

theorem utf8Bytes_finish (pairs : List (List UInt8 × List UInt8)) :
    utf8Bytes (finish (FormEncoding.serialize pairs)) = FormEncoding.serialize pairs :=
  utf8Bytes_latin1 fun _ => FormEncoding.lt_of_mem_serialize

theorem fromUtf8Lossy_utf8Bytes (text : String) :
    String.ofList (fromUtf8Lossy (utf8Bytes text)) = text := by
  rw [utf8Bytes, fromUtf8Lossy_flatMap_utf8EncodeChar, String.ofList_toList]

/-- The pairs of a form are the pairs that it was made of. -/
theorem formPairs_formText (pairs : List (String × String)) :
    formPairs (formText pairs) = pairs := by
  rw [formPairs, formText, utf8Bytes_finish, FormEncoding.parse_serialize, List.map_map]
  simp [Function.comp_def, octetPair, fromUtf8Lossy_utf8Bytes]

theorem formText_injective : Function.Injective formText :=
  Function.LeftInverse.injective formPairs_formText

end Text

section Objects

variable {key : String} {value : JsonValue} {entries : List (String × JsonValue)}

open JsonValue

theorem insertEntry_perm (fresh : key ∉ entries.map Prod.fst) :
    (insertEntry key value entries).Perm ((key, value) :: entries) := by
  induction entries with
  | nil => exact .refl _
  | cons entry entries ih =>
    rw [List.map_cons, List.mem_cons, not_or] at fresh
    unfold insertEntry
    split
    · exact .refl _
    · rw [if_neg fresh.1]
      exact ((ih fresh.2).cons entry).trans (.swap (key, value) entry entries)

theorem mem_insertEntry {entry : String × JsonValue}
    (member : entry ∈ insertEntry key value entries) :
    entry = (key, value) ∨ entry ∈ entries := by
  induction entries with
  | nil => exact .inl (List.mem_singleton.mp member)
  | cons other entries ih =>
    unfold insertEntry at member
    split at member
    · exact List.mem_cons.mp member
    · split at member
      · exact (List.mem_cons.mp member).imp_right (List.mem_cons_of_mem other)
      · rcases List.mem_cons.mp member with rfl | member
        · exact .inr List.mem_cons_self
        · exact (ih member).imp_right (List.mem_cons_of_mem other)

theorem insertEntry_ascending (ascending : Ascending entries) :
    Ascending (insertEntry key value entries) := by
  induction entries with
  | nil => exact List.pairwise_singleton _ _
  | cons entry entries ih =>
    obtain ⟨first, rest⟩ := List.pairwise_cons.mp ascending
    unfold insertEntry
    split
    · next below =>
      refine List.pairwise_cons.mpr ⟨fun other member => ?_, ascending⟩
      rcases List.mem_cons.mp member with rfl | member
      · exact below
      · exact lt_trans below (first other member)
    · next notBelow =>
      split
      · next same =>
        subst same
        exact List.pairwise_cons.mpr ⟨first, rest⟩
      · next different =>
        have above := lt_of_le_of_ne (not_lt.mp notBelow) (Ne.symm different)
        refine List.pairwise_cons.mpr ⟨fun other member => ?_, ih rest⟩
        rcases mem_insertEntry member with rfl | member
        · exact above
        · exact first other member

/-- Fields put into an object one after the other. -/
def insertFields (object : List (String × JsonValue)) (fields : List (String × Scalar)) :
    List (String × JsonValue) :=
  fields.foldl (fun object field => insertEntry field.1 field.2.json object) object

theorem insertFields_ascending {fields : List (String × Scalar)}
    (ascending : Ascending entries) : Ascending (insertFields entries fields) := by
  induction fields generalizing entries with
  | nil => exact ascending
  | cons field fields ih => exact ih (insertEntry_ascending ascending)

theorem insertFields_perm {fields : List (String × Scalar)}
    (distinct : (fields.map Prod.fst).Nodup)
    (fresh : ∀ name ∈ fields.map Prod.fst, name ∉ entries.map Prod.fst) :
    (insertFields entries fields).Perm
      ((fields.map fun field => (field.1, field.2.json)) ++ entries) := by
  induction fields generalizing entries with
  | nil => exact .refl _
  | cons field fields ih =>
    rw [List.map_cons, List.nodup_cons] at distinct
    rw [List.map_cons, List.forall_mem_cons] at fresh
    have inserted : (insertEntry field.1 field.2.json entries).Perm
        ((field.1, field.2.json) :: entries) := insertEntry_perm fresh.1
    have stillFresh : ∀ name ∈ fields.map Prod.fst,
        name ∉ (insertEntry field.1 field.2.json entries).map Prod.fst := by
      intro name member among
      rcases List.mem_cons.mp ((inserted.map Prod.fst).mem_iff.mp among) with rfl | among
      · exact distinct.1 member
      · exact fresh.2 name member among
    exact ((ih distinct.2 stillFresh).trans (inserted.append_left _)).trans List.perm_middle

end Objects

section Encoded

variable (pairs : List (String × Scalar))

/-- The pairs as they are written in a list. -/
def listTexts : List (String × String) :=
  pairs.map fun pair => (pair.1, pair.2.text.getD "")

/-- The entries of an object that are written. -/
def entryTexts (entries : List (String × JsonValue)) : List (String × String) :=
  entries.filterMap fun entry => (jsonValueToStr entry.2).map fun text => (entry.1, text)

/-- The pairs as they are written in an object. -/
def objectTexts : List (String × String) :=
  entryTexts (insertFields [] pairs)

theorem serializeFormUrlencoded_pairsValue :
    serializeFormUrlencoded (pairsValue pairs) =
      if ∀ pair ∈ pairs, pair.2.InRange then .ok (formText (listTexts pairs))
      else .error rangeError := by
  rw [serializeFormUrlencoded_pairs, formText, listTexts, List.map_map]
  rfl

theorem appendEntries_eq (target : List UInt8) (entries : List (String × JsonValue)) :
    appendEntries target entries =
      ((entryTexts entries).map fun pair => octetPair pair.1 pair.2).foldl
        FormEncoding.appendPair target := by
  induction entries generalizing target with
  | nil => rfl
  | cons entry entries ih =>
    unfold appendEntries
    split
    · next text textEq => simp [entryTexts, textEq, ih]
    · next textEq => simp [entryTexts, textEq, ih]

theorem toEntries_fields (object : List (String × JsonValue)) :
    SerdeValue.toEntries object (pairs.map fun field => (.string field.1, field.2.value)) =
      if ∀ pair ∈ pairs, pair.2.InRange then .ok (insertFields object pairs)
      else .error (.foreign "number out of range") := by
  induction pairs generalizing object with
  | nil => rfl
  | cons pair pairs ih =>
    rw [List.map_cons, SerdeValue.toEntries, Scalar.toValue_value]
    simp only [List.forall_mem_cons]
    by_cases first : pair.2.InRange
    · simp only [first, true_and]
      exact ih _
    · simp only [first, false_and]
      rfl

theorem serializeFormUrlencoded_structValue :
    serializeFormUrlencoded (structValue pairs) =
      if ∀ pair ∈ pairs, pair.2.InRange then .ok (formText (objectTexts pairs))
      else .error rangeError := by
  rw [serializeFormUrlencoded, structValue, SerdeValue.toValue, toEntries_fields]
  by_cases inRange : ∀ pair ∈ pairs, pair.2.InRange
  · rw [if_pos inRange, if_pos inRange]
    simp only [Except.map, appendEntries_eq]
    rfl
  · rw [if_neg inRange, if_neg inRange]
    rfl

theorem entryTexts_fields :
    entryTexts (pairs.map fun field => (field.1, field.2.json)) = nonNull pairs := by
  rw [entryTexts, List.filterMap_map]
  simp only [Function.comp_def, Scalar.jsonValueToStr_json]
  rfl

theorem objectTexts_ascending : Ascending (objectTexts pairs) := by
  refine List.Pairwise.filterMap _ (fun entry other below => ?_)
    (insertFields_ascending List.Pairwise.nil)
  intro texts textsEq otherTexts otherEq
  obtain ⟨_, -, rfl⟩ := Option.map_eq_some_iff.mp textsEq
  obtain ⟨_, -, rfl⟩ := Option.map_eq_some_iff.mp otherEq
  exact below

theorem objectTexts_perm (distinct : (pairs.map Prod.fst).Nodup) :
    (objectTexts pairs).Perm (nonNull pairs) := by
  have inserted : (insertFields [] pairs).Perm
      (pairs.map fun field => (field.1, field.2.json)) := by
    have fresh : ∀ name ∈ pairs.map Prod.fst,
        name ∉ ([] : List (String × JsonValue)).map Prod.fst := by simp
    simpa using insertFields_perm distinct fresh
  rw [← entryTexts_fields]
  exact inserted.filterMap _

end Encoded

section Agreement

variable {pairs : List (String × Scalar)} {texts : List (String × String)}

theorem decodesTo_iff {value : SerdeValue} {written : List (String × String)}
    {inRange : Prop} [Decidable inRange]
    (outcome : serializeFormUrlencoded value =
      if inRange then .ok (formText written) else .error rangeError) :
    DecodesTo value texts ↔ inRange ∧ written = texts := by
  by_cases holds : inRange
  · simp [DecodesTo, outcome, holds, formPairs_formText]
  · simp [DecodesTo, outcome, holds]

theorem decodesTo_pairsValue :
    DecodesTo (pairsValue pairs) texts ↔
      (∀ pair ∈ pairs, pair.2.InRange) ∧ listTexts pairs = texts :=
  decodesTo_iff (serializeFormUrlencoded_pairsValue pairs)

theorem decodesTo_structValue :
    DecodesTo (structValue pairs) texts ↔
      (∀ pair ∈ pairs, pair.2.InRange) ∧ objectTexts pairs = texts :=
  decodesTo_iff (serializeFormUrlencoded_structValue pairs)

theorem listTexts_of_nonNull (noNull : ∀ pair ∈ pairs, pair.2.text.isSome) :
    listTexts pairs = nonNull pairs := by
  induction pairs with
  | nil => rfl
  | cons pair pairs ih =>
    rw [List.forall_mem_cons] at noNull
    obtain ⟨text, textEq⟩ := Option.isSome_iff_exists.mp noNull.1
    have rest := ih noNull.2
    simp only [listTexts, nonNull] at rest
    simp [listTexts, nonNull, textEq, rest]

/-- A null is missing among the pairs that are not null. -/
theorem nonNull_of_length (complete : (nonNull pairs).length = pairs.length) :
    ∀ pair ∈ pairs, pair.2.text.isSome := by
  intro pair member
  rw [nonNull, List.length_filterMap_eq_countP, List.countP_eq_length] at complete
  simpa using complete pair member

theorem listTexts_eq_nonNull_iff :
    listTexts pairs = nonNull pairs ↔ ∀ pair ∈ pairs, pair.2.text.isSome := by
  refine ⟨fun same => nonNull_of_length ?_, listTexts_of_nonNull⟩
  rw [← same, listTexts, List.length_map]

variable (distinct : (pairs.map Prod.fst).Nodup)

include distinct

theorem objectTexts_eq_nonNull_iff :
    objectTexts pairs = nonNull pairs ↔ Ascending (nonNull pairs) := by
  refine ⟨fun same => same ▸ objectTexts_ascending pairs, fun ascending => ?_⟩
  refine List.Perm.eq_of_pairwise ?_ (objectTexts_ascending pairs) ascending
    (objectTexts_perm pairs distinct)
  intro first second _ _ below above
  exact absurd below (lt_asymm above)

theorem listTexts_eq_objectTexts_iff :
    listTexts pairs = objectTexts pairs ↔
      (∀ pair ∈ pairs, pair.2.text.isSome) ∧ Ascending (nonNull pairs) := by
  constructor
  · intro same
    have complete : (nonNull pairs).length = pairs.length := by
      rw [← (objectTexts_perm pairs distinct).length_eq, ← same, listTexts, List.length_map]
    have noNull := nonNull_of_length complete
    refine ⟨noNull, ?_⟩
    rw [← listTexts_of_nonNull noNull, same]
    exact objectTexts_ascending pairs
  · rintro ⟨noNull, ascending⟩
    rw [listTexts_of_nonNull noNull, (objectTexts_eq_nonNull_iff distinct).mpr ascending]

end Agreement

/-- The fields of a flat struct, or the entries of a flat map. -/
structure FlatFields where
  pairs : List (String × Scalar)
  distinct : (pairs.map Prod.fst).Nodup

/-- For every list of pairs and all fields, whose integers JSON has: the list is read back
exactly when it has no null, the struct exactly when its fields that are not null are
declared in the order of their names, and the map in some order.  The list and the struct
of the same pairs have one text exactly when both are read back. -/
theorem form_readsBack_iff (pairs : List (String × Scalar)) (fields : FlatFields) :
    (DecodesTo (pairsValue pairs) (nonNull pairs) ↔
      (∀ pair ∈ pairs, pair.2.InRange) ∧ ∀ pair ∈ pairs, pair.2.text.isSome) ∧
    (DecodesTo (structValue fields.pairs) (nonNull fields.pairs) ↔
      (∀ pair ∈ fields.pairs, pair.2.InRange) ∧ Ascending (nonNull fields.pairs)) ∧
    ((∃ texts, DecodesTo (structValue fields.pairs) texts ∧
        texts.Perm (nonNull fields.pairs)) ↔
      ∀ pair ∈ fields.pairs, pair.2.InRange) ∧
    ((∃ text, serializeFormUrlencoded (pairsValue fields.pairs) = .ok text ∧
        serializeFormUrlencoded (structValue fields.pairs) = .ok text) ↔
      (∀ pair ∈ fields.pairs, pair.2.InRange) ∧
        (∀ pair ∈ fields.pairs, pair.2.text.isSome) ∧ Ascending (nonNull fields.pairs)) := by
  refine ⟨?_, ?_, ?_, ?_⟩
  · rw [decodesTo_pairsValue, listTexts_eq_nonNull_iff]
  · rw [decodesTo_structValue, objectTexts_eq_nonNull_iff fields.distinct]
  · simp only [decodesTo_structValue]
    constructor
    · rintro ⟨_, ⟨inRange, _⟩, _⟩
      exact inRange
    · exact fun inRange => ⟨_, ⟨inRange, rfl⟩, objectTexts_perm _ fields.distinct⟩
  · rw [serializeFormUrlencoded_pairsValue, serializeFormUrlencoded_structValue,
      ← listTexts_eq_objectTexts_iff fields.distinct, ← formText_injective.eq_iff]
    split
    · next inRange =>
      constructor
      · rintro ⟨_, listEq, structEq⟩
        exact ⟨inRange, (Except.ok.inj listEq).trans (Except.ok.inj structEq).symm⟩
      · rintro ⟨_, same⟩
        exact ⟨_, rfl, congrArg Except.ok same.symm⟩
    · next outOfRange =>
      constructor
      · rintro ⟨_, failed, _⟩
        cases failed
      · rintro ⟨inRange, _⟩
        exact absurd inRange outOfRange

/-- A null in a list is read back as an empty text, and the fields of a struct in another
order. -/
theorem form_not_readsBack :
    ¬(∀ pairs : List (String × Scalar), DecodesTo (pairsValue pairs) (nonNull pairs)) ∧
    ¬(∀ fields : FlatFields, DecodesTo (structValue fields.pairs) (nonNull fields.pairs)) ∧
    (serializeFormUrlencoded (pairsValue [("a", .null)])).toOption = some "a=" ∧
    (serializeFormUrlencoded (structValue [("b", .integer 1), ("a", .integer 2)])).toOption =
      some "a=2&b=1" := by
  refine ⟨fun law => ?_, fun law => ?_, by decide, by decide⟩
  · have readsBack := decodesTo_pairsValue.mp (law [("a", .null)])
    exact absurd readsBack.2 (by decide)
  · have readsBack := decodesTo_structValue.mp
      (law ⟨[("b", .integer 1), ("a", .integer 2)], by decide⟩)
    exact absurd readsBack.2 (by decide)

end Wrest
