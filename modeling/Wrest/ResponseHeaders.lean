import Mathlib.Data.List.Dedup
import Mathlib.Data.List.Perm.Subperm
import Wrest.HeaderMaps

/-!
# Parsing of response headers

WinHTTP returns the response headers as one block of text.  Each line of the
form `name: value` with a valid name and value becomes one occurrence in a
header map; the status line and every other line are skipped.

A header map of the `http` crate is bounded: `append` panics when the table of names cannot
grow any more.  When that is, is up to the crate, which decides from the names that were
appended so far.
-/

namespace Wrest

/-- `HeaderName::from_bytes`: a nonempty token, converted to lower case. -/
def HeaderName.fromText (text : List Char) : Option HeaderName :=
  let lowered := text.map asciiLower
  if valid : text ≠ [] ∧ text.length ≤ maxHeaderNameLength ∧
      lowered.all isTokenChar = true then
    some
      { text := String.ofList lowered
        tokens := by simpa only [String.toList_ofList, List.all_eq_true] using valid.2.2
        nonempty := by simpa [lowered, String.ofList_eq_empty_iff] using valid.1
        short := by simpa [lowered] using valid.2.1 }
  else
    none

/-- `HeaderValue::from_bytes`. -/
def HeaderValue.fromBytes (bytes : List UInt8) : Option HeaderValue :=
  if valid : bytes.all isValueByte = true then
    some { bytes, valid := List.all_eq_true.mp valid }
  else
    none

namespace HeaderMap

def empty : HeaderMap where
  entries := []
  distinct := List.nodup_nil

/-- `HeaderMap::append` on a map that has room. -/
def append (map : HeaderMap) (name : HeaderName) (value : HeaderValue) : HeaderMap :=
  if known : name ∈ map.entries.map Prod.fst then
    { entries := map.entries.map fun entry =>
        if entry.1 = name then (entry.1, entry.2.1, entry.2.2 ++ [value]) else entry
      distinct := by
        have names : (map.entries.map fun entry =>
            if entry.1 = name then (entry.1, entry.2.1, entry.2.2 ++ [value])
            else entry).map Prod.fst = map.entries.map Prod.fst := by
          rw [List.map_map]
          apply List.map_congr_left
          intro entry _
          simp only [Function.comp_apply]
          split <;> rfl
        rw [names]
        exact map.distinct }
  else
    { entries := map.entries ++ [(name, value, [])]
      distinct := by
        rw [List.map_append, List.map_singleton]
        exact map.distinct.append (List.nodup_singleton name) (by simpa using known) }

end HeaderMap

/-- The occurrence on one line, if it holds one. -/
def parseRawHeader (line : List Char) : Option (HeaderName × HeaderValue) :=
  if line.isEmpty || "HTTP/".toList.isPrefixOf line then
    none
  else
    match splitOnce ':' line with
    | none => none
    | some (name, value) =>
      let valueBytes := (String.ofList (trim value)).toUTF8.toList
      match HeaderName.fromText (trim name), HeaderValue.fromBytes valueBytes with
      | some name, some value => some (name, value)
      | _, _ => none

/-- `parse_raw_headers`, when the map always has room. -/
def parseRawHeaders (raw : String) : HeaderMap :=
  (lines raw.toList).foldl
    (fun headers line =>
      match parseRawHeader line with
      | some (name, value) => headers.append name value
      | none => headers)
    .empty

/-- The loop of `parse_raw_headers` with the names appended so far; the result is nothing when
`append` panics. -/
def appendLines (hasRoom : List String → Bool) :
    List (List Char) → List String → HeaderMap → Option HeaderMap
  | [], _, headers => some headers
  | line :: rest, names, headers =>
    match parseRawHeader line with
    | some (name, value) =>
      if hasRoom names then
        appendLines hasRoom rest (names ++ [name.text]) (headers.append name value)
      else
        none
    | none => appendLines hasRoom rest names headers

/-- `parse_raw_headers`, with the panic of `append`. -/
def tryParseRawHeaders (hasRoom : List String → Bool) (raw : String) : Option HeaderMap :=
  appendLines hasRoom (lines raw.toList) [] .empty

/-- There is room for each of the names behind those before it. -/
def HasRoomFor (hasRoom : List String → Bool) (before : List String) : List String → Prop
  | [] => True
  | name :: names => hasRoom before = true ∧ HasRoomFor hasRoom (before ++ [name]) names

section Room

variable {hasRoom : List String → Bool}

/-- The names on the lines, in order. -/
def parsedNames (lines : List (List Char)) : List String :=
  (lines.filterMap parseRawHeader).map fun occurrence => occurrence.1.text

/-- The loop ends with the map of all lines exactly when there is room for their names. -/
theorem appendLines_eq_some_iff {lines : List (List Char)} {names : List String}
    {headers map : HeaderMap} :
    appendLines hasRoom lines names headers = some map ↔
      HasRoomFor hasRoom names (parsedNames lines) ∧
        map = (lines.filterMap parseRawHeader).foldl
          (fun map occurrence => map.append occurrence.1 occurrence.2) headers := by
  induction lines generalizing names headers with
  | nil => simp [appendLines, parsedNames, HasRoomFor, eq_comm]
  | cons line lines ih =>
    cases parsed : parseRawHeader line with
    | none =>
      simp only [appendLines, parsed, parsedNames, List.filterMap_cons]
      exact ih
    | some occurrence =>
      simp only [appendLines, parsed, parsedNames, List.filterMap_cons, List.map_cons,
        HasRoomFor, List.foldl_cons, Option.ite_none_right_eq_some]
      rw [ih, and_assoc]
      rfl

/-- A crate that holds `capacity` names has room for fewer of them. -/
theorem hasRoomFor_of_dedup_lt {capacity : Nat}
    (holds : ∀ names : List String, names.dedup.length < capacity → hasRoom names = true)
    {before names : List String} (few : (before ++ names).dedup.length < capacity) :
    HasRoomFor hasRoom before names := by
  induction names generalizing before with
  | nil => trivial
  | cons name names ih =>
    have included : before.dedup ⊆ (before ++ name :: names).dedup := by
      intro other member
      rw [List.mem_dedup] at member ⊢
      exact List.mem_append_left _ member
    have fewer := ((List.nodup_dedup before).subperm included).length_le
    exact ⟨holds before (Nat.lt_of_le_of_lt fewer few), ih (by simpa using few)⟩

end Room

end Wrest
