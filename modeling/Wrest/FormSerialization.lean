import Wrest.FormEncodings
import Wrest.RequestBuilderCalls

/-!
# Form serialization

A value is turned into JSON first, and the entries of an object or the pairs of an array
are then written in form encoding.

The first step is `to_value` of the `serde_json` crate without its optional features: the
objects are kept in the order of their keys, the last value of a key counts, an integer must
fit in 64 bits, and a float that is not finite is null.  How a float is printed is left to
the caller, as the text of the float, and so are the types that serialize themselves in
another way.
-/

namespace Wrest

/-- What a value gives to a serializer.  A struct is a map from the names of its fields,
and a float is the text of a finite number. -/
inductive SerdeValue
  | none
  | bool (value : Bool)
  | integer (value : Int)
  | float (text : Option String)
  | string (text : String)
  | sequence (items : List SerdeValue)
  | map (entries : List (SerdeValue × SerdeValue))

/-- `serde_json::Value`. -/
inductive JsonValue
  | null
  | bool (value : Bool)
  | number (text : String)
  | string (text : String)
  | array (items : List JsonValue)
  | object (entries : List (String × JsonValue))

namespace JsonValue

def hexDigits : List Char := "0123456789abcdef".toList

def escapeCharacter (character : Char) : List Char :=
  match character with
  | '"' => ['\\', '"']
  | '\\' => ['\\', '\\']
  | '\n' => ['\\', 'n']
  | '\r' => ['\\', 'r']
  | '\t' => ['\\', 't']
  | _ =>
    let code := character.toNat
    if code = 8 then ['\\', 'b']
    else if code = 12 then ['\\', 'f']
    else if code < 32 then
      "\\u00".toList ++ [hexDigits.getD (code / 16) '0', hexDigits.getD (code % 16) '0']
    else [character]

def quoted (text : String) : String :=
  "\"" ++ String.ofList (text.toList.flatMap escapeCharacter) ++ "\""

mutual

/-- Compact JSON text. -/
def text : JsonValue → String
  | .null => "null"
  | .bool value => toString value
  | .number text => text
  | .string text => quoted text
  | .array items => "[" ++ itemsText items ++ "]"
  | .object entries => "\x7b" ++ entriesText entries ++ "\x7d"

def itemsText : List JsonValue → String
  | [] => ""
  | [item] => text item
  | item :: items => text item ++ "," ++ itemsText items

def entriesText : List (String × JsonValue) → String
  | [] => ""
  | [(key, value)] => quoted key ++ ":" ++ text value
  | (key, value) :: entries => quoted key ++ ":" ++ text value ++ "," ++ entriesText entries

end

/-- A new key takes its place among the keys, and a known one gets the new value. -/
def insertEntry (key : String) (value : JsonValue) :
    List (String × JsonValue) → List (String × JsonValue)
  | [] => [(key, value)]
  | (other, kept) :: entries =>
    if key < other then (key, value) :: (other, kept) :: entries
    else if key = other then (key, value) :: entries
    else (other, kept) :: insertEntry key value entries

end JsonValue

namespace SerdeValue

/-- The text of a key. -/
def toKey : SerdeValue → Except ErrorSource String
  | .bool value => .ok (toString value)
  | .integer value => .ok (toString value)
  | .float (some text) => .ok text
  | .float Option.none => .error (.foreign "float key must be finite")
  | .string text => .ok text
  | .none | .sequence _ | .map _ => .error (.foreign "key must be a string")

/-- The integers that a JSON number can be. -/
def InRange (value : Int) : Prop :=
  -2 ^ 63 ≤ value ∧ value < 2 ^ 64

instance (value : Int) : Decidable (InRange value) :=
  inferInstanceAs (Decidable (_ ∧ _))

mutual

/-- `serde_json::to_value`. -/
def toValue : SerdeValue → Except ErrorSource JsonValue
  | .none => .ok .null
  | .bool value => .ok (.bool value)
  | .integer value =>
    if InRange value then .ok (.number (toString value))
    else .error (.foreign "number out of range")
  | .float (some text) => .ok (.number text)
  | .float Option.none => .ok .null
  | .string text => .ok (.string text)
  | .sequence items => (toValues items).map JsonValue.array
  | .map entries => (toEntries [] entries).map JsonValue.object

def toValues : List SerdeValue → Except ErrorSource (List JsonValue)
  | [] => .ok []
  | item :: items => do
    let first ← toValue item
    let rest ← toValues items
    .ok (first :: rest)

def toEntries (object : List (String × JsonValue)) :
    List (SerdeValue × SerdeValue) → Except ErrorSource (List (String × JsonValue))
  | [] => .ok object
  | (key, value) :: entries => do
    let name ← toKey key
    let entry ← toValue value
    toEntries (JsonValue.insertEntry name entry object) entries

end

end SerdeValue

/-- The text of a scalar; a null has none. -/
def jsonValueToStr : JsonValue → Option String
  | .string text => some text
  | .number text => some text
  | .bool value => some (toString value)
  | .null => none
  | other => some other.text

namespace FormSerialization

open FormEncoding

/-- The text that a serializer has written. -/
def finish (target : List UInt8) : String :=
  String.ofList (target.map latin1Char)

def octetPair (key value : String) : List UInt8 × List UInt8 :=
  (utf8Bytes key, utf8Bytes value)

/-- The entries of an object, without nulls. -/
def appendEntries (target : List UInt8) : List (String × JsonValue) → List UInt8
  | [] => target
  | (key, value) :: entries =>
    match jsonValueToStr value with
    | some text => appendEntries (appendPair target (octetPair key text)) entries
    | none => appendEntries target entries

/-- The pairs of an array. -/
def appendItems (target : List UInt8) : List JsonValue → Except Error (List UInt8)
  | [] => .ok target
  | .array [key, value] :: items =>
    match jsonValueToStr key with
    | some text =>
      appendItems (appendPair target (octetPair text ((jsonValueToStr value).getD ""))) items
    | none => .error (.builder (.message "form serialization failed: null key"))
  | _ :: _ =>
    .error (.builder (.message
      "form serialization failed: sequence items must be [key, value] pairs"))

end FormSerialization

open FormSerialization

/-- `serialize_form_urlencoded`. -/
def serializeFormUrlencoded (value : SerdeValue) : Except Error String :=
  match value.toValue with
  | .error source => .error (.builder (.context "form serialization failed" source))
  | .ok (.object entries) => .ok (finish (appendEntries [] entries))
  | .ok (.array items) => (appendItems [] items).map finish
  | .ok _ =>
    .error (.builder (.message
      "form serialization failed: value must be a struct, map, or sequence of pairs"))

/-- A value that is not made of others. -/
inductive Scalar
  | null
  | bool (value : Bool)
  | integer (value : Int)
  | float (text : Option String)
  | string (text : String)

namespace Scalar

def value : Scalar → SerdeValue
  | .null => .none
  | .bool value => .bool value
  | .integer value => .integer value
  | .float text => .float text
  | .string text => .string text

/-- The text of a scalar; a null and a float that is not finite have none. -/
def text : Scalar → Option String
  | .null => none
  | .bool value => some (toString value)
  | .integer value => some (toString value)
  | .float text => text
  | .string text => some text

def InRange : Scalar → Prop
  | .integer value => SerdeValue.InRange value
  | _ => True

instance : DecidablePred InRange
  | .integer value => inferInstanceAs (Decidable (SerdeValue.InRange value))
  | .null | .bool _ | .float _ | .string _ => inferInstanceAs (Decidable True)

end Scalar

/-- A slice of pairs. -/
def pairsValue (pairs : List (String × Scalar)) : SerdeValue :=
  .sequence (pairs.map fun pair => .sequence [.string pair.1, pair.2.value])

/-- A struct, or a map with names as its keys. -/
def structValue (fields : List (String × Scalar)) : SerdeValue :=
  .map (fields.map fun field => (.string field.1, field.2.value))

example : (serializeFormUrlencoded (pairsValue
    [("a b", .string "%&"), ("c", .null)])).toOption = some "a+b=%25%26&c=" := by decide

namespace Scalar

/-- The JSON value of a scalar. -/
def json : Scalar → JsonValue
  | .null => .null
  | .bool value => .bool value
  | .integer value => .number (toString value)
  | .float (some text) => .number text
  | .float none => .null
  | .string text => .string text

theorem toValue_value (scalar : Scalar) :
    scalar.value.toValue =
      if scalar.InRange then .ok scalar.json
      else .error (.foreign "number out of range") := by
  cases scalar with
  | null => rfl
  | bool value => rfl
  | integer value => rfl
  | float text => cases text <;> rfl
  | string text => rfl

theorem jsonValueToStr_json (scalar : Scalar) : jsonValueToStr scalar.json = scalar.text := by
  cases scalar with
  | null => rfl
  | bool value => rfl
  | integer value => rfl
  | float text => cases text <;> rfl
  | string text => rfl

end Scalar

/-- The error of an integer that JSON does not have. -/
def rangeError : Error :=
  .builder (.context "form serialization failed" (.foreign "number out of range"))

namespace FormSerialization

/-- A pair as it is written in a list, where a null has an empty text. -/
def listPair (pair : String × Scalar) : List UInt8 × List UInt8 :=
  octetPair pair.1 (pair.2.text.getD "")

theorem toValue_pair (pair : String × Scalar) :
    (SerdeValue.sequence [.string pair.1, pair.2.value]).toValue =
      if pair.2.InRange then .ok (.array [.string pair.1, pair.2.json])
      else .error (.foreign "number out of range") := by
  simp only [SerdeValue.toValue, SerdeValue.toValues, Scalar.toValue_value]
  split <;> rfl

theorem toValues_pairs (pairs : List (String × Scalar)) :
    SerdeValue.toValues
        (pairs.map fun pair => .sequence [.string pair.1, pair.2.value]) =
      if ∀ pair ∈ pairs, pair.2.InRange then
        .ok (pairs.map fun pair => .array [.string pair.1, pair.2.json])
      else .error (.foreign "number out of range") := by
  induction pairs with
  | nil => rfl
  | cons pair pairs ih =>
    rw [List.map_cons, SerdeValue.toValues, toValue_pair, ih]
    simp only [List.forall_mem_cons]
    by_cases first : pair.2.InRange
    · by_cases rest : ∀ pair ∈ pairs, pair.2.InRange
      · rw [if_pos first, if_pos rest, if_pos ⟨first, rest⟩]
        rfl
      · have notAll : ¬(pair.2.InRange ∧ ∀ pair ∈ pairs, pair.2.InRange) :=
          fun both => rest both.2
        rw [if_pos first, if_neg rest, if_neg notAll]
        rfl
    · have notAll : ¬(pair.2.InRange ∧ ∀ pair ∈ pairs, pair.2.InRange) :=
        fun both => first both.1
      rw [if_neg first, if_neg notAll]
      rfl

theorem appendItems_pairs (target : List UInt8) (pairs : List (String × Scalar)) :
    appendItems target (pairs.map fun pair => .array [.string pair.1, pair.2.json]) =
      .ok ((pairs.map listPair).foldl FormEncoding.appendPair target) := by
  induction pairs generalizing target with
  | nil => rfl
  | cons pair pairs ih =>
    rw [List.map_cons, appendItems, Scalar.jsonValueToStr_json]
    exact ih _

end FormSerialization

/-- The outcome for a slice of pairs. -/
theorem serializeFormUrlencoded_pairs (pairs : List (String × Scalar)) :
    serializeFormUrlencoded (pairsValue pairs) =
      if ∀ pair ∈ pairs, pair.2.InRange then
        .ok (finish (FormEncoding.serialize (pairs.map listPair)))
      else .error rangeError := by
  rw [serializeFormUrlencoded, pairsValue, SerdeValue.toValue, toValues_pairs]
  by_cases inRange : ∀ pair ∈ pairs, pair.2.InRange
  · rw [if_pos inRange, if_pos inRange]
    simp only [Except.map, appendItems_pairs]
    rfl
  · rw [if_neg inRange, if_neg inRange]
    rfl

end Wrest
