import Wrest.HeaderMaps
import Wrest.RequestErrors
import Wrest.DelimitedLists

/-!
# The header list of a WinHTTP request

`WinHttpAddRequestHeaders` takes a header line and flags.  Header names are
compared without regard to letter case.  With `REPLACE` a present header of the
name is replaced, or removed when the new value is empty; with `ADD` an absent
one is added, and `ADD` alone appends in any case.
-/

namespace Wrest

open Win32

abbrev WireHeader : Type := String × String

/-- The combinations of flags that the client passes, and plain `ADD`. -/
inductive AddRequestFlags
  | add
  | replace
  | addReplace
deriving DecidableEq, Repr

/-- Header names are compared in lower case. -/
def isNamed (name : String) (header : WireHeader) : Bool :=
  toAsciiLowercase header.1 == toAsciiLowercase name

/-- The name and value of a line: the text before the colon, and after it,
without the separating blank and the line end. -/
def parseHeaderLine (line : String) : WireHeader :=
  let name := line.toList.takeWhile (· != ':')
  let rest := (line.toList.dropWhile (· != ':')).drop 1
  let value :=
    match rest with
    | ' ' :: value => value
    | value => value
  (String.ofList name, String.ofList (value.takeWhile (· != '\r')))

/-- `WinHttpAddRequestHeaders`; an error is the code of `GetLastError`. -/
def winHttpAddRequestHeaders (line : String) (flags : AddRequestFlags)
    (headers : List WireHeader) : Except Nat (List WireHeader) :=
  let header := parseHeaderLine line
  let others := headers.filter fun other => !isNamed header.1 other
  match flags with
  | .add => .ok (headers ++ [header])
  | .replace =>
    if headers.any (isNamed header.1) then
      .ok (if header.2 = "" then others else others ++ [header])
    else
      .error ERROR_WINHTTP_HEADER_NOT_FOUND
  | .addReplace =>
    if headers.any (isNamed header.1) then
      .ok (if header.2 = "" then others else others ++ [header])
    else
      .ok (headers ++ [header])

/-- The line that the header loop renders. -/
def headerLine (name value : String) : String :=
  name ++ ": " ++ value ++ "\r\n"

/-- The line that `winhttp_remove_request_header` renders. -/
def removalLine (name : String) : String :=
  name ++ ":"

def utf16Length (text : String) : Nat :=
  text.toList.foldl
    (fun length character =>
      length + if character.toNat < 0x10000 then 1 else 2)
    0

def u32Max : Nat := UInt32.size - 1

/-- A rendered line is read back as its name and value. -/
theorem parseHeaderLine_headerLine {name value : String}
    (noColon : ':' ∉ name.toList) (noReturn : '\r' ∉ value.toList) :
    parseHeaderLine (headerLine name value) = (name, value) := by
  have lineEq : (headerLine name value).toList =
      name.toList ++ ':' :: ' ' :: (value.toList ++ ['\r', '\n']) := by
    simp [headerLine]
  unfold parseHeaderLine
  rw [lineEq, takeWhile_ne_append noColon, dropWhile_ne_append noColon]
  simp [takeWhile_ne_append noReturn]

theorem parseHeaderLine_removalLine {name : String}
    (noColon : ':' ∉ name.toList) :
    parseHeaderLine (removalLine name) = (name, "") := by
  have lineEq : (removalLine name).toList = name.toList ++ ':' :: [] := by
    simp [removalLine]
  unfold parseHeaderLine
  rw [lineEq, takeWhile_ne_append noColon, dropWhile_ne_append noColon]
  simp

theorem HeaderName.colon_notMem (name : HeaderName) : ':' ∉ name.text.toList := by
  intro member
  have token := name.tokens ':' member
  rw [not_isTokenChar_colon] at token
  cases token

theorem HeaderValue.return_notMem (value : HeaderValue) :
    '\r' ∉ (widenLatin1 value.bytes).toList := by
  intro member
  simp only [widenLatin1, String.toList_ofList, List.mem_map] at member
  obtain ⟨byte, byteMember, byteEq⟩ := member
  have valid := value.valid byte byteMember
  have natEq : byte.toNat = 13 := by
    rw [← latin1Char_toNat, byteEq]
    rfl
  simp [isValueByte, natEq] at valid

/-- Names of parsed headers are already in lower case. -/
theorem HeaderName.toAsciiLowercase_text (name : HeaderName) :
    toAsciiLowercase name.text = name.text := by
  have same : name.text.toList.map asciiLower = name.text.toList := by
    refine (List.map_congr_left fun character member => ?_).trans (List.map_id _)
    exact asciiLower_of_isTokenChar (name.tokens character member)
  rw [toAsciiLowercase, same, String.ofList_toList]

theorem HeaderName.text_injective : Function.Injective HeaderName.text := by
  rintro ⟨first, _⟩ ⟨second, _⟩ rfl
  rfl

end Wrest
