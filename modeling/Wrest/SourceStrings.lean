import Wrest.DelimitedLists
import Mathlib.Data.List.DropRight

/-!
# String functions of the source language

The functions on strings that the client uses, on lists of characters: trimming
of white space, splitting into fields and lines, and lower-casing of ASCII
letters.
-/

namespace Wrest

/-- ASCII lower-casing of one character; other characters are unchanged. -/
def asciiLower (character : Char) : Char :=
  if 'A' ≤ character ∧ character ≤ 'Z' then
    Char.ofNat (character.toNat + 32)
  else
    character

def toAsciiLowercase (text : String) : String :=
  String.ofList (text.toList.map asciiLower)

/-- The Unicode property `White_Space`. -/
def isWhitespace (character : Char) : Bool :=
  let code := character.toNat
  (9 ≤ code && code ≤ 13) || code == 0x20 || code == 0x85 || code == 0xA0 ||
    code == 0x1680 || (0x2000 ≤ code && code ≤ 0x200A) || code == 0x2028 ||
    code == 0x2029 || code == 0x202F || code == 0x205F || code == 0x3000

/-- `str::trim`. -/
def trim (text : List Char) : List Char :=
  (text.dropWhile isWhitespace).rdropWhile isWhitespace

/-- `str::lines`: a final line end does not begin another line, and a carriage
return before a line end is part of it. -/
def lines (text : List Char) : List (List Char) :=
  let pieces := text.splitOn '\n'
  let complete := pieces.dropLast.map fun line =>
    if line.getLast? = some '\r' then line.dropLast else line
  match pieces.getLast? with
  | some (character :: rest) => complete ++ [character :: rest]
  | _ => complete

/-- `str::split_once` at a character. -/
def splitOnce (separator : Char) (text : List Char) :
    Option (List Char × List Char) :=
  if text.contains separator then
    some (text.takeWhile (· != separator),
      (text.dropWhile (· != separator)).drop 1)
  else
    none

/-- Text is split at the first separator. -/
theorem splitOnce_append {separator : Char} {before : List Char}
    (absent : separator ∉ before) (behind : List Char) :
    splitOnce separator (before ++ separator :: behind) = some (before, behind) := by
  simp [splitOnce, takeWhile_ne_append absent, dropWhile_ne_append absent]

theorem rdropWhile_append_of_forall {α : Type*} {condition : α → Bool} (text : List α)
    {ending : List α} (all : ∀ element ∈ ending, condition element = true) :
    (text ++ ending).rdropWhile condition = text.rdropWhile condition := by
  induction ending using List.reverseRecOn with
  | nil => rw [List.append_nil]
  | append_singleton ending last ih =>
    have lastHolds := all last (by simp)
    rw [← List.append_assoc, List.rdropWhile_concat_pos _ _ _ lastHolds]
    exact ih fun element member => all element (List.mem_append_left _ member)

/-- White space around a text is trimmed away. -/
theorem trim_pad {left right : List Char} (text : List Char)
    (blank : ∀ character ∈ left ++ right, isWhitespace character = true) :
    trim (left ++ text ++ right) = trim text := by
  have leftBlank := fun character member =>
    blank character (List.mem_append_left right member)
  have rightBlank := fun character member =>
    blank character (List.mem_append_right left member)
  unfold trim
  rw [List.append_assoc, List.dropWhile_append_of_pos leftBlank, List.dropWhile_append]
  split
  · next empty =>
    rw [List.isEmpty_iff.mp empty, List.dropWhile_eq_nil_iff.mpr rightBlank]
  · exact rdropWhile_append_of_forall _ rightBlank

/-- A text that neither begins nor ends with white space. -/
theorem trim_eq_self {text : List Char}
    (begins : ∀ character, text.head? = some character → isWhitespace character = false)
    (ends : ∀ character, text.getLast? = some character → isWhitespace character = false) :
    trim text = text := by
  have left : text.dropWhile isWhitespace = text := by
    cases text with
    | nil => rfl
    | cons first rest =>
      rw [List.dropWhile_cons_of_neg]
      simp [begins first rfl]
  rw [trim, left, List.rdropWhile_eq_self_iff]
  intro nonempty
  simp [ends _ (List.getLast?_eq_getLast_of_ne_nil nonempty)]

/-- The lines of a text in which every line is ended by a carriage return and a line feed. -/
theorem lines_crlf {rows : List (List Char)} (single : ∀ row ∈ rows, '\n' ∉ row) :
    lines (rows.flatMap fun row => row ++ ['\r', '\n']) = rows := by
  have pieces : (rows.flatMap fun row => row ++ ['\r', '\n']).splitOn '\n' =
      rows.map (· ++ ['\r']) ++ [[]] := by
    induction rows with
    | nil => rfl
    | cons row rows ih =>
      have oneLine : '\n' ∉ row ++ ['\r'] := by simp [single row List.mem_cons_self]
      rw [List.flatMap_cons, List.append_assoc, List.cons_append, List.cons_append,
        List.nil_append, List.append_cons, List.splitOn_append_cons_self_of_not_mem oneLine,
        ih fun other member => single other (List.mem_cons_of_mem row member)]
      rfl
  simp [lines, pieces, Function.comp_def]

end Wrest
