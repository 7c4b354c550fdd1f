import Mathlib.Data.List.Infix
import Mathlib.Data.List.TakeWhile

/-!
# Lists with separators

A list with separators is the list of its pieces.  The pieces of one list are the last
pieces of another exactly when the lists are equal or the first one follows a separator
of the second at its end.
-/

namespace Wrest

variable {α β : Type*}

section Separators

variable [BEq α] [LawfulBEq α] {separator : α} {text : List α}
variable (absent : separator ∉ text)

include absent

theorem takeWhile_ne : text.takeWhile (· != separator) = text := by
  rw [List.takeWhile_eq_self_iff]
  intro element member
  simp only [bne_iff_ne]
  rintro rfl
  exact absent member

theorem takeWhile_ne_append (rest : List α) :
    (text ++ separator :: rest).takeWhile (· != separator) = text := by
  rw [List.takeWhile_append_of_pos, List.takeWhile_cons_of_neg, List.append_nil]
  · simp
  · intro element member
    simp only [bne_iff_ne]
    rintro rfl
    exact absent member

theorem dropWhile_ne_append (rest : List α) :
    (text ++ separator :: rest).dropWhile (· != separator) = separator :: rest := by
  rw [List.dropWhile_append_of_pos, List.dropWhile_cons_of_neg]
  · simp
  · intro element member
    simp only [bne_iff_ne]
    rintro rfl
    exact absent member

/-- The list in front of a rest that begins with the separator, if at all. -/
theorem span_ne {rest : List α} (begins : rest = [] ∨ rest.head? = some separator) :
    (text ++ rest).takeWhile (· != separator) = text ∧
      (text ++ rest).dropWhile (· != separator) = rest := by
  cases rest with
  | nil =>
    rw [List.append_nil]
    refine ⟨takeWhile_ne absent, ?_⟩
    rw [List.dropWhile_eq_nil_iff]
    intro element member
    simp only [bne_iff_ne]
    rintro rfl
    exact absent member
  | cons first rest =>
    have firstEq : first = separator := by simpa using begins
    rw [firstEq]
    exact ⟨takeWhile_ne_append absent rest, dropWhile_ne_append absent rest⟩

end Separators

theorem splitOn_injective [BEq α] [LawfulBEq α] (separator : α) :
    Function.Injective fun text : List α => text.splitOn separator := by
  intro first second same
  have joined := congrArg [separator].intercalate same
  simpa only [List.intercalate_splitOn] using joined

/-- Pieces that are joined in two parts have a separator between the parts. -/
theorem intercalate_append (separator : α) {first second : List (List α)}
    (firstNonempty : first ≠ []) (secondNonempty : second ≠ []) :
    [separator].intercalate (first ++ second) =
      [separator].intercalate first ++ separator :: [separator].intercalate second := by
  induction first with
  | nil => exact absurd rfl firstNonempty
  | cons piece first ih =>
    cases first with
    | nil =>
      rw [List.singleton_append, List.intercalate_cons_of_ne_nil secondNonempty,
        List.intercalate_singleton, List.append_assoc, List.singleton_append]
    | cons next first =>
      have rest := ih (List.cons_ne_nil _ _)
      have whole : next :: first ++ second ≠ [] := List.append_ne_nil_of_right_ne_nil _
        secondNonempty
      rw [List.cons_append, List.intercalate_cons_of_ne_nil whole, rest,
        List.intercalate_cons_of_ne_nil (List.cons_ne_nil _ _)]
      simp only [List.append_assoc]

/-- The pieces end with those of another list exactly when the list ends with the other
one at a boundary of its pieces. -/
theorem splitOn_isSuffix_iff [BEq α] [LawfulBEq α] {separator : α} {ending text : List α} :
    ending.splitOn separator <:+ text.splitOn separator ↔
      ending = text ∨ separator :: ending <:+ text := by
  constructor
  · rintro ⟨before, pieces⟩
    by_cases first : before = []
    · rw [first, List.nil_append] at pieces
      exact .inl (splitOn_injective separator pieces)
    · refine .inr ⟨[separator].intercalate before, ?_⟩
      have joined := intercalate_append separator first (List.splitOn_ne_nil separator ending)
      rw [pieces, List.intercalate_splitOn, List.intercalate_splitOn] at joined
      exact joined.symm
  · rintro (rfl | ⟨before, rfl⟩)
    · exact List.suffix_refl _
    · rw [List.splitOn_append_cons_self]
      exact List.suffix_append _ _

/-- A map that fixes the separator and makes no other one maps the pieces. -/
theorem splitOn_map [BEq α] [LawfulBEq α] [BEq β] [LawfulBEq β] {separator : α}
    {change : α → β} (fixes : ∀ element, change element = change separator ↔
      element = separator) (text : List α) :
    (text.map change).splitOn (change separator) =
      (text.splitOn separator).map (List.map change) := by
  induction text with
  | nil => simp
  | cons element text ih =>
    rw [List.map_cons, List.splitOn_cons_eq_if_modifyHead,
      List.splitOn_cons_eq_if_modifyHead, ih]
    by_cases same : element = separator
    · simp [same]
    · have different : change element ≠ change separator := fun equal =>
        same ((fixes element).mp equal)
      simp only [beq_eq_false_iff_ne.mpr same, beq_eq_false_iff_ne.mpr different,
        Bool.false_eq_true, if_false]
      cases text.splitOn separator <;> rfl

end Wrest
