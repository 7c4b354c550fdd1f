import Mathlib.Order.Interval.Finset.Nat
import Mathlib.Algebra.BigOperators.Group.Finset.Basic
import Mathlib.Data.List.Rotate
import Mathlib.Data.Nat.ModEq

/-!
# Rings of slots

A ring of `size` slots holds the last `size` committed generations of an
unbounded sequence: generation `g` lives in slot `g % size` until generation
`g + size` overwrites it.  Committing writes the slot of the current generation
and moves on to the next one.

What a slot holds for its generation is left to a relation, so that exact
contents and mere bounds are treated alike.  The second part says that a sum
over the slots is a sum over the generations that they hold, the third compares
rings that hold the same contents at different positions.
-/

namespace Wrest.SlotRing

variable {M : Type*} {size : Nat}

/-- Each of the last `size` generations before `generation` is held in its slot,
in the sense of `holds`. -/
def Retains (holds : Nat → M → Prop) (slots : Vector M size)
    (generation : Nat) : Prop :=
  ∀ past (bound : past % size < size), past < generation →
    generation ≤ past + size → holds past slots[past % size]

theorem Retains.commit {holds : Nat → M → Prop} {slots : Vector M size}
    {generation : Nat} (retains : Retains holds slots generation)
    (slot : Fin size) (slotEq : slot.val = generation % size) {value : M}
    (holdsValue : holds generation value) :
    Retains holds (slots.set slot value) (generation + 1) := by
  intro past bound before recent
  rcases Nat.lt_succ_iff_lt_or_eq.mp before with earlier | rfl
  · have different : slot.val ≠ past % size := by
      rw [slotEq]
      intro same
      have distance : generation - past < size := by omega
      have zero : (generation - past) % size = 0 := Nat.sub_mod_eq_zero_of_mod_eq same
      rw [Nat.mod_eq_of_lt distance] at zero
      omega
    rw [Vector.getElem_set_ne _ _ different]
    exact retains past bound earlier (by omega)
  · simp only [← slotEq]
    rw [Vector.getElem_set_self]
    exact holdsValue

theorem Retains.mono {first second : Nat → M → Prop} {slots : Vector M size}
    {generation : Nat} (retains : Retains first slots generation)
    (implies : ∀ past value, past < generation → first past value →
      second past value) :
    Retains second slots generation :=
  fun past bound before recent =>
    implies past _ before (retains past bound before recent)

/-- The generation that each slot holds, with the sum over the slots as a sum
over the generations. -/
theorem exists_generationOf {generation : Nat} (filled : size ≤ generation) :
    ∃ generationOf : Nat → Nat,
      (∀ slot, slot < size →
        generationOf slot < generation ∧
          generation ≤ generationOf slot + size ∧
          generationOf slot % size = slot) ∧
      ∀ {A : Type} [AddCommMonoid A] (amount : Nat → A),
        ∑ slot ∈ Finset.range size, amount (generationOf slot) =
          ∑ past ∈ Finset.Ico (generation - size) generation, amount past := by
  have onto : ∀ slot, ∃ past, slot < size →
      past ∈ Finset.Ico (generation - size) generation ∧ past % size = slot := by
    intro slot
    by_cases inside : slot < size
    · have member : slot ∈ (Finset.Ico (generation - size)
          (generation - size + size)).image (· % size) := by
        rw [Nat.image_Ico_mod]
        exact Finset.mem_range.mpr inside
      rw [Nat.sub_add_cancel filled] at member
      obtain ⟨past, within, remainder⟩ := Finset.mem_image.mp member
      exact ⟨past, fun _ => ⟨within, remainder⟩⟩
    · exact ⟨0, fun contrary => absurd contrary inside⟩
  choose generationOf located using onto
  refine ⟨generationOf, fun slot inside => ?_, fun amount => ?_⟩
  · obtain ⟨within, remainder⟩ := located slot inside
    have bounds := Finset.mem_Ico.mp within
    exact ⟨bounds.2, by omega, remainder⟩
  · have injective := Nat.mod_injOn_Ico (generation - size) size
    rw [Nat.sub_add_cancel filled] at injective
    have image := Nat.image_Ico_mod (generation - size) size
    rw [Nat.sub_add_cancel filled] at image
    rw [← image, Finset.sum_image injective]
    apply Finset.sum_congr rfl
    intro past within
    have positive : past % size < size := by
      have bounds := Finset.mem_Ico.mp within
      exact Nat.mod_lt _ (by omega)
    obtain ⟨sameWithin, sameRemainder⟩ := located (past % size) positive
    rw [injective sameWithin within sameRemainder]

section Rotations

variable {shift : Nat} {first second : Vector M size}

/-- The second ring holds what the first does, `shift` slots further on. -/
def Rotated (shift : Nat) (first second : Vector M size) : Prop :=
  ∀ slot (inside : slot < size) (bound : (slot + shift) % size < size),
    second[(slot + shift) % size] = first[slot]

theorem rotated_zero (slots : Vector M size) : Rotated 0 slots slots := by
  intro slot inside bound
  simp only [Nat.add_zero, Nat.mod_eq_of_lt inside]

theorem rotated_replicate (shift : Nat) (value : M) :
    Rotated shift (Vector.replicate size value) (Vector.replicate size value) := by
  intro slot inside bound
  simp only [Vector.getElem_replicate]

theorem Rotated.set (rotated : Rotated shift first second) (slot : Fin size)
    (image : Fin size) (imageEq : image.val = (slot + shift) % size) (value : M) :
    Rotated shift (first.set slot value) (second.set image value) := by
  intro other inside bound
  simp only [Vector.getElem_set, imageEq]
  by_cases same : slot.val = other
  · subst same
    simp only [if_true]
  · have different : (slot + shift) % size ≠ (other + shift) % size := by
      intro congruent
      have cancelled : slot.val % size = other % size :=
        Nat.ModEq.add_right_cancel' shift congruent
      rw [Nat.mod_eq_of_lt slot.isLt, Nat.mod_eq_of_lt inside] at cancelled
      exact same cancelled
    rw [if_neg different, if_neg same]
    exact rotated other inside bound

theorem Rotated.perm (rotated : Rotated shift first second) :
    first.toList.Perm second.toList := by
  have rotates : second.toList.rotate shift = first.toList := by
    apply List.ext_getElem
    · simp
    · intro slot inside bound
      rw [Vector.length_toList] at bound
      have image : (slot + shift) % size < size := Nat.mod_lt _ (Nat.zero_lt_of_lt bound)
      simpa [List.getElem_rotate] using rotated slot bound image
  rw [← rotates]
  exact List.rotate_perm second.toList shift

/-- Rings that agree in the position of one slot are equal. -/
theorem Rotated.eq_of_fixed (rotated : Rotated shift first second) {slot : Nat}
    (inside : slot < size) (fixed : (slot + shift) % size = slot) : first = second := by
  have multiple : shift % size = 0 := by
    have congruent : slot + shift ≡ slot + 0 [MOD size] := by
      rw [Nat.ModEq, fixed, Nat.add_zero, Nat.mod_eq_of_lt inside]
    have cancelled : shift % size = 0 % size := Nat.ModEq.add_left_cancel' slot congruent
    rwa [Nat.zero_mod] at cancelled
  ext other within
  have unmoved : (other + shift) % size = other := by
    rw [Nat.add_mod, multiple, Nat.add_zero, Nat.mod_mod, Nat.mod_eq_of_lt within]
  have held := rotated other within (unmoved.symm ▸ within)
  simp only [unmoved] at held
  exact held.symm

end Rotations

end Wrest.SlotRing
