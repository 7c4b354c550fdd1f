import Mathlib.Data.List.Basic

/-!
# Last writes

When each operation of a sequence either writes a part of a state or keeps it, the part
holds what the last write gave it.
-/

namespace Wrest.LastWrites

variable {Op State Value : Type}

/-- The last value that the operations write. -/
def lastWrite (write? : Op → Option Value) (ops : List Op) : Option Value :=
  (ops.filterMap write?).getLast?

variable {write? : Op → Option Value}

@[simp]
theorem lastWrite_nil : lastWrite write? [] = none :=
  rfl

theorem lastWrite_cons (op : Op) (ops : List Op) :
    lastWrite write? (op :: ops) = (lastWrite write? ops).or (write? op) := by
  unfold lastWrite
  cases first : write? op with
  | none => simp [first]
  | some value =>
    rw [List.filterMap_cons_some first, List.getLast?_cons]
    cases (ops.filterMap write?).getLast? <;> rfl

theorem exists_of_lastWrite {ops : List Op} {value : Value}
    (known : lastWrite write? ops = some value) : ∃ op ∈ ops, write? op = some value :=
  List.mem_filterMap.mp (List.mem_of_getLast? known)

/-- A part that is written with one value only. -/
theorem lastWrite_eq_some {ops : List Op} {value : Value} {op : Op} (member : op ∈ ops)
    (writes : write? op = some value)
    (only : ∀ other ∈ ops, ∀ written, write? other = some written → written = value) :
    lastWrite write? ops = some value := by
  cases known : lastWrite write? ops with
  | none =>
    rw [lastWrite, List.getLast?_eq_none_iff, List.filterMap_eq_nil_iff] at known
    rw [known op member] at writes
    cases writes
  | some last =>
    obtain ⟨other, isOther, written⟩ := exists_of_lastWrite known
    rw [only other isOther last written]

section Steps

variable {step : State → Op → Option State} {ops : List Op} {before after : State}

theorem foldlM_getD (part : State → Value)
    (writes : ∀ state op next, step state op = some next →
      part next = (write? op).getD (part state))
    (runs : ops.foldlM step before = some after) :
    part after = (lastWrite write? ops).getD (part before) := by
  induction ops generalizing before with
  | nil =>
    cases runs
    rfl
  | cons op ops ih =>
    rw [List.foldlM_cons, Option.bind_eq_bind, Option.bind_eq_some_iff] at runs
    obtain ⟨next, steps, rest⟩ := runs
    rw [ih rest, writes before op next steps, lastWrite_cons]
    cases lastWrite write? ops <;> rfl

/-- A part that may hold nothing, and that no operation clears. -/
theorem foldlM_or (part : State → Option Value)
    (writes : ∀ state op next, step state op = some next →
      part next = (write? op).or (part state))
    (runs : ops.foldlM step before = some after) :
    part after = (lastWrite write? ops).or (part before) := by
  induction ops generalizing before with
  | nil =>
    cases runs
    rfl
  | cons op ops ih =>
    rw [List.foldlM_cons, Option.bind_eq_bind, Option.bind_eq_some_iff] at runs
    obtain ⟨next, steps, rest⟩ := runs
    rw [ih rest, writes before op next steps, lastWrite_cons, Option.or_assoc]

theorem foldlM_keeps (part : State → Value)
    (keeps : ∀ state op next, step state op = some next → part next = part state)
    (runs : ops.foldlM step before = some after) : part after = part before := by
  induction ops generalizing before with
  | nil =>
    cases runs
    rfl
  | cons op ops ih =>
    rw [List.foldlM_cons, Option.bind_eq_bind, Option.bind_eq_some_iff] at runs
    obtain ⟨next, steps, rest⟩ := runs
    rw [ih rest, keeps before op next steps]

end Steps

section TotalSteps

variable {step : State → Op → State}

theorem foldl_getD (part : State → Value)
    (writes : ∀ state op, part (step state op) = (write? op).getD (part state))
    (ops : List Op) (before : State) :
    part (ops.foldl step before) = (lastWrite write? ops).getD (part before) := by
  induction ops generalizing before with
  | nil => rfl
  | cons op ops ih =>
    rw [List.foldl_cons, ih, writes, lastWrite_cons]
    cases lastWrite write? ops <;> rfl

theorem foldl_or (part : State → Option Value)
    (writes : ∀ state op, part (step state op) = (write? op).or (part state))
    (ops : List Op) (before : State) :
    part (ops.foldl step before) = (lastWrite write? ops).or (part before) := by
  induction ops generalizing before with
  | nil => rfl
  | cons op ops ih => rw [List.foldl_cons, ih, writes, lastWrite_cons, Option.or_assoc]

end TotalSteps

end Wrest.LastWrites
