import Wrest.SlotRings
import Mathlib.Algebra.Order.BigOperators.Group.Finset
import Mathlib.Data.Rat.Floor

/-!
# Retry budget

A token bucket over a ring of time slots.  Deposits and withdrawals change the
writer of the current slot; `advance` commits the writer, clears the slots that
have elapsed since, and moves on.  A withdrawal is granted when the reserve, the
ring and the writer together cover it.

Times are nanoseconds.  Token counts are `isize` values: integers with the
saturating operations of the 64-bit targets.
-/

namespace Wrest.RetryBudget

open SlotRing

def isizeMax : Int := 2 ^ 63 - 1

def isizeMin : Int := -2 ^ 63

/-- The nearest `isize` value. -/
def saturate (value : Int) : Int :=
  max isizeMin (min isizeMax value)

def saturatingAdd (left right : Int) : Int :=
  saturate (left + right)

def saturatingSub (left right : Int) : Int :=
  saturate (left - right)

def saturatingMul (left right : Int) : Int :=
  saturate (left * right)

/-- Division of `f32` values, with whatever rounding it has: the quotient of a
nonnegative by a positive value is nonnegative.  An infinite quotient stands as
any value beyond `isize`, to which the cast saturates. -/
structure FloatDivision where
  divide : ℚ → ℚ → ℚ
  nonneg : ∀ dividend divisor, 0 ≤ dividend → 0 < divisor →
    0 ≤ divide dividend divisor

def FloatDivision.exact : FloatDivision where
  divide := (· / ·)
  nonneg := fun _ _ dividendNonneg divisorPos =>
    div_nonneg dividendNonneg divisorPos.le

/-- `as isize` of a nonnegative float: truncate and saturate. -/
def toIsize (value : ℚ) : Int :=
  saturate ⌊value⌋

def nanosPerSec : Nat := 1000000000

def numSlots : Nat := 10

structure Budget where
  reserve : Int
  slots : Nat
  slotDuration : Nat
  depositAmount : Int
  withdrawAmount : Int
  slotsPos : 0 < slots
  slotDurationPos : 0 < slotDuration
  reserveNonneg : 0 ≤ reserve
  depositNonneg : 0 ≤ depositAmount
  withdrawNonneg : 0 ≤ withdrawAmount
deriving DecidableEq

/-- Per-slot balances, the uncommitted balance of the current slot, and the
index and start time of the current generation. -/
structure BudgetState (slots : Nat) where
  buckets : Vector Int slots
  writer : Int
  genIndex : Fin slots
  genTime : Nat
deriving DecidableEq, Repr

/-- Tokens per deposit and per withdrawal for a retry percentage. -/
def retryAmounts (float : FloatDivision) (retryPercent : ℚ) : Int × Int :=
  if retryPercent = 0 then
    (0, 1)
  else if retryPercent ≤ 1 then
    (1, toIsize (float.divide 1 retryPercent))
  else
    (1000, toIsize (float.divide 1000 retryPercent))

theorem isizeMin_le_saturate (value : Int) : isizeMin ≤ saturate value :=
  le_max_left _ _

/-- Saturation at the top only lowers a value, and a value that is not below
`isizeMin` is not raised. -/
theorem saturate_le {value : Int} (notBelow : isizeMin ≤ value) :
    saturate value ≤ value :=
  max_le notBelow (min_le_right _ _)

theorem le_saturate {bound value : Int} (le : bound ≤ value) (nonpos : bound ≤ 0) :
    bound ≤ saturate value := by
  unfold saturate isizeMin isizeMax
  omega

/-- Bounds of a saturating sum whose debits cannot reach below `isizeMin`. -/
theorem saturatingAdd_bounds {left right leftDebit rightDebit leftCredit rightCredit : Int}
    (leftBounds : -leftDebit ≤ left ∧ left ≤ leftCredit)
    (rightBounds : -rightDebit ≤ right ∧ right ≤ rightCredit)
    (leftNonneg : 0 ≤ leftDebit) (rightNonneg : 0 ≤ rightDebit)
    (fits : leftDebit + rightDebit ≤ -isizeMin) :
    -(leftDebit + rightDebit) ≤ saturatingAdd left right ∧
      saturatingAdd left right ≤ leftCredit + rightCredit := by
  constructor
  · exact le_saturate (by omega) (by omega)
  · have upper : saturatingAdd left right ≤ left + right := saturate_le (by omega)
    omega

theorem foldl_saturatingAdd_bounds (balances : List Int) (debit credit : Nat → Int)
    (bounds : ∀ index (inside : index < balances.length),
      -debit index ≤ balances[index] ∧ balances[index] ≤ credit index)
    (nonneg : ∀ index, 0 ≤ debit index)
    (fits : ∑ index ∈ Finset.range balances.length, debit index ≤ -isizeMin) :
    -(∑ index ∈ Finset.range balances.length, debit index) ≤
        balances.foldl saturatingAdd 0 ∧
      balances.foldl saturatingAdd 0 ≤
        ∑ index ∈ Finset.range balances.length, credit index := by
  induction balances using List.reverseRecOn with
  | nil => simp
  | append_singleton balances balance ih =>
    simp only [List.length_append, List.length_singleton, Finset.sum_range_succ]
      at fits ⊢
    rw [List.foldl_append, List.foldl_cons, List.foldl_nil]
    have lastBounds := bounds balances.length (by simp)
    rw [List.getElem_concat_length rfl] at lastBounds
    have lastNonneg := nonneg balances.length
    have earlier := ih
      (fun index inside => by
        have atIndex := bounds index (by simp; omega)
        rwa [List.getElem_append_left inside] at atIndex)
      (by omega)
    exact saturatingAdd_bounds earlier lastBounds
      (Finset.sum_nonneg fun index _ => nonneg index) lastNonneg fits

theorem saturate_nonneg {value : Int} (nonneg : 0 ≤ value) :
    0 ≤ saturate value := by
  unfold saturate isizeMin isizeMax
  omega

theorem toIsize_nonneg {value : ℚ} (nonneg : 0 ≤ value) : 0 ≤ toIsize value :=
  saturate_nonneg (Int.floor_nonneg.mpr nonneg)

theorem saturatingMul_nonneg {left right : Int} (leftNonneg : 0 ≤ left)
    (rightNonneg : 0 ≤ right) : 0 ≤ saturatingMul left right :=
  saturate_nonneg (mul_nonneg leftNonneg rightNonneg)

theorem retryAmounts_nonneg (float : FloatDivision) {retryPercent : ℚ}
    (nonneg : 0 ≤ retryPercent) :
    0 ≤ (retryAmounts float retryPercent).1 ∧
      0 ≤ (retryAmounts float retryPercent).2 := by
  unfold retryAmounts
  split
  · exact ⟨le_refl 0, by decide⟩
  · next nonzero =>
    have positive := lt_of_le_of_ne nonneg (Ne.symm nonzero)
    split
    · exact ⟨Int.one_nonneg, toIsize_nonneg (float.nonneg _ _ (by norm_num) positive)⟩
    · exact ⟨Int.natCast_nonneg 1000, toIsize_nonneg (float.nonneg _ _ (by norm_num) positive)⟩

/-- `Budget::new`; `none` is a failed assertion. -/
def Budget.new (float : FloatDivision) (ttl minPerSec : Nat)
    (retryPercent : ℚ) : Option Budget :=
  if valid : nanosPerSec ≤ ttl ∧ ttl ≤ 60 * nanosPerSec ∧
      0 ≤ retryPercent ∧ retryPercent ≤ 1000 then
    let amounts := retryAmounts float retryPercent
    have nonneg := retryAmounts_nonneg float valid.2.2.1
    some
      { reserve :=
          saturatingMul
            (saturatingMul (saturate minPerSec) (saturate (ttl / nanosPerSec : Nat)))
            amounts.2
        slots := numSlots
        slotDuration := ttl / numSlots
        depositAmount := amounts.1
        withdrawAmount := amounts.2
        slotsPos := by decide
        slotDurationPos := by
          have atLeast := valid.1
          unfold nanosPerSec at atLeast
          exact Nat.div_pos (by unfold numSlots; omega) (by decide)
        reserveNonneg :=
          saturatingMul_nonneg
            (saturatingMul_nonneg (saturate_nonneg (Int.natCast_nonneg _))
              (saturate_nonneg (Int.natCast_nonneg _)))
            nonneg.2
        depositNonneg := nonneg.1
        withdrawNonneg := nonneg.2 }
  else
    none

/-- The ring covers no more than the time to live. -/
theorem Budget.new_ring_le_ttl {float : FloatDivision} {ttl minPerSec : Nat}
    {retryPercent : ℚ} {budget : Budget}
    (created : Budget.new float ttl minPerSec retryPercent = some budget) :
    budget.slots * budget.slotDuration ≤ ttl := by
  unfold Budget.new at created
  split at created
  · cases created
    exact Nat.mul_div_le ttl numSlots
  · cases created

namespace Budget

variable (budget : Budget)

def initialState (now : Nat) : BudgetState budget.slots where
  buckets := Vector.replicate budget.slots 0
  writer := 0
  genIndex := ⟨0, budget.slotsPos⟩
  genTime := now

def nextIndex (index : Fin budget.slots) : Fin budget.slots :=
  ⟨(index + 1) % budget.slots, Nat.mod_lt _ budget.slotsPos⟩

/-- The clearing loop, with the number of iterations left. -/
def clearElapsed (buckets : Vector Int budget.slots) :
    Nat → Nat → Fin budget.slots → Vector Int budget.slots × Fin budget.slots
  | 0, _, index => (buckets, index)
  | iterations + 1, remaining, index =>
    if remaining ≤ budget.slotDuration then
      (buckets, index)
    else
      clearElapsed (buckets.set index 0) iterations
        (remaining - budget.slotDuration) (budget.nextIndex index)

def advance (state : BudgetState budget.slots) (now : Nat) :
    BudgetState budget.slots :=
  let elapsed := now - state.genTime
  if elapsed < budget.slotDuration then
    state
  else
    let committed := state.buckets.set state.genIndex state.writer
    let (buckets, index) :=
      clearElapsed budget committed budget.slots elapsed
        (budget.nextIndex state.genIndex)
    { buckets, writer := 0, genIndex := index, genTime := now }

/-- Running balance: writer, all slots and the reserve. -/
def sum (state : BudgetState budget.slots) : Int :=
  let windowed := state.buckets.toList.foldl saturatingAdd 0
  saturatingAdd (saturatingAdd state.writer windowed) budget.reserve

def deposit (state : BudgetState budget.slots) (now : Nat) :
    BudgetState budget.slots :=
  let advanced := budget.advance state now
  { advanced with writer := saturatingAdd advanced.writer budget.depositAmount }

def withdraw (state : BudgetState budget.slots) (now : Nat) :
    Bool × BudgetState budget.slots :=
  let advanced := budget.advance state now
  if budget.sum advanced ≥ budget.withdrawAmount then
    (true,
      { advanced with
        writer := saturatingSub advanced.writer budget.withdrawAmount })
  else
    (false, advanced)

variable {budget} in
theorem withdraw_of_covered {state : BudgetState budget.slots} {now : Nat}
    (covered : budget.withdrawAmount ≤ budget.sum (budget.advance state now)) :
    budget.withdraw state now =
      (true,
        { budget.advance state now with
          writer := saturatingSub (budget.advance state now).writer
            budget.withdrawAmount }) :=
  if_pos covered

variable {budget} in
theorem withdraw_of_short {state : BudgetState budget.slots} {now : Nat}
    (short : budget.sum (budget.advance state now) < budget.withdrawAmount) :
    budget.withdraw state now = (false, budget.advance state now) :=
  if_neg (Int.not_le.mpr short)

/-- The number of generations by which `advance` moves after `elapsed`. -/
def rotations (elapsed : Nat) : Nat :=
  if elapsed < budget.slotDuration then
    0
  else
    1 + min budget.slots ((elapsed - 1) / budget.slotDuration)

variable {budget}

/-- Unless the whole ring is cleared, the time elapsed is covered by the
generations moved. -/
theorem elapsed_le_rotations {elapsed : Nat}
    (notAll : budget.rotations elapsed ≤ budget.slots)
    (moved : budget.slotDuration ≤ elapsed) :
    elapsed ≤ budget.rotations elapsed * budget.slotDuration := by
  have slotPos := budget.slotDurationPos
  unfold rotations at notAll ⊢
  rw [if_neg (by omega)] at notAll ⊢
  have fewer : min budget.slots ((elapsed - 1) / budget.slotDuration) =
      (elapsed - 1) / budget.slotDuration := by omega
  rw [fewer]
  have covered : elapsed - 1 <
      (elapsed - 1) / budget.slotDuration * budget.slotDuration +
        budget.slotDuration := Nat.lt_div_mul_add slotPos
  rw [Nat.add_mul]
  omega

theorem nextIndex_eq {index : Fin budget.slots} {generation : Nat}
    (indexEq : index.val = generation % budget.slots) :
    (budget.nextIndex index).val = (generation + 1) % budget.slots := by
  simp [nextIndex, indexEq]

/-- An iteration that clears a slot leaves one less to clear. -/
theorem pred_div_of_not_le (budget : Budget) {remaining : Nat}
    (more : ¬ remaining ≤ budget.slotDuration) :
    (remaining - 1) / budget.slotDuration =
      (remaining - budget.slotDuration - 1) / budget.slotDuration + 1 := by
  have slotPos := budget.slotDurationPos
  rw [Nat.div_eq_sub_div slotPos (by omega)]
  congr 2
  omega

/-- Clearing a slot commits an empty generation, so the loop leaves a ring that
retains the same contents, later by the number of slots cleared. -/
theorem clearElapsed_retains {holds : Nat → Int → Prop}
    {buckets : Vector Int budget.slots} {generation : Nat}
    {index : Fin budget.slots} (iterations remaining : Nat)
    (retains : Retains holds buckets generation)
    (indexEq : index.val = generation % budget.slots)
    (empty : ∀ later, generation ≤ later → holds later 0) :
    let cleared := budget.clearElapsed buckets iterations remaining index
    let last := generation + min iterations ((remaining - 1) / budget.slotDuration)
    Retains holds cleared.1 last ∧ cleared.2.val = last % budget.slots := by
  have slotPos := budget.slotDurationPos
  induction iterations generalizing buckets remaining generation index with
  | zero => simpa [clearElapsed] using ⟨retains, indexEq⟩
  | succ iterations ih =>
    unfold clearElapsed
    by_cases enough : remaining ≤ budget.slotDuration
    · rw [if_pos enough, Nat.div_eq_of_lt (by omega), Nat.min_zero]
      exact ⟨retains, indexEq⟩
    · rw [if_neg enough]
      have step := ih (remaining - budget.slotDuration)
        (retains.commit index indexEq (empty generation le_rfl))
        (nextIndex_eq indexEq) (fun later after => empty later (by omega))
      have quotient := budget.pred_div_of_not_le enough
      have lastEq : generation + 1 +
            min iterations ((remaining - budget.slotDuration - 1) / budget.slotDuration) =
          generation + min (iterations + 1)
            ((remaining - 1) / budget.slotDuration) := by
        rw [quotient]
        omega
      rw [lastEq] at step
      exact step

theorem advance_of_early {state : BudgetState budget.slots} {now : Nat}
    (early : now - state.genTime < budget.slotDuration) :
    budget.advance state now = state :=
  if_pos early

theorem advance_genTime (state : BudgetState budget.slots) (now : Nat) :
    (budget.advance state now).genTime =
      if now - state.genTime < budget.slotDuration then state.genTime else now :=
  apply_ite BudgetState.genTime _ _ _

/-- What holds of the ring and of the writer after `advance`. -/
theorem advance_retains {holds : Nat → Int → Prop}
    {state : BudgetState budget.slots} {generation : Nat} (now : Nat)
    (retains : Retains holds state.buckets generation)
    (indexEq : state.genIndex.val = generation % budget.slots)
    (holdsWriter : holds generation state.writer)
    (empty : ∀ later, generation < later → holds later 0) :
    let next := generation + budget.rotations (now - state.genTime)
    Retains holds (budget.advance state now).buckets next ∧
      (budget.advance state now).genIndex.val = next % budget.slots ∧
      holds next (budget.advance state now).writer := by
  by_cases early : now - state.genTime < budget.slotDuration
  · rw [advance_of_early early, rotations, if_pos early]
    exact ⟨retains, indexEq, holdsWriter⟩
  · obtain ⟨cleared, index⟩ := clearElapsed_retains
      budget.slots (now - state.genTime)
      (retains.commit state.genIndex indexEq holdsWriter)
      (nextIndex_eq indexEq) (fun later after => empty later (by omega))
    simp only [advance, rotations, if_neg early, ← Nat.add_assoc]
    refine ⟨cleared, index, empty _ ?_⟩
    exact Nat.lt_of_lt_of_le (Nat.lt_succ_self _) (Nat.le_add_right _ _)

end Budget

end Wrest.RetryBudget
