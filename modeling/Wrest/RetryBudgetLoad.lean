import Wrest.RetryBudgetWindow
import Mathlib.Algebra.Order.Archimedean.Basic

/-!
# The extra load of the retry budget

The configured extra load is turned into two integers, the tokens of a deposit
and the tokens of a withdrawal.  This file bounds the withdrawals granted at one
instant by the reserve and these amounts, shows that the bound is reached by
runs of any length, and concludes for which ratios the budget keeps to the
configured load.
-/

namespace Wrest.RetryBudget

open Transition

variable {budget : Budget} {now : Nat}

/-- The calls made at the time `now`, one after the other. -/
def runAt (now : Nat) (run : BudgetRun budget.slots) (calls : List BudgetCall) :
    Option (BudgetRun budget.slots) :=
  Transition.run (budgetStep budget) run (calls.map fun call => ⟨call, now⟩)

/-- The number of withdrawals granted is within the configured load: the reserve
and a fraction of the deposits. -/
def WithinLoad (ttl minPerSec : Nat) (retryPercent : ℚ)
    (deposits grants : Nat) : Prop :=
  (grants : ℚ) ≤ minPerSec * (ttl / nanosPerSec : Nat) + retryPercent * deposits

/-- Neither amount of the ratio is rounded: the quotient that `as isize`
truncates is an integer that fits. -/
def IsWholeRatio (retryPercent : ℚ) : Prop :=
  retryPercent = 0 ∨
    ∃ amount : Nat, (amount : Int) ≤ isizeMax ∧
      retryPercent * amount = if retryPercent ≤ 1 then 1 else 1000

theorem le_saturate_of_le_isizeMax {bound value : Int} (le : bound ≤ value)
    (fits : bound ≤ isizeMax) : bound ≤ saturate value :=
  (le_min fits le).trans (le_max_right _ _)

theorem saturate_eq_self {value : Int} (notBelow : isizeMin ≤ value)
    (notAbove : value ≤ isizeMax) : saturate value = value := by
  rw [saturate, min_eq_right notAbove, max_eq_right notBelow]

theorem foldl_saturatingAdd_replicate_zero (count : Nat) :
    (List.replicate count 0).foldl saturatingAdd 0 = 0 := by
  induction count with
  | zero => rfl
  | succ count ih => exact ih

/-- No slot holds a balance, and an operation at `now` advances to none. -/
structure Settled (now : Nat) (state : BudgetState budget.slots) : Prop where
  empty : state.buckets = Vector.replicate budget.slots 0
  early : now - state.genTime < budget.slotDuration

theorem Settled.sum_eq {state : BudgetState budget.slots}
    (settled : Settled now state) :
    budget.sum state = saturatingAdd (saturatingAdd state.writer 0) budget.reserve := by
  simp only [Budget.sum, settled.empty, Vector.toList_replicate,
    foldl_saturatingAdd_replicate_zero]

theorem Settled.writer {state : BudgetState budget.slots}
    (settled : Settled now state) (writer : Int) :
    Settled now { state with writer } :=
  ⟨settled.empty, settled.early⟩

theorem set_replicate_zero (slot : Fin budget.slots) :
    (Vector.replicate budget.slots (0 : Int)).set slot.val 0 slot.isLt =
      Vector.replicate budget.slots 0 := by
  apply Vector.ext
  intro index inside
  rw [Vector.getElem_set, Vector.getElem_replicate, ite_self]

theorem clearElapsed_empty {buckets : Vector Int budget.slots}
    (empty : buckets = Vector.replicate budget.slots 0)
    (iterations remaining : Nat) (index : Fin budget.slots) :
    (budget.clearElapsed buckets iterations remaining index).1 =
      Vector.replicate budget.slots 0 := by
  induction iterations generalizing buckets remaining index with
  | zero => exact empty
  | succ iterations ih =>
    unfold Budget.clearElapsed
    split
    · exact empty
    · apply ih
      rw [empty, set_replicate_zero]

theorem advance_of_late {state : BudgetState budget.slots}
    (late : ¬now - state.genTime < budget.slotDuration) :
    budget.advance state now =
      let committed := state.buckets.set state.genIndex state.writer
      let cleared := budget.clearElapsed committed budget.slots
        (now - state.genTime) (budget.nextIndex state.genIndex)
      { buckets := cleared.1, writer := 0, genIndex := cleared.2, genTime := now } :=
  if_neg late

/-- However long after its creation a budget is used first, its ring is empty. -/
theorem advance_initialState (budget : Budget) (created now : Nat) :
    Settled now (budget.advance (budget.initialState created) now) ∧
      (budget.advance (budget.initialState created) now).writer = 0 := by
  by_cases early : now - (budget.initialState created).genTime < budget.slotDuration
  · rw [Budget.advance_of_early early]
    exact ⟨⟨rfl, early⟩, rfl⟩
  · rw [advance_of_late early]
    constructor
    · constructor
      · exact clearElapsed_empty (set_replicate_zero _) _ _ _
      · simpa using budget.slotDurationPos
    · rfl

theorem Settled.advance_eq {run : BudgetRun budget.slots}
    (settled : Settled now run.state) (current : run.now = now) :
    run.advance now = run := by
  have unmoved : budget.rotations (now - run.state.genTime) = 0 := if_pos settled.early
  rw [BudgetRun.advance, Budget.advance_of_early settled.early, unmoved, ← current]
  rfl

/-- What the writer owes and holds after operations at one instant. -/
structure InstantAccount (now : Nat) (run : BudgetRun budget.slots) : Prop where
  settled : Settled now run.state
  current : run.now = now
  debited : -budget.reserve ≤ run.state.writer
  credited : run.state.writer + budget.withdrawAmount * run.grants.length ≤
    budget.depositAmount * run.deposits.length

theorem InstantAccount.advance {run : BudgetRun budget.slots}
    (account : InstantAccount now run) : InstantAccount now (run.advance now) := by
  rw [account.settled.advance_eq account.current]
  exact account

theorem instantAccount_start (budget : Budget) (created now : Nat) :
    InstantAccount now ((BudgetRun.start budget created).advance now) := by
  obtain ⟨settled, writerEq⟩ := advance_initialState budget created now
  constructor
  · exact settled
  · rfl
  · simp only [BudgetRun.advance, BudgetRun.start, writerEq]
    exact Int.neg_nonpos_of_nonneg budget.reserveNonneg
  · simp [BudgetRun.advance, BudgetRun.start, writerEq]

theorem InstantAccount.recordDeposit {run : BudgetRun budget.slots}
    (account : InstantAccount now run) (fits : budget.reserve ≤ isizeMax) :
    InstantAccount now run.recordDeposit := by
  have depositNonneg := budget.depositNonneg
  have reserveNonneg := budget.reserveNonneg
  have debited := account.debited
  have credited := account.credited
  have notBelow : isizeMin ≤ run.state.writer + budget.depositAmount := by
    unfold isizeMin isizeMax at *
    omega
  have upper : saturatingAdd run.state.writer budget.depositAmount ≤
      run.state.writer + budget.depositAmount := saturate_le notBelow
  constructor
  · exact account.settled.writer _
  · exact account.current
  · exact le_saturate (by omega) (by omega)
  · simp only [BudgetRun.recordDeposit, List.length_cons]
    push_cast [mul_add]
    omega

/-- A withdrawal is granted only from what the writer and the reserve hold. -/
theorem Settled.covered {state : BudgetState budget.slots}
    (settled : Settled now state) (debited : -budget.reserve ≤ state.writer)
    (fits : budget.reserve ≤ isizeMax)
    (covered : budget.withdrawAmount ≤ budget.sum state) :
    budget.withdrawAmount ≤ state.writer + budget.reserve := by
  have notBelow : isizeMin ≤ state.writer + 0 := by
    unfold isizeMin isizeMax at *
    omega
  have inner : saturatingAdd state.writer 0 ≤ state.writer + 0 := saturate_le notBelow
  have innerLower : -budget.reserve ≤ saturatingAdd state.writer 0 :=
    le_saturate (by omega) (by have := budget.reserveNonneg; omega)
  have outer : saturatingAdd (saturatingAdd state.writer 0) budget.reserve ≤
      saturatingAdd state.writer 0 + budget.reserve := by
    apply saturate_le
    unfold isizeMin
    omega
  rw [settled.sum_eq] at covered
  omega

theorem InstantAccount.recordGrant {run : BudgetRun budget.slots}
    (account : InstantAccount now run) (fits : budget.reserve ≤ isizeMax)
    (covered : budget.withdrawAmount ≤ budget.sum run.state) :
    InstantAccount now run.recordGrant := by
  have reserveNonneg := budget.reserveNonneg
  have debited := account.debited
  have credited := account.credited
  have held := account.settled.covered debited fits covered
  have notBelow : isizeMin ≤ run.state.writer - budget.withdrawAmount := by
    unfold isizeMin isizeMax at *
    omega
  have upper : saturatingSub run.state.writer budget.withdrawAmount ≤
      run.state.writer - budget.withdrawAmount := saturate_le notBelow
  constructor
  · exact account.settled.writer _
  · exact account.current
  · exact le_saturate (by omega) (by omega)
  · simp only [BudgetRun.recordGrant, List.length_cons]
    push_cast [mul_add]
    omega

theorem InstantAccount.step {run next : BudgetRun budget.slots} {call : BudgetCall}
    (account : InstantAccount now (run.advance now))
    (fits : budget.reserve ≤ isizeMax)
    (steps : budgetStep budget run ⟨call, now⟩ = some next) :
    InstantAccount now next := by
  generalize operationEq : BudgetOperation.mk call now = operation at steps
  cases budgetMove_of_budgetStep steps with
  | deposited later =>
    cases operationEq
    exact account.recordDeposit fits
  | granted later covered =>
    cases operationEq
    exact account.recordGrant fits covered
  | refused later short =>
    cases operationEq
    exact account

/-- The account of a run whose operations are made at one instant. -/
theorem instantAccount_of_runAt {created : Nat} {calls : List BudgetCall}
    {run : BudgetRun budget.slots} (fits : budget.reserve ≤ isizeMax)
    (reaches : runAt now (.start budget created) calls = some run) :
    InstantAccount now (run.advance now) := by
  have guarded : Guarded (budgetStep budget) (fun _ operation => operation.time = now)
      (BudgetRun.start budget created) (calls.map fun call => ⟨call, now⟩) := by
    apply guarded_of_forall_mem
    intro operation member current
    obtain ⟨call, _, rfl⟩ := List.mem_map.mp member
    rfl
  apply invariant_of_guarded_run (fun run => InstantAccount now (run.advance now)) _
    (instantAccount_start budget created now) guarded reaches
  intro run ⟨call, time⟩ next atNow account steps
  cases atNow
  exact (account.step fits steps).advance

/-- The withdrawals granted at one instant are covered by the reserve and the
tokens deposited. -/
theorem grants_mul_le {created : Nat} {calls : List BudgetCall}
    {run : BudgetRun budget.slots} (fits : budget.reserve ≤ isizeMax)
    (reaches : runAt now (.start budget created) calls = some run) :
    budget.withdrawAmount * run.grants.length ≤
      budget.reserve + budget.depositAmount * run.deposits.length := by
  have account := instantAccount_of_runAt fits reaches
  have debited := account.debited
  have credited := account.credited
  simp only [BudgetRun.advance] at debited credited
  omega

/-- An operation at `now` finds this balance, and a history of this size. -/
structure Holding (now : Nat) (run : BudgetRun budget.slots) (writer : Int)
    (deposits grants : Nat) : Prop where
  later : run.now ≤ now
  settled : Settled now (run.advance now).state
  writerEq : (run.advance now).state.writer = writer
  depositsEq : run.deposits.length = deposits
  grantsEq : run.grants.length = grants

theorem holding_start {created : Nat} (budget : Budget) (later : created ≤ now) :
    Holding now (BudgetRun.start budget created) 0 0 0 := by
  obtain ⟨settled, writerEq⟩ := advance_initialState budget created now
  exact ⟨later, settled, writerEq, rfl, rfl⟩

theorem holding_of_settled {run : BudgetRun budget.slots} {writer : Int}
    {deposits grants : Nat} (current : run.now = now)
    (settled : Settled now run.state) (writerEq : run.state.writer = writer)
    (depositsEq : run.deposits.length = deposits)
    (grantsEq : run.grants.length = grants) :
    Holding now run writer deposits grants := by
  have same := settled.advance_eq current
  constructor
  · exact current.le
  · rw [same]
    exact settled
  · rw [same]
    exact writerEq
  · exact depositsEq
  · exact grantsEq

variable {run : BudgetRun budget.slots} {writer : Int} {deposits grants : Nat}

theorem Holding.deposit (holding : Holding now run writer deposits grants)
    (nonneg : 0 ≤ writer) (fits : writer + budget.depositAmount ≤ isizeMax) :
    ∃ next, budgetStep budget run ⟨.deposit, now⟩ = some next ∧
      Holding now next (writer + budget.depositAmount) (deposits + 1) grants := by
  refine ⟨(run.advance now).recordDeposit, ?_, ?_⟩
  · exact if_neg (Nat.not_lt.mpr holding.later)
  · have notBelow : isizeMin ≤ writer + budget.depositAmount := by
      have depositNonneg := budget.depositNonneg
      unfold isizeMin
      omega
    apply holding_of_settled
    · rfl
    · exact holding.settled.writer _
    · simp only [BudgetRun.recordDeposit, holding.writerEq]
      exact saturate_eq_self notBelow fits
    · exact congrArg (· + 1) holding.depositsEq
    · exact holding.grantsEq

theorem Holding.covered (holding : Holding now run writer deposits grants)
    (enough : budget.withdrawAmount ≤ writer) (fits : writer ≤ isizeMax) :
    budget.withdrawAmount ≤ budget.sum (run.advance now).state := by
  have withdrawNonneg := budget.withdrawNonneg
  have reserveNonneg := budget.reserveNonneg
  have inner : writer ≤ saturatingAdd writer 0 :=
    le_saturate_of_le_isizeMax (by omega) fits
  rw [holding.settled.sum_eq, holding.writerEq]
  exact le_saturate_of_le_isizeMax (by omega) (by omega)

theorem Holding.withdraw (holding : Holding now run writer deposits grants)
    (enough : budget.withdrawAmount ≤ writer) (fits : writer ≤ isizeMax) :
    ∃ next, budgetStep budget run ⟨.withdraw, now⟩ = some next ∧
      Holding now next (writer - budget.withdrawAmount) deposits (grants + 1) := by
  have withdrawNonneg := budget.withdrawNonneg
  refine ⟨(run.advance now).recordGrant, ?_, ?_⟩
  · have covered := holding.covered enough fits
    simp only [budgetStep, if_neg (Nat.not_lt.mpr holding.later)]
    rw [Budget.withdraw_of_covered covered]
    rfl
  · have notBelow : isizeMin ≤ writer - budget.withdrawAmount := by
      unfold isizeMin
      omega
    apply holding_of_settled
    · rfl
    · exact holding.settled.writer _
    · simp only [BudgetRun.recordGrant, holding.writerEq]
      exact saturate_eq_self notBelow (by omega)
    · exact holding.depositsEq
    · exact congrArg (· + 1) holding.grantsEq

theorem runAt_append {middle last : BudgetRun budget.slots}
    {first second : List BudgetCall} (reaches : runAt now run first = some middle)
    (continues : runAt now middle second = some last) :
    runAt now run (first ++ second) = some last := by
  simp only [runAt, List.map_append, run_append] at *
  rw [reaches]
  exact continues

theorem Holding.depositMany (count : Nat)
    (holding : Holding now run writer deposits grants) (nonneg : 0 ≤ writer)
    (fits : writer + budget.depositAmount * count ≤ isizeMax) :
    ∃ last, runAt now run (List.replicate count .deposit) = some last ∧
      Holding now last (writer + budget.depositAmount * count)
        (deposits + count) grants := by
  have depositNonneg := budget.depositNonneg
  induction count generalizing run writer deposits with
  | zero => exact ⟨run, rfl, by simpa using holding⟩
  | succ count ih =>
    have countNonneg : 0 ≤ budget.depositAmount * count :=
      mul_nonneg depositNonneg (Int.natCast_nonneg _)
    push_cast [mul_add, mul_one] at fits ⊢
    obtain ⟨next, steps, nextHolding⟩ := holding.deposit nonneg (by omega)
    obtain ⟨last, reaches, lastHolding⟩ := ih nextHolding (by omega) (by omega)
    refine ⟨last, run_cons_eq_some.mpr ⟨next, steps, reaches⟩, ?_⟩
    convert lastHolding using 1 <;> omega

theorem Holding.withdrawMany (count : Nat)
    (holding : Holding now run writer deposits grants) (fits : writer ≤ isizeMax)
    (enough : budget.withdrawAmount * count ≤ writer) :
    ∃ last, runAt now run (List.replicate count .withdraw) = some last ∧
      Holding now last (writer - budget.withdrawAmount * count) deposits
        (grants + count) := by
  have withdrawNonneg := budget.withdrawNonneg
  induction count generalizing run writer grants with
  | zero => exact ⟨run, rfl, by simpa using holding⟩
  | succ count ih =>
    have countNonneg : 0 ≤ budget.withdrawAmount * count :=
      mul_nonneg withdrawNonneg (Int.natCast_nonneg _)
    push_cast [mul_add, mul_one] at enough ⊢
    obtain ⟨next, steps, nextHolding⟩ := holding.withdraw (by omega) fits
    obtain ⟨last, reaches, lastHolding⟩ := ih nextHolding (by omega) (by omega)
    refine ⟨last, run_cons_eq_some.mpr ⟨next, steps, reaches⟩, ?_⟩
    convert lastHolding using 1 <;> omega

/-- Deposits and withdrawals that cancel each other, repeated. -/
theorem Holding.repeated {deposited granted : Nat} (count : Nat)
    (holding : Holding now run 0 deposits grants)
    (withdrawEq : budget.withdrawAmount = deposited)
    (depositEq : budget.depositAmount = granted)
    (fits : (granted * deposited : Int) ≤ isizeMax) :
    ∃ calls last, runAt now run calls = some last ∧
      Holding now last 0 (deposits + count * deposited) (grants + count * granted) := by
  induction count generalizing run deposits grants with
  | zero => exact ⟨[], run, rfl, by simpa using holding⟩
  | succ count ih =>
    have cancel : budget.withdrawAmount * granted = budget.depositAmount * deposited := by
      rw [withdrawEq, depositEq, mul_comm]
    rw [← depositEq] at fits
    obtain ⟨full, fills, fullHolding⟩ :=
      holding.depositMany deposited le_rfl (by omega)
    obtain ⟨drained, drains, drainedHolding⟩ :=
      fullHolding.withdrawMany granted (by omega) (by omega)
    rw [cancel, zero_add, sub_self] at drainedHolding
    obtain ⟨calls, last, reaches, lastHolding⟩ := ih drainedHolding
    refine ⟨_, last, runAt_append (runAt_append fills drains) reaches, ?_⟩
    convert lastHolding using 1 <;> ring

theorem runAt_deposits_length {last : BudgetRun budget.slots}
    {calls : List BudgetCall} (reaches : runAt now run calls = some last) :
    last.deposits.length = run.deposits.length + calls.count .deposit := by
  induction calls generalizing run with
  | nil =>
    cases reaches
    rfl
  | cons call calls ih =>
    obtain ⟨next, steps, rest⟩ := run_cons_eq_some.mp reaches
    rw [ih rest]
    generalize operationEq : BudgetOperation.mk call now = operation at steps
    cases budgetMove_of_budgetStep steps <;> cases operationEq <;>
      simp [BudgetRun.recordDeposit, BudgetRun.recordGrant, BudgetRun.advance]
    omega

theorem saturate_le_isizeMax (value : Int) : saturate value ≤ isizeMax :=
  max_le (by decide) (min_le_left _ _)

/-- A truncated quotient never makes up for the dividend, and does so exactly
when nothing was truncated. -/
theorem mul_toIsize_div {total ratio : ℚ} (positive : 0 < ratio) (le : ratio ≤ total) :
    1 ≤ toIsize (total / ratio) ∧ ratio * toIsize (total / ratio) ≤ total ∧
      (ratio * toIsize (total / ratio) = total ↔
        ∃ amount : Nat, (amount : Int) ≤ isizeMax ∧ ratio * amount = total) := by
  have quotientOne : 1 ≤ total / ratio := (one_le_div positive).mpr le
  have floorOne : 1 ≤ ⌊total / ratio⌋ := Int.le_floor.mpr (by exact_mod_cast quotientOne)
  have atLeast : 1 ≤ toIsize (total / ratio) :=
    le_saturate_of_le_isizeMax floorOne (by decide)
  refine ⟨atLeast, ?_, ?_, ?_⟩
  · have truncated : toIsize (total / ratio) ≤ ⌊total / ratio⌋ :=
      saturate_le (by unfold isizeMin; omega)
    have below : (toIsize (total / ratio) : ℚ) ≤ total / ratio :=
      (Int.cast_le.mpr truncated).trans (Int.floor_le _)
    calc ratio * toIsize (total / ratio)
        ≤ ratio * (total / ratio) := mul_le_mul_of_nonneg_left below positive.le
      _ = total := mul_div_cancel₀ total positive.ne'
  · intro exact
    refine ⟨(toIsize (total / ratio)).toNat, ?_, ?_⟩
    · rw [Int.toNat_of_nonneg (by omega)]
      exact saturate_le_isizeMax _
    · have cast : ((toIsize (total / ratio)).toNat : ℚ) = toIsize (total / ratio) := by
        exact_mod_cast congrArg (Int.cast : Int → ℚ) (Int.toNat_of_nonneg (by omega))
      rw [cast]
      exact exact
  · rintro ⟨amount, fits, exact⟩
    have quotientEq : total / ratio = (amount : Int) := by
      rw [← exact, mul_div_cancel_left₀ _ positive.ne']
      rfl
    have nonneg : 0 ≤ (amount : Int) := Int.natCast_nonneg amount
    rw [toIsize, quotientEq, Int.floor_intCast,
      saturate_eq_self (by unfold isizeMin; omega) fits]
    exact_mod_cast exact

/-- What the integer amounts make of a ratio. -/
structure Truncates (retryPercent : ℚ) (depositAmount withdrawAmount : Int) :
    Prop where
  withdrawPos : 1 ≤ withdrawAmount
  depositNonneg : 0 ≤ depositAmount
  fits : depositAmount * withdrawAmount ≤ isizeMax
  le : retryPercent * withdrawAmount ≤ depositAmount
  eq_iff : retryPercent * withdrawAmount = depositAmount ↔ IsWholeRatio retryPercent

theorem retryAmounts_truncates {retryPercent : ℚ} (nonneg : 0 ≤ retryPercent)
    (atMost : retryPercent ≤ 1000) :
    Truncates retryPercent (retryAmounts .exact retryPercent).1
      (retryAmounts .exact retryPercent).2 := by
  by_cases zero : retryPercent = 0
  · rw [retryAmounts, if_pos zero, zero]
    constructor
    · exact le_rfl
    · exact le_rfl
    · decide
    · norm_num
    · simp [IsWholeRatio]
  · have positive : 0 < retryPercent := lt_of_le_of_ne nonneg (Ne.symm zero)
    by_cases fraction : retryPercent ≤ 1
    · rw [retryAmounts, if_neg zero, if_pos fraction]
      obtain ⟨atLeast, le, eq_iff⟩ := mul_toIsize_div positive fraction
      constructor
      · exact atLeast
      · exact Int.one_nonneg
      · rw [one_mul]
        exact saturate_le_isizeMax _
      · exact_mod_cast le
      · rw [IsWholeRatio, or_iff_right zero, if_pos fraction]
        exact_mod_cast eq_iff
    · rw [retryAmounts, if_neg zero, if_neg fraction]
      obtain ⟨atLeast, le, eq_iff⟩ := mul_toIsize_div positive atMost
      constructor
      · exact atLeast
      · exact Int.natCast_nonneg 1000
      · have small : (toIsize (1000 / retryPercent) : ℚ) ≤ 1000 := by
          calc (toIsize (1000 / retryPercent) : ℚ)
              ≤ retryPercent * toIsize (1000 / retryPercent) :=
                le_mul_of_one_le_left (by exact_mod_cast (by omega)) (le_of_not_ge fraction)
            _ ≤ 1000 := le
        have small : toIsize (1000 / retryPercent) ≤ 1000 := by exact_mod_cast small
        simp only [FloatDivision.exact, isizeMax]
        omega
      · exact_mod_cast le
      · rw [IsWholeRatio, or_iff_right zero, if_neg fraction]
        exact_mod_cast eq_iff

theorem saturate_le_self {value : Int} (nonneg : 0 ≤ value) : saturate value ≤ value :=
  saturate_le (by unfold isizeMin; omega)

theorem saturatingMul_le {left right : Int} (leftNonneg : 0 ≤ left)
    (rightNonneg : 0 ≤ right) : saturatingMul left right ≤ left * right :=
  saturate_le_self (mul_nonneg leftNonneg rightNonneg)

/-- What `Budget::new` makes of its arguments. -/
theorem new_exact {ttl minPerSec : Nat} {retryPercent : ℚ}
    (created : Budget.new .exact ttl minPerSec retryPercent = some budget) :
    Truncates retryPercent budget.depositAmount budget.withdrawAmount ∧
      budget.reserve ≤ isizeMax ∧
      budget.reserve ≤
        minPerSec * (ttl / nanosPerSec : Nat) * budget.withdrawAmount := by
  unfold Budget.new at created
  split at created
  · next valid =>
    have truncates := retryAmounts_truncates valid.2.2.1 valid.2.2.2
    have withdrawPos := truncates.withdrawPos
    cases created
    refine ⟨truncates, saturate_le_isizeMax _, ?_⟩
    apply (saturatingMul_le _ (by omega)).trans
    · apply mul_le_mul_of_nonneg_right _ (by omega)
      apply (saturatingMul_le _ (saturate_nonneg (Int.natCast_nonneg _))).trans
      · exact mul_le_mul (saturate_le_self (Int.natCast_nonneg _))
          (saturate_le_self (Int.natCast_nonneg _))
          (saturate_nonneg (Int.natCast_nonneg _)) (Int.natCast_nonneg _)
      · exact saturate_nonneg (Int.natCast_nonneg _)
    · exact saturatingMul_nonneg (saturate_nonneg (Int.natCast_nonneg _))
        (saturate_nonneg (Int.natCast_nonneg _))
  · cases created

theorem withinLoad_of_exact {ttl minPerSec created : Nat} {retryPercent : ℚ}
    {calls : List BudgetCall} {run : BudgetRun budget.slots}
    (new : Budget.new .exact ttl minPerSec retryPercent = some budget)
    (whole : IsWholeRatio retryPercent)
    (reaches : runAt now (.start budget created) calls = some run) :
    WithinLoad ttl minPerSec retryPercent (calls.count .deposit)
      run.grants.length := by
  obtain ⟨truncates, fits, reserveLe⟩ := new_exact new
  have withdrawPos : (0 : ℚ) < budget.withdrawAmount := by
    exact_mod_cast Int.lt_of_lt_of_le Int.one_pos truncates.withdrawPos
  have covered := grants_mul_le fits reaches
  have depositsEq := runAt_deposits_length reaches
  simp only [BudgetRun.start, List.length_nil, Nat.zero_add] at depositsEq
  rw [depositsEq] at covered
  have ratioEq := truncates.eq_iff.mpr whole
  have reserveLe : (budget.reserve : ℚ) ≤
      minPerSec * (ttl / nanosPerSec : Nat) * budget.withdrawAmount := by
    have castLe : (budget.reserve : ℚ) ≤ _ := Int.cast_le.mpr reserveLe
    simpa only [Int.cast_mul, Int.cast_natCast] using castLe
  apply le_of_mul_le_mul_left _ withdrawPos
  calc (budget.withdrawAmount : ℚ) * run.grants.length
      ≤ budget.reserve + budget.depositAmount * (calls.count .deposit : Nat) := by
        exact_mod_cast covered
    _ ≤ minPerSec * (ttl / nanosPerSec : Nat) * budget.withdrawAmount +
          budget.depositAmount * (calls.count .deposit : Nat) := by
        gcongr
    _ = budget.withdrawAmount * (minPerSec * (ttl / nanosPerSec : Nat) +
          retryPercent * (calls.count .deposit : Nat)) := by
        rw [← ratioEq]
        ring

/-- A ratio that was rounded lets the withdrawals grow beyond any reserve. -/
theorem exists_beyondLoad {ttl minPerSec created : Nat} {retryPercent : ℚ}
    (new : Budget.new .exact ttl minPerSec retryPercent = some budget)
    (rounded : ¬IsWholeRatio retryPercent) (later : created ≤ now) :
    ∃ calls run, runAt now (.start budget created) calls = some run ∧
      ¬WithinLoad ttl minPerSec retryPercent (calls.count .deposit)
        run.grants.length := by
  obtain ⟨truncates, -, -⟩ := new_exact new
  obtain ⟨deposited, withdrawEq⟩ := Int.eq_ofNat_of_zero_le budget.withdrawNonneg
  obtain ⟨granted, depositEq⟩ := Int.eq_ofNat_of_zero_le budget.depositNonneg
  have fits := truncates.fits
  have gain : retryPercent * deposited < granted := by
    have le := truncates.le
    have unequal := truncates.eq_iff.not.mpr rounded
    rw [withdrawEq, depositEq] at le unequal
    exact_mod_cast lt_of_le_of_ne le unequal
  rw [withdrawEq, depositEq] at fits
  obtain ⟨count, enough⟩ := exists_nat_gt
    ((minPerSec * (ttl / nanosPerSec : Nat) : ℚ) / (granted - retryPercent * deposited))
  obtain ⟨calls, last, reaches, holding⟩ :=
    (holding_start budget later).repeated count withdrawEq depositEq fits
  refine ⟨calls, last, reaches, ?_⟩
  have depositsEq := runAt_deposits_length reaches
  rw [holding.depositsEq] at depositsEq
  simp only [BudgetRun.start, List.length_nil, Nat.zero_add] at depositsEq
  rw [WithinLoad, holding.grantsEq, ← depositsEq, not_le]
  rw [div_lt_iff₀ (sub_pos.mpr gain)] at enough
  push_cast
  linarith

/-- The withdrawals granted at one instant of a new budget, however they
interleave with the deposits, stay within the configured load exactly if the
ratio is turned into whole amounts. -/
theorem grants_withinLoad_iff (ttl minPerSec : Nat) (retryPercent : ℚ)
    (budget : Budget)
    (new : Budget.new .exact ttl minPerSec retryPercent = some budget)
    (created now : Nat) (later : created ≤ now) :
    (∀ calls run, runAt now (BudgetRun.start budget created) calls = some run →
      WithinLoad ttl minPerSec retryPercent (calls.count .deposit)
        run.grants.length) ↔ IsWholeRatio retryPercent := by
  constructor
  · intro within
    by_contra rounded
    obtain ⟨calls, run, reaches, beyond⟩ := exists_beyondLoad new rounded later
    exact beyond (within calls run reaches)
  · intro whole calls run reaches
    exact withinLoad_of_exact new whole reaches

theorem grants_withinLoad_iff_exampleBudget :
    (∀ calls run, runAt 0 (BudgetRun.start exampleBudget 0) calls = some run →
      WithinLoad nanosPerSec 1 1 (calls.count .deposit) run.grants.length) ↔
      IsWholeRatio 1 :=
  grants_withinLoad_iff nanosPerSec 1 1 exampleBudget new_exampleBudget 0 0 le_rfl

/-- The budget of a retry policy with the load 0.7: a time to live of 10 s and
10 reserved retries per second. -/
def sevenTenthsBudget : Budget :=
  { exampleBudget with
    reserve := 100
    reserveNonneg := by decide
    slotDuration := 1000000000
    slotDurationPos := by decide }

/-- One deposit pays for a whole withdrawal beyond the reserve, and 101 exceeds
100.7. -/
theorem grants_beyondLoad :
    Budget.new .exact (10 * nanosPerSec) 10 (7 / 10) = some sevenTenthsBudget ∧
      ∃ calls run, runAt 0 (BudgetRun.start sevenTenthsBudget 0) calls = some run ∧
        ¬WithinLoad (10 * nanosPerSec) 10 (7 / 10) (calls.count .deposit)
          run.grants.length := by
  refine ⟨by decide +kernel, .deposit :: List.replicate 101 .withdraw, ?_⟩
  have granted : (runAt 0 (BudgetRun.start sevenTenthsBudget 0)
      (.deposit :: List.replicate 101 .withdraw)).map (·.grants.length) = some 101 := by
    decide +kernel
  obtain ⟨run, reaches, lengthEq⟩ := Option.map_eq_some_iff.mp granted
  refine ⟨run, reaches, ?_⟩
  rw [lengthEq, WithinLoad]
  decide +kernel

end Wrest.RetryBudget
