import Wrest.TransitionRuns
import Wrest.RetryBudget
import Mathlib.Algebra.BigOperators.Intervals
import Mathlib.Algebra.BigOperators.Ring.Finset

/-!
# The window of the retry budget

A run performs deposits and withdrawals at nondecreasing times.  The ring keeps
the balances of the last generations only, so what a withdrawal is checked
against is the account of the operations of those generations.  This file
proves that account, how old its entries can be, and from it the bound on the
withdrawals granted within any time to live.

A generation begins with the operation that advances to it, and `advance`
counts a partly elapsed slot as a whole one.  The generations can therefore
move faster than the time, and then a withdrawal leaves the account before its
time to live has passed; the bound holds on the runs in which none does.
-/

namespace Wrest.RetryBudget

open SlotRing Transition

inductive BudgetCall
  | deposit
  | withdraw
deriving DecidableEq, Repr

structure BudgetOperation where
  call : BudgetCall
  time : Nat
deriving DecidableEq, Repr

/-- A deposit or a granted withdrawal: its time, and the generation whose
writer it changed. -/
structure Entry where
  time : Nat
  generation : Nat
deriving DecidableEq, Repr

def countIn (entries : List Entry) (generation : Nat) : Nat :=
  entries.countP fun entry => entry.generation = generation

/-- A budget in use.  Besides its state, the run records the unwrapped number
of the current generation, the time of the last operation, and the history. -/
structure BudgetRun (slots : Nat) where
  state : BudgetState slots
  generation : Nat
  now : Nat
  deposits : List Entry
  grants : List Entry
deriving DecidableEq

variable {budget : Budget}

namespace BudgetRun

/-- A new budget.  The ring is full of empty generations. -/
def start (budget : Budget) (created : Nat) : BudgetRun budget.slots where
  state := budget.initialState created
  generation := budget.slots
  now := created
  deposits := []
  grants := []

/-- The run as an operation at `time` finds it. -/
def advance (run : BudgetRun budget.slots) (time : Nat) :
    BudgetRun budget.slots :=
  { run with
    state := budget.advance run.state time
    generation := run.generation + budget.rotations (time - run.state.genTime)
    now := time }

/-- The entry's generation is the current one or still in the ring. -/
def Retained (run : BudgetRun budget.slots) (entry : Entry) : Prop :=
  run.generation ≤ entry.generation + budget.slots

instance (run : BudgetRun budget.slots) (entry : Entry) :
    Decidable (run.Retained entry) :=
  inferInstanceAs (Decidable (_ ≤ _))

def recordDeposit (run : BudgetRun budget.slots) : BudgetRun budget.slots :=
  { run with
    state := { run.state with
      writer := saturatingAdd run.state.writer budget.depositAmount }
    deposits := ⟨run.now, run.generation⟩ :: run.deposits }

def recordGrant (run : BudgetRun budget.slots) : BudgetRun budget.slots :=
  { run with
    state := { run.state with
      writer := saturatingSub run.state.writer budget.withdrawAmount }
    grants := ⟨run.now, run.generation⟩ :: run.grants }

end BudgetRun

/-- One operation of a run; times never decrease. -/
def budgetStep (budget : Budget) (run : BudgetRun budget.slots)
    (operation : BudgetOperation) : Option (BudgetRun budget.slots) :=
  if operation.time < run.now then
    none
  else
    let advanced := run.advance operation.time
    let entry := Entry.mk operation.time advanced.generation
    match operation.call with
    | .deposit =>
      some { advanced with
        state := budget.deposit run.state operation.time
        deposits := entry :: run.deposits }
    | .withdraw =>
      let (granted, state) := budget.withdraw run.state operation.time
      some { advanced with
        state
        grants := if granted then entry :: run.grants else run.grants }

/-- What one operation can do. -/
inductive BudgetMove (run : BudgetRun budget.slots) :
    BudgetOperation → BudgetRun budget.slots → Prop
  | deposited {time : Nat} (later : run.now ≤ time) :
      BudgetMove run ⟨.deposit, time⟩ (run.advance time).recordDeposit
  | granted {time : Nat} (later : run.now ≤ time)
      (covered : budget.withdrawAmount ≤ budget.sum (run.advance time).state) :
      BudgetMove run ⟨.withdraw, time⟩ (run.advance time).recordGrant
  | refused {time : Nat} (later : run.now ≤ time)
      (short : budget.sum (run.advance time).state < budget.withdrawAmount) :
      BudgetMove run ⟨.withdraw, time⟩ (run.advance time)

theorem budgetMove_of_budgetStep {run next : BudgetRun budget.slots}
    {operation : BudgetOperation}
    (steps : budgetStep budget run operation = some next) :
    BudgetMove run operation next := by
  obtain ⟨call, time⟩ := operation
  unfold budgetStep at steps
  rw [Option.ite_none_left_eq_some] at steps
  obtain ⟨notEarlier, steps⟩ := steps
  have later := Nat.le_of_not_lt notEarlier
  cases call with
  | deposit =>
    cases steps
    exact .deposited later
  | withdraw =>
    by_cases covered : budget.withdrawAmount ≤ budget.sum (run.advance time).state
    · simp only [Budget.withdraw_of_covered covered] at steps
      cases steps
      exact .granted later covered
    · have short := Int.lt_of_not_ge covered
      simp only [Budget.withdraw_of_short short] at steps
      cases steps
      exact .refused later short

theorem covered_of_withdraw {run : BudgetRun budget.slots} {time : Nat}
    (granted : (budget.withdraw run.state time).1 = true) :
    budget.withdrawAmount ≤ budget.sum (run.advance time).state := by
  by_contra uncovered
  rw [Budget.withdraw_of_short (Int.lt_of_not_ge uncovered)] at granted
  cases granted

/-- What the withdrawals of a generation take out of its balance. -/
def debit (budget : Budget) (grants : List Entry) (generation : Nat) : Int :=
  budget.withdrawAmount * countIn grants generation

/-- What the deposits of a generation put into its balance, less the
withdrawals. -/
def credit (budget : Budget) (deposits grants : List Entry)
    (generation : Nat) : Int :=
  budget.depositAmount * countIn deposits generation -
    debit budget grants generation

/-- The balance that a generation may have on the books: no less than its
withdrawals alone, and no more than its deposits less its withdrawals, unless
these are so many that the balance was clamped. -/
structure Balanced (budget : Budget) (deposits grants : List Entry)
    (generation : Nat) (balance : Int) : Prop where
  isIsize : isizeMin ≤ balance
  debited : -debit budget grants generation ≤ balance
  credited : debit budget grants generation ≤ -isizeMin →
    balance ≤ credit budget deposits grants generation

/-- How old the entries of a run are, by their times and by their generations. -/
structure Dated (run : BudgetRun budget.slots) : Prop where
  began : run.state.genTime ≤ run.now
  current : run.now < run.state.genTime + budget.slotDuration
  past : ∀ entry ∈ run.deposits ++ run.grants,
    entry.generation ≤ run.generation
  earlier : ∀ entry ∈ run.deposits ++ run.grants, entry.time ≤ run.now
  aged : ∀ entry ∈ run.deposits ++ run.grants, run.Retained entry →
    run.state.genTime ≤
      entry.time + (run.generation - entry.generation) * budget.slotDuration

theorem dated_start (budget : Budget) (created : Nat) :
    Dated (BudgetRun.start budget created) where
  began := le_rfl
  current := Nat.lt_add_of_pos_right budget.slotDurationPos
  past := by simp [BudgetRun.start]
  earlier := by simp [BudgetRun.start]
  aged := by simp [BudgetRun.start]

theorem Dated.advance {run : BudgetRun budget.slots} (dated : Dated run) {time : Nat}
    (later : run.now ≤ time) : Dated (run.advance time) := by
  have slotPos := budget.slotDurationPos
  have genTimeEq := Budget.advance_genTime run.state time
  have began := dated.began
  constructor
  · simp only [BudgetRun.advance, genTimeEq]
    split <;> omega
  · simp only [BudgetRun.advance, genTimeEq]
    split <;> omega
  · intro entry member
    exact (dated.past entry member).trans (Nat.le_add_right _ _)
  · intro entry member
    exact (dated.earlier entry member).trans later
  · intro entry member retained
    have past := dated.past entry member
    have aged := dated.aged entry member
    simp only [BudgetRun.Retained, BudgetRun.advance] at retained aged ⊢
    have agedNow := aged (by omega)
    rw [genTimeEq]
    split
    · next early => simpa [Budget.rotations, early] using agedNow
    · next moved =>
      -- The elapsed time is at most the slots moved, because the entry is
      -- retained and so the ring has not been cleared as a whole.
      have elapsed := Budget.elapsed_le_rotations
        (by omega : budget.rotations (time - run.state.genTime) ≤ budget.slots)
        (by omega)
      have split : run.generation + budget.rotations (time - run.state.genTime) -
          entry.generation =
          (run.generation - entry.generation) +
            budget.rotations (time - run.state.genTime) := by omega
      rw [split, Nat.add_mul]
      omega

/-- An entry of the current time and generation may be added. -/
theorem Dated.record {run next : BudgetRun budget.slots} (dated : Dated run)
    (genTimeEq : next.state.genTime = run.state.genTime)
    (generationEq : next.generation = run.generation) (nowEq : next.now = run.now)
    (members : ∀ entry ∈ next.deposits ++ next.grants,
      entry ∈ run.deposits ++ run.grants ∨ entry = ⟨run.now, run.generation⟩) :
    Dated next := by
  constructor
  · rw [genTimeEq, nowEq]
    exact dated.began
  · rw [genTimeEq, nowEq]
    exact dated.current
  · intro entry member
    rw [generationEq]
    rcases members entry member with known | rfl
    · exact dated.past entry known
    · exact le_rfl
  · intro entry member
    rw [nowEq]
    rcases members entry member with known | rfl
    · exact dated.earlier entry known
    · exact le_rfl
  · intro entry member retained
    rw [BudgetRun.Retained, generationEq] at retained
    rw [genTimeEq, generationEq]
    rcases members entry member with known | rfl
    · exact dated.aged entry known retained
    · exact dated.began.trans (Nat.le_add_right _ _)

/-- The entries that a balance counts are no older than the time to live and
one slot. -/
theorem Dated.retained_recent {run : BudgetRun budget.slots} (dated : Dated run)
    {ttl : Nat} (ring : budget.slots * budget.slotDuration ≤ ttl) {entry : Entry}
    (member : entry ∈ run.deposits ++ run.grants) (retained : run.Retained entry) :
    run.now < entry.time + (ttl + budget.slotDuration) := by
  have aged := dated.aged entry member retained
  have current := dated.current
  have generations : run.generation - entry.generation ≤ budget.slots := by
    unfold BudgetRun.Retained at retained
    omega
  have covered := Nat.mul_le_mul_right budget.slotDuration generations
  omega

/-- The account that a run keeps. -/
structure Accounts (run : BudgetRun budget.slots) : Prop where
  filled : budget.slots ≤ run.generation
  ring : Retains (Balanced budget run.deposits run.grants) run.state.buckets
    run.generation
  index : run.state.genIndex.val = run.generation % budget.slots
  writer : Balanced budget run.deposits run.grants run.generation
    run.state.writer
  began : run.state.genTime ≤ run.now
  current : run.now < run.state.genTime + budget.slotDuration
  past : ∀ entry ∈ run.deposits ++ run.grants,
    entry.generation ≤ run.generation
  earlier : ∀ entry ∈ run.deposits ++ run.grants, entry.time ≤ run.now
  aged : ∀ entry ∈ run.deposits ++ run.grants, run.Retained entry →
    run.state.genTime ≤
      entry.time + (run.generation - entry.generation) * budget.slotDuration

theorem countIn_eq_zero {entries : List Entry} {generation : Nat}
    (before : ∀ entry ∈ entries, entry.generation < generation) :
    countIn entries generation = 0 := by
  apply List.countP_eq_zero.mpr
  intro entry member
  have earlier := before entry member
  simp only [decide_eq_true_eq]
  omega

theorem countIn_cons (entry : Entry) (entries : List Entry) (generation : Nat) :
    countIn (entry :: entries) generation =
      countIn entries generation +
        if entry.generation = generation then 1 else 0 := by
  simp [countIn, List.countP_cons]

theorem balanced_zero {deposits grants : List Entry} {generation : Nat}
    (noDeposits : countIn deposits generation = 0)
    (noGrants : countIn grants generation = 0) :
    Balanced budget deposits grants generation 0 :=
  ⟨by decide, by simp [debit, noGrants], by simp [credit, debit, noDeposits, noGrants]⟩

theorem debit_nonneg (budget : Budget) (grants : List Entry) (generation : Nat) :
    0 ≤ debit budget grants generation :=
  mul_nonneg budget.withdrawNonneg (Int.natCast_nonneg _)

theorem accounts_start (budget : Budget) (created : Nat) :
    Accounts (BudgetRun.start budget created) where
  filled := le_rfl
  ring := by
    intro past bound before recent
    simp only [BudgetRun.start, Budget.initialState, Vector.getElem_replicate]
    exact balanced_zero rfl rfl
  index := (Nat.mod_self _).symm
  writer := balanced_zero rfl rfl
  began := le_rfl
  current := (dated_start budget created).current
  past := (dated_start budget created).past
  earlier := (dated_start budget created).earlier
  aged := (dated_start budget created).aged

theorem Accounts.dated {run : BudgetRun budget.slots} (accounts : Accounts run) :
    Dated run :=
  ⟨accounts.began, accounts.current, accounts.past, accounts.earlier, accounts.aged⟩

theorem Accounts.balanced_later {run : BudgetRun budget.slots}
    (accounts : Accounts run) {later : Nat} (after : run.generation < later) :
    Balanced budget run.deposits run.grants later 0 :=
  balanced_zero
    (countIn_eq_zero fun entry member =>
      lt_of_le_of_lt (accounts.past entry (List.mem_append_left _ member)) after)
    (countIn_eq_zero fun entry member =>
      lt_of_le_of_lt (accounts.past entry (List.mem_append_right _ member)) after)

theorem Accounts.advance {run : BudgetRun budget.slots}
    (accounts : Accounts run) {time : Nat} (later : run.now ≤ time) :
    Accounts (run.advance time) := by
  obtain ⟨ring, index, writer⟩ :=
    Budget.advance_retains time accounts.ring accounts.index accounts.writer
      fun _ after => accounts.balanced_later after
  obtain ⟨began, current, past, earlier, aged⟩ := accounts.dated.advance later
  have filled : budget.slots ≤ (run.advance time).generation :=
    accounts.filled.trans (Nat.le_add_right _ _)
  exact ⟨filled, ring, index, writer, began, current, past, earlier, aged⟩

theorem sum_countIn (entries : List Entry) (generations : Finset Nat) :
    ∑ generation ∈ generations, countIn entries generation =
      entries.countP fun entry => entry.generation ∈ generations := by
  induction entries with
  | nil => simp [countIn]
  | cons entry entries ih =>
    simp only [countIn_cons, Finset.sum_add_distrib, ih, Finset.sum_ite_eq,
      List.countP_cons, decide_eq_true_eq]

/-- The entries of the ring and of the current generation are the retained
ones. -/
theorem BudgetRun.sum_retained {run : BudgetRun budget.slots}
    {entries : List Entry} (filled : budget.slots ≤ run.generation)
    (past : ∀ entry ∈ entries, entry.generation ≤ run.generation) :
    ∑ generation ∈ Finset.Ico (run.generation - budget.slots) run.generation,
        countIn entries generation + countIn entries run.generation =
      entries.countP fun entry => run.Retained entry := by
  rw [← Finset.sum_Ico_succ_top (Nat.sub_le _ _), sum_countIn]
  apply List.countP_congr
  intro entry member
  have before := past entry member
  rw [decide_eq_true_iff, decide_eq_true_iff, Finset.mem_Ico, BudgetRun.Retained]
  omega

/-- The windowed balance lies within the accounts of the generations in the
ring. -/
theorem Accounts.windowed_bounds {run : BudgetRun budget.slots}
    (accounts : Accounts run)
    (fits : ∑ generation ∈ Finset.Ico (run.generation - budget.slots) run.generation,
      debit budget run.grants generation ≤ -isizeMin) :
    -(∑ generation ∈ Finset.Ico (run.generation - budget.slots) run.generation,
          debit budget run.grants generation) ≤
        run.state.buckets.toList.foldl saturatingAdd 0 ∧
      run.state.buckets.toList.foldl saturatingAdd 0 ≤
        ∑ generation ∈ Finset.Ico (run.generation - budget.slots) run.generation,
          credit budget run.deposits run.grants generation := by
  obtain ⟨generationOf, located, sumOver⟩ := exists_generationOf accounts.filled
  rw [← sumOver] at fits
  have bounds := foldl_saturatingAdd_bounds run.state.buckets.toList
    (fun index => debit budget run.grants (generationOf index))
    (fun index => credit budget run.deposits run.grants (generationOf index))
  simp only [Vector.length_toList] at bounds
  rw [← sumOver, ← sumOver]
  have single (index : Nat) (inside : index < run.state.buckets.size) :
      debit budget run.grants (generationOf index) ≤ -isizeMin :=
    (Finset.single_le_sum (fun _ _ => debit_nonneg _ _ _)
      (Finset.mem_range.mpr inside)).trans fits
  refine bounds (fun index inside => ?_) (fun _ => debit_nonneg _ _ _) fits
  have within : index < budget.slots := by simpa using inside
  obtain ⟨before, recent, remainder⟩ := located index within
  have balanced := accounts.ring (generationOf index)
    (remainder.symm ▸ within) before recent
  simp only [remainder] at balanced
  rw [Vector.getElem_toList]
  exact ⟨balanced.debited, balanced.credited (single index within)⟩

/-- A balance never exceeds the reserve and the deposits of the retained
generations less their withdrawals. -/
theorem Accounts.sum_le {run : BudgetRun budget.slots} (accounts : Accounts run)
    (fits : budget.withdrawAmount *
      (run.grants.countP fun entry => run.Retained entry : Nat) ≤ -isizeMin) :
    budget.sum run.state ≤ budget.reserve +
      budget.depositAmount *
        (run.deposits.countP fun entry => run.Retained entry : Nat) -
      budget.withdrawAmount *
        (run.grants.countP fun entry => run.Retained entry : Nat) := by
  have grantsEq := BudgetRun.sum_retained accounts.filled fun entry member =>
    accounts.past entry (List.mem_append_right _ member)
  have depositsEq := BudgetRun.sum_retained accounts.filled fun entry member =>
    accounts.past entry (List.mem_append_left _ member)
  rw [← grantsEq, ← depositsEq]
  rw [← grantsEq] at fits
  push_cast [mul_add, Finset.mul_sum] at fits ⊢
  have currentNonneg := debit_nonneg budget run.grants run.generation
  have ringNonneg := Finset.sum_nonneg
    fun generation (_ : generation ∈
      Finset.Ico (run.generation - budget.slots) run.generation) =>
        debit_nonneg budget run.grants generation
  have windowed := accounts.windowed_bounds
    (by unfold debit at currentNonneg ⊢; omega)
  have written := accounts.writer.credited (by unfold debit at ringNonneg ⊢; omega)
  have total := saturatingAdd_bounds ⟨accounts.writer.debited, written⟩ windowed
    currentNonneg ringNonneg (by unfold debit; omega)
  have reserveNonneg := budget.reserveNonneg
  have summed : budget.sum run.state ≤
      saturatingAdd run.state.writer
        (run.state.buckets.toList.foldl saturatingAdd 0) + budget.reserve :=
    saturate_le (by unfold debit at total; omega)
  simp only [credit, Finset.sum_sub_distrib, debit] at total
  omega

theorem countIn_cons_of_ne {entry : Entry} {generation : Nat}
    (different : entry.generation ≠ generation) (entries : List Entry) :
    countIn (entry :: entries) generation = countIn entries generation := by
  rw [countIn_cons, if_neg different, Nat.add_zero]

/-- Recording an entry of the current generation leaves the accounts of the
earlier ones as they are. -/
theorem Accounts.record {run next : BudgetRun budget.slots}
    (accounts : Accounts run) {writer : Int}
    (stateEq : next.state = { run.state with writer := writer })
    (generationEq : next.generation = run.generation)
    (nowEq : next.now = run.now)
    (depositsEq : next.deposits = run.deposits ∨
      next.deposits = ⟨run.now, run.generation⟩ :: run.deposits)
    (grantsEq : next.grants = run.grants ∨
      next.grants = ⟨run.now, run.generation⟩ :: run.grants)
    (balanced : Balanced budget next.deposits next.grants run.generation writer) :
    Accounts next := by
  have members : ∀ entry ∈ next.deposits ++ next.grants,
      entry ∈ run.deposits ++ run.grants ∨
        entry = ⟨run.now, run.generation⟩ := by
    rcases depositsEq with depositsEq | depositsEq <;>
      rcases grantsEq with grantsEq | grantsEq <;>
      simp only [depositsEq, grantsEq, List.mem_append, List.mem_cons] <;> tauto
  obtain ⟨began, current, past, earlier, aged⟩ :=
    accounts.dated.record (by rw [stateEq]) generationEq nowEq members
  obtain ⟨state, generation, now, deposits, grants⟩ := next
  cases stateEq
  cases generationEq
  cases nowEq
  have depositsSame : ∀ past, past < run.generation →
      countIn deposits past = countIn run.deposits past := by
    rintro past before
    rcases depositsEq with rfl | rfl
    · rfl
    · exact countIn_cons_of_ne (Nat.ne_of_gt before) _
  have grantsSame : ∀ past, past < run.generation →
      countIn grants past = countIn run.grants past := by
    rintro past before
    rcases grantsEq with rfl | rfl
    · rfl
    · exact countIn_cons_of_ne (Nat.ne_of_gt before) _
  refine ⟨accounts.filled, ?_, accounts.index, balanced, began, current, past, earlier,
    aged⟩
  refine accounts.ring.mono fun past value before held => ?_
  refine ⟨held.isIsize, ?_, ?_⟩
  · simpa [debit, grantsSame past before] using held.debited
  · simpa [credit, debit, grantsSame past before, depositsSame past before]
      using held.credited

theorem Accounts.recordDeposit {run : BudgetRun budget.slots}
    (accounts : Accounts run) : Accounts run.recordDeposit := by
  have depositNonneg := budget.depositNonneg
  obtain ⟨isIsize, debited, credited⟩ := accounts.writer
  refine accounts.record rfl rfl rfl (.inr rfl) (.inl rfl)
    ⟨isizeMin_le_saturate _, ?_, ?_⟩
  · have nonneg := debit_nonneg budget run.grants run.generation
    exact le_saturate (by simp only [BudgetRun.recordDeposit]; omega)
      (by simp only [BudgetRun.recordDeposit]; omega)
  · intro unclamped
    have before := credited unclamped
    have upper : saturatingAdd run.state.writer budget.depositAmount ≤
        run.state.writer + budget.depositAmount := saturate_le (by omega)
    simp only [BudgetRun.recordDeposit, credit, countIn_cons, if_true] at before ⊢
    push_cast [mul_add]
    omega

theorem Accounts.recordGrant {run : BudgetRun budget.slots}
    (accounts : Accounts run) : Accounts run.recordGrant := by
  obtain ⟨isIsize, debited, credited⟩ := accounts.writer
  have withdrawNonneg := budget.withdrawNonneg
  have nonneg := debit_nonneg budget run.recordGrant.grants run.generation
  have debitEq : debit budget run.recordGrant.grants run.generation =
      debit budget run.grants run.generation + budget.withdrawAmount := by
    simp only [BudgetRun.recordGrant, debit, countIn_cons, if_true]
    push_cast [mul_add]
    omega
  refine accounts.record rfl rfl rfl (.inl rfl) (.inr rfl)
    ⟨isizeMin_le_saturate _, ?_, ?_⟩
  · exact le_saturate (by omega) (by omega)
  · intro unclamped
    have before := credited (by omega)
    have upper : saturatingSub run.state.writer budget.withdrawAmount ≤
        run.state.writer - budget.withdrawAmount := saturate_le (by omega)
    unfold credit at before ⊢
    rw [debitEq]
    simp only [BudgetRun.recordGrant]
    omega

/-- The number of entries in `(time - length, time]`. -/
def countWithin (entries : List Entry) (time length : Nat) : Nat :=
  entries.countP fun entry => entry.time ≤ time ∧ time < entry.time + length

theorem countWithin_cons_le (entry : Entry) (entries : List Entry)
    (time length : Nat) :
    countWithin (entry :: entries) time length ≤
      countWithin entries time length + 1 := by
  rw [countWithin, List.countP_cons, countWithin]
  split <;> omega

/-- No withdrawal granted within the time to live leaves the ring, and the
withdrawals in the ring, that another one is checked against, fit in an
`isize`. -/
structure KeepsWindow (ttl : Nat) (run : BudgetRun budget.slots)
    (operation : BudgetOperation) : Prop where
  retained : ∀ entry ∈ run.grants, operation.time < entry.time + ttl →
    (run.advance operation.time).Retained entry
  fits : operation.call = .withdraw →
    budget.withdrawAmount *
      (run.grants.countP fun entry =>
        (run.advance operation.time).Retained entry : Nat) ≤ -isizeMin

instance (ttl : Nat) (run : BudgetRun budget.slots) (operation : BudgetOperation) :
    Decidable (KeepsWindow ttl run operation) :=
  decidable_of_iff (_ ∧ _)
    ⟨fun both => ⟨both.1, both.2⟩, fun keeps => ⟨keeps.retained, keeps.fits⟩⟩

theorem Accounts.countP_retained_le {run : BudgetRun budget.slots}
    (accounts : Accounts run) {ttl : Nat}
    (ring : budget.slots * budget.slotDuration ≤ ttl) {entries : List Entry}
    (members : ∀ entry ∈ entries, entry ∈ run.deposits ++ run.grants) :
    (entries.countP fun entry => run.Retained entry) ≤
      countWithin entries run.now (ttl + budget.slotDuration) := by
  apply List.countP_mono_left
  intro entry member retained
  rw [decide_eq_true_iff] at retained ⊢
  exact ⟨accounts.earlier entry (members entry member),
    accounts.dated.retained_recent ring (members entry member) retained⟩

theorem Accounts.move {run next : BudgetRun budget.slots}
    {operation : BudgetOperation} (accounts : Accounts run)
    (move : BudgetMove run operation next) : Accounts next := by
  cases move with
  | deposited later => exact (accounts.advance later).recordDeposit
  | refused later => exact accounts.advance later
  | granted later covered => exact (accounts.advance later).recordGrant

/-- Whenever a withdrawal is granted, the withdrawals granted within the time to
live are covered by the reserve and the deposits of the time to live and one
more slot, provided that no operation so far has dropped a withdrawal from the
ring within its time to live. -/
theorem grants_covered (float : FloatDivision) (ttl minPerSec : Nat)
    (retryPercent : ℚ) (budget : Budget)
    (created : Budget.new float ttl minPerSec retryPercent = some budget)
    (createdAt : Nat) (operations : List BudgetOperation) (time : Nat)
    (run next : BudgetRun budget.slots)
    (keeps : Guarded (budgetStep budget) (KeepsWindow ttl)
      (BudgetRun.start budget createdAt) (operations ++ [⟨.withdraw, time⟩]))
    (reaches : Transition.run (budgetStep budget)
      (BudgetRun.start budget createdAt) operations = some run)
    (steps : budgetStep budget run ⟨.withdraw, time⟩ = some next)
    (granted : (budget.withdraw run.state time).1 = true) :
    budget.withdrawAmount * countWithin next.grants time ttl ≤
      budget.reserve + budget.depositAmount *
        countWithin next.deposits time (ttl + budget.slotDuration) := by
  have ring := Budget.new_ring_le_ttl created
  have accounts : Accounts run :=
    invariant_of_run Accounts
      (fun _ _ _ accounts steps => accounts.move (budgetMove_of_budgetStep steps))
      (accounts_start budget createdAt) reaches
  have keepsLast := keeps.last reaches
  cases budgetMove_of_budgetStep steps with
  | refused later short =>
    have covered := covered_of_withdraw granted
    omega
  | granted later covered =>
    have advanced := accounts.advance later
    have depositsLe := advanced.countP_retained_le ring
      fun entry (member : entry ∈ run.deposits) => List.mem_append_left _ member
    have windowLe : countWithin run.grants time ttl ≤
        run.grants.countP fun entry => (run.advance time).Retained entry := by
      apply List.countP_mono_left
      intro entry member within
      rw [decide_eq_true_iff] at within ⊢
      exact keepsLast.retained entry member within.2
    have recorded : countWithin (run.advance time).recordGrant.grants time ttl ≤
        countWithin run.grants time ttl + 1 := countWithin_cons_le _ _ _ _
    have balance := advanced.sum_le (keepsLast.fits rfl)
    have grantsMul := mul_le_mul_of_nonneg_left
      (Int.ofNat_le.mpr (recorded.trans (Nat.succ_le_succ windowLe)))
      budget.withdrawNonneg
    have depositsMul := mul_le_mul_of_nonneg_left (Int.ofNat_le.mpr depositsLe)
      budget.depositNonneg
    rw [Nat.succ_eq_add_one, Nat.cast_succ, mul_add, mul_one] at grantsMul
    calc budget.withdrawAmount *
          (countWithin (run.advance time).recordGrant.grants time ttl : Int)
        ≤ budget.withdrawAmount *
            (run.grants.countP fun entry => (run.advance time).Retained entry : Nat) +
          budget.withdrawAmount := grantsMul
      _ ≤ budget.reserve + budget.depositAmount *
            (run.deposits.countP fun entry => (run.advance time).Retained entry : Nat) := by
        have balance' := covered.trans balance
        simp only [BudgetRun.advance] at balance' ⊢
        omega
      _ ≤ _ := by
        simp only [BudgetRun.advance, BudgetRun.recordGrant] at depositsMul ⊢
        omega

/-- The budget for a time to live of one second, one reserved retry per second
and one retry per deposit. -/
def exampleBudget : Budget where
  reserve := 1
  slots := 10
  slotDuration := 100000000
  depositAmount := 1
  withdrawAmount := 1
  slotsPos := by decide
  slotDurationPos := by decide
  reserveNonneg := by decide
  depositNonneg := by decide
  withdrawNonneg := by decide

theorem new_exampleBudget :
    Budget.new .exact nanosPerSec 1 1 = some exampleBudget := by
  decide +kernel

/-- A withdrawal 90 ms after the budget was created, and a deposit 60 ms later, which
makes room for a second withdrawal. -/
def depositedAfter : BudgetRun exampleBudget.slots where
  state :=
    { buckets := (Vector.replicate 10 0).set 0 (-1)
      writer := 1
      genIndex := ⟨2, by decide⟩
      genTime := 150000000 }
  generation := 12
  now := 150000000
  deposits := [⟨150000000, 12⟩]
  grants := [⟨90000000, 10⟩]

theorem grants_covered_depositedAfter :
    ∃ next,
      budgetStep exampleBudget depositedAfter ⟨.withdraw, 160000000⟩ = some next ∧
        exampleBudget.withdrawAmount *
            countWithin next.grants 160000000 nanosPerSec ≤
          exampleBudget.reserve + exampleBudget.depositAmount *
            countWithin next.deposits 160000000
              (nanosPerSec + exampleBudget.slotDuration) :=
  ⟨_, rfl,
    grants_covered .exact nanosPerSec 1 1 exampleBudget new_exampleBudget 0
      [⟨.withdraw, 90000000⟩, ⟨.deposit, 150000000⟩] 160000000 depositedAfter _
      (by decide +kernel) (by decide +kernel) rfl (by decide +kernel)⟩

/-- Six attempts to withdraw, 110 ms apart.  The first is granted. -/
def attemptsEverySlot : List BudgetOperation :=
  (List.range 6).map fun attempt => ⟨.withdraw, attempt * 110000000⟩

/-- Each of the later attempts was refused and moved the ring by two slots. -/
def attempted : BudgetRun exampleBudget.slots where
  state :=
    { buckets := (Vector.replicate 10 0).set 0 (-1)
      writer := 0
      genIndex := ⟨0, by decide⟩
      genTime := 550000000 }
  generation := 20
  now := 550000000
  deposits := []
  grants := [⟨0, 10⟩]

/-- The next attempt overwrites the slot of the first withdrawal and is granted,
660 ms after it, although both lie within the time to live of one second and the
reserve covers one. -/
theorem grants_uncovered :
    Budget.new .exact nanosPerSec 1 1 = some exampleBudget ∧
    ∃ next,
      Transition.run (budgetStep exampleBudget) (.start exampleBudget 0)
          attemptsEverySlot = some attempted ∧
        budgetStep exampleBudget attempted ⟨.withdraw, 660000000⟩ = some next ∧
        (exampleBudget.withdraw attempted.state 660000000).1 = true ∧
        ¬ exampleBudget.withdrawAmount *
              countWithin next.grants 660000000 nanosPerSec ≤
            exampleBudget.reserve + exampleBudget.depositAmount *
              countWithin next.deposits 660000000
                (nanosPerSec + exampleBudget.slotDuration) :=
  ⟨new_exampleBudget, _, by decide +kernel, rfl, by decide +kernel,
    by decide +kernel⟩

end Wrest.RetryBudget
