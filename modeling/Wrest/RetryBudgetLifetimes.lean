import Wrest.RetryBudgetWindow
import Mathlib.Algebra.Order.Floor.Div

/-!
# How long the retry budget counts an operation

A balance is the reserve and the amounts of the operations whose generation is the current
one or still in the ring.  No such operation is older than the time to live and one slot.
How young an operation can be that is no longer counted depends on the times of the
operations in between: each interval between two rotations counts as whole slots, rounded
up, and the operation is counted while the slots that have passed fit into the ring.
-/

namespace Wrest.RetryBudget

open SlotRing Transition

variable {budget : Budget}

/-- The balance of a state without saturation. -/
def Budget.plainSum (budget : Budget) (state : BudgetState budget.slots) : Int :=
  state.writer + state.buckets.toList.foldl (· + ·) 0 + budget.reserve

/-- No saturating operation of a call reaches a bound. -/
def Unsaturated (run : BudgetRun budget.slots) (operation : BudgetOperation) : Prop :=
  let state := (run.advance operation.time).state
  match operation.call with
  | .deposit =>
    saturatingAdd state.writer budget.depositAmount = state.writer + budget.depositAmount
  | .withdraw =>
    budget.sum state = budget.plainSum state ∧
      (budget.withdrawAmount ≤ budget.sum state →
        saturatingSub state.writer budget.withdrawAmount =
          state.writer - budget.withdrawAmount)

instance (run : BudgetRun budget.slots) :
    ∀ operation, Decidable (Unsaturated run operation)
  | ⟨.deposit, _⟩ => inferInstanceAs (Decidable (_ = _))
  | ⟨.withdraw, _⟩ => inferInstanceAs (Decidable (_ ∧ (_ → _)))

/-- The account of a run that saturates nothing: each slot holds what the operations of
its generation add up to. -/
structure Ledger (run : BudgetRun budget.slots) : Prop where
  filled : budget.slots ≤ run.generation
  ring : Retains
    (fun generation balance => balance = credit budget run.deposits run.grants generation)
    run.state.buckets run.generation
  index : run.state.genIndex.val = run.generation % budget.slots
  writer : run.state.writer = credit budget run.deposits run.grants run.generation
  dated : Dated run

/-- The entries that are the current generation's or still in the ring. -/
def BudgetRun.counted (run : BudgetRun budget.slots) (entries : List Entry) : List Entry :=
  entries.filter fun entry => run.Retained entry

section Ledgers

variable {run next : BudgetRun budget.slots}

theorem credit_eq_zero {deposits grants : List Entry} {generation : Nat}
    (noDeposits : countIn deposits generation = 0)
    (noGrants : countIn grants generation = 0) :
    credit budget deposits grants generation = 0 := by
  simp [credit, debit, noDeposits, noGrants]

theorem ledger_start (budget : Budget) (created : Nat) :
    Ledger (BudgetRun.start budget created) where
  filled := le_rfl
  ring := by
    intro past bound before recent
    simp only [BudgetRun.start, Budget.initialState, Vector.getElem_replicate]
    exact (credit_eq_zero rfl rfl).symm
  index := (Nat.mod_self _).symm
  writer := (credit_eq_zero rfl rfl).symm
  dated := dated_start budget created

theorem Ledger.advance (ledger : Ledger run) {time : Nat} (later : run.now ≤ time) :
    Ledger (run.advance time) := by
  have dated := ledger.dated
  have empty : ∀ after, run.generation < after →
      0 = credit budget run.deposits run.grants after := by
    intro after behind
    refine (credit_eq_zero ?_ ?_).symm <;> refine countIn_eq_zero fun entry member => ?_
    · exact (dated.past entry (List.mem_append_left _ member)).trans_lt behind
    · exact (dated.past entry (List.mem_append_right _ member)).trans_lt behind
  obtain ⟨ring, index, writer⟩ :=
    Budget.advance_retains time ledger.ring ledger.index ledger.writer empty
  have filled : budget.slots ≤ (run.advance time).generation :=
    ledger.filled.trans (Nat.le_add_right _ _)
  exact ⟨filled, ring, index, writer, dated.advance later⟩

/-- Recording an entry of the current generation leaves the earlier slots right. -/
theorem Ledger.record (ledger : Ledger run) {writer : Int}
    (stateEq : next.state = { run.state with writer := writer })
    (generationEq : next.generation = run.generation) (nowEq : next.now = run.now)
    (members : ∀ entry ∈ next.deposits ++ next.grants,
      entry ∈ run.deposits ++ run.grants ∨ entry = ⟨run.now, run.generation⟩)
    (earlier : ∀ past, past < run.generation →
      credit budget next.deposits next.grants past =
        credit budget run.deposits run.grants past)
    (writerEq : writer = credit budget next.deposits next.grants run.generation) :
    Ledger next := by
  have dated := ledger.dated.record (by rw [stateEq]) generationEq nowEq members
  obtain ⟨state, generation, now, deposits, grants⟩ := next
  cases stateEq
  cases generationEq
  refine ⟨ledger.filled, ?_, ledger.index, writerEq, dated⟩
  exact ledger.ring.mono fun past value before held => held.trans (earlier past before).symm

theorem Ledger.recordDeposit (ledger : Ledger run)
    (exact : saturatingAdd run.state.writer budget.depositAmount =
      run.state.writer + budget.depositAmount) : Ledger run.recordDeposit := by
  refine ledger.record rfl rfl rfl ?_ ?_ ?_
  · intro entry member
    simp only [BudgetRun.recordDeposit, List.cons_append, List.mem_cons] at member
    exact member.symm
  · intro past before
    simp only [BudgetRun.recordDeposit, credit]
    rw [countIn_cons_of_ne (Nat.ne_of_gt before)]
  · have writer := ledger.writer
    simp only [BudgetRun.recordDeposit, credit, countIn_cons, if_true] at writer ⊢
    rw [exact, writer]
    push_cast [mul_add]
    omega

theorem Ledger.recordGrant (ledger : Ledger run)
    (exact : saturatingSub run.state.writer budget.withdrawAmount =
      run.state.writer - budget.withdrawAmount) : Ledger run.recordGrant := by
  refine ledger.record rfl rfl rfl ?_ ?_ ?_
  · intro entry member
    simp only [BudgetRun.recordGrant, List.mem_append, List.mem_cons] at member ⊢
    tauto
  · intro past before
    simp only [BudgetRun.recordGrant, credit, debit]
    rw [countIn_cons_of_ne (Nat.ne_of_gt before)]
  · have writer := ledger.writer
    simp only [BudgetRun.recordGrant, credit, debit, countIn_cons, if_true] at writer ⊢
    rw [exact, writer]
    push_cast [mul_add]
    omega

theorem Ledger.move {operation : BudgetOperation} (ledger : Ledger run)
    (unsaturated : Unsaturated run operation) (move : BudgetMove run operation next) :
    Ledger next := by
  cases move with
  | deposited later => exact (ledger.advance later).recordDeposit unsaturated
  | granted later covered =>
    exact (ledger.advance later).recordGrant (unsaturated.2 covered)
  | refused later => exact ledger.advance later

theorem foldl_add_eq_sum {balances : List Int} {amount : Nat → Int}
    (amounts : ∀ index (inside : index < balances.length), balances[index] = amount index) :
    balances.foldl (· + ·) 0 = ∑ index ∈ Finset.range balances.length, amount index := by
  induction balances using List.reverseRecOn with
  | nil => rfl
  | append_singleton balances balance ih =>
    have last := amounts balances.length (by simp)
    rw [List.getElem_concat_length rfl] at last
    have earlier := ih fun index inside => by
      have atIndex := amounts index (by simp; omega)
      rwa [List.getElem_append_left inside] at atIndex
    rw [List.foldl_concat, earlier, List.length_append, List.length_singleton,
      Finset.sum_range_succ, last]

/-- The slots hold the amounts of the generations in the ring. -/
theorem Ledger.windowed_eq (ledger : Ledger run) :
    run.state.buckets.toList.foldl (· + ·) 0 =
      ∑ generation ∈ Finset.Ico (run.generation - budget.slots) run.generation,
        credit budget run.deposits run.grants generation := by
  obtain ⟨generationOf, located, sumOver⟩ := exists_generationOf ledger.filled
  rw [← sumOver]
  have slots := @foldl_add_eq_sum run.state.buckets.toList
    fun slot => credit budget run.deposits run.grants (generationOf slot)
  simp only [Vector.length_toList] at slots
  refine slots fun slot inside => ?_
  have within : slot < budget.slots := by simpa using inside
  obtain ⟨before, recent, remainder⟩ := located slot within
  have held := ledger.ring (generationOf slot) (remainder.symm ▸ within) before recent
  simp only [remainder] at held
  rw [Vector.getElem_toList]
  exact held

/-- A balance is the reserve and the amounts of the retained entries. -/
theorem Ledger.plainSum_eq (ledger : Ledger run) :
    budget.plainSum run.state =
      budget.reserve + budget.depositAmount * (run.counted run.deposits).length -
        budget.withdrawAmount * (run.counted run.grants).length := by
  have grantsEq := BudgetRun.sum_retained ledger.filled fun entry member =>
    ledger.dated.past entry (List.mem_append_right _ member)
  have depositsEq := BudgetRun.sum_retained ledger.filled fun entry member =>
    ledger.dated.past entry (List.mem_append_left _ member)
  simp only [BudgetRun.counted, ← List.countP_eq_length_filter]
  rw [← grantsEq, ← depositsEq, Budget.plainSum, ledger.writer, ledger.windowed_eq]
  simp only [credit, debit, Finset.sum_sub_distrib]
  push_cast [mul_add, Finset.mul_sum]
  omega

theorem BudgetRun.mem_counted {entry : Entry} {entries : List Entry} :
    entry ∈ run.counted entries ↔ entry ∈ entries ∧ run.Retained entry := by
  rw [BudgetRun.counted, List.mem_filter, decide_eq_true_iff]

end Ledgers

theorem ledger_of_run {run : BudgetRun budget.slots} {createdAt : Nat}
    {operations : List BudgetOperation}
    (unsaturated : Guarded (budgetStep budget) Unsaturated
      (BudgetRun.start budget createdAt) operations)
    (reaches : Transition.run (budgetStep budget)
      (BudgetRun.start budget createdAt) operations = some run) : Ledger run :=
  invariant_of_guarded_run Ledger
    (fun _ _ _ unsaturated ledger steps =>
      ledger.move unsaturated (budgetMove_of_budgetStep steps))
    (ledger_start budget createdAt) unsaturated reaches

/-- The balance that a withdrawal is checked against, in a run that saturates nothing. -/
theorem sum_counted {run : BudgetRun budget.slots} {createdAt time : Nat}
    {operations : List BudgetOperation}
    (unsaturated : Guarded (budgetStep budget) Unsaturated
      (BudgetRun.start budget createdAt) (operations ++ [⟨.withdraw, time⟩]))
    (reaches : Transition.run (budgetStep budget)
      (BudgetRun.start budget createdAt) operations = some run)
    (later : run.now ≤ time) :
    budget.sum (budget.advance run.state time) =
      budget.reserve +
        budget.depositAmount * ((run.advance time).counted run.deposits).length -
          budget.withdrawAmount * ((run.advance time).counted run.grants).length := by
  have advanced := (ledger_of_run unsaturated.initial reaches).advance later
  exact (unsaturated.last reaches).1.trans advanced.plainSum_eq

/-- What a withdrawal is checked against are the reserve and the amounts of some of the
operations, none of them older than the time to live and one slot. -/
theorem sum_withinLifetime (float : FloatDivision) (ttl minPerSec : Nat)
    (retryPercent : ℚ) (budget : Budget)
    (created : Budget.new float ttl minPerSec retryPercent = some budget)
    (createdAt : Nat) (operations : List BudgetOperation) (time : Nat)
    (run : BudgetRun budget.slots)
    (unsaturated : Guarded (budgetStep budget) Unsaturated
      (BudgetRun.start budget createdAt) (operations ++ [⟨.withdraw, time⟩]))
    (reaches : Transition.run (budgetStep budget)
      (BudgetRun.start budget createdAt) operations = some run)
    (later : run.now ≤ time) :
    ∃ deposits grants : List Entry,
      deposits.Sublist run.deposits ∧ grants.Sublist run.grants ∧
      (∀ entry ∈ deposits ++ grants,
        time < entry.time + (ttl + budget.slotDuration)) ∧
      budget.sum (budget.advance run.state time) =
        budget.reserve + budget.depositAmount * deposits.length -
          budget.withdrawAmount * grants.length := by
  have advanced := (ledger_of_run unsaturated.initial reaches).advance later
  refine ⟨(run.advance time).counted run.deposits, (run.advance time).counted run.grants,
    List.filter_sublist, List.filter_sublist, ?_, sum_counted unsaturated reaches later⟩
  intro entry member
  rw [BudgetRun.counted, BudgetRun.counted, ← List.filter_append] at member
  obtain ⟨recorded, retained⟩ := BudgetRun.mem_counted.mp member
  exact advanced.dated.retained_recent (Budget.new_ring_le_ttl created) recorded retained

/-- A deposit, and a granted withdrawal 120 ms later.  The balance of 900 ms after the
deposit counts both. -/
def withdrawnAfter : BudgetRun exampleBudget.slots where
  state :=
    { buckets := #v[1, 0, 0, 0, 0, 0, 0, 0, 0, 0]
      writer := -1
      genIndex := (2 : Fin 10)
      genTime := 120000000 }
  generation := 12
  now := 120000000
  deposits := [⟨0, 10⟩]
  grants := [⟨120000000, 12⟩]

theorem sum_withinLifetime_withdrawnAfter :
    ∃ deposits grants : List Entry,
      deposits.Sublist withdrawnAfter.deposits ∧ grants.Sublist withdrawnAfter.grants ∧
      (∀ entry ∈ deposits ++ grants,
        900000000 < entry.time + (nanosPerSec + exampleBudget.slotDuration)) ∧
      exampleBudget.sum (exampleBudget.advance withdrawnAfter.state 900000000) =
        exampleBudget.reserve + exampleBudget.depositAmount * deposits.length -
          exampleBudget.withdrawAmount * grants.length :=
  sum_withinLifetime .exact nanosPerSec 1 1 exampleBudget new_exampleBudget 0
    [⟨.deposit, 0⟩, ⟨.withdraw, 120000000⟩] 900000000 withdrawnAfter
    (by decide +kernel) (by decide +kernel) (by decide)

/-- The beginning of the slot in progress after operations at the given times. -/
def beganAt (slot : Nat) : Nat → List Nat → Nat
  | began, [] => began
  | began, time :: times =>
    beganAt slot (if time - began < slot then began else time) times

/-- The slots that operations at the given times move the ring by: an interval of a slot
or more is rounded up to whole slots, and the next one begins with the operation. -/
def slotsPassed (slot : Nat) : Nat → List Nat → Nat
  | _, [] => 0
  | began, time :: times =>
    if time - began < slot then
      slotsPassed slot began times
    else
      (time - began) ⌈/⌉ slot + slotsPassed slot time times

section Lifetimes

variable {run next last : BudgetRun budget.slots}

theorem budgetStep_clock {operation : BudgetOperation}
    (steps : budgetStep budget run operation = some next) :
    next.now = operation.time ∧
      next.generation = run.generation +
        budget.rotations (operation.time - run.state.genTime) ∧
      next.state.genTime =
        if operation.time - run.state.genTime < budget.slotDuration then
          run.state.genTime
        else
          operation.time := by
  have genTimeEq := Budget.advance_genTime run.state operation.time
  cases budgetMove_of_budgetStep steps <;> exact ⟨rfl, rfl, genTimeEq⟩

theorem run_genTime {operations : List BudgetOperation}
    (reaches : Transition.run (budgetStep budget) run operations = some last) :
    last.state.genTime = beganAt budget.slotDuration run.state.genTime
      (operations.map BudgetOperation.time) := by
  induction operations generalizing run with
  | nil =>
    cases reaches
    rfl
  | cons operation operations ih =>
    obtain ⟨next, steps, rest⟩ := run_cons_eq_some.mp reaches
    rw [ih rest, (budgetStep_clock steps).2.2]
    rfl

theorem run_generation_le {operations : List BudgetOperation}
    (reaches : Transition.run (budgetStep budget) run operations = some last) :
    run.generation ≤ last.generation :=
  invariant_of_run (fun current => run.generation ≤ current.generation)
    (fun _ _ _ le steps => (budgetStep_clock steps).2.1 ▸ le.trans (Nat.le_add_right _ _))
    le_rfl reaches

theorem run_deposits {entry : Entry} {operations : List BudgetOperation}
    (member : entry ∈ run.deposits)
    (reaches : Transition.run (budgetStep budget) run operations = some last) :
    entry ∈ last.deposits := by
  refine invariant_of_run (fun current => entry ∈ current.deposits) ?_ member reaches
  intro current operation next member steps
  cases budgetMove_of_budgetStep steps with
  | deposited => exact List.mem_cons_of_mem _ member
  | granted => exact member
  | refused => exact member

/-- The ring moves by the elapsed time rounded up, but never by more than its slots and
the one that is committed. -/
theorem rotations_eq_ceilDiv {elapsed : Nat} (moved : ¬ elapsed < budget.slotDuration) :
    budget.rotations elapsed = min (budget.slots + 1) (elapsed ⌈/⌉ budget.slotDuration) := by
  have roundedUp : elapsed ⌈/⌉ budget.slotDuration =
      1 + (elapsed - 1) / budget.slotDuration := by
    have slotPos := budget.slotDurationPos
    rw [Nat.ceilDiv_eq_add_pred_div, Nat.add_comm 1, ← Nat.add_div_right _ slotPos]
    congr 1
    omega
  rw [Budget.rotations, if_neg moved, roundedUp]
  omega

/-- Whether the ring has moved by more than `bound` slots can be told from the times. -/
theorem generation_le_iff_slotsPassed {operations : List BudgetOperation}
    {time bound : Nat} (inRing : bound ≤ budget.slots)
    (reaches : Transition.run (budgetStep budget) run operations = some last) :
    (last.advance time).generation ≤ run.generation + bound ↔
      slotsPassed budget.slotDuration run.state.genTime
        (operations.map BudgetOperation.time ++ [time]) ≤ bound := by
  induction operations generalizing run bound with
  | nil =>
    cases reaches
    simp only [BudgetRun.advance, List.map_nil, List.nil_append, slotsPassed]
    by_cases early : time - last.state.genTime < budget.slotDuration
    · rw [if_pos early, Budget.rotations, if_pos early]
      omega
    · rw [if_neg early, rotations_eq_ceilDiv early]
      omega
  | cons operation operations ih =>
    obtain ⟨next, steps, rest⟩ := run_cons_eq_some.mp reaches
    obtain ⟨-, generationEq, genTimeEq⟩ := budgetStep_clock steps
    simp only [List.map_cons, List.cons_append, slotsPassed]
    by_cases early : operation.time - run.state.genTime < budget.slotDuration
    · rw [Budget.rotations, if_pos early, Nat.add_zero] at generationEq
      rw [if_pos early] at genTimeEq ⊢
      rw [← generationEq, ← genTimeEq]
      exact ih inRing rest
    · rw [rotations_eq_ceilDiv early] at generationEq
      rw [if_neg early] at genTimeEq ⊢
      have onward : next.generation ≤ (last.advance time).generation :=
        (run_generation_le rest).trans (Nat.le_add_right _ _)
      have remaining := @ih next
        (bound - (operation.time - run.state.genTime) ⌈/⌉ budget.slotDuration)
        (by omega) rest
      rw [genTimeEq] at remaining
      -- Either this interval alone exceeds the bound, or the others have what it leaves.
      omega

end Lifetimes

/-- A deposit is counted in a balance exactly as long as the slots that have passed since,
with each interval rounded up, fit into the ring.  In a run that saturates nothing, the
balance is the reserve and the amounts of the operations counted. -/
theorem deposit_counted_iff (budget : Budget) (createdAt : Nat)
    (before between : List BudgetOperation) (depositedAt time : Nat)
    (earlier deposited run : BudgetRun budget.slots)
    (found : Transition.run (budgetStep budget)
      (BudgetRun.start budget createdAt) before = some earlier)
    (deposits : budgetStep budget earlier ⟨.deposit, depositedAt⟩ = some deposited)
    (reaches : Transition.run (budgetStep budget) deposited between = some run)
    (later : run.now ≤ time) :
    (⟨depositedAt, deposited.generation⟩ ∈ (run.advance time).counted run.deposits ↔
      slotsPassed budget.slotDuration
        (beganAt budget.slotDuration createdAt
          (before.map BudgetOperation.time ++ [depositedAt]))
        (between.map BudgetOperation.time ++ [time]) ≤ budget.slots) ∧
    (Guarded (budgetStep budget) Unsaturated (BudgetRun.start budget createdAt)
        ((before ++ ⟨.deposit, depositedAt⟩ :: between) ++ [⟨.withdraw, time⟩]) →
      budget.sum (budget.advance run.state time) =
        budget.reserve +
          budget.depositAmount * ((run.advance time).counted run.deposits).length -
            budget.withdrawAmount * ((run.advance time).counted run.grants).length) := by
  have foundDeposited : Transition.run (budgetStep budget)
      (BudgetRun.start budget createdAt) (before ++ [⟨.deposit, depositedAt⟩]) =
        some deposited := run_concat_eq_some.mpr ⟨earlier, found, deposits⟩
  constructor
  · have recorded : ⟨depositedAt, deposited.generation⟩ ∈ deposited.deposits := by
      cases budgetMove_of_budgetStep deposits
      exact List.mem_cons_self
    have genTimeEq := run_genTime foundDeposited
    rw [List.map_append, List.map_cons, List.map_nil] at genTimeEq
    rw [BudgetRun.mem_counted, and_iff_right (run_deposits recorded reaches),
      BudgetRun.Retained, generation_le_iff_slotsPassed le_rfl reaches, genTimeEq]
    rfl
  · intro unsaturated
    refine sum_counted unsaturated ?_ later
    rw [List.append_cons, run_append, foundDeposited]
    exact reaches

/-- Six deposits, 110 ms apart. -/
def depositsEverySlot : List BudgetOperation :=
  (List.range 6).map fun deposit => ⟨.deposit, deposit * 110000000⟩

/-- Each deposit moved the ring by two slots. -/
def depositedEverySlot : BudgetRun exampleBudget.slots where
  state :=
    { buckets := #v[1, 0, 1, 0, 1, 0, 1, 0, 1, 0]
      writer := 1
      genIndex := (0 : Fin 10)
      genTime := 550000000 }
  generation := 20
  now := 550000000
  deposits :=
    [⟨550000000, 20⟩, ⟨440000000, 18⟩, ⟨330000000, 16⟩, ⟨220000000, 14⟩,
      ⟨110000000, 12⟩, ⟨0, 10⟩]
  grants := []

/-- The state that the first of the deposits leaves. -/
def depositedFirst : BudgetRun exampleBudget.slots :=
  (BudgetRun.start exampleBudget 0).recordDeposit

theorem deposit_counted_iff_depositedEverySlot :
    (⟨0, depositedFirst.generation⟩ ∈
        (depositedEverySlot.advance 600000000).counted depositedEverySlot.deposits ↔
      slotsPassed exampleBudget.slotDuration
        (beganAt exampleBudget.slotDuration 0 [0])
        (depositsEverySlot.tail.map BudgetOperation.time ++ [600000000]) ≤
          exampleBudget.slots) ∧
    (Guarded (budgetStep exampleBudget) Unsaturated (BudgetRun.start exampleBudget 0)
        (([] ++ ⟨.deposit, 0⟩ :: depositsEverySlot.tail) ++ [⟨.withdraw, 600000000⟩]) →
      exampleBudget.sum (exampleBudget.advance depositedEverySlot.state 600000000) =
        exampleBudget.reserve +
          exampleBudget.depositAmount * ((depositedEverySlot.advance 600000000).counted
            depositedEverySlot.deposits).length -
          exampleBudget.withdrawAmount * ((depositedEverySlot.advance 600000000).counted
            depositedEverySlot.grants).length) :=
  deposit_counted_iff exampleBudget 0 [] depositsEverySlot.tail 0 600000000
    (BudgetRun.start exampleBudget 0) depositedFirst depositedEverySlot rfl
    (by decide +kernel) (by decide +kernel) (by decide)

/-- The balance 660 ms after the first deposit no longer counts it, although the time to
live is one second: it is the reserve and the five deposits made since. -/
theorem deposit_uncounted :
    Budget.new .exact nanosPerSec 1 1 = some exampleBudget ∧
    Transition.run (budgetStep exampleBudget) (.start exampleBudget 0)
        depositsEverySlot = some depositedEverySlot ∧
      depositedEverySlot.now ≤ 660000000 ∧
      660000000 + exampleBudget.slotDuration < 0 + nanosPerSec ∧
      ⟨0, depositedFirst.generation⟩ ∉
        (depositedEverySlot.advance 660000000).counted depositedEverySlot.deposits ∧
      exampleBudget.sum (exampleBudget.advance depositedEverySlot.state 660000000) =
        exampleBudget.reserve + exampleBudget.depositAmount * 5 :=
  ⟨new_exampleBudget, by decide +kernel, by decide, by decide, by decide +kernel,
    by decide +kernel⟩

end Wrest.RetryBudget
