import Wrest.RetryBudgetWindow

/-!
# The capped rotation of the retry budget

`advance` clears no more slots than the ring has.  A loop without this cap, which goes on
for every slot that has elapsed, clears the same slots but ends at another position when
more of them have elapsed than there are.  The ring is empty then.  From there on the two
rings hold the same balances, one of them rotated.

A balance adds the slots up in the order of their positions, and each addition saturates.
Rotated rings therefore give the same balance if no addition over the slots is cut off, but
may give different ones otherwise.
-/

namespace Wrest.RetryBudget

open SlotRing Transition

/-- The ring with one slot set to a balance. -/
def setSlot {slots : Nat} (buckets : Vector Int slots) (index : Fin slots) (balance : Int) :
    Vector Int slots :=
  buckets.set index balance index.isLt

namespace Budget

variable (budget : Budget)

/-- The clearing loop without the cap.  An iteration takes at least a nanosecond off, so
`remaining` of them are enough. -/
def clearUncapped (buckets : Vector Int budget.slots) (remaining : Nat)
    (index : Fin budget.slots) : Vector Int budget.slots × Fin budget.slots :=
  budget.clearElapsed buckets remaining remaining index

def advanceUncapped (state : BudgetState budget.slots) (now : Nat) :
    BudgetState budget.slots :=
  let elapsed := now - state.genTime
  if elapsed < budget.slotDuration then
    state
  else
    let committed := setSlot state.buckets state.genIndex state.writer
    let (buckets, index) :=
      clearUncapped budget committed elapsed (budget.nextIndex state.genIndex)
    { buckets, writer := 0, genIndex := index, genTime := now }

/-- One operation, with the answer of a withdrawal. -/
def operate (state : BudgetState budget.slots) (operation : BudgetOperation) :
    Option Bool × BudgetState budget.slots :=
  match operation.call with
  | .deposit => (none, budget.deposit state operation.time)
  | .withdraw =>
    let (granted, state) := budget.withdraw state operation.time
    (some granted, state)

/-- What an operation does after `advance`. -/
def perform (advanced : BudgetState budget.slots) :
    BudgetCall → Option Bool × BudgetState budget.slots
  | .deposit =>
    (none,
      { advanced with writer := saturatingAdd advanced.writer budget.depositAmount })
  | .withdraw =>
    if budget.sum advanced ≥ budget.withdrawAmount then
      (some true,
        { advanced with
          writer := saturatingSub advanced.writer budget.withdrawAmount })
    else
      (some false, advanced)

/-- The same operation over the uncapped loop. -/
def operateUncapped (state : BudgetState budget.slots) (operation : BudgetOperation) :
    Option Bool × BudgetState budget.slots :=
  budget.perform (budget.advanceUncapped state operation.time) operation.call

end Budget

/-- The answers of the withdrawals among the operations. -/
def answers {slots : Nat}
    (operate : BudgetState slots → BudgetOperation → Option Bool × BudgetState slots) :
    BudgetState slots → List BudgetOperation → List Bool
  | _, [] => []
  | state, operation :: operations =>
    let (answer, next) := operate state operation
    answer.toList ++ answers operate next operations

/-- The capped and the uncapped budget perform the same operation. -/
def lockstep (budget : Budget)
    (pair : BudgetState budget.slots × BudgetState budget.slots)
    (operation : BudgetOperation) :
    Option (BudgetState budget.slots × BudgetState budget.slots) :=
  some ((budget.operate pair.1 operation).2, (budget.operateUncapped pair.2 operation).2)

/-- No saturating addition over the slots is cut off. -/
def Uncut {slots : Nat} (buckets : Vector Int slots) : Prop :=
  buckets.toList.foldl saturatingAdd 0 = buckets.toList.foldl (· + ·) 0

instance {slots : Nat} (buckets : Vector Int slots) : Decidable (Uncut buckets) :=
  inferInstanceAs (Decidable (_ = _))

/-- A withdrawal that finds the rings at different positions cuts off neither sum. -/
def UncutWhereApart (budget : Budget)
    (pair : BudgetState budget.slots × BudgetState budget.slots)
    (operation : BudgetOperation) : Prop :=
  let capped := budget.advance pair.1 operation.time
  let uncapped := budget.advanceUncapped pair.2 operation.time
  operation.call = .withdraw → capped.genIndex ≠ uncapped.genIndex →
    Uncut capped.buckets ∧ Uncut uncapped.buckets

instance (budget : Budget) (pair : BudgetState budget.slots × BudgetState budget.slots)
    (operation : BudgetOperation) : Decidable (UncutWhereApart budget pair operation) :=
  inferInstanceAs (Decidable (_ → _ → _))

/-- The second state is the first with its ring moved by `shift` slots. -/
structure Matched {slots : Nat} (shift : Nat) (capped uncapped : BudgetState slots) :
    Prop where
  ring : Rotated shift capped.buckets uncapped.buckets
  index : uncapped.genIndex.val = (capped.genIndex + shift) % slots
  writer : capped.writer = uncapped.writer
  genTime : capped.genTime = uncapped.genTime

variable {budget : Budget}

theorem operate_eq_perform (state : BudgetState budget.slots)
    (operation : BudgetOperation) :
    budget.operate state operation =
      budget.perform (budget.advance state operation.time) operation.call := by
  obtain ⟨call, time⟩ := operation
  cases call with
  | deposit => rfl
  | withdraw =>
    simp only [Budget.operate, Budget.perform, Budget.withdraw]
    split <;> rfl

section Loops

variable {buckets : Vector Int budget.slots} {index : Fin budget.slots}
  {iterations remaining : Nat}

/-- The cap makes no difference while it is not reached. -/
theorem clearElapsed_of_enough {others : Nat}
    (enough : (remaining - 1) / budget.slotDuration ≤ iterations)
    (othersEnough : (remaining - 1) / budget.slotDuration ≤ others) :
    budget.clearElapsed buckets iterations remaining index =
      budget.clearElapsed buckets others remaining index := by
  induction iterations generalizing buckets remaining index others with
  | zero =>
    have within : remaining ≤ budget.slotDuration := by
      by_contra more
      rw [budget.pred_div_of_not_le more] at enough
      exact Nat.not_succ_le_zero _ enough
    cases others <;> simp [Budget.clearElapsed, within]
  | succ iterations ih =>
    by_cases within : remaining ≤ budget.slotDuration
    · cases others <;> simp [Budget.clearElapsed, within]
    · rw [budget.pred_div_of_not_le within] at enough othersEnough
      cases others with
      | zero => exact absurd othersEnough (Nat.not_succ_le_zero _)
      | succ others =>
        rw [Budget.clearElapsed, Budget.clearElapsed, if_neg within, if_neg within]
        exact ih (Nat.le_of_succ_le_succ enough) (Nat.le_of_succ_le_succ othersEnough)

theorem clearElapsed_eq_clearUncapped
    (enough : (remaining - 1) / budget.slotDuration ≤ iterations) :
    budget.clearElapsed buckets iterations remaining index =
      budget.clearUncapped buckets remaining index :=
  clearElapsed_of_enough enough ((Nat.div_le_self _ _).trans (Nat.sub_le _ _))

/-- A loop that clears as many slots as there are leaves an empty ring. -/
theorem clearElapsed_cleared (buckets : Vector Int budget.slots)
    (index : Fin budget.slots) (whole : budget.slots ≤ iterations)
    (elapsed : budget.slots ≤ (remaining - 1) / budget.slotDuration) :
    (budget.clearElapsed buckets iterations remaining index).1 =
      Vector.replicate budget.slots 0 := by
  -- Only the generations from this one on are said to be empty.
  have empty : Retains (fun past value => budget.slots + index ≤ past → value = 0)
      buckets (budget.slots + index) := by
    intro past bound before recent later
    omega
  have indexEq : index.val = (budget.slots + index) % budget.slots := by
    rw [Nat.add_mod_left, Nat.mod_eq_of_lt index.isLt]
  obtain ⟨cleared, -⟩ := Budget.clearElapsed_retains iterations remaining empty indexEq
    fun _ _ _ => rfl
  obtain ⟨generationOf, located, -⟩ := exists_generationOf
    (by omega : budget.slots ≤ budget.slots + index +
      min iterations ((remaining - 1) / budget.slotDuration))
  ext slot inside
  obtain ⟨before, recent, remainder⟩ := located slot inside
  have held := cleared (generationOf slot) (remainder.symm ▸ inside) before recent (by omega)
  simp only [remainder] at held
  rw [held, Vector.getElem_replicate]

theorem nextIndex_rotated {image : Fin budget.slots} {shift : Nat}
    (imageEq : image.val = (index + shift) % budget.slots) :
    (budget.nextIndex image).val = (budget.nextIndex index + shift) % budget.slots := by
  simp only [Budget.nextIndex, imageEq, Nat.mod_add_mod]
  rw [Nat.add_right_comm]

/-- The loop clears rotated rings alike. -/
theorem clearElapsed_rotated {shift : Nat} {rotated : Vector Int budget.slots}
    {image : Fin budget.slots} (iterations remaining : Nat)
    (ring : Rotated shift buckets rotated)
    (imageEq : image.val = (index + shift) % budget.slots) :
    let cleared := budget.clearElapsed buckets iterations remaining index
    let clearedRotated := budget.clearElapsed rotated iterations remaining image
    Rotated shift cleared.1 clearedRotated.1 ∧
      clearedRotated.2.val = (cleared.2 + shift) % budget.slots := by
  induction iterations generalizing buckets rotated remaining index image with
  | zero => exact ⟨ring, imageEq⟩
  | succ iterations ih =>
    simp only [Budget.clearElapsed]
    split
    · exact ⟨ring, imageEq⟩
    · exact ih (remaining - budget.slotDuration) (ring.set index image imageEq 0)
        (nextIndex_rotated imageEq)

end Loops

/-- Both rings are empty. -/
def Cleared {slots : Nat} (pair : BudgetState slots × BudgetState slots) : Prop :=
  pair.1.buckets = Vector.replicate slots 0 ∧ pair.2.buckets = Vector.replicate slots 0

/-- The states are still the same up to the rotation between their rings, and either the
rotation is still the same or the rings are empty. -/
def Follows {slots : Nat} (shift : Nat) (pair : BudgetState slots × BudgetState slots) :
    Prop :=
  Matched shift pair.1 pair.2 ∨ Cleared pair ∧ ∃ other, Matched other pair.1 pair.2

section Bisimulation

variable {shift : Nat} {capped uncapped : BudgetState budget.slots}

theorem exists_shift {slots : Nat} (first second : Fin slots) :
    ∃ shift, second.val = (first + shift) % slots := by
  refine ⟨second + (slots - first), ?_⟩
  have regrouped : first.val + (second + (slots - first)) = second + slots := by omega
  rw [regrouped, Nat.add_mod_right, Nat.mod_eq_of_lt second.isLt]

theorem Matched.advance (matched : Matched shift capped uncapped) (time : Nat) :
    Follows shift (budget.advance capped time, budget.advanceUncapped uncapped time) := by
  simp only [Follows, Budget.advance, Budget.advanceUncapped, setSlot, ← matched.genTime]
  by_cases early : time - capped.genTime < budget.slotDuration
  · rw [if_pos early, if_pos early]
    exact .inl matched
  · rw [if_neg early, if_neg early, ← matched.writer]
    by_cases reached : (time - capped.genTime - 1) / budget.slotDuration ≤ budget.slots
    · left
      rw [← clearElapsed_eq_clearUncapped reached]
      obtain ⟨ring, index⟩ := clearElapsed_rotated budget.slots (time - capped.genTime)
        (matched.ring.set capped.genIndex uncapped.genIndex matched.index capped.writer)
        (nextIndex_rotated matched.index)
      exact ⟨ring, index, rfl, rfl⟩
    · right
      have elapsed := Nat.le_of_not_le reached
      have whole : budget.slots ≤ time - capped.genTime :=
        elapsed.trans ((Nat.div_le_self _ _).trans (Nat.sub_le _ _))
      have cappedCleared := clearElapsed_cleared
        (capped.buckets.set capped.genIndex capped.writer)
        (budget.nextIndex capped.genIndex) le_rfl elapsed
      have uncappedCleared := clearElapsed_cleared
        (uncapped.buckets.set uncapped.genIndex capped.writer)
        (budget.nextIndex uncapped.genIndex) whole elapsed
      refine ⟨⟨cappedCleared, uncappedCleared⟩, ?_⟩
      obtain ⟨other, index⟩ := exists_shift _ _
      refine ⟨other, ?_, index, rfl, rfl⟩
      simp only [Budget.clearUncapped, cappedCleared, uncappedCleared]
      exact rotated_replicate other 0

/-- Where the rings are apart, equal balances need sums that do not depend on the order. -/
theorem Matched.sum_eq (matched : Matched shift capped uncapped)
    (uncut : capped.genIndex ≠ uncapped.genIndex →
      Uncut capped.buckets ∧ Uncut uncapped.buckets) :
    budget.sum capped = budget.sum uncapped := by
  have windowed : capped.buckets.toList.foldl saturatingAdd 0 =
      uncapped.buckets.toList.foldl saturatingAdd 0 := by
    by_cases together : capped.genIndex = uncapped.genIndex
    · have fixed : (capped.genIndex + shift) % budget.slots = capped.genIndex := by
        rw [← matched.index, together]
      rw [matched.ring.eq_of_fixed capped.genIndex.isLt fixed]
    · obtain ⟨cappedUncut, uncappedUncut⟩ := uncut together
      calc capped.buckets.toList.foldl saturatingAdd 0
          = capped.buckets.toList.foldl (· + ·) 0 := cappedUncut
        _ = uncapped.buckets.toList.foldl (· + ·) 0 := matched.ring.perm.foldl_eq 0
        _ = uncapped.buckets.toList.foldl saturatingAdd 0 := uncappedUncut.symm
  rw [Budget.sum, Budget.sum, matched.writer, windowed]

theorem Matched.setWriter (matched : Matched shift capped uncapped) (writer : Int) :
    Matched shift { capped with writer := writer } { uncapped with writer := writer } :=
  ⟨matched.ring, matched.index, rfl, matched.genTime⟩

theorem Matched.perform (matched : Matched shift capped uncapped) (call : BudgetCall)
    (sumEq : call = .withdraw → budget.sum capped = budget.sum uncapped) :
    (budget.perform capped call).1 = (budget.perform uncapped call).1 ∧
      Matched shift (budget.perform capped call).2 (budget.perform uncapped call).2 := by
  cases call with
  | deposit =>
    refine ⟨rfl, ?_⟩
    simp only [Budget.perform, ← matched.writer]
    exact matched.setWriter _
  | withdraw =>
    simp only [Budget.perform, ← sumEq rfl, ← matched.writer]
    split
    · exact ⟨rfl, matched.setWriter _⟩
    · exact ⟨rfl, matched⟩

theorem perform_buckets (advanced : BudgetState budget.slots) (call : BudgetCall) :
    (budget.perform advanced call).2.buckets = advanced.buckets := by
  cases call with
  | deposit => rfl
  | withdraw =>
    simp only [Budget.perform]
    split <;> rfl

/-- What one operation preserves, and the answer it gives. -/
theorem lockstep_follows {operation : BudgetOperation}
    {next : BudgetState budget.slots × BudgetState budget.slots}
    (matched : Matched shift capped uncapped)
    (uncut : UncutWhereApart budget (capped, uncapped) operation)
    (steps : lockstep budget (capped, uncapped) operation = some next) :
    (budget.operate capped operation).1 = (budget.operateUncapped uncapped operation).1 ∧
      Follows shift next := by
  cases steps
  simp only [operate_eq_perform, Budget.operateUncapped]
  have performs {other : Nat}
      (advanced : Matched other (budget.advance capped operation.time)
        (budget.advanceUncapped uncapped operation.time)) :=
    advanced.perform operation.call fun withdrawal => advanced.sum_eq (uncut withdrawal)
  rcases matched.advance operation.time with same | ⟨cleared, other, changed⟩
  · obtain ⟨answerEq, performed⟩ := performs same
    exact ⟨answerEq, .inl performed⟩
  · obtain ⟨answerEq, performed⟩ := performs changed
    refine ⟨answerEq, .inr ⟨?_, other, performed⟩⟩
    simpa only [Cleared, perform_buckets] using cleared

theorem Follows.exists_matched {pair : BudgetState budget.slots × BudgetState budget.slots}
    (follows : Follows shift pair) : ∃ other, Matched other pair.1 pair.2 :=
  follows.elim (fun same => ⟨shift, same⟩) And.right

end Bisimulation

theorem answers_eq_of_matched {capped uncapped : BudgetState budget.slots}
    {operations : List BudgetOperation}
    (matched : ∃ shift, Matched shift capped uncapped)
    (uncut : Guarded (lockstep budget) (UncutWhereApart budget) (capped, uncapped)
      operations) :
    answers budget.operate capped operations =
      answers budget.operateUncapped uncapped operations := by
  induction operations generalizing capped uncapped with
  | nil => rfl
  | cons operation operations ih =>
    obtain ⟨shift, matched⟩ := matched
    obtain ⟨answerEq, follows⟩ := lockstep_follows matched uncut.1 rfl
    simp only [answers, answerEq]
    rw [ih follows.exists_matched (uncut.2 _ rfl)]

/-- The capped loop gives the same answers as the uncapped one, as long as no withdrawal
that finds the rings at different positions has a sum over the slots that is cut off.  The
rings are rotations of each other throughout, and the rotation between them changes only in
a step that leaves both empty. -/
theorem answers_capped_eq_uncapped (budget : Budget) (state : BudgetState budget.slots)
    (operations : List BudgetOperation)
    (uncut : Guarded (lockstep budget) (UncutWhereApart budget) (state, state) operations) :
    answers budget.operate state operations =
        answers budget.operateUncapped state operations ∧
      ∀ before operation after pair next,
        operations = before ++ operation :: after →
        Transition.run (lockstep budget) (state, state) before = some pair →
        lockstep budget pair operation = some next →
        ∃ shift, Matched shift pair.1 pair.2 ∧ Follows shift next := by
  have matched : Matched 0 state state := by
    refine ⟨rotated_zero state.buckets, ?_, rfl, rfl⟩
    rw [Nat.add_zero, Nat.mod_eq_of_lt state.genIndex.isLt]
  refine ⟨answers_eq_of_matched ⟨0, matched⟩ uncut, ?_⟩
  rintro before operation after pair next rfl reaches steps
  obtain ⟨shift, matchedPair⟩ := invariant_of_guarded_run
    (fun pair => ∃ shift, Matched shift pair.1 pair.2)
    (fun _ _ _ uncut ⟨_, matched⟩ steps =>
      (lockstep_follows matched uncut steps).2.exists_matched)
    ⟨0, matched⟩ uncut.initial reaches
  rw [List.append_cons] at uncut
  exact ⟨shift, matchedPair,
    (lockstep_follows matchedPair (uncut.initial.last reaches) steps).2⟩

/-- After 1.9 s without an operation the rings are at the second slot and at the tenth.  A
deposit and three attempts to withdraw follow. -/
def resumed : List BudgetOperation :=
  [⟨.deposit, 1900000000⟩, ⟨.withdraw, 2000000000⟩, ⟨.withdraw, 2100000000⟩,
    ⟨.withdraw, 2200000000⟩]

theorem answers_capped_eq_uncapped_resumed :
    answers exampleBudget.operate (exampleBudget.initialState 0) resumed =
        answers exampleBudget.operateUncapped (exampleBudget.initialState 0) resumed ∧
      ∀ before operation after pair next,
        resumed = before ++ operation :: after →
        Transition.run (lockstep exampleBudget)
          (exampleBudget.initialState 0, exampleBudget.initialState 0) before = some pair →
        lockstep exampleBudget pair operation = some next →
        ∃ shift, Matched shift pair.1 pair.2 ∧ Follows shift next :=
  answers_capped_eq_uncapped exampleBudget (exampleBudget.initialState 0) resumed
    (by decide +kernel)

section Saturated

/-- A budget whose withdrawals take half of what an `isize` holds, and whose reserve is
all of it. -/
def scarceBudget : Budget :=
  { exampleBudget with
    reserve := isizeMax
    withdrawAmount := 2 ^ 62
    reserveNonneg := by decide
    withdrawNonneg := by decide }

/-- Deposits of a resumed run that make up for one withdrawal and one token more, and four
attempts to withdraw. -/
def scarceOperations : List BudgetOperation :=
  ⟨.deposit, 1900000000⟩ :: List.replicate (2 ^ 62) ⟨.deposit, 1900000000⟩ ++
    [⟨.withdraw, 2000000000⟩, ⟨.withdraw, 2000000000⟩, ⟨.withdraw, 2100000000⟩,
      ⟨.withdraw, 2200000000⟩]

/-- The state after the suspension, with the given position and writer. -/
def scarceState (index : Fin 10) (writer : Int) : BudgetState scarceBudget.slots where
  buckets := Vector.replicate 10 0
  writer := writer
  genIndex := index
  genTime := 1900000000

theorem answers_cons_of_none {slots : Nat} {state next : BudgetState slots}
    {operate : BudgetState slots → BudgetOperation → Option Bool × BudgetState slots}
    {operation : BudgetOperation} (silent : operate state operation = (none, next))
    (operations : List BudgetOperation) :
    answers operate state (operation :: operations) = answers operate next operations := by
  simp only [answers, silent]
  rfl

theorem answers_replicate {slots : Nat} {state : Int → BudgetState slots}
    {operate : BudgetState slots → BudgetOperation → Option Bool × BudgetState slots}
    {operation : BudgetOperation} {limit : Int}
    (deposits : ∀ writer, 0 ≤ writer → writer < limit →
      operate (state writer) operation = (none, state (writer + 1)))
    (operations : List BudgetOperation) (count : Nat) (writer : Int)
    (nonneg : 0 ≤ writer) (fits : writer + count ≤ limit) :
    answers operate (state writer) (List.replicate count operation ++ operations) =
      answers operate (state (writer + count)) operations := by
  induction count generalizing writer with
  | zero => simp
  | succ count ih =>
    rw [List.replicate_succ, List.cons_append,
      answers_cons_of_none (deposits writer nonneg (by omega)),
      ih (writer + 1) (by omega) (by omega)]
    congr 2
    omega

/-- Neither loop runs at the time of the last operation, and a deposit adds a token. -/
theorem perform_deposit_scarceState (index : Fin 10) {writer : Int} (nonneg : 0 ≤ writer)
    (fits : writer < isizeMax) :
    scarceBudget.perform (scarceState index writer) .deposit =
      (none, scarceState index (writer + 1)) := by
  have exact : saturatingAdd writer 1 = writer + 1 := by
    unfold isizeMax at fits
    unfold saturatingAdd saturate isizeMin isizeMax
    omega
  simp only [Budget.perform, scarceState, scarceBudget, exampleBudget, exact]

/-- In the uncapped ring the withdrawals come before the deposits, so that their sum is cut
off at the least `isize` and the last attempt is granted. -/
theorem answers_capped_ne_uncapped :
    Budget.new .exact nanosPerSec 2 (1 / 2 ^ 62) = some scarceBudget ∧
      answers scarceBudget.operate (scarceBudget.initialState 0) scarceOperations =
        [true, true, true, false] ∧
      answers scarceBudget.operateUncapped (scarceBudget.initialState 0)
        scarceOperations = [true, true, true, true] := by
  have capped : ∀ writer, 0 ≤ writer → writer < isizeMax →
      scarceBudget.operate (scarceState 1 writer) ⟨.deposit, 1900000000⟩ =
        (none, scarceState 1 (writer + 1)) :=
    fun _ nonneg fits => perform_deposit_scarceState 1 nonneg fits
  have uncapped : ∀ writer, 0 ≤ writer → writer < isizeMax →
      scarceBudget.operateUncapped (scarceState 9 writer) ⟨.deposit, 1900000000⟩ =
        (none, scarceState 9 (writer + 1)) :=
    fun _ nonneg fits => perform_deposit_scarceState 9 nonneg fits
  refine ⟨by decide +kernel, ?_, ?_⟩ <;> rw [scarceOperations, List.cons_append]
  · rw [answers_cons_of_none (by decide +kernel : _ = (none, scarceState 1 1)),
      answers_replicate capped _ _ 1 (by decide) (by decide)]
    decide +kernel
  · rw [answers_cons_of_none (by decide +kernel : _ = (none, scarceState 9 1)),
      answers_replicate uncapped _ _ 1 (by decide) (by decide)]
    decide +kernel

end Saturated

end Wrest.RetryBudget
