import Wrest.LastWrites
import Wrest.RetryExecution

/-!
# Building retry policies

A retry builder starts with a scope, or from the default that retries reset connections,
and its setters replace one part each.  The number of attempts that `execute` makes with
the policy is determined by the setters that came last.
-/

namespace Wrest

/-- `WSAECONNRESET`, which the standard library maps to a reset connection. -/
def WSAECONNRESET : Nat := 10054

/-- Whether the chain of sources holds the I/O error of a reset connection; what the boxed
errors of other crates hold is given. -/
def ErrorSource.isConnectionReset (foreign : String → Bool) : ErrorSource → Bool
  | .message _ | .writeZero _ | .signalCancelled => false
  | .io code => code = Win32.ERROR_WINHTTP_CONNECTION_ERROR ∨ code = WSAECONNRESET
  | .foreign text => foreign text
  | .context _ source => source.isConnectionReset foreign
  | .error _ none _ _ => false
  | .error _ (some source) _ _ => source.isConnectionReset foreign

def Error.isConnectionReset (foreign : String → Bool) (error : Error) : Bool :=
  error.source.any (·.isConnectionReset foreign)

namespace Retry

open LastWrites

variable {Response Uri : Type}

/-- The fraction of extra load that a budget allows. -/
abbrev ExtraLoad : Type := { percent : ℚ // 0 ≤ percent ∧ percent ≤ 1000 }

structure Builder (Uri : Type) where
  budget : Option ExtraLoad
  classify : Option (ReqRep Uri → Option Action)
  maxRetriesPerRequest : Nat
  scope : Option (Url → String → Option Bool)

def ReqRep.isProtocolNack (foreign : String → Bool) (reqRep : ReqRep Uri) : Bool :=
  match reqRep.result with
  | .error error => error.isConnectionReset foreign
  | .ok _ => false

namespace Builder

def scopedTo (scope : Url → String → Option Bool) : Builder Uri where
  budget := some ⟨1 / 5, by norm_num⟩
  classify := none
  maxRetriesPerRequest := 2
  scope := some scope

/-- The host is compared by the caller's type. -/
def forHost (isHost : String → Bool) : Builder Uri :=
  scopedTo fun url _ => some (isHost url.host)

def noBudget (builder : Builder Uri) : Builder Uri :=
  { builder with budget := none }

def never : Builder Uri :=
  (scopedTo fun _ _ => some false).noBudget

/-- The result is nothing when an assertion fails; nothing also stands for a percentage
that is not a number. -/
def maxExtraLoad (builder : Builder Uri) (extraPercent : Option ℚ) :
    Option (Builder Uri) :=
  extraPercent.bind fun percent =>
    if valid : 0 ≤ percent ∧ percent ≤ 1000 then
      some { builder with budget := some ⟨percent, valid⟩ }
    else none

def maxRetries (builder : Builder Uri) (max : Nat) : Builder Uri :=
  { builder with maxRetriesPerRequest := max }

def classifyFn (builder : Builder Uri) (classify : ReqRep Uri → Option Action) :
    Builder Uri :=
  { builder with classify := some classify }

def default (foreign : String → Bool) : Builder Uri where
  budget := none
  classify := some fun reqRep =>
    some (if reqRep.isProtocolNack foreign then .retryable else .success)
  maxRetriesPerRequest := 2
  scope := none

def intoPolicy (float : RetryBudget.FloatDivision) (builder : Builder Uri) : Policy Uri where
  budget := builder.budget.bind fun percent =>
    RetryBudget.Budget.new float (10 * RetryBudget.nanosPerSec) 10 percent
  classify := builder.classify
  maxRetriesPerRequest := builder.maxRetriesPerRequest
  scope := builder.scope

/-- The budget of a percentage in range can be created. -/
theorem intoPolicy_budget_isSome (float : RetryBudget.FloatDivision)
    (builder : Builder Uri) :
    (builder.intoPolicy float).budget.isSome = builder.budget.isSome := by
  cases budget : builder.budget with
  | none => simp [intoPolicy, budget]
  | some percent =>
    have valid : RetryBudget.nanosPerSec ≤ 10 * RetryBudget.nanosPerSec ∧
        10 * RetryBudget.nanosPerSec ≤ 60 * RetryBudget.nanosPerSec ∧
        0 ≤ percent.val ∧ percent.val ≤ 1000 :=
      ⟨by decide, by decide, percent.property⟩
    simp only [intoPolicy, budget, Option.bind_some, RetryBudget.Budget.new, dif_pos valid]
    rfl

/-- A call of a setter. -/
inductive Call (Uri : Type)
  | noBudget
  | maxExtraLoad (extraPercent : Option ℚ)
  | maxRetriesPerRequest (max : Nat)
  | classifyFn (classify : ReqRep Uri → Option Action)

def apply (builder : Builder Uri) : Call Uri → Option (Builder Uri)
  | .noBudget => some builder.noBudget
  | .maxExtraLoad extraPercent => builder.maxExtraLoad extraPercent
  | .maxRetriesPerRequest max => some (builder.maxRetries max)
  | .classifyFn classify => some (builder.classifyFn classify)

def applyAll (builder : Builder Uri) (calls : List (Call Uri)) : Option (Builder Uri) :=
  calls.foldlM apply builder

namespace Call

def max? : Call Uri → Option Nat
  | .maxRetriesPerRequest max => some max
  | _ => none

def classify? : Call Uri → Option (ReqRep Uri → Option Action)
  | .classifyFn classify => some classify
  | _ => none

/-- The extra load that the call leaves to the budget.  One that an assertion stops leaves
no builder. -/
def extraLoad? : Call Uri → Option (Option ExtraLoad)
  | .noBudget => some none
  | .maxExtraLoad extraPercent =>
    some (extraPercent.bind fun percent =>
      if valid : 0 ≤ percent ∧ percent ≤ 1000 then some ⟨percent, valid⟩ else none)
  | _ => none

/-- The extra load after all calls. -/
def lastLoad (first : Option ExtraLoad) (calls : List (Call Uri)) : Option ExtraLoad :=
  (lastWrite extraLoad? calls).getD first

end Call

theorem apply_eq_some {builder next : Builder Uri} {call : Call Uri}
    (applies : apply builder call = some next) :
    next.maxRetriesPerRequest = call.max?.getD builder.maxRetriesPerRequest ∧
      next.classify = call.classify?.or builder.classify ∧
      next.budget = call.extraLoad?.getD builder.budget ∧
      next.scope = builder.scope := by
  cases call with
  | noBudget | maxRetriesPerRequest max | classifyFn classify =>
    cases applies
    exact ⟨rfl, rfl, rfl, rfl⟩
  | maxExtraLoad extraPercent =>
    rw [apply, maxExtraLoad, Option.bind_eq_some_iff] at applies
    obtain ⟨percent, rfl, built⟩ := applies
    split at built
    · rename_i valid
      cases built
      refine ⟨rfl, rfl, ?_, rfl⟩
      rw [Call.extraLoad?, Option.bind_some, dif_pos valid, Option.getD_some]
    · cases built

/-- The parts of a builder after its setters. -/
theorem applyAll_eq_some {builder built : Builder Uri} {calls : List (Call Uri)}
    (applied : applyAll builder calls = some built) :
    built.maxRetriesPerRequest =
        (lastWrite Call.max? calls).getD builder.maxRetriesPerRequest ∧
      built.classify = (lastWrite Call.classify? calls).or builder.classify ∧
      built.budget = Call.lastLoad builder.budget calls ∧
      built.scope = builder.scope :=
  ⟨foldlM_getD maxRetriesPerRequest (fun _ _ _ applies => (apply_eq_some applies).1) applied,
    foldlM_or Builder.classify (fun _ _ _ applies => (apply_eq_some applies).2.1) applied,
    foldlM_getD Builder.budget (fun _ _ _ applies => (apply_eq_some applies).2.2.1) applied,
    foldlM_keeps Builder.scope (fun _ _ _ applies => (apply_eq_some applies).2.2.2) applied⟩

end Builder

theorem leading_congr {condition other : Nat → Bool}
    (same : ∀ number, condition number = other number) (limit first : Nat) :
    leading condition limit first = leading other limit first := by
  rw [funext same]

theorem leading_eq_zero {condition : Nat → Bool} (never : ∀ number, condition number = false)
    (limit first : Nat) : leading condition limit first = 0 := by
  cases limit with
  | zero => rfl
  | succ limit => rw [leading, never first, if_neg Bool.false_ne_true]

section Attempts

variable {call : Call Response Uri}

def AttemptOutcome.result? : AttemptOutcome Response → Option (Except Error Response)
  | .returned result => some result
  | .abandoned => none

/-- No closure of the policy panics. -/
def Policy.IsTotal (policy : Policy Uri) (Response : Type) : Prop :=
  ∀ (conversions : Conversions Response Uri) url method result,
    policy.classifyResult conversions url method result ≠ none

/-- A call whose closures do not panic returns what its last attempt returned. -/
theorem execute_result (call : Call Response Uri)
    (total : call.policy.IsTotal Response) :
    (execute call).result = (call.outcome ((execute call).attempts - 1)).result? := by
  obtain ⟨returned, unreturned⟩ := execute_returned call
  rw [← execute_withdrawals, Nat.add_sub_cancel]
  cases resultEq : (execute call).result with
  | some result => rw [returned result resultEq, AttemptOutcome.result?]
  | none =>
    rcases unreturned resultEq with abandoned | ⟨-, -, result, -, panics⟩
    · rw [← Nat.zero_add (execute call).withdrawals, abandoned, AttemptOutcome.result?]
    · exact absurd panics (total _ _ _ _)

end Attempts

section Policies

variable {call : Call Response Uri} {float : RetryBudget.FloatDivision}
variable {foreign : String → Bool}

/-- The attempt failed because the connection was reset. -/
def Call.resets (call : Call Response Uri) (foreign : String → Bool) (attempt : Nat) : Bool :=
  match call.outcome attempt with
  | .returned (.error error) => error.isConnectionReset foreign
  | _ => false

theorem classifyResult_default (conversions : Conversions Response Uri) (url : Url)
    (method : String) (result : Except Error Response) :
    ((Builder.default foreign).intoPolicy float).classifyResult conversions url method
        result =
      some (match conversions.toHttpUri url, result with
        | some _, .error error =>
          if error.isConnectionReset foreign then .retryable else .success
        | _, _ => .success) := by
  simp only [Policy.classifyResult, Policy.inScope, Builder.intoPolicy, Builder.default,
    ReqRep.new]
  cases conversions.toHttpUri url with
  | none => rfl
  | some uri =>
    cases result with
    | ok response => rfl
    | error error => rfl

theorem retries_default
    (isDefault : call.policy = (Builder.default foreign).intoPolicy float) (attempt : Nat) :
    call.retries attempt =
      ((call.conversions.toHttpUri call.url).isSome && call.resets foreign attempt) := by
  have grants (answer : Bool) : call.policy.canWithdraw answer = true := by
    rw [isDefault]
    rfl
  unfold Call.retries Call.resets
  cases call.outcome attempt with
  | abandoned => exact (Bool.and_false _).symm
  | returned result =>
    simp only [grants, Bool.and_true]
    rw [isDefault, classifyResult_default]
    cases call.conversions.toHttpUri call.url with
    | none => rfl
    | some uri =>
      cases result with
      | ok response => rfl
      | error error =>
        simp only [Option.isSome_some, Bool.true_and]
        cases error.isConnectionReset foreign <;> rfl

/-- By default a call is repeated as long as the connection is reset, but at most twice,
and without any budget.  It returns what its last attempt returned. -/
theorem execute_default (call : Call Response Uri)
    (isDefault : call.policy = (Builder.default foreign).intoPolicy float) :
    let repeats :=
      if call.streams || (call.conversions.toHttpUri call.url).isNone then 0
      else leading (call.resets foreign) 2 0
    (execute call).attempts = repeats + 1 ∧ (execute call).deposits = 0 ∧
      (execute call).result = (call.outcome repeats).result? := by
  have noBudget : call.policy.budget = none := isDefault ▸ rfl
  have total : call.policy.IsTotal Response := by
    intro conversions url method result panics
    rw [isDefault, classifyResult_default] at panics
    cases panics
  have attempts : (execute call).attempts =
      (if call.streams || (call.conversions.toHttpUri call.url).isNone then 0
        else leading (call.resets foreign) 2 0) + 1 := by
    have maxRetries : call.policy.maxRetries = 2 := isDefault ▸ rfl
    rw [execute_attempts, maxRetries, leading_congr (retries_default isDefault)]
    cases call.streams with
    | true => rfl
    | false =>
      cases call.conversions.toHttpUri call.url with
      | none => rfl
      | some uri => rfl
  refine ⟨attempts, ?_, ?_⟩
  · rw [execute_deposits, noBudget]
    rfl
  · rw [execute_result call total, attempts, Nat.add_sub_cancel]

/-- A server that resets the first two connections, and answers the third attempt. -/
def resetTwice : Call Unit Unit where
  policy := (Builder.default fun _ => false).intoPolicy .exact
  conversions := { toHttpUri := fun _ => some (), status := fun _ => 200 }
  url := bareUrl true
  method := "GET"
  body := none
  outcome := fun attempt =>
    if attempt < 2 then .returned (.error (Error.fromWin32 12030)) else .returned (.ok ())
  answer := fun _ => false

theorem execute_default_resetTwice :
    (execute resetTwice).attempts = 3 ∧ (execute resetTwice).deposits = 0 ∧
      (execute resetTwice).result = some (.ok ()) :=
  execute_default resetTwice
    (rfl : resetTwice.policy = (Builder.default fun _ => false).intoPolicy .exact)

/-- The attempt returned a result that the classifier repeats, and the budget, if there is
one, grants it. -/
def Call.repeatedBy (call : Call Response Uri) (classify : ReqRep Uri → Option Action)
    (budgeted : Bool) (attempt : Nat) : Bool :=
  match call.outcome attempt with
  | .abandoned => false
  | .returned result =>
    match ReqRep.new call.conversions call.url call.method result with
    | none => false
    | some reqRep => classify reqRep == some .retryable && (!budgeted || call.answer attempt)

theorem Policy.canWithdraw_eq (policy : Policy Uri) (answer : Bool) :
    policy.canWithdraw answer = (!policy.budget.isSome || answer) := by
  unfold canWithdraw
  cases policy.budget <;> simp

/-- Out of scope nothing is repeated, and in scope what the classifier says. -/
theorem retries_of_scope {scope : Url → String → Option Bool} {inside : Bool}
    (scopeEq : call.policy.scope = some scope)
    (inScope : scope call.url call.method = some inside) (attempt : Nat) :
    call.retries attempt =
      (inside && call.policy.classify.any fun classify =>
        call.repeatedBy classify call.policy.budget.isSome attempt) := by
  unfold Call.retries Call.repeatedBy
  cases call.outcome attempt with
  | abandoned =>
    cases call.policy.classify <;> cases inside <;> rfl
  | returned result =>
    simp only [Policy.classifyResult, Policy.inScope, scopeEq, inScope]
    cases inside with
    | false => rfl
    | true =>
      cases call.policy.classify with
      | none => rfl
      | some classify =>
        simp only [Option.any_some, Bool.true_and]
        cases ReqRep.new call.conversions call.url call.method result with
        | none => rfl
        | some reqRep => simp only [Policy.canWithdraw_eq]

/-- The extra load of a policy without any setting. -/
def aFifth : ExtraLoad :=
  ⟨1 / 5, by norm_num⟩

/-- How often the setters say that a call in scope is repeated. -/
def Call.repeats (call : Call Response Uri) (calls : List (Builder.Call Uri)) : Nat :=
  (lastWrite Builder.Call.classify? calls).elim 0 fun classify =>
    leading (call.repeatedBy classify (Builder.Call.lastLoad (some aFifth) calls).isSome)
      ((lastWrite Builder.Call.max? calls).getD 2) 0

/-- The budget for an extra load in the last ten seconds. -/
def ExtraLoad.budget (float : RetryBudget.FloatDivision) (percent : ExtraLoad) :
    Option RetryBudget.Budget :=
  RetryBudget.Budget.new float (10 * RetryBudget.nanosPerSec) 10 percent

theorem execute_scoped {scope : Url → String → Option Bool} {inside : Bool}
    {calls : List (Builder.Call Uri)} {built : Builder Uri}
    (isBuilt : call.policy = built.intoPolicy float)
    (applied : (Builder.scopedTo scope).applyAll calls = some built)
    (inScope : scope call.url call.method = some inside) :
    call.policy.budget =
        (Builder.Call.lastLoad (some aFifth) calls).bind (ExtraLoad.budget float) ∧
      (execute call).attempts =
        (if call.streams || !inside then 0 else call.repeats calls) + 1 ∧
      (execute call).deposits =
        if (Builder.Call.lastLoad (some aFifth) calls).isSome then 1 else 0 := by
  obtain ⟨maxEq, classifyEq, budgetEq, scopeEq⟩ := Builder.applyAll_eq_some applied
  have hasScope : call.policy.scope = some scope := isBuilt ▸ scopeEq
  have classifier : call.policy.classify = lastWrite Builder.Call.classify? calls := by
    rw [isBuilt, Builder.intoPolicy, classifyEq]
    exact Option.or_none
  have maxRetries : call.policy.maxRetries = (lastWrite Builder.Call.max? calls).getD 2 := by
    rw [isBuilt]
    exact maxEq
  have load : built.budget = Builder.Call.lastLoad (some aFifth) calls := budgetEq
  have budgeted : call.policy.budget.isSome =
      (Builder.Call.lastLoad (some aFifth) calls).isSome := by
    rw [isBuilt, Builder.intoPolicy_budget_isSome, load]
  have retries := retries_of_scope hasScope inScope
  rw [classifier, budgeted] at retries
  refine ⟨?_, ?_, ?_⟩
  · rw [isBuilt, ← load]
    rfl
  · rw [execute_attempts, maxRetries, leading_congr retries, Call.repeats]
    cases inside with
    | false =>
      rw [Bool.not_false, Bool.or_true, if_pos rfl]
      simp only [Bool.false_and]
      rw [leading_eq_zero (fun _ => rfl), ite_self]
    | true =>
      rw [Bool.not_true, Bool.or_false]
      cases lastWrite Builder.Call.classify? calls with
      | none =>
        simp only [Option.any_none, Bool.and_false, Option.elim_none]
        rw [leading_eq_zero (fun _ => rfl)]
      | some classify =>
        simp only [Option.any_some, Bool.true_and, Option.elim_some]
  · rw [execute_deposits, budgeted]

theorem Builder.Call.lastLoad_noBudget (first : Option ExtraLoad)
    (calls : List (Builder.Call Uri)) :
    lastLoad first (.noBudget :: calls) = lastLoad none calls := by
  rw [lastLoad, lastWrite_cons, lastLoad]
  cases lastWrite extraLoad? calls <;> rfl

/-- Whatever is set later, the scope stays as it is.  In scope, a call is repeated as the
classifier and the limit that were set last say, and the last call for the budget decides
whether it is asked and the call is counted, and which budget it is.  A policy that began
with `never` repeats nothing. -/
theorem execute_scopedTo (call : Call Response Uri) {calls : List (Builder.Call Uri)}
    {built : Builder Uri} (isBuilt : call.policy = built.intoPolicy float) :
    (∀ scope inside, (Builder.scopedTo scope).applyAll calls = some built →
      scope call.url call.method = some inside →
      call.policy.budget =
          (Builder.Call.lastLoad (some aFifth) calls).bind (ExtraLoad.budget float) ∧
        (execute call).attempts =
          (if call.streams || !inside then 0 else call.repeats calls) + 1 ∧
        (execute call).deposits =
          if (Builder.Call.lastLoad (some aFifth) calls).isSome then 1 else 0) ∧
    (Builder.never.applyAll calls = some built →
      call.policy.budget =
          (Builder.Call.lastLoad none calls).bind (ExtraLoad.budget float) ∧
        (execute call).attempts = 1 ∧
        (execute call).deposits =
          if (Builder.Call.lastLoad none calls).isSome then 1 else 0) := by
  refine ⟨fun scope inside => execute_scoped isBuilt, fun applied => ?_⟩
  have outOfScope : (Builder.scopedTo fun _ _ => some false).applyAll (.noBudget :: calls) =
      some built := applied
  obtain ⟨budget, attempts, deposits⟩ := execute_scoped isBuilt outOfScope rfl
  rw [Builder.Call.lastLoad_noBudget] at budget deposits
  refine ⟨budget, ?_, deposits⟩
  rw [attempts, Bool.not_false, Bool.or_true, if_pos rfl]

/-- Setters of which the first limit, classifier and budget are replaced later. -/
def replacing (builder : Builder Unit) : Builder Unit :=
  ((((builder.maxRetries 5).classifyFn fun _ => some .success).noBudget).classifyFn
    fun _ => some .retryable).maxRetries 1

def oneHost : Builder Unit :=
  replacing (.forHost fun host => host == "a")

def resetTwiceUnder (builder : Builder Unit) : Call Unit Unit :=
  { resetTwice with policy := builder.intoPolicy .exact }

theorem execute_scopedTo_oneHost :
    ((resetTwiceUnder oneHost).policy.budget = none ∧
        (execute (resetTwiceUnder oneHost)).attempts = 2 ∧
        (execute (resetTwiceUnder oneHost)).deposits = 0) ∧
      (resetTwiceUnder (replacing .never)).policy.budget = none ∧
        (execute (resetTwiceUnder (replacing .never))).attempts = 1 ∧
        (execute (resetTwiceUnder (replacing .never))).deposits = 0 := by
  have calls {builder : Builder Unit} : builder.applyAll
      [.maxRetriesPerRequest 5, .classifyFn fun _ => some .success, .noBudget,
        .classifyFn fun _ => some .retryable, .maxRetriesPerRequest 1] =
      some (replacing builder) := rfl
  have inScope : some ((resetTwiceUnder oneHost).url.host == "a") = some true := rfl
  exact ⟨(execute_scopedTo (resetTwiceUnder oneHost) rfl).1 _ true calls inScope,
    (execute_scopedTo (resetTwiceUnder (replacing .never)) rfl).2 calls⟩

end Policies

end Retry

end Wrest
