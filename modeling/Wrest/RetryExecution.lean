import Wrest.RequestBodies
import Wrest.RetryBudget

/-!
# The retry loop of `Client::execute`

One call of `execute` makes one or more attempts.  After an attempt whose result
is classified as retryable it asks the retry budget for a withdrawal and, when
granted, tries again.  A guard deposits into the budget when the call ends, on
whichever path: a returned result, a panic, or the drop of the future.

What is outside the loop is arbitrary here: the outcome of each attempt, the
classifier and the scope of the policy, and the answer of the budget, which
other requests use at the same time.
-/

namespace Wrest.Retry

variable {Response Uri : Type}

inductive Action
  | success
  | retryable
deriving DecidableEq, Repr

/-- A request/response pair for classification. -/
structure ReqRep (Uri : Type) where
  uri : Uri
  method : String
  result : Except Error Nat

/-- The resolved retry policy.  The closures are the user's, and `none` is a
panic of a closure. -/
structure Policy (Uri : Type) where
  budget : Option RetryBudget.Budget
  classify : Option (ReqRep Uri → Option Action)
  maxRetriesPerRequest : Nat
  scope : Option (Url → String → Option Bool)

/-- What classification needs of a URL and of a response. -/
structure Conversions (Response Uri : Type) where
  toHttpUri : Url → Option Uri
  status : Response → Nat

def ReqRep.new (conversions : Conversions Response Uri) (url : Url)
    (method : String) (result : Except Error Response) : Option (ReqRep Uri) :=
  (conversions.toHttpUri url).map fun uri =>
    { uri, method, result := result.map conversions.status }

namespace Policy

/-- The check of the scope, which comes first; `none` is a panic. -/
def inScope (policy : Policy Uri) (url : Url) (method : String) : Option Bool :=
  match policy.scope with
  | some scope => scope url method
  | none => some true

/-- Classify whether a request result should be retried; `none` is a panic. -/
def classifyResult (policy : Policy Uri) (conversions : Conversions Response Uri)
    (url : Url) (method : String) (result : Except Error Response) :
    Option Action :=
  match policy.inScope url method with
  | none => none
  | some false => some .success
  | some true =>
    match policy.classify with
    | none => some .success
    | some classify =>
      match ReqRep.new conversions url method result with
      | none => some .success
      | some reqRep => classify reqRep

/-- Try to withdraw a retry token, where `answer` is what the budget says. -/
def canWithdraw (policy : Policy Uri) (answer : Bool) : Bool :=
  match policy.budget with
  | none => true
  | some _ => answer

def maxRetries (policy : Policy Uri) : Nat :=
  policy.maxRetriesPerRequest

theorem inScope_of_retryable {policy : Policy Uri}
    {conversions : Conversions Response Uri} {url : Url} {method : String}
    {result : Except Error Response}
    (retryable : policy.classifyResult conversions url method result =
      some .retryable) :
    policy.inScope url method = some true := by
  unfold classifyResult at retryable
  cases scope : policy.inScope url method with
  | none => rw [scope] at retryable; cases retryable
  | some inside =>
    cases inside with
    | true => rfl
    | false => rw [scope] at retryable; cases retryable

end Policy

/-- What one attempt comes to: a result, or an end without one, when the future
is dropped during the attempt or the attempt panics. -/
inductive AttemptOutcome (Response : Type)
  | returned (result : Except Error Response)
  | abandoned

/-- What `execute` does to the outside, in order. -/
inductive ExecuteEvent
  | attempt (body : Option Body)
  | canWithdraw (granted : Bool)
  | deposit

namespace ExecuteEvent

def isAttempt : ExecuteEvent → Bool
  | .attempt _ => true
  | _ => false

def isWithdrawal : ExecuteEvent → Bool
  | .canWithdraw granted => granted
  | _ => false

def isDeposit : ExecuteEvent → Bool
  | .deposit => true
  | _ => false

end ExecuteEvent

/-- The events of one call and its result, if it returned one. -/
structure Execution (Response : Type) where
  events : List ExecuteEvent
  result : Option (Except Error Response)

namespace Execution

def prepend (events : List ExecuteEvent) (rest : Execution Response) :
    Execution Response where
  events := events ++ rest.events
  result := rest.result

/-- The guard that runs when the call ends. -/
def deposit (policy : Policy Uri) (execution : Execution Response) :
    Execution Response :=
  match policy.budget with
  | none => execution
  | some _ => { execution with events := execution.events ++ [.deposit] }

def attempts (execution : Execution Response) : Nat :=
  execution.events.countP ExecuteEvent.isAttempt

def withdrawals (execution : Execution Response) : Nat :=
  execution.events.countP ExecuteEvent.isWithdrawal

def deposits (execution : Execution Response) : Nat :=
  execution.events.countP ExecuteEvent.isDeposit

section Counts

variable (execution : Execution Response) (body : Option Body)

theorem attempts_prepend_retry :
    (execution.prepend [.attempt body, .canWithdraw true]).attempts =
      execution.attempts + 1 := by
  simp [attempts, prepend, List.countP_cons, ExecuteEvent.isAttempt]

theorem withdrawals_prepend_retry :
    (execution.prepend [.attempt body, .canWithdraw true]).withdrawals =
      execution.withdrawals + 1 := by
  simp [withdrawals, prepend, List.countP_cons, ExecuteEvent.isWithdrawal]

theorem deposits_prepend_retry :
    (execution.prepend [.attempt body, .canWithdraw true]).deposits =
      execution.deposits := by
  simp [deposits, prepend, ExecuteEvent.isDeposit]

variable (policy : Policy Uri)

theorem deposit_result : (execution.deposit policy).result = execution.result := by
  unfold deposit
  cases policy.budget <;> rfl

theorem attempts_deposit : (execution.deposit policy).attempts = execution.attempts := by
  unfold deposit
  cases policy.budget with
  | none => rfl
  | some budget => simp [attempts, ExecuteEvent.isAttempt]

theorem withdrawals_deposit :
    (execution.deposit policy).withdrawals = execution.withdrawals := by
  unfold deposit
  cases policy.budget with
  | none => rfl
  | some budget => simp [withdrawals, ExecuteEvent.isWithdrawal]

theorem deposits_deposit :
    (execution.deposit policy).deposits =
      execution.deposits + if policy.budget.isSome then 1 else 0 := by
  unfold deposit
  cases policy.budget with
  | none => rfl
  | some budget => simp [deposits, ExecuteEvent.isDeposit]

/-- The guard adds neither an attempt nor a withdrawal. -/
theorem events_deposit {before after : List ExecuteEvent} {event : ExecuteEvent}
    (other : event ≠ .deposit)
    (eventsEq : (execution.deposit policy).events = before ++ event :: after) :
    ∃ rest, execution.events = before ++ event :: rest := by
  unfold deposit at eventsEq
  cases budgetEq : policy.budget with
  | none =>
    rw [budgetEq] at eventsEq
    exact ⟨after, eventsEq⟩
  | some budget =>
    rw [budgetEq] at eventsEq
    rcases List.eq_nil_or_concat after with rfl | ⟨rest, last, rfl⟩
    · have lastEq := (List.append_inj' eventsEq rfl).2
      cases lastEq
      exact absurd rfl other
    · rw [List.concat_eq_append, ← List.cons_append, ← List.append_assoc] at eventsEq
      exact ⟨rest, (List.append_inj' eventsEq rfl).1⟩

end Counts

end Execution

/-- The parts of a request that the loop uses, with the outside of the loop: the
outcome of the attempt of each number and the budget's answer after it. -/
structure Call (Response Uri : Type) where
  policy : Policy Uri
  conversions : Conversions Response Uri
  url : Url
  method : String
  body : Option Body
  outcome : Nat → AttemptOutcome Response
  answer : Nat → Bool

variable (call : Call Response Uri)

/-- The body to send next, and whether another attempt could follow. -/
def bodyToSend (remainingRetries : Nat) : Option Body × Bool :=
  if remainingRetries > 0 then
    match call.body with
    | some body =>
      match body.tryClone with
      | some cloned => (some cloned, true)
      | none => (some body, false)
    | none => (none, true)
  else
    (call.body, false)

/-- An attempt after which the call returns its result. -/
def finalAttempt (body : Option Body) (attempt : Nat) : Execution Response where
  events := [.attempt body]
  result :=
    match call.outcome attempt with
    | .returned result => some result
    | .abandoned => none

/-- The loop, with the number of retries left and the number of the attempt. -/
def retryLoop : Nat → Nat → Execution Response
  | 0, attempt => finalAttempt call (bodyToSend call 0).1 attempt
  | remainingRetries + 1, attempt =>
    match bodyToSend call (remainingRetries + 1) with
    | (body, false) => finalAttempt call body attempt
    | (body, true) =>
      match call.outcome attempt with
      | .abandoned => { events := [.attempt body], result := none }
      | .returned result =>
        match call.policy.classifyResult call.conversions call.url call.method result with
        | none => { events := [.attempt body], result := none }
        | some .success => { events := [.attempt body], result := some result }
        | some .retryable =>
          if call.policy.canWithdraw (call.answer attempt) then
            (retryLoop remainingRetries (attempt + 1)).prepend
              [.attempt body, .canWithdraw true]
          else
            { events := [.attempt body, .canWithdraw false], result := some result }

/-- `Client::execute` from its first poll.  Without retries the body is not
cloned at all. -/
def execute : Execution Response :=
  let execution :=
    if call.policy.maxRetries = 0 then
      finalAttempt call call.body 0
    else
      retryLoop call call.policy.maxRetries 0
  execution.deposit call.policy

variable {call}

def Call.streams (call : Call Response Uri) : Bool :=
  call.body.any Body.isStream

theorem bodyToSend_fst (remainingRetries : Nat) :
    (bodyToSend call remainingRetries).1 = call.body := by
  unfold bodyToSend
  split
  · cases bodyEq : call.body with
    | none => rfl
    | some body =>
      cases cloned : body.tryClone with
      | none => simp only [cloned]
      | some copy =>
        obtain ⟨-, rfl⟩ := Body.tryClone_eq_some.mp cloned
        simp only [cloned]
  · rfl

/-- A stream is never sent with another attempt to follow. -/
theorem bodyToSend_snd_of_streams (streams : call.streams = true)
    (remainingRetries : Nat) : (bodyToSend call remainingRetries).2 = false := by
  unfold bodyToSend
  split
  · cases bodyEq : call.body with
    | none =>
      rw [Call.streams, bodyEq] at streams
      cases streams
    | some body =>
      rw [Call.streams, bodyEq] at streams
      simp only [Body.tryClone_eq_none.mpr streams]
  · rfl

/-- A withdrawal after `made` attempts, counted from the attempt `first`, is one
that the loop may ask for: the body is no stream, fewer retries than permitted were
made, and the last attempt returned a result that is in scope and retryable. -/
def WithdrawalPermitted (call : Call Response Uri) (remainingRetries first made : Nat) :
    Prop :=
  call.streams = false ∧ ∃ retries, made = retries + 1 ∧ retries < remainingRetries ∧
    ∃ result, call.outcome (first + retries) = .returned result ∧
      call.policy.inScope call.url call.method = some true ∧
      call.policy.classifyResult call.conversions call.url call.method result =
        some .retryable

/-- The call ends without a result after so many retries: the attempt was abandoned, or
another one could follow it and a closure of the policy panics on its result. -/
def EndsWithout (call : Call Response Uri) (remainingRetries first retries : Nat) : Prop :=
  call.outcome (first + retries) = .abandoned ∨
    call.streams = false ∧ retries < remainingRetries ∧
      ∃ result, call.outcome (first + retries) = .returned result ∧
        call.policy.classifyResult call.conversions call.url call.method result = none

/-- What the loop guarantees, with the retries left and the number of its first
attempt. -/
structure LoopContract (call : Call Response Uri) (remainingRetries first : Nat)
    (execution : Execution Response) : Prop where
  attempts_le : execution.attempts ≤ remainingRetries + 1
  withdrawals : execution.withdrawals + 1 = execution.attempts
  deposits : execution.deposits = 0
  permitted : ∀ before granted after,
    execution.events = before ++ .canWithdraw granted :: after →
      WithdrawalPermitted call remainingRetries first
        (before.countP ExecuteEvent.isAttempt)
  returned : ∀ result, execution.result = some result →
    call.outcome (first + execution.withdrawals) = .returned result
  unreturned : execution.result = none →
    EndsWithout call remainingRetries first execution.withdrawals
  sent : ∀ body, .attempt body ∈ execution.events → body = call.body
  streamed : call.streams = true → execution.attempts = 1

theorem LoopContract.last {remainingRetries attempt : Nat}
    {result : Option (Except Error Response)}
    (resultEq : ∀ value, result = some value →
      call.outcome attempt = .returned value)
    (noResult : result = none → EndsWithout call remainingRetries attempt 0) :
    LoopContract call remainingRetries attempt
      { events := [.attempt call.body], result } where
  attempts_le := Nat.succ_le_succ (Nat.zero_le _)
  withdrawals := rfl
  deposits := rfl
  permitted := by
    intro before granted after eventsEq
    have member : ExecuteEvent.canWithdraw granted ∈
        before ++ .canWithdraw granted :: after := by simp
    rw [← eventsEq] at member
    simp at member
  returned := resultEq
  unreturned := noResult
  sent := by
    intro body member
    simpa using member
  streamed := fun _ => rfl

theorem LoopContract.ended {remainingRetries attempt : Nat}
    (ends : EndsWithout call remainingRetries attempt 0) :
    LoopContract call remainingRetries attempt
      { events := [.attempt call.body], result := none } :=
  .last (by simp) fun _ => ends

theorem finalAttempt_contract (remainingRetries attempt : Nat) :
    LoopContract call remainingRetries attempt
      (finalAttempt call call.body attempt) := by
  apply LoopContract.last
  · intro result resultEq
    cases outcome : call.outcome attempt with
    | returned value =>
      rw [outcome] at resultEq
      cases resultEq
      rfl
    | abandoned =>
      rw [outcome] at resultEq
      cases resultEq
  · intro resultEq
    cases outcome : call.outcome attempt with
    | returned value =>
      rw [outcome] at resultEq
      cases resultEq
    | abandoned => exact .inl outcome

theorem withdrawalPermitted_first {remainingRetries attempt : Nat}
    {result : Except Error Response} (notStream : call.streams = false)
    (returned : call.outcome attempt = .returned result)
    (retryable : call.policy.classifyResult call.conversions call.url call.method
      result = some .retryable) :
    WithdrawalPermitted call (remainingRetries + 1) attempt 1 :=
  ⟨notStream, 0, rfl, Nat.succ_pos _, result, returned,
    Policy.inScope_of_retryable retryable, retryable⟩

/-- A withdrawal of the rest of the loop is one of the whole loop. -/
theorem WithdrawalPermitted.next {remainingRetries attempt made : Nat}
    (permitted : WithdrawalPermitted call remainingRetries (attempt + 1) made) :
    WithdrawalPermitted call (remainingRetries + 1) attempt (made + 1) := by
  obtain ⟨notStream, retries, rfl, fewer, value, valueEq, scope, again⟩ := permitted
  refine ⟨notStream, retries + 1, rfl, Nat.succ_lt_succ fewer, value, ?_, scope, again⟩
  rw [← valueEq]
  congr 1
  omega

/-- The end of the rest of the loop is that of the whole loop. -/
theorem EndsWithout.next {remainingRetries attempt retries : Nat}
    (ends : EndsWithout call remainingRetries (attempt + 1) retries) :
    EndsWithout call (remainingRetries + 1) attempt (retries + 1) := by
  rw [EndsWithout, Nat.add_assoc, Nat.add_comm 1] at ends
  rcases ends with abandoned | ⟨notStream, fewer, panics⟩
  · exact .inl abandoned
  · exact .inr ⟨notStream, Nat.succ_lt_succ fewer, panics⟩

theorem LoopContract.refused {remainingRetries attempt : Nat}
    {result : Except Error Response} (notStream : call.streams = false)
    (returned : call.outcome attempt = .returned result)
    (retryable : call.policy.classifyResult call.conversions call.url call.method
      result = some .retryable) :
    LoopContract call (remainingRetries + 1) attempt
      { events := [.attempt call.body, .canWithdraw false]
        result := some result } where
  attempts_le := Nat.succ_le_succ (Nat.zero_le _)
  withdrawals := rfl
  deposits := rfl
  permitted := by
    rintro (_ | ⟨first, _ | ⟨second, before⟩⟩) granted after eventsEq
    · cases eventsEq
    · cases eventsEq
      exact withdrawalPermitted_first notStream returned retryable
    · simp at eventsEq
  returned := by
    intro value valueEq
    cases valueEq
    exact returned
  unreturned := nofun
  sent := by
    intro body member
    simpa using member
  streamed := fun streams => absurd streams (by simp [notStream])

theorem LoopContract.retried {remainingRetries attempt : Nat}
    {result : Except Error Response} {rest : Execution Response}
    (contract : LoopContract call remainingRetries (attempt + 1) rest)
    (notStream : call.streams = false)
    (returned : call.outcome attempt = .returned result)
    (retryable : call.policy.classifyResult call.conversions call.url call.method
      result = some .retryable) :
    LoopContract call (remainingRetries + 1) attempt
      (rest.prepend [.attempt call.body, .canWithdraw true]) := by
  constructor
  · rw [Execution.attempts_prepend_retry]
    exact Nat.succ_le_succ contract.attempts_le
  · rw [Execution.attempts_prepend_retry, Execution.withdrawals_prepend_retry,
      contract.withdrawals]
  · rw [Execution.deposits_prepend_retry]
    exact contract.deposits
  · rintro (_ | ⟨first, _ | ⟨second, before⟩⟩) granted after eventsEq
    · cases eventsEq
    · cases eventsEq
      exact withdrawalPermitted_first notStream returned retryable
    · simp only [Execution.prepend, List.cons_append, List.cons.injEq,
        List.nil_append] at eventsEq
      obtain ⟨rfl, rfl, restEq⟩ := eventsEq
      have later := (contract.permitted before granted after restEq).next
      simpa [List.countP_cons, ExecuteEvent.isAttempt] using later
  · intro value valueEq
    rw [Execution.withdrawals_prepend_retry, ← contract.returned value valueEq]
    congr 1
    omega
  · intro resultEq
    rw [Execution.withdrawals_prepend_retry]
    exact (contract.unreturned resultEq).next
  · intro body member
    simp only [Execution.prepend, List.cons_append, List.nil_append,
      List.mem_cons, ExecuteEvent.attempt.injEq, reduceCtorEq, false_or] at member
    rcases member with rfl | later
    · rfl
    · exact contract.sent body later
  · intro streams
    rw [notStream] at streams
    cases streams

theorem retryLoop_contract (remainingRetries attempt : Nat) :
    LoopContract call remainingRetries attempt
      (retryLoop call remainingRetries attempt) := by
  induction remainingRetries generalizing attempt with
  | zero =>
    rw [retryLoop, bodyToSend_fst]
    exact finalAttempt_contract 0 attempt
  | succ remainingRetries ih =>
    have bodyEq : (bodyToSend call (remainingRetries + 1)).1 = call.body :=
      bodyToSend_fst _
    cases sends : bodyToSend call (remainingRetries + 1) with
    | mk body canRetry =>
      rw [sends] at bodyEq
      obtain rfl : body = call.body := bodyEq
      cases canRetry with
      | false =>
        simp only [retryLoop, sends]
        exact finalAttempt_contract _ attempt
      | true =>
        have notStream : call.streams = false := by
          by_contra streams
          have never := bodyToSend_snd_of_streams
            (Bool.eq_true_of_not_eq_false streams) (remainingRetries + 1)
          rw [sends] at never
          cases never
        cases outcome : call.outcome attempt with
        | abandoned =>
          simp only [retryLoop, sends, outcome]
          exact .ended (.inl outcome)
        | returned result =>
          have own : ∀ value, some result = some value →
              call.outcome attempt = .returned value := by
            rintro value ⟨rfl⟩
            exact outcome
          cases action : call.policy.classifyResult call.conversions call.url
              call.method result with
          | none =>
            simp only [retryLoop, sends, outcome, action]
            exact .ended (.inr ⟨notStream, Nat.succ_pos _, result, outcome, action⟩)
          | some action' =>
            cases action' with
            | success =>
              simp only [retryLoop, sends, outcome, action]
              exact .last own nofun
            | retryable =>
              simp only [retryLoop, sends, outcome, action]
              split
              · exact .retried (ih (attempt + 1)) notStream outcome action
              · exact .refused notStream outcome action

/-- How many numbers in sequence satisfy the condition, up to a limit. -/
def leading (condition : Nat → Bool) : Nat → Nat → Nat
  | 0, _ => 0
  | limit + 1, first =>
    if condition first then leading condition limit (first + 1) + 1 else 0

/-- The attempt returned a result that the policy retries, and the budget grants it. -/
def Call.retries (call : Call Response Uri) (attempt : Nat) : Bool :=
  match call.outcome attempt with
  | .abandoned => false
  | .returned result =>
    call.policy.classifyResult call.conversions call.url call.method result ==
      some .retryable && call.policy.canWithdraw (call.answer attempt)

theorem bodyToSend_snd_of_not_streams (notStream : call.streams = false)
    {remainingRetries : Nat} (remaining : 0 < remainingRetries) :
    (bodyToSend call remainingRetries).2 = true := by
  unfold bodyToSend
  rw [if_pos remaining]
  cases bodyEq : call.body with
  | none => rfl
  | some body =>
    rw [Call.streams, bodyEq] at notStream
    cases cloned : body.tryClone with
    | none =>
      have streams := Body.tryClone_eq_none.mp cloned
      rw [Option.any_some, streams] at notStream
      cases notStream
    | some copy => simp only [cloned]

theorem retryLoop_attempts (notStream : call.streams = false)
    (remainingRetries attempt : Nat) :
    (retryLoop call remainingRetries attempt).attempts =
      leading call.retries remainingRetries attempt + 1 := by
  induction remainingRetries generalizing attempt with
  | zero => rfl
  | succ remainingRetries ih =>
    have canRetry := bodyToSend_snd_of_not_streams notStream (Nat.succ_pos remainingRetries)
    cases sends : bodyToSend call (remainingRetries + 1) with
    | mk body retryable =>
      rw [sends] at canRetry
      obtain rfl : retryable = true := canRetry
      simp only [retryLoop, sends]
      rw [leading, Call.retries]
      cases outcome : call.outcome attempt with
      | abandoned => rfl
      | returned result =>
        cases action : call.policy.classifyResult call.conversions call.url
            call.method result with
        | none => simp only [action]; rfl
        | some action' =>
          cases action' with
          | success => simp only [action]; rfl
          | retryable =>
            simp only [action]
            cases granted : call.policy.canWithdraw (call.answer attempt) with
            | true =>
              rw [if_pos rfl, Execution.attempts_prepend_retry, ih]
              rfl
            | false => rfl

/-- A call retries as long as its results are retryable and its budget grants it. -/
theorem execute_attempts (call : Call Response Uri) :
    (execute call).attempts =
      (if call.streams then 0 else leading call.retries call.policy.maxRetries 0) + 1 := by
  unfold execute
  rw [Execution.attempts_deposit]
  by_cases noRetries : call.policy.maxRetries = 0
  · rw [if_pos noRetries, noRetries, leading, ite_self]
    rfl
  · rw [if_neg noRetries]
    cases streams : call.streams with
    | true => exact (retryLoop_contract _ 0).streamed streams
    | false => exact retryLoop_attempts streams _ 0

/-- The guard runs behind the loop, or behind the only attempt. -/
theorem execute_loop (call : Call Response Uri) :
    ∃ loop, execute call = loop.deposit call.policy ∧
      LoopContract call call.policy.maxRetries 0 loop := by
  refine ⟨_, rfl, ?_⟩
  split
  · exact finalAttempt_contract call.policy.maxRetries 0
  · exact retryLoop_contract call.policy.maxRetries 0

theorem execute_deposits (call : Call Response Uri) :
    (execute call).deposits = if call.policy.budget.isSome then 1 else 0 := by
  obtain ⟨loop, executeEq, contract⟩ := execute_loop call
  rw [executeEq, Execution.deposits_deposit, contract.deposits, Nat.zero_add]

theorem execute_withdrawals (call : Call Response Uri) :
    (execute call).withdrawals + 1 = (execute call).attempts := by
  obtain ⟨loop, executeEq, contract⟩ := execute_loop call
  rw [executeEq, Execution.withdrawals_deposit, Execution.attempts_deposit,
    contract.withdrawals]

/-- What is returned is the result of the last attempt, which comes behind as many others as
there are withdrawals. -/
theorem execute_returned (call : Call Response Uri) :
    (∀ result, (execute call).result = some result →
        call.outcome (execute call).withdrawals = .returned result) ∧
      ((execute call).result = none →
        EndsWithout call call.policy.maxRetries 0 (execute call).withdrawals) := by
  obtain ⟨loop, executeEq, contract⟩ := execute_loop call
  have returned := contract.returned
  rw [Nat.zero_add] at returned
  rw [executeEq, Execution.withdrawals_deposit, Execution.deposit_result]
  exact ⟨returned, contract.unreturned⟩

/-- What one call of `execute` guarantees.  The attempts are numbered from zero, so the last
one has the number of the withdrawals before it.  A retry needs no token when the policy has
no budget; `canWithdraw` then grants by itself. -/
structure ExecuteContract (call : Call Response Uri)
    (execution : Execution Response) : Prop where
  attempts_le : execution.attempts ≤ 1 + call.policy.maxRetries
  attempts : execution.attempts =
    (if call.streams then 0 else leading call.retries call.policy.maxRetries 0) + 1
  withdrawals : execution.withdrawals + 1 = execution.attempts
  permitted : ∀ before granted after,
    execution.events = before ++ .canWithdraw granted :: after →
      WithdrawalPermitted call call.policy.maxRetries 0
        (before.countP ExecuteEvent.isAttempt)
  deposits : execution.deposits = if call.policy.budget.isSome then 1 else 0
  returned : ∀ result, execution.result = some result →
    call.outcome execution.withdrawals = .returned result
  unreturned : execution.result = none →
    EndsWithout call call.policy.maxRetries 0 execution.withdrawals
  sent : ∀ body, .attempt body ∈ execution.events → body = call.body
  streamed : call.streams = true → execution.attempts = 1

/-- One call of `execute` makes at most one attempt more than the permitted
retries, with one granted withdrawal for each retry; it asks for none after an
attempt that is not retryable, out of scope, streamed or the last one permitted; it
deposits exactly once when a budget is in force; it returns the result of the
last attempt; every attempt sends the request's body, and a stream is sent
once. -/
theorem execute_contract (call : Call Response Uri) :
    ExecuteContract call (execute call) := by
  obtain ⟨loop, executeEq, contract⟩ := execute_loop call
  constructor
  · rw [executeEq, Execution.attempts_deposit, Nat.add_comm]
    exact contract.attempts_le
  · exact execute_attempts call
  · exact execute_withdrawals call
  · intro before granted after eventsEq
    rw [executeEq] at eventsEq
    have other : ExecuteEvent.canWithdraw granted ≠ .deposit := nofun
    obtain ⟨rest, loopEq⟩ := loop.events_deposit call.policy other eventsEq
    exact contract.permitted before granted rest loopEq
  · exact execute_deposits call
  · exact (execute_returned call).1
  · exact (execute_returned call).2
  · intro body member
    rw [executeEq] at member
    obtain ⟨before, after, eventsEq⟩ := List.append_of_mem member
    have other : ExecuteEvent.attempt body ≠ .deposit := nofun
    obtain ⟨rest, loopEq⟩ := loop.events_deposit call.policy other eventsEq
    exact contract.sent body (loopEq ▸ by simp)
  · intro streams
    rw [execute_attempts, if_pos streams]

def smallBudget : RetryBudget.Budget where
  reserve := 1
  slots := 10
  slotDuration := RetryBudget.nanosPerSec
  depositAmount := 1
  withdrawAmount := 1
  slotsPos := Nat.succ_pos 9
  slotDurationPos := Nat.succ_pos _
  reserveNonneg := Int.natCast_nonneg 1
  depositNonneg := Int.natCast_nonneg 1
  withdrawNonneg := Int.natCast_nonneg 1

/-- The budget grants one retry of a failing request and refuses the next one. -/
def refusedOnce : Call Unit Unit where
  policy :=
    { budget := some smallBudget
      classify := some fun _ => some .retryable
      maxRetriesPerRequest := 5
      scope := none }
  conversions := { toHttpUri := fun _ => some (), status := fun _ => 200 }
  url := bareUrl true
  method := "POST"
  body := some { inner := .bytes [1, 2] }
  outcome := fun attempt => .returned (.error (Error.fromWin32 attempt))
  answer := fun attempt => attempt == 0

theorem execute_contract_refusedOnce :
    ExecuteContract refusedOnce (execute refusedOnce) ∧
      (execute refusedOnce).attempts = 2 ∧ (execute refusedOnce).withdrawals = 1 ∧
      (execute refusedOnce).deposits = 1 ∧
      (execute refusedOnce).result = some (.error (Error.fromWin32 1)) :=
  ⟨execute_contract refusedOnce, rfl, rfl, rfl, rfl⟩

end Wrest.Retry
