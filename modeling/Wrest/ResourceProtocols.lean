import Mathlib.Data.List.Induction
import Wrest.TraceGuarantees

/-!
# Protocols of resources

A protocol keeps track of the resources that the calls of an interface create and
destroy.  It says which calls a state permits, which replies can come in it, and what the
state is after an exchange.  A program respects the protocol when all its calls are
permitted, as long as the replies are possible.

A scope runs a program and then releases a resource, whatever the program returned.
-/

namespace Wrest.Interaction

variable {I : Interface} {S α β : Type}

structure Protocol (I : Interface) (S : Type) where
  initial : S
  permits : S → I.Call → Prop
  expects : S → Exchange I → Prop
  next : S → Exchange I → S

namespace Protocol

variable (protocol : Protocol I S)

/-- The state after a history. -/
def after (history : List (Exchange I)) : S :=
  history.foldl protocol.next protocol.initial

@[simp]
theorem after_concat (history : List (Exchange I)) (exchange : Exchange I) :
    protocol.after (history ++ [exchange]) = protocol.next (protocol.after history) exchange := by
  simp [after]

/-- From every state of the precondition, the calls are permitted and leave the
postcondition, as long as the replies are possible. -/
def Respects (before : S → Prop) (program : Program I α) (post : α → S → Prop) : Prop :=
  Guarantees (fun history exchange => protocol.expects (protocol.after history) exchange)
    (fun history exchange => protocol.permits (protocol.after history) exchange.call)
    (fun history => before (protocol.after history)) program
    fun value history => post value (protocol.after history)

section Rules

variable {protocol} {before : S → Prop}

theorem respects_pure {post : α → S → Prop} {value : α}
    (holds : ∀ state, before state → post value state) :
    protocol.Respects before (.pure value) post :=
  guarantees_pure fun _ => holds _

theorem respects_call {request : I.Call} {next : I.Reply request → Program I α}
    {post : α → S → Prop} (middle : I.Reply request → S → Prop)
    (permitted : ∀ state, before state → protocol.permits state request)
    (steps : ∀ state reply, before state → protocol.expects state ⟨request, reply⟩ →
      middle reply (protocol.next state ⟨request, reply⟩))
    (rest : ∀ reply, protocol.Respects (middle reply) (next reply) post) :
    protocol.Respects before (.call request next) post := by
  refine guarantees_call ?_ rest
  intro history reply holds expected
  refine ⟨permitted _ holds, ?_⟩
  rw [after_concat]
  exact steps _ reply holds expected

theorem Respects.bind {program : Program I α} {rest : α → Program I β}
    {middle : α → S → Prop} {post : β → S → Prop}
    (first : protocol.Respects before program middle)
    (second : ∀ value, protocol.Respects (middle value) (rest value) post) :
    protocol.Respects before (program >>= rest) post :=
  Guarantees.bind first second

theorem Respects.mono {weaker : S → Prop} {program : Program I α}
    {post stronger : α → S → Prop} (respects : protocol.Respects before program post)
    (starts : ∀ state, weaker state → before state)
    (ends : ∀ value state, post value state → stronger value state) :
    protocol.Respects weaker program stronger :=
  Guarantees.mono respects (fun _ => starts _) fun value _ => ends value _

theorem respects_of_forall {program : Program I α} {post : α → S → Prop}
    (each : ∀ state, before state → protocol.Respects (· = state) program post) :
    protocol.Respects before program post :=
  fun history trace value holds traces assumed =>
    each _ holds history trace value rfl traces assumed

end Rules

end Protocol

/-- From every state of the precondition, the calls of an attempt are permitted, and leave a
postcondition for its value or one for its error. -/
def Protocol.AttemptRespects {ε : Type} (protocol : Protocol I S) (before : S → Prop)
    (attempt : Attempt I ε α) (returns : α → S → Prop) (fails : ε → S → Prop) : Prop :=
  protocol.Respects (α := Except ε α) before attempt (outcomes returns fails)

namespace Protocol.AttemptRespects

variable {ε : Type} {protocol : Protocol I S} {before : S → Prop} {attempt : Attempt I ε α}
variable {returns : α → S → Prop} {fails : ε → S → Prop}

theorem pure {value : α} (holds : ∀ state, before state → returns value state) :
    protocol.AttemptRespects before (Program.pure (.ok value) : Attempt I ε α) returns
      fails :=
  respects_pure holds

theorem throw {failure : ε} (holds : ∀ state, before state → fails failure state) :
    protocol.AttemptRespects before (Program.pure (.error failure) : Attempt I ε α) returns
      fails :=
  respects_pure holds

/-- An attempt that fails first ends there. -/
theorem bind {rest : α → Attempt I ε β} {middle : α → S → Prop} {after : β → S → Prop}
    (first : protocol.AttemptRespects before attempt middle fails)
    (second : ∀ value, protocol.AttemptRespects (middle value) (rest value) after fails) :
    protocol.AttemptRespects before (attempt >>= rest) after fails := by
  refine Respects.bind first fun result => ?_
  cases result with
  | ok value => exact second value
  | error failure => exact respects_pure fun _ holds => holds

theorem mono {weaker : S → Prop} {moreReturns : α → S → Prop} {moreFails : ε → S → Prop}
    (respects : protocol.AttemptRespects before attempt returns fails)
    (starts : ∀ state, weaker state → before state)
    (returned : ∀ value state, returns value state → moreReturns value state)
    (failed : ∀ failure state, fails failure state → moreFails failure state) :
    protocol.AttemptRespects weaker attempt moreReturns moreFails := by
  refine Respects.mono respects starts fun result state holds => ?_
  cases result with
  | ok value => exact returned value state holds
  | error failure => exact failed failure state holds

end Protocol.AttemptRespects

/-- What the permitted calls of a protocol keep holds after every part of a trace. -/
theorem Protocol.invariant_of_follows {protocol : Protocol I S} {invariant : S → Prop}
    (starts : invariant protocol.initial)
    (steps : ∀ state exchange, invariant state → protocol.permits state exchange.call →
      invariant (protocol.next state exchange))
    {trace before after : List (Exchange I)}
    (follows : Follows (fun history exchange =>
      protocol.permits (protocol.after history) exchange.call) [] trace)
    (split : trace = before ++ after) : invariant (protocol.after before) := by
  induction before using List.reverseRecOn generalizing after with
  | nil => exact starts
  | append_singleton before exchange ih =>
    rw [List.append_assoc, List.singleton_append] at split
    rw [Protocol.after_concat]
    exact steps _ _ (ih split) (follows.holds split)

/-- Run the body and then the release. -/
def Program.scoped (release : Program I Unit) (body : Program I α) : Program I α :=
  body >>= fun value => release >>= fun _ => .pure value

theorem Protocol.Respects.scoped {protocol : Protocol I S} {before : S → Prop}
    {release : Program I Unit} {body : Program I α} {held : α → S → Prop}
    {post : α → S → Prop} (respects : protocol.Respects before body held)
    (releases : ∀ value, protocol.Respects (held value) release fun _ => post value) :
    protocol.Respects before (Program.scoped release body) post :=
  respects.bind fun value => (releases value).bind fun _ => respects_pure fun _ holds => holds

/-- Follow the traces of a program that respects the protocol from the beginning. -/
theorem Protocol.Respects.traces {protocol : Protocol I S} {before : S → Prop}
    {program : Program I α} {post : α → S → Prop}
    (respects : protocol.Respects before program post) (starts : before protocol.initial)
    {trace : List (Exchange I)} {value : α} (traces : Traces program trace value)
    (expected : Follows (fun history exchange =>
      protocol.expects (protocol.after history) exchange) [] trace) :
    Follows (fun history exchange =>
        protocol.permits (protocol.after history) exchange.call) [] trace ∧
      post value (protocol.after trace) :=
  respects [] trace value starts traces expected

section Replays

variable {protocol : Protocol I S}
variable {respond : S → (request : I.Call) → I.Reply request}

/-- Run a program with replies that depend on the state. -/
def Protocol.replay (protocol : Protocol I S)
    (respond : S → (request : I.Call) → I.Reply request) :
    S → Program I α → List (Exchange I) × α
  | _, .pure value => ([], value)
  | state, .call request next =>
    let reply := respond state request
    let rest := protocol.replay respond (protocol.next state ⟨request, reply⟩) (next reply)
    (⟨request, reply⟩ :: rest.1, rest.2)

theorem Protocol.traces_replay (program : Program I α) (state : S) :
    Traces program (protocol.replay respond state program).1
      (protocol.replay respond state program).2 := by
  induction program generalizing state with
  | pure value => exact .done value
  | call request next ih => exact .call _ (ih _ _)

theorem Protocol.follows_replay
    (possible : ∀ state request, protocol.expects state ⟨request, respond state request⟩)
    (program : Program I α) (history : List (Exchange I)) :
    Follows (fun history exchange => protocol.expects (protocol.after history) exchange)
      history (protocol.replay respond (protocol.after history) program).1 := by
  induction program generalizing history with
  | pure value => trivial
  | call request next ih =>
    refine ⟨possible _ _, ?_⟩
    rw [← protocol.after_concat]
    exact ih _ _

end Replays

end Wrest.Interaction
