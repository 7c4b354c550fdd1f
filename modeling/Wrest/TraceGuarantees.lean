import Wrest.InteractionTraces

/-!
# Guarantees of programs about their traces

A rule says which exchanges may follow a history.  A program guarantees a rule when its
exchanges follow it from every history of a precondition, as long as the replies keep an
assumption, and the history that it leaves satisfies a postcondition.
-/

namespace Wrest.Interaction

variable {I : Interface} {α β ε : Type}

/-- Every exchange of the trace follows the rule after the exchanges before it. -/
def Follows (rule : List (Exchange I) → Exchange I → Prop) :
    List (Exchange I) → List (Exchange I) → Prop
  | _, [] => True
  | history, exchange :: trace =>
    rule history exchange ∧ Follows rule (history ++ [exchange]) trace

section Follows

variable {rule : List (Exchange I) → Exchange I → Prop}
variable {history first second trace : List (Exchange I)}

theorem follows_append :
    Follows rule history (first ++ second) ↔
      Follows rule history first ∧ Follows rule (history ++ first) second := by
  induction first generalizing history with
  | nil => simp [Follows]
  | cons exchange first ih => simp [Follows, ih, and_assoc]

theorem Follows.holds {exchange : Exchange I} (follows : Follows rule history trace)
    (split : trace = first ++ exchange :: second) : rule (history ++ first) exchange := by
  rw [split] at follows
  exact (follows_append.mp follows).2.1

theorem Follows.mono {weaker : List (Exchange I) → Exchange I → Prop}
    (follows : Follows rule history trace)
    (implies : ∀ history exchange, rule history exchange → weaker history exchange) :
    Follows weaker history trace := by
  induction trace generalizing history with
  | nil => trivial
  | cons exchange trace ih => exact ⟨implies _ _ follows.1, ih follows.2⟩

theorem follows_of_forall (always : ∀ history exchange, rule history exchange) :
    Follows rule history trace := by
  induction trace generalizing history with
  | nil => trivial
  | cons exchange trace ih => exact ⟨always history exchange, ih⟩

/-- When the rule bounds the exchanges of a kind that come before another one, there is at
most one more. -/
theorem Follows.countP_le {kind : Exchange I → Bool} {limit : Nat}
    (follows : Follows (fun history exchange => kind exchange = true →
      history.countP kind ≤ limit) history trace)
    (before : history.countP kind ≤ limit + 1) :
    (history ++ trace).countP kind ≤ limit + 1 := by
  induction trace generalizing history with
  | nil => rwa [List.append_nil]
  | cons exchange trace ih =>
    have next : (history ++ [exchange]).countP kind ≤ limit + 1 := by
      rw [List.countP_append, List.countP_singleton]
      split
      · next isKind => exact Nat.add_le_add_right (follows.1 isKind) 1
      · exact before
    have rest := ih follows.2 next
    rwa [List.append_assoc] at rest

end Follows

/-- From every history of the precondition, the exchanges follow the rule and leave the
postcondition, as long as the replies keep the assumption. -/
def Guarantees (assume rule : List (Exchange I) → Exchange I → Prop)
    (before : List (Exchange I) → Prop) (program : Program I α)
    (after : α → List (Exchange I) → Prop) : Prop :=
  ∀ history trace value, before history → Traces program trace value →
    Follows assume history trace →
      Follows rule history trace ∧ after value (history ++ trace)

section Guarantees

variable {assume rule : List (Exchange I) → Exchange I → Prop}
variable {before : List (Exchange I) → Prop}

theorem guarantees_pure {after : α → List (Exchange I) → Prop} {value : α}
    (holds : ∀ history, before history → after value history) :
    Guarantees assume rule before (.pure value) after := by
  intro history trace result starts traces _
  obtain ⟨rfl, rfl⟩ := traces_pure.mp traces
  rw [List.append_nil]
  exact ⟨trivial, holds history starts⟩

theorem guarantees_call {request : I.Call} {next : I.Reply request → Program I α}
    {middle : I.Reply request → List (Exchange I) → Prop}
    {after : α → List (Exchange I) → Prop}
    (steps : ∀ history reply, before history → assume history ⟨request, reply⟩ →
      rule history ⟨request, reply⟩ ∧ middle reply (history ++ [⟨request, reply⟩]))
    (rest : ∀ reply, Guarantees assume rule (middle reply) (next reply) after) :
    Guarantees assume rule before (.call request next) after := by
  intro history trace result starts traces assumed
  obtain ⟨reply, remaining, rfl, continues⟩ := traces_call.mp traces
  obtain ⟨follows, reached⟩ := steps history reply starts assumed.1
  obtain ⟨followsRest, holds⟩ := rest reply _ _ _ reached continues assumed.2
  rw [List.append_assoc] at holds
  exact ⟨⟨follows, followsRest⟩, holds⟩

theorem Guarantees.bind {program : Program I α} {next : α → Program I β}
    {middle : α → List (Exchange I) → Prop} {after : β → List (Exchange I) → Prop}
    (first : Guarantees assume rule before program middle)
    (rest : ∀ value, Guarantees assume rule (middle value) (next value) after) :
    Guarantees assume rule before (program >>= next) after := by
  intro history trace result starts traces assumed
  obtain ⟨value, start, remaining, rfl, firstTraces, continues⟩ := traces.of_bind
  obtain ⟨assumedFirst, assumedRest⟩ := follows_append.mp assumed
  obtain ⟨follows, reached⟩ := first _ _ _ starts firstTraces assumedFirst
  obtain ⟨followsRest, holds⟩ := rest value _ _ _ reached continues assumedRest
  rw [List.append_assoc] at holds
  exact ⟨follows_append.mpr ⟨follows, followsRest⟩, holds⟩

theorem Guarantees.mono {weaker : List (Exchange I) → Prop} {program : Program I α}
    {after stronger : α → List (Exchange I) → Prop}
    (guarantees : Guarantees assume rule before program after)
    (starts : ∀ history, weaker history → before history)
    (ends : ∀ value history, after value history → stronger value history) :
    Guarantees assume rule weaker program stronger := by
  intro history trace value holds traces assumed
  obtain ⟨follows, reached⟩ := guarantees _ _ _ (starts history holds) traces assumed
  exact ⟨follows, ends value _ reached⟩

/-- Calls that keep a condition on the history. -/
theorem guarantees_of_makes {program : Program I α} {allowed : I.Call → Prop}
    (makes : program.Makes allowed)
    (keeps : ∀ history exchange, before history → allowed exchange.call →
      rule history exchange ∧ before (history ++ [exchange])) :
    Guarantees assume rule before program fun _ => before := by
  induction program with
  | pure value => exact guarantees_pure fun _ holds => holds
  | call request next ih =>
    exact guarantees_call (fun history reply holds _ => keeps history _ holds makes.1)
      fun reply => ih reply (makes.2 reply)

end Guarantees

/-- A postcondition of an attempt from one for its value and one for its error. -/
def AttemptGuarantees (assume rule : List (Exchange I) → Exchange I → Prop)
    (before : List (Exchange I) → Prop) (attempt : Attempt I ε α)
    (returns : α → List (Exchange I) → Prop) (fails : ε → List (Exchange I) → Prop) : Prop :=
  Guarantees (α := Except ε α) assume rule before attempt (outcomes returns fails)

section Attempts

variable {assume rule : List (Exchange I) → Exchange I → Prop}
variable {before : List (Exchange I) → Prop} {fails : ε → List (Exchange I) → Prop}

/-- An attempt that fails first ends there. -/
theorem AttemptGuarantees.bind {attempt : Attempt I ε α} {next : α → Attempt I ε β}
    {middle : α → List (Exchange I) → Prop} {returns : β → List (Exchange I) → Prop}
    (first : AttemptGuarantees assume rule before attempt middle fails)
    (rest : ∀ value, AttemptGuarantees assume rule (middle value) (next value) returns fails) :
    AttemptGuarantees assume rule before (attempt >>= next) returns fails := by
  refine Guarantees.bind first fun result => ?_
  cases result with
  | error failure => exact guarantees_pure fun _ holds => holds
  | ok value => exact rest value

end Attempts

end Wrest.Interaction
