import Mathlib.Data.List.Basic

/-!
# Runs of labelled transition functions

A concurrent component is described by a partial step function: a label names
the party that moves and what it chooses, and `none` says that the move is not
enabled in the current state.  A run is a list of labels, so a statement about
every list of labels is a statement about every interleaving.

This file provides the run function and the induction rule for invariants.
The rule is stated for guarded runs, in which every label taken satisfies a
condition on the state it is taken from; an unconditional invariant is the case
of the guard that always holds.
-/

namespace Wrest.Transition

variable {State Label : Type*}

/-- Take the labels in order, stopping with `none` at a label that is not
enabled. -/
def run (step : State → Label → Option State) :
    State → List Label → Option State
  | state, [] => some state
  | state, label :: labels =>
      (step state label).bind fun next => run step next labels

/-- Every label of the run satisfies the guard in the state it is taken from. -/
def Guarded (step : State → Label → Option State)
    (guard : State → Label → Prop) : State → List Label → Prop
  | _, [] => True
  | state, label :: labels =>
      guard state label ∧
        ∀ next, step state label = some next → Guarded step guard next labels

variable {step : State → Label → Option State}

@[simp]
theorem run_nil (state : State) : run step state [] = some state :=
  rfl

theorem run_cons (state : State) (label : Label) (labels : List Label) :
    run step state (label :: labels) =
      (step state label).bind fun next => run step next labels :=
  rfl

theorem run_cons_eq_some {state last : State} {label : Label}
    {labels : List Label} :
    run step state (label :: labels) = some last ↔
      ∃ next, step state label = some next ∧
        run step next labels = some last := by
  rw [run_cons, Option.bind_eq_some_iff]

theorem run_append (state : State) (first second : List Label) :
    run step state (first ++ second) =
      (run step state first).bind fun next => run step next second := by
  induction first generalizing state with
  | nil => rfl
  | cons label labels ih =>
    rw [List.cons_append, run_cons, run_cons, Option.bind_assoc]
    congr 1
    funext next
    exact ih next

theorem run_concat_eq_some {state last : State} {label : Label}
    {labels : List Label} :
    run step state (labels ++ [label]) = some last ↔
      ∃ middle, run step state labels = some middle ∧
        step middle label = some last := by
  simp only [run_append, Option.bind_eq_some_iff, run_cons, run_nil,
    Option.bind_fun_some]

/-- The guard of the last label of a guarded run holds where it is taken. -/
theorem Guarded.last {guard : State → Label → Prop} {state middle : State}
    {label : Label} {labels : List Label}
    (guarded : Guarded step guard state (labels ++ [label]))
    (reaches : run step state labels = some middle) : guard middle label := by
  induction labels generalizing state with
  | nil =>
    cases reaches
    exact guarded.1
  | cons first labels ih =>
    obtain ⟨next, stepped, rest⟩ := run_cons_eq_some.mp reaches
    exact ih (guarded.2 next stepped) rest

theorem Guarded.initial {guard : State → Label → Prop} {state : State}
    {first second : List Label}
    (guarded : Guarded step guard state (first ++ second)) :
    Guarded step guard state first := by
  induction first generalizing state with
  | nil => trivial
  | cons label labels ih =>
    exact ⟨guarded.1, fun next stepped => ih (guarded.2 next stepped)⟩

/-- A guard that the labels meet in every state guards the run. -/
theorem guarded_of_forall_mem {guard : State → Label → Prop}
    {labels : List Label} (state : State)
    (always : ∀ label ∈ labels, ∀ current, guard current label) :
    Guarded step guard state labels := by
  induction labels generalizing state with
  | nil => trivial
  | cons label labels ih =>
    constructor
    · exact always label List.mem_cons_self state
    · intro next _
      exact ih next fun later member => always later (List.mem_cons_of_mem label member)

theorem guarded_of_forall {guard : State → Label → Prop}
    (always : ∀ state label, guard state label) (state : State)
    (labels : List Label) : Guarded step guard state labels :=
  guarded_of_forall_mem state fun label _ current => always current label

theorem guarded_cons_of_eq_some {guard : State → Label → Prop}
    {state next : State} {label : Label} {labels : List Label}
    (steps : step state label = some next) :
    Guarded step guard state (label :: labels) ↔
      guard state label ∧ Guarded step guard next labels := by
  simp only [Guarded, steps, Option.some.injEq, forall_eq']

theorem guarded_cons_of_eq_none {guard : State → Label → Prop}
    {state : State} {label : Label} {labels : List Label}
    (blocked : step state label = none) :
    Guarded step guard state (label :: labels) ↔ guard state label := by
  simp [Guarded, blocked]

/-- A run is checked for its guard by taking its steps. -/
instance Guarded.decidable {guard : State → Label → Prop}
    [∀ state label, Decidable (guard state label)] :
    ∀ (state : State) (labels : List Label),
      Decidable (Guarded step guard state labels)
  | _, [] => inferInstanceAs (Decidable True)
  | state, label :: labels =>
    match steps : step state label with
    | some next =>
      have : Decidable (Guarded step guard next labels) :=
        Guarded.decidable next labels
      decidable_of_iff _ (guarded_cons_of_eq_some steps).symm
    | none => decidable_of_iff _ (guarded_cons_of_eq_none steps).symm

/-- The invariant rule: what every guarded step preserves holds at the end of
every guarded run. -/
theorem invariant_of_guarded_run {guard : State → Label → Prop}
    (invariant : State → Prop)
    (preserved : ∀ state label next, guard state label → invariant state →
      step state label = some next → invariant next)
    {state last : State} {labels : List Label} (holds : invariant state)
    (guarded : Guarded step guard state labels)
    (reaches : run step state labels = some last) : invariant last := by
  induction labels generalizing state with
  | nil =>
    cases reaches
    exact holds
  | cons label labels ih =>
    obtain ⟨next, stepped, rest⟩ := run_cons_eq_some.mp reaches
    have nextHolds := preserved state label next guarded.1 holds stepped
    exact ih nextHolds (guarded.2 next stepped) rest

/-- The invariant rule for runs without a guard. -/
theorem invariant_of_run (invariant : State → Prop)
    (preserved : ∀ state label next, invariant state →
      step state label = some next → invariant next)
    {state last : State} {labels : List Label} (holds : invariant state)
    (reaches : run step state labels = some last) : invariant last :=
  invariant_of_guarded_run invariant
    (fun current label next _ => preserved current label next) holds
    (guarded_of_forall (fun _ _ => trivial) state labels) reaches

/-- Some run of allowed labels reaches the goal. -/
def CanReach (step : State → Label → Option State) (allowed : Label → Prop)
    (goal : State → Prop) (state : State) : Prop :=
  ∃ labels last, (∀ label ∈ labels, allowed label) ∧
    run step state labels = some last ∧ goal last

section CanReach

variable {allowed : Label → Prop} {goal : State → Prop} {state next : State}

theorem CanReach.of_goal (reached : goal state) : CanReach step allowed goal state :=
  ⟨[], state, by simp, rfl, reached⟩

theorem CanReach.of_step (label : Label) (permitted : allowed label)
    (steps : step state label = some next) (reaches : CanReach step allowed goal next) :
    CanReach step allowed goal state := by
  obtain ⟨labels, last, rest, runs, reached⟩ := reaches
  refine ⟨label :: labels, last, ?_, run_cons_eq_some.mpr ⟨next, steps, runs⟩, reached⟩
  intro other member
  obtain rfl | later := List.mem_cons.mp member
  · exact permitted
  · exact rest other later

end CanReach

end Wrest.Transition
