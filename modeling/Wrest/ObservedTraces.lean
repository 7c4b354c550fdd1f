import Wrest.InteractionTraces

/-!
# What an observer sees of a program

An observer sees each exchange of a program through a view that may hide a part of it.
One program is matched by another if each of its traces looks like one of the other's that
returns the same value: what the observer sees does not tell which of the two ran.

The calls of a program may in turn be conducted over a second interface.  The conduct of a
matched program is matched as well, if that of each single exchange is.
-/

namespace Wrest.Interaction

variable {I J : Interface} {Seen Noted α β ε : Type}

/-- Every trace of the program looks like one of the other that returns the same. -/
def MatchedBy (view : Exchange I → Seen) (program other : Program I α) : Prop :=
  ∀ trace value, Traces program trace value →
    ∃ matching, Traces other matching value ∧ matching.map view = trace.map view

abbrev AttemptMatchedBy (view : Exchange I → Seen) (attempt other : Attempt I ε α) : Prop :=
  MatchedBy (α := Except ε α) view attempt other

section Rules

variable {view : Exchange I → Seen}

theorem MatchedBy.refl (program : Program I α) : MatchedBy view program program :=
  fun trace _ traces => ⟨trace, traces, rfl⟩

/-- Two calls that look alike with replies that go together. -/
theorem matchedBy_call {request other : I.Call} {next : I.Reply request → Program I α}
    {otherNext : I.Reply other → Program I α} (answer : I.Reply request → I.Reply other)
    (alike : ∀ reply, view ⟨other, answer reply⟩ = view ⟨request, reply⟩)
    (continues : ∀ reply, MatchedBy view (next reply) (otherNext (answer reply))) :
    MatchedBy view (.call request next) (.call other otherNext) := by
  intro trace value traces
  obtain ⟨reply, rest, rfl, following⟩ := traces_call.mp traces
  obtain ⟨matching, matchingTraces, same⟩ := continues reply rest value following
  refine ⟨_, .call (answer reply) matchingTraces, ?_⟩
  rw [List.map_cons, List.map_cons, alike, same]

theorem MatchedBy.bind {program other : Program I α} {rest otherRest : α → Program I β}
    (first : MatchedBy view program other)
    (second : ∀ value, MatchedBy view (rest value) (otherRest value)) :
    MatchedBy view (program >>= rest) (other >>= otherRest) := by
  intro trace result traces
  obtain ⟨value, before, after, rfl, beforeTraces, afterTraces⟩ := traces.of_bind
  obtain ⟨early, earlyTraces, earlySame⟩ := first before value beforeTraces
  obtain ⟨late, lateTraces, lateSame⟩ := second value after result afterTraces
  refine ⟨early ++ late, earlyTraces.bind lateTraces, ?_⟩
  rw [List.map_append, List.map_append, earlySame, lateSame]

theorem AttemptMatchedBy.bind {attempt other : Attempt I ε α}
    {rest otherRest : α → Attempt I ε β} (first : AttemptMatchedBy view attempt other)
    (second : ∀ value, AttemptMatchedBy view (rest value) (otherRest value)) :
    AttemptMatchedBy view (attempt >>= rest) (other >>= otherRest) := by
  apply MatchedBy.bind first
  intro outcome
  cases outcome with
  | error failure => exact .refl _
  | ok value => exact second value

/-- A trace that was cut off looks like the beginning of one. -/
theorem MatchedBy.of_prefix {program other : Program I α} {trace rest : List (Exchange I)}
    {value : α} (matched : MatchedBy view program other)
    (traces : Traces program (trace ++ rest) value) :
    ∃ matching matchingRest, Traces other (matching ++ matchingRest) value ∧
      matching.map view = trace.map view := by
  obtain ⟨whole, wholeTraces, same⟩ := matched _ value traces
  rw [List.map_append] at same
  obtain ⟨matching, matchingRest, rfl, first, -⟩ := List.map_eq_append_iff.mp same
  exact ⟨matching, matchingRest, wholeTraces, first⟩

end Rules

/-- An exchange with the exchanges of a second interface by which it is conducted. -/
structure Conducted (I J : Interface) where
  exchange : Exchange I
  inside : List (Exchange J)

/-- A run of the program in which each exchange is conducted as it may be. -/
structure Conducts (conduct : Exchange I → List (Exchange J) → Prop)
    (program : Program I α) (run : List (Conducted I J)) (value : α) : Prop where
  traces : Traces program (run.map Conducted.exchange) value
  conducted : ∀ step ∈ run, conduct step.exchange step.inside

section Conducting

variable {conduct : Exchange I → List (Exchange J) → Prop}
  {view : Exchange I → Seen} {note : Exchange J → Noted}

/-- What an observer of both interfaces sees. -/
def Conducted.seenBy (view : Exchange I → Seen) (note : Exchange J → Noted)
    (step : Conducted I J) : Seen × List Noted :=
  (view step.exchange, step.inside.map note)

/-- Exchanges that look alike can be conducted alike. -/
theorem exists_conducted
    (alike : ∀ exchange other inside, conduct exchange inside →
      view other = view exchange →
        ∃ matching, conduct other matching ∧ matching.map note = inside.map note)
    {run : List (Conducted I J)} (conducted : ∀ step ∈ run, conduct step.exchange step.inside)
    {trace : List (Exchange I)}
    (same : trace.map view = (run.map Conducted.exchange).map view) :
    ∃ matching : List (Conducted I J), matching.map Conducted.exchange = trace ∧
      (∀ step ∈ matching, conduct step.exchange step.inside) ∧
      matching.map (Conducted.seenBy view note) = run.map (Conducted.seenBy view note) := by
  induction run generalizing trace with
  | nil =>
    rw [List.map_nil, List.map_nil, List.map_eq_nil_iff] at same
    exact ⟨[], same.symm, List.forall_mem_nil _, rfl⟩
  | cons step run ih =>
    obtain ⟨exchange, rest, rfl, first, following⟩ := List.map_eq_cons_iff.mp same
    obtain ⟨here, others⟩ := List.forall_mem_cons.mp conducted
    obtain ⟨inside, conductedHere, noted⟩ := alike _ exchange _ here first
    obtain ⟨matching, rfl, conductedRest, seen⟩ := ih others following
    refine ⟨⟨exchange, inside⟩ :: matching, rfl,
      List.forall_mem_cons.mpr ⟨conductedHere, conductedRest⟩, ?_⟩
    rw [List.map_cons, List.map_cons, seen, Conducted.seenBy, Conducted.seenBy, first, noted]

/-- The conduct of a matched program. -/
theorem MatchedBy.conducts {program other : Program I α}
    (matched : MatchedBy view program other)
    (alike : ∀ exchange other inside, conduct exchange inside →
      view other = view exchange →
        ∃ matching, conduct other matching ∧ matching.map note = inside.map note)
    {run : List (Conducted I J)} {value : α} (conducts : Conducts conduct program run value) :
    ∃ matching, Conducts conduct other matching value ∧
      matching.map (Conducted.seenBy view note) = run.map (Conducted.seenBy view note) := by
  obtain ⟨trace, traces, same⟩ := matched _ value conducts.traces
  obtain ⟨matching, rfl, conducted, seen⟩ := exists_conducted alike conducts.conducted same
  exact ⟨matching, ⟨traces, conducted⟩, seen⟩

end Conducting

end Wrest.Interaction
