import Wrest.InteractionTraces

/-!
# Programs over two interfaces

A program may use two interfaces, one of which has an environment while the replies of the
other are left open.  A run of such a program records the exchanges of the open side.  It
is taken apart where the program turns from one interface to the other: each part is a
trace of the program it came from, and on the side of the environment the parts join to
one trace that the environment takes part in.
-/

namespace Wrest.Interaction

def Interface.sum (left right : Interface) : Interface where
  Call := left.Call ⊕ right.Call
  Reply := Sum.elim left.Reply right.Reply

variable {left right : Interface} {World α β : Type}

namespace Program

def onLeft : Program left α → Program (left.sum right) α
  | .pure value => .pure value
  | .call request next => .call (Sum.inl request : (left.sum right).Call) fun reply =>
      (next reply).onLeft

def onRight : Program right α → Program (left.sum right) α
  | .pure value => .pure value
  | .call request next => .call (Sum.inr request : (left.sum right).Call) fun reply =>
      (next reply).onRight

end Program

/-- The environment of the right interface, beside a left one that gives any reply and is
recorded. -/
def Environment.beside (environment : Environment right World) (left : Interface) :
    Environment (left.sum right) (List (Exchange left) × World) where
  Event := environment.Event
  interfere := fun (history, world) event =>
    (environment.interfere world event).map fun next => (history, next)
  respond := fun (history, world) request reply (extended, next) =>
    match request with
    | .inl call => extended = history ++ [⟨call, reply⟩] ∧ next = world
    | .inr call => extended = history ∧ environment.respond world call reply next

variable {environment : Environment right World}

/-- The left part of a run. -/
theorem Runs.of_onLeft {program : Program left α} {start last : List (Exchange left) × World}
    {value : α} (runs : Runs (environment.beside left) program.onLeft start value last) :
    ∃ trace, Traces program trace value ∧ last.1 = start.1 ++ trace ∧
      Exchanges environment start.2 [] last.2 := by
  generalize whole : program.onLeft = onSum at runs
  induction runs generalizing program with
  | done value world =>
    cases program with
    | pure first =>
      cases whole
      exact ⟨[], .done value, (List.append_nil _).symm, .done _⟩
    | call request next => cases whole
  | interfere event happens _ ih =>
    obtain ⟨next, interferes, rfl⟩ := Option.map_eq_some_iff.mp happens
    obtain ⟨trace, traces, historyEq, exchanges⟩ := ih whole
    exact ⟨trace, traces, historyEq, .interfere event interferes exchanges⟩
  | @call request next world middle last value reply answers _ ih =>
    cases program with
    | pure first => cases whole
    | call leftRequest leftNext =>
      cases whole
      obtain ⟨trace, traces, historyEq, exchanges⟩ := ih rfl
      obtain ⟨extended, same⟩ := answers
      have leftTraces : Traces (Program.call leftRequest leftNext)
          (⟨leftRequest, reply⟩ :: trace) value :=
        traces_call.mpr ⟨reply, trace, rfl, traces⟩
      refine ⟨_, leftTraces, ?_, same ▸ exchanges⟩
      rw [historyEq, extended, List.append_assoc, List.singleton_append]

/-- The right part of a run. -/
theorem Runs.of_onRight {program : Program right α}
    {start last : List (Exchange left) × World} {value : α}
    (runs : Runs (environment.beside left) program.onRight start value last) :
    ∃ trace, Traces program trace value ∧ last.1 = start.1 ∧
      Exchanges environment start.2 trace last.2 := by
  generalize whole : program.onRight = onSum at runs
  induction runs generalizing program with
  | done value world =>
    cases program with
    | pure first =>
      cases whole
      exact ⟨[], .done value, rfl, .done _⟩
    | call request next => cases whole
  | interfere event happens _ ih =>
    obtain ⟨next, interferes, rfl⟩ := Option.map_eq_some_iff.mp happens
    obtain ⟨trace, traces, historyEq, exchanges⟩ := ih whole
    exact ⟨trace, traces, historyEq, .interfere event interferes exchanges⟩
  | @call request next world middle last value reply answers _ ih =>
    cases program with
    | pure first => cases whole
    | call rightRequest rightNext =>
      cases whole
      obtain ⟨trace, traces, historyEq, exchanges⟩ := ih rfl
      obtain ⟨kept, responds⟩ := answers
      have rightTraces : Traces (Program.call rightRequest rightNext)
          (⟨rightRequest, reply⟩ :: trace) value :=
        traces_call.mpr ⟨reply, trace, rfl, traces⟩
      exact ⟨_, rightTraces, historyEq.trans kept, .call responds exchanges⟩

/-- Any trace of a left program is the left part of a run. -/
theorem Runs.onLeft {program : Program left α} {trace : List (Exchange left)} {value : α}
    (traces : Traces program trace value) (history : List (Exchange left)) (world : World) :
    Runs (environment.beside left) program.onLeft (history, world) value
      (history ++ trace, world) := by
  induction traces generalizing history with
  | done value =>
    rw [List.append_nil]
    exact .done value (history, world)
  | @call request next trace value reply rest ih =>
    have behind := ih (history ++ [⟨request, reply⟩])
    rw [List.append_assoc, List.singleton_append] at behind
    exact .call reply ⟨rfl, rfl⟩ behind

theorem Runs.onRight {program : Program right α} {world last : World} {value : α}
    (runs : Runs environment program world value last) (history : List (Exchange left)) :
    Runs (environment.beside left) program.onRight (history, world) value
      (history, last) := by
  induction runs with
  | done value world => exact .done value (history, world)
  | interfere event happens _ ih =>
    exact .interfere event (Option.map_eq_some_iff.mpr ⟨_, happens, rfl⟩) ih
  | call reply answers _ ih => exact .call reply ⟨rfl, answers⟩ ih

/-- A returned program takes part in no exchange. -/
theorem Runs.of_pure {value result : α} {start last : List (Exchange left) × World}
    (runs : Runs (environment.beside left) (.pure value) start result last) :
    result = value ∧ last.1 = start.1 ∧ Exchanges environment start.2 [] last.2 := by
  have onRight : Runs (environment.beside left) (Program.pure value : Program right α).onRight
      start result last := runs
  obtain ⟨trace, traces, historyEq, exchanges⟩ := onRight.of_onRight
  obtain ⟨rfl, rfl⟩ := traces_pure.mp traces
  exact ⟨rfl, historyEq, exchanges⟩

end Wrest.Interaction
