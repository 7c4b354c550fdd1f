import Wrest.InteractionPrograms

/-!
# Traces of programs

A trace lists the calls that a program makes together with the replies that they
receive.  The traces of a program leave every reply open.  What an environment adds is
which replies it gives, and a run in an environment is a trace of the program that is
also one of the environment.
-/

namespace Wrest.Interaction

/-- A call and its reply. -/
structure Exchange (I : Interface) where
  call : I.Call
  reply : I.Reply call

variable {I : Interface} {α β ε : Type}

/-- The program can make these exchanges and then return the value. -/
inductive Traces : Program I α → List (Exchange I) → α → Prop
  | done (value : α) : Traces (.pure value) [] value
  | call {request : I.Call} {next : I.Reply request → Program I α}
      {trace : List (Exchange I)} {value : α} (reply : I.Reply request)
      (rest : Traces (next reply) trace value) :
      Traces (.call request next) (⟨request, reply⟩ :: trace) value

section Inversion

variable {trace : List (Exchange I)}

theorem traces_pure {value result : α} :
    Traces (.pure value : Program I α) trace result ↔ trace = [] ∧ result = value := by
  constructor
  · rintro ⟨⟩
    exact ⟨rfl, rfl⟩
  · rintro ⟨rfl, rfl⟩
    exact .done result

theorem traces_call {request : I.Call} {next : I.Reply request → Program I α}
    {result : α} :
    Traces (.call request next) trace result ↔
      ∃ reply rest, trace = ⟨request, reply⟩ :: rest ∧ Traces (next reply) rest result := by
  constructor
  · intro traces
    cases traces with
    | call reply rest => exact ⟨reply, _, rfl, rest⟩
  · rintro ⟨reply, rest, rfl, traces⟩
    exact .call reply traces

theorem Traces.bind {program : Program I α} {rest : α → Program I β} {first : α}
    {result : β} {before after : List (Exchange I)} (traces : Traces program before first)
    (continues : Traces (rest first) after result) :
    Traces (program >>= rest) (before ++ after) result := by
  induction traces with
  | done value => exact continues
  | call reply _ ih => exact .call reply (ih continues)

theorem Traces.bind_pure {program : Program I α} {first : α} (next : α → β)
    (traces : Traces program trace first) :
    Traces (program >>= fun value => Program.pure (next value)) trace (next first) := by
  have whole : Traces (program >>= fun value => Program.pure (next value)) (trace ++ [])
      (next first) := traces.bind (.done (next first))
  rwa [List.append_nil] at whole

/-- A trace of two programs in sequence splits where the first one returns. -/
theorem Traces.of_bind {program : Program I α} {rest : α → Program I β} {result : β}
    (traces : Traces (program >>= rest) trace result) :
    ∃ first before after, trace = before ++ after ∧ Traces program before first ∧
      Traces (rest first) after result := by
  induction program generalizing trace with
  | pure value => exact ⟨value, [], trace, rfl, .done value, traces⟩
  | call request next ih =>
    obtain ⟨reply, remaining, rfl, continues⟩ := traces_call.mp traces
    obtain ⟨first, before, after, rfl, firstTraces, restTraces⟩ := ih reply continues
    exact ⟨first, ⟨request, reply⟩ :: before, after, rfl, .call reply firstTraces,
      restTraces⟩

/-- The traces of an attempt. -/
abbrev AttemptTraces (attempt : Attempt I ε α) (trace : List (Exchange I))
    (result : Except ε α) : Prop :=
  Traces (α := Except ε α) attempt trace result

/-- An attempt that fails first ends there. -/
theorem AttemptTraces.of_bind {attempt : Attempt I ε α} {rest : α → Attempt I ε β}
    {result : Except ε β} (traces : AttemptTraces (attempt >>= rest) trace result) :
    (∃ failure, AttemptTraces attempt trace (.error failure) ∧ result = .error failure) ∨
      ∃ value before after, trace = before ++ after ∧
        AttemptTraces attempt before (.ok value) ∧
        AttemptTraces (rest value) after result := by
  obtain ⟨outcome, before, after, rfl, first, continues⟩ := Traces.of_bind traces
  cases outcome with
  | error failure =>
    obtain ⟨rfl, rfl⟩ := traces_pure.mp continues
    rw [List.append_nil]
    exact .inl ⟨failure, first, rfl⟩
  | ok value => exact .inr ⟨value, before, after, rfl, first, continues⟩

theorem AttemptTraces.bind {attempt : Attempt I ε α} {rest : α → Attempt I ε β}
    {value : α} {result : Except ε β} {before after : List (Exchange I)}
    (traces : AttemptTraces attempt before (.ok value))
    (continues : AttemptTraces (rest value) after result) :
    AttemptTraces (attempt >>= rest) (before ++ after) result :=
  Traces.bind traces continues

theorem AttemptTraces.bind_error {attempt : Attempt I ε α} {rest : α → Attempt I ε β}
    {failure : ε} (traces : AttemptTraces attempt trace (.error failure)) :
    AttemptTraces (attempt >>= rest) trace (.error failure) := by
  have whole : AttemptTraces (attempt >>= rest) (trace ++ []) (.error failure) :=
    Traces.bind traces (.done _)
  rwa [List.append_nil] at whole

/-- Only calls that the program makes are in its traces. -/
theorem Traces.makes {program : Program I α} {allowed : I.Call → Prop} {result : α}
    (makes : program.Makes allowed) (traces : Traces program trace result) :
    ∀ exchange ∈ trace, allowed exchange.call := by
  induction traces with
  | done value => exact fun _ member => absurd member List.not_mem_nil
  | call reply _ ih => exact List.forall_mem_cons.mpr ⟨makes.1, ih (makes.2 reply)⟩

theorem Traces.returns {program : Program I α} {condition : α → Prop} {result : α}
    (returns : program.Returns condition) (traces : Traces program trace result) :
    condition result := by
  induction traces with
  | done value => exact returns
  | call reply _ ih => exact ih (returns reply)

end Inversion

section Environments

variable {World : Type} {environment : Environment I World}

/-- The exchanges that an environment takes part in, with its events between them. -/
inductive Exchanges (environment : Environment I World) :
    World → List (Exchange I) → World → Prop
  | done (world : World) : Exchanges environment world [] world
  | interfere {trace : List (Exchange I)} {world middle last : World}
      (event : environment.Event)
      (happens : environment.interfere world event = some middle)
      (rest : Exchanges environment middle trace last) :
      Exchanges environment world trace last
  | call {exchange : Exchange I} {trace : List (Exchange I)} {world middle last : World}
      (answers : environment.respond world exchange.call exchange.reply middle)
      (rest : Exchanges environment middle trace last) :
      Exchanges environment world (exchange :: trace) last

theorem Exchanges.append {first second : List (Exchange I)} {world middle last : World}
    (before : Exchanges environment world first middle)
    (behind : Exchanges environment middle second last) :
    Exchanges environment world (first ++ second) last := by
  induction before with
  | done world => exact behind
  | interfere event happens _ ih => exact .interfere event happens (ih behind)
  | call answers _ ih => exact .call answers (ih behind)

/-- The runs of a program are its traces that the environment takes part in. -/
theorem runs_iff_exists_trace {program : Program I α} {world last : World} {value : α} :
    Runs environment program world value last ↔
      ∃ trace, Traces program trace value ∧ Exchanges environment world trace last := by
  constructor
  · intro runs
    induction runs with
    | done value world => exact ⟨[], .done value, .done world⟩
    | interfere event happens _ ih =>
      obtain ⟨trace, traces, exchanges⟩ := ih
      exact ⟨trace, traces, .interfere event happens exchanges⟩
    | call reply answers _ ih =>
      obtain ⟨trace, traces, exchanges⟩ := ih
      exact ⟨_, .call reply traces, .call answers exchanges⟩
  · rintro ⟨trace, traces, exchanges⟩
    induction exchanges generalizing program with
    | done world =>
      cases traces
      exact .done value world
    | interfere event happens _ ih => exact .interfere event happens (ih traces)
    | call answers _ ih =>
      cases traces with
      | call reply rest => exact .call reply answers (ih rest)

end Environments

end Wrest.Interaction
