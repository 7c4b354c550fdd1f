/-!
# Programs that interact with an interfering environment

A sequential program that calls an external interface is a tree: it either
returns a value or makes a call and continues with the reply.  The environment
decides which replies a call may receive, how its own state changes with a
reply, and which events of other parties may happen between two calls of the
program.  A run is one path through the tree together with such events.

The file gives the monad structure, the runs, and the rules by which a
statement about every run of a program is assembled from statements about its
parts: sequencing, early return with an error, a single call, and the rules
for properties that only some calls can change.
-/

namespace Wrest.Interaction

/-- The calls that a program may make, with the type of each reply. -/
structure Interface where
  Call : Type
  Reply : Call → Type

/-- A program over an interface. -/
inductive Program (I : Interface) (α : Type) : Type
  | pure (value : α)
  | call (request : I.Call) (next : I.Reply request → Program I α)

namespace Program

variable {I : Interface} {α β γ : Type}

def bind : Program I α → (α → Program I β) → Program I β
  | .pure value, rest => rest value
  | .call request next, rest => .call request fun reply => (next reply).bind rest

instance : Monad (Program I) where
  pure := Program.pure
  bind := Program.bind

@[simp]
theorem call_bind (request : I.Call) (next : I.Reply request → Program I α)
    (rest : α → Program I β) :
    (Program.call request next >>= rest) =
      .call request fun reply => next reply >>= rest :=
  rfl

/-- Every call that the program can make is allowed. -/
def Makes (allowed : I.Call → Prop) : Program I α → Prop
  | .pure _ => True
  | .call request next => allowed request ∧ ∀ reply, (next reply).Makes allowed

/-- Every value that the program can return satisfies the condition. -/
def Returns (condition : α → Prop) : Program I α → Prop
  | .pure value => condition value
  | .call _ next => ∀ reply, (next reply).Returns condition

theorem Returns.bind {first : α → Prop} {condition : β → Prop}
    {program : Program I α} {rest : α → Program I β} (returns : program.Returns first)
    (second : ∀ value, first value → (rest value).Returns condition) :
    (program >>= rest).Returns condition := by
  induction program with
  | pure value => exact second value returns
  | call request next ih => exact fun reply => ih reply (returns reply)

theorem returns_of_forall {condition : α → Prop} (always : ∀ value, condition value)
    (program : Program I α) : program.Returns condition := by
  induction program with
  | pure value => exact always value
  | call request next ih => exact ih

theorem Makes.bind {allowed : I.Call → Prop} {program : Program I α}
    {rest : α → Program I β} (first : program.Makes allowed)
    (second : ∀ value, (rest value).Makes allowed) :
    (program >>= rest).Makes allowed := by
  induction program with
  | pure value => exact second value
  | call request next ih =>
    exact ⟨first.1, fun reply => ih reply (first.2 reply)⟩

theorem Makes.mono {allowed more : I.Call → Prop} {program : Program I α}
    (makes : program.Makes allowed) (implies : ∀ call, allowed call → more call) :
    program.Makes more := by
  induction program with
  | pure value => trivial
  | call request next ih =>
    exact ⟨implies request makes.1, fun reply => ih reply (makes.2 reply)⟩

end Program

/-- A program that may return early with an error. -/
abbrev Attempt (I : Interface) (ε α : Type) : Type :=
  ExceptT ε (Program I) α

/-- The other side of the interface: the events that happen on their own, and
the replies that a call may receive. -/
structure Environment (I : Interface) (World : Type) where
  Event : Type
  interfere : World → Event → Option World
  respond : World → (request : I.Call) → I.Reply request → World → Prop

variable {I : Interface} {World : Type} {α β ε : Type}

/-- `Runs environment program world value last`: starting in `world`, the
program can return `value` with the environment in `last`. -/
inductive Runs (environment : Environment I World) :
    Program I α → World → α → World → Prop
  | done (value : α) (world : World) :
      Runs environment (.pure value) world value world
  | interfere {program : Program I α} {world middle last : World} {value : α}
      (event : environment.Event)
      (happens : environment.interfere world event = some middle)
      (rest : Runs environment program middle value last) :
      Runs environment program world value last
  | call {request : I.Call} {next : I.Reply request → Program I α}
      {world middle last : World} {value : α} (reply : I.Reply request)
      (answers : environment.respond world request reply middle)
      (rest : Runs environment (next reply) middle value last) :
      Runs environment (.call request next) world value last

/-- Every run of the program from `world` ends in the postcondition. -/
def Ensures (environment : Environment I World) (program : Program I α)
    (post : α → World → Prop) (world : World) : Prop :=
  ∀ value last, Runs environment program world value last → post value last

/-- The events of the environment preserve the assertion. -/
def Environment.Stable (environment : Environment I World)
    (assertion : World → Prop) : Prop :=
  ∀ current event later, assertion current →
    environment.interfere current event = some later → assertion later

/-- The environment together with a history of what is observed at its calls. -/
def Environment.recording (environment : Environment I World) {Entry : Type}
    (observe : World → I.Call → Option Entry) :
    Environment I (World × List Entry) where
  Event := environment.Event
  interfere := fun (world, history) event =>
    (environment.interfere world event).map fun next => (next, history)
  respond := fun (world, history) request reply (next, extended) =>
    environment.respond world request reply next ∧
      extended = history ++ (observe world request).toList

variable {environment : Environment I World}

/-- An assertion is stable if it is for every history. -/
theorem Environment.Stable.recording {Entry : Type}
    {observe : World → I.Call → Option Entry} {assertion : World × List Entry → Prop}
    (stable : ∀ history, environment.Stable fun world => assertion (world, history)) :
    (environment.recording observe).Stable assertion := by
  rintro ⟨world, history⟩ event later holds happens
  obtain ⟨next, interferes, rfl⟩ := Option.map_eq_some_iff.mp happens
  exact stable history world event next holds interferes

theorem Runs.returns {condition : α → Prop} {program : Program I α}
    (returns : program.Returns condition) {world last : World} {value : α}
    (runs : Runs environment program world value last) : condition value := by
  induction runs with
  | done value world => exact returns
  | interfere event happens _ ih => exact ih returns
  | call reply answers _ ih => exact ih (returns reply)

/-- Without its history, a recorded run is a run. -/
theorem Runs.of_recording {Entry : Type} {observe : World → I.Call → Option Entry}
    {program : Program I α} {start last : World × List Entry} {value : α}
    (runs : Runs (environment.recording observe) program start value last) :
    Runs environment program start.1 value last.1 := by
  induction runs with
  | done value world => exact .done value world.1
  | interfere event happens _ ih =>
    obtain ⟨next, interferes, rfl⟩ := Option.map_eq_some_iff.mp happens
    exact .interfere event interferes ih
  | call reply answers _ ih => exact .call reply answers.1 ih

/-- A run is also a run with a history. -/
theorem Runs.recording {Entry : Type} (observe : World → I.Call → Option Entry)
    {program : Program I α} {world last : World} {value : α}
    (runs : Runs environment program world value last) (history : List Entry) :
    ∃ extended, Runs (environment.recording observe) program (world, history) value
      (last, extended) := by
  induction runs generalizing history with
  | done value world => exact ⟨history, .done value _⟩
  | interfere event happens _ ih =>
    obtain ⟨extended, rest⟩ := ih history
    refine ⟨extended, .interfere event ?_ rest⟩
    exact Option.map_eq_some_iff.mpr ⟨_, happens, rfl⟩
  | call reply answers _ ih =>
    obtain ⟨extended, rest⟩ := ih _
    exact ⟨extended, .call reply ⟨answers, rfl⟩ rest⟩

/-- A run of two programs in sequence passes through the end of a run of the
first. -/
theorem Runs.of_bind {program : Program I α} {rest : α → Program I β}
    {world last : World} {value : β}
    (runs : Runs environment (program >>= rest) world value last) :
    ∃ first middle, Runs environment program world first middle ∧
      Runs environment (rest first) middle value last := by
  generalize whole : (program >>= rest) = sequence at runs
  induction runs generalizing program with
  | done value world =>
    cases program with
    | pure first =>
      have returned : rest first = .pure value := whole
      exact ⟨first, world, .done first world, returned ▸ .done value world⟩
    | call request next => simp at whole
  | interfere event happens _ ih =>
    obtain ⟨first, middle, firstRuns, restRuns⟩ := ih whole
    exact ⟨first, middle, .interfere event happens firstRuns, restRuns⟩
  | @call request next world middle last value reply answers following ih =>
    cases program with
    | pure first =>
      have returned : rest first = .call request next := whole
      exact ⟨first, world, .done first world,
        returned ▸ .call reply answers following⟩
    | call firstRequest firstNext =>
      obtain ⟨rfl, nextEq⟩ := Program.call.inj whole
      obtain rfl := eq_of_heq nextEq
      obtain ⟨first, later, firstRuns, restRuns⟩ := ih rfl
      exact ⟨first, later, .call reply answers firstRuns, restRuns⟩

theorem Runs.bind {program : Program I α} {rest : α → Program I β}
    {world middle last : World} {first : α} {value : β}
    (runs : Runs environment program world first middle)
    (continues : Runs environment (rest first) middle value last) :
    Runs environment (program >>= rest) world value last := by
  induction runs with
  | done first world => exact continues
  | interfere event happens _ ih => exact .interfere event happens (ih continues)
  | call reply answers _ ih => exact .call reply answers (ih continues)

theorem ensures_bind {program : Program I α} {rest : α → Program I β}
    {post : β → World → Prop} {world : World}
    (first : Ensures environment program
      (fun value middle => Ensures environment (rest value) post middle) world) :
    Ensures environment (program >>= rest) post world := by
  intro value last runs
  obtain ⟨firstValue, middle, firstRuns, restRuns⟩ := runs.of_bind
  exact first firstValue middle firstRuns value last restRuns

/-- What the events preserve still holds when a returned program is observed. -/
theorem ensures_pure {post : α → World → Prop} {value : α} {world : World}
    (stable : environment.Stable (post value)) (holds : post value world) :
    Ensures environment (.pure value) post world := by
  intro result last runs
  generalize whole : Program.pure value = program at runs
  induction runs with
  | done result world =>
    cases whole
    exact holds
  | interfere event happens _ ih =>
    exact ih (stable _ event _ holds happens) whole
  | call reply answers following ih => cases whole

/-- A call: events may precede the reply, so the precondition must be one that
they preserve. -/
theorem ensures_call {request : I.Call}
    {next : I.Reply request → Program I α} {before : World → Prop}
    {post : α → World → Prop} {world : World}
    (stable : environment.Stable before) (holds : before world)
    (replies : ∀ current reply later, before current →
      environment.respond current request reply later →
        Ensures environment (next reply) post later) :
    Ensures environment (.call request next) post world := by
  intro value last runs
  generalize whole : Program.call request next = program at runs
  induction runs with
  | done value world => cases whole
  | interfere event happens _ ih =>
    exact ih (stable _ event _ holds happens) whole
  | call reply answers following ih =>
    cases whole
    exact replies _ reply _ holds answers _ _ following

/-- A property of the environment that neither the events nor the calls of a
program can break holds at the end of its runs. -/
theorem Runs.invariant {allowed : I.Call → Prop} {invariant : World → Prop}
    (stable : environment.Stable invariant)
    (replies : ∀ current request reply later, allowed request →
      invariant current →
      environment.respond current request reply later →
        invariant later)
    {program : Program I α} (makes : program.Makes allowed)
    {world last : World} {value : α} (holds : invariant world)
    (runs : Runs environment program world value last) : invariant last := by
  induction runs with
  | done value world => exact holds
  | interfere event happens _ ih =>
    exact ih makes (stable _ event _ holds happens)
  | call reply answers _ ih =>
    exact ih (makes.2 reply) (replies _ _ reply _ makes.1 holds answers)

/-- Calls that are not observed leave the history alone. -/
theorem Runs.history_eq {Entry : Type} {observe : World → I.Call → Option Entry}
    {program : Program I α}
    (makes : program.Makes fun call => ∀ world, observe world call = none)
    {start last : World × List Entry} {value : α}
    (runs : Runs (environment.recording observe) program start value last) :
    last.2 = start.2 := by
  have stable : (environment.recording observe).Stable fun world =>
      world.2 = start.2 := by
    apply Environment.Stable.recording
    intro history world event next same happens
    exact same
  refine Runs.invariant stable ?_ makes rfl runs
  intro world call reply next unobserved same answers
  rw [answers.2, unobserved, same]
  exact List.append_nil _

theorem Runs.recording_call {Entry : Type} {observe : World → I.Call → Option Entry}
    {request : I.Call} {next : I.Reply request → Program I α} {world middle : World}
    {history : List Entry} {last : World × List Entry} {value : α}
    (reply : I.Reply request) (answers : environment.respond world request reply middle)
    (rest : Runs (environment.recording observe) (next reply)
      (middle, history ++ (observe world request).toList) value last) :
    Runs (environment.recording observe) (.call request next) (world, history) value
      last :=
  .call reply ⟨answers, rfl⟩ rest

theorem Runs.recording_of_makes {Entry : Type} {observe : World → I.Call → Option Entry}
    {program : Program I α}
    (makes : program.Makes fun call => ∀ world, observe world call = none)
    {world last : World} {value : α} (runs : Runs environment program world value last)
    (history : List Entry) :
    Runs (environment.recording observe) program (world, history) value
      (last, history) := by
  obtain ⟨extended, recorded⟩ := runs.recording observe history
  obtain rfl : extended = history := recorded.history_eq makes
  exact recorded

theorem Program.Makes.attempt_bind {allowed : I.Call → Prop}
    {program : Attempt I ε α} {rest : α → Attempt I ε β}
    (first : Program.Makes (α := Except ε α) allowed program)
    (second : ∀ value, Program.Makes (α := Except ε β) allowed (rest value)) :
    Program.Makes (α := Except ε β) allowed (program >>= rest : Attempt I ε β) := by
  apply Program.Makes.bind first
  intro outcome
  cases outcome with
  | ok value => exact second value
  | error failure => trivial

/-- A postcondition of an attempt from one for its value and one for its
error. -/
def outcomes (returns : α → World → Prop) (fails : ε → World → Prop) :
    Except ε α → World → Prop
  | .ok value => returns value
  | .error failure => fails failure

/-- From every state of the precondition, an attempt returns and fails only as
described. -/
def Triple (environment : Environment I World) (before : World → Prop)
    (attempt : Attempt I ε α) (returns : α → World → Prop)
    (fails : ε → World → Prop) : Prop :=
  ∀ world, before world →
    Ensures environment (α := Except ε α) attempt (outcomes returns fails) world

namespace Triple

variable {before : World → Prop} {attempt : Attempt I ε α}
  {returns : α → World → Prop} {fails : ε → World → Prop}

theorem pure {value : α} (stable : environment.Stable (returns value))
    (holds : ∀ world, before world → returns value world) :
    Triple environment before (Program.pure (.ok value) : Attempt I ε α)
      returns fails := by
  intro world beforeHolds
  apply ensures_pure
  · exact stable
  · exact holds world beforeHolds

theorem throw {failure : ε} (stable : environment.Stable (fails failure))
    (holds : ∀ world, before world → fails failure world) :
    Triple environment before (Program.pure (.error failure) : Attempt I ε α)
      returns fails := by
  intro world beforeHolds
  apply ensures_pure
  · exact stable
  · exact holds world beforeHolds

theorem weaken {required : World → Prop}
    (triple : Triple environment required attempt returns fails)
    (implies : ∀ world, before world → required world) :
    Triple environment before attempt returns fails :=
  fun world holds => triple world (implies world holds)

theorem mono {moreReturns : α → World → Prop} {moreFails : ε → World → Prop}
    (triple : Triple environment before attempt returns fails)
    (returned : ∀ value world, returns value world → moreReturns value world)
    (failed : ∀ failure world, fails failure world → moreFails failure world) :
    Triple environment before attempt moreReturns moreFails := by
  intro world holds outcome last runs
  have ends := triple world holds outcome last runs
  cases outcome with
  | ok value => exact returned value last ends
  | error failure => exact failed failure last ends

theorem call {request : I.Call}
    {next : I.Reply request → Attempt I ε α} {after : I.Reply request → World → Prop}
    (stable : environment.Stable before)
    (replies : ∀ world reply later, before world →
      environment.respond world request reply later → after reply later)
    (continues : ∀ reply,
      Triple environment (after reply) (next reply) returns fails) :
    Triple environment before (Program.call request next : Attempt I ε α)
      returns fails :=
  fun _ holds => ensures_call stable holds fun current reply later beforeReply answers =>
    continues reply later (replies current reply later beforeReply answers)

/-- What no allowed call can break survives an attempt that makes only these. -/
theorem of_makes {allowed : I.Call → Prop} {invariant : World → Prop}
    (makes : Program.Makes (α := Except ε α) allowed attempt)
    (stable : environment.Stable invariant)
    (replies : ∀ current request reply later, allowed request →
      invariant current → environment.respond current request reply later →
        invariant later) :
    Triple environment invariant attempt (fun _ => invariant)
      (fun _ => invariant) := by
  intro world holds outcome last runs
  have kept := runs.invariant stable replies makes holds
  cases outcome with
  | ok value => exact kept
  | error failure => exact kept

/-- A triple about unobserved calls holds with any history, which they leave
alone. -/
theorem recording {Entry : Type} {observe : World → I.Call → Option Entry}
    (triple : Triple environment before attempt returns fails)
    (makes : Program.Makes (α := Except ε α)
      (fun call => ∀ world, observe world call = none) attempt)
    (history : List Entry) :
    Triple (environment.recording observe)
      (fun world => before world.1 ∧ world.2 = history) attempt
      (fun value world => returns value world.1 ∧ world.2 = history)
      (fun failure world => fails failure world.1 ∧ world.2 = history) := by
  rintro world ⟨holds, rfl⟩ outcome last runs
  have ends := triple world.1 holds outcome last.1 runs.of_recording
  have same := runs.history_eq makes
  cases outcome with
  | ok value => exact ⟨ends, same⟩
  | error failure => exact ⟨ends, same⟩

/-- Sequencing with a continuation that examines the outcome. -/
theorem bind_outcome {program : Attempt I ε α} {rest : Except ε α → Attempt I ε β}
    {middle : α → World → Prop} {failed : ε → World → Prop}
    {returns : β → World → Prop}
    (first : Triple environment before program middle failed)
    (second : ∀ value, Triple environment (middle value) (rest (.ok value)) returns fails)
    (handles : ∀ failure,
      Triple environment (failed failure) (rest (.error failure)) returns fails) :
    Triple environment before (Program.bind program rest : Attempt I ε β)
      returns fails := by
  intro world holds
  apply ensures_bind
  intro outcome middle runs
  have ends := first world holds outcome middle runs
  cases outcome with
  | ok value => exact second value middle ends
  | error failure => exact handles failure middle ends

/-- Sequencing: an error of the first part is returned at once. -/
theorem bind {rest : α → Attempt I ε β} {middle : α → World → Prop}
    {returns : β → World → Prop}
    (first : Triple environment before attempt middle fails)
    (second : ∀ value, Triple environment (middle value) (rest value) returns fails)
    (stable : ∀ failure, environment.Stable (fails failure)) :
    Triple environment before (attempt >>= rest) returns fails :=
  bind_outcome first second fun failure => throw (stable failure) fun _ holds => holds

end Triple

end Wrest.Interaction
