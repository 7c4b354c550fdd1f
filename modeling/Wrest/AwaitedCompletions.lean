import Wrest.TransitionRuns
import Wrest.CompletionSignals
import Mathlib.Data.List.Nodup
import Mathlib.Data.List.Range

/-!
# Operations that share one completion signal

`await_win32` installs a listener, starts an operation, and waits for its callback.  When
the start fails, no callback comes, and the listener is abandoned; the next operation
replaces it.  When the start succeeds, exactly one callback comes, before or after the
first poll.  Operations on one signal follow each other, and a signal may also be given
while no listener is installed.
-/

namespace Wrest.AwaitedCompletion

open Transition

variable {T E : Type}

/-- Where the current call of `await_win32` is. -/
inductive AwaitPosition
  | idle
  | listening (listener : Nat)
  | awaiting (listener : Nat)

/-- The signal with the history of its operations: the number of the operations started,
the one whose callback is still to come, the events of the callbacks with the operation
of each, what the started operations resolved with, the synchronous failures, and the
listeners that these left behind. -/
structure AwaitState (T E : Type) where
  signal : CompletionSignal T
  position : AwaitPosition
  started : Nat
  inFlight : Option Nat
  events : List (Nat × T)
  resolved : List (Except E T)
  failed : List E
  abandoned : List Nat

inductive AwaitStep (T E : Type)
  | listen
  | startOp (outcome : Except E Unit)
  | callback (event : T)
  | poll
  | signalUnheard (event : T)

namespace AwaitState

def initial : AwaitState T E where
  signal := .new
  position := .idle
  started := 0
  inFlight := none
  events := []
  resolved := []
  failed := []
  abandoned := []

end AwaitState

/-- The steps of `await_win32`, of the callback, and of a signal that nobody listens to. -/
def awaitStep (fromCancelled : SignalCancelled → E) (state : AwaitState T E) :
    AwaitStep T E → Option (AwaitState T E)
  | .listen =>
    match state.position with
    | .idle =>
      some { state with
        signal := state.signal.listen
        position := .listening state.signal.nextListener }
    | _ => none
  | .startOp outcome =>
    match state.position with
    | .listening listener =>
      match outcome with
      | .ok () =>
        some { state with
          position := .awaiting listener
          started := state.started + 1
          inFlight := some state.started }
      | .error error =>
        some { state with
          position := .idle
          failed := state.failed ++ [error]
          abandoned := state.abandoned ++ [listener] }
    | _ => none
  | .callback event =>
    match state.inFlight with
    | some operation =>
      some { state with
        signal := state.signal.signal event
        inFlight := none
        events := state.events ++ [(operation, event)] }
    | none => none
  | .poll =>
    match state.position with
    | .awaiting listener =>
      match state.signal.poll listener with
      | some result =>
        some { state with
          position := .idle
          resolved := state.resolved ++ [result.mapError fromCancelled] }
      | none => some state
    | _ => none
  | .signalUnheard event =>
    if state.signal.sender = none then
      some { state with signal := state.signal.signal event }
    else
      none

/-- The listener has received no event and is not the installed one of an operation. -/
def Deaf (signal : CompletionSignal T) (listener : Nat) : Prop :=
  listener < signal.channels.length ∧ ∀ event, signal.poll listener ≠ some (.ok event)

/-- Where the current operation is, with its event if the callback has come. -/
inductive Phase (state : AwaitState T E) : Prop
  | idle (position : state.position = .idle) (landed : state.inFlight = none)
      (counted : state.started = state.events.length)
      (heard : state.resolved.length = state.events.length)
      (left : ∀ listener, state.signal.sender = some listener →
        listener ∈ state.abandoned)
  | listening (listener : Nat) (position : state.position = .listening listener)
      (landed : state.inFlight = none) (counted : state.started = state.events.length)
      (heard : state.resolved.length = state.events.length)
      (installed : state.signal.sender = some listener)
      (fresh : listener ∉ state.abandoned)
  | waiting (listener : Nat) (position : state.position = .awaiting listener)
      (flying : state.inFlight = some state.events.length)
      (counted : state.started = state.events.length + 1)
      (heard : state.resolved.length = state.events.length)
      (installed : state.signal.sender = some listener)
      (fresh : listener ∉ state.abandoned)
  | signalled (listener : Nat) (position : state.position = .awaiting listener)
      (landed : state.inFlight = none) (counted : state.started = state.events.length)
      (event : T) (before : List (Nat × T))
      (last : state.events = before ++ [(state.resolved.length, event)])
      (received : state.signal.poll listener = some (.ok event))
      (vacant : state.signal.sender = none)

/-- The started operations have resolved with their own events, in order. -/
structure Delivering (state : AwaitState T E) : Prop where
  numbered : state.events.map Prod.fst = List.range state.events.length
  own : state.resolved =
    (state.events.take state.resolved.length).map fun event => .ok event.2
  deaf : ∀ listener ∈ state.abandoned, Deaf state.signal listener
  phase : Phase state

theorem delivering_initial : Delivering (.initial : AwaitState T E) where
  numbered := rfl
  own := rfl
  deaf := fun _ member => absurd member List.not_mem_nil
  phase := .idle rfl rfl rfl rfl nofun

section Deaf

variable {shared : CompletionSignal T} {listener : Nat}

theorem Deaf.listen (deaf : Deaf shared listener) : Deaf shared.listen listener := by
  constructor
  · simp only [CompletionSignal.listen, List.length_append, CompletionSignal.dropSender_length]
    exact Nat.lt_add_right _ deaf.1
  · intro event
    rw [CompletionSignal.poll_listen deaf.1]
    split
    · rintro ⟨⟩
    · exact deaf.2 event

theorem Deaf.signal (deaf : Deaf shared listener) (other : shared.sender ≠ some listener)
    (value : T) : Deaf (shared.signal value) listener := by
  constructor
  · have length : (shared.signal value).channels.length = shared.channels.length := by
      simp only [CompletionSignal.signal]
      split
      · exact List.length_set
      · rfl
    rw [length]
    exact deaf.1
  · rw [CompletionSignal.poll_signal_of_ne other]
    exact deaf.2

theorem deaf_of_installed (installed : shared.sender = some listener) :
    Deaf shared listener := by
  constructor
  · exact (List.getElem?_eq_some_iff.mp (shared.armed listener installed)).1
  · rw [CompletionSignal.poll_of_sender installed]
    exact nofun

end Deaf

section Steps

variable {fromCancelled : SignalCancelled → E} {state next : AwaitState T E}

theorem Delivering.listen (delivering : Delivering state)
    (steps : awaitStep fromCancelled state .listen = some next) : Delivering next := by
  obtain ⟨numbered, own, deaf, phase⟩ := delivering
  cases phase with
  | idle position landed counted heard left =>
    simp only [awaitStep, position, Option.some.injEq] at steps
    subst steps
    refine ⟨numbered, own, fun listener member => (deaf listener member).listen, ?_⟩
    refine .listening _ rfl landed counted heard rfl fun member => ?_
    exact absurd (deaf _ member).1 (Nat.lt_irrefl _)
  | listening listener position | waiting listener position | signalled listener position =>
    simp only [awaitStep, position] at steps
    cases steps

theorem Delivering.startOp {outcome : Except E Unit} (delivering : Delivering state)
    (steps : awaitStep fromCancelled state (.startOp outcome) = some next) :
    Delivering next := by
  obtain ⟨numbered, own, deaf, phase⟩ := delivering
  cases phase with
  | listening listener position landed counted heard installed fresh =>
    simp only [awaitStep, position] at steps
    cases outcome with
    | ok value =>
      obtain rfl := Option.some.inj steps
      refine ⟨numbered, own, deaf, .waiting listener rfl ?_ ?_ heard installed fresh⟩
      · exact congrArg some counted
      · exact congrArg (· + 1) counted
    | error error =>
      obtain rfl := Option.some.inj steps
      refine ⟨numbered, own, ?_, .idle rfl landed counted heard ?_⟩
      · intro abandoned member
        rcases List.mem_append.mp member with earlier | now
        · exact deaf abandoned earlier
        · rw [List.mem_singleton.mp now]
          exact deaf_of_installed installed
      · intro current same
        rw [installed] at same
        rw [← Option.some.inj same]
        exact List.mem_append_right _ (List.mem_singleton_self listener)
  | idle position =>
    simp only [awaitStep, position] at steps
    cases steps
  | waiting listener position | signalled listener position =>
    simp only [awaitStep, position] at steps
    cases steps

theorem Delivering.callback {event : T} (delivering : Delivering state)
    (steps : awaitStep fromCancelled state (.callback event) = some next) :
    Delivering next := by
  obtain ⟨numbered, own, deaf, phase⟩ := delivering
  cases phase with
  | waiting listener position flying counted heard installed fresh =>
    simp only [awaitStep, flying, Option.some.injEq] at steps
    subst steps
    constructor
    · rw [List.map_append, numbered, List.length_append, List.length_singleton,
        List.range_succ]
      rfl
    · simpa only [heard, List.take_left' rfl, List.take_length] using own
    · intro abandoned member
      refine Deaf.signal (deaf abandoned member) ?_ event
      rw [installed]
      rintro ⟨rfl⟩
      exact fresh member
    · refine .signalled listener position rfl ?_ event state.events ?_ ?_ rfl
      · simpa using counted
      · rw [heard]
      · exact CompletionSignal.poll_signal installed event
  | idle position landed | signalled listener position landed =>
    simp only [awaitStep, landed] at steps
    cases steps
  | listening listener position landed =>
    simp only [awaitStep, landed] at steps
    cases steps

theorem Delivering.poll (delivering : Delivering state)
    (steps : awaitStep fromCancelled state .poll = some next) : Delivering next := by
  have unchanged := delivering
  obtain ⟨numbered, own, deaf, phase⟩ := delivering
  cases phase with
  | idle position =>
    simp only [awaitStep, position] at steps
    cases steps
  | listening listener position =>
    simp only [awaitStep, position] at steps
    cases steps
  | waiting listener position flying counted heard installed =>
    simp only [awaitStep, position, CompletionSignal.poll_of_sender installed,
      Option.some.injEq] at steps
    subst steps
    exact unchanged
  | signalled listener position landed counted event before last received vacant =>
    simp only [awaitStep, position, received, Option.some.injEq] at steps
    subst steps
    have lengths : before.length = state.resolved.length := by
      have ordered := congrArg List.length last
      have numbers := numbered
      rw [last, List.map_append, List.length_append, List.length_singleton,
        List.range_succ] at numbers
      have same := (List.append_inj' numbers rfl).2
      simpa using same.symm
    refine ⟨numbered, ?_, deaf, .idle rfl landed counted ?_ ?_⟩
    · rw [List.length_append, List.length_singleton, last, ← lengths,
        List.take_of_length_le (by simp)]
      rw [last, ← lengths, List.take_left' rfl] at own
      rw [List.map_append, ← own]
      rfl
    · rw [List.length_append, last, List.length_append, lengths]
      rfl
    · rw [vacant]
      rintro listener ⟨⟩

theorem signalUnheard_eq {event : T}
    (steps : awaitStep fromCancelled state (.signalUnheard event) = some next) :
    next = state := by
  simp only [awaitStep] at steps
  split at steps
  · next vacant =>
    rw [CompletionSignal.signal_of_vacant vacant] at steps
    exact (Option.some.inj steps).symm
  · cases steps

theorem Delivering.step {label : AwaitStep T E} (delivering : Delivering state)
    (steps : awaitStep fromCancelled state label = some next) : Delivering next := by
  cases label with
  | listen => exact delivering.listen steps
  | startOp outcome => exact delivering.startOp steps
  | callback event => exact delivering.callback steps
  | poll => exact delivering.poll steps
  | signalUnheard event =>
    rw [signalUnheard_eq steps]
    exact delivering

end Steps

section Runs

variable {fromCancelled : SignalCancelled → E} {labels : List (AwaitStep T E)}
variable {state last : AwaitState T E}

def isUnheard : AwaitStep T E → Bool
  | .signalUnheard _ => true
  | _ => false

/-- A run without the signals that nobody listens to goes the same way. -/
theorem run_filter_isUnheard
    (reaches : run (awaitStep fromCancelled) state labels = some last) :
    run (awaitStep fromCancelled) state (labels.filter fun label => !isUnheard label) =
      some last := by
  induction labels generalizing state with
  | nil => exact reaches
  | cons label labels ih =>
    obtain ⟨next, steps, rest⟩ := run_cons_eq_some.mp reaches
    cases label with
    | signalUnheard event =>
      rw [signalUnheard_eq steps] at rest
      exact ih rest
    | listen | startOp outcome | callback event | poll =>
      exact run_cons_eq_some.mpr ⟨next, steps, ih rest⟩

/-- What the operations of a run have received.  The operations are numbered in the order
in which they were started. -/
structure DeliversOwnEvents (fromCancelled : SignalCancelled → E)
    (labels : List (AwaitStep T E)) (state : AwaitState T E) : Prop where
  resolves : ∀ operation result, state.resolved[operation]? = some result →
    ∃ event, (operation, event) ∈ state.events ∧ result = .ok event
  single : (state.events.map Prod.fst).Nodup
  ready : ∀ listener, state.position = .awaiting listener → state.inFlight = none →
    ∃ event, (state.resolved.length, event) ∈ state.events ∧
      state.signal.poll listener = some (.ok event)
  pending : ∀ listener operation, state.position = .awaiting listener →
    state.inFlight = some operation →
      operation = state.resolved.length ∧ state.signal.poll listener = none
  abandoned : ∀ listener ∈ state.abandoned, ∀ event,
    state.signal.poll listener ≠ some (.ok event)
  unheard : run (awaitStep fromCancelled) .initial
    (labels.filter fun label => !isUnheard label) = some state

/-- The event at a position is the one of the operation of that number. -/
theorem Delivering.number_eq (delivering : Delivering state) {position : Nat}
    {entry : Nat × T} (found : state.events[position]? = some entry) :
    entry.1 = position := by
  have named : (state.events.map Prod.fst)[position]? = some entry.1 := by
    rw [List.getElem?_map, found]
    rfl
  rw [delivering.numbered] at named
  obtain ⟨inside, same⟩ := List.getElem?_eq_some_iff.mp named
  rw [List.getElem_range] at same
  exact same.symm

/-- In every run, each started operation resolves with the event of its own callback, an
abandoned listener receives no event, and a signal that nobody listens to changes nothing. -/
theorem run_deliversOwnEvents
    (reaches : run (awaitStep fromCancelled) .initial labels = some last) :
    DeliversOwnEvents fromCancelled labels last := by
  have delivering : Delivering last :=
    invariant_of_run Delivering (fun _ _ _ holds steps => holds.step steps)
      delivering_initial reaches
  constructor
  · intro operation result resolved
    rw [delivering.own, List.getElem?_map, Option.map_eq_some_iff] at resolved
    obtain ⟨entry, taken, rfl⟩ := resolved
    rw [List.getElem?_take] at taken
    split at taken
    · have member := List.mem_of_getElem? taken
      refine ⟨entry.2, ?_, rfl⟩
      rwa [← delivering.number_eq taken]
    · cases taken
  · rw [delivering.numbered]
    exact List.nodup_range
  · intro listener awaiting landed
    cases delivering.phase with
    | idle position | listening _ position =>
      rw [position] at awaiting
      cases awaiting
    | waiting _ _ flying =>
      rw [flying] at landed
      cases landed
    | signalled current position _ _ event before ordered received =>
      rw [position] at awaiting
      cases awaiting
      refine ⟨event, ?_, received⟩
      rw [ordered]
      exact List.mem_append_right _ (List.mem_singleton_self _)
  · intro listener operation awaiting flying
    cases delivering.phase with
    | idle position | listening _ position =>
      rw [position] at awaiting
      cases awaiting
    | waiting current position flies _ heard installed =>
      rw [position] at awaiting
      cases awaiting
      rw [flies] at flying
      rw [heard]
      exact ⟨(Option.some.inj flying).symm, CompletionSignal.poll_of_sender installed⟩
    | signalled _ _ landed =>
      rw [landed] at flying
      cases flying
  · exact fun listener member => (delivering.deaf listener member).2
  · exact run_filter_isUnheard reaches

/-- One start fails, and two succeed: the callback of the first comes before its poll, and
the one of the second after a poll.  In between, a signal finds no listener. -/
def mixedLabels : List (AwaitStep Nat Nat) :=
  [.listen, .startOp (.error 5), .listen, .startOp (.ok ()), .callback 7, .signalUnheard 9,
    .poll, .listen, .startOp (.ok ()), .poll, .callback 8, .poll]

theorem run_deliversOwnEvents_mixed : ∃ last,
    last.resolved = [.ok 7, .ok 8] ∧ last.failed = [5] ∧
      DeliversOwnEvents (fun _ => 0) mixedLabels last :=
  ⟨_, rfl, rfl, run_deliversOwnEvents rfl⟩

end Runs

end Wrest.AwaitedCompletion
