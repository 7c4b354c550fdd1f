import Wrest.TransitionRuns
import Wrest.CompletionSignals
import Wrest.DueTimes

/-!
# Delays on the thread pool

A `Delay` is a future that a timer of the system's thread pool resolves.  The timer is
given a raw pointer to the shared state as the context of its callback, and the delay
keeps the strong reference behind that pointer until its drop has stopped the timer,
waited for the callbacks, and closed the timer.

The steps of the delay are interleaved with those of the system: the clock, the expiry
of an armed timer, and every part of a callback.  The timer is armed once without a
period, so it expires once.  Stopping it keeps what is queued, and the wait first takes
back what is queued and then returns when no callback is running.
-/

namespace Wrest.Delay

open Transition ThreadpoolTimer

/-- Where one run of `timer_callback` is. -/
inductive CallbackStage
  | started
  | borrowed
  | signalled
  | returned
deriving DecidableEq, Repr

def CallbackStage.hasSignalled : CallbackStage → Bool
  | .started | .borrowed => false
  | .signalled | .returned => true

inductive TimerHandle
  | absent
  | opened
  | closed
deriving DecidableEq, Repr

/-- The record of the system for one timer. -/
structure TimerObject where
  handle : TimerHandle
  due : Option Nat
  queued : Nat
  callbacks : List CallbackStage
  closes : Nat

/-- The next operation of `Delay::new`, or of the drop of the delay. -/
inductive DelayPosition
  | creating
  | arming
  | failing
  | pending
  | stopping
  | waiting
  | draining
  | closing
  | releasing
  | unwinding
  | dropped
deriving DecidableEq, Repr

/-- `timer` and `callbackCtx` are the optional fields of the delay.  The tick at which
the timer was armed and the number of releases are recorded for the statements. -/
structure DelayState where
  position : DelayPosition
  timer : Bool
  callbackCtx : Bool
  releases : Nat
  strong : Nat
  signal : CompletionSignal Unit
  listener : Nat
  fired : Bool
  object : TimerObject
  clock : Nat
  armedAt : Option Nat

inductive DelayStep
  | createTimer (succeeds : Bool)
  | setRelative
  | dropContext
  | poll (ready : Bool)
  | drop
  | stop
  | cancelQueued
  | waitReturns
  | closeTimer
  | takeContext
  | dropState
  | tick
  | expire
  | callbackStarts
  | callbackContinues (index : Nat)
deriving DecidableEq, Repr

namespace DelayState

/-- The shared state exists, and its listener and the callback context. -/
def initial (clock : Nat) : DelayState where
  position := .creating
  timer := false
  callbackCtx := true
  releases := 0
  strong := 2
  signal := CompletionSignal.new.listen
  listener := CompletionSignal.nextListener (.new : CompletionSignal Unit)
  fired := false
  object := ⟨.absent, none, 0, [], 0⟩
  clock := clock
  armedAt := none

/-- Drop one reference of the shared state.  The last one drops the signal. -/
def dropReference (state : DelayState) : DelayState :=
  { state with
    strong := state.strong - 1
    signal := if state.strong ≤ 1 then state.signal.drop else state.signal }

/-- Drop the callback context of the delay. -/
def releaseContext (state : DelayState) : DelayState :=
  { state.dropReference with
    callbackCtx := false
    releases := state.releases + 1 }

/-- Whether `poll` returns `Ready`.  A cancelled listener counts as elapsed. -/
def isReady (state : DelayState) : Bool :=
  state.fired || (state.signal.poll state.listener).isSome

def withCallback (state : DelayState) (index : Nat) (stage : CallbackStage) : DelayState :=
  { state with
    object := { state.object with callbacks := state.object.callbacks.set index stage } }

def atPosition (state : DelayState) (position : DelayPosition) (next : DelayState) :
    Option DelayState :=
  if state.position = position then some next else none

end DelayState

/-- One atomic step of the delay or of the system. -/
def delayStep (dur : Duration) (state : DelayState) : DelayStep → Option DelayState
  | .createTimer succeeds =>
    state.atPosition .creating <|
      if succeeds then
        { state with
          position := .arming
          object := { state.object with handle := .opened } }
      else
        { state with position := .failing }
  | .setRelative =>
    state.atPosition .arming
      { state with
        position := .pending
        timer := true
        armedAt := some state.clock
        object := { state.object with
          due := (setRelative (some dur)).map fun time => time.dueAt state.clock } }
  | .dropContext =>
    state.atPosition .failing { state.releaseContext with position := .pending }
  | .poll ready =>
    if state.position = .pending ∧ state.isReady = ready then
      some { state with fired := ready }
    else
      none
  | .drop =>
    state.atPosition .pending
      { state with
        position := if state.timer then .stopping else .unwinding
        timer := false }
  | .stop =>
    state.atPosition .stopping
      { state with
        position := .waiting
        object := { state.object with due := none } }
  | .cancelQueued =>
    state.atPosition .waiting
      { state with
        position := .draining
        object := { state.object with queued := 0 } }
  | .waitReturns =>
    if state.position = .draining ∧
        ∀ stage ∈ state.object.callbacks, stage = .returned then
      some { state with position := .closing }
    else
      none
  | .closeTimer =>
    state.atPosition .closing
      { state with
        position := .releasing
        object := { state.object with handle := .closed, closes := state.object.closes + 1 } }
  | .takeContext =>
    state.atPosition .releasing { state.releaseContext with position := .unwinding }
  | .dropState =>
    state.atPosition .unwinding { state.dropReference with position := .dropped }
  | .tick => some { state with clock := state.clock + 1 }
  | .expire =>
    match state.object.due with
    | some due =>
      if due ≤ state.clock then
        some { state with
          object := { state.object with due := none, queued := state.object.queued + 1 } }
      else
        none
    | none => none
  | .callbackStarts =>
    if 0 < state.object.queued then
      some { state with
        object := { state.object with
          queued := state.object.queued - 1
          callbacks := state.object.callbacks ++ [.started] } }
    else
      none
  | .callbackContinues index =>
    match state.object.callbacks[index]? with
    | some .started => some (state.withCallback index .borrowed)
    | some .borrowed =>
      some { state.withCallback index .signalled with signal := state.signal.signal () }
    | some .signalled => some (state.withCallback index .returned)
    | some .returned | none => none

/-- What one step can do, with the condition under which it is taken. -/
inductive DelayMove (dur : Duration) (state : DelayState) :
    DelayStep → DelayState → Prop
  | created (creating : state.position = .creating) :
      DelayMove dur state (.createTimer true)
        { state with
          position := .arming
          object := { state.object with handle := .opened } }
  | refused (creating : state.position = .creating) :
      DelayMove dur state (.createTimer false) { state with position := .failing }
  | armed {time : FileTime} (arming : state.position = .arming)
      (encoded : setRelative (some dur) = some time) :
      DelayMove dur state .setRelative
        { state with
          position := .pending
          timer := true
          armedAt := some state.clock
          object := { state.object with due := some (time.dueAt state.clock) } }
  | disabled (failing : state.position = .failing) :
      DelayMove dur state .dropContext { state.releaseContext with position := .pending }
  | polled (pending : state.position = .pending) :
      DelayMove dur state (.poll state.isReady) { state with fired := state.isReady }
  | dropsTimer (pending : state.position = .pending) (timer : state.timer = true) :
      DelayMove dur state .drop { state with position := .stopping, timer := false }
  | dropsNothing (pending : state.position = .pending) (timer : state.timer = false) :
      DelayMove dur state .drop { state with position := .unwinding, timer := false }
  | stopped (stopping : state.position = .stopping) :
      DelayMove dur state .stop
        { state with
          position := .waiting
          object := { state.object with due := none } }
  | cancelled (waiting : state.position = .waiting) :
      DelayMove dur state .cancelQueued
        { state with
          position := .draining
          object := { state.object with queued := 0 } }
  | drained (draining : state.position = .draining)
      (returned : ∀ stage ∈ state.object.callbacks, stage = .returned) :
      DelayMove dur state .waitReturns { state with position := .closing }
  | closed (closing : state.position = .closing) :
      DelayMove dur state .closeTimer
        { state with
          position := .releasing
          object := { state.object with
            handle := .closed, closes := state.object.closes + 1 } }
  | released (releasing : state.position = .releasing) :
      DelayMove dur state .takeContext { state.releaseContext with position := .unwinding }
  | dropped (unwinding : state.position = .unwinding) :
      DelayMove dur state .dropState { state.dropReference with position := .dropped }
  | ticked : DelayMove dur state .tick { state with clock := state.clock + 1 }
  | expired {due : Nat} (armed : state.object.due = some due) (reached : due ≤ state.clock) :
      DelayMove dur state .expire
        { state with
          object := { state.object with due := none, queued := state.object.queued + 1 } }
  | starts (queued : 0 < state.object.queued) :
      DelayMove dur state .callbackStarts
        { state with
          object := { state.object with
            queued := state.object.queued - 1
            callbacks := state.object.callbacks ++ [.started] } }
  | borrows {index : Nat} (started : state.object.callbacks[index]? = some .started) :
      DelayMove dur state (.callbackContinues index) (state.withCallback index .borrowed)
  | signals {index : Nat} (borrowed : state.object.callbacks[index]? = some .borrowed) :
      DelayMove dur state (.callbackContinues index)
        { state.withCallback index .signalled with signal := state.signal.signal () }
  | returns {index : Nat} (signalled : state.object.callbacks[index]? = some .signalled) :
      DelayMove dur state (.callbackContinues index) (state.withCallback index .returned)

theorem DelayState.atPosition_eq_some {state next last : DelayState}
    {position : DelayPosition} :
    state.atPosition position next = some last ↔
      state.position = position ∧ next = last := by
  simp [DelayState.atPosition]

theorem delayMove_of_delayStep {dur : Duration} {state next : DelayState}
    {label : DelayStep} (steps : delayStep dur state label = some next) :
    DelayMove dur state label next := by
  cases label with
  | createTimer succeeds =>
    obtain ⟨creating, rfl⟩ := DelayState.atPosition_eq_some.mp steps
    cases succeeds with
    | true => exact .created creating
    | false => exact .refused creating
  | setRelative =>
    obtain ⟨arming, rfl⟩ := DelayState.atPosition_eq_some.mp steps
    exact .armed arming rfl
  | dropContext =>
    obtain ⟨failing, rfl⟩ := DelayState.atPosition_eq_some.mp steps
    exact .disabled failing
  | poll ready =>
    simp only [delayStep, Option.ite_none_right_eq_some, Option.some.injEq] at steps
    obtain ⟨⟨pending, rfl⟩, rfl⟩ := steps
    exact .polled pending
  | drop =>
    obtain ⟨pending, rfl⟩ := DelayState.atPosition_eq_some.mp steps
    cases timer : state.timer with
    | true => exact .dropsTimer pending timer
    | false => exact .dropsNothing pending timer
  | stop =>
    obtain ⟨stopping, rfl⟩ := DelayState.atPosition_eq_some.mp steps
    exact .stopped stopping
  | cancelQueued =>
    obtain ⟨waiting, rfl⟩ := DelayState.atPosition_eq_some.mp steps
    exact .cancelled waiting
  | waitReturns =>
    simp only [delayStep, Option.ite_none_right_eq_some, Option.some.injEq] at steps
    obtain ⟨⟨draining, returned⟩, rfl⟩ := steps
    exact .drained draining returned
  | closeTimer =>
    obtain ⟨closing, rfl⟩ := DelayState.atPosition_eq_some.mp steps
    exact .closed closing
  | takeContext =>
    obtain ⟨releasing, rfl⟩ := DelayState.atPosition_eq_some.mp steps
    exact .released releasing
  | dropState =>
    obtain ⟨unwinding, rfl⟩ := DelayState.atPosition_eq_some.mp steps
    exact .dropped unwinding
  | tick =>
    obtain rfl := Option.some.inj steps
    exact .ticked
  | expire =>
    simp only [delayStep] at steps
    split at steps
    · next due armed =>
      simp only [Option.ite_none_right_eq_some, Option.some.injEq] at steps
      obtain ⟨reached, rfl⟩ := steps
      exact .expired armed reached
    · cases steps
  | callbackStarts =>
    simp only [delayStep, Option.ite_none_right_eq_some, Option.some.injEq] at steps
    obtain ⟨queued, rfl⟩ := steps
    exact .starts queued
  | callbackContinues index =>
    simp only [delayStep] at steps
    split at steps
    · next started =>
      obtain rfl := Option.some.inj steps
      exact .borrows started
    · next borrowed =>
      obtain rfl := Option.some.inj steps
      exact .signals borrowed
    · next signalled =>
      obtain rfl := Option.some.inj steps
      exact .returns signalled
    · cases steps
    · cases steps

/-- The optional timer of the delay, the handle, the optional context, and whether the
timer was armed, at each position.  A delay without a timer is pending without a
context. -/
def DelayPosition.layouts : DelayPosition → List (Bool × TimerHandle × Bool × Bool)
  | .creating | .failing => [(false, .absent, true, false)]
  | .arming => [(false, .opened, true, false)]
  | .pending => [(true, .opened, true, true), (false, .absent, false, false)]
  | .stopping | .waiting | .draining | .closing => [(false, .opened, true, true)]
  | .releasing => [(false, .closed, true, true)]
  | .unwinding | .dropped =>
    [(false, .closed, false, true), (false, .absent, false, false)]

/-- What the delay owns. -/
structure DelayOwnership (state : DelayState) : Prop where
  layout : (state.timer, state.object.handle, state.callbackCtx, state.armedAt.isSome) ∈
    state.position.layouts
  strong : state.strong =
    state.callbackCtx.toNat + if state.position = .dropped then 0 else 1
  releases : state.releases = (!state.callbackCtx).toNat
  closes : state.object.closes = if state.object.handle = .closed then 1 else 0

theorem DelayOwnership.step {dur : Duration} {state next : DelayState} {label : DelayStep}
    (holds : DelayOwnership state) (move : DelayMove dur state label next) :
    DelayOwnership next := by
  obtain ⟨layout, strong, releases, closes⟩ := holds
  cases move with
  | created position | refused position | armed position | disabled position
  | dropsTimer position | dropsNothing position | stopped position | cancelled position
  | drained position | closed position | released position | dropped position =>
    constructor <;>
      simp_all [DelayPosition.layouts, DelayState.releaseContext,
        DelayState.dropReference]
  | polled | ticked | expired | starts | borrows | signals | returns =>
    exact ⟨layout, strong, releases, closes⟩

/-- The expiry that is still to come, and the callbacks that came of it. -/
def TimerObject.shots (object : TimerObject) : Nat :=
  object.due.toList.length + object.queued + object.callbacks.length

namespace DelayPosition

/-- The timer does not expire any more. -/
def isStopped : DelayPosition → Bool
  | .waiting | .draining | .closing | .releasing | .unwinding | .dropped => true
  | _ => false

/-- What was queued has been taken back. -/
def isCancelled : DelayPosition → Bool
  | .draining | .closing | .releasing | .unwinding | .dropped => true
  | _ => false

def isDrained : DelayPosition → Bool
  | .closing | .releasing | .unwinding | .dropped => true
  | _ => false

end DelayPosition

/-- The timer expires once, when the delay has elapsed, and has no callback left when the
wait has returned. -/
structure DelaySchedule (dur : Duration) (state : DelayState) : Prop where
  atMostOnce : state.object.shots ≤ state.armedAt.isSome.toNat
  once : state.position.isStopped = false →
    state.object.shots = state.armedAt.isSome.toNat
  stopped : state.position.isStopped = true → state.object.due = none
  cancelled : state.position.isCancelled = true → state.object.queued = 0
  drained : state.position.isDrained = true →
    ∀ stage ∈ state.object.callbacks, stage = .returned
  reached : ∀ armedAt, state.armedAt = some armedAt →
    armedAt ≤ state.clock ∧ ∀ time, setRelative (some dur) = some time →
      (∀ due, state.object.due = some due → due = time.dueAt armedAt) ∧
        (0 < state.object.queued + state.object.callbacks.length →
          time.dueAt armedAt ≤ state.clock)

theorem eq_returned_of_set {callbacks : List CallbackStage} {index : Nat}
    {current next : CallbackStage} (found : callbacks[index]? = some current)
    (running : current ≠ .returned) (drained : ∀ stage ∈ callbacks, stage = .returned) :
    ∀ stage ∈ callbacks.set index next, stage = .returned :=
  absurd (drained current (List.mem_of_getElem? found)) running

/-- A callback that moves on changes neither the clock nor the number of callbacks. -/
theorem DelaySchedule.continues {dur : Duration} {state : DelayState}
    (holds : DelaySchedule dur state) {index : Nat} {current next : CallbackStage}
    (found : state.object.callbacks[index]? = some current)
    (running : current ≠ .returned) : DelaySchedule dur (state.withCallback index next) where
  atMostOnce := by
    simpa [DelayState.withCallback, TimerObject.shots] using holds.atMostOnce
  once early := by
    simpa [DelayState.withCallback, TimerObject.shots] using holds.once early
  stopped := holds.stopped
  cancelled := holds.cancelled
  drained late := eq_returned_of_set found running (holds.drained late)
  reached armedAt armed := by
    simpa [DelayState.withCallback] using holds.reached armedAt armed

theorem TimerObject.idle_of_shots {object : TimerObject} (idle : object.shots = 0) :
    object.due = none ∧ object.queued = 0 ∧ object.callbacks = [] := by
  simpa [TimerObject.shots, and_assoc] using idle

theorem DelaySchedule.step {dur : Duration} {state next : DelayState} {label : DelayStep}
    (owned : DelayOwnership state) (holds : DelaySchedule dur state)
    (move : DelayMove dur state label next) : DelaySchedule dur next := by
  have layout := owned.layout
  have whole := holds
  obtain ⟨atMostOnce, once, stopped, cancelled, drained, reached⟩ := holds
  cases move with
  | created position | refused position | disabled position | dropsTimer position =>
    exact ⟨atMostOnce, fun _ => once (by rw [position]; rfl), nofun, nofun, nofun, reached⟩
  | armed position encoded =>
    simp only [position, DelayPosition.layouts, List.mem_singleton, Prod.mk.injEq,
      Option.isSome_eq_false_iff, Option.isNone_iff_eq_none] at layout
    have idle := TimerObject.idle_of_shots (Nat.le_zero.mp (by simpa [layout] using atMostOnce))
    refine ⟨?_, ?_, nofun, nofun, nofun, ?_⟩
    · simp [TimerObject.shots, idle]
    · simp [TimerObject.shots, idle]
    · intro armedAt armed
      obtain rfl := Option.some.inj armed
      refine ⟨le_rfl, fun time same => ⟨fun due armed => ?_, fun some => ?_⟩⟩
      · rw [← Option.some.inj armed, Option.some.inj (encoded.symm.trans same)]
      · simp [idle] at some
  | polled position => exact ⟨atMostOnce, once, stopped, cancelled, drained, reached⟩
  | dropsNothing position timer =>
    obtain ⟨-, -, unarmed⟩ : state.object.handle = .absent ∧ state.callbackCtx = false ∧
        state.armedAt = none := by
      simpa [position, DelayPosition.layouts, timer] using layout
    have idle := TimerObject.idle_of_shots
      (Nat.le_zero.mp (by simpa [unarmed] using atMostOnce))
    exact ⟨atMostOnce, nofun, fun _ => idle.1, fun _ => idle.2.1,
      fun _ => by simp [idle.2.2], reached⟩
  | stopped position =>
    refine ⟨?_, nofun, fun _ => rfl, nofun, nofun, ?_⟩
    · refine le_trans ?_ atMostOnce
      simp [TimerObject.shots]
    · intro armedAt armed
      obtain ⟨started, schedule⟩ := reached armedAt armed
      exact ⟨started, fun time encoded => ⟨nofun, (schedule time encoded).2⟩⟩
  | cancelled position =>
    refine ⟨?_, nofun, fun _ => stopped (by rw [position]; rfl), fun _ => rfl, nofun, ?_⟩
    · refine le_trans ?_ atMostOnce
      simp only [TimerObject.shots]
      omega
    · intro armedAt armed
      obtain ⟨started, schedule⟩ := reached armedAt armed
      refine ⟨started, fun time encoded => ⟨(schedule time encoded).1, fun some => ?_⟩⟩
      exact (schedule time encoded).2 (Nat.lt_of_lt_of_le some (by simp))
  | drained position returned =>
    exact ⟨atMostOnce, nofun, fun _ => stopped (by rw [position]; rfl),
      fun _ => cancelled (by rw [position]; rfl), fun _ => returned, reached⟩
  | closed position | released position | dropped position =>
    exact ⟨atMostOnce, nofun, fun _ => stopped (by rw [position]; rfl),
      fun _ => cancelled (by rw [position]; rfl), fun _ => drained (by rw [position]; rfl),
      reached⟩
  | ticked =>
    refine ⟨atMostOnce, once, stopped, cancelled, drained, ?_⟩
    intro armedAt armed
    obtain ⟨started, schedule⟩ := reached armedAt armed
    refine ⟨Nat.le_succ_of_le started, fun time encoded => ?_⟩
    obtain ⟨same, elapsed⟩ := schedule time encoded
    exact ⟨same, fun some => Nat.le_succ_of_le (elapsed some)⟩
  | expired armed due =>
    have running : ¬ state.position.isStopped = true := by
      intro late
      rw [stopped late] at armed
      cases armed
    have early : ¬ state.position.isCancelled = true := by
      intro late
      apply running
      revert late
      cases state.position <;> decide
    have shots : TimerObject.shots { state.object with
        due := none, queued := state.object.queued + 1 } = state.object.shots := by
      simp only [TimerObject.shots, armed, Option.toList_none, Option.toList_some,
        List.length_nil, List.length_cons]
      omega
    refine ⟨shots.trans_le atMostOnce, fun early => shots.trans (once early), fun _ => rfl,
      fun late => absurd late early, drained, ?_⟩
    intro armedAt armedThen
    obtain ⟨started, schedule⟩ := reached armedAt armedThen
    refine ⟨started, fun time encoded => ⟨nofun, fun _ => ?_⟩⟩
    rw [← (schedule time encoded).1 _ armed]
    exact due
  | starts queued =>
    have early : ¬ state.position.isCancelled = true := by
      intro late
      rw [cancelled late] at queued
      exact Nat.lt_irrefl 0 queued
    have waited : ¬ state.position.isDrained = true := by
      intro late
      apply early
      revert late
      cases state.position <;> decide
    have shots : TimerObject.shots { state.object with
        queued := state.object.queued - 1
        callbacks := state.object.callbacks ++ [.started] } = state.object.shots := by
      simp only [TimerObject.shots, List.length_append, List.length_cons, List.length_nil]
      omega
    refine ⟨shots.trans_le atMostOnce, fun early => shots.trans (once early), stopped,
      fun late => absurd late early, fun late => absurd late waited, ?_⟩
    intro armedAt armed
    obtain ⟨started, schedule⟩ := reached armedAt armed
    refine ⟨started, fun time encoded => ⟨(schedule time encoded).1, fun _ => ?_⟩⟩
    exact (schedule time encoded).2 (Nat.lt_of_lt_of_le queued (Nat.le_add_right _ _))
  | borrows found | returns found => exact whole.continues found nofun
  | @signals index found =>
    have continued : DelaySchedule dur (state.withCallback index .signalled) :=
      whole.continues found nofun
    exact ⟨continued.atMostOnce, continued.once, continued.stopped, continued.cancelled,
      continued.drained, continued.reached⟩

/-- Some callback has signalled. -/
def DelayState.heard (state : DelayState) : Bool :=
  state.object.callbacks.any CallbackStage.hasSignalled

/-- The listener resolves by a callback, and never because the sender was dropped. -/
structure DelaySignal (state : DelayState) : Prop where
  received : state.heard = true → state.position ≠ .dropped →
    state.signal.poll state.listener = some (.ok ())
  installed : state.heard = false → state.position ≠ .dropped →
    state.signal.sender = some state.listener
  fired : state.fired = true → state.heard = true

namespace DelaySignal

variable {state : DelayState}

theorem isReady_eq_heard (holds : DelaySignal state) (alive : state.position ≠ .dropped) :
    state.isReady = state.heard := by
  cases heard : state.heard with
  | true => simp [DelayState.isReady, holds.received heard alive]
  | false =>
    have unfired : state.fired = false := by
      by_contra fired
      rw [holds.fired (Bool.eq_true_of_not_eq_false fired)] at heard
      cases heard
    simp [DelayState.isReady, unfired,
      CompletionSignal.poll_of_sender (holds.installed heard alive)]

/-- What is signalled keeps its meaning while another reference is left. -/
theorem of_same {next : DelayState} (holds : DelaySignal state)
    (alive : state.position ≠ .dropped) (signal : next.signal = state.signal)
    (listener : next.listener = state.listener) (heard : next.heard = state.heard)
    (fired : next.fired = state.fired) : DelaySignal next where
  received now _ := by
    rw [signal, listener]
    exact holds.received (heard ▸ now) alive
  installed now _ := by
    rw [signal, listener]
    exact holds.installed (heard ▸ now) alive
  fired now := by
    rw [heard]
    exact holds.fired (fired ▸ now)

end DelaySignal

theorem callbacks_eq_singleton {object : TimerObject} (atMostOnce : object.shots ≤ 1)
    {index : Nat} {stage : CallbackStage} (found : object.callbacks[index]? = some stage) :
    object.callbacks = [stage] ∧ index = 0 := by
  obtain ⟨handle, due, queued, callbacks, closes⟩ := object
  obtain ⟨bound, same⟩ := List.getElem?_eq_some_iff.mp found
  have short : callbacks.length ≤ 1 :=
    le_trans (Nat.le_add_left _ _) atMostOnce
  dsimp only at bound same ⊢
  match callbacks, short with
  | [only], _ =>
    obtain rfl : index = 0 := by simpa using bound
    exact ⟨by simpa using same, rfl⟩

theorem DelaySignal.step {dur : Duration} {state next : DelayState} {label : DelayStep}
    (owned : DelayOwnership state) (scheduled : DelaySchedule dur state)
    (holds : DelaySignal state) (move : DelayMove dur state label next) :
    DelaySignal next := by
  have atMostOnce : state.object.shots ≤ 1 :=
    le_trans scheduled.atMostOnce (Bool.toNat_le _)
  have strong := owned.strong
  cases move with
  | created position | refused position | armed position | dropsTimer position
  | dropsNothing position | stopped position | cancelled position | drained position
  | closed position =>
    exact holds.of_same (by rw [position]; nofun) rfl rfl rfl rfl
  | disabled position | released position =>
    have context : state.callbackCtx = true := by
      have layout := owned.layout
      simp only [position, DelayPosition.layouts, List.mem_singleton, Prod.mk.injEq] at layout
      exact layout.2.2.1
    have two : state.strong = 2 := by rw [strong, context, position]; rfl
    refine holds.of_same (by rw [position]; nofun) ?_ rfl rfl rfl
    simp [DelayState.releaseContext, DelayState.dropReference, two]
  | dropped position => exact ⟨nofun, nofun, holds.fired⟩
  | polled position =>
    have ready := holds.isReady_eq_heard (by rw [position]; nofun)
    exact ⟨holds.received, holds.installed, fun fired => ready.symm.trans fired⟩
  | ticked | expired => exact ⟨holds.received, holds.installed, holds.fired⟩
  | starts =>
    have heard : DelayState.heard { state with
        object := { state.object with
          queued := state.object.queued - 1
          callbacks := state.object.callbacks ++ [.started] } } = state.heard := by
      simp [DelayState.heard, CallbackStage.hasSignalled]
    exact ⟨fun now => holds.received (heard ▸ now), fun now => holds.installed (heard ▸ now),
      fun fired => heard.trans (holds.fired fired)⟩
  | @borrows index found =>
    obtain ⟨only, rfl⟩ := callbacks_eq_singleton atMostOnce found
    have heard : (state.withCallback 0 .borrowed).heard = state.heard := by
      simp [DelayState.heard, DelayState.withCallback, only, CallbackStage.hasSignalled]
    exact ⟨fun now => holds.received (heard ▸ now), fun now => holds.installed (heard ▸ now),
      fun fired => heard.trans (holds.fired fired)⟩
  | @signals index found =>
    obtain ⟨only, rfl⟩ := callbacks_eq_singleton atMostOnce found
    have silent : state.heard = false := by
      simp [DelayState.heard, only, CallbackStage.hasSignalled]
    have heard : (state.withCallback 0 .signalled).heard = true := by
      simp [DelayState.heard, DelayState.withCallback, only, CallbackStage.hasSignalled]
    refine ⟨fun _ alive => ?_, fun now => ?_, fun _ => heard⟩
    · exact CompletionSignal.poll_signal (holds.installed silent alive) ()
    · cases heard.symm.trans now
  | @returns index found =>
    obtain ⟨only, rfl⟩ := callbacks_eq_singleton atMostOnce found
    have heard : (state.withCallback 0 .returned).heard = state.heard := by
      simp [DelayState.heard, DelayState.withCallback, only, CallbackStage.hasSignalled]
    exact ⟨fun now => holds.received (heard ▸ now), fun now => holds.installed (heard ▸ now),
      fun fired => heard.trans (holds.fired fired)⟩

end Wrest.Delay
