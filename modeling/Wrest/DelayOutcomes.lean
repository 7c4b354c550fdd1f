import Wrest.DelayTimers

/-!
# What a delay guarantees

The invariants of a delay hold in every run.  A callback only reads a state that is
alive, the delay is ready exactly when its own timer has called back, which is when it
has elapsed, and whatever has happened the timer can still fire and the delay can still
be dropped.
-/

namespace Wrest.Delay

open Transition ThreadpoolTimer

structure DelayInvariant (dur : Duration) (state : DelayState) : Prop where
  owned : DelayOwnership state
  scheduled : DelaySchedule dur state
  signals : DelaySignal state

theorem delayInvariant_initial (dur : Duration) (clock : Nat) :
    DelayInvariant dur (.initial clock) where
  owned := ⟨by simp [DelayState.initial, DelayPosition.layouts], rfl, rfl, rfl⟩
  scheduled := ⟨le_rfl, fun _ => rfl, nofun, nofun, nofun, nofun⟩
  signals := ⟨nofun, fun _ _ => rfl, nofun⟩

namespace DelayInvariant

variable {dur : Duration} {state next last : DelayState} {label : DelayStep}

theorem step (holds : DelayInvariant dur state) (move : DelayMove dur state label next) :
    DelayInvariant dur next where
  owned := holds.owned.step move
  scheduled := holds.scheduled.step holds.owned move
  signals := holds.signals.step holds.owned holds.scheduled move

theorem run {labels : List DelayStep} (holds : DelayInvariant dur state)
    (reaches : Transition.run (delayStep dur) state labels = some last) :
    DelayInvariant dur last :=
  invariant_of_run (DelayInvariant dur)
    (fun _ _ _ invariant steps => invariant.step (delayMove_of_delayStep steps)) holds reaches

theorem shots_of_mem {object : TimerObject} {stage : CallbackStage}
    (member : stage ∈ object.callbacks) : 0 < object.shots :=
  Nat.lt_of_lt_of_le (List.length_pos_of_mem member) (Nat.le_add_left _ _)

section

variable (holds : DelayInvariant dur state)

include holds

theorem shots_le_one : state.object.shots ≤ 1 :=
  le_trans holds.scheduled.atMostOnce (Bool.toNat_le _)

theorem callbacks_length_le : state.object.callbacks.length ≤ 1 :=
  le_trans (Nat.le_add_left _ _) holds.shots_le_one

theorem armed_of_shots (some : 0 < state.object.shots) : state.armedAt.isSome = true := by
  by_contra unarmed
  have none := holds.scheduled.atMostOnce
  rw [Bool.eq_false_of_not_eq_true unarmed] at none
  exact Nat.not_lt.mpr none some

/-- A callback that runs belongs to a timer that the delay has not closed yet. -/
theorem alive_of_running {stage : CallbackStage} (member : stage ∈ state.object.callbacks)
    (running : stage ≠ .returned) :
    state.object.handle = .opened ∧ state.callbackCtx = true := by
  have early : ¬ state.position.isDrained = true :=
    fun late => running (holds.scheduled.drained late stage member)
  have armed := holds.armed_of_shots (shots_of_mem member)
  have layout := holds.owned.layout
  rw [armed] at layout
  cases position : state.position <;>
    simp_all [DelayPosition.layouts, DelayPosition.isDrained]

theorem late (closed : state.object.handle = .closed) :
    state.position.isDrained = true := by
  have layout := holds.owned.layout
  rw [closed] at layout
  cases position : state.position <;>
    simp_all [DelayPosition.layouts, DelayPosition.isDrained]

end

end DelayInvariant

/-- The safety of a delay: its callback never reads a freed state, nothing is released
twice or lost, and nothing runs after the timer was closed. -/
structure DelaySafety (dur : Duration) (state : DelayState) : Prop where
  once : state.object.callbacks.length ≤ 1
  borrowed : ∀ stage ∈ state.object.callbacks, stage ≠ .returned →
    0 < state.strong ∧ state.object.handle = .opened ∧ state.callbackCtx = true
  releases : state.releases = if state.callbackCtx then 0 else 1
  closes : state.object.closes = if state.object.handle = .closed then 1 else 0
  silent : state.object.handle = .closed → delayStep dur state .expire = none ∧
    delayStep dur state .callbackStarts = none ∧
    ∀ index, delayStep dur state (.callbackContinues index) = none
  settled : state.position = .dropped →
    state.strong = 0 ∧ state.callbackCtx = false ∧ state.object.handle ≠ .opened

theorem callbackContinues_eq_none {dur : Duration} {state : DelayState}
    (returned : ∀ stage ∈ state.object.callbacks, stage = .returned) (index : Nat) :
    delayStep dur state (.callbackContinues index) = none := by
  cases found : state.object.callbacks[index]? with
  | none => simp [delayStep, found]
  | some stage =>
    obtain rfl := returned stage (List.mem_of_getElem? found)
    simp [delayStep, found]

theorem DelayInvariant.safety {dur : Duration} {state : DelayState}
    (holds : DelayInvariant dur state) : DelaySafety dur state where
  once := holds.callbacks_length_le
  borrowed stage member running := by
    obtain ⟨opened, context⟩ := holds.alive_of_running member running
    refine ⟨?_, opened, context⟩
    rw [holds.owned.strong, context]
    exact Nat.lt_of_lt_of_le Nat.one_pos (Nat.le_add_right _ _)
  releases := by
    rw [holds.owned.releases]
    cases state.callbackCtx <;> rfl
  closes := holds.owned.closes
  silent closed := by
    have drained := holds.late closed
    have stopped : state.object.due = none := by
      apply holds.scheduled.stopped
      revert drained
      cases state.position <;> decide
    have cancelled : state.object.queued = 0 := by
      apply holds.scheduled.cancelled
      revert drained
      cases state.position <;> decide
    refine ⟨?_, ?_, callbackContinues_eq_none (holds.scheduled.drained drained)⟩
    · simp [delayStep, stopped]
    · simp [delayStep, cancelled]
  settled dropped := by
    have layout := holds.owned.layout
    have strong := holds.owned.strong
    rw [dropped] at layout strong
    simp only [DelayPosition.layouts, List.mem_cons, Prod.mk.injEq, List.not_mem_nil,
      or_false] at layout
    obtain ⟨-, handle, context, -⟩ | ⟨-, handle, context, -⟩ := layout <;>
      simp [strong, handle, context]

/-- Every interleaving of a delay with the thread pool is safe. -/
theorem delay_isSafe (dur : Duration) (clock : Nat) (labels : List DelayStep)
    (state : DelayState)
    (reaches : run (delayStep dur) (.initial clock) labels = some state) :
    DelaySafety dur state :=
  ((delayInvariant_initial dur clock).run reaches).safety

def exampleDuration : Duration :=
  ⟨0, 150, by norm_num, by norm_num⟩

/-- The delay is dropped while its callback runs. -/
def droppedRun : List DelayStep :=
  [.createTimer true, .setRelative, .tick, .expire, .poll false, .callbackStarts,
    .callbackContinues 0, .drop, .stop, .cancelQueued, .callbackContinues 0,
    .callbackContinues 0, .waitReturns, .closeTimer, .takeContext, .dropState]

theorem delay_isSafe_dropped : ∃ state,
    run (delayStep exampleDuration) (.initial 5) droppedRun = some state ∧
      state.position = .dropped ∧ DelaySafety exampleDuration state := by
  have reached : (run (delayStep exampleDuration) (.initial 5) droppedRun).map
      DelayState.position = some .dropped := by decide +kernel
  obtain ⟨state, reaches, dropped⟩ := Option.map_eq_some_iff.mp reached
  exact ⟨state, reaches, dropped, delay_isSafe exampleDuration 5 droppedRun state reaches⟩

/-- What has signalled stays so. -/
theorem heard_of_move {dur : Duration} {state next : DelayState} {label : DelayStep}
    (holds : DelayInvariant dur state) (move : DelayMove dur state label next)
    (heard : state.heard = true) : next.heard = true := by
  have atMostOnce := holds.shots_le_one
  cases move with
  | created | refused | armed | disabled | polled | dropsTimer | dropsNothing | stopped
  | cancelled | drained | closed | released | dropped | ticked | expired => exact heard
  | starts =>
    rw [DelayState.heard, List.any_append]
    exact Bool.or_eq_true_iff.mpr (.inl heard)
  | borrows found =>
    obtain ⟨only, rfl⟩ := callbacks_eq_singleton atMostOnce found
    simp [DelayState.heard, only, CallbackStage.hasSignalled] at heard
  | signals found | returns found =>
    obtain ⟨only, rfl⟩ := callbacks_eq_singleton atMostOnce found
    simp [DelayState.heard, DelayState.withCallback, only, CallbackStage.hasSignalled]

theorem heard_of_run {dur : Duration} {state last : DelayState} {labels : List DelayStep}
    (holds : DelayInvariant dur state) (heard : state.heard = true)
    (reaches : run (delayStep dur) state labels = some last) : last.heard = true := by
  have both : DelayInvariant dur last ∧ last.heard = true := by
    apply invariant_of_run (fun state => DelayInvariant dur state ∧ state.heard = true)
      ?_ ⟨holds, heard⟩ reaches
    intro state label next ⟨invariant, heard⟩ steps
    have move := delayMove_of_delayStep steps
    exact ⟨invariant.step move, heard_of_move invariant move heard⟩
  exact both.2

/-- When the future of a delay is ready: exactly from the signal of its own callback on,
which is not before the delay has elapsed, to a tick of 100 ns.  Without a timer the
future stays pending. -/
structure DelayReadiness (dur : Duration) (state : DelayState) : Prop where
  ready : state.isReady = true ↔
    ∃ stage ∈ state.object.callbacks, stage.hasSignalled = true
  elapsed : state.isReady = true → ∃ armedAt, state.armedAt = some armedAt ∧
    armedAt ≤ state.clock ∧
      (dur.asNanos < 100 * (state.clock - armedAt) + 100 ∨
        i64Max ≤ state.clock - armedAt)
  disabled : state.timer = false → state.isReady = false
  stays : ∀ labels last, run (delayStep dur) state labels = some last →
    last.position = .pending → state.isReady = true → last.isReady = true

theorem DelayInvariant.readiness {dur : Duration} {state : DelayState}
    (holds : DelayInvariant dur state) (pending : state.position = .pending) :
    DelayReadiness dur state := by
  have alive : state.position ≠ .dropped := by rw [pending]; nofun
  have readyEq := holds.signals.isReady_eq_heard alive
  have called : state.isReady = true ↔
      ∃ stage ∈ state.object.callbacks, stage.hasSignalled = true := by
    rw [readyEq, DelayState.heard, List.any_eq_true]
  refine ⟨called, ?_, ?_, ?_⟩
  · intro ready
    obtain ⟨stage, member, -⟩ := called.mp ready
    have armed := holds.armed_of_shots (DelayInvariant.shots_of_mem member)
    obtain ⟨armedAt, armedEq⟩ := Option.isSome_iff_exists.mp armed
    obtain ⟨started, schedule⟩ := holds.scheduled.reached armedAt armedEq
    refine ⟨armedAt, armedEq, started, (dueAt_le_iff rfl started).mp ?_⟩
    apply (schedule _ rfl).2
    exact Nat.lt_of_lt_of_le (List.length_pos_of_mem member) (Nat.le_add_left _ _)
  · intro timer
    by_contra ready
    obtain ⟨stage, member, -⟩ := called.mp (Bool.eq_true_of_not_eq_false ready)
    have armed := holds.armed_of_shots (DelayInvariant.shots_of_mem member)
    have layout := holds.owned.layout
    rw [pending, timer, armed] at layout
    simp [DelayPosition.layouts] at layout
  · intro labels last reaches pendingLast ready
    have aliveLast : last.position ≠ .dropped := by rw [pendingLast]; nofun
    rw [(holds.run reaches).signals.isReady_eq_heard aliveLast]
    exact heard_of_run holds (readyEq.symm.trans ready) reaches

/-- Polled at any point of any run, a delay is ready when it should be. -/
theorem delay_isReady_iff (dur : Duration) (clock : Nat) (labels : List DelayStep)
    (state : DelayState)
    (reaches : run (delayStep dur) (.initial clock) labels = some state)
    (pending : state.position = .pending) : DelayReadiness dur state :=
  ((delayInvariant_initial dur clock).run reaches).readiness pending

/-- The delay is polled after its callback has signalled. -/
def polledRun : List DelayStep :=
  [.createTimer true, .setRelative, .tick, .expire, .callbackStarts,
    .callbackContinues 0, .callbackContinues 0, .poll true]

theorem delay_isReady_iff_polled : ∃ state,
    run (delayStep exampleDuration) (.initial 5) polledRun = some state ∧
      state.isReady = true ∧ DelayReadiness exampleDuration state := by
  have reached : (run (delayStep exampleDuration) (.initial 5) polledRun).map
      (fun state => (state.position, state.isReady)) = some (.pending, true) := by
    decide +kernel
  obtain ⟨state, reaches, both⟩ := Option.map_eq_some_iff.mp reached
  obtain ⟨pending, ready⟩ := Prod.mk.inj both
  exact ⟨state, reaches, ready,
    delay_isReady_iff exampleDuration 5 polledRun state reaches pending⟩

section Progress

variable {dur : Duration}

/-- The steps of the system. -/
def DelayStep.isSystem : DelayStep → Prop
  | .tick | .expire | .callbackStarts | .callbackContinues _ => True
  | _ => False

/-- The callback of the timer has signalled, and the delay is still there. -/
def Signalled (state : DelayState) : Prop :=
  state.position = .pending ∧ state.heard = true

theorem canSignal_of_callback (stage : CallbackStage) {state : DelayState}
    (pending : state.position = .pending) (only : state.object.callbacks = [stage]) :
    CanReach (delayStep dur) DelayStep.isSystem Signalled state := by
  have finishes : ∀ state : DelayState, state.position = .pending →
      state.object.callbacks = [.borrowed] →
      CanReach (delayStep dur) DelayStep.isSystem Signalled state := by
    intro state pending only
    apply CanReach.of_step (.callbackContinues 0) trivial
    · simp only [delayStep, only]
      rfl
    · refine CanReach.of_goal ⟨pending, ?_⟩
      simp [DelayState.heard, DelayState.withCallback, only, CallbackStage.hasSignalled]
  cases stage with
  | started =>
    apply CanReach.of_step (.callbackContinues 0) trivial
    · simp only [delayStep, only]
      rfl
    · exact finishes _ pending (by simp [DelayState.withCallback, only])
  | borrowed => exact finishes state pending only
  | signalled | returned =>
    exact CanReach.of_goal ⟨pending, by
      simp [DelayState.heard, only, CallbackStage.hasSignalled]⟩

theorem canSignal_of_queued {state : DelayState} (pending : state.position = .pending)
    (queued : 0 < state.object.queued) (none : state.object.callbacks = []) :
    CanReach (delayStep dur) DelayStep.isSystem Signalled state := by
  apply CanReach.of_step .callbackStarts trivial (if_pos queued)
  apply canSignal_of_callback .started
  · exact pending
  · simp [none]

/-- The clock moves on until the timer is due. -/
theorem canSignal_of_due {state : DelayState} {due : Nat} (pending : state.position = .pending)
    (armed : state.object.due = some due) (none : state.object.callbacks = []) :
    CanReach (delayStep dur) DelayStep.isSystem Signalled state := by
  induction wait : due - state.clock generalizing state with
  | zero =>
    apply CanReach.of_step .expire trivial
    · simp only [delayStep, armed]
      exact if_pos (by omega)
    · exact canSignal_of_queued pending (Nat.succ_pos _) none
  | succ wait ih =>
    apply CanReach.of_step .tick trivial rfl
    refine ih pending armed none ?_
    dsimp only
    omega

theorem DelayInvariant.canSignal {state : DelayState} (holds : DelayInvariant dur state)
    (pending : state.position = .pending) (timer : state.timer = true) :
    CanReach (delayStep dur) DelayStep.isSystem Signalled state := by
  have armed : state.armedAt.isSome = true := by
    have layout := holds.owned.layout
    rw [pending, timer] at layout
    have opened : state.object.handle = .opened ∧ state.callbackCtx = true ∧
        state.armedAt.isSome = true := by simpa [DelayPosition.layouts] using layout
    exact opened.2.2
  have once := holds.scheduled.once (by rw [pending]; rfl)
  rw [armed, TimerObject.shots, Bool.toNat_true] at once
  rcases callbacks : state.object.callbacks with _ | ⟨stage, _ | ⟨second, rest⟩⟩
  · rw [callbacks] at once
    cases due : state.object.due with
    | some due => exact canSignal_of_due pending due callbacks
    | none =>
      rw [due] at once
      exact canSignal_of_queued pending (by simp at once; omega) callbacks
  · exact canSignal_of_callback stage pending callbacks
  · simp only [callbacks, List.length_cons] at once
    omega

/-- The drop is over. -/
def Dropped (state : DelayState) : Prop :=
  state.position = .dropped

/-- The steps that are left of a delay that is dropped as soon as it can be. -/
@[simp]
def DelayPosition.remaining : DelayPosition → Nat
  | .dropped => 0
  | .unwinding => 1
  | .releasing => 2
  | .closing => 3
  | .draining => 4
  | .waiting => 5
  | .stopping => 6
  | .pending => 7
  | .arming | .failing => 8
  | .creating => 9

/-- Nothing but the wait for the callback can keep the delay from its next step. -/
theorem exists_ownStep (state : DelayState) (notDraining : state.position ≠ .draining)
    (alive : state.position ≠ .dropped) : ∃ label next,
      delayStep dur state label = some next ∧
        next.object.callbacks = state.object.callbacks ∧
        next.position.remaining < state.position.remaining := by
  cases position : state.position with
  | creating => exact ⟨.createTimer false, _, if_pos position, rfl, by simp⟩
  | arming => exact ⟨.setRelative, _, if_pos position, rfl, by simp⟩
  | failing => exact ⟨.dropContext, _, if_pos position, rfl, by simp⟩
  | pending =>
    refine ⟨.drop, _, if_pos position, rfl, ?_⟩
    cases timer : state.timer <;> simp
  | stopping => exact ⟨.stop, _, if_pos position, rfl, by simp⟩
  | waiting => exact ⟨.cancelQueued, _, if_pos position, rfl, by simp⟩
  | draining => exact absurd position notDraining
  | closing => exact ⟨.closeTimer, _, if_pos position, rfl, by simp⟩
  | releasing => exact ⟨.takeContext, _, if_pos position, rfl, by simp⟩
  | unwinding => exact ⟨.dropState, _, if_pos position, rfl, by simp⟩
  | dropped => exact absurd position alive

/-- The wait returns, after the callback if one is running. -/
theorem canDrop_of_draining {state : DelayState} (draining : state.position = .draining)
    (short : state.object.callbacks.length ≤ 1)
    (closing : ∀ next : DelayState, next.position = .closing →
      next.object.callbacks.length ≤ 1 →
      CanReach (delayStep dur) (fun _ => True) Dropped next) :
    CanReach (delayStep dur) (fun _ => True) Dropped state := by
  have returns : ∀ state : DelayState, state.position = .draining →
      (∀ stage ∈ state.object.callbacks, stage = .returned) →
      state.object.callbacks.length ≤ 1 →
      CanReach (delayStep dur) (fun _ => True) Dropped state := by
    intro state draining returned short
    exact CanReach.of_step .waitReturns trivial (if_pos ⟨draining, returned⟩)
      (closing _ rfl short)
  have signalled : ∀ state : DelayState, state.position = .draining →
      state.object.callbacks = [.signalled] →
      CanReach (delayStep dur) (fun _ => True) Dropped state := by
    intro state draining only
    apply CanReach.of_step (.callbackContinues 0) trivial
    · simp only [delayStep, only]
      rfl
    · exact returns _ draining (by simp [DelayState.withCallback, only])
        (by simp [DelayState.withCallback, only])
  have borrowed : ∀ state : DelayState, state.position = .draining →
      state.object.callbacks = [.borrowed] →
      CanReach (delayStep dur) (fun _ => True) Dropped state := by
    intro state draining only
    apply CanReach.of_step (.callbackContinues 0) trivial
    · simp only [delayStep, only]
      rfl
    · exact signalled _ draining (by simp [DelayState.withCallback, only])
  rcases callbacks : state.object.callbacks with _ | ⟨stage, _ | ⟨second, rest⟩⟩
  · exact returns state draining (by simp [callbacks]) short
  · cases stage with
    | started =>
      apply CanReach.of_step (.callbackContinues 0) trivial
      · simp only [delayStep, callbacks]
        rfl
      · exact borrowed _ draining (by simp [DelayState.withCallback, callbacks])
    | borrowed => exact borrowed state draining callbacks
    | signalled => exact signalled state draining callbacks
    | returned => exact returns state draining (by simp [callbacks]) short
  · simp [callbacks] at short

theorem canDrop {state : DelayState} (short : state.object.callbacks.length ≤ 1) :
    CanReach (delayStep dur) (fun _ => True) Dropped state := by
  induction left : state.position.remaining using Nat.strong_induction_on
    generalizing state with
  | _ left ih =>
    subst left
    by_cases dropped : state.position = .dropped
    · exact .of_goal dropped
    by_cases draining : state.position = .draining
    · refine canDrop_of_draining draining short fun next closing shortNext => ?_
      refine ih _ ?_ shortNext rfl
      rw [closing, draining]
      decide
    · obtain ⟨label, next, steps, same, fewer⟩ := exists_ownStep state draining dropped
      exact CanReach.of_step label trivial steps (ih _ fewer (same ▸ short) rfl)

/-- Nothing that happens keeps a delay from firing, or its drop from returning.  The
steps of the system alone bring a pending delay with a timer to be ready. -/
structure DelayProgress (dur : Duration) (state : DelayState) : Prop where
  fires : state.position = .pending → state.timer = true →
    CanReach (delayStep dur) DelayStep.isSystem
      (fun last => last.position = .pending ∧ last.isReady = true) state
  drops : CanReach (delayStep dur) (fun _ => True)
    (fun last => last.position = .dropped ∧ last.strong = 0) state

/-- From every state of every run, a delay can fire and can be dropped. -/
theorem delay_progresses (dur : Duration) (clock : Nat) (labels : List DelayStep)
    (state : DelayState)
    (reaches : run (delayStep dur) (.initial clock) labels = some state) :
    DelayProgress dur state := by
  have holds := (delayInvariant_initial dur clock).run reaches
  constructor
  · intro pending timer
    obtain ⟨more, last, allowed, runs, pendingLast, heard⟩ := holds.canSignal pending timer
    refine ⟨more, last, allowed, runs, pendingLast, ?_⟩
    have alive : last.position ≠ .dropped := by rw [pendingLast]; nofun
    rw [(holds.run runs).signals.isReady_eq_heard alive]
    exact heard
  · obtain ⟨more, last, allowed, runs, dropped⟩ := canDrop holds.callbacks_length_le
    exact ⟨more, last, allowed, runs, dropped,
      ((holds.run runs).safety.settled dropped).1⟩

/-- A delay with an armed timer, before and while it is dropped. -/
theorem delay_progresses_pending :
    (∃ state, run (delayStep exampleDuration) (.initial 5) [.createTimer true, .setRelative] =
        some state ∧
      state.position = .pending ∧ state.timer = true ∧ state.isReady = false ∧
      DelayProgress exampleDuration state) ∧
    ∃ state, run (delayStep exampleDuration) (.initial 5)
        [.createTimer true, .setRelative, .drop] = some state ∧
      state.position ≠ .pending ∧ DelayProgress exampleDuration state :=
  ⟨⟨_, rfl, rfl, rfl, rfl,
      delay_progresses exampleDuration 5 [.createTimer true, .setRelative] _ rfl⟩,
    _, rfl, nofun,
    delay_progresses exampleDuration 5 [.createTimer true, .setRelative, .drop] _ rfl⟩

end Progress

end Wrest.Delay
