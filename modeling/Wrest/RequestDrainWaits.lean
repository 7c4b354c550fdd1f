import Wrest.ConditionVariables
import Wrest.RequestHandleClose

/-!
# Waiting until a request is closed and idle

`wait_closed_and_idle` waits for two conditions on one condition variable: the
final callback has been seen, and no callback is active.  They are made true by
different functions, `mark_final_callback_seen` and the drop of the callback
guard, and each notifies only when it completes the pair.

Any number of threads run callbacks and any number wait.  A poisoned mutex is
recovered by every function and so leaves no trace in the state.
-/

namespace Wrest.RequestDrain

open Transition ConditionVariable RequestHandle

/-- The request state with the callbacks that use it. -/
structure CloseUse where
  request : RequestState
  callbacks : List CallbackPosition

/-- A critical section on the close state. -/
inductive CloseOperation
  | callbackStarts
  | enterCallback (index : Nat)
  | leaveCallback (index : Nat)
  | markFinalCallbackSeen
deriving DecidableEq, Repr

namespace CloseUse

def initial (origin : Origin) : CloseUse where
  request := .new origin
  callbacks := []

/-- The number of callbacks that hold a guard. -/
def insideCount (use : CloseUse) : Nat :=
  use.callbacks.countP CallbackPosition.isInside

def closedAndIdle (use : CloseUse) : Bool :=
  use.request.closedAndIdle

end CloseUse

/-- The critical sections, each with whether it calls `notify_all`.  A callback
whose `enter_callback` panics has no guard. -/
def performClose (use : CloseUse) : CloseOperation → Option (CloseUse × Bool)
  | .callbackStarts =>
    some ({ use with callbacks := use.callbacks ++ [.started] }, false)
  | .enterCallback index =>
    if use.callbacks[index]? = some .started then
      match use.request.enterCallback with
      | some request =>
        some ({ request, callbacks := use.callbacks.set index .entered }, false)
      | none => some ({ use with callbacks := use.callbacks.set index .finished }, false)
    else
      none
  | .leaveCallback index =>
    if use.callbacks[index]? = some .entered then
      some
        ({ request := use.request.leaveCallback
           callbacks := use.callbacks.set index .finished },
          use.request.leaveCallbackNotifies)
    else
      none
  | .markFinalCallbackSeen =>
    some
      ({ use with request := use.request.markFinalCallbackSeen },
        use.request.markFinalCallbackSeenNotifies)

/-- One outcome of a critical section. -/
inductive CloseMove (use : CloseUse) : CloseOperation → CloseUse → Bool → Prop
  | started :
      CloseMove use .callbackStarts
        { use with callbacks := use.callbacks ++ [.started] } false
  | entered {index : Nat} {request : RequestState}
      (found : use.callbacks[index]? = some .started)
      (enters : use.request.enterCallback = some request) :
      CloseMove use (.enterCallback index)
        { request, callbacks := use.callbacks.set index .entered } false
  | overflowed {index : Nat} (found : use.callbacks[index]? = some .started) :
      CloseMove use (.enterCallback index)
        { use with callbacks := use.callbacks.set index .finished } false
  | left {index : Nat} (found : use.callbacks[index]? = some .entered) :
      CloseMove use (.leaveCallback index)
        { request := use.request.leaveCallback
          callbacks := use.callbacks.set index .finished }
        use.request.leaveCallbackNotifies
  | marked :
      CloseMove use .markFinalCallbackSeen
        { use with request := use.request.markFinalCallbackSeen }
        use.request.markFinalCallbackSeenNotifies

variable {use next : CloseUse} {operation : CloseOperation} {notifies : Bool}

theorem closeMove_of_performClose
    (performs : performClose use operation = some (next, notifies)) :
    CloseMove use operation next notifies := by
  cases operation with
  | callbackStarts =>
    cases performs
    exact .started
  | enterCallback index =>
    simp only [performClose, Option.ite_none_right_eq_some] at performs
    obtain ⟨found, performs⟩ := performs
    cases enters : use.request.enterCallback with
    | some request =>
      rw [enters] at performs
      cases performs
      exact .entered found enters
    | none =>
      rw [enters] at performs
      cases performs
      exact .overflowed found
  | leaveCallback index =>
    simp only [performClose, Option.ite_none_right_eq_some] at performs
    obtain ⟨found, performs⟩ := performs
    cases performs
    exact .left found
  | markFinalCallbackSeen =>
    cases performs
    exact .marked

/-- Whichever of the two conditions comes last notifies the waiters. -/
theorem performClose_announces : Announces performClose CloseUse.closedAndIdle := by
  intro use operation next notifies performs isReady
  rw [CloseUse.closedAndIdle, RequestState.closedAndIdle_iff] at isReady ⊢
  obtain ⟨closed, idle⟩ := isReady
  cases closeMove_of_performClose performs with
  | started => exact .inl ⟨closed, idle⟩
  | entered found enters =>
    rw [RequestState.enterCallback_closeState enters] at idle
    cases idle
  | overflowed found => exact .inl ⟨closed, idle⟩
  | left found =>
    rw [RequestState.leaveCallback_closed] at closed
    rw [RequestState.leaveCallback_activeCallbacks] at idle
    by_cases already : use.request.closeState.activeCallbacks = 0
    · exact .inl ⟨closed, already⟩
    · right
      simp [RequestState.leaveCallbackNotifies, already, closed, idle]
  | marked =>
    right
    have unchanged : use.request.closeState.activeCallbacks = 0 := idle
    simp [RequestState.markFinalCallbackSeenNotifies, unchanged]

/-- The counter equals the number of guards. -/
def CountsGuards (use : CloseUse) : Prop :=
  use.request.closeState.activeCallbacks = use.insideCount

theorem countsGuards_initial (origin : Origin) : CountsGuards (.initial origin) :=
  rfl

theorem insideCount_set {index : Nat} {old : CallbackPosition}
    (found : use.callbacks[index]? = some old) (request : RequestState)
    (position : CallbackPosition) :
    CloseUse.insideCount { request, callbacks := use.callbacks.set index position } +
        old.isInside.toNat =
      use.insideCount + position.isInside.toNat :=
  countP_set_add CallbackPosition.isInside found position

theorem CloseMove.countsGuards (counts : CountsGuards use)
    (move : CloseMove use operation next notifies) : CountsGuards next := by
  unfold CountsGuards at *
  cases move with
  | started => simpa [CloseUse.insideCount, CallbackPosition.isInside] using counts
  | @entered index request found enters =>
    have moved := insideCount_set found request .entered
    simp only [CallbackPosition.isInside, Bool.toNat_false, Bool.toNat_true] at moved
    have counted := RequestState.enterCallback_closeState enters
    simp only [counted]
    omega
  | overflowed found =>
    have moved := insideCount_set found use.request .finished
    simp only [CallbackPosition.isInside, Bool.toNat_false] at moved
    change use.request.closeState.activeCallbacks = _
    omega
  | left found =>
    have moved := insideCount_set found use.request.leaveCallback .finished
    simp only [CallbackPosition.isInside, Bool.toNat_false, Bool.toNat_true] at moved
    rw [RequestState.leaveCallback_activeCallbacks]
    omega
  | marked => exact counts

/-- A callback that holds a guard is counted, so its exit never underflows. -/
theorem CountsGuards.activeCallbacks_pos (counts : CountsGuards use) {index : Nat}
    (found : use.callbacks[index]? = some .entered) :
    0 < use.request.closeState.activeCallbacks := by
  rw [counts]
  apply List.countP_pos_iff.mpr
  exact ⟨.entered, List.mem_of_getElem? found, rfl⟩

def closeStep : Monitor CloseUse → MonitorStep CloseOperation → Option (Monitor CloseUse) :=
  monitorStep performClose CloseUse.closedAndIdle

def initialMonitor (origin : Origin) : Monitor CloseUse where
  shared := .initial origin
  waiters := []

/-- What the close state and its waiters satisfy after every run. -/
structure DrainsSafely (monitor : Monitor CloseUse) : Prop where
  noLostWakeup : monitor.shared.request.closeState.closed = true →
    monitor.shared.request.closeState.activeCallbacks = 0 →
      Waiter.parked false ∉ monitor.waiters
  returnsDrained : ∀ label next (index : Nat), closeStep monitor label = some next →
    monitor.waiters[index]? ≠ some Waiter.returned →
      next.waiters[index]? = some Waiter.returned →
        next.shared.request.closeState.closed = true ∧
          next.shared.request.closeState.activeCallbacks = 0
  noUnderflow : ∀ index : Nat,
    monitor.shared.callbacks[index]? = some CallbackPosition.entered →
      0 < monitor.shared.request.closeState.activeCallbacks

/-- In every interleaving of callbacks and waiters, no wake-up is lost, a waiter
returns only when the request is closed and idle, and the count of active
callbacks never underflows. -/
theorem closeRun_drainsSafely (origin : Origin)
    (labels : List (MonitorStep CloseOperation)) (monitor : Monitor CloseUse)
    (reaches : run closeStep (initialMonitor origin) labels = some monitor) :
    DrainsSafely monitor := by
  constructor
  · intro closed idle
    have kept : NoLostWakeup CloseUse.closedAndIdle monitor :=
      noLostWakeup_of_run performClose_announces (fun _ => List.not_mem_nil) reaches
    exact kept ((RequestState.closedAndIdle_iff _).mpr ⟨closed, idle⟩)
  · intro label next index steps notReturned returned
    have ready := ready_of_returns steps notReturned returned
    exact (RequestState.closedAndIdle_iff _).mp ready
  · intro index found
    have counts : CountsGuards monitor.shared :=
      shared_invariant_of_run CountsGuards
        (fun _ _ _ _ counts performs =>
          (closeMove_of_performClose performs).countsGuards counts)
        (countsGuards_initial origin) reaches
    exact counts.activeCallbacks_pos found

/-- A waiter parks while a callback is inside; the final callback is seen, and
the callback's exit wakes the waiter. -/
def waitForCallback : List (MonitorStep CloseOperation) :=
  [.operate .callbackStarts, .operate (.enterCallback 0), .waiterArrives,
    .operate .markFinalCallbackSeen, .operate (.leaveCallback 0), .waiterWakes 0]

theorem closeRun_drainsSafely_waitForCallback :
    ∃ monitor,
      run closeStep (initialMonitor exampleOrigin) waitForCallback = some monitor ∧
        DrainsSafely monitor :=
  ⟨_, rfl, closeRun_drainsSafely exampleOrigin waitForCallback _ rfl⟩

end Wrest.RequestDrain
