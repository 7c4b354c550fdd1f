import Wrest.TransitionRuns

/-!
# Waiting on a condition variable

A mutex protects a shared value, and threads wait on a condition variable until
the value is ready: they check it under the lock, and while it is not ready they
release the lock and park in one atomic step.  All other threads change the value
in critical sections, each of which may notify every parked thread.  A parked
thread may also wake without having been notified; awake, it checks again.

The rule of this file is that a critical section that makes the value ready must
notify.  Then no thread stays parked on a ready value without a notification.
-/

namespace Wrest.ConditionVariable

open Transition

variable {Shared Operation : Type*}

/-- A thread that called `wait`: parked in it, with or without a notification
that it has not acted on, or returned from it. -/
inductive Waiter
  | parked (notified : Bool)
  | returned
deriving DecidableEq, Repr

def Waiter.notify : Waiter → Waiter
  | .parked _ => .parked true
  | .returned => .returned

/-- The protected value and the threads that have called `wait`. -/
structure Monitor (Shared : Type*) where
  shared : Shared
  waiters : List Waiter

/-- One critical section: of another thread, of a new waiter, or of a waiter that
wakes. -/
inductive MonitorStep (Operation : Type*)
  | operate (operation : Operation)
  | waiterArrives
  | waiterWakes (index : Nat)

/-- What a waiter does with the lock in hand. -/
def check (ready : Shared → Bool) (shared : Shared) : Waiter :=
  if ready shared then .returned else .parked false

/-- `perform` is the critical section of an operation and says whether it
notifies all waiters. -/
def monitorStep (perform : Shared → Operation → Option (Shared × Bool))
    (ready : Shared → Bool) (monitor : Monitor Shared) :
    MonitorStep Operation → Option (Monitor Shared)
  | .operate operation =>
    (perform monitor.shared operation).map fun (shared, notifies) =>
      { shared
        waiters :=
          if notifies then monitor.waiters.map Waiter.notify else monitor.waiters }
  | .waiterArrives =>
    some { monitor with
      waiters := monitor.waiters ++ [check ready monitor.shared] }
  | .waiterWakes index =>
    match monitor.waiters[index]? with
    | some (.parked _) =>
      some { monitor with
        waiters := monitor.waiters.set index (check ready monitor.shared) }
    | _ => none

/-- No waiter is parked on a ready value without a notification. -/
def NoLostWakeup (ready : Shared → Bool) (monitor : Monitor Shared) : Prop :=
  ready monitor.shared = true → Waiter.parked false ∉ monitor.waiters

/-- A critical section that makes the value ready notifies. -/
def Announces (perform : Shared → Operation → Option (Shared × Bool))
    (ready : Shared → Bool) : Prop :=
  ∀ shared operation next notifies,
    perform shared operation = some (next, notifies) →
      ready next = true → ready shared = true ∨ notifies = true

variable {perform : Shared → Operation → Option (Shared × Bool)}
variable {ready : Shared → Bool} {monitor next : Monitor Shared}

theorem Waiter.notify_ne_unnotified (waiter : Waiter) :
    waiter.notify ≠ .parked false := by
  cases waiter <;> simp [Waiter.notify]

theorem Waiter.notify_eq_returned {waiter : Waiter} :
    waiter.notify = .returned ↔ waiter = .returned := by
  cases waiter <;> simp [Waiter.notify]

theorem check_eq_returned {shared : Shared} :
    check ready shared = .returned ↔ ready shared = true := by
  unfold check
  split <;> simp_all

theorem check_of_ready {shared : Shared} (isReady : ready shared = true) :
    check ready shared = .returned :=
  check_eq_returned.mpr isReady

/-- What a step does to the value and to the waiters. -/
inductive MonitorMove (perform : Shared → Operation → Option (Shared × Bool))
    (ready : Shared → Bool) (monitor : Monitor Shared) :
    MonitorStep Operation → Monitor Shared → Prop
  | notified {operation : Operation} {shared : Shared}
      (performs : perform monitor.shared operation = some (shared, true)) :
      MonitorMove perform ready monitor (.operate operation)
        { shared, waiters := monitor.waiters.map Waiter.notify }
  | silent {operation : Operation} {shared : Shared}
      (performs : perform monitor.shared operation = some (shared, false)) :
      MonitorMove perform ready monitor (.operate operation)
        { monitor with shared }
  | arrived :
      MonitorMove perform ready monitor .waiterArrives
        { monitor with waiters := monitor.waiters ++ [check ready monitor.shared] }
  | awoken {index : Nat} {pending : Bool}
      (found : monitor.waiters[index]? = some (.parked pending)) :
      MonitorMove perform ready monitor (.waiterWakes index)
        { monitor with
          waiters := monitor.waiters.set index (check ready monitor.shared) }

theorem monitorMove_of_monitorStep {label : MonitorStep Operation}
    (steps : monitorStep perform ready monitor label = some next) :
    MonitorMove perform ready monitor label next := by
  cases label with
  | operate operation =>
    obtain ⟨⟨shared, notifies⟩, performs, rfl⟩ := Option.map_eq_some_iff.mp steps
    cases notifies with
    | false => exact .silent performs
    | true => exact .notified performs
  | waiterArrives =>
    cases steps
    exact .arrived
  | waiterWakes index =>
    simp only [monitorStep] at steps
    split at steps
    · next found =>
      cases steps
      exact .awoken found
    · cases steps

theorem MonitorMove.noLostWakeup {label : MonitorStep Operation}
    (announces : Announces perform ready) (kept : NoLostWakeup ready monitor)
    (move : MonitorMove perform ready monitor label next) :
    NoLostWakeup ready next := by
  intro isReady member
  cases move with
  | notified performs =>
    obtain ⟨waiter, _, notifyEq⟩ := List.mem_map.mp member
    exact waiter.notify_ne_unnotified notifyEq
  | silent performs =>
    rcases announces _ _ _ _ performs isReady with before | contrary
    · exact kept before member
    · cases contrary
  | arrived =>
    rcases List.mem_append.mp member with earlier | arrives
    · exact kept isReady earlier
    · rw [check_of_ready isReady] at arrives
      simp at arrives
  | awoken found =>
    rw [check_of_ready isReady] at member
    rcases List.mem_or_eq_of_mem_set member with earlier | awakes
    · exact kept isReady earlier
    · cases awakes

/-- The rule for lost wake-ups: if every critical section announces that it made
the value ready, no run leaves a waiter parked on a ready value. -/
theorem noLostWakeup_of_run {labels : List (MonitorStep Operation)}
    (announces : Announces perform ready) (kept : NoLostWakeup ready monitor)
    (reaches : run (monitorStep perform ready) monitor labels = some next) :
    NoLostWakeup ready next :=
  invariant_of_run (NoLostWakeup ready)
    (fun _ _ _ kept steps =>
      (monitorMove_of_monitorStep steps).noLostWakeup announces kept)
    kept reaches

/-- A waiter returns only while the value is ready. -/
theorem ready_of_returns {label : MonitorStep Operation}
    (steps : monitorStep perform ready monitor label = some next) {index : Nat}
    (notReturned : monitor.waiters[index]? ≠ some .returned)
    (returned : next.waiters[index]? = some .returned) :
    ready next.shared = true := by
  cases monitorMove_of_monitorStep steps with
  | notified performs =>
    rw [List.getElem?_map, Option.map_eq_some_iff] at returned
    obtain ⟨waiter, found, notifyEq⟩ := returned
    rw [Waiter.notify_eq_returned.mp notifyEq] at found
    exact absurd found notReturned
  | silent performs => exact absurd returned notReturned
  | arrived =>
    rw [List.getElem?_append] at returned
    split at returned
    · exact absurd returned notReturned
    · rw [List.getElem?_singleton] at returned
      split at returned
      · exact check_eq_returned.mp (Option.some.inj returned)
      · cases returned
  | @awoken woken pending found =>
    by_cases same : woken = index
    · subst same
      have inside := (List.getElem?_eq_some_iff.mp found).1
      rw [List.getElem?_set_self inside] at returned
      exact check_eq_returned.mp (Option.some.inj returned)
    · rw [List.getElem?_set_ne same] at returned
      exact absurd returned notReturned

/-- What every critical section preserves holds of the value after every run. -/
theorem shared_invariant_of_run (invariant : Shared → Prop)
    (preserved : ∀ shared operation after notifies, invariant shared →
      perform shared operation = some (after, notifies) → invariant after)
    {labels : List (MonitorStep Operation)} (holds : invariant monitor.shared)
    (reaches : run (monitorStep perform ready) monitor labels = some next) :
    invariant next.shared := by
  apply invariant_of_run (fun monitor => invariant monitor.shared) _ holds reaches
  intro current label following holds steps
  cases monitorMove_of_monitorStep steps with
  | notified performs => exact preserved _ _ _ _ holds performs
  | silent performs => exact preserved _ _ _ _ holds performs
  | arrived => exact holds
  | awoken found => exact holds

end Wrest.ConditionVariable
