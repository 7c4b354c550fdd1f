import Wrest.TransitionRuns
import Wrest.CompletionSignals
import Mathlib.Data.List.Nodup

/-!
# Interleaved uses of a completion signal

`listen` and `signal` hold the lock of the slot only to replace or to take the sender.
The sender that `listen` replaced is dropped, and the one that `signal` took sends its
value, when the lock has been released; other threads may listen and signal in between.

This file compares these interleavings with the signal whose operations are atomic.
The atomic operation happens where the slot is locked.  A listener may see its result
later, when the sender that was taken out is finished with, but it never sees another
result, and no result is lost.
-/

namespace Wrest.SignalInterleaving

open Transition

variable {T : Type}

/-- A sender that a thread took out of the slot, and what it will do with it. -/
inductive TakenSender (T : Type)
  | sends (listener : Nat) (value : T)
  | drops (listener : Nat)

namespace TakenSender

def listener : TakenSender T → Nat
  | .sends listener _ | .drops listener => listener

/-- The channel after the sender was used. -/
def outcome : TakenSender T → Channel T
  | .sends _ value => .full value
  | .drops _ => .closed

end TakenSender

structure SlotState (T : Type) where
  sender : Option Nat
  channels : List (Channel T)
  taken : List (TakenSender T)

/-- The slot is locked by `listen` or by `signal`, or a taken sender is used. -/
inductive SlotStep (T : Type)
  | replace
  | take (value : T)
  | finish (index : Nat)

namespace SlotState

def initial : SlotState T where
  sender := none
  channels := []
  taken := []

def poll (state : SlotState T) (listener : Nat) : Option (Except SignalCancelled T) :=
  match state.channels[listener]? with
  | some (.full value) => some (.ok value)
  | some .closed => some (.error .cancelled)
  | _ => none

end SlotState

def slotStep (state : SlotState T) : SlotStep T → Option (SlotState T)
  | .replace =>
    some
      { sender := some state.channels.length
        channels := state.channels ++ [.empty]
        taken := state.taken ++ (state.sender.map .drops).toList }
  | .take value =>
    some
      { sender := none
        channels := state.channels
        taken := state.taken ++ (state.sender.map fun sender => .sends sender value).toList }
  | .finish index =>
    match state.taken[index]? with
    | some taken =>
      some
        { sender := state.sender
          channels := state.channels.set taken.listener taken.outcome
          taken := state.taken.eraseIdx index }
    | none => none

/-- The atomic signal after the operations of a run. -/
def specified : CompletionSignal T → List (SlotStep T) → CompletionSignal T
  | signal, [] => signal
  | signal, .replace :: labels => specified signal.listen labels
  | signal, .take value :: labels => specified (signal.signal value) labels
  | signal, .finish _ :: labels => specified signal labels

/-- The channels of the slots agree with those of the atomic signal, apart from the
senders that were taken and not used yet. -/
structure Refines (state : SlotState T) (signal : CompletionSignal T) : Prop where
  sender : state.sender = signal.sender
  length : state.channels.length = signal.channels.length
  distinct : (state.taken.map TakenSender.listener ++ state.sender.toList).Nodup
  delayed : ∀ taken ∈ state.taken, state.channels[taken.listener]? = some .empty ∧
    signal.channels[taken.listener]? = some taken.outcome
  settled : ∀ listener, (∀ taken ∈ state.taken, taken.listener ≠ listener) →
    state.channels[listener]? = signal.channels[listener]?

theorem refines_initial : Refines (.initial : SlotState T) .new where
  sender := rfl
  length := rfl
  distinct := List.nodup_nil
  delayed := nofun
  settled _ _ := rfl

namespace Refines

variable {state next : SlotState T} {signal : CompletionSignal T}

/-- The installed sender was not taken. -/
theorem ne_of_installed (holds : Refines state signal) {listener : Nat}
    (installed : state.sender = some listener) {taken : TakenSender T}
    (member : taken ∈ state.taken) : taken.listener ≠ listener := by
  intro same
  have disjoint := (List.nodup_append.mp holds.distinct).2.2
  apply disjoint taken.listener (List.mem_map_of_mem member) listener
  · simp [installed]
  · exact same

theorem known_of_installed (holds : Refines state signal) {listener : Nat}
    (installed : state.sender = some listener) :
    state.channels[listener]? = some .empty := by
  rw [holds.settled listener fun taken member => holds.ne_of_installed installed member]
  exact signal.armed listener (holds.sender ▸ installed)

theorem lt_of_taken (holds : Refines state signal) {taken : TakenSender T}
    (member : taken ∈ state.taken) : taken.listener < state.channels.length :=
  (List.getElem?_eq_some_iff.mp (holds.delayed taken member).1).1

/-- Taking the installed sender out of the slot is the atomic operation. -/
theorem takeOut (holds : Refines state signal) (use : Nat → TakenSender T)
    (same : ∀ listener, (use listener).listener = listener) (channels : List (Channel T))
    (changed : channels = match signal.sender with
      | some listener => signal.channels.set listener (use listener).outcome
      | none => signal.channels) :
    (∀ taken ∈ state.taken ++ (state.sender.map use).toList,
      state.channels[taken.listener]? = some .empty ∧
        channels[taken.listener]? = some taken.outcome) ∧
    ∀ listener, (∀ taken ∈ state.taken ++ (state.sender.map use).toList,
      taken.listener ≠ listener) → state.channels[listener]? = channels[listener]? := by
  cases installed : state.sender with
  | none =>
    rw [← holds.sender, installed] at changed
    simp only [Option.map_none, Option.toList_none, List.append_nil, changed]
    exact ⟨holds.delayed, holds.settled⟩
  | some current =>
    rw [← holds.sender, installed] at changed
    have empty := holds.known_of_installed installed
    have bound : current < signal.channels.length :=
      holds.length ▸ (List.getElem?_eq_some_iff.mp empty).1
    simp only [Option.map_some, Option.toList_some, List.mem_append, List.mem_singleton,
      changed]
    constructor
    · rintro taken (member | rfl)
      · have other := holds.ne_of_installed installed member
        rw [List.getElem?_set_ne other.symm]
        exact holds.delayed taken member
      · rw [same]
        exact ⟨empty, List.getElem?_set_self bound⟩
    · intro listener none
      have other : current ≠ listener := by
        rw [← same current]
        exact none _ (.inr rfl)
      rw [List.getElem?_set_ne other]
      exact holds.settled listener fun taken member => none taken (.inl member)

theorem map_listener_toList (sender : Option Nat) (use : Nat → TakenSender T)
    (same : ∀ listener, (use listener).listener = listener) :
    (sender.map use).toList.map TakenSender.listener = sender.toList := by
  cases sender with
  | none => rfl
  | some listener => simp [same]

theorem lt_of_mem (holds : Refines state signal) {listener : Nat}
    (member : listener ∈ state.taken.map TakenSender.listener ++ state.sender.toList) :
    listener < state.channels.length := by
  obtain mapped | installed := List.mem_append.mp member
  · obtain ⟨taken, there, rfl⟩ := List.mem_map.mp mapped
    exact holds.lt_of_taken there
  · have empty := holds.known_of_installed (Option.mem_toList.mp installed)
    exact (List.getElem?_eq_some_iff.mp empty).1

theorem replace (holds : Refines state signal) :
    Refines
      { sender := some state.channels.length
        channels := state.channels ++ [.empty]
        taken := state.taken ++ (state.sender.map .drops).toList }
      signal.listen := by
  obtain ⟨delayed, settled⟩ := holds.takeOut .drops (fun _ => rfl) signal.dropSender rfl
  have length : state.channels.length = signal.dropSender.length := by
    rw [CompletionSignal.dropSender_length, holds.length]
  have names : (state.taken ++ (state.sender.map TakenSender.drops).toList).map
      TakenSender.listener =
      state.taken.map TakenSender.listener ++ state.sender.toList := by
    rw [List.map_append, map_listener_toList _ _ fun _ => rfl]
  refine ⟨?_, ?_, ?_, ?_, ?_⟩
  · rw [CompletionSignal.listen_sender, CompletionSignal.nextListener, holds.length]
  · simp [CompletionSignal.listen, length]
  · dsimp only
    rw [names, List.nodup_append]
    refine ⟨holds.distinct, by simp, ?_⟩
    intro listener old fresh isFresh
    have bound := holds.lt_of_mem old
    simp only [Option.toList_some, List.mem_singleton] at isFresh
    omega
  · intro taken member
    have known := delayed taken member
    have bound := (List.getElem?_eq_some_iff.mp known.1).1
    constructor
    · rw [List.getElem?_append_left bound]
      exact known.1
    · rw [CompletionSignal.listen, List.getElem?_append_left (length ▸ bound)]
      exact known.2
  · intro listener none
    rw [CompletionSignal.listen]
    by_cases old : listener < state.channels.length
    · rw [List.getElem?_append_left old, List.getElem?_append_left (length ▸ old)]
      exact settled listener none
    · rw [List.getElem?_append_right (by omega), List.getElem?_append_right (by omega),
        length]

theorem take (holds : Refines state signal) (value : T) :
    Refines
      { sender := none
        channels := state.channels
        taken := state.taken ++
          (state.sender.map fun sender => TakenSender.sends sender value).toList }
      (signal.signal value) := by
  obtain ⟨delayed, settled⟩ := holds.takeOut (fun sender => .sends sender value)
    (fun _ => rfl) (signal.signal value).channels rfl
  refine ⟨rfl, ?_, ?_, delayed, settled⟩
  · rw [holds.length]
    simp only [CompletionSignal.signal]
    split <;> simp
  · rw [List.map_append, map_listener_toList _ _ fun _ => rfl]
    simpa using holds.distinct

theorem listener_ne_of_eraseIdx {taken : List (TakenSender T)} {index : Nat}
    {used : TakenSender T} (distinct : (taken.map TakenSender.listener).Nodup)
    (found : taken[index]? = some used) :
    ∀ other ∈ taken.eraseIdx index, other.listener ≠ used.listener := by
  intro other member same
  obtain ⟨position, differs, there⟩ := List.mem_eraseIdx_iff_getElem?.mp member
  have bound := (List.getElem?_eq_some_iff.mp there).1
  have entries : (taken.map TakenSender.listener)[position]? =
      (taken.map TakenSender.listener)[index]? := by
    simp [List.getElem?_map, there, found, same]
  exact differs ((List.getElem?_inj (by simpa using bound) distinct).mp entries)

theorem finish (holds : Refines state signal) {index : Nat} {used : TakenSender T}
    (found : state.taken[index]? = some used) :
    Refines
      { sender := state.sender
        channels := state.channels.set used.listener used.outcome
        taken := state.taken.eraseIdx index }
      signal := by
  have usedMember := List.mem_of_getElem? found
  have distinct := (List.nodup_append.mp holds.distinct).1
  have others := listener_ne_of_eraseIdx distinct found
  refine ⟨holds.sender, ?_, ?_, ?_, ?_⟩
  · rw [List.length_set]
    exact holds.length
  · refine holds.distinct.sublist ?_
    exact ((List.eraseIdx_sublist _ _).map _).append_right _
  · intro taken member
    rw [List.getElem?_set_ne (others taken member).symm]
    exact holds.delayed taken (List.mem_of_mem_eraseIdx member)
  · intro listener none
    by_cases same : used.listener = listener
    · subst same
      rw [List.getElem?_set_self (holds.lt_of_taken usedMember)]
      exact (holds.delayed used usedMember).2.symm
    · rw [List.getElem?_set_ne same]
      apply holds.settled
      intro taken member
      obtain ⟨position, there⟩ := List.getElem?_of_mem member
      by_cases this : position = index
      · subst this
        rw [Option.some.inj (there.symm.trans found)]
        exact same
      · exact none taken (List.mem_eraseIdx_iff_getElem?.mpr ⟨position, this, there⟩)

end Refines

theorem refines_of_run {state last : SlotState T} {signal : CompletionSignal T}
    {labels : List (SlotStep T)} (holds : Refines state signal)
    (reaches : run slotStep state labels = some last) :
    Refines last (specified signal labels) := by
  induction labels generalizing state signal with
  | nil =>
    cases reaches
    exact holds
  | cons label labels ih =>
    obtain ⟨next, steps, rest⟩ := run_cons_eq_some.mp reaches
    cases label with
    | replace =>
      obtain rfl := Option.some.inj steps
      exact ih holds.replace rest
    | take value =>
      obtain rfl := Option.some.inj steps
      exact ih (holds.take value) rest
    | finish index =>
      simp only [slotStep] at steps
      split at steps
      · next used found =>
        obtain rfl := Option.some.inj steps
        exact ih (holds.finish found) rest
      · cases steps

theorem SlotState.poll_eq {state : SlotState T} {signal : CompletionSignal T}
    {listener : Nat} (same : state.channels[listener]? = signal.channels[listener]?) :
    state.poll listener = signal.poll listener := by
  rcases found : signal.channels[listener]? with _ | _ | _ | _ <;> rw [found] at same <;>
    simp only [SlotState.poll, CompletionSignal.poll, same, found]

theorem SlotState.poll_of_empty {state : SlotState T} {listener : Nat}
    (empty : state.channels[listener]? = some .empty) : state.poll listener = none := by
  simp [SlotState.poll, empty]

namespace Refines

variable {state next : SlotState T} {signal : CompletionSignal T}

/-- A listener that has a result has no sender any more. -/
theorem ne_of_poll (holds : Refines state signal) {listener : Nat}
    {result : Except SignalCancelled T} (seen : state.poll listener = some result) :
    ∀ taken ∈ state.taken, taken.listener ≠ listener := by
  rintro taken member rfl
  rw [SlotState.poll_of_empty (holds.delayed taken member).1] at seen
  cases seen

theorem sound (holds : Refines state signal) {listener : Nat}
    {result : Except SignalCancelled T} (seen : state.poll listener = some result) :
    signal.poll listener = some result := by
  rw [← SlotState.poll_eq (holds.settled listener (holds.ne_of_poll seen))]
  exact seen

theorem complete (holds : Refines state signal) {listener : Nat}
    {result : Except SignalCancelled T} (given : signal.poll listener = some result) :
    state.poll listener = some result ∨
      ∃ index next, slotStep state (.finish index) = some next ∧
        next.poll listener = some result := by
  by_cases waiting : ∃ taken ∈ state.taken, taken.listener = listener
  · obtain ⟨taken, member, rfl⟩ := waiting
    obtain ⟨index, found⟩ := List.getElem?_of_mem member
    have finished := holds.finish found
    refine .inr ⟨index, _, by simp only [slotStep, found]; rfl, ?_⟩
    rw [← given]
    apply SlotState.poll_eq
    dsimp only
    rw [List.getElem?_set_self (holds.lt_of_taken member)]
    exact (holds.delayed taken member).2.symm
  · refine .inl ?_
    rw [SlotState.poll_eq (holds.settled listener fun taken member same =>
      waiting ⟨taken, member, same⟩)]
    exact given

/-- A step does not touch the channel of a listener that has its result. -/
theorem poll_step (holds : Refines state signal) {listener : Nat}
    {result : Except SignalCancelled T} {label : SlotStep T}
    (seen : state.poll listener = some result) (steps : slotStep state label = some next) :
    next.poll listener = some result := by
  have others := holds.ne_of_poll seen
  rw [← seen]
  cases label with
  | replace =>
    obtain rfl := Option.some.inj steps
    have known : listener < state.channels.length := by
      by_contra unknown
      rw [SlotState.poll, List.getElem?_eq_none (by omega)] at seen
      cases seen
    simp only [SlotState.poll, List.getElem?_append_left known]
  | take value =>
    obtain rfl := Option.some.inj steps
    rfl
  | finish index =>
    simp only [slotStep] at steps
    split at steps
    · next used found =>
      obtain rfl := Option.some.inj steps
      have other := others used (List.mem_of_getElem? found)
      simp only [SlotState.poll, List.getElem?_set_ne other]
    · cases steps

theorem poll_run {last : SlotState T} {labels : List (SlotStep T)}
    (holds : Refines state signal) {listener : Nat} {result : Except SignalCancelled T}
    (seen : state.poll listener = some result)
    (reaches : run slotStep state labels = some last) :
    last.poll listener = some result := by
  induction labels generalizing state signal with
  | nil =>
    cases reaches
    exact seen
  | cons label labels ih =>
    obtain ⟨next, steps, rest⟩ := run_cons_eq_some.mp reaches
    have one : run slotStep state [label] = some next := by
      rw [run_cons_eq_some]
      exact ⟨next, steps, rfl⟩
    exact ih (refines_of_run holds one) (holds.poll_step seen steps) rest

end Refines

/-- The interleaved signal against the atomic one.  A listener sees no result that the
atomic signal does not have for it, and what it has seen does not change.  No result is
lost: it is there, or it comes when the sender that was taken with it is used. -/
structure SlotRefinement (state : SlotState T) (signal : CompletionSignal T) : Prop where
  sound : ∀ listener result, state.poll listener = some result →
    signal.poll listener = some result
  complete : ∀ listener result, signal.poll listener = some result →
    state.poll listener = some result ∨
      ∃ index next, slotStep state (.finish index) = some next ∧
        next.poll listener = some result
  quiet : state.taken = [] → ∀ listener, state.poll listener = signal.poll listener
  stable : ∀ listener result labels last, state.poll listener = some result →
    run slotStep state labels = some last → last.poll listener = some result

/-- Every interleaving of `listen` and `signal` refines the atomic signal. -/
theorem slots_refine (labels : List (SlotStep T)) (state : SlotState T)
    (reaches : run slotStep .initial labels = some state) :
    SlotRefinement state (specified .new labels) := by
  have holds := refines_of_run refines_initial reaches
  refine ⟨fun _ _ => holds.sound, fun _ _ => holds.complete, ?_,
    fun _ _ _ _ => holds.poll_run⟩
  intro none listener
  apply SlotState.poll_eq
  apply holds.settled
  rw [none]
  exact nofun

/-- The second `listen` comes between the two steps of the signal. -/
theorem slots_refine_overtaken : ∃ state : SlotState Nat,
    run slotStep .initial [.replace, .take 7, .replace, .finish 0] = some state ∧
      state.poll 0 = some (.ok 7) ∧ state.poll 1 = none ∧
      SlotRefinement state (specified .new [.replace, .take 7, .replace, .finish 0]) :=
  ⟨_, rfl, rfl, rfl, slots_refine [.replace, .take 7, .replace, .finish 0] _ rfl⟩

end Wrest.SignalInterleaving
