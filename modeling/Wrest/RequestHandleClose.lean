import Wrest.TransitionRuns
import Wrest.RequestStates

/-!
# Closing and draining a request handle

Two parties may close a request handle: the owner, when the handle is dropped,
and a callback that aborts the request.  The drop first asks whether a callback
aborted; if so it only waits, otherwise it closes the handle and waits when that
close succeeded.  This file models every interleaving of the drop with the
callbacks of the handle and with the final `HANDLE_CLOSING` callback.

WinHTTP's side is the handle: the first close succeeds and later ones return
`FALSE`, and `HANDLE_CLOSING` is delivered once, after the successful close and
after every other callback has been started.
-/

namespace Wrest.RequestHandle

open Transition

/-- A raw handle value; zero is the null handle. -/
abbrev RawWinHttpHandle : Type := Nat

/-- The request handle that the drop owns.  WinHTTP returned it, so it is not
null. -/
structure WinHttpRequestHandle where
  handle : RawWinHttpHandle
  nonnull : handle ≠ 0

/-- WinHTTP's record of one handle: whether it is still open, how often it has
been closed, and whether the `HANDLE_CLOSING` callback has been started. -/
structure HandleRecord where
  isOpen : Bool
  closeCalls : Nat
  closingDelivered : Bool
deriving DecidableEq, Repr

/-- `WinHttpCloseHandle`: succeeds exactly on a handle that is still open. -/
def HandleRecord.close (record : HandleRecord) : Bool × HandleRecord :=
  (record.isOpen,
    { record with isOpen := false, closeCalls := record.closeCalls + 1 })

/-- The wrapper never passes a null handle on. -/
def closeWinHttpHandle (handle : RawWinHttpHandle) (record : HandleRecord) :
    Bool × HandleRecord :=
  if handle = 0 then (false, record) else record.close

/-- Where one callback of the request is.  `aborting` has stored its reason in
`abort_from_callback` and has yet to close the handle. -/
inductive CallbackPosition
  | started
  | entered
  | aborting
  | finished
deriving DecidableEq, Repr

def CallbackPosition.isInside : CallbackPosition → Bool
  | .entered | .aborting => true
  | .started | .finished => false

/-- Where the drop of the handle is.  `closing` has read that no callback
aborted and has yet to close the handle. -/
inductive DropPosition
  | owned
  | closing
  | waiting
  | returned
deriving DecidableEq, Repr

structure DrainState where
  request : RequestState
  record : HandleRecord
  callbacks : List CallbackPosition
  drop : DropPosition

/-- One atomic step of one party. -/
inductive DrainStep
  | callbackStarts
  | enterCallback (index : Nat)
  | abortFromCallback (index : Nat) (reason : Error)
  | abortCloses (index : Nat)
  | leaveCallback (index : Nat)
  | closingStarts
  | finalCallbackSeen
  | dropChecksAbort
  | dropCloses
  | dropWaits

namespace DrainState

def initial (origin : Origin) : DrainState where
  request := .new origin
  record := { isOpen := true, closeCalls := 0, closingDelivered := false }
  callbacks := []
  drop := .owned

def setCallback (state : DrainState) (index : Nat)
    (position : CallbackPosition) : DrainState :=
  { state with callbacks := state.callbacks.set index position }

def insideCount (state : DrainState) : Nat :=
  state.callbacks.countP CallbackPosition.isInside

/-- The number of callbacks between storing their reason and closing. -/
def abortingCount (state : DrainState) : Nat :=
  state.callbacks.count .aborting

end DrainState

/-- The steps of the drop, of the callbacks and of WinHTTP. -/
def drainStep (owner : WinHttpRequestHandle) (state : DrainState) :
    DrainStep → Option DrainState
  | .callbackStarts =>
    if state.record.closingDelivered then
      none
    else
      some { state with callbacks := state.callbacks ++ [.started] }
  | .enterCallback index =>
    if state.callbacks[index]? = some .started then
      match state.request.enterCallback with
      | some request => some { state.setCallback index .entered with request }
      | none => some (state.setCallback index .finished)
    else
      none
  | .abortFromCallback index reason =>
    if state.callbacks[index]? = some .entered then
      match state.request.latchAbort reason with
      | some request => some { state.setCallback index .aborting with request }
      | none => some state
    else
      none
  | .abortCloses index =>
    if state.callbacks[index]? = some .aborting then
      some { state.setCallback index .entered with
        record := (closeWinHttpHandle owner.handle state.record).2 }
    else
      none
  | .leaveCallback index =>
    if state.callbacks[index]? = some .entered then
      some { state.setCallback index .finished with
        request := state.request.leaveCallback }
    else
      none
  | .closingStarts =>
    if state.record.isOpen || state.record.closingDelivered then
      none
    else
      some { state with record := { state.record with closingDelivered := true } }
  | .finalCallbackSeen =>
    if state.record.closingDelivered && !state.request.closeState.closed then
      some { state with request := state.request.markFinalCallbackSeen }
    else
      none
  | .dropChecksAbort =>
    if state.drop = .owned then
      some { state with
        drop := if state.request.isAborted then .waiting else .closing }
    else
      none
  | .dropCloses =>
    if state.drop = .closing then
      match closeWinHttpHandle owner.handle state.record with
      | (true, record) => some { state with record, drop := .waiting }
      | (false, record) => some { state with record, drop := .returned }
    else
      none
  | .dropWaits =>
    if state.drop = .waiting && state.request.closedAndIdle then
      some { state with drop := .returned }
    else
      none

/-- What one step can do: one constructor for each outcome, with the condition
under which it is taken. -/
inductive DrainMove (state : DrainState) : DrainStep → DrainState → Prop
  | callbackStarts (live : state.record.closingDelivered = false) :
      DrainMove state .callbackStarts
        { state with callbacks := state.callbacks ++ [.started] }
  | callbackEnters {index : Nat} {request : RequestState}
      (found : state.callbacks[index]? = some .started)
      (enters : state.request.enterCallback = some request) :
      DrainMove state (.enterCallback index)
        { state.setCallback index .entered with request }
  | callbackOverflows {index : Nat}
      (found : state.callbacks[index]? = some .started) :
      DrainMove state (.enterCallback index) (state.setCallback index .finished)
  | abortLatches {index : Nat} {reason : Error}
      (found : state.callbacks[index]? = some .entered)
      (notAborted : state.request.callbackAbort = .notAborted) :
      DrainMove state (.abortFromCallback index reason)
        { state.setCallback index .aborting with
          request :=
            { state.request with callbackAbort := .aborted (some reason) } }
  | abortIgnored {index : Nat} {reason : Error}
      (found : state.callbacks[index]? = some .entered)
      (aborted : state.request.isAborted = true) :
      DrainMove state (.abortFromCallback index reason) state
  | abortCloses {index : Nat}
      (found : state.callbacks[index]? = some .aborting) :
      DrainMove state (.abortCloses index)
        { state.setCallback index .entered with record := state.record.close.2 }
  | callbackLeaves {index : Nat}
      (found : state.callbacks[index]? = some .entered) :
      DrainMove state (.leaveCallback index)
        { state.setCallback index .finished with
          request := state.request.leaveCallback }
  | closingStarts (shut : state.record.isOpen = false)
      (first : state.record.closingDelivered = false) :
      DrainMove state .closingStarts
        { state with record := { state.record with closingDelivered := true } }
  | finalCallbackSeen (delivered : state.record.closingDelivered = true) :
      DrainMove state .finalCallbackSeen
        { state with request := state.request.markFinalCallbackSeen }
  | dropFindsAbort (owned : state.drop = .owned)
      (aborted : state.request.isAborted = true) :
      DrainMove state .dropChecksAbort { state with drop := .waiting }
  | dropFindsNoAbort (owned : state.drop = .owned)
      (notAborted : state.request.isAborted = false) :
      DrainMove state .dropChecksAbort { state with drop := .closing }
  | dropCloses (closing : state.drop = .closing)
      (succeeds : state.record.isOpen = true) :
      DrainMove state .dropCloses
        { state with record := state.record.close.2, drop := .waiting }
  | dropCloseFails (closing : state.drop = .closing)
      (fails : state.record.isOpen = false) :
      DrainMove state .dropCloses
        { state with record := state.record.close.2, drop := .returned }
  | dropWaits (waiting : state.drop = .waiting)
      (idle : state.request.closedAndIdle = true) :
      DrainMove state .dropWaits { state with drop := .returned }

theorem closeWinHttpHandle_owner (owner : WinHttpRequestHandle)
    (record : HandleRecord) :
    closeWinHttpHandle owner.handle record = record.close :=
  if_neg owner.nonnull

theorem drainMove_of_drainStep {owner : WinHttpRequestHandle}
    {state next : DrainState} {label : DrainStep}
    (steps : drainStep owner state label = some next) :
    DrainMove state label next := by
  cases label with
  | callbackStarts =>
    simp only [drainStep, Option.ite_none_left_eq_some, Option.some.injEq,
      Bool.not_eq_true] at steps
    obtain ⟨live, rfl⟩ := steps
    exact .callbackStarts live
  | enterCallback index =>
    simp only [drainStep, Option.ite_none_right_eq_some] at steps
    obtain ⟨found, steps⟩ := steps
    cases enters : state.request.enterCallback with
    | none =>
      rw [enters] at steps
      cases steps
      exact .callbackOverflows found
    | some request =>
      rw [enters] at steps
      cases steps
      exact .callbackEnters found enters
  | abortFromCallback index reason =>
    simp only [drainStep, Option.ite_none_right_eq_some] at steps
    obtain ⟨found, steps⟩ := steps
    cases latches : state.request.latchAbort reason with
    | none =>
      rw [latches] at steps
      cases steps
      exact .abortIgnored found (RequestState.latchAbort_eq_none.mp latches)
    | some request =>
      rw [latches] at steps
      cases steps
      obtain ⟨notAborted, rfl⟩ := RequestState.latchAbort_eq_some.mp latches
      exact .abortLatches found notAborted
  | abortCloses index =>
    simp only [drainStep, Option.ite_none_right_eq_some, Option.some.injEq,
      closeWinHttpHandle_owner] at steps
    obtain ⟨found, rfl⟩ := steps
    exact .abortCloses found
  | leaveCallback index =>
    simp only [drainStep, Option.ite_none_right_eq_some, Option.some.injEq] at steps
    obtain ⟨found, rfl⟩ := steps
    exact .callbackLeaves found
  | closingStarts =>
    simp only [drainStep, Option.ite_none_left_eq_some, Option.some.injEq,
      Bool.or_eq_true, not_or, Bool.not_eq_true] at steps
    obtain ⟨⟨shut, first⟩, rfl⟩ := steps
    exact .closingStarts shut first
  | finalCallbackSeen =>
    simp only [drainStep, Option.ite_none_right_eq_some, Option.some.injEq,
      Bool.and_eq_true] at steps
    obtain ⟨⟨delivered, -⟩, rfl⟩ := steps
    exact .finalCallbackSeen delivered
  | dropChecksAbort =>
    simp only [drainStep, Option.ite_none_right_eq_some, Option.some.injEq] at steps
    obtain ⟨owned, rfl⟩ := steps
    cases aborted : state.request.isAborted with
    | true => exact .dropFindsAbort owned aborted
    | false => exact .dropFindsNoAbort owned aborted
  | dropCloses =>
    simp only [drainStep, Option.ite_none_right_eq_some, closeWinHttpHandle_owner,
      HandleRecord.close] at steps
    obtain ⟨closing, steps⟩ := steps
    cases isOpen : state.record.isOpen with
    | true =>
      rw [isOpen] at steps
      cases steps
      exact .dropCloses closing isOpen
    | false =>
      rw [isOpen] at steps
      cases steps
      exact .dropCloseFails closing isOpen
  | dropWaits =>
    simp only [drainStep, Option.ite_none_right_eq_some, Option.some.injEq,
      Bool.and_eq_true, decide_eq_true_eq] at steps
    obtain ⟨⟨waiting, idle⟩, rfl⟩ := steps
    exact .dropWaits waiting idle

theorem countP_set_add (counted : CallbackPosition → Bool)
    {callbacks : List CallbackPosition} {index : Nat}
    {old : CallbackPosition} (found : callbacks[index]? = some old)
    (position : CallbackPosition) :
    (callbacks.set index position).countP counted + (counted old).toNat =
      callbacks.countP counted + (counted position).toNat := by
  obtain ⟨bound, oldEq⟩ := List.getElem?_eq_some_iff.mp found
  have counts : (callbacks.set index position).countP counted = _ :=
    List.countP_set bound
  have isCounted : counted old = true → 0 < callbacks.countP counted := by
    intro holds
    exact List.countP_pos_iff.mpr ⟨old, List.mem_of_getElem? found, holds⟩
  rw [counts, oldEq]
  cases holds : counted old with
  | false => cases counted position <;> simp
  | true =>
    have positive := isCounted holds
    cases counted position <;> simp <;> omega

namespace DrainState

theorem setCallback_insideCount {state : DrainState} {index : Nat}
    {old : CallbackPosition} (found : state.callbacks[index]? = some old)
    (position : CallbackPosition) :
    (state.setCallback index position).insideCount + old.isInside.toNat =
      state.insideCount + position.isInside.toNat :=
  countP_set_add _ found position

theorem setCallback_abortingCount {state : DrainState} {index : Nat}
    {old : CallbackPosition} (found : state.callbacks[index]? = some old)
    (position : CallbackPosition) (oldNe : old ≠ .aborting)
    (positionNe : position ≠ .aborting) :
    (state.setCallback index position).abortingCount = state.abortingCount := by
  have moved := countP_set_add (· == .aborting) found position
  rw [beq_eq_false_iff_ne.mpr oldNe, beq_eq_false_iff_ne.mpr positionNe] at moved
  exact moved

theorem setCallback_abortingCount_latch {state : DrainState} {index : Nat}
    (found : state.callbacks[index]? = some .entered) :
    (state.setCallback index .aborting).abortingCount =
      state.abortingCount + 1 :=
  countP_set_add (· == .aborting) found .aborting

theorem setCallback_abortingCount_close {state : DrainState} {index : Nat}
    (found : state.callbacks[index]? = some .aborting) :
    (state.setCallback index .entered).abortingCount + 1 =
      state.abortingCount :=
  countP_set_add (· == .aborting) found .entered

end DrainState

/-- The counter counts the callbacks that hold a guard. -/
def CountsCallbacks (state : DrainState) : Prop :=
  state.request.closeState.activeCallbacks = state.insideCount

theorem countsCallbacks_initial (origin : Origin) :
    CountsCallbacks (.initial origin) :=
  rfl

theorem DrainMove.countsCallbacks {state next : DrainState} {label : DrainStep}
    (counts : CountsCallbacks state) (move : DrainMove state label next) :
    CountsCallbacks next := by
  unfold CountsCallbacks at counts ⊢
  cases move with
  | callbackStarts =>
    simpa [DrainState.insideCount, CallbackPosition.isInside] using counts
  | callbackEnters found enters =>
    have moved := DrainState.setCallback_insideCount found .entered
    have counted := RequestState.enterCallback_closeState enters
    simp only [CallbackPosition.isInside, Bool.toNat_false, Bool.toNat_true] at moved
    change _ = (state.setCallback _ .entered).insideCount
    simp only [counted]
    omega
  | callbackOverflows found =>
    have moved := DrainState.setCallback_insideCount found .finished
    simp only [CallbackPosition.isInside, Bool.toNat_false] at moved
    change state.request.closeState.activeCallbacks = _
    omega
  | abortLatches found =>
    have moved := DrainState.setCallback_insideCount found .aborting
    simp only [CallbackPosition.isInside, Bool.toNat_true] at moved
    change state.request.closeState.activeCallbacks =
      (state.setCallback _ .aborting).insideCount
    omega
  | abortCloses found =>
    have moved := DrainState.setCallback_insideCount found .entered
    simp only [CallbackPosition.isInside, Bool.toNat_true] at moved
    change state.request.closeState.activeCallbacks =
      (state.setCallback _ .entered).insideCount
    omega
  | callbackLeaves found =>
    have moved := DrainState.setCallback_insideCount found .finished
    simp only [CallbackPosition.isInside, Bool.toNat_false, Bool.toNat_true] at moved
    change _ = (state.setCallback _ .finished).insideCount
    rw [RequestState.leaveCallback_activeCallbacks]
    omega
  | abortIgnored | closingStarts | finalCallbackSeen | dropFindsAbort
    | dropFindsNoAbort | dropCloses | dropCloseFails | dropWaits => exact counts

/-- In every interleaving the counter equals the number of callbacks that hold
a guard. -/
theorem countsCallbacks_of_run {owner : WinHttpRequestHandle}
    {origin : Origin} {labels : List DrainStep} {state : DrainState}
    (reaches : run (drainStep owner) (.initial origin) labels = some state) :
    CountsCallbacks state :=
  invariant_of_run CountsCallbacks
    (fun _ _ _ counts steps => (drainMove_of_drainStep steps).countsCallbacks counts)
    (countsCallbacks_initial origin) reaches

/-- A callback that has stored its reason leaves the latch aborted. -/
def AbortingLatched (state : DrainState) : Prop :=
  0 < state.abortingCount → state.request.isAborted = true

/-- The drop's own close finds the handle open. -/
structure CloseFindsOpen (state : DrainState) : Prop where
  latched : AbortingLatched state
  openWhenOwned : state.drop = .owned → state.request.isAborted = false →
    state.record.isOpen = true
  openWhenClosing : state.drop = .closing → state.record.isOpen = true

/-- No callback closes the handle between the drop's check of the latch and the
drop's own close. -/
def ClosesOutsideDropWindow (state : DrainState) : DrainStep → Prop
  | .abortCloses _ => state.drop ≠ .closing
  | _ => True

instance (state : DrainState) (label : DrainStep) :
    Decidable (ClosesOutsideDropWindow state label) :=
  match label with
  | .abortCloses _ => inferInstanceAs (Decidable (_ ≠ _))
  | .callbackStarts | .enterCallback _ | .abortFromCallback _ _
  | .leaveCallback _ | .closingStarts | .finalCallbackSeen | .dropChecksAbort
  | .dropCloses | .dropWaits => inferInstanceAs (Decidable True)

theorem CloseFindsOpen.congr {state next : DrainState} (finds : CloseFindsOpen state)
    (recordEq : next.record.isOpen = state.record.isOpen)
    (abortEq : next.request.callbackAbort = state.request.callbackAbort)
    (dropEq : next.drop = state.drop)
    (countEq : next.abortingCount = state.abortingCount) : CloseFindsOpen next := by
  have isAbortedEq : next.request.isAborted = state.request.isAborted :=
    congrArg CallbackAbort.isAborted abortEq
  constructor
  · rw [AbortingLatched, countEq, isAbortedEq]
    exact finds.latched
  · rw [dropEq, isAbortedEq, recordEq]
    exact finds.openWhenOwned
  · rw [dropEq, recordEq]
    exact finds.openWhenClosing

theorem DrainMove.closeFindsOpen {state next : DrainState} {label : DrainStep}
    (finds : CloseFindsOpen state) (outside : ClosesOutsideDropWindow state label)
    (move : DrainMove state label next) : CloseFindsOpen next := by
  cases move with
  | callbackStarts =>
    refine finds.congr rfl rfl rfl ?_
    simp [DrainState.abortingCount]
  | callbackEnters found enters =>
    exact finds.congr rfl (RequestState.enterCallback_callbackAbort enters) rfl
      (DrainState.setCallback_abortingCount found .entered nofun nofun)
  | callbackOverflows found =>
    exact finds.congr rfl rfl rfl
      (DrainState.setCallback_abortingCount found .finished nofun nofun)
  | callbackLeaves found =>
    exact finds.congr rfl (RequestState.leaveCallback_callbackAbort _) rfl
      (DrainState.setCallback_abortingCount found .finished nofun nofun)
  | closingStarts | finalCallbackSeen => exact finds.congr rfl rfl rfl rfl
  | abortIgnored => exact finds
  | abortLatches found notAborted =>
    exact ⟨fun _ => rfl, nofun, finds.openWhenClosing⟩
  | abortCloses found =>
    -- The handle is closed now, and a drop that still owns it will find the latch set.
    have aborted : state.request.isAborted = true := by
      apply finds.latched
      exact List.count_pos_iff.mpr (List.mem_of_getElem? found)
    refine ⟨fun _ => aborted, fun _ notAborted => ?_, fun closing => ?_⟩
    · cases aborted.symm.trans notAborted
    · exact absurd closing outside
  | dropFindsAbort => exact ⟨finds.latched, nofun, nofun⟩
  | dropFindsNoAbort owned notAborted =>
    exact ⟨finds.latched, nofun, fun _ => finds.openWhenOwned owned notAborted⟩
  | dropCloses | dropCloseFails | dropWaits =>
    exact ⟨finds.latched, nofun, nofun⟩

theorem closeFindsOpen_initial (origin : Origin) :
    CloseFindsOpen (.initial origin) where
  latched := by simp [AbortingLatched, DrainState.initial, DrainState.abortingCount]
  openWhenOwned := fun _ _ => rfl
  openWhenClosing := nofun

/-- If the step makes the drop return, the final callback has been seen and no
callback is active. -/
def DrainedOnReturn (state next : DrainState) : Prop :=
  state.drop ≠ .returned → next.drop = .returned →
    next.request.closeState.closed = true ∧
      next.request.closeState.activeCallbacks = 0 ∧ next.insideCount = 0

/-- When no callback closes the handle inside the drop's window, the drop
returns only after the final callback has been seen and every callback has
left. -/
theorem drop_returns_drained (owner : WinHttpRequestHandle) (origin : Origin)
    (labels : List DrainStep) (label : DrainStep) (state next : DrainState)
    (outside : Guarded (drainStep owner) ClosesOutsideDropWindow (.initial origin)
      (labels ++ [label]))
    (reaches : run (drainStep owner) (.initial origin) labels = some state)
    (steps : drainStep owner state label = some next) :
    DrainedOnReturn state next := by
  intro notReturned returned
  have finds : CloseFindsOpen state :=
    invariant_of_guarded_run CloseFindsOpen
      (fun _ _ _ outside finds steps =>
        (drainMove_of_drainStep steps).closeFindsOpen finds outside)
      (closeFindsOpen_initial origin) outside.initial reaches
  have counts : CountsCallbacks next :=
    countsCallbacks_of_run (run_concat_eq_some.mpr ⟨state, reaches, steps⟩)
  suffices drained : next.request.closedAndIdle = true by
    obtain ⟨closed, idle⟩ := (RequestState.closedAndIdle_iff _).mp drained
    exact ⟨closed, idle, counts.symm.trans idle⟩
  cases drainMove_of_drainStep steps with
  | dropWaits waiting idle => exact idle
  | dropCloseFails closing fails =>
    rw [finds.openWhenClosing closing] at fails
    cases fails
  | callbackStarts | callbackEnters | callbackOverflows | abortLatches
    | abortIgnored | abortCloses | callbackLeaves | closingStarts
    | finalCallbackSeen => exact absurd returned notReturned
  | dropFindsAbort | dropFindsNoAbort | dropCloses => cases returned

/-- A request handle and a redirect callback that aborts, for the example
runs. -/
def exampleHandle : WinHttpRequestHandle where
  handle := 4
  nonnull := by decide

def exampleOrigin : Origin := .new "https" "example.com" 443

def redirectReason : Error :=
  .request (.message "failed to remove sensitive header on cross-origin redirect")

/-- The callback aborts and leaves, and only then is the handle dropped. -/
def abortThenDrop : List DrainStep :=
  [.callbackStarts, .enterCallback 0, .abortFromCallback 0 redirectReason,
    .abortCloses 0, .leaveCallback 0, .dropChecksAbort, .closingStarts,
    .finalCallbackSeen]

theorem drop_returns_drained_abortThenDrop :
    ∃ state next,
      run (drainStep exampleHandle) (.initial exampleOrigin) abortThenDrop =
          some state ∧
        drainStep exampleHandle state .dropWaits = some next ∧
        state.drop ≠ .returned ∧ next.drop = .returned ∧
        DrainedOnReturn state next :=
  ⟨_, _, rfl, rfl, by decide, rfl,
    drop_returns_drained exampleHandle exampleOrigin abortThenDrop .dropWaits _ _
      (by decide) rfl rfl⟩

/-- The callback aborts and closes the handle between the drop's check and the
drop's own close. -/
def abortInDropWindow : List DrainStep :=
  [.callbackStarts, .enterCallback 0, .dropChecksAbort,
    .abortFromCallback 0 redirectReason, .abortCloses 0]

/-- The drop's close then fails and the drop returns at once: the final
callback has not been seen and one callback is still active. -/
theorem drop_returns_undrained :
    ∃ state next,
      run (drainStep exampleHandle) (.initial exampleOrigin) abortInDropWindow =
          some state ∧
        drainStep exampleHandle state .dropCloses = some next ∧
        state.drop ≠ .returned ∧ next.drop = .returned ∧
        next.request.closeState.closed = false ∧
        next.request.closeState.activeCallbacks = 1 :=
  ⟨_, _, rfl, rfl, by decide, rfl, rfl, rfl⟩

/-- Which party closes the handle, and how often it has been closed. -/
structure ClosedByOne (state : DrainState) : Prop where
  isOpen_iff : state.record.isOpen = true ↔ state.record.closeCalls = 0
  delivered : state.record.closingDelivered = true → state.record.isOpen = false
  closed : state.request.closeState.closed = true →
    state.record.closingDelivered = true
  notAborted : state.request.isAborted = false →
    state.abortingCount = 0 ∧
      state.record.closeCalls =
        if state.drop = .waiting ∨ state.drop = .returned then 1 else 0
  aborted : state.request.isAborted = true →
    state.drop ≠ .closing ∧ state.record.closeCalls + state.abortingCount = 1
  returned : state.drop = .returned → 0 < state.record.closeCalls

/-- No callback becomes the first to abort once the drop has read that none
did. -/
def AbortsBeforeDropCheck (state : DrainState) : DrainStep → Prop
  | .abortFromCallback _ _ => state.request.isAborted = true ∨ state.drop = .owned
  | _ => True

instance (state : DrainState) (label : DrainStep) :
    Decidable (AbortsBeforeDropCheck state label) :=
  match label with
  | .abortFromCallback _ _ => inferInstanceAs (Decidable (_ ∨ _))
  | .callbackStarts | .enterCallback _ | .abortCloses _ | .leaveCallback _
  | .closingStarts | .finalCallbackSeen | .dropChecksAbort | .dropCloses
  | .dropWaits => inferInstanceAs (Decidable True)

theorem ClosedByOne.closeCalls_le_one {state : DrainState}
    (one : ClosedByOne state) : state.record.closeCalls ≤ 1 := by
  cases aborted : state.request.isAborted with
  | true =>
    have counted := (one.aborted aborted).2
    omega
  | false =>
    have counted := (one.notAborted aborted).2
    split at counted <;> omega

/-- A step that changes neither the handle nor the latch nor the drop nor the
aborting callbacks keeps the accounts. -/
theorem ClosedByOne.congr {state next : DrainState} (one : ClosedByOne state)
    (recordEq : next.record = state.record)
    (abortEq : next.request.callbackAbort = state.request.callbackAbort)
    (closedEq : next.request.closeState.closed = state.request.closeState.closed)
    (dropEq : next.drop = state.drop)
    (countEq : next.abortingCount = state.abortingCount) : ClosedByOne next := by
  have isAbortedEq : next.request.isAborted = state.request.isAborted :=
    congrArg CallbackAbort.isAborted abortEq
  constructor
  · rw [recordEq]
    exact one.isOpen_iff
  · rw [recordEq]
    exact one.delivered
  · rw [recordEq, closedEq]
    exact one.closed
  · rw [recordEq, isAbortedEq, dropEq, countEq]
    exact one.notAborted
  · rw [recordEq, isAbortedEq, dropEq, countEq]
    exact one.aborted
  · rw [recordEq, dropEq]
    exact one.returned

/-- Nobody aborted when the drop is about to close the handle. -/
theorem ClosedByOne.notAborted_of_closing {state : DrainState}
    (one : ClosedByOne state) (closing : state.drop = .closing) :
    state.request.isAborted = false := by
  cases aborted : state.request.isAborted with
  | false => rfl
  | true => exact absurd closing (one.aborted aborted).1

/-- So nobody closed it either, and the close succeeds. -/
theorem ClosedByOne.isOpen_of_closing {state : DrainState}
    (one : ClosedByOne state) (closing : state.drop = .closing) :
    state.record.isOpen = true := by
  have counted := (one.notAborted (one.notAborted_of_closing closing)).2
  rw [closing, if_neg (by decide)] at counted
  exact one.isOpen_iff.mpr counted

theorem ClosedByOne.isAborted_of_aborting {state : DrainState}
    (one : ClosedByOne state) (aborting : 0 < state.abortingCount) :
    state.request.isAborted = true := by
  cases aborted : state.request.isAborted with
  | true => rfl
  | false => exact absurd (one.notAborted aborted).1 (Nat.ne_of_gt aborting)

/-- The final callback is seen only of a handle that was closed. -/
theorem ClosedByOne.closeCalls_pos {state : DrainState} (one : ClosedByOne state)
    (closed : state.request.closeState.closed = true) :
    0 < state.record.closeCalls := by
  have shut := one.delivered (one.closed closed)
  by_contra unclosed
  have isOpen := one.isOpen_iff.mpr (Nat.eq_zero_of_not_pos unclosed)
  rw [shut] at isOpen
  cases isOpen

theorem ClosedByOne.latch {state : DrainState} {index : Nat} {reason : Error}
    (one : ClosedByOne state) (owned : state.drop = .owned)
    (found : state.callbacks[index]? = some .entered)
    (notAborted : state.request.isAborted = false) :
    ClosedByOne { state.setCallback index .aborting with
      request := { state.request with callbackAbort := .aborted (some reason) } } := by
  obtain ⟨noneAborting, closeCalls⟩ := one.notAborted notAborted
  rw [owned, if_neg (by decide)] at closeCalls
  refine ⟨one.isOpen_iff, one.delivered, one.closed, nofun, fun _ => ⟨?_, ?_⟩,
    one.returned⟩
  · exact owned ▸ nofun
  · have counted := DrainState.setCallback_abortingCount_latch found
    change state.record.closeCalls +
      (state.setCallback _ .aborting).abortingCount = 1
    omega

/-- The callback that aborted is the one that closes the handle. -/
theorem ClosedByOne.abortCloses {state : DrainState} {index : Nat}
    (one : ClosedByOne state) (found : state.callbacks[index]? = some .aborting) :
    ClosedByOne
      { state.setCallback index .entered with record := state.record.close.2 } := by
  have counted := DrainState.setCallback_abortingCount_close found
  have aborted := one.isAborted_of_aborting (by omega)
  obtain ⟨notClosing, total⟩ := one.aborted aborted
  refine ⟨by simp [HandleRecord.close], fun _ => rfl, one.closed, fun notAborted => ?_,
    fun _ => ⟨notClosing, ?_⟩, fun _ => Nat.succ_pos _⟩
  · cases aborted.symm.trans notAborted
  · change state.record.closeCalls + 1 +
      (state.setCallback _ .entered).abortingCount = 1
    omega

theorem ClosedByOne.dropCloses {state : DrainState} (one : ClosedByOne state)
    (closing : state.drop = .closing) :
    ClosedByOne { state with record := state.record.close.2, drop := .waiting } := by
  have unclosed := one.isOpen_iff.mp (one.isOpen_of_closing closing)
  have notAborted := one.notAborted_of_closing closing
  refine ⟨by simp [HandleRecord.close], fun _ => rfl, one.closed,
    fun _ => ⟨(one.notAborted notAborted).1, by simp [HandleRecord.close, unclosed]⟩,
    fun aborted => ?_, nofun⟩
  cases notAborted.symm.trans aborted

theorem DrainMove.closedByOne {state next : DrainState} {label : DrainStep}
    (one : ClosedByOne state) (before : AbortsBeforeDropCheck state label)
    (move : DrainMove state label next) : ClosedByOne next := by
  cases move with
  | callbackStarts =>
    refine one.congr rfl rfl rfl rfl ?_
    simp [DrainState.abortingCount]
  | callbackEnters found enters =>
    have stateEq := RequestState.enterCallback_closeState enters
    exact one.congr rfl (RequestState.enterCallback_callbackAbort enters)
      (by rw [stateEq]) rfl
      (DrainState.setCallback_abortingCount found .entered nofun nofun)
  | callbackOverflows found =>
    exact one.congr rfl rfl rfl rfl
      (DrainState.setCallback_abortingCount found .finished nofun nofun)
  | callbackLeaves found =>
    exact one.congr rfl (RequestState.leaveCallback_callbackAbort _)
      (RequestState.leaveCallback_closed _) rfl
      (DrainState.setCallback_abortingCount found .finished nofun nofun)
  | abortIgnored => exact one
  | abortLatches found notAborted =>
    have latchEq : state.request.isAborted = false := by
      rw [RequestState.isAborted, notAborted]
      rfl
    have owned : state.drop = .owned := by
      rcases before with aborted | owned
      · rw [latchEq] at aborted
        cases aborted
      · exact owned
    exact one.latch owned found latchEq
  | abortCloses found => exact one.abortCloses found
  | closingStarts shut =>
    exact ⟨one.isOpen_iff, fun _ => shut, fun _ => rfl, one.notAborted,
      one.aborted, one.returned⟩
  | finalCallbackSeen delivered =>
    exact ⟨one.isOpen_iff, one.delivered, fun _ => delivered, one.notAborted,
      one.aborted, one.returned⟩
  | dropFindsAbort owned aborted =>
    refine ⟨one.isOpen_iff, one.delivered, one.closed, fun notAborted => ?_,
      fun _ => ⟨nofun, (one.aborted aborted).2⟩, nofun⟩
    cases aborted.symm.trans notAborted
  | dropFindsNoAbort owned notAborted =>
    obtain ⟨noneAborting, closeCalls⟩ := one.notAborted notAborted
    rw [owned, if_neg (by decide)] at closeCalls
    refine ⟨one.isOpen_iff, one.delivered, one.closed,
      fun _ => ⟨noneAborting, by simpa using closeCalls⟩, fun aborted => ?_, nofun⟩
    cases notAborted.symm.trans aborted
  | dropCloses closing succeeds => exact one.dropCloses closing
  | dropCloseFails closing fails =>
    rw [one.isOpen_of_closing closing] at fails
    cases fails
  | dropWaits waiting idle =>
    obtain ⟨closed, -⟩ := (RequestState.closedAndIdle_iff _).mp idle
    refine ⟨one.isOpen_iff, one.delivered, one.closed, fun notAborted => ?_,
      fun aborted => ⟨nofun, (one.aborted aborted).2⟩,
      fun _ => one.closeCalls_pos closed⟩
    have counted := one.notAborted notAborted
    rw [if_pos (Or.inl waiting)] at counted
    exact ⟨counted.1, by simpa using counted.2⟩

theorem closedByOne_initial (origin : Origin) : ClosedByOne (.initial origin) where
  isOpen_iff := by simp [DrainState.initial]
  delivered := nofun
  closed := nofun
  notAborted := fun _ => ⟨rfl, rfl⟩
  aborted := nofun
  returned := nofun

/-- When every abort comes before the drop's check, the handle is closed at
most once, and exactly once by the time the drop has returned. -/
theorem closeCalls_once (owner : WinHttpRequestHandle) (origin : Origin)
    (labels : List DrainStep) (state : DrainState)
    (before : Guarded (drainStep owner) AbortsBeforeDropCheck (.initial origin) labels)
    (reaches : run (drainStep owner) (.initial origin) labels = some state) :
    state.record.closeCalls ≤ 1 ∧
      (state.drop = .returned → state.record.closeCalls = 1) := by
  have one : ClosedByOne state :=
    invariant_of_guarded_run ClosedByOne
      (fun _ _ _ before one steps =>
        (drainMove_of_drainStep steps).closedByOne one before)
      (closedByOne_initial origin) before reaches
  have atMost := one.closeCalls_le_one
  refine ⟨atMost, fun returned => ?_⟩
  have atLeast := one.returned returned
  omega

theorem closeCalls_once_abortThenDrop :
    ∃ state,
      run (drainStep exampleHandle) (.initial exampleOrigin)
          (abortThenDrop ++ [.dropWaits]) = some state ∧
        state.drop = .returned ∧
        state.record.closeCalls ≤ 1 ∧
        (state.drop = .returned → state.record.closeCalls = 1) :=
  ⟨_, rfl, rfl,
    closeCalls_once exampleHandle exampleOrigin (abortThenDrop ++ [.dropWaits]) _
      (by decide) rfl⟩

/-- The same window lets both parties close the handle. -/
theorem closeCalls_twice :
    ∃ state,
      run (drainStep exampleHandle) (.initial exampleOrigin)
          (abortInDropWindow ++ [.dropCloses]) = some state ∧
        state.drop = .returned ∧ state.record.closeCalls = 2 :=
  ⟨_, rfl, rfl, rfl⟩

end Wrest.RequestHandle
