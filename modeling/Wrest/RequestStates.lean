import Wrest.CompletionSignals
import Wrest.RequestErrors

/-!
# Shared state of one request

The state shared between the future that executes a request and the WinHTTP
callback: the completion signal, the close/drain counters of the handle, the
buffer of the read in flight, the request body, the origin of the current hop,
and the abort latch.  Every operation here is one critical section of the
source, so the components built from them may interleave between any two.
-/

namespace Wrest

/-- Events that the callback delivers through the completion signal. -/
inductive CallbackEvent
  | complete
  | readComplete (count : Nat)
  | writeComplete (count : Nat)
  | win32Error (code : Nat)
deriving DecidableEq, Repr

namespace CallbackEvent

/-- The debug rendering that error messages quote. -/
def debug : CallbackEvent → String
  | .complete => "Complete"
  | .readComplete count => "ReadComplete(" ++ toString count ++ ")"
  | .writeComplete count => "WriteComplete(" ++ toString count ++ ")"
  | .win32Error code => "Win32Error(" ++ toString code ++ ")"

def unexpected (event : CallbackEvent) (url : Url) : Error :=
  (Error.request (.message ("unexpected callback event: " ++ event.debug))).withUrl url

def intoReadComplete (event : CallbackEvent) (url : Url) : Except Error Nat :=
  match event with
  | .readComplete count => .ok count
  | .win32Error code => .error ((Error.fromWin32 code).withUrl url)
  | other => .error (other.unexpected url)

def intoWriteComplete (event : CallbackEvent) (url : Url) : Except Error Nat :=
  match event with
  | .writeComplete count => .ok count
  | .win32Error code => .error ((Error.fromWin32 code).withUrl url)
  | other => .error (other.unexpected url)

end CallbackEvent

def usizeMax : Nat := UInt64.size - 1

/-- Close/drain state for one request handle. -/
structure RequestCloseState where
  closed : Bool
  activeCallbacks : Nat
deriving DecidableEq, Repr

/-- Whether a callback aborted the request, and the reason until it is taken.
`aborted` is sticky. -/
inductive CallbackAbort
  | notAborted
  | aborted (reason : Option Error)

namespace CallbackAbort

def isAborted : CallbackAbort → Bool
  | .notAborted => false
  | .aborted _ => true

/-- The reason is handed out once. -/
def takeReason : CallbackAbort → Option Error × CallbackAbort
  | .notAborted => (none, .notAborted)
  | .aborted reason => (reason, .aborted none)

@[simp]
theorem isAborted_notAborted : notAborted.isAborted = false :=
  rfl

@[simp]
theorem isAborted_aborted (reason : Option Error) :
    (aborted reason).isAborted = true :=
  rfl

end CallbackAbort

/-- A buffer allocated for `WinHttpReadData`, named by its allocation. -/
structure BytesMut where
  allocation : Nat
  capacity : Nat
deriving DecidableEq, Repr

/-- Shared state for one in-flight request. -/
structure RequestState where
  signal : CompletionSignal CallbackEvent
  tlsFailureFlags : Nat
  closeState : RequestCloseState
  readBuffer : Option BytesMut
  sendBody : Option (List UInt8)
  currentOrigin : Origin
  callbackAbort : CallbackAbort

namespace RequestState

def new (origin : Origin) : RequestState where
  signal := .new
  tlsFailureFlags := 0
  closeState := { closed := false, activeCallbacks := 0 }
  readBuffer := none
  sendBody := none
  currentOrigin := origin
  callbackAbort := .notAborted

def isAborted (state : RequestState) : Bool :=
  state.callbackAbort.isAborted

/-- Count one more active callback; `none` is the overflow panic, which the
callback's `catch_unwind` swallows. -/
def enterCallback (state : RequestState) : Option RequestState :=
  if state.closeState.activeCallbacks < usizeMax then
    some { state with closeState :=
      { state.closeState with
        activeCallbacks := state.closeState.activeCallbacks + 1 } }
  else
    none

/-- Drop of the callback guard: a duplicate exit is ignored. -/
def leaveCallback (state : RequestState) : RequestState :=
  if state.closeState.activeCallbacks = 0 then
    state
  else
    { state with closeState :=
      { state.closeState with
        activeCallbacks := state.closeState.activeCallbacks - 1 } }

def markFinalCallbackSeen (state : RequestState) : RequestState :=
  { state with closeState := { state.closeState with closed := true } }

/-- Whether the drop of the callback guard notifies the waiters: it decremented
the counter to zero after the final callback. -/
def leaveCallbackNotifies (state : RequestState) : Bool :=
  state.closeState.activeCallbacks != 0 &&
    (state.closeState.closed && state.closeState.activeCallbacks - 1 == 0)

def markFinalCallbackSeenNotifies (state : RequestState) : Bool :=
  state.closeState.activeCallbacks == 0

/-- The condition on which `wait_closed_and_idle` leaves its loop. -/
def closedAndIdle (state : RequestState) : Bool :=
  state.closeState.closed && state.closeState.activeCallbacks == 0

/-- The critical section of `abort_from_callback`: the first caller stores its
reason and goes on to close the handle, any later caller returns. -/
def latchAbort (state : RequestState) (reason : Error) : Option RequestState :=
  if state.isAborted then
    none
  else
    some { state with callbackAbort := .aborted (some reason) }

/-- The state after `abort_from_callback`, whose close of the handle is not a
change of this state. -/
def abortFromCallback (state : RequestState) (reason : Error) : RequestState :=
  (state.latchAbort reason).getD state

@[simp]
theorem enterCallback_callbackAbort {state entered : RequestState}
    (enters : state.enterCallback = some entered) :
    entered.callbackAbort = state.callbackAbort := by
  unfold enterCallback at enters
  split at enters
  · cases enters
    rfl
  · cases enters

theorem enterCallback_closeState {state entered : RequestState}
    (enters : state.enterCallback = some entered) :
    entered.closeState = { state.closeState with
      activeCallbacks := state.closeState.activeCallbacks + 1 } := by
  unfold enterCallback at enters
  split at enters
  · cases enters
    rfl
  · cases enters

@[simp]
theorem leaveCallback_callbackAbort (state : RequestState) :
    state.leaveCallback.callbackAbort = state.callbackAbort := by
  unfold leaveCallback
  split <;> rfl

@[simp]
theorem leaveCallback_closed (state : RequestState) :
    state.leaveCallback.closeState.closed = state.closeState.closed := by
  unfold leaveCallback
  split <;> rfl

@[simp]
theorem leaveCallback_activeCallbacks (state : RequestState) :
    state.leaveCallback.closeState.activeCallbacks =
      state.closeState.activeCallbacks - 1 := by
  unfold leaveCallback
  split <;> simp_all

theorem latchAbort_eq_some {state latched : RequestState} {reason : Error} :
    state.latchAbort reason = some latched ↔
      state.callbackAbort = .notAborted ∧
        latched = { state with callbackAbort := .aborted (some reason) } := by
  unfold latchAbort isAborted
  cases abort : state.callbackAbort <;> simp [eq_comm]

theorem latchAbort_eq_none {state : RequestState} {reason : Error} :
    state.latchAbort reason = none ↔ state.isAborted = true := by
  simp [latchAbort]

theorem isAborted_abortFromCallback (state : RequestState) (reason : Error) :
    (state.abortFromCallback reason).isAborted = true := by
  unfold abortFromCallback latchAbort
  by_cases already : state.isAborted = true
  · rw [if_pos already]
    exact already
  · rw [if_neg already]
    rfl

/-- The first abort wins: a later one changes nothing. -/
theorem abortFromCallback_of_isAborted {state : RequestState}
    (already : state.isAborted = true) (reason : Error) :
    state.abortFromCallback reason = state := by
  simp [abortFromCallback, latchAbort, already]

@[simp]
theorem abortFromCallback_currentOrigin (state : RequestState) (reason : Error) :
    (state.abortFromCallback reason).currentOrigin = state.currentOrigin := by
  unfold abortFromCallback latchAbort
  split <;> rfl

theorem closedAndIdle_iff (state : RequestState) :
    state.closedAndIdle = true ↔
      state.closeState.closed = true ∧ state.closeState.activeCallbacks = 0 := by
  simp [closedAndIdle]

end RequestState

end Wrest
