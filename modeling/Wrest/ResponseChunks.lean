import Wrest.TransitionRuns
import Wrest.RequestStates
import Mathlib.Logic.Function.Basic

/-!
# Reading the body of a response

`Response::chunk` allocates a buffer, installs a listener, stores the buffer in
the shared state, starts a read into it, and waits; then it takes the buffer that
is stored and returns as many of its bytes as the completion reported.  The
future may be dropped while it waits, and the response may be dropped between two
calls; a timeout and the end of the body release the handle.

WinHTTP writes only into the buffer of a started read, completes the reads in the
order of their starts, and reports zero bytes only at the end of the body.  A
failed read consumes nothing, and every read is completed before the handle is
closed.
-/

namespace Wrest.ResponseChunk

open Transition

def READ_BUF_SIZE : Nat := 8192

/-- The bytes of a chunk; `none` is a byte that was never written. -/
abbrev ChunkBytes : Type := List (Option UInt8)

/-- What a call of `chunk` returns. -/
abbrev ChunkResult : Type := Except Error (Option ChunkBytes)

/-- Why the raw response was taken. -/
inductive Release
  | endOfBody
  | timedOut
  | dropped

/-- Where the `chunk` future is.  `releasing` is the drop of the raw response,
which closes the handle and waits. -/
inductive ChunkPosition
  | idle
  | listening (listener : Nat)
  | stored (listener : Nat) (buffer : BytesMut)
  | awaiting (listener : Nat)
  | completed (event : Except SignalCancelled CallbackEvent)
  | releasing (release : Release)

/-- The response, the allocations made for its buffers with what was written to
them, the reads in flight in the order of their starts, the part of the body that
WinHTTP has yet to deliver, and the results so far. -/
structure ChunkState where
  request : RequestState
  hasRaw : Bool
  position : ChunkPosition
  allocations : Nat
  memory : Nat → List UInt8
  inFlight : List BytesMut
  source : List UInt8
  results : List ChunkResult

/-- One step of the caller, of the future, or of WinHTTP. -/
inductive ChunkStep
  | chunk (now : Nat)
  | storeBuffer
  | startRead (outcome : Except Nat Unit)
  | poll
  | timerFires
  | finishRead
  | dropFuture
  | dropResponse
  | readComplete (count : Nat)
  | readError (code : Nat)
  | handleClosed

namespace ChunkState

def initial (origin : Origin) (body : List UInt8) : ChunkState where
  request := .new origin
  hasRaw := true
  position := .idle
  allocations := 0
  memory := fun _ => []
  inFlight := []
  source := body
  results := []

def returns (state : ChunkState) (result : ChunkResult) : ChunkState :=
  { state with position := .idle, results := state.results ++ [result] }

def setReadBuffer (state : ChunkState) (buffer : Option BytesMut) : ChunkState :=
  { state with request := { state.request with readBuffer := buffer } }

def signals (state : ChunkState) (event : CallbackEvent) : ChunkState :=
  { state with
    request := { state.request with signal := state.request.signal.signal event } }

def releases (state : ChunkState) (release : Release) : ChunkState :=
  { state with hasRaw := false, position := .releasing release }

end ChunkState

/-- The chunk made of the stored buffer after a read of some bytes. -/
def freezeBuffer (url : Url) (memory : Nat → List UInt8) (read : Nat) :
    Option BytesMut → ChunkResult
  | none =>
    .error ((Error.request (.message
      "read buffer missing after read (invariant violated)")).withUrl url)
  | some buffer =>
    if read > buffer.capacity then
      .error ((Error.request (.message
        ("WinHTTP reported " ++ toString read ++
          " bytes read but buffer capacity is " ++ toString buffer.capacity ++
          " (invariant violated)"))).withUrl url)
    else
      .ok (some ((List.range read).map fun index =>
        (memory buffer.allocation)[index]?))

/-- The rest of `read_chunk` and `chunk` once the listener has resolved. -/
def finishRead (url : Url) (state : ChunkState) :
    Except SignalCancelled CallbackEvent → ChunkState
  | .error .cancelled => state.returns (.error .fromSignalCancelled)
  | .ok event =>
    match event.intoReadComplete url with
    | .error error => state.returns (.error error)
    | .ok read =>
      if read = 0 then
        (state.setReadBuffer none).releases .endOfBody
      else
        (state.setReadBuffer none).returns
          (freezeBuffer url state.memory read state.request.readBuffer)

/-- What the call returns when the raw response has been dropped. -/
def releaseResult (url : Url) : Release → List ChunkResult
  | .endOfBody => [.ok none]
  | .timedOut =>
    [.error ((Error.timeout (.message
      "total request timeout elapsed during body read")).withUrl url)]
  | .dropped => []

/-- The steps of `Response::chunk` with a deadline, of its caller and of
WinHTTP. -/
def chunkStep (url : Url) (deadline : Option Nat) (state : ChunkState) :
    ChunkStep → Option ChunkState
  | .chunk now =>
    match state.position with
    | .idle =>
      if state.hasRaw then
        if deadline.any (· ≤ now) then
          some (state.releases .timedOut)
        else
          some { state with
            request := { state.request with signal := state.request.signal.listen }
            position := .listening state.request.signal.nextListener }
      else
        some (state.returns (.error (.body (.message "response body already consumed"))))
    | _ => none
  | .storeBuffer =>
    match state.position with
    | .listening listener =>
      let buffer := { allocation := state.allocations, capacity := READ_BUF_SIZE }
      some { state.setReadBuffer (some buffer) with
        position := .stored listener buffer
        allocations := state.allocations + 1
        memory := Function.update state.memory buffer.allocation [] }
    | _ => none
  | .startRead outcome =>
    match state.position with
    | .stored listener buffer =>
      match outcome with
      | .ok () =>
        some { state with
          position := .awaiting listener
          inFlight := state.inFlight ++ [buffer] }
      | .error code => some (state.returns (.error ((Error.fromWin32 code).withUrl url)))
    | _ => none
  | .poll =>
    match state.position with
    | .awaiting listener =>
      (state.request.signal.poll listener).map fun event =>
        { state with position := .completed event }
    | _ => none
  | .timerFires =>
    match state.position with
    | .awaiting listener =>
      if deadline.isSome && (state.request.signal.poll listener).isNone then
        some (state.releases .timedOut)
      else
        none
    | _ => none
  | .finishRead =>
    match state.position with
    | .completed event => some (finishRead url state event)
    | _ => none
  | .dropFuture =>
    match state.position with
    | .awaiting _ => some { state with position := .idle }
    | _ => none
  | .dropResponse =>
    match state.position with
    | .idle => if state.hasRaw then some (state.releases .dropped) else none
    | _ => none
  | .readComplete count =>
    match state.inFlight with
    | buffer :: inFlight =>
      if count ≤ buffer.capacity ∧ count ≤ state.source.length ∧
          (count = 0 → state.source = []) then
        some { state.signals (.readComplete count) with
          inFlight
          memory := Function.update state.memory buffer.allocation
            (state.source.take count)
          source := state.source.drop count }
      else
        none
    | [] => none
  | .readError code =>
    match state.inFlight with
    | _ :: inFlight => some { state.signals (.win32Error code) with inFlight }
    | [] => none
  | .handleClosed =>
    match state.position, state.inFlight with
    | .releasing release, [] =>
      some { state.setReadBuffer none with
        position := .idle
        results := state.results ++ releaseResult url release }
    | _, _ => none

/-- The bytes that a result adds to the body. -/
def bytesOf : ChunkResult → ChunkBytes
  | .ok (some bytes) => bytes
  | _ => []

namespace ChunkState

/-- The body as the caller has received it. -/
def received (state : ChunkState) : ChunkBytes :=
  state.results.flatMap bytesOf

def Ended (state : ChunkState) : Prop :=
  .ok none ∈ state.results

/-- What was read into the stored buffer. -/
def content (state : ChunkState) : List UInt8 :=
  match state.request.readBuffer with
  | some buffer => state.memory buffer.allocation
  | none => []

end ChunkState

/-- The buffer of every read in flight is stored, and the caller has received a
part of the body from its beginning, and all of it at its end. -/
structure BodySafe (body : List UInt8) (state : ChunkState) : Prop where
  registered : ∀ buffer ∈ state.inFlight, state.request.readBuffer = some buffer
  received : state.received <+: body.map some
  whole : state.Ended → state.received = body.map some

/-- No read is in flight, and no abandoned read has left bytes in the stored
buffer. -/
def Unread (state : ChunkState) : Prop :=
  state.inFlight = [] ∧ state.content = []

/-- A call of `chunk` that goes on to read finds nothing unread. -/
def Quiet (deadline : Option Nat) (state : ChunkState) : ChunkStep → Prop
  | .chunk now =>
    state.hasRaw = true → deadline.any (· ≤ now) = false → Unread state
  | _ => True

instance (state : ChunkState) : Decidable (Unread state) :=
  inferInstanceAs (Decidable (_ ∧ _))

instance (deadline : Option Nat) (state : ChunkState) :
    ∀ step, Decidable (Quiet deadline state step)
  | .chunk now =>
    inferInstanceAs (Decidable
      (state.hasRaw = true → deadline.any (· ≤ now) = false → Unread state))
  | .storeBuffer | .startRead _ | .poll | .timerFires | .finishRead | .dropFuture
  | .dropResponse | .readComplete _ | .readError _ | .handleClosed =>
    inferInstanceAs (Decidable True)

end Wrest.ResponseChunk
