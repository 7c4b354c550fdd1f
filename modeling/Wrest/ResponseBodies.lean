import Wrest.RequestExecution
import Wrest.ResponseChunks
import Wrest.RetryExecution
import Wrest.InteractionTraces

/-!
# Reading a response

A response keeps the raw response, which owns the request handle, until its body has ended
or its deadline has passed.  `Response::chunk` starts one read, raced against the time that
remains to the deadline, if there is one.

`chunk` is a program over what a client does to the outside.  The reply to a read is what
the wait comes to, or that the timer came first.
-/

namespace Wrest

open Interaction

/-- What a started read comes to: an error code of the start, or the completion, with the
buffer that is stored then and the contents of the allocations. -/
inductive ReadCompletion
  | refused (code : Nat)
  | completed (event : Except SignalCancelled CallbackEvent) (buffer : Option BytesMut)
      (memory : Nat → List UInt8)

structure Response where
  status : Nat
  version : Version
  url : Url
  headers : HeaderMap
  raw : Option RawResponse
  deadline : Option Nat

def Response.fromRaw (raw : RawResponse) (deadline : Option Nat) : Response where
  status := raw.status
  version := raw.version
  url := raw.url
  headers := raw.headers
  raw := some raw
  deadline

/-- What a client does to the outside.  A request and a read are awaited alone or raced
against a timer.  The last two are not the client's: its caller notes what was returned to
it, where `none` is a panic. -/
inductive ClientCall
  | now
  | request (parts : RequestParts)
  | requestWithin (parts : RequestParts) (timeout : Nat)
  | classify (result : Except Error Response)
  | canWithdraw
  | deposit
  | read
  | readWithin (timeout : Nat)
  | close
  | executed (result : Option (Except Error Response))
  | chunked (result : ResponseChunk.ChunkResult)

/-- The reply to each call; `none` says that the timer came first, or that the classifier
panicked. -/
def ClientCall.Reply : ClientCall → Type
  | .now => Nat
  | .request _ => Except Error RawResponse
  | .requestWithin _ _ => Option (Except Error RawResponse)
  | .classify _ => Option Retry.Action
  | .canWithdraw => Bool
  | .read => ReadCompletion
  | .readWithin _ => Option ReadCompletion
  | .deposit | .close | .executed _ | .chunked _ => Unit

def clientInterface : Interface where
  Call := ClientCall
  Reply := ClientCall.Reply

abbrev ClientProgram (α : Type) : Type :=
  Program clientInterface α

abbrev ClientTrace : Type :=
  List (Exchange clientInterface)

def askClient (call : ClientCall) : ClientProgram call.Reply :=
  .call call .pure

namespace Response

open ResponseChunk

/-- `read_chunk` once its wait is over. -/
def readChunk (url : Url) : ReadCompletion → ChunkResult
  | .refused code => .error ((Error.fromWin32 code).withUrl url)
  | .completed (.error .cancelled) _ _ => .error .fromSignalCancelled
  | .completed (.ok event) buffer memory =>
    match event.intoReadComplete url with
    | .error error => .error error
    | .ok read => if read = 0 then .ok none else freezeBuffer url memory read buffer

def alreadyConsumed : Error :=
  .body (.message "response body already consumed")

def bodyTimeout (url : Url) : Error :=
  (Error.timeout (.message "total request timeout elapsed during body read")).withUrl url

/-- The read of `chunk`; `none` is the timeout. -/
def readUntil (url : Url) : Option Nat → ClientProgram (Option ChunkResult)
  | some deadline => do
    let now : Nat ← askClient .now
    let remaining := deadline - now
    if remaining = 0 then
      pure none
    else
      match ← askClient (.readWithin remaining) with
      | some completion => pure (some (readChunk url completion))
      | none => pure none
  | none => do
    let completion ← askClient .read
    pure (some (readChunk url completion))

/-- The drop of the raw response, which closes the request handle. -/
def takeRaw (response : Response) : ClientProgram Response :=
  match response.raw with
  | some _ => do
    askClient .close
    pure { response with raw := none }
  | none => pure response

/-- The drop of the response. -/
def drop (response : Response) : ClientProgram Unit := do
  let _ ← response.takeRaw
  pure ()

/-- The end of `chunk`, after the read. -/
def settle (response : Response) :
    Option ChunkResult → ClientProgram (ChunkResult × Response)
  | some (.ok (some bytes)) => pure (.ok (some bytes), response)
  | some (.ok none) => do
    let released ← response.takeRaw
    pure (.ok none, released)
  | some (.error error) => pure (.error error, response)
  | none => do
    let released ← response.takeRaw
    pure (.error (bodyTimeout response.url), released)

def chunk (response : Response) : ClientProgram (ChunkResult × Response) :=
  match response.raw with
  | none => pure (.error alreadyConsumed, response)
  | some raw => readUntil raw.url response.deadline >>= response.settle

/-- What a call of `chunk` leaves behind. -/
inductive Leaves (response : Response) : ChunkResult × Response → Prop
  | data (bytes : ChunkBytes) (isOpen : response.raw.isSome) :
      Leaves response (.ok (some bytes), response)
  | endOfBody : Leaves response (.ok none, { response with raw := none })
  | failed (error : Error) : Leaves response (.error error, response)
  | timedOut :
      Leaves response
        (.error (bodyTimeout response.url), { response with raw := none })

section Chunks

variable {response : Response}

theorem chunk_of_taken (taken : response.raw = none) :
    response.chunk = pure (.error alreadyConsumed, response) := by
  simp only [chunk, taken]

theorem eq_released_of_taken (taken : response.raw = none) :
    response = { response with raw := none } := by
  obtain ⟨status, version, url, headers, raw, deadline⟩ := response
  cases taken
  rfl

theorem takeRaw_returns :
    response.takeRaw.Returns fun released => released = { response with raw := none } := by
  unfold takeRaw
  cases rawEq : response.raw with
  | some raw => exact fun _ => rfl
  | none => exact eq_released_of_taken rawEq

theorem chunk_leaves : response.chunk.Returns response.Leaves := by
  unfold chunk
  cases rawEq : response.raw with
  | none => exact .failed alreadyConsumed
  | some raw =>
    refine Program.Returns.bind (Program.returns_of_forall (fun _ => trivial) _) ?_
    rintro (_ | (error | (_ | bytes))) -
    · refine takeRaw_returns.bind ?_
      rintro released rfl
      exact .timedOut
    · exact .failed error
    · refine takeRaw_returns.bind ?_
      rintro released rfl
      exact .endOfBody
    · exact .data bytes (by rw [rawEq]; rfl)

end Chunks

end Response

end Wrest
