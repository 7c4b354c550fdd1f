import Wrest.RequestExecution

/-!
# The body bytes that WinHTTP accepts

The view of a request in which the body counts: the buffer kept in the shared
state, the asynchronous operation, and the bytes that WinHTTP has accepted
through `WinHttpWriteData`.  A write may complete after any part of its buffer,
with an error after any part, or not start at all.

A write is offered the memory at its address.  Only the kept buffer has known
content; what lies elsewhere is arbitrary.
-/

namespace Wrest

open Interaction

inductive BodyOperation
  | idle
  | transferring
  | writing (offered : List UInt8)
deriving DecidableEq, Repr

/-- `reach` is the length that the accepted bytes would have had if the writes
offered so far had been accepted as a whole.  `failedWrites` lists, for each
failed write, the number of bytes accepted before it. -/
structure BodyWorld where
  signal : CompletionSignal CallbackEvent
  sendBody : Option (Nat × List UInt8)
  operation : BodyOperation
  accepted : List UInt8
  reach : Nat
  failedWrites : List Nat

/-- A completion, and how many of the offered bytes were accepted. -/
structure BodyCompletion where
  event : CallbackEvent
  taken : Nat

namespace BodyWorld

def initial : BodyWorld where
  signal := .new
  sendBody := none
  operation := .idle
  accepted := []
  reach := 0
  failedWrites := []

/-- A write that was offered `length` bytes made progress within them. -/
def succeeds (event : CallbackEvent) (length : Nat) : Bool :=
  match event with
  | .writeComplete count => decide (0 < count ∧ count ≤ length)
  | _ => false

/-- The bytes accepted are those that the completion reports. -/
def Reports (completion : BodyCompletion) (length : Nat) : Prop :=
  match completion.event with
  | .writeComplete count => completion.taken = min count length
  | _ => completion.taken ≤ length

instance (completion : BodyCompletion) (length : Nat) :
    Decidable (Reports completion length) := by
  unfold Reports
  split <;> infer_instance

def finish (world : BodyWorld) (offered : List UInt8) (completion : BodyCompletion) :
    BodyWorld :=
  { world with
    signal := world.signal.signal completion.event
    operation := .idle
    accepted := world.accepted ++ offered.take completion.taken
    failedWrites :=
      if succeeds completion.event offered.length then
        world.failedWrites
      else
        world.accepted.length :: world.failedWrites }

def interfere (world : BodyWorld) (completion : BodyCompletion) : Option BodyWorld :=
  match world.operation with
  | .idle => none
  | .transferring =>
    some { world with
      signal := world.signal.signal completion.event
      operation := .idle }
  | .writing offered =>
    if Reports completion offered.length then
      some (world.finish offered completion)
    else
      none

/-- The bytes at an address, as far as they are known. -/
def Offers (world : BodyWorld) (pointer length : Nat) (offered : List UInt8) : Prop :=
  offered.length = length ∧
    ∀ base content, world.sendBody = some (base, content) →
      base ≤ pointer → pointer + length ≤ base + content.length →
        offered = (content.drop (pointer - base)).take length

def listened (world : BodyWorld) : BodyWorld :=
  { world with signal := world.signal.listen }

def writing (world : BodyWorld) (offered : List UInt8) : BodyWorld :=
  { world with
    operation := .writing offered
    reach := max world.reach (world.accepted.length + offered.length) }

/-- A write of which WinHTTP accepts some bytes. -/
def accepts (world : BodyWorld) (offered : List UInt8) (count : Nat) : BodyWorld :=
  (world.listened.writing offered).finish offered ⟨.writeComplete count, count⟩

/-- The writes of some content from an offset on, each accepted in part. -/
def acceptsAll (world : BodyWorld) (content : List UInt8) (offset : Nat) :
    List Nat → BodyWorld
  | [] => world
  | count :: counts =>
    (world.accepts (content.drop offset) count).acceptsAll content (offset + count) counts

/-- The content is kept, and then written. -/
def acceptsStored (world : BodyWorld) (base : Nat) (content : List UInt8)
    (counts : List Nat) : BodyWorld :=
  ({ world with sendBody := some (base, content) } : BodyWorld).acceptsAll content 0 counts

/-- A write that did not start. -/
def rejected (world : BodyWorld) (length : Nat) : BodyWorld :=
  { world with
    reach := max world.reach (world.accepted.length + length)
    failedWrites := world.accepted.length :: world.failedWrites }

/-- The replies that a call may receive. -/
def Answers (world : BodyWorld) :
    (call : RequestCall) → call.Reply → BodyWorld → Prop
  | .storeSendBody body, (pointer : Nat), next =>
    pointer + body.length ≤ usizeMax ∧
      next = { world with sendBody := some (pointer, body) }
  | .takeSendBody, _, next => next = { world with sendBody := none }
  | .listen, listener, next =>
    listener = world.signal.nextListener ∧ next = world.listened
  | .sendRequest _ _ _, reply, next =>
    match reply with
    | .error _ => next = world
    | .ok _ => next = { world with operation := .transferring }
  | .receiveResponse, reply, next =>
    match reply with
    | .error _ => next = world
    | .ok _ => next = { world with operation := .transferring }
  | .writeData pointer length, reply, next =>
    match reply with
    | .error _ => next = world.rejected length
    | .ok _ => ∃ offered, world.Offers pointer length offered ∧
      next = world.writing offered
  | .poll listener, reply, next =>
    world.signal.poll listener = some reply ∧ next = world
  | _, _, next => next = world

end BodyWorld

/-- WinHTTP as the receiver of a request body. -/
def bodyTransfer : Environment requestInterface BodyWorld where
  Event := BodyCompletion
  interfere := BodyWorld.interfere
  respond := BodyWorld.Answers

end Wrest
