import Mathlib.Algebra.GroupWithZero.Nat
import Wrest.BodyTransfers
import Wrest.ChunkedCoding

/-!
# What a streamed body sends

A streamed body is written frame by frame and ends with a terminator.  However
WinHTTP splits the writes, the bytes accepted by a send that succeeds are one
message of the chunked coding with the content of the stream; an error of the
stream or of a frame's write ends the send before any byte of the terminator has
been offered.
-/

namespace Wrest.StreamedBody

open Interaction RequestStep

variable {url : Url} {accepted offered bytes : List UInt8} {world : BodyWorld}

/-- No operation is pending, no write failed, and these bytes were accepted.  The
writes so far reached at most `ahead` bytes further. -/
structure Sent (accepted : List UInt8) (ahead : Nat) (world : BodyWorld) : Prop where
  idle : world.operation = .idle
  acceptedEq : world.accepted = accepted
  clean : world.failedWrites = []
  reach : world.reach ≤ accepted.length + ahead

/-- After these bytes were accepted, a write of the offered bytes failed, and no
write followed. -/
structure Stopped (accepted offered : List UInt8) (world : BodyWorld) : Prop where
  idle : world.operation = .idle
  part : ∃ part, part <+: offered ∧ world.accepted = accepted ++ part
  reach : world.reach ≤ accepted.length + offered.length
  failed : ∃ position, world.failedWrites = [position] ∧
    accepted.length ≤ position ∧ position < accepted.length + offered.length

/-- These bytes are kept in the shared state, at an address that the whole
buffer fits behind. -/
def Kept (pointer : Nat) (bytes : List UInt8) (world : BodyWorld) : Prop :=
  world.sendBody = some (pointer, bytes) ∧ pointer + bytes.length ≤ usizeMax

/-- A write of the offered bytes completed with this event. -/
structure Written (pointer : Nat) (bytes accepted offered : List UInt8)
    (event : CallbackEvent) (world : BodyWorld) : Prop where
  idle : world.operation = .idle
  kept : Kept pointer bytes world
  taken : ∃ taken, BodyWorld.Reports ⟨event, taken⟩ offered.length ∧
    world.accepted = accepted ++ offered.take taken
  reach : world.reach ≤ accepted.length + offered.length
  failedEq : world.failedWrites =
    if BodyWorld.succeeds event offered.length then [] else [accepted.length]

/-- A write of the offered bytes is pending, or its completion was delivered. -/
inductive Writing (pointer : Nat) (bytes accepted offered : List UInt8)
    (listener : Nat) (world : BodyWorld) : Prop
  | pending (operation : world.operation = .writing offered)
      (sender : world.signal.sender = some listener)
      (kept : Kept pointer bytes world)
      (acceptedEq : world.accepted = accepted) (clean : world.failedWrites = [])
      (reach : world.reach ≤ accepted.length + offered.length)
  | delivered (event : CallbackEvent)
      (written : Written pointer bytes accepted offered event world)
      (polled : world.signal.poll listener = some (.ok event))

theorem stable_of_idle {assertion : BodyWorld → Prop}
    (idle : ∀ world, assertion world → world.operation = .idle) :
    bodyTransfer.Stable assertion := by
  intro world completion next holds happens
  simp only [bodyTransfer, BodyWorld.interfere, idle world holds] at happens
  cases happens

theorem sent_stable (accepted : List UInt8) (ahead : Nat) :
    bodyTransfer.Stable (Sent accepted ahead) :=
  stable_of_idle fun _ sent => sent.idle

theorem writing_stable (pointer : Nat) (bytes accepted offered : List UInt8)
    (listener : Nat) :
    bodyTransfer.Stable (Writing pointer bytes accepted offered listener) := by
  intro world completion next writing happens
  cases writing with
  | pending operation sender kept acceptedEq clean reach =>
    simp only [bodyTransfer, BodyWorld.interfere, operation,
      Option.ite_none_right_eq_some] at happens
    obtain ⟨reports, happens⟩ := happens
    cases happens
    apply Writing.delivered completion.event
    · constructor
      · rfl
      · exact kept
      · exact ⟨completion.taken, reports, by rw [← acceptedEq]; rfl⟩
      · exact reach
      · simp only [BodyWorld.finish, clean, acceptedEq]
    · exact CompletionSignal.poll_signal sender _
  | delivered event written polled =>
    simp only [bodyTransfer, BodyWorld.interfere, written.idle] at happens
    cases happens

theorem Stopped.stable (accepted offered : List UInt8) :
    bodyTransfer.Stable (Stopped accepted offered) :=
  stable_of_idle fun _ stopped => stopped.idle

/-- The bytes offered from an offset on are those of the kept buffer. -/
theorem offers_kept {pointer offset : Nat} (kept : Kept pointer bytes world)
    (within : offset ≤ bytes.length)
    (offers : world.Offers (pointer + offset) (bytes.length - offset) offered) :
    offered = bytes.drop offset := by
  have known := offers.2 pointer bytes kept.1 (by omega) (by omega)
  rw [known, Nat.add_sub_cancel_left]
  exact List.take_of_length_le (by simp)

theorem startWrite_triple {pointer offset : Nat} (within : offset < bytes.length)
    (listener : Nat) :
    Triple bodyTransfer
      (fun world => Sent accepted (bytes.length - offset) world ∧ Kept pointer bytes world ∧
        world.signal.sender = some listener)
      (do
        checkWin32 url
          (← ask (.writeData (pointer + offset) (bytes.length - offset))))
      (fun _ => Writing pointer bytes accepted (bytes.drop offset) listener)
      (fun _ => Stopped accepted (bytes.drop offset)) := by
  have offeredLength : (bytes.drop offset).length = bytes.length - offset :=
    List.length_drop
  refine triple_checked (stable_of_idle fun _ holds => holds.1.idle)
    (fun world reply started next holds answers outcome => ?_)
    (fun world reply code next holds answers outcome => ?_)
    (fun _ => writing_stable _ _ _ _ _) (fun _ => Stopped.stable _ _)
  · obtain ⟨sent, kept, sender⟩ := holds
    obtain rfl : reply = .ok started := outcome
    obtain ⟨offered, offers, rfl⟩ := answers
    obtain rfl := offers_kept kept within.le offers
    refine .pending rfl sender kept sent.acceptedEq sent.clean ?_
    have reach := sent.reach
    simp only [BodyWorld.writing, sent.acceptedEq]
    omega
  · obtain ⟨sent, kept, sender⟩ := holds
    obtain rfl : reply = .error code := outcome
    obtain rfl : next = world.rejected (bytes.length - offset) := answers
    have reach := sent.reach
    constructor
    · exact sent.idle
    · exact ⟨[], List.nil_prefix, by simpa [BodyWorld.rejected] using sent.acceptedEq⟩
    · simp only [BodyWorld.rejected, sent.acceptedEq, offeredLength]
      omega
    · refine ⟨accepted.length, ?_, le_rfl, by omega⟩
      simp only [BodyWorld.rejected, sent.clean, sent.acceptedEq]

theorem writeOnce_written {pointer offset : Nat} (within : offset < bytes.length) :
    Triple bodyTransfer
      (fun world => Sent accepted (bytes.length - offset) world ∧ Kept pointer bytes world)
      (awaitWin32 do
        checkWin32 url
          (← ask (.writeData (pointer + offset) (bytes.length - offset))))
      (fun event => Written pointer bytes accepted (bytes.drop offset) event)
      (fun _ => Stopped accepted (bytes.drop offset)) := by
  have listens : Triple bodyTransfer
      (fun world => Sent accepted (bytes.length - offset) world ∧ Kept pointer bytes world)
      (ask .listen)
      (fun listener world => Sent accepted (bytes.length - offset) world ∧
        Kept pointer bytes world ∧ world.signal.sender = some listener)
      (fun _ => Stopped accepted (bytes.drop offset)) := by
    refine triple_ask (stable_of_idle fun _ holds => holds.1.idle)
      (fun world reply next holds answers => ?_)
      (fun _ => stable_of_idle fun _ holds => holds.1.idle)
    obtain ⟨sent, kept⟩ := holds
    obtain ⟨rfl, rfl⟩ := answers
    exact ⟨⟨sent.idle, sent.acceptedEq, sent.clean, sent.reach⟩, kept, rfl⟩
  refine triple_await listens (startWrite_triple within)
    (fun listener world reply next writing answers => ?_)
    (fun _ => writing_stable _ _ _ _ _)
    (fun _ => stable_of_idle fun _ written => written.idle)
    (fun _ => Stopped.stable _ _)
  obtain ⟨polled, rfl⟩ := answers
  cases writing with
  | pending operation sender =>
    rw [CompletionSignal.poll_of_sender sender] at polled
    cases polled
  | delivered event written delivered =>
    rw [delivered] at polled
    cases polled
    exact ⟨event, rfl, written⟩

variable {pointer : Nat} {event : CallbackEvent}

theorem Written.stopped (written : Written pointer bytes accepted offered event world)
    (failed : BodyWorld.succeeds event offered.length = false)
    (nonempty : 0 < offered.length) : Stopped accepted offered world := by
  obtain ⟨taken, -, acceptedEq⟩ := written.taken
  have failedEq := written.failedEq
  rw [failed, if_neg Bool.false_ne_true] at failedEq
  constructor
  · exact written.idle
  · exact ⟨offered.take taken, List.take_prefix _ _, acceptedEq⟩
  · exact written.reach
  · exact ⟨accepted.length, failedEq, le_rfl, by omega⟩

/-- A write that made progress leaves its part accepted. -/
theorem Written.sent {count : Nat}
    (written : Written pointer bytes accepted offered (.writeComplete count) world)
    (positive : 0 < count) (within : count ≤ offered.length) :
    world.operation = .idle ∧ world.accepted = accepted ++ offered.take count ∧
      world.failedWrites = [] := by
  obtain ⟨taken, reports, acceptedEq⟩ := written.taken
  have takenEq : taken = min count offered.length := reports
  have succeeded : BodyWorld.succeeds (.writeComplete count) offered.length = true :=
    decide_eq_true ⟨positive, within⟩
  have failedEq := written.failedEq
  rw [succeeded, if_pos rfl] at failedEq
  rw [takenEq, min_eq_left within] at acceptedEq
  exact ⟨written.idle, acceptedEq, failedEq⟩

/-- What failed after a part of the bytes failed within them. -/
theorem Stopped.widen {offset : Nat} (within : offset ≤ bytes.length)
    (stopped : Stopped (accepted ++ bytes.take offset) (bytes.drop offset) world) :
    Stopped accepted bytes world := by
  have lengthEq : (bytes.take offset).length = offset := List.length_take_of_le within
  have reach := stopped.reach
  obtain ⟨part, isPart, acceptedEq⟩ := stopped.part
  obtain ⟨position, failedEq, after, before⟩ := stopped.failed
  simp only [List.length_append, lengthEq, List.length_drop] at reach after before
  constructor
  · exact stopped.idle
  · refine ⟨bytes.take offset ++ part, ?_, by rw [acceptedEq, List.append_assoc]⟩
    calc bytes.take offset ++ part
        <+: bytes.take offset ++ bytes.drop offset :=
          (List.prefix_append_right_inj _).mpr isPart
      _ = bytes := List.take_append_drop offset bytes
  · omega
  · exact ⟨position, failedEq, by omega, by omega⟩

theorem writeOnce_triple {offset : Nat} (within : offset < bytes.length) :
    Triple bodyTransfer
      (fun world => Sent accepted (bytes.length - offset) world ∧ Kept pointer bytes world)
      (writeOnce url (pointer + offset) (bytes.length - offset))
      (fun count => Written pointer bytes accepted (bytes.drop offset)
        (.writeComplete count))
      (fun _ => Stopped accepted (bytes.drop offset)) := by
  have nonempty : 0 < (bytes.drop offset).length := by
    rw [List.length_drop]
    omega
  apply (writeOnce_written within).bind _ fun _ => Stopped.stable _ _
  intro event
  cases event with
  | writeComplete count =>
    exact Triple.pure (stable_of_idle fun _ written => written.idle) fun _ holds => holds
  | complete | readComplete _ | win32Error _ =>
    exact Triple.throw (Stopped.stable _ _) fun _ written => written.stopped rfl nonempty

theorem triple_withContext {α : Type} {step : RequestStep α}
    {before : BodyWorld → Prop} {returns : α → BodyWorld → Prop}
    (triple : Triple bodyTransfer before step returns
      (fun _ => Stopped accepted offered))
    (stable : ∀ value, bodyTransfer.Stable (returns value)) :
    Triple bodyTransfer before (withContext url step) returns
      (fun _ => Stopped accepted offered) := by
  apply triple.bind_outcome
  · intro value
    exact Triple.pure (stable value) fun _ holds => holds
  · intro error
    exact Triple.throw (Stopped.stable _ _) fun _ stopped => stopped

/-- The bytes that the loop has accepted when it reaches an offset. -/
def Reached (accepted bytes : List UInt8) (pointer offset : Nat) (world : BodyWorld) :
    Prop :=
  Sent (accepted ++ bytes.take offset) (bytes.length - offset) world ∧
    Kept pointer bytes world

theorem Written.reached {offset count : Nat} (before : offset ≤ bytes.length)
    (written : Written pointer bytes (accepted ++ bytes.take offset)
      (bytes.drop offset) (.writeComplete count) world)
    (positive : 0 < count) (within : count ≤ bytes.length - offset) :
    Reached accepted bytes pointer (offset + count) world := by
  obtain ⟨idle, acceptedEq, clean⟩ :=
    written.sent positive (by rw [List.length_drop]; exact within)
  have reach := written.reach
  rw [List.append_assoc, ← List.take_add] at acceptedEq
  refine ⟨⟨idle, acceptedEq, clean, ?_⟩, written.kept⟩
  simp only [List.length_append, List.length_take, List.length_drop] at reach ⊢
  omega

/-- A completion that the offset cannot follow is a failed write. -/
theorem Written.stopped_of_error {offset count : Nat} {error : Error}
    (before : offset < bytes.length) (fits : bytes.length ≤ usizeMax)
    (advanced : advanceWriteOffset offset bytes.length count url = .error error)
    (written : Written pointer bytes (accepted ++ bytes.take offset)
      (bytes.drop offset) (.writeComplete count) world) :
    Stopped accepted bytes world := by
  have offeredLength : (bytes.drop offset).length = bytes.length - offset :=
    List.length_drop
  have noProgress : ¬(0 < count ∧ count ≤ bytes.length - offset) := by
    rintro ⟨positive, within⟩
    rw [advanceWriteOffset_of_within url positive within before.le fits] at advanced
    cases advanced
  apply Stopped.widen before.le
  apply written.stopped
  · rw [offeredLength]
    exact decide_eq_false noProgress
  · omega

theorem writeDataWith_triple (fits : bytes.length ≤ u32Max) (offset : Nat)
    (within : offset ≤ bytes.length) :
    Triple bodyTransfer (Reached accepted bytes pointer offset)
      (writeDataWith (writeOnce url) pointer bytes.length url offset)
      (fun _ => Sent (accepted ++ bytes) 0) (fun _ => Stopped accepted bytes) := by
  have fitsUsize : bytes.length ≤ usizeMax := fits.trans (by decide)
  fun_induction writeDataWith (writeOnce url) pointer bytes.length url offset with
  | case1 offset before none =>
    rw [checkedSub, if_pos within] at none
    cases none
  | case2 offset before remaining found none =>
    intro world reached
    have kept := reached.2.2
    rw [checkedAdd, if_pos (by omega)] at none
    cases none
  | case3 offset before remaining found position positionEq small ih =>
    obtain rfl : bytes.length - offset = remaining := by
      simpa [checkedSub, within] using found
    obtain rfl : pointer + offset = position := by
      simp only [checkedAdd, Option.ite_none_right_eq_some, Option.some.injEq] at positionEq
      exact positionEq.2
    have writes : Triple bodyTransfer (Reached accepted bytes pointer offset)
        (withContext url (writeOnce url (pointer + offset) (bytes.length - offset)))
        (fun count => Written pointer bytes (accepted ++ bytes.take offset)
          (bytes.drop offset) (.writeComplete count))
        (fun _ => Stopped accepted bytes) := by
      apply triple_withContext
      · apply (writeOnce_triple before).mono
        · exact fun _ _ written => written
        · exact fun _ _ stopped => stopped.widen within
      · exact fun _ => stable_of_idle fun _ written => written.idle
    apply writes.bind _ fun _ => Stopped.stable _ _
    intro count
    split
    · next next advanced =>
      obtain ⟨rfl, positive, nextWithin⟩ := advanceWriteOffset_eq_ok advanced
      apply (ih count _ advanced nextWithin).weaken
      intro world written
      exact written.reached within positive (by omega)
    · next error advanced =>
      exact Triple.throw (Stopped.stable _ _) fun _ written =>
        written.stopped_of_error before fitsUsize advanced
  | case4 offset before remaining found position positionEq large =>
    rw [checkedSub, if_pos within] at found
    cases found
    omega
  | case5 offset behind =>
    have offsetEq : offset = bytes.length := by omega
    subst offsetEq
    refine Triple.pure (sent_stable _ _) fun world reached => ?_
    simpa [Reached] using reached.1

theorem storeAndWrite_triple (fits : bytes.length ≤ u32Max) :
    Triple bodyTransfer (Sent accepted 0) (storeAndWrite url bytes)
      (fun _ => Sent (accepted ++ bytes) 0) (fun _ => Stopped accepted bytes) := by
  have stores : Triple bodyTransfer (Sent accepted 0) (ask (.storeSendBody bytes))
      (fun pointer => Reached accepted bytes pointer 0)
      (fun _ => Stopped accepted bytes) := by
    refine triple_ask (sent_stable _ _) (fun world pointer next sent answers => ?_)
      (fun _ => stable_of_idle fun _ reached => reached.1.idle)
    obtain ⟨behind, rfl⟩ := answers
    refine ⟨⟨sent.idle, ?_, sent.clean, ?_⟩, rfl, behind⟩
    · simpa using sent.acceptedEq
    · simpa using Nat.le_add_right_of_le sent.reach
  apply stores.bind _ fun _ => Stopped.stable _ _
  intro pointer
  exact writeDataWith_triple fits 0 (Nat.zero_le _)

/-- The nonempty chunks of a stream, up to its first error. -/
def chunksOf : List (Except ErrorSource (List UInt8)) → List (List UInt8)
  | [] => []
  | .error _ :: _ => []
  | .ok chunk :: items =>
    if chunk.isEmpty then chunksOf items else chunk :: chunksOf items

def framesOf (items : List (Except ErrorSource (List UInt8))) : List UInt8 :=
  (chunksOf items).flatMap chunkFrame

def terminator : List UInt8 :=
  asciiBytes "0\r\n\r\n"

/-- A send that ended among these bytes, with at most a prefix of them accepted
and none behind them offered. -/
structure Interrupted (accepted offered : List UInt8) (world : BodyWorld) : Prop where
  idle : world.operation = .idle
  part : ∃ part, part <+: offered ∧ world.accepted = accepted ++ part
  reach : world.reach ≤ accepted.length + offered.length
  failed : ∀ position ∈ world.failedWrites, position < accepted.length + offered.length

theorem Interrupted.stable (accepted offered : List UInt8) :
    bodyTransfer.Stable (Interrupted accepted offered) :=
  stable_of_idle fun _ interrupted => interrupted.idle

theorem Stopped.interrupted (stopped : Stopped accepted offered world)
    (more : List UInt8) : Interrupted accepted (offered ++ more) world := by
  obtain ⟨part, isPart, acceptedEq⟩ := stopped.part
  obtain ⟨position, failedEq, -, before⟩ := stopped.failed
  have reach := stopped.reach
  constructor
  · exact stopped.idle
  · exact ⟨part, isPart.trans (List.prefix_append _ _), acceptedEq⟩
  · rw [List.length_append]
    omega
  · intro other member
    rw [failedEq, List.mem_singleton] at member
    rw [member, List.length_append]
    omega

theorem Interrupted.behind {first : List UInt8}
    (interrupted : Interrupted (accepted ++ first) offered world) :
    Interrupted accepted (first ++ offered) world := by
  obtain ⟨part, isPart, acceptedEq⟩ := interrupted.part
  have reach := interrupted.reach
  have failed := interrupted.failed
  simp only [List.length_append] at reach failed ⊢
  constructor
  · exact interrupted.idle
  · exact ⟨first ++ part, (List.prefix_append_right_inj _).mpr isPart,
      by rw [acceptedEq, List.append_assoc]⟩
  · simpa [Nat.add_assoc] using reach
  · simpa [Nat.add_assoc] using failed

theorem Sent.interrupted (sent : Sent accepted 0 world) (offered : List UInt8) :
    Interrupted accepted offered world := by
  constructor
  · exact sent.idle
  · exact ⟨[], List.nil_prefix, by simpa using sent.acceptedEq⟩
  · have reach := sent.reach
    omega
  · simp [sent.clean]

/-- Every item of the stream is a chunk. -/
def Complete (items : List (Except ErrorSource (List UInt8))) : Prop :=
  ∀ item ∈ items, ∃ chunk, item = .ok chunk

theorem writeStream_triple (items : List (Except ErrorSource (List UInt8)))
    (fit : ∀ chunk, .ok chunk ∈ items → (chunkFrame chunk).length ≤ u32Max) :
    Triple bodyTransfer (Sent accepted 0) (writeStream url items)
      (fun _ world => Sent (accepted ++ framesOf items) 0 world ∧ Complete items)
      (fun _ => Interrupted accepted (framesOf items)) := by
  induction items generalizing accepted with
  | nil =>
    refine Triple.pure (stable_of_idle fun _ holds => holds.1.idle) fun world sent => ?_
    exact ⟨by simpa [framesOf, chunksOf] using sent, by simp [Complete]⟩
  | cons item items ih =>
    have later : ∀ chunk, .ok chunk ∈ items → (chunkFrame chunk).length ≤ u32Max :=
      fun chunk member => fit chunk (List.mem_cons_of_mem _ member)
    have complete : ∀ chunk, Complete items → Complete (.ok chunk :: items) := by
      intro chunk rest other member
      rcases List.mem_cons.mp member with rfl | inside
      · exact ⟨chunk, rfl⟩
      · exact rest other inside
    cases item with
    | error source =>
      exact Triple.throw (Interrupted.stable _ _) fun _ sent => sent.interrupted _
    | ok chunk =>
      unfold writeStream
      by_cases empty : chunk.isEmpty = true
      · have framesEq : framesOf (.ok chunk :: items) = framesOf items := by
          simp [framesOf, chunksOf, empty]
        rw [if_pos empty, framesEq]
        apply (ih later).mono
        · exact fun _ _ holds => ⟨holds.1, complete chunk holds.2⟩
        · exact fun _ _ interrupted => interrupted
      · have framesEq : framesOf (.ok chunk :: items) =
            chunkFrame chunk ++ framesOf items := by
          simp [framesOf, chunksOf, empty]
        rw [if_neg empty, framesEq]
        have writes : Triple bodyTransfer (Sent accepted 0)
            (storeAndWrite url (chunkFrame chunk))
            (fun _ => Sent (accepted ++ chunkFrame chunk) 0)
            (fun _ => Interrupted accepted (chunkFrame chunk ++ framesOf items)) :=
          (storeAndWrite_triple (fit chunk List.mem_cons_self)).mono
            (fun _ _ sent => sent) fun _ _ stopped => stopped.interrupted _
        apply writes.bind _ fun _ => Interrupted.stable _ _
        intro written
        apply (ih later).mono
        · intro _ world holds
          rw [List.append_assoc] at holds
          exact ⟨holds.1, complete chunk holds.2⟩
        · exact fun _ _ interrupted => interrupted.behind

/-- The send of the headers is pending, or its completion was delivered. -/
inductive Sending (listener : Nat) (world : BodyWorld) : Prop
  | pending (operation : world.operation = .transferring)
      (sender : world.signal.sender = some listener) (acceptedEq : world.accepted = [])
      (clean : world.failedWrites = []) (reach : world.reach ≤ 0)
  | delivered (event : CallbackEvent) (sent : Sent [] 0 world)
      (polled : world.signal.poll listener = some (.ok event))

theorem sending_stable (listener : Nat) : bodyTransfer.Stable (Sending listener) := by
  intro world completion next sending happens
  cases sending with
  | pending operation sender acceptedEq clean reach =>
    simp only [bodyTransfer, BodyWorld.interfere, operation] at happens
    cases happens
    exact .delivered completion.event ⟨rfl, acceptedEq, clean, reach⟩
      (CompletionSignal.poll_signal sender _)
  | delivered event sent polled =>
    simp only [bodyTransfer, BodyWorld.interfere, sent.idle] at happens
    cases happens

theorem intoResult_triple (event : CallbackEvent) :
    Triple bodyTransfer (Sent [] 0) (event.intoResult url)
      (fun _ => Sent [] 0) (fun _ => Sent [] 0) := by
  have stable := sent_stable [] 0
  have fails : ∀ error, Triple bodyTransfer (Sent [] 0)
      (fail error : RequestStep Unit) (fun _ => Sent [] 0) (fun _ => Sent [] 0) :=
    fun error => Triple.throw stable fun _ sent => sent
  cases event with
  | complete => exact Triple.pure stable fun _ sent => sent
  | readComplete count | writeComplete count => exact fails _
  | win32Error code =>
    have asks : ∀ call : RequestCall, (call = .takeAbortReason ∨ call = .tlsFailureFlags) →
        Triple bodyTransfer (Sent [] 0) (ask call) (fun _ => Sent [] 0)
          (fun _ => Sent [] 0) := by
      rintro call (rfl | rfl) <;>
        exact triple_ask stable (fun _ _ _ sent answers => answers ▸ sent) fun _ => stable
    refine Triple.bind ?_ fails fun _ => stable
    refine (asks _ (.inl rfl)).bind (fun reason => ?_) fun _ => stable
    cases reason with
    | some reason => exact Triple.pure stable fun _ sent => sent
    | none =>
      dsimp only
      split
      · exact (asks _ (.inr rfl)).bind
          (fun flags => Triple.pure stable fun _ sent => sent) fun _ => stable
      · exact Triple.pure stable fun _ sent => sent

theorem sendAndComplete_triple (body : Option Nat) (bodyLength totalLength : Nat) :
    Triple bodyTransfer (Sent [] 0) (sendAndComplete url body bodyLength totalLength)
      (fun _ => Sent [] 0) (fun _ => Sent [] 0) := by
  have stable := sent_stable [] 0
  have listens : Triple bodyTransfer (Sent [] 0) (ask .listen)
      (fun listener world => Sent [] 0 world ∧ world.signal.sender = some listener)
      (fun _ => Sent [] 0) := by
    refine triple_ask stable (fun world listener next sent answers => ?_)
      fun _ => stable_of_idle fun _ holds => holds.1.idle
    obtain ⟨rfl, rfl⟩ := answers
    exact ⟨⟨sent.idle, sent.acceptedEq, sent.clean, sent.reach⟩, rfl⟩
  refine Triple.bind (?_ : Triple bodyTransfer _ _ (fun _ => Sent [] 0) _)
    intoResult_triple fun _ => stable
  refine triple_await listens (fun listener => ?_)
    (fun listener world reply next sending answers => ?_) sending_stable
    (fun _ => stable) fun _ => stable
  · refine triple_checked (stable_of_idle fun _ holds => holds.1.idle)
      (fun world reply started next holds answers outcome => ?_)
      (fun world reply code next holds answers outcome => ?_)
      (fun _ => sending_stable listener) fun _ => stable
    · obtain rfl : reply = .ok started := outcome
      obtain rfl : next = { world with operation := .transferring } := answers
      exact .pending rfl holds.2 holds.1.acceptedEq holds.1.clean holds.1.reach
    · obtain rfl : reply = .error code := outcome
      obtain rfl : next = world := answers
      exact holds.1
  · obtain ⟨polled, rfl⟩ := answers
    cases sending with
    | pending operation sender =>
      rw [CompletionSignal.poll_of_sender sender] at polled
      cases polled
    | delivered event sent delivered =>
      rw [delivered] at polled
      cases polled
      exact ⟨event, rfl, sent⟩

/-- The send failed among the frames, or in the terminator behind all of them. -/
def Failed (items : List (Except ErrorSource (List UInt8))) (world : BodyWorld) : Prop :=
  Interrupted [] (framesOf items) world ∨
    Complete items ∧ Stopped (framesOf items) terminator world

theorem failed_stable (items : List (Except ErrorSource (List UInt8))) :
    bodyTransfer.Stable (Failed items) := by
  apply stable_of_idle
  rintro world (interrupted | ⟨-, stopped⟩)
  · exact interrupted.idle
  · exact stopped.idle

theorem sendBody_triple (parse : String → Option Url) {body : PreparedBody}
    (retry : CertlessRedirectRetry) {items : List (Except ErrorSource (List UInt8))}
    (streamed : body.stream = some items)
    (fit : ∀ chunk, .ok chunk ∈ items → (chunkFrame chunk).length ≤ u32Max) :
    Triple bodyTransfer (Sent [] 0) (sendBody parse url body retry)
      (fun _ world => Sent (framesOf items ++ terminator) 0 world ∧ Complete items)
      (fun _ => Failed items) := by
  have stable := fun _ : Error => failed_stable items
  have unsent : ∀ world, Sent [] 0 world → Failed items world :=
    fun world sent => .inl (sent.interrupted _)
  have adds : Triple bodyTransfer (Sent [] 0)
      (addRequestHeader url "Transfer-Encoding: chunked\r\n")
      (fun _ => Sent [] 0) (fun _ => Failed items) := by
    unfold addRequestHeader
    rw [if_pos (by decide)]
    refine triple_checked (sent_stable _ _)
      (fun world reply added next sent answers outcome => ?_)
      (fun world reply code next sent answers outcome => ?_)
      (fun _ => sent_stable _ _) stable
    · obtain rfl : next = world := answers
      exact sent
    · obtain rfl : next = world := answers
      exact unsent next sent
  have sends : Triple bodyTransfer (Sent [] 0)
      (sendAndComplete url none 0 WINHTTP_IGNORE_REQUEST_TOTAL_LENGTH)
      (fun _ => Sent [] 0) (fun _ => Failed items) :=
    (sendAndComplete_triple _ _ _).mono (fun _ _ sent => sent) fun _ => unsent
  have streams : Triple bodyTransfer (Sent [] 0) (writeStream url items)
      (fun _ world => Sent (framesOf items) 0 world ∧ Complete items)
      (fun _ => Failed items) :=
    (writeStream_triple items fit).mono (fun _ _ holds => holds) fun _ _ => .inl
  have ends : Triple bodyTransfer
      (fun world => Sent (framesOf items) 0 world ∧ Complete items)
      (storeAndWrite url terminator)
      (fun _ world => Sent (framesOf items ++ terminator) 0 world ∧ Complete items)
      (fun _ => Failed items) := by
    intro world ⟨sent, complete⟩ outcome last runs
    have written := storeAndWrite_triple (by decide) world sent outcome last runs
    cases outcome with
    | ok value => exact ⟨written, complete⟩
    | error error => exact .inr ⟨complete, written⟩
  unfold sendBody
  rw [streamed]
  apply adds.bind _ stable
  intro added
  apply sends.bind _ stable
  intro sent
  apply streams.bind _ stable
  intro written
  apply ends.bind _ stable
  intro ended
  exact Triple.pure (stable_of_idle fun _ holds => holds.1.idle) fun _ holds => holds

theorem chunkFrame_eq (chunk : List UInt8) :
    chunkFrame chunk = ChunkedCoding.encodeChunk chunk := by
  simp [chunkFrame, ChunkedCoding.encodeChunk, asciiBytes, ChunkedCoding.hexOctets,
    ChunkedCoding.lineEnd]

theorem framesOf_eq (items : List (Except ErrorSource (List UInt8))) :
    framesOf items = (chunksOf items).flatMap ChunkedCoding.encodeChunk := by
  unfold framesOf
  congr 1
  funext chunk
  exact chunkFrame_eq chunk

theorem nil_notMem_chunksOf (items : List (Except ErrorSource (List UInt8))) :
    [] ∉ chunksOf items := by
  fun_induction chunksOf items with
  | case1 => exact List.not_mem_nil
  | case2 source items => exact List.not_mem_nil
  | case3 chunk items empty ih => exact ih
  | case4 chunk items nonempty ih =>
    rw [List.mem_cons, not_or]
    refine ⟨?_, ih⟩
    rintro rfl
    exact nonempty rfl

theorem chunksOf_flatten {items : List (Except ErrorSource (List UInt8))}
    (complete : Complete items) :
    ∃ contents : List (List UInt8), items = contents.map Except.ok ∧
      (chunksOf items).flatten = contents.flatten := by
  induction items with
  | nil => exact ⟨[], rfl, rfl⟩
  | cons item items ih =>
    obtain ⟨chunk, rfl⟩ := complete item List.mem_cons_self
    obtain ⟨contents, rfl, flattenEq⟩ :=
      ih fun other member => complete other (List.mem_cons_of_mem _ member)
    refine ⟨chunk :: contents, rfl, ?_⟩
    by_cases empty : chunk.isEmpty = true
    · simp [chunksOf, List.isEmpty_iff.mp empty, flattenEq]
    · simp [chunksOf, empty, flattenEq]

/-- What a streaming send has done when it ends. -/
structure SendsMessage (items : List (Except ErrorSource (List UInt8)))
    (result : Except Error CertlessRedirectRetry) (last : BodyWorld) : Prop where
  message : ∀ retry, result = .ok retry →
    ∃ (contents chunks : List (List UInt8)), items = contents.map Except.ok ∧
      ChunkedCoding.decode last.accepted = some (chunks, []) ∧
        [] ∉ chunks ∧ chunks.flatten = contents.flatten
  unterminated :
    (∃ source, .error source ∈ items) ∨
        (∃ position ∈ last.failedWrites, position < (framesOf items).length) →
      (∃ error, result = .error error) ∧ last.reach ≤ (framesOf items).length ∧
        ChunkedCoding.decode last.accepted = none
  failure : last.failedWrites ≠ [] → ∃ error, result = .error error

theorem sendsMessage_ok {items : List (Except ErrorSource (List UInt8))}
    {retry : CertlessRedirectRetry} (sent : Sent (framesOf items ++ terminator) 0 world)
    (complete : Complete items) : SendsMessage items (.ok retry) world := by
  constructor
  · intro other same
    obtain ⟨contents, itemsEq, flattenEq⟩ := chunksOf_flatten complete
    refine ⟨contents, chunksOf items, itemsEq, ?_, nil_notMem_chunksOf items, flattenEq⟩
    have encoded : world.accepted = ChunkedCoding.encode (chunksOf items) ++ [] := by
      rw [sent.acceptedEq, framesOf_eq, List.append_nil]
      rfl
    rw [encoded]
    exact ChunkedCoding.decode_encode (nil_notMem_chunksOf items) []
  · rintro (⟨source, member⟩ | ⟨position, member, -⟩)
    · obtain ⟨chunk, impossible⟩ := complete _ member
      cases impossible
    · rw [sent.clean] at member
      cases member
  · intro failed
    exact absurd sent.clean failed

theorem sendsMessage_error {items : List (Except ErrorSource (List UInt8))}
    {error : Error} (failed : Failed items world) :
    SendsMessage items (.error error) world := by
  constructor
  · intro retry impossible
    cases impossible
  · intro early
    refine ⟨⟨error, rfl⟩, ?_⟩
    rcases failed with interrupted | ⟨complete, stopped⟩
    · have reach := interrupted.reach
      obtain ⟨part, isPart, acceptedEq⟩ := interrupted.part
      rw [List.length_nil, Nat.zero_add] at reach
      rw [framesOf_eq] at isPart
      refine ⟨reach, ?_⟩
      rw [acceptedEq, List.nil_append]
      exact ChunkedCoding.decode_incomplete (nil_notMem_chunksOf items) isPart
    · exfalso
      obtain ⟨position, failedEq, after, -⟩ := stopped.failed
      rcases early with ⟨source, member⟩ | ⟨other, member, before⟩
      · obtain ⟨chunk, impossible⟩ := complete _ member
        cases impossible
      · rw [failedEq, List.mem_singleton] at member
        omega
  · intro _
    exact ⟨error, rfl⟩

/-- Every run of a streaming send that succeeds has sent one message of the
chunked coding with the content of the stream; one in which the stream or the
write of a frame fails returns an error and has offered no byte of the
terminator. -/
theorem sendBody_sendsMessage (parse : String → Option Url) (url : Url)
    (body : PreparedBody) (retry : CertlessRedirectRetry)
    (items : List (Except ErrorSource (List UInt8))) (streamed : body.stream = some items)
    (fit : ∀ chunk, .ok chunk ∈ items → (chunkFrame chunk).length ≤ u32Max)
    (result : Except Error CertlessRedirectRetry) (last : BodyWorld)
    (runs : Runs bodyTransfer (sendBody parse url body retry) .initial result last) :
    SendsMessage items result last := by
  have fresh : Sent [] 0 BodyWorld.initial := ⟨rfl, rfl, rfl, le_rfl⟩
  have ends := sendBody_triple parse retry streamed fit .initial fresh result last runs
  cases result with
  | ok value => exact sendsMessage_ok ends.1 ends.2
  | error error => exact sendsMessage_error ends

section Run

/-- A write may be accepted in part. -/
theorem writeOnce_runs (url : Url) {base : Nat} {content : List UInt8}
    (kept : world.sendBody = some (base, content)) {offset count : Nat}
    (fits : count ≤ content.length - offset) :
    Runs bodyTransfer (α := Except Error Nat)
      (withContext url (writeOnce url (base + offset) (content.length - offset))) world
      (.ok count) (world.accepts (content.drop offset) count) := by
  have length : (content.drop offset).length = content.length - offset := List.length_drop ..
  have offers : world.listened.Offers (base + offset) (content.length - offset)
      (content.drop offset) := by
    refine ⟨length, fun other known stored _ _ => ?_⟩
    obtain ⟨rfl, rfl⟩ : base = other ∧ content = known := by
      simpa using kept.symm.trans stored
    rw [Nat.add_sub_cancel_left, List.take_of_length_le length.le]
  have completes : bodyTransfer.interfere (world.listened.writing (content.drop offset))
      (⟨.writeComplete count, count⟩ : BodyCompletion) =
        some (world.accepts (content.drop offset) count) :=
    if_pos (Nat.min_eq_left (length ▸ fits)).symm
  have polled : (world.accepts (content.drop offset) count).signal.poll
      world.signal.nextListener = some (.ok (.writeComplete count)) :=
    CompletionSignal.poll_signal rfl _
  exact .call world.signal.nextListener ⟨rfl, rfl⟩
    (.call (.ok ()) ⟨content.drop offset, offers, rfl⟩
      (.interfere (⟨.writeComplete count, count⟩ : BodyCompletion) completes
        (.call (.ok (.writeComplete count)) ⟨polled, rfl⟩ (.done _ _))))

/-- The writes of some content succeed, in whatever parts it is accepted. -/
theorem writeDataWith_runs (url : Url) {base : Nat} {content : List UInt8}
    (kept : world.sendBody = some (base, content)) (fits : content.length ≤ u32Max)
    (allocated : base + content.length ≤ usizeMax) {counts : List Nat} {offset : Nat}
    (positive : ∀ count ∈ counts, 0 < count) (total : offset + counts.sum = content.length) :
    Runs bodyTransfer (α := Except Error Unit)
      (writeDataWith (writeOnce url) base content.length url offset) world (.ok ())
      (world.acceptsAll content offset counts) := by
  induction counts generalizing world offset with
  | nil =>
    rw [writeDataWith, if_neg (by simp at total; omega)]
    exact .done _ _
  | cons count counts ih =>
    rw [List.sum_cons] at total
    have some := positive count List.mem_cons_self
    have written := writeOnce_runs url kept (by omega : count ≤ content.length - offset)
    have keptNext : (world.accepts (content.drop offset) count).sendBody =
        .some (base, content) := kept
    have rest := ih keptNext
      (fun other member => positive other (List.mem_cons_of_mem _ member))
      (by omega : offset + count + counts.sum = content.length)
    have remaining : checkedSub content.length offset = .some (content.length - offset) :=
      if_pos (by omega)
    have position : checkedAdd base offset = .some (base + offset) := if_pos (by omega)
    have advanced := advanceWriteOffset_of_within url some (by omega : count ≤ _)
      (by omega : offset ≤ content.length) (fits.trans (by decide))
    rw [writeDataWith, if_pos (by omega)]
    simp only [remaining, position]
    rw [if_pos (by omega)]
    refine written.bind ?_
    simp only [ExceptT.bindCont]
    split
    · next next found =>
      rw [advanced] at found
      cases found
      exact rest
    · next error found =>
      rw [advanced] at found
      cases found

theorem storeAndWrite_runs (world : BodyWorld) (url : Url) {base : Nat}
    {content : List UInt8} {counts : List Nat} (fits : content.length ≤ u32Max)
    (allocated : base + content.length ≤ usizeMax) (positive : ∀ count ∈ counts, 0 < count)
    (total : counts.sum = content.length) :
    Runs bodyTransfer (α := Except Error Unit) (storeAndWrite url content) world (.ok ())
      (world.acceptsStored base content counts) :=
  .call (base : Nat) ⟨allocated, rfl⟩
    (writeDataWith_runs url rfl fits allocated positive ((Nat.zero_add _).trans total))

def headersSent : BodyWorld :=
  { BodyWorld.initial.listened with
    signal := BodyWorld.initial.listened.signal.signal .complete }

theorem addFraming_runs (url : Url) :
    Runs bodyTransfer (α := Except Error Unit)
      (addRequestHeader url "Transfer-Encoding: chunked\r\n") .initial (.ok ()) .initial := by
  unfold addRequestHeader
  rw [if_pos (by decide)]
  exact .call (.ok ()) rfl (.done _ _)

theorem sendHeaders_runs (url : Url) :
    Runs bodyTransfer (α := Except Error Unit)
      (sendAndComplete url none 0 WINHTTP_IGNORE_REQUEST_TOTAL_LENGTH)
      .initial (.ok ()) headersSent :=
  .call (0 : Nat) ⟨rfl, rfl⟩ (.call (.ok ()) rfl
    (.interfere ⟨.complete, 0⟩ rfl (.call (.ok .complete) ⟨rfl, rfl⟩ (.done _ _))))

/-- Two chunks with data, and an empty one between. -/
def streamOfChunks : PreparedBody where
  pointer := 0
  length := 0
  hasBytes := false
  stream := some [.ok [104], .ok [], .ok [105, 106]]

/-- The frame of the first chunk is accepted in two parts. -/
def framesSent : BodyWorld :=
  (headersSent.acceptsStored 8 (chunkFrame [104]) [2, 4]).acceptsStored 16
    (chunkFrame [105, 106]) [7]

def chunksSent : BodyWorld :=
  framesSent.acceptsStored 8 terminator [1, 4]

theorem sendBody_runs :
    Runs bodyTransfer (α := Except Error CertlessRedirectRetry)
      (sendBody (fun _ => none) (bareUrl false) streamOfChunks ⟨false, false⟩)
      .initial (.ok ⟨false, false⟩) chunksSent := by
  have first : Runs bodyTransfer (α := Except Error Unit)
      (storeAndWrite (bareUrl false) (chunkFrame [104])) headersSent (.ok ()) _ :=
    storeAndWrite_runs headersSent (bareUrl false) (by decide)
      (by decide : 8 + (chunkFrame [104]).length ≤ usizeMax)
      (by decide : ∀ count ∈ [2, 4], 0 < count) (by decide)
  have second : Runs bodyTransfer (α := Except Error Unit)
      (storeAndWrite (bareUrl false) (chunkFrame [105, 106])) _ (.ok ()) framesSent :=
    storeAndWrite_runs _ (bareUrl false) (by decide)
      (by decide : 16 + (chunkFrame [105, 106]).length ≤ usizeMax)
      (by decide : ∀ count ∈ [7], 0 < count) (by decide)
  have last : Runs bodyTransfer (α := Except Error Unit)
      (storeAndWrite (bareUrl false) terminator) framesSent (.ok ()) chunksSent :=
    storeAndWrite_runs framesSent (bareUrl false) (by decide)
      (by decide : 8 + terminator.length ≤ usizeMax)
      (by decide : ∀ count ∈ [1, 4], 0 < count) (by decide)
  have stream : Runs bodyTransfer (α := Except Error Unit)
      (writeStream (bareUrl false) [.ok [104], .ok [], .ok [105, 106]]) headersSent (.ok ())
      framesSent := first.bind (second.bind (.done _ _))
  exact (addFraming_runs _).bind ((sendHeaders_runs _).bind (stream.bind
    (last.bind (.done _ _))))

theorem sendBody_sendsMessage_chunks :
    Runs bodyTransfer (α := Except Error CertlessRedirectRetry)
        (sendBody (fun _ => none) (bareUrl false) streamOfChunks ⟨false, false⟩)
        .initial (.ok ⟨false, false⟩) chunksSent ∧
      SendsMessage [.ok [104], .ok [], .ok [105, 106]] (.ok ⟨false, false⟩) chunksSent ∧
      chunksSent.accepted = chunkFrame [104] ++ chunkFrame [105, 106] ++ terminator := by
  refine ⟨sendBody_runs, ?_, by decide⟩
  refine sendBody_sendsMessage _ _ streamOfChunks _ [.ok [104], .ok [], .ok [105, 106]] rfl ?_
    _ _ sendBody_runs
  intro chunk member
  simp only [List.mem_cons, List.not_mem_nil, or_false] at member
  rcases member with ⟨⟨⟩⟩ | ⟨⟨⟩⟩ | ⟨⟨⟩⟩ <;> decide

end Run

end Wrest.StreamedBody
