import Wrest.BufferWrites
import Wrest.RequestProgress

/-!
# What an in-memory body sends

A body in memory is kept in the shared state before the request is prepared.  One that
fits is handed over with the headers; a larger one is announced by a header and written
piece by piece afterwards.  Both ways, the bytes that are handed over by a send that
succeeds are the bytes of the body, and the length that is declared is its length.
-/

namespace Wrest

open Interaction RequestStep

section Pieces

/-- Each part begins where the one before it ends. -/
def Abut (start finish : Nat) : List (Nat × Nat) → Prop
  | [] => start = finish
  | (pointer, count) :: parts => pointer = start ∧ Abut (start + count) finish parts

theorem Abut.append {start middle finish : Nat} {first second : List (Nat × Nat)}
    (before : Abut start middle first) (behind : Abut middle finish second) :
    Abut start finish (first ++ second) := by
  induction first generalizing start with
  | nil =>
    obtain rfl : start = middle := before
    exact behind
  | cons part first ih => exact ⟨before.1, ih before.2⟩

theorem Abut.le {start finish : Nat} {parts : List (Nat × Nat)}
    (abut : Abut start finish parts) : start ≤ finish := by
  induction parts generalizing start with
  | nil => exact le_of_eq abut
  | cons part parts ih => exact (Nat.le_add_right start part.2).trans (ih abut.2)

/-- The part of the memory that a write handed over. -/
def IssuedWrite.part (write : IssuedWrite) : Nat × Nat :=
  (write.pointer, write.reported.getD 0)

/-- The writes of a buffer, or of pieces that lie one behind the other. -/
structure WritesPieces (start finish : Nat) (writes : List IssuedWrite)
    (result : Except Error Unit) : Prop where
  covers : result = .ok () → Abut start finish (writes.map IssuedWrite.part)
  within : ∀ write ∈ writes, start ≤ write.pointer ∧ write.pointer + write.length ≤ finish
  narrow : ∀ write ∈ writes, write.length ≤ largeBodyChunkMax
  failed : ∀ error, result = .error error → ∃ write ∈ writes, ¬write.Progresses
  bounded : writes.length ≤ finish - start

variable {pointer length start middle finish : Nat} {writes first second : List IssuedWrite}
variable {result : Except Error Unit}

/-- Nothing is left to write. -/
theorem WritesPieces.nil (start : Nat) : WritesPieces start start [] (.ok ()) := by
  constructor
  · exact fun _ => rfl
  · exact fun _ member => absurd member List.not_mem_nil
  · exact fun _ member => absurd member List.not_mem_nil
  · exact fun _ impossible => nomatch impossible
  · exact Nat.zero_le _

theorem largeBodyChunkMax_eq : largeBodyChunkMax = u32Max :=
  rfl

/-- A buffer that fits into the address space and into one write is never refused. -/
theorem WritesRest.pieces (rest : WritesRest pointer length writes result)
    (addressable : pointer + length ≤ usizeMax) (small : length ≤ u32Max) :
    WritesPieces pointer (pointer + length) writes result := by
  induction rest with
  | done pointer => exact .nil pointer
  | refused error nonempty large => omega
  | @stopped pointer length reported error nonempty within noProgress =>
    refine ⟨nofun, ?_, ?_, fun _ _ => ⟨_, List.mem_cons_self, noProgress⟩, ?_⟩
    · exact List.forall_mem_singleton.mpr ⟨le_rfl, le_rfl⟩
    · rw [largeBodyChunkMax_eq]
      exact List.forall_mem_singleton.mpr within.2
    · rw [List.length_singleton]
      omega
  | @advances pointer length count writes result within progress rest ih =>
    have pieces := ih (by omega) (by omega)
    have finishEq : pointer + count + (length - count) = pointer + length := by omega
    rw [finishEq] at pieces
    refine ⟨fun ok => ⟨rfl, pieces.covers ok⟩, ?_, ?_, fun error failed => ?_, ?_⟩
    · refine List.forall_mem_cons.mpr ⟨⟨le_rfl, le_rfl⟩, fun write member => ?_⟩
      have inside := pieces.within write member
      exact ⟨by omega, inside.2⟩
    · refine List.forall_mem_cons.mpr ⟨?_, pieces.narrow⟩
      rw [largeBodyChunkMax_eq]
      exact within.2
    · obtain ⟨write, member, noProgress⟩ := pieces.failed error failed
      exact ⟨write, List.mem_cons_of_mem _ member, noProgress⟩
    · have bounded := pieces.bounded
      rw [List.length_cons]
      omega

theorem WritesPieces.stop {error : Error} (pieces : WritesPieces start middle writes
    (.error error)) (within : middle ≤ finish) :
    WritesPieces start finish writes (.error error) := by
  refine ⟨nofun, fun write member => ?_, pieces.narrow, pieces.failed, ?_⟩
  · have inside := pieces.within write member
    exact ⟨inside.1, inside.2.trans within⟩
  · have bounded := pieces.bounded
    omega

theorem WritesPieces.append (before : WritesPieces start middle first (.ok ()))
    (behind : WritesPieces middle finish second result) (within : middle ≤ finish) :
    WritesPieces start finish (first ++ second) result := by
  have startLe : start ≤ middle := (before.covers rfl).le
  refine ⟨fun ok => ?_, ?_, ?_, fun error failed => ?_, ?_⟩
  · rw [List.map_append]
    exact (before.covers rfl).append (behind.covers ok)
  · refine List.forall_mem_append.mpr ⟨fun write member => ?_, fun write member => ?_⟩
    · have inside := before.within write member
      exact ⟨inside.1, inside.2.trans within⟩
    · have inside := behind.within write member
      exact ⟨startLe.trans inside.1, inside.2⟩
  · exact List.forall_mem_append.mpr ⟨before.narrow, behind.narrow⟩
  · obtain ⟨write, member, noProgress⟩ := behind.failed error failed
    exact ⟨write, List.mem_append_right _ member, noProgress⟩
  · have beforeBounded := before.bounded
    have behindBounded := behind.bounded
    rw [List.length_append]
    omega

/-- The loop writes what is left of the body. -/
theorem traces_writeLargeBody {url : Url} {offset : Nat}
    (addressable : pointer + length ≤ usizeMax) (inside : offset ≤ length) :
    ∀ trace, AttemptTraces (writeLargeBody url pointer length offset) trace result →
      ∃ writes, (∀ rest, issuedWrites (trace ++ rest) = writes ++ issuedWrites rest) ∧
        WritesPieces (pointer + offset) (pointer + length) writes result := by
  fun_induction writeLargeBody url pointer length offset with
  | case1 offset before chunkSize ih =>
    intro trace traces
    have chunkLe : offset + chunkSize ≤ length := by omega
    have chunkSmall : chunkSize ≤ u32Max := by
      rw [← largeBodyChunkMax_eq]
      exact Nat.min_le_right _ _
    rcases traces.of_bind with
      ⟨error, piece, rfl⟩ | ⟨_, start, rest, rfl, piece, continues⟩
    · obtain ⟨writes, issued, writesRest⟩ := traces_writeData piece
      have pieces := writesRest.pieces (by omega) chunkSmall
      exact ⟨writes, issued, pieces.stop (by omega)⟩
    · obtain ⟨writes, issued, writesRest⟩ := traces_writeData piece
      have pieces := writesRest.pieces (by omega) chunkSmall
      obtain ⟨others, issuedRest, otherPieces⟩ := ih chunkLe rest continues
      rw [← Nat.add_assoc] at otherPieces
      refine ⟨writes ++ others, fun behind => ?_, pieces.append otherPieces (by omega)⟩
      rw [List.append_assoc, issued, issuedRest, List.append_assoc]
  | case2 offset behind =>
    intro trace traces
    obtain ⟨rfl, rfl⟩ := traces_pure.mp traces
    obtain rfl : offset = length := by omega
    exact ⟨[], fun _ => rfl, .nil _⟩

end Pieces

namespace RequestCall

/-- The lengths that are passed are lengths of 32 bits. -/
def Narrow : RequestCall → Prop
  | .sendRequest _ bodyLength totalLength => bodyLength ≤ u32Max ∧ totalLength ≤ u32Max
  | _ => True

/-- The calls that hand bytes of a body over. -/
def handsOver : RequestCall → Bool
  | .sendRequest _ _ _ | .writeData _ _ => true
  | _ => false

/-- The calls that change the kept body. -/
def changesBody : RequestCall → Bool
  | .storeSendBody _ | .takeSendBody => true
  | _ => false

/-- The calls before a request is sent, after its body was kept. -/
def prepares : RequestCall → Bool
  | .storeSendBody _ => false
  | .addRequestHeaders _ => true
  | call => call.configures

/-- The kept body stays, and a length that is passed is one of 32 bits. -/
def KeepsBody (call : RequestCall) : Prop :=
  call.changesBody = false ∧ call.Narrow

/-- The kept body stays, and nothing of it is handed over. -/
def LeavesBody (call : RequestCall) : Prop :=
  call.changesBody = false ∧ call.handsOver = false

theorem leavesBody_of_completes (call : RequestCall) (completes : call.completes = true) :
    call.LeavesBody := by
  cases call <;> first | exact ⟨rfl, rfl⟩ | cases completes

theorem leavesBody_of_prepares (call : RequestCall) (prepares : call.prepares = true) :
    call.LeavesBody := by
  cases call <;> first | exact ⟨rfl, rfl⟩ | cases prepares

theorem quiet_of_receives (call : RequestCall) (receives : call.receives = true) :
    call.handsOver = false := by
  cases call <;> first | rfl | cases receives

theorem not_isSend_of_quiet (call : RequestCall) (quiet : call.handsOver = false) :
    call.isSend = false := by
  cases call <;> first | rfl | cases quiet

theorem not_isSend_of_writes (call : RequestCall) (writes : call.writes = true) :
    call.isSend = false := by
  cases call <;> first | rfl | cases writes

theorem keepsBody_of_writes (call : RequestCall) (writes : call.writes = true) :
    call.KeepsBody := by
  cases call <;> first | exact ⟨rfl, trivial⟩ | cases writes

theorem LeavesBody.keepsBody {call : RequestCall} (leaves : call.LeavesBody) :
    call.KeepsBody := by
  refine ⟨leaves.1, ?_⟩
  have quiet := leaves.2
  cases call <;> first | exact trivial | cases quiet

end RequestCall

section Delivery

/-- The part of the memory that a send hands over with the headers. -/
def inlinePart : Exchange requestInterface → Option (Nat × Nat)
  | ⟨.sendRequest (some pointer) length _, (reply : Outcome)⟩ =>
    match reply with
    | .ok _ => some (pointer, length)
    | .error _ => none
  | _ => none

theorem inlinePart_send (pointer : Option Nat) (length totalLength : Nat) :
    inlinePart ⟨.sendRequest pointer length totalLength, (.ok () : Outcome)⟩ =
      pointer.map fun start => (start, length) := by
  cases pointer <;> rfl

/-- The parts of the memory that are handed over, in their order. -/
def handedOver : RequestTrace → List (Nat × Nat)
  | [] => []
  | exchange :: trace =>
    (inlinePart exchange).toList ++
      ((firstWrite (exchange :: trace)).map IssuedWrite.part).toList ++ handedOver trace

/-- The bytes of a part of the memory, if it lies within the kept body. -/
def bytesAt (base : Nat) (content : List UInt8) (part : Nat × Nat) : Option (List UInt8) :=
  if base ≤ part.1 ∧ part.1 + part.2 ≤ base + content.length then
    some ((content.drop (part.1 - base)).take part.2)
  else
    none

/-- The bytes that are handed over, while this body is kept. -/
def deliveredBytes (base : Nat) (content : List UInt8) (trace : RequestTrace) :
    Option (List UInt8) :=
  ((handedOver trace).mapM (bytesAt base content)).map List.flatten

variable {base : Nat} {content : List UInt8} {trace : RequestTrace}

/-- Parts that abut are one part. -/
theorem mapM_bytesAt_of_abut {parts : List (Nat × Nat)} {start finish : Nat}
    (abut : Abut start finish parts) (above : base ≤ start)
    (below : finish ≤ base + content.length) :
    ∃ pieces, parts.mapM (bytesAt base content) = some pieces ∧
      pieces.flatten = (content.drop (start - base)).take (finish - start) := by
  induction parts generalizing start with
  | nil =>
    obtain rfl : start = finish := abut
    exact ⟨[], rfl, by simp⟩
  | cons part parts ih =>
    obtain ⟨pointer, count⟩ := part
    obtain ⟨rfl, abut⟩ := abut
    have within := abut.le
    obtain ⟨pieces, piecesEq, flattenEq⟩ := ih abut (by omega)
    have read : bytesAt base content (pointer, count) =
        some ((content.drop (pointer - base)).take count) := if_pos ⟨above, by omega⟩
    refine ⟨_, by rw [List.mapM_cons, read, piecesEq]; rfl, ?_⟩
    have startEq : pointer + count - base = pointer - base + count := by omega
    have finishEq : finish - pointer = count + (finish - (pointer + count)) := by omega
    rw [List.flatten_cons, flattenEq, startEq, ← List.drop_drop, finishEq, List.take_add]

theorem deliveredBytes_of_abut (abut : Abut base (base + content.length) (handedOver trace)) :
    deliveredBytes base content trace = some content := by
  obtain ⟨pieces, piecesEq, flattenEq⟩ := mapM_bytesAt_of_abut abut le_rfl le_rfl
  rw [deliveredBytes, piecesEq, Option.map_some, flattenEq, Nat.sub_self, List.drop_zero,
    Nat.add_sub_cancel_left, List.take_length]

theorem firstWrite_of_quiet {exchange : Exchange requestInterface}
    (quiet : RequestCall.handsOver exchange.call = false) (trace : RequestTrace) :
    firstWrite (exchange :: trace) = none ∧ inlinePart exchange = none := by
  obtain ⟨call, reply⟩ := exchange
  cases call <;> first | exact ⟨rfl, rfl⟩ | cases quiet

/-- Other calls hand nothing over. -/
theorem handsOver_append {before : RequestTrace}
    (quiet : ∀ exchange ∈ before, RequestCall.handsOver exchange.call = false)
    (rest : RequestTrace) :
    handedOver (before ++ rest) = handedOver rest ∧
      issuedWrites (before ++ rest) = issuedWrites rest := by
  induction before with
  | nil => exact ⟨rfl, rfl⟩
  | cons exchange before ih =>
    obtain ⟨quietFirst, quietRest⟩ := List.forall_mem_cons.mp quiet
    obtain ⟨noWrite, noSend⟩ := firstWrite_of_quiet quietFirst (before ++ rest)
    rw [List.cons_append, handedOver, issuedWrites, noWrite, noSend]
    exact ih quietRest

theorem handedOver_of_quiet
    (quiet : ∀ exchange ∈ trace, RequestCall.handsOver exchange.call = false) :
    handedOver trace = [] ∧ issuedWrites trace = [] := by
  have nothing := handsOver_append quiet []
  rwa [List.append_nil] at nothing

/-- Behind the send, the parts that are handed over are those of the writes. -/
theorem handedOver_of_noSend
    (noSends : ∀ exchange ∈ trace, RequestCall.isSend exchange.call = false) :
    handedOver trace = (issuedWrites trace).map IssuedWrite.part := by
  induction trace with
  | nil => rfl
  | cons exchange trace ih =>
    obtain ⟨noSend, noSendRest⟩ := List.forall_mem_cons.mp noSends
    have notInline : inlinePart exchange = none := by
      obtain ⟨call, reply⟩ := exchange
      cases call <;> first | rfl | cases noSend
    rw [handedOver, issuedWrites, notInline, ih noSendRest, List.map_append]
    cases firstWrite (exchange :: trace) <;> rfl

/-- How the length of a body is declared by the one send of its request. -/
inductive DeclaresLength (length : Nat) : RequestTrace → Prop
  | withHeaders (before after : RequestTrace) {pointer : Option Nat} (fits : length ≤ u32Max)
      (once : ∀ exchange ∈ before ++ after, RequestCall.isSend exchange.call = false) :
      DeclaresLength length
        (before ++ ⟨.sendRequest pointer length length, (.ok () : Outcome)⟩ :: after)
  | asHeader (before after : RequestTrace) {listener : Nat} (large : u32Max < length)
      (once : ∀ exchange ∈ before ++ after, RequestCall.isSend exchange.call = false) :
      DeclaresLength length
        (before ++
          ⟨.addRequestHeaders ("Content-Length: " ++ toString length ++ "\r\n"),
            (.ok () : Outcome)⟩ ::
          ⟨.listen, listener⟩ ::
          ⟨.sendRequest none 0 WINHTTP_IGNORE_REQUEST_TOTAL_LENGTH, (.ok () : Outcome)⟩ ::
          after)

theorem DeclaresLength.prepend {length : Nat} {prepared : RequestTrace}
    (declares : DeclaresLength length trace)
    (noSends : ∀ exchange ∈ prepared, RequestCall.isSend exchange.call = false) :
    DeclaresLength length (prepared ++ trace) := by
  cases declares with
  | withHeaders before after fits once =>
    rw [← List.append_assoc]
    refine .withHeaders (prepared ++ before) after fits ?_
    rw [List.append_assoc]
    exact List.forall_mem_append.mpr ⟨noSends, once⟩
  | asHeader before after large once =>
    rw [← List.append_assoc]
    refine .asHeader (prepared ++ before) after large ?_
    rw [List.append_assoc]
    exact List.forall_mem_append.mpr ⟨noSends, once⟩

/-- What is handed over of a body that is kept at an address, and how it is declared. -/
structure DeliversBody (base : Nat) (content : List UInt8) (trace : RequestTrace)
    (result : Except Error CertlessRedirectRetry) : Prop where
  keeps : ∀ exchange ∈ trace, RequestCall.KeepsBody exchange.call
  delivered : ∀ retry, result = .ok retry → deliveredBytes base content trace = some content
  declared : ∀ retry, result = .ok retry → DeclaresLength content.length trace
  inline : content.length ≤ u32Max → issuedWrites trace = []
  pieces : ∀ write ∈ issuedWrites trace, write.length ≤ largeBodyChunkMax ∧
    base ≤ write.pointer ∧ write.pointer + write.length ≤ base + content.length
  failed : ∀ error, result = .error error → issuedWrites trace = [] ∨
    ∃ write ∈ issuedWrites trace, ¬write.Progresses
  bounded : (issuedWrites trace).length ≤ content.length

end Delivery

/-- The first part of `execute_request`, up to the loop that receives the response. -/
def transmitRequest (parse : String → Option Url) (parts : RequestParts) :
    RequestStep CertlessRedirectRetry := do
  let body ← prepareRequest parts
  sendBody parse parts.url body (.new parts.url parts.method parts.body)

section Send

variable {parse : String → Option Url} {url : Url} {parts : RequestParts} {base : Nat}
variable {content : List UInt8} {trace : RequestTrace}

/-- Where a body in memory is kept. -/
def keptBody (base : Nat) (content : List UInt8) : PreparedBody :=
  if content.isEmpty then { pointer := 0, length := 0, hasBytes := false, stream := none }
  else { pointer := base, length := content.length, hasBytes := true, stream := none }

theorem keptBody_length (base : Nat) (content : List UInt8) :
    (keptBody base content).length = content.length := by
  unfold keptBody
  split
  · next empty => rw [List.isEmpty_iff.mp empty]; rfl
  · rfl

theorem keptBody_stream (base : Nat) (content : List UInt8) :
    (keptBody base content).stream = none := by
  unfold keptBody
  split <;> rfl

theorem keptBody_pointer (nonempty : 0 < content.length) (base : Nat) :
    (keptBody base content).pointer = base ∧ (keptBody base content).hasBytes = true := by
  have notEmpty : ¬content.isEmpty = true := by
    simpa [List.length_pos_iff] using nonempty
  rw [keptBody, if_neg notEmpty]
  exact ⟨rfl, rfl⟩

theorem traces_storeBody {result : Except Error PreparedBody}
    (traces : AttemptTraces (storeBody (some { inner := .bytes content })) trace result) :
    ∃ base : Nat, trace = [⟨.storeSendBody content, base⟩] ∧
      result = .ok (keptBody base content) := by
  obtain ⟨base, remaining, rfl, rest⟩ := traces_ask.mp traces
  refine ⟨base, ?_⟩
  unfold keptBody
  split at rest <;> next empty =>
    obtain ⟨rfl, rfl⟩ := traces_pure.mp rest
    simp [empty]

/-- The step keeps the body first, and then prepares the request. -/
def KeepsFirst (content : List UInt8) (step : RequestStep PreparedBody) : Prop :=
  ∀ trace result, AttemptTraces step trace result →
    ∃ (base : Nat) (rest : RequestTrace), trace = ⟨.storeSendBody content, base⟩ :: rest ∧
      (∀ exchange ∈ rest, RequestCall.prepares exchange.call = true) ∧
      ∀ body, result = .ok body → body = keptBody base content

theorem KeepsFirst.bind {step : RequestStep PreparedBody}
    {rest : PreparedBody → RequestStep PreparedBody} (keeps : KeepsFirst content step)
    (makes : ∀ body, (rest body).Makes fun call => call.prepares = true)
    (yields : ∀ body, (rest body).Yields fun next => next = body) :
    KeepsFirst content (step >>= rest) := by
  intro trace result traces
  rcases traces.of_bind with ⟨error, first, rfl⟩ | ⟨body, before, after, rfl, first, second⟩
  · obtain ⟨base, remaining, traceEq, prepares, -⟩ := keeps _ _ first
    exact ⟨base, remaining, traceEq, prepares, fun _ impossible => nomatch impossible⟩
  · obtain ⟨base, remaining, rfl, prepares, bodyEq⟩ := keeps _ _ first
    refine ⟨base, remaining ++ after, rfl, ?_, ?_⟩
    · exact List.forall_mem_append.mpr ⟨prepares, traces_makes (makes body) second⟩
    · rintro next rfl
      rw [traces_yields (yields body) second]
      exact bodyEq body rfl

theorem prepares_of_setsProxy (call : RequestCall) (sets : call.setsProxy = true) :
    call.prepares = true := by
  cases call <;> first | rfl | cases sets

theorem prepares_of_setsCertificates (call : RequestCall)
    (sets : call.setsCertificates = true) : call.prepares = true := by
  cases call <;> first | rfl | cases sets

theorem prepareRequest_keepsFirst (inMemory : parts.body = some { inner := .bytes content }) :
    KeepsFirst content (prepareRequest parts) := by
  have stores : KeepsFirst content (storeBody parts.body) := by
    rw [inMemory]
    intro trace result traces
    obtain ⟨base, rfl, rfl⟩ := traces_storeBody traces
    refine ⟨base, [], rfl, fun _ member => absurd member List.not_mem_nil, ?_⟩
    rintro body ⟨rfl⟩
    rfl
  have opens : KeepsFirst content (openHandle parts) := by
    refine stores.bind (fun body => ?_) fun body => ?_
    · exact makes_call rfl fun _ => makes_checked fun _ =>
        makes_call rfl fun _ => makes_checked fun _ =>
          makes_call rfl fun _ => makes_checked fun _ => makes_pure _
    · exact yields_after fun _ => yields_after fun _ => yields_after fun _ =>
        yields_after fun _ => yields_after fun _ => yields_after fun _ => yields_pure rfl
  have configures : KeepsFirst content (configureRequest parts) := by
    refine opens.bind (fun body => ?_) fun body => ?_
    · exact makes_bind (setProxy_makes prepares_of_setsProxy _ _) fun _ =>
        makes_bind (setCertificateOptions_makes prepares_of_setsCertificates _) fun _ =>
          makes_pure _
    · exact yields_after fun _ => yields_after fun _ => yields_pure rfl
  refine configures.bind (fun body => ?_) fun body => ?_
  · exact makes_bind (addHeaders_makes (fun _ => rfl) _) fun _ => makes_pure _
  · exact yields_after fun _ => yields_pure rfl

/-- The trace of a send with the body. -/
theorem traces_sendInline {retry : CertlessRedirectRetry} (notSafe : retry.replaySafe = false)
    (fits : content.length ≤ u32Max) {result : Except Error CertlessRedirectRetry}
    (traces : AttemptTraces (sendBody parse url (keptBody base content) retry) trace result) :
    ∃ (listener : Nat) (reply : Outcome) (rest : RequestTrace),
      trace = ⟨.listen, listener⟩ ::
        ⟨.sendRequest (if content.length > 0 then some base else none) content.length
          content.length, reply⟩ :: rest ∧
        (∀ exchange ∈ rest, RequestCall.completes exchange.call = true) ∧
        ∀ next, result = .ok next → reply = .ok () := by
  have pointerEq : (if (keptBody base content).length > 0 then
      some (keptBody base content).pointer else none) =
        if content.length > 0 then some base else none := by
    rw [keptBody_length]
    split
    · next nonempty => rw [(keptBody_pointer nonempty base).1]
    · rfl
  unfold sendBody at traces
  simp only [keptBody_stream, keptBody_length] at traces pointerEq
  rw [largeBodyThreshold, if_pos fits, pointerEq] at traces
  obtain ⟨inner, before, after, rfl, sends, ends⟩ := traces_outcome traces
  obtain ⟨listener, reply, rest, rfl, completion⟩ :=
    traces_operation (.sendRequest _ content.length content.length) id sends
  obtain ⟨completes, started⟩ := completion.completes
  cases inner with
  | ok value =>
    obtain ⟨rfl, rfl⟩ := traces_pure.mp ends
    refine ⟨listener, reply, rest, List.append_nil _, completes, fun _ _ => started rfl⟩
  | error error =>
    simp only [onError_of_notReplaySafe notSafe] at ends
    obtain ⟨rfl, rfl⟩ := traces_pure.mp ends
    refine ⟨listener, reply, rest, List.append_nil _, completes, ?_⟩
    rintro _ ⟨⟩

theorem traces_addRequestHeader_ok {line : String}
    (traces : AttemptTraces (addRequestHeader url line) trace (.ok ())) :
    trace = [⟨.addRequestHeaders line, (.ok () : Outcome)⟩] := by
  unfold addRequestHeader at traces
  split at traces
  · obtain ⟨reply, rest, rfl, checked⟩ := traces_ask.mp traces
    obtain ⟨rfl, ⟨code, -, impossible⟩ | ⟨value, rfl, -⟩⟩ := traces_checkWin32 checked
    · cases impossible
    · rfl
  · cases (traces_fail.mp traces).2

/-- The trace of a send that is followed by the body. -/
theorem traces_sendLarge {retry : CertlessRedirectRetry} (large : u32Max < content.length)
    {result : Except Error CertlessRedirectRetry}
    (traces : AttemptTraces (sendBody parse url (keptBody base content) retry) trace result) :
    (∃ error, result = .error error ∧
        ∀ exchange ∈ trace, RequestCall.LeavesBody exchange.call) ∨
      ∃ (listener : Nat) (reply : Outcome) (rest : RequestTrace),
        trace = ⟨.addRequestHeaders ("Content-Length: " ++ toString content.length ++ "\r\n"),
            (.ok () : Outcome)⟩ ::
          ⟨.listen, listener⟩ ::
          ⟨.sendRequest none 0 WINHTTP_IGNORE_REQUEST_TOTAL_LENGTH, reply⟩ :: rest ∧
        ((∃ error, result = .error error ∧
            ∀ exchange ∈ rest, RequestCall.LeavesBody exchange.call) ∨
          reply = .ok () ∧
            ∃ (before after : RequestTrace) (written : Except Error Unit),
              rest = before ++ after ∧
              (∀ exchange ∈ before, RequestCall.completes exchange.call = true) ∧
              AttemptTraces (writeLargeBody url base content.length 0) after written ∧
              result = written.map fun _ => retry) := by
  have nonempty : 0 < content.length := Nat.zero_lt_of_lt large
  obtain ⟨pointerEq, hasBytes⟩ := keptBody_pointer nonempty base
  unfold sendBody at traces
  simp only [keptBody_stream, keptBody_length, pointerEq, hasBytes, if_true] at traces
  rw [largeBodyThreshold, if_neg (not_le.mpr large)] at traces
  rcases traces.of_bind with ⟨error, adds, rfl⟩ | ⟨_, first, rest, rfl, adds, continues⟩
  · have makes : (addRequestHeader url ("Content-Length: " ++ toString content.length ++
        "\r\n")).Makes RequestCall.LeavesBody :=
      addRequestHeader_makes (fun _ => ⟨rfl, rfl⟩) _
    exact .inl ⟨error, rfl, traces_makes makes adds⟩
  · obtain rfl := traces_addRequestHeader_ok adds
    rcases continues.of_bind with ⟨error, sends, rfl⟩ | ⟨_, sent, after, rfl, sends, writes⟩
    · obtain ⟨listener, reply, rest, rfl, completion⟩ :=
        traces_operation (.sendRequest none 0 WINHTTP_IGNORE_REQUEST_TOTAL_LENGTH) id sends
      have completes := completion.completes.1
      refine .inr ⟨listener, reply, rest, rfl, .inl ⟨error, rfl, fun exchange member => ?_⟩⟩
      exact RequestCall.leavesBody_of_completes _ (completes exchange member)
    · obtain ⟨listener, reply, rest, rfl, completion⟩ :=
        traces_operation (.sendRequest none 0 WINHTTP_IGNORE_REQUEST_TOTAL_LENGTH) id sends
      obtain ⟨completes, started⟩ := completion.completes
      refine .inr ⟨listener, reply, rest ++ after, rfl, .inr ⟨started rfl, rest, after, ?_⟩⟩
      rcases writes.of_bind with ⟨error, pieces, rfl⟩ | ⟨_, written, behind, rfl, pieces, ends⟩
      · exact ⟨.error error, rfl, completes, pieces, rfl⟩
      · obtain ⟨rfl, rfl⟩ := traces_pure.mp ends
        rw [List.append_nil]
        exact ⟨.ok (), rfl, completes, pieces, rfl⟩

/-- Nothing was written. -/
theorem deliversBody_failed {error : Error}
    (keeps : ∀ exchange ∈ trace, RequestCall.KeepsBody exchange.call)
    (noWrites : issuedWrites trace = []) :
    DeliversBody base content trace (.error error) := by
  constructor
  · exact keeps
  · exact fun _ impossible => nomatch impossible
  · exact fun _ impossible => nomatch impossible
  · exact fun _ => noWrites
  · rw [noWrites]
    exact fun _ member => absurd member List.not_mem_nil
  · exact fun _ _ => .inl noWrites
  · rw [noWrites]
    exact Nat.zero_le _

/-- A body that fits is handed over with the headers. -/
theorem deliversBody_inline {retry : CertlessRedirectRetry}
    (notSafe : retry.replaySafe = false) (fits : content.length ≤ u32Max)
    {result : Except Error CertlessRedirectRetry}
    (traces : AttemptTraces (sendBody parse url (keptBody base content) retry) trace result) :
    DeliversBody base content trace result := by
  obtain ⟨listener, reply, rest, rfl, completes, started⟩ :=
    traces_sendInline notSafe fits traces
  have leaves : ∀ exchange ∈ rest, RequestCall.LeavesBody exchange.call :=
    fun exchange member => RequestCall.leavesBody_of_completes _ (completes exchange member)
  obtain ⟨handed, noWrites⟩ :=
    handedOver_of_quiet fun exchange member => (leaves exchange member).2
  have keeps : ∀ exchange ∈ (⟨.listen, listener⟩ ::
      ⟨.sendRequest (if content.length > 0 then some base else none) content.length
        content.length, reply⟩ :: rest : RequestTrace),
      RequestCall.KeepsBody exchange.call := by
    refine List.forall_mem_cons.mpr ⟨⟨rfl, trivial⟩, List.forall_mem_cons.mpr ⟨?_, ?_⟩⟩
    · exact ⟨rfl, fits, fits⟩
    · exact fun exchange member => (leaves exchange member).keepsBody
  cases result with
  | error error => exact deliversBody_failed keeps noWrites
  | ok next =>
    obtain rfl := started next rfl
    refine ⟨keeps, fun _ _ => ?_, fun _ _ => ?_, fun _ => noWrites, ?_, ?_, ?_⟩
    · apply deliveredBytes_of_abut
      rw [handedOver, handedOver, inlinePart_send, handed]
      rcases Nat.eq_zero_or_pos content.length with empty | nonempty
      · simp [empty, inlinePart, firstWrite, Abut]
      · simp [nonempty, inlinePart, firstWrite, Abut]
    · refine .withHeaders [⟨.listen, listener⟩] rest fits ?_
      refine List.forall_mem_cons.mpr ⟨rfl, fun exchange member => ?_⟩
      exact RequestCall.not_isSend_of_quiet _ (leaves exchange member).2
    · exact fun write member => absurd (noWrites ▸ member) List.not_mem_nil
    · rintro _ ⟨⟩
    · exact le_of_eq_of_le (congrArg List.length noWrites) (Nat.zero_le _)

/-- A larger body is announced, and written behind the headers. -/
theorem deliversBody_large {retry : CertlessRedirectRetry}
    (large : u32Max < content.length) (addressable : base + content.length ≤ usizeMax)
    {result : Except Error CertlessRedirectRetry}
    (traces : AttemptTraces (sendBody parse url (keptBody base content) retry) trace result) :
    DeliversBody base content trace result := by
  have announced (listener : Nat) (reply : Outcome) {rest : RequestTrace}
      (keeps : ∀ exchange ∈ rest, RequestCall.KeepsBody exchange.call) :
      ∀ exchange ∈ (⟨.addRequestHeaders ("Content-Length: " ++ toString content.length ++
          "\r\n"), (.ok () : Outcome)⟩ ::
        ⟨.listen, listener⟩ ::
        ⟨.sendRequest none 0 WINHTTP_IGNORE_REQUEST_TOTAL_LENGTH, reply⟩ :: rest :
          RequestTrace), RequestCall.KeepsBody exchange.call := by
    have lengths : 0 ≤ u32Max ∧ WINHTTP_IGNORE_REQUEST_TOTAL_LENGTH ≤ u32Max :=
      ⟨Nat.zero_le _, by decide⟩
    refine List.forall_mem_cons.mpr ⟨⟨rfl, trivial⟩, List.forall_mem_cons.mpr ⟨?_, ?_⟩⟩
    · exact ⟨rfl, trivial⟩
    · exact List.forall_mem_cons.mpr ⟨⟨rfl, lengths⟩, keeps⟩
  rcases traces_sendLarge large traces with
    ⟨error, rfl, leaves⟩ |
    ⟨listener, reply, rest, rfl, ⟨error, rfl, leaves⟩ |
      ⟨rfl, before, after, written, rfl, completes, writes, rfl⟩⟩
  · exact deliversBody_failed (fun exchange member => (leaves exchange member).keepsBody)
      (handedOver_of_quiet fun exchange member => (leaves exchange member).2).2
  · exact deliversBody_failed
      (announced listener reply fun exchange member => (leaves exchange member).keepsBody)
      (handedOver_of_quiet fun exchange member => (leaves exchange member).2).2
  · obtain ⟨found, issued, pieces⟩ :=
      traces_writeLargeBody addressable (Nat.zero_le _) after writes
    have writesOnly := traces_makes (writeLargeBody_makes (fun _ holds => holds) _ _ _) writes
    have leaves : ∀ exchange ∈ before, RequestCall.LeavesBody exchange.call :=
      fun exchange member => RequestCall.leavesBody_of_completes _ (completes exchange member)
    have noSends : ∀ exchange ∈ before ++ after, RequestCall.isSend exchange.call = false := by
      refine List.forall_mem_append.mpr ⟨fun exchange member => ?_, fun exchange member => ?_⟩
      · exact RequestCall.not_isSend_of_quiet _ (leaves exchange member).2
      · exact RequestCall.not_isSend_of_writes _ (writesOnly exchange member)
    have keeps : ∀ exchange ∈ before ++ after, RequestCall.KeepsBody exchange.call := by
      refine List.forall_mem_append.mpr ⟨fun exchange member => ?_, fun exchange member => ?_⟩
      · exact (leaves exchange member).keepsBody
      · exact RequestCall.keepsBody_of_writes _ (writesOnly exchange member)
    have writesEq : issuedWrites (before ++ after) = found := by
      have whole := issued []
      rw [List.append_nil, issuedWrites, List.append_nil] at whole
      rw [← whole]
      exact (handsOver_append (fun exchange member => (leaves exchange member).2) after).2
    have handedEq : handedOver (before ++ after) = found.map IssuedWrite.part := by
      rw [← writesEq]
      exact handedOver_of_noSend noSends
    have issuedEq : issuedWrites (⟨.addRequestHeaders ("Content-Length: " ++
        toString content.length ++ "\r\n"), (.ok () : Outcome)⟩ :: ⟨.listen, listener⟩ ::
        ⟨.sendRequest none 0 WINHTTP_IGNORE_REQUEST_TOTAL_LENGTH, (.ok () : Outcome)⟩ ::
        (before ++ after)) = found := writesEq
    constructor
    · exact announced listener (.ok ()) keeps
    · intro next ok
      cases written with
      | error error => cases ok
      | ok value =>
        apply deliveredBytes_of_abut
        have abut := pieces.covers rfl
        rw [← handedEq] at abut
        exact abut
    · intro next ok
      exact .asHeader [] (before ++ after) large noSends
    · intro small
      exact absurd small (not_le.mpr large)
    · rw [issuedEq]
      exact fun write member => ⟨pieces.narrow write member, pieces.within write member⟩
    · intro error failed
      rw [issuedEq]
      cases written with
      | error found => exact .inr (pieces.failed found rfl)
      | ok value => cases failed
    · rw [issuedEq]
      have bounded := pieces.bounded
      omega

/-- The exchanges before the send hand nothing over. -/
theorem DeliversBody.prepend {prepared : RequestTrace}
    {result : Except Error CertlessRedirectRetry}
    (delivers : DeliversBody base content trace result)
    (leaves : ∀ exchange ∈ prepared, RequestCall.LeavesBody exchange.call) :
    DeliversBody base content (prepared ++ trace) result := by
  obtain ⟨handed, issued⟩ :=
    handsOver_append (fun exchange member => (leaves exchange member).2) trace
  constructor
  · exact List.forall_mem_append.mpr
      ⟨fun exchange member => (leaves exchange member).keepsBody, delivers.keeps⟩
  · intro retry ok
    rw [deliveredBytes, handed]
    exact delivers.delivered retry ok
  · intro retry ok
    exact (delivers.declared retry ok).prepend fun exchange member =>
      RequestCall.not_isSend_of_quiet _ (leaves exchange member).2
  all_goals rw [issued]
  · exact delivers.inline
  · exact delivers.pieces
  · exact delivers.failed
  · exact delivers.bounded

theorem traces_sendBody {result : Except Error CertlessRedirectRetry}
    {retry : CertlessRedirectRetry} (notSafe : retry.replaySafe = false)
    (addressable : base + content.length ≤ usizeMax)
    (traces : AttemptTraces (sendBody parse url (keptBody base content) retry) trace result) :
    DeliversBody base content trace result := by
  rcases Nat.lt_or_ge u32Max content.length with large | fits
  · exact deliversBody_large large addressable traces
  · exact deliversBody_inline notSafe fits traces

/-- A request with a body is not safe to replay. -/
theorem new_notSafe (inMemory : parts.body = some { inner := .bytes content }) :
    (CertlessRedirectRetry.new parts.url parts.method parts.body).replaySafe = false := by
  rw [inMemory]
  exact Bool.and_false _

theorem transmitted_notSafe {retry : CertlessRedirectRetry}
    (inMemory : parts.body = some { inner := .bytes content })
    (traces : AttemptTraces (transmitRequest parse parts) trace (.ok retry)) :
    retry.replaySafe = false := by
  have yields : (transmitRequest parse parts).Yields fun next => next.replaySafe = false :=
    yields_after fun body => sendBody_yields_of_notReplaySafe (new_notSafe inMemory) body
  apply traces_yields yields traces

/-- The body is kept first, and what follows hands it over. -/
theorem traces_transmitRequest {result : Except Error CertlessRedirectRetry}
    (inMemory : parts.body = some { inner := .bytes content })
    (allocated : ∀ base : Nat, (⟨.storeSendBody content, base⟩ : Exchange requestInterface) ∈
      trace → base + content.length ≤ usizeMax)
    (traces : AttemptTraces (transmitRequest parse parts) trace result) :
    ∃ (base : Nat) (sent : RequestTrace), trace = ⟨.storeSendBody content, base⟩ :: sent ∧
      DeliversBody base content sent result := by
  have notSafe := new_notSafe inMemory
  rcases traces.of_bind with
    ⟨error, prepares, rfl⟩ | ⟨body, before, after, rfl, prepares, sends⟩
  · obtain ⟨base, rest, rfl, prepared, -⟩ := prepareRequest_keepsFirst inMemory _ _ prepares
    have leaves : ∀ exchange ∈ rest, RequestCall.LeavesBody exchange.call :=
      fun exchange member => RequestCall.leavesBody_of_prepares _ (prepared exchange member)
    refine ⟨base, rest, rfl, deliversBody_failed ?_ ?_⟩
    · exact fun exchange member => (leaves exchange member).keepsBody
    · exact (handedOver_of_quiet fun exchange member => (leaves exchange member).2).2
  · obtain ⟨base, rest, rfl, prepared, bodyEq⟩ :=
      prepareRequest_keepsFirst inMemory _ _ prepares
    obtain rfl := bodyEq body rfl
    have addressable := allocated base List.mem_cons_self
    refine ⟨base, rest ++ after, rfl, (traces_sendBody notSafe addressable sends).prepend ?_⟩
    exact fun exchange member => RequestCall.leavesBody_of_prepares _ (prepared exchange member)

/-- A request is sent with its body, and its response is received afterwards. -/
theorem traces_executeRequest {result : Except Error RawResponse}
    (traces : AttemptTraces (executeRequest parse parts) trace result) :
    (∃ error, AttemptTraces (transmitRequest parse parts) trace (.error error) ∧
        result = .error error) ∨
      ∃ retry sent received, trace = sent ++ received ∧
        AttemptTraces (transmitRequest parse parts) sent (.ok retry) ∧
        AttemptTraces (do receiveResponse parse parts.url retry; queryResponse parse parts.url)
          received result := by
  rcases traces.of_bind with
    ⟨error, prepares, rfl⟩ | ⟨body, before, after, rfl, prepares, continues⟩
  · exact .inl ⟨error, prepares.bind_error, rfl⟩
  · rcases continues.of_bind with
      ⟨error, sends, rfl⟩ | ⟨retry, sent, received, rfl, sends, receives⟩
    · exact .inl ⟨error, prepares.bind sends, rfl⟩
    · refine .inr ⟨retry, before ++ sent, received, ?_, prepares.bind sends, receives⟩
      rw [List.append_assoc]

end Send

section Run

def postParts : RequestParts :=
  { bareParts .none false with method := "POST", body := some { inner := .bytes [104, 105] } }

def postedHead : RequestTrace :=
  [⟨.storeSendBody [104, 105], (4096 : Nat)⟩, ⟨.connect "a" 80, (.ok () : Outcome)⟩,
    ⟨.openRequest "POST" "/" false, (.ok () : Outcome)⟩, ⟨.setContextValue, (.ok () : Outcome)⟩]

def postedSend : RequestTrace :=
  [⟨.listen, (0 : Nat)⟩, ⟨.sendRequest (some 4096) 2 2, (.ok () : Outcome)⟩,
    ⟨.poll 0, (.ok .complete : Except SignalCancelled CallbackEvent)⟩]

theorem postedHead_traces :
    AttemptTraces (prepareRequest postParts) postedHead (.ok (keptBody 4096 [104, 105])) := by
  exact .call _ (.call _ (.call _ (.call _ (.done _))))

theorem postedSend_traces (parse : String → Option Url) (retry : CertlessRedirectRetry) :
    AttemptTraces (sendBody parse postParts.url (keptBody 4096 [104, 105]) retry) postedSend
      (.ok retry) := by
  have sends : AttemptTraces (sendAndComplete postParts.url (some 4096) 2 2) postedSend
      (.ok ()) :=
    (await_trace postParts.url (.sendRequest (some 4096) 2 2) id rfl 0 .complete).bind (.done _)
  have examined : AttemptTraces (outcome (sendAndComplete postParts.url (some 4096) 2 2))
      postedSend (.ok (.ok ())) := Traces.bind sends (.done _)
  have fits : (keptBody 4096 [104, 105]).length ≤ largeBodyThreshold := by decide
  unfold sendBody
  split
  · next items streamed => cases streamed
  rw [if_pos fits]
  exact examined.bind (.done _)

theorem postedFailure_traces {parse : String → Option Url} {retry : CertlessRedirectRetry}
    (notSafe : retry.replaySafe = false) :
    AttemptTraces (receiveResponse parse postParts.url retry) (refusedReceive 1 12152)
      (.error ((Error.fromWin32 12152).withUrl postParts.url)) := by
  unfold receiveResponse
  refine (refusedReceive_traces postParts.url 1 12152).bind ?_
  simp only [onError_of_notReplaySafe notSafe]
  exact .done _

def postedTrace : RequestTrace :=
  postedHead ++ (postedSend ++ refusedReceive 1 12152)

theorem postedTrace_traces (parse : String → Option Url) :
    AttemptTraces (executeRequest parse postParts) postedTrace
      (.error ((Error.fromWin32 12152).withUrl postParts.url)) := by
  have notSafe : (CertlessRedirectRetry.new postParts.url postParts.method
      postParts.body).replaySafe = false := new_notSafe rfl
  refine postedHead_traces.bind ((postedSend_traces parse _).bind ?_)
  exact (postedFailure_traces notSafe).bind_error

def answeredReceive : RequestTrace :=
  [⟨.listen, (1 : Nat)⟩, ⟨.receiveResponse, (.ok () : Outcome)⟩,
    ⟨.poll 1, (.ok .complete : Except SignalCancelled CallbackEvent)⟩]

def readHead : RequestTrace :=
  [⟨.takeSendBody, ()⟩, ⟨.queryStatusCode, (.ok 204 : Except Nat Nat)⟩,
    ⟨.queryProtocolUsed, (none : Option Nat)⟩, ⟨.queryVersion, (none : Option String)⟩,
    ⟨.queryRawHeaders, (.ok "HTTP/1.1 204 No Content\r\n\r\n" : Except Nat String)⟩,
    ⟨.queryUrl, (none : Option String)⟩]

def postedAnswered : RequestTrace :=
  postedHead ++ (postedSend ++ (answeredReceive ++ readHead))

theorem answeredReceive_traces (parse : String → Option Url) (retry : CertlessRedirectRetry) :
    AttemptTraces (receiveResponse parse postParts.url retry) answeredReceive (.ok ()) := by
  have receives : AttemptTraces (receiveAndComplete postParts.url) answeredReceive (.ok ()) :=
    (await_trace postParts.url .receiveResponse id rfl 1 .complete).bind (.done _)
  have examined : AttemptTraces (outcome (receiveAndComplete postParts.url)) answeredReceive
      (.ok (.ok ())) := Traces.bind receives (.done _)
  unfold receiveResponse
  exact examined.bind (.done _)

theorem postedAnswered_traces (parse : String → Option Url) : ∃ response,
    AttemptTraces (executeRequest parse postParts) postedAnswered (.ok response) := by
  have reads : AttemptTraces (queryResponse parse postParts.url) readHead _ :=
    .call _ (.call _ (.call _ (.call _ (.call _ (.call _ (.done _))))))
  exact ⟨_, postedHead_traces.bind ((postedSend_traces parse _).bind
    ((answeredReceive_traces parse _).bind reads))⟩

/-- The body is stored at the start only. -/
theorem base_of_posted {rest : RequestTrace} {base : Nat}
    (member : (⟨.storeSendBody [104, 105], base⟩ : Exchange requestInterface) ∈
      postedHead ++ rest)
    (others : .storeSendBody [104, 105] ∉
      (postedHead.tail ++ rest).map fun exchange => (exchange.call : RequestCall)) :
    base = 4096 := by
  rcases List.mem_cons.mp member with same | later
  · cases same
    rfl
  · exact absurd (List.mem_map_of_mem later) others

end Run

end Wrest
