import Wrest.BodyReaders
import Wrest.InterfaceSums
import Wrest.StreamedBodies

/-!
# Responses as request bodies

A response can be the body of another request.  Its chunks are then read while the request
is being sent: each is written as a frame before the next one is read, and the response is
dropped when the send is over, at its end or at the first failure of either side.

The send uses two interfaces.  The response answers in any way, and WinHTTP takes the
frames as in `BodyTransfers`.
-/

namespace Wrest.Relay

open Interaction ResponseChunk Response

abbrev RelayProgram (α : Type) : Type :=
  Program (clientInterface.sum requestInterface) α

/-- The octets of a chunk.  A byte that was never written may have any value. -/
def octets (chunk : ChunkBytes) : List UInt8 :=
  chunk.map fun byte => byte.getD 0

def streamBodyError (url : Url) (error : Error) : Error :=
  (Error.request (.context "stream body error" error.asSource)).withUrl url

/-- The drop of the stream, with the response that it may still hold. -/
def dropStream : BytesStream → ClientProgram Unit
  | .value (some response) => response.drop
  | .value none | .finished => pure ()

/-- The loop over the stream, which drops it.  `none` says that it has not ended by the
given number of polls. -/
def pipeStream (url : Url) : Nat → BytesStream → RelayProgram (Option (Except Error Unit))
  | 0, _ => pure none
  | limit + 1, stream => do
    let (poll, next) ← stream.pollNext.onLeft
    match poll with
    | .ended => pure (some (.ok ()))
    | .panicked => pure none
    | .item (.error error) => do
      (dropStream next).onLeft
      pure (some (.error (streamBodyError url error)))
    | .item (.ok bytes) =>
      if (octets bytes).isEmpty then
        pipeStream url limit next
      else do
        let written : Except Error Unit ← (storeAndWrite url (chunkFrame (octets bytes))).onRight
        match written with
        | .ok () => pipeStream url limit next
        | .error error => do
          (dropStream next).onLeft
          pure (some (.error error))

/-- What is sent before the stream is read. -/
def sendHeaders (url : Url) : RequestStep Unit := do
  addRequestHeader url "Transfer-Encoding: chunked\r\n"
  sendAndComplete url none 0 WINHTTP_IGNORE_REQUEST_TOTAL_LENGTH

/-- The send of a request whose body is the stream of a response. -/
def sendPiped (url : Url) (limit : Nat) (stream : BytesStream) :
    RelayProgram (Option (Except Error Unit)) := do
  let sent : Except Error Unit ← (sendHeaders url).onRight
  match sent with
  | .error error => do
    (dropStream stream).onLeft
    pure (some (.error error))
  | .ok () => do
    match ← pipeStream url limit stream with
    | some (.ok ()) => do
      let ended : Except Error Unit ← (storeAndWrite url (asciiBytes "0\r\n\r\n")).onRight
      pure (some ended)
    | stopped => pure stopped

/-- What was read of the response before it was dropped.  There is no ending when the
response was dropped between two reads. -/
inductive Consumes : Response → ClientTrace → List ChunkBytes →
    Option (Except Error Unit) → Prop
  | dropped {response : Response} {trace : ClientTrace}
      (drops : Traces response.drop trace ()) : Consumes response trace [] none
  | read {response : Response} {trace : ClientTrace} {ending : Except Error Unit}
      (reads : ReadsTo response trace [] ending) : Consumes response trace [] (some ending)
  | data {response next : Response} {before after : ClientTrace} {bytes : ChunkBytes}
      {chunks : List ChunkBytes} {ending : Option (Except Error Unit)}
      (returns : Traces response.chunk before (.ok (some bytes), next))
      (rest : Consumes next after chunks ending) :
      Consumes response (before ++ after) (bytes :: chunks) ending

/-- The items that the request has been offered.  What a dropped stream would have yielded
further was not asked for. -/
def itemsOf (chunks : List ChunkBytes) (ending : Option (Except Error Unit)) :
    List (Except ErrorSource (List UInt8)) :=
  chunks.map (fun chunk => .ok (octets chunk)) ++
    match ending with
    | some (.ok ()) => []
    | some (.error error) => [.error error.asSource]
    | none => [.error (.message "")]

section Polls

variable {response : Response} {trace : ClientTrace}

/-- What a poll of a stream that holds a response comes to. -/
inductive Polled (response : Response) (trace : ClientTrace) :
    StreamPoll × BytesStream → Prop
  | data (bytes : ChunkBytes) (next : Response)
      (returns : Traces response.chunk trace (.ok (some bytes), next)) :
      Polled response trace (.item (.ok bytes), .value (some next))
  | failed (error : Error) (reads : ReadsTo response trace [] (.error error)) :
      Polled response trace (.item (.error error), .value none)
  | ended (reads : ReadsTo response trace [] (.ok ())) :
      Polled response trace (.ended, .finished)

theorem polled_of_traces {polled : StreamPoll × BytesStream}
    (traces : Traces (bytesStream response).pollNext trace polled) :
    Polled response trace polled := by
  obtain ⟨⟨result, next⟩, before, after, rfl, returns, rest⟩ := Traces.of_bind traces
  rcases result with error | (_ | bytes)
  · obtain ⟨_, dropped, behind, rfl, drops, ends⟩ := Traces.of_bind rest
    obtain ⟨rfl, rfl⟩ := traces_pure.mp ends
    rw [List.append_nil]
    exact .failed error (.failed returns drops)
  · obtain ⟨_, dropped, behind, rfl, drops, ends⟩ := Traces.of_bind rest
    obtain ⟨rfl, rfl⟩ := traces_pure.mp ends
    rw [List.append_nil]
    exact .ended (.ended returns drops)
  · obtain ⟨rfl, rfl⟩ := traces_pure.mp rest
    rw [List.append_nil]
    exact .data bytes next returns

end Polls

section Splits

variable {url : Url} {response : Response} {world next : BodyWorld}
  {history extended : ClientTrace}

/-- Both sides of a loop over the stream: what was read, and what was done to WinHTTP with
the items read so far. -/
structure Piped (url : Url) (response : Response) (left : ClientTrace)
    (right : List (Exchange requestInterface)) (result : Except Error Unit)
    (chunks : List ChunkBytes) (ending : Option (Except Error Unit)) : Prop where
  consumes : Consumes response left chunks ending
  writes : AttemptTraces (writeStream url (itemsOf chunks ending)) right result
  dropped : ending = none → ∃ error, result = .error error
  failed : ∀ error, ending = some (.error error) → result = .error (streamBodyError url error)
  ended : ending = some (.ok ()) → result = .ok ()

/-- A chunk in front of what is piped. -/
theorem Piped.cons_empty {before after : ClientTrace} {right : List (Exchange requestInterface)}
    {result : Except Error Unit} {chunks : List ChunkBytes}
    {ending : Option (Except Error Unit)} {bytes : ChunkBytes} {later : Response}
    (returns : Traces response.chunk before (.ok (some bytes), later))
    (empty : (octets bytes).isEmpty = true)
    (rest : Piped url later after right result chunks ending) :
    Piped url response (before ++ after) right result (bytes :: chunks) ending where
  consumes := .data returns rest.consumes
  writes := by
    have skips : writeStream url (itemsOf (bytes :: chunks) ending) =
        writeStream url (itemsOf chunks ending) := if_pos empty
    rw [skips]
    exact rest.writes
  dropped := rest.dropped
  failed := rest.failed
  ended := rest.ended

theorem Piped.cons_written {before after : ClientTrace}
    {first right : List (Exchange requestInterface)}
    {result : Except Error Unit} {chunks : List ChunkBytes}
    {ending : Option (Except Error Unit)} {bytes : ChunkBytes} {later : Response}
    (returns : Traces response.chunk before (.ok (some bytes), later))
    (some : (octets bytes).isEmpty ≠ true)
    (written : AttemptTraces (storeAndWrite url (chunkFrame (octets bytes))) first (.ok ()))
    (rest : Piped url later after right result chunks ending) :
    Piped url response (before ++ after) (first ++ right) result (bytes :: chunks) ending where
  consumes := .data returns rest.consumes
  writes := by
    have frames : writeStream url (itemsOf (bytes :: chunks) ending) = (do
        storeAndWrite url (chunkFrame (octets bytes))
        writeStream url (itemsOf chunks ending)) := if_neg some
    rw [frames]
    exact written.bind rest.writes
  dropped := rest.dropped
  failed := rest.failed
  ended := rest.ended

/-- The write of a frame fails, and the response is dropped. -/
theorem Piped.of_failure {before after : ClientTrace}
    {right : List (Exchange requestInterface)} {error : Error} {bytes : ChunkBytes}
    {later : Response} (returns : Traces response.chunk before (.ok (some bytes), later))
    (some : (octets bytes).isEmpty ≠ true)
    (written : AttemptTraces (storeAndWrite url (chunkFrame (octets bytes))) right
      (.error error))
    (drops : Traces later.drop after ()) :
    Piped url response (before ++ after) right (.error error) [bytes] none where
  consumes := .data returns (.dropped drops)
  writes := by
    have frames : writeStream url (itemsOf [bytes] none) = (do
        storeAndWrite url (chunkFrame (octets bytes))
        writeStream url (itemsOf [] none)) := if_neg some
    rw [frames]
    exact written.bind_error
  dropped _ := ⟨error, rfl⟩
  failed := by rintro _ ⟨⟩
  ended := by rintro ⟨⟩

theorem pipeStream_splits {limit : Nat} {result : Except Error Unit}
    (runs : Runs (bodyTransfer.beside clientInterface)
      (pipeStream url limit (bytesStream response)) (history, world) (some result)
      (extended, next)) :
    ∃ left right chunks ending, extended = history ++ left ∧
      Exchanges bodyTransfer world right next ∧
        Piped url response left right result chunks ending := by
  induction limit generalizing response history world with
  | zero =>
    obtain ⟨impossible, -⟩ := Runs.of_pure runs
    cases impossible
  | succ limit ih =>
    obtain ⟨⟨poll, stream⟩, ⟨middle, current⟩, polls, rest⟩ := runs.of_bind
    obtain ⟨before, pollTraces, rfl, drifts⟩ := polls.of_onLeft
    cases polled_of_traces pollTraces with
    | ended reads =>
      obtain ⟨same, rfl, settles⟩ := Runs.of_pure rest
      cases same
      exact ⟨before, [], [], some (.ok ()), rfl, drifts.append settles,
        .read reads, .done _, by rintro ⟨⟩, by rintro _ ⟨⟩, fun _ => rfl⟩
    | failed error reads =>
      obtain ⟨_, ⟨later, settled⟩, drops, ends⟩ := Runs.of_bind rest
      obtain ⟨dropped, dropTraces, rfl, settling⟩ := drops.of_onLeft
      obtain ⟨rfl, -⟩ := traces_pure.mp dropTraces
      obtain ⟨same, rfl, settles⟩ := Runs.of_pure ends
      cases same
      refine ⟨before, [], [], some (.error error), List.append_nil _,
        drifts.append (settling.append settles), .read reads, .done _, by rintro ⟨⟩, ?_,
        by rintro ⟨⟩⟩
      rintro _ ⟨⟩
      rfl
    | data bytes later returns =>
      by_cases empty : (octets bytes).isEmpty = true
      · simp only [if_pos empty] at rest
        obtain ⟨after, right, chunks, ending, historyEq, exchanges, piped⟩ := ih rest
        refine ⟨before ++ after, right, bytes :: chunks, ending, ?_, drifts.append exchanges,
          .cons_empty returns empty piped⟩
        rw [historyEq, List.append_assoc]
      · simp only [if_neg empty] at rest
        obtain ⟨written, ⟨kept, sent⟩, writes, rest⟩ := Runs.of_bind rest
        obtain ⟨first, writeTraces, rfl, writing⟩ := writes.of_onRight
        cases written with
        | ok value =>
          obtain ⟨after, right, chunks, ending, historyEq, exchanges, piped⟩ := ih rest
          refine ⟨before ++ after, first ++ right, bytes :: chunks, ending, ?_,
            drifts.append (writing.append exchanges), .cons_written returns empty writeTraces piped⟩
          rw [historyEq, List.append_assoc]
        | error error =>
          obtain ⟨_, ⟨released, settled⟩, drops, ends⟩ := Runs.of_bind rest
          obtain ⟨after, dropTraces, rfl, settling⟩ := drops.of_onLeft
          obtain ⟨same, rfl, settles⟩ := Runs.of_pure ends
          cases same
          refine ⟨before ++ after, first, [bytes], none, List.append_assoc _ _ _, ?_,
            .of_failure returns empty writeTraces dropTraces⟩
          have whole := drifts.append (writing.append (settling.append settles))
          simpa only [List.nil_append, List.append_nil] using whole

end Splits

section Releases

variable {response : Response} {trace : ClientTrace}

def isClose (exchange : Exchange clientInterface) : Bool :=
  match exchange.call with
  | .close => true
  | _ => false

theorem countP_isClose_of_makes {α : Type} {program : ClientProgram α} {result : α}
    (makes : program.Makes fun call => call ≠ ClientCall.close)
    (traces : Traces program trace result) : trace.countP isClose = 0 := by
  apply List.countP_eq_zero.mpr
  intro exchange member closes
  obtain ⟨call, reply⟩ := exchange
  cases call with
  | close => exact traces.makes makes _ member rfl
  | _ => cases closes

theorem readUntil_makes (url : Url) (deadline : Option Nat) :
    (readUntil url deadline).Makes fun call => call ≠ ClientCall.close := by
  cases deadline with
  | none => exact ⟨nofun, fun _ => trivial⟩
  | some deadline =>
    refine ⟨nofun, fun now => ?_⟩
    simp only [Program.bind]
    split
    · trivial
    · refine ⟨nofun, fun reply => ?_⟩
      rcases reply with _ | completion <;> trivial

theorem takeRaw_closes {released : Response} (takes : Traces response.takeRaw trace released) :
    trace.countP isClose + released.raw.isSome.toNat = response.raw.isSome.toNat := by
  have taken : released.raw = none := by rw [takes.returns takeRaw_returns]
  rw [taken]
  unfold takeRaw at takes
  cases rawEq : response.raw with
  | none =>
    rw [rawEq] at takes
    obtain ⟨rfl, -⟩ := traces_pure.mp takes
    rfl
  | some raw =>
    rw [rawEq] at takes
    obtain ⟨reply, rest, rfl, ends⟩ := traces_call.mp takes
    obtain ⟨rfl, -⟩ := traces_pure.mp ends
    rfl

/-- A call of `chunk` closes the handle exactly if it does not leave it open. -/
theorem chunk_closes {result : ChunkResult} {next : Response}
    (returns : Traces response.chunk trace (result, next)) :
    trace.countP isClose + next.raw.isSome.toNat = response.raw.isSome.toNat := by
  unfold chunk at returns
  cases rawEq : response.raw with
  | none =>
    rw [rawEq] at returns
    obtain ⟨rfl, same⟩ := traces_pure.mp returns
    cases same
    rw [rawEq]
    rfl
  | some raw =>
    rw [rawEq] at returns
    obtain ⟨read, before, after, rfl, reads, settles⟩ := Traces.of_bind returns
    rw [List.countP_append, countP_isClose_of_makes (readUntil_makes _ _) reads, Nat.zero_add]
    have releases : ∀ {released}, Traces response.takeRaw after released →
        after.countP isClose + released.raw.isSome.toNat = 1 := by
      intro released takes
      rw [takeRaw_closes takes, rawEq]
      rfl
    rcases read with _ | (error | (_ | bytes))
    · obtain ⟨released, closes, behind, rfl, takes, ends⟩ := Traces.of_bind settles
      obtain ⟨rfl, same⟩ := traces_pure.mp ends
      cases same
      rw [List.append_nil] at releases ⊢
      exact releases takes
    · obtain ⟨rfl, same⟩ := traces_pure.mp settles
      cases same
      rw [rawEq]
      rfl
    · obtain ⟨released, closes, behind, rfl, takes, ends⟩ := Traces.of_bind settles
      obtain ⟨rfl, same⟩ := traces_pure.mp ends
      cases same
      rw [List.append_nil] at releases ⊢
      exact releases takes
    · obtain ⟨rfl, same⟩ := traces_pure.mp settles
      cases same
      rw [rawEq]
      rfl

theorem drop_closes (drops : Traces response.drop trace ()) :
    trace.countP isClose = response.raw.isSome.toNat := by
  obtain ⟨released, takes, taken⟩ := takeRaw_of_drop drops
  have closes := takeRaw_closes takes
  rwa [taken] at closes

/-- However the response was consumed, its handle was closed once, if it was open. -/
theorem Consumes.closes {chunks : List ChunkBytes} {ending : Option (Except Error Unit)}
    (consumes : Consumes response trace chunks ending) :
    trace.countP isClose = response.raw.isSome.toNat := by
  induction consumes with
  | dropped drops => exact drop_closes drops
  | read reads =>
    cases reads with
    | ended returns drops =>
      rw [List.countP_append, drop_closes drops]
      exact chunk_closes returns
    | failed returns drops =>
      rw [List.countP_append, drop_closes drops]
      exact chunk_closes returns
  | data returns rest ih =>
    rw [List.countP_append, ih]
    exact chunk_closes returns

end Releases

section Sizes

variable {response : Response} {trace : ClientTrace}

/-- A completed read was given a buffer of the size that `chunk` allocates. -/
def ReadBounded (exchange : Exchange clientInterface) : Prop :=
  match exchange with
  | { call := .read, reply := .completed _ (some buffer) _ } =>
    buffer.capacity ≤ READ_BUF_SIZE
  | { call := .readWithin _, reply := some (.completed _ (some buffer) _) } =>
    buffer.capacity ≤ READ_BUF_SIZE
  | _ => True

theorem readChunk_length {url : Url} {completion : ReadCompletion} {bytes : ChunkBytes}
    (bounded : ∀ event buffer memory, completion = .completed event (some buffer) memory →
      buffer.capacity ≤ READ_BUF_SIZE)
    (reads : readChunk url completion = .ok (some bytes)) :
    bytes.length ≤ READ_BUF_SIZE := by
  rcases completion with code | ⟨⟨⟨⟩⟩ | event, buffer, memory⟩
  · cases reads
  · cases reads
  · simp only [readChunk] at reads
    cases counted : event.intoReadComplete url with
    | error error =>
      rw [counted] at reads
      cases reads
    | ok read =>
      simp only [counted] at reads
      split at reads
      · cases reads
      · cases buffer with
        | none => cases reads
        | some buffer =>
          have capacity := bounded _ buffer memory rfl
          simp only [freezeBuffer] at reads
          split at reads
          · cases reads
          · cases reads
            simp only [List.length_map, List.length_range]
            omega

theorem readUntil_length {url : Url} {deadline : Option Nat} {bytes : ChunkBytes}
    (bounded : ∀ exchange ∈ trace, ReadBounded exchange)
    (reads : Traces (readUntil url deadline) trace (some (.ok (some bytes)))) :
    bytes.length ≤ READ_BUF_SIZE := by
  cases deadline with
  | none =>
    obtain ⟨completion, rest, rfl, ends⟩ := traces_call.mp reads
    obtain ⟨-, same⟩ := traces_pure.mp ends
    refine readChunk_length ?_ (Option.some.inj same).symm
    rintro event buffer memory rfl
    exact bounded _ List.mem_cons_self
  | some deadline =>
    obtain ⟨now, rest, rfl, remains⟩ := traces_call.mp reads
    simp only [Program.bind] at remains
    split at remains
    · obtain ⟨-, impossible⟩ := traces_pure.mp remains
      cases impossible
    · obtain ⟨reply, behind, rfl, ends⟩ := traces_call.mp remains
      rcases reply with _ | completion
      · obtain ⟨-, impossible⟩ := traces_pure.mp ends
        cases impossible
      · obtain ⟨-, same⟩ := traces_pure.mp ends
        refine readChunk_length ?_ (Option.some.inj same).symm
        rintro event buffer memory rfl
        exact bounded _ (List.mem_cons_of_mem _ List.mem_cons_self)

theorem chunk_length {bytes : ChunkBytes} {next : Response}
    (bounded : ∀ exchange ∈ trace, ReadBounded exchange)
    (returns : Traces response.chunk trace (.ok (some bytes), next)) :
    bytes.length ≤ READ_BUF_SIZE := by
  unfold chunk at returns
  cases rawEq : response.raw with
  | none =>
    rw [rawEq] at returns
    obtain ⟨-, same⟩ := traces_pure.mp returns
    cases same
  | some raw =>
    rw [rawEq] at returns
    obtain ⟨read, before, after, rfl, reads, settles⟩ := Traces.of_bind returns
    rcases read with _ | (error | (_ | found))
    · obtain ⟨released, closes, behind, rfl, takes, ends⟩ := Traces.of_bind settles
      obtain ⟨-, same⟩ := traces_pure.mp ends
      cases same
    · obtain ⟨-, same⟩ := traces_pure.mp settles
      cases same
    · obtain ⟨released, closes, behind, rfl, takes, ends⟩ := Traces.of_bind settles
      obtain ⟨-, same⟩ := traces_pure.mp ends
      cases same
    · obtain ⟨-, same⟩ := traces_pure.mp settles
      cases same
      exact readUntil_length (fun exchange member =>
        bounded exchange (List.mem_append_left _ member)) reads

theorem Consumes.lengths {chunks : List ChunkBytes} {ending : Option (Except Error Unit)}
    (consumes : Consumes response trace chunks ending)
    (bounded : ∀ exchange ∈ trace, ReadBounded exchange) :
    ∀ chunk ∈ chunks, chunk.length ≤ READ_BUF_SIZE := by
  induction consumes with
  | dropped drops => nofun
  | read reads => nofun
  | data returns rest ih =>
    intro chunk member
    rcases List.mem_cons.mp member with rfl | later
    · exact chunk_length (fun exchange here =>
        bounded exchange (List.mem_append_left _ here)) returns
    · exact ih (fun exchange here => bounded exchange (List.mem_append_right _ here)) chunk
        later

/-- The frame of a chunk that was read fits in one write. -/
theorem chunkFrame_length {chunk : List UInt8} (short : chunk.length ≤ READ_BUF_SIZE) :
    (chunkFrame chunk).length ≤ u32Max := by
  have digits : (Nat.toDigits 16 chunk.length).length ≤ 4 :=
    (Nat.length_toDigits_le_iff (by decide) (by decide)).mpr (short.trans_lt (by decide))
  have bound : READ_BUF_SIZE + 8 ≤ u32Max := by decide
  simp only [StreamedBody.chunkFrame_eq, ChunkedCoding.encodeChunk, ChunkedCoding.hexOctets,
    ChunkedCoding.lineEnd, List.length_append, List.length_map, List.length_cons,
    List.length_nil]
  omega

end Sizes

section Relays

variable {url : Url} {response : Response} {history : ClientTrace} {last : BodyWorld}

theorem mem_itemsOf {chunks : List ChunkBytes} {ending : Option (Except Error Unit)}
    {chunk : List UInt8} (member : .ok chunk ∈ itemsOf chunks ending) :
    ∃ bytes ∈ chunks, chunk = octets bytes := by
  rcases List.mem_append.mp member with isChunk | isEnding
  · obtain ⟨bytes, there, same⟩ := List.mem_map.mp isChunk
    exact ⟨bytes, there, (Except.ok.inj same).symm⟩
  · rcases ending with _ | (error | ⟨⟩) <;> simp at isEnding

/-- The traces of a streaming send, from those of its parts. -/
theorem sendBody_of_headers_error (parse : String → Option Url) (retry : CertlessRedirectRetry)
    {items : List (Except ErrorSource (List UInt8))} {body : PreparedBody}
    (streamed : body.stream = some items) {trace : List (Exchange requestInterface)}
    {error : Error} (sent : AttemptTraces (sendHeaders url) trace (.error error)) :
    AttemptTraces (sendBody parse url body retry) trace (.error error) := by
  unfold sendBody
  rw [streamed]
  rcases AttemptTraces.of_bind sent with
    ⟨failure, adds, same⟩ | ⟨value, before, after, rfl, adds, sends⟩
  · cases same
    exact adds.bind_error
  · exact adds.bind sends.bind_error

theorem sendBody_of_writes (parse : String → Option Url) (retry : CertlessRedirectRetry)
    {items : List (Except ErrorSource (List UInt8))} {body : PreparedBody}
    (streamed : body.stream = some items)
    {first second : List (Exchange requestInterface)} {result : Except Error CertlessRedirectRetry}
    (sent : AttemptTraces (sendHeaders url) first (.ok ()))
    (writes : AttemptTraces (do
      writeStream url items
      storeAndWrite url (asciiBytes "0\r\n\r\n")
      pure retry) second result) :
    AttemptTraces (sendBody parse url body retry) (first ++ second) result := by
  unfold sendBody
  rw [streamed]
  rcases AttemptTraces.of_bind sent with
    ⟨failure, adds, impossible⟩ | ⟨value, before, after, rfl, adds, sends⟩
  · cases impossible
  · rw [List.append_assoc]
    exact adds.bind (sends.bind writes)

/-- A piped send, as a send of the items that were read. -/
theorem sendPiped_splits (parse : String → Option Url) (retry : CertlessRedirectRetry)
    {limit : Nat} {result : Except Error Unit}
    (runs : Runs (bodyTransfer.beside clientInterface)
      (sendPiped url limit (bytesStream response)) ([], .initial) (some result)
      (history, last)) :
    ∃ chunks ending, Consumes response history chunks ending ∧
      Runs bodyTransfer (sendBody parse url
        { pointer := 0, length := 0, hasBytes := false,
          stream := some (itemsOf chunks ending) } retry) .initial
        (result.map fun _ => retry) last ∧
      (ending ≠ some (.ok ()) → ∃ error, result = .error error) ∧
      ∀ error, ending = some (.error error) → result = .error (streamBodyError url error) := by
  obtain ⟨sent, ⟨kept, current⟩, sends, rest⟩ := runs.of_bind
  obtain ⟨first, sendTraces, rfl, sending⟩ := sends.of_onRight
  cases sent with
  | error error =>
    obtain ⟨_, ⟨dropped, settled⟩, drops, ends⟩ := Runs.of_bind rest
    obtain ⟨left, dropTraces, rfl, settling⟩ := drops.of_onLeft
    obtain ⟨same, rfl, settles⟩ := Runs.of_pure ends
    cases same
    refine ⟨[], none, .dropped dropTraces, runs_iff_exists_trace.mpr ⟨first, ?_, ?_⟩,
      fun _ => ⟨error, rfl⟩, by rintro _ ⟨⟩⟩
    · exact sendBody_of_headers_error parse retry rfl sendTraces
    · have whole := sending.append (settling.append settles)
      simpa only [List.append_nil] using whole
  | ok value =>
    obtain ⟨piped, ⟨read, middle⟩, pipes, rest⟩ := Runs.of_bind rest
    rcases piped with _ | piped
    · obtain ⟨impossible, -⟩ := Runs.of_pure rest
      cases impossible
    obtain ⟨left, right, chunks, ending, rfl, writing, splits⟩ := pipeStream_splits pipes
    cases piped with
    | error error =>
      obtain ⟨same, rfl, settles⟩ := Runs.of_pure rest
      cases same
      refine ⟨chunks, ending, splits.consumes, runs_iff_exists_trace.mpr
        ⟨first ++ right, ?_, ?_⟩, fun _ => ⟨error, rfl⟩, splits.failed⟩
      · exact sendBody_of_writes parse retry rfl sendTraces splits.writes.bind_error
      · have whole := sending.append (writing.append settles)
        simpa only [List.append_nil] using whole
    | ok value =>
      have isEnded : ending = some (.ok ()) := by
        rcases ending with _ | (error | ⟨⟩)
        · obtain ⟨error, impossible⟩ := splits.dropped rfl
          cases impossible
        · cases splits.failed error rfl
        · rfl
      obtain ⟨ended, ⟨kept, closed⟩, terminates, ends⟩ := Runs.of_bind rest
      obtain ⟨behind, endTraces, rfl, closing⟩ := terminates.of_onRight
      obtain ⟨same, rfl, settles⟩ := Runs.of_pure ends
      cases same
      refine ⟨chunks, ending, splits.consumes, runs_iff_exists_trace.mpr
        ⟨first ++ (right ++ behind), ?_, ?_⟩, fun other => absurd isEnded other, ?_⟩
      · refine sendBody_of_writes parse retry rfl sendTraces (splits.writes.bind ?_)
        cases result with
        | ok value =>
          have returned : AttemptTraces (do
              storeAndWrite url (asciiBytes "0\r\n\r\n")
              pure retry) (behind ++ []) (.ok retry) := endTraces.bind (.done _)
          rwa [List.append_nil] at returned
        | error error => exact AttemptTraces.bind_error endTraces
      · have whole := sending.append (writing.append (closing.append settles))
        simpa only [List.append_nil] using whole
      · rintro error rfl
        cases isEnded

/-- What a piped send has relayed when it ends. -/
structure Relayed (url : Url) (chunks : List ChunkBytes)
    (ending : Option (Except Error Unit)) (result : Except Error Unit)
    (last : BodyWorld) : Prop where
  complete : result = .ok () → ending = some (.ok ()) ∧
    ∃ parts, ChunkedCoding.decode last.accepted = some (parts, []) ∧
      parts.flatten = (chunks.map octets).flatten
  cut : ending ≠ some (.ok ()) →
    (∃ error, result = .error error) ∧ ChunkedCoding.decode last.accepted = none
  failed : ∀ error, ending = some (.error error) →
    result = .error (streamBodyError url error)

theorem itemsOf_ended (chunks : List ChunkBytes) :
    itemsOf chunks (some (.ok ())) = (chunks.map octets).map Except.ok := by
  simp [itemsOf, Function.comp_def]

theorem error_mem_itemsOf {chunks : List ChunkBytes} {ending : Option (Except Error Unit)}
    (other : ending ≠ some (.ok ())) : ∃ source, .error source ∈ itemsOf chunks ending := by
  rcases ending with _ | (error | ⟨⟩)
  · exact ⟨_, List.mem_append_right _ List.mem_cons_self⟩
  · exact ⟨_, List.mem_append_right _ List.mem_cons_self⟩
  · exact absurd rfl other

/-- A request whose body is a response succeeds only if the response was read to its end,
and has then sent one message with the content of the response.  If the response fails, or
is dropped since the request fails, what was sent is no complete message, and a failure of
the response is the error of the request.  In every run the handle of the response is
closed once. -/
theorem sendPiped_relays (url : Url) (limit : Nat) (response : Response)
    (result : Except Error Unit) (history : ClientTrace) (last : BodyWorld)
    (runs : Runs (bodyTransfer.beside clientInterface)
      (sendPiped url limit (bytesStream response)) ([], .initial) (some result)
      (history, last))
    (bounded : ∀ exchange ∈ history, ReadBounded exchange) :
    ∃ chunks ending, Consumes response history chunks ending ∧
      Relayed url chunks ending result last ∧
        history.countP isClose = response.raw.isSome.toNat := by
  obtain ⟨chunks, ending, consumes, sends, unended, failed⟩ :=
    sendPiped_splits (fun _ => none) ⟨false, false⟩ runs
  have fit : ∀ chunk, .ok chunk ∈ itemsOf chunks ending →
      (chunkFrame chunk).length ≤ u32Max := by
    intro chunk member
    obtain ⟨bytes, there, rfl⟩ := mem_itemsOf member
    apply chunkFrame_length
    rw [octets, List.length_map]
    exact consumes.lengths bounded bytes there
  have message : StreamedBody.SendsMessage (itemsOf chunks ending)
      (result.map fun _ => ⟨false, false⟩) last := by
    have ends := StreamedBody.sendBody_triple (fun _ => none) ⟨false, false⟩ rfl fit .initial
      ⟨rfl, rfl, rfl, le_rfl⟩ _ last sends
    cases result with
    | ok value => exact StreamedBody.sendsMessage_ok ends.1 ends.2
    | error error => exact StreamedBody.sendsMessage_error ends
  refine ⟨chunks, ending, consumes, ⟨?_, ?_, failed⟩, consumes.closes⟩
  · rintro rfl
    have isEnded : ending = some (.ok ()) := by
      by_contra other
      obtain ⟨error, impossible⟩ := unended other
      cases impossible
    subst isEnded
    obtain ⟨contents, parts, itemsEq, decoded, -, flattened⟩ := message.message _ rfl
    rw [itemsOf_ended] at itemsEq
    have same := List.map_injective_iff.mpr (fun _ _ => Except.ok.inj) itemsEq
    exact ⟨rfl, parts, decoded, by rw [flattened, same]⟩
  · intro other
    exact ⟨unended other, (message.unterminated (.inl (error_mem_itemsOf other))).2.2⟩

end Relays

section Example

open StreamedBody

/-- A response of three octets, which are read in two parts. -/
def wholeReads : ClientTrace :=
  [⟨.read, zerosRead 2⟩, ⟨.read, zerosRead 1⟩, ⟨.read, zerosRead 0⟩, ⟨.close, ()⟩]

/-- The second read of the response fails. -/
def cutReads : ClientTrace :=
  [⟨.read, zerosRead 2⟩, ⟨.read, ReadCompletion.refused 12030⟩, ⟨.close, ()⟩]

/-- The frame of the first part, in two writes. -/
def partRelayed : BodyWorld :=
  headersSent.acceptsStored 8 (chunkFrame [0, 0]) [3, 4]

def bothRelayed : BodyWorld :=
  partRelayed.acceptsStored 16 (chunkFrame [0]) [6]

def wholeRelayed : BodyWorld :=
  bothRelayed.acceptsStored 8 terminator [5]

def refusedRead : Error :=
  (Error.fromWin32 12030).withUrl (bareUrl true)

theorem sendHeaders_sent :
    Runs bodyTransfer (α := Except Error Unit) (sendHeaders (bareUrl false)) .initial (.ok ())
      headersSent :=
  (addFraming_runs _).bind (sendHeaders_runs _)

theorem partRelayed_runs :
    Runs bodyTransfer (α := Except Error Unit)
      (storeAndWrite (bareUrl false) (chunkFrame [0, 0])) headersSent (.ok ()) partRelayed :=
  storeAndWrite_runs headersSent (bareUrl false) (by decide)
    (by decide : 8 + (chunkFrame [0, 0]).length ≤ usizeMax)
    (by decide : ∀ count ∈ [3, 4], 0 < count) (by decide)

theorem wholeReads_runs :
    Runs (bodyTransfer.beside clientInterface)
      (sendPiped (bareUrl false) 3 (bytesStream (openResponse none))) ([], .initial)
      (some (.ok ())) (wholeReads, wholeRelayed) := by
  have second : Runs bodyTransfer (α := Except Error Unit)
      (storeAndWrite (bareUrl false) (chunkFrame [0])) partRelayed (.ok ()) bothRelayed :=
    storeAndWrite_runs partRelayed (bareUrl false) (by decide)
      (by decide : 16 + (chunkFrame [0]).length ≤ usizeMax)
      (by decide : ∀ count ∈ [6], 0 < count) (by decide)
  have last : Runs bodyTransfer (α := Except Error Unit)
      (storeAndWrite (bareUrl false) terminator) bothRelayed (.ok ()) wholeRelayed :=
    storeAndWrite_runs bothRelayed (bareUrl false) (by decide)
      (by decide : 8 + terminator.length ≤ usizeMax)
      (by decide : ∀ count ∈ [5], 0 < count) (by decide)
  have polled (length : Nat) (data : length = 1 ∨ length = 2) :
      Traces (bytesStream (openResponse none)).pollNext [⟨.read, zerosRead length⟩]
        (.item (.ok (zerosChunk length)), bytesStream (openResponse none)) := by
    rcases data with rfl | rfl <;> exact .call _ (.done _)
  have ended : Traces (bytesStream (openResponse none)).pollNext
      [⟨.read, zerosRead 0⟩, ⟨.close, ()⟩] (.ended, .finished) := .call _ (.call _ (.done _))
  have rest : Runs (bodyTransfer.beside clientInterface)
      (pipeStream (bareUrl false) 1 (bytesStream (openResponse none)))
      (wholeReads.take 2, bothRelayed) (some (.ok ())) (wholeReads, bothRelayed) :=
    (Runs.onLeft ended _ _).bind (.done _ _)
  have middle : Runs (bodyTransfer.beside clientInterface)
      (pipeStream (bareUrl false) 2 (bytesStream (openResponse none)))
      (wholeReads.take 1, partRelayed) (some (.ok ())) (wholeReads, bothRelayed) :=
    (Runs.onLeft (polled 1 (.inl rfl)) _ _).bind ((second.onRight _).bind rest)
  have piped : Runs (bodyTransfer.beside clientInterface)
      (pipeStream (bareUrl false) 3 (bytesStream (openResponse none))) ([], headersSent)
      (some (.ok ())) (wholeReads, bothRelayed) :=
    (Runs.onLeft (polled 2 (.inr rfl)) _ _).bind ((partRelayed_runs.onRight _).bind middle)
  exact (sendHeaders_sent.onRight []).bind
    (piped.bind ((last.onRight wholeReads).bind (.done _ _)))

theorem cutReads_runs :
    Runs (bodyTransfer.beside clientInterface)
      (sendPiped (bareUrl false) 3 (bytesStream (openResponse none))) ([], .initial)
      (some (.error (streamBodyError (bareUrl false) refusedRead))) (cutReads, partRelayed) := by
  have polled : Traces (bytesStream (openResponse none)).pollNext [⟨.read, zerosRead 2⟩]
      (.item (.ok (zerosChunk 2)), bytesStream (openResponse none)) := .call _ (.done _)
  have failed : Traces (bytesStream (openResponse none)).pollNext
      [⟨.read, ReadCompletion.refused 12030⟩, ⟨.close, ()⟩]
      (.item (.error refusedRead), .value none) := .call _ (.call _ (.done _))
  have rest : Runs (bodyTransfer.beside clientInterface)
      (pipeStream (bareUrl false) 2 (bytesStream (openResponse none)))
      (cutReads.take 1, partRelayed)
      (some (.error (streamBodyError (bareUrl false) refusedRead))) (cutReads, partRelayed) :=
    (Runs.onLeft failed _ _).bind ((Runs.onLeft (.done ()) _ _).bind (.done _ _))
  have piped : Runs (bodyTransfer.beside clientInterface)
      (pipeStream (bareUrl false) 3 (bytesStream (openResponse none))) ([], headersSent)
      (some (.error (streamBodyError (bareUrl false) refusedRead))) (cutReads, partRelayed) :=
    (Runs.onLeft polled _ _).bind ((partRelayed_runs.onRight _).bind rest)
  exact (sendHeaders_sent.onRight []).bind (piped.bind (.done _ _))

theorem readBounded_of_mem {trace : ClientTrace} (reads : trace = wholeReads ∨ trace = cutReads) :
    ∀ exchange ∈ trace, ReadBounded exchange := by
  rcases reads with rfl | rfl <;>
    · simp only [wholeReads, cutReads, List.forall_mem_cons]
      exact ⟨le_rfl, by simp [ReadBounded, zerosRead]⟩

/-- A response that is relayed as a whole, and one that fails behind its first part. -/
theorem sendPiped_relays_parts :
    (∃ chunks, Consumes (openResponse none) wholeReads chunks (some (.ok ())) ∧
      Relayed (bareUrl false) chunks (some (.ok ())) (.ok ()) wholeRelayed ∧
      wholeReads.countP isClose = 1) ∧
    ∃ chunks ending, Consumes (openResponse none) cutReads chunks ending ∧
      Relayed (bareUrl false) chunks ending
        (.error (streamBodyError (bareUrl false) refusedRead)) partRelayed ∧
      cutReads.countP isClose = 1 := by
  constructor
  · obtain ⟨chunks, ending, consumes, relayed, closes⟩ := sendPiped_relays (bareUrl false) 3
      (openResponse none) (.ok ()) wholeReads _ wholeReads_runs (readBounded_of_mem (.inl rfl))
    obtain ⟨rfl, -⟩ := relayed.complete rfl
    exact ⟨chunks, consumes, relayed, closes⟩
  · exact sendPiped_relays (bareUrl false) 3 (openResponse none) _ cutReads _ cutReads_runs
      (readBounded_of_mem (.inr rfl))

end Example

end Wrest.Relay
