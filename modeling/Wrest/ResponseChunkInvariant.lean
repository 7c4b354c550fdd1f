import Wrest.ResponseChunks

/-!
# The body that quiet calls of `chunk` return

While every call of `chunk` is quiet, at most one read is in flight, into the
stored buffer, and what was received, what waits in that buffer and what WinHTTP
has yet to deliver make up the body.
-/

namespace Wrest.ResponseChunk

open Transition

/-- At most one read is in flight, into the stored buffer, which is empty. -/
inductive Flight (state : ChunkState) : Prop
  | landed (empty : state.inFlight = [])
  | flying (buffer : BytesMut) (only : state.inFlight = [buffer])
      (stored : state.request.readBuffer = some buffer)
      (unwritten : state.memory buffer.allocation = [])

/-- Received, read and undelivered bytes make up the body. -/
def Accounted (body : List UInt8) (state : ChunkState) : Prop :=
  state.received ++ (state.content ++ state.source).map some = body.map some

/-- The completion is the one of the read into the stored buffer. -/
inductive Landed (state : ChunkState) : CallbackEvent → Prop
  | read (count : Nat) (buffer : BytesMut)
      (stored : state.request.readBuffer = some buffer)
      (counted : (state.memory buffer.allocation).length = count)
      (fits : count ≤ buffer.capacity) (atEnd : count = 0 → state.source = []) :
      Landed state (.readComplete count)
  | failed (code : Nat) : Landed state (.win32Error code)

/-- The response is open, and its end was not returned. -/
structure Reading (body : List UInt8) (state : ChunkState) : Prop where
  hasRaw : state.hasRaw = true
  notEnded : ¬ state.Ended
  accounted : Accounted body state

structure Releasing (body : List UInt8) (state : ChunkState) (release : Release) :
    Prop where
  hasRaw : state.hasRaw = false
  notEnded : ¬ state.Ended
  accounted : Accounted body state
  flight : Flight state
  whole : release = .endOfBody → state.received = body.map some

structure Closed (body : List UInt8) (state : ChunkState) : Prop where
  hasRaw : state.hasRaw = false
  landed : state.inFlight = []
  received : state.received <+: body.map some
  whole : state.Ended → state.received = body.map some

/-- The read is in flight and will resolve the listener, or it has done so. -/
inductive Awaited (state : ChunkState) (listener : Nat) : Prop
  | flying (buffer : BytesMut) (only : state.inFlight = [buffer])
      (stored : state.request.readBuffer = some buffer)
      (unwritten : state.memory buffer.allocation = [])
      (sender : state.request.signal.sender = some listener)
  | delivered (event : CallbackEvent) (empty : state.inFlight = [])
      (polled : state.request.signal.poll listener = some (.ok event))
      (landed : Landed state event)

/-- The invariant, by the position of the future. -/
def Expects (body : List UInt8) (state : ChunkState) : ChunkPosition → Prop
  | .idle => Reading body state ∧ Flight state ∨ Closed body state
  | .listening listener =>
    Reading body state ∧ Unread state ∧ state.request.signal.sender = some listener
  | .stored listener buffer =>
    Reading body state ∧ Unread state ∧ state.request.readBuffer = some buffer ∧
      state.request.signal.sender = some listener
  | .awaiting listener => Reading body state ∧ Awaited state listener
  | .completed event =>
    Reading body state ∧ state.inFlight = [] ∧
      ∃ delivered, event = .ok delivered ∧ Landed state delivered
  | .releasing release => Releasing body state release

def ChunkInvariant (body : List UInt8) (state : ChunkState) : Prop :=
  Expects body state state.position

theorem Accounted.frame {body : List UInt8} {state next : ChunkState}
    (accounted : Accounted body state) (results : next.results = state.results)
    (content : next.content = state.content) (source : next.source = state.source) :
    Accounted body next := by
  unfold Accounted ChunkState.received
  rw [results, content, source]
  exact accounted

theorem Flight.frame {state next : ChunkState} (flight : Flight state)
    (inFlight : next.inFlight = state.inFlight)
    (stored : next.request.readBuffer = state.request.readBuffer)
    (memory : next.memory = state.memory) : Flight next := by
  cases flight with
  | landed empty => exact .landed (inFlight.trans empty)
  | flying buffer only kept unwritten =>
    exact .flying buffer (inFlight.trans only) (stored.trans kept)
      (by rw [memory]; exact unwritten)

theorem Flight.registered {state : ChunkState} (flight : Flight state) :
    ∀ buffer ∈ state.inFlight, state.request.readBuffer = some buffer := by
  cases flight with
  | landed empty =>
    rw [empty]
    nofun
  | flying buffer only stored unwritten =>
    rw [only]
    intro other member
    rw [List.mem_singleton.mp member]
    exact stored

theorem Awaited.flight {state : ChunkState} {listener : Nat}
    (awaited : Awaited state listener) : Flight state := by
  cases awaited with
  | flying buffer only stored unwritten sender => exact .flying buffer only stored unwritten
  | delivered event empty polled landed => exact .landed empty

/-- At every position, either the bytes are accounted for and the end was not
returned, or the handle was closed. -/
theorem ChunkInvariant.summary {body : List UInt8} {state : ChunkState}
    (invariant : ChunkInvariant body state) :
    Flight state ∧
      (¬ state.Ended ∧ Accounted body state ∨ Closed body state) := by
  have reading : Reading body state → ¬ state.Ended ∧ Accounted body state :=
    fun reading => ⟨reading.notEnded, reading.accounted⟩
  unfold ChunkInvariant at invariant
  cases position : state.position with
  | idle =>
    rw [position] at invariant
    rcases invariant with ⟨opened, flight⟩ | closed
    · exact ⟨flight, .inl (reading opened)⟩
    · exact ⟨.landed closed.landed, .inr closed⟩
  | listening listener =>
    rw [position] at invariant
    exact ⟨.landed invariant.2.1.1, .inl (reading invariant.1)⟩
  | stored listener buffer =>
    rw [position] at invariant
    exact ⟨.landed invariant.2.1.1, .inl (reading invariant.1)⟩
  | awaiting listener =>
    rw [position] at invariant
    exact ⟨invariant.2.flight, .inl (reading invariant.1)⟩
  | completed event =>
    rw [position] at invariant
    exact ⟨.landed invariant.2.1, .inl (reading invariant.1)⟩
  | releasing release =>
    rw [position] at invariant
    exact ⟨invariant.flight, .inl ⟨invariant.notEnded, invariant.accounted⟩⟩

theorem ChunkInvariant.bodySafe {body : List UInt8} {state : ChunkState}
    (invariant : ChunkInvariant body state) : BodySafe body state := by
  obtain ⟨flight, ⟨notEnded, accounted⟩ | closed⟩ := invariant.summary
  · exact ⟨flight.registered, ⟨_, accounted⟩, fun ended => absurd ended notEnded⟩
  · exact ⟨flight.registered, closed.received, closed.whole⟩

theorem initial_invariant (origin : Origin) (body : List UInt8) :
    ChunkInvariant body (.initial origin body) :=
  .inl ⟨⟨rfl, List.not_mem_nil, rfl⟩, .landed rfl⟩

section Steps

variable {url : Url} {deadline : Option Nat} {body : List UInt8}
  {state next : ChunkState}

theorem received_returns (result : ChunkResult) :
    (state.returns result).received = state.received ++ bytesOf result := by
  simp [ChunkState.received, ChunkState.returns]

theorem received_returns_error (error : Error) :
    (state.returns (.error error)).received = state.received :=
  (received_returns _).trans (List.append_nil _)

theorem not_ended_returns {result : ChunkResult} (other : result ≠ .ok none)
    (notEnded : ¬ state.Ended) : ¬ (state.returns result).Ended := by
  intro ended
  rcases List.mem_append.mp ended with before | last
  · exact notEnded before
  · exact other (List.mem_singleton.mp last).symm

theorem Reading.returns_error (reading : Reading body state) (error : Error) :
    Reading body (state.returns (.error error)) := by
  refine ⟨reading.hasRaw, not_ended_returns nofun reading.notEnded, ?_⟩
  unfold Accounted
  rw [received_returns_error]
  exact reading.accounted

theorem Closed.returns_error (closed : Closed body state) (error : Error) :
    Closed body (state.returns (.error error)) := by
  refine ⟨closed.hasRaw, closed.landed, ?_, fun ended => ?_⟩
  · rw [received_returns_error]
    exact closed.received
  · rw [received_returns_error]
    refine closed.whole ?_
    have noEnd : (.error error : ChunkResult) ≠ .ok none := nofun
    by_contra notEnded
    exact not_ended_returns noEnd notEnded ended

theorem Reading.releases (reading : Reading body state) (flight : Flight state)
    {release : Release} (other : release ≠ .endOfBody) :
    ChunkInvariant body (state.releases release) :=
  ⟨rfl, reading.notEnded, reading.accounted,
    flight.frame rfl rfl rfl,
    fun same => absurd same other⟩

theorem chunk_invariant {now : Nat} (quiet : Quiet deadline state (.chunk now))
    (invariant : ChunkInvariant body state)
    (steps : chunkStep url deadline state (.chunk now) = some next) :
    ChunkInvariant body next := by
  unfold ChunkInvariant at invariant
  unfold chunkStep at steps
  dsimp only at steps
  split at steps
  · next position =>
    rw [position] at invariant
    split at steps
    · next hasRaw =>
      rcases invariant with ⟨reading, flight⟩ | closed
      · split at steps
        · cases steps
          exact reading.releases flight nofun
        · next running =>
          cases steps
          have unread := quiet hasRaw (by simpa using running)
          exact ⟨⟨hasRaw, reading.notEnded, reading.accounted⟩, unread, rfl⟩
      · rw [closed.hasRaw] at hasRaw
        cases hasRaw
    · next gone =>
      cases steps
      rcases invariant with ⟨reading, flight⟩ | closed
      · exact absurd reading.hasRaw gone
      · exact .inr (closed.returns_error _)
  · cases steps

/-- The stored buffer is new, so nothing was read into it. -/
theorem storeBuffer_invariant (invariant : ChunkInvariant body state)
    (steps : chunkStep url deadline state .storeBuffer = some next) :
    ChunkInvariant body next := by
  unfold ChunkInvariant at invariant
  unfold chunkStep at steps
  dsimp only at steps
  split at steps
  · next listener position =>
    rw [position] at invariant
    obtain ⟨reading, unread, sender⟩ := invariant
    cases steps
    have empty : Function.update state.memory state.allocations []
        state.allocations = [] := Function.update_self _ _ _
    exact ⟨⟨reading.hasRaw, reading.notEnded,
      reading.accounted.frame rfl (empty.trans unread.2.symm) rfl⟩,
      ⟨unread.1, empty⟩, rfl, sender⟩
  · cases steps

theorem startRead_invariant {outcome : Except Nat Unit}
    (invariant : ChunkInvariant body state)
    (steps : chunkStep url deadline state (.startRead outcome) = some next) :
    ChunkInvariant body next := by
  unfold ChunkInvariant at invariant
  unfold chunkStep at steps
  dsimp only at steps
  split at steps
  · next listener buffer position =>
    rw [position] at invariant
    obtain ⟨reading, unread, stored, sender⟩ := invariant
    have unwritten : state.memory buffer.allocation = [] := by
      have content := unread.2
      unfold ChunkState.content at content
      rw [stored] at content
      exact content
    cases outcome with
    | ok value =>
      cases steps
      have only : state.inFlight ++ [buffer] = [buffer] := by
        rw [unread.1, List.nil_append]
      exact ⟨⟨reading.hasRaw, reading.notEnded, reading.accounted⟩,
        .flying buffer only stored unwritten sender⟩
    | error code =>
      cases steps
      exact .inl ⟨reading.returns_error _, .landed unread.1⟩
  · cases steps

theorem poll_invariant (invariant : ChunkInvariant body state)
    (steps : chunkStep url deadline state .poll = some next) :
    ChunkInvariant body next := by
  unfold ChunkInvariant at invariant
  unfold chunkStep at steps
  dsimp only at steps
  split at steps
  · next listener position =>
    rw [position] at invariant
    obtain ⟨reading, awaited⟩ := invariant
    cases awaited with
    | flying buffer only stored unwritten sender =>
      rw [CompletionSignal.poll_of_sender sender] at steps
      cases steps
    | delivered event empty polled landed =>
      rw [polled] at steps
      cases steps
      refine ⟨⟨reading.hasRaw, reading.notEnded, reading.accounted⟩, empty, event, rfl, ?_⟩
      cases landed with
      | read count buffer stored counted fits atEnd =>
        exact .read count buffer stored counted fits atEnd
      | failed code => exact .failed code
  · cases steps

theorem timerFires_invariant (invariant : ChunkInvariant body state)
    (steps : chunkStep url deadline state .timerFires = some next) :
    ChunkInvariant body next := by
  unfold ChunkInvariant at invariant
  unfold chunkStep at steps
  dsimp only at steps
  split at steps
  · next listener position =>
    rw [position] at invariant
    split at steps
    · cases steps
      exact invariant.1.releases invariant.2.flight nofun
    · cases steps
  · cases steps

theorem dropFuture_invariant (invariant : ChunkInvariant body state)
    (steps : chunkStep url deadline state .dropFuture = some next) :
    ChunkInvariant body next := by
  unfold ChunkInvariant at invariant
  unfold chunkStep at steps
  dsimp only at steps
  split at steps
  · next listener position =>
    rw [position] at invariant
    obtain ⟨reading, awaited⟩ := invariant
    cases steps
    exact .inl ⟨⟨reading.hasRaw, reading.notEnded, reading.accounted⟩,
      awaited.flight.frame rfl rfl rfl⟩
  · cases steps

theorem dropResponse_invariant (invariant : ChunkInvariant body state)
    (steps : chunkStep url deadline state .dropResponse = some next) :
    ChunkInvariant body next := by
  unfold ChunkInvariant at invariant
  unfold chunkStep at steps
  dsimp only at steps
  split at steps
  · next position =>
    rw [position] at invariant
    split at steps
    · next hasRaw =>
      cases steps
      rcases invariant with ⟨reading, flight⟩ | closed
      · exact reading.releases flight nofun
      · rw [closed.hasRaw] at hasRaw
        cases hasRaw
    · cases steps
  · cases steps

/-- HANDLE_CLOSING frees the stored buffer, and by then nothing is in flight. -/
theorem handleClosed_invariant (invariant : ChunkInvariant body state)
    (steps : chunkStep url deadline state .handleClosed = some next) :
    ChunkInvariant body next := by
  unfold ChunkInvariant at invariant
  unfold chunkStep at steps
  dsimp only at steps
  split at steps
  · next release position empty =>
    rw [position] at invariant
    cases steps
    have receivedEq : (state.results ++ releaseResult url release).flatMap bytesOf =
        state.received := by
      rw [List.flatMap_append]
      cases release <;> simp [ChunkState.received, releaseResult, bytesOf]
    refine .inr ⟨invariant.hasRaw, empty, ?_, fun ended => ?_⟩
    · show (state.results ++ releaseResult url release).flatMap bytesOf <+: _
      rw [receivedEq]
      exact ⟨_, invariant.accounted⟩
    · show (state.results ++ releaseResult url release).flatMap bytesOf = _
      rw [receivedEq]
      rcases List.mem_append.mp ended with before | last
      · exact absurd before invariant.notEnded
      · cases release with
        | endOfBody => exact invariant.whole rfl
        | timedOut => simp [releaseResult] at last
        | dropped => simp [releaseResult] at last
  · cases steps

theorem freezeBuffer_bytes {memory : Nat → List UInt8} {buffer : BytesMut}
    (fits : (memory buffer.allocation).length ≤ buffer.capacity) :
    freezeBuffer url memory (memory buffer.allocation).length (some buffer) =
      .ok (some ((memory buffer.allocation).map some)) := by
  have bytesEq : (List.range (memory buffer.allocation).length).map
      (fun index => (memory buffer.allocation)[index]?) =
        (memory buffer.allocation).map some := by
    apply List.ext_getElem
    · simp
    · intro index _ _
      simp
  rw [← bytesEq]
  exact if_neg (Nat.not_lt.mpr fits)

/-- The bytes of the completed read go from the buffer to the caller. -/
theorem finishRead_invariant (invariant : ChunkInvariant body state)
    (steps : chunkStep url deadline state .finishRead = some next) :
    ChunkInvariant body next := by
  unfold ChunkInvariant at invariant
  unfold chunkStep at steps
  dsimp only at steps
  split at steps
  · next event position =>
    rw [position] at invariant
    obtain ⟨reading, empty, delivered, rfl, landed⟩ := invariant
    cases steps
    cases landed with
    | failed code => exact .inl ⟨reading.returns_error _, .landed empty⟩
    | read count buffer stored counted fits atEnd =>
      subst counted
      have content : state.content = state.memory buffer.allocation := by
        unfold ChunkState.content
        rw [stored]
      have accounted := reading.accounted
      unfold Accounted at accounted
      rw [content] at accounted
      by_cases nothing : (state.memory buffer.allocation).length = 0
      · have unwritten := List.length_eq_zero_iff.mp nothing
        rw [unwritten, atEnd nothing] at accounted
        have whole : state.received = body.map some := by simpa using accounted
        have finished : finishRead url state
            (.ok (.readComplete (state.memory buffer.allocation).length)) =
              (state.setReadBuffer none).releases .endOfBody := if_pos nothing
        rw [finished]
        exact ⟨rfl, reading.notEnded,
          reading.accounted.frame rfl (by rw [content, unwritten]; rfl) rfl,
          .landed empty, fun _ => whole⟩
      · have finished : finishRead url state
            (.ok (.readComplete (state.memory buffer.allocation).length)) =
              (state.setReadBuffer none).returns
                (.ok (some ((state.memory buffer.allocation).map some))) := by
          rw [← freezeBuffer_bytes fits, ← stored]
          exact if_neg nothing
        rw [finished]
        refine .inl ⟨⟨reading.hasRaw, not_ended_returns nofun reading.notEnded, ?_⟩,
          .landed empty⟩
        unfold Accounted
        rw [received_returns]
        simpa [ChunkState.setReadBuffer, ChunkState.content, ChunkState.returns,
          ChunkState.received, bytesOf] using accounted
  · cases steps

/-- A read that is in flight is the only one, into the stored buffer. -/
theorem ChunkInvariant.flying (invariant : ChunkInvariant body state)
    {buffer : BytesMut} {others : List BytesMut}
    (inFlight : state.inFlight = buffer :: others) :
    others = [] ∧ state.request.readBuffer = some buffer ∧
      state.memory buffer.allocation = [] := by
  cases invariant.summary.1 with
  | landed empty =>
    rw [empty] at inFlight
    cases inFlight
  | flying other only stored unwritten =>
    rw [only] at inFlight
    cases inFlight
    exact ⟨rfl, stored, unwritten⟩

/-- What a callback for the read in flight does: it signals an event of that
read, and the bytes stay accounted for. -/
structure Arrival (body : List UInt8) (state : ChunkState) (event : CallbackEvent)
    (next : ChunkState) : Prop where
  hasRaw : next.hasRaw = state.hasRaw
  position : next.position = state.position
  results : next.results = state.results
  empty : next.inFlight = []
  signal : next.request.signal = state.request.signal.signal event
  accounted : Accounted body state → Accounted body next
  landed : Landed next event

theorem Arrival.reading {event : CallbackEvent} (arrival : Arrival body state event next)
    (reading : Reading body state) : Reading body next := by
  refine ⟨arrival.hasRaw.trans reading.hasRaw, ?_, arrival.accounted reading.accounted⟩
  unfold ChunkState.Ended
  rw [arrival.results]
  exact reading.notEnded

theorem ChunkInvariant.arrives {event : CallbackEvent} {buffer : BytesMut}
    (invariant : ChunkInvariant body state) (flying : state.inFlight = [buffer])
    (arrival : Arrival body state event next) : ChunkInvariant body next := by
  have inFlight : state.inFlight ≠ [] := by simp [flying]
  unfold ChunkInvariant at invariant ⊢
  rw [arrival.position]
  cases position : state.position with
  | idle =>
    rw [position] at invariant
    rcases invariant with ⟨reading, -⟩ | closed
    · exact .inl ⟨arrival.reading reading, .landed arrival.empty⟩
    · exact absurd closed.landed inFlight
  | listening listener =>
    rw [position] at invariant
    exact absurd invariant.2.1.1 inFlight
  | stored listener buffer =>
    rw [position] at invariant
    exact absurd invariant.2.1.1 inFlight
  | awaiting listener =>
    rw [position] at invariant
    obtain ⟨reading, awaited⟩ := invariant
    cases awaited with
    | flying other only stored unwritten sender =>
      have polled : next.request.signal.poll listener = some (.ok event) := by
        rw [arrival.signal]
        exact CompletionSignal.poll_signal sender event
      exact ⟨arrival.reading reading,
        .delivered event arrival.empty polled arrival.landed⟩
    | delivered earlier empty polled landed => exact absurd empty inFlight
  | completed earlier =>
    rw [position] at invariant
    exact absurd invariant.2.1 inFlight
  | releasing release =>
    rw [position] at invariant
    refine ⟨arrival.hasRaw.trans invariant.hasRaw, ?_,
      arrival.accounted invariant.accounted, .landed arrival.empty, fun atEnd => ?_⟩
    · unfold ChunkState.Ended
      rw [arrival.results]
      exact invariant.notEnded
    · unfold ChunkState.received
      rw [arrival.results]
      exact invariant.whole atEnd

theorem readComplete_invariant {count : Nat} (invariant : ChunkInvariant body state)
    (steps : chunkStep url deadline state (.readComplete count) = some next) :
    ChunkInvariant body next := by
  unfold chunkStep at steps
  dsimp only at steps
  split at steps
  · next buffer others inFlight =>
    obtain ⟨rfl, stored, unwritten⟩ := invariant.flying inFlight
    simp only [Option.ite_none_right_eq_some, Option.some.injEq] at steps
    obtain ⟨⟨fits, available, atEnd⟩, rfl⟩ := steps
    have written : Function.update state.memory buffer.allocation
        (state.source.take count) buffer.allocation = state.source.take count :=
      Function.update_self _ _ _
    have length : (state.source.take count).length = count :=
      List.length_take_of_le available
    refine invariant.arrives inFlight ⟨rfl, rfl, rfl, rfl, rfl, fun accounted => ?_, ?_⟩
    · have before : state.content = [] := by
        unfold ChunkState.content
        rw [stored]
        exact unwritten
      unfold Accounted at accounted ⊢
      rw [before, List.nil_append] at accounted
      simpa [ChunkState.content, ChunkState.signals, stored, written,
        ChunkState.received] using accounted
    · refine .read count buffer stored ((congrArg List.length written).trans length) fits
        fun nothing => ?_
      show state.source.drop count = []
      rw [atEnd nothing, List.drop_nil]
  · cases steps

theorem readError_invariant {code : Nat} (invariant : ChunkInvariant body state)
    (steps : chunkStep url deadline state (.readError code) = some next) :
    ChunkInvariant body next := by
  unfold chunkStep at steps
  dsimp only at steps
  split at steps
  · next buffer others inFlight =>
    obtain ⟨rfl, stored, unwritten⟩ := invariant.flying inFlight
    cases steps
    exact invariant.arrives inFlight
      ⟨rfl, rfl, rfl, rfl, rfl, fun accounted => accounted, .failed code⟩
  · cases steps

theorem chunkStep_invariant (step : ChunkStep) (quiet : Quiet deadline state step)
    (invariant : ChunkInvariant body state)
    (steps : chunkStep url deadline state step = some next) :
    ChunkInvariant body next := by
  cases step with
  | chunk now => exact chunk_invariant quiet invariant steps
  | storeBuffer => exact storeBuffer_invariant invariant steps
  | startRead outcome => exact startRead_invariant invariant steps
  | poll => exact poll_invariant invariant steps
  | timerFires => exact timerFires_invariant invariant steps
  | finishRead => exact finishRead_invariant invariant steps
  | dropFuture => exact dropFuture_invariant invariant steps
  | dropResponse => exact dropResponse_invariant invariant steps
  | readComplete count => exact readComplete_invariant invariant steps
  | readError code => exact readError_invariant invariant steps
  | handleClosed => exact handleClosed_invariant invariant steps

end Steps

/-- In every state of every run whose calls of `chunk` are quiet, the buffer of a
read in flight is stored, and the caller has received the body. -/
theorem chunks_bodySafe (url : Url) (deadline : Option Nat) (origin : Origin)
    (body : List UInt8) (steps : List ChunkStep) (last : ChunkState)
    (quiet : Guarded (chunkStep url deadline) (Quiet deadline) (.initial origin body)
      steps)
    (reaches : run (chunkStep url deadline) (.initial origin body) steps = some last) :
    BodySafe body last := by
  have invariant : ChunkInvariant body last :=
    invariant_of_guarded_run (ChunkInvariant body)
      (fun _ step _ quiet holds steps => chunkStep_invariant step quiet holds steps)
      (initial_invariant origin body) quiet reaches
  exact invariant.bodySafe

def readSteps (count : Nat) : List ChunkStep :=
  [.chunk 0, .storeBuffer, .startRead (.ok ()), .readComplete count, .poll, .finishRead]

/-- A body of two bytes is read in two chunks and an end. -/
theorem chunks_bodySafe_readToEnd :
    ∃ last, run (chunkStep (bareUrl false) none)
        (.initial (.fromUrl (bareUrl false)) [1, 2])
        (readSteps 1 ++ readSteps 1 ++ readSteps 0 ++ [.handleClosed]) = some last ∧
      BodySafe [1, 2] last ∧ last.received = [some 1, some 2] :=
  ⟨_, rfl, chunks_bodySafe (bareUrl false) none (.fromUrl (bareUrl false)) [1, 2]
    (readSteps 1 ++ readSteps 1 ++ readSteps 0 ++ [.handleClosed]) _ (by decide) rfl, rfl⟩

/-- A future is dropped and `chunk` called again.  While the read is in flight its
buffer is freed; after its completion the byte that it read is lost. -/
theorem chunk_after_dropFuture :
    (∃ last buffer, run (chunkStep (bareUrl false) none)
        (.initial (.fromUrl (bareUrl false)) [1])
        [.chunk 0, .storeBuffer, .startRead (.ok ()), .dropFuture, .chunk 0,
          .storeBuffer] = some last ∧
      buffer ∈ last.inFlight ∧ last.request.readBuffer ≠ some buffer) ∧
    ∃ last, run (chunkStep (bareUrl false) none)
        (.initial (.fromUrl (bareUrl false)) [1])
        ([.chunk 0, .storeBuffer, .startRead (.ok ()), .readComplete 1, .dropFuture] ++
          readSteps 0 ++ [.handleClosed]) = some last ∧
      last.Ended ∧ last.received = [] := by
  refine ⟨⟨_, { allocation := 0, capacity := READ_BUF_SIZE }, rfl, by decide, by decide⟩,
    _, rfl, ?_, rfl⟩
  exact List.mem_cons_self

end Wrest.ResponseChunk
