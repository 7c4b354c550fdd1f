import Wrest.ResponseBodies

/-!
# The readers of a response body

A caller may loop over `chunk`, take the whole body with `bytes`, or poll the stream of
`bytes_stream`.  Each keeps its own account of when to stop.

A body may go on for ever, so that the loops are bounded by a number of calls; `none` says
that a loop has not ended by then.  A loop that ends is described by what the calls of
`chunk` come to, and the other readers then go through the same exchanges.
-/

namespace Wrest.Response

open Interaction ResponseChunk

/-- A loop over `chunk`: the chunks before its end, and how it ended. -/
def chunkLoop : Nat → Response →
    ClientProgram (List ChunkBytes × Option (Except Error Unit))
  | 0, _ => pure ([], none)
  | limit + 1, response => do
    match ← response.chunk with
    | (.ok (some bytes), next) => do
      let (chunks, ending) ← chunkLoop limit next
      pure (bytes :: chunks, ending)
    | (.ok none, next) => do
      next.drop
      pure ([], some (.ok ()))
    | (.error error, next) => do
      next.drop
      pure ([], some (.error error))

/-- Calls of `chunk` whatever they return. -/
def chunkCalls : Nat → Response → ClientProgram (List ChunkResult × Response)
  | 0, response => pure ([], response)
  | calls + 1, response => do
    let (result, next) ← response.chunk
    let (results, last) ← chunkCalls calls next
    pure (result :: results, last)

/-- The chunks as one: none, the only one, or a buffer that each of them extends. -/
def concatParts : List ChunkBytes → ChunkBytes
  | [] => []
  | [first] => first
  | first :: parts => parts.foldl (· ++ ·) first

def bodyTooLarge (url : Url) : Error :=
  (Error.body (.message "response body too large")).withUrl url

/-- The loop of `collect_body`, with the parts so far and their length. -/
def collectParts : Nat → List ChunkBytes → Nat → Response →
    ClientProgram (Option (Except Error ChunkBytes) × Response)
  | 0, _, _, response => pure (none, response)
  | limit + 1, parts, totalLength, response => do
    match ← response.chunk with
    | (.ok (some bytes), next) =>
      match checkedAdd totalLength bytes.length with
      | some totalLength => collectParts limit (parts ++ [bytes]) totalLength next
      | none => pure (some (.error (bodyTooLarge next.url)), next)
    | (.ok none, next) => do
      let released ← next.takeRaw
      pure (some (.ok (concatParts parts)), released)
    | (.error error, next) => pure (some (.error error), next)

def collectBody (limit : Nat) (response : Response) :
    ClientProgram (Option (Except Error ChunkBytes) × Response) :=
  collectParts limit [] 0 response

def bytes (limit : Nat) (response : Response) :
    ClientProgram (Option (Except Error ChunkBytes)) := do
  match ← response.collectBody limit with
  | (some result, last) => do
    last.drop
    pure (some result)
  | (none, _) => pure none

/-- The stream between two polls.  `value` holds the state of the unfolding, which has no
response behind an error; `finished` must not be polled. -/
inductive BytesStream
  | value (state : Option Response)
  | finished

/-- What a poll comes to. -/
inductive StreamPoll
  | item (item : Except Error ChunkBytes)
  | ended
  | panicked

def bytesStream (response : Response) : BytesStream :=
  .value (some response)

/-- A poll that is not left pending. -/
def BytesStream.pollNext : BytesStream → ClientProgram (StreamPoll × BytesStream)
  | .finished => pure (.panicked, .finished)
  | .value none => pure (.ended, .finished)
  | .value (some response) => do
    match ← response.chunk with
    | (.ok (some bytes), next) => pure (.item (.ok bytes), .value (some next))
    | (.ok none, next) => do
      next.drop
      pure (.ended, .finished)
    | (.error error, next) => do
      next.drop
      pure (.item (.error error), .value none)

def BytesStream.polls : Nat → BytesStream → ClientProgram (List StreamPoll)
  | 0, _ => pure []
  | count + 1, stream => do
    let (poll, next) ← stream.pollNext
    let polls ← next.polls count
    pure (poll :: polls)

/-- The polls of a stream up to its end. -/
def pollsOf (chunks : List ChunkBytes) (ending : Except Error Unit) : List StreamPoll :=
  chunks.map (fun bytes => .item (.ok bytes)) ++
    match ending with
    | .ok () => [.ended]
    | .error error => [.item (.error error), .ended]

/-- What the calls of `chunk` come to until the body ends or a call fails, with the drop of
the response. -/
inductive ReadsTo : Response → ClientTrace → List ChunkBytes → Except Error Unit → Prop
  | ended {response next : Response} {before after : ClientTrace}
      (returns : Traces response.chunk before (.ok none, next))
      (drops : Traces next.drop after ()) :
      ReadsTo response (before ++ after) [] (.ok ())
  | failed {response next : Response} {before after : ClientTrace} {error : Error}
      (returns : Traces response.chunk before (.error error, next))
      (drops : Traces next.drop after ()) :
      ReadsTo response (before ++ after) [] (.error error)
  | data {response next : Response} {before after : ClientTrace} {bytes : ChunkBytes}
      {chunks : List ChunkBytes} {ending : Except Error Unit}
      (returns : Traces response.chunk before (.ok (some bytes), next))
      (rest : ReadsTo next after chunks ending) :
      ReadsTo response (before ++ after) (bytes :: chunks) ending

section Loops

variable {response : Response} {trace : ClientTrace} {chunks : List ChunkBytes}
  {ending : Except Error Unit} {limit : Nat}

/-- A loop that ended has made fewer calls than it was allowed. -/
theorem readsTo_of_chunkLoop
    (reads : Traces (chunkLoop limit response) trace (chunks, some ending)) :
    ReadsTo response trace chunks ending ∧ chunks.length < limit := by
  induction limit generalizing response trace chunks with
  | zero =>
    obtain ⟨-, impossible⟩ := traces_pure.mp reads
    cases impossible
  | succ limit ih =>
    obtain ⟨⟨result, next⟩, before, after, rfl, returns, rest⟩ := reads.of_bind
    rcases result with error | (_ | bytes)
    · obtain ⟨_, dropped, behind, rfl, drops, ends⟩ := Traces.of_bind rest
      obtain ⟨rfl, same⟩ := traces_pure.mp ends
      cases same
      rw [List.append_nil]
      exact ⟨.failed returns drops, Nat.succ_pos limit⟩
    · obtain ⟨_, dropped, behind, rfl, drops, ends⟩ := Traces.of_bind rest
      obtain ⟨rfl, same⟩ := traces_pure.mp ends
      cases same
      rw [List.append_nil]
      exact ⟨.ended returns drops, Nat.succ_pos limit⟩
    · obtain ⟨⟨more, found⟩, others, behind, rfl, loops, ends⟩ := Traces.of_bind rest
      obtain ⟨rfl, same⟩ := traces_pure.mp ends
      cases same
      obtain ⟨readsRest, fewer⟩ := ih loops
      rw [List.append_nil]
      exact ⟨.data returns readsRest, Nat.succ_lt_succ fewer⟩

theorem takeRaw_of_drop (drops : Traces response.drop trace ()) :
    ∃ released, Traces response.takeRaw trace released ∧ released.raw = none := by
  obtain ⟨released, before, after, rfl, takes, ends⟩ := Traces.of_bind drops
  obtain ⟨rfl, -⟩ := traces_pure.mp ends
  rw [List.append_nil]
  exact ⟨released, takes, takes.returns takeRaw_returns ▸ rfl⟩

theorem drop_of_taken (taken : response.raw = none) : Traces response.drop [] () := by
  unfold drop takeRaw
  rw [taken]
  exact .done ()

theorem drop_of_open (isOpen : response.raw.isSome) :
    Traces response.drop [⟨.close, ()⟩] () := by
  obtain ⟨raw, rawEq⟩ := Option.isSome_iff_exists.mp isOpen
  unfold drop takeRaw
  rw [rawEq]
  exact traces_call.mpr ⟨(), [], rfl, .done ()⟩

end Loops

section Streams

variable {response : Response} {trace before after : ClientTrace}
  {chunks : List ChunkBytes} {ending : Except Error Unit}

theorem polls_cons {stream next : BytesStream} {poll : StreamPoll} {polls : List StreamPoll}
    {count : Nat} (first : Traces stream.pollNext before (poll, next))
    (rest : Traces (next.polls count) after polls) :
    Traces (stream.polls (count + 1)) (before ++ after) (poll :: polls) :=
  Traces.bind first (rest.bind_pure fun polls => poll :: polls)

/-- A stream that has ended makes no exchange and yields nothing. -/
theorem polls_finished (count : Nat) :
    Traces (BytesStream.finished.polls count) [] (List.replicate count .panicked) := by
  induction count with
  | zero => exact .done []
  | succ count ih =>
    have polled : Traces BytesStream.finished.pollNext [] (.panicked, .finished) := .done _
    exact polls_cons polled ih

theorem polls_of_readsTo (reads : ReadsTo response trace chunks ending) (more : Nat) :
    Traces ((bytesStream response).polls ((pollsOf chunks ending).length + more)) trace
      (pollsOf chunks ending ++ List.replicate more .panicked) := by
  induction reads with
  | @ended response next before after returns drops =>
    have polled : Traces (bytesStream response).pollNext (before ++ after)
        (.ended, .finished) := by
      have dropped := drops.bind_pure fun _ => (StreamPoll.ended, BytesStream.finished)
      exact Traces.bind returns dropped
    have whole := polls_cons polled (polls_finished more)
    rw [List.append_nil, Nat.add_comm more 1] at whole
    exact whole
  | @failed response next before after error returns drops =>
    have polled : Traces (bytesStream response).pollNext (before ++ after)
        (.item (.error error), .value none) := by
      have dropped := drops.bind_pure fun _ =>
        (StreamPoll.item (.error error), BytesStream.value none)
      exact Traces.bind returns dropped
    have last : Traces (BytesStream.value none).pollNext [] (.ended, .finished) := .done _
    have whole := polls_cons polled (polls_cons last (polls_finished more))
    rw [List.append_nil, List.append_nil, Nat.add_comm (more + 1), Nat.add_comm more,
      ← Nat.add_assoc] at whole
    exact whole
  | @data response next before after bytes chunks ending returns rest ih =>
    have polled : Traces (bytesStream response).pollNext before
        (.item (.ok bytes), .value (some next)) := by
      have yields : Traces (bytesStream response).pollNext (before ++ [])
          (.item (.ok bytes), .value (some next)) := Traces.bind returns (.done _)
      rwa [List.append_nil] at yields
    have whole := polls_cons polled ih
    rw [Nat.add_right_comm] at whole
    exact whole

end Streams

section Collecting

variable {response : Response} {trace : ClientTrace}
  {chunks : List ChunkBytes} {ending : Except Error Unit} {limit : Nat}

theorem concatParts_eq_flatten (parts : List ChunkBytes) :
    concatParts parts = parts.flatten := by
  match parts with
  | [] => rfl
  | [first] => simp [concatParts]
  | first :: second :: parts =>
    rw [concatParts, List.foldl_append_eq_append]
    · simp
    · exact nofun

theorem collectParts_data {next : Response} {before after : ClientTrace}
    {bytes : ChunkBytes} {parts : List ChunkBytes} {totalLength : Nat}
    {collected : Option (Except Error ChunkBytes) × Response}
    (returns : Traces response.chunk before (.ok (some bytes), next))
    (fits : totalLength + bytes.length ≤ usizeMax)
    (rest : Traces (collectParts limit (parts ++ [bytes]) (totalLength + bytes.length) next)
      after collected) :
    Traces (collectParts (limit + 1) parts totalLength response) (before ++ after)
      collected := by
  refine Traces.bind returns ?_
  simp only [checkedAdd, if_pos fits]
  exact rest

/-- While the lengths add up, the parts are collected from the same exchanges. -/
theorem collectParts_of_readsTo (reads : ReadsTo response trace chunks ending)
    (fewer : chunks.length < limit) (parts : List ChunkBytes) (totalLength : Nat)
    (fits : totalLength + chunks.flatten.length ≤ usizeMax) :
    ∃ before after last, trace = before ++ after ∧
      Traces (collectParts limit parts totalLength response) before
        (some (ending.map fun _ => concatParts (parts ++ chunks)), last) ∧
      Traces last.drop after () := by
  obtain ⟨limit, rfl⟩ : ∃ fewer, limit = fewer + 1 := Nat.exists_eq_add_one.mpr (by omega)
  induction reads generalizing parts totalLength limit with
  | @ended response next before after returns drops =>
    obtain ⟨released, takes, taken⟩ := takeRaw_of_drop drops
    have collects := takes.bind_pure fun released =>
      (some (Except.ok (ε := Error) (concatParts parts)), released)
    rw [List.append_nil]
    exact ⟨before ++ after, [], released, (List.append_nil _).symm,
      Traces.bind returns collects, drop_of_taken taken⟩
  | @failed response next before after error returns drops =>
    have collects : Traces (collectParts (limit + 1) parts totalLength response)
        (before ++ []) (some (.error error), next) := Traces.bind returns (.done _)
    rw [List.append_nil] at collects
    exact ⟨before, after, next, rfl, collects, drops⟩
  | @data response next before after bytes chunks ending returns rest ih =>
    rw [List.flatten_cons, List.length_append, ← Nat.add_assoc] at fits
    rw [List.length_cons] at fewer
    obtain ⟨limit, rfl⟩ : ∃ fewer, limit = fewer + 1 := Nat.exists_eq_add_one.mpr (by omega)
    obtain ⟨first, behind, last, rfl, collects, drops⟩ :=
      ih (parts ++ [bytes]) (totalLength + bytes.length) fits limit (by omega)
    rw [List.append_cons]
    exact ⟨before ++ first, behind, last, (List.append_assoc _ _ _).symm,
      collectParts_data returns (by omega) collects, drops⟩

/-- The first chunk that makes the length too large ends the collection. -/
theorem collectParts_tooLarge (reads : ReadsTo response trace chunks ending)
    (fewer : chunks.length < limit) (parts : List ChunkBytes) (totalLength : Nat)
    (within : totalLength ≤ usizeMax)
    (exceeds : usizeMax < totalLength + chunks.flatten.length) :
    ∃ before after last, trace = before ++ after ∧
      Traces (collectParts limit parts totalLength response) before
        (some (.error (bodyTooLarge response.url)), last) ∧
      last.raw.isSome := by
  obtain ⟨limit, rfl⟩ : ∃ fewer, limit = fewer + 1 := Nat.exists_eq_add_one.mpr (by omega)
  induction reads generalizing parts totalLength limit with
  | ended returns drops | failed returns drops =>
    rw [List.flatten_nil, List.length_nil] at exceeds
    omega
  | @data response next before after bytes chunks ending returns rest ih =>
    rw [List.flatten_cons, List.length_append, ← Nat.add_assoc] at exceeds
    rw [List.length_cons] at fewer
    obtain ⟨bytes, isOpen⟩ := returns.returns chunk_leaves
    by_cases fits : totalLength + bytes.length ≤ usizeMax
    · obtain ⟨limit, rfl⟩ : ∃ fewer, limit = fewer + 1 :=
        Nat.exists_eq_add_one.mpr (by omega)
      obtain ⟨first, behind, last, rfl, collects, lastOpen⟩ :=
        ih (parts ++ [bytes]) (totalLength + bytes.length) fits exceeds limit (by omega)
      exact ⟨before ++ first, behind, last, (List.append_assoc _ _ _).symm,
        collectParts_data returns fits collects, lastOpen⟩
    · have collects : Traces (collectParts (limit + 1) parts totalLength response)
          (before ++ []) (some (.error (bodyTooLarge response.url)), response) := by
        refine Traces.bind returns ?_
        simp only [checkedAdd, if_neg fits]
        exact .done _
      rw [List.append_nil] at collects
      exact ⟨before, after, response, rfl, collects, isOpen⟩

theorem bytes_of_collectBody {before after : ClientTrace} {last : Response}
    {result : Except Error ChunkBytes}
    (collects : Traces (response.collectBody limit) before (some result, last))
    (drops : Traces last.drop after ()) :
    Traces (response.bytes limit) (before ++ after) (some result) := by
  have dropped := drops.bind_pure fun _ => some result
  exact Traces.bind collects dropped

theorem chunkCalls_of_taken (taken : response.raw = none) (calls : Nat) :
    chunkCalls calls response =
      pure (List.replicate calls (.error alreadyConsumed), response) := by
  induction calls with
  | zero => rfl
  | succ calls ih =>
    rw [chunkCalls, chunk_of_taken taken]
    change (chunkCalls calls response >>= _) = _
    rw [ih]
    rfl

theorem taken_of_endOfBody {next : Response}
    (returns : Traces response.chunk trace (.ok none, next)) : next.raw = none := by
  cases returns.returns chunk_leaves
  rfl

end Collecting

section Example

def openResponse (deadline : Option Nat) : Response :=
  .fromRaw { status := 200, version := .http11, url := bareUrl true, headers := .empty }
    deadline

/-- A read that fills its buffer with zeros up to some length. -/
def zerosRead (length : Nat) : ReadCompletion :=
  .completed (.ok (.readComplete length)) (some { allocation := 0, capacity := READ_BUF_SIZE })
    fun _ => List.replicate length 0

def zerosChunk (length : Nat) : ChunkBytes :=
  (List.range length).map fun index => (List.replicate length (0 : UInt8))[index]?

/-- A read of three bytes, and a second call of `chunk` at the deadline. -/
def expiringTrace : ClientTrace :=
  [⟨.now, (10 : Nat)⟩, ⟨.readWithin 90, some (zerosRead 3)⟩, ⟨.now, (100 : Nat)⟩,
    ⟨.close, ()⟩]

theorem expiringTrace_reads :
    Traces (chunkLoop 2 (openResponse (some 100))) expiringTrace
      ([zerosChunk 3], some (.error (bodyTimeout (bareUrl true)))) :=
  .call _ (.call _ (.call _ (.call _ (.done _))))

/-- Reads that fill their buffers, and the end of the body. -/
def fullReads (count : Nat) : ClientTrace :=
  List.replicate count ⟨.read, zerosRead READ_BUF_SIZE⟩ ++
    [⟨.read, zerosRead 0⟩, ⟨.close, ()⟩]

theorem fullReads_reads (count : Nat) :
    Traces (chunkLoop (count + 1) (openResponse none)) (fullReads count)
      (List.replicate count (zerosChunk READ_BUF_SIZE), some (.ok ())) := by
  induction count with
  | zero => exact .call _ (.call _ (.done _))
  | succ count ih =>
    have rest := ih.bind_pure fun (chunks, ending) =>
      (zerosChunk READ_BUF_SIZE :: chunks, ending)
    exact .call _ rest

theorem length_flatten_replicate (count : Nat) (part : ChunkBytes) :
    (List.replicate count part).flatten.length = count * part.length := by
  induction count with
  | zero => simp
  | succ count ih =>
    rw [List.replicate_succ, List.flatten_cons, List.length_append, ih, Nat.succ_mul,
      Nat.add_comm]

end Example

end Wrest.Response
