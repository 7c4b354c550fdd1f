import Wrest.RequestTraces

/-!
# Writing a buffer

A buffer is offered to WinHTTP as a whole, and what a completion leaves over is offered
again.  Whatever the completions report, each write begins at the first byte that was not
accepted, nothing follows a write that made no progress, and the buffer is written exactly
when the accepted parts lie one behind the other and fill it.
-/

namespace Wrest

open Interaction RequestStep

/-- One write, and the count that its completion reported, if there was one. -/
structure IssuedWrite where
  pointer : Nat
  length : Nat
  reported : Option Nat

namespace IssuedWrite

/-- Some bytes were accepted, and not more than were offered. -/
def Progresses (write : IssuedWrite) : Prop :=
  ∃ count, write.reported = some count ∧ 0 < count ∧ count ≤ write.length

end IssuedWrite

def reportedCount : Except SignalCancelled CallbackEvent → Option Nat
  | .ok (.writeComplete count) => some count
  | _ => none

/-- The count that is reported by the exchange behind the start of a write. -/
def reportedNext : RequestTrace → Option Nat
  | ⟨.poll _, reply⟩ :: _ => reportedCount reply
  | _ => none

/-- The write that begins a trace. -/
def firstWrite : RequestTrace → Option IssuedWrite
  | ⟨.writeData pointer length, (reply : Outcome)⟩ :: trace =>
    match reply with
    | .ok _ => some { pointer, length, reported := reportedNext trace }
    | .error _ => some { pointer, length, reported := none }
  | _ => none

def issuedWrites : RequestTrace → List IssuedWrite
  | [] => []
  | exchange :: trace => (firstWrite (exchange :: trace)).toList ++ issuedWrites trace

/-- The bytes accepted by writes that made progress. -/
def acceptedBytes : List IssuedWrite → Nat
  | [] => 0
  | write :: writes => write.reported.getD 0 + acceptedBytes writes

/-- The accepted parts lie one behind the other and fill the buffer. -/
def Covers (pointer length : Nat) : List IssuedWrite → Prop
  | [] => length = 0
  | write :: writes => write.pointer = pointer ∧ write.length = length ∧
      ∃ count, write.reported = some count ∧ 0 < count ∧ count ≤ length ∧
        Covers (pointer + count) (length - count) writes

/-- How the rest of a buffer is written. -/
inductive WritesRest : Nat → Nat → List IssuedWrite → Except Error Unit → Prop
  | done (pointer : Nat) : WritesRest pointer 0 [] (.ok ())
  | refused {pointer length : Nat} (error : Error) (nonempty : 0 < length)
      (large : usizeMax < pointer ∨ u32Max < length) :
      WritesRest pointer length [] (.error error)
  | stopped {pointer length : Nat} {reported : Option Nat} (error : Error)
      (nonempty : 0 < length) (within : pointer ≤ usizeMax ∧ length ≤ u32Max)
      (noProgress : ¬({ pointer, length, reported } : IssuedWrite).Progresses) :
      WritesRest pointer length [{ pointer, length, reported }] (.error error)
  | advances {pointer length count : Nat} {writes : List IssuedWrite}
      {result : Except Error Unit} (within : pointer ≤ usizeMax ∧ length ≤ u32Max)
      (progress : 0 < count ∧ count ≤ length)
      (rest : WritesRest (pointer + count) (length - count) writes result) :
      WritesRest pointer length ({ pointer, length, reported := some count } :: writes)
        result

section Once

variable {url : Url} {pointer length : Nat} {trace : RequestTrace}

/-- What a write of the buffer returns. -/
def writeResult (reported : Option Nat) (result : Except Error Nat) : Prop :=
  match reported with
  | some count => result = .ok count
  | none => ∃ error, result = .error error

/-- A write of the buffer is one issued write. -/
theorem traces_writeOnce {result : Except Error Nat}
    (traces : AttemptTraces (writeOnce url pointer length) trace result) :
    ∃ reported, (∀ rest, issuedWrites (trace ++ rest) =
        { pointer, length, reported } :: issuedWrites rest) ∧
      writeResult reported result := by
  unfold writeOnce at traces
  rcases traces.of_bind with ⟨error, waits, rfl⟩ | ⟨event, before, after, rfl, waits, ends⟩
  · rcases traces_await (.writeData pointer length) id waits with
      ⟨listener, reply, code, rfl, rfl, -⟩ | ⟨listener, reply, polled, rfl, rfl, failed⟩
    · exact ⟨none, fun _ => rfl, error, rfl⟩
    · cases polled with
      | ok event => cases failed
      | error signal => exact ⟨none, fun _ => rfl, error, rfl⟩
  · rcases traces_await (.writeData pointer length) id waits with
      ⟨listener, reply, code, rfl, rfl, impossible⟩ |
      ⟨listener, reply, polled, rfl, rfl, completed⟩
    · cases impossible
    · cases polled with
      | error signal => cases completed
      | ok event =>
        cases completed
        obtain ⟨rfl, rfl⟩ := traces_pure.mp ends
        refine ⟨reportedCount (.ok event), fun _ => rfl, ?_⟩
        cases event with
        | writeComplete count => rfl
        | complete | readComplete _ | win32Error _ => exact ⟨_, rfl⟩

end Once

section Loop

variable {url : Url} {pointer length : Nat} {trace : RequestTrace}

theorem traces_withContext {α : Type} {step : RequestStep α} {result : Except Error α}
    (traces : AttemptTraces (withContext url step) trace result) :
    ∃ inner, AttemptTraces step trace inner ∧ result = urlContext url inner := by
  obtain ⟨inner, before, after, rfl, first, ends⟩ := Traces.of_bind traces
  obtain ⟨rfl, rfl⟩ := traces_pure.mp ends
  rw [List.append_nil]
  exact ⟨inner, first, rfl⟩

/-- The trace of one write in the loop. -/
theorem traces_write {result : Except Error Nat}
    (traces : AttemptTraces (withContext url (writeOnce url pointer length)) trace result) :
    ∃ reported, (∀ rest, issuedWrites (trace ++ rest) =
        { pointer, length, reported } :: issuedWrites rest) ∧
      writeResult reported result := by
  obtain ⟨inner, writes, rfl⟩ := traces_withContext traces
  obtain ⟨reported, issued, innerResult⟩ := traces_writeOnce writes
  refine ⟨reported, issued, ?_⟩
  cases reported with
  | some count =>
    obtain rfl : inner = .ok count := innerResult
    rfl
  | none =>
    obtain ⟨error, rfl⟩ := innerResult
    exact ⟨error.withUrl url, rfl⟩

/-- The loop writes what is left of the buffer. -/
theorem traces_writeDataWith {offset : Nat} {result : Except Error Unit}
    (within : offset ≤ length) (fits : 0 < offset → length ≤ u32Max)
    (traces : AttemptTraces (writeDataWith (writeOnce url) pointer length url offset) trace
      result) :
    ∃ writes, (∀ rest, issuedWrites (trace ++ rest) = writes ++ issuedWrites rest) ∧
      WritesRest (pointer + offset) (length - offset) writes result := by
  fun_induction writeDataWith (writeOnce url) pointer length url offset
    generalizing trace with
  | case1 offset before none =>
    rw [checkedSub, if_pos within] at none
    cases none
  | case2 offset before remaining found none =>
    obtain ⟨rfl, rfl⟩ := traces_fail.mp traces
    simp only [checkedAdd, ite_eq_right_iff, reduceCtorEq, imp_false, not_le] at none
    exact ⟨[], fun _ => rfl, .refused _ (by omega) (.inl none)⟩
  | case3 offset before remaining found position positionEq small ih =>
    obtain rfl : length - offset = remaining := by
      simpa [checkedSub, within] using found
    simp only [checkedAdd, Option.ite_none_right_eq_some, Option.some.injEq] at positionEq
    obtain ⟨addressable, rfl⟩ := positionEq
    have lengthFits : length ≤ u32Max := by
      rcases Nat.eq_zero_or_pos offset with rfl | positive
      · exact small
      · exact fits positive
    rcases traces.of_bind with
      ⟨error, write, rfl⟩ | ⟨count, start, rest, rfl, write, continues⟩
    · obtain ⟨reported, issued, failed⟩ := traces_write write
      cases reported with
      | some count => cases failed
      | none =>
        refine ⟨_, issued, .stopped error (by omega) ⟨addressable, small⟩ ?_⟩
        rintro ⟨count, impossible, -⟩
        cases impossible
    · obtain ⟨reported, issued, wrote⟩ := traces_write write
      obtain rfl : reported = some count := by
        cases reported with
        | none => obtain ⟨error, impossible⟩ := wrote; cases impossible
        | some other => exact congrArg some (Except.ok.inj wrote).symm
      split at continues
      · next next advanced =>
        obtain ⟨rfl, positive, nextWithin⟩ := advanceWriteOffset_eq_ok advanced
        obtain ⟨writes, issuedRest, writesRest⟩ :=
          ih count _ advanced nextWithin (fun _ => lengthFits) continues
        refine ⟨_ :: writes, fun behind => ?_, .advances ⟨addressable, small⟩
          ⟨positive, by omega⟩ ?_⟩
        · rw [List.append_assoc, issued, issuedRest, List.cons_append]
        · rwa [Nat.add_assoc, Nat.sub_sub]
      · next error advanced =>
        obtain ⟨rfl, rfl⟩ := traces_fail.mp continues
        rw [List.append_nil]
        refine ⟨_, issued, .stopped error (by omega) ⟨addressable, small⟩ ?_⟩
        rintro ⟨found, foundEq, positive, covered⟩
        obtain rfl := Option.some.inj foundEq
        have fitsUsize : length ≤ usizeMax := lengthFits.trans (by decide)
        rw [advanceWriteOffset_of_within url positive covered within fitsUsize] at advanced
        cases advanced
  | case4 offset before remaining found position positionEq large =>
    obtain rfl : length - offset = remaining := by
      simpa [checkedSub, within] using found
    obtain ⟨rfl, rfl⟩ := traces_fail.mp traces
    exact ⟨[], fun _ => rfl, .refused _ (by omega) (.inr (not_le.mp large))⟩
  | case5 offset behind =>
    obtain ⟨rfl, rfl⟩ := traces_pure.mp traces
    obtain rfl : offset = length := by omega
    rw [Nat.sub_self]
    exact ⟨[], fun _ => rfl, .done _⟩

theorem traces_writeData {result : Except Error Unit}
    (traces : AttemptTraces (writeData url pointer length) trace result) :
    ∃ writes, (∀ rest, issuedWrites (trace ++ rest) = writes ++ issuedWrites rest) ∧
      WritesRest pointer length writes result :=
  traces_writeDataWith (Nat.zero_le length) (fun impossible => absurd impossible (by simp))
    traces

end Loop

section Properties

variable {pointer length : Nat} {writes : List IssuedWrite} {result : Except Error Unit}

/-- The writes succeed exactly when they cover the buffer. -/
theorem WritesRest.ok_iff (rest : WritesRest pointer length writes result) :
    result = .ok () ↔ Covers pointer length writes := by
  induction rest with
  | done pointer => simp [Covers]
  | refused error nonempty large =>
    simp only [reduceCtorEq, Covers, false_iff]
    omega
  | stopped error nonempty within noProgress =>
    simp only [reduceCtorEq, false_iff]
    rintro ⟨-, -, count, reported, positive, covered, -⟩
    exact noProgress ⟨count, reported, positive, covered⟩
  | advances within progress rest ih =>
    rw [ih, Covers]
    constructor
    · exact fun covers => ⟨rfl, rfl, _, rfl, progress.1, progress.2, covers⟩
    · rintro ⟨-, -, count, reported, -, -, covers⟩
      obtain rfl := Option.some.inj reported
      exact covers

theorem acceptedBytes_cons (write : IssuedWrite) (writes : List IssuedWrite) :
    acceptedBytes (write :: writes) = write.reported.getD 0 + acceptedBytes writes :=
  rfl

/-- Every write offers what was not accepted before it. -/
theorem WritesRest.offers (rest : WritesRest pointer length writes result)
    {before after : List IssuedWrite} {write : IssuedWrite}
    (among : writes = before ++ write :: after) :
    (∀ earlier ∈ before, earlier.Progresses) ∧
      write.pointer = pointer + acceptedBytes before ∧
      acceptedBytes before + write.length = length ∧
      write.pointer ≤ usizeMax ∧ write.length ≤ u32Max := by
  induction rest generalizing before with
  | done pointer | refused error nonempty large => cases before <;> cases among
  | stopped error nonempty within noProgress =>
    obtain ⟨rfl, rfl, rfl⟩ : before = [] ∧ write = _ ∧ after = [] := by
      cases before with
      | nil => exact ⟨rfl, (List.cons.inj among).1.symm, (List.cons.inj among).2.symm⟩
      | cons => simp at among
    exact ⟨fun _ member => absurd member List.not_mem_nil, rfl, Nat.zero_add _, within.1,
      within.2⟩
  | advances within progress rest ih =>
    cases before with
    | nil =>
      obtain ⟨rfl, rfl⟩ := List.cons.inj among
      exact ⟨fun _ member => absurd member List.not_mem_nil, rfl, Nat.zero_add _, within.1,
        within.2⟩
    | cons first before =>
      obtain ⟨rfl, restEq⟩ := List.cons.inj among
      obtain ⟨earlier, pointerEq, lengthEq, bounds⟩ := ih restEq
      refine ⟨List.forall_mem_cons.mpr ⟨⟨_, rfl, progress.1, progress.2⟩, earlier⟩, ?_⟩
      rw [acceptedBytes_cons, Option.getD_some]
      exact ⟨by omega, by omega, bounds⟩

/-- A write without progress is the last one. -/
theorem WritesRest.stops (rest : WritesRest pointer length writes result)
    {write : IssuedWrite} (among : write ∈ writes) (noProgress : ¬write.Progresses) :
    (∃ before, writes = before ++ [write]) ∧ ∃ error, result = .error error := by
  induction rest with
  | done pointer | refused error nonempty large => cases among
  | stopped error nonempty within _ =>
    obtain rfl := List.mem_singleton.mp among
    exact ⟨⟨[], rfl⟩, error, rfl⟩
  | advances within progress rest ih =>
    rcases List.mem_cons.mp among with rfl | among
    · exact absurd ⟨_, rfl, progress.1, progress.2⟩ noProgress
    · obtain ⟨⟨before, rfl⟩, failed⟩ := ih among
      exact ⟨⟨_ :: before, rfl⟩, failed⟩

/-- Each write but the last accepts a byte. -/
theorem WritesRest.length_le (rest : WritesRest pointer length writes result) :
    writes.length ≤ length := by
  induction rest with
  | done pointer | refused error nonempty large => exact Nat.zero_le _
  | stopped error nonempty within noProgress => exact nonempty
  | advances within progress rest ih =>
    rw [List.length_cons]
    omega

theorem WritesRest.oversized (rest : WritesRest pointer length writes result)
    (large : u32Max < length) : writes = [] ∧ ∃ error, result = .error error := by
  cases rest with
  | done pointer => cases large
  | refused error nonempty _ => exact ⟨rfl, error, rfl⟩
  | stopped error nonempty within _ => exact absurd large (not_lt.mpr within.2)
  | advances within progress rest => exact absurd large (not_lt.mpr within.2)

/-- A buffer is refused for its length or for an address in it. -/
theorem WritesRest.refused_of_progress (rest : WritesRest pointer length writes result)
    {error : Error} (failed : result = .error error)
    (progress : ∀ write ∈ writes, write.Progresses) :
    usizeMax < pointer + acceptedBytes writes ∨ u32Max < length := by
  induction rest with
  | done pointer => cases failed
  | refused _ nonempty large => exact large
  | stopped _ nonempty within noProgress =>
    exact absurd (progress _ List.mem_cons_self) noProgress
  | advances within made rest ih =>
    rw [acceptedBytes_cons, Option.getD_some, ← Nat.add_assoc]
    rcases ih failed fun write member => progress write (List.mem_cons_of_mem _ member) with
      address | large
    · exact .inl address
    · exact .inr (by omega)

theorem Covers.acceptedBytes_eq (covers : Covers pointer length writes) :
    acceptedBytes writes = length := by
  induction writes generalizing pointer length with
  | nil => exact covers.symm
  | cons write writes ih =>
    obtain ⟨-, -, count, reported, positive, within, covers⟩ := covers
    rw [acceptedBytes_cons, reported, Option.getD_some, ih covers]
    omega

end Properties

/-- What the writes of a buffer are, and what they lead to. -/
structure WritesBuffer (pointer length : Nat) (writes : List IssuedWrite)
    (result : Except Error Unit) : Prop where
  ok_iff : result = .ok () ↔ Covers pointer length writes
  offers : ∀ before write after, writes = before ++ write :: after →
    (∀ earlier ∈ before, earlier.Progresses) ∧
      write.pointer = pointer + acceptedBytes before ∧
      acceptedBytes before + write.length = length ∧
      write.pointer ≤ usizeMax ∧ write.length ≤ u32Max
  stops : ∀ write ∈ writes, ¬write.Progresses →
    (∃ before, writes = before ++ [write]) ∧ ∃ error, result = .error error
  oversized : u32Max < length → writes = [] ∧ ∃ error, result = .error error
  overflowing : acceptedBytes writes < length → usizeMax < pointer + acceptedBytes writes →
    ∃ error, result = .error error
  otherwise : u32Max ≥ length → usizeMax ≥ pointer + acceptedBytes writes →
    (∀ write ∈ writes, write.Progresses) → result = .ok ()
  bounded : writes.length ≤ length

/-- However the writes complete, a buffer is written in contiguous parts, and successfully
exactly when they cover it. -/
theorem writeData_writesBuffer {url : Url} {pointer length : Nat} {trace : RequestTrace}
    {result : Except Error Unit}
    (traces : AttemptTraces (writeData url pointer length) trace result) :
    WritesBuffer pointer length (issuedWrites trace) result := by
  obtain ⟨writes, issued, rest⟩ := traces_writeData traces
  obtain rfl : issuedWrites trace = writes := by
    have whole := issued []
    rwa [List.append_nil, issuedWrites, List.append_nil] at whole
  refine ⟨rest.ok_iff, fun before write after => rest.offers, fun write => rest.stops,
    rest.oversized, ?_, ?_, rest.length_le⟩
  · intro notAll _
    cases result with
    | error error => exact ⟨error, rfl⟩
    | ok value => exact absurd (rest.ok_iff.mp rfl).acceptedBytes_eq notAll.ne
  · intro small addressable progress
    cases result with
    | ok value => rfl
    | error error =>
      rcases rest.refused_of_progress rfl progress with beyond | large
      · exact absurd addressable (not_le.mpr beyond)
      · exact absurd small (not_le.mpr large)

section Run

def twoWrites : RequestTrace :=
  [⟨.listen, (0 : Nat)⟩, ⟨.writeData 4096 10, (.ok () : Outcome)⟩,
    ⟨.poll 0, (.ok (.writeComplete 4) : Except SignalCancelled CallbackEvent)⟩,
    ⟨.listen, (1 : Nat)⟩, ⟨.writeData 4100 6, (.ok () : Outcome)⟩,
    ⟨.poll 1, (.ok (.writeComplete 6) : Except SignalCancelled CallbackEvent)⟩]

/-- A write that completes. -/
theorem write_trace (url : Url) (listener pointer length count : Nat) :
    AttemptTraces (withContext url (writeOnce url pointer length))
      [⟨.listen, listener⟩, ⟨.writeData pointer length, (.ok () : Outcome)⟩,
        ⟨.poll listener, (.ok (.writeComplete count) : Except SignalCancelled CallbackEvent)⟩]
      (.ok count) := by
  have waits := await_trace url (.writeData pointer length) id rfl listener
    (.writeComplete count)
  have writes : AttemptTraces (writeOnce url pointer length) _ (.ok count) :=
    waits.bind (.done _)
  exact Traces.bind writes (.done _)

theorem twoWrites_traces (url : Url) :
    AttemptTraces (writeData url 4096 10) twoWrites (.ok ()) := by
  rw [writeData, writeDataWith]
  refine (write_trace url 0 4096 10 4).bind ?_
  change AttemptTraces (writeDataWith (writeOnce url) 4096 10 url 4) _ _
  rw [writeDataWith]
  refine (write_trace url 1 4100 6 6).bind ?_
  change AttemptTraces (writeDataWith (writeOnce url) 4096 10 url 10) _ _
  rw [writeDataWith]
  exact .done _

theorem writeData_writesBuffer_two :
    ∃ trace result, AttemptTraces (writeData (bareUrl false) 4096 10) trace result ∧
      issuedWrites trace = [⟨4096, 10, some 4⟩, ⟨4100, 6, some 6⟩] ∧
      WritesBuffer 4096 10 (issuedWrites trace) result :=
  ⟨twoWrites, .ok (), twoWrites_traces (bareUrl false), rfl,
    writeData_writesBuffer (twoWrites_traces (bareUrl false))⟩

end Run

end Wrest
