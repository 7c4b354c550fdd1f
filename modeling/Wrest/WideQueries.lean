import Wrest.WideStrings
import Wrest.InteractionTraces

/-!
# Queries for wide strings

WinHTTP is asked for a string with a buffer and its size in bytes.  Without enough room
it fails and reports the size that is needed, so most queries take two calls, and the
string may change between them.

The documented replies are a condition on the exchanges: the string that is current at
the call is written with a NUL behind it when it fits.  Whether the size that is reported
then counts the NUL depends on the query.
-/

namespace Wrest.WideString

open Interaction Win32

def ERROR_INSUFFICIENT_BUFFER : Nat := 122

/-- The code units of the buffer, unless it is null, and the size in bytes. -/
structure QueryCall where
  buffer : Option Nat
  size : Nat
deriving DecidableEq, Repr

/-- The result, the size afterwards, the last error, and what is in the buffer. -/
structure QueryReply where
  succeeded : Bool
  size : Nat
  lastError : Nat
  written : List UInt16

def queryInterface : Interface where
  Call := QueryCall
  Reply _ := QueryReply

/-- A zeroed buffer that something was written to. -/
def filled (units : Nat) (written : List UInt16) : List UInt16 :=
  (written ++ List.replicate units 0).take units

/-- A string option.  A NUL at the end is not part of the string. -/
def winhttpQueryOptionUrl : Program queryInterface (Option String) :=
  .call ⟨none, 0⟩ fun first =>
    if first.succeeded = true ∨ first.size = 0 then .pure none
    else if first.lastError ≠ ERROR_INSUFFICIENT_BUFFER then .pure none
    else
      .call ⟨some (first.size / 2), first.size⟩ fun second =>
        if second.succeeded = false then .pure none
        else
          let buf := (filled (first.size / 2) second.written).take (second.size / 2)
          .pure (some (lossyString (stripSuffix buf)))

/-- The raw header block. -/
def winhttpQueryRawHeaders : Program queryInterface (Except Error String) :=
  .call ⟨none, 0⟩ fun first =>
    if first.succeeded = true then .pure (.ok "")
    else if first.lastError ≠ ERROR_INSUFFICIENT_BUFFER then
      .pure (.error (Error.fromWin32 first.lastError))
    else if first.size = 0 then .pure (.ok "")
    else
      .call ⟨some (first.size / 2), first.size⟩ fun second =>
        if second.succeeded = false then .pure (.error (Error.fromWin32 second.lastError))
        else
          let buf := (filled (first.size / 2) second.written).take (second.size / 2)
          .pure (.ok (lossyString buf))

/-- The code units of the buffer on the stack. -/
def headerBufLen : Nat := 16

/-- A short header string, in one call. -/
def winhttpQueryHeaderString : Program queryInterface (Option String) :=
  .call ⟨some headerBufLen, 2 * headerBufLen⟩ fun reply =>
    if reply.succeeded = true then
      if reply.size / 2 ≤ headerBufLen then
        .pure (some (lossyString
          ((filled headerBufLen reply.written).take (reply.size / 2))))
      else .pure none
    else .pure none

/-- The bytes of a string with its NUL. -/
def sizeNeeded (value : List UInt16) : Nat :=
  2 * (value.length + 1)

/-- The documented reply of a query whose string is `value`. -/
structure Documented (countsNul : Bool) (value : List UInt16)
    (exchange : Exchange queryInterface) : Prop where
  text : 0 ∉ value
  fits : exchange.call.buffer ≠ none → sizeNeeded value ≤ exchange.call.size →
    exchange.reply.succeeded = true ∧ exchange.reply.written = value ++ [0] ∧
      exchange.reply.size = if countsNul then sizeNeeded value else 2 * value.length
  refused : exchange.call.buffer = none ∨ exchange.call.size < sizeNeeded value →
    exchange.reply.succeeded = false ∧
      exchange.reply.lastError = ERROR_INSUFFICIENT_BUFFER ∧
      exchange.reply.size = sizeNeeded value

theorem take_filled {units : Nat} {value : List UInt16} (room : value.length + 1 ≤ units) :
    (filled units (value ++ [0])).take value.length = value ∧
      (filled units (value ++ [0])).take (value.length + 1) = value ++ [0] := by
  have short : min value.length units = value.length := by omega
  have whole : min (value.length + 1) units = value.length + 1 := by omega
  constructor
  · rw [filled, List.take_take, short, List.append_assoc, List.take_left]
  · have length : value.length + 1 = (value ++ [0]).length := by simp
    rw [filled, List.take_take, whole, length, List.take_left]

/-- A query reads the string that is current at its last call or nothing, and reads it
when the string does not change and there is room for it.  No call promises more room
than its buffer has. -/
structure ReadsString (room : List UInt16 → Prop) (trace : List (Exchange queryInterface))
    (values : List (List UInt16)) (result : Option String) : Prop where
  bounded : ∀ exchange ∈ trace, ∀ units, exchange.call.buffer = some units →
    exchange.call.size ≤ 2 * units
  current : ∀ text, result = some text → ∃ value, values.getLast? = some value ∧
    text = lossyString value
  settled : ∀ value, (∀ other ∈ values, other = value) → room value →
    result = some (lossyString value)

section TwoCalls

variable {α : Type} {countsNul : Bool} {trace : List (Exchange queryInterface)}
variable {values : List (List UInt16)}

/-- The query asks for the size first, and passes on what it was told. -/
def AsksTwice (query : Program queryInterface α) (finish : QueryReply → QueryReply → α) :
    Prop :=
  ∃ next : QueryReply → Program queryInterface α,
    query = .call ⟨none, 0⟩ next ∧ ∀ first : QueryReply, first.succeeded = false →
      first.lastError = ERROR_INSUFFICIENT_BUFFER → first.size ≠ 0 →
        next first = .call ⟨some (first.size / 2), first.size⟩ fun second =>
          .pure (finish first second)

theorem twoCalls {finish : QueryReply → QueryReply → α} {result : α}
    {query : Program queryInterface α}
    (asks : AsksTwice query finish)
    (traces : Traces query trace result)
    (answers : List.Forall₂ (Documented countsNul) values trace) :
    ∃ before value first second, values = [before, value] ∧
      trace = [⟨⟨none, 0⟩, first⟩, ⟨⟨some (first.size / 2), first.size⟩, second⟩] ∧
      first.size = sizeNeeded before ∧
      Documented countsNul value ⟨⟨some (first.size / 2), first.size⟩, second⟩ ∧
      result = finish first second := by
  obtain ⟨next, rfl, continues⟩ := asks
  obtain ⟨first, rest, rfl, restTraces⟩ := traces_call.mp traces
  obtain ⟨before, behind, documented, restAnswers, rfl⟩ :=
    List.forall₂_cons_right_iff.mp answers
  obtain ⟨failed, insufficient, size⟩ := documented.refused (.inl rfl)
  have some : first.size ≠ 0 := by
    dsimp only at size
    rw [size, sizeNeeded]
    omega
  rw [continues first failed insufficient some] at restTraces
  obtain ⟨second, remaining, rfl, lastTraces⟩ := traces_call.mp restTraces
  obtain ⟨rfl, rfl⟩ := traces_pure.mp lastTraces
  obtain ⟨value, none, documentedToo, lastAnswers, rfl⟩ :=
    List.forall₂_cons_right_iff.mp restAnswers
  obtain rfl := List.forall₂_nil_right_iff.mp lastAnswers
  exact ⟨before, value, first, second, rfl, rfl, size, documentedToo, rfl⟩

/-- What two calls read, from what the second one reads. -/
theorem readsString_of_twoCalls (finish : QueryReply → QueryReply → α) {result : α}
    {query : Program queryInterface α} (toText : α → Option String)
    (asks : AsksTwice query finish)
    (reads : ∀ first second before value, first.size = sizeNeeded before →
      sizeNeeded value ≤ sizeNeeded before → 0 ∉ value → second.succeeded = true →
      second.written = value ++ [0] →
      second.size = (if countsNul then sizeNeeded value else 2 * value.length) →
        toText (finish first second) = some (lossyString value))
    (fails : ∀ first second, second.succeeded = false → toText (finish first second) = none)
    (traces : Traces query trace result)
    (answers : List.Forall₂ (Documented countsNul) values trace) :
    ReadsString (fun _ => True) trace values (toText result) := by
  obtain ⟨before, value, first, second, rfl, rfl, size, documented, rfl⟩ :=
    twoCalls asks traces answers
  have even : first.size ≤ 2 * (first.size / 2) := by
    rw [size, sizeNeeded]
    omega
  by_cases fits : sizeNeeded value ≤ sizeNeeded before
  · obtain ⟨succeeded, written, reported⟩ := documented.fits nofun (size ▸ fits)
    have text := reads first second before value size fits documented.text succeeded written
      reported
    refine ⟨?_, ?_, ?_⟩
    · intro exchange member units there
      simp only [List.mem_cons, List.not_mem_nil, or_false] at member
      obtain rfl | rfl := member
      · cases there
      · obtain rfl := Option.some.inj there
        exact even
    · intro other same
      exact ⟨value, rfl, Option.some.inj (same.symm.trans text)⟩
    · intro other all _
      rw [← all value (by simp)]
      exact text
  · have refused := documented.refused (.inr (size ▸ Nat.lt_of_not_le fits))
    have none := fails first second refused.1
    refine ⟨?_, ?_, ?_⟩
    · intro exchange member units there
      simp only [List.mem_cons, List.not_mem_nil, or_false] at member
      obtain rfl | rfl := member
      · cases there
      · obtain rfl := Option.some.inj there
        exact even
    · intro other same
      rw [none] at same
      cases same
    · intro other all _
      rw [all value (by simp), all before (by simp)] at fits
      exact absurd le_rfl fits

end TwoCalls

section Queries

variable {countsNul : Bool} {trace : List (Exchange queryInterface)}
variable {values : List (List UInt16)}

theorem winhttpQueryOptionUrl_reads {result : Option String}
    (traces : Traces winhttpQueryOptionUrl trace result)
    (answers : List.Forall₂ (Documented countsNul) values trace) :
    ReadsString (fun _ => True) trace values result := by
  refine readsString_of_twoCalls (fun first second =>
    if second.succeeded = false then none
    else
      let buf := (filled (first.size / 2) second.written).take (second.size / 2)
      some (lossyString (stripSuffix buf))) id ?_ ?_ ?_ traces answers
  · refine ⟨_, rfl, fun first failed insufficient some => ?_⟩
    simp only [failed, insufficient, some, ne_eq, not_true_eq_false, Bool.false_eq_true,
      or_self, if_false]
    congr 1
    funext second
    cases second.succeeded <;> rfl
  · intro first second before value size fits text succeeded written reported
    have room : value.length + 1 ≤ first.size / 2 := by
      rw [size]
      unfold sizeNeeded at *
      omega
    obtain ⟨plain, terminated⟩ := take_filled room
    have strip : stripSuffix ((filled (first.size / 2) second.written).take
        (second.size / 2)) = value := by
      rw [written, reported]
      cases countsNul with
      | true =>
        have units : sizeNeeded value / 2 = value.length + 1 := by
          unfold sizeNeeded
          omega
        rw [if_pos rfl, units, terminated, stripSuffix_append_nul]
      | false =>
        have units : 2 * value.length / 2 = value.length := by omega
        rw [if_neg Bool.false_ne_true, units, plain, stripSuffix_of_notMem text]
    simp [succeeded, strip]
  · intro first second failed
    simp [failed]

theorem winhttpQueryRawHeaders_reads {result : Except Error String}
    (traces : Traces winhttpQueryRawHeaders trace result)
    (answers : List.Forall₂ (Documented false) values trace) :
    ReadsString (fun _ => True) trace values result.toOption := by
  refine readsString_of_twoCalls (fun first second =>
    if second.succeeded = false then .error (Error.fromWin32 second.lastError)
    else
      let buf := (filled (first.size / 2) second.written).take (second.size / 2)
      .ok (lossyString buf)) Except.toOption ?_ ?_ ?_ traces answers
  · refine ⟨_, rfl, fun first failed insufficient some => ?_⟩
    simp only [failed, insufficient, some, ne_eq, not_true_eq_false, Bool.false_eq_true,
      if_false]
    congr 1
    funext second
    cases second.succeeded <;> rfl
  · intro first second before value size fits text succeeded written reported
    have room : value.length + 1 ≤ first.size / 2 := by
      rw [size]
      unfold sizeNeeded at *
      omega
    have units : second.size / 2 = value.length := by
      rw [reported, if_neg Bool.false_ne_true]
      omega
    simp [succeeded, written, units, (take_filled room).1, Except.toOption]
  · intro first second failed
    simp [failed, Except.toOption]

theorem winhttpQueryHeaderString_reads {result : Option String}
    (traces : Traces winhttpQueryHeaderString trace result)
    (answers : List.Forall₂ (Documented false) values trace) :
    ReadsString (fun value => value.length < headerBufLen) trace values result := by
  obtain ⟨reply, rest, rfl, restTraces⟩ := traces_call.mp traces
  obtain ⟨value, behind, documented, restAnswers, rfl⟩ :=
    List.forall₂_cons_right_iff.mp answers
  by_cases fits : value.length < headerBufLen
  · have needed : sizeNeeded value ≤ 2 * headerBufLen := by
      unfold sizeNeeded
      omega
    obtain ⟨succeeded, written, reported⟩ := documented.fits nofun needed
    have units : reply.size / 2 = value.length := by
      dsimp only at reported
      rw [reported, if_neg Bool.false_ne_true]
      omega
    dsimp only at succeeded written
    rw [if_pos succeeded, if_pos (by omega), written, units,
      (take_filled (Nat.succ_le_of_lt fits)).1] at restTraces
    obtain ⟨rfl, rfl⟩ := traces_pure.mp restTraces
    obtain rfl := List.forall₂_nil_right_iff.mp restAnswers
    refine ⟨by simp, ?_, ?_⟩
    · intro text same
      exact ⟨value, rfl, (Option.some.inj same).symm⟩
    · intro other all _
      rw [all value (by simp)]
  · have short : 2 * headerBufLen < sizeNeeded value := by
      unfold sizeNeeded
      omega
    have failed := (documented.refused (.inr short)).1
    dsimp only at failed
    rw [failed, if_neg Bool.false_ne_true] at restTraces
    obtain ⟨rfl, rfl⟩ := traces_pure.mp restTraces
    refine ⟨by simp, nofun, ?_⟩
    intro other all room
    rw [← all value (by simp)] at room
    exact absurd room fits

/-- WinHTTP refuses the query: a call fails, and not only to report a size. -/
def Refuses (exchange : Exchange queryInterface) : Prop :=
  exchange.reply.succeeded = false ∧
    (exchange.call.buffer = none → exchange.reply.lastError ≠ ERROR_INSUFFICIENT_BUFFER)

theorem winhttpQueryOptionUrl_refused {result : Option String}
    (traces : Traces winhttpQueryOptionUrl trace result) {exchange : Exchange queryInterface}
    (member : exchange ∈ trace) (refuses : Refuses exchange) : result = none := by
  obtain ⟨first, rest, rfl, restTraces⟩ := traces_call.mp traces
  split at restTraces
  · exact (traces_pure.mp restTraces).2
  split at restTraces
  · exact (traces_pure.mp restTraces).2
  next insufficient =>
    obtain ⟨second, last, rfl, lastTraces⟩ := traces_call.mp restTraces
    have ends : last = [] := by
      split at lastTraces <;> exact (traces_pure.mp lastTraces).1
    simp only [ends, List.mem_cons, List.not_mem_nil, or_false] at member
    obtain rfl | rfl := member
    · exact absurd (refuses.2 rfl) insufficient
    · rw [if_pos refuses.1] at lastTraces
      exact (traces_pure.mp lastTraces).2

theorem winhttpQueryRawHeaders_refused {result : Except Error String}
    (traces : Traces winhttpQueryRawHeaders trace result)
    {exchange : Exchange queryInterface} (member : exchange ∈ trace)
    (refuses : Refuses exchange) :
    result = .error (Error.fromWin32 exchange.reply.lastError) := by
  obtain ⟨first, rest, rfl, restTraces⟩ := traces_call.mp traces
  split at restTraces
  · next succeeded =>
    obtain ⟨rfl, -⟩ := traces_pure.mp restTraces
    obtain rfl := List.mem_singleton.mp member
    cases refuses.1.symm.trans succeeded
  split at restTraces
  · obtain ⟨rfl, rfl⟩ := traces_pure.mp restTraces
    rw [List.mem_singleton.mp member]
  next insufficient =>
    have isLater : exchange ∈ rest := by
      refine (List.mem_cons.mp member).resolve_left ?_
      rintro rfl
      exact absurd (refuses.2 rfl) insufficient
    split at restTraces
    · rw [(traces_pure.mp restTraces).1] at isLater
      cases isLater
    obtain ⟨second, last, rfl, lastTraces⟩ := traces_call.mp restTraces
    have ends : last = [] := by
      split at lastTraces <;> exact (traces_pure.mp lastTraces).1
    rw [ends, List.mem_singleton] at isLater
    subst isLater
    rw [if_pos refuses.1] at lastTraces
    exact (traces_pure.mp lastTraces).2

theorem winhttpQueryHeaderString_refused {result : Option String}
    (traces : Traces winhttpQueryHeaderString trace result)
    {exchange : Exchange queryInterface} (member : exchange ∈ trace)
    (refuses : Refuses exchange) : result = none := by
  obtain ⟨reply, rest, rfl, restTraces⟩ := traces_call.mp traces
  split at restTraces
  · next succeeded =>
    have ends : rest = [] := by
      split at restTraces <;> exact (traces_pure.mp restTraces).1
    rw [ends, List.mem_singleton] at member
    subst member
    cases refuses.1.symm.trans succeeded
  · exact (traces_pure.mp restTraces).2

end Queries

/-- The exchanges of a URL query that reads two characters. -/
def urlExchanges : List (Exchange queryInterface) :=
  [⟨⟨none, 0⟩, ⟨false, 6, ERROR_INSUFFICIENT_BUFFER, []⟩⟩,
    ⟨⟨some 3, 6⟩, ⟨true, 6, 0, [104, 105, 0]⟩⟩]

theorem urlExchanges_documented :
    List.Forall₂ (Documented true) [[104, 105], [104, 105]] urlExchanges := by
  refine .cons ⟨by decide, ?_, ?_⟩ (.cons ⟨by decide, ?_, ?_⟩ .nil)
  · exact fun buffer => absurd rfl buffer
  · exact fun _ => ⟨rfl, rfl, rfl⟩
  · exact fun _ _ => ⟨rfl, rfl, rfl⟩
  · rintro (null | short)
    · cases null
    · exact absurd short (by decide)

/-- The header block could be sized, but not be read. -/
def refusedExchanges : List (Exchange queryInterface) :=
  [⟨⟨none, 0⟩, ⟨false, 6, ERROR_INSUFFICIENT_BUFFER, []⟩⟩, ⟨⟨some 3, 6⟩, ⟨false, 6, 6, []⟩⟩]

end Wrest.WideString
