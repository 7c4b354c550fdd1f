/-!
# Decoding UTF-8

A streaming decoder handles one octet of its queue after the other, and may put octets
back when it reports an error.  Decoding replaces each error by one replacement
character.

The streaming decoder of UTF-8 keeps the code point read so far and the range of the next
octet.  Decoding a whole text replaces each longest beginning of a sequence that cannot
be completed, and an octet that begins no sequence.  Both give the same characters.
-/

namespace Wrest.TextDecoding

/-- What handling an octet, or the end of the queue, results in. -/
inductive Outcome
  | finished
  | more
  | scalar (character : Char)
  | error (restored : List UInt8)
deriving DecidableEq

def replacement : Char := '\ufffd'

section Processing

variable {State : Type}

/-- A queue is processed from a state into characters. -/
inductive Processes (handler : State → Option UInt8 → State × Outcome) :
    State → List UInt8 → List Char → Prop
  | finished {state next : State} (handled : handler state none = (next, .finished)) :
      Processes handler state [] []
  | atEnd {state next : State} {restored : List UInt8} {output : List Char}
      (handled : handler state none = (next, .error restored))
      (rest : Processes handler next restored output) :
      Processes handler state [] (replacement :: output)
  | more {state next : State} {octet : UInt8} {queue : List UInt8} {output : List Char}
      (handled : handler state (some octet) = (next, .more))
      (rest : Processes handler next queue output) :
      Processes handler state (octet :: queue) output
  | scalar {state next : State} {octet : UInt8} {queue : List UInt8} {character : Char}
      {output : List Char} (handled : handler state (some octet) = (next, .scalar character))
      (rest : Processes handler next queue output) :
      Processes handler state (octet :: queue) (character :: output)
  | error {state next : State} {octet : UInt8} {queue restored : List UInt8}
      {output : List Char} (handled : handler state (some octet) = (next, .error restored))
      (rest : Processes handler next (restored ++ queue) output) :
      Processes handler state (octet :: queue) (replacement :: output)

/-- A queue is processed in one way only. -/
theorem Processes.unique {handler : State → Option UInt8 → State × Outcome} {state : State}
    {queue : List UInt8} {output other : List Char}
    (processes : Processes handler state queue output)
    (otherwise : Processes handler state queue other) : other = output := by
  induction processes generalizing other with
  | finished handled =>
    cases otherwise with
    | finished _ => rfl
    | atEnd handledToo _ => cases handled.symm.trans handledToo
  | atEnd handled _ ih =>
    cases otherwise with
    | finished handledToo => cases handled.symm.trans handledToo
    | atEnd handledToo rest =>
      cases handled.symm.trans handledToo
      rw [ih rest]
  | more handled _ ih =>
    cases otherwise with
    | more handledToo rest =>
      cases handled.symm.trans handledToo
      exact ih rest
    | scalar handledToo _ => cases handled.symm.trans handledToo
    | error handledToo _ => cases handled.symm.trans handledToo
  | scalar handled _ ih =>
    cases otherwise with
    | more handledToo _ => cases handled.symm.trans handledToo
    | scalar handledToo rest =>
      cases handled.symm.trans handledToo
      rw [ih rest]
    | error handledToo _ => cases handled.symm.trans handledToo
  | error handled _ ih =>
    cases otherwise with
    | more handledToo _ => cases handled.symm.trans handledToo
    | scalar handledToo _ => cases handled.symm.trans handledToo
    | error handledToo rest =>
      cases handled.symm.trans handledToo
      rw [ih rest]

end Processing

/-- The state of the streaming decoder of UTF-8. -/
structure Utf8State where
  codePoint : Nat := 0
  bytesSeen : Nat := 0
  bytesNeeded : Nat := 0
  lowerBoundary : Nat := 0x80
  upperBoundary : Nat := 0xBF

/-- The first octet of a sequence. -/
def utf8Begin (octet : UInt8) : Utf8State × Outcome :=
  let byte := octet.toNat
  if byte ≤ 0x7F then
    ({}, .scalar (Char.ofNat byte))
  else if 0xC2 ≤ byte ∧ byte ≤ 0xDF then
    ({ codePoint := byte % 0x20, bytesNeeded := 1 }, .more)
  else if 0xE0 ≤ byte ∧ byte ≤ 0xEF then
    ({ codePoint := byte % 0x10
       bytesNeeded := 2
       lowerBoundary := if byte = 0xE0 then 0xA0 else 0x80
       upperBoundary := if byte = 0xED then 0x9F else 0xBF }, .more)
  else if 0xF0 ≤ byte ∧ byte ≤ 0xF4 then
    ({ codePoint := byte % 0x08
       bytesNeeded := 3
       lowerBoundary := if byte = 0xF0 then 0x90 else 0x80
       upperBoundary := if byte = 0xF4 then 0x8F else 0xBF }, .more)
  else
    ({}, .error [])

/-- A later octet of a sequence. -/
def utf8Continue (state : Utf8State) (octet : UInt8) : Utf8State × Outcome :=
  let byte := octet.toNat
  if state.lowerBoundary ≤ byte ∧ byte ≤ state.upperBoundary then
    let codePoint := 64 * state.codePoint + byte % 64
    if state.bytesSeen + 1 = state.bytesNeeded then
      ({}, .scalar (Char.ofNat codePoint))
    else
      ({ codePoint
         bytesSeen := state.bytesSeen + 1
         bytesNeeded := state.bytesNeeded }, .more)
  else
    ({}, .error [octet])

def utf8Handler (state : Utf8State) : Option UInt8 → Utf8State × Outcome
  | none => if state.bytesNeeded ≠ 0 then ({}, .error []) else (state, .finished)
  | some octet => if state.bytesNeeded = 0 then utf8Begin octet else utf8Continue state octet

section Lossy

def isContinuation (octet : UInt8) : Bool :=
  0x80 ≤ octet.toNat && octet.toNat ≤ 0xBF

/-- The second octet of a sequence of three or four. -/
def isSecond (first second : UInt8) : Bool :=
  if first.toNat = 0xE0 then 0xA0 ≤ second.toNat && second.toNat ≤ 0xBF
  else if first.toNat = 0xED then 0x80 ≤ second.toNat && second.toNat ≤ 0x9F
  else if first.toNat = 0xF0 then 0x90 ≤ second.toNat && second.toNat ≤ 0xBF
  else if first.toNat = 0xF4 then 0x80 ≤ second.toNat && second.toNat ≤ 0x8F
  else isContinuation second

/-- The length of the sequences that an octet begins. -/
def charWidth (first : UInt8) : Nat :=
  if first.toNat ≤ 0x7F then 1
  else if 0xC2 ≤ first.toNat ∧ first.toNat ≤ 0xDF then 2
  else if 0xE0 ≤ first.toNat ∧ first.toNat ≤ 0xEF then 3
  else if 0xF0 ≤ first.toNat ∧ first.toNat ≤ 0xF4 then 4
  else 0

def addOctet (codePoint : Nat) (octet : UInt8) : Nat :=
  64 * codePoint + octet.toNat % 64

/-- The characters of octets.  The longest beginning of a sequence that cannot be
completed is replaced as a whole. -/
def fromUtf8Lossy : List UInt8 → List Char
  | [] => []
  | first :: rest =>
    match charWidth first with
    | 1 => Char.ofNat first.toNat :: fromUtf8Lossy rest
    | 2 =>
      match rest with
      | [] => [replacement]
      | second :: behind =>
        if isContinuation second then
          Char.ofNat (addOctet (first.toNat % 0x20) second) :: fromUtf8Lossy behind
        else
          replacement :: fromUtf8Lossy (second :: behind)
    | 3 =>
      match rest with
      | [] => [replacement]
      | [second] =>
        if isSecond first second then [replacement]
        else replacement :: fromUtf8Lossy [second]
      | second :: third :: behind =>
        if isSecond first second then
          if isContinuation third then
            Char.ofNat (addOctet (addOctet (first.toNat % 0x10) second) third) ::
              fromUtf8Lossy behind
          else
            replacement :: fromUtf8Lossy (third :: behind)
        else
          replacement :: fromUtf8Lossy (second :: third :: behind)
    | 4 =>
      match rest with
      | [] => [replacement]
      | [second] =>
        if isSecond first second then [replacement]
        else replacement :: fromUtf8Lossy [second]
      | [second, third] =>
        if isSecond first second then
          if isContinuation third then [replacement]
          else replacement :: fromUtf8Lossy [third]
        else
          replacement :: fromUtf8Lossy [second, third]
      | second :: third :: fourth :: behind =>
        if isSecond first second then
          if isContinuation third then
            if isContinuation fourth then
              Char.ofNat (addOctet (addOctet (addOctet (first.toNat % 0x08) second) third)
                fourth) :: fromUtf8Lossy behind
            else
              replacement :: fromUtf8Lossy (fourth :: behind)
          else
            replacement :: fromUtf8Lossy (third :: fourth :: behind)
        else
          replacement :: fromUtf8Lossy (second :: third :: fourth :: behind)
    | _ => replacement :: fromUtf8Lossy rest

example : fromUtf8Lossy [0x61, 0xE2, 0x82, 0xC3, 0xA9, 0xFF] =
    ['a', replacement, 'é', replacement] := by decide

end Lossy

section Agreement

variable {state : Utf8State} {octet : UInt8} {queue : List UInt8} {output : List Char}

/-- An octet that may follow what was read. -/
def Utf8State.Accepts (state : Utf8State) (octet : UInt8) : Prop :=
  state.lowerBoundary ≤ octet.toNat ∧ octet.toNat ≤ state.upperBoundary

theorem processes_nil : Processes utf8Handler {} [] [] := by
  have handled : utf8Handler {} none = ({}, .finished) := rfl
  exact .finished handled

/-- The end of the queue inside a sequence. -/
theorem processes_pending_nil (pending : state.bytesNeeded ≠ 0) :
    Processes utf8Handler state [] [replacement] := by
  have handled : utf8Handler state none = ({}, .error []) := if_pos pending
  exact .atEnd handled processes_nil

theorem processes_pending_error (pending : state.bytesNeeded ≠ 0)
    (refused : ¬state.Accepts octet)
    (rest : Processes utf8Handler {} (octet :: queue) output) :
    Processes utf8Handler state (octet :: queue) (replacement :: output) := by
  have handled : utf8Handler state (some octet) = ({}, .error [octet]) :=
    (if_neg pending).trans (if_neg refused)
  exact .error handled rest

theorem processes_pending_more (accepted : state.Accepts octet)
    (more : state.bytesSeen + 1 < state.bytesNeeded)
    (rest : Processes utf8Handler
      { codePoint := addOctet state.codePoint octet
        bytesSeen := state.bytesSeen + 1
        bytesNeeded := state.bytesNeeded } queue output) :
    Processes utf8Handler state (octet :: queue) output := by
  refine .more ?_ rest
  have pending : state.bytesNeeded ≠ 0 := by omega
  have notLast : state.bytesSeen + 1 ≠ state.bytesNeeded := by omega
  rw [utf8Handler, if_neg pending]
  exact (if_pos accepted).trans (if_neg notLast)

theorem processes_pending_last (accepted : state.Accepts octet)
    (last : state.bytesSeen + 1 = state.bytesNeeded)
    (rest : Processes utf8Handler {} queue output) :
    Processes utf8Handler state (octet :: queue)
      (Char.ofNat (addOctet state.codePoint octet) :: output) := by
  refine .scalar ?_ rest
  have pending : state.bytesNeeded ≠ 0 := by omega
  rw [utf8Handler, if_neg pending]
  exact (if_pos accepted).trans (if_pos last)

theorem processes_first (handled : utf8Begin octet = (state, .more))
    (rest : Processes utf8Handler state queue output) :
    Processes utf8Handler {} (octet :: queue) output :=
  .more handled rest

theorem processes_wrong (width : charWidth octet = 0)
    (rest : Processes utf8Handler {} queue output) :
    Processes utf8Handler {} (octet :: queue) (replacement :: output) := by
  have handled : utf8Begin octet = ({}, .error []) := by grind [charWidth, utf8Begin]
  exact .error handled rest

theorem processes_ascii (width : charWidth octet = 1)
    (rest : Processes utf8Handler {} queue output) :
    Processes utf8Handler {} (octet :: queue) (Char.ofNat octet.toNat :: output) := by
  have handled : utf8Begin octet = ({}, .scalar (Char.ofNat octet.toNat)) := by
    grind [charWidth, utf8Begin]
  exact .scalar handled rest

/-- The state behind the first octet of a sequence of two. -/
def afterTwo (first : UInt8) : Utf8State :=
  { codePoint := first.toNat % 0x20, bytesNeeded := 1 }

/-- The state behind the first octet of a sequence of three or four. -/
def afterFirst (first : UInt8) (codePoint bytesNeeded : Nat) : Utf8State :=
  { codePoint
    bytesNeeded
    lowerBoundary :=
      if first.toNat = 0xE0 then 0xA0 else if first.toNat = 0xF0 then 0x90 else 0x80
    upperBoundary :=
      if first.toNat = 0xED then 0x9F else if first.toNat = 0xF4 then 0x8F else 0xBF }

theorem utf8Begin_two (width : charWidth octet = 2) :
    utf8Begin octet = (afterTwo octet, .more) := by
  grind [charWidth, utf8Begin, afterTwo]

theorem utf8Begin_three (width : charWidth octet = 3) :
    utf8Begin octet = (afterFirst octet (octet.toNat % 0x10) 2, .more) := by
  grind [charWidth, utf8Begin, afterFirst]

theorem utf8Begin_four (width : charWidth octet = 4) :
    utf8Begin octet = (afterFirst octet (octet.toNat % 0x08) 3, .more) := by
  grind [charWidth, utf8Begin, afterFirst]

theorem accepts_afterFirst (first second : UInt8) (codePoint bytesNeeded : Nat) :
    (afterFirst first codePoint bytesNeeded).Accepts second ↔
      isSecond first second = true := by
  grind [afterFirst, Utf8State.Accepts, isSecond, isContinuation]

/-- A state that takes any continuation next. -/
theorem accepts_default (octet : UInt8) (codePoint bytesSeen bytesNeeded : Nat) :
    Utf8State.Accepts { codePoint, bytesSeen, bytesNeeded } octet ↔
      isContinuation octet = true := by
  grind [Utf8State.Accepts, isContinuation]

theorem not_accepts_afterFirst {first second : UInt8} {codePoint bytesNeeded : Nat}
    (refused : ¬isSecond first second = true) :
    ¬(afterFirst first codePoint bytesNeeded).Accepts second :=
  mt (accepts_afterFirst first second codePoint bytesNeeded).mp refused

theorem not_accepts_default {codePoint bytesSeen bytesNeeded : Nat}
    (refused : ¬isContinuation octet = true) :
    ¬Utf8State.Accepts { codePoint, bytesSeen, bytesNeeded } octet :=
  mt (accepts_default octet codePoint bytesSeen bytesNeeded).mp refused

/-- Both ways of decoding give the same characters. -/
theorem processes_fromUtf8Lossy (octets : List UInt8) :
    Processes utf8Handler {} octets (fromUtf8Lossy octets) := by
  have one : 1 ≠ 0 := by decide
  have two : 2 ≠ 0 := by decide
  have three : 3 ≠ 0 := by decide
  have oneOfTwo : 0 + 1 < 2 := by decide
  have oneOfThree : 0 + 1 < 3 := by decide
  have twoOfThree : 1 + 1 < 3 := by decide
  fun_induction fromUtf8Lossy octets with
  | case1 => exact processes_nil
  | case2 first rest width ih => exact processes_ascii width ih
  | case3 first width =>
    exact processes_first (utf8Begin_two width) (processes_pending_nil one)
  | case4 first width second behind continues ih =>
    exact processes_first (utf8Begin_two width)
      (processes_pending_last ((accepts_default second _ 0 1).mpr continues) rfl ih)
  | case5 first width second behind refused ih =>
    exact processes_first (utf8Begin_two width)
      (processes_pending_error one (not_accepts_default refused) ih)
  | case6 first width =>
    exact processes_first (utf8Begin_three width) (processes_pending_nil two)
  | case7 first width second isSecond =>
    exact processes_first (utf8Begin_three width)
      (processes_pending_more ((accepts_afterFirst first second _ 2).mpr isSecond)
        oneOfTwo (processes_pending_nil two))
  | case8 first width second refused ih =>
    exact processes_first (utf8Begin_three width)
      (processes_pending_error two (not_accepts_afterFirst refused) ih)
  | case9 first width second third behind isSecond continues ih =>
    exact processes_first (utf8Begin_three width)
      (processes_pending_more ((accepts_afterFirst first second _ 2).mpr isSecond)
        oneOfTwo
        (processes_pending_last ((accepts_default third _ 1 2).mpr continues) rfl ih))
  | case10 first width second third behind isSecond refused ih =>
    exact processes_first (utf8Begin_three width)
      (processes_pending_more ((accepts_afterFirst first second _ 2).mpr isSecond)
        oneOfTwo (processes_pending_error two (not_accepts_default refused) ih))
  | case11 first width second third behind refused ih =>
    exact processes_first (utf8Begin_three width)
      (processes_pending_error two (not_accepts_afterFirst refused) ih)
  | case12 first width =>
    exact processes_first (utf8Begin_four width) (processes_pending_nil three)
  | case13 first width second isSecond =>
    exact processes_first (utf8Begin_four width)
      (processes_pending_more ((accepts_afterFirst first second _ 3).mpr isSecond)
        oneOfThree (processes_pending_nil three))
  | case14 first width second refused ih =>
    exact processes_first (utf8Begin_four width)
      (processes_pending_error three (not_accepts_afterFirst refused) ih)
  | case15 first width second third isSecond continues =>
    exact processes_first (utf8Begin_four width)
      (processes_pending_more ((accepts_afterFirst first second _ 3).mpr isSecond)
        oneOfThree
        (processes_pending_more ((accepts_default third _ 1 3).mpr continues)
          twoOfThree
          (processes_pending_nil three)))
  | case16 first width second third isSecond refused ih =>
    exact processes_first (utf8Begin_four width)
      (processes_pending_more ((accepts_afterFirst first second _ 3).mpr isSecond)
        oneOfThree (processes_pending_error three (not_accepts_default refused) ih))
  | case17 first width second third refused ih =>
    exact processes_first (utf8Begin_four width)
      (processes_pending_error three (not_accepts_afterFirst refused) ih)
  | case18 first width second third fourth behind isSecond thirdContinues continues ih =>
    exact processes_first (utf8Begin_four width)
      (processes_pending_more ((accepts_afterFirst first second _ 3).mpr isSecond)
        oneOfThree
        (processes_pending_more ((accepts_default third _ 1 3).mpr thirdContinues)
          twoOfThree
          (processes_pending_last ((accepts_default fourth _ 2 3).mpr continues) rfl ih)))
  | case19 first width second third fourth behind isSecond thirdContinues refused ih =>
    exact processes_first (utf8Begin_four width)
      (processes_pending_more ((accepts_afterFirst first second _ 3).mpr isSecond)
        oneOfThree
        (processes_pending_more ((accepts_default third _ 1 3).mpr thirdContinues)
          twoOfThree (processes_pending_error three (not_accepts_default refused) ih)))
  | case20 first width second third fourth behind isSecond refused ih =>
    exact processes_first (utf8Begin_four width)
      (processes_pending_more ((accepts_afterFirst first second _ 3).mpr isSecond)
        oneOfThree (processes_pending_error three (not_accepts_default refused) ih))
  | case21 first width second third fourth behind refused ih =>
    exact processes_first (utf8Begin_four width)
      (processes_pending_error three (not_accepts_afterFirst refused) ih)
  | case22 first rest notOne notTwo notThree notFour ih =>
    refine processes_wrong ?_ ih
    grind [charWidth]

end Agreement

section Encoded

variable {first second third fourth : UInt8}

theorem fromUtf8Lossy_one (width : charWidth first = 1) (rest : List UInt8) :
    fromUtf8Lossy (first :: rest) = Char.ofNat first.toNat :: fromUtf8Lossy rest := by
  conv => lhs; unfold fromUtf8Lossy
  simp only [width]

theorem fromUtf8Lossy_two (width : charWidth first = 2)
    (continues : isContinuation second = true) (rest : List UInt8) :
    fromUtf8Lossy (first :: second :: rest) =
      Char.ofNat (addOctet (first.toNat % 0x20) second) :: fromUtf8Lossy rest := by
  rw [fromUtf8Lossy, width]
  exact if_pos continues

theorem fromUtf8Lossy_three (width : charWidth first = 3)
    (isSecond : isSecond first second = true) (continues : isContinuation third = true)
    (rest : List UInt8) :
    fromUtf8Lossy (first :: second :: third :: rest) =
      Char.ofNat (addOctet (addOctet (first.toNat % 0x10) second) third) ::
        fromUtf8Lossy rest := by
  rw [fromUtf8Lossy, width]
  exact (if_pos isSecond).trans (if_pos continues)

theorem fromUtf8Lossy_four (width : charWidth first = 4)
    (isSecond : isSecond first second = true)
    (thirdContinues : isContinuation third = true) (continues : isContinuation fourth = true)
    (rest : List UInt8) :
    fromUtf8Lossy (first :: second :: third :: fourth :: rest) =
      Char.ofNat (addOctet (addOctet (addOctet (first.toNat % 0x08) second) third) fourth) ::
        fromUtf8Lossy rest := by
  rw [fromUtf8Lossy, width]
  exact (if_pos isSecond).trans ((if_pos thirdContinues).trans (if_pos continues))

theorem ofNat_of_eq {character : Char} {code : Nat} (same : code = character.val.toNat) :
    Char.ofNat code = character := by
  rw [same]
  exact Char.ofNat_toNat character

/-- The octets of one character give it back. -/
theorem fromUtf8Lossy_utf8EncodeChar (character : Char) (rest : List UInt8) :
    fromUtf8Lossy (String.utf8EncodeChar character ++ rest) =
      character :: fromUtf8Lossy rest := by
  have valid : character.val.toNat < 0xD800 ∨
      0xDFFF < character.val.toNat ∧ character.val.toNat < 0x110000 := character.valid
  have toNatOfNat : ∀ {code : Nat}, code < 256 → (UInt8.ofNat code).toNat = code :=
    fun small => UInt8.toNat_ofNat_of_lt' small
  unfold String.utf8EncodeChar
  generalize codeEq : character.val.toNat = code at valid
  dsimp only
  split
  · next small =>
    have byte := toNatOfNat (by omega : code < 256)
    rw [List.singleton_append, fromUtf8Lossy_one, byte, ofNat_of_eq codeEq.symm]
    grind [charWidth]
  · split
    · next above small =>
      have byte := toNatOfNat (by omega : code / 64 % 0x20 + 0xc0 < 256)
      have second := toNatOfNat (by omega : code % 0x40 + 0x80 < 256)
      simp only [List.cons_append, List.nil_append]
      rw [fromUtf8Lossy_two, ofNat_of_eq]
      · simp only [addOctet, byte, second]
        omega
      · grind [charWidth]
      · grind [isContinuation]
    · split
      · next above small =>
        have byte := toNatOfNat (by omega : code / 4096 % 0x10 + 0xe0 < 256)
        have second := toNatOfNat (by omega : code / 64 % 0x40 + 0x80 < 256)
        have third := toNatOfNat (by omega : code % 0x40 + 0x80 < 256)
        simp only [List.cons_append, List.nil_append]
        rw [fromUtf8Lossy_three, ofNat_of_eq]
        · simp only [addOctet, byte, second, third]
          omega
        · grind [charWidth]
        · grind [isSecond, isContinuation]
        · grind [isContinuation]
      · next above =>
        have byte := toNatOfNat (by omega : code / 262144 % 0x08 + 0xf0 < 256)
        have second := toNatOfNat (by omega : code / 4096 % 0x40 + 0x80 < 256)
        have third := toNatOfNat (by omega : code / 64 % 0x40 + 0x80 < 256)
        have fourth := toNatOfNat (by omega : code % 0x40 + 0x80 < 256)
        simp only [List.cons_append, List.nil_append]
        rw [fromUtf8Lossy_four, ofNat_of_eq]
        · simp only [addOctet, byte, second, third, fourth]
          omega
        · grind [charWidth]
        · grind [isSecond, isContinuation]
        · grind [isContinuation]
        · grind [isContinuation]

/-- Encoded text is decoded without replacements. -/
theorem fromUtf8Lossy_flatMap_utf8EncodeChar (text : List Char) :
    fromUtf8Lossy (text.flatMap String.utf8EncodeChar) = text := by
  induction text with
  | nil => rfl
  | cons character text ih =>
    rw [List.flatMap_cons, fromUtf8Lossy_utf8EncodeChar, ih]

end Encoded

end Wrest.TextDecoding
