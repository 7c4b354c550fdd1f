import Wrest.Utf8Decoders

/-!
# Decoding UTF-16

The streaming decoder of UTF-16 keeps a first octet of a code unit and a leading
surrogate.  Whatever is pending at the end of the queue is one error.

Decoding a whole text decodes its complete code units, and treats an octet behind the
last of them as an error of its own unless that code unit is a leading surrogate, which
is one already.  Both give the same characters.
-/

namespace Wrest.TextDecoding

def isLeadingSurrogate (unit : Nat) : Bool :=
  0xD800 ≤ unit && unit ≤ 0xDBFF

def isTrailingSurrogate (unit : Nat) : Bool :=
  0xDC00 ≤ unit && unit ≤ 0xDFFF

/-- The character of two surrogates. -/
def surrogatePair (leading trailing : Nat) : Char :=
  Char.ofNat (0x10000 + (leading - 0xD800) * 0x400 + (trailing - 0xDC00))

def codeUnit (isBigEndian : Bool) (first second : UInt8) : Nat :=
  if isBigEndian then first.toNat * 0x100 + second.toNat
  else second.toNat * 0x100 + first.toNat

/-- The octets of a code unit, in their order in the queue. -/
def unitOctets (isBigEndian : Bool) (unit : Nat) : List UInt8 :=
  let high := UInt8.ofNat (unit / 0x100)
  let low := UInt8.ofNat (unit % 0x100)
  if isBigEndian then [high, low] else [low, high]

/-- The state of the streaming decoder of UTF-16. -/
structure Utf16State where
  leadByte : Option UInt8 := none
  leadingSurrogate : Option Nat := none

/-- A complete code unit. -/
def utf16Unit (isBigEndian : Bool) (leading : Option Nat) (unit : Nat) :
    Utf16State × Outcome :=
  match leading with
  | some leading =>
    if isTrailingSurrogate unit then ({}, .scalar (surrogatePair leading unit))
    else ({}, .error (unitOctets isBigEndian unit))
  | none =>
    if isLeadingSurrogate unit then ({ leadingSurrogate := some unit }, .more)
    else if isTrailingSurrogate unit then ({}, .error [])
    else ({}, .scalar (Char.ofNat unit))

def utf16Handler (isBigEndian : Bool) (state : Utf16State) :
    Option UInt8 → Utf16State × Outcome
  | none =>
    if state.leadByte ≠ none ∨ state.leadingSurrogate ≠ none then ({}, .error [])
    else (state, .finished)
  | some octet =>
    match state.leadByte with
    | none => ({ state with leadByte := some octet }, .more)
    | some first =>
      utf16Unit isBigEndian state.leadingSurrogate (codeUnit isBigEndian first octet)

section Lossy

/-- The characters of code units; a surrogate without its partner is replaced. -/
def fromUtf16Lossy : List Nat → List Char
  | [] => []
  | unit :: rest =>
    if isLeadingSurrogate unit then
      match rest with
      | [] => [replacement]
      | next :: behind =>
        if isTrailingSurrogate next then surrogatePair unit next :: fromUtf16Lossy behind
        else replacement :: fromUtf16Lossy (next :: behind)
    else if isTrailingSurrogate unit then replacement :: fromUtf16Lossy rest
    else Char.ofNat unit :: fromUtf16Lossy rest

theorem fromUtf16Lossy_cons {unit : Nat} (notLeading : isLeadingSurrogate unit = false)
    (rest : List Nat) :
    fromUtf16Lossy (unit :: rest) =
      (if isTrailingSurrogate unit then replacement else Char.ofNat unit) ::
        fromUtf16Lossy rest := by
  conv => lhs; unfold fromUtf16Lossy
  rw [notLeading]
  cases isTrailingSurrogate unit <;> rfl

/-- The complete code units, and the octet that is left over. -/
def splitUnits (unitOf : UInt8 → UInt8 → Nat) : List UInt8 → List Nat × List UInt8
  | first :: second :: rest =>
    (unitOf first second :: (splitUnits unitOf rest).1, (splitUnits unitOf rest).2)
  | short => ([], short)

/-- An octet that is left over is an error, unless a leading surrogate is one already. -/
def leftOver (units : List Nat) (rest : List UInt8) : List Char :=
  if rest ≠ [] ∧ ¬units.getLast?.any isLeadingSurrogate = true then [replacement] else []

def decodeUnits (unitOf : UInt8 → UInt8 → Nat) (octets : List UInt8) : List Char :=
  fromUtf16Lossy (splitUnits unitOf octets).1 ++
    leftOver (splitUnits unitOf octets).1 (splitUnits unitOf octets).2

end Lossy

section Units

variable {unitOf : UInt8 → UInt8 → Nat} {first second : UInt8} {rest : List UInt8}

theorem not_isLeadingSurrogate_of_isTrailingSurrogate {unit : Nat}
    (trailing : isTrailingSurrogate unit = true) : isLeadingSurrogate unit = false := by
  grind [isTrailingSurrogate, isLeadingSurrogate]

/-- Only a leading surrogate at the end matters. -/
theorem leftOver_cons {unit : Nat} (notLeading : isLeadingSurrogate unit = false)
    (units : List Nat) (rest : List UInt8) :
    leftOver (unit :: units) rest = leftOver units rest := by
  cases units with
  | nil => simp [leftOver, notLeading]
  | cons next units => simp [leftOver, List.getLast?_cons_cons]

theorem leftOver_cons_cons (unit next : Nat) (units : List Nat) (rest : List UInt8) :
    leftOver (unit :: next :: units) rest = leftOver (next :: units) rest := by
  simp [leftOver, List.getLast?_cons_cons]

theorem decodeUnits_scalar (notLeading : isLeadingSurrogate (unitOf first second) = false)
    (notTrailing : isTrailingSurrogate (unitOf first second) = false) :
    decodeUnits unitOf (first :: second :: rest) =
      Char.ofNat (unitOf first second) :: decodeUnits unitOf rest := by
  simp [decodeUnits, splitUnits, fromUtf16Lossy_cons notLeading, notTrailing,
    leftOver_cons notLeading]

theorem decodeUnits_trailing (trailing : isTrailingSurrogate (unitOf first second) = true) :
    decodeUnits unitOf (first :: second :: rest) =
      replacement :: decodeUnits unitOf rest := by
  have notLeading := not_isLeadingSurrogate_of_isTrailingSurrogate trailing
  simp [decodeUnits, splitUnits, fromUtf16Lossy_cons notLeading, trailing,
    leftOver_cons notLeading]

variable (leading : isLeadingSurrogate (unitOf first second) = true)

include leading

/-- A leading surrogate with at most one octet behind it. -/
theorem decodeUnits_leading_short (short : rest.length ≤ 1) :
    decodeUnits unitOf (first :: second :: rest) = [replacement] := by
  match rest, short with
  | [], _ => simp [decodeUnits, splitUnits, fromUtf16Lossy, leading, leftOver]
  | [octet], _ => simp [decodeUnits, splitUnits, fromUtf16Lossy, leading, leftOver]

theorem decodeUnits_pair {third fourth : UInt8}
    (trailing : isTrailingSurrogate (unitOf third fourth) = true) :
    decodeUnits unitOf (first :: second :: third :: fourth :: rest) =
      surrogatePair (unitOf first second) (unitOf third fourth) ::
        decodeUnits unitOf rest := by
  have notLeading := not_isLeadingSurrogate_of_isTrailingSurrogate trailing
  simp [decodeUnits, splitUnits, fromUtf16Lossy, leading, trailing, leftOver_cons_cons,
    leftOver_cons notLeading]

theorem decodeUnits_leading {third fourth : UInt8}
    (notTrailing : isTrailingSurrogate (unitOf third fourth) = false) :
    decodeUnits unitOf (first :: second :: third :: fourth :: rest) =
      replacement :: decodeUnits unitOf (third :: fourth :: rest) := by
  rw [decodeUnits, splitUnits, splitUnits, fromUtf16Lossy, if_pos leading, leftOver_cons_cons]
  simp [decodeUnits, splitUnits, notTrailing]

end Units

section Agreement

variable {isBigEndian : Bool} {first second : UInt8} {queue : List UInt8}
variable {output : List Char}

theorem octets_of_unit (high low : UInt8) :
    UInt8.ofNat ((high.toNat * 0x100 + low.toNat) / 0x100) = high ∧
      UInt8.ofNat ((high.toNat * 0x100 + low.toNat) % 0x100) = low := by
  have bound := low.toNat_lt
  have quotient : (high.toNat * 0x100 + low.toNat) / 0x100 = high.toNat := by omega
  have remainder : (high.toNat * 0x100 + low.toNat) % 0x100 = low.toNat := by omega
  rw [quotient, remainder]
  exact ⟨UInt8.ofNat_toNat, UInt8.ofNat_toNat⟩

theorem unitOctets_codeUnit (isBigEndian : Bool) (first second : UInt8) :
    unitOctets isBigEndian (codeUnit isBigEndian first second) = [first, second] := by
  cases isBigEndian with
  | false =>
    obtain ⟨high, low⟩ := octets_of_unit second first
    simp only [unitOctets, codeUnit, Bool.false_eq_true, if_false, high, low]
  | true =>
    obtain ⟨high, low⟩ := octets_of_unit first second
    simp only [unitOctets, codeUnit, if_true, high, low]

theorem processes_utf16_nil (isBigEndian : Bool) :
    Processes (utf16Handler isBigEndian) {} [] [] := by
  have handled : utf16Handler isBigEndian {} none = ({}, .finished) := rfl
  exact .finished handled

theorem processes_leadByte {leading : Option Nat}
    (rest : Processes (utf16Handler isBigEndian)
      { leadByte := some first, leadingSurrogate := leading } queue output) :
    Processes (utf16Handler isBigEndian) { leadingSurrogate := leading } (first :: queue)
      output := by
  have handled : utf16Handler isBigEndian { leadingSurrogate := leading } (some first) =
      ({ leadByte := some first, leadingSurrogate := leading }, .more) := rfl
  exact .more handled rest

/-- Whatever is pending at the end of the queue is one error. -/
theorem processes_pending {state : Utf16State}
    (pending : state.leadByte ≠ none ∨ state.leadingSurrogate ≠ none) :
    Processes (utf16Handler isBigEndian) state [] [replacement] := by
  have handled : utf16Handler isBigEndian state none = ({}, .error []) := if_pos pending
  exact .atEnd handled (processes_utf16_nil isBigEndian)

section Unit

variable {leading : Option Nat}

theorem processes_unit_more {next : Utf16State}
    (handled : utf16Unit isBigEndian leading (codeUnit isBigEndian first second) =
      (next, .more))
    (rest : Processes (utf16Handler isBigEndian) next queue output) :
    Processes (utf16Handler isBigEndian) { leadingSurrogate := leading }
      (first :: second :: queue) output :=
  processes_leadByte (.more handled rest)

theorem processes_unit_scalar {character : Char}
    (handled : utf16Unit isBigEndian leading (codeUnit isBigEndian first second) =
      ({}, .scalar character))
    (rest : Processes (utf16Handler isBigEndian) {} queue output) :
    Processes (utf16Handler isBigEndian) { leadingSurrogate := leading }
      (first :: second :: queue) (character :: output) :=
  processes_leadByte (.scalar handled rest)

theorem processes_unit_error {restored : List UInt8}
    (handled : utf16Unit isBigEndian leading (codeUnit isBigEndian first second) =
      ({}, .error restored))
    (rest : Processes (utf16Handler isBigEndian) {} (restored ++ queue) output) :
    Processes (utf16Handler isBigEndian) { leadingSurrogate := leading }
      (first :: second :: queue) (replacement :: output) :=
  processes_leadByte (.error handled rest)

end Unit

/-- Both ways of decoding give the same characters. -/
theorem processes_decodeUnits (isBigEndian : Bool) : (octets : List UInt8) →
    Processes (utf16Handler isBigEndian) {} octets
      (decodeUnits (codeUnit isBigEndian) octets)
  | [] => processes_utf16_nil isBigEndian
  | [octet] => processes_leadByte (processes_pending (.inl (Option.some_ne_none octet)))
  | first :: second :: rest => by
    cases leading : isLeadingSurrogate (codeUnit isBigEndian first second) with
    | false =>
      have behind := processes_decodeUnits isBigEndian rest
      cases trailing : isTrailingSurrogate (codeUnit isBigEndian first second) with
      | false =>
        rw [decodeUnits_scalar leading trailing]
        exact processes_unit_scalar (by simp [utf16Unit, leading, trailing]) behind
      | true =>
        have handled : utf16Unit isBigEndian none (codeUnit isBigEndian first second) =
            ({}, .error []) := by simp [utf16Unit, leading, trailing]
        rw [decodeUnits_trailing trailing]
        exact processes_unit_error handled behind
    | true =>
      have handled : utf16Unit isBigEndian none (codeUnit isBigEndian first second) =
          ({ leadingSurrogate := some (codeUnit isBigEndian first second) }, .more) := by
        simp [utf16Unit, leading]
      refine processes_unit_more handled ?_
      match rest with
      | [] =>
        rw [decodeUnits_leading_short leading (by decide)]
        exact processes_pending (.inr (Option.some_ne_none _))
      | [octet] =>
        rw [decodeUnits_leading_short leading (Nat.le_refl [octet].length)]
        exact processes_leadByte (processes_pending (.inl (Option.some_ne_none octet)))
      | third :: fourth :: rest =>
        cases trailing : isTrailingSurrogate (codeUnit isBigEndian third fourth) with
        | true =>
          rw [decodeUnits_pair leading trailing]
          exact processes_unit_scalar (by simp [utf16Unit, trailing])
            (processes_decodeUnits isBigEndian rest)
        | false =>
          -- The unit that is no trailing surrogate is put back and read again.
          have putBack : utf16Unit isBigEndian (some (codeUnit isBigEndian first second))
              (codeUnit isBigEndian third fourth) = ({}, .error [third, fourth]) := by
            simp [utf16Unit, trailing, unitOctets_codeUnit]
          rw [decodeUnits_leading leading trailing]
          exact processes_unit_error putBack
            (processes_decodeUnits isBigEndian (third :: fourth :: rest))
termination_by octets => octets.length

end Agreement

end Wrest.TextDecoding
