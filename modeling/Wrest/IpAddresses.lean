/-!
# The text of IP addresses

IPv4 addresses are four decimal octets.  IPv6 addresses are eight hexadecimal groups;
two colons stand for one run of zeros, and the last two groups may be written as an IPv4
address.  The text of an address shortens its first longest run of zeros.
-/

namespace Wrest.IpAddress

structure Ipv4Addr where
  first : Fin 256
  second : Fin 256
  third : Fin 256
  fourth : Fin 256
deriving DecidableEq, Repr

/-- A decimal octet has no leading zero. -/
def parseOctet (digits : List Char) : Option (Fin 256) :=
  let value := Nat.ofDigitChars 10 digits 0
  if known : value < 256 ∧ Nat.toDigits 10 value = digits then
    some ⟨value, known.1⟩
  else
    none

namespace Ipv4Addr

def parse (text : List Char) : Option Ipv4Addr :=
  match text.splitOn '.' with
  | [first, second, third, fourth] => do
    let first ← parseOctet first
    let second ← parseOctet second
    let third ← parseOctet third
    let fourth ← parseOctet fourth
    some { first, second, third, fourth }
  | _ => none

def octets (address : Ipv4Addr) : List (Fin 256) :=
  [address.first, address.second, address.third, address.fourth]

def text (address : Ipv4Addr) : List Char :=
  ['.'].intercalate (address.octets.map fun octet => Nat.toDigits 10 octet.val)

end Ipv4Addr

theorem parseOctet_eq_some {digits : List Char} {octet : Fin 256} :
    parseOctet digits = some octet ↔ digits = Nat.toDigits 10 octet.val := by
  constructor
  · intro parsed
    simp only [parseOctet, Option.dite_none_right_eq_some, Option.some.injEq] at parsed
    obtain ⟨known, rfl⟩ := parsed
    exact known.2.symm
  · rintro rfl
    simp only [parseOctet, Nat.ofDigitChars_ten_toDigits, and_true, octet.isLt, dite_true]

theorem notMem_toDigits_of_not_isDigit {character : Char}
    (other : character.isDigit = false) (number : Nat) :
    character ∉ Nat.toDigits 10 number := by
  intro member
  have digit := Nat.isDigit_of_mem_toDigits (by decide) (by decide) member
  exact Bool.false_ne_true (other.symm.trans digit)

/-- The text of an address is the only text that stands for it. -/
theorem Ipv4Addr.parse_eq_some {text : List Char} {address : Ipv4Addr} :
    Ipv4Addr.parse text = some address ↔ text = address.text := by
  constructor
  · intro parsed
    unfold parse at parsed
    split at parsed
    · next first second third fourth pieces =>
      simp only [Option.bind_eq_bind, Option.bind_eq_some_iff, parseOctet_eq_some,
        Option.some.injEq] at parsed
      obtain ⟨_, rfl, _, rfl, _, rfl, _, rfl, rfl⟩ := parsed
      have joined : ['.'].intercalate (text.splitOn '.') = text := List.intercalate_splitOn '.'
      rw [pieces] at joined
      exact joined.symm
    · cases parsed
  · rintro rfl
    have pieces : address.text.splitOn '.' =
        address.octets.map fun octet => Nat.toDigits 10 octet.val := by
      apply List.splitOn_intercalate
      · intro digits member
        obtain ⟨octet, -, rfl⟩ := List.mem_map.mp member
        exact notMem_toDigits_of_not_isDigit rfl _
      · exact List.cons_ne_nil _ _
    unfold parse
    rw [pieces]
    simp only [octets, List.map_cons, List.map_nil, parseOctet_eq_some.mpr rfl,
      Option.bind_eq_bind, Option.bind_some]

/-- The eight groups of an IPv6 address. -/
structure Ipv6Addr where
  segments : List (Fin 65536)
  length : segments.length = 8
deriving DecidableEq, Repr

def hexDigitValue (digit : Char) : Option Nat :=
  if digit.isDigit then some (digit.toNat - 48)
  else if 'a' ≤ digit ∧ digit ≤ 'f' then some (digit.toNat - 87)
  else if 'A' ≤ digit ∧ digit ≤ 'F' then some (digit.toNat - 55)
  else none

def hexNumber (digits : List Char) : Option Nat :=
  digits.foldlM (fun number digit => (hexDigitValue digit).map (16 * number + ·)) 0

/-- One to four hexadecimal digits. -/
def parseGroup (digits : List Char) : Option (Fin 65536) := do
  let number ← hexNumber digits
  if bound : digits ≠ [] ∧ digits.length ≤ 4 ∧ number < 65536 then
    some ⟨number, bound.2.2⟩
  else
    none

def Ipv4Addr.groups (address : Ipv4Addr) : List (Fin 65536) :=
  [⟨256 * address.first.val + address.second.val, by omega⟩,
    ⟨256 * address.third.val + address.fourth.val, by omega⟩]

/-- The groups between colons; an IPv4 address may stand for the last two. -/
def parseGroups : List (List Char) → Option (List (Fin 65536))
  | [] => some []
  | [last] =>
    match Ipv4Addr.parse last with
    | some address => some address.groups
    | none => (parseGroup last).map fun group => [group]
  | piece :: pieces => do
    let group ← parseGroup piece
    let groups ← parseGroups pieces
    some (group :: groups)

/-- The groups in front of two colons. -/
def parseLeft (text : List Char) : Option (List (Fin 65536)) :=
  if text = [] then some [] else (text.splitOn ':').mapM parseGroup

/-- The groups behind two colons. -/
def parseRight (text : List Char) : Option (List (Fin 65536)) :=
  if text = [] then some [] else parseGroups (text.splitOn ':')

/-- The text around the first two colons. -/
def splitDoubleColon : List Char → Option (List Char × List Char)
  | ':' :: ':' :: behind => some ([], behind)
  | character :: rest =>
    (splitDoubleColon rest).map fun (before, behind) => (character :: before, behind)
  | [] => none

namespace Ipv6Addr

def parse (text : List Char) : Option Ipv6Addr :=
  match splitDoubleColon text with
  | none => do
    let groups ← parseGroups (text.splitOn ':')
    if length : groups.length = 8 then some ⟨groups, length⟩ else none
  | some (before, behind) => do
    let left ← parseLeft before
    let right ← parseRight behind
    if fits : left.length + right.length ≤ 7 then
      some
        { segments := left ++ List.replicate (8 - (left.length + right.length)) 0 ++ right
          length := by
            simp only [List.length_append, List.length_replicate]
            omega }
    else
      none

/-- `to_ipv4_mapped`. -/
def toIpv4Mapped (address : Ipv6Addr) : Option Ipv4Addr :=
  match address.segments with
  | [0, 0, 0, 0, 0, 65535, high, low] =>
    some
      { first := ⟨high.val / 256, by omega⟩
        second := ⟨high.val % 256, by omega⟩
        third := ⟨low.val / 256, by omega⟩
        fourth := ⟨low.val % 256, by omega⟩ }
  | _ => none

end Ipv6Addr

/-- A range of groups. -/
structure Span where
  start : Nat
  length : Nat
deriving DecidableEq, Repr

/-- The search for the first longest run of zeros, from an index on. -/
def longestZeroSpan (longest current : Span) (index : Nat) : List (Fin 65536) → Span
  | [] => longest
  | group :: groups =>
    if group = 0 then
      let start := if current.length = 0 then index else current.start
      let current := { start, length := current.length + 1 }
      let longest := if longest.length < current.length then current else longest
      longestZeroSpan longest current (index + 1) groups
    else
      longestZeroSpan longest ⟨0, 0⟩ (index + 1) groups

def groupsText (groups : List (Fin 65536)) : List Char :=
  [':'].intercalate (groups.map fun group => Nat.toDigits 16 group.val)

def Ipv6Addr.text (address : Ipv6Addr) : List Char :=
  match address.toIpv4Mapped with
  | some mapped => [':', ':', 'f', 'f', 'f', 'f', ':'] ++ mapped.text
  | none =>
    let zeroes := longestZeroSpan ⟨0, 0⟩ ⟨0, 0⟩ 0 address.segments
    if 1 < zeroes.length then
      groupsText (address.segments.take zeroes.start) ++ [':', ':'] ++
        groupsText (address.segments.drop (zeroes.start + zeroes.length))
    else
      groupsText address.segments

section Groups

theorem hexDigitValue_digitChar {digit : Nat} (lt : digit < 16) :
    hexDigitValue digit.digitChar = some digit := by
  have checked : ∀ digit : Fin 16, hexDigitValue digit.val.digitChar = some digit.val := by
    decide
  exact checked ⟨digit, lt⟩

theorem isHexDigit_of_mem_toDigits {number : Nat} {character : Char}
    (member : character ∈ Nat.toDigits 16 number) : character.isHexDigit = true := by
  have checked : ∀ digit : Fin 16, digit.val.digitChar.isHexDigit = true := by decide
  induction number using Nat.base_induction 16 (by decide) with
  | single digit lt =>
    rw [Nat.toDigits_of_lt_base lt, List.mem_singleton] at member
    rw [member]
    exact checked ⟨digit, lt⟩
  | digit number digit lt positive ih =>
    rw [← Nat.toDigits_append_toDigits (by decide) positive lt,
      Nat.toDigits_of_lt_base lt, List.mem_append, List.mem_singleton] at member
    rcases member with member | rfl
    · exact ih member
    · exact checked ⟨digit, lt⟩

theorem notMem_toDigits_of_not_isHexDigit {character : Char}
    (other : character.isHexDigit = false) (number : Nat) :
    character ∉ Nat.toDigits 16 number := by
  intro member
  exact Bool.false_ne_true (other.symm.trans (isHexDigit_of_mem_toDigits member))

theorem hexNumber_toDigits (number : Nat) :
    hexNumber (Nat.toDigits 16 number) = some number := by
  induction number using Nat.base_induction 16 (by decide) with
  | single digit lt =>
    simp [Nat.toDigits_of_lt_base lt, hexNumber, hexDigitValue_digitChar lt]
  | digit number digit lt positive ih =>
    rw [← Nat.toDigits_append_toDigits (by decide) positive lt, hexNumber,
      List.foldlM_append, ← hexNumber, ih, Nat.toDigits_of_lt_base lt]
    simp [hexDigitValue_digitChar lt]

theorem parseGroup_toDigits (group : Fin 65536) :
    parseGroup (Nat.toDigits 16 group.val) = some group := by
  have short : (Nat.toDigits 16 group.val).length ≤ 4 :=
    (Nat.length_toDigits_le_iff (by decide) (by decide)).mpr group.isLt
  simp [parseGroup, hexNumber_toDigits, Nat.toDigits_ne_nil, short, group.isLt]

theorem mapM_parseGroup (groups : List (Fin 65536)) :
    (groups.map fun group => Nat.toDigits 16 group.val).mapM parseGroup = some groups := by
  induction groups with
  | nil => rfl
  | cons group groups ih =>
    rw [List.map_cons, List.mapM_cons, parseGroup_toDigits, ih]
    rfl

/-- A group is no IPv4 address: it has no dots. -/
theorem parse_toDigits_eq_none (group : Fin 65536) :
    Ipv4Addr.parse (Nat.toDigits 16 group.val) = none := by
  cases parsed : Ipv4Addr.parse (Nat.toDigits 16 group.val) with
  | none => rfl
  | some address =>
    have dot : '.' ∈ address.text := by simp [Ipv4Addr.text, Ipv4Addr.octets]
    rw [← Ipv4Addr.parse_eq_some.mp parsed] at dot
    exact absurd dot (notMem_toDigits_of_not_isHexDigit rfl _)

theorem parseGroups_toDigits (groups : List (Fin 65536)) :
    parseGroups (groups.map fun group => Nat.toDigits 16 group.val) = some groups := by
  induction groups with
  | nil => rfl
  | cons group groups ih =>
    cases groups with
    | nil => simp [parseGroups, parse_toDigits_eq_none, parseGroup_toDigits]
    | cons second groups =>
      simp only [List.map_cons] at ih ⊢
      simp [parseGroups, parseGroup_toDigits, ih]

theorem splitOn_groupsText {groups : List (Fin 65536)} (nonempty : groups ≠ []) :
    (groupsText groups).splitOn ':' =
      groups.map fun group => Nat.toDigits 16 group.val := by
  apply List.splitOn_intercalate
  · intro digits member
    obtain ⟨group, -, rfl⟩ := List.mem_map.mp member
    exact notMem_toDigits_of_not_isHexDigit rfl _
  · exact fun empty => nonempty (List.map_eq_nil_iff.mp empty)

theorem groupsText_cons_cons (group second : Fin 65536) (groups : List (Fin 65536)) :
    groupsText (group :: second :: groups) =
      Nat.toDigits 16 group.val ++ ':' :: groupsText (second :: groups) := by
  simp [groupsText, List.intercalate_cons_cons]

/-- The text of groups begins with a digit. -/
theorem groupsText_cons (group : Fin 65536) (groups : List (Fin 65536)) :
    ∃ digit rest, groupsText (group :: groups) = digit :: rest ∧
      digit.isHexDigit = true := by
  have begins : ∃ rest, groupsText (group :: groups) =
      Nat.toDigits 16 group.val ++ rest := by
    cases groups with
    | nil => exact ⟨[], by simp [groupsText]⟩
    | cons second groups => exact ⟨_, groupsText_cons_cons group second groups⟩
  obtain ⟨rest, textEq⟩ := begins
  cases digitsEq : Nat.toDigits 16 group.val with
  | nil => exact absurd digitsEq Nat.toDigits_ne_nil
  | cons digit digits =>
    refine ⟨digit, digits ++ rest, by rw [textEq, digitsEq]; rfl, ?_⟩
    have member : digit ∈ Nat.toDigits 16 group.val := by
      rw [digitsEq]
      exact List.mem_cons_self
    exact isHexDigit_of_mem_toDigits member

theorem groupsText_ne_nil {groups : List (Fin 65536)} (nonempty : groups ≠ []) :
    groupsText groups ≠ [] := by
  cases groups with
  | nil => exact absurd rfl nonempty
  | cons group groups =>
    obtain ⟨digit, rest, textEq, -⟩ := groupsText_cons group groups
    rw [textEq]
    exact List.cons_ne_nil _ _

theorem parseLeft_groupsText (groups : List (Fin 65536)) :
    parseLeft (groupsText groups) = some groups := by
  cases groups with
  | nil => rfl
  | cons group groups =>
    have nonempty : group :: groups ≠ [] := List.cons_ne_nil _ _
    rw [parseLeft, if_neg (groupsText_ne_nil nonempty), splitOn_groupsText nonempty]
    exact mapM_parseGroup _

theorem parseRight_groupsText (groups : List (Fin 65536)) :
    parseRight (groupsText groups) = some groups := by
  cases groups with
  | nil => rfl
  | cons group groups =>
    have nonempty : group :: groups ≠ [] := List.cons_ne_nil _ _
    rw [parseRight, if_neg (groupsText_ne_nil nonempty), splitOn_groupsText nonempty]
    exact parseGroups_toDigits _

theorem splitDoubleColon_append {piece : List Char} (noColon : ':' ∉ piece)
    (rest : List Char) :
    splitDoubleColon (piece ++ rest) =
      (splitDoubleColon rest).map fun (before, behind) => (piece ++ before, behind) := by
  induction piece with
  | nil => simp
  | cons character piece ih =>
    simp only [List.mem_cons, not_or] at noColon
    rw [List.cons_append, splitDoubleColon, ih noColon.2, Option.map_map]
    · rfl
    · rintro behind rfl
      exact absurd rfl noColon.1

/-- A single colon in front of a digit is no double colon. -/
theorem splitDoubleColon_cons {digit : Char} (hex : digit.isHexDigit = true)
    (rest : List Char) :
    splitDoubleColon (':' :: digit :: rest) =
      (splitDoubleColon (digit :: rest)).map fun (before, behind) =>
        (':' :: before, behind) := by
  rw [splitDoubleColon]
  intro behind _ same
  obtain ⟨rfl, -⟩ := List.cons.inj same
  cases hex

theorem splitDoubleColon_groupsText (groups : List (Fin 65536)) (rest : List Char) :
    splitDoubleColon (groupsText groups ++ rest) =
      (splitDoubleColon rest).map fun (before, behind) =>
        (groupsText groups ++ before, behind) := by
  induction groups with
  | nil => simp [groupsText]
  | cons group groups ih =>
    have noColon : ':' ∉ Nat.toDigits 16 group.val :=
      notMem_toDigits_of_not_isHexDigit rfl _
    cases groups with
    | nil =>
      have textEq : groupsText [group] = Nat.toDigits 16 group.val := by simp [groupsText]
      rw [textEq]
      exact splitDoubleColon_append noColon rest
    | cons second groups =>
      obtain ⟨digit, tail, textEq, hex⟩ := groupsText_cons second groups
      rw [groupsText_cons_cons, List.append_assoc, splitDoubleColon_append noColon]
      rw [textEq] at ih ⊢
      rw [List.cons_append, List.cons_append, splitDoubleColon_cons hex, ← List.cons_append,
        ih, Option.map_map, Option.map_map]
      congr 1
      funext halves
      simp

end Groups

/-- The groups of the span are zero. -/
def Span.IsZero (span : Span) (groups : List (Fin 65536)) : Prop :=
  ∀ index, span.start ≤ index → index < span.start + span.length →
    groups[index]? = some 0

theorem longestZeroSpan_isZero {all groups : List (Fin 65536)} {longest current : Span}
    {index : Nat} (rest : groups = all.drop index) (longestZero : longest.IsZero all)
    (currentZero : current.IsZero all)
    (ends : current.length ≠ 0 → current.start + current.length = index) :
    (longestZeroSpan longest current index groups).IsZero all := by
  induction groups generalizing longest current index with
  | nil => exact longestZero
  | cons group groups ih =>
    have here : all[index]? = some group := by
      have head := congrArg List.head? rest
      rw [List.head?_drop] at head
      exact head.symm
    have behind : groups = all.drop (index + 1) := by
      rw [List.drop_add_one_eq_tail_drop, ← rest]
      rfl
    unfold longestZeroSpan
    split
    · next zero =>
      let start := if current.length = 0 then index else current.start
      have reaches : start + current.length = index := by
        by_cases empty : current.length = 0
        · simp [start, empty]
        · simp [start, empty, ends empty]
      have extended : Span.IsZero ⟨start, current.length + 1⟩ all := by
        intro position after before
        change start ≤ position at after
        change position < start + (current.length + 1) at before
        by_cases last : position = index
        · rw [last, here, zero]
        · have nonempty : current.length ≠ 0 := by
            intro empty
            omega
          apply currentZero position
          · simpa [start, nonempty] using after
          · rw [ends nonempty]
            omega
      apply ih behind _ extended
      · intro _
        show start + (current.length + 1) = index + 1
        omega
      · dsimp only
        split
        · exact extended
        · exact longestZero
    · apply ih behind longestZero
      · intro position after before
        simp only [Nat.zero_add, Nat.not_lt_zero] at before
      · exact fun nonempty => absurd rfl nonempty

/-- Cutting out a span of zeros and filling it again. -/
theorem take_replicate_drop {groups : List (Fin 65536)} {span : Span}
    (zero : span.IsZero groups) :
    groups.take span.start ++ List.replicate span.length 0 ++
      groups.drop (span.start + span.length) = groups := by
  have inside : (groups.drop span.start).take span.length = List.replicate span.length 0 := by
    apply List.ext_getElem?
    intro index
    rw [List.getElem?_take, List.getElem?_replicate, List.getElem?_drop]
    split
    · next before => exact zero _ (Nat.le_add_right _ _) (Nat.add_lt_add_left before _)
    · rfl
  rw [← inside, List.append_assoc, ← List.drop_drop, List.take_append_drop,
    List.take_append_drop]

namespace Ipv6Addr

theorem segments_of_toIpv4Mapped {address : Ipv6Addr} {mapped : Ipv4Addr}
    (isMapped : address.toIpv4Mapped = some mapped) :
    address.segments = [0, 0, 0, 0, 0, 65535] ++ mapped.groups := by
  unfold toIpv4Mapped at isMapped
  split at isMapped
  · next high low segments =>
    obtain rfl := Option.some.inj isMapped
    have highEq : 256 * (high.val / 256) + high.val % 256 = high.val := Nat.div_add_mod _ _
    have lowEq : 256 * (low.val / 256) + low.val % 256 = low.val := Nat.div_add_mod _ _
    simp [segments, Ipv4Addr.groups, highEq, lowEq]
  · cases isMapped

theorem parse_of_halves {address : Ipv6Addr} {text before behind : List Char}
    {left right : List (Fin 65536)} {zeros : Nat}
    (split : splitDoubleColon text = some (before, behind))
    (leftEq : parseLeft before = some left) (rightEq : parseRight behind = some right)
    (positive : 0 < zeros)
    (segments : address.segments = left ++ List.replicate zeros 0 ++ right) :
    parse text = some address := by
  have length := address.length
  rw [segments, List.length_append, List.length_append, List.length_replicate] at length
  have fits : left.length + right.length ≤ 7 := by omega
  have zerosEq : 8 - (left.length + right.length) = zeros := by omega
  simp only [parse, split, leftEq, rightEq, Option.bind_eq_bind, Option.bind_some,
    dif_pos fits, zerosEq, ← segments]

theorem parse_mapped {address : Ipv6Addr} {mapped : Ipv4Addr}
    (segments : address.segments = [0, 0, 0, 0, 0, 65535] ++ mapped.groups) :
    parse ([':', ':', 'f', 'f', 'f', 'f', ':'] ++ mapped.text) = some address := by
  have noColon : ':' ∉ mapped.text := by
    simp [Ipv4Addr.text, Ipv4Addr.octets, notMem_toDigits_of_not_isDigit]
  have pieces : (['f', 'f', 'f', 'f', ':'] ++ mapped.text).splitOn ':' =
      [['f', 'f', 'f', 'f'], mapped.text] := by
    have joined : ['f', 'f', 'f', 'f', ':'] ++ mapped.text =
        [':'].intercalate [['f', 'f', 'f', 'f'], mapped.text] := by
      simp [List.intercalate_cons_cons]
    rw [joined]
    apply List.splitOn_intercalate
    · simp [noColon]
    · exact List.cons_ne_nil _ _
  have groups : parseGroups [['f', 'f', 'f', 'f'], mapped.text] =
      some (65535 :: mapped.groups) := by
    have first : parseGroup ['f', 'f', 'f', 'f'] = some 65535 := by decide
    simp [parseGroups, first, Ipv4Addr.parse_eq_some.mpr rfl]
  have split : splitDoubleColon ([':', ':', 'f', 'f', 'f', 'f', ':'] ++ mapped.text) =
      some ([], ['f', 'f', 'f', 'f', ':'] ++ mapped.text) := rfl
  have positive : 0 < 5 := by decide
  apply parse_of_halves split rfl _ positive
  · exact segments
  · rw [parseRight, if_neg (by simp), pieces]
    exact groups

theorem parse_compressed {address : Ipv6Addr} {left right : List (Fin 65536)}
    {zeros : Nat} (positive : 0 < zeros)
    (segments : address.segments = left ++ List.replicate zeros 0 ++ right) :
    parse (groupsText left ++ [':', ':'] ++ groupsText right) = some address := by
  have split : splitDoubleColon (groupsText left ++ [':', ':'] ++ groupsText right) =
      some (groupsText left, groupsText right) := by
    rw [List.append_assoc, splitDoubleColon_groupsText]
    simp [splitDoubleColon]
  exact parse_of_halves split (parseLeft_groupsText left) (parseRight_groupsText right)
    positive segments

theorem parse_plain (address : Ipv6Addr) :
    parse (groupsText address.segments) = some address := by
  have nonempty : address.segments ≠ [] := by
    intro empty
    have length := address.length
    rw [empty] at length
    cases length
  have single : splitDoubleColon (groupsText address.segments) = none := by
    rw [← List.append_nil (groupsText _), splitDoubleColon_groupsText]
    rfl
  simp [parse, single, splitOn_groupsText nonempty, parseGroups_toDigits, address.length]

/-- The text of an address stands for it. -/
theorem parse_text (address : Ipv6Addr) : parse address.text = some address := by
  unfold text
  split
  · next mapped isMapped => exact parse_mapped (segments_of_toIpv4Mapped isMapped)
  · dsimp only
    split
    · next long =>
      have zero : (longestZeroSpan ⟨0, 0⟩ ⟨0, 0⟩ 0 address.segments).IsZero
          address.segments := by
        apply longestZeroSpan_isZero rfl
        · exact fun index _ before => absurd before (Nat.not_lt_zero index)
        · exact fun index _ before => absurd before (Nat.not_lt_zero index)
        · exact fun nonempty => absurd rfl nonempty
      exact parse_compressed (Nat.lt_of_succ_lt long) (take_replicate_drop zero).symm
    · exact parse_plain address

end Ipv6Addr

/-- The characters of an address. -/
def isAddressChar (character : Char) : Bool :=
  character.isHexDigit || [':', '.'].contains character

theorem mem_of_mem_intercalate {separator character : Char} {pieces : List (List Char)}
    (member : character ∈ [separator].intercalate pieces) :
    character = separator ∨ ∃ piece ∈ pieces, character ∈ piece := by
  induction pieces with
  | nil => cases member
  | cons piece pieces ih =>
    cases pieces with
    | nil =>
      rw [List.intercalate_singleton] at member
      exact .inr ⟨piece, List.mem_cons_self, member⟩
    | cons second pieces =>
      rw [List.intercalate_cons_cons, List.mem_append, List.mem_append,
        List.mem_singleton] at member
      rcases member with (member | same) | member
      · exact .inr ⟨piece, List.mem_cons_self, member⟩
      · exact .inl same
      · rcases ih member with same | ⟨other, among, member⟩
        · exact .inl same
        · exact .inr ⟨other, List.mem_cons_of_mem piece among, member⟩

theorem Ipv4Addr.isAddressChar_of_mem_text {address : Ipv4Addr} {character : Char}
    (member : character ∈ address.text) : isAddressChar character = true := by
  rcases mem_of_mem_intercalate member with rfl | ⟨piece, among, member⟩
  · rfl
  · obtain ⟨octet, -, rfl⟩ := List.mem_map.mp among
    have digit := Nat.isDigit_of_mem_toDigits (by decide) (by decide) member
    simp [isAddressChar, Char.isHexDigit, digit]

theorem isAddressChar_of_mem_groupsText {groups : List (Fin 65536)} {character : Char}
    (member : character ∈ groupsText groups) : isAddressChar character = true := by
  rcases mem_of_mem_intercalate member with rfl | ⟨piece, among, member⟩
  · rfl
  · obtain ⟨group, -, rfl⟩ := List.mem_map.mp among
    simp [isAddressChar, isHexDigit_of_mem_toDigits member]

theorem Ipv6Addr.isAddressChar_of_mem_text {address : Ipv6Addr} {character : Char}
    (member : character ∈ address.text) : isAddressChar character = true := by
  have colons : ∀ character ∈ [':', ':'], isAddressChar character = true := by
    simp [isAddressChar]
  have leading : ∀ character ∈ [':', ':', 'f', 'f', 'f', 'f', ':'],
      isAddressChar character = true := by simp [isAddressChar, Char.isHexDigit]
  unfold text at member
  split at member
  · rcases List.mem_append.mp member with member | member
    · exact leading character member
    · exact Ipv4Addr.isAddressChar_of_mem_text member
  · dsimp only at member
    split at member
    · rcases List.mem_append.mp member with member | member
      · rcases List.mem_append.mp member with member | member
        · exact isAddressChar_of_mem_groupsText member
        · exact colons character member
      · exact isAddressChar_of_mem_groupsText member
    · exact isAddressChar_of_mem_groupsText member

end Wrest.IpAddress
