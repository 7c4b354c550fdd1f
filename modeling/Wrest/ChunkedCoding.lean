/-!
# The chunked transfer coding

A chunk is the number of its octets in hexadecimal, a line end, the octets, and a
line end.  A message is a sequence of nonempty chunks that ends with an empty
one, which takes the place of the last chunk with an empty trailer.  Chunk
extensions and trailer fields are not read.

Reading a message returns its chunks and the octets behind it.  Reading undoes
writing, and an incomplete sequence of chunks is not read as a message.
-/

namespace Wrest.ChunkedCoding

/-- The value of a hexadecimal digit, in either letter case. -/
def hexValue (octet : UInt8) : Option Nat :=
  if 48 ≤ octet.toNat ∧ octet.toNat ≤ 57 then
    some (octet.toNat - 48)
  else if 65 ≤ octet.toNat ∧ octet.toNat ≤ 70 then
    some (octet.toNat - 55)
  else if 97 ≤ octet.toNat ∧ octet.toNat ≤ 102 then
    some (octet.toNat - 87)
  else
    none

/-- The number read so far, extended by the digits that follow. -/
def readDigits : Nat → List UInt8 → Nat × List UInt8
  | size, [] => (size, [])
  | size, octet :: octets =>
    match hexValue octet with
    | some digit => readDigits (16 * size + digit) octets
    | none => (size, octet :: octets)

/-- A chunk size has at least one digit. -/
def readSize (octets : List UInt8) : Option (Nat × List UInt8) :=
  if octets.head?.any fun octet => (hexValue octet).isSome then
    some (readDigits 0 octets)
  else
    none

def readLineEnd : List UInt8 → Option (List UInt8)
  | 13 :: 10 :: octets => some octets
  | _ => none

/-- One chunk and the octets behind it.  The last chunk is read as an empty
one. -/
def readChunk (octets : List UInt8) : Option (List UInt8 × List UInt8) := do
  let (size, afterSize) ← readSize octets
  let content ← readLineEnd afterSize
  if size ≤ content.length then
    let behind ← readLineEnd (content.drop size)
    pure (content.take size, behind)
  else
    none

theorem readDigits_length_le (size : Nat) (octets : List UInt8) :
    (readDigits size octets).2.length ≤ octets.length := by
  induction octets generalizing size with
  | nil => exact Nat.le_refl 0
  | cons octet octets ih =>
    unfold readDigits
    split
    · exact Nat.le_succ_of_le (ih _)
    · exact Nat.le_refl _

theorem readLineEnd_eq_some {octets behind : List UInt8}
    (read : readLineEnd octets = some behind) : octets = 13 :: 10 :: behind := by
  unfold readLineEnd at read
  split at read
  · cases read
    rfl
  · cases read

/-- What reading a chunk succeeds on. -/
theorem readChunk_eq_some {octets data behind : List UInt8}
    (read : readChunk octets = some (data, behind)) :
    ∃ size, readSize octets = some (size, 13 :: 10 :: (data ++ 13 :: 10 :: behind)) ∧
      size = data.length := by
  simp only [readChunk, Option.bind_eq_bind, Option.bind_eq_some_iff,
    Option.ite_none_right_eq_some, Prod.exists] at read
  obtain ⟨size, afterSize, sized, content, begun, fits, ended, closes, eq⟩ := read
  cases eq
  refine ⟨size, ?_, (List.length_take_of_le fits).symm⟩
  rw [sized, readLineEnd_eq_some begun, ← readLineEnd_eq_some closes, List.take_append_drop]

theorem readSize_length_le {octets behind : List UInt8} {size : Nat}
    (read : readSize octets = some (size, behind)) :
    behind.length ≤ octets.length := by
  unfold readSize at read
  split at read
  · have le := readDigits_length_le 0 octets
    rw [Option.some.inj read] at le
    exact le
  · cases read

theorem readChunk_length_lt {octets data behind : List UInt8}
    (read : readChunk octets = some (data, behind)) :
    behind.length < octets.length := by
  obtain ⟨size, sized, -⟩ := readChunk_eq_some read
  have le := readSize_length_le sized
  simp only [List.length_cons, List.length_append] at le
  omega

/-- The chunks of a message, up to its last chunk, and the octets behind the
message. -/
def decode (octets : List UInt8) : Option (List (List UInt8) × List UInt8) :=
  match _read : readChunk octets with
  | none => none
  | some ([], behind) => some ([], behind)
  | some (first :: data, behind) =>
    (decode behind).map fun (chunks, rest) => ((first :: data) :: chunks, rest)
termination_by octets.length
decreasing_by exact readChunk_length_lt _read

/-- A number in lower-case hexadecimal. -/
def hexOctets (number : Nat) : List UInt8 :=
  (Nat.toDigits 16 number).map fun digit => UInt8.ofNat digit.toNat

def lineEnd : List UInt8 :=
  [13, 10]

def encodeChunk (data : List UInt8) : List UInt8 :=
  hexOctets data.length ++ lineEnd ++ data ++ lineEnd

/-- A message of nonempty chunks. -/
def encode (chunks : List (List UInt8)) : List UInt8 :=
  chunks.flatMap encodeChunk ++ encodeChunk []

theorem hexOctets_of_lt {digit : Nat} (lt : digit < 16) :
    hexOctets digit = [UInt8.ofNat digit.digitChar.toNat] := by
  rw [hexOctets, Nat.toDigits_of_lt_base lt]
  rfl

theorem hexValue_digit {digit : Nat} (lt : digit < 16) :
    hexValue (UInt8.ofNat digit.digitChar.toNat) = some digit := by
  have checked : ∀ digit : Fin 16,
      hexValue (UInt8.ofNat digit.val.digitChar.toNat) = some digit.val := by
    decide
  exact checked ⟨digit, lt⟩

theorem hexOctets_append {number digit : Nat} (positive : 0 < number) (lt : digit < 16) :
    hexOctets (16 * number + digit) = hexOctets number ++ hexOctets digit := by
  simp only [hexOctets, ← List.map_append]
  rw [Nat.toDigits_append_toDigits (by decide) positive lt]

theorem readDigits_hexOctets (number : Nat) (rest : List UInt8) :
    readDigits 0 (hexOctets number ++ rest) = readDigits number rest := by
  induction number using Nat.base_induction 16 (by decide) generalizing rest with
  | single digit lt =>
    simp [hexOctets_of_lt lt, readDigits, hexValue_digit lt]
  | digit number digit lt positive ih =>
    rw [hexOctets_append positive lt, List.append_assoc, ih, hexOctets_of_lt lt]
    simp [readDigits, hexValue_digit lt]

theorem readSize_hexOctets (number : Nat) (rest : List UInt8) :
    readSize (hexOctets number ++ rest) = some (readDigits number rest) := by
  have begins : ∃ octet, (hexOctets number).head? = some octet ∧
      (hexValue octet).isSome = true := by
    induction number using Nat.base_induction 16 (by decide) with
    | single digit lt =>
      exact ⟨_, congrArg List.head? (hexOctets_of_lt lt), by rw [hexValue_digit lt]; rfl⟩
    | digit number digit lt positive ih =>
      obtain ⟨octet, found, isDigit⟩ := ih
      refine ⟨octet, ?_, isDigit⟩
      rw [hexOctets_append positive lt, List.head?_append, found]
      rfl
  obtain ⟨octet, found, isDigit⟩ := begins
  have headEq : (hexOctets number ++ rest).head? = some octet := by
    rw [List.head?_append, found]
    rfl
  rw [readSize, headEq, readDigits_hexOctets]
  simp [isDigit]

/-- A written chunk is read back, whatever follows it. -/
theorem readChunk_encodeChunk (data rest : List UInt8) :
    readChunk (encodeChunk data ++ rest) = some (data, rest) := by
  have sized : readSize (encodeChunk data ++ rest) =
      some (data.length, 13 :: 10 :: (data ++ 13 :: 10 :: rest)) := by
    simp only [encodeChunk, lineEnd, List.append_assoc]
    rw [readSize_hexOctets]
    rfl
  simp [readChunk, sized, readLineEnd]

theorem decode_encodeChunk {data : List UInt8} (nonempty : data ≠ [])
    (rest : List UInt8) :
    decode (encodeChunk data ++ rest) =
      (decode rest).map fun (chunks, behind) => (data :: chunks, behind) := by
  obtain ⟨first, others, rfl⟩ := List.exists_cons_of_ne_nil nonempty
  rw [decode]
  split
  · next read => simp [readChunk_encodeChunk] at read
  · next read => simp [readChunk_encodeChunk] at read
  · next read =>
    rw [readChunk_encodeChunk] at read
    cases read
    rfl

theorem decode_lastChunk (rest : List UInt8) :
    decode (encodeChunk [] ++ rest) = some ([], rest) := by
  rw [decode]
  split
  · next read => simp [readChunk_encodeChunk] at read
  · next read =>
    rw [readChunk_encodeChunk] at read
    cases read
    rfl
  · next read => simp [readChunk_encodeChunk] at read

/-- Reading undoes writing, and leaves what follows the message. -/
theorem decode_encode {chunks : List (List UInt8)} (nonempty : [] ∉ chunks)
    (rest : List UInt8) :
    decode (encode chunks ++ rest) = some (chunks, rest) := by
  induction chunks with
  | nil => exact decode_lastChunk rest
  | cons data chunks ih =>
    rw [List.mem_cons, not_or] at nonempty
    have following := ih nonempty.2
    rw [encode, List.flatMap_cons, List.append_assoc, List.append_assoc,
      decode_encodeChunk (Ne.symm nonempty.1), ← List.append_assoc,
      ← encode, following]
    rfl

theorem readDigits_append {size value : Nat} {octets behind : List UInt8}
    (read : readDigits size octets = (value, behind)) (stops : behind ≠ [])
    (more : List UInt8) :
    readDigits size (octets ++ more) = (value, behind ++ more) := by
  induction octets generalizing size with
  | nil =>
    cases read
    exact absurd rfl stops
  | cons octet octets ih =>
    rw [List.cons_append]
    unfold readDigits at read ⊢
    cases found : hexValue octet with
    | some digit =>
      rw [found] at read
      exact ih read
    | none =>
      rw [found] at read
      cases read
      rfl

/-- What was read as a chunk is still read when more octets arrive. -/
theorem readChunk_append {octets data behind : List UInt8}
    (read : readChunk octets = some (data, behind)) (more : List UInt8) :
    readChunk (octets ++ more) = some (data, behind ++ more) := by
  obtain ⟨size, sized, sizeEq⟩ := readChunk_eq_some read
  have extended : readSize (octets ++ more) =
      some (size, 13 :: 10 :: (data ++ 13 :: 10 :: (behind ++ more))) := by
    unfold readSize at sized ⊢
    rw [Option.ite_none_right_eq_some] at sized
    obtain ⟨begins, digits⟩ := sized
    have headEq : (octets ++ more).head? = octets.head? := by
      cases octets with
      | nil => cases begins
      | cons octet octets => rfl
    rw [headEq, if_pos begins, readDigits_append (Option.some.inj digits) (by simp)]
    simp
  subst sizeEq
  simp [readChunk, extended, readLineEnd]

/-- A proper prefix of a chunk is not read as one. -/
theorem readChunk_of_prefix {data octets : List UInt8}
    (isPart : octets <+: encodeChunk data) (proper : octets ≠ encodeChunk data) :
    readChunk octets = none := by
  obtain ⟨missing, whole⟩ := isPart
  cases read : readChunk octets with
  | none => rfl
  | some result =>
    have extended := readChunk_append read missing
    have complete := readChunk_encodeChunk data []
    rw [List.append_nil, ← whole, extended, Option.some.injEq, Prod.mk.injEq,
      List.append_eq_nil_iff] at complete
    rw [complete.2.2, List.append_nil] at whole
    exact absurd whole proper

theorem decode_of_readChunk_none {octets : List UInt8} (read : readChunk octets = none) :
    decode octets = none := by
  rw [decode]
  split
  · rfl
  · next some => simp [read] at some
  · next some => simp [read] at some

/-- As long as the last chunk is missing, no message is read. -/
theorem decode_incomplete {chunks : List (List UInt8)} (nonempty : [] ∉ chunks)
    {octets : List UInt8} (isPart : octets <+: chunks.flatMap encodeChunk) :
    decode octets = none := by
  induction chunks generalizing octets with
  | nil =>
    rw [List.flatMap_nil, List.prefix_nil] at isPart
    subst isPart
    exact decode_of_readChunk_none rfl
  | cons data chunks ih =>
    rw [List.mem_cons, not_or] at nonempty
    rw [List.flatMap_cons] at isPart
    by_cases reached : encodeChunk data <+: octets
    · obtain ⟨behind, rfl⟩ := reached
      have following := (List.prefix_append_right_inj _).mp isPart
      rw [decode_encodeChunk (Ne.symm nonempty.1), ih nonempty.2 following]
      rfl
    · have begun := List.prefix_append (encodeChunk data) (chunks.flatMap encodeChunk)
      have shorter := (List.prefix_or_prefix_of_prefix isPart begun).resolve_right reached
      apply decode_of_readChunk_none
      apply readChunk_of_prefix shorter
      rintro rfl
      exact reached List.prefix_rfl

end Wrest.ChunkedCoding
