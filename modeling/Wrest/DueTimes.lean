import Wrest.LittleEndians
import Mathlib.Algebra.Order.Floor.Div
import Mathlib.Tactic.NormNum

/-!
# Durations as the system reads them

A timer is armed with a `FILETIME`, whose two words hold a signed count of 100 ns
ticks; a negative count is relative to the present, any other is a point of time since
the year 1601.  WinHTTP takes timeouts in milliseconds, and reads zero as no timeout.
-/

namespace Wrest

/-- A duration of the standard library. -/
structure Duration where
  secs : Nat
  subsecNanos : Nat
  secs_lt : secs < 2 ^ 64
  subsecNanos_lt : subsecNanos < 1000000000
deriving DecidableEq

def Duration.asNanos (duration : Duration) : Nat :=
  duration.secs * 1000000000 + duration.subsecNanos

def i64Max : Nat := 9223372036854775807

def i32Max : Nat := 2147483647

/-- The conversion of an unsigned number to a signed type with this maximum. -/
def tryFromUnsigned (maximum value : Nat) : Option Nat :=
  if value ≤ maximum then some value else none

@[simp]
theorem tryFromUnsigned_getD (maximum value : Nat) :
    (tryFromUnsigned maximum value).getD maximum = min value maximum := by
  unfold tryFromUnsigned
  split <;> simp <;> omega

structure FileTime where
  dwLowDateTime : UInt32
  dwHighDateTime : UInt32
deriving DecidableEq

def u32FromLeBytes (bytes : List UInt8) : UInt32 :=
  UInt32.ofNat (LittleEndian.decode bytes)

namespace ThreadpoolTimer

/-- The ticks of a delay, saturated. -/
def ticks (due : Duration) : Nat :=
  (tryFromUnsigned i64Max (due.asNanos / 100)).getD i64Max

/-- The due time that `set_relative` passes on, where no due time stops the timer. -/
def setRelative (due : Option Duration) : Option FileTime :=
  due.map fun due =>
    let bytes := LittleEndian.encodeSigned 8 (-(ticks due : Int))
    { dwLowDateTime := u32FromLeBytes (bytes.take 4)
      dwHighDateTime := u32FromLeBytes (bytes.drop 4) }

end ThreadpoolTimer

namespace FileTime

/-- The two words as the signed number they hold. -/
def toInt (time : FileTime) : Int :=
  ((time.dwLowDateTime.toNat + 2 ^ 32 * time.dwHighDateTime.toNat : Nat) : Int).bmod (2 ^ 64)

/-- The tick at which the system lets a timer expire that is armed now. -/
def dueAt (time : FileTime) (now : Nat) : Nat :=
  if time.toInt < 0 then now + (-time.toInt).toNat else time.toInt.toNat

end FileTime

theorem toNat_u32FromLeBytes {bytes : List UInt8} (four : bytes.length = 4) :
    (u32FromLeBytes bytes).toNat = LittleEndian.decode bytes := by
  have bound := LittleEndian.decode_lt bytes
  rw [four] at bound
  exact UInt32.toNat_ofNat_of_lt bound

/-- The words of eight bytes hold the signed number of the bytes. -/
theorem FileTime.toInt_of_halves {bytes : List UInt8} (eight : bytes.length = 8) :
    FileTime.toInt ⟨u32FromLeBytes (bytes.take 4), u32FromLeBytes (bytes.drop 4)⟩ =
      LittleEndian.decodeSigned bytes := by
  have low : (bytes.take 4).length = 4 := by simp [eight]
  have high : (bytes.drop 4).length = 4 := by simp [eight]
  have joined := LittleEndian.decode_append (bytes.take 4) (bytes.drop 4)
  rw [List.take_append_drop, low] at joined
  have lowWord := toNat_u32FromLeBytes low
  have highWord := toNat_u32FromLeBytes high
  unfold FileTime.toInt LittleEndian.decodeSigned
  simp [lowWord, highWord, joined, eight]

namespace ThreadpoolTimer

theorem ticks_eq (due : Duration) : ticks due = min (due.asNanos / 100) i64Max :=
  tryFromUnsigned_getD i64Max _

theorem ticks_le (due : Duration) : ticks due ≤ i64Max := by
  rw [ticks_eq]
  exact Nat.min_le_right _ _

/-- The due time of a delay is the negative number of its ticks. -/
theorem toInt_setRelative {due : Duration} {time : FileTime}
    (armed : setRelative (some due) = some time) : time.toInt = -(ticks due : Int) := by
  have bounded := ticks_le due
  unfold i64Max at bounded
  simp only [setRelative, Option.map_some, Option.some.injEq] at armed
  rw [← armed, FileTime.toInt_of_halves (LittleEndian.length_encodeSigned 8 _)]
  apply LittleEndian.decodeSigned_encodeSigned
  · norm_num
    omega
  · norm_num
    omega

/-- A timer that is armed with a delay expires when the whole ticks of the delay are
over.  A delay below one tick is over at once. -/
theorem dueAt_le_iff {due : Duration} {time : FileTime} {now tick : Nat}
    (armed : setRelative (some due) = some time) (later : now ≤ tick) :
    time.dueAt now ≤ tick ↔
      due.asNanos < 100 * (tick - now) + 100 ∨ i64Max ≤ tick - now := by
  have tickCount := ticks_eq due
  simp only [FileTime.dueAt, toInt_setRelative armed]
  split <;> omega

end ThreadpoolTimer

/-- The timeout that is passed to WinHTTP for an explicit duration. -/
def winhttpTimeoutMs (duration : Duration) : Nat :=
  (tryFromUnsigned i32Max (max (duration.asNanos ⌈/⌉ 1000000) 1)).getD i32Max

end Wrest
