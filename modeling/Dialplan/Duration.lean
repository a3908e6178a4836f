import Dialplan.Json.Value

/-! Lengths of time, in whole nanoseconds. -/

namespace Dialplan

/-- A length of time in nanoseconds. -/
abbrev Duration := Nat

/-- A moment, in nanoseconds since the clock was started. -/
abbrev Instant := Nat

namespace Duration

/-- Nanoseconds per millisecond. -/
def perMilli : Nat := 1000000

/-- Nanoseconds per second. -/
def perSecond : Nat := 1000000000

def ofMillis (ms : Nat) : Duration := ms * perMilli

/-- Whole milliseconds. -/
def millis (d : Duration) : Nat := d / perMilli

/-- Whole milliseconds as a 64-bit word; longer times lose their high bits. -/
def millisWord (d : Duration) : UInt64 := UInt64.ofNat d.millis

/-- Whole milliseconds, rounded up. -/
def millisUp (d : Duration) : Nat := (d + (perMilli - 1)) / perMilli

/-- A time given in milliseconds by a binary64 number: seconds first, by one rounded
division, then whole nanoseconds, a half going to the even neighbour. `none` from
`2 ^ 64` seconds on. -/
def ofMillisReal? (ms : Binary64) : Option Duration :=
  let seconds := Binary64.div ms.units (Binary64.ofNat 1000)
  if seconds < UInt64.size * Binary64.one then
    some (divHalfEven (seconds * perSecond) Binary64.one)
  else none

theorem millis_ofMillis (ms : Nat) : millis (ofMillis ms) = ms := by
  simp [millis, ofMillis, perMilli]

end Duration

end Dialplan
