import Dialplan.Text.Hex

/-! IPv4 addresses. They may be written with fewer than four parts, the last of which then
fills the bytes that are left, and in octal or hexadecimal digits. -/

namespace Dialplan

/-- An IPv4 address as one number. -/
structure Ipv4 where
  value : UInt32
deriving DecidableEq

namespace Ipv4

/-- A number in digits of a base up to sixteen; no digits are zero. -/
def digits? (base : Nat) (text : List Char) : Option Nat :=
  text.foldlM (fun n c =>
    match Hex.value? c with
    | some d => if d < base then some (n * base + d) else none
    | none => none) 0

/-- A part of an address: hexadecimal after `0x`, octal after `0`, else decimal. -/
def number? : List Char → Option Nat
  | [] => none
  | '0' :: 'x' :: digits => digits? 16 digits
  | '0' :: 'X' :: digits => digits? 16 digits
  | '0' :: d :: digits => digits? 8 (d :: digits)
  | digits => digits? 10 digits

/-- The parts of a dotted name, without the empty one after a final dot. -/
def parts (name : List Char) : List (List Char) :=
  let parts := name.splitOn '.'
  if parts.getLast? = some [] then parts.dropLast else parts

/-- A name whose last part is a number is no domain name: it has to be an address. -/
def isMeant (name : List Char) : Bool :=
  (parts name).getLast?.any fun last =>
    (!last.isEmpty && last.all Char.isDigit) || (number? last).isSome

/-- The address of up to four numbers: all but the last are bytes, and the last fills the
bytes that are left. -/
def ofNumbers? (numbers : List Nat) : Option Ipv4 :=
  let bytes := numbers.dropLast
  let left := 4 - bytes.length
  match numbers.getLast? with
  | some last =>
    if 4 < numbers.length || bytes.any (255 < ·) || 1 <<< (8 * left) ≤ last then none
    else
      some ⟨UInt32.ofNat (bytes.foldl (fun n byte => n * 256 + byte) 0 <<< (8 * left) + last)⟩
  | none => none

def parse? (name : List Char) : Option Ipv4 := ((parts name).mapM number?).bind ofNumbers?

/-- The bytes of an address, first to last. -/
def bytes (address : Ipv4) : List Nat :=
  let n := address.value.toNat
  [n >>> 24, (n >>> 16) % 256, (n >>> 8) % 256, n % 256]

/-- The four bytes in decimal digits. -/
def render (address : Ipv4) : List Char :=
  ['.'].intercalate (address.bytes.map (Nat.toDigits 10))

end Ipv4

end Dialplan
