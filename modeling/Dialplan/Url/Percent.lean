import Dialplan.Text.Hex

/-! Percent escapes. Every part of an address has its own set of characters that are
written as the escapes of their UTF-8 bytes. Escapes that are already there are kept, so
that escaping is a map over characters. -/

namespace Dialplan.Percent

/-- The escape of one byte. -/
def escape (byte : UInt8) : List Char :=
  ['%', Hex.upperDigit (byte.toNat / 16), Hex.upperDigit (byte.toNat % 16)]

/-- Controls and everything outside ASCII are escaped in every part. -/
def always (c : Char) : Bool := c.toNat < 0x20 || 0x7f ≤ c.toNat

/-- What a fragment escapes. -/
def inFragment (c : Char) : Bool := always c || [' ', '"', '<', '>', '\x60'].contains c

/-- What a query escapes. -/
def inQuery (c : Char) : Bool := always c || [' ', '"', '#', '<', '>', '\x27'].contains c

/-- What a path escapes. -/
def inPath (c : Char) : Bool :=
  always c || [' ', '"', '#', '<', '>', '?', '\x60', '\x7b', '\x7d'].contains c

/-- What a user name or a password escapes. -/
def inUser (c : Char) : Bool :=
  inPath c || ['/', ':', ';', '=', '@', '[', '\\', ']', '^', '|'].contains c

def encodeChar (escaped : Char → Bool) (c : Char) : List Char :=
  if escaped c then (String.utf8EncodeChar c).flatMap escape else [c]

/-- A text with the characters of a set escaped. -/
def encode (escaped : Char → Bool) (text : List Char) : List Char :=
  text.flatMap (encodeChar escaped)

/-- The bytes of a text with its escapes undone; a percent sign that starts no escape
stands for itself. -/
def decode : List Char → List UInt8
  | '%' :: high :: low :: rest =>
    match Hex.value? high, Hex.value? low with
    | some a, some b => UInt8.ofNat (a * 16 + b) :: decode rest
    | _, _ => 0x25 :: decode (high :: low :: rest)
  | c :: rest => String.utf8EncodeChar c ++ decode rest
  | [] => []

/-- An escape is undone to the byte it was made from. -/
theorem decode_escape (byte : UInt8) (rest : List Char) :
    decode (escape byte ++ rest) = byte :: decode rest := by
  have hb : byte.toNat < 256 := UInt8.toNat_lt_size byte
  have high := Hex.value?_upperDigit (n := byte.toNat / 16) (by omega)
  have low := Hex.value?_upperDigit (n := byte.toNat % 16) (by omega)
  simp only [escape, List.cons_append, List.nil_append, decode, high, low]
  congr 1
  rw [show byte.toNat / 16 * 16 + byte.toNat % 16 = byte.toNat by omega]
  exact UInt8.ofNat_toNat

end Dialplan.Percent
