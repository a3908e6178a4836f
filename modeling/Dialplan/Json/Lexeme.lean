import Dialplan.Json.Cursor
import Dialplan.Json.Value
import Dialplan.Text.Hex

/-! Reading the leaves of JSON text: literals, numbers and strings. -/

namespace Dialplan.Json

/-! ### Literals -/

/-- Reads the remaining letters of a literal. -/
def readIdent : List Char → Cursor → Except Fault Cursor
  | [], c => .ok c
  | expected :: more, c =>
    match c.rest with
    | [] => .error (c.fault .endInValue)
    | found :: _ =>
      if found = expected then readIdent more c.step
      else .error (c.faultNext .expectedIdent)

/-! ### Numbers -/

def isDigit (c : Char) : Bool := '0' ≤ c && c ≤ '9'

def digitValue (c : Char) : Nat := c.toNat - 48

/-- The digits at the front of a text. -/
def leadingDigits (text : List Char) : List Char := text.takeWhile isDigit

/-- Appends decimal digits to a significand as long as it fits 64 bits; returns how many
digits were left over. -/
def absorb (significand : Nat) : List Char → Nat × Nat
  | [] => (significand, 0)
  | d :: rest =>
    let next := significand * 10 + digitValue d
    if next < UInt64.size then absorb next rest else (significand, rest.length + 1)

/-- The number written with a significand and a power of ten. -/
def realNumber (negative : Bool) (significand : Nat) (exponent : Int) (c : Cursor) :
    Except Fault (Number × Cursor) :=
  match Binary64.ofDecimal significand exponent with
  | some units => .ok (.real ⟨negative, units⟩, c)
  | none => .error (c.fault .numberOutOfRange)

/-- The digits of an exponent, unless they exceed a signed 32-bit word; then the number of
digits read when that shows. -/
def exponentValue : List Char → Nat → Nat → Except Nat Nat
  | [], _, value => .ok value
  | d :: rest, count, value =>
    let next := value * 10 + digitValue d
    if next < 1 <<< 31 then exponentValue rest (count + 1) next else .error (count + 1)

/-- Reads the exponent of a number; the cursor stands at its letter. -/
def readExponent (negative : Bool) (significand : Nat) (before : Int) (c : Cursor) :
    Except Fault (Number × Cursor) :=
  let c := c.step
  let (downward, c) :=
    match c.rest with
    | '+' :: _ => (false, c.step)
    | '-' :: _ => (true, c.step)
    | _ => (false, c)
  match c.rest with
  | [] => .error (c.fault .endInValue)
  | first :: _ =>
    if !isDigit first then .error (c.faultNext .invalidNumber)
    else
      let digits := leadingDigits c.rest
      match exponentValue digits 0 0 with
      | .ok value =>
        let exponent := if downward then before - (value : Int) else before + (value : Int)
        realNumber negative significand exponent (c.past digits.length)
      | .error count =>
        if significand ≠ 0 ∧ !downward then .error ((c.past count).fault .numberOutOfRange)
        else .ok (.real ⟨negative, 0⟩, c.past digits.length)

/-- Reads what follows the digits counted so far: an exponent or nothing. -/
def readScale (negative : Bool) (significand : Nat) (exponent : Int) (c : Cursor) :
    Except Fault (Number × Cursor) :=
  match c.rest with
  | 'e' :: _ => readExponent negative significand exponent c
  | 'E' :: _ => readExponent negative significand exponent c
  | _ => realNumber negative significand exponent c

/-- Reads the fraction of a number; the cursor stands at its point. Digits that no longer
fit the significand are dropped. -/
def readFraction (negative : Bool) (significand : Nat) (before : Int) (c : Cursor) :
    Except Fault (Number × Cursor) :=
  let c := c.step
  let digits := leadingDigits c.rest
  if digits.isEmpty then
    match c.rest with
    | [] => .error (c.faultNext .endInValue)
    | _ => .error (c.faultNext .invalidNumber)
  else
    let (significand, left) := absorb significand digits
    readScale negative significand (before - ((digits.length - left : Nat) : Int))
      (c.past digits.length)

/-- A whole number that fits 64 bits; minus zero and what does not fit a signed word are
real. -/
def wholeNumber (negative : Bool) (significand : Nat) : Number :=
  if !negative then .unsigned (UInt64.ofNat significand)
  else if significand = 0 ∨ 1 <<< 63 < significand then
    .real ⟨true, Binary64.ofNat significand⟩
  else .signed (Int64.ofInt (-(significand : Int)))

/-- Reads a number; the cursor stands after its sign. A number goes on with a fraction, an
exponent or neither, and digits beyond 64 bits scale it. -/
def readNumber (negative : Bool) (c : Cursor) : Except Fault (Number × Cursor) :=
  match c.rest with
  | [] => .error (c.fault .endInValue)
  | first :: rest =>
    if !isDigit first then .error (c.faultNext .invalidNumber)
    else if first = '0' && rest.head?.any isDigit then .error (c.step.faultNext .invalidNumber)
    else
      let digits := if first = '0' then [first] else leadingDigits c.rest
      let (significand, left) := absorb 0 digits
      let c := c.past digits.length
      match c.rest with
      | '.' :: _ => readFraction negative significand left c
      | 'e' :: _ => readExponent negative significand left c
      | 'E' :: _ => readExponent negative significand left c
      | _ =>
        if left = 0 then .ok (wholeNumber negative significand, c)
        else realNumber negative significand left c

/-! ### Strings -/

/-- Four hexadecimal digits as a number. -/
def fourHex? (a b c d : Char) : Option Nat := do
  let a ← Hex.value? a
  let b ← Hex.value? b
  let c ← Hex.value? c
  let d ← Hex.value? d
  pure (((a * 16 + b) * 16 + c) * 16 + d)

/-- The number of bytes a text takes. -/
def byteLength (text : List Char) : Nat := text.foldl (fun n c => n + c.utf8Size) 0

/-- Reads four hexadecimal digits. -/
def readHex (c : Cursor) : Except Fault (Nat × Cursor) :=
  match c.rest with
  | h1 :: h2 :: h3 :: h4 :: _ =>
    match fourHex? h1 h2 h3 h4 with
    | some n => .ok (n, c.past 4)
    | none => .error ⟨.invalidEscape, some (c.placeAfter 4)⟩
  | few =>
    if byteLength few < 4 then .error ⟨.endInString, some (c.placeAfter 4)⟩
    else .error ⟨.invalidEscape, some (c.placeAfter 4)⟩

/-- Reads the character of a `\u` escape; the cursor stands after the letter. A leading
surrogate must be followed by the escape of a trailing one. -/
def readUnicode (c : Cursor) : Except Fault (Char × Cursor) := do
  let (n, c) ← readHex c
  if 0xDC00 ≤ n ∧ n ≤ 0xDFFF then .error (c.fault .loneSurrogate)
  else if n < 0xD800 ∨ 0xDBFF < n then .ok (Char.ofNat n, c)
  else
    match c.rest with
    | [] => .error (c.fault .endInString)
    | '\\' :: _ =>
      let c := c.step
      match c.rest with
      | [] => .error (c.fault .endInString)
      | 'u' :: _ =>
        let (m, c) ← readHex c.step
        if m < 0xDC00 ∨ 0xDFFF < m then .error (c.fault .loneSurrogate)
        else .ok (Char.ofNat ((n - 0xD800) * 1024 + (m - 0xDC00) + 0x10000), c)
      | _ => .error (c.faultNext .unexpectedEndOfEscape)
    | _ => .error (c.faultNext .unexpectedEndOfEscape)

/-- Reads an escape; the cursor stands after the backslash. -/
def readEscape (c : Cursor) : Except Fault (Char × Cursor) :=
  match c.rest with
  | [] => .error (c.fault .endInString)
  | '"' :: _ => .ok ('"', c.step)
  | '\\' :: _ => .ok ('\\', c.step)
  | '/' :: _ => .ok ('/', c.step)
  | 'b' :: _ => .ok ('\x08', c.step)
  | 'f' :: _ => .ok ('\x0c', c.step)
  | 'n' :: _ => .ok ('\n', c.step)
  | 'r' :: _ => .ok ('\r', c.step)
  | 't' :: _ => .ok ('\t', c.step)
  | 'u' :: _ => readUnicode c.step
  | _ => .error (c.faultNext .invalidEscape)

/-- Reads the rest of a string up to and over its closing quote. -/
def readChars : Nat → List Char → Cursor → Except Fault (List Char × Cursor)
  | 0, _, c => .error (c.fault .endInString)
  | fuel + 1, seen, c =>
    match c.rest with
    | [] => .error (c.fault .endInString)
    | '"' :: _ => .ok (seen.reverse, c.step)
    | '\\' :: _ => do
      let (char, c) ← readEscape c.step
      readChars fuel (char :: seen) c
    | char :: _ =>
      if char.toNat < 32 then .error (c.faultNext .controlCharacter)
      else readChars fuel (char :: seen) c.step

/-- Reads a string; the cursor stands after its opening quote. -/
def readString (c : Cursor) : Except Fault (String × Cursor) := do
  let (chars, c) ← readChars (c.rest.length + 1) [] c
  .ok (String.ofList chars, c)

end Dialplan.Json
