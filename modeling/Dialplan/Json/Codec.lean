import Dialplan.Json.Skip
import Dialplan.Json.Printer

/-! Codecs: how values of a type are written as JSON and read back, from text or from a
value that has already been read. Reading from text stops at the first thing that does
not fit and says where; reading from a value only says what. -/

namespace Dialplan.Json

structure Codec (α : Type) where
  /-- Reads from text, with the depth that arrays and objects may still nest. -/
  read : Nat → Cursor → Except Fault (α × Cursor)
  ofValue : Value → Except Cause α
  toValue : α → Value

namespace Number

/-- A number as it is named when it was not wanted. -/
def found : Number → Found
  | .unsigned n => .integer n.toNat
  | .signed n => .integer n.toInt
  | .real x => .real x

end Number

/-- A value as it is named when it was not wanted. -/
def Value.found : Value → Found
  | .null => .null
  | .bool b => .boolean b
  | .number n => n.found
  | .string text => .string text
  | .array _ => .sequence
  | .object _ => .map

/-- Refuses the value in front of the cursor. Leaves are read to be named, so a fault in
one of them comes first; arrays and objects are not entered. -/
def refuse {α : Type} (expected : String) (c : Cursor) : Except Fault α := do
  match c.rest with
  | [] => .error (c.faultNext .endInValue)
  | 'n' :: _ =>
    let c ← readIdent ['u', 'l', 'l'] c.step
    .error (c.fault (.wrongType .null expected))
  | 't' :: _ =>
    let c ← readIdent ['r', 'u', 'e'] c.step
    .error (c.fault (.wrongType (.boolean true) expected))
  | 'f' :: _ =>
    let c ← readIdent ['a', 'l', 's', 'e'] c.step
    .error (c.fault (.wrongType (.boolean false) expected))
  | '-' :: _ =>
    let (n, c) ← readNumber true c.step
    .error (c.fault (.wrongType n.found expected))
  | '"' :: _ =>
    let (text, c) ← readString c.step
    .error (c.fault (.wrongType (.string text) expected))
  | '[' :: _ => .error (c.fault (.wrongType .sequence expected))
  | '\x7b' :: _ => .error (c.fault (.wrongType .map expected))
  | next :: _ =>
    if isDigit next then
      let (n, c) ← readNumber false c
      .error (c.fault (.wrongType n.found expected))
    else .error (c.faultNext .expectedValue)

namespace Codec

variable {α : Type}

def bool : Codec Bool where
  read _ c := do
    let c := c.skipBlanks
    match c.rest with
    | 't' :: _ => return (true, ← readIdent ['r', 'u', 'e'] c.step)
    | 'f' :: _ => return (false, ← readIdent ['a', 'l', 's', 'e'] c.step)
    | _ => refuse "a boolean" c
  ofValue
    | .bool b => .ok b
    | value => .error (.wrongType value.found "a boolean")
  toValue := .bool

def string : Codec String where
  read _ c := do
    let c := c.skipBlanks
    match c.rest with
    | '"' :: _ => readString c.step
    | _ => refuse "a string" c
  ofValue
    | .string text => .ok text
    | value => .error (.wrongType value.found "a string")
  toValue := .string

/-- A codec of whole numbers of one kind. -/
def whole (expected : String) (ofNumber : Number → Option α) (toNumber : α → Number) :
    Codec α where
  read _ c := do
    let c := c.skipBlanks
    let start : Option (Bool × Cursor) :=
      match c.rest with
      | '-' :: _ => some (true, c.step)
      | next :: _ => if isDigit next then some (false, c) else none
      | [] => none
    match start with
    | none => refuse expected c
    | some (negative, c) =>
      let (n, c) ← readNumber negative c
      match accept n with
      | .ok a => .ok (a, c)
      | .error cause => .error (c.fault cause)
  ofValue
    | .number n => accept n
    | value => .error (.wrongType value.found expected)
  toValue a := .number (toNumber a)
where
  /-- A whole number out of range is a wrong value, any other number a wrong type. -/
  accept (n : Number) : Except Cause α :=
    match ofNumber n with
    | some a => .ok a
    | none =>
      match n with
      | .real x => .error (.wrongType (.real x) expected)
      | n => .error (.wrongValue n.found expected)

def uint64 : Codec UInt64 := whole "u64" Number.toUInt64? .unsigned

def int64 : Codec Int64 := whole "i64" Number.toInt64? Number.ofInt64

/-- A codec that also takes null. -/
def optional (codec : Codec α) : Codec (Option α) where
  read depth c := do
    let c := c.skipBlanks
    match c.rest with
    | 'n' :: _ => return (none, ← readIdent ['u', 'l', 'l'] c.step)
    | _ =>
      let (a, c) ← codec.read depth c
      .ok (some a, c)
  ofValue
    | .null => .ok none
    | value => some <$> codec.ofValue value
  toValue
    | none => .null
    | some a => codec.toValue a

/-- Reads the remaining items of an array and its closing bracket. -/
def readList (codec : Codec α) (depth : Nat) :
    Nat → Bool → Cursor → Except Fault (List α × Cursor)
  | 0, _, c => .error (c.fault .tooDeep)
  | fuel + 1, first, c => do
    let (more, c) ← moreItems first c
    if more then
      let (item, c) ← codec.read depth c
      let (items, c) ← readList codec depth fuel false c
      .ok (item :: items, c)
    else .ok ([], c.step)

def list (codec : Codec α) : Codec (List α) where
  read depth c := do
    let c := c.skipBlanks
    match c.rest with
    | '[' :: _ =>
      if depth ≤ 1 then .error (c.faultNext .tooDeep)
      else readList codec (depth - 1) (c.rest.length + 1) true c.step
    | _ => refuse "a sequence" c
  ofValue
    | .array items => items.mapM codec.ofValue
    | value => .error (.wrongType value.found "a sequence")
  toValue items := .array (items.map codec.toValue)

/-- Reads a whole text. -/
def parse (codec : Codec α) (text : String) : Except Fault α := do
  let (a, c) ← codec.read depthLimit (Cursor.start text.toList)
  readEnd c
  .ok a

/-- Reads a value; the fault has no place. -/
def decode (codec : Codec α) (value : Value) : Except Fault α :=
  match codec.ofValue value with
  | .ok a => .ok a
  | .error cause => .error ⟨cause, none⟩

/-- The written form. -/
def print (codec : Codec α) (a : α) : String := (codec.toValue a).text

end Codec

end Dialplan.Json
