import Dialplan.Json.Lexeme

/-! Reading a JSON value from text. Arrays and objects nest at most 127 deep. A field
that is repeated keeps its first place and takes its last value. -/

namespace Dialplan.Json

/-- How many arrays and objects may be open when a text starts, plus one. -/
def depthLimit : Nat := 128

/-- Is there another item in an array? The cursor is left at the item or at the closing
bracket. -/
def moreItems (first : Bool) (c : Cursor) : Except Fault (Bool × Cursor) :=
  let c := c.skipBlanks
  match c.rest with
  | [] => .error (c.faultNext .endInList)
  | ']' :: _ => .ok (false, c)
  | next :: _ =>
    if first then .ok (true, c)
    else if next = ',' then
      let c := c.step.skipBlanks
      match c.rest with
      | ']' :: _ => .error (c.faultNext .trailingComma)
      | [] => .error (c.faultNext .endInValue)
      | _ => .ok (true, c)
    else .error (c.faultNext .expectedListSeparator)

/-- Is there another field in an object? The cursor is left after the opening quote of its
name or at the closing brace. -/
def moreFields (first : Bool) (c : Cursor) : Except Fault (Bool × Cursor) :=
  let c := c.skipBlanks
  match c.rest with
  | [] => .error (c.faultNext .endInObject)
  | '\x7d' :: _ => .ok (false, c)
  | next :: _ =>
    if first then
      if next = '"' then .ok (true, c.step) else .error (c.faultNext .keyNotString)
    else if next = ',' then
      let c := c.step.skipBlanks
      match c.rest with
      | '"' :: _ => .ok (true, c.step)
      | '\x7d' :: _ => .error (c.faultNext .trailingComma)
      | [] => .error (c.faultNext .endInValue)
      | _ => .error (c.faultNext .keyNotString)
    else .error (c.faultNext .expectedObjectSeparator)

/-- Reads the colon after a field's name. -/
def readColon (c : Cursor) : Except Fault Cursor :=
  let c := c.skipBlanks
  match c.rest with
  | ':' :: _ => .ok c.step
  | [] => .error (c.faultNext .endInObject)
  | _ => .error (c.faultNext .expectedColon)

mutual

/-- Reads a value. `depth` is how much deeper arrays and objects may nest. -/
def readValue : Nat → Nat → Cursor → Except Fault (Value × Cursor)
  | 0, _, c => .error (c.fault .tooDeep)
  | fuel + 1, depth, c =>
    let c := c.skipBlanks
    match c.rest with
    | [] => .error (c.faultNext .endInValue)
    | 'n' :: _ => do
      let c ← readIdent ['u', 'l', 'l'] c.step
      .ok (.null, c)
    | 't' :: _ => do
      let c ← readIdent ['r', 'u', 'e'] c.step
      .ok (.bool true, c)
    | 'f' :: _ => do
      let c ← readIdent ['a', 'l', 's', 'e'] c.step
      .ok (.bool false, c)
    | '-' :: _ => do
      let (n, c) ← readNumber true c.step
      .ok (.number n, c)
    | '"' :: _ => do
      let (text, c) ← readString c.step
      .ok (.string text, c)
    | '[' :: _ => do
      if depth ≤ 1 then .error (c.faultNext .tooDeep)
      else
        let (items, c) ← readItems fuel (depth - 1) true c.step
        .ok (.array items, c)
    | '\x7b' :: _ => do
      if depth ≤ 1 then .error (c.faultNext .tooDeep)
      else
        let (fields, c) ← readFields fuel (depth - 1) [] true c.step
        .ok (.object fields, c)
    | next :: _ =>
      if isDigit next then do
        let (n, c) ← readNumber false c
        .ok (.number n, c)
      else .error (c.faultNext .expectedValue)

/-- Reads the remaining items of an array and its closing bracket. -/
def readItems : Nat → Nat → Bool → Cursor → Except Fault (List Value × Cursor)
  | 0, _, _, c => .error (c.fault .tooDeep)
  | fuel + 1, depth, first, c => do
    let (more, c) ← moreItems first c
    if more then
      let (item, c) ← readValue fuel depth c
      let (items, c) ← readItems fuel depth false c
      .ok (item :: items, c)
    else .ok ([], c.step)

/-- Reads the remaining fields of an object and its closing brace. -/
def readFields : Nat → Nat → Fields → Bool → Cursor → Except Fault (Fields × Cursor)
  | 0, _, _, _, c => .error (c.fault .tooDeep)
  | fuel + 1, depth, fields, first, c => do
    let (more, c) ← moreFields first c
    if more then
      let (name, c) ← readString c
      let c ← readColon c
      let (value, c) ← readValue fuel depth c
      readFields fuel depth (Table.put fields name value) false c
    else .ok (fields, c.step)

end

/-- Checks that only blanks are left. -/
def readEnd (c : Cursor) : Except Fault Unit :=
  let c := c.skipBlanks
  if c.rest.isEmpty then .ok () else .error (c.faultNext .trailingCharacters)

/-- Reads a whole text as one value. -/
def parse (text : String) : Except Fault Value := do
  let c := Cursor.start text.toList
  let (value, c) ← readValue (2 * c.rest.length + 2) depthLimit c
  readEnd c
  .ok value

end Dialplan.Json
