import Dialplan.Json.Parser

/-! Stepping over a value that nobody asked for. The text is checked less closely than
when it is read: escapes need not form characters, numbers may be of any size, and
nesting has no limit. -/

namespace Dialplan.Json

/-- Steps over digits. -/
def skipDigits (c : Cursor) : Cursor := c.past (leadingDigits c.rest).length

/-- Steps over the exponent of a number; the cursor stands at its letter. -/
def skipExponent (c : Cursor) : Except Fault Cursor :=
  let c := c.step
  let c :=
    match c.rest with
    | '+' :: _ => c.step
    | '-' :: _ => c.step
    | _ => c
  if c.rest.head?.any isDigit then .ok (skipDigits c)
  else .error (c.faultNext .invalidNumber)

/-- Steps over what may follow the whole part and fraction of a number. -/
def skipScale (c : Cursor) : Except Fault Cursor :=
  match c.rest with
  | 'e' :: _ => skipExponent c
  | 'E' :: _ => skipExponent c
  | _ => .ok c

/-- Steps over a number; the cursor stands after its sign. -/
def skipNumber (c : Cursor) : Except Fault Cursor :=
  match c.rest with
  | [] => .error (c.faultNext .invalidNumber)
  | first :: rest =>
    if !isDigit first then .error (c.faultNext .invalidNumber)
    else if first = '0' && rest.head?.any isDigit then .error (c.step.faultNext .invalidNumber)
    else
      let c := if first = '0' then c.step else skipDigits c
      match c.rest with
      | '.' :: _ =>
        let c := c.step
        if c.rest.head?.any isDigit then skipScale (skipDigits c)
        else .error (c.faultNext .invalidNumber)
      | _ => skipScale c

/-- Steps over an escape; the cursor stands after the backslash. -/
def skipEscape (c : Cursor) : Except Fault Cursor :=
  match c.rest with
  | [] => .error (c.fault .endInString)
  | 'u' :: _ => do
    let (_, c) ← readHex c.step
    .ok c
  | char :: _ =>
    if ['"', '\\', '/', 'b', 'f', 'n', 'r', 't'].contains char then .ok c.step
    else .error (c.faultNext .invalidEscape)

/-- Steps over the rest of a string and its closing quote. -/
def skipChars : Nat → Cursor → Except Fault Cursor
  | 0, c => .error (c.fault .endInString)
  | fuel + 1, c =>
    match c.rest with
    | [] => .error (c.fault .endInString)
    | '"' :: _ => .ok c.step
    | '\\' :: _ => do
      let c ← skipEscape c.step
      skipChars fuel c
    | char :: _ =>
      if char.toNat < 32 then .error (c.fault .controlCharacter) else skipChars fuel c.step

def skipString (c : Cursor) : Except Fault Cursor := skipChars (c.rest.length + 1) c

/-- The kind of an array or object that has been opened. -/
inductive Bracket where
  | list
  | object
deriving DecidableEq

/-- Steps over a leaf, or over an opening bracket, whose kind is then returned. -/
def skipToken (c : Cursor) : Except Fault (Option Bracket × Cursor) :=
  match c.rest with
  | [] => .error (c.faultNext .endInValue)
  | 'n' :: _ => return (none, ← readIdent ['u', 'l', 'l'] c.step)
  | 't' :: _ => return (none, ← readIdent ['r', 'u', 'e'] c.step)
  | 'f' :: _ => return (none, ← readIdent ['a', 'l', 's', 'e'] c.step)
  | '-' :: _ => return (none, ← skipNumber c.step)
  | '"' :: _ => return (none, ← skipString c.step)
  | '[' :: _ => .ok (some .list, c.step)
  | '\x7b' :: _ => .ok (some .object, c.step)
  | next :: _ =>
    if isDigit next then return (none, ← skipNumber c)
    else .error (c.faultNext .expectedValue)

/-- Steps over closing brackets and a comma up to where the next item or field of the
innermost open bracket starts; nothing is left open when the value has ended. A comma is
welcome only after an item. -/
def skipClosing : Nat → Bool → Bracket → List Bracket → Cursor →
    Except Fault (Option (Bracket × List Bracket) × Cursor)
  | 0, _, _, _, c => .error (c.fault .endInValue)
  | fuel + 1, afterItem, inner, outer, c =>
    let c := c.skipBlanks
    let close :=
      match outer with
      | [] => .ok (none, c.step)
      | next :: outer => skipClosing fuel true next outer c.step
    match c.rest with
    | [] =>
      .error (c.faultNext (if inner = .list then .endInList else .endInObject))
    | char :: _ =>
      if char = ',' ∧ afterItem then .ok (some (inner, outer), c.step)
      else if char = ']' ∧ inner = .list then close
      else if char = '\x7d' ∧ inner = .object then close
      else if afterItem then
        .error (c.faultNext
          (if inner = .list then .expectedListSeparator else .expectedObjectSeparator))
      else .ok (some (inner, outer), c)

/-- Steps over the name of a field and its colon. -/
def skipName (c : Cursor) : Except Fault Cursor := do
  let c := c.skipBlanks
  match c.rest with
  | [] => .error (c.faultNext .endInObject)
  | '"' :: _ =>
    let c ← skipString c.step
    readColon c
  | _ => .error (c.faultNext .keyNotString)

/-- Steps over values until no bracket is open. -/
def skipValues : Nat → List Bracket → Cursor → Except Fault Cursor
  | 0, _, c => .error (c.fault .endInValue)
  | fuel + 1, outer, c => do
    let (opened, c) ← skipToken c.skipBlanks
    let closed ←
      match opened, outer with
      | some inner, outer => skipClosing (c.rest.length + 1) false inner outer c
      | none, [] => .ok (none, c)
      | none, inner :: outer => skipClosing (c.rest.length + 1) true inner outer c
    match closed with
    | (none, c) => .ok c
    | (some (inner, outer), c) =>
      let c ← if inner = .object then skipName c else .ok c
      skipValues fuel (inner :: outer) c

/-- Steps over one value. -/
def skipValue (c : Cursor) : Except Fault Cursor := skipValues (c.rest.length + 1) [] c

end Dialplan.Json
