import Dialplan.Json.Codec

/-! Records: values with a fixed list of named fields. A record is written as an object
with every field in order. It is read from an object with its fields in any order, or
from an array that holds them in order; unknown fields are stepped over, and a field
must not be repeated. -/

namespace Dialplan.Json

/-- A field of a record type, with the reading that fills it in. -/
structure Field (ρ : Type) where
  name : String
  /-- Must an object have this field? -/
  required : Bool
  read : Nat → Cursor → Except Fault ((ρ → ρ) × Cursor)
  ofValue : Value → Except Cause (ρ → ρ)
  toValue : ρ → Value

/-- A field of a codec's type. -/
def Field.of {ρ α : Type} (name : String) (required : Bool) (codec : Codec α)
    (get : ρ → α) (set : α → ρ → ρ) : Field ρ where
  name := name
  required := required
  read depth c := do
    let (a, c) ← codec.read depth c
    .ok (set a, c)
  ofValue value := set <$> codec.ofValue value
  toValue record := codec.toValue (get record)

structure Record (ρ : Type) where
  /-- The type's name. -/
  title : String
  fields : List (Field ρ)
  /-- The record before any field is filled in. -/
  blank : ρ
  /-- May an array leave out trailing fields? -/
  lenient : Bool

namespace Record

variable {ρ : Type}

def expected (schema : Record ρ) : String := "struct " ++ schema.title

/-- The length an array was expected to have. -/
def expectedLength (schema : Record ρ) : String :=
  schema.expected ++ " with " ++ toString schema.fields.length ++ " elements"

/-- The first required field that has not been seen. -/
def missing? (schema : Record ρ) (seen : List String) : Option String :=
  (schema.fields.find? fun field => field.required && !seen.contains field.name).map Field.name

/-- The place of a fault that concerns the whole of an array or object: after the bracket
that closes it, if the cursor stands before it. -/
def placeAtEnd (closing : Char) (c : Cursor) : Place :=
  let c := c.skipBlanks
  match c.rest with
  | next :: _ => if next = closing then c.step.place else c.place
  | [] => c.place

/-- The place of a fault that concerns the whole of an array. -/
def placeAtListEnd (c : Cursor) : Place :=
  let c := c.skipBlanks
  match c.rest with
  | ',' :: _ => c.step.skipBlanks.place
  | _ => placeAtEnd ']' c

/-- Reads the remaining fields of an object and its closing brace. -/
def readObject (schema : Record ρ) (depth : Nat) :
    Nat → List String → ρ → Bool → Cursor → Except Fault (ρ × Cursor)
  | 0, _, _, _, c => .error (c.fault .tooDeep)
  | fuel + 1, seen, record, first, c => do
    let (more, c) ← moreFields first c
    if more then
      let (name, c) ← readString c
      match schema.fields.find? (·.name = name) with
      | some field =>
        if seen.contains name then
          .error ⟨.duplicateField name, some (placeAtEnd '\x7d' c)⟩
        else
          let c ← readColon c
          let (fill, c) ← field.read depth c
          readObject schema depth fuel (name :: seen) (fill record) false c
      | none =>
        let c ← readColon c
        let c ← skipValue c
        readObject schema depth fuel seen record false c
    else
      match schema.missing? seen with
      | some name => .error ⟨.missingField name, some (placeAtEnd '\x7d' c)⟩
      | none => .ok (record, c.step)

/-- Checks that an array ends where its last field was read. -/
def readListEnd (c : Cursor) : Except Fault Cursor :=
  let c := c.skipBlanks
  match c.rest with
  | ']' :: _ => .ok c.step
  | ',' :: _ =>
    let c := c.step.skipBlanks
    match c.rest with
    | ']' :: _ => .error (c.faultNext .trailingComma)
    | _ => .error (c.faultNext .trailingCharacters)
  | [] => .error (c.faultNext .endInList)
  | _ => .error (c.faultNext .trailingCharacters)

/-- Reads the remaining fields from an array and its closing bracket. -/
def readArray (schema : Record ρ) (depth : Nat) :
    List (Field ρ) → Nat → ρ → Cursor → Except Fault (ρ × Cursor)
  | [], _, record, c => do
    let c ← readListEnd c
    .ok (record, c)
  | field :: fields, count, record, c => do
    let (more, c) ← moreItems (count = 0) c
    if more then
      let (fill, c) ← field.read depth c
      readArray schema depth fields (count + 1) (fill record) c
    else if schema.lenient then
      .ok (record, c.step)
    else .error ⟨.wrongLength count schema.expectedLength, some (placeAtListEnd c)⟩

/-- Fills in the fields of an object that has already been read. -/
def ofFields (schema : Record ρ) : Fields → ρ → Except Cause ρ
  | [], record => .ok record
  | (name, value) :: rest, record =>
    match schema.fields.find? (·.name = name) with
    | some field => do
      let fill ← field.ofValue value
      ofFields schema rest (fill record)
    | none => ofFields schema rest record

/-- Fills in fields from the items of an array that has already been read. -/
def ofItems (schema : Record ρ) (length : Nat) :
    List (Field ρ) → List Value → ρ → Except Cause ρ
  | [], [], record => .ok record
  | [], _ :: _, _ => .error (.wrongLength length "fewer elements in array")
  | fields, [], record =>
    if schema.lenient then .ok record
    else .error (.wrongLength (schema.fields.length - fields.length) schema.expectedLength)
  | field :: fields, item :: items, record => do
    let fill ← field.ofValue item
    ofItems schema length fields items (fill record)

/-- The codec of a record type. -/
def codec (schema : Record ρ) : Codec ρ where
  read depth c := do
    let c := c.skipBlanks
    match c.rest with
    | '[' :: _ =>
      if depth ≤ 1 then .error (c.faultNext .tooDeep)
      else schema.readArray (depth - 1) schema.fields 0 schema.blank c.step
    | '\x7b' :: _ =>
      if depth ≤ 1 then .error (c.faultNext .tooDeep)
      else schema.readObject (depth - 1) (c.rest.length + 1) [] schema.blank true c.step
    | _ => refuse schema.expected c
  ofValue
    | .object fields =>
      match schema.missing? (Table.names fields) with
      | some name => do
        let _ ← schema.ofFields fields schema.blank
        .error (.missingField name)
      | none => schema.ofFields fields schema.blank
    | .array items => schema.ofItems items.length schema.fields items schema.blank
    | value => .error (.wrongType value.found schema.expected)
  toValue record := .object (schema.fields.map fun field => (field.name, field.toValue record))

end Record

end Dialplan.Json
