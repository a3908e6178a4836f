import Dialplan.Json.Value
import Dialplan.Text.Hex

/-! The compact written form of JSON values: no blanks, fields in order, and only
quotes, backslashes and control characters escaped. -/

namespace Dialplan.Json

/-- The written form of one character inside a string. -/
def escapeChar (c : Char) : List Char :=
  match c with
  | '"' => ['\\', '"']
  | '\\' => ['\\', '\\']
  | '\n' => ['\\', 'n']
  | '\r' => ['\\', 'r']
  | '\t' => ['\\', 't']
  | c =>
    if c.toNat = 8 then ['\\', 'b']
    else if c.toNat = 12 then ['\\', 'f']
    else if c.toNat < 32 then
      ['\\', 'u', '0', '0', Hex.digit (c.toNat / 16), Hex.digit (c.toNat % 16)]
    else [c]

/-- A string between quotes. -/
def quote (text : String) : List Char := '"' :: text.toList.flatMap escapeChar ++ ['"']

mutual

/-- The written form of a value. -/
def Value.render : Value → List Char
  | .null => ['n', 'u', 'l', 'l']
  | .bool true => ['t', 'r', 'u', 'e']
  | .bool false => ['f', 'a', 'l', 's', 'e']
  | .number n => n.render
  | .string text => quote text
  | .array items => '[' :: renderItems items ++ [']']
  | .object fields => '{' :: renderFields fields ++ ['}']

/-- The items of an array, separated by commas. -/
def renderItems : List Value → List Char
  | [] => []
  | [item] => item.render
  | item :: rest => item.render ++ ',' :: renderItems rest

/-- The fields of an object, separated by commas. -/
def renderFields : List (String × Value) → List Char
  | [] => []
  | [(name, value)] => quote name ++ ':' :: value.render
  | (name, value) :: rest => quote name ++ ':' :: value.render ++ ',' :: renderFields rest

end

/-- The written form of a value as a string. -/
def Value.text (value : Value) : String := String.ofList value.render

/-- The written form of an object. -/
def Fields.text (fields : Fields) : String := Value.text (.object fields)

end Dialplan.Json
