import Dialplan.Json.Value
import Dialplan.Program.Combinator

/-! Expressions of a plan. Every JSON value stands for one: marked strings are symbols,
arrays headed by a marked string are invocations or parenthesised symbols, other
arrays are lists, and the rest are literals. Objects are never looked into. -/

namespace Dialplan

inductive Literal where
  | null
  | bool (b : Bool)
  | number (n : Json.Number)
  | string (text : String)
  | map (fields : Json.Fields)
deriving Inhabited

inductive Expression where
  | literal (value : Literal)
  /-- A bound name, without its marker. -/
  | symbol (name : String)
  | list (items : List Expression)
  /-- A combinator call; the tag is without its marker. -/
  | invocation (tag : String) (args : List Expression)
deriving Inhabited

namespace Expression

/-- The name at the head of an array, if it is headed by a marked string. -/
def headName? : List Json.Value → Option String
  | .string text :: _ => symbolName? text
  | _ => none

/-- An array of expressions: a lone name that is no combinator's tag is that symbol. -/
def ofItems (head : Option String) (items : List Expression) : Expression :=
  match head with
  | some name =>
    if items.length = 1 ∧ Combinator.ofTag? name = none then .symbol name
    else .invocation name (items.drop 1)
  | none => .list items

mutual

/-- The expression that a JSON value stands for. -/
def ofValue : Json.Value → Expression
  | .null => .literal .null
  | .bool b => .literal (.bool b)
  | .number n => .literal (.number n)
  | .string text =>
    match symbolName? text with
    | some name => .symbol name
    | none => .literal (.string text)
  | .object fields => .literal (.map fields)
  | .array items => ofItems (headName? items) (ofValues items)

def ofValues : List Json.Value → List Expression
  | [] => []
  | value :: rest => ofValue value :: ofValues rest

end

end Expression

/-- Equality of literals. The order of a map's fields does not matter. -/
def Literal.same : Literal → Literal → Bool
  | .null, .null => true
  | .bool a, .bool b => a == b
  | .number m, .number n => m.same n
  | .string s, .string t => s == t
  | .map xs, .map ys => Json.Fields.same xs ys
  | _, _ => false

mutual

def Expression.same : Expression → Expression → Bool
  | .literal x, .literal y => x.same y
  | .symbol x, .symbol y => x == y
  | .list xs, .list ys => Expression.sameItems xs ys
  | .invocation s xs, .invocation t ys => s == t && Expression.sameItems xs ys
  | _, _ => false

def Expression.sameItems : List Expression → List Expression → Bool
  | [], [] => true
  | x :: xs, y :: ys => Expression.same x y && Expression.sameItems xs ys
  | _, _ => false

end

end Dialplan
