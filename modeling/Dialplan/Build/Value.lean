import Dialplan.Error
import Dialplan.Program.Expression
import Dialplan.Strategy.Tree

/-! What expressions evaluate to, and the conversions that combinators ask for. -/

namespace Dialplan

inductive Build.Value where
  | null
  | bool (b : Bool)
  | number (n : Json.Number)
  | string (text : String)
  | map (fields : Json.Fields)
  | list (items : List Build.Value)
  | strategy (strategy : Strategy)
  | condition (condition : Condition Strategy)

namespace Build.Value

def ofLiteral : Literal → Value
  | .null => null
  | .bool b => bool b
  | .number n => number n
  | .string text => string text
  | .map fields => map fields

def typeName : Value → String
  | null => "null"
  | bool _ => "bool"
  | number _ => "number"
  | string _ => "string"
  | map _ => "map"
  | list _ => "list"
  | strategy _ => "strategy"
  | condition _ => "condition"

/-- The complaint about a value that is not what `context` expects. -/
def mismatch (value : Value) (context expected : String) : Error :=
  .invalidArgument (context ++ " expects a " ++ expected ++ ", got " ++ value.typeName)

def strategy? : Value → Option Strategy
  | strategy node => some node
  | _ => none

def toStrategy (value : Value) (context : String) : Except Error Strategy :=
  match value with
  | strategy node => .ok node
  | value => .error (value.mismatch context "strategy")

/-- A time in milliseconds, which must not be negative. -/
def toDuration (value : Value) (context : String) : Except Error Duration :=
  match value with
  | number (.unsigned ms) => .ok (Duration.ofMillis ms.toNat)
  | number (.real ms) =>
    if ms.negative && ms.units ≠ 0 then .error (value.mismatch context "non-negative number")
    else
      match Duration.ofMillisReal? ms with
      | some d => .ok d
      | none => .error (value.mismatch context "duration in range")
  | number (.signed _) => .error (value.mismatch context "non-negative number")
  | value => .error (value.mismatch context "number")

def toMap (value : Value) (context : String) : Except Error Json.Fields :=
  match value with
  | map fields => .ok fields
  | value => .error (value.mismatch context "map")

/-- A condition; a boolean is a constant one. -/
def toCondition (value : Value) (context : String) : Except Error (Condition Strategy) :=
  match value with
  | condition test => .ok test
  | bool b => .ok (.constant b)
  | value => .error (value.mismatch context "condition")

end Build.Value

end Dialplan
