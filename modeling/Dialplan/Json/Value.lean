import Dialplan.Binary64
import Dialplan.Table

/-! JSON values. Numbers keep the kind they were written in: whole numbers that fit
64 bits stay whole, everything else is a binary64 number. Objects keep their fields
in order of first insertion. -/

namespace Dialplan.Json

inductive Number where
  /-- A whole number from 0 to `2 ^ 64 - 1`. -/
  | unsigned (n : UInt64)
  /-- A whole number from `-2 ^ 63` to -1. -/
  | signed (n : Int64)
  | real (x : Binary64)
deriving DecidableEq

namespace Number

/-- A number from a signed word; one that is not negative is `unsigned`. -/
def ofInt64 (n : Int64) : Number :=
  if n < 0 then .signed n else .unsigned n.toUInt64

/-- The number as a signed word, if it is whole and in range. -/
def toInt64? : Number → Option Int64
  | .unsigned n => if n.toNat < 1 <<< 63 then some n.toInt64 else none
  | .signed n => some n
  | .real _ => none

/-- The number as an unsigned word, if it is whole and in range. -/
def toUInt64? : Number → Option UInt64
  | .unsigned n => some n
  | _ => none

/-- Equality of numbers: kinds must agree, and the two real zeros are equal. -/
def same : Number → Number → Bool
  | .unsigned m, .unsigned n => m == n
  | .signed m, .signed n => m == n
  | .real x, .real y => x.sameNumber y
  | _, _ => false

/-- The written form of a number. -/
def render : Number → List Char
  | .unsigned n => Nat.toDigits 10 n.toNat
  | .signed n => '-' :: Nat.toDigits 10 n.toInt.natAbs
  | .real x => x.render

end Number

inductive Value where
  | null
  | bool (b : Bool)
  | number (n : Number)
  | string (text : String)
  | array (items : List Value)
  | object (fields : List (String × Value))
deriving Inhabited

/-- The fields of an object. -/
abbrev Fields := Table Value

namespace Value

def isNull : Value → Bool
  | .null => true
  | _ => false

def string? : Value → Option String
  | .string text => some text
  | _ => none

def array? : Value → Option (List Value)
  | .array items => some items
  | _ => none

def int64? : Value → Option Int64
  | .number n => n.toInt64?
  | _ => none

mutual

/-- Equality of values. The order of an object's fields does not matter. -/
def same : Value → Value → Bool
  | .null, .null => true
  | .bool a, .bool b => a == b
  | .number m, .number n => m.same n
  | .string s, .string t => s == t
  | .array xs, .array ys => sameItems xs ys
  | .object xs, .object ys => xs.length == ys.length && sameFields xs ys
  | _, _ => false

def sameItems : List Value → List Value → Bool
  | [], [] => true
  | x :: xs, y :: ys => same x y && sameItems xs ys
  | _, _ => false

/-- Every field on the left has an equal one on the right. -/
def sameFields : List (String × Value) → List (String × Value) → Bool
  | [], _ => true
  | (name, x) :: rest, ys =>
    (match Table.find ys name with
      | some y => same x y
      | none => false) && sameFields rest ys

end

end Value

/-- Do two field lists hold the same fields, in any order? -/
def Fields.same (xs ys : Fields) : Bool := Value.same (.object xs) (.object ys)

end Dialplan.Json
