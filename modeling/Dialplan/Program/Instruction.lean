import Dialplan.Json.Parser
import Dialplan.Json.Printer
import Dialplan.Program.Expression

/-! Plans: lists of definitions, each of a transport or of a named expression. -/

namespace Dialplan

inductive Instruction where
  /-- Defines a transport of a registered type. -/
  | defTransport (name type : String) (priority : Int64) (options : Option Expression)
  /-- Binds the value of an expression to a name. -/
  | define (name : String) (body : Expression)

/-- The definitions of a plan, in order. -/
abbrev Program := List Instruction

namespace Instruction

/-- The name that the instruction binds. -/
def name : Instruction → String
  | defTransport name _ _ _ => name
  | define name _ => name

/-- An argument that must be a string. -/
def stringArg (what : String) (value : Json.Value) : Except Error String :=
  match value with
  | .string text => .ok text
  | value => .error (.invalidProgram (what ++ " must be a string: " ++ value.text))

/-- An argument that must be a whole number of 64 signed bits. -/
def integerArg (what : String) (value : Json.Value) : Except Error Int64 :=
  match value.int64? with
  | some n => .ok n
  | none => .error (.invalidProgram (what ++ " must be an integer: " ++ value.text))

/-- The options of a transport definition; null stands for none. -/
def optionsArg : Json.Value → Option Expression
  | .null => none
  | value => some (.ofValue value)

def defTransportOfArgs : List Json.Value → Except Error Instruction
  | [name, type, priority] => transport name type priority none
  | [name, type, priority, options] => transport name type priority (optionsArg options)
  | args => .error (.invalidProgram
      (":def_transport expects 3 or 4 arguments, got " ++ toString args.length))
where
  transport (name type priority : Json.Value) (options : Option Expression) :
      Except Error Instruction := do
    let name ← stringArg "def_transport name" name
    let type ← stringArg "def_transport type" type
    let priority ← integerArg "def_transport priority" priority
    .ok (.defTransport name type priority options)

def defineOfArgs : List Json.Value → Except Error Instruction
  | [name, body] => do
    let name ← stringArg "def name" name
    .ok (.define name (.ofValue body))
  | args => .error (.invalidProgram
      (":def expects 2 arguments, got " ++ toString args.length))

/-- The instruction that a JSON value stands for. -/
def ofValue (value : Json.Value) : Except Error Instruction :=
  match value with
  | .array items =>
    match Expression.headName? items with
    | some tag =>
      if tag = "def_transport" then defTransportOfArgs (items.drop 1)
      else if tag = "def" then defineOfArgs (items.drop 1)
      else .error (.invalidProgram ("unknown instruction :" ++ tag))
    | none => .error (.invalidProgram ("instruction has no tag: " ++ value.text))
  | value => .error (.invalidProgram ("instruction is not a list: " ++ value.text))

/-- Equality of instructions. -/
def same : Instruction → Instruction → Bool
  | defTransport n t p none, defTransport n' t' p' none => n == n' && t == t' && p == p'
  | defTransport n t p (some o), defTransport n' t' p' (some o') =>
    n == n' && t == t' && p == p' && o.same o'
  | define n b, define n' b' => n == n' && b.same b'
  | _, _ => false

end Instruction

namespace Program

/-- The plan that a JSON value stands for. -/
def ofValue (value : Json.Value) : Except Error Program :=
  match value with
  | .array items => items.mapM Instruction.ofValue
  | _ => .error (.invalidProgram "program is not a list")

/-- Reads a plan from JSON text. -/
def parse (text : String) : Except Error Program :=
  match Json.parse text with
  | .ok value => ofValue value
  | .error fault => .error (.json fault)

/-- Equality of plans. -/
def same : Program → Program → Bool
  | [], [] => true
  | x :: xs, y :: ys => x.same y && same xs ys
  | _, _ => false

end Program

end Dialplan
