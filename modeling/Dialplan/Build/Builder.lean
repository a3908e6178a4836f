import Dialplan.Build.Evaluator
import Dialplan.Program.Instruction
import Dialplan.Registry

/-! Building the strategy of a plan. All transport types are resolved before anything is
evaluated; then the instructions run in order, and the strategy is what is bound to
`strategy` in the end. -/

namespace Dialplan

structure Builder where
  registry : Registry
  /-- The number of the cache that cached nodes use. -/
  cache : Nat

namespace Builder

/-- The name whose binding is the result. -/
def resultName : String := "strategy"

def resolve (builder : Builder) (type : String) : Except Error Nat :=
  match builder.registry.resolve type with
  | some mechanism => .ok mechanism
  | none => .error (.unsupportedTransport type)

/-- Resolves the types of all transport definitions, in order. -/
def checkTypes (builder : Builder) : Program → Except Error Unit
  | [] => .ok ()
  | .defTransport _ type _ _ :: rest => do
    let _ ← builder.resolve type
    builder.checkTypes rest
  | .define _ _ :: rest => builder.checkTypes rest

/-- The options of a transport definition; none and null are an empty map. -/
def transportOptions (evaluator : Evaluator) (site : Site) (body : Option Expression) :
    Except Error Json.Fields :=
  match body with
  | none => .ok []
  | some body => do
    match ← evaluator.evaluate site body with
    | .null => .ok []
    | value => value.toMap "def_transport options"

/-- The node of a transport definition; a stand-in when the definition is disabled. -/
def defineTransport (options : BuildOptions) (name type : String) (priority : Int64)
    (mechanism : Nat) (fields : Json.Fields) : Strategy :=
  if options.isEnabled name then
    .transport ⟨name, type, priority, mechanism, fields, options.key⟩
  else .unsupported name

/-- Runs one instruction. -/
def step (builder : Builder) (options : BuildOptions) (site : Site) (env : Environment)
    (instruction : Instruction) : Except Error Environment := do
  let evaluator : Evaluator := ⟨env, options, builder.cache⟩
  match instruction with
  | .defTransport name type priority body =>
    let mechanism ← builder.resolve type
    let fields ← transportOptions evaluator site body
    .ok (env.bindTransport name (defineTransport options name type priority mechanism fields))
  | .define name body =>
    let value ← evaluator.evaluate site body
    .ok (env.bind name value)

/-- Runs instructions in order, numbered from `index`. -/
def steps (builder : Builder) (options : BuildOptions) (site : Site) :
    Nat → Program → Environment → Except Error Environment
  | _, [], env => .ok env
  | index, instruction :: rest, env => do
    let env ← builder.step options (site ++ [index]) env instruction
    steps builder options site (index + 1) rest env

/-- Builds the strategy of a plan. Nodes with a memory are told apart by `site`, which must
differ from build to build. -/
def build (builder : Builder) (options : BuildOptions) (site : Site) (program : Program) :
    Except Error Strategy := do
  builder.checkTypes program
  let env ← builder.steps options site 0 program .empty
  match (env.take resultName).1 with
  | none => .error .missingStrategy
  | some value => value.toStrategy resultName

end Builder

end Dialplan
