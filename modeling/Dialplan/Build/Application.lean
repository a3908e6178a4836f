import Dialplan.Build.Options
import Dialplan.Build.Value

/-! Applying combinators to evaluated arguments. -/

namespace Dialplan

/-- What a combinator may use besides its arguments. -/
structure Build.Setting where
  options : BuildOptions
  /-- The transport definitions so far. -/
  transports : TransportTable
  /-- The number of the cache that cached nodes use. -/
  cache : Nat

namespace Combinator

/-- The complaint about a wrong number of arguments. -/
def wrongCount (tag : String) (expected got : Nat) : Error :=
  .invalidArgument
    (tag ++ " expects " ++ toString expected ++ " arguments, got " ++ toString got)

/-- Strategies given one by one or in a list. -/
def ofArg (tag : String) : Build.Value → Except Error (List Strategy)
  | .list items => items.mapM (·.toStrategy tag)
  | value => do
    let node ← value.toStrategy tag
    .ok [node]

/-- The strategies among the arguments, at least one. -/
def strategies (tag : String) (args : List Build.Value) : Except Error (List Strategy) := do
  let groups ← args.mapM (ofArg tag)
  match groups.flatten with
  | [] => .error (.invalidArgument (tag ++ " expects at least one strategy"))
  | nodes => .ok nodes

/-- The options of a sequence, from the map given before its strategies. -/
def sequentialOptions (fields : Json.Fields) : Except Error SequentialOptions :=
  match SequentialOptions.codec.decode (.object fields) with
  | .ok options => .ok options
  | .error fault => .error (.invalidArgument ("sequential options: " ++ fault.message))

/-- The value of a combinator applied at a site of the plan. -/
def apply (combinator : Combinator) (setting : Build.Setting) (site : Site)
    (args : List Build.Value) : Except Error Build.Value :=
  let tag := combinator.tag
  match combinator with
  | delayed =>
    match args with
    | [delay, child] => do
      let delay ← delay.toDuration tag
      let child ← child.toStrategy tag
      .ok (.strategy (.delayed delay child))
    | args => .error (wrongCount tag 2 args.length)
  | sequential =>
    match args with
    | .map fields :: args => do
      let options ← sequentialOptions fields
      let children ← strategies tag args
      .ok (.strategy (.sequential options children))
    | args => do
      let children ← strategies tag args
      .ok (.strategy (.sequential .default children))
  | cached =>
    match args with
    | [ttl, child] => do
      let ttl ← ttl.toDuration tag
      let child ← child.toStrategy tag
      .ok (.strategy
        (.cached ⟨ttl, setting.options.encrypted, setting.cache⟩ setting.transports child))
    | args => .error (wrongCount tag 2 args.length)
  | firstConnected => do
    let children ← strategies tag args
    .ok (.strategy (.firstConnected children))
  | bestConnectedEver => do
    let children ← strategies tag args
    .ok (.strategy (.bestConnectedEver site children))
  | branch =>
    match args with
    | [test, onTrue, onFalse] => do
      let test ← test.toCondition tag
      let onTrue ← onTrue.toStrategy tag
      let onFalse ← onFalse.toStrategy tag
      .ok (.strategy (.branch test onTrue onFalse))
    | args => .error (wrongCount tag 3 args.length)
  | isSupported =>
    match args with
    | [node] => do
      let node ← node.toStrategy tag
      .ok (.condition (.isSupported node))
    | args => .error (wrongCount tag 1 args.length)

end Combinator

end Dialplan
