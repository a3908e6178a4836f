import Dialplan.Build.Application
import Dialplan.Build.Environment

/-! Evaluating expressions. The tag of an invocation is resolved before its arguments
are evaluated, and arguments and items are evaluated from left to right. -/

namespace Dialplan

/-- Where an expression is evaluated. -/
structure Evaluator where
  env : Environment
  options : BuildOptions
  /-- The number of the cache that cached nodes use. -/
  cache : Nat

namespace Evaluator

def setting (evaluator : Evaluator) : Build.Setting :=
  ⟨evaluator.options, evaluator.env.transports, evaluator.cache⟩

mutual

/-- The value of the expression at a site. -/
def evaluate (evaluator : Evaluator) (site : Site) : Expression → Except Error Build.Value
  | .literal literal => .ok (.ofLiteral literal)
  | .symbol name => evaluator.env.lookup name
  | .list items => do
    let values ← evaluator.evaluateAll site 0 items
    .ok (.list values)
  | .invocation tag args => do
    let combinator ← Combinator.resolve tag
    let values ← evaluator.evaluateAll site 0 args
    combinator.apply evaluator.setting site values

/-- The values of the expressions below a site, numbered from `index`. -/
def evaluateAll (evaluator : Evaluator) (site : Site) (index : Nat) :
    List Expression → Except Error (List Build.Value)
  | [] => .ok []
  | expression :: rest => do
    let value ← evaluator.evaluate (site ++ [index]) expression
    let values ← evaluator.evaluateAll site (index + 1) rest
    .ok (value :: values)

end

end Evaluator

end Dialplan
