/-! Identities of attempts and connections: numbers handed out in order, shown with the
kind of thing they name. -/

namespace Dialplan

inductive Identity.Kind where
  | attempt
  | connection
deriving DecidableEq

structure Identity where
  kind : Identity.Kind
  number : Nat
deriving DecidableEq

namespace Identity

def Kind.noun : Kind → String
  | .attempt => "attempt"
  | .connection => "connection"

def display (identity : Identity) : String :=
  identity.kind.noun ++ "-" ++ toString identity.number

/-- The next identities of a kind, after `last` of them have been handed out. -/
def next (kind : Kind) (last count : Nat) : List Identity :=
  (List.range count).map fun i => ⟨kind, last + i + 1⟩

end Identity

end Dialplan
