import Dialplan.Build.Value

/-! The environment of a build: the values bound to names, and apart from them the
transport definitions seen so far. -/

namespace Dialplan

structure Environment where
  bindings : Table Build.Value
  transports : TransportTable

namespace Environment

def empty : Environment := ⟨[], []⟩

/-- Binds a value to a name; the latest binding counts. -/
def bind (env : Environment) (name : String) (value : Build.Value) : Environment :=
  { env with bindings := Table.put env.bindings name value }

/-- Binds a transport definition, and enters it among the transports. -/
def bindTransport (env : Environment) (name : String) (strategy : Strategy) : Environment :=
  { env with transports := Table.put env.transports name strategy }.bind name
    (.strategy strategy)

def lookup (env : Environment) (name : String) : Except Error Build.Value :=
  match Table.find env.bindings name with
  | some value => .ok value
  | none => .error (.unresolvedSymbol name)

def contains (env : Environment) (name : String) : Bool :=
  (Table.find env.bindings name).isSome

/-- Takes a binding out; its transport definition stays. -/
def take (env : Environment) (name : String) : Option Build.Value × Environment :=
  (Table.find env.bindings name, { env with bindings := Table.remove env.bindings name })

end Environment

end Dialplan
