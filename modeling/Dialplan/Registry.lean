import Dialplan.Connect.World
import Dialplan.Text.Quoted

/-! Registries: which mechanism opens the transports of each type. -/

namespace Dialplan

/-- The numbers of mechanisms, by transport type. -/
abbrev Registry := Table Nat

namespace Registry

/-- Adds a mechanism under a type; the latest one of a type counts. -/
def register (registry : Registry) (type : String) (mechanism : Nat) : Registry :=
  Table.put registry type mechanism

/-- The mechanism of a type. -/
def resolve (registry : Registry) (type : String) : Option Nat := Table.find registry type

/-- The registered types, sorted. -/
def types (registry : Registry) : List String :=
  (Table.names registry).mergeSort fun a b => !(b < a)

/-- The registry as it is shown. -/
def describe (registry : Registry) : String :=
  "TransportRegistry \x7b kinds: [" ++
    ", ".intercalate (registry.types.map Text.quoted) ++ "] \x7d"

/-- The built-in transports. -/
def builtin : List (String × Mechanism) := [("ws", .webSocket), ("sockjs", .session)]

/-- A registry of mechanisms numbered in order. -/
def ofList (mechanisms : List (String × Mechanism)) : Registry × List Mechanism :=
  (mechanisms.zipIdx.foldl (fun registry entry => registry.register entry.1.1 entry.2) [],
    mechanisms.map Prod.snd)

end Registry

end Dialplan
