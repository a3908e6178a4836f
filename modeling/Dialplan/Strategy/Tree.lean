import Dialplan.Json.Value
import Dialplan.Strategy.SequentialOptions

/-! Strategy trees. Leaves open transports; inner nodes say in what order and under
which bounds their children are tried. -/

namespace Dialplan

/-- A transport definition: what to open and how. -/
structure Leaf where
  name : String
  /-- The registered type it was defined with. -/
  type : String
  priority : Int64
  /-- The number of the mechanism that opens it. -/
  mechanism : Nat
  options : Json.Fields
  key : Option String

/-- Where in a plan a node was made; nodes made at different sites are different. -/
abbrev Site := List Nat

/-- The test of a branch. -/
inductive Condition (σ : Type) where
  /-- Can the strategy run under the demands of the attempt? -/
  | isSupported (strategy : σ)
  | constant (outcome : Bool)

/-- What a cached node is told when it is made. -/
structure CacheSettings where
  /-- How long a record may be used. -/
  ttl : Duration
  /-- The partition, which also overrides the demand for encryption below the node. -/
  encrypted : Bool
  /-- The number of the cache. -/
  cache : Nat
deriving DecidableEq

inductive Strategy where
  | transport (leaf : Leaf)
  /-- Stands in for a transport definition that is disabled. -/
  | unsupported (name : String)
  | delayed (delay : Duration) (child : Strategy)
  | sequential (options : SequentialOptions) (children : List Strategy)
  | cached (settings : CacheSettings) (transports : List (String × Strategy)) (child : Strategy)
  | firstConnected (children : List Strategy)
  | bestConnectedEver (site : Site) (children : List Strategy)
  | branch (test : Condition Strategy) (onTrue onFalse : Strategy)

/-- The transport definitions that a cache record may name. -/
abbrev TransportTable := Table Strategy

namespace Strategy

/-- The name of the node's type. -/
def kindName : Strategy → String
  | transport _ => "transport"
  | unsupported _ => "unsupported"
  | delayed _ _ => "delayed"
  | sequential _ _ => "sequential"
  | cached _ _ _ => "cached"
  | firstConnected _ => "first_connected"
  | bestConnectedEver _ _ => "best_connected_ever"
  | branch _ _ _ => "if"

/-- The children in order; a branch has the one taken on true first. -/
def children : Strategy → List Strategy
  | transport _ => []
  | unsupported _ => []
  | delayed _ child => [child]
  | sequential _ children => children
  | cached _ _ child => [child]
  | firstConnected children => children
  | bestConnectedEver _ children => children
  | branch _ onTrue onFalse => [onTrue, onFalse]

/-- The node at the end of a path of child numbers. -/
def descendant? : Strategy → List Nat → Option Strategy
  | node, [] => some node
  | node, i :: path =>
    match node.children[i]? with
    | some child => descendant? child path
    | none => none

end Strategy

end Dialplan
