import Dialplan.Proofs.Strategy.Nodes

/-! Paths. A path leads from a node down to a leaf, from each node on it to one at which an
attempt goes on. Whatever lies on it is reached, and the leaf is reached from there. -/

namespace Dialplan.Strategy

def isCached : Strategy → Bool
  | cached _ _ _ => true
  | _ => false

theorem Reaches.delegates {root node child : Strategy} {context c c' : Context}
    {underCache : Bool} (h : Reaches root context underCache node c)
    (hd : Delegates node c child c') :
    Reaches root context (underCache || node.isCached) child c' := by
  cases hd with
  | cached => simpa [isCached] using h.cached
  | entry hm => simpa [isCached] using h.entry hm
  | delayed => simpa [isCached] using h.delayed
  | sequential hm => simpa [isCached] using h.sequential hm
  | firstConnected hm => simpa [isCached] using h.firstConnected hm
  | bestConnectedEver hm => simpa [isCached] using h.bestConnectedEver hm
  | onTrue => simpa [isCached] using h.onTrue
  | onFalse => simpa [isCached] using h.onFalse

/-- A path from a node, with some demands there, to a leaf and the demands that are made of it:
the nodes on it, the topmost first. From a cached node it may lead to an entry of its table. -/
inductive Path : Strategy → Context → List Strategy → Leaf → Context → Prop where
  | leaf {leaf c} : Path (.transport leaf) c [.transport leaf] leaf c
  | step {node c child c' path leaf demands} : Delegates node c child c' →
      Path child c' path leaf demands → Path node c (node :: path) leaf demands

namespace Path

variable {root node : Strategy} {context c demands : Context} {path : List Strategy}
  {leaf : Leaf} {underCache : Bool}

/-- The leaf at the end of a path is reached, below a cached node if one lies on the path. -/
theorem reaches (h : Path node c path leaf demands)
    (hr : Reaches root context underCache node c) :
    Reaches root context (underCache || path.any isCached) (.transport leaf) demands := by
  induction h generalizing underCache with
  | leaf => simpa [isCached] using hr
  | step hd _ ih =>
    rw [List.any_cons, ← Bool.or_assoc]
    exact ih (hr.delegates hd)

/-- Every node on a path is reached, and is the start of a path to the leaf. -/
theorem through (h : Path node c path leaf demands)
    (hr : Reaches root context underCache node c) {inner : Strategy} (hm : inner ∈ path) :
    ∃ below c', Reaches root context below inner c' ∧
      ∃ rest, Path inner c' (inner :: rest) leaf demands := by
  induction h generalizing underCache with
  | leaf =>
    obtain rfl := List.mem_singleton.mp hm
    exact ⟨_, _, hr, [], .leaf⟩
  | step hd hpath ih =>
    rcases List.mem_cons.mp hm with rfl | hm
    · exact ⟨_, _, hr, _, .step hd hpath⟩
    · exact ih (hr.delegates hd) hm

end Path

end Dialplan.Strategy
