import Dialplan.Connect.World

/-! The memory of a race: for each child what its last win took. The child with the
best entry is preferred. -/

namespace Dialplan

/-- Entries for the children of one node, in order. -/
abbrev History := List (Option Win)

namespace History

/-- No child has won. -/
def blank (children : Nat) : History := List.replicate children none

/-- A win is better when it took less, or the same at a higher priority. -/
def better (a b : Win) : Bool :=
  a.latency < b.latency || (a.latency = b.latency && b.priority < a.priority)

/-- The best entry from a place on, with its place; of equal ones the first. -/
def bestFrom : Nat → History → Option (Nat × Win)
  | _, [] => none
  | i, none :: rest => bestFrom (i + 1) rest
  | i, some win :: rest =>
    match bestFrom (i + 1) rest with
    | some (j, other) => if better other win then some (j, other) else some (i, win)
    | none => some (i, win)

/-- The child that gets the head start. -/
def preferred (history : History) : Option Nat := (bestFrom 0 history).map Prod.fst

/-- The memory after a race: a preferred child that lost is forgotten. -/
def afterWin (history : History) (lead : Option Nat) (winner : Nat) (win : Win) : History :=
  let history :=
    match lead with
    | some lead => if lead = winner then history else history.set lead none
    | none => history
  history.set winner (some win)

/-- The memory without any win. -/
def forget (history : History) : History := history.map fun _ => none

theorem length_afterWin (history : History) (lead : Option Nat) (winner : Nat) (win : Win) :
    (history.afterWin lead winner win).length = history.length := by
  unfold afterWin
  cases lead with
  | none => simp
  | some lead => by_cases h : lead = winner <;> simp [h]

end History

namespace World

/-- The memory of the node made at `site`. -/
def history (w : World) (site : Site) (children : Nat) : History :=
  (w.histories.lookup site).getD (History.blank children)

def setHistory (w : World) (site : Site) (history : History) : World :=
  { w with histories := (site, history) :: w.histories.filter (·.1 ≠ site) }

/-- Forgets what the node made at `site` remembers. -/
def resetHistory (w : World) (site : Site) (children : Nat) : World :=
  w.setHistory site (w.history site children).forget

end World

end Dialplan
