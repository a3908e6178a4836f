import Dialplan.Connect.Poll

/-! Races. All running children are polled in one order, again and again while one of
them fails, and the first success wins. Children may be held back behind a lead; they
are released when the head start is over or when no child is running.

The race is independent of what its children are: a child is a function that polls its
state in some world. -/

namespace Dialplan.Race

inductive Slot (σ : Type) where
  /-- Not started yet. -/
  | held
  | running (state : σ)
  | failed

def Slot.isRunning {σ : Type} : Slot σ → Bool
  | .running _ => true
  | _ => false

def Slot.isFailed {σ : Type} : Slot σ → Bool
  | .failed => true
  | _ => false

/-- Starts a child that was held back. -/
def Slot.release {σ : Type} (start : σ) : Slot σ → Slot σ
  | .held => .running start
  | slot => slot

structure State (σ : Type) where
  /-- Are children held back? -/
  holding : Bool
  /-- The numbers of the children, in the order they are polled. -/
  order : List Nat
  slots : List (Slot σ)
  /-- What the failed children failed with, in the order they failed. -/
  failures : List Error

variable {σ ω : Type}

/-- All children start together. -/
def State.together (count : Nat) (start : σ) : State σ :=
  ⟨false, List.range count, List.replicate count (.running start), []⟩

/-- One child starts, and is polled first; the others are held back. -/
def State.behind (count lead : Nat) (start : σ) : State σ :=
  ⟨true, lead :: (List.range count).filter (· ≠ lead),
    (List.replicate count .held).set lead (.running start), []⟩

theorem State.eq_of_mem_together {count : Nat} {start : σ} {slot : Slot σ}
    (h : slot ∈ (together count start).slots) : slot = .running start :=
  List.eq_of_mem_replicate h

theorem State.eq_or_eq_of_mem_behind {count lead : Nat} {start : σ} {slot : Slot σ}
    (h : slot ∈ (behind count lead start).slots) : slot = .held ∨ slot = .running start := by
  rcases List.mem_or_eq_of_mem_set h with h | h
  · exact .inl (List.eq_of_mem_replicate h)
  · exact .inr h

/-- Releases the children that are held back. -/
def State.release (start : σ) (state : State σ) : State σ :=
  { state with holding := false, slots := state.slots.map (Slot.release start) }

/-- The states of the children that are running. -/
def State.running (state : State σ) : List σ :=
  state.slots.filterMap fun
    | .running s => some s
    | _ => none

/-- Does the race go on to release its children? -/
def State.releases (elapsed : Bool) (state : State σ) : Bool :=
  state.holding && (elapsed || !state.slots.any Slot.isRunning)

/-- What one pass over the children comes to. -/
inductive Pass (σ : Type) where
  | won (index : Nat) (connection : Connection) (state : State σ)
  | finished (state : State σ) (progressed : Bool)

/-- Polls the running children of a list, up to the first success. -/
def pass (child : Nat → σ → ω → Poll σ × ω) :
    List Nat → State σ → Bool → ω → Pass σ × ω
  | [], state, progressed, w => (.finished state progressed, w)
  | i :: rest, state, progressed, w =>
    match state.slots[i]? with
    | some (.running s) =>
      match child i s w with
      | (.pending s, w) =>
        pass child rest { state with slots := state.slots.set i (.running s) } progressed w
      | (.ready (.ok connection), w) =>
        (.won i connection { state with slots := state.slots.set i .failed }, w)
      | (.ready (.error e), w) =>
        pass child rest
          { state with slots := state.slots.set i .failed, failures := state.failures ++ [e] }
          true w
    | _ => pass child rest state progressed w

inductive Outcome (σ : Type) where
  | pending (state : State σ)
  /-- A child won; `state` holds those that are still running. -/
  | won (index : Nat) (connection : Connection) (state : State σ)
  | lost (failures : List Error)

/-- Passes over the children until one wins, all have failed, or none made progress. -/
def passes (child : Nat → σ → ω → Poll σ × ω) (start : σ) (elapsed : Bool) :
    Nat → State σ → ω → Outcome σ × ω
  | 0, state, w => (.pending state, w)
  | fuel + 1, state, w =>
    let state := if state.releases elapsed then state.release start else state
    match pass child state.order state false w with
    | (.won i connection state, w) => (.won i connection state, w)
    | (.finished state progressed, w) =>
      if !state.holding && state.slots.all Slot.isFailed then (.lost state.failures, w)
      else if progressed then passes child start elapsed fuel state w
      else (.pending state, w)

/-- Polls a race. `start` is the state of a child that starts, and `elapsed` tells whether
the head start is over. Every pass but the last sees a child fail, so one more pass
than there are children is enough. -/
def poll (child : Nat → σ → ω → Poll σ × ω) (start : σ) (elapsed : Bool) (state : State σ)
    (w : ω) : Outcome σ × ω :=
  passes child start elapsed (state.slots.length + 1) state w

end Dialplan.Race
