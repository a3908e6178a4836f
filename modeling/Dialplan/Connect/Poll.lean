import Dialplan.Connect.World

/-! Polling. What is in progress is a value; polling it once gives either its new value,
when it must wait, or its result. Nothing happens between polls. -/

namespace Dialplan

inductive Poll (σ : Type) where
  | pending (state : σ)
  | ready (result : Except Error Connection)

namespace Poll

/-- Replaces the state of what still waits. -/
def map {σ τ : Type} (f : σ → τ) : Poll σ → Poll τ
  | pending state => pending (f state)
  | ready result => ready result

end Poll

/-- A moment to wait for. -/
structure Timer where
  deadline : Instant
  /-- The turn in which the wait began. -/
  turn : Nat
deriving DecidableEq

namespace Timer

/-- A wait of a length of time that begins now. -/
def start (w : World) (length : Duration) : Timer := ⟨w.now + length, w.turn⟩

/-- Is the wait over? -/
def isDue (timer : Timer) (now : Instant) : Bool := timer.deadline ≤ now

end Timer

end Dialplan
