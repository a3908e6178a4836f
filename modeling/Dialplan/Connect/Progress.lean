import Dialplan.Connect.Race
import Dialplan.Connect.Sequence

/-! What is in progress: the state of a strategy between polls. -/

namespace Dialplan

inductive Progress where
  | unstarted
  /-- An open is in flight: its number, when it started, and how it will be answered. -/
  | opening (number : Nat) (started : Instant) (answer : Option (Timer × Option Error))
  /-- A delay is waited out. -/
  | waiting (timer : Timer)
  /-- A delay is over. -/
  | delegated (child : Progress)
  | sequencing (index : Nat) (bound : Option Duration) (failures : List Error)
      (phase : Sequence.Phase Progress)
  /-- The transport that a cache record names is tried again. -/
  | retrying (timer : Timer) (started : Instant) (name : String) (child : Progress)
  /-- The strategy below a cached node is run. -/
  | uncached (started : Instant) (child : Progress)
  | racing (lead : Option (Nat × Timer)) (holding : Bool) (order : List Nat)
      (slots : List (Race.Slot Progress)) (failures : List Error)
  /-- A branch has been taken. -/
  | branched (outcome : Bool) (child : Progress)

namespace Progress

mutual

/-- The opens in flight. -/
def inFlight : Progress → List Nat
  | unstarted => []
  | opening number _ _ => [number]
  | waiting _ => []
  | delegated child => inFlight child
  | sequencing _ _ _ phase => inFlightPhase phase
  | retrying _ _ _ child => inFlight child
  | uncached _ child => inFlight child
  | racing _ _ _ slots _ => inFlightSlots slots
  | branched _ child => inFlight child

def inFlightPhase : Sequence.Phase Progress → List Nat
  | .trying _ child => inFlight child
  | .waitingOut _ => []
  | .rewound => []

def inFlightSlots : List (Race.Slot Progress) → List Nat
  | [] => []
  | slot :: rest => inFlightSlot slot ++ inFlightSlots rest

def inFlightSlot : Race.Slot Progress → List Nat
  | .held => []
  | .running child => inFlight child
  | .failed => []

end

mutual

/-- The moments waited for. -/
def timers : Progress → List Timer
  | unstarted => []
  | opening _ _ answer => (answer.map Prod.fst).toList
  | waiting timer => [timer]
  | delegated child => timers child
  | sequencing _ _ _ phase => timersPhase phase
  | retrying timer _ _ child => timer :: timers child
  | uncached _ child => timers child
  | racing lead holding _ slots _ =>
    (if holding then (lead.map Prod.snd).toList else []) ++ timersSlots slots
  | branched _ child => timers child

def timersPhase : Sequence.Phase Progress → List Timer
  | .trying deadline child => deadline.toList ++ timers child
  | .waitingOut timer => [timer]
  | .rewound => []

def timersSlots : List (Race.Slot Progress) → List Timer
  | [] => []
  | slot :: rest => timersSlot slot ++ timersSlots rest

def timersSlot : Race.Slot Progress → List Timer
  | .held => []
  | .running child => timers child
  | .failed => []

end

mutual

/-- Has it stopped only to let others run? -/
def isYielding : Progress → Bool
  | unstarted => false
  | opening _ _ _ => false
  | waiting _ => false
  | delegated child => isYielding child
  | sequencing _ _ _ phase => isYieldingPhase phase
  | retrying _ _ _ child => isYielding child
  | uncached _ child => isYielding child
  | racing _ _ _ slots _ => isYieldingSlots slots
  | branched _ child => isYielding child

def isYieldingPhase : Sequence.Phase Progress → Bool
  | .trying _ child => isYielding child
  | .waitingOut _ => false
  | .rewound => true

def isYieldingSlots : List (Race.Slot Progress) → Bool
  | [] => false
  | slot :: rest => isYieldingSlot slot || isYieldingSlots rest

def isYieldingSlot : Race.Slot Progress → Bool
  | .held => false
  | .running child => isYielding child
  | .failed => false

end

/-- Gives up what is in progress: its opens in flight are cancelled. -/
def abandon (progress : Progress) (w : World) : World := w.cancel progress.inFlight

end Progress

end Dialplan
