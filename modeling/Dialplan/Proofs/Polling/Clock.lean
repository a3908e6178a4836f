import Dialplan.Proofs.Polling.Frame

/-! The clock. A poll takes no time: the world after it is at the same moment
(`Strategy.poll_clock`). -/

namespace Dialplan

theorem Timer.not_isDue_iff {timer : Timer} {now : Instant} :
    ¬ timer.isDue now = true ↔ now < timer.deadline := by
  rw [isDue, decide_eq_true_iff, Nat.not_le]

/-- Two worlds at the same moment. -/
structure SameMoment (w w' : World) : Prop where
  now : w'.now = w.now
  epoch : w'.epoch = w.epoch
  turn : w'.turn = w.turn

namespace SameMoment

theorem refl (w : World) : SameMoment w w := ⟨rfl, rfl, rfl⟩

theorem trans {a b c : World} (hab : SameMoment a b) (hbc : SameMoment b c) : SameMoment a c :=
  ⟨hbc.now.trans hab.now, hbc.epoch.trans hab.epoch, hbc.turn.trans hab.turn⟩

theorem wallClock {w w' : World} (h : SameMoment w w') : w'.wallClock = w.wallClock := by
  unfold World.wallClock
  rw [h.now, h.epoch]

end SameMoment

theorem sameMoment : Frame SameMoment where
  refl := SameMoment.refl
  trans := SameMoment.trans
  connected _ _ _ _ := ⟨rfl, rfl, rfl⟩
  failed _ _ := ⟨rfl, rfl, rfl⟩
  cancelled _ _ := ⟨rfl, rfl, rfl⟩

theorem Progress.now_abandon (p : Progress) (w : World) : (p.abandon w).now = w.now :=
  (sameMoment.cancel w p.inFlight).now

theorem clock_frame (root : Strategy) (context : Context) : FrameAt root context SameMoment where
  toFrame := sameMoment
  remembered _ _ _ := ⟨rfl, rfl, rfl⟩
  opened _ _ _ _ := ⟨rfl, rfl, rfl⟩
  stored _ _ _ _ := ⟨rfl, rfl, rfl⟩
  flushed _ _ := ⟨rfl, rfl, rfl⟩

theorem Strategy.poll_clock (node : Strategy) (context : Context) :
    Keeps SameMoment (node.poll context) :=
  (clock_frame node context).poll node .root

theorem Strategy.pollFound_clock (found : Option Strategy) (context : Context) :
    Keeps SameMoment (pollFound context found) :=
  sameMoment.pollFound fun child _ => child.poll_clock context

end Dialplan
