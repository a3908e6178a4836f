import Dialplan.Connect.Attempt
import Dialplan.Proofs.Polling.Frame
import Dialplan.Proofs.Polling.Run

/-! Attempts side by side. Any number of attempts on one strategy are started, run and cancelled
in any order, in a world that may change in any way between their turns. What one turn keeps
for its demands, all turns keep (`SideBySide.keeps`). -/

namespace Dialplan

/-- A turn of an attempt: its demands, and the world before and after. -/
structure Turn where
  context : Context
  visit : Visit

/-- Attempts on a strategy, the world they share, and their turns so far, the latest first. -/
inductive SideBySide (strategy : Strategy) : List Turn → World → List Attempt → Prop where
  | start (w) : SideBySide strategy [] w []
  | spawn {turns w attempts} (context) : SideBySide strategy turns w attempts →
      SideBySide strategy turns w (attempts ++ [.start strategy context])
  | cancel {turns w attempts} {i : Nat} {attempt} : SideBySide strategy turns w attempts →
      attempts[i]? = some attempt →
      SideBySide strategy turns w (attempts.set i attempt.cancel)
  | run {turns w attempts} {i : Nat} {attempt} : SideBySide strategy turns w attempts →
      attempts[i]? = some attempt →
      SideBySide strategy (⟨attempt.context, w, (attempt.run w).2⟩ :: turns) (attempt.run w).2
        (attempts.set i (attempt.run w).1.publish)
  | elapse {turns w attempts} (w') : SideBySide strategy turns w attempts →
      SideBySide strategy turns w' attempts

namespace Attempt

@[simp] theorem cancel_strategy (attempt : Attempt) :
    attempt.cancel.strategy = attempt.strategy := by
  unfold cancel
  split <;> rfl

@[simp] theorem publish_strategy (attempt : Attempt) :
    attempt.publish.strategy = attempt.strategy := by
  unfold publish
  split
  · split <;> rfl
  · rfl

@[simp] theorem run_strategy (attempt : Attempt) (w : World) :
    (attempt.run w).1.strategy = attempt.strategy := by
  unfold run
  split
  · split
    · rfl
    · split <;> rfl
  · rfl

/-- A turn keeps what every poll of the strategy keeps. -/
theorem run_keeps {R : World → World → Prop} (attempt : Attempt)
    (frame : FrameAt attempt.strategy attempt.context R) (w : World) :
    R w (attempt.run w).2 := by
  unfold run
  split
  · rename_i progress _
    split
    · exact frame.cancel w _
    · have hw := frame.poll attempt.strategy .root progress w
      split
      · rename_i hpoll
        rwa [hpoll] at hw
      · rename_i hpoll
        rwa [hpoll] at hw
  · exact frame.refl w

end Attempt

namespace SideBySide

variable {strategy : Strategy} {turns : List Turn} {w : World} {attempts : List Attempt}

theorem strategy_eq (h : SideBySide strategy turns w attempts) :
    ∀ attempt ∈ attempts, attempt.strategy = strategy := by
  induction h with
  | start => exact nofun
  | spawn context _ ih =>
    intro attempt hm
    rcases List.mem_append.mp hm with hm | hm
    · exact ih attempt hm
    · rw [List.mem_singleton.mp hm]
      rfl
  | cancel _ hi ih =>
    intro attempt hm
    rcases List.mem_or_eq_of_mem_set hm with hm | rfl
    · exact ih attempt hm
    · rw [Attempt.cancel_strategy]
      exact ih _ (List.mem_of_getElem? hi)
  | run _ hi ih =>
    intro attempt hm
    rcases List.mem_or_eq_of_mem_set hm with hm | rfl
    · exact ih attempt hm
    · rw [Attempt.publish_strategy, Attempt.run_strategy]
      exact ih _ (List.mem_of_getElem? hi)
  | elapse _ _ ih => exact ih

/-- Every turn keeps what the polls of the strategy keep under its demands. -/
theorem keeps {R : Context → World → World → Prop}
    (frame : ∀ context, FrameAt strategy context (R context))
    (h : SideBySide strategy turns w attempts) :
    ∀ turn ∈ turns, R turn.context turn.visit.before turn.visit.after := by
  induction h with
  | start => exact nofun
  | spawn _ _ ih => exact ih
  | cancel _ _ ih => exact ih
  | run h hi ih =>
    refine List.forall_mem_cons.mpr ⟨?_, ih⟩
    have hs := h.strategy_eq _ (List.mem_of_getElem? hi)
    exact Attempt.run_keeps _ (hs ▸ frame _) _
  | elapse _ _ ih => exact ih

end SideBySide

end Dialplan
