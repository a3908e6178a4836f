import Dialplan.Build.Builder
import Dialplan.Proofs.Attempts.Lifecycle
import Dialplan.Proofs.Attempts.SideBySide
import Dialplan.Proofs.Opens.Ledger

/-! Attempts that share caches. Any number of attempts on strategies of any builds are started,
given turns, cancelled and dropped in any order, over caches that are empty at first. -/

namespace Dialplan

/-- A strategy with the build that it comes from. -/
structure Built where
  builder : Builder
  options : BuildOptions
  site : Site
  program : Program
  strategy : Strategy
  made : builder.build options site program = .ok strategy

/-- A turn of an attempt on a built strategy. -/
structure SharedTurn where
  built : Built
  context : Context
  visit : Visit

/-- Between two turns time passes, and anything may change but the caches and what happened to
opens; numbers of opens are not given again. -/
structure Elapses (w w' : World) : Prop where
  caches : w'.caches = w.caches
  log : w'.log = w.log
  opens : w.opens ≤ w'.opens

/-- Attempts on built strategies, the world they share, and their turns so far, the latest
first. At first every cache is empty, and nothing has been opened. -/
inductive Sharing : List SharedTurn → World → List (Built × Attempt) → Prop where
  | start (w : World) : (∀ number encrypted, (w.cache number).fetch encrypted = none) →
      w.log = [] → Sharing [] w []
  | spawn {turns w attempts} (built : Built) (context : Context) : Sharing turns w attempts →
      Sharing turns w (attempts ++ [(built, .start built.strategy context)])
  | turn {turns w attempts} {i : Nat} {built attempt} : Sharing turns w attempts →
      attempts[i]? = some (built, attempt) →
      Sharing (⟨built, attempt.context, w, (attempt.run w).2⟩ :: turns) (attempt.run w).2
        (attempts.set i (built, (attempt.run w).1))
  /-- Something else happens to an attempt: it publishes its result, or its handle is used. -/
  | handle {turns w attempts} {i : Nat} {built attempt} (step : Attempt.Step) :
      Sharing turns w attempts → attempts[i]? = some (built, attempt) →
      (∀ w, step ≠ .turn w) → Sharing turns w (attempts.set i (built, attempt.step step))
  /-- An attempt is dropped with all that it has in progress. -/
  | drop {turns w attempts} {i : Nat} {built attempt} : Sharing turns w attempts →
      attempts[i]? = some (built, attempt) →
      Sharing turns (attempt.progress.abandon w) (attempts.eraseIdx i)
  | elapse {turns w attempts w'} : Sharing turns w attempts → Elapses w w' →
      Sharing turns w' attempts

/-- Numbers of opens are given once. -/
structure Numbered (w : World) : Prop where
  nodup : (numbers .opened w.log).Nodup
  bounded : ∀ number ∈ numbers .opened w.log, number ≤ w.opens

theorem Numbered.of_eq {w w' : World} (h : Numbered w)
    (hlog : numbers .opened w'.log = numbers .opened w.log) (hopens : w.opens ≤ w'.opens) :
    Numbered w' :=
  ⟨hlog ▸ h.nodup, fun number hm => (h.bounded number (hlog ▸ hm)).trans hopens⟩

theorem numbered_frame (root : Strategy) (context : Context) :
    FrameAt root context fun w w' => Numbered w → Numbered w' where
  refl _ h := h
  trans hab hbc h := hbc (hab h)
  connected _ _ _ _ h := h.of_eq rfl le_rfl
  failed _ _ h := h.of_eq rfl le_rfl
  cancelled _ _ h := h.of_eq rfl le_rfl
  remembered _ _ _ h := h.of_eq rfl le_rfl
  stored _ _ _ _ h := h.of_eq rfl le_rfl
  flushed _ _ h := h.of_eq rfl le_rfl
  opened _ w _ _ h := by
    have hnew : w.opens + 1 ∉ numbers .opened w.log := fun hm =>
      absurd (h.bounded _ hm) (Nat.not_succ_le_self _)
    exact ⟨List.nodup_cons.mpr ⟨hnew, h.nodup⟩,
      List.forall_mem_cons.mpr ⟨le_rfl, fun number hm => (h.bounded number hm).trans
        (Nat.le_succ _)⟩⟩

/-- What shared attempts open is numbered. -/
theorem Sharing.numbered {turns : List SharedTurn} {w : World}
    {attempts : List (Built × Attempt)} (h : Sharing turns w attempts) : Numbered w := by
  induction h with
  | start w _ hlog =>
    have hnone : numbers .opened w.log = [] := by rw [hlog]; rfl
    exact ⟨hnone ▸ .nil, fun number hm => by rw [hnone] at hm; cases hm⟩
  | spawn _ _ _ ih => exact ih
  | turn _ _ ih => exact Attempt.run_keeps _ (numbered_frame _ _) _ ih
  | handle _ _ _ _ ih => exact ih
  | @drop _ _ _ _ _ attempt _ _ ih =>
    exact (numbered_frame attempt.strategy attempt.context).cancel _ _ ih
  | elapse _ he ih => exact ih.of_eq (congrArg _ he.log) he.opens

end Dialplan
