import Dialplan.Proofs.Polling.Rules
import Dialplan.Connect.Node

/-! Rules of leaves. An open in flight connects or fails when its answer is due; a leaf without one
opens its transport, unless its priority or its mechanism forbid that. -/

namespace Dialplan.Leaf

variable {pending : Progress → World → Prop} {won : Connection → World → Prop}
  {lost : Error → World → Prop}

theorem pollOpening_rule (leaf : Leaf) (number : Nat) (started : Instant)
    (answer : Option (Timer × Option Error)) (w : World)
    (waits : (∀ timer failure, answer = some (timer, failure) → timer.isDue w.now = false) →
      pending (.opening number started answer) w)
    (connects : won (w.connect leaf number started).1 (w.connect leaf number started).2)
    (fails : ∀ e, lost e (w.fail number)) :
    Poll.Yields pending won lost (leaf.pollOpening number started answer w) := by
  unfold pollOpening
  cases answer with
  | none => exact waits nofun
  | some answer =>
    obtain ⟨timer, failure⟩ := answer
    dsimp only
    split
    · cases failure with
      | none => exact connects
      | some e => exact fails e
    · rename_i hdue
      refine waits fun timer' failure' h => ?_
      obtain ⟨rfl, rfl⟩ := Prod.mk.inj (Option.some.inj h)
      exact Bool.eq_false_iff.mpr hdue

/-- The rule of a leaf. It opens only what the demands of the attempt allow. -/
theorem poll_rule (leaf : Leaf) (context : Context) (p : Progress) (w : World)
    (resumed : ∀ number started answer, p = .opening number started answer →
      Poll.Yields pending won lost (leaf.pollOpening number started answer w))
    (refused : (∀ number started answer, p ≠ .opening number started answer) →
      ∀ e, lost e w)
    (opened : (∀ number started answer, p ≠ .opening number started answer) →
      ∀ answer, context.minPriority ≤ leaf.priority →
      w.supports leaf.mechanism context.encrypted = true →
      Poll.Yields pending won lost (leaf.pollOpening (w.opens + 1) w.now answer
        (w.openTransport leaf context.encrypted).2)) :
    Poll.Yields pending won lost (leaf.poll context p w) := by
  unfold poll
  split
  · exact resumed _ _ _ rfl
  · rename_i hp
    split
    · exact refused hp _
    · rename_i hpriority
      split
      · exact refused hp _
      · rename_i hsupports
        refine opened hp _ (Int64.not_lt.mp hpriority) ?_
        simpa using hsupports

/-- A leaf only waits for an answer that is not yet due. -/
theorem poll_pending {leaf : Leaf} {context : Context} {p q : Progress} {w w' : World}
    (h : leaf.poll context p w = (.pending q, w')) :
    ∃ number started answer, q = .opening number started answer ∧
      ∀ timer failure, answer = some (timer, failure) → w.now < timer.deadline := by
  have hwaits : ∀ number started answer w', w'.now = w.now →
      Poll.Yields
        (fun q _ => ∃ number started answer, q = .opening number started answer ∧
          ∀ timer failure, answer = some (timer, failure) → w.now < timer.deadline)
        (fun _ _ => True) (fun _ _ => True) (leaf.pollOpening number started answer w') := by
    intro number started answer w' hnow
    refine leaf.pollOpening_rule number started answer w' (fun hdue => ?_) trivial
      fun _ => trivial
    refine ⟨number, started, answer, rfl, fun timer failure ha => Nat.lt_of_not_le ?_⟩
    exact hnow ▸ of_decide_eq_false (hdue timer failure ha)
  have hyields := leaf.poll_rule context p w
    (fun number started answer _ => hwaits number started answer w rfl) (fun _ _ => trivial)
    fun _ answer _ _ => hwaits _ _ answer _ rfl
  rw [h] at hyields
  exact hyields

end Dialplan.Leaf
