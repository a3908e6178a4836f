import Dialplan.Proofs.Opens.Ledger
import Dialplan.Proofs.Polling.Clock
import Dialplan.Proofs.Polling.Run

/-! When opens are made and answered. What happens to opens in a run happens after it began
(`Run.since`); a lone transport opens once, waits until its answer is due, and then connects
(`Run.answered`). -/

namespace Dialplan

/-- When it happened. -/
def Event.time : Event → Instant
  | opened _ _ _ time => time
  | connected _ time => time
  | failed _ time => time
  | cancelled _ time => time

/-- Between two worlds no time passes, and what happens to opens happens at the moment. -/
structure Stamped (w w' : World) : Prop where
  now : w'.now = w.now
  log : ∃ added, w'.log = added ++ w.log ∧ ∀ event ∈ added, event.time = w.now

namespace Stamped

theorem refl (w : World) : Stamped w w := ⟨rfl, [], rfl, nofun⟩

theorem trans {a b c : World} (hab : Stamped a b) (hbc : Stamped b c) : Stamped a c := by
  obtain ⟨hb, added, hlog, htimes⟩ := hab
  obtain ⟨hc, more, hmore, hlater⟩ := hbc
  refine ⟨hc.trans hb, more ++ added, by rw [hmore, hlog, List.append_assoc], fun event hm => ?_⟩
  rcases List.mem_append.mp hm with hm | hm
  · exact (hlater event hm).trans hb
  · exact htimes event hm

theorem logged {w w' : World} {event : Event} (hnow : w'.now = w.now)
    (hlog : w'.log = event :: w.log) (htime : event.time = w.now) : Stamped w w' :=
  ⟨hnow, [event], hlog, List.forall_mem_singleton.mpr htime⟩

end Stamped

theorem stamped_frame (root : Strategy) (context : Context) : FrameAt root context Stamped where
  refl := Stamped.refl
  trans := Stamped.trans
  connected _ _ _ _ := .logged rfl rfl rfl
  failed _ _ := .logged rfl rfl rfl
  cancelled _ _ := .logged rfl rfl rfl
  remembered _ _ _ := ⟨rfl, [], rfl, nofun⟩
  opened _ _ _ _ := .logged rfl rfl rfl
  stored _ _ _ _ := ⟨rfl, [], rfl, nofun⟩
  flushed _ _ := ⟨rfl, [], rfl, nofun⟩

section

variable {between : World → World → Prop} {w₀ : World}

/-- Everything in a run happens after it began. -/
theorem Run.since {node : Strategy} {context : Context} {visits : List Visit}
    {outcome : Poll Progress} (hnow : ∀ {w w'}, between w w' → w.now ≤ w'.now)
    (run : Run between (node.poll context) w₀ visits outcome) :
    (∀ visit ∈ visits, w₀.now ≤ visit.before.now ∧ visit.after.now = visit.before.now) ∧
      ∀ event ∈ eventsOf visits, w₀.now ≤ event.time := by
  have hstamped := run.visited ((stamped_frame node context).poll node .root)
  have hlater : Keeps (fun w w' => w.now ≤ w'.now) (node.poll context) := fun p w =>
    Nat.le_of_eq (node.poll_clock context p w).now.symm
  have hvisits := run.keeps (R := fun w w' => w.now ≤ w'.now) (fun _ => Nat.le_refl _)
    Nat.le_trans hnow hlater
  refine ⟨fun visit hm => ⟨(hvisits visit hm).1, (hstamped visit hm).now⟩, fun event hm => ?_⟩
  obtain ⟨visit, hvisit, hm⟩ := List.mem_flatMap.mp hm
  obtain ⟨-, added, hlog, htimes⟩ := hstamped visit hvisit
  rw [Visit.events_eq hlog] at hm
  rw [htimes event hm]
  exact (hvisits visit hvisit).1

/-! ### One transport -/

/-- The opens among some events. -/
def openings (events : List Event) : List Event := events.filter fun event => event.kind = .opened

/-- What is promised of a lone transport that was started in a world, where its open connects after
some time. -/
structure Answered (leaf : Leaf) (c : Context) (took : Duration) (w₀ : World) (latest : Visit)
    (earlier : List Visit) (outcome : Poll Progress) : Prop where
  /-- There is one open, made at once. -/
  once : openings (eventsOf (latest :: earlier)) =
    [.opened (w₀.opens + 1) leaf ⟨leaf.name, leaf.key, c.encrypted, leaf.options⟩ w₀.now]
  /-- It is waited for until it has had its time. -/
  waits : ∀ p, outcome = .pending p → latest.before.now < w₀.now + took ∧
    p = .opening (w₀.opens + 1) w₀.now (some (⟨w₀.now + took, w₀.turn⟩, none))
  /-- Then it connects. -/
  connects : ∀ result, outcome = .ready result → w₀.now + took ≤ latest.before.now ∧
    ∃ connection, result = .ok connection ∧
      MadeBy leaf (w₀.opens + 1) latest.after.kind connection

/-- What a poll of such an open, made earlier or in this poll, adds to an account of the run. -/
theorem Answered.visit {leaf : Leaf} {c : Context} {took : Duration} {earlier : List Visit}
    {before w : World} (hmoment : w.now = before.now)
    (hearlier : ∃ added, w.log = added ++ before.log ∧ openings (added ++ eventsOf earlier) =
      [.opened (w₀.opens + 1) leaf ⟨leaf.name, leaf.key, c.encrypted, leaf.options⟩ w₀.now]) :
    Answered leaf c took w₀
      ⟨before, (leaf.pollOpening (w₀.opens + 1) w₀.now
        (some (⟨w₀.now + took, w₀.turn⟩, none)) w).2⟩ earlier
      (leaf.pollOpening (w₀.opens + 1) w₀.now (some (⟨w₀.now + took, w₀.turn⟩, none)) w).1 := by
  obtain ⟨added, hlog, honce⟩ := hearlier
  unfold Leaf.pollOpening Timer.isDue
  dsimp only
  by_cases hdue : w₀.now + took ≤ w.now
  · rw [if_pos (decide_eq_true hdue)]
    have hafter : (w.connect leaf (w₀.opens + 1) w₀.now).2.log =
        (.connected (w₀.opens + 1) w.now :: added) ++ before.log := by
      rw [List.cons_append, ← hlog]
      rfl
    refine ⟨?_, nofun, ?_⟩
    · rw [eventsOf, List.flatMap_cons, Visit.events_eq hafter]
      exact honce
    · rintro _ ⟨⟩
      exact ⟨hmoment ▸ hdue, _, rfl, rfl, rfl, rfl⟩
  · rw [if_neg (by simpa using hdue)]
    refine ⟨?_, ?_, nofun⟩
    · rw [eventsOf, List.flatMap_cons, Visit.events_eq hlog]
      exact honce
    · rintro _ ⟨⟩
      exact ⟨hmoment ▸ Nat.lt_of_not_le hdue, rfl⟩

/-- Runs of a transport that may be opened, and connects. -/
theorem Run.answered {leaf : Leaf} {c : Context} {took : Duration}
    (hpriority : c.minPriority ≤ leaf.priority)
    (hsupports : w₀.supports leaf.mechanism c.encrypted = true)
    (hanswer : (w₀.openTransport leaf c.encrypted).1 = .connect took) {latest : Visit}
    {earlier : List Visit} {outcome : Poll Progress}
    (run : Run between (leaf.poll c) w₀ (latest :: earlier) outcome) :
    Answered leaf c took w₀ latest earlier outcome := by
  have hfirst : leaf.poll c .unstarted w₀ = leaf.pollOpening (w₀.opens + 1) w₀.now
      (some (⟨w₀.now + took, w₀.turn⟩, none)) (w₀.openTransport leaf c.encrypted).2 := by
    unfold Leaf.poll
    dsimp only
    rw [if_neg (Int64.not_lt.mpr hpriority), if_neg (by simp [hsupports]), hanswer]
    rfl
  generalize hvisits : latest :: earlier = visits at run
  induction run generalizing latest earlier with
  | first =>
    obtain ⟨rfl, rfl⟩ := List.cons.inj hvisits
    rw [hfirst]
    exact Answered.visit rfl ⟨[_], rfl, rfl⟩
  | @again previous before p w hrun _ ih =>
    obtain ⟨rfl, rfl⟩ := List.cons.inj hvisits
    obtain ⟨honce, hwaits, -⟩ := ih rfl
    obtain ⟨-, rfl⟩ := hwaits p rfl
    exact Answered.visit rfl ⟨[], rfl, honce⟩

end

end Dialplan
