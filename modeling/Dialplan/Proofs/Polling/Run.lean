import Dialplan.Proofs.Polling.Frame

/-! Runs. What has been started is polled again as long as it waits, and between polls the
world changes in some allowed way: time passes, and others go on. Every poll is a visit; what
it did to opens is what it added to the log. -/

namespace Dialplan

/-- A poll of a run: the world before it and after it. -/
structure Visit where
  before : World
  after : World

/-- What a visit added to the log, latest first. -/
def Visit.events (visit : Visit) : List Event :=
  visit.after.log.take (visit.after.log.length - visit.before.log.length)

theorem Visit.events_eq {visit : Visit} {events : List Event}
    (h : visit.after.log = events ++ visit.before.log) : visit.events = events := by
  simp [Visit.events, h]

/-- What visits added to the log, latest first, when the latest visit comes first. -/
def eventsOf (visits : List Visit) : List Event := visits.flatMap Visit.events

/-- The runs of a poller from a world on, with their visits, the latest first, and what the
latest came to. -/
inductive Run (between : World → World → Prop) (poller : Poller) (w₀ : World) :
    List Visit → Poll Progress → Prop where
  | first : Run between poller w₀ [⟨w₀, (poller .unstarted w₀).2⟩] (poller .unstarted w₀).1
  | again {visit earlier p w} : Run between poller w₀ (visit :: earlier) (.pending p) →
      between visit.after w →
      Run between poller w₀ (⟨w, (poller p w).2⟩ :: visit :: earlier) (poller p w).1

/-- What polls and what happens between them keep, a run keeps. -/
theorem Run.keeps {between R : World → World → Prop} {poller : Poller} {w₀ : World}
    {visits : List Visit} {outcome : Poll Progress} (refl : ∀ w, R w w)
    (trans : ∀ {a b c}, R a b → R b c → R a c) (hbetween : ∀ {w w'}, between w w' → R w w')
    (hpoll : Keeps R poller) (run : Run between poller w₀ visits outcome) :
    ∀ visit ∈ visits, R w₀ visit.before ∧ R w₀ visit.after := by
  induction run with
  | first => exact List.forall_mem_singleton.mpr ⟨refl w₀, hpoll _ w₀⟩
  | @again visit earlier p w _ hb ih =>
    have hw := trans (ih visit List.mem_cons_self).2 (hbetween hb)
    exact List.forall_mem_cons.mpr ⟨⟨hw, trans hw (hpoll p w)⟩, ih⟩

/-- What polls keep, every visit keeps. -/
theorem Run.visited {between R : World → World → Prop} {poller : Poller} {w₀ : World}
    {visits : List Visit} {outcome : Poll Progress} (hpoll : Keeps R poller)
    (run : Run between poller w₀ visits outcome) :
    ∀ visit ∈ visits, R visit.before visit.after := by
  induction run with
  | first => exact List.forall_mem_singleton.mpr (hpoll _ w₀)
  | again _ _ ih => exact List.forall_mem_cons.mpr ⟨hpoll _ _, ih⟩

/-- What may happen between polls may be widened. -/
theorem Run.mono {between between' : World → World → Prop} {poller : Poller} {w₀ : World}
    {visits : List Visit} {outcome : Poll Progress}
    (h : ∀ {w w'}, between w w' → between' w w') (run : Run between poller w₀ visits outcome) :
    Run between' poller w₀ visits outcome := by
  induction run with
  | first => exact .first
  | again _ hb ih => exact ih.again (h hb)

/-- The latest visit is a poll of something in progress. -/
theorem Run.latest {between : World → World → Prop} {poller : Poller} {w₀ : World}
    {visit : Visit} {earlier : List Visit} {outcome : Poll Progress}
    (run : Run between poller w₀ (visit :: earlier) outcome) :
    ∃ p, poller p visit.before = (outcome, visit.after) := by
  cases run with
  | first => exact ⟨_, rfl⟩
  | again _ _ => exact ⟨_, rfl⟩

theorem Run.exists_cons {between : World → World → Prop} {poller : Poller} {w₀ : World}
    {visits : List Visit} {outcome : Poll Progress}
    (run : Run between poller w₀ visits outcome) : ∃ visit earlier, visits = visit :: earlier := by
  cases run with
  | first => exact ⟨_, _, rfl⟩
  | again _ _ => exact ⟨_, _, rfl⟩

/-- A run comes to what its visits say. -/
theorem Run.outcome_eq {between between' : World → World → Prop} {poller : Poller} {w₀ : World}
    {visits : List Visit} {outcome outcome' : Poll Progress}
    (run : Run between poller w₀ visits outcome) (run' : Run between' poller w₀ visits outcome') :
    outcome = outcome' := by
  generalize hvisits : visits = visits' at run'
  induction run generalizing outcome' visits' with
  | first =>
    cases run' with
    | first => rfl
    | again _ _ => cases (List.cons.inj hvisits).2
  | again _ _ ih =>
    cases run' with
    | first => cases (List.cons.inj hvisits).2
    | again run' _ =>
      obtain ⟨hvisit, hearlier⟩ := List.cons.inj hvisits
      obtain rfl := Poll.pending.inj (ih _ hearlier run')
      rw [(Visit.mk.inj hvisit).1]

/-! ### Punctual runs -/

/-- What is in progress is visited again punctually: no moment that it waits for has been missed,
and if it stopped only to let others run, no time has passed. -/
structure Punctual (visit : Visit) (p : Progress) (w : World) : Prop where
  forward : visit.before.now ≤ w.now
  awaited : ∀ timer ∈ p.timers, w.now ≤ timer.deadline
  prompt : p.isYielding = true → w.now = visit.before.now

/-- The runs all of whose visits are punctual. Else anything may happen between visits, and there
may be more of them than are waited for. -/
inductive PunctualRun (poller : Poller) (w₀ : World) : List Visit → Poll Progress → Prop where
  | first : PunctualRun poller w₀ [⟨w₀, (poller .unstarted w₀).2⟩] (poller .unstarted w₀).1
  | again {visit earlier p w} : PunctualRun poller w₀ (visit :: earlier) (.pending p) →
      Punctual visit p w →
      PunctualRun poller w₀ (⟨w, (poller p w).2⟩ :: visit :: earlier) (poller p w).1

theorem PunctualRun.run {poller : Poller} {w₀ : World} {visits : List Visit}
    {outcome : Poll Progress} (run : PunctualRun poller w₀ visits outcome) :
    Run (fun _ _ => True) poller w₀ visits outcome := by
  induction run with
  | first => exact .first
  | again _ _ ih => exact ih.again trivial

/-- All visits before the latest one are punctual, and the latest one is. -/
theorem PunctualRun.latest {between : World → World → Prop} {poller : Poller} {w₀ : World}
    {visit before : Visit} {earlier : List Visit} {outcome : Poll Progress} {p : Progress}
    (h : PunctualRun poller w₀ (visit :: before :: earlier) outcome)
    (run : Run between poller w₀ (before :: earlier) (.pending p)) :
    PunctualRun poller w₀ (before :: earlier) (.pending p) ∧ Punctual before p visit.before := by
  generalize hvisits : visit :: before :: earlier = visits at h
  cases h with
  | first => cases (List.cons.inj hvisits).2
  | again h hpunctual =>
    obtain ⟨rfl, hearlier⟩ := List.cons.inj hvisits
    obtain ⟨rfl, rfl⟩ := List.cons.inj hearlier
    obtain rfl := Poll.pending.inj (run.outcome_eq h.run)
    exact ⟨h, hpunctual⟩

end Dialplan
