import Mathlib.Data.List.MinMax
import Dialplan.Proofs.Cached.Protocol
import Dialplan.Proofs.Timing.Poll

/-! Every attempt comes to an end. An environment runs a strategy: it visits what is in progress
exactly when the first of the moments comes that are waited for, and meanwhile does with the world
as it likes. If it answers every open in time, a strategy of a built plan that does not start over
has a result after finitely many visits, within its bound (`resolves_in_time`). -/

namespace Dialplan

/-- The run of a poller under an environment. After every visit that leaves something in progress
the environment picks the world of the next one. -/
inductive Conducted (next : List Visit → Progress → World) (poller : Poller) (w₀ : World) :
    List Visit → Poll Progress → Prop where
  | first : Conducted next poller w₀ [⟨w₀, (poller .unstarted w₀).2⟩] (poller .unstarted w₀).1
  | again {visits p} : Conducted next poller w₀ visits (.pending p) →
      Conducted next poller w₀ (⟨next visits p, (poller p (next visits p)).2⟩ :: visits)
        (poller p (next visits p)).1

/-- What is asked of an environment that visits something in progress again in some world. -/
structure Timely (response : Duration) (retried : Retried) (p : Progress) (w : World) : Prop where
  /-- Every open in flight has its answer within a time. -/
  answered : p.AnsweredWithin response
  /-- No other cached nodes are waiting for a retry. -/
  retries : p.RetriesOnly retried
  /-- The visit comes with the first of the moments that are waited for. -/
  punctual : ∀ timer ∈ p.timers, (∀ other ∈ p.timers, timer.deadline ≤ other.deadline) →
    w.now = timer.deadline

section

variable {response : Duration} {retried : Retried} {node : Strategy} {now due : Instant}
  {p : Progress} {w : World}

/-- What has settled, with all its opens answered, waits for some moment. -/
theorem Progress.Settled.exists_first (h : p.Settled now) (ha : p.AnsweredWithin response) :
    ∃ timer ∈ p.timers, now < timer.deadline ∧
      ∀ other ∈ p.timers, timer.deadline ≤ other.deadline := by
  have hne : p.timers ≠ [] := by
    rcases h.waits with hne | ⟨path, number, started, hpart⟩
    · exact hne
    · obtain ⟨_, _, hanswer, -⟩ := ha hpart
      cases hanswer
  obtain ⟨timer, hfirst⟩ := Option.ne_none_iff_exists'.mp
    (mt (List.argmin_eq_none (f := Timer.deadline)).mp hne)
  have hm := List.argmin_mem hfirst
  exact ⟨timer, hm, h.later timer hm, fun other ho => List.le_of_mem_argmin ho hfirst⟩

/-- By the next visit time has passed, but not too much. -/
theorem Timely.onTime (h : Timely response retried p w) (hs : p.Settled now)
    (hp : OnTime response node retried now due p) :
    now < w.now ∧ OnTime response node retried w.now due p := by
  obtain ⟨timer, hm, hnow, hfirst⟩ := hs.exists_first h.answered
  have hw := h.punctual timer hm hfirst
  refine ⟨hw ▸ hnow, hp.later ⟨h.answered, h.retries, hs.started, fun other ho => ?_⟩⟩
  exact hw ▸ hfirst other ho

end

section

variable {response : Duration} {retried : Retried} {node : Strategy} {poller : Poller}
  {w₀ : World} {due : Instant} {next : List Visit → Progress → World}

/-- How a run stands after some visits: one at a time, none of them too late. -/
structure InTime (response : Duration) (retried : Retried) (node : Strategy) (w₀ : World)
    (due : Instant) (latest : Visit) (earlier : List Visit) (outcome : Poll Progress) : Prop where
  count : (latest :: earlier).length ≤ latest.before.now - w₀.now + 1
  within : ∀ visit ∈ latest :: earlier, w₀.now ≤ visit.before.now ∧ visit.before.now ≤ due
  waits : ∀ p, outcome = .pending p →
    OnTime response node retried latest.before.now due p ∧ p.Settled latest.before.now

theorem OnSchedule.waits {polled : Poll Progress × World} {now : Instant}
    (h : OnSchedule response node retried now due polled) {p : Progress}
    (hp : polled.1 = .pending p) : OnTime response node retried now due p ∧ p.Settled now := by
  obtain ⟨answer, w⟩ := polled
  obtain rfl : answer = .pending p := hp
  exact h.2

/-- As long as the environment is timely, a run is in time. -/
theorem Conducted.inTime (hkeeps : KeepsTime response node poller)
    (hdue : w₀.now + node.bound response retried ≤ due)
    (henv : ∀ {visits p}, Conducted next poller w₀ visits (.pending p) →
      Timely response retried p (next visits p))
    {visits : List Visit} {outcome : Poll Progress}
    (run : Conducted next poller w₀ visits outcome) :
    ∃ latest earlier, visits = latest :: earlier ∧
      InTime response retried node w₀ due latest earlier outcome := by
  induction run with
  | first =>
    have hpoll := hkeeps retried due .unstarted w₀ (.unstarted hdue)
    refine ⟨_, [], rfl, Nat.le_add_left _ _, List.forall_mem_singleton.mpr ⟨Nat.le_refl _, ?_⟩,
      fun p hp => hpoll.waits hp⟩
    exact Nat.le_trans (Nat.le_add_right _ _) hdue
  | @again visits p run ih =>
    obtain ⟨latest, earlier, rfl, hcount, hwithin, hwaits⟩ := ih
    obtain ⟨hp, hs⟩ := hwaits p rfl
    obtain ⟨hnow, hp⟩ := (henv run).onTime hs hp
    have hpoll := hkeeps retried due p _ hp
    have hlatest := hwithin latest List.mem_cons_self
    refine ⟨_, _, rfl, ?_, List.forall_mem_cons.mpr ⟨⟨?_, hp.le_due⟩, hwithin⟩,
      fun p hp => hpoll.waits hp⟩
    · rw [List.length_cons]
      dsimp only
      lia
    · exact Nat.le_trans hlatest.1 (Nat.le_of_lt hnow)

/-- A run has a result, or goes on for any number of visits. -/
theorem Conducted.ready_or_pending (next : List Visit → Progress → World) (poller : Poller)
    (w₀ : World) : ∀ n, (∃ visits result, Conducted next poller w₀ visits (.ready result)) ∨
      ∃ visits p, Conducted next poller w₀ visits (.pending p) ∧ visits.length = n + 1
  | 0 => by
    have run : Conducted next poller w₀ _ _ := .first
    cases hpoll : (poller .unstarted w₀).1 with
    | ready result => exact .inl ⟨_, result, hpoll ▸ run⟩
    | pending p => exact .inr ⟨_, p, hpoll ▸ run, rfl⟩
  | n + 1 => by
    rcases ready_or_pending next poller w₀ n with hready | ⟨visits, p, run, hlength⟩
    · exact .inl hready
    · have run := run.again
      cases hpoll : (poller p (next visits p)).1 with
      | ready result => exact .inl ⟨_, result, hpoll ▸ run⟩
      | pending p => exact .inr ⟨_, p, hpoll ▸ run, congrArg (· + 1) hlength⟩

end

/-- Whatever the caches hold, whatever an attempt demands and whatever else happens to the world:
if every open is answered in time and visits are punctual, an attempt on a built strategy that does
not start over has a result after finitely many visits, none of which comes later than the bound of
the strategy allows. -/
theorem resolves_in_time {builder : Builder} {options : BuildOptions} {site : Site}
    {program : Program} {root : Strategy}
    (hbuild : builder.build options site program = .ok root) (hloop : root.Loopless)
    {context : Context} {w₀ : World} {next : List Visit → Progress → World} {response : Duration}
    {retried : Retried}
    (henv : ∀ {visits p}, Conducted next (root.poll context) w₀ visits (.pending p) →
      Timely response retried p (next visits p)) :
    ∃ visits result, Conducted next (root.poll context) w₀ visits (.ready result) ∧
      visits.length ≤ root.bound response retried + 1 ∧
      ∀ visit ∈ visits, w₀.now ≤ visit.before.now ∧
        visit.before.now ≤ w₀.now + root.bound response retried := by
  have hkeeps : KeepsTime response root (root.poll context) :=
    root.poll_keepsTime hloop fun hw => (Builder.build_made hbuild).listed hw
  have hcount : ∀ {visits outcome}, Conducted next (root.poll context) w₀ visits outcome →
      visits.length ≤ root.bound response retried + 1 ∧
      ∀ visit ∈ visits, w₀.now ≤ visit.before.now ∧
        visit.before.now ≤ w₀.now + root.bound response retried := by
    intro visits outcome run
    obtain ⟨latest, earlier, rfl, hin⟩ := run.inTime hkeeps (Nat.le_refl _) henv
    have hlatest := hin.within latest List.mem_cons_self
    have hcount := hin.count
    exact ⟨by lia, hin.within⟩
  rcases Conducted.ready_or_pending next (root.poll context) w₀ (root.bound response retried + 1)
    with ⟨visits, result, run⟩ | ⟨visits, p, run, hlength⟩
  · exact ⟨visits, result, run, hcount run⟩
  · have := (hcount run).1
    lia

/-! The cached node whose recorded transport connects again after five milliseconds. -/

def recallRoot : Strategy := .cached recallSettings [("a", recallLeaf)] recallLeaf

/-- What is in progress while the recorded transport is tried. -/
def recallOpen : Progress :=
  .retrying ⟨Duration.ofMillis 1020, 0⟩ 0 "a" (.opening 1 0 (some (⟨Duration.ofMillis 5, 0⟩, none)))

/-- Only the root is given time for a retry. -/
def recallRetried : Retried := List.isEmpty

theorem recallRoot_loopless : recallRoot.Loopless := by
  intro path options children h
  rcases path with _ | ⟨_ | i, _ | ⟨j, path⟩⟩
  all_goals cases h

theorem recallOpen_timely : Timely (Duration.ofMillis 5) recallRetried recallOpen recallLater where
  answered hp := by
    rcases hp with _ | _ | _ | ⟨⟨⟩⟩
    exact ⟨_, _, rfl, Nat.le_refl _⟩
  retries hp := by
    rcases hp with _ | _ | _ | ⟨⟨⟩⟩
    rfl
  punctual timer hm hfirst := by
    have hanswer := hfirst ⟨Duration.ofMillis 5, 0⟩ (List.mem_cons_of_mem _ List.mem_cons_self)
    rcases List.mem_cons.mp hm with rfl | hm
    · exact absurd hanswer (by decide)
    · rw [List.mem_singleton.mp hm]
      rfl

/-- The retry and the strategy below it may take five milliseconds each. -/
theorem resolves_in_time_recall :
    recallRoot.bound (Duration.ofMillis 5) recallRetried = Duration.ofMillis 10 ∧
    ∃ visits result,
      Conducted (fun _ _ => recallLater) (recallRoot.poll .plain) recallWorld visits
        (.ready result) ∧
      visits.length ≤ Duration.ofMillis 10 + 1 ∧
      ∀ visit ∈ visits, recallWorld.now ≤ visit.before.now ∧
        visit.before.now ≤ recallWorld.now + Duration.ofMillis 10 := by
  have hbuild : recallBuilder.build .default [] recallProgram = .ok recallRoot := by rfl
  have honly : ∀ {visits outcome},
      Conducted (fun _ _ => recallLater) (recallRoot.poll .plain) recallWorld visits outcome →
      outcome = .pending recallOpen ∨ ∃ result, outcome = .ready result := by
    intro visits outcome run
    induction run with
    | first => exact .inl rfl
    | again _ ih =>
      rcases ih with hp | ⟨_, hp⟩
      · cases hp
        exact .inr ⟨_, rfl⟩
      · cases hp
  have hbound : recallRoot.bound (Duration.ofMillis 5) recallRetried = Duration.ofMillis 10 := by
    decide
  rw [← hbound]
  refine ⟨rfl, resolves_in_time hbuild recallRoot_loopless fun run => ?_⟩
  rcases honly run with hp | ⟨_, hp⟩
  · cases hp
    exact recallOpen_timely
  · cases hp

end Dialplan
