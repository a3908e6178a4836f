import Dialplan.Proofs.Timing.PathDelays

/-! Starts along paths. On a straight path nothing but delays holds an attempt up, so polls keep
going down it in time (`Straight.keeps`), and a punctual run comes to the leaf at its end just when
the delays are over (`PunctualRun.proceeds`). With what holds of every path, this is how delays add
up (`delays_add_up`). -/

namespace Dialplan

/-- A path to a leaf on which nothing but delays holds an attempt up: it leads through delayed
nodes, branches, and races that start all their children at once. -/
inductive Straight (leaf : Leaf) : Strategy → List Nat → Prop where
  | leaf : Straight leaf (.transport leaf) []
  | delayed {delay child path} : Straight leaf child path →
      Straight leaf (.delayed delay child) (0 :: path)
  | branch {test onTrue onFalse i child path} :
      (Strategy.branch test onTrue onFalse).children[i]? = some child →
      Straight leaf child path → Straight leaf (.branch test onTrue onFalse) (i :: path)
  | firstConnected {children i child path} : children[i]? = some child →
      Straight leaf child path → Straight leaf (.firstConnected children) (i :: path)

namespace Ask

/-- At some moment a leaf at the end of a path starts. -/
def Starts (ask : Ask) (path : List Nat) (leaf : Leaf) (time : Instant) : Prop :=
  ∃ c w, ask.Leads (path.map .child) ⟨.transport leaf, c, .unstarted, w⟩ ∧ w.now = time

/-- At a branch on a path the poll goes on at the other side. -/
def Strays (ask : Ask) (path : List Nat) : Prop :=
  ∃ before i after fork, path = before ++ i :: after ∧ ask.Leads (before.map .child) fork ∧
    (∃ test onTrue onFalse, fork.node = .branch test onTrue onFalse) ∧
    ∃ descent ∈ fork.descents, descent.step ≠ .child i

/-- A leaf at the end of a path starts when it should, unless the path is left. -/
def Meets (ask : Ask) (path : List Nat) (leaf : Leaf) (due : Instant) : Prop :=
  ask.Strays path ∨ ask.Starts path leaf due

variable {ask : Ask} {descent : Descent} {child : Strategy} {i : Nat} {path : List Nat}
  {leaf : Leaf} {due : Instant}

theorem Meets.down (h : (ask.after child descent).Meets path leaf due)
    (hm : descent ∈ ask.descents) (hstep : descent.step = .child i)
    (hi : ask.node.children[i]? = some child) : ask.Meets (i :: path) leaf due := by
  have hdown : ∀ {path : List Nat} {last : Ask},
      (ask.after child descent).Leads (path.map .child) last →
      ask.Leads ((i :: path).map .child) last := fun hleads => by
    rw [List.map_cons, ← hstep]
    exact .down hm (hstep ▸ hi) hleads
  rcases h with ⟨before, j, after, fork, rfl, hleads, hbranch, hother⟩ | ⟨c, w, hleads, hnow⟩
  · exact .inl ⟨i :: before, j, after, fork, rfl, hdown hleads, hbranch, hother⟩
  · exact .inr ⟨c, w, hdown hleads, hnow⟩

end Ask

/-- What is in progress at a node waits for a delay on a path, from which on the delays lead up to
some moment. -/
inductive Heads (now due : Instant) : Strategy → List Nat → Progress → Prop where
  | waiting {delay child path timer} : now ≤ timer.deadline →
      timer.deadline + child.delays path = due →
      Heads now due (.delayed delay child) (0 :: path) (.waiting timer)
  | delegated {delay child path p} : Heads now due child path p →
      Heads now due (.delayed delay child) (0 :: path) (.delegated p)
  | branched {test onTrue onFalse outcome i child path p} : i = (if outcome then 0 else 1) →
      (Strategy.branch test onTrue onFalse).children[i]? = some child → Heads now due child path p →
      Heads now due (.branch test onTrue onFalse) (i :: path) (.branched outcome p)
  | racing {children lead order slots failures i child path p} :
      Race.State.Complete children.length ⟨false, order, slots, failures⟩ →
      children[i]? = some child → slots[i]? = some (.running p) → Heads now due child path p →
      Heads now due (.firstConnected children) (i :: path) (.racing lead false order slots failures)

namespace Heads

variable {now due : Instant} {node : Strategy} {path : List Nat} {p : Progress}

theorem awaited (h : Heads now due node path p) :
    ∃ timer ∈ p.timers, now ≤ timer.deadline ∧ timer.deadline ≤ due := by
  induction h with
  | waiting hnow hdue => exact ⟨_, List.mem_cons_self, hnow, hdue ▸ Nat.le_add_right _ _⟩
  | delegated _ ih => exact ih
  | branched _ _ _ ih => exact ih
  | racing _ _ hs _ ih =>
    obtain ⟨timer, hm, hle⟩ := ih
    exact ⟨timer, Progress.mem_timers_racing.mpr (.inr ⟨_, _, hs, hm⟩), hle⟩

theorem later (h : Heads now due node path p) {now' : Instant}
    (hawaited : ∀ timer ∈ p.timers, now' ≤ timer.deadline) : Heads now' due node path p := by
  induction h with
  | waiting _ hdue => exact .waiting (hawaited _ List.mem_cons_self) hdue
  | delegated _ ih => exact .delegated (ih hawaited)
  | branched hi hchild _ ih => exact .branched hi hchild (ih hawaited)
  | racing hcomplete hi hs _ ih =>
    exact .racing hcomplete hi hs (ih fun timer hm =>
      hawaited timer (Progress.mem_timers_racing.mpr (.inr ⟨_, _, hs, hm⟩)))

end Heads

/-- What is in progress at a node goes down a path in time for some moment: it starts now, or it
waits for a delay. -/
def Approaches (now due : Instant) (node : Strategy) (path : List Nat) (p : Progress) : Prop :=
  p = .unstarted ∧ now + node.delays path = due ∨ Heads now due node path p

theorem Approaches.le {now due : Instant} {node : Strategy} {path : List Nat} {p : Progress}
    (h : Approaches now due node path p) : now ≤ due := by
  rcases h with ⟨-, rfl⟩ | h
  · exact Nat.le_add_right _ _
  · obtain ⟨timer, -, hnow, hdue⟩ := h.awaited
    exact Nat.le_trans hnow hdue

/-- After a poll at some moment: what waits still goes down the path, unless it has come to its end
or left it. -/
def Proceeding (due : Instant) (ask : Ask) (path : List Nat) (leaf : Leaf) :
    Poll Progress × World → Prop :=
  Poll.Yields
    (fun p _ => Heads ask.world.now due ask.node path p ∧ ask.world.now < due ∨
      ask.Meets path leaf due)
    (fun _ _ => True) fun _ _ => ask.Meets path leaf due

theorem Proceeding.of_meets {due : Instant} {ask : Ask} {path : List Nat} {leaf : Leaf}
    (h : ask.Meets path leaf due) (polled : Poll Progress × World) :
    Proceeding due ask path leaf polled :=
  .intro (fun _ _ => .inr h) (fun _ _ => trivial) fun _ _ => h

/-- What keeps going down from a child, does so from the node above it. -/
theorem Proceeding.up {due : Instant} {ask : Ask} {child : Strategy} {i : Nat} {q : Progress}
    {path : List Nat} {leaf : Leaf} {f : Progress → Progress} {polled : Poll Progress × World}
    (hm : .toChild i q ask.world ∈ ask.descents) (hi : ask.node.children[i]? = some child)
    (hf : ∀ {q'}, Heads ask.world.now due child path q' →
      Heads ask.world.now due ask.node (i :: path) (f q'))
    (h : Proceeding due (ask.after child (.toChild i q ask.world)) path leaf polled) :
    Proceeding due ask (i :: path) leaf (polled.1.map f, polled.2) := by
  refine Poll.Yields.map (Poll.Yields.imp h ?_ (fun _ _ h => h) ?_)
  · rintro q' _ (⟨hq', hlt⟩ | hmeets)
    · exact .inl ⟨hf hq', hlt⟩
    · exact .inr (hmeets.down hm rfl hi)
  · exact fun _ _ hmeets => hmeets.down hm rfl hi

namespace Straight

variable {leaf : Leaf} {due : Instant} {path : List Nat}

/-- Polls of a node keep going down a path in time. -/
def Keeps (leaf : Leaf) (node : Strategy) (path : List Nat) : Prop :=
  ∀ c due p w, Approaches w.now due node path p →
    Proceeding due ⟨node, c, p, w⟩ path leaf (node.poll c p w)

theorem delayed_keeps (delay : Duration) {child : Strategy} (hc : Keeps leaf child path) :
    Keeps leaf (.delayed delay child) (0 :: path) := by
  intro c due p w h
  let ask : Ask := ⟨.delayed delay child, c, p, w⟩
  have hchild : ∀ q, Approaches w.now due child path q → .toChild 0 q w ∈ ask.descents →
      Proceeding due ask (0 :: path) leaf
        ((child.poll c q w).1.map Progress.delegated, (child.poll c q w).2) :=
    fun q hq hm => .up hm rfl .delegated (hc c due q w hq)
  have hwait : ∀ timer : Timer, w.now ≤ timer.deadline →
      timer.deadline + child.delays path = due →
      ask.descents = (if timer.isDue w.now then [.toChild 0 .unstarted w] else []) →
      Proceeding due ask (0 :: path) leaf
        (if timer.isDue w.now then
          ((child.poll c .unstarted w).1.map Progress.delegated, (child.poll c .unstarted w).2)
        else (.pending (.waiting timer), w)) := by
    intro timer hnow hdue hdescents
    by_cases hover : timer.isDue w.now = true
    · rw [if_pos hover] at hdescents ⊢
      have hdeadline : timer.deadline ≤ w.now := of_decide_eq_true hover
      exact hchild .unstarted (.inl ⟨rfl, by lia⟩) (hdescents ▸ List.mem_cons_self)
    · rw [if_neg hover]
      have hdeadline : w.now < timer.deadline := Timer.not_isDue_iff.mp hover
      exact .inl ⟨.waiting hnow hdue, show w.now < due by lia⟩
  rcases h with ⟨rfl, hdue⟩ | h
  · rw [Strategy.delays_cons rfl, ← Nat.add_assoc] at hdue
    exact hwait (Timer.start w delay) (Nat.le_add_right _ _) hdue rfl
  · cases h with
    | delegated h => exact hchild _ (.inr h) List.mem_cons_self
    | waiting hnow hdue => exact hwait _ hnow hdue rfl

theorem branch_keeps {test : Condition Strategy} {onTrue onFalse child : Strategy} {i : Nat}
    (hi : (Strategy.branch test onTrue onFalse).children[i]? = some child)
    (hc : Keeps leaf child path) : Keeps leaf (.branch test onTrue onFalse) (i :: path) := by
  intro c due p w h
  let ask : Ask := ⟨.branch test onTrue onFalse, c, p, w⟩
  let side (outcome : Bool) : Poller := if outcome then onTrue.poll c else onFalse.poll c
  have hside : ∀ (outcome : Bool) q,
      ask.descents = [.toChild (if outcome then 0 else 1) q w] →
      (i = (if outcome then 0 else 1) → Approaches w.now due child path q) →
      Proceeding due ask (i :: path) leaf
        ((side outcome q w).1.map (Progress.branched outcome), (side outcome q w).2) := by
    intro outcome q hdescents hq
    by_cases hio : i = if outcome then 0 else 1
    · have hchild : side outcome = child.poll c := by
        rw [hio] at hi
        cases outcome <;> exact congrArg (Strategy.poll · c) (Option.some.inj hi)
      rw [hchild]
      refine .up ?_ hi (.branched hio hi) (hc c due q w (hq hio))
      rw [hdescents, hio]
      exact List.mem_cons_self
    · -- the other side is taken
      refine .of_meets (.inl ⟨[], i, path, ask, rfl, .here, ⟨_, _, _, rfl⟩, ?_⟩) _
      rw [hdescents]
      exact ⟨_, List.mem_cons_self, fun hstep => hio (Step.child.inj hstep).symm⟩
  rcases h with ⟨rfl, hdue⟩ | h
  · rw [Strategy.delays_cons hi, show (Strategy.branch test onTrue onFalse).delay = 0 from rfl,
      Nat.zero_add] at hdue
    exact hside (test.holds w.supports c.encrypted) .unstarted rfl fun _ => .inl ⟨rfl, hdue⟩
  · cases h with
    | @branched _ _ _ outcome _ other _ q hio hother h =>
      obtain rfl := Option.some.inj (hi.symm.trans hother)
      exact hside outcome q rfl fun _ => .inr h

section

variable {children : List Strategy} {child : Strategy} {i : Nat} {c : Context} {w : World}

/-- A race within a poll, after some polls of its children: the child on the path goes down in
time, and if it has been polled it still waits; or it has come to the end of the path, or left
it. -/
def Underway (due : Instant) (path : List Nat) (leaf : Leaf) (child : Strategy) (i : Nat)
    (c : Context) (now : Instant) (slots : List (Race.Slot Progress)) (descents : List Descent) :
    Prop :=
  (∃ q, slots[i]? = some (.running q) ∧ Approaches now due child path q ∧
    ((∃ descent ∈ descents, descent.step = .child i) → Heads now due child path q ∧ now < due)) ∨
  ∃ descent ∈ descents, descent.step = .child i ∧
    Ask.Meets ⟨child, c, descent.progress, descent.world⟩ path leaf due

theorem Underway.of_unpolled {now : Instant} {slots : List (Race.Slot Progress)} {q : Progress}
    (hs : slots[i]? = some (.running q)) (hq : Approaches now due child path q) :
    Underway due path leaf child i c now slots [] := by
  refine .inl ⟨q, hs, hq, ?_⟩
  rintro ⟨descent, hm, -⟩
  cases hm

theorem Underway.look (hc : Keeps leaf child path) {slots : List (Race.Slot Progress)}
    {descents : List Descent} (h : Underway due path leaf child i c w.now slots descents)
    {p : Progress} (hs : slots[i]? = some (.running p)) :
    Poll.Yields
      (fun p' _ => Underway due path leaf child i c w.now (slots.set i (.running p'))
        (descents ++ [.toChild i p w]))
      (fun _ _ => True)
      (fun _ _ => Underway due path leaf child i c w.now (slots.set i .failed)
        (descents ++ [.toChild i p w])) (child.poll c p w) := by
  have hlast : .toChild i p w ∈ descents ++ [.toChild i p w] :=
    List.mem_append_right _ List.mem_cons_self
  have hlt := (List.getElem?_eq_some_iff.mp hs).1
  have hmet : ∀ {slots'}, Ask.Meets ⟨child, c, p, w⟩ path leaf due →
      Underway due path leaf child i c w.now slots' (descents ++ [.toChild i p w]) :=
    fun hmeets => .inr ⟨_, hlast, rfl, hmeets⟩
  rcases h with ⟨q, hq, hin, -⟩ | ⟨descent, hm, hfound⟩
  · obtain rfl : q = p := Race.Slot.running.inj (Option.some.inj (hq.symm.trans hs))
    refine (hc c due q w hin).imp ?_ (fun _ _ h => h) fun _ _ => hmet
    rintro p' _ (hheads | hmeets)
    · exact .inl ⟨p', List.getElem?_set_self hlt, .inr hheads.1, fun _ => hheads⟩
    · exact hmet hmeets
  · have hstill : ∀ {slots'},
        Underway due path leaf child i c w.now slots' (descents ++ [.toChild i p w]) :=
      .inr ⟨descent, List.mem_append_left _ hm, hfound⟩
    exact .intro (fun _ _ => hstill) (fun _ _ => trivial) fun _ _ => hstill

theorem Underway.other {slots : List (Race.Slot Progress)} {now : Instant}
    {descents : List Descent} (h : Underway due path leaf child i c now slots descents) {j : Nat}
    (hne : j ≠ i) (slot : Race.Slot Progress) (p : Progress) (w : World) :
    Underway due path leaf child i c now (slots.set j slot) (descents ++ [.toChild j p w]) := by
  rcases h with ⟨q, hq, hin, hpolled⟩ | ⟨descent, hm, hfound⟩
  · refine .inl ⟨q, (List.getElem?_set_ne hne).trans hq, hin, ?_⟩
    rintro ⟨descent, hm, hstep⟩
    rcases List.mem_append.mp hm with hm | hm
    · exact hpolled ⟨descent, hm, hstep⟩
    · obtain rfl := List.mem_singleton.mp hm
      exact absurd (Step.child.inj hstep) hne
  · exact .inr ⟨descent, List.mem_append_left _ hm, hfound⟩

/-- A race that holds no child back, between two polls of its children within a poll. -/
structure Midway (due : Instant) (path : List Nat) (leaf : Leaf) (children : List Strategy)
    (child : Strategy) (i : Nat) (c : Context) (now : Instant) (state : Race.State Progress)
    (w : World × List Descent) : Prop where
  clock : w.1.now = now
  released : state.holding = false
  complete : state.Complete children.length
  underway : Underway due path leaf child i c now state.slots w.2

theorem Midway.release {now : Instant} {state : Race.State Progress} {w : World × List Descent}
    (h : Midway due path leaf children child i c now state w) :
    Midway due path leaf children child i c now (state.release .unstarted) w where
  clock := h.clock
  released := rfl
  complete := h.complete.release
  underway := by
    refine h.underway.imp_left ?_
    rintro ⟨q, hq, hin⟩
    exact ⟨q, by rw [Race.State.release_slot, hq]; rfl, hin⟩

/-- Polls of children keep a race midway. -/
theorem Midway.looks (hi : children[i]? = some child) (hc : Keeps leaf child path)
    (now : Instant) :
    Race.Looks (logged (fun i => Strategy.pollAt children i c) Descent.toChild)
      (Midway due path leaf children child i c now) fun _ _ _ _ => True := by
  rintro state ⟨w, descents⟩ j p h hs
  have hclock : (Strategy.pollAt children j c p w).2.now = now := by
    rw [Strategy.pollAt_eq]
    exact (Strategy.pollFound_clock _ c p w).now.trans h.clock
  have hunderway := h.underway
  have hyields : Poll.Yields
      (fun p' _ => Underway due path leaf child i c now (state.slots.set j (.running p'))
        (descents ++ [.toChild j p w]))
      (fun _ _ => True)
      (fun _ _ => Underway due path leaf child i c now (state.slots.set j .failed)
        (descents ++ [.toChild j p w])) (Strategy.pollAt children j c p w) := by
    by_cases hij : j = i
    · subst hij
      have hchild : Strategy.pollAt children j c = child.poll c := by
        rw [Strategy.pollAt_eq, hi]
        rfl
      rw [hchild]
      rw [← h.clock] at hunderway ⊢
      exact hunderway.look hc hs
    · exact .intro (fun _ _ => hunderway.other hij _ p w) (fun _ _ => trivial)
        fun _ _ => hunderway.other hij _ p w
  unfold logged
  dsimp only
  generalize Strategy.pollAt children j c p w = polled at hclock hyields ⊢
  obtain ⟨answer, w'⟩ := polled
  cases answer with
  | pending p' =>
    have hnot : Race.Slot.running p' ≠ .held := nofun
    exact ⟨hclock, h.released, h.complete.set j hnot _, hyields⟩
  | ready result =>
    cases result with
    | ok connection => trivial
    | error e =>
      have hnot : (.failed : Race.Slot Progress) ≠ .held := nofun
      exact ⟨hclock, h.released, h.complete.set j hnot _, hyields⟩

theorem race_keeps (hi : children[i]? = some child) (hc : Keeps leaf child path)
    (state : Race.State Progress) (hcomplete : state.Complete children.length)
    (hreleased : state.holding = false) (h : Underway due path leaf child i c w.now state.slots [])
    {p : Progress} (hdescents : (Ask.mk (.firstConnected children) c p w).descents =
      raceDescents none (fun i => Strategy.pollAt children i c) state w) :
    Proceeding due ⟨.firstConnected children, c, p, w⟩ (i :: path) leaf
      (pollRace none (fun i => Strategy.pollAt children i c) (fun _ _ w => w) state w) := by
  let poller (i : Nat) : Poller := Strategy.pollAt children i c
  have hrule := Race.poll_rule .unstarted (Midway.looks (c := c) hi hc w.now)
    (fun _ _ => Midway.release) false state (w := (w, [])) ⟨rfl, hreleased, hcomplete, h⟩
  obtain ⟨houtcome, hworld⟩ :=
    Race.poll_logged_fst poller Descent.toChild .unstarted false state w []
  change _ = (Race.poll (logged poller Descent.toChild) .unstarted false state (w, [])).2.2
    at hdescents
  -- what has been met below has been met from the race
  have hmet : ∀ {descents : List Descent}, (Ask.mk (.firstConnected children) c p w).descents =
      descents → (∃ descent ∈ descents, descent.step = .child i ∧
        Ask.Meets ⟨child, c, descent.progress, descent.world⟩ path leaf due) →
      Ask.Meets ⟨.firstConnected children, c, p, w⟩ (i :: path) leaf due := by
    rintro _ rfl ⟨descent, hm, hstep, hmeets⟩
    exact Ask.Meets.down hmeets hm hstep hi
  unfold pollRace
  dsimp only [Option.any]
  rcases hpolled : Race.poll (logged poller Descent.toChild) .unstarted false state (w, []) with
    ⟨outcome, w', descents⟩
  rw [hpolled] at hrule houtcome hworld hdescents
  rw [← Prod.eta (Race.poll _ .unstarted false state w), ← houtcome, ← hworld]
  cases outcome with
  | pending left =>
    have hmidway : Midway .. := hrule
    rcases hmidway.underway with ⟨q, hq, -, hwaits⟩ | hmeets
    · have hall := raceDescents_all ⟨hcomplete, by simp [hreleased]⟩ hpolled hq
      obtain ⟨hheads, hlt⟩ := hwaits hall
      obtain ⟨holding, order, slots, failures⟩ := left
      obtain rfl : holding = false := hmidway.released
      exact .inl ⟨.racing hmidway.complete hi hq hheads, hlt⟩
    · exact .inr (hmet hdescents hmeets)
  | won j connection left => trivial
  | lost failures =>
    obtain ⟨left, hmidway, hfailed, -⟩ := hrule
    rcases hmidway.underway with ⟨q, hq, -, -⟩ | hmeets
    · cases List.all_eq_true.mp hfailed _ (List.mem_of_getElem? hq)
    · exact hmet hdescents hmeets

end

theorem firstConnected_keeps {children : List Strategy} {child : Strategy} {i : Nat}
    (hi : children[i]? = some child) (hc : Keeps leaf child path) :
    Keeps leaf (.firstConnected children) (i :: path) := by
  intro c due p w h
  have hlt := (List.getElem?_eq_some_iff.mp hi).1
  rcases h with ⟨rfl, hdue⟩ | h
  · rw [Strategy.delays_cons hi, show (Strategy.firstConnected children).delay = 0 from rfl,
      Nat.zero_add] at hdue
    have hcount : children.length ≠ 0 := by lia
    have hslot : (Race.State.together children.length Progress.unstarted).slots[i]? =
        some (.running .unstarted) := by simp [Race.State.together, hlt]
    have hrace := race_keeps (c := c) (w := w) (p := .unstarted) hi hc
      (.together children.length .unstarted) .together rfl
      (.of_unpolled hslot (.inl ⟨rfl, hdue⟩)) (if_neg hcount)
    show Proceeding due _ _ leaf (if children.length = 0 then _ else _)
    rwa [if_neg hcount]
  · cases h with
    | @racing _ lead order slots failures _ other _ q hcomplete hother hs h =>
      obtain rfl := Option.some.inj (hi.symm.trans hother)
      exact race_keeps (p := .racing lead false order slots failures) hi hc
        ⟨false, order, slots, failures⟩ hcomplete rfl (.of_unpolled hs (.inr h)) rfl

theorem keeps {node : Strategy} (h : Straight leaf node path) : Keeps leaf node path := by
  induction h with
  | leaf =>
    rintro c due p w (⟨rfl, hdue⟩ | h)
    · exact .of_meets (.inr ⟨c, w, .here, hdue⟩) _
    · cases h
  | delayed _ ih => exact delayed_keeps _ ih
  | branch hi _ ih => exact branch_keeps hi ih
  | firstConnected hi _ ih => exact firstConnected_keeps hi ih

end Straight

/-! ### Runs -/

section

variable {root : Strategy} {context : Context} {w₀ : World} {leaf : Leaf} {path : List Nat}

/-- In a punctual run time goes on. -/
theorem PunctualRun.forward {visits : List Visit} {outcome : Poll Progress}
    (run : PunctualRun (root.poll context) w₀ visits outcome) :
    Run (fun w w' => w.now ≤ w'.now) (root.poll context) w₀ visits outcome := by
  induction run with
  | first => exact .first
  | again run hpunctual ih =>
    have hsame := run.run.visited (root.poll_clock context) _ List.mem_cons_self
    exact ih.again (hsame.now.symm ▸ hpunctual.forward)

/-- A punctual run goes down a straight path: a poll comes to its end in time, or leaves it; or the
moment has not come yet; or something else has connected until then. -/
theorem PunctualRun.proceeds (hstraight : Straight leaf root path) {visit : Visit}
    {earlier : List Visit} {outcome : Poll Progress}
    (run : PunctualRun (root.poll context) w₀ (visit :: earlier) outcome) :
    (∃ ask ∈ root.asks context (visit :: earlier),
      ask.Meets path leaf (w₀.now + root.delays path)) ∨
    visit.before.now ≤ w₀.now + root.delays path ∧
      ∀ p, outcome = .pending p → visit.before.now < w₀.now + root.delays path ∧
        Heads visit.before.now (w₀.now + root.delays path) root path p := by
  generalize hdue : w₀.now + root.delays path = due
  have hvisit : ∀ {visit earlier outcome},
      PunctualRun (root.poll context) w₀ (visit :: earlier) outcome →
      Approaches visit.before.now due root path (progressAfter (root.poll context) earlier) →
      (∃ ask ∈ root.asks context (visit :: earlier), ask.Meets path leaf due) ∨
      visit.before.now ≤ due ∧ ∀ p, outcome = .pending p →
        visit.before.now < due ∧ Heads visit.before.now due root path p := by
    intro visit earlier outcome run hin
    have hpolled := hstraight.keeps context due _ visit.before hin
    rw [run.run.latest_eq] at hpolled
    cases outcome with
    | pending p =>
      rcases hpolled with ⟨hheads, hlt⟩ | hmeets
      · refine .inr ⟨hin.le, ?_⟩
        rintro _ ⟨⟩
        exact ⟨hlt, hheads⟩
      · exact .inl ⟨_, List.mem_cons_self, hmeets⟩
    | ready result =>
      cases result with
      | ok connection => exact .inr ⟨hin.le, nofun⟩
      | error e => exact .inl ⟨_, List.mem_cons_self, hpolled⟩
  generalize hvisits : visit :: earlier = visits at run
  induction run generalizing visit earlier with
  | first =>
    obtain ⟨rfl, rfl⟩ := List.cons.inj hvisits
    exact hvisit .first (.inl ⟨rfl, hdue⟩)
  | @again previous before p w run hpunctual ih =>
    obtain ⟨rfl, rfl⟩ := List.cons.inj hvisits
    rcases ih rfl with ⟨ask, hm, hmeets⟩ | ⟨-, hwaits⟩
    · exact .inl ⟨ask, List.mem_cons_of_mem _ hm, hmeets⟩
    · have hheads := (hwaits p rfl).2.later hpunctual.awaited
      rw [← progressAfter_cons run.run.latest_eq] at hheads
      exact hvisit (run.again hpunctual) (.inr hheads)

/-- What is promised of the delays in a run of a tree, the latest visit of which comes first. The
paths are those of child numbers, so no retry of a cached node is on them. -/
structure DelaysAddUp (root : Strategy) (context : Context) (w₀ : World) (latest : Visit)
    (earlier : List Visit) (outcome : Poll Progress) : Prop where
  /-- Every open is made by a leaf at the end of a path. -/
  accounted : ∀ event, event ∈ openings (eventsOf (latest :: earlier)) ↔
    ∃ ask ∈ root.asks context (latest :: earlier), ∃ path, ask.Opens path event
  /-- Nothing on a path is polled before the delays above it are over. -/
  polled : ∀ ask ∈ root.asks context (latest :: earlier), ∀ (path : List Nat) last,
    ask.Leads (path.map .child) last → w₀.now + root.delays path ≤ last.world.now
  /-- So nothing is opened before. -/
  opened : ∀ ask ∈ root.asks context (latest :: earlier), ∀ (path : List Nat) event,
    ask.Opens (path.map .child) event → w₀.now + root.delays path ≤ event.time
  /-- If what is in progress is dropped before, the end of the path has never been opened, and is
  not opened then. -/
  dropped : ∀ p, outcome = .pending p → ∀ w, latest.after.now ≤ w.now →
    OpensNothing w (p.abandon w) ∧
    ∀ path : List Nat, w.now < w₀.now + root.delays path →
      ∀ ask ∈ root.asks context (latest :: earlier), ∀ event, ¬ ask.Opens (path.map .child) event
  /-- On a straight path, on which every branch takes the side of the path, the leaf starts as soon
  as the delays are over, unless the attempt has resolved until then. -/
  starts : PunctualRun (root.poll context) w₀ (latest :: earlier) outcome →
    ∀ path leaf, Straight leaf root path →
    (∀ ask ∈ root.asks context (latest :: earlier), ¬ ask.Strays path) →
    w₀.now + root.delays path ≤ latest.before.now →
    (∀ result, outcome = .ready result → w₀.now + root.delays path < latest.before.now) →
    ∃ ask ∈ root.asks context (latest :: earlier),
      ask.Starts path leaf (w₀.now + root.delays path)

/-- The delays along a path add up: nothing at its end is polled or opened before they are over,
and at the end of a straight path the leaf starts just then. -/
theorem delays_add_up {between : World → World → Prop} {latest : Visit} {earlier : List Visit}
    {outcome : Poll Progress} (hforward : ∀ {w w'}, between w w' → w.now ≤ w'.now)
    (run : Run between (root.poll context) w₀ (latest :: earlier) outcome) :
    DelaysAddUp root context w₀ latest earlier outcome := by
  have hsince := (run.startedSince hforward).1
  have hpolled : ∀ ask ∈ root.asks context (latest :: earlier), ∀ (path : List Nat) last,
      ask.Leads (path.map .child) last →
      w₀.now + root.delays path ≤ last.world.now ∧ last.world.now ≤ latest.after.now := by
    intro ask hm path last hleads
    obtain ⟨rfl, hask, hle⟩ := hsince ask hm
    obtain ⟨hnow, hlast⟩ := hleads.since rfl hask
    exact ⟨hnow ▸ hlast.le, hnow ▸ hle⟩
  have hopened : ∀ ask ∈ root.asks context (latest :: earlier), ∀ (path : List Nat) event,
      ask.Opens (path.map .child) event →
      w₀.now + root.delays path ≤ event.time ∧ event.time ≤ latest.after.now := by
    rintro ask hm path event ⟨last, hleads, hopening⟩
    rw [last.time_of_opening hopening]
    exact hpolled ask hm path last hleads
  refine ⟨run.opens_iff, fun ask hm path last h => (hpolled ask hm path last h).1,
    fun ask hm path event h => (hopened ask hm path event h).1, ?_, ?_⟩
  · rintro p - w hw
    refine ⟨opensNothing.cancel w p.inFlight, fun path hearly ask hm event hopens => ?_⟩
    obtain ⟨hlate, hlatest⟩ := hopened ask hm path event hopens
    lia
  · intro punctual path leaf hstraight hstays hreached hunresolved
    rcases punctual.proceeds hstraight with ⟨ask, hm, hstrays | hstarts⟩ | ⟨hle, hwaits⟩
    · exact absurd hstrays (hstays ask hm)
    · exact ⟨ask, hm, hstarts⟩
    · -- the attempt has come to the moment, so it cannot be waiting for it
      cases outcome with
      | pending p =>
        have hlt := (hwaits p rfl).1
        lia
      | ready result =>
        have hlt := hunresolved result rfl
        lia

end

/-- A transport that never answers. -/
def stairLeaf (name : String) : Leaf := ⟨name, "x", 1, 0, [], none⟩

/-- The second transport waits for two delays, one below the other. -/
def stairRoot : Strategy :=
  .firstConnected [
    .transport (stairLeaf "a"),
    .delayed (Duration.ofMillis 500)
      (.branch (.constant true)
        (.delayed (Duration.ofMillis 250) (.transport (stairLeaf "b")))
        (.unsupported "c"))]

def stairWorld : World := .initial 0 [⟨"x", true, true, .scripted [.hang]⟩] []

/-- A race of the first transport with what is in progress below the first delay. -/
def stairProgress (second : Progress) : Progress :=
  .racing none false [0, 1] [.running (.opening 1 0 none), .running second] []

def stairVisit (p : Progress) (w : World) : Visit := ⟨w, (stairRoot.poll .plain p w).2⟩

def stairFirst : Visit := stairVisit .unstarted stairWorld

def stairSecond : Visit :=
  stairVisit (stairProgress (.waiting ⟨Duration.ofMillis 500, 0⟩))
    { stairFirst.after with now := Duration.ofMillis 500 }

def stairThird : Visit :=
  stairVisit
    (stairProgress (.delegated (.branched true (.waiting ⟨Duration.ofMillis 750, 0⟩))))
    { stairSecond.after with now := Duration.ofMillis 750 }

/-- The second transport is opened in the third visit. -/
theorem delays_add_up_third_visit :
    Straight (stairLeaf "b") stairRoot [1, 0, 0, 0] ∧
      stairRoot.delays [1, 0, 0, 0] = Duration.ofMillis 750 ∧
      openings (eventsOf [stairThird, stairSecond, stairFirst]) =
        [.opened 2 (stairLeaf "b") ⟨"b", none, false, []⟩ (Duration.ofMillis 750),
          .opened 1 (stairLeaf "a") ⟨"a", none, false, []⟩ 0] ∧
      ∃ p, PunctualRun (stairRoot.poll .plain) stairWorld
          [stairThird, stairSecond, stairFirst] (.pending p) ∧
        DelaysAddUp stairRoot .plain stairWorld stairThird [stairSecond, stairFirst]
          (.pending p) := by
  have hfirst : PunctualRun (stairRoot.poll .plain) stairWorld [stairFirst]
      (.pending (stairProgress (.waiting ⟨Duration.ofMillis 500, 0⟩))) := .first
  have hsecond : PunctualRun (stairRoot.poll .plain) stairWorld [stairSecond, stairFirst]
      (.pending (stairProgress (.delegated (.branched true
        (.waiting ⟨Duration.ofMillis 750, 0⟩))))) :=
    hfirst.again (w := { stairFirst.after with now := Duration.ofMillis 500 })
      ⟨by decide, by decide, by decide⟩
  have hthird : PunctualRun (stairRoot.poll .plain) stairWorld
      [stairThird, stairSecond, stairFirst]
      (.pending (stairProgress (.delegated (.branched true
        (.delegated (.opening 2 (Duration.ofMillis 750) none)))))) :=
    hsecond.again (w := { stairSecond.after with now := Duration.ofMillis 750 })
      ⟨by decide, by decide, by decide⟩
  exact ⟨.firstConnected rfl (.delayed (.branch rfl (.delayed .leaf))), rfl, rfl, _, hthird,
    delays_add_up id hthird.forward⟩

end Dialplan
