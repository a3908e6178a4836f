import Dialplan.Proofs.Polling.Clock
import Dialplan.Proofs.Polling.Descents
import Dialplan.Proofs.Polling.Parts

/-! Delays along paths. What is in progress below a delayed node has been started only after its
delay, and what is below that only after the delays in between too; polls keep it so
(`Strategy.keepsSince`), and so does a run (`Run.startedSince`). Hence whatever a run polls at the
end of a path of children, it polls after all delays on the path (`Ask.Leads.since`). -/

namespace Dialplan

namespace Strategy

/-- How long a node waits before it polls anything below. -/
def delay : Strategy → Duration
  | delayed delay _ => delay
  | _ => 0

/-- The delays of the nodes on a path of child numbers, added up. -/
def delays : Strategy → List Nat → Duration
  | _, [] => 0
  | node, i :: path =>
    node.delay +
      match node.children[i]? with
      | some child => delays child path
      | none => 0

theorem delays_cons {node child : Strategy} {i : Nat} (hi : node.children[i]? = some child)
    (path : List Nat) : node.delays (i :: path) = node.delay + child.delays path := by
  rw [delays, hi]

end Strategy

open Progress (Part)

/-- What is in progress at a node has been started at some moment or later: nothing below has been
started before the delay of the node was over. -/
inductive Since : Strategy → Instant → Instant → Progress → Prop where
  | intro {node start now p} : start ≤ now →
      (∀ timer, p = .waiting timer → start + node.delay ≤ timer.deadline) →
      (∀ i child q, Part p [i] q → node.children[i]? = some child →
        Since child (start + node.delay) now q) →
      Since node start now p

namespace Since

variable {node : Strategy} {start now : Instant} {p : Progress}

theorem le (h : Since node start now p) : start ≤ now := by
  cases h with
  | intro hle _ _ => exact hle

theorem part (h : Since node start now p) {i : Nat} {child : Strategy} {q : Progress}
    (hq : Part p [i] q) (hi : node.children[i]? = some child) :
    Since child (start + node.delay) now q := by
  cases h with
  | intro _ _ hparts => exact hparts i child q hq hi

theorem deadline {timer : Timer} (h : Since node start now (.waiting timer)) :
    start + node.delay ≤ timer.deadline := by
  cases h with
  | intro _ hwaiting _ => exact hwaiting timer rfl

theorem later (h : Since node start now p) {now' : Instant} (hnow : now ≤ now') :
    Since node start now' p := by
  induction h with
  | intro hle hwaiting _ ih =>
    exact .intro (Nat.le_trans hle hnow) hwaiting fun i child q hq hi => ih i child q hq hi hnow

theorem unstarted (h : start ≤ now) : Since node start now .unstarted :=
  .intro h nofun fun _ _ _ hq => nomatch hq

theorem waiting (h : start ≤ now) {timer : Timer}
    (htimer : start + node.delay ≤ timer.deadline) : Since node start now (.waiting timer) := by
  refine .intro h ?_ fun _ _ _ hq => nomatch hq
  rintro _ ⟨⟩
  exact htimer

/-- Something that has nothing in progress below but one part. -/
theorem wrap (h : start ≤ now) {outer : Progress} {i : Nat}
    (hwaits : ∀ timer, outer ≠ .waiting timer)
    (honly : ∀ {j q}, Part outer [j] q → j = i ∧ q = p)
    (hp : ∀ child, node.children[i]? = some child → Since child (start + node.delay) now p) :
    Since node start now outer := by
  refine .intro h (fun timer hw => absurd hw (hwaits timer)) fun j child q hq hj => ?_
  obtain ⟨rfl, rfl⟩ := honly hq
  exact hp child hj

theorem racing (h : start ≤ now) {lead : Option (Nat × Timer)} {state : Race.State Progress}
    (hp : Race.Running (fun i q => ∀ child, node.children[i]? = some child →
      Since child (start + node.delay) now q) state.slots) :
    Since node start now (.ofRace lead state) := by
  refine .intro h nofun fun i child q hq hi => ?_
  cases hq with
  | running hs hq =>
    cases hq
    exact hp i q hs child hi

end Since

/-- What still waits after a poll has been started at some moment or later. -/
def SincePolled (node : Strategy) (start now : Instant) : Poll Progress × World → Prop :=
  Poll.Yields (fun p _ => Since node start now p) (fun _ _ => True) fun _ _ => True

/-- What is polled below a node has been started after the delay of the node. -/
def SinceBelow (node : Strategy) (start now : Instant) (descents : List Descent) : Prop :=
  ∀ descent ∈ descents, ∀ i child, descent.step = .child i → node.children[i]? = some child →
    descent.world.now = now ∧ Since child (start + node.delay) now descent.progress

theorem SinceBelow.nil {node : Strategy} {start now : Instant} : SinceBelow node start now [] :=
  nofun

theorem SinceBelow.one {node : Strategy} {start now : Instant} {i : Nat} {p : Progress} {w : World}
    (hnow : w.now = now)
    (h : ∀ child, node.children[i]? = some child → Since child (start + node.delay) now p) :
    SinceBelow node start now [.toChild i p w] := by
  refine List.forall_mem_singleton.mpr fun j child hj hchild => ?_
  obtain rfl : i = j := Step.child.inj hj
  exact ⟨hnow, h child hchild⟩

namespace Strategy

/-- Polls of a node start nothing early. -/
def KeepsSince (node : Strategy) : Prop :=
  ∀ c start p w, Since node start w.now p → SincePolled node start w.now (node.poll c p w) ∧
    SinceBelow node start w.now (node.descents c p w)

theorem transport_keepsSince (leaf : Leaf) : (transport leaf).KeepsSince := by
  intro c start p w h
  have hopening : ∀ number started answer (w' : World),
      SincePolled (.transport leaf) start w.now (leaf.pollOpening number started answer w') :=
    fun number started answer w' => leaf.pollOpening_rule number started answer w'
      (fun _ => .intro h.le nofun fun _ _ _ hq => nomatch hq) trivial fun _ => trivial
  refine ⟨leaf.poll_rule c p w ?_ (fun _ _ => trivial) ?_, .nil⟩
  · exact fun number started answer _ => hopening number started answer w
  · exact fun _ answer _ _ => hopening _ _ answer _

theorem delayed_keepsSince (delay : Duration) {child : Strategy} (hc : child.KeepsSince) :
    (delayed delay child).KeepsSince := by
  intro c start p w h
  have hchild : ∀ q, Since child (start + delay) w.now q →
      SincePolled (delayed delay child) start w.now
        ((child.poll c q w).1.map Progress.delegated, (child.poll c q w).2) := fun q hq =>
    Poll.Yields.map ((hc c _ q w hq).1.mono fun q' _ hq' =>
      .wrap h.le nofun (fun | .delegated .self => ⟨rfl, rfl⟩) fun _ hi =>
        Option.some.inj hi ▸ hq')
  have hbelow : ∀ q, Since child (start + delay) w.now q →
      SinceBelow (delayed delay child) start w.now [.toChild 0 q w] := fun q hq =>
    .one rfl fun _ hi => Option.some.inj hi ▸ hq
  have hwait : ∀ timer : Timer, start + delay ≤ timer.deadline →
      SincePolled (delayed delay child) start w.now
        (if timer.isDue w.now then
          ((child.poll c .unstarted w).1.map Progress.delegated, (child.poll c .unstarted w).2)
        else (.pending (.waiting timer), w)) ∧
      SinceBelow (delayed delay child) start w.now
        (if timer.isDue w.now then [.toChild 0 .unstarted w] else []) := by
    intro timer htimer
    by_cases hdue : timer.isDue w.now = true
    · rw [if_pos hdue, if_pos hdue]
      have hq : Since child (start + delay) w.now .unstarted :=
        .unstarted (Nat.le_trans htimer (of_decide_eq_true hdue))
      exact ⟨hchild _ hq, hbelow _ hq⟩
    · rw [if_neg hdue, if_neg hdue]
      exact ⟨.waiting h.le htimer, .nil⟩
  cases p with
  | delegated q =>
    have hq : Since child (start + delay) w.now q := h.part (.delegated .self) rfl
    exact ⟨hchild q hq, hbelow q hq⟩
  | waiting timer => exact hwait timer h.deadline
  | _ => exact hwait (Timer.start w delay) (Nat.add_le_add_right h.le delay)

theorem branch_keepsSince (test : Condition Strategy) {onTrue onFalse : Strategy}
    (ht : onTrue.KeepsSince) (hf : onFalse.KeepsSince) :
    (branch test onTrue onFalse).KeepsSince := by
  intro c start p w h
  let side (outcome : Bool) : Poller := if outcome then onTrue.poll c else onFalse.poll c
  have hside : ∀ (outcome : Bool) q,
      (∀ child, (branch test onTrue onFalse).children[if outcome then 0 else 1]? = some child →
        Since child start w.now q) →
      SincePolled (branch test onTrue onFalse) start w.now
        ((side outcome q w).1.map (Progress.branched outcome), (side outcome q w).2) ∧
      SinceBelow (branch test onTrue onFalse) start w.now
        [.toChild (if outcome then 0 else 1) q w] := by
    intro outcome q hq
    refine ⟨Poll.Yields.map ?_, .one rfl hq⟩
    cases outcome with
    | true =>
      exact (ht c _ q w (hq onTrue rfl)).1.mono fun q' _ hq' =>
        .wrap h.le nofun (fun | .branched .self => ⟨rfl, rfl⟩) fun _ hi => Option.some.inj hi ▸ hq'
    | false =>
      exact (hf c _ q w (hq onFalse rfl)).1.mono fun q' _ hq' =>
        .wrap h.le nofun (fun | .branched .self => ⟨rfl, rfl⟩) fun _ hi => Option.some.inj hi ▸ hq'
  cases p with
  | branched outcome q => exact hside outcome q fun child hi => h.part (.branched .self) hi
  | _ =>
    exact hside (test.holds w.supports c.encrypted) .unstarted fun _ _ => .unstarted h.le

/-! ### Loops -/

/-- What is in progress at the child with a number, if there is one, has been started at some moment
or later. -/
def SinceAt (children : List Strategy) (start now : Instant) (i : Nat) (p : Progress) : Prop :=
  ∀ child, children[i]? = some child → Since child start now p

section

variable {children : List Strategy} (hc : ∀ child ∈ children, child.KeepsSince) (c : Context)
  {start now : Instant}

include hc

theorem pollAt_since {i : Nat} {p : Progress} {w : World} (h : SinceAt children start w.now i p) :
    Poll.Yields (fun p' w' => SinceAt children start w.now i p' ∧ w'.now = w.now)
      (fun _ w' => True ∧ w'.now = w.now) (fun _ w' => True ∧ w'.now = w.now)
      (pollAt children i c p w) := by
  rw [pollAt_eq]
  cases hi : children[i]? with
  | none => exact ⟨h, rfl⟩
  | some child =>
    have hchild := (hc child (List.mem_of_getElem? hi) c start p w (h child hi)).1
    refine Poll.Yields.and (P := fun w' => w'.now = w.now) (hchild.mono fun p' _ hp' => ?_)
      (child.poll_clock c p w).now
    intro other hother
    obtain rfl := Option.some.inj (hi.symm.trans hother)
    exact hp'

theorem race_since {node : Strategy} (hchildren : node.children = children)
    (hdelay : node.delay = 0) (lead : Option (Nat × Timer))
    (onWin : Nat → Connection → World → World) {state : Race.State Progress} {w : World}
    (hle : start ≤ w.now)
    (h : Race.Running (SinceAt children start w.now) state.slots) :
    SincePolled node start w.now
        (pollRace lead (fun i => pollAt children i c) onWin state w) ∧
      SinceBelow node start w.now
        (raceDescents lead (fun i => pollAt children i c) state w) := by
  let inv (state : Race.State Progress) (w' : World) : Prop :=
    w'.now = w.now ∧ Race.Running (SinceAt children start w.now) state.slots
  have look : Race.Looks (fun i => pollAt children i c) inv fun _ _ _ _ => True := by
    rintro state w' i p ⟨hnow, hall⟩ hs
    have hyields := pollAt_since hc c (w := w') (hnow ▸ hall i p hs)
    refine hyields.imp ?_ (fun _ _ _ => trivial) ?_
    · rintro p' w'' ⟨hp', hnow'⟩
      refine ⟨hnow'.trans hnow, hall.set ?_⟩
      rintro _ ⟨⟩
      exact hnow ▸ hp'
    · rintro e w'' ⟨-, hnow'⟩
      exact ⟨hnow'.trans hnow, hall.set nofun⟩
  have release : ∀ state w', inv state w' → inv (state.release .unstarted) w' := by
    rintro state w' ⟨hnow, hall⟩
    exact ⟨hnow, hall.release fun _ _ _ => .unstarted hle⟩
  have hat : ∀ {i p child}, SinceAt children start w.now i p → node.children[i]? = some child →
      Since child (start + node.delay) w.now p := by
    intro i p child hp hi
    rw [hdelay]
    exact hp child (hchildren ▸ hi)
  refine ⟨?_, fun descent hm i child hstep hi => ?_⟩
  · unfold pollRace
    dsimp only
    generalize Option.any _ lead = elapsed
    have hrule := Race.poll_rule .unstarted look release elapsed state ⟨rfl, h⟩
    generalize Race.poll _ _ _ state w = polled at hrule ⊢
    obtain ⟨outcome, w'⟩ := polled
    cases outcome with
    | pending state => exact .racing hle fun i p hs child hi => hat (hrule.2 i p hs) hi
    | won i connection state => trivial
    | lost failures => trivial
  · have hdescend : ∀ state w' i p, inv state w' → state.slots[i]? = some (.running p) →
        ∀ j, Step.child i = .child j → w'.now = w.now ∧ SinceAt children start w.now j p := by
      rintro state w' i p ⟨hnow, hall⟩ hs _ ⟨⟩
      exact ⟨hnow, hall i p hs⟩
    have hall := raceDescents_rule (P := fun descent => ∀ i, descent.step = .child i →
        descent.world.now = w.now ∧ SinceAt children start w.now i descent.progress)
      look hdescend release lead ⟨rfl, h⟩ descent hm i hstep
    exact ⟨hall.1, hat hall.2 hi⟩

theorem firstConnected_keepsSince : (firstConnected children).KeepsSince := by
  intro c start p w h
  have hrace : ∀ state : Race.State Progress,
      Race.Running (SinceAt children start w.now) state.slots →
      SincePolled (firstConnected children) start w.now
          (pollRace none (fun i => pollAt children i c) (fun _ _ w => w) state w) ∧
        SinceBelow (firstConnected children) start w.now
          (raceDescents none (fun i => pollAt children i c) state w) :=
    fun _ hall => race_since hc c rfl rfl none _ h.le hall
  have hstart : SincePolled (firstConnected children) start w.now
        ((firstConnected children).poll c .unstarted w) ∧
      SinceBelow (firstConnected children) start w.now
        ((firstConnected children).descents c .unstarted w) := by
    simp only [poll, pollFirstConnected, descents, firstConnectedDescents]
    split
    · exact ⟨trivial, .nil⟩
    · refine hrace _ (.fresh (fun _ _ _ => .unstarted h.le) fun slot hm => ?_)
      exact .inr (Race.State.eq_of_mem_together hm)
  cases p with
  | racing lead holding order slots failures =>
    exact hrace ⟨holding, order, slots, failures⟩ fun i q hs child hi =>
      h.part (.running hs .self) hi
  | _ => exact hstart

theorem bestConnectedEver_keepsSince (site : Site) :
    (bestConnectedEver site children).KeepsSince := by
  intro c start p w h
  have hrace : ∀ lead onWin (state : Race.State Progress),
      Race.Running (SinceAt children start w.now) state.slots →
      SincePolled (bestConnectedEver site children) start w.now
          (pollRace lead (fun i => pollAt children i c) onWin state w) ∧
        SinceBelow (bestConnectedEver site children) start w.now
          (raceDescents lead (fun i => pollAt children i c) state w) :=
    fun lead onWin _ hall => race_since hc c rfl rfl lead onWin h.le hall
  have hstart : SincePolled (bestConnectedEver site children) start w.now
        ((bestConnectedEver site children).poll c .unstarted w) ∧
      SinceBelow (bestConnectedEver site children) start w.now
        ((bestConnectedEver site children).descents c .unstarted w) := by
    simp only [poll, pollBestConnectedEver, descents, bestConnectedEverDescents]
    split
    · exact ⟨trivial, .nil⟩
    · cases (w.history site children.length).preferred with
      | some lead =>
        refine hrace _ _ _ (.fresh (fun _ _ _ => .unstarted h.le) fun slot hm => ?_)
        exact Race.State.eq_or_eq_of_mem_behind hm
      | none =>
        refine hrace none _ _ (.fresh (fun _ _ _ => .unstarted h.le) fun slot hm => ?_)
        exact .inr (Race.State.eq_of_mem_together hm)
  cases p with
  | racing lead holding order slots failures =>
    exact hrace lead _ ⟨holding, order, slots, failures⟩ fun i q hs child hi =>
      h.part (.running hs .self) hi
  | _ => exact hstart

theorem sequential_keepsSince (options : SequentialOptions) :
    (sequential options children).KeepsSince := by
  intro c start p w h
  let setting := Sequence.settingAt options children.length
    (fun i => (children[i]?.map kindName).getD "") (fun i => pollAt children i c) w
  let busy (i : Nat) (p : Progress) (w' : World) : Prop :=
    w'.now = w.now ∧ SinceAt children start w.now i p
  let idle (w' : World) : Prop := w'.now = w.now
  have look : Sequence.Looks setting busy idle fun _ _ => True := by
    rintro i p w' ⟨hnow, hp⟩
    refine (pollAt_since hc c (w := w') (hnow ▸ hp)).imp ?_ (fun _ _ _ => trivial) ?_
    · rintro p' w'' ⟨hp', hnow'⟩
      have hnow'' : w''.now = w.now := hnow'.trans hnow
      exact ⟨⟨hnow'', hnow ▸ hp'⟩, (p'.now_abandon w'').trans hnow''⟩
    · rintro e w'' ⟨-, hnow'⟩
      exact hnow'.trans hnow
  have begins : ∀ i w', idle w' → busy i .unstarted w' := fun _ _ hnow =>
    ⟨hnow, fun _ _ => .unstarted h.le⟩
  have hphased : ∀ index bound failures phase, p = .sequencing index bound failures phase →
      Sequence.Phased busy idle ⟨index, bound, failures, phase⟩ w := by
    rintro index bound failures phase rfl
    cases phase with
    | trying deadline q => exact ⟨rfl, fun child hi => h.part (.trying .self) hi⟩
    | waitingOut timer => exact rfl
    | rewound => exact rfl
  have hpending : ∀ {polled : Poll (Sequence.State Progress) × World},
      Poll.Yields (Sequence.Phased busy idle) (fun _ _ => True) (fun _ => idle) polled →
      SincePolled (sequential options children) start w.now
        (polled.1.map Progress.ofSequence, polled.2) := by
    intro polled hpolled
    refine Poll.Yields.map (hpolled.imp ?_ (fun _ _ _ => trivial) fun _ _ _ => trivial)
    rintro ⟨index, bound, failures, phase⟩ w' hp
    cases phase with
    | trying deadline q => exact .wrap h.le nofun (fun | .trying .self => ⟨rfl, rfl⟩) hp.2
    | waitingOut timer => exact .intro h.le nofun fun _ _ _ hq => nomatch hq
    | rewound => exact .intro h.le nofun fun _ _ _ hq => nomatch hq
  refine ⟨?_, fun descent hm i child hstep hi => ?_⟩
  · cases p with
    | sequencing index bound failures phase =>
      exact hpending (Sequence.poll_rule look begins _ (hphased _ _ _ _ rfl))
    | _ => exact hpending (Sequence.first_rule look begins rfl)
  · have hall := sequentialDescents_rule (P := fun descent => ∀ i, descent.step = .child i →
        descent.world.now = w.now ∧ SinceAt children start w.now i descent.progress)
      look (fun i p w' hp j hj => Step.child.inj hj ▸ hp) begins rfl hphased descent hm i hstep
    exact ⟨hall.1, hall.2 child hi⟩

end

/-! ### Cached nodes -/

theorem cached_keepsSince (settings : CacheSettings) (transports : TransportTable)
    {child : Strategy} (hc : child.KeepsSince) :
    (cached settings transports child).KeepsSince := by
  intro c start p w h
  let node := cached settings transports child
  let below : Context := { c with encrypted := settings.encrypted }
  have huncached : ∀ started q w', w'.now = w.now → Since child start w.now q →
      SincePolled node start w.now (pollUncached settings (child.poll below) started q w') ∧
        SinceBelow node start w.now [.toChild 0 q w'] := by
    intro started q w' hnow hq
    refine ⟨?_, .one hnow fun _ hi => Option.some.inj hi ▸ hq⟩
    have hyields := (hc below start q w' (hnow ▸ hq)).1
    unfold pollUncached
    generalize child.poll below q w' = polled at hyields ⊢
    obtain ⟨answer, w''⟩ := polled
    cases answer with
    | pending q' =>
      exact .wrap h.le nofun (fun | .uncached .self => ⟨rfl, rfl⟩) fun _ hi =>
        Option.some.inj hi ▸ hnow ▸ hyields
    | ready result => cases result <;> trivial
  have hretry : ∀ timer started name q,
      SincePolled node start w.now (pollRetry settings (fun name => pollNamed transports name below)
          (child.poll below) timer started name q w) ∧
        SinceBelow node start w.now (retryDescents settings
          (fun name => pollNamed transports name below) timer name q w) := by
    intro timer started name q
    have hentry : (⟨.entry name, q, w⟩ : Descent).step = .entry name := rfl
    have hclock : (pollNamed transports name below q w).2.now = w.now := by
      rw [pollNamed_eq]
      exact (pollFound_clock _ below q w).now
    -- the retry has come to nothing
    have hgiveUp : ∀ w' : World, w'.now = w.now →
        SincePolled node start w.now (pollUncached settings (child.poll below) w'.now .unstarted
          (w'.flushCache settings)) ∧
        SinceBelow node start w.now
          [⟨.entry name, q, w⟩, .toChild 0 .unstarted (w'.flushCache settings)] := by
      intro w' hnow
      obtain ⟨hpolled, hbelow⟩ :=
        huncached w'.now .unstarted (w'.flushCache settings) hnow (.unstarted h.le)
      exact ⟨hpolled, List.forall_mem_cons.mpr ⟨nofun, hbelow⟩⟩
    have hretried : SinceBelow node start w.now [⟨.entry name, q, w⟩] :=
      List.forall_mem_singleton.mpr nofun
    unfold pollRetry retryDescents
    dsimp only
    generalize pollNamed transports name below q w = polled at hclock ⊢
    obtain ⟨answer, w'⟩ := polled
    cases answer with
    | pending q' =>
      dsimp only
      split
      · exact hgiveUp (q'.abandon w') ((q'.now_abandon w').trans hclock)
      · refine ⟨.wrap h.le nofun (fun | .retrying .self => ⟨rfl, rfl⟩) ?_, hretried⟩
        exact fun _ hi => nomatch hi
    | ready result =>
      cases result with
      | error e => exact hgiveUp w' hclock
      | ok connection => exact ⟨trivial, hretried⟩
  have hstart : SincePolled node start w.now (node.poll c .unstarted w) ∧
      SinceBelow node start w.now (node.descents c .unstarted w) := by
    simp only [node, poll, pollCached, descents, cachedDescents]
    have hbegins := huncached w.now .unstarted w rfl (.unstarted h.le)
    cases freshRecord? settings w with
    | none => exact hbegins
    | some cached =>
      dsimp only
      split
      · exact hretry _ _ _ _
      · exact hbegins
  cases p with
  | retrying timer started name q => exact hretry timer started name q
  | uncached started q => exact huncached started q w rfl (h.part (.uncached .self) rfl)
  | _ => exact hstart

theorem keepsSince (node : Strategy) : node.KeepsSince := by
  induction node using nodeInduction with
  | transport leaf => exact transport_keepsSince leaf
  | unsupported name => exact fun _ _ _ _ _ => ⟨trivial, .nil⟩
  | delayed delay child ih => exact delayed_keepsSince delay ih
  | sequential options children ih => exact sequential_keepsSince ih options
  | cached settings transports child _ ih => exact cached_keepsSince settings transports ih
  | firstConnected children ih => exact firstConnected_keepsSince ih
  | bestConnectedEver site children ih => exact bestConnectedEver_keepsSince ih site
  | branch test onTrue onFalse _ ihTrue ihFalse => exact branch_keepsSince test ihTrue ihFalse

end Strategy

/-! ### Runs -/

/-- What a poll goes down to along a path of children has been started after all delays on it. -/
theorem Ask.Leads.since {ask last : Ask} {steps : List Step} (h : ask.Leads steps last)
    {path : List Nat} (hpath : steps = path.map .child) {start : Instant}
    (hsince : Since ask.node start ask.world.now ask.progress) :
    last.world.now = ask.world.now ∧
      Since last.node (start + ask.node.delays path) ask.world.now last.progress := by
  induction h generalizing path start with
  | here =>
    obtain rfl := List.map_eq_nil_iff.mp hpath.symm
    exact ⟨rfl, hsince⟩
  | @down ask descent child steps last hm hchild hleads ih =>
    obtain ⟨i, rest, rfl, hi, hrest⟩ := List.map_eq_cons_iff.mp hpath.symm
    rw [← hi] at hchild
    obtain ⟨hnow, hp⟩ :=
      (ask.node.keepsSince ask.context start ask.progress ask.world hsince).2 descent hm i child
        hi.symm hchild
    obtain ⟨hlast, hsince⟩ := ih hrest.symm (hnow.symm ▸ hp)
    rw [Strategy.delays_cons hchild, ← Nat.add_assoc]
    exact ⟨hlast.trans hnow, hnow ▸ hsince⟩

/-- What is in progress after some visits, the latest of which comes first. -/
def progressAfter (poller : Poller) : List Visit → Progress
  | [] => .unstarted
  | visit :: earlier =>
    match (poller (progressAfter poller earlier) visit.before).1 with
    | .pending p => p
    | .ready _ => .unstarted

/-- The polls of a tree in a run with these visits. -/
def Strategy.asks (root : Strategy) (context : Context) : List Visit → List Ask
  | [] => []
  | visit :: earlier =>
    ⟨root, context, progressAfter (root.poll context) earlier, visit.before⟩ ::
      root.asks context earlier

section

variable {between : World → World → Prop} {poller : Poller} {root : Strategy} {context : Context}
  {w₀ : World} {visits earlier : List Visit} {visit : Visit} {outcome : Poll Progress}

theorem progressAfter_cons {p : Progress}
    (h : poller (progressAfter poller earlier) visit.before = (.pending p, visit.after)) :
    progressAfter poller (visit :: earlier) = p := by
  rw [progressAfter, h]

/-- The visits of a run tell what its polls took up. -/
theorem Run.latest_eq (run : Run between poller w₀ (visit :: earlier) outcome) :
    poller (progressAfter poller earlier) visit.before = (outcome, visit.after) := by
  generalize hvisits : visit :: earlier = visits at run
  induction run generalizing visit earlier with
  | first =>
    obtain ⟨rfl, rfl⟩ := List.cons.inj hvisits
    rfl
  | again _ _ ih =>
    obtain ⟨rfl, rfl⟩ := List.cons.inj hvisits
    rw [progressAfter_cons (ih rfl)]

/-- The opens of a run are those of its polls. -/
theorem Run.opens_iff (run : Run between (root.poll context) w₀ visits outcome) (event : Event) :
    event ∈ openings (eventsOf visits) ↔
      ∃ ask ∈ root.asks context visits, ∃ path, ask.Opens path event := by
  have hvisit : ∀ {visit earlier outcome},
      Run between (root.poll context) w₀ (visit :: earlier) outcome →
      (event ∈ openings visit.events ↔ ∃ path,
        Ask.Opens ⟨root, context, progressAfter (root.poll context) earlier, visit.before⟩ path
          event) := by
    intro visit earlier outcome run
    obtain ⟨added, hlog, hadded⟩ := root.poll_opens context
      (progressAfter (root.poll context) earlier) visit.before
    rw [run.latest_eq] at hlog
    rw [Visit.events_eq hlog, hadded]
  induction run with
  | first =>
    have run : Run between (root.poll context) w₀ _ _ := .first
    simpa [eventsOf, Strategy.asks] using hvisit run
  | @again visit earlier p w run hb ih =>
    rw [eventsOf, List.flatMap_cons, openings, List.filter_append, List.mem_append]
    exact (or_congr (hvisit (run.again hb)) ih).trans (by simp [Strategy.asks])

/-- Whatever is in progress in a run has been started when the run began or later. -/
theorem Run.startedSince (hforward : ∀ {w w'}, between w w' → w.now ≤ w'.now)
    (run : Run between (root.poll context) w₀ (visit :: earlier) outcome) :
    (∀ ask ∈ root.asks context (visit :: earlier), ask.node = root ∧
      Since root w₀.now ask.world.now ask.progress ∧ ask.world.now ≤ visit.after.now) ∧
    ∀ p, outcome = .pending p → Since root w₀.now visit.after.now p := by
  have hclock : ∀ {visit earlier outcome},
      Run between (root.poll context) w₀ (visit :: earlier) outcome →
      visit.after.now = visit.before.now :=
    fun run => (run.visited (root.poll_clock context) _ List.mem_cons_self).now
  -- what a visit that takes up something so started leaves
  have hvisit : ∀ {visit earlier outcome},
      Run between (root.poll context) w₀ (visit :: earlier) outcome →
      Since root w₀.now visit.before.now (progressAfter (root.poll context) earlier) →
      ∀ p, outcome = .pending p → Since root w₀.now visit.after.now p := by
    rintro visit earlier _ run hsince p rfl
    have hpolled := (root.keepsSince context _ _ visit.before hsince).1
    rw [run.latest_eq] at hpolled
    exact (hclock run).symm ▸ hpolled
  generalize hvisits : visit :: earlier = visits at run
  induction run generalizing visit earlier with
  | first =>
    obtain ⟨rfl, rfl⟩ := List.cons.inj hvisits
    have run : Run between (root.poll context) w₀ _ _ := .first
    have hsince : Since root w₀.now w₀.now .unstarted := .unstarted (Nat.le_refl _)
    exact ⟨List.forall_mem_singleton.mpr ⟨rfl, hsince, Nat.le_of_eq (hclock run).symm⟩,
      hvisit run hsince⟩
  | @again previous before p w run hb ih =>
    obtain ⟨rfl, rfl⟩ := List.cons.inj hvisits
    obtain ⟨hasks, hpending⟩ := ih rfl
    have hlater := hforward hb
    have hsince := (hpending p rfl).later hlater
    rw [← progressAfter_cons run.latest_eq] at hsince
    have hnow := hclock (run.again hb)
    refine ⟨List.forall_mem_cons.mpr ⟨⟨rfl, hsince, Nat.le_of_eq hnow.symm⟩, fun ask hm => ?_⟩,
      hvisit (run.again hb) hsince⟩
    obtain ⟨hnode, hask, hle⟩ := hasks ask hm
    exact ⟨hnode, hask, hnow.symm ▸ Nat.le_trans hle hlater⟩

end

end Dialplan
