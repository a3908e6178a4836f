import Dialplan.Proofs.Build.Nodes
import Dialplan.Proofs.Polling.Clock
import Dialplan.Proofs.Polling.Custody
import Dialplan.Proofs.Timing.Bound

/-! Polls keep time. What is on time at a node is on time after a poll of it, and has settled: it
waits for later moments only, or for an open that is never answered (`Strategy.poll_keepsTime`). No
sequence in the tree may start over. -/

namespace Dialplan

/-- After a poll at some moment: what still waits is on time, and has settled. -/
def OnSchedule (response : Duration) (node : Strategy) (retried : Retried) (now due : Instant) :
    Poll Progress × World → Prop :=
  Poll.Yields
    (fun p w => w.now = now ∧ OnTime response node retried now due p ∧ p.Settled now)
    (fun _ _ => True) (fun _ w => w.now = now)

/-- A poller keeps what is in progress at a node on time. -/
def KeepsTime (response : Duration) (node : Strategy) (poller : Poller) : Prop :=
  ∀ retried due p w, OnTime response node retried w.now due p →
    OnSchedule response node retried w.now due (poller p w)

/-- What has settled, has settled as a part of something that waits for nothing else that is due. -/
theorem Progress.Settled.wrap {now : Instant} {p q : Progress} {i : Nat} (h : p.Settled now)
    (hlater : ∀ timer ∈ q.timers, timer ∈ p.timers ∨ now < timer.deadline)
    (htimers : ∀ timer ∈ p.timers, timer ∈ q.timers)
    (hup : ∀ {path part}, Part p path part → Part q (i :: path) part)
    (hdown : ∀ {path}, Part q path .unstarted → ∃ path', Part p path' .unstarted) :
    q.Settled now where
  later timer hm := by
    rcases hlater timer hm with hm | hnow
    · exact h.later timer hm
    · exact hnow
  waits := by
    rcases h.waits with hne | ⟨path, number, started, hp⟩
    · obtain ⟨timer, hm⟩ := List.exists_mem_of_ne_nil _ hne
      exact .inl (List.ne_nil_of_mem (htimers timer hm))
    · exact .inr ⟨_, number, started, hup hp⟩
  started path hp := by
    obtain ⟨path', hp⟩ := hdown hp
    exact h.started path' hp

/-- A wait that is not over has settled. -/
theorem Progress.settled_of_timer {now : Instant} {p : Progress} {timer : Timer}
    (htimers : p.timers = [timer]) (hnow : now < timer.deadline)
    (hstarted : ∀ path, ¬ Part p path .unstarted) : p.Settled now where
  later other hm := by
    rw [htimers, List.mem_singleton] at hm
    rwa [hm]
  waits := .inl (htimers ▸ List.cons_ne_nil _ _)
  started := hstarted

section

variable {response : Duration}

/-! ### Leaves -/

theorem Leaf.pollOpening_onSchedule (leaf : Leaf) {retried : Retried} {due : Instant}
    (number : Nat) {started : Instant} (answer : Option (Timer × Option Error)) {w : World}
    (hnow : w.now ≤ due) (hdue : started + response ≤ due) :
    OnSchedule response (.transport leaf) retried w.now due
      (leaf.pollOpening number started answer w) := by
  refine leaf.pollOpening_rule number started answer w (fun hwaits => ?_) trivial fun _ => rfl
  refine ⟨rfl, .opening hnow hdue, ⟨fun timer hm => ?_, ?_, fun path hp => by cases hp⟩⟩
  · obtain ⟨⟨_, failure⟩, ha, rfl⟩ := Option.map_eq_some_iff.mp (Option.mem_toList.mp hm)
    refine Timer.not_isDue_iff.mp ?_
    rw [hwaits _ failure ha]
    exact Bool.false_ne_true
  · cases answer with
    | none => exact .inr ⟨[], number, started, .self⟩
    | some answer => exact .inl (List.cons_ne_nil _ _)

theorem Leaf.keepsTime (leaf : Leaf) (context : Context) :
    KeepsTime response (.transport leaf) (leaf.poll context) := by
  intro retried due p w hp
  refine leaf.poll_rule context p w ?_ (fun _ _ => rfl) ?_
  · rintro number started answer rfl
    cases hp with
    | opening hnow hdue => exact leaf.pollOpening_onSchedule number answer hnow hdue
  · intro hnew answer _ _
    cases hp with
    | unstarted hdue =>
      exact leaf.pollOpening_onSchedule (w := (w.openTransport leaf context.encrypted).2) _ answer
        (Nat.le_trans (Nat.le_add_right _ _) hdue) hdue
    | opening _ _ => exact absurd rfl (hnew _ _ _)

/-- An open that has settled is still in flight when it is polled again at the same moment. -/
theorem Leaf.poll_settled {leaf : Leaf} {context : Context} {number : Nat} {started : Instant}
    {answer : Option (Timer × Option Error)} {w : World}
    (h : Progress.Settled w.now (.opening number started answer)) :
    leaf.poll context (.opening number started answer) w =
      (.pending (.opening number started answer), w) := by
  unfold poll
  dsimp only
  unfold pollOpening
  cases answer with
  | none => rfl
  | some answer =>
    obtain ⟨timer, failure⟩ := answer
    dsimp only
    rw [if_neg (Timer.not_isDue_iff.mpr (h.later timer List.mem_cons_self))]

/-! ### Delays and branches -/

theorem pollDelayed_keepsTime (delay : Duration) {child : Strategy} {poller : Poller}
    (hc : KeepsTime response child poller) :
    KeepsTime response (.delayed delay child) (pollDelayed delay poller) := by
  intro retried due progress w hp
  have hchild : ∀ p, OnTime response child (retried.below 0) w.now due p →
      OnSchedule response (.delayed delay child) retried w.now due
        ((poller p w).1.map Progress.delegated, (poller p w).2) := by
    intro p hp
    refine Poll.Yields.map ((hc _ due p w hp).mono fun p w' ⟨hnow, hp, hs⟩ => ?_)
    refine ⟨hnow, .delegated hp, hs.wrap (fun _ hm => .inl hm) (fun _ hm => hm) .delegated ?_⟩
    rintro _ (_ | hp)
    exact ⟨_, hp⟩
  have hwait : ∀ timer : Timer, w.now ≤ timer.deadline →
      timer.deadline + child.bound response (retried.below 0) ≤ due →
      OnSchedule response (.delayed delay child) retried w.now due
        (if timer.isDue w.now then
          ((poller .unstarted w).1.map Progress.delegated, (poller .unstarted w).2)
        else (.pending (.waiting timer), w)) := by
    intro timer hnow hdue
    split
    · exact hchild .unstarted (.unstarted (by lia))
    · rename_i hwaits
      refine ⟨rfl, .waiting hnow hdue, Progress.settled_of_timer rfl ?_ ?_⟩
      · exact Timer.not_isDue_iff.mp hwaits
      · rintro _ ⟨⟩
  cases hp with
  | unstarted hdue =>
    refine hwait (Timer.start w delay) (Nat.le_add_right _ _) ?_
    rw [Strategy.bound, ← Nat.add_assoc] at hdue
    exact hdue
  | waiting hnow hdue => exact hwait _ hnow hdue
  | delegated hp => exact hchild _ hp

theorem pollBranch_keepsTime {test : Condition Strategy} (condition : World → Bool)
    {onTrue onFalse : Strategy} {pollTrue pollFalse : Poller}
    (ht : KeepsTime response onTrue pollTrue) (hf : KeepsTime response onFalse pollFalse) :
    KeepsTime response (.branch test onTrue onFalse) (pollBranch condition pollTrue pollFalse) := by
  intro retried due progress w hp
  have hwrap : ∀ (outcome : Bool) p, p.Settled w.now →
      Progress.Settled w.now (.branched outcome p) := by
    intro outcome p hs
    refine hs.wrap (fun _ hm => .inl hm) (fun _ hm => hm) .branched fun hpart => ?_
    cases hpart with
    | branched hpart => exact ⟨_, hpart⟩
  have htrue : ∀ p, OnTime response onTrue (retried.below 0) w.now due p →
      OnSchedule response (.branch test onTrue onFalse) retried w.now due
        ((pollTrue p w).1.map (Progress.branched true), (pollTrue p w).2) := fun p hp =>
    Poll.Yields.map ((ht _ due p w hp).mono fun p w' ⟨hnow, hp, hs⟩ =>
      ⟨hnow, .onTrue hp, hwrap true p hs⟩)
  have hfalse : ∀ p, OnTime response onFalse (retried.below 1) w.now due p →
      OnSchedule response (.branch test onTrue onFalse) retried w.now due
        ((pollFalse p w).1.map (Progress.branched false), (pollFalse p w).2) := fun p hp =>
    Poll.Yields.map ((hf _ due p w hp).mono fun p w' ⟨hnow, hp, hs⟩ =>
      ⟨hnow, .onFalse hp, hwrap false p hs⟩)
  cases hp with
  | unstarted hdue =>
    rw [Strategy.bound] at hdue
    unfold pollBranch
    dsimp only
    cases condition w with
    | true => exact htrue _ (.unstarted (by lia))
    | false => exact hfalse _ (.unstarted (by lia))
  | onTrue hp => exact htrue _ hp
  | onFalse hp => exact hfalse _ hp

/-! ### Sequences -/

section

variable {options : SequentialOptions} {children : List Strategy} {poller : Nat → Poller}
  {kind : Nat → String} {retried : Retried} {due : Instant} {w : World}

/-- A try that begins now is on time if the tries from its child on are. -/
theorem begin_onTime {index : Nat} (failures : List Error) (hlt : index < children.length)
    (hdue : w.now +
      Strategy.boundTries response options (children.drop index) index retried ≤ due) :
    OnTime response (.sequential options children) retried w.now due
      (.ofSequence (Sequence.begin
        ⟨options, children.length, kind, poller, .unstarted, Progress.abandon, w.now, w.turn⟩
        index (options.boundOf index) failures)) := by
  have hchild : children[index]? = some children[index] := List.getElem?_eq_getElem hlt
  rw [Strategy.boundTries_drop hchild, ← Nat.add_assoc] at hdue
  refine .trying hchild (.unstarted (Nat.le_refl _)) ?_ ?_
  · intro timer htimer
    obtain ⟨b, -, rfl⟩ := Option.map_eq_some_iff.mp htimer
    exact Nat.le_add_right _ _
  · rwa [SequentialOptions.tryEnd_start]

variable (kind retried due w) in
/-- A sequence that does not start over proceeds on time. -/
theorem pollSequential_proceeds (hloop : options.looping = false)
    (hc : ∀ i child, children[i]? = some child → KeepsTime response child (poller i)) :
    Sequence.Proceeds
      ⟨options, children.length, kind, poller, .unstarted, Progress.abandon, w.now, w.turn⟩
      (fun state w' => w'.now = w.now ∧ OnTime response (.sequential options children) retried
        w.now due (.ofSequence state))
      (fun state w' => w'.now = w.now ∧ OnTime response (.sequential options children) retried
        w.now due (.ofSequence state) ∧ (Progress.ofSequence state).Settled w.now)
      (fun _ _ => True)
      (fun index bound w' => w'.now = w.now ∧ bound = options.boundOf index ∧
        w.now + Strategy.boundTries response options (children.drop (index + 1)) (index + 1)
          retried ≤ due) where
  once := hloop
  index := by
    rintro ⟨index, bound, failures, phase⟩ w' ⟨-, h⟩
    change OnTime _ _ _ _ _ (.sequencing index bound failures phase) at h
    cases h with
    | trying hchild _ _ _ => exact (List.getElem?_eq_some_iff.mp hchild).1
    | waitingOut hlt _ _ => exact hlt
  forward := by
    rintro ⟨index, bound, failures, _⟩ w' ⟨-, h⟩ rfl
    change OnTime _ _ _ _ _ (.sequencing index bound failures .rewound) at h
    cases h
  tries := by
    rintro ⟨index, bound, failures, _⟩ w' deadline s ⟨hnow, h⟩ rfl
    change OnTime _ _ _ _ _ (.sequencing index bound failures (.trying deadline s)) at h
    cases h with
    | trying hchild hs hd hdue =>
      have hstill : w.now ≤ options.tryEnd deadline _ :=
        SequentialOptions.le_tryEnd hs.le_due hd
      have hyields := hc index _ hchild _ _ s w' (hnow.symm ▸ hs)
      rw [hnow] at hyields
      unfold Sequence.tryOnce
      dsimp only
      generalize poller index s w' = polled at hyields ⊢
      obtain ⟨answer, w''⟩ := polled
      cases answer with
      | pending s' =>
        obtain ⟨hnow, hs', hsettled⟩ := hyields
        cases deadline with
        | none =>
          refine ⟨hnow, .trying hchild hs' hd hdue, ?_⟩
          refine hsettled.wrap (fun _ hm => .inl hm) (fun _ hm => hm) .trying fun hpart => ?_
          cases hpart with
          | trying hpart => exact ⟨_, hpart⟩
        | some timer =>
          dsimp only
          split
          · exact ⟨(Progress.now_abandon s' w'').trans hnow, rfl, by lia⟩
          · rename_i hwaits
            refine ⟨hnow, .trying hchild hs' hd hdue, ?_⟩
            refine hsettled.wrap (fun other hm => ?_) (fun _ hm => List.mem_cons_of_mem _ hm)
              .trying fun hpart => ?_
            · rcases List.mem_cons.mp hm with rfl | hm
              · exact .inr (Timer.not_isDue_iff.mp hwaits)
              · exact .inl hm
            · cases hpart with
              | trying hpart => exact ⟨_, hpart⟩
      | ready result =>
        cases result with
        | ok connection => trivial
        | error e =>
          have hnow : w''.now = w.now := hyields
          cases deadline with
          | none => exact ⟨hnow, rfl, by lia⟩
          | some timer =>
            dsimp only
            split
            · exact ⟨hnow, rfl, by lia⟩
            · rename_i hgo
              rw [Bool.or_eq_true, not_or] at hgo
              obtain ⟨hfast, hwaits⟩ := hgo
              rw [SequentialOptions.tryEnd, if_neg hfast] at hdue
              have hlt := (List.getElem?_eq_some_iff.mp hchild).1
              refine ⟨hnow, .waitingOut hlt (hd timer rfl) hdue, ?_⟩
              refine Progress.settled_of_timer rfl (Timer.not_isDue_iff.mp hwaits) ?_
              rintro _ ⟨⟩
  waits := by
    rintro ⟨index, bound, failures, _⟩ w' timer ⟨hnow, h⟩ rfl
    change OnTime _ _ _ _ _ (.sequencing index bound failures (.waitingOut timer)) at h
    cases h with
    | waitingOut hlt htimer hdue =>
      dsimp only
      split
      · exact ⟨hnow, rfl, by lia⟩
      · rename_i hwaits
        refine ⟨hnow, .waitingOut hlt htimer hdue, ?_⟩
        refine Progress.settled_of_timer rfl (Timer.not_isDue_iff.mp hwaits) ?_
        rintro _ ⟨⟩
  begins := by
    rintro index _ w' failures ⟨hnow, rfl, hdue⟩ hlt
    exact ⟨hnow, begin_onTime failures hlt hdue⟩

theorem pollSequential_keepsTime (hloop : options.looping = false)
    (hc : ∀ i child, children[i]? = some child → KeepsTime response child (poller i)) :
    KeepsTime response (.sequential options children)
      (pollSequential options children.length kind poller) := by
  intro retried due progress w hp
  have hproceeds := pollSequential_proceeds kind retried due w hloop hc
  have hrun : ∀ state : Sequence.State Progress,
      OnTime response (.sequential options children) retried w.now due (.ofSequence state) →
      OnSchedule response (.sequential options children) retried w.now due
        ((Sequence.poll ⟨options, children.length, kind, poller, .unstarted, Progress.abandon,
            w.now, w.turn⟩ state w).1.map Progress.ofSequence,
          (Sequence.poll ⟨options, children.length, kind, poller, .unstarted, Progress.abandon,
            w.now, w.turn⟩ state w).2) := by
    intro state hstate
    refine Poll.Yields.map ((Sequence.run_rests hproceeds _ state w ⟨rfl, hstate⟩ ?_).imp
      (fun _ _ h => h) (fun _ _ h => h) ?_)
    · show children.length - state.index ≤ children.length + 2
      lia
    · rintro e w' ⟨_, _, hnow, -, -⟩
      exact hnow
  cases hp with
  | unstarted hdue =>
    unfold pollSequential
    dsimp only
    rw [Sequence.first]
    dsimp only
    split
    · exact rfl
    · rename_i hcount
      exact hrun _ (begin_onTime [] (Nat.pos_of_ne_zero hcount) hdue)
  | trying hchild hs hd hdue =>
    exact hrun ⟨_, _, _, .trying _ _⟩ (.trying hchild hs hd hdue)
  | waitingOut hlt htimer hdue =>
    exact hrun ⟨_, _, _, .waitingOut _⟩ (.waitingOut hlt htimer hdue)

end

/-! ### Races -/

/-- A race within a poll at some moment: all its children that run are on time, and those that are
held back still will be at the end of the head start. -/
structure RaceOnTime (response : Duration) (children : List Strategy) (retried : Retried)
    (now due : Instant) (lead : Option (Nat × Timer)) (state : Race.State Progress) : Prop where
  complete : state.Complete children.length
  running : ∀ (i : Nat) child p, children[i]? = some child → state.slots[i]? = some (.running p) →
    OnTime response child (retried.below i) now due p
  held : state.holding = true → ∃ i timer, lead = some (i, timer) ∧ now ≤ timer.deadline ∧
    timer.deadline + Strategy.boundSlowest response children 0 retried ≤ due

namespace RaceOnTime

variable {children : List Strategy} {retried : Retried} {now due : Instant}
  {lead : Option (Nat × Timer)} {state : Race.State Progress}

/-- Children that start in time for the slowest of them are on time. -/
theorem unstarted {i : Nat} {child : Strategy} (hi : children[i]? = some child)
    (hdue : now + Strategy.boundSlowest response children 0 retried ≤ due) :
    OnTime response child (retried.below i) now due .unstarted := by
  have hle : child.bound response (retried.below i) ≤ _ :=
    Strategy.bound_le_boundSlowest hi retried
  exact .unstarted (by lia)

theorem together (hdue : now + Strategy.boundSlowest response children 0 retried ≤ due) :
    RaceOnTime response children retried now due lead
      (.together children.length .unstarted) where
  complete := .together
  running i child p hi hs := by
    cases Race.State.eq_of_mem_together (List.mem_of_getElem? hs)
    exact unstarted hi hdue
  held h := by cases h

theorem behind {first : Nat} {timer : Timer} (hnow : now ≤ timer.deadline)
    (hdue : timer.deadline + Strategy.boundSlowest response children 0 retried ≤ due) :
    RaceOnTime response children retried now due (some (first, timer))
      (.behind children.length first .unstarted) where
  complete := .behind first
  running i child p hi hs := by
    rcases Race.State.eq_or_eq_of_mem_behind (List.mem_of_getElem? hs) with hslot | hslot
    · cases hslot
    · cases hslot
      exact unstarted hi (by lia)
  held _ := ⟨first, timer, rfl, hnow, hdue⟩

theorem release (h : RaceOnTime response children retried now due lead state) :
    RaceOnTime response children retried now due lead (state.release .unstarted) where
  complete := h.complete.release
  running i child p hi hs := by
    rw [Race.State.release, List.getElem?_map, Option.map_eq_some_iff] at hs
    obtain ⟨slot, hslot, hp⟩ := hs
    cases slot with
    | running q =>
      cases hp
      exact h.running i child p hi hslot
    | failed => cases hp
    | held =>
      cases hp
      cases hh : state.holding with
      | true =>
        obtain ⟨_, timer, -, hnow, hdue⟩ := h.held hh
        exact unstarted hi (by lia)
      | false => exact absurd rfl (h.complete.started hh _ (List.mem_of_getElem? hslot))
  held hh := by cases hh

theorem set (h : RaceOnTime response children retried now due lead state) {i : Nat}
    (slot : Race.Slot Progress) (hheld : slot ≠ .held)
    (hslot : ∀ child p, children[i]? = some child → slot = .running p →
      OnTime response child (retried.below i) now due p) (failures : List Error) :
    RaceOnTime response children retried now due lead
      { state with slots := state.slots.set i slot, failures := failures } where
  complete := h.complete.set i hheld failures
  running j child p hj hs := by
    by_cases hij : i = j
    · subst hij
      rw [List.getElem?_set] at hs
      simp only [↓reduceIte, Option.ite_none_right_eq_some, Option.some.injEq] at hs
      exact hslot child p hj hs.2
    · rw [List.getElem?_set_ne hij] at hs
      exact h.running j child p hj hs
  held := h.held

/-- A race that rests has settled. -/
theorem settled (hrest : state.Resting (lead.any fun (_, timer) => timer.isDue now)
      fun _ p => p.Settled now) :
    Progress.Settled now (.ofRace lead state) where
  later timer hm := by
    rcases Progress.mem_timers_racing.mp hm with ⟨hh, i, rfl⟩ | ⟨i, p, hs, hm⟩
    · exact Timer.not_isDue_iff.mp (Bool.eq_false_iff.mp (hrest.holding hh))
    · exact (hrest.settled i p hs).later timer hm
  waits := by
    obtain ⟨i, p, hs⟩ := hrest.running
    rcases (hrest.settled i p hs).waits with hne | ⟨path, number, started, hp⟩
    · obtain ⟨timer, hm⟩ := List.exists_mem_of_ne_nil _ hne
      exact .inl (List.ne_nil_of_mem (Progress.mem_timers_racing.mpr (.inr ⟨i, p, hs, hm⟩)))
    · exact .inr ⟨i :: path, number, started, .running hs hp⟩
  started path hp := by
    cases hp with
    | running hs hp => exact (hrest.settled _ _ hs).started _ hp

end RaceOnTime

section

variable {children : List Strategy} {poller : Nat → Poller}

/-- A race that still waits after a poll is on time and rests. -/
theorem pollRace_onTime {retried : Retried} {due : Instant} {w : World}
    {lead : Option (Nat × Timer)} {onWin : Nat → Connection → World → World}
    {state : Race.State Progress}
    (hc : ∀ i child, children[i]? = some child → KeepsTime response child (poller i))
    (h : RaceOnTime response children retried w.now due lead state) :
    Poll.Yields
      (fun p w' => w'.now = w.now ∧ p.Settled w.now ∧ ∃ state : Race.State Progress,
        p = .ofRace lead state ∧ RaceOnTime response children retried w.now due lead state ∧
        ∃ (i : Nat) (p : Progress), state.slots[i]? = some (.running p))
      (fun _ _ => True) (fun _ w' => w'.now = w.now) (pollRace lead poller onWin state w) := by
  have settle : Race.Settles poller
      (fun state w' => w'.now = w.now ∧
        RaceOnTime response children retried w.now due lead state)
      (fun _ _ _ _ => True) fun _ p => p.Settled w.now := by
    intro state w' i s ⟨hnow, h⟩ hs
    obtain ⟨child, hchild⟩ := OnTime.child_of_slot h.complete rfl hs
    have hyields := hc i child hchild (retried.below i) due s w'
      (hnow.symm ▸ h.running i child s hchild hs)
    rw [hnow] at hyields
    refine hyields.imp ?_ (fun _ _ _ => trivial) ?_
    · rintro s' w'' ⟨hnow, hs', hsettled⟩
      refine ⟨⟨hnow, h.set (.running s') nofun ?_ state.failures⟩, hsettled⟩
      rintro other _ hother ⟨⟩
      cases hchild.symm.trans hother
      exact hs'
    · exact fun e w'' hnow => ⟨hnow, h.set .failed nofun nofun _⟩
  have hrests := Race.poll_rests .unstarted (lead.any fun (_, timer) => timer.isDue w.now) settle
    (fun _ _ h _ => ⟨h.1, h.2.release⟩) (fun _ _ h => h.2.complete) state ⟨rfl, h⟩
  unfold pollRace
  dsimp only
  generalize Race.poll poller .unstarted _ state w = polled at hrests ⊢
  obtain ⟨outcome, w'⟩ := polled
  cases outcome with
  | pending state =>
    obtain ⟨⟨hnow, h⟩, hrest⟩ := hrests
    exact ⟨hnow, RaceOnTime.settled hrest, state, rfl, h, hrest.running⟩
  | won i connection state => trivial
  | lost failures =>
    obtain ⟨_, ⟨hnow, -⟩, -⟩ := hrests
    exact hnow

theorem pollFirstConnected_keepsTime
    (hc : ∀ i child, children[i]? = some child → KeepsTime response child (poller i)) :
    KeepsTime response (.firstConnected children)
      (pollFirstConnected children.length poller) := by
  intro retried due progress w hp
  have hrace : ∀ state : Race.State Progress,
      RaceOnTime response children retried w.now due none state →
      OnSchedule response (.firstConnected children) retried w.now due
        (pollRace none poller (fun _ _ w => w) state w) := by
    intro state h
    refine (pollRace_onTime hc h).mono ?_
    rintro _ w' ⟨hnow, hsettled, ⟨holding, order, slots, failures⟩, rfl, h, hrunning⟩
    refine ⟨hnow, ?_, hsettled⟩
    cases holding with
    | false => exact .firstConnected h.complete hrunning h.running
    | true =>
      obtain ⟨_, _, hlead, -⟩ := h.held rfl
      cases hlead
  cases hp with
  | unstarted hdue =>
    unfold pollFirstConnected
    dsimp only
    split
    · exact rfl
    · exact hrace _ (.together hdue)
  | firstConnected hcomplete _ hslots => exact hrace ⟨_, _, _, _⟩ ⟨hcomplete, hslots, nofun⟩

theorem pollBestConnectedEver_keepsTime (site : Site)
    (hc : ∀ i child, children[i]? = some child → KeepsTime response child (poller i)) :
    KeepsTime response (.bestConnectedEver site children)
      (pollBestConnectedEver site children.length poller) := by
  intro retried due progress w hp
  have hrace : ∀ lead winner (state : Race.State Progress),
      RaceOnTime response children retried w.now due lead state →
      OnSchedule response (.bestConnectedEver site children) retried w.now due
        (pollRace lead poller (rememberWin site children.length winner) state w) := by
    intro lead winner state h
    refine (pollRace_onTime hc h).mono ?_
    rintro _ w' ⟨hnow, hsettled, ⟨holding, order, slots, failures⟩, rfl, h, hrunning⟩
    exact ⟨hnow, .bestConnectedEver h.complete hrunning h.running h.held, hsettled⟩
  cases hp with
  | unstarted hdue =>
    rw [Strategy.bound] at hdue
    unfold pollBestConnectedEver
    dsimp only
    split
    · exact rfl
    · split
      · refine hrace _ _ _ (.behind (Nat.le_add_right _ _) ?_)
        show w.now + headStart + _ ≤ due
        lia
      · exact hrace _ _ _ (.together (by lia))
  | bestConnectedEver hcomplete _ hslots hheld =>
    exact hrace _ _ ⟨_, _, _, _⟩ ⟨hcomplete, hslots, hheld⟩

end

/-! ### Cached nodes -/

section

variable {settings : CacheSettings} {transports : List (String × Strategy)} {child : Strategy}
  {poller : Poller} {entry : String → Poller}

theorem pollUncached_keepsTime {retried : Retried} {due : Instant} {started : Instant}
    {p : Progress} {w : World} (hc : KeepsTime response child poller)
    (h : OnTime response child (retried.below 0) w.now due p) :
    OnSchedule response (.cached settings transports child) retried w.now due
      (pollUncached settings poller started p w) := by
  have hyields := hc _ due p w h
  unfold pollUncached
  generalize poller p w = polled at hyields ⊢
  obtain ⟨answer, w'⟩ := polled
  cases answer with
  | pending p =>
    obtain ⟨hnow, hp, hs⟩ := hyields
    refine ⟨hnow, .uncached hp, hs.wrap (fun _ hm => .inl hm) (fun _ hm => hm) .uncached
      fun hpart => ?_⟩
    cases hpart with
    | uncached hpart => exact ⟨_, hpart⟩
  | ready result =>
    cases result with
    | ok connection => trivial
    | error e => exact hyields

/-- A retry that still waits after a poll has settled. -/
theorem settled_retrying {now : Instant} {timer : Timer} {started : Instant} {name : String}
    {p : Progress} (h : p.Settled now) (hwaits : now < timer.deadline) :
    Progress.Settled now (.retrying timer started name p) := by
  refine h.wrap (fun other hm => ?_) (fun _ hm => List.mem_cons_of_mem _ hm) .retrying
    fun hpart => ?_
  · rcases List.mem_cons.mp hm with rfl | hm
    · exact .inr hwaits
    · exact .inl hm
  · cases hpart with
    | retrying hpart => exact ⟨_, hpart⟩

/-- A poll of a retry: if its entry waits on, `pending` tells that the retry is on time, and if
not, there is time enough for the strategy below. -/
theorem pollRetry_keepsTime {retried : Retried} {due : Instant} {timer : Timer} {started : Instant}
    {name : String} {p : Progress} {w : World} (hc : KeepsTime response child poller)
    (hdue : w.now + child.bound response (retried.below 0) ≤ due)
    (hentry : Poll.Yields
      (fun p w' => w'.now = w.now ∧ p.Settled w.now ∧ (w.now < timer.deadline →
        OnTime response (.cached settings transports child) retried w.now due
          (.retrying timer started name p)))
      (fun _ _ => True) (fun _ w' => w'.now = w.now) (entry name p w)) :
    OnSchedule response (.cached settings transports child) retried w.now due
      (pollRetry settings entry poller timer started name p w) := by
  have hgiveUp : ∀ w' : World, w'.now = w.now →
      OnSchedule response (.cached settings transports child) retried w.now due
        (pollUncached settings poller w'.now .unstarted (w'.flushCache settings)) := by
    intro w' hnow
    rw [← hnow] at hdue ⊢
    exact pollUncached_keepsTime (w := w'.flushCache settings) hc (.unstarted hdue)
  unfold pollRetry
  dsimp only
  generalize entry name p w = polled at hentry ⊢
  obtain ⟨answer, w'⟩ := polled
  cases answer with
  | pending p =>
    obtain ⟨hnow, hs, hp⟩ := hentry
    dsimp only
    split
    · exact hgiveUp _ ((p.now_abandon w').trans hnow)
    · rename_i hwaits
      have hwaits := Timer.not_isDue_iff.mp hwaits
      rw [hnow] at hwaits
      exact ⟨hnow, hp hwaits, settled_retrying hs hwaits⟩
  | ready result =>
    cases result with
    | ok connection => trivial
    | error e => exact hgiveUp w' hentry

/-- A cached node keeps time: its entries are transports, so a retry takes no more than the
response of one open. -/
theorem pollCached_keepsTime {c : Context} (hc : KeepsTime response child poller)
    (hlisted : ∀ entry ∈ transports, IsDefinition entry) :
    KeepsTime response (.cached settings transports child)
      (pollCached settings (fun name => (Table.find transports name).isSome)
        (fun name => Strategy.pollNamed transports name c) poller) := by
  intro retried due progress w hp
  have hfound : ∀ {name node}, Table.find transports name = some node → ∀ p,
      Strategy.pollNamed transports name c p w = node.poll c p w := by
    intro name node hfind p
    rw [Strategy.pollNamed_eq, hfind]
    rfl
  cases hp with
  | unstarted hdue =>
    rw [Strategy.bound, ← Nat.add_assoc] at hdue
    have hnow : w.now + child.bound response (retried.below 0) ≤ due := by lia
    have hfull : ∀ started, OnSchedule response (.cached settings transports child) retried w.now
        due (pollUncached settings poller started .unstarted w) :=
      fun started => pollUncached_keepsTime hc (.unstarted hnow)
    unfold pollCached
    dsimp only
    split
    · rename_i cached _
      split
      · rename_i hknown
        obtain ⟨node, hfind⟩ := Option.isSome_iff_exists.mp hknown
        refine pollRetry_keepsTime hc hnow ?_
        rw [hfound hfind]
        cases hlisted _ (Table.mem_of_find hfind) with
        | unsupported => exact rfl
        | @transport _ leaf _ =>
          have hopen : OnTime response (.transport leaf) (retried.below 1) w.now (w.now + response)
              .unstarted := .unstarted (Nat.le_refl _)
          refine (leaf.keepsTime c _ _ _ w hopen).mono fun p w' ⟨hnow', hp, hs⟩ =>
            ⟨hnow', hs, fun hwaits => ?_⟩
          cases hretried : retried [] with
          | true =>
            rw [hretried, if_pos rfl] at hdue
            exact .retrying hfind hp hdue
          | false =>
            cases hp with
            | unstarted _ => exact absurd .self (hs.started [])
            | opening _ _ =>
              exact .unforeseen hretried hfind (by lia) hwaits hs
      · exact hfull w.now
    · exact hfull w.now
  | @retrying _ _ _ _ _ _ timer started name node p entryDue hfind hp hdue =>
    have hle := hp.le_due
    have hnow : w.now + child.bound response (retried.below 0) ≤ due := by lia
    unfold pollCached
    dsimp only
    refine pollRetry_keepsTime hc hnow ?_
    rw [hfound hfind]
    cases hlisted _ (Table.mem_of_find hfind) with
    | unsupported => exact rfl
    | @transport _ leaf _ =>
      exact (leaf.keepsTime c _ _ _ w hp).mono fun p w' ⟨hnow, hp, hs⟩ =>
        ⟨hnow, hs, fun _ => .retrying hfind hp hdue⟩
  | unforeseen hno hfind hnow hwaits hs =>
    -- polled again at the moment at which it began, the retry waits as before
    unfold pollCached pollRetry
    dsimp only
    rw [hfound hfind, Strategy.poll, Leaf.poll_settled hs]
    dsimp only
    rw [if_neg (Timer.not_isDue_iff.mpr hwaits)]
    exact ⟨rfl, .unforeseen hno hfind hnow hwaits hs, settled_retrying hs hwaits⟩
  | uncached hp => exact pollUncached_keepsTime hc hp

end

end

/-! ### Trees -/

namespace Strategy

/-- No sequence in the tree starts over. -/
def Loopless (root : Strategy) : Prop :=
  ∀ {path options children}, root.descendant? path = some (.sequential options children) →
    options.looping = false

theorem Loopless.child {node child : Strategy} {i : Nat} (h : node.Loopless)
    (hi : node.children[i]? = some child) : child.Loopless := by
  intro path options children hd
  have hbelow : node.descendant? (i :: path) = some (.sequential options children) := by
    rw [descendant?, hi]
    exact hd
  exact h hbelow

/-- In a tree that does not start over, and whose cached nodes list transports only, every poll
keeps time. -/
theorem poll_keepsTime {response : Duration} (node : Strategy) : ∀ {c : Context}, node.Loopless →
    (∀ {settings transports child}, Within (.cached settings transports child) node →
      ∀ entry ∈ transports, IsDefinition entry) →
    KeepsTime response node (node.poll c) := by
  have hat : ∀ {node : Strategy} {c : Context}, node.Loopless →
      (∀ {settings transports child}, Within (.cached settings transports child) node →
        ∀ entry ∈ transports, IsDefinition entry) →
      (∀ child ∈ node.children, Within child node) →
      (∀ child ∈ node.children, ∀ {c : Context}, child.Loopless →
        (∀ {settings transports inner}, Within (.cached settings transports inner) child →
          ∀ entry ∈ transports, IsDefinition entry) →
        KeepsTime response child (child.poll c)) →
      ∀ i child, node.children[i]? = some child →
        KeepsTime response child (pollAt node.children i c) := by
    intro node c hloop hlisted hwithin ih i child hi
    have hm := List.mem_of_getElem? hi
    have hpoll : pollAt node.children i c = child.poll c := by
      rw [pollAt_eq, hi]
      rfl
    rw [hpoll]
    exact ih child hm (hloop.child hi) fun hw => hlisted (hw.trans (hwithin child hm))
  induction node using Strategy.nodeInduction with
  | transport leaf => exact fun _ _ => leaf.keepsTime _
  | unsupported name =>
    intro c _ _ retried due p w hp
    exact rfl
  | delayed delay child ih =>
    intro c hloop hlisted
    exact pollDelayed_keepsTime delay
      (ih (hloop.child (i := 0) rfl) fun hw => hlisted (.delayed hw))
  | sequential options children ih =>
    intro c hloop hlisted
    have hself : (Strategy.sequential options children).descendant? [] =
        some (.sequential options children) := rfl
    have honce := hloop hself
    exact pollSequential_keepsTime honce
      (hat hloop hlisted (fun child hm => .sequential hm .self) ih)
  | cached settings transports child _ ihChild =>
    intro c hloop hlisted
    exact pollCached_keepsTime
      (ihChild (hloop.child (i := 0) rfl) fun hw => hlisted (.cached hw)) (hlisted .self)
  | firstConnected children ih =>
    intro c hloop hlisted
    exact pollFirstConnected_keepsTime
      (hat hloop hlisted (fun child hm => .firstConnected hm .self) ih)
  | bestConnectedEver site children ih =>
    intro c hloop hlisted
    exact pollBestConnectedEver_keepsTime site
      (hat hloop hlisted (fun child hm => .bestConnectedEver hm .self) ih)
  | branch test onTrue onFalse _ ihTrue ihFalse =>
    intro c hloop hlisted
    exact pollBranch_keepsTime _
      (ihTrue (hloop.child (i := 0) rfl) fun hw => hlisted (.onTrue hw))
      (ihFalse (hloop.child (i := 1) rfl) fun hw => hlisted (.onFalse hw))

end Strategy

end Dialplan
