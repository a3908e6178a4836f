import Dialplan.Proofs.Polling.InFlight

/-! Custody of opens. What is in progress answers for its opens in flight: each is settled
once, or handed on to the next poll. The laws are about single events, an open, its failure,
its connection, its being given up, with whatever else is in flight beside it; then every
poll of a tree obeys them as a whole (`CustodyAt.poll`). -/

namespace Dialplan

variable {owns : World → Context → Leaf → Nat → Prop} {inv : World → Multiset Nat → Prop}
  {won : Strategy → Context → Connection → World → Multiset Nat → Prop}

/-- Laws of custody. `inv` is kept as long as nothing has connected, and `won` holds at every
node that hands the connection on from the success on, both of a world with some opens in
flight; `owns` tells whose an open is, and under which demands it was made. -/
structure Custody (owns : World → Context → Leaf → Nat → Prop)
    (inv : World → Multiset Nat → Prop)
    (won : Strategy → Context → Connection → World → Multiset Nat → Prop) : Prop where
  kept : ∀ {w w' c leaf number}, Grows w w' → owns w c leaf number → owns w' c leaf number
  failed : ∀ {w number rest}, inv w (number ::ₘ rest) → inv (w.fail number) rest
  connected : ∀ {w c leaf number started rest}, owns w c leaf number → inv w (number ::ₘ rest) →
    won (.transport leaf) c (w.connect leaf number started).1 (w.connect leaf number started).2
      rest
  cancelled : ∀ {w number rest}, inv w (number ::ₘ rest) →
    inv (w.record (.cancelled number w.now)) rest
  released : ∀ {node c connection w number rest}, won node c connection w (number ::ₘ rest) →
    won node c connection (w.record (.cancelled number w.now)) rest
  passed : ∀ {node c child c' connection w rest}, node.passesOn = true →
    Strategy.Delegates node c child c' → won child c' connection w rest →
    won node c connection w rest
  remembered : ∀ {site children c child c' connection w rest} history,
    Strategy.Delegates (.bestConnectedEver site children) c child c' →
    won child c' connection w rest →
    won (.bestConnectedEver site children) c connection (w.setHistory site history) rest

/-- After a poll, with some other opens in flight: what is still in progress is held and
in custody, and of what is over nothing is left in flight. -/
def Settles (holds : World → Progress → Prop) (inv : World → Multiset Nat → Prop)
    (won : Connection → World → Multiset Nat → Prop) (rest : Multiset Nat) :
    Poll Progress × World → Prop :=
  Poll.Yields (fun p w => holds w p ∧ inv w (p.inFlight + rest))
    (fun connection w => won connection w rest) (fun _ w => inv w rest)

/-- A poller that holds what is in progress obeys the laws, whatever else is in flight. -/
def Obeys (holds : World → Progress → Prop) (inv : World → Multiset Nat → Prop)
    (won : Connection → World → Multiset Nat → Prop) (poller : Poller) : Prop :=
  ∀ progress w rest, holds w progress → inv w (progress.inFlight + rest) →
    Settles holds inv won rest (poller progress w)

/-- A poller of a node obeys the laws there. -/
abbrev ObeysAt (owns : World → Context → Leaf → Nat → Prop) (inv : World → Multiset Nat → Prop)
    (won : Strategy → Context → Connection → World → Multiset Nat → Prop) (node : Strategy)
    (c : Context) : Poller → Prop :=
  Obeys (fun w => Holds (owns w) node c) inv (won node c)

/-- A poller of what was looked up obeys the laws, if anything was found. -/
abbrev ObeysFound (owns : World → Context → Leaf → Nat → Prop)
    (inv : World → Multiset Nat → Prop)
    (won : Strategy → Context → Connection → World → Multiset Nat → Prop)
    (found : Option Strategy) (c : Context) : Poller → Prop :=
  Obeys (fun w p => ∀ node, found = some node → Holds (owns w) node c p) inv
    (fun connection w rest => ∃ node, found = some node ∧ won node c connection w rest)

namespace Custody

variable (custody : Custody owns inv won) {c : Context}

include custody

theorem cancel {w : World} {numbers : List Nat} {rest : Multiset Nat}
    (h : inv w (numbers + rest)) : inv (w.cancel numbers) rest := by
  unfold World.cancel
  induction numbers generalizing w with
  | nil => simpa using h
  | cons number more ih =>
    rw [← Multiset.cons_coe, Multiset.cons_add] at h
    exact ih (custody.cancelled h)

theorem release {node : Strategy} {connection : Connection} {w : World} {numbers : List Nat}
    {rest : Multiset Nat} (h : won node c connection w (numbers + rest)) :
    won node c connection (w.cancel numbers) rest := by
  unfold World.cancel
  induction numbers generalizing w with
  | nil => simpa using h
  | cons number more ih =>
    rw [← Multiset.cons_coe, Multiset.cons_add] at h
    exact ih (custody.released h)

theorem holds_mono {w w' : World} {node : Strategy} {p : Progress} (hg : Grows w w')
    (h : Holds (owns w) node c p) : Holds (owns w') node c p :=
  h.mono fun _ _ _ => custody.kept hg

theorem delayed (delay : Duration) {child : Strategy} {poller : Poller}
    (hc : ObeysAt owns inv won child c poller) :
    ObeysAt owns inv won (.delayed delay child) c (pollDelayed delay poller) := by
  intro progress w rest hp hi
  have hchild : ∀ p, Holds (owns w) child c p → inv w (p.inFlight + rest) →
      Settles (fun w => Holds (owns w) (.delayed delay child) c) inv
        (won (.delayed delay child) c) rest
        ((poller p w).1.map Progress.delegated, (poller p w).2) := by
    intro p hp hi
    refine Poll.Yields.map ((hc p w rest hp hi).imp ?_ ?_ fun _ _ h => h)
    · exact fun p w' h => ⟨.delegated h.1, h.2⟩
    · exact fun connection w' h => custody.passed rfl .delayed h
  have hwait : ∀ timer : Timer, inv w (0 + rest) →
      Settles (fun w => Holds (owns w) (.delayed delay child) c) inv
        (won (.delayed delay child) c) rest
        (if timer.isDue w.now then
          ((poller .unstarted w).1.map Progress.delegated, (poller .unstarted w).2)
        else (.pending (.waiting timer), w)) := by
    intro timer hi
    split
    · exact hchild .unstarted .unstarted hi
    · exact ⟨.waiting, hi⟩
  cases hp with
  | unstarted => exact hwait _ hi
  | waiting => exact hwait _ hi
  | delegated hp => exact hchild _ hp hi

theorem sequential (options : SequentialOptions) {children : List Strategy}
    {kind : Nat → String} {poller : Nat → Poller}
    (hc : ∀ i, ObeysFound owns inv won children[i]? c (poller i)) :
    ObeysAt owns inv won (.sequential options children) c
      (pollSequential options children.length kind poller) := by
  intro progress w rest hp hi
  let busy (i : Nat) (p : Progress) (w' : World) : Prop :=
    (∀ child, children[i]? = some child → Holds (owns w') child c p) ∧
      inv w' (p.inFlight + rest)
  let idle (w' : World) : Prop := inv w' rest
  have look : Sequence.Looks
      ⟨options, children.length, kind, poller, .unstarted, Progress.abandon, w.now, w.turn⟩
      busy idle (fun connection w' => won (.sequential options children) c connection w' rest) := by
    intro i p w' ⟨hp, hi⟩
    refine (hc i p w' rest hp hi).imp (fun p w' h => ?_) ?_ fun _ _ h => h
    · exact ⟨h, custody.cancel h.2⟩
    · rintro connection w' ⟨child, hi, h⟩
      exact custody.passed rfl (.sequential (List.mem_of_getElem? hi)) h
  have start : ∀ i w', idle w' → busy i .unstarted w' := by
    intro i w' hi
    refine ⟨fun _ _ => .unstarted, ?_⟩
    rwa [Progress.inFlight_add rfl]
  have hdone : ∀ {polled : Poll (Sequence.State Progress) × World},
      Poll.Yields (Sequence.Phased busy idle)
        (fun connection w' => won (.sequential options children) c connection w' rest)
        (fun _ w' => idle w') polled →
      Settles (fun w => Holds (owns w) (.sequential options children) c) inv
        (won (.sequential options children) c) rest
        (polled.1.map Progress.ofSequence, polled.2) := by
    intro polled h
    refine Poll.Yields.map (h.mono fun state w' h => ?_)
    obtain ⟨index, bound, failures, phase⟩ := state
    cases phase with
    | trying deadline p => exact ⟨.trying h.1, h.2⟩
    | waitingOut timer => exact ⟨.waitingOut, by rwa [Progress.inFlight_add rfl]⟩
    | rewound => exact ⟨.rewound, by rwa [Progress.inFlight_add rfl]⟩
  cases hp with
  | unstarted =>
    rw [Progress.inFlight_add rfl] at hi
    exact hdone (Sequence.first_rule look start hi)
  | @trying _ _ _ index bound failures deadline p hp =>
    exact hdone (Sequence.poll_rule look start ⟨index, bound, failures, .trying deadline p⟩
      ⟨hp, hi⟩)
  | @waitingOut _ _ _ index bound failures timer =>
    rw [Progress.inFlight_add rfl] at hi
    exact hdone (Sequence.poll_rule look start ⟨index, bound, failures, .waitingOut timer⟩ hi)
  | @rewound _ _ _ index bound failures =>
    rw [Progress.inFlight_add rfl] at hi
    exact hdone (Sequence.poll_rule look start ⟨index, bound, failures, .rewound⟩ hi)

theorem race (lead : Option (Nat × Timer)) {node : Strategy} {children : List Strategy}
    {poller : Nat → Poller} {onWin : Nat → Connection → World → World}
    (hc : ∀ i, ObeysFound owns inv won children[i]? c (poller i))
    (hg : ∀ i, Keeps Grows (poller i))
    (hwin : ∀ i {child connection w rest}, children[i]? = some child →
      won child c connection w rest → won node c connection (onWin i connection w) rest)
    (state : Race.State Progress) {w : World} {rest : Multiset Nat}
    (hs : SlotsHold (owns w) children c state.slots)
    (hi : inv w (Progress.inFlightSlots state.slots + rest)) :
    Poll.Yields
      (fun p w' => ∃ state : Race.State Progress, p = .ofRace lead state ∧
        SlotsHold (owns w') children c state.slots ∧
        inv w' (Progress.inFlightSlots state.slots + rest))
      (fun connection w' => won node c connection w' rest) (fun _ w' => inv w' rest)
      (pollRace lead poller onWin state w) := by
  let racing (state : Race.State Progress) (w' : World) : Prop :=
    SlotsHold (owns w') children c state.slots ∧
      inv w' (Progress.inFlightSlots state.slots + rest)
  have look : Race.Looks poller racing fun i connection state w' =>
      ∃ child, children[i]? = some child ∧
        won child c connection w' (Progress.inFlightSlots state.slots + rest) := by
    -- the child that is polled has its own opens, those of the others are in the rest
    intro state w' i p ⟨hs, hi⟩ hslot
    rw [Progress.inFlightSlots_split hslot, add_assoc] at hi
    have hlt : i < state.slots.length := (List.getElem?_eq_some_iff.mp hslot).1
    have hp : ∀ child, children[i]? = some child → Holds (owns w') child c p :=
      fun child hchild => hs i child p hchild hslot
    have hgrows := hg i p w'
    have hkeep : SlotsHold (owns (poller i p w').2) children c state.slots :=
      fun j child p hj hslot => custody.holds_mono hgrows (hs j child p hj hslot)
    have hyields := hc i p w' _ hp hi
    generalize poller i p w' = polled at hkeep hyields ⊢
    obtain ⟨answer, w''⟩ := polled
    cases answer with
    | pending p' =>
      obtain ⟨hp', hi'⟩ := hyields
      refine ⟨hkeep.set ?_, ?_⟩
      · rintro child _ hchild ⟨⟩
        exact hp' child hchild
      · rwa [Progress.inFlightSlots_set hlt, add_assoc]
    | ready result =>
      cases result with
      | ok connection => exact hyields
      | error e => exact ⟨hkeep.set fun _ _ _ h => (nomatch h), hyields⟩
  have release : ∀ state w', racing state w' → racing (state.release .unstarted) w' := by
    intro state w' ⟨hs, hi⟩
    refine ⟨hs.release, ?_⟩
    simpa only [Race.State.release, Progress.inFlightSlots_release] using hi
  unfold pollRace
  dsimp only
  generalize Option.any _ lead = elapsed
  have hrule := Race.poll_rule .unstarted look release elapsed state ⟨hs, hi⟩
  generalize Race.poll poller .unstarted elapsed state w = polled at hrule ⊢
  obtain ⟨outcome, w'⟩ := polled
  cases outcome with
  | pending state => exact ⟨state, rfl, hrule⟩
  | won i connection state =>
    obtain ⟨child, hchild, hw⟩ := hrule
    refine hwin i hchild ?_
    rw [Progress.abandonAll_eq]
    exact custody.release hw
  | lost failures =>
    obtain ⟨state, ⟨-, hi⟩, hfailed, -⟩ := hrule
    rwa [Progress.inFlightSlots_of_failed hfailed, Multiset.coe_nil, zero_add] at hi

theorem firstConnected {children : List Strategy} {poller : Nat → Poller}
    (hc : ∀ i, ObeysFound owns inv won children[i]? c (poller i))
    (hg : ∀ i, Keeps Grows (poller i)) :
    ObeysAt owns inv won (.firstConnected children) c
      (pollFirstConnected children.length poller) := by
  intro progress w rest hp hi
  have hrace : ∀ state : Race.State Progress, SlotsHold (owns w) children c state.slots →
      inv w (Progress.inFlightSlots state.slots + rest) →
      Settles (fun w => Holds (owns w) (.firstConnected children) c) inv
        (won (.firstConnected children) c) rest
        (pollRace none poller (fun _ _ w => w) state w) := by
    intro state hs hi
    refine (custody.race none hc hg (fun _ {_ _ _ _} hi h =>
      custody.passed rfl (.firstConnected (List.mem_of_getElem? hi)) h) state hs hi).mono ?_
    rintro _ w' ⟨state, rfl, hs, hi⟩
    exact ⟨.firstConnected hs, hi⟩
  cases hp with
  | unstarted =>
    rw [Progress.inFlight_add rfl] at hi
    change Poll.Yields _ _ _ (if children.length = 0 then _ else _)
    split
    · exact hi
    · have hfresh : ∀ slot ∈ (Race.State.together children.length Progress.unstarted).slots,
          slot = .held ∨ slot = .running .unstarted :=
        fun slot hm => .inr (Race.State.eq_of_mem_together hm)
      refine hrace _ (.fresh hfresh) ?_
      rwa [Progress.inFlightSlots_fresh hfresh, Multiset.coe_nil, zero_add]
  | @firstConnected _ _ lead holding order slots failures hs =>
    exact hrace ⟨holding, order, slots, failures⟩ hs hi

theorem bestConnectedEver (site : Site) {children : List Strategy} {poller : Nat → Poller}
    (hc : ∀ i, ObeysFound owns inv won children[i]? c (poller i))
    (hg : ∀ i, Keeps Grows (poller i)) :
    ObeysAt owns inv won (.bestConnectedEver site children) c
      (pollBestConnectedEver site children.length poller) := by
  intro progress w rest hp hi
  have hrace : ∀ lead winner (state : Race.State Progress),
      SlotsHold (owns w) children c state.slots →
      inv w (Progress.inFlightSlots state.slots + rest) →
      Settles (fun w => Holds (owns w) (.bestConnectedEver site children) c) inv
        (won (.bestConnectedEver site children) c) rest
        (pollRace lead poller (rememberWin site children.length winner) state w) := by
    intro lead winner state hs hi
    refine (custody.race lead hc hg (fun _ {_ _ _ _} hi h =>
      custody.remembered _ (.bestConnectedEver (List.mem_of_getElem? hi)) h) state hs hi).mono ?_
    rintro _ w' ⟨state, rfl, hs, hi⟩
    exact ⟨.bestConnectedEver hs, hi⟩
  have hfirst : ∀ lead winner (state : Race.State Progress), inv w rest →
      (∀ slot ∈ state.slots, slot = .held ∨ slot = .running .unstarted) →
      Settles (fun w => Holds (owns w) (.bestConnectedEver site children) c) inv
        (won (.bestConnectedEver site children) c) rest
        (pollRace lead poller (rememberWin site children.length winner) state w) := by
    intro lead winner state hi hfresh
    refine hrace lead winner state (.fresh hfresh) ?_
    rwa [Progress.inFlightSlots_fresh hfresh, Multiset.coe_nil, zero_add]
  cases hp with
  | unstarted =>
    rw [Progress.inFlight_add rfl] at hi
    unfold pollBestConnectedEver
    dsimp only
    split
    · exact hi
    · split
      · exact hfirst _ _ _ hi fun slot hm => Race.State.eq_or_eq_of_mem_behind hm
      · exact hfirst _ _ _ hi fun slot hm => .inr (Race.State.eq_of_mem_together hm)
  | @bestConnectedEver _ _ _ lead holding order slots failures hs =>
    exact hrace lead _ ⟨holding, order, slots, failures⟩ hs hi

theorem branch {test : Condition Strategy} {condition : World → Bool}
    {onTrue onFalse : Strategy} {pollTrue pollFalse : Poller}
    (ht : ObeysAt owns inv won onTrue c pollTrue)
    (hf : ObeysAt owns inv won onFalse c pollFalse) :
    ObeysAt owns inv won (.branch test onTrue onFalse) c
      (pollBranch condition pollTrue pollFalse) := by
  intro progress w rest hp hi
  have hside : ∀ (outcome : Bool) p,
      Holds (owns w) (if outcome then onTrue else onFalse) c p → inv w (p.inFlight + rest) →
      Settles (fun w => Holds (owns w) (.branch test onTrue onFalse) c) inv
        (won (.branch test onTrue onFalse) c) rest
        (((if outcome then pollTrue else pollFalse) p w).1.map (Progress.branched outcome),
          ((if outcome then pollTrue else pollFalse) p w).2) := by
    intro outcome p hp hi
    refine Poll.Yields.map ?_
    cases outcome with
    | true =>
      exact (ht p w rest hp hi).imp (fun p w' h => ⟨.onTrue h.1, h.2⟩)
        (fun connection w' h => custody.passed rfl .onTrue h) fun _ _ h => h
    | false =>
      exact (hf p w rest hp hi).imp (fun p w' h => ⟨.onFalse h.1, h.2⟩)
        (fun connection w' h => custody.passed rfl .onFalse h) fun _ _ h => h
  cases hp with
  | unstarted => exact hside (condition w) .unstarted .unstarted hi
  | onTrue hp => exact hside true _ hp hi
  | onFalse hp => exact hside false _ hp hi

section

variable {settings : CacheSettings} {transports : List (String × Strategy)} {child : Strategy}
  {poller : Poller} {entry : String → Poller}
  (stored : ∀ {node c' connection w rest},
    Strategy.Delegates (.cached settings transports child) c node c' →
    won node c' connection w rest → ∀ took,
    won (.cached settings transports child) c connection
      (w.storeCache settings connection.transport took) rest)
  (flushed : ∀ {w rest}, inv w rest → inv (w.flushCache settings) rest)
  (hc : ObeysAt owns inv won child { c with encrypted := settings.encrypted } poller)

include stored flushed hc

omit custody in
theorem uncached {started : Instant} {progress : Progress} {w : World} {rest : Multiset Nat}
    (hp : Holds (owns w) child { c with encrypted := settings.encrypted } progress)
    (hi : inv w (progress.inFlight + rest)) :
    Settles (fun w => Holds (owns w) (.cached settings transports child) c) inv
      (won (.cached settings transports child) c) rest
      (pollUncached settings poller started progress w) := by
  have hyields := hc progress w rest hp hi
  unfold pollUncached
  generalize poller progress w = polled at hyields ⊢
  obtain ⟨answer, w'⟩ := polled
  cases answer with
  | pending p =>
    obtain ⟨hp, hi⟩ := hyields
    exact ⟨.uncached hp, hi⟩
  | ready result =>
    cases result with
    | error e => exact flushed hyields
    | ok connection => exact stored .cached hyields _

theorem retry
    (he : ∀ name, ObeysFound owns inv won (Table.find transports name)
      { c with encrypted := settings.encrypted } (entry name))
    {timer : Timer} {started : Instant} {name : String} {progress : Progress} {w : World}
    {rest : Multiset Nat}
    (hp : ∀ strategy, Table.find transports name = some strategy →
      Holds (owns w) strategy { c with encrypted := settings.encrypted } progress)
    (hi : inv w (progress.inFlight + rest)) :
    Settles (fun w => Holds (owns w) (.cached settings transports child) c) inv
      (won (.cached settings transports child) c) rest
      (pollRetry settings entry poller timer started name progress w) := by
  have hyields := he name progress w rest hp hi
  have hgiveUp : ∀ {w'}, inv w' rest →
      Settles (fun w => Holds (owns w) (.cached settings transports child) c) inv
        (won (.cached settings transports child) c) rest
        (pollUncached settings poller w'.now .unstarted (w'.flushCache settings)) := by
    intro w' hi
    refine uncached stored flushed hc .unstarted ?_
    rw [Progress.inFlight_add rfl]
    exact flushed hi
  unfold pollRetry
  dsimp only
  generalize entry name progress w = polled at hyields ⊢
  obtain ⟨answer, w'⟩ := polled
  cases answer with
  | pending p =>
    obtain ⟨hp, hi⟩ := hyields
    dsimp only
    split
    · exact hgiveUp (custody.cancel hi)
    · exact ⟨.retrying hp, hi⟩
  | ready result =>
    cases result with
    | error e => exact hgiveUp hyields
    | ok connection =>
      obtain ⟨strategy, hfound, hw⟩ := hyields
      exact stored (.entry (Table.mem_of_find hfound)) hw _

theorem cached (isKnown : String → Bool)
    (he : ∀ name, ObeysFound owns inv won (Table.find transports name)
      { c with encrypted := settings.encrypted } (entry name)) :
    ObeysAt owns inv won (.cached settings transports child) c
      (pollCached settings isKnown entry poller) := by
  intro progress w rest hp hi
  cases hp with
  | unstarted =>
    unfold pollCached
    dsimp only
    split
    · split
      · exact custody.retry stored flushed hc he (fun _ _ => .unstarted) hi
      · exact uncached stored flushed hc .unstarted hi
    · exact uncached stored flushed hc .unstarted hi
  | retrying hp => exact custody.retry stored flushed hc he hp hi
  | uncached hp => exact uncached stored flushed hc hp hi

end

omit custody in
theorem pollFound {found : Option Strategy}
    (h : ∀ node, found = some node → ObeysAt owns inv won node c (node.poll c)) :
    ObeysFound owns inv won found c (Strategy.pollFound c found) := by
  intro p w rest hp hi
  cases found with
  | none => exact ⟨nofun, hi⟩
  | some node =>
    refine (h node rfl p w rest (hp node rfl) hi).imp (fun p w' h => ⟨?_, h.2⟩)
      (fun connection w' h => ⟨node, rfl, h⟩) fun _ _ h => h
    rintro _ ⟨⟩
    exact h.1

/-- An open in flight is resolved as its leaf's answer says. -/
theorem pollOpening (leaf : Leaf) {number : Nat} (started : Instant)
    (answer : Option (Timer × Option Error)) {w : World} {rest : Multiset Nat}
    (ho : owns w c leaf number) (hi : inv w (number ::ₘ rest)) :
    Settles (fun w => Holds (owns w) (.transport leaf) c) inv (won (.transport leaf) c) rest
      (leaf.pollOpening number started answer w) := by
  refine leaf.pollOpening_rule number started answer w (fun _ => ⟨.opening ho, ?_⟩)
    (custody.connected ho hi) fun _ => custody.failed hi
  rwa [Progress.inFlight_opening]

end Custody

/-- Laws of custody that hold also of the opens of the leaves, and of the stores of the cached
nodes, which an attempt can reach. -/
structure CustodyAt (root : Strategy) (context : Context)
    (owns : World → Context → Leaf → Nat → Prop) (inv : World → Multiset Nat → Prop)
    (won : Strategy → Context → Connection → World → Multiset Nat → Prop) : Prop
    extends Custody owns inv won where
  opened : ∀ {underCache leaf c w rest},
    Strategy.Reaches root context underCache (.transport leaf) c →
    c.minPriority ≤ leaf.priority → w.supports leaf.mechanism c.encrypted = true → inv w rest →
    owns (w.openTransport leaf c.encrypted).2 c leaf (w.opens + 1) ∧
      inv (w.openTransport leaf c.encrypted).2 ((w.opens + 1) ::ₘ rest)
  stored : ∀ {underCache settings transports child c node c' connection w rest},
    Strategy.Reaches root context underCache (.cached settings transports child) c →
    Strategy.Delegates (.cached settings transports child) c node c' →
    won node c' connection w rest → ∀ took,
    won (.cached settings transports child) c connection
      (w.storeCache settings connection.transport took) rest
  flushed : ∀ {underCache settings transports child c w rest},
    Strategy.Reaches root context underCache (.cached settings transports child) c →
    inv w rest → inv (w.flushCache settings) rest

/-- Every poll of a reachable node obeys the laws. -/
theorem CustodyAt.poll {root : Strategy} {context : Context}
    (custody : CustodyAt root context owns inv won) (node : Strategy) :
    ∀ {underCache : Bool} {c : Context}, Strategy.Reaches root context underCache node c →
    ObeysAt owns inv won node c (node.poll c) := by
  have hat : ∀ {children : List Strategy} {c : Context},
      (∀ child ∈ children, ObeysAt owns inv won child c (child.poll c)) →
      ∀ i, ObeysFound owns inv won children[i]? c (Strategy.pollAt children i c) := by
    intro children c h i
    rw [Strategy.pollAt_eq]
    exact Custody.pollFound fun child hi => h child (List.mem_of_getElem? hi)
  induction node using Strategy.nodeInduction with
  | transport leaf =>
    intro underCache c h p w rest hp hi
    refine leaf.poll_rule c p w ?_ ?_ ?_
    · rintro number started answer rfl
      cases hp with
      | opening ho =>
        rw [Progress.inFlight_opening] at hi
        exact custody.pollOpening leaf started answer ho hi
    · intro hnew e
      cases hp with
      | unstarted => rwa [Progress.inFlight_add rfl] at hi
      | opening _ => exact absurd rfl (hnew _ _ _)
    · intro hnew answer hpriority hsupports
      cases hp with
      | unstarted =>
        rw [Progress.inFlight_add rfl] at hi
        obtain ⟨ho, hi⟩ := custody.opened h hpriority hsupports hi
        exact custody.pollOpening leaf w.now answer ho hi
      | opening _ => exact absurd rfl (hnew _ _ _)
  | unsupported name =>
    intro underCache c h p w rest hp hi
    cases hp with
    | unstarted => rwa [Progress.inFlight_add rfl] at hi
  | delayed delay child ih => exact fun h => custody.toCustody.delayed delay (ih h.delayed)
  | sequential options children ih =>
    exact fun h => custody.toCustody.sequential options (hat fun child hm =>
      ih child hm (h.sequential hm))
  | cached settings transports child ihEntries ihChild =>
    intro underCache c h
    have he : ∀ name, ObeysFound owns inv won (Table.find transports name)
        { c with encrypted := settings.encrypted } (Strategy.pollNamed transports name
          { c with encrypted := settings.encrypted }) := by
      intro name
      rw [Strategy.pollNamed_eq]
      refine Custody.pollFound fun entry hentry => ?_
      have hm := Table.mem_of_find hentry
      exact ihEntries _ hm (h.entry hm)
    exact custody.toCustody.cached (custody.stored h) (custody.flushed h) (ihChild h.cached)
      (fun name => (Table.find transports name).isSome) he
  | firstConnected children ih =>
    exact fun h => custody.toCustody.firstConnected
      (hat fun child hm => ih child hm (h.firstConnected hm))
      (Strategy.pollAt_grows children · _)
  | bestConnectedEver site children ih =>
    exact fun h => custody.toCustody.bestConnectedEver site
      (hat fun child hm => ih child hm (h.bestConnectedEver hm))
      (Strategy.pollAt_grows children · _)
  | branch test onTrue onFalse _ ihTrue ihFalse =>
    exact fun h => custody.toCustody.branch (ihTrue h.onTrue) (ihFalse h.onFalse)

end Dialplan
