import Dialplan.Proofs.Build.Nodes
import Dialplan.Proofs.Cached.Course
import Dialplan.Proofs.Cached.Partition

/-! What is not supported does nothing. As long as a strategy that is not supported finds no
record in its caches, a poll of it leaves the world as it was (`Strategy.poll_barren`), and an
attempt on it neither opens nor connects, however long it runs (`unsupported_never_connects`).
Support and connecting make the same choices: a branch runs the side whose support it reports,
and a cached node makes the same demands. -/

namespace Dialplan

open Strategy

theorem Strategy.anySupported_eq_false {supports : Nat → Bool → Bool} {encrypted : Bool}
    {children : List Strategy} (h : anySupported supports children encrypted = false) :
    ∀ child ∈ children, child.isSupported supports encrypted = false := by
  induction children with
  | nil => exact nofun
  | cons child rest ih =>
    rw [anySupported, Bool.or_eq_false_iff] at h
    exact List.forall_mem_cons.mpr ⟨h.1, ih h.2⟩

/-- The cached nodes within a tree have no records. -/
def Unrecorded (root : Strategy) (w : World) : Prop :=
  ∀ settings transports child, Within (.cached settings transports child) root →
    (w.cache settings.cache).fetch settings.encrypted = none

theorem Unrecorded.below {node root : Strategy} {w : World} (h : Unrecorded root w)
    (hw : Within node root) : Unrecorded node w :=
  fun settings transports child hc => h settings transports child (hc.trans hw)

/-- Emptying an empty partition changes nothing. -/
theorem World.flushCache_eq_self {w : World} {settings : CacheSettings}
    (h : (w.cache settings.cache).fetch settings.encrypted = none) : w.flushCache settings = w := by
  by_cases hlt : settings.cache < w.caches.length
  · have hput : ∀ cache : Cache, cache.fetch settings.encrypted = none →
        cache.flush settings.encrypted = cache := by
      rintro ⟨tls, nonTls⟩ hf
      cases hs : settings.encrypted with
      | true => rw [hs] at hf; obtain rfl : tls = none := hf; rfl
      | false => rw [hs] at hf; obtain rfl : nonTls = none := hf; rfl
    rw [flushCache, hput _ h, setCache]
    simp [cache, hlt]
  · exact World.setCache_of_le (Nat.le_of_not_lt hlt) _

/-- What an attempt has in progress at a node that is not supported: nothing is in flight, and
where a branch was taken it is the side that its condition picks. -/
inductive Barren (supports : Nat → Bool → Bool) : Strategy → Bool → Progress → Prop where
  | unstarted {node encrypted} : Barren supports node encrypted .unstarted
  | waiting {delay child encrypted timer} :
      Barren supports (.delayed delay child) encrypted (.waiting timer)
  | delegated {delay child encrypted p} : Barren supports child encrypted p →
      Barren supports (.delayed delay child) encrypted (.delegated p)
  | trying {options children encrypted index bound failures deadline p} :
      (∀ child, children[index]? = some child → Barren supports child encrypted p) →
      p.inFlight = [] →
      Barren supports (.sequential options children) encrypted
        (.sequencing index bound failures (.trying deadline p))
  | waitingOut {options children encrypted index bound failures timer} :
      Barren supports (.sequential options children) encrypted
        (.sequencing index bound failures (.waitingOut timer))
  | rewound {options children encrypted index bound failures} :
      Barren supports (.sequential options children) encrypted
        (.sequencing index bound failures .rewound)
  | uncached {settings transports child encrypted started p} :
      Barren supports child settings.encrypted p →
      Barren supports (.cached settings transports child) encrypted (.uncached started p)
  | firstConnected {children encrypted lead holding order slots failures} :
      Race.Running (fun _ p => p.inFlight = []) slots →
      (∀ (i : Nat) p child, slots[i]? = some (.running p) → children[i]? = some child →
        Barren supports child encrypted p) →
      Barren supports (.firstConnected children) encrypted
        (.racing lead holding order slots failures)
  | bestConnectedEver {site children encrypted lead holding order slots failures} :
      Race.Running (fun _ p => p.inFlight = []) slots →
      (∀ (i : Nat) p child, slots[i]? = some (.running p) → children[i]? = some child →
        Barren supports child encrypted p) →
      Barren supports (.bestConnectedEver site children) encrypted
        (.racing lead holding order slots failures)
  | branched {test onTrue onFalse encrypted p} :
      Barren supports (if Condition.holds supports test encrypted then onTrue else onFalse)
        encrypted p →
      Barren supports (.branch test onTrue onFalse) encrypted
        (.branched (Condition.holds supports test encrypted) p)

theorem Progress.inFlightSlots_eq_nil {slots : List (Race.Slot Progress)}
    (h : Race.Running (fun _ p => p.inFlight = []) slots) : inFlightSlots slots = [] := by
  induction slots with
  | nil => rfl
  | cons slot rest ih =>
    rw [inFlightSlots, ih fun i p hi => h (i + 1) p hi]
    cases slot with
    | held => rfl
    | running p => rw [inFlightSlot, h 0 p rfl]; rfl
    | failed => rfl

theorem Barren.inFlight {supports : Nat → Bool → Bool} {node : Strategy} {encrypted : Bool}
    {p : Progress} (h : Barren supports node encrypted p) : p.inFlight = [] := by
  induction h with
  | unstarted => rfl
  | waiting => rfl
  | delegated _ ih => exact ih
  | trying _ hp _ => exact hp
  | waitingOut => rfl
  | rewound => rfl
  | uncached _ ih => exact ih
  | firstConnected h _ _ => exact Progress.inFlightSlots_eq_nil h
  | bestConnectedEver h _ _ => exact Progress.inFlightSlots_eq_nil h
  | branched _ ih => exact ih

/-! ### Polls -/

/-- A poll left the world `w` as it was, and did not connect. -/
abbrev Idle (barren : Progress → Prop) (w : World) (polled : Poll Progress × World) : Prop :=
  Poll.Yields (fun q w' => w' = w ∧ barren q) (fun _ _ => False) (fun _ w' => w' = w) polled

/-- A poller leaves a world as it is, and does not connect. -/
def Fruitless (barren : Progress → Prop) (w : World) (poller : Poller) : Prop :=
  ∀ p, barren p → Idle barren w (poller p w)

/-- The children of a race or a sequence, in progress or not. -/
abbrev BarrenAt (supports : Nat → Bool → Bool) (children : List Strategy) (encrypted : Bool)
    (i : Nat) (p : Progress) : Prop :=
  p.inFlight = [] ∧ ∀ child, children[i]? = some child → Barren supports child encrypted p

theorem BarrenAt.unstarted {supports : Nat → Bool → Bool} {children : List Strategy}
    {encrypted : Bool} {i : Nat} : BarrenAt supports children encrypted i .unstarted :=
  ⟨rfl, fun _ _ => .unstarted⟩

section

variable {w : World} {c : Context} {supports : Nat → Bool → Bool}

theorem fruitless_at {children : List Strategy}
    (h : ∀ child ∈ children, Fruitless (Barren supports child c.encrypted) w (child.poll c))
    (i : Nat) :
    Fruitless (BarrenAt supports children c.encrypted i) w (Strategy.pollAt children i c) := by
  intro p ⟨hp, hb⟩
  rw [Strategy.pollAt_eq]
  cases hi : children[i]? with
  | none => exact ⟨rfl, hp, fun _ h => nomatch hi.symm.trans h⟩
  | some child =>
    refine (h child (List.mem_of_getElem? hi) p (hb child hi)).mono fun q w' hq => ?_
    refine ⟨hq.1, hq.2.inFlight, fun child' hi' => ?_⟩
    obtain rfl := Option.some.inj (hi.symm.trans hi')
    exact hq.2

theorem fruitless_delayed (delay : Duration) {child : Strategy}
    (hc : Fruitless (Barren supports child c.encrypted) w (child.poll c)) :
    Fruitless (Barren supports (.delayed delay child) c.encrypted) w
      (pollDelayed delay fun p w => child.poll c p w) := by
  intro p hp
  have hchild : ∀ p, Barren supports child c.encrypted p →
      Idle (Barren supports (.delayed delay child) c.encrypted) w
        ((child.poll c p w).1.map Progress.delegated, (child.poll c p w).2) :=
    fun p hp => Poll.Yields.map ((hc p hp).mono fun q w' hq => ⟨hq.1, .delegated hq.2⟩)
  have hwait : ∀ timer : Timer,
      Idle (Barren supports (.delayed delay child) c.encrypted) w
        (if timer.isDue w.now then
          ((child.poll c .unstarted w).1.map Progress.delegated, (child.poll c .unstarted w).2)
        else (.pending (.waiting timer), w)) := by
    intro timer
    split
    · exact hchild _ .unstarted
    · exact ⟨rfl, .waiting⟩
  cases hp with
  | unstarted => exact hwait _
  | waiting => exact hwait _
  | delegated hp => exact hchild _ hp

theorem fruitless_sequential (options : SequentialOptions) {children : List Strategy}
    (kind : Nat → String)
    (hc : ∀ i, Fruitless (BarrenAt supports children c.encrypted i) w
      (Strategy.pollAt children i c)) :
    Fruitless (Barren supports (.sequential options children) c.encrypted) w
      (pollSequential options children.length kind
        fun i p w => Strategy.pollAt children i c p w) := by
  intro p hp
  have look : Sequence.Looks
      ⟨options, children.length, kind, fun i p w => Strategy.pollAt children i c p w, .unstarted,
        Progress.abandon, w.now, w.turn⟩
      (fun i p w' => w' = w ∧ BarrenAt supports children c.encrypted i p) (· = w)
      (fun _ _ => False) := by
    rintro i p _ ⟨rfl, hp⟩
    refine (hc i p hp).mono fun q w' hq => ⟨hq, ?_⟩
    show w'.cancel q.inFlight = _
    rw [hq.2.1]
    exact hq.1
  have hdone : ∀ {polled : Poll (Sequence.State Progress) × World},
      Poll.Yields (Sequence.Phased
        (fun i p w' => w' = w ∧ BarrenAt supports children c.encrypted i p) (· = w))
        (fun _ _ => False) (fun _ w' => w' = w) polled →
      Idle (Barren supports (.sequential options children) c.encrypted) w
        (polled.1.map Progress.ofSequence, polled.2) := by
    intro polled h
    refine Poll.Yields.map (h.mono ?_)
    rintro ⟨index, bound, failures, phase⟩ w' hphase
    cases phase with
    | trying deadline p => exact ⟨hphase.1, .trying hphase.2.2 hphase.2.1⟩
    | waitingOut timer => exact ⟨hphase, .waitingOut⟩
    | rewound => exact ⟨hphase, .rewound⟩
  have hstart : ∀ i w', w' = w → w' = w ∧ BarrenAt supports children c.encrypted i .unstarted :=
    fun i w' hw => ⟨hw, .unstarted⟩
  cases hp with
  | unstarted => exact hdone (Sequence.first_rule look hstart rfl)
  | trying hp hi =>
    exact hdone (Sequence.poll_rule look hstart ⟨_, _, _, .trying _ _⟩ ⟨rfl, hi, hp⟩)
  | waitingOut => exact hdone (Sequence.poll_rule look hstart ⟨_, _, _, .waitingOut _⟩ rfl)
  | rewound => exact hdone (Sequence.poll_rule look hstart ⟨_, _, _, .rewound⟩ rfl)

theorem fruitless_race {barren : Progress → Prop} {children : List Strategy}
    (lead : Option (Nat × Timer)) (onWin : Nat → Connection → World → World)
    (hbarren : ∀ holding order slots failures,
      Race.Running (BarrenAt supports children c.encrypted) slots →
      barren (.racing lead holding order slots failures))
    (hc : ∀ i, Fruitless (BarrenAt supports children c.encrypted i) w
      (Strategy.pollAt children i c))
    {state : Race.State Progress}
    (hstate : Race.Running (BarrenAt supports children c.encrypted) state.slots) :
    Idle barren w
      (pollRace lead (fun i p w => Strategy.pollAt children i c p w) onWin state w) := by
  have look : Race.Looks (fun i p w => Strategy.pollAt children i c p w)
      (fun state w' => w' = w ∧ Race.Running (BarrenAt supports children c.encrypted) state.slots)
      (fun _ _ _ _ => False) := by
    rintro state _ i p ⟨rfl, hstate⟩ hi
    refine (hc i p (hstate i p hi)).imp (fun q w' hq => ⟨hq.1, hstate.set ?_⟩)
      (fun _ _ h => h) fun e w' hw => ⟨hw, hstate.set nofun⟩
    rintro _ ⟨⟩
    exact hq.2
  unfold pollRace
  dsimp only
  generalize Option.any _ lead = elapsed
  have hrule := Race.poll_rule .unstarted look
    (fun state w' h => ⟨h.1, h.2.release fun _ => .unstarted⟩) elapsed state ⟨rfl, hstate⟩
  generalize Race.poll _ .unstarted elapsed state w = polled at hrule ⊢
  obtain ⟨outcome, w'⟩ := polled
  cases outcome with
  | pending state => exact ⟨hrule.1, hbarren _ _ _ _ hrule.2⟩
  | won i connection state => exact hrule.elim
  | lost failures =>
    obtain ⟨_, hlost, -⟩ := hrule
    exact hlost.1

theorem fruitless_firstConnected {children : List Strategy}
    (hc : ∀ i, Fruitless (BarrenAt supports children c.encrypted i) w
      (Strategy.pollAt children i c)) :
    Fruitless (Barren supports (.firstConnected children) c.encrypted) w
      (pollFirstConnected children.length fun i p w => Strategy.pollAt children i c p w) := by
  have hbarren : ∀ lead holding order slots failures,
      Race.Running (BarrenAt supports children c.encrypted) slots →
      Barren supports (.firstConnected children) c.encrypted
        (.racing lead holding order slots failures) :=
    fun _ _ _ _ _ h => .firstConnected (fun i p hi => (h i p hi).1)
      fun i p child hi hchild => (h i p hi).2 child hchild
  intro p hp
  cases hp with
  | unstarted =>
    unfold pollFirstConnected
    dsimp only
    split
    · exact rfl
    · exact fruitless_race none _ (hbarren none) hc (.fresh (fun _ => .unstarted)
        fun _ hslot => .inr (Race.State.eq_of_mem_together hslot))
  | firstConnected hp hi =>
    unfold pollFirstConnected
    refine fruitless_race none _ (hbarren none) hc ?_
    exact fun i p hs => ⟨hp i p hs, fun child => hi i p child hs⟩

theorem fruitless_bestConnectedEver (site : Site) {children : List Strategy}
    (hc : ∀ i, Fruitless (BarrenAt supports children c.encrypted i) w
      (Strategy.pollAt children i c)) :
    Fruitless (Barren supports (.bestConnectedEver site children) c.encrypted) w
      (pollBestConnectedEver site children.length
        fun i p w => Strategy.pollAt children i c p w) := by
  have hbarren : ∀ lead holding order slots failures,
      Race.Running (BarrenAt supports children c.encrypted) slots →
      Barren supports (.bestConnectedEver site children) c.encrypted
        (.racing lead holding order slots failures) :=
    fun _ _ _ _ _ h => .bestConnectedEver (fun i p hi => (h i p hi).1)
      fun i p child hi hchild => (h i p hi).2 child hchild
  intro p hp
  cases hp with
  | unstarted =>
    unfold pollBestConnectedEver
    dsimp only
    split
    · exact rfl
    · split
      · exact fruitless_race _ _ (hbarren _) hc (.fresh (fun _ => .unstarted)
          fun _ hslot => Race.State.eq_or_eq_of_mem_behind hslot)
      · exact fruitless_race none _ (hbarren none) hc (.fresh (fun _ => .unstarted)
          fun _ hslot => .inr (Race.State.eq_of_mem_together hslot))
  | bestConnectedEver hp hi =>
    refine fruitless_race _ _ (hbarren _) hc ?_
    exact fun i p hs => ⟨hp i p hs, fun child => hi i p child hs⟩

/-- A cached node that has no record runs the strategy below it, and empties its partition when
that fails. -/
theorem fruitless_cached {settings : CacheSettings} {transports : List (String × Strategy)}
    {child : Strategy} {poller : Poller} (isKnown : String → Bool) (entry : String → Poller)
    (hrecord : (w.cache settings.cache).fetch settings.encrypted = none)
    (hc : Fruitless (Barren supports child settings.encrypted) w poller) :
    Fruitless (Barren supports (.cached settings transports child) c.encrypted) w
      (pollCached settings isKnown entry poller) := by
  have hchild : ∀ started p, Barren supports child settings.encrypted p →
      Idle (Barren supports (.cached settings transports child) c.encrypted) w
        (pollUncached settings poller started p w) := by
    intro started p hp
    have hpolled := hc p hp
    unfold pollUncached
    generalize poller p w = polled at hpolled ⊢
    obtain ⟨answer, w'⟩ := polled
    cases answer with
    | pending q => exact ⟨hpolled.1, .uncached hpolled.2⟩
    | ready result =>
      cases result with
      | ok connection => exact hpolled.elim
      | error e =>
        obtain rfl : w' = w := hpolled
        exact World.flushCache_eq_self hrecord
  have hfresh : freshRecord? settings w = none := by
    unfold freshRecord?
    rw [hrecord]
  intro p hp
  cases hp with
  | unstarted =>
    unfold pollCached
    dsimp only
    rw [hfresh]
    exact hchild _ _ .unstarted
  | uncached hp => exact hchild _ _ hp

/-- A branch runs the side that its condition picks. -/
theorem fruitless_branch {test : Condition Strategy} {onTrue onFalse : Strategy}
    {condition : World → Bool} (hcondition : condition w = test.holds supports c.encrypted)
    {pollTrue pollFalse : Poller}
    (hside : Fruitless
      (Barren supports (if test.holds supports c.encrypted then onTrue else onFalse) c.encrypted) w
      (if test.holds supports c.encrypted then pollTrue else pollFalse)) :
    Fruitless (Barren supports (.branch test onTrue onFalse) c.encrypted) w
      (pollBranch condition pollTrue pollFalse) := by
  have hbranched : ∀ p,
      Barren supports (if test.holds supports c.encrypted then onTrue else onFalse) c.encrypted p →
      Idle (Barren supports (.branch test onTrue onFalse) c.encrypted) w
        (pollBranch condition pollTrue pollFalse
          (.branched (test.holds supports c.encrypted) p) w) :=
    fun p hp => Poll.Yields.map ((hside p hp).mono fun q w' hq => ⟨hq.1, .branched hq.2⟩)
  intro p hp
  cases hp with
  | unstarted =>
    have hstart := hbranched _ .unstarted
    rw [← hcondition] at hstart
    exact hstart
  | branched hp => exact hbranched _ hp

end

/-- A poll of a node that is not supported leaves the world as it was, and does not connect. -/
theorem Strategy.poll_barren (node : Strategy) {w : World} :
    ∀ {c : Context}, node.isSupported w.supports c.encrypted = false → Unrecorded node w →
    Fruitless (Barren w.supports node c.encrypted) w (node.poll c) := by
  induction node using Strategy.nodeInduction with
  | transport leaf =>
    intro c hs _ p hp
    cases hp
    have hs : w.supports leaf.mechanism c.encrypted = false := hs
    show Poll.Yields _ _ _ (leaf.poll c .unstarted w)
    unfold Leaf.poll
    dsimp only
    rw [hs]
    split
    · exact rfl
    · exact rfl
  | unsupported name => exact fun _ _ _ _ => rfl
  | delayed delay child ih =>
    exact fun hs hr => fruitless_delayed delay (ih hs (hr.below (.delayed .self)))
  | sequential options children ih =>
    refine fun hs hr => fruitless_sequential options _ (fruitless_at fun child hm => ?_)
    exact ih child hm (anySupported_eq_false hs child hm) (hr.below (.sequential hm .self))
  | cached settings transports child _ ih =>
    intro c hs hr
    have hc := @ih { c with encrypted := settings.encrypted } hs (hr.below (.cached .self))
    have hrecord := hr settings transports child .self
    exact fruitless_cached (c := c) (fun name => (Table.find transports name).isSome)
      (fun name => Strategy.pollNamed transports name _) hrecord hc
  | firstConnected children ih =>
    refine fun hs hr => fruitless_firstConnected (fruitless_at fun child hm => ?_)
    exact ih child hm (anySupported_eq_false hs child hm) (hr.below (.firstConnected hm .self))
  | bestConnectedEver site children ih =>
    refine fun hs hr => fruitless_bestConnectedEver site (fruitless_at fun child hm => ?_)
    exact ih child hm (anySupported_eq_false hs child hm) (hr.below (.bestConnectedEver hm .self))
  | branch test onTrue onFalse _ ihTrue ihFalse =>
    intro c hs hr
    refine fruitless_branch rfl ?_
    rw [Strategy.isSupported] at hs
    cases hpick : test.holds w.supports c.encrypted with
    | true =>
      rw [hpick, if_pos rfl] at hs
      exact ihTrue hs (hr.below (.onTrue .self))
    | false =>
      rw [hpick, if_neg Bool.false_ne_true] at hs
      exact ihFalse hs (hr.below (.onFalse .self))

/-! ### Runs -/

/-- Nothing changes in a run of a strategy that is not supported. -/
theorem Run.barren {root : Strategy} {context : Context} {between : World → World → Prop}
    {w₀ : World} {visits : List Visit} {outcome : Poll Progress}
    (run : Run between (root.poll context) w₀ visits outcome)
    (hs : root.isSupported w₀.supports context.encrypted = false) (hr : Unrecorded root w₀)
    (hbetween : ∀ w w', between w w' →
      w'.supports = w.supports ∧ (Unrecorded root w → Unrecorded root w')) :
    (∀ visit ∈ visits, visit.after = visit.before ∧ visit.after.supports = w₀.supports ∧
      Unrecorded root visit.after) ∧
    (∀ p, outcome = .pending p → Barren w₀.supports root context.encrypted p) ∧
    ∀ connection, outcome ≠ .ready (.ok connection) := by
  have hvisit : ∀ p w, w.supports = w₀.supports → Unrecorded root w →
      Barren w₀.supports root context.encrypted p →
      ((root.poll context p w).2 = w ∧ (root.poll context p w).2.supports = w₀.supports ∧
        Unrecorded root (root.poll context p w).2) ∧
      (∀ q, (root.poll context p w).1 = .pending q →
        Barren w₀.supports root context.encrypted q) ∧
      ∀ connection, (root.poll context p w).1 ≠ .ready (.ok connection) := by
    intro p w hw hr hp
    rw [← hw] at hs hp ⊢
    have hpolled := root.poll_barren hs hr p hp
    generalize root.poll context p w = polled at hpolled ⊢
    obtain ⟨answer, w'⟩ := polled
    cases answer with
    | pending q =>
      obtain ⟨rfl, hq⟩ := hpolled
      refine ⟨⟨rfl, rfl, hr⟩, ?_, nofun⟩
      rintro _ ⟨⟩
      exact hq
    | ready result =>
      cases result with
      | ok connection => exact hpolled.elim
      | error e =>
        obtain rfl : w' = w := hpolled
        exact ⟨⟨rfl, rfl, hr⟩, nofun, nofun⟩
  induction run with
  | first =>
    obtain ⟨hkept, hout⟩ := hvisit .unstarted w₀ rfl hr .unstarted
    exact ⟨List.forall_mem_singleton.mpr hkept, hout⟩
  | @again visit earlier p w _ hb ih =>
    obtain ⟨hvisits, hpending, -⟩ := ih
    obtain ⟨-, hsupports, hlatest⟩ := hvisits visit List.mem_cons_self
    obtain ⟨hw, hkeeps⟩ := hbetween _ _ hb
    obtain ⟨hkept, hout⟩ := hvisit p w (hw.trans hsupports) (hkeeps hlatest) (hpending p rfl)
    exact ⟨List.forall_mem_cons.mpr ⟨hkept, hvisits⟩, hout⟩

/-- A run of a branch is a run of the side that its condition picks at the start. -/
theorem Run.side {test : Condition Strategy} {onTrue onFalse : Strategy} {c : Context}
    {between : World → World → Prop} {w₀ : World} {visits : List Visit} {outcome : Poll Progress}
    (run : Run between ((Strategy.branch test onTrue onFalse).poll c) w₀ visits outcome) :
    ∃ inner, Run between
        ((if test.holds w₀.supports c.encrypted then onTrue else onFalse).poll c) w₀ visits inner ∧
      outcome = inner.map (.branched (test.holds w₀.supports c.encrypted)) := by
  have hpoll : ∀ outcome p w,
      (Strategy.branch test onTrue onFalse).poll c (.branched outcome p) w =
        (((if outcome then onTrue else onFalse).poll c p w).1.map (.branched outcome),
          ((if outcome then onTrue else onFalse).poll c p w).2) := by
    intro outcome p w
    cases outcome <;> rfl
  induction run with
  | first =>
    have hfirst := hpoll (test.holds w₀.supports c.encrypted) .unstarted w₀
    have hstart : (Strategy.branch test onTrue onFalse).poll c .unstarted w₀ =
        (Strategy.branch test onTrue onFalse).poll c
          (.branched (test.holds w₀.supports c.encrypted) .unstarted) w₀ := rfl
    rw [hstart, hfirst]
    exact ⟨_, .first, rfl⟩
  | @again visit earlier p w _ hb ih =>
    obtain ⟨inner, run, hinner⟩ := ih
    cases inner with
    | ready result => cases hinner
    | pending q =>
      obtain rfl := Poll.pending.inj hinner
      rw [hpoll]
      exact ⟨_, run.again hb, rfl⟩

/-- Support is sound. An attempt on a tree that is not supported, whose cached nodes find no
record and are given none, changes nothing at any visit and never connects. And connecting makes
the choices that support was told by: a branch runs the side whose support is its own, and the
course of a cached node is under the demands that its support was asked under. -/
theorem unsupported_never_connects {root : Strategy} {context : Context}
    {between : World → World → Prop}
    (hbetween : ∀ w w', between w w' →
      w'.supports = w.supports ∧ (Unrecorded root w → Unrecorded root w')) :
    (∀ w₀, root.isSupported w₀.supports context.encrypted = false → Unrecorded root w₀ →
      ∀ visits outcome, Run between (root.poll context) w₀ visits outcome →
        (∀ visit ∈ visits, visit.after = visit.before) ∧
        ∀ connection, outcome ≠ .ready (.ok connection)) ∧
    (∀ {underCache test onTrue onFalse c},
      Reaches root context underCache (.branch test onTrue onFalse) c →
      ∀ w, ∃ side ∈ [onTrue, onFalse],
        (branch test onTrue onFalse).isSupported w.supports c.encrypted =
          side.isSupported w.supports c.encrypted ∧
        ∀ visits outcome, Run between ((branch test onTrue onFalse).poll c) w visits outcome →
          ∃ outcome', Run between (side.poll c) w visits outcome' ∧
            outcome = outcome'.map (.branched (test.holds w.supports c.encrypted))) ∧
    (∀ {underCache settings transports child c},
      Reaches root context underCache (.cached settings transports child) c →
      ∃ demands : Context, demands = { c with encrypted := settings.encrypted } ∧
        (∀ supports, (cached settings transports child).isSupported supports c.encrypted =
          child.isSupported supports demands.encrypted) ∧
        ∀ w visits outcome,
          Run between ((cached settings transports child).poll c) w visits outcome →
          ∃ started, Course between settings transports child demands w started visits outcome) := by
  refine ⟨?_, ?_, ?_⟩
  · intro w₀ hs hr visits outcome run
    obtain ⟨hvisits, -, hout⟩ := run.barren hs hr hbetween
    exact ⟨fun visit hm => (hvisits visit hm).1, hout⟩
  · intro underCache test onTrue onFalse c _ w
    refine ⟨if test.holds w.supports c.encrypted then onTrue else onFalse, ?_, ?_, ?_⟩
    · split
      · exact List.mem_cons_self
      · exact List.mem_cons_of_mem _ List.mem_cons_self
    · rw [isSupported]
      split
      · rfl
      · rfl
    · exact fun visits outcome run => run.side
  · intro underCache settings transports child c _
    exact ⟨_, rfl, fun _ => rfl, fun w visits outcome run => run.course⟩

/-! A plan that starts over for ever, below whose cached node the one transport cannot encrypt. -/

def endlessProgram : Program :=
  [.defTransport "a" "ws" 0 none,
    .define "strategy" (.invocation "sequential" [.literal (.map [("loop", .bool true)]),
      .invocation "cached" [.literal (.number (.unsigned 1000)),
        .invocation "if" [.invocation "is_supported" [.symbol "a"], .symbol "a",
          .invocation "delayed" [.literal (.number (.unsigned 5)), .symbol "a"]]]])]

def endlessRoot : Strategy :=
  let a := .transport ⟨"a", "ws", 0, 0, [], none⟩
  .sequential { SequentialOptions.default with looping := true }
    [.cached ⟨Duration.ofMillis 1000, true, 0⟩ [("a", a)]
      (.branch (.isSupported a) a (.delayed (Duration.ofMillis 5) a))]

def endlessWorld : World := .initial 0 [.webSocket] [⟨none, some ⟨0, "a", 5⟩⟩]

/-- The delay is waited out in the second visit. -/
def endlessRewinds : Visit :=
  let w := { endlessWorld with now := Duration.ofMillis 5 }
  ⟨w, (endlessRoot.poll .plain (.sequencing 0 none [] (.trying none (.uncached 0
    (.branched false (.waiting ⟨Duration.ofMillis 5, 0⟩))))) w).2⟩

/-- Then the sequence starts over, and nothing has happened. -/
theorem endless_never_connects :
    (⟨[("ws", 0)], 0⟩ : Builder).build { BuildOptions.default with encrypted := true } []
      endlessProgram = .ok endlessRoot ∧
    endlessRoot.isSupported endlessWorld.supports Context.plain.encrypted = false ∧
    Unrecorded endlessRoot endlessWorld ∧
    Run (fun w w' => w'.supports = w.supports ∧ w'.caches = w.caches) (endlessRoot.poll .plain)
      endlessWorld [endlessRewinds, ⟨endlessWorld, endlessWorld⟩]
      (.pending (.sequencing 0 none [] .rewound)) ∧
    endlessRewinds.after = endlessRewinds.before := by
  have hbuild : (⟨[("ws", 0)], 0⟩ : Builder).build { BuildOptions.default with encrypted := true }
      [] endlessProgram = .ok endlessRoot := by rfl
  have hrecord : Unrecorded endlessRoot endlessWorld := by
    intro settings transports child hw
    obtain ⟨he, hc⟩ := (Builder.build_made hbuild).settings hw
    rw [he, hc]
    rfl
  have hkeeps : ∀ w w' : World, w'.supports = w.supports ∧ w'.caches = w.caches →
      w'.supports = w.supports ∧ (Unrecorded endlessRoot w → Unrecorded endlessRoot w') := by
    intro w w' ⟨hs, hc⟩
    refine ⟨hs, fun hr settings transports child hw => ?_⟩
    rw [World.cache, hc]
    exact hr settings transports child hw
  have waits : Run (fun w w' => w'.supports = w.supports ∧ w'.caches = w.caches)
      (endlessRoot.poll .plain) endlessWorld [⟨endlessWorld, endlessWorld⟩]
      (.pending (.sequencing 0 none [] (.trying none (.uncached 0
        (.branched false (.waiting ⟨Duration.ofMillis 5, 0⟩)))))) := .first
  have rewinds := waits.again (w := { endlessWorld with now := Duration.ofMillis 5 }) ⟨rfl, rfl⟩
  obtain ⟨hsound, -, -⟩ := @unsupported_never_connects endlessRoot .plain _ hkeeps
  obtain ⟨hvisits, -⟩ := hsound endlessWorld rfl hrecord _ _ rewinds
  exact ⟨hbuild, rfl, hrecord, rewinds, hvisits _ List.mem_cons_self⟩

end Dialplan
