import Dialplan.Proofs.Polling.Leaf
import Dialplan.Proofs.Strategy.Nodes

/-! Frames. A frame relates a world to those that can come of it, and every step by which a
node changes the world keeps it. Then every poll of a tree keeps it (`FrameAt.poll`): whatever
is to be known of the worlds before and after a poll, it is enough to look at the single
events of opens, at the memory of races and at the stores of cached nodes. -/

namespace Dialplan

/-- A relation between worlds that is kept, wherever in a tree, when an open in flight is
settled. -/
structure Frame (R : World → World → Prop) : Prop where
  refl : ∀ w, R w w
  trans : ∀ {a b c}, R a b → R b c → R a c
  connected : ∀ w leaf number started, R w (World.connect w leaf number started).2
  failed : ∀ w number, R w (w.fail number)
  cancelled : ∀ w number, R w (w.record (.cancelled number w.now))

/-- Every poll of a node keeps a relation. -/
def Keeps (R : World → World → Prop) (poller : Poller) : Prop :=
  ∀ progress w, R w (poller progress w).2

namespace Frame

variable {R : World → World → Prop} (frame : Frame R)

include frame

theorem cancel (w : World) (numbers : List Nat) : R w (w.cancel numbers) := by
  unfold World.cancel
  induction numbers generalizing w with
  | nil => exact frame.refl w
  | cons number rest ih => exact frame.trans (frame.cancelled w number) (ih _)

theorem abandonAll (running : List Progress) (w : World) : R w (abandonAll running w) := by
  unfold Dialplan.abandonAll
  induction running generalizing w with
  | nil => exact frame.refl w
  | cons progress rest ih => exact frame.trans (frame.cancel w _) (ih _)

theorem pollOpening (leaf : Leaf) {w w' : World} (h : R w w') (number : Nat) (started : Instant)
    (answer : Option (Timer × Option Error)) :
    Poll.Yields (fun _ => R w) (fun _ => R w) (fun _ => R w)
      (leaf.pollOpening number started answer w') :=
  leaf.pollOpening_rule number started answer w' (fun _ => h)
    (frame.trans h (frame.connected w' leaf number started))
    fun _ => frame.trans h (frame.failed w' number)

theorem leaf (leaf : Leaf) (context : Context)
    (opened : ∀ w, context.minPriority ≤ leaf.priority →
      w.supports leaf.mechanism context.encrypted = true →
      R w (w.openTransport leaf context.encrypted).2) :
    Keeps R (leaf.poll context) := by
  intro p w
  refine Poll.yields_world.mp (leaf.poll_rule context p w ?_ ?_ ?_)
  · exact fun number started answer _ =>
      frame.pollOpening leaf (frame.refl w) number started answer
  · exact fun _ _ => frame.refl w
  · exact fun _ answer hpriority hsupports =>
      frame.pollOpening leaf (opened w hpriority hsupports) _ _ answer

theorem delayed (delay : Duration) {child : Poller} (hc : Keeps R child) :
    Keeps R (pollDelayed delay child) := by
  intro progress w
  unfold pollDelayed
  dsimp only
  split
  · exact hc _ w
  · have hwait : ∀ timer : Timer, R w
        (if timer.isDue w.now then
          ((child .unstarted w).1.map Progress.delegated, (child .unstarted w).2)
        else (.pending (Progress.waiting timer), w)).2 := by
      intro timer
      split
      · exact hc _ w
      · exact frame.refl w
    split
    · exact hwait _
    · exact hwait _

theorem sequential (options : SequentialOptions) (count : Nat) (kind : Nat → String)
    {child : Nat → Poller} (hc : ∀ i, Keeps R (child i)) :
    Keeps R (pollSequential options count kind child) := by
  intro progress w
  have look : Sequence.Looks
      ⟨options, count, kind, child, .unstarted, Progress.abandon, w.now, w.turn⟩
      (fun _ _ => R w) (R w) (fun _ => R w) := by
    intro i s w' hw
    have hw := frame.trans hw (hc i s w')
    dsimp only
    generalize child i s w' = polled at hw ⊢
    refine (Poll.yields_world.mpr hw).mono fun s w' hw => ⟨hw, ?_⟩
    exact frame.trans hw (frame.cancel w' _)
  unfold pollSequential
  dsimp only
  split
  · exact Sequence.poll_keeps look _ (frame.refl w)
  · exact Sequence.first_keeps look (frame.refl w)

theorem racePoll {child : Nat → Poller} (hc : ∀ i, Keeps R (child i)) (elapsed : Bool)
    (state : Race.State Progress) (w : World) :
    Race.Outcome.Yields (fun _ => R w) (fun _ _ _ => R w)
      (Race.poll child .unstarted elapsed state w) := by
  have look : Race.Looks child (fun _ => R w) (fun _ _ _ => R w) := by
    intro state w' i s hw _
    exact Poll.yields_world.mpr (frame.trans hw (hc i s w'))
  exact Race.poll_rule .unstarted look (fun _ _ h => h) elapsed state (frame.refl w)

theorem race (lead : Option (Nat × Timer)) {child : Nat → Poller}
    {onWin : Nat → Connection → World → World} (state : Race.State Progress) (w : World)
    (hc : ∀ i, Keeps R (child i)) (hwin : ∀ i connection w, R w (onWin i connection w)) :
    R w (pollRace lead child onWin state w).2 := by
  unfold pollRace
  dsimp only
  generalize Option.any _ lead = elapsed
  have hrule := frame.racePoll hc elapsed state w
  generalize Race.poll child .unstarted elapsed state w = polled at hrule ⊢
  obtain ⟨outcome, w'⟩ := polled
  cases outcome with
  | pending state => exact hrule
  | won i connection state =>
    exact frame.trans hrule (frame.trans (frame.abandonAll state.running w') (hwin _ _ _))
  | lost failures =>
    obtain ⟨-, hw, -⟩ := hrule
    exact hw

theorem firstConnected (count : Nat) {child : Nat → Poller} (hc : ∀ i, Keeps R (child i)) :
    Keeps R (pollFirstConnected count child) := by
  intro progress w
  unfold pollFirstConnected
  split
  · exact frame.race none _ w hc fun _ _ w => frame.refl w
  · split
    · exact frame.refl w
    · exact frame.race none _ w hc fun _ _ w => frame.refl w

theorem bestConnectedEver {site : Site}
    (remembered : ∀ w history, R w (w.setHistory site history)) (count : Nat)
    {child : Nat → Poller} (hc : ∀ i, Keeps R (child i)) :
    Keeps R (pollBestConnectedEver site count child) := by
  intro progress w
  have hwin : ∀ lead i connection w, R w (rememberWin site count lead i connection w) :=
    fun lead i connection w => remembered w _
  unfold pollBestConnectedEver
  split
  · exact frame.race _ _ w hc (hwin _)
  · split
    · exact frame.refl w
    · split
      · exact frame.race _ _ w hc (hwin _)
      · exact frame.race _ _ w hc (hwin _)

omit frame in
theorem branch (condition : World → Bool) {onTrue onFalse : Poller} (ht : Keeps R onTrue)
    (hf : Keeps R onFalse) : Keeps R (pollBranch condition onTrue onFalse) := by
  intro progress w
  have hside : ∀ (outcome : Bool) (inner : Progress),
      R w ((if outcome then onTrue else onFalse) inner w).2 := by
    intro outcome inner
    cases outcome with
    | true => exact ht inner w
    | false => exact hf inner w
  unfold pollBranch
  dsimp only
  split
  · exact hside _ _
  · exact hside _ _

section

variable {settings : CacheSettings}
  (store : ∀ w transport took, R w (w.storeCache settings transport took))
  (flush : ∀ w, R w (w.flushCache settings)) {child : Poller} (hc : Keeps R child)

include store flush hc

theorem uncached (started : Instant) (progress : Progress) (w : World) :
    R w (pollUncached settings child started progress w).2 := by
  have hw := hc progress w
  unfold pollUncached
  generalize child progress w = polled at hw ⊢
  obtain ⟨answer, w'⟩ := polled
  cases answer with
  | pending progress => exact hw
  | ready result =>
    cases result with
    | error e => exact frame.trans hw (flush w')
    | ok connection => exact frame.trans hw (store w' _ _)

theorem retry {entry : String → Poller} (he : ∀ name, Keeps R (entry name)) (timer : Timer)
    (started : Instant) (name : String) (progress : Progress) (w : World) :
    R w (pollRetry settings entry child timer started name progress w).2 := by
  have hw := he name progress w
  have hgiveUp : ∀ w, R w
      (pollUncached settings child w.now .unstarted (w.flushCache settings)).2 :=
    fun w => frame.trans (flush w) (frame.uncached store flush hc _ _ _)
  unfold pollRetry
  dsimp only
  generalize entry name progress w = polled at hw ⊢
  obtain ⟨answer, w'⟩ := polled
  cases answer with
  | pending progress =>
    dsimp only
    split
    · exact frame.trans hw (frame.trans (frame.cancel w' _) (hgiveUp _))
    · exact hw
  | ready result =>
    cases result with
    | error e => exact frame.trans hw (hgiveUp w')
    | ok connection => exact frame.trans hw (store w' _ _)

theorem cached {entry : String → Poller} (he : ∀ name, Keeps R (entry name))
    (isKnown : String → Bool) : Keeps R (pollCached settings isKnown entry child) := by
  intro progress w
  unfold pollCached
  split
  · exact frame.retry store flush hc he _ _ _ _ w
  · exact frame.uncached store flush hc _ _ w
  · split
    · split
      · exact frame.retry store flush hc he _ _ _ _ w
      · exact frame.uncached store flush hc _ _ w
    · exact frame.uncached store flush hc _ _ w

end

theorem pollFound {context : Context} {found : Option Strategy}
    (h : ∀ node, found = some node → Keeps R (node.poll context)) :
    Keeps R (Strategy.pollFound context found) := by
  intro p w
  cases found with
  | none => exact frame.refl w
  | some node => exact h node rfl p w

end Frame

/-- A frame that also the opens of the leaves keep, the memory of the races and the stores of
the cached nodes, which an attempt can reach. -/
structure FrameAt (root : Strategy) (context : Context) (R : World → World → Prop) : Prop
    extends Frame R where
  opened : ∀ {underCache leaf c},
    Strategy.Reaches root context underCache (.transport leaf) c →
    ∀ w, c.minPriority ≤ leaf.priority → w.supports leaf.mechanism c.encrypted = true →
    R w (w.openTransport leaf c.encrypted).2
  remembered : ∀ {underCache site children c},
    Strategy.Reaches root context underCache (.bestConnectedEver site children) c →
    ∀ w history, R w (w.setHistory site history)
  stored : ∀ {underCache settings transports child c},
    Strategy.Reaches root context underCache (.cached settings transports child) c →
    ∀ w transport took, R w (w.storeCache settings transport took)
  flushed : ∀ {underCache settings transports child c},
    Strategy.Reaches root context underCache (.cached settings transports child) c →
    ∀ w, R w (w.flushCache settings)

/-- Every poll of a reachable node keeps the frame. -/
theorem FrameAt.poll {root : Strategy} {context : Context} {R : World → World → Prop}
    (frame : FrameAt root context R) (node : Strategy) :
    ∀ {underCache : Bool} {c : Context}, Strategy.Reaches root context underCache node c →
    Keeps R (node.poll c) := by
  have hat : ∀ {children : List Strategy} {c : Context},
      (∀ child ∈ children, Keeps R (child.poll c)) →
      ∀ i, Keeps R (Strategy.pollAt children i c) := by
    intro children c h i
    rw [Strategy.pollAt_eq]
    exact frame.toFrame.pollFound fun child hi => h child (List.mem_of_getElem? hi)
  induction node using Strategy.nodeInduction with
  | transport leaf => exact fun h => frame.toFrame.leaf leaf _ (frame.opened h)
  | unsupported name => exact fun _ _ w => frame.refl w
  | delayed delay child ih => exact fun h => frame.toFrame.delayed delay (ih h.delayed)
  | sequential options children ih =>
    exact fun h => frame.toFrame.sequential options _ _ (hat fun child hm =>
      ih child hm (h.sequential hm))
  | cached settings transports child ihEntries ihChild =>
    intro underCache c h
    refine frame.toFrame.cached (frame.stored h) (frame.flushed h) (ihChild h.cached) ?_ _
    intro name
    rw [Strategy.pollNamed_eq]
    refine frame.toFrame.pollFound fun entry hentry => ?_
    have hm := Table.mem_of_find hentry
    exact ihEntries _ hm (h.entry hm)
  | firstConnected children ih =>
    exact fun h => frame.toFrame.firstConnected _ (hat fun child hm =>
      ih child hm (h.firstConnected hm))
  | bestConnectedEver site children ih =>
    exact fun h => frame.toFrame.bestConnectedEver (frame.remembered h) _ (hat fun child hm =>
      ih child hm (h.bestConnectedEver hm))
  | branch test onTrue onFalse _ ihTrue ihFalse =>
    exact fun h => Frame.branch _ (ihTrue h.onTrue) (ihFalse h.onFalse)

end Dialplan
