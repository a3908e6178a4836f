import Dialplan.Proofs.Lockstep.Progress

/-! Nodes in step. Two pollers of a node are compared in two worlds; `Lockstep` says which single
steps of a node the relation between the worlds has to survive. Then every kind of node is polled
in step when its children are. -/

namespace Dialplan

open List (Forall₂)

variable {number : Nat → Nat → Prop} {won : Connection → Connection → Prop}
  {lost : Error → Error → Prop} {worlds : World → World → Prop}

/-- Laws of polling in step: what two worlds have in common, and what they keep when opens in
flight fail or are given up, whose numbers correspond. -/
structure Lockstep (number : Nat → Nat → Prop) (won : Connection → Connection → Prop)
    (lost : Error → Error → Prop) (worlds : World → World → Prop) : Prop where
  now : ∀ {w w'}, worlds w w' → w'.now = w.now
  turn : ∀ {w w'}, worlds w w' → w'.turn = w.turn
  wallClock : ∀ {w w'}, worlds w w' → w'.wallClock = w.wallClock
  failed : ∀ {w w' n n'}, worlds w w' → number n n' → worlds (w.fail n) (w'.fail n')
  cancelled : ∀ {w w' n n'}, worlds w w' → number n n' →
    worlds (w.record (.cancelled n w.now)) (w'.record (.cancelled n' w'.now))
  transport : ∀ {connection connection'}, won connection connection' →
    connection'.transport = connection.transport
  latency : ∀ {connection connection'}, won connection connection' →
    connection'.latency = connection.latency
  priority : ∀ {connection connection'}, won connection connection' →
    connection'.priority = connection.priority
  same : ∀ e, lost e e
  all : ∀ {failures failures'}, Forall₂ lost failures failures' →
    lost (.allFailed failures) (.allFailed failures')

/-- What is in progress in both runs: it is alike, and what holds of the first. -/
def Abreast (number : Nat → Nat → Prop) (lost : Error → Error → Prop) (fits : Progress → Prop)
    (p q : Progress) : Prop :=
  p.Alike number lost q ∧ fits p

/-- What is in progress fits a node. -/
abbrev Fits (node : Strategy) (c : Context) : Progress → Prop := Holds (fun _ _ _ => True) node c

/-- What is in progress fits the node that was looked up, if any was found. -/
abbrev FitsFound (found : Option Strategy) (c : Context) (p : Progress) : Prop :=
  ∀ node, found = some node → Fits node c p

/-- Slots that stand alike and fit, seen slot by slot. -/
theorem Race.SlotsAlike.of_forall₂ {children : List Strategy} {c : Context}
    {slots slots' : List (Race.Slot Progress)}
    (h : Forall₂ (Race.Slot.Alike (Progress.Alike number lost)) slots slots')
    (hold : SlotsHold (fun _ _ _ => True) children c slots) :
    Race.SlotsAlike (fun i => Abreast number lost (FitsFound children[i]? c)) slots slots' := by
  intro i
  have hi := forall₂_iff_getElem?.mp h i
  generalize hslot : slots[i]? = slot, slots'[i]? = slot' at hi
  cases hi with
  | none => exact .none
  | some hs =>
    cases hs with
    | held => exact .some .held
    | running ha => exact .some (.running ⟨ha, fun node hn => hold i node _ hn hslot⟩)
    | failed => exact .some .failed

theorem Race.SlotsAlike.forall₂ {fits : Nat → Progress → Prop}
    {slots slots' : List (Race.Slot Progress)}
    (h : Race.SlotsAlike (fun i => Abreast number lost (fits i)) slots slots') :
    Forall₂ (Race.Slot.Alike (Progress.Alike number lost)) slots slots' := by
  refine forall₂_iff_getElem?.mpr fun i => ?_
  have hi := h i
  generalize slots[i]? = slot, slots'[i]? = slot' at hi
  cases hi with
  | none => exact .none
  | some hs =>
    cases hs with
    | held => exact .some .held
    | running ha => exact .some (.running ha.1)
    | failed => exact .some .failed

theorem Race.SlotsAlike.hold {children : List Strategy} {c : Context}
    {slots slots' : List (Race.Slot Progress)}
    (h : Race.SlotsAlike (fun i => Abreast number lost (FitsFound children[i]? c)) slots slots') :
    SlotsHold (fun _ _ _ => True) children c slots := by
  intro i child p hchild hslot
  have hi := h i
  rw [hslot] at hi
  generalize slots'[i]? = slot' at hi
  cases hi with
  | some hs =>
    cases hs with
    | running ha => exact ha.2 child hchild

/-- Two pollers go in step. -/
def InStep (number : Nat → Nat → Prop) (won : Connection → Connection → Prop)
    (lost : Error → Error → Prop) (worlds : World → World → Prop) (fits : Progress → Prop)
    (poller poller' : Poller) : Prop :=
  ∀ p q w w', Abreast number lost fits p q → worlds w w' →
    Poll.InStep (Abreast number lost fits) won lost worlds (poller p w) (poller' q w')

namespace Lockstep

variable (step : Lockstep number won lost worlds) {c : Context}

include step

theorem cancel {w w' : World} {numbers numbers' : List Nat} (hw : worlds w w')
    (hn : Forall₂ number numbers numbers') : worlds (w.cancel numbers) (w'.cancel numbers') := by
  unfold World.cancel
  induction hn generalizing w w' with
  | nil => exact hw
  | cons hn _ ih => exact ih (step.cancelled hw hn)

theorem timer {w w' : World} (hw : worlds w w') (length : Duration) :
    Timer.start w' length = Timer.start w length := by
  rw [Timer.start, Timer.start, step.now hw, step.turn hw]

theorem delayed (delay : Duration) {child : Strategy} {poller poller' : Poller}
    (hc : InStep number won lost worlds (Fits child c) poller poller') :
    InStep number won lost worlds (Fits (.delayed delay child) c) (pollDelayed delay poller)
      (pollDelayed delay poller') := by
  intro p q w w' ⟨ha, hp⟩ hw
  have hchild : ∀ {p q}, p.Alike number lost q → Fits child c p →
      Poll.InStep (Abreast number lost (Fits (.delayed delay child) c)) won lost worlds
        ((poller p w).1.map Progress.delegated, (poller p w).2)
        ((poller' q w').1.map Progress.delegated, (poller' q w').2) := by
    intro p q ha hp
    refine Poll.InStep.map ((hc p q w w' ⟨ha, hp⟩ hw).mono ?_)
    exact fun p q h => ⟨.delegated h.1, .delegated h.2⟩
  have hwait : ∀ timer : Timer,
      Poll.InStep (Abreast number lost (Fits (.delayed delay child) c)) won lost worlds
        (if timer.isDue w.now then
          ((poller .unstarted w).1.map Progress.delegated, (poller .unstarted w).2)
        else (.pending (.waiting timer), w))
        (if timer.isDue w'.now then
          ((poller' .unstarted w').1.map Progress.delegated, (poller' .unstarted w').2)
        else (.pending (.waiting timer), w')) := by
    intro timer
    rw [step.now hw]
    split
    · exact hchild .unstarted .unstarted
    · exact .pending ⟨.waiting, .waiting⟩ hw
  cases hp with
  | unstarted =>
    cases ha
    unfold pollDelayed
    dsimp only
    rw [step.timer hw]
    exact hwait _
  | waiting =>
    cases ha
    exact hwait _
  | delegated hp =>
    cases ha with
    | delegated ha => exact hchild ha hp

theorem sequential (options : SequentialOptions) {children : List Strategy} {count' : Nat}
    (hcount : count' = children.length) {kind kind' : Nat → String} {poller poller' : Nat → Poller}
    (hc : ∀ i p q w w', Abreast number lost (FitsFound children[i]? c) p q → worlds w w' →
      Poll.InStep (fun p q => Abreast number lost (FitsFound children[i]? c) p q ∧ kind' i = kind i)
        won lost worlds (poller i p w) (poller' i q w')) :
    InStep number won lost worlds (Fits (.sequential options children) c)
      (pollSequential options children.length kind poller)
      (pollSequential options count' kind' poller') := by
  intro p q w w' ⟨ha, hp⟩ hw
  have hsetting : Sequence.Setting.Alike
      (fun i => Abreast number lost (FitsFound children[i]? c)) won lost worlds
      ⟨options, children.length, kind, poller, .unstarted, Progress.abandon, w.now, w.turn⟩
      ⟨options, count', kind', poller', .unstarted, Progress.abandon, w'.now, w'.turn⟩ :=
    { options := rfl
      count := hcount
      now := step.now hw
      turn := step.turn hw
      start := fun _ => ⟨.unstarted, fun _ _ => .unstarted⟩
      child := hc
      abandon := fun _ _ _ _ _ ha hw => step.cancel hw ha.1.inFlight
      same := step.same
      all := fun _ _ => step.all }
  have hdone : ∀ {polled polled'},
      Poll.InStep (Sequence.State.Alike
        (fun i => Abreast number lost (FitsFound children[i]? c)) lost) won lost worlds polled
        polled' →
      Poll.InStep (Abreast number lost (Fits (.sequential options children) c)) won lost worlds
        (polled.1.map Progress.ofSequence, polled.2)
        (polled'.1.map Progress.ofSequence, polled'.2) := by
    intro polled polled' h
    refine Poll.InStep.map (h.mono ?_)
    rintro ⟨index, bound, failures, phase⟩ ⟨_, _, failures', phase'⟩ ⟨rfl, rfl, hf, hphase⟩
    cases hphase with
    | trying ha => exact ⟨.sequencing hf (.trying ha.1), .trying ha.2⟩
    | waitingOut => exact ⟨.sequencing hf .waitingOut, .waitingOut⟩
    | rewound => exact ⟨.sequencing hf .rewound, .rewound⟩
  have hpoll : ∀ {index bound failures failures' phase phase'}, Forall₂ lost failures failures' →
      Sequence.Phase.Alike (Abreast number lost (FitsFound children[index]? c)) phase phase' →
      Poll.InStep (Abreast number lost (Fits (.sequential options children) c)) won lost worlds
        (pollSequential options children.length kind poller
          (.sequencing index bound failures phase) w)
        (pollSequential options count' kind' poller'
          (.sequencing index bound failures' phase') w') :=
    fun hf hphase => hdone (Sequence.poll_inStep hsetting ⟨rfl, rfl, hf, hphase⟩ hw)
  cases hp with
  | unstarted =>
    cases ha
    exact hdone (Sequence.first_inStep hsetting hw)
  | trying hp =>
    cases ha with
    | sequencing hf hphase =>
      cases hphase with
      | trying ha => exact hpoll hf (.trying ⟨ha, hp⟩)
  | waitingOut =>
    cases ha with
    | sequencing hf hphase =>
      cases hphase
      exact hpoll hf .waitingOut
  | rewound =>
    cases ha with
    | sequencing hf hphase =>
      cases hphase
      exact hpoll hf .rewound

/-- A race is polled in step, whatever is written down when it is won. -/
theorem race {fits : Progress → Prop} {children : List Strategy} (lead : Option (Nat × Timer))
    (hfits : ∀ holding order slots failures, SlotsHold (fun _ _ _ => True) children c slots →
      fits (.racing lead holding order slots failures))
    {poller poller' : Nat → Poller} {onWin onWin' : Nat → Connection → World → World}
    (hc : ∀ i, InStep number won lost worlds (FitsFound children[i]? c) (poller i) (poller' i))
    (hwin : ∀ i {connection connection' w w'}, won connection connection' → worlds w w' →
      worlds (onWin i connection w) (onWin' i connection' w'))
    {state state' : Race.State Progress} {w w' : World}
    (h : Race.State.Alike (fun i => Abreast number lost (FitsFound children[i]? c)) lost state
      state') (hw : worlds w w') :
    Poll.InStep (Abreast number lost fits) won lost worlds (pollRace lead poller onWin state w)
      (pollRace lead poller' onWin' state' w') := by
  unfold pollRace
  dsimp only
  rw [step.now hw]
  generalize Option.any _ lead = elapsed
  have hrule := Race.poll_inStep hc (fun _ => ⟨.unstarted, fun _ _ => .unstarted⟩) elapsed h hw
  generalize Race.poll poller .unstarted _ state w = polled,
    Race.poll poller' .unstarted _ state' w' = polled' at hrule ⊢
  cases hrule with
  | @pending state state' _ _ h hw =>
    obtain ⟨holding, order, slots, failures⟩ := state
    obtain ⟨_, _, slots', failures'⟩ := state'
    obtain ⟨rfl, rfl, hslots, hf⟩ := h
    exact .pending ⟨.racing hslots.forall₂ hf, hfits _ _ _ _ hslots.hold⟩ hw
  | @won i connection connection' state state' w w' hwon h hw =>
    refine .connected hwon (hwin i hwon ?_)
    rw [Progress.abandonAll_eq, Progress.abandonAll_eq]
    exact step.cancel hw (Progress.inFlightSlots_alike h.slots.forall₂)
  | lost hf hw => exact .failed (step.all hf) hw

theorem firstConnected {children : List Strategy} {count' : Nat}
    (hcount : count' = children.length) {poller poller' : Nat → Poller}
    (hc : ∀ i, InStep number won lost worlds (FitsFound children[i]? c) (poller i) (poller' i)) :
    InStep number won lost worlds (Fits (.firstConnected children) c)
      (pollFirstConnected children.length poller) (pollFirstConnected count' poller') := by
  subst hcount
  intro p q w w' ⟨ha, hp⟩ hw
  have hrace : ∀ {lead state state'}, Race.State.Alike
      (fun i => Abreast number lost (FitsFound children[i]? c)) lost state state' →
      Poll.InStep (Abreast number lost (Fits (.firstConnected children) c)) won lost worlds
        (pollRace lead poller (fun _ _ w => w) state w)
        (pollRace lead poller' (fun _ _ w => w) state' w') :=
    fun h => step.race _ (fun _ _ _ _ => .firstConnected) hc (fun _ _ _ _ _ _ hw => hw) h hw
  cases hp with
  | unstarted =>
    cases ha
    unfold pollFirstConnected
    dsimp only
    split
    · exact .failed (step.all .nil) hw
    · exact hrace (.together (fun _ => ⟨.unstarted, fun _ _ => .unstarted⟩) _)
  | firstConnected hp =>
    cases ha with
    | racing hslots hf => exact hrace ⟨rfl, rfl, .of_forall₂ hslots hp, hf⟩

theorem bestConnectedEver {site : Site} {children : List Strategy} {count' : Nat}
    (hcount : count' = children.length) {poller poller' : Nat → Poller}
    (hhistory : ∀ {w w'}, worlds w w' →
      w'.history site children.length = w.history site children.length)
    (hremembered : ∀ {w w'} history, worlds w w' →
      worlds (w.setHistory site history) (w'.setHistory site history))
    (hc : ∀ i, InStep number won lost worlds (FitsFound children[i]? c) (poller i) (poller' i)) :
    InStep number won lost worlds (Fits (.bestConnectedEver site children) c)
      (pollBestConnectedEver site children.length poller)
      (pollBestConnectedEver site count' poller') := by
  subst hcount
  intro p q w w' ⟨ha, hp⟩ hw
  have hrace : ∀ lead who {state state'}, Race.State.Alike
      (fun i => Abreast number lost (FitsFound children[i]? c)) lost state state' →
      Poll.InStep (Abreast number lost (Fits (.bestConnectedEver site children) c)) won lost worlds
        (pollRace lead poller (rememberWin site children.length who) state w)
        (pollRace lead poller' (rememberWin site children.length who) state' w') := by
    refine fun lead who _ _ h => step.race lead (fun _ _ _ _ => .bestConnectedEver) hc ?_ h hw
    intro i connection connection' w w' hwon hw
    rw [rememberWin, rememberWin, hhistory hw, step.latency hwon, step.priority hwon]
    exact hremembered _ hw
  cases hp with
  | unstarted =>
    cases ha
    unfold pollBestConnectedEver
    dsimp only
    rw [hhistory hw, step.timer hw]
    split
    · exact .failed (step.all .nil) hw
    · split
      · exact hrace _ _ (.behind (fun _ => ⟨.unstarted, fun _ _ => .unstarted⟩) _ _)
      · exact hrace _ _ (.together (fun _ => ⟨.unstarted, fun _ _ => .unstarted⟩) _)
  | bestConnectedEver hp =>
    cases ha with
    | racing hslots hf => exact hrace _ _ ⟨rfl, rfl, .of_forall₂ hslots hp, hf⟩

omit step in
theorem branch {test : Condition Strategy} {onTrue onFalse : Strategy}
    {condition condition' : World → Bool}
    (hcondition : ∀ {w w'}, worlds w w' → condition' w' = condition w)
    {pollTrue pollTrue' pollFalse pollFalse' : Poller}
    (ht : InStep number won lost worlds (Fits onTrue c) pollTrue pollTrue')
    (hf : InStep number won lost worlds (Fits onFalse c) pollFalse pollFalse') :
    InStep number won lost worlds (Fits (.branch test onTrue onFalse) c)
      (pollBranch condition pollTrue pollFalse) (pollBranch condition' pollTrue' pollFalse') := by
  intro p q w w' ⟨ha, hp⟩ hw
  have hside : ∀ (outcome : Bool) {inner inner' : Progress}, inner.Alike number lost inner' →
      Fits (if outcome then onTrue else onFalse) c inner →
      Poll.InStep (Abreast number lost (Fits (.branch test onTrue onFalse) c)) won lost worlds
        (((if outcome then pollTrue else pollFalse) inner w).1.map (.branched outcome),
          ((if outcome then pollTrue else pollFalse) inner w).2)
        (((if outcome then pollTrue' else pollFalse') inner' w').1.map (.branched outcome),
          ((if outcome then pollTrue' else pollFalse') inner' w').2) := by
    intro outcome inner inner' ha hp
    cases outcome with
    | true =>
      exact Poll.InStep.map ((ht _ _ w w' ⟨ha, hp⟩ hw).mono
        fun _ _ h => ⟨.branched h.1, .onTrue h.2⟩)
    | false =>
      exact Poll.InStep.map ((hf _ _ w w' ⟨ha, hp⟩ hw).mono
        fun _ _ h => ⟨.branched h.1, .onFalse h.2⟩)
  cases hp with
  | unstarted =>
    cases ha
    unfold pollBranch
    dsimp only
    rw [hcondition hw]
    exact hside _ .unstarted .unstarted
  | onTrue hp =>
    cases ha with
    | branched ha => exact hside true ha hp
  | onFalse hp =>
    cases ha with
    | branched ha => exact hside false ha hp

section

variable {settings : CacheSettings} {transports : List (String × Strategy)} {child : Strategy}
  {poller poller' : Poller}
  (hstored : ∀ {w w'} transport took, worlds w w' →
    worlds (w.storeCache settings transport took) (w'.storeCache settings transport took))
  (hflushed : ∀ {w w'}, worlds w w' → worlds (w.flushCache settings) (w'.flushCache settings))
  (hc : InStep number won lost worlds (Fits child { c with encrypted := settings.encrypted })
    poller poller')

include hstored hflushed hc

theorem uncached (started : Instant) {p q : Progress} {w w' : World}
    (h : Abreast number lost (Fits child { c with encrypted := settings.encrypted }) p q)
    (hw : worlds w w') :
    Poll.InStep (Abreast number lost (Fits (.cached settings transports child) c)) won lost worlds
      (pollUncached settings poller started p w) (pollUncached settings poller' started q w') := by
  have hpolled := hc p q w w' h hw
  unfold pollUncached
  generalize poller p w = polled, poller' q w' = polled' at hpolled ⊢
  cases hpolled with
  | pending h hw => exact .pending ⟨.uncached h.1, .uncached h.2⟩ hw
  | connected hwon hw =>
    refine .connected hwon ?_
    rw [finishCached, finishCached, step.transport hwon, step.now hw]
    exact hstored _ _ hw
  | failed hlost hw => exact .failed hlost (hflushed hw)

variable {entry entry' : String → Poller}
  (he : ∀ name, InStep number won lost worlds
    (FitsFound (Table.find transports name) { c with encrypted := settings.encrypted })
    (entry name) (entry' name))

include he

theorem retry (timer : Timer) (started : Instant) (name : String) {p q : Progress} {w w' : World}
    (h : Abreast number lost
      (FitsFound (Table.find transports name) { c with encrypted := settings.encrypted }) p q)
    (hw : worlds w w') :
    Poll.InStep (Abreast number lost (Fits (.cached settings transports child) c)) won lost worlds
      (pollRetry settings entry poller timer started name p w)
      (pollRetry settings entry' poller' timer started name q w') := by
  have hgiveUp : ∀ {w w'}, worlds w w' →
      Poll.InStep (Abreast number lost (Fits (.cached settings transports child) c)) won lost worlds
        (pollUncached settings poller w.now .unstarted (w.flushCache settings))
        (pollUncached settings poller' w'.now .unstarted (w'.flushCache settings)) := by
    intro w w' hw
    rw [step.now hw]
    exact step.uncached hstored hflushed hc _ ⟨.unstarted, .unstarted⟩ (hflushed hw)
  have hpolled := he name p q w w' h hw
  unfold pollRetry
  dsimp only
  generalize entry name p w = polled, entry' name q w' = polled' at hpolled ⊢
  cases hpolled with
  | pending h hw =>
    dsimp only
    rw [step.now hw]
    split
    · exact hgiveUp (step.cancel hw h.1.inFlight)
    · exact .pending ⟨.retrying h.1, .retrying h.2⟩ hw
  | connected hwon hw =>
    refine .connected hwon ?_
    rw [finishCached, finishCached, step.transport hwon, step.now hw]
    exact hstored _ _ hw
  | failed hlost hw => exact hgiveUp hw

theorem cached {isKnown isKnown' : String → Bool} (hknown : isKnown' = isKnown)
    (hrecord : ∀ {w w'}, worlds w w' → (w'.cache settings.cache).fetch settings.encrypted =
      (w.cache settings.cache).fetch settings.encrypted) :
    InStep number won lost worlds (Fits (.cached settings transports child) c)
      (pollCached settings isKnown entry poller) (pollCached settings isKnown' entry' poller') := by
  subst hknown
  intro p q w w' ⟨ha, hp⟩ hw
  cases hp with
  | unstarted =>
    cases ha
    have hfresh : freshRecord? settings w' = freshRecord? settings w := by
      rw [freshRecord?, freshRecord?, hrecord hw, step.wallClock hw]
    have hchild : Poll.InStep (Abreast number lost (Fits (.cached settings transports child) c))
        won lost worlds (pollUncached settings poller w.now .unstarted w)
        (pollUncached settings poller' w.now .unstarted w') :=
      step.uncached hstored hflushed hc w.now ⟨.unstarted, .unstarted⟩ hw
    unfold pollCached
    dsimp only
    rw [hfresh, step.now hw]
    split
    · rename_i cached _
      rw [step.timer hw]
      split
      · exact step.retry hstored hflushed hc he _ _ _ ⟨.unstarted, fun _ _ => .unstarted⟩ hw
      · exact hchild
    · exact hchild
  | retrying hp =>
    cases ha with
    | retrying ha => exact step.retry hstored hflushed hc he _ _ _ ⟨ha, hp⟩ hw
  | uncached hp =>
    cases ha with
    | uncached ha => exact step.uncached hstored hflushed hc _ ⟨ha, hp⟩ hw

end

/-- A leaf opens in both worlds or in neither, and its open is answered alike. -/
theorem leaf (leaf : Leaf)
    (hsupports : ∀ {w w'}, worlds w w' →
      w'.supports leaf.mechanism c.encrypted = w.supports leaf.mechanism c.encrypted)
    (hopened : ∀ {w w'}, worlds w w' →
      (w'.openTransport leaf c.encrypted).1 = (w.openTransport leaf c.encrypted).1 ∧
      number (w.opens + 1) (w'.opens + 1) ∧
      worlds (w.openTransport leaf c.encrypted).2 (w'.openTransport leaf c.encrypted).2)
    (hconnected : ∀ {w w' n n'} started, worlds w w' → number n n' →
      won (w.connect leaf n started).1 (w'.connect leaf n' started).1 ∧
      worlds (w.connect leaf n started).2 (w'.connect leaf n' started).2) :
    InStep number won lost worlds (Fits (.transport leaf) c) (leaf.poll c) (leaf.poll c) := by
  have hanswered : ∀ {n n' w w'} started answer, number n n' → worlds w w' →
      Poll.InStep (Abreast number lost (Fits (.transport leaf) c)) won lost worlds
        (leaf.pollOpening n started answer w) (leaf.pollOpening n' started answer w') := by
    intro n n' w w' started answer hn hw
    have hwaits : Poll.InStep (Abreast number lost (Fits (.transport leaf) c)) won lost worlds
        (.pending (.opening n started answer), w) (.pending (.opening n' started answer), w') :=
      .pending ⟨.opening hn, .opening trivial⟩ hw
    unfold Leaf.pollOpening
    cases answer with
    | none => exact hwaits
    | some answer =>
      obtain ⟨timer, failure⟩ := answer
      dsimp only
      rw [step.now hw]
      split
      · cases failure with
        | some e => exact .failed (step.same e) (step.failed hw hn)
        | none =>
          obtain ⟨hwon, hw⟩ := hconnected started hw hn
          exact .connected hwon hw
      · exact hwaits
  intro p q w w' ⟨ha, hp⟩ hw
  cases hp with
  | unstarted =>
    cases ha
    unfold Leaf.poll
    dsimp only
    rw [hsupports hw]
    split
    · exact .failed (step.same _) hw
    · split
      · exact .failed (step.same _) hw
      · obtain ⟨hbehaviour, hn, hw⟩ := hopened hw
        rw [hbehaviour, step.now hw]
        simp only [step.timer hw]
        exact hanswered _ _ hn hw
  | opening =>
    cases ha with
    | opening hn => exact hanswered _ _ hn hw

end Lockstep

end Dialplan
