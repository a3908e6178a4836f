import Dialplan.Proofs.Lockstep.Nodes
import Dialplan.Proofs.Opens.Requests

/-! Trees in step. A tree and one in which leaves stand where it has disabled definitions support
the same (`Replaces.isSupported_eq`), and are polled in step in two worlds whose relation
survives each single step of the nodes an attempt can reach (`LockstepAt.poll`). With nothing
replaced these are two attempts on one tree. -/

namespace Dialplan

open List (Forall₂)

/-- The second tree has leaves where the first has disabled definitions of the same names: below
its nodes, in its conditions and in its tables. -/
inductive Replaces (stands : Leaf → Prop) : Strategy → Strategy → Prop where
  | transport {leaf} : Replaces stands (.transport leaf) (.transport leaf)
  | unsupported {name} : Replaces stands (.unsupported name) (.unsupported name)
  | standIn {leaf} : stands leaf → Replaces stands (.unsupported leaf.name) (.transport leaf)
  | delayed {delay child child'} : Replaces stands child child' →
      Replaces stands (.delayed delay child) (.delayed delay child')
  | sequential {options children children'} : Forall₂ (Replaces stands) children children' →
      Replaces stands (.sequential options children) (.sequential options children')
  | cached {settings transports transports' child child'} :
      transports'.map Prod.fst = transports.map Prod.fst →
      Forall₂ (Replaces stands) (transports.map Prod.snd) (transports'.map Prod.snd) →
      Replaces stands child child' →
      Replaces stands (.cached settings transports child) (.cached settings transports' child')
  | firstConnected {children children'} : Forall₂ (Replaces stands) children children' →
      Replaces stands (.firstConnected children) (.firstConnected children')
  | bestConnectedEver {site children children'} : Forall₂ (Replaces stands) children children' →
      Replaces stands (.bestConnectedEver site children) (.bestConnectedEver site children')
  | condition {strategy strategy' onTrue onTrue' onFalse onFalse'} :
      Replaces stands strategy strategy' → Replaces stands onTrue onTrue' →
      Replaces stands onFalse onFalse' →
      Replaces stands (.branch (.isSupported strategy) onTrue onFalse)
        (.branch (.isSupported strategy') onTrue' onFalse')
  | constant {outcome onTrue onTrue' onFalse onFalse'} : Replaces stands onTrue onTrue' →
      Replaces stands onFalse onFalse' →
      Replaces stands (.branch (.constant outcome) onTrue onFalse)
        (.branch (.constant outcome) onTrue' onFalse')

/-- No leaf of some kind can open anything. -/
def Unsupporting (stands : Leaf → Prop) (supports : Nat → Bool → Bool) : Prop :=
  ∀ leaf, stands leaf → ∀ encrypted, supports leaf.mechanism encrypted = false

namespace Replaces

variable {stands : Leaf → Prop}

/-- Every tree is one in which nothing has been replaced. -/
theorem refl (node : Strategy) : Replaces stands node node := by
  induction node using Strategy.nodeInduction with
  | transport leaf => exact .transport
  | unsupported name => exact .unsupported
  | delayed delay child ih => exact .delayed ih
  | sequential options children ih => exact .sequential (List.forall₂_same.mpr ih)
  | cached settings transports child ihEntries ihChild =>
    exact .cached rfl (List.forall₂_same.mpr (List.forall_mem_map.mpr ihEntries)) ihChild
  | firstConnected children ih => exact .firstConnected (List.forall₂_same.mpr ih)
  | bestConnectedEver site children ih => exact .bestConnectedEver (List.forall₂_same.mpr ih)
  | branch test onTrue onFalse ihTest ihTrue ihFalse =>
    cases test with
    | isSupported strategy => exact .condition (ihTest strategy rfl) ihTrue ihFalse
    | constant outcome => exact .constant ihTrue ihFalse

/-- Two tables with the same names have their entries at the same names. -/
theorem find_rel {R : Strategy → Strategy → Prop} {transports transports' : Table Strategy}
    (hnames : transports'.map Prod.fst = transports.map Prod.fst)
    (h : Forall₂ R (transports.map Prod.snd) (transports'.map Prod.snd)) (name : String) :
    Option.Rel R (Table.find transports name) (Table.find transports' name) := by
  induction transports generalizing transports' with
  | nil =>
    obtain rfl := List.map_eq_nil_iff.mp hnames
    exact .none
  | cons entry rest ih =>
    cases transports' with
    | nil => cases hnames
    | cons entry' rest' =>
      obtain ⟨hkey, hnames⟩ := List.cons.inj hnames
      obtain ⟨hentry, h⟩ := List.forall₂_cons.mp h
      rw [Table.find, Table.find, hkey]
      split
      · exact .some hentry
      · exact ih hnames h

theorem anySupported_eq {supports : Nat → Bool → Bool} {encrypted : Bool} :
    ∀ {children children' : List Strategy}, Forall₂ (Replaces stands) children children' →
    (∀ child ∈ children, ∀ child', Replaces stands child child' →
      child'.isSupported supports encrypted = child.isSupported supports encrypted) →
    Strategy.anySupported supports children' encrypted =
      Strategy.anySupported supports children encrypted
  | [], _, .nil, _ => rfl
  | child :: rest, _, .cons hc h, hs => by
    rw [Strategy.anySupported, Strategy.anySupported, hs child List.mem_cons_self _ hc,
      anySupported_eq h fun child hm => hs child (List.mem_cons_of_mem _ hm)]

/-- Replacing disabled definitions by leaves that can open nothing changes no support. -/
theorem isSupported_eq {supports : Nat → Bool → Bool} (hs : Unsupporting stands supports)
    {node node' : Strategy} (h : Replaces stands node node') (encrypted : Bool) :
    node'.isSupported supports encrypted = node.isSupported supports encrypted := by
  induction node using Strategy.nodeInduction generalizing node' encrypted with
  | transport leaf =>
    cases h
    rfl
  | unsupported name =>
    cases h with
    | unsupported => rfl
    | standIn hl => exact hs _ hl encrypted
  | delayed delay child ih =>
    cases h with
    | delayed h => exact ih h encrypted
  | sequential options children ih =>
    cases h with
    | sequential h => exact anySupported_eq h fun child hm _ h => ih child hm h encrypted
  | cached settings transports child ihEntries ihChild =>
    cases h with
    | cached _ _ h => exact ihChild h settings.encrypted
  | firstConnected children ih =>
    cases h with
    | firstConnected h => exact anySupported_eq h fun child hm _ h => ih child hm h encrypted
  | bestConnectedEver site children ih =>
    cases h with
    | bestConnectedEver h => exact anySupported_eq h fun child hm _ h => ih child hm h encrypted
  | branch test onTrue onFalse ihTest ihTrue ihFalse =>
    cases h with
    | condition hc ht hf =>
      rw [Strategy.isSupported, Strategy.isSupported, Condition.holds, Condition.holds,
        ihTest _ rfl hc encrypted, ihTrue ht encrypted, ihFalse hf encrypted]
    | constant ht hf =>
      rw [Strategy.isSupported, Strategy.isSupported, ihTrue ht encrypted, ihFalse hf encrypted]

end Replaces

/-- The laws of polling in step, at the nodes that an attempt can reach: they support the same
and see the same records and memories, their opens correspond and are answered alike, and what
they write down leaves the worlds as they were to each other. -/
structure LockstepAt (root : Strategy) (context : Context) (stands : Leaf → Prop)
    (number : Nat → Nat → Prop) (won : Connection → Connection → Prop)
    (lost : Error → Error → Prop) (worlds : World → World → Prop) : Prop
    extends Lockstep number won lost worlds where
  supports : ∀ {w w'}, worlds w w' → w'.supports = w.supports
  unsupporting : ∀ {w w'}, worlds w w' → Unsupporting stands w.supports
  refused : ∀ {leaf}, stands leaf → leaf.priority < context.minPriority →
    lost (.transportUnsupported leaf.name)
      (.priorityTooLow leaf.name leaf.priority context.minPriority)
  opened : ∀ {underCache leaf c},
    Strategy.Reaches root context underCache (.transport leaf) c →
    ∀ {w w'}, worlds w w' →
    (w'.openTransport leaf c.encrypted).1 = (w.openTransport leaf c.encrypted).1 ∧
      number (w.opens + 1) (w'.opens + 1) ∧
      worlds (w.openTransport leaf c.encrypted).2 (w'.openTransport leaf c.encrypted).2
  connected : ∀ {underCache leaf c},
    Strategy.Reaches root context underCache (.transport leaf) c →
    ∀ {w w' n n'} started, worlds w w' → number n n' →
    won (w.connect leaf n started).1 (w'.connect leaf n' started).1 ∧
      worlds (w.connect leaf n started).2 (w'.connect leaf n' started).2
  history : ∀ {underCache site children c},
    Strategy.Reaches root context underCache (.bestConnectedEver site children) c →
    ∀ {w w'}, worlds w w' → w'.history site children.length = w.history site children.length
  remembered : ∀ {underCache site children c},
    Strategy.Reaches root context underCache (.bestConnectedEver site children) c →
    ∀ {w w'} history, worlds w w' →
    worlds (w.setHistory site history) (w'.setHistory site history)
  recorded : ∀ {underCache settings transports child c},
    Strategy.Reaches root context underCache (.cached settings transports child) c →
    ∀ {w w'}, worlds w w' → (w'.cache settings.cache).fetch settings.encrypted =
      (w.cache settings.cache).fetch settings.encrypted
  stored : ∀ {underCache settings transports child c},
    Strategy.Reaches root context underCache (.cached settings transports child) c →
    ∀ {w w'} transport took, worlds w w' →
    worlds (w.storeCache settings transport took) (w'.storeCache settings transport took)
  flushed : ∀ {underCache settings transports child c},
    Strategy.Reaches root context underCache (.cached settings transports child) c →
    ∀ {w w'}, worlds w w' → worlds (w.flushCache settings) (w'.flushCache settings)

namespace LockstepAt

variable {root : Strategy} {context : Context} {stands : Leaf → Prop}
  {number : Nat → Nat → Prop} {won : Connection → Connection → Prop}
  {lost : Error → Error → Prop} {worlds : World → World → Prop}

/-- Two nodes are polled in step, and where they can wait they are of one kind. -/
def NodesInStep (number : Nat → Nat → Prop) (won : Connection → Connection → Prop)
    (lost : Error → Error → Prop) (worlds : World → World → Prop) (c : Context)
    (node node' : Strategy) : Prop :=
  ∀ p q w w', Abreast number lost (Fits node c) p q → worlds w w' →
    Poll.InStep (fun p q => Abreast number lost (Fits node c) p q ∧ node'.kindName = node.kindName)
      won lost worlds (node.poll c p w) (node'.poll c q w')

theorem NodesInStep.of_kind {c : Context} {node node' : Strategy}
    (hk : node'.kindName = node.kindName)
    (h : InStep number won lost worlds (Fits node c) (node.poll c) (node'.poll c)) :
    NodesInStep number won lost worlds c node node' :=
  fun p q w w' ha hw => (h p q w w' ha hw).mono fun _ _ ha => ⟨ha, hk⟩

theorem NodesInStep.inStep {c : Context} {node node' : Strategy}
    (h : NodesInStep number won lost worlds c node node') :
    InStep number won lost worlds (Fits node c) (node.poll c) (node'.poll c) :=
  fun p q w w' ha hw => (h p q w w' ha hw).mono fun _ _ ha => ha.1

/-- What was looked up in both trees is polled in step; what neither has waits in both. -/
theorem pollFound {c : Context} {found found' : Option Strategy}
    (h : Option.Rel (NodesInStep number won lost worlds c) found found') (p q : Progress)
    (w w' : World) (ha : Abreast number lost (FitsFound found c) p q) (hw : worlds w w') :
    Poll.InStep
      (fun p q => Abreast number lost (FitsFound found c) p q ∧
        (found'.map Strategy.kindName).getD "" = (found.map Strategy.kindName).getD "")
      won lost worlds (Strategy.pollFound c found p w) (Strategy.pollFound c found' q w') := by
  cases h with
  | none => exact .pending ⟨ha, rfl⟩ hw
  | @some node node' h =>
    refine (h p q w w' ⟨ha.1, ha.2 node rfl⟩ hw).mono fun p q ha => ⟨⟨ha.1.1, ?_⟩, ha.2⟩
    rintro _ ⟨⟩
    exact ha.1.2

theorem found_inStep {c : Context} {found found' : Option Strategy}
    (h : Option.Rel (NodesInStep number won lost worlds c) found found') :
    InStep number won lost worlds (FitsFound found c) (Strategy.pollFound c found)
      (Strategy.pollFound c found') :=
  fun p q w w' ha hw => (pollFound h p q w w' ha hw).mono fun _ _ ha => ha.1

variable (step : LockstepAt root context stands number won lost worlds)

include step

/-- A disabled definition and a leaf that can open nothing fail at once. -/
theorem standIn {leaf : Leaf} (hl : stands leaf) {c : Context}
    (hc : c.minPriority = context.minPriority) :
    NodesInStep number won lost worlds c (.unsupported leaf.name) (.transport leaf) := by
  intro p q w w' ⟨ha, hp⟩ hw
  cases hp
  cases ha
  have hs : w'.supports leaf.mechanism c.encrypted = false := by
    rw [step.supports hw]
    exact step.unsupporting hw leaf hl c.encrypted
  show Poll.InStep _ won lost worlds _ (leaf.poll c .unstarted w')
  rw [Leaf.poll, hs]
  · split
    · rename_i hlow
      rw [hc] at hlow ⊢
      exact .failed (step.refused hl hlow) hw
    · exact .failed (step.same _) hw
  · exact nofun

/-- Every node that an attempt can reach is polled in step with the one that replaces it. -/
theorem poll (node : Strategy) :
    ∀ {node' : Strategy} {underCache : Bool} {c : Context}, Replaces stands node node' →
    Strategy.Reaches root context underCache node c →
    NodesInStep number won lost worlds c node node' := by
  have hat : ∀ {nodes nodes' : List Strategy} {c : Context},
      Forall₂ (Replaces stands) nodes nodes' →
      (∀ node ∈ nodes, ∀ node', Replaces stands node node' →
        NodesInStep number won lost worlds c node node') →
      Forall₂ (NodesInStep number won lost worlds c) nodes nodes' :=
    fun h hc => ((List.forall₂_and_left _ _).mpr ⟨hc, h⟩).imp fun _ _ h => h.1 _ h.2
  induction node using Strategy.nodeInduction with
  | transport leaf =>
    intro node' underCache c h hr
    cases h
    exact .of_kind rfl (step.toLockstep.leaf leaf (fun hw => congrFun₂ (step.supports hw) _ _)
      (step.opened hr) (step.connected hr))
  | unsupported name =>
    intro node' underCache c h hr
    cases h with
    | unsupported =>
      refine .of_kind rfl fun p q w w' _ hw => ?_
      exact .failed (step.same _) hw
    | standIn hl => exact step.standIn hl hr.minPriority
  | delayed delay child ih =>
    intro node' underCache c h hr
    cases h with
    | delayed h => exact .of_kind rfl (step.toLockstep.delayed delay (ih h hr.delayed).inStep)
  | sequential options children ih =>
    intro node' underCache c h hr
    cases h with
    | sequential h =>
      have hc := forall₂_iff_getElem?.mp
        (hat h fun child hm child' hc => ih child hm hc (hr.sequential hm))
      refine .of_kind rfl (step.toLockstep.sequential options h.length_eq.symm ?_)
      intro i p q w w' ha hw
      rw [Strategy.pollAt_eq, Strategy.pollAt_eq]
      exact pollFound (hc i) p q w w' ha hw
  | cached settings transports child ihEntries ihChild =>
    intro node' underCache c h hr
    cases h with
    | @cached _ _ transports' _ child' hnames hentries h =>
      have hfound := Replaces.find_rel hnames (hat hentries fun node hm node' hn => by
        obtain ⟨entry, hentry, rfl⟩ := List.mem_map.mp hm
        exact ihEntries entry hentry hn (hr.entry hentry))
      have hknown : (fun name => (Table.find transports' name).isSome) =
          fun name => (Table.find transports name).isSome := by
        funext name
        have hn := hfound name
        generalize Table.find transports name = found, Table.find transports' name = found' at hn
        cases hn <;> rfl
      refine .of_kind rfl (step.toLockstep.cached (step.stored hr) (step.flushed hr)
        (ihChild h hr.cached).inStep (fun name => ?_) hknown (step.recorded hr))
      rw [Strategy.pollNamed_eq, Strategy.pollNamed_eq]
      exact found_inStep (hfound name)
  | firstConnected children ih =>
    intro node' underCache c h hr
    cases h with
    | firstConnected h =>
      have hc := forall₂_iff_getElem?.mp
        (hat h fun child hm child' hc => ih child hm hc (hr.firstConnected hm))
      refine .of_kind rfl (step.toLockstep.firstConnected h.length_eq.symm fun i => ?_)
      rw [Strategy.pollAt_eq, Strategy.pollAt_eq]
      exact found_inStep (hc i)
  | bestConnectedEver site children ih =>
    intro node' underCache c h hr
    cases h with
    | bestConnectedEver h =>
      have hc := forall₂_iff_getElem?.mp
        (hat h fun child hm child' hc => ih child hm hc (hr.bestConnectedEver hm))
      refine .of_kind rfl (step.toLockstep.bestConnectedEver h.length_eq.symm (step.history hr)
        (step.remembered hr) fun i => ?_)
      rw [Strategy.pollAt_eq, Strategy.pollAt_eq]
      exact found_inStep (hc i)
  | branch test onTrue onFalse ihTest ihTrue ihFalse =>
    intro node' underCache c h hr
    cases h with
    | condition hc ht hf =>
      refine .of_kind rfl (Lockstep.branch (fun {w w'} hw => ?_) (ihTrue ht hr.onTrue).inStep
        (ihFalse hf hr.onFalse).inStep)
      rw [step.supports hw]
      exact hc.isSupported_eq (step.unsupporting hw) c.encrypted
    | constant ht hf =>
      exact .of_kind rfl (Lockstep.branch (fun _ => rfl) (ihTrue ht hr.onTrue).inStep
        (ihFalse hf hr.onFalse).inStep)

end LockstepAt

end Dialplan
