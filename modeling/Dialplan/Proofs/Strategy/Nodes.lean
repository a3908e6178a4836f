import Dialplan.Connect.Node

/-! Nodes of strategy trees: induction over a tree whose children stand in lists, tables
and conditions, the nodes within a tree, and the nodes that an attempt can reach with the
demands it then makes of them. -/

namespace Dialplan

namespace Strategy

/-- Induction over strategies, with a hypothesis for every node below. -/
theorem nodeInduction {P : Strategy → Prop}
    (transport : ∀ leaf, P (.transport leaf))
    (unsupported : ∀ name, P (.unsupported name))
    (delayed : ∀ delay child, P child → P (.delayed delay child))
    (sequential : ∀ options children, (∀ child ∈ children, P child) →
      P (.sequential options children))
    (cached : ∀ settings transports child, (∀ entry ∈ transports, P entry.2) → P child →
      P (.cached settings transports child))
    (firstConnected : ∀ children, (∀ child ∈ children, P child) → P (.firstConnected children))
    (bestConnectedEver : ∀ site children, (∀ child ∈ children, P child) →
      P (.bestConnectedEver site children))
    (branch : ∀ test onTrue onFalse, (∀ strategy, test = .isSupported strategy → P strategy) →
      P onTrue → P onFalse → P (.branch test onTrue onFalse)) :
    ∀ strategy, P strategy := by
  refine @Strategy.rec P (fun children => ∀ child ∈ children, P child)
    (fun entries => ∀ entry ∈ entries, P entry.2)
    (fun test => ∀ strategy, test = .isSupported strategy → P strategy)
    (fun entry => P entry.2)
    transport unsupported delayed sequential cached firstConnected bestConnectedEver branch
    ?_ ?_ ?_ ?_ ?_ ?_ ?_
  · exact nofun
  · exact fun child rest hc hr => List.forall_mem_cons.mpr ⟨hc, hr⟩
  · exact nofun
  · exact fun entry rest he hr => List.forall_mem_cons.mpr ⟨he, hr⟩
  · rintro strategy h _ ⟨⟩
    exact h
  · exact nofun
  · exact fun _ _ h => h

/-! ### Looking children up -/

/-- Polls what was looked up. What does not exist is never done and changes nothing. -/
def pollFound (context : Context) : Option Strategy → Poller
  | some node, p, w => node.poll context p w
  | none, p, w => (.pending p, w)

theorem pollAt_eq (children : List Strategy) (i : Nat) (context : Context) :
    pollAt children i context = pollFound context children[i]? := by
  funext p w
  induction children generalizing i with
  | nil => rfl
  | cons child rest ih =>
    cases i with
    | zero => rfl
    | succ i => simpa [pollAt] using ih i

theorem pollNamed_eq (transports : List (String × Strategy)) (name : String)
    (context : Context) :
    pollNamed transports name context = pollFound context (Table.find transports name) := by
  funext p w
  induction transports with
  | nil => rfl
  | cons entry rest ih =>
    obtain ⟨key, strategy⟩ := entry
    by_cases h : key = name
    · simp [pollNamed, Table.find, h, pollFound]
    · simpa [pollNamed, Table.find, h] using ih

end Strategy

theorem Table.mem_of_find {α : Type} {table : Table α} {name : String} {value : α}
    (h : Table.find table name = some value) : (name, value) ∈ table := by
  induction table with
  | nil => cases h
  | cons entry rest ih =>
    obtain ⟨key, first⟩ := entry
    by_cases hk : key = name
    · rw [Table.find, if_pos hk] at h
      rw [hk, Option.some.inj h]
      exact List.mem_cons_self
    · rw [Table.find, if_neg hk] at h
      exact List.mem_cons_of_mem _ (ih h)

namespace Strategy

/-- The nodes within a tree: those below it as children, in the condition of a branch or in
the table of a cached node, and the tree itself. -/
inductive Within (node : Strategy) : Strategy → Prop where
  | self : Within node node
  | delayed {delay child} : Within node child → Within node (.delayed delay child)
  | sequential {options children child} : child ∈ children → Within node child →
      Within node (.sequential options children)
  | cached {settings transports child} : Within node child →
      Within node (.cached settings transports child)
  | entry {settings transports child entry} : entry ∈ transports → Within node entry.2 →
      Within node (.cached settings transports child)
  | firstConnected {children child} : child ∈ children → Within node child →
      Within node (.firstConnected children)
  | bestConnectedEver {site children child} : child ∈ children → Within node child →
      Within node (.bestConnectedEver site children)
  | condition {strategy onTrue onFalse} : Within node strategy →
      Within node (.branch (.isSupported strategy) onTrue onFalse)
  | onTrue {test onTrue onFalse} : Within node onTrue →
      Within node (.branch test onTrue onFalse)
  | onFalse {test onTrue onFalse} : Within node onFalse →
      Within node (.branch test onTrue onFalse)

theorem Within.trans {a b c : Strategy} (hab : Within a b) (hbc : Within b c) : Within a c := by
  induction hbc with
  | self => exact hab
  | delayed _ ih => exact .delayed ih
  | sequential hm _ ih => exact .sequential hm ih
  | cached _ ih => exact .cached ih
  | entry hm _ ih => exact .entry hm ih
  | firstConnected hm _ ih => exact .firstConnected hm ih
  | bestConnectedEver hm _ ih => exact .bestConnectedEver hm ih
  | condition _ ih => exact .condition ih
  | onTrue _ ih => exact .onTrue ih
  | onFalse _ ih => exact .onFalse ih

/-- Below a node that remembers its races no other was made at the same site. -/
def Unnested (site : Site) (children : List Strategy) : Prop :=
  ∀ child ∈ children, ∀ others, ¬ Within (.bestConnectedEver site others) child

/-- The nodes that an attempt on a tree can come to, with its demands there. The flag tells
whether the way leads through a cached node, into its child or its table. -/
inductive Reaches (root : Strategy) (context : Context) : Bool → Strategy → Context → Prop where
  | root : Reaches root context false root context
  | delayed {cached delay child c} : Reaches root context cached (.delayed delay child) c →
      Reaches root context cached child c
  | sequential {cached options children child c} :
      Reaches root context cached (.sequential options children) c → child ∈ children →
      Reaches root context cached child c
  | cached {cached settings transports child c} :
      Reaches root context cached (.cached settings transports child) c →
      Reaches root context true child { c with encrypted := settings.encrypted }
  | entry {cached settings transports child entry c} :
      Reaches root context cached (.cached settings transports child) c → entry ∈ transports →
      Reaches root context true entry.2 { c with encrypted := settings.encrypted }
  | firstConnected {cached children child c} :
      Reaches root context cached (.firstConnected children) c → child ∈ children →
      Reaches root context cached child c
  | bestConnectedEver {cached site children child c} :
      Reaches root context cached (.bestConnectedEver site children) c → child ∈ children →
      Reaches root context cached child c
  | onTrue {cached test onTrue onFalse c} :
      Reaches root context cached (.branch test onTrue onFalse) c →
      Reaches root context cached onTrue c
  | onFalse {cached test onTrue onFalse c} :
      Reaches root context cached (.branch test onTrue onFalse) c →
      Reaches root context cached onFalse c

theorem Reaches.within {root : Strategy} {context : Context} {cached : Bool} {node : Strategy}
    {c : Context} (h : Reaches root context cached node c) : Within node root := by
  induction h with
  | root => exact .self
  | delayed _ ih => exact (Within.delayed .self).trans ih
  | sequential _ hm ih => exact (Within.sequential hm .self).trans ih
  | cached _ ih => exact (Within.cached .self).trans ih
  | entry _ hm ih => exact (Within.entry hm .self).trans ih
  | firstConnected _ hm ih => exact (Within.firstConnected hm .self).trans ih
  | bestConnectedEver _ hm ih => exact (Within.bestConnectedEver hm .self).trans ih
  | onTrue _ ih => exact (Within.onTrue .self).trans ih
  | onFalse _ ih => exact (Within.onFalse .self).trans ih

/-- An attempt at a node goes on at another one, with some demands there: at a child, or below a
cached node also at an entry of its table. -/
inductive Delegates : Strategy → Context → Strategy → Context → Prop where
  | delayed {delay child c} : Delegates (.delayed delay child) c child c
  | sequential {options children child c} : child ∈ children →
      Delegates (.sequential options children) c child c
  | cached {settings transports child c} :
      Delegates (.cached settings transports child) c child
        { c with encrypted := settings.encrypted }
  | entry {settings transports child entry c} : entry ∈ transports →
      Delegates (.cached settings transports child) c entry.2
        { c with encrypted := settings.encrypted }
  | firstConnected {children child c} : child ∈ children →
      Delegates (.firstConnected children) c child c
  | bestConnectedEver {site children child c} : child ∈ children →
      Delegates (.bestConnectedEver site children) c child c
  | onTrue {test onTrue onFalse c} : Delegates (.branch test onTrue onFalse) c onTrue c
  | onFalse {test onTrue onFalse c} : Delegates (.branch test onTrue onFalse) c onFalse c

/-- Does a node hand a connection on as it is, and write nothing down? -/
def passesOn : Strategy → Bool
  | delayed _ _ => true
  | sequential _ _ => true
  | firstConnected _ => true
  | branch _ _ _ => true
  | _ => false

/-- The demands at a node: its least priority is that of the attempt, and so is its demand
for encryption, unless the way leads through a cached node. -/
theorem Reaches.context_eq {root : Strategy} {context : Context} {encrypted : Bool}
    (hroot : ∀ settings transports child, Within (.cached settings transports child) root →
      settings.encrypted = encrypted)
    {cached : Bool} {node : Strategy} {c : Context} (h : Reaches root context cached node c) :
    c = { context with encrypted := if cached then encrypted else context.encrypted } := by
  induction h with
  | root => rfl
  | delayed _ ih => exact ih
  | sequential _ _ ih => exact ih
  | cached hn ih => rw [ih, hroot _ _ _ hn.within]; rfl
  | entry hn _ ih => rw [ih, hroot _ _ _ hn.within]; rfl
  | firstConnected _ _ ih => exact ih
  | bestConnectedEver _ _ ih => exact ih
  | onTrue _ ih => exact ih
  | onFalse _ ih => exact ih

/-- The least priority is that of the attempt everywhere. -/
theorem Reaches.minPriority {root node : Strategy} {context c : Context}
    {underCache : Bool} (h : Reaches root context underCache node c) :
    c.minPriority = context.minPriority := by
  induction h with
  | root => rfl
  | delayed _ ih => exact ih
  | sequential _ _ ih => exact ih
  | cached _ ih => exact ih
  | entry _ _ ih => exact ih
  | firstConnected _ _ ih => exact ih
  | bestConnectedEver _ _ ih => exact ih
  | onTrue _ ih => exact ih
  | onFalse _ ih => exact ih

end Strategy

end Dialplan
