import Dialplan.Proofs.Build.Nodes

/-! Names of transports. The table of a cached node lists every transport that is reached through
the node, under its name; but when a plan defines a name again, what is listed may be another
definition of the same name (`Builder.build_lists`). A name that is defined once stands for one
transport (`Defined.unique`). -/

namespace Dialplan

/-- The name of the transport that an instruction defines. -/
def Instruction.transport? : Instruction → Option String
  | defTransport name _ _ _ => some name
  | define _ _ => none

/-- The names of the transports that a plan defines, in order. -/
def Program.transports (program : Program) : List String :=
  program.filterMap Instruction.transport?

/-! ### One definition -/

/-- An instruction that defines a name which is defined at most once has one place in the plan. -/
theorem eq_of_defines {name : String} {x x' : Instruction} {after after' : Program}
    (hx : x.transport? = some name) (hx' : x'.transport? = some name) {before : Program} :
    ∀ {before' : Program}, before ++ x :: after = before' ++ x' :: after' →
      (Program.transports (before ++ x :: after)).count name ≤ 1 → before = before' ∧ x = x' := by
  induction before with
  | nil =>
    intro before' h hcount
    cases before' with
    | nil => exact ⟨rfl, (List.cons.inj h).1⟩
    | cons y rest =>
      obtain ⟨rfl, rfl⟩ := List.cons.inj h
      simp [Program.transports, hx, hx', List.count_append] at hcount
  | cons y rest ih =>
    intro before' h hcount
    cases before' with
    | nil =>
      obtain ⟨rfl, -⟩ := List.cons.inj h
      simp [Program.transports, hx, hx', List.count_append] at hcount
    | cons y' rest' =>
      have hrest : rest ++ x :: after = rest' ++ x' :: after' := (List.cons.inj h).2
      have hy : y = y' := (List.cons.inj h).1
      have hle : (Program.transports (rest ++ x :: after)).count name ≤ 1 :=
        Nat.le_trans (((List.sublist_cons_self y _).filterMap _).count_le name) hcount
      obtain ⟨rfl, rfl⟩ := ih hrest hle
      exact ⟨by rw [hy], rfl⟩

theorem EvaluatesTo.unique {evaluator : Evaluator} {site : Site} {body : Option Expression}
    {fields fields' : Json.Fields} (h : EvaluatesTo evaluator site body fields)
    (h' : EvaluatesTo evaluator site body fields') : fields = fields' := by
  cases h with
  | absent =>
    cases h'
    rfl
  | null hv =>
    cases h' with
    | null _ => rfl
    | map hv' => cases hv.symm.trans hv'
  | map hv =>
    cases h' with
    | null hv' => cases hv.symm.trans hv'
    | map hv' =>
      cases hv.symm.trans hv'
      rfl

section

variable {builder : Builder} {options : BuildOptions} {site : Site} {program : Program}

/-- A name that is defined once stands for one leaf. -/
theorem Defined.unique {leaf leaf' : Leaf} (h : Defined builder options site program leaf)
    (h' : Defined builder options site program leaf') (hname : leaf'.name = leaf.name)
    (honce : program.transports.count leaf.name ≤ 1) : leaf' = leaf := by
  obtain ⟨before, body, after, env, hd⟩ := h
  obtain ⟨before', body', after', env', hd'⟩ := h'
  have hprogram := hd.instruction
  rw [hprogram] at honce
  obtain ⟨rfl, hinstruction⟩ := eq_of_defines rfl (by rw [← hname]; rfl)
    (hprogram.symm.trans hd'.instruction) honce
  injection hinstruction with _ htype hpriority hbody
  subst hbody
  obtain rfl : env = env' := Except.ok.inj (hd.reached.symm.trans hd'.reached)
  have hmechanism := hd.mechanism.symm.trans (htype ▸ hd'.mechanism)
  have hoptions := hd.evaluated.unique hd'.evaluated
  have hkey := hd.key.trans hd'.key.symm
  obtain ⟨name, type, priority, mechanism, fields, key⟩ := leaf
  obtain ⟨name', type', priority', mechanism', fields', key'⟩ := leaf'
  dsimp only at hname htype hpriority hmechanism hoptions hkey
  rw [hname, htype, hpriority, Option.some.inj hmechanism, hoptions, hkey]

/-! ### Listed transports -/

/-- The definitions in a tree are listed in a table, and those below each of its cached nodes in
the table of the node. -/
structure Strategy.Listed (table : TransportTable) (root : Strategy) : Prop where
  definitions : ∀ {node name}, Within node root → IsDefinition (name, node) →
    (Table.find table name).isSome = true
  cached : ∀ {settings transports child}, Within (.cached settings transports child) root →
    ∀ {node name}, Within node (.cached settings transports child) → IsDefinition (name, node) →
      (Table.find transports name).isSome = true

theorem Table.isSome_find_put {α : Type} {table : Table α} {other : String}
    (h : (Table.find table other).isSome = true) (name : String) (value : α) :
    (Table.find (Table.put table name value) other).isSome = true := by
  by_cases ho : other = name
  · rw [ho, Table.find_put_self]
    rfl
  · rwa [Table.find_put_of_ne _ _ ho]

namespace Strategy.Listed

variable {table : TransportTable} {root : Strategy}

theorem put (h : root.Listed table) (name : String) (node : Strategy) :
    root.Listed (Table.put table name node) :=
  ⟨fun hw hd => Table.isSome_find_put (h.definitions hw hd) name node, h.cached⟩

theorem of_cached {settings : CacheSettings} {child : Strategy} (hc : child.Listed table)
    (htable : ∀ entry ∈ table, entry.2.Listed table) :
    (Strategy.cached settings table child).Listed table := by
  have hdefinitions : ∀ {node name}, Within node (.cached settings table child) →
      IsDefinition (name, node) → (Table.find table name).isSome = true := by
    intro node name hw hd
    cases hw with
    | self => cases hd
    | cached hw => exact hc.definitions hw hd
    | entry hm hw => exact (htable _ hm).definitions hw hd
  refine ⟨hdefinitions, fun hw => ?_⟩
  cases hw with
  | self => exact hdefinitions
  | cached hw => exact hc.cached hw
  | entry hm hw => exact (htable _ hm).cached hw

/-- Combinators keep definitions listed. -/
theorem kept (setting : Build.Setting)
    (htable : ∀ entry ∈ setting.transports, entry.2.Listed setting.transports) :
    Combinator.Kept setting fun _ => Strategy.Listed setting.transports where
  lift h := h
  delayed hc := by
    constructor
    · intro node name hw hd
      cases hw with
      | self => cases hd
      | delayed hw => exact hc.definitions hw hd
    · intro _ _ _ hw
      cases hw with
      | delayed hw => exact hc.cached hw
  sequential _ hc := by
    constructor
    · intro node name hw hd
      cases hw with
      | self => cases hd
      | sequential hm hw => exact (hc _ hm).definitions hw hd
    · intro _ _ _ hw
      cases hw with
      | sequential hm hw => exact (hc _ hm).cached hw
  cached hc := of_cached hc htable
  firstConnected _ hc := by
    constructor
    · intro node name hw hd
      cases hw with
      | self => cases hd
      | firstConnected hm hw => exact (hc _ hm).definitions hw hd
    · intro _ _ _ hw
      cases hw with
      | firstConnected hm hw => exact (hc _ hm).cached hw
  bestConnectedEver _ hc := by
    constructor
    · intro node name hw hd
      cases hw with
      | self => cases hd
      | bestConnectedEver hm hw =>
        obtain ⟨_, hchild⟩ := hc _ hm
        exact hchild.definitions hw hd
    · intro _ _ _ hw
      cases hw with
      | bestConnectedEver hm hw =>
        obtain ⟨_, hchild⟩ := hc _ hm
        exact hchild.cached hw
  branch htest htrue hfalse := by
    constructor
    · intro node name hw hd
      cases hw with
      | self => cases hd
      | condition hw => exact (htest _ rfl).definitions hw hd
      | onTrue hw => exact htrue.definitions hw hd
      | onFalse hw => exact hfalse.definitions hw hd
    · intro _ _ _ hw
      cases hw with
      | condition hw => exact (htest _ rfl).cached hw
      | onTrue hw => exact htrue.cached hw
      | onFalse hw => exact hfalse.cached hw

end Strategy.Listed

/-- All definitions that occur in what is bound or listed are listed under their names. -/
structure Environment.Listed (env : Environment) : Prop where
  bound : ∀ name value, env.lookup name = .ok value →
    value.Sound (Strategy.Listed env.transports)
  listed : ∀ entry ∈ env.transports, entry.2.Listed env.transports

namespace Environment.Listed

variable {env : Environment}

theorem empty : Environment.empty.Listed := by
  refine ⟨fun name value h => ?_, nofun⟩
  cases lookup_eq_ok.mp h

theorem bind (h : env.Listed) (name : String) {value : Build.Value}
    (hv : value.Sound (Strategy.Listed env.transports)) : (env.bind name value).Listed := by
  refine ⟨fun other found hl => ?_, h.listed⟩
  rcases lookup_bind hl with rfl | hl
  · exact hv
  · exact h.bound other found hl

theorem bindTransport (h : env.Listed) {name : String} {node : Strategy}
    (hn : node.Listed (Table.put env.transports name node)) :
    (env.bindTransport name node).Listed := by
  have hlisted : Environment.Listed
      { env with transports := Table.put env.transports name node } := by
    refine ⟨fun other value hl => (h.bound other value hl).mono fun _ hs => hs.put name node,
      fun entry hm => ?_⟩
    rcases Table.eq_or_mem_of_mem_put hm with rfl | hm
    · exact hn
    · exact (h.listed entry hm).put name node
  exact hlisted.bind name (Build.Value.sound_strategy hn)

end Environment.Listed

namespace Builder

/-- What a transport definition enters in the table is listed there. -/
theorem defineTransport_listed (table : TransportTable) (name type : String) (priority : Int64)
    (mechanism : Nat) (fields : Json.Fields) :
    (defineTransport options name type priority mechanism fields).Listed
      (Table.put table name (defineTransport options name type priority mechanism fields)) := by
  generalize hnode : defineTransport options name type priority mechanism fields = node
  unfold defineTransport at hnode
  split at hnode
  · subst hnode
    constructor
    · rintro _ _ ⟨⟩ ⟨rfl⟩
      rw [Table.find_put_self]
      rfl
    · intro _ _ _ hw
      cases hw
  · subst hnode
    constructor
    · rintro _ _ ⟨⟩ ⟨⟩
      rw [Table.find_put_self]
      rfl
    · intro _ _ _ hw
      cases hw

theorem step_listed {place : Site} {env env' : Environment} {instruction : Instruction}
    (h : env.Listed) (hstep : builder.step options place env instruction = .ok env') :
    env'.Listed := by
  cases instruction with
  | define name body =>
    obtain ⟨value, hv, hstep⟩ := ok_of_bind hstep
    cases hstep
    exact h.bind name (Evaluator.evaluate_sound
      (Strategy.Listed.kept (Evaluator.setting ⟨env, options, builder.cache⟩) h.listed)
      (fun _ => h.bound) body hv)
  | defTransport name type priority body =>
    obtain ⟨mechanism, -, hstep⟩ := ok_of_bind hstep
    obtain ⟨fields, -, hstep⟩ := ok_of_bind hstep
    cases hstep
    exact h.bindTransport
      (defineTransport_listed env.transports name type priority mechanism fields)

theorem steps_listed : ∀ {index : Nat} {program : Program} {env env' : Environment},
    env.Listed → builder.steps options site index program env = .ok env' → env'.Listed
  | _, [], _, _, h, hsteps => by
    cases hsteps
    exact h
  | _, _ :: _, _, _, h, hsteps => by
    obtain ⟨env, hstep, hsteps⟩ := ok_of_bind hsteps
    exact steps_listed (step_listed h hstep) hsteps

/-- Under the name of each definition that occurs in a cached node of a built tree, the table of
the node lists something. -/
theorem build_listed {root : Strategy} (h : builder.build options site program = .ok root) :
    ∃ table, root.Listed table := by
  obtain ⟨-, env, hsteps, hl⟩ := build_eq_ok.mp h
  exact ⟨_, (steps_listed .empty hsteps).bound resultName _ hl root .strategy⟩

/-- Under the name of each transport that is reached through a cached node of a built tree, the
table of the node lists a transport of that name; it is the same one, if the plan defines the name
only once. -/
theorem build_lists {root child : Strategy} {settings : CacheSettings}
    {transports : List (String × Strategy)} {leaf : Leaf}
    (h : builder.build options site program = .ok root)
    (hwithin : Strategy.Within (.cached settings transports child) root)
    (hleaf : Strategy.Within (.transport leaf) (.cached settings transports child)) :
    ∃ other, Table.find transports leaf.name = some (.transport other) ∧
      other.name = leaf.name ∧ (program.transports.count leaf.name ≤ 1 → other = leaf) := by
  have hmade := build_made h
  obtain ⟨table, hlisted⟩ := build_listed h
  obtain ⟨node, hfind⟩ :=
    Option.isSome_iff_exists.mp (hlisted.cached hwithin hleaf (.transport rfl))
  have hm := Table.mem_of_find hfind
  have hentry : Strategy.Within node root := (Strategy.Within.entry hm .self).trans hwithin
  have hdefined := hmade.defined (hleaf.trans hwithin)
  generalize hname : leaf.name = name at hfind hm
  cases hmade.listed hwithin _ hm with
  | @transport _ other hother =>
    exact ⟨other, hfind, hother, fun honce =>
      hdefined.unique (hmade.defined hentry) (hother.trans hname.symm) (hname ▸ honce)⟩
  | unsupported =>
    -- the stand-in of a disabled definition, but the leaf is that of an enabled one
    obtain ⟨_, _, _, _, hd⟩ := hdefined
    cases hmade _ hentry with
    | unsupported _ hdisabled => cases (hname ▸ hd.enabled).symm.trans hdisabled

end Builder

end

end Dialplan
