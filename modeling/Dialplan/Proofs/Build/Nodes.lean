import Mathlib.Data.List.Induction
import Dialplan.Build.Builder
import Dialplan.Proofs.Build.Evaluation
import Dialplan.Proofs.Strategy.Nodes

/-! The nodes of built trees. Each node within a tree that a build yields, also in the tables
of cached nodes and in conditions, is made as the plan and the options of the build say
(`Builder.build_made`). -/

namespace Dialplan

open Build

/-- What the options of a transport definition are evaluated to. -/
inductive EvaluatesTo (evaluator : Evaluator) (site : Site) :
    Option Expression → Json.Fields → Prop where
  | absent : EvaluatesTo evaluator site none []
  | null {body} : evaluator.evaluate site body = .ok .null →
      EvaluatesTo evaluator site (some body) []
  | map {body fields} : evaluator.evaluate site body = .ok (.map fields) →
      EvaluatesTo evaluator site (some body) fields

theorem evaluatesTo_of_transportOptions {evaluator : Evaluator} {site : Site}
    {body : Option Expression} {fields : Json.Fields}
    (h : Builder.transportOptions evaluator site body = .ok fields) :
    EvaluatesTo evaluator site body fields := by
  cases body with
  | none =>
    cases h
    exact .absent
  | some body =>
    obtain ⟨value, hv, h⟩ := ok_of_bind h
    cases value with
    | null =>
      cases h
      exact .null hv
    | map fields' =>
      cases h
      exact .map hv
    | _ => cases h

section

variable (builder : Builder) (options : BuildOptions) (site : Site)

/-- The leaf is that of an enabled definition of the plan: it has its name, type and priority,
the mechanism registered for the type, the options as evaluated there, and the key of the
build. -/
structure DefinedBy (program before : Program) (body : Option Expression) (after : Program)
    (env : Environment) (leaf : Leaf) : Prop where
  instruction : program =
    before ++ .defTransport leaf.name leaf.type leaf.priority body :: after
  enabled : options.isEnabled leaf.name = true
  mechanism : builder.registry.resolve leaf.type = some leaf.mechanism
  reached : builder.steps options site 0 before .empty = .ok env
  evaluated : EvaluatesTo ⟨env, options, builder.cache⟩ (site ++ [before.length]) body leaf.options
  key : leaf.key = options.key

/-- Some definition of the plan defines the leaf. -/
def Defined (program : Program) (leaf : Leaf) : Prop :=
  ∃ before body after env, DefinedBy builder options site program before body after env leaf

/-- An entry of a transport table is a definition under its own name. -/
inductive IsDefinition : String × Strategy → Prop where
  | transport {name : String} {leaf : Leaf} : leaf.name = name →
      IsDefinition (name, .transport leaf)
  | unsupported {name : String} : IsDefinition (name, .unsupported name)

/-- How each kind of node is made. -/
inductive Made (program : Program) : Strategy → Prop where
  | transport {leaf} : Defined builder options site program leaf → Made program (.transport leaf)
  | unsupported {name type priority body} : .defTransport name type priority body ∈ program →
      options.isEnabled name = false → Made program (.unsupported name)
  | delayed {delay child} : Made program (.delayed delay child)
  | sequential {settings children} : children ≠ [] → Made program (.sequential settings children)
  | cached {ttl transports child} : (∀ entry ∈ transports, IsDefinition entry) →
      Made program (.cached ⟨ttl, options.encrypted, builder.cache⟩ transports child)
  | firstConnected {children} : children ≠ [] → Made program (.firstConnected children)
  | bestConnectedEver {place children} : children ≠ [] →
      Made program (.bestConnectedEver place children)
  | branch {test onTrue onFalse} : Made program (.branch test onTrue onFalse)

/-- Every node within a tree is made as the plan says. -/
def AllMade (program : Program) (root : Strategy) : Prop :=
  ∀ node, Strategy.Within node root → Made builder options site program node

variable {builder options site}

theorem AllMade.below {program : Program} {root node : Strategy}
    (h : AllMade builder options site program root) (hw : Strategy.Within node root) :
    AllMade builder options site program node :=
  fun inner hi => h inner (hi.trans hw)

/-- All cached nodes have the partition and the cache of the build. -/
theorem AllMade.settings {program : Program} {root child : Strategy} {settings : CacheSettings}
    {transports : List (String × Strategy)} (h : AllMade builder options site program root)
    (hw : Strategy.Within (.cached settings transports child) root) :
    settings.encrypted = options.encrypted ∧ settings.cache = builder.cache := by
  cases h _ hw with
  | cached _ => exact ⟨rfl, rfl⟩

theorem AllMade.listed {program : Program} {root child : Strategy} {settings : CacheSettings}
    {transports : List (String × Strategy)} (h : AllMade builder options site program root)
    (hw : Strategy.Within (.cached settings transports child) root) :
    ∀ entry ∈ transports, IsDefinition entry := by
  cases h _ hw with
  | cached hd => exact hd

theorem AllMade.defined {program : Program} {root : Strategy} {leaf : Leaf}
    (h : AllMade builder options site program root)
    (hw : Strategy.Within (.transport leaf) root) : Defined builder options site program leaf := by
  cases h _ hw with
  | transport hd => exact hd

theorem Made.append {program : Program} {node : Strategy}
    (h : Made builder options site program node) (more : Program) :
    Made builder options site (program ++ more) node := by
  cases h with
  | transport hd =>
    obtain ⟨before, body, after, env, hd⟩ := hd
    refine .transport ⟨before, body, after ++ more, env, ?_, hd.enabled, hd.mechanism, hd.reached,
      hd.evaluated, hd.key⟩
    rw [hd.instruction, List.append_assoc]
    rfl
  | unsupported hm hd => exact .unsupported (List.mem_append_left _ hm) hd
  | delayed => exact .delayed
  | sequential hne => exact .sequential hne
  | cached hd => exact .cached hd
  | firstConnected hne => exact .firstConnected hne
  | bestConnectedEver hne => exact .bestConnectedEver hne
  | branch => exact .branch

/-- What combinators make of well-made strategies is well-made. -/
theorem allMade_kept {program : Program} (setting : Build.Setting)
    (hoptions : setting.options = options) (hcache : setting.cache = builder.cache)
    (hlisted : ∀ entry ∈ setting.transports,
      AllMade builder options site program entry.2 ∧ IsDefinition entry) :
    Combinator.Kept setting fun _ => AllMade builder options site program where
  lift h := h
  delayed hc := by
    intro node h
    cases h with
    | self => exact .delayed
    | delayed h => exact hc node h
  sequential hne hc := by
    intro node h
    cases h with
    | self => exact .sequential hne
    | sequential hm h => exact hc _ hm node h
  cached hc := by
    intro node h
    cases h with
    | self =>
      rw [hoptions, hcache]
      exact .cached fun entry hm => (hlisted entry hm).2
    | cached h => exact hc node h
    | entry hm h => exact (hlisted _ hm).1 node h
  firstConnected hne hc := by
    intro node h
    cases h with
    | self => exact .firstConnected hne
    | firstConnected hm h => exact hc _ hm node h
  bestConnectedEver hne hc := by
    intro node h
    cases h with
    | self => exact .bestConnectedEver hne
    | bestConnectedEver hm h =>
      obtain ⟨_, hchild⟩ := hc _ hm
      exact hchild node h
  branch htest htrue hfalse := by
    intro node h
    cases h with
    | self => exact .branch
    | condition h => exact htest _ rfl node h
    | onTrue h => exact htrue node h
    | onFalse h => exact hfalse node h

/-! ### Environments -/

/-- What is bound, and what is listed among the transports, is well-made. -/
structure Environment.Made (builder : Builder) (options : BuildOptions) (site : Site)
    (program : Program) (env : Environment) : Prop where
  bound : ∀ name value, env.lookup name = .ok value →
    value.Sound (AllMade builder options site program)
  listed : ∀ entry ∈ env.transports,
    AllMade builder options site program entry.2 ∧ IsDefinition entry

theorem Environment.lookup_eq_ok {env : Environment} {name : String} {value : Build.Value} :
    env.lookup name = .ok value ↔ Table.find env.bindings name = some value := by
  unfold Environment.lookup
  cases Table.find env.bindings name with
  | none => exact ⟨nofun, nofun⟩
  | some found => simp

/-- What is bound after a binding is the value of the binding, or was bound before. -/
theorem Environment.lookup_bind {env : Environment} {name other : String}
    {value found : Build.Value} (h : (env.bind name value).lookup other = .ok found) :
    found = value ∨ env.lookup other = .ok found := by
  have h := lookup_eq_ok.mp h
  by_cases ho : other = name
  · rw [ho, Environment.bind, Table.find_put_self] at h
    exact .inl (Option.some.inj h).symm
  · rw [Environment.bind, Table.find_put_of_ne _ _ ho] at h
    exact .inr (lookup_eq_ok.mpr h)

theorem Table.eq_or_mem_of_mem_put {α : Type} {table : Table α} {name : String} {value : α}
    {entry : String × α} (h : entry ∈ Table.put table name value) :
    entry = (name, value) ∨ entry ∈ table := by
  induction table with
  | nil => exact .inl (List.mem_singleton.mp h)
  | cons first rest ih =>
    obtain ⟨key, old⟩ := first
    by_cases hk : key = name
    · rw [Table.put, if_pos hk] at h
      rcases List.mem_cons.mp h with rfl | h
      · exact .inl (by rw [hk])
      · exact .inr (List.mem_cons_of_mem _ h)
    · rw [Table.put, if_neg hk] at h
      rcases List.mem_cons.mp h with rfl | h
      · exact .inr List.mem_cons_self
      · exact (ih h).imp id (List.mem_cons_of_mem _)

namespace Environment.Made

variable {program : Program} {env : Environment}

theorem empty : Environment.empty.Made builder options site program := by
  refine ⟨fun name value h => ?_, nofun⟩
  cases lookup_eq_ok.mp h

theorem append (h : env.Made builder options site program) (more : Program) :
    env.Made builder options site (program ++ more) := by
  have hall : ∀ root, AllMade builder options site program root →
      AllMade builder options site (program ++ more) root :=
    fun root hr node hw => (hr node hw).append more
  exact ⟨fun name value hl => (h.bound name value hl).mono hall,
    fun entry hm => ⟨hall _ (h.listed entry hm).1, (h.listed entry hm).2⟩⟩

theorem bind (h : env.Made builder options site program) (name : String) {value : Build.Value}
    (hv : value.Sound (AllMade builder options site program)) :
    (env.bind name value).Made builder options site program := by
  refine ⟨fun other found hl => ?_, h.listed⟩
  rcases lookup_bind hl with rfl | hl
  · exact hv
  · exact h.bound other found hl

theorem bindTransport (h : env.Made builder options site program) {name : String}
    {node : Strategy} (hn : AllMade builder options site program node)
    (hd : IsDefinition (name, node)) :
    (env.bindTransport name node).Made builder options site program := by
  have hvalue : (Build.Value.strategy node).Sound (AllMade builder options site program) := by
    rintro _ ⟨⟩
    exact hn
  have hlisted : Environment.Made builder options site program
      { env with transports := Table.put env.transports name node } := by
    refine ⟨h.bound, fun entry hm => ?_⟩
    rcases Table.eq_or_mem_of_mem_put hm with rfl | hm
    · exact ⟨hn, hd⟩
    · exact h.listed entry hm
  exact hlisted.bind name hvalue

theorem evaluate (h : env.Made builder options site program) {place : Site}
    {expression : Expression} {value : Build.Value}
    (hv : Evaluator.evaluate ⟨env, options, builder.cache⟩ place expression = .ok value) :
    value.Sound (AllMade builder options site program) :=
  Evaluator.evaluate_sound
    (allMade_kept (Evaluator.setting ⟨env, options, builder.cache⟩) rfl rfl h.listed)
    (fun _ => h.bound) expression hv

end Environment.Made

/-! ### Transport types -/

/-- The type of the transport that an instruction defines. -/
def Instruction.type? : Instruction → Option String
  | defTransport _ type _ _ => some type
  | define _ _ => none

/-- The types of the transports that a plan defines, in order. -/
def Program.types (program : Program) : List String := program.filterMap Instruction.type?

namespace Builder

/-- The first type of a plan that is not registered. -/
def unregistered? (builder : Builder) (program : Program) : Option String :=
  program.types.find? fun type => (builder.registry.resolve type).isNone

theorem checkTypes_eq (program : Program) :
    builder.checkTypes program =
      match builder.unregistered? program with
      | some type => .error (.unsupportedTransport type)
      | none => .ok () := by
  induction program with
  | nil => rfl
  | cons instruction rest ih =>
    cases instruction with
    | define name body => exact ih
    | defTransport name type priority body =>
      unfold checkTypes resolve
      cases h : builder.registry.resolve type with
      | none =>
        have hfirst : builder.unregistered? (.defTransport name type priority body :: rest) =
            some type := by simp [unregistered?, Program.types, Instruction.type?, h]
        rw [hfirst]
        rfl
      | some mechanism =>
        refine Eq.trans ih ?_
        simp [unregistered?, Program.types, Instruction.type?, h]

end Builder

/-! ### Builds -/

namespace Builder

theorem steps_append (before after : Program) (index : Nat) (env : Environment) :
    builder.steps options site index (before ++ after) env =
      (builder.steps options site index before env >>= fun env =>
        builder.steps options site (index + before.length) after env) := by
  induction before generalizing index env with
  | nil => rfl
  | cons instruction rest ih =>
    rw [List.cons_append, steps, steps]
    cases builder.step options (site ++ [index]) env instruction with
    | error e => rfl
    | ok env =>
      refine (ih (index + 1) env).trans ?_
      rw [List.length_cons, Nat.add_assoc, Nat.add_comm 1]
      rfl

theorem resolve_eq_ok {type : String} {mechanism : Nat} :
    builder.resolve type = .ok mechanism ↔ builder.registry.resolve type = some mechanism := by
  unfold resolve
  cases builder.registry.resolve type with
  | none => exact ⟨nofun, nofun⟩
  | some found => simp

/-- One instruction more. -/
theorem step_made {program : Program} {env env' : Environment} {instruction : Instruction}
    (hreached : builder.steps options site 0 program .empty = .ok env)
    (h : env.Made builder options site program)
    (hstep : builder.step options (site ++ [program.length]) env instruction = .ok env') :
    env'.Made builder options site (program ++ [instruction]) := by
  cases instruction with
  | define name body =>
    obtain ⟨value, hv, hstep⟩ := ok_of_bind hstep
    cases hstep
    exact (h.append _).bind name ((h.append _).evaluate hv)
  | defTransport name type priority body =>
    obtain ⟨mechanism, hm, hstep⟩ := ok_of_bind hstep
    obtain ⟨fields, hf, hstep⟩ := ok_of_bind hstep
    cases hstep
    have hresolve := resolve_eq_ok.mp hm
    by_cases henabled : options.isEnabled name = true
    · rw [defineTransport, if_pos henabled]
      refine (h.append _).bindTransport ?_ (.transport rfl)
      rintro _ ⟨⟩
      exact .transport ⟨program, body, [], env, rfl, henabled, hresolve, hreached,
        evaluatesTo_of_transportOptions hf, rfl⟩
    · rw [defineTransport, if_neg henabled]
      refine (h.append _).bindTransport ?_ .unsupported
      rintro _ ⟨⟩
      exact .unsupported (List.mem_append_right _ List.mem_cons_self)
        (Bool.eq_false_iff.mpr henabled)

theorem steps_made (program : Program) : ∀ {env : Environment},
    builder.steps options site 0 program .empty = .ok env →
    env.Made builder options site program := by
  induction program using List.reverseRecOn with
  | nil =>
    rintro env ⟨⟩
    exact .empty
  | append_singleton program instruction ih =>
    intro env h
    rw [steps_append, Nat.zero_add] at h
    obtain ⟨between, hreached, h⟩ := ok_of_bind h
    obtain ⟨env', hstep, h⟩ := ok_of_bind h
    cases h
    exact step_made hreached (ih hreached) hstep

/-- A build succeeds when all types are registered, the plan runs, and what is bound to the
result's name then is a strategy. -/
theorem build_eq_ok {program : Program} {root : Strategy} :
    builder.build options site program = .ok root ↔
      builder.checkTypes program = .ok () ∧
      ∃ env, builder.steps options site 0 program .empty = .ok env ∧
        env.lookup resultName = .ok (.strategy root) := by
  constructor
  · intro h
    obtain ⟨⟨⟩, htypes, h⟩ := ok_of_bind h
    obtain ⟨env, hsteps, h⟩ := ok_of_bind h
    split at h
    · cases h
    · rename_i value hv
      cases value with
      | strategy node =>
        cases h
        exact ⟨htypes, env, hsteps, Environment.lookup_eq_ok.mpr hv⟩
      | _ => cases h
  · rintro ⟨htypes, env, hsteps, hl⟩
    have hfind : (env.take resultName).1 = some (.strategy root) :=
      Environment.lookup_eq_ok.mp hl
    simp only [build, htypes, hsteps, bind, Except.bind, hfind]
    rfl

/-- Every node of a built tree is made as the plan and the options say. -/
theorem build_made {program : Program} {root : Strategy}
    (h : builder.build options site program = .ok root) :
    AllMade builder options site program root := by
  obtain ⟨-, env, hreached, hl⟩ := build_eq_ok.mp h
  exact (steps_made program hreached).bound resultName _ hl root .strategy

end Builder

end

end Dialplan
