import Dialplan.Proofs.Build.Bindings
import Dialplan.Proofs.Build.Dependence

/-! Inlining. As long as neither a name nor what its definition mentions is bound again, and no
transport is added where the definition makes a cached node, the name stands for the expression
that it was defined by (`Builder.standsFor_of_steps`). So mentions of the name can be replaced by
the expression, and the plan builds a tree of the same shape (`Builder.build_inline`). -/

namespace Dialplan

open Build

/-! ### Replacing mentions -/

mutual

/-- An expression with the definition in the place of some mentions of the name. -/
inductive Expression.Inlined (definition : Expression) (name : String) :
    Expression → Expression → Prop where
  | mention : Inlined definition name (.symbol name) definition
  | same {expression} : Inlined definition name expression expression
  | list {items items'} : InlinedAll definition name items items' →
      Inlined definition name (.list items) (.list items')
  | invocation {tag args args'} : InlinedAll definition name args args' →
      Inlined definition name (.invocation tag args) (.invocation tag args')

inductive Expression.InlinedAll (definition : Expression) (name : String) :
    List Expression → List Expression → Prop where
  | nil : InlinedAll definition name [] []
  | cons {expression expression' rest rest'} : Inlined definition name expression expression' →
      InlinedAll definition name rest rest' →
      InlinedAll definition name (expression :: rest) (expression' :: rest')

end

/-- An instruction with the definition in the place of some mentions of the name. -/
inductive Instruction.Inlined (definition : Expression) (name : String) :
    Instruction → Instruction → Prop where
  | define {other body body'} : definition.Inlined name body body' →
      Inlined definition name (.define other body) (.define other body')
  | defTransport {other type priority body body'} : definition.Inlined name body body' →
      Inlined definition name (.defTransport other type priority (some body))
        (.defTransport other type priority (some body'))

/-- In an environment a name has the value of an expression, up to sites. -/
def Environment.StandsFor (env : Environment) (options : BuildOptions) (cache : Nat)
    (name : String) (definition : Expression) : Prop :=
  ∀ site, Value.shape <$> Evaluator.evaluate ⟨env, options, cache⟩ site definition =
    Value.shape <$> env.lookup name

section

variable {env env' : Environment} {options : BuildOptions} {cache : Nat} {name : String}
  {definition : Expression}

namespace Evaluator

mutual

/-- Where a name stands for an expression, its mentions can be replaced by the expression. -/
theorem evaluate_inlined (h : env.StandsFor options cache name definition) :
    ∀ {expression expression' : Expression} (site : Site),
      definition.Inlined name expression expression' →
      Value.shape <$> evaluate ⟨env, options, cache⟩ site expression =
        Value.shape <$> evaluate ⟨env, options, cache⟩ site expression'
  | _, _, site, .mention => (h site).symm
  | _, _, _, .same => rfl
  | _, _, site, .list hitems => by
    refine map_bind_congr (evaluateAll_inlined h site 0 hitems) fun values values' hv => ?_
    simp [hv]
  | _, _, site, .invocation hargs =>
    invocation_congr site site (evaluateAll_inlined h site 0 hargs) fun _ => rfl

theorem evaluateAll_inlined (h : env.StandsFor options cache name definition) :
    ∀ {expressions expressions' : List Expression} (site : Site) (index : Nat),
      Expression.InlinedAll definition name expressions expressions' →
      List.map Value.shape <$> evaluateAll ⟨env, options, cache⟩ site index expressions =
        List.map Value.shape <$> evaluateAll ⟨env, options, cache⟩ site index expressions'
  | _, _, _, _, .nil => rfl
  | _, _, site, index, .cons hfirst hrest => by
    refine map_bind_congr (evaluate_inlined h (site ++ [index]) hfirst) fun value value' hv => ?_
    refine map_bind_congr (evaluateAll_inlined h site (index + 1) hrest) fun _ _ hvs => ?_
    simp [hv, hvs]

end

end Evaluator

/-- Replacing mentions changes no type. -/
theorem Instruction.Inlined.types_eq {instruction instruction' : Instruction}
    (hinlined : Instruction.Inlined definition name instruction instruction')
    (before rest : Program) : Program.types (before ++ instruction' :: rest) =
      Program.types (before ++ instruction :: rest) := by
  have htype : instruction'.type? = instruction.type? := by cases hinlined <;> rfl
  simp only [Program.types, List.filterMap_append, List.filterMap_cons, htype]

/-- An instruction in which mentions are replaced has the same effect, in environments that agree
on everything. -/
theorem Instruction.Inlined.matches {site site' : Site} {instruction instruction' : Instruction}
    (h : env.Agree (fun _ => True) True env')
    (hstands : env'.StandsFor options cache name definition)
    (hinlined : Instruction.Inlined definition name instruction instruction') :
    instruction.Matches ⟨env, options, cache⟩ ⟨env', options, cache⟩ site site' instruction' := by
  cases hinlined with
  | define hbody =>
    exact .define ((Evaluator.evaluate_congr _ site site' h.of_all).trans
      (Evaluator.evaluate_inlined hstands site' hbody))
  | defTransport hbody =>
    refine .defTransport ?_
    rw [Builder.transportOptions_some, Builder.transportOptions_some,
      ← Evaluator.evaluate_inlined hstands site' hbody,
      Evaluator.evaluate_congr _ site site' h.of_all]

/-! ### Names and their definitions -/

/-- A name keeps standing for an expression where neither changes. -/
theorem Environment.StandsFor.of_agree (h : env.StandsFor options cache name definition)
    (hname : env.lookup name = env'.lookup name)
    (hagree : env.Agree (· ∈ definition.symbols) (Combinator.cached.tag ∈ definition.tags) env') :
    env'.StandsFor options cache name definition := by
  intro site
  rw [← hname, ← h site]
  exact (Evaluator.evaluate_congr definition site site hagree).symm

end

namespace Builder

variable {builder : Builder} {options : BuildOptions} {site site' : Site}
  {env after : Environment} {name : String} {definition : Expression}

/-- An instruction that binds another name leaves a name alone. -/
theorem step_lookup_of_ne {instruction : Instruction}
    (hstep : builder.step options site env instruction = .ok after)
    (hne : instruction.name ≠ name) : after.lookup name = env.lookup name := by
  obtain ⟨value, -, hput⟩ := step_binds hstep
  simp only [Environment.lookup, hput, Table.find_put_of_ne _ _ (Ne.symm hne)]

/-- A definition adds no transport. -/
theorem step_transports {instruction : Instruction}
    (hstep : builder.step options site env instruction = .ok after)
    (hdef : instruction.isTransport = false) : after.transports = env.transports := by
  cases instruction with
  | define name body =>
    obtain ⟨value, -, hstep⟩ := ok_of_bind hstep
    cases hstep
    rfl
  | defTransport => cases hdef

/-- A definition makes its name stand for its body, unless the body mentions the name. -/
theorem standsFor_of_define (hself : name ∉ definition.symbols)
    (hstep : builder.step options site env (.define name definition) = .ok after) :
    after.StandsFor options builder.cache name definition := by
  obtain ⟨value, hv, hstep⟩ := ok_of_bind hstep
  cases hstep
  intro place
  have hagree : (env.bind name value).Agree (· ∈ definition.symbols)
      (Combinator.cached.tag ∈ definition.tags) env :=
    Environment.Agree.bind_left (.refl env) hself value
  have hlookup : (env.bind name value).lookup name = .ok value :=
    Environment.lookup_eq_ok.mpr (Table.find_put_self _ _ _)
  rw [hlookup, ← hv]
  exact Evaluator.evaluate_congr definition place site hagree

/-- An instruction leaves what a name stands for alone if it binds neither the name nor what the
expression mentions, and adds no transport that the expression lists. -/
theorem standsFor_of_step {instruction : Instruction}
    (h : env.StandsFor options builder.cache name definition)
    (hname : instruction.name ≠ name) (hsymbols : instruction.name ∉ definition.symbols)
    (hcached : Combinator.cached.tag ∈ definition.tags → instruction.isTransport = false)
    (hstep : builder.step options site env instruction = .ok after) :
    after.StandsFor options builder.cache name definition := by
  refine h.of_agree (step_lookup_of_ne hstep hname).symm ⟨fun other hother => ?_, fun hc => ?_⟩
  · have hother : instruction.name ≠ other := fun he => hsymbols (he ▸ hother)
    rw [step_lookup_of_ne hstep hother]
  · rw [step_transports hstep (hcached hc)]

/-- Instructions that bind neither a name nor what its definition mentions, and add no transport
that it lists, leave the name standing for its definition. -/
theorem standsFor_of_steps {between : Program} {index : Nat}
    (h : env.StandsFor options builder.cache name definition)
    (hbetween : ∀ instruction ∈ between, instruction.name ≠ name ∧
      instruction.name ∉ definition.symbols)
    (hcached : Combinator.cached.tag ∈ definition.tags →
      ∀ instruction ∈ between, instruction.isTransport = false)
    (hsteps : builder.steps options site index between env = .ok after) :
    after.StandsFor options builder.cache name definition := by
  induction between generalizing index env with
  | nil =>
    cases hsteps
    exact h
  | cons instruction rest ih =>
    obtain ⟨middle, hstep, hsteps⟩ := ok_of_bind hsteps
    obtain ⟨⟨hname, hsymbols⟩, hrest⟩ := List.forall_mem_cons.mp hbetween
    have hmiddle : middle.StandsFor options builder.cache name definition :=
      standsFor_of_step h hname hsymbols (fun hc => hcached hc _ List.mem_cons_self) hstep
    exact ih hmiddle hrest (fun hc i hi => hcached hc i (List.mem_cons_of_mem _ hi)) hsteps

/-- After its definition a name stands for the expression until something in the way is bound. -/
theorem standsFor_of_defined {before between : Program}
    (hself : name ∉ definition.symbols)
    (hbetween : ∀ instruction ∈ between, instruction.name ≠ name ∧
      instruction.name ∉ definition.symbols)
    (hcached : Combinator.cached.tag ∈ definition.tags →
      ∀ instruction ∈ between, instruction.isTransport = false)
    (hsteps : builder.steps options site 0 (before ++ .define name definition :: between) env =
      .ok after) :
    after.StandsFor options builder.cache name definition := by
  rw [steps_append] at hsteps
  obtain ⟨reached, -, hsteps⟩ := ok_of_bind hsteps
  obtain ⟨defined, hdefine, hsteps⟩ := ok_of_bind hsteps
  exact standsFor_of_steps (standsFor_of_define hself hdefine) hbetween hcached hsteps

/-- An instruction can be replaced by one that has the same effect in its place. -/
theorem steps_replace {before rest : Program} {instruction instruction' : Instruction}
    (hmatches : ∀ {reached reached' : Environment},
      reached.Agree (fun _ => True) True reached' →
      builder.steps options site' 0 before .empty = .ok reached' →
      instruction.Matches ⟨reached, options, builder.cache⟩ ⟨reached', options, builder.cache⟩
        (site ++ [before.length]) (site' ++ [before.length]) instruction')
    (hsteps : builder.steps options site 0 (before ++ instruction :: rest) .empty = .ok after) :
    ∃ after', builder.steps options site' 0 (before ++ instruction' :: rest) .empty = .ok after' ∧
      after.Agree (fun _ => True) True after' := by
  rw [steps_append, Nat.zero_add] at hsteps
  obtain ⟨reached, hbefore, hsteps⟩ := ok_of_bind hsteps
  obtain ⟨bound, hstep, hrest⟩ := ok_of_bind hsteps
  obtain ⟨reached', hbefore', hreached⟩ := steps_agree (.refl .empty) hbefore
  obtain ⟨bound', hstep', hbound⟩ := step_of_matches hreached (hmatches hreached hbefore') hstep
  obtain ⟨after', hrest', hafter⟩ := steps_agree (hbound.mono (fun _ _ => .inl ⟨⟩) id) hrest
  refine ⟨after', ?_, hafter⟩
  rw [steps_append, Nat.zero_add, hbefore']
  exact (congrArg (· >>= _) hstep').trans hrest'

/-- What a name is defined by can stand in its place: a later instruction that mentions the name
can have the expression instead, and the plan builds a tree of the same shape. -/
theorem build_inline {before between rest : Program} {user user' : Instruction}
    {root : Strategy}
    (h : builder.build options site
      (before ++ .define name definition :: (between ++ user :: rest)) = .ok root)
    (hself : name ∉ definition.symbols)
    (hbetween : ∀ instruction ∈ between, instruction.name ≠ name ∧
      instruction.name ∉ definition.symbols)
    (hcached : Combinator.cached.tag ∈ definition.tags →
      ∀ instruction ∈ between, instruction.isTransport = false)
    (hinlined : Instruction.Inlined definition name user user') :
    ∃ root', builder.build options site'
        (before ++ .define name definition :: (between ++ user' :: rest)) = .ok root' ∧
      root'.shape = root.shape := by
  have hsplit : ∀ instruction : Instruction,
      before ++ .define name definition :: (between ++ instruction :: rest) =
        (before ++ .define name definition :: between) ++ instruction :: rest := by simp
  rw [hsplit] at h ⊢
  -- the name stands for its definition in the second run, up to the instruction that differs
  refine build_of_agree (hinlined.types_eq _ rest) h fun hsteps => ?_
  obtain ⟨after', hsteps', hafter⟩ := steps_replace (fun hagree hreached =>
    hinlined.matches hagree (standsFor_of_defined hself hbetween hcached hreached)) hsteps
  exact ⟨after', hsteps', hafter.of_all⟩

end Builder

/-! A plan whose result mentions a cached node by its name, once in a list and once by itself, after
a definition that lies between. -/

def raceBuilder : Builder := ⟨[("ws", 0)], 0⟩

def raceDefinition : Expression :=
  .invocation "cached" [.literal (.number (.unsigned 1000)),
    .invocation "best_connected_ever" [.symbol "ws", .symbol "ws"]]

def inlinedProgram (user : Instruction) : Program :=
  [.defTransport "ws" "ws" 1 none] ++ .define "race" raceDefinition ::
    ([.define "spare" (.list [.symbol "race"])] ++ user :: [])

/-- Of two mentions the first is replaced. -/
theorem build_inline_race : ∃ root root',
    raceBuilder.build .default [] (inlinedProgram (.define "strategy"
      (.invocation "sequential" [.list [.symbol "race"], .symbol "race"]))) = .ok root ∧
    raceBuilder.build .default [7] (inlinedProgram (.define "strategy"
      (.invocation "sequential" [.list [raceDefinition], .symbol "race"]))) = .ok root' ∧
    root'.shape = root.shape := by
  let leaf : Strategy := .transport ⟨"ws", "ws", 1, 0, [], none⟩
  let race : Strategy := .cached ⟨Duration.ofMillis 1000, false, 0⟩ [("ws", leaf)]
    (.bestConnectedEver [1, 1] [leaf, leaf])
  have hbuild : raceBuilder.build .default [] (inlinedProgram (.define "strategy"
      (.invocation "sequential" [.list [.symbol "race"], .symbol "race"]))) =
        .ok (.sequential .default [race, race]) := by rfl
  have hself : "race" ∉ raceDefinition.symbols := by decide
  have hinlined : Instruction.Inlined raceDefinition "race"
      (.define "strategy" (.invocation "sequential" [.list [.symbol "race"], .symbol "race"]))
      (.define "strategy" (.invocation "sequential" [.list [raceDefinition], .symbol "race"])) :=
    .define (.invocation (.cons (.list (.cons .mention .nil)) (.cons .same .nil)))
  obtain ⟨root', hbuild', hshape⟩ := Builder.build_inline hbuild hself
    (List.forall_mem_singleton.mpr (by decide)) (fun _ => List.forall_mem_singleton.mpr rfl)
    hinlined
  exact ⟨_, root', hbuild, hbuild', hshape⟩

end Dialplan
