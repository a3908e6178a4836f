import Dialplan.Proofs.Build.Nodes
import Dialplan.Proofs.Build.Shape

/-! What evaluation depends on. The value of an expression depends, up to sites, only on the values
of the names that it mentions, and on the transports that are listed if it makes a cached node
(`Evaluator.evaluate_congr`). So instructions whose bodies come to the same values, run in
environments that agree, leave environments that agree (`Builder.step_of_matches`). -/

namespace Dialplan

open Build

/-! ### Mentions -/

namespace Expression

mutual

/-- The names that an expression mentions. What looks like a symbol in a map is none. -/
def symbols : Expression → List String
  | .literal _ => []
  | .symbol name => [name]
  | .list items => symbolsAll items
  | .invocation _ args => symbolsAll args

def symbolsAll : List Expression → List String
  | [] => []
  | expression :: rest => expression.symbols ++ symbolsAll rest

end

mutual

/-- The tags of the invocations that an expression contains. -/
def tags : Expression → List String
  | .literal _ => []
  | .symbol _ => []
  | .list items => tagsAll items
  | .invocation tag args => tag :: tagsAll args

def tagsAll : List Expression → List String
  | [] => []
  | expression :: rest => expression.tags ++ tagsAll rest

end

end Expression

namespace Instruction

/-- The names that an instruction mentions. -/
def symbols : Instruction → List String
  | defTransport _ _ _ none => []
  | defTransport _ _ _ (some body) => body.symbols
  | define _ body => body.symbols

def isTransport : Instruction → Bool
  | defTransport _ _ _ _ => true
  | define _ _ => false

end Instruction

/-! ### Agreement -/

/-- Some names have the same values in two environments, up to sites, and under a condition the
same transports are listed in both. -/
structure Environment.Agree (names : String → Prop) (listed : Prop) (env env' : Environment) :
    Prop where
  values : ∀ name, names name →
    Value.shape <$> env.lookup name = Value.shape <$> env'.lookup name
  transports : listed → Table.mapValues Strategy.shape env.transports =
    Table.mapValues Strategy.shape env'.transports

namespace Environment.Agree

variable {names names' : String → Prop} {listed listed' : Prop} {env env' : Environment}

theorem refl (env : Environment) : Agree names listed env env :=
  ⟨fun _ _ => rfl, fun _ => rfl⟩

theorem mono (h : Agree names listed env env') (hnames : ∀ name, names' name → names name)
    (hlisted : listed' → listed) : Agree names' listed' env env' :=
  ⟨fun name hn => h.values name (hnames name hn), fun hl => h.transports (hlisted hl)⟩

/-- Environments that agree on everything agree on anything. -/
theorem of_all (h : Agree (fun _ => True) True env env') : Agree names listed env env' :=
  h.mono (fun _ _ => ⟨⟩) fun _ => ⟨⟩

theorem bind (h : Agree names listed env env') (name : String) {value value' : Value}
    (hv : value.shape = value'.shape) :
    Agree (fun other => names other ∨ other = name) listed (env.bind name value)
      (env'.bind name value') := by
  refine ⟨fun other hother => ?_, h.transports⟩
  by_cases ho : other = name
  · simp [lookup, Environment.bind, ho, Table.find_put_self, hv]
  · have hvalues := h.values other (hother.resolve_right ho)
    simpa [lookup, Environment.bind, Table.find_put_of_ne _ _ ho] using hvalues

/-- A binding on one side does not matter where its name does not. -/
theorem bind_left (h : Agree names listed env env') {name : String} (hname : ¬ names name)
    (value : Value) : Agree names listed (env.bind name value) env' := by
  refine ⟨fun other hother => ?_, h.transports⟩
  have ho : other ≠ name := fun he => hname (he ▸ hother)
  simpa [lookup, Environment.bind, Table.find_put_of_ne _ _ ho] using h.values other hother

theorem bindTransport (h : Agree names listed env env') (name : String) (node : Strategy) :
    Agree (fun other => names other ∨ other = name) listed (env.bindTransport name node)
      (env'.bindTransport name node) := by
  have hlisted : Agree names listed { env with transports := Table.put env.transports name node }
      { env' with transports := Table.put env'.transports name node } := by
    refine ⟨h.values, fun hl => ?_⟩
    rw [← Table.put_mapValues, ← Table.put_mapValues, h.transports hl]
  exact hlisted.bind name rfl

end Environment.Agree

/-! ### Evaluation -/

/-- Two computations that agree on what they yield agree on what becomes of it. -/
theorem map_bind_congr {ε α β γ δ : Type} {x y : Except ε α} {f g : α → Except ε β} {s : α → γ}
    {t : β → δ} (hxy : s <$> x = s <$> y) (hfg : ∀ a b, s a = s b → t <$> f a = t <$> g b) :
    t <$> (x >>= f) = t <$> (y >>= g) := by
  cases x with
  | error e =>
    cases y with
    | error e' =>
      cases hxy
      rfl
    | ok b => cases hxy
  | ok a =>
    cases y with
    | error e' => cases hxy
    | ok b => exact hfg a b (Except.ok.inj hxy)

/-- What agrees with a success is one. -/
theorem ok_of_map_eq {ε α β : Type} {x y : Except ε α} {s : α → β} {a : α}
    (hxy : s <$> x = s <$> y) (hx : x = .ok a) : ∃ b, y = .ok b ∧ s a = s b := by
  cases y with
  | error e =>
    rw [hx] at hxy
    cases hxy
  | ok b =>
    rw [hx] at hxy
    exact ⟨b, rfl, Except.ok.inj hxy⟩

namespace Combinator

theorem tag_of_resolve {tag : String} {combinator : Combinator}
    (h : resolve tag = .ok combinator) : combinator.tag = tag := by
  unfold resolve at h
  split at h
  · rename_i found hfound
    rw [← Except.ok.inj h]
    simpa using List.find?_some hfound
  · cases h

theorem apply_of_ne_cached {combinator : Combinator} (h : combinator ≠ .cached)
    (setting setting' : Build.Setting) (site : Site) (args : List Value) :
    combinator.apply setting site args = combinator.apply setting' site args := by
  cases combinator with
  | cached => exact absurd rfl h
  | _ => rfl

/-- The arguments decide what a combinator makes, up to sites; for a cached node the setting
does, too. -/
theorem apply_congr {combinator : Combinator} {setting setting' : Build.Setting}
    (site site' : Site) {args args' : List Value}
    (hargs : args.map Value.shape = args'.map Value.shape)
    (hsetting : combinator = .cached → setting.shape = setting'.shape) :
    Value.shape <$> combinator.apply setting site args =
      Value.shape <$> combinator.apply setting' site' args' := by
  by_cases hc : combinator = .cached
  · rw [← apply_shape, ← apply_shape, hargs, hsetting hc]
  · rw [apply_of_ne_cached hc setting setting', ← apply_shape, ← apply_shape, hargs]

end Combinator

namespace Evaluator

variable {env env' : Environment} {options : BuildOptions} {cache : Nat}

theorem invocation_congr {tag : String} {args args' : List Expression} (site site' : Site)
    (hargs : List.map Value.shape <$> evaluateAll ⟨env, options, cache⟩ site 0 args =
      List.map Value.shape <$> evaluateAll ⟨env', options, cache⟩ site' 0 args')
    (hlisted : Combinator.cached.tag = tag → Table.mapValues Strategy.shape env.transports =
      Table.mapValues Strategy.shape env'.transports) :
    Value.shape <$> evaluate ⟨env, options, cache⟩ site (.invocation tag args) =
      Value.shape <$> evaluate ⟨env', options, cache⟩ site' (.invocation tag args') := by
  simp only [evaluate]
  cases hresolve : Combinator.resolve tag with
  | error e => rfl
  | ok combinator =>
    -- only a cached node keeps the transports that are listed
    have hsetting : combinator = .cached → (setting ⟨env, options, cache⟩).shape =
        (setting ⟨env', options, cache⟩).shape := by
      intro hc
      have htag := Combinator.tag_of_resolve hresolve
      rw [hc] at htag
      simp only [Setting.shape, setting, hlisted htag]
    exact map_bind_congr (f := combinator.apply _ site) (g := combinator.apply _ site') hargs
      fun _ _ hvalues => Combinator.apply_congr site site' hvalues hsetting

mutual

/-- The value of an expression depends only on what it mentions. -/
theorem evaluate_congr : ∀ (expression : Expression) (site site' : Site),
    env.Agree (· ∈ expression.symbols) (Combinator.cached.tag ∈ expression.tags) env' →
    Value.shape <$> evaluate ⟨env, options, cache⟩ site expression =
      Value.shape <$> evaluate ⟨env', options, cache⟩ site' expression
  | .literal _, _, _, _ => rfl
  | .symbol name, _, _, h => h.values name (by simp [Expression.symbols])
  | .list items, site, site', h => by
    refine map_bind_congr (evaluateAll_congr items site site' 0 0 h) fun values values' hv => ?_
    simp [hv]
  | .invocation tag args, site, site', h => by
    refine invocation_congr site site' (evaluateAll_congr args site site' 0 0 ?_) fun htag => ?_
    · exact h.mono (fun _ hn => hn) (List.mem_cons_of_mem _)
    · exact h.transports (by simp [Expression.tags, htag])

theorem evaluateAll_congr : ∀ (expressions : List Expression) (site site' : Site)
    (index index' : Nat),
    env.Agree (· ∈ Expression.symbolsAll expressions)
      (Combinator.cached.tag ∈ Expression.tagsAll expressions) env' →
    List.map Value.shape <$> evaluateAll ⟨env, options, cache⟩ site index expressions =
      List.map Value.shape <$> evaluateAll ⟨env', options, cache⟩ site' index' expressions
  | [], _, _, _, _, _ => rfl
  | expression :: rest, site, site', index, index', h => by
    have hfirst := evaluate_congr expression (site ++ [index]) (site' ++ [index'])
      (h.mono (fun _ => List.mem_append_left _) (List.mem_append_left _))
    have hrest := evaluateAll_congr rest site site' (index + 1) (index' + 1)
      (h.mono (fun _ => List.mem_append_right _) (List.mem_append_right _))
    refine map_bind_congr hfirst fun value value' hv => ?_
    refine map_bind_congr hrest fun values values' hvs => ?_
    simp [hv, hvs]

end

end Evaluator

/-! ### Instructions -/

/-- Two instructions have the same effect: they bind the same name, and what they evaluate comes
to the same, up to sites. -/
inductive Instruction.Matches (evaluator evaluator' : Evaluator) (site site' : Site) :
    Instruction → Instruction → Prop where
  | define {name body body'} :
      Value.shape <$> evaluator.evaluate site body =
        Value.shape <$> evaluator'.evaluate site' body' →
      Matches evaluator evaluator' site site' (.define name body) (.define name body')
  | defTransport {name type priority body body'} :
      Builder.transportOptions evaluator site body =
        Builder.transportOptions evaluator' site' body' →
      Matches evaluator evaluator' site site' (.defTransport name type priority body)
        (.defTransport name type priority body')

namespace Builder

/-- The options that a value stands for. -/
def optionsOf : Value → Except Error Json.Fields
  | .null => .ok []
  | value => value.toMap "def_transport options"

theorem optionsOf_shape (value : Value) : optionsOf value.shape = optionsOf value := by
  cases value <;> rfl

theorem transportOptions_some (evaluator : Evaluator) (site : Site) (body : Expression) :
    transportOptions evaluator site (some body) =
      ((Value.shape <$> evaluator.evaluate site body) >>= optionsOf) := by
  simp only [bind_map_left, optionsOf_shape]
  rfl

end Builder

namespace Instruction

variable {env env' : Environment} {options : BuildOptions} {cache : Nat} {site site' : Site}

/-- An instruction has the same effect wherever what it mentions has the same values. -/
theorem matches_of_agree {instruction : Instruction}
    (h : env.Agree (· ∈ instruction.symbols) True env') :
    Matches ⟨env, options, cache⟩ ⟨env', options, cache⟩ site site' instruction instruction := by
  cases instruction with
  | define name body =>
    exact .define (Evaluator.evaluate_congr body site site' (h.mono (fun _ hn => hn) fun _ => ⟨⟩))
  | defTransport name type priority body =>
    cases body with
    | none => exact .defTransport rfl
    | some body =>
      refine .defTransport ?_
      rw [Builder.transportOptions_some, Builder.transportOptions_some,
        Evaluator.evaluate_congr body site site' (h.mono (fun _ hn => hn) fun _ => ⟨⟩)]

end Instruction

namespace Builder

variable {builder : Builder} {options : BuildOptions} {names : String → Prop}
  {env env' after : Environment}

/-- Instructions of the same effect keep the agreement of environments, and make the environments
agree on the name that they bind. -/
theorem step_of_matches {site site' : Site} {instruction instruction' : Instruction}
    (h : env.Agree names True env')
    (hmatches : instruction.Matches ⟨env, options, builder.cache⟩ ⟨env', options, builder.cache⟩
      site site' instruction')
    (hstep : builder.step options site env instruction = .ok after) :
    ∃ after', builder.step options site' env' instruction' = .ok after' ∧
      after.Agree (fun name => names name ∨ name = instruction.name) True after' := by
  cases hmatches with
  | define hbody =>
    obtain ⟨value, hv, hstep⟩ := ok_of_bind hstep
    cases hstep
    obtain ⟨value', hv', hshape⟩ := ok_of_map_eq hbody hv
    refine ⟨env'.bind _ value', ?_, h.bind _ hshape⟩
    simp only [step, hv']
    rfl
  | defTransport hoptions =>
    obtain ⟨mechanism, hm, hstep⟩ := ok_of_bind hstep
    obtain ⟨fields, hf, hstep⟩ := ok_of_bind hstep
    cases hstep
    refine ⟨env'.bindTransport _ _, ?_, h.bindTransport _ _⟩
    simp only [step, hm, ← hoptions, hf]
    rfl

/-- Environments that agree on everything still do so after they have run the same plan. -/
theorem steps_agree {site site' : Site} {program : Program} {index index' : Nat}
    (h : env.Agree (fun _ => True) True env')
    (hsteps : builder.steps options site index program env = .ok after) :
    ∃ after', builder.steps options site' index' program env' = .ok after' ∧
      after.Agree (fun _ => True) True after' := by
  induction program generalizing index index' env env' with
  | nil =>
    cases hsteps
    exact ⟨env', rfl, h⟩
  | cons instruction rest ih =>
    obtain ⟨between, hstep, hsteps⟩ := ok_of_bind hsteps
    have hmatches : instruction.Matches ⟨env, options, builder.cache⟩
        ⟨env', options, builder.cache⟩ (site ++ [index]) (site' ++ [index']) instruction :=
      Instruction.matches_of_agree h.of_all
    obtain ⟨between', hstep', hbetween⟩ := step_of_matches h hmatches hstep
    have hrest : ∃ after', builder.steps options site' (index' + 1) rest between' = .ok after' ∧
        after.Agree (fun _ => True) True after' :=
      ih (hbetween.mono (fun _ _ => .inl ⟨⟩) id) hsteps
    obtain ⟨after', hsteps', hafter⟩ := hrest
    refine ⟨after', ?_, hafter⟩
    rw [steps, hstep']
    exact hsteps'

/-- Plans with the same types that end with the same result's value build trees of the same
shape. -/
theorem build_of_agree {site site' : Site} {program program' : Program} {root : Strategy}
    (htypes : program'.types = program.types)
    (h : builder.build options site program = .ok root)
    (hsteps : ∀ {after}, builder.steps options site 0 program .empty = .ok after →
      ∃ after', builder.steps options site' 0 program' .empty = .ok after' ∧
        after.Agree (· = resultName) True after') :
    ∃ root', builder.build options site' program' = .ok root' ∧ root'.shape = root.shape := by
  obtain ⟨hregistered, after, hafter, hl⟩ := build_eq_ok.mp h
  obtain ⟨after', hafter', hagree⟩ := hsteps hafter
  obtain ⟨value, hl', hshape⟩ := ok_of_map_eq (hagree.values resultName rfl) hl
  cases value with
  | strategy root' =>
    have hregistered' : builder.checkTypes program' = .ok () := by
      rw [checkTypes_eq, unregistered?, htypes]
      rwa [checkTypes_eq, unregistered?] at hregistered
    exact ⟨root', build_eq_ok.mpr ⟨hregistered', after', hafter', hl'⟩,
      (Value.strategy.inj hshape).symm⟩
  | _ => simp [Value.shape] at hshape

end Builder

end Dialplan
