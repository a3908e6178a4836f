import Dialplan.Build.Evaluator

/-! Where strategies come from. A value carries strategies; those that the value of an
expression carries are made by combinators from those that the environment carries. So
what holds of the bound strategies and is kept by the combinators holds of all that
evaluation makes (`Evaluator.evaluate_sound`). It may depend on the site of the expression. -/

namespace Dialplan

/-- What has succeeded has succeeded in its first step. -/
theorem ok_of_bind {ε α β : Type} {x : Except ε α} {f : α → Except ε β} {b : β}
    (h : (x >>= f) = .ok b) : ∃ a, x = .ok a ∧ f a = .ok b := by
  cases x with
  | error e => cases h
  | ok a => exact ⟨a, rfl, h⟩

/-- What has failed has failed in its first step or after it. -/
theorem error_of_bind {ε α β : Type} {x : Except ε α} {f : α → Except ε β} {e : ε}
    (h : (x >>= f) = .error e) : x = .error e ∨ ∃ a, x = .ok a ∧ f a = .error e := by
  cases x with
  | error e' => exact .inl (congrArg Except.error (Except.error.inj h))
  | ok a => exact .inr ⟨a, rfl, h⟩

theorem map_error_iff {ε α β : Type} {x : Except ε α} {f : α → β} {e : ε} :
    (x >>= fun a => .ok (f a)) = .error e ↔ x = .error e := by
  cases x with
  | error e' => simp [bind, Except.bind]
  | ok a => exact ⟨nofun, nofun⟩

theorem mem_of_mapM {ε α β : Type} {f : α → Except ε β} {xs : List α} {ys : List β}
    (h : xs.mapM f = .ok ys) : ∀ y ∈ ys, ∃ x ∈ xs, f x = .ok y := by
  induction xs generalizing ys with
  | nil =>
    cases h
    exact nofun
  | cons x xs ih =>
    rw [List.mapM_cons] at h
    obtain ⟨y, hy, h⟩ := ok_of_bind h
    obtain ⟨rest, hrest, h⟩ := ok_of_bind h
    cases h
    refine List.forall_mem_cons.mpr ⟨⟨x, List.mem_cons_self, hy⟩, fun z hz => ?_⟩
    obtain ⟨x', hx', hz⟩ := ih hrest z hz
    exact ⟨x', List.mem_cons_of_mem _ hx', hz⟩

namespace Build.Value

/-- The strategies that stand in a value: alone, in a condition, or in a list. -/
inductive Carries (node : Strategy) : Value → Prop where
  | strategy : Carries node (.strategy node)
  | condition : Carries node (.condition (.isSupported node))
  | item {items value} : value ∈ items → Carries node value → Carries node (.list items)

/-- A property holds of every strategy that a value carries. -/
def Sound (P : Strategy → Prop) (value : Value) : Prop := ∀ node, value.Carries node → P node

theorem Sound.mono {P Q : Strategy → Prop} (h : ∀ node, P node → Q node) {value : Value}
    (hs : value.Sound P) : value.Sound Q :=
  fun node hc => h node (hs node hc)

theorem sound_strategy {P : Strategy → Prop} {node : Strategy} (h : P node) :
    (strategy node).Sound P := by
  rintro _ ⟨⟩
  exact h

theorem carries_of_toStrategy {value : Value} {context : String} {node : Strategy}
    (h : value.toStrategy context = .ok node) : value.Carries node := by
  cases value with
  | strategy node' =>
    cases h
    exact .strategy
  | _ => cases h

theorem carries_of_toCondition {value : Value} {context : String} {node : Strategy}
    (h : value.toCondition context = .ok (.isSupported node)) : value.Carries node := by
  cases value with
  | condition test =>
    cases h
    exact .condition
  | _ => cases h

end Build.Value

open Build

namespace Combinator

theorem carries_of_ofArg {tag : String} {arg : Value} {nodes : List Strategy}
    (h : ofArg tag arg = .ok nodes) : ∀ node ∈ nodes, arg.Carries node := by
  cases arg with
  | list items =>
    intro node hm
    obtain ⟨item, hi, hs⟩ := mem_of_mapM h node hm
    exact .item hi (Value.carries_of_toStrategy hs)
  | _ =>
    obtain ⟨node, hs, h⟩ := ok_of_bind h
    cases h
    exact List.forall_mem_singleton.mpr (Value.carries_of_toStrategy hs)

/-- Children are never missing, and each stands in some argument. -/
theorem carries_of_strategies {tag : String} {args : List Value} {nodes : List Strategy}
    (h : strategies tag args = .ok nodes) :
    nodes ≠ [] ∧ ∀ node ∈ nodes, ∃ arg ∈ args, arg.Carries node := by
  obtain ⟨groups, hg, h⟩ := ok_of_bind h
  split at h
  · cases h
  · rename_i hne
    cases h
    refine ⟨hne, fun node hm => ?_⟩
    obtain ⟨group, hgroup, hm⟩ := List.mem_flatten.mp hm
    obtain ⟨arg, harg, hs⟩ := mem_of_mapM hg group hgroup
    exact ⟨arg, harg, carries_of_ofArg hs node hm⟩

/-- A property of strategies at sites that combinators keep under a setting. What holds below a
site holds there, and a node with a memory is made from what holds below its site. -/
structure Kept (setting : Build.Setting) (P : Site → Strategy → Prop) : Prop where
  lift : ∀ {site i node}, P (site ++ [i]) node → P site node
  delayed : ∀ {site delay child}, P site child → P site (.delayed delay child)
  sequential : ∀ {site options children}, children ≠ [] → (∀ child ∈ children, P site child) →
    P site (.sequential options children)
  cached : ∀ {site ttl child}, P site child →
    P site (.cached ⟨ttl, setting.options.encrypted, setting.cache⟩ setting.transports child)
  firstConnected : ∀ {site children}, children ≠ [] → (∀ child ∈ children, P site child) →
    P site (.firstConnected children)
  bestConnectedEver : ∀ {site children}, children ≠ [] →
    (∀ child ∈ children, ∃ i, P (site ++ [i]) child) → P site (.bestConnectedEver site children)
  branch : ∀ {site test onTrue onFalse}, (∀ node, test = .isSupported node → P site node) →
    P site onTrue → P site onFalse → P site (.branch test onTrue onFalse)

theorem sound_of_strategies {tag : String} {args : List Value} {nodes : List Strategy}
    {P : Strategy → Prop} (h : strategies tag args = .ok nodes)
    (hargs : ∀ arg ∈ args, arg.Sound P) : nodes ≠ [] ∧ ∀ node ∈ nodes, P node := by
  obtain ⟨hne, hc⟩ := carries_of_strategies h
  refine ⟨hne, fun node hm => ?_⟩
  obtain ⟨arg, harg, hc⟩ := hc node hm
  exact hargs arg harg node hc

/-- What combinators keep holds of what a combinator makes. -/
theorem apply_sound {combinator : Combinator} {setting : Build.Setting} {site : Site}
    {args : List Value} {value : Value} {P : Site → Strategy → Prop} (kept : Kept setting P)
    (h : combinator.apply setting site args = .ok value)
    (hbelow : ∀ arg ∈ args, arg.Sound fun node => ∃ i, P (site ++ [i]) node) :
    value.Sound (P site) := by
  have hargs : ∀ arg ∈ args, arg.Sound (P site) :=
    fun arg hm => (hbelow arg hm).mono fun _ ⟨_, hnode⟩ => kept.lift hnode
  cases combinator with
  | delayed =>
    unfold apply at h
    dsimp only at h
    split at h
    · rename_i delay child
      obtain ⟨d, -, h⟩ := ok_of_bind h
      obtain ⟨node, hs, h⟩ := ok_of_bind h
      cases h
      have hc := Value.carries_of_toStrategy hs
      exact Value.sound_strategy (kept.delayed (hargs child (by simp) node hc))
    · cases h
  | sequential =>
    unfold apply at h
    dsimp only at h
    split at h
    · rename_i fields args
      obtain ⟨options, -, h⟩ := ok_of_bind h
      obtain ⟨nodes, hs, h⟩ := ok_of_bind h
      cases h
      obtain ⟨hne, hp⟩ := sound_of_strategies hs (List.forall_mem_cons.mp hargs).2
      exact Value.sound_strategy (kept.sequential hne hp)
    · obtain ⟨nodes, hs, h⟩ := ok_of_bind h
      cases h
      obtain ⟨hne, hp⟩ := sound_of_strategies hs hargs
      exact Value.sound_strategy (kept.sequential hne hp)
  | cached =>
    unfold apply at h
    dsimp only at h
    split at h
    · rename_i ttl child
      obtain ⟨d, -, h⟩ := ok_of_bind h
      obtain ⟨node, hs, h⟩ := ok_of_bind h
      cases h
      have hc := Value.carries_of_toStrategy hs
      exact Value.sound_strategy (kept.cached (hargs child (by simp) node hc))
    · cases h
  | firstConnected =>
    obtain ⟨nodes, hs, h⟩ := ok_of_bind h
    cases h
    obtain ⟨hne, hp⟩ := sound_of_strategies hs hargs
    exact Value.sound_strategy (kept.firstConnected hne hp)
  | bestConnectedEver =>
    obtain ⟨nodes, hs, h⟩ := ok_of_bind h
    cases h
    obtain ⟨hne, hp⟩ := sound_of_strategies hs hbelow
    exact Value.sound_strategy (kept.bestConnectedEver hne hp)
  | branch =>
    unfold apply at h
    dsimp only at h
    split at h
    · rename_i test onTrue onFalse
      obtain ⟨condition, hcondition, h⟩ := ok_of_bind h
      obtain ⟨nodeTrue, htrue, h⟩ := ok_of_bind h
      obtain ⟨nodeFalse, hfalse, h⟩ := ok_of_bind h
      cases h
      refine Value.sound_strategy (kept.branch ?_ ?_ ?_)
      · rintro node rfl
        exact hargs test (by simp) node (Value.carries_of_toCondition hcondition)
      · exact hargs onTrue (by simp) nodeTrue (Value.carries_of_toStrategy htrue)
      · exact hargs onFalse (by simp) nodeFalse (Value.carries_of_toStrategy hfalse)
    · cases h
  | isSupported =>
    unfold apply at h
    dsimp only at h
    split at h
    · rename_i arg
      obtain ⟨node, hs, h⟩ := ok_of_bind h
      cases h
      rintro _ ⟨⟩
      exact hargs arg (by simp) node (Value.carries_of_toStrategy hs)
    · cases h

end Combinator

namespace Evaluator

variable {evaluator : Evaluator} {P : Site → Strategy → Prop}

mutual

/-- What is kept by combinators and holds of all that is bound holds of all that evaluation
makes. -/
theorem evaluate_sound (kept : Combinator.Kept evaluator.setting P)
    (henv : ∀ site name value, evaluator.env.lookup name = .ok value → value.Sound (P site)) :
    ∀ (expression : Expression) {site : Site} {value : Value},
      evaluator.evaluate site expression = .ok value → value.Sound (P site)
  | .literal literal, site, value, h => by
    cases h
    intro node hc
    cases literal <;> cases hc
  | .symbol name, site, value, h => henv site name value h
  | .list items, site, value, h => by
    obtain ⟨values, hv, h⟩ := ok_of_bind h
    cases h
    rintro node (_ | _ | ⟨hm, hc⟩)
    obtain ⟨i, hnode⟩ := evaluateAll_sound kept henv items hv _ hm node hc
    exact kept.lift hnode
  | .invocation tag args, site, value, h => by
    obtain ⟨combinator, -, h⟩ := ok_of_bind h
    obtain ⟨values, hv, h⟩ := ok_of_bind h
    exact Combinator.apply_sound kept h (evaluateAll_sound kept henv args hv)

theorem evaluateAll_sound (kept : Combinator.Kept evaluator.setting P)
    (henv : ∀ site name value, evaluator.env.lookup name = .ok value → value.Sound (P site)) :
    ∀ (expressions : List Expression) {site : Site} {index : Nat} {values : List Value},
      evaluator.evaluateAll site index expressions = .ok values →
      ∀ value ∈ values, value.Sound fun node => ∃ i, P (site ++ [i]) node
  | [], _, _, values, h => by
    cases h
    exact nofun
  | expression :: rest, site, index, values, h => by
    obtain ⟨value, hv, h⟩ := ok_of_bind h
    obtain ⟨more, hm, h⟩ := ok_of_bind h
    cases h
    have hvalue := evaluate_sound kept henv expression hv
    exact List.forall_mem_cons.mpr ⟨hvalue.mono fun _ hnode => ⟨index, hnode⟩,
      evaluateAll_sound kept henv rest hm⟩

end

end Evaluator

end Dialplan
