import Dialplan.Proofs.Build.Evaluation

/-! What can fail in an evaluation, and in which order. The evaluation of an expression makes a
list of checks, which is read off the expression alone; it fails if and only if one of them fails,
and its error is that of the first one (`Evaluator.evaluate_error_iff`). -/

namespace Dialplan

/-- What an evaluation checks: that there is a combinator of a tag, that a name is bound, and that
a combinator accepts its arguments. -/
inductive Check where
  | tag (tag : String)
  | symbol (name : String)
  | application (site : Site) (tag : String) (args : List Expression)

mutual

/-- The checks that the evaluation of an expression makes, in order. Those of an invocation are
the one of its tag, then those of its arguments from left to right, then the one of its
application. -/
def Expression.checks (site : Site) : Expression → List Check
  | .literal _ => []
  | .symbol name => [.symbol name]
  | .list items => Expression.checksAll site 0 items
  | .invocation tag args =>
    .tag tag :: (Expression.checksAll site 0 args ++ [.application site tag args])

/-- The checks of expressions below a site, numbered from `index`. -/
def Expression.checksAll (site : Site) (index : Nat) : List Expression → List Check
  | [] => []
  | expression :: rest =>
    expression.checks (site ++ [index]) ++ Expression.checksAll site (index + 1) rest

end

section

variable (evaluator : Evaluator)

/-- How a check fails. -/
inductive Check.Fails : Check → Error → Prop where
  | tag {tag} : Combinator.ofTag? tag = none → Fails (.tag tag) (.invalidOperator tag)
  | symbol {name} : evaluator.env.contains name = false →
      Fails (.symbol name) (.unresolvedSymbol name)
  | application {site tag args combinator values error} :
      Combinator.ofTag? tag = some combinator →
      evaluator.evaluateAll site 0 args = .ok values →
      combinator.apply evaluator.setting site values = .error error →
      Fails (.application site tag args) error

/-- Some check fails, those before it do not, and the error is that of this check. -/
inductive FailsFirst : List Check → Error → Prop where
  | here {check rest error} : check.Fails evaluator error → FailsFirst (check :: rest) error
  | later {check rest error} : (∀ e, ¬ check.Fails evaluator e) → FailsFirst rest error →
      FailsFirst (check :: rest) error

/-- The result of a computation that makes these checks. -/
inductive Verdict {α : Type} (checks : List Check) : Except Error α → Prop where
  | ok {a} : (∀ check ∈ checks, ∀ e, ¬ check.Fails evaluator e) → Verdict checks (.ok a)
  | error {e} : FailsFirst evaluator checks e → Verdict checks (.error e)

end

variable {evaluator : Evaluator}

theorem Check.Fails.unique {check : Check} {e e' : Error} (h : check.Fails evaluator e)
    (h' : check.Fails evaluator e') : e = e' := by
  cases h with
  | tag _ =>
    cases h'
    rfl
  | symbol _ =>
    cases h'
    rfl
  | application hc hv ha =>
    cases h' with
    | application hc' hv' ha' =>
      cases hc.symm.trans hc'
      cases hv.symm.trans hv'
      exact Except.error.inj (ha.symm.trans ha')

namespace FailsFirst

variable {checks more : List Check} {e e' : Error}

theorem unique (h : FailsFirst evaluator checks e) (h' : FailsFirst evaluator checks e') :
    e = e' := by
  induction h with
  | here hf =>
    cases h' with
    | here hf' => exact hf.unique hf'
    | later hp _ => exact absurd hf (hp _)
  | later hp _ ih =>
    cases h' with
    | here hf' => exact absurd hf' (hp _)
    | later _ h' => exact ih h'

theorem exists_fails (h : FailsFirst evaluator checks e) :
    ∃ check ∈ checks, check.Fails evaluator e := by
  induction h with
  | here hf => exact ⟨_, List.mem_cons_self, hf⟩
  | later _ _ ih =>
    obtain ⟨check, hm, hf⟩ := ih
    exact ⟨check, List.mem_cons_of_mem _ hm, hf⟩

theorem append (h : FailsFirst evaluator checks e) (more : List Check) :
    FailsFirst evaluator (checks ++ more) e := by
  induction h with
  | here hf => exact .here hf
  | later hp _ ih => exact .later hp ih

theorem after (h : ∀ check ∈ checks, ∀ e, ¬ check.Fails evaluator e)
    (hmore : FailsFirst evaluator more e) : FailsFirst evaluator (checks ++ more) e := by
  induction checks with
  | nil => exact hmore
  | cons check rest ih =>
    obtain ⟨hp, hrest⟩ := List.forall_mem_cons.mp h
    exact .later hp (ih hrest)

end FailsFirst

namespace Verdict

variable {α β : Type} {checks more : List Check} {x : Except Error α}

theorem bind {f : α → Except Error β} (hx : Verdict evaluator checks x)
    (hf : ∀ a, x = .ok a → Verdict evaluator more (f a)) :
    Verdict evaluator (checks ++ more) (x >>= f) := by
  cases hx with
  | error h => exact .error (h.append more)
  | @ok a hpass =>
    have hfa : Verdict evaluator more (f a) := hf a rfl
    change Verdict evaluator (checks ++ more) (f a)
    generalize f a = result at hfa
    cases hfa with
    | error h => exact .error (.after hpass h)
    | ok hmore => exact .ok (List.forall_mem_append.mpr ⟨hpass, hmore⟩)

theorem map {f : α → β} (hx : Verdict evaluator checks x) :
    Verdict evaluator checks (x >>= fun a => .ok (f a)) := by
  have h : Verdict evaluator (checks ++ []) (x >>= fun a => .ok (f a)) :=
    hx.bind fun _ _ => .ok nofun
  rwa [List.append_nil] at h

theorem error_iff (h : Verdict evaluator checks x) {e : Error} :
    x = .error e ↔ FailsFirst evaluator checks e := by
  cases h with
  | ok hpass =>
    refine ⟨nofun, fun hf => ?_⟩
    obtain ⟨check, hm, hf⟩ := hf.exists_fails
    exact absurd hf (hpass check hm e)
  | error hfirst =>
    refine ⟨?_, fun hf => congrArg Except.error (hfirst.unique hf)⟩
    rintro ⟨⟩
    exact hfirst

end Verdict

/-! ### The checks of an evaluation -/

theorem resolve_verdict (tag : String) :
    Verdict evaluator [.tag tag] (Combinator.resolve tag) := by
  unfold Combinator.resolve
  cases h : Combinator.ofTag? tag with
  | none => exact .error (.here (.tag h))
  | some combinator =>
    refine .ok (List.forall_mem_singleton.mpr ?_)
    rintro e ⟨hnone⟩
    cases h.symm.trans hnone

theorem lookup_verdict (name : String) :
    Verdict evaluator [.symbol name] (evaluator.env.lookup name) := by
  unfold Environment.lookup
  cases h : Table.find evaluator.env.bindings name with
  | none => exact .error (.here (.symbol (by simp [Environment.contains, h])))
  | some value =>
    refine .ok (List.forall_mem_singleton.mpr ?_)
    rintro e ⟨⟩
    rename_i hunbound
    simp [Environment.contains, h] at hunbound

theorem apply_verdict {site : Site} {tag : String} {args : List Expression}
    {combinator : Combinator} {values : List Build.Value}
    (hc : Combinator.resolve tag = .ok combinator)
    (hv : evaluator.evaluateAll site 0 args = .ok values) :
    Verdict evaluator [.application site tag args]
      (combinator.apply evaluator.setting site values) := by
  have htag : Combinator.ofTag? tag = some combinator := by
    unfold Combinator.resolve at hc
    split at hc
    · rename_i found hfound
      rw [hfound, Except.ok.inj hc]
    · cases hc
  cases h : combinator.apply evaluator.setting site values with
  | error e => exact .error (.here (.application htag hv h))
  | ok value =>
    refine .ok (List.forall_mem_singleton.mpr ?_)
    rintro e (_ | _ | ⟨htag', hv', ha⟩)
    cases htag.symm.trans htag'
    cases hv.symm.trans hv'
    cases h.symm.trans ha

namespace Evaluator

mutual

theorem evaluate_verdict : ∀ (expression : Expression) (site : Site),
    Verdict evaluator (expression.checks site) (evaluator.evaluate site expression)
  | .literal _, _ => .ok nofun
  | .symbol name, _ => lookup_verdict name
  | .list items, site => (evaluateAll_verdict items site 0).map
  | .invocation _ args, site =>
    (resolve_verdict _).bind fun _ hc => (evaluateAll_verdict args site 0).bind fun _ hv =>
      apply_verdict hc hv

theorem evaluateAll_verdict : ∀ (expressions : List Expression) (site : Site) (index : Nat),
    Verdict evaluator (Expression.checksAll site index expressions)
      (evaluator.evaluateAll site index expressions)
  | [], _, _ => .ok nofun
  | expression :: rest, site, index =>
    (evaluate_verdict expression (site ++ [index])).bind fun _ _ =>
      (evaluateAll_verdict rest site (index + 1)).map

end

/-- An evaluation fails with the error of the first check that fails. -/
theorem evaluate_error_iff {expression : Expression} {site : Site} {error : Error} :
    evaluator.evaluate site expression = .error error ↔
      FailsFirst evaluator (expression.checks site) error :=
  (evaluate_verdict expression site).error_iff

end Evaluator

end Dialplan
