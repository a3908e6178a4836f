import Dialplan.Proofs.Build.Bindings
import Dialplan.Proofs.Build.Refusal

/-! Why a build fails. The first transport type that is not registered comes before everything
else; then the first instruction that cannot be evaluated, with the error of the first check that
fails in it; then what is bound to the result's name, if anything (`Builder.build_errorOrder`). -/

namespace Dialplan

open Build

/-- How the evaluation of an instruction fails. The options of a transport definition must
evaluate to a map or to nothing. -/
inductive Instruction.Fails (evaluator : Evaluator) (site : Site) : Instruction → Error → Prop where
  | define {name body error} : FailsFirst evaluator (body.checks site) error →
      Fails evaluator site (.define name body) error
  | options {name type priority body error} : FailsFirst evaluator (body.checks site) error →
      Fails evaluator site (.defTransport name type priority (some body)) error
  | misfit {name type priority body value} : evaluator.evaluate site body = .ok value →
      value ≠ .null → (∀ fields, value ≠ .map fields) →
      Fails evaluator site (.defTransport name type priority (some body))
        (value.mismatch "def_transport options" "map")

theorem Instruction.Fails.ofEvaluation {evaluator : Evaluator} {site : Site}
    {instruction : Instruction} {error : Error} (h : instruction.Fails evaluator site error) :
    error.OfEvaluation := by
  cases h with
  | define h => exact h.ofEvaluation
  | options h => exact h.ofEvaluation
  | misfit _ _ _ => exact .invalidArgument _

namespace Builder

theorem transportOptions_error_iff {evaluator : Evaluator} {site : Site} {name type : String}
    {priority : Int64} {body : Option Expression} {error : Error} :
    transportOptions evaluator site body = .error error ↔
      (Instruction.defTransport name type priority body).Fails evaluator site error := by
  constructor
  · intro h
    cases body with
    | none => cases h
    | some body =>
      rcases error_of_bind h with h | ⟨value, hv, h⟩
      · exact .options (Evaluator.evaluate_error_iff.mp h)
      · cases value with
        | null => cases h
        | map fields => cases h
        | _ =>
          cases h
          exact .misfit hv nofun nofun
  · rintro (_ | h | ⟨hv, hnull, hmap⟩)
    · simp only [transportOptions, Evaluator.evaluate_error_iff.mpr h]
      rfl
    · rename_i value
      simp only [transportOptions, hv]
      cases value with
      | null => exact absurd rfl hnull
      | map fields => exact absurd rfl (hmap fields)
      | _ => rfl

variable {builder : Builder} {options : BuildOptions} {site : Site}

theorem step_error_iff {env : Environment} {instruction : Instruction} {error : Error}
    (hregistered : ∀ type, instruction.type? = some type →
      (builder.registry.resolve type).isSome = true) :
    builder.step options site env instruction = .error error ↔
      instruction.Fails ⟨env, options, builder.cache⟩ site error := by
  cases instruction with
  | define name body =>
    refine (map_error_iff.trans Evaluator.evaluate_error_iff).trans ⟨.define, ?_⟩
    rintro ⟨h⟩
    exact h
  | defTransport name type priority body =>
    obtain ⟨mechanism, hm⟩ := Option.isSome_iff_exists.mp (hregistered type rfl)
    have hresolve : builder.resolve type = .ok mechanism := by rw [resolve, hm]
    simp only [step, hresolve]
    exact map_error_iff.trans transportOptions_error_iff

theorem steps_error_iff {program : Program} {index : Nat} {env : Environment} {error : Error} :
    builder.steps options site index program env = .error error ↔
      ∃ before instruction after env', program = before ++ instruction :: after ∧
        builder.steps options site index before env = .ok env' ∧
        builder.step options (site ++ [index + before.length]) env' instruction = .error error := by
  constructor
  · intro h
    induction program generalizing index env with
    | nil => cases h
    | cons first rest ih =>
      rcases error_of_bind h with h | ⟨env₁, hstep, h⟩
      · exact ⟨[], first, rest, env, rfl, rfl, h⟩
      · obtain ⟨before, instruction, after, env', rfl, hsteps, herror⟩ := ih h
        refine ⟨first :: before, instruction, after, env', rfl, ?_, ?_⟩
        · rw [steps, hstep]
          exact hsteps
        · rwa [List.length_cons, Nat.add_comm before.length, ← Nat.add_assoc]
  · rintro ⟨before, instruction, after, env', rfl, hsteps, herror⟩
    rw [steps_append, hsteps]
    show builder.steps options site _ (instruction :: after) env' = .error error
    rw [steps, herror]
    rfl

end Builder

section

variable (builder : Builder) (options : BuildOptions) (site : Site)

/-- The evaluation of a plan comes to an instruction that fails. -/
def FirstFailure (program : Program) (error : Error) : Prop :=
  ∃ before instruction after env, program = before ++ instruction :: after ∧
    builder.steps options site 0 before .empty = .ok env ∧
    instruction.Fails ⟨env, options, builder.cache⟩ (site ++ [before.length]) error

variable {builder options site}

/-! ### Builds -/

namespace Builder

theorem build_of_unregistered {program : Program} {type : String}
    (h : builder.unregistered? program = some type) :
    builder.build options site program = .error (.unsupportedTransport type) := by
  unfold build
  rw [checkTypes_eq, h]
  rfl

/-- The result of a build, from what the result's name is bound to in the end. -/
def ofBinding : Option Value → Except Error Strategy
  | none => .error .missingStrategy
  | some value => value.toStrategy resultName

theorem build_eq_steps {program : Program} (h : builder.unregistered? program = none) :
    builder.build options site program =
      (builder.steps options site 0 program .empty >>= fun env =>
        ofBinding (Table.find env.bindings resultName)) := by
  unfold build
  rw [checkTypes_eq, h]
  rfl

theorem isSome_resolve_of_registered {program : Program}
    (h : builder.unregistered? program = none) {instruction : Instruction}
    (hm : instruction ∈ program) {type : String} (ht : instruction.type? = some type) :
    (builder.registry.resolve type).isSome = true := by
  have hnone := List.find?_eq_none.mp h type (List.mem_filterMap.mpr ⟨instruction, hm, ht⟩)
  simpa [Option.isSome_iff_ne_none] using hnone

/-- Once all types are registered, running the instructions fails only in one of them. -/
theorem steps_fails_iff {program : Program} (h : builder.unregistered? program = none)
    {error : Error} :
    builder.steps options site 0 program .empty = .error error ↔
      FirstFailure builder options site program error := by
  rw [steps_error_iff]
  refine exists₄_congr fun before instruction after env => ?_
  refine and_congr_right fun hprogram => and_congr_right fun _ => ?_
  have hmem : instruction ∈ program := by simp [hprogram]
  rw [Nat.zero_add]
  exact step_error_iff fun _ => isSome_resolve_of_registered h hmem

section

variable {program : Program} {env : Environment}

theorem build_of_unbound (h : builder.unregistered? program = none)
    (hsteps : builder.steps options site 0 program .empty = .ok env)
    (hunbound : ∀ instruction ∈ program, instruction.name ≠ resultName) :
    builder.build options site program = .error .missingStrategy := by
  have hnone : Table.find env.bindings resultName = none := steps_find_of_unbound hsteps hunbound
  rw [build_eq_steps h, hsteps]
  exact congrArg ofBinding hnone

theorem build_of_lastBinding (h : builder.unregistered? program = none)
    (hsteps : builder.steps options site 0 program .empty = .ok env) {value : Value}
    (hlast : LastBinding builder options site program resultName value) :
    builder.build options site program = value.toStrategy resultName := by
  rw [build_eq_steps h, hsteps]
  exact congrArg ofBinding (find_of_lastBinding hsteps hlast)

end

/-- With all types registered, a build fails in the evaluation, or because there is no result. -/
theorem ofEvaluation_or_missing {program : Program} {error : Error}
    (h : builder.unregistered? program = none)
    (herror : builder.build options site program = .error error) :
    error.OfEvaluation ∨ error = .missingStrategy := by
  rw [build_eq_steps h] at herror
  rcases error_of_bind herror with hsteps | ⟨env, -, hresult⟩
  · obtain ⟨_, _, _, _, -, -, hfails⟩ := (steps_fails_iff h).mp hsteps
    exact .inl hfails.ofEvaluation
  · cases hfind : Table.find env.bindings resultName with
    | none =>
      rw [hfind] at hresult
      exact .inr (Except.error.inj hresult).symm
    | some value =>
      rw [hfind] at hresult
      obtain ⟨message, rfl⟩ := Refuses.toStrategy _ _ _ hresult
      exact .inl (.invalidArgument message)

theorem exists_steps_of_not_failure {program : Program}
    (h : builder.unregistered? program = none)
    (hfine : ∀ error, ¬ FirstFailure builder options site program error) :
    ∃ env, builder.steps options site 0 program .empty = .ok env := by
  cases hsteps : builder.steps options site 0 program .empty with
  | error e => exact absurd ((steps_fails_iff h).mp hsteps) (hfine e)
  | ok env => exact ⟨env, rfl⟩

end Builder

theorem Build.Value.toStrategy_error_iff {value : Value} {context message : String} :
    value.toStrategy context = .error (.invalidArgument message) ↔
      value.strategy? = none ∧
        message = context ++ " expects a strategy, got " ++ value.typeName := by
  have htext : context ++ " expects a " ++ "strategy" ++ ", got " =
      context ++ " expects a strategy, got " := by
    rw [String.append_assoc, String.append_assoc]
    rfl
  cases value with
  | strategy node => simp [Value.toStrategy, Value.strategy?]
  | _ => simp [Value.toStrategy, Value.strategy?, Value.mismatch, htext, eq_comm]

variable (builder options site)

/-- Which error a build ends with, if any. -/
structure ErrorOrder (program : Program) : Prop where
  /-- The first type that is not registered comes before everything else. -/
  unregistered : ∀ {type}, builder.unregistered? program = some type →
    builder.build options site program = .error (.unsupportedTransport type)
  registered : builder.unregistered? program = none →
    ∀ type, builder.build options site program ≠ .error (.unsupportedTransport type)
  /-- Then comes the first instruction that fails. -/
  failing : builder.unregistered? program = none →
    ∀ {error}, FirstFailure builder options site program error →
      builder.build options site program = .error error
  /-- If none does, the result's name must be bound, ... -/
  missing : builder.unregistered? program = none →
    (∀ error, ¬ FirstFailure builder options site program error) →
      (builder.build options site program = .error .missingStrategy ↔
        ∀ instruction ∈ program, instruction.name ≠ Builder.resultName)
  /-- ... and its last binding must be a strategy. -/
  misfit : builder.unregistered? program = none →
    (∀ error, ¬ FirstFailure builder options site program error) →
      ∀ message, builder.build options site program = .error (.invalidArgument message) ↔
        ∃ value, LastBinding builder options site program Builder.resultName value ∧
          value.strategy? = none ∧
          message = Builder.resultName ++ " expects a strategy, got " ++ value.typeName
  isBuild : ∀ {error}, builder.build options site program = .error error → error.isBuild = true

/-- Builds report the errors of a plan in a fixed order, and only errors of building. -/
theorem Builder.build_errorOrder (program : Program) :
    ErrorOrder builder options site program where
  unregistered := build_of_unregistered
  registered h type heq := by
    rcases ofEvaluation_or_missing h heq with hevaluation | hmissing
    · cases hevaluation
    · cases hmissing
  failing h error hfails := by
    rw [build_eq_steps h, (steps_fails_iff h).mpr hfails]
    rfl
  missing h hfine := by
    obtain ⟨env, hsteps⟩ := exists_steps_of_not_failure h hfine
    refine ⟨fun herror => ?_, build_of_unbound h hsteps⟩
    rcases unbound_or_lastBinding program resultName hsteps with hunbound | ⟨value, hlast⟩
    · exact hunbound
    · rw [build_of_lastBinding h hsteps hlast] at herror
      obtain ⟨_, hrefused⟩ := Refuses.toStrategy _ _ _ herror
      cases hrefused
  misfit h hfine message := by
    obtain ⟨env, hsteps⟩ := exists_steps_of_not_failure h hfine
    constructor
    · intro herror
      rcases unbound_or_lastBinding program resultName hsteps with hunbound | ⟨value, hlast⟩
      · rw [build_of_unbound h hsteps hunbound] at herror
        cases herror
      · rw [build_of_lastBinding h hsteps hlast] at herror
        exact ⟨value, hlast, Value.toStrategy_error_iff.mp herror⟩
    · rintro ⟨value, hlast, hmisfit⟩
      rw [build_of_lastBinding h hsteps hlast]
      exact Value.toStrategy_error_iff.mpr hmisfit
  isBuild {error} herror := by
    cases h : builder.unregistered? program with
    | some type =>
      rw [build_of_unregistered h] at herror
      rw [← Except.error.inj herror]
      rfl
    | none =>
      rcases ofEvaluation_or_missing h herror with hevaluation | rfl
      · exact hevaluation.isBuild
      · rfl

end

end Dialplan
