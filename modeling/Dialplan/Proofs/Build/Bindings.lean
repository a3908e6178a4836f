import Dialplan.Proofs.Build.Names

/-! Bindings. When a plan has run, a name stands for what the last instruction of this name has
bound to it (`Builder.find_of_lastBinding`), or for nothing if there is none
(`Builder.unbound_or_lastBinding`). -/

namespace Dialplan

open Build

section

variable (builder : Builder) (options : BuildOptions) (site : Site)

/-- The value that an instruction binds to its name. -/
inductive Instruction.Binds (env : Environment) : Instruction → Value → Prop where
  | define {name body value} :
      Evaluator.evaluate ⟨env, options, builder.cache⟩ site body = .ok value →
      Binds env (.define name body) value
  | transport {name type priority body mechanism fields} :
      builder.registry.resolve type = some mechanism →
      EvaluatesTo ⟨env, options, builder.cache⟩ site body fields →
      Binds env (.defTransport name type priority body)
        (.strategy (Builder.defineTransport options name type priority mechanism fields))

/-- The last instruction of a plan that binds the name binds this value to it. -/
def LastBinding (program : Program) (name : String) (value : Value) : Prop :=
  ∃ before instruction after env, program = before ++ instruction :: after ∧
    instruction.name = name ∧ (∀ later ∈ after, later.name ≠ name) ∧
    builder.steps options site 0 before .empty = .ok env ∧
    instruction.Binds builder options (site ++ [before.length]) env value

variable {builder options site}

theorem Instruction.Binds.unique {env : Environment} {instruction : Instruction}
    {value value' : Value} (h : instruction.Binds builder options site env value)
    (h' : instruction.Binds builder options site env value') : value = value' := by
  cases h with
  | define hv =>
    cases h' with
    | define hv' => exact Except.ok.inj (hv.symm.trans hv')
  | transport hm hf =>
    cases h' with
    | transport hm' hf' => rw [Option.some.inj (hm.symm.trans hm'), hf.unique hf']

namespace Builder

/-- What an instruction does to the bindings. -/
theorem step_binds {env env' : Environment} {instruction : Instruction}
    (h : builder.step options site env instruction = .ok env') :
    ∃ value, instruction.Binds builder options site env value ∧
      env'.bindings = Table.put env.bindings instruction.name value := by
  cases instruction with
  | define name body =>
    obtain ⟨value, hv, h⟩ := ok_of_bind h
    cases h
    exact ⟨value, .define hv, rfl⟩
  | defTransport name type priority body =>
    obtain ⟨mechanism, hm, h⟩ := ok_of_bind h
    obtain ⟨fields, hf, h⟩ := ok_of_bind h
    cases h
    exact ⟨_, .transport (resolve_eq_ok.mp hm) (evaluatesTo_of_transportOptions hf), rfl⟩

/-- Instructions that bind other names leave a name alone. -/
theorem steps_find_of_unbound {program : Program} {index : Nat} {env env' : Environment}
    {name : String} (h : builder.steps options site index program env = .ok env')
    (hunbound : ∀ instruction ∈ program, instruction.name ≠ name) :
    Table.find env'.bindings name = Table.find env.bindings name := by
  induction program generalizing index env with
  | nil =>
    cases h
    rfl
  | cons instruction rest ih =>
    obtain ⟨between, hstep, h⟩ := ok_of_bind h
    obtain ⟨hne, hrest⟩ := List.forall_mem_cons.mp hunbound
    obtain ⟨value, -, hput⟩ := step_binds hstep
    rw [ih h hrest, hput, Table.find_put_of_ne _ _ (Ne.symm hne)]

/-- The last binding of a name is what the name stands for in the end. -/
theorem find_of_lastBinding {program : Program} {env : Environment} {name : String}
    {value : Value} (h : builder.steps options site 0 program .empty = .ok env)
    (hlast : LastBinding builder options site program name value) :
    Table.find env.bindings name = some value := by
  obtain ⟨before, instruction, after, env₁, rfl, hname, hafter, hbefore, hbinds⟩ := hlast
  rw [steps_append, hbefore, Nat.zero_add] at h
  obtain ⟨env₂, hstep, h⟩ := ok_of_bind (x := builder.step options _ env₁ instruction) h
  obtain ⟨value', hbinds', hput⟩ := step_binds hstep
  rw [steps_find_of_unbound h hafter, hput, hname, Table.find_put_self, hbinds.unique hbinds']

theorem unbound_or_lastBinding (program : Program) (name : String) : ∀ {env : Environment},
    builder.steps options site 0 program .empty = .ok env →
    (∀ instruction ∈ program, instruction.name ≠ name) ∨
      ∃ value, LastBinding builder options site program name value := by
  induction program using List.reverseRecOn with
  | nil => exact fun _ => .inl nofun
  | append_singleton program last ih =>
    intro env h
    rw [steps_append, Nat.zero_add] at h
    obtain ⟨between, hreached, h⟩ := ok_of_bind h
    obtain ⟨env', hstep, -⟩ := ok_of_bind h
    by_cases hname : last.name = name
    · obtain ⟨value, hbinds, -⟩ := step_binds hstep
      exact .inr ⟨value, program, last, [], between, rfl, hname, nofun, hreached, hbinds⟩
    · have hlast : ∀ later ∈ [last], later.name ≠ name := List.forall_mem_singleton.mpr hname
      refine (ih hreached).imp (fun hunbound => ?_) ?_
      · exact List.forall_mem_append.mpr ⟨hunbound, hlast⟩
      · rintro ⟨value, before, instruction, after, env₁, rfl, hbound, hafter, hrest⟩
        exact ⟨value, before, instruction, after ++ [last], env₁, by simp, hbound,
          List.forall_mem_append.mpr ⟨hafter, hlast⟩, hrest⟩

end Builder

end

end Dialplan
