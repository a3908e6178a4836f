import Dialplan.Proofs.Build.Checks

/-! The errors of evaluation. A combinator fails only by refusing its arguments; besides that, an
evaluation fails only on an unknown tag or on a name that is not bound
(`FailsFirst.ofEvaluation`). -/

namespace Dialplan

open Build

/-- The computation fails with complaints about arguments only. -/
def Refuses {α : Type} (x : Except Error α) : Prop :=
  ∀ error, x = .error error → ∃ message, error = .invalidArgument message

namespace Refuses

variable {α β : Type}

theorem ok (a : α) : Refuses (.ok a) := nofun

theorem error (message : String) :
    Refuses (.error (.invalidArgument message) : Except Error α) := by
  rintro _ ⟨⟩
  exact ⟨message, rfl⟩

theorem bind {x : Except Error α} {f : α → Except Error β} (hx : Refuses x)
    (hf : ∀ a, Refuses (f a)) : Refuses (x >>= f) := by
  intro e h
  rcases error_of_bind h with h | ⟨a, -, h⟩
  · exact hx e h
  · exact hf a e h

theorem mapM {f : α → Except Error β} (hf : ∀ a, Refuses (f a)) (xs : List α) :
    Refuses (xs.mapM f) := by
  induction xs with
  | nil => exact ok []
  | cons x xs ih =>
    rw [List.mapM_cons]
    exact (hf x).bind fun y => ih.bind fun ys => ok (y :: ys)

theorem toStrategy (value : Value) (context : String) :
    Refuses (value.toStrategy context) := by
  cases value with
  | strategy node => exact ok node
  | _ => exact error _

theorem toCondition (value : Value) (context : String) :
    Refuses (value.toCondition context) := by
  cases value with
  | condition test => exact ok test
  | bool b => exact ok (Condition.constant b)
  | _ => exact error _

theorem toDuration (value : Value) (context : String) :
    Refuses (value.toDuration context) := by
  unfold Value.toDuration
  split
  · exact ok _
  · split
    · exact error _
    · split
      · exact ok _
      · exact error _
  · exact error _
  · exact error _

theorem ofArg (tag : String) (arg : Value) : Refuses (Combinator.ofArg tag arg) := by
  unfold Combinator.ofArg
  split
  · exact mapM (fun item => toStrategy item tag) _
  · exact (toStrategy arg tag).bind fun node => ok [node]

theorem strategies (tag : String) (args : List Value) :
    Refuses (Combinator.strategies tag args) := by
  refine (mapM (ofArg tag) args).bind fun groups => ?_
  split
  · exact error _
  · exact ok _

theorem sequentialOptions (fields : Json.Fields) :
    Refuses (Combinator.sequentialOptions fields) := by
  unfold Combinator.sequentialOptions
  split
  · exact ok _
  · exact error _

/-- A combinator fails only when it refuses its arguments. -/
theorem apply (combinator : Combinator) (setting : Build.Setting) (site : Site)
    (args : List Value) : Refuses (combinator.apply setting site args) := by
  cases combinator with
  | delayed =>
    unfold Combinator.apply
    dsimp only
    split
    · exact (toDuration _ _).bind fun _ => (toStrategy _ _).bind fun _ => ok _
    · exact error _
  | sequential =>
    unfold Combinator.apply
    dsimp only
    split
    · exact (sequentialOptions _).bind fun _ => (strategies _ _).bind fun _ => ok _
    · exact (strategies _ _).bind fun _ => ok _
  | cached =>
    unfold Combinator.apply
    dsimp only
    split
    · exact (toDuration _ _).bind fun _ => (toStrategy _ _).bind fun _ => ok _
    · exact error _
  | firstConnected => exact (strategies _ _).bind fun _ => ok _
  | bestConnectedEver => exact (strategies _ _).bind fun _ => ok _
  | branch =>
    unfold Combinator.apply
    dsimp only
    split
    · exact (toCondition _ _).bind fun _ => (toStrategy _ _).bind fun _ =>
        (toStrategy _ _).bind fun _ => ok _
    · exact error _
  | isSupported =>
    unfold Combinator.apply
    dsimp only
    split
    · exact (toStrategy _ _).bind fun _ => ok _
    · exact error _

end Refuses

/-- The errors that evaluation can end with. -/
inductive Error.OfEvaluation : Error → Prop where
  | unresolvedSymbol (name) : OfEvaluation (.unresolvedSymbol name)
  | invalidOperator (tag) : OfEvaluation (.invalidOperator tag)
  | invalidArgument (message) : OfEvaluation (.invalidArgument message)

theorem Error.OfEvaluation.isBuild {error : Error} (h : error.OfEvaluation) :
    error.isBuild = true := by
  cases h <;> rfl

theorem Check.Fails.ofEvaluation {evaluator : Evaluator} {check : Check} {error : Error}
    (h : check.Fails evaluator error) : error.OfEvaluation := by
  cases h with
  | tag _ => exact .invalidOperator _
  | symbol _ => exact .unresolvedSymbol _
  | application _ _ ha =>
    obtain ⟨message, rfl⟩ := Refuses.apply _ _ _ _ _ ha
    exact .invalidArgument message

theorem FailsFirst.ofEvaluation {evaluator : Evaluator} {checks : List Check} {error : Error}
    (h : FailsFirst evaluator checks error) : error.OfEvaluation := by
  obtain ⟨check, -, hf⟩ := h.exists_fails
  exact hf.ofEvaluation

end Dialplan
