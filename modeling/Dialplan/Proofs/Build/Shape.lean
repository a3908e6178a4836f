import Mathlib.Control.Monad.Basic
import Dialplan.Build.Application
import Dialplan.Proofs.Strategy.Shape

/-! Shapes of values. Conversions and combinators do not look at sites: the shape of what a
combinator makes is what it makes of the shapes of its arguments (`Combinator.apply_shape`). -/

namespace Dialplan

namespace Build.Value

mutual

/-- The value with no sites in the trees that it carries. -/
def shape : Value → Value
  | list items => list (shapeAll items)
  | strategy node => strategy node.shape
  | condition test => condition (test.map Strategy.shape)
  | value => value

def shapeAll : List Value → List Value
  | [] => []
  | value :: rest => shape value :: shapeAll rest

end

theorem shapeAll_eq (items : List Value) : shapeAll items = items.map shape := by
  induction items with
  | nil => rfl
  | cons value rest ih => rw [shapeAll, ih, List.map_cons]

@[simp] theorem shape_list (items : List Value) : (list items).shape = list (items.map shape) :=
  congrArg list (shapeAll_eq items)

@[simp] theorem shape_strategy (node : Strategy) :
    (strategy node).shape = strategy node.shape := rfl

theorem toStrategy_shape (value : Value) (context : String) :
    value.shape.toStrategy context = Strategy.shape <$> value.toStrategy context := by
  cases value <;> rfl

theorem toDuration_shape (value : Value) (context : String) :
    value.shape.toDuration context = value.toDuration context := by
  cases value <;> rfl

theorem toCondition_shape (value : Value) (context : String) :
    value.shape.toCondition context =
      Condition.map Strategy.shape <$> value.toCondition context := by
  cases value <;> rfl

end Build.Value

open Build

/-- The setting with no sites. -/
def Build.Setting.shape (setting : Build.Setting) : Build.Setting :=
  { setting with transports := Table.mapValues Strategy.shape setting.transports }

namespace Combinator

theorem mapM_shape {α β γ : Type} {f : α → Except Error β} {g : γ → Except Error β} {s : α → γ}
    {t : β → β} (h : ∀ a, g (s a) = t <$> f a) (xs : List α) :
    (xs.map s).mapM g = List.map t <$> xs.mapM f := by
  induction xs with
  | nil => rfl
  | cons x xs ih =>
    simp only [List.map_cons, List.mapM_cons, ih, h, bind_map_left, map_bind, map_pure]

theorem ofArg_shape (tag : String) (arg : Value) :
    ofArg tag arg.shape = List.map Strategy.shape <$> ofArg tag arg := by
  cases arg with
  | list items =>
    rw [Value.shape_list]
    exact mapM_shape (fun item => item.toStrategy_shape tag) items
  | _ => rfl

theorem strategies_shape (tag : String) (args : List Value) :
    strategies tag (args.map Value.shape) =
      List.map Strategy.shape <$> strategies tag args := by
  simp only [strategies, mapM_shape (ofArg_shape tag), bind_map_left, map_bind,
    ← List.map_flatten]
  congr 1
  funext groups
  cases groups.flatten <;> rfl

/-- A sequence without options. -/
theorem defaultSequence_shape (tag : String) (args : List Value) :
    (do
      let children ← strategies tag (args.map Value.shape)
      Except.ok (Value.strategy (.sequential .default children))) =
    Value.shape <$> (do
      let children ← strategies tag args
      Except.ok (Value.strategy (.sequential .default children))) := by
  simp only [strategies_shape, bind_map_left, map_bind, Except.map_ok, Value.shape_strategy,
    Strategy.shape_sequential]

/-- The shape of what a combinator makes is what it makes of shapes. -/
theorem apply_shape (combinator : Combinator) (setting : Build.Setting) (site : Site)
    (args : List Value) :
    combinator.apply setting.shape [] (args.map Value.shape) =
      Value.shape <$> combinator.apply setting site args := by
  cases combinator with
  | delayed =>
    match args with
    | [delay, child] =>
      simp only [apply, List.map_cons, List.map_nil, Value.toDuration_shape,
        Value.toStrategy_shape, bind_map_left, map_bind, Except.map_ok, Value.shape_strategy,
        Strategy.shape_delayed]
    | [] | [_] | _ :: _ :: _ :: _ => simp [apply]
  | sequential =>
    cases args with
    | nil => exact defaultSequence_shape _ []
    | cons first rest =>
      cases first with
      | map fields =>
        simp only [apply, List.map_cons, Value.shape, strategies_shape, bind_map_left, map_bind,
          Except.map_ok, Strategy.shape_sequential]
      | list items =>
        have hlist := defaultSequence_shape (tag sequential) (.list items :: rest)
        rw [List.map_cons, Value.shape_list] at hlist ⊢
        exact hlist
      | _ => exact defaultSequence_shape _ (_ :: rest)
  | cached =>
    match args with
    | [ttl, child] =>
      simp only [apply, List.map_cons, List.map_nil, Value.toDuration_shape,
        Value.toStrategy_shape, bind_map_left, map_bind, Except.map_ok, Value.shape_strategy,
        Strategy.shape_cached, Setting.shape]
    | [] | [_] | _ :: _ :: _ :: _ => simp [apply]
  | firstConnected =>
    simp only [apply, strategies_shape, bind_map_left, map_bind, Except.map_ok,
      Value.shape_strategy, Strategy.shape_firstConnected]
  | bestConnectedEver =>
    simp only [apply, strategies_shape, bind_map_left, map_bind, Except.map_ok,
      Value.shape_strategy, Strategy.shape_bestConnectedEver]
  | branch =>
    match args with
    | [test, onTrue, onFalse] =>
      simp only [apply, List.map_cons, List.map_nil, Value.toCondition_shape,
        Value.toStrategy_shape, bind_map_left, map_bind, Except.map_ok, Value.shape_strategy,
        Strategy.shape_branch]
    | [] | [_] | [_, _] | _ :: _ :: _ :: _ :: _ => simp [apply]
  | isSupported =>
    match args with
    | [node] =>
      simp only [apply, List.map_cons, List.map_nil, Value.toStrategy_shape, bind_map_left,
        map_bind, Except.map_ok]
      rfl
    | [] | _ :: _ :: _ => simp [apply]

end Combinator

end Dialplan
