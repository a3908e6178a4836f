import Dialplan.Proofs.Build.Failure
import Dialplan.Proofs.Program.Instructions

/-! Combinators that gather any number of strategies. Their arguments are strategies and lists of
strategies, and how strategies are grouped into lists does not matter: the children of the node are
the strategies in order, and an error is that of the first item that is none
(`Combinator.Gatherer.apply_gathers`). -/

namespace Dialplan

open Build

namespace Build.Value

theorem toStrategy_eq_ok_iff {value : Value} {context : String} {node : Strategy} :
    value.toStrategy context = .ok node ↔ value = .strategy node := by
  cases value <;> simp [toStrategy]

/-- Values that are all strategies. -/
theorem mapM_toStrategy_eq_ok_iff (context : String) {values : List Value}
    {nodes : List Strategy} :
    values.mapM (·.toStrategy context) = .ok nodes ↔ values = nodes.map .strategy := by
  rw [mapM_eq_ok_iff, ← List.forall₂_eq_eq_eq, List.forall₂_map_right_iff]
  simp only [toStrategy_eq_ok_iff]

/-- What an argument adds to the strategies: the items of a list, one level deep. -/
def items : Value → List Value
  | list items => items
  | value => [value]

end Build.Value

namespace Combinator

/-- The arguments, with each list replaced by its items. -/
def ungrouped (args : List Value) : List Value := args.flatMap Value.items

theorem ofArg_eq (tag : String) (arg : Value) :
    ofArg tag arg = arg.items.mapM (·.toStrategy tag) := by
  cases arg <;> rfl

/-- Lists of strategies are gone through like the strategies themselves. -/
theorem mapM_ofArg (tag : String) (args : List Value) :
    (args.mapM (ofArg tag) >>= fun groups => Except.ok groups.flatten) =
      (ungrouped args).mapM (·.toStrategy tag) := by
  induction args with
  | nil => rfl
  | cons arg args ih =>
    rw [ungrouped, List.flatMap_cons, List.mapM_append, ← ungrouped, ← ih, ← ofArg_eq,
      List.mapM_cons]
    cases ofArg tag arg with
    | error e => rfl
    | ok nodes => cases args.mapM (ofArg tag) <;> rfl

/-- At least one strategy is needed. -/
def atLeastOne (tag : String) : List Strategy → Except Error (List Strategy)
  | [] => .error (.invalidArgument (tag ++ " expects at least one strategy"))
  | nodes => .ok nodes

theorem strategies_eq (tag : String) (args : List Value) :
    strategies tag args = (ungrouped args).mapM (·.toStrategy tag) >>= atLeastOne tag := by
  rw [← mapM_ofArg, strategies]
  cases args.mapM (ofArg tag) with
  | error e => rfl
  | ok groups => cases h : groups.flatten <;> simp [bind, Except.bind, h, atLeastOne]

theorem atLeastOne_eq_ok_iff (tag : String) {found nodes : List Strategy} :
    atLeastOne tag found = .ok nodes ↔ found = nodes ∧ nodes ≠ [] := by
  cases found with
  | nil => simp [atLeastOne]
  | cons node rest =>
    rw [atLeastOne, Except.ok.injEq, and_iff_left_of_imp]
    · rintro rfl
      exact List.cons_ne_nil node rest
    · exact nofun

theorem strategies_eq_ok_iff {tag : String} {args : List Value} {nodes : List Strategy} :
    strategies tag args = .ok nodes ↔ ungrouped args = nodes.map .strategy ∧ nodes ≠ [] := by
  rw [strategies_eq, ← Value.mapM_toStrategy_eq_ok_iff tag]
  cases (ungrouped args).mapM (·.toStrategy tag) with
  | error e => simp [bind, Except.bind]
  | ok found =>
    rw [Except.ok.injEq, ← atLeastOne_eq_ok_iff tag]
    rfl

/-- Why strategies are refused: the first item that is no strategy is named by its type; or there
is no item. -/
inductive Misfit (tag : String) (args : List Value) : Error → Prop where
  | item {before : List Strategy} {value : Value} {after : List Value} :
    ungrouped args = before.map .strategy ++ value :: after → value.strategy? = none →
    Misfit tag args (.invalidArgument (tag ++ " expects a strategy, got " ++ value.typeName))
  | missing : ungrouped args = [] →
    Misfit tag args (.invalidArgument (tag ++ " expects at least one strategy"))

theorem strategies_eq_error_iff {tag : String} {args : List Value} {error : Error} :
    strategies tag args = .error error ↔ Misfit tag args error := by
  rw [strategies_eq]
  constructor
  · intro h
    rcases error_of_bind h with h | ⟨found, hfound, h⟩
    · obtain ⟨before, value, after, nodes, hitems, hbefore, hvalue⟩ := mapM_eq_error_iff.mp h
      rw [← mapM_eq_ok_iff, Value.mapM_toStrategy_eq_ok_iff tag] at hbefore
      obtain ⟨message, rfl⟩ := Refuses.toStrategy _ _ _ hvalue
      obtain ⟨hnone, rfl⟩ := Value.toStrategy_error_iff.mp hvalue
      exact .item (hbefore ▸ hitems) hnone
    · rw [Value.mapM_toStrategy_eq_ok_iff tag] at hfound
      cases found with
      | nil =>
        cases h
        exact .missing hfound
      | cons node rest => cases h
  · rintro (⟨hitems, hnone⟩ | hitems)
    · have hfirst := mapM_eq_error_iff.mpr ⟨_, _, _, _, hitems,
        mapM_eq_ok_iff.mp ((Value.mapM_toStrategy_eq_ok_iff tag).mpr rfl),
        Value.toStrategy_error_iff.mpr ⟨hnone, rfl⟩⟩
      rw [hfirst]
      rfl
    · rw [hitems]
      rfl

/-! ### Regrouping -/

/-- Other arguments with the same strategies: consecutive ones are put into a list. A list of none
is put in anywhere. -/
inductive Regrouped : List Value → List Value → Prop where
  | nil : Regrouped [] []
  | same (arg : Value) {args args' : List Value} :
    Regrouped args args' → Regrouped (arg :: args) (arg :: args')
  | group (nodes : List Strategy) {args args' : List Value} : Regrouped args args' →
    Regrouped (nodes.map .strategy ++ args) (.list (nodes.map .strategy) :: args')

theorem ungrouped_cons (arg : Value) (args : List Value) :
    ungrouped (arg :: args) = arg.items ++ ungrouped args := List.flatMap_cons

/-- Strategies are items on their own. -/
theorem ungrouped_strategies (nodes : List Strategy) (args : List Value) :
    ungrouped (nodes.map .strategy ++ args) = nodes.map .strategy ++ ungrouped args := by
  induction nodes with
  | nil => rfl
  | cons node nodes ih =>
    rw [List.map_cons, List.cons_append, ungrouped_cons, ih]
    rfl

theorem Regrouped.ungrouped_eq {args args' : List Value} (h : Regrouped args args') :
    ungrouped args' = ungrouped args := by
  induction h with
  | nil => rfl
  | same arg _ ih => rw [ungrouped_cons, ungrouped_cons, ih]
  | group nodes _ ih =>
    rw [ungrouped_cons, ungrouped_strategies, ih]
    rfl

theorem Regrouped.strategies_eq {args args' : List Value} (h : Regrouped args args')
    (tag : String) : strategies tag args' = strategies tag args := by
  rw [Combinator.strategies_eq, Combinator.strategies_eq, h.ungrouped_eq]

/-- Regrouping brings no map to the front. -/
theorem Regrouped.not_map {args args' : List Value} (h : Regrouped args args')
    (hargs : ∀ fields rest, args ≠ .map fields :: rest) :
    ∀ fields rest, args' ≠ .map fields :: rest := by
  rintro fields rest rfl
  cases h with
  | same _ _ => exact hargs fields _ rfl

/-! ### Applying -/

/-- The combinators that gather any number of strategies. -/
inductive Gatherer where
  | sequential
  | firstConnected
  | bestConnectedEver

namespace Gatherer

def combinator : Gatherer → Combinator
  | sequential => .sequential
  | firstConnected => .firstConnected
  | bestConnectedEver => .bestConnectedEver

/-- The node of children; only a sequence has options. -/
def node (options : SequentialOptions) (site : Site) (children : List Strategy) :
    Gatherer → Strategy
  | sequential => .sequential options children
  | firstConnected => .firstConnected children
  | bestConnectedEver => .bestConnectedEver site children

/-- The map in front of the arguments of a sequence, and what follows it. -/
def split : Gatherer → List Value → Option Json.Fields × List Value
  | sequential, .map fields :: args => (some fields, args)
  | _, args => (none, args)

/-- Arguments with a map in front, if there is one. -/
def withLeading (leading : Option Json.Fields) (args : List Value) : List Value :=
  (leading.map Value.map).toList ++ args

def readLeading : Option Json.Fields → Except Error SequentialOptions
  | some fields => sequentialOptions fields
  | none => .ok .default

theorem apply_eq (gatherer : Gatherer) (setting : Build.Setting) (site : Site)
    (args : List Value) :
    gatherer.combinator.apply setting site args =
      (readLeading (gatherer.split args).1 >>= fun options =>
        strategies gatherer.combinator.tag (gatherer.split args).2 >>= fun children =>
          .ok (.strategy (gatherer.node options site children))) := by
  cases gatherer with
  | sequential =>
    cases args with
    | nil => rfl
    | cons arg args => cases arg <;> rfl
  | firstConnected => rfl
  | bestConnectedEver => rfl

theorem readLeading_eq_error_iff {leading : Option Json.Fields} {error : Error} :
    readLeading leading = .error error ↔ ∃ fields fault, leading = some fields ∧
      SequentialOptions.codec.decode (.object fields) = .error fault ∧
      error = .invalidArgument ("sequential options: " ++ fault.message) := by
  cases leading with
  | none => simp [readLeading]
  | some fields =>
    rw [readLeading, sequentialOptions]
    cases hread : SequentialOptions.codec.decode (.object fields) <;> simp [hread, eq_comm]

/-- Arguments without a map in front are not split. -/
theorem split_of_not_map (gatherer : Gatherer) {args : List Value}
    (h : ∀ fields rest, args ≠ .map fields :: rest) : gatherer.split args = (none, args) := by
  unfold split
  split
  · exact absurd rfl (h _ _)
  · rfl

/-- Regrouping leaves a leading map in front, and brings none there. -/
theorem split_regrouped {gatherer : Gatherer} {args args' : List Value}
    (h : Regrouped (gatherer.split args).2 args') :
    gatherer.split (withLeading (gatherer.split args).1 args') =
      ((gatherer.split args).1, args') := by
  cases gatherer with
  | sequential =>
    by_cases hmap : ∃ fields rest, args = .map fields :: rest
    · obtain ⟨fields, rest, rfl⟩ := hmap
      rfl
    · simp only [not_exists] at hmap
      rw [split_of_not_map _ hmap] at h ⊢
      exact split_of_not_map _ (h.not_map hmap)
  | firstConnected => rfl
  | bestConnectedEver => rfl

/-- Why arguments are refused. A leading map is read first. -/
inductive Refused (gatherer : Gatherer) (args : List Value) : Error → Prop where
  | leading {fields : Json.Fields} {fault : Json.Fault} :
    (gatherer.split args).1 = some fields →
    SequentialOptions.codec.decode (.object fields) = .error fault →
    Refused gatherer args (.invalidArgument ("sequential options: " ++ fault.message))
  | misfit {options : SequentialOptions} {error : Error} :
    readLeading (gatherer.split args).1 = .ok options →
    Misfit gatherer.combinator.tag (gatherer.split args).2 error → Refused gatherer args error

variable (setting : Build.Setting) (site : Site)

/-- What is promised of a combinator that gathers strategies. -/
structure Gathers (gatherer : Gatherer) (args : List Value) : Prop where
  /-- The children of the node are the items in order, which are strategies, and some. -/
  made : ∀ value, gatherer.combinator.apply setting site args = .ok value ↔
    ∃ options children, readLeading (gatherer.split args).1 = .ok options ∧
      ungrouped (gatherer.split args).2 = children.map .strategy ∧ children ≠ [] ∧
      value = .strategy (gatherer.node options site children)
  /-- Grouping strategies otherwise, behind a leading map, makes no difference. -/
  regrouped : ∀ args', Regrouped (gatherer.split args).2 args' →
    gatherer.combinator.apply setting site (withLeading (gatherer.split args).1 args') =
      gatherer.combinator.apply setting site args
  refused : ∀ error, gatherer.combinator.apply setting site args = .error error ↔
    gatherer.Refused args error
  /-- No other map than a leading one may be given. -/
  misplaced : ∀ fields, .map fields ∈ ungrouped (gatherer.split args).2 →
    ∀ value, gatherer.combinator.apply setting site args ≠ .ok value

variable {setting site}

theorem apply_eq_ok_iff {gatherer : Gatherer} {args : List Value} {value : Value} :
    gatherer.combinator.apply setting site args = .ok value ↔
      ∃ options children, readLeading (gatherer.split args).1 = .ok options ∧
        ungrouped (gatherer.split args).2 = children.map .strategy ∧ children ≠ [] ∧
        value = .strategy (gatherer.node options site children) := by
  rw [apply_eq]
  constructor
  · intro h
    obtain ⟨options, hoptions, h⟩ := ok_of_bind h
    obtain ⟨children, hchildren, h⟩ := ok_of_bind h
    cases h
    obtain ⟨hitems, hne⟩ := strategies_eq_ok_iff.mp hchildren
    exact ⟨options, children, hoptions, hitems, hne, rfl⟩
  · rintro ⟨options, children, hoptions, hitems, hne, rfl⟩
    rw [hoptions]
    show (strategies _ _ >>= _) = _
    rw [strategies_eq_ok_iff.mpr ⟨hitems, hne⟩]
    rfl

theorem apply_eq_error_iff {gatherer : Gatherer} {args : List Value} {error : Error} :
    gatherer.combinator.apply setting site args = .error error ↔ gatherer.Refused args error := by
  rw [apply_eq]
  constructor
  · intro h
    rcases error_of_bind h with h | ⟨options, hoptions, h⟩
    · obtain ⟨fields, fault, hleading, hfault, rfl⟩ := readLeading_eq_error_iff.mp h
      exact .leading hleading hfault
    · exact .misfit hoptions (strategies_eq_error_iff.mp (map_error_iff.mp h))
  · rintro (⟨hleading, hfault⟩ | ⟨hoptions, hmisfit⟩)
    · rw [readLeading_eq_error_iff.mpr ⟨_, _, hleading, hfault, rfl⟩]
      rfl
    · rw [hoptions]
      exact map_error_iff.mpr (strategies_eq_error_iff.mpr hmisfit)

/-- How strategies are grouped into lists does not matter to a combinator that gathers them. -/
theorem apply_gathers (setting : Build.Setting) (site : Site) (gatherer : Gatherer)
    (args : List Value) : gatherer.Gathers setting site args where
  made _ := apply_eq_ok_iff
  regrouped args' h := by
    rw [apply_eq, apply_eq, split_regrouped h, h.strategies_eq]
  refused _ := apply_eq_error_iff
  misplaced fields hmap value h := by
    obtain ⟨_, children, -, hitems, -⟩ := apply_eq_ok_iff.mp h
    rw [hitems] at hmap
    obtain ⟨node, -, hnode⟩ := List.mem_map.mp hmap
    cases hnode

end Gatherer

end Combinator

end Dialplan
