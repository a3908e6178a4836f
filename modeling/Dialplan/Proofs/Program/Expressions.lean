import Dialplan.Program.Expression

/-! The grammar of expressions. What a JSON value stands for is well-formed, and a well-formed
expression is what its written form stands for; nothing else is. Objects are carried over
unchanged, however deep they lie (`Expression.ofValue_grammar`). -/

namespace Dialplan

/-! ### Marked strings -/

/-- A marked string is the marker before a name. -/
theorem symbolName?_eq_some_iff {text name : String} :
    symbolName? text = some name ↔ name ≠ "" ∧ text = ":" ++ name := by
  unfold symbolName?
  constructor
  · intro h
    split at h
    · rename_i first rest hmarked
      cases h
      refine ⟨fun he => ?_, ?_⟩
      · simpa using congrArg String.toList he
      · rw [← String.ofList_toList (s := text), hmarked, ← String.ofList_append]
        rfl
    · cases h
  · rintro ⟨hne, rfl⟩
    obtain ⟨first, rest, hname⟩ : ∃ first rest, name.toList = first :: rest :=
      List.exists_cons_of_ne_nil fun he => hne (String.toList_eq_nil_iff.mp he)
    have hmarked : (":" ++ name).toList = ':' :: first :: rest := by
      rw [String.toList_append, hname]
      rfl
    simp only [hmarked, Option.some.injEq]
    rw [← hname, String.ofList_toList]

@[simp] theorem symbolName?_marked {name : String} (h : name ≠ "") :
    symbolName? (":" ++ name) = some name :=
  symbolName?_eq_some_iff.mpr ⟨h, rfl⟩

/-- A string that is not marked is the marker alone, or does not begin with it. -/
theorem symbolName?_eq_none_iff {text : String} :
    symbolName? text = none ↔ ∀ rest, text.toList = ':' :: rest → rest = [] := by
  unfold symbolName?
  constructor
  · intro h rest hrest
    cases rest with
    | nil => rfl
    | cons first rest => simp [hrest] at h
  · intro h
    split
    · rename_i first rest hmarked
      cases h _ hmarked
    · rfl

theorem Combinator.ofTag?_eq_none_iff {name : String} :
    ofTag? name = none ↔ ∀ combinator : Combinator, combinator.tag ≠ name := by
  constructor
  · rintro h combinator rfl
    rw [ofTag?_tag] at h
    cases h
  · intro h
    exact List.find?_eq_none.mpr fun combinator _ => by simpa using h combinator

/-! ### Well-formed expressions -/

/-- A literal other than a marked string. -/
def Literal.IsUnmarked : Literal → Prop
  | .string text => ∀ rest, text.toList = ':' :: rest → rest = []
  | _ => True

namespace Expression

mutual

/-- Is the expression one that a plan can hold? Names are not empty; a call without arguments
calls a combinator, as it would be a parenthesised name otherwise; and a list does not begin with
the name of a combinator, as it would be a call. -/
def WellFormed : Expression → Prop
  | .literal value => value.IsUnmarked
  | .symbol name => name ≠ ""
  | .list items =>
    (∀ combinator : Combinator, ∀ rest, items ≠ .symbol combinator.tag :: rest) ∧
      AllWellFormed items
  | .invocation tag args =>
    tag ≠ "" ∧ (args = [] → ∃ combinator : Combinator, combinator.tag = tag) ∧
      AllWellFormed args

def AllWellFormed : List Expression → Prop
  | [] => True
  | expression :: rest => expression.WellFormed ∧ AllWellFormed rest

end

mutual

/-- The map literals in an expression, in order. -/
def maps : Expression → List Json.Fields
  | .literal (.map fields) => [fields]
  | .literal _ => []
  | .symbol _ => []
  | .list items => mapsAll items
  | .invocation _ args => mapsAll args

def mapsAll : List Expression → List Json.Fields
  | [] => []
  | expression :: rest => expression.maps ++ mapsAll rest

end

end Expression

namespace Json.Value

mutual

/-- The objects in a value that do not lie in another object, in order. -/
def objects : Value → List Fields
  | .object fields => [fields]
  | .array items => objectsAll items
  | _ => []

def objectsAll : List Value → List Fields
  | [] => []
  | value :: rest => value.objects ++ objectsAll rest

end

end Json.Value

/-! ### The written form -/

def Literal.toValue : Literal → Json.Value
  | .null => .null
  | .bool b => .bool b
  | .number n => .number n
  | .string text => .string text
  | .map fields => .object fields

namespace Expression

/-- Puts a marked string at the head of a list in parentheses, which a call's tag never has. -/
def shieldHead : List Json.Value → List Json.Value
  | .string text :: rest =>
    if (symbolName? text).isSome then .array [.string text] :: rest else .string text :: rest
  | values => values

mutual

/-- The written form of an expression. -/
def toValue : Expression → Json.Value
  | .literal value => value.toValue
  | .symbol name => .string (":" ++ name)
  | .list items => .array (shieldHead (toValues items))
  | .invocation tag args => .array (.string (":" ++ tag) :: toValues args)

def toValues : List Expression → List Json.Value
  | [] => []
  | expression :: rest => expression.toValue :: toValues rest

end

/-! ### What is read is well-formed -/

theorem headName?_eq_some {values : List Json.Value} {name : String}
    (h : headName? values = some name) :
    name ≠ "" ∧ ∃ rest, values = .string (":" ++ name) :: rest := by
  unfold headName? at h
  split at h
  · rename_i text rest
    obtain ⟨hne, rfl⟩ := symbolName?_eq_some_iff.mp h
    exact ⟨hne, rest, rfl⟩
  · cases h

theorem ofValues_eq_map (values : List Json.Value) : ofValues values = values.map ofValue := by
  induction values with
  | nil => rfl
  | cons value rest ih => rw [ofValues, ih, List.map_cons]

/-- A call without arguments stands for its tag's name unless the tag is a combinator's. -/
theorem ofItems_call (name : String) (rest : List Json.Value) :
    ofItems (some name) (ofValues (.string (":" ++ name) :: rest)) =
      if rest = [] ∧ Combinator.ofTag? name = none then .symbol name
      else .invocation name (ofValues rest) := by
  simp [ofItems, ofValues, ofValues_eq_map]

/-- A value that stands for the name of a combinator is marked itself: a name in parentheses is
not a combinator's. -/
theorem headName?_of_symbol {value : Json.Value} {combinator : Combinator}
    (h : ofValue value = .symbol combinator.tag) (rest : List Json.Value) :
    headName? (value :: rest) = some combinator.tag := by
  cases value with
  | string text =>
    rw [ofValue] at h
    split at h
    · rename_i name hname
      cases h
      exact hname
    · cases h
  | array items =>
    rw [ofValue] at h
    cases hhead : headName? items with
    | none => simp [hhead, ofItems] at h
    | some name =>
      obtain ⟨_, others, rfl⟩ := headName?_eq_some hhead
      rw [hhead, ofItems_call] at h
      split at h
      · rename_i hname
        cases h
        rw [Combinator.ofTag?_tag] at hname
        cases hname.2
      · cases h
  | null | bool _ | number _ | object _ => cases h

theorem ofItems_wellFormed {values : List Json.Value} (h : AllWellFormed (ofValues values)) :
    (ofItems (headName? values) (ofValues values)).WellFormed := by
  cases hhead : headName? values with
  | none =>
    refine ⟨fun combinator rest hitems => ?_, h⟩
    cases values with
    | nil => cases hitems
    | cons value others =>
      have hvalue : ofValue value = .symbol combinator.tag := (List.cons.inj hitems).1
      cases hhead.symm.trans (headName?_of_symbol hvalue others)
  | some name =>
    obtain ⟨hne, rest, rfl⟩ := headName?_eq_some hhead
    rw [ofItems_call]
    split
    · exact hne
    · rename_i hcall
      refine ⟨hne, fun hargs => ?_, h.2⟩
      have hrest : rest = [] := List.map_eq_nil_iff.mp (ofValues_eq_map rest ▸ hargs)
      obtain ⟨combinator, hc⟩ : ∃ combinator, Combinator.ofTag? name = some combinator :=
        Option.ne_none_iff_exists'.mp fun hnone => hcall ⟨hrest, hnone⟩
      exact ⟨combinator, by simpa using List.find?_some hc⟩

mutual

theorem ofValue_wellFormed : ∀ value : Json.Value, (ofValue value).WellFormed
  | .null | .bool _ | .number _ | .object _ => trivial
  | .string text => by
    rw [ofValue]
    split
    · rename_i name hname
      exact (symbolName?_eq_some_iff.mp hname).1
    · rename_i hnone
      exact symbolName?_eq_none_iff.mp hnone
  | .array items => ofItems_wellFormed (ofValues_wellFormed items)

theorem ofValues_wellFormed : ∀ values : List Json.Value, AllWellFormed (ofValues values)
  | [] => trivial
  | value :: rest => ⟨ofValue_wellFormed value, ofValues_wellFormed rest⟩

end

/-! ### Reading what is written -/

/-- A shielded list is not headed by a marked string. -/
theorem headName?_shieldHead (values : List Json.Value) : headName? (shieldHead values) = none := by
  unfold shieldHead
  split
  · rename_i text rest
    split
    · rfl
    · rename_i hunmarked
      exact Option.not_isSome_iff_eq_none.mp hunmarked
  · rename_i hother
    unfold headName?
    split
    · rename_i text rest
      exact absurd rfl (hother text rest)
    · rfl

/-- A marked string says the same in parentheses, unless it marks a combinator. -/
theorem ofValues_shieldHead {values : List Json.Value}
    (h : ∀ combinator : Combinator, ∀ rest, ofValues values ≠ .symbol combinator.tag :: rest) :
    ofValues (shieldHead values) = ofValues values := by
  unfold shieldHead
  split
  · rename_i text rest
    cases hname : symbolName? text with
    | none => rfl
    | some name =>
      obtain ⟨hne, rfl⟩ := symbolName?_eq_some_iff.mp hname
      have hvalue : ofValue (.string (":" ++ name)) = .symbol name := by rw [ofValue, hname]
      have htag : Combinator.ofTag? name = none :=
        Combinator.ofTag?_eq_none_iff.mpr fun combinator hc =>
          h combinator (ofValues rest) (by rw [ofValues, hvalue, hc])
      have hshield : ofValue (.array [.string (":" ++ name)]) = .symbol name := by
        rw [ofValue, headName?, hname, ofItems_call, if_pos ⟨rfl, htag⟩]
      simp only [Option.isSome_some, if_true, ofValues, hshield, hvalue]
  · rfl

mutual

/-- The written form of a well-formed expression stands for it. -/
theorem ofValue_toValue : ∀ e : Expression, e.WellFormed → ofValue e.toValue = e
  | .literal value, h => by
    cases value with
    | string text =>
      rw [toValue, Literal.toValue, ofValue, symbolName?_eq_none_iff.mpr h]
    | null | bool _ | number _ | map _ => rfl
  | .symbol name, h => by rw [toValue, ofValue, symbolName?_marked h]
  | .list items, ⟨hhead, hitems⟩ => by
    have hread := ofValues_toValues items hitems
    rw [toValue, ofValue, headName?_shieldHead, ofValues_shieldHead (hread.symm ▸ hhead), hread]
    rfl
  | .invocation tag args, ⟨hne, hbare, hargs⟩ => by
    have hread := ofValues_toValues args hargs
    have hcall : ¬ (toValues args = [] ∧ Combinator.ofTag? tag = none) := by
      rintro ⟨hnil, hnone⟩
      have hempty : args = [] := by rw [← hread, hnil, ofValues]
      obtain ⟨combinator, hc⟩ := hbare hempty
      exact Combinator.ofTag?_eq_none_iff.mp hnone combinator hc
    rw [toValue, ofValue, headName?, symbolName?_marked hne, ofItems_call, if_neg hcall, hread]

theorem ofValues_toValues :
    ∀ es : List Expression, AllWellFormed es → ofValues (toValues es) = es
  | [], _ => rfl
  | e :: rest, ⟨h, hrest⟩ => by
    rw [toValues, ofValues, ofValue_toValue e h, ofValues_toValues rest hrest]

end

/-! ### Map literals -/

theorem maps_ofItems (values : List Json.Value) :
    (ofItems (headName? values) (ofValues values)).maps = mapsAll (ofValues values) := by
  cases hhead : headName? values with
  | none => rfl
  | some name =>
    obtain ⟨_, rest, rfl⟩ := headName?_eq_some hhead
    have hname : (ofValue (.string (":" ++ name))).maps = [] := by
      rw [ofValue]
      split <;> rfl
    rw [ofItems_call, ofValues, mapsAll, hname, List.nil_append]
    split
    · rename_i hsymbol
      rw [hsymbol.1]
      rfl
    · rfl

mutual

theorem maps_ofValue : ∀ value : Json.Value, (ofValue value).maps = value.objects
  | .null | .bool _ | .number _ | .object _ => rfl
  | .string text => by
    rw [ofValue]
    split <;> rfl
  | .array items => by rw [ofValue, maps_ofItems, mapsAll_ofValues items, Json.Value.objects]

theorem mapsAll_ofValues :
    ∀ values : List Json.Value, mapsAll (ofValues values) = Json.Value.objectsAll values
  | [] => rfl
  | value :: rest => by
    rw [ofValues, mapsAll, maps_ofValue value, mapsAll_ofValues rest, Json.Value.objectsAll]

end

theorem objectsAll_shieldHead (values : List Json.Value) :
    Json.Value.objectsAll (shieldHead values) = Json.Value.objectsAll values := by
  unfold shieldHead
  split
  · split <;> rfl
  · rfl

mutual

theorem objects_toValue : ∀ e : Expression, e.toValue.objects = e.maps
  | .literal value => by cases value <;> rfl
  | .symbol _ => rfl
  | .list items => by
    rw [toValue, Json.Value.objects, objectsAll_shieldHead, objectsAll_toValues items, maps]
  | .invocation tag args => by
    rw [toValue, Json.Value.objects, Json.Value.objectsAll, objectsAll_toValues args, maps]
    rfl

theorem objectsAll_toValues :
    ∀ es : List Expression, Json.Value.objectsAll (toValues es) = mapsAll es
  | [] => rfl
  | e :: rest => by
    rw [toValues, Json.Value.objectsAll, objects_toValue e, objectsAll_toValues rest, mapsAll]

end

/-- Every JSON value stands for a well-formed expression, and the well-formed expressions are those
that their written forms stand for. Reading and writing keep the maps, all of them, unchanged and
in order. -/
theorem ofValue_grammar (value : Json.Value) (expression : Expression) :
    (ofValue value).WellFormed ∧
      (expression.WellFormed ↔ ofValue expression.toValue = expression) ∧
      (ofValue value).maps = value.objects ∧ expression.toValue.objects = expression.maps := by
  refine ⟨ofValue_wellFormed value, ⟨ofValue_toValue expression, fun h => ?_⟩,
    maps_ofValue value, objects_toValue expression⟩
  rw [← h]
  exact ofValue_wellFormed expression.toValue

end Expression

end Dialplan
