import Mathlib.Data.List.Forall2
import Dialplan.Program.Instruction
import Dialplan.Proofs.Build.Evaluation
import Dialplan.Proofs.Program.Expressions

/-! The grammar of plans. `Instruction.Written` says which JSON values are instructions, and
`Instruction.Flawed` what is wrong with each of the others. A plan is read exactly if each of its
elements is written as an instruction, and is refused for its first flawed element otherwise
(`Program.ofValue_iff`). -/

namespace Dialplan

/-! ### Traversals that may fail -/

/-- A traversal succeeds when every element does. -/
theorem mapM_eq_ok_iff {ε α β : Type} {f : α → Except ε β} {xs : List α} {ys : List β} :
    xs.mapM f = .ok ys ↔ List.Forall₂ (fun x y => f x = .ok y) xs ys := by
  constructor
  · intro h
    induction xs generalizing ys with
    | nil =>
      cases h
      exact .nil
    | cons x xs ih =>
      rw [List.mapM_cons] at h
      obtain ⟨y, hy, h⟩ := ok_of_bind h
      obtain ⟨rest, hrest, h⟩ := ok_of_bind h
      cases h
      exact .cons hy (ih hrest)
  · intro h
    induction h with
    | nil => rfl
    | cons hy _ ih =>
      rw [List.mapM_cons, hy, ih]
      rfl

/-- A traversal fails as the first element that does. -/
theorem mapM_eq_error_iff {ε α β : Type} {f : α → Except ε β} {xs : List α} {e : ε} :
    xs.mapM f = .error e ↔ ∃ before x after ys, xs = before ++ x :: after ∧
      List.Forall₂ (fun x y => f x = .ok y) before ys ∧ f x = .error e := by
  constructor
  · intro h
    induction xs with
    | nil => cases h
    | cons x xs ih =>
      rw [List.mapM_cons] at h
      rcases error_of_bind h with hx | ⟨y, hy, h⟩
      · exact ⟨[], x, xs, [], rfl, .nil, hx⟩
      · obtain ⟨before, x', after, ys, rfl, hbefore, hx'⟩ := ih (map_error_iff.mp h)
        exact ⟨x :: before, x', after, y :: ys, rfl, .cons hy hbefore, hx'⟩
  · rintro ⟨before, x, after, ys, rfl, hbefore, hx⟩
    induction hbefore with
    | nil =>
      rw [List.nil_append, List.mapM_cons, hx]
      rfl
    | cons hy _ ih =>
      rw [List.cons_append, List.mapM_cons, hy, ih]
      rfl

/-! ### Whole numbers -/

namespace Json

/-- The value of a whole number. -/
def Number.whole? : Number → Option Int
  | .unsigned n => some n.toNat
  | .signed n => some n.toInt
  | .real _ => none

/-- The value of what is written as a whole number. -/
def Value.whole? : Value → Option Int
  | .number n => n.whole?
  | _ => none

/-- A signed word is read from the whole numbers in its range. -/
theorem Number.toInt64?_eq_some_iff {n : Number} {word : Int64} :
    n.toInt64? = some word ↔ n.whole? = some word.toInt := by
  cases n with
  | unsigned n =>
    have hbits : n.toInt64.toInt = n.toBitVec.toInt := rfl
    have hword : n.toNat = n.toBitVec.toNat := rfl
    rw [BitVec.toInt_eq_toNat_cond, ← hword] at hbits
    simp only [toInt64?, whole?, Nat.shiftLeft_eq, Option.some.injEq]
    split
    · rw [if_pos (by omega)] at hbits
      rw [Option.some.injEq, ← Int64.toInt_inj, hbits]
    · have hlt := word.toInt_lt
      constructor <;> intro h
      · cases h
      · omega
  | signed n => simp [toInt64?, whole?, Int64.toInt_inj]
  | real _ => simp [toInt64?, whole?]

theorem Value.int64?_eq_some_iff {value : Value} {word : Int64} :
    value.int64? = some word ↔ value.whole? = some word.toInt := by
  cases value with
  | number n => exact Number.toInt64?_eq_some_iff
  | _ => simp [int64?, whole?]

/-- No signed word is read from what is not written as a whole number, or is out of range. -/
theorem Value.int64?_eq_none_iff {value : Value} :
    value.int64? = none ↔
      ∀ n, value.whole? = some n → n < Int64.minValue.toInt ∨ Int64.maxValue.toInt < n := by
  constructor
  · intro hnone n hn
    by_contra hrange
    have hmin : Int64.minValue.toInt = -9223372036854775808 := by decide
    have hmax : Int64.maxValue.toInt = 9223372036854775807 := by decide
    have hword : (Int64.ofInt n).toInt = n := Int64.toInt_ofInt_of_le (by omega) (by omega)
    cases hnone.symm.trans (int64?_eq_some_iff.mpr (hword.symm ▸ hn))
  · intro hrange
    cases h : value.int64? with
    | none => rfl
    | some word =>
      have hmin := word.minValue_le_toInt
      have hmax := word.toInt_le
      rcases hrange _ (int64?_eq_some_iff.mp h) with hlow | hhigh <;> omega

end Json

/-! ### The grammar -/

namespace Instruction

/-- What may follow the priority of a transport definition. Null says no more than nothing. -/
inductive Trailing : List Json.Value → Option Expression → Prop where
  | absent : Trailing [] none
  | null : Trailing [.null] none
  | options {value : Json.Value} : value ≠ .null → Trailing [value] (some (.ofValue value))

/-- How instructions are written. -/
inductive Written : Json.Value → Instruction → Prop where
  | define (name : String) (body : Json.Value) :
    Written (.array [.string ":def", .string name, body]) (.define name (.ofValue body))
  | defTransport (name type : String) {priority : Json.Value} {word : Int64}
      {trailing : List Json.Value} {options : Option Expression} :
    priority.whole? = some word.toInt → Trailing trailing options →
    Written
      (.array (.string ":def_transport" :: .string name :: .string type :: priority :: trailing))
      (.defTransport name type word options)

/-- What is wrong with a value that is no instruction, as it is worded. Of several flaws the first
in this order counts: the tag, the number of arguments, the name, the type, the priority. -/
inductive Flawed : Json.Value → String → Prop where
  | notList (value : Json.Value) :
    value.array? = none → Flawed value ("instruction is not a list: " ++ value.text)
  | untagged (items : List Json.Value) :
    (∀ tag rest, tag ≠ "" → items ≠ .string (":" ++ tag) :: rest) →
    Flawed (.array items) ("instruction has no tag: " ++ (Json.Value.array items).text)
  | unknown (tag : String) (args : List Json.Value) :
    tag ≠ "" → tag ≠ "def" → tag ≠ "def_transport" →
    Flawed (.array (.string (":" ++ tag) :: args)) ("unknown instruction :" ++ tag)
  | defineArity (args : List Json.Value) :
    args.length ≠ 2 →
    Flawed (.array (.string ":def" :: args))
      (":def expects 2 arguments, got " ++ toString args.length)
  | defineName (name body : Json.Value) :
    name.string? = none →
    Flawed (.array [.string ":def", name, body]) ("def name must be a string: " ++ name.text)
  | transportArity (args : List Json.Value) :
    args.length ≠ 3 → args.length ≠ 4 →
    Flawed (.array (.string ":def_transport" :: args))
      (":def_transport expects 3 or 4 arguments, got " ++ toString args.length)
  | transportName (name type priority : Json.Value) (trailing : List Json.Value) :
    trailing.length ≤ 1 → name.string? = none →
    Flawed (.array (.string ":def_transport" :: name :: type :: priority :: trailing))
      ("def_transport name must be a string: " ++ name.text)
  | transportType (name : String) (type priority : Json.Value) (trailing : List Json.Value) :
    trailing.length ≤ 1 → type.string? = none →
    Flawed (.array (.string ":def_transport" :: .string name :: type :: priority :: trailing))
      ("def_transport type must be a string: " ++ type.text)
  | transportPriority (name type : String) (priority : Json.Value) (trailing : List Json.Value) :
    trailing.length ≤ 1 →
    (∀ n, priority.whole? = some n → n < Int64.minValue.toInt ∨ Int64.maxValue.toInt < n) →
    Flawed
      (.array (.string ":def_transport" :: .string name :: .string type :: priority :: trailing))
      ("def_transport priority must be an integer: " ++ priority.text)

/-- What reading a value may come to. -/
inductive Verdict (value : Json.Value) : Except Error Instruction → Prop where
  | written {instruction : Instruction} :
    Written value instruction → Verdict value (.ok instruction)
  | flawed {message : String} :
    Flawed value message → Verdict value (.error (.invalidProgram message))

/-! ### Arguments -/

/-- A string argument is read, or refused in the words for it. -/
theorem stringArg_cases (what : String) (value : Json.Value) :
    (∃ text, value = .string text ∧ stringArg what value = .ok text) ∨
      value.string? = none ∧
        stringArg what value =
          .error (.invalidProgram (what ++ " must be a string: " ++ value.text)) := by
  cases value with
  | string text => exact .inl ⟨text, rfl, rfl⟩
  | _ => exact .inr ⟨rfl, rfl⟩

theorem Trailing.length_le {trailing : List Json.Value} {options : Option Expression}
    (h : Trailing trailing options) : trailing.length ≤ 1 := by
  cases h <;> simp

theorem trailing_optionsArg (value : Json.Value) : Trailing [value] (optionsArg value) := by
  cases value with
  | null => exact .null
  | _ => exact .options nofun

/-- After the number of arguments come their kinds, from left to right. -/
theorem transport_verdict {name type priority : Json.Value} {trailing : List Json.Value}
    {options : Option Expression} (ht : Trailing trailing options) :
    Verdict (.array (.string ":def_transport" :: name :: type :: priority :: trailing))
      (defTransportOfArgs.transport name type priority options) := by
  unfold defTransportOfArgs.transport
  rcases stringArg_cases "def_transport name" name with ⟨name, rfl, hname⟩ | ⟨hflaw, hname⟩
  · rcases stringArg_cases "def_transport type" type with ⟨type, rfl, htype⟩ | ⟨hflaw, htype⟩
    · rw [hname, htype]
      unfold integerArg
      cases hword : priority.int64? with
      | none =>
        have hflaw := Json.Value.int64?_eq_none_iff.mp hword
        exact .flawed (.transportPriority name type priority trailing ht.length_le hflaw)
      | some word =>
        exact .written (.defTransport name type (Json.Value.int64?_eq_some_iff.mp hword) ht)
    · rw [hname, htype]
      exact .flawed (.transportType name type priority trailing ht.length_le hflaw)
  · rw [hname]
    exact .flawed (.transportName name type priority trailing ht.length_le hflaw)

theorem defTransportOfArgs_verdict (args : List Json.Value) :
    Verdict (.array (.string ":def_transport" :: args)) (defTransportOfArgs args) := by
  unfold defTransportOfArgs
  split
  · exact transport_verdict .absent
  · exact transport_verdict (trailing_optionsArg _)
  · rename_i hthree hfour
    refine .flawed (.transportArity args (fun h => ?_) fun h => ?_)
    · obtain ⟨name, type, priority, rfl⟩ := List.length_eq_three.mp h
      exact hthree name type priority rfl
    · obtain ⟨name, rest, rfl⟩ := List.exists_cons_of_length_eq_add_one h
      obtain ⟨type, priority, options, rfl⟩ := List.length_eq_three.mp (Nat.succ.inj h)
      exact hfour name type priority options rfl

theorem defineOfArgs_verdict (args : List Json.Value) :
    Verdict (.array (.string ":def" :: args)) (defineOfArgs args) := by
  unfold defineOfArgs
  split
  · rename_i name body
    rcases stringArg_cases "def name" name with ⟨name, rfl, hname⟩ | ⟨hflaw, hname⟩
    · rw [hname]
      exact .written (.define name body)
    · rw [hname]
      exact .flawed (.defineName name body hflaw)
  · rename_i htwo
    refine .flawed (.defineArity args fun h => ?_)
    obtain ⟨name, body, rfl⟩ := List.length_eq_two.mp h
    exact htwo name body rfl

/-- A value is read as the instruction that it is written as, or refused for its flaw. -/
theorem ofValue_verdict (value : Json.Value) : Verdict value (ofValue value) := by
  unfold ofValue
  split
  · rename_i items
    cases hhead : Expression.headName? items with
    | none =>
      refine .flawed (.untagged items fun tag rest hne hitems => ?_)
      rw [hitems, Expression.headName?, symbolName?_marked hne] at hhead
      cases hhead
    | some tag =>
      obtain ⟨hne, args, rfl⟩ := Expression.headName?_eq_some hhead
      simp only [List.drop_succ_cons, List.drop_zero]
      split
      · rename_i htag
        subst htag
        exact defTransportOfArgs_verdict args
      · split
        · rename_i htag
          subst htag
          exact defineOfArgs_verdict args
        · rename_i htransport hdefine
          exact .flawed (.unknown tag args hne hdefine htransport)
  · rename_i hlist
    cases value with
    | array items => exact absurd rfl (hlist items)
    | _ => exact .flawed (.notList _ rfl)

/-! ### Reading what is written -/

theorem ofValue_define (args : List Json.Value) :
    ofValue (.array (.string ":def" :: args)) = defineOfArgs args := rfl

theorem ofValue_defTransport (args : List Json.Value) :
    ofValue (.array (.string ":def_transport" :: args)) = defTransportOfArgs args := rfl

theorem stringArg_of_not_string (what : String) {value : Json.Value} (h : value.string? = none) :
    stringArg what value =
      .error (.invalidProgram (what ++ " must be a string: " ++ value.text)) := by
  rcases stringArg_cases what value with ⟨text, rfl, _⟩ | ⟨_, hrefused⟩
  · cases h
  · exact hrefused

/-- With the right number of arguments, the kinds of the first three are looked at. -/
theorem defTransportOfArgs_eq {trailing : List Json.Value} (h : trailing.length ≤ 1)
    (name type priority : Json.Value) :
    ∃ options, Trailing trailing options ∧
      defTransportOfArgs (name :: type :: priority :: trailing) =
        defTransportOfArgs.transport name type priority options := by
  match trailing, h with
  | [], _ => exact ⟨none, .absent, rfl⟩
  | [value], _ => exact ⟨optionsArg value, trailing_optionsArg value, rfl⟩

theorem Trailing.unique {trailing : List Json.Value} {options options' : Option Expression}
    (h : Trailing trailing options) (h' : Trailing trailing options') : options = options' := by
  cases h <;> cases h' <;> trivial

theorem Written.ofValue_eq {value : Json.Value} {instruction : Instruction}
    (h : Written value instruction) : ofValue value = .ok instruction := by
  cases h with
  | define name body => rfl
  | defTransport name type hword htrailing =>
    obtain ⟨options, hoptions, heq⟩ := defTransportOfArgs_eq htrailing.length_le
      (.string name) (.string type) _
    rw [ofValue_defTransport, heq, hoptions.unique htrailing, defTransportOfArgs.transport,
      integerArg, Json.Value.int64?_eq_some_iff.mpr hword]
    rfl

theorem Flawed.ofValue_eq {value : Json.Value} {message : String} (h : Flawed value message) :
    ofValue value = .error (.invalidProgram message) := by
  cases h with
  | notList value hlist =>
    cases value with
    | array items => cases hlist
    | _ => rfl
  | untagged items htag =>
    have hhead : Expression.headName? items = none := by
      by_contra hsome
      obtain ⟨tag, hname⟩ := Option.ne_none_iff_exists'.mp hsome
      obtain ⟨hne, rest, hitems⟩ := Expression.headName?_eq_some hname
      exact htag tag rest hne hitems
    simp only [ofValue, hhead]
  | unknown tag args hne hdefine htransport =>
    simp only [ofValue, Expression.headName?, symbolName?_marked hne, if_neg hdefine,
      if_neg htransport]
  | defineArity args hlength =>
    rw [ofValue_define, defineOfArgs]
    rintro name body rfl
    exact hlength rfl
  | defineName name body hflaw =>
    rw [ofValue_define, defineOfArgs, stringArg_of_not_string _ hflaw]
    rfl
  | transportArity args hthree hfour =>
    rw [ofValue_defTransport, defTransportOfArgs]
    · rintro name type priority rfl
      exact hthree rfl
    · rintro name type priority options rfl
      exact hfour rfl
  | transportName name type priority trailing hlength hflaw =>
    obtain ⟨options, _, heq⟩ := defTransportOfArgs_eq hlength name type priority
    rw [ofValue_defTransport, heq, defTransportOfArgs.transport, stringArg_of_not_string _ hflaw]
    rfl
  | transportType name type priority trailing hlength hflaw =>
    obtain ⟨options, _, heq⟩ := defTransportOfArgs_eq hlength (.string name) type priority
    rw [ofValue_defTransport, heq, defTransportOfArgs.transport, stringArg_of_not_string _ hflaw]
    rfl
  | transportPriority name type priority trailing hlength hflaw =>
    obtain ⟨options, _, heq⟩ :=
      defTransportOfArgs_eq hlength (.string name) (.string type) priority
    rw [ofValue_defTransport, heq, defTransportOfArgs.transport, integerArg,
      Json.Value.int64?_eq_none_iff.mpr hflaw]
    rfl

theorem ofValue_eq_ok_iff {value : Json.Value} {instruction : Instruction} :
    ofValue value = .ok instruction ↔ Written value instruction := by
  refine ⟨fun h => ?_, Written.ofValue_eq⟩
  have hverdict := ofValue_verdict value
  rw [h] at hverdict
  cases hverdict with
  | written hwritten => exact hwritten

theorem ofValue_eq_error_iff {value : Json.Value} {error : Error} :
    ofValue value = .error error ↔
      ∃ message, Flawed value message ∧ error = .invalidProgram message := by
  constructor
  · intro h
    have hverdict := ofValue_verdict value
    rw [h] at hverdict
    cases hverdict with
    | flawed hflawed => exact ⟨_, hflawed, rfl⟩
  · rintro ⟨message, hflawed, rfl⟩
    exact hflawed.ofValue_eq

end Instruction

namespace Program

/-- What is wrong with a value that is no plan, as it is worded: it is no list, or else what is
wrong with the first of its elements that is no instruction. -/
inductive Flawed : Json.Value → String → Prop where
  | notList (value : Json.Value) : value.array? = none → Flawed value "program is not a list"
  | element {before : List Json.Value} {program : Program} {value : Json.Value} {message : String}
      (after : List Json.Value) :
    List.Forall₂ Instruction.Written before program → Instruction.Flawed value message →
    Flawed (.array (before ++ value :: after)) message

/-- A value is read as a plan exactly if it is an array of written instructions, which are the plan
in order; and it is refused exactly if it is flawed, as an invalid program, in the words for its
flaw. -/
theorem ofValue_iff (value : Json.Value) (program : Program) (error : Error) :
    (ofValue value = .ok program ↔
      ∃ items, value = .array items ∧ List.Forall₂ Instruction.Written items program) ∧
    (ofValue value = .error error ↔
      ∃ message, Flawed value message ∧ error = .invalidProgram message) := by
  cases value with
  | array items =>
    have hwritten : ∀ {before : List Json.Value} {instructions : Program},
        List.Forall₂ (fun x y => Instruction.ofValue x = .ok y) before instructions ↔
          List.Forall₂ Instruction.Written before instructions := by
      simp only [Instruction.ofValue_eq_ok_iff, iff_self, implies_true]
    simp only [ofValue, mapM_eq_ok_iff, mapM_eq_error_iff, hwritten]
    refine ⟨⟨fun h => ⟨items, rfl, h⟩, fun ⟨_, hitems, h⟩ => Json.Value.array.inj hitems ▸ h⟩, ?_⟩
    constructor
    · rintro ⟨before, x, after, instructions, rfl, hbefore, hx⟩
      obtain ⟨message, hflawed, rfl⟩ := Instruction.ofValue_eq_error_iff.mp hx
      exact ⟨message, .element after hbefore hflawed, rfl⟩
    · rintro ⟨message, hflawed, rfl⟩
      cases hflawed with
      | notList value hlist => cases hlist
      | element after hbefore hflawed =>
        exact ⟨_, _, after, _, rfl, hbefore, hflawed.ofValue_eq⟩
  | _ =>
    refine ⟨⟨nofun, fun ⟨_, hitems, _⟩ => by cases hitems⟩, fun h => ?_, ?_⟩
    · cases h
      exact ⟨_, .notList _ rfl, rfl⟩
    · rintro ⟨message, hflawed, rfl⟩
      cases hflawed
      rfl

end Program

end Dialplan
