import Dialplan.Proofs.Json.Numbers

/-! Stepping over values. Whatever value nobody asked for, `skipValue` steps over its written form
and over nothing else. It keeps no call for an open bracket, but a stack of them: a value costs it
some of its fuel and leaves the stack as it was, to be closed by what follows the value. -/

namespace Dialplan.Json

/-! ### Where values start -/

/-- The character that every written form of a kind of value starts with. Numbers have none. -/
def Value.opening : Value → Option Char
  | .null => some 'n'
  | .bool true => some 't'
  | .bool false => some 'f'
  | .number _ => none
  | .string _ => some '"'
  | .array _ => some '['
  | .object _ => some '\x7b'

/-- Can the written form of a value start with a character? -/
def Value.StartsWith (v : Value) (c : Char) : Prop :=
  match v.opening with
  | some opening => c = opening
  | none => c = '-' ∨ isDigit c = true

theorem Value.render_eq_cons (v : Value) :
    ∃ first more, v.render = first :: more ∧ v.StartsWith first := by
  cases v with
  | null => exact ⟨_, _, rfl, rfl⟩
  | bool b => cases b <;> exact ⟨_, _, rfl, rfl⟩
  | number n =>
    obtain ⟨negative, text, hrender, ⟨ht⟩⟩ := n.render_eq
    obtain ⟨first, more, rfl, hfirst⟩ := ht.eq_cons
    cases negative with
    | true => exact ⟨'-', first :: more, hrender, .inl rfl⟩
    | false => exact ⟨first, more, hrender, .inr hfirst⟩
  | string text => exact ⟨_, _, rfl, rfl⟩
  | array items => exact ⟨_, _, rfl, rfl⟩
  | object fields => exact ⟨_, _, rfl, rfl⟩

theorem Value.StartsWith.of_render {v : Value} {c : Cursor} {rest : List Char}
    (hc : c.rest = v.render ++ rest) :
    ∃ first more, c.rest = first :: more ∧ v.StartsWith first := by
  obtain ⟨first, more, hv, hfirst⟩ := v.render_eq_cons
  exact ⟨first, more ++ rest, by rw [hc, hv, List.cons_append], hfirst⟩

theorem not_special_of_isDigit {c : Char} (h : isDigit c = true) :
    Cursor.isBlank c = false ∧ c ≠ ']' ∧ c ≠ 'n' ∧ c ≠ 't' ∧ c ≠ 'f' ∧ c ≠ '-' ∧ c ≠ '"' ∧
      c ≠ '[' ∧ c ≠ '\x7b' := by
  refine ⟨?_, ?_, ?_, ?_, ?_, ?_, ?_, ?_, ?_⟩
  · by_contra hb
    simp only [Cursor.isBlank, Bool.not_eq_false, Bool.or_eq_true, decide_eq_true_eq] at hb
    rcases hb with ((rfl | rfl) | rfl) | rfl <;> exact absurd h (by decide)
  all_goals
    rintro rfl
    exact absurd h (by decide)

/-- No value starts with a blank or with a bracket that closes a list. -/
theorem Value.StartsWith.not_blank {v : Value} {c : Char} (h : v.StartsWith c) :
    Cursor.isBlank c = false ∧ c ≠ ']' := by
  cases v with
  | bool b => cases b <;> (cases h; decide)
  | number n =>
    rcases h with rfl | h
    · decide
    · exact ⟨(not_special_of_isDigit h).1, (not_special_of_isDigit h).2.1⟩
  | null | string _ | array _ | object _ => cases h; decide

theorem Value.skipBlanks_render {v : Value} {c : Cursor} {rest : List Char}
    (hc : c.rest = v.render ++ rest) : c.skipBlanks = c := by
  obtain ⟨first, more, hfirst, hstarts⟩ := Value.StartsWith.of_render hc
  exact Cursor.skipBlanks_cons hfirst hstarts.not_blank.1

/-- What is no number does not start as one. -/
theorem Value.not_number_of_render {v : Value} (hv : v.opening ≠ none) {c : Cursor}
    {rest : List Char} (hc : c.rest = v.render ++ rest) {first : Char} {more : List Char}
    (h : c.rest = first :: more) : first ≠ '-' ∧ isDigit first = false := by
  obtain ⟨_, _, hfirst, hstarts⟩ := Value.StartsWith.of_render hc
  obtain ⟨rfl, -⟩ := List.cons.inj (hfirst.symm.trans h)
  cases v with
  | bool b => cases b <;> (cases hstarts; decide)
  | number n => exact absurd rfl hv
  | null | string _ | array _ | object _ => cases hstarts; decide

/-- A value does not start as one of another kind. -/
theorem Value.rest_ne_of_render {v : Value} {c : Cursor} {rest : List Char}
    (hc : c.rest = v.render ++ rest) {other : Char} (hv : v.opening ≠ some other)
    (ho : other ≠ '-' ∧ isDigit other = false) (more : List Char) : c.rest ≠ other :: more := by
  intro h
  obtain ⟨_, _, hfirst, hstarts⟩ := Value.StartsWith.of_render hc
  obtain ⟨rfl, -⟩ := List.cons.inj (hfirst.symm.trans h)
  unfold StartsWith at hstarts
  split at hstarts
  · next opening hopening => exact hv (by rw [hopening, hstarts])
  · rcases hstarts with rfl | hdigit
    · exact ho.1 rfl
    · rw [ho.2] at hdigit
      cases hdigit

/-! ### Leaves -/

theorem skipToken_digit {c : Cursor} {first : Char} {more : List Char}
    (hc : c.rest = first :: more) (h : isDigit first = true) :
    skipToken c = (do return (none, ← skipNumber c)) := by
  obtain ⟨-, -, hn, ht, hf, hminus, hquote, hlist, hobject⟩ := not_special_of_isDigit h
  simp only [skipToken, hc, h, ↓reduceIte]

/-- A step over a leaf as a step over a token. -/
theorem Stops.leaf {result : Except Fault Cursor} {rest : List Char} (h : Stops result rest) :
    ∃ left, left.rest = rest ∧
      (do return (none, ← result) : Except Fault (Option Bracket × Cursor)) =
        .ok (none, left) := by
  obtain ⟨left, rfl, hrest⟩ := h
  exact ⟨left, hrest, rfl⟩

theorem skipToken_number (n : Number) {c : Cursor} {rest : List Char} (hr : Delimited rest)
    (hc : c.rest = n.render ++ rest) :
    ∃ left, left.rest = rest ∧ skipToken c = .ok (none, left) := by
  obtain ⟨negative, text, hrender, ⟨ht⟩⟩ := n.render_eq
  rw [hrender] at hc
  cases negative with
  | true =>
    have htoken : skipToken c = (do return (none, ← skipNumber c.step)) := by
      simp only [skipToken, hc, ↓reduceIte, List.cons_append]
    rw [htoken]
    exact (skipNumber_append ht hr (Cursor.rest_step hc)).leaf
  | false =>
    obtain ⟨first, more, htext, hfirst⟩ := ht.eq_cons
    replace hc : c.rest = text ++ rest := hc
    -- no other token starts with a digit
    have hdigit : c.rest = first :: (more ++ rest) := by rw [hc, htext, List.cons_append]
    rw [skipToken_digit hdigit hfirst]
    exact (skipNumber_append ht hr hc).leaf

theorem skipToken_string (text : String) {c : Cursor} {rest : List Char}
    (hc : c.rest = quote text ++ rest) :
    ∃ left, left.rest = rest ∧ skipToken c = .ok (none, left) := by
  rw [quote_append] at hc
  have htoken : skipToken c = (do return (none, ← skipString c.step)) := by
    simp only [skipToken, hc]
  rw [htoken]
  exact (skipString_quoted text (Cursor.rest_step hc)).leaf

/-! ### Brackets -/

/-- Closes what a value was the last item of. -/
def closeThen (outer : List Bracket) (c : Cursor) :
    Except Fault (Option (Bracket × List Bracket) × Cursor) :=
  match outer with
  | [] => .ok (none, c)
  | inner :: outer => skipClosing (c.rest.length + 1) true inner outer c

/-- Goes on with the next item of the innermost open bracket, if one is open. -/
def resume (fuel : Nat) : Option (Bracket × List Bracket) × Cursor → Except Fault Cursor
  | (none, c) => .ok c
  | (some (inner, outer), c) => do
    let c ← if inner = .object then skipName c else .ok c
    skipValues fuel (inner :: outer) c

theorem skipValues_succ (fuel : Nat) (outer : List Bracket) (c : Cursor) :
    skipValues (fuel + 1) outer c = (do
      let (opened, c) ← skipToken c.skipBlanks
      match opened with
      | some inner =>
        skipClosing (c.rest.length + 1) false inner outer c >>= resume fuel
      | none => closeThen outer c >>= resume fuel) := by
  rw [skipValues]
  cases skipToken c.skipBlanks with
  | error fault => rfl
  | ok token =>
    obtain ⟨opened, left⟩ := token
    cases opened with
    | some inner => rfl
    | none => cases outer <;> rfl

/-- The character that closes a bracket. -/
def Bracket.closing : Bracket → Char
  | .list => ']'
  | .object => '\x7d'

/-- A closing bracket closes the innermost open one, whether or not an item came before it. -/
theorem skipClosing_closing (inner : Bracket) (outer : List Bracket) (afterItem : Bool)
    {c : Cursor} {rest : List Char} (hc : c.rest = inner.closing :: rest) :
    skipClosing (c.rest.length + 1) afterItem inner outer c = closeThen outer c.step := by
  have hstep := Cursor.rest_step hc
  have hblank : c.skipBlanks = c := Cursor.skipBlanks_cons hc (by cases inner <;> decide)
  rw [skipClosing.eq_def]
  dsimp only
  rw [hblank]
  cases inner <;> cases outer <;>
    simp [hc, Bracket.closing, closeThen, hstep]

theorem closeThen_comma (inner : Bracket) (outer : List Bracket) {c : Cursor}
    {rest : List Char} (hc : c.rest = ',' :: rest) :
    closeThen (inner :: outer) c = .ok (some (inner, outer), c.step) := by
  rw [closeThen, skipClosing.eq_def]
  dsimp only
  rw [Cursor.skipBlanks_cons hc (by decide)]
  simp [hc]

/-- An opened bracket that is not closed at once stands before its first item. -/
theorem skipClosing_item (inner : Bracket) (outer : List Bracket) (fuel : Nat) {c : Cursor}
    {first : Char} {more : List Char} (hc : c.rest = first :: more)
    (hb : Cursor.isBlank first = false) (hclosing : first ≠ inner.closing) :
    skipClosing (fuel + 1) false inner outer c = .ok (some (inner, outer), c) := by
  rw [skipClosing.eq_def]
  dsimp only
  rw [Cursor.skipBlanks_cons hc hb]
  cases inner <;> simp_all [Bracket.closing]

theorem readColon_cons {c : Cursor} {rest : List Char} (hc : c.rest = ':' :: rest) :
    Stops (readColon c) rest := by
  refine ⟨c.step, ?_, Cursor.rest_step hc⟩
  simp only [readColon, Cursor.skipBlanks_cons hc (by decide), hc]

theorem skipName_quoted (name : String) {c : Cursor} {rest : List Char}
    (hc : c.rest = quote name ++ ':' :: rest) : Stops (skipName c) rest := by
  rw [quote_append] at hc
  have hname : skipName c = skipString c.step >>= readColon := by
    simp only [skipName, Cursor.skipBlanks_cons hc (by decide), hc]
  rw [hname]
  exact (skipString_quoted name (Cursor.rest_step hc)).then fun left hleft => readColon_cons hleft

/-! ### Values -/

/-- Stepping over a value costs `spent` of the fuel and leaves what follows it to be closed. -/
def Skips (v : Value) (spent : Nat) : Prop :=
  ∀ fuel outer c rest, c.rest = v.render ++ rest → Delimited rest →
    ∃ left, left.rest = rest ∧
      skipValues (fuel + spent) outer c = closeThen outer left >>= resume fuel

/-- So it is from the first of the items of an array on, up to its bracket. -/
def SkipsItems (items : List Value) (spent : Nat) : Prop :=
  ∀ fuel outer c rest, c.rest = renderItems items ++ ']' :: rest →
    ∃ left, left.rest = rest ∧
      skipValues (fuel + spent) (.list :: outer) c = closeThen outer left >>= resume fuel

/-- And from the name of the first of the fields of an object on. -/
def SkipsFields (fields : Fields) (spent : Nat) : Prop :=
  ∀ fuel outer c rest, c.rest = renderFields fields ++ '\x7d' :: rest →
    ∃ left, left.rest = rest ∧
      resume (fuel + spent) (some (.object, outer), c) = closeThen outer left >>= resume fuel

theorem Skips.leaf {v : Value}
    (h : ∀ c rest, c.rest = v.render ++ rest → Delimited rest →
      ∃ left, left.rest = rest ∧ skipToken c = .ok (none, left)) : Skips v 1 := by
  intro fuel outer c rest hc hr
  obtain ⟨left, hleft, htoken⟩ := h c rest hc hr
  refine ⟨left, hleft, ?_⟩
  rw [skipValues_succ, Value.skipBlanks_render hc, htoken]
  rfl

theorem skips_ident {v : Value} {first : Char} {word : List Char} (hv : v.render = first :: word)
    (htoken : ∀ c more, c.rest = first :: more →
      skipToken c = (do return (none, ← readIdent word c.step))) : Skips v 1 := by
  refine Skips.leaf fun c rest hc _ => ?_
  rw [hv] at hc
  rw [htoken c _ hc]
  exact (readIdent_append word (Cursor.rest_step hc)).leaf

theorem SkipsItems.one {item : Value} {spent : Nat} (h : Skips item spent) :
    SkipsItems [item] spent := by
  intro fuel outer c rest hc
  obtain ⟨left, hleft, hskip⟩ := h fuel (.list :: outer) c _ hc (delimited_bracket rest)
  refine ⟨left.step, Cursor.rest_step hleft, ?_⟩
  rw [hskip, closeThen, skipClosing_closing .list outer true hleft]

theorem SkipsItems.cons {item next : Value} {items : List Value} {first later : Nat}
    (h : Skips item first) (hlater : SkipsItems (next :: items) later) :
    SkipsItems (item :: next :: items) (later + first) := by
  intro fuel outer c rest hc
  have hitem : c.rest = item.render ++ (',' :: (renderItems (next :: items) ++ ']' :: rest)) := by
    simpa [renderItems] using hc
  obtain ⟨comma, hcomma, hskip⟩ := h (fuel + later) (.list :: outer) c _ hitem (delimited_comma _)
  obtain ⟨left, hleft, hrest⟩ := hlater fuel outer comma.step rest (Cursor.rest_step hcomma)
  refine ⟨left, hleft, ?_⟩
  rw [← Nat.add_assoc, hskip, closeThen_comma _ _ hcomma, ← hrest]
  rfl

theorem SkipsFields.one {name : String} {v : Value} {spent : Nat} (h : Skips v spent) :
    SkipsFields [(name, v)] spent := by
  intro fuel outer c rest hc
  have hname : c.rest = quote name ++ ':' :: (v.render ++ '\x7d' :: rest) := by
    simpa [renderFields] using hc
  obtain ⟨value, hskipName, hvalue⟩ := skipName_quoted name hname
  obtain ⟨left, hleft, hskip⟩ := h fuel (.object :: outer) value _ hvalue (delimited_brace rest)
  refine ⟨left.step, Cursor.rest_step hleft, ?_⟩
  rw [resume, if_pos rfl, hskipName, ← skipClosing_closing .object outer true hleft]
  exact hskip

theorem SkipsFields.cons {name : String} {v : Value} {next : String × Value} {fields : Fields}
    {first later : Nat} (h : Skips v first) (hlater : SkipsFields (next :: fields) later) :
    SkipsFields ((name, v) :: next :: fields) (later + first) := by
  intro fuel outer c rest hc
  have hname : c.rest = quote name ++ ':' ::
      (v.render ++ (',' :: (renderFields (next :: fields) ++ '\x7d' :: rest))) := by
    simpa [renderFields] using hc
  obtain ⟨value, hskipName, hvalue⟩ := skipName_quoted name hname
  obtain ⟨comma, hcomma, hskip⟩ :=
    h (fuel + later) (.object :: outer) value _ hvalue (delimited_comma _)
  obtain ⟨left, hleft, hrest⟩ := hlater fuel outer comma.step rest (Cursor.rest_step hcomma)
  refine ⟨left, hleft, ?_⟩
  rw [closeThen_comma _ _ hcomma] at hskip
  rw [resume, if_pos rfl, hskipName, ← Nat.add_assoc, ← hrest]
  exact hskip

/-- A bracket that is closed at once. -/
theorem skips_empty {v : Value} (inner : Bracket) {opening : Char}
    (hv : v.render = [opening, inner.closing])
    (htoken : ∀ c more, c.rest = opening :: more → skipToken c = .ok (some inner, c.step)) :
    Skips v 1 := by
  intro fuel outer c rest hc _
  have hblank := Value.skipBlanks_render hc
  rw [hv] at hc
  have hstep : c.step.rest = inner.closing :: rest := Cursor.rest_step hc
  refine ⟨c.step.step, Cursor.rest_step hstep, ?_⟩
  rw [skipValues_succ, hblank, htoken c _ hc,
    ← skipClosing_closing inner outer false hstep]
  rfl

/-- A bracket that is opened before what starts with `first`. -/
theorem skipValues_opening {v : Value} {inner : Bracket} {opening first : Char} {c : Cursor}
    {rest more : List Char} (hc : c.rest = v.render ++ rest)
    (hv : v.render ++ rest = opening :: first :: more)
    (htoken : skipToken c = .ok (some inner, c.step)) (hb : Cursor.isBlank first = false)
    (hclosing : first ≠ inner.closing) (fuel : Nat) (outer : List Bracket) :
    skipValues (fuel + 1) outer c = resume fuel (some (inner, outer), c.step) := by
  have hstep : c.step.rest = first :: more := Cursor.rest_step (hc.trans hv)
  rw [skipValues_succ, Value.skipBlanks_render hc, htoken]
  exact congrArg (· >>= resume fuel) (skipClosing_item inner outer _ hstep hb hclosing)

theorem renderItems_eq_cons (item : Value) (items : List Value) :
    ∃ first more, renderItems (item :: items) = first :: more ∧ item.StartsWith first := by
  obtain ⟨first, more, hitem, hstarts⟩ := item.render_eq_cons
  cases items with
  | nil => exact ⟨first, more, hitem, hstarts⟩
  | cons next items =>
    exact ⟨first, more ++ ',' :: renderItems (next :: items), by simp [renderItems, hitem], hstarts⟩

theorem renderFields_eq_cons (field : String × Value) (fields : Fields) :
    ∃ more, renderFields (field :: fields) = '"' :: more := by
  cases fields <;> simp [renderFields, quote]

theorem Skips.array {item : Value} {items : List Value} {spent : Nat}
    (h : SkipsItems (item :: items) spent) : Skips (.array (item :: items)) (spent + 1) := by
  intro fuel outer c rest hc _
  obtain ⟨first, more, hitems, hstarts⟩ := renderItems_eq_cons item items
  have htext : (Value.array (item :: items)).render ++ rest =
      '[' :: (renderItems (item :: items) ++ ']' :: rest) := by simp [Value.render]
  have hopen : skipToken c = .ok (some .list, c.step) := by
    simp only [skipToken, hc, htext]
  obtain ⟨left, hleft, hskip⟩ := h fuel outer c.step rest (Cursor.rest_step (hc.trans htext))
  refine ⟨left, hleft, ?_⟩
  rw [← Nat.add_assoc, skipValues_opening hc (by rw [htext, hitems, List.cons_append]) hopen
    hstarts.not_blank.1 hstarts.not_blank.2, ← hskip]
  rfl

theorem Skips.object {field : String × Value} {fields : Fields} {spent : Nat}
    (h : SkipsFields (field :: fields) spent) : Skips (.object (field :: fields)) (spent + 1) := by
  intro fuel outer c rest hc _
  obtain ⟨more, hfields⟩ := renderFields_eq_cons field fields
  have htext : (Value.object (field :: fields)).render ++ rest =
      '\x7b' :: (renderFields (field :: fields) ++ '\x7d' :: rest) := by simp [Value.render]
  have hopen : skipToken c = .ok (some .object, c.step) := by
    simp only [skipToken, hc, htext]
  obtain ⟨left, hleft, hskip⟩ := h fuel outer c.step rest (Cursor.rest_step (hc.trans htext))
  refine ⟨left, hleft, ?_⟩
  rw [← Nat.add_assoc, skipValues_opening hc (by rw [htext, hfields, List.cons_append]) hopen
    (by decide) (by decide), hskip]

mutual

/-- Every value can be stepped over with fuel for as many steps as it has characters. -/
theorem exists_skips : ∀ v : Value, ∃ spent, spent ≤ v.render.length ∧ Skips v spent
  | .null => ⟨1, by simp [Value.render], skips_ident rfl fun c _ hc => by simp [skipToken, hc]⟩
  | .bool true =>
    ⟨1, by simp [Value.render], skips_ident rfl fun c _ hc => by simp [skipToken, hc]⟩
  | .bool false =>
    ⟨1, by simp [Value.render], skips_ident rfl fun c _ hc => by simp [skipToken, hc]⟩
  | .number n => by
    obtain ⟨_, _, hv, -⟩ := (Value.number n).render_eq_cons
    exact ⟨1, by simp [hv], .leaf fun c rest hc hr => skipToken_number n hr hc⟩
  | .string text =>
    ⟨1, by simp [Value.render, quote], .leaf fun c rest hc _ => skipToken_string text hc⟩
  | .array [] =>
    ⟨1, by simp [Value.render], skips_empty .list rfl fun c _ hc => by
      simp [skipToken, hc]⟩
  | .array (item :: items) => by
    obtain ⟨spent, hle, h⟩ := exists_skipsItems (item :: items) (by simp)
    exact ⟨spent + 1, by simp [Value.render]; omega, .array h⟩
  | .object [] =>
    ⟨1, by simp [Value.render], skips_empty .object rfl fun c _ hc => by
      simp [skipToken, hc]⟩
  | .object (field :: fields) => by
    obtain ⟨spent, hle, h⟩ := exists_skipsFields (field :: fields) (by simp)
    exact ⟨spent + 1, by simp [Value.render]; omega, .object h⟩

theorem exists_skipsItems : ∀ items : List Value, items ≠ [] →
    ∃ spent, spent ≤ (renderItems items).length ∧ SkipsItems items spent
  | [], h => absurd rfl h
  | [item], _ => by
    obtain ⟨spent, hle, h⟩ := exists_skips item
    exact ⟨spent, hle, .one h⟩
  | item :: next :: items, _ => by
    obtain ⟨first, hfirst, h⟩ := exists_skips item
    obtain ⟨later, hlater, hitems⟩ := exists_skipsItems (next :: items) (by simp)
    exact ⟨later + first, by simp [renderItems]; omega, .cons h hitems⟩

theorem exists_skipsFields : ∀ fields : List (String × Value), fields ≠ [] →
    ∃ spent, spent ≤ (renderFields fields).length ∧ SkipsFields fields spent
  | [], h => absurd rfl h
  | [(name, v)], _ => by
    obtain ⟨spent, hle, h⟩ := exists_skips v
    exact ⟨spent, by simp [renderFields]; omega, .one h⟩
  | (name, v) :: next :: fields, _ => by
    obtain ⟨first, hfirst, h⟩ := exists_skips v
    obtain ⟨later, hlater, hfields⟩ := exists_skipsFields (next :: fields) (by simp)
    exact ⟨later + first, by simp [renderFields]; omega, .cons h hfields⟩

end

/-- The written form of a value is stepped over, and nothing else. -/
theorem skipValue_render (v : Value) {c : Cursor} {rest : List Char}
    (hc : c.rest = v.render ++ rest) (hr : Delimited rest) : Stops (skipValue c) rest := by
  obtain ⟨spent, hle, h⟩ := exists_skips v
  have hfuel : spent ≤ c.rest.length + 1 := by
    rw [hc, List.length_append]
    omega
  obtain ⟨left, hleft, hskip⟩ := h (c.rest.length + 1 - spent) [] c rest hc hr
  rw [Nat.sub_add_cancel hfuel] at hskip
  exact ⟨left, hskip, hleft⟩

end Dialplan.Json
