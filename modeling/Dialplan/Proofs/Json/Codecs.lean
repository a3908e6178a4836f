import Dialplan.Proofs.Json.Skipping

/-! Laws of codecs. A codec is lawful when it decodes what it encodes, and when its reading of the
written form of a value goes as its decoding of the value: the same values are taken, the same
values are refused. -/

namespace Dialplan.Json

/-- A number of the kind that its written form is read as: what is not negative is not signed. -/
def Number.Proper : Number → Prop
  | .signed n => n < 0
  | _ => True

/-- A value as it can stand in a text. The names of an object's fields differ. -/
inductive Value.Proper : Value → Prop where
  | null : Proper .null
  | bool (b : Bool) : Proper (.bool b)
  | number {n : Number} (h : n.Proper) : Proper (.number n)
  | string (text : String) : Proper (.string text)
  | array {items : List Value} (h : ∀ item ∈ items, item.Proper) : Proper (.array items)
  | object {fields : Fields} (names : (Table.names fields).Nodup)
      (h : ∀ field ∈ fields, field.2.Proper) : Proper (.object fields)

/-- The laws of a codec for values of which arrays and objects nest at most `depth` deep. -/
structure Codec.Lawful {α : Type} (codec : Codec α) (depth : Nat) : Prop where
  decodes : ∀ a, codec.ofValue (codec.toValue a) = .ok a
  proper : ∀ a, (codec.toValue a).Proper
  follows : ∀ {v : Value} {d : Nat} {c : Cursor} {rest : List Char}, v.Proper → depth < d →
    c.rest = v.render ++ rest → Delimited rest → Follows (codec.read d c) (codec.ofValue v) rest

namespace Codec

/-! ### Leaves -/

theorem refuse_fails {α : Type} (expected : String) (c : Cursor) :
    ∃ fault, (refuse expected c : Except Fault α) = .error fault := by
  have after {β : Type} (result : Except Fault β) (fault : β → Fault) :
      ∃ f, (result >>= fun b => .error (fault b) : Except Fault α) = .error f := by
    cases result with
    | ok b => exact ⟨fault b, rfl⟩
    | error f => exact ⟨f, rfl⟩
  unfold refuse
  split
  · exact ⟨_, rfl⟩
  · exact after _ _
  · exact after _ _
  · exact after _ _
  · exact after (readNumber true c.step) _
  · exact after (readString c.step) _
  · exact ⟨_, rfl⟩
  · exact ⟨_, rfl⟩
  · split
    · exact after (readNumber false c) _
    · exact ⟨_, rfl⟩

/-- A value of the wrong kind is refused in a text as it is when it is decoded. -/
theorem follows_refuse {α : Type} {result : Except Fault (α × Cursor)} {expected : String}
    {c : Cursor} (h : result = refuse expected c) (cause : Cause) (rest : List Char) :
    Follows result (.error cause) rest := h ▸ refuse_fails expected c

theorem bool_lawful : bool.Lawful 0 where
  decodes _ := rfl
  proper b := .bool b
  follows {v d c rest} hv _ hc hr := by
    have hblank := Value.skipBlanks_render hc
    have word {b : Bool} {letters : List Char} (hletters : c.step.rest = letters ++ rest) :
        Follows (do return (b, ← readIdent letters c.step)) (.ok b) rest :=
      (readIdent_append letters hletters).bind fun left hleft => .of_ok rfl hleft
    have refused (ht : v.opening ≠ some 't') (hf : v.opening ≠ some 'f') :
        bool.read d c = refuse "a boolean" c := by
      simp only [bool, hblank]
      split
      · next h => exact absurd h (Value.rest_ne_of_render hc ht (by decide) _)
      · next h => exact absurd h (Value.rest_ne_of_render hc hf (by decide) _)
      · rfl
    cases hv with
    | bool b =>
      cases b with
      | true =>
        have hread : bool.read d c = (do return (true, ← readIdent ['r', 'u', 'e'] c.step)) := by
          simp only [bool, hblank, hc, Value.render, List.cons_append]
        exact hread ▸ word (Cursor.rest_step hc)
      | false =>
        have hread : bool.read d c =
            (do return (false, ← readIdent ['a', 'l', 's', 'e'] c.step)) := by
          simp only [bool, hblank, hc, Value.render, List.cons_append]
        exact hread ▸ word (Cursor.rest_step hc)
    | null | number | string | array | object =>
      exact follows_refuse (refused (by simp [Value.opening]) (by simp [Value.opening])) _ rest

theorem string_lawful : string.Lawful 0 where
  decodes _ := rfl
  proper text := .string text
  follows {v d c rest} hv _ hc hr := by
    have hblank := Value.skipBlanks_render hc
    have refused (hopening : v.opening ≠ some '"') : string.read d c = refuse "a string" c := by
      simp only [string, hblank]
      split
      · next h => exact absurd h (Value.rest_ne_of_render hc hopening (by decide) _)
      · rfl
    cases hv with
    | string text =>
      replace hc : c.rest = quote text ++ rest := hc
      rw [quote_append] at hc
      have hread : string.read d c = readString c.step := by
        simp only [string, hblank, hc]
      exact hread ▸ readString_quoted text (Cursor.rest_step hc)
    | bool b => cases b <;> exact follows_refuse (refused (by simp [Value.opening])) _ rest
    | null | number | array | object =>
      exact follows_refuse (refused (by simp [Value.opening])) _ rest

/-! ### Whole numbers -/

/-- A signed number is read back from its magnitude. -/
theorem wholeNumber_natAbs {n : Int64} (h : n < 0) :
    wholeNumber true n.toInt.natAbs = .signed n := by
  have hneg : n.toInt < 0 := by simpa [Int64.lt_iff_toInt_lt] using h
  have hleast := Int64.le_toInt n
  have hinner : ¬ (n.toInt.natAbs = 0 ∨ 1 <<< 63 < n.toInt.natAbs) := by
    rw [Nat.shiftLeft_eq]
    omega
  rw [wholeNumber, if_neg (by decide), if_neg hinner]
  congr
  rw [Int.ofNat_natAbs_of_nonpos (by omega), Int.neg_neg, Int64.ofInt_toInt]

theorem natAbs_lt_size {n : Int64} (h : n < 0) : n.toInt.natAbs < UInt64.size := by
  have hleast := Int64.le_toInt n
  have hneg : n.toInt < 0 := by simpa [Int64.lt_iff_toInt_lt] using h
  simp only [UInt64.size]
  omega

section

variable {α : Type} {expected : String} {ofNumber : Number → Option α} {toNumber : α → Number}

/-- What a codec of whole numbers makes of a number that has been read. -/
def accepted (expected : String) (ofNumber : Number → Option α)
    (result : Except Fault (Number × Cursor)) : Except Fault (α × Cursor) := do
  let (n, c) ← result
  match whole.accept expected ofNumber n with
  | .ok a => .ok (a, c)
  | .error cause => .error (c.fault cause)

theorem follows_accepted {n : Number} {result : Except Fault (Number × Cursor)}
    {rest : List Char} (hread : ∃ left, left.rest = rest ∧ result = .ok (n, left)) :
    Follows (accepted expected ofNumber result) (whole.accept expected ofNumber n) rest := by
  obtain ⟨left, hleft, rfl⟩ := hread
  cases h : whole.accept expected ofNumber n with
  | ok a => exact ⟨left, by simp [accepted, bind, Except.bind, h], hleft⟩
  | error cause => exact ⟨left.fault cause, by simp [accepted, bind, Except.bind, h]⟩

/-- Reals are refused, whatever they are read as. -/
theorem follows_accepted_real (hreal : ∀ x, ofNumber (.real x) = none)
    {result : Except Fault (Number × Cursor)} (hread : OnlyReal result) (x : Binary64)
    (rest : List Char) :
    Follows (accepted expected ofNumber result) (whole.accept expected ofNumber (.real x))
      rest := by
  have haccept (y : Binary64) :
      ∃ cause, whole.accept expected ofNumber (.real y) = .error cause := by
    simp [whole.accept, hreal]
  obtain ⟨cause, hcause⟩ := haccept x
  rw [hcause]
  cases result with
  | error fault => exact ⟨fault, rfl⟩
  | ok read =>
    obtain ⟨n, left⟩ := read
    obtain ⟨y, rfl⟩ := hread n left rfl
    obtain ⟨other, hother⟩ := haccept y
    exact ⟨left.fault other, by simp [accepted, bind, Except.bind, hother]⟩

theorem whole_lawful (hreal : ∀ x, ofNumber (.real x) = none)
    (hback : ∀ a, ofNumber (toNumber a) = some a) (hproper : ∀ a, (toNumber a).Proper) :
    (whole expected ofNumber toNumber).Lawful 0 where
  decodes a := by simp [whole, whole.accept, hback]
  proper a := .number (hproper a)
  follows {v d c rest} hv _ hc hr := by
    have hblank := Value.skipBlanks_render hc
    have refused (hopening : v.opening ≠ none) :
        (whole expected ofNumber toNumber).read d c = refuse expected c := by
      obtain ⟨first, more, hfirst, -⟩ := Value.StartsWith.of_render hc
      obtain ⟨hminus, hdigit⟩ := Value.not_number_of_render hopening hc hfirst
      simp only [whole, hblank, hfirst, hdigit, Bool.false_eq_true, ↓reduceIte]
    have signed {more : List Char} (hminus : c.rest = '-' :: more) :
        (whole expected ofNumber toNumber).read d c =
          accepted expected ofNumber (readNumber true c.step) := by
      simp only [whole, hblank, hminus]
      rfl
    have unsigned {text : List Char} (ht : NumberText text) (htext : c.rest = text ++ rest) :
        (whole expected ofNumber toNumber).read d c =
          accepted expected ofNumber (readNumber false c) := by
      obtain ⟨first, more, rfl, hfirst⟩ := ht.eq_cons
      have hminus := (not_special_of_isDigit hfirst).2.2.2.2.2.1
      simp only [whole, hblank, htext, List.cons_append, hfirst, ↓reduceIte]
      rfl
    cases hv with
    | @number n hn =>
      cases n with
      | unsigned n =>
        rw [unsigned (.ofDigits n.toNat) hc]
        refine follows_accepted ?_
        have := readNumber_toDigits n.toNat_lt_size hr hc false
        simpa [wholeNumber] using this
      | signed n =>
        rw [signed hc]
        refine follows_accepted ?_
        rw [← wholeNumber_natAbs hn]
        exact readNumber_toDigits (natAbs_lt_size hn) hr (Cursor.rest_step hc) true
      | real x =>
        -- what is read back need not be `x`, but it is a real
        obtain ⟨text, hrender, ht, htail⟩ := render_real x
        replace hc : c.rest = x.render ++ rest := hc
        rw [hrender] at hc
        cases hnegative : x.negative with
        | true =>
          rw [hnegative] at hc
          rw [signed hc]
          exact follows_accepted_real hreal
            (readNumber_onlyReal ht htail hr (Cursor.rest_step hc) true) x rest
        | false =>
          rw [hnegative] at hc
          rw [unsigned ht hc]
          exact follows_accepted_real hreal (readNumber_onlyReal ht htail hr hc false) x rest
    | bool b => cases b <;> exact follows_refuse (refused (by simp [Value.opening])) _ rest
    | null | string | array | object =>
      exact follows_refuse (refused (by simp [Value.opening])) _ rest

end

theorem uint64_lawful : uint64.Lawful 0 :=
  whole_lawful (fun _ => rfl) (fun _ => rfl) (fun _ => trivial)

/-- A word that is not negative is the same with and without a sign. -/
theorem toUInt64_lt {n : Int64} (h : ¬ n < 0) : n.toUInt64.toNat < 1 <<< 63 := by
  rw [Int64.lt_iff_toInt_lt] at h
  have hbits : n.toInt = n.toBitVec.toInt := rfl
  have hword : n.toUInt64.toNat = n.toBitVec.toNat := rfl
  rw [hbits, BitVec.toInt_eq_toNat_cond] at h
  rw [hword, Nat.shiftLeft_eq]
  split at h
  · omega
  · have := n.toBitVec.isLt
    simp at h
    omega

theorem toInt64?_ofInt64 (n : Int64) : (Number.ofInt64 n).toInt64? = some n := by
  unfold Number.ofInt64
  split
  · rfl
  · next h =>
    simp only [Number.toInt64?, toUInt64_lt h, ↓reduceIte]
    rfl

theorem int64_lawful : int64.Lawful 0 :=
  whole_lawful (fun _ => rfl) toInt64?_ofInt64 fun n => by
    unfold Number.ofInt64
    split
    · assumption
    · trivial

/-! ### Null -/

theorem optional_lawful {α : Type} {codec : Codec α} {depth : Nat} (h : codec.Lawful depth)
    (hnull : ∀ a, codec.toValue a ≠ .null) : (optional codec).Lawful depth where
  decodes
    | none => rfl
    | some a => by
      have hvalue : (optional codec).ofValue (codec.toValue a) =
          some <$> codec.ofValue (codec.toValue a) := by
        cases hv : codec.toValue a with
        | null => exact absurd hv (hnull a)
        | _ => rfl
      exact hvalue.trans (by rw [h.decodes]; rfl)
  proper
    | none => .null
    | some a => h.proper a
  follows {v d c rest} hv hd hc hr := by
    have hblank := Value.skipBlanks_render hc
    by_cases hopening : v.opening = some 'n'
    · obtain rfl : v = .null := by
        cases v with
        | null => rfl
        | bool b => cases b <;> exact absurd hopening (by simp [Value.opening])
        | _ => exact absurd hopening (by simp [Value.opening])
      have hread : (optional codec).read d c =
          (do return (none, ← readIdent ['u', 'l', 'l'] c.step)) := by
        simp only [optional, hblank, hc, Value.render, List.cons_append]
      rw [hread]
      exact (readIdent_append ['u', 'l', 'l'] (Cursor.rest_step hc)).bind
        fun left hleft => .of_ok rfl hleft
    · have hread : (optional codec).read d c =
          codec.read d c >>= fun read => .ok (some read.1, read.2) := by
        simp only [optional, hblank]
        split
        · next h => exact absurd h (Value.rest_ne_of_render hc hopening (by decide) _)
        · rfl
      have hvalue : (optional codec).ofValue v = codec.ofValue v >>= fun a => .ok (some a) := by
        cases v with
        | null => exact absurd rfl hopening
        | _ => cases hdecoded : codec.ofValue _ <;> simp [optional, hdecoded, bind, Except.bind]
      rw [hread, hvalue]
      exact (h.follows hv hd hc hr).bind fun a left _ hleft => .of_ok rfl hleft

end Codec

/-! ### Lists -/

/-- The written form of the items of an array from some item on. -/
def itemsText : Bool → List Value → List Char
  | _, [] => []
  | first, item :: items => (if first then [] else [',']) ++ (item.render ++ itemsText false items)

theorem renderItems_eq : ∀ items : List Value, renderItems items = itemsText true items
  | [] => rfl
  | [item] => by simp [renderItems, itemsText]
  | item :: next :: items => by
    simp [renderItems, itemsText, renderItems_eq (next :: items)]

theorem delimited_itemsText (items : List Value) (rest : List Char) :
    Delimited (itemsText false items ++ ']' :: rest) := by
  cases items with
  | nil => exact delimited_bracket rest
  | cons item items => exact delimited_comma _

theorem moreItems_end (first : Bool) {c : Cursor} {rest : List Char} (hc : c.rest = ']' :: rest) :
    moreItems first c = .ok (false, c) := by
  simp only [moreItems, Cursor.skipBlanks_cons hc (by decide), hc]

/-- Before an item, after the comma that may stand there, there is one more. -/
theorem moreItems_item (first : Bool) {v : Value} {c : Cursor} {rest : List Char}
    (hc : c.rest = (if first then [] else [',']) ++ (v.render ++ rest)) :
    ∃ left, moreItems first c = .ok (true, left) ∧ left.rest = v.render ++ rest := by
  obtain ⟨char, more, hv, hstarts⟩ := v.render_eq_cons
  obtain ⟨hblank, hbracket⟩ := hstarts.not_blank
  cases first with
  | true =>
    replace hc : c.rest = v.render ++ rest := hc
    refine ⟨c, ?_, hc⟩
    rw [hv] at hc
    rw [moreItems]
    simp only [Cursor.skipBlanks_cons hc hblank, hc, List.cons_append, ↓reduceIte]
  | false =>
    replace hc : c.rest = ',' :: (v.render ++ rest) := hc
    have hstep := Cursor.rest_step hc
    refine ⟨c.step, ?_, hstep⟩
    rw [hv] at hstep
    simp [moreItems, Cursor.skipBlanks_cons hc (by decide), hc,
      Cursor.skipBlanks_cons hstep hblank, hstep, hbracket]

namespace Codec

variable {α : Type} {codec : Codec α} {depth : Nat}

theorem readList_follows (h : codec.Lawful depth) {d : Nat} (hd : depth < d) (items : List Value)
    (hitems : ∀ item ∈ items, item.Proper) (first : Bool) {fuel : Nat}
    (hfuel : items.length < fuel) {c : Cursor} {rest : List Char}
    (hc : c.rest = itemsText first items ++ ']' :: rest) :
    Follows (readList codec d fuel first c) (items.mapM codec.ofValue) rest := by
  induction items generalizing first fuel c with
  | nil =>
    obtain ⟨fuel, rfl⟩ := Nat.exists_eq_add_of_lt hfuel
    refine .of_ok (c := c.step) ?_ (Cursor.rest_step hc)
    simp [readList, moreItems_end first hc, bind, Except.bind]
  | cons item items ih =>
    obtain ⟨fuel, rfl⟩ := Nat.exists_eq_add_one_of_ne_zero (Nat.ne_zero_of_lt hfuel)
    rw [itemsText, List.append_assoc, List.append_assoc] at hc
    obtain ⟨left, hmore, hleft⟩ := moreItems_item first hc
    rw [readList, hmore, List.mapM_cons]
    refine (h.follows (hitems item List.mem_cons_self) hd hleft (delimited_itemsText _ _)).bind ?_
    intro a next _ hnext
    refine (ih (fun i hi => hitems i (List.mem_cons_of_mem _ hi)) false
      (Nat.lt_of_succ_lt_succ hfuel) hnext).bind ?_
    intro as last _ hlast
    exact .of_ok rfl hlast

theorem length_le_itemsText (items : List Value) (first : Bool) :
    items.length ≤ (itemsText first items).length := by
  induction items generalizing first with
  | nil => simp
  | cons item items ih =>
    obtain ⟨char, more, hv, -⟩ := item.render_eq_cons
    have := ih false
    simp only [itemsText, hv, List.length_cons, List.length_append]
    omega

theorem list_lawful (h : codec.Lawful depth) : (list codec).Lawful (depth + 1) where
  decodes items := by
    have hitems : (items.map codec.toValue).mapM codec.ofValue = .ok items := by
      induction items with
      | nil => rfl
      | cons a items ih => rw [List.map_cons, List.mapM_cons, h.decodes, ih]; rfl
    exact hitems
  proper items := .array fun v hv => by
    obtain ⟨a, -, rfl⟩ := List.mem_map.1 hv
    exact h.proper a
  follows {v d c rest} hv hd hc hr := by
    have hblank := Value.skipBlanks_render hc
    have refused (hopening : v.opening ≠ some '[') :
        (list codec).read d c = refuse "a sequence" c := by
      simp only [list, hblank]
      split
      · next h => exact absurd h (Value.rest_ne_of_render hc hopening (by decide) _)
      · rfl
    cases hv with
    | @array items hitems =>
      have htext : c.rest = '[' :: (itemsText true items ++ ']' :: rest) := by
        simpa [Value.render, renderItems_eq] using hc
      have hread : (list codec).read d c =
          readList codec (d - 1) (c.rest.length + 1) true c.step := by
        simp only [list, hblank, htext, if_neg (show ¬ d ≤ 1 by omega)]
      rw [hread]
      refine readList_follows h (by omega) items hitems true ?_ (Cursor.rest_step htext)
      have := length_le_itemsText items true
      simp only [htext, List.length_cons, List.length_append]
      omega
    | bool b => cases b <;> exact follows_refuse (refused (by simp [Value.opening])) _ rest
    | null | number | string | object =>
      exact follows_refuse (refused (by simp [Value.opening])) _ rest

end Codec

end Dialplan.Json
