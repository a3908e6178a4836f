import Dialplan.Proofs.Json.Records

/-! Reading records. A record is read from the written form of an object as the object is decoded,
with its fields in any order and with any fields of other names among them, and from the written
form of an array in the same way. So the codec of a lawful schema is lawful. -/

namespace Dialplan.Json

/-- The written form of the fields of an object from some field on. -/
def fieldsText : Bool → Fields → List Char
  | _, [] => []
  | first, (name, v) :: fields =>
    (if first then [] else [',']) ++ (quote name ++ ':' :: (v.render ++ fieldsText false fields))

theorem renderFields_eq : ∀ fields : Fields, renderFields fields = fieldsText true fields
  | [] => rfl
  | [(name, v)] => by simp [renderFields, fieldsText]
  | (name, v) :: next :: fields => by
    simp [renderFields, fieldsText, renderFields_eq (next :: fields)]

theorem delimited_fieldsText (fields : Fields) (rest : List Char) :
    Delimited (fieldsText false fields ++ '\x7d' :: rest) := by
  cases fields with
  | nil => exact delimited_brace rest
  | cons field fields => exact delimited_comma _

theorem length_le_fieldsText (fields : Fields) (first : Bool) :
    fields.length ≤ (fieldsText first fields).length := by
  induction fields generalizing first with
  | nil => simp
  | cons field fields ih =>
    have := ih false
    simp only [fieldsText, quote, List.length_cons, List.length_append]
    omega

theorem moreFields_end (first : Bool) {c : Cursor} {rest : List Char}
    (hc : c.rest = '\x7d' :: rest) : moreFields first c = .ok (false, c) := by
  simp only [moreFields, Cursor.skipBlanks_cons hc (by decide), hc]

/-- Before a field, after the comma that may stand there, there is one more. -/
theorem moreFields_field (first : Bool) (name : String) {c : Cursor} {rest : List Char}
    (hc : c.rest = (if first then [] else [',']) ++ (quote name ++ rest)) :
    ∃ left, moreFields first c = .ok (true, left) ∧
      left.rest = name.toList.flatMap escapeChar ++ '"' :: rest := by
  rw [quote_append] at hc
  cases first with
  | true =>
    refine ⟨c.step, ?_, Cursor.rest_step hc⟩
    have hquote : c.rest = '"' :: (name.toList.flatMap escapeChar ++ '"' :: rest) := hc
    simp [moreFields, Cursor.skipBlanks_cons hquote (by decide), hquote]
  | false =>
    have hcomma : c.rest = ',' :: '"' :: (name.toList.flatMap escapeChar ++ '"' :: rest) := hc
    have hquote := Cursor.rest_step hcomma
    refine ⟨c.step.step, ?_, Cursor.rest_step hquote⟩
    simp [moreFields, Cursor.skipBlanks_cons hcomma (by decide), hcomma,
      Cursor.skipBlanks_cons hquote (by decide), hquote]

namespace Record

variable {ρ : Type} {schema : Record ρ} {depth : Nat}

/-- The record, unless a required field has not been seen. -/
def complete (schema : Record ρ) (seen : List String) (record : ρ) : Except Cause ρ :=
  match schema.missing? seen with
  | some name => .error (.missingField name)
  | none => .ok record

theorem ofValue_object (fields : Fields) :
    (schema.codec.ofValue (.object fields)).toOption =
      (schema.ofFields fields schema.blank >>= schema.complete (Table.names fields)).toOption := by
  cases hdecoded : schema.ofFields fields schema.blank with
  | error cause =>
    simp only [codec, hdecoded]
    cases schema.missing? (Table.names fields) <;> rfl
  | ok record =>
    change _ = (schema.complete (Table.names fields) record).toOption
    simp only [codec, complete, hdecoded]
    cases schema.missing? (Table.names fields) <;> rfl

/-- At the closing brace an object comes to its record, if it is complete. -/
theorem readObject_end (d fuel : Nat) (seen : List String) (record : ρ) (first : Bool) {c : Cursor}
    {rest : List Char} (hc : c.rest = '\x7d' :: rest) :
    Follows (schema.readObject d (fuel + 1) seen record first c) (schema.complete seen record)
      rest := by
  simp only [readObject, moreFields_end first hc, bind, Except.bind, Bool.false_eq_true,
    ↓reduceIte, complete]
  cases schema.missing? seen with
  | some name => exact ⟨_, rfl⟩
  | none => exact .of_ok rfl (Cursor.rest_step hc)

theorem known_cons {name : String} (h : schema.knows name = true) (v : Value) (fields : Fields) :
    schema.known ((name, v) :: fields) = (name, v) :: schema.known fields :=
  List.filter_cons_of_pos h

theorem known_cons_unknown {name : String} (h : schema.knows name = false) (v : Value)
    (fields : Fields) : schema.known ((name, v) :: fields) = schema.known fields :=
  List.filter_cons_of_neg (by simp [h])

/-- From the first of its fields on, an object is read as the fields are decoded. -/
theorem Lawful.readObject_follows (h : schema.Lawful depth) {d : Nat} (hd : depth < d)
    (fields : Fields) (hlegible : schema.Legible fields) (first : Bool) {fuel : Nat}
    (hfuel : fields.length < fuel) {seen : List String}
    (hseen : ∀ name ∈ Table.names (schema.known fields), name ∉ seen) (record : ρ) {c : Cursor}
    {rest : List Char} (hc : c.rest = fieldsText first fields ++ '\x7d' :: rest) :
    Follows (schema.readObject d fuel seen record first c)
      (schema.ofFields fields record >>=
        schema.complete ((Table.names (schema.known fields)).reverse ++ seen)) rest := by
  -- on the fields that are left; the names of the known ones before them are in `seen`
  induction fields generalizing first fuel seen record c with
  | nil =>
    obtain ⟨fuel, rfl⟩ := Nat.exists_eq_add_one_of_ne_zero (Nat.ne_zero_of_lt hfuel)
    exact readObject_end d fuel seen record first hc
  | cons field fields ih =>
    obtain ⟨name, v⟩ := field
    obtain ⟨fuel, rfl⟩ := Nat.exists_eq_add_one_of_ne_zero (Nat.ne_zero_of_lt hfuel)
    replace hfuel := Nat.lt_of_succ_lt_succ hfuel
    simp only [fieldsText, List.append_assoc, List.cons_append] at hc
    obtain ⟨quoted, hmore, hquoted⟩ := moreFields_field first name hc
    obtain ⟨colon, hname, hcolon⟩ := readString_quoted name hquoted
    obtain ⟨value, hreadColon, hvalue⟩ := readColon_cons hcolon
    have hdelimited := delimited_fieldsText fields rest
    cases hknows : schema.knows name with
    | true =>
      -- a known field is new, so it is filled in
      obtain ⟨found, hfound⟩ := Option.isSome_iff_exists.1 hknows
      obtain ⟨hnames, hproper⟩ := hlegible
      rw [known_cons hknows] at hnames hproper hseen ⊢
      obtain ⟨hname_notMem, hnames⟩ := List.nodup_cons.1 hnames
      have hfresh : seen.contains name = false := by
        simpa using hseen name List.mem_cons_self
      have hread : schema.readObject d (fuel + 1) seen record first c =
          found.read d value >>= fun read =>
            schema.readObject d fuel (name :: seen) (read.1 record) false read.2 := by
        simp only [readObject, hmore, hname, hfound, hfresh, hreadColon, bind, Except.bind,
          Bool.false_eq_true, ↓reduceIte]
      have hseen_names : (Table.names ((name, v) :: schema.known fields)).reverse ++ seen =
          (Table.names (schema.known fields)).reverse ++ name :: seen := by
        simp [Table.names]
      rw [hread, ofFields_cons hfound, hseen_names, bind_assoc]
      refine ((h.fields found (name_of_find? hfound).1).follows (hproper _ List.mem_cons_self) hd
        hvalue hdelimited).bind ?_
      intro fill left _ hleft
      refine ih ⟨hnames, fun field hfield => hproper field (List.mem_cons_of_mem _ hfield)⟩ false
        hfuel ?_ (fill record) hleft
      intro other hother hmem
      rcases List.mem_cons.1 hmem with rfl | hmem
      · exact hname_notMem hother
      · exact hseen other (List.mem_cons_of_mem _ hother) hmem
    | false =>
      -- an unknown one is stepped over
      have hnone := Option.not_isSome_iff_eq_none.1 (Bool.not_eq_true _ ▸ hknows)
      obtain ⟨left, hskip, hleft⟩ := skipValue_render v hvalue hdelimited
      obtain ⟨hnames, hproper⟩ := hlegible
      rw [known_cons_unknown hknows] at hnames hproper hseen ⊢
      have hread : schema.readObject d (fuel + 1) seen record first c =
          schema.readObject d fuel seen record false left := by
        simp only [readObject, hmore, hname, hnone, hreadColon, hskip, bind, Except.bind,
          ↓reduceIte]
      rw [hread, ofFields_cons_unknown hknows]
      exact ih ⟨hnames, hproper⟩ false hfuel hseen record hleft

/-! ### Arrays -/

/-- Only the closing bracket ends an array. -/
theorem readListEnd_fails {c : Cursor} (hblank : c.skipBlanks = c)
    (h : ∀ more, c.rest ≠ ']' :: more) : ∃ fault, readListEnd c = .error fault := by
  rw [readListEnd, hblank]
  split
  · next heq => exact absurd heq (h _)
  · dsimp only
    split <;> exact ⟨_, rfl⟩
  · exact ⟨_, rfl⟩
  · exact ⟨_, rfl⟩

/-- An array that has an item more than there are fields does not end where they do. -/
theorem readListEnd_item (first : Bool) (item : Value) (items : List Value) {c : Cursor}
    {rest : List Char} (hc : c.rest = itemsText first (item :: items) ++ rest) :
    ∃ fault, readListEnd c = .error fault := by
  cases first with
  | true =>
    replace hc : c.rest = item.render ++ (itemsText false items ++ rest) := by
      simpa [itemsText] using hc
    have hopening : item.opening ≠ some ']' := by
      cases item with
      | bool b => cases b <;> simp [Value.opening]
      | _ => simp [Value.opening]
    exact readListEnd_fails (Value.skipBlanks_render hc)
      (Value.rest_ne_of_render hc hopening (by decide))
  | false =>
    replace hc : c.rest = ',' :: ((item.render ++ itemsText false items) ++ rest) := hc
    exact readListEnd_fails (Cursor.skipBlanks_cons hc (by decide)) (by simp [hc])

/-- From some item on, an array is read as the items are decoded. -/
theorem readArray_follows {d : Nat} (hd : depth < d) (length : Nat) (fields : List (Field ρ))
    (hfields : ∀ field ∈ fields, field.Lawful depth) (items : List Value)
    (hitems : ∀ item ∈ items, item.Proper) (count : Nat) (record : ρ) {c : Cursor}
    {rest : List Char} (hc : c.rest = itemsText (count = 0) items ++ ']' :: rest) :
    Follows (schema.readArray d fields count record c)
      (schema.ofItems length fields items record) rest := by
  induction fields generalizing items count record c with
  | nil =>
    cases items with
    | nil =>
      refine .of_ok (c := c.step) ?_ (Cursor.rest_step hc)
      have hend : readListEnd c = .ok c.step := by
        simp only [readListEnd, Cursor.skipBlanks_cons hc (by decide), hc, itemsText,
          List.nil_append]
      simp only [readArray, hend, bind, Except.bind]
    | cons item items =>
      obtain ⟨fault, hend⟩ := readListEnd_item _ item items hc
      exact ⟨fault, by simp only [readArray, hend, bind, Except.bind]⟩
  | cons field fields ih =>
    cases items with
    | nil =>
      simp only [readArray, moreItems_end _ hc, bind, Except.bind, Bool.false_eq_true, ↓reduceIte,
        ofItems]
      split
      · exact .of_ok rfl (Cursor.rest_step hc)
      · exact ⟨_, rfl⟩
    | cons item items =>
      rw [itemsText, List.append_assoc, List.append_assoc] at hc
      obtain ⟨left, hmore, hleft⟩ := moreItems_item (decide (count = 0)) hc
      have hread : schema.readArray d (field :: fields) count record c =
          field.read d left >>= fun read =>
            schema.readArray d fields (count + 1) (read.1 record) read.2 := by
        simp only [readArray, hmore, bind, Except.bind, ↓reduceIte]
      rw [hread, ofItems]
      refine ((hfields field List.mem_cons_self).follows (hitems item List.mem_cons_self) hd hleft
        (delimited_itemsText _ _)).bind ?_
      intro fill next _ hnext
      exact ih (fun f hf => hfields f (List.mem_cons_of_mem _ hf)) items
        (fun i hi => hitems i (List.mem_cons_of_mem _ hi)) (count + 1) (fill record)
        (by simpa using hnext)

/-! ### The codec -/

theorem mem_names_known {name : String} (h : schema.knows name = true) (fields : Fields) :
    name ∈ Table.names (schema.known fields) ↔ name ∈ Table.names fields := by
  simp only [Table.names, known, List.mem_map, List.mem_filter]
  constructor
  · rintro ⟨field, ⟨hmem, -⟩, heq⟩
    exact ⟨field, hmem, heq⟩
  · rintro ⟨field, hmem, heq⟩
    exact ⟨field, ⟨hmem, heq ▸ h⟩, heq⟩

/-- Only the names that the schema knows tell whether a record is complete. -/
theorem complete_congr {seen seen' : List String}
    (h : ∀ name, schema.knows name = true → (name ∈ seen ↔ name ∈ seen')) :
    schema.complete seen = schema.complete seen' := by
  funext record
  rw [complete, missing?_congr h, complete]

/-- An object is read from its text as it is decoded, whatever else stands in it. -/
theorem Lawful.read_object (h : schema.Lawful depth) {fields : Fields}
    (hlegible : schema.Legible fields) {d : Nat} (hd : depth + 1 < d) {c : Cursor}
    {rest : List Char} (hc : c.rest = (Value.object fields).render ++ rest) :
    Follows (schema.codec.read d c) (schema.codec.ofValue (.object fields)) rest := by
  have htext : c.rest = '\x7b' :: (fieldsText true fields ++ '\x7d' :: rest) := by
    simpa [Value.render, renderFields_eq] using hc
  have hread : schema.codec.read d c =
      schema.readObject (d - 1) (c.rest.length + 1) [] schema.blank true c.step := by
    simp only [codec, Value.skipBlanks_render hc, htext, if_neg (show ¬ d ≤ 1 by omega)]
  have hfuel : fields.length < c.rest.length + 1 := by
    have := length_le_fieldsText fields true
    simp only [htext, List.length_cons, List.length_append]
    omega
  have hseen : ∀ name ∈ Table.names (schema.known fields), name ∉ ([] : List String) := by simp
  have hfollows := h.readObject_follows (d := d - 1) (by omega) fields hlegible true hfuel hseen
    schema.blank (Cursor.rest_step htext)
  have hcomplete : schema.complete ((Table.names (schema.known fields)).reverse ++ []) =
      schema.complete (Table.names fields) :=
    complete_congr fun name hname => by simp [mem_names_known hname]
  rw [hcomplete] at hfollows
  rw [hread]
  exact hfollows.congr (ofValue_object fields).symm

theorem Lawful.codec_lawful (h : schema.Lawful depth) : schema.codec.Lawful (depth + 1) where
  decodes record := by
    have hnames : Table.names (schema.fields.map fun field => (field.name, field.toValue record)) =
        schema.fields.map Field.name := by
      simp [Table.names]
    have hcomplete : schema.missing? (schema.fields.map Field.name) = none := by
      simp only [missing?, Option.map_eq_none_iff, List.find?_eq_none]
      intro field hfield
      have hmem : (schema.fields.map Field.name).contains field.name = true :=
        List.contains_iff_mem.2 (List.mem_map_of_mem hfield)
      simp only [hmem, Bool.not_true, Bool.and_false, Bool.false_eq_true, not_false_eq_true]
    simp only [codec, hnames, hcomplete, h.ofFields_toFields]
  proper record := by
    refine .object ?_ ?_
    · simpa [Table.names, Function.comp_def] using h.names
    · intro field hfield
      obtain ⟨f, hf, rfl⟩ := List.mem_map.1 hfield
      exact (h.fields f hf).proper record
  follows {v d c rest} hv hd hc hr := by
    have hblank := Value.skipBlanks_render hc
    have refused (hlist : v.opening ≠ some '[') (hobject : v.opening ≠ some '\x7b') :
        schema.codec.read d c = refuse schema.expected c := by
      simp only [codec, hblank]
      split
      · next h => exact absurd h (Value.rest_ne_of_render hc hlist (by decide) _)
      · next h => exact absurd h (Value.rest_ne_of_render hc hobject (by decide) _)
      · rfl
    cases hv with
    | object names hproper => exact h.read_object (.of_proper (.object names hproper)) hd hc
    | @array items hitems =>
      have htext : c.rest = '[' :: (itemsText true items ++ ']' :: rest) := by
        simpa [Value.render, renderItems_eq] using hc
      have hread : schema.codec.read d c =
          schema.readArray (d - 1) schema.fields 0 schema.blank c.step := by
        simp only [codec, hblank, htext, if_neg (show ¬ d ≤ 1 by omega)]
      rw [hread]
      exact readArray_follows (by omega) items.length schema.fields h.fields items hitems 0
        schema.blank (Cursor.rest_step htext)
    | bool b =>
      cases b <;>
        exact Codec.follows_refuse
          (refused (by simp [Value.opening]) (by simp [Value.opening])) _ rest
    | null | number | string =>
      exact Codec.follows_refuse (refused (by simp [Value.opening]) (by simp [Value.opening])) _
        rest

end Record

end Dialplan.Json
