import Dialplan.Proofs.Json.Codecs
import Dialplan.Json.Record
import Mathlib.Data.List.Find
import Mathlib.Data.List.Pairwise

/-! Laws of records. A record's schema is lawful when its fields are, when filling in one field
leaves the others alone, and when filling in every field of a record gives the record. Its codec
is then lawful too: text with the fields in any order is read as the object is decoded. -/

namespace Dialplan.Json

/-! ### Fields -/

/-- What filling in this field from a record does. -/
def Field.copy {ρ : Type} (field : Field ρ) (record : ρ) : ρ → ρ :=
  match field.ofValue (field.toValue record) with
  | .ok fill => fill
  | .error _ => id

structure Field.Lawful {ρ : Type} (field : Field ρ) (depth : Nat) : Prop where
  copies : ∀ record, field.ofValue (field.toValue record) = .ok (field.copy record)
  proper : ∀ record, (field.toValue record).Proper
  follows : ∀ {v : Value} {d : Nat} {c : Cursor} {rest : List Char}, v.Proper → depth < d →
    c.rest = v.render ++ rest → Delimited rest → Follows (field.read d c) (field.ofValue v) rest

/-- Two fields that are filled in with the same result in either order. -/
def Field.Commutes {ρ : Type} (f g : Field ρ) : Prop :=
  ∀ u v p q, f.ofValue u = .ok p → g.ofValue v = .ok q → ∀ record, p (q record) = q (p record)

namespace Field

variable {ρ α β : Type} {name : String} {required : Bool} {codec : Codec α} {get : ρ → α}
  {set : α → ρ → ρ} {depth : Nat}

theorem copy_of (h : codec.Lawful depth) (record : ρ) :
    (Field.of name required codec get set).copy record = set (get record) := by
  simp [copy, Field.of, h.decodes, Functor.map, Except.map]

theorem of_lawful (h : codec.Lawful depth) {depth' : Nat} (hle : depth ≤ depth') :
    (Field.of name required codec get set).Lawful depth' where
  copies record := by
    rw [copy_of h]
    simp [Field.of, h.decodes, Functor.map, Except.map]
  proper record := h.proper (get record)
  follows {v d c rest} hv hd hc hr := by
    have hvalue : (Field.of name required codec get set).ofValue v =
        codec.ofValue v >>= fun a => .ok (set a) := by
      cases hdecoded : codec.ofValue v <;> simp [Field.of, hdecoded, bind, Except.bind]
    rw [hvalue]
    exact (h.follows hv (hle.trans_lt hd) hc hr).bind fun a left _ hleft => .of_ok rfl hleft

theorem of_commutes {name' : String} {required' : Bool} {codec' : Codec β} {get' : ρ → β}
    {set' : β → ρ → ρ} (h : ∀ a b record, set a (set' b record) = set' b (set a record)) :
    Commutes (Field.of name required codec get set)
      (Field.of name' required' codec' get' set') := by
  intro u v p q hp hq record
  cases hu : codec.ofValue u with
  | error cause => simp [Field.of, hu, Functor.map, Except.map] at hp
  | ok a =>
    cases hv : codec'.ofValue v with
    | error cause => simp [Field.of, hv, Functor.map, Except.map] at hq
    | ok b =>
      simp only [Field.of, hu, hv, Functor.map, Except.map, Except.ok.injEq] at hp hq
      rw [← hp, ← hq]
      exact h a b record

instance : Std.Symm (@Commutes ρ) where
  symm _ _ h u v p q hp hq record := (h v u q p hq hp record).symm

end Field

/-! ### Schemas -/

namespace Record

variable {ρ : Type}

structure Lawful (schema : Record ρ) (depth : Nat) : Prop where
  names : (schema.fields.map Field.name).Nodup
  fields : ∀ field ∈ schema.fields, field.Lawful depth
  commutes : schema.fields.Pairwise Field.Commutes
  restores : ∀ record,
    schema.fields.foldl (fun filled field => field.copy record filled) schema.blank = record

/-- Is it the name of a field? -/
def knows (schema : Record ρ) (name : String) : Bool :=
  (schema.fields.find? (·.name = name)).isSome

/-- The fields of an object that the schema has a use for. -/
def known (schema : Record ρ) (fields : Fields) : Fields :=
  fields.filter fun field => schema.knows field.1

/-- An object from which the schema's fields can be told: none stands twice, and their values can
stand in a text. -/
structure Legible (schema : Record ρ) (fields : Fields) : Prop where
  names : (Table.names (schema.known fields)).Nodup
  proper : ∀ field ∈ schema.known fields, field.2.Proper

theorem Legible.of_proper {schema : Record ρ} {fields : Fields} (h : (Value.object fields).Proper) :
    schema.Legible fields := by
  cases h with
  | object names h =>
    exact ⟨names.sublist (List.filter_sublist.map _),
      fun field hfield => h field (List.mem_filter.1 hfield).1⟩

theorem find?_of_mem {fields : List (Field ρ)} (names : (fields.map Field.name).Nodup)
    {field : Field ρ} (h : field ∈ fields) :
    fields.find? (·.name = field.name) = some field := by
  induction fields with
  | nil => cases h
  | cons first fields ih =>
    obtain ⟨hfirst, names⟩ := List.nodup_cons.1 names
    rcases List.mem_cons.1 h with rfl | h
    · simp
    · have hne : first.name ≠ field.name :=
        fun heq => hfirst (heq ▸ List.mem_map_of_mem h)
      rw [List.find?_cons_of_neg (by simpa using hne), ih names h]

theorem name_of_find? {schema : Record ρ} {name : String} {field : Field ρ}
    (h : schema.fields.find? (·.name = name) = some field) :
    field ∈ schema.fields ∧ field.name = name :=
  ⟨List.mem_of_find?_eq_some h, by simpa using List.find?_some h⟩

/-! ### Decoding objects -/

variable {schema : Record ρ} {depth : Nat}

theorem ofFields_cons {name : String} {field : Field ρ}
    (h : schema.fields.find? (·.name = name) = some field) (v : Value) (fields : Fields)
    (record : ρ) :
    schema.ofFields ((name, v) :: fields) record =
      field.ofValue v >>= fun fill => schema.ofFields fields (fill record) := by
  simp only [ofFields, h]

theorem ofFields_cons_unknown {name : String} (h : schema.knows name = false) (v : Value)
    (fields : Fields) (record : ρ) :
    schema.ofFields ((name, v) :: fields) record = schema.ofFields fields record := by
  simp only [ofFields, Option.not_isSome_iff_eq_none.1 (Bool.not_eq_true _ ▸ h)]

/-- Fields that the schema has no use for are left out of account. -/
theorem ofFields_known (fields : Fields) (record : ρ) :
    schema.ofFields (schema.known fields) record = schema.ofFields fields record := by
  induction fields generalizing record with
  | nil => rfl
  | cons field fields ih =>
    obtain ⟨name, v⟩ := field
    cases hknown : schema.knows name with
    | true =>
      obtain ⟨found, hfound⟩ := Option.isSome_iff_exists.1 hknown
      rw [known, List.filter_cons_of_pos (by exact hknown), ofFields_cons hfound,
        ofFields_cons hfound]
      exact congrArg (_ >>= ·) (funext fun fill => ih (fill record))
    | false =>
      rw [known, List.filter_cons_of_neg (by simp [hknown]), ofFields_cons_unknown hknown]
      exact ih record

/-- Filling in every field from a record gives the record. -/
theorem Lawful.ofFields_toFields (h : schema.Lawful depth) (record : ρ) :
    schema.ofFields (schema.fields.map fun field => (field.name, field.toValue record))
      schema.blank = .ok record := by
  have filled (fields : List (Field ρ)) (hsub : ∀ field ∈ fields, field ∈ schema.fields)
      (start : ρ) :
      schema.ofFields (fields.map fun field => (field.name, field.toValue record)) start =
        .ok (fields.foldl (fun filled field => field.copy record filled) start) := by
    induction fields generalizing start with
    | nil => rfl
    | cons field fields ih =>
      have hfield := hsub field List.mem_cons_self
      rw [List.map_cons, ofFields_cons (find?_of_mem h.names hfield),
        (h.fields field hfield).copies, List.foldl_cons]
      exact ih (fun other hother => hsub other (List.mem_cons_of_mem _ hother)) _
  rw [filled schema.fields (fun _ hfield => hfield), h.restores]

theorem Lawful.commute (h : schema.Lawful depth) {f g : Field ρ} (hf : f ∈ schema.fields)
    (hg : g ∈ schema.fields) (hne : f.name ≠ g.name) : Field.Commutes f g :=
  h.commutes.forall hf hg fun heq => hne (heq ▸ rfl)

/-- Fields of which none stands twice give the same record in any order. -/
theorem Lawful.ofFields_perm (h : schema.Lawful depth) {fields fields' : Fields}
    (hperm : fields.Perm fields') (names : (Table.names fields).Nodup)
    (hknown : ∀ field ∈ fields, schema.knows field.1 = true) (record : ρ) :
    (schema.ofFields fields record).toOption = (schema.ofFields fields' record).toOption := by
  induction hperm generalizing record with
  | nil => rfl
  | @cons field fields fields' hperm ih =>
    obtain ⟨name, v⟩ := field
    obtain ⟨found, hfound⟩ := Option.isSome_iff_exists.1 (hknown _ List.mem_cons_self)
    rw [ofFields_cons hfound, ofFields_cons hfound]
    cases found.ofValue v with
    | error cause => rfl
    | ok fill =>
      exact ih (List.nodup_cons.1 names).2
        (fun other hother => hknown other (List.mem_cons_of_mem _ hother)) (fill record)
  | swap second first fields =>
    -- when one of the two does not fit, both orders fail; else they are filled in with one result
    obtain ⟨name, u⟩ := first
    obtain ⟨name', v⟩ := second
    obtain ⟨f, hf⟩ := Option.isSome_iff_exists.1 (hknown (name, u) (by simp))
    obtain ⟨g, hg⟩ := Option.isSome_iff_exists.1 (hknown (name', v) (by simp))
    have hne : f.name ≠ g.name := by
      rw [(name_of_find? hf).2, (name_of_find? hg).2]
      rintro rfl
      simp [Table.names] at names
    have hcommute := h.commute (name_of_find? hf).1 (name_of_find? hg).1 hne
    rw [ofFields_cons hf, ofFields_cons hg]
    simp only [ofFields_cons hf, ofFields_cons hg]
    cases hp : f.ofValue u with
    | error cause => cases hq : g.ofValue v <;> rfl
    | ok p =>
      cases hq : g.ofValue v with
      | error cause => rfl
      | ok q =>
        change (schema.ofFields fields (q (p record))).toOption =
          (schema.ofFields fields (p (q record))).toOption
        rw [hcommute u v p q hp hq]
  | trans hfirst hsecond ih ih' =>
    refine (ih names hknown record).trans (ih' ?_ ?_ record)
    · exact (hfirst.map Prod.fst).nodup_iff.1 names
    · exact fun field hfield => hknown field (hfirst.mem_iff.2 hfield)

/-- Values that fill in a field alike can stand for one another. -/
theorem ofFields_congr {fields fields' : Fields}
    (h : List.Forall₂ (fun x y => x.1 = y.1 ∧ ∀ field ∈ schema.fields, field.name = x.1 →
      (field.ofValue x.2).toOption = (field.ofValue y.2).toOption) fields fields') (record : ρ) :
    (schema.ofFields fields record).toOption = (schema.ofFields fields' record).toOption := by
  induction h generalizing record with
  | nil => rfl
  | @cons x y fields fields' hxy hfields ih =>
    obtain ⟨name, u⟩ := x
    obtain ⟨name', v⟩ := y
    obtain ⟨rfl, hxy⟩ := hxy
    cases hknown : schema.knows name with
    | true =>
      obtain ⟨found, hfound⟩ := Option.isSome_iff_exists.1 hknown
      have hsame := hxy found (name_of_find? hfound).1 (name_of_find? hfound).2
      rw [ofFields_cons hfound, ofFields_cons hfound]
      cases hp : found.ofValue u with
      | error cause =>
        cases hq : found.ofValue v with
        | error cause => rfl
        | ok q => simp [hp, hq, Except.toOption] at hsame
      | ok p =>
        cases hq : found.ofValue v with
        | error cause => simp [hp, hq, Except.toOption] at hsame
        | ok q =>
          obtain rfl : p = q := by simpa [hp, hq, Except.toOption] using hsame
          exact ih (p record)
    | false =>
      rw [ofFields_cons_unknown hknown, ofFields_cons_unknown hknown]
      exact ih record

theorem knows_name {field : Field ρ} (h : field ∈ schema.fields) :
    schema.knows field.name = true := List.find?_isSome.2 ⟨field, h, by simp⟩

/-- Only the names that the schema knows tell which field is missing. -/
theorem missing?_congr {seen seen' : List String}
    (h : ∀ name, schema.knows name = true → (name ∈ seen ↔ name ∈ seen')) :
    schema.missing? seen = schema.missing? seen' := by
  refine congrArg (Option.map Field.name) (List.find?_congr fun field hfield => ?_)
  have hsame : seen.contains field.name = seen'.contains field.name := by
    rw [Bool.eq_iff_iff, List.contains_iff_mem, List.contains_iff_mem]
    exact h field.name (knows_name hfield)
  rw [hsame]

end Record

end Dialplan.Json
