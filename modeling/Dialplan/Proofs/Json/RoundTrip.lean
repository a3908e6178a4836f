import Dialplan.Proofs.Json.Objects
import Mathlib.Data.List.Forall2

/-! Round trips. A lawful codec recovers a value from its text exactly. A lawful record is persistent
(`Record.Lawful.persistent`): besides, an object decodes to the same value with its fields in any
other order and with any unknown fields among them, and so does its text. -/

namespace Dialplan

namespace Json

theorem toOption_eq_some {ε α : Type} {result : Except ε α} {a : α} :
    result.toOption = some a ↔ result = .ok a := by
  cases result <;> simp [Except.toOption]

theorem toOption_map {ε α β : Type} (f : α → β) (result : Except ε α) :
    (f <$> result).toOption = result.toOption.map f := by
  cases result <;> rfl

namespace Codec

variable {α : Type} {codec : Codec α} {depth : Nat}

/-- Reads a text and writes again what was read. -/
def rewrite (codec : Codec α) (text : String) : Except Fault String :=
  codec.print <$> codec.parse text

theorem parse_of_follows {v : Value} {decided : Except Cause α}
    (h : ∀ c, c.rest = v.render ++ [] → Follows (codec.read depthLimit c) decided []) :
    (codec.parse v.text).toOption = decided.toOption := by
  have hread := h (Cursor.start v.text.toList) (by simp [Cursor.start, Value.text])
  cases decided with
  | ok a =>
    obtain ⟨c, hc, hrest⟩ := hread
    have hend : readEnd c = .ok () := by
      simp [readEnd, Cursor.skipBlanks_nil hrest, hrest]
    simp [parse, hc, hend, bind, Except.bind, Except.toOption]
  | error cause =>
    obtain ⟨fault, hfault⟩ := hread
    simp [parse, hfault, bind, Except.bind, Except.toOption]

/-- A text is read as the value that it was written from is decoded. -/
theorem Lawful.parse_text (h : codec.Lawful depth) (hd : depth < depthLimit) {v : Value}
    (hv : v.Proper) : (codec.parse v.text).toOption = (codec.ofValue v).toOption :=
  parse_of_follows fun _ hc => h.follows hv hd hc delimited_nil

theorem decode_eq_ok {v : Value} {a : α} : codec.decode v = .ok a ↔ codec.ofValue v = .ok a := by
  unfold decode
  split <;> simp_all

theorem Lawful.parse_print (h : codec.Lawful depth) (hd : depth < depthLimit) (a : α) :
    codec.parse (codec.print a) = .ok a := by
  rw [← toOption_eq_some, print, h.parse_text hd (h.proper a), h.decodes]
  rfl

theorem Lawful.print_injective (h : codec.Lawful depth) (hd : depth < depthLimit) :
    Function.Injective codec.print := by
  intro a b hab
  have hread := h.parse_print hd a
  rw [hab, h.parse_print hd b] at hread
  exact (Except.ok.inj hread).symm

/-- What has been rewritten stays as it is. -/
theorem Lawful.rewrite_rewrite (h : codec.Lawful depth) (hd : depth < depthLimit)
    {text again : String} (hrewrite : codec.rewrite text = .ok again) :
    codec.rewrite again = .ok again := by
  unfold rewrite at hrewrite
  cases hparse : codec.parse text with
  | error fault => simp [hparse, Functor.map, Except.map] at hrewrite
  | ok a =>
    obtain rfl : codec.print a = again := by
      simpa [hparse, Functor.map, Except.map] using hrewrite
    rw [rewrite, h.parse_print hd]
    rfl

end Codec

namespace Record

variable {ρ : Type} {schema : Record ρ} {depth : Nat}

/-- An object's fields in another order and with others that the schema does not know, the values
of its own fields having been changed by no more than `alike` allows. -/
def Rearranged (schema : Record ρ) (alike : Value → Value → Prop) (fields fields' : Fields) :
    Prop :=
  ∃ kept extra : Fields, List.Forall₂ (fun x y => x.1 = y.1 ∧ alike x.2 y.2) fields kept ∧
    (∀ field ∈ extra, schema.knows field.1 = false) ∧ fields'.Perm (kept ++ extra)

/-- What a value may be changed to that is read as this record: nothing else, unless it is an
object, and that may be rearranged. -/
inductive Alike (schema : Record ρ) : Value → Value → Prop where
  | same (v : Value) : Alike schema v v
  | rearranged {fields fields' : Fields} (h : schema.Rearranged (· = ·) fields fields')
      (proper : (Value.object fields').Proper) : Alike schema (.object fields) (.object fields')

/-- What is asked of a record that is kept as JSON. -/
structure Persistent (schema : Record ρ) (alike : Value → Value → Prop) : Prop where
  recovered : ∀ record, schema.codec.parse (schema.codec.print record) = .ok record
  decoded : ∀ record, schema.codec.decode (schema.codec.toValue record) = .ok record
  decode_rearranged : ∀ {fields fields' : Fields}, schema.Legible fields →
    schema.Rearranged alike fields fields' → ∀ record,
    schema.codec.decode (.object fields') = .ok record ↔
      schema.codec.decode (.object fields) = .ok record
  parse_rearranged : ∀ {fields fields' : Fields}, schema.Legible fields →
    schema.Rearranged alike fields fields' → ∀ record,
    schema.codec.parse fields'.text = .ok record ↔ schema.codec.parse fields.text = .ok record
  injective : Function.Injective schema.codec.print
  idempotent : ∀ {text again : String}, schema.codec.rewrite text = .ok again →
    schema.codec.rewrite again = .ok again

/-- Fields with the same names are known to the schema in the same places. -/
theorem forall₂_known {R : Value → Value → Prop} {fields kept : Fields}
    (h : List.Forall₂ (fun x y => x.1 = y.1 ∧ R x.2 y.2) fields kept) :
    List.Forall₂ (fun x y => x.1 = y.1 ∧ R x.2 y.2) (schema.known fields) (schema.known kept) := by
  induction h with
  | nil => exact .nil
  | @cons x y fields kept hxy _ ih =>
    obtain ⟨name, u⟩ := x
    obtain ⟨name', v⟩ := y
    obtain ⟨rfl, hxy⟩ := hxy
    cases hknows : schema.knows name with
    | true =>
      rw [known_cons hknows, known_cons hknows]
      exact .cons ⟨rfl, hxy⟩ ih
    | false =>
      rw [known_cons_unknown hknows, known_cons_unknown hknows]
      exact ih

theorem exists_of_mem_right {α β : Type} {R : α → β → Prop} {xs : List α} {ys : List β}
    (h : List.Forall₂ R xs ys) {y : β} (hy : y ∈ ys) : ∃ x ∈ xs, R x y := by
  induction h with
  | nil => cases hy
  | @cons x first xs ys hxy _ ih =>
    rcases List.mem_cons.1 hy with rfl | hy
    · exact ⟨x, List.mem_cons_self, hxy⟩
    · obtain ⟨other, hother, hR⟩ := ih hy
      exact ⟨other, List.mem_cons_of_mem _ hother, hR⟩

theorem names_eq_of_forall₂ {R : Value → Value → Prop} {fields kept : Fields}
    (h : List.Forall₂ (fun x y => x.1 = y.1 ∧ R x.2 y.2) fields kept) :
    Table.names fields = Table.names kept := by
  induction h with
  | nil => rfl
  | cons hxy _ ih => exact congrArg₂ (· :: ·) hxy.1 ih

theorem known_append_unknown (kept : Fields) {extra : Fields}
    (h : ∀ field ∈ extra, schema.knows field.1 = false) :
    schema.known (kept ++ extra) = schema.known kept := by
  have hnone : schema.known extra = [] :=
    List.filter_eq_nil_iff.2 fun field hfield => by simp [h field hfield]
  rw [known, List.filter_append, ← known, ← known, hnone, List.append_nil]

/-- May the values of a schema's fields be changed as `alike` allows? -/
def Allows (schema : Record ρ) (alike : Value → Value → Prop) : Prop :=
  ∀ {v w : Value}, alike v w → v.Proper → w.Proper ∧
    ∀ field ∈ schema.fields, (field.ofValue v).toOption = (field.ofValue w).toOption

theorem allows_eq (schema : Record ρ) : schema.Allows (· = ·) := by
  rintro v _ rfl hv
  exact ⟨hv, fun _ _ => rfl⟩

section

variable {alike : Value → Value → Prop} {fields fields' : Fields}

/-- To the schema a rearranged object has the fields that were kept, in some order. -/
theorem Rearranged.known (h : schema.Rearranged alike fields fields') :
    ∃ kept, List.Forall₂ (fun x y => x.1 = y.1 ∧ alike x.2 y.2) (schema.known fields) kept ∧
      (schema.known fields').Perm kept := by
  obtain ⟨kept, extra, hkept, hextra, hperm⟩ := h
  refine ⟨schema.known kept, forall₂_known hkept, ?_⟩
  rw [← known_append_unknown kept hextra]
  exact hperm.filter _

theorem Rearranged.legible (h : schema.Rearranged alike fields fields')
    (hallows : schema.Allows alike) (hlegible : schema.Legible fields) :
    schema.Legible fields' := by
  obtain ⟨kept, hkept, hperm⟩ := h.known
  refine ⟨?_, fun field hfield => ?_⟩
  · have hnames : (Table.names kept).Nodup := names_eq_of_forall₂ hkept ▸ hlegible.names
    exact (hperm.map Prod.fst).nodup_iff.2 hnames
  · obtain ⟨before, hbefore, -, halike⟩ := exists_of_mem_right hkept (hperm.mem_iff.1 hfield)
    exact (hallows halike (hlegible.proper before hbefore)).1

/-- A rearranged object gives the same record, or none as well. -/
theorem Lawful.ofValue_rearranged (h : schema.Lawful depth) (hallows : schema.Allows alike)
    (hlegible : schema.Legible fields) (hrearranged : schema.Rearranged alike fields fields') :
    (schema.codec.ofValue (.object fields')).toOption =
      (schema.codec.ofValue (.object fields)).toOption := by
  have hlegible' := hrearranged.legible hallows hlegible
  obtain ⟨kept, hkept, hperm⟩ := hrearranged.known
  have hsame : List.Forall₂ (fun x y => x.1 = y.1 ∧ ∀ field ∈ schema.fields,
      field.name = x.1 → (field.ofValue x.2).toOption = (field.ofValue y.2).toOption)
      (schema.known fields) kept :=
    ((List.forall₂_and_left _ _).2 ⟨hlegible.proper, hkept⟩).imp fun x y ⟨hproper, hname, halike⟩ =>
      ⟨hname, fun field hfield _ => (hallows halike hproper).2 field hfield⟩
  have hfields : (schema.ofFields fields' schema.blank).toOption =
      (schema.ofFields fields schema.blank).toOption :=
    calc (schema.ofFields fields' schema.blank).toOption
      _ = (schema.ofFields (schema.known fields') schema.blank).toOption := by
        rw [ofFields_known]
      _ = (schema.ofFields kept schema.blank).toOption :=
        h.ofFields_perm hperm hlegible'.names (fun _ hfield => (List.mem_filter.1 hfield).2) _
      _ = (schema.ofFields (schema.known fields) schema.blank).toOption :=
        (ofFields_congr hsame _).symm
      _ = (schema.ofFields fields schema.blank).toOption := by rw [ofFields_known]
  have hcomplete : schema.complete (Table.names fields') = schema.complete (Table.names fields) :=
    complete_congr fun name hname => by
      rw [← mem_names_known hname, ← mem_names_known hname fields, names_eq_of_forall₂ hkept]
      exact (hperm.map Prod.fst).mem_iff
  rw [ofValue_object, ofValue_object, hcomplete]
  cases hdecoded : schema.ofFields fields schema.blank <;>
    cases hdecoded' : schema.ofFields fields' schema.blank <;>
    simp_all [Except.toOption, bind, Except.bind]

end

/-- A lawful record that nests less deep than texts may is persistent. -/
theorem Lawful.persistent (h : schema.Lawful depth) (hd : depth + 1 < depthLimit)
    {alike : Value → Value → Prop} (hallows : schema.Allows alike) : schema.Persistent alike where
  recovered := h.codec_lawful.parse_print hd
  decoded record := Codec.decode_eq_ok.2 (h.codec_lawful.decodes record)
  decode_rearranged hlegible hrearranged record := by
    rw [Codec.decode_eq_ok, Codec.decode_eq_ok, ← toOption_eq_some, ← toOption_eq_some,
      h.ofValue_rearranged hallows hlegible hrearranged]
  parse_rearranged hlegible hrearranged record := by
    have hparse {fields : Fields} (hlegible : schema.Legible fields) :
        (schema.codec.parse fields.text).toOption =
          (schema.codec.ofValue (.object fields)).toOption :=
      Codec.parse_of_follows fun _ hc => h.read_object hlegible hd hc
    rw [← toOption_eq_some, ← toOption_eq_some, hparse hlegible,
      hparse (hrearranged.legible hallows hlegible),
      h.ofValue_rearranged hallows hlegible hrearranged]
  injective := h.codec_lawful.print_injective hd
  idempotent := h.codec_lawful.rewrite_rewrite hd

end Record

end Json

end Dialplan
