import Mathlib.Data.List.Flatten
import Dialplan.Url.Percent

/-! Texts with escapes. Escaping never shortens a text, nor does it change what the text means:
undoing escapes gives the same bytes before and after it (`Percent.decode_encode`). A percent sign
is ambiguous, so that two texts may mean the same bytes; texts without one mean different bytes if
they are different (`Percent.decode_inj`). -/

namespace Dialplan

namespace Hex

/-- A value has a small digit and a capital one, and no others. -/
theorem eq_digit_of_value? {c : Char} {n : Nat} (h : value? c = some n) :
    n < 16 ∧ (c = digit n ∨ c = upperDigit n) := by
  have hdigits : '0'.toNat = 48 ∧ '9'.toNat = 57 := by decide
  have hsmall : 'a'.toNat = 97 ∧ 'f'.toNat = 102 := by decide
  have hcapital : 'A'.toNat = 65 ∧ 'F'.toNat = 70 := by decide
  unfold value? at h
  simp only [Bool.and_eq_true, decide_eq_true_eq, Char.le_def, UInt32.le_iff_toNat_le] at h
  simp only [Char.toNat] at *
  split at h
  · obtain rfl := Option.some.inj h
    refine ⟨by omega, .inl ?_⟩
    rw [digit, if_pos (by omega), Nat.add_sub_cancel' (by omega)]
    exact (Char.ofNat_toNat c).symm
  split at h
  · obtain rfl := Option.some.inj h
    refine ⟨by omega, .inl ?_⟩
    rw [digit, if_neg (by omega), show 87 + (c.val.toNat - 87) = c.val.toNat by omega]
    exact (Char.ofNat_toNat c).symm
  split at h
  · obtain rfl := Option.some.inj h
    refine ⟨by omega, .inr ?_⟩
    rw [upperDigit, if_neg (by omega), show 55 + (c.val.toNat - 55) = c.val.toNat by omega]
    exact (Char.ofNat_toNat c).symm
  · cases h

end Hex

namespace Percent

theorem encode_cons (escaped : Char → Bool) (c : Char) (text : List Char) :
    encode escaped (c :: text) = encodeChar escaped c ++ encode escaped text := List.flatMap_cons

variable {escaped : Char → Bool}

theorem encodeChar_of_not_escaped {c : Char} (h : escaped c = false) :
    encodeChar escaped c = [c] := by
  rw [encodeChar, h]
  rfl

/-- A character that is escaped becomes a percent sign, and more. -/
theorem exists_encodeChar {c : Char} (h : escaped c = true) :
    ∃ more, encodeChar escaped c = '%' :: more := by
  rw [encodeChar, if_pos h]
  cases hbytes : String.utf8EncodeChar c with
  | nil => exact absurd hbytes String.utf8EncodeChar_ne_nil
  | cons byte bytes => exact ⟨_, rfl⟩

/-! ### Lengths and characters -/

theorem encodeChar_ne_nil (escaped : Char → Bool) (c : Char) : encodeChar escaped c ≠ [] := by
  cases h : escaped c with
  | false => simp [encodeChar_of_not_escaped h]
  | true =>
    obtain ⟨more, hmore⟩ := exists_encodeChar h
    simp [hmore]

/-- Less text has less to escape. -/
theorem eq_of_length_encode {s t : List Char} (h : s.Sublist t)
    (hlength : (encode escaped t).length ≤ (encode escaped s).length) : s = t := by
  induction h with
  | slnil => rfl
  | @cons s t c h ih =>
    -- the character that is left out would have been written
    have hs : (encode escaped s).length ≤ (encode escaped t).length := (h.flatMap _).length_le
    have hc := List.length_pos_iff.mpr (encodeChar_ne_nil escaped c)
    rw [encode_cons, List.length_append] at hlength
    omega
  | @cons_cons s t c h ih =>
    rw [encode_cons, encode_cons, List.length_append, List.length_append] at hlength
    rw [ih (by omega)]

theorem not_mem_escape {c : Char} (hpercent : c ≠ '%') (hdigit : Hex.value? c = none)
    (byte : UInt8) : c ∉ escape byte := by
  have hb : byte.toNat < 256 := UInt8.toNat_lt_size byte
  have hother : ∀ n < 16, c ≠ Hex.upperDigit n := by
    rintro n hn rfl
    cases (Hex.value?_upperDigit hn).symm.trans hdigit
  have hhigh := hother (byte.toNat / 16) (by omega)
  have hlow := hother (byte.toNat % 16) (by omega)
  simp [escape, hpercent, hhigh, hlow]

/-- A character that is neither escaped nor part of an escape stands where it stood. -/
theorem mem_encode_iff {c : Char} (hplain : escaped c = false) (hpercent : c ≠ '%')
    (hdigit : Hex.value? c = none) {text : List Char} :
    c ∈ encode escaped text ↔ c ∈ text := by
  rw [encode, List.mem_flatMap]
  constructor
  · rintro ⟨d, hd, hc⟩
    cases hescaped : escaped d with
    | false =>
      rw [encodeChar_of_not_escaped hescaped, List.mem_singleton] at hc
      exact hc ▸ hd
    | true =>
      rw [encodeChar, if_pos hescaped, List.mem_flatMap] at hc
      obtain ⟨byte, -, hc⟩ := hc
      exact absurd hc (not_mem_escape hpercent hdigit byte)
  · intro hc
    exact ⟨c, hc, by simp [encodeChar_of_not_escaped hplain]⟩

/-! ### Meaning -/

theorem decode_escapes (bytes : List UInt8) (rest : List Char) :
    decode (bytes.flatMap escape ++ rest) = bytes ++ decode rest := by
  induction bytes with
  | nil => rfl
  | cons byte bytes ih =>
    rw [List.flatMap_cons, List.append_assoc, decode_escape, ih, List.cons_append]

theorem decode_cons {c : Char} (h : c ≠ '%') (rest : List Char) :
    decode (c :: rest) = String.utf8EncodeChar c ++ decode rest := by
  rw [decode.eq_def]
  split <;> simp_all

theorem decode_encodeChar {c : Char} (hc : c ≠ '%') (rest : List Char) :
    decode (encodeChar escaped c ++ rest) = String.utf8EncodeChar c ++ decode rest := by
  cases hescaped : escaped c with
  | false =>
    rw [encodeChar_of_not_escaped hescaped]
    exact decode_cons hc rest
  | true => rw [encodeChar, if_pos hescaped, decode_escapes]

/-- Does a text begin with a hexadecimal digit? -/
def startsDigit (text : List Char) : Bool := text.head?.any fun c => (Hex.value? c).isSome

/-- Does a text begin as an escape goes on behind its percent sign? -/
def startsHex (text : List Char) : Bool := startsDigit text && startsDigit text.tail

/-- A percent sign that starts no escape stands for itself. -/
theorem decode_percent {rest : List Char} (h : startsHex rest = false) :
    decode ('%' :: rest) = 0x25 :: decode rest := by
  cases rest with
  | nil => rfl
  | cons high rest =>
    cases rest with
    | nil => rfl
    | cons low rest =>
      rw [decode]
      split
      · rename_i hhigh hlow
        simp [startsHex, startsDigit, hhigh, hlow] at h
      · rfl

theorem exists_of_startsHex {text : List Char} (h : startsHex text = true) :
    ∃ high low more a b, text = high :: low :: more ∧ Hex.value? high = some a ∧
      Hex.value? low = some b := by
  obtain ⟨hhigh, hlow⟩ := Bool.and_eq_true_iff.mp h
  match text, hhigh, hlow with
  | high :: low :: more, hhigh, hlow =>
    obtain ⟨a, ha⟩ := Option.isSome_iff_exists.mp hhigh
    obtain ⟨b, hb⟩ := Option.isSome_iff_exists.mp hlow
    exact ⟨high, low, more, a, b, rfl, ha, hb⟩

/-- A text begins with an escape, or with a character that stands for itself. -/
theorem decode_cons_cases (c : Char) (rest : List Char) :
    (c = '%' ∧ ∃ high low more a b, rest = high :: low :: more ∧ Hex.value? high = some a ∧
      Hex.value? low = some b) ∨
    decode (c :: rest) = String.utf8EncodeChar c ++ decode rest := by
  by_cases hc : c = '%'
  · subst hc
    cases hstarts : startsHex rest with
    | false => exact .inr (decode_percent hstarts)
    | true => exact .inl ⟨rfl, exists_of_startsHex hstarts⟩
  · exact .inr (decode_cons hc rest)

theorem decode_eq_nil_iff {text : List Char} : decode text = [] ↔ text = [] := by
  cases text with
  | nil => exact iff_of_true rfl rfl
  | cons c rest =>
    refine iff_of_false ?_ (List.cons_ne_nil c rest)
    rcases decode_cons_cases c rest with ⟨rfl, _, _, _, a, b, rfl, ha, hb⟩ | h
    · simp [decode, ha, hb]
    · simp [h, String.utf8EncodeChar_ne_nil]

/-- Nothing of an escape is escaped again. -/
structure KeepsEscapes (escaped : Char → Bool) : Prop where
  percent : escaped '%' = false
  digit : ∀ c, (Hex.value? c).isSome = true → escaped c = false

theorem keepsEscapes_inPath : KeepsEscapes inPath where
  percent := rfl
  digit c hc := by
    obtain ⟨n, hn⟩ := Option.isSome_iff_exists.mp hc
    obtain ⟨hlt, hdigit⟩ := Hex.eq_digit_of_value? hn
    have hplain : ∀ n ∈ List.range 16,
        inPath (Hex.digit n) = false ∧ inPath (Hex.upperDigit n) = false := by decide
    obtain ⟨hsmall, hcapital⟩ := hplain n (List.mem_range.mpr hlt)
    rcases hdigit with rfl | rfl
    · exact hsmall
    · exact hcapital

section

variable (h : KeepsEscapes escaped)
include h

/-- A digit stays what it is, and nothing else becomes one. -/
theorem startsDigit_encode (text : List Char) :
    startsDigit (encode escaped text) = startsDigit text := by
  cases text with
  | nil => rfl
  | cons c rest =>
    rw [encode_cons]
    cases hescaped : escaped c with
    | false =>
      rw [encodeChar_of_not_escaped hescaped]
      rfl
    | true =>
      obtain ⟨more, hmore⟩ := exists_encodeChar hescaped
      rw [hmore]
      cases hdigit : (Hex.value? c).isSome with
      | false => exact hdigit.symm
      | true => cases hescaped.symm.trans (h.digit c hdigit)

theorem tail_encode {text : List Char} (hdigit : startsDigit text = true) :
    (encode escaped text).tail = encode escaped text.tail := by
  cases text with
  | nil => rfl
  | cons c rest =>
    rw [encode_cons, encodeChar_of_not_escaped (h.digit c hdigit)]
    rfl

theorem startsHex_encode (text : List Char) :
    startsHex (encode escaped text) = startsHex text := by
  rw [startsHex, startsHex, startsDigit_encode h]
  cases hdigit : startsDigit text with
  | false => rfl
  | true => rw [tail_encode h hdigit, startsDigit_encode h]

theorem encode_percent (rest : List Char) :
    encode escaped ('%' :: rest) = '%' :: encode escaped rest := by
  rw [encode_cons, encodeChar_of_not_escaped h.percent]
  rfl

/-- An escape is kept, ... -/
theorem decode_encode_escape {high low : Char} {a b : Nat} (ha : Hex.value? high = some a)
    (hb : Hex.value? low = some b) (rest : List Char) :
    decode (encode escaped ('%' :: high :: low :: rest)) =
      UInt8.ofNat (a * 16 + b) :: decode (encode escaped rest) := by
  have hhigh := h.digit high (by rw [ha]; rfl)
  have hlow := h.digit low (by rw [hb]; rfl)
  rw [encode_percent h, encode_cons, encode_cons, encodeChar_of_not_escaped hhigh,
    encodeChar_of_not_escaped hlow, List.singleton_append, List.singleton_append, decode, ha, hb]

/-- ... and no other percent sign becomes one. -/
theorem decode_encode_percent {rest : List Char} (hstarts : startsHex rest = false) :
    decode (encode escaped ('%' :: rest)) = 0x25 :: decode (encode escaped rest) := by
  rw [encode_percent h, decode_percent]
  rwa [startsHex_encode h]

/-- Escaping does not change what a text means. -/
theorem decode_encode (text : List Char) : decode (encode escaped text) = decode text := by
  match text with
  | [] => rfl
  | c :: rest =>
    by_cases hc : c = '%'
    · subst hc
      cases hstarts : startsHex rest with
      | false => rw [decode_encode_percent h hstarts, decode_percent hstarts, decode_encode rest]
      | true =>
        obtain ⟨high, low, more, a, b, rfl, ha, hb⟩ := exists_of_startsHex hstarts
        rw [decode_encode_escape h ha hb, decode_encode more, decode, ha, hb]
    · rw [encode_cons, decode_encodeChar hc, decode_cons hc, decode_encode rest]
termination_by text.length

end

/-- Characters are told apart by their bytes, whatever follows. -/
theorem eq_of_utf8EncodeChar_append {c d : Char} {s t : List UInt8}
    (h : String.utf8EncodeChar c ++ s = String.utf8EncodeChar d ++ t) : c = d := by
  have hfirst := congrArg (fun bytes => bytes.toByteArray.utf8DecodeChar? 0) h
  simpa [List.toByteArray_append, ByteArray.utf8DecodeChar?_utf8EncodeChar_append] using hfirst

/-- Without percent signs, no two texts mean the same. -/
theorem decode_inj {s t : List Char} (hs : '%' ∉ s) (ht : '%' ∉ t) (h : decode s = decode t) :
    s = t := by
  induction s generalizing t with
  | nil => exact (decode_eq_nil_iff.mp h.symm).symm
  | cons c s ih =>
    cases t with
    | nil => exact decode_eq_nil_iff.mp h
    | cons d t =>
      rw [decode_cons (List.ne_of_not_mem_cons hs).symm,
        decode_cons (List.ne_of_not_mem_cons ht).symm] at h
      obtain rfl := eq_of_utf8EncodeChar_append h
      rw [ih (List.not_mem_of_not_mem_cons hs) (List.not_mem_of_not_mem_cons ht)
        (List.append_cancel_left h)]

end Percent

end Dialplan
