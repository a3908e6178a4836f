import Dialplan.Proofs.Json.Reading
import Mathlib.Data.List.DropRight

/-! Numbers. Whole numbers that fit 64 bits are read back as they were written. Reals are written
with a fraction or an exponent, so what is read back from one is never whole. Every number is
stepped over. -/

namespace Dialplan.Json

/-! ### Digits -/

theorem isDigit_of_mem_toDigits {n : Nat} {c : Char} (h : c ∈ Nat.toDigits 10 n) :
    isDigit c = true :=
  Nat.isDigit_of_mem_toDigits (by decide) (by decide) h

/-- Only zero is written with a leading zero. -/
theorem eq_zero_of_head?_toDigits (n : Nat) (h : (Nat.toDigits 10 n).head? = some '0') :
    n = 0 := by
  induction n using Nat.strongRecOn with
  | ind n ih =>
    rw [Nat.toDigits_eq_if (by decide)] at h
    split at h
    · next hn =>
      have all : ∀ m ∈ List.range 10, [Nat.digitChar m].head? = some '0' → m = 0 := by decide
      exact all n (List.mem_range.2 hn) h
    · next hn =>
      rw [List.head?_append_of_ne_nil _ Nat.toDigits_ne_nil] at h
      have := ih (n / 10) (by omega) h
      omega

/-- The text does not go on with a digit. -/
def NoDigit (rest : List Char) : Prop := ∀ c ∈ rest.head?, isDigit c = false

theorem Delimited.noDigit {rest : List Char} (h : Delimited rest) : NoDigit rest := by
  intro c hc
  rcases h c hc with rfl | rfl | rfl <;> decide

/-- Nor with what goes on a number in another way. -/
theorem Delimited.first_ne {rest : List Char} (h : Delimited rest) {first : Char}
    {more : List Char} (hr : rest = first :: more) : first ≠ '.' ∧ first ≠ 'e' ∧ first ≠ 'E' := by
  subst hr
  rcases h first rfl with rfl | rfl | rfl <;> decide

theorem leadingDigits_append {digits rest : List Char} (hd : ∀ d ∈ digits, isDigit d = true)
    (hr : NoDigit rest) : leadingDigits (digits ++ rest) = digits := by
  rw [leadingDigits, List.takeWhile_append_of_pos hd]
  cases rest with
  | nil => simp
  | cons c rest => simp [hr c rfl]

/-- Digits of a number that fits 64 bits are all absorbed. -/
theorem absorb_eq (digits : List Char) {significand : Nat}
    (h : Nat.ofDigitChars 10 digits significand < UInt64.size) :
    absorb significand digits = (Nat.ofDigitChars 10 digits significand, 0) := by
  induction digits generalizing significand with
  | nil => rfl
  | cons d digits ih =>
    have hnext : Nat.ofDigitChars 10 (d :: digits) significand =
        Nat.ofDigitChars 10 digits (significand * 10 + digitValue d) := by
      rw [Nat.ofDigitChars_cons, Nat.mul_comm 10]
      rfl
    rw [hnext] at h ⊢
    have hle : significand * 10 + digitValue d ≤
        Nat.ofDigitChars 10 digits (significand * 10 + digitValue d) := by
      rw [Nat.ofDigitChars_eq_ofDigitChars_zero]
      exact Nat.le_add_right_of_le (Nat.le_mul_of_pos_left _ (Nat.pow_pos (by decide)))
    rw [absorb, if_pos (by omega), ih h]

/-! ### The written form -/

/-- The whole part of a number: only a lone digit may be a leading zero. -/
structure IsWhole (digits : List Char) : Prop where
  ne_nil : digits ≠ []
  isDigit : ∀ d ∈ digits, isDigit d = true
  leading : digits.head? = some '0' → digits = ['0']

theorem isWhole_toDigits (n : Nat) : IsWhole (Nat.toDigits 10 n) where
  ne_nil := Nat.toDigits_ne_nil
  isDigit _ := isDigit_of_mem_toDigits
  leading h := by rw [eq_zero_of_head?_toDigits n h, Nat.toDigits_zero]

/-- A whole part starts with a digit, and nothing follows a leading zero. -/
theorem IsWhole.eq_cons {digits : List Char} (h : IsWhole digits) :
    ∃ first more, digits = first :: more ∧ Json.isDigit first = true ∧
      (first = '0' → more = []) := by
  obtain ⟨first, more, rfl⟩ := List.exists_cons_of_ne_nil h.ne_nil
  refine ⟨first, more, rfl, h.isDigit first List.mem_cons_self, ?_⟩
  rintro rfl
  exact (List.cons.inj (h.leading rfl)).2

/-- The fraction of a number, with its point, or nothing. -/
def IsFraction (text : List Char) : Prop :=
  text = [] ∨ ∃ digits, text = '.' :: digits ∧ digits ≠ [] ∧ ∀ d ∈ digits, isDigit d = true

/-- The exponent of a number, with its letter and sign, or nothing. -/
def IsScale (text : List Char) : Prop :=
  text = [] ∨ ∃ sign digits, text = 'e' :: sign :: digits ∧ (sign = '+' ∨ sign = '-') ∧
    digits ≠ [] ∧ ∀ d ∈ digits, isDigit d = true

theorem IsScale.noDigit {scale rest : List Char} (hs : IsScale scale) (hr : NoDigit rest) :
    NoDigit (scale ++ rest) := by
  rcases hs with rfl | ⟨sign, digits, rfl, -⟩
  · exact hr
  · simp only [NoDigit, List.cons_append, List.head?_cons, Option.mem_some_iff, forall_eq']
    decide

theorem IsFraction.noDigit {fraction rest : List Char} (hf : IsFraction fraction)
    (hr : NoDigit rest) : NoDigit (fraction ++ rest) := by
  rcases hf with rfl | ⟨digits, rfl, -⟩
  · exact hr
  · simp only [NoDigit, List.cons_append, List.head?_cons, Option.mem_some_iff, forall_eq']
    decide

/-- A number as it is written, after its sign. -/
structure NumberText (text : List Char) where
  whole : List Char
  fraction : List Char
  scale : List Char
  eq : text = whole ++ (fraction ++ scale)
  isWhole : IsWhole whole
  isFraction : IsFraction fraction
  isScale : IsScale scale

/-! ### Reading -/

/-- What reading a number comes to after the digits of its whole part: the significand they
make, and how many of them are left over. -/
def readTail (negative : Bool) (absorbed : Nat × Nat) (c : Cursor) :
    Except Fault (Number × Cursor) :=
  match c.rest with
  | '.' :: _ => readFraction negative absorbed.1 absorbed.2 c
  | 'e' :: _ => readExponent negative absorbed.1 absorbed.2 c
  | 'E' :: _ => readExponent negative absorbed.1 absorbed.2 c
  | _ =>
    if absorbed.2 = 0 then .ok (wholeNumber negative absorbed.1, c)
    else realNumber negative absorbed.1 absorbed.2 c

theorem readNumber_whole {whole after : List Char} (hw : IsWhole whole) (ha : NoDigit after)
    {c : Cursor} (hc : c.rest = whole ++ after) (negative : Bool) :
    readNumber negative c = readTail negative (absorb 0 whole) (c.past whole.length) := by
  obtain ⟨first, more, rfl, hfirst, hzero⟩ := hw.eq_cons
  have htaken : (if first = '0' then [first] else leadingDigits c.rest) = first :: more := by
    split
    · next h => rw [hzero h]
    · rw [hc, leadingDigits_append hw.isDigit ha]
  have hlone : (first = '0' && (more ++ after).head?.any isDigit) = false := by
    rw [Bool.and_eq_false_imp]
    intro h
    rw [hzero (of_decide_eq_true h), List.nil_append]
    cases after with
    | nil => rfl
    | cons d after => exact ha d rfl
  rw [List.cons_append] at hc
  simp only [readNumber, hc, hfirst, hlone, Bool.not_true, Bool.false_eq_true, ↓reduceIte]
  rw [← hc, htaken]
  rfl

/-- Digits that nothing follows are read as a whole number. -/
theorem readNumber_toDigits {n : Nat} (hn : n < UInt64.size) {rest : List Char}
    (hr : Delimited rest) {c : Cursor} (hc : c.rest = Nat.toDigits 10 n ++ rest)
    (negative : Bool) : ∃ left, left.rest = rest ∧
      readNumber negative c = .ok (wholeNumber negative n, left) := by
  refine ⟨_, Cursor.rest_past_append hc, ?_⟩
  rw [readNumber_whole (isWhole_toDigits n) hr.noDigit hc,
    absorb_eq _ (by rwa [Nat.ofDigitChars_ten_toDigits]), Nat.ofDigitChars_ten_toDigits, readTail,
    Cursor.rest_past_append hc]
  split
  · exact absurd rfl (hr.first_ne rfl).1
  · exact absurd rfl (hr.first_ne rfl).2.1
  · exact absurd rfl (hr.first_ne rfl).2.2
  · rfl

/-- A reading of a number that can only give a real. -/
def OnlyReal (result : Except Fault (Number × Cursor)) : Prop :=
  ∀ n c, result = .ok (n, c) → ∃ x, n = .real x

theorem realNumber_onlyReal (negative : Bool) (significand : Nat) (exponent : Int) (c : Cursor) :
    OnlyReal (realNumber negative significand exponent c) := by
  intro n left h
  unfold realNumber at h
  split at h
  · obtain ⟨rfl, -⟩ := Prod.mk.inj (Except.ok.inj h)
    exact ⟨_, rfl⟩
  · cases h

theorem readExponent_onlyReal (negative : Bool) (significand : Nat) (before : Int) (c : Cursor) :
    OnlyReal (readExponent negative significand before c) := by
  intro n left h
  unfold readExponent at h
  dsimp only at h
  split at h
  · cases h
  split at h
  · cases h
  split at h
  · exact realNumber_onlyReal _ _ _ _ n left h
  obtain ⟨-, h⟩ | ⟨-, h⟩ := ite_eq_iff.1 h
  · cases h
  · obtain ⟨rfl, -⟩ := Prod.mk.inj (Except.ok.inj h)
    exact ⟨_, rfl⟩

theorem readFraction_onlyReal (negative : Bool) (significand : Nat) (before : Int) (c : Cursor) :
    OnlyReal (readFraction negative significand before c) := by
  intro n left h
  unfold readFraction readScale at h
  dsimp only at h
  split at h
  · split at h <;> cases h
  split at h
  · exact readExponent_onlyReal _ _ _ _ n left h
  · exact readExponent_onlyReal _ _ _ _ n left h
  · exact realNumber_onlyReal _ _ _ _ n left h

/-- A number with a fraction or an exponent is never read as a whole one. -/
theorem readNumber_onlyReal {text : List Char} (ht : NumberText text)
    (hreal : ht.fraction ++ ht.scale ≠ []) {rest : List Char} (hr : Delimited rest) {c : Cursor}
    (hc : c.rest = text ++ rest) (negative : Bool) : OnlyReal (readNumber negative c) := by
  obtain ⟨whole, fraction, scale, rfl, hw, hf, hs⟩ := ht
  dsimp only at hreal
  rw [List.append_assoc] at hc
  have hafter : NoDigit ((fraction ++ scale) ++ rest) := by
    rw [List.append_assoc]
    exact hf.noDigit (hs.noDigit hr.noDigit)
  rw [readNumber_whole hw hafter hc, readTail, Cursor.rest_past_append hc]
  rcases hf with rfl | ⟨digits, rfl, -⟩
  · rcases hs with rfl | ⟨sign, digits, rfl, -⟩
    · exact absurd rfl hreal
    · exact readExponent_onlyReal _ _ _ _
  · exact readFraction_onlyReal _ _ _ _

/-! ### Stepping over -/

theorem skipDigits_append {digits after : List Char} (hd : ∀ d ∈ digits, isDigit d = true)
    (ha : NoDigit after) {c : Cursor} (hc : c.rest = digits ++ after) :
    (skipDigits c).rest = after := by
  rw [skipDigits, hc, leadingDigits_append hd ha]
  exact Cursor.rest_past_append hc

theorem head?_any_isDigit {digits : List Char} (hn : digits ≠ [])
    (hd : ∀ d ∈ digits, isDigit d = true) (after : List Char) :
    (digits ++ after).head?.any isDigit = true := by
  obtain ⟨d, more, rfl⟩ := List.exists_cons_of_ne_nil hn
  exact hd d List.mem_cons_self

theorem skipScale_append {scale rest : List Char} (hs : IsScale scale) (hr : Delimited rest)
    {c : Cursor} (hc : c.rest = scale ++ rest) : Stops (skipScale c) rest := by
  rcases hs with rfl | ⟨sign, digits, rfl, hsign, hn, hd⟩
  · refine ⟨c, ?_, hc⟩
    unfold skipScale
    split
    · next h => exact absurd rfl (hr.first_ne (hc.symm.trans h)).2.1
    · next h => exact absurd rfl (hr.first_ne (hc.symm.trans h)).2.2
    · rfl
  · have hletter : c.step.rest = sign :: (digits ++ rest) := Cursor.rest_step hc
    have hstep := Cursor.rest_step hletter
    refine ⟨_, ?_, skipDigits_append hd hr.noDigit hstep⟩
    rcases hsign with rfl | rfl <;>
      simp only [skipScale, skipExponent, hc, List.cons_append, hletter, hstep,
        head?_any_isDigit hn hd rest, ↓reduceIte]

/-- What stepping over a number comes to after its whole part. -/
def skipTail (c : Cursor) : Except Fault Cursor :=
  match c.rest with
  | '.' :: _ =>
    let c := c.step
    if c.rest.head?.any isDigit then skipScale (skipDigits c)
    else .error (c.faultNext .invalidNumber)
  | _ => skipScale c

theorem skipNumber_whole {whole after : List Char} (hw : IsWhole whole) (ha : NoDigit after)
    {c : Cursor} (hc : c.rest = whole ++ after) :
    ∃ left, left.rest = after ∧ skipNumber c = skipTail left := by
  obtain ⟨first, more, rfl, hfirst, hzero⟩ := hw.eq_cons
  by_cases hz : first = '0'
  · subst hz
    obtain rfl := hzero rfl
    have hnone : after.head?.any isDigit = false := by
      cases after with
      | nil => rfl
      | cons d after => exact ha d rfl
    refine ⟨c.step, Cursor.rest_step hc, ?_⟩
    simp only [skipNumber, hc, List.cons_append, List.nil_append, hfirst, hnone, Bool.not_true,
      Bool.false_eq_true, Bool.and_false, ↓reduceIte]
    rfl
  · refine ⟨skipDigits c, skipDigits_append hw.isDigit ha hc, ?_⟩
    simp only [skipNumber, hc, List.cons_append, hfirst, hz, decide_false, Bool.false_and,
      Bool.not_true, Bool.false_eq_true, ↓reduceIte]
    rfl

theorem skipNumber_append {text : List Char} (ht : NumberText text) {rest : List Char}
    (hr : Delimited rest) {c : Cursor} (hc : c.rest = text ++ rest) :
    Stops (skipNumber c) rest := by
  obtain ⟨whole, fraction, scale, rfl, hw, hf, hs⟩ := ht
  have hscale := hs.noDigit hr.noDigit
  have hwhole : c.rest = whole ++ (fraction ++ (scale ++ rest)) := by simp [hc]
  obtain ⟨left, hleft, hskip⟩ := skipNumber_whole hw (hf.noDigit hscale) hwhole
  rw [hskip]
  rcases hf with rfl | ⟨digits, rfl, hn, hd⟩
  · rw [List.nil_append] at hleft
    have htail : skipTail left = skipScale left := by
      unfold skipTail
      split
      · next h =>
        rw [hleft] at h
        rcases hs with rfl | ⟨sign, digits, rfl, -⟩
        · exact absurd rfl (hr.first_ne h).1
        · simp at h
      · rfl
    rw [htail]
    exact skipScale_append hs hr hleft
  · have hstep : left.step.rest = digits ++ (scale ++ rest) := Cursor.rest_step hleft
    simp only [skipTail, hleft, List.cons_append, hstep, head?_any_isDigit hn hd, ↓reduceIte]
    exact skipScale_append hs hr (skipDigits_append hd hscale hstep)

/-! ### Reals -/

section Reals

open Binary64

theorem spacing_le {units : Nat} (h : units ≠ 0) : spacing units ≤ units := by
  rw [spacing, Nat.shiftLeft_eq, Nat.one_mul]
  calc 2 ^ (units.log2 - 52) ≤ 2 ^ units.log2 := Nat.pow_le_pow_right (by decide) (Nat.sub_le ..)
    _ ≤ units := Nat.log2_self_le h

/-- Zero is no decimal of any other real. -/
theorem readsBack_zero {units : Nat} (h : units ≠ 0) (exponent : Int) :
    readsBack units 0 exponent = false := by
  have hgap : (gaps units).1 ≤ 2 * spacing units := by
    unfold gaps
    dsimp only
    split <;> omega
  have hle := spacing_le h
  have hleast : 0 < 4 * units - (gaps units).1 := by omega
  have hscale : 0 < (if 0 ≤ exponent then 1 else Nat.pow 10 (-exponent).toNat) := by
    split
    · exact Nat.one_pos
    · exact Nat.pow_pos (by decide)
  have hpos := Nat.mul_pos hleast hscale
  unfold readsBack
  simp only [Nat.mul_zero, Nat.zero_mul, Nat.le_zero, Nat.not_lt_zero, decide_false,
    Bool.false_and, Nat.ne_of_gt hpos, ite_self]

theorem ne_zero_of_withDigits? {units count digits : Nat} {exponent : Int} (h : units ≠ 0)
    (hd : withDigits? units count = some (digits, exponent)) : digits ≠ 0 := by
  have back : readsBack units digits exponent = true := by
    unfold withDigits? at hd
    dsimp only at hd
    obtain ⟨hb, hd⟩ | ⟨-, hd⟩ := ite_eq_iff.1 hd
    · cases hd
      exact hb
    obtain ⟨hb, hd⟩ | ⟨-, hd⟩ := ite_eq_iff.1 hd
    · cases hd
      exact hb
    obtain ⟨hb, hd⟩ | ⟨-, hd⟩ := ite_eq_iff.1 hd
    · cases hd
      exact hb
    · cases hd
  rintro rfl
  rw [readsBack_zero h] at back
  cases back

/-- The digits of the shortest decimal: a leading zero is the only digit of a whole number. -/
structure IsDecimal (decimal : Decimal) : Prop where
  ne_nil : decimal.digits ≠ []
  isDigit : ∀ d ∈ decimal.digits, isDigit d = true
  leading : decimal.digits.head? = some '0' → decimal = ⟨['0'], 0⟩

/-- Dropping the zeros at the end of a number's digits leaves some, and the same first one. -/
theorem isDecimal_of_ne_zero {n : Nat} (h : n ≠ 0) (exponent : Int) :
    IsDecimal ⟨(Nat.toDigits 10 n).rdropWhile (· = '0'), exponent⟩ := by
  have hleading : (Nat.toDigits 10 n).head? ≠ some '0' :=
    fun hzero => h (eq_zero_of_head?_toDigits n hzero)
  have hkept : (Nat.toDigits 10 n).rdropWhile (· = '0') <+: Nat.toDigits 10 n :=
    List.rdropWhile_prefix _ _
  have hne : (Nat.toDigits 10 n).rdropWhile (· = '0') ≠ [] := by
    intro hnil
    obtain ⟨first, more, hcons⟩ := List.exists_cons_of_ne_nil (Nat.toDigits_ne_nil (n := n) (b := 10))
    have := List.rdropWhile_eq_nil_iff.1 hnil first (by simp [hcons])
    exact hleading (by simpa [hcons] using this)
  refine ⟨hne, fun d hd => isDigit_of_mem_toDigits (hkept.subset hd), fun hzero => ?_⟩
  obtain ⟨zeros, hzeros⟩ := hkept
  have hhead := congrArg List.head? hzeros
  rw [List.head?_append_of_ne_nil _ hne] at hhead
  exact absurd (hhead.symm.trans hzero) hleading

theorem isDecimal_shortest {units : Nat} (h : units ≠ 0) : IsDecimal (shortest units) := by
  unfold shortest
  split
  · next digits exponent hfound =>
    obtain ⟨k, -, hk⟩ := List.exists_of_findSome?_eq_some hfound
    exact isDecimal_of_ne_zero (ne_zero_of_withDigits? h hk) _
  · exact ⟨by simp, List.forall_mem_singleton.2 rfl, fun _ => rfl⟩

theorem isWhole_singleton {d : Char} (h : isDigit d = true) : IsWhole [d] :=
  ⟨by simp, by simpa using h, fun hd => by simpa using hd⟩

/-- What a decimal's later digits make, once its first ones have been written. -/
theorem isFraction_tail {digits : List Char} (hd : ∀ d ∈ digits, isDigit d = true) (count : Nat) :
    IsFraction (if (digits.drop count).isEmpty then [] else '.' :: digits.drop count) := by
  split
  · exact .inl rfl
  · next h =>
    exact .inr ⟨_, rfl, by simpa using h, fun d hmem => hd d (List.mem_of_mem_drop hmem)⟩

/-- A real is written with a fraction or an exponent. -/
theorem render_real (x : Binary64) :
    ∃ text, x.render = (if x.negative then ['-'] else []) ++ text ∧
      ∃ ht : NumberText text, ht.fraction ++ ht.scale ≠ [] := by
  unfold Binary64.render
  dsimp only
  generalize (if x.negative = true then ['-'] else []) = sign
  split
  · exact ⟨_, rfl, ⟨['0'], ['.', '0'], [], rfl, isWhole_singleton rfl,
      .inr ⟨['0'], rfl, by simp, List.forall_mem_singleton.2 rfl⟩, .inl rfl⟩, by simp⟩
  next hunits =>
  obtain ⟨hne, hdigit, hleading⟩ := isDecimal_shortest hunits
  generalize shortest x.units = decimal at hne hdigit hleading
  obtain ⟨digits, exponent⟩ := decimal
  dsimp only at hne hdigit hleading ⊢
  obtain ⟨first, more, rfl⟩ := List.exists_cons_of_ne_nil hne
  have hfirst := hdigit first List.mem_cons_self
  split
  · -- one leading digit and an exponent
    refine ⟨_, rfl, ⟨[first], _,
      'e' :: (if exponent < 0 then '-' else '+') :: Nat.toDigits 10 exponent.natAbs, ?_,
      isWhole_singleton hfirst, isFraction_tail hdigit 1,
      .inr ⟨_, _, rfl, ?_, Nat.toDigits_ne_nil, fun d => isDigit_of_mem_toDigits⟩⟩, by simp⟩
    · by_cases h : exponent < 0 <;> simp [h]
    · by_cases h : exponent < 0 <;> simp [h]
  split
  · -- a zero before the point
    refine ⟨_, rfl, ⟨['0'], '.' :: (List.replicate (exponent.natAbs - 1) '0' ++ first :: more), [],
      by simp, isWhole_singleton rfl, .inr ⟨_, rfl, by simp, ?_⟩, .inl rfl⟩, by simp⟩
    intro d hd
    rcases List.mem_append.1 hd with hd | hd
    · rw [List.eq_of_mem_replicate hd]
      rfl
    · exact hdigit d hd
  · -- as many digits before the point as the exponent says
    generalize hcount : exponent.toNat + 1 = count
    refine ⟨_, rfl, ⟨(first :: more).take count ++
      List.replicate (count - (first :: more).length) '0',
      '.' :: (if ((first :: more).drop count).isEmpty then ['0'] else (first :: more).drop count),
      [], by simp, ⟨?_, ?_, ?_⟩, .inr ⟨_, rfl, ?_, ?_⟩, .inl rfl⟩, by simp⟩
    · simp [← hcount]
    · intro d hd
      rcases List.mem_append.1 hd with hd | hd
      · exact hdigit d (List.mem_of_mem_take hd)
      · rw [List.eq_of_mem_replicate hd]
        rfl
    · intro hzero
      obtain ⟨⟨rfl, rfl⟩, rfl⟩ : (first = '0' ∧ more = []) ∧ exponent = 0 := by
        simpa using hleading (by simpa [← hcount] using hzero)
      rw [← hcount]
      rfl
    · split <;> simp_all
    · intro d hd
      split at hd
      · rw [List.mem_singleton.1 hd]
        rfl
      · exact hdigit d (List.mem_of_mem_drop hd)

end Reals

def NumberText.ofDigits (n : Nat) : NumberText (Nat.toDigits 10 n) :=
  ⟨_, [], [], by simp, isWhole_toDigits n, .inl rfl, .inl rfl⟩

/-- Every number is written as a sign, or none, and a text of its own. -/
theorem Number.render_eq (n : Number) : ∃ (negative : Bool) (text : List Char),
    n.render = (if negative then ['-'] else []) ++ text ∧ Nonempty (NumberText text) := by
  cases n with
  | unsigned n => exact ⟨false, _, rfl, ⟨.ofDigits _⟩⟩
  | signed n => exact ⟨true, _, rfl, ⟨.ofDigits _⟩⟩
  | real x =>
    obtain ⟨text, hrender, ht, -⟩ := render_real x
    exact ⟨x.negative, text, hrender, ⟨ht⟩⟩

theorem NumberText.eq_cons {text : List Char} (h : NumberText text) :
    ∃ first more, text = first :: more ∧ isDigit first = true := by
  obtain ⟨first, more, hw, hfirst, -⟩ := h.isWhole.eq_cons
  refine ⟨first, more ++ (h.fraction ++ h.scale), ?_, hfirst⟩
  rw [← List.cons_append, ← hw]
  exact h.eq

end Dialplan.Json
