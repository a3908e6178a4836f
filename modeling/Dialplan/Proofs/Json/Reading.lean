import Dialplan.Json.Codec

/-! Readings of text. A reader is given the text in front of it, and the lines and columns of its
cursor matter to no more than the places of faults: so what a reading comes to is said in terms of
the text it leaves. Strings are read back, and stepped over, as they were written. -/

namespace Dialplan.Json

/-! ### What a reading leaves -/

/-- A reading that only steps on gets to where `rest` is left. -/
def Stops (result : Except Fault Cursor) (rest : List Char) : Prop :=
  ∃ c, result = .ok c ∧ c.rest = rest

/-- A reading goes as a decision that was made without the text: it gives the same value and
leaves `rest`, or both fail. -/
def Follows {α : Type} (result : Except Fault (α × Cursor)) (decided : Except Cause α)
    (rest : List Char) : Prop :=
  match decided with
  | .ok a => ∃ c, result = .ok (a, c) ∧ c.rest = rest
  | .error _ => ∃ fault, result = .error fault

section

variable {α β : Type} {rest : List Char}

theorem Stops.bind {result : Except Fault Cursor} {next : Cursor → Except Fault (β × Cursor)}
    {decided : Except Cause β} {left : List Char} (h : Stops result left)
    (hnext : ∀ c, c.rest = left → Follows (next c) decided rest) :
    Follows (result >>= next) decided rest := by
  obtain ⟨c, rfl, hc⟩ := h
  exact hnext c hc

theorem Stops.then {result : Except Fault Cursor} {next : Cursor → Except Fault Cursor}
    {left : List Char} (h : Stops result left) (hnext : ∀ c, c.rest = left → Stops (next c) rest) :
    Stops (result >>= next) rest := by
  obtain ⟨c, rfl, hc⟩ := h
  exact hnext c hc

theorem Follows.of_ok {result : Except Fault (α × Cursor)} {a : α} {c : Cursor}
    (h : result = .ok (a, c)) (hc : c.rest = rest) : Follows result (.ok a) rest := ⟨c, h, hc⟩

theorem Follows.bind {result : Except Fault (α × Cursor)} {decided : Except Cause α}
    {next : α × Cursor → Except Fault (β × Cursor)} {further : α → Except Cause β}
    {left : List Char} (h : Follows result decided left)
    (hnext : ∀ a c, decided = .ok a → c.rest = left → Follows (next (a, c)) (further a) rest) :
    Follows (result >>= next) (decided >>= further) rest := by
  cases decided with
  | ok a =>
    obtain ⟨c, rfl, hc⟩ := h
    exact hnext a c rfl hc
  | error cause =>
    obtain ⟨fault, rfl⟩ := h
    exact ⟨fault, rfl⟩

/-- Only the value of a decision is compared with a reading, not its cause when it fails. -/
theorem Follows.congr {result : Except Fault (α × Cursor)} {decided other : Except Cause α}
    (h : Follows result decided rest) (same : decided.toOption = other.toOption) :
    Follows result other rest := by
  cases decided <;> cases other <;> simp_all [Follows, Except.toOption]

end

/-! ### Stepping -/

theorem Cursor.rest_step {c : Cursor} {char : Char} {rest : List Char}
    (h : c.rest = char :: rest) : c.step.rest = rest := by
  unfold Cursor.step
  rw [h]
  dsimp only
  split <;> rfl

@[simp] theorem Cursor.rest_past (c : Cursor) (count : Nat) :
    (c.past count).rest = c.rest.drop count := rfl

theorem Cursor.rest_past_append {c : Cursor} {taken rest : List Char}
    (h : c.rest = taken ++ rest) : (c.past taken.length).rest = rest := by
  simp [h]

theorem Cursor.skipBlanks_nil {c : Cursor} (h : c.rest = []) : c.skipBlanks = c := by
  obtain ⟨text, line, column⟩ := c
  subst h
  rfl

theorem Cursor.skipBlanks_cons {c : Cursor} {char : Char} {rest : List Char}
    (h : c.rest = char :: rest) (hb : Cursor.isBlank char = false) : c.skipBlanks = c := by
  obtain ⟨text, line, column⟩ := c
  subst h
  have hn : char ≠ '\n' := by rintro rfl; exact absurd hb (by decide)
  simp [Cursor.skipBlanks, Cursor.skipBlanks.go, hn, hb]

/-- What a value is followed by: the end of the text, a comma or a closing bracket. -/
def Delimited (rest : List Char) : Prop :=
  ∀ c ∈ rest.head?, c = ',' ∨ c = ']' ∨ c = '\x7d'

theorem delimited_nil : Delimited [] := by simp [Delimited]

theorem delimited_comma (rest : List Char) : Delimited (',' :: rest) := by simp [Delimited]

theorem delimited_bracket (rest : List Char) : Delimited (']' :: rest) := by simp [Delimited]

theorem delimited_brace (rest : List Char) : Delimited ('\x7d' :: rest) := by simp [Delimited]

theorem readIdent_append (word : List Char) {c : Cursor} {rest : List Char}
    (h : c.rest = word ++ rest) : Stops (readIdent word c) rest := by
  induction word generalizing c with
  | nil => exact ⟨c, rfl, h⟩
  | cons char word ih =>
    obtain ⟨left, hleft, hrest⟩ := ih (Cursor.rest_step h)
    refine ⟨left, ?_, hrest⟩
    simp only [readIdent, h, List.cons_append, ↓reduceIte]
    exact hleft

/-! ### Strings -/

/-- A character that is written as an escape, with the letter of the escape. -/
def lettered : List (Char × Char) :=
  [('"', '"'), ('\\', '\\'), ('\n', 'n'), ('\r', 'r'), ('\t', 't'), ('\x08', 'b'), ('\x0c', 'f')]

/-- A character is written as an escape with a letter, as one with four digits, or as itself. -/
theorem escapeChar_cases (char : Char) :
    (∃ letter, (char, letter) ∈ lettered ∧ escapeChar char = ['\\', letter]) ∨
    (char.toNat < 32 ∧ escapeChar char =
      ['\\', 'u', '0', '0', Hex.digit (char.toNat / 16), Hex.digit (char.toNat % 16)]) ∨
    (32 ≤ char.toNat ∧ char ≠ '"' ∧ char ≠ '\\' ∧ escapeChar char = [char]) := by
  unfold escapeChar
  split
  · exact .inl ⟨'"', by decide, rfl⟩
  · exact .inl ⟨'\\', by decide, rfl⟩
  · exact .inl ⟨'n', by decide, rfl⟩
  · exact .inl ⟨'r', by decide, rfl⟩
  · exact .inl ⟨'t', by decide, rfl⟩
  · next hquote hslash _ _ _ =>
    split
    · next h =>
      obtain rfl : char = '\x08' := Char.toNat_inj.1 h
      exact .inl ⟨'b', by decide, rfl⟩
    split
    · next h =>
      obtain rfl : char = '\x0c' := Char.toNat_inj.1 h
      exact .inl ⟨'f', by decide, rfl⟩
    split
    · next h => exact .inr (.inl ⟨h, rfl⟩)
    · next h => exact .inr (.inr ⟨by omega, hquote, hslash, rfl⟩)

theorem fourHex?_control {n : Nat} (h : n < 32) :
    fourHex? '0' '0' (Hex.digit (n / 16)) (Hex.digit (n % 16)) = some n := by
  have all : ∀ m ∈ List.range 32,
      fourHex? '0' '0' (Hex.digit (m / 16)) (Hex.digit (m % 16)) = some m := by decide
  exact all n (List.mem_range.2 h)

theorem readHex_control {n : Nat} (h : n < 32) {c : Cursor} {more : List Char}
    (hc : c.rest = '0' :: '0' :: Hex.digit (n / 16) :: Hex.digit (n % 16) :: more) :
    readHex c = .ok (n, c.past 4) := by
  simp only [readHex, hc, fourHex?_control h]

/-- The letter of an escape is read as the character. -/
theorem readEscape_letter {char letter : Char} (h : (char, letter) ∈ lettered) {c : Cursor}
    {more : List Char} (hc : c.rest = letter :: more) : readEscape c = .ok (char, c.step) := by
  simp only [lettered, List.mem_cons, Prod.mk.injEq, List.not_mem_nil, or_false] at h
  rcases h with ⟨rfl, rfl⟩ | ⟨rfl, rfl⟩ | ⟨rfl, rfl⟩ | ⟨rfl, rfl⟩ | ⟨rfl, rfl⟩ | ⟨rfl, rfl⟩ |
    ⟨rfl, rfl⟩ <;> simp only [readEscape, hc]

theorem skipEscape_letter {char letter : Char} (h : (char, letter) ∈ lettered) {c : Cursor}
    {more : List Char} (hc : c.rest = letter :: more) : skipEscape c = .ok c.step := by
  simp only [lettered, List.mem_cons, Prod.mk.injEq, List.not_mem_nil, or_false] at h
  rcases h with ⟨-, rfl⟩ | ⟨-, rfl⟩ | ⟨-, rfl⟩ | ⟨-, rfl⟩ | ⟨-, rfl⟩ | ⟨-, rfl⟩ | ⟨-, rfl⟩ <;>
    simp [skipEscape, hc]

/-- The digits of an escape are read as the control character. -/
theorem readEscape_control {char : Char} (h : char.toNat < 32) {c : Cursor} {more : List Char}
    (hc : c.rest =
      'u' :: '0' :: '0' :: Hex.digit (char.toNat / 16) :: Hex.digit (char.toNat % 16) :: more) :
    readEscape c = .ok (char, c.step.past 4) := by
  have hhex := readHex_control h (Cursor.rest_step hc)
  simp only [readEscape, hc, readUnicode, hhex]
  have hlow : ¬ (0xDC00 ≤ char.toNat ∧ char.toNat ≤ 0xDFFF) := by omega
  have hplain : char.toNat < 0xD800 ∨ 0xDBFF < char.toNat := by omega
  simp only [bind, Except.bind, if_neg hlow, if_pos hplain, Char.ofNat_toNat]

/-- Reading goes over the written form of one character. -/
theorem readChars_escapeChar (char : Char) {c : Cursor} {more : List Char}
    (hc : c.rest = escapeChar char ++ more) (fuel : Nat) (seen : List Char) :
    ∃ left, left.rest = more ∧
      readChars (fuel + 1) seen c = readChars fuel (char :: seen) left := by
  rcases escapeChar_cases char with ⟨letter, hmem, he⟩ | ⟨hlow, he⟩ | ⟨hhigh, hquote, hslash, he⟩
  · rw [he] at hc
    have hstep : c.step.rest = letter :: more := Cursor.rest_step hc
    refine ⟨c.step.step, Cursor.rest_step hstep, ?_⟩
    simp only [readChars, hc, List.cons_append, List.nil_append, readEscape_letter hmem hstep]
    rfl
  · rw [he] at hc
    have hstep := Cursor.rest_step hc
    refine ⟨c.step.step.past 4, ?_, ?_⟩
    · rw [Cursor.rest_past, Cursor.rest_step hstep]
      rfl
    · simp only [readChars, hc, List.cons_append, readEscape_control hlow hstep]
      rfl
  · rw [he] at hc
    refine ⟨c.step, Cursor.rest_step hc, ?_⟩
    have hfirst {first : Char} {tail : List Char} (h : c.rest = first :: tail) : first = char :=
      (List.cons.inj (h.symm.trans hc)).1
    rw [readChars]
    split
    · next h => exact absurd (h.symm.trans hc) (by simp)
    · next h => exact absurd (hfirst h).symm hquote
    · next h => exact absurd (hfirst h).symm hslash
    · next h =>
      obtain rfl := hfirst h
      rw [if_neg (by omega)]

/-- So does stepping over it. -/
theorem skipChars_escapeChar (char : Char) {c : Cursor} {more : List Char}
    (hc : c.rest = escapeChar char ++ more) (fuel : Nat) :
    ∃ left, left.rest = more ∧ skipChars (fuel + 1) c = skipChars fuel left := by
  rcases escapeChar_cases char with ⟨letter, hmem, he⟩ | ⟨hlow, he⟩ | ⟨hhigh, hquote, hslash, he⟩
  · rw [he] at hc
    have hstep : c.step.rest = letter :: more := Cursor.rest_step hc
    refine ⟨c.step.step, Cursor.rest_step hstep, ?_⟩
    simp only [skipChars, hc, List.cons_append, List.nil_append, skipEscape_letter hmem hstep]
    rfl
  · rw [he] at hc
    have hstep := Cursor.rest_step hc
    have hhex := readHex_control hlow (Cursor.rest_step hstep)
    refine ⟨c.step.step.past 4, ?_, ?_⟩
    · rw [Cursor.rest_past, Cursor.rest_step hstep]
      rfl
    · simp only [skipChars, hc, List.cons_append, skipEscape, hstep, hhex]
      rfl
  · rw [he] at hc
    refine ⟨c.step, Cursor.rest_step hc, ?_⟩
    have hfirst {first : Char} {tail : List Char} (h : c.rest = first :: tail) : first = char :=
      (List.cons.inj (h.symm.trans hc)).1
    rw [skipChars]
    split
    · next h => exact absurd (h.symm.trans hc) (by simp)
    · next h => exact absurd (hfirst h).symm hquote
    · next h => exact absurd (hfirst h).symm hslash
    · next h =>
      obtain rfl := hfirst h
      rw [if_neg (by omega)]

theorem escapeChar_ne_nil (char : Char) : escapeChar char ≠ [] := by
  rcases escapeChar_cases char with ⟨_, _, he⟩ | ⟨_, he⟩ | ⟨_, _, _, he⟩ <;> simp [he]

theorem length_le_escaped (text : List Char) :
    text.length ≤ (text.flatMap escapeChar).length := by
  induction text with
  | nil => simp
  | cons char text ih =>
    have := List.length_pos_iff.2 (escapeChar_ne_nil char)
    simp only [List.flatMap_cons, List.length_append, List.length_cons]
    omega

/-- Reading goes over escaped characters up to and over the closing quote. -/
theorem readChars_escaped (text rest : List Char) {fuel : Nat} (hfuel : text.length < fuel)
    (seen : List Char) {c : Cursor} (hc : c.rest = text.flatMap escapeChar ++ '"' :: rest) :
    ∃ left, readChars fuel seen c = .ok (seen.reverse ++ text, left) ∧ left.rest = rest := by
  induction text generalizing fuel seen c with
  | nil =>
    obtain ⟨fuel, rfl⟩ := Nat.exists_eq_add_of_lt hfuel
    refine ⟨c.step, ?_, Cursor.rest_step hc⟩
    simp only [List.flatMap_nil, List.nil_append] at hc
    simp [readChars, hc]
  | cons char text ih =>
    obtain ⟨fuel, rfl⟩ := Nat.exists_eq_add_one_of_ne_zero (Nat.ne_zero_of_lt hfuel)
    rw [List.flatMap_cons, List.append_assoc] at hc
    obtain ⟨left, hleft, hread⟩ := readChars_escapeChar char hc fuel seen
    obtain ⟨last, hlast, hrest⟩ :=
      ih (Nat.lt_of_succ_lt_succ hfuel) (char :: seen) hleft
    refine ⟨last, ?_, hrest⟩
    rw [hread, hlast, List.reverse_cons, List.append_assoc, List.singleton_append]

theorem skipChars_escaped (text rest : List Char) {fuel : Nat} (hfuel : text.length < fuel)
    {c : Cursor} (hc : c.rest = text.flatMap escapeChar ++ '"' :: rest) :
    Stops (skipChars fuel c) rest := by
  induction text generalizing fuel c with
  | nil =>
    obtain ⟨fuel, rfl⟩ := Nat.exists_eq_add_of_lt hfuel
    simp only [List.flatMap_nil, List.nil_append] at hc
    exact ⟨c.step, by simp [skipChars, hc], Cursor.rest_step hc⟩
  | cons char text ih =>
    obtain ⟨fuel, rfl⟩ := Nat.exists_eq_add_one_of_ne_zero (Nat.ne_zero_of_lt hfuel)
    rw [List.flatMap_cons, List.append_assoc] at hc
    obtain ⟨left, hleft, hskip⟩ := skipChars_escapeChar char hc fuel
    rw [hskip]
    exact ih (Nat.lt_of_succ_lt_succ hfuel) hleft

/-- The text of a quoted string, after its opening quote. -/
theorem quote_append (text : String) (rest : List Char) :
    quote text ++ rest = '"' :: (text.toList.flatMap escapeChar ++ '"' :: rest) := by
  simp [quote]

theorem readString_quoted (text : String) {c : Cursor} {rest : List Char}
    (hc : c.rest = text.toList.flatMap escapeChar ++ '"' :: rest) :
    Follows (readString c) (.ok text) rest := by
  have hfuel : text.toList.length < c.rest.length + 1 := by
    have := length_le_escaped text.toList
    rw [hc, List.length_append]
    omega
  obtain ⟨left, hleft, hrest⟩ := readChars_escaped text.toList rest hfuel [] hc
  refine ⟨left, ?_, hrest⟩
  rw [readString, hleft]
  simp [bind, Except.bind]

theorem skipString_quoted (text : String) {c : Cursor} {rest : List Char}
    (hc : c.rest = text.toList.flatMap escapeChar ++ '"' :: rest) :
    Stops (skipString c) rest := by
  refine skipChars_escaped text.toList rest ?_ hc
  have := length_le_escaped text.toList
  rw [hc, List.length_append]
  omega

end Dialplan.Json
