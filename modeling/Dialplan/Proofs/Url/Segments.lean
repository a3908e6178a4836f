import Dialplan.Proofs.Url.Escapes
import Dialplan.Url.Path

/-! What becomes of a path when it is read. A segment is followed if it means one dot or two dots
(`Path.isDots_iff`), whether or not they are escaped, and every such segment makes the path shorter
(`Path.size_follow`). So one can tell exactly when a text is found again, escaped, in the path that
was made from it (`Path.render_below_eq_iff`). -/

namespace Dialplan.Path

open Percent

/-! ### Dots -/

theorem digits_of_dot {a b : Nat} (ha : a < 16) (hb : b < 16)
    (h : UInt8.ofNat (a * 16 + b) = 0x2e) : a = 2 ∧ b = 14 := by
  have hnat := congrArg UInt8.toNat h
  rw [UInt8.toNat_ofNat', Nat.mod_eq_of_lt (by omega)] at hnat
  have : (0x2e : UInt8).toNat = 46 := rfl
  omega

/-- What means a dot first begins with one, plain or escaped. -/
theorem of_decode_eq_dot_cons {text : List Char} {bytes : List UInt8}
    (h : decode text = 0x2e :: bytes) :
    (∃ rest, text = '.' :: rest ∧ decode rest = bytes) ∨
    (∃ e rest, text = '%' :: '2' :: e :: rest ∧ (e = 'e' ∨ e = 'E') ∧ decode rest = bytes) := by
  cases text with
  | nil => cases h
  | cons c rest =>
    rcases decode_cons_cases c rest with ⟨rfl, high, low, more, a, b, rfl, ha, hb⟩ | hplain
    · rw [decode, ha, hb] at h
      obtain ⟨hbyte, hbytes⟩ := List.cons.inj h
      obtain ⟨ha', hhigh⟩ := Hex.eq_digit_of_value? ha
      obtain ⟨hb', hlow⟩ := Hex.eq_digit_of_value? hb
      obtain ⟨rfl, rfl⟩ := digits_of_dot ha' hb' hbyte
      obtain rfl : high = '2' := by rcases hhigh with rfl | rfl <;> rfl
      exact .inr ⟨low, more, rfl, hlow, hbytes⟩
    · have hdot : String.utf8EncodeChar '.' = [0x2e] := by decide
      rw [hplain, ← List.singleton_append, ← hdot] at h
      obtain rfl := eq_of_utf8EncodeChar_append h
      exact .inl ⟨rest, rfl, List.append_cancel_left h⟩

theorem decode_of_isDots {n : Nat} {segment : List Char} (h : isDots n segment = true) :
    decode segment = List.replicate n 0x2e := by
  induction n, segment using isDots.induct with
  | case1 segment => exact decode_eq_nil_iff.mpr (List.isEmpty_iff.mp h)
  | case2 n rest ih => exact congrArg (0x2e :: ·) (ih h)
  | case3 n e rest ih =>
    rw [isDots, Bool.and_eq_true, Bool.or_eq_true, decide_eq_true_eq, decide_eq_true_eq] at h
    obtain ⟨rfl | rfl, hrest⟩ := h
    all_goals exact congrArg (0x2e :: ·) (ih hrest)
  | case4 n segment hzero hplain hescaped =>
    cases (isDots.eq_4 n segment hzero hplain hescaped).symm.trans h

/-- A segment is a number of dots exactly if it means that many. -/
theorem isDots_iff {n : Nat} {segment : List Char} :
    isDots n segment = true ↔ decode segment = List.replicate n 0x2e := by
  refine ⟨decode_of_isDots, fun h => ?_⟩
  induction n generalizing segment with
  | zero => rw [isDots, List.isEmpty_iff, ← decode_eq_nil_iff, h, List.replicate_zero]
  | succ n ih =>
    rcases of_decode_eq_dot_cons h with ⟨rest, rfl, hrest⟩ | ⟨e, rest, rfl, he, hrest⟩
    · exact ih hrest
    · rw [isDots, ih hrest]
      rcases he with rfl | rfl <;> rfl

theorem isDots_encode {escaped : Char → Bool} (h : KeepsEscapes escaped) (n : Nat)
    (segment : List Char) : isDots n (encode escaped segment) = isDots n segment := by
  rw [Bool.eq_iff_iff, isDots_iff, isDots_iff, decode_encode h]

/-- Is a segment followed instead of kept? -/
def isStep (segment : List Char) : Bool := isDots 1 segment || isDots 2 segment

theorem isStep_encode {escaped : Char → Bool} (h : KeepsEscapes escaped) (segment : List Char) :
    isStep (encode escaped segment) = isStep segment := by
  rw [isStep, isStep, isDots_encode h, isDots_encode h]

/-! ### Following -/

theorem follow_cons_of_plain {segment : List Char} (h : isStep segment = false)
    (place rest : List (List Char)) :
    follow place (segment :: rest) = follow (segment :: place) rest := by
  obtain ⟨hone, htwo⟩ := Bool.or_eq_false_iff.mp h
  simp [follow, hone, htwo]

theorem follow_of_plain {segments : List (List Char)}
    (h : ∀ segment ∈ segments, isStep segment = false) (place : List (List Char)) :
    follow place segments = place.reverse ++ segments := by
  induction segments generalizing place with
  | nil => rw [follow, List.append_nil]
  | cons segment rest ih =>
    rw [follow_cons_of_plain (h segment List.mem_cons_self),
      ih (fun s hs => h s (List.mem_cons_of_mem _ hs)), List.reverse_cons, List.append_assoc,
      List.singleton_append]

theorem render_cons (segment : List Char) (rest : List (List Char)) :
    render (segment :: rest) = '/' :: (segment ++ render rest) := List.flatMap_cons

/-- The length of a path as it is written. -/
def size (segments : List (List Char)) : Nat := (render segments).length

theorem size_cons (segment : List Char) (rest : List (List Char)) :
    size (segment :: rest) = segment.length + 1 + size rest := by
  rw [size, render_cons, List.length_cons, List.length_append, size]
  omega

theorem size_append (s t : List (List Char)) : size (s ++ t) = size s + size t := by
  rw [size, render_append, List.length_append, size, size]

theorem size_reverse (segments : List (List Char)) : size segments.reverse = size segments := by
  induction segments with
  | nil => rfl
  | cons segment rest ih =>
    rw [List.reverse_cons, size_append, ih, size_cons, size_cons]
    exact Nat.add_comm ..

theorem size_up_le (place : List (List Char)) : size (up place) ≤ size place := by
  cases place with
  | nil => exact Nat.le_refl _
  | cons segment rest =>
    rw [up]
    split
    · exact Nat.le_refl _
    · rw [size_cons]
      omega

/-- A step leads on from a place that is no longer; a path that ends in it ends in a slash. -/
theorem follow_cons_of_step {segment : List Char} (h : isStep segment = true)
    (place rest : List (List Char)) :
    ∃ next, size next ≤ size place ∧
      follow place (segment :: rest) =
        if rest.isEmpty then ([] :: next).reverse else follow next rest := by
  refine ⟨if isDots 2 segment then up place else place, ?_, ?_⟩
  · split
    · exact size_up_le place
    · exact Nat.le_refl _
  · by_cases htwo : isDots 2 segment = true
    · simp [follow, htwo]
    · have hone := (Bool.or_eq_true_iff.mp h).resolve_right htwo
      simp [follow, htwo, hone]

/-- Every segment that is followed makes a path shorter. -/
theorem size_follow (place segments : List (List Char)) :
    size (follow place segments) + segments.countP isStep ≤ size place + size segments := by
  induction segments generalizing place with
  | nil =>
    rw [follow, size_reverse]
    exact Nat.le_add_right ..
  | cons segment rest ih =>
    rw [size_cons]
    cases hstep : isStep segment with
    | false =>
      have hrest := ih (segment :: place)
      rw [size_cons] at hrest
      rw [follow_cons_of_plain hstep, List.countP_cons_of_neg (by simp [hstep])]
      omega
    | true =>
      have hpos : 0 < segment.length := by
        rw [List.length_pos_iff]
        rintro rfl
        cases hstep
      obtain ⟨next, hnext, hfollow⟩ := follow_cons_of_step hstep place rest
      rw [hfollow, List.countP_cons_of_pos hstep]
      split
      · rename_i hlast
        rw [List.isEmpty_iff.mp hlast, size_reverse, size_cons, List.countP_nil]
        simp only [List.length_nil]
        omega
      · have hrest := ih next
        omega

/-! ### Texts between slashes -/

theorem isSlash_iff {c : Char} : isSlash c = true ↔ c = '/' ∨ c = '\\' := by
  rw [isSlash, Bool.or_eq_true, decide_eq_true_eq, decide_eq_true_eq]

/-- Backslashes lean forward. -/
def forward (c : Char) : Char := if isSlash c then '/' else c

theorem forward_eq_self_iff {c : Char} : forward c = c ↔ c ≠ '\\' := by
  by_cases h : isSlash c = true
  · rw [forward, if_pos h]
    rcases isSlash_iff.mp h with rfl | rfl <;> decide
  · rw [forward, if_neg h]
    exact iff_of_true rfl fun heq => h (isSlash_iff.mpr (.inr heq))

theorem map_forward_eq_self_iff {text : List Char} : text.map forward = text ↔ '\\' ∉ text := by
  have hself : text.map forward = text ↔ ∀ c ∈ text, forward c = c := by
    have hmap := List.map_inj_left (f := forward) (g := id) (l := text)
    rwa [List.map_id] at hmap
  rw [hself]
  exact ⟨fun h hmem => forward_eq_self_iff.mp (h _ hmem) rfl,
    fun h c hc => forward_eq_self_iff.mpr fun heq => h (heq ▸ hc)⟩

theorem mem_encode_backslash {text : List Char} : '\\' ∈ encode inPath text ↔ '\\' ∈ text :=
  mem_encode_iff rfl (by decide) (by decide)

theorem map_forward_encodeChar {c : Char} (h : isSlash c = false) :
    (encodeChar inPath c).map forward = encodeChar inPath c := by
  have hne : '\\' ≠ c := by
    rintro rfl
    cases h
  rw [map_forward_eq_self_iff]
  have hencode : encode inPath [c] = encodeChar inPath c := List.flatMap_singleton ..
  rw [← hencode, mem_encode_backslash, List.mem_singleton]
  exact hne

/-- Split between its slashes and put together again, a text is what it was. -/
theorem render_split (text : List Char) :
    render ((text.splitOnP isSlash).map (encode inPath)) =
      '/' :: (encode inPath text).map forward := by
  induction text with
  | nil => rfl
  | cons c rest ih =>
    rw [List.splitOnP_cons_eq_if_modifyHead, encode_cons, List.map_append]
    by_cases hc : isSlash c = true
    · have hslash : (encodeChar inPath c).map forward = ['/'] := by
        rcases isSlash_iff.mp hc with rfl | rfl <;> decide
      rw [if_pos hc, List.map_cons, render_cons, ih, hslash]
      rfl
    · rw [if_neg hc, map_forward_encodeChar (by simpa using hc)]
      cases hsplit : rest.splitOnP isSlash with
      | nil => exact absurd hsplit (List.splitOnP_ne_nil _ _)
      | cons segment segments =>
        rw [hsplit, List.map_cons, render_cons] at ih
        rw [List.modifyHead_cons, List.map_cons, render_cons, encode_cons, List.append_assoc,
          (List.cons.inj ih).2]

/-- A text below a name, as part of a path. -/
def below (name text : List Char) : List Char := '/' :: (name ++ '/' :: text)

theorem length_below (name text : List Char) :
    (below name text).length = name.length + text.length + 2 := by
  simp only [below, List.length_cons, List.length_append]
  omega

section

variable {name : List Char} (hname : ∀ c ∈ name, isSlash c = false) (hkept : isStep name = false)

include hname hkept

/-- The name is kept, and the text is followed from there. -/
theorem segments_below (text : List Char) :
    segments (below name text) =
      follow [encode inPath name] ((text.splitOnP isSlash).map (encode inPath)) := by
  show follow [] (((name ++ '/' :: text).splitOnP isSlash).map (encode inPath)) = _
  rw [List.splitOnP_append_cons_of_forall_mem hname '/' rfl, List.map_cons, follow_cons_of_plain]
  rwa [isStep_encode keepsEscapes_inPath]

theorem render_below_of_plain {text : List Char}
    (h : ∀ segment ∈ text.splitOnP isSlash, isStep segment = false) :
    render (segments (below name text)) =
      below (encode inPath name) ((encode inPath text).map forward) := by
  rw [segments_below hname hkept, follow_of_plain, render_append, render_split,
    List.reverse_singleton, render_cons]
  · rw [below, List.cons_append, render, List.flatMap_nil, List.append_nil]
  · intro segment hsegment
    obtain ⟨written, hwritten, rfl⟩ := List.mem_map.mp hsegment
    rw [isStep_encode keepsEscapes_inPath, h written hwritten]

/-- Whatever it is, a text below a name does not become longer than it is when it is escaped, and
it gets shorter when there are dots to be followed. -/
theorem length_render_below (text : List Char) :
    (render (segments (below name text))).length + (text.splitOnP isSlash).countP isStep ≤
      (below (encode inPath name) (encode inPath text)).length := by
  have hsize := size_follow [encode inPath name] ((text.splitOnP isSlash).map (encode inPath))
  have hcount : ((text.splitOnP isSlash).map (encode inPath)).countP isStep =
      (text.splitOnP isSlash).countP isStep := by
    rw [List.countP_map]
    congr 1
    funext segment
    exact isStep_encode keepsEscapes_inPath segment
  have htext : size ((text.splitOnP isSlash).map (encode inPath)) =
      (encode inPath text).length + 1 := by
    rw [size, render_split, List.length_cons, List.length_map]
  have hplace : size [encode inPath name] = (encode inPath name).length + 1 := size_cons _ []
  rw [← segments_below hname hkept, hcount, htext, hplace] at hsize
  rw [length_below, ← size]
  omega

/-- A text of which nothing more than some characters was left out is found, escaped, in the path
that was made from it exactly if nothing was left out, and if it has neither backslashes nor dots
to be followed. -/
theorem render_below_eq_iff {s t : List Char} (h : s.Sublist t) :
    render (segments (below name s)) = below (encode inPath name) (encode inPath t) ↔
      s = t ∧ '\\' ∉ t ∧ ∀ segment ∈ t.splitOnP isSlash, isStep segment = false := by
  constructor
  · intro heq
    have hlength := length_render_below hname hkept s
    rw [heq, length_below (encode inPath name), length_below (encode inPath name)] at hlength
    have hle : (encode inPath t).length ≤ (encode inPath s).length := by omega
    obtain rfl : s = t := eq_of_length_encode h hle
    have hplain : ∀ segment ∈ s.splitOnP isSlash, isStep segment = false := by
      have hnone : (s.splitOnP isSlash).countP isStep = 0 := by omega
      rw [List.countP_eq_zero] at hnone
      exact fun segment hsegment => Bool.eq_false_iff.mpr (hnone segment hsegment)
    rw [render_below_of_plain hname hkept hplain] at heq
    have hforward : (encode inPath s).map forward = encode inPath s :=
      (List.cons.inj (List.append_cancel_left (List.cons.inj heq).2)).2
    rw [map_forward_eq_self_iff, mem_encode_backslash] at hforward
    exact ⟨rfl, hforward, hplain⟩
  · rintro ⟨rfl, hbackslash, hplain⟩
    have hforward := map_forward_eq_self_iff.mpr ((not_congr mem_encode_backslash).mpr hbackslash)
    rw [render_below_of_plain hname hkept hplain, hforward]

end

end Dialplan.Path
