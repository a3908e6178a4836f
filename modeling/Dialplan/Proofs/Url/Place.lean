import Dialplan.Proofs.Url.Reading

/-! Where an address leads when a path is written behind a host. It leads to the host if the path
is guarded: what ends the authority stands in front of it, or already in the host
(`Url.place_of_guarded`). Any other first character of a path leads elsewhere with some of the paths
that begin with it (`Url.keeps_place_iff`). -/

namespace Dialplan.Url

/-- The first character of a path, breaks apart, ends the authority. -/
def Anchored (path : List Char) : Prop :=
  ∃ c, (unbroken path).head? = some c ∧ endsAuthority c = true

/-- The ways in which a path leaves alone the place that a host stands for. -/
inductive Guarded (host path : List Char) : Prop where
  /-- The authority ends within the host, ... -/
  | closed : Closed (unbroken host) → Guarded host path
  /-- ... or where the path begins. -/
  | anchored : Anchored path → Guarded host path
  /-- No path is written at all, and the host has no blanks at its end, which would be lost. -/
  | blank : (∀ c ∈ path, isBlank c = true) → host.rdropWhile isBlank = host → Guarded host path

section

variable {scheme : Scheme} {host path : List Char} {base url : Url}

theorem isBlank_of_isBreak {c : Char} (h : isBreak c = true) : isBlank c = true := by
  simp only [isBreak, Bool.or_eq_true, decide_eq_true_eq] at h
  rcases h with (rfl | rfl) | rfl <;> rfl

theorem not_isBlank_of_ends {c : Char} (h : endsAuthority c = true) : isBlank c = false := by
  simp only [endsAuthority, Path.isSlash, Bool.or_eq_true, decide_eq_true_eq] at h
  rcases h with ((rfl | rfl) | rfl) | rfl <;> rfl

theorem not_isBreak_of_ends {c : Char} (h : endsAuthority c = true) : isBreak c = false := by
  rw [← Bool.not_eq_true]
  exact fun hbreak => absurd (isBlank_of_isBreak hbreak) (by simp [not_isBlank_of_ends h])

theorem anchored_cons {c : Char} (h : endsAuthority c = true) (rest : List Char) :
    Anchored (c :: rest) := by
  refine ⟨c, ?_, h⟩
  rw [unbroken, List.filter_cons_of_pos (by simp [not_isBreak_of_ends h])]
  rfl

/-- Blanks do not end an authority. -/
theorem Closed.of_append {text blanks : List Char} (h : Closed (text ++ blanks))
    (hblanks : ∀ c ∈ blanks, isBlank c = true) : Closed text := by
  obtain ⟨c, hc, hends⟩ := h
  have hother : c ∉ blanks := fun hm => by
    cases (not_isBlank_of_ends hends).symm.trans (hblanks c hm)
  by_cases hne : text.dropWhile Path.isSlash = []
  · rw [List.dropWhile_append, if_pos (List.isEmpty_iff.mpr hne)] at hc
    exact absurd ((List.dropWhile_suffix _).subset hc) hother
  · rw [dropWhile_append hne] at hc
    exact ⟨c, (List.mem_append.mp hc).resolve_right hother, hends⟩

theorem Closed.ne_nil {text : List Char} (h : Closed text) : text.dropWhile Path.isSlash ≠ [] := by
  obtain ⟨c, hc, -⟩ := h
  exact List.ne_nil_of_mem hc

/-- A text is what counts of it, and blanks. -/
theorem exists_blanks (text : List Char) :
    ∃ blanks, unbroken text = counted text ++ blanks ∧ ∀ c ∈ blanks, isBlank c = true := by
  refine ⟨unbroken (text.rtakeWhile isBlank), ?_, fun c hc => ?_⟩
  · rw [counted, ← unbroken_append, List.rdropWhile_append_rtakeWhile]
  · exact List.mem_rtakeWhile_imp (List.mem_of_mem_filter hc)

theorem Anchored.ends (h : Anchored path) : Ends (unbroken path) := by
  obtain ⟨c, hhead, hends⟩ := h
  intro d hd
  rwa [Option.some.inj (hd.symm.trans hhead)]

/-- What counts of an anchored path ends the authority. -/
theorem Anchored.ends_counted (h : Anchored path) : Ends (counted path) := by
  obtain ⟨blanks, hsplit, -⟩ := exists_blanks path
  exact Ends.of_append (hsplit ▸ h.ends)

/-- Of a host in which the authority ends, the blanks at the end do not matter. -/
theorem authority_counted (h : Closed (unbroken host)) :
    authority (counted host) = authority (unbroken host) := by
  obtain ⟨blanks, hsplit, hblanks⟩ := exists_blanks host
  have hclosed : Closed (counted host) := (hsplit ▸ h).of_append hblanks
  rw [hsplit, authority_append hclosed.ne_nil (.inl hclosed)]

/-- A guarded path leaves the authority alone. -/
theorem authority_of_guarded (hne : (unbroken host).dropWhile Path.isSlash ≠ [])
    (h : Guarded host path) : authority (counted (host ++ path)) = authority (unbroken host) := by
  by_cases hpath : ∀ c ∈ path, isBlank c = true
  · rw [counted_append_blank host hpath]
    cases h with
    | closed hclosed => exact authority_counted hclosed
    | anchored hanchored =>
      obtain ⟨c, hhead, hends⟩ := hanchored
      have hc : c ∈ path := List.mem_of_mem_filter (List.mem_of_mem_head? hhead)
      cases (not_isBlank_of_ends hends).symm.trans (hpath c hc)
    | blank _ hhost => rw [counted, hhost]
  · rw [counted_append host hpath]
    cases h with
    | closed hclosed => exact authority_append hne (.inl hclosed)
    | anchored hanchored => exact authority_append hne (.inr hanchored.ends_counted)
    | blank hblank _ => exact absurd hblank hpath

/-! ### The host alone -/

theorem counted_slash (text : List Char) : counted (text ++ ['/']) = unbroken text ++ ['/'] := by
  have hslash : ¬ ∀ c ∈ ['/'], isBlank c = true :=
    fun h => absurd (h '/' List.mem_cons_self) (by decide)
  rw [counted_append text hslash]
  rfl

/-- What makes an address with nothing behind it but a slash. -/
theorem of_parse_host (h : parse (opening scheme ++ (host ++ ['/'])) = .ok base) :
    base.scheme = scheme ∧ (unbroken host).dropWhile Path.isSlash ≠ [] ∧
      readPlace scheme (placeText (authority (unbroken host))) = .ok base.place := by
  rw [parse_opening, counted_slash, readRest_eq_ok_iff] at h
  obtain ⟨place, hplace, rfl⟩ := h
  have hne : (unbroken host).dropWhile Path.isSlash ≠ [] := by
    intro hslashes
    have hnone : authority (unbroken host ++ ['/']) = [] := by
      rw [authority, List.dropWhile_append, hslashes]
      rfl
    rw [hnone] at hplace
    cases hplace
  have hends : Ends ['/'] := by
    rintro _ ⟨⟩
    rfl
  rw [authority_append hne (.inr hends)] at hplace
  exact ⟨rfl, hne, hplace⟩

/-- Behind a guarded path, an address leads where the host alone leads. -/
theorem place_of_guarded (hbase : parse (opening scheme ++ (host ++ ['/'])) = .ok base)
    (h : parse (opening scheme ++ (host ++ path)) = .ok url) (hguarded : Guarded host path) :
    url.place = base.place := by
  obtain ⟨-, hne, hplace⟩ := of_parse_host hbase
  rw [parse_opening, readRest_eq_ok_iff, authority_of_guarded hne hguarded, hplace] at h
  obtain ⟨place, hsame, rfl⟩ := h
  exact (Except.ok.inj hsame).symm

/-! ### Leading elsewhere -/

/-- What stands behind the last `@` of an authority is its place. -/
theorem placeText_user (user : List Char) {place : List Char} (h : '@' ∉ place) :
    placeText (user ++ '@' :: place) = place := by
  have hcontains : (user ++ '@' :: place).contains '@' = true := by simp
  have hplace : (user ++ '@' :: place).reverse.takeWhile (· != '@') = place.reverse := by
    rw [List.reverse_append, List.reverse_cons, List.append_assoc, List.takeWhile_append_of_pos,
      List.singleton_append, List.takeWhile_cons_of_neg (by simp), List.append_nil]
    intro c hc
    exact bne_iff_ne.mpr fun heq => h (heq ▸ List.mem_reverse.mp hc)
  rw [placeText, splitUser, if_pos hcontains, hplace]
  exact List.reverse_reverse place

/-- Does a text stand for a place in any authority? -/
structure IsPlace (text : List Char) (place : Host) : Prop where
  plain : ∀ c ∈ text, isBreak c = false ∧ endsAuthority c = false ∧ c ≠ '@'
  read : ∀ scheme, readPlace scheme text = .ok (place, none)

/-- A path that begins with anything else than the end of an authority, and goes on with an `@`
and another place, leads there from any host that leaves its authority open. -/
theorem leads_elsewhere (hne : (unbroken host).dropWhile Path.isSlash ≠ [])
    (hopen : ¬ Closed (unbroken host)) {c : Char} (hbreak : isBreak c = false)
    (hends : endsAuthority c = false) {text : List Char} {place : Host}
    (h : IsPlace text place) :
    ∃ url, parse (opening scheme ++ (host ++ (c :: '@' :: text ++ ['/']))) = .ok url ∧
      url.place = (place, none) := by
  have hplain : ∀ d ∈ c :: '@' :: text, isBreak d = false ∧ endsAuthority d = false := by
    simp only [List.forall_mem_cons]
    exact ⟨⟨hbreak, hends⟩, ⟨rfl, rfl⟩, fun d hd => ⟨(h.plain d hd).1, (h.plain d hd).2.1⟩⟩
  have hcounted : counted (host ++ (c :: '@' :: text ++ ['/'])) =
      unbroken host ++ (c :: '@' :: text ++ ['/']) := by
    rw [← List.append_assoc, counted_slash, unbroken_append, List.append_assoc,
      unbroken_eq_self fun d hd => (hplain d hd).1]
  have hauthority : authority (unbroken host ++ (c :: '@' :: text ++ ['/'])) =
      ((unbroken host).dropWhile Path.isSlash ++ [c]) ++ '@' :: text := by
    rw [authority_append_of_open hne hopen, List.takeWhile_append_of_pos]
    · simp [endsAuthority, Path.isSlash]
    · intro d hd
      simp [(hplain d hd).2]
  rw [parse_opening, hcounted]
  refine ⟨_, readRest_eq_ok_iff.mpr ⟨(place, none), ?_, rfl⟩, rfl⟩
  rw [hauthority, placeText_user _ fun hat => (h.plain _ hat).2.2 rfl]
  exact h.read scheme

/-- Two places that are not the same. -/
theorem isPlace_loopback :
    IsPlace ['[', ':', ':', '1', ']'] (.ipv6 ⟨[0, 0, 0, 0, 0, 0, 0, 1], rfl⟩) where
  plain := List.forall_iff_forall_mem.mp (by decide)
  read scheme := by cases scheme <;> rfl

theorem isPlace_unspecified :
    IsPlace ['[', ':', ':', ']'] (.ipv6 ⟨[0, 0, 0, 0, 0, 0, 0, 0], rfl⟩) where
  plain := List.forall_iff_forall_mem.mp (by decide)
  read scheme := by cases scheme <;> rfl

/-- All paths that begin with some character lead to the place of a host exactly if the character
ends an authority, or the host does. -/
theorem keeps_place_iff (hbase : parse (opening scheme ++ (host ++ ['/'])) = .ok base) {c : Char}
    (hbreak : isBreak c = false) :
    (∀ rest url, parse (opening scheme ++ (host ++ c :: rest)) = .ok url →
      url.place = base.place) ↔ Closed (unbroken host) ∨ endsAuthority c = true := by
  constructor
  · intro h
    by_contra hfalse
    obtain ⟨hopen, hends⟩ := not_or.mp hfalse
    obtain ⟨-, hne, -⟩ := of_parse_host hbase
    rw [Bool.not_eq_true] at hends
    obtain ⟨url, hurl, hplace⟩ := leads_elsewhere hne hopen hbreak hends isPlace_loopback
    obtain ⟨url', hurl', hplace'⟩ := leads_elsewhere hne hopen hbreak hends isPlace_unspecified
    have hsame : url.place = url'.place := (h _ _ hurl).trans (h _ _ hurl').symm
    rw [hplace, hplace'] at hsame
    exact absurd hsame (by decide)
  · rintro (hclosed | hends) rest url hurl
    · exact place_of_guarded hbase hurl (.closed hclosed)
    · exact place_of_guarded hbase hurl (.anchored (anchored_cons hends rest))

end

end Dialplan.Url
