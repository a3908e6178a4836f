import Mathlib.Tactic.ByContra
import Dialplan.Connect.History

/-! The preferred child. The entries of a history are ranked by three keys: what a win took,
then its priority, then its place. `History.preferred` is the place of the foremost entry, if
there is any. -/

namespace Dialplan

/-- A win at one place goes before one at another: it took less, or the same at a higher
priority, or the same at the same priority at an earlier place. -/
def Win.Precedes (a : Win) (i : Nat) (b : Win) (j : Nat) : Prop :=
  a.latency < b.latency ∨ a.latency = b.latency ∧
    (b.priority < a.priority ∨ a.priority = b.priority ∧ i < j)

namespace Win.Precedes

variable {a b c : Win} {i j k : Nat}

theorem of_better (h : History.better a b = true) : a.Precedes i b j := by
  rcases Bool.or_eq_true_iff.mp h with h | h
  · exact .inl (of_decide_eq_true h)
  · obtain ⟨hlatency, hpriority⟩ := Bool.and_eq_true_iff.mp h
    exact .inr ⟨of_decide_eq_true hlatency, .inl (of_decide_eq_true hpriority)⟩

/-- Of two wins of which the later one is not better, the earlier one goes first. -/
theorem of_not_better (h : History.better b a = false) (hij : i < j) : a.Precedes i b j := by
  obtain ⟨hlatency, hrest⟩ := Bool.or_eq_false_iff.mp h
  rcases Nat.lt_or_eq_of_le (Nat.not_lt.mp (of_decide_eq_false hlatency)) with hlt | heq
  · exact .inl hlt
  · refine .inr ⟨heq, ?_⟩
    rw [heq, decide_eq_true rfl, Bool.true_and] at hrest
    have hle := Int64.not_lt.mp (of_decide_eq_false hrest)
    by_cases hpriority : a.priority = b.priority
    · exact .inr ⟨hpriority, hij⟩
    · exact .inl (Int64.lt_of_le_of_ne hle (Ne.symm hpriority))

theorem trans (hab : a.Precedes i b j) (hbc : b.Precedes j c k) : a.Precedes i c k := by
  rcases hab with hab | ⟨hab, hab'⟩ <;> rcases hbc with hbc | ⟨hbc, hbc'⟩
  · exact .inl (Nat.lt_trans hab hbc)
  · exact .inl (hbc ▸ hab)
  · exact .inl (hab ▸ hbc)
  · refine .inr ⟨hab.trans hbc, ?_⟩
    rcases hab' with hab | ⟨hab, hij⟩ <;> rcases hbc' with hbc | ⟨hbc, hjk⟩
    · exact .inl (Int64.lt_trans hbc hab)
    · exact .inl (hbc ▸ hab)
    · exact .inl (hab ▸ hbc)
    · exact .inr ⟨hab.trans hbc, Nat.lt_trans hij hjk⟩

theorem irrefl : ¬ a.Precedes i a i := by
  rintro (h | ⟨-, h | ⟨-, h⟩⟩)
  · exact Nat.lt_irrefl _ h
  · exact Int64.lt_irrefl h
  · exact Nat.lt_irrefl _ h

end Win.Precedes

namespace History

/-- The entry at a place holds a win that goes before all others. -/
def Foremost (history : History) (i : Nat) : Prop :=
  ∃ win, history[i]? = some (some win) ∧
    ∀ j other, history[j]? = some (some other) → j ≠ i → win.Precedes i other j

/-- No entry holds a win. -/
def Empty (history : History) : Prop := ∀ (i : Nat) win, history[i]? ≠ some (some win)

theorem Foremost.unique {history : History} {i j : Nat} (hi : history.Foremost i)
    (hj : history.Foremost j) : i = j := by
  obtain ⟨win, hwin, hi⟩ := hi
  obtain ⟨other, hother, hj⟩ := hj
  by_contra hne
  exact ((hi j other hother (Ne.symm hne)).trans (hj i win hwin hne)).irrefl

/-- A win goes before all entries of a history that starts at some place, but for its own. -/
def Headed (history : History) (start : Nat) (win : Win) (k : Nat) : Prop :=
  ∀ j other, history[j]? = some (some other) → start + j ≠ k → win.Precedes k other (start + j)

theorem Headed.cons {history : History} {start k : Nat} {win : Win} {entry : Option Win}
    (h : history.Headed (start + 1) win k)
    (hentry : ∀ other, entry = some other → start ≠ k → win.Precedes k other start) :
    Headed (entry :: history) start win k := by
  intro j other hj hne
  cases j with
  | zero => exact hentry other (Option.some.inj hj) hne
  | succ j =>
    have hplace : start + (j + 1) = start + 1 + j := by omega
    rw [hplace] at hne ⊢
    exact h j other hj hne

/-- A win stands at a place of a history that starts at another place. -/
def Stands (history : History) (start : Nat) (win : Win) (k : Nat) : Prop :=
  ∃ i, k = start + i ∧ history[i]? = some (some win)

theorem Stands.cons {history : History} {start k : Nat} {win : Win}
    (h : history.Stands (start + 1) win k) (entry : Option Win) :
    start < k ∧ Stands (entry :: history) start win k := by
  obtain ⟨i, hk, hi⟩ := h
  exact ⟨by omega, i + 1, by omega, hi⟩

/-- What goes before the foremost entry goes before all. -/
theorem Headed.of_precedes {history : History} {start i k : Nat} {first win : Win}
    (h : history.Headed start win k) (hs : history.Stands start win k)
    (hfirst : first.Precedes i win k) : history.Headed start first i := by
  intro j other hj _
  by_cases hk : start + j = k
  · obtain ⟨j', rfl, hwin⟩ := hs
    obtain rfl := Nat.add_left_cancel hk
    rwa [Option.some.inj (Option.some.inj (hj.symm.trans hwin))]
  · exact hfirst.trans (h j other hj hk)

/-- What is found in a history that starts at a place goes before all else in it. -/
theorem bestFrom_spec : ∀ (history : History) (start : Nat),
    match bestFrom start history with
    | none => history.Empty
    | some (k, win) => history.Stands start win k ∧ history.Headed start win k
  | [], _ => fun i win h => nomatch h
  | none :: rest, start => by
    have hrest := bestFrom_spec rest (start + 1)
    rw [bestFrom]
    generalize bestFrom (start + 1) rest = found at hrest ⊢
    cases found with
    | none =>
      intro i win h
      cases i with
      | zero => cases h
      | succ i => exact hrest i win h
    | some best => exact ⟨(hrest.1.cons none).2, hrest.2.cons nofun⟩
  | some first :: rest, start => by
    have hrest := bestFrom_spec rest (start + 1)
    have hfirst : Stands (some first :: rest) start first start := ⟨0, rfl, rfl⟩
    rw [bestFrom]
    generalize bestFrom (start + 1) rest = found at hrest ⊢
    cases found with
    | none =>
      have hbefore : Headed rest (start + 1) first start :=
        fun j other hj => absurd hj (hrest j other)
      exact ⟨hfirst, hbefore.cons fun _ _ hne => absurd rfl hne⟩
    | some best =>
      obtain ⟨k, win⟩ := best
      obtain ⟨hstands, hbefore⟩ := hrest
      obtain ⟨hlt, hstands'⟩ := hstands.cons (some first)
      dsimp only
      cases hbetter : better win first with
      | true =>
        refine ⟨hstands', hbefore.cons ?_⟩
        rintro _ ⟨⟩ -
        exact .of_better hbetter
      | false =>
        have hbefore := hbefore.of_precedes hstands (.of_not_better hbetter hlt)
        exact ⟨hfirst, hbefore.cons fun _ _ hne => absurd rfl hne⟩

/-- The preferred child is the one whose entry goes before all others. -/
theorem preferred_eq_some_iff {history : History} {i : Nat} :
    history.preferred = some i ↔ history.Foremost i := by
  have hspec := bestFrom_spec history 0
  unfold preferred
  generalize bestFrom 0 history = found at hspec ⊢
  cases found with
  | none => exact ⟨nofun, fun ⟨win, hi, _⟩ => absurd hi (hspec i win)⟩
  | some best =>
    obtain ⟨k, win⟩ := best
    obtain ⟨⟨k, rfl, hk⟩, hbefore⟩ := hspec
    rw [Nat.zero_add] at hbefore ⊢
    have hforemost : history.Foremost k :=
      ⟨win, hk, fun j other hj hne => by simpa using hbefore j other hj (by simpa using hne)⟩
    refine ⟨?_, fun h => congrArg some (hforemost.unique h)⟩
    rintro ⟨⟩
    exact hforemost

/-- No child is preferred when none has an entry. -/
theorem preferred_eq_none_iff {history : History} :
    history.preferred = none ↔ history.Empty := by
  have hspec := bestFrom_spec history 0
  unfold preferred
  generalize bestFrom 0 history = found at hspec ⊢
  cases found with
  | none => exact ⟨fun _ => hspec, fun _ => rfl⟩
  | some best =>
    obtain ⟨⟨i, -, hi⟩, -⟩ := hspec
    exact ⟨nofun, fun h => absurd hi (h i _)⟩

end History

end Dialplan
