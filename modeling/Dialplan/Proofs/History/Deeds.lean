import Dialplan.Connect.History

/-! Deeds. What became of the uses of a node that remembers its races, the latest first, tells
what it remembers: of each child its most recent win, unless the node has been reset since, or
the child has since been preferred and another child won (`Retains`). -/

namespace Dialplan

/-- What became of one use of a node. A call was won by a child, behind a lead or without one,
it failed, or it was dropped; or the node was reset. -/
inductive Deed where
  | won (lead : Option Nat) (winner : Nat) (win : Win)
  | failed
  | dropped
  | reset
deriving DecidableEq

namespace Deed

/-- The winner of a call is one of so many children. -/
def Within (count : Nat) : Deed → Prop
  | won _ winner _ => winner < count
  | failed => True
  | dropped => True
  | reset => True

/-- No earlier win of a child counts after this: the child won again, or another child won
while it was preferred, or the node was reset. -/
def Supersedes (i : Nat) : Deed → Prop
  | won lead winner _ => winner = i ∨ lead = some i ∧ winner ≠ i
  | failed => False
  | dropped => False
  | reset => True

end Deed

/-- A win of a child that still counts. -/
def Retains (deeds : List Deed) (i : Nat) (win : Win) : Prop :=
  ∃ later lead earlier, deeds = later ++ .won lead i win :: earlier ∧
    ∀ deed ∈ later, ¬ deed.Supersedes i

theorem retains_cons {deed : Deed} {deeds : List Deed} {i : Nat} {win : Win} :
    Retains (deed :: deeds) i win ↔
      (∃ lead, deed = .won lead i win) ∨ ¬ deed.Supersedes i ∧ Retains deeds i win := by
  constructor
  · rintro ⟨later, lead, earlier, hdeeds, hlater⟩
    cases later with
    | nil => exact .inl ⟨lead, (List.cons.inj hdeeds).1⟩
    | cons first later =>
      obtain ⟨rfl, rfl⟩ := List.cons.inj hdeeds
      obtain ⟨hfirst, hlater⟩ := List.forall_mem_cons.mp hlater
      exact .inr ⟨hfirst, later, lead, earlier, rfl, hlater⟩
  · rintro (⟨lead, rfl⟩ | ⟨hdeed, later, lead, earlier, rfl, hlater⟩)
    · exact ⟨[], lead, deeds, rfl, nofun⟩
    · exact ⟨deed :: later, lead, earlier, rfl, List.forall_mem_cons.mpr ⟨hdeed, hlater⟩⟩

namespace History

/-- The memory after a deed. -/
def after (history : History) : Deed → History
  | .won lead winner win => history.afterWin lead winner win
  | .failed => history
  | .dropped => history
  | .reset => History.forget history

theorem length_after (history : History) (deed : Deed) :
    (history.after deed).length = history.length := by
  cases deed with
  | won lead winner win => exact history.length_afterWin lead winner win
  | failed => rfl
  | dropped => rfl
  | reset => exact List.length_map _

/-- The win is entered, and the entry of a lead that lost is emptied. -/
theorem getElem?_afterWin {history : History} {winner : Nat} (hwinner : winner < history.length)
    (lead : Option Nat) (win : Win) (i : Nat) :
    (history.afterWin lead winner win)[i]? =
      if winner = i then some (some win)
      else if lead = some i then history[i]?.map fun _ => none
      else history[i]? := by
  unfold afterWin
  cases lead with
  | none => grind
  | some lead => grind

/-- A deed enters the win of its winner, and leaves the entries that it does not supersede. -/
theorem getElem?_after {history : History} {deed : Deed} (hdeed : deed.Within history.length)
    {i : Nat} {win : Win} :
    (history.after deed)[i]? = some (some win) ↔
      (∃ lead, deed = .won lead i win) ∨
        ¬ deed.Supersedes i ∧ history[i]? = some (some win) := by
  cases deed with
  | won lead winner win' =>
    rw [after, getElem?_afterWin hdeed, Deed.Supersedes]
    by_cases hi : winner = i
    · simp [hi]
    · by_cases hlead : lead = some i
      · simp [hi, hlead]
      · simp [hi, hlead]
  | failed => simp [after, Deed.Supersedes]
  | dropped => simp [after, Deed.Supersedes]
  | reset =>
    have hnone : (History.forget history)[i]? ≠ some (some win) := by
      rw [History.forget, List.getElem?_map]
      cases history[i]? <;> exact nofun
    exact ⟨fun h => absurd h hnone, fun h => by simp [Deed.Supersedes] at h⟩

/-- The entries of a memory are the wins that the deeds retain. -/
def Reflects (history : History) (deeds : List Deed) : Prop :=
  ∀ i win, history[i]? = some (some win) ↔ Retains deeds i win

theorem reflects_blank (count : Nat) : (blank count).Reflects [] := by
  intro i win
  simp [blank, Retains, List.getElem?_replicate]

theorem Reflects.after {history : History} {deeds : List Deed} (h : history.Reflects deeds)
    (deed : Deed) (hdeed : deed.Within history.length) :
    (history.after deed).Reflects (deed :: deeds) := by
  intro i win
  rw [getElem?_after hdeed, retains_cons, h i win]

/-- The other entries are empty. -/
theorem Reflects.empty_iff {history : History} {deeds : List Deed} (h : history.Reflects deeds)
    {i : Nat} :
    history[i]? = some none ↔ i < history.length ∧ ∀ win, ¬ Retains deeds i win := by
  constructor
  · intro hi
    refine ⟨(List.getElem?_eq_some_iff.mp hi).1, fun win hwin => ?_⟩
    have hwin := (h i win).mpr hwin
    rw [hi] at hwin
    cases hwin
  · rintro ⟨hlt, hnone⟩
    rw [List.getElem?_eq_getElem hlt]
    cases hentry : history[i] with
    | none => rfl
    | some win =>
      exact absurd ((h i win).mp (List.getElem?_eq_some_iff.mpr ⟨hlt, hentry⟩)) (hnone win)

end History

end Dialplan
