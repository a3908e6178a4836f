import Dialplan.Connect.Progress

/-! Parts of what is in progress. What an attempt has in progress stands below its root along
paths of child numbers; the moments that a race waits for are those of its running children, and
the end of the head start. -/

namespace Dialplan

/-- What is in progress at the end of a path of child numbers. The transport that a cached node
tries again counts as a second child. -/
inductive Progress.Part : Progress → List Nat → Progress → Prop where
  | self {p} : Part p [] p
  | delegated {p path part} : Part p path part → Part (.delegated p) (0 :: path) part
  | trying {index bound failures deadline p path part} : Part p path part →
      Part (.sequencing index bound failures (.trying deadline p)) (index :: path) part
  | retrying {timer started name p path part} : Part p path part →
      Part (.retrying timer started name p) (1 :: path) part
  | uncached {started p path part} : Part p path part → Part (.uncached started p) (0 :: path) part
  | running {lead holding order slots failures i p path part} :
      slots[i]? = some (.running p) → Part p path part →
      Part (.racing lead holding order slots failures) (i :: path) part
  | branched {outcome p path part} : Part p path part →
      Part (.branched outcome p) ((if outcome then 0 else 1) :: path) part

namespace Progress

theorem mem_timersSlots {slots : List (Race.Slot Progress)} {timer : Timer} :
    timer ∈ timersSlots slots ↔
      ∃ (i : Nat) (p : Progress), slots[i]? = some (.running p) ∧ timer ∈ p.timers := by
  induction slots with
  | nil => simp [timersSlots]
  | cons slot rest ih =>
    rw [timersSlots, List.mem_append, ih]
    constructor
    · rintro (hm | ⟨i, p, hi, hm⟩)
      · cases slot with
        | running p => exact ⟨0, p, rfl, hm⟩
        | held => cases hm
        | failed => cases hm
      · exact ⟨i + 1, p, hi, hm⟩
    · rintro ⟨i, p, hi, hm⟩
      cases i with
      | zero =>
        obtain rfl := Option.some.inj hi
        exact .inl hm
      | succ i => exact .inr ⟨i, p, hi, hm⟩

theorem mem_timers_racing {lead : Option (Nat × Timer)} {holding : Bool} {order : List Nat}
    {slots : List (Race.Slot Progress)} {failures : List Error} {timer : Timer} :
    timer ∈ (racing lead holding order slots failures).timers ↔
      (holding = true ∧ ∃ i, lead = some (i, timer)) ∨
        ∃ (i : Nat) (p : Progress), slots[i]? = some (.running p) ∧ timer ∈ p.timers := by
  rw [timers, List.mem_append, mem_timersSlots]
  cases holding with
  | false => simp
  | true =>
    cases lead with
    | none => simp
    | some lead =>
      obtain ⟨i, timer'⟩ := lead
      simp [eq_comm]

/-- A race yields with any of its children. -/
theorem isYieldingSlots_of_running {slots : List (Race.Slot Progress)} {i : Nat} {p : Progress}
    (hs : slots[i]? = some (.running p)) (hp : p.isYielding = true) :
    isYieldingSlots slots = true := by
  induction slots generalizing i with
  | nil => cases hs
  | cons slot rest ih =>
    rw [isYieldingSlots, Bool.or_eq_true]
    cases i with
    | zero =>
      obtain rfl := Option.some.inj hs
      exact .inl hp
    | succ i => exact .inr (ih hs)

end Progress

end Dialplan
