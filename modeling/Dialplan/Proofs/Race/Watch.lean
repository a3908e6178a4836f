import Dialplan.Proofs.Race.Log

/-! Watched races. The state of a race agrees with the log of its children's polls
(`Agrees`): the slots hold what the log left of each child, and the failures are those of
the log. Looks and releases keep the agreement. -/

namespace Dialplan.Race

variable {σ ω : Type}

/-- The order of turns: a lead comes first, the others as they are listed. -/
def turnOrder (count : Nat) : Option Nat → List Nat
  | none => List.range count
  | some lead => lead :: (List.range count).filter (· ≠ lead)

/-- A race that is about to start. -/
def State.initial (count : Nat) (lead : Option Nat) (start : σ) : State σ :=
  match lead with
  | none => .together count start
  | some lead => .behind count lead start

theorem turnOrder_nodup (count : Nat) (lead : Option Nat) : (turnOrder count lead).Nodup := by
  cases lead with
  | none => exact List.nodup_range
  | some lead => exact List.nodup_cons.mpr ⟨by simp, List.nodup_range.filter _⟩

/-- What a poll makes of a child's slot. -/
def Slot.after : Poll σ → Slot σ
  | .pending s => .running s
  | .ready _ => .failed

theorem Slot.pending_of_after {answer : Poll σ} {s : σ} (h : Slot.after answer = .running s) :
    answer = .pending s := by
  cases answer with
  | pending t =>
    cases h
    rfl
  | ready result => cases h

/-- Is the child with a number running? -/
def State.runs (state : State σ) (i : Nat) : Bool := state.slots[i]?.any Slot.isRunning

/-- The state after a look that was no success. -/
def State.looked (state : State σ) (look : Look σ) : State σ :=
  { state with
    slots := state.slots.set look.child (Slot.after look.answer)
    failures := state.failures ++ look.error?.toList }

namespace State

theorem runs_iff {state : State σ} {i : Nat} :
    state.runs i = true ↔ ∃ s, state.slots[i]? = some (.running s) := by
  unfold runs
  cases state.slots[i]? with
  | none => simp
  | some slot => cases slot <;> simp [Slot.isRunning]

theorem behind_self {count lead : Nat} (start : σ) (h : lead < count) :
    (behind count lead start).slots[lead]? = some (.running start) := by
  simp [behind, h]

theorem behind_other {count lead i : Nat} (start : σ) (h : i < count) (hne : i ≠ lead) :
    (behind count lead start).slots[i]? = some .held := by
  rw [behind, List.getElem?_set_ne (Ne.symm hne)]
  simp [h]

theorem looked_self {state : State σ} {look : Look σ} (h : look.child < state.slots.length) :
    (state.looked look).slots[look.child]? = some (Slot.after look.answer) := by
  simp [looked, h]

theorem looked_other (state : State σ) {look : Look σ} {i : Nat} (hne : i ≠ look.child) :
    (state.looked look).slots[i]? = state.slots[i]? := by
  simp [looked, List.getElem?_set_ne (Ne.symm hne)]

/-- A look leaves no child held back that it has polled. -/
theorem looked_held {state : State σ} {look : Look σ} {i : Nat}
    (h : look.child < state.slots.length) (hi : (state.looked look).slots[i]? = some .held) :
    i ≠ look.child ∧ state.slots[i]? = some .held := by
  by_cases hne : i = look.child
  · rw [hne, looked_self h] at hi
    unfold Slot.after at hi
    split at hi <;> cases hi
  · exact ⟨hne, looked_other state hne ▸ hi⟩

theorem release_slot (start : σ) (state : State σ) (i : Nat) :
    (state.release start).slots[i]? = (state.slots[i]?).map (Slot.release start) := by
  simp [release]

end State

/-- The children that are out after a log: all of them, or the lead alone as long as its
head start is not over and it has not failed. -/
def out (count : Nat) (lead : Option Nat) (past : Bool) (log : List (Look σ)) : List Nat :=
  match lead with
  | none => turnOrder count none
  | some l => if past || (failures log).contains l then turnOrder count (some l) else [l]

/-- The state of a race says what the log of its children's polls says. `past` tells whether
the head start is over. -/
structure Agrees (start : σ) (count : Nat) (lead : Option Nat) (past : Bool)
    (state : State σ) (log : List (Look σ)) : Prop where
  length : state.slots.length = count
  order : state.order = turnOrder count lead
  running : ∀ i s, state.slots[i]? = some (.running s) → stateAfter start log i = some s
  held : ∀ i, state.slots[i]? = some .held → stateAfter start log i = some start
  failed : ∀ i, state.slots[i]? = some .failed ↔ i ∈ failures log
  failures : state.failures = errors log
  continuous : Continuous start log
  unwon : winner? log = none
  behind : state.holding = true →
    ∃ l, lead = some l ∧ ∀ i, i < count → i ≠ l → state.slots[i]? = some .held
  leading : ∀ l, lead = some l → l < count ∧ state.slots[l]? ≠ some Slot.held
  released : state.holding = false → ∀ i : Nat, state.slots[i]? ≠ some Slot.held
  waiting : state.holding = true → past = false
  patient : past = false → ∀ l, lead = some l →
    (state.holding = true ∨ l ∈ Race.failures log) ∧ HeldBack l log

namespace Agrees

variable {start : σ} {count : Nat} {lead : Option Nat} {past : Bool} {state : State σ}
  {log : List (Look σ)}

theorem together (start : σ) (count : Nat) :
    Agrees start count none false (.together count start) [] := by
  have hslot : ∀ {i : Nat} {slot : Slot σ},
      (State.together count start).slots[i]? = some slot → slot = .running start :=
    fun h => State.eq_of_mem_together (List.mem_of_getElem? h)
  refine ⟨by simp [State.together], rfl, fun i s h => ?_, fun i h => (nomatch hslot h), fun i => ?_,
    rfl, Continuous.nil start, rfl, nofun, nofun, fun _ i h => (nomatch hslot h), nofun, nofun⟩
  · cases hslot h
    rfl
  · exact ⟨fun h => (nomatch hslot h), fun h => (nomatch h)⟩

theorem behind_lead (start : σ) {count l : Nat} (hl : l < count) :
    Agrees start count (some l) false (.behind count l start) [] := by
  have hslot : ∀ {i : Nat} {slot : Slot σ}, (State.behind count l start).slots[i]? = some slot →
      slot = .held ∨ slot = .running start :=
    fun h => State.eq_or_eq_of_mem_behind (List.mem_of_getElem? h)
  refine ⟨by simp [State.behind], rfl, fun i s h => ?_, fun _ _ => rfl, fun i => ?_, rfl,
    Continuous.nil start, rfl, fun _ => ⟨l, rfl, fun i => State.behind_other start⟩, ?_, nofun,
    fun _ => rfl, ?_⟩
  · rcases hslot h with h | h
    · cases h
    · cases h
      rfl
  · refine ⟨fun h => ?_, fun h => (nomatch h)⟩
    rcases hslot h with h | h
    · cases h
    · cases h
  · rintro _ ⟨⟩
    refine ⟨hl, fun h => ?_⟩
    rw [State.behind_self start hl] at h
    cases h
  · rintro - _ ⟨⟩
    exact ⟨.inl rfl, HeldBack.nil l⟩

theorem initial (start : σ) (count : Nat) (lead : Option Nat)
    (hl : ∀ l, lead = some l → l < count) :
    Agrees start count lead false (.initial count lead start) [] := by
  cases lead with
  | none => exact together start count
  | some l => exact behind_lead start (hl l rfl)

/-- While the race holds back, no child but the lead runs. -/
theorem lead_of_running (h : Agrees start count lead past state log)
    (hh : state.holding = true) {l i : Nat} {s : σ} (hl : lead = some l)
    (hs : state.slots[i]? = some (.running s)) : i = l := by
  obtain ⟨l', hl', hb⟩ := h.behind hh
  cases hl.symm.trans hl'
  by_contra hne
  rw [hb i (h.length ▸ (List.getElem?_eq_some_iff.mp hs).1) hne] at hs
  cases hs

/-- A look at a running child keeps the agreement. -/
theorem look (h : Agrees start count lead past state log) (look : Look σ)
    (hs : state.slots[look.child]? = some (.running look.state))
    (hn : look.connection? = none) :
    Agrees start count lead past (state.looked look) (log ++ [look]) := by
  have hi : look.child < state.slots.length := (List.getElem?_eq_some_iff.mp hs).1
  have hafter : ∀ j, j ≠ look.child → stateAfter start (log ++ [look]) j =
      stateAfter start log j := by
    intro j hj
    rw [stateAfter_snoc, if_neg (Ne.symm hj)]
  have hnot : look.child ∉ Race.failures log := fun hf => by
    rw [(h.failed _).mpr hf] at hs
    cases hs
  have hheld : ∀ {j : Nat}, (state.looked look).slots[j]? = some .held →
      j ≠ look.child ∧ state.slots[j]? = some .held := State.looked_held hi
  have hfailures : Race.failures (log ++ [look]) = Race.failures log ++
      (look.error?.map fun _ => look.child).toList := failures_snoc log look
  refine ⟨by simpa [State.looked] using h.length, h.order, ?_, ?_, ?_, ?_,
    h.continuous.snoc (h.running _ _ hs), ?_, ?_, ?_, ?_, h.waiting, ?_⟩
  · intro j s hj
    by_cases hc : j = look.child
    · rw [hc, State.looked_self hi] at hj
      rw [stateAfter_snoc, if_pos hc.symm, Look.left?,
        Slot.pending_of_after (Option.some.inj hj)]
    · rw [hafter j hc]
      exact h.running j s (State.looked_other state hc ▸ hj)
  · intro j hj
    obtain ⟨hc, hj⟩ := hheld hj
    rw [hafter j hc]
    exact h.held j hj
  · intro j
    rw [hfailures, List.mem_append]
    by_cases hc : j = look.child
    · subst hc
      rw [State.looked_self hi]
      obtain ⟨child, s, answer⟩ := look
      cases answer with
      | pending s => simpa [Slot.after, Look.error?] using hnot
      | ready result =>
        cases result with
        | ok connection => cases hn
        | error e => simp [Slot.after, Look.error?]
    · rw [State.looked_other state hc, h.failed j]
      refine ⟨.inl, fun hj => hj.resolve_right fun hj => ?_⟩
      cases he : look.error? with
      | none => simp [he] at hj
      | some e => exact hc (by simpa [he] using hj)
  · rw [errors_snoc, ← h.failures]
    rfl
  · rw [winner?_snoc h.unwon, hn]
    rfl
  · intro hh
    obtain ⟨l, hl, hb⟩ := h.behind hh
    refine ⟨l, hl, fun j hj hne => ?_⟩
    have hc : j ≠ look.child := fun hc => by
      rw [← hc, hb j hj hne] at hs
      cases hs
    rw [State.looked_other state hc]
    exact hb j hj hne
  · exact fun l hl => ⟨(h.leading l hl).1, fun hj => (h.leading l hl).2 (hheld hj).2⟩
  · exact fun hh j hj => h.released hh j (hheld hj).2
  · intro ho l hl
    obtain ⟨hp, hb⟩ := h.patient ho l hl
    refine ⟨hp.imp_right fun hf => by rw [hfailures]; exact List.mem_append_left _ hf,
      hb.snoc fun hne => hp.resolve_left fun hh => ?_⟩
    exact hne (h.lead_of_running hh hl hs)

/-- A child that is not held back runs as long as it has not resolved. -/
theorem runs_eq (h : Agrees start count lead past state log) {i : Nat} (hi : i < count)
    (hh : state.slots[i]? ≠ some Slot.held) :
    state.runs i = (stateAfter start log i).isSome := by
  have hlt : i < state.slots.length := by rwa [h.length]
  cases hs : state.slots[i] with
  | held => exact absurd (List.getElem?_eq_some_iff.mpr ⟨hlt, hs⟩) hh
  | running s =>
    have hs := List.getElem?_eq_some_iff.mpr ⟨hlt, hs⟩
    rw [h.running i s hs]
    simp [State.runs, hs, Slot.isRunning]
  | failed =>
    have hs := List.getElem?_eq_some_iff.mpr ⟨hlt, hs⟩
    rw [stateAfter_of_failed h.continuous ((h.failed i).mp hs)]
    simp [State.runs, hs, Slot.isRunning]

/-- When no child runs any more, the lead has failed. -/
theorem lead_failed (h : Agrees start count lead past state log)
    (hn : state.slots.any Slot.isRunning = false) {l : Nat} (hl : lead = some l) :
    l ∈ Race.failures log := by
  obtain ⟨hlt, hh⟩ := h.leading l hl
  have hlt : l < state.slots.length := by rwa [h.length]
  refine (h.failed l).mp (List.getElem?_eq_some_iff.mpr ⟨hlt, ?_⟩)
  cases hs : state.slots[l] with
  | held => exact absurd (List.getElem?_eq_some_iff.mpr ⟨hlt, hs⟩) hh
  | running s =>
    have := List.any_eq_false.mp hn _ (List.getElem_mem hlt)
    simp [hs, Slot.isRunning] at this
  | failed => rfl

/-- A race that holds back while something runs has a lead that has not failed. -/
theorem lead_runs (h : Agrees start count lead past state log) (hh : state.holding = true)
    (hr : state.slots.any Slot.isRunning = true) {l : Nat} (hl : lead = some l) :
    l ∉ Race.failures log := by
  intro hf
  obtain ⟨slot, hm, hslot⟩ := List.any_eq_true.mp hr
  obtain ⟨i, hi⟩ := List.mem_iff_getElem?.mp hm
  cases slot with
  | held => cases hslot
  | running s =>
    obtain rfl := h.lead_of_running hh hl hi
    rw [(h.failed i).mpr hf] at hi
    cases hi
  | failed => cases hslot

/-- Releasing children keeps the agreement, if the head start is over or the lead failed. -/
theorem release {past' : Bool} (h : Agrees start count lead past state log)
    (hl : past' = false → past = false ∧ ∀ l, lead = some l → l ∈ Race.failures log) :
    Agrees start count lead past' (state.release start) log := by
  have hheld : ∀ i : Nat, (state.release start).slots[i]? ≠ some Slot.held := by
    intro i hi
    rw [State.release_slot] at hi
    obtain ⟨slot, -, hr⟩ := Option.map_eq_some_iff.mp hi
    cases slot <;> cases hr
  refine ⟨by simpa [State.release] using h.length, h.order, ?_,
    fun i hi => absurd hi (hheld i), ?_, h.failures, h.continuous, h.unwon, nofun,
    fun l hl => ⟨(h.leading l hl).1, hheld l⟩, fun _ => hheld, nofun, ?_⟩
  · intro i s hi
    rw [State.release_slot] at hi
    obtain ⟨slot, hs, hr⟩ := Option.map_eq_some_iff.mp hi
    cases slot with
    | held =>
      cases hr
      exact h.held i hs
    | running s =>
      cases hr
      exact h.running i s hs
    | failed => cases hr
  · intro i
    rw [← h.failed i, State.release_slot, Option.map_eq_some_iff]
    constructor
    · rintro ⟨slot, hs, hr⟩
      cases slot <;> cases hr
      exact hs
    · exact fun hs => ⟨.failed, hs, rfl⟩
  · intro ho l h'
    obtain ⟨hover, hf⟩ := hl ho
    exact ⟨.inr (hf l h'), (h.patient hover l h').2⟩

/-- A poll begins by releasing children, if the head start is over or the lead has failed;
after that a race that still holds back has a running lead. -/
theorem releases (h : Agrees start count lead past state log) (elapsed : Bool) :
    Agrees start count lead (past || elapsed)
        (if state.releases elapsed then state.release start else state) log ∧
      ((if state.releases elapsed then state.release start else state).holding = true →
        (if state.releases elapsed then state.release start else state).slots.any
          Slot.isRunning = true) := by
  cases hr : state.releases elapsed with
  | true =>
    have hr := (Bool.and_eq_true_iff.mp hr).2
    refine ⟨h.release fun ho => ?_, nofun⟩
    obtain ⟨hover, helapsed⟩ := Bool.or_eq_false_iff.mp ho
    rw [helapsed] at hr
    exact ⟨hover, fun l hl => h.lead_failed (by simpa using hr) hl⟩
  | false =>
    have hrest : state.holding = true →
        elapsed = false ∧ state.slots.any Slot.isRunning = true := by
      intro hh
      rw [State.releases, hh, Bool.true_and, Bool.or_eq_false_iff] at hr
      exact ⟨hr.1, by simpa using hr.2⟩
    refine ⟨{ h with waiting := fun hh => ?_, patient := fun ho => ?_ }, fun hh => (hrest hh).2⟩
    · rw [h.waiting hh, (hrest hh).1]
      rfl
    · exact h.patient (Bool.or_eq_false_iff.mp ho).1

/-- The children that run are those that are out and have not resolved. -/
theorem turns (h : Agrees start count lead past state log)
    (hr : state.holding = true → state.slots.any Slot.isRunning = true) :
    state.order.filter state.runs =
      (out count lead past log).filter fun i => (stateAfter start log i).isSome := by
  cases hh : state.holding with
  | false =>
    have hout : out count lead past log = turnOrder count lead := by
      cases hlead : lead with
      | none => rfl
      | some l =>
        cases past with
        | true => rfl
        | false =>
          have hf := (h.patient rfl l hlead).1.resolve_left (by simp [hh])
          simp [out, hf]
    rw [h.order, hout]
    refine List.filter_congr fun i hi => h.runs_eq ?_ (h.released hh i)
    cases hlead : lead with
    | none =>
      rw [hlead] at hi
      exact List.mem_range.mp hi
    | some l =>
      rw [hlead] at hi
      rcases List.mem_cons.mp hi with rfl | hi
      · exact (h.leading _ hlead).1
      · exact List.mem_range.mp (List.mem_filter.mp hi).1
  | true =>
    obtain ⟨l, hlead, hb⟩ := h.behind hh
    obtain ⟨hl, hheld⟩ := h.leading l hlead
    have hout : out count lead past log = [l] := by
      have hf := h.lead_runs hh (hr hh) hlead
      rw [hlead, out, h.waiting hh]
      simp [hf]
    have hothers : ((List.range count).filter (· ≠ l)).filter state.runs = [] := by
      refine List.filter_eq_nil_iff.mpr fun i hi => ?_
      obtain ⟨hi, hne⟩ := List.mem_filter.mp hi
      simp [State.runs, hb i (List.mem_range.mp hi) (by simpa using hne), Slot.isRunning]
    rw [h.order, hlead, turnOrder, ← hlead, hout, List.filter_cons, List.filter_cons, hothers,
      h.runs_eq hl hheld, List.filter_nil]

end Agrees

end Dialplan.Race
