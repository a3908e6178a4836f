import Dialplan.Proofs.Polling.Rules

/-! When loops come to rest. A race passes over its children again as long as one of them fails,
and a sequence goes on to its next child; both stop only when everything that still runs has just
been polled and waits (`Race.poll_rests`, `Sequence.run_rests`). The number of passes and of steps
that they are given is always enough for that. -/

namespace Dialplan

variable {σ ω : Type}

namespace Race

/-- How many children have not failed. -/
def State.unfailed (state : State σ) : Nat := state.slots.countP fun slot => !slot.isFailed

/-- A race of so many children, all of which have a turn in every pass. Only as long as children
are held back some are not started. -/
structure State.Complete (count : Nat) (state : State σ) : Prop where
  length : state.slots.length = count
  turns : ∀ i < count, i ∈ state.order
  started : state.holding = false → ∀ slot ∈ state.slots, slot ≠ .held

/-- A race that waits: all children that run have settled, and there are some. While children are
held back, the head start is not over. -/
structure State.Resting (elapsed : Bool) (settled : Nat → σ → Prop) (state : State σ) : Prop where
  settled : ∀ (i : Nat) s, state.slots[i]? = some (.running s) → settled i s
  running : ∃ (i : Nat) (s : σ), state.slots[i]? = some (.running s)
  holding : state.holding = true → elapsed = false

namespace State.Complete

variable {count : Nat} {state : State σ} {start : σ}

theorem together : (State.together count start).Complete count where
  length := by simp [State.together]
  turns i hi := List.mem_range.mpr hi
  started _ slot hm := by
    rw [State.eq_of_mem_together hm]
    exact nofun

theorem behind (lead : Nat) : (State.behind count lead start).Complete count where
  length := by simp [State.behind]
  turns i hi := by
    by_cases h : i = lead
    · rw [h]
      exact List.mem_cons_self
    · exact List.mem_cons_of_mem _ (List.mem_filter.mpr ⟨List.mem_range.mpr hi, by simpa using h⟩)
  started h := by cases h

theorem set (h : state.Complete count) (i : Nat) {slot : Slot σ} (hs : slot ≠ .held)
    (failures : List Error) :
    State.Complete count { state with slots := state.slots.set i slot, failures := failures } where
  length := by simpa using h.length
  turns := h.turns
  started hh other hm := by
    rcases List.mem_or_eq_of_mem_set hm with hm | rfl
    · exact h.started hh other hm
    · exact hs

theorem release (h : state.Complete count) : (state.release start).Complete count where
  length := by simpa [State.release] using h.length
  turns := h.turns
  started _ slot hm := by
    obtain ⟨old, -, rfl⟩ := List.mem_map.mp hm
    cases old <;> exact nofun

end State.Complete

theorem State.unfailed_release (state : State σ) (start : σ) :
    (state.release start).unfailed = state.unfailed := by
  unfold State.unfailed State.release
  rw [List.countP_map]
  congr 1
  funext slot
  cases slot <;> rfl

theorem State.unfailed_le (state : State σ) : state.unfailed ≤ state.slots.length :=
  List.countP_le_length

/-- A child that fails is one less that has not. -/
theorem State.unfailed_fail {state : State σ} {i : Nat} {s : σ}
    (h : state.slots[i]? = some (.running s)) (failures : List Error) :
    State.unfailed { state with slots := state.slots.set i .failed, failures := failures } + 1 =
      state.unfailed := by
  obtain ⟨hlt, hs⟩ := List.getElem?_eq_some_iff.mp h
  have hpos : 0 < state.unfailed :=
    List.countP_pos_iff.mpr ⟨.running s, hs ▸ List.getElem_mem hlt, rfl⟩
  unfold State.unfailed at hpos ⊢
  rw [List.countP_set hlt, hs]
  show state.slots.countP _ - 1 + 0 + 1 = _
  omega

theorem State.unfailed_wait {state : State σ} {i : Nat} {s : σ}
    (h : state.slots[i]? = some (.running s)) (s' : σ) :
    State.unfailed { state with slots := state.slots.set i (.running s') } = state.unfailed := by
  obtain ⟨hlt, hs⟩ := List.getElem?_eq_some_iff.mp h
  have hpos : 0 < state.unfailed :=
    List.countP_pos_iff.mpr ⟨.running s, hs ▸ List.getElem_mem hlt, rfl⟩
  unfold State.unfailed at hpos ⊢
  rw [List.countP_set hlt, hs]
  show state.slots.countP _ - 1 + 1 = _
  omega

section

variable {child : Nat → σ → ω → Poll σ × ω} {start : σ} {inv : State σ → ω → Prop}
  {won : Nat → Connection → State σ → ω → Prop} {settled : Nat → σ → Prop}

/-- Every poll of a running child keeps `inv`, its success yields `won`, and a child that waits
has settled. -/
def Settles (child : Nat → σ → ω → Poll σ × ω) (inv : State σ → ω → Prop)
    (won : Nat → Connection → State σ → ω → Prop) (settled : Nat → σ → Prop) : Prop :=
  ∀ state w i s, inv state w → state.slots[i]? = some (.running s) →
    Poll.Yields
      (fun s w => inv { state with slots := state.slots.set i (.running s) } w ∧ settled i s)
      (fun connection w => won i connection { state with slots := state.slots.set i .failed } w)
      (fun e w => inv { state with
        slots := state.slots.set i .failed, failures := state.failures ++ [e] } w)
      (child i s w)

theorem Settles.looks (h : Settles child inv won settled) : Looks child inv won :=
  fun state w i s hi hs => (h state w i s hi hs).mono fun _ _ h => h.1

/-- What a pass changes that is not over: children fail in it only with progress, and nothing
else ends. -/
structure Passed (state state' : State σ) (progressed progressed' : Bool) : Prop where
  holding : state'.holding = state.holding
  unfailed : state'.unfailed ≤ state.unfailed
  progress : progressed' = true → progressed = true ∨ state'.unfailed < state.unfailed
  kept : progressed = true → progressed' = true

theorem pass_passed : ∀ (rest : List Nat) {state state' : State σ} {progressed progressed' : Bool}
    {w w' : ω}, pass child rest state progressed w = (.finished state' progressed', w') →
    Passed state state' progressed progressed'
  | [], state, _, progressed, _, _, _, h => by
    cases h
    exact ⟨rfl, Nat.le_refl _, .inl, id⟩
  | i :: rest, state, state', progressed, progressed', w, w', h => by
    rw [pass] at h
    split at h
    · rename_i s hs
      split at h
      · rename_i s' w₁ _
        have hrest := pass_passed rest h
        have hunfailed := State.unfailed_wait hs s'
        exact ⟨hrest.holding, hunfailed ▸ hrest.unfailed, hunfailed ▸ hrest.progress, hrest.kept⟩
      · cases h
      · rename_i e w₁ _
        have hrest := pass_passed rest h
        have hunfailed := State.unfailed_fail hs (state.failures ++ [e])
        have hle := hrest.unfailed
        exact ⟨hrest.holding, by omega, fun _ => .inr (by omega), fun _ => hrest.kept rfl⟩
    · exact pass_passed rest h

/-- After a pass without progress all children that had their turn and run have settled. -/
theorem pass_settles (settle : Settles child inv won settled) : ∀ (rest : List Nat)
    {state state' : State σ} {progressed : Bool} {w w' : ω}, inv state w →
    pass child rest state progressed w = (.finished state' false, w') →
    (∀ (i : Nat) s, state'.slots[i]? = some (.running s) →
      settled i s ∨ i ∉ rest ∧ state.slots[i]? = some (.running s)) ∧
    (state.slots.any Slot.isRunning = true → state'.slots.any Slot.isRunning = true)
  | [], _, _, _, _, _, _, h => by
    cases h
    exact ⟨fun i s hs => .inr ⟨List.not_mem_nil, hs⟩, id⟩
  | i :: rest, state, state', progressed, w, w', hi, h => by
    rw [pass] at h
    split at h
    · rename_i s hs
      have hyields := settle state w i s hi hs
      split at h
      · rename_i s₁ w₁ hpoll
        rw [hpoll] at hyields
        obtain ⟨hinv, hsettled⟩ := hyields
        obtain ⟨hall, hany⟩ := pass_settles settle rest hinv h
        have hlt := (List.getElem?_eq_some_iff.mp hs).1
        refine ⟨fun j s' hj => ?_, fun _ => hany ?_⟩
        · rcases hall j s' hj with hdone | ⟨hnot, hold⟩
          · exact .inl hdone
          · by_cases hij : i = j
            · subst hij
              rw [List.getElem?_set_self hlt] at hold
              cases hold
              exact .inl hsettled
            · rw [List.getElem?_set_ne hij] at hold
              exact .inr ⟨by simp [Ne.symm hij, hnot], hold⟩
        · exact List.any_eq_true.mpr ⟨.running s₁, List.mem_set hlt _, rfl⟩
      · cases h
      · cases (pass_passed rest h).kept rfl
    · rename_i hnone
      obtain ⟨hall, hany⟩ := pass_settles settle rest hi h
      refine ⟨fun j s hj => (hall j s hj).imp id ?_, hany⟩
      rintro ⟨hnot, hold⟩
      refine ⟨fun hm => ?_, hold⟩
      rcases List.mem_cons.mp hm with rfl | hm
      · exact hnone s hold
      · exact hnot hm

/-- What holds after a poll of a race that had passes enough. -/
def Outcome.Rests (inv : State σ → ω → Prop) (won : Nat → Connection → State σ → ω → Prop)
    (elapsed : Bool) (settled : Nat → σ → Prop) : Outcome σ × ω → Prop
  | (.pending state, w) => inv state w ∧ state.Resting elapsed settled
  | (.won i connection state, w) => won i connection state w
  | (.lost _, w) => ∃ state, inv state w ∧ state.slots.all Slot.isFailed = true

variable {count : Nat}

/-- A race that has not lost, and whose last pass saw no progress, waits. -/
theorem resting_of_pass {elapsed : Bool} {state state' : State σ} {w w' : ω}
    (settle : Settles child inv won settled) (hcomplete : state.Complete count)
    (hcomplete' : state'.Complete count) (hi : inv state w)
    (hreleases : state.releases elapsed = false)
    (hpass : pass child state.order state false w = (.finished state' false, w'))
    (hlost : (!state'.holding && state'.slots.all Slot.isFailed) = false) :
    state'.Resting elapsed settled := by
  obtain ⟨hall, hany⟩ := pass_settles settle state.order hi hpass
  have hholding := (pass_passed state.order hpass).holding
  have hrunning : state'.slots.any Slot.isRunning = true := by
    cases hh : state.holding with
    | true =>
      refine hany ?_
      simp only [State.releases, hh, Bool.true_and, Bool.or_eq_false_iff,
        Bool.not_eq_false'] at hreleases
      exact hreleases.2
    | false =>
      -- all are released, so a child that has not failed runs
      rw [hholding, hh, Bool.not_false, Bool.true_and, List.all_eq_false] at hlost
      obtain ⟨slot, hm, hslot⟩ := hlost
      have hheld := hcomplete'.started (hholding.trans hh) slot hm
      refine List.any_eq_true.mpr ⟨slot, hm, ?_⟩
      cases slot with
      | held => exact absurd rfl hheld
      | running s => rfl
      | failed => exact absurd rfl hslot
  refine ⟨fun i s hs => ?_, ?_, fun hh => ?_⟩
  · rcases hall i s hs with hdone | ⟨hnot, hold⟩
    · exact hdone
    · have hlt := (List.getElem?_eq_some_iff.mp hold).1
      exact absurd (hcomplete.turns i (hcomplete.length ▸ hlt)) hnot
  · obtain ⟨slot, hm, hslot⟩ := List.any_eq_true.mp hrunning
    obtain ⟨i, hi⟩ := List.mem_iff_getElem?.mp hm
    cases slot with
    | running s => exact ⟨i, s, hi⟩
    | held => cases hslot
    | failed => cases hslot
  · rw [hholding] at hh
    simp only [State.releases, hh, Bool.true_and, Bool.or_eq_false_iff] at hreleases
    exact hreleases.1

theorem passes_rests (elapsed : Bool) (settle : Settles child inv won settled)
    (release : ∀ state w, inv state w → state.releases elapsed = true →
      inv (state.release start) w)
    (complete : ∀ state w, inv state w → state.Complete count) :
    ∀ (fuel : Nat) (state : State σ) (w : ω), inv state w → state.unfailed < fuel →
    Outcome.Rests inv won elapsed settled (passes child start elapsed fuel state w)
  | 0, _, _, _, hfuel => absurd hfuel (Nat.not_lt_zero _)
  | fuel + 1, state, w, h, hfuel => by
    rw [passes]
    have hreleased : ∃ state', (if state.releases elapsed then state.release start else state) =
        state' ∧ inv state' w ∧ state'.unfailed < fuel + 1 ∧ state'.releases elapsed = false := by
      by_cases hr : state.releases elapsed = true
      · rw [if_pos hr]
        exact ⟨_, rfl, release state w h hr, by rwa [State.unfailed_release], rfl⟩
      · rw [if_neg hr]
        exact ⟨_, rfl, h, hfuel, Bool.eq_false_iff.mpr hr⟩
    obtain ⟨state', hstate, h, hfuel, hreleases⟩ := hreleased
    rw [hstate]
    clear hstate
    have hrule := pass_rule settle.looks state'.order state' false w h
    cases hpass : pass child state'.order state' false w with
    | mk result w' =>
      rw [hpass] at hrule
      cases result with
      | won i connection state => exact hrule
      | finished state'' progressed =>
        dsimp only
        split
        · rename_i hlost
          exact ⟨_, hrule, (Bool.and_eq_true_iff.mp hlost).2⟩
        · rename_i hlost
          cases progressed with
          | true =>
            rw [if_pos rfl]
            have hless := (pass_passed state'.order hpass).progress rfl
            refine passes_rests elapsed settle release complete fuel state'' w' hrule ?_
            rcases hless with hless | hless
            · cases hless
            · omega
          | false =>
            rw [if_neg Bool.false_ne_true]
            exact ⟨hrule, resting_of_pass settle (complete _ _ h) (complete _ _ hrule) h
              hreleases hpass (Bool.eq_false_iff.mpr hlost)⟩

/-- A poll of a race passes over its children until it is decided or waits. -/
theorem poll_rests (start : σ) (elapsed : Bool) (settle : Settles child inv won settled)
    (release : ∀ state w, inv state w → state.releases elapsed = true →
      inv (state.release start) w)
    (complete : ∀ state w, inv state w → state.Complete count) (state : State σ) {w : ω}
    (h : inv state w) : Outcome.Rests inv won elapsed settled (poll child start elapsed state w) :=
  passes_rests elapsed settle release complete _ state w h
    (Nat.lt_succ_of_le state.unfailed_le)

end

end Race

namespace Sequence

variable {setting : Setting σ ω} {inv rest : State σ → ω → Prop} {won : Connection → ω → Prop}
  {gone : Nat → Option Duration → ω → Prop}

/-- What holds after a try: `rest` of a sequence that waits, `won` after a success, and `gone` of
the child and its bound when the try has come to nothing. -/
def Try.Leaves (rest : State σ → ω → Prop) (won : Connection → ω → Prop)
    (gone : Nat → Option Duration → ω → Prop) : Try σ × ω → Prop
  | (.waiting state, w) => rest state w
  | (.connected connection, w) => won connection w
  | (.failed state, w) => gone state.index state.bound w

/-- A sequence that does not start over goes from one child to the next: what holds at its start
and when a try begins holds at every step, until it waits or is over. -/
structure Proceeds (setting : Setting σ ω) (inv rest : State σ → ω → Prop)
    (won : Connection → ω → Prop) (gone : Nat → Option Duration → ω → Prop) : Prop where
  once : setting.options.looping = false
  index : ∀ {state w}, inv state w → state.index < setting.count
  forward : ∀ {state w}, inv state w → state.phase ≠ .rewound
  tries : ∀ {state w deadline s}, inv state w → state.phase = .trying deadline s →
    Try.Leaves rest won gone (tryOnce setting state deadline s w)
  waits : ∀ {state w timer}, inv state w → state.phase = .waitingOut timer →
    if timer.isDue setting.now then gone state.index state.bound w else rest state w
  begins : ∀ {index bound w} failures, gone index bound w → index + 1 < setting.count →
    inv (begin setting (index + 1) (setting.options.nextBound bound) failures) w

theorem run_rests (h : Proceeds setting inv rest won gone) : ∀ (fuel : Nat) (state : State σ)
    (w : ω), inv state w → setting.count - state.index ≤ fuel →
    Poll.Yields rest won (fun _ w => ∃ index bound, gone index bound w) (run setting fuel state w)
  | 0, state, w, hi, hfuel => by
    have := h.index hi
    omega
  | fuel + 1, state, w, hi, hfuel => by
    have hgo : ∀ (later : State σ) (w : ω), later.index = state.index →
        gone later.index later.bound w →
        Poll.Yields rest won (fun _ w => ∃ index bound, gone index bound w)
          (goOn setting fuel later w) := by
      intro later w hindex hgone
      rw [goOn, next, h.once]
      by_cases hlt : later.index + 1 < setting.count
      · rw [if_pos hlt]
        refine run_rests h fuel _ w (h.begins later.failures hgone hlt) ?_
        show setting.count - (later.index + 1) ≤ fuel
        omega
      · rw [if_neg hlt]
        exact ⟨_, _, hgone⟩
    rw [run_succ]
    cases hphase : state.phase with
    | trying deadline s =>
      have htry := h.tries hi hphase
      have hindex : ∀ later w', tryOnce setting state deadline s w = (.failed later, w') →
          later.index = state.index := by
        intro later w' htry
        unfold tryOnce at htry
        repeat' split at htry
        all_goals cases htry
        all_goals rfl
      dsimp only
      generalize htried : tryOnce setting state deadline s w = tried at htry hindex ⊢
      obtain ⟨result, w'⟩ := tried
      cases result with
      | waiting state => exact htry
      | connected connection => exact htry
      | failed later => exact hgo later w' (hindex later w' rfl) htry
    | waitingOut timer =>
      have hwaits := h.waits hi hphase
      dsimp only
      split
      · rename_i hdue
        rw [if_pos hdue] at hwaits
        exact hgo state w rfl hwaits
      · rename_i hdue
        rw [if_neg hdue] at hwaits
        exact hwaits
    | rewound => exact absurd hphase (h.forward hi)

end Sequence

end Dialplan
