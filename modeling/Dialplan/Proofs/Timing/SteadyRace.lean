import Dialplan.Proofs.History.Calls
import Dialplan.Proofs.Polling.Parts
import Dialplan.Proofs.Race.Passes
import Dialplan.Proofs.Timing.Fate

/-! Races of steady children. What its children come to, and when, decides what a race comes to,
behind a lead or without one: it has a fate itself (`SteadyRace.RunBy.foretells`). At every visit
of a run it stands as those fates say (`SteadyRace.RunBy.course`). -/

namespace Dialplan

/-- A race of steady children, with the timer of the head start if one of them leads. -/
structure SteadyRace (kind : World → Prop) where
  count : Nat
  child : Nat → Poller
  fates : Nat → Option Fate
  lead : Option (Nat × Timer)
  /-- When the race starts. -/
  started : Instant
  steady : ∀ i < count, Steady kind (child i) (fates i)
  timed : ∀ {l timer}, lead = some (l, timer) →
    l < count ∧ timer.deadline = started + headStart

namespace SteadyRace

variable {kind : World → Prop} (race : SteadyRace kind) {now : Instant}
  {state : Race.State Progress} {i : Nat} {p : Progress}

def preferred : Option Nat := race.lead.map Prod.fst

/-- Is the head start over? -/
def elapsed (now : Instant) : Bool := race.lead.any fun (_, timer) => timer.isDue now

/-- When the children behind the lead start. -/
def release : Instant := race.started + Fate.released race.fates race.preferred

def startOf (i : Nat) : Instant := race.started + Fate.startAfter race.fates race.preferred i

/-- What a child comes to, counted from the start of the race. -/
def due (i : Nat) : Option Fate := Fate.behind race.fates race.preferred i

/-- What the race comes to. -/
def fate : Option Fate := Fate.race race.due race.count

/-- A child that runs may be polled now. -/
def Ready (now : Instant) (i : Nat) (p : Progress) : Prop :=
  Resumable kind (race.child i) (race.startOf i) now p

/-- A child that runs has been polled now, and waits. -/
def Left (now : Instant) (i : Nat) (p : Progress) : Prop :=
  LeftBy kind (race.child i) (race.startOf i) now p ∧ Waits (race.due i) race.started now p

/-- How a race stands at a moment: of the children that run something holds, those that have
failed have met their fate, and none but the lead is started before the release. -/
structure Standing (running : Nat → Progress → Prop) (now : Instant)
    (state : Race.State Progress) : Prop where
  complete : state.Complete race.count
  running : Race.Running running state.slots
  failed : ∀ i : Nat, state.slots[i]? = some .failed →
    ∃ d, race.due i = some ⟨d, false⟩ ∧ race.started + d ≤ now
  held : state.holding = true → now ≤ race.release ∧
    ∃ l timer, race.lead = some (l, timer) ∧ state.slots[l]? ≠ some .held ∧
      ∀ (i : Nat) slot, i ≠ l → state.slots[i]? = some slot → slot = .held
  free : state.holding = false → race.release ≤ now

/-- How it stands after a poll that has not decided it. -/
structure Rested (now : Instant) (state : Race.State Progress) : Prop
    extends race.Standing (race.Left now) now state where
  waiting : ∃ (i : Nat) (p : Progress), state.slots[i]? = some (.running p)
  early : state.holding = true → race.elapsed now = false

variable {race}

theorem preferred_of_lead {l : Nat} {timer : Timer} (h : race.lead = some (l, timer)) :
    race.preferred = some l := by
  rw [preferred, h]
  rfl

theorem lead_of_preferred {l : Nat} (h : race.preferred = some l) :
    l < race.count ∧ ∃ timer, race.lead = some (l, timer) := by
  obtain ⟨⟨_, timer⟩, hlead, rfl⟩ := Option.map_eq_some_iff.mp h
  exact ⟨(race.timed hlead).1, timer, hlead⟩

theorem elapsed_iff {l : Nat} {timer : Timer} (h : race.lead = some (l, timer)) :
    race.elapsed now = true ↔ race.started + headStart ≤ now := by
  rw [elapsed, h, ← (race.timed h).2]
  exact decide_eq_true_iff

theorem release_le : race.release ≤ race.started + headStart :=
  Nat.add_le_add_left (Fate.released_le _ _) _

theorem due_lead {l : Nat} (h : race.preferred = some l) : race.due l = race.fates l := by
  rw [due, h, Fate.behind_lead]

/-- The others are released when the lead fails, if it does so within its head start. -/
theorem release_of_fails {l : Nat} {d : Duration} (h : race.preferred = some l)
    (hd : race.due l = some ⟨d, false⟩) : race.release = race.started + min d headStart := by
  rw [due_lead h] at hd
  rw [release, h, Fate.released, hd]

theorem release_of_not_fails {l : Nat} (h : race.preferred = some l)
    (hd : ∀ d, race.due l ≠ some ⟨d, false⟩) : race.release = race.started + headStart := by
  rw [due_lead h] at hd
  rw [release, h, Fate.released]
  split
  · rename_i d hfate
    exact absurd hfate (hd d)
  · rfl

/-- What a child was foretold to come to, from its start on, it is from the start of the race. -/
theorem foretold_due {answer : Poll Progress}
    (h : Foretold (race.fates i) (race.startOf i) now answer) :
    Foretold (race.due i) race.started now answer := by
  have hmoment : ∀ d, race.startOf i + d =
      race.started + (Fate.startAfter race.fates race.preferred i + d) :=
    fun d => Nat.add_assoc _ _ _
  cases answer with
  | pending p =>
    refine ⟨h.later, fun hf => ?_, fun hf => ?_⟩
    · obtain ⟨d, hd, hdelay⟩ := Fate.behind_eq_some_iff.mp hf
      rw [hdelay, ← hmoment]
      exact h.before hd
    · obtain ⟨d, hd, hdelay⟩ := Fate.behind_eq_some_iff.mp hf
      rw [hdelay, ← hmoment]
      exact h.wakes hd
  | ready result =>
    obtain ⟨⟨d, connects⟩, hf, hle, hresult⟩ := h
    have hdue : race.due i =
        some ⟨Fate.startAfter race.fates race.preferred i + d, connects⟩ :=
      Fate.behind_eq_some_iff.mpr ⟨d, hf, rfl⟩
    exact ⟨_, hdue, Nat.le_trans (Nat.le_of_eq (hmoment d).symm) hle, hresult⟩

/-! ### One poll -/

namespace Standing

variable {running : Nat → Progress → Prop}

theorem lt_count (h : race.Standing running now state) {slot : Race.Slot Progress}
    (hs : state.slots[i]? = some slot) : i < race.count :=
  h.complete.length ▸ (List.getElem?_eq_some_iff.mp hs).1

theorem exists_slot (h : race.Standing running now state) (hi : i < race.count) :
    ∃ slot, state.slots[i]? = some slot :=
  ⟨_, List.getElem?_eq_getElem (h.complete.length.symm ▸ hi)⟩

/-- While children are held back, only the lead runs. -/
theorem lead_of_running (h : race.Standing running now state) (hh : state.holding = true)
    (hs : state.slots[i]? = some (.running p)) : race.preferred = some i := by
  obtain ⟨-, l, timer, hl, -, hothers⟩ := h.held hh
  by_cases hne : i = l
  · rw [hne]
    exact preferred_of_lead hl
  · cases hothers i _ hne hs

theorem set (h : race.Standing running now state) (hs : state.slots[i]? = some (.running p))
    {slot : Race.Slot Progress} (hslot : slot ≠ .held)
    (hrunning : ∀ p, slot = .running p → running i p)
    (hfailed : slot = .failed → ∃ d, race.due i = some ⟨d, false⟩ ∧ race.started + d ≤ now)
    (failures : List Error) :
    race.Standing running now
      { state with slots := state.slots.set i slot, failures := failures } := by
  have hlt := (List.getElem?_eq_some_iff.mp hs).1
  refine ⟨h.complete.set i hslot failures, h.running.set hrunning, fun j hj => ?_, fun hh => ?_,
    h.free⟩
  · by_cases hij : i = j
    · subst hij
      rw [List.getElem?_set_self hlt] at hj
      exact hfailed (Option.some.inj hj)
    · rw [List.getElem?_set_ne hij] at hj
      exact h.failed j hj
  · obtain ⟨hle, l, timer, hl, -, hothers⟩ := h.held hh
    have hil : i = l := by
      have hlead := h.lead_of_running hh hs
      rw [preferred_of_lead hl] at hlead
      exact (Option.some.inj hlead).symm
    subst hil
    refine ⟨hle, i, timer, hl, ?_, fun j other hne hj => hothers j other hne ?_⟩
    · rw [List.getElem?_set_self hlt]
      exact fun he => hslot (Option.some.inj he)
    · rwa [List.getElem?_set_ne (Ne.symm hne)] at hj

/-- Children are released exactly at the release. -/
theorem releases (h : race.Standing (race.Ready now) now state)
    (hr : state.releases (race.elapsed now) = true) : now = race.release := by
  obtain ⟨hh, hr⟩ := Bool.and_eq_true_iff.mp hr
  obtain ⟨hle, l, timer, hl, hheld, -⟩ := h.held hh
  refine Nat.le_antisymm hle ?_
  cases helapsed : race.elapsed now with
  | true => exact Nat.le_trans release_le ((elapsed_iff hl).mp helapsed)
  | false =>
    -- no child runs, so the lead has failed
    rw [helapsed, Bool.false_or, Bool.not_eq_true'] at hr
    obtain ⟨slot, hs⟩ := h.exists_slot (race.timed hl).1
    cases slot with
    | held => exact absurd hs hheld
    | running p => exact absurd rfl (List.any_eq_false.mp hr _ (List.mem_of_getElem? hs))
    | failed =>
      obtain ⟨d, hd, hpast⟩ := h.failed l hs
      rw [release_of_fails (preferred_of_lead hl) hd]
      exact Nat.le_trans (Nat.add_le_add_left (Nat.min_le_left _ _) _) hpast

theorem release (h : race.Standing (race.Ready now) now state)
    (hr : state.releases (race.elapsed now) = true) :
    race.Standing (race.Ready now) now (state.release .unstarted) := by
  have hnow := h.releases hr
  obtain ⟨-, l, timer, hl, hheld, -⟩ := h.held (Bool.and_eq_true_iff.mp hr).1
  refine ⟨h.complete.release, fun i p hs => ?_, fun i hs => ?_, nofun,
    fun _ => Nat.le_of_eq hnow.symm⟩
  · rw [Race.State.release_slot, Option.map_eq_some_iff] at hs
    obtain ⟨slot, hslot, hs⟩ := hs
    cases slot with
    | held =>
      cases hs
      have hne : i ≠ l := fun he => hheld (he ▸ hslot)
      refine .inl ⟨rfl, ?_⟩
      rw [startOf, preferred_of_lead hl, Fate.startAfter_other hne, hnow, SteadyRace.release,
        preferred_of_lead hl]
    | running p =>
      cases hs
      exact h.running i p hslot
    | failed => cases hs
  · rw [Race.State.release_slot, Option.map_eq_some_iff] at hs
    obtain ⟨slot, hslot, hs⟩ := hs
    cases slot with
    | failed => exact h.failed i hslot
    | _ => cases hs

end Standing

/-- Polls of children keep the standing. -/
theorem settles (race : SteadyRace kind) (now : Instant) :
    Race.Settles race.child
      (fun state w => w.now = now ∧ kind w ∧ race.Standing (race.Ready now) now state)
      (fun i _ _ _ => i < race.count ∧ ∃ d, race.due i = some ⟨d, true⟩ ∧ race.started + d ≤ now)
      (race.Left now) := by
  rintro state w i p ⟨rfl, hw, h⟩ hs
  have hi := h.lt_count hs
  obtain ⟨hfate, hleft⟩ := (race.steady i hi).poll hw (h.running i p hs)
  have hfate := foretold_due hfate
  obtain ⟨hkind, hnow⟩ := (race.steady i hi).keeps p hw
  generalize race.child i p w = polled at hfate hleft hkind hnow ⊢
  obtain ⟨answer, w'⟩ := polled
  cases answer with
  | pending p' =>
    have hwaits : Waits _ _ _ p' := hfate
    have hleft := hleft p' rfl
    have hslot : Race.Slot.running p' ≠ .held := nofun
    refine ⟨⟨hnow, hkind, h.set hs hslot ?_ nofun state.failures⟩, hleft, hwaits⟩
    rintro _ ⟨⟩
    exact hleft.resumes hwaits.later
  | ready result =>
    obtain ⟨⟨d, connects⟩, hd, hle, hresult⟩ := hfate
    cases result with
    | ok connection =>
      cases hresult
      exact ⟨hi, d, hd, hle⟩
    | error e =>
      cases hresult
      have hslot : (Race.Slot.failed : Race.Slot Progress) ≠ .held := nofun
      exact ⟨hnow, hkind, h.set hs hslot nofun (fun _ => ⟨d, hd, hle⟩) _⟩

/-- What holds of a race after a poll. -/
theorem poll_rests {w : World} (hw : kind w)
    (h : race.Standing (race.Ready w.now) w.now state) :
    Race.Outcome.Rests
      (fun state w' => w'.now = w.now ∧ kind w' ∧ race.Standing (race.Ready w.now) w.now state)
      (fun i _ _ _ => i < race.count ∧
        ∃ d, race.due i = some ⟨d, true⟩ ∧ race.started + d ≤ w.now)
      (race.elapsed w.now) (race.Left w.now)
      (Race.poll race.child .unstarted (race.elapsed w.now) state w) :=
  Race.poll_rests .unstarted (race.elapsed w.now) (race.settles w.now)
    (fun _ _ h hr => ⟨h.1, h.2.1, h.2.2.release hr⟩) (fun _ _ h => h.2.2.complete) state
    ⟨rfl, hw, h⟩

/-! ### Between polls -/

/-- A race wakes up when a child that runs does. -/
theorem wakesBy_of_running {lead : Option (Nat × Timer)} {moment : Instant}
    (hs : state.slots[i]? = some (.running p)) (h : WakesBy p moment) :
    WakesBy (.ofRace lead state) moment :=
  h.imp (Progress.isYieldingSlots_of_running hs) fun ⟨timer, hm, hdue⟩ =>
    ⟨timer, Progress.mem_timers_racing.mpr (.inr ⟨i, p, hs, hm⟩), hdue⟩

namespace Rested

/-- A race that holds children back wakes up before their release or at it. -/
theorem holds (h : race.Rested now state) (hh : state.holding = true) :
    now < race.release ∧ WakesBy (.ofRace race.lead state) race.release := by
  obtain ⟨-, l, timer, hl, -, -⟩ := h.held hh
  have hpreferred := preferred_of_lead hl
  have hearly : now < race.started + headStart := Nat.lt_of_not_le fun hle => by
    have := (elapsed_iff hl).mpr hle
    rw [h.early hh] at this
    cases this
  have htimer : timer ∈ (Progress.ofRace race.lead state).timers :=
    Progress.mem_timers_racing.mpr (.inl ⟨hh, l, hl⟩)
  have hdeadline := (race.timed hl).2
  by_cases hfails : ∃ d, race.due l = some ⟨d, false⟩
  · obtain ⟨d, hd⟩ := hfails
    obtain ⟨i, p, hs⟩ := h.waiting
    have hlead := h.lead_of_running hh hs
    rw [hpreferred] at hlead
    obtain rfl := Option.some.inj hlead
    obtain ⟨-, hwaits⟩ := h.running l p hs
    have hbefore := hwaits.before hd
    rw [release_of_fails hpreferred hd]
    dsimp only at hbefore
    refine ⟨by lia, ?_⟩
    rcases Nat.le_total d headStart with hle | hle
    · rw [Nat.min_eq_left hle]
      exact wakesBy_of_running hs (hwaits.wakes hd)
    · rw [Nat.min_eq_right hle]
      exact .inr ⟨timer, htimer, Nat.le_of_eq hdeadline⟩
  · rw [release_of_not_fails hpreferred fun d hd => hfails ⟨d, hd⟩]
    exact ⟨hearly, .inr ⟨timer, htimer, Nat.le_of_eq hdeadline⟩⟩

/-- A child that connects does so after the race has woken up. -/
theorem awaits_success (h : race.Rested now state) {d : Duration} (hi : i < race.count)
    (hd : race.due i = some ⟨d, true⟩) :
    now < race.started + d ∧ WakesBy (.ofRace race.lead state) (race.started + d) := by
  obtain ⟨slot, hs⟩ := h.exists_slot hi
  cases slot with
  | running p =>
    obtain ⟨-, hwaits⟩ := h.running i p hs
    exact ⟨hwaits.before hd, wakesBy_of_running hs (hwaits.wakes hd)⟩
  | failed =>
    obtain ⟨_, hd', -⟩ := h.failed i hs
    cases hd.symm.trans hd'
  | held =>
    -- it is held back, and so starts with the release
    have hh : state.holding = true := by
      by_contra hh
      exact h.complete.started (Bool.eq_false_iff.mpr hh) _ (List.mem_of_getElem? hs) rfl
    obtain ⟨-, l, timer, hl, hheld, -⟩ := h.held hh
    have hne : i ≠ l := fun he => hheld (he ▸ hs)
    obtain ⟨d', -, rfl⟩ := Fate.behind_eq_some_iff.mp hd
    have hle : race.release ≤ race.started +
        (Fate.startAfter race.fates race.preferred i + d') := by
      rw [SteadyRace.release, preferred_of_lead hl, Fate.startAfter_other hne]
      lia
    obtain ⟨hlt, hwakes⟩ := h.holds hh
    exact ⟨Nat.lt_of_lt_of_le hlt hle, hwakes.mono hle⟩

/-- A race that is not decided waits for its fate. -/
theorem waits (h : race.Rested now state) :
    Waits race.fate race.started now (.ofRace race.lead state) := by
  have hfate : ∀ {f}, race.fate = some f → now < race.started + f.delay ∧
      WakesBy (.ofRace race.lead state) (race.started + f.delay) := by
    rintro ⟨d, connects⟩ hf
    cases connects with
    | true =>
      obtain ⟨i, hi, hd⟩ := Fate.exists_of_race_connects hf
      exact h.awaits_success hi hd
    | false =>
      -- a child that runs will fail, and the race not before
      obtain ⟨i, p, hs⟩ := h.waiting
      obtain ⟨d', hle, hd⟩ := Fate.forall_of_race_fails hf i (h.lt_count hs)
      obtain ⟨-, hwaits⟩ := h.running i p hs
      have hle := Nat.add_le_add_left hle race.started
      exact ⟨Nat.lt_of_lt_of_le (hwaits.before hd) hle,
        (wakesBy_of_running hs (hwaits.wakes hd)).mono hle⟩
  refine ⟨fun timer hm => ?_, fun hf => (hfate hf).1, fun hf => (hfate hf).2⟩
  rcases Progress.mem_timers_racing.mp hm with ⟨hh, l, hl⟩ | ⟨i, p, hs, hm⟩
  · rw [(race.timed hl).2]
    exact Nat.le_trans (Nat.le_of_lt (h.holds hh).1) release_le
  · exact (h.running i p hs).2.later timer hm

/-- At a punctual visit all children that run may be polled. -/
theorem resumes (h : race.Rested now state) {visit : Visit} {w : World}
    (hpunctual : Punctual visit (.ofRace race.lead state) w) (hvisit : visit.before.now = now) :
    race.Standing (race.Ready w.now) w.now state := by
  have hle : now ≤ w.now := hvisit ▸ hpunctual.forward
  refine ⟨h.complete, fun i p hs => ?_, fun i hs => ?_, fun hh => ?_, fun hh => ?_⟩
  · refine .inr ⟨now, (h.running i p hs).1, hle, fun timer hm => ?_, fun hp => ?_⟩
    · exact hpunctual.awaited timer (Progress.mem_timers_racing.mpr (.inr ⟨i, p, hs, hm⟩))
    · rw [← hvisit]
      exact hpunctual.prompt (Progress.isYieldingSlots_of_running hs hp)
  · obtain ⟨d, hd, hpast⟩ := h.failed i hs
    exact ⟨d, hd, Nat.le_trans hpast hle⟩
  · obtain ⟨hlt, hwakes⟩ := h.holds hh
    exact ⟨hwakes.visited hpunctual (hvisit ▸ Nat.le_of_lt hlt), (h.held hh).2⟩
  · exact Nat.le_trans (h.free hh) hle

end Rested

/-- How a race stands when it starts. -/
theorem standing_initial (race : SteadyRace kind) :
    race.Standing (race.Ready race.started) race.started
      (.initial race.count race.preferred .unstarted) := by
  cases hlead : race.lead with
  | none =>
    have hpreferred : race.preferred = none := by rw [preferred, hlead]; rfl
    rw [hpreferred]
    have hslot : ∀ {i : Nat} {slot : Race.Slot Progress},
        (Race.State.initial race.count none .unstarted).slots[i]? = some slot →
        slot = .running .unstarted :=
      fun hs => Race.State.eq_of_mem_together (List.mem_of_getElem? hs)
    refine ⟨.together, fun i p hs => .inl ?_, fun i hs => ?_, fun hh => ?_, fun _ => ?_⟩
    · cases hslot hs
      rw [startOf, hpreferred]
      exact ⟨rfl, rfl⟩
    · cases hslot hs
    · cases hh
    · rw [release, hpreferred]
      exact Nat.le_refl _
  | some lead =>
    obtain ⟨l, timer⟩ := lead
    have hpreferred := preferred_of_lead hlead
    rw [hpreferred]
    have hlt := (race.timed hlead).1
    have hself := Race.State.behind_self Progress.unstarted hlt
    have hothers : ∀ (i : Nat) slot, i ≠ l →
        (Race.State.initial race.count (some l) Progress.unstarted).slots[i]? = some slot →
        slot = .held := by
      intro i slot hne hs
      rcases Race.State.eq_or_eq_of_mem_behind (List.mem_of_getElem? hs) with hslot | hslot
      · exact hslot
      · have hi : i < race.count := by
          have hlength :=
            (Race.State.Regular.initial race.count (some l) Progress.unstarted).length
          exact hlength ▸ (List.getElem?_eq_some_iff.mp hs).1
        rw [Race.State.initial, Race.State.behind_other _ hi hne] at hs
        exact (Option.some.inj hs).symm
    refine ⟨.behind l, fun i p hs => .inl ?_, fun i hs => ?_, fun _ => ⟨Nat.le_add_right _ _, l,
      timer, hlead, ?_, hothers⟩, fun hh => ?_⟩
    · by_cases hne : i = l
      · subst hne
        rw [Race.State.initial, hself] at hs
        cases hs
        rw [startOf, hpreferred, Fate.startAfter_self]
        exact ⟨rfl, rfl⟩
      · cases hothers i _ hne hs
    · by_cases hne : i = l
      · rw [hne, Race.State.initial, hself] at hs
        cases hs
      · cases hothers i _ hne hs
    · rw [Race.State.initial, hself]
      intro h
      cases h
    · cases hh

/-! ### Runs -/

/-- A poller that polls a race: it starts it in a world, and polls it on later. -/
structure RunBy (race : SteadyRace kind) (poller : Poller)
    (onWin : Nat → Connection → World → World) (w₀ : World) : Prop where
  now : race.started = w₀.now
  first : poller .unstarted w₀ =
    pollRace race.lead race.child onWin (.initial race.count race.preferred .unstarted) w₀
  again : ∀ state w, poller (.ofRace race.lead state) w =
    pollRace race.lead race.child onWin state w

theorem pollRace_answer (lead : Option (Nat × Timer)) (child : Nat → Poller)
    (onWin : Nat → Connection → World → World) (state : Race.State Progress) (w : World) :
    (pollRace lead child onWin state w).1 =
      (Race.poll child .unstarted (lead.any fun (_, timer) => timer.isDue w.now) state w).1.answer
        lead := by
  unfold pollRace
  dsimp only
  generalize Race.poll child .unstarted _ state w = polled
  obtain ⟨outcome, w'⟩ := polled
  cases outcome <;> rfl

/-- A poll of a race says what its fate says. -/
theorem poll_foretold {w : World} (hw : kind w) (hstarted : race.started ≤ w.now)
    (h : race.Standing (race.Ready w.now) w.now state)
    {outcome : Race.Outcome Progress} {w' : World}
    (hpoll : Race.poll race.child .unstarted (race.elapsed w.now) state w = (outcome, w')) :
    Foretold race.fate race.started w.now (outcome.answer race.lead) ∧
      (∀ left, outcome = .pending left → race.Rested w.now left) ∧
      ∀ i connection left, outcome = .won i connection left → ∃ d, race.due i = some ⟨d, true⟩ := by
  have hrests := poll_rests hw h
  rw [hpoll] at hrests
  cases outcome with
  | pending left =>
    obtain ⟨⟨-, -, hstanding⟩, hresting⟩ := hrests
    have hrested : race.Rested w.now left :=
      ⟨{ hstanding with running := hresting.settled }, hresting.running, hresting.holding⟩
    refine ⟨hrested.waits, ?_, nofun⟩
    rintro _ ⟨⟩
    exact hrested
  | won i connection left =>
    obtain ⟨hi, d, hd, hle⟩ := hrests
    obtain ⟨d', hle', hfate⟩ := Fate.race_connects hi hd
    refine ⟨⟨_, hfate, Nat.le_trans (Nat.add_le_add_left hle' _) hle, rfl⟩, nofun, ?_⟩
    rintro _ _ _ ⟨⟩
    exact ⟨d, hd⟩
  | lost failures =>
    obtain ⟨left, ⟨-, -, hstanding⟩, hall⟩ := hrests
    have hfailed : ∀ i < race.count, ∃ d ≤ w.now - race.started, race.due i = some ⟨d, false⟩ := by
      intro i hi
      obtain ⟨slot, hs⟩ := hstanding.exists_slot hi
      have hslot := List.all_eq_true.mp hall slot (List.mem_of_getElem? hs)
      cases slot with
      | failed =>
        obtain ⟨d, hd, hle⟩ := hstanding.failed i hs
        exact ⟨d, by lia, hd⟩
      | _ => cases hslot
    obtain ⟨d, hle, hfate⟩ := Fate.race_fails hfailed
    exact ⟨⟨_, hfate, by dsimp only; lia, rfl⟩, nofun, nofun⟩

/-- What a race comes to at some visits, and the log of the polls of its children. -/
def trace (race : SteadyRace kind) (visits : List Visit) :
    Race.Outcome Progress × List (Race.Look Progress) :=
  Race.runLog race.child .unstarted (.initial race.count race.preferred .unstarted) []
    (visits.reverse.map (Visit.moment race.lead))

theorem trace_cons (latest : Visit) {earlier : List Visit} {log : List (Race.Look Progress)}
    (h : race.trace earlier = (.pending state, log)) :
    race.trace (latest :: earlier) =
      ((Race.poll (Race.watched race.child) .unstarted (race.elapsed latest.before.now) state
          (latest.before, log)).1,
        (Race.poll (Race.watched race.child) .unstarted (race.elapsed latest.before.now) state
          (latest.before, log)).2.2) := by
  rw [trace, List.reverse_cons, List.map_append, Race.runLog_append _ h]
  exact Race.runLog_singleton state log _

/-- What a race comes to agrees with the log. -/
theorem trace_concludes (race : SteadyRace kind) (visits : List Visit) :
    ∃ past, Race.Concludes .unstarted race.count race.preferred past (race.trace visits).1
      (race.trace visits).2 := by
  obtain ⟨-, past, -, -, -, hc⟩ := Race.runLog_logs race.child
    (visits.reverse.map (Visit.moment race.lead))
    (Race.Agrees.initial Progress.unstarted race.count race.preferred
      fun _ hl => (lead_of_preferred hl).1)
  exact ⟨past, hc⟩

/-- How a run stands at its latest visit: the race was not decided before, its children may be
polled, and the visit answers what the race has come to then. -/
structure Course (race : SteadyRace kind) (latest : Visit) (earlier : List Visit)
    (outcome : Poll Progress) (state : Race.State Progress) (log : List (Race.Look Progress)) :
    Prop where
  undecided : race.trace earlier = (.pending state, log)
  prior : earlier = [] ∨ state.Looked log ∧ ∃ past, race.Rested past state
  standing : race.Standing (race.Ready latest.before.now) latest.before.now state
  answers : outcome = (race.trace (latest :: earlier)).1.answer race.lead
  foretold : Foretold race.fate race.started latest.before.now outcome
  rested : ∀ left, (race.trace (latest :: earlier)).1 = .pending left →
    race.Rested latest.before.now left ∧ left.Looked (race.trace (latest :: earlier)).2
  won : ∀ i connection left, (race.trace (latest :: earlier)).1 = .won i connection left →
    ∃ d, race.due i = some ⟨d, true⟩

theorem Standing.regular {running : Nat → Progress → Prop}
    (h : race.Standing running now state) : state.Regular race.count := by
  refine ⟨h.complete, fun hh => ?_⟩
  obtain ⟨-, l, -, -, -, hothers⟩ := h.held hh
  exact ⟨l, hothers⟩

/-- One more visit to a race that is not decided. -/
theorem Course.visit {onWin : Nat → Connection → World → World} {latest : Visit}
    {earlier : List Visit} {log : List (Race.Look Progress)} (hkind : kind latest.before)
    (hstarted : race.started ≤ latest.before.now)
    (hundecided : race.trace earlier = (.pending state, log))
    (hprior : earlier = [] ∨ state.Looked log ∧ ∃ past, race.Rested past state)
    (hstanding : race.Standing (race.Ready latest.before.now) latest.before.now state) :
    race.Course latest earlier (pollRace race.lead race.child onWin state latest.before).1 state
      log := by
  have htrace := trace_cons latest hundecided
  obtain ⟨houtcome, -⟩ := Race.poll_watched_fst race.child .unstarted
    (race.elapsed latest.before.now) state latest.before log
  rcases hwatched : Race.poll (Race.watched race.child) .unstarted
    (race.elapsed latest.before.now) state (latest.before, log) with ⟨outcome, w', log'⟩
  rw [hwatched] at htrace houtcome
  rcases hpoll : Race.poll race.child .unstarted (race.elapsed latest.before.now) state
    latest.before with ⟨outcome', w''⟩
  rw [hpoll] at houtcome
  obtain rfl : outcome = outcome' := houtcome
  obtain ⟨hforetold, hrested, hwon⟩ := poll_foretold hkind hstarted hstanding hpoll
  have hanswer := pollRace_answer race.lead race.child onWin state latest.before
  rw [← elapsed, hpoll] at hanswer
  rw [hanswer]
  refine ⟨hundecided, hprior, hstanding, by rw [htrace], hforetold, ?_, ?_⟩
  · rw [htrace]
    rintro left rfl
    exact ⟨hrested left rfl, Race.poll_looked race.child hstanding.regular hwatched⟩
  · rw [htrace]
    exact hwon

/-- Every punctual run of a race takes such a course. -/
theorem RunBy.course {poller : Poller} {onWin : Nat → Connection → World → World} {w₀ : World}
    (h : race.RunBy poller onWin w₀) {latest : Visit} {earlier : List Visit}
    {outcome : Poll Progress} (run : PunctualRun poller w₀ (latest :: earlier) outcome)
    (hkind : ∀ visit ∈ latest :: earlier, kind visit.before) :
    race.started ≤ latest.before.now ∧
      ∃ state log, race.Course latest earlier outcome state log := by
  generalize hvisits : latest :: earlier = visits at run hkind
  induction run generalizing latest earlier with
  | first =>
    obtain ⟨rfl, rfl⟩ := List.cons.inj hvisits
    have hle := Nat.le_of_eq h.now
    have hw : kind w₀ := hkind _ List.mem_cons_self
    have hstanding := race.standing_initial
    rw [h.now] at hstanding
    rw [h.first]
    exact ⟨hle, _, [], .visit hw hle rfl (.inl rfl) hstanding⟩
  | @again before others p w run hpunctual ih =>
    obtain ⟨rfl, rfl⟩ := List.cons.inj hvisits
    obtain ⟨hstarted, state, log, hcourse⟩ := ih rfl (List.forall_mem_cons.mp hkind).2
    have hle := Nat.le_trans hstarted hpunctual.forward
    rcases htrace : race.trace (before :: others) with ⟨raced, log'⟩
    have hanswers := hcourse.answers
    have hrested := hcourse.rested
    rw [htrace] at hanswers hrested
    cases raced with
    | won i connection state => cases hanswers
    | lost failures => cases hanswers
    | pending left =>
      obtain rfl := Poll.pending.inj hanswers
      obtain ⟨hrested, hlooked⟩ := hrested left rfl
      have hw : kind w := hkind _ List.mem_cons_self
      rw [h.again]
      exact ⟨hle, left, log', .visit hw hle htrace (.inr ⟨hlooked, _, hrested⟩)
        (hrested.resumes hpunctual rfl)⟩

/-- A race of steady children has a fate itself. -/
theorem RunBy.foretells {poller : Poller} {onWin : Nat → Connection → World → World} {w₀ : World}
    (h : race.RunBy poller onWin w₀) : Foretells kind poller race.fate w₀ := by
  intro latest earlier outcome run hkind
  obtain ⟨-, state, log, hcourse⟩ := h.course run hkind
  exact h.now ▸ hcourse.foretold

end SteadyRace

end Dialplan
