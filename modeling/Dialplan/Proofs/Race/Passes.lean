import Dialplan.Proofs.Polling.Rest
import Dialplan.Proofs.Race.Result

/-! How a poll of a race ends. A poll is a loop of passes, and nothing in the loop says how many
there are (`Loops`). It ends all the same, after at most one pass more than there are children; and
when the race waits then, whatever could wake it up has been polled in its last pass
(`never_stalls`). -/

namespace Dialplan.Race

variable {σ ω : Type}

/-- One pass of a poll, as it is seen. -/
structure Sweep (σ : Type) where
  /-- What the timer of the head start says, if it is polled: is the head start over? -/
  timer : Option Bool
  /-- The polls of children. -/
  looks : List (Look σ)

/-- Does a pass begin with a poll of the timer? It is armed as long as the race holds children back,
but they are released without it when no child is running. -/
def State.asks (state : State σ) : Bool := state.holding && state.slots.any Slot.isRunning

/-- The state in which a pass polls the children, after the timer was polled or not. -/
def State.entered (start : σ) (timer : Option Bool) (state : State σ) : State σ :=
  if state.releases (timer == some true) then state.release start else state

/-- What a pass comes to; `none` if there is one more. -/
def Pass.outcome? : Pass σ → Option (Outcome σ)
  | .won i connection state => some (.won i connection state)
  | .finished state progressed =>
    if !state.holding && state.slots.all Slot.isFailed then some (.lost state.failures)
    else if progressed then none
    else some (.pending state)

section

variable (child : Nat → σ → ω → Poll σ × ω) (start : σ)

/-- A pass that begins in a state: the timer is polled if it is asked, and then the running
children are polled. -/
structure Sweeps (state : State σ) (w : ω) (sweep : Sweep σ) (result : Pass σ) (w' : ω) :
    Prop where
  timer : sweep.timer.isSome = state.asks
  looks : pass (watched child) (state.entered start sweep.timer).order
    (state.entered start sweep.timer) false (w, []) = (result, w', sweep.looks)

/-- One poll from a state on: pass after pass, until one decides. -/
inductive Loops : State σ → ω → List (Sweep σ) → Outcome σ → ω → Prop where
  | last {state w sweep result outcome w'} : Sweeps child start state w sweep result w' →
      result.outcome? = some outcome → Loops state w [sweep] outcome w'
  | again {state w sweep left progressed w' sweeps outcome w''} :
      Sweeps child start state w sweep (.finished left progressed) w' →
      (Pass.finished left progressed).outcome? = none → Loops left w' sweeps outcome w'' →
      Loops state w (sweep :: sweeps) outcome w''

/-- The timer says the same as a given one, whenever it is polled. -/
def Heeds (said : Nat → Bool) (sweeps : List (Sweep σ)) : Prop :=
  ∀ k sweep, sweeps[k]? = some sweep → ∀ heard ∈ sweep.timer, heard = said k

/-- The last look at a child left it waiting in a state. -/
def LeftWaiting (looks : List (Look σ)) (i : Nat) (s : σ) : Prop :=
  ∃ before look after, looks = before ++ look :: after ∧ look.child = i ∧
    look.answer = .pending s ∧ ∀ other ∈ after, other.child ≠ i

/-- What is promised of a race that waits after the passes of a poll. -/
structure Awaits (left : State σ) (sweeps : List (Sweep σ)) : Prop where
  /-- Some child is running. -/
  running : ∃ (i : Nat) (s : σ), left.slots[i]? = some (.running s)
  /-- Every running child has been polled in this poll, and then it was left waiting. -/
  polled : ∀ (i : Nat) s, left.slots[i]? = some (.running s) →
    LeftWaiting (sweeps.flatMap Sweep.looks) i s
  /-- If a child is held back, the timer is armed, and it was polled and said that the head start
  is not over. -/
  armed : ∀ i : Nat, left.slots[i]? = some .held → left.holding = true ∧
    ∃ sweep ∈ sweeps, sweep.timer = some false

/-- What is promised of the next poll of a race of `count` children, in some world. -/
structure Lively (count : Nat) (state : State σ) (w : ω) : Prop where
  /-- The poll ends, whatever the timer says. -/
  ends : ∀ said : Nat → Bool, ∃ sweeps outcome w',
    Loops child start state w sweeps outcome w' ∧ Heeds said sweeps
  /-- It makes at most one pass more than there are children. -/
  few : ∀ {sweeps outcome w'}, Loops child start state w sweeps outcome w' →
    sweeps.length ≤ count + 1
  /-- The timer is polled in the first pass, or not at all. -/
  once : ∀ {sweep sweeps outcome w'}, Loops child start state w (sweep :: sweeps) outcome w' →
    ∀ later ∈ sweeps, later.timer = none
  /-- What the loop comes to is the result of the poll. -/
  result : ∀ {sweeps outcome w' elapsed}, Loops child start state w sweeps outcome w' →
    (∀ sweep ∈ sweeps, ∀ heard ∈ sweep.timer, heard = elapsed) →
    poll child start elapsed state w = (outcome, w')
  /-- A race that waits will be woken up. -/
  awaits : ∀ {sweeps left w'}, Loops child start state w sweeps (.pending left) w' →
    Awaits left sweeps

end

/-! ### States of races -/

/-- The state of a race of so many children. While it holds children back, all are held back but
one. -/
structure State.Regular (count : Nat) (state : State σ) : Prop
    extends State.Complete count state where
  behind : state.holding = true →
    ∃ l, ∀ (i : Nat) slot, i ≠ l → state.slots[i]? = some slot → slot = .held

namespace State.Regular

variable {count : Nat} {state : State σ} {start : σ}

theorem initial (count : Nat) (lead : Option Nat) (start : σ) :
    (State.initial count lead start).Regular count := by
  cases lead with
  | none => exact ⟨.together, nofun⟩
  | some l =>
    refine ⟨.behind l, fun _ => ⟨l, fun i slot hne hs => ?_⟩⟩
    have hlt : i < count := by
      have hlt := (List.getElem?_eq_some_iff.mp hs).1
      simpa [State.initial, State.behind] using hlt
    rw [State.initial, State.behind_other start hlt hne] at hs
    exact (Option.some.inj hs).symm

theorem release (h : state.Regular count) : (state.release start).Regular count :=
  ⟨h.toComplete.release, nofun⟩

theorem entered (h : state.Regular count) (timer : Option Bool) :
    (state.entered start timer).Regular count := by
  unfold State.entered
  split
  · exact h.release
  · exact h

theorem set (h : state.Regular count) {i : Nat} {s : σ}
    (hs : state.slots[i]? = some (.running s)) {slot : Slot σ} (hslot : slot ≠ .held)
    (failures : List Error) :
    State.Regular count { state with slots := state.slots.set i slot, failures := failures } := by
  refine ⟨h.toComplete.set i hslot failures, fun hh => ?_⟩
  obtain ⟨l, hl⟩ := h.behind hh
  refine ⟨l, fun j other hne hj => ?_⟩
  by_cases hij : i = j
  · -- the child that is polled runs, so it is the one that is not held back
    cases hl i _ (hij ▸ hne) hs
  · rw [List.getElem?_set_ne hij] at hj
    exact hl j other hne hj

/-- A race whose lead still runs has not seen any child fail. -/
theorem unfailed_eq (h : state.Regular count) (ha : state.asks = true) :
    state.unfailed = state.slots.length := by
  obtain ⟨hh, hr⟩ := Bool.and_eq_true_iff.mp ha
  obtain ⟨l, hl⟩ := h.behind hh
  obtain ⟨running, hm, hrunning⟩ := List.any_eq_true.mp hr
  obtain ⟨j, hj⟩ := List.mem_iff_getElem?.mp hm
  obtain rfl : j = l := by
    by_contra hne
    rw [hl j running hne hj] at hrunning
    cases hrunning
  refine List.countP_eq_length.mpr fun slot hslot => ?_
  obtain ⟨i, hi⟩ := List.mem_iff_getElem?.mp hslot
  by_cases hij : i = j
  · rw [hij, hj] at hi
    obtain rfl := Option.some.inj hi
    cases running with
    | running s => rfl
    | _ => cases hrunning
  · rw [hl i slot hij hi]
    rfl

end State.Regular

theorem State.unfailed_entered (state : State σ) (start : σ) (timer : Option Bool) :
    (state.entered start timer).unfailed = state.unfailed := by
  unfold State.entered
  split
  · exact state.unfailed_release start
  · rfl

/-- A pass does not begin by releasing children that were released before. -/
theorem State.releases_entered (state : State σ) (start : σ) (timer : Option Bool) :
    (state.entered start timer).releases (timer == some true) = false := by
  unfold State.entered
  split
  · rfl
  · rename_i h
    exact Bool.eq_false_iff.mpr h

/-- A race holds children back in a pass only if the timer was polled and said so. -/
theorem State.holding_entered {state : State σ} {start : σ} {timer : Option Bool}
    (htimer : timer.isSome = state.asks) (hh : (state.entered start timer).holding = true) :
    state.asks = true ∧ timer = some false := by
  unfold State.entered at hh
  split at hh
  · cases hh
  · rename_i hr
    rw [State.releases, hh, Bool.true_and, Bool.or_eq_true, not_or] at hr
    obtain ⟨hover, hrunning⟩ := hr
    have ha : state.asks = true := by
      rw [State.asks, hh, Bool.true_and]
      simpa using hrunning
    rw [ha] at htimer
    cases timer with
    | none => cases htimer
    | some heard =>
      cases heard with
      | false => exact ⟨ha, rfl⟩
      | true => exact absurd rfl hover

/-- What the timer says decides, if it is asked, and otherwise the children are released. -/
theorem State.entered_eq {state : State σ} {timer : Option Bool} {elapsed : Bool} (start : σ)
    (htimer : timer.isSome = state.asks) (hsaid : ∀ heard ∈ timer, heard = elapsed) :
    (if state.releases elapsed then state.release start else state) =
      state.entered start timer := by
  have hreleases : state.releases elapsed = state.releases (timer == some true) := by
    cases timer with
    | some heard =>
      obtain rfl := hsaid heard rfl
      cases heard <;> rfl
    | none =>
      have hasks : state.asks = false := htimer.symm
      unfold State.asks at hasks
      unfold State.releases
      cases hh : state.holding with
      | false => rfl
      | true =>
        rw [hh, Bool.true_and] at hasks
        rw [hasks, Bool.not_false, Bool.or_true, Bool.or_true]
  rw [State.entered, hreleases]

/-! ### Passes -/

namespace Pass

variable {state left : State σ} {result : Pass σ} {progressed : Bool}

/-- There is one more pass only if a child has failed in this one. -/
theorem progressed_of_outcome? (h : (Pass.finished state progressed).outcome? = none) :
    progressed = true := by
  rw [outcome?] at h
  split at h
  · cases h
  · by_contra hp
    rw [if_neg hp] at h
    cases h

theorem finished_of_outcome? (h : result.outcome? = some (.pending left)) :
    result = .finished left false ∧
      (!left.holding && left.slots.all Slot.isFailed) = false := by
  cases result with
  | won i connection state => cases h
  | finished state progressed =>
    rw [outcome?] at h
    split at h
    · cases h
    · rename_i hlost
      cases progressed with
      | true => cases h
      | false =>
        cases h
        exact ⟨rfl, Bool.eq_false_iff.mpr hlost⟩

end Pass

section

variable {child : Nat → σ → ω → Poll σ × ω} {start : σ} {count : Nat} {state left : State σ}
  {w w' : ω} {sweep : Sweep σ}

/-- Whatever children do, a race stays regular. -/
theorem regular_settles (child : Nat → σ → ω → Poll σ × ω) (count : Nat) :
    Settles child (fun state _ => state.Regular count) (fun _ _ _ _ => True)
      fun _ _ => True := by
  intro state w i s h hs
  rcases child i s w with ⟨answer, w'⟩
  cases answer with
  | pending s' =>
    have hslot : Slot.running s' ≠ .held := nofun
    exact ⟨h.set hs hslot state.failures, trivial⟩
  | ready result =>
    cases result with
    | ok connection => trivial
    | error e =>
      have hslot : (Slot.failed : Slot σ) ≠ .held := nofun
      exact h.set hs hslot _

theorem run_regular {moments : List (Moment ω)} (h : state.Regular count)
    (hrun : run child start state moments = .pending left) : left.Regular count := by
  induction moments generalizing state with
  | nil =>
    obtain rfl := Outcome.pending.inj hrun
    exact h
  | cons moment rest ih =>
    have hpoll := poll_rule start (regular_settles child count).looks (fun _ _ h => h.release)
      moment.elapsed state (w := moment.world) h
    rw [run] at hrun
    generalize poll child start moment.elapsed state moment.world = polled at hpoll hrun
    obtain ⟨outcome, w⟩ := polled
    cases outcome with
    | pending state' => exact ih hpoll hrun
    | won i connection state' => cases hrun
    | lost failures => cases hrun

theorem Heeds.nil (said : Nat → Bool) : Heeds said ([] : List (Sweep σ)) :=
  fun _ _ hk => nomatch hk

theorem Heeds.cons {said : Nat → Bool} {sweeps : List (Sweep σ)}
    (hfirst : ∀ heard ∈ sweep.timer, heard = said 0) (h : Heeds (fun k => said (k + 1)) sweeps) :
    Heeds said (sweep :: sweeps) := by
  intro k other hk
  cases k with
  | zero =>
    cases hk
    exact hfirst
  | succ k => exact h k other hk

theorem LeftWaiting.cons {looks : List (Look σ)} {i : Nat} {s : σ} (h : LeftWaiting looks i s)
    (look : Look σ) : LeftWaiting (look :: looks) i s := by
  obtain ⟨before, last, after, rfl, hlast⟩ := h
  exact ⟨look :: before, last, after, rfl, hlast⟩

theorem LeftWaiting.append {looks : List (Look σ)} {i : Nat} {s : σ} (h : LeftWaiting looks i s)
    (earlier : List (Look σ)) : LeftWaiting (earlier ++ looks) i s := by
  obtain ⟨before, last, after, rfl, hlast⟩ := h
  exact ⟨earlier ++ before, last, after, by rw [List.append_assoc], hlast⟩

/-- A child that runs after a pass in which it had a turn was left waiting in it. -/
theorem pass_leaves (child : Nat → σ → ω → Poll σ × ω) : ∀ (rest : List Nat) {state left : State σ}
    {progressed progressed' : Bool} {w w' : ω} {log log' : List (Look σ)},
    pass (watched child) rest state progressed (w, log) =
      (.finished left progressed', w', log') →
    ∃ looks, log' = log ++ looks ∧ (∀ look ∈ looks, look.child ∈ rest) ∧
      ∀ (i : Nat) s, left.slots[i]? = some (.running s) →
        LeftWaiting looks i s ∨ i ∉ rest ∧ state.slots[i]? = some (.running s)
  | [], _, _, _, _, _, _, _, _, h => by
    cases h
    exact ⟨[], by simp, nofun, fun i s hs => .inr ⟨List.not_mem_nil, hs⟩⟩
  | i :: rest, state, left, progressed, progressed', w, w', log, log', h => by
    -- the rest of the pass starts from a state that differs in the slot of `i` alone
    have hlook : ∀ {answer : Poll σ} {s : σ} {state' : State σ} {progressed : Bool} {w₁ : ω},
        state.slots[i]? = some (.running s) → state'.slots = state.slots.set i (.after answer) →
        pass (watched child) rest state' progressed (w₁, log ++ [⟨i, s, answer⟩]) =
          (.finished left progressed', w', log') →
        ∃ looks, log' = log ++ looks ∧ (∀ look ∈ looks, look.child ∈ i :: rest) ∧
          ∀ (j : Nat) s, left.slots[j]? = some (.running s) →
            LeftWaiting looks j s ∨ j ∉ i :: rest ∧ state.slots[j]? = some (.running s) := by
      intro answer s state' progressed w₁ hs hslots h
      obtain ⟨looks, rfl, hturns, hleft⟩ := pass_leaves child rest h
      have hlt := (List.getElem?_eq_some_iff.mp hs).1
      refine ⟨⟨i, s, answer⟩ :: looks, by simp,
        List.forall_mem_cons.mpr ⟨List.mem_cons_self, fun look hm =>
          List.mem_cons_of_mem _ (hturns look hm)⟩, fun j s' hj => ?_⟩
      rcases hleft j s' hj with hwaiting | ⟨hnot, hold⟩
      · exact .inl (hwaiting.cons _)
      · rw [hslots] at hold
        by_cases hij : i = j
        · subst hij
          rw [List.getElem?_set_self hlt] at hold
          exact .inl ⟨[], _, looks, rfl, rfl, Slot.pending_of_after (Option.some.inj hold),
            fun other hm he => hnot (he ▸ hturns other hm)⟩
        · rw [List.getElem?_set_ne hij] at hold
          exact .inr ⟨by simp [Ne.symm hij, hnot], hold⟩
    rw [pass] at h
    split at h
    · rename_i s hs
      simp only [watched] at h
      rcases hpoll : child i s w with ⟨answer, w₁⟩
      rw [hpoll] at h
      cases answer with
      | pending s' => exact hlook hs rfl h
      | ready result =>
        cases result with
        | ok connection => cases h
        | error e => exact hlook hs rfl h
    · rename_i hnone
      obtain ⟨looks, rfl, hturns, hleft⟩ := pass_leaves child rest h
      refine ⟨looks, rfl, fun look hm => List.mem_cons_of_mem _ (hturns look hm),
        fun j s hj => (hleft j s hj).imp_right ?_⟩
      rintro ⟨hnot, hold⟩
      refine ⟨fun hm => ?_, hold⟩
      rcases List.mem_cons.mp hm with rfl | hm
      · exact hnone s hold
      · exact hnot hm

/-- Every child that runs has been polled. -/
def State.Looked (state : State σ) (log : List (Look σ)) : Prop :=
  ∀ (i : Nat) s, state.slots[i]? = some (.running s) → ∃ look ∈ log, look.child = i

theorem passes_looked (child : Nat → σ → ω → Poll σ × ω) (start : σ) (elapsed : Bool) :
    ∀ (fuel : Nat) {state left : State σ} {w w' : ω} {log log' : List (Look σ)},
    (fuel = 0 → state.Looked log) → state.Regular count →
    passes (watched child) start elapsed fuel state (w, log) = (.pending left, w', log') →
    left.Looked log'
  | 0, _, _, _, _, _, _, hlooked, _, h => by
    cases h
    exact hlooked rfl
  | fuel + 1, state, left, w, w', log, log', _, hregular, h => by
    rw [passes] at h
    have hregular : (if state.releases elapsed then state.release start else state).Regular
        count := by
      split
      · exact hregular.release
      · exact hregular
    generalize (if state.releases elapsed then state.release start else state) = state
      at h hregular
    have hrule := pass_rule (regular_settles (watched child) count).looks state.order state false
      (w, log) hregular
    rcases hpass : pass (watched child) state.order state false (w, log) with ⟨result, w₁, log₁⟩
    rw [hpass] at h hrule
    cases result with
    | won i connection state' => cases h
    | finished state' progressed =>
      -- all children have a turn in a pass
      have hlooked : state'.Looked log₁ := by
        obtain ⟨looks, rfl, -, hleft⟩ := pass_leaves child _ hpass
        intro i s hs
        rcases hleft i s hs with ⟨before, look, after, rfl, hi, -⟩ | ⟨hnot, hold⟩
        · exact ⟨look, by simp, hi⟩
        · have hlt := (List.getElem?_eq_some_iff.mp hold).1
          exact absurd (hregular.turns i (hregular.length ▸ hlt)) hnot
      dsimp only at h
      split at h
      · cases h
      · split at h
        · exact passes_looked child start elapsed fuel (fun _ => hlooked) hrule h
        · cases h
          exact hlooked

/-- A race that waits after a poll has polled every child that runs. -/
theorem poll_looked (child : Nat → σ → ω → Poll σ × ω) {elapsed : Bool}
    {log log' : List (Look σ)} (hregular : state.Regular count)
    (h : poll (watched child) start elapsed state (w, log) = (.pending left, w', log')) :
    left.Looked log' :=
  passes_looked child start elapsed (state.slots.length + 1) (fun h => (nomatch h)) hregular h

namespace Sweeps

theorem timer_eq_none {result : Pass σ} (hsweep : Sweeps child start state w sweep result w')
    (hasks : state.asks = false) : sweep.timer = none := by
  have htimer := hsweep.timer
  rw [hasks] at htimer
  exact Option.isNone_iff_eq_none.mp (Option.isSome_eq_false_iff.mp htimer)

theorem regular {progressed : Bool} (h : state.Regular count)
    (hsweep : Sweeps child start state w sweep (.finished left progressed) w') :
    left.Regular count := by
  have hrule := pass_rule (regular_settles (watched child) count).looks
    (state.entered start sweep.timer).order (state.entered start sweep.timer) false (w, [])
    (h.entered sweep.timer)
  rw [hsweep.looks] at hrule
  exact hrule

/-- After a pass that has not decided, one child less has not failed, and the timer is not asked
again. -/
theorem undecided {progressed : Bool} (h : state.Regular count)
    (hsweep : Sweeps child start state w sweep (.finished left progressed) w')
    (hnone : (Pass.finished left progressed).outcome? = none) :
    left.unfailed < state.unfailed ∧ left.asks = false := by
  have hpassed := pass_passed _ hsweep.looks
  have hprogress := Pass.progressed_of_outcome? hnone
  have hless : left.unfailed < state.unfailed := by
    have hless := (hpassed.progress hprogress).resolve_left nofun
    rwa [State.unfailed_entered] at hless
  refine ⟨hless, Bool.eq_false_iff.mpr fun hasks => ?_⟩
  have hleft := hsweep.regular h
  have hall := hleft.unfailed_eq hasks
  have hle := state.unfailed_le
  rw [h.length] at hle
  rw [hleft.length] at hall
  omega

/-- A race that waits after a pass has polled all that can wake it up. -/
theorem awaits (h : state.Regular count) {result : Pass σ}
    (hsweep : Sweeps child start state w sweep result w')
    (houtcome : result.outcome? = some (.pending left)) : Awaits left [sweep] := by
  obtain ⟨rfl, hlost⟩ := Pass.finished_of_outcome? houtcome
  have hentered : (state.entered start sweep.timer).Regular count := h.entered sweep.timer
  have hleft := hsweep.regular h
  have hresting := resting_of_pass (regular_settles (watched child) count)
    hentered.toComplete hleft.toComplete hentered (state.releases_entered start sweep.timer)
    hsweep.looks hlost
  obtain ⟨looks, hlooks, -, hwaiting⟩ := pass_leaves child _ hsweep.looks
  refine ⟨hresting.running, fun i s hs => ?_, fun i hi => ?_⟩
  · rcases hwaiting i s hs with hwaiting | ⟨hnot, hold⟩
    · rw [List.flatMap_singleton, hlooks]
      exact hwaiting
    · have hlt := (List.getElem?_eq_some_iff.mp hold).1
      exact absurd (hentered.turns i (hentered.length ▸ hlt)) hnot
  · have hh : left.holding = true := by
      by_contra hh
      exact hleft.started (Bool.eq_false_iff.mpr hh) _ (List.mem_of_getElem? hi) rfl
    refine ⟨hh, sweep, List.mem_singleton_self _, ?_⟩
    exact (State.holding_entered hsweep.timer ((pass_passed _ hsweep.looks).holding ▸ hh)).2

/-- The children do not notice that they are watched. -/
theorem pass_eq {result : Pass σ} (hsweep : Sweeps child start state w sweep result w') :
    pass child (state.entered start sweep.timer).order (state.entered start sweep.timer) false w =
      (result, w') := by
  obtain ⟨hresult, hworld⟩ := pass_watched_fst child (state.entered start sweep.timer).order
    (state.entered start sweep.timer) false w []
  rw [hsweep.looks] at hresult hworld
  exact Prod.ext hresult.symm hworld.symm

theorem passes_of_some {result : Pass σ} {outcome : Outcome σ} {elapsed : Bool}
    (hsweep : Sweeps child start state w sweep result w')
    (hsaid : ∀ heard ∈ sweep.timer, heard = elapsed) (h : result.outcome? = some outcome)
    (fuel : Nat) : passes child start elapsed (fuel + 1) state w = (outcome, w') := by
  rw [passes, State.entered_eq start hsweep.timer hsaid, hsweep.pass_eq]
  cases result with
  | won i connection left =>
    cases h
    rfl
  | finished left progressed =>
    rw [Pass.outcome?] at h
    dsimp only
    split at h
    · rename_i hlost
      rw [if_pos hlost]
      cases h
      rfl
    · rename_i hlost
      rw [if_neg hlost]
      cases progressed with
      | true => cases h
      | false =>
        cases h
        rfl

theorem passes_of_none {progressed elapsed : Bool}
    (hsweep : Sweeps child start state w sweep (.finished left progressed) w')
    (hsaid : ∀ heard ∈ sweep.timer, heard = elapsed)
    (h : (Pass.finished left progressed).outcome? = none) (fuel : Nat) :
    passes child start elapsed (fuel + 1) state w =
      passes child start elapsed fuel left w' := by
  obtain rfl := Pass.progressed_of_outcome? h
  rw [passes, State.entered_eq start hsweep.timer hsaid, hsweep.pass_eq]
  rw [Pass.outcome?] at h
  dsimp only
  split at h
  · cases h
  · rename_i hlost
    rw [if_neg hlost, if_pos rfl]

/-- There is one pass in every state, with whatever the timer says. -/
theorem exists_said (child : Nat → σ → ω → Poll σ × ω) (start : σ) (state : State σ) (w : ω)
    (said : Bool) : ∃ sweep result w', Sweeps child start state w sweep result w' ∧
      ∀ heard ∈ sweep.timer, heard = said := by
  obtain ⟨timer, htimer, hsaid⟩ : ∃ timer : Option Bool,
      timer.isSome = state.asks ∧ ∀ heard ∈ timer, heard = said := by
    cases state.asks with
    | true => exact ⟨some said, rfl, fun heard h => (Option.some.inj h).symm⟩
    | false => exact ⟨none, rfl, nofun⟩
  rcases hpass : pass (watched child) (state.entered start timer).order
    (state.entered start timer) false (w, []) with ⟨result, w', looks⟩
  exact ⟨⟨timer, looks⟩, result, w', ⟨htimer, hpass⟩, hsaid⟩

end Sweeps

/-! ### Polls -/

namespace Loops

variable {sweeps : List (Sweep σ)} {outcome : Outcome σ}

/-- Every pass that does not decide sees a child fail. -/
theorem length_le (hloops : Loops child start state w sweeps outcome w')
    (h : state.Regular count) : sweeps.length ≤ state.unfailed + 1 := by
  induction hloops with
  | last _ _ => exact Nat.succ_le_succ (Nat.zero_le _)
  | again hsweep hnone _ ih =>
    have hle := ih (hsweep.regular h)
    have hless := (hsweep.undecided h hnone).1
    rw [List.length_cons]
    omega

theorem timers_eq_none (hloops : Loops child start state w sweeps outcome w')
    (h : state.Regular count) (hasks : state.asks = false) :
    ∀ sweep ∈ sweeps, sweep.timer = none := by
  induction hloops with
  | last hsweep _ => exact List.forall_mem_singleton.mpr (hsweep.timer_eq_none hasks)
  | again hsweep hnone _ ih =>
    exact List.forall_mem_cons.mpr ⟨hsweep.timer_eq_none hasks,
      ih (hsweep.regular h) (hsweep.undecided h hnone).2⟩

/-- Passes that are given enough of them come to what the loop comes to. -/
theorem passes_eq {elapsed : Bool} (hloops : Loops child start state w sweeps outcome w')
    (h : state.Regular count) (hsaid : ∀ sweep ∈ sweeps, ∀ heard ∈ sweep.timer, heard = elapsed)
    {fuel : Nat} (hfuel : state.unfailed < fuel) :
    passes child start elapsed fuel state w = (outcome, w') := by
  induction hloops generalizing fuel with
  | last hsweep houtcome =>
    obtain ⟨fuel, rfl⟩ := Nat.exists_eq_add_one.mpr (Nat.zero_lt_of_lt hfuel)
    exact hsweep.passes_of_some (hsaid _ List.mem_cons_self) houtcome fuel
  | again hsweep hnone hrest ih =>
    obtain ⟨fuel, rfl⟩ := Nat.exists_eq_add_one.mpr (Nat.zero_lt_of_lt hfuel)
    obtain ⟨hfirst, hlater⟩ := List.forall_mem_cons.mp hsaid
    have hless := (hsweep.undecided h hnone).1
    rw [hsweep.passes_of_none hfirst hnone fuel]
    exact ih (hsweep.regular h) hlater (by omega)

/-- The loop ends: every pass that does not decide leaves one child less that has not failed. -/
theorem exists_heeding (child : Nat → σ → ω → Poll σ × ω) (start : σ) (h : state.Regular count)
    (w : ω) (said : Nat → Bool) : ∃ sweeps outcome w',
      Loops child start state w sweeps outcome w' ∧ Heeds said sweeps := by
  induction hn : state.unfailed using Nat.strongRecOn generalizing state w said with
  | _ n ih =>
    subst hn
    obtain ⟨sweep, result, w₁, hsweep, hsaid⟩ :=
      Sweeps.exists_said child start state w (said 0)
    cases houtcome : result.outcome? with
    | some outcome =>
      exact ⟨[sweep], outcome, w₁, .last hsweep houtcome, .cons hsaid (.nil _)⟩
    | none =>
      cases result with
      | won i connection left => cases houtcome
      | finished left progressed =>
        obtain ⟨sweeps, outcome, w₂, hloops, hheeds⟩ := ih _ (hsweep.undecided h houtcome).1
          (hsweep.regular h) w₁ (fun k => said (k + 1)) rfl
        exact ⟨sweep :: sweeps, outcome, w₂, .again hsweep houtcome hloops, .cons hsaid hheeds⟩

/-- The passes before the last one are of no account to a race that waits. -/
theorem awaits (hloops : Loops child start state w sweeps (.pending left) w')
    (h : state.Regular count) : Awaits left sweeps := by
  generalize houtcome : Outcome.pending left = outcome at hloops
  induction hloops with
  | last hsweep hlast =>
    subst houtcome
    exact hsweep.awaits h hlast
  | again hsweep hnone hrest ih =>
    have hwaits := ih (hsweep.regular h) houtcome
    refine ⟨hwaits.running, fun i s hs => ?_, fun i hi => ?_⟩
    · rw [List.flatMap_cons]
      exact (hwaits.polled i s hs).append _
    · obtain ⟨hh, sweep, hm, htimer⟩ := hwaits.armed i hi
      exact ⟨hh, sweep, List.mem_cons_of_mem _ hm, htimer⟩

theorem once (hloops : Loops child start state w (sweep :: sweeps) outcome w')
    (h : state.Regular count) : ∀ later ∈ sweeps, later.timer = none := by
  cases hloops with
  | last _ _ => exact nofun
  | again hsweep hnone hrest =>
    exact hrest.timers_eq_none (hsweep.regular h) (hsweep.undecided h hnone).2

end Loops

/-- A regular race is lively, in whatever world it is polled. -/
theorem State.Regular.lively (h : state.Regular count) (child : Nat → σ → ω → Poll σ × ω)
    (start : σ) (w : ω) : Lively child start count state w where
  ends := Loops.exists_heeding child start h w
  few hloops := by
    have hle := hloops.length_le h
    have hunfailed := state.unfailed_le
    rw [h.length] at hunfailed
    omega
  once hloops := hloops.once h
  result hloops hsaid := hloops.passes_eq h hsaid (Nat.lt_succ_of_le state.unfailed_le)
  awaits hloops := hloops.awaits h

/-- A race never stalls: however its children and its timer have answered up to now, and however
they answer in the next poll, that poll ends after at most one pass more than there are children;
and if the race waits then, it will be woken up. -/
theorem never_stalls (lead : Option (Fin count)) (moments : List (Moment ω))
    (hrun : run child start (.initial count (lead.map Fin.val) start) moments = .pending state)
    (w : ω) : Lively child start count state w :=
  (run_regular (.initial count (lead.map Fin.val) start) hrun).lively child start w

end

/-- The first child fails whenever it is polled, and the others wait for ever. -/
def refusedLead (i : Nat) (s w : Unit) : Poll Unit × Unit :=
  (if i = 0 then .ready (.error (.connection "refused")) else .pending s, w)

/-- The race behind the first child, after its first poll. -/
def refusedLeadState : State Unit :=
  ⟨false, [0, 1], [.failed, .running ()], [.connection "refused"]⟩

/-- A lead that fails at once does not strand the child behind it: a second pass, without a poll
of the timer, has polled it. -/
theorem never_stalls_refused_lead :
    Loops refusedLead () (.initial 2 (some 0) ()) ()
      [⟨some false, [⟨0, (), .ready (.error (.connection "refused"))⟩]⟩,
        ⟨none, [⟨1, (), .pending ()⟩]⟩] (.pending refusedLeadState) () ∧
    Lively refusedLead () 2 (.initial 2 (some 0) ()) () ∧
    Lively refusedLead () 2 refusedLeadState () :=
  ⟨.again ⟨rfl, rfl⟩ rfl (.last ⟨rfl, rfl⟩ rfl),
    never_stalls (some (0 : Fin 2)) [] rfl (),
    never_stalls (some (0 : Fin 2)) [⟨false, ()⟩] rfl ()⟩

end Dialplan.Race
