import Dialplan.Connect.Race
import Dialplan.Connect.Sequence

/-! Rules of polling. What holds after a poll is said for each of its answers. A race and a
sequence are loops over polls of their children, and each has a rule: what every poll of a
child keeps, the whole loop keeps. -/

namespace Dialplan

variable {σ τ ω : Type}

namespace Poll

/-- What holds after a poll, for each of its answers. -/
def Yields (pending : σ → ω → Prop) (won : Connection → ω → Prop) (lost : Error → ω → Prop) :
    Poll σ × ω → Prop
  | (.pending s, w) => pending s w
  | (.ready (.ok connection), w) => won connection w
  | (.ready (.error e), w) => lost e w

variable {pending pending' : σ → ω → Prop} {won won' : Connection → ω → Prop}
  {lost lost' : Error → ω → Prop}

theorem Yields.intro {polled : Poll σ × ω} (hp : ∀ s w, pending s w)
    (hw : ∀ connection w, won connection w) (hl : ∀ e w, lost e w) :
    Yields pending won lost polled := by
  obtain ⟨answer, w⟩ := polled
  cases answer with
  | pending s => exact hp s w
  | ready result =>
    cases result with
    | error e => exact hl e w
    | ok connection => exact hw connection w

theorem Yields.imp {polled : Poll σ × ω} (h : Yields pending won lost polled)
    (hp : ∀ s w, pending s w → pending' s w)
    (hw : ∀ connection w, won connection w → won' connection w)
    (hl : ∀ e w, lost e w → lost' e w) : Yields pending' won' lost' polled := by
  obtain ⟨answer, w⟩ := polled
  cases answer with
  | pending s => exact hp s w h
  | ready result =>
    cases result with
    | error e => exact hl e w h
    | ok connection => exact hw connection w h

theorem Yields.mono {polled : Poll σ × ω} (h : Yields pending won lost polled)
    (hp : ∀ s w, pending s w → pending' s w) : Yields pending' won lost polled :=
  h.imp hp (fun _ _ h => h) fun _ _ h => h

theorem yields_world {P : ω → Prop} {polled : Poll σ × ω} :
    Yields (fun _ => P) (fun _ => P) (fun _ => P) polled ↔ P polled.2 := by
  obtain ⟨answer, w⟩ := polled
  cases answer with
  | pending s => rfl
  | ready result => cases result <;> rfl

/-- What holds of the world after a poll, holds with each of its answers. -/
theorem Yields.and {P : ω → Prop} {polled : Poll σ × ω} (h : Yields pending won lost polled)
    (hP : P polled.2) :
    Yields (fun s w => pending s w ∧ P w) (fun connection w => won connection w ∧ P w)
      (fun e w => lost e w ∧ P w) polled := by
  obtain ⟨answer, w⟩ := polled
  cases answer with
  | pending s => exact ⟨h, hP⟩
  | ready result =>
    cases result with
    | error e => exact ⟨h, hP⟩
    | ok connection => exact ⟨h, hP⟩

theorem Yields.map {pending : τ → ω → Prop} {f : σ → τ} {polled : Poll σ × ω}
    (h : Yields (fun s => pending (f s)) won lost polled) :
    Yields pending won lost (polled.1.map f, polled.2) := by
  obtain ⟨answer, w⟩ := polled
  cases answer with
  | pending s => exact h
  | ready result =>
    cases result with
    | error e => exact h
    | ok connection => exact h

end Poll

/-- Children of whose polls something is written down, the latest last. -/
def logged {α : Type} (child : Nat → σ → ω → Poll σ × ω) (write : Nat → σ → ω → α) (i : Nat)
    (s : σ) (w : ω × List α) : Poll σ × (ω × List α) :=
  ((child i s w.1).1, (child i s w.1).2, w.2 ++ [write i s w.1])

namespace Race

/-- What holds after a pass. -/
def Pass.Yields (running : State σ → ω → Prop)
    (won : Nat → Connection → State σ → ω → Prop) : Pass σ × ω → Prop
  | (.finished state _, w) => running state w
  | (.won i connection state, w) => won i connection state w

/-- What holds after a poll of a race. A lost race comes from a state whose children have
all failed. -/
def Outcome.Yields (running : State σ → ω → Prop)
    (won : Nat → Connection → State σ → ω → Prop) : Outcome σ × ω → Prop
  | (.pending state, w) => running state w
  | (.won i connection state, w) => won i connection state w
  | (.lost failures, w) => ∃ state, running state w ∧
      state.slots.all Slot.isFailed = true ∧ state.failures = failures

section

variable {child : Nat → σ → ω → Poll σ × ω} {start : σ} {inv : State σ → ω → Prop}
  {won : Nat → Connection → State σ → ω → Prop}

/-- Every poll of a running child keeps `inv`, and its success yields `won`. -/
def Looks (child : Nat → σ → ω → Poll σ × ω) (inv : State σ → ω → Prop)
    (won : Nat → Connection → State σ → ω → Prop) : Prop :=
  ∀ state w i s, inv state w → state.slots[i]? = some (.running s) →
    Poll.Yields
      (fun s w => inv { state with slots := state.slots.set i (.running s) } w)
      (fun connection w => won i connection { state with slots := state.slots.set i .failed } w)
      (fun e w => inv { state with
        slots := state.slots.set i .failed, failures := state.failures ++ [e] } w)
      (child i s w)

theorem pass_rule (look : Looks child inv won) : ∀ (rest : List Nat) (state : State σ)
    (progressed : Bool) (w : ω), inv state w →
    Pass.Yields inv won (pass child rest state progressed w)
  | [], _, _, _, h => h
  | i :: rest, state, progressed, w, h => by
    rw [pass]
    split
    · rename_i s hs
      have hl := look state w i s h hs
      generalize child i s w = polled at hl ⊢
      obtain ⟨answer, w⟩ := polled
      cases answer with
      | pending s => exact pass_rule look rest _ progressed w hl
      | ready result =>
        cases result with
        | error e => exact pass_rule look rest _ true w hl
        | ok connection => exact hl
    · exact pass_rule look rest state progressed w h

theorem passes_rule (look : Looks child inv won)
    (release : ∀ state w, inv state w → inv (state.release start) w) (elapsed : Bool) :
    ∀ (fuel : Nat) (state : State σ) (w : ω), inv state w →
    Outcome.Yields inv won (passes child start elapsed fuel state w)
  | 0, _, _, h => h
  | fuel + 1, state, w, h => by
    rw [passes]
    have h : inv (if state.releases elapsed then state.release start else state) w := by
      split
      · exact release state w h
      · exact h
    generalize (if state.releases elapsed then state.release start else state) = state at h
    have hp := pass_rule look state.order state false w h
    generalize pass child state.order state false w = passed at hp
    obtain ⟨result, w⟩ := passed
    cases result with
    | won i connection state => exact hp
    | finished state progressed =>
      dsimp only at hp ⊢
      split
      · rename_i hlost
        exact ⟨state, hp, (Bool.and_eq_true_iff.mp hlost).2, rfl⟩
      · split
        · exact passes_rule look release elapsed fuel state w hp
        · exact hp

/-- The rule of a race: what releasing and polling its children keep, the race keeps. -/
theorem poll_rule (start : σ) (look : Looks child inv won)
    (release : ∀ state w, inv state w → inv (state.release start) w) (elapsed : Bool)
    (state : State σ) {w : ω} (h : inv state w) :
    Outcome.Yields inv won (poll child start elapsed state w) :=
  passes_rule look release elapsed _ state w h

end

/-- Something holds of every running child. -/
def Running (P : Nat → σ → Prop) (slots : List (Slot σ)) : Prop :=
  ∀ (i : Nat) s, slots[i]? = some (.running s) → P i s

namespace Running

variable {P : Nat → σ → Prop} {slots : List (Slot σ)} {start : σ}

theorem fresh (hstart : ∀ i, P i start) (h : ∀ slot ∈ slots, slot = .held ∨ slot = .running start) :
    Running P slots := by
  intro i s hs
  rcases h _ (List.mem_of_getElem? hs) with hslot | hslot
  · cases hslot
  · cases hslot
    exact hstart i

theorem release (hstart : ∀ i, P i start) (h : Running P slots) :
    Running P (slots.map (Slot.release start)) := by
  intro i s hs
  rw [List.getElem?_map, Option.map_eq_some_iff] at hs
  obtain ⟨slot, hslot, hs⟩ := hs
  cases slot with
  | held =>
    cases hs
    exact hstart i
  | running s =>
    cases hs
    exact h i s hslot
  | failed => cases hs

theorem set {i : Nat} {slot : Slot σ} (h : Running P slots)
    (hi : ∀ s, slot = .running s → P i s) : Running P (slots.set i slot) := by
  intro j s hs
  rw [List.getElem?_set] at hs
  split at hs
  · rename_i hij
    subst hij
    split at hs
    · exact hi s (Option.some.inj hs)
    · cases hs
  · exact h j s hs

end Running

end Race

namespace Sequence

/-- Goes on within a poll after a failed try. -/
def goOn (setting : Setting σ ω) (fuel : Nat) (state : State σ) (w : ω) : Poll (State σ) × ω :=
  match next setting state with
  | .proceed state => run setting fuel state w
  | .pause state => (.pending state, w)
  | .lost failures => (.ready (.error (.allFailed failures)), w)

theorem run_succ (setting : Setting σ ω) (fuel : Nat) (state : State σ) (w : ω) :
    run setting (fuel + 1) state w =
      match state.phase with
      | .trying deadline s =>
        match tryOnce setting state deadline s w with
        | (.waiting state, w) => (.pending state, w)
        | (.connected connection, w) => (.ready (.ok connection), w)
        | (.failed state, w) => goOn setting fuel state w
      | .waitingOut timer =>
        if timer.isDue setting.now then goOn setting fuel state w else (.pending state, w)
      | .rewound => run setting fuel (begin setting 0 state.bound state.failures) w := rfl

/-- What a sequence keeps: `busy` of the child that is tried, and `idle` between tries. -/
def Phased (busy : Nat → σ → ω → Prop) (idle : ω → Prop) (state : State σ) (w : ω) : Prop :=
  match state.phase with
  | .trying _ s => busy state.index s w
  | .waitingOut _ => idle w
  | .rewound => idle w

theorem phased_world {P : ω → Prop} {state : State σ} {w : ω} :
    Phased (fun _ _ => P) P state w ↔ P w := by
  unfold Phased
  split <;> rfl

theorem phased_and {busy : Nat → σ → ω → Prop} {idle P : ω → Prop} {state : State σ} {w : ω} :
    Phased (fun i s w => busy i s w ∧ P w) (fun w => idle w ∧ P w) state w ↔
      Phased busy idle state w ∧ P w := by
  unfold Phased
  split <;> rfl

/-- What holds after one try. -/
def Try.Yields (waiting : State σ → ω → Prop) (won : Connection → ω → Prop) (idle : ω → Prop) :
    Try σ × ω → Prop
  | (.waiting state, w) => waiting state w
  | (.connected connection, w) => won connection w
  | (.failed _, w) => idle w

section

variable {setting : Setting σ ω} {busy : Nat → σ → ω → Prop} {idle : ω → Prop}
  {won : Connection → ω → Prop}

/-- Every poll of the child that is tried keeps `busy`, its success yields `won`, and
when it fails or is given up, `idle` holds. -/
def Looks (setting : Setting σ ω) (busy : Nat → σ → ω → Prop) (idle : ω → Prop)
    (won : Connection → ω → Prop) : Prop :=
  ∀ i s w, busy i s w →
    Poll.Yields (fun s w => busy i s w ∧ idle (setting.abandon s w)) won (fun _ w => idle w)
      (setting.child i s w)

theorem tryOnce_rule (look : Looks setting busy idle won) (state : State σ)
    (deadline : Option Timer) {s : σ} {w : ω} (h : busy state.index s w) :
    Try.Yields (Phased busy idle) won idle (tryOnce setting state deadline s w) := by
  have hl := look state.index s w h
  rw [tryOnce]
  generalize setting.child state.index s w = polled at hl ⊢
  obtain ⟨answer, w⟩ := polled
  cases answer with
  | pending s =>
    obtain ⟨hb, hi⟩ := hl
    cases deadline with
    | none => exact hb
    | some timer =>
      dsimp only
      split
      · exact hi
      · exact hb
  | ready result =>
    cases result with
    | ok connection => exact hl
    | error e =>
      cases deadline with
      | none => exact hl
      | some timer =>
        dsimp only
        split
        · exact hl
        · exact hl

theorem run_rule (look : Looks setting busy idle won)
    (start : ∀ i w, idle w → busy i setting.start w) :
    ∀ (fuel : Nat) (state : State σ) (w : ω), Phased busy idle state w →
    Poll.Yields (Phased busy idle) won (fun _ w => idle w) (run setting fuel state w)
  | 0, _, _, h => h
  | fuel + 1, state, w, h => by
    -- after a failed try the sequence goes on to the next child, pauses, or is lost
    have hgo : ∀ (state : State σ) (w : ω), idle w →
        Poll.Yields (Phased busy idle) won (fun _ w => idle w) (goOn setting fuel state w) := by
      intro state w hi
      rw [goOn]
      cases hn : next setting state with
      | proceed state' =>
        refine run_rule look start fuel state' w ?_
        unfold next at hn
        split at hn
        · obtain rfl := Next.proceed.inj hn
          exact start _ w hi
        · split at hn <;> cases hn
      | pause state' =>
        unfold next at hn
        split at hn
        · cases hn
        · split at hn
          · obtain rfl := Next.pause.inj hn
            exact hi
          · cases hn
      | lost failures => exact hi
    rw [run_succ]
    cases hphase : state.phase with
    | trying deadline s =>
      rw [Phased, hphase] at h
      have ht := tryOnce_rule look state deadline h
      dsimp only
      generalize tryOnce setting state deadline s w = tried at ht ⊢
      obtain ⟨result, w⟩ := tried
      cases result with
      | waiting state => exact ht
      | connected connection => exact ht
      | failed state => exact hgo state w ht
    | waitingOut timer =>
      have hi : idle w := by rwa [Phased, hphase] at h
      dsimp only
      split
      · exact hgo state w hi
      · exact h
    | rewound =>
      rw [Phased, hphase] at h
      exact run_rule look start fuel _ w (start _ w h)

/-- The rule of a sequence: what every try keeps, the sequence keeps. -/
theorem poll_rule (look : Looks setting busy idle won)
    (start : ∀ i w, idle w → busy i setting.start w) (state : State σ) {w : ω}
    (h : Phased busy idle state w) :
    Poll.Yields (Phased busy idle) won (fun _ w => idle w) (poll setting state w) :=
  run_rule look start _ state w h

theorem first_rule (look : Looks setting busy idle won)
    (start : ∀ i w, idle w → busy i setting.start w) {w : ω} (h : idle w) :
    Poll.Yields (Phased busy idle) won (fun _ w => idle w) (first setting w) := by
  rw [first]
  split
  · exact h
  · exact poll_rule look start _ (start _ w h)

variable {P : ω → Prop} (look : Looks setting (fun _ _ => P) P fun _ => P) {w : ω}

include look

/-- What every try keeps of the world, the sequence keeps. -/
theorem run_keeps (fuel : Nat) (state : State σ) (h : P w) : P (run setting fuel state w).2 :=
  Poll.yields_world.mp <| (run_rule look (fun _ _ h => h) fuel state w (phased_world.mpr h)).mono
    fun _ _ => phased_world.mp

theorem poll_keeps (state : State σ) (h : P w) : P (poll setting state w).2 :=
  run_keeps look _ state h

theorem first_keeps (h : P w) : P (first setting w).2 :=
  Poll.yields_world.mp <| (first_rule look (fun _ _ h => h) h).mono fun _ _ => phased_world.mp

end

end Sequence

end Dialplan
