import Mathlib.Data.List.Forall2
import Dialplan.Proofs.Polling.Rules

/-! Polling in step. Two things are polled side by side, each in a world of its own, and come to
the same answer up to relations between what they hold, what they win and what they fail with. A
race and a sequence have a rule each: when their children are polled in step, so are they
(`Race.poll_inStep`, `Sequence.poll_inStep`). -/

namespace Dialplan

open List (Forall₂)

/-- Lists that are related member by member, seen through their places. -/
theorem forall₂_iff_getElem? {α β : Type} {R : α → β → Prop} {l : List α} {l' : List β} :
    Forall₂ R l l' ↔ ∀ i : Nat, Option.Rel R l[i]? l'[i]? := by
  constructor
  · intro h
    induction h with
    | nil => exact fun _ => .none
    | cons hr _ ih =>
      rintro (_ | i)
      · exact .some hr
      · exact ih i
  · intro h
    induction l generalizing l' with
    | nil =>
      cases l' with
      | nil => exact .nil
      | cons b rest => nomatch h 0
    | cons a l ih =>
      cases l' with
      | nil => nomatch h 0
      | cons b l' =>
        obtain hr | _ := h 0
        exact .cons ‹_› (ih fun i => h (i + 1))

section

variable {α β : Type} {R : α → β → Prop} {l : List α} {l' : List β}

theorem forall₂_set (h : Forall₂ R l l') {a : α} {b : β} (hab : R a b) (i : Nat) :
    Forall₂ R (l.set i a) (l'.set i b) := by
  induction h generalizing i with
  | nil => exact .nil
  | cons hr h ih =>
    cases i with
    | zero => exact .cons hab h
    | succ i => exact .cons hr (ih i)

theorem forall₂_eraseIdx (h : Forall₂ R l l') (i : Nat) :
    Forall₂ R (l.eraseIdx i) (l'.eraseIdx i) := by
  induction h generalizing i with
  | nil => exact .nil
  | cons hr h ih =>
    cases i with
    | zero => exact h
    | succ i => exact .cons hr (ih i)

end

theorem eq_of_forall₂ {α : Type} {R : α → α → Prop} (hR : ∀ a b, R a b → a = b) {l l' : List α}
    (h : Forall₂ R l l') : l = l' :=
  (congrFun₂ List.forall₂_eq_eq_eq l l').mp (h.imp hR)

variable {σ τ ω ω' : Type}

/-- Two polls have come to the same: both wait, both have connected, or both have failed. -/
inductive Poll.InStep (alike : σ → τ → Prop) (won : Connection → Connection → Prop)
    (lost : Error → Error → Prop) (worlds : ω → ω' → Prop) :
    Poll σ × ω → Poll τ × ω' → Prop where
  | pending {s t w w'} : alike s t → worlds w w' →
      InStep alike won lost worlds (.pending s, w) (.pending t, w')
  | connected {connection connection' w w'} : won connection connection' → worlds w w' →
      InStep alike won lost worlds (.ready (.ok connection), w) (.ready (.ok connection'), w')
  | failed {e e' w w'} : lost e e' → worlds w w' →
      InStep alike won lost worlds (.ready (.error e), w) (.ready (.error e'), w')

section

variable {alike : σ → τ → Prop} {won : Connection → Connection → Prop}
  {lost : Error → Error → Prop} {worlds : ω → ω' → Prop} {polled : Poll σ × ω}
  {polled' : Poll τ × ω'}

theorem Poll.InStep.mono {alike' : σ → τ → Prop}
    (h : Poll.InStep alike won lost worlds polled polled') (hp : ∀ s t, alike s t → alike' s t) :
    Poll.InStep alike' won lost worlds polled polled' := by
  cases h with
  | pending ha hw => exact .pending (hp _ _ ha) hw
  | connected hc hw => exact .connected hc hw
  | failed he hw => exact .failed he hw

theorem Poll.InStep.map {σ' τ' : Type} {alike' : σ' → τ' → Prop} {f : σ → σ'} {g : τ → τ'}
    (h : Poll.InStep (fun s t => alike' (f s) (g t)) won lost worlds polled polled') :
    Poll.InStep alike' won lost worlds (polled.1.map f, polled.2) (polled'.1.map g, polled'.2) := by
  cases h with
  | pending ha hw => exact .pending ha hw
  | connected hc hw => exact .connected hc hw
  | failed he hw => exact .failed he hw

end

/-! ### Races -/

namespace Race

inductive Slot.Alike (alike : σ → τ → Prop) : Slot σ → Slot τ → Prop where
  | held : Alike alike .held .held
  | running {s t} : alike s t → Alike alike (.running s) (.running t)
  | failed : Alike alike .failed .failed

/-- The children of two races stand alike, each in its own way. -/
def SlotsAlike (alike : Nat → σ → τ → Prop) (slots : List (Slot σ)) (slots' : List (Slot τ)) :
    Prop :=
  ∀ i, Option.Rel (Slot.Alike (alike i)) slots[i]? slots'[i]?

structure State.Alike (alike : Nat → σ → τ → Prop) (lost : Error → Error → Prop)
    (state : State σ) (state' : State τ) : Prop where
  holding : state'.holding = state.holding
  order : state'.order = state.order
  slots : SlotsAlike alike state.slots state'.slots
  failures : Forall₂ lost state.failures state'.failures

/-- Two passes have come to the same. -/
inductive Pass.InStep (alike : State σ → State τ → Prop) (won : Connection → Connection → Prop)
    (worlds : ω → ω' → Prop) : Pass σ × ω → Pass τ × ω' → Prop where
  | won {i connection connection' state state' w w'} : won connection connection' →
      alike state state' → worlds w w' →
      InStep alike won worlds (.won i connection state, w) (.won i connection' state', w')
  | finished {state state' progressed w w'} : alike state state' → worlds w w' →
      InStep alike won worlds (.finished state progressed, w) (.finished state' progressed, w')

/-- Two polls of races have come to the same. -/
inductive Outcome.InStep (alike : State σ → State τ → Prop)
    (won : Connection → Connection → Prop) (lost : List Error → List Error → Prop)
    (worlds : ω → ω' → Prop) : Outcome σ × ω → Outcome τ × ω' → Prop where
  | pending {state state' w w'} : alike state state' → worlds w w' →
      InStep alike won lost worlds (.pending state, w) (.pending state', w')
  | won {i connection connection' state state' w w'} : won connection connection' →
      alike state state' → worlds w w' →
      InStep alike won lost worlds (.won i connection state, w) (.won i connection' state', w')
  | lost {failures failures' w w'} : lost failures failures' → worlds w w' →
      InStep alike won lost worlds (.lost failures, w) (.lost failures', w')

section

variable {alike : Nat → σ → τ → Prop} {slots : List (Slot σ)} {slots' : List (Slot τ)}

theorem SlotsAlike.map_eq {β : Type} (h : SlotsAlike alike slots slots') {f : Slot σ → β}
    {g : Slot τ → β} (hfg : ∀ i slot slot', Slot.Alike (alike i) slot slot' → g slot' = f slot) :
    slots'.map g = slots.map f := by
  refine List.ext_getElem? fun i => ?_
  have hi := h i
  rw [List.getElem?_map, List.getElem?_map]
  generalize slots[i]? = slot, slots'[i]? = slot' at hi
  cases hi with
  | none => rfl
  | some hs => exact congrArg some (hfg i _ _ hs)

theorem SlotsAlike.length_eq (h : SlotsAlike alike slots slots') :
    slots'.length = slots.length := by
  simpa using congrArg List.length
    (h.map_eq (f := fun _ => ()) (g := fun _ => ()) fun _ _ _ _ => rfl)

theorem SlotsAlike.any_isRunning (h : SlotsAlike alike slots slots') :
    slots'.any Slot.isRunning = slots.any Slot.isRunning := by
  have hmap : slots'.map Slot.isRunning = slots.map Slot.isRunning :=
    h.map_eq fun _ _ _ hs => by cases hs <;> rfl
  simpa [List.any_map] using congrArg (List.any · id) hmap

theorem SlotsAlike.all_isFailed (h : SlotsAlike alike slots slots') :
    slots'.all Slot.isFailed = slots.all Slot.isFailed := by
  have hmap : slots'.map Slot.isFailed = slots.map Slot.isFailed :=
    h.map_eq fun _ _ _ hs => by cases hs <;> rfl
  simpa [List.all_map] using congrArg (List.all · id) hmap

theorem SlotsAlike.set (h : SlotsAlike alike slots slots') {i : Nat} {slot : Slot σ}
    {slot' : Slot τ} (hs : Slot.Alike (alike i) slot slot') :
    SlotsAlike alike (slots.set i slot) (slots'.set i slot') := by
  intro j
  rw [List.getElem?_set, List.getElem?_set, h.length_eq]
  split
  · rename_i hij
    subst hij
    split
    · exact .some hs
    · exact .none
  · exact h j

theorem SlotsAlike.release (h : SlotsAlike alike slots slots') {start : σ} {start' : τ}
    (hs : ∀ i, alike i start start') :
    SlotsAlike alike (slots.map (Slot.release start)) (slots'.map (Slot.release start')) := by
  intro i
  have hi := h i
  rw [List.getElem?_map, List.getElem?_map]
  generalize slots[i]? = slot, slots'[i]? = slot' at hi
  cases hi with
  | none => exact .none
  | some hslot =>
    cases hslot with
    | held => exact .some (.running (hs i))
    | running ha => exact .some (.running ha)
    | failed => exact .some .failed

end

section

variable {alike : Nat → σ → τ → Prop} {won : Connection → Connection → Prop}
  {lost : Error → Error → Prop} {worlds : ω → ω' → Prop}
  {child : Nat → σ → ω → Poll σ × ω} {child' : Nat → τ → ω' → Poll τ × ω'}
  {start : σ} {start' : τ}

/-- The children of two races are polled in step. -/
def InStep (alike : Nat → σ → τ → Prop) (won : Connection → Connection → Prop)
    (lost : Error → Error → Prop) (worlds : ω → ω' → Prop)
    (child : Nat → σ → ω → Poll σ × ω) (child' : Nat → τ → ω' → Poll τ × ω') : Prop :=
  ∀ i s t w w', alike i s t → worlds w w' →
    Poll.InStep (alike i) won lost worlds (child i s w) (child' i t w')

theorem State.Alike.release {state : State σ} {state' : State τ}
    (h : State.Alike alike lost state state') (hs : ∀ i, alike i start start') :
    State.Alike alike lost (state.release start) (state'.release start') :=
  ⟨rfl, h.order, h.slots.release hs, h.failures⟩

theorem State.Alike.releases {state : State σ} {state' : State τ}
    (h : State.Alike alike lost state state') (elapsed : Bool) :
    state'.releases elapsed = state.releases elapsed := by
  unfold State.releases
  rw [h.holding, h.slots.any_isRunning]

theorem pass_inStep (look : InStep alike won lost worlds child child') :
    ∀ (rest : List Nat) {state : State σ} {state' : State τ} (progressed : Bool) {w : ω} {w' : ω'},
    State.Alike alike lost state state' → worlds w w' →
    Pass.InStep (State.Alike alike lost) won worlds (pass child rest state progressed w)
      (pass child' rest state' progressed w')
  | [], _, _, _, _, _, h, hw => .finished h hw
  | i :: rest, state, state', progressed, w, w', h, hw => by
    have hi := h.slots i
    rw [pass, pass]
    generalize hslot : state.slots[i]? = slot, state'.slots[i]? = slot' at hi
    cases hi with
    | none => exact pass_inStep look rest progressed h hw
    | some hs =>
      cases hs with
      | held => exact pass_inStep look rest progressed h hw
      | failed => exact pass_inStep look rest progressed h hw
      | @running s t ha =>
        have hl := look i s t w w' ha hw
        dsimp only
        generalize child i s w = polled, child' i t w' = polled' at hl ⊢
        cases hl with
        | pending ha hw =>
          exact pass_inStep look rest progressed
            ⟨h.holding, h.order, h.slots.set (.running ha), h.failures⟩ hw
        | connected hc hw =>
          exact .won hc ⟨h.holding, h.order, h.slots.set .failed, h.failures⟩ hw
        | failed he hw =>
          exact pass_inStep look rest true
            ⟨h.holding, h.order, h.slots.set .failed,
              List.rel_append h.failures (.cons he .nil)⟩ hw

theorem passes_inStep (look : InStep alike won lost worlds child child')
    (hs : ∀ i, alike i start start') (elapsed : Bool) :
    ∀ (fuel : Nat) {state : State σ} {state' : State τ} {w : ω} {w' : ω'},
    State.Alike alike lost state state' → worlds w w' →
    Outcome.InStep (State.Alike alike lost) won (Forall₂ lost) worlds
      (passes child start elapsed fuel state w) (passes child' start' elapsed fuel state' w')
  | 0, _, _, _, _, h, hw => .pending h hw
  | fuel + 1, state, state', w, w', h, hw => by
    rw [passes, passes]
    have h : State.Alike alike lost
        (if state.releases elapsed then state.release start else state)
        (if state'.releases elapsed then state'.release start' else state') := by
      rw [h.releases elapsed]
      split
      · exact h.release hs
      · exact h
    generalize (if state.releases elapsed then state.release start else state) = state,
      (if state'.releases elapsed then state'.release start' else state') = state' at h
    have hp := pass_inStep look state.order false h hw
    rw [h.order]
    generalize pass child state.order state false w = passed,
      pass child' state.order state' false w' = passed' at hp
    cases hp with
    | won hc h hw => exact .won hc h hw
    | finished h hw =>
      dsimp only
      rw [h.holding, h.slots.all_isFailed]
      split
      · exact .lost h.failures hw
      · split
        · exact passes_inStep look hs elapsed fuel h hw
        · exact .pending h hw

/-- The rule of two races: children that are polled in step make races that are. -/
theorem poll_inStep (look : InStep alike won lost worlds child child')
    (hs : ∀ i, alike i start start') (elapsed : Bool) {state : State σ} {state' : State τ} {w : ω}
    {w' : ω'} (h : State.Alike alike lost state state') (hw : worlds w w') :
    Outcome.InStep (State.Alike alike lost) won (Forall₂ lost) worlds
      (poll child start elapsed state w) (poll child' start' elapsed state' w') := by
  rw [poll, poll, h.slots.length_eq]
  exact passes_inStep look hs elapsed _ h hw

/-- Races whose children start together stand alike. -/
theorem State.Alike.together (hs : ∀ i, alike i start start') (count : Nat) :
    State.Alike alike lost (.together count start) (.together count start') := by
  refine ⟨rfl, rfl, fun i => ?_, .nil⟩
  rw [State.together, State.together, List.getElem?_replicate, List.getElem?_replicate]
  split
  · exact .some (.running (hs i))
  · exact .none

/-- So do races whose children start behind the same lead. -/
theorem State.Alike.behind (hs : ∀ i, alike i start start') (count lead : Nat) :
    State.Alike alike lost (.behind count lead start) (.behind count lead start') := by
  have hheld : SlotsAlike alike (List.replicate count (.held : Slot σ))
      (List.replicate count (.held : Slot τ)) := by
    intro i
    rw [List.getElem?_replicate, List.getElem?_replicate]
    split
    · exact .some .held
    · exact .none
  exact ⟨rfl, rfl, hheld.set (.running (hs lead)), .nil⟩

end

end Race

/-! ### Sequences -/

namespace Sequence

inductive Phase.Alike (alike : σ → τ → Prop) : Phase σ → Phase τ → Prop where
  | trying {deadline s t} : alike s t → Alike alike (.trying deadline s) (.trying deadline t)
  | waitingOut {timer} : Alike alike (.waitingOut timer) (.waitingOut timer)
  | rewound : Alike alike .rewound .rewound

structure State.Alike (alike : Nat → σ → τ → Prop) (lost : Error → Error → Prop)
    (state : State σ) (state' : State τ) : Prop where
  index : state'.index = state.index
  bound : state'.bound = state.bound
  failures : Forall₂ lost state.failures state'.failures
  phase : Phase.Alike (alike state.index) state.phase state'.phase

/-- Two sequences have the same course at the same moment, and their children are polled in step.
The kinds of the children agree where one can run out of time. -/
structure Setting.Alike (alike : Nat → σ → τ → Prop) (won : Connection → Connection → Prop)
    (lost : Error → Error → Prop) (worlds : ω → ω' → Prop) (setting : Setting σ ω)
    (setting' : Setting τ ω') : Prop where
  options : setting'.options = setting.options
  count : setting'.count = setting.count
  now : setting'.now = setting.now
  turn : setting'.turn = setting.turn
  start : ∀ i, alike i setting.start setting'.start
  child : ∀ i s t w w', alike i s t → worlds w w' →
    Poll.InStep (fun s t => alike i s t ∧ setting'.kind i = setting.kind i) won lost worlds
      (setting.child i s w) (setting'.child i t w')
  abandon : ∀ i s t w w', alike i s t → worlds w w' →
    worlds (setting.abandon s w) (setting'.abandon t w')
  same : ∀ e, lost e e
  all : ∀ failures failures', Forall₂ lost failures failures' →
    lost (.allFailed failures) (.allFailed failures')

/-- Two tries have come to the same. -/
inductive Try.InStep (alike : State σ → State τ → Prop) (won : Connection → Connection → Prop)
    (worlds : ω → ω' → Prop) : Try σ × ω → Try τ × ω' → Prop where
  | waiting {state state' w w'} : alike state state' → worlds w w' →
      InStep alike won worlds (.waiting state, w) (.waiting state', w')
  | connected {connection connection' w w'} : won connection connection' → worlds w w' →
      InStep alike won worlds (.connected connection, w) (.connected connection', w')
  | failed {state state' w w'} : alike state state' → worlds w w' →
      InStep alike won worlds (.failed state, w) (.failed state', w')

section

variable {alike : Nat → σ → τ → Prop} {won : Connection → Connection → Prop}
  {lost : Error → Error → Prop} {worlds : ω → ω' → Prop} {setting : Setting σ ω}
  {setting' : Setting τ ω'} {state : State σ} {state' : State τ} {w : ω} {w' : ω'}

theorem Setting.Alike.begin (h : Setting.Alike alike won lost worlds setting setting')
    (index : Nat) (bound : Option Duration) {failures failures' : List Error}
    (hf : Forall₂ lost failures failures') :
    State.Alike alike lost (begin setting index bound failures)
      (begin setting' index bound failures') := by
  refine ⟨rfl, rfl, hf, ?_⟩
  rw [Sequence.begin, Sequence.begin, h.now, h.turn]
  exact .trying (h.start index)

theorem tryOnce_inStep (h : Setting.Alike alike won lost worlds setting setting')
    (hstate : State.Alike alike lost state state') {deadline : Option Timer} {s : σ} {t : τ}
    (hphase : state.phase = .trying deadline s) (hphase' : state'.phase = .trying deadline t)
    (ha : alike state.index s t) (hw : worlds w w') :
    Try.InStep (State.Alike alike lost) won worlds (tryOnce setting state deadline s w)
      (tryOnce setting' state' deadline t w') := by
  have hl := h.child state.index s t w w' ha hw
  have hphases := hstate.phase
  rw [tryOnce, tryOnce, hstate.index, h.options, h.now, h.turn]
  generalize setting.child state.index s w = polled,
    setting'.child state.index t w' = polled' at hl ⊢
  cases hl with
  | connected hc hw => exact .connected hc hw
  | failed he hw =>
    have hfailures := List.rel_append hstate.failures (.cons he .nil)
    cases deadline with
    | none => exact .failed ⟨rfl, hstate.bound, hfailures, hphases⟩ hw
    | some timer =>
      dsimp only
      split
      · exact .failed ⟨rfl, hstate.bound, hfailures, hphases⟩ hw
      · exact .waiting ⟨rfl, hstate.bound, hfailures, .waitingOut⟩ hw
  | pending hp hw =>
    obtain ⟨ha, hkind⟩ := hp
    cases deadline with
    | none => exact .waiting ⟨rfl, hstate.bound, hstate.failures, .trying ha⟩ hw
    | some timer =>
      dsimp only
      split
      · have htime : outOfTime setting' state' = outOfTime setting state := by
          rw [outOfTime, outOfTime, hstate.index, hstate.bound, hkind]
        refine .failed ⟨rfl, hstate.bound, ?_, hphases⟩ (h.abandon _ _ _ _ _ ha hw)
        exact List.rel_append hstate.failures (.cons (htime ▸ h.same _) .nil)
      · exact .waiting ⟨rfl, hstate.bound, hstate.failures, .trying ha⟩ hw

theorem run_inStep (h : Setting.Alike alike won lost worlds setting setting') :
    ∀ (fuel : Nat) {state : State σ} {state' : State τ} {w : ω} {w' : ω'},
    State.Alike alike lost state state' → worlds w w' →
    Poll.InStep (State.Alike alike lost) won lost worlds (run setting fuel state w)
      (run setting' fuel state' w')
  | 0, _, _, _, _, hs, hw => .pending hs hw
  | fuel + 1, state, state', w, w', hs, hw => by
    have hgo : ∀ {state : State σ} {state' : State τ} {w : ω} {w' : ω'},
        State.Alike alike lost state state' → worlds w w' →
        Poll.InStep (State.Alike alike lost) won lost worlds (goOn setting fuel state w)
          (goOn setting' fuel state' w') := by
      intro state state' w w' hs hw
      rw [goOn, goOn, next, next, hs.index, hs.bound, h.options, h.count]
      by_cases hmore : state.index + 1 < setting.count
      · rw [if_pos hmore, if_pos hmore]
        exact run_inStep h fuel (h.begin _ _ hs.failures) hw
      · rw [if_neg hmore, if_neg hmore]
        by_cases hloop : setting.options.looping = true
        · rw [if_pos hloop, if_pos hloop]
          exact .pending ⟨rfl, rfl, .nil, .rewound⟩ hw
        · rw [if_neg hloop, if_neg hloop]
          exact .failed (h.all _ _ hs.failures) hw
    rw [run_succ, run_succ]
    have hphase := hs.phase
    generalize hp : state.phase = phase, hp' : state'.phase = phase' at hphase ⊢
    cases hphase with
    | trying ha =>
      have ht := tryOnce_inStep h hs hp hp' ha hw
      dsimp only
      generalize tryOnce setting state _ _ w = tried, tryOnce setting' state' _ _ w' = tried' at ht ⊢
      cases ht with
      | waiting hs hw => exact .pending hs hw
      | connected hc hw => exact .connected hc hw
      | failed hs hw => exact hgo hs hw
    | waitingOut =>
      dsimp only
      rw [h.now]
      split
      · exact hgo hs hw
      · exact .pending hs hw
    | rewound =>
      dsimp only
      rw [hs.bound]
      exact run_inStep h fuel (h.begin 0 _ hs.failures) hw

/-- The rule of two sequences: children that are polled in step make sequences that are. -/
theorem poll_inStep (h : Setting.Alike alike won lost worlds setting setting')
    (hs : State.Alike alike lost state state') (hw : worlds w w') :
    Poll.InStep (State.Alike alike lost) won lost worlds (poll setting state w)
      (poll setting' state' w') := by
  rw [poll, poll, h.count]
  exact run_inStep h _ hs hw

theorem first_inStep (h : Setting.Alike alike won lost worlds setting setting')
    (hw : worlds w w') :
    Poll.InStep (State.Alike alike lost) won lost worlds (first setting w) (first setting' w') := by
  rw [first, first, h.count, h.options]
  split
  · exact .failed (h.all _ _ .nil) hw
  · exact poll_inStep h (h.begin 0 _ .nil) hw

end

end Sequence

end Dialplan
