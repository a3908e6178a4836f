import Dialplan.Proofs.Polling.Rules
import Dialplan.Proofs.Sequence.Tries

/-! Watched sequences. The state of a sequence is in step with the sights of its children
(`Tracks`): it knows the number of the try, its bound, and the failures of the round. Every poll
keeps that, and ends with a true account (`poll_watched`). -/

namespace Dialplan.Sequence

variable {σ ω : Type}

/-- What the state knows of the tries, before a try that follows tries with these failures: the
number of the child, the bound, and the failures of this round. -/
structure Prepared (options : SequentialOptions) (count index : Nat) (bound : Option Duration)
    (booked failures : List Error) : Prop where
  lt : index < count
  length : booked.length = index
  rounds : ∃ earlier rounds, failures = earlier ++ booked ∧ earlier.length = rounds * count
  once : options.looping = false → booked = failures
  bound : bound = options.boundOf failures.length

namespace Prepared

variable {options : SequentialOptions} {count index : Nat} {bound : Option Duration}
  {booked failures : List Error}

theorem start (h : 0 < count) : Prepared options count 0 options.firstBound [] [] :=
  ⟨h, rfl, ⟨[], 0, rfl, (Nat.zero_mul count).symm⟩, fun _ => rfl, rfl⟩

/-- The number of the child tells in which place of its round the try is. -/
theorem mod_eq (h : Prepared options count index bound booked failures) :
    failures.length % count = index := by
  obtain ⟨earlier, rounds, rfl, hearlier⟩ := h.rounds
  rw [List.length_append, h.length, hearlier, Nat.mul_comm, Nat.mul_add_mod,
    Nat.mod_eq_of_lt h.lt]

theorem hasTry (h : Prepared options count index bound booked failures) :
    HasTry options count failures := by
  cases hl : options.looping with
  | true => exact .inl hl
  | false => exact .inr (by rw [← h.once hl, h.length]; exact h.lt)

/-- The next try is at the next child, if there is one. -/
theorem next (h : Prepared options count index bound booked failures)
    (hlt : index + 1 < count) (e : Error) :
    Prepared options count (index + 1) (options.nextBound bound) (booked ++ [e])
      (failures ++ [e]) := by
  obtain ⟨earlier, rounds, hsplit, hearlier⟩ := h.rounds
  refine ⟨hlt, by simp [h.length], ⟨earlier, rounds, ?_, hearlier⟩, fun hl => ?_, ?_⟩
  · rw [hsplit, List.append_assoc]
  · rw [h.once hl]
  · rw [List.length_append, h.bound]
    rfl

/-- After the last child a sequence that starts over goes back to the first. -/
theorem rewind (h : Prepared options count index bound booked failures)
    (hlast : ¬ index + 1 < count) (hl : options.looping = true) (e : Error) :
    Prepared options count 0 (options.nextBound bound) [] (failures ++ [e]) := by
  have hlt := h.lt
  have hlength := h.length
  obtain ⟨earlier, rounds, hsplit, hearlier⟩ := h.rounds
  refine ⟨by omega, rfl, ⟨failures ++ [e], rounds + 1, by simp, ?_⟩, fun hn => ?_, ?_⟩
  · rw [hsplit, List.length_append, List.length_append, hearlier, Nat.succ_mul,
      List.length_singleton]
    omega
  · rw [hl] at hn
    cases hn
  · rw [List.length_append, h.bound]
    rfl

/-- After the last child of a sequence that does not start over, every child has been tried. -/
theorem last (h : Prepared options count index bound booked failures)
    (hlast : ¬ index + 1 < count) (hl : options.looping = false) (e : Error) :
    booked ++ [e] = failures ++ [e] ∧ (failures ++ [e]).length = count := by
  have hlt := h.lt
  have hlength := h.length
  have honce := h.once hl
  subst honce
  exact ⟨rfl, by simp; omega⟩

end Prepared

section

variable (options : SequentialOptions) (count : Nat) (kind : Nat → String) (start : σ)

/-- The state of a sequence is in step with the sights of its children. A try that is just
beginning begins now. -/
inductive Tracks (now : Instant) : State σ → List (Sight σ) → Prop where
  | trying {failures log index bound booked began sights deadline s} :
      InVain options count kind start failures log →
      Prepared options count index bound booked failures →
      Tried start index began bound sights (.running s) → (sights = [] → now = began) →
      deadline.map Timer.deadline = bound.map (began + ·) →
      Tracks now ⟨index, bound, booked, .trying deadline s⟩ (log ++ sights)
  | waitingOut {failures log index bound booked began sights e b timer} :
      InVain options count kind start failures log →
      Prepared options count index bound booked failures →
      Tried start index began bound sights (.failed e) → options.failFast = false →
      bound = some b → timer.deadline = began + b →
      Tracks now ⟨index, bound, booked ++ [e], .waitingOut timer⟩ (log ++ sights)
  | rewound {failures log bound} :
      InVain options count kind start failures log →
      Prepared options count 0 bound [] failures → options.looping = true → failures ≠ [] →
      Tracks now ⟨0, bound, [], .rewound⟩ log

/-- What a poll has come to is accounted for, and what is in progress can be taken up later. -/
structure Accounted (now : Instant) (answer : Poll (State σ)) (log : List (Sight σ)) : Prop where
  account : Account options count kind start now answer log
  tracks : ∀ state, answer = .pending state → ∀ later, Tracks options count kind start later
    state log

end

section

variable {options : SequentialOptions} {count : Nat} {kind : Nat → String} {start : σ}

/-- A try that the state is prepared for is the last one. -/
theorem Prepared.lastTry {failures booked : List Error} {log sights : List (Sight σ)} {index : Nat}
    {began : Instant} {bound : Option Duration} {ending : Ending σ}
    (hp : Prepared options count index bound booked failures)
    (hv : InVain options count kind start failures log)
    (ht : Tried start index began bound sights ending) :
    LastTry options count kind start failures log began sights ending := by
  refine ⟨hv, hp.hasTry, ?_⟩
  rw [hp.mod_eq, ← hp.bound]
  exact ht

/-- When it fails, it came to nothing as well. -/
theorem Prepared.inVain {failures booked : List Error} {log sights : List (Sight σ)} {index : Nat}
    {began : Instant} {bound : Option Duration} {ending : Ending σ} {e : Error}
    (hp : Prepared options count index bound booked failures)
    (hv : InVain options count kind start failures log)
    (ht : Tried start index began bound sights ending) (hf : Failure (kind index) bound ending e) :
    InVain options count kind start (failures ++ [e]) (log ++ sights) := by
  refine hv.snoc (hp.lastTry hv ht).tried ?_
  rw [hp.mod_eq, ← hp.bound]
  exact hf

/-- The time of a try is over exactly when its timer is due. -/
theorem isOver_iff {deadline : Option Timer} {bound : Option Duration} {began now : Instant}
    (h : deadline.map Timer.deadline = bound.map (began + ·)) :
    (∃ b ∈ bound, began + b ≤ now) ↔ ∃ timer ∈ deadline, timer.isDue now = true := by
  cases deadline <;> cases bound <;> simp_all [Timer.isDue]

namespace Accounted

variable {now began : Instant} {failures booked : List Error} {log sights : List (Sight σ)}
  {index : Nat} {bound : Option Duration}

theorem connected {connection : Connection} (hv : InVain options count kind start failures log)
    (hp : Prepared options count index bound booked failures)
    (ht : Tried start index began bound sights (.connected connection)) :
    Accounted options count kind start now (.ready (.ok connection)) (log ++ sights) :=
  ⟨.connected (hp.lastTry hv ht), nofun⟩

theorem trying {deadline : Option Timer} {s s' : σ}
    (hv : InVain options count kind start failures log)
    (hp : Prepared options count index bound booked failures)
    (ht : Tried start index began bound (sights ++ [.polled index now s (.pending s')])
      (.running s'))
    (hd : deadline.map Timer.deadline = bound.map (began + ·)) :
    Accounted options count kind start now
      (.pending ⟨index, bound, booked, .trying deadline s'⟩)
      (log ++ (sights ++ [.polled index now s (.pending s')])) := by
  have hlast := hp.lastTry hv ht
  refine ⟨?_, ?_⟩
  · rw [← hp.mod_eq] at hlast ⊢
    exact .trying hlast
  · rintro _ ⟨⟩ later
    exact .trying hv hp ht (fun h => by simp at h) hd

theorem waitingOut {e : Error} {b : Duration} {timer : Timer}
    (hv : InVain options count kind start failures log)
    (hp : Prepared options count index bound booked failures)
    (ht : Tried start index began bound sights (.failed e)) (hfast : options.failFast = false)
    (hb : bound = some b) (hnow : now < began + b) (htimer : timer.deadline = began + b) :
    Accounted options count kind start now
      (.pending ⟨index, bound, booked ++ [e], .waitingOut timer⟩) (log ++ sights) := by
  refine ⟨.waitingOut (hp.lastTry hv ht) hfast (hp.bound.symm.trans hb) hnow, ?_⟩
  rintro _ ⟨⟩ later
  exact .waitingOut hv hp ht hfast hb htimer

theorem rewound {bound : Option Duration}
    (hv : InVain options count kind start failures log)
    (hp : Prepared options count 0 bound [] failures) (hl : options.looping = true)
    (hne : failures ≠ []) :
    Accounted options count kind start now (.pending ⟨0, bound, [], .rewound⟩) log := by
  refine ⟨.rewound hv hl hne hp.mod_eq, ?_⟩
  rintro _ ⟨⟩ later
  exact .rewound hv hp hl hne

theorem exhausted (hv : InVain options count kind start failures log)
    (hl : options.looping = false) (hlength : failures.length = count) :
    Accounted options count kind start now (.ready (.error (.allFailed failures))) log :=
  ⟨.exhausted hv hl hlength, nofun⟩

end Accounted

end

section

variable {setting : Setting σ ω}

/-- How many steps a poll can take at most. -/
def stepsLeft (count : Nat) (state : State σ) : Nat :=
  match state.phase with
  | .rewound => count + 1
  | _ => count - state.index

/-- A setting says what its sequence is and when it is polled. -/
abbrev Setting.Prepared (setting : Setting σ ω) :=
  Sequence.Prepared setting.options setting.count

abbrev Setting.InVain (setting : Setting σ ω) :=
  Sequence.InVain setting.options setting.count setting.kind setting.start

abbrev Setting.Tracks (setting : Setting σ ω) :=
  Sequence.Tracks setting.options setting.count setting.kind setting.start setting.now

abbrev Setting.Accounted (setting : Setting σ ω) :=
  Sequence.Accounted setting.options setting.count setting.kind setting.start setting.now

theorem stepsLeft_le (count : Nat) (state : State σ) : stepsLeft count state ≤ count + 2 := by
  unfold stepsLeft
  split
  · exact Nat.le_succ _
  · exact Nat.le_trans (Nat.sub_le _ _) (Nat.le_add_right _ _)

/-- What a poll of a watched sequence leads to is accounted for. -/
def Setting.Concludes (setting : Setting σ ω) (result : Poll (State σ) × (ω × List (Sight σ))) :
    Prop :=
  setting.Accounted result.1 result.2.2

/-- What a poll of the child of a try leads to: the sequence waits or has connected, and that
is accounted for, or the try has failed, and its failure is booked. -/
def Setting.Tries (setting : Setting σ ω) (index : Nat) : Try σ × (ω × List (Sight σ)) → Prop
  | (.waiting state, _, log) =>
    setting.Accounted (.pending state) log
  | (.connected connection, _, log) =>
    setting.Accounted (.ready (.ok connection)) log
  | (.failed state, _, log) => state.index = index ∧ ∃ failures booked e,
    state.failures = booked ++ [e] ∧ setting.Prepared index state.bound booked failures ∧
      setting.InVain (failures ++ [e]) log

/-- Polling the child of a try adds one sight of it, or two if it is given up. -/
theorem tryOnce_watched {failures booked : List Error} {log sights : List (Sight σ)}
    {index : Nat} {bound : Option Duration} {began : Instant} {deadline : Option Timer} {s : σ}
    (w : ω) (hv : setting.InVain failures log)
    (hp : setting.Prepared index bound booked failures)
    (ht : Tried setting.start index began bound sights (.running s))
    (hfresh : sights = [] → setting.now = began)
    (hd : deadline.map Timer.deadline = bound.map (began + ·)) :
    setting.Tries index (tryOnce setting.watched ⟨index, bound, booked, .trying deadline s⟩
      deadline s (w, log ++ sights)) := by
  simp only [tryOnce, Setting.watched_child, Setting.watched_options, Setting.watched_now]
  rcases setting.child index s w with ⟨answer, w'⟩
  cases answer with
  | ready result =>
    cases result with
    | ok connection =>
      rw [List.append_assoc]
      exact Accounted.connected hv hp (ht.polled hfresh .connected)
    | error e =>
      rw [List.append_assoc]
      have ht : Tried setting.start index began bound _ (.failed e) := ht.polled hfresh .failed
      have hfailed := hp.inVain hv ht .own
      cases deadline with
      | none => exact ⟨rfl, failures, booked, e, rfl, hp, hfailed⟩
      | some timer =>
        obtain ⟨b, rfl, hdeadline⟩ := Option.map_eq_some_iff.mp hd.symm
        cases hgo : setting.options.failFast || timer.isDue setting.now with
        | true =>
          simp only [hgo, ↓reduceIte]
          exact ⟨rfl, failures, booked, e, rfl, hp, hfailed⟩
        | false =>
          simp only [hgo, Bool.false_eq_true, ↓reduceIte]
          obtain ⟨hfast, hdue⟩ := Bool.or_eq_false_iff.mp hgo
          rw [Timer.isDue, decide_eq_false_iff_not, ← hdeadline, Nat.not_le] at hdue
          exact Accounted.waitingOut hv hp ht hfast rfl hdue hdeadline.symm
  | pending s' =>
    by_cases hover : ∃ b ∈ bound, began + b ≤ setting.now
    · have ht := ht.polled hfresh (.outOfTime hover (s := s'))
      obtain ⟨timer, rfl, hdue⟩ := (isOver_iff hd).mp hover
      obtain ⟨b, rfl, hover⟩ := hover
      have hms := SequentialOptions.millisWord_boundOf hp.bound.symm
      have hfailed := hp.inVain hv ht (.timeout (congrArg some hms.symm))
      simp only [hdue, ↓reduceIte, Setting.watched_abandon, List.append_assoc]
      exact ⟨rfl, failures, booked, _, rfl, hp, hfailed⟩
    · have ht := ht.polled hfresh (.waits hover (s := s'))
      rw [List.append_assoc]
      cases deadline with
      | none => exact Accounted.trying hv hp ht hd
      | some timer =>
        have hdue : timer.isDue setting.now = false :=
          Bool.eq_false_iff.mpr fun h => hover ((isOver_iff hd).mpr ⟨timer, rfl, h⟩)
        simp only [hdue, Bool.false_eq_true, ↓reduceIte]
        exact Accounted.trying hv hp ht hd

/-- A try that begins now is in step with the sights of those before it. -/
theorem begin_tracks {index : Nat} {bound : Option Duration} {failures booked : List Error}
    {log : List (Sight σ)} (hv : setting.InVain failures log)
    (hp : setting.Prepared index bound booked failures) :
    setting.Tracks (begin setting index bound booked) log := by
  have htracks : setting.Tracks (begin setting index bound booked) (log ++ []) :=
    .trying hv hp .begun (fun _ => rfl) (by rw [Option.map_map]; rfl)
  rwa [List.append_nil] at htracks

/-- A try that has failed leads to the next one, to a pause before the next round, or to the
end. -/
theorem next_tracks {state : State σ} {failures booked : List Error} {e : Error}
    {log : List (Sight σ)} (hbooked : state.failures = booked ++ [e])
    (hp : setting.Prepared state.index state.bound booked failures)
    (hv : setting.InVain (failures ++ [e]) log) :
    match next setting state with
    | .proceed later => setting.Tracks later log ∧
        stepsLeft setting.count later < setting.count - state.index
    | .pause later => setting.Accounted (.pending later) log
    | .lost failures => setting.Accounted (.ready (.error (.allFailed failures))) log := by
  rw [next]
  by_cases hlt : state.index + 1 < setting.count
  · rw [if_pos hlt, hbooked]
    exact ⟨begin_tracks hv (hp.next hlt e), Nat.sub_succ_lt_self _ _ (Nat.lt_of_succ_lt hlt)⟩
  · rw [if_neg hlt]
    cases hl : setting.options.looping with
    | true => exact .rewound hv (hp.rewind hlt hl e) hl (by simp)
    | false =>
      obtain ⟨hall, hlength⟩ := hp.last hlt hl e
      rw [hbooked, hall]
      exact .exhausted hv hl hlength

theorem next_watched (state : State σ) : next setting.watched state = next setting state := rfl

/-- A poll goes on after a try of a child has failed. -/
theorem goOn_watched {fuel : Nat} {state : State σ} {failures booked : List Error} {e : Error}
    {log : List (Sight σ)} (w : ω) (hbooked : state.failures = booked ++ [e])
    (hp : setting.Prepared state.index state.bound booked failures)
    (hv : setting.InVain (failures ++ [e]) log) (hfuel : setting.count - state.index ≤ fuel + 1)
    (ih : ∀ {later : State σ} {log : List (Sight σ)} (w : ω), setting.Tracks later log →
      stepsLeft setting.count later ≤ fuel →
      setting.Concludes (run setting.watched fuel later (w, log))) :
    setting.Concludes (goOn setting.watched fuel state (w, log)) := by
  have hnext := next_tracks hbooked hp hv
  rw [goOn, next_watched]
  cases hn : next setting state with
  | proceed later =>
    rw [hn] at hnext
    exact ih w hnext.1 (by omega)
  | pause later =>
    rw [hn] at hnext
    exact hnext
  | lost failures =>
    rw [hn] at hnext
    exact hnext

/-- What a poll, or the rest of one, comes to is accounted for. Every step but the start of a
round goes on to a later child. -/
theorem run_watched : ∀ (fuel : Nat) {state : State σ} {log : List (Sight σ)} (w : ω),
    setting.Tracks state log → stepsLeft setting.count state ≤ fuel →
    setting.Concludes (run setting.watched fuel state (w, log))
  | 0, _, _, _, .trying _ hp _ _ _, hfuel =>
    absurd hfuel (Nat.not_le.mpr (Nat.sub_pos_of_lt hp.lt))
  | 0, _, _, _, .waitingOut _ hp _ _ _ _, hfuel =>
    absurd hfuel (Nat.not_le.mpr (Nat.sub_pos_of_lt hp.lt))
  | fuel + 1, _, _, w, h, hfuel => by
    rw [run_succ]
    cases h with
    | rewound hv hp _ _ =>
      exact run_watched fuel w (begin_tracks hv hp) (Nat.le_of_succ_le_succ hfuel)
    | @waitingOut failures log index bound booked began sights e b timer hv hp ht hfast hb htimer =>
      dsimp only
      by_cases hdue : timer.isDue setting.watched.now = true
      · rw [if_pos hdue]
        exact goOn_watched w rfl hp (hp.inVain hv ht .own) hfuel (run_watched fuel)
      · rw [if_neg hdue]
        rw [Timer.isDue, decide_eq_true_iff, htimer, Nat.not_le] at hdue
        exact Accounted.waitingOut hv hp ht hfast hb hdue htimer
    | @trying failures log index bound booked began sights deadline s hv hp ht hfresh hd =>
      have htry := tryOnce_watched w hv hp ht hfresh hd
      dsimp only
      generalize tryOnce setting.watched _ deadline s (w, log ++ sights) = result at htry ⊢
      obtain ⟨attempt, w', log'⟩ := result
      cases attempt with
      | waiting state => exact htry
      | connected connection => exact htry
      | failed state =>
        obtain ⟨rfl, failures, booked, e, hbooked, hp, hv⟩ := htry
        exact goOn_watched w' hbooked hp hv hfuel (run_watched fuel)

/-- A poll of a watched sequence comes to what is accounted for. -/
theorem poll_watched (setting : Setting σ ω) {state : State σ} {log : List (Sight σ)} (w : ω)
    (h : setting.Tracks state log) : setting.Concludes (poll setting.watched state (w, log)) :=
  run_watched _ w h (stepsLeft_le setting.count state)

theorem first_watched (setting : Setting σ ω) (w : ω) (hcount : 0 < setting.count) :
    setting.Concludes (first setting.watched (w, [])) := by
  rw [first, if_neg (show setting.watched.count ≠ 0 from Nat.ne_of_gt hcount)]
  exact poll_watched setting w (begin_tracks .nil (.start hcount))

/-! ### Watching changes nothing -/

/-- A sequence that keeps a log: something is written down when a child is polled, and when one is
given up. -/
def Setting.logged {α : Type} (setting : Setting σ ω) (write : Nat → σ → ω → α)
    (abandoned : σ → List α) : Setting σ (ω × List α) where
  options := setting.options
  count := setting.count
  kind := setting.kind
  child := Dialplan.logged setting.child write
  start := setting.start
  abandon s w := (setting.abandon s w.1, w.2 ++ abandoned s)
  now := setting.now
  turn := setting.turn

theorem next_logged {α : Type} (write : Nat → σ → ω → α) (abandoned : σ → List α)
    (state : State σ) :
    next (setting.logged write abandoned) state = next setting state := rfl

section

variable {α : Type} (setting : Setting σ ω) (write : Nat → σ → ω → α) (abandoned : σ → List α)

theorem tryOnce_logged_fst (state : State σ) (deadline : Option Timer) (s : σ) (w : ω)
    (log : List α) :
    (tryOnce (setting.logged write abandoned) state deadline s (w, log)).1 =
        (tryOnce setting state deadline s w).1 ∧
      (tryOnce (setting.logged write abandoned) state deadline s (w, log)).2.1 =
        (tryOnce setting state deadline s w).2 := by
  have hchild : (setting.logged write abandoned).child state.index s (w, log) =
      ((setting.child state.index s w).1, (setting.child state.index s w).2,
        log ++ [write state.index s w]) := rfl
  rw [tryOnce, tryOnce, hchild]
  rcases setting.child state.index s w with ⟨answer, w'⟩
  cases answer with
  | ready result =>
    cases result with
    | ok connection => exact ⟨rfl, rfl⟩
    | error e =>
      cases deadline with
      | none => exact ⟨rfl, rfl⟩
      | some timer =>
        dsimp only
        by_cases hgo : (setting.options.failFast || timer.isDue setting.now) = true
        · rw [if_pos hgo, if_pos (show ((setting.logged write abandoned).options.failFast ||
            timer.isDue (setting.logged write abandoned).now) = true from hgo)]
          exact ⟨rfl, rfl⟩
        · rw [if_neg hgo, if_neg (show ¬ ((setting.logged write abandoned).options.failFast ||
            timer.isDue (setting.logged write abandoned).now) = true from hgo)]
          exact ⟨rfl, rfl⟩
  | pending s' =>
    cases deadline with
    | none => exact ⟨rfl, rfl⟩
    | some timer =>
      dsimp only
      by_cases hdue : timer.isDue setting.now = true
      · rw [if_pos hdue, if_pos (show timer.isDue (setting.logged write abandoned).now = true
          from hdue)]
        exact ⟨rfl, rfl⟩
      · rw [if_neg hdue, if_neg (show ¬ timer.isDue (setting.logged write abandoned).now = true
          from hdue)]
        exact ⟨rfl, rfl⟩

theorem run_logged_fst : ∀ (fuel : Nat) (state : State σ) (w : ω) (log : List α),
    (run (setting.logged write abandoned) fuel state (w, log)).1 =
        (run setting fuel state w).1 ∧
      (run (setting.logged write abandoned) fuel state (w, log)).2.1 =
        (run setting fuel state w).2
  | 0, _, _, _ => ⟨rfl, rfl⟩
  | fuel + 1, state, w, log => by
    have hgo : ∀ (state : State σ) (w : ω) (log : List α),
        (goOn (setting.logged write abandoned) fuel state (w, log)).1 =
            (goOn setting fuel state w).1 ∧
          (goOn (setting.logged write abandoned) fuel state (w, log)).2.1 =
            (goOn setting fuel state w).2 := by
      intro state w log
      rw [goOn, goOn, next_logged]
      cases next setting state with
      | proceed later => exact run_logged_fst fuel later w log
      | pause later => exact ⟨rfl, rfl⟩
      | lost failures => exact ⟨rfl, rfl⟩
    rw [run_succ, run_succ]
    cases state.phase with
    | rewound => exact run_logged_fst fuel _ w log
    | waitingOut timer =>
      dsimp only
      by_cases hdue : timer.isDue setting.now = true
      · rw [if_pos hdue, if_pos (show timer.isDue (setting.logged write abandoned).now = true
          from hdue)]
        exact hgo state w log
      · rw [if_neg hdue, if_neg (show ¬ timer.isDue (setting.logged write abandoned).now = true
          from hdue)]
        exact ⟨rfl, rfl⟩
    | trying deadline s =>
      have htry := tryOnce_logged_fst setting write abandoned state deadline s w log
      dsimp only
      generalize tryOnce (setting.logged write abandoned) state deadline s (w, log) = seen
        at htry ⊢
      generalize tryOnce setting state deadline s w = bare at htry ⊢
      obtain ⟨attempt, w', log'⟩ := seen
      obtain ⟨attempt', w''⟩ := bare
      obtain ⟨rfl, rfl⟩ : attempt = attempt' ∧ w' = w'' := htry
      cases attempt with
      | waiting state => exact ⟨rfl, rfl⟩
      | connected connection => exact ⟨rfl, rfl⟩
      | failed state => exact hgo state w' log'

/-- A sequence that keeps a log comes to the same answer in the same world. -/
theorem poll_logged_fst (state : State σ) (w : ω) (log : List α) :
    (poll (setting.logged write abandoned) state (w, log)).1 = (poll setting state w).1 ∧
      (poll (setting.logged write abandoned) state (w, log)).2.1 = (poll setting state w).2 :=
  run_logged_fst setting write abandoned _ state w log

theorem first_logged_fst (w : ω) (log : List α) :
    (first (setting.logged write abandoned) (w, log)).1 = (first setting w).1 ∧
      (first (setting.logged write abandoned) (w, log)).2.1 = (first setting w).2 := by
  unfold first
  by_cases hcount : setting.count = 0
  · rw [if_pos hcount, if_pos (show (setting.logged write abandoned).count = 0 from hcount)]
    exact ⟨rfl, rfl⟩
  · rw [if_neg hcount, if_neg (show (setting.logged write abandoned).count ≠ 0 from hcount)]
    exact poll_logged_fst setting write abandoned _ w log

end

/-- What is written down of a watched sequence when a child is polled. -/
def Setting.sight (setting : Setting σ ω) (i : Nat) (s : σ) (w : ω) : Sight σ :=
  .polled i setting.now s (setting.child i s w).1

/-- A watched sequence comes to the same answer in the same world. -/
theorem poll_watched_fst (setting : Setting σ ω) (state : State σ) (w : ω) (log : List (Sight σ)) :
    (poll setting.watched state (w, log)).1 = (poll setting state w).1 ∧
      (poll setting.watched state (w, log)).2.1 = (poll setting state w).2 :=
  poll_logged_fst setting setting.sight (fun s => [.abandoned s]) state w log

theorem first_watched_fst (setting : Setting σ ω) (w : ω) (log : List (Sight σ)) :
    (first setting.watched (w, log)).1 = (first setting w).1 ∧
      (first setting.watched (w, log)).2.1 = (first setting w).2 :=
  first_logged_fst setting setting.sight (fun s => [.abandoned s]) w log

end

end Dialplan.Sequence
