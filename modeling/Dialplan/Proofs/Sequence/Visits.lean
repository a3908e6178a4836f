import Dialplan.Proofs.Sequence.Watch

/-! Visits of sequences. A visit takes up a sequence in the state in which the one before it has
left it: it polls on what is in progress, waits on, or begins the next try, and after a pause the
next round (`poll_resumes`). It only adds to the sights of the children. -/

namespace Dialplan.Sequence

variable {σ ω : Type}

/-- How a visit goes on from the state in which it finds the sequence, after these sights: its
answer, and the sights after it. -/
inductive Resumes (setting : Setting σ ω) (log : List (Sight σ)) :
    State σ → Poll (State σ) → List (Sight σ) → Prop where
  /-- The child that is tried is polled on. -/
  | trying {index bound booked deadline s polled answer later} :
      log ++ [.polled index setting.now s polled] <+: later →
      Resumes setting log ⟨index, bound, booked, .trying deadline s⟩ answer later
  /-- The time of the try is not over, and nothing changes. -/
  | waits {index bound booked timer} : setting.now < timer.deadline →
      Resumes setting log ⟨index, bound, booked, .waitingOut timer⟩
        (.pending ⟨index, bound, booked, .waitingOut timer⟩) log
  /-- The time of the try is over, and the next child is started. -/
  | next {index bound booked timer polled answer later} : timer.deadline ≤ setting.now →
      index + 1 < setting.count →
      log ++ [.polled (index + 1) setting.now setting.start polled] <+: later →
      Resumes setting log ⟨index, bound, booked, .waitingOut timer⟩ answer later
  /-- The time of the last child is over, and the sequence is about to start over. -/
  | pauses {index bound booked timer} : timer.deadline ≤ setting.now →
      ¬ index + 1 < setting.count → setting.options.looping = true →
      Resumes setting log ⟨index, bound, booked, .waitingOut timer⟩
        (.pending ⟨0, setting.options.nextBound bound, [], .rewound⟩) log
  /-- The time of the last child is over, and the sequence has failed. -/
  | lost {index bound booked timer} : timer.deadline ≤ setting.now →
      ¬ index + 1 < setting.count → setting.options.looping = false →
      Resumes setting log ⟨index, bound, booked, .waitingOut timer⟩
        (.ready (.error (.allFailed booked))) log
  /-- The pause between two rounds is over, and the first child is started. -/
  | rewound {index bound booked polled answer later} :
      log ++ [.polled 0 setting.now setting.start polled] <+: later →
      Resumes setting log ⟨index, bound, booked, .rewound⟩ answer later

variable {setting : Setting σ ω}

/-- What has been seen stays written down. -/
theorem looks_extend (setting : Setting σ ω) (log : List (Sight σ)) :
    Looks setting.watched (fun _ _ w => log <+: w.2) (fun w => log <+: w.2)
      fun _ w => log <+: w.2 := by
  rintro i s ⟨w, seen⟩ h
  have hpolled := h.trans
    (List.prefix_append seen [.polled i setting.now s (setting.child i s w).1])
  rw [Setting.watched_child]
  generalize setting.child i s w = polled at hpolled ⊢
  obtain ⟨answer, w'⟩ := polled
  cases answer with
  | pending s' => exact ⟨hpolled, hpolled.trans (List.prefix_append _ _)⟩
  | ready result => cases result <;> exact hpolled

theorem run_extends (fuel : Nat) (state : State σ) (w : ω) (log : List (Sight σ)) :
    log <+: (run setting.watched fuel state (w, log)).2.2 :=
  run_keeps (looks_extend setting log) fuel state (List.prefix_refl log)

theorem goOn_extends (fuel : Nat) (state : State σ) (w : ω) (log : List (Sight σ)) :
    log <+: (goOn setting.watched fuel state (w, log)).2.2 := by
  rw [goOn]
  cases next setting.watched state with
  | proceed later => exact run_extends fuel later w log
  | pause later => exact List.prefix_refl log
  | lost failures => exact List.prefix_refl log

/-- A try polls its child first. -/
theorem tryOnce_polls (state : State σ) (deadline : Option Timer) (s : σ) (w : ω)
    (log : List (Sight σ)) :
    log ++ [.polled state.index setting.now s (setting.child state.index s w).1] <+:
      (tryOnce setting.watched state deadline s (w, log)).2.2 := by
  rw [tryOnce, Setting.watched_child]
  rcases setting.child state.index s w with ⟨answer, w'⟩
  cases answer with
  | ready result =>
    cases result with
    | ok connection => exact List.prefix_refl _
    | error e =>
      cases deadline with
      | none => exact List.prefix_refl _
      | some timer =>
        dsimp only
        split <;> exact List.prefix_refl _
  | pending s' =>
    cases deadline with
    | none => exact List.prefix_refl _
    | some timer =>
      dsimp only
      split
      · exact List.prefix_append _ _
      · exact List.prefix_refl _

/-- A sequence that is trying a child polls it first. -/
theorem run_polls (fuel index : Nat) (bound : Option Duration) (booked : List Error)
    (deadline : Option Timer) (s : σ) (w : ω) (log : List (Sight σ)) :
    log ++ [.polled index setting.now s (setting.child index s w).1] <+:
      (run setting.watched (fuel + 1) ⟨index, bound, booked, .trying deadline s⟩ (w, log)).2.2 := by
  have hpolls : log ++ [.polled index setting.now s (setting.child index s w).1] <+: _ :=
    tryOnce_polls ⟨index, bound, booked, .trying deadline s⟩ deadline s w log
  rw [run_succ]
  dsimp only
  generalize tryOnce setting.watched _ deadline s (w, log) = result at hpolls ⊢
  obtain ⟨attempt, w', log'⟩ := result
  cases attempt with
  | waiting state => exact hpolls
  | connected connection => exact hpolls
  | failed state => exact hpolls.trans (goOn_extends fuel state w' log')

/-- A visit goes on from the state in which it finds the sequence. -/
theorem poll_resumes (setting : Setting σ ω) (state : State σ) (w : ω) (log : List (Sight σ)) :
    Resumes setting log state (poll setting.watched state (w, log)).1
      (poll setting.watched state (w, log)).2.2 := by
  obtain ⟨index, bound, booked, phase⟩ := state
  cases phase with
  | trying deadline s => exact .trying (run_polls _ index bound booked deadline s w log)
  | rewound =>
    rw [poll, run_succ]
    exact .rewound (run_polls setting.count 0 bound booked _ setting.start w log)
  | waitingOut timer =>
    rw [poll, run_succ]
    dsimp only
    by_cases hdue : timer.isDue setting.watched.now = true
    · rw [if_pos hdue, goOn, next_watched, Sequence.next]
      have hover : timer.deadline ≤ setting.now := of_decide_eq_true hdue
      by_cases hlt : index + 1 < setting.count
      · rw [if_pos hlt]
        exact .next hover hlt (run_polls setting.count (index + 1) _ booked _ setting.start w log)
      · rw [if_neg hlt]
        cases hl : setting.options.looping with
        | true => exact .pauses hover hlt hl
        | false => exact .lost hover hlt hl
    · rw [if_neg hdue]
      exact .waits (Nat.lt_of_not_le fun hle => hdue (decide_eq_true hle))

/-- The first visit starts the first child. -/
theorem first_polls (setting : Setting σ ω) (w : ω) (hcount : 0 < setting.count) :
    [.polled 0 setting.now setting.start (setting.child 0 setting.start w).1] <+:
      (first setting.watched (w, [])).2.2 := by
  rw [first, if_neg (show setting.watched.count ≠ 0 from Nat.ne_of_gt hcount)]
  exact run_polls (setting.count + 1) 0 setting.options.firstBound [] _ setting.start w []

end Dialplan.Sequence
