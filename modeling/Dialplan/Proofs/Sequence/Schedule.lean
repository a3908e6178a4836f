import Mathlib.Algebra.BigOperators.Group.Finset.Basic
import Mathlib.Algebra.Order.BigOperators.Group.Finset
import Dialplan.Proofs.Sequence.Result

/-! When the tries of a sequence begin. The bound of a try has a closed form, which fits into the
program's lengths of time (`SequentialOptions.escalates`). A sequence that waits out every bound
and is visited punctually begins each try exactly when the bounds of all tries before it are over,
and one that goes on at once begins it no later (`sequential_schedule`). -/

namespace Dialplan

/-- The greatest length of time of the program: a word of seconds, and the nanoseconds of one more
that is not complete. -/
def Duration.greatest : Duration := UInt64.size * perSecond - 1

theorem Duration.ofMillis_min (a b : Nat) : ofMillis (min a b) = min (ofMillis a) (ofMillis b) :=
  (Nat.mul_min_mul_right a b perMilli).symm

theorem Duration.ofMillis_double (a : Nat) : ofMillis a * 2 = ofMillis (a * 2) :=
  Nat.mul_right_comm a perMilli 2

/-- A word of milliseconds is a length of time of the program, and so is its double. -/
theorem Duration.ofMillis_double_le (ms : UInt64) : ofMillis ms.toNat * 2 ≤ greatest := by
  have hlt := ms.toNat_lt
  show ms.toNat * 1000000 * 2 ≤ 2 ^ 64 * 1000000000 - 1
  omega

namespace SequentialOptions

/-! ### Bounds -/

/-- The milliseconds of the bound of a try: the first bound doubles from try to try and stops at
the limit; without a limit it stays. -/
def escalated (first : Nat) (limit : Option Nat) : Nat → Nat
  | 0 => first
  | k + 1 => limit.elim first (min (first * 2 ^ (k + 1)))

/-- How many milliseconds a try may take, if its time is limited. -/
def tryMillis (options : SequentialOptions) (k : Nat) : Option Nat :=
  (options.timeout.filter (· ≠ 0)).map fun first =>
    escalated first.toNat (options.timeoutLimit.map UInt64.toNat) k

/-- What is promised of the bounds of tries. -/
structure Escalates (options : SequentialOptions) : Prop where
  /-- Every try has the bound that is asked for. -/
  bound : ∀ k, options.boundOf k = (options.tryMillis k).map Duration.ofMillis
  /-- The limit is a length of time of the program. -/
  limit : ∀ most ∈ options.boundLimit, most ≤ Duration.greatest
  /-- So is every bound, and its double. -/
  fits : ∀ k, ∀ b ∈ options.boundOf k, b ≤ Duration.greatest ∧ b * 2 ≤ Duration.greatest
  /-- A try that runs out of time says how many milliseconds its bound was. -/
  timeout : ∀ {σ : Type} {kind : String} {k : Nat} {e : Error},
    Sequence.Failure kind (options.boundOf k) (.outOfTime : Sequence.Ending σ) e →
    ∃ ms : UInt64, options.tryMillis k = some ms.toNat ∧ e = .timeout (kind ++ " sub-strategy") ms

theorem escalated_succ (first most k : Nat) :
    escalated first (some most) (k + 1) = min (escalated first (some most) k * 2) most := by
  cases k with
  | zero => rfl
  | succ k =>
    show min (first * 2 ^ (k + 1 + 1)) most = min (min (first * 2 ^ (k + 1)) most * 2) most
    -- a bound that has reached the limit stays there
    rw [Nat.pow_succ, ← Nat.mul_assoc]
    omega

theorem boundOf_eq (options : SequentialOptions) (k : Nat) :
    options.boundOf k = (options.tryMillis k).map Duration.ofMillis := by
  unfold tryMillis
  induction k with
  | zero =>
    unfold boundOf firstBound
    cases options.timeout with
    | none => rfl
    | some first => by_cases hfirst : first = 0 <;> simp [hfirst, escalated]
  | succ k ih =>
    rw [boundOf, ih]
    unfold nextBound boundLimit
    cases options.timeout.filter (· ≠ 0) with
    | none => rfl
    | some first =>
      cases options.timeoutLimit with
      | none => cases k <;> rfl
      | some most =>
        simp only [Option.map_some, escalated_succ, Duration.ofMillis_min, Duration.ofMillis_double]

theorem escalates (options : SequentialOptions) : options.Escalates where
  bound := options.boundOf_eq
  limit most hm := by
    obtain ⟨ms, -, rfl⟩ := Option.map_eq_some_iff.mp hm
    exact Nat.le_trans (Nat.le_mul_of_pos_right _ Nat.two_pos) (Duration.ofMillis_double_le ms)
  fits k b hb := by
    obtain ⟨ms, rfl⟩ := boundOf_eq_ofMillis hb
    have hdouble := Duration.ofMillis_double_le ms
    exact ⟨Nat.le_trans (Nat.le_mul_of_pos_right _ Nat.two_pos) hdouble, hdouble⟩
  timeout {_ _ k _} h := by
    cases h with
    | timeout hb =>
      rename_i ms
      refine ⟨ms, ?_, rfl⟩
      rw [boundOf_eq] at hb
      obtain ⟨a, ha, heq⟩ := Option.map_eq_some_iff.mp hb
      rw [ha, Nat.eq_of_mul_eq_mul_right (by decide) heq]

/-! ### Due times -/

/-- How long the tries before one may take together. -/
def due (options : SequentialOptions) (k : Nat) : Duration :=
  ∑ j ∈ Finset.range k, (options.boundOf j).getD 0

/-- Is a moment the one that is due? A sequence that goes on at once after a failure may be
early. -/
def Meets (options : SequentialOptions) (moment due : Instant) : Prop :=
  if options.failFast then moment ≤ due else moment = due

variable {options : SequentialOptions} {moment moment' due : Instant}

theorem due_zero (options : SequentialOptions) : options.due 0 = 0 := Finset.sum_range_zero _

theorem due_succ {k : Nat} {b : Duration} (h : options.boundOf k = some b) :
    options.due (k + 1) = options.due k + b := by
  rw [SequentialOptions.due, Finset.sum_range_succ, h]
  rfl

theorem due_mono (options : SequentialOptions) : Monotone options.due := fun _ _ h =>
  Finset.sum_le_sum_of_subset (Finset.range_mono h)

/-- If the first try is bounded, all are. -/
theorem exists_boundOf (h : options.firstBound.isSome = true) (k : Nat) :
    ∃ b, options.boundOf k = some b := by
  have hfirst : (options.boundOf 0).isSome = true := h
  rw [boundOf_eq, Option.isSome_map, tryMillis, Option.isSome_map] at hfirst
  obtain ⟨first, hfirst⟩ := Option.isSome_iff_exists.mp hfirst
  rw [boundOf_eq, tryMillis, hfirst]
  exact ⟨_, rfl⟩

theorem Meets.le (h : options.Meets moment due) : moment ≤ due := by
  unfold Meets at h
  split at h
  · exact h
  · exact Nat.le_of_eq h

theorem Meets.refl (options : SequentialOptions) (moment : Instant) :
    options.Meets moment moment := by
  unfold Meets
  split
  · exact Nat.le_refl _
  · rfl

theorem Meets.add (h : options.Meets moment due) (b : Duration) :
    options.Meets (moment + b) (due + b) := by
  unfold Meets at h ⊢
  split at h
  · rename_i hfast
    rw [if_pos hfast]
    exact Nat.add_le_add_right h b
  · rename_i hslow
    rw [if_neg hslow, h]

/-- A moment that has come by the one that is due may be met as well, at least when it is the
same. -/
theorem Meets.earlier (h : options.Meets moment due) (hle : moment' ≤ moment)
    (hsame : options.failFast = true ∨ moment ≤ moment') : options.Meets moment' due := by
  rcases hsame with hfast | hsame
  · unfold Meets at h ⊢
    rw [if_pos hfast] at h ⊢
    exact Nat.le_trans hle h
  · rwa [Nat.le_antisymm hle hsame]

end SequentialOptions

namespace Sequence

variable {σ ω : Type}

/-! ### Starts -/

/-- When a child is polled. -/
def Sight.time? : Sight σ → Option Instant
  | polled _ now _ _ => some now
  | abandoned _ => none

/-- The times at which a child is polled while none is in progress. -/
def startsFrom : Option (Nat × σ) → List (Sight σ) → List Instant
  | _, [] => []
  | child, sight :: rest =>
    (if child.isNone then sight.time?.toList else []) ++ startsFrom sight.left? rest

/-- The times at which the tries begin that are seen. -/
def starts (log : List (Sight σ)) : List Instant := startsFrom none log

theorem startsFrom_append : ∀ (log more : List (Sight σ)) (child : Option (Nat × σ)),
    startsFrom child (log ++ more) = startsFrom child log ++ startsFrom (inProgress child log) more
  | [], _, _ => rfl
  | sight :: log, more, child => by
    rw [List.cons_append, startsFrom, startsFrom, startsFrom_append log, List.append_assoc]
    rfl

/-- The starts if a child is polled now. -/
def nextStarts (now : Instant) (log : List (Sight σ)) : List Instant :=
  starts log ++ if (inProgress none log).isNone then [now] else []

theorem starts_polled (log : List (Sight σ)) (child : Nat) (now : Instant) (s : σ)
    (answer : Poll σ) : starts (log ++ [.polled child now s answer]) = nextStarts now log := by
  rw [starts, startsFrom_append, startsFrom, startsFrom, List.append_nil]
  rfl

/-- Giving a child up begins no try. -/
theorem starts_abandoned (log : List (Sight σ)) (s : σ) :
    starts (log ++ [.abandoned s]) = starts log := by
  rw [starts, startsFrom_append, startsFrom, startsFrom, List.append_nil]
  cases (inProgress none log).isNone <;> exact List.append_nil _

theorem nextStarts_of_idle {now : Instant} {log : List (Sight σ)}
    (h : inProgress none log = none) : nextStarts now log = starts log ++ [now] := by
  rw [nextStarts, h]
  rfl

theorem nextStarts_of_busy {now : Instant} {log : List (Sight σ)}
    (h : (inProgress none log).isSome = true) : nextStarts now log = starts log := by
  obtain ⟨child, hchild⟩ := Option.isSome_iff_exists.mp h
  rw [nextStarts, hchild]
  exact List.append_nil _

theorem inProgress_snoc (log : List (Sight σ)) (sight : Sight σ) :
    inProgress none (log ++ [sight]) = sight.left? := by
  rw [inProgress_append]
  rfl

/-- A try begins once. -/
theorem Tried.starts_eq {start : σ} {child : Nat} {began : Instant} {bound : Option Duration}
    {sights : List (Sight σ)} {ending : Ending σ}
    (h : Tried start child began bound sights ending) :
    starts sights = if sights.isEmpty then [] else [began] := by
  induction h with
  | begun => rfl
  | @polled sights s now answer more ending ht hfirst hleads ih =>
    have hmore : starts (sights ++ .polled child now s answer :: more) =
        starts (sights ++ [.polled child now s answer]) := by
      cases hleads with
      | outOfTime _ => rw [List.append_cons, starts_abandoned]
      | _ => rfl
    rw [hmore, starts_polled]
    cases sights with
    | nil =>
      rw [hfirst rfl]
      rfl
    | cons sight rest =>
      rw [nextStarts_of_busy (by rw [ht.oneAtATime.2]; rfl), ih]
      rfl

/-- As many tries have begun as have come to nothing. -/
theorem InVain.length_starts {options : SequentialOptions} {count : Nat} {kind : Nat → String}
    {start : σ} {failures : List Error} {log : List (Sight σ)}
    (h : InVain options count kind start failures log) :
    (starts log).length = failures.length := by
  induction h with
  | nil => rfl
  | @snoc failures log began sights ending e hv ht hf ih =>
    have hne : sights ≠ [] := by
      rintro rfl
      generalize hnil : ([] : List (Sight σ)) = sights at ht
      cases ht with
      | begun => cases hf
      | polled => simp at hnil
    rw [starts, startsFrom_append, hv.oneAtATime.2, List.length_append, List.length_append]
    show (starts log).length + (starts sights).length = _
    rw [ih, ht.starts_eq, List.isEmpty_eq_false_iff.mpr hne]
    rfl

/-! ### Timetables -/

/-- May what is in a phase be polled again later, if no moment may be missed, and if it waits for
no other time when it only lets others run? -/
def Phase.Awaits (now later : Instant) : Phase σ → Prop
  | .trying deadline _ => ∀ timer ∈ deadline, later ≤ timer.deadline
  | .waitingOut timer => later ≤ timer.deadline
  | .rewound => later = now

section

variable (options : SequentialOptions) (origin : Instant) (count : Nat)

/-- The tries of a sequence that was started at some time begin when they are due. -/
def Timetable (starts : List Instant) : Prop :=
  ∀ k moment, starts[k]? = some moment → options.Meets moment (origin + options.due k)

/-- The latest of the tries that have begun is on the timetable, and not past its deadline. Then
the next one is due. -/
structure Underway (now deadline : Instant) (k : Nat) (starts : List Instant) : Prop where
  timetable : Timetable options origin starts
  length : starts.length = k + 1
  within : now ≤ deadline
  due : options.Meets deadline (origin + options.due (k + 1))

/-- A sequence that is polled at a time, and has kept to the timetable. -/
inductive Paced (now : Instant) : State σ → List (Sight σ) → Prop where
  | trying {index k booked timer s log} : index < count →
      Underway options origin now timer.deadline k (nextStarts now log) →
      Paced now ⟨index, options.boundOf k, booked, .trying (some timer) s⟩ log
  | waitingOut {index k booked timer log} : index < count →
      Underway options origin now timer.deadline k (starts log) → inProgress none log = none →
      Paced now ⟨index, options.boundOf k, booked, .waitingOut timer⟩ log
  | rewound {index booked log} : 0 < count →
      Timetable options origin (starts log) → inProgress none log = none →
      options.Meets now (origin + options.due (starts log).length) →
      Paced now ⟨index, options.boundOf (starts log).length, booked, .rewound⟩ log

/-- A sequence that waits, and has kept to the timetable. The next try is not due yet, unless
the sequence lets others run just before it. -/
structure Waits (now : Instant) (state : State σ) (log : List (Sight σ)) : Prop where
  timetable : Timetable options origin (starts log)
  before : now ≤ origin + options.due (starts log).length
  rewound : now = origin + options.due (starts log).length → state.phase = .rewound
  resumes : ∀ later, state.phase.Awaits now later → Paced options origin count later state log

/-- What a sequence that has kept to the timetable has come to. -/
def OnTimetable (now : Instant) (answer : Poll (State σ)) (log : List (Sight σ)) : Prop :=
  match answer with
  | .pending state => Waits options origin count now state log
  | .ready _ => Timetable options origin (starts log)

/-- A try has come to nothing, and the next one is due. -/
structure Over (now : Instant) (state : State σ) (log : List (Sight σ)) : Prop where
  timetable : Timetable options origin (starts log)
  idle : inProgress none log = none
  bound : options.nextBound state.bound = options.boundOf (starts log).length
  due : options.Meets now (origin + options.due (starts log).length)

end

section

variable {options : SequentialOptions} {origin : Instant} {count : Nat} {setting : Setting σ ω}

theorem Timetable.nil (options : SequentialOptions) (origin : Instant) :
    Timetable options origin [] := fun _ _ h => nomatch h

theorem Timetable.snoc {starts : List Instant} {now : Instant}
    (h : Timetable options origin starts)
    (hnow : options.Meets now (origin + options.due starts.length)) :
    Timetable options origin (starts ++ [now]) := by
  intro k moment hk
  rcases Nat.lt_trichotomy k starts.length with hlt | rfl | hgt
  · rw [List.getElem?_append_left hlt] at hk
    exact h k moment hk
  · rw [List.getElem?_concat_length] at hk
    cases hk
    exact hnow
  · rw [List.getElem?_eq_none (by simp; omega)] at hk
    cases hk

/-- What a poll of a watched sequence leads to. -/
def Setting.Timed (setting : Setting σ ω) (origin : Instant)
    (result : Poll (State σ) × (ω × List (Sight σ))) : Prop :=
  OnTimetable setting.options origin setting.count setting.now result.1 result.2.2

/-- What a poll of the child of a try leads to. -/
def Setting.TimedTry (setting : Setting σ ω) (origin : Instant) (index : Nat) :
    Try σ × (ω × List (Sight σ)) → Prop
  | (.waiting state, _, log) =>
    Waits setting.options origin setting.count setting.now state log
  | (.connected _, _, log) => Timetable setting.options origin (starts log)
  | (.failed state, _, log) =>
    state.index = index ∧ Over setting.options origin setting.now state log

namespace Underway

variable {now deadline : Instant} {k : Nat} {log : List (Sight σ)} {state : State σ}

/-- When the latest try has come to nothing, the next one is due, at the deadline or as soon as the
sequence may go on. -/
theorem ended (h : Underway options origin now deadline k (starts log))
    (hidle : inProgress none log = none) (hbound : state.bound = options.boundOf k)
    (hgo : options.failFast = true ∨ deadline ≤ now) : Over options origin now state log where
  timetable := h.timetable
  idle := hidle
  bound := by
    rw [h.length, hbound]
    rfl
  due := by
    rw [h.length]
    exact h.due.earlier h.within hgo

theorem waits (h : Underway options origin now deadline k (starts log)) (hearly : now < deadline)
    (hresumes : ∀ later, state.phase.Awaits now later →
      Paced options origin count later state log) :
    Waits options origin count now state log := by
  have hbefore : now < origin + options.due (starts log).length := by
    rw [h.length]
    exact Nat.lt_of_lt_of_le hearly h.due.le
  exact ⟨h.timetable, Nat.le_of_lt hbefore, fun h => absurd h (Nat.ne_of_lt hbefore), hresumes⟩

end Underway

/-- A try ends by its deadline: before it the sequence waits, or goes on if it may. -/
theorem tryOnce_timed {index k : Nat} {booked : List Error} {timer : Timer} {s : σ}
    {log : List (Sight σ)} (w : ω) (hlt : index < setting.count)
    (h : Underway setting.options origin setting.now timer.deadline k
      (nextStarts setting.now log)) :
    setting.TimedTry origin index (tryOnce setting.watched
      ⟨index, setting.options.boundOf k, booked, .trying (some timer) s⟩ (some timer) s
      (w, log)) := by
  rw [tryOnce, Setting.watched_child]
  rcases setting.child index s w with ⟨answer, w'⟩
  have hpolled : Underway setting.options origin setting.now timer.deadline k
      (starts (log ++ [.polled index setting.now s answer])) := by
    rwa [starts_polled]
  have hleft := inProgress_snoc log (.polled index setting.now s answer)
  cases answer with
  | ready result =>
    cases result with
    | ok connection => exact hpolled.timetable
    | error e =>
      dsimp only
      split
      · rename_i hgo
        exact ⟨rfl, hpolled.ended hleft rfl
          ((Bool.or_eq_true_iff.mp hgo).imp_right of_decide_eq_true)⟩
      · rename_i hgo
        have hearly : setting.now < timer.deadline :=
          Nat.lt_of_not_le fun hdue => hgo (Bool.or_eq_true_iff.mpr (.inr (decide_eq_true hdue)))
        exact hpolled.waits hearly fun later hlater =>
          .waitingOut hlt { hpolled with within := hlater } hleft
  | pending s' =>
    dsimp only
    split
    · rename_i hdue
      rw [← starts_abandoned _ s'] at hpolled
      exact ⟨rfl, hpolled.ended (inProgress_snoc _ _) rfl (.inr (of_decide_eq_true hdue))⟩
    · rename_i hdue
      have hearly : setting.now < timer.deadline :=
        Nat.lt_of_not_le fun hle => hdue (decide_eq_true hle)
      refine hpolled.waits hearly fun later hlater => .trying hlt ?_
      -- the child is in progress, so polling it again begins no try
      rw [nextStarts_of_busy (by rw [hleft]; rfl)]
      exact { hpolled with within := hlater timer rfl }

/-- A try that begins now is on the timetable if it is due. -/
theorem begin_paced {index : Nat} {booked : List Error} {log : List (Sight σ)}
    (hbounded : setting.options.firstBound.isSome = true) (hlt : index < setting.count)
    (ht : Timetable setting.options origin (starts log)) (hidle : inProgress none log = none)
    (hdue : setting.options.Meets setting.now (origin + setting.options.due (starts log).length)) :
    Paced setting.options origin setting.count setting.now
      (begin setting index (setting.options.boundOf (starts log).length) booked) log := by
  obtain ⟨b, hb⟩ := SequentialOptions.exists_boundOf hbounded (starts log).length
  have hnext : nextStarts setting.now log = starts log ++ [setting.now] :=
    nextStarts_of_idle hidle
  have hdeadline : (setting.options.boundOf (starts log).length).map
      (fun b => (⟨setting.now + b, setting.turn⟩ : Timer)) =
        some ⟨setting.now + b, setting.turn⟩ := by
    rw [hb]
    rfl
  rw [begin, hdeadline]
  refine .trying hlt ⟨hnext ▸ ht.snoc hdue, by simp [hnext], Nat.le_add_right _ _, ?_⟩
  rw [SequentialOptions.due_succ hb, ← Nat.add_assoc]
  exact hdue.add b

/-- After a try that came to nothing the next one begins, or the sequence lets others run before
it does, or it is over. -/
theorem next_timed {state : State σ} {log : List (Sight σ)}
    (hbounded : setting.options.firstBound.isSome = true) (hlt : state.index < setting.count)
    (h : Over setting.options origin setting.now state log) :
    match next setting state with
    | .proceed later => Paced setting.options origin setting.count setting.now later log ∧
        stepsLeft setting.count later < setting.count - state.index
    | .pause later => Waits setting.options origin setting.count setting.now later log
    | .lost _ => Timetable setting.options origin (starts log) := by
  rw [next, h.bound]
  by_cases hnext : state.index + 1 < setting.count
  · rw [if_pos hnext]
    exact ⟨begin_paced hbounded hnext h.timetable h.idle h.due,
      Nat.sub_succ_lt_self _ _ (Nat.lt_of_succ_lt hnext)⟩
  · rw [if_neg hnext]
    cases setting.options.looping with
    | true =>
      refine ⟨h.timetable, h.due.le, fun _ => rfl, fun later hlater => ?_⟩
      obtain rfl : later = setting.now := hlater
      exact .rewound (Nat.zero_lt_of_lt hlt) h.timetable h.idle h.due
    | false => exact h.timetable

theorem goOn_timed {fuel : Nat} {state : State σ} {log : List (Sight σ)} (w : ω)
    (hbounded : setting.options.firstBound.isSome = true) (hlt : state.index < setting.count)
    (h : Over setting.options origin setting.now state log)
    (hfuel : setting.count - state.index ≤ fuel + 1)
    (ih : ∀ {later : State σ} {log : List (Sight σ)} (w : ω),
      Paced setting.options origin setting.count setting.now later log →
      stepsLeft setting.count later ≤ fuel →
      setting.Timed origin (run setting.watched fuel later (w, log))) :
    setting.Timed origin (goOn setting.watched fuel state (w, log)) := by
  have hnext := next_timed hbounded hlt h
  rw [goOn, next_watched]
  cases hn : next setting state with
  | proceed later =>
    rw [hn] at hnext
    exact ih w hnext.1 (by omega)
  | pause later =>
    rw [hn] at hnext
    exact hnext
  | lost failures =>
    rw [hn] at hnext
    exact hnext

/-- A poll, or the rest of one, keeps to the timetable. Every step but the start of a round goes
on to a later child. -/
theorem run_timed (hbounded : setting.options.firstBound.isSome = true) : ∀ (fuel : Nat)
    {state : State σ} {log : List (Sight σ)} (w : ω),
    Paced setting.options origin setting.count setting.now state log →
    stepsLeft setting.count state ≤ fuel →
    setting.Timed origin (run setting.watched fuel state (w, log))
  | 0, _, _, _, .trying hlt _, hfuel => absurd hfuel (Nat.not_le.mpr (Nat.sub_pos_of_lt hlt))
  | 0, _, _, _, .waitingOut hlt _ _, hfuel =>
    absurd hfuel (Nat.not_le.mpr (Nat.sub_pos_of_lt hlt))
  | fuel + 1, _, log, w, h, hfuel => by
    rw [run_succ]
    cases h with
    | rewound hcount ht hidle hdue =>
      exact run_timed hbounded fuel w (begin_paced hbounded hcount ht hidle hdue)
        (Nat.le_of_succ_le_succ hfuel)
    | @waitingOut index k booked timer _ hlt hunderway hidle =>
      dsimp only
      by_cases hdue : timer.isDue setting.watched.now = true
      · rw [if_pos hdue]
        exact goOn_timed w hbounded hlt (hunderway.ended hidle rfl (.inr (of_decide_eq_true hdue)))
          hfuel (run_timed hbounded fuel)
      · rw [if_neg hdue]
        have hearly : setting.now < timer.deadline :=
          Nat.lt_of_not_le fun hle => hdue (decide_eq_true hle)
        exact hunderway.waits hearly fun later hlater =>
          .waitingOut hlt { hunderway with within := hlater } hidle
    | @trying index k booked timer s _ hlt hunderway =>
      have htry : setting.TimedTry origin index
          (tryOnce setting.watched ⟨index, _, booked, _⟩ (some timer) s (w, log)) :=
        tryOnce_timed w hlt hunderway
      dsimp only
      generalize tryOnce setting.watched _ (some timer) s (w, log) = result at htry ⊢
      obtain ⟨attempt, w', log'⟩ := result
      cases attempt with
      | waiting state => exact htry
      | connected connection => exact htry
      | failed state =>
        obtain ⟨rfl, hover⟩ := htry
        exact goOn_timed w' hbounded hlt hover hfuel (run_timed hbounded fuel)

theorem poll_timed (hbounded : setting.options.firstBound.isSome = true) {state : State σ}
    {log : List (Sight σ)} (w : ω)
    (h : Paced setting.options origin setting.count setting.now state log) :
    setting.Timed origin (poll setting.watched state (w, log)) :=
  run_timed hbounded _ w h (stepsLeft_le setting.count state)

theorem first_timed (hbounded : setting.options.firstBound.isSome = true)
    (hcount : 0 < setting.count) (w : ω) :
    setting.Timed setting.now (first setting.watched (w, [])) := by
  rw [first, if_neg (show setting.watched.count ≠ 0 from Nat.ne_of_gt hcount)]
  have hdue : setting.options.Meets setting.now (setting.now + setting.options.due 0) := by
    rw [SequentialOptions.due_zero]
    exact .refl _ _
  have hpaced : Paced setting.options setting.now setting.count setting.now
      (begin setting 0 (setting.options.boundOf (starts ([] : List (Sight σ))).length) []) [] :=
    begin_paced hbounded hcount (.nil _ _) rfl hdue
  exact poll_timed hbounded w hpaced

end

/-! ### Schedules -/

/-- What is promised of a sequence with bounded tries that was started at some time, and is polled
at another: when its tries begin. -/
structure Scheduled (options : SequentialOptions) (count : Nat) (origin now : Instant)
    (answer : Poll (State σ)) (log : List (Sight σ)) : Prop where
  /-- A try that has begun did so when it was due. -/
  timetable : Timetable options origin (starts log)
  /-- A try that is due has begun, unless one before it has connected, or the sequence is just
  letting others run. Then its next visit begins the try (`Continues`), and under punctual visits no
  time passes until then. -/
  begun : ∀ k, options.looping = true ∨ k < count →
    (∀ connection, answer ≠ .ready (.ok connection)) →
    origin + options.due k < now ∨ origin + options.due k = now ∧
      (∀ state, answer = .pending state → state.phase ≠ .rewound) →
    k < (starts log).length

theorem OnTimetable.scheduled {options : SequentialOptions} {origin now : Instant} {count : Nat}
    {kind : Nat → String} {start : σ} {answer : Poll (State σ)} {log : List (Sight σ)}
    (h : OnTimetable options origin count now answer log)
    (haccount : Account options count kind start now answer log) :
    Scheduled options count origin now answer log := by
  cases answer with
  | pending state =>
    refine ⟨h.timetable, fun k _ _ hdue => Nat.lt_of_not_le fun hle => ?_⟩
    have hmono : origin + options.due (starts log).length ≤ origin + options.due k :=
      Nat.add_le_add_left (options.due_mono hle) origin
    rcases hdue with hlate | ⟨hnow, hbusy⟩
    · exact absurd (Nat.le_trans h.before hmono) (Nat.not_le.mpr hlate)
    · exact hbusy state rfl (h.rewound (Nat.le_antisymm h.before (hnow ▸ hmono)))
  | ready result =>
    refine ⟨h, fun k htry hlost _ => ?_⟩
    cases haccount with
    | connected _ => exact absurd rfl (hlost _)
    | exhausted hv honce hlength =>
      rw [hv.length_starts, hlength]
      exact htry.resolve_left (by simp [honce])

end Sequence

section

open Sequence

variable {options : SequentialOptions} {count : Nat} {kind : Nat → String} {child : Nat → Poller}
  {between : World → World → Prop} {w₀ : World}

theorem Punctual.awaits {visit : Visit} {state : State Progress} {w : World}
    (h : Punctual visit (.ofSequence state) w) :
    state.phase.Awaits visit.before.now w.now := by
  have hawaited := h.awaited
  have hprompt := h.prompt
  rw [Progress.ofSequence, Progress.timers] at hawaited
  rw [Progress.ofSequence, Progress.isYielding] at hprompt
  cases hphase : state.phase with
  | trying deadline p =>
    rintro timer hm
    rw [hphase, Progress.timersPhase] at hawaited
    exact hawaited timer (List.mem_append_left _ (Option.mem_toList.mpr hm))
  | waitingOut timer =>
    rw [hphase, Progress.timersPhase] at hawaited
    exact hawaited timer (List.mem_singleton_self _)
  | rewound =>
    rw [hphase] at hprompt
    exact hprompt rfl

/-- A sequence that is visited punctually keeps to the timetable. -/
theorem Run.timed (hcount : 0 < count) {visits : List Visit} {outcome : Poll Progress}
    (run : Run between (pollSequential options count kind child) w₀ visits outcome) :
    ∃ visit earlier answer log, visits = visit :: earlier ∧
      outcome = answer.map Progress.ofSequence ∧
      Watched (settingAt options count kind child) visits answer log ∧
      (options.firstBound.isSome = true →
        PunctualRun (pollSequential options count kind child) w₀ visits outcome →
        OnTimetable options w₀.now count visit.before.now answer log) := by
  induction run with
  | first =>
    obtain ⟨hanswer, hworld⟩ := first_watched_fst (settingAt options count kind child w₀) w₀ []
    have hwatched : Watched (settingAt options count kind child) _ _ _ := .first w₀
    rw [hanswer, hworld] at hwatched
    refine ⟨_, [], (Sequence.first (settingAt options count kind child w₀) w₀).1, _, rfl, rfl,
      hwatched, fun hbounded _ => ?_⟩
    have htimed : (settingAt options count kind child w₀).Timed w₀.now _ :=
      first_timed hbounded hcount w₀
    rw [Setting.Timed, hanswer] at htimed
    exact htimed
  | @again visit earlier p w run _ ih =>
    obtain ⟨visit, earlier, answer, log, hvisits, hp, hwatched, htimed⟩ := ih
    obtain ⟨rfl, rfl⟩ := List.cons.inj hvisits
    cases answer with
    | ready result => cases hp
    | pending state =>
      obtain rfl : p = .ofSequence state := Poll.pending.inj hp
      obtain ⟨hanswer, hworld⟩ :=
        poll_watched_fst (settingAt options count kind child w) state w log
      have hagain := hwatched.again w
      rw [hanswer, hworld] at hagain
      refine ⟨_, _, (poll (settingAt options count kind child w) state w).1, _, rfl, rfl, hagain,
        fun hbounded hpunctual => ?_⟩
      obtain ⟨hbefore, hlatest⟩ := hpunctual.latest run
      have hnow : (settingAt options count kind child w).Timed w₀.now _ :=
        poll_timed hbounded w ((htimed hbounded hbefore).resumes w.now hlatest.awaits)
      rw [Setting.Timed, hanswer] at hnow
      exact hnow

/-- The tries of any sequence have the bounds that its options ask for, through all its rounds, and
no length of time on the way is too great. Whatever the children do, if tries are bounded and
visits punctual, every try begins when the bounds of all tries before it are over: exactly then, if
the sequence waits out the bounds, and by then if it goes on at once after a failure. -/
theorem sequential_schedule (hcount : 0 < count) {visits : List Visit} {outcome : Poll Progress}
    (run : Run between (pollSequential options count kind child) w₀ visits outcome) :
    options.Escalates ∧ ∃ visit earlier answer log, visits = visit :: earlier ∧
      outcome = answer.map Progress.ofSequence ∧
      Watched (settingAt options count kind child) visits answer log ∧
      Continues (settingAt options count kind child) visits answer log ∧
      Account options count kind .unstarted visit.before.now answer log ∧
      (options.firstBound.isSome = true →
        PunctualRun (pollSequential options count kind child) w₀ visits outcome →
        Scheduled options count w₀.now visit.before.now answer log) := by
  obtain ⟨visit, earlier, answer, log, rfl, ho, hwatched, htimed⟩ := run.timed hcount
  have hcontinues := hwatched.continues hcount
  obtain ⟨_, _, hvisits, haccounted⟩ := hwatched.accounted hcount
  obtain ⟨rfl, rfl⟩ := List.cons.inj hvisits
  exact ⟨options.escalates, visit, earlier, answer, log, rfl, ho, hwatched, hcontinues,
    haccounted.account,
    fun hbounded hpunctual => (htimed hbounded hpunctual).scheduled haccounted.account⟩

end

/-- The first try may take a second, and each one after it a second and a half. -/
def patientOptions : SequentialOptions := ⟨true, some 1000, some 1500, false⟩

def patientChildren : List Strategy := [.transport ⟨"a", "a", 0, 0, [], none⟩]

/-- The child fails at once, and never answers when it is tried again. -/
def patientWorld : World :=
  .initial 0 [⟨"a", true, true, .scripted [.fail 0 (.connection "refused"), .hang]⟩] []

def patientPoller : Poller := (Strategy.sequential patientOptions patientChildren).poll .plain

/-- The time of the first try is waited out. -/
def patientWait : Progress :=
  .sequencing 0 (some (Duration.ofMillis 1000)) [.connection "refused"]
    (.waitingOut ⟨Duration.ofMillis 1000, 0⟩)

/-- The world in which the first try has had its second. -/
def patientLater : World :=
  { (patientPoller .unstarted patientWorld).2 with now := Duration.ofMillis 1000 }

/-- The first round is over. -/
def patientPause : Progress := .sequencing 0 (some (Duration.ofMillis 1500)) [] .rewound

/-- What is in progress when the child is tried again. -/
def patientOpen : Sequence.State Progress :=
  ⟨0, some (Duration.ofMillis 1500), [],
    .trying (some ⟨Duration.ofMillis 1000 + Duration.ofMillis 1500, 0⟩)
      (.opening 2 (Duration.ofMillis 1000) none)⟩

/-- Although the first try has failed at once, the second one begins a second after it, in the
second round. -/
theorem sequential_schedule_second_round :
    ∃ visits log,
      PunctualRun patientPoller patientWorld visits (.pending (.ofSequence patientOpen)) ∧
      Sequence.Scheduled patientOptions 1 0 (Duration.ofMillis 1000) (.pending patientOpen) log ∧
      (Sequence.starts log)[1]? = some (Duration.ofMillis 1000) := by
  have started : PunctualRun patientPoller patientWorld
      [⟨patientWorld, (patientPoller .unstarted patientWorld).2⟩] (.pending patientWait) := .first
  have paused := started.again (w := patientLater)
    ⟨Nat.zero_le _, List.forall_mem_singleton.mpr (Nat.le_refl _), nofun⟩
  have hpause : (patientPoller patientWait patientLater).1 = .pending patientPause := by
    have hbound : patientOptions.nextBound (some (Duration.ofMillis 1000)) =
      some (Duration.ofMillis 1500) := by decide
    rw [patientPause, ← hbound]
    rfl
  rw [hpause] at paused
  have run := paused.again (w := patientLater) ⟨Nat.le_refl _, nofun, fun _ => rfl⟩
  have hopen : (patientPoller patientPause patientLater).1 = .pending (.ofSequence patientOpen) :=
    rfl
  rw [hopen] at run
  obtain ⟨-, visit, earlier, answer, log, hvisits, ho, -, -, -, hscheduled⟩ :=
    sequential_schedule (by decide : 0 < 1) run.run
  obtain ⟨rfl, -⟩ := List.cons.inj hvisits
  obtain rfl : answer = .pending patientOpen := by
    cases answer with
    | pending state =>
      obtain ⟨index, bound, failures, phase⟩ := state
      cases ho
      rfl
    | ready result => cases ho
  have hscheduled := hscheduled rfl run
  -- the second try is due now, and the sequence has gone on to it
  have hbegun : 1 < (Sequence.starts log).length :=
    hscheduled.begun 1 (.inl rfl) nofun (.inr ⟨by decide, fun state hs => by cases hs; nofun⟩)
  refine ⟨_, log, run, hscheduled, ?_⟩
  rw [List.getElem?_eq_getElem hbegun]
  exact congrArg some (hscheduled.timetable 1 _ (List.getElem?_eq_getElem hbegun))

end Dialplan
