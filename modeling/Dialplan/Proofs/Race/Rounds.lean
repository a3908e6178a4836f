import Dialplan.Proofs.Polling.Rules
import Dialplan.Proofs.Race.Watch

/-! Rounds of turns. A pass over a watched race logs one round, in which the running
children are polled in the order of turns up to the first success; a poll logs rounds one
after the other. What they come to agrees with the log. -/

namespace Dialplan.Race

variable {σ ω : Type}

/-- One round of turns after a log. Of the children that are out, those that have not
resolved are polled in the order of turns, up to the first success. -/
structure Round (start : σ) (count : Nat) (lead : Option Nat) (past : Bool)
    (log round : List (Look σ)) : Prop where
  turns : round.map Look.child <+:
    (out count lead past log).filter fun i => (stateAfter start log i).isSome
  all : winner? round = none → round.map Look.child =
    (out count lead past log).filter fun i => (stateAfter start log i).isSome

/-- The rounds of one poll, each after those before it. -/
def Rounds (start : σ) (count : Nat) (lead : Option Nat) (past : Bool) :
    List (Look σ) → List (List (Look σ)) → Prop
  | _, [] => True
  | log, round :: rest =>
    Round start count lead past log round ∧
      Rounds start count lead past (log ++ round) rest

/-- The log ends with the first success: child `i` connected. -/
def EndsWon (start : σ) (count : Nat) (lead : Option Nat) (past : Bool) (i : Nat)
    (connection : Connection) (log : List (Look σ)) : Prop :=
  ∃ before s state, log = before ++ [⟨i, s, .ready (.ok connection)⟩] ∧
    Agrees start count lead past state before ∧ state.slots[i]? = some (.running s)

/-- What an outcome says of the log of the race. -/
def Concludes (start : σ) (count : Nat) (lead : Option Nat) (past : Bool) :
    Outcome σ → List (Look σ) → Prop
  | .pending state, log => Agrees start count lead past state log
  | .won i connection _, log => EndsWon start count lead past i connection log
  | .lost failures, log => ∃ state, Agrees start count lead past state log ∧
      state.slots.all Slot.isFailed = true ∧ failures = state.failures

theorem EndsWon.winner?_eq {start : σ} {count : Nat} {lead : Option Nat} {past : Bool} {i : Nat}
    {connection : Connection} {log : List (Look σ)}
    (h : EndsWon start count lead past i connection log) :
    winner? log = some (i, connection) := by
  obtain ⟨before, s, state, rfl, ha, -⟩ := h
  rw [winner?_snoc ha.unwon]
  rfl

section

variable (child : Nat → σ → ω → Poll σ × ω) {start : σ} {count : Nat} {lead : Option Nat}
  {past : Bool}

/-- What a pass over the children `turns` logs, and what it comes to. -/
def PassLogs (start : σ) (count : Nat) (lead : Option Nat) (past : Bool) (turns : List Nat)
    (log : List (Look σ)) (result : Pass σ × (ω × List (Look σ))) : Prop :=
  ∃ round, result.2.2 = log ++ round ∧
    match result.1 with
    | .finished state _ => round.map Look.child = turns ∧
        Agrees start count lead past state (log ++ round)
    | .won i connection _ => round.map Look.child <+: turns ∧
        EndsWon start count lead past i connection (log ++ round)

theorem PassLogs.cons {look : Look σ} {turns : List Nat} {log : List (Look σ)}
    {result : Pass σ × (ω × List (Look σ))}
    (h : PassLogs start count lead past turns (log ++ [look]) result) :
    PassLogs start count lead past (look.child :: turns) log result := by
  obtain ⟨round, hlog, hr⟩ := h
  refine ⟨look :: round, by simpa using hlog, ?_⟩
  obtain ⟨pass, w, final⟩ := result
  cases pass with
  | finished state progressed =>
    obtain ⟨hturns, ha⟩ := hr
    exact ⟨by rw [List.map_cons, hturns], by simpa using ha⟩
  | won i connection state =>
    obtain ⟨hturns, hw⟩ := hr
    exact ⟨by rw [List.map_cons]; exact List.cons_prefix_cons.mpr ⟨rfl, hturns⟩,
      by simpa using hw⟩

/-- A pass logs the turns of the running children, up to the first success. -/
theorem pass_watched : ∀ (rest : List Nat) {state : State σ} (progressed : Bool) (w : ω)
    {log : List (Look σ)}, rest.Nodup → Agrees start count lead past state log →
    PassLogs start count lead past (rest.filter state.runs) log
      (pass (watched child) rest state progressed (w, log))
  | [], _, _, _, _, _, h => ⟨[], by simp [pass], rfl, by simpa using h⟩
  | i :: rest, state, progressed, w, log, hnd, h => by
    obtain ⟨hi, hnd⟩ := List.nodup_cons.mp hnd
    -- a look at `i` leaves the children that come after it as they are
    have hlater : ∀ look : Look σ, look.child = i →
        rest.filter (state.looked look).runs = rest.filter state.runs := by
      rintro look rfl
      refine List.filter_congr fun j hj => ?_
      have hne : look.child ≠ j := fun he => hi (he ▸ hj)
      simp [State.runs, State.looked, List.getElem?_set_ne hne]
    cases hr : state.runs i with
    | false =>
      have hskip : pass (watched child) (i :: rest) state progressed (w, log) =
          pass (watched child) rest state progressed (w, log) := by
        rw [pass]
        split
        · rename_i s hs
          rw [State.runs_iff.mpr ⟨s, hs⟩] at hr
          cases hr
        · rfl
      rw [hskip, List.filter_cons_of_neg (by simp [hr])]
      exact pass_watched rest progressed w hnd h
    | true =>
      obtain ⟨s, hs⟩ := State.runs_iff.mp hr
      rw [List.filter_cons_of_pos hr]
      simp only [pass, hs, watched]
      rcases child i s w with ⟨answer, w'⟩
      cases answer with
      | pending s' =>
        have hl := h.look ⟨i, s, .pending s'⟩ hs rfl
        have hp := pass_watched rest progressed w' hnd hl
        rw [hlater _ rfl] at hp
        simpa [State.looked, Look.error?, Slot.after] using hp.cons
      | ready result =>
        cases result with
        | error e =>
          have hl := h.look ⟨i, s, .ready (.error e)⟩ hs rfl
          have hp := pass_watched rest true w' hnd hl
          rw [hlater _ rfl] at hp
          simpa [State.looked, Look.error?, Slot.after] using hp.cons
        | ok connection =>
          exact ⟨[⟨i, s, .ready (.ok connection)⟩], rfl, by simp, log, s, state, rfl, h, hs⟩

/-- What a poll, or the rest of one, logs, and what it comes to. -/
def PollLogs (start : σ) (count : Nat) (lead : Option Nat) (past : Bool)
    (log : List (Look σ)) (result : Outcome σ × (ω × List (Look σ))) : Prop :=
  ∃ rounds : List (List (Look σ)), result.2.2 = log ++ rounds.flatten ∧
    Rounds start count lead past log rounds ∧
    Concludes start count lead past result.1 (log ++ rounds.flatten)

theorem PollLogs.after {round log : List (Look σ)} {result : Outcome σ × (ω × List (Look σ))}
    (hr : Round start count lead past log round)
    (h : PollLogs start count lead past (log ++ round) result) :
    PollLogs start count lead past log result := by
  obtain ⟨rounds, hlog, hrounds, hc⟩ := h
  exact ⟨round :: rounds, by simpa using hlog, ⟨hr, hrounds⟩, by simpa using hc⟩

/-- Passes log rounds. The first pass counts the elapsed head start, so there is one, unless
that has been counted before. -/
theorem passes_watched (elapsed : Bool) : ∀ (fuel : Nat) {past : Bool} {state : State σ} (w : ω)
    {log : List (Look σ)}, (fuel = 0 → (past || elapsed) = past) →
    Agrees start count lead past state log →
    PollLogs start count lead (past || elapsed) log
      (passes (watched child) start elapsed fuel state (w, log))
  | 0, past, state, w, log, hf, h =>
    ⟨[], by simp [passes], trivial, by simpa [passes, Concludes, hf rfl] using h⟩
  | fuel + 1, past, state, w, log, _, h => by
    rw [passes]
    obtain ⟨h, hrun⟩ := h.releases elapsed
    generalize (if state.releases elapsed then state.release start else state) = state at h hrun
    have hp := pass_watched child state.order false w
      (by rw [h.order]; exact turnOrder_nodup count lead) h
    rw [h.turns hrun] at hp
    generalize pass (watched child) state.order state false (w, log) = passed at hp
    obtain ⟨result, w', log'⟩ := passed
    obtain ⟨round, hlog, hresult⟩ := hp
    have hlog : log' = log ++ round := hlog
    subst hlog
    cases result with
    | won i connection state' =>
      obtain ⟨hturns, hw⟩ := hresult
      -- the log was unwon before this round, so the success is in it
      have hsome : winner? round ≠ none := by
        intro hn
        have := hw.winner?_eq
        rw [winner?, List.findSome?_append] at this
        rw [winner?] at hn
        have hlog := h.unwon
        rw [winner?] at hlog
        simp [hlog, hn] at this
      exact PollLogs.after ⟨hturns, fun hn => absurd hn hsome⟩
        ⟨[], by simp, trivial, by simpa [Concludes] using hw⟩
    | finished state' progressed =>
      obtain ⟨hall, ha⟩ := hresult
      refine PollLogs.after ⟨hall ▸ List.prefix_rfl, fun _ => hall⟩ ?_
      dsimp only
      split
      · rename_i hlost
        have hfailed := (Bool.and_eq_true_iff.mp hlost).2
        exact ⟨[], by simp, trivial, state', by simpa using ha, hfailed, rfl⟩
      · split
        · have hagain := passes_watched elapsed fuel w' (by simp) ha
          simpa using hagain
        · exact ⟨[], by simp, trivial, by simpa [Concludes] using ha⟩

theorem poll_watched (elapsed : Bool) {state : State σ} (w : ω) {log : List (Look σ)}
    (h : Agrees start count lead past state log) :
    PollLogs start count lead (past || elapsed) log
      (poll (watched child) start elapsed state (w, log)) :=
  passes_watched child elapsed _ w (by simp) h

/-! ### Watching changes nothing -/

section

variable {α : Type} (write : Nat → σ → ω → α)

theorem pass_logged_fst : ∀ (rest : List Nat) (state : State σ) (progressed : Bool) (w : ω)
    (log : List α),
    (pass (logged child write) rest state progressed (w, log)).1 =
        (pass child rest state progressed w).1 ∧
      (pass (logged child write) rest state progressed (w, log)).2.1 =
        (pass child rest state progressed w).2
  | [], _, _, _, _ => ⟨rfl, rfl⟩
  | i :: rest, state, progressed, w, log => by
    simp only [pass, logged]
    cases state.slots[i]? with
    | none => exact pass_logged_fst rest state progressed w log
    | some slot =>
      cases slot with
      | running s =>
        dsimp only
        rcases child i s w with ⟨answer, w'⟩
        cases answer with
        | pending s' => exact pass_logged_fst rest _ _ _ _
        | ready result =>
          cases result with
          | error e => exact pass_logged_fst rest _ _ _ _
          | ok connection => exact ⟨rfl, rfl⟩
      | _ => exact pass_logged_fst rest state progressed w log

theorem passes_logged_fst (elapsed : Bool) : ∀ (fuel : Nat) (state : State σ) (w : ω)
    (log : List α),
    (passes (logged child write) start elapsed fuel state (w, log)).1 =
        (passes child start elapsed fuel state w).1 ∧
      (passes (logged child write) start elapsed fuel state (w, log)).2.1 =
        (passes child start elapsed fuel state w).2
  | 0, _, _, _ => ⟨rfl, rfl⟩
  | fuel + 1, state, w, log => by
    simp only [passes]
    generalize (if state.releases elapsed then state.release start else state) = state
    obtain ⟨hfst, hsnd⟩ := pass_logged_fst child write state.order state false w log
    generalize pass child state.order state false w = bare at hfst hsnd
    generalize pass (logged child write) state.order state false (w, log) = seen at hfst hsnd
    obtain ⟨result, w'⟩ := bare
    obtain ⟨result', w'', log'⟩ := seen
    obtain rfl : result' = result := hfst
    obtain rfl : w'' = w' := hsnd
    cases result' with
    | won i connection state' => exact ⟨rfl, rfl⟩
    | finished state' progressed =>
      dsimp only
      split
      · exact ⟨rfl, rfl⟩
      · split
        · exact passes_logged_fst elapsed fuel _ _ _
        · exact ⟨rfl, rfl⟩

/-- A race that keeps a log comes to the same outcome in the same world. -/
theorem poll_logged_fst (start : σ) (elapsed : Bool) (state : State σ) (w : ω) (log : List α) :
    (poll (logged child write) start elapsed state (w, log)).1 =
        (poll child start elapsed state w).1 ∧
      (poll (logged child write) start elapsed state (w, log)).2.1 =
        (poll child start elapsed state w).2 :=
  passes_logged_fst child write elapsed _ state w log

end

theorem pass_watched_fst (rest : List Nat) (state : State σ) (progressed : Bool) (w : ω)
    (log : List (Look σ)) :
    (pass (watched child) rest state progressed (w, log)).1 =
        (pass child rest state progressed w).1 ∧
      (pass (watched child) rest state progressed (w, log)).2.1 =
        (pass child rest state progressed w).2 :=
  pass_logged_fst child (fun i s w => (⟨i, s, (child i s w).1⟩ : Look σ)) rest state progressed w
    log

/-- A watched race comes to the same outcome in the same world. -/
theorem poll_watched_fst (start : σ) (elapsed : Bool) (state : State σ) (w : ω)
    (log : List (Look σ)) :
    (poll (watched child) start elapsed state (w, log)).1 =
        (poll child start elapsed state w).1 ∧
      (poll (watched child) start elapsed state (w, log)).2.1 =
        (poll child start elapsed state w).2 :=
  poll_logged_fst child (fun i s w => (⟨i, s, (child i s w).1⟩ : Look σ)) start elapsed state w
    log

end

end Dialplan.Race
