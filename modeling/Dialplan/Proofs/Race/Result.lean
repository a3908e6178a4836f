import Dialplan.Connect.Node
import Dialplan.Proofs.Race.Rounds

/-! What a race comes to. A race is polled at moments, whose worlds and head starts are
arbitrary: they stand for all that may happen between polls. The main statement,
`run_account`, ties the outcome to the log of the children's polls. -/

namespace Dialplan.Race

variable {σ ω : Type}

/-- A moment at which a race is polled: whether the head start is over, and the world. -/
structure Moment (ω : Type) where
  elapsed : Bool
  world : ω

/-- Polls a race at one moment after the other, until it is over. -/
def run (child : Nat → σ → ω → Poll σ × ω) (start : σ) : State σ → List (Moment ω) → Outcome σ
  | state, [] => .pending state
  | state, moment :: rest =>
    match poll child start moment.elapsed state moment.world with
    | (.pending state, _) => run child start state rest
    | (outcome, _) => outcome

/-- Polls a watched race, with a log so far. -/
def runLog (child : Nat → σ → ω → Poll σ × ω) (start : σ) :
    State σ → List (Look σ) → List (Moment ω) → Outcome σ × List (Look σ)
  | state, log, [] => (.pending state, log)
  | state, log, moment :: rest =>
    match poll (watched child) start moment.elapsed state (moment.world, log) with
    | (.pending state, _, log) => runLog child start state log rest
    | (outcome, _, log) => (outcome, log)

/-- The polls of a race at moments, each with its rounds. Once a head start is over it
stays over. -/
def Polls (start : σ) (count : Nat) (lead : Option Nat) :
    Bool → List (Look σ) → List (Moment ω) → List (List (List (Look σ))) → Prop
  | _, _, _, [] => True
  | _, _, [], _ :: _ => False
  | past, log, moment :: moments, rounds :: polls =>
    Rounds start count lead (past || moment.elapsed) log rounds ∧
      Polls start count lead (past || moment.elapsed) (log ++ rounds.flatten) moments polls

/-- Who won, with which connection. -/
def Outcome.winner? : Outcome σ → Option (Nat × Connection)
  | .won i connection _ => some (i, connection)
  | _ => none

section

variable {child : Nat → σ → ω → Poll σ × ω} {start : σ} {count : Nat} {lead : Option Nat}
  {past : Bool}

theorem runLog_fst : ∀ (moments : List (Moment ω)) (state : State σ) (log : List (Look σ)),
    (runLog child start state log moments).1 = run child start state moments
  | [], _, _ => rfl
  | moment :: rest, state, log => by
    have hw := (poll_watched_fst child start moment.elapsed state
      moment.world log).1
    rw [runLog, run]
    generalize poll (watched child) start moment.elapsed state (moment.world, log) = seen at hw
    generalize poll child start moment.elapsed state moment.world = bare at hw
    obtain ⟨outcome, w, log'⟩ := seen
    obtain ⟨outcome', w'⟩ := bare
    obtain rfl : outcome = outcome' := hw
    cases outcome with
    | pending state' => exact runLog_fst rest state' log'
    | won i connection state' => rfl
    | lost failures => rfl

theorem runLog_append {state state' : State σ} {log log' : List (Look σ)} :
    ∀ {quiet : List (Moment ω)} (rest : List (Moment ω)),
      runLog child start state log quiet = (.pending state', log') →
      runLog child start state log (quiet ++ rest) = runLog child start state' log' rest := by
  intro quiet rest h
  induction quiet generalizing state log with
  | nil =>
    obtain ⟨hs, rfl⟩ := Prod.mk.inj h
    obtain rfl := Outcome.pending.inj hs
    rfl
  | cons moment quiet ih =>
    rw [List.cons_append, runLog]
    rw [runLog] at h
    generalize poll (watched child) start moment.elapsed state (moment.world, log) = seen at h ⊢
    obtain ⟨outcome, w, between⟩ := seen
    cases outcome with
    | pending state => exact ih h
    | won i connection state => cases h
    | lost failures => cases h

theorem runLog_singleton (state : State σ) (log : List (Look σ)) (moment : Moment ω) :
    runLog child start state log [moment] =
      ((poll (watched child) start moment.elapsed state (moment.world, log)).1,
        (poll (watched child) start moment.elapsed state (moment.world, log)).2.2) := by
  rw [runLog]
  generalize poll (watched child) start moment.elapsed state (moment.world, log) = polled
  obtain ⟨outcome, w, log'⟩ := polled
  cases outcome with
  | pending state => rfl
  | won i connection state => rfl
  | lost failures => rfl

theorem run_singleton (state : State σ) (moment : Moment ω) :
    run child start state [moment] = (poll child start moment.elapsed state moment.world).1 := by
  rw [run]
  generalize poll child start moment.elapsed state moment.world = polled
  obtain ⟨outcome, w⟩ := polled
  cases outcome with
  | pending state => rfl
  | won i connection state => rfl
  | lost failures => rfl

theorem run_append {state state' : State σ} : ∀ {quiet : List (Moment ω)}
    (rest : List (Moment ω)), run child start state quiet = .pending state' →
    run child start state (quiet ++ rest) = run child start state' rest := by
  intro quiet rest h
  rw [← runLog_fst _ _ []] at h ⊢
  rw [runLog_append rest (Prod.ext h rfl), runLog_fst]

/-- A run logs the rounds of its polls, and comes to what its log says. -/
theorem runLog_logs (child : Nat → σ → ω → Poll σ × ω) : ∀ (moments : List (Moment ω))
    {past : Bool} {state : State σ} {log : List (Look σ)}, Agrees start count lead past state log →
    ∃ (polls : List (List (List (Look σ)))) (past' : Bool),
      (runLog child start state log moments).2 = log ++ polls.flatten.flatten ∧
      Polls start count lead past log moments polls ∧
      ((∀ moment ∈ moments, moment.elapsed = false) → past' = past) ∧
      Concludes start count lead past' (runLog child start state log moments).1
        (runLog child start state log moments).2
  | [], past, state, log, h => ⟨[], past, by simp [runLog], trivial, fun _ => rfl, h⟩
  | moment :: rest, past, state, log, h => by
    obtain ⟨rounds, hlog, hr, hc⟩ := poll_watched child moment.elapsed moment.world h
    rw [← hlog] at hc
    rw [runLog]
    generalize poll (watched child) start moment.elapsed state (moment.world, log) = seen
      at hlog hc
    obtain ⟨outcome, w, log'⟩ := seen
    obtain rfl : log' = log ++ rounds.flatten := hlog
    have hquiet : (∀ m ∈ moment :: rest, m.elapsed = false) →
        (past || moment.elapsed) = past := by
      intro hq
      rw [hq moment (by simp), Bool.or_false]
    cases outcome with
    | pending state' =>
      obtain ⟨polls, past', hlog', hp, hq', hc'⟩ := runLog_logs child rest hc
      refine ⟨rounds :: polls, past', ?_, ⟨hr, hp⟩, fun hq => ?_, hc'⟩
      · dsimp only
        rw [hlog', List.flatten_cons, List.flatten_append, List.append_assoc]
      · rw [hq' fun m hm => hq m (List.mem_cons_of_mem _ hm), hquiet hq]
    | won i connection state' => exact ⟨[rounds], _, by simp, ⟨hr, by simp [Polls]⟩, hquiet, hc⟩
    | lost failures => exact ⟨[rounds], _, by simp, ⟨hr, by simp [Polls]⟩, hquiet, hc⟩

/-- A child that wins is one of those that race. -/
theorem lt_of_run_won {i : Nat} {connection : Connection} {state : State σ}
    {moments : List (Moment ω)} (hlead : ∀ l, lead = some l → l < count)
    (h : run child start (.initial count lead start) moments = .won i connection state) :
    i < count := by
  obtain ⟨-, past, -, -, -, hc⟩ := runLog_logs child moments (Agrees.initial start count lead hlead)
  rw [runLog_fst, h] at hc
  obtain ⟨before, s, state', -, ha, hs⟩ := hc
  exact ha.length ▸ (List.getElem?_eq_some_iff.mp hs).1

theorem Concludes.winner?_eq {outcome : Outcome σ} {log : List (Look σ)}
    (h : Concludes start count lead past outcome log) : winner? log = outcome.winner? := by
  cases outcome with
  | pending state => exact h.unwon
  | won i connection state => exact EndsWon.winner?_eq h
  | lost failures =>
    obtain ⟨state, ha, -, -⟩ := h
    exact ha.unwon

theorem Concludes.continuous {outcome : Outcome σ} {log : List (Look σ)}
    (h : Concludes start count lead past outcome log) : Continuous start log := by
  cases outcome with
  | pending state => exact Agrees.continuous h
  | won i connection state =>
    obtain ⟨before, s, state', rfl, ha, hs⟩ := h
    exact ha.continuous.snoc (ha.running i s hs)
  | lost failures =>
    obtain ⟨state, ha, -, -⟩ := h
    exact ha.continuous

/-- Nothing is polled after a success. -/
theorem Concludes.stops {outcome : Outcome σ} {log before after : List (Look σ)} {look : Look σ}
    (h : Concludes start count lead past outcome log) (hl : log = before ++ look :: after)
    (hs : look.connection? ≠ none) : after = [] := by
  have hquiet : ∀ {l : List (Look σ)}, winner? l = none → look ∈ l → False := by
    intro l hn hm
    have := List.findSome?_eq_none_iff.mp hn look hm
    cases hc : look.connection? with
    | none => exact hs hc
    | some connection => simp [hc] at this
  have hm : look ∈ log := by simp [hl]
  cases outcome with
  | pending state => exact (hquiet (Agrees.unwon h) hm).elim
  | lost failures =>
    obtain ⟨state, ha, -, -⟩ := h
    exact (hquiet ha.unwon hm).elim
  | won i connection state =>
    obtain ⟨first, s, state', rfl, ha, -⟩ := h
    rcases append_singleton_split hl with ⟨rfl, rfl⟩ | ⟨rest, -, rfl⟩
    · simpa using hl
    · exact (hquiet ha.unwon (by simp)).elim

/-- When a race is lost, every child has failed, once. -/
theorem Concludes.lost {failed : List Error} {log : List (Look σ)}
    (h : Concludes start count lead past (.lost failed) log) :
    failed = errors log ∧ (failures log).Perm (List.range count) := by
  obtain ⟨state, ha, hall, rfl⟩ := h
  refine ⟨ha.failures, ?_⟩
  refine (List.perm_ext_iff_of_nodup (failures_nodup ha.continuous) List.nodup_range).mpr ?_
  intro i
  rw [← ha.failed i, List.mem_range]
  constructor
  · exact fun hs => ha.length ▸ (List.getElem?_eq_some_iff.mp hs).1
  · intro hi
    have hi : i < state.slots.length := ha.length ▸ hi
    have hf := List.all_eq_true.mp hall _ (List.getElem_mem hi)
    refine List.getElem?_eq_some_iff.mpr ⟨hi, ?_⟩
    cases hs : state.slots[i] with
    | failed => rfl
    | _ => simp [hs, Slot.isFailed] at hf

/-- While no head start has elapsed, the children behind a lead wait until it fails. -/
theorem Concludes.heldBack {outcome : Outcome σ} {log : List (Look σ)} {l : Nat}
    (h : Concludes start count lead false outcome log) (hl : lead = some l) : HeldBack l log := by
  cases outcome with
  | pending state => exact (Agrees.patient h rfl l hl).2
  | lost failures =>
    obtain ⟨state, ha, -, -⟩ := h
    exact (ha.patient rfl l hl).2
  | won i connection state =>
    obtain ⟨before, s, state', rfl, ha, hs⟩ := h
    obtain ⟨hp, hb⟩ := ha.patient rfl l hl
    exact hb.snoc fun hne => hp.resolve_left fun hh => hne (ha.lead_of_running hh hl hs)

/-- While no head start has elapsed and the lead has not resolved, only the lead runs. -/
theorem Concludes.waiting {outcome : Outcome σ} {log : List (Look σ)} {l : Nat} {s : σ}
    (h : Concludes start count lead false outcome log) (hl : lead = some l)
    (hs : stateAfter start log l = some s) :
    ∃ state, outcome = .pending state ∧ Agrees start count lead false state log ∧
      state.holding = true ∧ state.slots[l]? = some (.running s) := by
  have hnot : l ∉ failures log := fun hf => by
    rw [stateAfter_of_failed h.continuous hf] at hs
    cases hs
  cases outcome with
  | pending state =>
    have ha : Agrees start count lead false state log := h
    obtain ⟨hlt, hheld⟩ := ha.leading l hl
    have hlt' : l < state.slots.length := ha.length ▸ hlt
    refine ⟨state, rfl, ha, (ha.patient rfl l hl).1.resolve_right hnot, ?_⟩
    cases hslot : state.slots[l] with
    | held => exact absurd (List.getElem?_eq_some_iff.mpr ⟨hlt', hslot⟩) hheld
    | failed =>
      exact absurd ((ha.failed l).mp (List.getElem?_eq_some_iff.mpr ⟨hlt', hslot⟩)) hnot
    | running s' =>
      have hslot := List.getElem?_eq_some_iff.mpr ⟨hlt', hslot⟩
      rw [ha.running l s' hslot] at hs
      rw [hslot, Option.some.inj hs]
  | lost failures =>
    have hperm := h.lost.2
    obtain ⟨state, ha, -, -⟩ := h
    exact absurd (hperm.symm.subset (List.mem_range.mpr (ha.leading l hl).1)) hnot
  | won i connection state =>
    have hall := h.heldBack hl |>.all hnot
    obtain ⟨before, s', state', rfl, ha, -⟩ := h
    rw [stateAfter_snoc, if_pos (hall ⟨i, s', .ready (.ok connection)⟩ (by simp))] at hs
    cases hs

/-- A lead that runs wins when it connects at the first look of a poll. -/
theorem poll_lead {state : State σ} {w w' : ω} {log : List (Look σ)} {l : Nat} {s : σ}
    {connection : Connection} (elapsed : Bool)
    (ha : Agrees start count lead past state log) (hl : lead = some l)
    (hs : state.slots[l]? = some (.running s))
    (hc : child l s w = (.ready (.ok connection), w')) :
    ∃ state', poll (watched child) start elapsed state (w, log) =
      (.won l connection state', w', log ++ [⟨l, s, .ready (.ok connection)⟩]) := by
  have horder := ha.order
  rw [hl, turnOrder] at horder
  unfold poll
  rw [passes]
  have hslot : (if state.releases elapsed then state.release start else state).slots[l]? =
      some (.running s) := by
    split
    · simp [State.release, hs, Slot.release]
    · exact hs
  have horder' : (if state.releases elapsed then state.release start else state).order =
      l :: (List.range count).filter (· ≠ l) := by
    split
    · exact horder
    · exact horder
  generalize (if state.releases elapsed then state.release start else state) = state'
    at hslot horder'
  rw [horder', pass, hslot]
  simp only [watched, hc]
  exact ⟨_, rfl⟩

end

/-! ### The account of a race -/

/-- The account of a race of `count` children: how its outcome and the log of its children's
polls belong together. -/
structure Account (child : Nat → σ → ω → Poll σ × ω) (start : σ) {count : Nat}
    (lead : Option (Fin count)) (moments : List (Moment ω)) (outcome : Outcome σ)
    (log : List (Look σ)) : Prop where
  /-- No child is started twice, and none is polled again after it resolved. -/
  continuous : Continuous start log
  /-- The race is won exactly by the first success. -/
  won : winner? log = outcome.winner?
  /-- No child is polled after a success. -/
  stops : ∀ before look after, log = before ++ look :: after →
    look.connection? ≠ none → after = []
  /-- Every pass polls the lead first and then the other running children as listed. -/
  turns : ∃ polls : List (List (List (Look σ))), log = polls.flatten.flatten ∧
    Polls start count (lead.map Fin.val) false [] moments polls
  /-- A lost race reports the error of every child once, in the order they failed. -/
  lost : ∀ failed, outcome = .lost failed →
    failed = errors log ∧ (failures log).Perm (List.range count)
  /-- Before the head start has elapsed, the others wait until the lead has failed. -/
  held : ∀ l : Fin count, lead = some l → (∀ moment ∈ moments, moment.elapsed = false) →
    HeldBack l log
  /-- A lead that connects when it is first polled after the head start has elapsed wins,
  and no other child has been polled. -/
  tie : ∀ (l : Fin count) quiet w s connection, lead = some l → moments = quiet ++ [⟨true, w⟩] →
    (∀ moment ∈ quiet, moment.elapsed = false) →
    stateAfter start
      (runLog child start (.initial count (lead.map Fin.val) start) [] quiet).2 l = some s →
    (child l s w).1 = .ready (.ok connection) →
    outcome.winner? = some (l.val, connection) ∧ ∀ look ∈ log, look.child = l

/-- Every race gives a true account of itself: any number of children that answer in any
way, with or without a lead, polled at any moments. -/
theorem run_account (child : Nat → σ → ω → Poll σ × ω) (start : σ) {count : Nat}
    (lead : Option (Fin count)) (moments : List (Moment ω)) :
    Account child start lead moments
      (run child start (.initial count (lead.map Fin.val) start) moments)
      (runLog child start (.initial count (lead.map Fin.val) start) [] moments).2 := by
  have hinit : Agrees start count (lead.map Fin.val) false
      (.initial count (lead.map Fin.val) start) ([] : List (Look σ)) := by
    refine Agrees.initial start count _ fun l hl => ?_
    obtain ⟨i, -, rfl⟩ := Option.map_eq_some_iff.mp hl
    exact i.isLt
  have hquiet : ∀ quiet : List (Moment ω), (∀ moment ∈ quiet, moment.elapsed = false) →
      Concludes start count (lead.map Fin.val) false
        (runLog child start (.initial count (lead.map Fin.val) start) [] quiet).1
        (runLog child start (.initial count (lead.map Fin.val) start) [] quiet).2 := by
    intro quiet hq
    obtain ⟨-, past, -, -, ho, hc⟩ := runLog_logs child quiet hinit
    rwa [ho hq] at hc
  rw [← runLog_fst moments _ []]
  obtain ⟨polls, past, hlog, hpolls, -, hc⟩ := runLog_logs child moments hinit
  refine ⟨hc.continuous, hc.winner?_eq, fun before look after => hc.stops,
    ⟨polls, by simpa using hlog, hpolls⟩, ?_, ?_, ?_⟩
  · intro failed hf
    rw [hf] at hc
    exact hc.lost
  · rintro l rfl hq
    exact (hquiet moments hq).heldBack rfl
  · rintro l quiet w s connection rfl rfl hq hs hconnect
    have hquiet := hquiet quiet hq
    obtain ⟨state, hpending, ha, -, hslot⟩ := hquiet.waiting rfl hs
    have hsplit := runLog_append [⟨true, w⟩] (Prod.ext hpending rfl)
    obtain ⟨state', hpoll⟩ := poll_lead true ha rfl hslot (Prod.ext hconnect rfl)
    rw [hsplit, runLog, hpoll]
    refine ⟨rfl, fun look hm => ?_⟩
    rcases List.mem_append.mp hm with hm | hm
    · refine (hquiet.heldBack rfl).all (fun hf => ?_) look hm
      rw [stateAfter_of_failed hquiet.continuous hf] at hs
      cases hs
    · rw [List.mem_singleton.mp hm]

/-! ### A lead that connects late in a poll

A lead may connect at a later look of the poll in which its head start ends. Then others
may have been opened: this lead is a sequence that starts over, and stops once in the poll
to let others run. -/

def lateTieChildren : List Strategy :=
  [.sequential { SequentialOptions.default with looping := true }
      [.transport ⟨"a", "a", 0, 0, [], none⟩],
    .transport ⟨"b", "b", 0, 1, [], none⟩]

def lateTieChild (i : Nat) : Poller := Strategy.pollAt lateTieChildren i .plain

/-- The first transport fails when the head start ends, and then connects; the second fails
at once. -/
def lateTieWorld : World :=
  .initial 0
    [⟨"a", true, true, .scripted [.fail headStart (.connection "refused"), .connect 0]⟩,
      ⟨"b", true, true, .scripted [.fail 0 (.connection "refused")]⟩] []

/-- The lead is polled when it starts and when its head start ends. -/
def lateTieMoments : List (Moment World) :=
  [⟨false, lateTieWorld⟩,
    ⟨true, { (poll lateTieChild .unstarted false (.behind 2 0 .unstarted) lateTieWorld).2 with
      now := headStart }⟩]

/-- The lead wins in the poll in which its head start ends, after the other was polled. -/
theorem late_tie_polls_others :
    (run lateTieChild .unstarted (.initial 2 (some 0) .unstarted)
      (lateTieMoments.take 1)).winner? = none ∧
    (run lateTieChild .unstarted (.initial 2 (some 0) .unstarted)
      lateTieMoments).winner?.map Prod.fst = some 0 ∧
    (runLog lateTieChild .unstarted (.initial 2 (some 0) .unstarted) []
      lateTieMoments).2.map Look.child = [0, 0, 1, 0] := by
  decide

end Dialplan.Race
