import Dialplan.Proofs.Polling.Run
import Dialplan.Proofs.Sequence.Sights
import Dialplan.Proofs.Sequence.Visits

/-! What a sequence comes to. A run of a sequence is watched in the very worlds in which it is
polled (`Run.watched`); each visit goes on from where the one before it has left the sequence, and
its answer and the sights of its children belong together (`sequential_fallback`), whatever the
children do and whatever happens between polls. -/

namespace Dialplan

namespace Sequence

/-- What is promised of a sequence that is polled at a time: its answer, and the sights of its
children. -/
structure Fallback {σ : Type} (options : SequentialOptions) (count : Nat) (kind : Nat → String)
    (start : σ) (now : Instant) (answer : Poll (State σ)) (log : List (Sight σ)) : Prop where
  /-- The children are tried in order, each under its bound, and the answer is what the tries
  have come to. -/
  account : Account options count kind start now answer log
  /-- A child is only started when none is in progress. -/
  alone : OneAtATime start none log
  /-- After a success no child is polled. -/
  stops : Unwon log.dropLast
  /-- The answer is a connection exactly if the last poll of a child has made it. -/
  won : ∀ connection, answer = .ready (.ok connection) ↔
    log.getLast?.bind Sight.connection? = some connection
  /-- A sequence that starts over never fails. -/
  endless : options.looping = true → ∀ e, answer ≠ .ready (.error e)

theorem Account.fallback {σ : Type} {options : SequentialOptions} {count : Nat}
    {kind : Nat → String} {start : σ} {now : Instant} {answer : Poll (State σ)}
    {log : List (Sight σ)} (h : Account options count kind start now answer log) :
    Fallback options count kind start now answer log := by
  rcases h.won with ⟨hu, hno⟩ | ⟨earlier, child, now', s, connection, hu, rfl, rfl⟩
  · refine ⟨h, h.oneAtATime, fun sight hs => hu sight ((List.dropLast_prefix log).subset hs),
      fun connection => ⟨fun ha => absurd ha (hno connection), fun hlast => ?_⟩, h.endless⟩
    obtain ⟨sight, hs, hc⟩ := Option.bind_eq_some_iff.mp hlast
    rw [hu sight (List.mem_of_getLast? hs)] at hc
    cases hc
  · refine ⟨h, h.oneAtATime, by rwa [List.dropLast_concat], fun connection => ?_, h.endless⟩
    simp [Sight.connection?]

/-! ### Runs of sequences -/

/-- What a sequence whose children are polled in the world knows when it is polled. -/
def settingAt (options : SequentialOptions) (count : Nat) (kind : Nat → String)
    (child : Nat → Poller) (w : World) : Setting Progress World :=
  ⟨options, count, kind, child, .unstarted, Progress.abandon, w.now, w.turn⟩

/-- The visits of a run of a sequence, watched: it is polled in the same worlds, with the same
effect on them. -/
inductive Watched (setting : World → Setting Progress World) :
    List Visit → Poll (State Progress) → List (Sight Progress) → Prop where
  | first (w : World) :
      Watched setting [⟨w, (first (setting w).watched (w, [])).2.1⟩]
        (first (setting w).watched (w, [])).1 (first (setting w).watched (w, [])).2.2
  | again {visit earlier state log} (w : World) :
      Watched setting (visit :: earlier) (.pending state) log →
      Watched setting (⟨w, (poll (setting w).watched state (w, log)).2.1⟩ :: visit :: earlier)
        (poll (setting w).watched state (w, log)).1
        (poll (setting w).watched state (w, log)).2.2

/-- Visit by visit, what a watched sequence does: the first visit starts the first child, and every
other one goes on from the state in which the one before it has left the sequence. -/
inductive Continues (setting : World → Setting Progress World) :
    List Visit → Poll (State Progress) → List (Sight Progress) → Prop where
  | first {visit polled answer log} :
      [.polled 0 (setting visit.before).now (setting visit.before).start polled] <+: log →
      Continues setting [visit] answer log
  | again {visit previous earlier state seen answer log} :
      Watched setting (previous :: earlier) (.pending state) seen →
      Continues setting (previous :: earlier) (.pending state) seen →
      Resumes (setting visit.before) seen state answer log →
      Continues setting (visit :: previous :: earlier) answer log

end Sequence

section

variable {options : SequentialOptions} {count : Nat} {kind : Nat → String} {child : Nat → Poller}
  {between : World → World → Prop} {w₀ : World}

/-- Every run of a sequence can be watched. -/
theorem Run.watched {visits : List Visit} {outcome : Poll Progress}
    (run : Run between (pollSequential options count kind child) w₀ visits outcome) :
    ∃ answer log, outcome = answer.map Progress.ofSequence ∧
      Sequence.Watched (Sequence.settingAt options count kind child) visits answer log := by
  induction run with
  | first =>
    obtain ⟨hanswer, hworld⟩ := Sequence.first_watched_fst
      (Sequence.settingAt options count kind child w₀) w₀ []
    have hwatched : Sequence.Watched (Sequence.settingAt options count kind child) _ _ _ :=
      .first w₀
    rw [hanswer, hworld] at hwatched
    exact ⟨_, _, rfl, hwatched⟩
  | @again visit earlier p w run hbetween ih =>
    obtain ⟨answer, log, hp, hwatched⟩ := ih
    cases answer with
    | ready result => cases hp
    | pending state =>
      obtain rfl : p = .ofSequence state := Poll.pending.inj hp
      obtain ⟨hanswer, hworld⟩ := Sequence.poll_watched_fst
        (Sequence.settingAt options count kind child w) state w log
      have hagain := hwatched.again w
      rw [hanswer, hworld] at hagain
      exact ⟨_, _, rfl, hagain⟩

/-- Every poll of a watched sequence is accounted for. -/
theorem Sequence.Watched.accounted (hcount : 0 < count) {visits : List Visit}
    {answer : Poll (Sequence.State Progress)} {log : List (Sequence.Sight Progress)}
    (h : Sequence.Watched (Sequence.settingAt options count kind child) visits answer log) :
    ∃ visit earlier, visits = visit :: earlier ∧
      Sequence.Accounted options count kind .unstarted visit.before.now answer log := by
  induction h with
  | first w =>
    exact ⟨_, [], rfl,
      Sequence.first_watched (Sequence.settingAt options count kind child w) w hcount⟩
  | again w _ ih =>
    obtain ⟨_, _, -, haccounted⟩ := ih
    exact ⟨_, _, rfl,
      Sequence.poll_watched (Sequence.settingAt options count kind child w) w
        (haccounted.tracks _ rfl _)⟩

/-- Every visit of a watched sequence goes on from the one before it. -/
theorem Sequence.Watched.continues (hcount : 0 < count) {visits : List Visit}
    {answer : Poll (Sequence.State Progress)} {log : List (Sequence.Sight Progress)}
    (h : Sequence.Watched (Sequence.settingAt options count kind child) visits answer log) :
    Sequence.Continues (Sequence.settingAt options count kind child) visits answer log := by
  induction h with
  | first w =>
    exact .first (Sequence.first_polls (Sequence.settingAt options count kind child w) w hcount)
  | again w hwatched ih => exact .again hwatched ih (Sequence.poll_resumes _ _ w _)

/-- Sequences of any number of children, one or more, with any options, keep their promises:
whatever the children do, whenever the sequence is polled, and whatever happens to the world
between polls. -/
theorem sequential_fallback {visits : List Visit} {outcome : Poll Progress}
    (hcount : 0 < count)
    (run : Run between (pollSequential options count kind child) w₀ visits outcome) :
    ∃ visit earlier answer log, visits = visit :: earlier ∧
      outcome = answer.map Progress.ofSequence ∧
      Sequence.Watched (Sequence.settingAt options count kind child) visits answer log ∧
      Sequence.Continues (Sequence.settingAt options count kind child) visits answer log ∧
      Sequence.Fallback options count kind .unstarted visit.before.now answer log := by
  obtain ⟨answer, log, ho, hwatched⟩ := run.watched
  have hcontinues := hwatched.continues hcount
  obtain ⟨visit, earlier, rfl, haccounted⟩ := hwatched.accounted hcount
  exact ⟨visit, earlier, answer, log, rfl, ho, hwatched, hcontinues, haccounted.account.fallback⟩

end

/-- A try may take a second. -/
def twoTriesOptions : SequentialOptions :=
  { SequentialOptions.default with timeout := some 1000 }

def twoTriesChildren : List Strategy :=
  [.transport ⟨"a", "a", 0, 0, [], none⟩, .transport ⟨"b", "b", 0, 1, [], none⟩]

/-- The first child never answers, and the second connects at once. -/
def twoTriesWorld : World :=
  .initial 0
    [⟨"a", true, true, .scripted [.hang]⟩, ⟨"b", true, true, .scripted [.connect 0]⟩] []

def twoTriesPoller : Poller := (Strategy.sequential twoTriesOptions twoTriesChildren).poll .plain

/-- What is in progress as long as the first child is tried. -/
def twoTriesOpen : Progress :=
  .sequencing 0 (some (Duration.ofMillis 1000)) []
    (.trying (some ⟨Duration.ofMillis 1000, 0⟩) (.opening 1 0 none))

/-- The world in which the first child has had its second. -/
def twoTriesLater : World :=
  { (twoTriesPoller .unstarted twoTriesWorld).2 with now := Duration.ofMillis 1000 }

/-- The first child is given up, and the second connects in the same poll. -/
theorem sequential_fallback_second_try :
    ∃ visits connection, connection.transport = "b" ∧
      Run (fun _ _ => True) twoTriesPoller twoTriesWorld visits (.ready (.ok connection)) ∧
      ∃ log, Sequence.Fallback twoTriesOptions 2
        (fun i => (twoTriesChildren[i]?.map Strategy.kindName).getD "") Progress.unstarted
        (Duration.ofMillis 1000) (.ready (.ok connection)) log := by
  have started : Run (fun _ _ => True) twoTriesPoller twoTriesWorld
      [⟨twoTriesWorld, (twoTriesPoller .unstarted twoTriesWorld).2⟩] (.pending twoTriesOpen) :=
    .first
  have run := started.again (w := twoTriesLater) trivial
  obtain ⟨visit, earlier, answer, log, hvisits, ho, -, -, hf⟩ :=
    sequential_fallback (by decide : 0 < 2) run
  obtain ⟨rfl, -⟩ := List.cons.inj hvisits
  have hconnected : (twoTriesPoller twoTriesOpen twoTriesLater).1 =
      .ready (.ok ⟨1, "b", 0, 0, ⟨"b", 2⟩⟩) := rfl
  rw [hconnected] at run
  obtain rfl : answer = .ready (.ok ⟨1, "b", 0, 0, ⟨"b", 2⟩⟩) := by
    cases answer with
    | pending state => cases hconnected.symm.trans ho
    | ready result => cases hconnected.symm.trans ho; rfl
  exact ⟨_, _, rfl, run, log, hf⟩

end Dialplan
