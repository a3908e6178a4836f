import Dialplan.Proofs.Polling.Clock
import Dialplan.Proofs.Polling.Run

/-! The course of a cached node. A run of the node is a run of the table entry that its record
names, or a run of the strategy below it, or the one and then the other (`Run.course`). -/

namespace Dialplan

/-- The record that a cached node retries from a world on, and the entry of its table. -/
structure Retry (settings : CacheSettings) (transports : List (String × Strategy)) (w : World)
    (cached : CacheRecord) (entry : Strategy) : Prop where
  recorded : (w.cache settings.cache).fetch settings.encrypted = some cached
  fresh : cached.isFresh settings.ttl w.wallClock = true
  known : Table.find transports cached.transport = some entry

/-- When a retry that began in a world is out of time: twice the recorded latency, and a
second. -/
def retryBound (w : World) (cached : CacheRecord) : Instant :=
  w.now + Duration.ofMillis (2 * cached.latency.toNat + 1000)

/-- The timer of a retry that began in a world. -/
def retryTimer (w : World) (cached : CacheRecord) : Timer := ⟨retryBound w cached, w.turn⟩

theorem retryTimer_eq (w : World) (cached : CacheRecord) :
    Timer.start w (cached.connectTime * 2 + retrySlack) = retryTimer w cached := by
  have : cached.connectTime * 2 + retrySlack =
      Duration.ofMillis (2 * cached.latency.toNat + 1000) := by
    show cached.latency.toNat * 1000000 * 2 + 1000 * 1000000 =
      (2 * cached.latency.toNat + 1000) * 1000000
    omega
  rw [Timer.start, this]
  rfl

/-- What becomes of the partition of a cached node when the strategy below it is done. -/
def settleCache (settings : CacheSettings) (started : Instant) : Poll Progress → World → World
  | .pending _, w => w
  | .ready result, w => finishCached settings started result w

/-- Visits of something that was started within a visit from `w` on, the latest of which ends
with one step more. -/
def framed (w : World) (finish : World → World) : List Visit → List Visit
  | [] => []
  | [visit] => [⟨w, finish visit.after⟩]
  | visit :: next :: earlier =>
    ⟨visit.before, finish visit.after⟩ :: framed w id (next :: earlier)

theorem framed_cons (w : World) (finish : World → World) (visit : Visit)
    (earlier : List Visit) :
    ∃ before rest, framed w finish (visit :: earlier) = ⟨before, finish visit.after⟩ :: rest := by
  cases earlier with
  | nil => exact ⟨_, _, rfl⟩
  | cons next rest => exact ⟨_, _, rfl⟩

section

variable (between : World → World → Prop) (settings : CacheSettings)
  (transports : List (String × Strategy)) (child : Strategy) (c : Context) (w₀ : World)

/-- In which world the strategy below a cached node is started, in a visit from which world
on, and after which visits: at once, if there is no record to retry, and else when the
retry has failed or is out of time. -/
inductive FullStart : World → World → List Visit → Prop where
  | direct : (∀ cached entry, ¬ Retry settings transports w₀ cached entry) → FullStart w₀ w₀ []
  | failed {cached entry visit earlier e} : Retry settings transports w₀ cached entry →
      Run between (entry.poll c) w₀ (visit :: earlier) (.ready (.error e)) →
      FullStart (visit.after.flushCache settings) visit.before earlier
  | outOfTime {cached entry visit earlier p} : Retry settings transports w₀ cached entry →
      Run between (entry.poll c) w₀ (visit :: earlier) (.pending p) →
      retryBound w₀ cached ≤ visit.before.now →
      FullStart ((p.abandon visit.after).flushCache settings) visit.before earlier

/-- How a run of a cached node has gone: when its last phase began, its visits, and what it
has come to. -/
inductive Course : Instant → List Visit → Poll Progress → Prop where
  | retrying {cached entry visit earlier p} : Retry settings transports w₀ cached entry →
      Run between (entry.poll c) w₀ (visit :: earlier) (.pending p) →
      visit.before.now < retryBound w₀ cached →
      Course w₀.now (visit :: earlier)
        (.pending (.retrying (retryTimer w₀ cached) w₀.now cached.transport p))
  | reconnected {cached entry visit earlier connection} :
      Retry settings transports w₀ cached entry →
      Run between (entry.poll c) w₀ (visit :: earlier) (.ready (.ok connection)) →
      Course w₀.now
        (⟨visit.before, finishCached settings w₀.now (.ok connection) visit.after⟩ :: earlier)
        (.ready (.ok connection))
  | full {start w earlier inner result} :
      FullStart between settings transports c w₀ start w earlier →
      Run between (child.poll c) start inner result →
      Course start.now (framed w (settleCache settings start.now result) inner ++ earlier)
        (result.map (.uncached start.now))

end

section

variable {between : World → World → Prop} {settings : CacheSettings}
  {transports : List (String × Strategy)} {child : Strategy} {c : Context} {w₀ : World}

theorem pollUncached_eq (poller : Poller) (started : Instant) (p : Progress) (w : World) :
    pollUncached settings poller started p w =
      ((poller p w).1.map (.uncached started),
        settleCache settings started (poller p w).1 (poller p w).2) := by
  unfold pollUncached
  generalize poller p w = polled
  obtain ⟨answer, w'⟩ := polled
  cases answer with
  | pending p => rfl
  | ready result => rfl

/-- The first poll of the strategy below a cached node. -/
theorem FullStart.course {start w : World} {earlier : List Visit}
    (h : FullStart between settings transports c w₀ start w earlier) :
    Course between settings transports child c w₀ start.now
      (⟨w, (pollUncached settings (fun p w => child.poll c p w) start.now .unstarted start).2⟩ ::
        earlier)
      (pollUncached settings (fun p w => child.poll c p w) start.now .unstarted start).1 := by
  rw [pollUncached_eq]
  exact Course.full h .first

/-- A poll of the table entry that is retried. -/
theorem Retry.course {cached : CacheRecord} {entry : Strategy} {p : Progress} {w : World}
    {earlier : List Visit} (retry : Retry settings transports w₀ cached entry)
    (run : Run between (entry.poll c) w₀ (⟨w, (entry.poll c p w).2⟩ :: earlier)
      (entry.poll c p w).1) :
    ∃ started, Course between settings transports child c w₀ started
      (⟨w, (pollRetry settings (fun name p w => Strategy.pollNamed transports name c p w)
        (fun p w => child.poll c p w) (retryTimer w₀ cached) w₀.now cached.transport p w).2⟩ ::
        earlier)
      (pollRetry settings (fun name p w => Strategy.pollNamed transports name c p w)
        (fun p w => child.poll c p w) (retryTimer w₀ cached) w₀.now cached.transport p w).1 := by
  have hentry : Strategy.pollNamed transports cached.transport c p w = entry.poll c p w := by
    rw [Strategy.pollNamed_eq, retry.known]
    rfl
  have hnow := (entry.poll_clock c p w).now
  unfold pollRetry
  dsimp only
  rw [hentry]
  generalize entry.poll c p w = polled at run hnow ⊢
  obtain ⟨answer, w'⟩ := polled
  cases answer with
  | pending p =>
    dsimp only at hnow ⊢
    by_cases hdue : (retryTimer w₀ cached).isDue w'.now = true
    · rw [if_pos hdue]
      have hbound : retryBound w₀ cached ≤ w.now := hnow ▸ of_decide_eq_true hdue
      exact ⟨_, FullStart.course (.outOfTime retry run hbound)⟩
    · rw [if_neg hdue]
      have hbound : ¬ retryBound w₀ cached ≤ w.now := fun h => hdue (decide_eq_true (hnow ▸ h))
      exact ⟨_, .retrying retry run (Nat.lt_of_not_le hbound)⟩
  | ready result =>
    cases result with
    | error e => exact ⟨_, FullStart.course (.failed retry run)⟩
    | ok connection => exact ⟨_, .reconnected retry run⟩

/-- There is one retry at a time. -/
theorem Retry.unique {cached cached' : CacheRecord} {entry entry' : Strategy}
    (h : Retry settings transports w₀ cached entry)
    (h' : Retry settings transports w₀ cached' entry') : cached' = cached ∧ entry' = entry := by
  obtain rfl : cached' = cached := Option.some.inj (h'.recorded.symm.trans h.recorded)
  exact ⟨rfl, Option.some.inj (h'.known.symm.trans h.known)⟩

/-- Whether there is a record to retry when a cached node is started. -/
theorem freshRecord_cases (settings : CacheSettings) (transports : List (String × Strategy))
    (w : World) :
    (∃ cached entry, Retry settings transports w cached entry ∧
      freshRecord? settings w = some cached ∧
      (Table.find transports cached.transport).isSome = true) ∨
    ((∀ cached entry, ¬ Retry settings transports w cached entry) ∧
      ∀ cached, freshRecord? settings w = some cached →
        (Table.find transports cached.transport).isSome = false) := by
  unfold freshRecord?
  cases hrecord : (w.cache settings.cache).fetch settings.encrypted with
  | none =>
    refine .inr ⟨fun other entry retry => ?_, nofun⟩
    cases hrecord.symm.trans retry.recorded
  | some cached =>
    dsimp only
    by_cases hfresh : cached.isFresh settings.ttl w.wallClock = true
    · rw [if_pos hfresh]
      cases hentry : Table.find transports cached.transport with
      | some entry =>
        refine .inl ⟨cached, entry, ⟨hrecord, hfresh, hentry⟩, rfl, ?_⟩
        rw [hentry]
        rfl
      | none =>
        refine .inr ⟨fun other entry retry => ?_, ?_⟩
        · cases hrecord.symm.trans retry.recorded
          cases hentry.symm.trans retry.known
        · rintro _ ⟨⟩
          rw [hentry]
          rfl
    · rw [if_neg hfresh]
      refine .inr ⟨fun other entry retry => ?_, nofun⟩
      cases hrecord.symm.trans retry.recorded
      exact hfresh retry.fresh

/-- Every run of a cached node takes its course. -/
theorem Run.course {context : Context} {visits : List Visit} {outcome : Poll Progress}
    (run : Run between ((Strategy.cached settings transports child).poll context) w₀ visits
      outcome) :
    ∃ started, Course between settings transports child
      { context with encrypted := settings.encrypted } w₀ started visits outcome := by
  induction run with
  | first =>
    change ∃ started, Course _ _ _ _ _ _ started [⟨w₀, (pollCached _ _ _ _ _ w₀).2⟩]
      (pollCached _ _ _ _ _ w₀).1
    unfold pollCached
    dsimp only
    rcases freshRecord_cases settings transports w₀ with
      ⟨cached, entry, retry, hfresh, hknown⟩ | ⟨hnone, hfresh⟩
    · rw [hfresh]
      dsimp only
      rw [if_pos hknown, retryTimer_eq]
      exact retry.course .first
    · cases hr : freshRecord? settings w₀ with
      | none => exact ⟨_, FullStart.course (.direct hnone)⟩
      | some cached =>
        dsimp only
        rw [if_neg (by rw [hfresh cached hr]; exact Bool.false_ne_true)]
        exact ⟨_, FullStart.course (.direct hnone)⟩
  | @again visit earlier p w run hbetween ih =>
    obtain ⟨started, course⟩ := ih
    generalize hvisits : visit :: earlier = visits at course
    generalize houtcome : Poll.pending p = outcome at course
    cases course with
    | retrying retry hrun hbefore =>
      cases hvisits
      cases houtcome
      exact retry.course (hrun.again hbetween)
    | reconnected retry hrun => cases houtcome
    | @full start w₁ earlier₁ inner result hstart hrun =>
      cases result with
      | ready result => cases houtcome
      | pending p =>
        cases houtcome
        obtain ⟨latest, before, rfl⟩ := hrun.exists_cons
        -- while the inner run waits, its latest visit ends in the same world as the node's
        have hsettle : settleCache settings start.now (.pending p) = id := rfl
        rw [hsettle] at hvisits ⊢
        have hafter : visit.after = latest.after := by
          obtain ⟨_, _, hframed⟩ := framed_cons w₁ id latest before
          rw [hframed] at hvisits
          rw [(List.cons.inj hvisits).1]
          rfl
        have hnext := Course.full hstart (hrun.again (hafter ▸ hbetween))
        change ∃ started, Course _ _ _ _ _ _ started (⟨w, (pollUncached _ _ _ _ w).2⟩ :: _)
          (pollUncached _ _ _ _ w).1
        rw [pollUncached_eq]
        exact ⟨_, hnext⟩

end

end Dialplan
