import Dialplan.Proofs.Cached.Winner

/-! What a given-up retry removes. The flush after a retry that failed or is out of time empties
the partition whatever it holds by then (`flush_empties`): the record that was retried, or one
that others have stored there while the retry was waited for. -/

namespace Dialplan

/-- A tree without cached nodes leaves the caches alone. -/
theorem caches_frame {root : Strategy} (context : Context)
    (h : ∀ {settings transports child},
      ¬ Strategy.Within (.cached settings transports child) root) :
    FrameAt root context fun w w' => w'.caches = w.caches where
  refl _ := rfl
  trans hab hbc := hbc.trans hab
  connected _ _ _ _ := rfl
  failed _ _ := rfl
  cancelled _ _ := rfl
  remembered _ _ _ := rfl
  opened _ _ _ _ := rfl
  stored hr _ _ _ := absurd hr.within h
  flushed hr _ := absurd hr.within h

/-- The worlds before and after what others have done between visits, up to the present world. -/
def interludes : World → List Visit → List (World × World)
  | _, [] => []
  | w, visit :: earlier => (visit.after, w) :: interludes visit.before earlier

/-- What others do is what may happen between polls. -/
theorem Run.interludes {between : World → World → Prop} {poller : Poller} {w₀ : World}
    {visit : Visit} {earlier : List Visit} {outcome : Poll Progress}
    (run : Run between poller w₀ (visit :: earlier) outcome) :
    ∀ gap ∈ Dialplan.interludes visit.before earlier, between gap.1 gap.2 := by
  generalize hvisits : visit :: earlier = visits at run
  induction run generalizing visit earlier with
  | first =>
    obtain ⟨rfl, rfl⟩ := List.cons.inj hvisits
    exact List.forall_mem_nil _
  | again _ hbetween ih =>
    obtain ⟨rfl, rfl⟩ := List.cons.inj hvisits
    exact List.forall_mem_cons.mpr ⟨hbetween, ih rfl⟩

/-- What is promised of the flush after a retry, which began with a record, had some earlier
visits, and is given up in a world. -/
structure Flushed (settings : CacheSettings) (cached : CacheRecord) (earlier : List Visit)
    (w start : World) : Prop where
  /-- The partition is empty when the strategy below the node starts. -/
  emptied : settings.recorded start = none
  /-- All other partitions stay as they are. -/
  spared : Spares settings.cache settings.encrypted w start
  /-- The retry itself has not touched a cache. -/
  untouched : ∀ visit ∈ earlier, visit.after.caches = visit.before.caches
  /-- What is removed, if anything, is the record that was retried, or else one that others have
  put in its place between two visits of the retry. -/
  removed : ∀ lost, settings.recorded w = some lost → lost = cached ∨
    ∃ gap ∈ interludes w earlier, Meanwhile gap.1 gap.2 ∧
      settings.recorded gap.1 ≠ some lost ∧ settings.recorded gap.2 = some lost

section

variable {between : World → World → Prop} {settings : CacheSettings}
  {transports : List (String × Strategy)} {child entry : Strategy} {c : Context} {w₀ : World}
  {cached : CacheRecord}

/-- As long as its own polls leave the caches alone, a partition changes only between them. -/
theorem recorded_interludes {poller : Poller} {visit : Visit} {earlier : List Visit}
    {outcome : Poll Progress} (hpoll : Keeps (fun w w' => w'.caches = w.caches) poller)
    (run : Run between poller w₀ (visit :: earlier) outcome) :
    settings.recorded visit.before = settings.recorded w₀ ∨
      ∃ gap ∈ interludes visit.before earlier,
        settings.recorded gap.1 ≠ settings.recorded visit.before ∧
        settings.recorded gap.2 = settings.recorded visit.before := by
  generalize hvisits : visit :: earlier = visits at run
  induction run generalizing visit earlier with
  | first =>
    obtain ⟨rfl, rfl⟩ := List.cons.inj hvisits
    exact .inl rfl
  | @again previous before p w hrun _ ih =>
    obtain ⟨rfl, rfl⟩ := List.cons.inj hvisits
    have hprevious : settings.recorded previous.after = settings.recorded previous.before := by
      have hcaches := hrun.visited hpoll previous List.mem_cons_self
      rw [CacheSettings.recorded, World.cache, hcaches]
      rfl
    by_cases hsame : settings.recorded previous.after = settings.recorded w
    · rw [← hsame, hprevious]
      rcases ih rfl with hfirst | ⟨gap, hm, hgap⟩
      · exact .inl hfirst
      · exact .inr ⟨gap, List.mem_cons_of_mem _ hm, hgap⟩
    · exact .inr ⟨_, List.mem_cons_self, hsame, rfl⟩

/-- A retry is given up by a flush, after its last visit. -/
theorem FullStart.flushes (retry : Retry settings transports w₀ cached entry) {start w : World}
    {earlier : List Visit} (h : FullStart between settings transports c w₀ start w earlier) :
    ∃ (visit : Visit) (outcome : Poll Progress) (before : World),
      Run between (entry.poll c) w₀ (visit :: earlier) outcome ∧
      visit.before = w ∧ before.caches = visit.after.caches ∧
      start = before.flushCache settings := by
  cases h with
  | direct hnone => exact absurd retry (hnone cached entry)
  | @failed cached' entry' visit earlier e retry' run =>
    obtain ⟨rfl, rfl⟩ := retry.unique retry'
    exact ⟨visit, _, visit.after, run, rfl, rfl, rfl⟩
  | @outOfTime cached' entry' visit earlier p retry' run hbound =>
    obtain ⟨rfl, rfl⟩ := retry.unique retry'
    refine ⟨visit, _, p.abandon visit.after, run, rfl, ?_, rfl⟩
    rw [Progress.abandon, World.cancel_eq]

/-- When a cached node of a built tree gives up a retry, it empties its partition whatever that
holds, and no other one. Others may have used every cache since the record was fetched. -/
theorem flush_empties {builder : Builder} {options : BuildOptions} {site : Site}
    {program : Program} {strategy : Strategy} {start w : World} {earlier : List Visit}
    (hbuild : builder.build options site program = .ok strategy)
    (hwithin : Strategy.Within (.cached settings transports child) strategy)
    (hcache : settings.cache < w₀.caches.length)
    (retry : Retry settings transports w₀ cached entry)
    (h : FullStart Meanwhile settings transports c w₀ start w earlier) :
    Flushed settings cached earlier w start := by
  obtain ⟨visit, outcome, before, run, rfl, hbefore, rfl⟩ := h.flushes retry
  -- what is retried is a leaf, or stands in for one
  have hentry : ∀ {settings' transports' child'},
      ¬ Strategy.Within (.cached settings' transports' child') entry := by
    intro settings' transports' child' hw
    cases (Builder.build_made hbuild).listed hwithin _ (Table.mem_of_find retry.known) with
    | transport _ => cases hw
    | unsupported => cases hw
  have hpoll := (caches_frame c hentry).poll entry .root
  have hvisit : before.caches = visit.before.caches :=
    hbefore.trans (run.visited hpoll visit List.mem_cons_self)
  have hcache : settings.cache < before.caches.length := by
    rw [hbefore, run.cacheCount Meanwhile.caches visit List.mem_cons_self]
    exact hcache
  refine ⟨recorded_flushCache hcache, (Spares.of_caches_eq hvisit).trans (.put before none), ?_, ?_⟩
  · exact fun earlier hm => run.visited hpoll earlier (List.mem_cons_of_mem _ hm)
  · intro lost hlost
    rcases recorded_interludes hpoll run with hfirst | ⟨gap, hm, hbefore, hafter⟩
    · rw [CacheSettings.recorded.eq_def settings w₀, retry.recorded, hlost] at hfirst
      exact .inl (Option.some.inj hfirst)
    · rw [hlost] at hbefore hafter
      exact .inr ⟨gap, hm, run.interludes gap hm, hbefore, hafter⟩

end

/-! Two attempts on one cached node. Both retry the recorded transport. The open of the first fails
after a hundred milliseconds; that of the second connects after fifty, and is recorded. -/

def crossedWorld : World :=
  .initial 0
    [⟨"ws", true, true, .scripted [.fail (Duration.ofMillis 100) .cancelled,
      .connect (Duration.ofMillis 50), .hang]⟩]
    [⟨none, some ⟨0, "a", 10⟩⟩]

/-- A visit of an attempt. -/
def crossedVisit (p : Progress) (w : World) : Visit := ⟨w, (recallPoller p w).2⟩

/-- The first attempt starts, and then the second. -/
def crossedFirst : Visit := crossedVisit .unstarted crossedWorld

def crossedSecond : Visit := crossedVisit .unstarted crossedFirst.after

/-- What an attempt has in progress when it has started. -/
def crossedRetry (number : Nat) (delay : Nat) (failure : Option Error) : Progress :=
  .retrying ⟨Duration.ofMillis 1020, 0⟩ 0 "a"
    (.opening number 0 (some (⟨Duration.ofMillis delay, 0⟩, failure)))

/-- The second attempt connects. -/
def crossedConnect : Visit :=
  crossedVisit (crossedRetry 2 50 none) { crossedSecond.after with now := Duration.ofMillis 50 }

/-- The first attempt goes on when its open has had its time. -/
def crossedGiveUp : Visit :=
  crossedVisit (crossedRetry 1 100 (some .cancelled))
    { crossedConnect.after with now := Duration.ofMillis 100 }

/-- What the retried transport has in progress when the first attempt has started. -/
def crossedOpening : Progress :=
  .opening 1 0 (some (⟨Duration.ofMillis 100, 0⟩, some .cancelled))

/-- The retried transport is polled again in that visit, and its open fails. -/
def crossedFailure : Visit :=
  ⟨crossedGiveUp.before, (recallLeaf.poll .plain crossedOpening crossedGiveUp.before).2⟩

theorem crossed_retry :
    Retry recallSettings [("a", recallLeaf)] crossedWorld ⟨0, "a", 10⟩ recallLeaf :=
  ⟨by decide, by decide, by rfl⟩

/-- The strategy below the node is started where the retry is given up. -/
theorem crossed_fullStart :
    ∃ start, FullStart Meanwhile recallSettings [("a", recallLeaf)] .plain crossedWorld start
      crossedGiveUp.before [crossedFirst] := by
  have started : Run Meanwhile (recallLeaf.poll .plain) crossedWorld [crossedFirst]
      (.pending crossedOpening) := .first
  have run : Run Meanwhile (recallLeaf.poll .plain) crossedWorld [crossedFailure, crossedFirst]
      (.ready (.error .cancelled)) := started.again ⟨by decide, by rfl⟩
  have hstart := FullStart.failed crossed_retry run
  exact ⟨_, hstart⟩

/-- What the flush of the first attempt removes is what the second has stored. -/
theorem flush_empties_crossed :
    ∃ start, FullStart Meanwhile recallSettings [("a", recallLeaf)] .plain crossedWorld start
        crossedGiveUp.before [crossedFirst] ∧
      recallSettings.recorded crossedGiveUp.before = some ⟨50, "a", 50⟩ ∧
      Flushed recallSettings ⟨0, "a", 10⟩ [crossedFirst] crossedGiveUp.before start := by
  have hbuild : recallBuilder.build .default [] recallProgram =
      .ok (.cached recallSettings [("a", recallLeaf)] recallLeaf) := by rfl
  obtain ⟨start, hstart⟩ := crossed_fullStart
  exact ⟨start, hstart, by decide, flush_empties hbuild .self (by decide) crossed_retry hstart⟩

/-- So a success that is recorded while the retry of another attempt is waited for is forgotten when
that retry fails, though its record is not the one that was retried. -/
theorem crossed_update_lost :
    ∃ p connection,
      Run Meanwhile recallPoller crossedWorld [crossedGiveUp, crossedFirst] (.pending p) ∧
      Run Meanwhile recallPoller crossedFirst.after [crossedConnect, crossedSecond]
        (.ready (.ok connection)) ∧
      crossedConnect.before = { crossedSecond.after with now := Duration.ofMillis 50 } ∧
      crossedGiveUp.before = { crossedConnect.after with now := Duration.ofMillis 100 } ∧
      recallSettings.recorded crossedWorld = some ⟨0, "a", 10⟩ ∧
      recallSettings.recorded crossedConnect.before = some ⟨0, "a", 10⟩ ∧
      recallSettings.recorded crossedConnect.after = some ⟨50, "a", 50⟩ ∧
      recallSettings.recorded crossedGiveUp.before = some ⟨50, "a", 50⟩ ∧
      recallSettings.recorded crossedGiveUp.after = none := by
  have waits : Run Meanwhile recallPoller crossedWorld [crossedFirst]
      (.pending (crossedRetry 1 100 (some .cancelled))) := .first
  have second : Run Meanwhile recallPoller crossedFirst.after [crossedSecond]
      (.pending (crossedRetry 2 50 none)) := .first
  have connects : Run Meanwhile recallPoller crossedFirst.after [crossedConnect, crossedSecond]
      (.ready (.ok ⟨1, "a", 0, Duration.ofMillis 50, ⟨"ws", 2⟩⟩)) :=
    second.again ⟨by decide, by rfl⟩
  have goesOn := waits.again (w := crossedGiveUp.before) ⟨by decide, by rfl⟩
  exact ⟨_, _, goesOn, connects, rfl, rfl, by decide, by decide, by decide, by decide, by decide⟩

end Dialplan
