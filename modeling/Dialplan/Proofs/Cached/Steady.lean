import Dialplan.Proofs.Cached.Freshness
import Dialplan.Proofs.Cached.Winner
import Dialplan.Proofs.Opens.Times

/-! The steady state of a cached node. Once a connect has succeeded, further connects that follow
soon enough open the transport that won, once, and nothing else, as long as it takes the same time
(`steady_state`). What carries this on from one to the next is that the record names the transport
with a time that is at most a millisecond too short (`Recalls`). -/

namespace Dialplan

/-! ### Milliseconds -/

/-- Cutting a length of time off to milliseconds takes less than one away. -/
theorem Duration.lt_ofMillis_succ {d : Duration} (h : d < Duration.ofMillis UInt64.size) :
    d < Duration.ofMillis (d.millisWord.toNat + 1) := by
  rw [toNat_millisWord h]
  exact (Nat.div_lt_iff_lt_mul (by decide)).mp (Nat.lt_succ_self d.millis)

/-- A record is fresh as long as the lifetime has not passed since it was written. -/
theorem CacheRecord.isFresh_of_le {cached : CacheRecord} {ttl : Duration} {now : UInt64}
    (httl : ttl < Duration.ofMillis UInt64.size)
    (h : Duration.ofMillis now.toNat ≤ Duration.ofMillis cached.timestamp.toNat + ttl) :
    cached.isFresh ttl now = true := by
  rw [CacheRecord.isFresh_iff, CacheRecord.freshFor_eq httl]
  exact CacheRecord.inLifetime_iff.mp h

/-! ### Further connects -/

/-- The clock is in range: it counts milliseconds in a word. -/
def World.OnClock (w : World) : Prop := w.now < Duration.ofMillis UInt64.size

instance (w : World) : Decidable w.OnClock := inferInstanceAs (Decidable (_ < _))

/-- Between two polls of an attempt time passes, and others go on. -/
structure Ticks (w w' : World) : Prop extends Meanwhile w w' where
  now : w.now ≤ w'.now
  clock : w'.OnClock

/-- So it is, and others leave the partition of a cached node alone. -/
structure CacheSettings.Quiet (settings : CacheSettings) (w w' : World) : Prop
    extends Ticks w w' where
  recorded : settings.recorded w' = settings.recorded w

/-- A connect of a cached node starts in a second world, after the node was left in a first one:
soon enough, and where a leaf is supported and its next open connects after some time. -/
structure Resumes (settings : CacheSettings) (leaf : Leaf) (took : Duration) (w start : World) :
    Prop extends settings.Quiet w start where
  fresh : ∀ cached, settings.recorded start = some cached →
    Duration.ofMillis start.wallClock.toNat ≤
      Duration.ofMillis cached.timestamp.toNat + settings.ttl
  supported : start.supports leaf.mechanism settings.encrypted = true
  answers : (start.openTransport leaf settings.encrypted).1 = .connect took

/-- The worlds in which a cached node is left by connects that follow one another. -/
inductive Redials (settings : CacheSettings) (poller : Poller) (leaf : Leaf) (took : Duration)
    (w₀ : World) : World → Prop where
  | first : Redials settings poller leaf took w₀ w₀
  | again {w start latest earlier result} : Redials settings poller leaf took w₀ w →
      Resumes settings leaf took w start →
      Run settings.Quiet poller start (latest :: earlier) (.ready result) →
      Redials settings poller leaf took w₀ latest.after

/-- What is promised of a further connect, which was started in a world. -/
structure Redialled (settings : CacheSettings) (transports : List (String × Strategy)) (c : Context)
    (leaf : Leaf) (took : Duration) (start : World) (latest : Visit) (earlier : List Visit)
    (outcome : Poll Progress) : Prop where
  /-- There is one open, of the leaf, made at once. -/
  once : openings (eventsOf (latest :: earlier)) = [.opened (start.opens + 1) leaf
    ⟨leaf.name, leaf.key, settings.encrypted, leaf.options⟩ start.now]
  /-- It is waited for until it has had its time. -/
  waits : ∀ p, outcome = .pending p → latest.before.now < start.now + took
  /-- Then it connects, and this is the result. -/
  connects : ∀ result, outcome = .ready result → start.now + took ≤ latest.before.now ∧
    ∃ connection, result = .ok connection ∧
      MadeBy leaf (start.opens + 1) latest.after.kind connection
  /-- The record is refreshed, with the name of the leaf. -/
  refreshed : ∀ result, outcome = .ready result → settings.recorded latest.after =
    some ⟨latest.after.wallClock, leaf.name,
      Duration.millisWord (latest.after.now - start.now)⟩
  /-- The strategy below the node is never started. -/
  unexplored : ∀ {w started earlier},
    ¬ FullStart settings.Quiet settings transports c start started w earlier

/-- The record names a leaf, with at most a millisecond less than the time that its open takes. -/
def Recalls (settings : CacheSettings) (leaf : Leaf) (took : Duration) (w : World) : Prop :=
  ∃ cached, settings.recorded w = some cached ∧ cached.transport = leaf.name ∧
    took < Duration.ofMillis (cached.latency.toNat + 1)

section

variable {settings : CacheSettings} {transports : List (String × Strategy)} {child : Strategy}
  {context : Context} {leaf : Leaf} {took : Duration} {w w₀ start : World}

theorem CacheSettings.lt_of_recorded {cached : CacheRecord}
    (h : settings.recorded w = some cached) : settings.cache < w.caches.length := by
  refine Nat.lt_of_not_le fun hle => ?_
  rw [CacheSettings.recorded, World.cache, List.getElem?_eq_none hle] at h
  cases hdemand : settings.encrypted <;> rw [hdemand] at h <;> cases h

/-- What a cached node leaves has the time since the last phase began. -/
theorem Recalls.of_recorded {latest : Visit} {started : Instant}
    (hrecord : settings.recorded latest.after = some ⟨latest.after.wallClock, leaf.name,
      Duration.millisWord (latest.after.now - started)⟩)
    (htook : took ≤ latest.after.now - started) (hclock : latest.after.OnClock) :
    Recalls settings leaf took latest.after :=
  ⟨_, hrecord, rfl, Nat.lt_of_le_of_lt htook
    (Duration.lt_ofMillis_succ (Nat.lt_of_le_of_lt (Nat.sub_le _ _) hclock))⟩

/-- The clock stays in range. -/
theorem Run.onClock {node : Strategy} {visit : Visit} {earlier : List Visit}
    {outcome : Poll Progress} (hstart : w₀.OnClock)
    (run : Run Ticks (node.poll context) w₀ (visit :: earlier) outcome) : visit.after.OnClock := by
  have hmoment := (run.since Ticks.now).1 visit List.mem_cons_self
  rw [World.OnClock, hmoment.2]
  cases run with
  | first => exact hstart
  | again _ hticks => exact hticks.clock

section

variable {c : Context}

/-- A retry of the leaf is answered within its bound, so that it is never given up. -/
theorem Retry.answered {cached : CacheRecord}
    (retry : Retry settings transports start cached (.transport leaf))
    (htook : took < Duration.ofMillis (cached.latency.toNat + 1))
    (hanswered : ∀ {visit earlier outcome},
      Run settings.Quiet (leaf.poll c) start (visit :: earlier) outcome →
      Answered leaf c took start visit earlier outcome)
    {w started : World} {earlier : List Visit} :
    ¬ FullStart settings.Quiet settings transports c start started w earlier := by
  -- the bound lies beyond the moment at which the open connects
  have hbound : start.now + took < retryBound start cached := by
    refine Nat.add_lt_add_left (Nat.lt_of_lt_of_le htook ?_) start.now
    exact Nat.mul_le_mul_right _ (by omega)
  intro hstart
  cases hstart with
  | direct hnone => exact hnone cached _ retry
  | failed retry' run =>
    obtain ⟨rfl, rfl⟩ := retry.unique retry'
    obtain ⟨-, connection, hok, -⟩ := (hanswered run).connects _ rfl
    cases hok
  | outOfTime retry' run hdue =>
    obtain ⟨rfl, rfl⟩ := retry.unique retry'
    obtain ⟨hwaits, -⟩ := (hanswered run).waits _ rfl
    exact absurd (Nat.lt_trans hwaits hbound) (Nat.not_lt_of_le hdue)

/-- While the record names the leaf, a connect that resumes opens the leaf and nothing else, and
leaves the record refreshed. -/
theorem Recalls.redialled (h : Recalls settings leaf took w)
    (hlisted : Table.find transports leaf.name = some (.transport leaf))
    (httl : settings.ttl < Duration.ofMillis UInt64.size)
    (hencrypted : c.encrypted = settings.encrypted) (hpriority : c.minPriority ≤ leaf.priority)
    (hresumes : Resumes settings leaf took w start) {started : Instant} {latest : Visit}
    {earlier : List Visit} {outcome : Poll Progress}
    (course : Course settings.Quiet settings transports child c start started (latest :: earlier)
      outcome) :
    Redialled settings transports c leaf took start latest earlier outcome := by
  obtain ⟨cached, hcached, hname, htook⟩ := h
  have hrecorded : settings.recorded start = some cached := hresumes.recorded.trans hcached
  have retry : Retry settings transports start cached (.transport leaf) :=
    ⟨hrecorded, CacheRecord.isFresh_of_le httl (hresumes.fresh cached hrecorded), hname ▸ hlisted⟩
  have hanswered : ∀ {visit : Visit} {earlier : List Visit} {outcome : Poll Progress},
      Run settings.Quiet (leaf.poll c) start (visit :: earlier) outcome →
      Answered leaf c took start visit earlier outcome := fun run =>
    run.answered hpriority (hencrypted ▸ hresumes.supported) (hencrypted ▸ hresumes.answers)
  have hunexplored : ∀ {w started : World} {earlier : List Visit},
      ¬ FullStart settings.Quiet settings transports c start started w earlier :=
    retry.answered htook hanswered
  generalize hvisits : latest :: earlier = visits at course
  cases course with
  | retrying retry' run _ =>
    obtain ⟨rfl, rfl⟩ := retry.unique retry'
    obtain ⟨rfl, rfl⟩ := List.cons.inj hvisits
    obtain ⟨honce, hwaits, -⟩ := hanswered run
    exact ⟨hencrypted ▸ honce, fun _ _ => (hwaits _ rfl).1, nofun, nofun, hunexplored⟩
  | @reconnected _ _ visit before connection retry' run =>
    obtain ⟨rfl, rfl⟩ := retry.unique retry'
    have hcourse : Course settings.Quiet settings transports child c start start.now _
        (.ready (.ok connection)) := .reconnected retry' run
    have hleft := hcourse.recorded (fun h => h.caches) (CacheSettings.lt_of_recorded hrecorded) _
      rfl
    obtain ⟨rfl, rfl⟩ := List.cons.inj hvisits
    obtain ⟨honce, -, hconnects⟩ := hanswered run
    obtain ⟨hdue, _, ⟨⟩, hmade⟩ := hconnects _ rfl
    refine ⟨hencrypted ▸ honce, nofun, ?_, ?_, hunexplored⟩
    · rintro _ ⟨⟩
      exact ⟨hdue, connection, rfl, hmade⟩
    · rintro _ ⟨⟩
      rw [hleft, hmade.transport]
  | full hstart _ => exact absurd hstart hunexplored

end

/-! ### The first connect -/

/-- What happens in a run happens in the visits in which it was polled. -/
theorem Run.mem_framed {between : World → World → Prop} {node : Strategy} {c : Context}
    (hgrows : Grows w start) {visits : List Visit} {outcome : Poll Progress}
    (run : Run between (node.poll c) start visits outcome) :
    ∀ (finish : World → World), (∀ w, (finish w).log = w.log) →
      ∀ event ∈ eventsOf visits, event ∈ eventsOf (framed w finish visits) := by
  induction run with
  | first =>
    intro finish hfinish event hm
    obtain ⟨added, hadded⟩ := node.poll_grows c .unstarted start
    obtain ⟨before, hbefore⟩ := hgrows
    have hlog : (finish (node.poll c .unstarted start).2).log = (added ++ before) ++ w.log := by
      rw [hfinish, ← hadded, ← hbefore, List.append_assoc]
    rw [eventsOf, List.flatMap_singleton, Visit.events_eq hadded.symm] at hm
    rw [framed, eventsOf, List.flatMap_singleton, Visit.events_eq hlog]
    exact List.mem_append_left _ hm
  | @again visit earlier p w' run hbetween ih =>
    intro finish hfinish event hm
    have hlatest : (Visit.mk w' (finish (node.poll c p w').2)).events =
        (Visit.mk w' (node.poll c p w').2).events := by
      rw [Visit.events, Visit.events, hfinish]
    rw [framed, eventsOf, List.flatMap_cons, hlatest]
    rcases List.mem_append.mp hm with hm | hm
    · exact List.mem_append_left _ hm
    · exact List.mem_append_right _ (ih id (fun _ => rfl) event hm)

/-- Until the strategy below a cached node starts, the log has only grown. -/
theorem FullStart.grows {between : World → World → Prop} {c : Context} {earlier : List Visit}
    (h : FullStart between settings transports c w₀ start w earlier) : Grows w start := by
  cases h with
  | direct _ => exact List.suffix_rfl
  | @failed _ entry visit _ _ _ run =>
    exact run.visited (entry.poll_grows c) visit List.mem_cons_self
  | @outOfTime _ entry visit _ p _ run _ =>
    have hvisit : Grows visit.before visit.after :=
      run.visited (entry.poll_grows c) visit List.mem_cons_self
    exact hvisit.trans ((grows_frame entry c).cancel visit.after p.inFlight)

/-- When a course connects, the winner was opened after its last phase began. -/
theorem Course.won {c : Context} {started : Instant} {latest : Visit} {earlier : List Visit}
    {connection : Connection}
    (course : Course Ticks settings transports child c w₀ started (latest :: earlier)
      (.ready (.ok connection))) :
    ∃ leaf request opened,
      Won (.cached settings transports child) c (latest :: earlier) latest.after connection leaf ∧
      .opened connection.socket.opened leaf request opened ∈ eventsOf (latest :: earlier) ∧
      started ≤ opened := by
  generalize hvisits : latest :: earlier = visits at course
  generalize houtcome : Poll.ready (.ok connection) = outcome at course
  cases course with
  | retrying _ _ _ => cases houtcome
  | @reconnected cached entry visit before connection' retry run =>
    cases houtcome
    obtain ⟨rfl, rfl⟩ := List.cons.inj hvisits
    obtain ⟨leaf, hwon⟩ := run.won fun h => h.opens
    obtain ⟨request, opened, hm⟩ := hwon.opened
    have hsince := (run.since Ticks.now).2 _ hm
    exact ⟨leaf, request, opened, ⟨⟨request, opened, hm⟩, hwon.made,
      hwon.within.trans (.entry (Table.mem_of_find retry.known) .self), hwon.priority⟩, hm, hsince⟩
  | @full start w before inner result hstart run =>
    cases result with
    | pending p => cases houtcome
    | ready result =>
      cases houtcome
      obtain ⟨visit, rest, rfl⟩ := run.exists_cons
      obtain ⟨leaf, hwon⟩ := run.won fun h => h.opens
      obtain ⟨request, opened, hm⟩ := hwon.opened
      have hsince := (run.since Ticks.now).2 _ hm
      have hmem := run.mem_framed hstart.grows
        (settleCache settings start.now (.ready (.ok connection))) (fun _ => rfl) _ hm
      have hevent := List.mem_append_left (eventsOf before) hmem
      rw [eventsOf, eventsOf, ← List.flatMap_append] at hevent
      obtain ⟨_, _, hframed⟩ := framed_cons w
        (settleCache settings start.now (.ready (.ok connection))) visit rest
      rw [hframed] at hvisits
      obtain ⟨rfl, rfl⟩ := List.cons.inj hvisits
      exact ⟨leaf, request, opened, ⟨⟨request, opened, hevent⟩, hwon.made,
        hwon.within.trans (.cached .self), hwon.priority⟩, hevent, hsince⟩

/-! ### One connect after the other -/

theorem Redials.recalls (h : Recalls settings leaf took w₀)
    (hlisted : Table.find transports leaf.name = some (.transport leaf))
    (httl : settings.ttl < Duration.ofMillis UInt64.size)
    (hpriority : context.minPriority ≤ leaf.priority)
    (redials : Redials settings ((Strategy.cached settings transports child).poll context) leaf took
      w₀ w) : Recalls settings leaf took w := by
  induction redials with
  | first => exact h
  | @again w start latest earlier result _ hresumes run ih =>
    obtain ⟨started, course⟩ := run.course
    have hredialled := ih.redialled (c := { context with encrypted := settings.encrypted }) hlisted
      httl rfl hpriority hresumes course
    obtain ⟨hdue, -⟩ := hredialled.connects result rfl
    have hticks := run.mono CacheSettings.Quiet.toTicks
    have hmoment := (hticks.since Ticks.now).1 latest List.mem_cons_self
    refine .of_recorded (hredialled.refreshed result rfl) ?_ (hticks.onClock hresumes.clock)
    exact Nat.le_sub_of_add_le' (hmoment.2 ▸ hdue)

/-- The steady state of a cached node of a built tree whose plan defines every name once. Say that
a connect has succeeded through a leaf, whatever others did meanwhile, and its open took some time.
Then every further connect that resumes soon enough, where the leaf is supported and its open takes
this time again, opens the leaf, once, and nothing else. It connects when the open has had its time,
leaves the record refreshed, and never starts the strategy below the node. -/
theorem steady_state {builder : Builder} {options : BuildOptions} {site : Site}
    {program : Program} {strategy : Strategy} {latest : Visit} {earlier : List Visit}
    {connection : Connection}
    (hbuild : builder.build options site program = .ok strategy)
    (hdistinct : program.transports.Nodup)
    (hwithin : Strategy.Within (.cached settings transports child) strategy)
    (httl : settings.ttl < Duration.ofMillis UInt64.size)
    (hcache : settings.cache < w₀.caches.length) (hclock : w₀.OnClock)
    (run : Run Ticks ((Strategy.cached settings transports child).poll context) w₀
      (latest :: earlier) (.ready (.ok connection))) :
    ∃ leaf request opened,
      Won (.cached settings transports child) context (latest :: earlier) latest.after connection
        leaf ∧
      .opened connection.socket.opened leaf request opened ∈ eventsOf (latest :: earlier) ∧
      ∀ took ≤ latest.before.now - opened, ∀ w start,
        Redials settings ((Strategy.cached settings transports child).poll context) leaf took
          latest.after w →
        Resumes settings leaf took w start →
        ∀ visit before outcome,
          Run settings.Quiet ((Strategy.cached settings transports child).poll context) start
            (visit :: before) outcome →
          Redialled settings transports { context with encrypted := settings.encrypted } leaf took
            start visit before outcome := by
  obtain ⟨started, course⟩ := run.course
  obtain ⟨leaf, request, opened, hwon, hopened, hstarted⟩ := course.won
  -- the names are distinct, so the table lists the winner itself
  obtain ⟨other, hlisted, -, honce⟩ := Builder.build_lists hbuild hwithin hwon.within
  obtain rfl := honce (List.nodup_iff_count_le_one.mp hdistinct leaf.name)
  have hrecord := course.recorded (fun h => h.caches) hcache latest rfl
  rw [hwon.made.transport] at hrecord
  have hmoment := (run.since Ticks.now).1 latest List.mem_cons_self
  refine ⟨other, request, opened, ⟨hwon.opened, hwon.made, hwon.within, hwon.priority⟩, hopened, ?_⟩
  intro took htook w start redials hresumes visit before outcome hrun
  have htook : took ≤ latest.after.now - started := by
    rw [hmoment.2]
    exact Nat.le_trans htook (Nat.sub_le_sub_left hstarted _)
  have hrecalls := redials.recalls (.of_recorded hrecord htook (run.onClock hclock)) hlisted httl
    hwon.priority
  obtain ⟨_, hcourse⟩ := hrun.course
  exact hrecalls.redialled hlisted httl rfl hwon.priority hresumes hcourse

end

/-! A cached race of two transports, the first of which never answers. -/

def steadyBuilder : Builder := ⟨[("x", 0), ("y", 1)], 0⟩

def steadyProgram : Program :=
  [.defTransport "a" "x" 0 none,
    .defTransport "b" "y" 0 none,
    .define "strategy" (.invocation "cached" [.literal (.number (.unsigned 60000)),
      .invocation "first_connected" [.symbol "a", .symbol "b"]])]

def steadySettings : CacheSettings := ⟨Duration.ofMillis 60000, false, 0⟩

/-- The transport that wins. -/
def steadyLeaf : Leaf := ⟨"b", "y", 0, 1, [], none⟩

def steadyTable : List (String × Strategy) :=
  [("a", .transport ⟨"a", "x", 0, 0, [], none⟩), ("b", .transport steadyLeaf)]

def steadyChild : Strategy :=
  .firstConnected [.transport ⟨"a", "x", 0, 0, [], none⟩, .transport steadyLeaf]

def steadyPoller : Poller := (Strategy.cached steadySettings steadyTable steadyChild).poll .plain

def steadyWorld : World :=
  .initial 0
    [⟨"x", true, true, .scripted [.hang]⟩,
      ⟨"y", true, true, .scripted [.connect (Duration.ofMillis 5)]⟩] [.empty]

/-- A world at some milliseconds. -/
def steadyAt (w : World) (ms : Nat) : World := { w with now := Duration.ofMillis ms }

/-- A visit then of something in progress. -/
def steadyVisit (p : Progress) (w : World) (ms : Nat) : Visit :=
  ⟨steadyAt w ms, (steadyPoller p (steadyAt w ms)).2⟩

/-- The first connect opens both, and the second one connects. -/
def steadyOpens : Visit := steadyVisit .unstarted steadyWorld 0

def steadyConnects : Visit :=
  steadyVisit (.uncached 0 (.racing none false [0, 1]
    [.running (.opening 1 0 none),
      .running (.opening 2 0 (some (⟨Duration.ofMillis 5, 0⟩, none)))] [])) steadyOpens.after 5

/-- The next connect. -/
def steadyRetries : Visit := steadyVisit .unstarted steadyConnects.after 10

def steadyReconnects : Visit :=
  steadyVisit (.retrying ⟨Duration.ofMillis 1020, 0⟩ (Duration.ofMillis 10) "b"
    (.opening 3 (Duration.ofMillis 10) (some (⟨Duration.ofMillis 15, 0⟩, none))))
    steadyRetries.after 15

/-- The one after that starts. -/
def steadyRetriesAgain : Visit := steadyVisit .unstarted steadyReconnects.after 20

/-- The second of two further connects has opened the transport that won, and nothing else. -/
theorem steady_state_second_redial :
    ∃ p, Redials steadySettings steadyPoller steadyLeaf (Duration.ofMillis 5) steadyConnects.after
        steadyReconnects.after ∧
      Run steadySettings.Quiet steadyPoller steadyRetriesAgain.before [steadyRetriesAgain]
        (.pending p) ∧
      Redialled steadySettings steadyTable .plain steadyLeaf (Duration.ofMillis 5)
        steadyRetriesAgain.before steadyRetriesAgain [] (.pending p) := by
  have hbuild : steadyBuilder.build .default [] steadyProgram =
      .ok (.cached steadySettings steadyTable steadyChild) := by rfl
  have opens : Run Ticks steadyPoller steadyWorld [steadyOpens] _ := .first
  have run : Run Ticks steadyPoller steadyWorld [steadyConnects, steadyOpens]
      (.ready (.ok ⟨1, "b", 0, Duration.ofMillis 5, ⟨"y", 2⟩⟩)) :=
    opens.again ⟨⟨by decide, by rfl⟩, by decide, by decide⟩
  have hsteady := steady_state hbuild (by decide) .self (by decide) (by decide) (by decide) run
  obtain ⟨leaf, request, opened, -, hm, hsteady⟩ := hsteady
  have hevents : eventsOf [steadyConnects, steadyOpens] = [
      .cancelled 1 (Duration.ofMillis 5), .connected 2 (Duration.ofMillis 5),
      .opened 2 steadyLeaf ⟨"b", none, false, []⟩ 0,
      .opened 1 ⟨"a", "x", 0, 0, [], none⟩ ⟨"a", none, false, []⟩ 0] := by rfl
  obtain ⟨rfl, rfl, rfl⟩ : leaf = steadyLeaf ∧ request = ⟨"b", none, false, []⟩ ∧ opened = 0 := by
    simpa [hevents] using hm
  have hfirst : Resumes steadySettings steadyLeaf (Duration.ofMillis 5) steadyConnects.after
      steadyRetries.before := by
    refine ⟨⟨⟨⟨by decide, by rfl⟩, by decide, by decide⟩, by rfl⟩, ?_, by decide, by rfl⟩
    intro cached hcached
    obtain rfl : ⟨5, "b", 5⟩ = cached := Option.some.inj (.trans (by decide) hcached)
    decide
  have retries : Run steadySettings.Quiet steadyPoller steadyRetries.before [steadyRetries] _ :=
    .first
  have reconnects : Run steadySettings.Quiet steadyPoller steadyRetries.before
      [steadyReconnects, steadyRetries] (.ready (.ok ⟨2, "b", 0, Duration.ofMillis 5, ⟨"y", 3⟩⟩)) :=
    retries.again ⟨⟨⟨by decide, by rfl⟩, by decide, by decide⟩, by rfl⟩
  have redials := Redials.first.again hfirst reconnects
  have hsecond : Resumes steadySettings steadyLeaf (Duration.ofMillis 5) steadyReconnects.after
      steadyRetriesAgain.before := by
    refine ⟨⟨⟨⟨by decide, by rfl⟩, by decide, by decide⟩, by rfl⟩, ?_, by decide, by rfl⟩
    intro cached hcached
    obtain rfl : ⟨15, "b", 5⟩ = cached := Option.some.inj (.trans (by decide) hcached)
    decide
  have again : Run steadySettings.Quiet steadyPoller steadyRetriesAgain.before
      [steadyRetriesAgain] _ := .first
  exact ⟨_, redials, again, hsteady _ (by decide) _ _ redials hsecond _ _ _ again⟩

end Dialplan
