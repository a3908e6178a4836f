import Dialplan.Proofs.Build.Nodes
import Dialplan.Proofs.Cached.Course
import Dialplan.Proofs.Cached.Partition

/-! The protocol of cached nodes. A cached node of a built tree takes its course, and what it
leaves in its partition says how that ended (`cached_protocol`). While it is in progress
others leave the other partitions as they are. -/

namespace Dialplan

/-- Others have spared all partitions but that of these settings. -/
abbrev CacheSettings.Undisturbed (settings : CacheSettings) : World → World → Prop :=
  Spares settings.cache settings.encrypted

/-- The record in the partition of a cached node. -/
def CacheSettings.recorded (settings : CacheSettings) (w : World) : Option CacheRecord :=
  (w.cache settings.cache).fetch settings.encrypted

section

variable {between : World → World → Prop} {settings : CacheSettings}
  {transports : List (String × Strategy)} {child : Strategy} {c : Context} {w₀ : World}

theorem length_flushCache (w : World) :
    (w.flushCache settings).caches.length = w.caches.length :=
  List.length_set

theorem recorded_storeCache {w : World} (h : settings.cache < w.caches.length)
    (transport : String) (took : Duration) :
    settings.recorded (w.storeCache settings transport took) =
      some ⟨w.wallClock, transport, took.millisWord⟩ :=
  World.fetch_setCache_put h _ _

theorem recorded_flushCache {w : World} (h : settings.cache < w.caches.length) :
    settings.recorded (w.flushCache settings) = none :=
  World.fetch_setCache_put h _ _

/-- What is promised of a run of a cached node. -/
structure CachedProtocol (settings : CacheSettings) (transports : List (String × Strategy))
    (child : Strategy) (c : Context) (w₀ : World) (visits : List Visit)
    (outcome : Poll Progress) : Prop where
  /-- It takes its course. When it connects, its partition names the transport, with the
  present time and the time that the last phase took. -/
  course : ∃ started,
    Course settings.Undisturbed settings transports child c w₀ started visits outcome ∧
    ∀ connection, outcome = .ready (.ok connection) → ∀ visit ∈ visits.head?,
      settings.recorded visit.after = some ⟨visit.after.wallClock, connection.transport,
        Duration.millisWord (visit.after.now - started)⟩
  /-- When it fails, its partition is empty. -/
  failed : ∀ e, outcome = .ready (.error e) → ∀ visit ∈ visits.head?,
    settings.recorded visit.after = none
  /-- The strategy below is started at the moment the retry is given up, and by then the
  partition is empty. -/
  emptied : ∀ {start w earlier},
    FullStart settings.Undisturbed settings transports c w₀ start w earlier →
    start.now = w.now ∧ ((∃ cached entry, Retry settings transports w₀ cached entry) →
      settings.recorded start = none)
  /-- A retry that is waited for has no answer yet, so one that connects within its bound is
  never given up. -/
  unanswered : ∀ {cached entry visit earlier p}, Retry settings transports w₀ cached entry →
    Run settings.Undisturbed (entry.poll c) w₀ (visit :: earlier) (.pending p) →
    ∃ number started answer, p = .opening number started answer ∧
      ∀ timer failure, answer = some (timer, failure) → visit.before.now < timer.deadline
  /-- All other partitions stay as they are. -/
  spared : ∀ visit ∈ visits, Spares settings.cache settings.encrypted w₀ visit.after

/-- The cached nodes of a tree share the partition of these settings. -/
def SharesPartition (settings : CacheSettings) (node : Strategy) : Prop :=
  ∀ {settings' transports child},
    Strategy.Within (.cached settings' transports child) node →
    settings'.encrypted = settings.encrypted ∧ settings'.cache = settings.cache

theorem Run.cacheCount (hbetween : ∀ {w w'}, between w w' → w'.caches.length = w.caches.length)
    {node : Strategy} {context : Context} {visits : List Visit} {outcome : Poll Progress}
    (run : Run between (node.poll context) w₀ visits outcome) :
    ∀ visit ∈ visits, visit.after.caches.length = w₀.caches.length := by
  have frame := cacheCount_frame node context
  have hkeeps := run.keeps (R := fun w w' => w'.caches.length = w.caches.length) frame.refl
    frame.trans hbetween (frame.poll node .root)
  exact fun visit hm => (hkeeps visit hm).2

theorem Run.spares {node : Strategy} {context : Context} {visits : List Visit}
    {outcome : Poll Progress} (h : SharesPartition settings node)
    (run : Run settings.Undisturbed (node.poll context) w₀ visits outcome) :
    ∀ visit ∈ visits, Spares settings.cache settings.encrypted w₀ visit.after := by
  have hkeeps := run.keeps Spares.refl Spares.trans id
    ((spares_frame context h).poll node .root)
  exact fun visit hm => (hkeeps visit hm).2

/-- The strategy below a cached node starts with the partition emptied, if there was a retry. -/
theorem FullStart.emptied
    (hbetween : ∀ {w w'}, between w w' → w'.caches.length = w.caches.length)
    (hcache : settings.cache < w₀.caches.length) {start w : World} {earlier : List Visit}
    (h : FullStart between settings transports c w₀ start w earlier) :
    start.now = w.now ∧ settings.cache < start.caches.length ∧
      ((∃ cached entry, Retry settings transports w₀ cached entry) →
        settings.recorded start = none) := by
  cases h with
  | direct hnone =>
    refine ⟨rfl, hcache, ?_⟩
    rintro ⟨cached, entry, retry⟩
    exact absurd retry (hnone cached entry)
  | @failed cached entry visit earlier e retry run =>
    have hlength := run.cacheCount hbetween visit List.mem_cons_self
    rw [← hlength] at hcache
    obtain ⟨p, hp⟩ := run.latest
    have hnow := (entry.poll_clock c p visit.before).now
    rw [hp] at hnow
    exact ⟨hnow, lt_of_lt_of_eq hcache (length_flushCache _).symm,
      fun _ => recorded_flushCache hcache⟩
  | @outOfTime cached entry visit earlier p retry run hbound =>
    have hlength := run.cacheCount hbetween visit List.mem_cons_self
    rw [← hlength] at hcache
    obtain ⟨q, hq⟩ := run.latest
    have hnow := (entry.poll_clock c q visit.before).now
    rw [hq] at hnow
    have habandon := (clock_frame entry c).cancel visit.after p.inFlight
    rw [← (cacheCount_frame entry c).cancel visit.after p.inFlight] at hcache
    exact ⟨habandon.now.trans hnow, lt_of_lt_of_eq hcache (length_flushCache _).symm,
      fun _ => recorded_flushCache hcache⟩

/-- What a cached node leaves in its partition when it is done. -/
theorem recorded_finishCached {w : World} (h : settings.cache < w.caches.length)
    (started : Instant) (result : Except Error Connection) :
    settings.recorded (finishCached settings started result w) =
      match result with
      | .ok connection =>
        some ⟨w.wallClock, connection.transport, Duration.millisWord (w.now - started)⟩
      | .error _ => none := by
  cases result with
  | ok connection => exact recorded_storeCache h _ _
  | error e => exact recorded_flushCache h

/-- When a course is over, the latest visit ends with the partition settled. -/
theorem Course.finished
    (hbetween : ∀ {w w'}, between w w' → w'.caches.length = w.caches.length)
    (hcache : settings.cache < w₀.caches.length) {started : Instant} {visits : List Visit}
    {result : Except Error Connection}
    (h : Course between settings transports child c w₀ started visits (.ready result)) :
    ∀ visit ∈ visits.head?, ∃ w, visit.after = finishCached settings started result w ∧
      settings.cache < w.caches.length := by
  generalize houtcome : Poll.ready result = outcome at h
  cases h with
  | retrying _ _ _ => cases houtcome
  | @reconnected cached entry visit earlier connection retry run =>
    cases houtcome
    have hlength := run.cacheCount hbetween visit List.mem_cons_self
    rintro _ ⟨⟩
    exact ⟨visit.after, rfl, lt_of_lt_of_eq hcache hlength.symm⟩
  | @full start w earlier inner answer hstart run =>
    cases answer with
    | pending p => cases houtcome
    | ready answer =>
      cases houtcome
      obtain ⟨latest, before, rfl⟩ := run.exists_cons
      have hlength := run.cacheCount hbetween latest List.mem_cons_self
      obtain ⟨-, hstart, -⟩ := hstart.emptied hbetween hcache
      obtain ⟨_, _, hframed⟩ := framed_cons w (settleCache settings start.now (.ready result))
        latest before
      rw [hframed]
      rintro _ ⟨⟩
      exact ⟨latest.after, rfl, lt_of_lt_of_eq hstart hlength.symm⟩

/-- What a course that connects leaves in the partition. -/
theorem Course.recorded
    (hbetween : ∀ {w w'}, between w w' → w'.caches.length = w.caches.length)
    (hcache : settings.cache < w₀.caches.length) {started : Instant} {visits : List Visit}
    {connection : Connection}
    (h : Course between settings transports child c w₀ started visits (.ready (.ok connection))) :
    ∀ visit ∈ visits.head?, settings.recorded visit.after = some ⟨visit.after.wallClock,
      connection.transport, Duration.millisWord (visit.after.now - started)⟩ := by
  intro visit hm
  obtain ⟨w, hafter, hw⟩ := h.finished hbetween hcache visit hm
  rw [hafter, recorded_finishCached hw]
  rfl

/-- The protocol of a cached node of a built tree, in any world that has its cache and under
any demands. Between its visits others may even use its own partition. -/
theorem cached_protocol {builder : Builder} {options : BuildOptions} {site : Site}
    {program : Program} {strategy : Strategy} {context : Context} {visits : List Visit}
    {outcome : Poll Progress}
    (hbuild : builder.build options site program = .ok strategy)
    (hwithin : Strategy.Within (.cached settings transports child) strategy)
    (hcache : settings.cache < w₀.caches.length)
    (run : Run settings.Undisturbed ((Strategy.cached settings transports child).poll context)
      w₀ visits outcome) :
    CachedProtocol settings transports child { context with encrypted := settings.encrypted } w₀
      visits outcome := by
  -- one build gives all its cached nodes the same partition, nested ones included
  have hnode := (Builder.build_made hbuild).below hwithin
  have hshares : SharesPartition settings (.cached settings transports child) := by
    intro settings' transports' child' hw
    obtain ⟨he, hc⟩ := hnode.settings hw
    obtain ⟨he', hc'⟩ := hnode.settings .self
    exact ⟨he.trans he'.symm, hc.trans hc'.symm⟩
  obtain ⟨started, course⟩ := run.course
  refine ⟨⟨started, course, ?_⟩, ?_, ?_, ?_, run.spares hshares⟩
  · rintro connection rfl visit hm
    exact course.recorded Spares.length hcache visit hm
  · rintro e rfl visit hm
    obtain ⟨w, hafter, hw⟩ := course.finished Spares.length hcache visit hm
    rw [hafter, recorded_finishCached hw]
  · intro start w earlier hstart
    obtain ⟨hnow, -, hempty⟩ := hstart.emptied Spares.length hcache
    exact ⟨hnow, hempty⟩
  · intro cached entry visit earlier p retry hrun
    obtain ⟨q, hq⟩ := hrun.latest
    cases hnode.listed .self _ (Table.mem_of_find retry.known) with
    | transport _ => exact Leaf.poll_pending hq
    | unsupported => cases hq

end

/-! A cached node whose record names a transport that connects again. -/

def recallBuilder : Builder := ⟨[("ws", 0)], 0⟩

def recallProgram : Program :=
  [.defTransport "a" "ws" 0 none,
    .define "strategy" (.invocation "cached" [.literal (.number (.unsigned 60000)), .symbol "a"])]

def recallSettings : CacheSettings := ⟨Duration.ofMillis 60000, false, 0⟩

def recallLeaf : Strategy := .transport ⟨"a", "ws", 0, 0, [], none⟩

/-- The transport took ten milliseconds last time, and takes five this time. -/
def recallWorld : World :=
  .initial 0 [⟨"ws", true, true, .scripted [.connect (Duration.ofMillis 5)]⟩]
    [⟨none, some ⟨0, "a", 10⟩⟩]

def recallPoller : Poller :=
  (Strategy.cached recallSettings [("a", recallLeaf)] recallLeaf).poll .plain

/-- The world in which the transport has had its time. -/
def recallLater : World :=
  { (recallPoller .unstarted recallWorld).2 with now := Duration.ofMillis 5 }

/-- The recorded transport connects, and is recorded again with its new time. -/
theorem cached_protocol_recall :
    ∃ visits connection,
      Run recallSettings.Undisturbed recallPoller recallWorld visits (.ready (.ok connection)) ∧
      (visits.head?.bind fun visit => recallSettings.recorded visit.after) = some ⟨5, "a", 5⟩ ∧
      CachedProtocol recallSettings [("a", recallLeaf)] recallLeaf .plain recallWorld visits
        (.ready (.ok connection)) := by
  have hbuild : recallBuilder.build .default [] recallProgram =
      .ok (.cached recallSettings [("a", recallLeaf)] recallLeaf) := by rfl
  have started : Run recallSettings.Undisturbed recallPoller recallWorld
      [⟨recallWorld, (recallPoller .unstarted recallWorld).2⟩]
      (.pending (.retrying ⟨Duration.ofMillis 1020, 0⟩ 0 "a"
        (.opening 1 0 (some (⟨Duration.ofMillis 5, 0⟩, none))))) := .first
  have run := started.again (w := recallLater) (.of_caches_eq rfl)
  exact ⟨_, _, run, by decide, cached_protocol hbuild .self (by decide) run⟩

end Dialplan
