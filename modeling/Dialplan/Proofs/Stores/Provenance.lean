import Dialplan.Proofs.Attempts.Shared
import Dialplan.Proofs.Build.Nodes
import Dialplan.Proofs.Stores.Footprint

/-! The provenance of cache records. However many attempts on strategies of different builds
share caches, every record tells of a connection that was made below a cached node of its
partition, as encrypted as the partition says, when the record says (`records_sourced`). -/

namespace Dialplan

/-- A record in a partition tells of the success of an open in a turn. -/
structure Tells (turn : SharedTurn) (leaf : Leaf) (number : Nat) (cache : Nat)
    (encrypted : Bool) (cached : CacheRecord) : Prop where
  /-- The record names a definition of the plan. -/
  name : cached.transport = leaf.name
  defined : Defined turn.built.builder turn.built.options turn.built.site turn.built.program leaf
  /-- An open of it, as encrypted as the partition says, has connected in the turn. -/
  opened : ∃ time, .opened number leaf ⟨leaf.name, leaf.key, encrypted, leaf.options⟩ time ∈
    turn.visit.after.log
  connected : .connected number turn.visit.before.now ∈ turn.visit.events
  /-- No other open has this number. -/
  once : (numbers .opened turn.visit.after.log).Nodup
  /-- The open was made below a cached node of the partition. -/
  below : ∃ underCache settings transports child c inner demands,
    Strategy.Reaches turn.built.strategy turn.context underCache
      (.cached settings transports child) c ∧
    settings.cache = cache ∧ settings.encrypted = encrypted ∧
    Strategy.Reaches (.cached settings transports child) c inner (.transport leaf) demands
  /-- The record was written then. -/
  timestamp : cached.timestamp = turn.visit.before.wallClock

/-- Some turn has left a record in a partition. -/
def Sourced (turns : List SharedTurn) (cache : Nat) (encrypted : Bool) (cached : CacheRecord) :
    Prop :=
  ∃ turn ∈ turns, ∃ leaf number, Tells turn leaf number cache encrypted cached

/-- What an attempt has in progress fits its strategy, which is the one that was built. -/
structure Tenant (w : World) (built : Built) (attempt : Attempt) : Prop where
  strategy : attempt.strategy = built.strategy
  holds : ∀ p, attempt.task = .running p →
    Holds (OpenedAt w) attempt.strategy attempt.context p

theorem Tenant.grows {w w' : World} {built : Built} {attempt : Attempt} (hg : Grows w w')
    (h : Tenant w built attempt) : Tenant w' built attempt :=
  ⟨h.strategy, fun p hp => (h.holds p hp).mono fun _ _ _ ho => ho.grows hg⟩

/-- So it is when nothing is in progress. -/
theorem Tenant.idle {w : World} {built : Built} {attempt : Attempt}
    (h : attempt.strategy = built.strategy) (hidle : ∀ p, attempt.task ≠ .running p) :
    Tenant w built attempt :=
  ⟨h, fun p hp => absurd hp (hidle p)⟩

/-- What is done with the handle of an attempt, and its publishing, leave it with what it had in
progress, or without. -/
theorem Tenant.handle {w : World} {built : Built} {attempt : Attempt} {step : Attempt.Step}
    (h : Tenant w built attempt) (hstep : ∀ w, step ≠ .turn w) :
    Tenant w built (attempt.step step) := by
  cases step with
  | turn w' => exact absurd rfl (hstep w')
  | publish =>
    rw [Attempt.step, Attempt.publish]
    split
    · split
      · exact .idle h.strategy (by simp)
      · exact .idle h.strategy (by simp)
    · exact h
  | cancel | drop =>
    rw [Attempt.step, Attempt.cancel]
    split
    · exact ⟨h.strategy, h.holds⟩
    · exact h
  | ask | poll => exact h

/-- The footprint of a turn. -/
theorem Tenant.run {w : World} {built : Built} {attempt : Attempt} (h : Tenant w built attempt) :
    Grows w (attempt.run w).2 ∧ Tenant (attempt.run w).2 built (attempt.run w).1 ∧
      (Unstored built.strategy attempt.context w (attempt.run w).2 ∨
        ∃ connection, Delivers built.strategy attempt.context built.strategy attempt.context
          connection w (attempt.run w).2) := by
  obtain ⟨strategy, context, state, aborted, task, channel⟩ := attempt
  obtain ⟨rfl, hholds⟩ := h
  cases task with
  | running p =>
    cases aborted with
    | true =>
      have hrun : (Attempt.run ⟨built.strategy, context, state, true, .running p, channel⟩ w).2 =
          w.cancel p.inFlight := rfl
      refine ⟨(grows_frame built.strategy context).cancel w _, .idle rfl (by simp [Attempt.run]), .inl ?_⟩
      rw [hrun, w.cancel_eq]
      exact (Unstored.refl w).of_eq rfl rfl
    | false =>
      have hgrows := built.strategy.poll_grows context p w
      have hyields := Strategy.poll_footprint .root (hholds p rfl)
      simp only [Attempt.run, Bool.false_eq_true, ↓reduceIte]
      generalize built.strategy.poll context p w = polled at hgrows hyields ⊢
      obtain ⟨answer, w'⟩ := polled
      cases answer with
      | pending p =>
        obtain ⟨hp, hu⟩ := hyields
        refine ⟨hgrows, ⟨rfl, ?_⟩, .inl hu⟩
        rintro _ ⟨⟩
        exact hp
      | ready result =>
        cases result with
        | error e => exact ⟨hgrows, .idle rfl (by simp), .inl hyields⟩
        | ok connection => exact ⟨hgrows, .idle rfl (by simp), .inr ⟨connection, hyields⟩⟩
  | finished result | ended =>
    exact ⟨List.suffix_rfl, .idle rfl (by simp [Attempt.run]), .inl (.refl w)⟩

/-- A record that a delivered connection leaves is sourced. -/
theorem Delivers.tells {built : Built} {context : Context} {connection : Connection}
    {w w' : World} (hnumbered : Numbered w')
    (h : Delivers built.strategy context built.strategy context connection w w')
    {cache : Nat} {encrypted : Bool} {cached : CacheRecord}
    (hrecord : w'.partition cache encrypted = some cached) :
    w.partition cache encrypted = some cached ∨
      ∃ leaf number, Tells ⟨built, context, w, w'⟩ leaf number cache encrypted cached := by
  have hmade := Builder.build_made built.made
  obtain ⟨path, leaf, demands, w₁, hpath, hconnects, hup⟩ := h
  have hby := hconnects.connectedBy hup.grows
  rcases (hup.storedAlong hconnects.unstored hconnects.moment).partitions cache encrypted with
    hsame | ⟨hnone, -⟩ | ⟨settings, transports, child, took, hm, rfl, rfl, hstored⟩
  · exact .inl (hsame ▸ hrecord)
  · rw [hnone] at hrecord
    cases hrecord
  · obtain rfl := Option.some.inj (hstored.symm.trans hrecord)
    have hleaf := hpath.reaches .root
    obtain ⟨below, c, hcached, rest, hrest⟩ := hpath.through .root hm
    -- the leaf lies below a cached node, so the build decides about encryption
    have hencrypted : demands.encrypted = settings.encrypted := by
      have hunder : path.any Strategy.isCached = true :=
        List.any_eq_true.mpr ⟨_, hm, rfl⟩
      rw [hleaf.context_eq fun _ _ _ hw => (hmade.settings hw).1, hunder,
        (hmade.settings hcached.within).1]
      rfl
    refine .inr ⟨leaf, connection.socket.opened, hby.transport, hmade.defined hleaf.within, ?_, ?_,
      hnumbered.nodup, ⟨below, settings, transports, child, c, _, demands, hcached, rfl, rfl,
        hrest.reaches .root⟩, rfl⟩
    · rw [← hencrypted]
      exact hby.opened
    · obtain ⟨added, hlog, hconnected⟩ := hby.connected
      rwa [Visit.events_eq hlog]

/-- Shared attempts hold what they have in progress, and every record has its source. -/
structure Traced (turns : List SharedTurn) (w : World) (attempts : List (Built × Attempt)) :
    Prop where
  tenants : ∀ tenant ∈ attempts, Tenant w tenant.1 tenant.2
  sourced : ∀ cache encrypted cached, w.partition cache encrypted = some cached →
    Sourced turns cache encrypted cached

/-- What happens to one attempt, and lets the log grow, leaves the others with what they have in
progress. -/
theorem tenants_set {w w' : World} {attempts : List (Built × Attempt)} {i : Nat} {built : Built}
    {attempt : Attempt} (hg : Grows w w') (h : ∀ tenant ∈ attempts, Tenant w tenant.1 tenant.2)
    (hi : Tenant w' built attempt) :
    ∀ tenant ∈ attempts.set i (built, attempt), Tenant w' tenant.1 tenant.2 := by
  intro tenant hm
  rcases List.mem_or_eq_of_mem_set hm with hm | rfl
  · exact (h tenant hm).grows hg
  · exact hi

theorem Sourced.cons {turns : List SharedTurn} {cache : Nat} {encrypted : Bool}
    {cached : CacheRecord} (h : Sourced turns cache encrypted cached) (turn : SharedTurn) :
    Sourced (turn :: turns) cache encrypted cached := by
  obtain ⟨earlier, hm, hrest⟩ := h
  exact ⟨earlier, List.mem_cons_of_mem _ hm, hrest⟩

theorem Sharing.traced {turns : List SharedTurn} {w : World} {attempts : List (Built × Attempt)}
    (h : Sharing turns w attempts) : Traced turns w attempts := by
  induction h with
  | start w hempty _ =>
    refine ⟨List.forall_mem_nil _, fun cache encrypted cached hrecord => ?_⟩
    have hnone : w.partition cache encrypted = none := hempty cache encrypted
    rw [hnone] at hrecord
    cases hrecord
  | spawn built context _ ih =>
    refine ⟨fun tenant hm => ?_, ih.sourced⟩
    rcases List.mem_append.mp hm with hm | hm
    · exact ih.tenants tenant hm
    · obtain rfl := List.mem_singleton.mp hm
      refine ⟨rfl, ?_⟩
      rintro _ ⟨⟩
      exact .unstarted
  | @turn turns w attempts i built attempt h hi ih =>
    have hnumbered := (h.turn hi).numbered
    obtain ⟨hgrows, htenant, hstored⟩ := (ih.tenants _ (List.mem_of_getElem? hi)).run
    refine ⟨tenants_set hgrows ih.tenants htenant, fun cache encrypted cached hrecord => ?_⟩
    rcases hstored with hu | ⟨connection, hdelivers⟩
    · rcases hu.partitions cache encrypted with hsame | ⟨hnone, -⟩
      · exact (ih.sourced _ _ _ (hsame ▸ hrecord)).cons _
      · cases hnone.symm.trans hrecord
    · rcases hdelivers.tells hnumbered hrecord with hsame | ⟨leaf, number, htells⟩
      · exact (ih.sourced _ _ _ hsame).cons _
      · exact ⟨_, List.mem_cons_self, leaf, number, htells⟩
  | handle step _ hi hstep ih =>
    exact ⟨tenants_set List.suffix_rfl ih.tenants
      ((ih.tenants _ (List.mem_of_getElem? hi)).handle hstep), ih.sourced⟩
  | @drop turns w attempts i built attempt _ hi ih =>
    have hgrows : Grows w (attempt.progress.abandon w) :=
      (grows_frame attempt.strategy attempt.context).cancel w _
    refine ⟨fun tenant hm => (ih.tenants tenant (List.mem_of_mem_eraseIdx hm)).grows hgrows,
      fun cache encrypted cached hrecord => ih.sourced _ _ _ ?_⟩
    rwa [Progress.abandon, w.cancel_eq] at hrecord
  | @elapse turns w attempts w' _ he ih =>
    have hgrows : Grows w w' := ⟨[], he.log.symm⟩
    refine ⟨fun tenant hm => (ih.tenants tenant hm).grows hgrows,
      fun cache encrypted cached hrecord => ih.sourced _ _ _ ?_⟩
    rwa [World.partition, World.cache, he.caches] at hrecord

/-- Every record has its source: whichever strategies of whichever builds share the caches, and
however their attempts are interleaved, cancelled and dropped. -/
theorem records_sourced {turns : List SharedTurn} {w : World} {attempts : List (Built × Attempt)}
    (h : Sharing turns w attempts) {cache : Nat} {encrypted : Bool} {cached : CacheRecord}
    (hrecord : (w.cache cache).fetch encrypted = some cached) :
    Sourced turns cache encrypted cached :=
  h.traced.sourced cache encrypted cached hrecord

/-! Two builds of one plan with one cache, one for encrypted connections and one for plain ones. -/

def sharedProgram : Program :=
  [.defTransport "a" "ws" 0 none,
    .define "strategy" (.invocation "cached" [.literal (.number (.unsigned 1000)), .symbol "a"])]

def sharedStrategy (encrypted : Bool) : Strategy :=
  .cached ⟨Duration.ofMillis 1000, encrypted, 0⟩ [("a", .transport ⟨"a", "ws", 0, 0, [], none⟩)]
    (.transport ⟨"a", "ws", 0, 0, [], none⟩)

def sharedBuilt (encrypted : Bool) : Built where
  builder := ⟨[("ws", 0)], 0⟩
  options := { BuildOptions.default with encrypted := encrypted }
  site := []
  program := sharedProgram
  strategy := sharedStrategy encrypted
  made := by cases encrypted <;> rfl

def sharedWorld : World := .initial 0 [.ready "ws"] [.empty]

/-- A turn of an attempt on one of the builds. -/
def sharedTurn (encrypted : Bool) (w : World) : SharedTurn :=
  ⟨sharedBuilt encrypted, .plain, w, ((Attempt.start (sharedStrategy encrypted) .plain).run w).2⟩

/-- The world after a turn on the build for encrypted connections, and then one on the other. -/
def sharedLater : World := (sharedTurn false (sharedTurn true sharedWorld).visit.after).visit.after

/-- Both partitions are filled, and each record has its source. -/
theorem records_sourced_two_builds :
    ∃ turns attempts, Sharing turns sharedLater attempts ∧
      (sharedLater.cache 0).fetch true = some ⟨0, "a", 0⟩ ∧
      (sharedLater.cache 0).fetch false = some ⟨0, "a", 0⟩ ∧
      Sourced turns 0 true ⟨0, "a", 0⟩ ∧ Sourced turns 0 false ⟨0, "a", 0⟩ := by
  have hempty : ∀ number encrypted, (sharedWorld.cache number).fetch encrypted = none := by
    intro number encrypted
    cases number <;> cases encrypted <;> rfl
  have hspawned := ((Sharing.start sharedWorld hempty rfl).spawn (sharedBuilt true) .plain).spawn
    (sharedBuilt false) .plain
  have hshared : Sharing [sharedTurn false (sharedTurn true sharedWorld).visit.after,
      sharedTurn true sharedWorld] sharedLater _ :=
    (hspawned.turn (i := 0) rfl).turn (i := 1) rfl
  exact ⟨_, _, hshared, by decide, by decide, records_sourced hshared (by decide),
    records_sourced hshared (by decide)⟩

end Dialplan
