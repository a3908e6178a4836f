import Dialplan.Proofs.Build.Names
import Dialplan.Proofs.Cached.Protocol
import Dialplan.Proofs.Opens.Authorised
import Dialplan.Proofs.Opens.SingleWinner

/-! What a cached node retries. Its record has the name of the transport that won, no more. What
it retries is the transport that its table lists under this name: the winner itself, unless the
plan has defined the name again before the node was made (`retries_namesake`). -/

namespace Dialplan

/-- Between two polls of an attempt others go on. They may use every cache, but numbers of opens
are not given again, and no cache is added or goes away. -/
structure Meanwhile (w w' : World) : Prop where
  opens : w.opens ≤ w'.opens
  caches : w'.caches.length = w.caches.length

section

variable {between : World → World → Prop} {node : Strategy} {context : Context} {w₀ : World}
  {latest : Visit} {earlier : List Visit} {connection : Connection}

/-- The opens of a run are requests that its attempt may make. -/
theorem Run.requests {visits : List Visit} {outcome : Poll Progress}
    (run : Run between (node.poll context) w₀ visits outcome) {number : Nat} {leaf : Leaf}
    {request : OpenRequest} {time : Instant}
    (h : .opened number leaf request time ∈ eventsOf visits) :
    ∃ supports, Requests node context supports leaf request := by
  obtain ⟨visit, hvisit, hm⟩ := List.mem_flatMap.mp h
  have hopens := run.visited (Strategy.poll_requests .root) visit hvisit
  exact ⟨_, hopens.of_events hm⟩

/-- The leaf that has won a run: it lies within the tree, and its priority is at least what the
attempt demands. -/
structure Won (node : Strategy) (context : Context) (visits : List Visit) (after : World)
    (connection : Connection) (leaf : Leaf) : Prop where
  opened : OpenedIn (eventsOf visits) leaf connection.socket.opened
  made : MadeBy leaf connection.socket.opened after.kind connection
  within : Strategy.Within (.transport leaf) node
  priority : context.minPriority ≤ leaf.priority

/-- A run that connects has a winner. -/
theorem Run.won (hopens : ∀ {w w'}, between w w' → w.opens ≤ w'.opens)
    (run : Run between (node.poll context) w₀ (latest :: earlier) (.ready (.ok connection))) :
    ∃ leaf, Won node context (latest :: earlier) latest.after connection leaf := by
  obtain ⟨_, _, ⟨⟩, hstanding⟩ := (run.mono hopens).standing
  obtain ⟨leaf, hopened, hmade⟩ := hstanding.made connection rfl
  obtain ⟨request, time, hm⟩ := hopened
  obtain ⟨_, hrequest⟩ := run.requests hm
  obtain ⟨underCache, c, hreaches, hpriority, -⟩ := hrequest
  refine ⟨leaf, ⟨request, time, hm⟩, hmade, hreaches.within, ?_⟩
  rwa [hreaches.minPriority] at hpriority

end

section

variable {settings : CacheSettings} {transports : List (String × Strategy)}
  {child entry : Strategy} {context : Context} {w w₀ : World} {cached : CacheRecord}

/-- A cached node that has a record to retry starts with the entry of its table. -/
theorem Retry.poll_eq (retry : Retry settings transports w cached entry) :
    (Strategy.cached settings transports child).poll context .unstarted w =
      pollRetry settings
        (fun _ p w => entry.poll { context with encrypted := settings.encrypted } p w)
        (fun p w => child.poll { context with encrypted := settings.encrypted } p w)
        (retryTimer w cached) w.now cached.transport .unstarted w := by
  have hfresh : freshRecord? settings w = some cached := by
    unfold freshRecord?
    rw [retry.recorded]
    exact if_pos retry.fresh
  have hentry : ∀ c, Strategy.pollNamed transports cached.transport c = entry.poll c := by
    intro c
    rw [Strategy.pollNamed_eq, retry.known]
    rfl
  rw [Strategy.poll]
  unfold pollCached
  dsimp only
  rw [hfresh]
  dsimp only
  rw [if_pos (by rw [retry.known]; rfl), retryTimer_eq]
  unfold pollRetry
  dsimp only
  rw [hentry]

/-- After a connect of a cached node of a built tree has succeeded through a leaf, its record has
the name of the leaf. As long as the record stands and is fresh, the node retries a transport of
this name; if the plan defines the name only once, it is that leaf. -/
theorem retries_namesake {builder : Builder} {options : BuildOptions} {site : Site}
    {program : Program} {strategy : Strategy} {latest : Visit} {earlier : List Visit}
    {connection : Connection}
    (hbuild : builder.build options site program = .ok strategy)
    (hwithin : Strategy.Within (.cached settings transports child) strategy)
    (hcache : settings.cache < w₀.caches.length)
    (run : Run Meanwhile ((Strategy.cached settings transports child).poll context) w₀
      (latest :: earlier) (.ready (.ok connection))) :
    ∃ leaf other cached,
      Won (.cached settings transports child) context (latest :: earlier) latest.after connection
        leaf ∧
      other.name = leaf.name ∧
      (program.transports.count leaf.name ≤ 1 → other = leaf) ∧
      settings.recorded latest.after = some cached ∧ cached.transport = leaf.name ∧
      ∀ w, settings.recorded w = some cached →
        cached.isFresh settings.ttl w.wallClock = true →
        Retry settings transports w cached (.transport other) ∧
        (Strategy.cached settings transports child).poll context .unstarted w =
          pollRetry settings
            (fun _ p w => other.poll { context with encrypted := settings.encrypted } p w)
            (fun p w => child.poll { context with encrypted := settings.encrypted } p w)
            (retryTimer w cached) w.now leaf.name .unstarted w := by
  obtain ⟨leaf, hwon⟩ := run.won Meanwhile.opens
  obtain ⟨other, hfind, hname, honce⟩ := Builder.build_lists hbuild hwithin hwon.within
  obtain ⟨started, course⟩ := run.course
  have hrecord := course.recorded Meanwhile.caches hcache latest rfl
  rw [hwon.made.transport] at hrecord
  refine ⟨leaf, other, _, hwon, hname, honce, hrecord, rfl, fun w hw hfresh => ?_⟩
  have retry : Retry settings transports w _ (.transport other) := ⟨hw, hfresh, hfind⟩
  exact ⟨retry, retry.poll_eq⟩

end

/-! A plan that defines a name again, for another type. What connects is the old definition, which
another name still stands for. -/

def renamedBuilder : Builder := ⟨[("a", 0), ("b", 1)], 0⟩

def renamedProgram : Program :=
  [.defTransport "ws" "a" 1 none,
    .define "old" (.symbol "ws"),
    .defTransport "ws" "b" 2 none,
    .define "strategy" (.invocation "cached" [.literal (.number (.unsigned 60000)), .symbol "old"])]

def renamedOld : Leaf := ⟨"ws", "a", 1, 0, [], none⟩

def renamedNew : Leaf := ⟨"ws", "b", 2, 1, [], none⟩

def renamedSettings : CacheSettings := ⟨Duration.ofMillis 60000, false, 0⟩

def renamedStrategy : Strategy :=
  .cached renamedSettings [("ws", .transport renamedNew)] (.transport renamedOld)

def renamedWorld : World := .initial 0 [.ready "a", .ready "b"] [.empty]

/-- A connect in a world, of which the first poll is all that there is. -/
def renamedVisit (w : World) : Visit := ⟨w, (renamedStrategy.poll .plain .unstarted w).2⟩

/-- The old definition has won, and the new one is what is retried. -/
theorem retries_namesake_renamed :
    ∃ connection leaf other cached,
      Run Meanwhile (renamedStrategy.poll .plain) renamedWorld [renamedVisit renamedWorld]
        (.ready (.ok connection)) ∧
      Won renamedStrategy .plain [renamedVisit renamedWorld] (renamedVisit renamedWorld).after
        connection leaf ∧
      Retry renamedSettings [("ws", .transport renamedNew)] (renamedVisit renamedWorld).after
        cached (.transport other) ∧ other.name = leaf.name := by
  have hbuild : renamedBuilder.build .default [] renamedProgram = .ok renamedStrategy := by rfl
  have run : Run Meanwhile (renamedStrategy.poll .plain) renamedWorld
      [renamedVisit renamedWorld] (.ready (.ok ⟨1, "ws", 1, 0, ⟨"a", 1⟩⟩)) := .first
  obtain ⟨leaf, other, cached, hwon, hname, -, hrecord, -, hretries⟩ :=
    retries_namesake hbuild .self (by decide) run
  obtain rfl : ⟨0, "ws", 0⟩ = cached := Option.some.inj (.trans (by decide) hrecord)
  obtain ⟨retry, -⟩ := hretries _ hrecord (by decide)
  exact ⟨_, leaf, other, _, run, hwon, retry, hname⟩

/-- So a record that stands and is fresh does not lead back to the winner: the next connect opens
a transport of another type, with another priority. -/
theorem renamed_retries_other :
    ∃ connection cached,
      renamedBuilder.build .default [] renamedProgram = .ok renamedStrategy ∧
      Run Meanwhile (renamedStrategy.poll .plain) renamedWorld [renamedVisit renamedWorld]
        (.ready (.ok connection)) ∧
      OpenedIn (renamedVisit renamedWorld).events renamedOld connection.socket.opened ∧
      Retry renamedSettings [("ws", .transport renamedNew)] (renamedVisit renamedWorld).after
        cached (.transport renamedNew) ∧
      OpenedIn (renamedVisit (renamedVisit renamedWorld).after).events renamedNew 2 ∧
      renamedNew ≠ renamedOld := by
  refine ⟨⟨1, "ws", 1, 0, ⟨"a", 1⟩⟩, ⟨0, "ws", 0⟩, by rfl, .first, ?_, ?_, ?_, ?_⟩
  · exact ⟨⟨"ws", none, false, []⟩, 0, List.mem_cons_of_mem _ List.mem_cons_self⟩
  · exact ⟨by decide, by decide, by rfl⟩
  · exact ⟨⟨"ws", none, false, []⟩, 0, List.mem_cons_of_mem _ List.mem_cons_self⟩
  · intro h
    have htype : "b" = "a" := congrArg Leaf.type h
    exact absurd htype (by decide)

end Dialplan
