import Dialplan.Proofs.Attempts.SideBySide
import Dialplan.Proofs.Build.Nodes
import Dialplan.Proofs.Opens.Requests

/-! Authorised opens. Whatever attempts on a built strategy do, side by side and over any cache
content, every open is one that the plan, the options of the build and the demands of its
attempt allow (`every_open_authorised`). -/

namespace Dialplan

/-- An open of a leaf that the plan and the options of a build allow an attempt, where some
connections are supported. -/
structure Authorised (builder : Builder) (options : BuildOptions) (site : Site)
    (program : Program) (strategy : Strategy) (context : Context)
    (supports : Nat → Bool → Bool) (leaf : Leaf) (request : OpenRequest) : Prop where
  /-- The leaf is that of an enabled definition, with the mechanism registered for its type
  and the options that it evaluated to. -/
  defined : Defined builder options site program leaf
  name : request.name = leaf.name
  fields : request.options = leaf.options
  key : request.key = options.key
  priority : context.minPriority ≤ leaf.priority
  supported : supports leaf.mechanism request.encrypted = true
  /-- Below a cached node the build decides about encryption, and elsewhere the attempt. -/
  encrypted : ∃ underCache c, Strategy.Reaches strategy context underCache (.transport leaf) c ∧
    request.encrypted = if underCache then options.encrypted else context.encrypted

section

variable {builder : Builder} {options : BuildOptions} {site : Site} {program : Program}
  {strategy : Strategy}

theorem AllMade.authorised (h : AllMade builder options site program strategy)
    {context : Context} {supports : Nat → Bool → Bool} {leaf : Leaf} {request : OpenRequest}
    (hr : Requests strategy context supports leaf request) :
    Authorised builder options site program strategy context supports leaf request := by
  obtain ⟨underCache, c, hreaches, hpriority, hsupports, rfl⟩ := hr
  have hc := hreaches.context_eq fun _ _ _ hw => (h.settings hw).1
  have hdefined := h.defined hreaches.within
  obtain ⟨_, _, _, _, hd⟩ := h.defined hreaches.within
  refine ⟨hdefined, rfl, rfl, hd.key, ?_, hsupports, underCache, c, hreaches, ?_⟩
  · rwa [hc] at hpriority
  · rw [hc]

/-- What a visit opens, when between its worlds every open met a condition. -/
theorem OpensOnly.of_events {condition : (Nat → Bool → Bool) → Leaf → OpenRequest → Prop}
    {w w' : World} (h : OpensOnly condition w w') {number : Nat} {leaf : Leaf}
    {request : OpenRequest} {time : Instant}
    (hm : .opened number leaf request time ∈ (Visit.mk w w').events) :
    condition w.supports leaf request := by
  obtain ⟨-, events, hlog, hall⟩ := h
  rw [Visit.events_eq hlog] at hm
  exact hall number leaf request time hm

/-- Every open is authorised: in any interleaving of any number of attempts on a built
strategy, in any worlds. And so is what the poll of each node opens that an attempt comes to:
the build decides about encryption there, if the way to the node or on to the leaf leads
through a cached node, and else the attempt. -/
theorem every_open_authorised (h : builder.build options site program = .ok strategy) :
    (∀ {turns w attempts}, SideBySide strategy turns w attempts →
      ∀ turn ∈ turns, ∀ {number leaf request time},
        .opened number leaf request time ∈ turn.visit.events →
        Authorised builder options site program strategy turn.context
          turn.visit.before.supports leaf request) ∧
    (∀ {context underCache node c}, Strategy.Reaches strategy context underCache node c →
      ∀ p w {number leaf request time},
        .opened number leaf request time ∈ (Visit.mk w (node.poll c p w).2).events →
        ∃ below c', Strategy.Reaches node c below (.transport leaf) c' ∧
          request.encrypted =
            if underCache || below then options.encrypted else context.encrypted) := by
  have hmade := Builder.build_made h
  constructor
  · intro turns w attempts hrun turn hturn number leaf request time hm
    have hopens := hrun.keeps (requests_frame strategy) turn hturn
    exact hmade.authorised (hopens.of_events hm)
  · intro context underCache node c hreaches p w number leaf request time hm
    have hnode := hmade.below hreaches.within
    have hopens : OpensOnly _ w (node.poll c p w).2 := Strategy.poll_requests .root p w
    obtain ⟨below, c', hleaf, he⟩ := (hnode.authorised (hopens.of_events hm)).encrypted
    have hc := congrArg Context.encrypted
      (hreaches.context_eq fun _ _ _ hw => (hmade.settings hw).1)
    refine ⟨below, c', hleaf, ?_⟩
    rw [he, hc]
    cases below with
    | true => simp
    | false => simp

end

/-! A build with one transport, which is only reached through a cached node. -/

def sealedOptions : BuildOptions := { BuildOptions.default with encrypted := true, key := some "k" }

def sealedBuilder : Builder := ⟨[("ws", 0)], 0⟩

def sealedProgram : Program :=
  [.defTransport "a" "ws" 5 (some (.literal (.map [("host", .string "example.org")]))),
    .define "strategy" (.invocation "cached" [.literal (.number (.unsigned 1000)), .symbol "a"])]

def sealedLeaf : Leaf := ⟨"a", "ws", 5, 0, [("host", .string "example.org")], some "k"⟩

def sealedStrategy : Strategy :=
  .cached ⟨Duration.ofMillis 1000, true, 0⟩ [("a", .transport sealedLeaf)] (.transport sealedLeaf)

def sealedWorld : World := .initial 0 [.ready "ws"] [.empty]

/-- The turn of an attempt that does not ask for encryption. -/
def sealedTurn : Turn :=
  ⟨.plain, sealedWorld, ((Attempt.start sealedStrategy .plain).run sealedWorld).2⟩

/-- The open of the turn is encrypted, as the build says. -/
theorem sealed_open_authorised :
    sealedBuilder.build sealedOptions [] sealedProgram = .ok sealedStrategy ∧
    Authorised sealedBuilder sealedOptions [] sealedProgram sealedStrategy .plain
      sealedWorld.supports sealedLeaf ⟨"a", some "k", true, sealedLeaf.options⟩ := by
  have hbuild : sealedBuilder.build sealedOptions [] sealedProgram = .ok sealedStrategy := by rfl
  have hrun : SideBySide sealedStrategy [sealedTurn] sealedTurn.visit.after _ :=
    ((SideBySide.start sealedWorld).spawn .plain).run (i := 0) rfl
  have hopened : .opened 1 sealedLeaf ⟨"a", some "k", true, sealedLeaf.options⟩ 0 ∈
      sealedTurn.visit.events := List.mem_cons_of_mem _ List.mem_cons_self
  exact ⟨hbuild, (every_open_authorised hbuild).1 hrun sealedTurn List.mem_cons_self hopened⟩

end Dialplan
