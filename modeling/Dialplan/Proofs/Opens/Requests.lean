import Dialplan.Proofs.Polling.Frame

/-! Requests. A poll of a tree opens only leaves that it reaches, with the demands that it
has there; the request carries the name, the key and the options of the leaf
(`Strategy.poll_requests`). -/

namespace Dialplan

theorem Mechanism.supports_afterOpen (mechanism : Mechanism) (encrypted : Bool) :
    mechanism.afterOpen.supports encrypted = mechanism.supports encrypted := by
  unfold Mechanism.afterOpen
  split <;> rfl

/-- An open leaves it as it was which connections are supported. -/
theorem World.supports_openTransport (w : World) (leaf : Leaf) (encrypted : Bool) :
    (w.openTransport leaf encrypted).2.supports = w.supports := by
  funext mechanism demand
  show ((w.mechanisms.modify leaf.mechanism Mechanism.afterOpen)[mechanism]?).any _ =
    (w.mechanisms[mechanism]?).any _
  rw [List.getElem?_modify]
  split
  · cases w.mechanisms[mechanism]? with
    | none => rfl
    | some found => exact found.supports_afterOpen demand
  · cases w.mechanisms[mechanism]? with
    | none => rfl
    | some found => rfl

/-- The request is one that an attempt may make of a leaf, where some connections are
supported: it can reach the leaf, with demands that the leaf's priority and mechanism meet. -/
def Requests (root : Strategy) (context : Context) (supports : Nat → Bool → Bool) (leaf : Leaf)
    (request : OpenRequest) : Prop :=
  ∃ underCache c, Strategy.Reaches root context underCache (.transport leaf) c ∧
    c.minPriority ≤ leaf.priority ∧ supports leaf.mechanism c.encrypted = true ∧
    request = ⟨leaf.name, leaf.key, c.encrypted, leaf.options⟩

/-- Between two worlds every open met a condition, which may depend on what is supported. -/
def OpensOnly (condition : (Nat → Bool → Bool) → Leaf → OpenRequest → Prop) (w w' : World) :
    Prop :=
  w'.supports = w.supports ∧ ∃ events, w'.log = events ++ w.log ∧
    ∀ number leaf request time, .opened number leaf request time ∈ events →
      condition w.supports leaf request

namespace OpensOnly

variable {condition : (Nat → Bool → Bool) → Leaf → OpenRequest → Prop}

theorem refl (w : World) : OpensOnly condition w w := ⟨rfl, [], rfl, nofun⟩

theorem trans {a b c : World} (hab : OpensOnly condition a b) (hbc : OpensOnly condition b c) :
    OpensOnly condition a c := by
  obtain ⟨hs, events, hlog, h⟩ := hab
  obtain ⟨hs', events', hlog', h'⟩ := hbc
  refine ⟨hs'.trans hs, events' ++ events, by rw [hlog', hlog, List.append_assoc], ?_⟩
  intro number leaf request time hm
  rcases List.mem_append.mp hm with hm | hm
  · exact hs ▸ h' number leaf request time hm
  · exact h number leaf request time hm

/-- What is logged and is no open meets every condition. -/
theorem logged {w : World} {event : Event}
    (h : ∀ number leaf request time, event ≠ .opened number leaf request time)
    {w' : World} (hs : w'.supports = w.supports) (hlog : w'.log = event :: w.log) :
    OpensOnly condition w w' := by
  refine ⟨hs, [event], hlog, fun number leaf request time hm => ?_⟩
  exact absurd (List.mem_singleton.mp hm).symm (h number leaf request time)

end OpensOnly

theorem requests_frame (root : Strategy) (context : Context) :
    FrameAt root context (OpensOnly (Requests root context)) where
  refl := OpensOnly.refl
  trans := OpensOnly.trans
  connected _ _ _ _ := OpensOnly.logged (by simp) rfl rfl
  failed _ _ := OpensOnly.logged (by simp) rfl rfl
  cancelled _ _ := OpensOnly.logged (by simp) rfl rfl
  remembered _ w _ := OpensOnly.refl w
  stored _ w _ _ := OpensOnly.refl w
  flushed _ w := OpensOnly.refl w
  opened := by
    intro underCache leaf c h w hpriority hsupports
    refine ⟨w.supports_openTransport leaf c.encrypted, [_], rfl, ?_⟩
    intro number leaf' request time hm
    obtain ⟨-, rfl, rfl, -⟩ := Event.opened.inj (List.mem_singleton.mp hm)
    exact ⟨underCache, c, h, hpriority, hsupports, rfl⟩

/-- A poll of a node that an attempt has reached opens only what it may. -/
theorem Strategy.poll_requests {root node : Strategy} {context c : Context} {underCache : Bool}
    (h : Reaches root context underCache node c) :
    Keeps (OpensOnly (Requests root context)) (node.poll c) :=
  (requests_frame root context).poll node h

end Dialplan
