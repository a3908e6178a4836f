import Dialplan.Proofs.Polling.Custody

/-! The ledger of opens. Every open is settled once, when it connects, fails or is cancelled,
and until then it is in flight. The ledger balances over any part of a log that one attempt
has written, and every poll keeps it balanced (`ledger_custody`). -/

namespace Dialplan

namespace Event

/-- What can happen to an open. -/
inductive Kind where
  | opened
  | connected
  | failed
  | cancelled
deriving DecidableEq

def kind : Event → Kind
  | opened _ _ _ _ => .opened
  | connected _ _ => .connected
  | failed _ _ => .failed
  | cancelled _ _ => .cancelled

/-- The open that it happened to. -/
def number : Event → Nat
  | opened number _ _ _ => number
  | connected number _ => number
  | failed number _ => number
  | cancelled number _ => number

end Event

/-- The opens to which something happened, latest first. -/
def numbers (kind : Event.Kind) (events : List Event) : List Nat :=
  (events.filter fun event => event.kind = kind).map Event.number

theorem numbers_append (kind : Event.Kind) (events earlier : List Event) :
    numbers kind (events ++ earlier) = numbers kind events ++ numbers kind earlier := by
  simp [numbers]

/-- The opens of some events balance: none was opened twice, and each is among the winners,
has failed, was cancelled or is in flight. -/
structure Balanced (events : List Event) (winners : List Nat) (opens : Nat)
    (inFlight : Multiset Nat) : Prop where
  nodup : (numbers .opened events).Nodup
  bounded : ∀ number ∈ numbers .opened events, number ≤ opens
  wins : numbers .connected events = winners
  balance : (numbers .opened events : Multiset Nat) =
    winners + numbers .failed events + numbers .cancelled events + inFlight

namespace Balanced

variable {events : List Event} {winners : List Nat} {opens : Nat} {rest : Multiset Nat}

theorem empty (opens : Nat) : Balanced [] [] opens 0 := by
  refine ⟨List.nodup_nil, nofun, rfl, ?_⟩
  simp [numbers]

theorem mono {opens' : Nat} (h : Balanced events winners opens rest) (hle : opens ≤ opens') :
    Balanced events winners opens' rest :=
  ⟨h.nodup, fun n hn => (h.bounded n hn).trans hle, h.wins, h.balance⟩

theorem opened (h : Balanced events winners opens rest) (leaf : Leaf) (request : OpenRequest)
    (time : Instant) :
    Balanced (.opened (opens + 1) leaf request time :: events) winners (opens + 1)
      ((opens + 1) ::ₘ rest) := by
  have hnew : opens + 1 ∉ numbers .opened events := fun hn => by
    have := h.bounded _ hn
    omega
  refine ⟨List.nodup_cons.mpr ⟨hnew, h.nodup⟩, ?_, h.wins, ?_⟩
  · exact List.forall_mem_cons.mpr ⟨le_rfl, (h.mono (Nat.le_succ opens)).bounded⟩
  · calc ((opens + 1) ::ₘ (numbers .opened events : Multiset Nat))
        = (opens + 1) ::ₘ
            (winners + numbers .failed events + numbers .cancelled events + rest) := by
          rw [h.balance]
      _ = winners + numbers .failed events + numbers .cancelled events +
            ((opens + 1) ::ₘ rest) := by rw [Multiset.add_cons]

theorem connected {number : Nat} (h : Balanced events [] opens (number ::ₘ rest))
    (time : Instant) : Balanced (.connected number time :: events) [number] opens rest := by
  refine ⟨h.nodup, h.bounded, ?_, ?_⟩
  · show number :: numbers .connected events = [number]
    rw [h.wins]
  · calc (numbers .opened events : Multiset Nat)
        = ([] : List Nat) + numbers .failed events + numbers .cancelled events +
            (number ::ₘ rest) := h.balance
      _ = ([number] : List Nat) + numbers .failed events + numbers .cancelled events + rest := by
          rw [Multiset.coe_nil, zero_add, Multiset.add_cons, Multiset.coe_singleton,
            Multiset.singleton_add, Multiset.cons_add, Multiset.cons_add]

theorem failed {number : Nat} (h : Balanced events winners opens (number ::ₘ rest))
    (time : Instant) : Balanced (.failed number time :: events) winners opens rest := by
  refine ⟨h.nodup, h.bounded, h.wins, ?_⟩
  calc (numbers .opened events : Multiset Nat)
      = winners + numbers .failed events + numbers .cancelled events + (number ::ₘ rest) :=
        h.balance
    _ = winners + (number ::ₘ (numbers .failed events : Multiset Nat)) +
          numbers .cancelled events + rest := by
        rw [Multiset.add_cons, Multiset.add_cons, Multiset.cons_add, Multiset.cons_add]

theorem cancelled {number : Nat} (h : Balanced events winners opens (number ::ₘ rest))
    (time : Instant) : Balanced (.cancelled number time :: events) winners opens rest := by
  refine ⟨h.nodup, h.bounded, h.wins, ?_⟩
  calc (numbers .opened events : Multiset Nat)
      = winners + numbers .failed events + numbers .cancelled events + (number ::ₘ rest) :=
        h.balance
    _ = winners + numbers .failed events +
          (number ::ₘ (numbers .cancelled events : Multiset Nat)) + rest := by
        rw [Multiset.add_cons, Multiset.add_cons, Multiset.cons_add]

/-- In a balanced ledger, no two opens share a fate. -/
theorem perm {inFlight : List Nat} (h : Balanced events winners opens inFlight) :
    (numbers .opened events).Perm
      (winners ++ numbers .failed events ++ numbers .cancelled events ++ inFlight) := by
  have := h.balance
  rwa [Multiset.coe_add, Multiset.coe_add, Multiset.coe_add, Multiset.coe_eq_coe] at this

end Balanced

/-! ### The ledger of an attempt -/

/-- What an attempt has logged by now: what it logged earlier, and what has been added to the
log since its present poll began. -/
def Logged (base earlier : List Event) (w : World) (events : List Event) : Prop :=
  ∃ added, w.log = added ++ base ∧ events = added ++ earlier

theorem Logged.record {base earlier events : List Event} {w : World}
    (h : Logged base earlier w events) (event : Event) :
    Logged base earlier (w.record event) (event :: events) := by
  obtain ⟨added, hlog, rfl⟩ := h
  exact ⟨event :: added, by rw [World.record, hlog]; rfl, rfl⟩

/-- The ledger of the attempt balances. -/
def InBalance (base earlier : List Event) (winners : List Nat) (w : World)
    (inFlight : Multiset Nat) : Prop :=
  ∃ events, Logged base earlier w events ∧ Balanced events winners w.opens inFlight

/-- Among some events, a leaf has made an open with this number. -/
def OpenedIn (events : List Event) (leaf : Leaf) (number : Nat) : Prop :=
  ∃ request time, .opened number leaf request time ∈ events

/-- A leaf has made an open with this number in the attempt. -/
def OpenedBy (base earlier : List Event) (w : World) (leaf : Leaf) (number : Nat) : Prop :=
  ∃ events, Logged base earlier w events ∧ OpenedIn events leaf number

/-- The connection is the one that an open of a leaf made: it has the leaf's name and
priority, and the socket of the leaf's mechanism and of that open. -/
structure MadeBy (leaf : Leaf) (number : Nat) (kind : Nat → String) (connection : Connection) :
    Prop where
  transport : connection.transport = leaf.name
  priority : connection.priority = leaf.priority
  socket : connection.socket = ⟨kind leaf.mechanism, number⟩

/-- The attempt has one winner, whose connection this is. -/
def WonBy (base earlier : List Event) (connection : Connection) (w : World)
    (inFlight : Multiset Nat) : Prop :=
  InBalance base earlier [connection.socket.opened] w inFlight ∧
    ∃ leaf, OpenedBy base earlier w leaf connection.socket.opened ∧
      MadeBy leaf connection.socket.opened w.kind connection

section

variable {base earlier : List Event}

theorem OpenedBy.grows {w w' : World} {leaf : Leaf} {number : Nat} (hg : Grows w w')
    (h : OpenedBy base earlier w leaf number) : OpenedBy base earlier w' leaf number := by
  obtain ⟨_, ⟨added, hlog, rfl⟩, request, time, hm⟩ := h
  obtain ⟨more, hmore⟩ := hg
  refine ⟨more ++ added ++ earlier, ⟨more ++ added, ?_, rfl⟩, request, time, ?_⟩
  · rw [← hmore, hlog, List.append_assoc]
  · rw [List.append_assoc]
    exact List.mem_append_right _ hm

theorem InBalance.connected {w : World} {leaf : Leaf} {number : Nat} {started : Instant}
    {rest : Multiset Nat} (h : InBalance base earlier [] w (number ::ₘ rest)) :
    InBalance base earlier [number] (w.connect leaf number started).2 rest := by
  obtain ⟨events, hl, hb⟩ := h
  exact ⟨_, hl.record (.connected number w.now), hb.connected w.now⟩

theorem InBalance.failed {winners : List Nat} {w : World} {number : Nat} {rest : Multiset Nat}
    (h : InBalance base earlier winners w (number ::ₘ rest)) :
    InBalance base earlier winners (w.fail number) rest := by
  obtain ⟨events, hl, hb⟩ := h
  exact ⟨_, hl.record (.failed number w.now), hb.failed w.now⟩

theorem InBalance.cancelled {winners : List Nat} {w : World} {number : Nat}
    {rest : Multiset Nat} (h : InBalance base earlier winners w (number ::ₘ rest)) :
    InBalance base earlier winners (w.record (.cancelled number w.now)) rest := by
  obtain ⟨events, hl, hb⟩ := h
  exact ⟨_, hl.record (.cancelled number w.now), hb.cancelled w.now⟩

theorem InBalance.opened {winners : List Nat} {w : World} {rest : Multiset Nat}
    (h : InBalance base earlier winners w rest) (leaf : Leaf) (encrypted : Bool) :
    OpenedBy base earlier (w.openTransport leaf encrypted).2 leaf (w.opens + 1) ∧
      InBalance base earlier winners (w.openTransport leaf encrypted).2
        ((w.opens + 1) ::ₘ rest) := by
  obtain ⟨events, hl, hb⟩ := h
  have hl := hl.record (.opened (w.opens + 1) leaf
    ⟨leaf.name, leaf.key, encrypted, leaf.options⟩ w.now)
  exact ⟨⟨_, hl, _, _, List.mem_cons_self⟩, _, hl, hb.opened leaf _ w.now⟩

/-- The ledger obeys the laws of custody. -/
theorem ledger_custody (root : Strategy) (context : Context) (base earlier : List Event) :
    CustodyAt root context (fun w _ => OpenedBy base earlier w) (InBalance base earlier [])
      (fun _ _ => WonBy base earlier) where
  kept := OpenedBy.grows
  failed := InBalance.failed
  connected ho hi := by
    refine ⟨hi.connected, _, ho.grows (List.suffix_cons _ _), rfl, rfl, rfl⟩
  cancelled := InBalance.cancelled
  released h := by
    obtain ⟨hb, leaf, ho, hm⟩ := h
    exact ⟨hb.cancelled, leaf, ho.grows (List.suffix_cons _ _), hm⟩
  passed _ _ h := h
  remembered _ _ h := h
  opened _ _ _ hi := hi.opened _ _
  stored _ _ h _ := h
  flushed _ h := h

end

end Dialplan
