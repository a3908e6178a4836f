import Mathlib.Algebra.Order.Group.Multiset
import Dialplan.Proofs.Polling.Frame

/-! Opens in flight. A poll only adds to the log of the world. What is in progress at a node
fits the tree, and its opens in flight belong to leaves (`Holds`); those of a race are
those of its running children together. -/

namespace Dialplan

/-- The log of a world has only been added to. -/
def Grows (w w' : World) : Prop := w.log <:+ w'.log

theorem grows_frame (root : Strategy) (context : Context) : FrameAt root context Grows where
  refl _ := List.suffix_rfl
  trans := List.IsSuffix.trans
  connected _ _ _ _ := List.suffix_cons _ _
  failed _ _ := List.suffix_cons _ _
  cancelled _ _ := List.suffix_cons _ _
  remembered _ _ _ := List.suffix_rfl
  opened _ _ _ _ := List.suffix_cons _ _
  stored _ _ _ _ := List.suffix_rfl
  flushed _ _ := List.suffix_rfl

theorem Strategy.poll_grows (node : Strategy) (context : Context) :
    Keeps Grows (node.poll context) :=
  (grows_frame node context).poll node .root

theorem Strategy.pollAt_grows (children : List Strategy) (i : Nat) (context : Context) :
    Keeps Grows (Strategy.pollAt children i context) := by
  rw [Strategy.pollAt_eq]
  exact (grows_frame (.firstConnected children) context).toFrame.pollFound
    fun child _ => child.poll_grows context

/-- Giving opens up only writes that down. -/
theorem World.cancel_eq (w : World) (numbers : List Nat) :
    w.cancel numbers =
      { w with log := (numbers.map (.cancelled · w.now)).reverse ++ w.log } := by
  unfold World.cancel
  induction numbers generalizing w with
  | nil => rfl
  | cons number rest ih =>
    rw [List.foldl_cons, ih, List.map_cons, List.reverse_cons, List.append_assoc]
    rfl

/-! ### What is held in progress -/

/-- What is in progress at a node under some demands fits the tree, and every open in flight
there is owned by its leaf under the demands that it meets. -/
inductive Holds (owns : Context → Leaf → Nat → Prop) : Strategy → Context → Progress → Prop where
  | unstarted {node c} : Holds owns node c .unstarted
  | opening {leaf c number started answer} : owns c leaf number →
      Holds owns (.transport leaf) c (.opening number started answer)
  | waiting {delay child c timer} : Holds owns (.delayed delay child) c (.waiting timer)
  | delegated {delay child c p} : Holds owns child c p →
      Holds owns (.delayed delay child) c (.delegated p)
  | trying {options children c index bound failures deadline p} :
      (∀ child, children[index]? = some child → Holds owns child c p) →
      Holds owns (.sequential options children) c
        (.sequencing index bound failures (.trying deadline p))
  | waitingOut {options children c index bound failures timer} :
      Holds owns (.sequential options children) c
        (.sequencing index bound failures (.waitingOut timer))
  | rewound {options children c index bound failures} :
      Holds owns (.sequential options children) c (.sequencing index bound failures .rewound)
  | retrying {settings transports child c timer started name p} :
      (∀ entry, Table.find transports name = some entry →
        Holds owns entry { c with encrypted := settings.encrypted } p) →
      Holds owns (.cached settings transports child) c (.retrying timer started name p)
  | uncached {settings transports child c started p} :
      Holds owns child { c with encrypted := settings.encrypted } p →
      Holds owns (.cached settings transports child) c (.uncached started p)
  | firstConnected {children c lead holding order slots failures} :
      (∀ (i : Nat) child p, children[i]? = some child → slots[i]? = some (.running p) →
        Holds owns child c p) →
      Holds owns (.firstConnected children) c (.racing lead holding order slots failures)
  | bestConnectedEver {site children c lead holding order slots failures} :
      (∀ (i : Nat) child p, children[i]? = some child → slots[i]? = some (.running p) →
        Holds owns child c p) →
      Holds owns (.bestConnectedEver site children) c (.racing lead holding order slots failures)
  | onTrue {test onTrue onFalse c p} : Holds owns onTrue c p →
      Holds owns (.branch test onTrue onFalse) c (.branched true p)
  | onFalse {test onTrue onFalse c p} : Holds owns onFalse c p →
      Holds owns (.branch test onTrue onFalse) c (.branched false p)

theorem Holds.mono {owns owns' : Context → Leaf → Nat → Prop}
    (h : ∀ c leaf n, owns c leaf n → owns' c leaf n) {node : Strategy} {c : Context}
    {p : Progress} (hp : Holds owns node c p) : Holds owns' node c p := by
  induction hp with
  | unstarted => exact .unstarted
  | opening ho => exact .opening (h _ _ _ ho)
  | waiting => exact .waiting
  | delegated _ ih => exact .delegated ih
  | trying _ ih => exact .trying ih
  | waitingOut => exact .waitingOut
  | rewound => exact .rewound
  | retrying _ ih => exact .retrying ih
  | uncached _ ih => exact .uncached ih
  | firstConnected _ ih => exact .firstConnected ih
  | bestConnectedEver _ ih => exact .bestConnectedEver ih
  | onTrue _ ih => exact .onTrue ih
  | onFalse _ ih => exact .onFalse ih

/-- The running children of a race hold their opens. -/
def SlotsHold (owns : Context → Leaf → Nat → Prop) (children : List Strategy) (c : Context)
    (slots : List (Race.Slot Progress)) : Prop :=
  ∀ (i : Nat) child p, children[i]? = some child → slots[i]? = some (.running p) →
    Holds owns child c p

namespace SlotsHold

variable {owns : Context → Leaf → Nat → Prop} {children : List Strategy} {c : Context}
  {slots : List (Race.Slot Progress)}

theorem iff_running : SlotsHold owns children c slots ↔
    Race.Running (fun i p => ∀ child, children[i]? = some child → Holds owns child c p) slots :=
  ⟨fun h i p hs child hi => h i child p hi hs, fun h i child p hi hs => h i p hs child hi⟩

theorem fresh (h : ∀ slot ∈ slots, slot = .held ∨ slot = .running .unstarted) :
    SlotsHold owns children c slots :=
  iff_running.mpr (.fresh (fun _ _ _ => .unstarted) h)

theorem release (h : SlotsHold owns children c slots) :
    SlotsHold owns children c (slots.map (Race.Slot.release .unstarted)) :=
  iff_running.mpr ((iff_running.mp h).release fun _ _ _ => .unstarted)

theorem set {i : Nat} {slot : Race.Slot Progress} (h : SlotsHold owns children c slots)
    (hi : ∀ child p, children[i]? = some child → slot = .running p → Holds owns child c p) :
    SlotsHold owns children c (slots.set i slot) :=
  iff_running.mpr ((iff_running.mp h).set fun p hp child hchild => hi child p hchild hp)

end SlotsHold

namespace Progress

theorem inFlight_add {p : Progress} (h : p.inFlight = []) (rest : Multiset Nat) :
    p.inFlight + rest = rest := by
  rw [h, Multiset.coe_nil, zero_add]

theorem inFlight_opening (number : Nat) (started : Instant)
    (answer : Option (Timer × Option Error)) (rest : Multiset Nat) :
    (opening number started answer).inFlight + rest = number ::ₘ rest := by
  rw [← Multiset.singleton_add]
  rfl

/-- The opens in flight of a race are those of one slot and of the others. -/
theorem inFlightSlots_split {slots : List (Race.Slot Progress)} {i : Nat}
    {slot : Race.Slot Progress} (h : slots[i]? = some slot) :
    (inFlightSlots slots : Multiset Nat) =
      inFlightSlot slot + inFlightSlots (slots.set i .failed) := by
  induction slots generalizing i with
  | nil => simp at h
  | cons first rest ih =>
    cases i with
    | zero =>
      obtain rfl := Option.some.inj h
      simp [inFlightSlots, inFlightSlot]
    | succ i =>
      have := ih h
      simp only [inFlightSlots, List.set_cons_succ, ← Multiset.coe_add, this]
      exact add_left_comm _ _ _

theorem inFlightSlots_set {slots : List (Race.Slot Progress)} {i : Nat}
    (h : i < slots.length) (p : Progress) :
    (inFlightSlots (slots.set i (.running p)) : Multiset Nat) =
      p.inFlight + inFlightSlots (slots.set i .failed) := by
  have hs : (slots.set i (.running p))[i]? = some (.running p) := by simp [h]
  rw [inFlightSlots_split hs, List.set_set, inFlightSlot]

theorem inFlightSlots_release (slots : List (Race.Slot Progress)) :
    inFlightSlots (slots.map (Race.Slot.release .unstarted)) = inFlightSlots slots := by
  induction slots with
  | nil => rfl
  | cons slot rest ih =>
    rw [List.map_cons, inFlightSlots, inFlightSlots, ih]
    cases slot with
    | held => simp [Race.Slot.release, inFlightSlot, inFlight]
    | running p => rfl
    | failed => rfl

theorem inFlightSlots_of_failed {slots : List (Race.Slot Progress)}
    (h : slots.all Race.Slot.isFailed = true) : inFlightSlots slots = [] := by
  induction slots with
  | nil => rfl
  | cons slot rest ih =>
    obtain ⟨hs, hr⟩ := Bool.and_eq_true_iff.mp h
    cases slot with
    | failed => simpa [inFlightSlots, inFlightSlot] using ih hr
    | held => cases hs
    | running p => cases hs

/-- At the start of a race nothing is in flight. -/
theorem inFlightSlots_fresh {slots : List (Race.Slot Progress)}
    (h : ∀ slot ∈ slots, slot = .held ∨ slot = .running .unstarted) :
    inFlightSlots slots = [] := by
  induction slots with
  | nil => rfl
  | cons slot rest ih =>
    obtain ⟨hs, hr⟩ := List.forall_mem_cons.mp h
    rw [inFlightSlots, ih hr]
    rcases hs with rfl | rfl
    · rfl
    · rfl

/-- A race gives up the opens in flight of all its children. -/
theorem abandonAll_eq (state : Race.State Progress) (w : World) :
    abandonAll state.running w = w.cancel (inFlightSlots state.slots) := by
  unfold Race.State.running
  induction state.slots generalizing w with
  | nil => rfl
  | cons slot rest ih =>
    rw [inFlightSlots, World.cancel, List.foldl_append]
    cases slot with
    | held => exact ih w
    | running p => exact ih (p.abandon w)
    | failed => exact ih w

end Progress

end Dialplan
