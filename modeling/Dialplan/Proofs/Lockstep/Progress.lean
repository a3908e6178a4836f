import Dialplan.Proofs.Lockstep.Rules
import Dialplan.Proofs.Polling.InFlight

/-! What is in progress side by side. Two things in progress are alike when they differ in nothing
but the numbers of their opens in flight and in the failures they have kept; then they wait for
the same moments. -/

namespace Dialplan

open List (Forall₂)

namespace Progress

/-- Things in progress that differ only in the numbers of opens and in the failures kept. -/
inductive Alike (number : Nat → Nat → Prop) (lost : Error → Error → Prop) :
    Progress → Progress → Prop where
  | unstarted : Alike number lost .unstarted .unstarted
  | opening {n n' started answer} : number n n' →
      Alike number lost (.opening n started answer) (.opening n' started answer)
  | waiting {timer} : Alike number lost (.waiting timer) (.waiting timer)
  | delegated {p q} : Alike number lost p q → Alike number lost (.delegated p) (.delegated q)
  | sequencing {index bound failures failures' phase phase'} : Forall₂ lost failures failures' →
      Sequence.Phase.Alike (Alike number lost) phase phase' →
      Alike number lost (.sequencing index bound failures phase)
        (.sequencing index bound failures' phase')
  | retrying {timer started name p q} : Alike number lost p q →
      Alike number lost (.retrying timer started name p) (.retrying timer started name q)
  | uncached {started p q} : Alike number lost p q →
      Alike number lost (.uncached started p) (.uncached started q)
  | racing {lead holding order slots slots' failures failures'} :
      Forall₂ (Race.Slot.Alike (Alike number lost)) slots slots' →
      Forall₂ lost failures failures' →
      Alike number lost (.racing lead holding order slots failures)
        (.racing lead holding order slots' failures')
  | branched {outcome p q} : Alike number lost p q →
      Alike number lost (.branched outcome p) (.branched outcome q)

variable {number number' : Nat → Nat → Prop} {lost lost' : Error → Error → Prop}

mutual

/-- Whatever is in progress is like itself. -/
theorem Alike.refl (hn : ∀ n, number n n) (hl : ∀ e, lost e e) : ∀ p : Progress,
    Alike number lost p p
  | .unstarted => .unstarted
  | .opening _ _ _ => .opening (hn _)
  | .waiting _ => .waiting
  | .delegated p => .delegated (.refl hn hl p)
  | .sequencing _ _ _ (.trying _ p) =>
    .sequencing (List.forall₂_same.mpr fun e _ => hl e) (.trying (.refl hn hl p))
  | .sequencing _ _ _ (.waitingOut _) =>
    .sequencing (List.forall₂_same.mpr fun e _ => hl e) .waitingOut
  | .sequencing _ _ _ .rewound => .sequencing (List.forall₂_same.mpr fun e _ => hl e) .rewound
  | .retrying _ _ _ p => .retrying (.refl hn hl p)
  | .uncached _ p => .uncached (.refl hn hl p)
  | .racing _ _ _ slots _ =>
    .racing (slots_refl hn hl slots) (List.forall₂_same.mpr fun e _ => hl e)
  | .branched _ p => .branched (.refl hn hl p)

theorem slots_refl (hn : ∀ n, number n n) (hl : ∀ e, lost e e) :
    ∀ slots : List (Race.Slot Progress), Forall₂ (Race.Slot.Alike (Alike number lost)) slots slots
  | [] => .nil
  | slot :: rest => .cons (slot_refl hn hl slot) (slots_refl hn hl rest)

theorem slot_refl (hn : ∀ n, number n n) (hl : ∀ e, lost e e) :
    ∀ slot : Race.Slot Progress, Race.Slot.Alike (Alike number lost) slot slot
  | .held => .held
  | .running p => .running (.refl hn hl p)
  | .failed => .failed

end

mutual

/-- They have as many opens in flight, in the same order. -/
theorem Alike.inFlight {p q : Progress} : Alike number lost p q →
    Forall₂ number p.inFlight q.inFlight
  | .unstarted => .nil
  | .opening hn => .cons hn .nil
  | .waiting => .nil
  | .delegated h => h.inFlight
  | .sequencing _ (.trying h) => h.inFlight
  | .sequencing _ .waitingOut => .nil
  | .sequencing _ .rewound => .nil
  | .retrying h => h.inFlight
  | .uncached h => h.inFlight
  | .racing h _ => inFlightSlots_alike h
  | .branched h => h.inFlight

theorem inFlightSlots_alike {slots slots' : List (Race.Slot Progress)} :
    Forall₂ (Race.Slot.Alike (Alike number lost)) slots slots' →
    Forall₂ number (inFlightSlots slots) (inFlightSlots slots')
  | .nil => .nil
  | .cons hs rest => List.rel_append (inFlightSlot_alike hs) (inFlightSlots_alike rest)

theorem inFlightSlot_alike {slot slot' : Race.Slot Progress} :
    Race.Slot.Alike (Alike number lost) slot slot' →
    Forall₂ number (inFlightSlot slot) (inFlightSlot slot')
  | .held => .nil
  | .running h => h.inFlight
  | .failed => .nil

end

mutual

/-- They wait for the same moments. -/
theorem Alike.timers_eq {p q : Progress} : Alike number lost p q → q.timers = p.timers
  | .unstarted => rfl
  | .opening _ => rfl
  | .waiting => rfl
  | .delegated h => h.timers_eq
  | .sequencing _ (.trying h) => congrArg (_ ++ ·) h.timers_eq
  | .sequencing _ .waitingOut => rfl
  | .sequencing _ .rewound => rfl
  | .retrying h => congrArg (_ :: ·) h.timers_eq
  | .uncached h => h.timers_eq
  | .racing h _ => congrArg (_ ++ ·) (timersSlots_alike h)
  | .branched h => h.timers_eq

theorem timersSlots_alike {slots slots' : List (Race.Slot Progress)} :
    Forall₂ (Race.Slot.Alike (Alike number lost)) slots slots' →
    timersSlots slots' = timersSlots slots
  | .nil => rfl
  | .cons hs rest => congrArg₂ (· ++ ·) (timersSlot_alike hs) (timersSlots_alike rest)

theorem timersSlot_alike {slot slot' : Race.Slot Progress} :
    Race.Slot.Alike (Alike number lost) slot slot' → timersSlot slot' = timersSlot slot
  | .held => rfl
  | .running h => h.timers_eq
  | .failed => rfl

end

mutual

/-- If one has stopped only to let others run, so has the other. -/
theorem Alike.isYielding_eq {p q : Progress} : Alike number lost p q →
    q.isYielding = p.isYielding
  | .unstarted => rfl
  | .opening _ => rfl
  | .waiting => rfl
  | .delegated h => h.isYielding_eq
  | .sequencing _ (.trying h) => h.isYielding_eq
  | .sequencing _ .waitingOut => rfl
  | .sequencing _ .rewound => rfl
  | .retrying h => h.isYielding_eq
  | .uncached h => h.isYielding_eq
  | .racing h _ => isYieldingSlots_alike h
  | .branched h => h.isYielding_eq

theorem isYieldingSlots_alike {slots slots' : List (Race.Slot Progress)} :
    Forall₂ (Race.Slot.Alike (Alike number lost)) slots slots' →
    isYieldingSlots slots' = isYieldingSlots slots
  | .nil => rfl
  | .cons hs rest => congrArg₂ (· || ·) (isYieldingSlot_alike hs) (isYieldingSlots_alike rest)

theorem isYieldingSlot_alike {slot slot' : Race.Slot Progress} :
    Race.Slot.Alike (Alike number lost) slot slot' → isYieldingSlot slot' = isYieldingSlot slot
  | .held => rfl
  | .running h => h.isYielding_eq
  | .failed => rfl

end

mutual

/-- Numbers may be related in another way, as long as it agrees on the opens in flight. -/
theorem Alike.renumber {p q : Progress} : Alike number lost p q →
    (∀ n, ∀ n' ∈ q.inFlight, number n n' → number' n n') → Alike number' lost p q
  | .unstarted, _ => .unstarted
  | .opening h, hn => .opening (hn _ _ List.mem_cons_self h)
  | .waiting, _ => .waiting
  | .delegated h, hn => .delegated (h.renumber hn)
  | .sequencing hf (.trying h), hn => .sequencing hf (.trying (h.renumber hn))
  | .sequencing hf .waitingOut, _ => .sequencing hf .waitingOut
  | .sequencing hf .rewound, _ => .sequencing hf .rewound
  | .retrying h, hn => .retrying (h.renumber hn)
  | .uncached h, hn => .uncached (h.renumber hn)
  | .racing h hf, hn => .racing (slots_renumber h hn) hf
  | .branched h, hn => .branched (h.renumber hn)

theorem slots_renumber {slots slots' : List (Race.Slot Progress)} :
    Forall₂ (Race.Slot.Alike (Alike number lost)) slots slots' →
    (∀ n, ∀ n' ∈ inFlightSlots slots', number n n' → number' n n') →
    Forall₂ (Race.Slot.Alike (Alike number' lost)) slots slots'
  | .nil, _ => .nil
  | .cons hs rest, hn =>
    .cons (slot_renumber hs fun n n' hm => hn n n' (List.mem_append_left _ hm))
      (slots_renumber rest fun n n' hm => hn n n' (List.mem_append_right _ hm))

theorem slot_renumber {slot slot' : Race.Slot Progress} :
    Race.Slot.Alike (Alike number lost) slot slot' →
    (∀ n, ∀ n' ∈ inFlightSlot slot', number n n' → number' n n') →
    Race.Slot.Alike (Alike number' lost) slot slot'
  | .held, _ => .held
  | .running h, hn => .running (h.renumber hn)
  | .failed, _ => .failed

end

end Progress
end Dialplan
