import Dialplan.Proofs.Polling.Parts
import Dialplan.Proofs.Polling.Rest
import Dialplan.Proofs.Sequence.Tries
import Dialplan.Proofs.Strategy.Nodes

/-! How long a strategy may take. If every open is answered in time, a tree has a bound that is
computed from its own timeouts and delays (`Strategy.bound`). What is in progress at a node is on
time if what is left of it still fits (`OnTime`); it stays so while time passes up to the first of
the moments that are waited for (`OnTime.later`). -/

namespace Dialplan

/-- The cached nodes that get time for a retry, by the child numbers on the way to them. -/
abbrev Retried := List Nat → Bool

/-- Those below a child. -/
def Retried.below (retried : Retried) (child : Nat) : Retried := fun path => retried (child :: path)

namespace SequentialOptions

/-- How long a try may take, when its child may take some time. -/
def tryBound (options : SequentialOptions) (bound : Option Duration) (child : Duration) :
    Duration :=
  match bound with
  | none => child
  | some limit => if options.failFast then min limit child else limit

/-- When a try is over at the latest, when its child is. -/
def tryEnd (options : SequentialOptions) (deadline : Option Timer) (child : Instant) : Instant :=
  match deadline with
  | none => child
  | some timer => if options.failFast then min timer.deadline child else timer.deadline

theorem tryEnd_start (options : SequentialOptions) (bound : Option Duration) (now : Instant)
    (turn : Nat) (child : Duration) :
    options.tryEnd (bound.map fun b => ⟨now + b, turn⟩) (now + child) =
      now + options.tryBound bound child := by
  cases bound with
  | none => rfl
  | some limit =>
    unfold tryEnd tryBound
    dsimp only [Option.map_some]
    split
    · exact Nat.add_min_add_left now limit child
    · rfl

theorem le_tryEnd {options : SequentialOptions} {deadline : Option Timer} {child now : Instant}
    (hchild : now ≤ child) (hdeadline : ∀ timer, deadline = some timer → now ≤ timer.deadline) :
    now ≤ options.tryEnd deadline child := by
  cases deadline with
  | none => exact hchild
  | some timer =>
    have htimer := hdeadline timer rfl
    unfold tryEnd
    dsimp only
    split
    · exact Nat.le_min.mpr ⟨htimer, hchild⟩
    · exact htimer

end SequentialOptions

namespace Strategy

mutual

/-- How long an attempt on a strategy may take if every open has its response within a time. In a
sequence one child comes after the other, and a race waits for its slowest child; a cached node
that retries a transport waits for that first. -/
def bound (response : Duration) : Strategy → Retried → Duration
  | transport _, _ => response
  | unsupported _, _ => 0
  | delayed delay child, retried => delay + bound response child (retried.below 0)
  | sequential options children, retried => boundTries response options children 0 retried
  | cached _ _ child, retried =>
    (if retried [] then response else 0) + bound response child (retried.below 0)
  | firstConnected children, retried => boundSlowest response children 0 retried
  | bestConnectedEver _ children, retried => headStart + boundSlowest response children 0 retried
  | branch _ onTrue onFalse, retried =>
    max (bound response onTrue (retried.below 0)) (bound response onFalse (retried.below 1))
termination_by structural strategy => strategy

/-- The bounds of tries, one after the other, the first of which has this number. -/
def boundTries (response : Duration) (options : SequentialOptions) :
    List Strategy → Nat → Retried → Duration
  | [], _, _ => 0
  | child :: rest, i, retried =>
    options.tryBound (options.boundOf i) (bound response child (retried.below i)) +
      boundTries response options rest (i + 1) retried
termination_by structural children => children

/-- The greatest bound of children, the first of which has this number. -/
def boundSlowest (response : Duration) : List Strategy → Nat → Retried → Duration
  | [], _, _ => 0
  | child :: rest, i, retried =>
    max (bound response child (retried.below i)) (boundSlowest response rest (i + 1) retried)
termination_by structural children => children

end

variable {response : Duration}

theorem bound_le_boundSlowest {children : List Strategy} {i : Nat} {child : Strategy}
    (h : children[i]? = some child) (retried : Retried) :
    child.bound response (retried.below i) ≤ boundSlowest response children 0 retried := by
  have hfrom : ∀ (children : List Strategy) (first i : Nat), children[i]? = some child →
      child.bound response (retried.below (first + i)) ≤
        boundSlowest response children first retried := by
    intro children
    induction children with
    | nil => exact fun _ _ h => by simp at h
    | cons head rest ih =>
      intro first i h
      cases i with
      | zero =>
        obtain rfl := Option.some.inj h
        exact Nat.le_max_left _ _
      | succ i =>
        have hle := ih (first + 1) i h
        rw [Nat.add_right_comm] at hle
        exact Nat.le_trans hle (Nat.le_max_right _ _)
  have hle := hfrom children 0 i h
  rwa [Nat.zero_add] at hle

/-- The bounds of the tries from one child on are its own and those of the tries after it. -/
theorem boundTries_drop {children : List Strategy} {i : Nat} {child : Strategy}
    (h : children[i]? = some child) (options : SequentialOptions) (retried : Retried) :
    boundTries response options (children.drop i) i retried =
      options.tryBound (options.boundOf i) (child.bound response (retried.below i)) +
        boundTries response options (children.drop (i + 1)) (i + 1) retried := by
  obtain ⟨hlt, rfl⟩ := List.getElem?_eq_some_iff.mp h
  rw [List.drop_eq_getElem_cons hlt, boundTries]

end Strategy

/-! ### What is in progress -/

namespace Progress

/-- What has settled at a moment waits for later ones, or for an open that is never answered, and
nothing of it is still to be started. -/
structure Settled (now : Instant) (p : Progress) : Prop where
  later : ∀ timer ∈ p.timers, now < timer.deadline
  waits : p.timers ≠ [] ∨ ∃ path number started, Part p path (.opening number started none)
  started : ∀ path, ¬ Part p path .unstarted

/-- Every open in flight has its answer within a time. -/
def AnsweredWithin (response : Duration) (p : Progress) : Prop :=
  ∀ {path number started answer}, Part p path (.opening number started answer) →
    ∃ timer failure, answer = some (timer, failure) ∧ timer.deadline ≤ started + response

/-- Only these cached nodes are waiting for a retry. -/
def RetriesOnly (retried : Retried) (p : Progress) : Prop :=
  ∀ {path timer started name child}, Part p path (.retrying timer started name child) →
    retried path = true

/-- Up to a moment nothing was due of what waits, and its opens are answered in time. -/
structure Patient (response : Duration) (retried : Retried) (now : Instant) (p : Progress) :
    Prop where
  answered : p.AnsweredWithin response
  retries : p.RetriesOnly retried
  started : ∀ path, ¬ Part p path .unstarted
  awaited : ∀ timer ∈ p.timers, now ≤ timer.deadline

/-- What waits has patience in all its parts. -/
theorem Patient.part {response : Duration} {retried : Retried} {now : Instant} {p child : Progress}
    {i : Nat} (h : p.Patient response retried now)
    (hpart : ∀ {path part}, Part child path part → Part p (i :: path) part)
    (htimers : ∀ timer ∈ child.timers, timer ∈ p.timers) :
    child.Patient response (retried.below i) now where
  answered hp := h.answered (hpart hp)
  retries hp := h.retries (hpart hp)
  started _ hp := h.started _ (hpart hp)
  awaited timer hm := h.awaited timer (htimers timer hm)

end Progress

/-! ### What is on time -/

/-- What is in progress at a node at some moment can be over by another one, if every open has its
response within a time and time is given for retries at these cached nodes. -/
inductive OnTime (response : Duration) :
    Strategy → Retried → Instant → Instant → Progress → Prop where
  | unstarted {node retried now due} : now + node.bound response retried ≤ due →
      OnTime response node retried now due .unstarted
  | opening {leaf retried now due number started answer} : now ≤ due → started + response ≤ due →
      OnTime response (.transport leaf) retried now due (.opening number started answer)
  | waiting {delay child retried now due timer} : now ≤ timer.deadline →
      timer.deadline + child.bound response (retried.below 0) ≤ due →
      OnTime response (.delayed delay child) retried now due (.waiting timer)
  | delegated {delay child retried now due p} : OnTime response child (retried.below 0) now due p →
      OnTime response (.delayed delay child) retried now due (.delegated p)
  | trying {options children child retried now due index failures deadline p childDue} :
      children[index]? = some child →
      OnTime response child (retried.below index) now childDue p →
      (∀ timer, deadline = some timer → now ≤ timer.deadline) →
      options.tryEnd deadline childDue +
        Strategy.boundTries response options (children.drop (index + 1)) (index + 1) retried ≤ due →
      OnTime response (.sequential options children) retried now due
        (.sequencing index (options.boundOf index) failures (.trying deadline p))
  | waitingOut {options children retried now due index failures timer} :
      index < children.length → now ≤ timer.deadline →
      timer.deadline +
        Strategy.boundTries response options (children.drop (index + 1)) (index + 1) retried ≤ due →
      OnTime response (.sequential options children) retried now due
        (.sequencing index (options.boundOf index) failures (.waitingOut timer))
  | retrying {settings transports child retried now due timer started name entry p entryDue} :
      Table.find transports name = some entry →
      OnTime response entry (retried.below 1) now entryDue p →
      entryDue + child.bound response (retried.below 0) ≤ due →
      OnTime response (.cached settings transports child) retried now due
        (.retrying timer started name p)
  /-- A retry that is given no time is never over at the moment it began; at a later one it would
  not be on time. -/
  | unforeseen {settings transports child retried now due timer started name leaf number opened
      answer} :
      retried [] = false → Table.find transports name = some (.transport leaf) → now ≤ due →
      now < timer.deadline → Progress.Settled now (.opening number opened answer) →
      OnTime response (.cached settings transports child) retried now due
        (.retrying timer started name (.opening number opened answer))
  | uncached {settings transports child retried now due started p} :
      OnTime response child (retried.below 0) now due p →
      OnTime response (.cached settings transports child) retried now due (.uncached started p)
  | firstConnected {children retried now due lead order slots failures} :
      Race.State.Complete children.length ⟨false, order, slots, failures⟩ →
      (∃ (i : Nat) (p : Progress), slots[i]? = some (.running p)) →
      (∀ (i : Nat) child p, children[i]? = some child → slots[i]? = some (.running p) →
        OnTime response child (retried.below i) now due p) →
      OnTime response (.firstConnected children) retried now due
        (.racing lead false order slots failures)
  | bestConnectedEver {site children retried now due lead holding order slots failures} :
      Race.State.Complete children.length ⟨holding, order, slots, failures⟩ →
      (∃ (i : Nat) (p : Progress), slots[i]? = some (.running p)) →
      (∀ (i : Nat) child p, children[i]? = some child → slots[i]? = some (.running p) →
        OnTime response child (retried.below i) now due p) →
      (holding = true → ∃ i timer, lead = some (i, timer) ∧ now ≤ timer.deadline ∧
        timer.deadline + Strategy.boundSlowest response children 0 retried ≤ due) →
      OnTime response (.bestConnectedEver site children) retried now due
        (.racing lead holding order slots failures)
  | onTrue {test onTrue onFalse retried now due p} :
      OnTime response onTrue (retried.below 0) now due p →
      OnTime response (.branch test onTrue onFalse) retried now due (.branched true p)
  | onFalse {test onTrue onFalse retried now due p} :
      OnTime response onFalse (retried.below 1) now due p →
      OnTime response (.branch test onTrue onFalse) retried now due (.branched false p)

namespace OnTime

variable {response : Duration} {node : Strategy} {retried : Retried} {now due : Instant}
  {p : Progress}

/-- A race has as many slots as children. -/
theorem child_of_slot {count : Nat} {children : List Strategy} {state : Race.State Progress}
    (h : state.Complete count) (hcount : count = children.length) {i : Nat}
    {slot : Race.Slot Progress} (hs : state.slots[i]? = some slot) :
    ∃ child, children[i]? = some child := by
  have hlt := (List.getElem?_eq_some_iff.mp hs).1
  rw [h.length, hcount] at hlt
  exact ⟨_, List.getElem?_eq_getElem hlt⟩

theorem le_due (h : OnTime response node retried now due p) : now ≤ due := by
  induction h with
  | unstarted h => lia
  | opening h _ => exact h
  | waiting h hd => lia
  | delegated _ ih => exact ih
  | @trying options _ _ _ _ _ _ _ deadline _ childDue _ _ hd hdue ih =>
    have hend : _ ≤ options.tryEnd deadline childDue := SequentialOptions.le_tryEnd ih hd
    lia
  | waitingOut _ h hd => lia
  | retrying _ _ hdue ih => lia
  | unforeseen _ _ h _ _ => exact h
  | uncached _ ih => exact ih
  | firstConnected hc hr _ ih =>
    obtain ⟨i, p, hs⟩ := hr
    obtain ⟨child, hi⟩ := child_of_slot hc rfl hs
    exact ih i child p hi hs
  | bestConnectedEver hc hr _ _ ih =>
    obtain ⟨i, p, hs⟩ := hr
    obtain ⟨child, hi⟩ := child_of_slot hc rfl hs
    exact ih i child p hi hs
  | onTrue _ ih => exact ih
  | onFalse _ ih => exact ih

/-- What is on time stays so while it waits. -/
theorem later (h : OnTime response node retried now due p) {now' : Instant}
    (hp : p.Patient response retried now') : OnTime response node retried now' due p := by
  induction h with
  | unstarted _ => exact absurd .self (hp.started [])
  | opening _ hd =>
    obtain ⟨timer, failure, rfl, hanswer⟩ := hp.answered .self
    have hnow := hp.awaited timer List.mem_cons_self
    exact .opening (by lia) hd
  | waiting _ hd => exact .waiting (hp.awaited _ List.mem_cons_self) hd
  | delegated _ ih => exact .delegated (ih (hp.part .delegated fun _ hm => hm))
  | trying hchild _ _ hdue ih =>
    refine .trying hchild (ih (hp.part .trying fun timer hm => ?_)) ?_ hdue
    · exact List.mem_append_right _ hm
    · rintro timer rfl
      exact hp.awaited timer List.mem_cons_self
  | waitingOut hlt _ hd => exact .waitingOut hlt (hp.awaited _ List.mem_cons_self) hd
  | retrying hentry _ hdue ih =>
    exact .retrying hentry (ih (hp.part .retrying fun timer hm => List.mem_cons_of_mem _ hm)) hdue
  | unforeseen hno _ _ _ _ => exact absurd (hp.retries .self) (by simp [hno])
  | uncached _ ih => exact .uncached (ih (hp.part .uncached fun _ hm => hm))
  | firstConnected hc hr _ ih =>
    refine .firstConnected hc hr fun i child p hi hs => ih i child p hi hs ?_
    exact hp.part (.running hs) fun timer hm =>
      Progress.mem_timers_racing.mpr (.inr ⟨i, p, hs, hm⟩)
  | bestConnectedEver hc hr _ hlead ih =>
    refine .bestConnectedEver hc hr (fun i child p hi hs => ih i child p hi hs ?_) ?_
    · exact hp.part (.running hs) fun timer hm =>
        Progress.mem_timers_racing.mpr (.inr ⟨i, p, hs, hm⟩)
    · intro hh
      obtain ⟨i, timer, rfl, -, hd⟩ := hlead hh
      exact ⟨i, timer, rfl,
        hp.awaited timer (Progress.mem_timers_racing.mpr (.inl ⟨hh, i, rfl⟩)), hd⟩
  | onTrue _ ih => exact .onTrue (ih (hp.part .branched fun _ hm => hm))
  | onFalse _ ih => exact .onFalse (ih (hp.part .branched fun _ hm => hm))

end OnTime

end Dialplan
