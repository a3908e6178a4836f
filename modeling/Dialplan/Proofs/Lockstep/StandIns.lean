import Dialplan.Proofs.Lockstep.Trees
import Dialplan.Proofs.Polling.Run

/-! Disabled definitions. A disabled definition behaves as a leaf of its name that can open
nothing: every node supports the same, and every run of an attempt takes the same course through
the same worlds and ends alike (`disabled_as_unsupported`). Only the words of a failure can
differ, where the leaf's priority is below what the attempt demands. -/

namespace Dialplan

open List (Forall₂)

/-! ### Failures -/

/-- A disabled definition fails for want of support. The leaf in its place does too, unless its
priority is too low; and failures that are gathered differ in no other way. -/
inductive Error.StandsFor (stands : Leaf → Prop) (least : Int64) : Error → Error → Prop where
  | same (e) : StandsFor stands least e e
  | refused {leaf} : stands leaf → leaf.priority < least →
      StandsFor stands least (.transportUnsupported leaf.name)
        (.priorityTooLow leaf.name leaf.priority least)
  | gathered {failures failures'} : Forall₂ (StandsFor stands least) failures failures' →
      StandsFor stands least (.allFailed failures) (.allFailed failures')

mutual

/-- Where no leaf is refused for its priority, the failures are the same. -/
theorem Error.StandsFor.eq {stands : Leaf → Prop} {least : Int64}
    (hleast : ∀ leaf, stands leaf → least ≤ leaf.priority) {e e' : Error} :
    StandsFor stands least e e' → e = e'
  | .same _ => rfl
  | .refused hl hlow => absurd (hleast _ hl) (Int64.not_le.mpr hlow)
  | .gathered h => congrArg Error.allFailed (Error.failures_eq hleast h)

theorem Error.failures_eq {stands : Leaf → Prop} {least : Int64}
    (hleast : ∀ leaf, stands leaf → least ≤ leaf.priority) {failures failures' : List Error} :
    Forall₂ (StandsFor stands least) failures failures' → failures = failures'
  | .nil => rfl
  | .cons h rest => congrArg₂ List.cons (h.eq hleast) (Error.failures_eq hleast rest)

end

namespace Progress

/-- Two things in progress have the same opens in flight, so that giving up one or the other is
the same, and are polled again at the same moments. -/
structure SameWait (p q : Progress) : Prop where
  inFlight : q.inFlight = p.inFlight
  timers : q.timers = p.timers
  isYielding : q.isYielding = p.isYielding

theorem Alike.sameWait {lost : Error → Error → Prop} {p q : Progress} (h : p.Alike Eq lost q) :
    p.SameWait q := by
  have hn := eq_of_forall₂ (fun _ _ => id) h.inFlight
  exact ⟨hn.symm, h.timers_eq, h.isYielding_eq⟩

mutual

theorem Alike.eq {lost : Error → Error → Prop} (hlost : ∀ e e', lost e e' → e = e')
    {p q : Progress} : p.Alike Eq lost q → p = q
  | .unstarted => rfl
  | .opening rfl => rfl
  | .waiting => rfl
  | .delegated h => congrArg delegated (h.eq hlost)
  | .sequencing hf (.trying h) => by rw [h.eq hlost, eq_of_forall₂ hlost hf]
  | .sequencing hf .waitingOut => by rw [eq_of_forall₂ hlost hf]
  | .sequencing hf .rewound => by rw [eq_of_forall₂ hlost hf]
  | .retrying h => congrArg (retrying _ _ _) (h.eq hlost)
  | .uncached h => congrArg (uncached _) (h.eq hlost)
  | .racing h hf => by rw [slots_eq hlost h, eq_of_forall₂ hlost hf]
  | .branched h => congrArg (branched _) (h.eq hlost)

theorem slots_eq {lost : Error → Error → Prop} (hlost : ∀ e e', lost e e' → e = e')
    {slots slots' : List (Race.Slot Progress)} :
    Forall₂ (Race.Slot.Alike (Alike Eq lost)) slots slots' → slots = slots'
  | .nil => rfl
  | .cons .held rest => congrArg _ (slots_eq hlost rest)
  | .cons (.running h) rest =>
    congrArg₂ (fun p => List.cons (.running p)) (h.eq hlost) (slots_eq hlost rest)
  | .cons .failed rest => congrArg _ (slots_eq hlost rest)

end

end Progress

/-! ### Support -/

namespace Strategy

/-- The nodes right below a node, with those in its condition and its table. -/
def parts : Strategy → List Strategy
  | transport _ => []
  | unsupported _ => []
  | delayed _ child => [child]
  | sequential _ children => children
  | cached _ transports child => child :: transports.map Prod.snd
  | firstConnected children => children
  | bestConnectedEver _ children => children
  | branch (.isSupported strategy) onTrue onFalse => [strategy, onTrue, onFalse]
  | branch (.constant _) onTrue onFalse => [onTrue, onFalse]

/-- The node at a place anywhere in a tree. -/
def part? : Strategy → List Nat → Option Strategy
  | node, [] => some node
  | node, i :: place =>
    match node.parts[i]? with
    | some part => part? part place
    | none => none

end Strategy

namespace Replaces

variable {stands : Leaf → Prop}

theorem parts {node node' : Strategy} (h : Replaces stands node node') :
    Forall₂ (Replaces stands) node.parts node'.parts := by
  cases h with
  | transport => exact .nil
  | unsupported => exact .nil
  | standIn _ => exact .nil
  | delayed h => exact .cons h .nil
  | sequential h => exact h
  | cached _ hentries h => exact .cons h hentries
  | firstConnected h => exact h
  | bestConnectedEver h => exact h
  | condition hc ht hf => exact .cons hc (.cons ht (.cons hf .nil))
  | constant ht hf => exact .cons ht (.cons hf .nil)

theorem part? {node node' : Strategy} (h : Replaces stands node node') (place : List Nat) :
    Option.Rel (Replaces stands) (node.part? place) (node'.part? place) := by
  induction place generalizing node node' with
  | nil => exact .some h
  | cons i place ih =>
    have hi := forall₂_iff_getElem?.mp h.parts i
    rw [Strategy.part?, Strategy.part?]
    generalize node.parts[i]? = part, node'.parts[i]? = part' at hi ⊢
    cases hi with
    | none => exact .none
    | some h => exact ih h

end Replaces

/-! ### Runs -/

/-- Two polls have come to the same: both wait, both have the same connection, or both have
failed. -/
inductive Poll.Matches (alike : Progress → Progress → Prop) (lost : Error → Error → Prop) :
    Poll Progress → Poll Progress → Prop where
  | pending {p q} : alike p q → Matches alike lost (.pending p) (.pending q)
  | connected (connection) :
      Matches alike lost (.ready (.ok connection)) (.ready (.ok connection))
  | failed {e e'} : lost e e' → Matches alike lost (.ready (.error e)) (.ready (.error e'))

section

variable {alike alike' : Progress → Progress → Prop} {lost lost' : Error → Error → Prop}
  {outcome outcome' : Poll Progress}

theorem Poll.Matches.mono (h : Matches alike lost outcome outcome')
    (ha : ∀ p q, alike p q → alike' p q) (hl : ∀ e e', lost e e' → lost' e e') :
    Matches alike' lost' outcome outcome' := by
  cases h with
  | pending h => exact .pending (ha _ _ h)
  | connected connection => exact .connected connection
  | failed h => exact .failed (hl _ _ h)

theorem Poll.Matches.flip (h : Matches alike lost outcome outcome') :
    Matches (fun q p => alike p q) (fun e' e => lost e e') outcome' outcome := by
  cases h with
  | pending h => exact .pending h
  | connected connection => exact .connected connection
  | failed h => exact .failed h

theorem Poll.Matches.eq (h : Matches Eq Eq outcome outcome') : outcome = outcome' := by
  cases h with
  | pending h => rw [h]
  | connected connection => rfl
  | failed h => rw [h]

/-- Two pollers take the same course, where a world is of some kind and stays so. -/
def Mirrors (good : World → Prop) (alike : Progress → Progress → Prop)
    (lost : Error → Error → Prop) (poller poller' : Poller) : Prop :=
  ∀ p q w, alike p q → good w → (poller' q w).2 = (poller p w).2 ∧ good (poller p w).2 ∧
    Poll.Matches alike lost (poller p w).1 (poller' q w).1

variable {good : World → Prop} {poller poller' : Poller} {between : World → World → Prop}
  {w₀ : World} {visits : List Visit}

theorem Mirrors.flip (h : Mirrors good alike lost poller poller') :
    Mirrors good (fun q p => alike p q) (fun e' e => lost e e') poller' poller := by
  intro q p w ha hw
  obtain ⟨hworld, hgood, hmatches⟩ := h p q w ha hw
  exact ⟨hworld.symm, hworld ▸ hgood, hmatches.flip⟩

/-- Then a run of the one has its like for the other, with the very same visits. -/
theorem Mirrors.run (h : Mirrors good alike lost poller poller')
    (hunstarted : alike .unstarted .unstarted) (hstart : good w₀)
    (hbetween : ∀ w w', between w w' → good w → good w')
    (run : Run between poller w₀ visits outcome) :
    (∀ visit ∈ visits, good visit.after) ∧
      ∃ outcome', Run between poller' w₀ visits outcome' ∧
        outcome.Matches alike lost outcome' := by
  induction run with
  | first =>
    obtain ⟨hworld, hgood, hmatches⟩ := h .unstarted .unstarted w₀ hunstarted hstart
    exact ⟨List.forall_mem_singleton.mpr hgood, _, hworld ▸ .first, hmatches⟩
  | @again visit earlier p w _ hb ih =>
    obtain ⟨hvisits, _, run', hmatches⟩ := ih
    cases hmatches with
    | @pending _ q ha =>
      have hw := hbetween _ _ hb (hvisits visit List.mem_cons_self)
      obtain ⟨hworld, hgood, hmatches⟩ := h p q w ha hw
      exact ⟨List.forall_mem_cons.mpr ⟨hgood, hvisits⟩, _, hworld ▸ run'.again hb, hmatches⟩

end

section

variable {stands : Leaf → Prop} {node node' : Strategy}

/-- In one world, where the leaves that stand in can open nothing. -/
theorem lockstep_standIns (root : Strategy) (context : Context) :
    LockstepAt root context stands Eq Eq (Error.StandsFor stands context.minPriority)
      (fun w w' => w' = w ∧ Unsupporting stands w.supports) where
  now h := h.1 ▸ rfl
  turn h := h.1 ▸ rfl
  wallClock h := h.1 ▸ rfl
  failed := by
    rintro w _ n _ ⟨rfl, hw⟩ rfl
    exact ⟨rfl, hw⟩
  cancelled := by
    rintro w _ n _ ⟨rfl, hw⟩ rfl
    exact ⟨rfl, hw⟩
  transport h := h ▸ rfl
  latency h := h ▸ rfl
  priority h := h ▸ rfl
  same := .same
  all := .gathered
  supports h := h.1 ▸ rfl
  unsupporting h := h.2
  refused := .refused
  opened := by
    rintro _ leaf c _ w _ ⟨rfl, hw⟩
    refine ⟨rfl, rfl, rfl, ?_⟩
    rw [World.supports_openTransport]
    exact hw
  connected := by
    rintro _ leaf c _ w _ n _ started ⟨rfl, hw⟩ rfl
    exact ⟨rfl, rfl, hw⟩
  history _ _ _ h := h.1 ▸ rfl
  remembered := by
    rintro _ site children c _ w _ history ⟨rfl, hw⟩
    exact ⟨rfl, hw⟩
  recorded _ _ _ h := h.1 ▸ rfl
  stored := by
    rintro _ settings transports child c _ w _ transport took ⟨rfl, hw⟩
    exact ⟨rfl, hw⟩
  flushed := by
    rintro _ settings transports child c _ w _ ⟨rfl, hw⟩
    exact ⟨rfl, hw⟩

theorem Replaces.mirrors (h : Replaces stands node node') (context : Context) :
    Mirrors (fun w => Unsupporting stands w.supports)
      (Abreast Eq (Error.StandsFor stands context.minPriority) (Fits node context))
      (Error.StandsFor stands context.minPriority) (node.poll context) (node'.poll context) := by
  intro p q w ha hw
  have hpoll := ((lockstep_standIns node context).poll node h .root).inStep p q w w ha ⟨rfl, hw⟩
  generalize node.poll context p w = polled, node'.poll context q w = polled' at hpoll ⊢
  cases hpoll with
  | pending ha hworlds => exact ⟨hworlds.1, hworlds.2, .pending ha⟩
  | connected hwon hworlds =>
    subst hwon
    exact ⟨hworlds.1, hworlds.2, .connected _⟩
  | failed hlost hworlds => exact ⟨hworlds.1, hworlds.2, .failed hlost⟩

/-- Disabled equals unsupported. Where leaves that can open nothing replace disabled definitions,
every node anywhere in the tree supports the same, and the runs of attempts on the two trees go
through the same worlds: every open, every write to a cache and to the memory of a race is the
same, at the same moment. They wait for the same, win the same connection, or fail together; and
when no leaf is refused for its priority, they are the same runs. -/
theorem disabled_as_unsupported (h : Replaces stands node node') (context : Context)
    (between : World → World → Prop) (w₀ : World) (hstart : Unsupporting stands w₀.supports)
    (hbetween : ∀ w w', between w w' → Unsupporting stands w.supports →
      Unsupporting stands w'.supports) :
    (∀ supports, Unsupporting stands supports → ∀ place,
      Option.Rel (fun part part' => ∀ encrypted,
          part'.isSupported supports encrypted = part.isSupported supports encrypted)
        (node.part? place) (node'.part? place)) ∧
    (∀ visits outcome, Run between (node.poll context) w₀ visits outcome →
      ∃ outcome', Run between (node'.poll context) w₀ visits outcome' ∧
        outcome.Matches Progress.SameWait (Error.StandsFor stands context.minPriority) outcome') ∧
    (∀ visits outcome', Run between (node'.poll context) w₀ visits outcome' →
      ∃ outcome, Run between (node.poll context) w₀ visits outcome ∧
        outcome.Matches Progress.SameWait (Error.StandsFor stands context.minPriority) outcome') ∧
    ((∀ leaf, stands leaf → context.minPriority ≤ leaf.priority) → ∀ visits outcome,
      Run between (node.poll context) w₀ visits outcome ↔
        Run between (node'.poll context) w₀ visits outcome) := by
  have hmirrors := h.mirrors context
  have hunstarted : Abreast Eq (Error.StandsFor stands context.minPriority) (Fits node context)
      .unstarted .unstarted := ⟨.unstarted, .unstarted⟩
  refine ⟨?_, ?_, ?_, ?_⟩
  · intro supports hs place
    have hplace := h.part? place
    generalize node.part? place = part, node'.part? place = part' at hplace
    cases hplace with
    | none => exact .none
    | some h => exact .some fun encrypted => h.isSupported_eq hs encrypted
  · intro visits outcome run
    obtain ⟨-, outcome', run', hmatches⟩ := hmirrors.run hunstarted hstart hbetween run
    exact ⟨outcome', run', hmatches.mono (fun _ _ ha => ha.1.sameWait) fun _ _ h => h⟩
  · intro visits outcome' run'
    obtain ⟨-, outcome, run, hmatches⟩ := hmirrors.flip.run hunstarted hstart hbetween run'
    exact ⟨outcome, run, hmatches.flip.mono (fun _ _ ha => ha.1.sameWait) fun _ _ h => h⟩
  · intro hleast visits outcome
    have hlost (e e' : Error) (h : Error.StandsFor stands context.minPriority e e') : e = e' :=
      h.eq hleast
    have heq {outcome outcome' : Poll Progress} (h : Poll.Matches
        (Abreast Eq (Error.StandsFor stands context.minPriority) (Fits node context))
        (Error.StandsFor stands context.minPriority) outcome outcome') : outcome = outcome' :=
      (h.mono (fun _ _ ha => ha.1.eq hlost) hlost).eq
    constructor
    · intro run
      obtain ⟨-, outcome', run', hmatches⟩ := hmirrors.run hunstarted hstart hbetween run
      exact heq hmatches ▸ run'
    · intro run'
      obtain ⟨-, outcome, run, hmatches⟩ := hmirrors.flip.run hunstarted hstart hbetween run'
      exact heq hmatches.flip ▸ run

end

/-! ### A disabled definition in a condition, in a table and in a race -/

/-- A plan in which the definition `a` is used everywhere. -/
def standInPlan (a : Strategy) : Strategy :=
  let b := .transport ⟨"b", "x", 0, 0, [], none⟩
  .sequential .default [.branch (.isSupported a) a
    (.cached ⟨Duration.ofMillis 1000, false, 0⟩ [("a", a), ("b", b)] (.firstConnected [a, b]))]

/-- The leaf that replaces it, whose priority is too low as well. -/
def standInLeaf : Leaf := ⟨"a", "y", -1, 1, [], none⟩

/-- The cache has a record of `a`, and opens of `b` fail. -/
def standInWorld : World :=
  .initial 0
    [⟨"x", true, true, .scripted [.fail (Duration.ofMillis 5) (.connection "refused")]⟩,
      ⟨"y", false, false, .scripted []⟩] [⟨none, some ⟨0, "a", 5⟩⟩]

/-- The first visit flushes the cache and opens `b`; the open fails at the second. -/
def standInVisit (p : Progress) (w : World) : Visit :=
  ⟨w, ((standInPlan (.unsupported "a")).poll .plain p w).2⟩

def standInOpens : Visit := standInVisit .unstarted standInWorld

def standInFails : Visit :=
  standInVisit
    (.sequencing 0 none [] (.trying none (.branched false (.uncached 0 (.racing none false [0, 1]
      [.failed, .running (.opening 1 0 (some (⟨Duration.ofMillis 5, 0⟩,
        some (.connection "refused"))))] [.transportUnsupported "a"])))))
    { standInOpens.after with now := Duration.ofMillis 5 }

/-- The attempt on the other plan makes the same visits and fails with them, and says of `a` that
it is not supported or that its priority is too low. -/
theorem disabled_as_unsupported_everywhere :
    Replaces (· = standInLeaf) (standInPlan (.unsupported "a"))
      (standInPlan (.transport standInLeaf)) ∧
    Unsupporting (· = standInLeaf) standInWorld.supports ∧
    ∃ outcome', Run (fun w w' => w'.supports = w.supports)
        ((standInPlan (.transport standInLeaf)).poll .plain) standInWorld
        [standInFails, standInOpens] outcome' ∧
      Poll.Matches Progress.SameWait (Error.StandsFor (· = standInLeaf) 0)
        (.ready (.error (.allFailed [.allFailed [.transportUnsupported "a",
          .connection "refused"]]))) outcome' := by
  have hreplaces : Replaces (· = standInLeaf) (standInPlan (.unsupported "a"))
      (standInPlan (.transport standInLeaf)) := by
    have ha : Replaces (· = standInLeaf) (.unsupported "a") (.transport standInLeaf) :=
      @Replaces.standIn (· = standInLeaf) standInLeaf rfl
    exact .sequential (.cons (.condition ha ha
      (.cached rfl (.cons ha (.cons .transport .nil))
        (.firstConnected (.cons ha (.cons .transport .nil))))) .nil)
  have hstart : Unsupporting (· = standInLeaf) standInWorld.supports := by
    rintro _ rfl encrypted
    cases encrypted <;> rfl
  have opens : Run (fun w w' => w'.supports = w.supports)
      ((standInPlan (.unsupported "a")).poll .plain) standInWorld [standInOpens] _ := .first
  have fails : Run (fun w w' => w'.supports = w.supports)
      ((standInPlan (.unsupported "a")).poll .plain) standInWorld [standInFails, standInOpens]
      (.ready (.error (.allFailed [.allFailed [.transportUnsupported "a",
        .connection "refused"]]))) := opens.again rfl
  obtain ⟨-, hruns, -, -⟩ := disabled_as_unsupported hreplaces .plain
    (fun w w' => w'.supports = w.supports) standInWorld hstart fun _ _ hb hw => hb ▸ hw
  exact ⟨hreplaces, hstart, hruns _ _ fails⟩

end Dialplan
