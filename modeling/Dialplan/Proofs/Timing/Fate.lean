import Dialplan.Proofs.Polling.Run
import Dialplan.Proofs.Timing.Resolve

/-! Fates. What resolves after the same time with the same kind of result, whenever it is started,
has a fate (`Steady`). The fate of a race is told by those of its children (`Fate.race`); when
children start somewhat later, it comes later by no more than that (`Fate.race_within`). An
environment that goes on visiting something sees its fate, at its moment
(`Foretells.resolves_iff`). -/

namespace Dialplan

/-- How long after its start something resolves, and whether it connects. What never resolves has
no fate. -/
structure Fate where
  delay : Duration
  connects : Bool
deriving DecidableEq

namespace Fate

/-! ### Fates of races -/

/-- The fate of two that race: the first success, or else the last failure. -/
def beside : Option Fate → Option Fate → Option Fate
  | some ⟨a, true⟩, some ⟨b, true⟩ => some ⟨min a b, true⟩
  | some ⟨a, true⟩, _ => some ⟨a, true⟩
  | _, some ⟨b, true⟩ => some ⟨b, true⟩
  | some ⟨a, false⟩, some ⟨b, false⟩ => some ⟨max a b, false⟩
  | _, _ => none

/-- The fate of a race of so many children. Without any it fails at once. -/
def race (fates : Nat → Option Fate) : Nat → Option Fate
  | 0 => some ⟨0, false⟩
  | count + 1 => beside (race fates count) (fates count)

variable {fates fates' : Nat → Option Fate} {count : Nat} {limit : Duration}

/-- A race connects no later than any of its children. -/
theorem race_connects {i : Nat} {d : Duration} (hi : i < count) (h : fates i = some ⟨d, true⟩) :
    ∃ d' ≤ d, race fates count = some ⟨d', true⟩ := by
  induction count with
  | zero => exact absurd hi (Nat.not_lt_zero i)
  | succ count ih =>
    rw [race]
    rcases Nat.lt_succ_iff_lt_or_eq.mp hi with hi | rfl
    · obtain ⟨d', hle, hrace⟩ := ih hi
      rw [hrace]
      rcases fates count with _ | ⟨b, _ | _⟩
      · exact ⟨d', hle, rfl⟩
      · exact ⟨d', hle, rfl⟩
      · exact ⟨min d' b, Nat.le_trans (Nat.min_le_left d' b) hle, rfl⟩
    · rw [h]
      rcases race fates i with _ | ⟨a, _ | _⟩
      · exact ⟨d, Nat.le_refl d, rfl⟩
      · exact ⟨d, Nat.le_refl d, rfl⟩
      · exact ⟨min a d, Nat.min_le_right a d, rfl⟩

/-- It connects when one of them does. -/
theorem exists_of_race_connects {d : Duration} (h : race fates count = some ⟨d, true⟩) :
    ∃ i < count, fates i = some ⟨d, true⟩ := by
  induction count generalizing d with
  | zero => cases h
  | succ count ih =>
    have hearlier : ∀ {a}, race fates count = some ⟨a, true⟩ →
        ∃ i < count + 1, fates i = some ⟨a, true⟩ := fun hrace => by
      obtain ⟨i, hi, hfate⟩ := ih hrace
      exact ⟨i, Nat.lt_succ_of_lt hi, hfate⟩
    rw [race] at h
    rcases hrace : race fates count with _ | ⟨a, _ | _⟩ <;>
      rcases hlast : fates count with _ | ⟨b, _ | _⟩ <;> rw [hrace, hlast] at h <;> cases h
    · exact ⟨count, Nat.lt_succ_self count, hlast⟩
    · exact ⟨count, Nat.lt_succ_self count, hlast⟩
    · exact hearlier hrace
    · exact hearlier hrace
    · rcases Nat.le_total a b with hle | hle
      · rw [Nat.min_eq_left hle]
        exact hearlier hrace
      · rw [Nat.min_eq_right hle]
        exact ⟨count, Nat.lt_succ_self count, hlast⟩

/-- A race all of whose children fail fails with the last of them. -/
theorem race_fails (h : ∀ i < count, ∃ d ≤ limit, fates i = some ⟨d, false⟩) :
    ∃ d ≤ limit, race fates count = some ⟨d, false⟩ := by
  induction count with
  | zero => exact ⟨0, Nat.zero_le limit, rfl⟩
  | succ count ih =>
    obtain ⟨a, ha, hrace⟩ := ih fun i hi => h i (Nat.lt_succ_of_lt hi)
    obtain ⟨b, hb, hlast⟩ := h count (Nat.lt_succ_self count)
    rw [race, hrace, hlast]
    exact ⟨max a b, Nat.max_le.mpr ⟨ha, hb⟩, rfl⟩

/-- It fails when all of them have failed. -/
theorem forall_of_race_fails {d : Duration} (h : race fates count = some ⟨d, false⟩) :
    ∀ i < count, ∃ d' ≤ d, fates i = some ⟨d', false⟩ := by
  induction count generalizing d with
  | zero => exact fun i hi => absurd hi (Nat.not_lt_zero i)
  | succ count ih =>
    rw [race] at h
    rcases hrace : race fates count with _ | ⟨a, _ | _⟩ <;>
      rcases hlast : fates count with _ | ⟨b, _ | _⟩ <;> rw [hrace, hlast] at h <;> cases h
    intro i hi
    rcases Nat.lt_succ_iff_lt_or_eq.mp hi with hi | rfl
    · obtain ⟨d', hle, hfate⟩ := ih hrace i hi
      exact ⟨d', Nat.le_trans hle (Nat.le_max_left a b), hfate⟩
    · exact ⟨b, Nat.le_max_right a b, hlast⟩

/-- The second fate is the same as the first but for a delay of at most so much. -/
inductive Within (margin : Duration) : Option Fate → Option Fate → Prop where
  | never : Within margin none none
  | late {a b connects} : b ≤ a + margin → Within margin (some ⟨a, connects⟩) (some ⟨b, connects⟩)

theorem Within.exists_iff {margin : Duration} {x y : Option Fate} (h : Within margin x y)
    (connects : Bool) : (∃ d, y = some ⟨d, connects⟩) ↔ ∃ d, x = some ⟨d, connects⟩ := by
  cases h with
  | never => exact ⟨nofun, nofun⟩
  | late _ =>
    constructor
    · rintro ⟨_, ⟨⟩⟩
      exact ⟨_, rfl⟩
    · rintro ⟨_, ⟨⟩⟩
      exact ⟨_, rfl⟩

theorem Within.le {margin : Duration} {f g : Fate} (h : Within margin (some f) (some g)) :
    g.delay ≤ f.delay + margin := by
  cases h with
  | late h => exact h

theorem Within.beside {margin : Duration} {x x' y y' : Option Fate} (hx : Within margin x x')
    (hy : Within margin y y') : Within margin (beside x y) (beside x' y') := by
  cases hx with
  | never =>
    cases hy with
    | never => exact .never
    | @late _ _ connects h =>
      cases connects with
      | true => exact .late h
      | false => exact .never
  | @late a a' connects h =>
    cases hy with
    | never =>
      cases connects with
      | true => exact .late h
      | false => exact .never
    | @late b b' connects' h' =>
      cases connects with
      | true =>
        cases connects' with
        | true =>
          have hmin : min a' b' ≤ min a b + margin := by lia
          exact .late hmin
        | false => exact .late h
      | false =>
        cases connects' with
        | true => exact .late h'
        | false =>
          have hmax : max a' b' ≤ max a b + margin := by lia
          exact .late hmax

/-- A race of children that are somewhat late is no later. -/
theorem race_within {margin : Duration}
    (h : ∀ i < count, Within margin (fates i) (fates' i)) :
    Within margin (race fates count) (race fates' count) := by
  induction count with
  | zero => exact .late (Nat.zero_le _)
  | succ count ih =>
    exact (ih fun i hi => h i (Nat.lt_succ_of_lt hi)).beside (h count (Nat.lt_succ_self count))

/-! ### Fates behind a lead -/

/-- How long children are held back behind a lead: until it fails, but no longer than for its head
start. -/
def released (fates : Nat → Option Fate) : Option Nat → Duration
  | none => 0
  | some l =>
    match fates l with
    | some ⟨d, false⟩ => min d headStart
    | _ => headStart

/-- How long after a race a child starts. -/
def startAfter (fates : Nat → Option Fate) (lead : Option Nat) (i : Nat) : Duration :=
  if lead = some i then 0 else released fates lead

/-- The fate of a child, counted from the start of the race. -/
def behind (fates : Nat → Option Fate) (lead : Option Nat) (i : Nat) : Option Fate :=
  (fates i).map fun fate => { fate with delay := startAfter fates lead i + fate.delay }

theorem released_le (fates : Nat → Option Fate) (lead : Option Nat) :
    released fates lead ≤ headStart := by
  unfold released
  split
  · exact Nat.zero_le _
  · split
    · exact Nat.min_le_right _ _
    · exact Nat.le_refl _

theorem startAfter_self (fates : Nat → Option Fate) (l : Nat) : startAfter fates (some l) l = 0 :=
  if_pos rfl

theorem startAfter_other {l i : Nat} (hne : i ≠ l) :
    startAfter fates (some l) i = released fates (some l) :=
  if_neg fun h => hne (Option.some.inj h).symm

theorem behind_eq_some_iff {lead : Option Nat} {i : Nat} {fate : Fate} :
    behind fates lead i = some fate ↔ ∃ d, fates i = some ⟨d, fate.connects⟩ ∧
      fate.delay = startAfter fates lead i + d := by
  unfold behind
  rw [Option.map_eq_some_iff]
  constructor
  · rintro ⟨fate, h, rfl⟩
    exact ⟨fate.delay, h, rfl⟩
  · rintro ⟨d, h, hdelay⟩
    exact ⟨_, h, by rw [← hdelay]⟩

theorem behind_lead (fates : Nat → Option Fate) (l : Nat) : behind fates (some l) l = fates l := by
  unfold behind
  rw [startAfter_self]
  cases fates l with
  | none => rfl
  | some fate => simp

theorem behind_none (fates : Nat → Option Fate) : behind fates none = fates := by
  funext i
  unfold behind startAfter released
  cases fates i with
  | none => rfl
  | some fate => simp

theorem behind_within (fates : Nat → Option Fate) (lead : Option Nat) (i : Nat) :
    Within headStart (fates i) (behind fates lead i) := by
  have hle : startAfter fates lead i ≤ headStart := by
    unfold startAfter
    split
    · exact Nat.zero_le _
    · exact released_le fates lead
  unfold behind
  cases fates i with
  | none => exact .never
  | some fate =>
    have hlate : startAfter fates lead i + fate.delay ≤ fate.delay + headStart := by lia
    exact .late hlate

end Fate

/-! ### Steadiness -/

/-- Something in progress is polled again by a moment: it lets others run, or it waits for a moment
that is no later. -/
def WakesBy (p : Progress) (moment : Instant) : Prop :=
  p.isYielding = true ∨ ∃ timer ∈ p.timers, timer.deadline ≤ moment

theorem WakesBy.mono {p : Progress} {moment later : Instant} (h : WakesBy p moment)
    (hle : moment ≤ later) : WakesBy p later :=
  h.imp_right fun ⟨timer, hm, hdue⟩ => ⟨timer, hm, Nat.le_trans hdue hle⟩

/-- A punctual visit is not too late for it. -/
theorem WakesBy.visited {p : Progress} {moment : Instant} (h : WakesBy p moment) {visit : Visit}
    {w : World} (hpunctual : Punctual visit p w) (hnow : visit.before.now ≤ moment) :
    w.now ≤ moment := by
  rcases h with hyields | ⟨timer, hm, hdue⟩
  · rwa [hpunctual.prompt hyields]
  · exact Nat.le_trans (hpunctual.awaited timer hm) hdue

/-- What still waits at a moment, and has a fate: it does not wait for moments that are past, and
until its fate comes it lets others run, or waits for a moment that is no later. -/
structure Waits (fate : Option Fate) (started now : Instant) (p : Progress) : Prop where
  later : ∀ timer ∈ p.timers, now ≤ timer.deadline
  before : ∀ {f}, fate = some f → now < started + f.delay
  wakes : ∀ {f}, fate = some f → WakesBy p (started + f.delay)

/-- A poll says what the fate says: it has come, or is waited for. -/
def Foretold (fate : Option Fate) (started now : Instant) : Poll Progress → Prop
  | .pending p => Waits fate started now p
  | .ready result => ∃ f, fate = some f ∧ started + f.delay ≤ now ∧ f.connects = result.isOk

/-- In all punctual runs from a world on, every poll says what the fate says, as long as the worlds
are of some kind. -/
def Foretells (kind : World → Prop) (poller : Poller) (fate : Option Fate) (w₀ : World) : Prop :=
  ∀ {latest earlier outcome}, PunctualRun poller w₀ (latest :: earlier) outcome →
    (∀ visit ∈ latest :: earlier, kind visit.before) →
    Foretold fate w₀.now latest.before.now outcome

/-- Whenever it is started in a world of some kind, it has this fate. -/
structure Steady (kind : World → Prop) (poller : Poller) (fate : Option Fate) : Prop where
  keeps : ∀ p {w}, kind w → kind (poller p w).2 ∧ (poller p w).2.now = w.now
  foretells : ∀ w₀, Foretells kind poller fate w₀

/-- In a punctual run from one moment on a poll at another has left something in progress. -/
def LeftBy (kind : World → Prop) (poller : Poller) (started now : Instant) (p : Progress) : Prop :=
  ∃ w₀ latest earlier, PunctualRun poller w₀ (latest :: earlier) (.pending p) ∧
    (∀ visit ∈ latest :: earlier, kind visit.before) ∧ w₀.now = started ∧ latest.before.now = now

/-- It may be polled now: it was not polled before and starts, or its next visit is punctual. -/
def Resumable (kind : World → Prop) (poller : Poller) (started now : Instant) (p : Progress) :
    Prop :=
  p = .unstarted ∧ started = now ∨
    ∃ past, LeftBy kind poller started past p ∧ past ≤ now ∧
      (∀ timer ∈ p.timers, now ≤ timer.deadline) ∧ (p.isYielding = true → now = past)

section

variable {kind : World → Prop} {poller : Poller} {fate : Option Fate} {started now : Instant}
  {p : Progress}

theorem LeftBy.resumes (h : LeftBy kind poller started now p)
    (hlater : ∀ timer ∈ p.timers, now ≤ timer.deadline) : Resumable kind poller started now p :=
  .inr ⟨now, h, Nat.le_refl now, hlater, fun _ => rfl⟩

/-- One punctual poll of what is steady. -/
theorem Steady.poll (h : Steady kind poller fate) {w : World} (hw : kind w)
    (hp : Resumable kind poller started w.now p) :
    Foretold fate started w.now (poller p w).1 ∧
      ∀ p', (poller p w).1 = .pending p' → LeftBy kind poller started w.now p' := by
  rcases hp with ⟨rfl, rfl⟩ | ⟨past, hleft, hle, hlater, hsame⟩
  · have hkind : ∀ visit ∈ [Visit.mk w (poller .unstarted w).2], kind visit.before :=
      List.forall_mem_singleton.mpr hw
    exact ⟨h.foretells w .first hkind, fun p' hp' => ⟨w, _, [], hp' ▸ .first, hkind, rfl, rfl⟩⟩
  · obtain ⟨w₀, latest, earlier, run, hkind, rfl, rfl⟩ := hleft
    have run := run.again (w := w) ⟨hle, hlater, hsame⟩
    have hkind : ∀ visit ∈ ⟨w, (poller p w).2⟩ :: latest :: earlier, kind visit.before :=
      List.forall_mem_cons.mpr ⟨hw, hkind⟩
    exact ⟨h.foretells w₀ run hkind, fun p' hp' => ⟨w₀, _, _, hp' ▸ run, hkind, rfl, rfl⟩⟩

/-- A punctual visit that finds a fate is not too late for it. -/
theorem Foretells.on_time {w₀ : World} (h : Foretells kind poller fate w₀) {latest : Visit}
    {earlier : List Visit} {result : Except Error Connection}
    (run : PunctualRun poller w₀ (latest :: earlier) (.ready result))
    (hkind : ∀ visit ∈ latest :: earlier, kind visit.before) :
    ∃ f, fate = some f ∧ latest.before.now = w₀.now + f.delay ∧ f.connects = result.isOk := by
  obtain ⟨f, hf, hle, hresult⟩ := h run hkind
  refine ⟨f, hf, Nat.le_antisymm ?_ hle, hresult⟩
  generalize hvisits : latest :: earlier = visits at run
  generalize Poll.ready result = outcome at run
  cases run with
  | first =>
    obtain ⟨rfl, -⟩ := List.cons.inj hvisits
    exact Nat.le_add_right _ _
  | again run hpunctual =>
    obtain ⟨rfl, rfl⟩ := List.cons.inj hvisits
    have hwaits := h run (List.forall_mem_cons.mp hkind).2
    exact (hwaits.wakes hf).visited hpunctual (Nat.le_of_lt (hwaits.before hf))

/-! ### Environments -/

/-- An environment runs something: it visits it punctually, in worlds of some kind, and goes on for
as long as there is anything to wait for. -/
structure Drives (kind : World → Prop) (next : List Visit → Progress → World) (poller : Poller)
    (w₀ : World) : Prop where
  starts : kind w₀
  visits : ∀ {latest earlier p}, Conducted next poller w₀ (latest :: earlier) (.pending p) →
    kind (next (latest :: earlier) p) ∧ Punctual latest p (next (latest :: earlier) p)
  goesOn : ∀ moment, ∃ latest earlier outcome,
    Conducted next poller w₀ (latest :: earlier) outcome ∧
      ∀ p, outcome = .pending p → moment ≤ latest.before.now ∨ p.timers = [] ∧ p.isYielding = false

/-- Run by an environment, it resolves at a moment, and connects or not. -/
def Resolves (next : List Visit → Progress → World) (poller : Poller) (w₀ : World)
    (connects : Bool) (moment : Instant) : Prop :=
  ∃ latest earlier result, Conducted next poller w₀ (latest :: earlier) (.ready result) ∧
    result.isOk = connects ∧ latest.before.now = moment

variable {next : List Visit → Progress → World} {w₀ : World}

/-- What an environment does is a punctual run in worlds of the kind. -/
theorem Drives.run (h : Drives kind next poller w₀) {visits : List Visit} {outcome : Poll Progress}
    (run : Conducted next poller w₀ visits outcome) :
    PunctualRun poller w₀ visits outcome ∧ ∀ visit ∈ visits, kind visit.before := by
  induction run with
  | first => exact ⟨.first, List.forall_mem_singleton.mpr h.starts⟩
  | again run ih =>
    obtain ⟨hrun, hkind⟩ := ih
    obtain ⟨latest, earlier, rfl⟩ := hrun.run.exists_cons
    obtain ⟨hnext, hpunctual⟩ := h.visits run
    exact ⟨hrun.again hpunctual, List.forall_mem_cons.mpr ⟨hnext, hkind⟩⟩

/-- What is run by an environment resolves as its fate says, and when its fate says. -/
theorem Foretells.resolves_iff (h : Foretells kind poller fate w₀)
    (drives : Drives kind next poller w₀) {connects : Bool} {moment : Instant} :
    Resolves next poller w₀ connects moment ↔
      ∃ d, fate = some ⟨d, connects⟩ ∧ moment = w₀.now + d := by
  constructor
  · rintro ⟨latest, earlier, result, run, rfl, rfl⟩
    obtain ⟨hrun, hkind⟩ := drives.run run
    obtain ⟨⟨d, connects⟩, hf, hnow, rfl⟩ := h.on_time hrun hkind
    exact ⟨d, hf, hnow⟩
  · rintro ⟨d, hf, rfl⟩
    obtain ⟨latest, earlier, outcome, run, hend⟩ := drives.goesOn (w₀.now + d)
    obtain ⟨hrun, hkind⟩ := drives.run run
    cases outcome with
    | pending p =>
      have hwaits := h hrun hkind
      rcases hend p rfl with hreached | ⟨hnone, hrests⟩
      · exact absurd (hwaits.before hf) (Nat.not_lt_of_le hreached)
      · rcases hwaits.wakes hf with hyields | ⟨timer, hm, -⟩
        · rw [hrests] at hyields
          cases hyields
        · rw [hnone] at hm
          cases hm
    | ready result =>
      obtain ⟨f, hf', hnow, hresult⟩ := h.on_time hrun hkind
      cases hf.symm.trans hf'
      exact ⟨latest, earlier, result, run, hresult.symm, hnow⟩

end

/-! ### Transports -/

namespace Behaviour

/-- What becomes of an open, and when. -/
def fate : Behaviour → Option Fate
  | .connect delay => some ⟨delay, true⟩
  | .fail delay _ => some ⟨delay, false⟩
  | .hang => none

/-- The answer that an open waits for. -/
def answer (started : Instant) (turn : Nat) : Behaviour → Option (Timer × Option Error)
  | .connect delay => some (⟨started + delay, turn⟩, none)
  | .fail delay e => some (⟨started + delay, turn⟩, some e)
  | .hang => none

end Behaviour

namespace Leaf

/-- An open is over when its answer is due. -/
theorem pollOpening_foretold (leaf : Leaf) (behaviour : Behaviour) (number : Nat)
    (started : Instant) (turn : Nat) (w : World) :
    Foretold behaviour.fate started w.now
        (leaf.pollOpening number started (behaviour.answer started turn) w).1 ∧
      ∀ p, (leaf.pollOpening number started (behaviour.answer started turn) w).1 = .pending p →
        p = .opening number started (behaviour.answer started turn) := by
  have htimed : ∀ (delay : Duration) (failure : Option Error),
      Foretold (some ⟨delay, failure.isNone⟩) started w.now
          (leaf.pollOpening number started (some (⟨started + delay, turn⟩, failure)) w).1 ∧
        ∀ p, (leaf.pollOpening number started (some (⟨started + delay, turn⟩, failure)) w).1 =
          .pending p → p = .opening number started (some (⟨started + delay, turn⟩, failure)) := by
    intro delay failure
    unfold pollOpening Timer.isDue
    dsimp only
    by_cases hdue : started + delay ≤ w.now
    · rw [if_pos (decide_eq_true hdue)]
      cases failure with
      | none => exact ⟨⟨_, rfl, hdue, rfl⟩, nofun⟩
      | some e => exact ⟨⟨_, rfl, hdue, rfl⟩, nofun⟩
    · rw [if_neg (by simpa using hdue)]
      have hlt := Nat.lt_of_not_le hdue
      refine ⟨⟨List.forall_mem_singleton.mpr (Nat.le_of_lt hlt), ?_, ?_⟩, ?_⟩
      · rintro _ ⟨⟩
        exact hlt
      · rintro _ ⟨⟩
        exact .inr ⟨_, List.mem_singleton_self _, Nat.le_refl _⟩
      · rintro _ ⟨⟩
        rfl
  cases behaviour with
  | connect delay => exact htimed delay none
  | fail delay e => exact htimed delay (some e)
  | hang =>
    refine ⟨⟨nofun, nofun, nofun⟩, ?_⟩
    rintro _ ⟨⟩
    rfl

/-- A transport that may be opened, and that its mechanism always answers alike, is steady. -/
theorem steady {leaf : Leaf} {context : Context} {mechanisms : List Mechanism}
    {mechanism : Mechanism} {behaviour : Behaviour}
    (hpriority : context.minPriority ≤ leaf.priority)
    (hmechanism : mechanisms[leaf.mechanism]? = some mechanism)
    (hsupports : mechanism.supports context.encrypted = true)
    (hanswer : ∀ request number, mechanism.answer request number = behaviour)
    (hafter : mechanisms.modify leaf.mechanism Mechanism.afterOpen = mechanisms) :
    Steady (fun w => w.mechanisms = mechanisms) (leaf.poll context) behaviour.fate := by
  have hframe : Frame fun w w' : World =>
      w.mechanisms = mechanisms → w'.mechanisms = mechanisms ∧ w'.now = w.now := by
    refine ⟨fun _ h => ⟨h, rfl⟩, fun hab hbc h => ?_, fun _ _ _ _ h => ⟨h, rfl⟩,
      fun _ _ h => ⟨h, rfl⟩, fun _ _ h => ⟨h, rfl⟩⟩
    obtain ⟨hb, hnow⟩ := hab h
    obtain ⟨hc, hlater⟩ := hbc hb
    exact ⟨hc, hlater.trans hnow⟩
  refine ⟨fun p w => hframe.leaf leaf context (fun w _ _ h => ⟨?_, rfl⟩) p w, fun w₀ => ?_⟩
  · show w.mechanisms.modify leaf.mechanism Mechanism.afterOpen = mechanisms
    rw [h, hafter]
  · intro latest earlier outcome run hkind
    have hfirst : ∀ w : World, w.mechanisms = mechanisms → leaf.poll context .unstarted w =
        leaf.pollOpening (w.opens + 1) w.now (behaviour.answer w.now w.turn)
          (w.openTransport leaf context.encrypted).2 := by
      rintro w rfl
      have hbehaviour : (w.openTransport leaf context.encrypted).1 = behaviour := by
        simp [World.openTransport, hmechanism, hanswer]
      unfold poll
      dsimp only
      rw [if_neg (Int64.not_lt.mpr hpriority),
        if_neg (by simp [World.supports, hmechanism, hsupports]), hbehaviour]
      cases behaviour <;> rfl
    -- what waits is the open that was made at first
    have hrun : Foretold behaviour.fate w₀.now latest.before.now outcome ∧
        ∀ p, outcome = .pending p →
          p = .opening (w₀.opens + 1) w₀.now (behaviour.answer w₀.now w₀.turn) := by
      generalize hvisits : latest :: earlier = visits at run hkind
      induction run generalizing latest earlier with
      | first =>
        obtain ⟨rfl, rfl⟩ := List.cons.inj hvisits
        rw [hfirst w₀ (hkind _ List.mem_cons_self)]
        exact leaf.pollOpening_foretold behaviour _ _ _ _
      | again run _ ih =>
        obtain ⟨rfl, rfl⟩ := List.cons.inj hvisits
        obtain ⟨-, hopening⟩ := ih rfl (List.forall_mem_cons.mp hkind).2
        obtain rfl := hopening _ rfl
        exact leaf.pollOpening_foretold behaviour _ _ _ _
    exact hrun.1

end Leaf

end Dialplan
