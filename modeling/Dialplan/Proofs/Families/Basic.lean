import Dialplan.Proofs.Attempts.Shared
import Dialplan.Proofs.Lockstep.Nodes

/-! Two families of attempts. The strategies of one family were built for encrypted connections
and those of the other for plain ones; attempts of both are started, given turns, cancelled and
dropped in any order, in one world. What a family does to opens is written down for it. Whatever
happens, numbers of opens are at most as great as the number of opens (`Families.run_orderly`). -/

namespace Dialplan

/-- Attempts of two families that share a world: the family that was built for encrypted
connections is `true`. -/
structure Families where
  world : World
  /-- The attempts of each family, with the builds of their strategies. -/
  attempts : Bool → List (Built × Attempt)
  /-- What each family did to opens, latest first. -/
  events : Bool → List Event

namespace Families

/-- What can happen to an attempt. -/
inductive Act where
  /-- Its task has a turn. -/
  | turn
  /-- Its task publishes the result. -/
  | publish
  /-- It is cancelled, or its handle is let go. -/
  | cancel
  /-- It is dropped with all that it has in progress. -/
  | drop

inductive Move where
  | spawn (built : Built) (context : Context)
  /-- Something happens to an attempt of a family, by its place. -/
  | act (family : Bool) (place : Nat) (act : Act)
  /-- Time passes up to a turn. -/
  | elapse (time : Duration) (turn : Nat)

/-- Is it no move of the other family? -/
def Move.concerns (family : Bool) : Move → Bool
  | spawn built _ => built.options.encrypted = family
  | act of _ _ => of = family
  | elapse _ _ => true

/-- No attempts yet. -/
def start (w : World) : Families := ⟨w, fun _ => [], fun _ => []⟩

/-- A family has changed its attempts and the world, and what it did to opens is written down. -/
def move (s : Families) (family : Bool) (attempts : List (Built × Attempt)) (w : World) :
    Families where
  world := w
  attempts of := if of = family then attempts else s.attempts of
  events of :=
    if of = family then (Visit.mk s.world w).events ++ s.events of else s.events of

def act (s : Families) (family : Bool) (place : Nat) (act : Act) : Families :=
  match (s.attempts family)[place]? with
  | some (built, attempt) =>
    match act with
    | .turn =>
      s.move family ((s.attempts family).set place (built, (attempt.run s.world).1))
        (attempt.run s.world).2
    | .publish =>
      s.move family ((s.attempts family).set place (built, attempt.publish)) s.world
    | .cancel => s.move family ((s.attempts family).set place (built, attempt.cancel)) s.world
    | .drop =>
      s.move family ((s.attempts family).eraseIdx place) (attempt.progress.abandon s.world)
  | none => s

def step (s : Families) : Move → Families
  | .spawn built context =>
    s.move built.options.encrypted
      (s.attempts built.options.encrypted ++ [(built, .start built.strategy context)]) s.world
  | .act family place act => s.act family place act
  | .elapse time turn => { s with world := { s.world with now := s.world.now + time, turn := turn } }

/-- What comes of some moves, the first move first. -/
def run (s : Families) (moves : List Move) : Families := moves.foldl step s

end Families

/-! ### Numbers of opens -/

/-- Every open in the log has been made. -/
def World.Bounded (w : World) : Prop := ∀ event ∈ w.log, event.number ≤ w.opens

theorem World.Bounded.record {w : World} (h : w.Bounded) {event : Event}
    (hevent : event.number ≤ w.opens) : (w.record event).Bounded :=
  List.forall_mem_cons.mpr ⟨hevent, h⟩

theorem opens_frame (root : Strategy) (context : Context) :
    FrameAt root context fun w w' => w.opens ≤ w'.opens where
  refl _ := le_rfl
  trans := le_trans
  connected _ _ _ _ := le_rfl
  failed _ _ := le_rfl
  cancelled _ _ := le_rfl
  remembered _ _ _ := le_rfl
  opened _ w _ _ := Nat.le_succ w.opens
  stored _ _ _ _ := le_rfl
  flushed _ _ := le_rfl

/-- Opens in flight have been made, and so has the open that won. -/
theorem bounded_custody (root : Strategy) (context : Context) :
    CustodyAt root context (fun _ _ _ _ => True)
      (fun w rest => w.Bounded ∧ ∀ number ∈ rest, number ≤ w.opens)
      (fun _ _ connection w rest => connection.socket.opened ≤ w.opens ∧ w.Bounded ∧
        ∀ number ∈ rest, number ≤ w.opens) where
  kept _ h := h
  failed h := by
    obtain ⟨hnumber, hrest⟩ := Multiset.forall_mem_cons.mp h.2
    exact ⟨h.1.record hnumber, hrest⟩
  connected _ h := by
    obtain ⟨hnumber, hrest⟩ := Multiset.forall_mem_cons.mp h.2
    exact ⟨hnumber, h.1.record hnumber, hrest⟩
  cancelled h := by
    obtain ⟨hnumber, hrest⟩ := Multiset.forall_mem_cons.mp h.2
    exact ⟨h.1.record hnumber, hrest⟩
  released h := by
    obtain ⟨hnumber, hrest⟩ := Multiset.forall_mem_cons.mp h.2.2
    exact ⟨h.1, h.2.1.record hnumber, hrest⟩
  passed _ _ h := h
  remembered _ _ h := h
  opened {_ _ _ w rest} _ _ _ h := by
    refine ⟨trivial, ?_, Multiset.forall_mem_cons.mpr ⟨le_rfl, fun number hm => ?_⟩⟩
    · exact List.forall_mem_cons.mpr ⟨le_rfl, fun event hm => (h.1 event hm).trans (Nat.le_succ _)⟩
    · exact (h.2 number hm).trans (Nat.le_succ _)
  stored _ _ h _ := h
  flushed _ h := h

/-- Numbers that are given up have been made. -/
theorem World.Bounded.cancel {w : World} (h : w.Bounded) {numbers : List Nat}
    (hnumbers : ∀ number ∈ numbers, number ≤ w.opens) : (w.cancel numbers).Bounded := by
  rw [w.cancel_eq]
  refine List.forall_mem_append.mpr ⟨fun event hm => ?_, h⟩
  obtain ⟨number, hnumber, rfl⟩ := List.mem_map.mp (List.mem_reverse.mp hm)
  exact hnumbers number hnumber

namespace Families

/-- An attempt of a family, on a strategy of one of some builds: what it has in progress fits the
strategy, and its opens have been made. -/
structure Resident (plans : List Built) (opens : Nat) (family : Bool) (built : Built)
    (attempt : Attempt) : Prop where
  mem : built ∈ plans
  family : built.options.encrypted = family
  strategy : attempt.strategy = built.strategy
  running : ∀ p, attempt.task = .running p →
    Fits attempt.strategy attempt.context p ∧ ∀ number ∈ p.inFlight, number ≤ opens
  finished : ∀ connection, attempt.task = .finished (.ok connection) →
    connection.socket.opened ≤ opens
  sent : ∀ connection, attempt.channel = .sent (.ok connection) →
    connection.socket.opened ≤ opens

namespace Resident

variable {plans : List Built} {opens opens' : Nat} {family : Bool} {built : Built}
  {attempt : Attempt}

theorem mono (h : Resident plans opens family built attempt) (hle : opens ≤ opens') :
    Resident plans opens' family built attempt where
  mem := h.mem
  family := h.family
  strategy := h.strategy
  running p hp := ⟨(h.running p hp).1, fun number hm => ((h.running p hp).2 number hm).trans hle⟩
  finished connection hc := (h.finished connection hc).trans hle
  sent connection hc := (h.sent connection hc).trans hle

theorem start (hm : built ∈ plans) (context : Context) :
    Resident plans opens built.options.encrypted built (.start built.strategy context) := by
  refine ⟨hm, rfl, rfl, ?_, nofun, nofun⟩
  rintro _ ⟨⟩
  exact ⟨.unstarted, nofun⟩

theorem publish (h : Resident plans opens family built attempt) :
    Resident plans opens family built attempt.publish := by
  unfold Attempt.publish
  split
  · rename_i result htask
    split
    · refine ⟨h.mem, h.family, h.strategy, nofun, nofun, ?_⟩
      rintro connection ⟨⟩
      exact h.finished connection htask
    · exact ⟨h.mem, h.family, h.strategy, nofun, nofun, nofun⟩
  · exact h

theorem cancel (h : Resident plans opens family built attempt) :
    Resident plans opens family built attempt.cancel := by
  unfold Attempt.cancel
  split
  · exact ⟨h.mem, h.family, h.strategy, h.running, h.finished, h.sent⟩
  · exact h

/-- A turn of the attempt. -/
theorem run {w : World} (h : Resident plans w.opens family built attempt) (hw : w.Bounded) :
    (attempt.run w).2.Bounded ∧ w.opens ≤ (attempt.run w).2.opens ∧
      Resident plans (attempt.run w).2.opens family built (attempt.run w).1 := by
  have hframe := opens_frame attempt.strategy attempt.context
  unfold Attempt.run
  split
  · rename_i p hp
    obtain ⟨hfits, hbound⟩ := h.running p hp
    split
    · exact ⟨hw.cancel hbound, hframe.cancel w _, h.mem, h.family, h.strategy, nofun, nofun, nofun⟩
    · have hle := hframe.poll attempt.strategy .root p w
      have hpoll := (bounded_custody attempt.strategy attempt.context).poll attempt.strategy .root p w
        0 hfits ⟨hw, by simpa using hbound⟩
      generalize attempt.strategy.poll attempt.context p w = polled at hle hpoll ⊢
      obtain ⟨answer, w'⟩ := polled
      have hsent : ∀ connection, attempt.channel = .sent (.ok connection) →
          connection.socket.opened ≤ w'.opens :=
        fun connection hc => (h.sent connection hc).trans hle
      cases answer with
      | pending p =>
        obtain ⟨hfits, hw, hbound⟩ := hpoll
        refine ⟨hw, hle, h.mem, h.family, h.strategy, ?_, nofun, hsent⟩
        rintro _ ⟨⟩
        exact ⟨hfits, by simpa using hbound⟩
      | ready result =>
        cases result with
        | ok connection =>
          obtain ⟨hsocket, hw, -⟩ := hpoll
          refine ⟨hw, hle, h.mem, h.family, h.strategy, nofun, ?_, hsent⟩
          rintro _ ⟨⟩
          exact hsocket
        | error e => exact ⟨hpoll.1, hle, h.mem, h.family, h.strategy, nofun, nofun, hsent⟩
  · exact ⟨hw, le_rfl, h⟩

end Resident

/-- All attempts are of their families, and all opens that were written down have been made. -/
structure Orderly (plans : List Built) (s : Families) : Prop where
  bounded : s.world.Bounded
  events : ∀ family, ∀ event ∈ s.events family, event.number ≤ s.world.opens
  attempts : ∀ family, ∀ entry ∈ s.attempts family,
    Resident plans s.world.opens family entry.1 entry.2

section

variable {plans : List Built} {s : Families}

theorem Orderly.start {w : World} (h : w.Bounded) : Orderly plans (start w) :=
  ⟨h, fun _ _ hm => absurd hm List.not_mem_nil, fun _ _ hm => absurd hm List.not_mem_nil⟩

/-- What a family does to opens, it does to opens that have been made. -/
theorem Orderly.move (h : Orderly plans s) {family : Bool} {attempts : List (Built × Attempt)}
    {w : World} (hw : w.Bounded) (hle : s.world.opens ≤ w.opens)
    (hattempts : ∀ entry ∈ attempts, Resident plans w.opens family entry.1 entry.2) :
    Orderly plans (s.move family attempts w) := by
  refine ⟨hw, fun of event hm => ?_, fun of entry hm => ?_⟩
  · have hearlier : ∀ event ∈ s.events of, event.number ≤ w.opens :=
      fun event hm => (h.events of event hm).trans hle
    simp only [Families.move] at hm
    split at hm
    · rcases List.mem_append.mp hm with hm | hm
      · exact hw event (List.mem_of_mem_take hm)
      · exact hearlier event hm
    · exact hearlier event hm
  · simp only [Families.move] at hm
    split at hm
    · rename_i hof
      exact hof ▸ hattempts entry hm
    · exact (h.attempts of entry hm).mono hle

theorem Orderly.act (h : Orderly plans s) (family : Bool) (place : Nat) (act : Act) :
    Orderly plans (s.act family place act) := by
  unfold Families.act
  split
  · rename_i built attempt hplace
    have hresident := h.attempts family _ (List.mem_of_getElem? hplace)
    have hset : ∀ {w attempt}, s.world.opens ≤ w →
        Resident plans w family built attempt →
        ∀ entry ∈ (s.attempts family).set place (built, attempt),
          Resident plans w family entry.1 entry.2 := by
      intro w attempt hle hr entry hm
      rcases List.mem_or_eq_of_mem_set hm with hm | rfl
      · exact (h.attempts family entry hm).mono hle
      · exact hr
    cases act with
    | turn =>
      obtain ⟨hw, hle, hr⟩ := hresident.run h.bounded
      exact h.move hw hle (hset hle hr)
    | publish => exact h.move h.bounded le_rfl (hset le_rfl hresident.publish)
    | cancel => exact h.move h.bounded le_rfl (hset le_rfl hresident.cancel)
    | drop =>
      have hprogress : ∀ number ∈ attempt.progress.inFlight, number ≤ s.world.opens := by
        unfold Attempt.progress
        split
        · rename_i p hp
          exact (hresident.running p hp).2
        · exact nofun
      have hle := (opens_frame attempt.strategy attempt.context).cancel s.world
        attempt.progress.inFlight
      refine h.move (h.bounded.cancel hprogress) hle fun entry hm => ?_
      exact (h.attempts family entry (List.mem_of_mem_eraseIdx hm)).mono hle
  · exact h

/-- Every run is orderly, when it starts attempts on strategies of these builds. -/
theorem Orderly.run {moves : List Move} (h : Orderly plans s)
    (hplans : ∀ built context, .spawn built context ∈ moves → built ∈ plans) :
    Orderly plans (s.run moves) := by
  induction moves generalizing s with
  | nil => exact h
  | cons move rest ih =>
    refine ih ?_ fun built context hm => hplans built context (List.mem_cons_of_mem _ hm)
    cases move with
    | spawn built context =>
      refine h.move h.bounded le_rfl fun entry hm => ?_
      rcases List.mem_append.mp hm with hm | hm
      · exact h.attempts _ entry hm
      · obtain rfl := List.mem_singleton.mp hm
        exact .start (hplans built context List.mem_cons_self) context
    | act family place act => exact h.act family place act
    | elapse time turn => exact ⟨h.bounded, h.events, h.attempts⟩

end

end Families

end Dialplan
