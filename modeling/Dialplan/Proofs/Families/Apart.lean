import Dialplan.Proofs.Families.Beside

/-! Partitions do not interfere. Two families of attempts, one built for encrypted and one for plain
connections, share caches but no race; what an open is answered does not depend on the other
family. Then whatever the moves are, each family is as it would be without the other: its
attempts and their results, what it does to opens and when, the memories of its races and its
partitions (`families_apart`). Opens are numbered in one order for all, so their numbers are
those that they would have without the other family, in the same order. -/

namespace Dialplan

open List (Forall₂)

/-! ### Attempts -/

/-- Two attempts have come to the same, up to how their opens are numbered. -/
inductive SameResult (f : Nat → Nat) :
    Except Error Connection → Except Error Connection → Prop where
  | connected {connection connection'} : connection.Renumbered f connection' →
      SameResult f (.ok connection) (.ok connection')
  | failed (e) : SameResult f (.error e) (.error e)

namespace Attempt

inductive Task.Alike (f : Nat → Nat) : Task → Task → Prop where
  | running {p q} : p.Alike (fun n n' => n = f n') Eq q → Alike f (.running p) (.running q)
  | finished {result result'} : SameResult f result result' →
      Alike f (.finished result) (.finished result')
  | ended : Alike f .ended .ended

inductive Channel.Alike (f : Nat → Nat) : Channel → Channel → Prop where
  | empty : Alike f .empty .empty
  | sent {result result'} : SameResult f result result' → Alike f (.sent result) (.sent result')
  | closed : Alike f .closed .closed

/-- Two attempts on a strategy stand alike, up to how their opens are numbered. -/
structure Alike (f : Nat → Nat) (attempt attempt' : Attempt) : Prop where
  strategy : attempt'.strategy = attempt.strategy
  context : attempt'.context = attempt.context
  state : attempt'.state = attempt.state
  aborted : attempt'.aborted = attempt.aborted
  task : Task.Alike f attempt.task attempt'.task
  channel : Channel.Alike f attempt.channel attempt'.channel

end Attempt

section

variable {plans : List Built} {family : Bool} {f f' : Nat → Nat} {built : Built}
  {attempt attempt' : Attempt} {opens : Nat}

theorem SameResult.renumber {result result' : Except Error Connection}
    (h : SameResult f result result') (hf : ∀ n ≤ opens, f' n = f n)
    (hopens : ∀ connection, result' = .ok connection → connection.socket.opened ≤ opens) :
    SameResult f' result result' := by
  cases h with
  | connected h =>
    exact .connected { h with opened := h.opened.trans (hf _ (hopens _ rfl)).symm }
  | failed e => exact .failed e

theorem Event.Renumbered.renumber {event event' : Event} (h : event.Renumbered f event')
    (hf : f' event'.number = f event'.number) : event.Renumbered f' event' := by
  cases h with
  | opened => exact hf ▸ .opened
  | connected => exact hf ▸ .connected
  | failed => exact hf ▸ .failed
  | cancelled => exact hf ▸ .cancelled

theorem Attempt.Alike.renumber (h : attempt.Alike f attempt') (hf : ∀ n ≤ opens, f' n = f n)
    (hresident : Families.Resident plans opens family built attempt') :
    attempt.Alike f' attempt' := by
  obtain ⟨_, _, _, _, task, channel⟩ := attempt
  obtain ⟨strategy, context, state, aborted, task', channel'⟩ := attempt'
  obtain ⟨rfl, rfl, rfl, rfl, htask, hchannel⟩ := h
  refine ⟨rfl, rfl, rfl, rfl, ?_, ?_⟩
  · dsimp only at htask ⊢
    cases htask with
    | @running p q ha =>
      refine .running (ha.renumber fun n n' hm hn => hn.trans (hf n' ?_).symm)
      exact (hresident.running q rfl).2 n' hm
    | finished hr =>
      exact .finished (hr.renumber hf fun c hc => hresident.finished c (hc ▸ rfl))
    | ended => exact .ended
  · dsimp only at hchannel ⊢
    cases hchannel with
    | empty => exact .empty
    | sent hr => exact .sent (hr.renumber hf fun c hc => hresident.sent c (hc ▸ rfl))
    | closed => exact .closed

theorem Attempt.Alike.start (strategy : Strategy) (context : Context) :
    (Attempt.start strategy context).Alike f (.start strategy context) :=
  ⟨rfl, rfl, rfl, rfl, .running .unstarted, .empty⟩

theorem Attempt.Alike.publish (h : attempt.Alike f attempt') :
    attempt.publish.Alike f attempt'.publish := by
  obtain ⟨_, _, _, _, task, channel⟩ := attempt
  obtain ⟨strategy, context, state, aborted, task', channel'⟩ := attempt'
  obtain ⟨rfl, rfl, rfl, rfl, htask, hchannel⟩ := h
  unfold Attempt.publish
  dsimp only at htask hchannel ⊢
  cases htask with
  | running ha => exact ⟨rfl, rfl, rfl, rfl, .running ha, hchannel⟩
  | finished hr =>
    dsimp only
    split
    · exact ⟨rfl, rfl, rfl, rfl, .ended, .sent hr⟩
    · exact ⟨rfl, rfl, rfl, rfl, .ended, .closed⟩
  | ended => exact ⟨rfl, rfl, rfl, rfl, .ended, hchannel⟩

theorem Attempt.Alike.cancel (h : attempt.Alike f attempt') :
    attempt.cancel.Alike f attempt'.cancel := by
  unfold Attempt.cancel
  rw [h.state]
  split
  · exact ⟨h.strategy, h.context, rfl, rfl, h.task, h.channel⟩
  · exact h

variable {w w' : World}

/-- A turn of an attempt does the same with the other family and without. -/
theorem Attempt.Alike.run (h : attempt.Alike f attempt')
    (hresident : Families.Resident plans opens family built attempt)
    (hw : Beside plans family w w')
    (hf : ∀ count, f (w'.opens + (count + 1)) = w.opens + (count + 1)) :
    InTurn plans family f w w' (attempt.run w).2 (attempt'.run w').2 ∧
      (attempt.run w).1.Alike f (attempt'.run w').1 := by
  obtain ⟨_, _, _, _, task, channel⟩ := attempt
  obtain ⟨strategy, context, state, aborted, task', channel'⟩ := attempt'
  obtain ⟨rfl, rfl, rfl, rfl, htask, hchannel⟩ := h
  obtain ⟨hm, hfamily, rfl, hrunning, -, -⟩ := hresident
  have step := @lockstep_own plans built context f family hm hfamily w w' hf
  have hturn : InTurn plans family f w w' w w' := .refl hw
  unfold Attempt.run
  dsimp only at htask hchannel hrunning ⊢
  cases htask with
  | @running p q ha =>
    dsimp only
    split
    · exact ⟨step.cancel hturn ha.inFlight, rfl, rfl, rfl, rfl, .ended, .closed⟩
    · have hpoll := (step.poll built.strategy (.refl _) .root).inStep p q w w'
        ⟨ha, (hrunning p rfl).1⟩ hturn
      generalize built.strategy.poll context p w = polled,
        built.strategy.poll context q w' = polled' at hpoll ⊢
      cases hpoll with
      | pending ha hw => exact ⟨hw, rfl, rfl, rfl, rfl, .running ha.1, hchannel⟩
      | connected hwon hw => exact ⟨hw, rfl, rfl, rfl, rfl, .finished (.connected hwon), hchannel⟩
      | failed he hw =>
        subst he
        exact ⟨hw, rfl, rfl, rfl, rfl, .finished (.failed _), hchannel⟩
  | finished hr => exact ⟨hturn, rfl, rfl, rfl, rfl, .finished hr, hchannel⟩
  | ended => exact ⟨hturn, rfl, rfl, rfl, rfl, .ended, hchannel⟩

/-- A turn of an attempt of the other family leaves the worlds as they are to each other. -/
theorem other_run (hresident : Families.Resident plans opens (!family) built attempt)
    (hw : Beside plans family w w') (hshare : Unshared plans) :
    Beside plans family (attempt.run w).2 w' := by
  have step := @lockstep_other plans built attempt.context family hresident.mem hresident.family
    hshare w'
  have hsame : ∀ p : Progress, p.Alike Eq Eq p := .refl (fun _ => rfl) fun _ => rfl
  unfold Attempt.run
  split
  · rename_i p hp
    obtain ⟨hfits, -⟩ := hresident.running p hp
    rw [hresident.strategy] at hfits ⊢
    split
    · exact (step.cancel ⟨rfl, hw⟩ (List.forall₂_same.mpr fun _ _ => rfl)).2
    · have hpoll := (step.poll built.strategy (.refl _) .root).inStep p p w w ⟨hsame p, hfits⟩
        ⟨rfl, hw⟩
      generalize built.strategy.poll attempt.context p w = polled at hpoll ⊢
      generalize hpolled' : polled = polled' at hpoll
      cases hpoll with
      | pending _ hw =>
        subst hpolled'
        exact hw.2
      | connected _ hw =>
        subst hpolled'
        exact hw.2
      | failed _ hw =>
        subst hpolled'
        exact hw.2
  · exact hw

/-- So does dropping it. -/
theorem Attempt.Alike.abandon (h : attempt.Alike f attempt')
    (hresident : Families.Resident plans opens family built attempt)
    (hw : Beside plans family w w')
    (hf : ∀ count, f (w'.opens + (count + 1)) = w.opens + (count + 1)) :
    InTurn plans family f w w' (attempt.progress.abandon w) (attempt'.progress.abandon w') := by
  have step := @lockstep_own plans built attempt.context f family hresident.mem hresident.family w w'
    hf
  have hnumbers : Forall₂ (fun n n' => n = f n') attempt.progress.inFlight
      attempt'.progress.inFlight := by
    have htask := h.task
    unfold Attempt.progress
    generalize attempt.task = task, attempt'.task = task' at htask
    cases htask with
    | running ha => exact ha.inFlight
    | finished _ => exact .nil
    | ended => exact .nil
  exact step.cancel (.refl hw) hnumbers

end

namespace Families

/-! ### Runs -/

/-- Two attempts on a strategy of one build. -/
def EntryAlike (f : Nat → Nat) (entry entry' : Built × Attempt) : Prop :=
  entry'.1 = entry.1 ∧ entry.2.Alike f entry'.2

/-- A family stands in two runs alike, the second of which it has for itself. The numbers of its
opens correspond, as far as opens have been made. -/
structure Alongside (plans : List Built) (family : Bool) (f : Nat → Nat) (s s' : Families) :
    Prop where
  beside : Beside plans family s.world s'.world
  mono : StrictMono f
  made : ∀ n ≤ s'.world.opens, f n ≤ s.world.opens
  attempts : Forall₂ (EntryAlike f) (s.attempts family) (s'.attempts family)
  events : Forall₂ (Event.Renumbered f) (s.events family) (s'.events family)

/-- Numbers of opens, with those to come in the order in which they will be made. -/
def onwards (f : Nat → Nat) (opens opens' n : Nat) : Nat :=
  if n ≤ opens' then f n else opens + (n - opens')

namespace Alongside

variable {plans : List Built} {family : Bool} {f : Nat → Nat} {s s' : Families}

theorem onwards_eq {opens opens' n : Nat} (h : n ≤ opens') : onwards f opens opens' n = f n :=
  if_pos h

theorem onwards_add (opens opens' count : Nat) :
    onwards f opens opens' (opens' + (count + 1)) = opens + (count + 1) := by
  have hlt : ¬ opens' + (count + 1) ≤ opens' := by omega
  rw [onwards, if_neg hlt, Nat.add_sub_cancel_left]

theorem onwards_strictMono {opens opens' : Nat} (hf : StrictMono f)
    (hmade : ∀ n ≤ opens', f n ≤ opens) : StrictMono (onwards f opens opens') := by
  intro a b hab
  unfold onwards
  split
  · rename_i ha
    split
    · exact hf hab
    · have := hmade a ha
      omega
  · split
    · omega
    · omega

/-- Numbers that no open has yet may be given otherwise. -/
theorem renumber (h : Alongside plans family f s s') (hs' : Orderly plans s') :
    Alongside plans family (onwards f s.world.opens s'.world.opens) s s' := by
  have hagree : ∀ n ≤ s'.world.opens, onwards f s.world.opens s'.world.opens n = f n :=
    fun n hn => onwards_eq hn
  refine ⟨h.beside, onwards_strictMono h.mono h.made, ?_, ?_, ?_⟩
  · intro n hn
    rw [hagree n hn]
    exact h.made n hn
  · have hboth := (List.forall₂_and_left _ _).mpr ⟨hs'.attempts family, h.attempts.flip⟩
    refine (hboth.imp ?_).flip
    intro entry' entry he
    exact ⟨he.2.1, he.2.2.renumber hagree he.1⟩
  · have hboth := (List.forall₂_and_left _ _).mpr ⟨hs'.events family, h.events.flip⟩
    refine (hboth.imp ?_).flip
    exact fun event' event he => he.2.renumber (hagree _ he.1)

/-- The family moves in both runs. -/
theorem move (h : Alongside plans family f s s')
    (hf : ∀ count, f (s'.world.opens + (count + 1)) = s.world.opens + (count + 1)) {w w' : World}
    (hw : InTurn plans family f s.world s'.world w w') {attempts attempts' : List (Built × Attempt)}
    (ha : Forall₂ (EntryAlike f) attempts attempts') :
    Alongside plans family f (s.move family attempts w) (s'.move family attempts' w') := by
  obtain ⟨count, hopens, hopens'⟩ := hw.opens
  obtain ⟨events, events', hlog, hlog', hevents⟩ := hw.log
  refine ⟨hw.toBeside, h.mono, ?_, ?_, ?_⟩
  · intro n hn
    by_cases hold : n ≤ s'.world.opens
    · exact (h.made n hold).trans (hopens ▸ Nat.le_add_right _ _)
    · obtain ⟨more, rfl⟩ : ∃ more, n = s'.world.opens + (more + 1) :=
        ⟨n - s'.world.opens - 1, by omega⟩
      have hle : s'.world.opens + (more + 1) ≤ s'.world.opens + count := hopens' ▸ hn
      show f _ ≤ w.opens
      rw [hf, hopens]
      omega
  · simpa [Families.move] using ha
  · have hvisit : (Visit.mk s.world w).events = events := Visit.events_eq hlog
    have hvisit' : (Visit.mk s'.world w').events = events' := Visit.events_eq hlog'
    simpa [Families.move, hvisit, hvisit'] using List.rel_append hevents h.events

/-- The other family moves in the run that they share. -/
theorem other (h : Alongside plans family f s s') {w : World}
    (hw : Beside plans family w s'.world) (hopens : s.world.opens ≤ w.opens)
    (attempts : List (Built × Attempt)) :
    Alongside plans family f (s.move (!family) attempts w) s' := by
  refine ⟨hw, h.mono, fun n hn => (h.made n hn).trans hopens, ?_, ?_⟩
  · simpa [Families.move] using h.attempts
  · simpa [Families.move] using h.events

/-- Something happens to an attempt of the family in both runs. -/
theorem act (h : Alongside plans family f s s') (hs : Orderly plans s)
    (hf : ∀ count, f (s'.world.opens + (count + 1)) = s.world.opens + (count + 1)) (place : Nat)
    (act : Act) :
    Alongside plans family f (s.act family place act) (s'.act family place act) := by
  have hplace := forall₂_iff_getElem?.mp h.attempts place
  unfold Families.act
  generalize hentry : (s.attempts family)[place]? = entry,
    (s'.attempts family)[place]? = entry' at hplace ⊢
  cases hplace with
  | none => exact h
  | @some entry entry' he =>
    obtain ⟨built, attempt⟩ := entry
    obtain ⟨built', attempt'⟩ := entry'
    obtain ⟨hbuilt, he⟩ := he
    obtain rfl : built' = built := hbuilt
    have hresident := hs.attempts family _ (List.mem_of_getElem? hentry)
    have hstill : InTurn plans family f s.world s'.world s.world s'.world := .refl h.beside
    have hset {next next' : Attempt} (hn : next.Alike f next') : Forall₂ (EntryAlike f)
        ((s.attempts family).set place (built', next))
        ((s'.attempts family).set place (built', next')) :=
      have hentry : EntryAlike f (built', next) (built', next') := ⟨rfl, hn⟩
      forall₂_set h.attempts hentry place
    cases act with
    | turn =>
      obtain ⟨hw, he⟩ := he.run hresident h.beside hf
      exact h.move hf hw (hset he)
    | publish => exact h.move hf hstill (hset he.publish)
    | cancel => exact h.move hf hstill (hset he.cancel)
    | drop =>
      exact h.move hf (he.abandon hresident h.beside hf) (forall₂_eraseIdx h.attempts place)

/-- Something happens to an attempt of the other family. -/
theorem act_other (h : Alongside plans family f s s') (hs : Orderly plans s)
    (hshare : Unshared plans) (place : Nat) (act : Act) :
    Alongside plans family f (s.act (!family) place act) s' := by
  unfold Families.act
  split
  · rename_i built attempt hentry
    have hresident := hs.attempts (!family) _ (List.mem_of_getElem? hentry)
    have step := @lockstep_other plans built attempt.context family hresident.mem hresident.family
      hshare s'.world
    cases act with
    | turn =>
      have hturn := other_run hresident h.beside hshare
      exact h.other hturn (attempt.run_keeps (opens_frame _ _) _) _
    | publish => exact h.other h.beside le_rfl _
    | cancel => exact h.other h.beside le_rfl _
    | drop =>
      have hnumbers : Forall₂ Eq attempt.progress.inFlight attempt.progress.inFlight :=
        List.forall₂_same.mpr fun _ _ => rfl
      have hw := (step.cancel ⟨rfl, h.beside⟩ hnumbers).2
      exact h.other hw ((opens_frame attempt.strategy attempt.context).cancel _ _) _
  · exact h

end Alongside

/-! ### Families -/

/-- The builds of the strategies that attempts are started on. -/
def plans (moves : List Move) : List Built :=
  moves.filterMap fun
    | .spawn built _ => some built
    | _ => none

/-- What an open of a leaf of a family is answered does not depend on the other family: nor on how
many opens there have been, and, if the leaf's mechanism serves the other family too, nor on what
that has answered before. -/
structure OwnAnswers (plans : List Built) (family : Bool) (w : World) : Prop where
  unnumbered : ∀ leaf, Owned plans family (.transport leaf) → ∀ encrypted earlier n n',
    w.answerAfter leaf encrypted earlier n' = w.answerAfter leaf encrypted earlier n
  steady : ∀ leaf other, Owned plans family (.transport leaf) →
    Owned plans (!family) (.transport other) → other.mechanism = leaf.mechanism →
    ∀ encrypted earlier n,
      w.answerAfter leaf encrypted earlier n = w.answerAfter leaf encrypted 0 n

/-- A family is in two runs the same: its attempts and their results, what it did to opens and
when, its partitions and the memories of its races; up to how its opens are numbered. -/
structure Same (plans : List Built) (family : Bool) (f : Nat → Nat) (s s' : Families) : Prop where
  now : s'.world.now = s.world.now
  attempts : Forall₂ (EntryAlike f) (s.attempts family) (s'.attempts family)
  events : Forall₂ (Event.Renumbered f) (s.events family) (s'.events family)
  partition : ∀ cache, s'.world.partition cache family = s.world.partition cache family
  histories : ∀ site children, Owned plans family (.bestConnectedEver site children) →
    s'.world.histories.lookup site = s.world.histories.lookup site

theorem Alongside.step {plans : List Built} {family : Bool} {f : Nat → Nat} {s s' : Families}
    (h : Alongside plans family f s s') (hs : Orderly plans s)
    (hf : ∀ count, f (s'.world.opens + (count + 1)) = s.world.opens + (count + 1)) {move : Move}
    (hconcerns : move.concerns family = true) :
    Alongside plans family f (s.step move) (s'.step move) := by
  cases move with
  | spawn built context =>
    obtain rfl := of_decide_eq_true hconcerns
    refine h.move hf (.refl h.beside) (List.rel_append h.attempts (.cons ⟨rfl, ?_⟩ .nil))
    exact .start built.strategy context
  | act of place act =>
    obtain rfl := of_decide_eq_true hconcerns
    exact h.act hs hf place act
  | elapse time turn =>
    have hnow := congrArg (· + time) h.beside.now
    exact { h with beside := { h.beside with now := hnow, turn := rfl } }

theorem Alongside.step_other {plans : List Built} {family : Bool} {f : Nat → Nat} {s s' : Families}
    (h : Alongside plans family f s s') (hs : Orderly plans s) (hshare : Unshared plans)
    {move : Move} (hconcerns : ¬ move.concerns family = true) :
    Alongside plans family f (s.step move) s' := by
  cases move with
  | spawn built context =>
    have hother : built.options.encrypted = !family :=
      Bool.eq_not.mpr fun h => hconcerns (decide_eq_true h)
    rw [Families.step, hother]
    exact h.other h.beside le_rfl _
  | act of place act =>
    obtain rfl : of = !family := Bool.eq_not.mpr fun h => hconcerns (decide_eq_true h)
    exact h.act_other hs hshare place act
  | elapse time turn => exact absurd rfl hconcerns

theorem Alongside.run {plans : List Built} {family : Bool} (hshare : Unshared plans) :
    ∀ (moves : List Move) {f : Nat → Nat} {s s' : Families},
    (∀ built context, .spawn built context ∈ moves → built ∈ plans) → Orderly plans s →
    Orderly plans s' → Alongside plans family f s s' →
    ∃ f', Alongside plans family f' (s.run moves) (s'.run (moves.filter (Move.concerns family)))
  | [], f, _, _, _, _, _, h => ⟨f, h⟩
  | move :: rest, f, s, s', hplans, hs, hs', h => by
    have hrest := fun built context hm => hplans built context (List.mem_cons_of_mem _ hm)
    have hone : ∀ built context, .spawn built context ∈ [move] → built ∈ plans := by
      intro built context hm
      obtain rfl := List.mem_singleton.mp hm
      exact hplans built context List.mem_cons_self
    have hnext : Orderly plans (s.step move) := hs.run hone
    have hnext' : Orderly plans (s'.step move) := hs'.run hone
    by_cases hconcerns : move.concerns family = true
    · rw [List.filter_cons_of_pos hconcerns]
      -- the opens to come in this move have the next numbers in either run
      have hstep := (h.renumber hs').step hs (Alongside.onwards_add _ _) hconcerns
      exact Alongside.run hshare rest hrest hnext hnext' hstep
    · rw [List.filter_cons_of_neg hconcerns]
      exact Alongside.run hshare rest hrest hnext hs' (h.step_other hs hshare hconcerns)

/-- Partitions do not interfere. Two families of attempts, on strategies that were built for
encrypted and for plain connections, share caches but no race. Whatever their moves are, and when
attempts are dropped, each family is the same as in the run of its own moves alone. -/
theorem families_apart {w : World} (hw : w.Bounded) (moves : List Move)
    (hshare : Unshared (plans moves)) (family : Bool)
    (hanswers : OwnAnswers (plans moves) family w) :
    ∃ f, StrictMono f ∧ Same (plans moves) family f ((start w).run moves)
      ((start w).run (moves.filter (Move.concerns family))) := by
  have hbeside : Beside (plans moves) family w w :=
    { now := rfl, turn := rfl, epoch := rfl, supports := rfl, kind := rfl,
      answers := hanswers.unnumbered, steady := hanswers.steady, cacheCount := rfl,
      partition := fun _ => rfl, histories := fun _ _ _ => rfl }
  have hstart : Alongside (plans moves) family id (start w) (start w) :=
    ⟨hbeside, strictMono_id, fun _ h => h, .nil, .nil⟩
  have hplans : ∀ built context, .spawn built context ∈ moves → built ∈ plans moves :=
    fun built context hm => List.mem_filterMap.mpr ⟨_, hm, rfl⟩
  obtain ⟨f, h⟩ := Alongside.run hshare moves hplans (.start hw) (.start hw) hstart
  exact ⟨f, h.mono, h.beside.now, h.attempts, h.events, h.beside.partition, h.beside.histories⟩

/-! One plan, built for either family at a site of its own, with one cache and one mechanism. -/

def apartProgram : Program :=
  [.defTransport "a" "x" 0 none,
    .define "strategy" (.invocation "cached" [.literal (.number (.unsigned 1000)),
      .invocation "best_connected_ever" [.symbol "a"]])]

def apartStrategy (encrypted : Bool) (site : Site) : Strategy :=
  let a := .transport ⟨"a", "x", 0, 0, [], none⟩
  .cached ⟨Duration.ofMillis 1000, encrypted, 0⟩ [("a", a)] (.bestConnectedEver site [a])

def apartWorld : World :=
  .initial 0 [⟨"x", true, true, .scripted [.connect (Duration.ofMillis 5)]⟩] [.empty]

def apartOptions (encrypted : Bool) : BuildOptions :=
  { BuildOptions.default with encrypted := encrypted }

def apartPlain : Built where
  builder := ⟨[("x", 0)], 0⟩
  options := apartOptions false
  site := [0]
  program := apartProgram
  strategy := apartStrategy false [0, 1, 1]
  made := rfl

def apartEncrypted : Built where
  builder := ⟨[("x", 0)], 0⟩
  options := apartOptions true
  site := [1]
  program := apartProgram
  strategy := apartStrategy true [1, 1, 1]
  made := rfl

/-- Both open; the encrypted connection is made and recorded before the plain one, and a second
attempt on it is dropped. -/
def apartMoves : List Move :=
  [.spawn apartEncrypted .plain, .spawn apartPlain .plain, .spawn apartEncrypted .plain,
    .act true 0 .turn, .act true 1 .turn, .act false 0 .turn,
    .elapse (Duration.ofMillis 5) 1, .act true 0 .turn, .act true 1 .drop,
    .act false 0 .turn, .act false 0 .publish]

theorem apart_site {encrypted : Bool} {site other : Site} {children : List Strategy}
    (h : Strategy.Within (.bestConnectedEver other children) (apartStrategy encrypted site)) :
    other = site := by
  unfold apartStrategy at h
  cases h with
  | cached h =>
    cases h with
    | self => rfl
    | bestConnectedEver hm h =>
      obtain rfl := List.mem_singleton.mp hm
      cases h
  | entry hm h =>
    obtain rfl := List.mem_singleton.mp hm
    cases h

/-- The plain connection is made, and the record of the plain partition is its own, as if there
had been no encrypted connection. -/
theorem families_apart_plain :
    apartWorld.Bounded ∧ Unshared (plans apartMoves) ∧
    OwnAnswers (plans apartMoves) false apartWorld ∧
    ((start apartWorld).run apartMoves).world.partition 0 true = some ⟨5, "a", 5⟩ ∧
    ((start apartWorld).run apartMoves).world.partition 0 false = some ⟨5, "a", 5⟩ ∧
    ((start apartWorld).run apartMoves).world.opens = 3 ∧
    ∃ f, StrictMono f ∧ Same (plans apartMoves) false f ((start apartWorld).run apartMoves)
      ((start apartWorld).run [.spawn apartPlain .plain, .act false 0 .turn,
        .elapse (Duration.ofMillis 5) 1, .act false 0 .turn, .act false 0 .publish]) := by
  have hbounded : apartWorld.Bounded := fun _ hm => absurd hm List.not_mem_nil
  have hplans : plans apartMoves = [apartEncrypted, apartPlain, apartEncrypted] := rfl
  have hshare : Unshared (plans apartMoves) := by
    rw [hplans]
    rintro site children children' ⟨built, hm, he, hw⟩ ⟨built', hm', he', hw'⟩
    have hsite : ∀ built ∈ [apartEncrypted, apartPlain, apartEncrypted],
        ∀ site children, Strategy.Within (.bestConnectedEver site children) built.strategy →
          site = [if built.options.encrypted then 1 else 0, 1, 1] := by
      intro built hm site children hw
      simp only [List.mem_cons, List.not_mem_nil, or_false] at hm
      rcases hm with rfl | rfl | rfl
      · exact apart_site hw
      · exact apart_site hw
      · exact apart_site hw
    have hne := (hsite built hm site children hw).symm.trans
      (hsite built' hm' site children' hw')
    rw [he, he'] at hne
    exact absurd hne (by decide)
  have hanswers : ∀ leaf encrypted earlier n,
      apartWorld.answerAfter leaf encrypted earlier n =
        if leaf.mechanism = 0 then .connect (Duration.ofMillis 5) else .hang := by
    rintro ⟨_, _, _, number, _, _⟩ encrypted earlier n
    cases number with
    | zero =>
      let mechanism : Mechanism := ⟨"x", true, true, .scripted [.connect (Duration.ofMillis 5)]⟩
      have hfixed : Mechanism.afterOpen^[earlier] mechanism = mechanism :=
        Function.iterate_fixed rfl earlier
      show (Mechanism.afterOpen^[earlier] mechanism).answer _ n = _
      rw [hfixed]
      rfl
    | succ number => rfl
  have hown : OwnAnswers (plans apartMoves) false apartWorld :=
    ⟨fun _ _ _ _ _ _ => by rw [hanswers, hanswers],
      fun _ _ _ _ _ _ _ _ => by rw [hanswers, hanswers]⟩
  exact ⟨hbounded, hshare, hown, by rfl, by rfl, by rfl,
    families_apart hbounded apartMoves hshare false hown⟩

end Families

end Dialplan
