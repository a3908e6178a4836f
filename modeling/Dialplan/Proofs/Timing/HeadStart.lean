import Dialplan.Proofs.Timing.SteadyRace

/-! What a head start costs. The children that are held back behind a lead make a race of steady
children later by no more than the head start, and change nothing else of what it comes to; they
are not polled at all if the lead connects in time, and start at once if it fails
(`head_start_cost`). -/

namespace Dialplan

namespace Race

variable {σ : Type} {start : σ} {count : Nat} {preferred : Option Nat} {past : Bool}
  {state : State σ} {log : List (Look σ)}

theorem exists_look_of_failed {i : Nat} (h : i ∈ failures log) : ∃ look ∈ log, look.child = i := by
  obtain ⟨look, hm, hi⟩ := List.mem_filterMap.mp h
  obtain ⟨_, -, rfl⟩ := Option.map_eq_some_iff.mp hi
  exact ⟨look, hm, rfl⟩

/-- A child that has resolved was polled. -/
theorem exists_look_of_resolved {i : Nat} (h : stateAfter start log i = none) :
    ∃ look ∈ log, look.child = i := by
  induction log using List.reverseRecOn with
  | nil => cases h
  | append_singleton log look ih =>
    rw [stateAfter_snoc] at h
    split at h
    · rename_i hi
      exact ⟨look, by simp, hi⟩
    · obtain ⟨earlier, hm, hi⟩ := ih h
      exact ⟨earlier, List.mem_append_left _ hm, hi⟩

/-- Behind a lead, children have their turns in the order of their numbers. -/
theorem turnOrder_pairwise (count l : Nat) :
    (turnOrder count (some l)).Pairwise fun i j => i = l ∨ i < j := by
  refine List.pairwise_cons.mpr ⟨fun _ _ => .inl rfl, ?_⟩
  exact (List.pairwise_lt_range.filter _).imp .inr

/-- Before a child behind the lead is polled, all with smaller numbers are. -/
theorem Round.looked_before {round : List (Look σ)} {l : Nat}
    (h : Round start count (some l) past log round) {look : Look σ} (hm : look ∈ round)
    (hne : look.child ≠ l) {j : Nat} (hj : j < look.child) (hcount : look.child < count) :
    ∃ look ∈ log ++ round, look.child = j := by
  cases hresolved : stateAfter start log j with
  | none =>
    obtain ⟨look, hm, hj⟩ := exists_look_of_resolved hresolved
    exact ⟨look, List.mem_append_left _ hm, hj⟩
  | some s =>
    obtain ⟨later, hturns⟩ := h.turns
    have hchild : look.child ∈ round.map Look.child := List.mem_map_of_mem hm
    -- as a child behind the lead has a turn, all have
    have hout : out count (some l) past log = turnOrder count (some l) := by
      have hmem := List.mem_filter.mp (hturns ▸ List.mem_append_left later hchild)
      unfold out at hmem ⊢
      dsimp only at hmem ⊢
      split
      · rfl
      · rename_i hover
        rw [if_neg hover] at hmem
        exact absurd (List.mem_singleton.mp hmem.1) hne
    have hmem : j ∈ round.map Look.child ++ later := by
      rw [hturns, hout]
      refine List.mem_filter.mpr ⟨?_, by rw [hresolved]; rfl⟩
      by_cases hjl : j = l
      · exact hjl ▸ List.mem_cons_self
      · refine List.mem_cons_of_mem _ (List.mem_filter.mpr ⟨?_, by simpa using hjl⟩)
        exact List.mem_range.mpr (Nat.lt_trans hj hcount)
    rcases List.mem_append.mp hmem with hm | hm
    · obtain ⟨look, hm, hj⟩ := List.mem_map.mp hm
      exact ⟨look, List.mem_append_right _ hm, hj⟩
    · have hpairwise := (turnOrder_pairwise count l).filter fun i => (stateAfter start log i).isSome
      rw [← hout, ← hturns] at hpairwise
      rcases (List.pairwise_append.mp hpairwise).2.2 _ hchild j hm with hlead | hlt
      · exact absurd hlead hne
      · exact absurd hj (Nat.not_lt_of_gt hlt)

theorem Rounds.looked_before {l : Nat} : ∀ {rounds : List (List (Look σ))} {log : List (Look σ)},
    Rounds start count (some l) past log rounds → ∀ {look : Look σ}, look ∈ rounds.flatten →
    look.child ≠ l → look.child < count → ∀ j < look.child,
    ∃ look ∈ log ++ rounds.flatten, look.child = j
  | round :: rest, log, ⟨hround, hrest⟩, look, hm, hne, hcount, j, hj => by
    rw [List.flatten_cons, ← List.append_assoc]
    rcases List.mem_append.mp hm with hm | hm
    · obtain ⟨earlier, hm, hchild⟩ := hround.looked_before hm hne hj hcount
      exact ⟨earlier, List.mem_append_left _ hm, hchild⟩
    · exact looked_before hrest hm hne hcount j hj

/-- While a race holds children back, and its lead has not failed, only the lead was polled. -/
theorem Agrees.only_lead (h : Agrees start count preferred past state log)
    (hh : state.holding = true) {l : Nat} (hl : preferred = some l)
    (hslot : state.slots[l]? ≠ some .failed) : ∀ look ∈ log, look.child = l := by
  obtain ⟨-, hheld⟩ := h.patient (h.waiting hh) l hl
  exact hheld.all fun hf => hslot ((h.failed l).mpr hf)

/-- In a race that holds no child back, all were polled if those were that run. -/
theorem Agrees.all_looked (h : Agrees start count preferred past state log)
    (hh : state.holding = false) (hlooked : state.Looked log) :
    ∀ i < count, ∃ look ∈ log, look.child = i := by
  intro i hi
  obtain ⟨slot, hslot⟩ : ∃ slot, state.slots[i]? = some slot :=
    ⟨_, List.getElem?_eq_getElem (h.length.symm ▸ hi)⟩
  cases slot with
  | held => exact absurd hslot (h.released hh i)
  | running s => exact hlooked i s hslot
  | failed => exact exists_look_of_failed ((h.failed i).mp hslot)

end Race

namespace SteadyRace

variable {kind : World → Prop} {race : SteadyRace kind} {latest : Visit} {earlier : List Visit}
  {outcome : Poll Progress} {state : Race.State Progress} {log : List (Race.Look Progress)}
  {p : Progress} {l : Nat} {d : Duration} {now : Instant}

/-- The children behind a lead come to nothing before their release. -/
theorem release_le_due (hl : race.preferred = some l) {i : Nat} (hne : i ≠ l) {f : Fate}
    (hf : race.due i = some f) : race.release ≤ race.started + f.delay := by
  obtain ⟨d, -, hdelay⟩ := Fate.behind_eq_some_iff.mp hf
  rw [hdelay, release, hl, Fate.startAfter_other hne]
  lia

theorem Course.agrees (h : race.Course latest earlier outcome state log) :
    ∃ past, Race.Agrees .unstarted race.count race.preferred past state log := by
  obtain ⟨past, hc⟩ := race.trace_concludes earlier
  rw [h.undecided] at hc
  exact ⟨past, hc⟩

/-- The latest visit adds rounds of turns to the log. -/
theorem Course.rounds (h : race.Course latest earlier outcome state log) :
    ∃ past rounds, Race.Agrees .unstarted race.count race.preferred past state log ∧
      (race.trace (latest :: earlier)).2 = log ++ rounds.flatten ∧
      Race.Rounds .unstarted race.count race.preferred (past || race.elapsed latest.before.now) log
        rounds := by
  obtain ⟨past, hagrees⟩ := h.agrees
  obtain ⟨rounds, hlog, hrounds, -⟩ := Race.poll_watched race.child
    (race.elapsed latest.before.now) latest.before hagrees
  refine ⟨past, rounds, hagrees, ?_, hrounds⟩
  rw [trace_cons latest h.undecided]
  exact hlog

/-- A race is decided before the release of its children only if the lead connects. -/
theorem decided_before_release (hl : race.preferred = some l) {result : Except Error Connection}
    (h : Foretold race.fate race.started now (.ready result)) :
    race.release ≤ now ∨ ∃ d, race.due l = some ⟨d, true⟩ ∧ race.started + d ≤ now := by
  obtain ⟨⟨d, connects⟩, hf, hpast, -⟩ := h
  cases connects with
  | true =>
    obtain ⟨i, -, hi⟩ := Fate.exists_of_race_connects hf
    by_cases hne : i = l
    · exact .inr ⟨d, hne ▸ hi, hpast⟩
    · exact .inl (Nat.le_trans (release_le_due hl hne hi) hpast)
  | false =>
    obtain ⟨d', hle, hd⟩ := Fate.forall_of_race_fails hf l (lead_of_preferred hl).1
    rw [release_of_fails hl hd]
    dsimp only at hpast
    exact .inl (by lia)

/-- What has been polled of a race that waits. -/
theorem Course.of_pending (h : race.Course latest earlier (.pending p) state log) :
    ∃ left, race.Rested latest.before.now left ∧
      left.Looked (race.trace (latest :: earlier)).2 ∧
      ∃ past, Race.Agrees .unstarted race.count race.preferred past left
        (race.trace (latest :: earlier)).2 := by
  have hanswers := h.answers
  have hrested := h.rested
  obtain ⟨past, hc⟩ := race.trace_concludes (latest :: earlier)
  generalize race.trace (latest :: earlier) = traced at hanswers hrested hc ⊢
  obtain ⟨raced, log'⟩ := traced
  cases raced with
  | won i connection left => cases hanswers
  | lost failures => cases hanswers
  | pending left =>
    obtain ⟨hrested, hlooked⟩ := hrested left rfl
    exact ⟨left, hrested, hlooked, past, hc⟩

theorem lead_not_failed {running : Nat → Progress → Prop} (h : race.Standing running now state)
    (hearly : ∀ d, race.due l = some ⟨d, false⟩ → now < race.started + d) :
    state.slots[l]? ≠ some .failed := by
  intro hs
  obtain ⟨d, hd, hle⟩ := h.failed l hs
  exact absurd (hearly d hd) (Nat.not_lt_of_le hle)

/-- When a child wins behind a lead that has been waited for, all with smaller numbers were
polled. -/
theorem Course.looked_before_winner (h : race.Course latest earlier outcome state log)
    (hl : race.preferred = some l) {i : Nat} {connection : Connection}
    {left : Race.State Progress}
    (hraced : (race.trace (latest :: earlier)).1 = .won i connection left) (hne : i ≠ l) :
    ∀ j ≤ i, ∃ look ∈ (race.trace (latest :: earlier)).2, look.child = j := by
  intro j hji
  obtain ⟨past, hc⟩ := race.trace_concludes (latest :: earlier)
  rw [hraced] at hc
  obtain ⟨before, p, state', hwon, hbefore, hs⟩ := hc
  have hwinner : ⟨i, p, .ready (.ok connection)⟩ ∈ (race.trace (latest :: earlier)).2 := by
    rw [hwon]
    exact List.mem_append_right _ (List.mem_singleton_self _)
  rcases Nat.lt_or_eq_of_le hji with hji | rfl
  · have hi : i < race.count := hbefore.length ▸ (List.getElem?_eq_some_iff.mp hs).1
    obtain ⟨past', rounds, hagrees, hlog, hrounds⟩ := h.rounds
    rw [hlog] at hwinner ⊢
    rcases List.mem_append.mp hwinner with hm | hm
    · -- the race was not won before this visit
      have hunwon := List.findSome?_eq_none_iff.mp hagrees.unwon _ hm
      cases hunwon
    · rw [hl] at hrounds
      exact hrounds.looked_before hm hne hi j hji
  · exact ⟨_, hwinner, rfl⟩

/-! ### A lead that connects in time -/

section

variable (hl : race.preferred = some l) (hd : race.due l = some ⟨d, true⟩) (hle : d ≤ headStart)

include hd

theorem never_fails (d' : Duration) (hd' : race.due l = some ⟨d', false⟩) :
    now < race.started + d' := by
  cases hd.symm.trans hd'

include hl

theorem release_of_connects : race.release = race.started + headStart :=
  release_of_not_fails hl fun d' hd' => by cases hd.symm.trans hd'

include hle

/-- While the race waits, it holds the others back. -/
theorem Rested.holding (h : race.Rested now state) : state.holding = true := by
  by_contra hh
  have hh := Bool.eq_false_iff.mpr hh
  have hfree := h.free hh
  rw [release_of_connects hl hd] at hfree
  obtain ⟨slot, hs⟩ := h.exists_slot (lead_of_preferred hl).1
  cases slot with
  | held => exact h.complete.started hh _ (List.mem_of_getElem? hs) rfl
  | failed => exact lead_not_failed h.toStanding (never_fails hd) hs
  | running p =>
    have hbefore := (h.running l p hs).2.before hd
    dsimp only at hbefore
    lia

theorem Course.holding (h : race.Course latest earlier outcome state log) :
    state.holding = true := by
  rcases h.prior with rfl | ⟨-, past, hrested⟩
  · obtain rfl := Race.Outcome.pending.inj (Prod.mk.inj h.undecided).1
    rw [hl]
    rfl
  · exact hrested.holding hl hd hle

/-- The lead runs until it connects. -/
theorem Course.lead_runs (h : race.Course latest earlier outcome state log) :
    ∃ p, state.slots[l]? = some (.running p) := by
  obtain ⟨slot, hs⟩ := h.standing.exists_slot (lead_of_preferred hl).1
  cases slot with
  | held =>
    obtain ⟨-, l', timer, hlead, hheld, -⟩ := h.standing.held (h.holding hl hd hle)
    cases hl.symm.trans (preferred_of_lead hlead)
    exact absurd hs hheld
  | failed => exact absurd hs (lead_not_failed h.standing (never_fails hd))
  | running p => exact ⟨p, hs⟩

/-- No other child is ever polled. -/
theorem Course.kept (h : race.Course latest earlier outcome state log)
    (hkind : kind latest.before) :
    ∀ look ∈ (race.trace (latest :: earlier)).2, look.child = l := by
  cases outcome with
  | pending p =>
    obtain ⟨left, hrested, -, past, hagrees⟩ := h.of_pending
    exact hagrees.only_lead (hrested.holding hl hd hle) hl
      (lead_not_failed hrested.toStanding (never_fails hd))
  | ready result =>
    obtain ⟨past, hagrees⟩ := h.agrees
    have hlog := hagrees.only_lead (h.holding hl hd hle) hl
      (lead_not_failed h.standing (never_fails hd))
    obtain ⟨p, hs⟩ := h.lead_runs hl hd hle
    obtain ⟨hforetold, -⟩ :=
      (race.steady l (lead_of_preferred hl).1).poll hkind (h.standing.running l p hs)
    have hforetold := foretold_due hforetold
    rcases hpoll : race.child l p latest.before with ⟨answer, w'⟩
    rw [hpoll] at hforetold
    cases answer with
    | pending p' =>
      -- then it is too early for any result
      have hbefore := hforetold.before hd
      dsimp only at hbefore
      rcases decided_before_release hl h.foretold with hrelease | ⟨d', hd', hpast⟩
      · rw [release_of_connects hl hd] at hrelease
        lia
      · cases hd.symm.trans hd'
        lia
    | ready answer =>
      obtain ⟨f, hf, -, hanswer⟩ := hforetold
      cases hd.symm.trans hf
      cases answer with
      | error e => cases hanswer
      | ok connection =>
        -- the lead is the first to be polled
        obtain ⟨state', hwatched⟩ :=
          Race.poll_lead (race.elapsed latest.before.now) hagrees hl hs hpoll
        rw [trace_cons latest h.undecided, hwatched]
        exact List.forall_mem_append.mpr ⟨hlog, List.forall_mem_singleton.mpr rfl⟩

end

/-! ### A lead that fails in time -/

section

variable (hl : race.preferred = some l) (hd : race.due l = some ⟨d, false⟩) (hlt : d < headStart)

include hl hd hlt

theorem release_of_fails_early : race.release = race.started + d := by
  rw [release_of_fails hl hd, Nat.min_eq_left (Nat.le_of_lt hlt)]

/-- Until it fails, no other child is polled. -/
theorem Course.only_lead (h : race.Course latest earlier outcome state log)
    (hnow : latest.before.now < race.started + d) :
    ∀ look ∈ (race.trace (latest :: earlier)).2, look.child = l := by
  have hrelease := release_of_fails_early hl hd hlt
  cases outcome with
  | ready result =>
    rcases decided_before_release hl h.foretold with hpast | ⟨d', hd', -⟩
    · exact absurd hnow (Nat.not_lt_of_le (hrelease ▸ hpast))
    · cases hd.symm.trans hd'
  | pending p =>
    obtain ⟨left, hrested, -, past, hagrees⟩ := h.of_pending
    have hholding : left.holding = true := by
      by_contra hh
      have hfree := hrested.free (Bool.eq_false_iff.mpr hh)
      exact absurd hnow (Nat.not_lt_of_le (hrelease ▸ hfree))
    refine hagrees.only_lead hholding hl (lead_not_failed hrested.toStanding fun d' hd' => ?_)
    cases hd.symm.trans hd'
    exact hnow

/-- When it has failed, all the others are polled, unless one before them connects at that
moment. -/
theorem Course.all_looked (h : race.Course latest earlier outcome state log)
    (hnow : race.started + d ≤ latest.before.now) : ∀ j < race.count,
    (∃ look ∈ (race.trace (latest :: earlier)).2, look.child = j) ∨
      latest.before.now = race.started + d ∧ ∃ i < j, ∃ connection left,
        (race.trace (latest :: earlier)).1 = .won i connection left := by
  intro j hj
  have hrelease := release_of_fails_early hl hd hlt
  obtain ⟨past, hc⟩ := race.trace_concludes (latest :: earlier)
  cases hraced : (race.trace (latest :: earlier)).1 with
  | pending left =>
    obtain ⟨hrested, hlooked⟩ := h.rested left hraced
    rw [hraced] at hc
    have hholding : left.holding = false := by
      by_contra hh
      have hlate := (hrested.holds (Bool.eq_true_of_not_eq_false hh)).1
      exact absurd (hrelease ▸ hlate) (Nat.not_lt_of_le hnow)
    exact .inl (Race.Agrees.all_looked hc hholding hlooked j hj)
  | lost failures =>
    rw [hraced] at hc
    exact .inl (Race.exists_look_of_failed (hc.lost.2.mem_iff.mpr (List.mem_range.mpr hj)))
  | won i connection left =>
    obtain ⟨past, rounds, hagrees, hlog, -⟩ := h.rounds
    cases hh : state.holding with
    | false =>
      -- the others were released at an earlier visit
      rcases h.prior with rfl | ⟨hlooked, -⟩
      · obtain rfl := Race.Outcome.pending.inj (Prod.mk.inj h.undecided).1
        rw [hl] at hh
        cases hh
      · obtain ⟨look, hm, hchild⟩ := hagrees.all_looked hh hlooked j hj
        exact .inl ⟨look, hlog ▸ List.mem_append_left _ hm, hchild⟩
    | true =>
      have hmoment : latest.before.now = race.started + d :=
        Nat.le_antisymm (hrelease ▸ (h.standing.held hh).1) hnow
      rcases Nat.lt_or_ge i j with hij | hji
      · exact .inr ⟨hmoment, i, hij, connection, left, rfl⟩
      · rw [hraced] at hc
        have hne : i ≠ l := by
          rintro rfl
          obtain ⟨d', hd'⟩ := h.won i connection left hraced
          cases hd.symm.trans hd'
        exact .inl (h.looked_before_winner hl hraced hne j hji)

end

/-! ### The races of the two nodes -/

variable {count : Nat} {child : Nat → Poller} {fates : Nat → Option Fate}

/-- Children that start together in a world. -/
def together (h : ∀ i < count, Steady kind (child i) (fates i)) (w : World) : SteadyRace kind where
  count := count
  child := child
  fates := fates
  lead := none
  started := w.now
  steady := h
  timed := nofun

/-- Children that start in a world behind the one that is preferred there. -/
def remembered (h : ∀ i < count, Steady kind (child i) (fates i)) {site : Site} {w : World}
    (hlength : (w.history site count).length = count) : SteadyRace kind where
  count := count
  child := child
  fates := fates
  lead := leadOf site count w
  started := w.now
  steady := h
  timed hlead := by
    obtain ⟨i, hi, ⟨⟩⟩ := Option.map_eq_some_iff.mp hlead
    obtain ⟨win, hwin, -⟩ := History.preferred_eq_some_iff.mp hi
    exact ⟨hlength ▸ (List.getElem?_eq_some_iff.mp hwin).1, rfl⟩

variable (h : ∀ i < count, Steady kind (child i) (fates i)) (w : World)

theorem together_runBy :
    (together h w).RunBy (pollFirstConnected count child) (fun _ _ w => w) w where
  now := rfl
  first := by
    show pollFirstConnected count child .unstarted w = _
    unfold pollFirstConnected
    dsimp only
    split
    · rename_i hcount
      subst hcount
      rfl
    · rfl
  again _ _ := rfl

theorem together_fate : (together h w).fate = Fate.race fates count := by
  show Fate.race (Fate.behind fates none) count = _
  rw [Fate.behind_none]

variable {w} {site : Site} (hlength : (w.history site count).length = count)

theorem remembered_preferred :
    (remembered h hlength).preferred = (w.history site count).preferred :=
  map_fst_leadOf w

theorem remembered_runBy :
    (remembered h hlength).RunBy (pollBestConnectedEver site count child)
      (rememberWin site count ((leadOf site count w).map Prod.fst)) w where
  now := rfl
  first := by
    rw [remembered_preferred]
    exact pollBestConnectedEver_unstarted hlength
  again _ _ := rfl

/-- The fate of the race behind a lead is that of the race without one, later by no more than the
head start. -/
theorem remembered_within :
    Fate.Within headStart (together h w).fate (remembered h hlength).fate := by
  rw [together_fate]
  exact Fate.race_within fun i _ => Fate.behind_within fates _ i

end SteadyRace

/-! ### The cost of a head start -/

/-- The polls of the children in a run that starts in a world, in order. -/
def looksOf (site : Site) (count : Nat) (child : Nat → Poller) (w : World) (visits : List Visit) :
    List (Race.Look Progress) :=
  (Race.runLog child .unstarted (.initial count (w.history site count).preferred .unstarted) []
    (visits.reverse.map (Visit.moment (leadOf site count w)))).2

theorem SteadyRace.trace_remembered {kind : World → Prop} {site : Site} {count : Nat}
    {child : Nat → Poller} {fates : Nat → Option Fate} {w : World}
    (h : ∀ i < count, Steady kind (child i) (fates i))
    (hlength : (w.history site count).length = count) (visits : List Visit) :
    (remembered h hlength).trace visits =
      (raceOf site count child w visits, looksOf site count child w visits) := by
  rw [trace, remembered_preferred, raceOf, looksOf, ← Race.runLog_fst _ _ []]
  rfl

/-- How two runs over the same children compare, one behind the child that is preferred in a world,
the other of all children at once. -/
structure HeadStartAccount (site : Site) (count : Nat) (child : Nat → Poller)
    (fates : Nat → Option Fate) (next next' : List Visit → Progress → World) (w w' : World) :
    Prop where
  /-- The one connects exactly if the other does. -/
  connects : (∃ moment, Resolves next (pollBestConnectedEver site count child) w true moment) ↔
    ∃ moment, Resolves next' (pollFirstConnected count child) w' true moment
  /-- It fails exactly if the other does. -/
  fails : (∃ moment, Resolves next (pollBestConnectedEver site count child) w false moment) ↔
    ∃ moment, Resolves next' (pollFirstConnected count child) w' false moment
  /-- It is later by no more than the head start. -/
  late : ∀ {connects connects' moment moment'},
    Resolves next (pollBestConnectedEver site count child) w connects moment →
    Resolves next' (pollFirstConnected count child) w' connects' moment' →
    moment ≤ moment' + headStart
  /-- Its visits answer what has come of the race whose children are polled as in the log. -/
  answers : ∀ {visits outcome},
    Conducted next (pollBestConnectedEver site count child) w visits outcome →
    outcome = (raceOf site count child w visits).answer (leadOf site count w)
  /-- If the preferred child connects within the head start, no other child is ever polled. -/
  kept : ∀ {l d}, (w.history site count).preferred = some l → fates l = some ⟨d, true⟩ →
    d ≤ headStart → ∀ {visits outcome},
    Conducted next (pollBestConnectedEver site count child) w visits outcome →
    ∀ look ∈ looksOf site count child w visits, look.child = l
  /-- If it fails earlier, no other child is polled before that. -/
  waits : ∀ {l d}, (w.history site count).preferred = some l → fates l = some ⟨d, false⟩ →
    d < headStart → ∀ {latest earlier outcome},
    Conducted next (pollBestConnectedEver site count child) w (latest :: earlier) outcome →
    latest.before.now < w.now + d →
    ∀ look ∈ looksOf site count child w (latest :: earlier), look.child = l
  /-- At that moment the others are polled in turn, unless one of them connects then. -/
  starts : ∀ {l d}, (w.history site count).preferred = some l → fates l = some ⟨d, false⟩ →
    d < headStart → ∀ {latest earlier outcome},
    Conducted next (pollBestConnectedEver site count child) w (latest :: earlier) outcome →
    w.now + d ≤ latest.before.now → ∀ j < count,
    (∃ look ∈ looksOf site count child w (latest :: earlier), look.child = j) ∨
      latest.before.now = w.now + d ∧ ∃ i < j, ∃ connection left,
        raceOf site count child w (latest :: earlier) = .won i connection left

/-- The head start costs at most the head start: whatever a node remembers, and whichever of its
children is preferred for that, if each of them resolves after the same time in the same way
whenever it is started, or never, then it comes to the same as the race without a lead. -/
theorem head_start_cost {kind : World → Prop} {site : Site} {count : Nat} {child : Nat → Poller}
    {fates : Nat → Option Fate} {next next' : List Visit → Progress → World} {w w' : World}
    (hsteady : ∀ i < count, Steady kind (child i) (fates i))
    (hlength : (w.history site count).length = count) (hnow : w'.now = w.now)
    (hdrives : Drives kind next (pollBestConnectedEver site count child) w)
    (hdrives' : Drives kind next' (pollFirstConnected count child) w') :
    HeadStartAccount site count child fates next next' w w' := by
  have hresolves : ∀ {connects moment},
      Resolves next (pollBestConnectedEver site count child) w connects moment ↔
        ∃ d, (SteadyRace.remembered hsteady hlength).fate = some ⟨d, connects⟩ ∧
          moment = w.now + d :=
    Foretells.resolves_iff (SteadyRace.remembered_runBy hsteady hlength).foretells hdrives
  have hresolves' : ∀ {connects moment},
      Resolves next' (pollFirstConnected count child) w' connects moment ↔
        ∃ d, (SteadyRace.together hsteady w').fate = some ⟨d, connects⟩ ∧ moment = w'.now + d :=
    Foretells.resolves_iff (SteadyRace.together_runBy hsteady w').foretells hdrives'
  have hwithin : Fate.Within headStart (SteadyRace.together hsteady w').fate
      (SteadyRace.remembered hsteady hlength).fate :=
    SteadyRace.remembered_within hsteady hlength
  have hsame : ∀ connects,
      (∃ moment, Resolves next (pollBestConnectedEver site count child) w connects moment) ↔
        ∃ moment, Resolves next' (pollFirstConnected count child) w' connects moment := by
    intro connects
    have hiff := hwithin.exists_iff connects
    constructor
    · rintro ⟨_, hmoment⟩
      obtain ⟨d, hd, -⟩ := hresolves.mp hmoment
      obtain ⟨d', hd'⟩ := hiff.mp ⟨d, hd⟩
      exact ⟨_, hresolves'.mpr ⟨d', hd', rfl⟩⟩
    · rintro ⟨_, hmoment⟩
      obtain ⟨d, hd, -⟩ := hresolves'.mp hmoment
      obtain ⟨d', hd'⟩ := hiff.mpr ⟨d, hd⟩
      exact ⟨_, hresolves.mpr ⟨d', hd', rfl⟩⟩
  have hcourse : ∀ {latest earlier outcome},
      Conducted next (pollBestConnectedEver site count child) w (latest :: earlier) outcome →
      kind latest.before ∧ ∃ state log,
        (SteadyRace.remembered hsteady hlength).Course latest earlier outcome state log := by
    intro latest earlier outcome run
    obtain ⟨hrun, hkind⟩ := hdrives.run run
    obtain ⟨-, hcourse⟩ := (SteadyRace.remembered_runBy hsteady hlength).course hrun hkind
    exact ⟨hkind latest List.mem_cons_self, hcourse⟩
  have htrace := SteadyRace.trace_remembered hsteady hlength
  have hdue : ∀ {l}, (w.history site count).preferred = some l →
      (SteadyRace.remembered hsteady hlength).due l = fates l := fun hl =>
    SteadyRace.due_lead ((SteadyRace.remembered_preferred hsteady hlength).trans hl)
  refine ⟨hsame true, hsame false, ?_, ?_, ?_, ?_, ?_⟩
  · intro connects connects' moment moment' hmoment hmoment'
    obtain ⟨d, hd, rfl⟩ := hresolves.mp hmoment
    obtain ⟨d', hd', rfl⟩ := hresolves'.mp hmoment'
    rw [hd, hd'] at hwithin
    have hle := hwithin.le
    dsimp only at hle
    lia
  · intro visits outcome run
    obtain ⟨hrun, -⟩ := hdrives.run run
    obtain ⟨latest, earlier, rfl⟩ := hrun.run.exists_cons
    obtain ⟨-, state, log, hcourse⟩ := hcourse run
    have hanswers := hcourse.answers
    rw [htrace] at hanswers
    exact hanswers
  · intro l d hl hd hle visits outcome run
    obtain ⟨hrun, -⟩ := hdrives.run run
    obtain ⟨latest, earlier, rfl⟩ := hrun.run.exists_cons
    obtain ⟨hkind, state, log, hcourse⟩ := hcourse run
    have hkept := hcourse.kept ((SteadyRace.remembered_preferred hsteady hlength).trans hl)
      ((hdue hl).trans hd) hle hkind
    rw [htrace] at hkept
    exact hkept
  · intro l d hl hd hlt latest earlier outcome run hearly
    obtain ⟨-, state, log, hcourse⟩ := hcourse run
    have honly := hcourse.only_lead ((SteadyRace.remembered_preferred hsteady hlength).trans hl)
      ((hdue hl).trans hd) hlt hearly
    rw [htrace] at honly
    exact honly
  · intro l d hl hd hlt latest earlier outcome run hreached
    obtain ⟨-, state, log, hcourse⟩ := hcourse run
    have hall := hcourse.all_looked ((SteadyRace.remembered_preferred hsteady hlength).trans hl)
      ((hdue hl).trans hd) hlt hreached
    rw [htrace] at hall
    exact hall

/-! The rivals race behind the first of them, which fails after five milliseconds; the second
connects ten milliseconds after its start. -/

def hedgeMechanisms : List Mechanism :=
  [⟨"x", true, true, .scripted [.fail (Duration.ofMillis 5) (.connection "refused")]⟩,
    ⟨"y", true, true, .scripted [.connect (Duration.ofMillis 10)]⟩]

/-- A moment after the first of the rivals has won. -/
def hedgeWorld (now : Instant) : World :=
  { (World.initial 0 hedgeMechanisms []).setHistory [2] [some ⟨0, 1⟩, none] with now := now }

def hedgeChild (i : Nat) : Poller := Strategy.pollAt rivals i .plain

def hedgeFates (i : Nat) : Option Fate :=
  if i = 0 then some ⟨Duration.ofMillis 5, false⟩ else some ⟨Duration.ofMillis 10, true⟩

theorem hedge_steady :
    ∀ i < 2, Steady (fun w => w.mechanisms = hedgeMechanisms) (hedgeChild i) (hedgeFates i) := by
  intro i hi
  rcases i with _ | _ | i
  · have h : Steady (fun w => w.mechanisms = hedgeMechanisms)
        (Leaf.poll ⟨"a", "x", 1, 0, [], none⟩ .plain)
        (Behaviour.fail (Duration.ofMillis 5) (.connection "refused")).fate :=
      Leaf.steady (by decide) rfl rfl (fun _ _ => rfl) rfl
    exact h
  · have h : Steady (fun w => w.mechanisms = hedgeMechanisms)
        (Leaf.poll ⟨"b", "y", 2, 1, [], none⟩ .plain)
        (Behaviour.connect (Duration.ofMillis 10)).fate :=
      Leaf.steady (by decide) rfl rfl (fun _ _ => rfl) rfl
    exact h
  · lia

/-- After the first visit there are one at a moment and one at a later moment. -/
def hedgeNext (second last : Instant) (visits : List Visit) (_ : Progress) : World :=
  hedgeWorld (if visits.length = 1 then second else last)

theorem hedge_drives {poller : Poller} {second last : Instant} {p q : Progress}
    {result : Except Error Connection}
    (hfirst : (poller .unstarted (hedgeWorld 0)).1 = .pending p)
    (hsecond : (poller p (hedgeWorld second)).1 = .pending q)
    (hlast : (poller q (hedgeWorld last)).1 = .ready result) (hle : second ≤ last)
    (hp : p.isYielding = false ∧ ∀ timer ∈ p.timers, second ≤ timer.deadline)
    (hq : q.isYielding = false ∧ ∀ timer ∈ q.timers, last ≤ timer.deadline) :
    Drives (fun w => w.mechanisms = hedgeMechanisms) (hedgeNext second last) poller
        (hedgeWorld 0) ∧
      Resolves (hedgeNext second last) poller (hedgeWorld 0) result.isOk last := by
  have hcourse : ∀ {visits outcome},
      Conducted (hedgeNext second last) poller (hedgeWorld 0) visits outcome →
      (∃ first, visits = [first] ∧ first.before.now = 0 ∧ outcome = .pending p) ∨
        (∃ later first, visits = [later, first] ∧ later.before.now = second ∧
          outcome = .pending q) ∨
        ∃ result, outcome = .ready result := by
    intro visits outcome run
    induction run with
    | first => exact .inl ⟨_, rfl, rfl, hfirst⟩
    | again _ ih =>
      rcases ih with ⟨first, rfl, -, hpending⟩ | ⟨later, first, rfl, -, hpending⟩ | ⟨_, hready⟩
      · obtain rfl := Poll.pending.inj hpending
        exact .inr (.inl ⟨_, first, rfl, rfl, hsecond⟩)
      · obtain rfl := Poll.pending.inj hpending
        exact .inr (.inr ⟨result, hlast⟩)
      · cases hready
  have run : Conducted (hedgeNext second last) poller (hedgeWorld 0) _ _ := .first
  rw [hfirst] at run
  have run := run.again
  have hnext : hedgeNext second last [⟨hedgeWorld 0, (poller .unstarted (hedgeWorld 0)).2⟩] p =
      hedgeWorld second := rfl
  rw [hnext, hsecond] at run
  have run := run.again
  have hnext : hedgeNext second last
      [⟨hedgeWorld second, (poller p (hedgeWorld second)).2⟩,
        ⟨hedgeWorld 0, (poller .unstarted (hedgeWorld 0)).2⟩] q = hedgeWorld last := rfl
  rw [hnext, hlast] at run
  refine ⟨⟨rfl, fun {latest earlier p'} run' => ⟨rfl, ?_⟩, fun _ => ⟨_, _, _, run, nofun⟩⟩, _, _, _,
    run, rfl, rfl⟩
  rcases hcourse run' with ⟨first, hvisits, hnow, hpending⟩ |
    ⟨later, first, hvisits, hnow, hpending⟩ | ⟨_, hready⟩
  · obtain ⟨rfl, rfl⟩ := List.cons.inj hvisits
    obtain rfl := Poll.pending.inj hpending
    refine ⟨hnow ▸ Nat.zero_le _, hp.2, fun hy => ?_⟩
    rw [hp.1] at hy
    cases hy
  · obtain ⟨rfl, rfl⟩ := List.cons.inj hvisits
    obtain rfl := Poll.pending.inj hpending
    refine ⟨hnow ▸ hle, hq.2, fun hy => ?_⟩
    rw [hq.1] at hy
    cases hy
  · cases hready

/-- The race behind the lead is five milliseconds later than the one without a lead. -/
theorem head_start_cost_lead_fails :
    HeadStartAccount [2] 2 hedgeChild hedgeFates
        (hedgeNext (Duration.ofMillis 5) (Duration.ofMillis 15))
        (hedgeNext (Duration.ofMillis 5) (Duration.ofMillis 10)) (hedgeWorld 0) (hedgeWorld 0) ∧
      Resolves (hedgeNext (Duration.ofMillis 5) (Duration.ofMillis 15))
        (pollBestConnectedEver [2] 2 hedgeChild) (hedgeWorld 0) true (Duration.ofMillis 15) ∧
      Resolves (hedgeNext (Duration.ofMillis 5) (Duration.ofMillis 10))
        (pollFirstConnected 2 hedgeChild) (hedgeWorld 0) true (Duration.ofMillis 10) := by
  have hbest : Drives _ (hedgeNext (Duration.ofMillis 5) (Duration.ofMillis 15))
      (pollBestConnectedEver [2] 2 hedgeChild) (hedgeWorld 0) ∧ _ :=
    hedge_drives rfl rfl rfl (by decide) (by decide) (by decide)
  have hplain : Drives _ (hedgeNext (Duration.ofMillis 5) (Duration.ofMillis 10))
      (pollFirstConnected 2 hedgeChild) (hedgeWorld 0) ∧ _ :=
    hedge_drives rfl rfl rfl (by decide) (by decide) (by decide)
  exact ⟨head_start_cost hedge_steady rfl rfl hbest.1 hplain.1, hbest.2, hplain.2⟩

end Dialplan
