import Dialplan.Proofs.Build.Sites
import Dialplan.Proofs.History.Deeds
import Dialplan.Proofs.History.Preferred
import Dialplan.Proofs.Polling.Run
import Dialplan.Proofs.Race.Result
import Dialplan.Proofs.Stores.Footprint

/-! Calls of a node that remembers its races, one after the other. Every call is a race behind
the child that is preferred when it starts (`Run.raced`), and what the node remembers is told by
what became of the calls (`best_connected_history`). -/

namespace Dialplan

/-- What the node made at a site remembers is as it was. -/
def Untouched (site : Site) (w w' : World) : Prop :=
  w'.histories.lookup site = w.histories.lookup site

theorem Untouched.history {site : Site} {w w' : World} (h : Untouched site w w') (count : Nat) :
    w'.history site count = w.history site count := by
  rw [World.history, World.history, h]

theorem World.history_setHistory (w : World) (site : Site) (history : History) (count : Nat) :
    (w.setHistory site history).history site count = history := by
  simp [World.history, setHistory]

theorem untouched (site : Site) : Frame (Untouched site) where
  refl _ := rfl
  trans hab hbc := hbc.trans hab
  connected _ _ _ _ := rfl
  failed _ _ := rfl
  cancelled _ _ := rfl

/-- Trees without a node of the site leave its memory alone. -/
theorem untouched_frame {site : Site} {root : Strategy} (context : Context)
    (h : ∀ others, ¬ Strategy.Within (.bestConnectedEver site others) root) :
    FrameAt root context (Untouched site) where
  toFrame := untouched site
  opened _ _ _ _ := rfl
  remembered hr w history := w.lookup_setHistory (by rintro rfl; exact h _ hr.within) history
  stored _ _ _ _ := rfl
  flushed _ _ := rfl

theorem Strategy.Unnested.keeps {site : Site} {children : List Strategy}
    (h : Unnested site children) (context : Context) (i : Nat) :
    Keeps (Untouched site) (pollAt children i context) := by
  rw [pollAt_eq]
  cases hi : children[i]? with
  | none => exact fun _ _ => rfl
  | some child =>
    exact (untouched_frame context (h child (List.mem_of_getElem? hi))).poll child .root

section

variable {site : Site} {count : Nat} {child : Nat → Poller}

/-! ### Polls -/

/-- What a node answers when its race, with the timer of its head start, has come to this. -/
def Race.Outcome.answer (lead : Option (Nat × Timer)) : Race.Outcome Progress → Poll Progress
  | .pending state => .pending (.ofRace lead state)
  | .won _ connection _ => .ready (.ok connection)
  | .lost failures => .ready (.error (.allFailed failures))

/-- What becomes of a call when its race has come to this, and is then dropped if it waits. -/
def Race.Outcome.deed (lead : Option Nat) : Race.Outcome Progress → Deed
  | .pending _ => .dropped
  | .won i connection _ => .won lead i ⟨connection.latency, connection.priority⟩
  | .lost _ => .failed

/-- The lead of a race that starts in a world, with the timer of its head start. -/
def leadOf (site : Site) (count : Nat) (w : World) : Option (Nat × Timer) :=
  (w.history site count).preferred.map fun i => (i, Timer.start w headStart)

theorem map_fst_leadOf (w : World) :
    (leadOf site count w).map Prod.fst = (w.history site count).preferred := by
  simp [leadOf, Function.comp_def]

/-- When the race is polled. -/
def Visit.moment (lead : Option (Nat × Timer)) (visit : Visit) : Race.Moment World :=
  ⟨lead.any fun (_, timer) => timer.isDue visit.before.now, visit.before⟩

/-- A poll of a race answers what it has come to, and remembers that and nothing else. -/
theorem pollRace_remembers (count : Nat) (hc : ∀ i, Keeps (Untouched site) (child i))
    (lead : Option (Nat × Timer)) (state : Race.State Progress) (w : World)
    {outcome : Race.Outcome Progress} (h : outcome = (Race.poll child .unstarted
      (lead.any fun (_, timer) => timer.isDue w.now) state w).1) :
    (pollRace lead child (rememberWin site count (lead.map Prod.fst)) state w).1 =
        outcome.answer lead ∧
      (pollRace lead child (rememberWin site count (lead.map Prod.fst)) state w).2.history
        site count = (w.history site count).after (outcome.deed (lead.map Prod.fst)) := by
  unfold pollRace
  dsimp only
  generalize Option.any _ lead = elapsed at h ⊢
  have hrule := (untouched site).racePoll hc elapsed state w
  generalize Race.poll child .unstarted elapsed state w = polled at hrule h ⊢
  obtain ⟨_, w'⟩ := polled
  subst h
  cases outcome with
  | pending state => exact ⟨rfl, hrule.history count⟩
  | won i connection state =>
    have hw := (untouched site).trans hrule ((untouched site).abandonAll state.running w')
    refine ⟨rfl, ?_⟩
    dsimp only
    rw [rememberWin, World.history_setHistory, hw.history]
    rfl
  | lost failures =>
    obtain ⟨-, hw, -⟩ := hrule
    exact ⟨rfl, hw.history count⟩

/-- The first poll starts the race behind the child that is preferred. -/
theorem pollBestConnectedEver_unstarted {w : World}
    (hlength : (w.history site count).length = count) :
    pollBestConnectedEver site count child .unstarted w =
      pollRace (leadOf site count w) child
        (rememberWin site count ((leadOf site count w).map Prod.fst))
        (.initial count (w.history site count).preferred .unstarted) w := by
  unfold pollBestConnectedEver leadOf
  dsimp only
  generalize w.history site count = history at hlength ⊢
  split
  · rename_i hcount
    subst hcount
    obtain rfl := List.length_eq_zero_iff.mp hlength
    rfl
  · cases history.preferred with
    | none => rfl
    | some lead => rfl

/-! ### Runs -/

/-- The race of a call that starts in a world: the child that is preferred there leads, and the
children are polled at the visits. -/
def raceOf (site : Site) (count : Nat) (child : Nat → Poller) (w : World) (visits : List Visit) :
    Race.Outcome Progress :=
  Race.run child .unstarted (.initial count (w.history site count).preferred .unstarted)
    (visits.reverse.map (Visit.moment (leadOf site count w)))

theorem raceOf_cons {w : World} {visits : List Visit} {state : Race.State Progress}
    (h : raceOf site count child w visits = .pending state) (visit : Visit) :
    raceOf site count child w (visit :: visits) =
      (Race.poll child .unstarted ((visit.moment (leadOf site count w)).elapsed) state
        visit.before).1 := by
  rw [raceOf, List.reverse_cons, List.map_append, Race.run_append _ h]
  exact Race.run_singleton state _

/-- A call comes to what its race comes to, and remembers that and nothing else. -/
theorem Run.raced (hc : ∀ i, Keeps (Untouched site) (child i)) {w : World}
    (hlength : (w.history site count).length = count) {visits : List Visit}
    {outcome : Poll Progress}
    (run : Run (Untouched site) (pollBestConnectedEver site count child) w visits outcome) :
    outcome = (raceOf site count child w visits).answer (leadOf site count w) ∧
      ∀ visit ∈ visits.head?, visit.after.history site count = (w.history site count).after
        ((raceOf site count child w visits).deed (w.history site count).preferred) := by
  rw [← map_fst_leadOf]
  induction run with
  | first =>
    have hrace : raceOf site count child w
        [⟨w, (pollBestConnectedEver site count child .unstarted w).2⟩] = _ :=
      Race.run_singleton _ _
    rw [pollBestConnectedEver_unstarted hlength] at hrace ⊢
    obtain ⟨hanswer, hhistory⟩ := pollRace_remembers count hc _ _ w hrace
    refine ⟨hanswer, ?_⟩
    rintro _ ⟨⟩
    exact hhistory
  | @again visit earlier p w' _ hbetween ih =>
    obtain ⟨hp, hhistory⟩ := ih
    have hvisit := hhistory visit rfl
    cases hrace : raceOf site count child w (visit :: earlier) with
    | won i connection state =>
      rw [hrace] at hp
      cases hp
    | lost failures =>
      rw [hrace] at hp
      cases hp
    | pending state =>
      rw [hrace] at hp hvisit
      obtain rfl := Poll.pending.inj hp
      have hsame := (hbetween.history count).trans hvisit
      have hrace := raceOf_cons hrace ⟨w', (pollBestConnectedEver site count child
        (.ofRace (leadOf site count w) state) w').2⟩
      obtain ⟨hanswer, hhistory⟩ := pollRace_remembers count hc _ _ w' hrace
      rw [hsame] at hhistory
      refine ⟨hanswer, ?_⟩
      rintro _ ⟨⟩
      exact hhistory

end

/-! ### Calls -/

namespace Race.Outcome

variable {lead : Option (Nat × Timer)} {outcome : Race.Outcome Progress}

theorem deed_of_pending {p : Progress} (h : outcome.answer lead = .pending p)
    (first : Option Nat) : outcome.deed first = .dropped := by
  cases outcome with
  | pending state => rfl
  | won i connection state => cases h
  | lost failures => cases h

theorem deed_of_error {e : Error} (h : outcome.answer lead = .ready (.error e))
    (first : Option Nat) : outcome.deed first = .failed := by
  cases outcome with
  | pending state => cases h
  | won i connection state => cases h
  | lost failures => rfl

theorem won_of_answer {connection : Connection}
    (h : outcome.answer lead = .ready (.ok connection)) :
    ∃ i state, outcome = .won i connection state := by
  cases outcome with
  | pending state => cases h
  | won i connection state =>
    cases h
    exact ⟨i, state, rfl⟩
  | lost failures => cases h

end Race.Outcome

section

variable (site : Site) (children : List Strategy)

/-- A run of the node, with the demands of a call. Meanwhile anything may happen but for uses
of the node. -/
def CallRun (context : Context) (w : World) (visits : List Visit) (outcome : Poll Progress) :
    Prop :=
  Run (Untouched site) ((Strategy.bestConnectedEver site children).poll context) w visits outcome

/-- The race of such a run: the children start behind the preferred one. -/
def callRace (context : Context) (w : World) (visits : List Visit) : Race.Outcome Progress :=
  raceOf site children.length (fun i => Strategy.pollAt children i context) w visits

/-- A call of the node, from the world in which it is made to the one it leaves behind, and what
became of it. A call that is dropped may not have been polled yet; what it has in flight is
given up. -/
inductive Call (context : Context) (w : World) : Deed → World → Prop where
  | unpolled : Call context w .dropped w
  | dropped {visit earlier p} :
      CallRun site children context w (visit :: earlier) (.pending p) →
      Call context w .dropped (p.abandon visit.after)
  | failed {visit earlier e} :
      CallRun site children context w (visit :: earlier) (.ready (.error e)) →
      Call context w .failed visit.after
  | won {visit earlier connection i state} :
      CallRun site children context w (visit :: earlier) (.ready (.ok connection)) →
      callRace site children context w (visit :: earlier) = .won i connection state →
      Call context w (.won (w.history site children.length).preferred i
        ⟨connection.latency, connection.priority⟩) visit.after

/-- The worlds in which the node has been used, from one in which it was new, with what became
of its uses, the latest first. It is called once after the other, and reset between calls;
meanwhile anything else may happen. -/
inductive Used : List Deed → World → Prop where
  | new {w} : w.histories.lookup site = none → Used [] w
  | called {deeds w context deed w'} : Used deeds w → Call site children context w deed w' →
      Used (deed :: deeds) w'
  | reset {deeds w} : Used deeds w → Used (.reset :: deeds) (w.resetHistory site children.length)
  | meanwhile {deeds w w'} : Used deeds w → Untouched site w w' → Used deeds w'

/-- What the node remembers of its uses, and what comes of it in the next call. -/
structure Remembers (deeds : List Deed) (w : World) : Prop where
  /-- There is one entry for every child. -/
  length : (w.history site children.length).length = children.length
  /-- The entry of a child is its most recent win, if that still counts. -/
  entries : ∀ i win,
    (w.history site children.length)[i]? = some (some win) ↔ Retains deeds i win
  /-- Otherwise it is empty. -/
  empty : ∀ i, (w.history site children.length)[i]? = some none ↔
    i < children.length ∧ ∀ win, ¬ Retains deeds i win
  /-- The child whose entry goes before all others is preferred. -/
  preferred : ∀ i, (w.history site children.length).preferred = some i ↔
    (w.history site children.length).Foremost i
  /-- No child is preferred exactly if all entries are empty. -/
  unpreferred : (w.history site children.length).preferred = none ↔
    (w.history site children.length).Empty
  /-- Whenever the node is called next, it answers as the race in which that child leads. -/
  leads : ∀ {context visits outcome}, CallRun site children context w visits outcome →
    outcome = (callRace site children context w visits).answer (leadOf site children.length w)
  /-- While that call waits, no entry changes. -/
  waiting : ∀ {context visit earlier p},
    CallRun site children context w (visit :: earlier) (.pending p) →
    visit.after.history site children.length = w.history site children.length
  /-- If it succeeds, a child has won its race. -/
  winner : ∀ {context visits connection},
    CallRun site children context w visits (.ready (.ok connection)) →
    ∃ i state, callRace site children context w visits = .won i connection state
  /-- If it fails or is dropped, no entry changes. -/
  unchanged : ∀ {context deed w'}, Call site children context w deed w' →
    deed = .failed ∨ deed = .dropped →
    w'.history site children.length = w.history site children.length

variable {site children} {w w' : World}

/-- A call answers as its race, and the node remembers what became of it and nothing else. -/
theorem CallRun.raced (hunnested : Strategy.Unnested site children)
    (hlength : (w.history site children.length).length = children.length) {context : Context}
    {visits : List Visit} {outcome : Poll Progress}
    (run : CallRun site children context w visits outcome) :
    outcome = (callRace site children context w visits).answer (leadOf site children.length w) ∧
      ∀ visit ∈ visits.head?, visit.after.history site children.length =
        (w.history site children.length).after ((callRace site children context w visits).deed
          (w.history site children.length).preferred) :=
  Run.raced (hunnested.keeps context) hlength run

theorem CallRun.waiting (hunnested : Strategy.Unnested site children)
    (hlength : (w.history site children.length).length = children.length) {context : Context}
    {visit : Visit} {earlier : List Visit} {p : Progress}
    (run : CallRun site children context w (visit :: earlier) (.pending p)) :
    visit.after.history site children.length = w.history site children.length := by
  obtain ⟨ho, hhistory⟩ := run.raced hunnested hlength
  have hhistory := hhistory visit rfl
  rwa [Race.Outcome.deed_of_pending ho.symm] at hhistory

/-- A call leaves in the memory what became of it. -/
theorem Call.after (hunnested : Strategy.Unnested site children)
    (hlength : (w.history site children.length).length = children.length) {context : Context}
    {deed : Deed} (call : Call site children context w deed w') :
    deed.Within children.length ∧
      w'.history site children.length = (w.history site children.length).after deed := by
  cases call with
  | unpolled => exact ⟨trivial, rfl⟩
  | @dropped visit earlier p run =>
    have habandoned : Untouched site visit.after (p.abandon visit.after) :=
      (untouched site).cancel visit.after _
    exact ⟨trivial, (habandoned.history _).trans (run.waiting hunnested hlength)⟩
  | @failed visit earlier e run =>
    obtain ⟨ho, hhistory⟩ := run.raced hunnested hlength
    have hhistory := hhistory visit rfl
    rw [Race.Outcome.deed_of_error ho.symm] at hhistory
    exact ⟨trivial, hhistory⟩
  | @won visit earlier connection i state run hrace =>
    obtain ⟨-, hhistory⟩ := run.raced hunnested hlength
    have hhistory := hhistory visit rfl
    rw [hrace] at hhistory
    refine ⟨Race.lt_of_run_won (fun l hl => ?_) hrace, hhistory⟩
    obtain ⟨win, hwin, -⟩ := History.preferred_eq_some_iff.mp hl
    exact hlength ▸ (List.getElem?_eq_some_iff.mp hwin).1

/-- The memory of a node in use has an entry for every child, and reflects what became of its
uses. -/
theorem Used.reflects (hunnested : Strategy.Unnested site children) {deeds : List Deed}
    (used : Used site children deeds w) :
    (w.history site children.length).length = children.length ∧
      (w.history site children.length).Reflects deeds := by
  induction used with
  | @new w hnew =>
    rw [World.history, hnew]
    exact ⟨List.length_replicate, History.reflects_blank _⟩
  | called _ call ih =>
    obtain ⟨hlength, hreflects⟩ := ih
    obtain ⟨hwithin, hafter⟩ := call.after hunnested hlength
    rw [hafter]
    exact ⟨(History.length_after _ _).trans hlength, hreflects.after _ (hlength.symm ▸ hwithin)⟩
  | reset _ ih =>
    obtain ⟨hlength, hreflects⟩ := ih
    rw [World.resetHistory, World.history_setHistory]
    exact ⟨(History.length_after _ .reset).trans hlength, hreflects.after .reset trivial⟩
  | meanwhile _ huntouched ih =>
    rw [huntouched.history]
    exact ih

/-- However a node has been called and reset, each child's entry is its most recent win, unless
that does not count any more, and the child whose entry is foremost leads the next race. That no
node of its site stands below it is so in every built tree (`Builder.build_unnested`). -/
theorem best_connected_history (hunnested : Strategy.Unnested site children) {deeds : List Deed}
    (used : Used site children deeds w) : Remembers site children deeds w := by
  obtain ⟨hlength, hreflects⟩ := used.reflects hunnested
  refine ⟨hlength, hreflects, fun i => ?_, fun i => History.preferred_eq_some_iff,
    History.preferred_eq_none_iff, fun run => (run.raced hunnested hlength).1,
    fun run => run.waiting hunnested hlength, fun run => ?_, ?_⟩
  · rw [hreflects.empty_iff, hlength]
  · exact Race.Outcome.won_of_answer (run.raced hunnested hlength).1.symm
  · intro context deed w' call hdeed
    obtain ⟨-, hafter⟩ := call.after hunnested hlength
    rcases hdeed with rfl | rfl
    · exact hafter
    · exact hafter

end

/-! Two rivals in a race. The first one hangs when it is first opened, and then connects at once;
the second one connects at once, and then fails. -/

def rivalBuilder : Builder := ⟨[("x", 0), ("y", 1)], 0⟩

def rivalProgram : Program :=
  [.defTransport "a" "x" 1 none,
    .defTransport "b" "y" 2 none,
    .define "strategy" (.invocation "best_connected_ever" [.symbol "a", .symbol "b"])]

def rivals : List Strategy :=
  [.transport ⟨"a", "x", 1, 0, [], none⟩, .transport ⟨"b", "y", 2, 1, [], none⟩]

def rivalWorld : World :=
  .initial 0
    [⟨"x", true, true, .scripted [.hang, .connect 0]⟩,
      ⟨"y", true, true, .scripted [.connect 0, .fail 0 (.connection "refused")]⟩] []

/-- A call of the rivals that is polled once. -/
def rivalCall (w : World) : Visit :=
  ⟨w, ((Strategy.bestConnectedEver [2] rivals).poll .plain .unstarted w).2⟩

/-- The second rival wins. Then it leads and fails, and the first wins. The next call is dropped
before it is polled. -/
def rivalDeeds : List Deed :=
  [.dropped, .won (some 1) 0 ⟨0, 1⟩, .won none 1 ⟨0, 2⟩]

/-- The lead that lost is forgotten, and the child that won instead is remembered. -/
theorem best_connected_history_lead_lost :
    Strategy.Unnested [2] rivals ∧
    Used [2] rivals rivalDeeds (rivalCall (rivalCall rivalWorld).after).after ∧
    Remembers [2] rivals rivalDeeds (rivalCall (rivalCall rivalWorld).after).after ∧
    Retains rivalDeeds 0 ⟨0, 1⟩ ∧ ∀ win, ¬ Retains rivalDeeds 1 win := by
  have hbuild : rivalBuilder.build .default [] rivalProgram =
      .ok (.bestConnectedEver [2] rivals) := by rfl
  have hunnested := Builder.build_unnested hbuild .self
  have connects : CallRun [2] rivals .plain rivalWorld [rivalCall rivalWorld]
      (.ready (.ok ⟨1, "b", 2, 0, ⟨"y", 2⟩⟩)) := .first
  have hfirst : Call [2] rivals .plain rivalWorld (.won none 1 ⟨0, 2⟩)
      (rivalCall rivalWorld).after := .won connects rfl
  have reconnects : CallRun [2] rivals .plain (rivalCall rivalWorld).after
      [rivalCall (rivalCall rivalWorld).after] (.ready (.ok ⟨2, "a", 1, 0, ⟨"x", 4⟩⟩)) := .first
  have hsecond : Call [2] rivals .plain (rivalCall rivalWorld).after (.won (some 1) 0 ⟨0, 1⟩)
      (rivalCall (rivalCall rivalWorld).after).after := .won reconnects rfl
  have hthird : Call [2] rivals .plain (rivalCall (rivalCall rivalWorld).after).after .dropped
      (rivalCall (rivalCall rivalWorld).after).after := .unpolled
  have used : Used [2] rivals rivalDeeds (rivalCall (rivalCall rivalWorld).after).after :=
    .called (.called (.called (.new rfl) hfirst) hsecond) hthird
  have h := best_connected_history hunnested used
  exact ⟨hunnested, used, h, (h.entries 0 _).mp (by rfl), ((h.empty 1).mp (by rfl)).2⟩

end Dialplan
