import Dialplan.Proofs.Opens.Ledger
import Dialplan.Proofs.Polling.Run

/-! The single winner. Over any run of any strategy, whatever happens between its polls: no
open is lost, and the first that connects ends the run in the same poll, with its own
connection (`single_winner`). -/

namespace Dialplan

namespace Poll

/-- The opens that are still in flight. -/
def inFlight : Poll Progress → List Nat
  | pending p => p.inFlight
  | ready _ => []

/-- The open whose connection is the result. -/
def winner? : Poll Progress → Option Nat
  | ready (.ok connection) => some connection.socket.opened
  | _ => none

end Poll

/-- How a run stands after a visit. -/
structure Standing (strategy : Strategy) (context : Context) (visit : Visit)
    (earlier : List Visit) (outcome : Poll Progress) : Prop where
  balanced : Balanced (eventsOf (visit :: earlier)) outcome.winner?.toList visit.after.opens
    outcome.inFlight
  unwon : numbers .connected (eventsOf earlier) = []
  made : ∀ connection, outcome = .ready (.ok connection) →
    ∃ leaf, OpenedIn (eventsOf (visit :: earlier)) leaf connection.socket.opened ∧
      MadeBy leaf connection.socket.opened visit.after.kind connection
  holds : ∀ p, outcome = .pending p →
    Holds (fun _ => OpenedIn (eventsOf (visit :: earlier))) strategy context p

/-- What has been logged by the end of a visit are the events of the visits. -/
theorem Logged.eventsOf_eq {w w' : World} {earlier : List Visit} {events : List Event}
    (h : Logged w.log (eventsOf earlier) w' events) :
    eventsOf (⟨w, w'⟩ :: earlier) = events := by
  obtain ⟨added, hlog, rfl⟩ := h
  rw [eventsOf, List.flatMap_cons, Visit.events_eq hlog]
  rfl

theorem InBalance.balanced {w w' : World} {earlier : List Visit} {winners : List Nat}
    {inFlight : Multiset Nat}
    (h : InBalance w.log (eventsOf earlier) winners w' inFlight) :
    Balanced (eventsOf (⟨w, w'⟩ :: earlier)) winners w'.opens inFlight := by
  obtain ⟨events, hl, hb⟩ := h
  rwa [hl.eventsOf_eq]

theorem OpenedBy.openedIn {w w' : World} {earlier : List Visit} {leaf : Leaf} {number : Nat}
    (h : OpenedBy w.log (eventsOf earlier) w' leaf number) :
    OpenedIn (eventsOf (⟨w, w'⟩ :: earlier)) leaf number := by
  obtain ⟨events, hl, ho⟩ := h
  rwa [hl.eventsOf_eq]

/-- A visit to what a balanced run has in progress. -/
theorem visit_standing {strategy : Strategy} {context : Context} {earlier : List Visit}
    {p : Progress} {w : World} (hb : Balanced (eventsOf earlier) [] w.opens p.inFlight)
    (hp : Holds (fun _ => OpenedIn (eventsOf earlier)) strategy context p) :
    Standing strategy context ⟨w, (strategy.poll context p w).2⟩ earlier
      (strategy.poll context p w).1 := by
  have hlogged : Logged w.log (eventsOf earlier) w (eventsOf earlier) := ⟨[], rfl, rfl⟩
  have hp : Holds (fun _ => OpenedBy w.log (eventsOf earlier) w) strategy context p :=
    hp.mono fun c leaf number ho => ⟨_, hlogged, ho⟩
  have hi : InBalance w.log (eventsOf earlier) [] w (p.inFlight + 0) := by
    rw [add_zero]
    exact ⟨_, hlogged, hb⟩
  have hsettles := (ledger_custody strategy context w.log (eventsOf earlier)).poll strategy .root
    p w 0 hp hi
  generalize strategy.poll context p w = polled at hsettles ⊢
  obtain ⟨outcome, w'⟩ := polled
  cases outcome with
  | pending p =>
    obtain ⟨hp, hi⟩ := hsettles
    rw [add_zero] at hi
    refine ⟨hi.balanced, hb.wins, nofun, ?_⟩
    rintro _ ⟨⟩
    exact hp.mono fun _ _ _ ho => ho.openedIn
  | ready result =>
    cases result with
    | error e => exact ⟨InBalance.balanced hsettles, hb.wins, nofun, nofun⟩
    | ok connection =>
      obtain ⟨hi, leaf, ho, hm⟩ := hsettles
      refine ⟨hi.balanced, hb.wins, ?_, nofun⟩
      rintro _ ⟨⟩
      exact ⟨leaf, ho.openedIn, hm⟩

/-- Runs stand well after every visit, when no open is numbered twice between the visits. -/
theorem Run.standing {strategy : Strategy} {context : Context} {w₀ : World}
    {visits : List Visit} {outcome : Poll Progress}
    (run : Run (fun w w' => w.opens ≤ w'.opens) (strategy.poll context) w₀ visits outcome) :
    ∃ visit earlier, visits = visit :: earlier ∧
      Standing strategy context visit earlier outcome := by
  induction run with
  | first => exact ⟨_, [], rfl, visit_standing (.empty _) .unstarted⟩
  | @again visit earlier p w _ hbetween ih =>
    obtain ⟨_, _, ⟨⟩, hstanding⟩ := ih
    exact ⟨_, _, rfl, visit_standing (hstanding.balanced.mono hbetween)
      (hstanding.holds p rfl)⟩

/-- What is promised of the opens of a run and of its outcome. -/
structure SingleWinner (visits : List Visit) (outcome : Poll Progress) : Prop where
  /-- No open is made twice. -/
  once : (numbers .opened (eventsOf visits)).Nodup
  /-- Every open has won, has failed or was cancelled, or is still in flight, and only one of
  these, once; when the run is over, none is in flight. -/
  settled : (numbers .opened (eventsOf visits)).Perm
    (outcome.winner?.toList ++ numbers .failed (eventsOf visits) ++
      numbers .cancelled (eventsOf visits) ++ outcome.inFlight)
  /-- The winner connects in the latest visit, and no other open ever does. -/
  decided : ∃ visit earlier, visits = visit :: earlier ∧
    numbers .connected (eventsOf earlier) = [] ∧
    numbers .connected visit.events = outcome.winner?.toList
  /-- The result is the connection of the winner. -/
  made : ∀ connection, outcome = .ready (.ok connection) →
    ∃ visit ∈ visits.head?, ∃ leaf, OpenedIn (eventsOf visits) leaf connection.socket.opened ∧
      MadeBy leaf connection.socket.opened visit.after.kind connection

/-- In every run of every strategy, in every world, there is a single winner and no open is
lost. Between visits the world may change in any way, except that numbers of opens are not
given again. -/
theorem single_winner {strategy : Strategy} {context : Context} {w₀ : World}
    {visits : List Visit} {outcome : Poll Progress}
    (run : Run (fun w w' => w.opens ≤ w'.opens) (strategy.poll context) w₀ visits outcome) :
    SingleWinner visits outcome := by
  obtain ⟨visit, earlier, rfl, hb, hunwon, hmade, -⟩ := run.standing
  refine ⟨hb.nodup, hb.perm, ⟨visit, earlier, rfl, hunwon, ?_⟩, ?_⟩
  · have hwins := hb.wins
    rwa [eventsOf, List.flatMap_cons, numbers_append, ← eventsOf, hunwon,
      List.append_nil] at hwins
  · exact fun connection h => ⟨visit, rfl, hmade connection h⟩

/-- Two ways to connect: the first takes five milliseconds, the second never answers. -/
def twoWays : Strategy :=
  .firstConnected [.transport ⟨"a", "a", 0, 0, [], none⟩, .transport ⟨"b", "b", 0, 1, [], none⟩]

def twoWaysWorld : World :=
  .initial 0
    [⟨"a", true, true, .scripted [.connect (Duration.ofMillis 5)]⟩,
      ⟨"b", true, true, .scripted [.hang]⟩] []

/-- What is in progress when both have been opened. -/
def twoWaysOpen : Progress :=
  .racing none false [0, 1]
    [.running (.opening 1 0 (some (⟨Duration.ofMillis 5, 0⟩, none))), .running (.opening 2 0 none)]
    []

/-- The world in which the first way has had its time. -/
def twoWaysLater : World :=
  { (twoWays.poll .plain .unstarted twoWaysWorld).2 with now := Duration.ofMillis 5 }

/-- The first way wins in the second visit, and the open of the other is cancelled. -/
theorem single_winner_two_ways :
    ∃ visits outcome,
      Run (fun w w' => w.opens ≤ w'.opens) (twoWays.poll .plain) twoWaysWorld visits outcome ∧
      outcome.winner? = some 1 ∧ numbers .cancelled (eventsOf visits) = [2] ∧
      SingleWinner visits outcome := by
  have started : Run (fun w w' => w.opens ≤ w'.opens) (twoWays.poll .plain) twoWaysWorld
      [⟨twoWaysWorld, (twoWays.poll .plain .unstarted twoWaysWorld).2⟩] (.pending twoWaysOpen) :=
    .first
  have run := started.again (w := twoWaysLater) (by decide)
  exact ⟨_, _, run, by decide, by decide, single_winner run⟩

end Dialplan
