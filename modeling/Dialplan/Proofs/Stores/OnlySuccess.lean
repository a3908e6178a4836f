import Dialplan.Proofs.Opens.SingleWinner
import Dialplan.Proofs.Stores.Footprint

/-! Only success stores. An attempt that fails or is dropped leaves no trace in the memory of
races and no record in a cache; one that connects stores in its last poll, on the path from the
root to the leaf that has connected (`only_success_stores`). -/

namespace Dialplan

/-- Between two polls of an attempt others leave the memory of races and the caches alone, and
numbers of opens are not given again. -/
structure Alone (w w' : World) : Prop where
  histories : w'.histories = w.histories
  caches : w'.caches = w.caches
  grows : Grows w w'
  opens : w.opens ≤ w'.opens

/-- What is promised when what is in progress after some visits is dropped. -/
structure Dropped (root : Strategy) (context : Context) (w₀ : World) (visits : List Visit)
    (p : Progress) (w : World) : Prop where
  /-- Nothing has been stored. -/
  unstored : Unstored root context w₀ (p.abandon w)
  /-- Nothing is opened; the opens in flight are cancelled, one by one. -/
  log : (p.abandon w).log = (p.inFlight.map (.cancelled · w.now)).reverse ++ w.log
  /-- The opens in flight are those that have neither failed nor been cancelled. -/
  inFlight : (numbers .opened (eventsOf visits)).Perm
    (numbers .failed (eventsOf visits) ++ numbers .cancelled (eventsOf visits) ++ p.inFlight)
  /-- None of them is cancelled twice. -/
  once : (numbers .cancelled (eventsOf visits) ++ p.inFlight).Nodup

/-- What is promised of what a run stores, after the visit `latest` and those before it. -/
structure StoresOnSuccess (root : Strategy) (context : Context) (w₀ : World) (latest : Visit)
    (earlier : List Visit) (outcome : Poll Progress) : Prop where
  /-- Before the latest visit, nothing has been stored. -/
  unfinished : ∀ visit ∈ earlier, Unstored root context w₀ visit.after
  before : Unstored root context w₀ latest.before
  /-- Without a success, nothing has been stored after it either. -/
  unresolved : (∀ connection, outcome ≠ .ready (.ok connection)) →
    Unstored root context w₀ latest.after
  /-- When a leaf connects in the latest visit, nothing has been stored yet. Then its connection
  is handed up the path from the root to the leaf, so that it is stored there and nowhere
  else. -/
  succeeded : ∀ connection, outcome = .ready (.ok connection) →
    ∃ path leaf demands w₁, Strategy.Path root context path leaf demands ∧
      Connects root context leaf demands connection latest.before w₁ ∧
      HandedUp connection.transport path w₁ latest.after ∧
      StoredAlong root context path connection.transport latest.before latest.after
  /-- Whenever it is dropped, nothing is stored, and its opens in flight are cancelled once. -/
  dropped : ∀ p w, outcome = .pending p → Alone latest.after w →
    Dropped root context w₀ (latest :: earlier) p w
  /-- So it is when it is dropped before its first poll. -/
  unpolled : ∀ w, Alone w₀ w → Dropped root context w₀ [] .unstarted w

section

variable {root : Strategy} {context : Context} {w₀ : World}

theorem Alone.unstored {w w' : World} (h : Alone w w') (hu : Unstored root context w₀ w) :
    Unstored root context w₀ w' :=
  hu.of_eq h.histories h.caches

/-- The footprint of a run. -/
theorem Run.footprint {visits : List Visit} {outcome : Poll Progress}
    (run : Run Alone (root.poll context) w₀ visits outcome) :
    ∃ latest earlier, visits = latest :: earlier ∧
      (∀ visit ∈ earlier, Unstored root context w₀ visit.after) ∧
      Unstored root context w₀ latest.before ∧
      Poll.Yields
        (fun p w => Holds (OpenedAt w) root context p ∧ Unstored root context w₀ w)
        (Delivers root context root context · latest.before)
        (fun _ w => Unstored root context w₀ w) (outcome, latest.after) := by
  induction run with
  | first => exact ⟨_, [], rfl, nofun, .refl w₀, Strategy.poll_footprint .root .unstarted⟩
  | @again visit earlier p w _ hbetween ih =>
    obtain ⟨_, _, ⟨⟩, hearlier, -, hp, hu⟩ := ih
    have hw := hbetween.unstored hu
    have hyields := Strategy.poll_footprint .root
      (hp.mono fun c leaf number ho => ho.grows hbetween.grows)
    refine ⟨_, _, rfl, List.forall_mem_cons.mpr ⟨hu, hearlier⟩, hw, ?_⟩
    exact hyields.imp (fun p w' h => ⟨h.1, hw.trans h.2⟩) (fun connection w' h => h)
      fun e w' h => hw.trans h

theorem dropped_of_standing {latest : Visit} {earlier : List Visit} {p : Progress} {w : World}
    (h : Standing root context latest earlier (.pending p)) (hu : Unstored root context w₀ w) :
    Dropped root context w₀ (latest :: earlier) p w := by
  have hperm := h.balanced.perm
  refine ⟨?_, ?_, hperm, ?_⟩
  · rw [Progress.abandon, w.cancel_eq]
    exact hu.of_eq rfl rfl
  · rw [Progress.abandon, w.cancel_eq]
  · have hnodup := hperm.nodup h.balanced.nodup
    refine hnodup.sublist ?_
    rw [List.append_assoc]
    exact List.sublist_append_right _ _

/-- Every run of every strategy stores only when it connects, whatever the transports do, and
whenever it is dropped. -/
theorem only_success_stores {visits : List Visit} {outcome : Poll Progress}
    (run : Run Alone (root.poll context) w₀ visits outcome) :
    ∃ latest earlier, visits = latest :: earlier ∧
      StoresOnSuccess root context w₀ latest earlier outcome := by
  obtain ⟨latest, earlier, rfl, hearlier, hbefore, hyields⟩ := run.footprint
  obtain ⟨_, _, ⟨⟩, hstanding⟩ := (run.mono Alone.opens).standing
  refine ⟨latest, earlier, rfl, hearlier, hbefore, ?_, ?_, ?_, ?_⟩
  · intro hno
    cases outcome with
    | pending p => exact hyields.2
    | ready result =>
      cases result with
      | error e => exact hyields
      | ok connection => exact absurd rfl (hno connection)
  · rintro connection rfl
    obtain ⟨path, leaf, demands, w₁, hpath, hconnects, hup⟩ := hyields
    exact ⟨path, leaf, demands, w₁, hpath, hconnects, hup,
      hup.storedAlong hconnects.unstored hconnects.moment⟩
  · rintro p w rfl halone
    exact dropped_of_standing hstanding (halone.unstored hyields.2)
  · exact fun w halone => ⟨halone.unstored (.refl w₀), rfl, .refl _, .nil⟩

end

/-- A cached race of two transports. -/
def cachedRace : Strategy :=
  .cached ⟨Duration.ofMillis 1000, false, 0⟩ []
    (.bestConnectedEver [0]
      [.transport ⟨"a", "a", 0, 0, [], none⟩, .transport ⟨"b", "b", 0, 1, [], none⟩])

/-- The first transport hangs, and the second connects at once. -/
def cachedRaceWorld : World :=
  .initial 0
    [⟨"a", true, true, .scripted [.hang]⟩, ⟨"b", true, true, .scripted [.connect 0]⟩] [.empty]

/-- The visit in which the second transport connects. -/
def cachedRaceVisit : Visit :=
  ⟨cachedRaceWorld, (cachedRace.poll .plain .unstarted cachedRaceWorld).2⟩

/-- The race and the cached node above it remember the connection. -/
theorem only_success_stores_cached_race :
    ∃ connection,
      Run Alone (cachedRace.poll .plain) cachedRaceWorld [cachedRaceVisit]
        (.ready (.ok connection)) ∧
      cachedRaceVisit.after.partition 0 false = some ⟨0, "b", 0⟩ ∧
      cachedRaceVisit.after.histories = [([0], [none, some ⟨0, 0⟩])] ∧
      StoresOnSuccess cachedRace .plain cachedRaceWorld cachedRaceVisit []
        (.ready (.ok connection)) := by
  have run : Run Alone (cachedRace.poll .plain) cachedRaceWorld [cachedRaceVisit]
      (.ready (.ok ⟨1, "b", 0, 0, ⟨"b", 2⟩⟩)) := .first
  obtain ⟨latest, earlier, hvisits, hstores⟩ := only_success_stores run
  obtain ⟨rfl, rfl⟩ := List.cons.inj hvisits
  exact ⟨_, run, by decide, by decide, hstores⟩

end Dialplan
