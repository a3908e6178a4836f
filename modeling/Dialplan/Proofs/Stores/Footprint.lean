import Dialplan.Proofs.Cached.Partition
import Dialplan.Proofs.Polling.Clock
import Dialplan.Proofs.Polling.Custody
import Dialplan.Proofs.Strategy.Paths

/-! Footprints of polls. What a poll leaves behind in the memory of races and in the caches: a
poll that does not connect stores nothing (`Unstored`), and one that connects stores only at
the nodes on the path to the leaf that has connected (`StoredAlong`). -/

namespace Dialplan

namespace World

/-- The record in a partition of a cache. -/
def partition (w : World) (number : Nat) (encrypted : Bool) : Option CacheRecord :=
  (w.cache number).fetch encrypted

/-- Setting a partition changes no other. -/
theorem partition_put (w : World) (number : Nat) (encrypted : Bool) (cached : Option CacheRecord)
    (other : Nat) (demand : Bool) :
    (w.setCache number ((w.cache number).put encrypted cached)).partition other demand =
        w.partition other demand ∨
      other = number ∧ demand = encrypted ∧
        (w.setCache number ((w.cache number).put encrypted cached)).partition other demand =
          cached := by
  by_cases hother : other ≠ number ∨ demand ≠ encrypted
  · exact .inl ((Spares.put w cached).others other demand hother)
  · obtain ⟨rfl, rfl⟩ : other = number ∧ demand = encrypted := by
      simpa only [not_or, not_not] using hother
    by_cases hlt : other < w.caches.length
    · exact .inr ⟨rfl, rfl, fetch_setCache_put hlt demand cached⟩
    · rw [setCache_of_le (Nat.le_of_not_lt hlt)]
      exact .inl rfl

/-- Remembering a race at one site changes no other. -/
theorem lookup_setHistory (w : World) {site other : Site} (h : other ≠ site) (history : History) :
    (w.setHistory site history).histories.lookup other = w.histories.lookup other := by
  have hfilter : ∀ histories : List (Site × History),
      (histories.filter (·.1 ≠ site)).lookup other = histories.lookup other := by
    intro histories
    induction histories with
    | nil => rfl
    | cons entry rest ih =>
      obtain ⟨key, entries⟩ := entry
      by_cases hkey : key = site
      · rw [List.filter_cons_of_neg (by simpa using hkey), ih, List.lookup_cons,
          beq_false_of_ne (hkey ▸ h)]
      · rw [List.filter_cons_of_pos (by simpa using hkey), List.lookup_cons, List.lookup_cons, ih]
  rw [setHistory, List.lookup_cons, beq_false_of_ne h]
  exact hfilter w.histories

end World

/-- An attempt can reach a cached node of this partition. -/
def ReachesPartition (root : Strategy) (context : Context) (number : Nat) (encrypted : Bool) :
    Prop :=
  ∃ underCache settings transports child c,
    Strategy.Reaches root context underCache (.cached settings transports child) c ∧
      settings.cache = number ∧ settings.encrypted = encrypted

/-- Nothing has been stored between two worlds: what races remember is as it was, and so are the
records of caches, except that cached nodes may have emptied their partitions. -/
structure Unstored (root : Strategy) (context : Context) (w w' : World) : Prop where
  histories : w'.histories = w.histories
  partitions : ∀ number encrypted,
    w'.partition number encrypted = w.partition number encrypted ∨
      w'.partition number encrypted = none ∧ ReachesPartition root context number encrypted

/-- A connection by some transport has only been stored at the nodes of a path: in the memory
of its races, and in the partitions of its cached nodes. -/
structure StoredAlong (root : Strategy) (context : Context) (path : List Strategy)
    (transport : String) (w w' : World) : Prop where
  histories : ∀ site, (∀ children, .bestConnectedEver site children ∉ path) →
    w'.histories.lookup site = w.histories.lookup site
  partitions : ∀ number encrypted,
    w'.partition number encrypted = w.partition number encrypted ∨
      w'.partition number encrypted = none ∧ ReachesPartition root context number encrypted ∨
      ∃ settings transports child took, .cached settings transports child ∈ path ∧
        settings.cache = number ∧ settings.encrypted = encrypted ∧
        w'.partition number encrypted = some ⟨w.wallClock, transport, took⟩

/-- A leaf has made this open under some demands. -/
def OpenedAt (w : World) (c : Context) (leaf : Leaf) (number : Nat) : Prop :=
  ∃ time, .opened number leaf ⟨leaf.name, leaf.key, c.encrypted, leaf.options⟩ time ∈ w.log

/-- A poll that began in the first world has not connected by the second. -/
structure Unanswered (root : Strategy) (context : Context) (w w' : World) : Prop where
  unstored : Unstored root context w w'
  moment : SameMoment w w'
  grows : Grows w w'

/-- In a poll that began in the first world and had not connected before, an open of a leaf has
connected, which leads to the second. -/
def Connects (root : Strategy) (context : Context) (leaf : Leaf) (demands : Context)
    (connection : Connection) (w w' : World) : Prop :=
  ∃ before number started, Unanswered root context w before ∧
    OpenedAt before demands leaf number ∧
    before.connect leaf number started = (connection, w')

/-- A connection is handed up a path, from the leaf at its end to the node at its start. On the
way other opens are given up; races remember it, and cached nodes store it. -/
inductive HandedUp (transport : String) : List Strategy → World → World → Prop where
  | leaf {leaf w} : HandedUp transport [.transport leaf] w w
  | released {path w w'} (number : Nat) : HandedUp transport path w w' →
      HandedUp transport path w (w'.record (.cancelled number w'.now))
  | passed {node path w w'} : node.passesOn = true → HandedUp transport path w w' →
      HandedUp transport (node :: path) w w'
  | remembered {site children path w w'} (history : History) : HandedUp transport path w w' →
      HandedUp transport (.bestConnectedEver site children :: path) w
        (w'.setHistory site history)
  | stored {settings transports child path w w'} (took : Duration) :
      HandedUp transport path w w' →
      HandedUp transport (.cached settings transports child :: path) w
        (w'.storeCache settings transport took)

/-- A node answers with a connection that a leaf below it has made in this poll, and that has
been handed up the path to the node. -/
def Delivers (root : Strategy) (context : Context) (node : Strategy) (c : Context)
    (connection : Connection) (w w' : World) : Prop :=
  ∃ path leaf demands w₁, Strategy.Path node c path leaf demands ∧
    Connects root context leaf demands connection w w₁ ∧
    HandedUp connection.transport path w₁ w'

namespace Unstored

variable {root : Strategy} {context : Context} {a b w : World}

theorem refl (w : World) : Unstored root context w w := ⟨rfl, fun _ _ => .inl rfl⟩

theorem trans {c : World} (hab : Unstored root context a b) (hbc : Unstored root context b c) :
    Unstored root context a c := by
  refine ⟨hbc.histories.trans hab.histories, fun number encrypted => ?_⟩
  rcases hbc.partitions number encrypted with hc | hc
  · rw [hc]
    exact hab.partitions number encrypted
  · exact .inr hc

/-- A change of anything but the memory of races and the caches stores nothing. -/
theorem of_eq (h : Unstored root context a b) (hh : w.histories = b.histories)
    (hc : w.caches = b.caches) : Unstored root context a w := by
  refine ⟨hh.trans h.histories, fun number encrypted => ?_⟩
  rw [World.partition, World.cache, hc]
  exact h.partitions number encrypted

theorem flushed {underCache : Bool} {settings : CacheSettings}
    {transports : List (String × Strategy)} {child : Strategy} {c : Context}
    (h : Unstored root context a b)
    (hr : Strategy.Reaches root context underCache (.cached settings transports child) c) :
    Unstored root context a (b.flushCache settings) := by
  refine h.trans ⟨rfl, fun number encrypted => ?_⟩
  rcases b.partition_put settings.cache settings.encrypted none number encrypted with
    hsame | ⟨rfl, rfl, hnone⟩
  · exact .inl hsame
  · exact .inr ⟨hnone, _, settings, transports, child, c, hr, rfl, rfl⟩

end Unstored

namespace StoredAlong

variable {root : Strategy} {context : Context} {path : List Strategy} {transport : String}
  {w w' : World}

theorem of_unstored (h : Unstored root context w w') :
    StoredAlong root context path transport w w' := by
  refine ⟨fun site _ => by rw [h.histories], fun number encrypted => ?_⟩
  rcases h.partitions number encrypted with hsame | hnone
  · exact .inl hsame
  · exact .inr (.inl hnone)

/-- What is stored along a path is stored along a longer one. -/
theorem cons (h : StoredAlong root context path transport w w') (node : Strategy) :
    StoredAlong root context (node :: path) transport w w' := by
  refine ⟨fun site hsite => h.histories site fun children hm =>
    hsite children (List.mem_cons_of_mem _ hm), fun number encrypted => ?_⟩
  rcases h.partitions number encrypted with hsame | hnone | hstored
  · exact .inl hsame
  · exact .inr (.inl hnone)
  · obtain ⟨settings, transports, child, took, hm, hrest⟩ := hstored
    exact .inr (.inr ⟨settings, transports, child, took, List.mem_cons_of_mem _ hm, hrest⟩)

theorem of_eq (h : StoredAlong root context path transport w w') {w'' : World}
    (hh : w''.histories = w'.histories) (hc : w''.caches = w'.caches) :
    StoredAlong root context path transport w w'' := by
  refine ⟨fun site hsite => by rw [hh]; exact h.histories site hsite, fun number encrypted => ?_⟩
  rw [World.partition, World.cache, hc]
  exact h.partitions number encrypted

theorem remembered (h : StoredAlong root context path transport w w') (site : Site)
    (children : List Strategy) (history : History) :
    StoredAlong root context (.bestConnectedEver site children :: path) transport w
      (w'.setHistory site history) := by
  have hcons := h.cons (.bestConnectedEver site children)
  refine ⟨fun other hother => ?_, hcons.partitions⟩
  have hne : other ≠ site := by
    rintro rfl
    exact hother children List.mem_cons_self
  rw [w'.lookup_setHistory hne]
  exact hcons.histories other hother

theorem stored (h : StoredAlong root context path transport w w') (settings : CacheSettings)
    (transports : List (String × Strategy)) (child : Strategy) (took : Duration)
    (hclock : w'.wallClock = w.wallClock) :
    StoredAlong root context (.cached settings transports child :: path) transport w
      (w'.storeCache settings transport took) := by
  have hcons := h.cons (.cached settings transports child)
  refine ⟨hcons.histories, fun number encrypted => ?_⟩
  rcases w'.partition_put settings.cache settings.encrypted
      (some ⟨w'.wallClock, transport, took.millisWord⟩) number encrypted with
    hsame | ⟨rfl, rfl, hrecord⟩
  · rw [World.storeCache, Cache.store, Cache.storeRecord, hsame]
    exact hcons.partitions number encrypted
  · refine .inr (.inr ⟨settings, transports, child, took.millisWord, List.mem_cons_self, rfl,
      rfl, ?_⟩)
    rw [← hclock]
    exact hrecord

end StoredAlong

/-! ### Polls -/

section

variable {root node : Strategy} {context c : Context}

theorem OpenedAt.grows {w w' : World} {leaf : Leaf} {number : Nat} (hg : Grows w w')
    (h : OpenedAt w c leaf number) : OpenedAt w' c leaf number := by
  obtain ⟨time, hm⟩ := h
  exact ⟨time, hg.subset hm⟩

/-- An event of an open answers nothing. -/
theorem Unanswered.logged {w a b : World} (h : Unanswered root context w a)
    (hm : SameMoment a b) (hg : Grows a b) (hh : b.histories = a.histories)
    (hc : b.caches = a.caches) : Unanswered root context w b :=
  ⟨h.unstored.of_eq hh hc, h.moment.trans hm, h.grows.trans hg⟩

/-- What polls leave behind obeys the laws of custody. -/
theorem footprint_custody (root : Strategy) (context : Context) (w : World) :
    CustodyAt root context OpenedAt (fun w' _ => Unanswered root context w w')
      (fun node c connection w' _ => Delivers root context node c connection w w') where
  kept := OpenedAt.grows
  failed h := h.logged ⟨rfl, rfl, rfl⟩ (List.suffix_cons _ _) rfl rfl
  connected ho h := ⟨_, _, _, _, .leaf, ⟨_, _, _, h, ho, rfl⟩, .leaf⟩
  cancelled h := h.logged ⟨rfl, rfl, rfl⟩ (List.suffix_cons _ _) rfl rfl
  released := by
    rintro node c connection w' number rest ⟨path, leaf, demands, w₁, hpath, hconnects, hup⟩
    exact ⟨path, leaf, demands, w₁, hpath, hconnects, hup.released number⟩
  passed := by
    rintro node c child c' connection w' rest hpasses hd
      ⟨path, leaf, demands, w₁, hpath, hconnects, hup⟩
    exact ⟨_, leaf, demands, w₁, .step hd hpath, hconnects, hup.passed hpasses⟩
  remembered := by
    rintro site children c child c' connection w' rest history hd
      ⟨path, leaf, demands, w₁, hpath, hconnects, hup⟩
    exact ⟨_, leaf, demands, w₁, .step hd hpath, hconnects, hup.remembered history⟩
  opened := by
    intro underCache leaf c w' rest hr hpriority hsupports h
    exact ⟨⟨w'.now, List.mem_cons_self⟩,
      h.logged ⟨rfl, rfl, rfl⟩ (List.suffix_cons _ _) rfl rfl⟩
  stored := by
    rintro underCache settings transports child c node c' connection w' rest hr hd
      ⟨path, leaf, demands, w₁, hpath, hconnects, hup⟩ took
    exact ⟨_, leaf, demands, w₁, .step hd hpath, hconnects, hup.stored took⟩
  flushed hr h :=
    ⟨h.unstored.flushed hr, h.moment.trans ⟨rfl, rfl, rfl⟩, h.grows.trans List.suffix_rfl⟩

/-- A poll of what is in progress stores nothing, unless it connects, and then it stores only
on the path to the leaf that has connected. -/
theorem Strategy.poll_footprint {underCache : Bool} (hr : Reaches root context underCache node c)
    {p : Progress} {w : World} (hp : Holds (OpenedAt w) node c p) :
    Poll.Yields (fun p w' => Holds (OpenedAt w') node c p ∧ Unstored root context w w')
      (Delivers root context node c · w) (fun _ w' => Unstored root context w w')
      (node.poll c p w) := by
  have hstart : Unanswered root context w w := ⟨.refl w, .refl w, List.suffix_rfl⟩
  have hsettles := (footprint_custody root context w).poll node hr p w 0 hp hstart
  exact hsettles.imp (fun p w' h => ⟨h.1, h.2.unstored⟩) (fun connection w' h => h)
    fun e w' h => h.unstored

/-! ### What a success leaves behind -/

/-- Handing a connection up takes no time. -/
theorem HandedUp.moment {transport : String} {path : List Strategy} {w w' : World}
    (h : HandedUp transport path w w') : SameMoment w w' := by
  induction h with
  | leaf => exact .refl _
  | released _ _ ih => exact ih.trans ⟨rfl, rfl, rfl⟩
  | passed _ _ ih => exact ih
  | remembered _ _ ih => exact ih.trans ⟨rfl, rfl, rfl⟩
  | stored _ _ ih => exact ih.trans ⟨rfl, rfl, rfl⟩

theorem HandedUp.grows {transport : String} {path : List Strategy} {w w' : World}
    (h : HandedUp transport path w w') : Grows w w' := by
  induction h with
  | leaf => exact List.suffix_rfl
  | released _ _ ih => exact ih.trans (List.suffix_cons _ _)
  | passed _ _ ih => exact ih
  | remembered _ _ ih => exact ih
  | stored _ _ ih => exact ih

theorem Connects.moment {leaf : Leaf} {demands : Context} {connection : Connection}
    {w w' : World} (h : Connects root context leaf demands connection w w') :
    SameMoment w w' := by
  obtain ⟨before, number, started, hu, -, heq⟩ := h
  obtain ⟨-, rfl⟩ := Prod.mk.inj heq
  exact hu.moment.trans ⟨rfl, rfl, rfl⟩

theorem Connects.unstored {leaf : Leaf} {demands : Context} {connection : Connection}
    {w w' : World} (h : Connects root context leaf demands connection w w') :
    Unstored root context w w' := by
  obtain ⟨before, number, started, hu, -, heq⟩ := h
  obtain ⟨-, rfl⟩ := Prod.mk.inj heq
  exact hu.unstored.of_eq rfl rfl

/-- What is stored since a poll began, when its connection has been handed up a path. -/
theorem HandedUp.storedAlong {transport : String} {path : List Strategy} {w w₁ w' : World}
    (h : HandedUp transport path w₁ w') (hu : Unstored root context w w₁)
    (hm : SameMoment w w₁) : StoredAlong root context path transport w w' := by
  induction h with
  | leaf => exact .of_unstored hu
  | released _ _ ih => exact (ih hu hm).of_eq rfl rfl
  | passed _ _ ih => exact (ih hu hm).cons _
  | remembered history _ ih => exact (ih hu hm).remembered _ _ history
  | stored took hup ih => exact (ih hu hm).stored _ _ _ took (hm.trans hup.moment).wallClock

/-- A connection has been made between two worlds, by an open of a leaf under some demands. -/
structure ConnectedBy (leaf : Leaf) (c : Context) (connection : Connection) (w w' : World) :
    Prop where
  transport : connection.transport = leaf.name
  opened : OpenedAt w' c leaf connection.socket.opened
  connected : ∃ added, w'.log = added ++ w.log ∧
    .connected connection.socket.opened w.now ∈ added

theorem Connects.connectedBy {leaf : Leaf} {demands : Context} {connection : Connection}
    {w w₁ w' : World} (h : Connects root context leaf demands connection w w₁)
    (hg : Grows w₁ w') : ConnectedBy leaf demands connection w w' := by
  obtain ⟨before, number, started, hu, ho, heq⟩ := h
  obtain ⟨rfl, rfl⟩ := Prod.mk.inj heq
  obtain ⟨added, hlog⟩ := hu.grows
  have hc : Grows before (before.connect leaf number started).2 := List.suffix_cons _ _
  have ho := (ho.grows hc).grows hg
  obtain ⟨more, hmore⟩ := hg
  have hsince : w'.log = more ++ .connected number before.now :: added ++ w.log := by
    rw [List.append_assoc, List.cons_append, hlog]
    exact hmore.symm
  refine ⟨rfl, ho, _, hsince, ?_⟩
  rw [← hu.moment.now]
  exact List.mem_append_right _ List.mem_cons_self

end

end Dialplan
