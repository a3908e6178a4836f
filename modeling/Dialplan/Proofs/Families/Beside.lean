import Dialplan.Proofs.Families.Basic
import Dialplan.Proofs.Lockstep.Trees
import Dialplan.Proofs.Stores.Footprint
import Dialplan.Proofs.Build.Nodes

/-! A family with and without the other. Two worlds are compared, one that a family shares with
the other family and one that it has for itself (`Beside`). A poll of a strategy of the family
does the same in both (`lockstep_own`), and a poll of a strategy of the other family leaves them as
they are to each other (`lockstep_other`). -/

namespace Dialplan

open List (Forall₂)

/-! ### Answers to opens -/

/-- How the mechanism of a leaf answers an open of it with some number, when a number of other
opens come first. -/
def World.answerAfter (w : World) (leaf : Leaf) (encrypted : Bool) (earlier number : Nat) :
    Behaviour :=
  ((w.mechanisms[leaf.mechanism]?).map fun mechanism =>
    (Mechanism.afterOpen^[earlier] mechanism).answer
      ⟨leaf.name, leaf.key, encrypted, leaf.options⟩ number).getD .hang

theorem World.openTransport_fst (w : World) (leaf : Leaf) (encrypted : Bool) :
    (w.openTransport leaf encrypted).1 = w.answerAfter leaf encrypted 0 (w.opens + 1) := rfl

/-- An open comes before the later ones of its mechanism. -/
theorem World.answerAfter_openTransport (w : World) (opened : Leaf) (demand : Bool) (leaf : Leaf)
    (encrypted : Bool) (earlier number : Nat) :
    (w.openTransport opened demand).2.answerAfter leaf encrypted earlier number =
      w.answerAfter leaf encrypted
        (if opened.mechanism = leaf.mechanism then earlier + 1 else earlier) number := by
  unfold answerAfter openTransport
  dsimp only
  rw [List.getElem?_modify]
  split
  · cases w.mechanisms[leaf.mechanism]? with
    | none => rfl
    | some mechanism => rfl
  · cases w.mechanisms[leaf.mechanism]? with
    | none => rfl
    | some mechanism => rfl

theorem Mechanism.kind_afterOpen (mechanism : Mechanism) :
    mechanism.afterOpen.kind = mechanism.kind := by
  unfold afterOpen
  split <;> rfl

theorem World.kind_openTransport (w : World) (leaf : Leaf) (encrypted : Bool) :
    (w.openTransport leaf encrypted).2.kind = w.kind := by
  funext number
  show ((w.mechanisms.modify leaf.mechanism Mechanism.afterOpen)[number]?.map _).getD "" =
    (w.mechanisms[number]?.map _).getD ""
  rw [List.getElem?_modify]
  cases w.mechanisms[number]? with
  | none => rfl
  | some mechanism =>
    split
    · exact mechanism.kind_afterOpen
    · rfl

/-! ### Worlds -/

/-- A node of a strategy of one of the builds of a family. -/
def Owned (plans : List Built) (family : Bool) (node : Strategy) : Prop :=
  ∃ built ∈ plans, built.options.encrypted = family ∧ Strategy.Within node built.strategy

/-- The cached nodes of a family use the partitions of the family. -/
theorem Owned.encrypted {plans : List Built} {family : Bool} {settings : CacheSettings}
    {transports : List (String × Strategy)} {child : Strategy}
    (h : Owned plans family (.cached settings transports child)) : settings.encrypted = family := by
  obtain ⟨built, -, rfl, hw⟩ := h
  exact ((Builder.build_made built.made).settings hw).1

/-- A family sees the same in two worlds, the second of which it has for itself: the same moment,
the same support and answers for its leaves, and the same contents of its partitions and of the
memories of its races. -/
structure Beside (plans : List Built) (family : Bool) (w w' : World) : Prop where
  now : w'.now = w.now
  turn : w'.turn = w.turn
  epoch : w'.epoch = w.epoch
  supports : w'.supports = w.supports
  kind : w'.kind = w.kind
  answers : ∀ leaf, Owned plans family (.transport leaf) → ∀ encrypted earlier n n',
    w'.answerAfter leaf encrypted earlier n' = w.answerAfter leaf encrypted earlier n
  /-- A mechanism that serves both families gives each leaf the same answer every time. -/
  steady : ∀ leaf other, Owned plans family (.transport leaf) →
    Owned plans (!family) (.transport other) → other.mechanism = leaf.mechanism →
    ∀ encrypted earlier n,
      w'.answerAfter leaf encrypted earlier n = w'.answerAfter leaf encrypted 0 n
  cacheCount : w'.caches.length = w.caches.length
  partition : ∀ number, w'.partition number family = w.partition number family
  histories : ∀ site children, Owned plans family (.bestConnectedEver site children) →
    w'.histories.lookup site = w.histories.lookup site

/-- No race belongs to both families. -/
def Unshared (plans : List Built) : Prop :=
  ∀ site children children', Owned plans true (.bestConnectedEver site children) →
    ¬ Owned plans false (.bestConnectedEver site children')

theorem Unshared.ne {plans : List Built} (h : Unshared plans) {family : Bool} {site site' : Site}
    {children children' : List Strategy}
    (hs : Owned plans family (.bestConnectedEver site children))
    (hs' : Owned plans (!family) (.bestConnectedEver site' children')) : site ≠ site' := by
  rintro rfl
  cases family with
  | true => exact h site children children' hs hs'
  | false => exact h site children' children hs' hs

namespace Beside

variable {plans : List Built} {family : Bool} {w w' : World}

theorem wallClock (h : Beside plans family w w') : w'.wallClock = w.wallClock := by
  unfold World.wallClock
  rw [h.now, h.epoch]

theorem history (h : Beside plans family w w') {site : Site} {children : List Strategy}
    (hs : Owned plans family (.bestConnectedEver site children)) (count : Nat) :
    w'.history site count = w.history site count := by
  rw [World.history, World.history, h.histories site children hs]

/-- The family opens a leaf in both worlds. -/
theorem opened (h : Beside plans family w w') (leaf : Leaf) (encrypted : Bool) :
    Beside plans family (w.openTransport leaf encrypted).2
      (w'.openTransport leaf encrypted).2 := by
  refine { h with supports := ?_, kind := ?_, answers := ?_, steady := ?_ }
  · rw [World.supports_openTransport, World.supports_openTransport, h.supports]
  · rw [World.kind_openTransport, World.kind_openTransport, h.kind]
  · intro inner hinner demand earlier n n'
    rw [World.answerAfter_openTransport, World.answerAfter_openTransport]
    exact h.answers inner hinner demand _ n n'
  · intro inner other hinner hother hm demand earlier n
    rw [World.answerAfter_openTransport, World.answerAfter_openTransport]
    exact (h.steady inner other hinner hother hm demand _ n).trans
      (h.steady inner other hinner hother hm demand _ n).symm

/-- The other family opens a leaf in the world that they share. -/
theorem opened_other (h : Beside plans family w w') {other : Leaf}
    (hother : Owned plans (!family) (.transport other)) (encrypted : Bool) :
    Beside plans family (w.openTransport other encrypted).2 w' := by
  refine { h with supports := ?_, kind := ?_, answers := ?_ }
  · rw [World.supports_openTransport, h.supports]
  · rw [World.kind_openTransport, h.kind]
  · intro leaf hleaf demand earlier n n'
    rw [World.answerAfter_openTransport]
    split
    · rename_i hm
      have hsteady := h.steady leaf other hleaf hother hm demand
      calc w'.answerAfter leaf demand earlier n'
          = w'.answerAfter leaf demand 0 n' := hsteady earlier n'
        _ = w'.answerAfter leaf demand (earlier + 1) n' := (hsteady (earlier + 1) n').symm
        _ = w.answerAfter leaf demand (earlier + 1) n :=
          h.answers leaf hleaf demand (earlier + 1) n n'
    · exact h.answers leaf hleaf demand earlier n n'

/-- The family sets its partition of a cache in both worlds. -/
theorem put (h : Beside plans family w w') (number : Nat) (cached : Option CacheRecord) :
    Beside plans family (w.setCache number ((w.cache number).put family cached))
      (w'.setCache number ((w'.cache number).put family cached)) := by
  refine { h with cacheCount := ?_, partition := ?_ }
  · exact List.length_set.trans (h.cacheCount.trans List.length_set.symm)
  · intro other
    by_cases hlt : number < w.caches.length
    · have hlt' : number < w'.caches.length := h.cacheCount ▸ hlt
      by_cases hother : other = number
      · subst hother
        exact (World.fetch_setCache_put hlt' family cached).trans
          (World.fetch_setCache_put hlt family cached).symm
      · have hspares (w : World) :
            (w.setCache number ((w.cache number).put family cached)).partition other family =
              w.partition other family := (Spares.put w cached).others other family (.inl hother)
        rw [hspares, hspares, h.partition other]
    · have hle : w.caches.length ≤ number := Nat.le_of_not_lt hlt
      rw [World.setCache_of_le hle, World.setCache_of_le (h.cacheCount ▸ hle)]
      exact h.partition other

/-- The other family sets its partition in the world that they share. -/
theorem put_other (h : Beside plans family w w') (number : Nat) (cached : Option CacheRecord) :
    Beside plans family (w.setCache number ((w.cache number).put (!family) cached)) w' := by
  refine { h with cacheCount := ?_, partition := ?_ }
  · exact h.cacheCount.trans List.length_set.symm
  · intro other
    have hspares : Spares number (!family) w
        (w.setCache number ((w.cache number).put (!family) cached)) := .put w cached
    exact (h.partition other).trans (hspares.others other family (.inr (by simp))).symm

/-- The family remembers a race in both worlds. -/
theorem remembered (h : Beside plans family w w') (site : Site) (history : History) :
    Beside plans family (w.setHistory site history) (w'.setHistory site history) := by
  refine { h with histories := ?_ }
  intro other children hother
  by_cases hs : other = site
  · subst hs
    simp [World.setHistory]
  · rw [World.lookup_setHistory _ hs, World.lookup_setHistory _ hs]
    exact h.histories other children hother

/-- The other family remembers a race in the world that they share. -/
theorem remembered_other (h : Beside plans family w w') (hshare : Unshared plans) {site : Site}
    {children : List Strategy}
    (hsite : Owned plans (!family) (.bestConnectedEver site children)) (history : History) :
    Beside plans family (w.setHistory site history) w' := by
  refine { h with histories := ?_ }
  intro other children' hother
  rw [World.lookup_setHistory _ (hshare.ne hother hsite)]
  exact h.histories other children' hother

end Beside

/-! ### Polls -/

/-- Two connections that differ in nothing but what they are numbered by. -/
structure Connection.Renumbered (f : Nat → Nat) (connection connection' : Connection) : Prop where
  transport : connection'.transport = connection.transport
  priority : connection'.priority = connection.priority
  latency : connection'.latency = connection.latency
  kind : connection'.socket.kind = connection.socket.kind
  opened : connection.socket.opened = f connection'.socket.opened

/-- The same thing has happened to opens whose numbers correspond. -/
inductive Event.Renumbered (f : Nat → Nat) : Event → Event → Prop where
  | opened {number leaf request time} :
      Renumbered f (.opened (f number) leaf request time) (.opened number leaf request time)
  | connected {number time} : Renumbered f (.connected (f number) time) (.connected number time)
  | failed {number time} : Renumbered f (.failed (f number) time) (.failed number time)
  | cancelled {number time} : Renumbered f (.cancelled (f number) time) (.cancelled number time)

/-- Within a poll that began in two worlds, both have made as many opens, and have done the same
to opens whose numbers correspond. -/
structure InTurn (plans : List Built) (family : Bool) (f : Nat → Nat) (w₀ w₀' w w' : World) : Prop
    extends Beside plans family w w' where
  opens : ∃ count, w.opens = w₀.opens + count ∧ w'.opens = w₀'.opens + count
  log : ∃ events events', w.log = events ++ w₀.log ∧ w'.log = events' ++ w₀'.log ∧
    Forall₂ (Event.Renumbered f) events events'

namespace InTurn

variable {plans : List Built} {family : Bool} {f : Nat → Nat} {w₀ w₀' w w' : World}

theorem refl (h : Beside plans family w₀ w₀') : InTurn plans family f w₀ w₀' w₀ w₀' :=
  { h with opens := ⟨0, rfl, rfl⟩, log := ⟨[], [], rfl, rfl, .nil⟩ }

/-- Something happens to opens whose numbers correspond. -/
theorem record (h : InTurn plans family f w₀ w₀' w w') {event event' : Event}
    (he : Event.Renumbered f event event') :
    InTurn plans family f w₀ w₀' (w.record event) (w'.record event') := by
  obtain ⟨events, events', hlog, hlog', hevents⟩ := h.log
  refine { h with log := ⟨event :: events, event' :: events', ?_, ?_, .cons he hevents⟩ }
  · rw [World.record, hlog]
    rfl
  · rw [World.record, hlog']
    rfl

theorem opened (h : InTurn plans family f w₀ w₀' w w')
    (hf : ∀ count, f (w₀'.opens + (count + 1)) = w₀.opens + (count + 1)) (leaf : Leaf)
    (encrypted : Bool) :
    w.opens + 1 = f (w'.opens + 1) ∧
      InTurn plans family f w₀ w₀' (w.openTransport leaf encrypted).2
        (w'.openTransport leaf encrypted).2 := by
  obtain ⟨count, hopens, hopens'⟩ := h.opens
  obtain ⟨events, events', hlog, hlog', hevents⟩ := h.log
  have hnumber : w.opens + 1 = f (w'.opens + 1) := by
    rw [hopens, hopens', Nat.add_assoc, Nat.add_assoc]
    exact (hf count).symm
  refine ⟨hnumber, { h.toBeside.opened leaf encrypted with opens := ⟨count + 1, ?_, ?_⟩, log := ?_ }⟩
  · exact congrArg (· + 1) hopens
  · exact congrArg (· + 1) hopens'
  · have hevent : Event.Renumbered f
        (.opened (w.opens + 1) leaf ⟨leaf.name, leaf.key, encrypted, leaf.options⟩ w.now)
        (.opened (w'.opens + 1) leaf ⟨leaf.name, leaf.key, encrypted, leaf.options⟩ w'.now) := by
      rw [hnumber, h.now]
      exact .opened
    exact ⟨_ :: events, _ :: events', congrArg (List.cons _) hlog, congrArg (List.cons _) hlog',
      .cons hevent hevents⟩

end InTurn

section

variable {plans : List Built} {built : Built} {context : Context} {f : Nat → Nat}

/-- The nodes that an attempt comes to are of its family. -/
theorem Strategy.Reaches.owned {node : Strategy} {c : Context} {underCache : Bool}
    (h : Strategy.Reaches built.strategy context underCache node c) (hm : built ∈ plans)
    {family : Bool} (hfamily : built.options.encrypted = family) : Owned plans family node :=
  ⟨built, hm, hfamily, h.within⟩

/-- A strategy of the family is polled in step in two worlds, one of which the family has for
itself. -/
theorem lockstep_own {family : Bool} (hm : built ∈ plans)
    (hfamily : built.options.encrypted = family) {w₀ w₀' : World}
    (hf : ∀ count, f (w₀'.opens + (count + 1)) = w₀.opens + (count + 1)) :
    LockstepAt built.strategy context (fun _ => False) (fun n n' => n = f n')
      (Connection.Renumbered f) Eq (InTurn plans family f w₀ w₀') where
  now h := h.now
  turn h := h.turn
  wallClock h := h.wallClock
  failed := by
    rintro w w' _ n h rfl
    rw [World.fail, World.fail, h.now]
    exact h.record .failed
  cancelled := by
    rintro w w' _ n h rfl
    rw [h.now]
    exact h.record .cancelled
  transport h := h.transport
  latency h := h.latency
  priority h := h.priority
  same _ := rfl
  all h := congrArg Error.allFailed (eq_of_forall₂ (fun _ _ h => h) h)
  supports h := h.supports
  unsupporting _ := nofun
  refused := nofun
  opened := by
    intro underCache leaf c hr w w' h
    obtain ⟨hnumber, hopened⟩ := h.opened hf leaf c.encrypted
    refine ⟨?_, hnumber, hopened⟩
    rw [World.openTransport_fst, World.openTransport_fst]
    exact h.answers leaf (hr.owned hm hfamily) c.encrypted 0 _ _
  connected := by
    rintro underCache leaf c hr w w' _ n started h rfl
    refine ⟨⟨rfl, rfl, ?_, ?_, rfl⟩, ?_⟩
    · exact congrArg (· - started) h.now
    · exact congrFun h.kind leaf.mechanism
    · have hevent : Event.Renumbered f (.connected (f n) w.now) (.connected n w'.now) := by
        rw [h.now]
        exact .connected
      exact { h.record hevent with }
  history hr _ _ h := h.history (hr.owned hm hfamily) _
  remembered _ _ _ history h := { h with toBeside := h.toBeside.remembered _ history }
  recorded hr _ _ h := by
    rw [(hr.owned hm hfamily).encrypted]
    exact h.partition _
  stored := by
    intro underCache settings transports child c hr w w' transport took h
    have hencrypted := (hr.owned hm hfamily).encrypted
    have hput := h.put settings.cache (some ⟨w.wallClock, transport, took.millisWord⟩)
    rw [World.storeCache, World.storeCache, Cache.store, Cache.store, hencrypted, h.wallClock]
    exact { h with toBeside := hput }
  flushed := by
    intro underCache settings transports child c hr w w' h
    have hencrypted := (hr.owned hm hfamily).encrypted
    rw [World.flushCache, World.flushCache, Cache.flush, Cache.flush, hencrypted]
    exact { h with toBeside := h.put settings.cache none }

/-- A strategy of the other family leaves the worlds as they are to each other. -/
theorem lockstep_other {family : Bool} (hm : built ∈ plans)
    (hfamily : built.options.encrypted = !family) (hshare : Unshared plans) (w' : World) :
    LockstepAt built.strategy context (fun _ => False) Eq Eq Eq
      (fun a b => b = a ∧ Beside plans family a w') where
  now h := h.1 ▸ rfl
  turn h := h.1 ▸ rfl
  wallClock h := h.1 ▸ rfl
  failed := by
    rintro w _ n _ ⟨rfl, h⟩ rfl
    exact ⟨rfl, { h with }⟩
  cancelled := by
    rintro w _ n _ ⟨rfl, h⟩ rfl
    exact ⟨rfl, { h with }⟩
  transport h := h ▸ rfl
  latency h := h ▸ rfl
  priority h := h ▸ rfl
  same _ := rfl
  all h := congrArg Error.allFailed (eq_of_forall₂ (fun _ _ h => h) h)
  supports h := h.1 ▸ rfl
  unsupporting _ := nofun
  refused := nofun
  opened := by
    rintro underCache leaf c hr w _ ⟨rfl, h⟩
    exact ⟨rfl, rfl, rfl, h.opened_other (hr.owned hm hfamily) c.encrypted⟩
  connected := by
    rintro underCache leaf c hr w _ n _ started ⟨rfl, h⟩ rfl
    exact ⟨rfl, rfl, { h with }⟩
  history _ _ _ h := h.1 ▸ rfl
  remembered := by
    rintro underCache site children c hr w _ history ⟨rfl, h⟩
    exact ⟨rfl, h.remembered_other hshare (hr.owned hm hfamily) history⟩
  recorded _ _ _ h := h.1 ▸ rfl
  stored := by
    rintro underCache settings transports child c hr w _ transport took ⟨rfl, h⟩
    have hencrypted := (hr.owned hm hfamily).encrypted
    refine ⟨rfl, ?_⟩
    rw [World.storeCache, Cache.store, hencrypted]
    exact h.put_other _ _
  flushed := by
    rintro underCache settings transports child c hr w _ ⟨rfl, h⟩
    have hencrypted := (hr.owned hm hfamily).encrypted
    refine ⟨rfl, ?_⟩
    rw [World.flushCache, Cache.flush, hencrypted]
    exact h.put_other _ _

end

end Dialplan
