import Dialplan.Proofs.Polling.Frame

/-! Partitions of caches. The nodes of a tree whose cached nodes share one partition leave all
others as they are (`spares_frame`). -/

namespace Dialplan

namespace World

theorem cache_setCache_self {w : World} {number : Nat} (h : number < w.caches.length)
    (cache : Cache) : (w.setCache number cache).cache number = cache := by
  simp [World.cache, setCache, h]

theorem cache_setCache_ne (w : World) {number other : Nat} (h : other ≠ number)
    (cache : Cache) : (w.setCache number cache).cache other = w.cache other := by
  simp [World.cache, setCache, List.getElem?_set_ne (Ne.symm h)]

theorem setCache_of_le {w : World} {number : Nat} (h : w.caches.length ≤ number)
    (cache : Cache) : w.setCache number cache = w := by
  simp [setCache, List.set_eq_of_length_le h]

/-- What a partition holds after it has been set. -/
theorem fetch_setCache_put {w : World} {number : Nat} (h : number < w.caches.length)
    (encrypted : Bool) (cached : Option CacheRecord) :
    ((w.setCache number ((w.cache number).put encrypted cached)).cache number).fetch encrypted =
      cached := by
  rw [cache_setCache_self h, Cache.fetch_put_self]

end World

/-- All partitions but one are the same in two worlds. -/
structure Spares (number : Nat) (encrypted : Bool) (w w' : World) : Prop where
  length : w'.caches.length = w.caches.length
  others : ∀ other demand, other ≠ number ∨ demand ≠ encrypted →
    (w'.cache other).fetch demand = (w.cache other).fetch demand

namespace Spares

variable {number : Nat} {encrypted : Bool}

theorem refl (w : World) : Spares number encrypted w w := ⟨rfl, fun _ _ _ => rfl⟩

theorem trans {a b c : World} (hab : Spares number encrypted a b)
    (hbc : Spares number encrypted b c) : Spares number encrypted a c :=
  ⟨hbc.length.trans hab.length,
    fun other demand h => (hbc.others other demand h).trans (hab.others other demand h)⟩

theorem of_caches_eq {w w' : World} (h : w'.caches = w.caches) : Spares number encrypted w w' := by
  refine ⟨by rw [h], fun other demand _ => ?_⟩
  rw [World.cache, World.cache, h]

theorem put (w : World) (cached : Option CacheRecord) :
    Spares number encrypted w
      (w.setCache number ((w.cache number).put encrypted cached)) := by
  refine ⟨List.length_set, fun other demand h => ?_⟩
  by_cases hother : other = number
  · subst hother
    obtain rfl : demand = !encrypted := by
      rcases h with h | h
      · exact absurd rfl h
      · exact Bool.eq_not.mpr h
    by_cases hlt : other < w.caches.length
    · rw [World.cache_setCache_self hlt, Cache.fetch_put_other]
    · rw [World.setCache_of_le (Nat.le_of_not_lt hlt)]
  · rw [World.cache_setCache_ne w hother]

end Spares

/-- No cache is added, and none goes away. -/
theorem cacheCount_frame (root : Strategy) (context : Context) :
    FrameAt root context fun w w' => w'.caches.length = w.caches.length where
  refl _ := rfl
  trans hab hbc := hbc.trans hab
  connected _ _ _ _ := rfl
  failed _ _ := rfl
  cancelled _ _ := rfl
  remembered _ _ _ := rfl
  opened _ _ _ _ := rfl
  stored _ _ _ _ := List.length_set
  flushed _ _ := List.length_set

/-- A tree whose cached nodes share one partition spares all others. -/
theorem spares_frame {root : Strategy} {number : Nat} {encrypted : Bool} (context : Context)
    (h : ∀ {settings transports child}, Strategy.Within (.cached settings transports child) root →
      settings.encrypted = encrypted ∧ settings.cache = number) :
    FrameAt root context (Spares number encrypted) where
  refl := Spares.refl
  trans := Spares.trans
  connected _ _ _ _ := .of_caches_eq rfl
  failed _ _ := .of_caches_eq rfl
  cancelled _ _ := .of_caches_eq rfl
  remembered _ _ _ := .of_caches_eq rfl
  opened _ _ _ _ := .of_caches_eq rfl
  stored hr w transport took := by
    obtain ⟨rfl, rfl⟩ := h hr.within
    exact .put w _
  flushed hr w := by
    obtain ⟨rfl, rfl⟩ := h hr.within
    exact .put w _

end Dialplan
