import Dialplan.Connect.Sequence

/-! Tries of sequences. A sequence shows only what it comes to, so the child that is tried is
watched: every poll of it, and its being given up, is written down as a sight. What the sights of
one try are (`Tried`), of tries that came to nothing (`InVain`), and of a whole sequence
(`Account`) is said here without the sequence's own state. -/

namespace Dialplan

namespace SequentialOptions

/-- The bound of a try; tries are numbered from zero through all rounds. -/
def boundOf (options : SequentialOptions) : Nat → Option Duration
  | 0 => options.firstBound
  | k + 1 => options.nextBound (options.boundOf k)

/-- Every bound is a number of milliseconds that fits into a word. -/
theorem boundOf_eq_ofMillis {options : SequentialOptions} {k : Nat} {b : Duration}
    (h : options.boundOf k = some b) : ∃ ms : UInt64, b = Duration.ofMillis ms.toNat := by
  induction k generalizing b with
  | zero =>
    unfold boundOf firstBound at h
    split at h
    · rename_i ms _
      split at h
      · cases h
      · exact ⟨ms, (Option.some.inj h).symm⟩
    · cases h
  | succ k ih =>
    unfold boundOf nextBound boundLimit at h
    split at h
    · rename_i bound limit hbound hlimit
      obtain ⟨ms, rfl⟩ := ih hbound
      obtain ⟨most, -, rfl⟩ := Option.map_eq_some_iff.mp hlimit
      obtain rfl := Option.some.inj h
      have hlt : min (ms.toNat * 2) most.toNat < UInt64.size :=
        Nat.lt_of_le_of_lt (Nat.min_le_right _ _) most.toNat_lt
      refine ⟨UInt64.ofNat (min (ms.toNat * 2) most.toNat), ?_⟩
      rw [UInt64.toNat_ofNat_of_lt' hlt, Duration.ofMillis, Duration.ofMillis, Duration.ofMillis,
        Nat.mul_right_comm]
      exact Nat.mul_min_mul_right _ _ _
    · exact ih h

theorem millisWord_boundOf {options : SequentialOptions} {k : Nat} {b : Duration}
    (h : options.boundOf k = some b) : Duration.ofMillis (Duration.millisWord b).toNat = b := by
  obtain ⟨ms, rfl⟩ := boundOf_eq_ofMillis h
  rw [Duration.millisWord, Duration.millis_ofMillis, UInt64.ofNat_toNat]

end SequentialOptions

namespace Sequence

variable {σ ω : Type}

/-- What is seen of the children of a sequence. -/
inductive Sight (σ : Type) where
  /-- A child is polled: when, in which state, and what it answers. -/
  | polled (child : Nat) (now : Instant) (state : σ) (answer : Poll σ)
  /-- A child in progress is given up. -/
  | abandoned (state : σ)

/-- A sequence whose children are watched, the latest sight last. -/
def Setting.watched (setting : Setting σ ω) : Setting σ (ω × List (Sight σ)) where
  options := setting.options
  count := setting.count
  kind := setting.kind
  child i s w :=
    ((setting.child i s w.1).1, (setting.child i s w.1).2,
      w.2 ++ [.polled i setting.now s (setting.child i s w.1).1])
  start := setting.start
  abandon s w := (setting.abandon s w.1, w.2 ++ [.abandoned s])
  now := setting.now
  turn := setting.turn

@[simp] theorem Setting.watched_options (setting : Setting σ ω) :
    setting.watched.options = setting.options := rfl

@[simp] theorem Setting.watched_now (setting : Setting σ ω) :
    setting.watched.now = setting.now := rfl

@[simp] theorem Setting.watched_child (setting : Setting σ ω) (i : Nat) (s : σ) (w : ω)
    (log : List (Sight σ)) : setting.watched.child i s (w, log) =
      ((setting.child i s w).1, (setting.child i s w).2,
        log ++ [.polled i setting.now s (setting.child i s w).1]) := rfl

@[simp] theorem Setting.watched_abandon (setting : Setting σ ω) (s : σ) (w : ω)
    (log : List (Sight σ)) :
    setting.watched.abandon s (w, log) = (setting.abandon s w, log ++ [.abandoned s]) := rfl

/-- How a try stands. -/
inductive Ending (σ : Type) where
  | running (state : σ)
  | connected (connection : Connection)
  | failed (e : Error)
  | outOfTime

/-- What a poll of the child leads to: what is seen after it, and how the try stands then. The
child is given up exactly if it has no answer when its time is over. -/
inductive Leads (isOver : Prop) : Poll σ → List (Sight σ) → Ending σ → Prop where
  | waits {s} : ¬ isOver → Leads isOver (.pending s) [] (.running s)
  | outOfTime {s} : isOver → Leads isOver (.pending s) [.abandoned s] .outOfTime
  | connected {connection} : Leads isOver (.ready (.ok connection)) [] (.connected connection)
  | failed {e} : Leads isOver (.ready (.error e)) [] (.failed e)

/-- The sights of one try of a child, which began at some time under some bound. The child is
polled from its start on, each time in the state that it was left in. -/
inductive Tried (start : σ) (child : Nat) (began : Instant) (bound : Option Duration) :
    List (Sight σ) → Ending σ → Prop where
  | begun : Tried start child began bound [] (.running start)
  | polled {sights s now answer more ending} :
      Tried start child began bound sights (.running s) → (sights = [] → now = began) →
      Leads (∃ b ∈ bound, began + b ≤ now) answer more ending →
      Tried start child began bound (sights ++ .polled child now s answer :: more) ending

/-- The failure that a try comes to: the child's own, or a timeout that names the kind of the
child and the milliseconds of the bound. -/
inductive Failure (kind : String) (bound : Option Duration) : Ending σ → Error → Prop where
  | own {e} : Failure kind bound (.failed e) e
  | timeout {ms : UInt64} : bound = some (Duration.ofMillis ms.toNat) →
      Failure kind bound .outOfTime (.timeout (kind ++ " sub-strategy") ms)

section

variable (options : SequentialOptions) (count : Nat) (kind : Nat → String) (start : σ)

/-- Tries that all came to nothing, one after the other, with the failure of each. The tries go
through the children in order, round after round, and each has its bound. -/
inductive InVain : List Error → List (Sight σ) → Prop where
  | nil : InVain [] []
  | snoc {failures log began sights ending e} : InVain failures log →
      Tried start (failures.length % count) began (options.boundOf failures.length) sights
        ending →
      Failure (kind (failures.length % count)) (options.boundOf failures.length) ending e →
      InVain (failures ++ [e]) (log ++ sights)

/-- May there be one more try after some failures? Only a sequence that starts over has more
tries than children. -/
def HasTry (failures : List Error) : Prop :=
  options.looping = true ∨ failures.length < count

/-- The last try of a sequence, after tries that came to nothing. -/
structure LastTry (failures : List Error) (log : List (Sight σ)) (began : Instant)
    (sights : List (Sight σ)) (ending : Ending σ) : Prop where
  inVain : InVain options count kind start failures log
  hasTry : HasTry options count failures
  tried : Tried start (failures.length % count) began (options.boundOf failures.length) sights
    ending

/-- The account of a sequence that is polled at a time: what it has come to, and the sights of
its children. All tries but the last came to nothing. -/
inductive Account (now : Instant) : Poll (State σ) → List (Sight σ) → Prop where
  /-- The last try is in progress, and its child has just been polled. -/
  | trying {failures log began sights s s' index bound booked deadline} :
      LastTry options count kind start failures log began
        (sights ++ [.polled (failures.length % count) now s (.pending s')]) (.running s') →
      Account now (.pending ⟨index, bound, booked, .trying deadline s'⟩)
        (log ++ (sights ++ [.polled (failures.length % count) now s (.pending s')]))
  /-- The child that was tried last has failed before its time was over, and unless the
  sequence is to go on at once, the rest of it is waited out. -/
  | waitingOut {failures log began sights e b index bound booked timer} :
      LastTry options count kind start failures log began sights (.failed e) →
      options.failFast = false → options.boundOf failures.length = some b → now < began + b →
      Account now (.pending ⟨index, bound, booked, .waitingOut timer⟩) (log ++ sights)
  /-- A round is over, and the sequence lets others run until its next visit, which starts over. -/
  | rewound {failures log index bound booked} :
      InVain options count kind start failures log → options.looping = true → failures ≠ [] →
      failures.length % count = 0 →
      Account now (.pending ⟨index, bound, booked, .rewound⟩) log
  /-- The last try has connected. -/
  | connected {failures log began sights connection} :
      LastTry options count kind start failures log began sights (.connected connection) →
      Account now (.ready (.ok connection)) (log ++ sights)
  /-- Every child has been tried once in vain. -/
  | exhausted {failures log} :
      InVain options count kind start failures log → options.looping = false →
      failures.length = count →
      Account now (.ready (.error (.allFailed failures))) log

end

end Sequence

end Dialplan
