import Dialplan.Proofs.Sequence.Tries

/-! What the sights of the children of a sequence look like. A child is only started when none
is in progress (`OneAtATime`), and no sight but the last one shows a connection (`Unwon`). Both
hold of every try, of tries in vain, and so of every account. -/

namespace Dialplan.Sequence

variable {σ : Type}

namespace Sight

/-- The connection that a child answers with. -/
def connection? : Sight σ → Option Connection
  | polled _ _ _ (.ready (.ok connection)) => some connection
  | _ => none

/-- The child that is in progress after a sight, and its state. -/
def left? : Sight σ → Option (Nat × σ)
  | polled child _ _ (.pending s) => some (child, s)
  | _ => none

/-- May a sight be the next one? If nothing is in progress, it is the first of a child; and
otherwise it is of what is in progress. -/
def Follows (start : σ) : Option (Nat × σ) → Sight σ → Prop
  | none, polled _ _ s _ => s = start
  | none, abandoned _ => False
  | some (i, s), polled child _ s' _ => child = i ∧ s' = s
  | some (_, s), abandoned s' => s' = s

end Sight

/-- The child that is in progress after more sights. -/
def inProgress (child : Option (Nat × σ)) (sights : List (Sight σ)) : Option (Nat × σ) :=
  sights.foldl (fun _ sight => sight.left?) child

/-- At most one child is in progress at any time: one is started only when none is, and until
it is over nothing else is seen. -/
def OneAtATime (start : σ) : Option (Nat × σ) → List (Sight σ) → Prop
  | _, [] => True
  | child, sight :: rest => sight.Follows start child ∧ OneAtATime start sight.left? rest

/-- No child has connected. -/
def Unwon (sights : List (Sight σ)) : Prop := ∀ sight ∈ sights, sight.connection? = none

theorem inProgress_append (child : Option (Nat × σ)) (log more : List (Sight σ)) :
    inProgress child (log ++ more) = inProgress (inProgress child log) more :=
  List.foldl_append

theorem oneAtATime_append {start : σ} : ∀ (log : List (Sight σ)) {more : List (Sight σ)}
    {child : Option (Nat × σ)}, OneAtATime start child (log ++ more) ↔
      OneAtATime start child log ∧ OneAtATime start (inProgress child log) more
  | [], _, _ => (and_iff_right trivial).symm
  | sight :: log, more, child => by
    rw [List.cons_append, OneAtATime, OneAtATime, oneAtATime_append log, and_assoc]
    rfl

/-- What is in progress as a try stands; nothing, before its child was polled. -/
def Ending.inProgress (child : Nat) (sights : List (Sight σ)) : Ending σ → Option (Nat × σ)
  | .running s => if sights.isEmpty then none else some (child, s)
  | _ => none

section

variable {start : σ} {child : Nat} {began : Instant} {bound : Option Duration}
  {sights : List (Sight σ)} {ending : Ending σ}

/-- A child that has not been polled yet is to be started. -/
theorem Tried.state_eq {s : σ} (h : Tried start child began bound [] (.running s)) : s = start := by
  generalize hs : ([] : List (Sight σ)) = sights at h
  cases h with
  | begun => rfl
  | polled => simp at hs

/-- While a child is tried only this child is in progress, and then nothing is. -/
theorem Tried.oneAtATime (h : Tried start child began bound sights ending) :
    OneAtATime start none sights ∧
      Sequence.inProgress none sights = ending.inProgress child sights := by
  induction h with
  | begun => exact ⟨trivial, rfl⟩
  | @polled sights s now answer more ending ht _ hleads ih =>
    obtain ⟨hone, hnow⟩ := ih
    have hfollows : (Sight.polled child now s answer).Follows start
        (Sequence.inProgress none sights) := by
      rw [hnow]
      cases sights with
      | nil => exact ht.state_eq
      | cons sight rest => exact ⟨rfl, rfl⟩
    rw [oneAtATime_append, inProgress_append]
    cases hleads with
    | waits _ =>
      exact ⟨⟨hone, hfollows, trivial⟩,
        by simp [Ending.inProgress, Sequence.inProgress, Sight.left?]⟩
    | outOfTime _ => exact ⟨⟨hone, hfollows, rfl, trivial⟩, rfl⟩
    | connected => exact ⟨⟨hone, hfollows, trivial⟩, rfl⟩
    | failed => exact ⟨⟨hone, hfollows, trivial⟩, rfl⟩

/-- As long as a child has not connected, the sights show no connection; and when it has, the
last one shows it. -/
theorem Tried.unwon (h : Tried start child began bound sights ending) :
    match ending with
    | .connected connection => ∃ earlier now s,
        sights = earlier ++ [.polled child now s (.ready (.ok connection))] ∧ Unwon earlier
    | _ => Unwon sights := by
  induction h with
  | begun => exact nofun
  | @polled sights s now answer more ending ht _ hleads ih =>
    have ih : Unwon sights := ih
    cases hleads with
    | connected => exact ⟨sights, now, s, rfl, ih⟩
    | waits _ => exact List.forall_mem_append.mpr ⟨ih, by simp [Sight.connection?]⟩
    | outOfTime _ => exact List.forall_mem_append.mpr ⟨ih, by simp [Sight.connection?]⟩
    | failed => exact List.forall_mem_append.mpr ⟨ih, by simp [Sight.connection?]⟩

end

variable {options : SequentialOptions} {count : Nat} {kind : Nat → String} {start : σ}

theorem InVain.oneAtATime {failures : List Error} {log : List (Sight σ)}
    (h : InVain options count kind start failures log) :
    OneAtATime start none log ∧ inProgress none log = none := by
  induction h with
  | nil => exact ⟨trivial, rfl⟩
  | snoc _ ht hf ih =>
    obtain ⟨hone, hnow⟩ := ht.oneAtATime
    rw [oneAtATime_append, inProgress_append, ih.2]
    refine ⟨⟨ih.1, hone⟩, ?_⟩
    cases hf with
    | own => exact hnow
    | timeout _ => exact hnow

theorem InVain.unwon {failures : List Error} {log : List (Sight σ)}
    (h : InVain options count kind start failures log) : Unwon log := by
  induction h with
  | nil => exact nofun
  | snoc _ ht hf ih =>
    have hu := ht.unwon
    cases hf with
    | own => exact List.forall_mem_append.mpr ⟨ih, hu⟩
    | timeout _ => exact List.forall_mem_append.mpr ⟨ih, hu⟩

section

variable {failures : List Error} {log sights : List (Sight σ)} {began : Instant} {ending : Ending σ}

theorem LastTry.oneAtATime
    (h : LastTry options count kind start failures log began sights ending) :
    OneAtATime start none (log ++ sights) := by
  obtain ⟨hone, hnone⟩ := h.inVain.oneAtATime
  rw [oneAtATime_append, hnone]
  exact ⟨hone, h.tried.oneAtATime.1⟩

/-- If the child of the last try has connected, the last sight shows it, and no other one. -/
theorem LastTry.unwon (h : LastTry options count kind start failures log began sights ending) :
    match ending with
    | .connected connection => ∃ earlier child now s,
        log ++ sights = earlier ++ [.polled child now s (.ready (.ok connection))] ∧ Unwon earlier
    | _ => Unwon (log ++ sights) := by
  have hv := h.inVain.unwon
  have ht := h.tried.unwon
  cases ending with
  | connected connection =>
    obtain ⟨earlier, now, s, rfl, hu⟩ := ht
    exact ⟨log ++ earlier, _, now, s, (List.append_assoc _ _ _).symm,
      List.forall_mem_append.mpr ⟨hv, hu⟩⟩
  | running s => exact List.forall_mem_append.mpr ⟨hv, ht⟩
  | failed e => exact List.forall_mem_append.mpr ⟨hv, ht⟩
  | outOfTime => exact List.forall_mem_append.mpr ⟨hv, ht⟩

end

namespace Account

variable {now : Instant} {answer : Poll (State σ)} {log : List (Sight σ)}

theorem oneAtATime (h : Account options count kind start now answer log) :
    OneAtATime start none log := by
  cases h with
  | trying h => exact h.oneAtATime
  | waitingOut h _ _ _ => exact h.oneAtATime
  | rewound hv _ _ _ => exact hv.oneAtATime.1
  | connected h => exact h.oneAtATime
  | exhausted hv _ _ => exact hv.oneAtATime.1

/-- Either no child has connected, or the last sight is of one that has. -/
theorem won (h : Account options count kind start now answer log) :
    (Unwon log ∧ ∀ connection, answer ≠ .ready (.ok connection)) ∨
      ∃ earlier child now s connection, Unwon earlier ∧ answer = .ready (.ok connection) ∧
        log = earlier ++ [.polled child now s (.ready (.ok connection))] := by
  cases h with
  | trying h => exact .inl ⟨h.unwon, nofun⟩
  | waitingOut h _ _ _ => exact .inl ⟨h.unwon, nofun⟩
  | rewound hv _ _ _ => exact .inl ⟨hv.unwon, nofun⟩
  | connected h =>
    obtain ⟨earlier, child, now, s, hlog, hu⟩ := h.unwon
    exact .inr ⟨earlier, child, now, s, _, hu, rfl, hlog⟩
  | exhausted hv _ _ => exact .inl ⟨hv.unwon, nofun⟩

theorem endless (h : Account options count kind start now answer log)
    (hl : options.looping = true) (e : Error) : answer ≠ .ready (.error e) := by
  rintro rfl
  cases h with
  | exhausted _ hn _ =>
    rw [hl] at hn
    cases hn

end Account

end Dialplan.Sequence
