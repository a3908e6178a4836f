import Dialplan.Connect.Attempt

/-! The life of an attempt. Turns of its task, the publication of its result, cancellations and
looks at its handle come in any order. Whatever has happened, an attempt is in one of six stages
(`Stage`), and every step leads from a stage to a stage; what the handle is promised is read off
the stages (`start_promise`). -/

namespace Dialplan.Attempt

/-- What can happen to an attempt. -/
inductive Step where
  /-- The task has a turn. -/
  | turn (w : World)
  /-- The task publishes what its strategy came to. -/
  | publish
  | cancel
  /-- The handle is asked how the attempt stands. -/
  | ask
  /-- The handle is polled for the result. -/
  | poll
  /-- The handle is let go, which cancels the attempt. -/
  | drop

def step (attempt : Attempt) : Step → Attempt
  | .turn w => (attempt.run w).1
  | .publish => attempt.publish
  | .cancel => attempt.cancel
  | .ask => attempt
  | .poll => attempt
  | .drop => attempt.cancel

/-- The attempt after some steps, the first step first. -/
def after (attempt : Attempt) (steps : List Step) : Attempt := steps.foldl step attempt

/-- The poll of the strategy that a turn makes: none, when the task has been told to stop or
has nothing to poll any more. -/
def poll? (attempt : Attempt) (w : World) : Option (Poll Progress × World) :=
  match attempt.task with
  | .running progress =>
    if attempt.aborted then none
    else some (attempt.strategy.poll attempt.context progress w)
  | _ => none

/-- What the strategy answered in a step, if it was polled. -/
def answer? (attempt : Attempt) : Step → Option (Poll Progress)
  | .turn w => (attempt.poll? w).map Prod.fst
  | _ => none

/-- What the strategy answered when it was polled, in order. -/
def answers : Attempt → List Step → List (Poll Progress)
  | _, [] => []
  | attempt, step :: rest => (attempt.answer? step).toList ++ (attempt.step step).answers rest

theorem after_append (attempt : Attempt) (steps later : List Step) :
    attempt.after (steps ++ later) = (attempt.after steps).after later :=
  List.foldl_append

theorem after_cons (attempt : Attempt) (step : Step) (steps : List Step) :
    attempt.after (step :: steps) = (attempt.step step).after steps := rfl

/-- What the strategy has in progress after these answers. -/
def left (answers : List (Poll Progress)) : Progress :=
  match answers.getLast? with
  | some (.pending progress) => progress
  | _ => .unstarted

@[simp] theorem left_concat (answers : List (Poll Progress)) (progress : Progress) :
    left (answers ++ [.pending progress]) = progress := by
  rw [left, List.getLast?_concat]

/-! ### Stages -/

/-- How an attempt can stand, with the answers of its strategy so far. -/
inductive Stage (strategy : Strategy) (context : Context) :
    Attempt → List (Poll Progress) → Prop where
  | running {answers} :
      (∀ result, .ready result ∉ answers) →
      Stage strategy context
        ⟨strategy, context, .pending, false, .running (left answers), .empty⟩ answers
  | finished {result answers} :
      (∀ other, .ready other ∈ answers ↔ other = result) →
      Stage strategy context
        ⟨strategy, context, .pending, false, .finished result, .empty⟩ answers
  | resolved {result answers} :
      (∀ other, .ready other ∈ answers ↔ other = result) →
      Stage strategy context
        ⟨strategy, context, .resolved, false, .ended, .sent result⟩ answers
  /-- It was cancelled while the strategy ran. -/
  | halted {progress answers} :
      Stage strategy context
        ⟨strategy, context, .cancelled, true, .running progress, .empty⟩ answers
  /-- It was cancelled when its result was not yet published. -/
  | late {result answers} :
      Stage strategy context
        ⟨strategy, context, .cancelled, true, .finished result, .empty⟩ answers
  | closed {answers} :
      Stage strategy context ⟨strategy, context, .cancelled, true, .ended, .closed⟩ answers

section

variable {strategy : Strategy} {context : Context} {attempt : Attempt}
  {answers : List (Poll Progress)}

theorem Stage.start (strategy : Strategy) (context : Context) :
    Stage strategy context (start strategy context) [] :=
  @Stage.running strategy context [] nofun

/-- Every step leads from a stage to a stage. -/
theorem Stage.step (h : Stage strategy context attempt answers) (step : Step) :
    Stage strategy context (attempt.step step) (answers ++ (attempt.answer? step).toList) := by
  cases step with
  | turn w =>
    cases h with
    | running hnone =>
      simp only [Attempt.step, run, answer?, poll?, Bool.false_eq_true, if_false]
      cases strategy.poll context (left answers) w with
      | mk answer w' =>
        cases answer with
        | pending p =>
          have hrunning : Stage strategy context _ (answers ++ [.pending p]) :=
            .running (by simpa using hnone)
          rwa [left_concat] at hrunning
        | ready result =>
          refine .finished fun other => ?_
          simp [hnone other]
    | finished hresult => simpa [Attempt.step, run, answer?, poll?] using .finished hresult
    | resolved hresult => simpa [Attempt.step, run, answer?, poll?] using .resolved hresult
    | halted => exact .closed
    | late => exact .late
    | closed => exact .closed
  | publish =>
    simp only [answer?, Option.toList_none, List.append_nil]
    cases h with
    | running hnone => exact .running hnone
    | finished hresult => exact .resolved hresult
    | resolved hresult => exact .resolved hresult
    | halted => exact .halted
    | late => exact .closed
    | closed => exact .closed
  | cancel | drop =>
    simp only [answer?, Option.toList_none, List.append_nil]
    cases h with
    | running _ => exact .halted
    | finished _ => exact .late
    | resolved hresult => exact .resolved hresult
    | halted => exact .halted
    | late => exact .late
    | closed => exact .closed
  | ask | poll =>
    simp only [answer?, Option.toList_none, List.append_nil]
    exact h

/-- Steps lead from a stage to a stage. -/
theorem Stage.after (h : Stage strategy context attempt answers) (steps : List Step) :
    Stage strategy context (attempt.after steps) (answers ++ attempt.answers steps) := by
  induction steps generalizing attempt answers with
  | nil => simpa [Attempt.after, Attempt.answers] using h
  | cons step rest ih =>
    rw [after_cons, Attempt.answers, ← List.append_assoc]
    exact ih (h.step step)

end

/-! ### Attempts that are decided -/

/-- Is the step a cancellation? -/
def Step.cancels : Step → Bool
  | .cancel => true
  | .drop => true
  | _ => false

theorem cancel_state_ne (attempt : Attempt) : attempt.cancel.state ≠ .pending := by
  unfold cancel
  split
  · exact nofun
  · assumption

theorem cancel_of_state_ne {attempt : Attempt} (h : attempt.state ≠ .pending) :
    attempt.cancel = attempt := if_neg h

theorem run_state (attempt : Attempt) (w : World) : (attempt.run w).1.state = attempt.state := by
  unfold run
  split
  · split
    · rfl
    · split <;> rfl
  · rfl

theorem step_state {attempt : Attempt} (h : attempt.state ≠ .pending) (step : Step) :
    (attempt.step step).state = attempt.state := by
  cases step with
  | turn w => exact run_state attempt w
  | publish =>
    show attempt.publish.state = attempt.state
    unfold publish
    split
    · rw [if_neg h]
    · rfl
  | cancel | drop => exact congrArg Attempt.state (cancel_of_state_ne h)
  | ask | poll => rfl

/-- An attempt that has been resolved or cancelled stays so. -/
theorem after_state {attempt : Attempt} (h : attempt.state ≠ .pending) (later : List Step) :
    (attempt.after later).state = attempt.state := by
  induction later generalizing attempt with
  | nil => rfl
  | cons step rest ih =>
    have hs := step_state h step
    rw [after_cons, ih (hs ▸ h), hs]

/-- Once an attempt is decided, cancellations can be left out. -/
theorem after_filter {attempt : Attempt} (h : attempt.state ≠ .pending) (later : List Step) :
    attempt.after later = attempt.after (later.filter fun step => !step.cancels) := by
  induction later generalizing attempt with
  | nil => rfl
  | cons step rest ih =>
    have hs : (attempt.step step).state ≠ .pending := (step_state h step).symm ▸ h
    rw [after_cons, ih hs]
    cases step with
    | cancel | drop =>
      show (attempt.cancel).after _ = _
      rw [cancel_of_state_ne h]
      rfl
    | turn w => rfl
    | publish | ask | poll => rfl

/-- When the task of a decided attempt has ended, nothing changes any more. -/
theorem after_of_ended {attempt : Attempt} (h : attempt.state ≠ .pending)
    (he : attempt.task = .ended) (later : List Step) : attempt.after later = attempt := by
  induction later with
  | nil => rfl
  | cons step rest ih =>
    have hstep : attempt.step step = attempt := by
      cases step with
      | turn w =>
        show (attempt.run w).1 = attempt
        rw [run, he]
      | publish =>
        show attempt.publish = attempt
        rw [publish, he]
      | cancel | drop => exact cancel_of_state_ne h
      | ask | poll => rfl
    rw [after_cons, hstep, ih]

/-! ### Attempts that are not cancelled -/

/-- Only a cancellation leads to a cancelled attempt. -/
theorem step_uncancelled {attempt : Attempt} (h : attempt.state ≠ .cancelled) {step : Step}
    (hs : step.cancels = false) : (attempt.step step).state ≠ .cancelled := by
  cases step with
  | turn w =>
    show (attempt.run w).1.state ≠ .cancelled
    rwa [run_state]
  | publish =>
    show attempt.publish.state ≠ .cancelled
    unfold publish
    split
    · split
      · exact nofun
      · exact h
    · exact h
  | cancel | drop => cases hs
  | ask | poll => exact h

theorem after_uncancelled {attempt : Attempt} (h : attempt.state ≠ .cancelled) {steps : List Step}
    (hs : ∀ step ∈ steps, step.cancels = false) : (attempt.after steps).state ≠ .cancelled := by
  induction steps generalizing attempt with
  | nil => exact h
  | cons step rest ih =>
    obtain ⟨hstep, hrest⟩ := List.forall_mem_cons.mp hs
    exact ih (step_uncancelled h hstep) hrest

/-! ### Cancelled attempts -/

/-- The task has nothing to poll any more. -/
def Idle (attempt : Attempt) : Prop := ∀ progress, attempt.task ≠ .running progress

theorem Idle.step {attempt : Attempt} (h : attempt.Idle) (step : Step) :
    (attempt.step step).Idle := by
  cases step with
  | turn w =>
    show (attempt.run w).1.Idle
    unfold run
    split
    · rename_i progress hp
      exact absurd hp (h progress)
    · exact h
  | publish =>
    show attempt.publish.Idle
    unfold publish
    split
    · split <;> exact nofun
    · exact h
  | cancel | drop =>
    show attempt.cancel.Idle
    unfold cancel
    split
    · exact h
    · exact h
  | ask | poll => exact h

theorem Idle.after {attempt : Attempt} (h : attempt.Idle) (later : List Step) :
    (attempt.after later).Idle := by
  induction later generalizing attempt with
  | nil => exact h
  | cons step rest ih => exact ih (h.step step)

namespace Stage

variable {strategy : Strategy} {context : Context} {attempt : Attempt}
  {answers : List (Poll Progress)}

theorem delivers (h : Stage strategy context attempt answers) (result : Except Error Connection) :
    attempt.channel = .sent result ↔
      attempt.isResolved = true ∧ .ready result ∈ answers := by
  cases h with
  | @resolved published _ hresult =>
    rw [hresult result]
    constructor
    · rintro ⟨⟩
      exact ⟨rfl, rfl⟩
    · rintro ⟨-, rfl⟩
      rfl
  | running _ | finished _ | halted | late | closed => exact ⟨nofun, fun hr => (nomatch hr.1)⟩

theorem unresolved (h : Stage strategy context attempt answers) (hr : attempt.isResolved = false) :
    attempt.result? = none ∨
      attempt.result? = some (.error .cancelled) ∧ attempt.isCancelled = true := by
  cases h with
  | running _ | finished _ | halted | late => exact .inl rfl
  | closed => exact .inr ⟨rfl, rfl⟩
  | resolved _ => cases hr

theorem resolved_ended (h : Stage strategy context attempt answers)
    (hr : attempt.isResolved = true) : attempt.task = .ended ∧
      ∃ result, attempt.result? = some result ∧ .ready result ∈ answers := by
  cases h with
  | @resolved result _ hresult => exact ⟨rfl, result, rfl, (hresult result).mpr rfl⟩
  | running _ | finished _ | halted | late | closed => cases hr

/-- As long as its strategy has no result, an attempt that is not cancelled is pending, and a
turn of its task polls the strategy on. -/
theorem polls (h : Stage strategy context attempt answers) (hu : attempt.state ≠ .cancelled)
    (hnone : ∀ result, .ready result ∉ answers) :
    attempt.state = .pending ∧
      ∀ w, attempt.poll? w = some (strategy.poll context (left answers) w) ∧
        (attempt.run w).2 = (strategy.poll context (left answers) w).2 := by
  cases h with
  | running _ =>
    refine ⟨rfl, fun w => ⟨rfl, ?_⟩⟩
    simp only [run, Bool.false_eq_true, if_false]
    rcases strategy.poll context (left answers) w with ⟨answer, w'⟩
    cases answer <;> rfl
  | finished hresult | resolved hresult => exact absurd ((hresult _).mpr rfl) (hnone _)
  | halted | late | closed => exact absurd rfl hu

/-- When its strategy has a result, an attempt that is not cancelled publishes it. -/
theorem publishes (h : Stage strategy context attempt answers) (hu : attempt.state ≠ .cancelled)
    {result : Except Error Connection} (hready : .ready result ∈ answers) :
    (attempt.step .publish).isResolved = true ∧
      (attempt.step .publish).result? = some result := by
  cases h with
  | running hnone => exact absurd hready (hnone result)
  | finished hresult | resolved hresult =>
    obtain rfl := (hresult result).mp hready
    exact ⟨rfl, rfl⟩
  | halted | late | closed => exact absurd rfl hu

/-- A cancelled attempt yields nothing but its cancellation. -/
theorem withheld (h : Stage strategy context attempt answers) (hc : attempt.state = .cancelled) :
    attempt.result? = none ∨ attempt.result? = some (.error .cancelled) := by
  cases h with
  | halted | late => exact .inl rfl
  | closed => exact .inr rfl
  | running _ | finished _ | resolved _ => cases hc

/-- The strategy of a cancelled attempt is not polled. -/
theorem unpolled (h : Stage strategy context attempt answers) (hc : attempt.state = .cancelled)
    (w : World) : attempt.poll? w = none ∧
      ((attempt.run w).2 = w ∨ (attempt.run w).2 = attempt.progress.abandon w) := by
  cases h with
  | halted => exact ⟨rfl, .inr rfl⟩
  | late | closed => exact ⟨rfl, .inl rfl⟩
  | running _ | finished _ | resolved _ => cases hc

/-- A turn of a cancelled attempt leaves its task with nothing to poll. -/
theorem idle_turn (h : Stage strategy context attempt answers) (hc : attempt.state = .cancelled)
    (w : World) : (attempt.step (.turn w)).Idle := by
  cases h with
  | halted | late | closed => exact nofun
  | running _ | finished _ | resolved _ => cases hc

/-- A cancelled attempt whose task has nothing to poll ends without a result. -/
theorem publish_idle (h : Stage strategy context attempt answers) (hc : attempt.state = .cancelled)
    (hi : attempt.Idle) :
    (attempt.step .publish).task = .ended ∧ (attempt.step .publish).state = .cancelled ∧
      (attempt.step .publish).result? = some (.error .cancelled) := by
  cases h with
  | halted => exact absurd rfl (hi _)
  | late | closed => exact ⟨rfl, rfl, rfl⟩
  | running _ | finished _ | resolved _ => cases hc

/-- Once the task of a cancelled attempt has had a turn and has gone on to publish, the attempt
yields its cancellation. -/
theorem closes (h : Stage strategy context attempt answers) (hc : attempt.state = .cancelled)
    (w : World) (between later : List Step) :
    ((attempt.after (.turn w :: between)).after (.publish :: later)).result? =
      some (.error .cancelled) := by
  have hstate := (after_state (by rw [hc]; exact nofun) (.turn w :: between)).trans hc
  have hstage := h.after (.turn w :: between)
  have hidle := (h.idle_turn hc w).after between
  obtain ⟨hended, hpublished, hresult⟩ := hstage.publish_idle hstate hidle
  rw [after_cons, after_of_ended (by rw [hpublished]; exact nofun) hended, hresult]

end Stage

/-! ### Promises -/

/-- What is promised of an attempt, after these steps and these answers of its strategy, whatever
happens later. -/
structure Promise (strategy : Strategy) (context : Context) (steps : List Step) (attempt : Attempt)
    (answers : List (Poll Progress)) : Prop where
  /-- As long as no step has cancelled it and its strategy has no result, it is pending, and a turn
  of its task polls the strategy on from what this has left in progress. -/
  running : (∀ step ∈ steps, step.cancels = false) → (∀ result, .ready result ∉ answers) →
    attempt.state = .pending ∧
      ∀ w, attempt.poll? w = some (strategy.poll context (left answers) w) ∧
        (attempt.run w).2 = (strategy.poll context (left answers) w).2
  /-- When its strategy has a result and no step has cancelled it, it is resolved and yields this
  result as soon as its task has gone on to publish. -/
  published : (∀ step ∈ steps, step.cancels = false) → ∀ result, .ready result ∈ answers →
    ∀ later, (attempt.after (.publish :: later)).isResolved = true ∧
      (attempt.after (.publish :: later)).result? = some result
  /-- Once it has been resolved or cancelled, it stays so. -/
  final : attempt.state ≠ .pending → ∀ later, (attempt.after later).state = attempt.state
  /-- What the handle receives is what the strategy came to, and it receives it exactly if the
  attempt has been resolved. -/
  delivers : ∀ result, attempt.channel = .sent result ↔
    attempt.isResolved = true ∧ .ready result ∈ answers
  /-- Once it has been resolved, the handle yields the result, and nothing changes that. -/
  resolved : attempt.isResolved = true → (∃ result, attempt.result? = some result ∧
    .ready result ∈ answers) ∧ ∀ later, attempt.after later = attempt
  /-- As long as it has not been resolved, the handle yields no result but a cancellation. -/
  unresolved : attempt.isResolved = false → attempt.result? = none ∨
    attempt.result? = some (.error .cancelled) ∧ attempt.isCancelled = true
  /-- Once it has been cancelled, no connection is ever delivered. -/
  withheld : attempt.isCancelled = true → ∀ later connection,
    (attempt.after later).result? ≠ some (.ok connection)
  /-- Once it has been cancelled, waiting for it yields the cancellation as soon as its task has
  had a turn and has gone on to publish. -/
  cancelled : attempt.isCancelled = true → ∀ before w between later,
    (attempt.after (before ++ .turn w :: between ++ .publish :: later)).result? =
      some (.error .cancelled)
  /-- To cancel it again, or to let go of its handle, changes nothing. -/
  idempotent : ∀ later, attempt.cancel.after later =
    attempt.cancel.after (later.filter fun step => !step.cancels)
  /-- After a cancellation that took effect, the strategy is never polled again: a turn of the
  task changes nothing, or gives up what is in progress. -/
  unpolled : attempt.state = .pending → ∀ later w, (attempt.cancel.after later).poll? w = none ∧
    (((attempt.cancel.after later).run w).2 = w ∨
      ((attempt.cancel.after later).run w).2 =
        (attempt.cancel.after later).progress.abandon w)

/-- Every attempt keeps its promises, after any steps in any order. -/
theorem start_promise (strategy : Strategy) (context : Context) (steps : List Step) :
    Promise strategy context steps ((start strategy context).after steps)
      ((start strategy context).answers steps) := by
  have h := (Stage.start strategy context).after steps
  rw [List.nil_append] at h
  have hspared : (∀ step ∈ steps, step.cancels = false) →
      ((start strategy context).after steps).state ≠ .cancelled :=
    after_uncancelled (show State.pending ≠ .cancelled from nofun)
  generalize (start strategy context).after steps = attempt at h hspared ⊢
  generalize (start strategy context).answers steps = answers at h ⊢
  have hcancelled : attempt.isCancelled = true → attempt.state = .cancelled := of_decide_eq_true
  have hlater : attempt.state = .cancelled → ∀ later, (attempt.after later).state = .cancelled :=
    fun hc later => (after_state (by rw [hc]; exact nofun) later).trans hc
  refine ⟨fun hs => h.polls (hspared hs), ?_, after_state, h.delivers, ?_, h.unresolved, ?_, ?_,
    after_filter attempt.cancel_state_ne, ?_⟩
  · intro hs result hready later
    have hpublished := h.publishes (hspared hs) hready
    have hended := ((h.step .publish).resolved_ended hpublished.1).1
    rwa [after_cons, after_of_ended ?_ hended]
    rw [of_decide_eq_true hpublished.1]
    exact nofun
  · intro hr
    obtain ⟨hended, hresult⟩ := h.resolved_ended hr
    refine ⟨hresult, after_of_ended ?_ hended⟩
    rw [of_decide_eq_true hr]
    exact nofun
  · intro hc later connection hresult
    have hw := (h.after later).withheld (hlater (hcancelled hc) later)
    rw [hresult] at hw
    exact hw.elim nofun nofun
  · intro hc before w between later
    rw [after_append, after_append]
    exact (h.after before).closes (hlater (hcancelled hc) before) w between later
  · intro hp later w
    have hstate : attempt.cancel.state = .cancelled := by rw [cancel, if_pos hp]
    have hstage := (h.step .cancel).after later
    refine hstage.unpolled ?_ w
    exact (after_state attempt.cancel_state_ne later).trans hstate

/-- The transport of an attempt. -/
def tunnel : Strategy := .transport ⟨"a", "a", 0, 0, [], none⟩

/-- The transport connects after a second. -/
def tunnelWorld : World :=
  .initial 0 [⟨"a", true, true, .scripted [.connect (Duration.ofMillis 1000)]⟩] []

/-- The world in which the second is over. -/
def tunnelLater : World :=
  { (tunnel.poll .plain .unstarted tunnelWorld).2 with now := Duration.ofMillis 1000 }

/-- The connection that is made then. -/
def tunnelMade : Connection := ⟨1, "a", 0, Duration.ofMillis 1000, ⟨"a", 1⟩⟩

/-- An attempt that is left alone is pending after the first turn of its task, connects in the
second, and its handle yields the connection when the task has gone on to publish. -/
theorem start_promise_connected :
    ((start tunnel .plain).after [.turn tunnelWorld]).state = .pending ∧
      ((start tunnel .plain).after
        [.turn tunnelWorld, .turn tunnelLater, .publish]).isResolved = true ∧
      ((start tunnel .plain).after
        [.turn tunnelWorld, .turn tunnelLater, .publish]).result? = some (.ok tunnelMade) := by
  have hopening : (start tunnel .plain).answers [.turn tunnelWorld] =
      [.pending (.opening 1 0 (some (⟨Duration.ofMillis 1000, 0⟩, none)))] := rfl
  have hrunning := (start_promise tunnel .plain [.turn tunnelWorld]).running (by decide)
  have hmade := (start_promise tunnel .plain [.turn tunnelWorld, .turn tunnelLater]).published
    (by decide) (.ok tunnelMade) (.tail _ (.head _)) []
  refine ⟨(hrunning ?_).1, hmade⟩
  rw [hopening]
  simp

end Dialplan.Attempt
