import Dialplan.Connect.Poll

/-! Sequences. Children are tried one at a time in order, each under the current bound;
after each try the bound grows. A sequence that starts over first lets everything else
run.

The sequence is independent of what its children are: a child is a function that polls
its state in some world. -/

namespace Dialplan.Sequence

inductive Phase (σ : Type) where
  /-- A child is being tried, up to its deadline. -/
  | trying (deadline : Option Timer) (state : σ)
  /-- The child has failed, and the rest of its time is waited out. -/
  | waitingOut (timer : Timer)
  /-- Every child has failed, and the first is about to be tried again. -/
  | rewound

structure State (σ : Type) where
  /-- The child that is tried, or is to be tried. -/
  index : Nat
  bound : Option Duration
  /-- What the tries of this round failed with, in order. -/
  failures : List Error
  phase : Phase σ

/-- What a sequence needs to know of its children and of the moment of the poll. -/
structure Setting (σ ω : Type) where
  options : SequentialOptions
  count : Nat
  /-- The kind of a child's node. -/
  kind : Nat → String
  /-- Polls a child. -/
  child : Nat → σ → ω → Poll σ × ω
  /-- The state of a child that starts. -/
  start : σ
  /-- Gives up a child in progress. -/
  abandon : σ → ω → ω
  now : Instant
  turn : Nat

variable {σ ω : Type}

/-- Starts the try of a child. -/
def begin (setting : Setting σ ω) (index : Nat) (bound : Option Duration)
    (failures : List Error) : State σ :=
  ⟨index, bound, failures,
    .trying (bound.map fun b => ⟨setting.now + b, setting.turn⟩) setting.start⟩

/-- What follows a try that did not connect. -/
inductive Next (σ : Type) where
  | proceed (state : State σ)
  | pause (state : State σ)
  | lost (failures : List Error)

/-- Goes on after a failed try: to the next child, back to the first, or to the end. -/
def next (setting : Setting σ ω) (state : State σ) : Next σ :=
  let bound := setting.options.nextBound state.bound
  if state.index + 1 < setting.count then
    .proceed (begin setting (state.index + 1) bound state.failures)
  else if setting.options.looping then .pause ⟨0, bound, [], .rewound⟩
  else .lost state.failures

/-- The failure of a child that ran out of time. -/
def outOfTime (setting : Setting σ ω) (state : State σ) : Error :=
  .timeout (setting.kind state.index ++ " sub-strategy")
    (Duration.millisWord (state.bound.getD 0))

/-- What one try comes to within a poll. -/
inductive Try (σ : Type) where
  | waiting (state : State σ)
  | connected (connection : Connection)
  | failed (state : State σ)

/-- Polls the child that is being tried. It is polled before its deadline is looked at, so
a result at the deadline counts. -/
def tryOnce (setting : Setting σ ω) (state : State σ) (deadline : Option Timer) (s : σ)
    (w : ω) : Try σ × ω :=
  match setting.child state.index s w with
  | (.ready (.ok connection), w) => (.connected connection, w)
  | (.ready (.error e), w) =>
    let state := { state with failures := state.failures ++ [e] }
    match deadline with
    | some timer =>
      if setting.options.failFast || timer.isDue setting.now then (.failed state, w)
      else
        (.waiting { state with phase := .waitingOut ⟨timer.deadline, setting.turn⟩ }, w)
    | none => (.failed state, w)
  | (.pending s, w) =>
    match deadline with
    | some timer =>
      if timer.isDue setting.now then
        (.failed { state with failures := state.failures ++ [outOfTime setting state] },
          setting.abandon s w)
      else (.waiting { state with phase := .trying deadline s }, w)
    | none => (.waiting { state with phase := .trying deadline s }, w)

/-- Runs the sequence on from a state. -/
def run (setting : Setting σ ω) : Nat → State σ → ω → Poll (State σ) × ω
  | 0, state, w => (.pending state, w)
  | fuel + 1, state, w =>
    let go (state : State σ) (w : ω) : Poll (State σ) × ω :=
      match next setting state with
      | .proceed state => run setting fuel state w
      | .pause state => (.pending state, w)
      | .lost failures => (.ready (.error (.allFailed failures)), w)
    match state.phase with
    | .trying deadline s =>
      match tryOnce setting state deadline s w with
      | (.waiting state, w) => (.pending state, w)
      | (.connected connection, w) => (.ready (.ok connection), w)
      | (.failed state, w) => go state w
    | .waitingOut timer =>
      if timer.isDue setting.now then go state w else (.pending state, w)
    | .rewound => run setting fuel (begin setting 0 state.bound state.failures) w

/-- Polls a sequence. A poll tries each child at most once and then lets others run, so
the number of children bounds its steps. -/
def poll (setting : Setting σ ω) (state : State σ) (w : ω) : Poll (State σ) × ω :=
  run setting (setting.count + 2) state w

/-- The first poll; a sequence without children has failed. -/
def first (setting : Setting σ ω) (w : ω) : Poll (State σ) × ω :=
  if setting.count = 0 then (.ready (.error (.allFailed [])), w)
  else poll setting (begin setting 0 setting.options.firstBound []) w

end Dialplan.Sequence
