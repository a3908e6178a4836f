import Dialplan.Connect.Attempt

/-! Sessions: attempts run side by side under a clock that stands still while anything
can run and then jumps to the next moment waited for, rounded up to a millisecond.

Tasks run in the order they are woken. Waits that end in the same millisecond wake
tasks in the order in which the waits began, and tasks that stopped to let others run
are woken last in, first out. What the session itself waits for is looked at before
any task runs. -/

namespace Dialplan

structure Session where
  world : World
  /-- Attempts by number. -/
  tasks : List (Nat × Attempt)
  /-- The numbers of the attempts that have a handle, by its name. -/
  handles : Table Nat
  /-- The number of the next attempt. -/
  fresh : Nat
  /-- Tasks that are to run, in order. -/
  ready : List Nat
  /-- Tasks that let others run first, latest first. -/
  yielded : List Nat

namespace Session

def start (world : World) : Session := ⟨world, [], [], 0, [], []⟩

def task? (s : Session) (number : Nat) : Option Attempt := s.tasks.lookup number

def setTask (s : Session) (number : Nat) (attempt : Attempt) : Session :=
  { s with tasks := s.tasks.map fun entry =>
      if entry.1 = number then (number, attempt) else entry }

/-- Puts a task in line to run, once. -/
def wake (s : Session) (number : Nat) : Session :=
  if s.ready.contains number then s else { s with ready := s.ready ++ [number] }

/-- Counts a turn. -/
def nextTurn (s : Session) : Session :=
  { s with world := { s.world with turn := s.world.turn + 1 } }

/-! ### Handles -/

/-- Cancels an attempt; its task is woken to notice. -/
def cancelTask (s : Session) (number : Nat) : Session :=
  match s.task? number with
  | some attempt =>
    let s := s.setTask number attempt.cancel
    if attempt.state = .pending then s.wake number else s
  | none => s

/-- Lets go of a handle, which cancels its attempt. -/
def drop (s : Session) (name : String) : Session :=
  match Table.find s.handles name with
  | some number => { s with handles := Table.remove s.handles name }.cancelTask number
  | none => s

/-- Starts an attempt under a name; a handle of that name is let go. -/
def spawn (s : Session) (name : String) (strategy : Strategy) (context : Context) : Session :=
  let number := s.fresh
  let s := { s with
    tasks := s.tasks ++ [(number, Attempt.start strategy context)]
    fresh := number + 1
    ready := s.ready ++ [number] }
  let s := s.drop name
  { s with handles := Table.put s.handles name number }

/-- The attempt under a name. -/
def attempt? (s : Session) (name : String) : Option Attempt :=
  (Table.find s.handles name).bind s.task?

/-- Cancels the attempt under a name. -/
def cancel (s : Session) (name : String) : Session :=
  match Table.find s.handles name with
  | some number => s.cancelTask number
  | none => s

/-! ### Running tasks -/

/-- Runs one task; a task that only lets others run is put aside. -/
def runTask (s : Session) (number : Nat) : Session :=
  match s.task? number with
  | some attempt =>
    let s := s.nextTurn
    let (attempt, world) := attempt.run s.world
    let attempt := attempt.publish
    let s := { s with world := world }.setTask number attempt
    if attempt.progress.isYielding then { s with yielded := number :: s.yielded } else s
  | none => s

/-- Runs every task that is in line, and forgets those that have ended without a handle. -/
def drain (s : Session) : Session :=
  let line := s.ready
  let s := line.foldl runTask { s with ready := [] }
  { s with tasks := s.tasks.filter fun (number, attempt) =>
      !attempt.hasEnded || s.handles.any fun handle => handle.2 = number }

/-- Puts the tasks that were put aside back in line. -/
def resume (s : Session) : Session :=
  s.yielded.foldl wake { s with yielded := [] }

/-- Runs everything that can run now, in as many rounds as given. -/
def settle (s : Session) : Nat → Session
  | 0 => s
  | rounds + 1 => settle s.drain.resume rounds

/-! ### The clock -/

/-- The earliest millisecond in which one of the waits ends. -/
def earliest (timers : List Timer) : Option Nat :=
  (timers.map fun timer => Duration.millisUp timer.deadline).min?

/-- The turn in which the first began of the waits that end by a millisecond. -/
def firstTurn? (tick : Nat) (timers : List Timer) : Option Nat :=
  ((timers.filter fun timer => Duration.millisUp timer.deadline ≤ tick).map Timer.turn).min?

/-- Moves the clock to a millisecond and wakes the tasks whose waits end. -/
def advanceTo (s : Session) (tick : Nat) : Session :=
  let woken := s.tasks.filterMap fun (number, attempt) =>
    (firstTurn? tick attempt.progress.timers).map fun turn => (turn, number)
  let order := (woken.mergeSort fun a b => a.1 ≤ b.1).map Prod.snd
  order.foldl wake { s with world := { s.world with now := Duration.ofMillis tick } }

/-! ### Waiting -/

/-- What the session itself waits for, besides the end of its time. -/
inductive Goal where
  /-- A connection of a strategy that the session runs itself. -/
  | connect (strategy : Strategy) (context : Context) (progress : Progress)
  /-- The result of an attempt. -/
  | attempt (number : Nat)
  | nothing

namespace Goal

def timers : Goal → List Timer
  | connect _ _ progress => progress.timers
  | _ => []

def isYielding : Goal → Bool
  | connect _ _ progress => progress.isYielding
  | _ => false

end Goal

/-- The result of an attempt, if it is over. -/
def taskResult? (s : Session) (number : Nat) : Option (Except Error Connection) :=
  match s.task? number with
  | some attempt => attempt.result?
  | none => none

/-- Looks at what is waited for: its result, or what is left to wait for. -/
def look (s : Session) (goal : Goal) : (Except Error Connection ⊕ Goal) × Session :=
  match goal with
  | .connect strategy context progress =>
    let s := s.nextTurn
    match strategy.poll context progress s.world with
    | (.ready result, world) => (.inl result, { s with world := world })
    | (.pending progress, world) =>
      (.inr (.connect strategy context progress), { s with world := world })
  | .attempt number =>
    match s.taskResult? number with
    | some result => (.inl result, s)
    | none => (.inr goal, s)
  | .nothing => (.inr goal, s)

/-- Gives up what is waited for. -/
def giveUp (s : Session) : Goal → Session
  | .connect _ _ progress => { s with world := progress.abandon s.world }
  | _ => s

/-- Can what is waited for go on before the clock moves? -/
def stirs (s : Session) : Goal → Bool
  | .attempt number => (s.taskResult? number).isSome
  | goal => goal.isYielding

/-- Waits up to a moment; `none` when it comes first. -/
def waitUntil (deadline : Instant) :
    Nat → Goal → Session → Option (Except Error Connection) × Session
  | 0, goal, s => (none, s.giveUp goal)
  | fuel + 1, goal, s =>
    match s.look goal with
    | (.inl result, s) => (some result, s)
    | (.inr goal, s) =>
      if deadline ≤ s.world.now then (none, s.giveUp goal)
      else
        let s := s.drain
        if !s.yielded.isEmpty || s.stirs goal then waitUntil deadline fuel goal s.resume
        else
          let timers := goal.timers ++ s.tasks.flatMap fun entry => entry.2.progress.timers
          let tick := (earliest (⟨deadline, 0⟩ :: timers)).getD 0
          waitUntil deadline fuel goal (s.advanceTo tick)

/-- Waits up to a number of milliseconds. Each round of waiting lets a millisecond pass or
lets a looping sequence go on, so a bound on rounds that grows with the time suffices
unless a loop fails without any time passing. -/
def wait (s : Session) (goal : Goal) (limit : Nat) :
    Option (Except Error Connection) × Session :=
  waitUntil (s.world.now + Duration.ofMillis limit) (64 * (limit + 2)) goal s

/-- Runs a strategy for a connection; on running out of time it is given up. -/
def connect (s : Session) (strategy : Strategy) (context : Context) (limit : Nat) :
    Option (Except Error Connection) × Session :=
  s.wait (.connect strategy context .unstarted) limit

/-- Waits for the attempt under a name; its handle goes with its result. -/
def await (s : Session) (name : String) (limit : Nat) :
    Option (Except Error Connection) × Session :=
  match Table.find s.handles name with
  | some number =>
    match s.wait (.attempt number) limit with
    | (some result, s) => (some result, s.drop name)
    | (none, s) => (none, s)
  | none => (none, s)

/-- Lets time pass. -/
def sleep (s : Session) (ms : Nat) : Session := (s.wait .nothing ms).2

end Session

end Dialplan
