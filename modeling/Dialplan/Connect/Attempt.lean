import Dialplan.Connect.Node

/-! Attempts: a strategy that is run by a task of its own, and a handle on it. The task
publishes its result through a channel. Cancelling the handle wins over a result that
is not yet published, and does nothing after. -/

namespace Dialplan

namespace Attempt

inductive State where
  | pending
  | resolved
  | cancelled
deriving DecidableEq, Repr

/-- How far the task has come. -/
inductive Task where
  | running (progress : Progress)
  /-- The strategy has a result, which is not yet published. -/
  | finished (result : Except Error Connection)
  | ended

/-- What the handle can receive. -/
inductive Channel where
  | empty
  | sent (result : Except Error Connection)
  /-- The task has ended without a result. -/
  | closed

end Attempt

structure Attempt where
  strategy : Strategy
  context : Context
  state : Attempt.State
  /-- Has the task been told to stop? -/
  aborted : Bool
  task : Attempt.Task
  channel : Attempt.Channel

namespace Attempt

def start (strategy : Strategy) (context : Context) : Attempt :=
  ⟨strategy, context, .pending, false, .running .unstarted, .empty⟩

/-- The state as it is shown. -/
def State.name : State → String
  | .pending => "Pending"
  | .resolved => "Resolved"
  | .cancelled => "Cancelled"

/-- The attempt as it is shown; its identity is left out. -/
def describe (attempt : Attempt) : String :=
  "PendingAttempt \x7b id: AttemptId(#), state: " ++ attempt.state.name ++ ", .. \x7d"

def isCancelled (attempt : Attempt) : Bool := attempt.state = .cancelled

def isResolved (attempt : Attempt) : Bool := attempt.state = .resolved

/-- Cancels the attempt, unless it has been resolved or cancelled before. -/
def cancel (attempt : Attempt) : Attempt :=
  if attempt.state = .pending then { attempt with state := .cancelled, aborted := true }
  else attempt

/-- The task runs on: it stops if it was told to, and else polls its strategy. -/
def run (attempt : Attempt) (w : World) : Attempt × World :=
  match attempt.task with
  | .running progress =>
    if attempt.aborted then
      ({ attempt with task := .ended, channel := .closed }, progress.abandon w)
    else
      match attempt.strategy.poll attempt.context progress w with
      | (.pending progress, w) => ({ attempt with task := .running progress }, w)
      | (.ready result, w) => ({ attempt with task := .finished result }, w)
  | _ => (attempt, w)

/-- The task publishes its result, if it has one and the attempt is still pending. -/
def publish (attempt : Attempt) : Attempt :=
  match attempt.task with
  | .finished result =>
    if attempt.state = .pending then
      { attempt with state := .resolved, task := .ended, channel := .sent result }
    else { attempt with task := .ended, channel := .closed }
  | _ => attempt

/-- What waiting for the attempt yields, if it is over. -/
def result? (attempt : Attempt) : Option (Except Error Connection) :=
  match attempt.channel with
  | .empty => none
  | .sent result => some result
  | .closed => some (.error .cancelled)

/-- What the task has in progress. -/
def progress (attempt : Attempt) : Progress :=
  match attempt.task with
  | .running progress => progress
  | _ => .unstarted

def hasEnded (attempt : Attempt) : Bool :=
  match attempt.task with
  | .ended => true
  | _ => false

end Attempt

end Dialplan
