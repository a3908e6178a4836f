import Dialplan.Duration
import Dialplan.Transport.Request

/-! Mechanisms: ways of opening connections, and how they answer requests. -/

namespace Dialplan

/-- How a mechanism answers one open. -/
inductive Behaviour where
  | connect (delay : Duration)
  | fail (delay : Duration) (error : Error)
  | hang

/-- Where a mechanism takes its answers from. -/
inductive Opener where
  /-- From a script; its last answer is repeated, and without one every open connects. -/
  | scripted (script : List Behaviour)
  /-- From a WebSocket at the application path. -/
  | webSocket
  /-- From a WebSocket at the path of a new session. -/
  | session

structure Mechanism where
  /-- The name that it and its sockets go by. -/
  kind : String
  /-- Can it open plain connections? -/
  plain : Bool
  /-- Can it open encrypted connections? -/
  encrypted : Bool
  opener : Opener

namespace Mechanism

/-- A mechanism that opens everything at once. -/
def ready (kind : String) : Mechanism := ⟨kind, true, true, .scripted []⟩

/-- The built-in WebSocket transport. It brings no encryption of its own. -/
def webSocket : Mechanism := ⟨"ws", true, false, .webSocket⟩

/-- The built-in transport for servers that keep sessions, also without encryption. -/
def session : Mechanism := ⟨"sockjs", true, false, .session⟩

def supports (mechanism : Mechanism) (encrypted : Bool) : Bool :=
  if encrypted then mechanism.encrypted else mechanism.plain

/-- What becomes of an address where there is no network: a well-formed one cannot be
reached either. -/
def unreachable : Except Error Url → Error
  | .ok _ => .webSocket "IO error: Network is unreachable (os error 101)"
  | .error e => e

/-- The answer to the next open. The number of the open names its session. -/
def answer (mechanism : Mechanism) (request : OpenRequest) (number : Nat) : Behaviour :=
  match mechanism.opener with
  | .scripted script => script.head?.getD (.connect 0)
  | .webSocket => .fail 0 (unreachable (request.url request.applicationPath))
  | .session => .fail 0 (unreachable (request.url (request.sessionPath number)))

/-- The mechanism after an open. -/
def afterOpen (mechanism : Mechanism) : Mechanism :=
  match mechanism.opener with
  | .scripted (_ :: next :: rest) => { mechanism with opener := .scripted (next :: rest) }
  | _ => mechanism

end Mechanism

end Dialplan
