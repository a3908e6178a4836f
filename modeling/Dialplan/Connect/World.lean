import Dialplan.Connect.Cache
import Dialplan.Connect.Context
import Dialplan.Strategy.Support
import Dialplan.Transport.Mechanism

/-! What attempts share: the clock, the mechanisms that open transports, the caches, the
memory of past races, and a log of every open. -/

namespace Dialplan

/-- An open connection's handle: the kind of its mechanism and the open that made it. -/
structure Socket where
  kind : String
  opened : Nat
deriving DecidableEq

structure Connection where
  /-- Connections are numbered from one, in order. -/
  number : Nat
  /-- The name of the transport definition. -/
  transport : String
  priority : Int64
  /-- How long the open took. -/
  latency : Duration
  socket : Socket
deriving DecidableEq

/-- What a child's last win took. -/
structure Win where
  latency : Duration
  priority : Int64
deriving DecidableEq

/-- Opens are numbered from one; each is answered or cancelled at most once. -/
inductive Event where
  | opened (number : Nat) (leaf : Leaf) (request : OpenRequest) (time : Instant)
  | connected (number : Nat) (time : Instant)
  | failed (number : Nat) (time : Instant)
  | cancelled (number : Nat) (time : Instant)

structure World where
  now : Instant
  /-- The wall clock at the start, in milliseconds since the Unix epoch. -/
  epoch : Int
  /-- How many times a task has been run. -/
  turn : Nat
  mechanisms : List Mechanism
  /-- How many opens there have been. -/
  opens : Nat
  /-- How many of them have connected. -/
  connections : Nat
  caches : List Cache
  histories : List (Site × List (Option Win))
  /-- What happened to opens, latest first. -/
  log : List Event

namespace World

/-- A world in which nothing has happened. -/
def initial (epoch : Int) (mechanisms : List Mechanism) (caches : List Cache) : World :=
  ⟨0, epoch, 0, mechanisms, 0, 0, caches, [], []⟩

/-- The wall clock in milliseconds; before the Unix epoch it reads zero. -/
def wallClock (w : World) : UInt64 :=
  UInt64.ofNat (w.epoch + (Duration.millis w.now : Int)).toNat

def supports (w : World) (mechanism : Nat) (encrypted : Bool) : Bool :=
  (w.mechanisms[mechanism]?).any (·.supports encrypted)

def record (w : World) (event : Event) : World := { w with log := event :: w.log }

/-! ### Opens -/

/-- Hands a request to a mechanism. -/
def openTransport (w : World) (leaf : Leaf) (encrypted : Bool) : Behaviour × World :=
  let request : OpenRequest := ⟨leaf.name, leaf.key, encrypted, leaf.options⟩
  let number := w.opens + 1
  let answer := (w.mechanisms[leaf.mechanism]?.map (·.answer request number)).getD .hang
  (answer,
    { w with
      opens := number
      mechanisms := w.mechanisms.modify leaf.mechanism Mechanism.afterOpen
      log := .opened number leaf request w.now :: w.log })

/-- The kind of a mechanism. -/
def kind (w : World) (mechanism : Nat) : String :=
  (w.mechanisms[mechanism]?.map Mechanism.kind).getD ""

/-- An open connects. -/
def connect (w : World) (leaf : Leaf) (number : Nat) (started : Instant) :
    Connection × World :=
  (⟨w.connections + 1, leaf.name, leaf.priority, w.now - started,
      ⟨w.kind leaf.mechanism, number⟩⟩,
    { w with
      connections := w.connections + 1
      log := .connected number w.now :: w.log })

/-- An open fails. -/
def fail (w : World) (number : Nat) : World := w.record (.failed number w.now)

/-- Opens are given up before they were answered. -/
def cancel (w : World) (numbers : List Nat) : World :=
  numbers.foldl (fun w number => w.record (.cancelled number w.now)) w

/-! ### Caches -/

def cache (w : World) (number : Nat) : Cache := (w.caches[number]?).getD .empty

def setCache (w : World) (number : Nat) (cache : Cache) : World :=
  { w with caches := w.caches.set number cache }

/-- Records a connection made now. -/
def storeCache (w : World) (settings : CacheSettings) (transport : String)
    (took : Duration) : World :=
  w.setCache settings.cache
    ((w.cache settings.cache).store settings.encrypted transport took w.wallClock)

def flushCache (w : World) (settings : CacheSettings) : World :=
  w.setCache settings.cache ((w.cache settings.cache).flush settings.encrypted)

end World

end Dialplan
