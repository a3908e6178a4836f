import Dialplan.Connect.History
import Dialplan.Connect.Progress

/-! Running strategies. Each kind of node says how it is polled, given how its children
are; a strategy is polled through its root. A state that does not belong to its node
counts as not started. -/

namespace Dialplan

/-- The head start of the preferred child of a race. -/
def headStart : Duration := Duration.ofMillis 200

/-- What a retry of a recorded transport may take beyond twice its last time. -/
def retrySlack : Duration := Duration.ofMillis 1000

/-- Polls something in progress in a world. -/
abbrev Poller := Progress → World → Poll Progress × World

namespace Leaf

/-- Polls an open that is in flight. -/
def pollOpening (leaf : Leaf) (number : Nat) (started : Instant)
    (answer : Option (Timer × Option Error)) (w : World) : Poll Progress × World :=
  match answer with
  | some (timer, failure) =>
    if timer.isDue w.now then
      match failure with
      | some e => (.ready (.error e), w.fail number)
      | none =>
        let (connection, w) := w.connect leaf number started
        (.ready (.ok connection), w)
    else (.pending (.opening number started answer), w)
  | none => (.pending (.opening number started answer), w)

/-- Opens a transport, if its priority and its mechanism allow. -/
def poll (leaf : Leaf) (context : Context) : Poller
  | .opening number started answer, w => leaf.pollOpening number started answer w
  | _, w =>
    if leaf.priority < context.minPriority then
      (.ready (.error (.priorityTooLow leaf.name leaf.priority context.minPriority)), w)
    else if !w.supports leaf.mechanism context.encrypted then
      (.ready (.error (.transportUnsupported leaf.name)), w)
    else
      let (behaviour, w) := w.openTransport leaf context.encrypted
      let answer :=
        match behaviour with
        | .connect delay => some (Timer.start w delay, none)
        | .fail delay e => some (Timer.start w delay, some e)
        | .hang => none
      leaf.pollOpening w.opens w.now answer w

end Leaf

/-- Waits, then runs the child. -/
def pollDelayed (delay : Duration) (child : Poller) : Poller
  | .delegated progress, w =>
    let (poll, w) := child progress w
    (poll.map .delegated, w)
  | progress, w =>
    let timer :=
      match progress with
      | .waiting timer => timer
      | _ => Timer.start w delay
    if timer.isDue w.now then
      let (poll, w) := child .unstarted w
      (poll.map .delegated, w)
    else (.pending (.waiting timer), w)

/-- A sequence in progress. -/
def Progress.ofSequence (state : Sequence.State Progress) : Progress :=
  .sequencing state.index state.bound state.failures state.phase

/-- Tries the children in order. -/
def pollSequential (options : SequentialOptions) (count : Nat) (kind : Nat → String)
    (child : Nat → Poller) : Poller
  | progress, w =>
    let setting : Sequence.Setting Progress World :=
      ⟨options, count, kind, child, .unstarted, Progress.abandon, w.now, w.turn⟩
    let (poll, w) :=
      match progress with
      | .sequencing index bound failures phase =>
        Sequence.poll setting ⟨index, bound, failures, phase⟩ w
      | _ => Sequence.first setting w
    (poll.map Progress.ofSequence, w)

/-- Gives up the children of a race that are still running. -/
def abandonAll (running : List Progress) (w : World) : World :=
  running.foldl (fun w progress => progress.abandon w) w

/-- A race in progress. -/
def Progress.ofRace (lead : Option (Nat × Timer)) (state : Race.State Progress) : Progress :=
  .racing lead state.holding state.order state.slots state.failures

/-- Polls a race; when a child wins, the others are given up before `onWin` runs. -/
def pollRace (lead : Option (Nat × Timer)) (child : Nat → Poller)
    (onWin : Nat → Connection → World → World) (state : Race.State Progress) (w : World) :
    Poll Progress × World :=
  let elapsed := lead.any fun (_, timer) => timer.isDue w.now
  match Race.poll child .unstarted elapsed state w with
  | (.pending state, w) => (.pending (.ofRace lead state), w)
  | (.won i connection state, w) =>
    (.ready (.ok connection), onWin i connection (abandonAll state.running w))
  | (.lost failures, w) => (.ready (.error (.allFailed failures)), w)

/-- Starts all children at once. -/
def pollFirstConnected (count : Nat) (child : Nat → Poller) : Poller
  | .racing _ holding order slots failures, w =>
    pollRace none child (fun _ _ w => w) ⟨holding, order, slots, failures⟩ w
  | _, w =>
    if count = 0 then (.ready (.error (.allFailed [])), w)
    else pollRace none child (fun _ _ w => w) (.together count .unstarted) w

/-- Remembers the winner of a race. -/
def rememberWin (site : Site) (count : Nat) (lead : Option Nat) (winner : Nat)
    (connection : Connection) (w : World) : World :=
  w.setHistory site
    ((w.history site count).afterWin lead winner ⟨connection.latency, connection.priority⟩)

/-- Starts the children that won before first. -/
def pollBestConnectedEver (site : Site) (count : Nat) (child : Nat → Poller) : Poller
  | .racing lead holding order slots failures, w =>
    pollRace lead child (rememberWin site count (lead.map Prod.fst))
      ⟨holding, order, slots, failures⟩ w
  | _, w =>
    if count = 0 then (.ready (.error (.allFailed [])), w)
    else
      match (w.history site count).preferred with
      | some lead =>
        pollRace (some (lead, Timer.start w headStart)) child
          (rememberWin site count (some lead)) (.behind count lead .unstarted) w
      | none =>
        pollRace none child (rememberWin site count none) (.together count .unstarted) w

/-- The record that a cached node may use now. -/
def freshRecord? (settings : CacheSettings) (w : World) : Option CacheRecord :=
  match (w.cache settings.cache).fetch settings.encrypted with
  | some cached => if cached.isFresh settings.ttl w.wallClock then some cached else none
  | none => none

/-- Records a connection that a cached node made, or empties its partition. -/
def finishCached (settings : CacheSettings) (started : Instant)
    (result : Except Error Connection) (w : World) : World :=
  match result with
  | .ok connection => w.storeCache settings connection.transport (w.now - started)
  | .error _ => w.flushCache settings

/-- Runs the strategy below a cached node. -/
def pollUncached (settings : CacheSettings) (child : Poller) (started : Instant)
    (progress : Progress) (w : World) : Poll Progress × World :=
  match child progress w with
  | (.pending progress, w) => (.pending (.uncached started progress), w)
  | (.ready result, w) => (.ready result, finishCached settings started result w)

/-- Retries the recorded transport, and runs the whole strategy when that fails. -/
def pollRetry (settings : CacheSettings) (entry : String → Poller) (child : Poller)
    (timer : Timer) (started : Instant) (name : String) (progress : Progress) (w : World) :
    Poll Progress × World :=
  let giveUp (w : World) : Poll Progress × World :=
    pollUncached settings child w.now .unstarted (w.flushCache settings)
  match entry name progress w with
  | (.ready (.ok connection), w) =>
    (.ready (.ok connection), finishCached settings started (.ok connection) w)
  | (.ready (.error _), w) => giveUp w
  | (.pending progress, w) =>
    if timer.isDue w.now then giveUp (progress.abandon w)
    else (.pending (.retrying timer started name progress), w)

/-- Retries the transport that the cache names, if the record is fresh and its transport
known; otherwise runs the whole strategy. -/
def pollCached (settings : CacheSettings) (isKnown : String → Bool) (entry : String → Poller)
    (child : Poller) : Poller
  | .retrying timer started name progress, w =>
    pollRetry settings entry child timer started name progress w
  | .uncached started progress, w => pollUncached settings child started progress w
  | _, w =>
    match freshRecord? settings w with
    | some cached =>
      if isKnown cached.transport then
        pollRetry settings entry child (Timer.start w (cached.connectTime * 2 + retrySlack))
          w.now cached.transport .unstarted w
      else pollUncached settings child w.now .unstarted w
    | none => pollUncached settings child w.now .unstarted w

/-- Runs the side of a branch that its condition picks when it starts. -/
def pollBranch (condition : World → Bool) (onTrue onFalse : Poller) : Poller
  | progress, w =>
    let (outcome, inner) :=
      match progress with
      | .branched outcome inner => (outcome, inner)
      | _ => (condition w, .unstarted)
    let (poll, w) := (if outcome then onTrue else onFalse) inner w
    (poll.map (.branched outcome), w)

namespace Strategy

mutual

/-- Polls a strategy under the demands of an attempt. -/
def poll : Strategy → Context → Progress → World → Poll Progress × World
  | transport leaf, context, progress, w => leaf.poll context progress w
  | unsupported name, _, _, w => (.ready (.error (.transportUnsupported name)), w)
  | delayed delay child, context, progress, w =>
    pollDelayed delay (fun p w => poll child context p w) progress w
  | sequential options children, context, progress, w =>
    pollSequential options children.length (fun i => (children[i]?.map kindName).getD "")
      (fun i p w => pollAt children i context p w) progress w
  | cached settings transports child, context, progress, w =>
    let context := { context with encrypted := settings.encrypted }
    pollCached settings (fun name => (Table.find transports name).isSome)
      (fun name p w => pollNamed transports name context p w)
      (fun p w => poll child context p w) progress w
  | firstConnected children, context, progress, w =>
    pollFirstConnected children.length (fun i p w => pollAt children i context p w) progress w
  | bestConnectedEver site children, context, progress, w =>
    pollBestConnectedEver site children.length
      (fun i p w => pollAt children i context p w) progress w
  | branch test onTrue onFalse, context, progress, w =>
    pollBranch (fun w => test.holds w.supports context.encrypted)
      (fun p w => poll onTrue context p w) (fun p w => poll onFalse context p w) progress w
termination_by structural strategy => strategy

/-- Polls the child with a number. -/
def pollAt : List Strategy → Nat → Context → Progress → World → Poll Progress × World
  | [], _, _, progress, w => (.pending progress, w)
  | child :: _, 0, context, progress, w => poll child context progress w
  | _ :: rest, i + 1, context, progress, w => pollAt rest i context progress w
termination_by structural strategies => strategies

/-- Polls the transport definition with a name. -/
def pollNamed : List (String × Strategy) → String → Context → Progress → World →
    Poll Progress × World
  | [], _, _, progress, w => (.pending progress, w)
  | (key, strategy) :: rest, name, context, progress, w =>
    if key = name then poll strategy context progress w
    else pollNamed rest name context progress w
termination_by structural entries => entries

end

end Strategy

end Dialplan
