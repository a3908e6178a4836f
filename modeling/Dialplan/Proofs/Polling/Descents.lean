import Dialplan.Proofs.Opens.Times
import Dialplan.Proofs.Race.Passes
import Dialplan.Proofs.Sequence.Result

/-! Descents. A node that is polled polls nodes below it, in the worlds that it finds or makes; so a
poll of a tree can be retraced from its root down to the leaves. Every open that it makes is made by
a leaf to which it descends along some path (`Strategy.poll_opens`). -/

namespace Dialplan

/-- A step from a node down to another one. -/
inductive Step where
  | child (number : Nat)
  /-- To the transport that a cached node tries again. -/
  | entry (name : String)

/-- A poll of a node by the one above it: what it takes up, and the world. -/
structure Descent where
  step : Step
  progress : Progress
  world : World

def Descent.toChild (i : Nat) (p : Progress) (w : World) : Descent := ⟨.child i, p, w⟩

/-! ### Descents from a node -/

def delayedDescents (delay : Duration) : Progress → World → List Descent
  | .delegated progress, w => [.toChild 0 progress w]
  | progress, w =>
    let timer :=
      match progress with
      | .waiting timer => timer
      | _ => Timer.start w delay
    if timer.isDue w.now then [.toChild 0 .unstarted w] else []

def sequentialDescents (options : SequentialOptions) (count : Nat) (kind : Nat → String)
    (child : Nat → Poller) : Progress → World → List Descent
  | progress, w =>
    let setting := Sequence.settingAt options count kind child w
    let setting := setting.logged Descent.toChild fun _ => []
    match progress with
    | .sequencing index bound failures phase =>
      (Sequence.poll setting ⟨index, bound, failures, phase⟩ (w, [])).2.2
    | _ => (Sequence.first setting (w, [])).2.2

def raceDescents (lead : Option (Nat × Timer)) (child : Nat → Poller)
    (state : Race.State Progress) (w : World) : List Descent :=
  let elapsed := lead.any fun (_, timer) => timer.isDue w.now
  (Race.poll (logged child Descent.toChild) .unstarted elapsed state (w, [])).2.2

def firstConnectedDescents (count : Nat) (child : Nat → Poller) : Progress → World → List Descent
  | .racing _ holding order slots failures, w =>
    raceDescents none child ⟨holding, order, slots, failures⟩ w
  | _, w => if count = 0 then [] else raceDescents none child (.together count .unstarted) w

def bestConnectedEverDescents (site : Site) (count : Nat) (child : Nat → Poller) :
    Progress → World → List Descent
  | .racing lead holding order slots failures, w =>
    raceDescents lead child ⟨holding, order, slots, failures⟩ w
  | _, w =>
    if count = 0 then []
    else
      match (w.history site count).preferred with
      | some lead =>
        raceDescents (some (lead, Timer.start w headStart)) child (.behind count lead .unstarted) w
      | none => raceDescents none child (.together count .unstarted) w

/-- A retry comes first, and the strategy below only when the retry has come to nothing. -/
def retryDescents (settings : CacheSettings) (entry : String → Poller) (timer : Timer)
    (name : String) (progress : Progress) (w : World) : List Descent :=
  ⟨.entry name, progress, w⟩ ::
    match entry name progress w with
    | (.ready (.ok _), _) => []
    | (.ready (.error _), w) => [.toChild 0 .unstarted (w.flushCache settings)]
    | (.pending progress, w) =>
      if timer.isDue w.now then
        [.toChild 0 .unstarted ((progress.abandon w).flushCache settings)]
      else []

def cachedDescents (settings : CacheSettings) (isKnown : String → Bool)
    (entry : String → Poller) : Progress → World → List Descent
  | .retrying timer _ name progress, w => retryDescents settings entry timer name progress w
  | .uncached _ progress, w => [.toChild 0 progress w]
  | _, w =>
    match freshRecord? settings w with
    | some cached =>
      if isKnown cached.transport then
        retryDescents settings entry (Timer.start w (cached.connectTime * 2 + retrySlack))
          cached.transport .unstarted w
      else [.toChild 0 .unstarted w]
    | none => [.toChild 0 .unstarted w]

def branchDescents (condition : World → Bool) : Progress → World → List Descent
  | progress, w =>
    let (outcome, inner) :=
      match progress with
      | .branched outcome inner => (outcome, inner)
      | _ => (condition w, .unstarted)
    [.toChild (if outcome then 0 else 1) inner w]

namespace Strategy

/-- The polls of nodes below that a poll of a node makes, in order. -/
def descents : Strategy → Context → Progress → World → List Descent
  | transport _, _, _, _ => []
  | unsupported _, _, _, _ => []
  | delayed delay _, _, progress, w => delayedDescents delay progress w
  | sequential options children, context, progress, w =>
    sequentialDescents options children.length (fun i => (children[i]?.map kindName).getD "")
      (fun i => pollAt children i context) progress w
  | cached settings transports _, context, progress, w =>
    let context := { context with encrypted := settings.encrypted }
    cachedDescents settings (fun name => (Table.find transports name).isSome)
      (fun name => pollNamed transports name context) progress w
  | firstConnected children, context, progress, w =>
    firstConnectedDescents children.length (fun i => pollAt children i context) progress w
  | bestConnectedEver site children, context, progress, w =>
    bestConnectedEverDescents site children.length (fun i => pollAt children i context) progress w
  | branch test _ _, context, progress, w =>
    branchDescents (fun w => test.holds w.supports context.encrypted) progress w

/-- The node that a step leads to. -/
def below? : Strategy → Step → Option Strategy
  | node, .child i => node.children[i]?
  | cached _ transports _, .entry name => Table.find transports name
  | _, .entry _ => none

/-- The demands of an attempt below a node. -/
def demands : Strategy → Context → Context
  | cached settings _ _, context => { context with encrypted := settings.encrypted }
  | _, context => context

end Strategy

/-! ### Rules -/

section

variable {child : Nat → Poller} {P : Descent → Prop}

/-- What holds whenever a race polls a child, holds of its descents. -/
theorem raceDescents_rule {inv : Race.State Progress → World → Prop}
    {won : Nat → Connection → Race.State Progress → World → Prop}
    (look : Race.Looks child inv won)
    (descend : ∀ state w i p, inv state w → state.slots[i]? = some (.running p) →
      P (.toChild i p w))
    (release : ∀ state w, inv state w → inv (state.release .unstarted) w)
    (lead : Option (Nat × Timer)) {state : Race.State Progress} {w : World} (h : inv state w) :
    ∀ descent ∈ raceDescents lead child state w, P descent := by
  have hlook : Race.Looks (logged child Descent.toChild)
      (fun state w => inv state w.1 ∧ ∀ descent ∈ w.2, P descent)
      fun _ _ _ w => ∀ descent ∈ w.2, P descent := by
    rintro state ⟨w, descents⟩ i p ⟨hinv, hall⟩ hs
    have hyields := look state w i p hinv hs
    have hall : ∀ descent ∈ descents ++ [.toChild i p w], P descent :=
      List.forall_mem_append.mpr ⟨hall, List.forall_mem_singleton.mpr (descend state w i p hinv hs)⟩
    unfold logged
    dsimp only
    generalize child i p w = polled at hyields ⊢
    obtain ⟨answer, w'⟩ := polled
    cases answer with
    | pending p' => exact ⟨hyields, hall⟩
    | ready result =>
      cases result with
      | ok connection => exact hall
      | error e => exact ⟨hyields, hall⟩
  unfold raceDescents
  dsimp only
  generalize Option.any _ lead = elapsed
  have hrule := Race.poll_rule .unstarted hlook (fun state w h => ⟨release state w.1 h.1, h.2⟩)
    elapsed state (w := (w, [])) ⟨h, nofun⟩
  generalize Race.poll (logged child _) .unstarted elapsed state (w, []) = polled at hrule ⊢
  obtain ⟨outcome, w', descents⟩ := polled
  cases outcome with
  | pending state => exact hrule.2
  | won i connection state => exact hrule
  | lost failures =>
    obtain ⟨-, ⟨-, hall⟩, -⟩ := hrule
    exact hall

/-- A race that waits after a poll has polled every child that runs. -/
theorem raceDescents_all {count : Nat} {elapsed : Bool} {state left : Race.State Progress}
    {w w' : World} {descents : List Descent} (hregular : state.Regular count)
    (hpolled : Race.poll (logged child Descent.toChild) .unstarted elapsed state (w, []) =
      (.pending left, w', descents)) {i : Nat} {p : Progress}
    (hs : left.slots[i]? = some (.running p)) : ∃ descent ∈ descents, descent.step = .child i := by
  let watched := Race.watched (logged child Descent.toChild)
  -- whatever is looked at is polled
  let seen (w : (World × List Descent) × List (Race.Look Progress)) : Prop :=
    ∀ look ∈ w.2, ∃ descent ∈ w.1.2, descent.step = .child look.child
  have hlook : Race.Looks watched (fun _ => seen) fun _ _ _ => seen := by
    intro _ w'' j q h _
    refine Poll.yields_world.mpr ?_
    refine List.forall_mem_append.mpr ⟨fun look hm => ?_, ?_⟩
    · obtain ⟨descent, hdescent, hstep⟩ := h look hm
      exact ⟨descent, List.mem_append_left _ hdescent, hstep⟩
    · exact List.forall_mem_singleton.mpr ⟨_, List.mem_append_right _ List.mem_cons_self, rfl⟩
  obtain ⟨houtcome, hworld⟩ := Race.poll_watched_fst (logged child Descent.toChild) .unstarted
    elapsed state (w, []) []
  have hrule := Race.poll_rule .unstarted hlook (fun _ _ h => h) elapsed state
    (w := ((w, []), [])) nofun
  rw [hpolled] at houtcome hworld
  change (Race.poll watched .unstarted elapsed state ((w, []), [])).1 = _ at houtcome
  change (Race.poll watched .unstarted elapsed state ((w, []), [])).2.1 = _ at hworld
  rcases hwatched : Race.poll watched .unstarted elapsed state ((w, []), []) with
    ⟨outcome, w'', looks⟩
  rw [hwatched] at houtcome hworld hrule
  obtain rfl : outcome = .pending left := houtcome
  obtain rfl : w'' = (w', descents) := hworld
  obtain ⟨look, hm, rfl⟩ := Race.poll_looked _ hregular hwatched i p hs
  exact hrule look hm

/-- What holds whenever a sequence polls the child that is tried, holds of its descents. -/
theorem sequentialDescents_rule {options : SequentialOptions} {count : Nat} {kind : Nat → String}
    {busy : Nat → Progress → World → Prop} {idle : World → Prop} {won : Connection → World → Prop}
    {w : World}
    (look : Sequence.Looks (Sequence.settingAt options count kind child w) busy idle won)
    (descend : ∀ i p w, busy i p w → P (.toChild i p w))
    (start : ∀ i w, idle w → busy i .unstarted w) {p : Progress} (hidle : idle w)
    (hbusy : ∀ index bound failures phase, p = .sequencing index bound failures phase →
      Sequence.Phased busy idle ⟨index, bound, failures, phase⟩ w) :
    ∀ descent ∈ sequentialDescents options count kind child p w, P descent := by
  let setting := Sequence.settingAt options count kind child w
  let asked (w' : World × List Descent) : Prop := ∀ descent ∈ w'.2, P descent
  let busy' (i : Nat) (p : Progress) (w' : World × List Descent) : Prop := busy i p w'.1 ∧ asked w'
  let idle' (w' : World × List Descent) : Prop := idle w'.1 ∧ asked w'
  have hlook : Sequence.Looks (setting.logged Descent.toChild fun _ => []) busy' idle'
      fun _ => asked := by
    rintro i p ⟨w', descents⟩ ⟨hb, hall⟩
    have hyields := look i p w' hb
    have hall : asked ((child i p w').2, descents ++ [.toChild i p w']) :=
      List.forall_mem_append.mpr ⟨hall, List.forall_mem_singleton.mpr (descend i p w' hb)⟩
    change Poll.Yields _ _ _ (child i p w') at hyields
    change Poll.Yields _ _ _ ((child i p w').1, (child i p w').2, descents ++ [.toChild i p w'])
    generalize child i p w' = polled at hyields hall ⊢
    obtain ⟨answer, w''⟩ := polled
    cases answer with
    | pending p' =>
      refine ⟨⟨hyields.1, hall⟩, hyields.2, ?_⟩
      rwa [← List.append_nil (descents ++ _)] at hall
    | ready result =>
      cases result with
      | ok connection => exact hall
      | error e => exact ⟨hyields, hall⟩
  have hphased : ∀ {state : Sequence.State Progress} {w' : World × List Descent},
      Sequence.Phased busy' idle' state w' ↔ Sequence.Phased busy idle state w'.1 ∧ asked w' :=
    Sequence.phased_and
  have hyields : ∀ {polled : Poll (Sequence.State Progress) × (World × List Descent)},
      Poll.Yields (Sequence.Phased busy' idle') (fun _ => asked) (fun _ => idle') polled →
      asked polled.2 := fun h =>
    Poll.yields_world.mp (h.imp (fun _ _ h => (hphased.mp h).2) (fun _ _ h => h) fun _ _ h => h.2)
  have hstart : ∀ i w', idle' w' → busy' i .unstarted w' := fun i w' h => ⟨start i w'.1 h.1, h.2⟩
  cases p with
  | sequencing index bound failures phase =>
    exact hyields (Sequence.poll_rule hlook hstart _
      (hphased.mpr ⟨hbusy index bound failures phase rfl, nofun⟩))
  | _ => exact hyields (Sequence.first_rule hlook hstart ⟨hidle, nofun⟩)

end

/-! ### Opens -/

/-- From one world to another one, the opens that have been logged are these. -/
def LogsOpens (made : Event → Prop) (w w' : World) : Prop :=
  ∃ added, w'.log = added ++ w.log ∧ ∀ event, event ∈ openings added ↔ made event

/-- From one world to another one, nothing has been opened. -/
def OpensNothing (w w' : World) : Prop := LogsOpens (fun _ => False) w w'

namespace LogsOpens

variable {made more : Event → Prop} {a b c : World}

theorem congr (h : LogsOpens made a b) (hiff : ∀ event, made event ↔ more event) :
    LogsOpens more a b := by
  obtain ⟨added, hlog, hmade⟩ := h
  exact ⟨added, hlog, fun event => (hmade event).trans (hiff event)⟩

theorem trans (hab : LogsOpens made a b) (hbc : LogsOpens more b c) :
    LogsOpens (fun event => made event ∨ more event) a c := by
  obtain ⟨added, hadded, hmade⟩ := hab
  obtain ⟨later, hlater, hmore⟩ := hbc
  refine ⟨later ++ added, by rw [hlater, hadded, List.append_assoc], fun event => ?_⟩
  rw [openings, List.filter_append, List.mem_append, or_comm]
  exact or_congr (hmade event) (hmore event)

theorem nothing (h : LogsOpens made a b) (hbc : OpensNothing b c) : LogsOpens made a c :=
  (h.trans hbc).congr fun _ => by simp

end LogsOpens

theorem opensNothing_of_log {w w' : World} (added : List Event)
    (hlog : w'.log = added ++ w.log) (hadded : openings added = []) : OpensNothing w w' :=
  ⟨added, hlog, fun event => by simp [hadded]⟩

theorem opensNothing : Frame OpensNothing where
  refl _ := opensNothing_of_log [] rfl rfl
  trans hab hbc := hab.nothing hbc
  connected w _ number _ := opensNothing_of_log [.connected number w.now] rfl rfl
  failed w number := opensNothing_of_log [.failed number w.now] rfl rfl
  cancelled w number := opensNothing_of_log [.cancelled number w.now] rfl rfl

/-- What has been opened since is what these descents account for. -/
def Traces (made : Descent → Event → Prop) (w : World) (descents : List Descent) (w' : World) :
    Prop :=
  LogsOpens (fun event => ∃ descent ∈ descents, made descent event) w w'

namespace Traces

variable {made : Descent → Event → Prop} {w w' w'' : World} {descents : List Descent}

theorem nil (h : OpensNothing w w') : Traces made w [] w' := LogsOpens.congr h fun _ => by simp

theorem snoc (h : Traces made w descents w') {descent : Descent}
    (hmade : LogsOpens (made descent) w' w'') : Traces made w (descents ++ [descent]) w'' :=
  (h.trans hmade).congr fun _ => by simp [or_and_right, exists_or]

theorem one {descent : Descent} (hmade : LogsOpens (made descent) w w') :
    Traces made w [descent] w' :=
  (nil (opensNothing.refl w)).snoc hmade

end Traces

section

variable {made : Descent → Event → Prop}

theorem delayed_traces (delay : Duration) {child : Poller}
    (hc : ∀ p w, LogsOpens (made (.toChild 0 p w)) w (child p w).2) (p : Progress) (w : World) :
    Traces made w (delayedDescents delay p w) (pollDelayed delay child p w).2 := by
  have hwait : ∀ timer : Timer, Traces made w
      (if timer.isDue w.now then [.toChild 0 .unstarted w] else [])
      (if timer.isDue w.now then
        ((child .unstarted w).1.map Progress.delegated, (child .unstarted w).2)
      else (.pending (Progress.waiting timer), w)).2 := by
    intro timer
    split
    · exact .one (hc _ w)
    · exact .nil (opensNothing.refl w)
  cases p with
  | delegated p => exact .one (hc p w)
  | waiting timer => exact hwait timer
  | _ => exact hwait (Timer.start w delay)

theorem branch_traces (condition : World → Bool) {onTrue onFalse : Poller}
    (ht : ∀ p w, LogsOpens (made (.toChild 0 p w)) w (onTrue p w).2)
    (hf : ∀ p w, LogsOpens (made (.toChild 1 p w)) w (onFalse p w).2) (p : Progress) (w : World) :
    Traces made w (branchDescents condition p w) (pollBranch condition onTrue onFalse p w).2 := by
  have hside : ∀ (outcome : Bool) (inner : Progress),
      Traces made w [.toChild (if outcome then 0 else 1) inner w]
        ((if outcome then onTrue else onFalse) inner w).2 := by
    intro outcome inner
    cases outcome with
    | true => exact .one (ht inner w)
    | false => exact .one (hf inner w)
  cases p with
  | branched outcome inner => exact hside outcome inner
  | _ => exact hside (condition w) .unstarted

section

variable {child : Nat → Poller}
  (hc : ∀ i p w, LogsOpens (made (.toChild i p w)) w (child i p w).2)

include hc

theorem race_traces (lead : Option (Nat × Timer)) {onWin : Nat → Connection → World → World}
    (hwin : ∀ i connection w, OpensNothing w (onWin i connection w)) (state : Race.State Progress)
    (w : World) :
    Traces made w (raceDescents lead child state w) (pollRace lead child onWin state w).2 := by
  unfold pollRace raceDescents
  dsimp only
  generalize Option.any _ lead = elapsed
  have look : Race.Looks (logged child Descent.toChild) (fun _ w' => Traces made w w'.2 w'.1)
      fun _ _ _ w' => Traces made w w'.2 w'.1 := fun _ w' i p h _ =>
    (Poll.yields_world (P := fun w' : World × List Descent => Traces made w w'.2 w'.1)).mpr
      (h.snoc (hc i p w'.1))
  have hrule := Race.poll_rule .unstarted look (fun _ _ h => h) elapsed state (w := (w, []))
    (.nil (opensNothing.refl w))
  obtain ⟨houtcome, hworld⟩ :=
    Race.poll_logged_fst child Descent.toChild .unstarted elapsed state w []
  generalize Race.poll (logged child _) .unstarted elapsed state (w, []) = polled
    at hrule houtcome hworld ⊢
  obtain ⟨outcome, w', descents⟩ := polled
  rw [← Prod.eta (Race.poll child .unstarted elapsed state w), ← houtcome, ← hworld]
  cases outcome with
  | pending state => exact hrule
  | won i connection state =>
    exact hrule.nothing ((opensNothing.abandonAll state.running w').nothing (hwin _ _ _))
  | lost failures =>
    obtain ⟨-, htraces, -⟩ := hrule
    exact htraces

theorem firstConnected_traces (count : Nat) (p : Progress) (w : World) :
    Traces made w (firstConnectedDescents count child p w)
      (pollFirstConnected count child p w).2 := by
  have hwin : ∀ (i : Nat) (connection : Connection) (w : World), OpensNothing w w :=
    fun _ _ w => opensNothing.refl w
  have hstart : Traces made w
      (if count = 0 then [] else raceDescents none child (.together count .unstarted) w)
      (if count = 0 then (.ready (.error (.allFailed [])), w)
        else pollRace none child (fun _ _ w => w) (.together count .unstarted) w).2 := by
    split
    · exact .nil (opensNothing.refl w)
    · exact race_traces hc none hwin _ w
  cases p with
  | racing lead holding order slots failures => exact race_traces hc none hwin _ w
  | _ => exact hstart

theorem bestConnectedEver_traces (site : Site) (count : Nat) (p : Progress) (w : World) :
    Traces made w (bestConnectedEverDescents site count child p w)
      (pollBestConnectedEver site count child p w).2 := by
  have hwin : ∀ lead i connection w, OpensNothing w (rememberWin site count lead i connection w) :=
    fun _ _ _ _ => opensNothing_of_log [] rfl rfl
  have hstart : Traces made w (bestConnectedEverDescents site count child .unstarted w)
      (pollBestConnectedEver site count child .unstarted w).2 := by
    unfold bestConnectedEverDescents pollBestConnectedEver
    dsimp only
    split
    · exact .nil (opensNothing.refl w)
    · cases (w.history site count).preferred with
      | some lead => exact race_traces hc _ (hwin _) _ w
      | none => exact race_traces hc none (hwin _) _ w
  cases p with
  | racing lead holding order slots failures => exact race_traces hc lead (hwin _) _ w
  | _ => exact hstart

theorem sequential_traces (options : SequentialOptions) (count : Nat) (kind : Nat → String)
    (p : Progress) (w : World) :
    Traces made w (sequentialDescents options count kind child p w)
      (pollSequential options count kind child p w).2 := by
  let setting := Sequence.settingAt options count kind child w
  let traced (w' : World × List Descent) : Prop := Traces made w w'.2 w'.1
  have look : Sequence.Looks (setting.logged Descent.toChild fun _ => [])
      (fun _ _ => traced) traced fun _ => traced := by
    intro i p w' h
    have hchild : traced (logged child Descent.toChild i p w').2 := h.snoc (hc i p w'.1)
    refine (Poll.yields_world.mpr hchild).mono fun p' w'' h => ⟨h, ?_⟩
    show Traces made w (w''.2 ++ []) (p'.abandon w''.1)
    rw [List.append_nil]
    exact h.nothing (opensNothing.cancel w''.1 _)
  have hstart : traced (w, []) := .nil (opensNothing.refl w)
  have hrun : ∀ state, Traces made w
      (Sequence.poll (setting.logged Descent.toChild fun _ => []) state (w, [])).2.2
      (Sequence.poll setting state w).2 := by
    intro state
    rw [← (Sequence.poll_logged_fst setting Descent.toChild (fun _ => []) state w []).2]
    exact Sequence.poll_keeps look state hstart
  have hfirst : Traces made w
      (Sequence.first (setting.logged Descent.toChild fun _ => []) (w, [])).2.2
      (Sequence.first setting w).2 := by
    rw [← (Sequence.first_logged_fst setting Descent.toChild (fun _ => []) w []).2]
    exact Sequence.first_keeps look hstart
  cases p with
  | sequencing index bound failures phase => exact hrun ⟨index, bound, failures, phase⟩
  | _ => exact hfirst

end

section

variable {settings : CacheSettings} {child : Poller}
  (hc : ∀ p w, LogsOpens (made (.toChild 0 p w)) w (child p w).2)

include hc

theorem uncached_traces (started : Instant) (p : Progress) (w : World) :
    LogsOpens (made (.toChild 0 p w)) w (pollUncached settings child started p w).2 := by
  have hchild := hc p w
  unfold pollUncached
  generalize child p w = polled at hchild ⊢
  obtain ⟨answer, w'⟩ := polled
  cases answer with
  | pending p => exact hchild
  | ready result =>
    cases result with
    | error e => exact hchild.nothing (opensNothing_of_log [] rfl rfl)
    | ok connection => exact hchild.nothing (opensNothing_of_log [] rfl rfl)

theorem retry_traces {entry : String → Poller}
    (he : ∀ name p w, LogsOpens (made ⟨.entry name, p, w⟩) w (entry name p w).2) (timer : Timer)
    (started : Instant) (name : String) (p : Progress) (w : World) :
    Traces made w (retryDescents settings entry timer name p w)
      (pollRetry settings entry child timer started name p w).2 := by
  have hentry := Traces.one (he name p w)
  -- the retry has come to nothing
  have hgiveUp : ∀ w', Traces made w [⟨.entry name, p, w⟩] w' →
      Traces made w [⟨.entry name, p, w⟩, .toChild 0 .unstarted (w'.flushCache settings)]
        (pollUncached settings child w'.now .unstarted (w'.flushCache settings)).2 := by
    intro w' h
    have hflushed : Traces made w [⟨.entry name, p, w⟩] (w'.flushCache settings) :=
      h.nothing (opensNothing_of_log [] rfl rfl)
    exact Traces.snoc hflushed (uncached_traces hc _ _ _)
  unfold pollRetry retryDescents
  dsimp only
  generalize entry name p w = polled at hentry ⊢
  obtain ⟨answer, w'⟩ := polled
  cases answer with
  | pending p' =>
    dsimp only
    split
    · exact hgiveUp (p'.abandon w') (hentry.nothing (opensNothing.cancel w' _))
    · exact hentry
  | ready result =>
    cases result with
    | error e => exact hgiveUp w' hentry
    | ok connection => exact hentry.nothing (opensNothing_of_log [] rfl rfl)

theorem cached_traces {entry : String → Poller}
    (he : ∀ name p w, LogsOpens (made ⟨.entry name, p, w⟩) w (entry name p w).2)
    (isKnown : String → Bool) (p : Progress) (w : World) :
    Traces made w (cachedDescents settings isKnown entry p w)
      (pollCached settings isKnown entry child p w).2 := by
  have hstart : Traces made w (cachedDescents settings isKnown entry .unstarted w)
      (pollCached settings isKnown entry child .unstarted w).2 := by
    unfold cachedDescents pollCached
    dsimp only
    cases freshRecord? settings w with
    | none => exact .one (uncached_traces hc _ _ w)
    | some cached =>
      dsimp only
      split
      · exact retry_traces hc he _ _ _ _ w
      · exact .one (uncached_traces hc _ _ w)
  cases p with
  | retrying timer started name p => exact retry_traces hc he timer started name p w
  | uncached started p => exact .one (uncached_traces hc started p w)
  | _ => exact hstart

end

end

/-! ### Paths -/

/-- Someone asks a node how far it is, with what is in progress there. -/
structure Ask where
  node : Strategy
  context : Context
  progress : Progress
  world : World

namespace Ask

/-- The polls of nodes below. -/
def descents (ask : Ask) : List Descent :=
  ask.node.descents ask.context ask.progress ask.world

/-- The node below a step is asked. -/
def after (ask : Ask) (child : Strategy) (descent : Descent) : Ask :=
  ⟨child, ask.node.demands ask.context, descent.progress, descent.world⟩

/-- Within one poll the asking goes down along a path. -/
inductive Leads : Ask → List Step → Ask → Prop where
  | here {ask} : Leads ask [] ask
  | down {ask : Ask} {descent : Descent} {child path last} : descent ∈ ask.descents →
      ask.node.below? descent.step = some child → Leads (ask.after child descent) path last →
      Leads ask (descent.step :: path) last

/-- The open that is made by the node itself, if it is a leaf and makes one. -/
def opening? (ask : Ask) : Option Event :=
  match ask.node with
  | .transport leaf =>
    match ask.progress with
    | .opening _ _ _ => none
    | _ =>
      if leaf.priority < ask.context.minPriority then none
      else if !ask.world.supports leaf.mechanism ask.context.encrypted then none
      else
        some (.opened (ask.world.opens + 1) leaf
          ⟨leaf.name, leaf.key, ask.context.encrypted, leaf.options⟩ ask.world.now)
  | _ => none

theorem time_of_opening (ask : Ask) {event : Event} (h : ask.opening? = some event) :
    event.time = ask.world.now := by
  unfold opening? at h
  split at h
  · split at h
    · cases h
    · split at h
      · cases h
      · split at h
        · cases h
        · cases h
          rfl
  · cases h

/-- An open that is made at the end of a path. -/
def Opens (ask : Ask) (path : List Step) (event : Event) : Prop :=
  ∃ last, ask.Leads path last ∧ last.opening? = some event

theorem opens_of_leaf {leaf : Leaf} {c : Context} {p : Progress} {w : World} {event : Event} :
    (∃ path, Opens ⟨.transport leaf, c, p, w⟩ path event) ↔
      opening? ⟨.transport leaf, c, p, w⟩ = some event := by
  constructor
  · rintro ⟨path, last, hleads, hopening⟩
    cases hleads with
    | here => exact hopening
    | down hm _ _ => cases hm
  · exact fun h => ⟨[], _, .here, h⟩

/-- An open that is made below a node, in a poll of a node there. -/
def OpensBelow (ask : Ask) (descent : Descent) (event : Event) : Prop :=
  ∃ child, ask.node.below? descent.step = some child ∧
    ∃ path, (ask.after child descent).Opens path event

/-- A node that is no leaf opens what is opened below it. -/
theorem opens_of_traces (ask : Ask) {w : World} (hnone : ask.opening? = none)
    (h : Traces ask.OpensBelow ask.world ask.descents w) :
    LogsOpens (fun event => ∃ path, ask.Opens path event) ask.world w := by
  refine h.congr fun event => ⟨?_, ?_⟩
  · rintro ⟨descent, hm, child, hchild, path, last, hleads, hopening⟩
    exact ⟨_, last, .down hm hchild hleads, hopening⟩
  · rintro ⟨path, last, hleads, hopening⟩
    cases hleads with
    | here =>
      rw [hnone] at hopening
      cases hopening
    | down hm hchild hleads => exact ⟨_, hm, _, hchild, _, last, hleads, hopening⟩

end Ask

theorem Leaf.poll_opens (leaf : Leaf) (c : Context) (p : Progress) (w : World) :
    LogsOpens (fun event => Ask.opening? ⟨.transport leaf, c, p, w⟩ = some event) w
      (leaf.poll c p w).2 := by
  have hsettles : ∀ {made : Event → Prop} {w' : World} number started answer,
      LogsOpens made w w' → LogsOpens made w (leaf.pollOpening number started answer w').2 := by
    intro made w' number started answer h
    have hopening := opensNothing.pollOpening leaf (opensNothing.refl w') number started answer
    exact h.nothing (Poll.yields_world.mp hopening)
  have hnothing : LogsOpens (fun event => none = some event) w w :=
    LogsOpens.congr (opensNothing.refl w) fun _ => by simp
  have hnew : LogsOpens (fun event => Ask.opening? ⟨.transport leaf, c, .unstarted, w⟩ = some event)
      w (leaf.poll c .unstarted w).2 := by
    unfold Leaf.poll Ask.opening?
    dsimp only
    split
    · exact hnothing
    · split
      · exact hnothing
      · refine hsettles _ _ _ ⟨[_], rfl, fun event => ?_⟩
        exact (List.mem_singleton.trans eq_comm).trans Option.some_inj.symm
  cases p with
  | opening number started answer => exact hsettles number started answer hnothing
  | _ => exact hnew

namespace Strategy

/-- The opens that polls of a node make are those of the leaves to which they go down. -/
def AccountsForOpens (node : Strategy) : Prop :=
  ∀ c p w, LogsOpens (fun event => ∃ path, Ask.Opens ⟨node, c, p, w⟩ path event) w
    (node.poll c p w).2

/-- So do the polls of a child that has been found, if there is one. -/
theorem pollFound_opens (found : Option Strategy)
    (h : ∀ child, found = some child → child.AccountsForOpens) (c : Context) (p : Progress)
    (w : World) :
    LogsOpens (fun event => ∃ child, found = some child ∧
      ∃ path, Ask.Opens ⟨child, c, p, w⟩ path event) w (pollFound c found p w).2 := by
  cases found with
  | none => exact LogsOpens.congr (opensNothing.refl w) fun _ => by simp
  | some child => exact (h child rfl c p w).congr fun _ => by simp

theorem poll_opens (node : Strategy) : node.AccountsForOpens := by
  have hone : ∀ {child : Strategy}, child.AccountsForOpens → ∀ c p w,
      LogsOpens (fun event => ∃ other, some child = some other ∧
        ∃ path, Ask.Opens ⟨other, c, p, w⟩ path event) w (child.poll c p w).2 :=
    fun {child} h => pollFound_opens (some child) fun _ hchild => Option.some.inj hchild ▸ h
  have hat : ∀ {children : List Strategy}, (∀ child ∈ children, child.AccountsForOpens) →
      ∀ c i p w,
      LogsOpens (fun event => ∃ child, children[i]? = some child ∧
        ∃ path, Ask.Opens ⟨child, c, p, w⟩ path event) w (pollAt children i c p w).2 := by
    intro children h c i
    rw [pollAt_eq]
    exact pollFound_opens _ (fun child hi => h child (List.mem_of_getElem? hi)) c
  induction node using nodeInduction with
  | transport leaf =>
    exact fun c p w => (leaf.poll_opens c p w).congr fun _ => Ask.opens_of_leaf.symm
  | unsupported name =>
    exact fun c p w => Ask.opens_of_traces ⟨_, c, p, w⟩ rfl (.nil (opensNothing.refl w))
  | delayed delay child ih =>
    exact fun c p w => Ask.opens_of_traces ⟨_, c, p, w⟩ rfl
      (delayed_traces delay (hone ih c) p w)
  | sequential options children ih =>
    exact fun c p w => Ask.opens_of_traces ⟨_, c, p, w⟩ rfl
      (sequential_traces (hat ih c) options _ _ p w)
  | cached settings transports child ihEntries ihChild =>
    intro c p w
    refine Ask.opens_of_traces ⟨_, c, p, w⟩ rfl
      (cached_traces (hone ihChild _) (fun name => ?_) _ p w)
    rw [pollNamed_eq]
    exact pollFound_opens _ (fun entry h => ihEntries _ (Table.mem_of_find h)) _
  | firstConnected children ih =>
    exact fun c p w => Ask.opens_of_traces ⟨_, c, p, w⟩ rfl
      (firstConnected_traces (hat ih c) _ p w)
  | bestConnectedEver site children ih =>
    exact fun c p w => Ask.opens_of_traces ⟨_, c, p, w⟩ rfl
      (bestConnectedEver_traces (hat ih c) site _ p w)
  | branch test onTrue onFalse _ ihTrue ihFalse =>
    exact fun c p w => Ask.opens_of_traces ⟨_, c, p, w⟩ rfl
      (branch_traces _ (hone ihTrue c) (hone ihFalse c) p w)

end Strategy

end Dialplan
