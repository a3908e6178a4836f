import Dialplan.Proofs.Build.Nodes

/-! Sites of built trees. An expression makes its nodes after those that it is made from: these
were made by earlier instructions, or at sites below its own. So no node that remembers its races
stands below another one of the same site (`Builder.build_unnested`). -/

namespace Dialplan

open Strategy

/-- The nodes with a memory within a tree were made at certain sites, and none of them stands
below another of the same site. -/
def Strategy.Placed (P : Site → Prop) (root : Strategy) : Prop :=
  ∀ site children, Within (.bestConnectedEver site children) root →
    P site ∧ Unnested site children

theorem Strategy.Placed.mono {P Q : Site → Prop} (h : ∀ site, P site → Q site) {root : Strategy}
    (hp : root.Placed P) : root.Placed Q :=
  fun site children hw => ⟨h site (hp site children hw).1, (hp site children hw).2⟩

/-- A site of one of the first instructions of a plan that is built at a base. -/
def Earlier (base : Site) (index : Nat) (site : Site) : Prop :=
  ∃ j < index, base ++ [j] <+: site

/-- A site is none of an earlier instruction. -/
theorem not_earlier {base site : Site} {index : Nat} (h : base ++ [index] <+: site) :
    ¬ Earlier base index site := by
  rintro ⟨j, hj, hsite⟩
  have hle : (base ++ [j]).length ≤ (base ++ [index]).length := by simp
  have heq := (List.prefix_of_prefix_length_le hsite h hle).eq_of_length (by simp)
  have hlast := List.append_cancel_left heq
  exact absurd (List.cons.inj hlast).1 (Nat.ne_of_lt hj)

section

variable {base : Site} {index : Nat}

/-- What an instruction makes at a site is placed there or below, or was made earlier. -/
def PlacedAt (base : Site) (index : Nat) (here : Site) (node : Strategy) : Prop :=
  base ++ [index] <+: here → node.Placed fun site => Earlier base index site ∨ here <+: site

theorem placedAt_kept (setting : Build.Setting)
    (htable : ∀ entry ∈ setting.transports, entry.2.Placed (Earlier base index)) :
    Combinator.Kept setting (PlacedAt base index) where
  lift {here i node} h hhere := by
    refine (h (hhere.trans (List.prefix_append _ _))).mono fun site hsite => ?_
    exact hsite.imp_right (List.prefix_append _ _).trans
  delayed hc hhere := by
    intro site children hw
    cases hw with
    | delayed hw => exact hc hhere site children hw
  sequential _ hc hhere := by
    intro site children hw
    cases hw with
    | sequential hm hw => exact hc _ hm hhere site children hw
  cached hc hhere := by
    intro site children hw
    cases hw with
    | cached hw => exact hc hhere site children hw
    | entry hm hw => exact (htable _ hm site children hw).imp_left .inl
  firstConnected _ hc hhere := by
    intro site children hw
    cases hw with
    | firstConnected hm hw => exact hc _ hm hhere site children hw
  bestConnectedEver {here _} _ hc hhere := by
    intro site children hw
    cases hw with
    | self =>
      refine ⟨.inr List.prefix_rfl, fun child hm others hbelow => ?_⟩
      obtain ⟨i, hchild⟩ := hc child hm
      rcases (hchild (hhere.trans (List.prefix_append _ _)) _ _ hbelow).1 with hearlier | hprefix
      · exact not_earlier hhere hearlier
      · exact absurd hprefix.length_le (by simp)
    | bestConnectedEver hm hw =>
      obtain ⟨i, hchild⟩ := hc _ hm
      obtain ⟨hsite, hunnested⟩ :=
        hchild (hhere.trans (List.prefix_append _ _)) site children hw
      exact ⟨hsite.imp_right (List.prefix_append _ _).trans, hunnested⟩
  branch htest htrue hfalse hhere := by
    intro site children hw
    cases hw with
    | condition hw => exact htest _ rfl hhere site children hw
    | onTrue hw => exact htrue hhere site children hw
    | onFalse hw => exact hfalse hhere site children hw

end

/-- What is bound or listed after some instructions was made by them. -/
structure Environment.Placed (base : Site) (index : Nat) (env : Environment) : Prop where
  bound : ∀ name value, env.lookup name = .ok value →
    value.Sound (Strategy.Placed (Earlier base index))
  listed : ∀ entry ∈ env.transports, entry.2.Placed (Earlier base index)

namespace Environment.Placed

variable {base : Site} {index : Nat} {env : Environment}

theorem empty : Environment.empty.Placed base index := by
  refine ⟨fun name value h => ?_, nofun⟩
  cases lookup_eq_ok.mp h

theorem succ (h : env.Placed base index) : env.Placed base (index + 1) := by
  have hmono : ∀ site, Earlier base index site → Earlier base (index + 1) site :=
    fun site ⟨j, hj, hsite⟩ => ⟨j, Nat.lt_succ_of_lt hj, hsite⟩
  exact ⟨fun name value hl => (h.bound name value hl).mono fun _ hp => hp.mono hmono,
    fun entry hm => (h.listed entry hm).mono hmono⟩

theorem bind (h : env.Placed base index) (name : String) {value : Build.Value}
    (hv : value.Sound (Strategy.Placed (Earlier base index))) :
    (env.bind name value).Placed base index := by
  refine ⟨fun other found hl => ?_, h.listed⟩
  rcases lookup_bind hl with rfl | hl
  · exact hv
  · exact h.bound other found hl

theorem bindTransport (h : env.Placed base index) {name : String} {node : Strategy}
    (hn : node.Placed (Earlier base index)) :
    (env.bindTransport name node).Placed base index := by
  have hlisted : Environment.Placed base index
      { env with transports := Table.put env.transports name node } := by
    refine ⟨h.bound, fun entry hm => ?_⟩
    rcases Table.eq_or_mem_of_mem_put hm with rfl | hm
    · exact hn
    · exact h.listed entry hm
  exact hlisted.bind name (Build.Value.sound_strategy hn)

end Environment.Placed

namespace Builder

variable {builder : Builder} {options : BuildOptions} {base : Site}

/-- One instruction more. -/
theorem step_placed {index : Nat} {env env' : Environment} {instruction : Instruction}
    (h : env.Placed base index)
    (hstep : builder.step options (base ++ [index]) env instruction = .ok env') :
    env'.Placed base (index + 1) := by
  cases instruction with
  | define name body =>
    obtain ⟨value, hv, hstep⟩ := ok_of_bind hstep
    cases hstep
    have hvalue := Evaluator.evaluate_sound
      (placedAt_kept (Evaluator.setting ⟨env, options, builder.cache⟩) h.listed)
      (fun here name value hl => (h.bound name value hl).mono fun _ hp _ =>
        hp.mono fun _ => .inl) body hv
    refine h.succ.bind name (hvalue.mono fun node hp => (hp List.prefix_rfl).mono ?_)
    rintro site (⟨j, hj, hsite⟩ | hsite)
    · exact ⟨j, Nat.lt_succ_of_lt hj, hsite⟩
    · exact ⟨index, Nat.lt_succ_self index, hsite⟩
  | defTransport name type priority body =>
    obtain ⟨mechanism, -, hstep⟩ := ok_of_bind hstep
    obtain ⟨fields, -, hstep⟩ := ok_of_bind hstep
    cases hstep
    refine h.succ.bindTransport ?_
    unfold defineTransport
    split <;> exact fun _ _ hw => nomatch hw

theorem steps_placed : ∀ {index : Nat} {program : Program} {env env' : Environment},
    env.Placed base index → builder.steps options base index program env = .ok env' →
    ∃ last, env'.Placed base last
  | _, [], _, _, h, hsteps => by
    cases hsteps
    exact ⟨_, h⟩
  | _, _ :: _, _, _, h, hsteps => by
    obtain ⟨env, hstep, hsteps⟩ := ok_of_bind hsteps
    exact steps_placed (step_placed h hstep) hsteps

/-- In a built tree no node that remembers its races stands below one of the same site. -/
theorem build_unnested {program : Program} {root : Strategy}
    (h : builder.build options base program = .ok root) {site : Site} {children : List Strategy}
    (hw : Within (.bestConnectedEver site children) root) : Unnested site children := by
  obtain ⟨-, env, hsteps, hl⟩ := build_eq_ok.mp h
  obtain ⟨last, hplaced⟩ := steps_placed .empty hsteps
  exact (hplaced.bound resultName _ hl root .strategy site children hw).2

end Builder

end Dialplan
