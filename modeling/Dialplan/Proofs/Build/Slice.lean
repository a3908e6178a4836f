import Dialplan.Proofs.Build.Dependence

/-! Slicing. A definition is needed if the result, a transport definition or a needed definition
reads what it binds. The needed definitions are those that a backward pass over the plan keeps
(`Program.slice_eq_prune`), and without the others a plan builds a tree of the same shape
(`Builder.build_slice`). -/

namespace Dialplan

open Build

namespace Program

/-! ### Needed definitions -/

/-- No instruction from place `start` on and before place `stop` binds the name. -/
def Unbound (program : Program) (name : String) (start stop : Nat) : Prop :=
  ∀ i instruction, start ≤ i → i < stop → program[i]? = some instruction →
    instruction.name ≠ name

/-- The last binding of a name before place `stop` is the definition at place `i`. -/
structure LastDefinition (program : Program) (name : String) (stop i : Nat) : Prop where
  before : i < stop
  defines : ∃ body, program[i]? = some (.define name body)
  last : Unbound program name (i + 1) stop

/-- The definition at a place is needed: the value that it binds is the result of the plan, or is
read by the definition of a transport or by a needed definition. -/
inductive Needed (program : Program) : Nat → Prop where
  | result {i} : LastDefinition program Builder.resultName program.length i → Needed program i
  | forTransport {i j name reader} : LastDefinition program name j i →
      program[j]? = some reader → reader.isTransport = true → name ∈ reader.symbols →
      Needed program i
  | forDefinition {i j name reader} : LastDefinition program name j i →
      program[j]? = some reader → Needed program j → name ∈ reader.symbols → Needed program i

/-! ### Live names -/

end Program

/-- Is the instruction kept by a backward pass when these names are live after it? -/
def Instruction.isKept (instruction : Instruction) (live : List String) : Bool :=
  instruction.isTransport || live.contains instruction.name

namespace Program

/-- The names whose values matter to the rest of a plan. -/
def live : Program → List String
  | [] => [Builder.resultName]
  | instruction :: rest =>
    (if instruction.isKept (live rest) then instruction.symbols else []) ++
      (live rest).filter (· ≠ instruction.name)

/-- The rest of a plan without the definitions of names that are not live. -/
def prune : Program → Program
  | [] => []
  | instruction :: rest =>
    if instruction.isKept (live rest) then instruction :: prune rest else prune rest

variable {program : Program}

theorem mem_live_cons {name : String} {instruction : Instruction} {rest : Program} :
    name ∈ live (instruction :: rest) ↔
      instruction.isKept (live rest) = true ∧ name ∈ instruction.symbols ∨
        name ∈ live rest ∧ name ≠ instruction.name := by
  by_cases h : instruction.isKept (live rest) = true <;> simp [live, h]

theorem drop_of_getElem? {i : Nat} {instruction : Instruction}
    (h : program[i]? = some instruction) :
    program.drop i = instruction :: program.drop (i + 1) := by
  obtain ⟨hi, rfl⟩ := List.getElem?_eq_some_iff.mp h
  exact List.drop_eq_getElem_cons hi

/-- What is live at a place is live as far back as it is not bound. -/
theorem mem_live_of_unbound {name : String} {n : Nat} : ∀ {start : Nat},
    Unbound program name start (start + n) → name ∈ live (program.drop (start + n)) →
    name ∈ live (program.drop start) := by
  induction n with
  | zero => exact fun _ h => h
  | succ n ih =>
    intro start hunbound hlive
    have hnext : name ∈ live (program.drop (start + 1)) := by
      refine ih (fun i instruction hi hstop => hunbound i instruction (by omega) (by omega)) ?_
      rwa [Nat.add_assoc, Nat.add_comm 1]
    cases h : program[start]? with
    | none =>
      have hlength : program.length ≤ start := List.getElem?_eq_none_iff.mp h
      rwa [List.drop_of_length_le (by omega)] at hnext ⊢
    | some instruction =>
      rw [drop_of_getElem? h, mem_live_cons]
      exact .inr ⟨hnext, (hunbound start instruction (by omega) (by omega) h).symm⟩

theorem mem_live_of_lastDefinition {name : String} {stop i : Nat}
    (h : LastDefinition program name stop i) (hlive : name ∈ live (program.drop stop)) :
    name ∈ live (program.drop (i + 1)) := by
  obtain ⟨n, rfl⟩ := Nat.exists_eq_add_of_le h.before
  exact mem_live_of_unbound h.last hlive

theorem Needed.mem_live {i : Nat} (h : Needed program i) {instruction : Instruction}
    (hi : program[i]? = some instruction) :
    instruction.name ∈ live (program.drop (i + 1)) := by
  induction h generalizing instruction with
  | result hlast =>
    obtain ⟨body, hbody⟩ := hlast.defines
    cases hi.symm.trans hbody
    exact mem_live_of_lastDefinition hlast (by simp [live, Instruction.name])
  | forTransport hlast hj htransport hm =>
    obtain ⟨body, hbody⟩ := hlast.defines
    cases hi.symm.trans hbody
    refine mem_live_of_lastDefinition hlast ?_
    rw [drop_of_getElem? hj, mem_live_cons]
    exact .inl ⟨by simp [Instruction.isKept, htransport], hm⟩
  | forDefinition hlast hj _ hm ih =>
    obtain ⟨body, hbody⟩ := hlast.defines
    cases hi.symm.trans hbody
    refine mem_live_of_lastDefinition hlast ?_
    rw [drop_of_getElem? hj, mem_live_cons]
    exact .inl ⟨by simp [Instruction.isKept, ih hj], hm⟩

/-- A name is live only if its last definition is needed. -/
theorem needed_of_mem_live {rest : Program} : ∀ {name : String} {stop i : Nat},
    program.drop stop = rest → name ∈ live rest → LastDefinition program name stop i →
    Needed program i := by
  induction rest with
  | nil =>
    intro name stop i hrest hlive hlast
    obtain rfl : name = Builder.resultName := by simpa [live] using hlive
    have hlength : program.length ≤ stop := List.drop_eq_nil_iff.mp hrest
    obtain ⟨body, hbody⟩ := hlast.defines
    exact .result ⟨(List.getElem?_eq_some_iff.mp hbody).1, ⟨body, hbody⟩,
      fun j instruction hj hstop => hlast.last j instruction hj (by omega)⟩
  | cons reader rest ih =>
    intro name stop i hrest hlive hlast
    have hreader : program[stop]? = some reader := by
      rw [← List.head?_drop, hrest]
      rfl
    have hnext : program.drop (stop + 1) = rest :=
      (List.cons.inj ((drop_of_getElem? hreader).symm.trans hrest)).2
    -- either the instruction at `stop` reads the name, or the name is live after it as well
    rcases mem_live_cons.mp hlive with ⟨hkept, hm⟩ | ⟨hlive, hne⟩
    · cases reader with
      | defTransport _ _ _ _ => exact .forTransport hlast hreader rfl hm
      | define other body =>
        have hother : other ∈ live rest := by
          simpa [Instruction.isKept, Instruction.isTransport, Instruction.name] using hkept
        -- the reader is itself the last definition of its name before the next instruction
        refine .forDefinition hlast hreader (ih hnext hother ?_) hm
        exact ⟨Nat.lt_succ_self _, ⟨body, hreader⟩, fun _ _ _ _ => by omega⟩
    · refine ih hnext hlive ⟨Nat.lt_succ_of_lt hlast.before, hlast.defines, ?_⟩
      intro j instruction hj hstop hinstruction
      by_cases hlt : j < stop
      · exact hlast.last j instruction hj hlt hinstruction
      · obtain rfl : j = stop := by omega
        cases hreader.symm.trans hinstruction
        exact hne.symm

/-- A definition is needed if and only if its name is live after it. -/
theorem needed_iff {i : Nat} {name : String} {body : Expression}
    (h : program[i]? = some (.define name body)) :
    Needed program i ↔ name ∈ live (program.drop (i + 1)) :=
  ⟨fun hneeded => hneeded.mem_live h, fun hlive =>
    needed_of_mem_live rfl hlive ⟨Nat.lt_succ_self i, ⟨body, h⟩, fun _ _ _ _ => by omega⟩⟩

theorem Needed.defines {i : Nat} (h : Needed program i) :
    ∃ name body, program[i]? = some (.define name body) := by
  cases h with
  | result hlast | forTransport hlast | forDefinition hlast => exact ⟨_, hlast.defines⟩

instance (program : Program) (i : Nat) : Decidable (Needed program i) :=
  match h : program[i]? with
  | some (.define _ _) => decidable_of_iff _ (needed_iff h).symm
  | some (.defTransport _ _ _ _) => isFalse fun hneeded => by
    obtain ⟨_, _, hdefine⟩ := hneeded.defines
    cases h.symm.trans hdefine
  | none => isFalse fun hneeded => by
    obtain ⟨_, _, hdefine⟩ := hneeded.defines
    cases h.symm.trans hdefine

/-- The plan without the definitions that are not needed. -/
def slice (program : Program) : Program :=
  (program.zipIdx.filter fun entry => entry.1.isTransport || decide (Needed program entry.2)).map
    Prod.fst

theorem isKept_live {i : Nat} {instruction : Instruction} {rest : Program}
    (h : program.drop i = instruction :: rest) :
    (instruction.isTransport || decide (Needed program i)) = instruction.isKept (live rest) := by
  have hi : program[i]? = some instruction := by
    rw [← List.head?_drop, h]
    rfl
  have hrest : program.drop (i + 1) = rest :=
    (List.cons.inj ((drop_of_getElem? hi).symm.trans h)).2
  cases instruction with
  | defTransport _ _ _ _ => rfl
  | define name body =>
    simp [Instruction.isKept, Instruction.isTransport, Instruction.name, needed_iff hi, hrest]

/-- One pass from the end of a plan finds what is needed. -/
theorem slice_eq_prune (program : Program) : program.slice = prune program := by
  have hfrom : ∀ {rest : Program} {i : Nat}, program.drop i = rest →
      ((rest.zipIdx i).filter fun entry =>
        entry.1.isTransport || decide (Needed program entry.2)).map Prod.fst = prune rest := by
    intro rest
    induction rest with
    | nil => exact fun _ => rfl
    | cons instruction rest ih =>
      intro i h
      have hrest : program.drop (i + 1) = rest := by rw [← List.tail_drop, h, List.tail_cons]
      rw [List.zipIdx_cons, List.filter_cons, isKept_live h, prune, ← ih hrest]
      split <;> rfl
  exact hfrom rfl

/-- Transport definitions stay. -/
theorem types_prune (program : Program) : Program.types (prune program) = program.types := by
  induction program with
  | nil => rfl
  | cons instruction rest ih =>
    cases instruction with
    | defTransport name type priority body => exact congrArg (List.cons type) ih
    | define name body =>
      rw [prune]
      split
      · exact ih
      · exact ih

end Program

namespace Builder

variable {builder : Builder} {options : BuildOptions} {site site' : Site}

/-- A plan without what is not live after it runs to the same result, in environments that agree
on what is live. -/
theorem steps_prune {program : Program} {index index' : Nat} {env env' after : Environment}
    (h : env.Agree (· ∈ program.live) True env')
    (hsteps : builder.steps options site index program env = .ok after) :
    ∃ after', builder.steps options site' index' program.prune env' = .ok after' ∧
      after.Agree (· = resultName) True after' := by
  induction program generalizing index index' env env' with
  | nil =>
    cases hsteps
    exact ⟨env', rfl, h.mono (fun _ hn => List.mem_singleton.mpr hn) id⟩
  | cons instruction rest ih =>
    obtain ⟨between, hstep, hsteps⟩ := ok_of_bind hsteps
    by_cases hkept : instruction.isKept (Program.live rest) = true
    · have hmatches : instruction.Matches ⟨env, options, builder.cache⟩
          ⟨env', options, builder.cache⟩ (site ++ [index]) (site' ++ [index']) instruction :=
        Instruction.matches_of_agree
          (h.mono (fun _ hn => Program.mem_live_cons.mpr (.inl ⟨hkept, hn⟩)) id)
      obtain ⟨between', hstep', hbetween⟩ := step_of_matches h hmatches hstep
      have hlive : between.Agree (· ∈ Program.live rest) True between' := by
        refine hbetween.mono (fun name hn => ?_) id
        by_cases hname : name = instruction.name
        · exact .inr hname
        · exact .inl (Program.mem_live_cons.mpr (.inr ⟨hn, hname⟩))
      have hrest : ∃ after', builder.steps options site' (index' + 1) (Program.prune rest)
          between' = .ok after' ∧ after.Agree (· = resultName) True after' := ih hlive hsteps
      obtain ⟨after', hsteps', hafter⟩ := hrest
      refine ⟨after', ?_, hafter⟩
      rw [Program.prune, if_pos hkept, steps, hstep']
      exact hsteps'
    · -- a definition of a name that is not live, so the environments still agree on what is
      rw [Program.prune, if_neg hkept]
      cases instruction with
      | defTransport _ _ _ _ => exact absurd rfl hkept
      | define name body =>
        obtain ⟨value, -, hstep⟩ := ok_of_bind hstep
        cases hstep
        have hname : name ∉ Program.live rest := by
          simpa [Instruction.isKept, Instruction.isTransport, Instruction.name] using hkept
        refine ih (Environment.Agree.bind_left (h.mono (fun other hn => ?_) id) hname value) hsteps
        refine Program.mem_live_cons.mpr (.inr ⟨hn, ?_⟩)
        rintro rfl
        exact hname hn

/-- Definitions that are not needed can be left out: what is left builds a tree of the same
shape. -/
theorem build_slice {program : Program} {root : Strategy}
    (h : builder.build options site program = .ok root) :
    ∃ root', builder.build options site' program.slice = .ok root' ∧
      root'.shape = root.shape := by
  rw [Program.slice_eq_prune]
  exact build_of_agree (Program.types_prune program) h (steps_prune (.refl .empty))

end Builder

/-! A plan whose names are bound several times, and of whose definitions some are only in the
way of the others. -/

def crowdedBuilder : Builder := ⟨[("ws", 0)], 0⟩

def crowdedProgram : Program :=
  [.define "ws" (.literal (.map [("host", .string "example.org")])),
    .define "spare" (.list [.symbol "ws"]),
    .defTransport "ws" "ws" 1 (some (.symbol "ws")),
    .define "race" (.invocation "first_connected" [.symbol "ws"]),
    .define "strategy" (.symbol "race"),
    .define "race" (.invocation "best_connected_ever" [.symbol "ws", .symbol "ws"]),
    .define "strategy" (.invocation "cached" [.literal (.number (.unsigned 1000)), .symbol "race"])]

/-- The definitions that are needed, and the transport. -/
def crowdedSlice : Program :=
  [.define "ws" (.literal (.map [("host", .string "example.org")])),
    .defTransport "ws" "ws" 1 (some (.symbol "ws")),
    .define "race" (.invocation "best_connected_ever" [.symbol "ws", .symbol "ws"]),
    .define "strategy" (.invocation "cached" [.literal (.number (.unsigned 1000)), .symbol "race"])]

/-- The slice builds the same tree, though its race stands at another site. -/
theorem build_slice_crowded :
    crowdedProgram.slice = crowdedSlice ∧
    ∃ root root', crowdedBuilder.build .default [] crowdedProgram = .ok root ∧
      crowdedBuilder.build .default [] crowdedSlice = .ok root' ∧ root'.shape = root.shape := by
  have hslice : crowdedProgram.slice = crowdedSlice := by rfl
  let leaf : Strategy := .transport ⟨"ws", "ws", 1, 0, [("host", .string "example.org")], none⟩
  have hbuild : crowdedBuilder.build .default [] crowdedProgram = .ok
      (.cached ⟨Duration.ofMillis 1000, false, 0⟩ [("ws", leaf)]
        (.bestConnectedEver [5] [leaf, leaf])) := by rfl
  obtain ⟨root', hsliced, hshape⟩ := Builder.build_slice hbuild
  exact ⟨hslice, _, root', hbuild, hslice ▸ hsliced, hshape⟩

end Dialplan
