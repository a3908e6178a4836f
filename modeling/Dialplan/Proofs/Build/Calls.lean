import Mathlib.Data.List.Induction
import Mathlib.Data.List.Nodup
import Dialplan.Build.Environment

/-! Calls on an environment, any number of them in any order. A name is bound to what the last call
about it binds it to, and to nothing if that call takes it out. What is listed as a transport is
told by the transport definitions alone, and an answer that lists them is not changed by later
calls (`Environment.run_tells`). -/

namespace Dialplan

namespace Table

variable {α : Type}

theorem names_cons (key : String) (value : α) (rest : Table α) :
    names ((key, value) :: rest) = key :: names rest := rfl

theorem mem_names_iff {table : Table α} {name : String} :
    name ∈ names table ↔ ∃ value, find table name = some value := by
  induction table with
  | nil => simp [names, find]
  | cons entry rest ih =>
    obtain ⟨key, value⟩ := entry
    rw [names_cons, List.mem_cons, find]
    by_cases hkey : key = name
    · simp [hkey]
    · rw [or_iff_right (Ne.symm hkey), ih, if_neg hkey]

/-- Setting an entry repeats no name. -/
theorem nodup_names_put {table : Table α} (h : (names table).Nodup) (name : String) (value : α) :
    (names (put table name value)).Nodup := by
  induction table with
  | nil => exact List.nodup_singleton name
  | cons entry rest ih =>
    obtain ⟨key, old⟩ := entry
    rw [names_cons, List.nodup_cons] at h
    rw [put]
    split
    · rwa [names_cons, List.nodup_cons]
    · rename_i hne
      -- the entry that is set has another name, so a second one of this name was there before
      rw [names_cons, List.nodup_cons, mem_names_iff, find_put_of_ne _ _ hne, ← mem_names_iff]
      exact ⟨h.1, ih h.2⟩

end Table

namespace Environment

open Build

/-! ### Calls -/

inductive Call where
  | bind (name : String) (value : Value)
  | bindTransport (name : String) (node : Strategy)
  | take (name : String)
  /-- Asks for the transport definitions so far. -/
  | transports

inductive Answer where
  | done
  | taken (value : Option Value)
  | listed (table : TransportTable)

namespace Call

/-- The name that a call binds or takes out. -/
def about? : Call → Option String
  | bind name _ => some name
  | bindTransport name _ => some name
  | take name => some name
  | transports => none

/-- The calls that bind a name to a value. -/
inductive Binds (name : String) : Value → Call → Prop where
  | bind (value : Value) : Binds name value (.bind name value)
  | transport (node : Strategy) : Binds name (.strategy node) (.bindTransport name node)

/-- Is a call a transport definition of the name? -/
def Defines (name : String) (call : Call) : Prop := ∃ node, call = bindTransport name node

end Call

/-- What a call answers, and what it leaves. -/
def answer (env : Environment) : Call → Answer × Environment
  | .bind name value => (.done, env.bind name value)
  | .bindTransport name node => (.done, env.bindTransport name node)
  | .take name => (.taken (env.take name).1, (env.take name).2)
  | .transports => (.listed env.transports, env)

/-- Calls on an empty environment: their answers in order, and what they leave. -/
def run (calls : List Call) : List Answer × Environment :=
  calls.foldl (fun (answers, env) call => (answers ++ [(env.answer call).1], (env.answer call).2))
    ([], empty)

theorem run_snoc (calls : List Call) (call : Call) :
    run (calls ++ [call]) =
      ((run calls).1 ++ [((run calls).2.answer call).1], ((run calls).2.answer call).2) := by
  rw [run, List.foldl_append]
  rfl

/-! ### The last call of a kind -/

/-- Some call is one of `these`, and none after it is of the kind. -/
def LastOf (kind these : Call → Prop) (calls : List Call) : Prop :=
  ∃ before call after, calls = before ++ call :: after ∧ these call ∧ ∀ later ∈ after, ¬ kind later

/-- The last call about a name binds it to a value. -/
def LastBound (name : String) (value : Value) : List Call → Prop :=
  LastOf (fun call => call.about? = some name) (Call.Binds name value)

/-- The last transport definition of a name is that of a node. -/
def LastDefined (name : String) (node : Strategy) : List Call → Prop :=
  LastOf (Call.Defines name) (fun call => call = .bindTransport name node)

theorem not_lastOf_nil {kind these : Call → Prop} : ¬ LastOf kind these [] := by
  rintro ⟨before, call, after, h, -⟩
  simp at h

theorem lastOf_snoc {kind these : Call → Prop} {calls : List Call} {call : Call} :
    LastOf kind these (calls ++ [call]) ↔ these call ∨ ¬ kind call ∧ LastOf kind these calls := by
  constructor
  · rintro ⟨before, last, after, h, hlast, hafter⟩
    rcases List.eq_nil_or_concat after with rfl | ⟨earlier, latest, rfl⟩
    · obtain ⟨-, hcall⟩ := List.append_inj' h rfl
      rw [List.singleton_inj] at hcall
      exact .inl (hcall ▸ hlast)
    · rw [List.concat_eq_append] at h hafter
      rw [← List.cons_append, ← List.append_assoc] at h
      obtain ⟨hcalls, hcall⟩ := List.append_inj' h rfl
      rw [List.singleton_inj] at hcall
      rw [List.forall_mem_append, List.forall_mem_singleton] at hafter
      exact .inr ⟨hcall ▸ hafter.2, before, last, earlier, hcalls, hlast, hafter.1⟩
  · rintro (hcall | ⟨hcall, before, last, after, rfl, hlast, hafter⟩)
    · exact ⟨calls, call, [], rfl, hcall, nofun⟩
    · exact ⟨before, last, after ++ [call], by simp, hlast,
        List.forall_mem_append.mpr ⟨hafter, List.forall_mem_singleton.mpr hcall⟩⟩

theorem lastBound_snoc {name : String} {value : Value} {calls : List Call} {call : Call} :
    LastBound name value (calls ++ [call]) ↔
      call.Binds name value ∨ call.about? ≠ some name ∧ LastBound name value calls :=
  lastOf_snoc

theorem lastDefined_snoc {name : String} {node : Strategy} {calls : List Call} {call : Call} :
    LastDefined name node (calls ++ [call]) ↔
      call = .bindTransport name node ∨ ¬ call.Defines name ∧ LastDefined name node calls :=
  lastOf_snoc

/-! ### What a call does -/

theorem find_bindings_answer (env : Environment) (call : Call) (name : String) (value : Value) :
    Table.find (env.answer call).2.bindings name = some value ↔
      call.Binds name value ∨
        call.about? ≠ some name ∧ Table.find env.bindings name = some value := by
  -- what binds a name to a value: a value is put under this name or another one
  have hput : ∀ other found, Table.find (Table.put env.bindings other found) name = some value ↔
      other = name ∧ found = value ∨ other ≠ name ∧ Table.find env.bindings name = some value := by
    intro other found
    by_cases hname : name = other
    · subst hname
      simp [Table.find_put_self]
    · simp [Table.find_put_of_ne _ _ hname, Ne.symm hname]
  cases call with
  | bind other found =>
    refine (hput other found).trans (or_congr ⟨?_, ?_⟩ (by simp [Call.about?]))
    · rintro ⟨rfl, rfl⟩
      exact .bind found
    · rintro ⟨⟩
      exact ⟨rfl, rfl⟩
  | bindTransport other node =>
    refine (hput other (.strategy node)).trans (or_congr ⟨?_, ?_⟩ (by simp [Call.about?]))
    · rintro ⟨rfl, rfl⟩
      exact .transport node
    · rintro ⟨⟩
      exact ⟨rfl, rfl⟩
  | take other =>
    rw [or_iff_right nofun]
    show Table.find (Table.remove env.bindings other) name = some value ↔ _
    by_cases hname : name = other
    · subst hname
      simp [Table.find_remove_self, Call.about?]
    · simp [Table.find_remove_of_ne _ hname, Call.about?, Ne.symm hname]
  | transports => exact ⟨fun h => .inr ⟨nofun, h⟩, fun h => (h.resolve_left nofun).2⟩

theorem find_transports_answer (env : Environment) (call : Call) (name : String)
    (node : Strategy) :
    Table.find (env.answer call).2.transports name = some node ↔
      call = .bindTransport name node ∨
        ¬ call.Defines name ∧ Table.find env.transports name = some node := by
  have hsame : (∀ other found, call ≠ .bindTransport other found) →
      (Table.find env.transports name = some node ↔
        call = .bindTransport name node ∨
          ¬ call.Defines name ∧ Table.find env.transports name = some node) := by
    intro hother
    rw [or_iff_right (hother name node), and_iff_right]
    rintro ⟨found, hcall⟩
    exact hother name found hcall
  cases call with
  | bindTransport other found =>
    show Table.find (Table.put env.transports other found) name = some node ↔ _
    by_cases hname : name = other
    · subst hname
      simp [Table.find_put_self, Call.Defines]
    · simp [Table.find_put_of_ne _ _ hname, Call.Defines, Ne.symm hname]
  | _ => exact hsame nofun

theorem nodup_transports_answer {env : Environment} (h : (Table.names env.transports).Nodup)
    (call : Call) : (Table.names (env.answer call).2.transports).Nodup := by
  cases call with
  | bindTransport name node => exact Table.nodup_names_put h name node
  | _ => exact h

/-! ### What calls do -/

theorem find_bindings_run (calls : List Call) (name : String) (value : Value) :
    Table.find (run calls).2.bindings name = some value ↔ LastBound name value calls := by
  induction calls using List.reverseRecOn with
  | nil => exact iff_of_false nofun not_lastOf_nil
  | append_singleton calls call ih =>
    rw [run_snoc, find_bindings_answer, ih, lastBound_snoc]

theorem find_transports_run (calls : List Call) (name : String) (node : Strategy) :
    Table.find (run calls).2.transports name = some node ↔ LastDefined name node calls := by
  induction calls using List.reverseRecOn with
  | nil => exact iff_of_false nofun not_lastOf_nil
  | append_singleton calls call ih =>
    rw [run_snoc, find_transports_answer, ih, lastDefined_snoc]

theorem nodup_transports_run (calls : List Call) :
    (Table.names (run calls).2.transports).Nodup := by
  induction calls using List.reverseRecOn with
  | nil => exact List.nodup_nil
  | append_singleton calls call ih =>
    rw [run_snoc]
    exact nodup_transports_answer ih call

theorem length_answers (calls : List Call) : (run calls).1.length = calls.length := by
  induction calls using List.reverseRecOn with
  | nil => rfl
  | append_singleton calls call ih =>
    rw [run_snoc, List.length_append, List.length_append, ih]
    rfl

/-- Later calls do not change an answer: it is what the call answers to what the calls before it
leave. -/
theorem answers_run (before : List Call) (call : Call) (after : List Call) :
    (run (before ++ call :: after)).1[before.length]? = some ((run before).2.answer call).1 := by
  induction after using List.reverseRecOn with
  | nil =>
    rw [run_snoc, ← length_answers before]
    exact List.getElem?_concat_length
  | append_singleton after latest ih =>
    rw [← List.cons_append, ← List.append_assoc, run_snoc, List.getElem?_append_left, ih]
    rw [length_answers, List.length_append, List.length_cons]
    omega

/-- What an environment tells after calls. -/
structure Tells (calls : List Call) (answers : List Answer) (env : Environment) : Prop where
  lookup : ∀ name value, env.lookup name = .ok value ↔ LastBound name value calls
  unbound : ∀ name error, env.lookup name = .error error ↔
    error = .unresolvedSymbol name ∧ ∀ value, ¬ LastBound name value calls
  contains : ∀ name, env.contains name = true ↔ ∃ value, LastBound name value calls
  /-- What is taken out is what was bound. -/
  taken : ∀ before name after, calls = before ++ .take name :: after →
    ∃ found, answers[before.length]? = some (.taken found) ∧
      ∀ value, found = some value ↔ LastBound name value before
  listed : ∀ name node, Table.find env.transports name = some node ↔ LastDefined name node calls
  /-- No other name is listed, and none twice. -/
  names : (Table.names env.transports).Nodup ∧
    ∀ name, name ∈ Table.names env.transports ↔ ∃ node, LastDefined name node calls
  /-- A list of transports that was asked for is what was listed then. -/
  snapshot : ∀ before after, calls = before ++ .transports :: after →
    ∃ table, answers[before.length]? = some (.listed table) ∧
      table = (run before).2.transports ∧
      ∀ name node, Table.find table name = some node ↔ LastDefined name node before

/-- Whatever is called in whatever order, an environment tells by the last calls. -/
theorem run_tells (calls : List Call) : Tells calls (run calls).1 (run calls).2 where
  lookup name value := by
    rw [← find_bindings_run, Environment.lookup]
    cases Table.find (run calls).2.bindings name <;> simp
  unbound name error := by
    simp only [← find_bindings_run, Environment.lookup]
    cases Table.find (run calls).2.bindings name <;> simp [eq_comm]
  contains name := by
    simp only [← find_bindings_run, Environment.contains, Option.isSome_iff_exists]
  taken before name after h := by
    subst h
    exact ⟨_, answers_run before _ after, fun value => find_bindings_run before name value⟩
  listed := find_transports_run calls
  names := by
    refine ⟨nodup_transports_run calls, fun name => ?_⟩
    simp only [Table.mem_names_iff, find_transports_run]
  snapshot before after h := by
    subst h
    exact ⟨_, answers_run before _ after, rfl, find_transports_run before⟩

end Environment

end Dialplan
