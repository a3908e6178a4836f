/-! Tables of named entries. A name has at most one entry once tables are only
grown through `put`; a name keeps the place of its first insertion and the value
of its last one. -/

namespace Dialplan

/-- Named entries, in order of first insertion. -/
abbrev Table (α : Type) := List (String × α)

namespace Table

variable {α : Type}

/-- Looks a name up. -/
def find : Table α → String → Option α
  | [], _ => none
  | (key, value) :: rest, name => if key = name then some value else find rest name

/-- Sets the entry of `name`, in place if there is one. -/
def put : Table α → String → α → Table α
  | [], name, value => [(name, value)]
  | (key, old) :: rest, name, value =>
    if key = name then (key, value) :: rest else (key, old) :: put rest name value

/-- Drops every entry of `name`. -/
def remove : Table α → String → Table α
  | [], _ => []
  | (key, value) :: rest, name =>
    if key = name then remove rest name else (key, value) :: remove rest name

/-- The names in order. -/
def names (table : Table α) : List String := table.map Prod.fst

/-- The table of a list of entries, later entries of a name winning. -/
def ofEntries (entries : List (String × α)) : Table α :=
  entries.foldl (fun table entry => put table entry.1 entry.2) []

theorem find_put_self (table : Table α) (name : String) (value : α) :
    find (put table name value) name = some value := by
  induction table with
  | nil => simp [put, find]
  | cons entry rest ih =>
    obtain ⟨key, old⟩ := entry
    by_cases h : key = name
    · simp [put, find, h]
    · simp [put, find, h, ih]

theorem find_put_of_ne (table : Table α) {name other : String} (value : α) (h : other ≠ name) :
    find (put table name value) other = find table other := by
  induction table with
  | nil => simp [put, find, Ne.symm h]
  | cons entry rest ih =>
    obtain ⟨key, old⟩ := entry
    by_cases hk : key = name
    · subst hk
      simp [put, find, Ne.symm h]
    · by_cases ho : key = other
      · subst ho
        simp [put, find, h]
      · simp [put, find, hk, ho, ih]

theorem find_remove_self (table : Table α) (name : String) :
    find (remove table name) name = none := by
  induction table with
  | nil => rfl
  | cons entry rest ih =>
    obtain ⟨key, old⟩ := entry
    by_cases h : key = name
    · simp [remove, h, ih]
    · simp [remove, find, h, ih]

theorem find_remove_of_ne (table : Table α) {name other : String} (h : other ≠ name) :
    find (remove table name) other = find table other := by
  induction table with
  | nil => rfl
  | cons entry rest ih =>
    obtain ⟨key, old⟩ := entry
    by_cases hk : key = name
    · subst hk
      simp [remove, find, Ne.symm h, ih]
    · by_cases ho : key = other
      · subst ho
        simp [remove, find, h]
      · simp [remove, find, hk, ho, ih]

end Table

end Dialplan
