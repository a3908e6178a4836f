import Dialplan.Strategy.Tree

/-! The shape of a tree: all of it but the sites that tell its nodes apart. Two trees are
structurally equal if they have the same shape: the same kinds of nodes with the same durations,
options and definitions, the same children, conditions and tables in the same order. -/

namespace Dialplan

/-- Changes the entries of a table, and keeps their names and places. -/
def Table.mapValues {α β : Type} (f : α → β) (table : Table α) : Table β :=
  table.map fun entry => (entry.1, f entry.2)

theorem Table.put_mapValues {α β : Type} (f : α → β) (table : Table α) (name : String)
    (value : α) :
    Table.put (Table.mapValues f table) name (f value) =
      Table.mapValues f (Table.put table name value) := by
  induction table with
  | nil => rfl
  | cons entry rest ih =>
    obtain ⟨key, old⟩ := entry
    by_cases h : key = name
    · simp [Table.mapValues, Table.put, h]
    · simpa [Table.mapValues, Table.put, h] using ih

/-- The test about another strategy. -/
def Condition.map {σ τ : Type} (f : σ → τ) : Condition σ → Condition τ
  | .isSupported strategy => .isSupported (f strategy)
  | .constant outcome => .constant outcome

namespace Strategy

mutual

/-- The tree with no sites. -/
def shape : Strategy → Strategy
  | transport leaf => transport leaf
  | unsupported name => unsupported name
  | delayed delay child => delayed delay (shape child)
  | sequential options children => sequential options (shapeAll children)
  | cached settings transports child => cached settings (shapeTable transports) (shape child)
  | firstConnected children => firstConnected (shapeAll children)
  | bestConnectedEver _ children => bestConnectedEver [] (shapeAll children)
  | branch test onTrue onFalse => branch (shapeTest test) (shape onTrue) (shape onFalse)

def shapeAll : List Strategy → List Strategy
  | [] => []
  | child :: rest => shape child :: shapeAll rest

def shapeTable : List (String × Strategy) → List (String × Strategy)
  | [] => []
  | (name, strategy) :: rest => (name, shape strategy) :: shapeTable rest

def shapeTest : Condition Strategy → Condition Strategy
  | .isSupported strategy => .isSupported (shape strategy)
  | .constant outcome => .constant outcome

end

theorem shapeAll_eq (children : List Strategy) : shapeAll children = children.map shape := by
  induction children with
  | nil => rfl
  | cons child rest ih => rw [shapeAll, ih, List.map_cons]

theorem shapeTable_eq (transports : TransportTable) :
    shapeTable transports = Table.mapValues shape transports := by
  induction transports with
  | nil => rfl
  | cons entry rest ih => exact congrArg (List.cons (entry.1, entry.2.shape)) ih

theorem shapeTest_eq (test : Condition Strategy) : shapeTest test = test.map shape := by
  cases test <;> rfl

@[simp] theorem shape_delayed (delay : Duration) (child : Strategy) :
    (delayed delay child).shape = delayed delay child.shape := rfl

@[simp] theorem shape_sequential (options : SequentialOptions) (children : List Strategy) :
    (sequential options children).shape = sequential options (children.map shape) :=
  congrArg (sequential options) (shapeAll_eq children)

@[simp] theorem shape_cached (settings : CacheSettings) (transports : TransportTable)
    (child : Strategy) :
    (cached settings transports child).shape =
      cached settings (Table.mapValues shape transports) child.shape :=
  congrArg (cached settings · child.shape) (shapeTable_eq transports)

@[simp] theorem shape_firstConnected (children : List Strategy) :
    (firstConnected children).shape = firstConnected (children.map shape) :=
  congrArg firstConnected (shapeAll_eq children)

@[simp] theorem shape_bestConnectedEver (site : Site) (children : List Strategy) :
    (bestConnectedEver site children).shape = bestConnectedEver [] (children.map shape) :=
  congrArg (bestConnectedEver []) (shapeAll_eq children)

@[simp] theorem shape_branch (test : Condition Strategy) (onTrue onFalse : Strategy) :
    (branch test onTrue onFalse).shape = branch (test.map shape) onTrue.shape onFalse.shape :=
  congrArg (branch · onTrue.shape onFalse.shape) (shapeTest_eq test)

end Strategy

end Dialplan
