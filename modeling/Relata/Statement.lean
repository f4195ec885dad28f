import Relata.Query
import Relata.Table

/-!
Statements: what a store executes, and the commands that set its tables up.
-/

namespace Relata

/-- Adds one row. The values are given to the columns at the same positions. -/
structure Insert where
  table : TableRef
  columns : List String
  values : List Expr
  /-- Whether the stored row is the answer. -/
  returning : Bool

inductive Statement
  | query (q : Query)
  | insert (row : Insert)

def Statement.isQuery : Statement → Bool
  | .query _ => true
  | .insert _ => false

def Statement.returnsRows : Statement → Bool
  | .query _ => true
  | .insert row => row.returning

structure ColumnDef where
  name : String
  type : ColumnType
  nullable : Bool
  autoIncrement : Bool
  deriving DecidableEq

/-- A table's name is a path: the parts that qualify it, then its own name. -/
structure CreateTable where
  name : List String
  columns : List ColumnDef
  primaryKey : List String
  deriving DecidableEq

structure DropTable where
  name : List String
  ifExists : Bool
  deriving DecidableEq

inductive Command
  | run (statement : Statement)
  | createTable (create : CreateTable)
  | dropTable (drop : DropTable)

def Command.isQuery : Command → Bool
  | .run statement => statement.isQuery
  | _ => false

def Column.definition (column : Column) : ColumnDef :=
  ⟨column.name, column.type, column.nullable, column.autoIncrement⟩

namespace Table

def create (table : Table) : CreateTable where
  name := [table.name]
  columns := table.columns.map Column.definition
  primaryKey := table.keyColumns.map Column.name

def drop (table : Table) (ifExists : Bool) : DropTable := ⟨[table.name], ifExists⟩

end Table

end Relata
