import Relata.Value

/-!
Tables as a schema declares them: names, columns and the types of columns.
-/

namespace Relata

/-- What a column stores. An integer type names its width in bytes. -/
inductive ColumnType
  | boolean
  | integer (width : Nat)
  | text
  deriving DecidableEq

namespace ColumnType

/-- Whether a column of this type takes the value. Every type takes null; whether the column does
is a matter of the column. -/
def accepts : ColumnType → Value → Bool
  | _, .null => true
  | .boolean, .bool _ => true
  | .integer _, .int _ => true
  | .text, .text _ => true
  | _, _ => false

def display : ColumnType → String
  | .boolean => "Boolean"
  | .integer width => "Integer(" ++ toString width ++ ")"
  | .text => "Text"

end ColumnType

structure Column where
  name : String
  type : ColumnType
  nullable : Bool
  primaryKey : Bool
  /-- Numbered by the store when a row leaves the column out. -/
  autoIncrement : Bool
  deriving DecidableEq

structure Table where
  name : String
  columns : List Column
  deriving DecidableEq

namespace Table

/-- The first column of that name. -/
def column? (table : Table) (name : String) : Option Column :=
  table.columns.find? (·.name == name)

def hasColumn (table : Table) (name : String) : Bool :=
  table.columns.any (·.name == name)

def columnNames (table : Table) : List String := table.columns.map Column.name

def keyColumns (table : Table) : List Column := table.columns.filter Column.primaryKey

theorem hasColumn_iff {table : Table} {name : String} :
    table.hasColumn name = true ↔ name ∈ table.columnNames := by
  simp [hasColumn, columnNames]

theorem column?_eq_none_iff {table : Table} {name : String} :
    table.column? name = none ↔ table.hasColumn name = false := by
  simp [column?, hasColumn]

end Table

end Relata
