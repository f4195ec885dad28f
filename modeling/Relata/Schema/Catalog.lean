import Relata.Schema.Definition

/-!
Tables with identifiers. A table is identified by its place among the tables and a column by that of its table and
its own place in it. A primary key lists its columns by their identifiers.
-/

namespace Relata

structure TableId where
  index : Nat
  deriving DecidableEq

structure ColumnId where
  table : TableId
  index : Nat
  deriving DecidableEq

def TableId.display (id : TableId) : String := "TableId(" ++ toString id.index ++ ")"

def ColumnId.display (id : ColumnId) : String :=
  "ColumnId(" ++ toString id.table.index ++ "/" ++ toString id.index ++ ")"

structure ListedColumn extends Column where
  id : ColumnId
  deriving DecidableEq

structure ListedTable where
  id : TableId
  name : String
  columns : List ListedColumn
  primaryKey : List ColumnId
  deriving DecidableEq

namespace ListedTable

/-- The table without identifiers. -/
def table (listed : ListedTable) : Table := ⟨listed.name, listed.columns.map ListedColumn.toColumn⟩

/-- The column in the place that the identifier names. -/
def column? (listed : ListedTable) (id : ColumnId) : Option ListedColumn := listed.columns[id.index]?

/-- The columns of the primary key, if each of its identifiers has one. -/
def keyColumns? (listed : ListedTable) : Option (List ListedColumn) := listed.primaryKey.mapM listed.column?

end ListedTable

def TableDefinition.listed (definition : TableDefinition) (id : TableId) : ListedTable :=
  let columns : List ListedColumn :=
    definition.table.columns.mapIdx fun index column => { column with id := ⟨id, index⟩ }
  { id := id
    name := definition.name
    columns := columns
    primaryKey := (columns.filter (·.primaryKey)).map ListedColumn.id }

structure Catalog where
  tables : List ListedTable

namespace Catalog

/-- The tables of definitions, in their order. -/
def ofDefinitions (definitions : List TableDefinition) : Catalog :=
  ⟨definitions.mapIdx fun index definition => definition.listed ⟨index⟩⟩

/-- The table in the place that the identifier names. -/
def table? (catalog : Catalog) (id : TableId) : Option ListedTable := catalog.tables[id.index]?

end Catalog

end Relata
