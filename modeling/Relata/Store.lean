import Relata.Eval.Query
import Relata.Statement

/-!
Stored tables. A table keeps rows in the order of their insertion and a counter for its numbered
columns. An insert fills and checks the columns in table order; if one of them is refused, no row is
stored, but a number that was given out or taken stays used.
-/

namespace Relata

inductive InsertFault
  | unknownRelation (name : String)
  | unknownColumn (column relation : String)
  | notConstant
  | nullValue (column relation : String)
  | wrongType (column : String) (type : ColumnType) (kind : Kind)
  /-- There is no number after the largest. -/
  | counterOverflow
  deriving DecidableEq

namespace InsertFault

def failure : InsertFault → Failure
  | .unknownRelation name => .error (Fault.unknownRelation name).error
  | .unknownColumn column relation =>
    .error (.invalidStatement
      ("column \"" ++ column ++ "\" of relation \"" ++ relation ++ "\" does not exist"))
  | .notConstant => .error (.unsupportedFeature "only literal values can be inserted")
  | .nullValue column relation =>
    .error (.invalidStatement
      ("null value in column \"" ++ column ++ "\" of relation \"" ++ relation ++
        "\" violates not-null constraint"))
  | .wrongType column type kind =>
    .error (.invalidStatement
      ("column \"" ++ column ++ "\" is of type " ++ type.display ++
        " but expression is of type " ++ kind.name))
  | .counterOverflow => .abort "attempt to add with overflow"

end InsertFault

/-- The value that a column stores and the counter after it: a numbered column without a value takes
the counter's, and a number that was given moves the counter past it. There is no answer where the
counter would pass the largest number. -/
def Column.number (column : Column) (value : Value) (next : Int64) : Option (Value × Int64) :=
  if column.autoIncrement then
    match value with
    | .null => if next = Int64.maxValue then none else some (.int next, next + 1)
    | .int id => if id = Int64.maxValue then none else some (.int id, max next (id + 1))
    | v => some (v, next)
  else some (value, next)

def Column.fault? (column : Column) (relation : String) (value : Value) : Option InsertFault :=
  if value.isNull && !column.nullable then some (.nullValue column.name relation)
  else if column.type.accepts value then none
  else some (.wrongType column.name column.type value.kind)

/-- Puts constants into the columns that they are given to, one after the other. -/
def assign (relation : String) (columns : List Column) :
    List (String × Expr) → List Value → Except InsertFault (List Value)
  | [], row => .ok row
  | (name, e) :: rest, row =>
    match columns.findIdx? (·.name == name) with
    | none => .error (.unknownColumn name relation)
    | some i =>
      match e with
      | .const v => assign relation columns rest (row.set i v)
      | _ => .error .notConstant

/-- Numbers and checks the values of a row, column by column. The counter is the one reached, also
where a column refuses its value. -/
def settle (relation : String) :
    List Column → List Value → Int64 → Except InsertFault (List Value) × Int64
  | column :: columns, value :: values, next =>
    match column.number value next with
    | none => (.error .counterOverflow, next)
    | some (stored, next) =>
      match column.fault? relation stored with
      | some fault => (.error fault, next)
      | none =>
        match settle relation columns values next with
        | (.ok row, next) => (.ok (stored :: row), next)
        | (.error fault, next) => (.error fault, next)
  | _, _, next => (.ok [], next)

structure StoredTable where
  name : String
  columns : List Column
  rows : List (List Value)
  nextId : Int64

namespace StoredTable

def empty (table : Table) : StoredTable := ⟨table.name, table.columns, [], 1⟩

def rowset (table : StoredTable) : Rowset := ⟨table.columns.map Column.name, table.rows⟩

/-- Stores a row. The answer is the row with its numbers. -/
def insert (table : StoredTable) (row : Insert) :
    Except InsertFault (List Value) × StoredTable :=
  match assign table.name table.columns (row.columns.zip row.values)
      (table.columns.map fun _ => .null) with
  | .error fault => (.error fault, table)
  | .ok values =>
    match settle table.name table.columns values table.nextId with
    | (.error fault, next) => (.error fault, { table with nextId := next })
    | (.ok stored, next) =>
      (.ok stored, { table with rows := table.rows ++ [stored], nextId := next })

theorem insert_columns (table : StoredTable) (row : Insert) :
    (table.insert row).2.columns = table.columns := by
  unfold insert
  split
  · rfl
  · split <;> rfl

theorem insert_name (table : StoredTable) (row : Insert) :
    (table.insert row).2.name = table.name := by
  unfold insert
  split
  · rfl
  · split <;> rfl

end StoredTable

structure Store where
  tables : List StoredTable

namespace Store

def table? (store : Store) (name : String) : Option StoredTable :=
  store.tables.find? (·.name == name)

def fresh (tables : List Table) : Store := ⟨tables.map StoredTable.empty⟩

/-- The store as queries read it. -/
def database (store : Store) : Database := fun name => (store.table? name).map StoredTable.rowset

def replace (store : Store) (table : StoredTable) : Store :=
  ⟨store.tables.map fun other => if other.name == table.name then table else other⟩

/-- Stores a row in the table that the statement names. The answer has the names of the table's
columns and the stored row. -/
def insert (store : Store) (row : Insert) : Except InsertFault Rowset × Store :=
  match store.table? row.table.name with
  | none => (.error (.unknownRelation row.table.name), store)
  | some table =>
    match table.insert row with
    | (.ok stored, after) => (.ok ⟨table.columns.map Column.name, [stored]⟩, store.replace after)
    | (.error fault, after) => (.error fault, store.replace after)

end Store

end Relata
