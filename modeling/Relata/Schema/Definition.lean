import Relata.Schema
import Relata.Statement
import Relata.Text.SnakeCase

/-!
Definitions of schemas. Tables and models are declared in any order and checked as a whole: names
do not repeat, and every name that a definition uses is defined. The key columns of associations are
left unchecked; a wrong one is reported by the first statement that uses it.
-/

namespace Relata

inductive ColumnSpec
  /-- A numbered column of eight bytes that is part of the primary key. -/
  | primaryKey (name : String)
  /-- The columns `created_at` and `updated_at`, in microseconds. -/
  | timestamps
  | column (name : String) (type : ColumnType) (nullable : Bool)

structure TableDefinition where
  name : String
  columns : List ColumnSpec

structure AssociationDefinition where
  single : Bool
  name : String
  target : String
  scope : List Step
  /-- The owner's key column; the model's primary key if absent or empty. -/
  primaryKey : Option String
  foreignKey : Option String
  foreignKeyAlias : Option String

structure ModelDefinition where
  name : String
  table : String
  /-- The key column; the first key column of the table if absent. -/
  primaryKey : Option String
  ignored : List String
  associations : List AssociationDefinition

inductive SchemaFault
  | unknownTable (model table : String)
  | noPrimaryKey (table model : String)
  | repeatedAssociation (association model : String)
  | repeatedModel (model : String)
  | repeatedTable (table : String)
  | keyNotColumn (key model table : String)
  | keyIgnored (key model : String)
  | ignoredNotColumn (column model table : String)
  | unknownTarget (association model target : String)
  deriving DecidableEq

namespace SchemaFault

def message : SchemaFault → String
  | .unknownTable model table =>
    "model `" ++ model ++ "` references unknown table `" ++ table ++ "`"
  | .noPrimaryKey table model =>
    "table `" ++ table ++ "` has no primary key; model `" ++ model ++ "` must name one"
  | .repeatedAssociation association model =>
    "association `" ++ association ++ "` defined twice on model `" ++ model ++ "`"
  | .repeatedModel model => "model `" ++ model ++ "` defined twice"
  | .repeatedTable table => "table `" ++ table ++ "` defined twice"
  | .keyNotColumn key model table =>
    "primary key `" ++ key ++ "` of model `" ++ model ++ "` is not a column of `" ++ table ++ "`"
  | .keyIgnored key model =>
    "primary key `" ++ key ++ "` of model `" ++ model ++ "` cannot be ignored"
  | .ignoredNotColumn column model table =>
    "ignored column `" ++ column ++ "` of model `" ++ model ++ "` is not a column of `" ++
      table ++ "`"
  | .unknownTarget association model target =>
    "association `" ++ association ++ "` on model `" ++ model ++ "` targets unknown model `" ++
      target ++ "`"

def error (fault : SchemaFault) : Error := .invalidSchema fault.message

end SchemaFault

/-- The columns that a declaration stands for. They are not yet marked as key columns. -/
def ColumnSpec.columns : ColumnSpec → List ColumnDef
  | .primaryKey name => [⟨name, .integer 8, false, true⟩]
  | .timestamps =>
    [⟨"created_at", .integer 8, false, false⟩, ⟨"updated_at", .integer 8, false, false⟩]
  | .column name type nullable => [⟨name, type, nullable, false⟩]

def ColumnSpec.key? : ColumnSpec → Option String
  | .primaryKey name => some name
  | _ => none

/-- The table of a definition. Every column with the name of a key column is a key column. -/
def TableDefinition.table (definition : TableDefinition) : Table :=
  let keys := definition.columns.filterMap ColumnSpec.key?
  { name := definition.name
    columns := (definition.columns.flatMap ColumnSpec.columns).map fun column =>
      ⟨column.name, column.type, column.nullable, keys.contains column.name,
        column.autoIncrement⟩ }

/-- The association of a definition on a model. The foreign key defaults to the model's name in
snake case with `_id` after it, and its alias to the foreign key with `_alias` after it. -/
def AssociationDefinition.association (definition : AssociationDefinition)
    (model primaryKey : String) : Association :=
  let foreignKey := definition.foreignKey.getD (Text.snakeCase model ++ "_id")
  let given := definition.primaryKey.getD ""
  { name := definition.name
    single := definition.single
    target := definition.target
    scope := definition.scope
    keys := {
      primaryKey := if given = "" then primaryKey else given
      foreignKey := foreignKey
      foreignKeyAlias := definition.foreignKeyAlias.getD (foreignKey ++ "_alias") } }

def addAssociation (model primaryKey : String) (associations : List Association)
    (definition : AssociationDefinition) : Except SchemaFault (List Association) :=
  if associations.any (·.name == definition.name) then
    .error (.repeatedAssociation definition.name model)
  else .ok (associations ++ [definition.association model primaryKey])

def ModelDefinition.model (definition : ModelDefinition) (tables : List Table) :
    Except SchemaFault Model := do
  let table ← match tables.find? (·.name == definition.table) with
    | some table => .ok table
    | none => .error (.unknownTable definition.name definition.table)
  let primaryKey ← match definition.primaryKey with
    | some name => .ok name
    | none => match table.keyColumns with
      | column :: _ => .ok column.name
      | [] => .error (.noPrimaryKey table.name definition.name)
  let associations ← definition.associations.foldlM (addAssociation definition.name primaryKey) []
  return ⟨definition.name, table, primaryKey, definition.ignored, associations⟩

def addModel (tables : List Table) (models : List Model) (definition : ModelDefinition) :
    Except SchemaFault (List Model) := do
  let model ← definition.model tables
  if models.any (·.name == definition.name) then throw (.repeatedModel definition.name)
  return models ++ [model]

/-- The first of the names that occurs among those before it. -/
def firstRepeat? (seen : List String) : List String → Option String
  | [] => none
  | name :: rest => if seen.contains name then some name else firstRepeat? (name :: seen) rest

/-- The first thing wrong with a model of a schema. -/
def Model.fault? (model : Model) (schema : Schema) : Option SchemaFault :=
  if !model.table.hasColumn model.primaryKey then
    some (.keyNotColumn model.primaryKey model.name model.table.name)
  else if model.isIgnored model.primaryKey then
    some (.keyIgnored model.primaryKey model.name)
  else match model.ignored.find? (fun column => !model.table.hasColumn column) with
    | some column => some (.ignoredNotColumn column model.name model.table.name)
    | none =>
      match model.associations.find? (fun a => (schema.model? a.target).isNone) with
      | some a => some (.unknownTarget a.name model.name a.target)
      | none => none

/-- The first thing wrong with a schema: a repeated table, or a fault of a model. -/
def Schema.fault? (schema : Schema) : Option SchemaFault :=
  match firstRepeat? [] (schema.tables.map Table.name) with
  | some table => some (.repeatedTable table)
  | none => schema.models.findSome? fun model => model.fault? schema

def Schema.build (tables : List TableDefinition) (models : List ModelDefinition) :
    Except SchemaFault Schema := do
  let tables := tables.map TableDefinition.table
  let models ← models.foldlM (addModel tables) []
  let schema : Schema := ⟨tables, models⟩
  match schema.fault? with
  | some fault => throw fault
  | none => return schema

end Relata
