import Relata.Error
import Relata.Step
import Relata.Table

/-!
Schemas: tables, the models that read them, and the associations between models. A model holds the
table it reads; an association names its target, because models may refer to each other.
-/

namespace Relata

/-- How a child row points at its parent: the parent's key column, the column of the child that
holds its value, and the name under which the key stands next to the child's columns. -/
structure KeyMapping where
  primaryKey : String
  foreignKey : String
  foreignKeyAlias : String
  deriving DecidableEq

/-- Rows of the target that belong to a row of the owner. -/
structure Association where
  name : String
  /-- Whether an owner has at most one row rather than all that the scope leaves. -/
  single : Bool
  target : String
  /-- What refines the target's rows: order, conditions and a limit for each owner. -/
  scope : List Step
  keys : KeyMapping

/-- The number of rows kept for each owner, apart from the scope's own limit. -/
def Association.limit (association : Association) : Option Nat :=
  if association.single then some 1 else none

structure Model where
  name : String
  table : Table
  primaryKey : String
  /-- Columns that are left out wherever the model chooses its columns. -/
  ignored : List String
  associations : List Association

namespace Model

def ref (model : Model) : TableRef := .table model.table.name none

def isIgnored (model : Model) (column : String) : Bool := model.ignored.contains column

def hasIgnored (model : Model) : Bool := !model.ignored.isEmpty

def activeColumns (model : Model) : List Column :=
  model.table.columns.filter fun column => !model.isIgnored column.name

def association? (model : Model) (name : String) : Option Association :=
  model.associations.find? (·.name == name)

def association (model : Model) (name : String) : Except Error Association :=
  match model.association? name with
  | some association => .ok association
  | none => .error (.of (.unknownAssociation model.name name))

end Model

/-- Tables and models. The place of a table or a model in its list identifies it. -/
structure Schema where
  tables : List Table
  models : List Model

namespace Schema

def model? (schema : Schema) (name : String) : Option Model :=
  schema.models.find? (·.name == name)

def model (schema : Schema) (name : String) : Except Error Model :=
  match schema.model? name with
  | some model => .ok model
  | none => .error (.invalidSchema ("unknown model `" ++ name ++ "`"))

theorem model_eq_ok_iff {schema : Schema} {name : String} {model : Model} :
    schema.model name = .ok model ↔ schema.model? name = some model := by
  unfold Schema.model
  cases schema.model? name <;> simp

end Schema

end Relata
