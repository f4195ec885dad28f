import Relata.Schema

/-!
Relations: queries on a model, built up one step at a time. A relation reads one table, possibly
under another name or from a subquery, and its own columns are columns of that table.
-/

namespace Relata

structure Relation where
  model : Model
  /-- What the relation's own columns are read from. -/
  table : TableRef
  /-- The source if it is not the table itself. -/
  origin : Option Source
  joins : List Join
  /-- The items to compute; if there are none, the model's columns. -/
  items : List SelectItem
  filter : Option Expr
  order : List OrderTerm
  limit : Option Nat

def Model.all (model : Model) : Relation := ⟨model, model.ref, none, [], [], none, [], none⟩

namespace Relation

def column (relation : Relation) (name : String) : Expr := .column (relation.table.column name)

def restrict (relation : Relation) (condition : Expr) : Relation :=
  { relation with filter := some (addCondition relation.filter condition) }

/-- Adds an alternative to the conditions so far. The result is in parentheses. -/
def orElse (relation : Relation) (condition : Expr) : Relation :=
  { relation with
    filter := some (match relation.filter with
      | some existing => .grouping (existing.disj condition)
      | none => condition) }

/-- Restricts a column to a value; a null restricts it to nulls. -/
def whereEq (relation : Relation) (column : String) (value : Value) : Relation :=
  if value.isNull then relation.restrict (.isNull false (relation.column column))
  else relation.restrict (.compare .eq (relation.column column) (.const value))

def whereIn (relation : Relation) (column : String) (values : List Value) : Relation :=
  relation.restrict (.inList (relation.column column) (values.map .const))

def whereGt (relation : Relation) (column : String) (value : Value) : Relation :=
  relation.restrict (.compare .gt (relation.column column) (.const value))

def whereLt (relation : Relation) (column : String) (value : Value) : Relation :=
  relation.restrict (.compare .lt (relation.column column) (.const value))

def orderBy (relation : Relation) (term : OrderTerm) : Relation :=
  { relation with order := relation.order ++ [term] }

def orderByAsc (relation : Relation) (column : String) : Relation :=
  relation.orderBy (.asc (relation.column column))

def limitTo (relation : Relation) (count : Nat) : Relation := { relation with limit := some count }

def select (relation : Relation) (items : List SelectItem) : Relation :=
  { relation with items := items }

def withJoin (relation : Relation) (join : Join) : Relation :=
  { relation with joins := relation.joins ++ [join] }

def fromDerived (relation : Relation) (query : Query) (name : String) : Relation :=
  { relation with table := .derived name, origin := some (.subquery false query name) }

def withTable (relation : Relation) (ref : TableRef) : Relation :=
  { relation with table := ref, origin := none }

/-- What is computed when nothing was selected: all columns of the table, or the active ones by
name if the model ignores some. -/
def defaultItems (relation : Relation) : List SelectItem :=
  if relation.model.hasIgnored then
    relation.model.activeColumns.map fun column => .expr (relation.column column.name)
  else [.wildcard relation.table]

def query (relation : Relation) : Query where
  items := if relation.items.isEmpty then relation.defaultItems else relation.items
  source := relation.origin.getD (.table relation.table)
  joins := relation.joins
  filter := relation.filter
  order := relation.order
  limit := relation.limit.map fun count => .const (.ofNat count)

end Relation

end Relata
