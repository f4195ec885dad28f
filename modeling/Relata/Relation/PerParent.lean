import Relata.Relation

/-!
Children per parent: the rows that a relation has for each row of a parent, in one query. The query
joins the relation laterally to the parent's table, so that its order and limit apply to each parent
separately, and puts the parent's key next to the columns of each child.
-/

namespace Relata

def lateralName : String := "lateral_table"

/-- The child's rows that point at a row of the parent, at most `limit` if one is given. -/
def Relation.correlated (child : Relation) (parentKey : Expr) (keys : KeyMapping)
    (limit : Option Nat) : Relation :=
  let matching := child.restrict (.compare .eq (child.column keys.foreignKey) parentKey)
  match limit with
  | some count => matching.limitTo count
  | none => matching

/-- Each row of the parent with its children: the parent's key, then the children's columns. -/
def Relation.besideParent (child : Relation) (parent : Model) (keys : KeyMapping)
    (limit : Option Nat) : Relation :=
  let parentKey := parent.all.column keys.primaryKey
  let children := (child.correlated parentKey keys limit).query
  (parent.all.select
    [.aliased parentKey keys.foreignKeyAlias, .wildcard (.derived lateralName)]).withJoin
    ⟨.inner, .subquery true children lateralName, .const (.bool true)⟩

/-- The children of all parents, as a relation on the child's model. It reads a subquery under the
name of the child's table, which has the parent's key as a further column. A child that reads the
parent's own table has to read it under another name. -/
def Relation.perParent (child : Relation) (parent : Model) (keys : KeyMapping)
    (limit : Option Nat) : Relation :=
  let scope := child.model.all.fromDerived (child.besideParent parent keys limit).query
    child.table.name
  if child.model.hasIgnored then
    scope.select (.expr (scope.column keys.foreignKeyAlias) ::
      child.model.activeColumns.map fun column => .expr (scope.column column.name))
  else scope

end Relata
