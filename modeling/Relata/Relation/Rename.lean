import Relata.Relation

/-!
Reading a relation's table under another name. Columns of the table follow to the new name where
relations put them: on the left of an equality, of an order comparison or of a list, below
conjunctions, disjunctions and parentheses, and as sort keys. Other places keep what they name.
-/

namespace Relata

/-- A column of the table, read under the new name; any other expression as it is. -/
def Expr.rebind (current renamed : TableRef) : Expr → Expr
  | .column c => if c.table.sameTable current then .column (c.rebind renamed) else .column c
  | e => e

mutual

/-- A condition under the new name. A junction that has no operands left disappears. -/
def Expr.rename? (current renamed : TableRef) : Expr → Option Expr
  | .and operands =>
    match renameAll current renamed operands with
    | [] => none
    | kept => some (.and kept)
  | .or operands =>
    match renameAll current renamed operands with
    | [] => none
    | kept => some (.or kept)
  | .grouping e => (e.rename? current renamed).map .grouping
  | .compare op lhs rhs =>
    match op with
    | .eq | .gt | .lt => some (.compare op (lhs.rebind current renamed) rhs)
    | _ => some (.compare op lhs rhs)
  | .inList e items => some (.inList (e.rebind current renamed) items)
  | e => some e

def renameAll (current renamed : TableRef) : List Expr → List Expr
  | [] => []
  | e :: rest =>
    match e.rename? current renamed with
    | none => renameAll current renamed rest
    | some kept => kept :: renameAll current renamed rest

end

def OrderTerm.rename (current renamed : TableRef) (term : OrderTerm) : OrderTerm :=
  { term with expr := term.expr.rebind current renamed }

/-- The relation on its table under another name. Joins and the limit stay; the items become the
model's own. -/
def Relation.rename (relation : Relation) (aliasName : String) : Relation :=
  let renamed : TableRef := .table relation.table.name (some aliasName)
  { relation.withTable renamed with
    items := []
    filter := relation.filter.bind (Expr.rename? relation.table renamed)
    order := relation.order.map (OrderTerm.rename relation.table renamed) }

theorem renameAll_eq_filterMap (current renamed : TableRef) (es : List Expr) :
    renameAll current renamed es = es.filterMap (Expr.rename? current renamed) := by
  induction es with
  | nil => rfl
  | cons e rest ih =>
      simp only [renameAll, List.filterMap_cons, ih]
      cases e.rename? current renamed <;> rfl

end Relata
