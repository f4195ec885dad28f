import Relata.Query

/-!
Steps that refine a relation. Each step adds, replaces or removes one clause; columns given by name
are columns of the table that the relation reads at that moment.
-/

namespace Relata

inductive Step
  | filter (condition : Expr)
  /-- A condition that rows may meet instead of all conditions so far. -/
  | or (condition : Expr)
  /-- The column has the value; a null value asks for nulls. -/
  | whereEq (column : String) (value : Value)
  | whereIn (column : String) (values : List Value)
  | whereGt (column : String) (value : Value)
  | whereLt (column : String) (value : Value)
  | whereNull (column : String)
  | whereNotNull (column : String)
  | orderBy (term : OrderTerm)
  | orderByAsc (column : String)
  | orderByDesc (column : String)
  /-- At most so many rows, in place of an earlier limit. -/
  | limit (count : Nat)
  /-- The items to compute, in place of earlier ones. -/
  | select (items : List SelectItem)
  | join (join : Join)
  /-- Reads from a subquery, the relation itself if none is given. -/
  | fromDerived (name : String) (query : Option Query)
  | withTable (ref : TableRef)
  | unscopeSelect
  | unscopeWhere
  | unscopeOrder
  | unscopeLimit
  | rename (aliasName : String)

/-- The table that a relation reads after the step, if it read `current` before. -/
def Step.table (current : TableRef) : Step → TableRef
  | .fromDerived name _ => .derived name
  | .withTable ref => ref
  | .rename aliasName => .table current.name (some aliasName)
  | _ => current

end Relata
