import Relata.Relation.PerParent
import Relata.Relation.Refine

/-!
The relation that loads an association: the target's rows, refined by the association's scope, for
each row of the owner.
-/

namespace Relata

/-- The refined rows of the target. Where owner and target share a table, the target is read under
another name, so that the two sides can be told apart. -/
def Association.children (association : Association) (owner target : Model) : Relation :=
  let refined := target.all.refine association.scope
  if target.table.name == owner.table.name then refined.rename (target.table.name ++ "__alias")
  else refined

/-- The children of all rows of the owner. -/
def Association.scopeFor (association : Association) (schema : Schema) (owner : Model) :
    Except Error Relation := do
  let target ← schema.model association.target
  return (association.children owner target).perParent owner association.keys association.limit

def Association.scopeForOwner (association : Association) (schema : Schema) (owner : Model)
    (key : Value) : Except Error Relation := do
  let scope := (← association.scopeFor schema owner).whereEq association.keys.foreignKeyAlias key
  return if association.single then scope.limitTo 1 else scope

def Association.scopeForOwners (association : Association) (schema : Schema) (owner : Model)
    (keys : List Value) : Except Error Relation := do
  return (← association.scopeFor schema owner).whereIn association.keys.foreignKeyAlias keys

end Relata
