import Relata.Relation.Rename

/-!
Steps applied to relations.
-/

namespace Relata

def Relation.apply (relation : Relation) : Step → Relation
  | .filter condition => relation.restrict condition
  | .or condition => relation.orElse condition
  | .whereEq column value => relation.whereEq column value
  | .whereIn column values => relation.whereIn column values
  | .whereGt column value => relation.whereGt column value
  | .whereLt column value => relation.whereLt column value
  | .whereNull column => relation.restrict (.isNull false (relation.column column))
  | .whereNotNull column => relation.restrict (.isNull true (relation.column column))
  | .orderBy term => relation.orderBy term
  | .orderByAsc column => relation.orderByAsc column
  | .orderByDesc column => relation.orderBy (.desc (relation.column column))
  | .limit count => relation.limitTo count
  | .select items => relation.select items
  | .join join => relation.withJoin join
  | .fromDerived name query => relation.fromDerived (query.getD relation.query) name
  | .withTable ref => relation.withTable ref
  | .unscopeSelect => { relation with items := [] }
  | .unscopeWhere => { relation with filter := none }
  | .unscopeOrder => { relation with order := [] }
  | .unscopeLimit => { relation with limit := none }
  | .rename aliasName => relation.rename aliasName

def Relation.refine (relation : Relation) (steps : List Step) : Relation :=
  steps.foldl Relation.apply relation

@[simp] theorem Relation.apply_table (relation : Relation) (step : Step) :
    (relation.apply step).table = step.table relation.table := by
  cases step <;> simp only [Relation.apply, Relation.whereEq] <;> try rfl
  split <;> rfl

@[simp] theorem Relation.apply_model (relation : Relation) (step : Step) :
    (relation.apply step).model = relation.model := by
  cases step <;> simp only [Relation.apply, Relation.whereEq] <;> try rfl
  split <;> rfl

@[simp] theorem Relation.refine_model (relation : Relation) (steps : List Step) :
    (relation.refine steps).model = relation.model := by
  induction steps generalizing relation with
  | nil => rfl
  | cons step rest ih => exact (ih (relation.apply step)).trans (relation.apply_model step)

end Relata
