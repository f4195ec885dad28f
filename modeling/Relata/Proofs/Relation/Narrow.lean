import Relata.Proofs.Relation.Correlated
import Relata.Relation.Refine

/-!
Steps that narrow a relation down: conditions, sort keys and limits. A relation on a table is one still
after such steps, and where none of them sees a qualifier, neither does the relation.
-/

namespace Relata

variable {qualifier : String} {lhs rhs : Expr}

theorem Expr.Avoids.conj (left : lhs.Avoids qualifier) (right : rhs.Avoids qualifier) :
    (lhs.conj rhs).Avoids qualifier :=
  fun c named => (Expr.mem_columns_conj named).elim (left c) (right c)

theorem Expr.Avoids.disj (left : lhs.Avoids qualifier) (right : rhs.Avoids qualifier) :
    (lhs.disj rhs).Avoids qualifier :=
  fun c named => (Expr.mem_columns_disj named).elim (left c) (right c)

theorem Expr.Avoids.consts (values : List Value) :
    ∀ c ∈ columnsOf (values.map .const), c.table.qualifier ≠ qualifier := by
  simp [columnsOf_consts]

/-- A step that filters, sorts or cuts and names no column under the qualifier. Columns that a step
gives by name are columns of the table that is read. -/
def Step.Narrows (qualifier : String) : Step → Prop
  | .filter condition => condition.Avoids qualifier
  | .or condition => condition.Avoids qualifier
  | .orderBy term => term.expr.Avoids qualifier
  | .whereEq _ _ | .whereIn _ _ | .whereGt _ _ | .whereLt _ _ => True
  | .whereNull _ | .whereNotNull _ | .orderByAsc _ | .orderByDesc _ | .limit _ => True
  | _ => False

/-- A step that leaves alone which table is read and what is computed of it. -/
def Step.KeepsTable : Step → Prop
  | .select _ | .fromDerived _ _ | .withTable _ | .rename _ => False
  | _ => True

theorem Relation.Direct.apply {relation : Relation} {name : String} (direct : relation.Direct name)
    {step : Step} (keeps : step.KeepsTable) : (relation.apply step).Direct name := by
  cases step with
  | select | fromDerived | withTable | rename => exact keeps.elim
  | whereEq column value =>
      rw [Relation.apply, Relation.whereEq]
      split <;> exact ⟨direct.table, direct.origin, direct.items⟩
  | unscopeSelect => exact ⟨direct.table, direct.origin, rfl⟩
  | filter | or | whereIn | whereGt | whereLt | whereNull | whereNotNull | orderBy | orderByAsc
  | orderByDesc | limit | join | unscopeWhere | unscopeOrder | unscopeLimit =>
      exact ⟨direct.table, direct.origin, direct.items⟩

theorem Relation.Direct.refine {relation : Relation} {name : String}
    (direct : relation.Direct name) {steps : List Step} (keep : ∀ step ∈ steps, step.KeepsTable) :
    (relation.refine steps).Direct name := by
  induction steps generalizing relation with
  | nil => exact direct
  | cons step rest ih =>
      exact ih (direct.apply (keep step List.mem_cons_self)) fun other member =>
        keep other (List.mem_cons_of_mem _ member)

theorem Relation.Direct.rename {relation : Relation} {name : String} (direct : relation.Direct name)
    (aliasName : String) : (relation.rename aliasName).Direct name := by
  obtain ⟨before, table⟩ := direct.table
  refine ⟨⟨some aliasName, ?_⟩, rfl, rfl⟩
  have renamed : (relation.rename aliasName).table = .table relation.table.name (some aliasName) :=
    rfl
  rw [renamed, table]
  rfl

/-- The relation reads one table and sees nothing under the qualifier. -/
structure Relation.Unaware (relation : Relation) (ref : TableRef) (qualifier : String) : Prop where
  table : relation.table = ref
  origin : relation.origin = none
  items : relation.items = []
  joins : relation.joins = []
  avoids : relation.Avoids qualifier

namespace Relation.Unaware

variable {relation : Relation} {ref : TableRef} {condition : Expr}

theorem restrict (unaware : relation.Unaware ref qualifier)
    (avoids : condition.Avoids qualifier) : (relation.restrict condition).Unaware ref qualifier := by
  refine ⟨unaware.table, unaware.origin, unaware.items, unaware.joins, fun e present => ?_,
    unaware.avoids.order⟩
  cases present
  cases existing : relation.filter with
  | none => exact avoids
  | some e => exact (unaware.avoids.filter e existing).conj avoids

theorem orElse (unaware : relation.Unaware ref qualifier)
    (avoids : condition.Avoids qualifier) : (relation.orElse condition).Unaware ref qualifier := by
  refine ⟨unaware.table, unaware.origin, unaware.items, unaware.joins, fun e present => ?_,
    unaware.avoids.order⟩
  cases present
  cases existing : relation.filter with
  | none => exact avoids
  | some e => exact (unaware.avoids.filter e existing).disj avoids

theorem orderBy (unaware : relation.Unaware ref qualifier) {term : OrderTerm}
    (avoids : term.expr.Avoids qualifier) : (relation.orderBy term).Unaware ref qualifier := by
  refine ⟨unaware.table, unaware.origin, unaware.items, unaware.joins, unaware.avoids.filter,
    fun other member => ?_⟩
  rcases List.mem_append.mp member with member | member
  · exact unaware.avoids.order other member
  · rw [List.mem_singleton.mp member]
    exact avoids

theorem column (unaware : relation.Unaware ref qualifier) (apart : ref.qualifier ≠ qualifier)
    (name : String) : (relation.column name).Avoids qualifier := by
  intro c named
  rw [List.mem_singleton.mp named, unaware.table]
  exact apart

theorem apply (unaware : relation.Unaware ref qualifier) (apart : ref.qualifier ≠ qualifier)
    {step : Step} (narrows : step.Narrows qualifier) :
    (relation.apply step).Unaware ref qualifier := by
  have own := unaware.column apart
  cases step with
  | filter condition => exact unaware.restrict narrows
  | or condition => exact unaware.orElse narrows
  | whereEq column value =>
      rw [Relation.apply, Relation.whereEq]
      split
      · exact unaware.restrict (own column)
      · exact unaware.restrict fun c named => own column c (by simpa [Expr.columns] using named)
  | whereIn column values =>
      refine unaware.restrict fun c named => ?_
      rcases List.mem_append.mp named with named | named
      · exact own column c named
      · exact Expr.Avoids.consts values c named
  | whereGt column value =>
      exact unaware.restrict fun c named => own column c (by simpa [Expr.columns] using named)
  | whereLt column value =>
      exact unaware.restrict fun c named => own column c (by simpa [Expr.columns] using named)
  | whereNull column => exact unaware.restrict (own column)
  | whereNotNull column => exact unaware.restrict (own column)
  | orderBy term => exact unaware.orderBy narrows
  | orderByAsc column => exact unaware.orderBy (own column)
  | orderByDesc column => exact unaware.orderBy (own column)
  | limit count =>
      exact ⟨unaware.table, unaware.origin, unaware.items, unaware.joins, unaware.avoids.filter,
        unaware.avoids.order⟩
  | select | join | fromDerived | withTable | unscopeSelect | unscopeWhere | unscopeOrder
  | unscopeLimit | rename => exact narrows.elim

theorem refine (unaware : relation.Unaware ref qualifier) (apart : ref.qualifier ≠ qualifier)
    {steps : List Step} (narrow : ∀ step ∈ steps, step.Narrows qualifier) :
    (relation.refine steps).Unaware ref qualifier := by
  induction steps generalizing relation with
  | nil => exact unaware
  | cons step rest ih =>
      exact ih (unaware.apply apart (narrow step List.mem_cons_self)) fun other member =>
        narrow other (List.mem_cons_of_mem _ member)

end Relation.Unaware

end Relata
