import Relata.Proofs.Relation.Lateral

/-!
Rows that point at a key. In sight of a row of the parent the child's query asks for the rows that
point at the parent's key column; it answers like the query that asks for the key itself.
-/

namespace Relata

/-- No condition and no sort key of the relation names a column under the qualifier. -/
structure Relation.Avoids (relation : Relation) (qualifier : String) : Prop where
  filter : ∀ e ∈ relation.filter, e.Avoids qualifier
  order : ∀ term ∈ relation.order, term.expr.Avoids qualifier

/-- The rows of the relation that point at the key; a limit takes the place of the relation's own. -/
def Relation.pointingTo (relation : Relation) (keys : KeyMapping) (key : Value)
    (limit : Option Nat) : Relation :=
  { relation.restrict (.compare .eq (relation.column keys.foreignKey) (.const key)) with
    limit := limit.or relation.limit }

namespace Relation

variable {db : Database} {child : Relation} {parent : Model} {keys : KeyMapping}
  {limit : Option Nat} {name : String}

theorem correlated_eq (parentKey : Expr) :
    child.correlated parentKey keys limit =
      { child.restrict (.compare .eq (child.column keys.foreignKey) parentKey) with
        limit := limit.or child.limit } := by
  cases limit <;> rfl

theorem Direct.correlated (direct : child.Direct name) (keys : KeyMapping) (limit : Option Nat)
    (parentKey : Expr) :
    (child.correlated parentKey keys limit).Direct name := by
  rw [correlated_eq]
  exact ⟨direct.table, direct.origin, direct.items⟩

theorem Direct.pointingTo (direct : child.Direct name) (keys : KeyMapping) (limit : Option Nat)
    (key : Value) :
    (child.pointingTo keys key limit).Direct name :=
  ⟨direct.table, direct.origin, direct.items⟩

theorem pointingTo_null (direct : child.Direct name) (single : child.joins = [])
    {stored answer : Rowset} (found : db name = some stored)
    (done : (child.pointingTo keys .null limit).query.answer db = .ok answer) :
    answer.rows = [] := by
  have reads := (direct.pointingTo keys limit .null).reads
  rw [Query.answer, reads.run_single single (direct.read [] found)] at done
  obtain ⟨kept, filtered, done⟩ := bind_eq_ok.mp done
  obtain ⟨sorted, ordered, done⟩ := bind_eq_ok.mp done
  obtain ⟨picked, computed, done⟩ := bind_eq_ok.mp done
  cases done
  have none : kept = [] := by
    refine List.eq_nil_iff_forall_not_mem.mpr fun row member => ?_
    obtain ⟨_, keeps⟩ := keeps_of_mem_keepRows filtered row member
    rw [Expr.keeps_eq_true, truth_addCondition] at keeps
    obtain ⟨_, matched⟩ := bothTruths_eq_true keeps
    obtain ⟨left, _, compared⟩ := bind_eq_ok.mp (Expr.truth_eq_ok.mp matched)
    have unknown : Comparison.apply .eq left .null = .ok none := by
      simp [Comparison.apply]
    rw [Expr.eval, ok_bind, unknown] at compared
    cases compared
  have empty : sorted = [] := List.perm_nil.mp (none ▸ sortRows_perm ordered)
  rw [empty, cutTo_nil, List.mapM_nil, pure_eq_ok] at computed
  exact computed.symm

theorem eval_parentKey {columns : List String} {values : List Value} {row : Frame}
    (unbound : row.binding? parent.table.name = none) (present : keys.primaryKey ∈ columns) :
    (parent.all.column keys.primaryKey).eval [row, [parent.binding columns values]] =
      .ok (cellOf columns values keys.primaryKey) := by
  have bound : Frame.binding? [parent.binding columns values] parent.table.name =
      some (parent.binding columns values) := by
    simp [Frame.binding?, Model.binding]
  have outer : Env.value [row, [parent.binding columns values]]
      (parent.ref.column keys.primaryKey) =
      Env.value [[parent.binding columns values]] (parent.ref.column keys.primaryKey) :=
    Env.value_outer unbound
  exact outer.trans ((Env.value_near bound).trans (Binding.value_cell present))

/-- An expression that avoids the parent has the same value in sight of the parent's row. -/
theorem eval_apart {e : Expr} (avoids : e.Avoids parent.table.name) {columns : List String}
    {values : List Value} (row : Frame) :
    e.eval [row, [parent.binding columns values]] = e.eval [row] :=
  Expr.eval_congr fun c named =>
    Env.value_beyond (parent.binding columns values) (avoids c named)

theorem childrenAt_eq (direct : child.Direct name) (single : child.joins = [])
    {stored : Rowset} (found : db name = some stored) (avoids : child.Avoids parent.table.name)
    (apart : child.table.qualifier ≠ parent.table.name) {columns : List String}
    {values : List Value} (present : keys.primaryKey ∈ columns) :
    child.childrenAt parent keys limit db columns values =
      (child.pointingTo keys (cellOf columns values keys.primaryKey) limit).query.answer db := by
  have correlated := (direct.correlated keys limit (parent.all.column keys.primaryKey)).reads
  have constant := (direct.pointingTo keys limit (cellOf columns values keys.primaryKey)).reads
  have filters : filterRows [[parent.binding columns values]]
      (some (addCondition child.filter
        (.compare .eq (child.column keys.foreignKey) (parent.all.column keys.primaryKey))))
        (stored.frames child.table.qualifier) =
      filterRows [] (some (addCondition child.filter
        (.compare .eq (child.column keys.foreignKey)
          (.const (cellOf columns values keys.primaryKey)))))
        (stored.frames child.table.qualifier) := by
    refine keepRows_congr fun row member => ?_
    obtain ⟨cells, _, rfl⟩ := List.mem_map.mp member
    have unbound : Frame.binding? [⟨⟨child.table.qualifier, stored.columns⟩, cells⟩]
        parent.table.name = none := by
      simp [Frame.binding?, apart]
    have foreign : (child.column keys.foreignKey).Avoids parent.table.name := by
      intro c named
      rw [List.mem_singleton.mp named]
      exact apart
    refine Expr.keeps_addCondition_congr (fun e some => eval_apart (avoids.filter e some) _) ?_
    rw [Expr.eval, Expr.eval, eval_apart foreign, eval_parentKey unbound present, Expr.eval]
  have sorts : ∀ kept, sortRows [[parent.binding columns values]] child.order kept =
      sortRows [] child.order kept := fun kept =>
    sortRows_congr fun row _ => mapM_congr fun term member => eval_apart (avoids.order term member) row
  rw [childrenAt, Query.answer]
  rw [correlated_eq] at correlated ⊢
  rw [correlated.run_single single (direct.read _ found),
    constant.run_single single (direct.read [] found)]
  simp only [restrict, pointingTo] at filters sorts ⊢
  rw [filters]
  simp only [sorts]

end Relation

end Relata
