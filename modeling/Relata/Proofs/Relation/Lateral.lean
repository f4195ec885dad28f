import Relata.Proofs.Relation.Direct
import Relata.Relation.PerParent

/-!
Children next to their parent. The query reads the parent's table and, for each of its rows, the
child's query in sight of that row; it computes the row's key and the child's columns.
-/

namespace Relata

/-- A row of the model's table as a query on all its rows binds it. -/
def Model.binding (model : Model) (columns : List String) (values : List Value) : Binding :=
  ⟨⟨model.table.name, columns⟩, values⟩

/-- What the name of the lateral subquery stands for next to the parent: the first of the two
sources that has this name. -/
def Model.beside {α : Type} (parent : Model) (own children : α) : α :=
  if parent.table.name = lateralName then own else children

namespace Relation

/-- The child's rows for one row of the parent. -/
def childrenAt (child : Relation) (parent : Model) (keys : KeyMapping) (limit : Option Nat)
    (db : Database) (columns : List String) (values : List Value) : Except Fault Rowset :=
  (child.correlated (parent.all.column keys.primaryKey) keys limit).query.run db
    [[parent.binding columns values]] false

variable {db : Database} {child : Relation} {parent : Model} {keys : KeyMapping}
  {limit : Option Nat} {base : Rowset}

/-- The limit of the children is a constant of the query that the parent's rows are joined to. -/
theorem besideParent_limited (child : Relation) (parent : Model) (keys : KeyMapping)
    (limit : Option Nat) {count : Nat} (n : Int64)
    (limited : (child.correlated (parent.all.column keys.primaryKey) keys limit).limit = some count)
    (same : Value.ofNat count = .int n) :
    child.besideParent parent keys limit =
      (parent.all.select [.aliased (parent.all.column keys.primaryKey) keys.foreignKeyAlias,
        .wildcard (.derived lateralName)]).withJoin
      ⟨.inner, .subquery true
        { ({ child.correlated (parent.all.column keys.primaryKey) keys limit with
            limit := none } : Relation).query with
          limit := some (.const (.int n)) } lateralName, .const (.bool true)⟩ := by
  rw [← query_limited _ n limited same]
  rfl

theorem besideParent_joined (found : db parent.table.name = some base) :
    (child.besideParent parent keys limit).query.joined db [] = (do
      let rights ← base.rows.mapM (child.childrenAt parent keys limit db base.columns)
      let columns ← lateralColumns db
        (child.correlated (parent.all.column keys.primaryKey) keys limit).query rights
      return ⟨[⟨parent.table.name, base.columns⟩, ⟨lateralName, columns⟩],
        (base.rows.zip rights).flatMap fun pair =>
          lateralPairs lateralName [parent.binding base.columns pair.1] pair.2⟩) := by
  have source : (child.besideParent parent keys limit).query.source = .table parent.ref := rfl
  have qualifier : (Source.table parent.ref).qualifier = parent.table.name := rfl
  have joins : (child.besideParent parent keys limit).query.joins =
      [⟨.inner, .subquery true
        (child.correlated (parent.all.column keys.primaryKey) keys limit).query lateralName,
        .const (.bool true)⟩] := rfl
  have read : (Source.table parent.ref).read db [] = .ok base := by
    rw [Model.ref, Source.read, found]
  rw [Query.joined, source, read, ok_bind, joins, joinAll_lateral, qualifier]
  simp only [List.mapM_map, Function.comp_def, List.zip_map_left, List.flatMap_map]
  rfl

theorem values_besideParent {columns : List String} {values row : List Value} {shape : Shape}
    (named : shape.qualifier = lateralName) (present : keys.primaryKey ∈ columns) :
    (do return (← (child.besideParent parent keys limit).query.items.mapM
      (SelectItem.values [parent.binding columns values, ⟨shape, row⟩] [])).flatten) =
      Except.ok (ε := Fault)
        (cellOf columns values keys.primaryKey :: parent.beside values row) := by
  have items : (child.besideParent parent keys limit).query.items =
      [.aliased (parent.all.column keys.primaryKey) keys.foreignKeyAlias,
        .wildcard (.derived lateralName)] := rfl
  have own : Frame.binding? [parent.binding columns values, ⟨shape, row⟩] parent.table.name =
      some (parent.binding columns values) := by
    simp [Frame.binding?, Model.binding]
  have key : SelectItem.values [parent.binding columns values, ⟨shape, row⟩] []
      (.aliased (parent.all.column keys.primaryKey) keys.foreignKeyAlias) =
      .ok [cellOf columns values keys.primaryKey] := by
    have cell : (parent.all.column keys.primaryKey).eval
        [[parent.binding columns values, ⟨shape, row⟩]] =
        .ok (cellOf columns values keys.primaryKey) :=
      (Env.value_near own).trans (Binding.value_cell present)
    rw [SelectItem.values, cell]
    rfl
  have wild : SelectItem.values [parent.binding columns values, ⟨shape, row⟩] []
      (.wildcard (.derived lateralName)) = .ok (parent.beside values row) := by
    by_cases same : parent.table.name = lateralName
    · simp [SelectItem.values, Frame.binding?, Model.binding, TableRef.qualifier, TableRef.alias?,
        TableRef.name, Model.beside, same]
    · simp [SelectItem.values, Frame.binding?, Model.binding, TableRef.qualifier, TableRef.alias?,
        TableRef.name, Model.beside, same, named]
  simp only [items, List.mapM_cons, List.mapM_nil, key, wild, ok_bind, pure_bind]
  simp [pure, Except.pure]

theorem header_besideParent (child : Relation) (parent : Model) (keys : KeyMapping)
    (limit : Option Nat) (own other : List String) :
    ∃ headers, (child.besideParent parent keys limit).query.items.mapM
      (SelectItem.header [⟨parent.table.name, own⟩, ⟨lateralName, other⟩]) = .ok headers ∧
        headers.flatten = keys.foreignKeyAlias :: parent.beside own other := by
  have items : (child.besideParent parent keys limit).query.items =
      [.aliased (parent.all.column keys.primaryKey) keys.foreignKeyAlias,
        .wildcard (.derived lateralName)] := rfl
  have wild : SelectItem.header [⟨parent.table.name, own⟩, ⟨lateralName, other⟩]
      (.wildcard (.derived lateralName)) = .ok (parent.beside own other) := by
    by_cases same : parent.table.name = lateralName
    · simp [SelectItem.header, TableRef.qualifier, TableRef.alias?, TableRef.name, Model.beside, same]
    · simp [SelectItem.header, TableRef.qualifier, TableRef.alias?, TableRef.name, Model.beside, same]
  refine ⟨[[keys.foreignKeyAlias], parent.beside own other], ?_, by simp⟩
  simp only [items, List.mapM_cons, List.mapM_nil, wild, ok_bind, pure_bind]
  rfl

/-- The key of each row of the parent stands in front of each of its children. -/
theorem besideParent_run (found : db parent.table.name = some base)
    (present : keys.primaryKey ∈ base.columns) :
    (child.besideParent parent keys limit).query.run db [] false = (do
      let rights ← base.rows.mapM (child.childrenAt parent keys limit db base.columns)
      let columns ← lateralColumns db
        (child.correlated (parent.all.column keys.primaryKey) keys limit).query rights
      return ⟨keys.foreignKeyAlias :: parent.beside base.columns columns,
        (base.rows.zip rights).flatMap fun pair => pair.2.rows.map fun row =>
          cellOf base.columns pair.1 keys.primaryKey :: parent.beside pair.1 row⟩) := by
  have filter : (child.besideParent parent keys limit).query.filter = none := rfl
  have order : (child.besideParent parent keys limit).query.order = [] := rfl
  have limits : (child.besideParent parent keys limit).query.limit = none := rfl
  rw [Query.run_eq, besideParent_joined found, filter, order, limits]
  cases base.rows.mapM (child.childrenAt parent keys limit db base.columns) with
  | error e => rfl
  | ok rights =>
      rw [ok_bind, ok_bind]
      cases lateralColumns db
          (child.correlated (parent.all.column keys.primaryKey) keys limit).query rights with
      | error e => rfl
      | ok columns =>
          obtain ⟨headers, named, flat⟩ :=
            header_besideParent child parent keys limit base.columns columns
          have rows : ((base.rows.zip rights).flatMap fun pair => lateralPairs lateralName
              [parent.binding base.columns pair.1] pair.2).mapM (fun row => (do
                return (← (child.besideParent parent keys limit).query.items.mapM
                  (SelectItem.values row [])).flatten)) = Except.ok (ε := Fault)
              ((base.rows.zip rights).flatMap fun pair => pair.2.rows.map fun row =>
                cellOf base.columns pair.1 keys.primaryKey :: parent.beside pair.1 row) := by
            refine mapM_flatMap_eq_ok fun pair _ => ?_
            rw [lateralPairs, List.mapM_map]
            exact mapM_eq_ok_map fun row _ => values_besideParent rfl present
          simp only [ok_bind, pure_bind, Bool.false_eq_true, if_false, filterRows, sortRows_nil,
            limitRows, project]
          rw [named, ok_bind, flat, rows]
          rfl

end Relation

end Relata
