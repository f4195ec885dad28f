import Relata.Proofs.Relation.Narrow
import Relata.Proofs.Relation.Rename

/-!
Steps on a relation's own columns. Such steps gather tests of single columns, sort keys and a limit.
Under another name of the table every test follows, except one for nulls: it keeps the table's own name,
and where a row of the same table stands around the query, it is a test of that row.
-/

namespace Relata

/-- A step that tests, sorts by or limits by the relation's own columns, which are among `columns`. -/
def Step.Own (columns : List String) : Step → Prop
  | .whereEq column _ | .whereIn column _ | .whereGt column _ | .whereLt column _ => column ∈ columns
  | .whereNull column | .whereNotNull column => column ∈ columns
  | .orderByAsc column | .orderByDesc column => column ∈ columns
  | .limit _ => True
  | _ => False

/-- The step with a test for nulls asked of the one row; every other step as it is. -/
def Step.askedOf (columns : List String) (row : List Value) : Step → Step
  | .whereNull column => .filter (.isNull false (.const (cellOf columns row column)))
  | .whereNotNull column => .filter (.isNull true (.const (cellOf columns row column)))
  | .whereEq column .null => .filter (.isNull false (.const (cellOf columns row column)))
  | step => step

/-- A test of one column against constants. -/
inductive Test
  | compare (op : Comparison) (column : String) (value : Value)
  | among (column : String) (values : List Value)
  | null (negated : Bool) (column : String)

namespace Test

/-- The columns are there to be tested, and the comparison is one that follows the table to another
name. -/
def Own (columns : List String) : Test → Prop
  | .compare op column _ => (op = .eq ∨ op = .gt ∨ op = .lt) ∧ column ∈ columns
  | .among column _ => column ∈ columns
  | .null _ column => column ∈ columns

def expr (ref : TableRef) : Test → Expr
  | .compare op column value => .compare op (.column (ref.column column)) (.const value)
  | .among column values => .inList (.column (ref.column column)) (values.map .const)
  | .null negated column => .isNull negated (.column (ref.column column))

/-- The test with a test for nulls asked of the one row. -/
def askedOf (ref : TableRef) (columns : List String) (row : List Value) : Test → Expr
  | .null negated column => .isNull negated (.const (cellOf columns row column))
  | test => test.expr ref

end Test

/-- The expression is a conjunct by itself: it is neither a conjunction nor left out of one. -/
def Expr.isConjunct (e : Expr) : Bool :=
  match e with
  | .and _ => false
  | .const (.bool true) => false
  | _ => true

/-- The filter that conditions make when they are added one after the other. -/
def allOf : List Expr → Option Expr
  | [] => none
  | [e] => some e
  | es => some (.and es)

theorem Expr.isTrue_of_isConjunct {e : Expr} (conjunct : e.isConjunct = true) :
    ¬ e.isTrue = true := by
  intro constant
  rw [isTrue_iff.mp constant] at conjunct
  cases conjunct

theorem Expr.conj_conjunct {lhs rhs : Expr} (left : lhs.isConjunct = true)
    (right : rhs.isConjunct = true) : lhs.conj rhs = .and [lhs, rhs] := by
  unfold conj
  rw [if_neg (isTrue_of_isConjunct left), if_neg (isTrue_of_isConjunct right)]
  split
  · cases left
  · cases left
  · rfl

theorem Expr.and_conj_conjunct {operands : List Expr} {rhs : Expr}
    (right : rhs.isConjunct = true) :
    (Expr.and operands).conj rhs = .and (operands ++ [rhs]) := by
  unfold conj
  rw [if_neg (by simp), if_neg (isTrue_of_isConjunct right)]
  split
  · cases right
  · rename_i same _
    cases same
    rfl
  · rename_i other _
    exact absurd rfl (other operands)

theorem addCondition_allOf {es : List Expr} {condition : Expr}
    (each : ∀ e ∈ es, e.isConjunct = true) (last : condition.isConjunct = true) :
    some (addCondition (allOf es) condition) = allOf (es ++ [condition]) := by
  cases es with
  | nil => rfl
  | cons e rest =>
      cases rest with
      | nil =>
          rw [allOf, addCondition, Expr.conj_conjunct (each e List.mem_cons_self) last]
          rfl
      | cons second rest => exact congrArg some (Expr.and_conj_conjunct last)

/-- All rows of the model under some conditions, sorted and cut. -/
def Model.under (model : Model) (conditions : List Expr) (order : List OrderTerm)
    (limit : Option Nat) : Relation :=
  { model.all with filter := allOf conditions, order, limit }

theorem Model.under_restrict {model : Model} {es : List Expr} {order : List OrderTerm}
    {limit : Option Nat} {condition : Expr} (each : ∀ e ∈ es, e.isConjunct = true)
    (last : condition.isConjunct = true) :
    (model.under es order limit).restrict condition = model.under (es ++ [condition]) order limit := by
  have filter := addCondition_allOf each last
  rw [under, under, ← filter]
  rfl

namespace Test

variable {ref twin : TableRef} {columns : List String} {values row : List Value} {test : Test}

theorem isConjunct_expr (test : Test) (ref : TableRef) : (test.expr ref).isConjunct = true := by
  cases test <;> rfl

theorem isConjunct_askedOf (test : Test) (ref : TableRef) (columns : List String)
    (row : List Value) : (test.askedOf ref columns row).isConjunct = true := by
  cases test <;> rfl

/-- The test where the table is read under another name. A test for nulls stays behind. -/
def follow (ref twin : TableRef) : Test → Expr
  | .null negated column => (Test.null negated column).expr ref
  | test => test.expr twin

theorem isConjunct_follow (test : Test) (ref twin : TableRef) :
    (test.follow ref twin).isConjunct = true := by
  cases test <;> rfl

theorem rename?_expr (own : test.Own columns) :
    (test.expr ref).rename? ref twin = some (test.follow ref twin) := by
  cases test with
  | compare op column value => exact Expr.rename?_compare own.1 column _
  | among column list => rw [expr, Expr.rename?, Expr.rebind_own]; rfl
  | null negated column => rfl

theorem value_cell {outer : Env} {column : String} (present : column ∈ columns) :
    Env.value (rowFrame ref.qualifier columns values :: outer) (ref.column column) =
      .ok (cellOf columns values column) := by
  rw [Expr.value_own, Binding.value_cell present]

/-- With a row of the table around it, a test of a row under the other name is the test that asks the
row around it for nulls. -/
theorem eval_follow (own : test.Own columns) (apart : twin.qualifier ≠ ref.qualifier) :
    (test.follow ref twin).eval
        [rowFrame twin.qualifier columns values, rowFrame ref.qualifier columns row] =
      (test.askedOf ref columns row).eval [rowFrame ref.qualifier columns values] := by
  cases test with
  | compare op column value =>
      simp only [follow, askedOf, expr, Expr.eval, value_cell own.2]
  | among column list =>
      have items : ∀ v, evalMember
          [rowFrame twin.qualifier columns values, rowFrame ref.qualifier columns row] v
          (list.map .const) =
          evalMember [rowFrame ref.qualifier columns values] v (list.map .const) := by
        intro v
        refine evalMember_congr fun item member => ?_
        obtain ⟨_, _, rfl⟩ := List.mem_map.mp member
        rfl
      simp only [follow, askedOf, expr, Expr.eval, value_cell own, items]
  | null negated column =>
      have hidden : Frame.binding? (rowFrame twin.qualifier columns values)
          (ref.column column).table.qualifier = none := by
        simp [rowFrame, Frame.binding?, TableRef.column, apart]
      have around : Env.value
          [rowFrame twin.qualifier columns values, rowFrame ref.qualifier columns row]
          (ref.column column) = .ok (cellOf columns row column) :=
        (Env.value_outer hidden).trans (value_cell own)
      simp only [follow, askedOf, expr, Expr.eval, around]

end Test

theorem evalAll_forall₂ {env other : Env} {es es' : List Expr}
    (same : List.Forall₂ (fun e e' => e.eval env = e'.eval other) es es') :
    evalAll env es = evalAll other es' := by
  induction same with
  | nil => rfl
  | cons first _ ih => rw [evalAll, evalAll, first, ih]

theorem keeps_allOf_congr {env other : Env} {es es' : List Expr}
    (same : List.Forall₂ (fun e e' => e.eval env = e'.eval other) es es') :
    ((allOf es).getD (.const (.bool true))).keeps env =
      ((allOf es').getD (.const (.bool true))).keeps other := by
  cases same with
  | nil => rfl
  | cons first others =>
      cases others with
      | nil => exact congrArg (· >>= _) first
      | cons second others =>
          have all := evalAll_forall₂ (.cons first (.cons second others))
          simp only [allOf, Option.getD_some, Expr.keeps, Expr.eval, all]

theorem allOf_rename? {root twin : TableRef} {es : List Expr}
    (each : ∀ e ∈ es, e.rename? root twin = some (e.underName root twin)) :
    (allOf es).bind (Expr.rename? root twin) = allOf (es.map (Expr.underName root twin)) := by
  cases es with
  | nil => rfl
  | cons e rest =>
      cases rest with
      | nil => exact each e List.mem_cons_self
      | cons second rest => exact Expr.rename?_and (List.cons_ne_nil _ _) each

/-- One relation and another that has the same tests, sort keys and limit, but asks the one row for
nulls. -/
inductive Model.Asks (model : Model) (columns : List String) (row : List Value) :
    Relation → Relation → Prop
  | mk {tests : List Test} {order : List OrderTerm} {limit : Option Nat}
    (own : ∀ test ∈ tests, test.Own columns)
    (sorted : ∀ term ∈ order, ∃ column ∈ columns, term.expr = .column (model.ref.column column)) :
    model.Asks columns row (model.under (tests.map (Test.expr model.ref)) order limit)
      (model.under (tests.map (Test.askedOf model.ref columns row)) order limit)

namespace Model.Asks

variable {model : Model} {columns : List String} {row : List Value} {relation asked : Relation}

theorem restrict (asks : model.Asks columns row relation asked) {test : Test}
    (own : test.Own columns) :
    model.Asks columns row (relation.restrict (test.expr model.ref))
      (asked.restrict (test.askedOf model.ref columns row)) := by
  cases asks with
  | @mk tests order limit each sorted =>
      have plain : ∀ e ∈ tests.map (Test.expr model.ref), e.isConjunct = true := by
        intro e member
        obtain ⟨other, _, rfl⟩ := List.mem_map.mp member
        exact other.isConjunct_expr model.ref
      have plainAsked : ∀ e ∈ tests.map (Test.askedOf model.ref columns row),
          e.isConjunct = true := by
        intro e member
        obtain ⟨other, _, rfl⟩ := List.mem_map.mp member
        exact other.isConjunct_askedOf model.ref columns row
      rw [under_restrict plain (test.isConjunct_expr model.ref),
        under_restrict plainAsked (test.isConjunct_askedOf model.ref columns row),
        ← List.map_singleton, ← List.map_singleton, ← List.map_append, ← List.map_append]
      refine .mk (fun other member => ?_) sorted
      rcases List.mem_append.mp member with member | member
      · exact each other member
      · rw [List.mem_singleton.mp member]
        exact own

theorem orderBy (asks : model.Asks columns row relation asked) {term : OrderTerm} {column : String}
    (present : column ∈ columns) (own : term.expr = .column (model.ref.column column)) :
    model.Asks columns row (relation.orderBy term) (asked.orderBy term) := by
  cases asks with
  | mk each sorted =>
      refine .mk each fun other member => ?_
      rcases List.mem_append.mp member with member | member
      · exact sorted other member
      · rw [List.mem_singleton.mp member]
        exact ⟨column, present, own⟩

theorem column_eq (asks : model.Asks columns row relation asked) (column : String) :
    relation.column column = .column (model.ref.column column) ∧
      asked.column column = .column (model.ref.column column) := by
  cases asks with
  | mk => exact ⟨rfl, rfl⟩

theorem direct (asks : model.Asks columns row relation asked) :
    relation.Direct model.table.name ∧ asked.Direct model.table.name := by
  cases asks with
  | mk => exact ⟨⟨⟨none, rfl⟩, rfl, rfl⟩, ⟨⟨none, rfl⟩, rfl, rfl⟩⟩

theorem single (asks : model.Asks columns row relation asked) : relation.joins = [] := by
  cases asks with
  | mk => rfl

theorem compare (asks : model.Asks columns row relation asked) {op : Comparison} {column : String}
    (rebound : op = .eq ∨ op = .gt ∨ op = .lt) (present : column ∈ columns) (value : Value) :
    model.Asks columns row (relation.restrict (.compare op (relation.column column) (.const value)))
      (asked.restrict (.compare op (asked.column column) (.const value))) := by
  obtain ⟨left, right⟩ := asks.column_eq column
  rw [left, right]
  exact asks.restrict (show (Test.compare op column value).Own columns from ⟨rebound, present⟩)

theorem null (asks : model.Asks columns row relation asked) (negated : Bool) {column : String}
    (present : column ∈ columns) :
    model.Asks columns row (relation.restrict (.isNull negated (relation.column column)))
      (asked.restrict (.isNull negated (.const (cellOf columns row column)))) := by
  rw [(asks.column_eq column).1]
  exact asks.restrict (show (Test.null negated column).Own columns from present)

theorem sort (asks : model.Asks columns row relation asked) (direction : Option Direction)
    {column : String} (present : column ∈ columns) :
    model.Asks columns row (relation.orderBy ⟨relation.column column, direction⟩)
      (asked.orderBy ⟨asked.column column, direction⟩) := by
  obtain ⟨left, right⟩ := asks.column_eq column
  rw [left, right]
  exact asks.orderBy present rfl

/-- A step on the relations' own columns is the same test, sort key or limit of both. -/
theorem apply (asks : model.Asks columns row relation asked) {step : Step}
    (own : step.Own columns) :
    model.Asks columns row (relation.apply step) (asked.apply (step.askedOf columns row)) := by
  cases step with
  | whereEq column value =>
      cases value with
      | null => exact asks.null false own
      | int | text | bool => exact asks.compare (.inl rfl) own _
  | whereIn column values =>
      obtain ⟨left, right⟩ := asks.column_eq column
      rw [Step.askedOf, Relation.apply, Relation.apply, Relation.whereIn, Relation.whereIn, left,
        right]
      · exact asks.restrict (show (Test.among column values).Own columns from own)
      all_goals simp
  | whereGt column value => exact asks.compare (.inr (.inl rfl)) own value
  | whereLt column value => exact asks.compare (.inr (.inr rfl)) own value
  | whereNull column => exact asks.null false own
  | whereNotNull column => exact asks.null true own
  | orderByAsc column => exact asks.sort (some .asc) own
  | orderByDesc column => exact asks.sort (some .desc) own
  | limit count =>
      cases asks with
      | mk each sorted => exact .mk each sorted
  | filter | or | orderBy | select | join | fromDerived | withTable | unscopeSelect | unscopeWhere
  | unscopeOrder | unscopeLimit | rename => exact own.elim

theorem refine (asks : model.Asks columns row relation asked) {steps : List Step}
    (own : ∀ step ∈ steps, step.Own columns) :
    model.Asks columns row (relation.refine steps)
      (asked.refine (steps.map (Step.askedOf columns row))) := by
  induction steps generalizing relation asked with
  | nil => exact asks
  | cons step rest ih =>
      exact ih (asks.apply (own step List.mem_cons_self)) fun other member =>
        own other (List.mem_cons_of_mem _ member)

theorem all (model : Model) (columns : List String) (row : List Value) :
    model.Asks columns row model.all model.all :=
  @mk model columns row [] [] none (fun _ member => absurd member List.not_mem_nil)
    fun _ member => absurd member List.not_mem_nil

end Model.Asks

section Lateral

variable {model parent : Model} {columns : List String} {row : List Value} {tests : List Test}
  {keys : KeyMapping} {aliasName : String}

theorem allOf_follow {root twin : TableRef} (own : ∀ test ∈ tests, test.Own columns) :
    (allOf (tests.map (Test.expr root))).bind (Expr.rename? root twin) =
      allOf (tests.map (Test.follow root twin)) := by
  have each : ∀ test ∈ tests, (test.expr root).rename? root twin =
      some ((test.expr root).underName root twin) := fun test member => by
    rw [Test.rename?_expr (own test member), Expr.underName_eq (Test.rename?_expr (own test member))]
  have follow : ∀ test ∈ tests, (test.expr root).underName root twin = test.follow root twin :=
    fun test member => Expr.underName_eq (Test.rename?_expr (own test member))
  rw [allOf_rename? (by simpa using each), List.map_map]
  exact congrArg allOf (List.map_congr_left follow)

theorem addCondition_tests {f : Test → Expr} (plain : ∀ test, (f test).isConjunct = true)
    {op : Comparison} {lhs rhs : Expr} :
    addCondition (allOf (tests.map f)) (.compare op lhs rhs) =
      (allOf (tests.map f ++ [.compare op lhs rhs])).getD (.const (.bool true)) := by
  rw [← addCondition_allOf (by simpa using fun test _ => plain test) rfl]
  rfl

/-- Under the other name and next to a row of the table the tests and the key of that row say of a row
what the tests that ask that row for nulls and its key say. -/
theorem keeps_tests {values : List Value} (own : ∀ test ∈ tests, test.Own columns)
    (shared : model.table.name = parent.table.name) (apart : aliasName ≠ model.table.name)
    (foreign : keys.foreignKey ∈ columns) (present : keys.primaryKey ∈ columns) :
    (addCondition (allOf (tests.map (Test.follow model.ref (.table model.table.name (some aliasName)))))
        (.compare .eq
          (.column ((TableRef.table model.table.name (some aliasName)).column keys.foreignKey))
          (parent.all.column keys.primaryKey))).keeps
        [rowFrame aliasName columns values, [parent.binding columns row]] =
      (addCondition (allOf (tests.map (Test.askedOf model.ref columns row)))
        (.compare .eq (.column (model.ref.column keys.foreignKey))
          (.const (cellOf columns row keys.primaryKey)))).keeps
        [rowFrame model.table.name columns values] := by
  rw [addCondition_tests fun test => test.isConjunct_follow _ _,
    addCondition_tests fun test => test.isConjunct_askedOf _ _ _]
  have around : [parent.binding columns row] = rowFrame model.table.name columns row := by
    rw [Model.binding, ← shared]
    rfl
  have hidden : Frame.binding? (rowFrame aliasName columns values) parent.table.name = none := by
    simp [rowFrame, Frame.binding?, ← shared, apart]
  have renamed : (TableRef.table model.table.name (some aliasName)).qualifier ≠
      model.ref.qualifier := apart
  refine keeps_allOf_congr (List.rel_append ?_ (.cons ?_ .nil))
  · rw [List.forall₂_map_left_iff, List.forall₂_map_right_iff, List.forall₂_same]
    intro test member
    rw [around]
    exact Test.eval_follow (own test member) renamed
  · have left : Env.value [rowFrame aliasName columns values, [parent.binding columns row]]
        ((TableRef.table model.table.name (some aliasName)).column keys.foreignKey) =
        .ok (cellOf columns values keys.foreignKey) := Test.value_cell foreign
    have right : Env.value [rowFrame model.table.name columns values]
        (model.ref.column keys.foreignKey) = .ok (cellOf columns values keys.foreignKey) :=
      Test.value_cell foreign
    simp only [Expr.eval, left, right, ok_bind, Relation.eval_parentKey hidden present]

theorem sortKeys_own {root twin : TableRef} {order : List OrderTerm} {values : List Value}
    {outer other : Env}
    (sorted : ∀ term ∈ order, ∃ column ∈ columns, term.expr = .column (root.column column)) :
    sortKeys (rowFrame twin.qualifier columns values :: other)
        (order.map (OrderTerm.rename root twin)) =
      sortKeys (rowFrame root.qualifier columns values :: outer) order := by
  rw [sortKeys, sortKeys, List.mapM_map]
  refine mapM_congr fun term member => ?_
  obtain ⟨column, present, own⟩ := sorted term member
  rw [Function.comp_apply, OrderTerm.rename, own, Expr.rebind_own, Expr.eval, Expr.eval,
    Test.value_cell present, Test.value_cell present]

end Lateral

namespace Model.Asks

variable {model parent : Model} {columns : List String} {row : List Value}
  {relation asked : Relation} {db : Database} {keys : KeyMapping} {limit : Option Nat}
  {rows : List (List Value)} {aliasName : String}

/-- In sight of a row of the parent, a child that reads the parent's table under another name answers
like the rows of the table under its own name that point at the row's key, with the tests for nulls
asked of that row. -/
theorem childrenAt_mirrors (asks : model.Asks columns row relation asked)
    (shared : model.table.name = parent.table.name) (apart : aliasName ≠ model.table.name)
    (found : db model.table.name = some ⟨columns, rows⟩) (foreign : keys.foreignKey ∈ columns)
    (present : keys.primaryKey ∈ columns) :
    Mirrors id ((relation.rename aliasName).childrenAt parent keys limit db columns row)
      ((asked.pointingTo keys (cellOf columns row keys.primaryKey) limit).query.answer db) := by
  cases asks with
  | @mk tests order count own sorted =>
  have direct : ∀ es, (model.under es order count).Direct model.table.name :=
    fun es => ⟨⟨none, rfl⟩, rfl, rfl⟩
  have left := (direct (tests.map (Test.askedOf model.ref columns row))).pointingTo keys limit
    (cellOf columns row keys.primaryKey)
  have right := ((direct (tests.map (Test.expr model.ref))).rename aliasName).correlated keys limit
    (parent.all.column keys.primaryKey)
  rw [Relation.childrenAt, Query.answer]
  rw [Relation.correlated_eq] at right ⊢
  refine left.run_mirrors right rfl rfl rfl rfl List.map_map found ?_ ?_
  · intro values _
    refine .of_eq (Eq.trans ?_ (keeps_tests own shared apart foreign present))
    rw [← allOf_follow own]
    rfl
  · intro values _
    exact .of_eq (sortKeys_own sorted)

end Model.Asks

end Relata
