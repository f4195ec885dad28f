import Relata.Eval.Query
import Relata.Proofs.Query.Rows
import Relata.Sql.Statement

/-!
Junctions without operands in a text. Inside a condition such a junction is written as the constant that it is
worth. At the top of a filter it is not written at all, and no clause keeps every row: so does an empty
conjunction, but no empty disjunction.
-/

namespace Relata

mutual

/-- The expression with constants for its empty junctions: true for a conjunction, false for a disjunction. -/
@[simp] def Expr.plain : Expr → Expr
  | .and operands => if operands.isEmpty then .const (.bool true) else .and (plainAll operands)
  | .or operands => if operands.isEmpty then .const (.bool false) else .or (plainAll operands)
  | .compare op lhs rhs => .compare op lhs.plain rhs.plain
  | .column c => .column c
  | .grouping e => .grouping e.plain
  | .inList e items => .inList e.plain (plainAll items)
  | .isNull negated e => .isNull negated e.plain
  | .not e => .not e.plain
  | .const v => .const v

def plainAll : List Expr → List Expr
  | [] => []
  | e :: rest => e.plain :: plainAll rest

end

@[simp] theorem plainAll_eq_map (es : List Expr) : plainAll es = es.map Expr.plain := by
  induction es with
  | nil => rfl
  | cons e rest ih => rw [plainAll, ih, List.map_cons]

namespace Expr

variable {operands : List Expr}

theorem plain_and (some : ¬ operands.isEmpty = true) :
    (Expr.and operands).plain = .and (operands.map plain) := by
  rw [plain, if_neg some, plainAll_eq_map]

theorem plain_or (some : ¬ operands.isEmpty = true) :
    (Expr.or operands).plain = .or (operands.map plain) := by
  rw [plain, if_neg some, plainAll_eq_map]

theorem isJunction_plain (e : Expr) : e.plain.isJunction = e.isJunction := by
  cases e with
  | and operands | or operands =>
      cases operands with
      | nil => rfl
      | cons e rest => simp [isJunction]
  | compare | column | grouping | inList | isNull | not | const => rfl

theorem operandSql_plain (e : Expr) (sql : Sql) : e.plain.operandSql sql = e.operandSql sql := by
  rw [operandSql, operandSql, isJunction_plain]

/-- An empty junction has the text of its constant. -/
theorem sql_plain (e : Expr) : e.plain.sql = e.sql := by
  induction e using Expr.induction with
  | and operands ih =>
      by_cases none : operands.isEmpty = true
      · rw [plain, if_pos none, sql, sql, if_pos none]
        rfl
      · rw [plain_and none, sql, sql, List.isEmpty_map, operandsSql_eq_map, operandsSql_eq_map, List.map_map]
        have same : operands.map ((fun e => e.operandSql e.sql) ∘ plain) =
            operands.map fun e => e.operandSql e.sql :=
          List.map_congr_left fun e member => by rw [Function.comp_apply, ih e member, operandSql_plain]
        rw [same, if_neg none]
  | or operands ih =>
      by_cases none : operands.isEmpty = true
      · rw [plain, if_pos none, sql, sql, if_pos none]
        rfl
      · rw [plain_or none, sql, sql, List.isEmpty_map, exprsSql_eq_map, exprsSql_eq_map, List.map_map,
          List.map_congr_left (f := sql ∘ plain) ih]
  | compare op lhs rhs left right => rw [plain, sql, sql, left, right]
  | column c => rfl
  | grouping e ih => rw [plain, sql, sql, ih]
  | inList e items ih each =>
      rw [plain, sql, sql, ih, plainAll_eq_map, List.isEmpty_map, exprsSql_eq_map, exprsSql_eq_map,
        List.map_map, List.map_congr_left (f := sql ∘ plain) each]
  | isNull negated e ih => rw [plain, sql, sql, ih]
  | not e ih => rw [plain, sql, sql, ih, operandSql_plain]
  | const v => rfl

section Eval

variable {env : Env} {f : Expr → Expr}

theorem evalAll_map (same : ∀ e ∈ operands, (f e).eval env = e.eval env) :
    evalAll env (operands.map f) = evalAll env operands := by
  induction operands with
  | nil => rfl
  | cons e rest ih =>
      rw [List.map_cons, evalAll, evalAll, same e List.mem_cons_self,
        ih fun e member => same e (List.mem_cons_of_mem _ member)]

theorem evalAny_map (same : ∀ e ∈ operands, (f e).eval env = e.eval env) :
    evalAny env (operands.map f) = evalAny env operands := by
  induction operands with
  | nil => rfl
  | cons e rest ih =>
      rw [List.map_cons, evalAny, evalAny, same e List.mem_cons_self,
        ih fun e member => same e (List.mem_cons_of_mem _ member)]

theorem evalMember_map {v : Value} (same : ∀ e ∈ operands, (f e).eval env = e.eval env) :
    evalMember env v (operands.map f) = evalMember env v operands := by
  induction operands with
  | nil => rfl
  | cons e rest ih =>
      rw [List.map_cons, evalMember, evalMember, same e List.mem_cons_self,
        ih fun e member => same e (List.mem_cons_of_mem _ member)]

/-- An empty junction has the value of its constant. -/
theorem eval_plain (env : Env) (e : Expr) : e.plain.eval env = e.eval env := by
  induction e using Expr.induction with
  | and operands ih =>
      by_cases none : operands.isEmpty = true
      · rw [List.isEmpty_iff.mp none]
        rfl
      · rw [plain_and none, eval, eval, evalAll_map ih]
  | or operands ih =>
      by_cases none : operands.isEmpty = true
      · rw [List.isEmpty_iff.mp none]
        rfl
      · rw [plain_or none, eval, eval, evalAny_map ih]
  | compare op lhs rhs left right => rw [plain, eval, eval, left, right]
  | column c => rfl
  | grouping e ih => rw [plain, eval, eval, ih]
  | inList e items ih each =>
      simp only [plain, eval, ih, plainAll_eq_map, List.isEmpty_map, evalMember_map each]
  | isNull negated e ih => rw [plain, eval, eval, ih]
  | not e ih => rw [plain, eval, eval, ih]
  | const v => rfl

end Eval

theorem keeps_plain (env : Env) (e : Expr) : e.plain.keeps env = e.keeps env := by
  rw [keeps, keeps, eval_plain]

theorem isEmptyJunction_iff {e : Expr} : e.isEmptyJunction = true ↔ e = .and [] ∨ e = .or [] := by
  cases e with
  | and operands | or operands => cases operands <;> simp [isEmptyJunction]
  | compare | column | grouping | inList | isNull | not | const => simp [isEmptyJunction]

theorem isEmptyJunction_plain (e : Expr) : e.plain.isEmptyJunction = false := by
  cases e with
  | and operands | or operands => cases operands <;> simp [isEmptyJunction]
  | compare | column | grouping | inList | isNull | not | const => rfl

end Expr

/-- What the clause of a filter asks, with constants for empty junctions: nothing where there is no clause. -/
def writtenFilter : Option Expr → Option Expr
  | none => none
  | some e => if e.isEmptyJunction then none else some e.plain

/-- The query that the text of a query says, with constants for the empty junctions of its filter. -/
def Query.written (query : Query) : Query := { query with filter := writtenFilter query.filter }

theorem filterSql_written (filter : Option Expr) : filterSql (writtenFilter filter) = filterSql filter := by
  cases filter with
  | none => rfl
  | some e =>
      by_cases empty : e.isEmptyJunction = true
      · rw [writtenFilter, if_pos empty, filterSql, filterSql, if_pos empty]
      · rw [writtenFilter, if_neg empty, filterSql, filterSql, if_neg empty,
          if_neg (by simp [Expr.isEmptyJunction_plain]), Expr.sql_plain]

theorem Query.sql_written (query : Query) : query.written.sql = query.sql := by
  obtain ⟨items, source, joins, filter, order, limit⟩ := query
  rw [written, Query.sql, Query.sql, filterSql_written]

theorem filterRows_written {filter : Option Expr} (asks : filter ≠ some (.or [])) (outer : Env)
    (rows : List Frame) : filterRows outer (writtenFilter filter) rows = filterRows outer filter rows := by
  cases filter with
  | none => rfl
  | some e =>
      by_cases empty : e.isEmptyJunction = true
      · rcases Expr.isEmptyJunction_iff.mp empty with rfl | rfl
        · have conjunction : keepRows outer (.and []) rows = .ok rows := by
            rw [keepRows_eq_ok (p := fun _ => true) fun _ _ => rfl, List.filter_true]
          exact conjunction.symm
        · exact absurd rfl asks
      · rw [writtenFilter, if_neg empty]
        exact keepRows_congr fun row _ => e.keeps_plain _

/-- The text says a query with the same answer. -/
theorem Query.run_written {query : Query} (asks : query.filter ≠ some (.or [])) (db : Database)
    (outer : Env) (headerOnly : Bool) :
    query.written.run db outer headerOnly = query.run db outer headerOnly := by
  obtain ⟨items, source, joins, filter, order, limit⟩ := query
  rw [written, Query.run, Query.run]
  simp only [filterRows_written asks]

end Relata
