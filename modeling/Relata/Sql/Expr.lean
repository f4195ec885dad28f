import Relata.Expr
import Relata.Sql.Text

/-!
Written expressions. Comparisons bind tighter than NOT, NOT tighter than AND, and AND tighter than
OR, so a junction of several operands gets parentheses below AND and NOT.
-/

namespace Relata

def ColumnRef.sql (c : ColumnRef) : Sql :=
  Sql.text (Sql.name c.table.qualifier ++ "." ++ Sql.name c.column)

def Expr.isJunction : Expr → Bool
  | .and operands => operands.length > 1
  | .or operands => operands.length > 1
  | _ => false

def Expr.operandSql (e : Expr) (sql : Sql) : Sql :=
  if e.isJunction then Sql.text "(" ++ sql ++ Sql.text ")" else sql

mutual

/-- An empty conjunction is written as true, an empty disjunction and an empty list as false. -/
def Expr.sql : Expr → Sql
  | .and operands =>
    if operands.isEmpty then Sql.text "TRUE" else Sql.join " AND " (operandsSql operands)
  | .or operands =>
    if operands.isEmpty then Sql.text "FALSE" else Sql.join " OR " (exprsSql operands)
  | .compare op lhs rhs => lhs.sql ++ Sql.text (" " ++ op.symbol ++ " ") ++ rhs.sql
  | .column c => c.sql
  | .grouping e => Sql.text "(" ++ e.sql ++ Sql.text ")"
  | .inList e items =>
    if items.isEmpty then Sql.text "FALSE"
    else e.sql ++ Sql.text " IN (" ++ Sql.join ", " (exprsSql items) ++ Sql.text ")"
  | .isNull negated e => e.sql ++ Sql.text (if negated then " IS NOT NULL" else " IS NULL")
  | .not e => Sql.text "NOT " ++ e.operandSql e.sql
  | .const v => Sql.value v

def exprsSql : List Expr → List Sql
  | [] => []
  | e :: rest => e.sql :: exprsSql rest

def operandsSql : List Expr → List Sql
  | [] => []
  | e :: rest => e.operandSql e.sql :: operandsSql rest

end

theorem exprsSql_eq_map (es : List Expr) : exprsSql es = es.map Expr.sql := by
  induction es with
  | nil => rfl
  | cons e rest ih => simp [exprsSql, ih]

theorem operandsSql_eq_map (es : List Expr) :
    operandsSql es = es.map fun e => e.operandSql e.sql := by
  induction es with
  | nil => rfl
  | cons e rest ih => simp [operandsSql, ih]

end Relata
