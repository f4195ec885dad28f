import Relata.Proofs.Expr.Columns
import Relata.Sql.Statement

/-!
Text without constants. A written command is a template whose holes are filled with parameters or with
constants. The template is that of the command without its numbers and texts, so no such constant has a
say in the text around it.
-/

namespace Relata

/-- Text pieces, and `none` for each hole. -/
abbrev Template := List (Option String)

namespace Template

/-- The text with the holes filled in their order. -/
def fill : Template → List String → String
  | [], _ => ""
  | some s :: rest, fillings => s ++ fill rest fillings
  | none :: rest, filling :: fillings => filling ++ fill rest fillings
  | none :: rest, [] => fill rest []

def holes (template : Template) : Nat := template.count none

end Template

/-- The constants that can be passed apart from the text all become one. -/
def Value.erase : Value → Value
  | .int _ | .text _ => .int 0
  | v => v

mutual

def Expr.erase : Expr → Expr
  | .and operands => .and (eraseAll operands)
  | .or operands => .or (eraseAll operands)
  | .compare op lhs rhs => .compare op lhs.erase rhs.erase
  | .column c => .column c
  | .grouping e => .grouping e.erase
  | .inList e items => .inList e.erase (eraseAll items)
  | .isNull negated e => .isNull negated e.erase
  | .not e => .not e.erase
  | .const v => .const v.erase

def eraseAll : List Expr → List Expr
  | [] => []
  | e :: rest => e.erase :: eraseAll rest

end

def SelectItem.erase : SelectItem → SelectItem
  | .expr e => .expr e.erase
  | .aliased e aliasName => .aliased e.erase aliasName
  | .wildcard ref => .wildcard ref

def OrderTerm.erase (term : OrderTerm) : OrderTerm := { term with expr := term.expr.erase }

mutual

def Query.erase : Query → Query
  | ⟨items, source, joins, filter, order, limit⟩ =>
    ⟨items.map SelectItem.erase, source.erase, eraseJoins joins, filter.map Expr.erase,
      order.map OrderTerm.erase, limit.map Expr.erase⟩

def Source.erase : Source → Source
  | .table ref => .table ref
  | .subquery lateral query aliasName => .subquery lateral query.erase aliasName

def eraseJoins : List Join → List Join
  | [] => []
  | ⟨kind, source, condition⟩ :: rest => ⟨kind, source.erase, condition.erase⟩ :: eraseJoins rest

end

def Insert.erase (insert : Insert) : Insert := { insert with values := eraseAll insert.values }

def Statement.erase : Statement → Statement
  | .query q => .query q.erase
  | .insert row => .insert row.erase

/-- The command without its numbers and texts. -/
def Command.erase : Command → Command
  | .run statement => .run statement.erase
  | .createTable create => .createTable create
  | .dropTable drop => .dropTable drop

def Piece.shape : Piece → Option String
  | .text s => some s
  | .hole _ => none

namespace Sql

def template (sql : Sql) : Template := sql.map Piece.shape

variable {sql left right : Sql}

@[simp] theorem template_append (left right : Sql) :
    (left ++ right).template = left.template ++ right.template := List.map_append

theorem template_join (separator : String) {parts others : List Sql}
    (same : parts.map template = others.map template) :
    (join separator parts).template = (join separator others).template := by
  induction parts generalizing others with
  | nil =>
      rw [List.map_eq_nil_iff.mp same.symm]
  | cons part rest ih =>
      cases others with
      | nil => cases same
      | cons other others =>
          obtain ⟨first, later⟩ := List.cons.inj same
          cases rest with
          | nil =>
              rw [List.map_eq_nil_iff.mp later.symm]
              exact first
          | cons next rest =>
              cases others with
              | nil => cases later
              | cons another others =>
                  have tail := ih later
                  simp only [join, template_append, first]
                  simp only [template, List.map_cons] at tail ⊢
                  rw [tail]

theorem holes_template (sql : Sql) : sql.template.holes = sql.constants.length := by
  induction sql with
  | nil => rfl
  | cons piece rest ih =>
      cases piece with
      | text s => simpa [template, Template.holes, Piece.shape, constants] using ih
      | hole c => simpa [template, Template.holes, Piece.shape, constants] using ih

theorem numbered_eq_fill (bound : Nat) (sql : Sql) :
    sql.numbered bound =
      sql.template.fill ((List.range' (bound + 1) sql.constants.length).map parameter) := by
  induction sql generalizing bound with
  | nil => rfl
  | cons piece rest ih =>
      cases piece with
      | text s => exact congrArg (s ++ ·) (ih bound)
      | hole c => exact congrArg (parameter (bound + 1) ++ ·) (ih (bound + 1))

end Sql

theorem eraseAll_eq_map (es : List Expr) : eraseAll es = es.map Expr.erase := by
  induction es with
  | nil => rfl
  | cons e rest ih => rw [eraseAll, ih, List.map_cons]

theorem eraseAll_isEmpty (es : List Expr) : (eraseAll es).isEmpty = es.isEmpty := by
  rw [eraseAll_eq_map, List.isEmpty_map]

namespace Expr

theorem isJunction_erase (e : Expr) : e.erase.isJunction = e.isJunction := by
  cases e <;> simp [erase, isJunction, eraseAll_eq_map]

theorem isEmptyJunction_erase (e : Expr) : e.erase.isEmptyJunction = e.isEmptyJunction := by
  cases e with
  | and operands => cases operands <;> rfl
  | or operands => cases operands <;> rfl
  | compare | column | grouping | inList | isNull | not | const => rfl

theorem template_value (v : Value) : (Sql.value v.erase).template = (Sql.value v).template := by
  cases v <;> rfl

theorem template_operandSql {e : Expr} {sql sql' : Sql} (same : sql'.template = sql.template) :
    (e.erase.operandSql sql').template = (e.operandSql sql).template := by
  rw [operandSql, operandSql, isJunction_erase]
  split
  · rw [Sql.template_append, Sql.template_append, Sql.template_append, Sql.template_append, same]
  · exact same

theorem templates_exprsSql {es : List Expr}
    (each : ∀ e ∈ es, e.erase.sql.template = e.sql.template) :
    (exprsSql (eraseAll es)).map Sql.template = (exprsSql es).map Sql.template := by
  rw [eraseAll_eq_map, exprsSql_eq_map, exprsSql_eq_map, List.map_map, List.map_map, List.map_map]
  exact List.map_congr_left each

theorem template_erase (e : Expr) : e.erase.sql.template = e.sql.template := by
  induction e using Expr.induction with
  | and operands ih =>
      have parts : ((operands.map erase).map fun e => e.operandSql e.sql).map Sql.template =
          (operands.map fun e => e.operandSql e.sql).map Sql.template := by
        rw [List.map_map, List.map_map, List.map_map]
        exact List.map_congr_left fun e member => template_operandSql (ih e member)
      rw [erase, Expr.sql, Expr.sql, eraseAll_isEmpty, eraseAll_eq_map, operandsSql_eq_map,
        operandsSql_eq_map]
      split
      · rfl
      · exact Sql.template_join " AND " parts
  | or operands ih =>
      rw [erase, Expr.sql, Expr.sql, eraseAll_isEmpty]
      split
      · rfl
      · exact Sql.template_join " OR " (templates_exprsSql ih)
  | compare op lhs rhs left right => simp only [erase, Expr.sql, Sql.template_append, left, right]
  | column c => rfl
  | grouping e ih => simp only [erase, Expr.sql, Sql.template_append, ih]
  | inList e items ih each =>
      rw [erase, Expr.sql, Expr.sql, eraseAll_isEmpty]
      split
      · rfl
      · simp only [Sql.template_append, ih, Sql.template_join ", " (templates_exprsSql each)]
  | isNull negated e ih => simp only [erase, Expr.sql, Sql.template_append, ih]
  | not e ih => simp only [erase, Expr.sql, Sql.template_append, template_operandSql ih]
  | const v => exact template_value v

end Expr

theorem SelectItem.template_erase (item : SelectItem) :
    item.erase.sql.template = item.sql.template := by
  cases item with
  | expr e => exact e.template_erase
  | aliased e aliasName =>
      simp only [erase, SelectItem.sql, Sql.template_append, e.template_erase]
  | wildcard ref => rfl

theorem OrderTerm.template_erase (term : OrderTerm) :
    term.erase.sql.template = term.sql.template := by
  simp only [erase, OrderTerm.sql, Sql.template_append, term.expr.template_erase]

theorem template_filterSql (filter : Option Expr) :
    (filterSql (filter.map Expr.erase)).template = (filterSql filter).template := by
  cases filter with
  | none => rfl
  | some e =>
      rw [Option.map_some, filterSql, filterSql, e.isEmptyJunction_erase]
      split
      · rfl
      · rw [Sql.template_append, Sql.template_append, e.template_erase]

theorem template_orderSql (terms : List OrderTerm) :
    (orderSql (terms.map OrderTerm.erase)).template = (orderSql terms).template := by
  have parts : ((terms.map OrderTerm.erase).map OrderTerm.sql).map Sql.template =
      (terms.map OrderTerm.sql).map Sql.template := by
    rw [List.map_map, List.map_map, List.map_map]
    exact List.map_congr_left fun term _ => term.template_erase
  rw [orderSql, orderSql, List.isEmpty_map]
  split
  · rfl
  · rw [Sql.template_append, Sql.template_append, Sql.template_join ", " parts]

theorem template_limitSql (limit : Option Expr) :
    (limitSql (limit.map Expr.erase)).template = (limitSql limit).template := by
  cases limit with
  | none => rfl
  | some e => rw [Option.map_some, limitSql, limitSql, Sql.template_append, Sql.template_append,
      e.template_erase]

mutual

theorem Query.template_erase : ∀ query : Query, query.erase.sql.template = query.sql.template
  | ⟨items, source, joins, filter, order, limit⟩ => by
    have parts : ((items.map SelectItem.erase).map SelectItem.sql).map Sql.template =
        (items.map SelectItem.sql).map Sql.template := by
      rw [List.map_map, List.map_map, List.map_map]
      exact List.map_congr_left fun item _ => item.template_erase
    simp only [Query.erase, Query.sql, Sql.template_append, Sql.template_join ", " parts,
      source.template_erase, template_joinsSql joins, template_filterSql, template_orderSql,
      template_limitSql]

theorem Source.template_erase : ∀ source : Source, source.erase.sql.template = source.sql.template
  | .table ref => rfl
  | .subquery lateral query aliasName => by
    simp only [Source.erase, Source.sql, Sql.template_append, query.template_erase]

theorem template_joinsSql : ∀ joins : List Join,
    (joinsSql (eraseJoins joins)).template = (joinsSql joins).template
  | [] => rfl
  | ⟨kind, source, condition⟩ :: rest => by
    simp only [eraseJoins, joinsSql, Sql.template_append, source.template_erase,
      condition.template_erase, template_joinsSql rest]

end

theorem Insert.template_erase (insert : Insert) :
    insert.erase.sql.template = insert.sql.template := by
  obtain ⟨table, columns, values, returning⟩ := insert
  have same := Sql.template_join ", "
    (Expr.templates_exprsSql fun (e : Expr) (_ : e ∈ values) => e.template_erase)
  rw [erase, Insert.sql, Insert.sql, Sql.template_append, Sql.template_append, Sql.template_append,
    Sql.template_append]
  by_cases none : columns.isEmpty = true
  · rw [if_pos none, if_pos none]
  · rw [if_neg none, if_neg none]
    simp only [Sql.template_append, same]

theorem Command.template_erase (command : Command) :
    command.erase.sql.template = command.sql.template := by
  cases command with
  | run statement =>
      cases statement with
      | query q => exact q.template_erase
      | insert row => exact row.template_erase
  | createTable create => rfl
  | dropTable drop => rfl

/-- Commands that differ in their numbers and texts only have one text with parameters. -/
theorem Command.numbered_congr {left right : Command} (same : left.erase = right.erase)
    (bound : Nat) : left.sql.numbered bound = right.sql.numbered bound := by
  rw [Sql.numbered_eq_fill, Sql.numbered_eq_fill, ← Sql.holes_template, ← Sql.holes_template,
    ← left.template_erase, ← right.template_erase, same]

end Relata
