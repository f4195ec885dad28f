import Relata.Proofs.Sql.Quoted
import Relata.Proofs.Wire.Columns

/-!
Written table definitions. Every name in the text stands in quotes, so what separates the names, the columns and
the clauses is never part of one, and a list has another item exactly where a quote follows. The text of a
definition therefore gives back what it defines.
-/

namespace Relata

/-- Both define the same column for a server. -/
structure ColumnDef.Alike (left right : ColumnDef) : Prop where
  name : left.name = right.name
  type : left.type.wire = right.type.wire
  nullable : left.nullable = right.nullable
  autoIncrement : left.autoIncrement = right.autoIncrement

/-- Both define the same table for a server. -/
structure CreateTable.Alike (left right : CreateTable) : Prop where
  name : left.name = right.name
  columns : List.Forall₂ ColumnDef.Alike left.columns right.columns
  primaryKey : left.primaryKey = right.primaryKey

section Lists

/-- Written items that begin with a quote and are told, up to a relation, from the text that ends them. -/
structure Told {α : Type} (print : α → String) (R : α → α → Prop) (Ends : String → Prop) : Prop where
  quoted : ∀ a more, ¬ ClearOf '"' (print a ++ more)
  tells : ∀ {a b rest left}, Ends rest → Ends left → print a ++ rest = print b ++ left → R a b ∧ rest = left

variable {α : Type} {print : α → String} {R : α → α → Prop} {Ends : String → Prop}
  {separator rest left : String} {items others : List α}

end Lists

section Names

variable {separator rest left : String} {names others : List String}

end Names

namespace ColumnType

theorem sqlName_cases (type : ColumnType) :
    type.sqlName = "BOOLEAN" ∨ type.sqlName = "INT2" ∨ type.sqlName = "INT4" ∨ type.sqlName = "INT8" ∨
      type.sqlName = "TEXT" := by
  cases type with
  | boolean => simp [sqlName]
  | text => simp [sqlName]
  | integer width =>
      rw [sqlName]
      split
      · simp
      · split <;> simp

/-- The name of a type in a definition is as good as the server's type. -/
theorem sqlName_eq_iff {type other : ColumnType} : type.sqlName = other.sqlName ↔ type.wire = other.wire := by
  refine ⟨congrArg WireType.named, fun same => ?_⟩
  rw [wire, wire] at same
  rcases type.sqlName_cases with name | name | name | name | name <;>
    rcases other.sqlName_cases with another | another | another | another | another <;>
    simp [name, another, WireType.named] at same ⊢

end ColumnType

namespace ColumnDef

/-- A column's definition ends at the next one, at the next clause or with the whole. -/
def Ends (rest : String) : Prop := ∀ c ∈ rest.toList.head?, c = ',' ∨ c = ')'

variable {left right : ColumnDef} {rest more : String}

theorem Alike.sql_eq (alike : left.Alike right) : left.sql = right.sql := by
  rw [ColumnDef.sql, ColumnDef.sql, alike.name, ColumnType.sqlName_eq_iff.mpr alike.type, alike.nullable,
    alike.autoIncrement]

end ColumnDef

namespace CreateTable

variable {left right : CreateTable} {names others : List String}

theorem Alike.sql_eq (alike : left.Alike right) : left.sql = right.sql := by
  have columns : left.columns.map ColumnDef.sql = right.columns.map ColumnDef.sql := by
    rw [← List.forall₂_eq_eq_eq, List.forall₂_map_left_iff, List.forall₂_map_right_iff]
    exact alike.columns.imp fun _ _ => ColumnDef.Alike.sql_eq
  rw [CreateTable.sql, CreateTable.sql, alike.name, columns, alike.primaryKey]

end CreateTable

end Relata
