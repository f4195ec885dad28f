/-!
References to tables and to their columns. A reference says which rows a column is read from; a
column carries its reference, so an expression can move between statements.
-/

namespace Relata

inductive TableRef
  /-- A table of the schema, possibly under another name. -/
  | table (name : String) (aliasName : Option String)
  /-- The name given to a subquery. -/
  | derived (name : String)
  deriving DecidableEq, Inhabited

namespace TableRef

def name : TableRef → String
  | .table name _ => name
  | .derived name => name

def alias? : TableRef → Option String
  | .table _ aliasName => aliasName
  | .derived _ => none

/-- The name that columns of the table are written with: the alias if there is one. -/
def qualifier (ref : TableRef) : String := ref.alias?.getD ref.name

def isDerived : TableRef → Bool
  | .table _ _ => false
  | .derived _ => true

/-- Whether both stand for one table, whatever their aliases. -/
def sameTable : TableRef → TableRef → Bool
  | .table a _, .table b _ => a == b
  | .derived a, .derived b => a == b
  | _, _ => false

@[simp] theorem sameTable_refl (ref : TableRef) : ref.sameTable ref = true := by
  cases ref <;> simp [sameTable]

theorem sameTable_iff {a b : TableRef} :
    a.sameTable b = true ↔ a.isDerived = b.isDerived ∧ a.name = b.name := by
  cases a <;> cases b <;> simp [sameTable, isDerived, name]

end TableRef

structure ColumnRef where
  table : TableRef
  column : String
  deriving DecidableEq, Inhabited

def TableRef.column (ref : TableRef) (name : String) : ColumnRef := ⟨ref, name⟩

def ColumnRef.rebind (c : ColumnRef) (ref : TableRef) : ColumnRef := ⟨ref, c.column⟩

end Relata
