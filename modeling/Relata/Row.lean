import Relata.Fault

/-!
Rows in reach. While a query runs, each of its sources is bound to one row of values; the bindings
of one query form a frame. A subquery reads the frames of the queries around it as well, the
nearest first. A column is looked up by its qualifier: the nearest source of that name decides,
whether or not it has the column.
-/

namespace Relata

structure Rowset where
  columns : List String
  rows : List (List Value)
  deriving DecidableEq

structure Shape where
  qualifier : String
  columns : List String
  deriving DecidableEq

structure Binding where
  shape : Shape
  values : List Value
  deriving DecidableEq

/-- The bindings of one query's sources, in the order of the sources. -/
abbrev Frame := List Binding

/-- The frames in reach, the nearest first. -/
abbrev Env := List Frame

def Binding.value (binding : Binding) (column : String) : Except Fault Value :=
  match binding.shape.columns.idxOf? column with
  | some i => .ok (binding.values[i]?.getD .null)
  | none => .error (.unknownColumn binding.shape.qualifier column)

/-- The binding of the first source with that qualifier. -/
def Frame.binding? (frame : Frame) (qualifier : String) : Option Binding :=
  frame.find? (·.shape.qualifier == qualifier)

def Env.value : Env → ColumnRef → Except Fault Value
  | [], c => .error (.unknownQualifier c.table.qualifier)
  | frame :: outer, c =>
    match frame.binding? c.table.qualifier with
    | some binding => binding.value c.column
    | none => Env.value outer c

def Shape.nulls (shape : Shape) : Binding := ⟨shape, shape.columns.map fun _ => .null⟩

theorem Env.value_near {frame : Frame} {outer : Env} {c : ColumnRef} {binding : Binding}
    (bound : frame.binding? c.table.qualifier = some binding) :
    Env.value (frame :: outer) c = binding.value c.column := by
  simp [Env.value, bound]

theorem Env.value_outer {frame : Frame} {outer : Env} {c : ColumnRef}
    (unbound : frame.binding? c.table.qualifier = none) :
    Env.value (frame :: outer) c = Env.value outer c := by
  simp [Env.value, unbound]

@[simp] theorem Env.value_nil_frame (outer : Env) (c : ColumnRef) :
    Env.value ([] :: outer) c = Env.value outer c := rfl

end Relata
