import Relata.TableRef
import Relata.Value

/-!
Expressions, and the two combinators that build conditions from conditions. The combinators keep
conditions flat: `conj` extends a conjunction rather than nesting it and leaves out a constant
true, `disj` extends a disjunction.
-/

namespace Relata

inductive Comparison
  | eq
  | ne
  | ge
  | gt
  | le
  | lt
  deriving DecidableEq, Inhabited

namespace Comparison

def symbol : Comparison → String
  | .eq => "="
  | .ne => "<>"
  | .ge => ">="
  | .gt => ">"
  | .le => "<="
  | .lt => "<"

def holds : Comparison → Ordering → Bool
  | .eq, o => o.isEq
  | .ne, o => o.isNe
  | .ge, o => o.isGE
  | .gt, o => o.isGT
  | .le, o => o.isLE
  | .lt, o => o.isLT

end Comparison

inductive Expr
  | and (operands : List Expr)
  | or (operands : List Expr)
  | compare (op : Comparison) (lhs rhs : Expr)
  | column (c : ColumnRef)
  | grouping (e : Expr)
  | inList (e : Expr) (items : List Expr)
  | isNull (negated : Bool) (e : Expr)
  | not (e : Expr)
  | const (v : Value)
  deriving Inhabited

namespace Expr

def isTrue : Expr → Bool
  | .const (.bool true) => true
  | _ => false

def isConst : Expr → Bool
  | .const _ => true
  | _ => false

def isEquality : Expr → Bool
  | .compare .eq _ _ => true
  | _ => false

def isColumn : Expr → Bool
  | .column _ => true
  | _ => false

def const? : Expr → Option Value
  | .const v => some v
  | _ => none

def column? : Expr → Option ColumnRef
  | .column c => some c
  | _ => none

def isEmptyJunction : Expr → Bool
  | .and [] => true
  | .or [] => true
  | _ => false

def conj (lhs rhs : Expr) : Expr :=
  if lhs.isTrue then rhs
  else if rhs.isTrue then lhs
  else match lhs, rhs with
    | .and left, .and right => .and (left ++ right)
    | .and left, rhs => .and (left ++ [rhs])
    | lhs, rhs => .and [lhs, rhs]

def disj (lhs rhs : Expr) : Expr :=
  match lhs, rhs with
  | .or left, .or right => .or (left ++ right)
  | .or left, rhs => .or (left ++ [rhs])
  | lhs, rhs => .or [lhs, rhs]

@[simp] theorem isTrue_iff {e : Expr} : e.isTrue = true ↔ e = .const (.bool true) := by
  unfold isTrue
  split
  · simp
  · rename_i other
    simp only [Bool.false_eq_true, false_iff]
    exact other

theorem conj_true (e : Expr) : conj e (.const (.bool true)) = e := by
  have constant : (Expr.const (.bool true)).isTrue = true := rfl
  simp only [conj, constant, if_true, ite_eq_right_iff]
  intro left
  exact (isTrue_iff.mp left).symm

theorem true_conj (e : Expr) : conj (.const (.bool true)) e = e := by simp [conj, isTrue]

end Expr

def addCondition (filter : Option Expr) (condition : Expr) : Expr :=
  match filter with
  | some existing => existing.conj condition
  | none => condition

end Relata
