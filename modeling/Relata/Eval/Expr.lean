import Relata.Row
import Relata.Truth

/-!
Values of expressions in the rows in reach. AND and OR read their operands from the left and stop
at the first that decides them; an IN list stops at the first equal item.
-/

namespace Relata

/-- The truth value that an operand of AND, OR or NOT stands for. -/
def Value.truth : Value → Except Fault Truth
  | .bool b => .ok (some b)
  | .null => .ok none
  | v => .error (.operand v.kind)

/-- Compares two values; the answer is unknown next to a null. -/
def Comparison.apply (op : Comparison) (lhs rhs : Value) : Except Fault Truth :=
  if lhs.isNull ∨ rhs.isNull then .ok none
  else match lhs.order? rhs with
    | some order => .ok (some (op.holds order))
    | none => .error (.incomparable lhs.kind op rhs.kind)

mutual

def Expr.eval (env : Env) : Expr → Except Fault Value
  | .and operands => do return (← evalAll env operands).value
  | .or operands => do return (← evalAny env operands).value
  | .compare op lhs rhs => do
    let left ← lhs.eval env
    let right ← rhs.eval env
    return (← op.apply left right).value
  | .column c => env.value c
  | .grouping e => e.eval env
  | .inList e items => do
    let v ← e.eval env
    if v.isNull then
      return (if items.isEmpty then .bool false else .null)
    else
      return (← evalMember env v items).value
  | .isNull negated e => do
    let v ← e.eval env
    return .bool (v.isNull != negated)
  | .not e => do
    let v ← e.eval env
    return (← v.truth).not.value
  | .const v => .ok v

def evalAll (env : Env) : List Expr → Except Fault Truth
  | [] => .ok (some true)
  | e :: rest => do
    let t ← (← e.eval env).truth
    if t = some false then return some false else return t.and (← evalAll env rest)

def evalAny (env : Env) : List Expr → Except Fault Truth
  | [] => .ok (some false)
  | e :: rest => do
    let t ← (← e.eval env).truth
    if t = some true then return some true else return t.or (← evalAny env rest)

def evalMember (env : Env) (v : Value) : List Expr → Except Fault Truth
  | [] => .ok (some false)
  | e :: rest => do
    let t := v.equals (← e.eval env)
    if t = some true then return some true else return t.or (← evalMember env v rest)

end

/-- Whether a condition keeps the row; an unknown condition does not. -/
def Expr.keeps (env : Env) (condition : Expr) : Except Fault Bool := do
  match ← condition.eval env with
  | .bool b => return b
  | .null => return false
  | v => throw (.condition v.kind)

end Relata
