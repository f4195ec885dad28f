import Relata.Text.Quoted

/-!
Values: what a column holds and what a constant in a statement denotes. Values of one kind are
ordered; between kinds, and next to a null, there is no order.
-/

namespace Relata

inductive Value
  | null
  | bool (b : Bool)
  | int (n : Int64)
  | text (s : String)
  deriving DecidableEq, Inhabited

inductive Kind
  | null
  | bool
  | int
  | text
  deriving DecidableEq, Inhabited

def Kind.name : Kind → String
  | .null => "Null"
  | .bool => "Bool"
  | .int => "I64"
  | .text => "String"

namespace Value

def kind : Value → Kind
  | .null => .null
  | .bool _ => .bool
  | .int _ => .int
  | .text _ => .text

def isNull : Value → Bool
  | .null => true
  | _ => false

/-- A count as a value. Counts past the largest integer become the largest integer. -/
def ofNat (n : Nat) : Value := .int (Int64.ofNat (min n 9223372036854775807))

def bool? : Value → Option Bool
  | .bool b => some b
  | _ => none

def int? : Value → Option Int64
  | .int n => some n
  | _ => none

def text? : Value → Option String
  | .text s => some s
  | _ => none

/-- The order of two values of one kind: false before true, numbers by size, texts by their code
points. No order between kinds or next to a null. -/
def order? : Value → Value → Option Ordering
  | .bool a, .bool b => some (compare a b)
  | .int a, .int b => some (compare a b)
  | .text a, .text b => some (compare a b)
  | _, _ => none

def display : Value → String
  | .null => "NULL"
  | .bool b => if b then "true" else "false"
  | .int n => toString n.toInt
  | .text s => Text.quoted s

@[simp] theorem isNull_iff {v : Value} : v.isNull = true ↔ v = .null := by
  cases v <;> simp [isNull]

@[simp] theorem kind_eq_null {v : Value} : v.kind = .null ↔ v = .null := by
  cases v <;> simp [kind]

theorem order?_isSome_iff {a b : Value} :
    (a.order? b).isSome = true ↔ a ≠ .null ∧ a.kind = b.kind := by
  cases a <;> cases b <;> simp [order?, kind]

end Value

end Relata
