import Relata.Value

/-!
Truth values of conditions: true, false and unknown. AND is the least of its operands and OR the
greatest, where false lies below unknown and unknown below true.
-/

namespace Relata

/-- True, false, or unknown. -/
abbrev Truth := Option Bool

namespace Truth

def and : Truth → Truth → Truth
  | some false, _ => some false
  | _, some false => some false
  | some true, some true => some true
  | _, _ => none

def or : Truth → Truth → Truth
  | some true, _ => some true
  | _, some true => some true
  | some false, some false => some false
  | _, _ => none

def not : Truth → Truth
  | some b => some !b
  | none => none

def value : Truth → Value
  | some b => .bool b
  | none => .null

/-- Whether a row with this truth value is kept. -/
def keeps : Truth → Bool
  | some b => b
  | none => false

theorem and_comm (a b : Truth) : a.and b = b.and a := by
  rcases a with _ | a <;> rcases b with _ | b <;> try cases a
  all_goals try cases b
  all_goals rfl

theorem or_comm (a b : Truth) : a.or b = b.or a := by
  rcases a with _ | a <;> rcases b with _ | b <;> try cases a
  all_goals try cases b
  all_goals rfl

theorem not_and (a b : Truth) : (a.and b).not = a.not.or b.not := by
  rcases a with _ | a <;> rcases b with _ | b <;> try cases a
  all_goals try cases b
  all_goals rfl

theorem not_or (a b : Truth) : (a.or b).not = a.not.and b.not := by
  rcases a with _ | a <;> rcases b with _ | b <;> try cases a
  all_goals try cases b
  all_goals rfl

@[simp] theorem not_not (a : Truth) : a.not.not = a := by
  rcases a with _ | a <;> simp [not]

@[simp] theorem true_and (a : Truth) : and (some true) a = a := by
  rcases a with _ | a
  · rfl
  · cases a <;> rfl

@[simp] theorem false_or (a : Truth) : or (some false) a = a := by
  rcases a with _ | a
  · rfl
  · cases a <;> rfl

end Truth

/-- Whether two values are equal: unknown next to a null, false between kinds. -/
def Value.equals (a b : Value) : Truth :=
  if a.isNull ∨ b.isNull then none else some (a.order? b == some .eq)

end Relata
