import Relata.Proofs.Outcome
import Relata.Proofs.Expr.Columns

/-!
Conjunctions. A conjunction reads its operands from the left and stops at the first that is false.
Adding a condition to another flattens conjunctions and leaves constants out; the value is the one
that the two conditions have together.
-/

namespace Relata

@[simp] theorem Value.truth_value (t : Truth) : t.value.truth = .ok t := by
  rcases t with _ | b <;> rfl

@[simp] theorem Truth.and_true (t : Truth) : t.and (some true) = t := by
  rw [Truth.and_comm, Truth.true_and]

theorem Truth.and_assoc (a b c : Truth) : (a.and b).and c = a.and (b.and c) := by
  rcases a with _ | _ | _ <;> rcases b with _ | _ | _ <;> rcases c with _ | _ | _ <;> rfl

theorem Truth.and_eq_true {a b : Truth} : a.and b = some true ↔ a = some true ∧ b = some true := by
  rcases a with _ | _ | _ <;> rcases b with _ | _ | _ <;> decide

theorem Truth.keeps_and (a b : Truth) : (a.and b).keeps = (a.keeps && b.keeps) := by
  rcases a with _ | _ | _ <;> rcases b with _ | _ | _ <;> rfl

@[simp] theorem Truth.false_and (t : Truth) : Truth.and (some false) t = some false := rfl

@[simp] theorem Truth.and_false (t : Truth) : t.and (some false) = some false := by
  rw [Truth.and_comm, Truth.false_and]

/-- AND of two answers. The second is not asked for where the first is false. -/
def bothTruths (first second : Except Fault Truth) : Except Fault Truth := do
  let t ← first
  if t = some false then return some false else return t.and (← second)

@[simp] theorem bothTruths_ok (t u : Truth) : bothTruths (.ok t) (.ok u) = .ok (t.and u) := by
  by_cases decided : t = some false
  · rw [decided, Truth.false_and]
    rfl
  · simp only [bothTruths, ok_bind, if_neg decided]
    rfl

@[simp] theorem bothTruths_true (second : Except Fault Truth) :
    bothTruths (.ok (some true)) second = second := by
  cases second <;> simp [bothTruths, pure, Except.pure]

@[simp] theorem bothTruths_of_true (first : Except Fault Truth) :
    bothTruths first (.ok (some true)) = first := by
  cases first with
  | error e => rfl
  | ok t => rw [bothTruths_ok, Truth.and_true]

theorem bothTruths_assoc (a b c : Except Fault Truth) :
    bothTruths (bothTruths a b) c = bothTruths a (bothTruths b c) := by
  rcases a with e | t
  · rfl
  by_cases decided : t = some false
  · subst decided
    rfl
  rcases b with e | u
  · simp only [bothTruths, ok_bind, if_neg decided, error_bind]
  rcases c with e | w
  · rw [bothTruths_ok]
    by_cases second : u = some false
    · subst second
      rw [Truth.and_false]
      simp only [bothTruths, ok_bind, if_neg decided, pure, Except.pure, if_true, Truth.and_false]
    · have undecided : t.and u ≠ some false := by
        rcases t with _ | _ | _ <;> rcases u with _ | _ | _ <;> simp_all [Truth.and]
      simp only [bothTruths, ok_bind, if_neg decided, if_neg second, if_neg undecided, error_bind]
  · simp only [bothTruths_ok, Truth.and_assoc]

theorem bothTruths_eq_true {first second : Except Fault Truth}
    (both : bothTruths first second = .ok (some true)) :
    first = .ok (some true) ∧ second = .ok (some true) := by
  rcases first with e | t
  · cases both
  by_cases decided : t = some false
  · subst decided
    cases both
  rcases second with e | u
  · simp only [bothTruths, ok_bind, if_neg decided, error_bind] at both
    cases both
  · rw [bothTruths_ok, Except.ok.injEq, Truth.and_eq_true] at both
    exact ⟨congrArg _ both.1, congrArg _ both.2⟩

/-- The truth value that an expression has as a condition's operand. -/
def Expr.truth (env : Env) (e : Expr) : Except Fault Truth := do (← e.eval env).truth

variable {env other : Env}

theorem Expr.truth_eq_ok {e : Expr} {t : Truth} :
    e.truth env = .ok t ↔ e.eval env = .ok t.value := by
  constructor
  · intro answered
    obtain ⟨v, evaluated, answered⟩ := bind_eq_ok.mp answered
    cases v with
    | null =>
        cases answered
        exact evaluated
    | bool b =>
        cases answered
        exact evaluated
    | int n => cases answered
    | text s => cases answered
  · intro evaluated
    rw [Expr.truth, evaluated, ok_bind, Value.truth_value]

theorem evalAll_cons (e : Expr) (rest : List Expr) :
    evalAll env (e :: rest) = bothTruths (e.truth env) (evalAll env rest) := by
  rw [evalAll, bothTruths, Expr.truth]
  cases e.eval env <;> rfl

theorem evalAll_append (left right : List Expr) :
    evalAll env (left ++ right) = bothTruths (evalAll env left) (evalAll env right) := by
  induction left with
  | nil => rw [List.nil_append, evalAll, bothTruths_true]
  | cons e rest ih => rw [List.cons_append, evalAll_cons, evalAll_cons, ih, bothTruths_assoc]

@[simp] theorem evalAll_singleton (e : Expr) : evalAll env [e] = e.truth env := by
  rw [evalAll_cons, evalAll, bothTruths_of_true]

@[simp] theorem Expr.truth_and (operands : List Expr) :
    (Expr.and operands).truth env = evalAll env operands := by
  rw [Expr.truth, Expr.eval]
  cases evalAll env operands with
  | error e => rfl
  | ok t => exact Value.truth_value t

/-- Two conditions together have the truth value of both, read from the left. -/
theorem Expr.truth_conj (lhs rhs : Expr) :
    (lhs.conj rhs).truth env = bothTruths (lhs.truth env) (rhs.truth env) := by
  have constant : (Expr.const (.bool true)).truth env = .ok (some true) := rfl
  unfold Expr.conj
  split
  · rename_i left
    rw [Expr.isTrue_iff.mp left, constant, bothTruths_true]
  split
  · rename_i right
    rw [Expr.isTrue_iff.mp right, constant, bothTruths_of_true]
  split
  · rw [truth_and, truth_and, truth_and, evalAll_append]
  · rw [truth_and, truth_and, evalAll_append, evalAll_singleton]
  · rw [truth_and, evalAll_cons, evalAll_singleton]

theorem Expr.keeps_of_truth {e : Expr} {t : Truth} (answered : e.truth env = .ok t) :
    e.keeps env = .ok t.keeps := by
  rw [Expr.keeps, Expr.truth_eq_ok.mp answered]
  rcases t with _ | b <;> rfl

theorem Expr.keeps_eq_true {e : Expr} :
    e.keeps env = .ok true ↔ e.truth env = .ok (some true) := by
  constructor
  · intro kept
    obtain ⟨v, evaluated, kept⟩ := bind_eq_ok.mp kept
    rw [Expr.truth_eq_ok, evaluated]
    cases v with
    | bool b =>
        cases kept
        rfl
    | null => cases kept
    | int n => cases kept
    | text s => cases kept
  · exact Expr.keeps_of_truth

theorem Expr.keeps_and (operands : List Expr) :
    (Expr.and operands).keeps env = Truth.keeps <$> evalAll env operands := by
  cases answered : evalAll env operands with
  | error e => rw [Expr.keeps, Expr.eval, answered]; rfl
  | ok t => exact Expr.keeps_of_truth (by rw [Expr.truth_and, answered])

theorem Expr.conj_eq_and (lhs rhs : Expr) (left : ¬ lhs.isTrue) (right : ¬ rhs.isTrue) :
    ∃ operands, lhs.conj rhs = .and operands := by
  unfold Expr.conj
  rw [if_neg left, if_neg right]
  split <;> exact ⟨_, rfl⟩

/-- A comparison is never left out of a conjunction, so the conjunction depends on it through its
value only. -/
theorem Expr.keeps_addCondition_congr {filter : Option Expr} {op op' : Comparison}
    {lhs lhs' rhs rhs' : Expr}
    (existing : ∀ e ∈ filter, e.eval env = e.eval other)
    (same : (Expr.compare op lhs rhs).eval env = (Expr.compare op' lhs' rhs').eval other) :
    (addCondition filter (.compare op lhs rhs)).keeps env =
      (addCondition filter (.compare op' lhs' rhs')).keeps other := by
  cases filter with
  | none => rw [addCondition, addCondition, Expr.keeps, Expr.keeps, same]
  | some e =>
      by_cases constant : e.isTrue = true
      · simp only [addCondition, Expr.conj, constant, if_true]
        rw [Expr.keeps, Expr.keeps, same]
      · obtain ⟨es, before⟩ := Expr.conj_eq_and e (.compare op lhs rhs) constant (by simp)
        obtain ⟨es', after⟩ := Expr.conj_eq_and e (.compare op' lhs' rhs') constant (by simp)
        have first : e.truth env = e.truth other := by
          rw [Expr.truth, Expr.truth, existing e rfl]
        have second : (Expr.compare op lhs rhs).truth env =
            (Expr.compare op' lhs' rhs').truth other := by
          rw [Expr.truth, Expr.truth, same]
        rw [addCondition, addCondition, before, after, keeps_and, keeps_and, ← truth_and,
          ← truth_and, ← before, ← after, truth_conj, truth_conj, first, second]

/-- What a filter says about a row; without a filter every row is kept. -/
def filterTruth (env : Env) (filter : Option Expr) : Except Fault Truth :=
  match filter with
  | none => .ok (some true)
  | some e => e.truth env

theorem truth_addCondition (filter : Option Expr) (condition : Expr) :
    (addCondition filter condition).truth env =
      bothTruths (filterTruth env filter) (condition.truth env) := by
  cases filter with
  | none => rw [addCondition, filterTruth, bothTruths_true]
  | some e => exact Expr.truth_conj e condition

end Relata
