import Relata.Proofs.Expr.Junction

/-!
Expressions in place of others. Where every part of an expression is replaced by one that has the same value
whenever the part has one, the whole has the same value whenever it has one. A junction may also take up
the operands of its operands' junctions.
-/

namespace Relata

section Disjunctions

variable {env : Env}

/-- OR of two answers. The second is not asked for where the first is true. -/
def eitherTruth (first second : Except Fault Truth) : Except Fault Truth := do
  let t ← first
  if t = some true then return some true else return t.or (← second)

theorem map_not_not (answer : Except Fault Truth) : Truth.not <$> Truth.not <$> answer = answer := by
  cases answer with
  | error fault => rfl
  | ok t => exact congrArg Except.ok t.not_not

theorem not_bothTruths (first second : Except Fault Truth) :
    Truth.not <$> bothTruths first second =
      eitherTruth (Truth.not <$> first) (Truth.not <$> second) := by
  rcases first with fault | _ | _ | _
  · rfl
  · cases second with
    | error fault => rfl
    | ok u => exact congrArg Except.ok (Truth.not_and none u)
  · rfl
  · cases second with
    | error fault => rfl
    | ok u => exact congrArg Except.ok (Truth.not_and (some true) u)

theorem evalAny_cons (e : Expr) (rest : List Expr) :
    evalAny env (e :: rest) = eitherTruth (e.truth env) (evalAny env rest) := by
  rw [evalAny, eitherTruth, Expr.truth]
  cases e.eval env <;> rfl

theorem Expr.truth_not (e : Expr) : e.not.truth env = Truth.not <$> e.truth env := by
  rw [Expr.truth, Expr.truth, Expr.eval]
  cases e.eval env with
  | error fault => rfl
  | ok v => cases v <;> rfl

/-- A disjunction is the negation of the conjunction of its operands' negations. -/
theorem evalAny_eq_not (es : List Expr) :
    evalAny env es = Truth.not <$> evalAll env (es.map Expr.not) := by
  induction es with
  | nil => rfl
  | cons e rest ih =>
      rw [evalAny_cons, List.map_cons, evalAll_cons, not_bothTruths, Expr.truth_not, map_not_not, ih]

theorem evalAny_append (left right : List Expr) :
    evalAny env (left ++ right) = eitherTruth (evalAny env left) (evalAny env right) := by
  rw [evalAny_eq_not, List.map_append, evalAll_append, not_bothTruths, ← evalAny_eq_not,
    ← evalAny_eq_not]

@[simp] theorem evalAny_singleton (e : Expr) : evalAny env [e] = e.truth env := by
  rw [evalAny_eq_not, List.map_singleton, evalAll_singleton, Expr.truth_not, map_not_not]

@[simp] theorem Expr.truth_or (operands : List Expr) :
    (Expr.or operands).truth env = evalAny env operands := by
  rw [Expr.truth, Expr.eval]
  cases evalAny env operands with
  | error fault => rfl
  | ok t => exact Value.truth_value t

end Disjunctions

section Refines

variable {first first' second second' : Except Fault Truth}

theorem bothTruths_refines (before : Refines first first') (after : Refines second second') :
    Refines (bothTruths first second) (bothTruths first' second') := by
  refine before.bind fun t => ?_
  by_cases decided : t = some false
  · rw [if_pos decided, if_pos decided]
    exact .refl _
  · rw [if_neg decided, if_neg decided]
    exact after.bind fun _ => .refl _

theorem eitherTruth_refines (before : Refines first first') (after : Refines second second') :
    Refines (eitherTruth first second) (eitherTruth first' second') := by
  refine before.bind fun t => ?_
  by_cases decided : t = some true
  · rw [if_pos decided, if_pos decided]
    exact .refl _
  · rw [if_neg decided, if_neg decided]
    exact after.bind fun _ => .refl _

end Refines

/-- The second has the value of the first wherever the first has one. -/
def Expr.Refined (env : Env) (e refined : Expr) : Prop := Refines (e.eval env) (refined.eval env)

namespace Expr.Refined

variable {env : Env} {e e' lhs lhs' rhs rhs' : Expr} {es es' : List Expr}

theorem refl (e : Expr) : Refined env e e := Refines.refl _

theorem trans {between : Expr} (first : Refined env e between) (second : Refined env between e') :
    Refined env e e' := Refines.trans first second

theorem map {f : Expr → Expr} (each : ∀ e ∈ es, Refined env e (f e)) :
    List.Forall₂ (Refined env) es (es.map f) :=
  List.forall₂_map_right_iff.mpr (List.forall₂_same.mpr each)

theorem truth (refined : Refined env e e') : Refines (e.truth env) (e'.truth env) :=
  refined.bind fun _ => .refl _

theorem all (each : List.Forall₂ (Refined env) es es') :
    Refines (evalAll env es) (evalAll env es') := by
  induction each with
  | nil => exact .refl _
  | cons first _ ih =>
      rw [evalAll_cons, evalAll_cons]
      exact bothTruths_refines first.truth ih

theorem any (each : List.Forall₂ (Refined env) es es') :
    Refines (evalAny env es) (evalAny env es') := by
  induction each with
  | nil => exact .refl _
  | cons first _ ih =>
      rw [evalAny_cons, evalAny_cons]
      exact eitherTruth_refines first.truth ih

theorem member {v : Value} (each : List.Forall₂ (Refined env) es es') :
    Refines (evalMember env v es) (evalMember env v es') := by
  induction each with
  | nil => exact .refl _
  | cons first _ ih =>
      rw [evalMember, evalMember]
      refine first.bind fun u => ?_
      dsimp only
      split
      · exact .refl _
      · exact ih.bind fun _ => .refl _

theorem and (each : List.Forall₂ (Refined env) es es') : Refined env (.and es) (.and es') :=
  (all each).bind fun _ => .refl _

theorem or (each : List.Forall₂ (Refined env) es es') : Refined env (.or es) (.or es') :=
  (any each).bind fun _ => .refl _

/-- In place of an operand a conjunction may have the operands of a conjunction that the operand is. -/
theorem and_flatMap {parts : Expr → List Expr} {whole : Expr → Expr}
    (each : ∀ e ∈ es, Refined env e (whole e))
    (same : ∀ e ∈ es, evalAll env (parts e) = (whole e).truth env) :
    Refined env (.and es) (.and (es.flatMap parts)) := by
  have joined : evalAll env (es.flatMap parts) = evalAll env (es.map whole) := by
    clear each
    induction es with
    | nil => rfl
    | cons e rest ih =>
        rw [List.flatMap_cons, evalAll_append, List.map_cons, evalAll_cons, same e List.mem_cons_self,
          ih fun other member => same other (List.mem_cons_of_mem _ member)]
  intro v computed
  rw [Expr.eval, joined, ← Expr.eval]
  exact and (map each) v computed

theorem or_flatMap {parts : Expr → List Expr} {whole : Expr → Expr}
    (each : ∀ e ∈ es, Refined env e (whole e))
    (same : ∀ e ∈ es, evalAny env (parts e) = (whole e).truth env) :
    Refined env (.or es) (.or (es.flatMap parts)) := by
  have joined : evalAny env (es.flatMap parts) = evalAny env (es.map whole) := by
    clear each
    induction es with
    | nil => rfl
    | cons e rest ih =>
        rw [List.flatMap_cons, evalAny_append, List.map_cons, evalAny_cons, same e List.mem_cons_self,
          ih fun other member => same other (List.mem_cons_of_mem _ member)]
  intro v computed
  rw [Expr.eval, joined, ← Expr.eval]
  exact or (map each) v computed

theorem compare (op : Comparison) (left : Refined env lhs lhs') (right : Refined env rhs rhs') :
    Refined env (.compare op lhs rhs) (.compare op lhs' rhs') :=
  left.bind fun _ => right.bind fun _ => .refl _

theorem isNull (negated : Bool) (refined : Refined env e e') :
    Refined env (.isNull negated e) (.isNull negated e') := refined.bind fun _ => .refl _

theorem not (refined : Refined env e e') : Refined env e.not e'.not := refined.bind fun _ => .refl _

theorem inList (refined : Refined env e e') (each : List.Forall₂ (Refined env) es es') :
    Refined env (.inList e es) (.inList e' es') := by
  refine refined.bind fun v => ?_
  have empty : es.isEmpty = es'.isEmpty := by cases each <;> rfl
  rw [empty]
  split
  · exact .refl _
  · exact (member each).bind fun _ => .refl _

/-- Nothing is in an empty list. -/
theorem inList_nil (e : Expr) : Refined env (.inList e []) (.const (.bool false)) := by
  intro v computed
  obtain ⟨u, _, computed⟩ := bind_eq_ok.mp computed
  split at computed <;> exact computed

/-- A junction of one operand has the value of the operand, if that is a truth value. -/
theorem and_singleton (e : Expr) : Refined env (.and [e]) e := by
  intro v computed
  obtain ⟨t, answered, computed⟩ := bind_eq_ok.mp computed
  cases computed
  rw [evalAll_singleton] at answered
  exact Expr.truth_eq_ok.mp answered

theorem or_singleton (e : Expr) : Refined env (.or [e]) e := by
  intro v computed
  obtain ⟨t, answered, computed⟩ := bind_eq_ok.mp computed
  cases computed
  rw [evalAny_singleton] at answered
  exact Expr.truth_eq_ok.mp answered

end Expr.Refined

end Relata
