import Relata.Proofs.Expr.Junction

/-!
Columns that an evaluation meets. AND, OR and IN stop at the first operand that decides them, so an evaluation
looks up some of the columns that an expression names and passes over the others. Where it meets a column
without a value it fails; one that it passes over might as well be a constant.
-/

namespace Relata

/-- The column of that name under that qualifier. -/
def ColumnRef.Is (c : ColumnRef) (qualifier column : String) : Prop :=
  c.table.qualifier = qualifier ∧ c.column = column

instance (c : ColumnRef) (qualifier column : String) : Decidable (c.Is qualifier column) :=
  inferInstanceAs (Decidable (_ ∧ _))

/-- How operands decide together: one of them is decisive, or all of them count. -/
structure Junction where
  decisive : Truth
  neutral : Truth
  join : Truth → Truth → Truth
  undecided : neutral ≠ decisive
  join_eq : ∀ t u, join t u = decisive ↔ t = decisive ∨ u = decisive

namespace Junction

def all : Junction where
  decisive := some false
  neutral := some true
  join := Truth.and
  undecided := by decide
  join_eq t u := by rcases t with _ | _ | _ <;> rcases u with _ | _ | _ <;> decide

def any : Junction where
  decisive := some true
  neutral := some false
  join := Truth.or
  undecided := by decide
  join_eq t u := by rcases t with _ | _ | _ <;> rcases u with _ | _ | _ <;> decide

/-- The operands' answers are asked for from the left, up to a decisive one. -/
def decide (junction : Junction) : List (Except Fault Truth) → Except Fault Truth
  | [] => .ok junction.neutral
  | answer :: rest => do
    let t ← answer
    if t = junction.decisive then return t else return junction.join t (← junction.decide rest)

variable {junction : Junction} {before after : List (Except Fault Truth)} {t u : Truth}

theorem decide_cons_eq_ok {answer : Except Fault Truth} {rest : List (Except Fault Truth)}
    (decided : junction.decide (answer :: rest) = .ok u) (undecided : u ≠ junction.decisive) :
    ∃ t w, answer = .ok t ∧ t ≠ junction.decisive ∧
      junction.decide rest = .ok w ∧ w ≠ junction.decisive := by
  obtain ⟨t, answered, decided⟩ := bind_eq_ok.mp decided
  split at decided
  · cases decided
    contradiction
  · rename_i further
    obtain ⟨w, rest, decided⟩ := bind_eq_ok.mp decided
    cases decided
    refine ⟨t, w, answered, further, rest, fun same => undecided ?_⟩
    exact (junction.join_eq t w).mpr (.inr same)

theorem decide_cons_of_ok {rest : List (Except Fault Truth)} (further : t ≠ junction.decisive) :
    junction.decide (.ok t :: rest) = do return junction.join t (← junction.decide rest) := by
  rw [decide, ok_bind, if_neg further]

/-- A failure behind undecided operands is the failure of all. -/
theorem decide_stops {fault : Fault} (passed : junction.decide before = .ok u)
    (undecided : u ≠ junction.decisive) : junction.decide (before ++ .error fault :: after) = .error fault := by
  induction before generalizing u with
  | nil => rfl
  | cons answer rest ih =>
      obtain ⟨t, w, rfl, further, passed, undecided⟩ := decide_cons_eq_ok passed undecided
      rw [List.cons_append, decide_cons_of_ok further, ih passed undecided]
      rfl

/-- Only operands that are asked for count. -/
theorem decide_congr {α : Type} {f g : α → Except Fault Truth} {items : List α}
    (same : ∀ before a after, items = before ++ a :: after → ∀ u, junction.decide (before.map f) = .ok u →
      u ≠ junction.decisive → g a = f a) :
    junction.decide (items.map g) = junction.decide (items.map f) := by
  induction items with
  | nil => rfl
  | cons a rest ih =>
      have first : g a = f a := same [] a rest rfl _ rfl junction.undecided
      rw [List.map_cons, List.map_cons, first]
      cases answered : f a with
      | error fault => rfl
      | ok t =>
          by_cases decisive : t = junction.decisive
          · rw [decide, decide, ok_bind, ok_bind, if_pos decisive, if_pos decisive]
          · rw [decide_cons_of_ok decisive, decide_cons_of_ok decisive, ih]
            intro before b after split u passed undecided
            refine same (a :: before) b after (by rw [split]; rfl) (junction.join t u) ?_ ?_
            · rw [List.map_cons, answered, decide_cons_of_ok decisive, passed]
              rfl
            · exact fun decided => ((junction.join_eq t u).mp decided).elim decisive undecided

end Junction

section Operands

variable {env : Env} {qualifier column : String}

theorem evalAll_eq_decide (es : List Expr) :
    evalAll env es = Junction.all.decide (es.map (Expr.truth env)) := by
  induction es with
  | nil => rfl
  | cons e rest ih =>
      rw [evalAll, ih, List.map_cons, Junction.decide, Expr.truth, bind_assoc]
      refine bind_congr fun v => bind_congr fun t => ?_
      by_cases decisive : t = some false
      · subst decisive
        rfl
      · rw [if_neg decisive]
        exact (if_neg decisive).symm

theorem evalAny_eq_decide (es : List Expr) :
    evalAny env es = Junction.any.decide (es.map (Expr.truth env)) := by
  induction es with
  | nil => rfl
  | cons e rest ih =>
      rw [evalAny, ih, List.map_cons, Junction.decide, Expr.truth, bind_assoc]
      refine bind_congr fun v => bind_congr fun t => ?_
      by_cases decisive : t = some true
      · subst decisive
        rfl
      · rw [if_neg decisive]
        exact (if_neg decisive).symm

/-- What a member of a list answers for a value that is sought. -/
def Expr.equals (env : Env) (v : Value) (item : Expr) : Except Fault Truth := do
  return v.equals (← item.eval env)

theorem evalMember_eq_decide (v : Value) (es : List Expr) :
    evalMember env v es = Junction.any.decide (es.map (Expr.equals env v)) := by
  induction es with
  | nil => rfl
  | cons e rest ih =>
      rw [evalMember, ih, List.map_cons, Junction.decide, Expr.equals, bind_assoc]
      refine bind_congr fun u => ?_
      rw [pure_bind]
      by_cases decisive : v.equals u = some true
      · rw [decisive]
        rfl
      · exact (if_neg decisive).trans (if_neg decisive).symm

end Operands

/-- The evaluation of an expression looks the column up. -/
inductive Expr.Meets (env : Env) (qualifier column : String) : Expr → Prop
  | column {c : ColumnRef} (named : c.Is qualifier column) : Meets env qualifier column (.column c)
  | and {before after : List Expr} {e : Expr} {t : Truth} (passed : evalAll env before = .ok t)
    (undecided : t ≠ some false) (met : Meets env qualifier column e) :
    Meets env qualifier column (.and (before ++ e :: after))
  | or {before after : List Expr} {e : Expr} {t : Truth} (passed : evalAny env before = .ok t)
    (undecided : t ≠ some true) (met : Meets env qualifier column e) :
    Meets env qualifier column (.or (before ++ e :: after))
  | left {op : Comparison} {lhs rhs : Expr} (met : Meets env qualifier column lhs) :
    Meets env qualifier column (.compare op lhs rhs)
  | right {op : Comparison} {lhs rhs : Expr} {v : Value} (evaluated : lhs.eval env = .ok v)
    (met : Meets env qualifier column rhs) : Meets env qualifier column (.compare op lhs rhs)
  | grouping {e : Expr} (met : Meets env qualifier column e) : Meets env qualifier column (.grouping e)
  | sought {e : Expr} {items : List Expr} (met : Meets env qualifier column e) :
    Meets env qualifier column (.inList e items)
  | member {e item : Expr} {before after : List Expr} {v : Value} {t : Truth}
    (evaluated : e.eval env = .ok v) (nonnull : v.isNull = false)
    (passed : evalMember env v before = .ok t) (undecided : t ≠ some true)
    (met : Meets env qualifier column item) : Meets env qualifier column (.inList e (before ++ item :: after))
  | isNull {negated : Bool} {e : Expr} (met : Meets env qualifier column e) :
    Meets env qualifier column (.isNull negated e)
  | not {e : Expr} (met : Meets env qualifier column e) : Meets env qualifier column (.not e)

section Evaluation

variable {env : Env} {qualifier column : String} {e : Expr} {v : Value}

/-- An evaluation that meets a column without a value has none either. -/
theorem Expr.Meets.eval_eq_error {fault : Fault} (met : e.Meets env qualifier column)
    (missing : ∀ c : ColumnRef, c.Is qualifier column → env.value c = .error fault) :
    e.eval env = .error fault := by
  induction met with
  | column named => exact missing _ named
  | @and before after e t passed undecided _ ih =>
      rw [evalAll_eq_decide] at passed
      have fails : e.truth env = .error fault := by rw [Expr.truth, ih, error_bind]
      rw [Expr.eval, evalAll_eq_decide, List.map_append, List.map_cons, fails,
        Junction.decide_stops passed undecided, error_bind]
  | @or before after e t passed undecided _ ih =>
      rw [evalAny_eq_decide] at passed
      have fails : e.truth env = .error fault := by rw [Expr.truth, ih, error_bind]
      rw [Expr.eval, evalAny_eq_decide, List.map_append, List.map_cons, fails,
        Junction.decide_stops passed undecided, error_bind]
  | left _ ih => rw [Expr.eval, ih, error_bind]
  | right evaluated _ ih => rw [Expr.eval, evaluated, ok_bind, ih, error_bind]
  | grouping _ ih => rw [Expr.eval, ih]
  | sought _ ih => rw [Expr.eval, ih, error_bind]
  | @member e item before after v t evaluated nonnull passed undecided _ ih =>
      rw [evalMember_eq_decide] at passed
      have fails : item.equals env v = .error fault := by rw [Expr.equals, ih, error_bind]
      rw [Expr.eval, evaluated, ok_bind, nonnull, if_neg Bool.false_ne_true, evalMember_eq_decide,
        List.map_append, List.map_cons, fails, Junction.decide_stops passed undecided, error_bind]
  | isNull _ ih => rw [Expr.eval, ih, error_bind]
  | not _ ih => rw [Expr.eval, ih, error_bind]

mutual

/-- The expression with a constant for the column. -/
def Expr.fill (qualifier column : String) (v : Value) : Expr → Expr
  | .and operands => .and (fillAll qualifier column v operands)
  | .or operands => .or (fillAll qualifier column v operands)
  | .compare op lhs rhs => .compare op (lhs.fill qualifier column v) (rhs.fill qualifier column v)
  | .column c => if c.Is qualifier column then .const v else .column c
  | .grouping e => .grouping (e.fill qualifier column v)
  | .inList e items => .inList (e.fill qualifier column v) (fillAll qualifier column v items)
  | .isNull negated e => .isNull negated (e.fill qualifier column v)
  | .not e => .not (e.fill qualifier column v)
  | .const w => .const w

def fillAll (qualifier column : String) (v : Value) : List Expr → List Expr
  | [] => []
  | e :: rest => e.fill qualifier column v :: fillAll qualifier column v rest

end

theorem fillAll_eq_map (es : List Expr) :
    fillAll qualifier column v es = es.map (Expr.fill qualifier column v) := by
  induction es with
  | nil => rfl
  | cons e rest ih => rw [fillAll, ih, List.map_cons]

/-- An evaluation that does not meet the column is that with any constant for it. -/
theorem Expr.eval_fill (unmet : ¬ e.Meets env qualifier column) (v : Value) :
    (e.fill qualifier column v).eval env = e.eval env := by
  induction e using Expr.induction with
  | and operands ih =>
      rw [fill, eval, eval, fillAll_eq_map, evalAll_eq_decide, evalAll_eq_decide, List.map_map]
      refine congrArg (· >>= _) (Junction.decide_congr fun before e after split t passed undecided => ?_)
      rw [← evalAll_eq_decide] at passed
      subst split
      rw [Function.comp_apply, truth, truth, ih e (by simp) fun met => unmet (.and passed undecided met)]
  | or operands ih =>
      rw [fill, eval, eval, fillAll_eq_map, evalAny_eq_decide, evalAny_eq_decide, List.map_map]
      refine congrArg (· >>= _) (Junction.decide_congr fun before e after split t passed undecided => ?_)
      rw [← evalAny_eq_decide] at passed
      subst split
      rw [Function.comp_apply, truth, truth, ih e (by simp) fun met => unmet (.or passed undecided met)]
  | compare op lhs rhs left right =>
      rw [fill, eval, eval, left fun met => unmet (.left met)]
      cases evaluated : lhs.eval env with
      | error fault => rfl
      | ok w => rw [ok_bind, ok_bind, right fun met => unmet (.right evaluated met)]
  | column c => rw [fill, if_neg fun named => unmet (.column named)]
  | grouping e ih =>
      rw [fill, eval, eval]
      exact ih fun met => unmet (.grouping met)
  | inList e items ih each =>
      rw [fill, eval, eval, ih fun met => unmet (.sought met)]
      cases evaluated : e.eval env with
      | error fault => rfl
      | ok w =>
          rw [ok_bind, ok_bind, fillAll_eq_map, List.isEmpty_map]
          cases null : w.isNull with
          | true => rfl
          | false =>
              rw [if_neg Bool.false_ne_true, if_neg Bool.false_ne_true, evalMember_eq_decide,
                evalMember_eq_decide, List.map_map]
              refine congrArg (· >>= _) (Junction.decide_congr fun before item after split t passed undecided => ?_)
              rw [← evalMember_eq_decide] at passed
              subst split
              rw [Function.comp_apply, equals, equals,
                each item (by simp) fun met => unmet (.member evaluated null passed undecided met)]
  | isNull negated e ih => rw [fill, eval, eval, ih fun met => unmet (.isNull met)]
  | not e ih => rw [fill, eval, eval, ih fun met => unmet (.not met)]
  | const w => rfl

end Evaluation

end Relata
