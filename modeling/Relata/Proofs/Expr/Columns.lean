import Relata.Eval.Expr

/-!
What an expression reads. The value of an expression depends on the rows in reach only through the
columns it names, so two environments that agree on these columns give it the same value or the same
fault.
-/

namespace Relata

/-- Expressions are built from smaller ones; an operand of a list counts as smaller. -/
@[elab_as_elim]
theorem Expr.induction {P : Expr → Prop} (and : ∀ operands, (∀ e ∈ operands, P e) → P (.and operands))
    (or : ∀ operands, (∀ e ∈ operands, P e) → P (.or operands))
    (compare : ∀ op lhs rhs, P lhs → P rhs → P (.compare op lhs rhs))
    (column : ∀ c, P (.column c)) (grouping : ∀ e, P e → P (.grouping e))
    (inList : ∀ e items, P e → (∀ item ∈ items, P item) → P (.inList e items))
    (isNull : ∀ negated e, P e → P (.isNull negated e)) (not : ∀ e, P e → P (.not e))
    (const : ∀ v, P (.const v)) (e : Expr) : P e := by
  apply @Expr.rec P (fun es => ∀ e ∈ es, P e) and or (fun op lhs rhs => compare op lhs rhs) column
    grouping inList isNull not const
  · intro e member
    cases member
  · intro head tail headHolds tailHolds e member
    rcases List.mem_cons.mp member with rfl | member
    · exact headHolds
    · exact tailHolds e member

mutual

/-- The columns that an expression names. -/
def Expr.columns : Expr → List ColumnRef
  | .and operands => columnsOf operands
  | .or operands => columnsOf operands
  | .compare _ lhs rhs => lhs.columns ++ rhs.columns
  | .column c => [c]
  | .grouping e => e.columns
  | .inList e items => e.columns ++ columnsOf items
  | .isNull _ e => e.columns
  | .not e => e.columns
  | .const _ => []

def columnsOf : List Expr → List ColumnRef
  | [] => []
  | e :: rest => e.columns ++ columnsOf rest

end

theorem mem_columnsOf {c : ColumnRef} {es : List Expr} :
    c ∈ columnsOf es ↔ ∃ e ∈ es, c ∈ e.columns := by
  induction es with
  | nil => simp [columnsOf]
  | cons e rest ih => simp [columnsOf, ih]

theorem columnsOf_append (es others : List Expr) :
    columnsOf (es ++ others) = columnsOf es ++ columnsOf others := by
  induction es with
  | nil => rfl
  | cons e rest ih => rw [List.cons_append, columnsOf, columnsOf, ih, List.append_assoc]

theorem columnsOf_consts (values : List Value) : columnsOf (values.map .const) = [] := by
  induction values with
  | nil => rfl
  | cons v rest ih => rw [List.map_cons, columnsOf, ih, Expr.columns, List.nil_append]

/-- A conjunction of two conditions names what one of them names. -/
theorem Expr.mem_columns_conj {lhs rhs : Expr} {c : ColumnRef} (named : c ∈ (lhs.conj rhs).columns) :
    c ∈ lhs.columns ∨ c ∈ rhs.columns := by
  unfold Expr.conj at named
  split at named
  · exact .inr named
  split at named
  · exact .inl named
  split at named
  all_goals simpa [Expr.columns, columnsOf, columnsOf_append] using named

theorem Expr.mem_columns_disj {lhs rhs : Expr} {c : ColumnRef} (named : c ∈ (lhs.disj rhs).columns) :
    c ∈ lhs.columns ∨ c ∈ rhs.columns := by
  unfold Expr.disj at named
  split at named
  all_goals simpa [Expr.columns, columnsOf, columnsOf_append] using named

/-- No column of the expression is read under the qualifier. -/
def Expr.Avoids (qualifier : String) (e : Expr) : Prop :=
  ∀ c ∈ e.columns, c.table.qualifier ≠ qualifier

variable {env other : Env}

theorem evalAll_congr {es : List Expr} (same : ∀ e ∈ es, e.eval env = e.eval other) :
    evalAll env es = evalAll other es := by
  induction es with
  | nil => rfl
  | cons e rest ih =>
      rw [evalAll, evalAll, same e (by simp), ih fun e member => same e (by simp [member])]

theorem evalAny_congr {es : List Expr} (same : ∀ e ∈ es, e.eval env = e.eval other) :
    evalAny env es = evalAny other es := by
  induction es with
  | nil => rfl
  | cons e rest ih =>
      rw [evalAny, evalAny, same e (by simp), ih fun e member => same e (by simp [member])]

theorem evalMember_congr {v : Value} {es : List Expr}
    (same : ∀ e ∈ es, e.eval env = e.eval other) :
    evalMember env v es = evalMember other v es := by
  induction es with
  | nil => rfl
  | cons e rest ih =>
      rw [evalMember, evalMember, same e (by simp), ih fun e member => same e (by simp [member])]

theorem Expr.eval_congr {e : Expr} (agree : ∀ c ∈ e.columns, env.value c = other.value c) :
    e.eval env = e.eval other := by
  induction e using Expr.induction with
  | and operands ih =>
      have same : ∀ e ∈ operands, e.eval env = e.eval other := fun e member =>
        ih e member fun c named => agree c (mem_columnsOf.mpr ⟨e, member, named⟩)
      rw [Expr.eval, Expr.eval, evalAll_congr same]
  | or operands ih =>
      have same : ∀ e ∈ operands, e.eval env = e.eval other := fun e member =>
        ih e member fun c named => agree c (mem_columnsOf.mpr ⟨e, member, named⟩)
      rw [Expr.eval, Expr.eval, evalAny_congr same]
  | compare op lhs rhs left right =>
      rw [Expr.eval, Expr.eval, left fun c named => agree c (List.mem_append_left _ named),
        right fun c named => agree c (List.mem_append_right _ named)]
  | column c => exact agree c (by simp [Expr.columns])
  | grouping e ih => exact ih agree
  | inList e items ih each =>
      have same : ∀ item ∈ items, item.eval env = item.eval other := fun item member =>
        each item member fun c named =>
          agree c (List.mem_append_right _ (mem_columnsOf.mpr ⟨item, member, named⟩))
      simp only [Expr.eval, ih fun c named => agree c (List.mem_append_left _ named),
        evalMember_congr same]
  | isNull negated e ih => rw [Expr.eval, Expr.eval, ih agree]
  | not e ih => rw [Expr.eval, Expr.eval, ih agree]
  | const v => rfl

theorem Env.value_beyond {row : Frame} (outer : Binding) {c : ColumnRef}
    (avoids : c.table.qualifier ≠ outer.shape.qualifier) :
    Env.value [row, [outer]] c = Env.value [row] c := by
  have unbound : Frame.binding? [outer] c.table.qualifier = none := by
    simp [Frame.binding?, avoids.symm]
  cases bound : row.binding? c.table.qualifier with
  | some binding => rw [Env.value_near bound, Env.value_near bound]
  | none => rw [Env.value_outer bound, Env.value_outer bound, Env.value_outer unbound]

end Relata
