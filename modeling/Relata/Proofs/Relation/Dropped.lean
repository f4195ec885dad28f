import Relata.Proofs.Expr.Refined
import Relata.Proofs.Relation.Rename
import Relata.Proofs.Sql.Written

/-!
Junctions that a renaming drops. What is nothing but junctions and parentheses names no column and disappears
under a new name. Nothing is lost of the condition around it where it is worth what its place is worth when it
is left out: true at the top and below AND, false below OR.
-/

namespace Relata

mutual

/-- The expression is nothing but junctions and parentheses. -/
def Expr.isHollow : Expr → Bool
  | .and operands => allHollow operands
  | .or operands => allHollow operands
  | .grouping e => e.isHollow
  | _ => false

def allHollow : List Expr → Bool
  | [] => true
  | e :: rest => e.isHollow && allHollow rest

end

theorem allHollow_eq_all (es : List Expr) : allHollow es = es.all Expr.isHollow := by
  induction es with
  | nil => rfl
  | cons e rest ih => rw [allHollow, ih, List.all_cons]

namespace Expr

variable {root twin : TableRef} {aliasName : String} {e : Expr} {operands : List Expr} {env : Env}

theorem columns_of_isHollow (hollow : e.isHollow = true) : e.columns = [] := by
  have each : ∀ {operands : List Expr}, (∀ e ∈ operands, e.isHollow = true → e.columns = []) →
      allHollow operands = true → columnsOf operands = [] := by
    intro operands ih all
    rw [allHollow_eq_all, List.all_eq_true] at all
    refine List.eq_nil_iff_forall_not_mem.mpr fun c named => ?_
    obtain ⟨e, member, named⟩ := mem_columnsOf.mp named
    rw [ih e member (all e member)] at named
    cases named
  induction e using Expr.induction with
  | and operands ih => exact each ih hollow
  | or operands ih => exact each ih hollow
  | grouping e ih => exact ih hollow
  | compare | column | inList | isNull | not | const => cases hollow

/-- What names no column has one value everywhere. -/
theorem eval_of_isHollow (hollow : e.isHollow = true) (env other : Env) : e.eval env = e.eval other :=
  eval_congr (by simp [columns_of_isHollow hollow])

/-- Nothing is left under a new name exactly of what is nothing but junctions and parentheses. -/
theorem rename?_eq_none_iff : e.rename? root twin = none ↔ e.isHollow = true := by
  have each : ∀ {operands : List Expr},
      (∀ e ∈ operands, e.rename? root twin = none ↔ e.isHollow = true) →
      (renameAll root twin operands = [] ↔ allHollow operands = true) := by
    intro operands ih
    rw [renameAll_eq_filterMap, List.filterMap_eq_nil_iff, allHollow_eq_all, List.all_eq_true]
    exact forall₂_congr ih
  induction e using Expr.induction with
  | and operands ih =>
      rw [rename?, isHollow, ← each ih]
      cases renameAll root twin operands <;> simp
  | or operands ih =>
      rw [rename?, isHollow, ← each ih]
      cases renameAll root twin operands <;> simp
  | grouping e ih => exact Option.map_eq_none_iff.trans ih
  | compare op lhs rhs => cases op <;> simp [rename?, isHollow]
  | column | inList | isNull | not | const => simp [rename?, isHollow]

/-- The condition outlasts its empty junctions: it follows its table, and what it has of nothing but junctions
and parentheses besides is true below AND and false below OR. -/
inductive Outlasts (root : TableRef) (aliasName : String) : Expr → Prop
  | and {operands : List Expr} (some : ∃ e ∈ operands, e.isHollow = false)
    (each : ∀ e ∈ operands, e.isHollow = false → Outlasts root aliasName e)
    (neutral : ∀ e ∈ operands, e.isHollow = true → e.eval [] = .ok (.bool true)) :
    Outlasts root aliasName (.and operands)
  | or {operands : List Expr} (some : ∃ e ∈ operands, e.isHollow = false)
    (each : ∀ e ∈ operands, e.isHollow = false → Outlasts root aliasName e)
    (neutral : ∀ e ∈ operands, e.isHollow = true → e.eval [] = .ok (.bool false)) :
    Outlasts root aliasName (.or operands)
  | grouping {e : Expr} (inner : Outlasts root aliasName e) : Outlasts root aliasName (.grouping e)
  | follows {e : Expr} (follows : e.Follows root aliasName) : Outlasts root aliasName e

/-- The operands of which something is left under a new name. -/
def solid (operands : List Expr) : List Expr := operands.filter fun e => !e.isHollow

theorem mem_solid : e ∈ solid operands ↔ e ∈ operands ∧ e.isHollow = false := by
  simp [solid]

theorem solid_ne_nil (some : ∃ e ∈ operands, e.isHollow = false) : solid operands ≠ [] := by
  obtain ⟨e, member, kept⟩ := some
  exact List.ne_nil_of_mem (mem_solid.mpr ⟨member, kept⟩)

/-- Operands that are true may be left out of a conjunction. -/
theorem evalAll_solid (neutral : ∀ e ∈ operands, e.isHollow = true → e.eval [] = .ok (.bool true)) :
    evalAll env (solid operands) = evalAll env operands := by
  induction operands with
  | nil => rfl
  | cons e rest ih =>
      have others := ih fun e member => neutral e (List.mem_cons_of_mem _ member)
      cases hollow : e.isHollow with
      | true =>
          have worth : e.truth env = .ok (some true) := by
            rw [truth_eq_ok, eval_of_isHollow hollow env [], neutral e List.mem_cons_self hollow]
            rfl
          rw [solid, List.filter_cons_of_neg (by simp [hollow]), evalAll_cons, worth, bothTruths_true]
          exact others
      | false =>
          rw [solid, List.filter_cons_of_pos (by simp [hollow]), evalAll_cons, evalAll_cons, ← others]
          rfl

@[simp] theorem eitherTruth_false (second : Except Fault Truth) :
    eitherTruth (.ok (some false)) second = second := by
  cases second <;> simp [eitherTruth, pure, Except.pure]

/-- Operands that are false may be left out of a disjunction. -/
theorem evalAny_solid (neutral : ∀ e ∈ operands, e.isHollow = true → e.eval [] = .ok (.bool false)) :
    evalAny env (solid operands) = evalAny env operands := by
  induction operands with
  | nil => rfl
  | cons e rest ih =>
      have others := ih fun e member => neutral e (List.mem_cons_of_mem _ member)
      cases hollow : e.isHollow with
      | true =>
          have worth : e.truth env = .ok (some false) := by
            rw [truth_eq_ok, eval_of_isHollow hollow env [], neutral e List.mem_cons_self hollow]
            rfl
          rw [solid, List.filter_cons_of_neg (by simp [hollow]), evalAny_cons, worth, eitherTruth_false]
          exact others
      | false =>
          rw [solid, List.filter_cons_of_pos (by simp [hollow]), evalAny_cons, evalAny_cons, ← others]
          rfl

/-- A junction that keeps an operand is renamed as the junction of the operands that are kept. -/
theorem renameAll_solid : renameAll root twin (solid operands) = renameAll root twin operands := by
  induction operands with
  | nil => rfl
  | cons e rest ih =>
      cases hollow : e.isHollow with
      | true =>
          rw [solid, List.filter_cons_of_neg (by simp [hollow]), renameAll, rename?_eq_none_iff.mpr hollow]
          exact ih
      | false =>
          rw [solid, List.filter_cons_of_pos (by simp [hollow]), renameAll, renameAll, ← ih]
          rfl

theorem rename?_and_solid (kept : ∃ e ∈ operands, e.isHollow = false)
    (each : ∀ e ∈ operands, e.isHollow = false → e.rename? root twin = some (e.underName root twin)) :
    (Expr.and operands).rename? root twin =
      some (.and ((solid operands).map (Expr.underName root twin))) := by
  rw [← rename?_and (solid_ne_nil kept) fun e member => each e (mem_solid.mp member).1
      (mem_solid.mp member).2,
    rename?, rename?, renameAll_solid]

theorem rename?_or_solid (kept : ∃ e ∈ operands, e.isHollow = false)
    (each : ∀ e ∈ operands, e.isHollow = false → e.rename? root twin = some (e.underName root twin)) :
    (Expr.or operands).rename? root twin =
      some (.or ((solid operands).map (Expr.underName root twin))) := by
  rw [← rename?_or (solid_ne_nil kept) fun e member => each e (mem_solid.mp member).1
      (mem_solid.mp member).2,
    rename?, rename?, renameAll_solid]

theorem Outlasts.rename?_eq (outlasts : e.Outlasts root aliasName) :
    e.rename? root twin = some (e.underName root twin) := by
  induction outlasts with
  | and some each neutral ih =>
      have renamed := rename?_and_solid some ih
      rw [renamed, underName_eq renamed]
  | or some each neutral ih =>
      have renamed := rename?_or_solid some ih
      rw [renamed, underName_eq renamed]
  | @grouping e inner ih =>
      have renamed : (Expr.grouping e).rename? root twin = some (.grouping (e.underName root twin)) := by
        rw [rename?, ih, Option.map_some]
      rw [renamed, underName_eq renamed]
  | follows follows => exact follows.rename?_eq

/-- What outlasts its empty junctions has the same value under the new name. -/
theorem Outlasts.eval_mirrors {outer : Env} {columns : List String} {values : List Value}
    (outlasts : e.Outlasts root aliasName) (named : twin.qualifier = aliasName) :
    Mirrors id ((e.underName root twin).eval (rowFrame twin.qualifier columns values :: outer))
      (e.eval (rowFrame root.qualifier columns values :: outer)) := by
  induction outlasts with
  | and some each neutral ih =>
      rw [underName_eq (rename?_and_solid some fun e member kept => (each e member kept).rename?_eq),
        eval, eval, ← evalAll_solid neutral]
      refine (evalAll_mirrors fun e member => ?_).bind fun _ _ => .ok _
      exact ih e (mem_solid.mp member).1 (mem_solid.mp member).2
  | or some each neutral ih =>
      rw [underName_eq (rename?_or_solid some fun e member kept => (each e member kept).rename?_eq),
        eval, eval, ← evalAny_solid neutral]
      refine (evalAny_mirrors fun e member => ?_).bind fun _ _ => .ok _
      exact ih e (mem_solid.mp member).1 (mem_solid.mp member).2
  | grouping inner ih =>
      rw [underName_eq (by rw [rename?, inner.rename?_eq, Option.map_some]), eval, eval]
      exact ih
  | follows follows => exact follows.eval_mirrors named

end Expr

/-- The verdict on a row is kept where the whole condition is true and nothing but junctions and parentheses,
or outlasts its empty junctions. -/
theorem Relation.verdict_mirrors {relation : Relation} {aliasName : String}
    (lasting : ∀ e ∈ relation.filter,
      (e.isHollow = true ∧ e.eval [] = .ok (.bool true)) ∨ e.Outlasts relation.table aliasName)
    (outer : Env) (columns : List String) (values : List Value) :
    Mirrors id
      ((relation.rename aliasName).condition.keeps (rowFrame aliasName columns values :: outer))
      (relation.condition.keeps (rowFrame relation.table.qualifier columns values :: outer)) := by
  have filter : (relation.rename aliasName).filter = relation.filter.bind
      (Expr.rename? relation.table (.table relation.table.name (some aliasName))) := rfl
  rw [condition, condition, filter]
  cases existing : relation.filter with
  | none => exact .of_eq rfl
  | some e =>
      rw [Option.bind_some]
      rcases lasting e existing with ⟨hollow, holds⟩ | outlasts
      · rw [Expr.rename?_eq_none_iff.mpr hollow, Option.getD_some, Expr.keeps, Expr.keeps,
          Expr.eval_of_isHollow hollow _ [], holds]
        exact .ok true
      · have named : (TableRef.table relation.table.name (some aliasName)).qualifier = aliasName := rfl
        rw [outlasts.rename?_eq]
        exact Expr.keeps_mirrors (outlasts.eval_mirrors named)

/-- A text says a query with constants for the empty junctions of its filter, and that has the same answer,
unless the filter is an empty disjunction: there is no clause for it, which keeps every row. A renaming keeps the
verdict on every row if what it drops is true at the top and below AND, and false below OR. -/
theorem dropped_junctions_keep_meaning (query : Query) (relation : Relation) (aliasName : String) :
    (query.written.sql = query.sql ∧
      (query.filter ≠ some (.or []) → ∀ db outer headerOnly,
        query.written.run db outer headerOnly = query.run db outer headerOnly)) ∧
    ((∀ e ∈ relation.filter,
        (e.isHollow = true ∧ e.eval [] = .ok (.bool true)) ∨ e.Outlasts relation.table aliasName) →
      ∀ (outer : Env) (columns : List String) (values : List Value),
        Mirrors id
          ((relation.rename aliasName).condition.keeps (rowFrame aliasName columns values :: outer))
          (relation.condition.keeps (rowFrame relation.table.qualifier columns values :: outer))) :=
  ⟨⟨query.sql_written, Query.run_written⟩, Relation.verdict_mirrors⟩

namespace Sample

/-- `"notes"."id" = 4 AND TRUE OR FALSE`. -/
def fourth : Expr :=
  .or [.and [.compare .eq (note.all.column "id") (.const (.int 4)), .and []], .grouping (.or [])]

theorem fourth_outlasts : fourth.Outlasts note.all.table "n" := by
  have both : ∀ {P : Expr → Prop} {a b : Expr}, P a → P b → ∀ e ∈ [a, b], P e := fun first second =>
    List.forall_mem_cons.mpr ⟨first, List.forall_mem_singleton.mpr second⟩
  refine .or ⟨_, List.mem_cons_self, rfl⟩ (both (fun _ => ?_) nofun) (both nofun fun _ => rfl)
  refine .and ⟨_, List.mem_cons_self, rfl⟩ (both (fun _ => ?_) nofun) (both nofun fun _ => rfl)
  exact .follows (.compare "id" (.inl rfl) fun c named => nomatch named)

/-- All that is empty is dropped of the condition, and the verdict is the same. -/
theorem dropped_junctions_keep_fourth :
    let relation := note.all.refine [.filter fourth]
    fourth.Outlasts relation.table "n" ∧
    relation.query.written.sql = relation.query.sql ∧
    relation.query.written.run engine.store.database [] false =
      relation.query.run engine.store.database [] false ∧
    (relation.rename "n").filter =
      some (.or [.and [.compare .eq (.column ((TableRef.table "notes" (some "n")).column "id"))
        (.const (.int 4))]]) ∧
    Mirrors id
      ((relation.rename "n").condition.keeps [rowFrame "n" ["id"] [.int 4]])
      (relation.condition.keeps [rowFrame "notes" ["id"] [.int 4]]) := by
  obtain ⟨⟨text, answer⟩, verdict⟩ := dropped_junctions_keep_meaning
    (note.all.refine [.filter fourth]).query (note.all.refine [.filter fourth]) "n"
  refine ⟨fourth_outlasts, text, answer (fun empty => ?_) _ _ _, rfl, verdict ?_ [] ["id"] [.int 4]⟩
  · cases empty
  · rintro e ⟨⟩
    exact .inr fourth_outlasts

/-- An empty disjunction keeps no row. Its clause is not written, and neither at the top nor below AND is it
there under a new name, where every row is kept. -/
theorem dropped_disjunction_keeps_rows :
    let nothing := note.all.refine [.filter (.or [])]
    let below := note.all.refine [.filter (.and [.or [], .isNull true (.const (.int 0))])]
    let ids := fun relation : Relation =>
      (relation.query.run engine.store.database [] false).map fun rowset => rowset.rows.map List.head?
    filterSql nothing.filter = [] ∧
    ids nothing = .ok [] ∧
    ids (nothing.rename "n") = .ok [some (.int 1), some (.int 2), some (.int 3), some (.int 4)] ∧
    ids below = .ok [] ∧
    ids (below.rename "n") = .ok [some (.int 1), some (.int 2), some (.int 3), some (.int 4)] := by
  refine ⟨rfl, ?_, ?_, ?_, ?_⟩ <;> cbv

end Sample

end Relata
