import Relata.Proofs.Expr.Refined
import Relata.Proofs.Sql.Shown

/-!
What a text means. Neither what a text leaves out of a condition nor what is left out in its normal form has a
say in the value. So clear conditions with one text have one value wherever they have one: the text says which
rows a condition selects.
-/

namespace Relata

namespace Expr

variable {env : Env}

theorem evalAll_conjuncts (e : Expr) : evalAll env e.conjuncts = e.truth env := by
  cases e with
  | and operands => exact (truth_and operands).symm
  | or | compare | column | grouping | inList | isNull | not | const => exact evalAll_singleton _

theorem evalAny_disjuncts (e : Expr) : evalAny env e.disjuncts = e.truth env := by
  cases e with
  | or operands => exact (truth_or operands).symm
  | and | compare | column | grouping | inList | isNull | not | const => exact evalAny_singleton _

theorem evalAll_asParts (e s : Expr) : evalAll env (e.asParts s) = s.truth env := by
  rw [asParts]
  split
  · exact evalAll_singleton _
  · exact evalAll_conjuncts s

/-- The normal form has the value of the expression. -/
theorem normal_refined (e : Expr) : Refined env e e.normal := by
  induction e using Expr.induction with
  | and operands ih =>
      rw [normal, normals_eq_map, List.flatMap_map]
      exact .and_flatMap ih fun e _ => evalAll_conjuncts e.normal
  | or operands ih =>
      rw [normal, normals_eq_map, List.flatMap_map]
      exact .or_flatMap ih fun e _ => evalAny_disjuncts e.normal
  | compare op lhs rhs left right => exact .compare op left right
  | column c => exact .refl _
  | grouping e ih => exact ih
  | inList e items ih each =>
      rw [normal]
      split
      · rename_i none
        rw [List.isEmpty_iff.mp none]
        exact .inList_nil e
      · rw [normals_eq_map]
        exact .inList ih (Refined.map each)
  | isNull negated e ih => exact .isNull negated ih
  | not e ih => exact .not ih
  | const v => exact .refl _

theorem ofParts_and (es : List Expr) : Refined env (.and es) (ofParts .and true es) := by
  rcases es with _ | ⟨e, _ | ⟨next, others⟩⟩
  · exact .refl _
  · exact .and_singleton e
  · exact .refl _

theorem ofParts_or (es : List Expr) : Refined env (.or es) (ofParts .or false es) := by
  rcases es with _ | ⟨e, _ | ⟨next, others⟩⟩
  · exact .refl _
  · exact .or_singleton e
  · exact .refl _

/-- What is shown of an expression has its value. -/
theorem shown_refined (e : Expr) : Refined env e e.shown := by
  induction e using Expr.induction with
  | and operands ih =>
      rw [shown, shownParts_eq_flatMap]
      exact .trans (.and_flatMap ih fun e _ => evalAll_asParts e e.shown) (ofParts_and _)
  | or operands ih =>
      rw [shown, shownAll_eq_map]
      exact .trans (.or (Refined.map ih)) (ofParts_or _)
  | compare op lhs rhs left right => exact .compare op left right
  | column c => exact .refl _
  | grouping e ih => exact ih
  | inList e items ih each =>
      rw [shown]
      split
      · rename_i none
        rw [List.isEmpty_iff.mp none]
        exact .inList_nil e
      · rw [shownAll_eq_map]
        exact .inList ih (Refined.map each)
  | isNull negated e ih => exact .isNull negated ih
  | not e ih =>
      have operand : Refined env e (e.asOperand e.shown) := by
        rw [asOperand]
        split
        · exact ih
        · exact ih
      exact .not operand
  | const v => exact .refl _

/-- A column is looked up by the name that its table is read by, whatever that table is. -/
theorem derived_refined (e : Expr) : Refined env e (e.within .derived) := by
  induction e using Expr.induction with
  | and operands ih =>
      rw [within, withinAll_eq_map]
      exact .and (Refined.map ih)
  | or operands ih =>
      rw [within, withinAll_eq_map]
      exact .or (Refined.map ih)
  | compare op lhs rhs left right => exact .compare op left right
  | column c =>
      have same : env.value (c.rebind (.derived c.table.qualifier)) = env.value c := by
        induction env with
        | nil => rfl
        | cons frame outer ih =>
            rw [Env.value, Env.value, ih]
            rfl
      intro v computed
      rw [within, eval, same]
      exact computed
  | grouping e ih => exact ih
  | inList e items ih each =>
      rw [within, withinAll_eq_map]
      exact .inList ih (Refined.map each)
  | isNull negated e ih => exact .isNull negated ih
  | not e ih => exact .not ih
  | const v => exact .refl _

/-- What is read of the text of a clear expression has the value of the expression. -/
theorem Clear.reads {e : Expr} (clear : e.Clear) (env : Env) :
    ∃ read, (readExpr .derived [] e.sql.inline).map normal = some read ∧ Refined env e read := by
  obtain ⟨legible, text⟩ := clear.shows
  refine ⟨(e.shown.within .derived).normal, ?_, ?_⟩
  · rw [← text]
    exact legible.readExpr_of_spells e.shown.sql.spells_inline
  · exact .trans (shown_refined e) (.trans (derived_refined e.shown) (normal_refined _))

/-- Clear expressions with one text have one value in every environment in which both have one. -/
theorem same_text_same_value {e e' : Expr} (clear : e.Clear) (clear' : e'.Clear)
    (same : e.sql.inline = e'.sql.inline) {v v' : Value} (computed : e.eval env = .ok v)
    (computed' : e'.eval env = .ok v') : v = v' := by
  obtain ⟨read, text, refined⟩ := clear.reads env
  obtain ⟨read', text', refined'⟩ := clear'.reads env
  rw [same, text'] at text
  cases text
  exact Except.ok.inj ((refined v computed).symm.trans (refined' v' computed'))

end Expr

namespace Sample

/-- A note in sight under its short name. -/
def sight : Env := [[⟨⟨"n", ["rank", "title"]⟩, [.int 7, .text "a"]⟩]]

def bareColumn (name : String) : Expr := .column ((TableRef.derived "n").column name)

/-- `"n"."rank" >= 0 AND "n"."title" IS NOT NULL AND NOT ("n"."rank" < 5 OR FALSE)`. -/
def nested : Expr :=
  .or [.and [
    .or [.and [.compare .ge (noteColumn "rank") (.const (.int 0)), .isNull true (noteColumn "title")]],
    .not (.or [.compare .lt (noteColumn "rank") (.const (.int 5)), .inList (noteColumn "title") []])]]

/-- The same text without junctions of one operand, and with the parentheses as a part of the condition. -/
def flat : Expr :=
  .and [.compare .ge (bareColumn "rank") (.const (.int 0)), .isNull true (bareColumn "title"),
    .not (.grouping (.or [.compare .lt (bareColumn "rank") (.const (.int 5)), .const (.bool false)]))]

theorem nested_clear : nested.Clear := by
  have both : ∀ {P : Expr → Prop} {a b : Expr}, P a → P b → ∀ e ∈ [a, b], P e := fun first second =>
    List.forall_mem_cons.mpr ⟨first, List.forall_mem_singleton.mpr second⟩
  refine .or (List.forall_mem_singleton.mpr (.and (both ?_ ?_) fun _ => both nofun nofun))
  · refine .or (List.forall_mem_singleton.mpr (.and (both ?_ ?_) fun _ => both nofun nofun))
    · exact .compare rfl rfl (.column _) (.const _)
    · exact .isNull rfl (.column _)
  · refine .not (.or (both ?_ (.nowhere _))) fun _ => rfl
    exact .compare rfl rfl (.column _) (.const _)

theorem flat_clear : flat.Clear := by
  refine .and ?_ fun _ => ?_
  · refine List.forall_mem_cons.mpr ⟨.compare rfl rfl (.column _) (.const _), ?_⟩
    refine List.forall_mem_cons.mpr ⟨.isNull rfl (.column _), List.forall_mem_singleton.mpr ?_⟩
    refine .not (.grouping (.or (List.forall_mem_cons.mpr ⟨?_, ?_⟩))) nofun
    · exact .compare rfl rfl (.column _) (.const _)
    · exact List.forall_mem_singleton.mpr (.const _)
  · simp [Expr.shown]

theorem same_text_same_value_notes : nested.sql.inline = flat.sql.inline ∧
    ∃ v v', nested.eval sight = .ok v ∧ flat.eval sight = .ok v' ∧ v = v' := by
  have same : nested.sql.inline = flat.sql.inline := by cbv
  have computed : nested.eval sight = .ok (.bool true) := by cbv
  have computed' : flat.eval sight = .ok (.bool true) := by cbv
  exact ⟨same, _, _, computed, computed',
    Expr.same_text_same_value nested_clear flat_clear same computed computed'⟩

end Sample

/-!
Where an expression is not clear, its text may be that of another.
-/

namespace Collision

def holds : Expr := .const (.bool true)

def fails : Expr := .const (.bool false)

def unknown : Expr := .const .null

/-- Both have one text and each its own value. -/
def Collide (e e' : Expr) : Prop := e.sql.inline = e'.sql.inline ∧
  ∃ v v', e.eval [] = .ok v ∧ e'.eval [] = .ok v' ∧ v ≠ v'

/-- Comparisons, tests for nulls and lists next to comparisons, a comparison next to NOT, and disjunctions of
one operand below AND and below NOT. -/
theorem same_text_other_value :
    Collide (.compare .lt (.compare .lt holds fails) holds) (.compare .lt holds (.compare .lt fails holds)) ∧
    Collide (.isNull false (.compare .lt holds unknown)) (.compare .lt holds (.isNull false unknown)) ∧
    Collide (.inList (.compare .lt holds fails) [fails]) (.compare .lt holds (.inList fails [fails])) ∧
    Collide (.compare .lt (.not holds) fails) (.not (.compare .lt holds fails)) ∧
    Collide (.and [.or [.or [holds, holds]], fails]) (.or [holds, .and [holds, fails]]) ∧
    Collide (.not (.or [.or [holds, holds]])) (.or [.not holds, holds]) := by
  refine ⟨?_, ?_, ?_, ?_, ?_, ?_⟩
  all_goals exact ⟨by cbv, _, _, rfl, rfl, by decide⟩

end Collision

end Relata
