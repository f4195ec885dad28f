import Relata.Proofs.Expr.Kleene
import Relata.Proofs.Session.Reached
import Relata.Relation.Refine

/-!
Conditions put onto a relation one after the other. A filter is kept flat: conjunctions and disjunctions take further
operands, a constant true is left out of a conjunction, and an alternative to all conditions so far is put in
parentheses. None of this changes what the filter says, which is what the conditions say in their order.
-/

namespace Relata

theorem Expr.disj_eq_or (lhs rhs : Expr) : ∃ operands, lhs.disj rhs = .or operands := by
  unfold Expr.disj
  split <;> exact ⟨_, rfl⟩

/-- Of two alternatives the second is asked for where the first is not true. -/
theorem Expr.truth_disj {env : Env} (lhs rhs : Expr) :
    (lhs.disj rhs).truth env = eitherTruth (lhs.truth env) (rhs.truth env) := by
  unfold Expr.disj
  split
  · rw [truth_or, truth_or, truth_or, evalAny_append]
  · rw [truth_or, truth_or, evalAny_append, evalAny_singleton]
  · rw [truth_or, evalAny_cons, evalAny_singleton]

/-- The filter with one more condition. An alternative to the conditions so far is put in parentheses with them. -/
def Connective.onto : Connective → Option Expr → Expr → Expr
  | .and, filter, condition => addCondition filter condition
  | .or, some existing, condition => .grouping (existing.disj condition)
  | .or, none, condition => condition

/-- The condition that a step puts onto a relation that reads the table, and how. -/
def Step.condition? (ref : TableRef) : Step → Option (Connective × Expr)
  | .filter condition => some (.and, condition)
  | .or condition => some (.or, condition)
  | .whereEq column value =>
    if value.isNull then some (.and, .isNull false (.column (ref.column column)))
    else some (.and, .compare .eq (.column (ref.column column)) (.const value))
  | .whereIn column values => some (.and, .inList (.column (ref.column column)) (values.map .const))
  | .whereGt column value => some (.and, .compare .gt (.column (ref.column column)) (.const value))
  | .whereLt column value => some (.and, .compare .lt (.column (ref.column column)) (.const value))
  | .whereNull column => some (.and, .isNull false (.column (ref.column column)))
  | .whereNotNull column => some (.and, .isNull true (.column (ref.column column)))
  | _ => none

/-- What conditions come to that are read after others. -/
def foldConditions (env : Env) (before : Except Fault Truth) (links : List (Connective × Expr)) :
    Except Fault Truth :=
  links.foldl (fun before link => link.1.answer before (link.2.truth env)) before

/-- What conditions come to in their order: the first by itself, each further one together with all before it. -/
def meaningOf (env : Env) : List (Connective × Expr) → Option (Except Fault Truth)
  | [] => none
  | first :: links => some (foldConditions env (first.2.truth env) links)

section Filters

variable {env : Env} {c : Connective} {existing condition : Expr}

theorem Connective.truth_onto :
    (c.onto (some existing) condition).truth env =
      c.answer (existing.truth env) (condition.truth env) := by
  cases c with
  | and => exact Expr.truth_conj existing condition
  | or => exact Expr.truth_disj existing condition

theorem Connective.isCondition_onto (first : existing.IsCondition env)
    (second : condition.IsCondition env) : (c.onto (some existing) condition).IsCondition env := by
  cases c with
  | and =>
      rw [onto, addCondition]
      by_cases left : existing.isTrue = true
      · rwa [Expr.isTrue_iff.mp left, Expr.true_conj]
      by_cases right : condition.isTrue = true
      · rwa [Expr.isTrue_iff.mp right, Expr.conj_true]
      obtain ⟨operands, flat⟩ := existing.conj_eq_and condition left right
      rw [flat]
      exact Expr.isCondition_expr .and operands
  | or =>
      obtain ⟨operands, flat⟩ := existing.disj_eq_or condition
      rw [onto, flat]
      exact Expr.isCondition_expr .or operands

theorem Expr.IsCondition.keeps_eq (whole : condition.IsCondition env) :
    condition.keeps env = Truth.keeps <$> condition.truth env := by
  cases answered : condition.truth env with
  | ok t => exact Expr.keeps_of_truth answered
  | error fault =>
      rw [Expr.keeps, whole.eval_eq, answered]
      rfl

/-- What a step tests a column for is true, false or unknown, if it can be tested. Only what a step is given as it
stands may be something else. -/
theorem Step.isCondition {step : Step} {ref : TableRef} {link : Connective × Expr}
    (link_of : step.condition? ref = some link)
    (given : ∀ e, step = .filter e ∨ step = .or e → e.IsCondition env) : link.2.IsCondition env := by
  cases step with
  | filter condition =>
      cases link_of
      exact given _ (.inl rfl)
  | or condition =>
      cases link_of
      exact given _ (.inr rfl)
  | whereEq column value =>
      rw [condition?] at link_of
      split at link_of <;> cases link_of
      · exact Expr.isCondition_isNull _ _
      · exact Expr.isCondition_compare _ _ _
  | whereIn column values =>
      cases link_of
      exact Expr.isCondition_inList _ _
  | whereGt | whereLt =>
      cases link_of
      exact Expr.isCondition_compare _ _ _
  | whereNull | whereNotNull =>
      cases link_of
      exact Expr.isCondition_isNull _ _
  | orderBy | orderByAsc | orderByDesc | limit | select | join | fromDerived | withTable | unscopeSelect
  | unscopeWhere | unscopeOrder | unscopeLimit | rename => cases link_of

end Filters

namespace Relation

variable {relation : Relation} {step : Step} {steps : List Step} {links : List (Connective × Expr)}

theorem apply_condition {link : Connective × Expr}
    (condition : step.condition? relation.table = some link) :
    relation.apply step = { relation with filter := some (link.1.onto relation.filter link.2) } := by
  cases step with
  | whereEq column value =>
      rw [Step.condition?] at condition
      rw [apply, whereEq]
      split at condition <;> rename_i null <;> cases condition <;> simp only [null] <;> rfl
  | or condition =>
      cases condition
      rw [apply, orElse]
      cases relation.filter <;> rfl
  | filter | whereIn | whereGt | whereLt | whereNull | whereNotNull =>
      cases condition
      rfl
  | orderBy | orderByAsc | orderByDesc | limit | select | join | fromDerived | withTable | unscopeSelect
  | unscopeWhere | unscopeOrder | unscopeLimit | rename => cases condition

/-- Each further condition is put together with what those before it come to. -/
theorem refine_onto {ref : TableRef} {existing : Expr} (reads : relation.table = ref)
    (filtered : relation.filter = some existing)
    (conditions : List.Forall₂ (fun step link => step.condition? ref = some link) steps links) :
    ∃ predicate, relation.refine steps = { relation with filter := some predicate } ∧
      ∀ env, existing.IsCondition env → (∀ link ∈ links, link.2.IsCondition env) →
        predicate.IsCondition env ∧
          predicate.truth env = foldConditions env (existing.truth env) links := by
  induction conditions generalizing relation existing with
  | nil =>
      refine ⟨existing, ?_, fun env first _ => ⟨first, rfl⟩⟩
      rw [← filtered]
      rfl
  | @cons step link steps links condition _ ih =>
      have applied := apply_condition (reads ▸ condition)
      rw [filtered] at applied
      have table : (relation.apply step).table = ref := by rw [applied, reads]
      have filter : (relation.apply step).filter = some (link.1.onto (some existing) link.2) := by
        rw [applied]
      obtain ⟨predicate, refined, meaning⟩ := ih table filter
      refine ⟨predicate, ?_, fun env first each => ?_⟩
      · rw [applied] at refined
        rw [refine, List.foldl_cons, applied]
        exact refined
      · obtain ⟨second, others⟩ := List.forall_mem_cons.mp each
        obtain ⟨whole, truth⟩ := meaning env (Connective.isCondition_onto first second) others
        rw [Connective.truth_onto] at truth
        exact ⟨whole, truth⟩

/-- Conditions that steps put onto a relation without a filter come to what they are in their order: each is taken
together with all before it, by AND for a filter and by OR for an alternative, and it is not asked for where those
before it decide. Nothing but the filter of the relation changes. -/
theorem refine_folds_conditions (bare : relation.filter = none)
    (conditions : List.Forall₂ (fun step link => step.condition? relation.table = some link) steps links) :
    ∃ predicate : Option Expr, relation.refine steps = { relation with filter := predicate } ∧
      ∀ env, (∀ e, .filter e ∈ steps ∨ .or e ∈ steps → e.IsCondition env) →
        predicate.map (Expr.eval env) = (meaningOf env links).map (Functor.map Truth.value) ∧
        predicate.map (Expr.keeps env) = (meaningOf env links).map (Functor.map Truth.keeps) := by
  have whole : ∀ env, (∀ e, .filter e ∈ steps ∨ .or e ∈ steps → e.IsCondition env) →
      ∀ link ∈ links, link.2.IsCondition env := by
    intro env given link member
    obtain ⟨step, among, condition⟩ := exists_of_mem_forall₂ conditions member
    refine Step.isCondition condition fun e same => given e ?_
    rcases same with rfl | rfl
    · exact .inl among
    · exact .inr among
  cases conditions with
  | nil =>
      refine ⟨none, ?_, fun env _ => ⟨rfl, rfl⟩⟩
      rw [← bare]
      rfl
  | @cons step first steps links condition others =>
      have applied : relation.apply step = { relation with filter := some first.2 } := by
        rw [apply_condition condition, bare]
        cases first.1 <;> rfl
      have table : (relation.apply step).table = relation.table := by rw [applied]
      have filter : (relation.apply step).filter = some first.2 := by rw [applied]
      obtain ⟨predicate, refined, meaning⟩ := refine_onto table filter others
      refine ⟨some predicate, ?_, fun env given => ?_⟩
      · rw [applied] at refined
        rw [refine, List.foldl_cons, applied]
        exact refined
      · obtain ⟨head, tail⟩ := List.forall_mem_cons.mp (whole env given)
        obtain ⟨all, truth⟩ := meaning env head tail
        rw [Option.map_some, Option.map_some, all.eval_eq, all.keeps_eq, truth]
        exact ⟨rfl, rfl⟩

end Relation

namespace Sample

/-- `TRUE`, then the owner is seven, or the note is the fourth, or a column that is not there; then that column is
below one. -/
def missingLast : List Step :=
  [.filter (.const (.bool true)), .whereEq "owner_code" (.int 7), .or (.and [.grouping isFourth]),
    .or (.column ⟨.table "notes" none, "missing"⟩), .whereLt "missing" (.int 1)]

def missingLinks : List (Connective × Expr) :=
  let missing : Expr := .column ⟨.table "notes" none, "missing"⟩
  [(.and, .const (.bool true)), (.and, ofSeven), (.or, .and [.grouping isFourth]), (.or, missing),
    (.and, .compare .lt missing (.const (.int 1)))]

/-- The missing column is not asked for as an alternative to what is true. It is asked for afterwards. -/
theorem refine_folds_missing :
    ∃ predicate, note.all.refine missingLast = { note.all with filter := some predicate } ∧
      predicate.eval ownerless = .error (.unknownColumn "notes" "missing") := by
  have conditions : List.Forall₂ (fun step link => step.condition? note.all.table = some link)
      missingLast missingLinks :=
    .cons rfl (.cons rfl (.cons rfl (.cons rfl (.cons rfl .nil))))
  have given : ∀ e, .filter e ∈ missingLast ∨ .or e ∈ missingLast → e.IsCondition ownerless := by
    intro e raw
    have cases : e = .const (.bool true) ∨ e = .and [.grouping isFourth] ∨
        e = .column ⟨.table "notes" none, "missing"⟩ := by
      simpa [missingLast] using raw
    rcases cases with rfl | rfl | rfl
    · exact fun v evaluated => ⟨some true, (Except.ok.inj evaluated).symm⟩
    · exact Expr.isCondition_expr .and _
    · exact nofun
  obtain ⟨predicate, refined, meaning⟩ := Relation.refine_folds_conditions rfl conditions
  have value := (meaning ownerless given).1
  have expected : (meaningOf ownerless missingLinks).map (Functor.map Truth.value) =
      some (.error (.unknownColumn "notes" "missing")) := rfl
  obtain ⟨e, rfl, failed⟩ := Option.map_eq_some_iff.mp (value.trans expected)
  exact ⟨e, refined, failed⟩

end Sample

end Relata
