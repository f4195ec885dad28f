import Mathlib.Data.List.MinMax
import Relata.Proofs.Expr.Met
import Relata.Proofs.Expr.Refined

/-!
AND and OR as one pair of connectives. False lies below unknown and unknown below true; AND is the least of its
operands and OR the greatest. Negation turns the one into the other, failures included. What the operands are
worth together depends on neither their grouping nor, where none of them fails, on their order and on how often
each of them is there.
-/

namespace Relata

namespace Truth

/-- False lies below unknown and unknown below true. -/
def rank : Truth → Nat
  | some false => 0
  | none => 1
  | some true => 2

@[simp] theorem or_false (t : Truth) : t.or (some false) = t := by
  rw [or_comm, false_or]

theorem value_injective {t u : Truth} (same : t.value = u.value) : t = u := by
  have truths : Value.truth t.value = Value.truth u.value := congrArg _ same
  simpa using truths

end Truth

@[simp] theorem eitherTruth_ok (t u : Truth) : eitherTruth (.ok t) (.ok u) = .ok (t.or u) := by
  by_cases decided : t = some true
  · rw [decided]
    rfl
  · simp only [eitherTruth, ok_bind, if_neg decided]
    rfl

/-- What puts conditions together. -/
inductive Connective
  | and
  | or
  deriving DecidableEq

namespace Connective

def dual : Connective → Connective
  | .and => .or
  | .or => .and

/-- The operands put together. -/
def expr : Connective → List Expr → Expr
  | .and => .and
  | .or => .or

/-- How the operands decide. -/
def junction : Connective → Junction
  | .and => .all
  | .or => .any

/-- The answer of two conditions. The second is not asked for where the first decides. -/
def answer : Connective → Except Fault Truth → Except Fault Truth → Except Fault Truth
  | .and => bothTruths
  | .or => eitherTruth

/-- What operands of these truth values are worth together. -/
def worth (c : Connective) (truths : List Truth) : Truth :=
  truths.foldr c.junction.join c.junction.neutral

/-- The expression has the operands, in their order, under the connective in some grouping. -/
inductive Groups (c : Connective) : List Expr → Expr → Prop
  | operand (e : Expr) : Groups c [e] e
  | parentheses {es : List Expr} {e : Expr} (inner : Groups c es e) : Groups c es (.grouping e)
  | none : Groups c [] (c.expr [])
  | more {es others parts : List Expr} {part : Expr} (first : Groups c es part)
    (rest : Groups c others (c.expr parts)) : Groups c (es ++ others) (c.expr (part :: parts))

section Values

variable (c : Connective) (t u w : Truth)

theorem join_comm : c.junction.join t u = c.junction.join u t := by
  cases c with
  | and => exact Truth.and_comm t u
  | or => exact Truth.or_comm t u

theorem join_assoc : c.junction.join (c.junction.join t u) w = c.junction.join t (c.junction.join u w) := by
  cases c with
  | and => exact Truth.and_assoc t u w
  | or => rcases t with _ | _ | _ <;> rcases u with _ | _ | _ <;> rcases w with _ | _ | _ <;> rfl

@[simp] theorem join_self : c.junction.join t t = t := by
  cases c <;> rcases t with _ | _ | _ <;> rfl

@[simp] theorem join_neutral : c.junction.join t c.junction.neutral = t := by
  cases c with
  | and => exact Truth.and_true t
  | or => exact Truth.or_false t

@[simp] theorem answer_ok : c.answer (.ok t) (.ok u) = .ok (c.junction.join t u) := by
  cases c with
  | and => exact bothTruths_ok t u
  | or => exact eitherTruth_ok t u

variable {c t u w} {ts us : List Truth}

@[simp] theorem worth_nil : c.worth [] = c.junction.neutral := rfl

theorem worth_cons (t : Truth) (us : List Truth) :
    c.worth (t :: us) = c.junction.join t (c.worth us) := rfl

/-- An operand that is there already adds nothing. -/
theorem join_worth (member : t ∈ us) : c.junction.join t (c.worth us) = c.worth us := by
  induction us with
  | nil => cases member
  | cons u rest ih =>
      rw [worth_cons, ← join_assoc]
      rcases List.mem_cons.mp member with rfl | later
      · rw [join_self]
      · rw [join_comm c t u, join_assoc, ih later]

theorem join_worth_of_subset (subset : ∀ t ∈ ts, t ∈ us) :
    c.junction.join (c.worth ts) (c.worth us) = c.worth us := by
  induction ts with
  | nil => rw [worth_nil, join_comm, join_neutral]
  | cons t rest ih =>
      rw [worth_cons, join_assoc,
        ih fun u member => subset u (List.mem_cons_of_mem _ member),
        join_worth (subset t List.mem_cons_self)]

/-- Only which operands there are counts. -/
theorem worth_congr (same : ∀ t, t ∈ ts ↔ t ∈ us) : c.worth ts = c.worth us := by
  rw [← join_worth_of_subset fun t member => (same t).mpr member, join_comm,
    join_worth_of_subset fun t member => (same t).mp member]

/-- One decisive operand decides, and nothing else does. -/
theorem worth_eq_decisive : c.worth us = c.junction.decisive ↔ c.junction.decisive ∈ us := by
  induction us with
  | nil => simpa using c.junction.undecided
  | cons u rest ih =>
      rw [worth_cons, c.junction.join_eq, ih, List.mem_cons, eq_comm]

theorem worth_and (ts : List Truth) :
    Connective.and.worth ts = (ts.argmin Truth.rank).getD (some true) := by
  induction ts with
  | nil => rfl
  | cons t rest ih =>
      rw [worth_cons, ih, List.argmin_cons]
      cases rest.argmin Truth.rank with
      | none => exact Truth.and_true t
      | some u => rcases t with _ | _ | _ <;> rcases u with _ | _ | _ <;> rfl

theorem worth_or (ts : List Truth) :
    Connective.or.worth ts = (ts.argmax Truth.rank).getD (some false) := by
  induction ts with
  | nil => rfl
  | cons t rest ih =>
      rw [worth_cons, ih, List.argmax_cons]
      cases rest.argmax Truth.rank with
      | none => exact Truth.or_false t
      | some u => rcases t with _ | _ | _ <;> rcases u with _ | _ | _ <;> rfl

end Values

section Operands

variable {c : Connective} {env : Env} {es others : List Expr} {e : Expr}

theorem truth_nil : (c.expr []).truth env = .ok c.junction.neutral := by
  cases c <;> rfl

theorem truth_cons (e : Expr) (rest : List Expr) :
    (c.expr (e :: rest)).truth env = c.answer (e.truth env) ((c.expr rest).truth env) := by
  cases c with
  | and => simp only [expr, answer, Expr.truth_and, evalAll_cons]
  | or => simp only [expr, answer, Expr.truth_or, evalAny_cons]

theorem truth_append (es others : List Expr) :
    (c.expr (es ++ others)).truth env =
      c.answer ((c.expr es).truth env) ((c.expr others).truth env) := by
  cases c with
  | and => simp only [expr, answer, Expr.truth_and, evalAll_append]
  | or => simp only [expr, answer, Expr.truth_or, evalAny_append]

theorem truth_singleton (e : Expr) : (c.expr [e]).truth env = e.truth env := by
  cases c with
  | and => rw [expr, Expr.truth_and, evalAll_singleton]
  | or => rw [expr, Expr.truth_or, evalAny_singleton]

/-- Negation passes through a connective to its operands, and the connective becomes the other one. -/
theorem not_answer (c : Connective) (first second : Except Fault Truth) :
    Truth.not <$> c.answer first second =
      c.dual.answer (Truth.not <$> first) (Truth.not <$> second) := by
  cases c with
  | and => exact not_bothTruths first second
  | or =>
      have back := not_bothTruths (Truth.not <$> first) (Truth.not <$> second)
      rw [map_not_not, map_not_not] at back
      rw [answer, ← back, map_not_not]
      rfl

theorem truth_not (c : Connective) (es : List Expr) :
    (c.expr es).not.truth env = (c.dual.expr (es.map Expr.not)).truth env := by
  induction es with
  | nil => cases c <;> rfl
  | cons e rest ih =>
      rw [Expr.truth_not] at ih ⊢
      rw [truth_cons, not_answer, ih, List.map_cons, truth_cons, Expr.truth_not]

/-- Operands are worth together what their truth values are. -/
theorem truth_map {α : Type} {items : List α} {f : α → Expr} {verdict : α → Truth}
    (each : ∀ a ∈ items, (f a).truth env = .ok (verdict a)) :
    (c.expr (items.map f)).truth env = .ok (c.worth (items.map verdict)) := by
  induction items with
  | nil => exact truth_nil
  | cons a rest ih =>
      rw [List.map_cons, truth_cons, each a List.mem_cons_self,
        ih fun other member => each other (List.mem_cons_of_mem _ member), answer_ok]
      rfl

theorem truth_of_each {verdict : Expr → Truth} (each : ∀ e ∈ es, e.truth env = .ok (verdict e)) :
    (c.expr es).truth env = .ok (c.worth (es.map verdict)) := by
  simpa using truth_map (c := c) (f := id) each

/-- Whatever the grouping, the operands are worth the same, and where one fails, so does the whole. -/
theorem Groups.truth_eq (grouped : c.Groups es e) : e.truth env = (c.expr es).truth env := by
  induction grouped with
  | operand e => exact (truth_singleton e).symm
  | parentheses inner ih => exact ih
  | none => rfl
  | more first rest left right => rw [truth_cons, truth_append, left, right]

end Operands

end Connective

/-- What the expression gives, if it gives anything, is a truth value. -/
def Expr.IsCondition (env : Env) (e : Expr) : Prop :=
  ∀ v, e.eval env = .ok v → ∃ t : Truth, v = t.value

namespace Expr

variable {env : Env} {e other : Expr}

theorem IsCondition.eval_eq (condition : e.IsCondition env) :
    e.eval env = Truth.value <$> e.truth env := by
  rw [truth]
  cases evaluated : e.eval env with
  | error fault => rfl
  | ok v =>
      obtain ⟨t, rfl⟩ := condition v evaluated
      rw [ok_bind, Value.truth_value]
      rfl

theorem isCondition_of_eval (answer : Except Fault Truth) (same : e.eval env = Truth.value <$> answer) :
    e.IsCondition env := by
  intro v evaluated
  rw [same] at evaluated
  cases answer with
  | error fault => cases evaluated
  | ok t =>
      cases evaluated
      exact ⟨t, rfl⟩

theorem isCondition_expr (c : Connective) (operands : List Expr) :
    (c.expr operands).IsCondition env := by
  cases c with
  | and => exact isCondition_of_eval (evalAll env operands) (by rw [Connective.expr, eval]; rfl)
  | or => exact isCondition_of_eval (evalAny env operands) (by rw [Connective.expr, eval]; rfl)

theorem isCondition_not (e : Expr) : e.not.IsCondition env := by
  refine isCondition_of_eval (Truth.not <$> e.truth env) ?_
  rw [eval, truth]
  cases e.eval env with
  | error fault => rfl
  | ok v => cases v <;> rfl

theorem isCondition_compare (op : Comparison) (lhs rhs : Expr) : (Expr.compare op lhs rhs).IsCondition env := by
  intro v evaluated
  rw [eval] at evaluated
  obtain ⟨left, _, evaluated⟩ := bind_eq_ok.mp evaluated
  obtain ⟨right, _, evaluated⟩ := bind_eq_ok.mp evaluated
  obtain ⟨t, _, evaluated⟩ := bind_eq_ok.mp evaluated
  exact ⟨t, (pure_eq_ok.mp evaluated).symm⟩

theorem isCondition_inList (e : Expr) (items : List Expr) : (Expr.inList e items).IsCondition env := by
  intro v evaluated
  rw [eval] at evaluated
  obtain ⟨sought, _, evaluated⟩ := bind_eq_ok.mp evaluated
  split at evaluated
  · have value := (pure_eq_ok.mp evaluated).symm
    split at value
    · exact ⟨some false, value⟩
    · exact ⟨none, value⟩
  · obtain ⟨t, _, evaluated⟩ := bind_eq_ok.mp evaluated
    exact ⟨t, (pure_eq_ok.mp evaluated).symm⟩

theorem isCondition_isNull (negated : Bool) (e : Expr) : (Expr.isNull negated e).IsCondition env := by
  intro v evaluated
  rw [eval] at evaluated
  obtain ⟨tested, _, evaluated⟩ := bind_eq_ok.mp evaluated
  exact ⟨some (tested.isNull != negated), (pure_eq_ok.mp evaluated).symm⟩

/-- AND and OR are Kleene's connectives. Negation turns each into the other, answer for answer and failure for
failure. Of operands that all have truth values AND is the least and OR the greatest, so it only counts which
operands there are: not their order, not how often one of them is there, not how they are grouped. -/
theorem junctions_kleene (env : Env) (operands : List Expr) :
    (Expr.and operands).not.eval env = (Expr.or (operands.map .not)).eval env ∧
    (Expr.or operands).not.eval env = (Expr.and (operands.map .not)).eval env ∧
    ∀ verdict : Expr → Truth, (∀ e ∈ operands, e.eval env = .ok (verdict e).value) →
      (Expr.and operands).eval env =
        .ok (((operands.map verdict).argmin Truth.rank).getD (some true)).value ∧
      (Expr.or operands).eval env =
        .ok (((operands.map verdict).argmax Truth.rank).getD (some false)).value ∧
      ∀ (c : Connective) (others : List Expr) (grouped : Expr), (∀ e, e ∈ others ↔ e ∈ operands) →
        c.Groups others grouped → grouped.eval env = (c.expr operands).eval env := by
  have duals : ∀ c : Connective,
      (c.expr operands).not.eval env = (c.dual.expr (operands.map .not)).eval env := by
    intro c
    rw [(isCondition_not _).eval_eq, (isCondition_expr _ _).eval_eq, c.truth_not]
  refine ⟨duals .and, duals .or, fun verdict decided => ?_⟩
  have each : ∀ e ∈ operands, e.truth env = .ok (verdict e) :=
    fun e member => truth_eq_ok.mpr (decided e member)
  have worth : ∀ c : Connective,
      (c.expr operands).eval env = .ok (c.worth (operands.map verdict)).value :=
    fun c => truth_eq_ok.mp (Connective.truth_of_each each)
  refine ⟨?_, ?_, fun c others grouped same groups => ?_⟩
  · rw [← Connective.worth_and]
    exact worth .and
  · rw [← Connective.worth_or]
    exact worth .or
  · have given : ∀ e ∈ others, e.truth env = .ok (verdict e) :=
      fun e member => each e ((same e).mp member)
    have verdicts : ∀ t, t ∈ others.map verdict ↔ t ∈ operands.map verdict := by simp [same]
    rw [worth, ← Connective.worth_congr verdicts, ← truth_eq_ok, groups.truth_eq]
    exact Connective.truth_of_each given

end Expr

namespace Sample

/-- The fourth note, of which the owner is not known. -/
def ownerless : Env := [[⟨⟨"notes", ["id", "owner_code"]⟩, [.int 4, .null]⟩]]

/-- `"notes"."owner_code" = 7`. -/
def ofSeven : Expr := .compare .eq (.column ⟨.table "notes" none, "owner_code"⟩) (.const (.int 7))

/-- `"notes"."id" = 4`. -/
def isFourth : Expr := .compare .eq (.column ⟨.table "notes" none, "id"⟩) (.const (.int 4))

/-- Unknown and true are unknown together, and so they are the other way around, with parentheses and with one of
them twice. -/
theorem junctions_kleene_ownerless :
    (Expr.and [ofSeven, isFourth]).eval ownerless = .ok .null ∧
    (Expr.or [ofSeven, isFourth]).eval ownerless = .ok (.bool true) ∧
    (Expr.or [ofSeven.not, isFourth.not]).eval ownerless = .ok .null ∧
    (Expr.and [isFourth, .grouping (.and [ofSeven, isFourth])]).eval ownerless = .ok .null := by
  let verdict : Expr → Truth := fun e => (e.truth ownerless).toOption.getD none
  obtain ⟨dual, _, values⟩ := Expr.junctions_kleene ownerless [ofSeven, isFourth]
  obtain ⟨least, greatest, regrouped⟩ := values verdict (by
    intro e member
    rcases List.mem_cons.mp member with rfl | member
    · cbv
    · rw [List.mem_singleton.mp member]
      cbv)
  have inner : Connective.and.Groups [ofSeven, isFourth] (.and [ofSeven, isFourth]) :=
    .more (.operand _) (.more (.operand _) .none)
  have both : Connective.and.Groups [isFourth, ofSeven, isFourth]
      (.and [isFourth, .grouping (.and [ofSeven, isFourth])]) := by
    have grouped := Connective.Groups.more (.operand isFourth) (.more inner.parentheses .none)
    exact grouped
  have unknown : (Expr.and [ofSeven, isFourth]).eval ownerless = .ok .null := least
  refine ⟨unknown, greatest, ?_, ?_⟩
  · refine dual.symm.trans ?_
    rw [Expr.eval, unknown]
    rfl
  · exact (regrouped .and _ _ (by simp [or_comm]) both).trans unknown

end Sample

end Relata
