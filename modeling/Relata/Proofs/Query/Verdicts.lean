import Mathlib.Data.List.Permutation
import Relata.Proofs.Expr.Kleene
import Relata.Proofs.Query.Sources
import Relata.Proofs.Session.Reached

/-!
Verdicts of a condition. A condition holds for a row, or it fails, or it is unknown; itself, its negation and the
test whether it is null each keep the rows of one verdict. So the three split the rows of a query, whatever the
condition is made of.
-/

namespace Relata

/-- The condition that keeps what another one gives this verdict. -/
def Truth.asks : Truth → Expr → Expr
  | some true, condition => condition
  | some false, condition => condition.not
  | none, condition => .isNull false condition

/-- The items of this verdict, in their order; each item has the verdict at its place. -/
def ofVerdict {α : Type} (verdicts : List Truth) (verdict : Truth) (items : List α) : List α :=
  ((items.zip verdicts).filter fun pair => pair.2 = verdict).map Prod.fst

section Verdicts

variable {α β : Type} {verdicts : List Truth} {items : List α}

theorem ofVerdict_map (f : α → β) (of : α → Truth) (verdict : Truth) (items : List α) :
    ofVerdict (items.map of) verdict (items.map f) =
      (items.filter fun a => of a = verdict).map f := by
  rw [ofVerdict, List.zip_map', List.filter_map, List.map_map]
  rfl

theorem ofVerdict_sublist (width : items.length ≤ verdicts.length) (verdict : Truth) :
    (ofVerdict verdicts verdict items).Sublist items := by
  have places := (List.filter_sublist (p := fun pair => pair.2 = verdict)
    (l := items.zip verdicts)).map Prod.fst
  rwa [List.map_fst_zip width] at places

theorem perm_by_verdict (pairs : List (α × Truth)) :
    (pairs.filter (fun pair => pair.2 = some true) ++
      (pairs.filter (fun pair => pair.2 = some false) ++
        pairs.filter fun pair => pair.2 = none)).Perm pairs := by
  induction pairs with
  | nil => exact .nil
  | cons pair rest ih =>
      obtain ⟨a, _ | _ | _⟩ := pair
      · rw [← List.append_assoc] at ih
        simpa [← List.append_assoc] using List.perm_middle.trans (ih.cons (a, none))
      · simpa using List.perm_middle.trans (ih.cons (a, some false))
      · simpa using ih.cons (a, some true)

/-- Each item has one of the three verdicts. -/
theorem ofVerdict_perm (width : items.length ≤ verdicts.length) :
    (ofVerdict verdicts (some true) items ++
      (ofVerdict verdicts (some false) items ++ ofVerdict verdicts none items)).Perm items := by
  have places := (perm_by_verdict (items.zip verdicts)).map Prod.fst
  rwa [List.map_append, List.map_append, List.map_fst_zip width] at places

end Verdicts

theorem Truth.keeps_asks {env : Env} {condition : Expr} {t : Truth}
    (answered : condition.eval env = .ok t.value) (verdict : Truth) :
    (verdict.asks condition).keeps env = .ok (decide (t = verdict)) := by
  rcases verdict with _ | _ | _
  · rw [asks, Expr.keeps, Expr.eval, answered]
    rcases t with _ | _ | _ <;> rfl
  · have negated : condition.not.truth env = .ok t.not := by
      rw [Expr.truth_not, Expr.truth_eq_ok.mpr answered]
      rfl
    rw [asks, Expr.keeps_of_truth negated]
    rcases t with _ | _ | _ <;> rfl
  · rw [asks, Expr.keeps_of_truth (Expr.truth_eq_ok.mpr answered)]
    rcases t with _ | _ | _ <;> rfl

variable {db : Database} {outer : Env} {query : Query}

/-- Without an order and a limit a query computes its items for the rows that its filter keeps. -/
theorem Query.run_filtered (unordered : query.order = []) (unlimited : query.limit = none)
    (filter : Option Expr) :
    { query with filter }.run db outer false = (do
      let joined ← query.joined db outer
      let kept ← filterRows outer filter joined.rows
      project outer query.items ⟨joined.shapes, kept⟩) := by
  have sources : { query with filter }.joined db outer = query.joined db outer := rfl
  rw [Query.run_eq, sources]
  simp [unordered, unlimited, sortRows_nil, limitRows]

/-- A condition splits the rows of a query in three. Where it is true, false or unknown for each row that the
sources of the query have together, and the query without a filter has an answer, that answer has one row for each
of them; the query under the condition, under its negation and under the test whether it is null each answer the
rows of one verdict, in their order, and together each row once. -/
theorem Query.condition_splits (db : Database) (outer : Env) (query : Query) (condition : Expr)
    (unordered : query.order = []) (unlimited : query.limit = none) {whole : Rowset}
    (answered : { query with filter := none }.run db outer false = .ok whole)
    (decided : ∀ joined, query.joined db outer = .ok joined → ∀ row ∈ joined.rows,
      ∃ t : Truth, condition.eval (row :: outer) = .ok t.value) :
    ∃ joined verdicts, query.joined db outer = .ok joined ∧
      List.Forall₂ (fun row t => condition.eval (row :: outer) = .ok t.value) joined.rows verdicts ∧
      verdicts.length = whole.rows.length ∧
      (∀ verdict : Truth, { query with filter := some (verdict.asks condition) }.run db outer false =
        .ok ⟨whole.columns, ofVerdict verdicts verdict whole.rows⟩) ∧
      (∀ verdict, (ofVerdict verdicts verdict whole.rows).Sublist whole.rows) ∧
      (ofVerdict verdicts (some true) whole.rows ++ (ofVerdict verdicts (some false) whole.rows ++
        ofVerdict verdicts none whole.rows)).Perm whole.rows := by
  rw [Query.run_filtered unordered unlimited] at answered
  obtain ⟨joined, extended, answered⟩ := bind_eq_ok.mp answered
  obtain ⟨values, rows, parts⟩ := exists_project answered
  let verdict (row : Frame) : Truth := ((condition.truth (row :: outer)).toOption).getD none
  have truth : ∀ row ∈ joined.rows, condition.eval (row :: outer) = .ok (verdict row).value := by
    intro row member
    obtain ⟨t, evaluated⟩ := decided joined extended row member
    have same : verdict row = t := by
      simp [verdict, Expr.truth_eq_ok.mpr evaluated, Except.toOption]
    rw [same, evaluated]
  have width : whole.rows.length ≤ (joined.rows.map verdict).length := by simp [rows]
  refine ⟨joined, joined.rows.map verdict, extended, ?_, by simp [rows], fun asked => ?_,
    ofVerdict_sublist width, ofVerdict_perm width⟩
  · exact List.forall₂_map_right_iff.mpr (List.forall₂_same.mpr truth)
  · have kept : filterRows outer (some (asked.asks condition)) joined.rows =
        .ok (joined.rows.filter fun row => verdict row = asked) :=
      keepRows_eq_ok fun row member => Truth.keeps_asks (truth row member) asked
    rw [Query.run_filtered unordered unlimited, extended, ok_bind, kept, ok_bind, rows, ofVerdict_map]
    exact parts _ fun row member => (List.mem_filter.mp member).1

namespace Sample

/-- Notes, each next to its owner or next to nulls. -/
def notesBesideOwners : Query :=
  { note.all.query with
    items := [.expr (note.all.column "id")]
    joins := [⟨.left, .table owner.ref, .compare .eq (note.all.column "owner_code") (owner.all.column "code")⟩] }

/-- `"owners"."id" = 1 AND "notes"."body" > 'a'`. -/
def firstsLater : Expr :=
  .and [.compare .eq (owner.all.column "id") (.const (.int 1)),
    .compare .gt (note.all.column "body") (.const (.text "a"))]

def notesBesideOwnersRead : Joined :=
  let notes : Shape := ⟨"notes", ["id", "owner_code", "body"]⟩
  let owners : Shape := ⟨"owners", ["id", "code"]⟩
  ⟨[notes, owners], [
    [⟨notes, [.int 1, .int 7, .text "a"]⟩, ⟨owners, [.int 1, .int 7]⟩],
    [⟨notes, [.int 2, .int 8, .text "b"]⟩, ⟨owners, [.int 3, .int 8]⟩],
    [⟨notes, [.int 3, .int 7, .text "c"]⟩, ⟨owners, [.int 1, .int 7]⟩],
    [⟨notes, [.int 4, .null, .null]⟩, ⟨owners, [.null, .null]⟩]]⟩

/-- Of the note without an owner it is unknown who its owner is. -/
theorem condition_splits_notes :
    let under (condition : Expr) := { notesBesideOwners with filter := some condition }.answer engine.store.database
    notesBesideOwners.answer engine.store.database = .ok ⟨["id"], [[.int 1], [.int 2], [.int 3], [.int 4]]⟩ ∧
    under firstsLater = .ok ⟨["id"], [[.int 3]]⟩ ∧
    under firstsLater.not = .ok ⟨["id"], [[.int 1], [.int 2]]⟩ ∧
    under (.isNull false firstsLater) = .ok ⟨["id"], [[.int 4]]⟩ := by
  have whole : notesBesideOwners.answer engine.store.database =
      .ok ⟨["id"], [[.int 1], [.int 2], [.int 3], [.int 4]]⟩ := by cbv
  have read : notesBesideOwners.joined engine.store.database [] = .ok notesBesideOwnersRead := by cbv
  have expected : List.Forall₂ (fun row t => firstsLater.eval [row] = .ok (Truth.value t))
      notesBesideOwnersRead.rows [some false, some false, some true, none] :=
    .cons (by cbv) (.cons (by cbv) (.cons (by cbv) (.cons (by cbv) .nil)))
  have decided : ∀ joined, notesBesideOwners.joined engine.store.database [] = .ok joined →
      ∀ row ∈ joined.rows, ∃ t : Truth, firstsLater.eval [row] = .ok t.value := by
    intro joined again row member
    cases read.symm.trans again
    obtain ⟨t, _, evaluated⟩ := exists_of_mem_forall₂ expected.flip member
    exact ⟨t, evaluated⟩
  obtain ⟨joined, verdicts, again, each, _, answers, _⟩ := Query.condition_splits engine.store.database []
    notesBesideOwners firstsLater rfl rfl whole decided
  cases read.symm.trans again
  have same : List.Forall₂ Eq verdicts [some false, some false, some true, none] :=
    forall₂_of_common (fun _ _ _ first second =>
      Truth.value_injective (Except.ok.inj (first.symm.trans second))) each expected
  rw [List.forall₂_eq_eq_eq] at same
  subst same
  exact ⟨whole, answers (some true), answers (some false), answers none⟩

end Sample

end Relata
