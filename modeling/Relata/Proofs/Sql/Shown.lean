import Relata.Proofs.Sql.ReadBack

/-!
What a text shows of a condition. A junction of one operand cannot be seen in the text, but the parentheses
that are written below AND and NOT can. Where a condition is clear, what is shown of it has its text and can
be read back.
-/

namespace Relata

namespace Sql

variable {separator : String}

theorem join_append {left right : List Sql} (first : left ≠ []) (second : right ≠ []) :
    join separator (left ++ right) = join separator left ++ .text separator :: join separator right := by
  induction left with
  | nil => exact absurd rfl first
  | cons part rest ih =>
      cases rest with
      | nil =>
          cases right with
          | nil => exact absurd rfl second
          | cons next others => rfl
      | cons next others =>
          have later := ih (List.cons_ne_nil _ _)
          simp only [List.cons_append, join] at later ⊢
          rw [later, List.append_assoc, List.cons_append]

/-- Parts that are joined by the separator themselves need not be joined first. -/
theorem join_flatMap {α : Type} {parts : α → List Sql} {items : List α}
    (some : ∀ a ∈ items, parts a ≠ []) :
    join separator (items.flatMap parts) =
      join separator (items.map fun a => join separator (parts a)) := by
  induction items with
  | nil => rfl
  | cons a rest ih =>
      have later := ih fun b member => some b (List.mem_cons_of_mem _ member)
      cases rest with
      | nil => rw [List.flatMap_singleton, List.map_singleton, join]
      | cons b others =>
          have more : (b :: others).flatMap parts ≠ [] := by
            rw [List.flatMap_cons]
            exact List.append_ne_nil_of_left_ne_nil (some b (by simp)) _
          rw [List.flatMap_cons, join_append (some a List.mem_cons_self) more, later]
          rfl

end Sql

namespace Expr

/-- What a junction shows of its parts: a constant if it has none, and no junction if it has one. -/
def ofParts (junction : List Expr → Expr) (empty : Bool) : List Expr → Expr
  | [] => .const (.bool empty)
  | es => joinedBy junction es

/-- What an operand of NOT shows: parentheses, if they are written. -/
def asOperand (e shown : Expr) : Expr := if e.isJunction then .grouping shown else shown

/-- The operands that an operand of AND shows. -/
def asParts (e shown : Expr) : List Expr := if e.isJunction then [.grouping shown] else shown.conjuncts

mutual

/-- What the text of an expression shows: the expression without junctions of one operand and with all its
parentheses. -/
def shown : Expr → Expr
  | .and operands => ofParts .and true (shownParts operands)
  | .or operands => ofParts .or false (shownAll operands)
  | .compare op lhs rhs => .compare op lhs.shown rhs.shown
  | .column c => .column c
  | .grouping e => .grouping e.shown
  | .inList e items =>
    if items.isEmpty then .const (.bool false) else .inList e.shown (shownAll items)
  | .isNull negated e => .isNull negated e.shown
  | .not e => .not (e.asOperand e.shown)
  | .const v => .const v

def shownAll : List Expr → List Expr
  | [] => []
  | e :: rest => e.shown :: shownAll rest

def shownParts : List Expr → List Expr
  | [] => []
  | e :: rest => e.asParts e.shown ++ shownParts rest

end

theorem shownAll_eq_map (es : List Expr) : shownAll es = es.map shown := by
  induction es with
  | nil => rfl
  | cons e rest ih => rw [shownAll, ih, List.map_cons]

theorem shownParts_eq_flatMap (es : List Expr) :
    shownParts es = es.flatMap fun e => e.asParts e.shown := by
  induction es with
  | nil => rfl
  | cons e rest ih => rw [shownParts, ih, List.flatMap_cons]

/-- The text of the expression shows how it is built: what is compared, tested for nulls or looked up in a
list is shown as a column, a constant or an expression in parentheses, and no junction is shown without
parentheses below NOT, and no disjunction below an AND of several operands. -/
inductive Clear : Expr → Prop
  | and {operands : List Expr} (each : ∀ e ∈ operands, Clear e)
    (apart : 2 ≤ operands.length → ∀ e ∈ operands, ∀ es, e.shown = .or es → e.isJunction = true) :
    Clear (.and operands)
  | or {operands : List Expr} (each : ∀ e ∈ operands, Clear e) : Clear (.or operands)
  | compare {op : Comparison} {lhs rhs : Expr} (left : lhs.shown.isOperand = true)
    (right : rhs.shown.isOperand = true) (first : Clear lhs) (second : Clear rhs) :
    Clear (.compare op lhs rhs)
  | column (c : ColumnRef) : Clear (.column c)
  | grouping {e : Expr} (inner : Clear e) : Clear (.grouping e)
  /-- Nothing is shown of an empty list and of what is looked up in it. -/
  | nowhere (e : Expr) : Clear (.inList e [])
  | inList {e : Expr} {items : List Expr} (operand : e.shown.isOperand = true) (inner : Clear e)
    (each : ∀ item ∈ items, Clear item) : Clear (.inList e items)
  | isNull {negated : Bool} {e : Expr} (operand : e.shown.isOperand = true) (inner : Clear e) :
    Clear (.isNull negated e)
  | not {e : Expr} (inner : Clear e) (apart : e.shown.isJunction = true → e.isJunction = true) :
    Clear (.not e)
  | const (v : Value) : Clear (.const v)

variable {e s : Expr} {operands : List Expr}

theorem Legible.conjuncts (legible : s.Legible) : ∀ e ∈ s.conjuncts, e.Legible := by
  cases s with
  | and operands =>
      cases legible with
      | and _ each => exact each
  | or | compare | column | grouping | inList | isNull | not | const =>
      intro e only
      exact List.mem_singleton.mp only ▸ legible

theorem Legible.asOperand (legible : s.Legible) : (e.asOperand s).Legible := by
  rw [Expr.asOperand]
  split
  · exact .grouping legible
  · exact legible

theorem Legible.asParts (legible : s.Legible) : ∀ part ∈ e.asParts s, part.Legible := by
  rw [Expr.asParts]
  split
  · exact List.forall_mem_singleton.mpr (.grouping legible)
  · exact legible.conjuncts

theorem asParts_ne_nil (legible : s.Legible) : e.asParts s ≠ [] := by
  rw [asParts]
  split
  · exact List.cons_ne_nil _ _
  · cases legible with
    | and several _ =>
        rintro none
        rw [conjuncts] at none
        rw [none] at several
        cases several
    | or | compare | column | grouping | inList | isNull | not | const => exact List.cons_ne_nil _ _

theorem ofParts_several {junction : List Expr → Expr} {empty : Bool} {es : List Expr}
    (several : 2 ≤ es.length) : ofParts junction empty es = junction es := by
  cases es with
  | nil => cases several
  | cons e rest => exact joinedBy_several several

/-- A conjunction of one operand shows the operand. -/
theorem ofParts_asParts (legible : s.Legible) : ofParts .and true (e.asParts s) = e.asOperand s := by
  rw [asParts, asOperand]
  split
  · rfl
  · cases legible with
    | and several _ => exact ofParts_several several
    | or | compare | column | grouping | inList | isNull | not | const => rfl

theorem asOperand_sql (same : s.sql = e.sql) : (e.asOperand s).sql = e.operandSql e.sql := by
  rw [asOperand, operandSql]
  split
  · rw [sql, same]
  · exact same

theorem isJunction_asOperand (apart : s.isJunction = true → e.isJunction = true) :
    ¬ (e.asOperand s).isJunction = true := by
  rw [asOperand]
  split
  · simp [isJunction]
  · rename_i other
    exact fun junction => other (apart junction)

/-- The operands that an operand of AND shows have its text together. -/
theorem asParts_sql (legible : s.Legible) (same : s.sql = e.sql)
    (apart : ∀ es, s = .or es → e.isJunction = true) :
    Sql.join " AND " ((e.asParts s).map fun part => part.operandSql part.sql) = e.operandSql e.sql := by
  rw [asParts, operandSql]
  by_cases junction : e.isJunction = true
  · rw [if_pos junction, if_pos junction, ← same]
    rfl
  · rw [if_neg junction, if_neg junction, ← same]
    cases legible with
    | and several _ =>
        rw [conjuncts, sql, if_neg (isEmpty_of_several several), operandsSql_eq_map]
    | or _ _ => exact absurd (apart _ rfl) junction
    | compare | column | grouping | inList | isNull | not | const => rfl

/-- What is shown can be read and has the text. -/
structure Shows (e : Expr) : Prop where
  legible : e.shown.Legible
  text : e.shown.sql = e.sql

theorem Shows.and (several : 2 ≤ operands.length) (each : ∀ e ∈ operands, e.Shows)
    (apart : ∀ e ∈ operands, ∀ es, e.shown = .or es → e.isJunction = true) :
    (Expr.and operands).Shows := by
  have wide : 2 ≤ (operands.flatMap fun e => e.asParts e.shown).length :=
    Nat.le_trans several (length_le_flatMap fun e member => asParts_ne_nil (each e member).legible)
  have shows : (Expr.and operands).shown = .and (operands.flatMap fun e => e.asParts e.shown) := by
    rw [shown, shownParts_eq_flatMap, ofParts_several wide]
  refine ⟨?_, ?_⟩
  · rw [shows]
    refine .and wide fun part member => ?_
    obtain ⟨e, inside, member⟩ := List.mem_flatMap.mp member
    exact (each e inside).legible.asParts part member
  · have parts : ∀ e ∈ operands,
        Sql.join " AND " ((e.asParts e.shown).map fun part => part.operandSql part.sql) =
          e.operandSql e.sql := fun e member =>
      asParts_sql (each e member).legible (each e member).text (apart e member)
    rw [shows, sql, sql, if_neg (isEmpty_of_several wide), if_neg (isEmpty_of_several several),
      operandsSql_eq_map, operandsSql_eq_map, List.map_flatMap, Sql.join_flatMap,
      List.map_congr_left parts]
    intro e member
    simpa using asParts_ne_nil (each e member).legible

theorem Shows.or (several : 2 ≤ operands.length) (each : ∀ e ∈ operands, e.Shows) :
    (Expr.or operands).Shows := by
  have shows : (Expr.or operands).shown = .or (operands.map shown) := by
    rw [shown, shownAll_eq_map, ofParts_several (by simpa using several)]
  refine ⟨?_, ?_⟩
  · rw [shows]
    refine .or (by simpa using several) fun part member => ?_
    obtain ⟨e, inside, rfl⟩ := List.mem_map.mp member
    exact (each e inside).legible
  · rw [shows, sql, sql, List.isEmpty_map, if_neg (isEmpty_of_several several),
      if_neg (isEmpty_of_several several), exprsSql_eq_map, exprsSql_eq_map, List.map_map,
      List.map_congr_left (f := sql ∘ shown) fun e member => (each e member).text]

/-- A clear expression has the text of what it shows, and that can be read. -/
theorem Clear.shows (clear : e.Clear) : e.Shows := by
  induction clear with
  | @and operands each apart ih =>
      rcases operands with _ | ⟨e, _ | ⟨next, others⟩⟩
      · exact ⟨.const _, rfl⟩
      · -- Parentheses are written around a single operand as well.
        obtain ⟨legible, text⟩ := ih e List.mem_cons_self
        have single : (Expr.and [e]).shown = e.asOperand e.shown := by
          rw [shown, shownParts_eq_flatMap, List.flatMap_singleton, ofParts_asParts legible]
        exact ⟨single ▸ legible.asOperand, single ▸ asOperand_sql text⟩
      · exact .and (by simp) ih (apart (by simp))
  | @or operands each ih =>
      rcases operands with _ | ⟨e, _ | ⟨next, others⟩⟩
      · exact ⟨.const _, rfl⟩
      · obtain ⟨legible, text⟩ := ih e List.mem_cons_self
        exact ⟨legible, text⟩
      · exact .or (by simp) ih
  | compare left right first second before after =>
      exact ⟨.compare left right before.legible after.legible,
        by rw [shown, sql, sql, before.text, after.text]⟩
  | column c => exact ⟨.column c, rfl⟩
  | grouping inner ih => exact ⟨.grouping ih.legible, by rw [shown, sql, sql, ih.text]⟩
  | nowhere e => exact ⟨.const _, rfl⟩
  | @inList e items operand inner each ih below =>
      by_cases none : items.isEmpty = true
      · rw [List.isEmpty_iff.mp none]
        exact ⟨.const _, rfl⟩
      · have shows : (Expr.inList e items).shown = .inList e.shown (items.map shown) := by
          rw [shown, if_neg none, shownAll_eq_map]
        refine ⟨?_, ?_⟩
        · rw [shows]
          refine .inList operand ih.legible fun item member => ?_
          obtain ⟨e, inside, rfl⟩ := List.mem_map.mp member
          exact (below e inside).legible
        · rw [shows, sql, sql, List.isEmpty_map, if_neg none, if_neg none, ih.text, exprsSql_eq_map,
            exprsSql_eq_map, List.map_map,
            List.map_congr_left (f := sql ∘ shown) fun e member => (below e member).text]
  | isNull operand inner ih =>
      exact ⟨.isNull operand ih.legible, by rw [shown, sql, sql, ih.text]⟩
  | not inner apart ih =>
      refine ⟨.not ih.legible.asOperand, ?_⟩
      rw [shown, sql, sql, operandSql, if_neg (isJunction_asOperand apart), asOperand_sql ih.text]
  | const v => exact ⟨.const v, rfl⟩

end Expr

end Relata
