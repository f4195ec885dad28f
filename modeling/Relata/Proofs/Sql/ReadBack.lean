import Relata.Proofs.Sql.Reading

/-!
Reading back what was written. A written condition is read as the condition it was written from, up to
parentheses and to junctions directly inside junctions of the same kind.
-/

namespace Relata

namespace Expr

/-- A column, a constant or an expression in parentheses. -/
def isOperand : Expr → Bool
  | .column _ | .grouping _ | .const _ => true
  | _ => false

/-- Junctions have several operands, and what is compared, listed or tested for nulls is an operand. -/
inductive Readable : Expr → Prop
  | and {operands : List Expr} (several : 2 ≤ operands.length)
    (each : ∀ e ∈ operands, Readable e) : Readable (.and operands)
  | or {operands : List Expr} (several : 2 ≤ operands.length)
    (each : ∀ e ∈ operands, Readable e) : Readable (.or operands)
  | compare {op : Comparison} {lhs rhs : Expr} (left : lhs.isOperand = true)
    (right : rhs.isOperand = true) (first : Readable lhs) (second : Readable rhs) :
    Readable (.compare op lhs rhs)
  | column (c : ColumnRef) : Readable (.column c)
  | grouping {e : Expr} (inner : Readable e) : Readable (.grouping e)
  | inList {e : Expr} {items : List Expr} (operand : e.isOperand = true)
    (operands : ∀ item ∈ items, item.isOperand = true) (inner : Readable e)
    (each : ∀ item ∈ items, Readable item) : Readable (.inList e items)
  | isNull {negated : Bool} {e : Expr} (operand : e.isOperand = true) (inner : Readable e) :
    Readable (.isNull negated e)
  | not {e : Expr} (inner : Readable e) : Readable (.not e)
  | const (v : Value) : Readable (.const v)

/-- The same without a condition on the items of lists, which commas and brackets set apart. -/
inductive Legible : Expr → Prop
  | and {operands : List Expr} (several : 2 ≤ operands.length)
    (each : ∀ e ∈ operands, Legible e) : Legible (.and operands)
  | or {operands : List Expr} (several : 2 ≤ operands.length)
    (each : ∀ e ∈ operands, Legible e) : Legible (.or operands)
  | compare {op : Comparison} {lhs rhs : Expr} (left : lhs.isOperand = true)
    (right : rhs.isOperand = true) (first : Legible lhs) (second : Legible rhs) :
    Legible (.compare op lhs rhs)
  | column (c : ColumnRef) : Legible (.column c)
  | grouping {e : Expr} (inner : Legible e) : Legible (.grouping e)
  | inList {e : Expr} {items : List Expr} (operand : e.isOperand = true) (inner : Legible e)
    (each : ∀ item ∈ items, Legible item) : Legible (.inList e items)
  | isNull {negated : Bool} {e : Expr} (operand : e.isOperand = true) (inner : Legible e) :
    Legible (.isNull negated e)
  | not {e : Expr} (inner : Legible e) : Legible (.not e)
  | const (v : Value) : Legible (.const v)

theorem Readable.legible {e : Expr} (readable : e.Readable) : e.Legible := by
  induction readable with
  | and several _ ih => exact .and several ih
  | or several _ ih => exact .or several ih
  | compare left right _ _ first second => exact .compare left right first second
  | column c => exact .column c
  | grouping _ ih => exact .grouping ih
  | inList operand _ _ _ inner each => exact .inList operand inner each
  | isNull operand _ ih => exact .isNull operand ih
  | not _ ih => exact .not ih
  | const v => exact .const v

def conjuncts : Expr → List Expr
  | .and operands => operands
  | e => [e]

def disjuncts : Expr → List Expr
  | .or operands => operands
  | e => [e]

mutual

/-- The expression without parentheses and with junctions of one kind joined. An empty list holds
nothing. -/
def normal : Expr → Expr
  | .and operands => .and ((normals operands).flatMap conjuncts)
  | .or operands => .or ((normals operands).flatMap disjuncts)
  | .compare op lhs rhs => .compare op lhs.normal rhs.normal
  | .column c => .column c
  | .grouping e => e.normal
  | .inList e items =>
    if items.isEmpty then .const (.bool false) else .inList e.normal (normals items)
  | .isNull negated e => .isNull negated e.normal
  | .not e => .not e.normal
  | .const v => .const v

def normals : List Expr → List Expr
  | [] => []
  | e :: rest => e.normal :: normals rest

end

theorem normals_eq_map (es : List Expr) : normals es = es.map normal := by
  induction es with
  | nil => rfl
  | cons e rest ih => rw [normals, ih, List.map_cons]

section Within

variable {tables : String → TableRef}

theorem conjuncts_within (e : Expr) :
    (e.within tables).conjuncts = e.conjuncts.map (within tables) := by
  cases e with
  | and operands => rw [within, conjuncts, conjuncts, withinAll_eq_map]
  | or | compare | column | grouping | inList | isNull | not | const => rfl

theorem disjuncts_within (e : Expr) :
    (e.within tables).disjuncts = e.disjuncts.map (within tables) := by
  cases e with
  | or operands => rw [within, disjuncts, disjuncts, withinAll_eq_map]
  | and | compare | column | grouping | inList | isNull | not | const => rfl

/-- Columns can be put in their tables before or after the expression is brought in normal form. -/
theorem normal_within (e : Expr) : (e.within tables).normal = e.normal.within tables := by
  have each : ∀ {es : List Expr}, (∀ e ∈ es, (e.within tables).normal = e.normal.within tables) →
      normals (withinAll tables es) = (normals es).map (within tables) := by
    intro es same
    rw [normals_eq_map, normals_eq_map, withinAll_eq_map, List.map_map, List.map_map]
    exact List.map_congr_left same
  induction e using Expr.induction with
  | and operands ih =>
      rw [within, normal, normal, within, each ih, withinAll_eq_map, List.flatMap_map,
        List.map_flatMap]
      simp only [conjuncts_within]
  | or operands ih =>
      rw [within, normal, normal, within, each ih, withinAll_eq_map, List.flatMap_map,
        List.map_flatMap]
      simp only [disjuncts_within]
  | compare op lhs rhs left right => rw [within, normal, normal, within, left, right]
  | column c => rfl
  | grouping e ih => rw [within, normal, normal, ih]
  | inList e items ih below =>
      have same : (withinAll tables items).isEmpty = items.isEmpty := by
        rw [withinAll_eq_map, List.isEmpty_map]
      rw [within, normal, normal, same, each below, ih]
      split
      · rfl
      · rw [within, withinAll_eq_map]
  | isNull negated e ih => rw [within, normal, normal, within, ih]
  | not e ih => rw [within, normal, normal, within, ih]
  | const v => rfl

end Within

end Expr

mutual

def Expr.reading : Expr → Reading
  | .and operands => .and ((readings operands).map Reading.operand)
  | .or operands => .or (readings operands)
  | .compare op lhs rhs => .compare op lhs.reading rhs.reading
  | .column c => .column c
  | .grouping e => e.reading.bracketed
  | .inList e items =>
    if items.isEmpty then .const (.bool false) else .inList e.reading (readings items)
  | .isNull negated e => .isNull negated e.reading
  | .not e => .not e.reading.operand
  | .const v => .const v

def readings : List Expr → List Reading
  | [] => []
  | e :: rest => e.reading :: readings rest

end

theorem readings_eq_map (es : List Expr) : readings es = es.map Expr.reading := by
  induction es with
  | nil => rfl
  | cons e rest ih => rw [readings, ih, List.map_cons]

theorem Expr.reading_operand {e : Expr} (operand : e.isOperand = true) : e.reading.Operand := by
  cases e with
  | column c => exact .column c
  | const v => exact .const v
  | grouping e => exact .bracketed e.reading
  | and | or | compare | inList | isNull | not => cases operand

namespace Expr

variable {e : Expr} {bound : List Value}

theorem length_le_flatMap {α β : Type} {f : α → List β} {items : List α}
    (some : ∀ a ∈ items, f a ≠ []) : items.length ≤ (items.flatMap f).length := by
  induction items with
  | nil => exact Nat.le_refl 0
  | cons a rest ih =>
      have first := List.length_pos_iff.mpr (some a List.mem_cons_self)
      have later := ih fun b member => some b (List.mem_cons_of_mem _ member)
      rw [List.flatMap_cons, List.length_append, List.length_cons]
      omega

theorem isEmpty_of_several {es : List Expr} (several : 2 ≤ es.length) : ¬ es.isEmpty = true := by
  intro none
  rw [List.isEmpty_iff.mp none] at several
  cases several

/-- The reading of an expression is what is read of its text. -/
theorem Legible.reading_of (legible : e.Legible) :
    e.reading.Of bound e.sql ∧ e.reading.junction = e.isJunction := by
  induction legible with
  | @and operands several each ih =>
      have below : ∀ e ∈ operands, e.reading.operand.Of bound (e.operandSql e.sql) ∧
          e.reading.operand.junction = false := fun e member =>
        (ih e member).1.operand (ih e member).2
      rw [Expr.reading, Expr.sql, if_neg (isEmpty_of_several several), readings_eq_map, List.map_map,
        operandsSql_eq_map]
      refine ⟨.and (fun e member => (below e member).1) (fun e member => (below e member).2) several,
        (decide_eq_true several).symm⟩
  | @or operands several each ih =>
      rw [Expr.reading, Expr.sql, if_neg (isEmpty_of_several several), readings_eq_map,
        exprsSql_eq_map]
      exact ⟨.or (fun e member => (ih e member).1) several, (decide_eq_true several).symm⟩
  | compare left right first second before after =>
      exact ⟨.compare _ before.1 after.1 (reading_operand left) (reading_operand right), rfl⟩
  | column c => exact ⟨.column c, rfl⟩
  | grouping inner ih => exact ⟨ih.1.bracketed, rfl⟩
  | @inList e items operand inner each ih below =>
      rw [Expr.reading, Expr.sql]
      -- An empty list is written as a constant, which is read as one.
      by_cases none : items.isEmpty = true
      · rw [if_pos none, if_pos none]
        exact ⟨.const (.bool false), rfl⟩
      · rw [if_neg none, if_neg none, readings_eq_map, exprsSql_eq_map]
        exact ⟨.inList ih.1 (reading_operand operand) (fun e member => (below e member).1)
          (by simpa using none), rfl⟩
  | isNull operand inner ih => exact ⟨.isNull _ ih.1 (reading_operand operand), rfl⟩
  | not inner ih =>
      have below := ih.1.operand ih.2
      exact ⟨.not below.1 below.2, rfl⟩
  | const v => exact ⟨.const v, rfl⟩

theorem normal_operand (reading : Reading) :
    reading.operand.whole.normal = reading.whole.normal := by
  unfold Reading.operand
  split
  · rw [Reading.whole, Reading.bracketed, joinedBy, normal]
  · rfl

/-- The reading is the expression, up to parentheses and nested junctions. -/
structure Same (reading : Reading) (e : Expr) : Prop where
  whole : reading.whole.normal = e.normal
  disjuncts : (reading.alternatives.map normal).flatMap disjuncts = e.normal.disjuncts
  some : reading.alternatives ≠ []

theorem Same.of_single {reading : Reading} {read : Expr} (alone : reading.alternatives = [read])
    (same : read.normal = e.normal) : Same reading e := by
  refine ⟨?_, ?_, alone ▸ List.cons_ne_nil _ _⟩
  · rw [Reading.whole, alone]
    exact same
  · rw [alone, List.map_singleton, List.flatMap_singleton, same]

theorem Same.or {operands : List Expr} (each : ∀ e ∈ operands, Same e.reading (e.within .derived))
    (several : 2 ≤ operands.length) :
    Same (.or (readings operands)) (.or (withinAll .derived operands)) := by
  have alternatives : (Reading.or (readings operands)).alternatives =
      operands.flatMap fun e => e.reading.alternatives := by
    rw [Reading.or, readings_eq_map, List.flatMap_map]
  have joined : ((Reading.or (readings operands)).alternatives.map normal).flatMap Expr.disjuncts =
      (normals (withinAll .derived operands)).flatMap Expr.disjuncts := by
    rw [alternatives, List.map_flatMap, List.flatMap_assoc, normals_eq_map, withinAll_eq_map,
      List.flatMap_map, List.flatMap_map, List.flatMap_def, List.flatMap_def,
      List.map_congr_left fun e member => (each e member).disjuncts]
  have wide : 2 ≤ (Reading.or (readings operands)).alternatives.length := by
    rw [alternatives]
    exact Nat.le_trans several (length_le_flatMap fun e member => (each e member).some)
  refine ⟨?_, ?_, ?_⟩
  · rw [Reading.whole, joinedBy_several wide, normal, normal, normals_eq_map, joined]
  · rw [joined, normal, Expr.disjuncts]
  · intro none
    rw [none] at wide
    cases wide

/-- What is read is the expression itself, with the bare qualifiers as tables. -/
theorem Legible.same (legible : e.Legible) : Same e.reading (e.within .derived) := by
  induction legible with
  | @and operands several each ih =>
      rw [reading, within]
      refine .of_single rfl ?_
      rw [normal, normal, normals_eq_map, normals_eq_map, readings_eq_map, withinAll_eq_map,
        List.map_map, List.map_map, List.map_map, List.map_map]
      refine congrArg (fun es => Expr.and (es.flatMap conjuncts)) (List.map_congr_left fun e member => ?_)
      exact (normal_operand e.reading).trans (ih e member).whole
  | or several each ih => exact .or ih several
  | compare left right first second before after =>
      refine .of_single rfl ?_
      rw [within, normal, normal, before.whole, after.whole]
  | column c => exact .of_single rfl rfl
  | grouping inner ih =>
      refine .of_single rfl ?_
      rw [within, normal, normal, ih.whole]
  | @inList e items operand inner each ih below =>
      rw [reading, within]
      by_cases none : items.isEmpty = true
      · rw [if_pos none]
        refine .of_single rfl ?_
        rw [normal, normal, withinAll_eq_map, List.isEmpty_map, if_pos none]
      · rw [if_neg none, readings_eq_map]
        refine .of_single rfl ?_
        rw [normal, normal, withinAll_eq_map, List.isEmpty_map, List.isEmpty_map, List.isEmpty_map,
          if_neg none, if_neg none, ih.whole, normals_eq_map, normals_eq_map, List.map_map,
          List.map_map, List.map_map]
        exact congrArg (Expr.inList _) (List.map_congr_left fun e member => (below e member).whole)
  | isNull operand inner ih =>
      refine .of_single rfl ?_
      rw [within, normal, normal, ih.whole]
  | not inner ih =>
      refine .of_single rfl ?_
      rw [within, normal, normal, normal_operand, ih.whole]
  | const v => exact .of_single rfl rfl

theorem Legible.readExpr_of_spells {tables : String → TableRef} {text : String} (legible : e.Legible)
    (spells : e.sql.Spells bound text.toList) :
    (readExpr tables bound text).map normal = some (e.within tables).normal := by
  have of : e.reading.Of bound e.sql := legible.reading_of.1
  have scanned := of.tells _ spells [] nofun
  rw [List.append_nil] at scanned
  have tokens : scan bound .blank text.toList = some e.reading.tokens := by
    rw [scanned]
    exact congrArg some (List.append_nil _)
  have read : readTokens e.reading.tokens = some e.reading.whole := by
    rw [readTokens, of.shifts]
    exact of.readDisjunction
  have same : (e.reading.whole.within tables).normal = (e.within tables).normal := by
    rw [normal_within, legible.same.whole, ← normal_within, within_derived]
  rw [readExpr, tokens, Option.bind_some, read, Option.map_some, Option.map_some, same]

theorem readExpr_of_spells {tables : String → TableRef} {text : String} (readable : e.Readable)
    (spells : e.sql.Spells bound text.toList) :
    (readExpr tables bound text).map normal = some (e.within tables).normal :=
  readable.legible.readExpr_of_spells spells

/-- A written condition reads back as the condition, with its constants written out as well as with
parameters bound to them. The text says by which name a table is read, so the columns are those of the
condition where the names stand for its tables. -/
theorem reads_back (readable : e.Readable) (tables : String → TableRef) :
    (readExpr tables [] e.sql.inline).map normal = some (e.within tables).normal ∧
      (∀ bound, (readExpr tables (e.sql.bind bound).2 (e.sql.bind bound).1).map normal =
        some (e.within tables).normal) ∧
      ((∀ c ∈ e.columns, tables c.table.qualifier = c.table) → e.within tables = e) :=
  ⟨readExpr_of_spells readable e.sql.spells_inline,
    fun _ => readExpr_of_spells readable (e.sql.spells_numbered rfl), within_of_named⟩

end Expr

namespace Sample

def noteColumn (name : String) : Expr := .column ((TableRef.table "notes" (some "n")).column name)

/-- `"n"."rank" >= -5 AND NOT ("n"."title" IS NOT NULL OR FALSE) OR ("n"."title") IN ('it''s', NULL)`. -/
def ranked : Expr :=
  .or [
    .and [.compare .ge (noteColumn "rank") (.const (.int (-5))),
      .not (.or [.isNull true (noteColumn "title"), .const (.bool false)])],
    .inList (.grouping (noteColumn "title")) [.const (.text "it's"), .const .null]]

theorem ranked_readable : ranked.Readable := by
  have each : ∀ {P : Expr → Prop} {a b : Expr}, P a → P b → ∀ e ∈ [a, b], P e := fun first second =>
    List.forall_mem_cons.mpr ⟨first, List.forall_mem_singleton.mpr second⟩
  refine .or (Nat.le_refl 2) (each (.and (Nat.le_refl 2) (each ?_ (.not ?_))) ?_)
  · exact .compare rfl rfl (.column _) (.const _)
  · exact .or (Nat.le_refl 2) (each (.isNull rfl (.column _)) (.const _))
  · exact .inList rfl (each rfl rfl) (.grouping (.column _)) (each (.const _) (.const _))

/-- Read where the name stands for the table, all of the condition but its parentheses is back. -/
theorem reads_back_ranked :
    (readExpr (fun _ => .table "notes" (some "n")) [] ranked.sql.inline).map Expr.normal =
      some (.or [
        .and [.compare .ge (noteColumn "rank") (.const (.int (-5))),
          .not (.or [.isNull true (noteColumn "title"), .const (.bool false)])],
        .inList (noteColumn "title") [.const (.text "it's"), .const .null]]) := by
  have read := Expr.reads_back ranked_readable fun _ => .table "notes" (some "n")
  rw [read.1, read.2.2 (by decide)]
  rfl

end Sample

end Relata
