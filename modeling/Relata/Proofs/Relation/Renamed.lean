import Mathlib.Data.List.Basic
import Relata.Proofs.Expr.Columns
import Relata.Proofs.Session.Reached
import Relata.Relation.Rename

/-!
A second name in place of the first. What follows a table to a new name follows it again to the next one, and all else
is left alone both times. So the last name is the only one that counts, and no column that a renaming looks at keeps an
earlier one.
-/

namespace Relata

/-- The column under a new name of the table, if it is a column of the table. -/
def ColumnRef.follow (root renamed : TableRef) (c : ColumnRef) : ColumnRef :=
  if c.table.sameTable root then c.rebind renamed else c

mutual

/-- The columns of a condition in the places where a renaming looks for them. -/
def Expr.renamable : Expr → List ColumnRef
  | .and operands => renamableIn operands
  | .or operands => renamableIn operands
  | .grouping e => e.renamable
  | .compare op lhs _ =>
    match op with
    | .eq | .gt | .lt => lhs.column?.toList
    | _ => []
  | .inList e _ => e.column?.toList
  | _ => []

def renamableIn : List Expr → List ColumnRef
  | [] => []
  | e :: rest => e.renamable ++ renamableIn rest

end

/-- The columns of a relation in the places where a renaming looks for them. -/
def Relation.renamable (relation : Relation) : List ColumnRef :=
  relation.filter.toList.flatMap Expr.renamable ++
    relation.order.flatMap fun term => term.expr.column?.toList

/-- Two references to one table are told from others alike. -/
theorem TableRef.sameTable_congr {a b : TableRef} (same : a.sameTable b = true) (ref : TableRef) :
    ref.sameTable a = ref.sameTable b := by
  obtain ⟨derived, name⟩ := TableRef.sameTable_iff.mp same
  rw [Bool.eq_iff_iff, TableRef.sameTable_iff, TableRef.sameTable_iff, derived, name]

section Columns

variable {root first second : TableRef}

theorem ColumnRef.follow_follow (same : first.sameTable root = true) (c : ColumnRef) :
    (c.follow root first).follow first second = c.follow root second := by
  rw [follow, follow, follow]
  by_cases own : c.table.sameTable root = true
  · rw [if_pos own, if_pos own]
    exact if_pos (TableRef.sameTable_refl first)
  · rw [if_neg own, if_neg own, if_neg (by rwa [TableRef.sameTable_congr same])]

theorem ColumnRef.table_follow {c : ColumnRef}
    (own : (c.follow root first).table.sameTable root = true) : (c.follow root first).table = first := by
  rw [follow] at own ⊢
  split at own
  · rename_i followed
    rw [if_pos followed]
    rfl
  · rename_i apart
    exact absurd own apart

theorem Expr.rebind_column (c : ColumnRef) :
    (Expr.column c).rebind root first = .column (c.follow root first) := by
  rw [rebind, ColumnRef.follow]
  split <;> rfl

theorem Expr.column?_rebind (e : Expr) :
    (e.rebind root first).column?.toList = e.column?.toList.map (ColumnRef.follow root first) := by
  cases e with
  | column c =>
      rw [rebind_column]
      rfl
  | and | or | compare | grouping | inList | isNull | not | const => rfl

theorem Expr.rebind_rebind (same : first.sameTable root = true) (e : Expr) :
    (e.rebind root first).rebind first second = e.rebind root second := by
  cases e with
  | column c => rw [rebind_column, rebind_column, rebind_column, ColumnRef.follow_follow same]
  | and | or | compare | grouping | inList | isNull | not | const => rfl

end Columns

section Conditions

variable {root first second : TableRef}

/-- What is left of operands after two renamings is what is left after the second alone. -/
theorem renameAll_renameAll {operands : List Expr}
    (each : ∀ e ∈ operands, (e.rename? root first).bind (Expr.rename? first second) = e.rename? root second) :
    renameAll first second (renameAll root first operands) = renameAll root second operands := by
  rw [renameAll_eq_filterMap, renameAll_eq_filterMap, renameAll_eq_filterMap, List.filterMap_filterMap]
  exact List.filterMap_congr each

theorem Expr.rename?_rename? (same : first.sameTable root = true) (e : Expr) :
    (e.rename? root first).bind (Expr.rename? first second) = e.rename? root second := by
  induction e using Expr.induction with
  | and operands ih =>
      rw [rename?, rename?, ← renameAll_renameAll ih]
      cases renameAll root first operands with
      | nil => rfl
      | cons kept others => rw [Option.bind_some, rename?]
  | or operands ih =>
      rw [rename?, rename?, ← renameAll_renameAll ih]
      cases renameAll root first operands with
      | nil => rfl
      | cons kept others => rw [Option.bind_some, rename?]
  | grouping e ih =>
      rw [rename?, rename?, ← ih]
      cases e.rename? root first with
      | none => rfl
      | some kept => rw [Option.map_some, Option.bind_some, Option.bind_some, rename?]
  | compare op lhs rhs => cases op <;> simp only [rename?, Option.bind_some, rebind_rebind same]
  | inList e items => simp only [rename?, Option.bind_some, rebind_rebind same]
  | column | isNull | not | const => rfl

theorem renamableIn_renameAll {operands : List Expr}
    (each : ∀ e ∈ operands, (e.rename? root first).toList.flatMap Expr.renamable =
      e.renamable.map (ColumnRef.follow root first)) :
    renamableIn (renameAll root first operands) = (renamableIn operands).map (ColumnRef.follow root first) := by
  induction operands with
  | nil => rfl
  | cons e rest ih =>
      have others := ih fun other member => each other (List.mem_cons_of_mem _ member)
      rw [renameAll, renamableIn, List.map_append, ← each e List.mem_cons_self, ← others]
      cases e.rename? root first with
      | none => rfl
      | some kept => rw [Option.toList_some, List.flatMap_singleton, renamableIn]

/-- The columns that a renaming looks at follow the table, one by one; what disappears has none. -/
theorem Expr.renamable_rename? (e : Expr) :
    (e.rename? root first).toList.flatMap Expr.renamable = e.renamable.map (ColumnRef.follow root first) := by
  induction e using Expr.induction with
  | and operands ih =>
      rw [rename?, renamable, ← renamableIn_renameAll ih]
      cases renameAll root first operands with
      | nil => rfl
      | cons kept others => rw [Option.toList_some, List.flatMap_singleton, renamable]
  | or operands ih =>
      rw [rename?, renamable, ← renamableIn_renameAll ih]
      cases renameAll root first operands with
      | nil => rfl
      | cons kept others => rw [Option.toList_some, List.flatMap_singleton, renamable]
  | grouping e ih =>
      rw [rename?, renamable, ← ih]
      cases e.rename? root first with
      | none => rfl
      | some kept => rw [Option.map_some, Option.toList_some, List.flatMap_singleton, renamable]; simp
  | compare op lhs rhs => cases op <;> simp [rename?, renamable, column?_rebind]
  | inList e items => simp [rename?, renamable, column?_rebind]
  | column | isNull | not | const => simp [rename?, renamable]

end Conditions

namespace Relation

variable {relation : Relation}

theorem renamable_rename (relation : Relation) (aliasName : String) :
    (relation.rename aliasName).renamable = relation.renamable.map
      (ColumnRef.follow relation.table (.table relation.table.name (some aliasName))) := by
  have conditions : ((relation.rename aliasName).filter.toList.flatMap Expr.renamable) =
      (relation.filter.toList.flatMap Expr.renamable).map
        (ColumnRef.follow relation.table (.table relation.table.name (some aliasName))) := by
    rw [rename]
    cases relation.filter with
    | none => rfl
    | some e => simp [Expr.renamable_rename?]
  rw [renamable, renamable, List.map_append, ← conditions, rename]
  simp [List.flatMap_map, List.map_flatMap, OrderTerm.rename, Expr.column?_rebind]

theorem sameTable_alias (rooted : relation.table.isDerived = false) (aliasName : String) :
    (TableRef.table relation.table.name (some aliasName)).sameTable relation.table = true :=
  TableRef.sameTable_iff.mpr ⟨rooted.symm, rfl⟩

/-- A relation on a table of the schema that is renamed twice is the relation under the second name, in all of its
parts. -/
theorem rename_rename (rooted : relation.table.isDerived = false) (first second : String) :
    (relation.rename first).rename second = relation.rename second := by
  have same := sameTable_alias rooted first
  have filter : (relation.filter.bind (Expr.rename? relation.table (.table relation.table.name (some first)))).bind
      (Expr.rename? (.table relation.table.name (some first)) (.table relation.table.name (some second))) =
      relation.filter.bind (Expr.rename? relation.table (.table relation.table.name (some second))) := by
    rw [Option.bind_assoc]
    exact Option.bind_congr fun e _ => e.rename?_rename? same
  have order : (relation.order.map (OrderTerm.rename relation.table (.table relation.table.name (some first)))).map
      (OrderTerm.rename (.table relation.table.name (some first)) (.table relation.table.name (some second))) =
      relation.order.map (OrderTerm.rename relation.table (.table relation.table.name (some second))) := by
    rw [List.map_map]
    refine List.map_congr_left fun term _ => ?_
    exact congrArg (OrderTerm.mk · term.direction) (term.expr.rebind_rebind same)
  exact congrArg₂ (fun filter order =>
    ({ relation.withTable (.table relation.table.name (some second)) with items := [], filter, order } : Relation))
    filter order

/-- Of the names that a relation on a table of the schema is given one after the other, the last one counts: the
relation is as if it had never been under the first, no column of the table that a renaming looks at has any other
name than the last, and giving it the name that it has changes nothing. -/
theorem rename_replaces (rooted : relation.table.isDerived = false) (first second : String) :
    (relation.rename first).rename second = relation.rename second ∧
      (∀ c ∈ ((relation.rename first).rename second).renamable, c.table.sameTable relation.table = true →
        c.table = .table relation.table.name (some second)) ∧
      (first ≠ second → ∀ c ∈ ((relation.rename first).rename second).renamable,
        c.table ≠ .table relation.table.name (some first)) ∧
      (relation.rename first).rename first = relation.rename first := by
  have own : ∀ c ∈ ((relation.rename first).rename second).renamable, c.table.sameTable relation.table = true →
      c.table = .table relation.table.name (some second) := by
    intro c member followed
    rw [rename_rename rooted, renamable_rename] at member
    obtain ⟨_, _, rfl⟩ := List.mem_map.mp member
    exact ColumnRef.table_follow followed
  refine ⟨rename_rename rooted first second, own, fun different c member kept => different ?_,
    rename_rename rooted first first⟩
  have renamed := own c member (kept ▸ sameTable_alias rooted first)
  exact Option.some.inj (TableRef.table.inj (kept.symm.trans renamed)).2

end Relation

namespace Sample

/-- `"notes"."owner_code" = "owners"."code"` next to two empty junctions, or the body is there; and
`"m"."id" > 1`, where `"m"` is another name of the notes. -/
def manyNames : Relation :=
  note.all.refine [
    .filter (.and [.or [], .grouping (.and []),
      .compare .eq (note.all.column "owner_code") (owner.all.column "code")]),
    .or (.not (.isNull false (note.all.column "body"))),
    .filter (.compare .gt (.column ((TableRef.table "notes" (some "m")).column "id")) (.const (.int 1))),
    .orderByDesc "id", .orderBy (.asc (owner.all.column "id")), .limit 2,
    .join ⟨.inner, .table owner.ref, .const (.bool true)⟩, .select [.wildcard owner.ref]]

/-- The test for nulls keeps the first name of all, where no renaming looks. -/
theorem rename_replaces_notes :
    manyNames.table.isDerived = false ∧
      (manyNames.rename "m").rename "n" = manyNames.rename "n" ∧
      ((manyNames.rename "m").rename "n").filter =
        (let under (name : String) := Expr.column ((TableRef.table "notes" (some "n")).column name)
        some (.and [
          .grouping (.or [.and [.compare .eq (under "owner_code") (owner.all.column "code")],
            .not (.isNull false (note.all.column "body"))]),
          .compare .gt (under "id") (.const (.int 1))])) ∧
      ((manyNames.rename "m").rename "n").renamable = [⟨.table "notes" (some "n"), "owner_code"⟩,
        ⟨.table "notes" (some "n"), "id"⟩, ⟨.table "notes" (some "n"), "id"⟩,
        ⟨.table "owners" none, "id"⟩] ∧
      ∀ c ∈ ((manyNames.rename "m").rename "n").renamable, c.table ≠ .table "notes" (some "m") := by
  obtain ⟨same, _, apart, _⟩ := Relation.rename_replaces (show manyNames.table.isDerived = false from rfl) "m" "n"
  exact ⟨rfl, same, rfl, rfl, apart (by decide)⟩

end Sample

end Relata
