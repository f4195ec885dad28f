import Mathlib.Data.List.Permutation
import Relata.Proofs.Relation.Mirrored
import Relata.Proofs.Session.Reached
import Relata.Relation.Refine

/-!
Reading a table under another name selects the same rows. A column that follows the table to its new
name finds the same cell there, and every other column is read from the rows around the query, where
neither name hides it.
-/

namespace Relata

/-- The expression reads nothing of the table, and nothing under its old or its new name. -/
def Expr.Apart (root : TableRef) (aliasName : String) (e : Expr) : Prop :=
  ∀ c ∈ e.columns, c.table.sameTable root = false ∧ c.table.qualifier ≠ root.qualifier ∧
    c.table.qualifier ≠ aliasName

def Expr.isConnective : Expr → Bool
  | .and _ | .or _ | .grouping _ => true
  | _ => false

/-- Below conjunctions and disjunctions of at least one operand and below parentheses, columns of the
table stand only on the left of `=`, `>`, `<` and IN; all else is apart from the table. -/
inductive Expr.Follows (root : TableRef) (aliasName : String) : Expr → Prop
  | and {operands : List Expr} (nonempty : operands ≠ [])
    (each : ∀ e ∈ operands, Follows root aliasName e) : Follows root aliasName (.and operands)
  | or {operands : List Expr} (nonempty : operands ≠ [])
    (each : ∀ e ∈ operands, Follows root aliasName e) : Follows root aliasName (.or operands)
  | grouping {e : Expr} (inner : Follows root aliasName e) : Follows root aliasName (.grouping e)
  | compare {op : Comparison} {rhs : Expr} (column : String)
    (rebound : op = .eq ∨ op = .gt ∨ op = .lt) (right : rhs.Apart root aliasName) :
    Follows root aliasName (.compare op (.column (root.column column)) rhs)
  | inList {items : List Expr} (column : String)
    (each : ∀ item ∈ items, item.Apart root aliasName) :
    Follows root aliasName (.inList (.column (root.column column)) items)
  | apart {e : Expr} (leaf : e.isConnective = false) (apart : e.Apart root aliasName) :
    Follows root aliasName e

/-- The relation reads one table of the schema, and all that it says about the table follows the table
to another name. -/
structure Relation.Rebindable (relation : Relation) (aliasName : String) : Prop where
  rooted : ∃ name alias?, relation.table = .table name alias?
  origin : relation.origin = none
  joins : relation.joins = []
  filter : ∀ e ∈ relation.filter, e.Follows relation.table aliasName
  order : ∀ term ∈ relation.order,
    (∃ column, term.expr = .column (relation.table.column column)) ∨
      term.expr.Apart relation.table aliasName

namespace Expr

variable {root twin : TableRef} {aliasName : String} {e : Expr} {operands : List Expr}

/-- The expression under the new name, where something is left of it. -/
def underName (root twin : TableRef) (e : Expr) : Expr := (e.rename? root twin).getD e

theorem Apart.rebind (apart : e.Apart root aliasName) : e.rebind root twin = e := by
  cases e with
  | column c =>
      have other := (apart c (by simp [columns])).1
      rw [Expr.rebind, if_neg (by simp [other])]
  | and | or | compare | grouping | inList | isNull | not | const => rfl

theorem rebind_own (column : String) :
    (Expr.column (root.column column)).rebind root twin = .column (twin.column column) :=
  if_pos (TableRef.sameTable_refl root)

theorem Apart.rename?_eq (apart : e.Apart root aliasName) (leaf : e.isConnective = false) :
    e.rename? root twin = some e := by
  cases e with
  | and | or | grouping => cases leaf
  | compare op lhs rhs =>
      have left : lhs.Apart root aliasName := fun c named => apart c (List.mem_append_left _ named)
      cases op <;> simp only [Expr.rename?, left.rebind]
  | inList lhs items =>
      have left : lhs.Apart root aliasName := fun c named => apart c (List.mem_append_left _ named)
      rw [Expr.rename?, left.rebind]
  | column | isNull | not | const => rfl

theorem renameAll_eq_map
    (each : ∀ e ∈ operands, e.rename? root twin = some (e.underName root twin)) :
    renameAll root twin operands = operands.map (Expr.underName root twin) := by
  rw [renameAll_eq_filterMap, List.filterMap_congr each, List.filterMap_eq_map']

theorem rename?_and (nonempty : operands ≠ [])
    (each : ∀ e ∈ operands, e.rename? root twin = some (e.underName root twin)) :
    (Expr.and operands).rename? root twin = some (.and (operands.map (Expr.underName root twin))) := by
  rw [Expr.rename?, renameAll_eq_map each]
  cases operands with
  | nil => exact absurd rfl nonempty
  | cons e rest => rfl

theorem rename?_or (nonempty : operands ≠ [])
    (each : ∀ e ∈ operands, e.rename? root twin = some (e.underName root twin)) :
    (Expr.or operands).rename? root twin = some (.or (operands.map (Expr.underName root twin))) := by
  rw [Expr.rename?, renameAll_eq_map each]
  cases operands with
  | nil => exact absurd rfl nonempty
  | cons e rest => rfl

theorem rename?_compare {op : Comparison} (rebound : op = .eq ∨ op = .gt ∨ op = .lt)
    (column : String) (rhs : Expr) :
    (Expr.compare op (.column (root.column column)) rhs).rename? root twin =
      some (.compare op (.column (twin.column column)) rhs) := by
  rcases rebound with rfl | rfl | rfl <;> rw [Expr.rename?, rebind_own]

theorem underName_eq {kept : Expr} (done : e.rename? root twin = some kept) :
    e.underName root twin = kept := by
  rw [underName, done, Option.getD_some]

/-- Nothing is dropped of a condition that follows its table. -/
theorem Follows.rename?_eq (follows : e.Follows root aliasName) :
    e.rename? root twin = some (e.underName root twin) := by
  suffices some : ∃ kept, e.rename? root twin = some kept by
    obtain ⟨kept, done⟩ := some
    rw [done, underName_eq done]
  induction follows with
  | and nonempty _ ih =>
      exact ⟨_, rename?_and nonempty fun e member => by
        obtain ⟨kept, done⟩ := ih e member
        rw [done, underName_eq done]⟩
  | or nonempty _ ih =>
      exact ⟨_, rename?_or nonempty fun e member => by
        obtain ⟨kept, done⟩ := ih e member
        rw [done, underName_eq done]⟩
  | grouping _ ih =>
      obtain ⟨kept, done⟩ := ih
      exact ⟨_, by rw [Expr.rename?, done, Option.map_some]⟩
  | compare column rebound right => exact ⟨_, rename?_compare rebound column _⟩
  | inList column each => exact ⟨_, by rw [Expr.rename?, rebind_own]⟩
  | apart leaf apart => exact ⟨_, apart.rename?_eq leaf⟩

end Expr

section Eval

variable {env other : Env} {f : Expr → Expr}

theorem Expr.truth_mirrors {e e' : Expr} (same : Mirrors id (e'.eval other) (e.eval env)) :
    Mirrors id (e'.truth other) (e.truth env) :=
  same.bind fun _ _ => .of_eq rfl

theorem evalAll_mirrors {operands : List Expr}
    (each : ∀ e ∈ operands, Mirrors id ((f e).eval other) (e.eval env)) :
    Mirrors id (evalAll other (operands.map f)) (evalAll env operands) := by
  induction operands with
  | nil => exact .ok _
  | cons e rest ih =>
      rw [List.map_cons, evalAll_cons, evalAll_cons]
      refine (Expr.truth_mirrors (each e List.mem_cons_self)).bind fun t _ => ?_
      rw [id]
      split
      · exact .ok _
      · exact (ih fun e member => each e (List.mem_cons_of_mem _ member)).bind fun _ _ => .ok _

theorem evalAny_mirrors {operands : List Expr}
    (each : ∀ e ∈ operands, Mirrors id ((f e).eval other) (e.eval env)) :
    Mirrors id (evalAny other (operands.map f)) (evalAny env operands) := by
  induction operands with
  | nil => exact .ok _
  | cons e rest ih =>
      rw [List.map_cons, evalAny, evalAny]
      refine (each e List.mem_cons_self).bind fun v _ => (Mirrors.of_eq rfl).bind fun t _ => ?_
      dsimp only [id]
      split
      · exact .ok _
      · exact (ih fun e member => each e (List.mem_cons_of_mem _ member)).bind fun _ _ => .ok _

end Eval

namespace Expr

variable {root twin : TableRef} {aliasName : String} {e : Expr} {outer : Env}
  {columns : List String} {values : List Value}

/-- What is apart from the table is read from the rows around the query. -/
theorem Apart.eval_eq (apart : e.Apart root aliasName) (named : twin.qualifier = aliasName) :
    e.eval (rowFrame twin.qualifier columns values :: outer) =
      e.eval (rowFrame root.qualifier columns values :: outer) := by
  refine Expr.eval_congr fun c member => ?_
  obtain ⟨_, old, new⟩ := apart c member
  have hidden : ∀ qualifier, c.table.qualifier ≠ qualifier →
      Env.value (rowFrame qualifier columns values :: outer) c = Env.value outer c :=
    fun qualifier other => Env.value_outer (by simp [rowFrame, Frame.binding?, Ne.symm other])
  rw [hidden _ (named ▸ new), hidden _ old]

theorem value_own (root : TableRef) (column : String) :
    Env.value (rowFrame root.qualifier columns values :: outer) (root.column column) =
      Binding.value ⟨⟨root.qualifier, columns⟩, values⟩ column :=
  Env.value_near (by simp [rowFrame, Frame.binding?, TableRef.column])

/-- A column of the table finds the same cell under either name. -/
theorem own_mirrors (root twin : TableRef) (column : String) :
    Mirrors id
      ((Expr.column (twin.column column)).eval (rowFrame twin.qualifier columns values :: outer))
      ((Expr.column (root.column column)).eval (rowFrame root.qualifier columns values :: outer)) := by
  rw [Expr.eval, Expr.eval, value_own, value_own]
  exact Binding.value_mirrors _ _ _ _ _

theorem Follows.eval_mirrors (follows : e.Follows root aliasName) (named : twin.qualifier = aliasName) :
    Mirrors id ((e.underName root twin).eval (rowFrame twin.qualifier columns values :: outer))
      (e.eval (rowFrame root.qualifier columns values :: outer)) := by
  induction follows with
  | and nonempty each ih =>
      rw [underName_eq (rename?_and nonempty fun e member => (each e member).rename?_eq),
        Expr.eval, Expr.eval]
      exact (evalAll_mirrors ih).bind fun _ _ => .ok _
  | or nonempty each ih =>
      rw [underName_eq (rename?_or nonempty fun e member => (each e member).rename?_eq),
        Expr.eval, Expr.eval]
      exact (evalAny_mirrors ih).bind fun _ _ => .ok _
  | grouping inner ih =>
      rw [underName_eq (by rw [Expr.rename?, inner.rename?_eq, Option.map_some]),
        Expr.eval, Expr.eval]
      exact ih
  | compare column rebound right =>
      rw [underName_eq (rename?_compare rebound column _), Expr.eval, Expr.eval,
        right.eval_eq named]
      refine (own_mirrors root twin column).bind fun v _ => ?_
      exact .of_eq rfl
  | inList column each =>
      rw [underName_eq (by rw [Expr.rename?, rebind_own]), Expr.eval, Expr.eval]
      refine (own_mirrors root twin column).bind fun v _ => ?_
      rw [id, evalMember_congr fun item member => (each item member).eval_eq named]
      exact .of_eq rfl
  | apart leaf apart =>
      rw [underName_eq (apart.rename?_eq leaf), apart.eval_eq named]
      exact .of_eq rfl

end Expr

theorem OrderTerm.rename_mirrors {term : OrderTerm} {root twin : TableRef} {aliasName : String}
    {outer : Env} {columns : List String} {values : List Value} (named : twin.qualifier = aliasName)
    (whole : (∃ column, term.expr = .column (root.column column)) ∨ term.expr.Apart root aliasName) :
    Mirrors id
      ((term.rename root twin).expr.eval (rowFrame twin.qualifier columns values :: outer))
      (term.expr.eval (rowFrame root.qualifier columns values :: outer)) := by
  rw [OrderTerm.rename]
  rcases whole with ⟨column, own⟩ | apart
  · rw [own, Expr.rebind_own]
    exact Expr.own_mirrors root twin column
  · rw [apart.rebind, apart.eval_eq named]
    exact .of_eq rfl

namespace Relation.Rebindable

variable {relation : Relation} {aliasName : String} {outer : Env} {columns : List String}
  {values : List Value}

theorem condition_mirrors (rebindable : relation.Rebindable aliasName) :
    Mirrors id
      ((relation.rename aliasName).condition.keeps (rowFrame aliasName columns values :: outer))
      (relation.condition.keeps (rowFrame relation.table.qualifier columns values :: outer)) := by
  have filter : (relation.rename aliasName).filter = relation.filter.bind
      (Expr.rename? relation.table (.table relation.table.name (some aliasName))) := rfl
  rw [condition, condition, filter]
  cases existing : relation.filter with
  | none => exact .of_eq rfl
  | some e =>
      have follows := rebindable.filter e existing
      have named : (TableRef.table relation.table.name (some aliasName)).qualifier = aliasName := rfl
      rw [Option.bind_some, follows.rename?_eq]
      exact Expr.keeps_mirrors (follows.eval_mirrors named)

theorem sortKeys_mirrors (rebindable : relation.Rebindable aliasName) :
    Mirrors id
      (sortKeys (rowFrame aliasName columns values :: outer) (relation.rename aliasName).order)
      (sortKeys (rowFrame relation.table.qualifier columns values :: outer) relation.order) := by
  have named : (TableRef.table relation.table.name (some aliasName)).qualifier = aliasName := rfl
  have keys : Mirrors (List.map id)
      (sortKeys (rowFrame aliasName columns values :: outer) (relation.rename aliasName).order)
      (sortKeys (rowFrame relation.table.qualifier columns values :: outer) relation.order) :=
    Mirrors.mapM fun term member => OrderTerm.rename_mirrors named (rebindable.order term member)
  rwa [List.map_id_fun] at keys

end Relation.Rebindable

/-- A relation and the relation under another name have an answer together, and it is the same. -/
theorem Relation.rename_selects_same {relation : Relation} {aliasName : String}
    (rebindable : relation.Rebindable aliasName) (db : Database) (outer : Env) :
    ((relation.rename aliasName).query.run db outer false).toOption =
      ((relation.apply .unscopeSelect).query.run db outer false).toOption := by
  obtain ⟨name, alias?, rooted⟩ := rebindable.rooted
  have direct : (relation.apply .unscopeSelect).Direct name :=
    ⟨⟨alias?, rooted⟩, rebindable.origin, rfl⟩
  have renamed : (relation.rename aliasName).Direct name :=
    ⟨⟨some aliasName, by rw [rename, rooted]; rfl⟩, rfl, rfl⟩
  cases found : db name with
  | none => rw [renamed.run_missing found, direct.run_missing found]
  | some stored =>
      refine (direct.run_mirrors renamed rebindable.joins rebindable.joins rfl rfl ?_ found
        ?_ ?_).toOption_eq
      · exact List.map_map
      · exact fun values _ => rebindable.condition_mirrors
      · exact fun values _ => rebindable.sortKeys_mirrors

namespace Sample

/-- The notes of an owner in sight and one note more, the newest first. -/
def notesInSight : Relation :=
  note.all.refine [
    .filter (.compare .eq (note.all.column "owner_code") (owner.all.column "code")),
    .or (.inList (note.all.column "id") [.const (.int 4)]), .orderByDesc "id"]

theorem notesInSight_rebindable : notesInSight.Rebindable "n" where
  rooted := ⟨"notes", none, rfl⟩
  origin := rfl
  joins := rfl
  filter := by
    rintro e ⟨⟩
    refine .grouping (.or (by simp) fun e member => ?_)
    rcases List.mem_cons.mp member with rfl | member
    · refine .compare "owner_code" (.inl rfl) fun c named => ?_
      rw [List.mem_singleton.mp named]
      decide
    · rw [List.mem_singleton.mp member]
      refine .inList "id" fun item constant c named => ?_
      rw [List.mem_singleton.mp constant] at named
      cases named
  order := by
    intro term member
    rw [List.mem_singleton.mp member]
    exact .inl ⟨"id", rfl⟩

/-- In sight of an owner with the code 7. -/
theorem rename_selects_notesInSight :
    ((notesInSight.rename "n").query.run engine.store.database
      [rowFrame "owners" ["id", "code"] [.int 1, .int 7]] false).toOption =
      some ⟨["id", "owner_code"],
        [[.int 4, .null], [.int 3, .int 7], [.int 1, .int 7]]⟩ := by
  rw [Relation.rename_selects_same notesInSight_rebindable]
  cbv

end Sample

end Relata
