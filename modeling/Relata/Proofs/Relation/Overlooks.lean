import Relata.Proofs.Query.Unseen
import Relata.Proofs.Relation.PerParent

/-!
Relations that overlook columns. A relation that selects nothing computes the columns of its model by name where
the model ignores some, so it shows none of the veiled columns as long as its source, its conditions and its sort
keys name none. The same holds of the children of all rows of an owner.
-/

namespace Relata

/-- The columns that the model ignores, read under these names. -/
def Model.veil (model : Model) (names : List String) : Veil := ⟨model.table.name, model.ignored, names⟩

variable {veil : Veil} {relation : Relation} {model : Model}

/-- Under the qualifier the model shows none of the veiled columns: it ignores them, or the qualifier is not one
of the names. -/
def Model.Covers (model : Model) (veil : Veil) (qualifier : String) : Prop :=
  ∀ column, veil.Hides qualifier column → model.isIgnored column = true

theorem Model.covers_veil (model : Model) (names : List String) (qualifier : String) :
    model.Covers (model.veil names) qualifier :=
  fun _ hides => List.contains_iff_mem.mpr hides.2

theorem Model.Covers.shown {qualifier column : String} (covers : model.Covers veil qualifier)
    (active : model.isIgnored column = false) : ¬ veil.Hides qualifier column :=
  fun hides => absurd (active.symm.trans (covers column hides)) Bool.false_ne_true

namespace Expr.Blind

theorem const (v : Value) : (Expr.const v).Blind veil := by
  intro c named
  cases named

theorem column {c : ColumnRef} (shown : ¬ veil.Hides c.table.qualifier c.column) :
    (Expr.column c).Blind veil := by
  intro other named
  rwa [List.mem_singleton.mp named]

theorem compare {op : Comparison} {lhs rhs : Expr} (left : lhs.Blind veil)
    (right : rhs.Blind veil) : (Expr.compare op lhs rhs).Blind veil :=
  fun c named => (List.mem_append.mp named).elim (left c) (right c)

theorem conj {lhs rhs : Expr} (left : lhs.Blind veil) (right : rhs.Blind veil) :
    (lhs.conj rhs).Blind veil :=
  fun c named => (Expr.mem_columns_conj named).elim (left c) (right c)

theorem addCondition {filter : Option Expr} {condition : Expr} (blind : ∀ e ∈ filter, e.Blind veil)
    (also : condition.Blind veil) : ∀ e ∈ some (Relata.addCondition filter condition), e.Blind veil := by
  rintro e ⟨⟩
  cases filter with
  | none => exact also
  | some existing => exact (blind existing rfl).conj also

end Expr.Blind

/-- A choice that computes none of the veiled columns. -/
def Choice.Spares (veil : Veil) (qualifier : String) : Choice → Prop
  | .all => ∀ column, ¬ veil.Hides qualifier column
  | .named names => ∀ name ∈ names, ¬ veil.Hides qualifier name

namespace Choice.Spares

variable {choice : Choice} {table : TableRef}

theorem blind (spares : choice.Spares veil table.qualifier) : ∀ item ∈ choice.items table, item.Blind veil := by
  intro item member
  cases choice with
  | all =>
      rw [List.mem_singleton.mp member]
      trivial
  | named names =>
      obtain ⟨name, chosen, rfl⟩ := List.mem_map.mp member
      exact Expr.Blind.column (spares name chosen)

theorem kept (spares : choice.Spares veil table.qualifier) (column : String) :
    ¬ veil.Passes (choice.items table) column := by
  rintro ⟨ref, member, hides⟩
  cases choice with
  | all =>
      cases List.mem_singleton.mp member
      exact spares column hides
  | named names =>
      obtain ⟨name, _, other⟩ := List.mem_map.mp member
      cases other

end Choice.Spares

theorem Choice.Spares.withFirst {choice : Choice} {qualifier name : String} (spares : choice.Spares veil qualifier)
    (shown : ¬ veil.Hides qualifier name) : (choice.withFirst name).Spares veil qualifier := by
  cases choice with
  | all => exact spares
  | named names => exact List.forall_mem_cons.mpr ⟨shown, spares⟩

theorem Model.Covers.choice {qualifier : String} (covers : model.Covers veil qualifier) :
    model.choice.Spares veil qualifier := by
  unfold Model.choice
  split
  · intro name chosen
    obtain ⟨column, active, rfl⟩ := List.mem_map.mp chosen
    exact covers.shown (by simpa using (List.mem_filter.mp active).2)
  · rename_i none
    intro column hides
    have ignored : column ∈ model.ignored := List.contains_iff_mem.mp (covers column hides)
    have nothing : model.ignored = [] := by simpa [Model.hasIgnored] using none
    rw [nothing] at ignored
    cases ignored

/-- Nothing in the relation names a veiled column, and its model shows none of them. -/
structure Relation.Overlooks (relation : Relation) (veil : Veil) : Prop where
  items : relation.items = []
  covers : relation.model.Covers veil relation.table.qualifier
  source : (relation.origin.getD (.table relation.table)).Blind veil
  joins : joinsBlind veil relation.joins
  filter : ∀ e ∈ relation.filter, e.Blind veil
  order : ∀ term ∈ relation.order, term.expr.Blind veil

namespace Relation

/-- A relation that computes a choice of its columns shows no veiled column if nothing in it names one. -/
theorem query_overlooks {choice : Choice} (items : relation.query.items = choice.items relation.table)
    (spares : choice.Spares veil relation.table.qualifier) (source : relation.query.source.Blind veil)
    (joins : joinsBlind veil relation.joins) (filter : ∀ e ∈ relation.filter, e.Blind veil)
    (order : ∀ term ∈ relation.order, term.expr.Blind veil) : relation.query.Overlooks veil := by
  have blind : ∀ item ∈ relation.query.items, item.Blind veil := by
    rw [items]
    exact spares.blind
  refine ⟨?_, fun column => by rw [items]; exact spares.kept column⟩
  rw [query, Query.Blind]
  refine ⟨blind, source, joins, filter, order, fun e limited => ?_⟩
  obtain ⟨count, _, rfl⟩ := Option.map_eq_some_iff.mp limited
  exact .const _

namespace Overlooks

theorem query (overlooks : relation.Overlooks veil) : relation.query.Overlooks veil := by
  have chosen : relation.query.items = relation.model.choice.items relation.table := by
    rw [Relation.query, overlooks.items]
    exact relation.defaultItems_eq
  exact query_overlooks chosen overlooks.covers.choice overlooks.source overlooks.joins overlooks.filter
    overlooks.order

theorem column_blind (overlooks : relation.Overlooks veil) {name : String}
    (active : relation.model.isIgnored name = false) : (relation.column name).Blind veil :=
  .column (overlooks.covers.shown active)

theorem restrict (overlooks : relation.Overlooks veil) {condition : Expr} (blind : condition.Blind veil) :
    (relation.restrict condition).Overlooks veil :=
  { overlooks with filter := .addCondition overlooks.filter blind }

theorem limitTo (overlooks : relation.Overlooks veil) (count : Nat) : (relation.limitTo count).Overlooks veil :=
  { overlooks with }

theorem orderByAsc (overlooks : relation.Overlooks veil) {name : String}
    (active : relation.model.isIgnored name = false) : (relation.orderByAsc name).Overlooks veil := by
  refine { overlooks with order := fun term member => ?_ }
  rcases List.mem_append.mp member with before | last
  · exact overlooks.order term before
  · rw [List.mem_singleton.mp last]
    exact overlooks.column_blind active

theorem compare (overlooks : relation.Overlooks veil) {name : String}
    (active : relation.model.isIgnored name = false) (op : Comparison) {other : Expr}
    (blind : other.Blind veil) :
    (relation.restrict (.compare op (relation.column name) other)).Overlooks veil :=
  overlooks.restrict (.compare (overlooks.column_blind active) blind)

theorem whereEq (overlooks : relation.Overlooks veil) {name : String}
    (active : relation.model.isIgnored name = false) (value : Value) :
    (relation.whereEq name value).Overlooks veil := by
  rw [Relation.whereEq]
  split
  · exact overlooks.restrict (overlooks.column_blind active)
  · exact overlooks.compare active .eq (.const value)

end Overlooks

end Relation

/-- A relation on its model's table without joins overlooks the ignored columns if its conditions and sort keys
name no column that is called like one of them. -/
theorem Relation.Direct.overlooks {names : List String} (direct : relation.Direct relation.model.table.name)
    (single : relation.joins = []) (named : relation.table.qualifier ∈ names)
    (filter : ∀ e ∈ relation.filter, ∀ c ∈ e.columns, relation.model.isIgnored c.column = false)
    (order : ∀ term ∈ relation.order, ∀ c ∈ term.expr.columns, relation.model.isIgnored c.column = false) :
    relation.Overlooks (relation.model.veil names) := by
  have shown : ∀ {e : Expr}, (∀ c ∈ e.columns, relation.model.isIgnored c.column = false) →
      e.Blind (relation.model.veil names) :=
    fun active c member => (relation.model.covers_veil names _).shown (active c member)
  obtain ⟨aliasName, table⟩ := direct.table
  exact {
    items := direct.items
    covers := relation.model.covers_veil names _
    source := by
      rw [direct.origin, Option.getD_none, table]
      exact fun _ => table ▸ named
    joins := by
      rw [single]
      trivial
    filter := fun e present => shown (filter e present)
    order := fun term member => shown (order term member) }

theorem Model.overlooks_all (model : Model) {names : List String} (named : model.table.name ∈ names) :
    model.all.Overlooks (model.veil names) := by
  have direct : model.all.Direct model.table.name := ⟨⟨none, rfl⟩, rfl, rfl⟩
  exact direct.overlooks rfl named (fun _ absent => nomatch absent) fun _ absent => absurd absent List.not_mem_nil

/-- The children of all rows of the owner overlook the veiled columns, the keys are none of them, and neither is
the alias. The children are read under their own name, under the name for lateral subqueries, and last under
that of their table. -/
structure Association.Overlooks (association : Association) (owner target : Model) (veil : Veil) : Prop where
  children : (association.children owner target).Overlooks veil
  beside : lateralName ∈ veil.names → (association.children owner target).table.name ∈ veil.names
  covers : target.Covers veil (association.children owner target).table.name
  foreignKey : ¬ veil.Hides (association.children owner target).table.qualifier association.keys.foreignKey
  ownerKey : ¬ veil.Hides owner.table.name association.keys.primaryKey
  aliased : ¬ veil.Hides (association.children owner target).table.name association.keys.foreignKeyAlias

namespace Association.Overlooks

variable {association : Association} {owner target : Model}

/-- Under names that the children of the model's rows are read by, it is enough that the keys and the alias are
not ignored. -/
theorem of_children {names : List String} (named : target.table.name ∈ names)
    (children : (association.children owner target).Overlooks (target.veil names))
    (rooted : (association.children owner target).table.name = target.table.name)
    (foreignKey : target.isIgnored association.keys.foreignKey = false)
    (ownerKey : owner.table.name ∈ names → target.isIgnored association.keys.primaryKey = false)
    (aliased : target.isIgnored association.keys.foreignKeyAlias = false) :
    association.Overlooks owner target (target.veil names) := by
  have shown : ∀ {qualifier column}, target.isIgnored column = false →
      ¬ (target.veil names).Hides qualifier column := (target.covers_veil names _).shown
  exact {
    children
    beside := fun _ => rooted ▸ named
    covers := target.covers_veil names _
    foreignKey := shown foreignKey
    ownerKey := fun hides => shown (ownerKey hides.1) hides
    aliased := shown aliased }

theorem correlated_overlooks (overlooks : association.Overlooks owner target veil) (limit : Option Nat) :
    ((association.children owner target).correlated (owner.all.column association.keys.primaryKey)
      association.keys limit).Overlooks veil := by
  have keys : (Expr.compare .eq ((association.children owner target).column association.keys.foreignKey)
      (owner.all.column association.keys.primaryKey)).Blind veil :=
    .compare (.column overlooks.foreignKey) (.column overlooks.ownerKey)
  have matching := overlooks.children.restrict keys
  cases limit with
  | none => exact matching
  | some count => exact matching.limitTo count

theorem besideParent_blind (overlooks : association.Overlooks owner target veil)
    (named : veil.table ∈ veil.names) (limit : Option Nat) :
    ((association.children owner target).besideParent owner association.keys limit).query.Blind veil := by
  have children := (overlooks.correlated_overlooks limit).query
  refine ⟨fun item member => ?_, fun own => own ▸ named, ⟨⟨children.blind, fun column passes => ?_⟩,
    .const _, trivial⟩, (fun _ absent => nomatch absent), fun _ absent => absurd absent List.not_mem_nil,
    (fun _ absent => nomatch absent)⟩
  · rcases List.mem_cons.mp member with rfl | last
    · exact .column overlooks.ownerKey
    · rw [List.mem_singleton.mp last]
      trivial
  · exact absurd passes (children.kept column)

theorem key_blind (overlooks : association.Overlooks owner target veil) :
    (((association.children owner target).perParent owner association.keys association.limit).column
      association.keys.foreignKeyAlias).Blind veil := by
  have qualifier := ((association.children owner target).perParent_reads owner association.keys
    association.limit).qualifier
  refine .column ?_
  rw [TableRef.column, ← qualifier]
  exact overlooks.aliased

theorem query (overlooks : association.Overlooks owner target veil) (named : veil.table ∈ veil.names)
    (selects : association.Selects owner target relation) : relation.query.Overlooks veil := by
  obtain ⟨condition, limit, keyed⟩ := selects
  have blind : condition.Blind veil := fun c member => overlooks.key_blind c (keyed c member)
  have reads := (association.children owner target).perParent_reads owner association.keys association.limit
  have bare := (association.children owner target).perParent_bare owner association.keys association.limit
  clear keyed
  generalize (association.children owner target).perParent owner association.keys association.limit = scope
    at reads bare
  obtain ⟨joins, filter, order, _⟩ := bare
  have source : scope.query.source.Blind veil := by
    rw [reads.origin, Source.Blind]
    refine ⟨overlooks.besideParent_blind named _, ?_⟩
    rintro column ⟨ref, member, hides⟩
    rcases List.mem_cons.mp member with other | last
    · cases other
    · cases List.mem_singleton.mp last
      exact ⟨overlooks.beside hides.1, hides.2⟩
  have spares : ((association.children owner target).model.choice.withFirst
      association.keys.foreignKeyAlias).Spares veil scope.table.qualifier := by
    rw [← reads.qualifier, association.children_model]
    exact overlooks.covers.choice.withFirst overlooks.aliased
  have conditions : ∀ e ∈ (scope.restrict condition).filter, e.Blind veil := by
    refine .addCondition (fun e present => ?_) blind
    rw [filter] at present
    cases present
  have unsorted : ∀ term ∈ scope.order, term.expr.Blind veil := by simp [order]
  have single : joinsBlind veil scope.joins := by
    rw [joins]
    trivial
  exact Relation.query_overlooks reads.items spares source single conditions unsorted

end Association.Overlooks

end Relata
