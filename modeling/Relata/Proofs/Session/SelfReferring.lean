import Relata.Proofs.Relation.OwnSteps
import Relata.Proofs.Session.Association

/-!
Associations of a table with itself. The children are read under another name, so that the scope's
comparisons, sort keys and limit are those of the child. Tests for nulls keep the table's own name, which
stands for the row that the children belong to.
-/

namespace Relata

/-- Owner and target share a table, and the scope is made of steps on the table's own columns. -/
structure Association.SelfReferring (association : Association) (owner target : Model) : Prop where
  shared : target.table.name = owner.table.name
  unlike : owner.table.name ≠ lateralName
  own : ∀ step ∈ association.scope, step.Own owner.table.columnNames
  columns : owner.table.columnNames.Nodup
  foreign : association.keys.foreignKey ∈ owner.table.columnNames
  fresh : association.keys.foreignKeyAlias ∉ owner.table.columnNames

/-- The association with the scope's tests for nulls asked of one row of the owner. -/
def Association.askedOf (association : Association) (owner : Model) (row : List Value) :
    Association :=
  { association with scope := association.scope.map (Step.askedOf owner.table.columnNames row) }

theorem eq_of_count_map {α : Type} {f : α → Value} {items : List α} {a b : α} {value : Value}
    (once : (items.map f).count value = 1) (left : a ∈ items) (right : b ∈ items)
    (first : f a = value) (second : f b = value) : a = b := by
  have one : (items.filter fun item => f item == value).length = 1 := by
    rw [← List.countP_eq_length_filter, ← once, List.count, List.countP_map]
    rfl
  obtain ⟨only, filtered⟩ := List.length_eq_one_iff.mp one
  have among : ∀ item ∈ items, f item = value → item = only := fun item inside same => by
    have kept : item ∈ items.filter fun item => f item == value :=
      List.mem_filter.mpr ⟨inside, by simpa using same⟩
    rw [filtered] at kept
    exact List.mem_singleton.mp kept
  rw [among a left first, among b right second]

namespace Association.SelfReferring

variable {association : Association} {owner target : Model} {key : Value} {db : Database}
  {rows : List (List Value)} {row : List Value} {answer : Rowset} {column : Column}

theorem children_eq (self : association.SelfReferring owner target) :
    association.children owner target =
      (target.all.refine association.scope).rename (target.table.name ++ "__alias") := by
  rw [Association.children, if_pos (beq_iff_eq.mpr self.shared)]

theorem asks (self : association.SelfReferring owner target) (row : List Value) :
    target.Asks owner.table.columnNames row (target.all.refine association.scope)
      (target.all.refine (association.askedOf owner row).scope) :=
  (Model.Asks.all target owner.table.columnNames row).refine self.own

theorem direct (self : association.SelfReferring owner target) :
    (association.children owner target).Direct target.table.name := by
  rw [self.children_eq]
  exact (self.asks []).direct.1.rename _

/-- The children of a row are the rows that point at its key, where the naive query for them has an
answer. -/
theorem childrenAt_eq (self : association.SelfReferring owner target)
    (found : db target.table.name = some ⟨owner.table.columnNames, rows⟩)
    (present : association.keys.primaryKey ∈ owner.table.columnNames)
    (answered : ((association.askedOf owner row).naive target (cellOf owner.table.columnNames row
      association.keys.primaryKey)).query.answer db = .ok answer) :
    (association.children owner target).childrenAt owner association.keys association.limit db
      owner.table.columnNames row = .ok answer := by
  have apart : target.table.name ++ "__alias" ≠ target.table.name := by
    intro same
    have lengths := congrArg String.length same
    rw [String.length_append] at lengths
    have : "__alias".length = 7 := rfl
    omega
  rw [self.children_eq]
  exact ((self.asks row).childrenAt_mirrors self.shared apart found self.foreign present).answer
    answered

/-- What is read of all rows' children for the key of one row, where the naive query has an answer for
each row. -/
theorem scopeAt_answer (self : association.SelfReferring owner target)
    (table : target.table = owner.table)
    (found : db owner.table.name = some ⟨owner.table.columnNames, rows⟩)
    (present : association.keys.primaryKey ∈ owner.table.columnNames)
    (takes : ∀ row ∈ rows,
      column.Takes (cellOf owner.table.columnNames row association.keys.primaryKey))
    (once : (rows.map (cellOf owner.table.columnNames · association.keys.primaryKey)).count key = 1)
    (nonnull : key ≠ .null) (inside : row ∈ rows)
    (cell : cellOf owner.table.columnNames row association.keys.primaryKey = key)
    (pointing : ∀ row ∈ rows, ∃ answer, ((association.askedOf owner row).naive target
      (cellOf owner.table.columnNames row association.keys.primaryKey)).query.answer db =
      .ok answer)
    (answered : ((association.askedOf owner row).naive target key).query.answer db = .ok answer) :
    (association.scopeAt owner target key).query.answer db =
      .ok ⟨association.keys.foreignKeyAlias :: target.choice.header target.table.columnNames,
        answer.rows.map (key :: ·)⟩ := by
  have read : db target.table.name = some ⟨owner.table.columnNames, rows⟩ := by
    rw [table, found]
  have model := association.children_model owner target
  have joins : (association.children owner target).joins = [] := by
    rw [self.children_eq]
    exact (self.asks row).single
  have header : (target.choice.header owner.table.columnNames).Nodup := by
    rw [← table]
    exact Model.nodup_choice (table ▸ self.columns) (table ▸ self.columns)
  have fresh : association.keys.foreignKeyAlias ∉ target.choice.header owner.table.columnNames := by
    rw [← table]
    exact fun chosen => self.fresh (table ▸ (Model.mem_header.mp chosen).1)
  obtain ⟨groups, each⟩ : ∃ groups, (association.children owner target).eachChild owner
      association.keys association.limit db ⟨owner.table.columnNames, rows⟩ = .ok groups := by
    refine exists_mapM_eq_ok fun other inside => ?_
    obtain ⟨answer, answered⟩ := pointing other inside
    exact ⟨_, bind_eq_ok.mpr ⟨answer, self.childrenAt_eq read present answered, rfl⟩⟩
  have own : ∀ other ∈ rows, cellOf owner.table.columnNames other association.keys.primaryKey = key →
      (association.children owner target).childrenAt owner association.keys association.limit db
        owner.table.columnNames other = .ok answer := by
    intro other among same
    have equal : other = row := eq_of_count_map once among inside same cell
    rw [equal]
    refine self.childrenAt_eq read present ?_
    rw [cell, answered]
  have loads := Relation.perParent_one_parent found self.direct joins read self.unlike present
    (by rwa [model]) (by rwa [model]) takes (cell ▸ takes row inside) nonnull once each own
  rw [Association.scopeAt, loads, model, table]

end Association.SelfReferring

section

variable {tables : List TableDefinition} {models : List ModelDefinition} {schema : Schema}
  {session : Session} {owner target : Model} {association : Association} {name : String}
  {record : Record} {key : Value} {rows : List (List Value)} {row : List Value}

theorem Schema.Sound.table_eq (sound : schema.Sound) {left right : Model} (first : left ∈ schema.models)
    (second : right ∈ schema.models) (same : left.table.name = right.table.name) :
    left.table = right.table :=
  List.inj_on_of_nodup_map sound.tableNames (sound.modelTable left first)
    (sound.modelTable right second) same

/-- An association loads what its query for the record's key answers, the key in front of each row. -/
theorem Session.association_loads_behind (serves : session.Serves schema)
    (modelled : schema.model? record.model = some owner)
    (named : owner.association? name = some association)
    (targeted : schema.model? association.target = some target)
    (keyed : record.get? association.keys.primaryKey = some key) (nonnull : key ≠ .null)
    (alive : session.engine.poisoned = false) (distinct : target.table.columnNames.Nodup)
    (fresh : association.keys.foreignKeyAlias ∉ target.table.columnNames)
    (unused : target.isIgnored association.keys.foreignKeyAlias = false) {answer : Rowset}
    (shape : answer.columns = target.choice.header target.table.columnNames ∧
      ∀ picks ∈ answer.rows,
        picks.length = (target.choice.header target.table.columnNames).length)
    (scope : (association.scopeAt owner target key).query.answer session.engine.store.database =
      .ok ⟨association.keys.foreignKeyAlias :: target.choice.header target.table.columnNames,
        answer.rows.map (key :: ·)⟩) :
    ((Session.association record name).on session).1 = .ok (.ofRecords association.single
      ((answer.rows.map (Record.ofRow target answer.columns)).map
        (·.withFirst association.keys.foreignKeyAlias key))) := by
  obtain ⟨chosen, widths⟩ := shape
  have fresh : association.keys.foreignKeyAlias ∉ target.choice.header target.table.columnNames :=
    fun among => fresh (Model.mem_header.mp among).1
  have rowsOf : (answer.rows.map (key :: ·)).map (Record.ofRow target
      (association.keys.foreignKeyAlias :: target.choice.header target.table.columnNames)) =
      (answer.rows.map (Record.ofRow target answer.columns)).map
        (·.withFirst association.keys.foreignKeyAlias key) := by
    rw [List.map_map, List.map_map, chosen]
    refine List.map_congr_left fun picks inside => ?_
    exact Record.ofRow_cons (Model.nodup_choice distinct distinct) (widths picks inside) fresh unused
      key
  rw [association_on serves modelled named targeted keyed nonnull, records_eq serves, alive, scope,
    association.scopeAt_model owner target key]
  simp only [rowsOf]
  rfl

/-- An association of a table with itself loads, for a stored row, the target's rows that the scope
leaves and that point at the row's key, each with the key in front. Every test, sort key and limit of
the scope is one of the target's rows, except that tests for nulls are asked of the stored row itself. -/
theorem Session.association_loads_own_table
    (built : Schema.build tables models = .ok schema) (reached : session.Reached schema)
    (known : owner ∈ schema.models) (named : owner.association? name = some association)
    (targeted : schema.model? association.target = some target)
    (self : association.SelfReferring owner target)
    (stored : session.engine.store.database owner.table.name =
      some ⟨owner.table.columnNames, rows⟩) (inside : row ∈ rows)
    (held : record.model = owner.name ∧ record.values = (owner.record row).values)
    (keyed : record.get? association.keys.primaryKey = some key) (nonnull : key ≠ .null)
    (once : ((rows.map (cellOf owner.table.columnNames · association.keys.primaryKey)).filter
      (· ≠ .null)).Nodup)
    (naive : ∀ other ∈ rows, ∃ children,
      session.records ((association.askedOf owner other).naive target
        (cellOf owner.table.columnNames other association.keys.primaryKey)) = .ok children) :
    ∃ children, session.records ((association.askedOf owner row).naive target key) = .ok children ∧
      ((Session.association record name).on session).1 = .ok (.ofRecords association.single
        (children.map (·.withFirst association.keys.foreignKeyAlias key))) := by
  have sound := Schema.sound_of_build built
  have serves := reached.serves
  have member := List.mem_of_find?_eq_some targeted
  have table := sound.table_eq member known self.shared
  have found : session.engine.store.database target.table.name =
      some ⟨target.table.columnNames, rows⟩ := by rw [table, stored]
  obtain ⟨same, again, typed⟩ := serves.database sound (sound.modelTable owner known)
  rw [stored] at again
  cases again
  have own : (owner.record row).get? association.keys.primaryKey = some key := by
    rw [Record.get?, ← held.2]
    exact keyed
  obtain ⟨column, declared, present, active, cell⟩ :=
    Model.exists_column_of_record self.columns (typed row inside) own
  have takes : ∀ row ∈ rows, column.Takes
      (cellOf owner.table.columnNames row association.keys.primaryKey) := fun row inside =>
    takes_cell (typed row inside) declared
  have one := count_eq_one_of_nodup once nonnull inside cell.symm
  have pointing : ∀ other ∈ rows, ∃ answer, ((association.askedOf owner other).naive target
      (cellOf owner.table.columnNames other association.keys.primaryKey)).query.answer
      session.engine.store.database = .ok answer := by
    intro other among
    obtain ⟨children, done⟩ := naive other among
    obtain ⟨_, answer, answered, _⟩ := answer_of_records serves done
    exact ⟨answer, answered⟩
  obtain ⟨children, done⟩ := naive row inside
  rw [← cell] at done
  obtain ⟨alive, answer, answered, rfl⟩ := answer_of_records serves done
  have scope := self.scopeAt_answer table stored present takes one nonnull inside cell.symm pointing
    answered
  refine ⟨_, done, ?_⟩
  have model : ((association.askedOf owner row).naive target key).model = target :=
    target.all.refine_model _
  have direct := (self.asks row).direct.2.pointingTo association.keys association.limit key
  rw [model]
  refine association_loads_behind serves ?_ named targeted keyed nonnull alive (table ▸ self.columns)
    (table ▸ self.fresh) ?_ (direct.own_rows model found (table ▸ typed) answered) scope
  · rw [held.1]
    exact sound.model?_eq known
  · refine sound.isIgnored_eq_false member ?_
    rw [← Bool.not_eq_true, Table.hasColumn_iff, table]
    exact self.fresh

end

/-!
A schema of leafs below each other. The scope asks for leafs that are not archived, but as a test for
nulls it asks the leaf above them.
-/

namespace Leafs

def tables : List TableDefinition := [
  ⟨"leafs", [.primaryKey "id", .column "parent_id" (.integer 8) true,
    .column "archived" (.integer 8) true]⟩]

def models : List ModelDefinition := [
  ⟨"Leaf", "leafs", none, [], [⟨false, "children", "Leaf",
    [.whereNull "archived", .whereGt "id" (.int 1), .orderByDesc "id", .limit 2], none,
    some "parent_id", none⟩]⟩]

def table : Table :=
  ⟨"leafs", [⟨"id", .integer 8, false, true, true⟩, ⟨"parent_id", .integer 8, true, false, false⟩,
    ⟨"archived", .integer 8, true, false, false⟩]⟩

def children : Association :=
  ⟨"children", false, "Leaf",
    [.whereNull "archived", .whereGt "id" (.int 1), .orderByDesc "id", .limit 2],
    ⟨"id", "parent_id", "parent_id_alias"⟩⟩

def leaf : Model := ⟨"Leaf", table, "id", [], [children]⟩

def schema : Schema := ⟨[table], [leaf]⟩

theorem built : Schema.build tables models = .ok schema := rfl

def session : Session :=
  (Session.reset.on (.start schema ⟨0, []⟩)).2.insertAll [
    ("Leaf", []), ("Leaf", [("parent_id", .int 1)]),
    ("Leaf", [("parent_id", .int 1), ("archived", .int 5)]),
    ("Leaf", [("parent_id", .int 1), ("archived", .int 6)])]

theorem reached : session.Reached schema := (Session.Reached.fresh _).insertAll _

def rows : List (List Value) := [
  [.int 1, .null, .null], [.int 2, .int 1, .null], [.int 3, .int 1, .int 5],
  [.int 4, .int 1, .int 6]]

def engine : Engine := ⟨⟨[⟨"leafs", table.columns, rows, 5⟩]⟩, false⟩

theorem engine_eq : session.engine = engine := rfl

theorem stored : session.engine.store.database leaf.table.name =
    some ⟨leaf.table.columnNames, rows⟩ := rfl

theorem children_self : children.SelfReferring leaf leaf where
  shared := rfl
  unlike := by decide
  own := by
    intro step member
    simp only [children, List.mem_cons, List.not_mem_nil, or_false] at member
    rcases member with rfl | rfl | rfl | rfl <;> simp [Step.Own, leaf, table, Table.columnNames]
  columns := by decide
  foreign := by decide
  fresh := by decide

def root : Record := ⟨"Leaf", [("id", .int 1), ("parent_id", .null), ("archived", .null)], []⟩

theorem cell_id (id parent archived : Value) :
    cellOf leaf.table.columnNames [id, parent, archived] "id" = id := rfl

theorem children_askedOf (id parent archived : Value) :
    children.askedOf leaf [id, parent, archived] =
      { children with scope := [.filter (.isNull false (.const archived)), .whereGt "id" (.int 1),
        .orderByDesc "id", .limit 2] } := rfl

theorem naive_asked : ∀ other ∈ rows, ∃ found, session.records
    ((children.askedOf leaf other).naive leaf (cellOf leaf.table.columnNames other "id")) =
      .ok found := by
  intro other member
  simp only [rows, List.mem_cons, List.not_mem_nil, or_false] at member
  rcases member with rfl | rfl | rfl | rfl
  all_goals
    rw [cell_id, children_askedOf, Session.records_eq reached.serves, engine_eq,
      Relation.query_limited _ 2 rfl rfl]
    exact ⟨_, by cbv⟩

/-- What is read below the first leaf. The scope's test for nulls holds of that leaf, so it drops
neither of the archived ones. -/
theorem records_below_root : session.records (children.scopeAt leaf leaf (.int 1)) = .ok [
    ⟨"Leaf", [("parent_id_alias", .int 1), ("id", .int 4), ("parent_id", .int 1),
      ("archived", .int 6)], []⟩,
    ⟨"Leaf", [("parent_id_alias", .int 1), ("id", .int 3), ("parent_id", .int 1),
      ("archived", .int 5)], []⟩] := by
  rw [Session.records_eq reached.serves, engine_eq, Association.scopeAt, Relation.perParent,
    Relation.besideParent_limited _ _ _ _ 2 rfl rfl]
  cbv

/-- The newest two leafs below the first, which is not archived. -/
theorem association_loads_children :
    ((Session.association root "children").on session).1 = .ok (.many [
      ⟨"Leaf", [("parent_id_alias", .int 1), ("id", .int 4), ("parent_id", .int 1),
        ("archived", .int 6)], []⟩,
      ⟨"Leaf", [("parent_id_alias", .int 1), ("id", .int 3), ("parent_id", .int 1),
        ("archived", .int 5)], []⟩]) := by
  have known : leaf ∈ schema.models := by simp [schema]
  have named : leaf.association? "children" = some children := rfl
  have first : rows.head (by decide) ∈ rows := List.head_mem _
  have keyed : root.get? children.keys.primaryKey = some (.int 1) := rfl
  obtain ⟨found, done, loads⟩ := Session.association_loads_own_table built reached known named rfl
    children_self stored first ⟨rfl, rfl⟩ keyed (by decide) (by decide) naive_asked
  have asked : session.records ((children.askedOf leaf (rows.head (by decide))).naive leaf (.int 1)) =
      .ok [⟨"Leaf", [("id", .int 4), ("parent_id", .int 1), ("archived", .int 6)], []⟩,
        ⟨"Leaf", [("id", .int 3), ("parent_id", .int 1), ("archived", .int 5)], []⟩] := by
    change session.records ((children.askedOf leaf [.int 1, .null, .null]).naive leaf (.int 1)) = _
    rw [children_askedOf, Session.records_eq reached.serves, engine_eq,
      Relation.query_limited _ 2 rfl rfl]
    cbv
  rw [asked] at done
  cases done
  exact loads

/-- The scope leaves one leaf below the first that is not archived; the association loads the two that
are. -/
theorem association_misses_scope :
    Schema.build tables models = .ok schema ∧ session.Reached schema ∧ leaf ∈ schema.models ∧
    leaf.association? "children" = some children ∧ schema.model? children.target = some leaf ∧
    children.SelfReferring leaf leaf ∧
    session.engine.store.database leaf.table.name = some ⟨leaf.table.columnNames, rows⟩ ∧
    (rows.map (cellOf leaf.table.columnNames · children.keys.primaryKey)).Nodup ∧
    (∀ other ∈ rows, ∃ found, session.records (children.naive leaf
      (cellOf leaf.table.columnNames other children.keys.primaryKey)) = .ok found) ∧
    root = leaf.record [.int 1, .null, .null] ∧ root.get? children.keys.primaryKey = some (.int 1) ∧
    session.records (children.naive leaf (.int 1)) =
      .ok [⟨"Leaf", [("id", .int 2), ("parent_id", .int 1), ("archived", .null)], []⟩] ∧
    ((Session.association root "children").on session).1 = .ok (.many [
      ⟨"Leaf", [("parent_id_alias", .int 1), ("id", .int 4), ("parent_id", .int 1),
        ("archived", .int 6)], []⟩,
      ⟨"Leaf", [("parent_id_alias", .int 1), ("id", .int 3), ("parent_id", .int 1),
        ("archived", .int 5)], []⟩]) := by
  refine ⟨built, reached, by simp [schema], rfl, rfl, children_self, rfl, by decide, ?_, rfl, rfl, ?_,
    ?_⟩
  · intro other member
    simp only [rows, List.mem_cons, List.not_mem_nil, or_false] at member
    rcases member with rfl | rfl | rfl | rfl
    all_goals
      rw [show children.keys.primaryKey = "id" from rfl, cell_id, Session.records_eq reached.serves,
        engine_eq, Relation.query_limited _ 2 rfl rfl]
      exact ⟨_, by cbv⟩
  · rw [Session.records_eq reached.serves, engine_eq, Relation.query_limited _ 2 rfl rfl]
    cbv
  · have modelled : schema.model? root.model = some leaf := rfl
    have named : leaf.association? "children" = some children := rfl
    have keyed : root.get? children.keys.primaryKey = some (.int 1) := rfl
    rw [Session.association_on reached.serves modelled named rfl keyed (by decide), records_below_root]
    rfl

end Leafs

end Relata
