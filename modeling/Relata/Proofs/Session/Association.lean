import Relata.Proofs.Record.Loaded
import Relata.Proofs.Relation.Keyed
import Relata.Proofs.Relation.Narrow

/-!
Loading one record's association. The query reads the children of all owners and keeps those behind the
record's key; they are the rows of the target that the scope leaves and that point at the key.
-/

namespace Relata

/-- A relation on its model's own table answers the model's columns. -/
theorem Relation.Direct.own_rows {relation : Relation} {target : Model} {db : Database}
    {targetRows : List (List Value)} {answer : Rowset} (direct : relation.Direct target.table.name)
    (model : relation.model = target)
    (found : db target.table.name = some ⟨target.table.columnNames, targetRows⟩)
    (typed : ∀ row ∈ targetRows, List.Forall₂ Column.Takes target.table.columns row)
    (answered : relation.query.answer db = .ok answer) :
    answer.columns = target.choice.header target.table.columnNames ∧
      ∀ picks ∈ answer.rows,
        picks.length = (target.choice.header target.table.columnNames).length := by
  subst model
  have reads := direct.reads
  have read := direct.read [] found
  refine ⟨reads.columns_eq read answered, fun picks inside => ?_⟩
  obtain ⟨values, stored, picked⟩ := reads.picked_of_mem read answered picks inside
  rw [Model.pick_eq] at picked
  cases picked
  have width : values.length = relation.model.table.columnNames.length := by
    rw [Table.columnNames, List.length_map, (typed values stored).length_eq]
  exact Choice.length_picked width

/-- Owner and target are told apart by the names of their tables, the scope sees nothing of the owner,
and the alias is not a column of the target. -/
structure Association.Apart (association : Association) (owner target : Model) : Prop where
  tables : owner.table.name ≠ target.table.name
  unlike : owner.table.name ≠ lateralName
  narrow : ∀ step ∈ association.scope, step.Narrows owner.table.name
  columns : target.table.columnNames.Nodup
  fresh : association.keys.foreignKeyAlias ∉ target.table.columnNames

/-- The rows of the target that the scope leaves and that point at the key. -/
def Association.naive (association : Association) (target : Model) (key : Value) : Relation :=
  (target.all.refine association.scope).pointingTo association.keys key association.limit

namespace Association.Apart

variable {association : Association} {owner target : Model} {key : Value} {db : Database}
  {rows targetRows : List (List Value)} {answer : Rowset} {column : Column}

theorem children_eq (apart : association.Apart owner target) :
    association.children owner target = target.all.refine association.scope := by
  have other : ¬ (target.table.name == owner.table.name) = true := by
    simpa using Ne.symm apart.tables
  rw [Association.children, if_neg other]

theorem unaware (apart : association.Apart owner target) :
    (target.all.refine association.scope).Unaware target.ref owner.table.name := by
  have all : target.all.Unaware target.ref owner.table.name := by
    refine ⟨rfl, rfl, rfl, rfl, fun e none => ?_, fun term none => ?_⟩
    · cases none
    · cases none
  exact all.refine (Ne.symm apart.tables) apart.narrow

theorem direct (apart : association.Apart owner target) :
    (target.all.refine association.scope).Direct target.table.name :=
  ⟨⟨none, apart.unaware.table⟩, apart.unaware.origin, apart.unaware.items⟩

theorem fresh_header (apart : association.Apart owner target) :
    association.keys.foreignKeyAlias ∉ target.choice.header target.table.columnNames :=
  fun chosen => apart.fresh (Model.mem_header.mp chosen).1

theorem nodup_header (apart : association.Apart owner target) :
    (target.choice.header target.table.columnNames).Nodup :=
  Model.nodup_choice apart.columns apart.columns

theorem naive_rows (apart : association.Apart owner target)
    (found : db target.table.name = some ⟨target.table.columnNames, targetRows⟩)
    (typed : ∀ row ∈ targetRows, List.Forall₂ Column.Takes target.table.columns row)
    (answered : (association.naive target key).query.answer db = .ok answer) :
    answer.columns = target.choice.header target.table.columnNames ∧
      ∀ picks ∈ answer.rows,
        picks.length = (target.choice.header target.table.columnNames).length :=
  (apart.direct.pointingTo association.keys association.limit key).own_rows
    (target.all.refine_model association.scope) found typed answered

/-- What is read of all owners' children for the key of one owner, where the naive query has an answer
for the key of each. -/
theorem scopeAt_answer (apart : association.Apart owner target)
    (owners : db owner.table.name = some ⟨owner.table.columnNames, rows⟩)
    (found : db target.table.name = some ⟨target.table.columnNames, targetRows⟩)
    (present : association.keys.primaryKey ∈ owner.table.columnNames)
    (takes : ∀ row ∈ rows,
      column.Takes (cellOf owner.table.columnNames row association.keys.primaryKey))
    (once : (rows.map (cellOf owner.table.columnNames · association.keys.primaryKey)).count key = 1)
    (nonnull : key ≠ .null)
    (pointing : ∀ row ∈ rows, ∃ answer, (association.naive target (cellOf owner.table.columnNames row
      association.keys.primaryKey)).query.answer db = .ok answer)
    (answered : (association.naive target key).query.answer db = .ok answer) :
    (association.scopeAt owner target key).query.answer db =
      .ok ⟨association.keys.foreignKeyAlias :: target.choice.header target.table.columnNames,
        answer.rows.map (key :: ·)⟩ := by
  have unaware := apart.unaware
  have model : (target.all.refine association.scope).model = target :=
    target.all.refine_model association.scope
  have elsewhere : (target.all.refine association.scope).table.qualifier ≠ owner.table.name := by
    rw [unaware.table]
    exact Ne.symm apart.tables
  obtain ⟨groups, each⟩ : ∃ groups, (target.all.refine association.scope).eachPointing
      association.keys association.limit db ⟨owner.table.columnNames, rows⟩ = .ok groups := by
    refine exists_mapM_eq_ok fun row inside => ?_
    obtain ⟨answer, answered⟩ := pointing row inside
    exact ⟨_, bind_eq_ok.mpr ⟨answer, answered, rfl⟩⟩
  have own : column.Takes key := by
    have among : key ∈ rows.map (cellOf owner.table.columnNames · association.keys.primaryKey) :=
      List.count_pos_iff.mp (by omega)
    obtain ⟨row, inside, rfl⟩ := List.mem_map.mp among
    exact takes row inside
  have loads := Relation.perParent_one_key owners apart.direct unaware.joins found unaware.avoids
    elsewhere apart.unlike present (by rw [model]; exact apart.nodup_header)
    (by rw [model]; exact apart.fresh_header) takes own nonnull once each answered
  rw [Association.scopeAt, apart.children_eq, loads, model]

end Association.Apart

section

variable {tables : List TableDefinition} {models : List ModelDefinition} {schema : Schema}
  {session : Session} {owner target : Model} {association : Association} {name : String}
  {record stored : Record} {current : List Record} {key : Value} {rows : List (List Value)}

theorem count_eq_one_of_nodup {α : Type} {f : α → Value} {items : List α} {item : α}
    (once : ((items.map f).filter (· ≠ .null)).Nodup) (nonnull : key ≠ .null)
    (inside : item ∈ items) (same : f item = key) : (items.map f).count key = 1 := by
  have among : key ∈ (items.map f).filter (· ≠ .null) :=
    List.mem_filter.mpr ⟨same ▸ List.mem_map_of_mem inside, by simpa using nonnull⟩
  have one := List.count_eq_one_of_mem once among
  rwa [List.count_filter (by simpa using nonnull)] at one

theorem count_key_eq_one (cells : ∀ row ∈ rows, (owner.record row).get? name =
      some (cellOf owner.table.columnNames row name))
    (once : (((rows.map owner.record).filterMap (·.get? name)).filter (· ≠ .null)).Nodup)
    (nonnull : key ≠ .null) {row : List Value} (inside : row ∈ rows)
    (cell : key = cellOf owner.table.columnNames row name) :
    (rows.map (cellOf owner.table.columnNames · name)).count key = 1 := by
  have values : (rows.map owner.record).filterMap (·.get? name) =
      rows.map (cellOf owner.table.columnNames · name) := by
    rw [List.filterMap_map, ← List.filterMap_eq_map]
    exact List.filterMap_congr cells
  rw [values] at once
  exact count_eq_one_of_nodup once nonnull inside cell.symm

/-- An association of a record loads the target's rows that the scope leaves and that point at the
record's key, each with the key in front. -/
theorem Session.association_loads_pointing
    (built : Schema.build tables models = .ok schema) (reached : session.Reached schema)
    (known : owner ∈ schema.models) (named : owner.association? name = some association)
    (targeted : schema.model? association.target = some target)
    (apart : association.Apart owner target) (distinct : owner.table.columnNames.Nodup)
    (loaded : session.records owner.all = .ok current) (held : stored ∈ current)
    (same : record.model = stored.model ∧ record.values = stored.values)
    (keyed : record.get? association.keys.primaryKey = some key) (nonnull : key ≠ .null)
    (once : ((current.filterMap (·.get? association.keys.primaryKey)).filter (· ≠ .null)).Nodup)
    (naive : ∀ other ∈ current, ∀ key, other.get? association.keys.primaryKey = some key →
      ∃ children, session.records (association.naive target key) = .ok children) :
    ∃ children, session.records (association.naive target key) = .ok children ∧
      ((Session.association record name).on session).1 = .ok (.ofRecords association.single
        (children.map (·.withFirst association.keys.foreignKeyAlias key))) := by
  have sound := Schema.sound_of_build built
  have serves := reached.serves
  obtain ⟨rows, owners, typed⟩ := serves.database sound (sound.modelTable owner known)
  have member := List.mem_of_find?_eq_some targeted
  obtain ⟨targetRows, found, targetTyped⟩ :=
    serves.database sound (sound.modelTable target member)
  obtain ⟨alive, rfl⟩ := eq_of_records_all serves owners loaded
  obtain ⟨row, inside, rfl⟩ := List.mem_map.mp held
  have own : (owner.record row).get? association.keys.primaryKey = some key := by
    rw [Record.get?, ← same.2]
    exact keyed
  obtain ⟨column, declared, present, active, cell⟩ :=
    Model.exists_column_of_record distinct (typed row inside) own
  have cells : ∀ row ∈ rows, (owner.record row).get? association.keys.primaryKey =
      some (cellOf owner.table.columnNames row association.keys.primaryKey) := fun row inside =>
    Model.get?_record_active distinct (typed row inside) present active
  have takes : ∀ row ∈ rows, column.Takes
      (cellOf owner.table.columnNames row association.keys.primaryKey) := fun row inside =>
    takes_cell (typed row inside) declared
  obtain ⟨children, done⟩ := naive _ held key own
  obtain ⟨_, answer, answered, rfl⟩ := answer_of_records serves done
  refine ⟨_, done, ?_⟩
  have pointing : ∀ row ∈ rows, ∃ answer, (association.naive target (cellOf owner.table.columnNames
      row association.keys.primaryKey)).query.answer session.engine.store.database =
      .ok answer := by
    intro row inside
    obtain ⟨children, done⟩ := naive _ (List.mem_map_of_mem inside) _ (cells row inside)
    obtain ⟨_, answer, answered, _⟩ := answer_of_records serves done
    exact ⟨answer, answered⟩
  have scope := apart.scopeAt_answer owners found present takes
    (count_key_eq_one cells once nonnull inside cell) nonnull pointing answered
  have modelled : schema.model? record.model = some owner := by
    rw [same.1]
    exact sound.model?_eq known
  have unused : target.isIgnored association.keys.foreignKeyAlias = false := by
    refine sound.isIgnored_eq_false member ?_
    rw [← Bool.not_eq_true, Table.hasColumn_iff]
    exact apart.fresh
  have model : (association.naive target key).model = target :=
    target.all.refine_model association.scope
  obtain ⟨chosen, widths⟩ := apart.naive_rows found targetTyped answered
  have rowsOf : (answer.rows.map (key :: ·)).map (Record.ofRow target
      (association.keys.foreignKeyAlias :: target.choice.header target.table.columnNames)) =
      (answer.rows.map (Record.ofRow target answer.columns)).map
        (·.withFirst association.keys.foreignKeyAlias key) := by
    rw [List.map_map, List.map_map, chosen]
    refine List.map_congr_left fun picks inside => ?_
    exact Record.ofRow_cons apart.nodup_header (widths picks inside) apart.fresh_header unused key
  rw [association_on serves modelled named targeted keyed nonnull, records_eq serves, alive, scope,
    association.scopeAt_model owner target key, model]
  simp only [rowsOf]
  rfl

end

namespace Sample

theorem notes_apart : notes.Apart owner note where
  tables := by decide
  unlike := by decide
  narrow := by
    intro step member
    rcases List.mem_cons.mp member with rfl | member
    · trivial
    · rw [List.mem_singleton.mp member]
      trivial
  columns := by decide
  fresh := by decide

theorem records_first : session.records (notes.naive note (.int 7)) = .ok [
    ⟨"Note", [("id", .int 3), ("owner_code", .int 7)], []⟩,
    ⟨"Note", [("id", .int 1), ("owner_code", .int 7)], []⟩] := by
  rw [Session.records_eq reached.serves, engine_eq,
    Relation.query_limited (notes.naive note (.int 7)) 2 rfl rfl]
  cbv

theorem records_none : session.records (notes.naive note .null) = .ok [] := by
  rw [Session.records_eq reached.serves, engine_eq,
    Relation.query_limited (notes.naive note .null) 2 rfl rfl]
  cbv

theorem records_third : session.records (notes.naive note (.int 8)) = .ok [
    ⟨"Note", [("id", .int 2), ("owner_code", .int 8)], []⟩] := by
  rw [Session.records_eq reached.serves, engine_eq,
    Relation.query_limited (notes.naive note (.int 8)) 2 rfl rfl]
  cbv

/-- The two newest notes of the first owner. -/
theorem association_loads_pointing_notes :
    ((Session.association ⟨"Owner", [("id", .int 1), ("code", .int 7)], []⟩ "notes").on session).1 =
      .ok (.many [
        ⟨"Note", [("parent", .int 7), ("id", .int 3), ("owner_code", .int 7)], []⟩,
        ⟨"Note", [("parent", .int 7), ("id", .int 1), ("owner_code", .int 7)], []⟩]) := by
  have known : owner ∈ schema.models := by simp [schema]
  have naive : ∀ other ∈ owners, ∀ key, other.get? "code" = some key →
      ∃ children, session.records (notes.naive note key) = .ok children := by
    intro other member key held
    simp only [owners, List.mem_cons, List.not_mem_nil, or_false] at member
    rcases member with rfl | rfl | rfl
    · cases held
      exact ⟨_, records_first⟩
    · cases held
      exact ⟨_, records_none⟩
    · cases held
      exact ⟨_, records_third⟩
  have named : owner.association? "notes" = some notes := rfl
  have keyed : Record.get? ⟨"Owner", [("id", .int 1), ("code", .int 7)], []⟩ "code" =
      some (.int 7) := rfl
  obtain ⟨children, done, loads⟩ := Session.association_loads_pointing built reached known named rfl
    notes_apart (by decide) records_owners List.mem_cons_self ⟨rfl, rfl⟩ keyed (by decide)
    (by decide) naive
  rw [records_first] at done
  cases done
  exact loads

end Sample

end Relata
