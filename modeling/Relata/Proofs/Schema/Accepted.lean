import Relata.Proofs.Record.Loaded
import Relata.Proofs.Record.Named
import Relata.Schema.Catalog

/-!
Definitions that are accepted. A schema is built exactly from definitions in which names do not repeat and every
name that is used is defined.
-/

namespace Relata

namespace TableDefinition

variable {definition : TableDefinition}

def columnNames (definition : TableDefinition) : List String :=
  (definition.columns.flatMap ColumnSpec.columns).map ColumnDef.name

/-- The names that are declared as keys. -/
def keys (definition : TableDefinition) : List String := definition.columns.filterMap ColumnSpec.key?

/-- The first column with a name that is declared as a key. -/
def key? (definition : TableDefinition) : Option String := definition.columnNames.find? definition.keys.contains

theorem table_columnNames (definition : TableDefinition) :
    definition.table.columnNames = definition.columnNames := by
  rw [table, Table.columnNames, List.map_map]
  rfl

theorem head?_keyColumns (definition : TableDefinition) :
    definition.table.keyColumns.head?.map Column.name = definition.key? := by
  rw [Table.keyColumns, List.head?_filter, table, List.find?_map, Option.map_map, key?, columnNames, List.find?_map]
  rfl

/-- Every name that is declared as a key is the name of a column. -/
theorem mem_columnNames_of_mem_keys {name : String} (declared : name ∈ definition.keys) :
    name ∈ definition.columnNames := by
  obtain ⟨spec, member, key⟩ := List.mem_filterMap.mp declared
  cases spec with
  | primaryKey own =>
      cases key
      have column : ⟨name, .integer 8, false, true⟩ ∈ definition.columns.flatMap ColumnSpec.columns :=
        List.mem_flatMap.mpr ⟨_, member, List.mem_singleton.mpr rfl⟩
      exact List.mem_map_of_mem column
  | timestamps => cases key
  | column => cases key

theorem key?_eq_none_iff : definition.key? = none ↔ definition.keys = [] := by
  rw [key?, List.find?_eq_none]
  constructor
  · intro none
    refine List.eq_nil_iff_forall_not_mem.mpr fun name declared => ?_
    exact none name (mem_columnNames_of_mem_keys declared) (by simpa using declared)
  · intro none
    simp [none]

end TableDefinition

/-- The definition is one of a model on the table: it has a primary key, which is a column of the table and not
ignored, and ignores columns of the table only. -/
structure ModelDefinition.Fits (model : ModelDefinition) (table : TableDefinition) : Prop where
  named : table.name = model.table
  keyed : model.primaryKey ≠ none ∨ table.keys ≠ []
  key : ∀ key, model.primaryKey.or table.key? = some key → key ∈ table.columnNames ∧ key ∉ model.ignored
  ignored : ∀ column ∈ model.ignored, column ∈ table.columnNames

/-- No name is defined twice, and every name that is used is defined. -/
structure WellFormed (tables : List TableDefinition) (models : List ModelDefinition) : Prop where
  tableNames : (tables.map TableDefinition.name).Nodup
  modelNames : (models.map ModelDefinition.name).Nodup
  tables : ∀ model ∈ models, ∃ table ∈ tables, model.Fits table
  associationNames : ∀ model ∈ models, (model.associations.map AssociationDefinition.name).Nodup
  targets : ∀ model ∈ models, ∀ association ∈ model.associations,
    association.target ∈ models.map ModelDefinition.name

section

variable {tables : List TableDefinition} {models : List ModelDefinition} {definition : ModelDefinition}
  {schema : Schema}

theorem Schema.isSome_model?_iff {name : String} :
    (schema.model? name).isSome = true ↔ name ∈ schema.models.map Model.name := by
  simp [Schema.model?]

theorem TableDefinition.map_name_table (tables : List TableDefinition) :
    (tables.map TableDefinition.table).map Table.name = tables.map TableDefinition.name := by
  rw [List.map_map]
  rfl

/-- A model that a definition defines is checked as the definition is. -/
theorem ModelDefinition.fits_of_faultless {model : Model}
    (defined : definition.model (tables.map TableDefinition.table) = .ok model)
    (faultless : model.Faultless schema) :
    (∃ table ∈ tables, definition.Fits table) ∧
      ∀ association ∈ definition.associations, association.target ∈ schema.models.map Model.name := by
  obtain ⟨table, key, found, keyed, _, rfl⟩ := model_eq_ok_iff.mp defined
  obtain ⟨source, member, rfl⟩ := List.mem_map.mp (List.mem_of_find?_eq_some found)
  have named : source.table.name = definition.table := by simpa using List.find?_some found
  rw [keyOn, TableDefinition.head?_keyColumns] at keyed
  obtain ⟨keyColumn, keyActive, ignored, targets⟩ := faultless
  simp only [Table.hasColumn_iff, TableDefinition.table_columnNames] at keyColumn ignored
  refine ⟨⟨source, member, named, ?_, fun other same => ?_, ignored⟩, fun association inside => ?_⟩
  · by_contra neither
    rw [not_or, not_not, not_not, ← TableDefinition.key?_eq_none_iff] at neither
    rw [neither.1, neither.2] at keyed
    cases keyed
  · cases keyed.symm.trans same
    exact ⟨keyColumn, by simpa [Model.isIgnored] using keyActive⟩
  · exact Schema.isSome_model?_iff.mp (targets _ (List.mem_map_of_mem inside))

theorem TableDefinition.find?_table (distinct : (tables.map TableDefinition.name).Nodup)
    {source : TableDefinition} (member : source ∈ tables) :
    (tables.map TableDefinition.table).find? (·.name == source.name) = some source.table := by
  rw [← map_name_table] at distinct
  exact find?_eq_some_of_mem distinct (List.mem_map_of_mem member)

theorem ModelDefinition.exists_model (distinct : (tables.map TableDefinition.name).Nodup)
    {source : TableDefinition} (member : source ∈ tables) (fits : definition.Fits source)
    (once : (definition.associations.map AssociationDefinition.name).Nodup) :
    ∃ model, definition.model (tables.map TableDefinition.table) = .ok model := by
  have keyed : ∃ key, definition.keyOn source.table = some key := by
    rw [keyOn, TableDefinition.head?_keyColumns]
    refine Option.ne_none_iff_exists'.mp fun none => ?_
    obtain ⟨unnamed, undeclared⟩ := Option.or_eq_none_iff.mp none
    exact fits.keyed.elim (· unnamed) (· (TableDefinition.key?_eq_none_iff.mp undeclared))
  obtain ⟨key, keyed⟩ := keyed
  exact ⟨_, model_eq_ok_iff.mpr
    ⟨source.table, key, fits.named ▸ TableDefinition.find?_table distinct member, keyed, once, rfl⟩⟩

theorem ModelDefinition.faultless_of_fits {model : Model}
    (defined : definition.model (tables.map TableDefinition.table) = .ok model)
    (distinct : (tables.map TableDefinition.name).Nodup) {source : TableDefinition} (member : source ∈ tables)
    (fits : definition.Fits source)
    (targets : ∀ association ∈ definition.associations,
      association.target ∈ schema.models.map Model.name) : model.Faultless schema := by
  obtain ⟨table, key, found, keyed, _, rfl⟩ := model_eq_ok_iff.mp defined
  cases (fits.named ▸ TableDefinition.find?_table distinct member).symm.trans found
  rw [keyOn, TableDefinition.head?_keyColumns] at keyed
  obtain ⟨column, active⟩ := fits.key key keyed
  refine ⟨?_, by simpa [Model.isIgnored] using active, fun ignored inside => ?_, fun association inside => ?_⟩
  · rw [Table.hasColumn_iff, TableDefinition.table_columnNames]
    exact column
  · rw [Table.hasColumn_iff, TableDefinition.table_columnNames]
    exact fits.ignored ignored inside
  · obtain ⟨own, listed, rfl⟩ := List.mem_map.mp inside
    exact Schema.isSome_model?_iff.mpr (targets own listed)

theorem Schema.exists_build_iff :
    (∃ schema, Schema.build tables models = .ok schema) ↔ WellFormed tables models := by
  constructor
  · rintro ⟨schema, built⟩
    obtain ⟨same, made, modelNames, tableNames, faultless⟩ := Schema.build_eq_ok_iff.mp built
    rw [same] at made
    rw [same, TableDefinition.map_name_table] at tableNames
    have names : schema.models.map Model.name = models.map ModelDefinition.name :=
      map_eq_of_mapM made fun _ _ => ModelDefinition.model_name
    have each : ∀ definition ∈ models, ∃ model ∈ schema.models,
        definition.model (tables.map TableDefinition.table) = .ok model := fun _ member =>
      exists_of_mem_forall₂ (forall₂_of_mapM made).flip member
    refine ⟨tableNames, modelNames, fun definition member => ?_, fun definition member => ?_,
      fun definition member => ?_⟩
    · obtain ⟨model, known, defined⟩ := each definition member
      exact (ModelDefinition.fits_of_faultless defined (faultless model known)).1
    · obtain ⟨model, _, defined⟩ := each definition member
      obtain ⟨_, _, _, _, once, _⟩ := ModelDefinition.model_eq_ok_iff.mp defined
      exact once
    · obtain ⟨model, known, defined⟩ := each definition member
      exact names ▸ (ModelDefinition.fits_of_faultless defined (faultless model known)).2
  · rintro ⟨tableNames, modelNames, fitting, associationNames, targets⟩
    have each : ∀ definition ∈ models, ∃ model,
        definition.model (tables.map TableDefinition.table) = .ok model := by
      intro definition member
      obtain ⟨source, declared, fits⟩ := fitting definition member
      exact ModelDefinition.exists_model tableNames declared fits (associationNames definition member)
    obtain ⟨members, made⟩ := exists_mapM_eq_ok each
    have names : members.map Model.name = models.map ModelDefinition.name :=
      map_eq_of_mapM made fun _ _ => ModelDefinition.model_name
    refine ⟨⟨tables.map TableDefinition.table, members⟩, Schema.build_eq_ok_iff.mpr
      ⟨rfl, made, modelNames, TableDefinition.map_name_table tables ▸ tableNames, fun model known => ?_⟩⟩
    obtain ⟨definition, member, defined⟩ := exists_of_mem_mapM made model known
    obtain ⟨source, declared, fits⟩ := fitting definition member
    exact ModelDefinition.faultless_of_fits defined tableNames declared fits
      fun association inside => names ▸ targets definition member association inside

end

namespace ListedTable

variable {listed : ListedTable}

/-- Identifiers of columns that are found under them stand for these columns. -/
theorem mapM_column? {columns : List ListedColumn}
    (found : ∀ column ∈ columns, listed.column? column.id = some column) :
    (columns.map ListedColumn.id).mapM listed.column? = some columns := by
  induction columns with
  | nil => rfl
  | cons first rest ih =>
      rw [List.map_cons, List.mapM_cons, found first List.mem_cons_self,
        ih fun column member => found column (List.mem_cons_of_mem _ member)]
      rfl

end ListedTable

namespace TableDefinition

variable {definition : TableDefinition} {id : TableId} {column : ListedColumn}

theorem listed_table (definition : TableDefinition) (id : TableId) :
    (definition.listed id).table = definition.table := by
  have columns : (definition.listed id).columns.map ListedColumn.toColumn = definition.table.columns := by
    refine List.ext_getElem? fun j => ?_
    rw [listed, List.getElem?_map, List.getElem?_mapIdx, Option.map_map]
    exact Option.map_id'
  rw [ListedTable.table, columns]
  rfl

theorem listed_column_id {j : Nat} (place : (definition.listed id).columns[j]? = some column) :
    column.id = ⟨id, j⟩ := by
  rw [listed, List.getElem?_mapIdx] at place
  obtain ⟨own, _, rfl⟩ := Option.map_eq_some_iff.mp place
  rfl

theorem listed_column? (member : column ∈ (definition.listed id).columns) :
    (definition.listed id).column? column.id = some column := by
  obtain ⟨j, place⟩ := List.mem_iff_getElem?.mp member
  rw [ListedTable.column?, listed_column_id place]
  exact place

theorem listed_keyColumns? (definition : TableDefinition) (id : TableId) :
    (definition.listed id).keyColumns? = some ((definition.listed id).columns.filter (·.primaryKey)) :=
  ListedTable.mapM_column? fun _ member => listed_column? (List.mem_of_mem_filter member)

end TableDefinition

/-- The tables with identifiers are these tables. Every identifier is the place of what it identifies, where a
lookup finds it, and the columns of the primary keys are among those of their tables. -/
structure Catalog.Places (catalog : Catalog) (tables : List Table) : Prop where
  tables : catalog.tables.map ListedTable.table = tables
  tableIds : ∀ (i : Nat) (listed : ListedTable), catalog.tables[i]? = some listed → listed.id = ⟨i⟩
  columnIds : ∀ listed ∈ catalog.tables, ∀ (j : Nat) (column : ListedColumn), listed.columns[j]? = some column →
    column.id = ⟨listed.id, j⟩
  found : ∀ listed ∈ catalog.tables, catalog.table? listed.id = some listed ∧
    ∀ column ∈ listed.columns, listed.column? column.id = some column
  keys : ∀ listed ∈ catalog.tables, ∃ keys, listed.keyColumns? = some keys ∧
    keys.map ListedColumn.toColumn = listed.table.keyColumns

theorem Catalog.ofDefinitions_places (definitions : List TableDefinition) :
    (ofDefinitions definitions).Places (definitions.map TableDefinition.table) := by
  have placed : ∀ i listed, (ofDefinitions definitions).tables[i]? = some listed →
      ∃ definition : TableDefinition, listed = definition.listed ⟨i⟩ := by
    intro i listed place
    rw [ofDefinitions, List.getElem?_mapIdx] at place
    obtain ⟨definition, _, rfl⟩ := Option.map_eq_some_iff.mp place
    exact ⟨definition, rfl⟩
  have each : ∀ listed ∈ (ofDefinitions definitions).tables, ∃ i definition,
      (ofDefinitions definitions).tables[i]? = some listed ∧ listed = TableDefinition.listed definition ⟨i⟩ := by
    intro listed member
    obtain ⟨i, place⟩ := List.mem_iff_getElem?.mp member
    obtain ⟨definition, same⟩ := placed i listed place
    exact ⟨i, definition, place, same⟩
  refine ⟨?_, fun i listed place => ?_, fun listed member j column place => ?_, fun listed member => ?_,
    fun listed member => ?_⟩
  · refine List.ext_getElem? fun i => ?_
    rw [ofDefinitions, List.getElem?_map, List.getElem?_mapIdx, Option.map_map, List.getElem?_map]
    exact congrArg (Option.map · _) (funext fun definition => definition.listed_table _)
  · obtain ⟨definition, rfl⟩ := placed i listed place
    rfl
  · obtain ⟨i, definition, _, rfl⟩ := each listed member
    exact TableDefinition.listed_column_id place
  · obtain ⟨i, definition, place, rfl⟩ := each listed member
    exact ⟨place, fun column => TableDefinition.listed_column?⟩
  · obtain ⟨i, definition, _, rfl⟩ := each listed member
    refine ⟨_, definition.listed_keyColumns? _, ?_⟩
    rw [ListedTable.table, Table.keyColumns, List.filter_map]
    rfl

theorem Store.database_fresh {declared : List Table} (distinct : (declared.map Table.name).Nodup) {table : Table}
    (known : table ∈ declared) :
    (Store.fresh declared).database table.name = some ⟨table.columnNames, []⟩ := by
  have found : (Store.fresh declared).table? table.name = some (.empty table) := by
    have first := find?_eq_some_of_mem distinct known
    rw [Store.table?, Store.fresh, List.find?_map]
    exact congrArg (Option.map StoredTable.empty) first
  rw [Store.database, found]
  rfl

/-- A schema is built exactly from well-formed definitions. Its tables and columns stand where their identifiers
say, its associations have scopes, and its models can be read as soon as its tables have been put in place. -/
theorem Schema.build_accepts (tables : List TableDefinition) (models : List ModelDefinition) :
    ((∃ schema, Schema.build tables models = .ok schema) ↔ WellFormed tables models) ∧
    ∀ schema, Schema.build tables models = .ok schema →
      (Catalog.ofDefinitions tables).Places schema.tables ∧
      (∀ owner ∈ schema.models, ∀ association ∈ owner.associations,
        ∃ scope, association.scopeFor schema owner = .ok scope) ∧
      ∀ engine : Engine, engine.poisoned = false →
        ∃ after, engine.reset schema.tables = (.ok (), after) ∧ ∀ model ∈ schema.models,
          (after.exec (.query model.all.query)).1 = .ok (.rows ⟨model.activeNames, []⟩) := by
  refine ⟨Schema.exists_build_iff, fun schema built => ⟨?_, fun owner known association listed => ?_,
    fun engine usable => ?_⟩⟩
  · rw [(Schema.build_eq_ok_iff.mp built).1]
    exact Catalog.ofDefinitions_places tables
  · have sound := Schema.sound_of_build built
    obtain ⟨target, targeted⟩ := Option.isSome_iff_exists.mp (sound.targets owner known association listed)
    rw [Association.scopeFor, Schema.model_eq_ok_iff.mpr targeted]
    exact ⟨_, rfl⟩
  · have sound := Schema.sound_of_build built
    refine ⟨{ engine with store := .fresh schema.tables }, by simp [Engine.reset, usable], fun model known => ?_⟩
    have found := Store.database_fresh sound.tableNames (sound.modelTable model known)
    rw [Engine.exec, if_neg (by simp [usable])]
    simp only [Model.all_answer found, Model.header_choice]
    rfl

namespace Sample

/-- The schema of owners and notes. -/
theorem build_accepts_notes :
    WellFormed tables models ∧ (Catalog.ofDefinitions tables).Places schema.tables ∧
      (∃ scope, notes.scopeFor schema owner = .ok scope) ∧
      ∃ after, Engine.new.reset schema.tables = (.ok (), after) ∧
        (after.exec (.query note.all.query)).1 = .ok (.rows ⟨["id", "owner_code"], []⟩) := by
  obtain ⟨accepted, each⟩ := Schema.build_accepts tables models
  obtain ⟨places, scopes, readable⟩ := each schema built
  obtain ⟨after, done, answers⟩ := readable .new rfl
  exact ⟨accepted.mp ⟨schema, built⟩, places, scopes owner (by simp [schema]) notes (by simp [owner]), after,
    done, answers note (by simp [schema])⟩

end Sample

end Relata
