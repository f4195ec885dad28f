import Mathlib.Tactic.TFAE
import Relata.Proofs.Schema.Accepted

/-!
Names of columns. No definition is refused because of the names of its columns: the columns of a table that was built
can be told apart by name exactly if the declarations give each name once, `created_at` and `updated_at` of the time
stamps included.
-/

namespace Relata

namespace Table

/-- A value that an insert gives to the name goes to the column in that place. -/
def Stores (table : Table) (name : String) (i : Nat) : Prop :=
  ∀ row v, assign table.name table.columns [(name, .const v)] row = .ok (row.set i v)

/-- A query that looks the name up has the value in that place. -/
def Reads (table : Table) (name : String) (i : Nat) : Prop :=
  ∀ qualifier row, Binding.value ⟨⟨qualifier, table.columnNames⟩, row⟩ name = .ok (row[i]?.getD .null)

/-- A record of a row has the value in that place under the name, unless the name is ignored. -/
def Shows (table : Table) (name : String) (i : Nat) : Prop :=
  ∀ (model : Model) row, model.isIgnored name = false → row.length = table.columns.length →
    (Record.ofRow model table.columnNames row).get? name = row[i]?

variable {table : Table} {column : Column} {name : String} {i j : Nat}

theorem findIdx?_name (distinct : table.columnNames.Nodup) (place : table.columns[i]? = some column) :
    table.columns.findIdx? (·.name == column.name) = some i := by
  obtain ⟨inside, here⟩ := List.getElem?_eq_some_iff.mp place
  refine List.findIdx?_eq_some_iff_getElem.mpr ⟨inside, by simp [here], fun j before => ?_⟩
  have apart := (List.nodup_iff_getElem?_ne_getElem?.mp distinct) j i before
    (by rwa [columnNames, List.length_map])
  rw [columnNames, List.getElem?_map, List.getElem?_map, place,
    List.getElem?_eq_getElem (by omega : j < table.columns.length)] at apart
  simpa using fun same => apart (congrArg some same)

theorem stores_name (distinct : table.columnNames.Nodup) (place : table.columns[i]? = some column) :
    table.Stores column.name i := by
  intro row v
  rw [assign, findIdx?_name distinct place]
  rfl

theorem reads_name (distinct : table.columnNames.Nodup) (place : table.columns[i]? = some column) :
    table.Reads column.name i := by
  intro qualifier row
  have index : table.columnNames.idxOf? column.name = some i := by
    rw [columnNames, List.idxOf?, List.findIdx?_map]
    exact findIdx?_name distinct place
  rw [Binding.value, index]

theorem shows_name (distinct : table.columnNames.Nodup) (place : table.columns[i]? = some column) :
    table.Shows column.name i := by
  intro model row active width
  have inside : i < row.length := by
    rw [width]
    exact (List.getElem?_eq_some_iff.mp place).1
  have present : column.name ∈ table.columnNames := List.mem_map_of_mem (List.mem_of_getElem? place)
  have cell : Binding.value ⟨⟨"", table.columnNames⟩, row⟩ column.name =
      .ok (cellOf table.columnNames row column.name) := Binding.value_cell present
  rw [reads_name distinct place "" row, List.getElem?_eq_getElem inside] at cell
  rw [Record.get?_ofRow distinct (width.trans (List.length_map _).symm),
    if_pos ⟨present, by simp [active]⟩, List.getElem?_eq_getElem inside, ← Except.ok.inj cell]
  rfl

/-- A row of nulls with something else in one place. -/
def marked (table : Table) (i : Nat) : List Value :=
  (table.columns.map fun _ => .null).set i (.bool true)

theorem length_marked (table : Table) (i : Nat) : (table.marked i).length = table.columns.length := by
  rw [marked, List.length_set, List.length_map]

theorem getElem?_marked (inside : j < table.columns.length) :
    (table.marked i)[j]? = some (if i = j then .bool true else .null) := by
  rw [marked, List.getElem?_set, List.length_map]
  by_cases same : i = j
  · simp [same, inside]
  · simp [same, inside]

/-- The value in the marked place is in no other. -/
theorem eq_of_getElem?_marked (first : i < table.columns.length) (second : j < table.columns.length)
    (same : (table.marked i)[i]? = (table.marked i)[j]?) : i = j := by
  by_contra different
  rw [getElem?_marked first, getElem?_marked second, if_pos rfl, if_neg different] at same
  cases same

theorem Stores.eq (here : table.Stores name i) (there : table.Stores name j) (first : i < table.columns.length) :
    i = j := by
  have same : table.marked i = table.marked j := Except.ok.inj ((here _ _).symm.trans (there _ _))
  have marks : (table.marked j)[i]? = some (.bool true) := by
    rw [← same, getElem?_marked first, if_pos rfl]
  rw [getElem?_marked first] at marks
  by_contra different
  rw [if_neg (Ne.symm different)] at marks
  cases marks

theorem Reads.eq (here : table.Reads name i) (there : table.Reads name j) (first : i < table.columns.length)
    (second : j < table.columns.length) : i = j := by
  have same := (here "" (table.marked i)).symm.trans (there "" (table.marked i))
  refine eq_of_getElem?_marked first second ?_
  rw [getElem?_marked first, getElem?_marked second] at same ⊢
  exact congrArg some (Except.ok.inj same)

theorem Shows.eq (here : table.Shows name i) (there : table.Shows name j) (first : i < table.columns.length)
    (second : j < table.columns.length) : i = j := by
  let plain : Model := ⟨"", table, "", [], []⟩
  refine eq_of_getElem?_marked first second ?_
  exact (here plain _ rfl (table.length_marked i)).symm.trans (there plain _ rfl (table.length_marked i))

/-- Names are distinct if what they stand for in their own places tells the places apart. -/
theorem nodup_of_places {StandsFor : String → Nat → Prop}
    (apart : ∀ name i j, i < table.columns.length → j < table.columns.length → StandsFor name i →
      StandsFor name j → i = j)
    (each : ∀ i column, table.columns[i]? = some column → StandsFor column.name i) :
    table.columnNames.Nodup := by
  refine List.nodup_iff_getElem?_ne_getElem?.mpr fun i j before inside same => ?_
  rw [columnNames, List.length_map] at inside
  have first : i < table.columns.length := Nat.lt_trans before inside
  rw [columnNames, List.getElem?_map, List.getElem?_map, List.getElem?_eq_getElem first,
    List.getElem?_eq_getElem inside] at same
  have name : table.columns[i].name = table.columns[j].name := Option.some.inj same
  have equal := apart _ i j first inside (each i _ (List.getElem?_eq_getElem first))
    (name ▸ each j _ (List.getElem?_eq_getElem inside))
  omega

theorem columnNames_create (table : Table) :
    table.create.columns.map ColumnDef.name = table.columnNames := by
  rw [create, List.map_map]
  rfl

/-- The columns of a table are told apart by their names everywhere or nowhere. -/
theorem told_apart (table : Table) : List.TFAE [
    table.columnNames.Nodup,
    ∀ i column, table.columns[i]? = some column → table.Stores column.name i,
    ∀ i column, table.columns[i]? = some column → table.Reads column.name i,
    ∀ i column, table.columns[i]? = some column → table.Shows column.name i] := by
  tfae_have 1 → 2 := fun distinct i column place => stores_name distinct place
  tfae_have 1 → 3 := fun distinct i column place => reads_name distinct place
  tfae_have 1 → 4 := fun distinct i column place => shows_name distinct place
  tfae_have 2 → 1 := nodup_of_places fun _ _ _ first _ here there => here.eq there first
  tfae_have 3 → 1 := nodup_of_places fun _ _ _ first second here there => here.eq there first second
  tfae_have 4 → 1 := nodup_of_places fun _ _ _ first second here there => here.eq there first second
  tfae_finish

end Table

namespace TableDefinition

variable {definition : TableDefinition} {spec : ColumnSpec}

theorem primaryKey_create (definition : TableDefinition) :
    definition.table.create.primaryKey = definition.columnNames.filter definition.keys.contains := by
  have listed : definition.table.create.primaryKey =
      (definition.table.columns.filter Column.primaryKey).map Column.name := rfl
  rw [listed, table, columnNames, List.filter_map, List.filter_map, List.map_map]
  rfl

/-- A primary key lists no column twice exactly if no column has the name of a key but the key. -/
theorem nodup_primaryKey_iff :
    definition.table.create.primaryKey.Nodup ↔ ∀ key ∈ definition.keys, definition.columnNames.count key = 1 := by
  rw [primaryKey_create, List.nodup_iff_count_le_one]
  constructor
  · intro once key declared
    have listed := once key
    rw [List.count_filter (by simpa using declared)] at listed
    have present := List.count_pos_iff.mpr (mem_columnNames_of_mem_keys declared)
    omega
  · intro once name
    by_cases declared : name ∈ definition.keys
    · rw [List.count_filter (by simpa using declared), once name declared]
    · have absent : name ∉ definition.columnNames.filter definition.keys.contains := fun listed =>
        declared (by simpa using (List.mem_filter.mp listed).2)
      rw [List.count_eq_zero_of_not_mem absent]
      exact Nat.zero_le 1

/-- The definition with one more declaration. -/
def also (definition : TableDefinition) (spec : ColumnSpec) : TableDefinition :=
  { definition with columns := definition.columns ++ [spec] }

theorem columnNames_also :
    (definition.also spec).columnNames = definition.columnNames ++ spec.columns.map ColumnDef.name := by
  simp [columnNames, also]

theorem keys_also (plain : spec.key? = none) : (definition.also spec).keys = definition.keys := by
  simp [keys, also, plain]

theorem key?_also (plain : spec.key? = none)
    (repeats : ∀ column ∈ spec.columns, column.name ∈ definition.columnNames) :
    (definition.also spec).key? = definition.key? := by
  rw [key?, keys_also plain, columnNames_also, List.find?_append]
  cases found : definition.columnNames.find? definition.keys.contains with
  | some name => rw [key?, found, Option.some_or]
  | none =>
      rw [key?, found, Option.none_or, List.find?_eq_none]
      intro name member
      obtain ⟨column, declared, rfl⟩ := List.mem_map.mp member
      exact List.find?_eq_none.mp found _ (repeats column declared)

theorem mem_columnNames_also (repeats : ∀ column ∈ spec.columns, column.name ∈ definition.columnNames)
    {name : String} : name ∈ (definition.also spec).columnNames ↔ name ∈ definition.columnNames := by
  rw [columnNames_also, List.mem_append, or_iff_left_iff_imp]
  intro again
  obtain ⟨column, declared, rfl⟩ := List.mem_map.mp again
  exact repeats column declared

end TableDefinition

section

variable {tables : List TableDefinition} {models : List ModelDefinition} {schema : Schema}

theorem ModelDefinition.Fits.also {model : ModelDefinition} {definition : TableDefinition} {spec : ColumnSpec}
    (fits : model.Fits definition) (plain : spec.key? = none)
    (repeats : ∀ column ∈ spec.columns, column.name ∈ definition.columnNames) :
    model.Fits (definition.also spec) where
  named := fits.named
  keyed := by
    rw [TableDefinition.keys_also plain]
    exact fits.keyed
  key := fun key chosen => by
    rw [TableDefinition.key?_also plain repeats] at chosen
    rw [TableDefinition.mem_columnNames_also repeats]
    exact fits.key key chosen
  ignored := fun column member =>
    (TableDefinition.mem_columnNames_also repeats).mpr (fits.ignored column member)

/-- Declaring a column of a table again leaves well-formed definitions well-formed. -/
theorem WellFormed.also {before after : List TableDefinition} {definition : TableDefinition} {spec : ColumnSpec}
    (formed : WellFormed (before ++ definition :: after) models) (plain : spec.key? = none)
    (repeats : ∀ column ∈ spec.columns, column.name ∈ definition.columnNames) :
    WellFormed (before ++ definition.also spec :: after) models where
  tableNames := by
    have names := formed.tableNames
    rw [List.map_append, List.map_cons] at names ⊢
    exact names
  modelNames := formed.modelNames
  tables := fun model member => by
    obtain ⟨table, listed, fits⟩ := formed.tables model member
    rcases List.mem_append.mp listed with first | rest
    · exact ⟨table, List.mem_append_left _ first, fits⟩
    rcases List.mem_cons.mp rest with rfl | last
    · exact ⟨_, List.mem_append_right _ List.mem_cons_self, fits.also plain repeats⟩
    · exact ⟨table, List.mem_append_right _ (List.mem_cons_of_mem _ last), fits⟩
  associationNames := formed.associationNames
  targets := formed.targets

/-- The columns of a built table have the names of the declarations, in their order. If the declarations give each
name once, the table's `CREATE TABLE` lists no column twice, and every name stands for its own column where a row is
inserted, where a query looks the name up and in a record; if they do not, each of these fails. No key column is listed
twice exactly if no other column has a key's name. Nothing of this is checked: with a column of it declared
again the schema is built as before. -/
theorem Schema.build_tells_columns_apart (built : Schema.build tables models = .ok schema) :
    schema.tables = tables.map TableDefinition.table ∧
    (∀ definition ∈ tables,
      List.TFAE [
        definition.columnNames.Nodup,
        (definition.table.create.columns.map ColumnDef.name).Nodup,
        ∀ i column, definition.table.columns[i]? = some column → definition.table.Stores column.name i,
        ∀ i column, definition.table.columns[i]? = some column → definition.table.Reads column.name i,
        ∀ i column, definition.table.columns[i]? = some column → definition.table.Shows column.name i] ∧
      (definition.table.create.primaryKey.Nodup ↔
        ∀ key ∈ definition.keys, definition.columnNames.count key = 1)) ∧
    ∀ before definition after (spec : ColumnSpec), tables = before ++ definition :: after → spec.key? = none →
      (∀ column ∈ spec.columns, column.name ∈ definition.columnNames) →
      ∃ again, Schema.build (before ++ definition.also spec :: after) models = .ok again := by
  refine ⟨(Schema.build_eq_ok_iff.mp built).1,
    fun definition _ => ⟨?_, TableDefinition.nodup_primaryKey_iff⟩, ?_⟩
  · have apart := definition.table.told_apart
    rw [Table.columnNames_create, definition.table_columnNames]
    rw [definition.table_columnNames] at apart
    exact List.tfae_cons_self.mpr apart
  · rintro before definition after spec rfl plain repeats
    exact Schema.exists_build_iff.mpr ((Schema.exists_build_iff.mp ⟨schema, built⟩).also plain repeats)

end

namespace Sample

/-- Both tables of owners and notes have columns that can be told apart; a note's body declared again is one that
cannot. -/
theorem build_tells_columns_apart_notes :
    Schema.build tables models = .ok schema ∧
      (∀ i column, noteTable.columns[i]? = some column → noteTable.Stores column.name i) ∧
      noteTable.create.primaryKey.Nodup ∧
      ∃ again, Schema.build
        [tables[0], tables[1].also (.column "body" .text true)] models = .ok again := by
  obtain ⟨_, each, further⟩ := Schema.build_tells_columns_apart built
  obtain ⟨told, keys⟩ := each tables[1] (by simp [tables])
  refine ⟨built, (told.out 0 2).mp (by decide), keys.mpr (by decide), ?_⟩
  exact further [tables[0]] tables[1] [] (.column "body" .text true) rfl rfl (by decide)

end Sample

/-! A table of notes with two columns of one name. -/

namespace Repeated

def tables : List TableDefinition := [⟨"notes", [.primaryKey "id", .column "id" .text false]⟩]

def models : List ModelDefinition := [⟨"Note", "notes", none, [], []⟩]

def table : Table := ⟨"notes", [⟨"id", .integer 8, false, true, true⟩, ⟨"id", .text, false, true, false⟩]⟩

/-- The definitions are accepted, the table has both columns and both in its key, and the second one is left without a
value that it needs, whatever is inserted under the name. -/
theorem built_with_repeated_column :
    Schema.build tables models = .ok ⟨[table], [⟨"Note", table, "id", [], []⟩]⟩ ∧
      ¬ table.columnNames.Nodup ∧ table.create.primaryKey = ["id", "id"] ∧ ¬ table.Stores "id" 1 ∧
      ((StoredTable.empty table).insert ⟨.table "notes" none, ["id"], [.const (.text "a")], true⟩).1 =
        .error (.wrongType "id" (.integer 8) .text) ∧
      ((StoredTable.empty table).insert ⟨.table "notes" none, ["id"], [.const (.int 1)], true⟩).1 =
        .error (.nullValue "id" "notes") := by
  refine ⟨rfl, by decide, rfl, fun stores => ?_, rfl, rfl⟩
  have second := stores [.null, .null] (.bool true)
  cases second

end Repeated

end Relata
