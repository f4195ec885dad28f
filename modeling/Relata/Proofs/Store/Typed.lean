import Mathlib.Data.List.Nodup
import Relata.Proofs.Schema.Sound
import Relata.Store

/-!
What stored tables hold. Every insert checks the row it stores, so in any store that resets and
inserts lead to, each row of a table has one value for each column, and a value that the column takes.
-/

namespace Relata

/-- The column may store the value. -/
def Column.Takes (column : Column) (value : Value) : Prop :=
  column.type.accepts value = true ∧ (value = .null → column.nullable = true)

/-- The stored table is the table of the schema with rows that its columns take. -/
structure StoredTable.Of (stored : StoredTable) (table : Table) : Prop where
  name : stored.name = table.name
  columns : stored.columns = table.columns
  rows : ∀ row ∈ stored.rows, List.Forall₂ Column.Takes table.columns row

/-- The store has the tables of a schema and no others. -/
structure Store.Of (store : Store) (tables : List Table) : Prop where
  names : store.tables.map StoredTable.name = tables.map Table.name
  each : ∀ stored ∈ store.tables, ∃ table ∈ tables, stored.Of table

theorem Column.takes_of_fault?_eq_none {column : Column} {relation : String} {value : Value}
    (accepted : column.fault? relation value = none) : column.Takes value := by
  rw [Column.fault?] at accepted
  split at accepted
  · cases accepted
  rename_i allowed
  split at accepted
  · rename_i typed
    refine ⟨typed, fun null => ?_⟩
    subst null
    simpa [Value.isNull] using allowed
  · cases accepted

theorem assign_length {relation : String} {columns : List Column} {entries : List (String × Expr)}
    {row after : List Value} (done : assign relation columns entries row = .ok after) :
    after.length = row.length := by
  induction entries generalizing row with
  | nil =>
      cases done
      rfl
  | cons entry rest ih =>
      obtain ⟨name, e⟩ := entry
      rw [assign] at done
      split at done
      · cases done
      split at done
      · rw [ih done, List.length_set]
      · cases done

theorem settle_takes {relation : String} {columns : List Column} {values row : List Value}
    {next after : Int64} (width : values.length = columns.length)
    (done : settle relation columns values next = (.ok row, after)) :
    List.Forall₂ Column.Takes columns row := by
  induction columns generalizing values row next after with
  | nil =>
      rw [settle] at done
      · cases done
        exact .nil
      · simp
  | cons column columns ih =>
      cases values with
      | nil => cases width
      | cons value values =>
          rw [settle] at done
          split at done
          · cases done
          split at done
          · cases done
          rename_i accepted
          split at done
          · rename_i settled
            cases done
            exact .cons (Column.takes_of_fault?_eq_none accepted)
              (ih (Nat.succ.inj width) settled)
          · cases done

theorem StoredTable.Of.insert {stored : StoredTable} {table : Table} (of : stored.Of table)
    (row : Insert) : (stored.insert row).2.Of table := by
  refine ⟨(stored.insert_name row).trans of.name, (stored.insert_columns row).trans of.columns, ?_⟩
  rw [StoredTable.insert]
  split
  · exact of.rows
  rename_i values assigned
  split
  · exact of.rows
  rename_i after next settled
  have width : values.length = stored.columns.length := by
    rw [assign_length assigned, List.length_map]
  have takes := settle_takes width settled
  rw [of.columns] at takes
  intro other member
  rcases List.mem_append.mp member with member | member
  · exact of.rows other member
  · rw [List.mem_singleton.mp member]
    exact takes

theorem Store.fresh_of (tables : List Table) : (Store.fresh tables).Of tables := by
  refine ⟨by simp [Store.fresh, StoredTable.empty], fun stored member => ?_⟩
  obtain ⟨table, known, rfl⟩ := List.mem_map.mp member
  exact ⟨table, known, rfl, rfl, fun row absent => absurd absent List.not_mem_nil⟩

theorem Store.Of.replace {store : Store} {tables : List Table} {stored : StoredTable} {table : Table}
    (of : store.Of tables) (known : table ∈ tables) (replaced : stored.Of table) :
    (store.replace stored).Of tables := by
  refine ⟨?_, fun other member => ?_⟩
  · rw [← of.names, Store.replace, List.map_map]
    refine List.map_congr_left fun other _ => ?_
    by_cases same : other.name = stored.name <;> simp [same]
  · obtain ⟨before, present, rfl⟩ := List.mem_map.mp member
    split
    · exact ⟨table, known, replaced⟩
    · exact of.each before present

theorem Store.Of.insert {store : Store} {tables : List Table} (of : store.Of tables) (row : Insert) :
    (store.insert row).2.Of tables := by
  rw [Store.insert]
  split
  · exact of
  rename_i stored found
  obtain ⟨table, known, before⟩ := of.each stored (List.mem_of_find?_eq_some found)
  have after := before.insert row
  split
  · rename_i inserted
    rw [inserted] at after
    exact of.replace known after
  · rename_i inserted
    rw [inserted] at after
    exact of.replace known after

theorem Store.Of.database {store : Store} {tables : List Table} (of : store.Of tables)
    (distinct : (tables.map Table.name).Nodup) {table : Table} (known : table ∈ tables) :
    ∃ rows, store.database table.name = some ⟨table.columnNames, rows⟩ ∧
      ∀ row ∈ rows, List.Forall₂ Column.Takes table.columns row := by
  have named : table.name ∈ store.tables.map StoredTable.name :=
    of.names ▸ List.mem_map_of_mem known
  obtain ⟨stored, member, name⟩ := List.mem_map.mp named
  have found : store.table? table.name = some stored :=
    name ▸ find?_eq_some_of_mem (of.names ▸ distinct) member
  obtain ⟨other, present, same⟩ := of.each stored member
  have equal : other = table :=
    List.inj_on_of_nodup_map distinct present known (same.name.symm.trans name)
  subst equal
  refine ⟨stored.rows, ?_, same.rows⟩
  rw [Store.database, found, Option.map_some, StoredTable.rowset, same.columns, Table.columnNames]

end Relata
