import Relata.Proofs.Record.Rows
import Relata.Proofs.Session.Loads

/-!
Records of a model's own table. A relation that reads the table and selects nothing loads, for each
row that it answers, the record of that row.
-/

namespace Relata

namespace Model

/-- The record of a row of the model's table. -/
def record (model : Model) (row : List Value) : Record :=
  .ofRow model (model.choice.header model.table.columnNames)
    (model.choice.picked model.table.columnNames row)

variable {model : Model} {row : List Value} {name qualifier : String}

theorem pick_eq :
    model.choice.pick ⟨⟨qualifier, model.table.columnNames⟩, row⟩ =
      .ok (model.choice.picked model.table.columnNames row) :=
  Choice.pick_eq fun _ chosen => (mem_header.mp chosen).1

theorem get?_record (distinct : model.table.columnNames.Nodup)
    (width : row.length = model.table.columnNames.length) :
    (model.record row).get? name =
      if name ∈ model.table.columnNames ∧ model.isIgnored name = false then
        some (cellOf model.table.columnNames row name)
      else none := by
  have columns : (model.choice.header model.table.columnNames).Nodup :=
    nodup_choice distinct distinct
  rw [record, Record.get?_ofRow columns (Choice.length_picked width)]
  by_cases chosen : name ∈ model.choice.header model.table.columnNames
  · have active := mem_header.mp chosen
    rw [if_pos ⟨chosen, by simp [active.2]⟩, if_pos active, Choice.cellOf_picked chosen]
  · rw [if_neg fun both => chosen both.1, if_neg fun active => chosen (mem_header.mpr active)]

theorem exists_column_of_record (distinct : model.table.columnNames.Nodup)
    (typed : List.Forall₂ Column.Takes model.table.columns row) {value : Value}
    (held : (model.record row).get? name = some value) :
    ∃ column, model.table.column? name = some column ∧ name ∈ model.table.columnNames ∧
      model.isIgnored name = false ∧ value = cellOf model.table.columnNames row name := by
  have width : row.length = model.table.columnNames.length := by
    rw [Table.columnNames, List.length_map, typed.length_eq]
  rw [get?_record distinct width] at held
  split at held
  · rename_i active
    cases held
    cases found : model.table.column? name with
    | some column => exact ⟨column, rfl, active.1, active.2, rfl⟩
    | none =>
        rw [Table.column?_eq_none_iff, ← Bool.not_eq_true, Table.hasColumn_iff] at found
        exact absurd active.1 found
  · cases held

theorem get?_record_active (distinct : model.table.columnNames.Nodup)
    (typed : List.Forall₂ Column.Takes model.table.columns row)
    (present : name ∈ model.table.columnNames) (active : model.isIgnored name = false) :
    (model.record row).get? name = some (cellOf model.table.columnNames row name) := by
  have width : row.length = model.table.columnNames.length := by
    rw [Table.columnNames, List.length_map, typed.length_eq]
  rw [get?_record distinct width, if_pos ⟨present, active⟩]

/-- A model's own table is read as a whole. -/
theorem all_answer {db : Database} {rows : List (List Value)}
    (found : db model.table.name = some ⟨model.table.columnNames, rows⟩) :
    model.all.query.answer db = .ok ⟨model.choice.header model.table.columnNames,
      rows.map (model.choice.picked model.table.columnNames)⟩ := by
  have direct : model.all.Direct model.table.name := ⟨⟨none, rfl⟩, rfl, rfl⟩
  have filter : model.all.filter = none := rfl
  have order : model.all.order = [] := rfl
  have limit : model.all.limit = none := rfl
  have picks : (rows.mapM fun row =>
      model.choice.pick ⟨⟨model.all.table.qualifier, model.table.columnNames⟩, row⟩) =
      .ok (rows.map (model.choice.picked model.table.columnNames)) :=
    mapM_eq_ok_map fun row _ => Model.pick_eq
  rw [Query.answer, direct.reads.run_single rfl (direct.read [] found), filter, order, limit,
    filterRows, ok_bind, sortRows_nil, ok_bind, cutTo, Rowset.frames, List.mapM_map]
  change (do return Rowset.mk _ (← rows.mapM fun row =>
    model.choice.pick ⟨⟨model.all.table.qualifier, model.table.columnNames⟩, row⟩)) = _
  rw [picks]
  rfl

/-- The record has the values of a row that the model's table may hold. -/
def Holds (model : Model) (record : Record) : Prop :=
  record.model = model.name ∧ ∃ row, List.Forall₂ Column.Takes model.table.columns row ∧
    record.values = (model.record row).values

theorem Holds.takes {record : Record} (held : model.Holds record)
    (distinct : model.table.columnNames.Nodup) {value : Value}
    (keyed : record.get? name = some value) :
    ∃ column, model.table.column? name = some column ∧ name ∈ model.table.columnNames ∧
      column.Takes value := by
  obtain ⟨_, row, typed, values⟩ := held
  rw [Record.get?, values] at keyed
  obtain ⟨column, declared, present, _, rfl⟩ := exists_column_of_record distinct typed keyed
  exact ⟨column, declared, present, takes_cell typed declared⟩

end Model

namespace Session

variable {schema : Schema} {session : Session} {relation : Relation} {model : Model}
  {rows : List (List Value)}

theorem records_all (serves : session.Serves schema)
    (found : session.engine.store.database model.table.name =
      some ⟨model.table.columnNames, rows⟩) :
    session.records model.all =
      if session.engine.poisoned then .error (.error Engine.poisonedError)
      else .ok (rows.map model.record) := by
  rw [records_eq serves, Model.all_answer found]
  simp only [List.map_map]
  rfl

theorem eq_of_records_all (serves : session.Serves schema)
    (found : session.engine.store.database model.table.name =
      some ⟨model.table.columnNames, rows⟩) {loaded : List Record}
    (done : session.records model.all = .ok loaded) :
    session.engine.poisoned = false ∧ loaded = rows.map model.record := by
  rw [records_all serves found] at done
  cases alive : session.engine.poisoned with
  | true =>
      rw [alive] at done
      cases done
  | false =>
      rw [alive] at done
      cases done
      exact ⟨rfl, rfl⟩

/-- A record that a relation on the model's table loads is the record of a row that the table may
hold. -/
theorem exists_row_of_mem_records (serves : session.Serves schema) (sound : schema.Sound)
    (known : relation.model ∈ schema.models) (direct : relation.Direct relation.model.table.name)
    {loaded : List Record} (done : session.records relation = .ok loaded) :
    ∀ record ∈ loaded, ∃ row, List.Forall₂ Column.Takes relation.model.table.columns row ∧
      record = relation.model.record row := by
  obtain ⟨rows, found, typed⟩ := serves.database sound (sound.modelTable _ known)
  obtain ⟨_, answer, answered, rfl⟩ := answer_of_records serves done
  have read := direct.read [] found
  intro record member
  obtain ⟨picks, answers, rfl⟩ := List.mem_map.mp member
  obtain ⟨row, stored, picked⟩ := direct.reads.picked_of_mem read answered picks answers
  refine ⟨row, typed row stored, ?_⟩
  rw [Model.pick_eq] at picked
  cases picked
  rw [direct.reads.columns_eq read answered]
  rfl

end Session

end Relata
