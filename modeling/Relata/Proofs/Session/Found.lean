import Relata.Proofs.Session.Pages
import Relata.Proofs.Store.Runs

/-!
Records found by their primary keys. What is found is the first stored row with the key, so an insert is seen by a
search for the new row's key, if no other row has it, and by no other search.
-/

namespace Relata

/-- Equal keys keep their order. -/
theorem Value.sortOrder_self (direction : Option Direction) (value : Value) :
    Value.sortOrder direction value value = .eq := by
  cases value <;> rcases direction with _ | _ | _ <;> simp [sortOrder, isNull, order?]

namespace Model

variable {model : Model} {column : Column} {rows : List (List Value)} {row : List Value} {key : Value}
  {db : Database}

/-- What a search for a key reads. -/
def keyed (model : Model) (key : Value) : Relation :=
  (Session.ordered (model.all.whereEq model.primaryKey key)).limitTo 1

/-- Whether a row has the key. A null is a key like others. -/
def hasKey (model : Model) (key : Value) (row : List Value) : Bool := model.all.keyOf row == key

def notFound (model : Model) (key : Value) : Error :=
  .of (.recordNotFound ("table=" ++ model.table.name ++ "; key=" ++ key.display))

def keyCondition (model : Model) (key : Value) : Expr :=
  if key.isNull then .isNull false (model.all.column model.primaryKey)
  else .compare .eq (model.all.column model.primaryKey) (.const key)

theorem keyed_eq (model : Model) (key : Value) :
    model.keyed key =
      { model.all with
        filter := some (model.keyCondition key)
        order := [.asc (model.all.column model.primaryKey)]
        limit := some 1 } := by
  rw [keyed, keyCondition, Relation.whereEq]
  split <;> rfl

theorem keyed_direct (model : Model) (key : Value) : (model.keyed key).Direct model.table.name := by
  rw [keyed_eq]
  exact ⟨⟨none, rfl⟩, rfl, rfl⟩

theorem keyed_single (model : Model) (key : Value) : (model.keyed key).joins = [] := by
  rw [keyed_eq]
  rfl

theorem value_key (present : model.primaryKey ∈ model.table.columnNames) :
    Env.value [model.all.frame row] (model.all.table.column model.primaryKey) = .ok (model.all.keyOf row) :=
  Relation.value_frame present

theorem hasKey_iff : model.hasKey key row = true ↔ model.all.keyOf row = key := beq_iff_eq

theorem keyCondition_keeps (present : model.primaryKey ∈ model.table.columnNames)
    (own : column.Takes (model.all.keyOf row)) (accepted : column.type.accepts key = true) :
    (model.keyCondition key).keeps [model.all.frame row] = .ok (model.hasKey key row) := by
  have read : Env.value [model.all.frame row] _ = _ := value_key present
  rw [keyCondition]
  by_cases null : key.isNull = true
  · rw [if_pos null, Expr.keeps, Expr.eval, Relation.column, Expr.eval, read, Value.isNull_iff.mp null, hasKey]
    cases model.all.keyOf row <;> rfl
  · rw [if_neg null]
    have nonnull : key ≠ .null := fun same => null (Value.isNull_iff.mpr same)
    exact keeps_equal read own ⟨accepted, fun same => absurd same nonnull⟩ nonnull

theorem keyCondition_filters (present : model.primaryKey ∈ model.table.columnNames)
    (typed : ∀ row ∈ rows, column.Takes (model.all.keyOf row)) (accepted : column.type.accepts key = true) :
    filterRows [] (some (model.keyCondition key)) (rows.map model.all.frame) =
      .ok ((rows.filter (model.hasKey key)).map model.all.frame) := by
  have each : ∀ frame ∈ rows.map model.all.frame, (model.keyCondition key).keeps [frame] =
      .ok (frame.all fun binding => model.hasKey key binding.values) := by
    intro frame member
    obtain ⟨row, stored, rfl⟩ := List.mem_map.mp member
    rw [keyCondition_keeps present (typed row stored) accepted, Relation.frame, List.all_cons, List.all_nil,
      Bool.and_true]
  rw [filterRows, keepRows_eq_ok each, List.filter_map]
  simp only [Function.comp_def, Relation.frame, List.all_cons, List.all_nil, Bool.and_true]

/-- Rows with one key tie. -/
theorem mergeSort_hasKey (rows : List (List Value)) :
    (rows.filter (model.hasKey key)).mergeSort (keyLE model.all.keyOf) = rows.filter (model.hasKey key) := by
  refine List.mergeSort_of_pairwise (List.pairwise_of_forall_mem_list fun a first b second => ?_)
  have same : model.all.keyOf a = model.all.keyOf b :=
    (hasKey_iff.mp (List.mem_filter.mp first).2).trans (hasKey_iff.mp (List.mem_filter.mp second).2).symm
  rw [keyLE, same, Value.sortOrder_self]
  rfl

/-- Of the rows with a key, the first one is read. -/
theorem keyed_answer (present : model.primaryKey ∈ model.table.columnNames)
    (found : db model.table.name = some ⟨model.table.columnNames, rows⟩)
    (typed : ∀ row ∈ rows, column.Takes (model.all.keyOf row)) (accepted : column.type.accepts key = true) :
    (model.keyed key).query.answer db =
      .ok ⟨model.choice.header model.table.columnNames,
        ((rows.filter (model.hasKey key)).take 1).map (model.choice.picked model.table.columnNames)⟩ := by
  have direct := model.keyed_direct key
  rw [keyed_eq] at direct ⊢
  have filtered := keyCondition_filters present typed accepted
  have sorted : sortRows [] [.asc (model.all.column model.primaryKey)]
      ((rows.filter (model.hasKey key)).map model.all.frame) = _ := Relation.sortRows_frames present
  rw [mergeSort_hasKey] at sorted
  refine (direct.run_frames rfl found).trans ?_
  change (do
    let kept ← filterRows [] (some (model.keyCondition key)) (rows.map model.all.frame)
    let sorted ← sortRows [] [.asc (model.all.column model.primaryKey)] kept
    return Rowset.mk _ (← (cutTo (some 1) sorted).mapM model.choice.pickRow)) = _
  rw [filtered, ok_bind]
  refine (congrArg (· >>= _) sorted).trans ?_
  rw [ok_bind, cutTo_map]
  have picks := model.all.mapM_pickRow (cutTo (some 1) (rows.filter (model.hasKey key)))
  refine (congrArg (· >>= _) picks).trans ?_
  rfl

/-- It makes no difference whether the active columns are read or all columns and the others left out. -/
theorem record_eq_ofRow (distinct : model.table.columnNames.Nodup)
    (width : row.length = model.table.columnNames.length) :
    model.record row = .ofRow model model.table.columnNames row := by
  have pairs : ∀ names : List String, names.zip (names.map (cellOf model.table.columnNames row)) =
      names.map fun name => (name, cellOf model.table.columnNames row name) := fun names => by
    conv_lhs => rw [← List.map_id names, List.map_map, List.zip_map']
    rfl
  rw [record, Model.choice]
  split
  · rename_i ignores
    rw [Choice.header, Choice.picked, Record.ofRow, Record.ofRow, pairs]
    conv_rhs => rw [← map_cellOf distinct width, pairs]
    rw [List.filter_map, List.filter_map, activeColumns, Table.columnNames, List.filter_map, List.filter_map,
      List.filter_filter]
    simp [Function.comp_def]
  · rfl

end Model

/-- An insert that succeeds adds one row to the table that it names. -/
theorem Engine.exec_insert_adds {engine after : Engine} {row : Insert} {response : Response}
    (done : engine.exec (.insert row) = (.ok response, after)) :
    ∃ table stored next, engine.poisoned = false ∧ engine.store.table? row.table.name = some table ∧
      (table.insert row).1 = .ok stored ∧ after = ⟨engine.store.replace (table.add stored next), false⟩ ∧
      response = if row.returning then .rows ⟨table.columns.map Column.name, [stored]⟩ else .count 1 := by
  cases poisoned : engine.poisoned with
  | true =>
      rw [exec, if_pos poisoned] at done
      cases done
  | false =>
      have usable : ¬ engine.poisoned = true := by simp [poisoned]
      rcases engine.store.insert_cases row with ⟨_, fault, refused⟩ | ⟨table, found, stored⟩
      · rw [exec_insert_error usable refused] at done
        cases done
      rcases stored with ⟨fault, next, _, refused⟩ | ⟨stored, next, _, taken⟩
      · rw [exec_insert_error usable refused] at done
        cases done
      · rw [exec_insert_ok usable taken] at done
        cases done
        exact ⟨table, stored, next, rfl, found, Store.insert_stores found taken, by rw [poisoned], rfl⟩

namespace Session

variable {schema : Schema} {session after : Session} {model : Model} {name : String} {key : Value}
  {column : Column} {rows : List (List Value)} {values : List (String × Value)} {record : Record}

theorem find_on (serves : session.Serves schema) (modelled : schema.model? name = some model) (key : Value) :
    ((find name key).on session).1 = (session.records (model.keyed key)).bind fun loaded =>
      match loaded.head? with
      | some record => .ok record
      | none => .error (.error (model.notFound key)) := by
  have known : session.schema.model name = .ok model := by
    rw [serves.served, Schema.model_eq_ok_iff, modelled]
  rw [find, Action.on_bind_done Action.on_get, Action.on_ofExcept_bind_ok known, Action.on_bind, first,
    Action.on_bind]
  have read : (all (model.keyed key)).on session = _ := all_on serves
  rw [Model.keyed] at read ⊢
  rw [read]
  cases session.records ((ordered (model.all.whereEq model.primaryKey key)).limitTo 1) with
  | error failure => rfl
  | ok loaded =>
      change (Action.on (match loaded.head? with
        | some record => pure record
        | none => throw (.error (model.notFound key))) _).1 = _
      cases found : loaded.head? <;> simp [found, Except.bind]

/-- A search answers the record of the first row that has the key. -/
theorem find_first (serves : session.Serves schema) (modelled : schema.model? name = some model)
    (alive : session.engine.poisoned = false)
    (found : session.engine.store.database model.table.name = some ⟨model.table.columnNames, rows⟩)
    (present : model.primaryKey ∈ model.table.columnNames)
    (typed : ∀ row ∈ rows, column.Takes (model.all.keyOf row)) (accepted : column.type.accepts key = true) :
    ((find name key).on session).1 = match rows.find? (model.hasKey key) with
      | some row => .ok (model.record row)
      | none => .error (.error (model.notFound key)) := by
  rw [find_on serves modelled, records_eq serves, alive, Model.keyed_answer present found typed accepted,
    Model.keyed_eq, ← List.head?_filter]
  cases rows.filter (model.hasKey key) <;> rfl

/-- A search reads the model's table only. -/
theorem find_congr {other : Session} (serves : session.Serves schema) (served : other.Serves schema)
    (modelled : schema.model? name = some model) (alive : other.engine.poisoned = session.engine.poisoned)
    {stored : Rowset} (found : session.engine.store.database model.table.name = some stored)
    (same : other.engine.store.database model.table.name = some stored) (key : Value) :
    ((find name key).on other).1 = ((find name key).on session).1 := by
  have direct := model.keyed_direct key
  rw [find_on serves modelled, find_on served modelled, records_eq serves, records_eq served, alive, Query.answer,
    Query.answer, direct.reads.run_single (model.keyed_single key) (direct.read [] found),
    direct.reads.run_single (model.keyed_single key) (direct.read [] same)]

theorem stamp_on {now : Int64} (done : stamp.on session = (.ok now, after)) :
    ∃ clock, session.clock.tick = some (now, clock) ∧ after = { session with clock } := by
  rw [stamp, Action.on_bind_done Action.on_get] at done
  cases ticked : session.clock.tick with
  | none =>
      rw [ticked] at done
      cases done
  | some stamped =>
      rw [ticked] at done
      cases done
      exact ⟨_, rfl, rfl⟩

/-- What an insert that succeeds has done: the model's table has one more row, and no other table has changed. -/
structure Adds (session : Session) (model : Model) (rows : List (List Value)) (row : List Value)
    (after : Session) : Prop where
  alive : session.engine.poisoned = false
  usable : after.engine.poisoned = false
  before : session.engine.store.database model.table.name = some ⟨model.table.columnNames, rows⟩
  added : after.engine.store.database model.table.name = some ⟨model.table.columnNames, rows ++ [row]⟩
  typed : ∀ stored ∈ rows ++ [row], List.Forall₂ Column.Takes model.table.columns stored
  others : ∀ other ≠ model.table.name,
    after.engine.store.database other = session.engine.store.database other

theorem exec_answers {statement : Statement} {response : Response} (plain : session.countsOnly = false)
    (done : (exec statement).on session = (.ok response, after)) :
    session.engine.exec statement = (.ok response, after.engine) ∧ after.clock = session.clock := by
  rw [exec_on, plain] at done
  cases answered : session.engine.exec statement with
  | mk answer engine =>
      rw [answered] at done
      cases answer <;> cases done
      exact ⟨rfl, rfl⟩

/-- What an insert executes. -/
theorem insert_executes (serves : session.Serves schema)
    (inserted : (insert name values).on session = (.ok record, after)) :
    ∃ model now response, schema.model? name = some model ∧ session.clock.tick = some (now, after.clock) ∧
      session.engine.exec (.insert (insertStatement model (stamped model.table now values))) =
        (.ok response, after.engine) ∧
      ∃ row others, response.rowset.rows = row :: others ∧ record = .ofRow model response.rowset.columns row := by
  rw [insert, Action.on_bind_done Action.on_get] at inserted
  obtain ⟨model, _, known, inserted⟩ := Action.exists_of_on_bind inserted
  obtain ⟨known, same⟩ := Action.of_on_ofExcept known
  rw [same] at inserted
  rw [serves.served, Schema.model_eq_ok_iff] at known
  have returning : session.capability.returning = true := by
    rw [serves.capability]
    rfl
  rw [Action.on_bind_done Action.on_get, if_pos returning] at inserted
  obtain ⟨now, _, ticked, inserted⟩ := Action.exists_of_on_bind inserted
  obtain ⟨clock, ticks, rfl⟩ := stamp_on ticked
  obtain ⟨response, _, executed, inserted⟩ := Action.exists_of_on_bind inserted
  have plain : { session with clock }.countsOnly = false := serves.countsOnly
  obtain ⟨answered, timed⟩ := exec_answers plain executed
  refine ⟨model, now, response, known, ?_⟩
  cases rows : response.rowset.rows with
  | nil =>
      rw [rows] at inserted
      cases inserted
  | cons row others =>
      rw [rows] at inserted
      cases inserted
      exact ⟨timed ▸ ticks, answered, row, others, rfl, rfl⟩

/-- The row that an insert adds is what the table stores of the values and the stamp. -/
theorem insert_stores (serves : session.Serves schema) (sound : schema.Sound)
    (inserted : (insert name values).on session = (.ok record, after)) :
    after.Serves schema ∧ ∃ model rows row now, ∃ table : StoredTable, schema.model? name = some model ∧
      session.Adds model rows row after ∧ record = .ofRow model model.table.columnNames row ∧
      session.clock.tick = some (now, after.clock) ∧ table.columns.map Column.name = model.table.columnNames ∧
      (table.insert (insertStatement model (stamped model.table now values))).1 = .ok row := by
  have served : after.Serves schema := by
    have kept := insert_serves name values session serves
    rwa [inserted] at kept
  obtain ⟨model, now, response, modelled, ticked, executed, row, others, rows, rfl⟩ :=
    insert_executes serves inserted
  obtain ⟨table, stored, next, alive, found, stores, engine, rfl⟩ := Engine.exec_insert_adds executed
  obtain ⟨rfl, rfl⟩ := List.cons.inj rows
  have found : session.engine.store.table? model.table.name = some table := found
  have known := sound.modelTable _ (List.mem_of_find?_eq_some modelled)
  have before : session.engine.store.database model.table.name = some table.rowset := by
    rw [Store.database, found, Option.map_some]
  have added : after.engine.store.database model.table.name = some (table.add stored next).rowset := by
    have replaced : (session.engine.store.replace (table.add stored next)).table? model.table.name = _ :=
      Store.table?_replace_self found rfl
    rw [engine, Store.database, replaced, Option.map_some]
  obtain ⟨all, same, typed⟩ := served.database sound known
  obtain ⟨columns, rfl⟩ := Rowset.mk.inj (Option.some.inj (added.symm.trans same))
  refine ⟨served, model, table.rows, stored, now, table, modelled,
    ⟨alive, by rw [engine], ?_, same, typed, ?_⟩, ?_, ticked, columns, stores⟩
  · rw [before, ← columns]
    rfl
  · intro other apart
    have kept : (session.engine.store.replace (table.add stored next)).table? other = _ :=
      Store.table?_replace_other found rfl apart
    rw [engine, Store.database, kept]
    rfl
  · rw [← columns]
    rfl

theorem insert_adds (serves : session.Serves schema) (sound : schema.Sound)
    (inserted : (insert name values).on session = (.ok record, after)) :
    after.Serves schema ∧ ∃ model rows row, schema.model? name = some model ∧
      session.Adds model rows row after ∧ record = .ofRow model model.table.columnNames row := by
  obtain ⟨served, model, rows, row, _, _, modelled, adds, shown, _⟩ := insert_stores serves sound inserted
  exact ⟨served, model, rows, row, modelled, adds, shown⟩

/-- An inserted record is found by its key where no other row has it, and every search by another key or in
another table has the outcome that it had before. A key is a null or of the key column's kind. -/
theorem find_after_insert {tables : List TableDefinition} {models : List ModelDefinition}
    (built : Schema.build tables models = .ok schema)
    (distinct : ∀ table ∈ schema.tables, table.columnNames.Nodup) (reached : session.Reached schema)
    (inserted : (insert name values).on session = (.ok record, after)) :
    ∃ model key column stored, schema.model? name = some model ∧
      record.get? model.primaryKey = some key ∧
      model.table.column? model.primaryKey = some column ∧
      after.engine.store.database model.table.name = some stored ∧
      ((stored.rows.map (cellOf stored.columns · model.primaryKey)).count key ≤ 1 →
        ((find name key).on after).1 = .ok record) ∧
      (∀ other, other ≠ key → column.type.accepts other = true →
        ((find name other).on after).1 = ((find name other).on session).1) ∧
      ∀ target another, schema.model? target = some another → another.table.name ≠ model.table.name →
        ∀ other, ((find target other).on after).1 = ((find target other).on session).1 := by
  have sound := Schema.sound_of_build built
  have serves := reached.serves
  obtain ⟨served, model, rows, row, modelled, adds, rfl⟩ := insert_adds serves sound inserted
  have known : model ∈ schema.models := List.mem_of_find?_eq_some modelled
  have once := distinct model.table (sound.modelTable _ known)
  have present : model.primaryKey ∈ model.table.columnNames := Table.hasColumn_iff.mp (sound.keyColumn _ known)
  obtain ⟨column, declared⟩ := sound.exists_keyColumn known
  have typed : ∀ stored ∈ rows ++ [row], column.Takes (model.all.keyOf stored) := fun stored member =>
    takes_cell (adds.typed stored member) declared
  have last : row ∈ rows ++ [row] := List.mem_append_right _ List.mem_cons_self
  have own := adds.typed row last
  have width : row.length = model.table.columnNames.length := by
    rw [Table.columnNames, List.length_map, own.length_eq]
  rw [← Model.record_eq_ofRow once width]
  refine ⟨model, model.all.keyOf row, column, _, modelled,
    Model.get?_record_active once own present (sound.keyActive _ known), declared, adds.added, fun alone => ?_,
    fun other unlike accepted => ?_, fun target another other apart key => ?_⟩
  · -- The new row is the last one, so it is found if no row before it has its key.
    have none : rows.find? (model.hasKey (model.all.keyOf row)) = none := by
      refine List.find?_eq_none.mpr fun stored member same => ?_
      have shared : model.all.keyOf row ∈ rows.map model.all.keyOf :=
        Model.hasKey_iff.mp same ▸ List.mem_map_of_mem member
      have some := List.count_pos_iff.mpr shared
      have both : ((rows ++ [row]).map model.all.keyOf).count (model.all.keyOf row) ≤ 1 := alone
      rw [List.map_append, List.count_append, List.map_singleton, List.count_singleton_self] at both
      omega
    rw [find_first served modelled adds.usable adds.added present typed (typed row last).1, List.find?_append, none,
      Option.none_or, List.find?_singleton, Model.hasKey, beq_self_eq_true, if_pos rfl]
  · have before := fun stored member => typed stored (List.mem_append_left _ member)
    have missed : model.hasKey other row = false := beq_false_of_ne (Ne.symm unlike)
    rw [find_first served modelled adds.usable adds.added present typed accepted,
      find_first serves modelled adds.alive adds.before present before accepted, List.find?_append,
      List.find?_singleton, missed, if_neg Bool.false_ne_true, Option.or_none]
  · obtain ⟨stored, found, _⟩ := serves.database sound (sound.modelTable _ (List.mem_of_find?_eq_some other))
    exact find_congr serves served other (adds.usable.trans adds.alive.symm) found
      ((adds.others _ apart).trans found) key

end Session

namespace Sample

def newNote : Record := ⟨"Note", [("id", .int 5), ("owner_code", .int 7)], []⟩

/-- A note is found by its number, which is the next one, and is not found by a null. -/
theorem find_after_insert_note :
    ∃ after, (Session.insert "Note" [("owner_code", .int 7), ("body", .text "d")]).on session =
        (.ok newNote, after) ∧
      ((Session.find "Note" (.int 5)).on after).1 = .ok newNote ∧
      ((Session.find "Note" .null).on after).1 = ((Session.find "Note" .null).on session).1 ∧
      ∀ key, ((Session.find "Owner" key).on after).1 = ((Session.find "Owner" key).on session).1 := by
  have inserted : (Session.insert "Note" [("owner_code", .int 7), ("body", .text "d")]).on session =
      (.ok newNote, ((Session.insert "Note" [("owner_code", .int 7), ("body", .text "d")]).on session).2) :=
    Prod.ext rfl rfl
  obtain ⟨model, key, column, stored, modelled, keyed, declared, held, found, others, apart⟩ :=
    Session.find_after_insert built (by decide) reached inserted
  have note : schema.model? "Note" = some note := rfl
  cases note.symm.trans modelled
  cases keyed
  refine ⟨_, inserted, found ?_, others .null (by decide) rfl, apart "Owner" owner rfl (by decide)⟩
  have rows : (((Session.insert "Note" [("owner_code", .int 7), ("body", .text "d")]).on
      session).2.engine.store.database "notes") = some ⟨noteTable.columnNames,
        [[.int 1, .int 7, .text "a"], [.int 2, .int 8, .text "b"], [.int 3, .int 7, .text "c"],
          [.int 4, .null, .null], [.int 5, .int 7, .text "d"]]⟩ := rfl
  cases rows.symm.trans held
  decide

end Sample

end Relata
