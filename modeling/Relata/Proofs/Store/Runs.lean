import Relata.Engine
import Relata.Proofs.Store.Numbers

/-!
Runs of the engine. Whatever operations have been performed, each stored row fits its table and the counter
stands above the table's numbers; an insert concerns the table that it names and no other.
-/

namespace Relata

/-- What an engine can be asked to do. -/
inductive Operation
  | reset (tables : List Table)
  | exec (statement : Statement)

namespace Store

variable {store : Store} {name : String}

theorem name_of_table? {table : StoredTable} (found : store.table? name = some table) :
    table.name = name := by
  simpa using List.find?_some found

/-- Only what is read under the replaced table's name changes. -/
theorem table?_replace (store : Store) (table : StoredTable) (name : String) :
    (store.replace table).table? name =
      if name = table.name then (store.table? name).map fun _ => table else store.table? name := by
  obtain ⟨tables⟩ := store
  rw [replace, table?, table?, List.find?_map]
  have named : ((·.name == name) ∘ fun other : StoredTable =>
      if other.name == table.name then table else other) = (·.name == name) := by
    funext other
    rw [Function.comp_apply]
    split
    · rename_i same
      rw [beq_iff_eq.mp same]
    · rfl
  rw [named]
  cases found : tables.find? (·.name == name) with
  | none => simp
  | some other =>
      have here : other.name = name := by simpa using List.find?_some found
      rw [Option.map_some, Option.map_some, here, beq_eq_decide]
      by_cases same : name = table.name <;> simp [same]

theorem table?_replace_self {before after : StoredTable} (found : store.table? name = some before)
    (same : after.name = before.name) : (store.replace after).table? name = some after := by
  rw [table?_replace, if_pos ((name_of_table? found).symm.trans same.symm), found, Option.map_some]

theorem table?_replace_other {before after : StoredTable} {other : String}
    (found : store.table? name = some before) (same : after.name = before.name) (apart : other ≠ name) :
    (store.replace after).table? other = store.table? other := by
  rw [table?_replace, if_neg fun equal => apart (equal.trans (same.trans (name_of_table? found)))]

/-- What an insert does to a store: nothing, if there is no such table, or what it does to the table. -/
theorem insert_cases (store : Store) (row : Insert) :
    (store.table? row.table.name = none ∧ ∃ fault, store.insert row = (.error fault, store)) ∨
      ∃ table, store.table? row.table.name = some table ∧
        ((∃ fault next, table.nextId ≤ next ∧
            store.insert row = (.error fault, store.replace (table.advance next))) ∨
          ∃ stored next, table.Takes row stored next ∧
            store.insert row = (.ok ⟨table.columns.map Column.name, [stored]⟩,
              store.replace (table.add stored next))) := by
  rw [insert]
  split
  · rename_i absent
    exact .inl ⟨absent, _, rfl⟩
  · rename_i table found
    refine .inr ⟨table, found, ?_⟩
    rcases table.insert_cases row with ⟨fault, next, later, refused⟩ | ⟨stored, next, takes, taken⟩
    · exact .inl ⟨fault, next, later, by rw [refused]⟩
    · exact .inr ⟨stored, next, takes, by rw [taken]⟩

/-- What an insert answers is what the table stores. -/
theorem insert_stores {row : Insert} {table : StoredTable} {columns : List String} {stored : List Value}
    {after : Store} (found : store.table? row.table.name = some table)
    (taken : store.insert row = (.ok ⟨columns, [stored]⟩, after)) : (table.insert row).1 = .ok stored := by
  rw [insert, found] at taken
  cases done : table.insert row with
  | mk answer later =>
      simp only [done] at taken
      cases answer <;> cases taken
      rfl

def Sound (store : Store) : Prop := ∀ table ∈ store.tables, table.Sound

theorem Sound.replace (sound : store.Sound) {table : StoredTable} (fits : table.Sound) :
    (store.replace table).Sound := by
  intro other member
  obtain ⟨before, present, rfl⟩ := List.mem_map.mp member
  split
  · exact fits
  · exact sound before present

theorem Sound.table? (sound : store.Sound) {table : StoredTable}
    (found : store.table? name = some table) : table.Sound :=
  sound table (List.mem_of_find?_eq_some found)

theorem fresh_sound (tables : List Table) : (Store.fresh tables).Sound := by
  intro stored member
  obtain ⟨table, _, rfl⟩ := List.mem_map.mp member
  exact ⟨fun row absent => absurd absent List.not_mem_nil, fun row absent => absurd absent List.not_mem_nil⟩

end Store

namespace Engine

def perform (engine : Engine) : Operation → Engine
  | .reset tables => (engine.reset tables).2
  | .exec statement => (engine.exec statement).2

/-- The engine after operations, whether or not each of them succeeds. -/
def after (engine : Engine) (operations : List Operation) : Engine := operations.foldl perform engine

variable {engine : Engine}

theorem exec_insert_ok {row : Insert} {rowset : Rowset} {store : Store} (usable : ¬ engine.poisoned)
    (stored : engine.store.insert row = (.ok rowset, store)) :
    engine.exec (.insert row) =
      (.ok (if row.returning then .rows rowset else .count 1), { engine with store }) := by
  rw [exec, if_neg usable]
  simp only [stored]

theorem exec_insert_error {row : Insert} {fault : InsertFault} {store : Store}
    (usable : ¬ engine.poisoned) (refused : engine.store.insert row = (.error fault, store)) :
    engine.exec (.insert row) = (.error fault.failure, ⟨store, fault == .counterOverflow⟩) := by
  rw [exec, if_neg usable]
  simp only [refused]

/-- What an insert does to the tables: nothing, or what it does to the table that it names. -/
theorem exec_insert_cases (engine : Engine) (row : Insert) :
    (∃ failure, (engine.exec (.insert row)).1 = .error failure ∧
      (engine.exec (.insert row)).2.store = engine.store) ∨
      ∃ table, engine.store.table? row.table.name = some table ∧
        ((∃ failure next, table.nextId ≤ next ∧ (engine.exec (.insert row)).1 = .error failure ∧
            (engine.exec (.insert row)).2.store = engine.store.replace (table.advance next)) ∨
          ∃ response stored next, table.Takes row stored next ∧
            (engine.exec (.insert row)).1 = .ok response ∧
            (engine.exec (.insert row)).2.store = engine.store.replace (table.add stored next)) := by
  by_cases usable : ¬ engine.poisoned
  · rcases engine.store.insert_cases row with ⟨_, fault, refused⟩ | ⟨table, found, done⟩
    · rw [exec_insert_error usable refused]
      exact .inl ⟨_, rfl, rfl⟩
    rcases done with ⟨fault, next, later, refused⟩ | ⟨stored, next, takes, taken⟩
    · rw [exec_insert_error usable refused]
      exact .inr ⟨table, found, .inl ⟨_, next, later, rfl, rfl⟩⟩
    · rw [exec_insert_ok usable taken]
      exact .inr ⟨table, found, .inr ⟨_, stored, next, takes, rfl, rfl⟩⟩
  · rw [exec, if_pos (not_not.mp usable)]
    exact .inl ⟨_, rfl, rfl⟩

theorem perform_sound (sound : engine.store.Sound) (operation : Operation) :
    (engine.perform operation).store.Sound := by
  cases operation with
  | reset tables =>
      rw [perform, reset]
      split
      · exact sound
      · exact Store.fresh_sound tables
  | exec statement =>
      cases statement with
      | query q =>
          rw [perform, exec_query]
          exact sound
      | insert row =>
          rw [perform]
          rcases engine.exec_insert_cases row with ⟨_, _, same⟩ | ⟨table, found, done⟩
          · rw [same]
            exact sound
          rcases done with ⟨_, next, later, _, refused⟩ | ⟨_, stored, next, takes, _, taken⟩
          · rw [refused]
            exact sound.replace ((sound.table? found).advance later)
          · rw [taken]
            exact sound.replace ((sound.table? found).add takes)

theorem after_sound (sound : engine.store.Sound) (operations : List Operation) :
    (engine.after operations).store.Sound := by
  induction operations generalizing engine with
  | nil => exact sound
  | cons operation rest ih => exact ih (perform_sound sound operation)

theorem new_sound : Engine.new.store.Sound := fun _ absent => absurd absent List.not_mem_nil

/-- Whatever an engine has been asked to do: the stored rows fit their tables, and the counters stand above
their numbers. An insert that succeeds adds one row, and what it generates is in no row of the table before;
one that fails takes numbers at most; neither concerns another table. A query changes nothing. -/
theorem runs_keep_tables (operations : List Operation) :
    let engine := Engine.new.after operations
    (∀ table ∈ engine.store.tables, table.Sound) ∧
    (∀ row response, (engine.exec (.insert row)).1 = .ok response →
      ∃ table values stored next, engine.store.table? row.table.name = some table ∧
        table.given row = .ok values ∧ table.nextId ≤ next ∧
        (engine.exec (.insert row)).2.store.table? row.table.name = some (table.add stored next) ∧
        ∀ (i : Nat) (column : Column), table.columns[i]? = some column →
          column.autoIncrement = true → values[i]? = some Value.null →
          ∃ id, stored[i]? = some (Value.int id) ∧
            ∀ other ∈ table.rows, id ∉ numbersIn table.columns other) ∧
    (∀ row failure, (engine.exec (.insert row)).1 = .error failure → ∀ name,
      (engine.exec (.insert row)).2.store.table? name = engine.store.table? name ∨
      ∃ table next, engine.store.table? name = some table ∧ table.nextId ≤ next ∧
        (engine.exec (.insert row)).2.store.table? name = some (table.advance next)) ∧
    (∀ row name, name ≠ row.table.name →
      (engine.exec (.insert row)).2.store.table? name = engine.store.table? name) ∧
    ∀ query, (engine.exec (.query query)).2 = engine := by
  intro engine
  have sound : engine.store.Sound := after_sound new_sound operations
  refine ⟨sound, fun row response answered => ?_, fun row failure refused name => ?_,
    fun row name other => ?_, engine.exec_query⟩
  · rcases engine.exec_insert_cases row with ⟨_, refused, _⟩ | ⟨table, found, done⟩
    · rw [refused] at answered
      cases answered
    rcases done with ⟨_, _, _, refused, _⟩ | ⟨_, stored, next, takes, _, store⟩
    · rw [refused] at answered
      cases answered
    obtain ⟨values, given, generated⟩ := takes.generated
    refine ⟨table, values, stored, next, found, given, takes.counter, ?_,
      fun i column place auto missing => ?_⟩
    · rw [store]
      exact Store.table?_replace_self found rfl
    · obtain ⟨id, held, above⟩ := generated i column place auto missing
      exact ⟨id, held, (sound.table? found).fresh above⟩
  · rcases engine.exec_insert_cases row with ⟨_, _, same⟩ | ⟨table, found, done⟩
    · rw [same]
      exact .inl rfl
    rcases done with ⟨_, next, later, _, store⟩ | ⟨_, _, _, _, answered, _⟩
    · rw [store]
      by_cases here : name = row.table.name
      · subst here
        exact .inr ⟨table, next, found, later, Store.table?_replace_self found rfl⟩
      · exact .inl (Store.table?_replace_other found rfl here)
    · rw [answered] at refused
      cases refused
  · rcases engine.exec_insert_cases row with ⟨_, _, same⟩ | ⟨table, found, done⟩
    · rw [same]
    rcases done with ⟨_, next, _, _, store⟩ | ⟨_, stored, next, _, _, store⟩
    all_goals
      rw [store]
      exact Store.table?_replace_other found rfl other

end Engine

/-!
A table of tasks, whose titles stand behind their numbers.
-/

namespace Sample

def taskTable : Table :=
  ⟨"tasks", [⟨"id", .integer 8, false, true, true⟩, ⟨"title", .text, false, false, false⟩]⟩

def pageTable : Table := ⟨"pages", [⟨"id", .integer 8, false, true, true⟩]⟩

def titled (title : String) : Insert := ⟨.table "tasks" none, ["title"], [.const (.text title)], true⟩

def untitled : Insert := ⟨.table "tasks" none, [], [], true⟩

/-- The tasks after one insert. -/
def oneTask : StoredTable := ⟨"tasks", taskTable.columns, [[.int 1, .text "read"]], 2⟩

/-- The second task takes the next number. So does one without a title, which is then refused. -/
theorem runs_keep_tables_tasks :
    let engine := Engine.new.after [.reset [taskTable, pageTable], .exec (.insert (titled "read"))]
    let written := engine.exec (.insert (titled "write"))
    let refused := engine.exec (.insert untitled)
    (engine.store.table? "tasks" = some oneTask ∧ oneTask.Sound) ∧
      (∃ id next, written.1 = .ok (.rows ⟨["id", "title"], [[.int id, .text "write"]]⟩) ∧
        written.2.store.table? "tasks" = some (oneTask.add [.int id, .text "write"] next) ∧
        ∀ other ∈ oneTask.rows, id ∉ numbersIn oneTask.columns other) ∧
      (refused.1 = .error (InsertFault.nullValue "title" "tasks").failure ∧
        ∃ next, oneTask.nextId ≤ next ∧ next ≠ oneTask.nextId ∧
          refused.2.store.table? "tasks" = some (oneTask.advance next)) ∧
      written.2.store.table? "pages" = some (.empty pageTable) ∧
      refused.2.store.table? "pages" = some (.empty pageTable) := by
  intro engine written refused
  obtain ⟨sound, taken, failed, apart, -⟩ := Engine.runs_keep_tables
    [.reset [taskTable, pageTable], .exec (.insert (titled "read"))]
  have before : engine.store.table? "tasks" = some oneTask := rfl
  refine ⟨⟨before, sound oneTask (List.mem_of_find?_eq_some before)⟩, ?_, ⟨rfl, ?_⟩,
    apart (titled "write") "pages" (by decide), apart untitled "pages" (by decide)⟩
  · obtain ⟨table, values, stored, next, found, given, -, after, fresh⟩ := taken (titled "write") _ rfl
    cases found.symm.trans before
    cases given
    have rows : oneTask.rows ++ [stored] = oneTask.rows ++ [[.int 2, .text "write"]] :=
      congrArg StoredTable.rows (Option.some.inj after).symm
    cases List.append_cancel_left rows
    obtain ⟨id, held, unused⟩ := fresh 0 _ rfl rfl rfl
    cases held
    exact ⟨2, next, rfl, after, unused⟩
  · rcases failed untitled _ rfl "tasks" with same | ⟨table, next, found, later, after⟩
    · cases same
    · cases found.symm.trans before
      cases after
      exact ⟨3, later, by decide, rfl⟩

end Sample

end Relata
