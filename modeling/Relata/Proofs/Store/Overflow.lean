import Mathlib.Algebra.Order.Ring.Nat
import Relata.Proofs.Session.Reached
import Relata.Proofs.Store.Runs

/-!
The limit of numbers. There is no number after the largest: a row that is given it, or that is to generate one
once the counter stands there, is cut short, and the engine is unusable from then on. Rows that stay below it
leave the counter room, as much as they can use up.
-/

namespace Relata

variable {relation : String} {columns : List Column} {values : List Value} {next counter : Int64} {top : Int}
  {width : Nat}

/-- How many of the columns are numbered. -/
def numbered (columns : List Column) : Nat := columns.countP Column.autoIncrement

/-- A numbered column has no number for the value. -/
def Column.Exhausts (column : Column) (value : Value) (next : Int64) : Prop :=
  column.autoIncrement = true ∧
    (value = .int Int64.maxValue ∨ value = .null ∧ next = Int64.maxValue)

/-- The values come to a column without a number for them, after columns that take theirs. -/
def Exhausts (relation : String) (columns : List Column) (values : List Value) (next : Int64) : Prop :=
  ∃ (i : Nat) (column : Column) (value : Value) (stored : List Value) (counter : Int64),
    columns[i]? = some column ∧ values[i]? = some value ∧
    settle relation (columns.take i) (values.take i) next = (.ok stored, counter) ∧
    column.Exhausts value counter

theorem toInt_succ {n : Int64} (inside : n ≠ Int64.maxValue) : (n + 1).toInt = n.toInt + 1 := by
  have low := n.le_toInt
  have high := n.toInt_lt
  have limit : n.toInt ≠ Int64.maxValue.toInt := fun same => inside (Int64.toInt_inj.mp same)
  have largest : Int64.maxValue.toInt = 2 ^ 63 - 1 := rfl
  have one : (1 : Int64).toInt = 1 := rfl
  rw [Int64.toInt_add, one]
  exact Int.bmod_eq_of_le (by omega) (by omega)

namespace Column

variable {column : Column} {value stored : Value}

theorem number_eq_none_iff : column.number value next = none ↔ column.Exhausts value next := by
  unfold number Exhausts
  by_cases auto : column.autoIncrement = true
  · rw [if_pos auto]
    cases value <;> simp [auto]
  · rw [if_neg auto]
    simp [auto]

/-- A number moves the counter past itself, or by one. -/
theorem number_toInt_le (numbered : column.number value next = some (stored, counter))
    (low : next.toInt ≤ top) (given : ∀ n, value = .int n → n.toInt < top) :
    counter.toInt ≤ top + if column.autoIncrement then 1 else 0 := by
  unfold number at numbered
  split at numbered
  · rename_i auto
    rw [if_pos auto]
    cases value with
    | null =>
        simp only [Option.ite_none_left_eq_some, Option.some.injEq, Prod.mk.injEq] at numbered
        obtain ⟨inside, -, rfl⟩ := numbered
        rw [toInt_succ inside]
        omega
    | int id =>
        simp only [Option.ite_none_left_eq_some, Option.some.injEq, Prod.mk.injEq] at numbered
        obtain ⟨inside, -, rfl⟩ := numbered
        have below := given id rfl
        have step := toInt_succ inside
        rw [max_eq]
        split <;> omega
    | bool | text =>
        cases numbered
        omega
  · cases numbered
    omega

theorem not_exhausts (low : next.toInt ≤ top) (given : ∀ n, value = .int n → n.toInt < top)
    (room : (top + if column.autoIncrement then 1 else 0) ≤ Int64.maxValue.toInt) :
    ¬ column.Exhausts value next := by
  rintro ⟨auto, rfl | ⟨rfl, rfl⟩⟩
  · have below := given Int64.maxValue rfl
    rw [if_pos auto] at room
    omega
  · rw [if_pos auto] at room
    omega

theorem fault?_ne_overflow : column.fault? relation value ≠ some .counterOverflow := by
  unfold fault?
  split
  · simp
  · split <;> simp

end Column

section

variable {column : Column} {value stored : Value}

theorem settle_cons_none (unnumbered : column.number value next = none) :
    settle relation (column :: columns) (value :: values) next = (.error .counterOverflow, next) := by
  simp [settle, unnumbered]

theorem settle_cons_fault {fault : InsertFault}
    (number : column.number value next = some (stored, counter))
    (refused : column.fault? relation stored = some fault) :
    settle relation (column :: columns) (value :: values) next = (.error fault, counter) := by
  simp [settle, number, refused]

theorem settle_cons_accepts (number : column.number value next = some (stored, counter))
    (accepted : column.fault? relation stored = none) :
    settle relation (column :: columns) (value :: values) next =
      ((settle relation columns values counter).1.map (stored :: ·),
        (settle relation columns values counter).2) := by
  rw [settle, number]
  simp only [accepted]
  generalize settle relation columns values counter = settled
  obtain ⟨answer | row, last⟩ := settled <;> rfl

theorem exhausts_cons_iff :
    Exhausts relation (column :: columns) (value :: values) next ↔
      column.Exhausts value next ∨
        ∃ stored counter, column.number value next = some (stored, counter) ∧
          column.fault? relation stored = none ∧ Exhausts relation columns values counter := by
  constructor
  · rintro ⟨i, other, given, row, last, place, held, before, exhausts⟩
    cases i with
    | zero =>
        cases place
        cases held
        cases before
        exact .inl exhausts
    | succ i =>
        rw [List.take_succ_cons, List.take_succ_cons] at before
        obtain ⟨stored, counter, others, number, settled, -⟩ := settle_cons_ok before
        cases judged : column.fault? relation stored with
        | some fault =>
            rw [settle_cons_fault number judged] at before
            cases before
        | none => exact .inr ⟨stored, counter, number, judged, i, other, given, others, last, place, held,
            settled, exhausts⟩
  · rintro (exhausts | ⟨stored, counter, number, accepted, i, other, given, row, last, place, held, before,
      exhausts⟩)
    · exact ⟨0, column, value, [], next, rfl, rfl, by simp [settle], exhausts⟩
    · refine ⟨i + 1, other, given, stored :: row, last, place, held, ?_, exhausts⟩
      rw [List.take_succ_cons, List.take_succ_cons, settle_cons_accepts number accepted, before]
      rfl

end

/-- A row overflows exactly if it comes to a column that has no number for it. -/
theorem settle_overflow_iff :
    (settle relation columns values next).1 = .error .counterOverflow ↔
      Exhausts relation columns values next := by
  induction columns generalizing values next with
  | nil => simp [settle, Exhausts]
  | cons column columns ih =>
      cases values with
      | nil => simp [settle, Exhausts]
      | cons value values =>
          rw [exhausts_cons_iff, ← Column.number_eq_none_iff]
          cases number : column.number value next with
          | none => simp [settle_cons_none number]
          | some pair =>
              obtain ⟨stored, counter⟩ := pair
              cases judged : column.fault? relation stored with
              | some fault =>
                  have other : fault ≠ .counterOverflow := by
                    rintro rfl
                    exact Column.fault?_ne_overflow judged
                  simp [settle_cons_fault number judged, judged, other]
              | none =>
                  simp only [settle_cons_accepts number judged, reduceCtorEq, false_or,
                    map_eq_error_iff, ih]
                  constructor
                  · exact fun exhausts => ⟨stored, counter, rfl, judged, exhausts⟩
                  · rintro ⟨_, _, ⟨⟩, _, exhausts⟩
                    exact exhausts

/-- Values below the bound take the counter past the bound by one for each numbered column at most, and do
not overflow if there are so many numbers left. -/
theorem settle_room (low : next.toInt ≤ top) (given : ∀ n, Value.int n ∈ values → n.toInt < top)
    (room : top + numbered columns ≤ Int64.maxValue.toInt) :
    ¬ Exhausts relation columns values next ∧
      (settle relation columns values next).2.toInt ≤ top + numbered columns := by
  induction columns generalizing values next top with
  | nil =>
      refine ⟨by simp [Exhausts], ?_⟩
      simp only [settle, numbered, List.countP_nil]
      omega
  | cons column columns ih =>
      have count : (numbered (column :: columns) : Int) =
          (if column.autoIncrement then 1 else 0) + numbered columns := by
        rw [numbered, numbered, List.countP_cons]
        split <;> omega
      rw [count] at room ⊢
      cases values with
      | nil =>
          refine ⟨by simp [Exhausts], ?_⟩
          simp only [settle]
          split <;> omega
      | cons value values =>
          have here : ∀ n, value = .int n → n.toInt < top := by
            rintro n rfl
            exact given n List.mem_cons_self
          have sufficient : ¬ column.Exhausts value next := Column.not_exhausts low here (by omega)
          rw [exhausts_cons_iff]
          cases number : column.number value next with
          | none => exact absurd (Column.number_eq_none_iff.mp number) sufficient
          | some pair =>
              obtain ⟨stored, counter⟩ := pair
              have moved := Column.number_toInt_le number low here
              have later : ∀ n, Value.int n ∈ values →
                  n.toInt < top + if column.autoIncrement then 1 else 0 := by
                intro n member
                have below := given n (List.mem_cons_of_mem _ member)
                split <;> omega
              obtain ⟨rest, bound⟩ := ih moved later (by omega)
              refine ⟨?_, ?_⟩
              · rintro (exhausts | ⟨_, _, ⟨⟩, _, exhausts⟩)
                · exact sufficient exhausts
                · exact rest exhausts
              · cases judged : column.fault? relation stored with
                | some fault =>
                    rw [settle_cons_fault number judged]
                    change counter.toInt ≤ _
                    omega
                | none =>
                    rw [settle_cons_accepts number judged]
                    change (settle relation columns values counter).2.toInt ≤ _
                    omega

theorem assign_mem {entries : List (String × Expr)} {row : List Value} {v : Value}
    (done : assign relation columns entries row = .ok values) (member : v ∈ values) :
    v ∈ row ∨ ∃ name, (name, Expr.const v) ∈ entries := by
  induction entries generalizing row with
  | nil =>
      cases done
      exact .inl member
  | cons entry rest ih =>
      obtain ⟨name, e⟩ := entry
      rw [assign] at done
      split at done
      · cases done
      split at done
      · rename_i u
        rcases ih done with before | ⟨other, later⟩
        · rcases List.mem_or_eq_of_mem_set before with old | rfl
          · exact .inl old
          · exact .inr ⟨name, List.mem_cons_self⟩
        · exact .inr ⟨other, List.mem_cons_of_mem _ later⟩
      · cases done

theorem assign_ne_overflow (entries : List (String × Expr)) (row : List Value) :
    assign relation columns entries row ≠ .error .counterOverflow := by
  induction entries generalizing row with
  | nil => simp [assign]
  | cons entry rest ih =>
      obtain ⟨name, e⟩ := entry
      rw [assign]
      split
      · simp
      · split
        · exact ih _
        · simp

/-- The numbers that the row gives are below the bound. -/
def Insert.Below (row : Insert) (top : Int) : Prop :=
  ∀ n : Int64, Expr.const (.int n) ∈ row.values → n.toInt < top

namespace StoredTable

variable {table : StoredTable} {row : Insert}

theorem given_below (given : table.given row = .ok values) (below : row.Below top) :
    ∀ n, Value.int n ∈ values → n.toInt < top := by
  intro n member
  rcases assign_mem given member with initial | ⟨name, entry⟩
  · obtain ⟨_, _, same⟩ := List.mem_map.mp initial
    cases same
  · exact below n (List.of_mem_zip entry).2

/-- An insert overflows exactly if the values that it is given come to a column without a number. -/
theorem insert_overflow_iff :
    (table.insert row).1 = .error .counterOverflow ↔
      ∃ values, table.given row = .ok values ∧ Exhausts table.name table.columns values table.nextId := by
  have refused : table.given row ≠ .error .counterOverflow := assign_ne_overflow _ _
  cases assigned : table.given row with
  | error fault =>
      rw [assigned] at refused
      rw [given] at assigned
      rw [insert, assigned]
      simpa using refused
  | ok values =>
      rw [given] at assigned
      rw [insert, assigned]
      simp only [Except.ok.injEq, exists_eq_left', ← settle_overflow_iff]
      generalize settle table.name table.columns values table.nextId = settled
      obtain ⟨fault | stored, next⟩ := settled <;> simp

/-- What room a table needs: its counter is not above the bound, and it has so many numbered columns at
most. -/
structure Room (table : StoredTable) (top : Int) (width : Nat) : Prop where
  counter : table.nextId.toInt ≤ top
  columns : numbered table.columns ≤ width

theorem Room.later {later : Int} (room : table.Room top width) (more : top ≤ later) :
    table.Room later width :=
  ⟨Int.le_trans room.counter more, room.columns⟩

theorem Room.insert (room : table.Room top width) (below : row.Below top)
    (left : top + width ≤ Int64.maxValue.toInt) :
    (table.insert row).1 ≠ .error .counterOverflow ∧ (table.insert row).2.Room (top + width) width := by
  have few : (numbered table.columns : Int) ≤ width := Int.ofNat_le.mpr room.columns
  refine ⟨?_, ?_, table.insert_columns row ▸ room.columns⟩
  · rw [Ne, insert_overflow_iff]
    rintro ⟨values, given, exhausts⟩
    exact (settle_room room.counter (given_below given below) (by omega)).1 exhausts
  · rw [StoredTable.insert]
    have low := room.counter
    split
    · exact Int.le_trans low (by omega)
    · rename_i values given
      have enough : top + numbered table.columns ≤ Int64.maxValue.toInt := by omega
      have bound : (settle table.name table.columns values table.nextId).2.toInt ≤
          top + numbered table.columns := (settle_room low (given_below given below) enough).2
      split <;> rename_i settled <;> rw [settled] at bound <;> exact Int.le_trans bound (by omega)

end StoredTable

/-- Every table of the store has room. -/
def Store.Room (store : Store) (top : Int) (width : Nat) : Prop :=
  ∀ table ∈ store.tables, table.Room top width

namespace Store

variable {store : Store} {row : Insert}

theorem insert_found {table : StoredTable} (found : store.table? row.table.name = some table) :
    store.insert row =
      ((table.insert row).1.map fun stored => ⟨table.columns.map Column.name, [stored]⟩,
        store.replace (table.insert row).2) := by
  rw [insert, found]
  simp only
  generalize table.insert row = inserted
  obtain ⟨fault | stored, after⟩ := inserted <;> rfl

/-- A store overflows exactly if the table that the row names does. -/
theorem insert_overflow_iff :
    (store.insert row).1 = .error .counterOverflow ↔
      ∃ table, store.table? row.table.name = some table ∧ (table.insert row).1 = .error .counterOverflow := by
  cases found : store.table? row.table.name with
  | none => simp [insert, found]
  | some table => simp [insert_found found, map_eq_error_iff]

theorem Room.insert (room : store.Room top width) (below : row.Below top)
    (left : top + width ≤ Int64.maxValue.toInt) :
    (store.insert row).1 ≠ .error .counterOverflow ∧ (store.insert row).2.Room (top + width) width := by
  have later : store.Room (top + width) width := fun table member => (room table member).later (by omega)
  cases found : store.table? row.table.name with
  | none =>
      rw [Store.insert, found]
      exact ⟨by simp, later⟩
  | some table =>
      obtain ⟨fine, after⟩ := (room table (List.mem_of_find?_eq_some found)).insert below left
      rw [insert_found found]
      refine ⟨mt map_eq_error_iff.mp fine, fun other member => ?_⟩
      obtain ⟨before, present, rfl⟩ := List.mem_map.mp member
      split
      · exact after
      · exact later before present

end Store

/-- The operation gives numbers below the bound only, and tables so many numbered columns at most. -/
def Operation.Below (top : Int) (width : Nat) : Operation → Prop
  | .reset tables => ∀ table ∈ tables, numbered table.columns ≤ width
  | .exec (.insert row) => row.Below top
  | .exec (.query _) => True

/-- How many numbers the operation uses up at most, in tables with so many numbered columns. -/
def Operation.uses (width : Nat) : Operation → Nat
  | .exec (.insert _) => width
  | .exec (.query _) | .reset _ => 0

theorem Operation.Below.later {operation : Operation} {later : Int} (below : operation.Below top width)
    (more : top ≤ later) : operation.Below later width := by
  match operation with
  | .exec (.insert row) => exact fun n given => Int.lt_of_lt_of_le (below n given) more
  | .exec (.query q) => exact below
  | .reset tables => exact below

namespace Engine

variable {engine : Engine}

/-- An insert is cut short exactly if the engine is usable and the store overflows. -/
theorem exec_abort_iff {row : Insert} :
    (∃ message, (engine.exec (.insert row)).1 = .error (.abort message)) ↔
      engine.poisoned = false ∧ (engine.store.insert row).1 = .error .counterOverflow := by
  cases usable : engine.poisoned with
  | true => simp [exec, usable]
  | false =>
      have ready : ¬ engine.poisoned = true := by simp [usable]
      cases done : engine.store.insert row with
      | mk answer store =>
          cases answer with
          | ok rowset => simp [exec_insert_ok ready done]
          | error fault =>
              rw [exec_insert_error ready done]
              cases fault <;> simp [InsertFault.failure]

theorem exec_poisoned (poisoned : engine.poisoned = true) (statement : Statement) :
    (engine.exec statement).1 = .error (.error poisonedError) := by
  unfold exec
  rw [if_pos poisoned]

/-- Once an insert is cut short, every statement is refused. -/
theorem exec_after_abort {row : Insert}
    (aborted : ∃ message, (engine.exec (.insert row)).1 = .error (.abort message)) (statement : Statement) :
    ((engine.exec (.insert row)).2.exec statement).1 = .error (.error poisonedError) := by
  obtain ⟨usable, overflowed⟩ := exec_abort_iff.mp aborted
  have ready : ¬ engine.poisoned = true := by simp [usable]
  have poisoned : (engine.exec (.insert row)).2.poisoned = true := by
    cases done : engine.store.insert row with
    | mk answer store =>
        rw [done] at overflowed
        cases overflowed
        rw [exec_insert_error ready done]
        rfl
  exact exec_poisoned poisoned statement

/-- The engine is usable and its tables have room. -/
def Room (engine : Engine) (top : Int) (width : Nat) : Prop :=
  engine.poisoned = false ∧ engine.store.Room top width

theorem Room.exec_insert {row : Insert} (room : engine.Room top width) (below : row.Below top)
    (left : top + width ≤ Int64.maxValue.toInt) :
    (∀ message, (engine.exec (.insert row)).1 ≠ .error (.abort message)) ∧
      (engine.exec (.insert row)).2.Room (top + width) width := by
  obtain ⟨usable, tables⟩ := room
  have ready : ¬ engine.poisoned = true := by simp [usable]
  obtain ⟨fine, after⟩ := tables.insert below left
  refine ⟨fun message aborted => fine (exec_abort_iff.mp ⟨message, aborted⟩).2, ?_⟩
  cases done : engine.store.insert row with
  | mk answer store =>
      rw [done] at fine after
      cases answer with
      | ok rowset =>
          rw [exec_insert_ok ready done]
          exact ⟨usable, after⟩
      | error fault =>
          have other : fault ≠ .counterOverflow := by
            rintro rfl
            exact fine rfl
          rw [exec_insert_error ready done]
          exact ⟨beq_eq_false_iff_ne.mpr other, after⟩

theorem Room.perform {operation : Operation} (room : engine.Room top width) (positive : 1 ≤ top)
    (below : operation.Below top width) (left : top + operation.uses width ≤ Int64.maxValue.toInt) :
    (engine.perform operation).Room (top + operation.uses width) width := by
  match operation with
  | .exec (.insert row) => exact (room.exec_insert below left).2
  | .exec (.query q) =>
      rw [Engine.perform, exec_query, Operation.uses, Int.natCast_zero, Int.add_zero]
      exact room
  | .reset tables =>
      have ready : ¬ engine.poisoned = true := by simp [room.1]
      rw [Engine.perform, reset, if_neg ready, Operation.uses, Int.natCast_zero, Int.add_zero]
      refine ⟨room.1, fun stored member => ?_⟩
      obtain ⟨table, known, rfl⟩ := List.mem_map.mp member
      exact ⟨positive, below table known⟩

/-- A run leaves room as long as all that its operations use up is there. -/
theorem Room.after {operations : List Operation} (room : engine.Room top width) (positive : 1 ≤ top)
    (below : ∀ operation ∈ operations, operation.Below top width)
    (left : top + (operations.map (Operation.uses width)).sum ≤ Int64.maxValue.toInt) :
    (engine.after operations).Room (top + (operations.map (Operation.uses width)).sum) width := by
  induction operations generalizing engine top with
  | nil => exact (Int.add_zero top).symm ▸ room
  | cons operation rest ih =>
      rw [List.map_cons, List.sum_cons, Int.natCast_add] at left ⊢
      have here := below operation List.mem_cons_self
      have first := room.perform positive here (by omega)
      rw [← Int.add_assoc]
      refine ih first (by omega) (fun other member => ?_) (by omega)
      exact (below other (List.mem_cons_of_mem _ member)).later (by omega)

theorem new_room : Engine.new.Room top width := ⟨rfl, fun _ absent => absurd absent List.not_mem_nil⟩

/-- After whatever operations, an insert is cut short exactly if the engine is usable and the values that it
is given come to a numbered column for which there is no number, and then every later statement is refused.
As long as the numbers that are given, and one for each numbered column and insert, are below the limit, no
insert is. -/
theorem runs_overflow_at_limit (operations : List Operation) (row : Insert) :
    let engine := Engine.new.after operations
    let run := operations ++ [.exec (.insert row)]
    ((∃ message, (engine.exec (.insert row)).1 = .error (.abort message)) ↔
      engine.poisoned = false ∧ ∃ table values, engine.store.table? row.table.name = some table ∧
        table.given row = .ok values ∧ Exhausts table.name table.columns values table.nextId) ∧
    ((∃ message, (engine.exec (.insert row)).1 = .error (.abort message)) → ∀ statement,
      ((engine.exec (.insert row)).2.exec statement).1 = .error (.error poisonedError)) ∧
    ∀ (top : Int) (width : Nat), 1 ≤ top → (∀ operation ∈ run, operation.Below top width) →
      top + (run.map (Operation.uses width)).sum ≤ Int64.maxValue.toInt →
      (∀ message, (engine.exec (.insert row)).1 ≠ .error (.abort message)) ∧
        (engine.exec (.insert row)).2.poisoned = false := by
  intro engine run
  refine ⟨?_, exec_after_abort, fun top width positive below left => ?_⟩
  · simp only [exec_abort_iff, Store.insert_overflow_iff, StoredTable.insert_overflow_iff,
      exists_and_left]
  · have uses : (run.map (Operation.uses width)).sum =
        (operations.map (Operation.uses width)).sum + width := by
      simp [run, Operation.uses]
    rw [uses] at left
    have last : row.Below top := below (.exec (.insert row)) (by simp [run])
    have room : engine.Room (top + (operations.map (Operation.uses width)).sum) width :=
      new_room.after positive (fun operation member => below operation (by simp [run, member])) (by omega)
    have later : row.Below (top + (operations.map (Operation.uses width)).sum) :=
      fun n given => Int.lt_of_lt_of_le (last n given) (by omega)
    obtain ⟨fine, after⟩ := room.exec_insert later (by omega)
    exact ⟨fine, after.1⟩

/-- A note that is given a number and one that is not. -/
theorem runs_overflow_at_limit_notes :
    let operations : List Operation := [.reset [Sample.noteTable],
      .exec (.insert ⟨.table "notes" none, ["id"], [.const (.int 5)], true⟩)]
    let row : Insert := ⟨.table "notes" none, [], [], true⟩
    (∀ operation ∈ operations ++ [.exec (.insert row)], operation.Below 6 1) ∧
      (6 + (List.map (Operation.uses 1) (operations ++ [.exec (.insert row)])).sum : Int) ≤
        Int64.maxValue.toInt ∧
      (((Engine.new.after operations).exec (.insert row)).2.poisoned = false) := by
  intro operations row
  have below : ∀ operation ∈ operations ++ [.exec (.insert row)], operation.Below 6 1 := by
    intro operation member
    simp only [operations, List.cons_append, List.nil_append, List.mem_cons, List.not_mem_nil,
      or_false] at member
    rcases member with rfl | rfl | rfl
    · simp [Operation.Below, numbered, Sample.noteTable]
    · simp [Operation.Below, Insert.Below]
    · simp [Operation.Below, Insert.Below, row]
  have left : (6 + (List.map (Operation.uses 1) (operations ++ [.exec (.insert row)])).sum : Int) ≤
      Int64.maxValue.toInt := by decide
  exact ⟨below, left, ((runs_overflow_at_limit operations row).2.2 6 1 (by decide) below left).2⟩

/-- The largest number can be given, and then nothing more can be done. -/
theorem insert_largest_number_aborts :
    let engine := Engine.new.after [.reset [Sample.noteTable]]
    let row : Insert := ⟨.table "notes" none, ["id"], [.const (.int Int64.maxValue)], true⟩
    (engine.exec (.insert row)).1 = .error (.abort "attempt to add with overflow") ∧
      ∀ statement, ((engine.exec (.insert row)).2.exec statement).1 = .error (.error poisonedError) :=
  ⟨rfl, fun _ => rfl⟩

end Engine

end Relata
