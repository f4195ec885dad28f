import Relata.Proofs.Store.Typed

/-!
Numbers of rows. The counter of a table stands above every number that its numbered columns hold, given
or generated, so the next number it generates is a new one. A refused row leaves the rows alone and
never takes the counter back.
-/

namespace Relata

variable {relation : String} {columns : List Column} {values row : List Value} {next after : Int64}

/-- The numbers that a row has in the numbered columns. -/
def numbersIn : List Column → List Value → List Int64
  | column :: columns, value :: values =>
    if column.autoIncrement then value.int?.toList ++ numbersIn columns values
    else numbersIn columns values
  | _, _ => []

namespace Column

variable {column : Column} {value stored : Value}

theorem max_eq (a b : Int64) : max a b = if a ≤ b then b else a := rfl

theorem number_le (numbered : column.number value next = some (stored, after)) : next ≤ after := by
  unfold Column.number at numbered
  split at numbered
  · cases value with
    | null | int =>
        simp only [max_eq] at numbered
        grind
    | bool | text =>
        cases numbered
        exact Int64.le_refl next
  · cases numbered
    exact Int64.le_refl next

theorem number_lt {id : Int64} (numbered : column.number value next = some (.int id, after))
    (auto : column.autoIncrement = true) : id < after := by
  unfold Column.number at numbered
  rw [if_pos auto] at numbered
  cases value with
  | null | int =>
      simp only [max_eq] at numbered
      grind
  | bool | text => cases numbered

theorem number_null (numbered : column.number .null next = some (stored, after))
    (auto : column.autoIncrement = true) : stored = .int next := by
  unfold Column.number at numbered
  rw [if_pos auto] at numbered
  grind

end Column

theorem settle_le {answer : Except InsertFault (List Value)}
    (done : settle relation columns values next = (answer, after)) : next ≤ after := by
  induction columns generalizing values next answer after with
  | nil =>
      rw [settle] at done
      · cases done
        exact Int64.le_refl next
      · simp
  | cons column columns ih =>
      cases values with
      | nil =>
          rw [settle] at done
          · cases done
            exact Int64.le_refl next
          · simp
      | cons value values =>
          rw [settle] at done
          split at done
          · cases done
            exact Int64.le_refl next
          rename_i numbered
          have first := Column.number_le numbered
          split at done
          · cases done
            exact first
          split at done
          all_goals
            rename_i settled
            cases done
            exact Int64.le_trans first (ih settled)

/-- What a settled row is made of: the first value numbered and accepted, and the others settled with the
counter that is left. -/
theorem settle_cons_ok {column : Column} {value : Value}
    (done : settle relation (column :: columns) (value :: values) next = (.ok row, after)) :
    ∃ stored middle others, column.number value next = some (stored, middle) ∧
      settle relation columns values middle = (.ok others, after) ∧ row = stored :: others := by
  rw [settle] at done
  split at done
  · cases done
  rename_i stored middle numbered
  split at done
  · cases done
  split at done
  · rename_i others last settled
    cases done
    exact ⟨stored, middle, others, numbered, settled, rfl⟩
  · cases done

theorem settle_lt (done : settle relation columns values next = (.ok row, after)) :
    ∀ id ∈ numbersIn columns row, id < after := by
  induction columns generalizing values row next after with
  | nil => simp [numbersIn]
  | cons column columns ih =>
      cases values with
      | nil =>
          rw [settle] at done
          · cases done
            simp [numbersIn]
          · simp
      | cons value values =>
          obtain ⟨stored, middle, others, numbered, settled, rfl⟩ := settle_cons_ok done
          intro id held
          rw [numbersIn] at held
          split at held
          · rename_i auto
            rcases List.mem_append.mp held with here | later
            · cases stored with
              | int n =>
                  cases List.mem_singleton.mp here
                  exact Int64.lt_of_lt_of_le (Column.number_lt numbered auto) (settle_le settled)
              | null | bool | text => cases here
            · exact ih settled id later
          · exact ih settled id held

/-- A number that is generated is not below the counter that the row found. -/
theorem settle_generates (done : settle relation columns values next = (.ok row, after)) {i : Nat}
    {column : Column} (place : columns[i]? = some column) (auto : column.autoIncrement = true)
    (missing : values[i]? = some .null) : ∃ id, row[i]? = some (.int id) ∧ next ≤ id := by
  induction columns generalizing values row next after i with
  | nil => cases place
  | cons first columns ih =>
      cases values with
      | nil => cases missing
      | cons value values =>
          obtain ⟨stored, middle, others, numbered, settled, rfl⟩ := settle_cons_ok done
          cases i with
          | zero =>
              cases place
              cases missing
              exact ⟨next, congrArg some (Column.number_null numbered auto), Int64.le_refl next⟩
          | succ i =>
              obtain ⟨id, held, above⟩ := ih settled place missing
              exact ⟨id, held, Int64.le_trans (Column.number_le numbered) above⟩

namespace StoredTable

variable {table : StoredTable}

/-- Every row has one value for each column, one that the column takes, and every number in a numbered
column is below the counter. -/
structure Sound (table : StoredTable) : Prop where
  rows : ∀ row ∈ table.rows, List.Forall₂ Column.Takes table.columns row
  counter : ∀ row ∈ table.rows, ∀ id ∈ numbersIn table.columns row, id < table.nextId

/-- The values that an insert gives to the columns, a null where it gives none. -/
def given (table : StoredTable) (row : Insert) : Except InsertFault (List Value) :=
  assign table.name table.columns (row.columns.zip row.values) (table.columns.map fun _ => .null)

/-- The table as a refused row leaves it. -/
def advance (table : StoredTable) (next : Int64) : StoredTable := { table with nextId := next }

/-- The table with one more row. -/
def add (table : StoredTable) (row : List Value) (next : Int64) : StoredTable :=
  { table with rows := table.rows ++ [row], nextId := next }

/-- The row goes into the table: its values are those given, numbered where a number is missing. -/
structure Takes (table : StoredTable) (row : Insert) (stored : List Value) (next : Int64) : Prop where
  typed : List.Forall₂ Column.Takes table.columns stored
  counter : table.nextId ≤ next
  below : ∀ id ∈ numbersIn table.columns stored, id < next
  generated : ∃ values, table.given row = .ok values ∧
    ∀ (i : Nat) (column : Column), table.columns[i]? = some column → column.autoIncrement = true →
      values[i]? = some Value.null → ∃ id, stored[i]? = some (Value.int id) ∧ table.nextId ≤ id

/-- An insert adds a row or takes numbers at most. -/
theorem insert_cases (table : StoredTable) (row : Insert) :
    (∃ fault next, table.nextId ≤ next ∧ table.insert row = (.error fault, table.advance next)) ∨
      ∃ stored next, table.Takes row stored next ∧
        table.insert row = (.ok stored, table.add stored next) := by
  rw [insert]
  split
  · rename_i fault _
    exact .inl ⟨fault, table.nextId, Int64.le_refl _, rfl⟩
  rename_i values assigned
  split
  · rename_i fault next settled
    exact .inl ⟨fault, next, settle_le settled, rfl⟩
  · rename_i stored next settled
    have width : values.length = table.columns.length := by
      rw [assign_length assigned, List.length_map]
    exact .inr ⟨stored, next, ⟨settle_takes width settled, settle_le settled, settle_lt settled,
      values, assigned, fun _ _ place auto missing => settle_generates settled place auto missing⟩, rfl⟩

theorem Sound.advance (sound : table.Sound) {next : Int64} (later : table.nextId ≤ next) :
    (table.advance next).Sound :=
  ⟨sound.rows, fun row member id held => Int64.lt_of_lt_of_le (sound.counter row member id held) later⟩

theorem Sound.add (sound : table.Sound) {row : Insert} {stored : List Value} {next : Int64}
    (takes : table.Takes row stored next) : (table.add stored next).Sound := by
  refine ⟨fun other member => ?_, fun other member id held => ?_⟩
  · rcases List.mem_append.mp member with before | new
    · exact sound.rows other before
    · exact List.mem_singleton.mp new ▸ takes.typed
  · rcases List.mem_append.mp member with before | new
    · exact Int64.lt_of_lt_of_le (sound.counter other before id held) takes.counter
    · exact takes.below id (List.mem_singleton.mp new ▸ held)

/-- A generated number is in no numbered column of the rows stored before. -/
theorem Sound.fresh (sound : table.Sound) {id : Int64} (above : table.nextId ≤ id) :
    ∀ row ∈ table.rows, id ∉ numbersIn table.columns row := by
  intro row member held
  have below := sound.counter row member id held
  rw [Int64.lt_iff_toInt_lt] at below
  rw [Int64.le_iff_toInt_le] at above
  omega

end StoredTable

end Relata
