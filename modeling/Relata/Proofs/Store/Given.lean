import Relata.Proofs.Query.Cells
import Relata.Proofs.Store.Numbers

/-!
Values that are given to an insert. The last value given to a column is the one assigned to it, and a number that
is assigned is stored as it is, also in a column that numbers its rows.
-/

namespace Relata

variable {relation name : String} {columns : List Column} {row values stored : List Value} {next after : Int64}
  {n : Int64}

theorem cellOf_nil (names : List String) (name : String) : cellOf names [] name = .null := by
  induction names with
  | nil => rfl
  | cons first rest ih => simp [cellOf, ih]

/-- A value is assigned to the first column of its name. -/
theorem cellOf_set {i : Nat} (found : columns.findIdx? (·.name == name) = some i) (width : row.length = columns.length)
    (value : Value) (other : String) :
    cellOf (columns.map Column.name) (row.set i value) other =
      if other = name then value else cellOf (columns.map Column.name) row other := by
  induction columns generalizing row i with
  | nil => cases found
  | cons column columns ih =>
      cases row with
      | nil => cases width
      | cons first row =>
          rw [List.findIdx?_cons] at found
          by_cases here : column.name = name
          · rw [if_pos (by simpa using here)] at found
            cases found
            by_cases same : other = name
            · simp [cellOf, here, same]
            · simp [cellOf, here, same, Ne.symm same]
          · rw [if_neg (by simpa using here)] at found
            obtain ⟨j, place, rfl⟩ := Option.map_eq_some_iff.mp found
            have later := ih place (Nat.succ.inj width)
            by_cases same : column.name = other
            · have apart : other ≠ name := same ▸ here
              simp [cellOf, same, apart]
            · simp [cellOf, same, later]

theorem assign_append (entries others : List (String × Expr)) :
    assign relation columns (entries ++ others) row =
      (assign relation columns entries row).bind (assign relation columns others) := by
  induction entries generalizing row with
  | nil => rfl
  | cons entry entries ih =>
      obtain ⟨name, e⟩ := entry
      rw [List.cons_append, assign, assign]
      split
      · rfl
      · split
        · exact ih
        · rfl

/-- Values given to other columns leave a column alone. -/
theorem assign_others {entries : List (String × Expr)} (done : assign relation columns entries row = .ok values)
    (width : row.length = columns.length) (others : ∀ entry ∈ entries, entry.1 ≠ name) :
    cellOf (columns.map Column.name) values name = cellOf (columns.map Column.name) row name := by
  induction entries generalizing row with
  | nil =>
      cases done
      rfl
  | cons entry entries ih =>
      obtain ⟨first, e⟩ := entry
      rw [assign] at done
      split at done
      · cases done
      rename_i i found
      split at done
      · rename_i value
        have apart : name ≠ first := (others _ List.mem_cons_self).symm
        rw [ih done (by simpa using width) fun entry member => others entry (List.mem_cons_of_mem _ member),
          cellOf_set found width, if_neg apart]
      · cases done

/-- The last value given to a column is assigned to it. -/
theorem assign_last {entries later : List (String × Expr)} {value : Value}
    (done : assign relation columns (entries ++ (name, .const value) :: later) row = .ok values)
    (width : row.length = columns.length) (others : ∀ entry ∈ later, entry.1 ≠ name) :
    cellOf (columns.map Column.name) values name = value := by
  rw [assign_append] at done
  cases before : assign relation columns entries row with
  | error fault =>
      rw [before] at done
      cases done
  | ok middle =>
      rw [before] at done
      have wide : middle.length = columns.length := (assign_length before).trans width
      change assign relation columns ((name, .const value) :: later) middle = .ok values at done
      rw [assign] at done
      split at done
      · cases done
      rename_i i found
      rw [assign_others done (by simpa using wide) others, cellOf_set found wide, if_pos rfl]

theorem Column.number_int {column : Column} {value : Value}
    (numbered : column.number (.int n) next = some (value, after)) : value = .int n := by
  simp only [number] at numbered
  split at numbered
  · simp only [Option.ite_none_left_eq_some, Option.some.injEq, Prod.mk.injEq] at numbered
    exact numbered.2.1.symm
  · cases numbered
    rfl

/-- A number that is given is stored. -/
theorem settle_int (done : settle relation columns values next = (.ok stored, after))
    (given : cellOf (columns.map Column.name) values name = .int n) :
    cellOf (columns.map Column.name) stored name = .int n := by
  induction columns generalizing values stored next with
  | nil => cases given
  | cons column columns ih =>
      cases values with
      | nil =>
          rw [cellOf_nil] at given
          cases given
      | cons value values =>
          obtain ⟨first, middle, others, numbered, settled, rfl⟩ := settle_cons_ok done
          rw [List.map_cons, cellOf] at given ⊢
          split
          · rename_i here
            rw [if_pos here, List.headD_cons] at given
            subst given
            exact Column.number_int numbered
          · rename_i apart
            rw [if_neg apart] at given
            exact ih settled given

theorem StoredTable.insert_settles {table : StoredTable} {row : Insert}
    (done : (table.insert row).1 = .ok stored) :
    ∃ values next, table.given row = .ok values ∧
      settle table.name table.columns values table.nextId = (.ok stored, next) := by
  rw [StoredTable.insert] at done
  split at done
  · cases done
  rename_i values assigned
  split at done
  · cases done
  rename_i others next settled
  cases done
  exact ⟨values, next, assigned, settled⟩

/-- The last number given to a column is what the row has in it. -/
theorem StoredTable.insert_int {table : StoredTable} {row : Insert} {entries later : List (String × Expr)}
    (done : (table.insert row).1 = .ok stored)
    (given : row.columns.zip row.values = entries ++ (name, .const (.int n)) :: later)
    (others : ∀ entry ∈ later, entry.1 ≠ name) :
    cellOf (table.columns.map Column.name) stored name = .int n := by
  obtain ⟨values, next, assigned, settled⟩ := insert_settles done
  rw [StoredTable.given, given] at assigned
  exact settle_int settled (assign_last assigned (by simp) others)

end Relata
