import Mathlib.Data.List.Nodup
import Relata.Eval.Query
import Relata.Proofs.Outcome
import Relata.Relation

/-!
Cells of rows. A query that computes plain columns of one source picks cells of that source's row:
those of some names, or the whole row.
-/

namespace Relata

/-- The value under a column's name; a null where the row has no such column. -/
def cellOf : List String → List Value → String → Value
  | [], _, _ => .null
  | column :: columns, values, name =>
    if column = name then values.headD .null else cellOf columns values.tail name

variable {columns names : List String} {values : List Value} {name other qualifier : String}

theorem Binding.value_cell (present : name ∈ columns) :
    Binding.value ⟨⟨qualifier, columns⟩, values⟩ name = .ok (cellOf columns values name) := by
  induction columns generalizing values with
  | nil => cases present
  | cons column rest ih =>
      by_cases here : column = name
      · subst here
        cases values <;> simp [Binding.value, cellOf, List.idxOf?_cons]
      · have later : name ∈ rest := (List.mem_cons.mp present).resolve_left (Ne.symm here)
        have further : Binding.value ⟨⟨qualifier, rest⟩, values.tail⟩ name =
            .ok (cellOf rest values.tail name) := ih later
        rw [cellOf, if_neg here, ← further]
        cases found : rest.idxOf? name with
        | none => exact absurd later (List.idxOf?_eq_none_iff.mp found)
        | some i => cases values <;> simp [Binding.value, List.idxOf?_cons, here, found]

theorem Binding.value_missing (absent : name ∉ columns) :
    Binding.value ⟨⟨qualifier, columns⟩, values⟩ name = .error (.unknownColumn qualifier name) := by
  rw [Binding.value, List.idxOf?_eq_none_iff.mpr absent]

theorem map_cellOf (distinct : names.Nodup) (width : values.length = names.length) :
    names.map (cellOf names values) = values := by
  induction names generalizing values with
  | nil => exact (List.eq_nil_of_length_eq_zero width).symm
  | cons column rest ih =>
      cases values with
      | nil => cases width
      | cons value values =>
          obtain ⟨fresh, distinct⟩ := List.nodup_cons.mp distinct
          have others : rest.map (cellOf (column :: rest) (value :: values)) = values := by
            refine Eq.trans ?_ (ih distinct (Nat.succ.inj width))
            refine List.map_congr_left fun name member => ?_
            have different : column ≠ name := fun same => fresh (same ▸ member)
            rw [cellOf, if_neg different, List.tail_cons]
          rw [List.map_cons, others, cellOf, if_pos rfl, List.headD_cons]

theorem cellOf_map {f : String → Value} (present : name ∈ names) :
    cellOf names (names.map f) name = f name := by
  induction names with
  | nil => cases present
  | cons column rest ih =>
      rw [cellOf]
      split
      · rename_i here
        rw [List.map_cons, List.headD_cons, here]
      · rename_i elsewhere
        exact ih ((List.mem_cons.mp present).resolve_left (Ne.symm elsewhere))

/-- The columns that a query computes of a source. -/
inductive Choice
  | all
  | named (names : List String)

namespace Choice

def items (table : TableRef) : Choice → List SelectItem
  | .all => [.wildcard table]
  | .named names => names.map fun name => .expr (.column (table.column name))

def header (columns : List String) : Choice → List String
  | .all => columns
  | .named names => names

def pick (binding : Binding) : Choice → Except Fault (List Value)
  | .all => .ok binding.values
  | .named names => names.mapM binding.value

def pickRow (choice : Choice) : Frame → Except Fault (List Value)
  | binding :: _ => choice.pick binding
  | [] => .ok []

/-- The choice with one more column in front. All columns are all columns already. -/
def withFirst (name : String) : Choice → Choice
  | .all => .all
  | .named names => .named (name :: names)

variable {choice : Choice} {table : TableRef} {shape : Shape} {outer : Env} {row : Frame}

/-- Columns that are computed by name have these names, whatever the sources are. -/
theorem header_named (table : TableRef) (names : List String) (shapes : List Shape) :
    ∃ headers, ((named names).items table).mapM (SelectItem.header shapes) = .ok headers ∧
      headers.flatten = names := by
  refine ⟨names.map fun name => [name], ?_, ?_⟩
  · rw [items, List.mapM_map]
    exact mapM_eq_ok_map fun name _ => rfl
  · rw [← List.flatMap_def]
    exact List.flatMap_pure_eq_map _ _ |>.trans (List.map_id _)

theorem header_items (choice : Choice) (others : List Shape) (bound : table.qualifier = shape.qualifier) :
    ∃ headers, (choice.items table).mapM (SelectItem.header (shape :: others)) = .ok headers ∧
      headers.flatten = choice.header shape.columns := by
  cases choice with
  | all =>
      refine ⟨[shape.columns], ?_, List.append_nil _⟩
      simp [items, SelectItem.header, bound, pure, Except.pure]
  | named names => exact header_named table names _

theorem values_items (bound : table.qualifier = shape.qualifier) :
    (do return (← (choice.items table).mapM
      (SelectItem.values (⟨shape, values⟩ :: row) outer)).flatten) = choice.pick ⟨shape, values⟩ := by
  have found : Frame.binding? (⟨shape, values⟩ :: row) table.qualifier = some ⟨shape, values⟩ := by
    simp [Frame.binding?, bound]
  cases choice with
  | all => simp [items, pick, SelectItem.values, found, pure, Except.pure]
  | named names =>
      have near : ∀ name : String, SelectItem.values (⟨shape, values⟩ :: row) outer
          (.expr (.column (table.column name))) = (do
            return [← Binding.value ⟨shape, values⟩ name]) := by
        intro name
        rw [SelectItem.values, Expr.eval, Env.value_near found]
        rfl
      rw [items, List.mapM_map, Function.comp_def, funext near]
      exact mapM_singletons (Binding.value ⟨shape, values⟩) _

theorem pick_named (present : ∀ name ∈ names, name ∈ columns) :
    (Choice.named names).pick ⟨⟨qualifier, columns⟩, values⟩ =
      .ok (names.map (cellOf columns values)) :=
  mapM_eq_ok_map fun name member => Binding.value_cell (present name member)

/-- The values that are picked of a row with these columns. -/
def picked (columns : List String) (row : List Value) : Choice → List Value
  | .all => row
  | .named names => names.map (cellOf columns row)

theorem pick_eq (present : ∀ name ∈ choice.header columns, name ∈ columns) :
    choice.pick ⟨⟨qualifier, columns⟩, values⟩ = .ok (choice.picked columns values) := by
  cases choice with
  | all => rfl
  | named names => exact pick_named present

theorem length_picked (width : values.length = columns.length) :
    (choice.picked columns values).length = (choice.header columns).length := by
  cases choice with
  | all => exact width
  | named names => exact List.length_map _

theorem cellOf_picked (chosen : name ∈ choice.header columns) :
    cellOf (choice.header columns) (choice.picked columns values) name =
      cellOf columns values name := by
  cases choice with
  | all => rfl
  | named names => exact cellOf_map chosen

/-- A pick has an answer for every row with these columns, or the same fault for every row. -/
theorem pick_uniform (choice : Choice) (columns : List String) (qualifier : String) :
    (∀ values, choice.pick ⟨⟨qualifier, columns⟩, values⟩ = .ok (choice.picked columns values)) ∨
      ∃ e, ∀ values, choice.pick ⟨⟨qualifier, columns⟩, values⟩ = .error e := by
  cases choice with
  | all => exact .inl fun values => rfl
  | named names =>
      by_cases present : ∀ name ∈ names, name ∈ columns
      · exact .inl fun values => pick_named present
      · right
        induction names with
        | nil => exact absurd (fun name member => absurd member List.not_mem_nil) present
        | cons name rest ih =>
            by_cases here : name ∈ columns
            · have missing : ¬ ∀ name ∈ rest, name ∈ columns := fun others =>
                present (List.forall_mem_cons.mpr ⟨here, others⟩)
              obtain ⟨e, fails⟩ := ih missing
              refine ⟨e, fun values => ?_⟩
              have later : rest.mapM (Binding.value ⟨⟨qualifier, columns⟩, values⟩) = .error e :=
                fails values
              rw [pick, List.mapM_cons, Binding.value_cell here, ok_bind, later]
              rfl
            · refine ⟨.unknownColumn qualifier name, fun values => ?_⟩
              rw [pick, List.mapM_cons, Binding.value_missing here]
              rfl

theorem length_of_pick {binding : Binding} {row : List Value}
    (picked : (Choice.named names).pick binding = .ok row) : row.length = names.length :=
  (forall₂_of_mapM picked).length_eq.symm

@[simp] theorem header_header : choice.header (choice.header columns) = choice.header columns := by
  cases choice <;> rfl

@[simp] theorem header_withFirst :
    (choice.withFirst name).header (name :: columns) = name :: choice.header columns := by
  cases choice <;> rfl

theorem picked_withFirst (choice : Choice) (columns : List String) (name : String) (value : Value)
    (row : List Value) :
    ∃ picks, (choice.withFirst name).picked (name :: columns) (value :: row) = value :: picks := by
  cases choice with
  | all => exact ⟨row, rfl⟩
  | named names =>
      refine ⟨names.map (cellOf (name :: columns) (value :: row)), ?_⟩
      rw [withFirst, picked, List.map_cons, cellOf, if_pos rfl, List.headD_cons]

theorem pick_withFirst {binding : Binding} {picks : List Value} (value : Value)
    (picked : choice.pick binding = .ok picks) (distinct : (choice.header columns).Nodup)
    (fresh : name ∉ choice.header columns) :
    (choice.withFirst name).pick ⟨⟨qualifier, name :: choice.header columns⟩, value :: picks⟩ =
      .ok (value :: picks) := by
  cases choice with
  | all => rfl
  | named names =>
      have width : (value :: picks).length = (name :: names).length :=
        congrArg Nat.succ (length_of_pick picked)
      have whole := map_cellOf (List.nodup_cons.mpr ⟨fresh, distinct⟩) width
      exact (pick_named fun name member => member).trans (congrArg Except.ok whole)

end Choice

/-- The columns that a model chooses by itself. -/
def Model.choice (model : Model) : Choice :=
  if model.hasIgnored then .named (model.activeColumns.map Column.name) else .all

theorem Model.header_choice (model : Model) :
    model.choice.header model.table.columnNames = model.activeColumns.map Column.name := by
  unfold Model.choice
  split
  · rfl
  · rename_i none
    have nothing : model.ignored = [] := by simpa [Model.hasIgnored] using none
    have active : model.activeColumns = model.table.columns := by
      simp [Model.activeColumns, Model.isIgnored, nothing]
    rw [active]
    rfl

theorem Model.nodup_choice {model : Model} {table : Table}
    (own : model.table.columnNames.Nodup) (distinct : table.columnNames.Nodup) :
    (model.choice.header table.columnNames).Nodup := by
  unfold Model.choice
  split
  · exact own.sublist (List.filter_sublist.map Column.name)
  · exact distinct

theorem Model.mem_header {model : Model} {name : String} :
    name ∈ model.choice.header model.table.columnNames ↔
      name ∈ model.table.columnNames ∧ model.isIgnored name = false := by
  rw [Model.header_choice, Model.activeColumns, Table.columnNames]
  constructor
  · intro chosen
    obtain ⟨column, active, rfl⟩ := List.mem_map.mp chosen
    rw [List.mem_filter] at active
    exact ⟨List.mem_map_of_mem active.1, by simpa using active.2⟩
  · intro active
    obtain ⟨column, known, rfl⟩ := List.mem_map.mp active.1
    exact List.mem_map_of_mem (List.mem_filter.mpr ⟨known, by simp [active.2]⟩)

theorem Relation.defaultItems_eq (relation : Relation) :
    relation.defaultItems = relation.model.choice.items relation.table := by
  unfold Relation.defaultItems Model.choice
  split
  · rw [Choice.items, List.map_map]
    rfl
  · rfl

end Relata
