import Relata.Proofs.Query.Sources

/-!
Relations that compute plain columns of what they read. Such a relation answers with the columns it
chooses, whatever it filters, sorts and joins, and the values of a row come from a row of its source.
-/

namespace Relata

/-- The relation reads the source under its own name and computes the chosen columns of it. -/
structure Relation.Reads (relation : Relation) (source : Source) (choice : Choice) : Prop where
  origin : relation.query.source = source
  qualifier : source.qualifier = relation.table.qualifier
  items : relation.query.items = choice.items relation.table

/-- The relation reads the table, possibly under another name, and selects nothing itself. -/
structure Relation.Direct (relation : Relation) (name : String) : Prop where
  table : ∃ aliasName, relation.table = .table name aliasName
  origin : relation.origin = none
  items : relation.items = []

/-- The limit of a relation is a constant of its query. -/
theorem Relation.query_limited (relation : Relation) {count : Nat} (n : Int64)
    (limited : relation.limit = some count) (same : Value.ofNat count = .int n) :
    relation.query =
      { ({ relation with limit := none } : Relation).query with limit := some (.const (.int n)) } := by
  rw [← same, query, limited]
  rfl

/-- The rows of a source as a query reads them under a name. -/
def Rowset.frames (rowset : Rowset) (qualifier : String) : List Frame :=
  rowset.rows.map fun values => [⟨⟨qualifier, rowset.columns⟩, values⟩]

variable {db : Database} {outer : Env} {relation : Relation} {source : Source} {choice : Choice}
  {name : String} {stored : Rowset}

theorem project_items {table : TableRef} {shape : Shape} {others : List Shape} {rows : List Frame}
    (bound : table.qualifier = shape.qualifier)
    (first : ∀ row ∈ rows, ∃ values rest, row = ⟨shape, values⟩ :: rest) :
    project outer (choice.items table) ⟨shape :: others, rows⟩ = (do
      return ⟨choice.header shape.columns, ← rows.mapM choice.pickRow⟩) := by
  obtain ⟨headers, named, chosen⟩ := choice.header_items others bound
  have each : ∀ row ∈ rows, (do
      return (← (choice.items table).mapM (SelectItem.values row outer)).flatten) =
      choice.pickRow row := by
    intro row member
    obtain ⟨values, rest, rfl⟩ := first row member
    exact Choice.values_items bound
  rw [project, named, ok_bind, mapM_congr each, chosen]

namespace Relation.Reads

theorem finish (reads : relation.Reads source choice) {shape : Shape} {others : List Shape}
    {kept : List Frame} (bound : relation.table.qualifier = shape.qualifier)
    (first : ∀ row ∈ kept, ∃ values rest, row = ⟨shape, values⟩ :: rest) :
    (do
      let sorted ← sortRows outer relation.query.order kept
      let cut ← limitRows outer relation.query.limit sorted
      project outer relation.query.items ⟨shape :: others, cut⟩) = (do
      let sorted ← sortRows outer relation.order kept
      return ⟨choice.header shape.columns,
        ← (cutTo relation.limit sorted).mapM choice.pickRow⟩) := by
  have order : relation.query.order = relation.order := rfl
  have limit : relation.query.limit = relation.limit.map fun count => .const (.ofNat count) := rfl
  rw [order, limit, reads.items]
  cases ordered : sortRows outer relation.order kept with
  | error e => rfl
  | ok sorted =>
      rw [ok_bind, ok_bind, limitRows_count, ok_bind, project_items bound]
      intro row member
      exact first row ((sortRows_perm ordered).mem_iff.mp (mem_of_mem_cutTo member))

theorem joined_source (reads : relation.Reads source choice)
    (found : source.read db outer = .ok stored) {joined : Joined}
    (done : relation.query.joined db outer = .ok joined) :
    (∃ others, joined.shapes = ⟨relation.table.qualifier, stored.columns⟩ :: others) ∧
      ∀ row ∈ joined.rows, ∃ values ∈ stored.rows, ∃ rest,
        row = ⟨⟨relation.table.qualifier, stored.columns⟩, values⟩ :: rest := by
  have read : relation.query.source.read db outer = .ok stored := by rw [reads.origin, found]
  have parts := Query.joined_source read done
  rwa [reads.origin, reads.qualifier] at parts

theorem run_eq (reads : relation.Reads source choice) (found : source.read db outer = .ok stored) :
    relation.query.run db outer false = (do
      let joined ← relation.query.joined db outer
      let kept ← filterRows outer relation.filter joined.rows
      let sorted ← sortRows outer relation.order kept
      return ⟨choice.header stored.columns,
        ← (cutTo relation.limit sorted).mapM choice.pickRow⟩) := by
  have filter : relation.query.filter = relation.filter := rfl
  rw [Query.run_eq]
  cases read : relation.query.joined db outer with
  | error e => rfl
  | ok joined =>
      obtain ⟨⟨others, shapes⟩, first⟩ := reads.joined_source found read
      simp only [ok_bind, Bool.false_eq_true, if_false, filter]
      cases filtered : filterRows outer relation.filter joined.rows with
      | error e => rfl
      | ok kept =>
          rw [ok_bind, ok_bind, shapes]
          refine reads.finish rfl fun row member => ?_
          obtain ⟨values, _, rest, same⟩ := first row (mem_of_mem_filterRows filtered row member)
          exact ⟨values, rest, same⟩

theorem run_header (reads : relation.Reads source choice)
    (found : source.read db outer = .ok stored) :
    relation.query.run db outer true = (do
      let _ ← relation.query.joined db outer
      return ⟨choice.header stored.columns, []⟩) := by
  rw [Query.run_eq]
  cases read : relation.query.joined db outer with
  | error e => rfl
  | ok joined =>
      obtain ⟨⟨others, shapes⟩, _⟩ := reads.joined_source found read
      simp only [ok_bind, if_true, shapes]
      rw [reads.finish rfl fun _ member => absurd member List.not_mem_nil, sortRows_empty,
        ok_bind, cutTo_nil]
      rfl

theorem columns_eq (reads : relation.Reads source choice)
    (found : source.read db outer = .ok stored) {headerOnly : Bool} {answer : Rowset}
    (done : relation.query.run db outer headerOnly = .ok answer) :
    answer.columns = choice.header stored.columns := by
  cases headerOnly with
  | true =>
      rw [reads.run_header found] at done
      obtain ⟨_, _, done⟩ := bind_eq_ok.mp done
      cases done
      rfl
  | false =>
      rw [reads.run_eq found] at done
      obtain ⟨_, _, done⟩ := bind_eq_ok.mp done
      obtain ⟨_, _, done⟩ := bind_eq_ok.mp done
      obtain ⟨_, _, done⟩ := bind_eq_ok.mp done
      obtain ⟨_, _, done⟩ := bind_eq_ok.mp done
      cases done
      rfl

/-- Every row of an answer is picked from a row of the source. -/
theorem picked_of_mem (reads : relation.Reads source choice)
    (found : source.read db outer = .ok stored) {answer : Rowset}
    (done : relation.query.run db outer false = .ok answer) :
    ∀ row ∈ answer.rows, ∃ values ∈ stored.rows,
      choice.pick ⟨⟨relation.table.qualifier, stored.columns⟩, values⟩ = .ok row := by
  rw [reads.run_eq found] at done
  obtain ⟨joined, read, done⟩ := bind_eq_ok.mp done
  obtain ⟨kept, filtered, done⟩ := bind_eq_ok.mp done
  obtain ⟨sorted, ordered, done⟩ := bind_eq_ok.mp done
  obtain ⟨rows, computed, done⟩ := bind_eq_ok.mp done
  cases done
  intro row member
  obtain ⟨frame, cut, picked⟩ := exists_of_mem_mapM computed row member
  have present : frame ∈ joined.rows :=
    mem_of_mem_filterRows filtered frame ((sortRows_perm ordered).mem_iff.mp (mem_of_mem_cutTo cut))
  obtain ⟨values, inside, rest, rfl⟩ := (reads.joined_source found read).2 frame present
  exact ⟨values, inside, picked⟩

theorem cutTo_rows (reads : relation.Reads source choice) (found : source.read db outer = .ok stored)
    {answer : Rowset} (done : relation.query.run db outer false = .ok answer) :
    cutTo relation.limit answer.rows = answer.rows := by
  rw [reads.run_eq found] at done
  obtain ⟨joined, _, done⟩ := bind_eq_ok.mp done
  obtain ⟨kept, _, done⟩ := bind_eq_ok.mp done
  obtain ⟨sorted, _, done⟩ := bind_eq_ok.mp done
  obtain ⟨rows, computed, done⟩ := bind_eq_ok.mp done
  cases done
  exact cutTo_of_length_eq (forall₂_of_mapM computed).length_eq

theorem joined_single (reads : relation.Reads source choice) (single : relation.joins = [])
    (found : source.read db outer = .ok stored) :
    relation.query.joined db outer =
      .ok ⟨[⟨relation.table.qualifier, stored.columns⟩], stored.frames relation.table.qualifier⟩ := by
  have joins : relation.query.joins = [] := single
  rw [Query.joined, reads.origin, found, ok_bind, joins, joinAll, reads.qualifier]
  rfl

theorem run_single (reads : relation.Reads source choice) (single : relation.joins = [])
    (found : source.read db outer = .ok stored) :
    relation.query.run db outer false = (do
      let kept ← filterRows outer relation.filter (stored.frames relation.table.qualifier)
      let sorted ← sortRows outer relation.order kept
      return ⟨choice.header stored.columns,
        ← (cutTo relation.limit sorted).mapM choice.pickRow⟩) := by
  rw [reads.run_eq found, reads.joined_single single found, ok_bind]

end Relation.Reads

theorem Relation.Direct.reads (direct : relation.Direct name) :
    relation.Reads (.table relation.table) relation.model.choice where
  origin := by rw [Relation.query, direct.origin, Option.getD_none]
  qualifier := rfl
  items := by
    rw [Relation.query, direct.items]
    exact relation.defaultItems_eq

theorem Relation.Direct.read (direct : relation.Direct name) (outer : Env)
    (found : db name = some stored) :
    (Source.table relation.table).read db outer = .ok stored := by
  obtain ⟨aliasName, table⟩ := direct.table
  rw [table, Source.read, found]

end Relata
