import Relata.Proofs.Query.Headings
import Relata.Proofs.Record.Rows
import Relata.Proofs.Relation.PerParent

/-!
Names in records. What a relation loads has the active columns of its model, in the order of the table; behind an
association's alias so have the children.
-/

namespace Relata

variable {db : Database} {outer : Env} {relation : Relation} {model : Model} {columns names : List String}

/-- The record is one of the model and has values for exactly these columns, in this order. -/
structure Record.Names (record : Record) (model : Model) (columns : List String) : Prop where
  model : record.model = model.name
  columns : record.values.map Prod.fst = columns

def Model.activeNames (model : Model) : List String := model.activeColumns.map Column.name

theorem Model.mem_activeNames {name : String} :
    name ∈ model.activeNames ↔ name ∈ model.table.columnNames ∧ model.isIgnored name = false := by
  rw [activeNames, ← Model.header_choice, Model.mem_header]

theorem Model.nodup_activeNames (distinct : model.table.columnNames.Nodup) : model.activeNames.Nodup :=
  distinct.sublist (List.filter_sublist.map Column.name)

theorem Record.names_ofRow {row : List Value} (distinct : columns.Nodup) (width : row.length = columns.length)
    (active : ∀ column ∈ columns, model.isIgnored column = false) :
    (Record.ofRow model columns row).Names model columns := by
  refine ⟨rfl, ?_⟩
  have kept : ((columns.zip row).filter fun entry => !model.isIgnored entry.1) = columns.zip row :=
    List.filter_eq_self.mpr fun entry member => by
      simp [active entry.1 (List.of_mem_zip member).1]
  rw [Record.ofRow_values distinct width, kept, List.map_fst_zip (by omega)]

/-- The relation has the columns of its model: it chooses them by name, or it reads the model's table. -/
def Relation.Rooted (relation : Relation) : Prop :=
  relation.model.hasIgnored = true ∨ relation.Direct relation.model.table.name

/-- The relations have one model, read one source and select the same of it. -/
structure Relation.Akin (relation other : Relation) : Prop where
  model : other.model = relation.model
  table : other.table = relation.table
  origin : other.origin = relation.origin
  items : other.items = relation.items

theorem Relation.Akin.rooted {other : Relation} (akin : relation.Akin other) (rooted : relation.Rooted) :
    other.Rooted := by
  rw [Rooted, akin.model]
  exact rooted.imp_right fun direct =>
    ⟨akin.table ▸ direct.table, akin.origin ▸ direct.origin, akin.items ▸ direct.items⟩

/-- So have the children of all rows of the owner, where no source next to them hides them, and the alias is not
one of these columns. -/
structure Association.Rooted (association : Association) (owner target : Model) : Prop where
  fresh : association.keys.foreignKeyAlias ∉ target.table.columnNames
  children : target.hasIgnored = true ∨ (association.children owner target).Direct target.table.name ∧
    (owner.table.name = lateralName → owner.table.name = target.table.name)

/-- Columns that are computed by name have these names in the answer. -/
theorem Query.columns_of_named {query : Query} {table : TableRef} {headerOnly : Bool} {answer : Rowset}
    (items : query.items = (Choice.named names).items table)
    (done : query.run db outer headerOnly = .ok answer) : answer.columns = names := by
  obtain ⟨joined, cut, _, _, done⟩ := Query.run_cases done
  obtain ⟨headers, named, done⟩ := bind_eq_ok.mp done
  obtain ⟨rows, _, done⟩ := bind_eq_ok.mp done
  cases done
  obtain ⟨others, chosen, flat⟩ := Choice.header_named table names joined.shapes
  rw [items, chosen] at named
  cases named
  exact flat

/-- A rooted relation that selects nothing answers the active columns of its model. -/
theorem Relation.Rooted.answers {stored answer : Rowset} {headerOnly : Bool} (rooted : relation.Rooted)
    (items : relation.items = []) (found : db relation.model.table.name = some stored)
    (same : stored.columns = relation.model.table.columnNames)
    (done : relation.query.run db outer headerOnly = .ok answer) :
    answer.columns = relation.model.activeNames := by
  have chosen : relation.query.items = relation.model.choice.items relation.table := by
    rw [query, items]
    exact relation.defaultItems_eq
  rcases rooted with ignores | direct
  · rw [Model.choice, if_pos ignores] at chosen
    exact Query.columns_of_named chosen done
  · rw [direct.reads.columns_eq (direct.read outer found) done, same, Model.header_choice, Model.activeNames]

/-- The columns next to the key of each row of the owner. -/
theorem Relation.besideParent_columns {child : Relation} {parent : Model} {keys : KeyMapping}
    {limit : Option Nat} {name : String} {base stored answer : Rowset} (direct : child.Direct name)
    (parents : db parent.table.name = some base) (found : db name = some stored)
    (done : (child.besideParent parent keys limit).query.run db [] false = .ok answer) :
    answer.columns =
      keys.foreignKeyAlias :: parent.beside base.columns (child.model.choice.header stored.columns) := by
  obtain ⟨joined, cut, extended, _, done⟩ := Query.run_cases done
  rw [besideParent_joined parents] at extended
  obtain ⟨rights, answered, extended⟩ := bind_eq_ok.mp extended
  obtain ⟨columns, known, extended⟩ := bind_eq_ok.mp extended
  cases extended
  obtain ⟨headers, named, flat⟩ := header_besideParent child parent keys limit base.columns columns
  obtain ⟨headers', named', done⟩ := bind_eq_ok.mp done
  obtain ⟨rows, _, done⟩ := bind_eq_ok.mp done
  cases done
  cases named.symm.trans named'
  rw [flat, columns_of_lateralColumns direct found answered known]

/-- What is left of the children of all rows of an owner has the active columns of the target behind the alias. -/
theorem Association.Rooted.answers {association : Association} {owner target : Model}
    {base stored answer : Rowset} (rooted : association.Rooted owner target)
    (selects : association.Selects owner target relation) (parents : db owner.table.name = some base)
    (found : db target.table.name = some stored) (same : stored.columns = target.table.columnNames)
    (done : relation.query.run db [] false = .ok answer) :
    answer.columns = association.keys.foreignKeyAlias :: target.activeNames := by
  obtain ⟨condition, limit, keyed⟩ := selects
  clear keyed
  have reads := (association.children owner target).perParent_reads owner association.keys association.limit
  generalize (association.children owner target).perParent owner association.keys association.limit = scope
    at reads done
  rw [association.children_model] at reads
  have restricted : ({ scope.restrict condition with limit } : Relation).Reads
      (.subquery false ((association.children owner target).besideParent owner association.keys
        association.limit).query (association.children owner target).table.name)
      (target.choice.withFirst association.keys.foreignKeyAlias) :=
    ⟨reads.origin, reads.qualifier, reads.items⟩
  by_cases ignores : target.hasIgnored = true
  · rw [Model.choice, if_pos ignores] at restricted
    exact Query.columns_of_named restricted.items done
  · obtain ⟨direct, hidden⟩ := rooted.children.resolve_left ignores
    have all : target.choice = .all := if_neg ignores
    have active : target.activeNames = target.table.columnNames := by
      rw [Model.activeNames, ← Model.header_choice, all, Choice.header]
    obtain ⟨joined, _, extended, _⟩ := Query.run_cases done
    obtain ⟨beside, read, _⟩ := bind_eq_ok.mp extended
    have inner : scope.query.source.read db [] = .ok beside := read
    rw [reads.origin] at inner
    rw [restricted.columns_eq inner done, all]
    rw [Source.read] at inner
    rw [Choice.withFirst, Choice.header, Relation.besideParent_columns direct parents found inner,
      association.children_model, all, Choice.header, active, Model.beside, same]
    split
    · rename_i lateral
      rw [hidden lateral, found] at parents
      rw [← Option.some.inj parents, same]
    · rfl

end Relata
