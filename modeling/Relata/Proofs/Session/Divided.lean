import Relata.Proofs.Record.Loaded
import Relata.Proofs.Relation.Keyed
import Relata.Proofs.Relation.Narrow

/-!
Children of several keys. One query reads the children of all keys; divided by key again, they are what
the query for each single key reads.
-/

namespace Relata

/-- The scope reads the target's table, and the alias cannot be taken for another column: the target
has none of that name, nor has the owner where its own columns stand for the children's. -/
structure Association.Told (association : Association) (owner target : Model) : Prop where
  scope : ∀ step ∈ association.scope, step.KeepsTable
  fresh : association.keys.foreignKeyAlias ∉ target.table.columnNames
  unlike : owner.table.name = lateralName → target.hasIgnored = false →
    association.keys.foreignKeyAlias ∉ owner.table.columnNames

section

variable {association : Association} {owner target : Model}

theorem Association.Told.direct (told : association.Told owner target) :
    (association.children owner target).Direct target.table.name := by
  have all : target.all.Direct target.table.name := ⟨⟨none, rfl⟩, rfl, rfl⟩
  have refined := all.refine told.scope
  rw [Association.children]
  split
  · exact refined.rename _
  · exact refined

theorem Association.Told.fresh_header (told : association.Told owner target) :
    association.keys.foreignKeyAlias ∉ target.choice.header
      (owner.beside owner.table.columnNames (target.choice.header target.table.columnNames)) := by
  have own : association.keys.foreignKeyAlias ∉ target.choice.header target.table.columnNames :=
    fun chosen => told.fresh (Model.mem_header.mp chosen).1
  by_cases same : owner.table.name = lateralName
  · rw [Model.beside, if_pos same]
    unfold Model.choice at own ⊢
    split
    · rename_i ignores
      rw [if_pos ignores] at own
      exact own
    · rename_i none
      exact told.unlike same (by simpa using none)
  · rw [Model.beside, if_neg same, Choice.header_header]
    exact own

theorem Loaded.ofRecords_cutTo (association : Association) (items : List Record) :
    Loaded.ofRecords association.single (cutTo association.limit items) =
      .ofRecords association.single items := by
  rw [Association.limit]
  cases association.single with
  | false => rfl
  | true => cases items <;> rfl

theorem Association.cutTo_eq_nil {α : Type} {items : List α}
    (nothing : cutTo association.limit items = []) : items = [] := by
  rw [Association.limit] at nothing
  cases many : association.single with
  | false =>
      rw [many] at nothing
      exact nothing
  | true =>
      rw [many] at nothing
      cases items with
      | nil => rfl
      | cons item rest => cases nothing

theorem Association.Told.get?_alias (told : association.Told owner target)
    (unused : target.isIgnored association.keys.foreignKeyAlias = false) {answer : Rowset}
    {column : Column} (keyed : answer.KeyedBy association.keys.foreignKeyAlias column)
    (columns : answer.columns = association.keys.foreignKeyAlias ::
      owner.beside owner.table.columnNames (target.choice.header target.table.columnNames))
    {row : List Value} (inside : row ∈ answer.rows) :
    (Record.ofRow target ((target.choice.withFirst association.keys.foreignKeyAlias).header
        answer.columns) ((target.choice.withFirst association.keys.foreignKeyAlias).picked
          answer.columns row)).get? association.keys.foreignKeyAlias = some (row.headD .null) := by
  obtain ⟨key, rest, rfl, _⟩ := keyed.rows row inside
  rw [columns, Choice.header_withFirst]
  obtain ⟨picks, picked⟩ := target.choice.picked_withFirst (owner.beside owner.table.columnNames
    (target.choice.header target.table.columnNames)) association.keys.foreignKeyAlias key rest
  rw [picked]
  exact Record.get?_ofRow_first told.fresh_header unused key

end

/-- Rows divided by their first values are the rows with these first values. -/
theorem filter_contains_filter {rows : List (List Value)} {keys : List Value} {key : Value}
    (inside : key ∈ keys) :
    (rows.filter fun row => keys.contains (row.headD .null)).filter (·.headD .null == key) =
      rows.filter (·.headD .null == key) := by
  rw [List.filter_filter]
  refine List.filter_congr fun row _ => ?_
  cases same : (row.headD .null == key) with
  | false => rfl
  | true =>
      rw [eq_of_beq same, Bool.true_and]
      simpa using inside

namespace Session

variable {schema : Schema} {session : Session} {association : Association} {owner target : Model}
  {rows targetRows : List (List Value)} {column : Column} {keys : List Value}

theorem exists_error_of_fault (serves : session.Serves schema) {relation : Relation} {e : Fault}
    (fails : relation.query.answer session.engine.store.database = .error e) :
    ∃ failure, session.records relation = .error failure := by
  rw [records_eq serves, fails]
  split <;> exact ⟨_, rfl⟩

theorem exists_error_of_poisoned (serves : session.Serves schema) (relation : Relation)
    (poisoned : session.engine.poisoned = true) :
    ∃ failure, session.records relation = .error failure := by
  rw [records_eq serves, if_pos poisoned]
  exact ⟨_, rfl⟩

theorem records_of_answer (serves : session.Serves schema) (alive : session.engine.poisoned = false)
    {relation : Relation} {answer : Rowset}
    (answered : relation.query.answer session.engine.store.database = .ok answer) :
    session.records relation = .ok (answer.rows.map (.ofRow relation.model answer.columns)) := by
  rw [records_eq serves, alive, answered]
  rfl

/-- The children of all keys have these keys, and divided by key they are what each key has. -/
structure Divides (session : Session) (association : Association) (owner target : Model)
    (keys : List Value) (children : List Record) : Prop where
  keyed : ∀ child ∈ children, ∃ key ∈ keys,
    child.get? association.keys.foreignKeyAlias = some key
  each : ∀ key ∈ keys, ∃ own, session.records (association.scopeAt owner target key) = .ok own ∧
    Loaded.ofRecords association.single own = .ofRecords association.single
      (children.filter fun child =>
        (child.get? association.keys.foreignKeyAlias).getD .null == key)

section

variable {header : List String} {stored : List (List Value)}
  {f : List Value → Except Fault (List Value)} {g : List Value → List Value}

/-- Records that are behind their first values are divided as their rows are. -/
theorem filter_records (held : ∀ row ∈ stored, (Record.ofRow target header (g row)).get?
      association.keys.foreignKeyAlias = some (row.headD .null)) {key : Value} (inside : key ∈ keys) :
    ((stored.filter fun row => keys.contains (row.headD .null)).map
      fun row => Record.ofRow target header (g row)).filter (fun child =>
        (child.get? association.keys.foreignKeyAlias).getD .null == key) =
      (stored.filter (·.headD .null == key)).map fun row => Record.ofRow target header (g row) := by
  rw [List.filter_map, ← filter_contains_filter inside]
  congr 1
  refine List.filter_congr fun row asked => ?_
  rw [Function.comp_apply, held row (List.mem_of_mem_filter asked), Option.getD_some]

/-- Where every row that is asked for can be computed. -/
theorem records_computed (serves : session.Serves schema) (alive : session.engine.poisoned = false)
    (one : ∀ key ∈ keys, (association.scopeAt owner target key).query.answer
      session.engine.store.database = (do
        return ⟨header, ← (cutTo association.limit
          (stored.filter (·.headD .null == key))).mapM f⟩))
    (several : (association.scopeIn owner target keys).query.answer
      session.engine.store.database = (do
        return ⟨header, ← (stored.filter fun row => keys.contains (row.headD .null)).mapM f⟩))
    (computed : ∀ row ∈ stored.filter fun row => keys.contains (row.headD .null), f row = .ok (g row))
    (held : ∀ row ∈ stored, (Record.ofRow target header (g row)).get?
      association.keys.foreignKeyAlias = some (row.headD .null)) :
    ∃ children, session.records (association.scopeIn owner target keys) = .ok children ∧
      session.Divides association owner target keys children := by
  rw [mapM_eq_ok_map computed] at several
  refine ⟨_, records_of_answer serves alive several, fun child loaded => ?_, fun key inside => ?_⟩
  · rw [association.scopeIn_model owner target keys] at loaded
    obtain ⟨picks, picked, rfl⟩ := List.mem_map.mp loaded
    obtain ⟨row, asked, rfl⟩ := List.mem_map.mp picked
    rw [List.mem_filter, List.contains_iff_mem] at asked
    exact ⟨_, asked.2, held row asked.1⟩
  · have asked : ∀ row ∈ cutTo association.limit (stored.filter (·.headD .null == key)),
        f row = .ok (g row) := by
      intro row cut
      have behind := List.mem_filter.mp (mem_of_mem_cutTo cut)
      refine computed row (List.mem_filter.mpr ⟨behind.1, ?_⟩)
      rw [eq_of_beq behind.2]
      simpa using inside
    have own := one key inside
    rw [mapM_eq_ok_map asked] at own
    refine ⟨_, records_of_answer serves alive own, ?_⟩
    rw [association.scopeIn_model owner target keys, association.scopeAt_model owner target key]
    simp only [List.map_map, Function.comp_def]
    rw [filter_records held inside, ← cutTo_map, Loaded.ofRecords_cutTo]

/-- Where no row can be computed, but one is asked for. -/
theorem records_fault (serves : session.Serves schema) {e : Fault}
    (one : ∀ key ∈ keys, (association.scopeAt owner target key).query.answer
      session.engine.store.database = (do
        return ⟨header, ← (cutTo association.limit
          (stored.filter (·.headD .null == key))).mapM f⟩))
    (several : (association.scopeIn owner target keys).query.answer
      session.engine.store.database = (do
        return ⟨header, ← (stored.filter fun row => keys.contains (row.headD .null)).mapM f⟩))
    (fails : ∀ row, f row = .error e)
    (asked : (stored.filter fun row => keys.contains (row.headD .null)) ≠ []) :
    (∃ failure, session.records (association.scopeIn owner target keys) = .error failure) ∧
      ∃ key ∈ keys, ∃ failure,
        session.records (association.scopeAt owner target key) = .error failure := by
  rw [mapM_eq_error (fun row _ => fails row) asked] at several
  obtain ⟨row, inside⟩ := List.exists_mem_of_ne_nil _ asked
  rw [List.mem_filter, List.contains_iff_mem] at inside
  refine ⟨exists_error_of_fault serves several, _, inside.2, ?_⟩
  have own := one _ inside.2
  rw [mapM_eq_error (fun row _ => fails row)] at own
  · exact exists_error_of_fault serves own
  · intro nothing
    have none := association.cutTo_eq_nil nothing
    exact absurd (List.mem_filter.mpr ⟨inside.1, by simp⟩) (none ▸ List.not_mem_nil)

end

/-- The children of several keys in one query and in a query for each: either all queries have
answers, and divided by key the one answer is the others, or the one query fails and so does that for
some key. -/
theorem records_scopes (serves : session.Serves schema)
    (owners : session.engine.store.database owner.table.name =
      some ⟨owner.table.columnNames, rows⟩)
    (typed : ∀ row ∈ rows, List.Forall₂ Column.Takes owner.table.columns row)
    (targets : session.engine.store.database target.table.name =
      some ⟨target.table.columnNames, targetRows⟩)
    (declared : owner.table.column? association.keys.primaryKey = some column)
    (present : association.keys.primaryKey ∈ owner.table.columnNames)
    (told : association.Told owner target)
    (unused : target.isIgnored association.keys.foreignKeyAlias = false)
    (nonnull : .null ∉ keys) (takes : ∀ key ∈ keys, column.Takes key) (nonempty : keys ≠ []) :
    (∃ children, session.records (association.scopeIn owner target keys) = .ok children ∧
      session.Divides association owner target keys children) ∨
    (∃ failure, session.records (association.scopeIn owner target keys) = .error failure) ∧
      ∃ key ∈ keys, ∃ failure,
        session.records (association.scopeAt owner target key) = .error failure := by
  have cells : ∀ row ∈ rows, column.Takes
      (cellOf owner.table.columnNames row association.keys.primaryKey) := fun row inside =>
    takes_cell (typed row inside) declared
  obtain ⟨first, some⟩ := List.exists_mem_of_ne_nil keys nonempty
  have model := association.children_model owner target
  cases alive : session.engine.poisoned with
  | true =>
      exact .inr ⟨exists_error_of_poisoned serves _ alive, first, some,
        exists_error_of_poisoned serves _ alive⟩
  | false =>
      cases beside : ((association.children owner target).besideParent owner association.keys
          association.limit).query.run session.engine.store.database [] false with
      | error e =>
          have source : (association.scopeAt owner target first).query.source =
              ((association.children owner target).perParent owner association.keys
                association.limit).query.source := by
            rw [Association.scopeAt, Relation.whereEq]
            split <;> rfl
          exact .inr ⟨exists_error_of_fault serves (Relation.perParent_error beside rfl), first, some,
            exists_error_of_fault serves (Relation.perParent_error beside source)⟩
      | ok answer =>
          obtain ⟨keyed, columns⟩ := Relation.besideParent_keyedBy owners present told.direct targets
            cells beside
          have one := fun key (inside : key ∈ keys) => Relation.perParent_whereEq beside keyed
            (takes key inside) (fun null => nonnull (null ▸ inside)) association.limit
          have several := Relation.perParent_whereIn beside keyed nonnull
          unfold Relation.childHeader Relation.childRow at one several
          simp only [model] at one several
          rw [model] at columns
          have held := fun row (inside : row ∈ answer.rows) =>
            told.get?_alias unused keyed columns inside
          rcases Choice.pick_uniform (target.choice.withFirst association.keys.foreignKeyAlias)
            answer.columns (association.children owner target).table.name with computed | ⟨e, fails⟩
          · exact .inl (records_computed serves alive one several (fun row _ => computed row) held)
          · by_cases unasked : (answer.rows.filter fun row => keys.contains (row.headD .null)) = []
            · refine .inl (records_computed serves alive one several (fun row asked => ?_) held)
              rw [unasked] at asked
              cases asked
            · exact .inr (records_fault serves one several fails unasked)

end Session

end Relata
