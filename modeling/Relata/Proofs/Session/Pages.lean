import Relata.Proofs.Record.Loaded
import Relata.Session.Batches

/-!
Pages of a walk. A page holds, of the records in the order of their primary keys, the first ones behind
the last key seen.
-/

namespace Relata

def Record.follows (record : Record) (column : String) (key : Value) : Bool :=
  (record.get? column).any fun own => key.order? own == some .lt

/-- Both records have keys, and that of the first is before that of the second. -/
def Record.Before (column : String) (first second : Record) : Prop :=
  ∃ u v, first.get? column = some u ∧ second.get? column = some v ∧ u.order? v = some .lt

namespace Relation

def bare (relation : Relation) : Relation := { relation with order := [], limit := none }

/-- A row of the model's table as the relation reads it. -/
def frame (relation : Relation) (row : List Value) : Frame :=
  [⟨⟨relation.table.qualifier, relation.model.table.columnNames⟩, row⟩]

def keyOf (relation : Relation) (row : List Value) : Value :=
  cellOf relation.model.table.columnNames row relation.model.primaryKey

def keepsRow (relation : Relation) (row : List Value) : Bool :=
  (truthOf [] relation.filter (relation.frame row)).keeps

/-- Whether the key of a row is after the last one seen. -/
def keyAfter (relation : Relation) (last : Option Value) (row : List Value) : Bool :=
  last.all fun key => key.order? (relation.keyOf row) == some .lt

variable {relation : Relation} {db : Database} {rows kept : List (List Value)} {column : Column}
  {row : List Value} {key : Value} {last : Option Value} {size : Nat}

/-- The table's rows have keys of one column, and those that the filter keeps have distinct ones. -/
structure KeysApart (relation : Relation) (rows : List (List Value)) (column : Column) : Prop where
  present : relation.model.primaryKey ∈ relation.model.table.columnNames
  held : ∀ row ∈ rows,
    (relation.model.record row).get? relation.model.primaryKey = some (relation.keyOf row)
  takes : ∀ row ∈ rows, column.Takes (relation.keyOf row)
  nonnull : ∀ row ∈ rows.filter relation.keepsRow, relation.keyOf row ≠ .null
  once : ((rows.filter relation.keepsRow).map relation.keyOf).Nodup

/-- The rows that the filter keeps, in the order of their keys. -/
def sortedRows (relation : Relation) (rows : List (List Value)) : List (List Value) :=
  (rows.filter relation.keepsRow).mergeSort (keyLE relation.keyOf)

theorem mem_of_mem_sortedRows (inside : row ∈ relation.sortedRows rows) : row ∈ rows :=
  List.mem_of_mem_filter ((List.mergeSort_perm _ _).mem_iff.mp inside)

theorem KeysApart.taken (apart : relation.KeysApart rows column) :
    ∀ row ∈ rows.filter relation.keepsRow, column.Takes (relation.keyOf row) := fun row kept =>
  apart.takes row (List.mem_of_mem_filter kept)

theorem KeysApart.sorted (apart : relation.KeysApart rows column) :
    ((relation.sortedRows rows).map relation.model.record).Pairwise
      (Record.Before relation.model.primaryKey) := by
  have order := pairwise_mergeSort_keyLE apart.taken apart.nonnull apart.once
  refine List.pairwise_map.mpr (order.imp_of_mem fun {a b} first second before => ?_)
  exact ⟨_, _, apart.held a (mem_of_mem_sortedRows first),
    apart.held b (mem_of_mem_sortedRows second), before⟩

theorem KeysApart.follows (apart : relation.KeysApart rows column) :
    ((relation.sortedRows rows).map relation.model.record).filter
        (fun record => last.all (record.follows relation.model.primaryKey)) =
      ((relation.sortedRows rows).filter (relation.keyAfter last)).map relation.model.record := by
  rw [List.filter_map]
  congr 1
  refine List.filter_congr fun row inside => ?_
  have held := apart.held row (mem_of_mem_sortedRows inside)
  cases last with
  | none => rfl
  | some key => simp [keyAfter, Record.follows, held]

theorem value_frame (present : relation.model.primaryKey ∈ relation.model.table.columnNames) :
    Env.value [relation.frame row] (relation.table.column relation.model.primaryKey) =
      .ok (relation.keyOf row) := by
  have bound : (relation.frame row).binding? relation.table.qualifier =
      some ⟨⟨relation.table.qualifier, relation.model.table.columnNames⟩, row⟩ := by
    simp [frame, Frame.binding?]
  exact (Env.value_near bound).trans (Binding.value_cell present)

theorem truth_after (present : relation.model.primaryKey ∈ relation.model.table.columnNames)
    (own : column.Takes (relation.keyOf row)) (last : column.Takes key) :
    (Expr.compare .gt (relation.column relation.model.primaryKey) (.const key)).truth
      [relation.frame row] = .ok (((relation.keyOf row).order? key).map Comparison.gt.holds) := by
  rw [Expr.truth_eq_ok, Expr.eval, Relation.column, Expr.eval, value_frame present, ok_bind,
    Expr.eval, ok_bind, own.compare_eq last]
  rfl

theorem sortRows_frames (present : relation.model.primaryKey ∈ relation.model.table.columnNames) :
    sortRows [] [.asc (relation.column relation.model.primaryKey)] (kept.map relation.frame) =
      .ok ((kept.mergeSort (keyLE relation.keyOf)).map relation.frame) := by
  have keys : ∀ frame ∈ kept.map relation.frame,
      sortKeys [frame] [.asc (relation.column relation.model.primaryKey)] =
        .ok [(frame.head?.map fun binding => relation.keyOf binding.values).getD .null] := by
    intro frame member
    obtain ⟨row, _, rfl⟩ := List.mem_map.mp member
    rw [sortKeys, List.mapM_cons]
    change (do
      let value ← Env.value [relation.frame row]
        (relation.table.column relation.model.primaryKey)
      return value :: (← [].mapM _)) = _
    rw [value_frame present]
    rfl
  rw [sortRows_eq_ok _ keys, List.map_mergeSort fun a _ b _ => ?_]
  change keyLE relation.keyOf a b =
    ((Value.sortOrder (some .asc) (relation.keyOf a) (relation.keyOf b)).then .eq).isLE
  rw [keyLE]
  cases Value.sortOrder (some .asc) (relation.keyOf a) (relation.keyOf b) <;> rfl

theorem Direct.run_frames (direct : relation.Direct relation.model.table.name) (single : relation.joins = [])
    (found : db relation.model.table.name = some ⟨relation.model.table.columnNames, rows⟩) :
    relation.query.answer db = (do
      let kept ← filterRows [] relation.filter (rows.map relation.frame)
      let sorted ← sortRows [] relation.order kept
      return ⟨relation.model.choice.header relation.model.table.columnNames,
        ← (cutTo relation.limit sorted).mapM relation.model.choice.pickRow⟩) :=
  direct.reads.run_single single (direct.read [] found)

theorem mapM_pickRow (rows : List (List Value)) :
    (rows.map relation.frame).mapM relation.model.choice.pickRow =
      .ok (rows.map (relation.model.choice.picked relation.model.table.columnNames)) := by
  rw [List.mapM_map]
  exact mapM_eq_ok_map fun row _ => Model.pick_eq

theorem page_filter (present : relation.model.primaryKey ∈ relation.model.table.columnNames)
    (typed : ∀ row ∈ rows, column.Takes (relation.keyOf row))
    (taken : ∀ key ∈ last, column.Takes key)
    (filtered : filterRows [] relation.filter (rows.map relation.frame) =
      .ok ((rows.filter relation.keepsRow).map relation.frame)) :
    filterRows [] (Session.page (Session.byKey relation) last size).filter
        (rows.map relation.frame) =
      .ok (((rows.filter relation.keepsRow).filter (relation.keyAfter last)).map relation.frame) := by
  cases last with
  | none =>
      have all : (rows.filter relation.keepsRow).filter (relation.keyAfter none) =
          rows.filter relation.keepsRow := List.filter_true _
      rw [all]
      exact filtered
  | some key =>
      have decides : ∀ frame ∈ rows.map relation.frame,
          (Expr.compare .gt (relation.column relation.model.primaryKey) (.const key)).truth [frame] =
            .ok (((relation.keyOf (frame.head?.elim [] Binding.values)).order? key).map
              Comparison.gt.holds) := by
        intro frame member
        obtain ⟨row, stored, rfl⟩ := List.mem_map.mp member
        exact truth_after present (typed row stored) (taken key rfl)
      refine (filterRows_addCondition filtered decides).trans ?_
      rw [List.filter_map]
      congr 3
      funext row
      change Truth.keeps (((relation.keyOf row).order? key).map Comparison.gt.holds) =
        (key.order? (relation.keyOf row) == some .lt)
      rw [Value.order?_swap key]
      cases key.order? (relation.keyOf row) with
      | none => rfl
      | some order => cases order <;> rfl

/-- A page has the first rows, in the order of their keys, behind the last key seen. -/
theorem Direct.page_answer (direct : relation.Direct relation.model.table.name)
    (single : relation.joins = [])
    (found : db relation.model.table.name = some ⟨relation.model.table.columnNames, rows⟩)
    (apart : relation.KeysApart rows column) (taken : ∀ key ∈ last, column.Takes key)
    (filtered : filterRows [] relation.filter (rows.map relation.frame) =
      .ok ((rows.filter relation.keepsRow).map relation.frame)) :
    (Session.page (Session.byKey relation) last size).query.answer db =
      .ok ⟨relation.model.choice.header relation.model.table.columnNames,
        (cutTo (some size) ((relation.sortedRows rows).filter (relation.keyAfter last))).map
          (relation.model.choice.picked relation.model.table.columnNames)⟩ := by
  have model : (Session.page (Session.byKey relation) last size).model = relation.model := by
    cases last <;> rfl
  have table : (Session.page (Session.byKey relation) last size).table = relation.table := by
    cases last <;> rfl
  have paged : (Session.page (Session.byKey relation) last size).Direct
      (Session.page (Session.byKey relation) last size).model.table.name := by
    cases last <;> exact ⟨direct.table, direct.origin, direct.items⟩
  have joins : (Session.page (Session.byKey relation) last size).joins = [] := by
    cases last <;> exact single
  have order : (Session.page (Session.byKey relation) last size).order =
      [.asc (relation.column relation.model.primaryKey)] := by cases last <;> rfl
  have limit : (Session.page (Session.byKey relation) last size).limit = some size := by
    cases last <;> rfl
  have frame : (Session.page (Session.byKey relation) last size).frame = relation.frame := by
    funext row
    rw [Relation.frame, Relation.frame, table, model]
  have run := paged.run_frames joins (by rw [model]; exact found)
  rw [run, frame, order, limit, model, page_filter apart.present apart.takes taken filtered,
    ok_bind, sortRows_frames apart.present, ok_bind, cutTo_map, mapM_pickRow,
    mergeSort_filter apart.taken apart.nonnull apart.once]
  rfl

end Relation

namespace Session

variable {schema : Schema} {session : Session} {relation : Relation} {matching : List Record}
  {rows : List (List Value)} {last : Option Value} {size : Nat}

theorem records_bare (serves : session.Serves schema)
    (direct : relation.Direct relation.model.table.name) (single : relation.joins = [])
    (found : session.engine.store.database relation.model.table.name =
      some ⟨relation.model.table.columnNames, rows⟩)
    (matched : session.records relation.bare = .ok matching) :
    session.engine.poisoned = false ∧
      filterRows [] relation.filter (rows.map relation.frame) =
        .ok ((rows.filter relation.keepsRow).map relation.frame) ∧
      matching = (rows.filter relation.keepsRow).map relation.model.record := by
  obtain ⟨alive, answer, answered, rfl⟩ := answer_of_records serves matched
  have bare : relation.bare.Direct relation.model.table.name :=
    ⟨direct.table, direct.origin, direct.items⟩
  have run := bare.run_frames single found
  rw [answered] at run
  obtain ⟨kept, filtered, run⟩ := bind_eq_ok.mp run.symm
  have frames : kept = (rows.filter relation.keepsRow).map relation.frame := by
    rw [filterRows_eq_filter filtered, List.filter_map]
    rfl
  subst frames
  refine ⟨alive, filtered, ?_⟩
  obtain ⟨sorted, ordered, run⟩ := bind_eq_ok.mp run
  have order : relation.bare.order = [] := rfl
  rw [order, sortRows_nil] at ordered
  cases ordered
  obtain ⟨picks, picked, run⟩ := bind_eq_ok.mp run
  have whole : (cutTo relation.bare.limit ((rows.filter relation.keepsRow).map relation.frame)).mapM
      relation.bare.model.choice.pickRow = .ok ((rows.filter relation.keepsRow).map
        (relation.model.choice.picked relation.model.table.columnNames)) :=
    relation.mapM_pickRow _
  rw [whole] at picked
  cases picked
  cases run
  rw [List.map_map]
  rfl

theorem sourceRows_eq (direct : relation.Direct relation.model.table.name)
    (single : relation.joins = [])
    (found : session.engine.store.database relation.model.table.name =
      some ⟨relation.model.table.columnNames, rows⟩) : session.sourceRows relation = rows.length := by
  rw [sourceRows, direct.reads.joined_single single (direct.read [] found)]
  exact List.length_map _

theorem exists_keysApart (sound : schema.Sound) (known : relation.model ∈ schema.models)
    (distinct : relation.model.table.columnNames.Nodup)
    (typed : ∀ row ∈ rows, List.Forall₂ Column.Takes relation.model.table.columns row)
    (matched : matching = (rows.filter relation.keepsRow).map relation.model.record)
    (nonnull : ∀ record ∈ matching, record.get? relation.model.primaryKey ≠ some .null)
    (once : (matching.map (·.get? relation.model.primaryKey)).Nodup) :
    ∃ column, relation.KeysApart rows column := by
  subst matched
  have present : relation.model.primaryKey ∈ relation.model.table.columnNames :=
    Table.hasColumn_iff.mp (sound.keyColumn _ known)
  have held : ∀ row ∈ rows, (relation.model.record row).get? relation.model.primaryKey =
      some (relation.keyOf row) := fun row stored =>
    Model.get?_record_active distinct (typed row stored) present (sound.keyActive _ known)
  obtain ⟨column, declared⟩ := sound.exists_keyColumn known
  refine ⟨column, present, held, fun row stored => takes_cell (typed row stored) declared, ?_, ?_⟩
  · intro row kept null
    refine nonnull _ (List.mem_map_of_mem kept) ?_
    rw [held row (List.mem_of_mem_filter kept), null]
  · have same : (rows.filter relation.keepsRow).map
        (fun row => (relation.model.record row).get? relation.model.primaryKey) =
        ((rows.filter relation.keepsRow).map relation.keyOf).map some := by
      rw [List.map_map]
      exact List.map_congr_left fun row kept => held row (List.mem_of_mem_filter kept)
    rw [List.map_map] at once
    have keys : (((rows.filter relation.keepsRow).map relation.keyOf).map some).Nodup := same ▸ once
    exact keys.of_map _

theorem records_page (serves : session.Serves schema) (alive : session.engine.poisoned = false)
    (direct : relation.Direct relation.model.table.name) (single : relation.joins = [])
    (found : session.engine.store.database relation.model.table.name =
      some ⟨relation.model.table.columnNames, rows⟩) {column : Column}
    (apart : relation.KeysApart rows column) (taken : ∀ key ∈ last, column.Takes key)
    (filtered : filterRows [] relation.filter (rows.map relation.frame) =
      .ok ((rows.filter relation.keepsRow).map relation.frame)) :
    session.records (page (byKey relation) last size) = .ok (cutTo (some size)
      (((relation.sortedRows rows).map relation.model.record).filter
        fun record => last.all (record.follows relation.model.primaryKey))) := by
  have model : (page (byKey relation) last size).model = relation.model := by cases last <;> rfl
  rw [records_eq serves, alive, direct.page_answer single found apart taken filtered, model,
    apart.follows, cutTo_map]
  simp only [List.map_map]
  rfl

/-- The records stand in the order of their primary keys, and every page of a walk has the first of
those behind the last key seen. -/
structure Paged (session : Session) (relation : Relation) (sorted : List Record) : Prop where
  ordered : sorted.Pairwise (Record.Before relation.model.primaryKey)
  keyed : ∀ record ∈ sorted, ∃ key, record.get? relation.model.primaryKey = some key
  pages : ∀ last size,
    (∀ key ∈ last, ∃ record ∈ sorted, record.get? relation.model.primaryKey = some key) →
    session.records (page (byKey relation) last size) = .ok (cutTo (some size)
      (sorted.filter fun record => last.all (record.follows relation.model.primaryKey)))

/-- The matching records of a table can be put in the order that walks have them in. -/
theorem exists_paged (serves : session.Serves schema) (sound : schema.Sound)
    (known : relation.model ∈ schema.models) (direct : relation.Direct relation.model.table.name)
    (single : relation.joins = []) (distinct : relation.model.table.columnNames.Nodup)
    (matched : session.records relation.bare = .ok matching)
    (nonnull : ∀ record ∈ matching, record.get? relation.model.primaryKey ≠ some .null)
    (once : (matching.map (·.get? relation.model.primaryKey)).Nodup) :
    ∃ sorted : List Record, sorted.Perm matching ∧ sorted.length ≤ session.sourceRows relation ∧
      session.Paged relation sorted := by
  obtain ⟨rows, found, typed⟩ := serves.database sound (sound.modelTable _ known)
  obtain ⟨alive, filtered, same⟩ := records_bare serves direct single found matched
  obtain ⟨column, apart⟩ := exists_keysApart sound known distinct typed same nonnull once
  have perm : (relation.sortedRows rows).Perm (rows.filter relation.keepsRow) :=
    List.mergeSort_perm _ _
  refine ⟨(relation.sortedRows rows).map relation.model.record, same ▸ perm.map _, ?_, apart.sorted,
    fun record inside => ?_, fun last size behind => ?_⟩
  · rw [sourceRows_eq direct single found, List.length_map, perm.length_eq]
    exact List.length_filter_le _ _
  · obtain ⟨row, sorted, rfl⟩ := List.mem_map.mp inside
    exact ⟨_, apart.held row (Relation.mem_of_mem_sortedRows sorted)⟩
  · refine records_page serves alive direct single found apart (fun key given => ?_) filtered
    obtain ⟨record, inside, own⟩ := behind key given
    obtain ⟨row, sorted, rfl⟩ := List.mem_map.mp inside
    have stored := Relation.mem_of_mem_sortedRows sorted
    rw [apart.held row stored] at own
    exact Option.some.inj own ▸ apart.takes row stored

end Session

end Relata
