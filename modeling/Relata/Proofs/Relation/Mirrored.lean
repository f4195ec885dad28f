import Relata.Proofs.Relation.Direct

/-!
Rows read under another name. A relation that reads the same table under another name, and whose
conditions and sort keys say the same about each row, answers the same rows.
-/

namespace Relata

/-- The row with every source under the name. -/
def Frame.readAs (qualifier : String) (frame : Frame) : Frame :=
  frame.map fun binding => ⟨⟨qualifier, binding.shape.columns⟩, binding.values⟩

/-- A row of a source that is read under a name. -/
def rowFrame (qualifier : String) (columns : List String) (values : List Value) : Frame :=
  [⟨⟨qualifier, columns⟩, values⟩]

theorem Rowset.frames_readAs (rowset : Rowset) (qualifier name : String) :
    (rowset.frames qualifier).map (Frame.readAs name) = rowset.frames name := by
  rw [Rowset.frames, List.map_map]
  rfl

section Stages

variable {outer other : Env} {rows : List Frame} {view : Frame → Frame}

theorem Expr.keeps_mirrors {env env' : Env} {e e' : Expr}
    (same : Mirrors id (e'.eval env') (e.eval env)) : Mirrors id (e'.keeps env') (e.keeps env) := by
  refine same.bind fun v _ => ?_
  cases v <;> rfl

theorem keepRows_mirrors {condition condition' : Expr}
    (same : ∀ row ∈ rows,
      Mirrors id (condition'.keeps (view row :: other)) (condition.keeps (row :: outer))) :
    Mirrors (List.map view) (keepRows other condition' (rows.map view))
      (keepRows outer condition rows) := by
  induction rows with
  | nil => exact .ok []
  | cons row rest ih =>
      rw [List.map_cons, keepRows, keepRows]
      refine (same row List.mem_cons_self).bind fun kept _ => ?_
      refine (ih fun row member => same row (List.mem_cons_of_mem _ member)).bind fun others _ => ?_
      cases kept with
      | false => exact .ok others
      | true => exact .ok (row :: others)

theorem sortOrder_congr {terms terms' : List OrderTerm}
    (directions : terms'.map OrderTerm.direction = terms.map OrderTerm.direction)
    (a b : List Value) : sortOrder terms' a b = sortOrder terms a b := by
  induction terms generalizing terms' a b with
  | nil => rw [List.map_eq_nil_iff.mp directions]
  | cons term rest ih =>
      cases terms' with
      | nil => cases directions
      | cons term' rest' =>
          obtain ⟨first, others⟩ := List.cons.inj directions
          cases a with
          | nil => rfl
          | cons v as =>
              cases b with
              | nil => rfl
              | cons w bs => rw [sortOrder, sortOrder, first, ih others]

theorem sortRows_mirrors {terms terms' : List OrderTerm}
    (directions : terms'.map OrderTerm.direction = terms.map OrderTerm.direction)
    (same : ∀ row ∈ rows,
      Mirrors id (sortKeys (view row :: other) terms') (sortKeys (row :: outer) terms)) :
    Mirrors (List.map view) (sortRows other terms' (rows.map view))
      (sortRows outer terms rows) := by
  have keyed : Mirrors (List.map (Prod.map id view))
      ((rows.map view).mapM fun row => do return (← sortKeys (row :: other) terms', row))
      (rows.mapM fun row => do return (← sortKeys (row :: outer) terms, row)) :=
    Mirrors.mapM fun row member => (same row member).bind fun keys _ => .ok (keys, row)
  refine keyed.bind fun pairs _ => ?_
  have sorted : ((pairs.map (Prod.map id view)).mergeSort fun a b =>
      (sortOrder terms' a.1 b.1).isLE).map Prod.snd =
      ((pairs.mergeSort fun a b => (sortOrder terms a.1 b.1).isLE).map Prod.snd).map view := by
    simp only [sortOrder_congr directions]
    rw [← List.map_mergeSort (r := fun a b => (sortOrder terms a.1 b.1).isLE) fun a _ b _ => rfl,
      List.map_map, List.map_map]
    rfl
  rw [sorted]
  exact .ok _

theorem filterRows_eq_keepRows (filter : Option Expr) :
    filterRows outer filter rows = keepRows outer (filter.getD (.const (.bool true))) rows := by
  cases filter with
  | none => exact keepRows_true.symm
  | some condition => rfl

end Stages

theorem Binding.value_mirrors (qualifier name column : String) (columns : List String)
    (values : List Value) :
    Mirrors id (Binding.value ⟨⟨name, columns⟩, values⟩ column)
      (Binding.value ⟨⟨qualifier, columns⟩, values⟩ column) := by
  unfold Binding.value
  cases columns.idxOf? column <;> rfl

theorem Choice.pickRow_mirrors (choice : Choice) (name : String) (row : Frame) :
    Mirrors id (choice.pickRow (Frame.readAs name row)) (choice.pickRow row) := by
  cases row with
  | nil => rfl
  | cons binding rest =>
      cases choice with
      | all => rfl
      | named names =>
          have each : Mirrors (List.map id)
              ((names.map id).mapM (Binding.value ⟨⟨name, binding.shape.columns⟩, binding.values⟩))
              (names.mapM binding.value) :=
            Mirrors.mapM fun column _ => Binding.value_mirrors _ _ column _ _
          rwa [List.map_id, List.map_id_fun] at each

namespace Relation

theorem Direct.run_missing {relation : Relation} {name : String} (direct : relation.Direct name)
    {db : Database} (missing : db name = none) (outer : Env) :
    relation.query.run db outer false = .error (.unknownRelation name) := by
  obtain ⟨aliasName, table⟩ := direct.table
  rw [Query.run_eq, Query.joined, direct.reads.origin, table, Source.read, missing]
  rfl

/-- What the relation asks of a row. -/
def condition (relation : Relation) : Expr := relation.filter.getD (.const (.bool true))

variable {db : Database} {outer other : Env} {relation twin : Relation} {name : String}
  {stored : Rowset}

/-- Two relations on one table answer alike if they ask and sort alike, each in its own environment. -/
theorem Direct.run_mirrors (left : relation.Direct name) (right : twin.Direct name)
    (single : relation.joins = []) (alone : twin.joins = []) (model : twin.model = relation.model)
    (limit : twin.limit = relation.limit)
    (directions : twin.order.map OrderTerm.direction = relation.order.map OrderTerm.direction)
    (found : db name = some stored)
    (asked : ∀ values ∈ stored.rows,
      Mirrors id
        (twin.condition.keeps (rowFrame twin.table.qualifier stored.columns values :: other))
        (relation.condition.keeps
          (rowFrame relation.table.qualifier stored.columns values :: outer)))
    (keyed : ∀ values ∈ stored.rows,
      Mirrors id
        (sortKeys (rowFrame twin.table.qualifier stored.columns values :: other) twin.order)
        (sortKeys (rowFrame relation.table.qualifier stored.columns values :: outer)
          relation.order)) :
    Mirrors id (twin.query.run db other false) (relation.query.run db outer false) := by
  have kept : Mirrors (List.map (Frame.readAs twin.table.qualifier))
      (filterRows other twin.filter (stored.frames twin.table.qualifier))
      (filterRows outer relation.filter (stored.frames relation.table.qualifier)) := by
    rw [filterRows_eq_keepRows, filterRows_eq_keepRows,
      ← stored.frames_readAs relation.table.qualifier]
    refine keepRows_mirrors fun row member => ?_
    obtain ⟨values, inside, rfl⟩ := List.mem_map.mp member
    exact asked values inside
  rw [right.reads.run_single alone (right.read other found),
    left.reads.run_single single (left.read outer found), model, limit]
  refine kept.bind fun rows filtered => ?_
  have sorted : Mirrors (List.map (Frame.readAs twin.table.qualifier))
      (sortRows other twin.order (rows.map (Frame.readAs twin.table.qualifier)))
      (sortRows outer relation.order rows) := by
    refine sortRows_mirrors directions fun row member => ?_
    obtain ⟨values, inside, rfl⟩ :=
      List.mem_map.mp (mem_of_mem_filterRows filtered row member)
    exact keyed values inside
  refine sorted.bind fun rows _ => ?_
  rw [cutTo_map]
  have picked : Mirrors (List.map id)
      (((cutTo relation.limit rows).map (Frame.readAs twin.table.qualifier)).mapM
        relation.model.choice.pickRow)
      ((cutTo relation.limit rows).mapM relation.model.choice.pickRow) :=
    Mirrors.mapM fun row _ => relation.model.choice.pickRow_mirrors twin.table.qualifier row
  rw [List.map_id_fun] at picked
  exact picked.bind fun rows _ => .ok _

end Relation

end Relata
