import Relata.Proofs.Query.Cells
import Relata.Proofs.Query.Rows
import Relata.Table

/-!
Sources of queries. Joining further sources only ever extends the rows read so far, so the first
binding of a row is a row of the query's own source.
-/

namespace Relata

variable {db : Database} {outer : Env}

theorem sortRows_perm {terms : List OrderTerm} {rows sorted : List Frame}
    (done : sortRows outer terms rows = .ok sorted) : sorted.Perm rows := by
  obtain ⟨key, _, rfl⟩ := sortRows_keys done
  exact List.mergeSort_perm rows _

theorem mem_of_mem_filterRows {filter : Option Expr} {rows kept : List Frame}
    (done : filterRows outer filter rows = .ok kept) : ∀ row ∈ kept, row ∈ rows := by
  cases filter with
  | none =>
      cases done
      exact fun row member => member
  | some condition => exact fun row member => (keeps_of_mem_keepRows done row member).1

theorem mem_of_mem_cutTo {α : Type} {limit : Option Nat} {items : List α} {a : α}
    (member : a ∈ cutTo limit items) : a ∈ items := by
  cases limit with
  | none => exact member
  | some count => exact List.mem_of_mem_take member

/-- A row is extended by a candidate or by as many nulls. -/
theorem mem_extendRow {kind : JoinKind} {condition : Expr} {shape : Shape} {row longer : Frame}
    {candidates : List (List Value)} {extended : List Frame}
    (done : extendRow outer kind condition shape row candidates = .ok extended)
    (member : longer ∈ extended) :
    ∃ values, longer = row ++ [⟨shape, values⟩] ∧
      (values ∈ candidates ∨ values = shape.columns.map fun _ => .null) := by
  obtain ⟨pairs, kept, done⟩ := bind_eq_ok.mp done
  cases done
  split at member
  · exact ⟨_, List.mem_singleton.mp member, .inr rfl⟩
  · obtain ⟨values, candidate, same⟩ :=
      List.mem_map.mp (keeps_of_mem_keepRows kept longer member).1
    exact ⟨values, same.symm, .inl candidate⟩

/-- A row as it stands when one of its sources was read after the others. -/
theorem extendRow_extends {kind : JoinKind} {condition : Expr} {shape : Shape} {row : Frame}
    {candidates : List (List Value)} {extended : List Frame}
    (done : extendRow outer kind condition shape row candidates = .ok extended) :
    ∀ longer ∈ extended, row <+: longer := by
  intro longer member
  obtain ⟨values, rfl, _⟩ := mem_extendRow done member
  exact List.prefix_append _ _

/-- The rows in reach of a join's source: a lateral source sees the row to its left. -/
def Join.around (join : Join) (row : Frame) (outer : Env) : Env :=
  if join.source.isLateral then row :: outer else outer

/-- What one join does: each row is extended by the rows that its source has for it, and the source has
the columns that it is read with or, where no row is there to read it for, its own. -/
theorem joinAll_cons {join : Join} {rest : List Join} {before after : Joined}
    (done : joinAll db outer (join :: rest) before = .ok after) :
    ∃ columns groups,
      (join.source.header db = .ok columns ∨
        ∃ env right, join.source.read db env = .ok right ∧ right.columns = columns) ∧
      List.Forall₂ (fun row group => ∃ right,
        join.source.read db (join.around row outer) = .ok right ∧
        extendRow outer join.kind join.condition ⟨join.source.qualifier, right.columns⟩ row
          right.rows = .ok group) before.rows groups ∧
      joinAll db outer rest
        ⟨before.shapes ++ [⟨join.source.qualifier, columns⟩], groups.flatten⟩ = .ok after := by
  obtain ⟨kind, source, condition⟩ := join
  obtain ⟨shapes, rows⟩ := before
  rw [joinAll] at done
  split at done
  · rename_i lateral
    obtain ⟨groups, read, done⟩ := bind_eq_ok.mp done
    obtain ⟨columns, known, done⟩ := bind_eq_ok.mp done
    have each := forall₂_of_mapM read
    have around : ∀ row, Join.around ⟨kind, source, condition⟩ row outer = row :: outer :=
      fun _ => if_pos lateral
    refine ⟨columns, groups.map Prod.snd, ?_, ?_, done⟩
    · cases each with
      | nil => exact .inl known
      | cons first _ =>
          obtain ⟨right, answered, first⟩ := bind_eq_ok.mp first
          obtain ⟨group, _, first⟩ := bind_eq_ok.mp first
          cases first
          cases known
          exact .inr ⟨_, right, answered, rfl⟩
    · rw [List.forall₂_map_right_iff]
      refine each.imp fun row group extended => ?_
      obtain ⟨right, answered, extended⟩ := bind_eq_ok.mp extended
      obtain ⟨pairs, joined, extended⟩ := bind_eq_ok.mp extended
      cases extended
      exact ⟨right, by rw [around, answered], joined⟩
  · rename_i separate
    obtain ⟨right, answered, done⟩ := bind_eq_ok.mp done
    obtain ⟨groups, read, done⟩ := bind_eq_ok.mp done
    have around : ∀ row, Join.around ⟨kind, source, condition⟩ row outer = outer :=
      fun _ => if_neg separate
    refine ⟨right.columns, groups, .inr ⟨outer, right, answered, rfl⟩, ?_, done⟩
    refine (forall₂_of_mapM read).imp fun row group joined => ?_
    exact ⟨right, by rw [around, answered], joined⟩

theorem joinAll_extends {joins : List Join} {before after : Joined}
    (done : joinAll db outer joins before = .ok after) :
    before.shapes <+: after.shapes ∧ ∀ longer ∈ after.rows, ∃ row ∈ before.rows, row <+: longer := by
  induction joins generalizing before with
  | nil =>
      rw [joinAll] at done
      cases done
      exact ⟨List.prefix_rfl, fun row member => ⟨row, member, List.prefix_rfl⟩⟩
  | cons join rest ih =>
      obtain ⟨columns, groups, _, each, done⟩ := joinAll_cons done
      obtain ⟨shapes, rows⟩ := ih done
      refine ⟨(List.prefix_append _ _).trans shapes, fun longer member => ?_⟩
      obtain ⟨between, grouped, extended⟩ := rows longer member
      obtain ⟨group, present, inside⟩ := List.mem_flatten.mp grouped
      obtain ⟨row, left, right, _, joined⟩ := exists_of_mem_forall₂ each present
      exact ⟨row, left, (extendRow_extends joined between inside).trans extended⟩

theorem Query.run_eq (query : Query) (headerOnly : Bool) :
    query.run db outer headerOnly = (do
      let joined ← query.joined db outer
      let kept ← if headerOnly then .ok [] else filterRows outer query.filter joined.rows
      let sorted ← sortRows outer query.order kept
      let cut ← limitRows outer query.limit sorted
      project outer query.items ⟨joined.shapes, cut⟩) := by
  obtain ⟨items, source, joins, filter, order, limit⟩ := query
  rw [Query.run, Query.joined]
  cases source.read db outer with
  | error e => rfl
  | ok base => cases headerOnly <;> rfl

/-- What a query answers for all of its rows, row by row: it answers the same for some of them. -/
theorem exists_project {items : List SelectItem} {shapes : List Shape} {rows : List Frame}
    {whole : Rowset} (all : project outer items ⟨shapes, rows⟩ = .ok whole) :
    ∃ values : Frame → List Value, whole.rows = rows.map values ∧
      ∀ cut : List Frame, (∀ row ∈ cut, row ∈ rows) →
        project outer items ⟨shapes, cut⟩ = .ok ⟨whole.columns, cut.map values⟩ := by
  obtain ⟨names, named, all⟩ := bind_eq_ok.mp all
  obtain ⟨answers, computed, all⟩ := bind_eq_ok.mp all
  cases all
  obtain ⟨values, each, rfl⟩ := exists_map_of_mapM computed
  refine ⟨values, rfl, fun cut among => ?_⟩
  have cutEach := fun row member => each row (among row member)
  rw [project, named, ok_bind, mapM_eq_ok_map cutEach]
  rfl

/-- The first binding of a query's rows is a row of its source. -/
theorem Query.joined_source {query : Query} {base : Rowset} {joined : Joined}
    (read : query.source.read db outer = .ok base) (done : query.joined db outer = .ok joined) :
    (∃ others, joined.shapes = ⟨query.source.qualifier, base.columns⟩ :: others) ∧
      ∀ row ∈ joined.rows, ∃ values ∈ base.rows, ∃ rest,
        row = ⟨⟨query.source.qualifier, base.columns⟩, values⟩ :: rest := by
  rw [Query.joined, read] at done
  obtain ⟨shapes, rows⟩ := joinAll_extends done
  obtain ⟨others, started⟩ := shapes
  refine ⟨⟨others, started.symm⟩, fun row member => ?_⟩
  obtain ⟨first, present, rest, rfl⟩ := rows row member
  obtain ⟨values, stored, rfl⟩ := List.mem_map.mp present
  exact ⟨values, stored, rest, rfl⟩

theorem extendRow_all {shape : Shape} {row : Frame} {candidates : List (List Value)} :
    extendRow outer .inner (.const (.bool true)) shape row candidates =
      .ok (candidates.map fun values => row ++ [⟨shape, values⟩]) := by
  rw [extendRow, keepRows_true, ok_bind]
  simp [pure, Except.pure]

/-- The columns of a lateral subquery: those of its first answer, or those that it has where there is
no row to its left. -/
def lateralColumns (db : Database) (query : Query) : List Rowset → Except Fault (List String)
  | right :: _ => .ok right.columns
  | [] => do return (← query.run db [] true).columns

/-- A row next to each of the rows that a lateral subquery has for it. -/
def lateralPairs (name : String) (row : Frame) (right : Rowset) : List Frame :=
  right.rows.map fun values => row ++ [⟨⟨name, right.columns⟩, values⟩]

theorem joinAll_lateral {query : Query} {name : String} {joined : Joined} :
    joinAll db outer [⟨.inner, .subquery true query name, .const (.bool true)⟩] joined = (do
      let rights ← joined.rows.mapM fun row => query.run db (row :: outer) false
      let columns ← lateralColumns db query rights
      return ⟨joined.shapes ++ [⟨name, columns⟩],
        (joined.rows.zip rights).flatMap fun pair => lateralPairs name pair.1 pair.2⟩) := by
  have each : ∀ row : Frame, (do
      let right ← query.run db (row :: outer) false
      let rows ← extendRow outer .inner (.const (.bool true)) ⟨name, right.columns⟩ row right.rows
      return (right.columns, rows)) = (do
        return (fun row (right : Rowset) => (right.columns, lateralPairs name row right)) row
          (← query.run db (row :: outer) false)) := by
    intro row
    cases query.run db (row :: outer) false with
    | error e => rfl
    | ok right =>
        rw [ok_bind, ok_bind, extendRow_all]
        rfl
  obtain ⟨shapes, rows⟩ := joined
  rw [joinAll]
  simp only [Source.isLateral, if_true, Source.read, Source.qualifier, Source.header]
  rw [funext each, mapM_bind_pure (fun row : Frame => query.run db (row :: outer) false)]
  cases answered : rows.mapM fun row => query.run db (row :: outer) false with
  | error e => rfl
  | ok rights =>
      have pairs := forall₂_of_mapM answered
      rw [ok_bind]
      cases pairs with
      | nil =>
          cases empty : query.run db [] true with
          | error e =>
              simp only [lateralColumns, empty, error_bind]
              rfl
          | ok answer => simp [lateralColumns, empty, joinAll]
      | cons first rest =>
          simp only [lateralColumns, ok_bind, pure_bind, List.zip_cons_cons, List.map_cons,
            List.map_map, List.flatMap_def, Function.comp_def, joinAll]
          rfl

end Relata
