import Relata.Proofs.Expr.Met
import Relata.Proofs.Query.Reach
import Relata.Proofs.Query.Uncorrelated

/-!
Columns that a query's sources lack. Whether a source has a column is looked at where an expression is evaluated
for a row, so a query is refused for a column that is not there if some evaluation meets it. The rows of a
statement and of its subqueries decide whether one does.
-/

namespace Relata

variable {db : Database} {outer env : Env} {query inner : Query} {headerOnly under : Bool}
  {qualifier column : String}

/-- Of the query's sources the first of that name has no such column. -/
def Query.Misses (tables : String → Option (List String)) (query : Query) (qualifier column : String) : Prop :=
  ∃ columns shapes shape, query.source.heading tables = .ok columns ∧
    shapesOf tables query.joins = .ok shapes ∧
    (⟨query.source.qualifier, columns⟩ :: shapes).find? (·.qualifier == qualifier) = some shape ∧
    column ∉ shape.columns

/-- The names that are in reach of a join's condition. -/
def Query.namesAt (query : Query) (before : List Join) (join : Join) : List String :=
  query.source.qualifier :: (before ++ [join]).map (·.source.qualifier)

/-- The computation of the item looks the column up. -/
def SelectItem.Meets (env : Env) (qualifier column : String) : SelectItem → Prop
  | .expr e | .aliased e _ => e.Meets env qualifier column
  | .wildcard _ => False

/-- The evaluation of one of the query's own expressions looks the column up in one of its sources. -/
inductive Query.Meets (db : Database) (outer : Env) (headerOnly : Bool) (qualifier column : String)
    (query : Query) : Prop
  | condition {before after : List Join} {join : Join} {joined : Joined} {row : Frame} {right : Rowset}
    {values : List Value} (joins : query.joins = before ++ join :: after)
    (near : qualifier ∈ query.namesAt before join)
    (read : { query with joins := before }.joined db outer = .ok joined) (present : row ∈ joined.rows)
    (answered : join.source.read db (join.around row outer) = .ok right) (stored : values ∈ right.rows)
    (met : join.condition.Meets ((row ++ [⟨⟨join.source.qualifier, right.columns⟩, values⟩]) :: outer)
      qualifier column)
  | filter {joined : Joined} {row : Frame} {condition : Expr} (rows : headerOnly = false)
    (filters : query.filter = some condition) (read : query.joined db outer = .ok joined)
    (present : row ∈ joined.rows) (met : condition.Meets (row :: outer) qualifier column)
  | order {joined : Joined} {kept : List Frame} {row : Frame} {term : OrderTerm} (rows : headerOnly = false)
    (read : query.joined db outer = .ok joined)
    (filtered : filterRows outer query.filter joined.rows = .ok kept) (present : row ∈ kept)
    (inside : term ∈ query.order) (met : term.expr.Meets (row :: outer) qualifier column)
  | item {joined : Joined} {kept sorted cut : List Frame} {row : Frame} {item : SelectItem}
    (rows : headerOnly = false) (read : query.joined db outer = .ok joined)
    (filtered : filterRows outer query.filter joined.rows = .ok kept)
    (ordered : sortRows outer query.order kept = .ok sorted)
    (limited : limitRows outer query.limit sorted = .ok cut) (present : row ∈ cut)
    (inside : item ∈ query.items) (met : item.Meets (row :: outer) qualifier column)

/-- A query that runs in `outer` runs a subquery in `env`, possibly for its header alone. -/
inductive Query.Runs (db : Database) : Query → Env → Bool → Query → Env → Bool → Prop
  | itself (query : Query) (outer : Env) (headerOnly : Bool) :
    Runs db query outer headerOnly query outer headerOnly
  | source {query between inner : Query} {outer env : Env} {headerOnly under lateral : Bool} {name : String}
    (reads : query.source = .subquery lateral between name)
    (inside : Runs db between outer false inner env under) : Runs db query outer headerOnly inner env under
  | join {query between inner : Query} {outer env : Env} {headerOnly under lateral : Bool}
    {before after : List Join} {kind : JoinKind} {name : String} {condition : Expr} {joined : Joined} {row : Frame}
    (joins : query.joins = before ++ ⟨kind, .subquery lateral between name, condition⟩ :: after)
    (read : { query with joins := before }.joined db outer = .ok joined) (present : row ∈ joined.rows)
    (inside : Runs db between (if lateral then row :: outer else outer) false inner env under) :
    Runs db query outer headerOnly inner env under
  /-- Without a row to the left a joined subquery runs once, a lateral one with no row in reach. -/
  | alone {query between inner : Query} {outer env : Env} {headerOnly under lateral : Bool}
    {before after : List Join} {kind : JoinKind} {name : String} {condition : Expr} {joined : Joined}
    (joins : query.joins = before ++ ⟨kind, .subquery lateral between name, condition⟩ :: after)
    (read : { query with joins := before }.joined db outer = .ok joined) (empty : joined.rows = [])
    (inside : Runs db between (if lateral then [] else outer) lateral inner env under) :
    Runs db query outer headerOnly inner env under

/-- Where the first binding of a name has no such column, the column has no value. -/
theorem Frame.Fits.missing {row : Frame} {shapes : List Shape} {shape : Shape} (fits : row.Fits shapes)
    (found : shapes.find? (·.qualifier == qualifier) = some shape) (absent : column ∉ shape.columns)
    (outer : Env) {c : ColumnRef} (named : c.Is qualifier column) :
    Env.value (row :: outer) c = .error (.unknownColumn qualifier column) := by
  obtain ⟨rfl, rfl⟩ := named
  rw [← fits.shapes, List.find?_map] at found
  obtain ⟨binding, bound, rfl⟩ := Option.map_eq_some_iff.mp found
  have first : row.find? (fun binding => binding.shape.qualifier == c.table.qualifier) = some binding := bound
  have same := List.find?_some first
  rw [Env.value_near first, Binding.value, List.idxOf?_eq_none_iff.mpr absent, beq_iff_eq.mp same]

theorem shapesOf_append {tables : String → Option (List String)} (before rest : List Join) :
    shapesOf tables (before ++ rest) = (do
      let shapes ← shapesOf tables before
      let others ← shapesOf tables rest
      return shapes ++ others) := by
  induction before with
  | nil =>
      rw [List.nil_append, shapesOf, ok_bind]
      cases shapesOf tables rest <;> rfl
  | cons join before ih =>
      obtain ⟨kind, source, condition⟩ := join
      rw [List.cons_append, shapesOf, shapesOf, ih]
      cases source.heading tables with
      | error fault => rfl
      | ok columns =>
          cases shapesOf tables before with
          | error fault => rfl
          | ok shapes => cases shapesOf tables rest <;> rfl

theorem shapesOf_names {tables : String → Option (List String)} {joins : List Join} {shapes : List Shape}
    (headings : shapesOf tables joins = .ok shapes) :
    shapes.map Shape.qualifier = joins.map (·.source.qualifier) := by
  induction joins generalizing shapes with
  | nil =>
      cases headings
      rfl
  | cons join rest ih =>
      obtain ⟨kind, source, condition⟩ := join
      rw [shapesOf] at headings
      obtain ⟨columns, _, headings⟩ := bind_eq_ok.mp headings
      obtain ⟨others, remaining, headings⟩ := bind_eq_ok.mp headings
      cases headings
      rw [List.map_cons, List.map_cons, ih remaining]

theorem Query.Misses.row (misses : query.Misses db.columns qualifier column) (rectangular : db.Rectangular)
    {joined : Joined} {row : Frame} (read : query.joined db outer = .ok joined) (present : row ∈ joined.rows)
    {c : ColumnRef} (named : c.Is qualifier column) :
    Env.value (row :: outer) c = .error (.unknownColumn qualifier column) := by
  obtain ⟨columns, shapes, shape, heading, headings, found, absent⟩ := misses
  obtain ⟨_, _, heading', headings', same, aligned⟩ := Query.joined_shapes rectangular read
  cases heading.symm.trans heading'
  cases headings.symm.trans headings'
  rw [← same] at found
  exact (aligned row present).missing found absent outer named

/-- In a condition the sources so far are in reach, and if one of them has the name, it is the first. -/
theorem Query.Misses.candidate (misses : query.Misses db.columns qualifier column)
    (rectangular : db.Rectangular) {before after : List Join} {join : Join} {joined : Joined} {row : Frame}
    {right : Rowset} {values : List Value} (joins : query.joins = before ++ join :: after)
    (near : qualifier ∈ query.namesAt before join)
    (read : { query with joins := before }.joined db outer = .ok joined) (present : row ∈ joined.rows)
    (answered : join.source.read db (join.around row outer) = .ok right) (stored : values ∈ right.rows)
    {c : ColumnRef} (named : c.Is qualifier column) :
    Env.value ((row ++ [⟨⟨join.source.qualifier, right.columns⟩, values⟩]) :: outer) c =
      .error (.unknownColumn qualifier column) := by
  obtain ⟨columns, shapes, shape, heading, headings, found, absent⟩ := misses
  obtain ⟨_, first, heading', headings', same, aligned⟩ := Query.joined_shapes rectangular read
  cases heading.symm.trans heading'
  obtain ⟨own, width⟩ := Source.read_heading rectangular join.source answered
  let candidate : Binding := ⟨⟨join.source.qualifier, right.columns⟩, values⟩
  have full : candidate.Full := width values stored
  have longer := (aligned row present).append full
  rw [same] at longer
  refine longer.missing ?_ absent outer named
  obtain ⟨kind, source, condition⟩ := join
  rw [joins, shapesOf_append, headings', ok_bind, shapesOf, own, ok_bind] at headings
  obtain ⟨others, tail, headings⟩ := bind_eq_ok.mp headings
  obtain ⟨rest, _, tail⟩ := bind_eq_ok.mp tail
  cases tail
  cases headings
  let reached : List Shape := ⟨query.source.qualifier, columns⟩ :: first ++ [⟨source.qualifier, right.columns⟩]
  have split : ⟨query.source.qualifier, columns⟩ :: (first ++ ⟨source.qualifier, right.columns⟩ :: rest) =
      reached ++ rest := by simp [reached]
  have names : reached.map Shape.qualifier = query.namesAt before ⟨kind, source, condition⟩ := by
    simp [reached, Query.namesAt, shapesOf_names headings']
  rw [← names] at near
  obtain ⟨own, inside, named⟩ := List.mem_map.mp near
  rw [split, List.find?_append] at found
  cases here : reached.find? (·.qualifier == qualifier) with
  | some near =>
      rw [here] at found
      exact found
  | none => exact absurd (beq_iff_eq.mpr named) (List.find?_eq_none.mp here own inside)

/-- A list of rows that is filtered has a truth value for each of them. -/
theorem eval_of_keepRows {condition : Expr} {rows kept : List Frame} {row : Frame}
    (done : keepRows outer condition rows = .ok kept) (present : row ∈ rows) (fault : Fault) :
    condition.eval (row :: outer) ≠ .error fault := by
  intro fails
  obtain ⟨t, truth⟩ := exists_truth_of_keepRows done row present
  rw [Expr.truth_eq_ok, fails] at truth
  cases truth

/-- Every item of an answer is computed for each of the rows. -/
theorem values_of_project {items : List SelectItem} {item : SelectItem} {joined : Joined} {row : Frame}
    {answer : Rowset} (done : project outer items joined = .ok answer) (present : row ∈ joined.rows)
    (inside : item ∈ items) : ∃ values, item.values row outer = .ok values := by
  obtain ⟨_, _, done⟩ := bind_eq_ok.mp done
  obtain ⟨_, rows, _⟩ := bind_eq_ok.mp done
  obtain ⟨_, _, computed⟩ := exists_of_mem_forall₂ (forall₂_of_mapM rows).flip present
  obtain ⟨_, each, _⟩ := bind_eq_ok.mp computed
  obtain ⟨values, _, computed⟩ := exists_of_mem_forall₂ (forall₂_of_mapM each).flip inside
  exact ⟨values, computed⟩

/-- The sources and stages of a query that has an answer. -/
theorem Query.run_stages {answer : Rowset} (done : query.run db outer false = .ok answer) :
    ∃ joined kept sorted cut, query.joined db outer = .ok joined ∧
      filterRows outer query.filter joined.rows = .ok kept ∧
      sortRows outer query.order kept = .ok sorted ∧ limitRows outer query.limit sorted = .ok cut ∧
      project outer query.items ⟨joined.shapes, cut⟩ = .ok answer := by
  rw [Query.run_eq, funext fun _ => if_neg Bool.false_ne_true] at done
  obtain ⟨joined, read, done⟩ := bind_eq_ok.mp done
  obtain ⟨kept, filtered, done⟩ := bind_eq_ok.mp done
  obtain ⟨sorted, ordered, done⟩ := bind_eq_ok.mp done
  obtain ⟨cut, limited, done⟩ := bind_eq_ok.mp done
  exact ⟨joined, kept, sorted, cut, read, filtered, ordered, limited, done⟩

/-- A query that has an answer has read the sources before each join, and extended each of their rows. -/
theorem Query.run_join {answer : Rowset} (done : query.run db outer headerOnly = .ok answer)
    {before after : List Join} {join : Join} (joins : query.joins = before ++ join :: after) {joined : Joined}
    (read : { query with joins := before }.joined db outer = .ok joined) :
    ∃ rest, joinAll db outer (join :: after) joined = .ok rest := by
  obtain ⟨all, _, extended, _⟩ := Query.run_cases done
  obtain ⟨base, source, extended⟩ := bind_eq_ok.mp extended
  rw [Query.joined, source, ok_bind] at read
  rw [joins, joinAll_append, read, ok_bind] at extended
  exact ⟨all, extended⟩

/-- A query that meets a column that its source lacks has no answer. -/
theorem Query.Meets.fails (met : query.Meets db outer headerOnly qualifier column)
    (rectangular : db.Rectangular) (misses : query.Misses db.columns qualifier column) :
    ∃ fault, query.run db outer headerOnly = .error fault := by
  cases done : query.run db outer headerOnly with
  | error fault => exact ⟨fault, rfl⟩
  | ok answer =>
      exfalso
      cases met with
      | @condition before after join joined row right values joins near read present answered stored met =>
          obtain ⟨rest, extended⟩ := Query.run_join done joins read
          obtain ⟨_, groups, _, each, _⟩ := joinAll_cons extended
          obtain ⟨group, _, right', answered', extended⟩ := exists_of_mem_forall₂ each.flip present
          cases answered.symm.trans answered'
          obtain ⟨pairs, kept, _⟩ := bind_eq_ok.mp extended
          exact eval_of_keepRows kept (List.mem_map_of_mem stored) _ (met.eval_eq_error fun c =>
            misses.candidate rectangular joins near read present answered stored)
      | filter rows filters read present met =>
          subst rows
          obtain ⟨joined, kept, _, _, read', filtered, _⟩ := Query.run_stages done
          cases read.symm.trans read'
          rw [filters] at filtered
          exact eval_of_keepRows filtered present _ (met.eval_eq_error fun c => misses.row rectangular read present)
      | @order joined kept row term rows read filtered present inside met =>
          subst rows
          obtain ⟨_, _, _, _, read', filtered', ordered, _⟩ := Query.run_stages done
          cases read.symm.trans read'
          cases filtered.symm.trans filtered'
          obtain ⟨key, keyed, _⟩ := sortRows_keys ordered
          obtain ⟨v, _, evaluated⟩ := exists_of_mem_forall₂ (forall₂_of_mapM (keyed row present)).flip inside
          rw [met.eval_eq_error fun c => misses.row rectangular read
            (mem_of_mem_filterRows filtered row present)] at evaluated
          cases evaluated
      | @item joined kept sorted cut row item rows read filtered ordered limited present inside met =>
          subst rows
          obtain ⟨_, _, _, _, read', filtered', ordered', limited', projected⟩ := Query.run_stages done
          cases read.symm.trans read'
          cases filtered.symm.trans filtered'
          cases ordered.symm.trans ordered'
          cases limited.symm.trans limited'
          obtain ⟨values, computed⟩ := values_of_project projected present inside
          have among : row ∈ joined.rows := mem_of_mem_filterRows filtered row
            ((sortRows_perm ordered).mem_iff.mp (mem_of_mem_limitRows limited row present))
          cases item with
          | expr e | aliased e _ =>
              obtain ⟨v, evaluated, _⟩ := bind_eq_ok.mp computed
              rw [Expr.Meets.eval_eq_error met fun c => misses.row rectangular read among] at evaluated
              cases evaluated
          | wildcard ref => exact met

/-- A query has no answer where a subquery that it runs has none. -/
theorem Query.Runs.answers (runs : query.Runs db outer headerOnly inner env under) {answer : Rowset}
    (done : query.run db outer headerOnly = .ok answer) : ∃ answer, inner.run db env under = .ok answer := by
  induction runs generalizing answer with
  | itself => exact ⟨answer, done⟩
  | source reads _ ih =>
      obtain ⟨_, _, extended, _⟩ := Query.run_cases done
      obtain ⟨base, read, _⟩ := bind_eq_ok.mp extended
      rw [reads, Source.read] at read
      exact ih read
  | @join query between inner outer env headerOnly under lateral before after kind name condition joined row
      joins read present _ ih =>
      obtain ⟨rest, extended⟩ := Query.run_join done joins read
      obtain ⟨_, groups, _, each, _⟩ := joinAll_cons extended
      obtain ⟨group, _, right, answered, _⟩ := exists_of_mem_forall₂ each.flip present
      exact ih answered
  | @alone query between inner outer env headerOnly under lateral before after kind name condition joined
      joins read empty _ ih =>
      obtain ⟨rest, extended⟩ := Query.run_join done joins read
      cases lateral with
      | true =>
          have once : (Source.subquery true between name).isLateral = true := rfl
          rw [joinAll, if_pos once, empty, List.mapM_nil, pure_bind] at extended
          obtain ⟨columns, headed, _⟩ := bind_eq_ok.mp extended
          rw [Source.header] at headed
          obtain ⟨answer, ran, _⟩ := bind_eq_ok.mp headed
          exact ih ran
      | false =>
          have apart : ¬ (Source.subquery false between name).isLateral = true := Bool.false_ne_true
          rw [joinAll, if_neg apart, Source.read] at extended
          obtain ⟨right, answered, _⟩ := bind_eq_ok.mp extended
          exact ih answered

end Relata
