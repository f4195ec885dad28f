import Relata.Proofs.Query.Sources

/-!
Headings. The column names of an answer follow from the names that the tables' columns have: from the
items of the query and the headings of its sources, whatever rows there are. Every row of an answer has
one value for each name.
-/

namespace Relata

/-- The column names of the tables, by the tables' names. -/
def Database.columns (db : Database) (name : String) : Option (List String) :=
  (db name).map Rowset.columns

mutual

/-- The column names that a query has where the tables have these. -/
def Query.heading (tables : String → Option (List String)) : Query → Except Fault (List String)
  | ⟨items, source, joins, _, _, _⟩ => do
    let columns ← source.heading tables
    let shapes ← shapesOf tables joins
    return (← items.mapM (SelectItem.header (⟨source.qualifier, columns⟩ :: shapes))).flatten

def Source.heading (tables : String → Option (List String)) : Source → Except Fault (List String)
  | .table (.table name _) =>
    match tables name with
    | some columns => .ok columns
    | none => .error (.unknownRelation name)
  | .table (.derived name) => .error (.unknownRelation name)
  | .subquery _ query _ => query.heading tables

def shapesOf (tables : String → Option (List String)) : List Join → Except Fault (List Shape)
  | [] => .ok []
  | ⟨_, source, _⟩ :: rest => do
    let columns ← source.heading tables
    let shapes ← shapesOf tables rest
    return ⟨source.qualifier, columns⟩ :: shapes

end

/-- Every row has one value for each column. -/
def Rowset.Rectangular (rowset : Rowset) : Prop :=
  ∀ row ∈ rowset.rows, row.length = rowset.columns.length

def Database.Rectangular (db : Database) : Prop :=
  ∀ name rowset, db name = some rowset → rowset.Rectangular

/-- The binding has one value for each column of its shape. -/
def Binding.Full (binding : Binding) : Prop :=
  binding.values.length = binding.shape.columns.length

/-- The row binds these shapes, each of them fully. -/
structure Frame.Fits (row : Frame) (shapes : List Shape) : Prop where
  shapes : row.map Binding.shape = shapes
  full : ∀ binding ∈ row, binding.Full

def Joined.Aligned (joined : Joined) : Prop := ∀ row ∈ joined.rows, row.Fits joined.shapes

variable {db : Database} {outer : Env} {shapes : List Shape} {row : Frame}

theorem Frame.Fits.append {binding : Binding} (fits : row.Fits shapes) (full : binding.Full) :
    Frame.Fits (row ++ [binding]) (shapes ++ [binding.shape]) := by
  refine ⟨by rw [List.map_append, fits.shapes]; rfl, fun other member => ?_⟩
  rcases List.mem_append.mp member with before | last
  · exact fits.full other before
  · exact List.mem_singleton.mp last ▸ full

theorem Shape.nulls_full (shape : Shape) : shape.nulls.Full := List.length_map _

theorem mem_of_mem_limitRows {limit : Option Expr} {rows cut : List Frame}
    (done : limitRows outer limit rows = .ok cut) : ∀ row ∈ cut, row ∈ rows := by
  cases limit with
  | none =>
      cases done
      exact fun row member => member
  | some e =>
      obtain ⟨count, _, done⟩ := bind_eq_ok.mp done
      cases count with
      | none =>
          cases done
          exact fun row member => member
      | some n =>
          cases done
          exact fun row member => List.mem_of_mem_take member

/-- A query computes its items for rows that its sources have together. -/
theorem Query.run_cases {query : Query} {headerOnly : Bool} {answer : Rowset}
    (done : query.run db outer headerOnly = .ok answer) :
    ∃ joined cut, query.joined db outer = .ok joined ∧ (∀ row ∈ cut, row ∈ joined.rows) ∧
      project outer query.items ⟨joined.shapes, cut⟩ = .ok answer := by
  rw [Query.run_eq] at done
  obtain ⟨joined, extended, done⟩ := bind_eq_ok.mp done
  have stages : ∃ kept, (∀ row ∈ kept, row ∈ joined.rows) ∧ (do
      let sorted ← sortRows outer query.order kept
      let cut ← limitRows outer query.limit sorted
      project outer query.items ⟨joined.shapes, cut⟩) = .ok answer := by
    cases headerOnly with
    | true => exact ⟨[], by simp, done⟩
    | false =>
        obtain ⟨kept, filtered, done⟩ := bind_eq_ok.mp done
        exact ⟨kept, mem_of_mem_filterRows filtered, done⟩
  obtain ⟨kept, among, done⟩ := stages
  obtain ⟨sorted, ordered, done⟩ := bind_eq_ok.mp done
  obtain ⟨cut, limited, done⟩ := bind_eq_ok.mp done
  exact ⟨joined, cut, extended, fun row member =>
    among row ((sortRows_perm ordered).mem_iff.mp (mem_of_mem_limitRows limited row member)), done⟩

theorem SelectItem.length_values {item : SelectItem} {names : List String} {values : List Value}
    (fits : row.Fits shapes) (named : item.header shapes = .ok names)
    (computed : item.values row outer = .ok values) : values.length = names.length := by
  cases item with
  | expr e =>
      obtain ⟨v, _, computed⟩ := bind_eq_ok.mp computed
      cases computed
      cases e with
      | column => cases named; rfl
      | and | or | compare | grouping | inList | isNull | not | const => cases named; rfl
  | aliased e aliasName =>
      obtain ⟨v, _, computed⟩ := bind_eq_ok.mp computed
      cases computed
      cases named
      rfl
  | wildcard ref =>
      -- The first shape of that name is the shape of the first binding of that name.
      rw [SelectItem.header, ← fits.shapes, List.find?_map] at named
      rw [SelectItem.values, Frame.binding?] at computed
      cases found : row.find? (·.shape.qualifier == ref.qualifier) with
      | none =>
          rw [found] at computed
          cases computed
      | some binding =>
          have same : row.find? ((·.qualifier == ref.qualifier) ∘ Binding.shape) = some binding := found
          rw [found] at computed
          rw [same] at named
          cases computed
          cases named
          exact fits.full binding (List.mem_of_find?_eq_some found)

theorem length_flatten_eq {α β : Type} {lists : List (List α)} {others : List (List β)}
    (same : List.Forall₂ (fun list other => list.length = other.length) lists others) :
    lists.flatten.length = others.flatten.length := by
  induction same with
  | nil => rfl
  | cons first _ ih =>
      rw [List.flatten_cons, List.flatten_cons, List.length_append, List.length_append, first, ih]

theorem project_heading {items : List SelectItem} {joined : Joined} {answer : Rowset}
    (aligned : joined.Aligned) (done : project outer items joined = .ok answer) :
    (do return (← items.mapM (SelectItem.header joined.shapes)).flatten : Except Fault _) =
        .ok answer.columns ∧ answer.Rectangular := by
  obtain ⟨names, named, done⟩ := bind_eq_ok.mp done
  obtain ⟨rows, computed, done⟩ := bind_eq_ok.mp done
  cases done
  refine ⟨by rw [named]; rfl, fun values member => ?_⟩
  obtain ⟨row, present, answered⟩ := exists_of_mem_mapM computed values member
  obtain ⟨parts, each, answered⟩ := bind_eq_ok.mp answered
  cases answered
  have lengths : ∀ item values names, SelectItem.values row outer item = .ok values →
      SelectItem.header joined.shapes item = .ok names → values.length = names.length :=
    fun _ _ _ computed named => SelectItem.length_values (aligned row present) named computed
  exact length_flatten_eq
    (forall₂_of_common lengths (forall₂_of_mapM each) (forall₂_of_mapM named))

theorem extendRow_fits {kind : JoinKind} {condition : Expr} {qualifier : String} {right : Rowset}
    {extended : List Frame} (fits : row.Fits shapes) (rectangular : right.Rectangular)
    (done : extendRow outer kind condition ⟨qualifier, right.columns⟩ row right.rows = .ok extended) :
    ∀ longer ∈ extended, longer.Fits (shapes ++ [⟨qualifier, right.columns⟩]) := by
  intro longer member
  obtain ⟨values, rfl, candidate | rfl⟩ := mem_extendRow done member
  · exact fits.append (rectangular values candidate)
  · exact fits.append (Shape.nulls_full _)

/-- The rows of a query's own source, as bindings of one shape. -/
theorem Rowset.Rectangular.aligned {rowset : Rowset} (rectangular : rowset.Rectangular)
    (qualifier : String) :
    Joined.Aligned ⟨[⟨qualifier, rowset.columns⟩],
      rowset.rows.map fun values => [⟨⟨qualifier, rowset.columns⟩, values⟩]⟩ := by
  intro row member
  obtain ⟨values, stored, rfl⟩ := List.mem_map.mp member
  exact ⟨rfl, fun binding only => List.mem_singleton.mp only ▸ rectangular values stored⟩

mutual

theorem Query.run_heading (rectangular : db.Rectangular) : ∀ (query : Query) {outer : Env}
    {headerOnly : Bool} {answer : Rowset}, query.run db outer headerOnly = .ok answer →
    query.heading db.columns = .ok answer.columns ∧ answer.Rectangular
  | ⟨items, source, joins, filter, order, limit⟩, outer, headerOnly, answer, done => by
    obtain ⟨joined, cut, extended, among, done⟩ := Query.run_cases done
    rw [Query.joined] at extended
    obtain ⟨base, read, extended⟩ := bind_eq_ok.mp extended
    obtain ⟨columns, width⟩ := Source.read_heading rectangular source read
    obtain ⟨shapes, headings, same, aligned⟩ :=
      joinAll_headings rectangular joins extended (width.aligned source.qualifier)
    have left : Joined.Aligned ⟨joined.shapes, cut⟩ :=
      fun row member => aligned row (among row member)
    obtain ⟨heading, fits⟩ := project_heading left done
    refine ⟨?_, fits⟩
    rw [Query.heading, columns, ok_bind, headings, ok_bind, ← heading, same]
    rfl

theorem Source.read_heading (rectangular : db.Rectangular) : ∀ (source : Source) {env : Env}
    {rowset : Rowset}, source.read db env = .ok rowset →
    source.heading db.columns = .ok rowset.columns ∧ rowset.Rectangular
  | .table (.table name _), env, rowset, done => by
    rw [Source.read] at done
    rw [Source.heading, Database.columns]
    cases found : db name with
    | none =>
        rw [found] at done
        cases done
    | some stored =>
        rw [found] at done
        cases done
        exact ⟨rfl, rectangular name rowset found⟩
  | .table (.derived name), env, rowset, done => by
    rw [Source.read] at done
    cases done
  | .subquery lateral query aliasName, env, rowset, done => by
    rw [Source.read] at done
    rw [Source.heading]
    exact Query.run_heading rectangular query done

theorem Source.header_heading (rectangular : db.Rectangular) : ∀ (source : Source)
    {columns : List String}, source.header db = .ok columns →
    source.heading db.columns = .ok columns
  | .table (.table name _), columns, done => by
    rw [Source.header] at done
    rw [Source.heading, Database.columns]
    cases found : db name with
    | none =>
        rw [found] at done
        cases done
    | some stored =>
        rw [found] at done
        cases done
        rfl
  | .table (.derived name), columns, done => by
    rw [Source.header] at done
    cases done
  | .subquery lateral query aliasName, columns, done => by
    rw [Source.header] at done
    obtain ⟨answer, ran, done⟩ := bind_eq_ok.mp done
    cases done
    rw [Source.heading]
    exact (Query.run_heading rectangular query ran).1

theorem joinAll_headings (rectangular : db.Rectangular) : ∀ (joins : List Join) {outer : Env}
    {before after : Joined}, joinAll db outer joins before = .ok after → before.Aligned →
    ∃ shapes, shapesOf db.columns joins = .ok shapes ∧ after.shapes = before.shapes ++ shapes ∧
      after.Aligned
  | [], outer, before, after, done, aligned => by
    rw [joinAll] at done
    cases done
    exact ⟨[], rfl, (List.append_nil _).symm, aligned⟩
  | ⟨kind, source, condition⟩ :: rest, outer, before, after, done, aligned => by
    obtain ⟨columns, groups, known, each, done⟩ := joinAll_cons done
    have heading : source.heading db.columns = .ok columns := by
      rcases known with header | ⟨env, right, read, rfl⟩
      · exact Source.header_heading rectangular source header
      · exact (Source.read_heading rectangular source read).1
    have longer : Joined.Aligned
        ⟨before.shapes ++ [⟨source.qualifier, columns⟩], groups.flatten⟩ := by
      intro row member
      obtain ⟨group, grouped, inside⟩ := List.mem_flatten.mp member
      obtain ⟨left, present, right, read, extended⟩ := exists_of_mem_forall₂ each grouped
      obtain ⟨same, width⟩ := Source.read_heading rectangular source read
      have shape : right.columns = columns := (Except.ok.inj (heading.symm.trans same)).symm
      subst shape
      exact extendRow_fits (aligned left present) width extended row inside
    obtain ⟨shapes, headings, same, after⟩ := joinAll_headings rectangular rest done longer
    refine ⟨⟨source.qualifier, columns⟩ :: shapes, ?_, ?_, after⟩
    · rw [shapesOf, heading, ok_bind, headings]
      rfl
    · rw [same, List.append_assoc]
      rfl

end

end Relata
