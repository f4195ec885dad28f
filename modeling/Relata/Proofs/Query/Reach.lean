import Mathlib.Data.List.Permutation
import Relata.Proofs.Query.Headings
import Relata.Proofs.Store.Runs

/-!
Rows in reach of expressions. Wherever a query on stored tables evaluates an expression, in its own stages
or in those of its subqueries, each binding in reach has a value for each of its columns, so a column's
place in the shape is a place in the row.
-/

namespace Relata

/-- Each binding in reach has one value for each of its columns. -/
def Env.Full (env : Env) : Prop := ∀ frame ∈ env, ∀ binding ∈ frame, binding.Full

/-- A query that runs in `outer` evaluates an expression of it, or of a subquery, in `env`. -/
inductive Query.Reaches (db : Database) : Query → Env → Env → Prop
  /-- The limit is evaluated without a row of the query. -/
  | limit (query : Query) (outer : Env) : Reaches db query outer outer
  /-- The filter, the order and the items are evaluated for the rows of all sources. -/
  | row {query : Query} {outer : Env} {joined : Joined} {row : Frame}
    (read : query.joined db outer = .ok joined) (present : row ∈ joined.rows) :
    Reaches db query outer (row :: outer)
  /-- A join's condition is evaluated for a row of the sources before it next to each candidate. -/
  | candidate {query : Query} {outer : Env} {before after : List Join} {join : Join} {joined : Joined}
    {row : Frame} {right : Rowset} {values : List Value}
    (joins : query.joins = before ++ join :: after)
    (read : { query with joins := before }.joined db outer = .ok joined) (present : row ∈ joined.rows)
    (answered : join.source.read db (join.around row outer) = .ok right) (stored : values ∈ right.rows) :
    Reaches db query outer ((row ++ [⟨⟨join.source.qualifier, right.columns⟩, values⟩]) :: outer)
  /-- The subquery that a query reads from runs in the same rows. -/
  | source {query inner : Query} {outer env : Env} {lateral : Bool} {name : String}
    (reads : query.source = .subquery lateral inner name) (inside : Reaches db inner outer env) :
    Reaches db query outer env
  /-- A joined subquery runs for a row to its left, and sees it if it is lateral. -/
  | join {query inner : Query} {outer env : Env} {before after : List Join} {kind : JoinKind}
    {lateral : Bool} {name : String} {condition : Expr} {joined : Joined} {row : Frame}
    (joins : query.joins = before ++ ⟨kind, .subquery lateral inner name, condition⟩ :: after)
    (read : { query with joins := before }.joined db outer = .ok joined) (present : row ∈ joined.rows)
    (inside : Reaches db inner (if lateral then row :: outer else outer) env) :
    Reaches db query outer env
  /-- Without a row to the left a joined subquery runs all the same, a lateral one with no row in reach. -/
  | header {query inner : Query} {outer env : Env} {before after : List Join} {kind : JoinKind}
    {lateral : Bool} {name : String} {condition : Expr}
    (joins : query.joins = before ++ ⟨kind, .subquery lateral inner name, condition⟩ :: after)
    (inside : Reaches db inner (if lateral then [] else outer) env) : Reaches db query outer env

variable {db : Database} {outer env : Env} {query : Query}

/-- In a full binding every column that is found has a value, and no default stands in for it. -/
theorem Binding.Full.value {binding : Binding} (full : binding.Full) {column : String} {v : Value}
    (found : binding.value column = .ok v) :
    ∃ i, binding.shape.columns.idxOf? column = some i ∧ binding.values[i]? = some v := by
  rw [Binding.value] at found
  cases place : binding.shape.columns.idxOf? column with
  | none =>
      rw [place] at found
      cases found
  | some i =>
      rw [place] at found
      cases found
      have inside : i < binding.values.length := by
        have within := (List.idxOf?_eq_some_iff.mp place).1
        rwa [full]
      refine ⟨i, rfl, ?_⟩
      rw [List.getElem?_eq_getElem inside]
      rfl

/-- The sources of a query together have the headings of the sources. -/
theorem Query.joined_shapes {joined : Joined} (rectangular : db.Rectangular)
    (done : query.joined db outer = .ok joined) :
    ∃ columns shapes, query.source.heading db.columns = .ok columns ∧
      shapesOf db.columns query.joins = .ok shapes ∧
      joined.shapes = ⟨query.source.qualifier, columns⟩ :: shapes ∧ joined.Aligned := by
  obtain ⟨base, read, done⟩ := bind_eq_ok.mp done
  obtain ⟨heading, width⟩ := Source.read_heading rectangular query.source read
  obtain ⟨shapes, headings, same, aligned⟩ :=
    joinAll_headings rectangular query.joins done (width.aligned query.source.qualifier)
  exact ⟨_, shapes, heading, headings, same, aligned⟩

theorem Query.joined_aligned {joined : Joined} (rectangular : db.Rectangular)
    (done : query.joined db outer = .ok joined) : joined.Aligned := by
  obtain ⟨_, _, _, _, _, aligned⟩ := Query.joined_shapes rectangular done
  exact aligned

theorem Env.Full.cons (full : outer.Full) {row : Frame} {shapes : List Shape} (fits : row.Fits shapes) :
    Env.Full (row :: outer) := by
  intro frame member
  rcases List.mem_cons.mp member with rfl | outside
  · exact fits.full
  · exact full frame outside

theorem Query.Reaches.full (rectangular : db.Rectangular) (reaches : query.Reaches db outer env)
    (full : outer.Full) : env.Full := by
  induction reaches with
  | limit query outer => exact full
  | row read present => exact full.cons (Query.joined_aligned rectangular read _ present)
  | candidate joins read present answered stored =>
      have width := (Source.read_heading rectangular _ answered).2
      exact full.cons ((Query.joined_aligned rectangular read _ present).append (width _ stored))
  | source reads inside ih => exact ih full
  | @join query inner outer env before after kind lateral name condition joined row joins read present
      inside ih =>
      refine ih ?_
      cases lateral with
      | true => exact full.cons (Query.joined_aligned rectangular read _ present)
      | false => exact full
  | @header query inner outer env before after kind lateral name condition joins inside ih =>
      refine ih ?_
      cases lateral with
      | true => exact fun frame absent => absurd absent List.not_mem_nil
      | false => exact full

theorem Store.Sound.rectangular {store : Store} (sound : store.Sound) : store.database.Rectangular := by
  intro name rowset found row member
  obtain ⟨table, stored, rfl⟩ := Option.map_eq_some_iff.mp found
  rw [StoredTable.rowset, List.length_map]
  exact ((sound.table? stored).rows row member).length_eq.symm

theorem Store.Of.rectangular {store : Store} {tables : List Table} (of : store.Of tables) :
    store.database.Rectangular := by
  intro name rowset found row member
  obtain ⟨stored, known, rfl⟩ := Option.map_eq_some_iff.mp found
  obtain ⟨table, _, same⟩ := of.each stored (List.mem_of_find?_eq_some known)
  rw [StoredTable.rowset, List.length_map, same.columns]
  exact (same.rows row member).length_eq.symm

theorem Store.replace_columns {store : Store} {name : String} {before after : StoredTable}
    (found : store.table? name = some before) (named : after.name = before.name)
    (same : after.columns = before.columns) :
    (store.replace after).database.columns = store.database.columns := by
  funext other
  rw [Database.columns, Database.columns, database, database]
  by_cases here : other = name
  · subst here
    rw [table?_replace_self found named, found, Option.map_some, Option.map_some, StoredTable.rowset, same]
    rfl
  · rw [table?_replace_other found named here]

/-- No statement changes the names of the tables' columns. -/
theorem Engine.exec_columns (engine : Engine) (statement : Statement) :
    (engine.exec statement).2.store.database.columns = engine.store.database.columns := by
  cases statement with
  | query q => rw [exec_query]
  | insert row =>
      rcases engine.exec_insert_cases row with ⟨_, _, same⟩ | ⟨table, found, done⟩
      · rw [same]
      rcases done with ⟨_, next, _, _, refused⟩ | ⟨_, stored, next, _, _, taken⟩
      · rw [refused]
        exact Store.replace_columns found rfl rfl
      · rw [taken]
        exact Store.replace_columns found rfl rfl

namespace Engine

/-- Answers of an engine have one value for each of their names in every row, whatever the query and the
rows around it. All rows that the sources have together bind their shapes, and every expression is
evaluated where each binding in reach has a value for each of its columns. The names depend on nothing but
the names of the tables' columns. -/
theorem answers_rectangular (operations : List Operation) :
    let db := (Engine.new.after operations).store.database
    (∀ (query : Query) outer headerOnly answer, query.run db outer headerOnly = .ok answer →
      ∀ row ∈ answer.rows, row.length = answer.columns.length) ∧
    (∀ (query : Query) outer joined, query.joined db outer = .ok joined →
      ∀ row ∈ joined.rows, row.map Binding.shape = joined.shapes) ∧
    (∀ (query : Query) env, query.Reaches db [] env →
      ∀ frame ∈ env, ∀ binding ∈ frame, binding.values.length = binding.shape.columns.length) ∧
    ∀ operations', (Engine.new.after operations').store.database.columns = db.columns →
      ∀ (query : Query) outer outer' answer answer', query.run db outer false = .ok answer →
        query.run (Engine.new.after operations').store.database outer' false = .ok answer' →
        answer'.columns = answer.columns := by
  intro db
  have rectangular : ∀ operations, (Engine.new.after operations).store.database.Rectangular :=
    fun operations => (after_sound new_sound operations).rectangular
  refine ⟨fun query outer headerOnly answer done => ?_, fun query outer joined done row member => ?_,
    fun query env reaches => ?_, fun operations' same query outer outer' answer answer' done done' => ?_⟩
  · exact (query.run_heading (rectangular operations) done).2
  · exact (Query.joined_aligned (rectangular operations) done row member).shapes
  · exact reaches.full (rectangular operations) fun frame absent => absurd absent List.not_mem_nil
  · have heading := (query.run_heading (rectangular operations) done).1
    have heading' := (query.run_heading (rectangular operations') done').1
    rw [same, heading] at heading'
    exact (Except.ok.inj heading').symm

end Engine

namespace Sample

/-- The tasks after the one at hand. -/
def behind : Query :=
  let second := TableRef.table "tasks" (some "second")
  { items := [.wildcard second]
    source := .table second
    joins := []
    filter := some (.compare .gt (.column ⟨second, "id"⟩) (.column ⟨.table "tasks" none, "id"⟩))
    order := []
    limit := none }

/-- Every task next to those after it, or next to nulls. -/
def followed : Query where
  items := [.wildcard (.table "tasks" none), .wildcard (.derived "later")]
  source := .table (.table "tasks" none)
  joins := [⟨.left, .subquery true behind "later", .const (.bool true)⟩]
  filter := none
  order := []
  limit := none

def taskRow (qualifier : String) (id title : Value) : Binding := ⟨⟨qualifier, ["id", "title"]⟩, [id, title]⟩

/-- The first of two tasks has the second behind it, and nothing where it is the only one. -/
theorem answers_rectangular_tasks :
    let one : List Operation := [.reset [taskTable], .exec (.insert (titled "read"))]
    let two := one ++ [.exec (.insert (titled "write"))]
    let db := (Engine.new.after two).store.database
    let answer : Rowset := ⟨["id", "title", "id", "title"],
      [[.int 1, .text "read", .int 2, .text "write"], [.int 2, .text "write", .null, .null]]⟩
    let joined : Joined := ⟨[⟨"tasks", ["id", "title"]⟩, ⟨"later", ["id", "title"]⟩],
      [[taskRow "tasks" (.int 1) (.text "read"), taskRow "later" (.int 2) (.text "write")],
        [taskRow "tasks" (.int 2) (.text "write"), taskRow "later" .null .null]]⟩
    let env : Env := [[taskRow "second" (.int 2) (.text "write")], [taskRow "tasks" (.int 1) (.text "read")]]
    let alone : Rowset := ⟨["id", "title", "id", "title"], [[.int 1, .text "read", .null, .null]]⟩
    (followed.run db [] false = .ok answer ∧ ∀ row ∈ answer.rows, row.length = answer.columns.length) ∧
      (followed.joined db [] = .ok joined ∧
        ∀ row ∈ joined.rows, row.map Binding.shape = joined.shapes) ∧
      (followed.Reaches db [] env ∧
        ∀ frame ∈ env, ∀ binding ∈ frame, binding.values.length = binding.shape.columns.length) ∧
      followed.run (Engine.new.after one).store.database [] false = .ok alone ∧
        alone.columns = answer.columns := by
  intro one two db answer joined env alone
  obtain ⟨width, shapes, full, header⟩ := Engine.answers_rectangular two
  have done : followed.run db [] false = .ok answer := by cbv
  have sources : followed.joined db [] = .ok joined := by cbv
  have reaches : followed.Reaches db [] env := by
    have before : { followed with joins := [] }.joined db [] = .ok ⟨[⟨"tasks", ["id", "title"]⟩],
        [[taskRow "tasks" (.int 1) (.text "read")], [taskRow "tasks" (.int 2) (.text "write")]]⟩ := by cbv
    have inside : behind.joined db [[taskRow "tasks" (.int 1) (.text "read")]] =
        .ok ⟨[⟨"second", ["id", "title"]⟩],
          [[taskRow "second" (.int 1) (.text "read")], [taskRow "second" (.int 2) (.text "write")]]⟩ := by cbv
    have joins : followed.joins = [] ++ ⟨.left, .subquery true behind "later", .const (.bool true)⟩ :: [] := rfl
    exact .join joins before (.head _) (.row inside (.tail _ (.head _)))
  have doneAlone : followed.run (Engine.new.after one).store.database [] false = .ok alone := by cbv
  have columns : (Engine.new.after one).store.database.columns = db.columns :=
    ((Engine.new.after one).exec_columns (.insert (titled "write"))).symm
  exact ⟨⟨done, width _ _ _ _ done⟩, ⟨sources, shapes _ _ _ sources⟩, ⟨reaches, full _ _ reaches⟩,
    doneAlone, header one columns _ _ _ _ _ done doneAlone⟩

end Sample

end Relata
