import Relata.Proofs.Query.Missing

/-!
Columns that no evaluation meets. A query that does not meet a column is the query with a constant for it, so the
statement is refused for a missing column exactly where its rows make some evaluation look it up.
-/

namespace Relata

variable {db : Database} {outer env : Env} {query inner : Query} {headerOnly : Bool} {qualifier column : String}
  {v : Value} {names : List String} {rows : List Frame}

/-- The item with a constant for the column, under the name that it had. -/
def SelectItem.fill (qualifier column : String) (v : Value) : SelectItem → SelectItem
  | .expr (.column c) => if c.Is qualifier column then .aliased (.const v) column else .expr (.column c)
  | .expr e => .expr (e.fill qualifier column v)
  | .aliased e aliasName => .aliased (e.fill qualifier column v) aliasName
  | .wildcard ref => .wildcard ref

def OrderTerm.fill (qualifier column : String) (v : Value) (term : OrderTerm) : OrderTerm :=
  { term with expr := term.expr.fill qualifier column v }

/-- The joins to sources that are read under these names, with a constant for the column in the conditions that
have its source in reach. -/
def fillJoins (qualifier column : String) (v : Value) (names : List String) : List Join → List Join
  | [] => []
  | join :: rest =>
    (if qualifier ∈ names ++ [join.source.qualifier] then
      { join with condition := join.condition.fill qualifier column v } else join) ::
    fillJoins qualifier column v (names ++ [join.source.qualifier]) rest

/-- The query with a constant for a column of one of its sources. -/
def Query.fill (qualifier column : String) (v : Value) (query : Query) : Query where
  items := query.items.map (SelectItem.fill qualifier column v)
  source := query.source
  joins := fillJoins qualifier column v [query.source.qualifier] query.joins
  filter := query.filter.map (Expr.fill qualifier column v)
  order := query.order.map (OrderTerm.fill qualifier column v)
  limit := query.limit

theorem SelectItem.header_fill (shapes : List Shape) (item : SelectItem) :
    (item.fill qualifier column v).header shapes = item.header shapes := by
  cases item with
  | expr e =>
      cases e with
      | column c =>
          rw [fill]
          split
          · rename_i named
            rw [header, header, named.2]
          · rfl
      | and | or | compare | grouping | inList | isNull | not | const => rfl
  | aliased e aliasName => rfl
  | wildcard ref => rfl

theorem SelectItem.values_fill {row : Frame} {item : SelectItem}
    (unmet : ¬ item.Meets (row :: outer) qualifier column) :
    (item.fill qualifier column v).values row outer = item.values row outer := by
  cases item with
  | expr e =>
      cases e with
      | column c => rw [fill, if_neg fun named => unmet (.column named)]
      | and | or | compare | grouping | inList | isNull | not | const =>
          rw [fill, values, values, Expr.eval_fill unmet]
          intro c same
          cases same
  | aliased e aliasName => rw [fill, values, values, Expr.eval_fill unmet]
  | wildcard ref => rfl

theorem keepRows_fill {condition : Expr}
    (unmet : ∀ row ∈ rows, ¬ condition.Meets (row :: outer) qualifier column) :
    keepRows outer (condition.fill qualifier column v) rows = keepRows outer condition rows :=
  keepRows_congr fun row member => by rw [Expr.keeps, Expr.keeps, Expr.eval_fill (unmet row member)]

/-- The order of keys depends on the directions of the terms alone. -/
theorem sortOrder_fill (terms : List OrderTerm) (as bs : List Value) :
    sortOrder (terms.map (OrderTerm.fill qualifier column v)) as bs = sortOrder terms as bs := by
  induction terms generalizing as bs with
  | nil => rfl
  | cons term rest ih =>
      cases as with
      | nil => rfl
      | cons a as =>
          cases bs with
          | nil => rfl
          | cons b bs =>
              rw [List.map_cons, sortOrder, sortOrder, ih]
              rfl

theorem sortRows_fill {terms : List OrderTerm}
    (unmet : ∀ row ∈ rows, ∀ term ∈ terms, ¬ term.expr.Meets (row :: outer) qualifier column) :
    sortRows outer (terms.map (OrderTerm.fill qualifier column v)) rows = sortRows outer terms rows := by
  have keys : ∀ row ∈ rows, sortKeys (row :: outer) (terms.map (OrderTerm.fill qualifier column v)) =
      sortKeys (row :: outer) terms := by
    intro row member
    rw [sortKeys, sortKeys, List.mapM_map]
    exact mapM_congr fun term inside => Expr.eval_fill (unmet row member term inside) v
  simp only [sortRows, sortOrder_fill]
  rw [mapM_congr fun row member => by rw [keys row member]]

theorem project_fill {items : List SelectItem} {shapes : List Shape}
    (unmet : ∀ row ∈ rows, ∀ item ∈ items, ¬ item.Meets (row :: outer) qualifier column) :
    project outer (items.map (SelectItem.fill qualifier column v)) ⟨shapes, rows⟩ =
      project outer items ⟨shapes, rows⟩ := by
  have headers : (items.map (SelectItem.fill qualifier column v)).mapM (SelectItem.header shapes) =
      items.mapM (SelectItem.header shapes) := by
    rw [List.mapM_map]
    exact mapM_congr fun item _ => SelectItem.header_fill shapes item
  have values : (rows.mapM fun row => do
      return (← (items.map (SelectItem.fill qualifier column v)).mapM (SelectItem.values row outer)).flatten) =
      rows.mapM fun row => do return (← items.mapM (SelectItem.values row outer)).flatten := by
    refine mapM_congr fun row member => ?_
    rw [List.mapM_map]
    exact congrArg (· >>= _) (mapM_congr fun item inside => SelectItem.values_fill (unmet row member item inside))
  rw [project, project, headers, values]

theorem extendRow_fill {kind : JoinKind} {condition : Expr} {shape : Shape} {row : Frame}
    {candidates : List (List Value)}
    (unmet : ∀ values ∈ candidates,
      ¬ condition.Meets ((row ++ [⟨shape, values⟩]) :: outer) qualifier column) :
    extendRow outer kind (condition.fill qualifier column v) shape row candidates =
      extendRow outer kind condition shape row candidates := by
  rw [extendRow, keepRows_fill fun longer member => ?_]
  · rfl
  · obtain ⟨values, stored, rfl⟩ := List.mem_map.mp member
    exact unmet values stored

/-- A join to a source whose condition does not meet the column. -/
theorem joinAll_fill_one {join : Join} {joined : Joined}
    (unmet : ∀ row ∈ joined.rows, ∀ right, join.source.read db (join.around row outer) = .ok right →
      ∀ values ∈ right.rows, ¬ join.condition.Meets
        ((row ++ [⟨⟨join.source.qualifier, right.columns⟩, values⟩]) :: outer) qualifier column) :
    joinAll db outer [{ join with condition := join.condition.fill qualifier column v }] joined =
      joinAll db outer [join] joined := by
  obtain ⟨kind, source, condition⟩ := join
  rw [joinAll, joinAll]
  split
  · rename_i lateral
    have each : ∀ row ∈ joined.rows, (do
        let right ← source.read db (row :: outer)
        return (right.columns, ← extendRow outer kind (condition.fill qualifier column v)
          ⟨source.qualifier, right.columns⟩ row right.rows)) = (do
        let right ← source.read db (row :: outer)
        return (right.columns, ← extendRow outer kind condition ⟨source.qualifier, right.columns⟩ row
          right.rows)) := by
      intro row member
      cases answered : source.read db (row :: outer) with
      | error fault => rfl
      | ok right =>
          have around : Join.around ⟨kind, source, condition⟩ row outer = row :: outer := if_pos lateral
          rw [ok_bind, ok_bind, extendRow_fill (unmet row member right (by rw [around, answered]))]
    exact congrArg (· >>= _) (mapM_congr each)
  · rename_i separate
    cases answered : source.read db outer with
    | error fault => rfl
    | ok right =>
        rw [ok_bind, ok_bind]
        refine congrArg (· >>= _) (mapM_congr fun row member => ?_)
        have around : Join.around ⟨kind, source, condition⟩ row outer = outer := if_neg separate
        exact extendRow_fill (unmet row member right (by rw [around, answered]))

theorem joinAll_fill {joins : List Join} {joined : Joined}
    (unmet : ∀ before join after, joins = before ++ join :: after →
      qualifier ∈ names ++ (before ++ [join]).map (·.source.qualifier) →
      ∀ mid, joinAll db outer before joined = .ok mid → ∀ row ∈ mid.rows, ∀ right,
        join.source.read db (join.around row outer) = .ok right → ∀ values ∈ right.rows,
          ¬ join.condition.Meets ((row ++ [⟨⟨join.source.qualifier, right.columns⟩, values⟩]) :: outer)
            qualifier column) :
    joinAll db outer (fillJoins qualifier column v names joins) joined = joinAll db outer joins joined := by
  induction joins generalizing names joined with
  | nil => rfl
  | cons join rest ih =>
      have first : joinAll db outer [if qualifier ∈ names ++ [join.source.qualifier] then
          { join with condition := join.condition.fill qualifier column v } else join] joined =
          joinAll db outer [join] joined := by
        split
        · rename_i near
          exact joinAll_fill_one (unmet [] join rest rfl (by simpa using near) joined (by rw [joinAll]))
        · rfl
      have apart : ∀ join others, joinAll db outer (join :: others) joined =
          (joinAll db outer [join] joined >>= joinAll db outer others) := fun join others =>
        joinAll_append [join] others joined
      rw [fillJoins, apart, first, apart join rest]
      cases read : joinAll db outer [join] joined with
      | error fault => rfl
      | ok mid =>
          refine ih fun before other after split near later further => ?_
          refine unmet (join :: before) other after (by rw [split]; rfl) (by simpa using near) later ?_
          rw [apart, read, ok_bind, further]

theorem Query.finish_fill {shapes : List Shape} {kept : List Frame}
    (ordering : ∀ row ∈ kept, ∀ term ∈ query.order, ¬ term.expr.Meets (row :: outer) qualifier column)
    (computing : ∀ sorted cut, sortRows outer query.order kept = .ok sorted →
      limitRows outer query.limit sorted = .ok cut →
      ∀ row ∈ cut, ∀ item ∈ query.items, ¬ item.Meets (row :: outer) qualifier column) :
    (do
      let sorted ← sortRows outer (query.fill qualifier column v).order kept
      let cut ← limitRows outer query.limit sorted
      project outer (query.fill qualifier column v).items ⟨shapes, cut⟩) = (do
      let sorted ← sortRows outer query.order kept
      let cut ← limitRows outer query.limit sorted
      project outer query.items ⟨shapes, cut⟩) := by
  rw [fill]
  dsimp only
  rw [sortRows_fill ordering]
  cases ordered : sortRows outer query.order kept with
  | error fault => rfl
  | ok sorted =>
      rw [ok_bind, ok_bind]
      cases limited : limitRows outer query.limit sorted with
      | error fault => rfl
      | ok cut =>
          rw [ok_bind, ok_bind]
          exact project_fill (computing sorted cut ordered limited)

/-- A query that does not meet the column is that with any constant for it. -/
theorem Query.run_fill (unmet : ¬ query.Meets db outer headerOnly qualifier column) (v : Value) :
    (query.fill qualifier column v).run db outer headerOnly = query.run db outer headerOnly := by
  have joined : (query.fill qualifier column v).joined db outer = query.joined db outer := by
    rw [joined, joined, fill]
    dsimp only
    cases read : query.source.read db outer with
    | error fault => rfl
    | ok base =>
        rw [ok_bind, ok_bind]
        refine joinAll_fill fun before join after joins near mid extended row present right answered values
          stored met => unmet (.condition joins near ?_ present answered stored met)
        rw [Query.joined, read, ok_bind, extended]
  have limit : (query.fill qualifier column v).limit = query.limit := rfl
  rw [run_eq, run_eq, joined, limit]
  cases read : query.joined db outer with
  | error fault => rfl
  | ok all =>
      rw [ok_bind, ok_bind]
      cases headerOnly with
      | true =>
          -- Without rows nothing is sorted and nothing computed.
          refine finish_fill (fun row absent => absurd absent List.not_mem_nil)
            fun sorted cut ordered limited row inside => ?_
          have among := (sortRows_perm ordered).mem_iff.mp (mem_of_mem_limitRows limited row inside)
          exact absurd among List.not_mem_nil
      | false =>
          have filters : filterRows outer (query.fill qualifier column v).filter all.rows =
              filterRows outer query.filter all.rows := by
            cases own : query.filter with
            | none => rw [fill, own, Option.map_none]
            | some condition =>
                rw [fill, own, Option.map_some]
                exact keepRows_fill fun row present met => unmet (.filter rfl own read present met)
          rw [if_neg Bool.false_ne_true, if_neg Bool.false_ne_true, filters]
          cases filtered : filterRows outer query.filter all.rows with
          | error fault => rfl
          | ok kept =>
              rw [ok_bind, ok_bind]
              exact finish_fill
                (fun row present term inside met => unmet (.order rfl read filtered present inside met))
                fun sorted cut ordered limited row present item inside met =>
                  unmet (.item rfl read filtered ordered limited present inside met)

/-- Whatever the tables hold and however deep in a statement a query stands that names a column which its source
lacks: the statement is refused if the evaluation of the query meets the column. If it does not, the query answers
as it does with any constant for the column. -/
theorem Engine.refuses_met_columns (operations : List Operation) (query inner : Query) (env : Env)
    (headerOnly : Bool) (qualifier column : String) :
    let engine := Engine.new.after operations
    let db := engine.store.database
    engine.poisoned = false → query.Runs db [] false inner env headerOnly →
      inner.Misses db.columns qualifier column →
      (inner.Meets db env headerOnly qualifier column →
        ∃ message, (engine.exec (.query query)).1 = .error (.error (.invalidStatement message))) ∧
      (¬ inner.Meets db env headerOnly qualifier column → ∀ v,
        (inner.fill qualifier column v).run db env headerOnly = inner.run db env headerOnly) := by
  intro engine db alive runs misses
  refine ⟨fun met => ?_, fun unmet v => Query.run_fill unmet v⟩
  have rectangular : db.Rectangular := (after_sound new_sound operations).rectangular
  obtain ⟨fault, fails⟩ := met.fails rectangular misses
  have usable : ¬ engine.poisoned = true := by
    rw [alive]
    exact Bool.false_ne_true
  cases done : query.answer engine.store.database with
  | ok answer =>
      obtain ⟨_, answered⟩ := runs.answers done
      rw [fails] at answered
      cases answered
  | error fault =>
      refine ⟨fault.message, ?_⟩
      rw [exec, if_neg usable]
      simp only [done]
      rfl

namespace Sample

/-- Notes by a column that they do not have. -/
def misnamed : Query :=
  (note.all.restrict (.compare .eq (note.all.column "owner") (.const (.int 7)))).query

def oneNote : List Operation :=
  [.reset [noteTable], .exec (.insert ⟨.table "notes" none, ["body"], [.const (.text "a")], false⟩)]

/-- Where there is a note, the missing column is refused. -/
theorem refuses_met_columns_note :
    ∃ message, ((Engine.new.after oneNote).exec (.query misnamed)).1 =
      .error (.error (.invalidStatement message)) := by
  have misses : misnamed.Misses (Engine.new.after oneNote).store.database.columns "notes" "owner" :=
    ⟨["id", "owner_code", "body"], [], ⟨"notes", ["id", "owner_code", "body"]⟩, rfl, rfl, rfl, by decide⟩
  have read : misnamed.joined (Engine.new.after oneNote).store.database [] =
      .ok ⟨[⟨"notes", ["id", "owner_code", "body"]⟩],
        [[⟨⟨"notes", ["id", "owner_code", "body"]⟩, [.int 1, .null, .text "a"]⟩]]⟩ := by cbv
  have met : misnamed.Meets (Engine.new.after oneNote).store.database [] false "notes" "owner" :=
    .filter rfl rfl read List.mem_cons_self (.left (.column ⟨rfl, rfl⟩))
  exact (Engine.refuses_met_columns oneNote misnamed misnamed [] false "notes" "owner" rfl (.itself _ _ _)
    misses).1 met

/-- Where there is none, it is not. -/
theorem misnamed_without_notes :
    let engine := Engine.new.after [.reset [noteTable]]
    misnamed.filter.toList.flatMap Expr.columns = [⟨.table "notes" none, "owner"⟩] ∧
      misnamed.Misses engine.store.database.columns "notes" "owner" ∧
      (engine.exec (.query misnamed)).1 = .ok (.rows ⟨["id", "owner_code"], []⟩) := by
  refine ⟨rfl, ?_, by cbv⟩
  exact ⟨["id", "owner_code", "body"], [], ⟨"notes", ["id", "owner_code", "body"]⟩, rfl, rfl, rfl, by decide⟩

end Sample

end Relata
