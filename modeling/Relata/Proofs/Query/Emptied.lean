import Relata.Proofs.Query.Reach
import Relata.Proofs.Query.Uncorrelated

/-!
Tables without rows. Where there is no row to its left, a lateral subquery is read for its header with no row in
reach, but for the header its sources are read and joined all the same. So a query on a table that has lost its
rows fails where a subquery behind it needs the row to its left for more than its own rows.
-/

namespace Relata

/-- The tables, one of them without its rows. -/
def Database.without (db : Database) (name : String) : Database := fun table =>
  if table = name then (db table).map fun rowset => ⟨rowset.columns, []⟩ else db table

mutual

/-- Whether a query or a subquery of it reads the table. -/
def Query.reads (name : String) : Query → Bool
  | ⟨_, source, joins, _, _, _⟩ => source.reads name || joinsRead name joins

def Source.reads (name : String) : Source → Bool
  | .table (.table table _) => table == name
  | .table (.derived _) => false
  | .subquery _ query _ => query.reads name

def joinsRead (name : String) : List Join → Bool
  | [] => false
  | ⟨_, source, _⟩ :: rest => source.reads name || joinsRead name rest

end

/-- The columns that a query takes from around it whether or not it has rows of its own. -/
def Query.standing (query : Query) : List ColumnRef :=
  query.source.free ++ freeOf [query.source.qualifier] query.joins ++ columnsOf query.limit.toList

def Source.standing : Source → List ColumnRef
  | .table _ => []
  | .subquery _ query _ => query.standing

mutual

/-- A query and its subqueries have no rows where the table, if they read it, has none: a row without a match in it
does not stay, and behind it no lateral subquery takes a column from around it unless it has rows of its own. -/
def Query.Bears (name : String) : Query → Prop
  | ⟨_, source, joins, _, _, _⟩ => source.Bears name ∧ joinsBear name (source.reads name) joins

def Source.Bears (name : String) : Source → Prop
  | .table _ => True
  | .subquery _ query _ => query.Bears name

/-- So do joins, where the sources before them may have lost their rows. -/
def joinsBear (name : String) (gone : Bool) : List Join → Prop
  | [] => True
  | ⟨kind, source, _⟩ :: rest =>
    source.Bears name ∧
      (if gone then source.isLateral → source.standing = [] else kind = .left → source.reads name = false) ∧
      joinsBear name (gone || source.reads name) rest

end

/-- The shape of a join's source, read where there is no row to its left. -/
def Join.alone (db : Database) (outer : Env) (join : Join) : Except Fault Shape := do
  if join.source.isLateral then
    return ⟨join.source.qualifier, ← join.source.header db⟩
  else
    return ⟨join.source.qualifier, (← join.source.read db outer).columns⟩

variable {db other : Database} {outer env : Env} {query : Query} {name : String} {headerOnly : Bool}

@[simp] theorem Database.columns_without (db : Database) (name : String) :
    (db.without name).columns = db.columns := by
  funext table
  rw [Database.columns, Database.columns, Database.without]
  split
  · cases db table <;> rfl
  · rfl

theorem Database.Rectangular.without (rectangular : db.Rectangular) (name : String) :
    (db.without name).Rectangular := by
  intro table rowset found
  rw [Database.without] at found
  split at found
  · obtain ⟨stored, _, rfl⟩ := Option.map_eq_some_iff.mp found
    exact fun row absent => absurd absent List.not_mem_nil
  · exact rectangular table rowset found

section Empty

theorem limitRows_of_empty {limit : Option Expr} {cut : List Frame} (done : limitRows outer limit [] = .ok cut) :
    cut = [] :=
  List.eq_nil_iff_forall_not_mem.mpr fun row member => List.not_mem_nil (mem_of_mem_limitRows done row member)

/-- Of a query whose sources have no row together, the limit and the names are left. -/
theorem Query.run_of_empty {joined : Joined} (read : query.joined db outer = .ok joined)
    (none : headerOnly = true ∨ joined.rows = []) :
    query.run db outer headerOnly = (do
      let _ ← limitRows outer query.limit []
      return ⟨(← query.items.mapM (SelectItem.header joined.shapes)).flatten, []⟩) := by
  have stages : query.run db outer headerOnly = (do
      let sorted ← sortRows outer query.order []
      let cut ← limitRows outer query.limit sorted
      project outer query.items ⟨joined.shapes, cut⟩) := by
    rw [Query.run_eq, read, ok_bind]
    cases headerOnly with
    | true => rfl
    | false =>
        rw [none.resolve_left Bool.false_ne_true]
        cases query.filter <;> rfl
  rw [stages, sortRows_empty, ok_bind]
  cases limited : limitRows outer query.limit [] with
  | error fault => rfl
  | ok cut =>
      cases limitRows_of_empty limited
      rfl

/-- The limit and the names of a query do not depend on its rows. -/
theorem Query.empty_answer {joined : Joined} {answer : Rowset} (read : query.joined db outer = .ok joined)
    (done : query.run db outer headerOnly = .ok answer) :
    (do
      let _ ← limitRows outer query.limit []
      return ⟨(← query.items.mapM (SelectItem.header joined.shapes)).flatten, []⟩ : Except Fault Rowset) =
      .ok ⟨answer.columns, []⟩ := by
  rw [← Query.run_of_empty read (.inl rfl)]
  cases headerOnly with
  | false => exact Query.run_header done
  | true =>
      rw [Query.run_of_empty read (.inl rfl)] at done ⊢
      obtain ⟨cut, limited, done⟩ := bind_eq_ok.mp done
      obtain ⟨headers, named, done⟩ := bind_eq_ok.mp done
      cases done
      rw [limited, ok_bind, named]
      rfl

theorem joinAll_empty (join : Join) (rest : List Join) (shapes : List Shape) :
    joinAll db outer (join :: rest) ⟨shapes, []⟩ = (do
      let shape ← join.alone db outer
      joinAll db outer rest ⟨shapes ++ [shape], []⟩) := by
  obtain ⟨kind, source, condition⟩ := join
  rw [joinAll, Join.alone]
  dsimp only
  split
  · rw [List.mapM_nil, pure_bind, bind_assoc]
    rfl
  · rw [bind_assoc]
    rfl

/-- Without a row every join reads its source alone. -/
theorem joinAll_alone (joins : List Join) (shapes : List Shape) :
    joinAll db outer joins ⟨shapes, []⟩ = (do
      return ⟨shapes ++ (← joins.mapM (Join.alone db outer)), []⟩) := by
  induction joins generalizing shapes with
  | nil =>
      rw [joinAll, List.mapM_nil, pure_bind, List.append_nil]
      rfl
  | cons join rest ih =>
      rw [joinAll_empty, List.mapM_cons, bind_assoc]
      refine bind_congr fun shape => ?_
      rw [ih, bind_assoc]
      refine bind_congr fun others => ?_
      rw [pure_bind, List.append_assoc]
      rfl

end Empty

/-- The header of a query takes no column from around it but the standing ones. -/
theorem Query.header_refines {other : Env} (offers : Env.Offers query.standing env other) :
    Refines (query.run db env true) (query.run db other true) := by
  have part : ∀ {cs : List ColumnRef}, (∀ c ∈ cs, c ∈ query.standing) → Env.Offers cs env other :=
    fun among => offers.mono among
  intro answer done
  obtain ⟨joined, _, read, _⟩ := Query.run_cases done
  have again : query.joined db other = .ok joined := by
    refine Refines.bind ?_ (fun base => ?_) joined read
    · refine Source.read_refines query.source (part fun c own => ?_)
      exact List.mem_append_left _ (List.mem_append_left _ own)
    · refine joinAll_refines query.joins (names_rows _ base.rows) (part fun c own => ?_)
      exact List.mem_append_left _ (List.mem_append_right _ own)
  rw [Query.run_of_empty read (.inl rfl)] at done
  rw [Query.run_of_empty again (.inl rfl)]
  refine Refines.bind ?_ (fun _ => .refl _) answer done
  exact limitRows_refines (part fun c own => List.mem_append_right _ own)

/-- What a subquery without standing columns answers in a row it has the header of with no row in reach. -/
theorem Source.header_of_read {source : Source} {right : Rowset} (lateral : source.isLateral = true)
    (apart : source.standing = []) (read : source.read db env = .ok right) :
    source.header db = .ok right.columns := by
  cases source with
  | table ref => cases lateral
  | subquery again query aliasName =>
      rw [Source.standing] at apart
      rw [Source.read] at read
      have offers : Env.Offers query.standing env [] := by
        rw [apart]
        exact fun c absent => absurd absent List.not_mem_nil
      rw [Source.header, Query.header_refines offers _ (Query.run_header read)]
      rfl

section Step

variable {join : Join} {shapes : List Shape} {rows : List Frame} {joined mid : Joined} {gone : Bool}

theorem joinAll_one_refines
    (read : ∀ env, Refines (join.source.read db env) (join.source.read other env))
    (header : Refines (join.source.header db) (join.source.header other)) :
    Refines (joinAll db outer [join] joined) (joinAll other outer [join] joined) := by
  obtain ⟨kind, source, condition⟩ := join
  rw [joinAll, joinAll]
  split
  · refine (Refines.mapM fun row _ => (read _).bind fun right => .refl _).bind fun groups => ?_
    refine Refines.bind ?_ fun columns => .refl _
    cases groups with
    | nil => exact header
    | cons group others => exact .refl _
  · exact (read _).bind fun right => .refl _

/-- An inner join with a source that has lost its rows. -/
theorem joinAll_one_lost (inner : join.kind = .inner)
    (read : ∀ env rowset, join.source.read db env = .ok rowset →
      join.source.read other env = .ok ⟨rowset.columns, []⟩)
    (header : Refines (join.source.header db) (join.source.header other))
    (done : joinAll db outer [join] joined = .ok mid) :
    joinAll other outer [join] joined = .ok ⟨mid.shapes, []⟩ := by
  obtain ⟨kind, source, condition⟩ := join
  cases inner
  rw [joinAll] at done ⊢
  split at done
  · rename_i lateral
    obtain ⟨groups, paired, done⟩ := bind_eq_ok.mp done
    obtain ⟨columns, known, done⟩ := bind_eq_ok.mp done
    cases done
    have lost : (joined.rows.mapM fun row => do
        let right ← source.read other (row :: outer)
        return (right.columns, ← extendRow outer .inner condition ⟨source.qualifier, right.columns⟩ row
          right.rows)) = .ok (groups.map fun group => (group.1, [])) := by
      refine mapM_map_of_mapM paired fun row group answered => ?_
      obtain ⟨right, found, answered⟩ := bind_eq_ok.mp answered
      obtain ⟨pairs, _, answered⟩ := bind_eq_ok.mp answered
      cases answered
      rw [read _ _ found]
      rfl
    have nothing : ((groups.map fun group => (group.1, ([] : List Frame))).map Prod.snd).flatten = [] := by
      simp [List.flatten_eq_nil_iff]
    rw [if_pos lateral]
    refine bind_eq_ok.mpr ⟨_, lost, bind_eq_ok.mpr ⟨columns, ?_, ?_⟩⟩
    · cases groups with
      | nil => exact header columns known
      | cons group others => exact known
    · rw [joinAll, nothing]
  · rename_i separate
    obtain ⟨right, found, done⟩ := bind_eq_ok.mp done
    obtain ⟨groups, _, done⟩ := bind_eq_ok.mp done
    cases done
    have lost : (joined.rows.mapM fun row =>
        extendRow outer .inner condition ⟨source.qualifier, right.columns⟩ row []) =
        .ok (joined.rows.map fun _ => []) := mapM_eq_ok_map fun row _ => rfl
    have nothing : (joined.rows.map fun _ => ([] : List Frame)).flatten = [] := by simp
    rw [if_neg separate, read _ _ found]
    refine bind_eq_ok.mpr ⟨_, rfl, bind_eq_ok.mpr ⟨_, lost, ?_⟩⟩
    rw [joinAll, nothing]

/-- A join behind sources that have lost their rows. -/
theorem joinAll_one_empty
    (read : ∀ env rowset, join.source.read db env = .ok rowset →
      ∃ rows, join.source.read other env = .ok ⟨rowset.columns, rows⟩)
    (header : Refines (join.source.header db) (join.source.header other))
    (apart : join.source.isLateral = true → join.source.standing = [])
    (done : joinAll db outer [join] ⟨shapes, rows⟩ = .ok mid) :
    joinAll other outer [join] ⟨shapes, []⟩ = .ok ⟨mid.shapes, []⟩ := by
  obtain ⟨kind, source, condition⟩ := join
  rw [joinAll_empty]
  rw [joinAll] at done
  split at done
  · rename_i lateral
    obtain ⟨groups, paired, done⟩ := bind_eq_ok.mp done
    obtain ⟨columns, known, done⟩ := bind_eq_ok.mp done
    cases done
    have headed : source.header db = .ok columns := by
      cases forall₂_of_mapM paired with
      | nil => exact known
      | cons first _ =>
          obtain ⟨right, found, first⟩ := bind_eq_ok.mp first
          obtain ⟨pairs, _, first⟩ := bind_eq_ok.mp first
          cases first
          cases known
          exact Source.header_of_read lateral (apart lateral) found
    rw [Join.alone, if_pos lateral, header columns headed]
    rfl
  · rename_i separate
    obtain ⟨right, found, done⟩ := bind_eq_ok.mp done
    obtain ⟨groups, _, done⟩ := bind_eq_ok.mp done
    cases done
    obtain ⟨rows, again⟩ := read _ _ found
    rw [Join.alone, if_neg separate, again]
    rfl

/-- A join where the sources before it, or its own source, may have lost their rows. -/
theorem joinAll_one_without
    (read : ∀ env rowset, join.source.read db env = .ok rowset → join.source.read (db.without name) env =
      .ok ⟨rowset.columns, if join.source.reads name then [] else rowset.rows⟩)
    (header : Refines (join.source.header db) (join.source.header (db.without name)))
    (bears : if gone then join.source.isLateral = true → join.source.standing = []
      else join.kind = .left → join.source.reads name = false)
    (done : joinAll db outer [join] ⟨shapes, rows⟩ = .ok mid) :
    joinAll (db.without name) outer [join] ⟨shapes, if gone then [] else rows⟩ =
      .ok ⟨mid.shapes, if gone || join.source.reads name then [] else mid.rows⟩ := by
  cases gone with
  | true =>
      exact joinAll_one_empty (fun env rowset found => ⟨_, read env rowset found⟩) header bears done
  | false =>
      cases lost : join.source.reads name with
      | false =>
          simp only [lost, Bool.false_eq_true, if_false] at read
          exact joinAll_one_refines read header mid done
      | true =>
          have inner : join.kind = .inner := by
            cases kind : join.kind with
            | inner => rfl
            | left => exact absurd (bears kind) (by simp [lost])
          simp only [lost, if_true] at read
          exact joinAll_one_lost inner read header done

end Step

mutual

/-- A query that bears the loss of a table's rows has no rows without them if it reads the table, and the same rows
if it does not. -/
theorem Query.run_without : ∀ (query : Query) {env : Env} {headerOnly : Bool} {answer : Rowset},
    query.Bears name → query.run db env headerOnly = .ok answer →
    query.run (db.without name) env headerOnly =
      .ok ⟨answer.columns, if query.reads name then [] else answer.rows⟩
  | ⟨items, source, joins, filter, order, limit⟩, env, headerOnly, answer, bears, done => by
    rw [Query.Bears] at bears
    rw [Query.reads]
    obtain ⟨joined, _, read, _⟩ := Query.run_cases done
    have left : Query.joined (db.without name) env ⟨items, source, joins, filter, order, limit⟩ =
        .ok ⟨joined.shapes, if source.reads name || joinsRead name joins then [] else joined.rows⟩ := by
      obtain ⟨base, found, extended⟩ := bind_eq_ok.mp read
      have behind := joinAll_without joins bears.2 extended
      rw [Query.joined, Source.read_without source bears.1 found, ok_bind, ← behind]
      cases source.reads name <;> rfl
    cases lost : source.reads name || joinsRead name joins with
    | true =>
        rw [lost, if_pos rfl] at left
        have nothing := Query.empty_answer read done
        rw [Query.run_of_empty left (.inr rfl), if_pos rfl]
        exact nothing
    | false =>
        rw [lost] at left
        rw [Query.run_eq, read] at done
        rw [Query.run_eq, left]
        exact done

theorem Source.read_without : ∀ (source : Source) {env : Env} {rowset : Rowset}, source.Bears name →
    source.read db env = .ok rowset → source.read (db.without name) env =
      .ok ⟨rowset.columns, if source.reads name then [] else rowset.rows⟩
  | .table (.table table _), env, rowset, _, done => by
    rw [Source.read] at done ⊢
    rw [Source.reads, Database.without]
    by_cases here : table = name
    · subst here
      rw [if_pos rfl, if_pos (beq_self_eq_true table)]
      cases found : db table with
      | none =>
          rw [found] at done
          cases done
      | some stored =>
          rw [found] at done
          cases done
          rfl
    · rw [if_neg here, if_neg (by simpa using here)]
      exact done
  | .table (.derived _), env, rowset, _, done => by
    rw [Source.read] at done
    cases done
  | .subquery lateral query aliasName, env, rowset, bears, done => by
    rw [Source.Bears] at bears
    rw [Source.read] at done ⊢
    rw [Source.reads]
    exact Query.run_without query bears done

theorem Source.header_without : ∀ (source : Source) {columns : List String}, source.Bears name →
    source.header db = .ok columns → source.header (db.without name) = .ok columns
  | .table (.table table _), columns, _, done => by
    have same := congrFun (db.columns_without name) table
    rw [Database.columns, Database.columns] at same
    rw [Source.header] at done ⊢
    cases found : db table with
    | none =>
        rw [found] at done
        cases done
    | some stored =>
        rw [found] at done same
        obtain ⟨kept, known, named⟩ := Option.map_eq_some_iff.mp same
        cases done
        rw [known]
        exact congrArg Except.ok named
  | .table (.derived _), columns, _, done => by
    rw [Source.header] at done
    cases done
  | .subquery lateral query aliasName, columns, bears, done => by
    rw [Source.Bears] at bears
    rw [Source.header] at done ⊢
    obtain ⟨answer, ran, done⟩ := bind_eq_ok.mp done
    cases done
    rw [Query.run_without query bears ran]
    rfl

theorem joinAll_without : ∀ (joins : List Join) {outer : Env} {gone : Bool} {shapes : List Shape}
    {rows : List Frame} {joined : Joined}, joinsBear name gone joins →
    joinAll db outer joins ⟨shapes, rows⟩ = .ok joined →
    joinAll (db.without name) outer joins ⟨shapes, if gone then [] else rows⟩ =
      .ok ⟨joined.shapes, if gone || joinsRead name joins then [] else joined.rows⟩
  | [], outer, gone, shapes, rows, joined, _, done => by
    rw [joinAll] at done ⊢
    cases done
    rw [joinsRead, Bool.or_false]
  | ⟨kind, source, condition⟩ :: rest, outer, gone, shapes, rows, joined, bears, done => by
    rw [joinsBear] at bears
    have apart : ∀ db joined, joinAll db outer (⟨kind, source, condition⟩ :: rest) joined =
        (joinAll db outer [⟨kind, source, condition⟩] joined >>= joinAll db outer rest) := fun db joined =>
      joinAll_append [⟨kind, source, condition⟩] rest joined
    rw [apart] at done
    obtain ⟨mid, first, done⟩ := bind_eq_ok.mp done
    have step := joinAll_one_without (fun env rowset found => Source.read_without source bears.1 found)
      (fun columns headed => Source.header_without source bears.1 headed) bears.2.1 first
    rw [apart, step, ok_bind, joinsRead, ← Bool.or_assoc]
    exact joinAll_without rest bears.2.2 done

end

/-- Where the sources of a query have no row together, it answers with the names that it has elsewhere. -/
theorem Query.answer_of_empty {shapes : List Shape} {answer : Rowset} (rectangular : db.Rectangular)
    (rectangular' : other.Rectangular) (same : other.columns = db.columns)
    (done : query.answer db = .ok answer) (read : query.joined other [] = .ok ⟨shapes, []⟩) :
    query.answer other = .ok ⟨answer.columns, []⟩ := by
  rw [Query.answer] at done
  obtain ⟨joined, _, before, _⟩ := Query.run_cases done
  obtain ⟨columns, others, heading, headings, named, _⟩ := Query.joined_shapes rectangular before
  obtain ⟨columns', others', heading', headings', named', _⟩ := Query.joined_shapes rectangular' read
  rw [same, heading] at heading'
  rw [same, headings] at headings'
  cases heading'
  cases headings'
  cases named'
  have nothing := Query.empty_answer before done
  rw [named] at nothing
  rw [Query.answer, Query.run_of_empty read (.inr rfl)]
  exact nothing

/-- A query that has an answer keeps its names and has no rows without those of a table that it reads, as long as it
bears their loss. Where the sources before a join have no row then, the query has an answer exactly if each source
behind can be read alone, a lateral subquery for its header with no row in reach. -/
theorem Query.answer_without {answer : Rowset} (rectangular : db.Rectangular) (name : String)
    (done : query.answer db = .ok answer) :
    (query.Bears name → query.reads name = true →
      query.answer (db.without name) = .ok ⟨answer.columns, []⟩) ∧
    ∀ before after shapes, query.joins = before ++ after →
      { query with joins := before }.joined (db.without name) [] = .ok ⟨shapes, []⟩ →
      ((∃ emptied, query.answer (db.without name) = .ok emptied) ↔
        ∀ join ∈ after, ∃ shape, join.alone (db.without name) [] = .ok shape) ∧
      ∀ emptied, query.answer (db.without name) = .ok emptied → emptied = ⟨answer.columns, []⟩ := by
  refine ⟨fun bears reads => ?_, fun before after shapes near read => ?_⟩
  · have kept := Query.run_without query bears done
    rw [reads, if_pos rfl] at kept
    exact kept
  · have behind : query.joined (db.without name) [] = (do
        return ⟨shapes ++ (← after.mapM (Join.alone (db.without name) [])), []⟩) := by
      obtain ⟨base, found, extended⟩ := bind_eq_ok.mp read
      rw [Query.joined, found, ok_bind, near, joinAll_append, extended, ok_bind, joinAll_alone]
    have alone : ∀ {emptied}, query.answer (db.without name) = .ok emptied →
        ∃ others, after.mapM (Join.alone (db.without name) []) = .ok others := by
      intro emptied answered
      obtain ⟨joined, _, together, _⟩ := Query.run_cases answered
      rw [behind] at together
      obtain ⟨others, each, _⟩ := bind_eq_ok.mp together
      exact ⟨others, each⟩
    have empty : ∀ {others}, after.mapM (Join.alone (db.without name) []) = .ok others →
        query.answer (db.without name) = .ok ⟨answer.columns, []⟩ := by
      intro others each
      rw [each] at behind
      exact Query.answer_of_empty rectangular (rectangular.without name) (db.columns_without name) done behind
    refine ⟨⟨fun ⟨emptied, answered⟩ join member => ?_, fun each => ?_⟩, fun emptied answered => ?_⟩
    · obtain ⟨others, each⟩ := alone answered
      obtain ⟨shape, _, shaped⟩ := exists_of_mem_forall₂ (forall₂_of_mapM each).flip member
      exact ⟨shape, shaped⟩
    · obtain ⟨others, each⟩ := exists_mapM_eq_ok each
      exact ⟨_, empty each⟩
    · obtain ⟨others, each⟩ := alone answered
      exact Except.ok.inj (answered.symm.trans (empty each))

namespace Sample

/-- Owners, each next to the rows of a subquery for it or next to nulls. -/
def beside (inner : Query) : Query :=
  { owner.all.query with items := [.wildcard owner.all.table, .wildcard (.derived "n")] }.joining [] .left inner "n"
    (.const (.bool true)) [] true

/-- The notes that point at the owner to their left. -/
def pointing : Query :=
  (note.all.restrict (.compare .eq (note.all.column "owner_code") (owner.all.column "code"))).query

def besidePointing : Rowset :=
  ⟨["id", "code", "id", "owner_code"],
    [[.int 1, .int 7, .int 1, .int 7], [.int 1, .int 7, .int 3, .int 7], [.int 2, .null, .null, .null],
      [.int 3, .int 8, .int 2, .int 8]]⟩

theorem pointing_without_owners :
    let db := engine.store.database
    (beside pointing).answer db = .ok besidePointing ∧
      (beside pointing).answer (db.without "owners") = .ok ⟨besidePointing.columns, []⟩ ∧
      (∀ join ∈ (beside pointing).joins, ∃ shape, join.alone (db.without "owners") [] = .ok shape) := by
  intro db
  have done : (beside pointing).answer db = .ok besidePointing := by cbv
  have bears : (beside pointing).Bears "owners" :=
    ⟨trivial, ⟨trivial, trivial⟩, fun _ => rfl, trivial⟩
  have left : { beside pointing with joins := [] }.joined (db.without "owners") [] =
      .ok ⟨[⟨"owners", ["id", "code"]⟩], []⟩ := by cbv
  obtain ⟨kept, behind⟩ := Query.answer_without stored_serves.store.rectangular "owners" done
  have emptied := kept bears rfl
  exact ⟨done, emptied, (behind [] _ _ rfl left).1.mp ⟨_, emptied⟩⟩

/-- The same notes, with the owner in the condition of a join. -/
def paired : Query :=
  let second := TableRef.table "notes" (some "second")
  { (note.all.restrict (.compare .eq (note.all.column "id") (.column ⟨second, "id"⟩))).query with
    joins := [⟨.inner, .table second,
      .compare .eq (.column ⟨second, "owner_code"⟩) (owner.all.column "code")⟩] }

/-- Without an owner to the left that condition is evaluated all the same, with no owner in reach. -/
theorem paired_without_owners :
    let db := engine.store.database
    (beside paired).answer db = .ok besidePointing ∧
      (beside paired).answer (db.without "owners") = .error (.unknownQualifier "owners") :=
  ⟨by cbv, by cbv⟩

end Sample

end Relata
