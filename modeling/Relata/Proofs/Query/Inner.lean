import Mathlib.Data.List.Forall2
import Relata.Proofs.Query.Uncorrelated

/-!
Conditions of inner joins. What an inner join asks of its rows may as well be asked of them afterwards: the rows are
those that the sources have together without a condition, less those that do not satisfy it. So at the last join of
a query, ON and WHERE are one condition.
-/

namespace Relata

variable {db : Database} {outer : Env} {source : Source} {condition : Expr} {before after : Joined}

theorem keepRows_append (first second : List Frame) :
    keepRows outer condition (first ++ second) = (do
      let kept ← keepRows outer condition first
      return kept ++ (← keepRows outer condition second)) := by
  induction first with
  | nil => exact (bind_pure _).symm
  | cons row rest ih =>
      rw [List.cons_append, keepRows, keepRows, ih]
      simp only [bind_assoc]
      refine bind_congr fun keeps => bind_congr fun kept => ?_
      simp only [pure_bind]
      refine bind_congr fun others => ?_
      cases keeps <;> rfl

theorem keepRows_flatten (groups : List (List Frame)) :
    keepRows outer condition groups.flatten = (do
      return (← groups.mapM (keepRows outer condition)).flatten) := by
  induction groups with
  | nil => rfl
  | cons group rest ih =>
      rw [List.flatten_cons, keepRows_append, ih, List.mapM_cons]
      simp only [bind_assoc, pure_bind, List.flatten_cons]

/-- An inner join extends a row by the candidates that satisfy its condition, and by nothing else. -/
theorem extendRow_inner (name : String) (row : Frame) (right : Rowset) :
    extendRow outer .inner condition ⟨name, right.columns⟩ row right.rows =
      keepRows outer condition (lateralPairs name row right) := by
  rw [extendRow]
  simp only [show (JoinKind.inner == .left) = false from rfl, Bool.and_false, Bool.false_eq_true, if_false]
  exact bind_pure _

/-- The rows that satisfy a condition, of all that the sources have together. -/
def Joined.keep (outer : Env) (condition : Expr) (joined : Joined) : Except Fault Joined := do
  return ⟨joined.shapes, ← keepRows outer condition joined.rows⟩

theorem Joined.keep_true (joined : Joined) : joined.keep outer (.const (.bool true)) = .ok joined := by
  rw [keep, keepRows_true]
  rfl

/-- The rows that a lateral source has next to a row, with their columns. -/
def Source.beside (db : Database) (outer : Env) (source : Source) (row : Frame) :
    Except Fault (List String × List Frame) := do
  let right ← source.read db (row :: outer)
  return (right.columns, lateralPairs source.qualifier row right)

/-- The columns of a lateral source: those that it has for the first row, or its own where there is none. -/
def Source.columnsBeside (db : Database) (source : Source) : List (List String) → Except Fault (List String)
  | columns :: _ => .ok columns
  | [] => source.header db

theorem joinAll_inner_lateral (lateral : source.isLateral = true) :
    joinAll db outer [⟨.inner, source, condition⟩] before = (do
      let groups ← before.rows.mapM fun row => source.beside db outer row >>= fun group => do
        return (group.1, ← keepRows outer condition group.2)
      let columns ← source.columnsBeside db (groups.map Prod.fst)
      return ⟨before.shapes ++ [⟨source.qualifier, columns⟩], (groups.map Prod.snd).flatten⟩) := by
  rw [joinAll, if_pos lateral]
  simp only [extendRow_inner, Source.beside, bind_assoc, pure_bind]
  refine bind_congr fun groups => ?_
  cases groups <;> rfl

/-- A source that is read once has all its pairs before the condition is asked of any. -/
theorem joinAll_inner_once (once : source.isLateral = false) :
    joinAll db outer [⟨.inner, source, condition⟩] before = (do
      let right ← source.read db outer
      Joined.keep outer condition ⟨before.shapes ++ [⟨source.qualifier, right.columns⟩],
        (before.rows.map fun row => lateralPairs source.qualifier row right).flatten⟩) := by
  rw [joinAll, if_neg (by simp [once])]
  refine bind_congr fun right => ?_
  simp only [extendRow_inner, Joined.keep, keepRows_flatten, List.mapM_map, bind_assoc, pure_bind,
    Function.comp_def, joinAll]
  rfl

/-- What an inner join asks of its rows may be asked of the rows that the sources have together without it. -/
theorem joinAll_inner_mirrors :
    Mirrors id (joinAll db outer [⟨.inner, source, condition⟩] before)
      (joinAll db outer [⟨.inner, source, .const (.bool true)⟩] before >>= Joined.keep outer condition) := by
  cases lateral : source.isLateral with
  | false =>
      rw [joinAll_inner_once lateral, joinAll_inner_once lateral, bind_assoc]
      refine .of_eq (bind_congr fun right => ?_)
      rw [Joined.keep_true, ok_bind]
  | true =>
      have paired : (fun group : List String × List Frame => (pure (group.1, group.2) : Except Fault _)) = pure := rfl
      have unasked : joinAll db outer [⟨.inner, source, .const (.bool true)⟩] before = (do
          let groups ← before.rows.mapM (source.beside db outer)
          let columns ← source.columnsBeside db (groups.map Prod.fst)
          return ⟨before.shapes ++ [⟨source.qualifier, columns⟩], (groups.map Prod.snd).flatten⟩) := by
        rw [joinAll_inner_lateral lateral]
        simp only [keepRows_true, ok_bind, paired, bind_pure]
      refine .of_iff fun after => ?_
      rw [unasked, joinAll_inner_lateral lateral]
      simp only [bind_eq_ok, mapM_bind_eq_ok, mapM_second_eq_ok, pure_eq_ok, Joined.keep]
      constructor
      · rintro ⟨groups, ⟨wholes, read, tags, kept⟩, columns, named, rfl⟩
        rw [tags] at named
        refine ⟨_, ⟨wholes, read, columns, named, rfl⟩, (groups.map Prod.snd).flatten, ?_, rfl⟩
        rw [keepRows_flatten, kept]
        rfl
      · rintro ⟨_, ⟨wholes, read, columns, named, rfl⟩, rows, kept, rfl⟩
        rw [keepRows_flatten] at kept
        obtain ⟨parts, each, flat⟩ := bind_eq_ok.mp kept
        cases flat
        have width := (forall₂_of_mapM each).length_eq
        rw [List.length_map] at width
        have tags : ((wholes.map Prod.fst).zip parts).map Prod.fst = wholes.map Prod.fst :=
          List.map_fst_zip (by simp [width])
        have values : ((wholes.map Prod.fst).zip parts).map Prod.snd = parts :=
          List.map_snd_zip (by simp [width])
        refine ⟨(wholes.map Prod.fst).zip parts, ⟨wholes, read, tags, ?_⟩, columns, ?_, ?_⟩
        · rw [values, each]
        · rw [tags, named]
        · rw [values]

/-- The query with one more inner join. -/
def Query.innerJoin (query : Query) (source : Source) (condition : Expr) : Query :=
  { query with joins := query.joins ++ [⟨.inner, source, condition⟩] }

/-- The condition, and then what a filter asks besides. -/
def Expr.besides (condition : Expr) (filter : Option Expr) : Expr := filter.elim condition condition.conj

theorem Query.joined_innerJoin (query : Query) :
    (query.innerJoin source condition).joined db outer =
      query.joined db outer >>= joinAll db outer [⟨.inner, source, condition⟩] := by
  simp only [Query.joined, Query.innerJoin, joinAll_append, bind_assoc]

theorem Query.joined_mirrors (query : Query) (condition : Expr) :
    Mirrors id ((query.innerJoin source condition).joined db outer)
      ((query.innerJoin source (.const (.bool true))).joined db outer >>= Joined.keep outer condition) := by
  rw [joined_innerJoin, joined_innerJoin, bind_assoc]
  exact (Mirrors.of_eq rfl).bind fun before _ => joinAll_inner_mirrors

theorem truth_of_exists {row : Frame} (answered : ∃ t, condition.truth (row :: outer) = .ok t) :
    condition.truth (row :: outer) = .ok (truthOf outer (some condition) row) := by
  obtain ⟨t, truth⟩ := answered
  rw [truthOf, filterTruth, truth]

/-- The rows that satisfy a condition, less those that a filter drops, are those that satisfy both. -/
theorem filterRows_besides (filter : Option Expr) {rows kept : List Frame}
    (decided : ∀ row ∈ rows, ∀ e ∈ filter, ∃ t, e.truth (row :: outer) = .ok t)
    (done : keepRows outer condition rows = .ok kept) :
    ∃ both, filterRows outer filter kept = .ok both ∧
      filterRows outer (some (condition.besides filter)) rows = .ok both := by
  cases filter with
  | none => exact ⟨kept, rfl, done⟩
  | some also =>
      have truth : ∀ row ∈ rows, also.truth (row :: outer) = .ok (truthOf outer (some also) row) :=
        fun row member => truth_of_exists (decided row member also rfl)
      have first : filterRows outer (some condition) rows = .ok kept := done
      refine ⟨_, keepRows_eq_ok fun row member => Expr.keeps_of_truth (truth row ?_),
        filterRows_addCondition first truth⟩
      exact (keeps_of_mem_keepRows done row member).1

/-- The pairs of rows that an inner join leaves of all that there are. -/
theorem Query.exists_pairs {query : Query} {whole : Joined}
    (read : (query.innerJoin source (.const (.bool true))).joined db outer = .ok whole)
    (decided : ∀ row ∈ whole.rows, ∃ t, condition.truth (row :: outer) = .ok t) :
    ∃ pairs, (query.innerJoin source condition).joined db outer = .ok ⟨whole.shapes, pairs⟩ ∧
      keepRows outer condition whole.rows = .ok pairs ∧ pairs.Sublist whole.rows := by
  have kept := keepRows_eq_ok fun row member => Expr.keeps_of_truth (truth_of_exists (decided row member))
  refine ⟨_, (query.joined_mirrors condition).answer ?_, kept, List.filter_sublist⟩
  rw [read, ok_bind, Joined.keep, kept]
  rfl

/-- In the last join of a query, if it is an inner one, a condition may be asked of the pairs of rows or of the rows
that the sources have together, before what is asked there already. Where both conditions are true, false or unknown
for each of these rows, the two queries keep the same rows and have the same answer, or fail with the same fault;
where the sources cannot be joined at all, neither has one. -/
theorem Query.inner_condition_filters (db : Database) (outer : Env) (headerOnly : Bool) (query : Query)
    (source : Source) (condition : Expr)
    (decided : ∀ whole, (query.innerJoin source (.const (.bool true))).joined db outer = .ok whole →
      ∀ row ∈ whole.rows, ∀ e ∈ condition :: query.filter.toList,
        ∃ t : Truth, e.eval (row :: outer) = .ok t.value) :
    let asked := query.innerJoin source condition
    let unasked := query.innerJoin source (.const (.bool true))
    let filtered := { unasked with filter := some (condition.besides query.filter) }
    (asked.run db outer headerOnly).toOption = (filtered.run db outer headerOnly).toOption ∧
    ∀ whole, unasked.joined db outer = .ok whole →
      asked.run db outer headerOnly = filtered.run db outer headerOnly ∧
      ∃ pairs kept, asked.joined db outer = .ok ⟨whole.shapes, pairs⟩ ∧ pairs.Sublist whole.rows ∧
        filterRows outer asked.filter pairs = .ok kept ∧
        filterRows outer filtered.filter whole.rows = .ok kept := by
  intro asked unasked filtered
  have sources : filtered.joined db outer = unasked.joined db outer := rfl
  cases read : unasked.joined db outer with
  | error fault =>
      have missing : (asked.joined db outer).toOption = none := by
        rw [(query.joined_mirrors condition).toOption_eq, read]
        rfl
      refine ⟨?_, nofun⟩
      rw [Query.run_eq, Query.run_eq, sources, read]
      cases failed : asked.joined db outer with
      | error fault => rfl
      | ok joined =>
          rw [failed] at missing
          cases missing
  | ok whole =>
      have each := decided whole read
      obtain ⟨pairs, joined, satisfied, among⟩ := query.exists_pairs read fun row member =>
        (each row member condition List.mem_cons_self).imp fun _ => Expr.truth_eq_ok.mpr
      obtain ⟨kept, first, second⟩ := filterRows_besides query.filter (fun row member e also =>
        (each row member e (List.mem_cons_of_mem _ (Option.mem_toList.mpr also))).imp
          fun _ => Expr.truth_eq_ok.mpr) satisfied
      have same : asked.run db outer headerOnly = filtered.run db outer headerOnly := by
        rw [Query.run_eq, Query.run_eq, sources, read, joined]
        cases headerOnly with
        | true => rfl
        | false =>
            have left : filterRows outer asked.filter pairs = .ok kept := first
            have right : filterRows outer filtered.filter whole.rows = .ok kept := second
            simp only [ok_bind, left, right, Bool.false_eq_true, if_false]
            rfl
      refine ⟨congrArg _ same, ?_⟩
      rintro _ ⟨⟩
      exact ⟨same, pairs, kept, joined, among, first, second⟩

namespace Sample

/-- The owners that are no newer than a note, read for each note. -/
def ownersUpTo : Source :=
  .subquery true (owner.all.query.restrict (.compare .le (owner.all.column "id") (note.all.column "id"))) "o"

/-- `"o"."code" = "notes"."owner_code"`. -/
def sameCode : Expr := .compare .eq (.column ⟨.derived "o", "code"⟩) (note.all.column "owner_code")

def laterNotes : Query :=
  { note.all.query with
    items := [.expr (note.all.column "id"), .wildcard (.derived "o")]
    filter := some (.compare .gt (note.all.column "body") (.const (.text "a"))) }

/-- Two of nine pairs have equal codes, and in five more a code is null; one of the two has a later note. -/
theorem inner_condition_filters_notes :
    let unasked := laterNotes.innerJoin ownersUpTo (.const (.bool true))
    let filtered := { unasked with filter := some (sameCode.besides laterNotes.filter) }
    let answer : Rowset := ⟨["id", "id", "code"], [[.int 3, .int 1, .int 7]]⟩
    (∀ whole, unasked.joined engine.store.database [] = .ok whole → whole.rows.length = 9 ∧
      ∀ row ∈ whole.rows, ∀ e ∈ sameCode :: laterNotes.filter.toList,
        ∃ t : Truth, e.eval [row] = .ok t.value) ∧
      (laterNotes.innerJoin ownersUpTo sameCode).answer engine.store.database = .ok answer ∧
      filtered.answer engine.store.database = .ok answer := by
  intro unasked filtered answer
  have checked : ((unasked.joined engine.store.database []).toOption.all fun whole =>
      whole.rows.length == 9 && whole.rows.all fun row =>
        (sameCode :: laterNotes.filter.toList).all fun e => (e.truth [row]).toOption.isSome) = true := by cbv
  have decided : ∀ whole, unasked.joined engine.store.database [] = .ok whole → whole.rows.length = 9 ∧
      ∀ row ∈ whole.rows, ∀ e ∈ sameCode :: laterNotes.filter.toList,
        ∃ t : Truth, e.eval [row] = .ok t.value := by
    intro whole read
    rw [toOption_eq_some.mpr read, Option.all_some, Bool.and_eq_true, List.all_eq_true] at checked
    refine ⟨beq_iff_eq.mp checked.1, fun row member e among => ?_⟩
    obtain ⟨t, answered⟩ := Option.isSome_iff_exists.mp (List.all_eq_true.mp (checked.2 row member) e among)
    exact ⟨t, Expr.truth_eq_ok.mp (toOption_eq_some.mp answered)⟩
  have asked : (laterNotes.innerJoin ownersUpTo sameCode).answer engine.store.database = .ok answer := by cbv
  obtain ⟨same, _⟩ := Query.inner_condition_filters engine.store.database [] false laterNotes ownersUpTo sameCode
    fun whole read => (decided whole read).2
  refine ⟨decided, asked, toOption_eq_some.mp (same.symm.trans ?_)⟩
  exact congrArg Except.toOption asked

end Sample

end Relata
