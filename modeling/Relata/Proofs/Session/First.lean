import Relata.Proofs.Session.Loads

/-!
The first record of a relation. It is read under a limit of one row in place of the relation's own, and what a query
answers under a smaller limit is the beginning of what it answers under a larger one. So it is the first of all
records, except that a relation limited to no row at all has a first record and no records.
-/

namespace Relata

namespace Relation

variable {relation : Relation} {db : Database} {outer : Env} {whole : Rowset} {count : Nat}

/-- A relation computes its items for the first of its sorted rows. -/
theorem run_limited (relation : Relation) :
    relation.query.run db outer false = (do
      let joined ← relation.query.joined db outer
      let kept ← filterRows outer relation.filter joined.rows
      let sorted ← sortRows outer relation.order kept
      project outer relation.query.items ⟨joined.shapes, cutTo relation.limit sorted⟩) := by
  have limited : ∀ rows, limitRows outer relation.query.limit rows = .ok (cutTo relation.limit rows) :=
    fun rows => limitRows_count outer relation.limit
  rw [Query.run_eq]
  simp only [limited, ok_bind, Bool.false_eq_true, if_false]
  rfl

/-- Under a smaller limit a relation answers the first rows of its answer. -/
theorem run_limitTo (done : relation.query.run db outer false = .ok whole)
    (fewer : ∀ most ∈ relation.limit, count ≤ most) :
    (relation.limitTo count).query.run db outer false =
      .ok ⟨whole.columns, cutTo (some count) whole.rows⟩ := by
  rw [run_limited] at done ⊢
  obtain ⟨joined, read, done⟩ := bind_eq_ok.mp done
  obtain ⟨kept, filtered, done⟩ := bind_eq_ok.mp done
  obtain ⟨sorted, ordered, done⟩ := bind_eq_ok.mp done
  obtain ⟨values, rows, parts⟩ := exists_project done
  have shorter := cutTo_cutTo fewer sorted
  have first := parts (cutTo (some count) sorted) fun row member => by
    rw [← shorter] at member
    exact mem_of_mem_cutTo member
  change (do
    let joined ← relation.query.joined db outer
    let kept ← filterRows outer relation.filter joined.rows
    let sorted ← sortRows outer relation.order kept
    project outer relation.query.items ⟨joined.shapes, cutTo (some count) sorted⟩) = _
  rw [read, ok_bind, filtered, ok_bind, ordered, ok_bind, first, rows, cutTo_map, shorter]

end Relation

namespace Session

variable {session : Session} {relation : Relation} {loaded : List Record}

/-- The records of an answer, as far as the session has rows to show. -/
def recordsOf (session : Session) (relation : Relation) (answer : Rowset) : List Record :=
  if session.countsOnly then [] else answer.rows.map (.ofRow relation.model answer.columns)

theorem exec_query_leaves (session : Session) (relation : Relation) :
    ((exec (.query relation.query)).on session).2 = session.after relation := by
  rw [exec_on, Engine.exec_query]
  rfl

/-- Whatever the session is, loading records leaves nothing behind but the statement in its log. -/
theorem all_leaves (session : Session) (relation : Relation) :
    (all relation).on session = (session.records relation, session.after relation) := by
  rw [records, all, Action.on_bind]
  have left := exec_query_leaves session relation
  cases ran : (exec (.query relation.query)).on session with
  | mk answer after =>
      rw [ran] at left
      cases left
      cases answer <;> rfl

theorem first_leaves (session : Session) (relation : Relation) :
    (first relation).on session = ((session.records ((ordered relation).limitTo 1)).map List.head?,
      session.after ((ordered relation).limitTo 1)) := by
  rw [first, Action.on_bind, all_leaves]
  cases session.records ((ordered relation).limitTo 1) <;> rfl

theorem records_eq_ok_iff :
    session.records relation = .ok loaded ↔ session.engine.poisoned = false ∧
      ∃ answer, relation.query.answer session.engine.store.database = .ok answer ∧
        session.recordsOf relation answer = loaded := by
  rw [records, all, Action.on_bind, exec_on]
  unfold Engine.exec recordsOf
  by_cases poisoned : session.engine.poisoned = true
  · simp [poisoned, Except.map]
  · rw [if_neg poisoned]
    dsimp only
    cases relation.query.answer session.engine.store.database with
    | error fault => simp [Except.map]
    | ok answer => cases session.countsOnly <;> simp [poisoned, Except.map, Response.rowset]

theorem ordered_limit (relation : Relation) : (ordered relation).limit = relation.limit := by
  unfold ordered
  split <;> rfl

theorem ordered_limitTo (relation : Relation) (count : Nat) :
    (ordered relation).limitTo count = ordered (relation.limitTo count) := by
  unfold ordered
  by_cases unordered : relation.order.isEmpty = true
  · rw [if_pos unordered, if_pos (show (relation.limitTo count).order.isEmpty = true from unordered)]
    rfl
  · rw [if_neg unordered, if_neg (show ¬ (relation.limitTo count).order.isEmpty = true from unordered)]

/-- The records under a smaller limit are the first of the records. -/
theorem records_limitTo {count : Nat} (done : session.records relation = .ok loaded)
    (fewer : ∀ most ∈ relation.limit, count ≤ most) :
    session.records (relation.limitTo count) = .ok (cutTo (some count) loaded) := by
  obtain ⟨sound, answer, answered, shown⟩ := records_eq_ok_iff.mp done
  refine records_eq_ok_iff.mpr ⟨sound, _, Relation.run_limitTo answered fewer, ?_⟩
  rw [← shown, recordsOf, recordsOf]
  cases session.countsOnly with
  | true => rw [if_pos rfl, if_pos rfl, cutTo_nil]
  | false =>
      rw [if_neg Bool.false_ne_true, if_neg Bool.false_ne_true, cutTo_map]
      rfl

/-- The first record is the first of the records, with whatever limit they were loaded, if it leaves a row at all. -/
theorem first_on (relation others : Relation) (same : others.limitTo 1 = relation.limitTo 1)
    (done : session.records (ordered others) = .ok loaded) (leaves : others.limit ≠ some 0) :
    (first relation).on session =
      (.ok loaded.head?, session.after ((ordered relation).limitTo 1)) := by
  have one : session.records ((ordered relation).limitTo 1) = .ok (cutTo (some 1) loaded) := by
    rw [ordered_limitTo, ← same, ← ordered_limitTo]
    refine records_limitTo done fun most limited => Nat.pos_of_ne_zero fun zero => leaves ?_
    rw [← ordered_limit, Option.mem_def.mp limited, zero]
  rw [first_leaves, one]
  cases loaded <;> rfl

theorem records_of_limit_zero (zero : relation.limit = some 0)
    (done : session.records (ordered relation) = .ok loaded) : loaded = [] := by
  have same : (ordered relation).limitTo 0 = ordered relation :=
    Relation.with_limit ((ordered_limit relation).trans zero)
  have cut : session.records ((ordered relation).limitTo 0) = .ok (cutTo (some 0) loaded) :=
    records_limitTo done fun _ _ => Nat.zero_le _
  rw [same, done] at cut
  exact Except.ok.inj cut

/-- If all records of a relation load, in the order that its first record is looked for, then the first of them is the
relation's first record, unless it is limited to no row at all: the limit is replaced, and the first record is the one
without the limit. -/
theorem first_heads_all (session : Session) (relation : Relation)
    (done : session.records (ordered relation) = .ok loaded) :
    (relation.limit ≠ some 0 →
      (first relation).on session =
        (.ok loaded.head?, session.after ((ordered relation).limitTo 1)) ∧
      (((first relation).on session).1 = .ok none ↔ loaded = []) ∧
      ∀ record, ((first relation).on session).1 = .ok (some record) → record ∈ loaded) ∧
    (relation.limit = some 0 → loaded = [] ∧
      ∀ whole, session.records (ordered { relation with limit := none }) = .ok whole →
        ((first relation).on session).1 = .ok whole.head?) := by
  refine ⟨fun leaves => ?_, fun zero => ⟨records_of_limit_zero zero done, fun whole loads => ?_⟩⟩
  · have head := first_on relation relation rfl done leaves
    rw [head]
    refine ⟨rfl, ?_, fun record found => List.mem_of_mem_head? (Except.ok.inj found)⟩
    rw [Except.ok.injEq, List.head?_eq_none_iff]
  · rw [first_on relation { relation with limit := none } rfl loads nofun]

end Session

namespace Sample

/-- The notes with an owner, by its code, which two of the three notes share. -/
def ownedNotes : Relation :=
  ((note.all.withJoin ⟨.inner, .table owner.ref,
    .compare .eq (owner.all.column "code") (note.all.column "owner_code")⟩).orderByAsc "owner_code").limitTo 2

theorem first_heads_owned_notes :
    session.records (Session.ordered ownedNotes) = .ok [
      ⟨"Note", [("id", .int 1), ("owner_code", .int 7)], []⟩,
      ⟨"Note", [("id", .int 3), ("owner_code", .int 7)], []⟩] ∧
    ((Session.first ownedNotes).on session).1 =
      .ok (some ⟨"Note", [("id", .int 1), ("owner_code", .int 7)], []⟩) := by
  have loads : session.records (Session.ordered ownedNotes) = .ok [
      ⟨"Note", [("id", .int 1), ("owner_code", .int 7)], []⟩,
      ⟨"Note", [("id", .int 3), ("owner_code", .int 7)], []⟩] := by
    rw [Session.records_eq reached.serves, engine_eq, Relation.query_limited _ 2 rfl rfl]
    cbv
  exact ⟨loads, congrArg Prod.fst ((Session.first_heads_all session ownedNotes loads).1 (by decide)).1⟩

/-- No notes at all have a first note. -/
theorem first_of_no_notes :
    session.records (Session.ordered (note.all.limitTo 0)) = .ok [] ∧
      ((Session.first (note.all.limitTo 0)).on session).1 =
        .ok (some ⟨"Note", [("id", .int 1), ("owner_code", .int 7)], []⟩) := by
  have none : session.records (Session.ordered (note.all.limitTo 0)) = .ok [] := by
    rw [Session.records_eq reached.serves, engine_eq, Relation.query_limited _ 0 rfl rfl]
    cbv
  have one : session.records ((Session.ordered (note.all.limitTo 0)).limitTo 1) =
      .ok [⟨"Note", [("id", .int 1), ("owner_code", .int 7)], []⟩] := by
    rw [Session.records_eq reached.serves, engine_eq, Relation.query_limited _ 1 rfl rfl]
    cbv
  rw [Session.first_leaves, one]
  exact ⟨none, rfl⟩

end Sample

end Relata
