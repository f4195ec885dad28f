import Mathlib.Data.List.Permutation
import Relata.Proofs.Query.Free
import Relata.Proofs.Session.Reached

/-!
Lateral subqueries that read no row to their left. Whether such a subquery is read once or for each row makes
no difference to the answer of the query. Without a row to the left a lateral subquery is read for its header
alone, and the header of an answer is there if the answer is.
-/

namespace Relata

variable {db : Database} {outer : Env}

/-- What a query answers with no row in reach it answers in every environment. -/
theorem Query.run_alone {query : Query} {headerOnly : Bool} {answer : Rowset}
    (done : query.run db [] headerOnly = .ok answer) (env : Env) :
    query.run db env headerOnly = .ok answer :=
  query.run_refines (Env.offers_nil _ _) answer done

/-- A limit is counted whether or not there are rows. -/
theorem limitRows_nil {limit : Option Expr} {rows cut : List Frame}
    (done : limitRows outer limit rows = .ok cut) : limitRows outer limit [] = .ok [] := by
  cases limit with
  | none => rfl
  | some e =>
      obtain ⟨count, counted, _⟩ := bind_eq_ok.mp done
      rw [limitRows, counted]
      cases count with
      | none => rfl
      | some n => exact congrArg Except.ok List.take_nil

/-- A query that has an answer has a header, the names of the answer. -/
theorem Query.run_header {query : Query} {answer : Rowset} (done : query.run db outer false = .ok answer) :
    query.run db outer true = .ok ⟨answer.columns, []⟩ := by
  rw [Query.run_eq] at done ⊢
  obtain ⟨joined, extended, done⟩ := bind_eq_ok.mp done
  obtain ⟨kept, _, done⟩ := bind_eq_ok.mp done
  obtain ⟨sorted, _, done⟩ := bind_eq_ok.mp done
  obtain ⟨cut, limited, done⟩ := bind_eq_ok.mp done
  obtain ⟨columns, named, done⟩ := bind_eq_ok.mp done
  obtain ⟨rows, _, done⟩ := bind_eq_ok.mp done
  cases done
  simp only [extended, if_true, ok_bind, sortRows_empty, limitRows_nil limited, project, named]
  rfl

theorem joinAll_append (first rest : List Join) (joined : Joined) :
    joinAll db outer (first ++ rest) joined = (joinAll db outer first joined >>= joinAll db outer rest) := by
  induction first generalizing joined with
  | nil =>
      rw [List.nil_append, joinAll]
      rfl
  | cons join others ih =>
      obtain ⟨kind, source, condition⟩ := join
      rw [List.cons_append, joinAll, joinAll]
      simp only [ih]
      split <;> simp only [bind_assoc]

/-- A subquery that has an answer with no row in reach may be read once or for each row. -/
theorem joinAll_lateral_eq {inner : Query} {right : Rowset} (read : inner.run db [] false = .ok right)
    (kind : JoinKind) (name : String) (condition : Expr) (rest : List Join) (joined : Joined) :
    joinAll db [] (⟨kind, .subquery true inner name, condition⟩ :: rest) joined =
      joinAll db [] (⟨kind, .subquery false inner name, condition⟩ :: rest) joined := by
  have each : (joined.rows.mapM fun row => do
      let right ← inner.run db [row] false
      return (right.columns, ← extendRow [] kind condition ⟨name, right.columns⟩ row right.rows)) =
      joined.rows.mapM fun row => do
        return (right.columns, ← extendRow [] kind condition ⟨name, right.columns⟩ row right.rows) :=
    mapM_congr fun row _ => by rw [Query.run_alone read [row], ok_bind]
  rw [joinAll, joinAll]
  simp only [Source.isLateral, Source.read, Source.header, Source.qualifier, if_true, Bool.false_eq_true,
    if_false, read, ok_bind, each, mapM_tagged]
  cases joined.rows.mapM fun row => extendRow [] kind condition ⟨name, right.columns⟩ row right.rows with
  | error fault => rfl
  | ok groups =>
      have untagged : (groups.map (Prod.mk right.columns)).map Prod.snd = groups := by
        rw [List.map_map]
        exact List.map_id groups
      rw [ok_bind, pure_bind, ok_bind, untagged]
      -- The header is that of the first answer, and is read apart where there is none.
      cases groups with
      | nil =>
          rw [Query.run_header read]
          rfl
      | cons group others => rfl

/-- The query with a join to a subquery among its joins. -/
def Query.joining (query : Query) (before : List Join) (kind : JoinKind) (inner : Query) (name : String)
    (condition : Expr) (after : List Join) (lateral : Bool) : Query :=
  { query with joins := before ++ ⟨kind, .subquery lateral inner name, condition⟩ :: after }

section Joining

variable {query inner : Query} {before after : List Join} {kind : JoinKind} {name : String} {condition : Expr}

theorem Query.joined_joining {lateral : Bool} :
    (query.joining before kind inner name condition after lateral).joined db [] = (do
      let left ← { query with joins := before }.joined db []
      joinAll db [] (⟨kind, .subquery lateral inner name, condition⟩ :: after) left) := by
  simp only [Query.joined, Query.joining, joinAll_append, bind_assoc]

theorem Query.answer_joining {right : Rowset} (read : inner.run db [] false = .ok right) :
    (query.joining before kind inner name condition after true).answer db =
      (query.joining before kind inner name condition after false).answer db := by
  rw [Query.answer, Query.answer, Query.run_eq, Query.run_eq, Query.joined_joining, Query.joined_joining,
    funext fun left => joinAll_lateral_eq read kind name condition after left]
  rfl

theorem Query.exists_read_once {answer : Rowset}
    (done : (query.joining before kind inner name condition after false).answer db = .ok answer) :
    ∃ right, inner.run db [] false = .ok right := by
  rw [Query.answer, Query.run_eq, Query.joined_joining] at done
  obtain ⟨joined, extended, _⟩ := bind_eq_ok.mp done
  obtain ⟨left, _, extended⟩ := bind_eq_ok.mp extended
  simp only [joinAll, Source.isLateral, Source.read, Bool.false_eq_true, if_false] at extended
  obtain ⟨right, answered, _⟩ := bind_eq_ok.mp extended
  exact ⟨right, answered⟩

theorem Query.exists_read_beside {left : Joined} {answer : Rowset} {row : Frame}
    (read : { query with joins := before }.joined db [] = .ok left) (present : row ∈ left.rows)
    (done : (query.joining before kind inner name condition after true).answer db = .ok answer) :
    row.names = query.source.qualifier :: before.map (·.source.qualifier) ∧
      ∃ right, inner.run db [row] false = .ok right := by
  rw [Query.answer, Query.run_eq, Query.joined_joining, read] at done
  obtain ⟨joined, extended, _⟩ := bind_eq_ok.mp done
  obtain ⟨_, groups, _, each, _⟩ := joinAll_cons extended
  obtain ⟨_, _, right, answered, _⟩ := exists_of_mem_forall₂ each.flip present
  refine ⟨?_, right, answered⟩
  obtain ⟨base, _, read⟩ := bind_eq_ok.mp read
  exact joinAll_names read (names_rows _ base.rows) row present

end Joining

/-- Whether a subquery is joined laterally makes no difference to a query that has an answer without: what
the subquery answers with no row in reach it answers for each row to its left, and where there is no such row
its header is that of its answer. Conversely, a subquery that takes no column from the sources to its left
answers for one row to its left what it answers alone, so as long as there is such a row, the query has an
answer without that it has laterally. -/
theorem Query.lateral_answers_alike (db : Database) (query : Query) (before : List Join) (kind : JoinKind)
    (inner : Query) (name : String) (condition : Expr) (after : List Join) :
    let joining := query.joining before kind inner name condition after
    (∀ answer, (joining false).answer db = .ok answer → (joining true).answer db = .ok answer) ∧
    ∀ left, { query with joins := before }.joined db [] = .ok left → left.rows ≠ [] →
      (∀ c ∈ inner.free,
        c.table.qualifier ∉ query.source.qualifier :: before.map (·.source.qualifier)) →
      ∀ answer, (joining true).answer db = .ok answer → (joining false).answer db = .ok answer := by
  intro joining
  refine ⟨fun answer done => ?_, fun left read some uncorrelated answer done => ?_⟩
  · obtain ⟨right, answered⟩ := Query.exists_read_once done
    exact (Query.answer_joining answered).trans done
  · obtain ⟨row, present⟩ := List.exists_mem_of_ne_nil _ some
    obtain ⟨named, right, answered⟩ := Query.exists_read_beside read present done
    have outside : Env.Offers inner.free [row] [] := by
      intro c free
      rw [Env.value_outer (Frame.binding?_eq_none_iff.mpr (named ▸ uncorrelated c free))]
      exact .refl _
    exact (Query.answer_joining (inner.run_refines outside right answered)).symm.trans done

namespace Sample

/-- Owners, each next to the notes that point at it or next to nulls. -/
def besideNotes (lateral : Bool) : Query :=
  owner.all.query.joining [] .left note.all.query "n"
    (.compare .eq (owner.all.column "code") (.column ⟨.derived "n", "owner_code"⟩)) [] lateral

def besideNotesAnswer : Rowset :=
  ⟨["id", "code"], [[.int 1, .int 7], [.int 1, .int 7], [.int 2, .null], [.int 3, .int 8]]⟩

def ownersRead : Joined :=
  ⟨[⟨"owners", ["id", "code"]⟩],
    [[.int 1, .int 7], [.int 2, .null], [.int 3, .int 8]].map fun values =>
      [⟨⟨"owners", ["id", "code"]⟩, values⟩]⟩

theorem besideNotes_answers_alike :
    (besideNotes false).answer engine.store.database = .ok besideNotesAnswer ∧
      (besideNotes true).answer engine.store.database = .ok besideNotesAnswer ∧
      ({ owner.all.query with joins := [] } : Query).joined engine.store.database [] = .ok ownersRead ∧
      (∀ c ∈ note.all.query.free, c.table.qualifier ∉ ["owners"]) ∧
      ∀ answer, (besideNotes true).answer engine.store.database = .ok answer →
        (besideNotes false).answer engine.store.database = .ok answer := by
  have once : (besideNotes false).answer engine.store.database = .ok besideNotesAnswer := by cbv
  have read : ({ owner.all.query with joins := [] } : Query).joined engine.store.database [] =
      .ok ownersRead := by cbv
  have uncorrelated : ∀ c ∈ note.all.query.free, c.table.qualifier ∉ ["owners"] := by decide
  obtain ⟨laterally, back⟩ := Query.lateral_answers_alike engine.store.database owner.all.query [] .left
    note.all.query "n" (.compare .eq (owner.all.column "code") (.column ⟨.derived "n", "owner_code"⟩)) []
  exact ⟨once, laterally _ once, read, uncorrelated, back _ read (by decide) uncorrelated⟩

end Sample

end Relata
