import Mathlib.Data.List.Permutation
import Relata.Proofs.Relation.PerParent
import Relata.Proofs.Session.Reached

/-!
Children of all parents on reachable sessions.
-/

namespace Relata

section

variable {tables : List TableDefinition} {models : List ModelDefinition} {schema : Schema}
  {session : Session} {parent : Model} {child : Relation} {table : Table} {keys : KeyMapping}

/-- The relation per parent answers what the child's queries for the parents' keys answer, each row
behind its key and the parents in the order of their table. A parent with a null for a key has no
children. -/
theorem Relation.perParent_answers_each_parent
    (built : Schema.build tables models = .ok schema) (reached : session.Reached schema)
    (parents : parent ∈ schema.models) (rooted : table ∈ schema.tables)
    (direct : child.Direct table.name) (single : child.joins = [])
    (avoids : child.Avoids parent.table.name) (apart : child.table.qualifier ≠ parent.table.name)
    (unlike : parent.table.name ≠ lateralName) (present : parent.table.hasColumn keys.primaryKey)
    (distinct : ∀ other ∈ [child.model.table, table], other.columnNames.Nodup)
    (fresh : keys.foreignKeyAlias ∉ child.model.choice.header table.columnNames)
    (limit : Option Nat) :
    (∃ rows, session.engine.store.database parent.table.name =
        some ⟨parent.table.columnNames, rows⟩ ∧
      (child.perParent parent keys limit).query.answer session.engine.store.database = (do
        let groups ← rows.mapM fun row => do
          let key := cellOf parent.table.columnNames row keys.primaryKey
          let answer ← (child.pointingTo keys key limit).query.answer session.engine.store.database
          return answer.rows.map (key :: ·)
        return ⟨keys.foreignKeyAlias :: child.model.choice.header table.columnNames,
          groups.flatten⟩)) ∧
      (∀ answer, (child.pointingTo keys .null limit).query.answer session.engine.store.database =
        .ok answer → answer.rows = []) ∧
      (child.model.table = table →
        child.model.choice.header table.columnNames = child.model.activeColumns.map Column.name) := by
  have sound := Schema.sound_of_build built
  have serves := reached.serves
  obtain ⟨rows, owners, _⟩ := serves.database sound (sound.modelTable parent parents)
  obtain ⟨stored, found, _⟩ := serves.database sound rooted
  have column : keys.primaryKey ∈ parent.table.columnNames := Table.hasColumn_iff.mp present
  have header : (child.model.choice.header table.columnNames).Nodup :=
    Model.nodup_choice (distinct _ (by simp)) (distinct _ (by simp))
  refine ⟨⟨rows, owners, ?_⟩, fun answer done => ?_, fun own => ?_⟩
  · rw [perParent_answer owners direct single found avoids apart unlike column header fresh,
      besideParent_answer limit owners direct single found avoids apart unlike column]
    rfl
  · exact pointingTo_null direct single found done
  · exact own ▸ child.model.header_choice

end

namespace Sample

/-- The newest note of each owner, read under another name. -/
theorem perParent_answers_newest_notes :
    let child := (note.all.withTable (.table "notes" (some "n"))).refine [.orderByDesc "id"]
    (child.perParent owner keys (some 1)).query.answer session.engine.store.database =
      .ok ⟨["parent", "id", "owner_code"],
        [[.int 7, .int 3, .int 7], [.int 8, .int 2, .int 8]]⟩ := by
  intro child
  have parents : owner ∈ schema.models := by simp [schema]
  have rooted : noteTable ∈ schema.tables := by simp [schema]
  have direct : child.Direct noteTable.name := ⟨⟨_, rfl⟩, rfl, rfl⟩
  have avoids : child.Avoids owner.table.name := by
    constructor
    · intro e none
      cases none
    · intro term member c named
      rw [List.mem_singleton.mp member] at named
      rw [List.mem_singleton.mp named]
      decide
  have present : owner.table.hasColumn keys.primaryKey = true := by decide
  have distinct : ∀ other ∈ [note.table, noteTable], other.columnNames.Nodup := by decide
  have fresh : keys.foreignKeyAlias ∉ note.choice.header noteTable.columnNames := by decide
  obtain ⟨⟨rows, owners, answered⟩, _⟩ := Relation.perParent_answers_each_parent built reached
    parents rooted direct rfl avoids (by decide) (by decide) present distinct fresh (some 1)
  have stored : session.engine.store.database owner.table.name = some ⟨owner.table.columnNames,
      [[.int 1, .int 7], [.int 2, .null], [.int 3, .int 8]]⟩ := by
    rw [engine_eq]
    rfl
  rw [stored] at owners
  cases owners
  rw [answered, engine_eq]
  have newest : ∀ key, (child.pointingTo keys key (some 1)).query =
      { (child.pointingTo keys key none).query with limit := some (.const (.int 1)) } :=
    fun _ => rfl
  have first : (child.pointingTo keys (.int 7) (some 1)).query.answer engine.store.database =
      .ok ⟨["id", "owner_code"], [[.int 3, .int 7]]⟩ := by
    rw [newest]
    cbv
  have second : (child.pointingTo keys .null (some 1)).query.answer engine.store.database =
      .ok ⟨["id", "owner_code"], []⟩ := by
    rw [newest]
    cbv
  have third : (child.pointingTo keys (.int 8) (some 1)).query.answer engine.store.database =
      .ok ⟨["id", "owner_code"], [[.int 2, .int 8]]⟩ := by
    rw [newest]
    cbv
  have keyOf : ∀ id key, cellOf owner.table.columnNames [id, key] keys.primaryKey = key :=
    fun _ _ => rfl
  simp only [List.mapM_cons, List.mapM_nil, keyOf, first, second, third]
  rfl

end Sample

end Relata
