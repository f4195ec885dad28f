import Relata.Proofs.Relation.Correlated
import Relata.Relation.Associated

/-!
Children of all parents in one query. Where the child's conditions do not see the parent, the query
answers what the child's queries for each key answer, one after the other in the order of the parents.
-/

namespace Relata

/-- The rows of the relation that point at the keys of the rows, each behind its key. -/
def Relation.eachPointing (child : Relation) (keys : KeyMapping) (limit : Option Nat)
    (db : Database) (base : Rowset) : Except Fault (List (List (List Value))) :=
  base.rows.mapM fun row => do
    let key := cellOf base.columns row keys.primaryKey
    let answer ← (child.pointingTo keys key limit).query.answer db
    return answer.rows.map (key :: ·)

/-- The children of each row of the parent, each behind the row's key. -/
def Relation.eachChild (child : Relation) (parent : Model) (keys : KeyMapping) (limit : Option Nat)
    (db : Database) (base : Rowset) : Except Fault (List (List (List Value))) :=
  base.rows.mapM fun row => do
    let answer ← child.childrenAt parent keys limit db base.columns row
    return answer.rows.map (cellOf base.columns row keys.primaryKey :: ·)

theorem Association.children_model (association : Association) (owner target : Model) :
    (association.children owner target).model = target := by
  rw [Association.children]
  split
  · exact target.all.refine_model association.scope
  · exact target.all.refine_model association.scope

theorem Relation.perParent_model (child : Relation) (parent : Model) (keys : KeyMapping)
    (limit : Option Nat) : (child.perParent parent keys limit).model = child.model := by
  unfold Relation.perParent
  split <;> rfl

/-- A relation that is left of the children of all rows of the owner by a condition on their keys. -/
inductive Association.Selects (association : Association) (owner target : Model) : Relation → Prop
  | restricted (condition : Expr) (limit : Option Nat)
    (keyed : ∀ c ∈ condition.columns, c ∈ (((association.children owner target).perParent owner
      association.keys association.limit).column association.keys.foreignKeyAlias).columns) :
    Selects association owner target
      { ((association.children owner target).perParent owner association.keys association.limit).restrict
        condition with limit }

theorem Association.Selects.model_eq {association : Association} {owner target : Model} {relation : Relation}
    (selects : association.Selects owner target relation) : relation.model = target := by
  obtain ⟨condition, limit, _⟩ := selects
  exact ((association.children owner target).perParent_model owner association.keys association.limit).trans
    (association.children_model owner target)

namespace Relation

variable {db : Database} {child : Relation} {parent : Model} {keys : KeyMapping}
  {limit : Option Nat} {name : String} {base stored : Rowset}

theorem perParent_reads (child : Relation) (parent : Model) (keys : KeyMapping)
    (limit : Option Nat) :
    (child.perParent parent keys limit).Reads
      (.subquery false (child.besideParent parent keys limit).query child.table.name)
      (child.model.choice.withFirst keys.foreignKeyAlias) := by
  unfold perParent Model.choice
  by_cases ignores : child.model.hasIgnored = true
  · simp only [ignores, if_true]
    refine ⟨rfl, rfl, ?_⟩
    rw [Choice.withFirst, Choice.items, List.map_cons, List.map_map]
    rfl
  · simp only [ignores]
    refine ⟨rfl, rfl, ?_⟩
    simp [Choice.withFirst, Choice.items, query, fromDerived, Model.all, defaultItems, ignores]

theorem perParent_bare (child : Relation) (parent : Model) (keys : KeyMapping)
    (limit : Option Nat) :
    (child.perParent parent keys limit).joins = [] ∧
      (child.perParent parent keys limit).filter = none ∧
      (child.perParent parent keys limit).order = [] ∧
      (child.perParent parent keys limit).limit = none := by
  unfold perParent
  split <;> exact ⟨rfl, rfl, rfl, rfl⟩

theorem perParent_error {relation : Relation} {e : Fault}
    (beside : (child.besideParent parent keys limit).query.run db [] false = .error e)
    (same : relation.query.source = (child.perParent parent keys limit).query.source) :
    relation.query.answer db = .error e := by
  have source := (child.perParent_reads parent keys limit).origin
  rw [Query.answer, Query.run_eq, Query.joined, same, source, Source.read, beside]
  rfl

/-- The columns of the child's rows do not depend on the parents. -/
theorem columns_of_lateralColumns (direct : child.Direct name) (found : db name = some stored)
    {columns names : List String} {rights : List Rowset}
    (answered : base.rows.mapM (child.childrenAt parent keys limit db columns) = .ok rights)
    (done : lateralColumns db
      (child.correlated (parent.all.column keys.primaryKey) keys limit).query rights = .ok names) :
    names = child.model.choice.header stored.columns := by
  have correlated := direct.correlated keys limit (parent.all.column keys.primaryKey)
  have model : (child.correlated (parent.all.column keys.primaryKey) keys limit).model =
      child.model := by rw [correlated_eq]; rfl
  have reads := correlated.reads
  rw [model] at reads
  cases rights with
  | nil =>
      obtain ⟨answer, header, done⟩ := bind_eq_ok.mp done
      cases done
      exact reads.columns_eq (correlated.read [] found) header
  | cons right rest =>
      cases done
      obtain ⟨row, _, done⟩ := exists_of_mem_mapM answered right (by simp)
      exact reads.columns_eq (correlated.read _ found) done

theorem lateralColumns_eq (direct : child.Direct name) (single : child.joins = [])
    (found : db name = some stored) {columns : List String} {rights : List Rowset}
    (answered : base.rows.mapM (child.childrenAt parent keys limit db columns) = .ok rights) :
    lateralColumns db (child.correlated (parent.all.column keys.primaryKey) keys limit).query rights =
      .ok (child.model.choice.header stored.columns) := by
  have correlated := direct.correlated keys limit (parent.all.column keys.primaryKey)
  have joins : (child.correlated (parent.all.column keys.primaryKey) keys limit).joins = [] := by
    rw [correlated_eq]
    exact single
  obtain ⟨names, done⟩ : ∃ names, lateralColumns db
      (child.correlated (parent.all.column keys.primaryKey) keys limit).query rights = .ok names := by
    cases rights with
    | nil =>
        rw [lateralColumns, correlated.reads.run_header (correlated.read [] found),
          correlated.reads.joined_single joins (correlated.read [] found)]
        exact ⟨_, rfl⟩
    | cons right rest => exact ⟨_, rfl⟩
  rw [done, columns_of_lateralColumns direct found answered done]

theorem eachPointing_eq (direct : child.Direct name) (single : child.joins = [])
    (found : db name = some stored) (avoids : child.Avoids parent.table.name)
    (apart : child.table.qualifier ≠ parent.table.name)
    (present : keys.primaryKey ∈ base.columns) :
    child.eachPointing keys limit db base = child.eachChild parent keys limit db base := by
  refine mapM_congr fun row _ => ?_
  rw [childrenAt_eq direct single found avoids apart present]

theorem besideParent_eachChild (limit : Option Nat) (parents : db parent.table.name = some base)
    (direct : child.Direct name) (single : child.joins = []) (found : db name = some stored)
    (unlike : parent.table.name ≠ lateralName) (present : keys.primaryKey ∈ base.columns) :
    (child.besideParent parent keys limit).query.run db [] false = (do
      return ⟨keys.foreignKeyAlias :: child.model.choice.header stored.columns,
        (← child.eachChild parent keys limit db base).flatten⟩) := by
  rw [besideParent_run parents present, eachChild,
    mapM_bind_pure (child.childrenAt parent keys limit db base.columns)
      fun row answer => answer.rows.map (cellOf base.columns row keys.primaryKey :: ·)]
  cases answered : base.rows.mapM (child.childrenAt parent keys limit db base.columns) with
  | error e => rfl
  | ok rights =>
      rw [ok_bind, lateralColumns_eq direct single found answered, ok_bind, ok_bind]
      simp only [Model.beside, if_neg unlike, List.flatMap_def]
      rfl

theorem besideParent_answer (limit : Option Nat) (parents : db parent.table.name = some base)
    (direct : child.Direct name) (single : child.joins = []) (found : db name = some stored)
    (avoids : child.Avoids parent.table.name) (apart : child.table.qualifier ≠ parent.table.name)
    (unlike : parent.table.name ≠ lateralName) (present : keys.primaryKey ∈ base.columns) :
    (child.besideParent parent keys limit).query.run db [] false = (do
      return ⟨keys.foreignKeyAlias :: child.model.choice.header stored.columns,
        (← child.eachPointing keys limit db base).flatten⟩) := by
  rw [besideParent_eachChild limit parents direct single found unlike present,
    eachPointing_eq direct single found avoids apart present]

/-- Behind each key stands a row that the child chose. -/
theorem exists_of_mem_eachPointing (direct : child.Direct name) (found : db name = some stored)
    {groups : List (List (List Value))} (done : child.eachPointing keys limit db base = .ok groups) :
    ∀ row ∈ groups.flatten, ∃ owner ∈ base.rows, ∃ picks binding,
      row = cellOf base.columns owner keys.primaryKey :: picks ∧
        child.model.choice.pick binding = .ok picks := by
  intro row member
  obtain ⟨group, present, member⟩ := List.mem_flatten.mp member
  obtain ⟨owner, stored, answered⟩ := exists_of_mem_mapM done group present
  obtain ⟨answer, pointing, answered⟩ := bind_eq_ok.mp answered
  cases answered
  obtain ⟨picks, picked, rfl⟩ := List.mem_map.mp member
  have reads := (direct.pointingTo keys limit (cellOf base.columns owner keys.primaryKey)).reads
  obtain ⟨values, _, picked⟩ := reads.picked_of_mem (direct.read [] found) pointing picks picked
  exact ⟨owner, stored, picks, _, rfl, picked⟩

theorem perParent_answer (parents : db parent.table.name = some base)
    (direct : child.Direct name) (single : child.joins = []) (found : db name = some stored)
    (avoids : child.Avoids parent.table.name) (apart : child.table.qualifier ≠ parent.table.name)
    (unlike : parent.table.name ≠ lateralName) (present : keys.primaryKey ∈ base.columns)
    (distinct : (child.model.choice.header stored.columns).Nodup)
    (fresh : keys.foreignKeyAlias ∉ child.model.choice.header stored.columns) :
    (child.perParent parent keys limit).query.answer db =
      (child.besideParent parent keys limit).query.run db [] false := by
  have reads := child.perParent_reads parent keys limit
  obtain ⟨joins, filter, order, limits⟩ := child.perParent_bare parent keys limit
  cases beside : (child.besideParent parent keys limit).query.run db [] false with
  | error e => exact perParent_error beside rfl
  | ok answer =>
      have read : (Source.subquery false (child.besideParent parent keys limit).query
          child.table.name).read db [] = .ok answer := by rw [Source.read, beside]
      rw [besideParent_answer limit parents direct single found avoids apart unlike present] at beside
      obtain ⟨groups, each, beside⟩ := bind_eq_ok.mp beside
      cases beside
      have whole : ∀ row ∈ groups.flatten, (child.model.choice.withFirst keys.foreignKeyAlias).pick
          ⟨⟨(child.perParent parent keys limit).table.qualifier,
            keys.foreignKeyAlias :: child.model.choice.header stored.columns⟩, row⟩ = .ok row := by
        intro row member
        obtain ⟨owner, _, picks, binding, rfl, picked⟩ :=
          exists_of_mem_eachPointing direct found each row member
        exact Choice.pick_withFirst _ picked distinct fresh
      have rows : groups.flatten.mapM (fun row =>
          (child.model.choice.withFirst keys.foreignKeyAlias).pick
            ⟨⟨(child.perParent parent keys limit).table.qualifier,
              keys.foreignKeyAlias :: child.model.choice.header stored.columns⟩, row⟩) =
          .ok groups.flatten :=
        (mapM_eq_ok_map whole).trans (congrArg Except.ok (List.map_id' _))
      rw [Query.answer, reads.run_single joins read, filter, order, limits, filterRows, ok_bind,
        sortRows_nil, ok_bind, cutTo, Rowset.frames, List.mapM_map]
      simp only [Function.comp_def, Choice.pickRow, rows, Choice.header_withFirst, Choice.header_header]
      rfl

end Relation

end Relata
