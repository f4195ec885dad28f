import Relata.Proofs.Relation.PerParent
import Relata.Proofs.Store.Order

/-!
Children by key. The rows of all parents carry their parent's key in front; a condition on that column
keeps the rows of one parent, or of several, in their order.
-/

namespace Relata

variable {env : Env} {c : ColumnRef} {value key : Value} {column : Column}

theorem evalMember_const (keys : List Value) (typed : value ≠ .null) (present : .null ∉ keys) :
    evalMember env value (keys.map .const) = .ok (some (keys.contains value)) := by
  induction keys with
  | nil => rfl
  | cons key rest ih =>
      rw [List.mem_cons, not_or] at present
      have others := ih present.2
      have decided : value.equals key = some (value == key) :=
        Value.equals_eq typed (Ne.symm present.1)
      rw [List.map_cons, evalMember, Expr.eval, ok_bind, decided, others]
      by_cases same : value = key
      · simp [same]
        rfl
      · have different : (value == key) = false := beq_false_of_ne same
        rw [List.contains_cons, different, Bool.false_or]
        exact congrArg Except.ok (Truth.false_or _)

theorem keeps_equal (read : env.value c = .ok value) (left : column.Takes value)
    (right : column.Takes key) (present : key ≠ .null) :
    (Expr.compare .eq (.column c) (.const key)).keeps env = .ok (value == key) := by
  have truth : (Expr.compare .eq (.column c) (.const key)).truth env = .ok (value.equals key) := by
    rw [Expr.truth_eq_ok, Expr.eval, Expr.eval, read, ok_bind, Expr.eval, ok_bind,
      left.apply_eq right]
    rfl
  rw [Expr.keeps_of_truth truth, Value.keeps_equals present]

theorem keeps_member {keys : List Value} (read : env.value c = .ok value)
    (present : .null ∉ keys) :
    (Expr.inList (.column c) (keys.map .const)).keeps env = .ok (keys.contains value) := by
  by_cases absent : value = .null
  · have outside : keys.contains value = false := by
      subst absent
      simpa using present
    rw [outside]
    cases keys <;> simp [Expr.keeps, Expr.eval, read, absent, Value.isNull, pure, Except.pure]
  · have truth : (Expr.inList (.column c) (keys.map .const)).truth env =
        .ok (some (keys.contains value)) := by
      have nonnull : value.isNull = false :=
        Bool.eq_false_iff.mpr fun null => absent (Value.isNull_iff.mp null)
      rw [Expr.truth_eq_ok, Expr.eval, Expr.eval, read, ok_bind, nonnull,
        evalMember_const keys absent present]
      rfl
    rw [Expr.keeps_of_truth truth, Truth.keeps]

theorem Relation.Reads.restrict_answer {db : Database} {relation : Relation} {source : Source}
    {choice : Choice} {stored : Rowset} (reads : relation.Reads source choice)
    (found : source.read db [] = .ok stored) (single : relation.joins = [])
    (unordered : relation.order = []) (unfiltered : relation.filter = none) (condition : Expr)
    (limit : Option Nat) (p : List Value → Bool)
    (decides : ∀ row ∈ stored.rows,
      condition.keeps [[⟨⟨relation.table.qualifier, stored.columns⟩, row⟩]] = .ok (p row)) :
    ({ relation.restrict condition with limit } : Relation).query.answer db = (do
      return ⟨choice.header stored.columns, ← (cutTo limit (stored.rows.filter p)).mapM fun row =>
        choice.pick ⟨⟨relation.table.qualifier, stored.columns⟩, row⟩⟩) := by
  have same : ({ relation.restrict condition with limit } : Relation).Reads source choice :=
    ⟨reads.origin, reads.qualifier, reads.items⟩
  have rows : filterRows [] (some condition) (stored.frames relation.table.qualifier) =
      .ok ((stored.rows.filter p).map fun row =>
        [⟨⟨relation.table.qualifier, stored.columns⟩, row⟩]) := by
    have each : ∀ frame ∈ stored.frames relation.table.qualifier,
        condition.keeps [frame] = .ok (frame.all fun binding => p binding.values) := by
      intro frame member
      obtain ⟨row, present, rfl⟩ := List.mem_map.mp member
      rw [decides row present, List.all_cons, List.all_nil, Bool.and_true]
    rw [filterRows, keepRows_eq_ok each, Rowset.frames, List.filter_map]
    simp only [Function.comp_def, List.all_cons, List.all_nil, Bool.and_true]
  have filter : (relation.restrict condition).filter = some condition := by
    rw [Relation.restrict, unfiltered, addCondition]
  rw [Query.answer, same.run_single single found]
  simp only [filter]
  simp only [Relation.restrict, unordered]
  rw [rows, ok_bind, sortRows_nil, ok_bind, cutTo_map, List.mapM_map]
  rfl

/-- The first column has this name, and its values are values of the column. -/
structure Rowset.KeyedBy (rowset : Rowset) (name : String) (column : Column) : Prop where
  columns : ∃ others, rowset.columns = name :: others
  rows : ∀ row ∈ rowset.rows, ∃ key rest, row = key :: rest ∧ column.Takes key

namespace Relation

variable {db : Database} {child : Relation} {parent : Model} {keys : KeyMapping}
  {limit : Option Nat} {answer : Rowset}

theorem value_alias (child : Relation) (parent : Model) (limit : Option Nat) {row : List Value}
    (keyed : answer.KeyedBy keys.foreignKeyAlias column)
    (member : row ∈ answer.rows) :
    ∃ key rest, row = key :: rest ∧ column.Takes key ∧
      Env.value [[⟨⟨child.table.name, answer.columns⟩, row⟩]]
        ((child.perParent parent keys limit).table.column keys.foreignKeyAlias) = .ok key := by
  obtain ⟨others, columns⟩ := keyed.columns
  obtain ⟨key, rest, rfl, takes⟩ := keyed.rows row member
  have table : (child.perParent parent keys limit).table = .derived child.table.name := by
    unfold perParent
    split <;> rfl
  have bound : Frame.binding? [⟨⟨child.table.name, answer.columns⟩, key :: rest⟩]
      child.table.name = some ⟨⟨child.table.name, answer.columns⟩, key :: rest⟩ := by
    simp [Frame.binding?]
  refine ⟨key, rest, rfl, takes, ?_⟩
  rw [table]
  refine (Env.value_near bound).trans ?_
  rw [columns, TableRef.column, Binding.value_cell (by simp), cellOf, if_pos rfl]
  rfl

def childHeader (child : Relation) (keys : KeyMapping) (columns : List String) : List String :=
  (child.model.choice.withFirst keys.foreignKeyAlias).header columns

/-- The values that are computed of a child next to its parent's key. -/
def childRow (child : Relation) (keys : KeyMapping) (columns : List String) (row : List Value) :
    Except Fault (List Value) :=
  (child.model.choice.withFirst keys.foreignKeyAlias).pick ⟨⟨child.table.name, columns⟩, row⟩

theorem perParent_restrict
    (beside : (child.besideParent parent keys limit).query.run db [] false = .ok answer)
    (condition : Expr) (cut : Option Nat) (p : List Value → Bool)
    (decides : ∀ row ∈ answer.rows,
      condition.keeps [[⟨⟨child.table.name, answer.columns⟩, row⟩]] = .ok (p row)) :
    ({ (child.perParent parent keys limit).restrict condition with limit := cut } :
      Relation).query.answer db = (do
      return ⟨child.childHeader keys answer.columns,
        ← (cutTo cut (answer.rows.filter p)).mapM (child.childRow keys answer.columns)⟩) := by
  have reads := child.perParent_reads parent keys limit
  obtain ⟨joins, filter, order, _⟩ := child.perParent_bare parent keys limit
  have read : (Source.subquery false (child.besideParent parent keys limit).query
      child.table.name).read db [] = .ok answer := by rw [Source.read, beside]
  have qualifier : (child.perParent parent keys limit).table.qualifier = child.table.name :=
    reads.qualifier.symm
  have decided : ∀ row ∈ answer.rows, condition.keeps
      [[⟨⟨(child.perParent parent keys limit).table.qualifier, answer.columns⟩, row⟩]] =
      .ok (p row) := by
    rw [qualifier]
    exact decides
  have restricted := reads.restrict_answer read joins order filter condition cut p decided
  rw [qualifier] at restricted
  exact restricted

theorem perParent_whereEq
    (beside : (child.besideParent parent keys limit).query.run db [] false = .ok answer)
    (keyed : answer.KeyedBy keys.foreignKeyAlias column) (takes : column.Takes key)
    (present : key ≠ .null) (cut : Option Nat) :
    ({ (child.perParent parent keys limit).whereEq keys.foreignKeyAlias key with limit := cut } :
      Relation).query.answer db = (do
      return ⟨child.childHeader keys answer.columns,
        ← (cutTo cut (answer.rows.filter (·.headD .null == key))).mapM
          (child.childRow keys answer.columns)⟩) := by
  have nonnull : ¬ key.isNull = true := fun null => present (Value.isNull_iff.mp null)
  rw [whereEq, if_neg nonnull]
  refine perParent_restrict beside _ cut _ fun row member => ?_
  obtain ⟨value, rest, rfl, left, read⟩ := child.value_alias parent limit keyed member
  exact keeps_equal read left takes present

theorem perParent_whereIn {values : List Value}
    (beside : (child.besideParent parent keys limit).query.run db [] false = .ok answer)
    (keyed : answer.KeyedBy keys.foreignKeyAlias column) (present : .null ∉ values) :
    ((child.perParent parent keys limit).whereIn keys.foreignKeyAlias values).query.answer db = (do
      return ⟨child.childHeader keys answer.columns,
        ← (answer.rows.filter fun row => values.contains (row.headD .null)).mapM
          (child.childRow keys answer.columns)⟩) := by
  have unlimited := (child.perParent_bare parent keys limit).2.2.2
  have kept := perParent_restrict beside
    (.inList ((child.perParent parent keys limit).column keys.foreignKeyAlias) (values.map .const))
    none (fun row => values.contains (row.headD .null)) fun row member => by
      obtain ⟨value, rest, rfl, _, read⟩ := child.value_alias parent limit keyed member
      exact keeps_member read present
  rw [cutTo, ← unlimited] at kept
  exact kept

/-- What stands beside the parents: the key of a parent, then columns of one of the two sources. -/
theorem besideParent_keyedBy {base stored : Rowset} {name : String}
    (parents : db parent.table.name = some base) (present : keys.primaryKey ∈ base.columns)
    (direct : child.Direct name) (found : db name = some stored)
    (typed : ∀ row ∈ base.rows, column.Takes (cellOf base.columns row keys.primaryKey))
    (done : (child.besideParent parent keys limit).query.run db [] false = .ok answer) :
    answer.KeyedBy keys.foreignKeyAlias column ∧
      answer.columns = keys.foreignKeyAlias ::
        parent.beside base.columns (child.model.choice.header stored.columns) := by
  rw [besideParent_run parents present] at done
  obtain ⟨rights, answered, done⟩ := bind_eq_ok.mp done
  obtain ⟨columns, named, done⟩ := bind_eq_ok.mp done
  cases done
  have header := columns_of_lateralColumns direct found answered named
  subst header
  refine ⟨⟨⟨_, rfl⟩, fun row member => ?_⟩, rfl⟩
  obtain ⟨pair, paired, member⟩ := List.mem_flatMap.mp member
  obtain ⟨picks, _, rfl⟩ := List.mem_map.mp member
  exact ⟨_, _, rfl, typed pair.1 (List.of_mem_zip paired).1⟩

/-- Behind a key stand the children of the rows with that key. -/
theorem filter_eachChild {base own : Rowset} {groups : List (List (List Value))}
    (done : child.eachChild parent keys limit db base = .ok groups)
    (answered : ∀ row ∈ base.rows, cellOf base.columns row keys.primaryKey = key →
      child.childrenAt parent keys limit db base.columns row = .ok own) :
    groups.flatten.filter (·.headD .null == key) =
      (List.replicate ((base.rows.map (cellOf base.columns · keys.primaryKey)).count key)
        (own.rows.map (key :: ·))).flatten := by
  obtain ⟨columns, rows⟩ := base
  have pairs : List.Forall₂ _ rows groups := forall₂_of_mapM done
  clear done
  induction pairs with
  | nil => rfl
  | cons first rest ih =>
      rename_i row group rows groups
      obtain ⟨answer, found, first⟩ := bind_eq_ok.mp first
      cases first
      rw [List.flatten_cons, List.filter_append,
        ih fun other member => answered other (List.mem_cons_of_mem _ member), List.map_cons,
        List.count_cons]
      by_cases same : cellOf columns row keys.primaryKey = key
      · have equal : answer = own :=
          Except.ok.inj (found.symm.trans (answered row List.mem_cons_self same))
        have all : (own.rows.map (key :: ·)).filter (·.headD .null == key) =
            own.rows.map (key :: ·) := by
          refine List.filter_eq_self.mpr fun picks member => ?_
          obtain ⟨_, _, rfl⟩ := List.mem_map.mp member
          simp
        rw [same, equal, all, beq_self_eq_true, if_pos rfl, List.replicate_succ, List.flatten_cons]
      · have none : (answer.rows.map (cellOf columns row keys.primaryKey :: ·)).filter
            (·.headD .null == key) = [] := by
          refine List.filter_eq_nil_iff.mpr fun picks member => ?_
          obtain ⟨_, _, rfl⟩ := List.mem_map.mp member
          simpa using same
        have other : ¬ (cellOf columns row keys.primaryKey == key) = true := by simpa using same
        rw [none, if_neg other, List.nil_append, Nat.add_zero]

/-- The children of the one row of the parent with a key are what stands behind that key. -/
theorem perParent_one_parent {base stored own : Rowset} {name : String}
    {groups : List (List (List Value))}
    (parents : db parent.table.name = some base) (direct : child.Direct name)
    (single : child.joins = []) (found : db name = some stored)
    (unlike : parent.table.name ≠ lateralName) (present : keys.primaryKey ∈ base.columns)
    (distinct : (child.model.choice.header stored.columns).Nodup)
    (fresh : keys.foreignKeyAlias ∉ child.model.choice.header stored.columns)
    (typed : ∀ row ∈ base.rows, column.Takes (cellOf base.columns row keys.primaryKey))
    (takes : column.Takes key) (nonnull : key ≠ .null)
    (once : (base.rows.map (cellOf base.columns · keys.primaryKey)).count key = 1)
    (each : child.eachChild parent keys limit db base = .ok groups)
    (answered : ∀ row ∈ base.rows, cellOf base.columns row keys.primaryKey = key →
      child.childrenAt parent keys limit db base.columns row = .ok own) :
    ({ (child.perParent parent keys limit).whereEq keys.foreignKeyAlias key with limit } :
      Relation).query.answer db =
      .ok ⟨keys.foreignKeyAlias :: child.model.choice.header stored.columns,
        own.rows.map (key :: ·)⟩ := by
  have beside := besideParent_eachChild limit parents direct single found unlike present
  rw [each] at beside
  obtain ⟨keyed, _⟩ := besideParent_keyedBy parents present direct found typed beside
  obtain ⟨row, inside, cell⟩ := List.mem_map.mp (List.count_pos_iff.mp (by omega : 0 <
    (base.rows.map (cellOf base.columns · keys.primaryKey)).count key))
  have done := answered row inside cell
  have reads := (direct.correlated keys limit (parent.all.column keys.primaryKey)).reads
  have read := (direct.correlated keys limit (parent.all.column keys.primaryKey)).read
    [[parent.binding base.columns row]] found
  rw [childrenAt] at done
  rw [correlated_eq] at reads read done
  have within : cutTo limit own.rows = own.rows := by
    cases bounded : limit with
    | none => rfl
    | some count =>
        subst bounded
        exact reads.cutTo_rows read done
  have whole : (own.rows.map (key :: ·)).mapM (child.childRow keys
      (keys.foreignKeyAlias :: child.model.choice.header stored.columns)) =
      .ok (own.rows.map (key :: ·)) := by
    refine (mapM_eq_ok_map fun row member => ?_).trans (congrArg Except.ok (List.map_id' _))
    obtain ⟨picks, inside, rfl⟩ := List.mem_map.mp member
    obtain ⟨values, _, picked⟩ := reads.picked_of_mem read done picks inside
    exact Choice.pick_withFirst key picked distinct fresh
  rw [perParent_whereEq beside keyed takes nonnull limit, filter_eachChild each answered, once]
  simp only [List.replicate_one, List.flatten_singleton, cutTo_map, within, whole]
  rw [childHeader, Choice.header_withFirst, Choice.header_header]
  rfl

/-- The children of the one parent with a key are the rows that point at it. -/
theorem perParent_one_key {base stored : Rowset} {name : String}
    {groups : List (List (List Value))} {pointing : Rowset}
    (parents : db parent.table.name = some base) (direct : child.Direct name)
    (single : child.joins = []) (found : db name = some stored)
    (avoids : child.Avoids parent.table.name) (apart : child.table.qualifier ≠ parent.table.name)
    (unlike : parent.table.name ≠ lateralName) (present : keys.primaryKey ∈ base.columns)
    (distinct : (child.model.choice.header stored.columns).Nodup)
    (fresh : keys.foreignKeyAlias ∉ child.model.choice.header stored.columns)
    (typed : ∀ row ∈ base.rows, column.Takes (cellOf base.columns row keys.primaryKey))
    (takes : column.Takes key) (nonnull : key ≠ .null)
    (once : (base.rows.map (cellOf base.columns · keys.primaryKey)).count key = 1)
    (each : child.eachPointing keys limit db base = .ok groups)
    (answered : (child.pointingTo keys key limit).query.answer db = .ok pointing) :
    ({ (child.perParent parent keys limit).whereEq keys.foreignKeyAlias key with limit } :
      Relation).query.answer db =
      .ok ⟨keys.foreignKeyAlias :: child.model.choice.header stored.columns,
        pointing.rows.map (key :: ·)⟩ := by
  rw [eachPointing_eq direct single found avoids apart present] at each
  refine perParent_one_parent parents direct single found unlike present distinct fresh typed takes
    nonnull once each fun row _ cell => ?_
  rw [childrenAt_eq direct single found avoids apart present, cell, answered]

end Relation

end Relata
