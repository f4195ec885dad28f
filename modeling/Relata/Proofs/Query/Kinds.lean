import Relata.Proofs.Query.Reach
import Relata.Proofs.Store.Order

/-!
Kinds of values. A column holds nulls and values of one kind, and so does everything that is computed
from columns: two values that a query has in one place of two rows are of one kind, or one of them is
null. Rows in reach that are alike in this sense give alike answers.
-/

namespace Relata

/-- One of them is null, or they are of one kind. -/
def Value.Alike (v w : Value) : Prop := v ≠ .null → w ≠ .null → v.kind = w.kind

/-- Rows of one shape with alike values in each column. -/
structure Binding.Alike (binding other : Binding) : Prop where
  shape : binding.shape = other.shape
  values : List.Forall₂ Value.Alike binding.values other.values

def Env.Alike (env other : Env) : Prop := List.Forall₂ (List.Forall₂ Binding.Alike) env other

/-- Any two of their rows have alike values in the same columns. -/
def Joined.Alike (joined other : Joined) : Prop :=
  ∀ row ∈ joined.rows, ∀ row' ∈ other.rows, List.Forall₂ Binding.Alike row row'

/-- The same for the rows of two answers. -/
def Rowset.Alike (rowset other : Rowset) : Prop :=
  ∀ row ∈ rowset.rows, ∀ row' ∈ other.rows, List.Forall₂ Value.Alike row row'

/-- Each column has nulls and values of one kind. -/
def Rowset.Uniform (rowset : Rowset) : Prop := rowset.Alike rowset

def Database.Uniform (db : Database) : Prop := ∀ name rowset, db name = some rowset → rowset.Uniform

variable {db : Database} {env other outer outer' : Env} {v w : Value}

namespace Value

theorem alike_refl (v : Value) : v.Alike v := fun _ _ => rfl

theorem Alike.symm (alike : v.Alike w) : w.Alike v :=
  fun second first => (alike first second).symm

theorem null_alike (v : Value) : Value.null.Alike v := fun present => absurd rfl present

theorem alike_null (v : Value) : v.Alike .null := fun _ present => absurd rfl present

theorem truth_alike (t t' : Truth) : t.value.Alike t'.value := by
  cases t <;> cases t' <;> simp [Alike, Truth.value, kind]

theorem alikes_refl (values : List Value) : List.Forall₂ Alike values values :=
  List.forall₂_same.mpr fun v _ => v.alike_refl

end Value

theorem Env.alike_refl (env : Env) : env.Alike env :=
  List.forall₂_same.mpr fun _ _ => List.forall₂_same.mpr fun binding _ =>
    ⟨rfl, Value.alikes_refl binding.values⟩

theorem Binding.Alike.value {binding binding' : Binding} {column : String}
    (near : binding.Alike binding') (found : binding.value column = .ok v)
    (found' : binding'.value column = .ok w) : v.Alike w := by
  rw [Binding.value] at found found'
  rw [← near.shape] at found'
  cases place : binding.shape.columns.idxOf? column with
  | none =>
      rw [place] at found
      cases found
  | some i =>
      rw [place] at found found'
      cases found
      cases found'
      by_cases inside : i < binding.values.length
      · have inside' : i < binding'.values.length := near.values.length_eq ▸ inside
        rw [List.getElem?_eq_getElem inside, List.getElem?_eq_getElem inside']
        exact near.values.get inside inside'
      · rw [List.getElem?_eq_none (Nat.le_of_not_lt inside)]
        exact Value.null_alike _

/-- Alike rows bind the same qualifiers, to alike values. -/
theorem Frame.binding?_alike {row row' : Frame} (near : List.Forall₂ Binding.Alike row row')
    (qualifier : String) :
    Option.Rel Binding.Alike (row.binding? qualifier) (row'.binding? qualifier) := by
  induction near with
  | nil => exact .none
  | @cons binding binding' row row' first rest ih =>
      rw [Frame.binding?, Frame.binding?, List.find?_cons, List.find?_cons, ← first.shape]
      split
      · exact .some first
      · exact ih

theorem Env.Alike.value {c : ColumnRef} (near : env.Alike other) (found : env.value c = .ok v)
    (found' : other.value c = .ok w) : v.Alike w := by
  induction near with
  | nil => cases found
  | @cons row row' env other first rest ih =>
      have bound := Frame.binding?_alike first c.table.qualifier
      rw [Env.value] at found found'
      generalize row.binding? c.table.qualifier = here, row'.binding? c.table.qualifier = here'
        at found found' bound
      cases bound with
      | none => exact ih found found'
      | some both => exact both.value found found'

/-- The expression asks whether something holds. -/
def Expr.IsTest : Expr → Prop
  | .column _ | .grouping _ | .const _ => False
  | .and _ | .or _ | .compare .. | .inList .. | .isNull .. | .not _ => True

theorem Expr.eval_test {e : Expr} (computed : e.eval env = .ok v) (test : e.IsTest) :
    ∃ t : Truth, t.value = v := by
  cases e with
  | column | grouping | const => cases test
  | and operands | or operands =>
      obtain ⟨t, _, computed⟩ := bind_eq_ok.mp computed
      exact ⟨t, Except.ok.inj computed⟩
  | compare op lhs rhs =>
      obtain ⟨_, _, computed⟩ := bind_eq_ok.mp computed
      obtain ⟨_, _, computed⟩ := bind_eq_ok.mp computed
      obtain ⟨t, _, computed⟩ := bind_eq_ok.mp computed
      exact ⟨t, Except.ok.inj computed⟩
  | inList e items =>
      obtain ⟨u, _, computed⟩ := bind_eq_ok.mp computed
      split at computed
      · cases computed
        split
        · exact ⟨some false, rfl⟩
        · exact ⟨none, rfl⟩
      · obtain ⟨t, _, computed⟩ := bind_eq_ok.mp computed
        exact ⟨t, Except.ok.inj computed⟩
  | isNull negated e =>
      obtain ⟨u, _, computed⟩ := bind_eq_ok.mp computed
      exact ⟨some (u.isNull != negated), Except.ok.inj computed⟩
  | not e =>
      obtain ⟨_, _, computed⟩ := bind_eq_ok.mp computed
      obtain ⟨t, _, computed⟩ := bind_eq_ok.mp computed
      exact ⟨t.not, Except.ok.inj computed⟩

theorem Expr.eval_alike {e : Expr} (near : env.Alike other) (computed : e.eval env = .ok v)
    (computed' : e.eval other = .ok w) : v.Alike w := by
  induction e using Expr.induction with
  | column c => exact near.value computed computed'
  | const u =>
      cases computed
      cases computed'
      exact Value.alike_refl _
  | grouping e ih => exact ih computed computed'
  | and | or | compare | inList | isNull | not =>
      obtain ⟨t, rfl⟩ := Expr.eval_test computed trivial
      obtain ⟨t', rfl⟩ := Expr.eval_test computed' trivial
      exact Value.truth_alike t t'

/-- The values of an item: one for an expression, those of a row for all columns of a source. -/
theorem SelectItem.values_alike {row row' : Frame} {item : SelectItem} {values values' : List Value}
    (near : Env.Alike (row :: outer) (row' :: outer')) (computed : item.values row outer = .ok values)
    (computed' : item.values row' outer' = .ok values') : List.Forall₂ Value.Alike values values' := by
  cases item with
  | expr e | aliased e _ =>
      obtain ⟨v, evaluated, computed⟩ := bind_eq_ok.mp computed
      obtain ⟨w, evaluated', computed'⟩ := bind_eq_ok.mp computed'
      cases computed
      cases computed'
      exact .cons (Expr.eval_alike near evaluated evaluated') .nil
  | wildcard ref =>
      cases near with
      | cons frames _ =>
          have bound := Frame.binding?_alike frames ref.qualifier
          rw [SelectItem.values] at computed computed'
          generalize row.binding? ref.qualifier = here, row'.binding? ref.qualifier = here'
            at computed computed' bound
          cases bound with
          | none => cases computed
          | some both =>
              cases computed
              cases computed'
              exact both.values

theorem sortKeys_alike {terms : List OrderTerm} {keys keys' : List Value} (near : env.Alike other)
    (computed : sortKeys env terms = .ok keys) (computed' : sortKeys other terms = .ok keys') :
    List.Forall₂ Value.Alike keys keys' := by
  have each : ∀ (term : OrderTerm) v w, term.expr.eval env = .ok v → term.expr.eval other = .ok w →
      v.Alike w := fun _ _ _ => Expr.eval_alike near
  exact forall₂_of_common each (forall₂_of_mapM computed) (forall₂_of_mapM computed')

theorem project_alike {items : List SelectItem} {joined joined' : Joined} {answer answer' : Rowset}
    (near : outer.Alike outer') (rows : joined.Alike joined')
    (done : project outer items joined = .ok answer)
    (done' : project outer' items joined' = .ok answer') : answer.Alike answer' := by
  obtain ⟨_, _, done⟩ := bind_eq_ok.mp done
  obtain ⟨_, computed, done⟩ := bind_eq_ok.mp done
  cases done
  obtain ⟨_, _, done'⟩ := bind_eq_ok.mp done'
  obtain ⟨_, computed', done'⟩ := bind_eq_ok.mp done'
  cases done'
  intro values member values' member'
  obtain ⟨row, present, answered⟩ := exists_of_mem_mapM computed values member
  obtain ⟨parts, each, answered⟩ := bind_eq_ok.mp answered
  cases answered
  obtain ⟨row', present', answered'⟩ := exists_of_mem_mapM computed' values' member'
  obtain ⟨parts', each', answered'⟩ := bind_eq_ok.mp answered'
  cases answered'
  have inside : Env.Alike (row :: outer) (row' :: outer') := .cons (rows row present row' present') near
  have pieces : ∀ item values values', SelectItem.values row outer item = .ok values →
      SelectItem.values row' outer' item = .ok values' → List.Forall₂ Value.Alike values values' :=
    fun _ _ _ => SelectItem.values_alike inside
  exact List.rel_flatten (forall₂_of_common pieces (forall₂_of_mapM each) (forall₂_of_mapM each'))

theorem extendRow_alike {kind : JoinKind} {condition : Expr} {qualifier : String} {row row' : Frame}
    {right right' : Rowset} {extended extended' : List Frame}
    (near : List.Forall₂ Binding.Alike row row') (candidates : right.Alike right')
    (columns : right.columns = right'.columns) (width : right.Rectangular) (width' : right'.Rectangular)
    (done : extendRow outer kind condition ⟨qualifier, right.columns⟩ row right.rows = .ok extended)
    (done' : extendRow outer' kind condition ⟨qualifier, right'.columns⟩ row' right'.rows =
      .ok extended') :
    ∀ longer ∈ extended, ∀ longer' ∈ extended', List.Forall₂ Binding.Alike longer longer' := by
  intro longer member longer' member'
  obtain ⟨values, rfl, origin⟩ := mem_extendRow done member
  obtain ⟨values', rfl, origin'⟩ := mem_extendRow done' member'
  have alike : List.Forall₂ Value.Alike values values' := by
    rcases origin with candidate | rfl
    · rcases origin' with candidate' | rfl
      · exact candidates values candidate values' candidate'
      · rw [List.forall₂_map_right_iff, List.forall₂_iff_zip, ← columns]
        exact ⟨width values candidate, fun _ => Value.alike_null _⟩
    · rw [List.forall₂_map_left_iff, List.forall₂_iff_zip]
      refine ⟨?_, fun _ => Value.null_alike _⟩
      rcases origin' with candidate' | rfl
      · rw [columns, width' values' candidate']
      · rw [List.length_map, columns]
  exact List.rel_append near (.cons ⟨by rw [columns], alike⟩ .nil)

mutual

theorem Query.run_alike (rectangular : db.Rectangular) (uniform : db.Uniform) : ∀ (query : Query)
    {outer outer' : Env} {headerOnly headerOnly' : Bool} {answer answer' : Rowset},
    outer.Alike outer' → query.run db outer headerOnly = .ok answer →
    query.run db outer' headerOnly' = .ok answer' → answer.Alike answer'
  | ⟨items, source, joins, filter, order, limit⟩, outer, outer', _, _, answer, answer', near, done,
      done' => by
    obtain ⟨joined, cut, extended, among, done⟩ := Query.run_cases done
    obtain ⟨joined', cut', extended', among', done'⟩ := Query.run_cases done'
    have rows : joined.Alike joined' := Query.joined_alike rectangular uniform _ near extended extended'
    exact project_alike near
      (fun row member row' member' => rows row (among row member) row' (among' row' member')) done done'

theorem Query.joined_alike (rectangular : db.Rectangular) (uniform : db.Uniform) : ∀ (query : Query)
    {outer outer' : Env} {joined joined' : Joined},
    outer.Alike outer' → query.joined db outer = .ok joined →
    query.joined db outer' = .ok joined' → joined.Alike joined'
  | ⟨items, source, joins, filter, order, limit⟩, outer, outer', joined, joined', near, done,
      done' => by
    obtain ⟨base, read, done⟩ := bind_eq_ok.mp done
    obtain ⟨base', read', done'⟩ := bind_eq_ok.mp done'
    have heading := (Source.read_heading rectangular source read).1
    rw [(Source.read_heading rectangular source read').1] at heading
    have columns : base'.columns = base.columns := Except.ok.inj heading
    have rows := Source.read_alike rectangular uniform source near read read'
    refine joinAll_alike rectangular uniform joins near ?_ done done'
    intro row member row' member'
    obtain ⟨values, stored, rfl⟩ := List.mem_map.mp member
    obtain ⟨values', stored', rfl⟩ := List.mem_map.mp member'
    exact .cons ⟨by rw [columns], rows values stored values' stored'⟩ .nil

theorem Source.read_alike (rectangular : db.Rectangular) (uniform : db.Uniform) : ∀ (source : Source)
    {env env' : Env} {right right' : Rowset}, env.Alike env' → source.read db env = .ok right →
    source.read db env' = .ok right' → right.Alike right'
  | .table (.table name _), env, env', right, right', near, read, read' => by
    rw [Source.read] at read read'
    cases found : db name with
    | none =>
        rw [found] at read
        cases read
    | some stored =>
        rw [found] at read read'
        cases read
        cases read'
        exact uniform name _ found
  | .table (.derived name), env, env', right, right', near, read, read' => by
    rw [Source.read] at read
    cases read
  | .subquery lateral query aliasName, env, env', right, right', near, read, read' => by
    rw [Source.read] at read read'
    exact Query.run_alike rectangular uniform query near read read'

theorem joinAll_alike (rectangular : db.Rectangular) (uniform : db.Uniform) : ∀ (joins : List Join)
    {outer outer' : Env} {before before' after after' : Joined}, outer.Alike outer' →
    before.Alike before' → joinAll db outer joins before = .ok after →
    joinAll db outer' joins before' = .ok after' → after.Alike after'
  | [], outer, outer', before, before', after, after', near, rows, done, done' => by
    rw [joinAll] at done done'
    cases done
    cases done'
    exact rows
  | ⟨kind, source, condition⟩ :: rest, outer, outer', before, before', after, after', near, rows, done,
      done' => by
    obtain ⟨columns, groups, _, each, done⟩ := joinAll_cons done
    obtain ⟨columns', groups', _, each', done'⟩ := joinAll_cons done'
    refine joinAll_alike rectangular uniform rest near ?_ done done'
    intro longer member longer' member'
    obtain ⟨group, grouped, inside⟩ := List.mem_flatten.mp member
    obtain ⟨row, present, right, read, extended⟩ := exists_of_mem_forall₂ each grouped
    obtain ⟨group', grouped', inside'⟩ := List.mem_flatten.mp member'
    obtain ⟨row', present', right', read', extended'⟩ := exists_of_mem_forall₂ each' grouped'
    have frames := rows row present row' present'
    have around : Env.Alike (Join.around ⟨kind, source, condition⟩ row outer)
        (Join.around ⟨kind, source, condition⟩ row' outer') := by
      rw [Join.around, Join.around]
      split
      · exact .cons frames near
      · exact near
    obtain ⟨heading, width⟩ := Source.read_heading rectangular source read
    obtain ⟨heading', width'⟩ := Source.read_heading rectangular source read'
    have same : right.columns = right'.columns := Except.ok.inj (heading.symm.trans heading')
    have candidates := Source.read_alike rectangular uniform source around read read'
    exact extendRow_alike frames candidates same width width' extended extended' longer inside longer'
      inside'

end

theorem Store.Sound.uniform {store : Store} (sound : store.Sound) : store.database.Uniform := by
  intro name rowset found row member row' member'
  obtain ⟨table, stored, rfl⟩ := Option.map_eq_some_iff.mp found
  have typed := (sound.table? stored).rows
  exact forall₂_of_common (fun column v w left right => left.kind_eq right)
    (typed row member) (typed row' member')

end Relata
