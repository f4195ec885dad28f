import Relata.Proofs.Query.Headings

/-!
Columns that a query does not see. Two databases may differ in some columns of a table. As long as no expression
of a query names one of these columns, and no subquery passes them on under a name where an expression does, the
answers on both differ at most in columns that the query passes on as a whole.
-/

namespace Relata

/-- Some columns of a table, and the names under which rows with these columns are read. -/
structure Veil where
  table : String
  columns : List String
  names : List String

/-- Under the qualifier the column may be one of the veiled ones. -/
def Veil.Hides (veil : Veil) (qualifier column : String) : Prop :=
  qualifier ∈ veil.names ∧ column ∈ veil.columns

/-- The items pass the veiled column on with all columns of a source. -/
def Veil.Passes (veil : Veil) (items : List SelectItem) (column : String) : Prop :=
  ∃ ref, SelectItem.wildcard ref ∈ items ∧ veil.Hides ref.qualifier column

/-- The expression names no veiled column. -/
def Expr.Blind (veil : Veil) (e : Expr) : Prop :=
  ∀ c ∈ e.columns, ¬ veil.Hides c.table.qualifier c.column

def SelectItem.Blind (veil : Veil) : SelectItem → Prop
  | .expr e | .aliased e _ => e.Blind veil
  | .wildcard _ => True

mutual

/-- No expression of the query or of its subqueries names a veiled column, and every source that has veiled
columns is read under one of the names. -/
def Query.Blind (veil : Veil) : Query → Prop
  | ⟨items, source, joins, filter, order, limit⟩ =>
    (∀ item ∈ items, item.Blind veil) ∧ source.Blind veil ∧ joinsBlind veil joins ∧
      (∀ e ∈ filter, e.Blind veil) ∧ (∀ term ∈ order, term.expr.Blind veil) ∧ ∀ e ∈ limit, e.Blind veil

def Source.Blind (veil : Veil) : Source → Prop
  | .table (.table name aliasName) =>
    name = veil.table → (TableRef.table name aliasName).qualifier ∈ veil.names
  | .table (.derived _) => True
  | .subquery _ query aliasName =>
    query.Blind veil ∧ ∀ column, veil.Passes query.items column → veil.Hides aliasName column

def joinsBlind (veil : Veil) : List Join → Prop
  | [] => True
  | ⟨_, source, condition⟩ :: rest =>
    source.Blind veil ∧ condition.Blind veil ∧ joinsBlind veil rest

end

/-- Rows of the columns that differ at most in hidden ones. -/
inductive SameBut (hidden : String → Prop) : List String → List Value → List Value → Prop
  | nil : SameBut hidden [] [] []
  | cons {column : String} {columns : List String} {v w : Value} {row other : List Value}
    (same : ¬ hidden column → v = w) (rest : SameBut hidden columns row other) :
    SameBut hidden (column :: columns) (v :: row) (w :: other)

namespace SameBut

variable {hidden hidden' : String → Prop} {columns columns' : List String}
  {row other row' other' : List Value}

theorem refl (hidden : String → Prop) (width : row.length = columns.length) :
    SameBut hidden columns row row := by
  induction columns generalizing row with
  | nil =>
      rw [List.eq_nil_of_length_eq_zero width]
      exact .nil
  | cons column columns ih =>
      cases row with
      | nil => cases width
      | cons v row => exact .cons (fun _ => rfl) (ih (Nat.succ.inj width))

theorem length_eq (near : SameBut hidden columns row other) : row.length = columns.length := by
  induction near with
  | nil => rfl
  | cons _ _ ih => exact congrArg Nat.succ ih

theorem imp (near : SameBut hidden columns row other) (more : ∀ column, hidden column → hidden' column) :
    SameBut hidden' columns row other := by
  induction near with
  | nil => exact .nil
  | cons same _ ih => exact .cons (fun open' => same fun kept => open' (more _ kept)) ih

theorem eq (near : SameBut hidden columns row other) (shown : ∀ column ∈ columns, ¬ hidden column) :
    row = other := by
  induction near with
  | nil => rfl
  | cons same _ ih =>
      rw [same (shown _ List.mem_cons_self),
        ih fun column member => shown column (List.mem_cons_of_mem _ member)]

theorem append (first : SameBut hidden columns row other) (second : SameBut hidden columns' row' other') :
    SameBut hidden (columns ++ columns') (row ++ row') (other ++ other') := by
  induction first with
  | nil => exact second
  | cons same _ ih => exact .cons same ih

/-- At the place of a column that is not hidden both have the same value. -/
theorem getElem?_eq (near : SameBut hidden columns row other) {i : Nat} {column : String}
    (place : columns[i]? = some column) (shown : ¬ hidden column) : row[i]? = other[i]? := by
  induction near generalizing i with
  | nil => cases place
  | cons same _ ih =>
      cases i with
      | zero =>
          cases place
          exact congrArg some (same shown)
      | succ i => exact ih place

end SameBut

/-- Answers with the same columns whose rows differ at most in hidden ones. -/
structure Rowset.Near (hidden : String → Prop) (rowset other : Rowset) : Prop where
  columns : other.columns = rowset.columns
  rows : List.Forall₂ (SameBut hidden rowset.columns) rowset.rows other.rows

structure Binding.Near (veil : Veil) (binding other : Binding) : Prop where
  shape : other.shape = binding.shape
  values : SameBut (veil.Hides binding.shape.qualifier) binding.shape.columns binding.values other.values

def Frame.Near (veil : Veil) (row other : Frame) : Prop := List.Forall₂ (Binding.Near veil) row other

def Env.Near (veil : Veil) (env other : Env) : Prop := List.Forall₂ (Frame.Near veil) env other

structure Joined.Near (veil : Veil) (joined other : Joined) : Prop where
  shapes : other.shapes = joined.shapes
  rows : List.Forall₂ (Frame.Near veil) joined.rows other.rows

/-- The databases have the same tables with the same columns, and their rows differ at most in veiled ones. -/
def Database.Near (veil : Veil) (db other : Database) : Prop :=
  ∀ name, Option.Rel (Rowset.Near fun column => name = veil.table ∧ column ∈ veil.columns)
    (db name) (other name)

variable {veil : Veil} {db db' : Database} {env env' outer outer' : Env} {row row' : Frame}

theorem Rowset.Near.imp {hidden hidden' : String → Prop} {rowset other : Rowset}
    (near : rowset.Near hidden other) (more : ∀ column, hidden column → hidden' column) :
    rowset.Near hidden' other :=
  ⟨near.columns, near.rows.imp fun _ _ same => same.imp more⟩

theorem Rowset.Near.eq {hidden : String → Prop} {rowset other : Rowset} (near : rowset.Near hidden other)
    (shown : ∀ column ∈ rowset.columns, ¬ hidden column) : rowset = other := by
  obtain ⟨columns, rows⟩ := rowset
  obtain ⟨columns', rows'⟩ := other
  have named : columns = columns' := near.columns.symm
  have same : rows = rows' := List.forall₂_eq_eq_eq ▸ near.rows.imp fun _ _ alike => alike.eq shown
  rw [named, same]

theorem cases_of_rel {α β : Type} {R : α → β → Prop} {a? : Option α} {b? : Option β}
    (related : Option.Rel R a? b?) : (a? = none ∧ b? = none) ∨ ∃ a b, a? = some a ∧ b? = some b ∧ R a b := by
  cases related with
  | none => exact .inl ⟨rfl, rfl⟩
  | some both => exact .inr ⟨_, _, rfl, rfl, both⟩

theorem Database.Near.rectangular (near : db.Near veil db') : db.Rectangular := by
  intro name rowset found row member
  rcases cases_of_rel (near name) with ⟨missing, _⟩ | ⟨stored, stored', here, _, alike⟩
  · cases missing.symm.trans found
  · cases found.symm.trans here
    obtain ⟨other, _, same⟩ := exists_of_mem_forall₂ alike.rows.flip member
    exact same.length_eq

theorem Binding.Near.value {binding other : Binding} {column : String} (near : binding.Near veil other)
    (shown : ¬ veil.Hides binding.shape.qualifier column) : binding.value column = other.value column := by
  rw [Binding.value, Binding.value, near.shape]
  cases place : binding.shape.columns.idxOf? column with
  | none => rfl
  | some i =>
      have named : binding.shape.columns[i]? = some column := by
        obtain ⟨inside, here, _⟩ := List.idxOf?_eq_some_iff.mp place
        rw [List.getElem?_eq_getElem inside, here]
      exact congrArg (fun cell => Except.ok (Option.getD cell Value.null))
        (near.values.getElem?_eq named shown)

theorem Frame.Near.binding? (near : row.Near veil row') (qualifier : String) :
    Option.Rel (Binding.Near veil) (row.binding? qualifier) (row'.binding? qualifier) := by
  induction near with
  | nil => exact .none
  | @cons binding binding' row row' first rest ih =>
      rw [Frame.binding?, Frame.binding?, List.find?_cons, List.find?_cons, first.shape]
      split
      · exact .some first
      · exact ih

theorem Frame.qualifier_of_binding? {binding : Binding} {qualifier : String}
    (bound : row.binding? qualifier = some binding) : binding.shape.qualifier = qualifier := by
  simpa using List.find?_some bound

theorem Env.Near.value (near : env.Near veil env') {c : ColumnRef}
    (shown : ¬ veil.Hides c.table.qualifier c.column) : env.value c = env'.value c := by
  induction near with
  | nil => rfl
  | @cons row row' env env' first rest ih =>
      rcases cases_of_rel (first.binding? c.table.qualifier) with
        ⟨unbound, unbound'⟩ | ⟨binding, binding', bound, bound', alike⟩
      · rw [Env.value_outer unbound, Env.value_outer unbound', ih]
      · rw [Env.value_near bound, Env.value_near bound']
        exact alike.value (Frame.qualifier_of_binding? bound ▸ shown)

/-- An expression that names no veiled column has the same value in both. -/
theorem Expr.Blind.eval {e : Expr} (blind : e.Blind veil) (near : env.Near veil env') :
    e.eval env = e.eval env' :=
  Expr.eval_congr fun c named => near.value (blind c named)

section Stages

variable {rows rows' : List Frame}

theorem Expr.Blind.keeps {e : Expr} (blind : e.Blind veil) (near : env.Near veil env') :
    e.keeps env = e.keeps env' := by
  rw [Expr.keeps, Expr.keeps, blind.eval near]

theorem keepRows_near {condition : Expr} (blind : condition.Blind veil) (around : outer.Near veil outer')
    (near : List.Forall₂ (Frame.Near veil) rows rows') :
    Matches (List.Forall₂ (Frame.Near veil)) (keepRows outer condition rows)
      (keepRows outer' condition rows') := by
  induction near with
  | nil => exact .ok .nil
  | cons first _ ih =>
      rw [keepRows, keepRows, blind.keeps (.cons first around)]
      refine (Matches.of_eq rfl).bind fun kept _ _ same => ?_
      subst same
      refine ih.bind fun others _ _ related => .ok ?_
      split
      · exact .cons first related
      · exact related

theorem filterRows_near {filter : Option Expr} (blind : ∀ e ∈ filter, e.Blind veil)
    (around : outer.Near veil outer') (near : List.Forall₂ (Frame.Near veil) rows rows') :
    Matches (List.Forall₂ (Frame.Near veil)) (filterRows outer filter rows)
      (filterRows outer' filter rows') := by
  cases filter with
  | none => exact .ok near
  | some condition => exact keepRows_near (blind condition rfl) around near

theorem sortKeys_near {terms : List OrderTerm} (blind : ∀ term ∈ terms, term.expr.Blind veil)
    (near : env.Near veil env') : sortKeys env terms = sortKeys env' terms :=
  mapM_congr fun term member => (blind term member).eval near

/-- Sorting by an order that respects a relation keeps related lists related. -/
theorem forall₂_mergeSort {α β : Type} {R : α → β → Prop} {le : α → α → Bool} {le' : β → β → Bool}
    (respects : ∀ a b, R a b → ∀ a' b', R a' b' → le a a' = le' b b') {as : List α} {bs : List β}
    (related : List.Forall₂ R as bs) : List.Forall₂ R (as.mergeSort le) (bs.mergeSort le') := by
  obtain ⟨pairs, each, rfl, rfl⟩ : ∃ pairs : List (α × β), (∀ pair ∈ pairs, R pair.1 pair.2) ∧
      pairs.map Prod.fst = as ∧ pairs.map Prod.snd = bs := by
    induction related with
    | nil => exact ⟨[], by simp, rfl, rfl⟩
    | @cons a b as bs first _ ih =>
        obtain ⟨pairs, each, rfl, rfl⟩ := ih
        exact ⟨(a, b) :: pairs, List.forall_mem_cons.mpr ⟨first, each⟩, rfl, rfl⟩
  -- Both lists are sorted as the list of the pairs is.
  rw [← List.map_mergeSort (r := fun pair other => le pair.1 other.1) fun _ _ _ _ => rfl,
    ← List.map_mergeSort (r := fun pair other => le pair.1 other.1) fun pair member other among =>
      respects _ _ (each pair member) _ _ (each other among),
    List.forall₂_map_left_iff, List.forall₂_map_right_iff, List.forall₂_same]
  exact fun pair member => each pair (List.mem_mergeSort.mp member)

theorem sortRows_near {terms : List OrderTerm} (blind : ∀ term ∈ terms, term.expr.Blind veil)
    (around : outer.Near veil outer') (near : List.Forall₂ (Frame.Near veil) rows rows') :
    Matches (List.Forall₂ (Frame.Near veil)) (sortRows outer terms rows)
      (sortRows outer' terms rows') := by
  have keyed : Matches (List.Forall₂ fun a b : List Value × Frame => a.1 = b.1 ∧ a.2.Near veil b.2)
      (rows.mapM fun row => do return (← sortKeys (row :: outer) terms, row))
      (rows'.mapM fun row => do return (← sortKeys (row :: outer') terms, row)) := by
    refine .mapM (near.imp fun row row' first => ?_)
    rw [sortKeys_near blind (.cons first around)]
    exact (Matches.of_eq rfl).bind fun keys keys' _ same => .ok ⟨same, first⟩
  refine keyed.bind fun keyed keyed' _ related => .ok ?_
  rw [List.forall₂_map_left_iff, List.forall₂_map_right_iff]
  refine (forall₂_mergeSort (fun a b first a' b' second => ?_) related).imp fun _ _ both => both.2
  rw [first.1, second.1]

theorem limitRows_near {limit : Option Expr} (blind : ∀ e ∈ limit, e.Blind veil)
    (around : outer.Near veil outer') (near : List.Forall₂ (Frame.Near veil) rows rows') :
    Matches (List.Forall₂ (Frame.Near veil)) (limitRows outer limit rows)
      (limitRows outer' limit rows') := by
  cases limit with
  | none => exact .ok near
  | some e =>
      rw [limitRows, limitRows, limitCount, limitCount, (blind e rfl).eval around]
      refine (Matches.of_eq rfl).bind fun count _ _ same => ?_
      subst same
      cases count with
      | none => exact .ok near
      | some n => exact .ok (List.forall₂_take n near)

theorem extendRow_near {kind : JoinKind} {condition : Expr} {shape : Shape}
    {candidates candidates' : List (List Value)} (blind : condition.Blind veil)
    (around : outer.Near veil outer') (near : row.Near veil row')
    (alike : List.Forall₂ (SameBut (veil.Hides shape.qualifier) shape.columns) candidates candidates') :
    Matches (List.Forall₂ (Frame.Near veil)) (extendRow outer kind condition shape row candidates)
      (extendRow outer' kind condition shape row' candidates') := by
  have append : ∀ binding binding' : Binding, binding.Near veil binding' →
      Frame.Near veil (row ++ [binding]) (row' ++ [binding']) :=
    fun _ _ last => List.rel_append near (.cons last .nil)
  have pairs : List.Forall₂ (Frame.Near veil) (candidates.map fun values => row ++ [⟨shape, values⟩])
      (candidates'.map fun values => row' ++ [⟨shape, values⟩]) := by
    rw [List.forall₂_map_left_iff, List.forall₂_map_right_iff]
    exact alike.imp fun values values' same =>
      append ⟨shape, values⟩ ⟨shape, values'⟩ ⟨rfl, same⟩
  refine (keepRows_near blind around pairs).bind fun kept kept' _ related => .ok ?_
  have found : kept.isEmpty = kept'.isEmpty := by cases related <;> rfl
  rw [found]
  split
  · exact .cons (append _ _ ⟨rfl, .refl _ (List.length_map _)⟩) .nil
  · exact related

/-- A computed value is the same in both. -/
theorem Expr.Blind.values {e : Expr} {hidden : String → Prop} (blind : e.Blind veil) (near : env.Near veil env')
    (name : String) :
    Matches (SameBut hidden [name]) (do return [← e.eval env]) (do return [← e.eval env']) := by
  rw [blind.eval near]
  exact (Matches.of_eq rfl).bind fun v w _ same => .ok (.cons (fun _ => same) .nil)

theorem SelectItem.values_near {item : SelectItem} {shapes : List Shape} {names : List String}
    {hidden : String → Prop} (blind : item.Blind veil) (around : outer.Near veil outer')
    (near : row.Near veil row') (fits : row.Fits shapes) (named : item.header shapes = .ok names)
    (passed : ∀ column, veil.Passes [item] column → hidden column) :
    Matches (SameBut hidden names) (item.values row outer) (item.values row' outer') := by
  cases item with
  | expr e =>
      have single : ∃ name, names = [name] := by
        cases e with
        | column => exact ⟨_, (Except.ok.inj named).symm⟩
        | and | or | compare | grouping | inList | isNull | not | const =>
            exact ⟨_, (Except.ok.inj named).symm⟩
      obtain ⟨name, rfl⟩ := single
      exact Expr.Blind.values blind (.cons near around) name
  | aliased e aliasName =>
      cases named
      exact Expr.Blind.values blind (.cons near around) aliasName
  | wildcard ref =>
      -- The columns are those of the first binding of that name.
      rw [SelectItem.header, ← fits.shapes, List.find?_map] at named
      rw [SelectItem.values, SelectItem.values]
      rcases cases_of_rel (near.binding? ref.qualifier) with
        ⟨unbound, _⟩ | ⟨binding, binding', bound, bound', alike⟩
      · have missing : row.find? ((·.qualifier == ref.qualifier) ∘ Binding.shape) = none := unbound
        rw [missing] at named
        cases named
      · have found : row.find? ((·.qualifier == ref.qualifier) ∘ Binding.shape) = some binding := bound
        rw [found] at named
        cases named
        rw [bound, bound']
        refine .ok (alike.values.imp fun column kept => passed column ?_)
        exact ⟨ref, List.mem_singleton_self _, Frame.qualifier_of_binding? bound ▸ kept⟩

theorem values_near {items : List SelectItem} {shapes : List Shape} {names : List (List String)}
    {hidden : String → Prop} (blind : ∀ item ∈ items, item.Blind veil) (around : outer.Near veil outer')
    (near : row.Near veil row') (fits : row.Fits shapes)
    (named : items.mapM (SelectItem.header shapes) = .ok names)
    (passed : ∀ column, veil.Passes items column → hidden column) :
    Matches (SameBut hidden names.flatten)
      (do return (← items.mapM (SelectItem.values row outer)).flatten)
      (do return (← items.mapM (SelectItem.values row' outer')).flatten) := by
  suffices parts : Matches (fun parts parts' => SameBut hidden names.flatten parts.flatten parts'.flatten)
      (items.mapM (SelectItem.values row outer)) (items.mapM (SelectItem.values row' outer')) from
    parts.bind fun _ _ _ same => .ok same
  have headers := forall₂_of_mapM named
  clear named
  induction headers with
  | nil => exact .ok .nil
  | @cons item names items others header _ ih =>
      obtain ⟨first, rest⟩ := List.forall_mem_cons.mp blind
      rw [List.mapM_cons, List.mapM_cons]
      have one := SelectItem.values_near first around near fits header fun column passes => by
        obtain ⟨ref, member, hides⟩ := passes
        exact passed column ⟨ref, List.mem_singleton.mp member ▸ List.mem_cons_self, hides⟩
      refine one.bind fun values values' _ same => ?_
      refine (ih rest fun column passes => ?_).bind fun parts parts' _ alike => .ok ?_
      · obtain ⟨ref, member, hides⟩ := passes
        exact passed column ⟨ref, List.mem_cons_of_mem _ member, hides⟩
      · exact same.append alike

theorem project_near {items : List SelectItem} {joined joined' : Joined}
    (blind : ∀ item ∈ items, item.Blind veil) (around : outer.Near veil outer') (aligned : joined.Aligned)
    (near : joined.Near veil joined') :
    Matches (Rowset.Near (veil.Passes items)) (project outer items joined)
      (project outer' items joined') := by
  rw [project, project, near.shapes]
  refine (Matches.of_eq rfl).bind fun names names' named same => ?_
  subst same
  have each : Matches (List.Forall₂ (SameBut (veil.Passes items) names.flatten))
      (joined.rows.mapM fun row => do
        return (← items.mapM (SelectItem.values row outer)).flatten)
      (joined'.rows.mapM fun row => do
        return (← items.mapM (SelectItem.values row outer')).flatten) := by
    have rows := (List.forall₂_and_left _ _).mpr ⟨aligned, near.rows⟩
    exact .mapM (rows.imp fun row row' both =>
      values_near blind around both.2 both.1 named fun _ passes => passes)
  exact each.bind fun rows rows' _ alike => .ok ⟨rfl, alike⟩

end Stages

end Relata
