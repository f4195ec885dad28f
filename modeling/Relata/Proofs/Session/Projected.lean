import Relata.Proofs.Query.Headings
import Relata.Proofs.Session.Executed

/-!
Walks over what a relation selects. A walk goes on from the key that it reads off the last record of a
page, so if the selection has no key, the walk ends behind the first page as it ends behind the last one.
-/

namespace Relata

section Entries

variable {α β : Type} {items : List (String × α)} {name : String}

theorem Entries.get?_foldl_cases (entries : List (String × α)) (items : List (String × α)) (name : String) :
    (∃ value, Entries.get? (items.foldl (fun entries item => Entries.set entries item.1 item.2) entries)
        name = some value ∧ (name, value) ∈ items) ∨
      name ∉ items.map Prod.fst ∧
        Entries.get? (items.foldl (fun entries item => Entries.set entries item.1 item.2) entries) name =
          Entries.get? entries name := by
  induction items generalizing entries with
  | nil => exact .inr ⟨List.not_mem_nil, rfl⟩
  | cons item rest ih =>
      rw [List.foldl_cons]
      rcases ih (Entries.set entries item.1 item.2) with ⟨value, found, inside⟩ | ⟨absent, found⟩
      · exact .inl ⟨value, found, List.mem_cons_of_mem _ inside⟩
      · rw [Entries.get?_set] at found
        split at found
        · rename_i here
          subst here
          exact .inl ⟨item.2, found, List.mem_cons_self⟩
        · rename_i elsewhere
          refine .inr ⟨?_, found⟩
          rw [List.map_cons, List.mem_cons, not_or]
          exact ⟨elsewhere, absent⟩

theorem forall_mem_zip_flatten {P : α × β → Prop} {lists : List (List α)} {others : List (List β)}
    (each : List.Forall₂ (fun list other => list.length = other.length ∧ ∀ pair ∈ list.zip other, P pair)
      lists others) : ∀ pair ∈ lists.flatten.zip others.flatten, P pair := by
  induction each with
  | nil => exact fun pair inside => absurd inside List.not_mem_nil
  | cons first _ ih =>
      intro pair inside
      rw [List.flatten_cons, List.flatten_cons, List.zip_append first.1] at inside
      exact (List.mem_append.mp inside).elim (first.2 pair) (ih pair)

end Entries

/-- A record has a value under a name if the answer has such a column, and the value is one of these. -/
theorem Record.get?_ofRow_cases {model : Model} {columns : List String} {row : List Value} {name : String}
    (width : row.length = columns.length) (active : model.isIgnored name = false) :
    (∃ value, (Record.ofRow model columns row).get? name = some value ∧ (name, value) ∈ columns.zip row) ∨
      name ∉ columns ∧ (Record.ofRow model columns row).get? name = none := by
  have kept := Entries.get?_foldl_cases [] ((columns.zip row).filter fun entry => !model.isIgnored entry.1) name
  refine kept.imp (fun ⟨value, found, inside⟩ => ⟨value, found, List.mem_of_mem_filter inside⟩)
    fun ⟨absent, found⟩ => ⟨fun present => absent ?_, found⟩
  have names : (columns.zip row).map Prod.fst = columns := List.map_fst_zip (by omega)
  rw [← names] at present
  obtain ⟨entry, inside, rfl⟩ := List.mem_map.mp present
  exact List.mem_map_of_mem (List.mem_filter.mpr ⟨inside, by simp [active]⟩)

/-- The item computes something else than the key under the name of the key. -/
def SelectItem.Masks (relation : Relation) : SelectItem → Prop
  | .expr (.column _) | .wildcard _ => False
  | .expr _ => relation.model.primaryKey = "?column?"
  | .aliased e aliasName =>
    aliasName = relation.model.primaryKey ∧ e ≠ relation.column relation.model.primaryKey

namespace Relation

/-- The model's table as the relation reads it. -/
def shape (relation : Relation) : Shape := ⟨relation.table.qualifier, relation.model.table.columnNames⟩

/-- The columns of what the relation computes of the model's table. -/
def heading (relation : Relation) : Except Fault (List String) := do
  return (← relation.query.items.mapM (SelectItem.header [relation.shape])).flatten

/-- What the relation computes of a row of the model's table. -/
def cells (relation : Relation) (row : List Value) : Except Fault (List Value) := do
  return (← relation.query.items.mapM (SelectItem.values (relation.frame row) [])).flatten

/-- The one record is that of a row, and the other has what the relation selects of this row. -/
def Shows (relation : Relation) (record shown : Record) : Prop :=
  ∃ row heading cells, List.Forall₂ Column.Takes relation.model.table.columns row ∧
    record = relation.model.record row ∧ relation.heading = .ok heading ∧ relation.cells row = .ok cells ∧
    shown.values = (Record.ofRow relation.model heading cells).values

variable {relation : Relation} {item : SelectItem} {row : List Value} {names : List String}
  {cells : List Value} {key : Value}

theorem not_masks_of_mem_query (own : ∀ item ∈ relation.items, ¬ item.Masks relation) :
    ∀ item ∈ relation.query.items, ¬ item.Masks relation := by
  intro item member
  rw [query] at member
  dsimp only at member
  split at member
  · rw [defaultItems] at member
    split at member
    · obtain ⟨column, _, rfl⟩ := List.mem_map.mp member
      exact id
    · cases List.mem_singleton.mp member
      exact id
  · exact own item member

theorem frame_fits (width : row.length = relation.model.table.columnNames.length) :
    Frame.Fits (relation.frame row) [relation.shape] :=
  ⟨rfl, fun _ only => List.mem_singleton.mp only ▸ width⟩

theorem frame_bound {qualifier : String} {binding : Binding}
    (bound : (relation.frame row).binding? qualifier = some binding) :
    qualifier = relation.table.qualifier ∧ binding = ⟨relation.shape, row⟩ := by
  have named := List.find?_some bound
  obtain rfl := List.mem_singleton.mp (List.mem_of_find?_eq_some bound)
  exact ⟨(beq_iff_eq.mp named).symm, rfl⟩

theorem eval_frame {c : ColumnRef} {v : Value} (named : c.column = relation.model.primaryKey)
    (present : relation.model.primaryKey ∈ relation.model.table.columnNames)
    (found : Env.value [relation.frame row] c = .ok v) : v = relation.keyOf row := by
  cases bound : (relation.frame row).binding? c.table.qualifier with
  | none =>
      rw [Env.value_outer bound] at found
      cases found
  | some binding =>
      rw [Env.value_near bound] at found
      obtain ⟨_, rfl⟩ := frame_bound bound
      rw [named, shape, Binding.value_cell present] at found
      cases found
      rfl

theorem cellOf_of_mem_zip {columns : List String} {name : String} (distinct : columns.Nodup)
    (inside : (name, key) ∈ columns.zip row) : cellOf columns row name = key := by
  induction columns generalizing row with
  | nil => cases inside
  | cons column rest ih =>
      obtain ⟨fresh, distinct⟩ := List.nodup_cons.mp distinct
      cases row with
      | nil => cases inside
      | cons value row =>
          rw [List.zip_cons_cons, List.mem_cons] at inside
          rcases inside with same | later
          · cases same
            rw [cellOf, if_pos rfl, List.headD_cons]
          · have different : column ≠ name := fun same => fresh (same ▸ (List.of_mem_zip later).1)
            rw [cellOf, if_neg different, List.tail_cons, ih distinct later]

/-- What an item computes under the name of the key is the key. -/
theorem key_of_mem_item (own : ¬ item.Masks relation) (distinct : relation.model.table.columnNames.Nodup)
    (present : relation.model.primaryKey ∈ relation.model.table.columnNames)
    (named : item.header [relation.shape] = .ok names)
    (computed : item.values (relation.frame row) [] = .ok cells)
    (inside : (relation.model.primaryKey, key) ∈ names.zip cells) : key = relation.keyOf row := by
  cases item with
  | expr e =>
      obtain ⟨v, evaluated, computed⟩ := bind_eq_ok.mp computed
      cases computed
      cases e with
      | column c =>
          cases named
          simp only [List.zip_cons_cons, List.zip_nil_left, List.mem_singleton, Prod.mk.injEq] at inside
          rw [inside.2]
          exact eval_frame inside.1.symm present evaluated
      | and | or | compare | grouping | inList | isNull | not | const =>
          cases named
          simp only [List.zip_cons_cons, List.zip_nil_left, List.mem_singleton, Prod.mk.injEq] at inside
          exact absurd inside.1 own
  | aliased e aliasName =>
      obtain ⟨v, evaluated, computed⟩ := bind_eq_ok.mp computed
      cases computed
      cases named
      simp only [List.zip_cons_cons, List.zip_nil_left, List.mem_singleton, Prod.mk.injEq] at inside
      obtain ⟨rfl, rfl⟩ := inside
      have same : e = relation.column relation.model.primaryKey :=
        not_not.mp fun different => own ⟨rfl, different⟩
      rw [same] at evaluated
      exact eval_frame rfl present evaluated
  | wildcard ref =>
      rw [SelectItem.values] at computed
      cases bound : (relation.frame row).binding? ref.qualifier with
      | none =>
          rw [bound] at computed
          cases computed
      | some binding =>
          rw [bound] at computed
          obtain ⟨same, rfl⟩ := frame_bound bound
          have first : [relation.shape].find? (·.qualifier == ref.qualifier) = some relation.shape := by
            simp [shape, same]
          rw [SelectItem.header, first] at named
          cases named
          cases computed
          exact (cellOf_of_mem_zip distinct inside).symm

/-- A shown record has the key of its row if the selection has a key at all. -/
theorem Shows.get?_key {record shown : Record} {heading : List String} (shows : relation.Shows record shown)
    (own : ∀ item ∈ relation.items, ¬ item.Masks relation)
    (distinct : relation.model.table.columnNames.Nodup)
    (present : relation.model.primaryKey ∈ relation.model.table.columnNames)
    (active : relation.model.isIgnored relation.model.primaryKey = false)
    (named : relation.heading = .ok heading) :
    shown.get? relation.model.primaryKey =
      if relation.model.primaryKey ∈ heading then record.get? relation.model.primaryKey else none := by
  obtain ⟨row, _, values, typed, rfl, headed, computed, same⟩ := shows
  cases named.symm.trans headed
  obtain ⟨headers, each, flat⟩ := bind_eq_ok.mp named
  obtain ⟨parts, found, flat'⟩ := bind_eq_ok.mp computed
  cases flat
  cases flat'
  have width : row.length = relation.model.table.columnNames.length := by
    rw [Table.columnNames, List.length_map, typed.length_eq]
  have items : List.Forall₂ (fun names cells => names.length = cells.length ∧
      ∀ pair ∈ names.zip cells, pair.1 = relation.model.primaryKey → pair.2 = relation.keyOf row)
      headers parts := by
    refine forall₂_of_common (fun item names cells named computed => ⟨?_, ?_⟩) (forall₂_of_mapM each)
      ((List.forall₂_and_left _ _).mpr ⟨not_masks_of_mem_query own, forall₂_of_mapM found⟩)
    · exact (SelectItem.length_values (frame_fits width) named computed.2).symm
    · rintro ⟨_, key⟩ inside rfl
      exact key_of_mem_item computed.1 distinct present named computed.2 inside
  have lengths := length_flatten_eq (items.imp fun _ _ => And.left)
  rw [Record.get?, same, ← Record.get?]
  rcases Record.get?_ofRow_cases lengths.symm active with ⟨key, held, inside⟩ | ⟨absent, nothing⟩
  · rw [held, if_pos (List.of_mem_zip inside).1, Model.get?_record_active distinct typed present active]
    exact congrArg some (forall_mem_zip_flatten items _ inside rfl)
  · rw [nothing, if_neg absent]

/-- The first records, in the order of their keys, behind the last key seen, with what is selected of them. -/
theorem page_shows {db : Database} {rows : List (List Value)} {column : Column} {last : Option Value}
    {size : Nat} {answer : Rowset} (direct : (relation.select []).Direct relation.model.table.name)
    (single : relation.joins = [])
    (found : db relation.model.table.name = some ⟨relation.model.table.columnNames, rows⟩)
    (typed : ∀ row ∈ rows, List.Forall₂ Column.Takes relation.model.table.columns row)
    (apart : relation.KeysApart rows column) (taken : ∀ key ∈ last, column.Takes key)
    (filtered : filterRows [] relation.filter (rows.map relation.frame) =
      .ok ((rows.filter relation.keepsRow).map relation.frame))
    (answered : (Session.page (Session.byKey relation) last size).query.answer db = .ok answer) :
    relation.heading = .ok answer.columns ∧
      List.Forall₂ relation.Shows
        (cutTo (some size) (((relation.sortedRows rows).map relation.model.record).filter fun record =>
          last.all (record.follows relation.model.primaryKey)))
        (answer.rows.map (.ofRow relation.model answer.columns)) := by
  have joined : (Session.page (Session.byKey relation) last size).query.joined db [] =
      .ok ⟨[relation.shape], rows.map relation.frame⟩ := by
    have plain := direct.reads.joined_single single (direct.read [] found)
    cases last <;> exact plain
  have order : (Session.page (Session.byKey relation) last size).query.order =
      [.asc (relation.column relation.model.primaryKey)] := by cases last <;> rfl
  have limit : (Session.page (Session.byKey relation) last size).query.limit =
      (some size).map fun count => .const (.ofNat count) := by cases last <;> rfl
  have items : (Session.page (Session.byKey relation) last size).query.items = relation.query.items := by
    cases last <;> rfl
  have filter : (Session.page (Session.byKey relation) last size).query.filter =
      (Session.page (Session.byKey relation) last size).filter := rfl
  rw [Query.answer, Query.run_eq, joined, ok_bind, if_neg Bool.false_ne_true, filter,
    page_filter apart.present apart.takes taken filtered, order, limit, items] at answered
  simp only [ok_bind, sortRows_frames apart.present, limitRows_count] at answered
  rw [mergeSort_filter apart.taken apart.nonnull apart.once, cutTo_map] at answered
  obtain ⟨headers, named, answered⟩ := bind_eq_ok.mp answered
  obtain ⟨values, computed, answered⟩ := bind_eq_ok.mp answered
  cases answered
  have heading : relation.heading = .ok headers.flatten := bind_eq_ok.mpr ⟨headers, named, rfl⟩
  refine ⟨heading, ?_⟩
  rw [apart.follows, cutTo_map, List.forall₂_map_left_iff, List.forall₂_map_right_iff]
  have stored : ∀ row ∈ cutTo (some size) ((relation.sortedRows rows).filter (relation.keyAfter last)),
      List.Forall₂ Column.Takes relation.model.table.columns row := fun row inside =>
    typed row (mem_of_mem_sortedRows (List.mem_of_mem_filter (mem_of_mem_cutTo inside)))
  have each := forall₂_of_mapM computed
  rw [List.forall₂_map_left_iff] at each
  exact ((List.forall₂_and_left _ _).mpr ⟨stored, each⟩).imp fun row cells both =>
    ⟨row, _, cells, both.1, rfl, heading, both.2, rfl⟩

end Relation

theorem exists_last_related {α β : Type} {R : α → β → Prop} {as : List α} {bs : List β} {b : β}
    (related : List.Forall₂ R as (bs ++ [b])) : ∃ front a, as = front ++ [a] ∧ R a b := by
  have back := List.forall₂_reverse_iff.mpr related
  rw [List.reverse_append] at back
  generalize turned : as.reverse = reversed at back
  cases back with
  | @cons a _ rest _ last _ =>
      refine ⟨rest.reverse, a, ?_, last⟩
      rw [← List.reverse_cons, ← turned, List.reverse_reverse]

namespace Session

variable {schema : Schema} {session other after : Session} {relation : Relation} {names : List String}
  {visit : List (List Record) → Option Error} {matching sorted rest records loaded : List Record}
  {shown all batches : List (List Record)} {last : Option Value} {size bound : Nat}

/-- The records stand in the order of their primary keys, and every page of a walk shows the first of
those behind the last key seen. -/
structure PagesShow (session : Session) (relation : Relation) (sorted : List Record) : Prop where
  ordered : sorted.Pairwise (Record.Before relation.model.primaryKey)
  keyed : ∀ record ∈ sorted, ∃ key, record.get? relation.model.primaryKey = some key
  pages : ∀ last size loaded,
    (∀ key ∈ last, ∃ record ∈ sorted, record.get? relation.model.primaryKey = some key) →
    session.records (page (byKey relation) last size) = .ok loaded →
    (∃ heading, relation.heading = .ok heading) ∧ List.Forall₂ relation.Shows
      (cutTo (some size) (sorted.filter fun record => last.all (record.follows relation.model.primaryKey)))
      loaded

/-- The last record of a page is one of those in order, and shows the key of it if the selection has one. -/
theorem PagesShow.tail (pages : session.PagesShow relation sorted)
    (own : ∀ item ∈ relation.items, ¬ item.Masks relation)
    (distinct : relation.model.table.columnNames.Nodup)
    (present : relation.model.primaryKey ∈ relation.model.table.columnNames)
    (active : relation.model.isIgnored relation.model.primaryKey = false) {heading : List String}
    (named : relation.heading = .ok heading)
    (left : (sorted.filter fun record =>
      last.all (record.follows relation.model.primaryKey)) = rest)
    {before : List Record} {tail : Record}
    (shows : List.Forall₂ relation.Shows (rest.take size) (before ++ [tail])) :
    ∃ front record, rest.take size = front ++ [record] ∧ record ∈ sorted ∧
      (∃ key, record.get? relation.model.primaryKey = some key) ∧
      tail.get? relation.model.primaryKey =
        if relation.model.primaryKey ∈ heading then record.get? relation.model.primaryKey else none := by
  obtain ⟨front, record, taken, shown⟩ := exists_last_related shows
  have inside : record ∈ sorted := by
    have among : record ∈ rest.take size := by simp [taken]
    exact (left ▸ List.filter_sublist : rest.Sublist sorted).subset (List.mem_of_mem_take among)
  exact ⟨front, record, taken, inside, pages.keyed record inside,
    shown.get?_key own distinct present active named⟩

theorem exists_pagesShow (serves : session.Serves schema) (sound : schema.Sound)
    (walks : session.WalksOnce schema (relation.select []) size matching) :
    ∃ sorted : List Record, sorted.Perm matching ∧ session.PagesShow relation sorted := by
  obtain ⟨rows, found, typed⟩ := serves.database sound (sound.modelTable _ walks.known)
  obtain ⟨alive, filtered, same⟩ := records_bare serves walks.direct walks.single found walks.matched
  obtain ⟨column, present, held, takes, nonnull, once⟩ :=
    exists_keysApart sound walks.known walks.distinct typed same walks.nonnull walks.once
  have apart : relation.KeysApart rows column := ⟨present, held, takes, nonnull, once⟩
  have perm : (relation.sortedRows rows).Perm (rows.filter relation.keepsRow) := List.mergeSort_perm _ _
  refine ⟨(relation.sortedRows rows).map relation.model.record, same ▸ perm.map _, apart.sorted,
    fun record inside => ?_, fun last size loaded behind done => ?_⟩
  · obtain ⟨row, sorted, rfl⟩ := List.mem_map.mp inside
    exact ⟨_, apart.held row (Relation.mem_of_mem_sortedRows sorted)⟩
  · obtain ⟨_, answer, answered, rfl⟩ := answer_of_records serves done
    have taken : ∀ key ∈ last, column.Takes key := by
      intro key given
      obtain ⟨record, inside, own⟩ := behind key given
      obtain ⟨row, sorted, rfl⟩ := List.mem_map.mp inside
      have stored := Relation.mem_of_mem_sortedRows sorted
      rw [apart.held row stored] at own
      exact Option.some.inj own ▸ apart.takes row stored
    obtain ⟨heading, shows⟩ :=
      Relation.page_shows walks.direct walks.single found typed apart taken filtered answered
    have model : (page (byKey relation) last size).model = relation.model := by cases last <;> rfl
    rw [model]
    exact ⟨⟨_, heading⟩, shows⟩

theorem preload_fetches (served : other.Serves schema) (sound : schema.Sound)
    (known : relation.model ∈ schema.models)
    (done : (preload relation names).on other = (.ok loaded, after)) :
    ∃ records, other.records relation = .ok records ∧ after.Serves schema ∧ after.engine = other.engine ∧
      loaded.map (·.values) = records.map (·.values) := by
  obtain ⟨associations, resolving, resolves, fetches⟩ := Action.exists_of_on_bind done
  obtain ⟨resolved, rfl⟩ := resolve_executes resolves
  obtain ⟨records, _, fetched, _⟩ := Action.exists_of_on_bind fetches
  have answered : resolving.records relation = .ok records := congrArg Prod.fst fetched
  exact ⟨records, answered, preload_serves served sound known rfl resolved answered done⟩

/-- What is shown of a record is in its values, whatever is loaded for it. -/
theorem shows_of_values (shows : List.Forall₂ relation.Shows sorted records)
    (values : loaded.map (·.values) = records.map (·.values)) :
    List.Forall₂ relation.Shows sorted loaded := by
  have same : List.Forall₂ (fun record loaded : Record => loaded.values = record.values) records loaded := by
    have equal : List.Forall₂ Eq (loaded.map (·.values)) (records.map (·.values)) := by
      rw [values, List.forall₂_eq_eq_eq]
    rw [List.forall₂_map_left_iff, List.forall₂_map_right_iff] at equal
    exact equal.flip
  refine forall₂_of_common (fun _ _ _ shows same => ?_) shows.flip same
  obtain ⟨row, heading, cells, typed, own, headed, computed, values⟩ := shows
  exact ⟨row, heading, cells, typed, own, headed, computed, same.trans values⟩

/-- A walk that ends has shown all that was left, or one page of it if the selection has no key. -/
theorem walkFrom_shows (serves : session.Serves schema) (sound : schema.Sound)
    (known : relation.model ∈ schema.models) (distinct : relation.model.table.columnNames.Nodup)
    (pages : session.PagesShow relation sorted) (own : ∀ item ∈ relation.items, ¬ item.Masks relation)
    (positive : 0 < size) (fits : size ≤ 9223372036854775807 ∨ sorted.length ≤ 9223372036854775807)
    (served : other.Serves schema) (same : other.engine = session.engine)
    (seen : ∀ key ∈ last, ∃ record ∈ sorted, record.get? relation.model.primaryKey = some key)
    (left : (sorted.filter fun record =>
      last.all (record.follows relation.model.primaryKey)) = rest)
    (done : (walkFrom (byKey relation) size names visit bound last shown).run other =
      (⟨all, .finished⟩, after)) :
    ∃ heading batches, relation.heading = .ok heading ∧ all = shown ++ batches ∧
      List.Forall₂ relation.Shows
        (if relation.model.primaryKey ∈ heading then rest else rest.take size) batches.flatten := by
  have present : relation.model.primaryKey ∈ relation.model.table.columnNames :=
    Table.hasColumn_iff.mp (sound.keyColumn _ known)
  have active := sound.keyActive _ known
  induction bound generalizing last shown rest other with
  | zero => cases done
  | succ bound ih =>
      obtain ⟨batch, middle, loads, step⟩ := walkFrom_finished done
      have model : (page (byKey relation) last size).model = relation.model := by cases last <;> rfl
      obtain ⟨records, fetched, kept, unchanged, values⟩ :=
        preload_fetches served sound (model ▸ known) loads
      rw [records_congr serves served same] at fetched
      obtain ⟨⟨heading, named⟩, shows⟩ := pages.pages last size records seen fetched
      have fewer : rest.Sublist sorted := left ▸ List.filter_sublist
      rw [left, cutTo_of_fits (fits.imp_right fun few => Nat.le_trans fewer.length_le few)] at shows
      have shows := shows_of_values shows values
      have length : batch.length = min size rest.length := by
        rw [← shows.length_eq, List.length_take]
      rcases step with ⟨rfl, rfl, rfl⟩ | ⟨before, tail, rfl, rfl, rfl, stops⟩ |
        ⟨before, tail, key, rfl, full, told, further⟩
      · have empty : rest = [] := by
          rw [← List.length_eq_zero_iff]
          rw [List.length_nil] at length
          omega
        subst empty
        refine ⟨heading, [], named, (List.append_nil _).symm, ?_⟩
        rw [List.take_nil, ite_self]
        exact .nil
      · refine ⟨heading, [before ++ [tail]], named, rfl, ?_⟩
        rw [List.flatten_singleton]
        split
        · rename_i selected
          obtain ⟨_, record, _, _, ⟨key, held⟩, told⟩ := pages.tail own distinct present active named left shows
          rw [if_pos selected, held] at told
          have short := stops.resolve_right fun untold => Option.some_ne_none key (told.symm.trans untold)
          rwa [List.take_of_length_le (by omega)] at shows
        · exact shows
      · obtain ⟨front, record, taken, inside, ⟨key, held⟩, own'⟩ :=
          pages.tail own distinct present active named left shows
        have selected : relation.model.primaryKey ∈ heading := by
          by_contra absent
          rw [if_neg absent] at own'
          exact Option.some_ne_none _ (told.symm.trans own')
        rw [if_pos selected, held] at own'
        cases told.symm.trans own'
        have whole : rest = front ++ record :: rest.drop size := by
          rw [List.append_cons, ← taken, List.take_append_drop]
        have reached : ∀ last ∈ some key, ∃ record ∈ sorted,
            record.get? relation.model.primaryKey = some last := by
          rintro _ ⟨⟩
          exact ⟨record, inside, held⟩
        obtain ⟨_, batches, headed, rfl, others⟩ := ih kept (unchanged.trans same) reached
          (filter_next pages.ordered (left.trans whole) held) further
        cases named.symm.trans headed
        refine ⟨heading, (before ++ [tail]) :: batches, named, List.append_assoc _ _ _, ?_⟩
        rw [if_pos selected] at others ⊢
        rw [List.flatten_cons, ← List.take_append_drop size rest]
        exact List.rel_append shows others

/-- A walk over a selection ends after it has shown each matching record once, in the order of their
primary keys. If the selection has no primary key, it ends after the first page of them. -/
theorem findInBatches_shows_selection {tables : List TableDefinition} {models : List ModelDefinition}
    (built : Schema.build tables models = .ok schema) (reached : session.Reached schema)
    (walks : session.WalksOnce schema (relation.select []) size matching)
    (own : ∀ item ∈ relation.items, ¬ item.Masks relation)
    (done : ((findInBatches relation size names visit).run session).1 = ⟨batches, .finished⟩) :
    ∃ sorted heading, sorted.Perm matching ∧
      sorted.Pairwise (Record.Before relation.model.primaryKey) ∧ relation.heading = .ok heading ∧
      List.Forall₂ relation.Shows
        (if relation.model.primaryKey ∈ heading then sorted else sorted.take size) batches.flatten ∧
      (batches.flatten.length = matching.length ↔
        relation.model.primaryKey ∈ heading ∨ matching.length ≤ size) := by
  have sound := Schema.sound_of_build built
  have serves := reached.serves
  obtain ⟨sorted, perm, pages⟩ := exists_pagesShow serves sound walks
  have fits : size ≤ 9223372036854775807 ∨ sorted.length ≤ 9223372036854775807 := by
    rw [perm.length_eq]
    exact walks.fits
  have known : relation.model ∈ schema.models := walks.known
  have whole : (sorted.filter fun record =>
      (none : Option Value).all (record.follows relation.model.primaryKey)) = sorted := List.filter_true sorted
  rw [findInBatches_run walks.positive] at done
  obtain ⟨heading, shown, named, rfl, shows⟩ := walkFrom_shows serves sound known walks.distinct pages own
    walks.positive fits serves rfl (by simp) whole (Prod.ext done rfl)
  refine ⟨sorted, heading, perm, pages.ordered, named, shows, ?_⟩
  rw [← shows.length_eq, ← perm.length_eq]
  split
  · rename_i selected
    exact ⟨fun _ => .inl selected, fun _ => rfl⟩
  · rename_i absent
    rw [List.length_take, or_iff_right absent]
    omega

end Session

namespace Sample

def codes : Relation := owner.all.select [.expr (owner.all.column "code")]

def firstCodes : List Record := [⟨"Owner", [("code", .int 7)], []⟩, ⟨"Owner", [("code", .null)], []⟩]

theorem codes_walksOnce : session.WalksOnce schema (codes.select []) 2 owners where
  known := List.mem_cons_self
  direct := ⟨⟨none, rfl⟩, rfl, rfl⟩
  single := rfl
  distinct := by decide
  matched := records_owners
  nonnull := by decide
  once := by decide
  positive := by decide
  fits := .inl (by decide)

theorem codes_walked :
    ((Session.findInBatches codes 2 [] fun _ => none).run session).1 = ⟨[firstCodes], .finished⟩ := by
  let firstPage := Session.page (Session.byKey codes) none 2
  have resolved : [].mapM firstPage.model.association = .ok [] := rfl
  have paged : session.records firstPage = .ok firstCodes := by
    rw [Session.records_eq reached.serves, engine_eq, Relation.query_limited firstPage 2 rfl rfl]
    cbv
  rw [Session.findInBatches_run (by decide), Session.walkFrom_succ,
    Session.preload_on reached.serves resolved paged]
  rfl

/-- The walk shows two of three owners, and nothing tells that there is a third. -/
theorem findInBatches_misses_an_owner :
    session.WalksOnce schema (codes.select []) 2 owners ∧
      ((Session.findInBatches codes 2 [] fun _ => none).run session).1 = ⟨[firstCodes], .finished⟩ ∧
      [firstCodes].flatten.length = 2 ∧ owners.length = 3 :=
  ⟨codes_walksOnce, codes_walked, rfl, rfl⟩

theorem findInBatches_shows_codes : List.Forall₂ codes.Shows (owners.take 2) firstCodes := by
  have own : ∀ item ∈ codes.items, ¬ item.Masks codes := by
    intro item only
    cases List.mem_singleton.mp only
    exact id
  obtain ⟨sorted, heading, perm, ordered, named, shows, _⟩ :=
    Session.findInBatches_shows_selection built reached codes_walksOnce own codes_walked
  cases eq_owners_of_perm perm ordered
  cases named
  exact shows

end Sample

end Relata
