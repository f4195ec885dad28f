import Mathlib.Tactic.FinCases
import Relata.Proofs.Session.Agreement
import Relata.Proofs.Session.First
import Relata.Proofs.Session.Twins

/-!
Ignored values. Sessions whose tables differ only in columns that a model ignores answer every operation alike that
names none of these columns, and what is loaded has the active columns of its model.
-/

namespace Relata

/-- Tables of one name and with the same columns, whose rows differ at most in hidden columns. -/
structure StoredTable.SameBut (hidden : String → Prop) (table other : StoredTable) : Prop where
  name : other.name = table.name
  columns : other.columns = table.columns
  rows : List.Forall₂ (Relata.SameBut hidden table.rowset.columns) table.rows other.rows

/-- Engines, both usable or neither, whose tables differ at most in columns that the model ignores. -/
structure Engine.SameBut (model : Model) (engine other : Engine) : Prop where
  poisoned : other.poisoned = engine.poisoned
  tables : List.Forall₂ (fun table => table.SameBut fun column =>
    table.name = model.table.name ∧ column ∈ model.ignored) engine.store.tables other.store.tables

theorem Engine.SameBut.near {model : Model} {engine other : Engine} (same : engine.SameBut model other)
    (names : List String) : engine.store.database.Near (model.veil names) other.store.database := by
  intro name
  have tables := same.tables
  simp only [Store.database, Store.table?]
  generalize engine.store.tables = own, other.store.tables = others at tables
  induction tables with
  | nil => exact .none
  | @cons table table' own others first _ ih =>
      rw [List.find?_cons, List.find?_cons, first.name]
      split
      · rename_i here
        have name' : table.name = name := by simpa using here
        refine .some ⟨?_, first.rows.imp fun _ _ row => row.imp fun column hides => ?_⟩
        · rw [StoredTable.rowset, StoredTable.rowset, first.columns]
        · exact ⟨name' ▸ hides.1, hides.2⟩
      · exact ih

namespace Session

variable {schema : Schema} {session other : Session} {relation : Relation} {owner target : Model}
  {association : Association} {loaded : List Record}

theorem Loadable.names (loadable : Loadable schema relation loaded) (sound : schema.Sound)
    (distinct : ∀ table ∈ schema.tables, table.columnNames.Nodup) (known : relation.model ∈ schema.models)
    (items : relation.items = []) (rooted : relation.Rooted) :
    ∀ record ∈ loaded, record.Names relation.model relation.model.activeNames := by
  obtain ⟨session, serves, rectangular, done⟩ := loadable
  obtain ⟨_, answer, answered, rfl⟩ := answer_of_records serves done
  obtain ⟨rows, found, _⟩ := serves.database sound (sound.modelTable _ known)
  have columns := rooted.answers items found rfl answered
  intro record member
  obtain ⟨row, inside, rfl⟩ := List.mem_map.mp member
  have width := (relation.query.run_heading rectangular answered).2 row inside
  rw [columns] at width ⊢
  exact Record.names_ofRow (Model.nodup_activeNames (distinct _ (sound.modelTable _ known))) width
    fun column active => (Model.mem_activeNames.mp active).2

theorem Loadable.child_names (loadable : Loadable schema relation loaded) (sound : schema.Sound)
    (distinct : ∀ table ∈ schema.tables, table.columnNames.Nodup) (known : owner ∈ schema.models)
    (known' : target ∈ schema.models) (selects : association.Selects owner target relation)
    (rooted : association.Rooted owner target) :
    ∀ child ∈ loaded, child.Names target (association.keys.foreignKeyAlias :: target.activeNames) := by
  obtain ⟨session, serves, rectangular, done⟩ := loadable
  obtain ⟨_, answer, answered, rfl⟩ := answer_of_records serves done
  obtain ⟨_, parents, _⟩ := serves.database sound (sound.modelTable _ known)
  obtain ⟨_, found, _⟩ := serves.database sound (sound.modelTable _ known')
  have columns := rooted.answers selects parents found rfl answered
  have model : relation.model = target := selects.model_eq
  have unnamed : target.isIgnored association.keys.foreignKeyAlias = false := by
    refine sound.isIgnored_eq_false known' ?_
    rw [← Bool.not_eq_true, Table.hasColumn_iff]
    exact rooted.fresh
  intro child member
  obtain ⟨row, inside, rfl⟩ := List.mem_map.mp member
  have width := (relation.query.run_heading rectangular answered).2 row inside
  rw [columns] at width ⊢
  rw [model]
  refine Record.names_ofRow (List.nodup_cons.mpr ⟨fun active => ?_, ?_⟩) width ?_
  · exact rooted.fresh (Model.mem_activeNames.mp active).1
  · exact Model.nodup_activeNames (distinct _ (sound.modelTable _ known'))
  · exact List.forall_mem_cons.mpr ⟨unnamed, fun column active => (Model.mem_activeNames.mp active).2⟩

/-- What is loaded under the name is loaded for an association of the owner, and has the active columns of its
target behind the alias. -/
def ShowsChildren (schema : Schema) (owner : Model) (name : String) (loaded : Loaded) : Prop :=
  ∃ association target, Targets schema owner name association target ∧
    (association.Rooted owner target → ∀ child ∈ loaded.records,
      child.Names target (association.keys.foreignKeyAlias :: target.activeNames))

/-- The record has the active columns of the relation's model, and so have the children that are loaded with it. -/
structure Shows (schema : Schema) (relation : Relation) (record : Record) : Prop where
  own : relation.Rooted → record.Names relation.model relation.model.activeNames
  children : ∀ name loaded, record.loaded? name = some loaded → ShowsChildren schema relation.model name loaded

/-- Both sessions answer the action alike, and an answer is of this kind. -/
def Alike {α : Type} (session other : Session) (P : α → Prop) (action : Action α) : Prop :=
  (action.on session).1 = (action.on other).1 ∧ ∀ a, (action.on session).1 = .ok a → P a

theorem Loadable.unloaded (loadable : Loadable schema relation loaded) :
    ∀ record ∈ loaded, ∀ name, record.loaded? name = none := by
  obtain ⟨session, serves, _, done⟩ := loadable
  obtain ⟨_, answer, _, rfl⟩ := answer_of_records serves done
  intro record member name
  obtain ⟨row, _, rfl⟩ := List.mem_map.mp member
  rfl

theorem akin_first (relation : Relation) : relation.Akin ((ordered relation).limitTo 1) := by
  unfold ordered
  split <;> exact ⟨rfl, rfl, rfl, rfl⟩

theorem akin_find (model : Model) (key : Value) :
    model.all.Akin ((ordered (model.all.whereEq model.primaryKey key)).limitTo 1) := by
  unfold ordered Relation.whereEq
  split <;> split <;> exact ⟨rfl, rfl, rfl, rfl⟩

theorem akin_page (relation : Relation) (last : Option Value) (size : Nat) :
    relation.Akin (page (byKey relation) last size) := by
  cases last <;> exact ⟨rfl, rfl, rfl, rfl⟩

theorem Twins.alike {α : Type} {veil : Veil} {P P' : α → Prop} {action : Action α}
    (twins : session.Twins schema veil other) (agrees : action.Agrees (Twins schema veil) P)
    (kind : ∀ a, P a → P' a) : session.Alike other P' action := by
  obtain ⟨same, holds, _⟩ := agrees session other twins
  exact ⟨same, fun a answered => kind a (holds a answered)⟩

section

variable (sound : schema.Sound) (distinct : ∀ table ∈ schema.tables, table.columnNames.Nodup)

include sound distinct

theorem Grows.shows {record grown : Record} (grows : Grows schema owner record grown)
    (known : owner ∈ schema.models) : ∀ name loaded, grown.loaded? name = some loaded →
      record.loaded? name = some loaded ∨ ShowsChildren schema owner name loaded := by
  intro name loaded held
  refine (grows.loaded name loaded held).imp_right ?_
  rintro ⟨association, target, targets, fetched⟩
  refine ⟨association, target, targets, fun rooted child member => ?_⟩
  obtain ⟨keys, children, loadable, inside⟩ := fetched child member
  exact loadable.child_names sound distinct known (List.mem_of_find?_eq_some targets.targeted)
    (association.scopeIn_selects owner target keys) rooted child inside

/-- Records of a relation that reads and selects the same. -/
theorem Preloaded.shows {narrowed : Relation} (preloaded : Preloaded schema narrowed loaded)
    (akin : relation.Akin narrowed) (known : relation.model ∈ schema.models) (items : relation.items = []) :
    ∀ record ∈ loaded, Shows schema relation record := by
  obtain ⟨records, loadable, grown⟩ := preloaded
  rw [← akin.model] at known
  intro record member
  obtain ⟨original, inside, grows⟩ := exists_of_mem_forall₂ grown member
  refine ⟨fun rooted => ?_, fun name found held => ?_⟩
  · have own := loadable.names sound distinct known (akin.items.trans items) (akin.rooted rooted) original inside
    rw [← akin.model]
    exact ⟨grows.model.trans own.model, grows.values ▸ own.columns⟩
  · rw [← akin.model]
    refine (grows.shows sound distinct known name found held).resolve_left fun before => ?_
    rw [loadable.unloaded original inside] at before
    cases before

theorem Loadable.shows {narrowed : Relation} (loadable : Loadable schema narrowed loaded)
    (akin : relation.Akin narrowed) (known : relation.model ∈ schema.models) (items : relation.items = []) :
    ∀ record ∈ loaded, Shows schema relation record :=
  Preloaded.shows sound distinct ⟨loaded, loadable, Grows.unchanged loaded⟩ akin known items

end

/-- Sessions that were reached on tables of the schema and differ only in columns that the model ignores answer
alike what names none of these columns: what is loaded of a relation, in batches and with associations too, a record
by its key, and the association of a record. Records of a relation have the active columns of its model, and
children those of their target behind the alias. -/
theorem ignored_values_unseen {tables : List TableDefinition} {models : List ModelDefinition}
    (built : Schema.build tables models = .ok schema)
    (distinct : ∀ table ∈ schema.tables, table.columnNames.Nodup) {model : Model} (known : model ∈ schema.models)
    (reached : session.Reached schema) (reached' : other.Reached schema)
    (same : session.engine.SameBut model other.engine) {names : List String} (named : model.table.name ∈ names) :
    (∀ relation, relation.model ∈ schema.models → relation.Overlooks (model.veil names) →
      session.Alike other (fun loaded => ∀ record ∈ loaded, Shows schema relation record) (all relation) ∧
      session.Alike other (fun found => ∀ record ∈ found, Shows schema relation record) (first relation) ∧
      ∀ loads, Overlook schema (model.veil names) relation.model loads →
        session.Alike other (fun loaded => ∀ record ∈ loaded, Shows schema relation record)
          (preload relation loads) ∧
        ∀ size visit,
          ((findInBatches relation size loads visit).run session).1 =
            ((findInBatches relation size loads visit).run other).1 ∧
          ∀ batch ∈ ((findInBatches relation size loads visit).run session).1.batches,
            ∀ record ∈ batch, Shows schema relation record) ∧
    (∀ key, session.Alike other (Record.Names · model model.activeNames) (find model.name key)) ∧
    (∀ record name, (∀ owner, schema.model? record.model = some owner →
        Overlook schema (model.veil names) owner [name]) →
      session.Alike other (fun loaded => ∃ owner, schema.model? record.model = some owner ∧
        ShowsChildren schema owner name loaded) (Session.association record name)) ∧
    ∀ owner ∈ schema.models, ∀ loads, Overlook schema (model.veil names) owner loads → ∀ records,
      ((preloadRecords owner.name records loads).run session).1 =
        ((preloadRecords owner.name records loads).run other).1 ∧
      List.Forall₂ (fun record grown => ∀ name loaded, grown.loaded? name = some loaded →
        record.loaded? name = some loaded ∨ ShowsChildren schema owner name loaded) records
        ((preloadRecords owner.name records loads).run session).1.2 := by
  have sound := Schema.sound_of_build built
  have twins : session.Twins schema (model.veil names) other :=
    ⟨reached.serves, reached'.serves, same.poisoned, same.near names⟩
  refine ⟨fun relation own overlooks => ⟨?_, ?_, fun loads overlook => ⟨?_, fun size visit => ?_⟩⟩,
    fun key => ?_, fun record name overlook => ?_, fun owner inside loads overlook records => ?_⟩
  · exact twins.alike (all_agrees overlooks.query) fun loaded loadable =>
      loadable.shows sound distinct ⟨rfl, rfl, rfl, rfl⟩ own overlooks.items
  · refine twins.alike (first_agrees overlooks (sound.keyActive _ own)) fun found loads record member => ?_
    obtain ⟨loaded, loadable, rfl⟩ := loads
    exact loadable.shows sound distinct (akin_first relation) own overlooks.items record
      (List.mem_of_mem_head? member)
  · exact twins.alike (preload_agrees sound own named overlooks.query overlook) fun loaded preloaded =>
      preloaded.shows sound distinct ⟨rfl, rfl, rfl, rfl⟩ own overlooks.items
  · obtain ⟨answers, walked, _⟩ :=
      findInBatches_agrees sound own named overlooks overlook size visit session other twins
    refine ⟨answers, fun batch member => ?_⟩
    obtain ⟨last, preloaded⟩ := (walked batch member).resolve_left List.not_mem_nil
    exact preloaded.shows sound distinct (akin_page relation last size) own overlooks.items
  · refine twins.alike (find_agrees (model.overlooks_all named) (sound.keyActive model known)
      (sound.model?_eq known) key) fun record loads => ?_
    obtain ⟨loaded, loadable, member⟩ := loads
    exact (loadable.shows sound distinct (akin_find model key) known rfl record member).own
      (.inr ⟨⟨none, rfl⟩, rfl, rfl⟩)
  · refine twins.alike (association_agrees named ?_) fun loaded loads => ?_
    · intro owner association target modelled targets
      exact overlook owner modelled name (List.mem_singleton_self _) association target targets
    · obtain ⟨owner, association, target, key, children, modelled, targets, loadable, rfl⟩ := loads
      refine ⟨owner, modelled, association, target, targets, fun rooted child member => ?_⟩
      exact loadable.child_names sound distinct (List.mem_of_find?_eq_some modelled)
        (List.mem_of_find?_eq_some targets.targeted) (association.scopeAt_selects owner target key) rooted child
        (Loaded.mem_of_mem_ofRecords member)
  · obtain ⟨answers, grown, _⟩ := preloadRecords_agrees sound named (sound.model?_eq inside) overlook records
      session other twins
    exact ⟨answers, grown.imp fun record grown grows => grows.shows sound distinct inside⟩

end Session

namespace Sample

/-- The same owners and notes, but for what the notes say. -/
def altered : Session :=
  (Session.reset.on (.start schema ⟨0, []⟩)).2.insertAll [
    ("Owner", [("code", .int 7)]), ("Owner", []), ("Owner", [("code", .int 8)]),
    ("Note", [("owner_code", .int 7), ("body", .text "b")]),
    ("Note", [("owner_code", .int 8)]),
    ("Note", [("owner_code", .int 7), ("body", .text "d")]), ("Note", [("body", .text "e")])]

theorem altered_reached : altered.Reached schema := (Session.Reached.fresh _).insertAll _

def alteredEngine : Engine :=
  ⟨⟨[⟨"owners", ownerTable.columns, [[.int 1, .int 7], [.int 2, .null], [.int 3, .int 8]], 4⟩,
    ⟨"notes", noteTable.columns, [[.int 1, .int 7, .text "b"], [.int 2, .int 8, .null],
      [.int 3, .int 7, .text "d"], [.int 4, .null, .text "e"]], 5⟩]⟩, false⟩

theorem altered_engine_eq : altered.engine = alteredEngine := rfl

theorem altered_same : session.engine.SameBut note altered.engine := by
  rw [engine_eq, altered_engine_eq]
  refine ⟨rfl, .cons ⟨rfl, rfl, ?_⟩ (.cons ⟨rfl, rfl, ?_⟩ .nil)⟩
  · exact List.forall₂_same.mpr fun row member => .refl _ (by fin_cases member <;> rfl)
  · have but : ∀ {id code : Value} {said other : Value},
        SameBut (fun column => "notes" = note.table.name ∧ column ∈ note.ignored) ["id", "owner_code", "body"]
          [id, code, said] [id, code, other] :=
      .cons (fun _ => rfl) (.cons (fun _ => rfl) (.cons (fun shown => absurd ⟨rfl, by simp [note]⟩ shown) .nil))
    exact .cons but (.cons but (.cons but (.cons but .nil)))

theorem notes_overlooks : notes.Overlooks owner note (note.veil ["notes"]) := by
  have children : (notes.children owner note).Overlooks (note.veil ["notes"]) := by
    have direct : (notes.children owner note).Direct (notes.children owner note).model.table.name :=
      ⟨⟨none, rfl⟩, rfl, rfl⟩
    refine direct.overlooks rfl (by decide) (fun _ absent => nomatch absent) fun term member c named => ?_
    rw [List.mem_singleton.mp member] at named
    rw [List.mem_singleton.mp named]
    rfl
  exact .of_children (by decide) children rfl rfl (fun shared => by simp [owner, ownerTable] at shared) rfl

theorem owner_overlooks : owner.all.Overlooks (note.veil ["notes"]) where
  items := rfl
  covers := fun column hides => absurd hides.1 (by decide)
  source := fun same => absurd same (by decide)
  joins := trivial
  filter := fun _ absent => nomatch absent
  order := fun _ absent => absurd absent List.not_mem_nil

/-- What notes say does not matter for what owners load of them, nor for a note that is found by its key. -/
theorem ignored_values_unseen_bodies :
    session.engine.store.database "notes" ≠ altered.engine.store.database "notes" ∧
    session.Alike altered (fun loaded => ∀ record ∈ loaded, Session.Shows schema owner.all record)
      (Session.preload owner.all ["notes"]) ∧
    session.Alike altered (Record.Names · note ["id", "owner_code"]) (Session.find "Note" (.int 1)) := by
  have distinct : ∀ table ∈ schema.tables, table.columnNames.Nodup := by decide
  have known : note ∈ schema.models := by simp [schema]
  have named : note.table.name ∈ ["notes"] := by decide
  obtain ⟨relations, found, _⟩ :=
    Session.ignored_values_unseen built distinct known reached altered_reached altered_same named
  have overlook : Session.Overlook schema (note.veil ["notes"]) owner ["notes"] := by
    intro name inside association target targets
    cases List.mem_singleton.mp inside
    cases targets.named
    cases targets.targeted
    exact notes_overlooks
  obtain ⟨_, _, loads⟩ := relations owner.all (by simp [schema, Model.all]) owner_overlooks
  refine ⟨?_, (loads ["notes"] overlook).1, found (.int 1)⟩
  rw [engine_eq, altered_engine_eq]
  decide

/-- Notes next to the owners, if they say so. -/
def besideOwners : Relation :=
  note.all.withJoin ⟨.inner, .table owner.ref, .compare .eq (note.all.column "body") (.const (.text "a"))⟩

/-- A join may ask for an ignored column: with one body the note is loaded, once for each owner, and with another
it is not. A relation without ignored columns that reads another table has the columns of that table, and children
next to an owner's table with the name for lateral subqueries have the columns of the owner. -/
theorem ignored_value_seen_by_join :
    (besideOwners.items = [] ∧ besideOwners.filter = none ∧ besideOwners.order = [] ∧
      session.Reached schema ∧ altered.Reached schema ∧ session.engine.SameBut note altered.engine ∧
      ((Session.first besideOwners).on session).1 =
        .ok (some ⟨"Note", [("id", .int 1), ("owner_code", .int 7)], []⟩) ∧
      ((Session.first besideOwners).on altered).1 = .ok none) ∧
    ((Session.first (owner.all.withTable note.ref)).on session).1 =
      .ok (some ⟨"Owner", [("id", .int 1), ("owner_code", .int 7), ("body", .text "a")], []⟩) ∧
    ((Session.association Homonym.record "notes").on Homonym.session).1 =
      .ok (.many [⟨"Note", [("tag", .int 7), ("id", .int 1)], []⟩]) ∧
    Homonym.note.activeNames = ["id", "owner_id"] := by
  have kept : session.records ((Session.ordered besideOwners).limitTo 1) =
      .ok [⟨"Note", [("id", .int 1), ("owner_code", .int 7)], []⟩] := by
    rw [Session.records_eq reached.serves, engine_eq, Relation.query_limited _ 1 rfl rfl]
    cbv
  have dropped : altered.records ((Session.ordered besideOwners).limitTo 1) = .ok [] := by
    rw [Session.records_eq altered_reached.serves, altered_engine_eq, Relation.query_limited _ 1 rfl rfl]
    cbv
  have renamed : session.records ((Session.ordered (owner.all.withTable note.ref)).limitTo 1) =
      .ok [⟨"Owner", [("id", .int 1), ("owner_code", .int 7), ("body", .text "a")], []⟩] := by
    rw [Session.records_eq reached.serves, engine_eq, Relation.query_limited _ 1 rfl rfl]
    cbv
  rw [Session.first_leaves, Session.first_leaves, Session.first_leaves, kept, dropped, renamed]
  exact ⟨⟨rfl, rfl, rfl, reached, altered_reached, altered_same, rfl, rfl⟩, rfl,
    Homonym.association_loads_note, rfl⟩

end Sample

end Relata
