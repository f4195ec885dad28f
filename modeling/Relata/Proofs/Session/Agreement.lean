import Relata.Proofs.Session.Divided
import Relata.Proofs.Session.Preload

/-!
Loading associations at once and one by one. A record that is loaded together with others gets the
children that it would have loaded by itself.
-/

namespace Relata

namespace Session

variable {schema : Schema} {session : Session} {association : Association} {owner target : Model}

/-- What the record loads for the association by itself. Without a key it has no children. -/
structure Supplies (session : Session) (association : Association) (record : Record)
    (loaded : Loaded) : Prop where
  keyed : ∀ key, record.get? association.keys.primaryKey = some key → key ≠ .null →
    ((Session.association record association.name).on session).1 = .ok loaded
  keyless : (∀ key, record.get? association.keys.primaryKey = some key → key = .null) →
    loaded = .ofRecords association.single []

/-- The record has a key, but cannot load the association by itself. -/
def Refuses (session : Session) (association : Association) (record : Record) : Prop :=
  ∃ key failure, record.get? association.keys.primaryKey = some key ∧ key ≠ .null ∧
    ((Session.association record association.name).on session).1 = .error failure

theorem Supplies.not_refuses {record : Record} {loaded : Loaded}
    (supplied : session.Supplies association record loaded) :
    ¬ session.Refuses association record := by
  rintro ⟨key, failure, held, nonnull, fails⟩
  rw [supplied.keyed key held nonnull] at fails
  cases fails

/-- The association as it stands in its owner, with its target. -/
structure Ready (schema : Schema) (owner : Model) (association : Association) (target : Model) :
    Prop where
  named : owner.association? association.name = some association
  targeted : schema.model? association.target = some target
  told : association.Told owner target

theorem keysOf_takes {column : String} (distinct : owner.table.columnNames.Nodup)
    {records : List Record} (held : ∀ record ∈ records, owner.Holds record)
    (nonempty : keysOf records column ≠ []) :
    ∃ declared, owner.table.column? column = some declared ∧ column ∈ owner.table.columnNames ∧
      ∀ key ∈ keysOf records column, declared.Takes key := by
  obtain ⟨first, among⟩ := List.exists_mem_of_ne_nil _ nonempty
  obtain ⟨_, record, inside, keyed⟩ := mem_keysOf.mp among
  obtain ⟨declared, found, present, _⟩ := (held record inside).takes distinct keyed
  refine ⟨declared, found, present, fun key among => ?_⟩
  obtain ⟨_, record, inside, keyed⟩ := mem_keysOf.mp among
  obtain ⟨other, again, _, taken⟩ := (held record inside).takes distinct keyed
  rw [found] at again
  cases again
  exact taken

theorem childrenOf_keyless {record : Record} {children : List Record}
    (keyed : ∀ child ∈ children, ∃ key,
      key ≠ .null ∧ child.get? association.keys.foreignKeyAlias = some key)
    (keyless : ∀ key, record.get? association.keys.primaryKey = some key → key = .null) :
    childrenOf record association children = [] := by
  rw [childrenOf]
  cases own : record.get? association.keys.primaryKey with
  | none => rfl
  | some key =>
      refine List.filter_eq_nil_iff.mpr fun child loaded matching => ?_
      obtain ⟨other, nonnull, behind⟩ := keyed child loaded
      rw [keyless key own, behind, Option.getD_some, beq_iff_eq] at matching
      exact nonnull matching

theorem association_answer (serves : session.Serves schema) (sound : schema.Sound)
    (known : owner ∈ schema.models) (ready : Ready schema owner association target)
    {record : Record} (held : owner.Holds record) {key : Value}
    (keyed : record.get? association.keys.primaryKey = some key) (nonnull : key ≠ .null) :
    ((Session.association record association.name).on session).1 =
      (session.records (association.scopeAt owner target key)).map
        (.ofRecords association.single) := by
  have modelled : schema.model? record.model = some owner := by
    rw [held.1]
    exact sound.model?_eq known
  rw [association_on serves modelled ready.named ready.targeted keyed nonnull]

theorem supplies_of_divides (serves : session.Serves schema) (sound : schema.Sound)
    (known : owner ∈ schema.models) (ready : Ready schema owner association target)
    {records children : List Record} (divides : session.Divides association owner target
      (keysOf records association.keys.primaryKey) children) {record : Record}
    (inside : record ∈ records) (held : owner.Holds record) :
    session.Supplies association record
      (.ofRecords association.single (childrenOf record association children)) where
  keyed := by
    intro key own nonnull
    obtain ⟨owned, done, same⟩ := divides.each key (mem_keysOf.mpr ⟨nonnull, record, inside, own⟩)
    rw [association_answer serves sound known ready held own nonnull, done, Except.map, same,
      childrenOf, own]
  keyless := by
    intro keyless
    have behind : ∀ child ∈ children, ∃ key,
        key ≠ .null ∧ child.get? association.keys.foreignKeyAlias = some key := by
      intro child loaded
      obtain ⟨key, among, held⟩ := divides.keyed child loaded
      exact ⟨key, (mem_keysOf.mp among).1, held⟩
    rw [childrenOf_keyless behind keyless]

theorem records_keysOf (serves : session.Serves schema) (sound : schema.Sound)
    (known : owner ∈ schema.models) (distinct : owner.table.columnNames.Nodup)
    (ready : Ready schema owner association target) {records : List Record}
    (held : ∀ record ∈ records, owner.Holds record)
    (nonempty : keysOf records association.keys.primaryKey ≠ []) :
    (∃ children, session.records (association.scopeIn owner target
        (keysOf records association.keys.primaryKey)) = .ok children ∧
      session.Divides association owner target
        (keysOf records association.keys.primaryKey) children) ∨
    (∃ failure, session.records (association.scopeIn owner target
        (keysOf records association.keys.primaryKey)) = .error failure) ∧
      ∃ key ∈ keysOf records association.keys.primaryKey, ∃ failure,
        session.records (association.scopeAt owner target key) = .error failure := by
  have nonnull : .null ∉ keysOf records association.keys.primaryKey := fun among =>
    (mem_keysOf.mp among).1 rfl
  obtain ⟨column, declared, present, takes⟩ := keysOf_takes distinct held nonempty
  obtain ⟨rows, owners, typed⟩ := serves.database sound (sound.modelTable owner known)
  have member := List.mem_of_find?_eq_some ready.targeted
  obtain ⟨targetRows, targets, _⟩ := serves.database sound (sound.modelTable target member)
  have unused : target.isIgnored association.keys.foreignKeyAlias = false := by
    refine sound.isIgnored_eq_false member ?_
    rw [← Bool.not_eq_true, Table.hasColumn_iff]
    exact ready.told.fresh
  exact records_scopes serves owners typed targets declared present ready.told unused nonnull takes
    nonempty

/-- Loading an association of records gives each of them what it would load by itself, or fails with
one that would fail by itself. -/
theorem loadAssociation_supplies (serves : session.Serves schema) (sound : schema.Sound)
    (known : owner ∈ schema.models) (distinct : owner.table.columnNames.Nodup)
    (ready : Ready schema owner association target) {records : List Record}
    (held : ∀ record ∈ records, owner.Holds record) :
    (∃ children after, (loadAssociation owner association records).on session =
        (.ok (records.map (withChildren association children)), after) ∧
      after.Serves schema ∧ after.engine = session.engine ∧
      ∀ record ∈ records, session.Supplies association record
        (.ofRecords association.single (childrenOf record association children))) ∨
    ∃ failure after, (loadAssociation owner association records).on session =
        (.error failure, after) ∧
      ∃ record ∈ records, session.Refuses association record := by
  rw [loadAssociation_on serves ready.targeted]
  by_cases none : (keysOf records association.keys.primaryKey).isEmpty = true
  · left
    have divides : session.Divides association owner target
        (keysOf records association.keys.primaryKey) [] := by
      rw [List.isEmpty_iff.mp none]
      exact ⟨by simp, by simp⟩
    rw [if_pos none]
    exact ⟨[], session, rfl, serves, rfl, fun record inside =>
      supplies_of_divides serves sound known ready divides inside (held record inside)⟩
  · rw [if_neg none]
    rcases records_keysOf serves sound known distinct ready held
      (fun nil => none (List.isEmpty_iff.mpr nil)) with
      ⟨children, done, divides⟩ | ⟨⟨failure, fails⟩, key, among, refusal, refused⟩
    · left
      exact ⟨children, _, by simp only [done]; rfl, serves.after _, rfl, fun record inside =>
        supplies_of_divides serves sound known ready divides inside (held record inside)⟩
    · right
      obtain ⟨present, record, inside, keyed⟩ := mem_keysOf.mp among
      refine ⟨failure, _, by simp only [fails]; rfl, record, inside, key, refusal, keyed, present, ?_⟩
      rw [association_answer serves sound known ready (held record inside) keyed present, refused]
      rfl

theorem Supplies.of_same {other : Session} (serves : session.Serves schema)
    (served : other.Serves schema) (same : other.engine = session.engine) {record changed : Record}
    (model : changed.model = record.model) (values : changed.values = record.values)
    {loaded : Loaded} (supplied : other.Supplies association changed loaded) :
    session.Supplies association record loaded := by
  obtain ⟨keyed, keyless⟩ := supplied
  simp only [Record.get?, values, association_congr serves served same model values] at keyed keyless
  exact ⟨keyed, keyless⟩

theorem Refuses.of_same {other : Session} (serves : session.Serves schema)
    (served : other.Serves schema) (same : other.engine = session.engine) {record changed : Record}
    (model : changed.model = record.model) (values : changed.values = record.values)
    (refused : other.Refuses association changed) : session.Refuses association record := by
  obtain ⟨key, failure, keyed, nonnull, fails⟩ := refused
  rw [Record.get?, values] at keyed
  rw [association_congr serves served same model values] at fails
  exact ⟨key, failure, keyed, nonnull, fails⟩

/-- The record with what it would load by itself for each of the associations. -/
structure Given (session : Session) (associations : List Association) (record loaded : Record) :
    Prop where
  model : loaded.model = record.model
  values : loaded.values = record.values
  supplied : ∀ association ∈ associations, ∃ children,
    loaded.loaded? association.name = some children ∧ session.Supplies association record children
  others : ∀ name, (∀ association ∈ associations, association.name ≠ name) →
    loaded.loaded? name = record.loaded? name

/-- An association that is loaded before others stays, unless one of them has its name and is the
same one. -/
theorem Given.cons {other : Session} (serves : session.Serves schema) (served : other.Serves schema)
    (same : other.engine = session.engine) {rest : List Association}
    (named : ∀ later ∈ rest, later.name = association.name → later = association)
    {children : List Record} {record loaded : Record}
    (first : session.Supplies association record
      (.ofRecords association.single (childrenOf record association children)))
    (given : other.Given rest (withChildren association children record) loaded) :
    session.Given (association :: rest) record loaded where
  model := given.model
  values := given.values
  supplied := by
    have model : (withChildren association children record).model = record.model := rfl
    have values : (withChildren association children record).values = record.values := rfl
    have later : ∀ later ∈ rest, ∃ children, loaded.loaded? later.name = some children ∧
        session.Supplies later record children := by
      intro later inside
      obtain ⟨own, held, supplied⟩ := given.supplied later inside
      exact ⟨own, held, supplied.of_same serves served same model values⟩
    intro a member
    rcases List.mem_cons.mp member with rfl | member
    · by_cases again : a ∈ rest
      · exact later a again
      · have kept := given.others a.name fun later inside same =>
          again (named later inside same ▸ inside)
        refine ⟨_, kept.trans ?_, first⟩
        rw [withChildren, Record.loaded?_setLoaded, if_pos rfl]
    · exact later a member
  others := by
    intro name absent
    rw [given.others name fun later inside => absent later (List.mem_cons_of_mem _ inside),
      withChildren, Record.loaded?_setLoaded, if_neg (Ne.symm (absent _ List.mem_cons_self))]

theorem holds_withChildren {records : List Record} (held : ∀ record ∈ records, owner.Holds record)
    (children : List Record) :
    ∀ record ∈ records.map (withChildren association children), owner.Holds record := by
  intro record changed
  obtain ⟨original, inside, rfl⟩ := List.mem_map.mp changed
  exact held original inside

theorem loadAssociations_given (serves : session.Serves schema) (sound : schema.Sound)
    (known : owner ∈ schema.models) (distinct : owner.table.columnNames.Nodup)
    {associations : List Association}
    (ready : ∀ association ∈ associations, ∃ target, Ready schema owner association target)
    {records : List Record} (held : ∀ record ∈ records, owner.Holds record) :
    ∃ done loaded after, (loadAssociations owner associations records).run session =
        ((done, loaded), after) ∧
      (done = .ok () ∧ List.Forall₂ (session.Given associations) records loaded ∨
        (∃ failure, done = .error failure) ∧
          ∃ association ∈ associations, ∃ record ∈ records, session.Refuses association record) := by
  induction associations generalizing session records with
  | nil =>
      refine ⟨_, _, _, rfl, .inl ⟨rfl, List.forall₂_same.mpr fun record _ => ?_⟩⟩
      exact ⟨rfl, rfl, by simp, fun _ _ => rfl⟩
  | cons association rest ih =>
      obtain ⟨target, first⟩ := ready association List.mem_cons_self
      have others := fun later inside => ready later (List.mem_cons_of_mem _ inside)
      rcases loadAssociation_supplies serves sound known distinct first held with
        ⟨children, after, step, served, same, supplied⟩ | ⟨failure, after, step, refused⟩
      · obtain ⟨done, loaded, last, run, outcome⟩ :=
          ih served others (holds_withChildren held children)
        have named : ∀ later ∈ rest, later.name = association.name → later = association := by
          intro later inside name
          obtain ⟨_, second⟩ := others later inside
          have found := second.named
          rw [name, first.named] at found
          exact (Option.some.inj found).symm
        refine ⟨done, loaded, last, ?_, ?_⟩
        · rw [loadAssociations_cons, step]
          exact run
        · rcases outcome with ⟨finished, given⟩ | ⟨failed, later, inside, record, changed, refused⟩
          · refine .inl ⟨finished, ?_⟩
            rw [List.forall₂_map_left_iff] at given
            rw [List.forall₂_iff_get] at given ⊢
            refine ⟨given.1, fun i inside bound => ?_⟩
            exact .cons serves served same named (supplied _ (List.get_mem _ _))
              (given.2 i inside bound)
          · obtain ⟨original, among, rfl⟩ := List.mem_map.mp changed
            exact .inr ⟨failed, later, List.mem_cons_of_mem _ inside, original, among,
              refused.of_same serves served same rfl rfl⟩
      · refine ⟨.error failure, records, after, ?_, .inr ⟨⟨failure, rfl⟩, association,
          List.mem_cons_self, refused⟩⟩
        rw [loadAssociations_cons, step]

/-- A record that a relation on the model's table loaded at any time, with whatever associations were
loaded for it since. -/
def Fetched (schema : Schema) (model : Model) (record : Record) : Prop :=
  ∃ (before : Session) (relation : Relation) (loaded : List Record) (original : Record),
    before.Reached schema ∧ relation.model = model ∧ relation.Direct model.table.name ∧
      before.records relation = .ok loaded ∧ original ∈ loaded ∧
      record.model = original.model ∧ record.values = original.values

theorem Fetched.holds (sound : schema.Sound) (known : owner ∈ schema.models) {record : Record}
    (fetched : Fetched schema owner record) : owner.Holds record := by
  obtain ⟨before, relation, loaded, original, reached, rfl, direct, done, inside, model, values⟩ :=
    fetched
  obtain ⟨row, typed, rfl⟩ :=
    exists_row_of_mem_records reached.serves sound known direct done original inside
  exact ⟨model, row, typed, values⟩

/-- Loading associations of many records at once, with the records or after them, gives each record
what it would load by itself, and fails if and only if a record with a key would fail by itself. -/
theorem preloadRecords_agrees_with_association {tables : List TableDefinition}
    {models : List ModelDefinition} (built : Schema.build tables models = .ok schema)
    (reached : session.Reached schema) (known : owner ∈ schema.models)
    (distinct : owner.table.columnNames.Nodup) {names : List String}
    {associations : List Association} (resolved : names.mapM owner.association = .ok associations)
    (told : ∀ association ∈ associations, ∀ target,
      schema.model? association.target = some target → association.Told owner target)
    {records : List Record} (fetched : ∀ record ∈ records, Fetched schema owner record) :
    ∃ done loaded, ((preloadRecords owner.name records names).run session).1 = (done, loaded) ∧
      ((∃ failure, done = .error failure) ↔
        ∃ association ∈ associations, ∃ record ∈ records, session.Refuses association record) ∧
      (done = .ok () → List.Forall₂ (session.Given associations) records loaded) ∧
      ∀ relation, relation.model = owner → session.records relation = .ok records →
        ((preload relation names).on session).1 = done.map fun _ => loaded := by
  have sound := Schema.sound_of_build built
  have serves := reached.serves
  have ready : ∀ association ∈ associations, ∃ target, Ready schema owner association target := by
    intro association inside
    obtain ⟨named, target, targeted⟩ := named_of_resolved sound known resolved association inside
    exact ⟨target, named, targeted, told association inside target targeted⟩
  have held := fun record inside => (fetched record inside).holds sound known
  obtain ⟨done, loaded, after, run, outcome⟩ :=
    loadAssociations_given serves sound known distinct ready held
  refine ⟨done, loaded, ?_, ?_, ?_, ?_⟩
  · rw [preloadRecords_run serves (sound.model?_eq known) resolved, run]
  · constructor
    · rintro ⟨failure, rfl⟩
      rcases outcome with ⟨finished, _⟩ | ⟨_, refused⟩
      · cases finished
      · exact refused
    · rintro ⟨association, inside, record, among, refused⟩
      rcases outcome with ⟨_, given⟩ | ⟨failed, _⟩
      · obtain ⟨i, bound, rfl⟩ := List.mem_iff_getElem.mp among
        have one := (List.forall₂_iff_get.mp given).2 i bound
          ((List.forall₂_iff_get.mp given).1 ▸ bound)
        obtain ⟨_, _, supplied⟩ := one.supplied association inside
        exact absurd refused supplied.not_refuses
      · exact failed
  · rintro rfl
    rcases outcome with ⟨_, given⟩ | ⟨⟨_, failed⟩, _⟩
    · exact given
    · cases failed
  · rintro relation rfl fetches
    have targeted : ∀ association ∈ associations, ∃ target,
        schema.model? association.target = some target := fun association inside =>
      (named_of_resolved sound known resolved association inside).2
    have same : ((loadAssociations relation.model associations records).run
        (session.after relation)).1 = (done, loaded) := by
      rw [loadAssociations_congr serves (serves.after relation) rfl targeted records, run]
    rw [preload_on serves resolved fetches]
    generalize (loadAssociations relation.model associations records).run
      (session.after relation) = result at same ⊢
    obtain ⟨_, last⟩ := result
    cases same
    cases done <;> rfl

end Session

namespace Sample

theorem notes_told : notes.Told owner note where
  scope := by
    intro step member
    rcases List.mem_cons.mp member with rfl | member
    · trivial
    · rw [List.mem_singleton.mp member]
      trivial
  fresh := by decide
  unlike := by decide

theorem latest_told : latest.Told owner note where
  scope := by
    intro step member
    rw [List.mem_singleton.mp member]
    trivial
  fresh := by decide
  unlike := by decide

theorem fetched_owners : ∀ record ∈ owners, Session.Fetched schema owner record := by
  intro record inside
  exact ⟨session, owner.all, owners, record, reached, rfl, ⟨⟨none, rfl⟩, rfl, rfl⟩,
    records_owners, inside, rfl, rfl⟩

/-- All notes and the newest note of all owners, one of them without a key and two of them the same. -/
theorem preloadRecords_agrees_for_owners :
    ∃ loaded, ((Session.preloadRecords "Owner" (owners ++ owners) ["notes", "latest"]).run
        session).1 = (.ok (), loaded) ∧
      List.Forall₂ (session.Given [notes, latest]) (owners ++ owners) loaded := by
  have known : owner ∈ schema.models := by simp [schema]
  have told : ∀ association ∈ [notes, latest], ∀ target,
      schema.model? association.target = some target → association.Told owner target := by
    intro association inside target targeted
    simp only [List.mem_cons, List.not_mem_nil, or_false] at inside
    rcases inside with rfl | rfl
    · cases targeted
      exact notes_told
    · cases targeted
      exact latest_told
  have fetched : ∀ record ∈ owners ++ owners, Session.Fetched schema owner record := by
    intro record inside
    rcases List.mem_append.mp inside with inside | inside
    · exact fetched_owners record inside
    · exact fetched_owners record inside
  have resolved : ["notes", "latest"].mapM owner.association = .ok [notes, latest] := rfl
  obtain ⟨done, loaded, run, _, given, _⟩ := Session.preloadRecords_agrees_with_association built
    reached known (by decide) resolved told fetched
  have modelled : schema.model? owner.name = some owner := rfl
  obtain ⟨newest, records_latest⟩ :
      ∃ children, session.records (latest.scopeIn owner note [.int 7, .int 8]) = .ok children := by
    rw [Session.records_eq reached.serves, engine_eq, Association.scopeIn, Relation.perParent,
      Relation.besideParent_limited _ _ _ _ 1 rfl rfl]
    exact ⟨_, by cbv⟩
  have finished : ((Session.preloadRecords owner.name (owners ++ owners) ["notes", "latest"]).run
      session).1.1 = .ok () := by
    have keyed : Session.keysOf (owners ++ owners) notes.keys.primaryKey = [.int 7, .int 8] := rfl
    have still : ∀ children, Session.keysOf ((owners ++ owners).map (Session.withChildren notes children))
        latest.keys.primaryKey = [.int 7, .int 8] := fun _ => rfl
    have targeted : schema.model? notes.target = some note := rfl
    have likewise : schema.model? latest.target = some note := rfl
    have later := reached.serves.after (notes.scopeIn owner note [.int 7, .int 8])
    rw [Session.preloadRecords_run reached.serves modelled resolved,
      Session.loadAssociations_loads reached.serves targeted keyed (by decide) records_notes,
      Session.loadAssociations_loads later likewise (still _) (by decide)
        ((Session.records_after reached.serves _ _).trans records_latest)]
    rfl
  rw [run] at finished
  simp only at finished
  subst finished
  exact ⟨loaded, run, given rfl⟩

end Sample

/-!
Owners in a table with the name that the children's rows have beside their parents. One of its columns
is the alias, so the owners' own values are taken for keys.
-/

namespace Homonym

def tables : List TableDefinition := [
  ⟨"lateral_table", [.primaryKey "id", .column "tag" (.integer 8) false]⟩,
  ⟨"notes", [.primaryKey "id", .column "owner_id" (.integer 8) false]⟩]

def models : List ModelDefinition := [
  ⟨"Owner", "lateral_table", none, [],
    [⟨false, "notes", "Note", [], none, some "owner_id", some "tag"⟩]⟩,
  ⟨"Note", "notes", none, [], []⟩]

def ownerTable : Table :=
  ⟨"lateral_table", [⟨"id", .integer 8, false, true, true⟩, ⟨"tag", .integer 8, false, false, false⟩]⟩

def noteTable : Table :=
  ⟨"notes", [⟨"id", .integer 8, false, true, true⟩, ⟨"owner_id", .integer 8, false, false, false⟩]⟩

def notes : Association := ⟨"notes", false, "Note", [], ⟨"id", "owner_id", "tag"⟩⟩

def owner : Model := ⟨"Owner", ownerTable, "id", [], [notes]⟩

def note : Model := ⟨"Note", noteTable, "id", [], []⟩

def schema : Schema := ⟨[ownerTable, noteTable], [owner, note]⟩

def session : Session :=
  (Session.reset.on (.start schema ⟨0, []⟩)).2.insertAll [
    ("Owner", [("tag", .int 7)]), ("Note", [("owner_id", .int 1)])]

theorem reached : session.Reached schema := (Session.Reached.fresh _).insertAll _

def record : Record := ⟨"Owner", [("id", .int 1), ("tag", .int 7)], []⟩

def engine : Engine :=
  ⟨⟨[⟨"lateral_table", ownerTable.columns, [[.int 1, .int 7]], 2⟩,
    ⟨"notes", noteTable.columns, [[.int 1, .int 1]], 2⟩]⟩, false⟩

theorem engine_eq : session.engine = engine := rfl

theorem records_owner : session.records owner.all = .ok [record] := by
  rw [Session.records_eq reached.serves, engine_eq]
  cbv

theorem association_loads_note : ((Session.association record "notes").on session).1 =
    .ok (.many [⟨"Note", [("tag", .int 7), ("id", .int 1)], []⟩]) := by
  have modelled : schema.model? owner.name = some owner := rfl
  have named : owner.association? "notes" = some notes := rfl
  have targeted : schema.model? notes.target = some note := rfl
  have keyed : record.get? notes.keys.primaryKey = some (.int 1) := rfl
  have loads : session.records (notes.scopeAt owner note (.int 1)) =
      .ok [⟨"Note", [("tag", .int 7), ("id", .int 1)], []⟩] := by
    rw [Session.records_eq reached.serves, engine_eq]
    cbv
  rw [Session.association_on reached.serves modelled named targeted keyed (by decide), loads]
  rfl

/-- By itself the owner loads its note, which then has the owner's tag. Loaded with others, it gets
no note, because no key is the tag. -/
theorem preloadRecords_misses_note :
    Schema.build tables models = .ok schema ∧ session.Reached schema ∧ owner ∈ schema.models ∧
    (∀ table ∈ schema.tables, table.columnNames.Nodup) ∧
    owner.association? "notes" = some notes ∧ schema.model? notes.target = some note ∧
    (∀ step ∈ notes.scope, step.KeepsTable) ∧
    notes.keys.foreignKeyAlias ∉ note.table.columnNames ∧
    Session.Fetched schema owner record ∧ record.get? notes.keys.primaryKey = some (.int 1) ∧
    ((Session.association record "notes").on session).1 =
      .ok (.many [⟨"Note", [("tag", .int 7), ("id", .int 1)], []⟩]) ∧
    ((Session.preloadRecords "Owner" [record] ["notes"]).run session).1 =
      (.ok (), [record.setLoaded "notes" (.many [])]) := by
  have modelled : schema.model? owner.name = some owner := rfl
  have targeted : schema.model? notes.target = some note := rfl
  have key : Session.keysOf [record] notes.keys.primaryKey = [.int 1] := rfl
  have resolved : ["notes"].mapM owner.association = .ok [notes] := rfl
  have together : session.records (notes.scopeIn owner note [.int 1]) =
      .ok [⟨"Note", [("tag", .int 7), ("id", .int 1)], []⟩] := by
    rw [Session.records_eq reached.serves, engine_eq]
    cbv
  refine ⟨rfl, reached, by simp [schema], by decide, rfl, rfl, by simp [notes], by decide, ?_, rfl,
    association_loads_note, ?_⟩
  · exact ⟨session, owner.all, [record], record, reached, rfl, ⟨⟨none, rfl⟩, rfl, rfl⟩, records_owner,
      List.mem_singleton.mpr rfl, rfl, rfl⟩
  · have loads := Session.preloadRecords_run reached.serves modelled resolved [record]
    rw [Session.loadAssociations_loads reached.serves targeted key (by decide) together] at loads
    exact congrArg Prod.fst loads

end Homonym

end Relata
