import Relata.Proofs.Session.Loads

/-!
Loading associations of many records. Each association is loaded by one query for all keys among the
records; tables and values stay as they are.
-/

namespace Relata

theorem Model.association_eq_ok_iff {model : Model} {name : String} {association : Association} :
    model.association name = .ok association ↔ model.association? name = some association := by
  unfold Model.association
  cases model.association? name <;> simp

theorem Model.association_eq_error {model : Model} {name : String}
    (unknown : model.association? name = none) :
    model.association name = .error (.of (.unknownAssociation model.name name)) := by
  rw [Model.association, unknown]

theorem Model.name_of_association {model : Model} {name : String} {association : Association}
    (found : model.association name = .ok association) : association.name = name := by
  simpa using List.find?_some (Model.association_eq_ok_iff.mp found)

theorem Model.names_of_associations {model : Model} {names : List String}
    {associations : List Association} (resolved : names.mapM model.association = .ok associations) :
    associations.map Association.name = names := by
  have same := map_eq_of_mapM (h := id) resolved fun _ _ found => Model.name_of_association found
  rwa [List.map_id] at same

namespace Session

variable {schema : Schema} {session : Session} {association : Association} {owner target : Model}

theorem mem_foldl_keys {values keys : List Value} {key : Value} :
    key ∈ values.foldl (fun keys value =>
      if value.isNull || keys.contains value then keys else keys ++ [value]) keys ↔
      key ∈ keys ∨ key ≠ .null ∧ key ∈ values := by
  induction values generalizing keys with
  | nil => simp
  | cons value rest ih =>
      rw [List.foldl_cons, ih, List.mem_cons]
      by_cases skipped : (value.isNull || keys.contains value) = true
      · rw [if_pos skipped]
        rw [Bool.or_eq_true, Value.isNull_iff, List.contains_iff_mem] at skipped
        constructor
        · rintro (inside | ⟨nonnull, later⟩)
          · exact .inl inside
          · exact .inr ⟨nonnull, .inr later⟩
        · rintro (inside | ⟨nonnull, rfl | later⟩)
          · exact .inl inside
          · exact .inl (skipped.resolve_left nonnull)
          · exact .inr ⟨nonnull, later⟩
      · rw [if_neg skipped, List.mem_append, List.mem_singleton]
        rw [Bool.or_eq_true, Value.isNull_iff, not_or] at skipped
        constructor
        · rintro ((inside | rfl) | ⟨nonnull, later⟩)
          · exact .inl inside
          · exact .inr ⟨skipped.1, .inl rfl⟩
          · exact .inr ⟨nonnull, .inr later⟩
        · rintro (inside | ⟨nonnull, same | later⟩)
          · exact .inl (.inl inside)
          · exact .inl (.inr same)
          · exact .inr ⟨nonnull, later⟩

theorem mem_keysOf {records : List Record} {column : String} {key : Value} :
    key ∈ keysOf records column ↔
      key ≠ .null ∧ ∃ record ∈ records, record.get? column = some key := by
  rw [keysOf, mem_foldl_keys]
  simp

def withChildren (association : Association) (children : List Record) (record : Record) : Record :=
  record.setLoaded association.name
    (.ofRecords association.single (childrenOf record association children))

theorem values_withChildren (association : Association) (children records : List Record) :
    (records.map (withChildren association children)).map (·.values) = records.map (·.values) := by
  rw [List.map_map]
  rfl

theorem loadAssociation_on (serves : session.Serves schema)
    (targeted : schema.model? association.target = some target) (records : List Record) :
    (loadAssociation owner association records).on session =
      if (keysOf records association.keys.primaryKey).isEmpty then
        (.ok (records.map (withChildren association [])), session)
      else
        let scope := association.scopeIn owner target
          (keysOf records association.keys.primaryKey)
        ((session.records scope).map fun children => records.map (withChildren association children),
          session.after scope) := by
  rw [loadAssociation]
  by_cases none : (keysOf records association.keys.primaryKey).isEmpty = true
  · rw [if_pos none, if_pos none]
    rfl
  · have scope : association.scopeForOwners session.schema owner
        (keysOf records association.keys.primaryKey) = .ok (association.scopeIn owner target
          (keysOf records association.keys.primaryKey)) := by
      rw [serves.served]
      exact scopeForOwners_eq _ targeted
    rw [if_neg none, if_neg none]
    simp only [Action.on_bind, Action.on_get, Action.on_ofExcept, scope, Except.mapError,
      all_on serves]
    cases session.records (association.scopeIn owner target
      (keysOf records association.keys.primaryKey)) <;> rfl

theorem loadAssociations_cons (owner : Model) (association : Association) (rest : List Association)
    (records : List Record) (session : Session) :
    (loadAssociations owner (association :: rest) records).run session =
      match (loadAssociation owner association records).on session with
      | (.ok loaded, after) => (loadAssociations owner rest loaded).run after
      | (.error failure, after) => ((.error failure, records), after) := by
  have step : (loadAssociation owner association records).run.run session =
      (loadAssociation owner association records).on session := rfl
  rw [loadAssociations, StateT.run_bind, step]
  obtain ⟨failure | loaded, after⟩ := (loadAssociation owner association records).on session <;> rfl

theorem loadAssociations_loads (serves : session.Serves schema) {association : Association}
    (targeted : schema.model? association.target = some target) {records children : List Record}
    {keys : List Value} (keyed : keysOf records association.keys.primaryKey = keys)
    (present : keys ≠ []) (done : session.records (association.scopeIn owner target keys) = .ok children)
    (rest : List Association) :
    (loadAssociations owner (association :: rest) records).run session =
      (loadAssociations owner rest (records.map (withChildren association children))).run
        (session.after (association.scopeIn owner target keys)) := by
  subst keyed
  have some : ¬ (keysOf records association.keys.primaryKey).isEmpty = true := by
    rwa [List.isEmpty_iff]
  rw [loadAssociations_cons, loadAssociation_on serves targeted, if_neg some]
  simp only [done]
  rfl

theorem loadAssociations_nil (associations : List Association) :
    (loadAssociations owner associations []).run session = ((.ok (), []), session) := by
  induction associations with
  | nil => rfl
  | cons association rest ih =>
      have nothing : (loadAssociation owner association []).on session = (.ok [], session) := rfl
      rw [loadAssociations_cons, nothing]
      exact ih

theorem loadAssociations_congr {other : Session} (serves : session.Serves schema)
    (served : other.Serves schema) (same : other.engine = session.engine)
    {associations : List Association}
    (targeted : ∀ association ∈ associations, ∃ target,
      schema.model? association.target = some target) (records : List Record) :
    ((loadAssociations owner associations records).run other).1 =
      ((loadAssociations owner associations records).run session).1 := by
  induction associations generalizing session other records with
  | nil => rfl
  | cons association rest ih =>
      obtain ⟨target, first⟩ := targeted association List.mem_cons_self
      have others := fun later inside => targeted later (List.mem_cons_of_mem _ inside)
      rw [loadAssociations_cons, loadAssociations_cons, loadAssociation_on serves first,
        loadAssociation_on served first]
      by_cases none : (keysOf records association.keys.primaryKey).isEmpty = true
      · rw [if_pos none, if_pos none]
        exact ih serves served same others _
      · rw [if_neg none, if_neg none]
        simp only [records_congr serves served same]
        cases session.records (association.scopeIn owner target
            (keysOf records association.keys.primaryKey)) with
        | error failure => rfl
        | ok children => exact ih (serves.after _) (served.after _) same others _

/-- Loading associations changes neither tables nor values, whether or not it succeeds. -/
theorem loadAssociations_keeps (serves : session.Serves schema) {associations : List Association}
    (targeted : ∀ association ∈ associations, ∃ target,
      schema.model? association.target = some target) (records : List Record) :
    ((loadAssociations owner associations records).run session).2.Serves schema ∧
      ((loadAssociations owner associations records).run session).2.engine = session.engine ∧
      ((loadAssociations owner associations records).run session).1.2.map (·.values) =
        records.map (·.values) := by
  induction associations generalizing session records with
  | nil => exact ⟨serves, rfl, rfl⟩
  | cons association rest ih =>
      obtain ⟨target, first⟩ := targeted association List.mem_cons_self
      have others := fun later inside => targeted later (List.mem_cons_of_mem _ inside)
      rw [loadAssociations_cons, loadAssociation_on serves first]
      by_cases none : (keysOf records association.keys.primaryKey).isEmpty = true
      · rw [if_pos none]
        obtain ⟨served, same, kept⟩ := ih serves others (records.map (withChildren association []))
        exact ⟨served, same, kept.trans (values_withChildren association [] records)⟩
      · rw [if_neg none]
        dsimp only
        cases session.records (association.scopeIn owner target
            (keysOf records association.keys.primaryKey)) with
        | error failure => exact ⟨serves.after _, rfl, rfl⟩
        | ok children =>
            obtain ⟨served, same, kept⟩ :=
              ih (serves.after _) others (records.map (withChildren association children))
            exact ⟨served, same, kept.trans (values_withChildren association children records)⟩

theorem resolve_passes {names : List String} {associations : List Association}
    (resolved : names.mapM owner.association = .ok associations)
    (able : associations ≠ [] → session.capability.lateralJoin = true) :
    (resolve owner names).on session = (.ok associations, session) := by
  rw [resolve, Action.on_ofExcept_bind_ok resolved]
  cases associations with
  | nil => rfl
  | cons association rest =>
      change Action.on (requireLateral >>= fun _ => pure (association :: rest)) session = _
      rw [Action.on_bind_done (requireLateral_passes (able (List.cons_ne_nil _ _)))]
      rfl

theorem resolve_on (serves : session.Serves schema) {names : List String}
    {associations : List Association} (resolved : names.mapM owner.association = .ok associations) :
    (resolve owner names).on session = (.ok associations, session) :=
  resolve_passes resolved fun _ => by rw [serves.capability]; rfl

/-- Associations that names stand for are found by their own names, and so are their targets. -/
theorem named_of_resolved (sound : schema.Sound) (known : owner ∈ schema.models)
    {names : List String} {associations : List Association}
    (resolved : names.mapM owner.association = .ok associations) :
    ∀ association ∈ associations, owner.association? association.name = some association ∧
      ∃ target, schema.model? association.target = some target := by
  intro association inside
  obtain ⟨name, _, found⟩ := exists_of_mem_mapM resolved association inside
  have named := Model.association_eq_ok_iff.mp found
  have same := Model.name_of_association found
  have member := List.mem_of_find?_eq_some named
  exact ⟨same ▸ named, Option.isSome_iff_exists.mp (sound.targets owner known association member)⟩

/-- Names that can be loaded are loaded in turn. -/
theorem preloadRecords_loads {model : String} (modelled : session.schema.model? model = some owner)
    {names : List String} {associations : List Association}
    (resolved : names.mapM owner.association = .ok associations)
    (able : associations ≠ [] → session.capability.lateralJoin = true) (records : List Record) :
    (preloadRecords model records names).run session =
      (loadAssociations owner associations records).run session := by
  have step : Action.on (do
      let found ← ofExcept ((← get).schema.model model)
      return (found, ← resolve found names)) session = (.ok (owner, associations), session) := by
    rw [Action.on_bind_done Action.on_get,
      Action.on_ofExcept_bind_ok (Schema.model_eq_ok_iff.mpr modelled),
      Action.on_bind_done (resolve_passes resolved able)]
    rfl
  rw [Action.on] at step
  rw [preloadRecords, StateT.run_bind, step]
  rfl

theorem preloadRecords_run (serves : session.Serves schema)
    (modelled : schema.model? owner.name = some owner) {names : List String}
    {associations : List Association} (resolved : names.mapM owner.association = .ok associations)
    (records : List Record) :
    (preloadRecords owner.name records names).run session =
      (loadAssociations owner associations records).run session := by
  refine preloadRecords_loads ?_ resolved (fun _ => ?_) records
  · rw [serves.served, modelled]
  · rw [serves.capability]
    rfl

theorem preload_on (serves : session.Serves schema) {relation : Relation} {names : List String}
    {associations : List Association}
    (resolved : names.mapM relation.model.association = .ok associations) {records : List Record}
    (done : session.records relation = .ok records) :
    (preload relation names).on session =
      match (loadAssociations relation.model associations records).run (session.after relation) with
      | ((.ok (), loaded), after) => (.ok loaded, after)
      | ((.error failure, _), after) => (.error failure, after) := by
  simp only [preload, Action.on_bind, resolve_on serves resolved, all_on serves, done,
    Action.on_liftM]
  obtain ⟨⟨failure | _, loaded⟩, after⟩ := (loadAssociations relation.model associations records).run
    (session.after relation) <;> rfl

end Session

namespace Sample

theorem records_notes : session.records (notes.scopeIn owner note [.int 7, .int 8]) = .ok [
    ⟨"Note", [("parent", .int 7), ("id", .int 3), ("owner_code", .int 7)], []⟩,
    ⟨"Note", [("parent", .int 7), ("id", .int 1), ("owner_code", .int 7)], []⟩,
    ⟨"Note", [("parent", .int 8), ("id", .int 2), ("owner_code", .int 8)], []⟩] := by
  rw [Session.records_eq reached.serves, engine_eq, Association.scopeIn, Relation.perParent,
    Relation.besideParent_limited _ _ _ _ 2 rfl rfl]
  cbv

end Sample

end Relata
