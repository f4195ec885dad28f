import Mathlib.Data.List.Permutation
import Relata.Proofs.Relation.Keyed
import Relata.Proofs.Session.Reached

/-!
Loading records. What a relation or an association loads on a session is decided by one query on the
session's tables, and of the session only the log changes.
-/

namespace Relata

/-- The association's children for one key. -/
def Association.scopeAt (association : Association) (owner target : Model) (key : Value) : Relation :=
  { ((association.children owner target).perParent owner association.keys
      association.limit).whereEq association.keys.foreignKeyAlias key with
    limit := association.limit }

theorem Relation.with_limit {relation : Relation} {limit : Option Nat}
    (same : relation.limit = limit) : ({ relation with limit } : Relation) = relation := by
  subst same
  rfl

def Association.scopeIn (association : Association) (owner target : Model) (keys : List Value) :
    Relation :=
  ((association.children owner target).perParent owner association.keys
    association.limit).whereIn association.keys.foreignKeyAlias keys

theorem Association.scopeAt_selects (association : Association) (owner target : Model) (key : Value) :
    association.Selects owner target (association.scopeAt owner target key) := by
  rw [Association.scopeAt, Relation.whereEq]
  split
  · exact .restricted _ _ fun c own => own
  · exact .restricted _ _ fun c named =>
      (List.mem_append.mp named).elim id fun absent => absurd absent List.not_mem_nil

theorem Association.scopeAt_model (association : Association) (owner target : Model) (key : Value) :
    (association.scopeAt owner target key).model = target :=
  (association.scopeAt_selects owner target key).model_eq

theorem Association.scopeIn_selects (association : Association) (owner target : Model) (keys : List Value) :
    association.Selects owner target (association.scopeIn owner target keys) := by
  refine .restricted _ _ fun c named => (List.mem_append.mp named).elim id fun absent => ?_
  rw [columnsOf_consts] at absent
  exact absurd absent List.not_mem_nil

theorem Association.scopeIn_model (association : Association) (owner target : Model)
    (keys : List Value) : (association.scopeIn owner target keys).model = target :=
  (association.scopeIn_selects owner target keys).model_eq

namespace Session

/-- The records that a relation has on the session. -/
def records (session : Session) (relation : Relation) : Except Failure (List Record) :=
  ((all relation).on session).1

/-- The session after a query. -/
def after (session : Session) (relation : Relation) : Session :=
  { session with log := session.log ++ [.query relation.query] }

variable {schema : Schema} {session : Session} {relation : Relation}

theorem Serves.after (serves : session.Serves schema) (relation : Relation) :
    (session.after relation).Serves schema :=
  ⟨serves.served, serves.capability, serves.countsOnly, serves.store⟩

theorem exec_query_on (serves : session.Serves schema) :
    (exec (.query relation.query)).on session =
      ((session.engine.exec (.query relation.query)).1, session.after relation) := by
  have whole : ((session.engine.exec (.query relation.query)).1.map fun response =>
      if session.countsOnly then .count 1 else response) =
      (session.engine.exec (.query relation.query)).1 := by
    rw [serves.countsOnly]
    cases (session.engine.exec (.query relation.query)).1 <;> rfl
  rw [exec_on, Engine.exec_query, whole]
  rfl

theorem all_on (serves : session.Serves schema) :
    (all relation).on session = (session.records relation, session.after relation) := by
  rw [records, all, Action.on_bind, exec_query_on serves]
  cases (session.engine.exec (.query relation.query)).1 <;> rfl

theorem records_eq (serves : session.Serves schema) :
    session.records relation =
      if session.engine.poisoned then .error (.error Engine.poisonedError)
      else match relation.query.answer session.engine.store.database with
        | .ok answer => .ok (answer.rows.map (.ofRow relation.model answer.columns))
        | .error fault => .error (.error fault.error) := by
  rw [records, all, Action.on_bind, exec_query_on serves]
  unfold Engine.exec
  by_cases poisoned : session.engine.poisoned = true
  · rw [if_pos poisoned, if_pos poisoned]
  · rw [if_neg poisoned, if_neg poisoned]
    dsimp only
    cases relation.query.answer session.engine.store.database <;> rfl

theorem answer_of_records (serves : session.Serves schema) {loaded : List Record}
    (done : session.records relation = .ok loaded) :
    session.engine.poisoned = false ∧
      ∃ answer, relation.query.answer session.engine.store.database = .ok answer ∧
        loaded = answer.rows.map (.ofRow relation.model answer.columns) := by
  rw [records_eq serves] at done
  cases poisoned : session.engine.poisoned with
  | true =>
      rw [poisoned] at done
      cases done
  | false =>
      rw [poisoned] at done
      cases answered : relation.query.answer session.engine.store.database with
      | error fault =>
          rw [answered] at done
          cases done
      | ok answer =>
          rw [answered] at done
          cases done
          exact ⟨rfl, answer, rfl, rfl⟩

theorem requireLateral_passes (present : session.capability.lateralJoin = true) :
    requireLateral.on session = (.ok (), session) := by
  rw [requireLateral, Action.on_bind_done Action.on_get, if_pos present]
  rfl

theorem requireLateral_refuses (missing : session.capability.lateralJoin = false) :
    requireLateral.on session =
      (.error (.error (.unsupportedFeature "driver does not support JOIN LATERAL")), session) := by
  rw [requireLateral, Action.on_bind_done Action.on_get, if_neg (by simp [missing])]
  rfl

theorem requireLateral_on (serves : session.Serves schema) :
    requireLateral.on session = (.ok (), session) := by
  refine requireLateral_passes ?_
  rw [serves.capability]
  rfl

theorem scopeForOwner_eq {association : Association} {owner target : Model} (key : Value)
    (targeted : schema.model? association.target = some target) :
    association.scopeForOwner schema owner key = .ok (association.scopeAt owner target key) := by
  have found := schema.model_eq_ok_iff.mpr targeted
  have unlimited : (((association.children owner target).perParent owner association.keys
      association.limit).whereEq association.keys.foreignKeyAlias key).limit = none := by
    have bare := ((association.children owner target).perParent_bare owner association.keys
      association.limit).2.2.2
    rw [Relation.whereEq]
    split <;> exact bare
  rw [Association.scopeForOwner, Association.scopeFor, found, Association.scopeAt]
  cases many : association.single with
  | true => rw [Association.limit, many]; rfl
  | false =>
      have none : association.limit = none := by rw [Association.limit, many]; rfl
      rw [Relation.with_limit (unlimited.trans none.symm)]
      rfl

theorem scopeForOwners_eq {association : Association} {owner target : Model} (keys : List Value)
    (targeted : schema.model? association.target = some target) :
    association.scopeForOwners schema owner keys = .ok (association.scopeIn owner target keys) := by
  rw [Association.scopeForOwners, Association.scopeFor, schema.model_eq_ok_iff.mpr targeted]
  rfl

theorem association_on (serves : session.Serves schema) {record : Record} {name : String}
    {owner target : Model} {association : Association} {key : Value}
    (modelled : schema.model? record.model = some owner)
    (named : owner.association? name = some association)
    (targeted : schema.model? association.target = some target)
    (keyed : record.get? association.keys.primaryKey = some key) (present : key ≠ .null) :
    (Session.association record name).on session =
      ((session.records (association.scopeAt owner target key)).map
        (.ofRecords association.single), session.after (association.scopeAt owner target key)) := by
  have own : session.schema.model record.model = .ok owner := by
    rw [serves.served]
    exact Schema.model_eq_ok_iff.mpr modelled
  have known : owner.association name = .ok association := by
    rw [Model.association, named]
  have unlocked : ownerKey record association = .ok key := by
    have nonnull : ¬ key.isNull = true := fun null => present (Value.isNull_iff.mp null)
    simp only [ownerKey, keyed, if_neg nonnull]
  have scope : association.scopeForOwner session.schema owner key =
      .ok (association.scopeAt owner target key) := by
    rw [serves.served]
    exact scopeForOwner_eq key targeted
  rw [Session.association, Action.on_bind, Action.on_get]
  simp only [Action.on_bind, Action.on_ofExcept, own, known, unlocked, scope, Except.mapError,
    requireLateral_on serves, all_on serves]
  cases session.records (association.scopeAt owner target key) <;> rfl

theorem records_congr {other : Session} (serves : session.Serves schema)
    (served : other.Serves schema) (same : other.engine = session.engine) (relation : Relation) :
    other.records relation = session.records relation := by
  rw [records_eq served, records_eq serves, same]

theorem records_after (serves : session.Serves schema) (before relation : Relation) :
    (session.after before).records relation = session.records relation :=
  records_congr serves (serves.after before) rfl relation

/-- What an association loads depends on the stored tables and on the values of the record. -/
theorem association_congr {other : Session} (serves : session.Serves schema)
    (served : other.Serves schema) (same : other.engine = session.engine) {record changed : Record}
    (model : changed.model = record.model) (values : changed.values = record.values)
    (name : String) :
    ((Session.association changed name).on other).1 =
      ((Session.association record name).on session).1 := by
  have key : ∀ association, ownerKey changed association = ownerKey record association := by
    intro association
    unfold ownerKey Record.get?
    rw [values, model]
  simp only [Session.association, Action.on_bind, Action.on_get, Action.on_ofExcept,
    serves.served, served.served, model]
  cases schema.model record.model with
  | error e => rfl
  | ok owner =>
      simp only [Except.mapError]
      cases owner.association name with
      | error e => rfl
      | ok association =>
          simp only [requireLateral_on serves, requireLateral_on served, key]
          cases ownerKey record association with
          | error e => rfl
          | ok key =>
              simp only
              cases association.scopeForOwner schema owner key with
              | error e => rfl
              | ok scope =>
                  simp only [all_on serves, all_on served, records_congr serves served same]
                  cases session.records scope <;> rfl

end Session

namespace Sample

def owners : List Record := [
  ⟨"Owner", [("id", .int 1), ("code", .int 7)], []⟩,
  ⟨"Owner", [("id", .int 2), ("code", .null)], []⟩,
  ⟨"Owner", [("id", .int 3), ("code", .int 8)], []⟩]

theorem records_owners : session.records owner.all = .ok owners := by
  rw [Session.records_eq reached.serves, engine_eq]
  cbv

end Sample

end Relata
