import Relata.Proofs.Store.Typed
import Relata.Schema.Definition
import Relata.Session

/-!
Reachable sessions. A session starts without tables; a reset puts those of the schema in place, and
from then on inserts and other statements change the rows only.
-/

namespace Relata

/-- What an operation answers on a session, and the session after it. -/
def Action.on {α : Type} (action : Action α) (session : Session) : Except Failure α × Session :=
  action.run.run session

namespace Action

variable {α β : Type} {session : Session}

@[simp] theorem on_pure (a : α) : Action.on (pure a) session = (.ok a, session) := rfl

@[simp] theorem on_throw (failure : Failure) :
    Action.on (throw failure : Action α) session = (.error failure, session) := rfl

@[simp] theorem on_get : Action.on (get : Action Session) session = (.ok session, session) := rfl

theorem on_bind (first : Action α) (next : α → Action β) :
    Action.on (first >>= next) session =
      match first.on session with
      | (.ok a, after) => (next a).on after
      | (.error failure, after) => (.error failure, after) := by
  change Action.on (ExceptT.mk (ExceptT.run first >>= ExceptT.bindCont next)) session = _
  simp only [Action.on, ExceptT.run, ExceptT.mk, StateT.run, bind, StateT.bind]
  generalize (first session : Except Failure α × Session) = step
  obtain ⟨answer | a, after⟩ := step <;> rfl

theorem on_bind_done {first : Action α} {next : α → Action β} {after : Session} {a : α}
    (done : first.on session = (.ok a, after)) : (first >>= next).on session = (next a).on after := by
  rw [on_bind, done]

theorem on_bind_failed {first : Action α} {next : α → Action β} {after : Session} {failure : Failure}
    (failed : first.on session = (.error failure, after)) :
    (first >>= next).on session = (.error failure, after) := by
  rw [on_bind, failed]

/-- A sequence of operations that succeeds is one of operations that do. -/
theorem exists_of_on_bind {first : Action α} {next : α → Action β} {after : Session} {b : β}
    (done : (first >>= next).on session = (.ok b, after)) :
    ∃ a middle, first.on session = (.ok a, middle) ∧ (next a).on middle = (.ok b, after) := by
  cases ran : first.on session with
  | mk answer middle =>
      cases answer with
      | error failure =>
          rw [on_bind_failed ran] at done
          cases done
      | ok a => exact ⟨a, middle, rfl, on_bind_done ran ▸ done⟩

theorem on_liftM (step : StateM Session α) :
    Action.on (liftM step : Action α) session = (.ok (step.run session).1, (step.run session).2) := rfl

@[simp] theorem on_ofExcept (result : Except Error α) :
    (Session.ofExcept result).on session = (result.mapError .error, session) := by
  cases result <;> rfl

theorem on_ofExcept_bind_ok {result : Except Error α} {next : α → Action β} {a : α} (done : result = .ok a) :
    (Session.ofExcept result >>= next).on session = (next a).on session := by
  subst done
  exact on_bind_done (on_ofExcept _)

theorem on_ofExcept_bind_error {result : Except Error α} {next : α → Action β} {e : Error}
    (failed : result = .error e) :
    (Session.ofExcept result >>= next).on session = (.error (.error e), session) := by
  subst failed
  exact on_bind_failed (on_ofExcept _)

theorem of_on_ofExcept {result : Except Error α} {after : Session} {a : α}
    (done : (Session.ofExcept result).on session = (.ok a, after)) :
    result = .ok a ∧ after = session := by
  rw [on_ofExcept] at done
  cases result <;> cases done
  exact ⟨rfl, rfl⟩

def Keeps (P : Session → Prop) (action : Action α) : Prop :=
  ∀ session, P session → P (action.on session).2

theorem Keeps.bind {P : Session → Prop} {first : Action α} {next : α → Action β}
    (before : first.Keeps P) (after : ∀ a, (next a).Keeps P) : (first >>= next).Keeps P := by
  intro session holds
  have middle := before session holds
  rw [on_bind]
  cases done : first.on session with
  | mk answer reached =>
      rw [done] at middle
      cases answer with
      | error failure => exact middle
      | ok a => exact after a reached middle

theorem keeps_get {P : Session → Prop} : Action.Keeps P get := fun _ holds => holds

theorem keeps_pure {P : Session → Prop} (a : α) : Action.Keeps P (pure a) := fun _ holds => holds

theorem keeps_throw {P : Session → Prop} (failure : Failure) :
    Action.Keeps P (throw failure : Action α) := fun _ holds => holds

theorem keeps_ofExcept {P : Session → Prop} (result : Except Error α) :
    (Session.ofExcept result).Keeps P := by
  intro session holds
  rw [on_ofExcept]
  exact holds

end Action

namespace Session

/-- Executed statements and stamps keep the property. -/
structure Stable (P : Session → Prop) : Prop where
  exec : ∀ statement, (exec statement).Keeps P
  stamp : stamp.Keeps P

theorem Stable.insert {P : Session → Prop} (stable : Stable P) (name : String) (values : List (String × Value)) :
    (Session.insert name values).Keeps P := by
  refine .bind Action.keeps_get fun current => .bind (Action.keeps_ofExcept _) fun model => ?_
  refine .bind Action.keeps_get fun current => ?_
  simp only
  split
  on_goal 2 => refine .bind (Action.keeps_throw _) fun _ => ?_
  all_goals
    refine .bind stable.stamp fun now => .bind (stable.exec _) fun answer => ?_
    split
    · exact Action.keeps_pure _
    · exact Action.keeps_throw _

/-- The sessions that a reset and then inserts and other statements lead to, whether or not they
succeed. -/
inductive Reached (schema : Schema) : Session → Prop
  | fresh (clock : Clock) : Reached schema (reset.on (start schema clock)).2
  | reset {session : Session} : Reached schema session → Reached schema (reset.on session).2
  | insert {session : Session} (name : String) (values : List (String × Value)) :
    Reached schema session → Reached schema ((insert name values).on session).2
  | exec {session : Session} (statement : Statement) :
    Reached schema session → Reached schema ((exec statement).on session).2

/-- The session runs on tables of the schema that are kept in memory. -/
structure Serves (session : Session) (schema : Schema) : Prop where
  served : session.schema = schema
  capability : session.capability = .memory
  countsOnly : session.countsOnly = false
  store : session.engine.store.Of schema.tables

variable {schema : Schema} {session : Session}

theorem exec_on (statement : Statement) :
    (exec statement).on session =
      ((session.engine.exec statement).1.map fun response =>
        if session.countsOnly then .count 1 else response,
        { session with
          engine := (session.engine.exec statement).2, log := session.log ++ [statement] }) := rfl

theorem exec_of {engine : Engine} {tables : List Table} (of : engine.store.Of tables)
    (statement : Statement) : (engine.exec statement).2.store.Of tables := by
  unfold Engine.exec
  split
  · exact of
  · cases statement with
    | query q =>
        simp only
        split <;> exact of
    | insert row =>
        have after := of.insert row
        simp only
        split
        · rename_i stored
          rw [stored] at after
          exact after
        · rename_i stored
          rw [stored] at after
          exact after

theorem exec_serves (statement : Statement) : (Session.exec statement).Keeps (·.Serves schema) :=
  fun _ serves => ⟨serves.served, serves.capability, serves.countsOnly, exec_of serves.store statement⟩

theorem stamp_serves : stamp.Keeps (·.Serves schema) := by
  refine .bind Action.keeps_get fun current => ?_
  cases current.clock.tick with
  | none => exact Action.keeps_throw _
  | some stamped =>
      refine .bind (fun _ serves => ?_) fun _ => Action.keeps_pure _
      exact ⟨serves.served, serves.capability, serves.countsOnly, serves.store⟩

theorem serves_stable : Stable (·.Serves schema) := ⟨exec_serves, stamp_serves⟩

theorem insert_serves (name : String) (values : List (String × Value)) :
    (Session.insert name values).Keeps (·.Serves schema) := serves_stable.insert name values

theorem reset_serves : Session.reset.Keeps (·.Serves schema) := by
  intro session serves
  have of : (session.engine.reset session.schema.tables).2.store.Of schema.tables := by
    unfold Engine.reset
    split
    · exact serves.store
    · exact serves.served ▸ Store.fresh_of _
  exact ⟨serves.served, serves.capability, serves.countsOnly, of⟩

theorem Reached.serves (reached : session.Reached schema) : session.Serves schema := by
  induction reached with
  | fresh clock => exact ⟨rfl, rfl, rfl, Store.fresh_of schema.tables⟩
  | reset _ ih => exact reset_serves _ ih
  | insert name values _ ih => exact insert_serves name values _ ih
  | exec statement _ ih => exact exec_serves statement _ ih

/-- Inserts rows of models one after the other. -/
def insertAll (rows : List (String × List (String × Value))) (session : Session) : Session :=
  rows.foldl (fun session row => ((Session.insert row.1 row.2).on session).2) session

theorem Reached.insertAll (reached : session.Reached schema)
    (rows : List (String × List (String × Value))) : (session.insertAll rows).Reached schema := by
  induction rows generalizing session with
  | nil => exact reached
  | cons row rest ih => exact ih (reached.insert row.1 row.2)

theorem Serves.database (serves : session.Serves schema) (sound : schema.Sound) {table : Table}
    (known : table ∈ schema.tables) :
    ∃ rows, session.engine.store.database table.name = some ⟨table.columnNames, rows⟩ ∧
      ∀ row ∈ rows, List.Forall₂ Column.Takes table.columns row :=
  serves.store.database sound.tableNames known

end Session

/-!
A schema of owners and their notes, with notes that have no owner and an owner without notes.
-/

namespace Sample

def tables : List TableDefinition := [
  ⟨"owners", [.primaryKey "id", .column "code" (.integer 8) true]⟩,
  ⟨"notes", [.primaryKey "id", .column "owner_code" (.integer 8) true, .column "body" .text true]⟩]

def models : List ModelDefinition := [
  ⟨"Owner", "owners", none, [], [
    ⟨false, "notes", "Note", [.orderByDesc "id", .limit 2], some "code", some "owner_code", some "parent"⟩,
    ⟨true, "latest", "Note", [.orderByDesc "id"], some "code", some "owner_code", some "parent"⟩]⟩,
  ⟨"Note", "notes", none, ["body"], []⟩]

def ownerTable : Table :=
  ⟨"owners", [⟨"id", .integer 8, false, true, true⟩, ⟨"code", .integer 8, true, false, false⟩]⟩

def noteTable : Table :=
  ⟨"notes", [⟨"id", .integer 8, false, true, true⟩, ⟨"owner_code", .integer 8, true, false, false⟩,
    ⟨"body", .text, true, false, false⟩]⟩

def keys : KeyMapping := ⟨"code", "owner_code", "parent"⟩

def notes : Association := ⟨"notes", false, "Note", [.orderByDesc "id", .limit 2], keys⟩

def latest : Association := ⟨"latest", true, "Note", [.orderByDesc "id"], keys⟩

def owner : Model := ⟨"Owner", ownerTable, "id", [], [notes, latest]⟩

def note : Model := ⟨"Note", noteTable, "id", ["body"], []⟩

def schema : Schema := ⟨[ownerTable, noteTable], [owner, note]⟩

theorem built : Schema.build tables models = .ok schema := rfl

def session : Session :=
  (Session.reset.on (.start schema ⟨0, []⟩)).2.insertAll [
    ("Owner", [("code", .int 7)]), ("Owner", []), ("Owner", [("code", .int 8)]),
    ("Note", [("owner_code", .int 7), ("body", .text "a")]),
    ("Note", [("owner_code", .int 8), ("body", .text "b")]),
    ("Note", [("owner_code", .int 7), ("body", .text "c")]), ("Note", [])]

theorem reached : session.Reached schema := (Session.Reached.fresh _).insertAll _

def engine : Engine :=
  ⟨⟨[⟨"owners", ownerTable.columns, [[.int 1, .int 7], [.int 2, .null], [.int 3, .int 8]], 4⟩,
    ⟨"notes", noteTable.columns, [[.int 1, .int 7, .text "a"], [.int 2, .int 8, .text "b"],
      [.int 3, .int 7, .text "c"], [.int 4, .null, .null]], 5⟩]⟩, false⟩

theorem engine_eq : session.engine = engine := rfl

/-- A session with the same tables and without a history. -/
def stored : Session := { Session.start schema ⟨0, []⟩ with engine }

theorem stored_serves : stored.Serves schema :=
  ⟨rfl, rfl, rfl, engine_eq ▸ reached.serves.store⟩

end Sample

end Relata
