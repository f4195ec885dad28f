import Relata.Clock
import Relata.Engine
import Relata.Record
import Relata.Relation.Associated

/-!
Sessions: a schema and the engine that its statements run on. Operations load and store records.
Statements are executed one at a time and remembered in order, whether or not they succeed.
-/

namespace Relata

structure Capability where
  sql : Bool
  lateralJoin : Bool
  returning : Bool
  deriving DecidableEq

/-- The capability of an engine on stored tables. It reads no SQL. -/
def Capability.memory : Capability := ⟨false, true, true⟩

structure Session where
  schema : Schema
  engine : Engine
  capability : Capability
  /-- Whether the engine answers every statement with a count. -/
  countsOnly : Bool
  clock : Clock
  log : List Statement

/-- An operation on a session. A failed operation keeps what it did to the session. -/
abbrev Action := ExceptT Failure (StateM Session)

namespace Session

def start (schema : Schema) (clock : Clock) : Session where
  schema := schema
  engine := .new
  capability := .memory
  countsOnly := false
  clock := clock
  log := []

def ofExcept {α : Type} : Except Error α → Action α
  | .ok a => pure a
  | .error e => throw (.error e)

def reset : Action Unit := fun session =>
  let (answer, engine) := session.engine.reset session.schema.tables
  (answer, { session with engine })

def exec (statement : Statement) : Action Response := fun session =>
  let (answer, engine) := session.engine.exec statement
  (answer.map fun response => if session.countsOnly then .count 1 else response,
    { session with engine, log := session.log ++ [statement] })

def stamp : Action Int64 := do
  match (← get).clock.tick with
  | some (now, clock) =>
    modify fun session => { session with clock }
    return now
  | none => throw (.abort "attempt to add with overflow")

/-- Gives a stamp to the columns for it that the table has and the values leave out. -/
def stamped (table : Table) (now : Int64) (values : List (String × Value)) :
    List (String × Value) :=
  ["created_at", "updated_at"].foldl
    (fun values column =>
      if !values.any (·.1 == column) && table.hasColumn column then
        values ++ [(column, .int now)]
      else values)
    values

def insertStatement (model : Model) (values : List (String × Value)) : Insert where
  table := model.ref
  columns := values.map Prod.fst
  values := values.map fun entry => .const entry.2
  returning := true

/-- Inserts a row of a model and answers it as it is stored. -/
def insert (name : String) (values : List (String × Value)) : Action Record := do
  let model ← ofExcept ((← get).schema.model name)
  unless (← get).capability.returning do
    throw (.error (.unsupportedFeature "driver cannot return inserted rows"))
  let now ← stamp
  let answer ← exec (.insert (insertStatement model (stamped model.table now values)))
  match answer.rowset.rows with
  | row :: _ => return .ofRow model answer.rowset.columns row
  | [] => throw (.error (.adhoc ("insert into `" ++ model.table.name ++ "` returned no row")))

def all (relation : Relation) : Action (List Record) := do
  let answer ← exec (.query relation.query)
  return answer.rowset.rows.map (.ofRow relation.model answer.rowset.columns)

/-- The relation by primary key, if it has no order of its own. -/
def ordered (relation : Relation) : Relation :=
  if relation.order.isEmpty then relation.orderByAsc relation.model.primaryKey else relation

def first (relation : Relation) : Action (Option Record) := do
  return (← all ((ordered relation).limitTo 1)).head?

def find (name : String) (key : Value) : Action Record := do
  let model ← ofExcept ((← get).schema.model name)
  match ← first (model.all.whereEq model.primaryKey key) with
  | some record => return record
  | none =>
    throw (.error (.of (.recordNotFound
      ("table=" ++ model.table.name ++ "; key=" ++ key.display))))

/-- Lateral joins are needed wherever associations are loaded. -/
def requireLateral : Action Unit := do
  unless (← get).capability.lateralJoin do
    throw (.error (.unsupportedFeature "driver does not support JOIN LATERAL"))

def ownerKey (record : Record) (association : Association) : Except Error Value :=
  let missing : Error := .adhoc ("`" ++ record.model ++ "` has no `" ++
    association.keys.primaryKey ++ "` to load `" ++ association.name ++ "` by")
  match record.get? association.keys.primaryKey with
  | some key => if key.isNull then .error missing else .ok key
  | none => .error missing

def association (record : Record) (name : String) : Action Loaded := do
  let schema := (← get).schema
  let owner ← ofExcept (schema.model record.model)
  let association ← ofExcept (owner.association name)
  requireLateral
  let key ← ofExcept (ownerKey record association)
  let scope ← ofExcept (association.scopeForOwner schema owner key)
  return .ofRecords association.single (← all scope)

def resolve (owner : Model) (names : List String) : Action (List Association) := do
  let associations ← ofExcept (names.mapM owner.association)
  unless associations.isEmpty do requireLateral
  return associations

/-- The keys of records that are not null, each once, in the order of the records. -/
def keysOf (records : List Record) (column : String) : List Value :=
  (records.filterMap fun record => record.get? column).foldl
    (fun keys key => if key.isNull || keys.contains key then keys else keys ++ [key]) []

/-- The children of a record among those of all records: the ones with the record's key. -/
def childrenOf (record : Record) (association : Association) (children : List Record) :
    List Record :=
  match record.get? association.keys.primaryKey with
  | none => []
  | some key =>
    children.filter fun child => (child.get? association.keys.foreignKeyAlias).getD .null == key

/-- Loads an association of all records at once. Without a key among the records nothing is
executed. -/
def loadAssociation (owner : Model) (association : Association) (records : List Record) :
    Action (List Record) := do
  let keys := keysOf records association.keys.primaryKey
  let children ← if keys.isEmpty then pure [] else do
    let scope ← ofExcept (association.scopeForOwners (← get).schema owner keys)
    all scope
  return records.map fun record =>
    record.setLoaded association.name
      (.ofRecords association.single (childrenOf record association children))

/-- Loads associations one after the other. A failure keeps what was loaded before it. -/
def loadAssociations (owner : Model) :
    List Association → List Record → StateM Session (Except Failure Unit × List Record)
  | [], records => return (.ok (), records)
  | association :: rest, records => do
    match ← (loadAssociation owner association records).run with
    | .ok loaded => loadAssociations owner rest loaded
    | .error failure => return (.error failure, records)

/-- All records of a relation, with the named associations. -/
def preload (relation : Relation) (names : List String) : Action (List Record) := do
  let associations ← resolve relation.model names
  let records ← all relation
  match ← loadAssociations relation.model associations records with
  | (.ok (), loaded) => return loaded
  | (.error failure, _) => throw failure

/-- Loads the named associations of records. The records are answered in any case, with what could
be loaded. -/
def preloadRecords (name : String) (records : List Record) (names : List String) :
    StateM Session (Except Failure Unit × List Record) := do
  let resolved : Action (Model × List Association) := do
    let owner ← ofExcept ((← get).schema.model name)
    return (owner, ← resolve owner names)
  match ← resolved.run with
  | .ok (owner, associations) => loadAssociations owner associations records
  | .error failure => return (.error failure, records)

end Session

end Relata
