import Relata.Entries
import Relata.Schema

/-!
Records: rows of a model, with the associations that were loaded for them.
-/

namespace Relata

mutual

structure Record where
  model : String
  /-- The values by column, in the order of the answer that they come from. -/
  values : List (String × Value)
  loaded : List (String × Loaded)

/-- The rows of an association for one record. -/
inductive Loaded
  | one (record : Option Record)
  | many (records : List Record)

end

namespace Loaded

/-- The loaded rows of an association. Of several rows for a single one, the first counts. -/
def ofRecords (single : Bool) (records : List Record) : Loaded :=
  if single then .one records.head? else .many records

def isOne : Loaded → Bool
  | .one _ => true
  | .many _ => false

def records : Loaded → List Record
  | .one record => record.toList
  | .many records => records

def size (loaded : Loaded) : Nat := loaded.records.length

end Loaded

namespace Record

/-- The record of an answer's row. Ignored columns are left out even if the answer has them; of two
columns of one name, the later one gives the value. -/
def ofRow (model : Model) (columns : List String) (row : List Value) : Record :=
  ⟨model.name,
    Entries.ofList ((columns.zip row).filter fun entry => !model.isIgnored entry.1), []⟩

def get? (record : Record) (column : String) : Option Value := Entries.get? record.values column

def get (record : Record) (column : String) : Except Error Value :=
  match record.get? column with
  | some v => .ok v
  | none => .error (.adhoc ("column `" ++ column ++ "` not loaded on `" ++ record.model ++ "`"))

def loaded? (record : Record) (name : String) : Option Loaded := Entries.get? record.loaded name

def setLoaded (record : Record) (name : String) (loaded : Loaded) : Record :=
  { record with loaded := Entries.set record.loaded name loaded }

def notLoaded (record : Record) (name : String) : Failure :=
  .abort ("association `" ++ name ++ "` not loaded on `" ++ record.model ++ "`")

/-- The record of a loaded association that has at most one. -/
def one (record : Record) (name : String) : Except Failure (Option Record) :=
  match record.loaded? name with
  | some (.one found) => .ok found
  | some (.many _) => .error (.abort ("association `" ++ name ++ "` is has-some-of-many"))
  | none => .error (record.notLoaded name)

def many (record : Record) (name : String) : Except Failure (List Record) :=
  match record.loaded? name with
  | some (.many found) => .ok found
  | some (.one _) => .error (.abort ("association `" ++ name ++ "` is has-one-of-many"))
  | none => .error (record.notLoaded name)

@[simp] theorem get?_setLoaded (record : Record) (name column : String) (loaded : Loaded) :
    (record.setLoaded name loaded).get? column = record.get? column := rfl

theorem loaded?_setLoaded (record : Record) (name other : String) (loaded : Loaded) :
    (record.setLoaded name loaded).loaded? other =
      if other = name then some loaded else record.loaded? other :=
  Entries.get?_set record.loaded name loaded other

end Record

/-- Whether two lists of values have the same entries, in any order. -/
def sameValues (a b : List (String × Value)) : Bool :=
  a.length == b.length && a.all fun entry => Entries.get? b entry.1 == some entry.2

mutual

/-- Whether two records are equal. The order of columns and of associations does not matter. -/
def Record.same : Record → Record → Bool
  | ⟨model, values, loaded⟩, other =>
    model == other.model && sameValues values other.values &&
      loaded.length == other.loaded.length && sameLoaded loaded other.loaded

def Loaded.same : Loaded → Loaded → Bool
  | .one a, .one b => sameOptional a b
  | .many as, .many bs => sameRecords as bs
  | _, _ => false

def sameOptional : Option Record → Option Record → Bool
  | none, none => true
  | some a, some b => a.same b
  | _, _ => false

def sameRecords : List Record → List Record → Bool
  | [], [] => true
  | a :: as, b :: bs => a.same b && sameRecords as bs
  | _, _ => false

def sameLoaded : List (String × Loaded) → List (String × Loaded) → Bool
  | [], _ => true
  | entry :: rest, others => sameEntry entry others && sameLoaded rest others

def sameEntry : String × Loaded → List (String × Loaded) → Bool
  | (name, loaded), others =>
    match Entries.get? others name with
    | some other => loaded.same other
    | none => false

end

end Relata
