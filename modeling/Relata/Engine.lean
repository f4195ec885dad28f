import Relata.Store

/-!
Statement execution on stored tables. An operation that is cut short leaves the engine unusable:
every later operation is refused.
-/

namespace Relata

/-- The answer to a statement: how many rows it concerned, or the rows themselves. -/
inductive Response
  | count (n : Nat)
  | rows (rowset : Rowset)

namespace Response

def isCount : Response → Bool
  | .count _ => true
  | .rows _ => false

def count? : Response → Option Nat
  | .count n => some n
  | .rows _ => none

def rowset : Response → Rowset
  | .count _ => ⟨[], []⟩
  | .rows rowset => rowset

end Response

structure Engine where
  store : Store
  /-- Whether an operation was cut short. -/
  poisoned : Bool

namespace Engine

def new : Engine := ⟨⟨[]⟩, false⟩

def poisonedError : Error := .adhoc "memory driver state poisoned"

def exec (engine : Engine) (statement : Statement) : Except Failure Response × Engine :=
  if engine.poisoned then (.error (.error poisonedError), engine)
  else match statement with
    | .query q =>
      match q.answer engine.store.database with
      | .ok rowset => (.ok (.rows rowset), engine)
      | .error fault => (.error (.error fault.error), engine)
    | .insert row =>
      match engine.store.insert row with
      | (.ok rowset, store) =>
        (.ok (if row.returning then .rows rowset else .count 1), { engine with store })
      | (.error fault, store) =>
        (.error fault.failure, ⟨store, fault == .counterOverflow⟩)

/-- Replaces all tables by those of a schema, without rows. -/
def reset (engine : Engine) (tables : List Table) : Except Failure Unit × Engine :=
  if engine.poisoned then (.error (.error poisonedError), engine)
  else (.ok (), { engine with store := .fresh tables })

theorem exec_query (engine : Engine) (q : Query) : (engine.exec (.query q)).2 = engine := by
  unfold exec
  split
  · rfl
  · simp only
    split <;> rfl

end Engine

end Relata
