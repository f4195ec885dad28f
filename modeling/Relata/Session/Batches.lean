import Relata.Session

/-!
Walks over a relation in batches, by primary key. Each batch is one statement for the rows after the
last key seen, and a visitor is shown every batch before the next one is read.

Every row of a batch comes from a row of the relation's sources, so a walk that has read more
batches than there are such rows has met a key again, and from there on nothing but the visitor can
end it. That bounds the walk.
-/

namespace Relata

inductive WalkEnd
  | finished
  | failed (failure : Failure)
  /-- The keys of the batches repeat, and the visitor has not failed up to the bound. -/
  | endless
  deriving DecidableEq

structure Walk where
  batches : List (List Record)
  ending : WalkEnd

namespace Session

/-- The rows after a key, in the order of the key. -/
def page (base : Relation) (last : Option Value) (size : Nat) : Relation :=
  let rest := match last with
    | some key => base.whereGt base.model.primaryKey key
    | none => base
  rest.limitTo size

/-- The relation in the order of its primary key and without a limit of its own. -/
def byKey (relation : Relation) : Relation :=
  ({ relation with order := [], limit := none } : Relation).orderByAsc relation.model.primaryKey

/-- Walks on from a key. The visitor sees all batches so far, the newest last. -/
def walkFrom (base : Relation) (size : Nat) (names : List String)
    (visit : List (List Record) → Option Error) :
    Nat → Option Value → List (List Record) → StateM Session Walk
  | 0, _, batches => return ⟨batches, .endless⟩
  | bound + 1, last, batches => do
    match ← (preload (page base last size) names).run with
    | .error failure => return ⟨batches, .failed failure⟩
    | .ok records =>
      match records.getLast? with
      | none => return ⟨batches, .finished⟩
      | some tail =>
        let shown := batches ++ [records]
        match visit shown with
        | some e => return ⟨shown, .failed (.error e)⟩
        | none =>
          let next := tail.get? base.model.primaryKey
          if records.length < size || next.isNone then return ⟨shown, .finished⟩
          else walkFrom base size names visit bound next shown

def sourceRows (session : Session) (relation : Relation) : Nat :=
  match relation.query.joined session.engine.store.database [] with
  | .ok joined => joined.rows.length
  | .error _ => 0

/-- Shows the relation's records to a visitor in batches of the given size, with the named
associations. The relation's own order and limit do not count.

A walk whose keys repeat is `.endless` after `sourceRows + 1` batches, also where the visitor would fail
at a later repetition: a walk that went on without the bound would report that failure. -/
def findInBatches (relation : Relation) (size : Nat) (names : List String)
    (visit : List (List Record) → Option Error) : StateM Session Walk := do
  if size = 0 then
    return ⟨[], .failed (.error (.adhoc "batch size must be greater than zero"))⟩
  else
    walkFrom (byKey relation) size names visit (sourceRows (← get) relation + 1) none []

end Session

end Relata
