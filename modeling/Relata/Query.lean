import Relata.Expr

/-!
Queries. A query reads rows from a source and from the sources joined to it, keeps those that
satisfy its filter, orders and cuts them, and computes its items for each.

A subquery in a join may be lateral: it is then read once for every row to its left, and its
expressions may refer to that row.
-/

namespace Relata

inductive SelectItem
  | expr (e : Expr)
  | aliased (e : Expr) (aliasName : String)
  | wildcard (ref : TableRef)
  deriving Inhabited

inductive Direction
  | asc
  | desc
  deriving DecidableEq, Inhabited

structure OrderTerm where
  expr : Expr
  direction : Option Direction
  deriving Inhabited

namespace OrderTerm

def asc (e : Expr) : OrderTerm := ⟨e, some .asc⟩

def desc (e : Expr) : OrderTerm := ⟨e, some .desc⟩

def isDesc (term : OrderTerm) : Bool := term.direction == some .desc

end OrderTerm

/-- An inner join keeps the pairs that satisfy its condition; a left join also keeps a row that
finds no partner, next to nulls. -/
inductive JoinKind
  | inner
  | left
  deriving DecidableEq, Inhabited

mutual

structure Query where
  items : List SelectItem
  source : Source
  joins : List Join
  filter : Option Expr
  order : List OrderTerm
  limit : Option Expr

inductive Source
  | table (ref : TableRef)
  | subquery (lateral : Bool) (query : Query) (aliasName : String)

structure Join where
  kind : JoinKind
  source : Source
  condition : Expr

end

/-- The reference that columns of a source are read through. -/
def Source.ref : Source → TableRef
  | .table ref => ref
  | .subquery _ _ aliasName => .derived aliasName

def Source.qualifier : Source → String
  | .table ref => ref.qualifier
  | .subquery _ _ aliasName => aliasName

def Source.isLateral : Source → Bool
  | .subquery lateral _ _ => lateral
  | .table _ => false

@[simp] theorem Source.qualifier_ref (source : Source) :
    source.ref.qualifier = source.qualifier := by
  cases source <;> rfl

instance : Inhabited Source := ⟨.table default⟩

instance : Inhabited Query := ⟨⟨[], default, [], none, [], none⟩⟩

def Query.restrict (query : Query) (condition : Expr) : Query :=
  { query with filter := some (addCondition query.filter condition) }

end Relata
