import Relata.Eval.Expr
import Relata.Query

/-!
Rows of queries. A query reads its sources from the left, keeps the rows that satisfy its filter,
sorts them, cuts them and computes its items. The header of the answer does not depend on there
being rows: a lateral subquery without a row to its left is read once for its header alone, with no
row in reach and with none of its own rows kept.
-/

namespace Relata

/-- The tables that queries read, by name. -/
abbrev Database := String → Option Rowset

/-- The rows of the sources read so far. Every row binds the same shapes. -/
structure Joined where
  shapes : List Shape
  rows : List Frame

/-- The order of two sort keys: a null comes after every other value, and descending order
reverses all of it. -/
def Value.sortOrder (direction : Option Direction) (a b : Value) : Ordering :=
  let order := match a.isNull, b.isNull with
    | true, true => .eq
    | true, false => .gt
    | false, true => .lt
    | false, false => (a.order? b).getD .eq
  if direction = some .desc then order.swap else order

/-- The order of two rows by their sort keys: the first key that differs decides. -/
def sortOrder : List OrderTerm → List Value → List Value → Ordering
  | term :: terms, a :: as, b :: bs =>
    (Value.sortOrder term.direction a b).then (sortOrder terms as bs)
  | _, _, _ => .eq

def sortKeys (env : Env) (terms : List OrderTerm) : Except Fault (List Value) :=
  terms.mapM fun term => term.expr.eval env

/-- Sorts rows; rows with equal keys keep their places. -/
def sortRows (outer : Env) (terms : List OrderTerm) (rows : List Frame) :
    Except Fault (List Frame) := do
  let keyed ← rows.mapM fun row => do return (← sortKeys (row :: outer) terms, row)
  return (keyed.mergeSort fun a b => (sortOrder terms a.1 b.1).isLE).map Prod.snd

def keepRows (outer : Env) (condition : Expr) : List Frame → Except Fault (List Frame)
  | [] => .ok []
  | row :: rest => do
    let kept ← condition.keeps (row :: outer)
    let others ← keepRows outer condition rest
    return if kept then row :: others else others

/-- Keeps the rows that satisfy a filter; without a filter all rows stay. -/
def filterRows (outer : Env) (filter : Option Expr) (rows : List Frame) :
    Except Fault (List Frame) :=
  match filter with
  | none => .ok rows
  | some condition => keepRows outer condition rows

/-- The number of rows that a limit leaves; none for a limit of null. -/
def limitCount (env : Env) (limit : Expr) : Except Fault (Option Nat) := do
  match ← limit.eval env with
  | .null => return none
  | .int n => if n < 0 then throw .negativeLimit else return some n.toInt.toNat
  | v => throw (.limit v.kind)

def limitRows (env : Env) (limit : Option Expr) (rows : List Frame) :
    Except Fault (List Frame) :=
  match limit with
  | none => .ok rows
  | some e => do
    match ← limitCount env e with
    | none => return rows
    | some n => return rows.take n

/-- The column names that an item contributes. An expression without a name is anonymous. -/
def SelectItem.header (shapes : List Shape) : SelectItem → Except Fault (List String)
  | .expr (.column c) => .ok [c.column]
  | .expr _ => .ok ["?column?"]
  | .aliased _ aliasName => .ok [aliasName]
  | .wildcard ref =>
    match shapes.find? (·.qualifier == ref.qualifier) with
    | some shape => .ok shape.columns
    | none => .error (.unknownQualifier ref.qualifier)

def SelectItem.values (row : Frame) (outer : Env) : SelectItem → Except Fault (List Value)
  | .expr e => do return [← e.eval (row :: outer)]
  | .aliased e _ => do return [← e.eval (row :: outer)]
  | .wildcard ref =>
    match row.binding? ref.qualifier with
    | some binding => .ok binding.values
    | none => .error (.unknownQualifier ref.qualifier)

def project (outer : Env) (items : List SelectItem) (joined : Joined) : Except Fault Rowset := do
  let columns ← items.mapM (SelectItem.header joined.shapes)
  let rows ← joined.rows.mapM fun row => do
    return (← items.mapM (SelectItem.values row outer)).flatten
  return ⟨columns.flatten, rows⟩

/-- Extends a row by each candidate that satisfies the join's condition; a left join extends a row
without partner by nulls. -/
def extendRow (outer : Env) (kind : JoinKind) (condition : Expr) (shape : Shape)
    (row : Frame) (candidates : List (List Value)) : Except Fault (List Frame) := do
  let pairs ← keepRows outer condition (candidates.map fun values => row ++ [⟨shape, values⟩])
  return if pairs.isEmpty && kind == .left then [row ++ [shape.nulls]] else pairs

mutual

/-- The answer of a query. With `headerOnly` no row passes its filter. -/
def Query.run (db : Database) (outer : Env) (headerOnly : Bool) : Query → Except Fault Rowset
  | ⟨items, source, joins, filter, order, limit⟩ => do
    let base ← source.read db outer
    let shape : Shape := ⟨source.qualifier, base.columns⟩
    let joined ← joinAll db outer joins ⟨[shape], base.rows.map fun values => [⟨shape, values⟩]⟩
    let kept ← if headerOnly then .ok [] else filterRows outer filter joined.rows
    let sorted ← sortRows outer order kept
    let cut ← limitRows outer limit sorted
    project outer items ⟨joined.shapes, cut⟩

def Source.read (db : Database) (env : Env) : Source → Except Fault Rowset
  | .table (.table name _) =>
    match db name with
    | some rowset => .ok rowset
    | none => .error (.unknownRelation name)
  | .table (.derived name) => .error (.unknownRelation name)
  | .subquery _ query _ => query.run db env false

def Source.header (db : Database) : Source → Except Fault (List String)
  | .subquery _ query _ => do return (← query.run db [] true).columns
  | .table (.table name _) =>
    match db name with
    | some rowset => .ok rowset.columns
    | none => .error (.unknownRelation name)
  | .table (.derived name) => .error (.unknownRelation name)

def joinAll (db : Database) (outer : Env) : List Join → Joined → Except Fault Joined
  | [], joined => .ok joined
  | ⟨kind, source, condition⟩ :: rest, joined => do
    if source.isLateral then
      let groups ← joined.rows.mapM fun row => do
        let right ← source.read db (row :: outer)
        let shape : Shape := ⟨source.qualifier, right.columns⟩
        return (right.columns, ← extendRow outer kind condition shape row right.rows)
      let columns ← (match groups with
        | group :: _ => .ok group.1
        | [] => source.header db : Except Fault (List String))
      joinAll db outer rest
        ⟨joined.shapes ++ [⟨source.qualifier, columns⟩], (groups.map Prod.snd).flatten⟩
    else
      let right ← source.read db outer
      let shape : Shape := ⟨source.qualifier, right.columns⟩
      let groups ← joined.rows.mapM fun row => extendRow outer kind condition shape row right.rows
      joinAll db outer rest ⟨joined.shapes ++ [shape], groups.flatten⟩

end

/-- The rows that a query's sources have together, before any is filtered out. -/
def Query.joined (db : Database) (outer : Env) (query : Query) : Except Fault Joined := do
  let base ← query.source.read db outer
  let shape : Shape := ⟨query.source.qualifier, base.columns⟩
  joinAll db outer query.joins ⟨[shape], base.rows.map fun values => [⟨shape, values⟩]⟩

def Query.answer (db : Database) (query : Query) : Except Fault Rowset := query.run db [] false

end Relata
