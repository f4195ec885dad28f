import Relata.Proofs.Expr.Columns
import Relata.Proofs.Sql.Scanner

/-!
Reading conditions. What stands between brackets is read when the bracket closes. Between brackets, OR
separates first, then AND, then NOT stands in front; what is left is an operand or a comparison, a list
or a test for nulls of operands. A column is read with a bare qualifier at first, and put in the table
that the qualifier stands for in the end.
-/

namespace Relata

/-- A token, or the parts between brackets. -/
inductive Item
  | token (t : Token)
  | bracket (parts : List Expr)

namespace Item

def isAnd : Item → Bool
  | .token .and => true
  | _ => false

def isOr : Item → Bool
  | .token .or => true
  | _ => false

end Item

/-- The operand at the front. A column says by which name its table is read and no more. -/
def readOperand : List Item → Option (Expr × List Item)
  | .token (.name qualifier) :: .token .point :: .token (.name column) :: rest =>
    some (.column ((TableRef.derived qualifier).column column), rest)
  | .token (.const v) :: rest => some (.const v, rest)
  | .bracket [e] :: rest => some (.grouping e, rest)
  | _ => none

/-- What follows an operand: nothing, or what makes a condition of it. -/
def readCondition (lhs : Expr) : List Item → Option Expr
  | [] => some lhs
  | .token (.comparison op) :: rest =>
    match readOperand rest with
    | some (rhs, []) => some (.compare op lhs rhs)
    | _ => none
  | [.token .is, .token (.const .null)] => some (.isNull false lhs)
  | [.token .is, .token .not, .token (.const .null)] => some (.isNull true lhs)
  | [.token .among, .bracket items] => some (.inList lhs items)
  | _ => none

def readNegation : List Item → Option Expr
  | .token .not :: rest => (readNegation rest).map .not
  | items => (readOperand items).bind fun operand => readCondition operand.1 operand.2

/-- One part by itself, several as a junction. -/
def joinedBy (junction : List Expr → Expr) : List Expr → Expr
  | [e] => e
  | es => junction es

def readConjunction (items : List Item) : Option Expr :=
  ((items.splitOnP Item.isAnd).mapM readNegation).map (joinedBy .and)

def readDisjunction (items : List Item) : Option Expr :=
  ((items.splitOnP Item.isOr).mapM readConjunction).map (joinedBy .or)

/-- What has been read since a bracket opened: the parts before the last comma, and the items after
it. -/
structure Level where
  parts : List Expr
  items : List Item

/-- Whether the token opens, closes or continues a level. -/
def Token.divides : Token → Bool
  | .opening | .closing | .comma => true
  | _ => false

/-- Reads one token at the innermost level; the levels around it follow. -/
def shift : Level × List Level → Token → Option (Level × List Level)
  | (level, outer), .opening => some (⟨[], []⟩, level :: outer)
  | (level, outer), .comma =>
    (readDisjunction level.items).map fun e => (⟨level.parts ++ [e], []⟩, outer)
  | (level, above :: outer), .closing =>
    (readDisjunction level.items).map fun e =>
      (⟨above.parts, above.items ++ [.bracket (level.parts ++ [e])]⟩, outer)
  | (_, []), .closing => none
  | (level, outer), token => some (⟨level.parts, level.items ++ [.token token]⟩, outer)

def readTokens (tokens : List Token) : Option Expr :=
  match tokens.foldlM shift (⟨[], []⟩, []) with
  | some (⟨[], items⟩, []) => readDisjunction items
  | _ => none

mutual

/-- The expression with its columns in the tables that their qualifiers stand for. -/
def Expr.within (tables : String → TableRef) : Expr → Expr
  | .and operands => .and (withinAll tables operands)
  | .or operands => .or (withinAll tables operands)
  | .compare op lhs rhs => .compare op (lhs.within tables) (rhs.within tables)
  | .column c => .column (c.rebind (tables c.table.qualifier))
  | .grouping e => .grouping (e.within tables)
  | .inList e items => .inList (e.within tables) (withinAll tables items)
  | .isNull negated e => .isNull negated (e.within tables)
  | .not e => .not (e.within tables)
  | .const v => .const v

def withinAll (tables : String → TableRef) : List Expr → List Expr
  | [] => []
  | e :: rest => e.within tables :: withinAll tables rest

end

/-- The expression that a text says, where qualifiers stand for the tables and parameters for the bound
values. -/
def readExpr (tables : String → TableRef) (bound : List Value) (text : String) : Option Expr :=
  ((scan bound .blank text.toList).bind readTokens).map (Expr.within tables)

variable {tables : String → TableRef}

theorem withinAll_eq_map (es : List Expr) : withinAll tables es = es.map (Expr.within tables) := by
  induction es with
  | nil => rfl
  | cons e rest ih => rw [withinAll, ih, List.map_cons]

namespace Expr

/-- Nothing changes where each qualifier stands for the table that has it. -/
theorem within_of_named {e : Expr} (named : ∀ c ∈ e.columns, tables c.table.qualifier = c.table) :
    e.within tables = e := by
  have each : ∀ {es : List Expr}, (∀ c ∈ columnsOf es, tables c.table.qualifier = c.table) →
      (∀ e ∈ es, (∀ c ∈ e.columns, tables c.table.qualifier = c.table) → e.within tables = e) →
      withinAll tables es = es := by
    intro es named same
    rw [withinAll_eq_map]
    refine (List.map_congr_left fun e member => ?_).trans (List.map_id es)
    exact same e member fun c inside => named c (mem_columnsOf.mpr ⟨e, member, inside⟩)
  induction e using Expr.induction with
  | and operands ih => rw [within, each named ih]
  | or operands ih => rw [within, each named ih]
  | compare op lhs rhs left right =>
      have both := List.forall_mem_append.mp named
      rw [within, left both.1, right both.2]
  | column c => rw [within, ColumnRef.rebind, named c List.mem_cons_self]
  | grouping e ih => rw [within, ih named]
  | inList e items ih below =>
      have both := List.forall_mem_append.mp named
      rw [within, ih both.1, each both.2 below]
  | isNull negated e ih => rw [within, ih named]
  | not e ih => rw [within, ih named]
  | const v => rfl

/-- A bare qualifier is kept as it is, so it stands for a table later as well as at once. -/
theorem within_derived (e : Expr) : (e.within .derived).within tables = e.within tables := by
  have each : ∀ {es : List Expr},
      (∀ e ∈ es, (e.within .derived).within tables = e.within tables) →
      withinAll tables (withinAll .derived es) = withinAll tables es := by
    intro es same
    rw [withinAll_eq_map, withinAll_eq_map, withinAll_eq_map, List.map_map]
    exact List.map_congr_left same
  induction e using Expr.induction with
  | and operands ih => rw [within, within, within, each ih]
  | or operands ih => rw [within, within, within, each ih]
  | compare op lhs rhs left right => rw [within, within, within, left, right]
  | column c => rfl
  | grouping e ih => rw [within, within, within, ih]
  | inList e items ih below => rw [within, within, within, ih, each below]
  | isNull negated e ih => rw [within, within, within, ih]
  | not e ih => rw [within, within, within, ih]
  | const v => rfl

end Expr

end Relata
