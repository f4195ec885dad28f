import Relata.Value

/-!
Written statements. A statement is a sequence of text pieces and of holes for its numbers and
texts. Filling the holes gives the two forms of a statement: with every constant written out, or
with numbered parameters and the list of constants beside it. The pieces around the holes are the
same in both.
-/

namespace Relata

/-- A constant that can be passed apart from the text. Booleans and nulls are part of the text. -/
inductive Constant
  | int (n : Int64)
  | text (s : String)
  deriving DecidableEq

def Constant.value : Constant → Value
  | .int n => .int n
  | .text s => .text s

inductive Piece
  | text (s : String)
  | hole (c : Constant)
  deriving DecidableEq

abbrev Sql := List Piece

namespace Sql

def double (quote : Char) : List Char → List Char
  | [] => []
  | c :: rest => if c = quote then quote :: quote :: double quote rest else c :: double quote rest

/-- The text between two quotes, with the quotes inside it doubled. -/
def enquote (quote : Char) (s : String) : String :=
  String.ofList (quote :: double quote s.toList ++ [quote])

def name (s : String) : String := enquote '"' s

def literal : Constant → String
  | .int n => toString n.toInt
  | .text s => enquote '\'' s

/-- A parameter by its number, from one. -/
def parameter (number : Nat) : String := "$" ++ toString number

def text (s : String) : Sql := [.text s]

def join (separator : String) : List Sql → Sql
  | [] => []
  | [part] => part
  | part :: next :: rest => part ++ .text separator :: join separator (next :: rest)

def inline : Sql → String
  | [] => ""
  | .text s :: rest => s ++ inline rest
  | .hole c :: rest => literal c ++ inline rest

/-- The statement with parameters in place of constants, numbered on from those already bound. -/
def numbered (bound : Nat) : Sql → String
  | [] => ""
  | .text s :: rest => s ++ numbered bound rest
  | .hole _ :: rest => parameter (bound + 1) ++ numbered (bound + 1) rest

def constants : Sql → List Constant
  | [] => []
  | .text _ :: rest => constants rest
  | .hole c :: rest => c :: constants rest

/-- The statement with parameters, and the bound values with its own after them. -/
def bind (bound : List Value) (sql : Sql) : String × List Value :=
  (sql.numbered bound.length, bound ++ sql.constants.map Constant.value)

def parameters (sql : Sql) : List Value := sql.constants.map Constant.value

def value : Value → Sql
  | .null => text "NULL"
  | .bool true => text "TRUE"
  | .bool false => text "FALSE"
  | .int n => [.hole (.int n)]
  | .text s => [.hole (.text s)]

@[simp] theorem inline_append (left right : Sql) :
    inline (left ++ right) = inline left ++ inline right := by
  induction left with
  | nil => simp [inline]
  | cons piece rest ih => cases piece <;> simp [inline, ih, String.append_assoc]

@[simp] theorem constants_append (left right : Sql) :
    constants (left ++ right) = constants left ++ constants right := by
  induction left with
  | nil => rfl
  | cons piece rest ih => cases piece <;> simp [constants, ih]

theorem numbered_append (bound : Nat) (left right : Sql) :
    numbered bound (left ++ right) =
      numbered bound left ++ numbered (bound + left.constants.length) right := by
  induction left generalizing bound with
  | nil => simp [numbered, constants]
  | cons piece rest ih =>
      cases piece with
      | text s => simp [numbered, constants, ih, String.append_assoc]
      | hole c =>
          simp only [List.cons_append, numbered, constants, List.length_cons, ih,
            String.append_assoc]
          rw [Nat.add_right_comm, Nat.add_assoc]

end Sql

end Relata
