/-!
Numbers in base sixteen, and tables of such numbers: a table is a text of words, one for each row,
and a row is its numbers with commas between them.
-/

namespace Relata.Text

def hexValue? (c : Char) : Option Nat :=
  if '0' ≤ c ∧ c ≤ '9' then some (c.toNat - '0'.toNat)
  else if 'a' ≤ c ∧ c ≤ 'f' then some (c.toNat - 'a'.toNat + 10)
  else if 'A' ≤ c ∧ c ≤ 'F' then some (c.toNat - 'A'.toNat + 10)
  else none

def hexDigits (n : Nat) : List Char := Nat.toDigits 16 n

/-- One more character in front of the numbers of a row, each of which is kept as its digits. -/
def addDigit (c : Char) : List (List Char) → List (List Char)
  | [] => [[c]]
  | number :: numbers => if c = ',' then [] :: number :: numbers else (c :: number) :: numbers

/-- One more character in front of the rows of a table. -/
def addToRows (c : Char) (rows : List (List (List Char))) : List (List (List Char)) :=
  if c = ' ' ∨ c = '\n' then [] :: rows
  else match rows with
    | [] => [addDigit c []]
    | row :: rows => addDigit c row :: rows

def hexNumber (digits : List Char) : Nat :=
  digits.foldl (fun n c => 16 * n + (hexValue? c).getD 0) 0

def hexRows (table : String) : List (List Nat) :=
  ((table.toList.foldr addToRows []).filter fun row => !row.isEmpty).map (·.map hexNumber)

end Relata.Text
