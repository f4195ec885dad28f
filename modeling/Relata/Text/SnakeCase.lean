import Relata.Text.Alphanumeric
import Relata.Text.LetterCase

/-!
Snake case: the words of a name in small letters, joined by underscores.

A word ends at every character that is neither a letter nor a number, where a small letter is
followed by a capital, and before the last capital of a run of capitals that a small letter
follows, so that `HTTPRequest` has the words `HTTP` and `Request`.
-/

namespace Relata.Text

/-- The maximal runs of letters and numbers; the empty ones are kept. -/
def segments : List Char → List (List Char)
  | [] => [[]]
  | c :: rest =>
    if isAlphanumeric c then
      match segments rest with
      | segment :: others => (c :: segment) :: others
      | [] => [[c]]
    else [] :: segments rest

/-- The case of the letter read last in a word; numbers and uncased letters leave it alone. -/
inductive WordCase
  | start
  | small
  | capital
  deriving DecidableEq

def WordCase.after (state : WordCase) (c : Char) : WordCase :=
  if isLowercase c then .small else if isUppercase c then .capital else state

/-- Splits a segment into words. `word` holds the characters of the current word so far. -/
def splitWords : WordCase → List Char → List Char → List (List Char)
  | _, word, [] => if word.isEmpty then [] else [word]
  | _, word, [c] => [word ++ [c]]
  | state, word, c :: next :: rest =>
    if state.after c = .small ∧ isUppercase next then
      (word ++ [c]) :: splitWords .start [] (next :: rest)
    else if state = .capital ∧ isUppercase c ∧ isLowercase next then
      word :: splitWords .start [c] (next :: rest)
    else
      splitWords (state.after c) (word ++ [c]) (next :: rest)

/-- A word in small letters. A capital sigma that ends the word takes its final form. -/
def lowerWord : List Char → List Char
  | [] => []
  | [c] => if c = 'Σ' then ['ς'] else lowerChar c
  | c :: rest => lowerChar c ++ lowerWord rest

def words (name : String) : List (List Char) :=
  (segments name.toList).flatMap (splitWords .start [])

/-- The words of a name in small letters, joined by underscores. -/
def snakeCase (name : String) : String :=
  "_".intercalate ((words name).map fun word => String.ofList (lowerWord word))

end Relata.Text
