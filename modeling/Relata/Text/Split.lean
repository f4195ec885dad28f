/-!
Text divided at a character.
-/

namespace Relata.Text

/-- The parts of a text around each place where the separator stands; one part more than places. -/
def splitOn (separator : Char) : List Char → List (List Char)
  | [] => [[]]
  | c :: rest =>
    if c = separator then [] :: splitOn separator rest
    else match splitOn separator rest with
      | part :: parts => (c :: part) :: parts
      | [] => [[c]]

end Relata.Text
