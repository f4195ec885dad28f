import Relata.Text.Hex
import Relata.Text.Unprintable

/-!
Text for a reader of messages: in double quotes, with an escape for every character that could not
be told apart on a page.
-/

namespace Relata.Text

/-- A character inside quotes. Five have a short escape; a character without a visible form, or
one that would merge with its neighbour, is written by number. -/
def escapeChar (c : Char) : List Char :=
  if c = Char.ofNat 0 then ['\\', '0']
  else if c = '\t' then ['\\', 't']
  else if c = '\r' then ['\\', 'r']
  else if c = '\n' then ['\\', 'n']
  else if c = '\\' ∨ c = '"' then ['\\', c]
  else if isExtending c || isUnprintable c then
    ['\\', 'u', Char.ofNat 0x7B] ++ hexDigits c.toNat ++ [Char.ofNat 0x7D]
  else [c]

def quoted (s : String) : String :=
  String.ofList ('"' :: s.toList.flatMap escapeChar ++ ['"'])

end Relata.Text
