import Relata.Text.Split
import Relata.Url.Domain.Direction
import Relata.Url.Domain.Mapping
import Relata.Url.Percent
import Relata.Url.Punycode

/-!
Domain names. A name is labels with dots between them. Spellings that stand for the same name have
one form in the characters of its script and one in ASCII; `asciiDomain?` gives the latter, or
nothing for a text that no reader could tell from another.
-/

namespace Relata.Url

/-- Characters that end or divide other parts of an address, and those without a visible form. -/
def forbiddenInDomain : CharSet := fun c =>
  c.toNat < 0x80 && (controls.with " %#/:<>?@[\\]^|") c

def isAscii (label : List Char) : Bool := label.all (·.toNat < 0x80)

/-- A label in the characters of its script. After `xn--` it is encoded, and has to decode to text
in common form. -/
def scriptLabel? : List Char → Option (List Char)
  | 'x' :: 'n' :: '-' :: '-' :: code =>
    if 2000 < code.length || code.isEmpty || code.getLast? = some '-' then none
    else
      match Punycode.decode? code with
      | none => none
      | some label => if commonForm? label = some label then some label else none
  | label => some label

def isSound (label : List Char) : Bool :=
  !label.any forbiddenInDomain && !label.head?.any Text.isMark &&
    joinersFit [] label && (isAscii label || label.length ≤ 1000)

/-- The labels of a name in the characters of their scripts. -/
def scriptLabels? (labels : List (List Char)) : Option (List (List Char)) :=
  match labels.mapM scriptLabel? with
  | none => none
  | some shown =>
    if shown.all isSound && (!shown.flatten.any turnsDirection || shown.all keepsDirection) then
      some shown
    else none

def asciiLabel (label : List Char) : List Char :=
  if isAscii label then label else "xn--".toList ++ Punycode.encode label

def asciiDomain? (text : List Char) : Option (List Char) :=
  match commonForm? text with
  | none => none
  | some form =>
    (scriptLabels? (Text.splitOn '.' form)).map fun shown =>
      ['.'].intercalate (shown.map asciiLabel)

end Relata.Url
