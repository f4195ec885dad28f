import Relata.Text.Canonical.Class
import Relata.Text.Canonical.Parts

/-!
Composed form: texts that differ only in how marks are put together with letters, or in the order of
marks that do not affect each other, have one composed form.
-/

namespace Relata.Text

/-- Puts a character before others, past the marks of a lower class than its own. -/
def insertMark (c : Char) : List Char → List Char
  | [] => [c]
  | d :: rest =>
    if 0 < combiningClass d ∧ combiningClass d < combiningClass c then d :: insertMark c rest
    else c :: d :: rest

/-- The parts of all characters, with the marks after each letter in ascending order of classes. -/
def decomposed (text : List Char) : List Char :=
  (text.flatMap parts).foldr insertMark []

/-- The syllable of Hangul that a letter or a shorter syllable makes with a letter. -/
def syllable? (first second : Char) : Option Char :=
  let a := first.toNat
  let b := second.toNat
  if 0x1100 ≤ a ∧ a < 0x1113 ∧ 0x1161 ≤ b ∧ b < 0x1176 then
    some (Char.ofNat (0xAC00 + ((a - 0x1100) * 21 + (b - 0x1161)) * 28))
  else if 0xAC00 ≤ a ∧ a ≤ 0xD7A3 ∧ (a - 0xAC00) % 28 = 0 ∧ 0x11A8 ≤ b ∧ b < 0x11C3 then
    some (Char.ofNat (a + (b - 0x11A7)))
  else none

/-- The character that holds the place of two. The second is never below U+0300. -/
def composite? (first second : Char) : Option Char :=
  if second.toNat < 0x300 then none
  else match syllable? first second with
    | some c => some c
    | none =>
      let sequence := parts first ++ [second]
      (composites.find? fun row => row.2 == sequence).map Prod.fst

/-- Puts what follows a letter together with it. `marks` were passed and stay behind the letter; one
of them hides later marks of its class or a lower one, and all letters. -/
def composeFrom (letter : Char) (marks : List Char) : List Char → List Char
  | [] => letter :: marks
  | c :: rest =>
    let isHidden := marks.getLast?.any fun d => combiningClass c ≤ combiningClass d
    match if isHidden then none else composite? letter c with
    | some whole => composeFrom whole marks rest
    | none =>
      if combiningClass c = 0 then letter :: marks ++ composeFrom c [] rest
      else composeFrom letter (marks ++ [c]) rest

/-- Puts text together from its first letter on. -/
def compose : List Char → List Char
  | [] => []
  | c :: rest => if combiningClass c = 0 then composeFrom c [] rest else c :: compose rest

/-- The composed form of a text. -/
def composed (text : List Char) : List Char := compose (decomposed text)

end Relata.Text
