/-!
Ranges of code points, the form in which character classes are tabulated.
-/

namespace Relata.Text

/-- The code points from `first` to `last` that lie a multiple of `step` after `first`. -/
structure CodeRange where
  first : Nat
  last : Nat
  step : Nat

def CodeRange.contains (range : CodeRange) (point : Nat) : Bool :=
  range.first ≤ point && point ≤ range.last && (point - range.first) % range.step == 0

def covers (ranges : List CodeRange) (c : Char) : Bool :=
  ranges.any fun range => range.contains c.toNat

end Relata.Text
