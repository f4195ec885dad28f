import Relata.Text.Marks

/-!
The direction in which characters are written, and the rule that keeps names that mix directions
readable. The tables are of Unicode 17.0, for the characters that a name may hold.
-/

namespace Relata.Url

inductive Direction
  | leftToRight
  | rightToLeft
  /-- Digits that start no direction of their own. -/
  | digit
  | arabicDigit
  /-- A mark, which takes the direction of the character before it. -/
  | mark
  | neutral
  deriving DecidableEq

/-- Code points that are written from right to left, in ascending order. -/
def rightToLeftRanges : List Text.CodeRange := [
  ⟨0x5BE, 0x5BE, 1⟩, ⟨0x5C0, 0x5C0, 1⟩, ⟨0x5C3, 0x5C3, 1⟩, ⟨0x5C6, 0x5C6, 1⟩, ⟨0x5D0, 0x5F4, 1⟩,
  ⟨0x608, 0x608, 1⟩, ⟨0x60B, 0x60B, 1⟩, ⟨0x60D, 0x60D, 1⟩, ⟨0x61B, 0x64A, 1⟩, ⟨0x66D, 0x66F, 1⟩,
  ⟨0x671, 0x6D5, 1⟩, ⟨0x6E5, 0x6E6, 1⟩, ⟨0x6EE, 0x6EF, 1⟩, ⟨0x6FA, 0x710, 1⟩, ⟨0x712, 0x72F, 1⟩,
  ⟨0x74D, 0x7A5, 1⟩, ⟨0x7B1, 0x7EA, 1⟩, ⟨0x7F4, 0x7F5, 1⟩, ⟨0x7FA, 0x7FA, 1⟩, ⟨0x7FE, 0x815, 1⟩,
  ⟨0x81A, 0x81A, 1⟩, ⟨0x824, 0x824, 1⟩, ⟨0x828, 0x828, 1⟩, ⟨0x830, 0x858, 1⟩, ⟨0x85E, 0x88F, 1⟩,
  ⟨0x8A0, 0x8C9, 1⟩, ⟨0xFBB2, 0xFBC2, 1⟩, ⟨0xFE73, 0xFE73, 1⟩, ⟨0x10800, 0x1091B, 1⟩,
  ⟨0x10920, 0x10A00, 1⟩, ⟨0x10A10, 0x10A35, 1⟩, ⟨0x10A40, 0x10AE4, 1⟩, ⟨0x10AEB, 0x10B35, 1⟩,
  ⟨0x10B40, 0x10D23, 1⟩, ⟨0x10D4A, 0x10D4F, 1⟩, ⟨0x10D6F, 0x10D8F, 1⟩, ⟨0x10E80, 0x10EA9, 1⟩,
  ⟨0x10EAD, 0x10EC7, 1⟩, ⟨0x10F00, 0x10F45, 1⟩, ⟨0x10F51, 0x10F81, 1⟩, ⟨0x10F86, 0x10FF6, 1⟩,
  ⟨0x1E800, 0x1E8CF, 1⟩, ⟨0x1E922, 0x1E943, 1⟩, ⟨0x1E94B, 0x1ED3D, 1⟩]

def digitRanges : List Text.CodeRange := [
  ⟨0x30, 0x39, 1⟩, ⟨0x6F0, 0x6F9, 1⟩, ⟨0x102E1, 0x102FB, 1⟩]

def arabicDigitRanges : List Text.CodeRange := [
  ⟨0x660, 0x669, 1⟩, ⟨0x66B, 0x66C, 1⟩, ⟨0x10D30, 0x10D49, 1⟩, ⟨0x10E60, 0x10E7E, 1⟩]

/-- Code points that take their direction from what is around them, in ascending order. -/
def neutralRanges : List Text.CodeRange := [
  ⟨0x21, 0x2F, 1⟩, ⟨0x3A, 0x60, 1⟩, ⟨0x7B, 0xD7, 1⟩, ⟨0xF7, 0xF7, 1⟩, ⟨0x2B9, 0x2BA, 1⟩,
  ⟨0x2C2, 0x2CF, 1⟩, ⟨0x2D2, 0x2ED, 1⟩, ⟨0x2EF, 0x2FF, 1⟩, ⟨0x375, 0x375, 1⟩, ⟨0x3F6, 0x3F6, 1⟩,
  ⟨0x58A, 0x58F, 1⟩, ⟨0x606, 0x607, 1⟩, ⟨0x609, 0x60A, 1⟩, ⟨0x60C, 0x60C, 1⟩, ⟨0x60E, 0x60F, 1⟩,
  ⟨0x66A, 0x66A, 1⟩, ⟨0x6DE, 0x6DE, 1⟩, ⟨0x6E9, 0x6E9, 1⟩, ⟨0x7F6, 0x7F9, 1⟩, ⟨0x9F2, 0x9F3, 1⟩,
  ⟨0x9FB, 0x9FB, 1⟩, ⟨0xAF1, 0xAF1, 1⟩, ⟨0xBF3, 0xBFA, 1⟩, ⟨0xC78, 0xC7E, 1⟩, ⟨0xE3F, 0xE3F, 1⟩,
  ⟨0xF3A, 0xF3D, 1⟩, ⟨0x1390, 0x1399, 1⟩, ⟨0x1400, 0x1400, 1⟩, ⟨0x169B, 0x169C, 1⟩,
  ⟨0x17DB, 0x17DB, 1⟩, ⟨0x17F0, 0x180A, 1⟩, ⟨0x1940, 0x1945, 1⟩, ⟨0x19DE, 0x19FF, 1⟩,
  ⟨0x200C, 0x20C1, 1⟩, ⟨0x2104, 0x214D, 1⟩, ⟨0x218A, 0x2335, 1⟩, ⟨0x237B, 0x2394, 1⟩,
  ⟨0x2396, 0x26AB, 1⟩, ⟨0x26AD, 0x27FF, 1⟩, ⟨0x2900, 0x2BFF, 1⟩, ⟨0x2CE5, 0x2CEA, 1⟩,
  ⟨0x2CF9, 0x2CFF, 1⟩, ⟨0x2E00, 0x3004, 1⟩, ⟨0x3008, 0x3020, 1⟩, ⟨0x3030, 0x3030, 1⟩,
  ⟨0x3037, 0x3037, 1⟩, ⟨0x303D, 0x303F, 1⟩, ⟨0x30A0, 0x30A0, 1⟩, ⟨0x30FB, 0x30FB, 1⟩,
  ⟨0x31C0, 0x31E5, 1⟩, ⟨0x4DC0, 0x4DFF, 1⟩, ⟨0xA490, 0xA4C6, 1⟩, ⟨0xA60D, 0xA60F, 1⟩,
  ⟨0xA673, 0xA673, 1⟩, ⟨0xA67E, 0xA67F, 1⟩, ⟨0xA700, 0xA721, 1⟩, ⟨0xA788, 0xA788, 1⟩,
  ⟨0xA828, 0xA82B, 1⟩, ⟨0xA838, 0xA839, 1⟩, ⟨0xA874, 0xA877, 1⟩, ⟨0xAB6A, 0xAB6B, 1⟩,
  ⟨0xFBC3, 0xFDFF, 1⟩, ⟨0xFE45, 0xFE46, 1⟩, ⟨0x10101, 0x10101, 1⟩, ⟨0x10140, 0x1018C, 1⟩,
  ⟨0x10190, 0x101A0, 1⟩, ⟨0x1091F, 0x1091F, 1⟩, ⟨0x10B39, 0x10B3F, 1⟩, ⟨0x10D6E, 0x10D6E, 1⟩,
  ⟨0x10ED0, 0x10ED8, 1⟩, ⟨0x11052, 0x11065, 1⟩, ⟨0x11660, 0x1166C, 1⟩, ⟨0x11FD5, 0x11FF1, 1⟩,
  ⟨0x16FE2, 0x16FE2, 1⟩, ⟨0x1CC00, 0x1CEF0, 1⟩, ⟨0x1D1E9, 0x1D241, 1⟩, ⟨0x1D245, 0x1D245, 1⟩,
  ⟨0x1D300, 0x1D356, 1⟩, ⟨0x1E2FF, 0x1E2FF, 1⟩, ⟨0x1EEF0, 0x1F12F, 1⟩, ⟨0x1F16D, 0x1F16F, 1⟩,
  ⟨0x1F1AD, 0x1F1AD, 1⟩, ⟨0x1F260, 0x1FBFA, 1⟩]

/-- Marks that count as letters. -/
def letterlikeMarks : List Text.CodeRange := [
  ⟨0xCBF, 0xCBF, 1⟩, ⟨0xCC6, 0xCC6, 1⟩, ⟨0x11A07, 0x11A08, 1⟩, ⟨0x11C3F, 0x11C3F, 1⟩]

def direction (c : Char) : Direction :=
  if Text.covers rightToLeftRanges c then .rightToLeft
  else if Text.covers digitRanges c then .digit
  else if Text.covers arabicDigitRanges c then .arabicDigit
  else if Text.covers neutralRanges c then .neutral
  else if Text.isNonspacing c && !Text.covers letterlikeMarks c then .mark
  else .leftToRight

/-- Whether a character makes the rule apply to the name that holds it. -/
def turnsDirection (c : Char) : Bool :=
  direction c == .rightToLeft || direction c == .arabicDigit

/-- The rule for what follows a first letter that is written from left to right: the last character,
marks apart, is such a letter or a digit, and nothing is written from right to left. -/
def keepsLeft (reversed : List Direction) : Bool :=
  match reversed with
  | [] => true
  | last :: inner =>
    [.leftToRight, .digit].contains last && !inner.any [.rightToLeft, .arabicDigit].contains

/-- The rule for what follows a first letter that is written from right to left: the last character,
marks apart, is such a letter or a digit, no letter is written from left to right, and digits are of
one kind. -/
def keepsRight (reversed : List Direction) : Bool :=
  match reversed with
  | [] => true
  | last :: inner =>
    [.rightToLeft, .digit, .arabicDigit].contains last && !inner.contains .leftToRight &&
      !(reversed.contains .digit && reversed.contains .arabicDigit)

/-- Whether a part of a name can be read in the direction in which it starts. -/
def keepsDirection (label : List Char) : Bool :=
  match label with
  | [] => true
  | first :: rest =>
    let reversed := (rest.map direction).reverse.dropWhile (· == .mark)
    match direction first with
    | .leftToRight => keepsLeft reversed
    | .rightToLeft => keepsRight reversed
    | _ => false

end Relata.Url
