import Relata.Text.Hex

/-!
Percent encoding: bytes that a part of an address may not hold are written as a percent sign and two
hexadecimal digits. Each part has its own set of characters to encode; bytes past 127 always are.
-/

namespace Relata.Url

/-- A set of characters, by membership. -/
abbrev CharSet := Char → Bool

def CharSet.with (set : CharSet) (chars : String) : CharSet := fun c =>
  set c || chars.toList.contains c

/-- Control characters and everything past ASCII. -/
def controls : CharSet := fun c => c.toNat < 0x20 || c.toNat ≥ 0x7F

def fragmentSet : CharSet := controls.with " \"<>`"

def querySet : CharSet := controls.with " \"#<>"

def specialQuerySet : CharSet := querySet.with "'"

def pathSet : CharSet := fragmentSet.with "#?\x7b\x7d"

def userinfoSet : CharSet := pathSet.with "/:;=@[\\]^|"

def hexDigit (n : Nat) : Char :=
  if n < 10 then Char.ofNat ('0'.toNat + n) else Char.ofNat ('A'.toNat + n - 10)

def encodeByte (byte : UInt8) : List Char :=
  ['%', hexDigit (byte.toNat / 16), hexDigit (byte.toNat % 16)]

def encodeChar (set : CharSet) (c : Char) : List Char :=
  if set c then (String.utf8EncodeChar c).flatMap encodeByte else [c]

def encode (set : CharSet) (chars : List Char) : String :=
  String.ofList (chars.flatMap (encodeChar set))

/-- The bytes that encoded text stands for. A percent sign without two digits stands for itself. -/
def decodeBytes : List Char → List UInt8
  | '%' :: high :: low :: rest =>
    match Text.hexValue? high, Text.hexValue? low with
    | some h, some l => UInt8.ofNat (16 * h + l) :: decodeBytes rest
    | _, _ => String.utf8EncodeChar '%' ++ decodeBytes (high :: low :: rest)
  | c :: rest => String.utf8EncodeChar c ++ decodeBytes rest
  | [] => []

end Relata.Url
