import Relata.Error

/-!
Values as a server reads and writes them. A parameter is encoded at the type that the server expects
and a cell is decoded at the type that the server declares: a truth value is one byte, an integer is
the two's complement of exactly the type's width with the highest byte first, a text is its bytes in
UTF-8, and a null has no bytes.
-/

namespace Relata

/-- The types that values are exchanged at, and other types by name. -/
inductive WireType
  | bool
  | int2
  | int4
  | int8
  | text
  | varchar
  | other (name : String)
  deriving DecidableEq

namespace WireType

def name : WireType → String
  | .bool => "bool"
  | .int2 => "int2"
  | .int4 => "int4"
  | .int8 => "int8"
  | .text => "text"
  | .varchar => "varchar"
  | .other name => name

def isSupported : WireType → Bool
  | .other _ => false
  | _ => true

end WireType

abbrev Bytes := List UInt8

/-- How many numbers have so many bytes. -/
def byteRange (width : Nat) : Nat := Nat.pow 256 width

/-- The lowest `width` bytes of an integer in two's complement, the highest first. -/
def bigEndian : Nat → Int → Bytes
  | 0, _ => []
  | width + 1, n => UInt8.ofNat (n / byteRange width % 256).toNat :: bigEndian width n

/-- The number that bytes denote, the highest first. -/
def unsignedOf (bytes : Bytes) : Nat := bytes.foldl (fun n byte => n * 256 + byte.toNat) 0

/-- The integer that bytes denote in two's complement. -/
def signedOf (bytes : Bytes) : Int :=
  let n := unsignedOf bytes
  if 2 * n < byteRange bytes.length then n else (n : Int) - byteRange bytes.length

def fitsWidth (width : Nat) (n : Int) : Bool :=
  decide (-(byteRange width : Int) ≤ 2 * n ∧ 2 * n < byteRange width)

/-- Why a value cannot be a parameter, or a cell not a value. -/
inductive WireFault
  | unsupportedType
  | outOfRange
  | wrongSize
  | notText
  deriving DecidableEq

def encodeInt (width : Nat) (n : Int64) : Except WireFault (Option Bytes) :=
  if fitsWidth width n.toInt then .ok (some (bigEndian width n.toInt)) else .error .outOfRange

/-- A value as a parameter of the type. The kind of the value decides its bytes; the type decides
only how wide an integer is. -/
def Value.encode (type : WireType) (v : Value) : Except WireFault (Option Bytes) :=
  if !type.isSupported then .error .unsupportedType
  else match v with
    | .null => .ok none
    | .bool b => .ok (some [if b then 1 else 0])
    | .int n =>
      match type with
      | .int2 => encodeInt 2 n
      | .int4 => encodeInt 4 n
      | _ => encodeInt 8 n
    | .text s => .ok (some s.toUTF8.toList)

/-- The integer of a cell that has exactly the width. -/
def decodeInt (width : Nat) (bytes : Bytes) : Except WireFault Value :=
  if bytes.length = width then .ok (.int (Int64.ofInt (signedOf bytes))) else .error .wrongSize

def WireType.decode (type : WireType) (cell : Option Bytes) : Except WireFault Value :=
  if !type.isSupported then .error .unsupportedType
  else match cell with
    | none => .ok .null
    | some bytes =>
      match type with
      | .bool =>
        match bytes with
        | [byte] => .ok (.bool (byte != 0))
        | _ => .error .wrongSize
      | .int2 => decodeInt 2 bytes
      | .int4 => decodeInt 4 bytes
      | .int8 => decodeInt 8 bytes
      | _ =>
        match String.fromUTF8? ⟨bytes.toArray⟩ with
        | some s => .ok (.text s)
        | none => .error .notText

theorem bigEndian_length (width : Nat) (n : Int) : (bigEndian width n).length = width := by
  induction width with
  | zero => rfl
  | succ width ih => simp [bigEndian, ih]

end Relata
