import Mathlib.Tactic.FinCases
import Relata.Proofs.Wire.Columns

/-!
Values that come back exactly. An integer is bound at a type just if the type holds it, and every cell of the type's
width is the one that its integer is bound as, so that the cells and the integers of a type correspond. Truth values
and texts come back at their types, and a null at every type that values are exchanged at.
-/

namespace Relata

namespace WireType

variable {type : WireType} {bytes : Bytes}

/-- An integer is bound just if it is one of as many bits as the type has. -/
theorem bound_iff (kind : type.kind = .int) (n : Int64) :
    (∃ cell, (Value.int n).encode type = .ok cell) ↔
      -2 ^ (8 * type.width - 1) ≤ n.toInt ∧ n.toInt < 2 ^ (8 * type.width - 1) := by
  rw [encode_int kind, encodeInt, ← fitsWidth_iff (Nat.lt_trans Nat.zero_lt_one type.one_lt_width)]
  cases fitsWidth type.width n.toInt <;> simp

/-- A cell of the type's width is what the integer in it is bound as. -/
theorem encode_decode (kind : type.kind = .int) (sized : bytes.length = type.width) :
    ∃ n, type.decode (some bytes) = .ok (.int n) ∧ (Value.int n).encode type = .ok (some bytes) := by
  have fits := fitsWidth_signedOf bytes
  have held : (Int64.ofInt (signedOf bytes)).toInt = signedOf bytes :=
    toInt_ofInt_of_fitsWidth (sized ▸ type.width_le) fits
  refine ⟨.ofInt (signedOf bytes), ?_, ?_⟩
  · rw [decode_int kind, decodeInt, if_pos sized]
  · rw [encode_int kind, encodeInt, held, ← sized, if_pos fits, bigEndian_signedOf]

/-- A type that values are not exchanged at refuses nulls as well, on both ways. -/
theorem unsupported_refuses (unsupported : type.isSupported = false) :
    (∀ v : Value, v.encode type = .error .unsupportedType) ∧
      ∀ cell, type.decode cell = .error .unsupportedType := by
  cases type with
  | other name => exact ⟨fun _ => rfl, fun _ => rfl⟩
  | bool | int2 | int4 | int8 | text | varchar => cases unsupported

end WireType

namespace Value

/-- An integer is bound at an integer type just if it is within the type's signed range, and is then read as it was; a
cell of the type's width is what the integer in it is bound as. Truth values and texts are read as they were bound, and
a null is bound as no bytes and read from none, except at a type that is not supported, which nothing passes. -/
theorem exchanged_exactly :
    (∀ type ∈ [WireType.int2, .int4, .int8],
      (∀ n : Int64,
        ((∃ cell, (Value.int n).encode type = .ok cell) ↔
          -2 ^ (8 * type.width - 1) ≤ n.toInt ∧ n.toInt < 2 ^ (8 * type.width - 1)) ∧
        ∀ cell, (Value.int n).encode type = .ok cell → type.decode cell = .ok (.int n)) ∧
      ∀ bytes : Bytes, bytes.length = type.width →
        ∃ n, type.decode (some bytes) = .ok (.int n) ∧ (Value.int n).encode type = .ok (some bytes)) ∧
    (∀ b, WireType.bool.returned (.bool b) = .ok (.bool b)) ∧
    (∀ s, WireType.text.returned (.text s) = .ok (.text s) ∧
      WireType.varchar.returned (.text s) = .ok (.text s)) ∧
    (∀ type : WireType, type.isSupported = true →
      Value.null.encode type = .ok none ∧ type.decode none = .ok .null) ∧
    ∀ type : WireType, type.isSupported = false →
      (∀ v : Value, v.encode type = .error .unsupportedType) ∧
        ∀ cell, type.decode cell = .error .unsupportedType := by
  have text : ∀ type ∈ [WireType.text, .varchar], ∀ s, type.returned (.text s) = .ok (.text s) := by
    intro type among s
    have written : (Value.text s).encode type = .ok (some s.toUTF8.toList) := by
      fin_cases among <;> rfl
    rw [WireType.returned, written, ok_bind]
    exact decode_encode written (by fin_cases among <;> rfl)
  refine ⟨fun type among => ?_, fun b => ?_, fun s => ⟨text _ (by decide) s, text _ (by decide) s⟩,
    fun type supported => ⟨WireType.encode_null supported, WireType.decode_null supported⟩,
    fun type unsupported => WireType.unsupported_refuses unsupported⟩
  · have kind : type.kind = .int := by fin_cases among <;> rfl
    refine ⟨fun n => ⟨WireType.bound_iff kind n, fun cell written => ?_⟩, fun bytes sized =>
      WireType.encode_decode kind sized⟩
    rw [WireType.encode_int kind] at written
    cases cell with
    | none =>
        rw [encodeInt] at written
        split at written <;> cases written
    | some bytes => exact decode_encode ((WireType.encode_int kind n).trans written) kind
  · cases b <;> rfl

/-- The ends of the range of two bytes. -/
theorem exchanged_exactly_short :
    (∃ cell, (Value.int (-32768)).encode .int2 = .ok cell) ∧
      (∃ cell, (Value.int 32767).encode .int2 = .ok cell) ∧
      (¬ ∃ cell, (Value.int 32768).encode .int2 = .ok cell) ∧
      ∃ n, WireType.int2.decode (some [255, 0]) = .ok (.int n) ∧
        (Value.int n).encode .int2 = .ok (some [255, 0]) := by
  obtain ⟨bound, back⟩ := exchanged_exactly.1 .int2 (by decide)
  exact ⟨(bound (-32768)).1.mpr (by decide), (bound 32767).1.mpr (by decide),
    fun written => absurd ((bound 32768).1.mp written) (by decide), back [255, 0] rfl⟩

/-- A null is neither bound nor read where values are not exchanged. -/
theorem null_refused :
    Value.null.encode (.other "float8") = .error .unsupportedType ∧
      (WireType.other "float8").decode none = .error .unsupportedType :=
  ⟨rfl, rfl⟩

end Value

end Relata
