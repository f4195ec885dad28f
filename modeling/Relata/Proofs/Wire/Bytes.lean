import Mathlib.Tactic.Ring
import Relata.Wire

/-!
Bytes of integers and of texts. The bytes that an integer is written with denote it again where the width
holds it, any bytes are the ones that their integer is written with, and bytes are a text exactly if they are
written for it.
-/

namespace Relata

variable {bytes : Bytes} {width : Nat} {n : Int}

theorem byteRange_succ (width : Nat) : byteRange (width + 1) = byteRange width * 256 :=
  Nat.pow_succ 256 width

theorem byteRange_pos (width : Nat) : 0 < byteRange width := Nat.pow_pos (by decide)

theorem foldl_bytes (bytes : Bytes) (n : Nat) :
    bytes.foldl (fun n byte => n * 256 + byte.toNat) n =
      n * byteRange bytes.length + unsignedOf bytes := by
  induction bytes generalizing n with
  | nil => simp [unsignedOf, byteRange]
  | cons byte rest ih =>
      have whole : unsignedOf (byte :: rest) =
          (0 * 256 + byte.toNat) * byteRange rest.length + unsignedOf rest := ih _
      rw [List.foldl_cons, ih, whole, List.length_cons, byteRange_succ]
      ring

theorem unsignedOf_cons (byte : UInt8) (rest : Bytes) :
    unsignedOf (byte :: rest) = byte.toNat * byteRange rest.length + unsignedOf rest := by
  rw [unsignedOf, List.foldl_cons, foldl_bytes, Nat.zero_mul, Nat.zero_add]

/-- A remainder splits off the digit at one place. -/
theorem emod_digit (n : Int) {place base : Int} (positive : 0 < place) (digits : 0 < base) :
    n % (place * base) = n / place % base * place + n % place := by
  have low := Int.emod_nonneg n positive.ne'
  have under := Int.emod_lt_of_pos n positive
  have digit := Int.emod_nonneg (n / place) digits.ne'
  have below := Int.emod_lt_of_pos (n / place) digits
  have split : n = n / place % base * place + n % place + place * base * (n / place / base) := by
    conv_lhs => rw [← Int.emod_add_mul_ediv n place, ← Int.emod_add_mul_ediv (n / place) base]
    ring
  conv_lhs => rw [split, Int.add_mul_emod_self_left]
  refine Int.emod_eq_of_lt (Int.add_nonneg (Int.mul_nonneg digit positive.le) low) ?_
  calc n / place % base * place + n % place
      < n / place % base * place + place := by omega
    _ = (n / place % base + 1) * place := by ring
    _ ≤ base * place := Int.mul_le_mul_of_nonneg_right below positive.le
    _ = place * base := mul_comm base place

/-- Written bytes denote the integer, up to the range of the width. -/
theorem unsignedOf_bigEndian (width : Nat) (n : Int) :
    (unsignedOf (bigEndian width n) : Int) = n % byteRange width := by
  induction width with
  | zero => simp [bigEndian, unsignedOf, byteRange]
  | succ width ih =>
      have digit : ((UInt8.ofNat (n / byteRange width % 256).toNat).toNat : Int) =
          n / byteRange width % 256 := by
        rw [UInt8.toNat_ofNat']
        omega
      rw [bigEndian, unsignedOf_cons, bigEndian_length, Nat.cast_add, Nat.cast_mul, digit, ih,
        byteRange_succ, Nat.cast_mul, Nat.cast_ofNat,
        emod_digit n (Int.natCast_pos.mpr (byteRange_pos width)) (by decide)]

/-- An integer that the width holds is read as it was written. -/
theorem signedOf_bigEndian {width : Nat} {n : Int} (fits : fitsWidth width n = true) :
    signedOf (bigEndian width n) = n := by
  rw [fitsWidth, decide_eq_true_eq] at fits
  have denoted := unsignedOf_bigEndian width n
  rw [signedOf, bigEndian_length]
  rcases Int.lt_or_le n 0 with negative | positive
  · have wrapped : n % byteRange width = n + byteRange width := by
      rw [← Int.add_emod_right, Int.emod_eq_of_lt (by omega) (by omega)]
    rw [wrapped] at denoted
    rw [if_neg (by omega), denoted]
    omega
  · rw [Int.emod_eq_of_lt positive (by omega)] at denoted
    rw [if_pos (by omega), denoted]

theorem unsignedOf_lt (bytes : Bytes) : unsignedOf bytes < byteRange bytes.length := by
  induction bytes with
  | nil => exact byteRange_pos 0
  | cons byte rest ih =>
      have digit : byte.toNat < 256 := byte.toNat_lt
      calc unsignedOf (byte :: rest)
          = byte.toNat * byteRange rest.length + unsignedOf rest := unsignedOf_cons byte rest
        _ < (byte.toNat + 1) * byteRange rest.length := by rw [Nat.add_one_mul]; omega
        _ ≤ 256 * byteRange rest.length := Nat.mul_le_mul_right _ digit
        _ = byteRange (byte :: rest).length := by
            rw [List.length_cons, byteRange_succ, Nat.mul_comm]

theorem unsignedOf_cons_div (byte : UInt8) (rest : Bytes) :
    unsignedOf (byte :: rest) / byteRange rest.length = byte.toNat := by
  rw [unsignedOf_cons, Nat.mul_comm, Nat.mul_add_div (byteRange_pos _), Nat.div_eq_of_lt (unsignedOf_lt rest),
    Nat.add_zero]

/-- As many bytes denote one number only if they are the same. -/
theorem unsignedOf_inj {others : Bytes} (sized : bytes.length = others.length)
    (same : unsignedOf bytes = unsignedOf others) : bytes = others := by
  induction bytes generalizing others with
  | nil => exact (List.length_eq_zero_iff.mp sized.symm).symm
  | cons byte rest ih =>
      cases others with
      | nil => cases sized
      | cons other remaining =>
          have shorter : rest.length = remaining.length := Nat.succ.inj sized
          have high : byte.toNat = other.toNat := by
            rw [← unsignedOf_cons_div byte rest, same, shorter, unsignedOf_cons_div]
          rw [unsignedOf_cons, unsignedOf_cons, high, shorter] at same
          rw [UInt8.toNat_inj.mp high, ih shorter (Nat.add_left_cancel same)]

theorem signedOf_emod (bytes : Bytes) : signedOf bytes % byteRange bytes.length = unsignedOf bytes := by
  have below := unsignedOf_lt bytes
  have whole : (unsignedOf bytes : Int) % byteRange bytes.length = unsignedOf bytes :=
    Int.emod_eq_of_lt (Int.natCast_nonneg _) (Int.ofNat_lt.mpr below)
  rw [signedOf]
  split
  · exact whole
  · rw [Int.sub_emod_right, whole]

/-- Bytes are the ones that their integer is written with. -/
theorem bigEndian_signedOf (bytes : Bytes) : bigEndian bytes.length (signedOf bytes) = bytes := by
  refine unsignedOf_inj (bigEndian_length _ _) (Int.ofNat.inj ?_)
  exact (unsignedOf_bigEndian _ _).trans (signedOf_emod bytes)

theorem fitsWidth_signedOf (bytes : Bytes) : fitsWidth bytes.length (signedOf bytes) = true := by
  have below := unsignedOf_lt bytes
  rw [fitsWidth, decide_eq_true_eq, signedOf]
  split <;> omega

theorem byteRange_eq (width : Nat) : byteRange width = 2 ^ (8 * width) := (Nat.pow_mul 2 8 width).symm

/-- What fits are the integers of as many bits, one of them for the sign. -/
theorem fitsWidth_iff (positive : 0 < width) :
    fitsWidth width n = true ↔ -2 ^ (8 * width - 1) ≤ n ∧ n < 2 ^ (8 * width - 1) := by
  have range : (byteRange width : Int) = 2 * 2 ^ (8 * width - 1) := by
    rw [byteRange_eq, ← pow_succ', Nat.cast_pow, Nat.sub_add_cancel (by omega)]
    rfl
  rw [fitsWidth, decide_eq_true_eq, range]
  omega

/-- What fits eight bytes or fewer is an integer of the values. -/
theorem toInt_ofInt_of_fitsWidth (narrow : width ≤ 8) (fits : fitsWidth width n = true) :
    (Int64.ofInt n).toInt = n := by
  have range : byteRange width ≤ 2 ^ 64 := by
    rw [byteRange_eq]
    exact Nat.pow_le_pow_right (by decide) (by omega)
  rw [fitsWidth, decide_eq_true_eq] at fits
  exact Int64.toInt_ofInt_of_le (by omega) (by omega)

theorem toList_bytes (bytes : ByteArray) : bytes.toList = bytes.data.toList := by
  have loop : ∀ i read,
      ByteArray.toList.loop bytes i read = read.reverse ++ bytes.data.toList.drop i := by
    intro i read
    induction i, read using ByteArray.toList.loop.induct bytes with
    | case1 i read inside ih =>
        have within : i < bytes.data.toList.length := by simpa using inside
        have here : bytes.get! i = bytes.data.toList[i] := getElem!_pos bytes.data i inside
        rw [ByteArray.toList.loop, if_pos inside, ih, List.drop_eq_getElem_cons within, here,
          List.reverse_cons, List.append_assoc, List.singleton_append]
    | case2 i read outside =>
        have beyond : bytes.data.toList.length ≤ i := by simpa using Nat.le_of_not_lt outside
        rw [ByteArray.toList.loop, if_neg outside, List.drop_eq_nil_of_le beyond, List.append_nil]
  rw [ByteArray.toList, loop, List.reverse_nil, List.nil_append, List.drop_zero]

theorem length_toUTF8 (s : String) : s.toUTF8.toList.length = s.utf8ByteSize := by
  rw [toList_bytes]
  rfl

/-- Bytes are read as a text exactly if they are the bytes of that text. -/
theorem fromUTF8?_eq_some {bytes : Bytes} {s : String} :
    String.fromUTF8? ⟨bytes.toArray⟩ = some s ↔ s.toUTF8.toList = bytes := by
  rw [toList_bytes, String.toUTF8_eq_toByteArray, String.fromUTF8?]
  constructor
  · intro read
    split at read
    · cases read
      rfl
    · cases read
  · rintro rfl
    rw [dif_pos s.isValidUTF8]
    rfl

end Relata
