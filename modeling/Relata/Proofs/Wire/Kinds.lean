import Relata.Proofs.Wire.Bytes

/-!
Kinds of parameters. A parameter is written as its own kind demands, whatever the server expects, and read
as the server's type demands. Where the two are of one kind, the value comes back; where they are not, the
bytes may still be those of another value.
-/

namespace Relata

/-- The kind of the values that are read at the type. -/
def WireType.kind : WireType → Kind
  | .bool => .bool
  | .int2 | .int4 | .int8 => .int
  | .text | .varchar | .other _ => .text

/-- How many bytes an integer is written with for the type. -/
def WireType.width : WireType → Nat
  | .int2 => 2
  | .int4 => 4
  | _ => 8

/-- The bytes of the value are those of another value at the type: one byte of text is a truth value, as many
as an integer has are an integer, and what an integer or a truth value is written with may spell a text. -/
def Value.Misread (type : WireType) : Value → Prop
  | .null => False
  | .bool _ => type.kind = .text
  | .int n => type.kind = .text ∧ ∃ s : String, s.toUTF8.toList = bigEndian 8 n.toInt
  | .text s =>
    (type.kind = .bool ∧ s.utf8ByteSize = 1) ∨ (type.kind = .int ∧ s.utf8ByteSize = type.width)

variable {type : WireType} {v w : Value} {bytes : Bytes}

theorem encodeInt_eq_some {width : Nat} {n : Int64} (written : encodeInt width n = .ok (some bytes)) :
    fitsWidth width n.toInt = true ∧ bytes = bigEndian width n.toInt := by
  unfold encodeInt at written
  split at written
  · rename_i fits
    cases written
    exact ⟨fits, rfl⟩
  · cases written

theorem decodeInt_bigEndian {width : Nat} {n : Int64} (fits : fitsWidth width n.toInt = true) :
    decodeInt width (bigEndian width n.toInt) = .ok (.int n) := by
  rw [decodeInt, if_pos (bigEndian_length width n.toInt), signedOf_bigEndian fits, Int64.ofInt_toInt]

namespace WireType

theorem supported_of_encode {cell : Option Bytes} (written : v.encode type = .ok cell) :
    type.isSupported = true := by
  cases type with
  | other name => cases written
  | bool | int2 | int4 | int8 | text | varchar => rfl

theorem decode_bool (kind : type.kind = .bool) :
    type.decode (some bytes) = .ok w ↔ ∃ byte, bytes = [byte] ∧ w = .bool (byte != 0) := by
  cases type with
  | bool =>
      rcases bytes with _ | ⟨byte, _ | ⟨second, rest⟩⟩
      · simp [decode, isSupported]
      · simp [decode, isSupported, eq_comm (a := w)]
      · simp [decode, isSupported]
  | int2 | int4 | int8 | text | varchar | other => cases kind

theorem decode_int (kind : type.kind = .int) :
    type.decode (some bytes) = decodeInt type.width bytes := by
  cases type with
  | int2 | int4 | int8 => rfl
  | bool | text | varchar | other => cases kind

theorem encode_int (kind : type.kind = .int) (n : Int64) :
    (Value.int n).encode type = encodeInt type.width n := by
  cases type with
  | int2 | int4 | int8 => rfl
  | bool | text | varchar | other => cases kind

theorem encode_null (supported : type.isSupported = true) : Value.null.encode type = .ok none := by
  rw [Value.encode, supported]
  rfl

theorem decode_null (supported : type.isSupported = true) : type.decode none = .ok .null := by
  rw [decode, supported]
  rfl

theorem decode_text (supported : type.isSupported = true) (kind : type.kind = .text) :
    type.decode (some bytes) = .ok w ↔ ∃ s : String, s.toUTF8.toList = bytes ∧ w = .text s := by
  have read : type.decode (some bytes) =
      (String.fromUTF8? ⟨bytes.toArray⟩).elim (.error .notText) fun s => .ok (.text s) := by
    cases type with
    | text | varchar =>
        cases read : String.fromUTF8? ⟨bytes.toArray⟩ <;> simp [decode, isSupported, read]
    | other name => cases supported
    | bool | int2 | int4 | int8 => cases kind
  rw [read]
  simp only [← fromUTF8?_eq_some]
  cases String.fromUTF8? ⟨bytes.toArray⟩ <;> simp [eq_comm]

theorem one_lt_width (type : WireType) : 1 < type.width := by
  cases type <;> simp [width]

theorem width_le (type : WireType) : type.width ≤ 8 := by
  cases type <;> simp [width]

theorem width_of_kind_ne (other : type.kind ≠ .int) : type.width = 8 := by
  cases type with
  | int2 | int4 | int8 => exact absurd rfl other
  | bool | text | varchar | other => rfl

/-- What is read at a type is of the type's kind. -/
theorem kind_of_decode (supported : type.isSupported = true)
    (read : type.decode (some bytes) = .ok w) : w.kind = type.kind := by
  cases kind : type.kind with
  | bool =>
      obtain ⟨byte, _, rfl⟩ := (decode_bool kind).mp read
      rfl
  | int =>
      rw [decode_int kind, decodeInt] at read
      split at read
      · cases read
        rfl
      · cases read
  | text =>
      obtain ⟨s, _, rfl⟩ := (decode_text supported kind).mp read
      rfl
  | null => cases type <;> cases kind

end WireType

namespace Value

/-- The kind of a value decides its bytes; the type decides only how many an integer has. -/
theorem encode_cases (written : v.encode type = .ok (some bytes)) :
    (∃ b : Bool, v = .bool b ∧ bytes = [if b then 1 else 0]) ∨
      (∃ n, v = .int n ∧ fitsWidth type.width n.toInt = true ∧
        bytes = bigEndian type.width n.toInt) ∨
      ∃ s : String, v = .text s ∧ bytes = s.toUTF8.toList := by
  have supported := WireType.supported_of_encode written
  have usable : ¬ (!type.isSupported) = true := by simp [supported]
  unfold encode at written
  rw [if_neg usable] at written
  cases v with
  | null => cases written
  | bool b =>
      cases written
      exact .inl ⟨b, rfl, rfl⟩
  | int n =>
      have sized : encodeInt type.width n = .ok (some bytes) := by
        cases type <;> exact written
      obtain ⟨fits, rfl⟩ := encodeInt_eq_some sized
      exact .inr (.inl ⟨n, rfl, fits, rfl⟩)
  | text s =>
      cases written
      exact .inr (.inr ⟨s, rfl, rfl⟩)

/-- A value of the type's kind is read as it was written. -/
theorem decode_encode (written : v.encode type = .ok (some bytes)) (kind : type.kind = v.kind) :
    type.decode (some bytes) = .ok v := by
  have supported := WireType.supported_of_encode written
  rcases encode_cases written with ⟨b, rfl, rfl⟩ | ⟨n, rfl, fits, rfl⟩ | ⟨s, rfl, rfl⟩
  · rw [WireType.decode_bool kind]
    exact ⟨_, rfl, by cases b <;> rfl⟩
  · rw [WireType.decode_int kind, decodeInt_bigEndian fits]
  · rw [WireType.decode_text supported kind]
    exact ⟨s, rfl, rfl⟩

theorem kind_ne_of_misread (misread : v.Misread type) : type.kind ≠ v.kind := by
  cases v with
  | null => cases misread
  | bool b =>
      have kind : type.kind = .text := misread
      simp [kind, Value.kind]
  | int n =>
      obtain ⟨kind, _⟩ := misread
      simp [kind, Value.kind]
  | text s =>
      rcases misread with ⟨kind, _⟩ | ⟨kind, _⟩
      · simp [kind, Value.kind]
      · simp [kind, Value.kind]

/-- At a type of another kind, the bytes are read at all only in the cases that are named. -/
theorem misread_iff (written : v.encode type = .ok (some bytes)) (other : type.kind ≠ v.kind) :
    v.Misread type ↔ ∃ w, type.decode (some bytes) = .ok w := by
  have supported := WireType.supported_of_encode written
  have wide := type.one_lt_width
  rcases encode_cases written with ⟨b, rfl, rfl⟩ | ⟨n, rfl, fits, rfl⟩ | ⟨s, rfl, rfl⟩
  · rw [Misread]
    cases kind : type.kind with
    | bool => exact absurd kind other
    | null => cases type <;> cases kind
    | int =>
        rw [WireType.decode_int kind, decodeInt, List.length_singleton, if_neg (by omega)]
        simp
    | text =>
        refine iff_of_true rfl ⟨.text (if b then "\x01" else "\x00"),
          (WireType.decode_text supported kind).mpr ⟨_, ?_, rfl⟩⟩
        rw [toList_bytes]
        cases b <;> rfl
  · rw [WireType.width_of_kind_ne other, Misread]
    cases kind : type.kind with
    | int => exact absurd kind other
    | null => cases type <;> cases kind
    | bool => simp [WireType.decode_bool kind, bigEndian]
    | text => simp [WireType.decode_text supported kind]
  · rw [Misread]
    cases kind : type.kind with
    | text => exact absurd kind other
    | null => cases type <;> cases kind
    | bool =>
        simp only [WireType.decode_bool kind, ← length_toUTF8]
        simp [List.length_eq_one_iff]
    | int =>
        rw [WireType.decode_int kind, decodeInt, length_toUTF8]
        split
        · rename_i sized
          exact iff_of_true (.inr ⟨rfl, sized⟩) ⟨_, rfl⟩
        · rename_i sized
          exact iff_of_false (by simp [sized]) (by simp)

/-- What is written for a value is refused or read as the same value, except for a value of another kind
whose bytes happen to be well-formed at the type. -/
theorem encode_kind_safe_iff (written : v.encode type = .ok (some bytes)) :
    (∀ w, type.decode (some bytes) = .ok w → w = v) ↔ ¬ v.Misread type := by
  have supported := WireType.supported_of_encode written
  constructor
  · intro safe misread
    have other := kind_ne_of_misread misread
    obtain ⟨w, read⟩ := (misread_iff written other).mp misread
    rw [safe w read] at read
    exact other (WireType.kind_of_decode supported read).symm
  · intro apart w read
    by_cases kind : type.kind = v.kind
    · rw [decode_encode written kind] at read
      exact (Except.ok.inj read).symm
    · exact absurd ((misread_iff written kind).mpr ⟨w, read⟩) apart

/-- Two letters are refused where a truth value is expected; nothing but the number of bytes protects an
integer. -/
theorem encode_kind_safe_two_letters :
    (Value.text "ab").encode .int4 = .ok (some [97, 98]) ∧
      (∀ w, WireType.int4.decode (some [97, 98]) = .ok w → w = .text "ab") ∧
      ¬ ∀ w, WireType.int2.decode (some [97, 98]) = .ok w → w = .text "ab" := by
  have bytes : "ab".toUTF8.toList = [97, 98] := by
    rw [toList_bytes]
    rfl
  have wide : (Value.text "ab").encode .int4 = .ok (some [97, 98]) := congrArg (Except.ok ∘ some) bytes
  have narrow : (Value.text "ab").encode .int2 = .ok (some [97, 98]) := congrArg (Except.ok ∘ some) bytes
  refine ⟨wide, (encode_kind_safe_iff wide).mpr ?_, ?_⟩
  · rintro (⟨kind, _⟩ | ⟨_, sized⟩)
    · cases kind
    · cases sized
  · rw [encode_kind_safe_iff narrow]
    exact not_not.mpr (.inr ⟨rfl, rfl⟩)

/-- A text is bound so that it is read as an integer. -/
theorem encode_text_read_as_int :
    (Value.text "ab").encode .int2 = .ok (some [97, 98]) ∧
      WireType.int2.decode (some [97, 98]) = .ok (.int 24930) ∧
      ∃ n : Int64, (Value.int n).encode .text = .ok (some [97, 97, 97, 97, 97, 97, 97, 97]) ∧
        WireType.text.decode (some [97, 97, 97, 97, 97, 97, 97, 97]) = .ok (.text "aaaaaaaa") := by
  refine ⟨?_, by decide +kernel, 7016996765293437281, rfl, rfl⟩
  refine congrArg (Except.ok ∘ some) ?_
  rw [toList_bytes]
  rfl

end Value

end Relata
