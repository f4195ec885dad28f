import Relata.Proofs.Outcome
import Relata.Proofs.Wire.Kinds
import Relata.Sql.Statement
import Relata.Store

/-!
Columns of a server's tables. A column is created at a type that the server knows by name, and the column's
values are bound and read at that type. Those that come back are the ones that a stored table takes in such a
column, up to integers that the server's type has no room for.
-/

namespace Relata

/-- The type that a table's definition names. -/
def WireType.named (name : String) : WireType :=
  if name = "BOOLEAN" then .bool
  else if name = "INT2" then .int2
  else if name = "INT4" then .int4
  else if name = "INT8" then .int8
  else if name = "TEXT" then .text
  else .other name

/-- What is read at the type of what is bound for a value. -/
def WireType.returned (type : WireType) (v : Value) : Except WireFault Value := do
  type.decode (← v.encode type)

/-- A column that may be null and is not numbered. -/
def Column.optional (name : String) (type : ColumnType) : Column := ⟨name, type, true, false, false⟩

namespace ColumnType

/-- The server's type of a column that is created with the type. -/
def wire (type : ColumnType) : WireType := .named type.sqlName

/-- An integer that is past the server's type: a column of one or two bytes is created with two, one of three or
four with four, and any other with the eight that every integer fits into. -/
def lacksRoom : ColumnType → Value → Bool
  | .integer width, .int n =>
    if width = 1 ∨ width = 2 then decide (n.toInt < -32768 ∨ 32767 < n.toInt)
    else if width = 3 ∨ width = 4 then decide (n.toInt < -2147483648 ∨ 2147483647 < n.toInt)
    else false
  | _, _ => false

variable {type : ColumnType} {v : Value}

theorem wire_integer (width : Nat) :
    (ColumnType.integer width).wire = .int2 ∨ (ColumnType.integer width).wire = .int4 ∨
      (ColumnType.integer width).wire = .int8 := by
  rw [wire, sqlName]
  split
  · exact .inl rfl
  · split
    · exact .inr (.inl rfl)
    · exact .inr (.inr rfl)

theorem fitsWidth_wire (width : Nat) (n : Int64) :
    fitsWidth (ColumnType.integer width).wire.width n.toInt =
      !(ColumnType.integer width).lacksRoom (.int n) := by
  have two : (byteRange 2 : Int) = 65536 := rfl
  have four : (byteRange 4 : Int) = 4294967296 := rfl
  have eight : (byteRange 8 : Int) = 18446744073709551616 := rfl
  have lower := n.le_toInt
  have upper := n.toInt_lt
  rw [Bool.eq_iff_iff, Bool.not_eq_true', wire, sqlName, lacksRoom]
  split
  · change fitsWidth 2 n.toInt = true ↔ _
    rw [fitsWidth, decide_eq_true_eq, decide_eq_false_iff_not, two]
    omega
  · split
    · change fitsWidth 4 n.toInt = true ↔ _
      rw [fitsWidth, decide_eq_true_eq, decide_eq_false_iff_not, four]
      omega
    · refine iff_of_true (show fitsWidth 8 n.toInt = true from ?_) rfl
      rw [fitsWidth, decide_eq_true_eq, eight]
      omega

theorem supported_wire (type : ColumnType) : type.wire.isSupported = true := by
  cases type with
  | boolean | text => rfl
  | integer width => rcases wire_integer width with same | same | same <;> rw [same] <;> rfl

theorem kind_wire_integer (width : Nat) : (ColumnType.integer width).wire.kind = .int := by
  rcases wire_integer width with same | same | same <;> rw [same] <;> rfl

/-- A column takes nulls and the values that are read at its type. -/
theorem accepts_iff_kind : type.accepts v = true ↔ v = .null ∨ v.kind = type.wire.kind := by
  have boolean : ColumnType.boolean.wire.kind = .bool := rfl
  have text : ColumnType.text.wire.kind = .text := rfl
  cases type <;> cases v <;> simp [accepts, Value.kind, boolean, text, kind_wire_integer]

theorem encode_integer (width : Nat) (n : Int64) :
    (Value.int n).encode (ColumnType.integer width).wire =
      encodeInt (ColumnType.integer width).wire.width n :=
  WireType.encode_int (kind_wire_integer width) n

theorem encode_null (type : ColumnType) : Value.null.encode type.wire = .ok none :=
  WireType.encode_null type.supported_wire

/-- A value that the column takes is bound, unless it has no room. -/
theorem exists_encode (taken : type.accepts v = true) (room : type.lacksRoom v = false)
    (present : v ≠ .null) : ∃ bytes, v.encode type.wire = .ok (some bytes) := by
  cases type with
  | boolean =>
      cases v with
      | bool b => exact ⟨_, rfl⟩
      | null => exact absurd rfl present
      | int | text => cases taken
  | text =>
      cases v with
      | text s => exact ⟨_, rfl⟩
      | null => exact absurd rfl present
      | int | bool => cases taken
  | integer width =>
      cases v with
      | int n =>
          have fits : fitsWidth (ColumnType.integer width).wire.width n.toInt = true := by
            rw [fitsWidth_wire, room, Bool.not_false]
          exact ⟨_, (encode_integer width n).trans (if_pos fits)⟩
      | null => exact absurd rfl present
      | bool | text => cases taken

theorem encode_of_lacksRoom (full : type.lacksRoom v = true) :
    type.accepts v = true ∧ v.encode type.wire = .error .outOfRange := by
  cases type with
  | boolean | text => cases v <;> cases full
  | integer width =>
      cases v with
      | int n =>
          refine ⟨rfl, (encode_integer width n).trans (if_neg ?_)⟩
          rw [fitsWidth_wire, full, Bool.not_true]
          exact Bool.false_ne_true
      | null | bool | text => cases full

/-- Whatever comes back as it was bound has room and is of the column's kind. -/
theorem of_returned (back : type.wire.returned v = .ok v) :
    type.accepts v = true ∧ type.lacksRoom v = false := by
  obtain ⟨cell, written, read⟩ := bind_eq_ok.mp back
  refine ⟨accepts_iff_kind.mpr ?_, ?_⟩
  · cases cell with
    | none =>
        have null : type.wire.decode none = .ok .null := by
          rw [WireType.decode, supported_wire]
          rfl
        rw [null] at read
        exact .inl (Except.ok.inj read).symm
    | some bytes => exact .inr (WireType.kind_of_decode type.supported_wire read)
  · cases full : type.lacksRoom v with
    | false => rfl
    | true =>
        rw [(encode_of_lacksRoom full).2] at written
        cases written

theorem returned_of_accepts (taken : type.accepts v = true) (room : type.lacksRoom v = false) :
    type.wire.returned v = .ok v := by
  by_cases null : v = .null
  · subst null
    rw [WireType.returned, encode_null, ok_bind, WireType.decode, supported_wire]
    rfl
  · obtain ⟨bytes, written⟩ := exists_encode taken room null
    have kind := (accepts_iff_kind.mp taken).resolve_left null
    rw [WireType.returned, written, ok_bind, Value.decode_encode written kind.symm]

/-- A row of one optional column is stored exactly if the column's type accepts its value. -/
theorem insert_optional (table : StoredTable) (ref : TableRef) (name : String) (returning : Bool) :
    ({ table with columns := [Column.optional name type] }.insert
        ⟨ref, [name], [.const v], returning⟩).1 = .ok [v] ↔ type.accepts v = true := by
  have settled : settle table.name [Column.optional name type] [v] table.nextId =
      if type.accepts v then (.ok [v], table.nextId)
      else (.error (.wrongType name type v.kind), table.nextId) := by
    have unnumbered : (Column.optional name type).number v table.nextId = some (v, table.nextId) := rfl
    have checked : (Column.optional name type).fault? table.name v =
        if type.accepts v then none else some (.wrongType name type v.kind) := by
      cases taken : type.accepts v <;> simp [Column.fault?, Column.optional, taken]
    simp only [settle, unnumbered, checked]
    cases type.accepts v <;> rfl
  have assigned : assign table.name [Column.optional name type] [(name, .const v)] [.null] =
      .ok [v] := by
    simp [assign, Column.optional]
  simp only [StoredTable.insert, List.zip_cons_cons, List.zip_nil_right, List.map_cons, List.map_nil,
    assigned, settled]
  cases type.accepts v <;> simp

/-- A stored table takes a value in a column exactly if the column's type accepts it. A server returns it from
a column created at the same type exactly if, besides, the server's type has room for it; an integer without
room is stored but cannot be bound. -/
theorem returned_iff_accepts (type : ColumnType) (v : Value) :
    (∀ (table : StoredTable) (ref : TableRef) (name : String) (returning : Bool),
      ({ table with columns := [Column.optional name type] }.insert
        ⟨ref, [name], [.const v], returning⟩).1 = .ok [v] ↔ type.accepts v = true) ∧
      (type.wire.returned v = .ok v ↔ type.accepts v = true ∧ type.lacksRoom v = false) ∧
      (type.lacksRoom v = true ↔
        type.accepts v = true ∧ v.encode type.wire = .error .outOfRange) := by
  refine ⟨insert_optional, ⟨of_returned, fun ⟨taken, room⟩ => returned_of_accepts taken room⟩,
    encode_of_lacksRoom, fun ⟨taken, refused⟩ => ?_⟩
  cases room : type.lacksRoom v with
  | true => rfl
  | false =>
      have back := returned_of_accepts taken room
      rw [WireType.returned, refused] at back
      cases back

/-- A column of two bytes takes an integer that two bytes cannot hold. -/
theorem stored_without_room :
    ((⟨"notes", [Column.optional "rank" (.integer 2)], [], 1⟩ : StoredTable).insert
        ⟨.table "notes" none, ["rank"], [.const (.int 100000)], true⟩).1 = .ok [.int 100000] ∧
      (ColumnType.integer 2).accepts (.int 100000) = true ∧
      (ColumnType.integer 2).wire.returned (.int 100000) = .error .outOfRange :=
  ⟨rfl, rfl, by decide +kernel⟩

end ColumnType

end Relata
