import Relata.Proofs.Sql.Scanner
import Relata.Sql.Expr

/-!
Tokens of written text. What a hole is filled with stands for a constant and ends where the text goes on,
so the tokens of the text do not depend on how its holes are filled.
-/

namespace Relata

variable {bound : List Value} {tokens more : List Token} {sql left right : Sql} {s : String}

/-- However its holes are filled, the text is these tokens up to an end. -/
def Tells (bound : List Value) (sql : Sql) (tokens : List Token) : Prop :=
  ∀ chars, sql.Spells bound chars → Scans bound chars tokens

/-- The text is these tokens whatever follows it. -/
def Separates (s : String) (tokens : List Token) : Prop :=
  ∀ bound rest, scan bound .blank (s.toList ++ rest) =
    (scan bound .blank rest).map (tokens ++ ·)

/-- A condition before the text ends where the text begins. -/
def Starts (s : String) : Prop := ∀ rest, Ends (s.toList ++ rest)

theorem tells_nil : Tells bound [] [] := by
  intro chars spells rest ends
  cases spells
  exact Option.map_id'.symm

theorem Separates.cons (separates : Separates s tokens) (tells : Tells bound sql more) :
    Tells bound (.text s :: sql) (tokens ++ more) := by
  intro chars spells rest ends
  cases spells with
  | text s later =>
      rw [List.append_assoc, separates, tells _ later rest ends, Option.map_map]
      simp only [Function.comp_def, List.append_assoc]

theorem Tells.between (before : Tells bound left tokens) (starts : Starts s)
    (after : Tells bound (.text s :: right) more) :
    Tells bound (left ++ .text s :: right) (tokens ++ more) := by
  intro chars spells rest ends
  obtain ⟨first, second, rfl, spelled, continued⟩ := spells.append
  have stops : Ends (second ++ rest) := by
    cases continued with
    | text s later =>
        rw [List.append_assoc]
        exact starts _
  rw [List.append_assoc, before _ spelled _ stops, after _ continued rest ends, Option.map_map]
  simp only [Function.comp_def, List.append_assoc]

theorem Tells.of_text (scans : Scans bound s.toList tokens) : Tells bound (Sql.text s) tokens :=
  fun _ spells => spells.of_text ▸ scans

theorem scan_space (rest : List Char) :
    scan bound .blank (' ' :: rest) = scan bound .blank rest := scan_silent rfl

/-- The word is the token by itself. -/
structure Token.Written (token : Token) (word : List Char) : Prop where
  plain : word.all Scan.isPlain = true
  nonempty : word ≠ []
  reads : ∀ bound, Token.word? bound word = some token

theorem Token.Written.scan_space {token : Token} {word : List Char} (written : token.Written word)
    (rest : List Char) :
    scan bound .blank (word ++ ' ' :: rest) = (scan bound .blank rest).map (token :: ·) := by
  have stops : ∀ c ∈ (' ' :: rest).head?, Scan.isPlain c = false := by
    rintro c ⟨⟩
    rfl
  rw [scan_blank_word (List.all_eq_true.mp written.plain) written.nonempty stops (written.reads bound),
    Relata.scan_space]

theorem Token.Written.scans {token : Token} {word : List Char} (written : token.Written word) :
    Scans bound word [token] := fun _ ends =>
  scan_blank_word (List.all_eq_true.mp written.plain) written.nonempty ends.not_plain (written.reads bound)

theorem Token.Written.separates {token : Token} {word : List Char} (written : token.Written word)
    (spaced : s.toList = ' ' :: (word ++ [' '])) : Separates s [token] := by
  intro bound rest
  rw [spaced, List.cons_append, List.append_assoc, List.singleton_append, Relata.scan_space,
    written.scan_space]
  rfl

theorem starts_of_space {rest : List Char} (spaced : s.toList = ' ' :: rest) : Starts s := by
  intro later c first
  rw [spaced] at first
  cases first
  exact .inl rfl

theorem starts_closing : Starts ")" := by
  rintro rest c ⟨⟩
  exact .inr (.inl rfl)

theorem starts_comma : Starts ", " := by
  rintro rest c ⟨⟩
  exact .inr (.inr rfl)

theorem written_and : Token.Written .and ['A', 'N', 'D'] := ⟨rfl, by decide, fun _ => rfl⟩

theorem written_or : Token.Written .or ['O', 'R'] := ⟨rfl, by decide, fun _ => rfl⟩

theorem written_not : Token.Written .not ['N', 'O', 'T'] := ⟨rfl, by decide, fun _ => rfl⟩

theorem written_is : Token.Written .is ['I', 'S'] := ⟨rfl, by decide, fun _ => rfl⟩

theorem written_among : Token.Written .among ['I', 'N'] := ⟨rfl, by decide, fun _ => rfl⟩

theorem written_null : Token.Written (.const .null) ['N', 'U', 'L', 'L'] :=
  ⟨rfl, by decide, fun _ => rfl⟩

theorem written_true : Token.Written (.const (.bool true)) ['T', 'R', 'U', 'E'] :=
  ⟨rfl, by decide, fun _ => rfl⟩

theorem written_false : Token.Written (.const (.bool false)) ['F', 'A', 'L', 'S', 'E'] :=
  ⟨rfl, by decide, fun _ => rfl⟩

theorem written_comparison (op : Comparison) : Token.Written (.comparison op) op.symbol.toList := by
  cases op <;> exact ⟨rfl, by decide, fun _ => rfl⟩

theorem separates_opening : Separates "(" [.opening] := fun _ _ => scan_step rfl

theorem separates_closing : Separates ")" [.closing] := fun _ _ => scan_step rfl

theorem separates_comma : Separates ", " [.comma] := fun bound rest => by
  have comma : ", ".toList ++ rest = ',' :: ' ' :: rest := rfl
  have steps : Scan.step bound .blank ',' = some ([.comma], .blank) := rfl
  rw [comma, scan_step steps, scan_space]

theorem separates_not : Separates "NOT " [.not] := fun bound rest => by
  have spelled : "NOT ".toList ++ rest = ['N', 'O', 'T'] ++ ' ' :: rest := rfl
  rw [spelled, written_not.scan_space]
  rfl

theorem separates_among : Separates " IN (" [.among, .opening] := fun bound rest => by
  have spelled : " IN (".toList ++ rest = ' ' :: (['I', 'N'] ++ ' ' :: '(' :: rest) := rfl
  have steps : Scan.step bound .blank '(' = some ([.opening], .blank) := rfl
  rw [spelled, scan_space, written_among.scan_space, scan_step steps, Option.map_map]
  rfl

theorem separates_comparison (op : Comparison) :
    Separates (" " ++ op.symbol ++ " ") [.comparison op] := by
  refine (written_comparison op).separates ?_
  simp only [String.toList_append]
  rfl

theorem scans_isNull : Scans bound " IS NULL".toList [.is, .const .null] := by
  intro rest ends
  have spelled : " IS NULL".toList ++ rest = ' ' :: (['I', 'S'] ++ ' ' :: (['N', 'U', 'L', 'L'] ++ rest)) :=
    rfl
  rw [spelled, scan_space, written_is.scan_space, written_null.scans rest ends, Option.map_map]
  rfl

theorem scans_isNotNull : Scans bound " IS NOT NULL".toList [.is, .not, .const .null] := by
  intro rest ends
  have spelled : " IS NOT NULL".toList ++ rest =
      ' ' :: (['I', 'S'] ++ ' ' :: (['N', 'O', 'T'] ++ ' ' :: (['N', 'U', 'L', 'L'] ++ rest))) := rfl
  rw [spelled, scan_space, written_is.scan_space, written_not.scan_space,
    written_null.scans rest ends, Option.map_map, Option.map_map]
  rfl

theorem tells_column (c : ColumnRef) :
    Tells bound c.sql [.name c.table.qualifier, .point, .name c.column] := by
  refine .of_text fun rest ends => ?_
  have point : ∀ rest, scan bound .blank ('.' :: rest) = (scan bound .blank rest).map ([.point] ++ ·) :=
    fun rest => scan_step rfl
  have stops : ∀ c ∈ rest.head?, c ≠ '"' := by
    intro c first
    rcases ends c first with rfl | rfl | rfl <;> decide
  have dotted : (".".toList ++ (Sql.name c.column).toList) ++ rest =
      '.' :: ((Sql.name c.column).toList ++ rest) := rfl
  rw [String.toList_append, String.toList_append, List.append_assoc, List.append_assoc,
    ← List.append_assoc ".".toList, dotted, scan_name (by rintro _ ⟨⟩; decide), point,
    scan_name stops, Option.map_map, Option.map_map]
  rfl

theorem tells_value (v : Value) : Tells bound (Sql.value v) [.const v] := by
  cases v with
  | null => exact .of_text written_null.scans
  | bool b =>
      cases b with
      | true => exact .of_text written_true.scans
      | false => exact .of_text written_false.scans
  | int n =>
      intro chars spells
      cases spells with
      | hole stands later =>
          cases later
          rwa [List.append_nil]
  | text s =>
      intro chars spells
      cases spells with
      | hole stands later =>
          cases later
          rwa [List.append_nil]

theorem tells_join {token : Token} (separates : Separates s [token]) (starts : Starts s)
    {parts : List Sql} {each : List (List Token)} (told : List.Forall₂ (Tells bound) parts each)
    (nonempty : parts ≠ []) : Tells bound (Sql.join s parts) ([token].intercalate each) := by
  induction told with
  | nil => exact absurd rfl nonempty
  | cons first rest ih =>
      cases rest with
      | nil =>
          rw [List.intercalate_singleton]
          exact first
      | cons second rest =>
          rw [List.intercalate_cons_cons, List.append_assoc]
          exact first.between starts (separates.cons (ih (List.cons_ne_nil _ _)))

end Relata
