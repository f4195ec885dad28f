import Mathlib.Data.List.Basic
import Relata.Expr
import Relata.Sql.Text

/-!
Words of written conditions. Text is read one character at a time: names stand in double quotes and
texts in single ones, a doubled quote standing for one; other words end at a blank or at punctuation.
A parameter stands for the value that is bound to it.
-/

namespace Relata

inductive Token
  | name (s : String)
  | const (v : Value)
  | point
  | comma
  | opening
  | closing
  | comparison (op : Comparison)
  | and
  | or
  | not
  | is
  | among

namespace Token

def punctuation? : Char → Option Token
  | '.' => some .point
  | ',' => some .comma
  | '(' => some .opening
  | ')' => some .closing
  | _ => none

def keyword? : List Char → Option Token
  | ['N', 'U', 'L', 'L'] => some (.const .null)
  | ['T', 'R', 'U', 'E'] => some (.const (.bool true))
  | ['F', 'A', 'L', 'S', 'E'] => some (.const (.bool false))
  | ['A', 'N', 'D'] => some .and
  | ['O', 'R'] => some .or
  | ['N', 'O', 'T'] => some .not
  | ['I', 'S'] => some .is
  | ['I', 'N'] => some .among
  | ['='] => some (.comparison .eq)
  | ['<', '>'] => some (.comparison .ne)
  | ['>', '='] => some (.comparison .ge)
  | ['>'] => some (.comparison .gt)
  | ['<', '='] => some (.comparison .le)
  | ['<'] => some (.comparison .lt)
  | _ => none

/-- The number that decimal digits stand for. -/
def natural? (digits : List Char) : Option Nat :=
  if digits ≠ [] ∧ digits.all Char.isDigit then some (Nat.ofDigitChars 10 digits 0) else none

/-- The number as a value, if a value can hold it. -/
def integer? (n : Int) : Option Value :=
  if (Int64.ofInt n).toInt = n then some (.int (Int64.ofInt n)) else none

/-- The value of a parameter or of a number. Parameters count from one. -/
def constant? (bound : List Value) : List Char → Option Value
  | '$' :: digits =>
    match natural? digits with
    | some (n + 1) => bound[n]?
    | _ => none
  | '-' :: digits => (natural? digits).bind fun n => integer? (-n)
  | digits => (natural? digits).bind fun n => integer? n

def word? (bound : List Value) (word : List Char) : Option Token :=
  match constant? bound word with
  | some v => some (.const v)
  | none => keyword? word

def quoted (quote : Char) (read : List Char) : Token :=
  if quote = '"' then .name (String.ofList read) else .const (.text (String.ofList read))

end Token

/-- What has been read of the word at hand. -/
inductive Scan
  | blank
  | word (read : List Char)
  | quoted (quote : Char) (read : List Char)
  /-- A quote has been read inside quotes: the last one, unless another follows. -/
  | closing (quote : Char) (read : List Char)

namespace Scan

def isPlain (c : Char) : Bool :=
  c != ' ' && c != '"' && c != '\'' && (Token.punctuation? c).isNone

/-- A character where no word is at hand: the token that it is by itself, and what it begins. -/
def start (c : Char) : List Token × Scan :=
  if c = ' ' then ([], .blank)
  else if c = '"' ∨ c = '\'' then ([], .quoted c [])
  else match Token.punctuation? c with
    | some token => ([token], .blank)
    | none => ([], .word [c])

def step (bound : List Value) : Scan → Char → Option (List Token × Scan)
  | .blank, c => some (start c)
  | .word read, c =>
    if isPlain c then some ([], .word (read ++ [c]))
    else do return ((← Token.word? bound read) :: (start c).1, (start c).2)
  | .quoted quote read, c =>
    if c = quote then some ([], .closing quote read) else some ([], .quoted quote (read ++ [c]))
  | .closing quote read, c =>
    if c = quote then some ([], .quoted quote (read ++ [c]))
    else some (Token.quoted quote read :: (start c).1, (start c).2)

def finish (bound : List Value) : Scan → Option (List Token)
  | .blank => some []
  | .word read => do return [← Token.word? bound read]
  | .quoted _ _ => none
  | .closing quote read => some [Token.quoted quote read]

end Scan

/-- The tokens of a text, from what has been read already. -/
def scan (bound : List Value) : Scan → List Char → Option (List Token)
  | read, [] => read.finish bound
  | read, c :: rest =>
    match read.step bound c with
    | some (tokens, next) => (scan bound next rest).map (tokens ++ ·)
    | none => none

/-- The rest of a text after a condition: nothing, or a blank, a bracket or a comma. -/
def Ends (rest : List Char) : Prop := ∀ c ∈ rest.head?, c = ' ' ∨ c = ')' ∨ c = ','

variable {bound : List Value} {word read rest s : List Char} {token : Token} {quote : Char}

theorem Ends.not_plain (ends : Ends rest) : ∀ c ∈ rest.head?, Scan.isPlain c = false := by
  intro c first
  rcases ends c first with rfl | rfl | rfl <;> rfl

theorem scan_step {state next : Scan} {c : Char} {tokens : List Token}
    (steps : state.step bound c = some (tokens, next)) :
    scan bound state (c :: rest) = (scan bound next rest).map (tokens ++ ·) := by
  rw [scan, steps]

theorem scan_silent {state next : Scan} {c : Char} (steps : state.step bound c = some ([], next)) :
    scan bound state (c :: rest) = scan bound next rest := by
  rw [scan_step steps]
  exact Option.map_id'

/-- A token that a character completes stands in front of what the character itself begins. -/
theorem scan_completed {state : Scan} {c : Char}
    (steps : state.step bound c = some (token :: (Scan.start c).1, (Scan.start c).2)) :
    scan bound state (c :: rest) = (scan bound .blank (c :: rest)).map (token :: ·) := by
  have blank : Scan.step bound .blank c = some ((Scan.start c).1, (Scan.start c).2) := rfl
  rw [scan_step steps, scan_step blank, Option.map_map]
  rfl

theorem scan_word (plain : ∀ c ∈ word, Scan.isPlain c = true)
    (stops : ∀ c ∈ rest.head?, Scan.isPlain c = false)
    (reads : Token.word? bound (read ++ word) = some token) :
    scan bound (.word read) (word ++ rest) = (scan bound .blank rest).map (token :: ·) := by
  induction word generalizing read with
  | nil =>
      rw [List.append_nil] at reads
      -- The word ends with the text or at a character that no word holds.
      cases rest with
      | nil =>
          rw [List.append_nil, scan, scan, Scan.finish, Scan.finish, reads]
          rfl
      | cons c rest =>
          refine scan_completed ?_
          rw [Scan.step, stops c rfl, reads]
          rfl
  | cons c word ih =>
      have later : Token.word? bound (read ++ [c] ++ word) = some token := by
        rw [List.append_assoc]
        exact reads
      have steps : Scan.step bound (.word read) c = some ([], .word (read ++ [c])) := by
        rw [Scan.step, plain c List.mem_cons_self, if_pos rfl]
      rw [List.cons_append, scan_silent steps,
        ih (fun other member => plain other (List.mem_cons_of_mem _ member)) later]

/-- What is quoted ends at a quote that no other follows. -/
theorem scan_quoted (stops : ∀ c ∈ rest.head?, c ≠ quote) :
    scan bound (.quoted quote read) (Sql.double quote s ++ quote :: rest) =
      (scan bound .blank rest).map (Token.quoted quote (read ++ s) :: ·) := by
  induction s generalizing read with
  | nil =>
      have steps : Scan.step bound (.quoted quote read) quote = some ([], .closing quote read) :=
        if_pos rfl
      rw [Sql.double, List.nil_append, scan_silent steps, List.append_nil]
      cases rest with
      | nil => rfl
      | cons c rest =>
          refine scan_completed ?_
          rw [Scan.step, if_neg (stops c rfl)]
  | cons c s ih =>
      have later := @ih (read ++ [c])
      rw [List.append_assoc, List.singleton_append] at later
      by_cases doubled : c = quote
      · -- The first of two quotes looks like the last one until the second is read.
        subst doubled
        have opens : Scan.step bound (.quoted c read) c = some ([], .closing c read) := if_pos rfl
        have stays : Scan.step bound (.closing c read) c = some ([], .quoted c (read ++ [c])) :=
          if_pos rfl
        rw [Sql.double, if_pos rfl, List.cons_append, List.cons_append, scan_silent opens,
          scan_silent stays, later]
      · have steps : Scan.step bound (.quoted quote read) c =
            some ([], .quoted quote (read ++ [c])) := if_neg doubled
        rw [Sql.double, if_neg doubled, List.cons_append, scan_silent steps, later]

theorem scan_blank_word (plain : ∀ c ∈ word, Scan.isPlain c = true) (nonempty : word ≠ [])
    (stops : ∀ c ∈ rest.head?, Scan.isPlain c = false)
    (reads : Token.word? bound word = some token) :
    scan bound .blank (word ++ rest) = (scan bound .blank rest).map (token :: ·) := by
  cases word with
  | nil => exact absurd rfl nonempty
  | cons c word =>
      have first := plain c List.mem_cons_self
      simp only [Scan.isPlain, Bool.and_eq_true, bne_iff_ne, ne_eq, Option.isNone_iff_eq_none] at first
      obtain ⟨⟨⟨blank, double⟩, single⟩, ordinary⟩ := first
      have begins : Scan.step bound .blank c = some ([], .word [c]) := by
        rw [Scan.step, Scan.start, if_neg blank, if_neg (not_or.mpr ⟨double, single⟩), ordinary]
      rw [List.cons_append, scan_silent begins]
      exact scan_word (fun other member => plain other (List.mem_cons_of_mem _ member)) stops reads

section Numbers

theorem isPlain_of_isDigit {c : Char} (digit : c.isDigit = true) : Scan.isPlain c = true := by
  have other : ∀ special : Char, special.isDigit = false → c ≠ special := by
    intro special none same
    rw [same, none] at digit
    cases digit
  have ordinary : Token.punctuation? c = none := by
    unfold Token.punctuation?
    split
    · exact absurd rfl (other '.' rfl)
    · exact absurd rfl (other ',' rfl)
    · exact absurd rfl (other '(' rfl)
    · exact absurd rfl (other ')' rfl)
    · rfl
  simp [Scan.isPlain, other ' ' rfl, other '"' rfl, other '\'' rfl, ordinary]

theorem isDigit_toDigits (n : Nat) : ∀ c ∈ Nat.toDigits 10 n, c.isDigit = true :=
  fun _ member => Nat.isDigit_of_mem_toDigits (by decide) (by decide) member

theorem isPlain_toDigits (n : Nat) : ∀ c ∈ Nat.toDigits 10 n, Scan.isPlain c = true :=
  fun c member => isPlain_of_isDigit (isDigit_toDigits n c member)

theorem natural?_toDigits (n : Nat) : Token.natural? (Nat.toDigits 10 n) = some n := by
  rw [Token.natural?, if_pos ⟨Nat.toDigits_ne_nil, List.all_eq_true.mpr (isDigit_toDigits n)⟩,
    Nat.ofDigitChars_ten_toDigits]

theorem integer?_toInt (n : Int64) : Token.integer? n.toInt = some (.int n) := by
  rw [Token.integer?, Int64.ofInt_toInt, if_pos rfl]

theorem constant?_digits {digits : List Char} (each : ∀ c ∈ digits, c.isDigit = true) :
    Token.constant? bound digits = (Token.natural? digits).bind fun n => Token.integer? n := by
  unfold Token.constant?
  split
  · exact absurd (each '$' List.mem_cons_self) (by decide)
  · exact absurd (each '-' List.mem_cons_self) (by decide)
  · rfl

/-- The decimal digits of a number, after a sign if it is negative. -/
theorem toList_literal (n : Int64) :
    ∃ m : Nat, (n.toInt = m ∧ (Sql.literal (.int n)).toList = Nat.toDigits 10 m) ∨
      (n.toInt = -m ∧ (Sql.literal (.int n)).toList = '-' :: Nat.toDigits 10 m) := by
  rw [Sql.literal]
  cases n.toInt with
  | ofNat m =>
      refine ⟨m, .inl ⟨rfl, ?_⟩⟩
      have written : toString (Int.ofNat m) = String.ofList (Nat.toDigits 10 m) :=
        Nat.repr_eq_ofList_toDigits
      rw [written, String.toList_ofList]
  | negSucc m =>
      refine ⟨m + 1, .inr ⟨rfl, ?_⟩⟩
      have written : toString (Int.negSucc m) = "-" ++ String.ofList (Nat.toDigits 10 (m + 1)) :=
        congrArg ("-" ++ ·) Nat.repr_eq_ofList_toDigits
      simp only [written, String.toList_append, String.toList_ofList]
      rfl

theorem word?_literal (n : Int64) :
    Token.word? bound (Sql.literal (.int n)).toList = some (.const (.int n)) := by
  have constant : Token.constant? bound (Sql.literal (.int n)).toList = some (.int n) := by
    obtain ⟨m, ⟨value, written⟩ | ⟨value, written⟩⟩ := toList_literal n
    · rw [written, constant?_digits (isDigit_toDigits m), natural?_toDigits, Option.bind_some,
        ← value, integer?_toInt]
    · rw [written, Token.constant?, natural?_toDigits, Option.bind_some, ← value, integer?_toInt]
  rw [Token.word?, constant]

theorem toList_parameter (n : Nat) : (Sql.parameter n).toList = '$' :: Nat.toDigits 10 n := by
  simp only [Sql.parameter, String.toList_append, Nat.toString_eq_ofList_toDigits,
    String.toList_ofList]
  rfl

theorem word?_parameter {n : Nat} {v : Value} (held : bound[n]? = some v) :
    Token.word? bound (Sql.parameter (n + 1)).toList = some (.const v) := by
  have constant : Token.constant? bound (Sql.parameter (n + 1)).toList = some v := by
    rw [toList_parameter, Token.constant?, natural?_toDigits]
    exact held
  rw [Token.word?, constant]

end Numbers

/-- Up to an end, the characters are these tokens, however the text goes on. -/
def Scans (bound : List Value) (chars : List Char) (tokens : List Token) : Prop :=
  ∀ rest, Ends rest →
    scan bound .blank (chars ++ rest) = (scan bound .blank rest).map (tokens ++ ·)

theorem scans_int (n : Int64) :
    Scans bound (Sql.literal (.int n)).toList [.const (.int n)] := by
  intro rest ends
  refine scan_blank_word ?_ ?_ ends.not_plain (word?_literal n)
  · obtain ⟨m, ⟨_, written⟩ | ⟨_, written⟩⟩ := toList_literal n
    · rw [written]
      exact isPlain_toDigits m
    · rw [written]
      exact List.forall_mem_cons.mpr ⟨rfl, isPlain_toDigits m⟩
  · obtain ⟨m, ⟨_, written⟩ | ⟨_, written⟩⟩ := toList_literal n
    · rw [written]
      exact Nat.toDigits_ne_nil
    · rw [written]
      exact List.cons_ne_nil _ _

theorem scans_parameter {n : Nat} {v : Value} (held : bound[n]? = some v) :
    Scans bound (Sql.parameter (n + 1)).toList [.const v] := by
  intro rest ends
  refine scan_blank_word ?_ ?_ ends.not_plain (word?_parameter held)
  · rw [toList_parameter]
    exact List.forall_mem_cons.mpr ⟨rfl, isPlain_toDigits (n + 1)⟩
  · rw [toList_parameter]
    exact List.cons_ne_nil _ _

theorem scan_enquote (quotes : quote = '"' ∨ quote = '\'') (stops : ∀ c ∈ rest.head?, c ≠ quote)
    (s : String) :
    scan bound .blank ((Sql.enquote quote s).toList ++ rest) =
      (scan bound .blank rest).map (Token.quoted quote s.toList :: ·) := by
  have begins : Scan.step bound .blank quote = some ([], .quoted quote []) := by
    rcases quotes with rfl | rfl <;> rfl
  rw [Sql.enquote, String.toList_ofList, List.cons_append, List.cons_append, List.append_assoc,
    List.singleton_append, scan_silent begins, scan_quoted stops, List.nil_append]

theorem scan_name (stops : ∀ c ∈ rest.head?, c ≠ '"') (s : String) :
    scan bound .blank ((Sql.name s).toList ++ rest) =
      (scan bound .blank rest).map (.name s :: ·) := by
  have token : Token.quoted '"' s.toList = .name s := by
    rw [Token.quoted, if_pos rfl, String.ofList_toList]
  rw [Sql.name, scan_enquote (.inl rfl) stops, token]

theorem scans_text (s : String) : Scans bound (Sql.literal (.text s)).toList [.const (.text s)] := by
  intro rest ends
  have token : Token.quoted '\'' s.toList = .const (.text s) := by
    rw [Token.quoted, if_neg (by decide), String.ofList_toList]
  have stops : ∀ c ∈ rest.head?, c ≠ '\'' := by
    intro c first
    rcases ends c first with rfl | rfl | rfl <;> decide
  rw [Sql.literal, scan_enquote (.inr rfl) stops, token]
  rfl

theorem scans_literal (c : Constant) : Scans bound (Sql.literal c).toList [.const c.value] := by
  cases c with
  | int n => exact scans_int n
  | text s => exact scans_text s

/-- The characters of a written condition, with something in each hole that stands for its constant. -/
inductive Sql.Spells (bound : List Value) : Sql → List Char → Prop
  | nil : Spells bound [] []
  | text (s : String) {rest : Sql} {chars : List Char} (later : Spells bound rest chars) :
    Spells bound (.text s :: rest) (s.toList ++ chars)
  | hole {c : Constant} {rest : Sql} {written chars : List Char}
    (stands : Scans bound written [.const c.value]) (later : Spells bound rest chars) :
    Spells bound (.hole c :: rest) (written ++ chars)

namespace Sql

theorem Spells.append {left right : Sql} {chars : List Char}
    (spells : (left ++ right).Spells bound chars) :
    ∃ first second, chars = first ++ second ∧ left.Spells bound first ∧
      right.Spells bound second := by
  induction left generalizing chars with
  | nil => exact ⟨[], chars, rfl, .nil, spells⟩
  | cons piece rest ih =>
      cases spells with
      | text s later =>
          obtain ⟨first, second, rfl, before, after⟩ := ih later
          exact ⟨_, second, (List.append_assoc _ _ _).symm, .text s before, after⟩
      | hole stands later =>
          obtain ⟨first, second, rfl, before, after⟩ := ih later
          exact ⟨_, second, (List.append_assoc _ _ _).symm, .hole stands before, after⟩

theorem Spells.of_text {s : String} {chars : List Char} (spells : (Sql.text s).Spells bound chars) :
    chars = s.toList := by
  cases spells with
  | text s later =>
      cases later
      exact List.append_nil _

theorem spells_inline (sql : Sql) : sql.Spells bound sql.inline.toList := by
  induction sql with
  | nil => exact .nil
  | cons piece rest ih =>
      cases piece with
      | text s =>
          rw [inline, String.toList_append]
          exact .text s ih
      | hole c =>
          rw [inline, String.toList_append]
          exact .hole (scans_literal c) ih

/-- Parameters stand for the constants that are bound after those before them. -/
theorem spells_numbered (sql : Sql) {before : List Value}
    (held : bound = before ++ sql.constants.map Constant.value) :
    sql.Spells bound (sql.numbered before.length).toList := by
  induction sql generalizing before with
  | nil => exact .nil
  | cons piece rest ih =>
      cases piece with
      | text s =>
          rw [numbered, String.toList_append]
          exact .text s (ih held)
      | hole c =>
          have later : bound = (before ++ [c.value]) ++ (constants rest).map Constant.value := by
            rw [held, List.append_assoc]
            rfl
          have after := ih later
          rw [List.length_append] at after
          rw [numbered, String.toList_append]
          refine .hole (scans_parameter ?_) after
          rw [later]
          simp

end Sql

end Relata
