import Mathlib.Data.List.TakeWhile
import Relata.Sql.Text

/-!
Identifiers as servers read them. A quoted identifier is the name between its quotes; an unquoted one goes as
far as its characters do and is read in small letters. A name in quotes is therefore read as itself, and a name
without quotes only if it is an identifier already and has no capitals.
-/

namespace Relata

/-- The letters of unquoted identifiers and their small forms. Servers differ in both, but not for ASCII. -/
structure Alphabet where
  isLetter : Char → Bool
  small : Char → Char
  isLetter_ascii : ∀ c : Char, c.toNat < 128 → isLetter c = c.isAlpha
  small_ascii : ∀ c : Char, c.toNat < 128 → small c = c.toLower

/-- What stands before the closing quote of a text whose opening quote has been read. A doubled quote stands
for one. -/
def unquote? : List Char → Option (List Char)
  | [] => none
  | '"' :: '"' :: rest => (unquote? rest).map ('"' :: ·)
  | '"' :: _ => some []
  | c :: rest => (unquote? rest).map (c :: ·)

namespace Alphabet

/-- The letters of ASCII alone. -/
def ascii : Alphabet := ⟨Char.isAlpha, Char.toLower, fun _ _ => rfl, fun _ _ => rfl⟩

variable (alphabet : Alphabet)

def begins (c : Char) : Bool := alphabet.isLetter c || c == '_'

def continues (c : Char) : Bool := alphabet.begins c || c.isDigit || c == '$'

def identifierOf : List Char → Option (List Char)
  | [] => none
  | c :: rest =>
    if c = '"' then unquote? rest
    else if alphabet.begins c then some (((c :: rest).takeWhile alphabet.continues).map alphabet.small)
    else none

/-- The name of the identifier that a text begins with. -/
def identifier? (text : String) : Option String :=
  (alphabet.identifierOf text.toList).map String.ofList

def isPlainWord : List Char → Bool
  | [] => false
  | c :: rest =>
    alphabet.begins c && (c :: rest).all fun c => alphabet.continues c && alphabet.small c == c

/-- The name is an identifier without quotes and in small letters. -/
def isPlain (name : String) : Bool := alphabet.isPlainWord name.toList

end Alphabet

variable {alphabet : Alphabet} {c : Char} {s rest text : List Char}

theorem takeWhile_append_stopped {p : Char → Bool} (stops : ∀ c ∈ rest.head?, ¬ p c = true) :
    (s ++ rest).takeWhile p = s.takeWhile p := by
  have nothing : rest.takeWhile p = [] := by
    cases rest with
    | nil => rfl
    | cons c rest => rw [List.takeWhile_cons, if_neg (stops c rfl)]
  rw [List.takeWhile_append, nothing, List.append_nil]
  split
  · rename_i all
    exact ((List.takeWhile_prefix p).eq_of_length all).symm
  · rfl

section Quoted

theorem unquote?_cons (other : c ≠ '"') (text : List Char) :
    unquote? (c :: text) = (unquote? text).map (c :: ·) := by
  rw [unquote?]
  · exact fun _ same _ => other same
  · exact other

theorem unquote?_closed (stops : ∀ c ∈ rest.head?, c ≠ '"') : unquote? ('"' :: rest) = some [] := by
  rw [unquote?]
  rintro later rfl
  exact stops '"' rfl rfl

/-- A name is read from between its quotes as it is. -/
theorem unquote?_double (stops : ∀ c ∈ rest.head?, c ≠ '"') (s : List Char) :
    unquote? (Sql.double '"' s ++ '"' :: rest) = some s := by
  induction s with
  | nil => exact unquote?_closed stops
  | cons c s ih =>
      by_cases doubled : c = '"'
      · subst doubled
        rw [Sql.double, if_pos rfl, List.cons_append, List.cons_append, unquote?, ih, Option.map_some]
      · rw [Sql.double, if_neg doubled, List.cons_append, unquote?_cons doubled, ih, Option.map_some]

/-- Whatever is read from between quotes stands there with its quotes doubled. -/
theorem eq_double_of_unquote? (read : unquote? text = some s) :
    ∃ rest, text = Sql.double '"' s ++ '"' :: rest := by
  induction text using unquote?.induct generalizing s with
  | case1 => cases read
  | case2 rest ih =>
      rw [unquote?] at read
      obtain ⟨name, inside, rfl⟩ := Option.map_eq_some_iff.mp read
      obtain ⟨later, rfl⟩ := ih inside
      exact ⟨later, by rw [Sql.double, if_pos rfl]; rfl⟩
  | case3 rest single =>
      rw [unquote?] at read
      · cases read
        exact ⟨rest, rfl⟩
      · exact single
  | case4 c rest single other ih =>
      rw [unquote?_cons other] at read
      obtain ⟨name, inside, rfl⟩ := Option.map_eq_some_iff.mp read
      obtain ⟨later, rfl⟩ := ih inside
      exact ⟨later, by rw [Sql.double, if_neg other]; rfl⟩

/-- As many quotes as a name begins with, its text between quotes begins with twice. -/
theorem leading_double (s more : List Char) :
    2 * (s.takeWhile (· == '"')).length ≤
      ((Sql.double '"' s ++ more).takeWhile (· == '"')).length := by
  induction s with
  | nil => simp
  | cons c s ih =>
      by_cases doubled : c = '"'
      · subst doubled
        simp only [Sql.double, if_true, List.cons_append, List.takeWhile_cons, beq_self_eq_true,
          List.length_cons]
        omega
      · simp [doubled]

/-- No name that begins with a quote is read as itself where it stands without further quotes. -/
theorem unquote?_ne (stops : ∀ c ∈ rest.head?, c ≠ '"') (s : List Char) :
    unquote? (s ++ rest) ≠ some ('"' :: s) := by
  intro read
  obtain ⟨later, written⟩ := eq_double_of_unquote? read
  have ends : ∀ c ∈ rest.head?, ¬ (c == '"') = true := by simpa using stops
  -- The doubled quotes at the front are more than there are.
  have many := leading_double ('"' :: s) ('"' :: later)
  rw [← written, takeWhile_append_stopped ends, List.takeWhile_cons, if_pos (beq_self_eq_true _),
    List.length_cons] at many
  omega

end Quoted

namespace Alphabet

theorem quote_not_begins (alphabet : Alphabet) : alphabet.begins '"' = false := by
  rw [begins, alphabet.isLetter_ascii '"' (by decide)]
  rfl

theorem continues_of_begins (begin : alphabet.begins c = true) : alphabet.continues c = true := by
  rw [continues, begin, Bool.true_or, Bool.true_or]

/-- A word in small letters is what is left of it when it is read. -/
theorem map_takeWhile_eq_iff {word : List Char} :
    (word.takeWhile alphabet.continues).map alphabet.small = word ↔
      ∀ c ∈ word, alphabet.continues c = true ∧ alphabet.small c = c := by
  have fixed : word.map alphabet.small = word ↔ ∀ c ∈ word, alphabet.small c = c := by
    simpa using List.map_inj_left (f := alphabet.small) (g := id) (l := word)
  constructor
  · intro same
    have whole : word.takeWhile alphabet.continues = word := by
      refine (List.takeWhile_prefix _).eq_of_length ?_
      rw [← List.length_map alphabet.small, same]
    have all := List.takeWhile_eq_self_iff.mp whole
    rw [whole] at same
    exact fun c inside => ⟨all c inside, fixed.mp same c inside⟩
  · intro each
    rw [List.takeWhile_eq_self_iff.mpr fun c inside => (each c inside).1]
    exact fixed.mpr fun c inside => (each c inside).2

/-- A name without quotes is read as itself exactly if it is plain. -/
theorem identifierOf_word_iff (stops : ∀ c ∈ rest.head?, c ≠ '"' ∧ alphabet.continues c = false)
    (s : List Char) :
    alphabet.identifierOf (s ++ rest) = some s ↔ alphabet.isPlainWord s = true := by
  cases s with
  | nil =>
      refine iff_of_false ?_ Bool.false_ne_true
      cases rest with
      | nil => simp [identifierOf]
      | cons c rest =>
          obtain ⟨other, stop⟩ := stops c rfl
          have none : ¬ alphabet.begins c = true := fun begin => by
            rw [continues_of_begins begin] at stop
            cases stop
          simp [identifierOf, other, none]
  | cons c s =>
      rw [List.cons_append, identifierOf, isPlainWord]
      by_cases quote : c = '"'
      · subst quote
        rw [if_pos rfl, quote_not_begins, Bool.false_and]
        exact iff_of_false (unquote?_ne (fun c first => (stops c first).1) s) Bool.false_ne_true
      · rw [if_neg quote]
        cases begin : alphabet.begins c with
        | false => simp
        | true =>
            have ends : ∀ c ∈ rest.head?, ¬ alphabet.continues c = true := fun c first => by
              simp [(stops c first).2]
            rw [if_pos rfl, ← List.cons_append, takeWhile_append_stopped ends, Option.some.injEq,
              map_takeWhile_eq_iff]
            simp

/-- The text ends an identifier in front of it. -/
def Ends (alphabet : Alphabet) (text : String) : Prop :=
  ∀ c ∈ text.toList.head?, c ≠ '"' ∧ alphabet.continues c = false

theorem ends_nil (alphabet : Alphabet) : alphabet.Ends "" := by
  rintro c ⟨⟩

theorem ends_ascii (alphabet : Alphabet) {text : String} {c : Char}
    (first : text.toList.head? = some c) (within : c.toNat < 128) (other : c ≠ '"')
    (stop : ascii.continues c = false) : alphabet.Ends text := by
  rintro d begin
  rw [first] at begin
  cases begin
  refine ⟨other, ?_⟩
  rw [continues, begins, alphabet.isLetter_ascii c within]
  exact stop

/-- A quoted name is read as it is. -/
theorem identifier?_name (alphabet : Alphabet) (name : String) {rest : String}
    (stops : ∀ c ∈ rest.toList.head?, c ≠ '"') :
    alphabet.identifier? (Sql.name name ++ rest) = some name := by
  have quoted : (Sql.name name ++ rest).toList =
      '"' :: (Sql.double '"' name.toList ++ '"' :: rest.toList) := by
    rw [String.toList_append, Sql.name, Sql.enquote, String.toList_ofList]
    simp
  rw [identifier?, quoted, identifierOf, if_pos rfl, unquote?_double stops, Option.map_some,
    String.ofList_toList]

/-- A name without quotes is read as it is exactly if it is plain. -/
theorem identifier?_iff {rest : String} (ends : alphabet.Ends rest) (name : String) :
    alphabet.identifier? (name ++ rest) = some name ↔ alphabet.isPlain name = true := by
  rw [isPlain, ← identifierOf_word_iff ends, identifier?, String.toList_append,
    Option.map_eq_some_iff]
  constructor
  · rintro ⟨word, read, rfl⟩
    rw [read, String.toList_ofList]
  · exact fun read => ⟨name.toList, read, String.ofList_toList⟩

theorem isPlain_ascii (alphabet : Alphabet) {name : String}
    (within : ∀ c ∈ name.toList, c.toNat < 128) : alphabet.isPlain name = ascii.isPlain name := by
  rw [isPlain, isPlain]
  generalize name.toList = word at within
  cases word with
  | nil => rfl
  | cons c rest =>
      have begin : alphabet.begins c = ascii.begins c := by
        rw [begins, begins, alphabet.isLetter_ascii c (within c List.mem_cons_self)]
        rfl
      have each : ∀ d ∈ c :: rest, (alphabet.continues d && alphabet.small d == d) =
          (ascii.continues d && ascii.small d == d) := by
        intro d inside
        rw [continues, begins, alphabet.isLetter_ascii d (within d inside),
          alphabet.small_ascii d (within d inside)]
        rfl
      have all : ((c :: rest).all fun d => alphabet.continues d && alphabet.small d == d) =
          (c :: rest).all fun d => ascii.continues d && ascii.small d == d := by
        rw [Bool.eq_iff_iff, List.all_eq_true, List.all_eq_true]
        exact forall₂_congr fun d inside => by rw [each d inside]
      rw [isPlainWord, isPlainWord, begin, all]

end Alphabet

end Relata
