import Relata.Proofs.Sql.Introduced

/-!
Names and texts in quotes. A reader of SQL takes a doubled quote for one and ends the token at a single one. So
it reads what stands between the quotes as it was before they were doubled, and goes on right behind the last
one: nothing in a name or in a text ends its token early.
-/

namespace Relata

/-- What stands before the quote that ends a token whose opening quote has been read, and the text behind it. -/
def closed? (quote : Char) : List Char → Option (List Char × List Char)
  | [] => none
  | c :: rest =>
    if c = quote then
      match rest with
      | [] => some ([], [])
      | d :: later =>
        if d = quote then (closed? quote later).map fun read => (quote :: read.1, read.2)
        else some ([], d :: later)
    else (closed? quote rest).map fun read => (c :: read.1, read.2)

/-- The token in quotes that a text begins with, and the text behind it. -/
def quotedToken? (quote : Char) (text : String) : Option (String × String) :=
  match text.toList with
  | [] => none
  | c :: rest =>
    if c = quote then
      (closed? quote rest).map fun read => (String.ofList read.1, String.ofList read.2)
    else none

/-- The text does not go on with the quote. -/
def ClearOf (quote : Char) (rest : String) : Prop := ∀ c ∈ rest.toList.head?, c ≠ quote

/-- The written text is one token, which stands for the value. -/
structure Encloses (quote : Char) (written value : String) : Prop where
  /-- It is read as the value, up to any text that does not begin with a quote. -/
  closes : ∀ rest : String, ClearOf quote rest → quotedToken? quote (written ++ rest) = some (value, rest)
  /-- Whatever follows, no token ends within it. -/
  lasts : ∀ rest token left : String, quotedToken? quote (written ++ rest) = some (token, left) →
    value.toList <+: token.toList ∧ left.toList <:+ rest.toList

variable {quote c : Char} {s text inner left rest : List Char}

theorem closed?_cons (other : c ≠ quote) (text : List Char) :
    closed? quote (c :: text) = (closed? quote text).map fun read => (c :: read.1, read.2) := by
  cases text <;> simp [closed?, other]

theorem closed?_pair (text : List Char) :
    closed? quote (quote :: quote :: text) =
      (closed? quote text).map fun read => (quote :: read.1, read.2) := by
  simp [closed?]

theorem closed?_end (stops : ∀ c ∈ rest.head?, c ≠ quote) : closed? quote (quote :: rest) = some ([], rest) := by
  cases rest with
  | nil => simp [closed?]
  | cons c rest => simp [closed?, stops c rfl]

/-- Doubled quotes are read over, whatever follows. -/
theorem closed?_double (s text : List Char) :
    closed? quote (Sql.double quote s ++ text) =
      (closed? quote text).map fun read => (s ++ read.1, read.2) := by
  induction s with
  | nil => simp [Sql.double]
  | cons c s ih =>
      by_cases doubled : c = quote
      · subst doubled
        simp [Sql.double, closed?_pair, ih, Function.comp_def]
      · simp [Sql.double, doubled, closed?_cons, ih, Function.comp_def]

/-- A token takes one character at least, its closing quote. -/
theorem closed?_splits (read : closed? quote text = some (inner, left)) :
    ∃ c taken, text = c :: (taken ++ left) := by
  induction text using closed?.induct quote generalizing inner with
  | case1 => simp [closed?] at read
  | case2 =>
      simp only [closed?, if_true, Option.some.injEq, Prod.mk.injEq] at read
      obtain ⟨rfl, rfl⟩ := read
      exact ⟨quote, [], rfl⟩
  | case3 later ih =>
      rw [closed?_pair] at read
      obtain ⟨⟨before, behind⟩, found, same⟩ := Option.map_eq_some_iff.mp read
      cases same
      obtain ⟨c, taken, rfl⟩ := ih found
      exact ⟨quote, quote :: c :: taken, rfl⟩
  | case4 d later other =>
      rw [closed?_end (by simpa using other)] at read
      cases read
      exact ⟨quote, [], rfl⟩
  | case5 c rest other ih =>
      rw [closed?_cons other] at read
      obtain ⟨⟨before, behind⟩, found, same⟩ := Option.map_eq_some_iff.mp read
      cases same
      obtain ⟨d, taken, rfl⟩ := ih found
      exact ⟨c, d :: taken, rfl⟩

/-- The closing quote of a text in quotes is the first that can end the token. -/
theorem quotedToken?_enquote (quote : Char) (value rest : String) :
    quotedToken? quote (Sql.enquote quote value ++ rest) =
      (closed? quote (quote :: rest.toList)).map fun read =>
        (value ++ String.ofList read.1, String.ofList read.2) := by
  have written : (Sql.enquote quote value ++ rest).toList =
      quote :: (Sql.double quote value.toList ++ quote :: rest.toList) := by
    simp [Sql.enquote]
  simp [quotedToken?, written, closed?_double, Function.comp_def]

theorem encloses_enquote (quote : Char) (value : String) :
    Encloses quote (Sql.enquote quote value) value := by
  constructor
  · intro rest stops
    simp [quotedToken?_enquote, closed?_end stops]
  · intro rest token left read
    rw [quotedToken?_enquote] at read
    obtain ⟨⟨inner, behind⟩, found, same⟩ := Option.map_eq_some_iff.mp read
    cases same
    obtain ⟨c, taken, whole⟩ := closed?_splits found
    obtain ⟨_, behind⟩ := List.cons.inj whole
    simp [behind]

theorem encloses_name (name : String) : Encloses '"' (Sql.name name) name := encloses_enquote '"' name

theorem encloses_text (s : String) : Encloses '\'' (Sql.value (.text s)).inline s := by
  have written : (Sql.value (.text s)).inline = Sql.enquote '\'' s := String.append_empty
  rw [written]
  exact encloses_enquote '\'' s

/-- Names with something behind them that does not begin with a quote. -/
theorem name_append_inj {name other rest left : String} (stops : ClearOf '"' rest) (ends : ClearOf '"' left)
    (same : Sql.name name ++ rest = Sql.name other ++ left) : name = other ∧ rest = left := by
  have read := (encloses_name name).closes rest stops
  rw [same, (encloses_name other).closes left ends] at read
  simpa [eq_comm] using read

theorem column_form (c : ColumnRef) (bound : Option Nat) :
    Sql.form bound c.sql = Sql.name c.table.qualifier ++ ("." ++ Sql.name c.column) := by
  have written : c.sql.inline = Sql.name c.table.qualifier ++ ("." ++ Sql.name c.column) := by
    rw [ColumnRef.sql, Sql.inline_text, String.append_assoc]
  cases bound with
  | none => exact written
  | some bound => exact (Sql.numbered_eq_inline rfl bound).trans written

/-- Names and texts are closed in their quotes: each is read as it is, up to a continuation that does not begin
with the same quote, and its token never ends earlier. Two references to columns are therefore written alike, in
either form, exactly if they name the same column behind the same qualifier. -/
theorem quotes_enclose :
    (∀ name : String, Encloses '"' (Sql.name name) name) ∧
      (∀ s : String, Encloses '\'' (Sql.value (.text s)).inline s) ∧
      ∀ (c d : ColumnRef) (bound : Option Nat), Sql.form bound c.sql = Sql.form bound d.sql ↔
        c.table.qualifier = d.table.qualifier ∧ c.column = d.column := by
  refine ⟨encloses_name, encloses_text, fun c d bound => ?_⟩
  rw [column_form, column_form]
  constructor
  · intro same
    have point : ∀ name : String, ClearOf '"' ("." ++ name) := by simp [ClearOf]
    obtain ⟨qualifier, behind⟩ := name_append_inj (point _) (point _) same
    have last : ClearOf '"' "" := by simp [ClearOf]
    have closed : Sql.name c.column ++ "" = Sql.name d.column ++ "" := by
      simpa using behind
    exact ⟨qualifier, (name_append_inj last last closed).1⟩
  · rintro ⟨qualifier, column⟩
    rw [qualifier, column]

end Relata
