import Mathlib.Data.List.Forall2
import Relata.Proofs.Sql.Reader
import Relata.Proofs.Sql.Tokens

/-!
Readings of written conditions. A reading says what becomes of a text token by token, level by level, and
the readings of the parts of a condition make the reading of the whole.
-/

namespace Relata

/-- What a reader makes of a written expression: its tokens, the items at its level, and the alternatives
between the ORs at its level. -/
structure Reading where
  tokens : List Token
  items : List Item
  alternatives : List Expr
  /-- Whether the expression is put in brackets below AND and NOT. -/
  junction : Bool

namespace Reading

/-- The expression as it is read. -/
def whole (reading : Reading) : Expr := joinedBy .or reading.alternatives

def bracketed (reading : Reading) : Reading where
  tokens := .opening :: reading.tokens ++ [.closing]
  items := [.bracket [reading.whole]]
  alternatives := [.grouping reading.whole]
  junction := false

def operand (reading : Reading) : Reading :=
  if reading.junction then reading.bracketed else reading

def and (operands : List Reading) : Reading where
  tokens := [Token.and].intercalate (operands.map tokens)
  items := [Item.token .and].intercalate (operands.map items)
  alternatives := [.and (operands.map whole)]
  junction := true

def or (operands : List Reading) : Reading where
  tokens := [Token.or].intercalate (operands.map tokens)
  items := [Item.token .or].intercalate (operands.map items)
  alternatives := operands.flatMap alternatives
  junction := true

def compare (op : Comparison) (lhs rhs : Reading) : Reading where
  tokens := lhs.tokens ++ .comparison op :: rhs.tokens
  items := lhs.items ++ .token (.comparison op) :: rhs.items
  alternatives := [.compare op lhs.whole rhs.whole]
  junction := false

def column (c : ColumnRef) : Reading where
  tokens := [.name c.table.qualifier, .point, .name c.column]
  items := [.token (.name c.table.qualifier), .token .point, .token (.name c.column)]
  alternatives := [.column ((TableRef.derived c.table.qualifier).column c.column)]
  junction := false

def const (v : Value) : Reading where
  tokens := [.const v]
  items := [.token (.const v)]
  alternatives := [.const v]
  junction := false

def inList (operand : Reading) (items : List Reading) : Reading where
  tokens := operand.tokens ++
    .among :: .opening :: [Token.comma].intercalate (items.map tokens) ++ [.closing]
  items := operand.items ++ [.token .among, .bracket (items.map whole)]
  alternatives := [.inList operand.whole (items.map whole)]
  junction := false

def isNull (negated : Bool) (operand : Reading) : Reading where
  tokens := operand.tokens ++ if negated then [.is, .not, .const .null] else [.is, .const .null]
  items := operand.items ++
    if negated then [.token .is, .token .not, .token (.const .null)]
    else [.token .is, .token (.const .null)]
  alternatives := [.isNull negated operand.whole]
  junction := false

def not (operand : Reading) : Reading where
  tokens := .not :: operand.tokens
  items := .token .not :: operand.items
  alternatives := [.not operand.whole]
  junction := false

end Reading

variable {bound : List Value} {sql : Sql} {reading : Reading}

/-- Reads the tokens at the innermost level, and leaves everything else as it is. -/
def Shifts (tokens : List Token) (items : List Item) : Prop :=
  ∀ level outer, tokens.foldlM shift (level, outer) =
    some (⟨level.parts, level.items ++ items⟩, outer)

/-- The items are one condition below the junctions. -/
structure Single (items : List Item) (e : Expr) : Prop where
  separate : ∀ item ∈ items, item.isAnd = false ∧ item.isOr = false
  read : readNegation items = some e

/-- The reading is what reading the text gives. -/
structure Reading.Of (reading : Reading) (bound : List Value) (sql : Sql) : Prop where
  tells : Tells bound sql reading.tokens
  shifts : Shifts reading.tokens reading.items
  alternatives : (reading.items.splitOnP Item.isOr).mapM readConjunction = some reading.alternatives
  single : reading.junction = false → Single reading.items reading.whole

section Shifts

variable {tokens more : List Token} {items others : List Item}

theorem Shifts.append (first : Shifts tokens items) (second : Shifts more others) :
    Shifts (tokens ++ more) (items ++ others) := by
  intro level outer
  rw [List.foldlM_append, first]
  refine (second _ outer).trans ?_
  rw [List.append_assoc]

theorem shifts_token {token : Token} (inside : token.divides = false) :
    Shifts [token] [.token token] := by
  intro level outer
  have itself : shift (level, outer) token =
      some (⟨level.parts, level.items ++ [.token token]⟩, outer) := by
    cases token with
    | opening | closing | comma => cases inside
    | name | const | point | comparison | and | or | not | is | among => cases outer <;> rfl
  rw [List.foldlM_cons, itself]
  rfl

theorem shifts_intercalate {separator : List Token} {item : List Item}
    (between : Shifts separator item) {readings : List Reading}
    (each : ∀ reading ∈ readings, Shifts reading.tokens reading.items) :
    Shifts (separator.intercalate (readings.map Reading.tokens))
      (item.intercalate (readings.map Reading.items)) := by
  induction readings with
  | nil =>
      intro level outer
      rw [List.map_nil, List.map_nil, List.intercalate_nil, List.intercalate_nil, List.append_nil]
      rfl
  | cons first rest ih =>
      have here := each first List.mem_cons_self
      have later := ih fun reading member => each reading (List.mem_cons_of_mem _ member)
      cases rest with
      | nil => simpa only [List.map_cons, List.map_nil, List.intercalate_singleton] using here
      | cons second rest =>
          simp only [List.map_cons, List.intercalate_cons_cons] at later ⊢
          exact (here.append between).append later

/-- The parts between brackets are read at the commas and at the closing bracket. -/
theorem foldlM_parts {readings : List Reading} (nonempty : readings ≠ [])
    (shifts : ∀ reading ∈ readings, Shifts reading.tokens reading.items)
    (reads : ∀ reading ∈ readings, readDisjunction reading.items = some reading.whole)
    (parts : List Expr) (above : Level) (outer : List Level) :
    ([Token.comma].intercalate (readings.map Reading.tokens) ++ [Token.closing]).foldlM shift
        (⟨parts, []⟩, above :: outer) =
      some (⟨above.parts, above.items ++ [Item.bracket (parts ++ readings.map Reading.whole)]⟩,
        outer) := by
  induction readings generalizing parts with
  | nil => exact absurd rfl nonempty
  | cons first rest ih =>
      have here := shifts first List.mem_cons_self ⟨parts, []⟩ (above :: outer)
      have read := reads first List.mem_cons_self
      cases rest with
      | nil =>
          -- Only the last part meets the closing bracket; the others end at a comma.
          have closes : shift (⟨parts, first.items⟩, above :: outer) .closing =
              some (⟨above.parts, above.items ++ [.bracket (parts ++ [first.whole])]⟩, outer) := by
            rw [shift, read, Option.map_some]
          simp only [List.map_cons, List.map_nil, List.intercalate_singleton]
          rw [List.foldlM_append, here]
          exact congrArg (· >>= _) closes
      | cons second rest =>
          have later := ih (List.cons_ne_nil _ _)
            (fun reading member => shifts reading (List.mem_cons_of_mem _ member))
            (fun reading member => reads reading (List.mem_cons_of_mem _ member))
            (parts ++ [first.whole])
          have continues : shift (⟨parts, first.items⟩, above :: outer) .comma =
              some (⟨parts ++ [first.whole], []⟩, above :: outer) := by
            rw [shift, read, Option.map_some]
          simp only [List.map_cons, List.intercalate_cons_cons, List.append_assoc] at later ⊢
          rw [List.foldlM_append, here]
          refine (congrArg (· >>= _) continues).trans (later.trans ?_)
          rw [List.singleton_append]

end Shifts

section Read

variable {items : List Item} {e : Expr}

theorem forall_mem_intercalate {α : Type} {P : α → Prop} {separator : List α} {parts : List (List α)}
    (between : ∀ x ∈ separator, P x) (each : ∀ part ∈ parts, ∀ x ∈ part, P x) :
    ∀ x ∈ separator.intercalate parts, P x := by
  induction parts with
  | nil => simp
  | cons first rest ih =>
      have here := each first List.mem_cons_self
      have later := ih fun part member => each part (List.mem_cons_of_mem _ member)
      cases rest with
      | nil => rwa [List.intercalate_singleton]
      | cons second rest =>
          rw [List.intercalate_cons_cons]
          exact List.forall_mem_append.mpr ⟨List.forall_mem_append.mpr ⟨here, between⟩, later⟩

theorem splitOnP_intercalate {α : Type} {p : α → Bool} {separator : α} (splits : p separator = true)
    {parts : List (List α)} (nonempty : parts ≠ []) :
    ([separator].intercalate parts).splitOnP p = parts.flatMap (List.splitOnP p) := by
  induction parts with
  | nil => exact absurd rfl nonempty
  | cons first rest ih =>
      cases rest with
      | nil => rw [List.intercalate_singleton, List.flatMap_singleton]
      | cons second rest =>
          rw [List.intercalate_cons_cons, List.append_assoc, List.singleton_append,
            List.splitOnP_append_cons _ _ splits, ih (List.cons_ne_nil _ _)]
          rfl

theorem mapM_flatMap_eq_some {α β γ : Type} {f : α → List β} {g : β → Option γ} {value : α → List γ}
    {items : List α} (each : ∀ a ∈ items, (f a).mapM g = some (value a)) :
    (items.flatMap f).mapM g = some (items.flatMap value) := by
  induction items with
  | nil => rfl
  | cons a rest ih =>
      rw [List.flatMap_cons, List.mapM_append, each a List.mem_cons_self,
        ih fun b member => each b (List.mem_cons_of_mem _ member)]
      rfl

theorem mapM_eq_some_map {α β : Type} {g : α → Option β} {value : α → β} {items : List α}
    (each : ∀ a ∈ items, g a = some (value a)) : items.mapM g = some (items.map value) := by
  induction items with
  | nil => rfl
  | cons a rest ih =>
      rw [List.mapM_cons, each a List.mem_cons_self,
        ih fun b member => each b (List.mem_cons_of_mem _ member)]
      rfl

theorem joinedBy_several {junction : List Expr → Expr} {es : List Expr} (several : 2 ≤ es.length) :
    joinedBy junction es = junction es := by
  unfold joinedBy
  split
  · simp at several
  · rfl

theorem Single.split (single : Single items e) :
    items.splitOnP Item.isOr = [items] ∧ items.splitOnP Item.isAnd = [items] :=
  ⟨List.splitOnP_eq_singleton fun item member => (single.separate item member).2,
    List.splitOnP_eq_singleton fun item member => (single.separate item member).1⟩

theorem Single.alternatives (single : Single items e) :
    (items.splitOnP Item.isOr).mapM readConjunction = some [e] := by
  have conjunction : readConjunction items = some e := by
    rw [readConjunction, single.split.2, List.mapM_cons, single.read]
    rfl
  rw [single.split.1, List.mapM_cons, conjunction]
  rfl

theorem Reading.Of.readDisjunction (of : reading.Of bound sql) :
    readDisjunction reading.items = some reading.whole := by
  rw [Relata.readDisjunction, of.alternatives]
  rfl

end Read

/-- In front of anything else the items are read as an operand. -/
structure Reading.Operand (reading : Reading) : Prop where
  separate : ∀ item ∈ reading.items, item.isAnd = false ∧ item.isOr = false
  read : ∀ rest, readOperand (reading.items ++ rest) = some (reading.whole, rest)
  first : ∀ rest, readNegation (reading.items ++ rest) = readCondition reading.whole rest

namespace Reading

variable {e : Expr} {lhs rhs : Reading} {left right : Sql}

theorem Operand.column (c : ColumnRef) : (Reading.column c).Operand :=
  ⟨by simp [Reading.column, Item.isAnd, Item.isOr], fun _ => rfl, fun _ => rfl⟩

theorem Operand.const (v : Value) : (Reading.const v).Operand :=
  ⟨by simp [Reading.const, Item.isAnd, Item.isOr], fun _ => rfl, fun _ => rfl⟩

theorem Operand.bracketed (reading : Reading) : reading.bracketed.Operand :=
  ⟨by simp [Reading.bracketed, Item.isAnd, Item.isOr], fun _ => rfl, fun _ => rfl⟩

theorem Of.of_single (tells : Tells bound sql reading.tokens)
    (shifts : Shifts reading.tokens reading.items) (alone : reading.alternatives = [e])
    (single : Single reading.items e) : reading.Of bound sql := by
  refine ⟨tells, shifts, alone ▸ single.alternatives, fun _ => ?_⟩
  rw [whole, alone]
  exact single

theorem Operand.single (operand : reading.Operand) : Single reading.items reading.whole := by
  refine ⟨operand.separate, ?_⟩
  have read := operand.first []
  rwa [List.append_nil] at read

theorem Of.column (c : ColumnRef) : (Reading.column c).Of bound c.sql := by
  refine .of_single (tells_column c) ?_ rfl (Operand.column c).single
  exact (shifts_token rfl).append ((shifts_token rfl).append (shifts_token rfl))

theorem Of.const (v : Value) : (Reading.const v).Of bound (Sql.value v) :=
  .of_single (tells_value v) (shifts_token rfl) rfl (Operand.const v).single

theorem Of.bracketed (of : reading.Of bound sql) :
    reading.bracketed.Of bound (Sql.text "(" ++ sql ++ Sql.text ")") := by
  refine .of_single ?_ ?_ rfl (Operand.bracketed reading).single
  · exact separates_opening.cons (of.tells.between starts_closing (separates_closing.cons tells_nil))
  · intro level outer
    have parts := @foldlM_parts [reading] (by simp) (by simpa using of.shifts)
      (by simpa using of.readDisjunction) [] level outer
    simpa [Reading.bracketed, shift] using parts

theorem Of.operand (of : reading.Of bound sql) (junction : reading.junction = e.isJunction) :
    reading.operand.Of bound (e.operandSql sql) ∧ reading.operand.junction = false := by
  rw [Reading.operand, Expr.operandSql, ← junction]
  split
  · exact ⟨of.bracketed, rfl⟩
  · rename_i other
    exact ⟨of, Bool.eq_false_iff.mpr other⟩

theorem Of.compare (op : Comparison) (first : lhs.Of bound left) (second : rhs.Of bound right)
    (before : lhs.Operand) (after : rhs.Operand) :
    (Reading.compare op lhs rhs).Of bound
      (left ++ Sql.text (" " ++ op.symbol ++ " ") ++ right) := by
  have starts : Starts (" " ++ op.symbol ++ " ") := by
    have spaced : (" " ++ op.symbol ++ " ").toList = ' ' :: (op.symbol.toList ++ [' ']) := by
      simp only [String.toList_append]
      rfl
    exact starts_of_space spaced
  refine .of_single ?_ ?_ rfl ⟨?_, ?_⟩
  · rw [List.append_assoc]
    exact first.tells.between starts ((separates_comparison op).cons second.tells)
  · exact first.shifts.append
      ((shifts_token rfl).append second.shifts)
  · exact List.forall_mem_append.mpr
      ⟨before.separate, List.forall_mem_cons.mpr ⟨⟨rfl, rfl⟩, after.separate⟩⟩
  · have read := after.read []
    rw [List.append_nil] at read
    rw [Reading.compare, before.first, readCondition, read]

theorem Of.isNull (negated : Bool) (of : reading.Of bound sql) (operand : reading.Operand) :
    (Reading.isNull negated reading).Of bound
      (sql ++ Sql.text (if negated then " IS NOT NULL" else " IS NULL")) := by
  have is : Shifts [.is] [.token .is] := shifts_token rfl
  have not : Shifts [.not] [.token .not] := shifts_token rfl
  have null : Shifts [.const .null] [.token (.const .null)] := shifts_token rfl
  cases negated with
  | true =>
      refine .of_single ?_ (of.shifts.append (is.append (not.append null))) rfl ⟨?_, operand.first _⟩
      · exact of.tells.between (starts_of_space rfl) (.of_text scans_isNotNull)
      · exact List.forall_mem_append.mpr ⟨operand.separate, by simp [Item.isAnd, Item.isOr]⟩
  | false =>
      refine .of_single ?_ (of.shifts.append (is.append null)) rfl ⟨?_, operand.first _⟩
      · exact of.tells.between (starts_of_space rfl) (.of_text scans_isNull)
      · exact List.forall_mem_append.mpr ⟨operand.separate, by simp [Item.isAnd, Item.isOr]⟩

theorem Of.not (of : reading.Of bound sql) (below : reading.junction = false) :
    (Reading.not reading).Of bound (Sql.text "NOT " ++ sql) := by
  have single := of.single below
  refine .of_single (separates_not.cons of.tells) ?_ rfl ⟨?_, ?_⟩
  · exact (shifts_token rfl).append of.shifts
  · exact List.forall_mem_cons.mpr ⟨⟨rfl, rfl⟩, single.separate⟩
  · rw [Reading.not, readNegation, single.read]
    rfl

section Lists

variable {es : List Expr} {part : Expr → Reading} {text : Expr → Sql}

theorem tells_parts {separator : String} {token : Token} (separates : Separates separator [token])
    (starts : Starts separator) (each : ∀ e ∈ es, (part e).Of bound (text e)) (nonempty : es ≠ []) :
    Tells bound (Sql.join separator (es.map text))
      ([token].intercalate ((es.map part).map tokens)) := by
  refine tells_join separates starts ?_ (by simpa using nonempty)
  rw [List.map_map, List.forall₂_map_left_iff, List.forall₂_map_right_iff, List.forall₂_same]
  exact fun e member => (each e member).tells

theorem shifts_parts {token : Token} (between : Shifts [token] [.token token])
    (each : ∀ e ∈ es, (part e).Of bound (text e)) :
    Shifts ([token].intercalate ((es.map part).map tokens))
      ([Item.token token].intercalate ((es.map part).map items)) := by
  refine shifts_intercalate between fun reading member => ?_
  obtain ⟨e, inside, rfl⟩ := List.mem_map.mp member
  exact (each e inside).shifts

theorem Of.inList (of : reading.Of bound sql) (operand : reading.Operand)
    (each : ∀ e ∈ es, (part e).Of bound (text e)) (nonempty : es ≠ []) :
    (Reading.inList reading (es.map part)).Of bound
      (sql ++ Sql.text " IN (" ++ Sql.join ", " (es.map text) ++ Sql.text ")") := by
  have among : Shifts [.among] [.token .among] := shifts_token rfl
  refine .of_single ?_ ?_ rfl ⟨?_, operand.first _⟩
  · have list := (tells_parts separates_comma starts_comma each nonempty).between starts_closing
      (separates_closing.cons tells_nil)
    have whole := of.tells.between (starts_of_space rfl) (separates_among.cons list)
    simpa [Reading.inList, Sql.text] using whole
  · have parts : ∀ level outer, (Token.opening ::
        ([Token.comma].intercalate ((es.map part).map tokens) ++ [.closing])).foldlM shift
          (level, outer) = some (⟨level.parts,
            level.items ++ [Item.bracket ((es.map part).map Reading.whole)]⟩, outer) := by
      intro level outer
      refine foldlM_parts (by simpa using nonempty) ?_ ?_ [] level outer
      · intro reading member
        obtain ⟨e, inside, rfl⟩ := List.mem_map.mp member
        exact (each e inside).shifts
      · intro reading member
        obtain ⟨e, inside, rfl⟩ := List.mem_map.mp member
        exact (each e inside).readDisjunction
    have whole := of.shifts.append (among.append parts)
    simpa [Reading.inList] using whole
  · exact List.forall_mem_append.mpr ⟨operand.separate, by simp [Item.isAnd, Item.isOr]⟩

theorem Of.and (each : ∀ e ∈ es, (part e).Of bound (text e))
    (below : ∀ e ∈ es, (part e).junction = false) (several : 2 ≤ es.length) :
    (Reading.and (es.map part)).Of bound (Sql.join " AND " (es.map text)) := by
  have nonempty : es ≠ [] := by
    rintro rfl
    cases several
  have single : ∀ e ∈ es, Single (part e).items (part e).whole := fun e member =>
    (each e member).single (below e member)
  have separate : ∀ item ∈ [Item.token .and].intercalate ((es.map part).map items),
      item.isOr = false := by
    refine forall_mem_intercalate (by simp [Item.isOr]) fun list member item inside => ?_
    rw [List.map_map] at member
    obtain ⟨e, among, rfl⟩ := List.mem_map.mp member
    exact ((single e among).separate item inside).2
  have split : ([Item.token .and].intercalate ((es.map part).map items)).splitOnP Item.isAnd =
      es.map fun e => (part e).items := by
    have alone : ∀ e ∈ es, ((items ∘ part) e).splitOnP Item.isAnd = [(part e).items] :=
      fun e member => (single e member).split.2
    rw [splitOnP_intercalate rfl (by simpa using nonempty), List.map_map, List.flatMap_map,
      List.flatMap_def, List.map_congr_left alone, ← List.flatMap_def]
    exact List.flatMap_pure_eq_map _ _
  have conjunction : readConjunction ([Item.token .and].intercalate ((es.map part).map items)) =
      some (.and ((es.map part).map Reading.whole)) := by
    have read : es.mapM (fun e => readNegation (part e).items) =
        some (es.map fun e => (part e).whole) :=
      mapM_eq_some_map fun e member => (single e member).read
    rw [readConjunction, split, List.mapM_map]
    refine (congrArg (Option.map _) read).trans ?_
    rw [Option.map_some, joinedBy_several (by simpa using several), List.map_map]
    rfl
  refine ⟨tells_parts (written_and.separates rfl) (starts_of_space rfl) each nonempty,
    shifts_parts (shifts_token rfl) each, ?_, nofun⟩
  rw [Reading.and, List.splitOnP_eq_singleton separate, List.mapM_cons, conjunction]
  rfl

theorem Of.or (each : ∀ e ∈ es, (part e).Of bound (text e)) (several : 2 ≤ es.length) :
    (Reading.or (es.map part)).Of bound (Sql.join " OR " (es.map text)) := by
  have nonempty : es ≠ [] := by
    rintro rfl
    cases several
  refine ⟨tells_parts (written_or.separates rfl) (starts_of_space rfl) each nonempty,
    shifts_parts (shifts_token rfl) each, ?_, nofun⟩
  -- A disjunction below this one has no brackets, so all the alternatives are split at one level.
  rw [Reading.or, splitOnP_intercalate rfl (by simpa using nonempty), List.map_map, List.flatMap_map,
    List.flatMap_map]
  exact mapM_flatMap_eq_some fun e member => (each e member).alternatives

end Lists

end Reading

end Relata
