import Mathlib.Data.List.Permutation
import Relata.Proofs.Query.Kinds

/-!
Sorted answers. The keys of a query's rows are of one kind each, so the comparison that sorts them is an
order on them: the answer has the rows that the query has without its order and its limit, each as often,
by their keys and then by their places in the sources, as far as the limit lets them through.
-/

namespace Relata

/-- The first of two values comes before the second: nulls are last in ascending order, which also holds
without a direction, and first in descending order. -/
def Value.Before : Option Direction → Value → Value → Prop
  | some .desc, a, b => b ≠ .null ∧ a = .null ∨ b.order? a = some .lt
  | _, a, b => a ≠ .null ∧ b = .null ∨ a.order? b = some .lt

/-- The first key that differs decides. -/
inductive KeysBefore : List OrderTerm → List Value → List Value → Prop
  | here {term terms a b as bs} (before : Value.Before term.direction a b) :
    KeysBefore (term :: terms) (a :: as) (b :: bs)
  | later {term terms a as bs} (before : KeysBefore terms as bs) :
    KeysBefore (term :: terms) (a :: as) (a :: bs)

namespace Value

variable {direction : Option Direction} {a b c : Value}

theorem sortOrder_swap (direction : Option Direction) (a b : Value) :
    sortOrder direction b a = (sortOrder direction a b).swap := by
  have swapped := order?_swap a b
  unfold sortOrder
  cases a.isNull <;> cases b.isNull <;> simp only [swapped] <;> cases a.order? b <;> split <;> simp

theorem sortOrder_desc (a b : Value) : sortOrder (some .desc) a b = sortOrder none b a :=
  (sortOrder_swap none a b).symm

theorem sortOrder_eq_lt (alike : a.Alike b) :
    sortOrder direction a b = .lt ↔ Before direction a b := by
  have ascending : ∀ {a b : Value}, a.Alike b → (sortOrder none a b = .lt ↔ Before none a b) := by
    intro a b alike
    cases a <;> cases b <;> simp_all [sortOrder, Before, isNull, order?, Alike, kind]
  rcases direction with _ | _ | _
  · exact ascending alike
  · exact ascending alike
  · rw [sortOrder_desc]
    exact ascending alike.symm

theorem sortOrder_eq_eq (alike : a.Alike b) : sortOrder direction a b = .eq ↔ a = b := by
  rcases direction with _ | _ | _ <;> cases a <;> cases b <;>
    simp_all [sortOrder, isNull, order?, Alike, kind]

theorem Before.trans (below : Before direction a b) (above : Before direction b c) :
    Before direction a c := by
  have ascending : ∀ {a b c : Value}, Before none a b → Before none b c → Before none a c := by
    rintro a b c (⟨_, rfl⟩ | less) (⟨present, rfl⟩ | more)
    · exact absurd rfl present
    · cases more
    · refine .inl ⟨?_, rfl⟩
      rintro rfl
      cases less
    · exact .inr (lt_trans less more)
  rcases direction with _ | _ | _
  · exact ascending below above
  · exact ascending below above
  · exact ascending above below

end Value

section Keys

variable {terms : List OrderTerm} {as bs cs : List Value}

theorem sortOrder_swap (terms : List OrderTerm) (as bs : List Value) :
    sortOrder terms bs as = (sortOrder terms as bs).swap := by
  induction terms generalizing as bs with
  | nil => simp [sortOrder]
  | cons term terms ih =>
      cases as with
      | nil => cases bs <;> rfl
      | cons a as =>
          cases bs with
          | nil => rfl
          | cons b bs =>
              rw [sortOrder, sortOrder, Value.sortOrder_swap _ a b, ih as bs, Ordering.swap_then]

theorem sortOrder_eq_lt (width : as.length = terms.length) (alike : List.Forall₂ Value.Alike as bs) :
    sortOrder terms as bs = .lt ↔ KeysBefore terms as bs := by
  induction alike generalizing terms with
  | nil =>
      cases terms with
      | nil => exact ⟨nofun, nofun⟩
      | cons term terms => cases width
  | @cons a b as bs first _ ih =>
      cases terms with
      | nil => cases width
      | cons term terms =>
          rw [sortOrder, Ordering.then_eq_lt, Value.sortOrder_eq_lt first, Value.sortOrder_eq_eq first,
            ih (Nat.succ.inj width)]
          constructor
          · rintro (before | ⟨rfl, before⟩)
            · exact .here before
            · exact .later before
          · rintro (before | before)
            · exact .inl before
            · exact .inr ⟨rfl, before⟩

theorem sortOrder_eq_eq (width : as.length = terms.length) (alike : List.Forall₂ Value.Alike as bs) :
    sortOrder terms as bs = .eq ↔ as = bs := by
  induction alike generalizing terms with
  | nil => simp [sortOrder]
  | @cons a b as bs first _ ih =>
      cases terms with
      | nil => cases width
      | cons term terms =>
          rw [sortOrder, Ordering.then_eq_eq, Value.sortOrder_eq_eq first, ih (Nat.succ.inj width),
            List.cons.injEq]

theorem KeysBefore.trans (below : KeysBefore terms as bs) (above : KeysBefore terms bs cs) :
    KeysBefore terms as cs := by
  induction below generalizing cs with
  | here before =>
      cases above with
      | here after => exact .here (before.trans after)
      | later => exact .here before
  | later _ ih =>
      cases above with
      | here after => exact .here after
      | later after => exact .later (ih after)

theorem isLE_sortOrder (width : as.length = terms.length) (alike : List.Forall₂ Value.Alike as bs) :
    (sortOrder terms as bs).isLE = true ↔ KeysBefore terms as bs ∨ as = bs := by
  rw [Ordering.isLE_iff_eq_lt_or_eq_eq, sortOrder_eq_lt width alike, sortOrder_eq_eq width alike]

theorem sortOrder_trans (first : as.length = terms.length) (second : bs.length = terms.length)
    (near : List.Forall₂ Value.Alike as bs) (next : List.Forall₂ Value.Alike bs cs)
    (far : List.Forall₂ Value.Alike as cs) (below : (sortOrder terms as bs).isLE)
    (above : (sortOrder terms bs cs).isLE) : (sortOrder terms as cs).isLE := by
  rw [isLE_sortOrder first near] at below
  rw [isLE_sortOrder second next] at above
  rw [isLE_sortOrder first far]
  rcases below with below | rfl
  · rcases above with above | rfl
    · exact .inl (below.trans above)
    · exact .inl below
  · exact above

theorem sortOrder_total (terms : List OrderTerm) (as bs : List Value) :
    ((sortOrder terms as bs).isLE || (sortOrder terms bs as).isLE) = true := by
  rw [sortOrder_swap terms as bs]
  cases sortOrder terms as bs <;> rfl

end Keys

/-- A stable sort of a list, as a list of its items with their places. -/
theorem exists_places {α : Type} {le : α → α → Bool} {items : List α}
    (trans : ∀ a ∈ items, ∀ b ∈ items, ∀ c ∈ items, le a b = true → le b c = true → le a c = true)
    (total : ∀ a ∈ items, ∀ b ∈ items, (le a b || le b a) = true) :
    ∃ sorted : List (α × Nat), sorted.map Prod.fst = items.mergeSort le ∧ sorted.Perm items.zipIdx ∧
      sorted.Pairwise fun a b => le a.1 b.1 = true ∧ (le b.1 a.1 = true → a.2 < b.2) := by
  have below : ∀ {a b : α × Nat}, List.zipIdxLE le a b = true ↔
      le a.1 b.1 = true ∧ (le b.1 a.1 = true → a.2 ≤ b.2) := by
    intro a b
    rw [List.zipIdxLE]
    cases le a.1 b.1 <;> cases le b.1 a.1 <;> simp
  have inside : ∀ {a : α × Nat}, a ∈ items.zipIdx → a.1 ∈ items := List.fst_mem_of_mem_zipIdx
  have perm := List.mergeSort_perm items.zipIdx (List.zipIdxLE le)
  refine ⟨items.zipIdx.mergeSort (List.zipIdxLE le), List.mergeSort_zipIdx, perm, ?_⟩
  have ordered : (items.zipIdx.mergeSort (List.zipIdxLE le)).Pairwise fun a b =>
      List.zipIdxLE le a b = true := by
    apply pairwise_mergeSort_of_mem
    · intro a first b second c third left right
      obtain ⟨left, places⟩ := below.mp left
      obtain ⟨right, places'⟩ := below.mp right
      refine below.mpr ⟨trans _ (inside first) _ (inside second) _ (inside third) left right, ?_⟩
      -- All three are equal if the last is not after the first.
      intro back
      have back' := trans _ (inside second) _ (inside third) _ (inside first) right back
      have back'' := trans _ (inside third) _ (inside first) _ (inside second) back left
      exact Nat.le_trans (places back') (places' back'')
    · intro a first b second
      rw [Bool.or_eq_true, below, below]
      have either := total _ (inside first) _ (inside second)
      rw [Bool.or_eq_true] at either
      rcases Nat.le_total a.2 b.2 with before | before <;> grind
  have apart : (items.zipIdx.mergeSort (List.zipIdxLE le)).Pairwise fun a b => a.2 ≠ b.2 := by
    have places : (items.zipIdx.map Prod.snd).Nodup := by
      rw [List.zipIdx_map_snd]
      exact List.nodup_range'
    exact List.pairwise_map.mp ((perm.map Prod.snd).nodup_iff.mpr places)
  refine (ordered.and apart).imp fun {a b} both => ?_
  obtain ⟨left, places⟩ := below.mp both.1
  exact ⟨left, fun back => Nat.lt_of_le_of_ne (places back) both.2⟩

/-- What a limit leaves of a list: all of it without a limit or for a limit of null, and otherwise as many
of its first items as the limit says. -/
inductive Leaves {α : Type} (env : Env) (items : List α) : Option Expr → List α → Prop
  | all : Leaves env items none items
  | null {e : Expr} (unknown : e.eval env = .ok .null) : Leaves env items (some e) items
  | first {e : Expr} {n : Int64} (count : e.eval env = .ok (.int n)) (nonnegative : 0 ≤ n.toInt) :
    Leaves env items (some e) (items.take n.toInt.toNat)

variable {db : Database} {outer : Env} {query : Query} {rows : List Frame}

theorem Leaves.map {α β : Type} {items cut : List α} {limit : Option Expr}
    (leaves : Leaves outer items limit cut) (f : α → β) :
    Leaves outer (items.map f) limit (cut.map f) := by
  cases leaves with
  | all => exact .all
  | null unknown => exact .null unknown
  | first count nonnegative =>
      rw [List.map_take]
      exact .first count nonnegative

theorem limitRows_leaves {limit : Option Expr} {cut : List Frame}
    (done : limitRows outer limit rows = .ok cut) : Leaves outer rows limit cut := by
  cases limit with
  | none =>
      cases done
      exact .all
  | some e =>
      obtain ⟨count, counted, done⟩ := bind_eq_ok.mp done
      obtain ⟨v, evaluated, counted⟩ := bind_eq_ok.mp counted
      cases v with
      | null =>
          cases counted
          cases done
          exact .null evaluated
      | int n =>
          dsimp only at counted
          split at counted
          · cases counted
          · rename_i nonnegative
            cases counted
            cases done
            rw [Int64.lt_iff_toInt_lt] at nonnegative
            exact .first evaluated (Int.not_lt.mp nonnegative)
      | bool | text => cases counted

/-- What a query answers for some of its rows, if it answers for all of them. -/
theorem project_rows {items : List SelectItem} {shapes : List Shape} {cut : List Frame}
    {answer bare : Rowset} (among : ∀ row ∈ cut, row ∈ rows)
    (done : project outer items ⟨shapes, cut⟩ = .ok answer)
    (all : project outer items ⟨shapes, rows⟩ = .ok bare) :
    answer.columns = bare.columns ∧ ∃ values : Frame → List Value,
      bare.rows = rows.map values ∧ answer.rows = cut.map values := by
  obtain ⟨values, bareRows, parts⟩ := exists_project all
  rw [parts cut among] at done
  cases done
  exact ⟨rfl, values, bareRows, rfl⟩

/-- The rows of a query that its filter keeps, in the order of its sources. -/
def Query.kept (db : Database) (outer : Env) (query : Query) : Except Fault (List Frame) := do
  filterRows outer query.filter (← query.joined db outer).rows

/-- The query without its order and its limit. -/
def Query.unsorted (query : Query) : Query := { query with order := [], limit := none }

/-- How the answer of a query comes about from the rows that its filter keeps and from their keys. -/
structure Query.Sorts (db : Database) (outer : Env) (query : Query) (answer : Rowset)
    (rows : List Frame) (key : Frame → List Value) : Prop where
  kept : query.kept db outer = .ok rows
  keys : ∀ row ∈ rows, sortKeys (row :: outer) query.order = .ok (key row)
  /-- Of the values that one term has, those that are not null are of one kind. -/
  alike : ∀ a ∈ rows, ∀ b ∈ rows, List.Forall₂ Value.Alike (key a) (key b)
  /-- The order of two keys is decided from either side. -/
  total : ∀ a ∈ rows, ∀ b ∈ rows,
    sortOrder query.order (key b) (key a) = (sortOrder query.order (key a) (key b)).swap
  trans : ∀ a ∈ rows, ∀ b ∈ rows, ∀ c ∈ rows, (sortOrder query.order (key a) (key b)).isLE →
    (sortOrder query.order (key b) (key c)).isLE → (sortOrder query.order (key a) (key c)).isLE
  /-- The answer has what the query has for its rows without order and limit, sorted and cut. -/
  sorted : ∀ bare, query.unsorted.run db outer false = .ok bare →
    answer.columns = bare.columns ∧
    ∃ (values : Frame → List Value) (places : List (Frame × Nat)),
      bare.rows = rows.map values ∧ places.Perm rows.zipIdx ∧
      (places.Pairwise fun a b => KeysBefore query.order (key a.1) (key b.1) ∨
        key a.1 = key b.1 ∧ a.2 < b.2) ∧
      Leaves outer (places.map fun place => values place.1) query.limit answer.rows

theorem Query.run_sorts {answer : Rowset} (rectangular : db.Rectangular) (uniform : db.Uniform)
    (done : query.run db outer false = .ok answer) :
    ∃ rows key, query.Sorts db outer answer rows key := by
  rw [Query.run_eq] at done
  obtain ⟨joined, extended, done⟩ := bind_eq_ok.mp done
  obtain ⟨rows, filtered, done⟩ := bind_eq_ok.mp done
  obtain ⟨_, ordered, done⟩ := bind_eq_ok.mp done
  obtain ⟨key, keys, rfl⟩ := sortRows_keys ordered
  obtain ⟨cut, limited, done⟩ := bind_eq_ok.mp done
  have kept : query.kept db outer = .ok rows := by
    rw [Query.kept, extended]
    exact filtered
  have near : outer.Alike outer := outer.alike_refl
  have frames : joined.Alike joined := query.joined_alike rectangular uniform near extended extended
  have present := mem_of_mem_filterRows filtered
  have alike : ∀ a ∈ rows, ∀ b ∈ rows, List.Forall₂ Value.Alike (key a) (key b) := by
    intro a first b second
    exact sortKeys_alike (.cons (frames a (present a first) b (present b second)) near)
      (keys a first) (keys b second)
  have width : ∀ row ∈ rows, (key row).length = query.order.length :=
    fun row member => (forall₂_of_mapM (keys row member)).length_eq.symm
  have trans : ∀ a ∈ rows, ∀ b ∈ rows, ∀ c ∈ rows, (sortOrder query.order (key a) (key b)).isLE →
      (sortOrder query.order (key b) (key c)).isLE → (sortOrder query.order (key a) (key c)).isLE :=
    fun a first b second c third => sortOrder_trans (width a first) (width b second)
      (alike a first b second) (alike b second c third) (alike a first c third)
  refine ⟨rows, key, kept, keys, alike, fun _ _ _ _ => sortOrder_swap _ _ _, trans, ?_⟩
  intro bare all
  have all : project outer query.items ⟨joined.shapes, rows⟩ = .ok bare := by
    rw [Query.run_eq, show query.unsorted.joined db outer = .ok joined from extended, ok_bind] at all
    simpa [Query.unsorted, filtered, sortRows_nil, limitRows] using all
  have among : ∀ row ∈ cut, row ∈ rows :=
    fun row member => List.mem_mergeSort.mp (mem_of_mem_limitRows limited row member)
  obtain ⟨columns, values, bareRows, answerRows⟩ := project_rows among done all
  obtain ⟨places, sorted, perm, ordered⟩ :=
    exists_places trans fun a _ b _ => sortOrder_total query.order (key a) (key b)
  refine ⟨columns, values, places, bareRows, perm, ordered.imp_of_mem ?_, ?_⟩
  · intro a b first second before
    have first : a.1 ∈ rows := List.fst_mem_of_mem_zipIdx (perm.mem_iff.mp first)
    have second : b.1 ∈ rows := List.fst_mem_of_mem_zipIdx (perm.mem_iff.mp second)
    rcases (isLE_sortOrder (width _ first) (alike _ first _ second)).mp before.1 with less | same
    · exact .inl less
    · have back := (isLE_sortOrder (width _ second) (alike _ second _ first)).mpr (.inr same.symm)
      exact .inr ⟨same, before.2 back⟩
  · have cut := (limitRows_leaves limited).map values
    rw [← sorted, List.map_map, ← answerRows] at cut
    exact cut

namespace Engine

/-- Answers of an engine are sorted. Whatever it has been asked to do, and whatever a query that succeeds
reads: each column of the answer and each term of the order has nulls and values of one kind, so that the
comparison is an order on the keys, and the answer has the rows of the query without its order and its
limit, sorted by their keys, rows with equal keys in the order of the sources, up to the limit. -/
theorem answers_sorted (operations : List Operation) {query : Query} {outer : Env} {answer : Rowset}
    (done : query.run (Engine.new.after operations).store.database outer false = .ok answer) :
    answer.Uniform ∧
      ∃ rows key, query.Sorts (Engine.new.after operations).store.database outer answer rows key := by
  have sound := after_sound new_sound operations
  exact ⟨query.run_alike sound.rectangular sound.uniform outer.alike_refl done done,
    Query.run_sorts sound.rectangular sound.uniform done⟩

end Engine

/-!
Scores of a game, one of them unknown and two of them equal, and the three that come first in descending
order.
-/

namespace Scores

def table : Table :=
  ⟨"scores", [⟨"id", .integer 8, false, true, true⟩, ⟨"points", .integer 8, true, false, false⟩]⟩

def ref : TableRef := .table "scores" none

def score (points : Value) : Operation := .exec (.insert ⟨ref, ["points"], [.const points], false⟩)

def operations : List Operation :=
  [.reset [table], score (.int 3), score .null, score (.int 5), score (.int 5)]

def best : Query where
  items := [.expr (.column (ref.column "id")), .expr (.column (ref.column "points"))]
  source := .table ref
  joins := []
  filter := none
  order := [.desc (.column (ref.column "points"))]
  limit := some (.const (.int 3))

def scores : Database := (Engine.new.after operations).store.database

def answer : Rowset :=
  ⟨["id", "points"], [[.int 2, .null], [.int 3, .int 5], [.int 4, .int 5]]⟩

theorem answers_sorted_best : best.run scores [] false = .ok answer ∧
    (∃ bare, best.unsorted.run scores [] false = .ok bare ∧ bare.rows.length = 4) ∧
    ∃ rows key, best.Sorts scores [] answer rows key := by
  have done : best.run scores [] false = .ok answer := by cbv
  have bare : ∃ bare, best.unsorted.run scores [] false = .ok bare ∧ bare.rows.length = 4 := by
    refine ⟨⟨["id", "points"], [[.int 1, .int 3], [.int 2, .null], [.int 3, .int 5], [.int 4, .int 5]]⟩, ?_⟩
    cbv
  exact ⟨done, bare, (Engine.answers_sorted operations done).2⟩

end Scores

end Relata
