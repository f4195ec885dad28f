import Relata.Proofs.Expr.Member
import Relata.Proofs.Query.Cells
import Relata.Proofs.Store.Typed

/-!
Values of one column. Two of them, if neither is null, are of one kind, so they can be compared, and
the order between them is a total order.
-/

namespace Relata

variable {column : Column} {u v w : Value}

theorem Column.Takes.kind_eq (left : column.Takes u) (right : column.Takes v) (first : u ≠ .null)
    (second : v ≠ .null) : u.kind = v.kind := by
  have typed := left.1
  have same := right.1
  cases type : column.type <;> cases u <;> cases v <;> simp_all [ColumnType.accepts, Value.kind]

theorem Column.Takes.order?_eq (left : column.Takes u) (right : column.Takes v)
    (first : u ≠ .null) (second : v ≠ .null) : ∃ order, u.order? v = some order :=
  Option.isSome_iff_exists.mp
    (Value.order?_isSome_iff.mpr ⟨first, left.kind_eq right first second⟩)

theorem takes_cell {columns : List Column} {row : List Value} {name : String}
    (typed : List.Forall₂ Column.Takes columns row)
    (found : columns.find? (·.name == name) = some column) :
    column.Takes (cellOf (columns.map Column.name) row name) := by
  induction typed with
  | nil => cases found
  | @cons other value others values first _ ih =>
      rw [List.map_cons, cellOf]
      by_cases here : other.name = name
      · rw [List.find?_cons_of_pos (by simpa using here)] at found
        cases found
        rw [if_pos here]
        exact first
      · rw [List.find?_cons_of_neg (by simpa using here)] at found
        rw [if_neg here]
        exact ih found

theorem Column.Takes.apply_eq (left : column.Takes u) (right : column.Takes v) :
    Comparison.eq.apply u v = .ok (u.equals v) := by
  refine Comparison.apply_eq ?_
  by_cases first : u = .null
  · exact .inl first
  by_cases second : v = .null
  · exact .inr (.inl second)
  · exact .inr (.inr (left.kind_eq right first second))

theorem Value.keeps_equals (present : v ≠ .null) : (u.equals v).keeps = (u == v) := by
  by_cases absent : u = .null
  · subst absent
    cases v <;> simp_all [Value.equals, Value.isNull, Truth.keeps]
  · rw [Value.equals_eq absent present, Truth.keeps]

namespace Value

theorem order?_swap (u v : Value) : v.order? u = (u.order? v).map Ordering.swap := by
  cases u <;> cases v <;> simp only [order?, Option.map_none, Option.map_some, Option.some.injEq]
  all_goals exact Std.OrientedOrd.eq_swap

theorem eq_of_order? (same : u.order? v = some .eq) : u = v := by
  cases u <;> cases v <;> simp_all [order?]

theorem order?_trans {first second : Ordering} (left : u.order? v = some first)
    (right : v.order? w = some second) (below : first.isLE) (above : second.isLE) :
    ∃ order, u.order? w = some order ∧ order.isLE := by
  cases u <;> cases v <;> cases w <;> simp [order?] at left right ⊢
  all_goals
    subst left right
    exact Std.TransCmp.isLE_trans below above

theorem lt_trans (left : u.order? v = some .lt) (right : v.order? w = some .lt) :
    u.order? w = some .lt := by
  cases u <;> cases v <;> cases w <;> simp [order?] at left right ⊢
  all_goals exact Std.TransCmp.lt_trans left right

theorem lt_asymm (left : u.order? v = some .lt) : v.order? u ≠ some .lt := by
  rw [order?_swap u v, left]
  simp

end Value

theorem Column.Takes.compare_eq (left : column.Takes u) (right : column.Takes v) (op : Comparison) :
    op.apply u v = .ok ((u.order? v).map op.holds) := by
  rw [Comparison.apply]
  by_cases absent : u.isNull ∨ v.isNull
  · rw [if_pos absent]
    rcases absent with null | null
    · rw [Value.isNull_iff.mp null]
      rfl
    · rw [Value.isNull_iff.mp null]
      cases u <;> rfl
  · have present : u ≠ .null ∧ v ≠ .null := by simpa using absent
    obtain ⟨order, ordered⟩ := left.order?_eq right present.1 present.2
    rw [if_neg absent, ordered]
    rfl

section

variable {α : Type} {key : α → Value} {items : List α}

/-- An order on the members of a list is enough to sort it. -/
theorem pairwise_mergeSort_of_mem {le : α → α → Bool}
    (trans : ∀ a ∈ items, ∀ b ∈ items, ∀ c ∈ items, le a b = true → le b c = true → le a c = true)
    (total : ∀ a ∈ items, ∀ b ∈ items, (le a b || le b a) = true) :
    (items.mergeSort le).Pairwise fun a b => le a b = true := by
  have members : (items.attach.mergeSort fun a b => le a.1 b.1).map Subtype.val = items.mergeSort le := by
    rw [List.map_mergeSort (s := le) fun _ _ _ _ => rfl, List.attach_map_subtype_val]
  have transitive : ∀ a b c : { a // a ∈ items }, le a.1 b.1 = true → le b.1 c.1 = true →
      le a.1 c.1 = true := fun a b c => trans a a.2 b b.2 c c.2
  have sorted : (items.attach.mergeSort fun a b => le a.1 b.1).Pairwise fun a b => le a.1 b.1 = true :=
    List.pairwise_mergeSort transitive (fun a b => total a a.2 b b.2) _
  rw [← members, List.pairwise_map]
  exact sorted

/-- Whether the key of the first is not after that of the second, in ascending order. -/
def keyLE (key : α → Value) (a b : α) : Bool :=
  (Value.sortOrder (some .asc) (key a) (key b)).isLE

theorem keyLE_iff {a b : α} (left : column.Takes (key a)) (right : column.Takes (key b))
    (first : key a ≠ .null) (second : key b ≠ .null) :
    keyLE key a b = true ↔ ∃ order, (key a).order? (key b) = some order ∧ order.isLE := by
  obtain ⟨order, ordered⟩ := left.order?_eq right first second
  have none : ∀ {v : Value}, v ≠ .null → v.isNull = false := fun present =>
    Bool.eq_false_iff.mpr fun null => present (Value.isNull_iff.mp null)
  have compared : Value.sortOrder (some .asc) (key a) (key b) = order := by
    rw [Value.sortOrder, none first, none second, ordered]
    rfl
  rw [keyLE, compared, ordered]
  simp

/-- Sorted by distinct keys of one column, every key is before the next. -/
theorem pairwise_mergeSort_keyLE (typed : ∀ a ∈ items, column.Takes (key a))
    (nonnull : ∀ a ∈ items, key a ≠ .null) (once : (items.map key).Nodup) :
    (items.mergeSort (keyLE key)).Pairwise fun a b => (key a).order? (key b) = some .lt := by
  have le : ∀ a ∈ items, ∀ b ∈ items, (keyLE key a b = true ↔
      ∃ order, (key a).order? (key b) = some order ∧ order.isLE) := fun a inside b inside' =>
    keyLE_iff (typed a inside) (typed b inside') (nonnull a inside) (nonnull b inside')
  have trans : ∀ a ∈ items, ∀ b ∈ items, ∀ c ∈ items, keyLE key a b = true → keyLE key b c = true →
      keyLE key a c = true := by
    intro a first b second c third below above
    obtain ⟨_, left, below⟩ := (le a first b second).mp below
    obtain ⟨_, right, above⟩ := (le b second c third).mp above
    exact (le a first c third).mpr (Value.order?_trans left right below above)
  have total : ∀ a ∈ items, ∀ b ∈ items, (keyLE key a b || keyLE key b a) = true := by
    intro a first b second
    obtain ⟨order, ordered⟩ :=
      (typed a first).order?_eq (typed b second) (nonnull a first) (nonnull b second)
    have swapped := Value.order?_swap (key a) (key b)
    rw [ordered] at swapped
    rw [Bool.or_eq_true, le a first b second, le b second a first, ordered, swapped]
    cases order <;> simp
  have sorted := pairwise_mergeSort_of_mem trans total
  have distinct : ((items.mergeSort (keyLE key)).map key).Nodup :=
    ((List.mergeSort_perm items _).map key).nodup_iff.mpr once
  have pairs : (items.mergeSort (keyLE key)).Pairwise fun a b =>
      ∃ order, (key a).order? (key b) = some order ∧ order.isLE :=
    sorted.imp_of_mem fun {a b} first second below =>
      (le a (List.mem_mergeSort.mp first) b (List.mem_mergeSort.mp second)).mp below
  refine (pairs.and (List.pairwise_map.mp distinct)).imp fun {a b} both => ?_
  obtain ⟨⟨order, ordered, below⟩, other⟩ := both
  cases order with
  | lt => exact ordered
  | eq => exact absurd (Value.eq_of_order? ordered) other
  | gt => cases below

/-- Rows may be left out before or after sorting. -/
theorem mergeSort_filter (typed : ∀ a ∈ items, column.Takes (key a))
    (nonnull : ∀ a ∈ items, key a ≠ .null) (once : (items.map key).Nodup) (p : α → Bool) :
    (items.filter p).mergeSort (keyLE key) = (items.mergeSort (keyLE key)).filter p := by
  have fewer : (items.filter p).Sublist items := List.filter_sublist
  have left := pairwise_mergeSort_keyLE (fun a inside => typed a (fewer.subset inside))
    (fun a inside => nonnull a (fewer.subset inside)) (once.sublist (fewer.map key))
  have right := (pairwise_mergeSort_keyLE typed nonnull once).sublist
    (List.filter_sublist (p := p))
  refine List.Perm.eq_of_pairwise (fun a b _ _ below above => ?_) left right ?_
  · exact absurd above (Value.lt_asymm below)
  · exact (List.mergeSort_perm _ _).trans ((List.mergeSort_perm _ _).filter p).symm

end

end Relata
