import Relata.Eval.Query
import Relata.Proofs.Expr.Junction

/-!
The stages of a query, row by row. Filtering, sorting and cutting look at one row at a time, so each
stage is known once it is known for every row.
-/

namespace Relata

variable {db : Database} {outer other : Env} {rows : List Frame}

section Filter

variable {condition condition' : Expr}

theorem keepRows_congr
    (same : ∀ row ∈ rows, condition.keeps (row :: outer) = condition'.keeps (row :: other)) :
    keepRows outer condition rows = keepRows other condition' rows := by
  induction rows with
  | nil => rfl
  | cons row rest ih =>
      rw [keepRows, keepRows, same row (by simp), ih fun row member => same row (by simp [member])]

theorem keepRows_eq_ok {p : Frame → Bool}
    (each : ∀ row ∈ rows, condition.keeps (row :: outer) = .ok (p row)) :
    keepRows outer condition rows = .ok (rows.filter p) := by
  induction rows with
  | nil => rfl
  | cons row rest ih =>
      rw [keepRows, each row (by simp), ih fun row member => each row (by simp [member]),
        List.filter_cons]
      rfl

theorem keepRows_true : keepRows outer (.const (.bool true)) rows = .ok rows := by
  rw [keepRows_eq_ok (p := fun _ => true) fun _ _ => rfl, List.filter_true]

theorem keeps_of_mem_keepRows {kept : List Frame} (done : keepRows outer condition rows = .ok kept) :
    ∀ row ∈ kept, row ∈ rows ∧ condition.keeps (row :: outer) = .ok true := by
  induction rows generalizing kept with
  | nil =>
      cases done
      simp
  | cons first rest ih =>
      rw [keepRows] at done
      obtain ⟨keeps, decided, done⟩ := bind_eq_ok.mp done
      obtain ⟨others, remaining, done⟩ := bind_eq_ok.mp done
      cases done
      have before : ∀ row ∈ others, row ∈ first :: rest ∧ condition.keeps (row :: outer) = .ok true :=
        fun row member => ⟨List.mem_cons_of_mem _ (ih remaining row member).1, (ih remaining row member).2⟩
      cases keeps with
      | false => exact before
      | true =>
          intro row member
          rcases List.mem_cons.mp member with rfl | member
          · exact ⟨by simp, decided⟩
          · exact before row member

theorem Expr.exists_truth_of_keeps {env : Env} {e : Expr} {kept : Bool}
    (decided : e.keeps env = .ok kept) : ∃ t : Truth, e.truth env = .ok t ∧ t.keeps = kept := by
  obtain ⟨v, evaluated, decided⟩ := bind_eq_ok.mp decided
  cases v with
  | bool b =>
      cases decided
      exact ⟨some kept, Expr.truth_eq_ok.mpr evaluated, rfl⟩
  | null =>
      cases decided
      exact ⟨none, Expr.truth_eq_ok.mpr evaluated, rfl⟩
  | int n => cases decided
  | text s => cases decided

theorem exists_truth_of_keepRows {kept : List Frame}
    (done : keepRows outer condition rows = .ok kept) :
    ∀ row ∈ rows, ∃ t, condition.truth (row :: outer) = .ok t := by
  induction rows generalizing kept with
  | nil => simp
  | cons first rest ih =>
      rw [keepRows] at done
      obtain ⟨keeps, decided, done⟩ := bind_eq_ok.mp done
      obtain ⟨others, remaining, done⟩ := bind_eq_ok.mp done
      obtain ⟨t, truth, _⟩ := Expr.exists_truth_of_keeps decided
      intro row member
      rcases List.mem_cons.mp member with rfl | member
      · exact ⟨t, truth⟩
      · exact ih remaining row member

/-- The truth value of a filter for a row, unknown where it fails. -/
def truthOf (outer : Env) (filter : Option Expr) (row : Frame) : Truth :=
  match filterTruth (row :: outer) filter with
  | .ok t => t
  | .error _ => none

theorem filterTruth_of_filterRows {filter : Option Expr} {kept : List Frame}
    (done : filterRows outer filter rows = .ok kept) :
    ∀ row ∈ rows, filterTruth (row :: outer) filter = .ok (truthOf outer filter row) := by
  intro row member
  cases filter with
  | none => rfl
  | some condition =>
      obtain ⟨t, truth⟩ := exists_truth_of_keepRows done row member
      rw [truthOf, filterTruth, truth]

theorem filterRows_eq_filter {filter : Option Expr} {kept : List Frame}
    (done : filterRows outer filter rows = .ok kept) :
    kept = rows.filter fun row => (truthOf outer filter row).keeps := by
  have decided := filterTruth_of_filterRows done
  cases filter with
  | none =>
      cases done
      exact (List.filter_true _).symm
  | some condition =>
      rw [filterRows, keepRows_eq_ok fun row member => Expr.keeps_of_truth (decided row member)] at done
      cases done
      rfl

/-- One more condition keeps fewer of the rows that a filter keeps. -/
theorem filterRows_addCondition {filter : Option Expr} {kept : List Frame} {also : Frame → Truth}
    (done : filterRows outer filter rows = .ok kept)
    (decides : ∀ row ∈ rows, condition.truth (row :: outer) = .ok (also row)) :
    filterRows outer (some (addCondition filter condition)) rows =
      .ok (kept.filter fun row => (also row).keeps) := by
  have both : ∀ row ∈ rows, (addCondition filter condition).keeps (row :: outer) =
      .ok ((also row).keeps && (truthOf outer filter row).keeps) := by
    intro row member
    have truth : (addCondition filter condition).truth (row :: outer) =
        .ok ((truthOf outer filter row).and (also row)) := by
      rw [truth_addCondition, filterTruth_of_filterRows done row member, decides row member,
        bothTruths_ok]
    rw [Expr.keeps_of_truth truth, Truth.keeps_and, Bool.and_comm]
  rw [filterRows, keepRows_eq_ok both, filterRows_eq_filter done, List.filter_filter]

end Filter

section Order

variable {terms : List OrderTerm}

theorem sortRows_congr
    (same : ∀ row ∈ rows, sortKeys (row :: outer) terms = sortKeys (row :: other) terms) :
    sortRows outer terms rows = sortRows other terms rows := by
  rw [sortRows, sortRows, mapM_congr fun row member => by rw [same row member]]

theorem sortRows_eq_ok (keys : Frame → List Value)
    (each : ∀ row ∈ rows, sortKeys (row :: outer) terms = .ok (keys row)) :
    sortRows outer terms rows =
      .ok (rows.mergeSort fun a b => (sortOrder terms (keys a) (keys b)).isLE) := by
  have keyed : (rows.mapM fun row => do return (← sortKeys (row :: outer) terms, row)) =
      Except.ok (ε := Fault) (rows.map fun row => (keys row, row)) :=
    mapM_eq_ok_map fun row member => by rw [each row member]; rfl
  rw [sortRows, keyed, ok_bind,
    ← List.map_mergeSort (r := fun a b => (sortOrder terms (keys a) (keys b)).isLE)
      fun a _ b _ => rfl,
    List.map_map]
  exact congrArg Except.ok (List.map_id _)

/-- A sorted list of rows is sorted by keys that all of them have. -/
theorem sortRows_keys {sorted : List Frame}
    (done : sortRows outer terms rows = .ok sorted) :
    ∃ key : Frame → List Value, (∀ row ∈ rows, sortKeys (row :: outer) terms = .ok (key row)) ∧
      sorted = rows.mergeSort fun a b => (sortOrder terms (key a) (key b)).isLE := by
  obtain ⟨keyed, computed, _⟩ := bind_eq_ok.mp done
  obtain ⟨value, each, _⟩ := exists_map_of_mapM computed
  have keys : ∀ row ∈ rows, sortKeys (row :: outer) terms = .ok (value row).1 := by
    intro row member
    obtain ⟨key, answered, paired⟩ := bind_eq_ok.mp (each row member)
    rw [answered, ← Except.ok.inj paired]
  rw [sortRows_eq_ok (fun row => (value row).1) keys] at done
  exact ⟨_, keys, (Except.ok.inj done).symm⟩

theorem sortRows_nil : sortRows outer [] rows = .ok rows := by
  rw [sortRows_eq_ok (fun _ => []) fun _ _ => rfl]
  exact congrArg Except.ok
    (List.mergeSort_of_pairwise (List.pairwise_iff_forall_sublist.mpr fun _ => rfl))

theorem sortRows_empty : sortRows outer terms [] = .ok [] :=
  (sortRows_eq_ok (fun _ => []) fun _ absent => absurd absent List.not_mem_nil).trans
    (congrArg Except.ok List.mergeSort_nil)

end Order

section Limit

/-- The first items of a list, as many as a limit allows. A limit past the largest integer counts as
the largest integer. -/
def cutTo {α : Type} (limit : Option Nat) (items : List α) : List α :=
  match limit with
  | none => items
  | some count => items.take (min count 9223372036854775807)

@[simp] theorem cutTo_nil {α : Type} (limit : Option Nat) : cutTo limit ([] : List α) = [] := by
  cases limit <;> simp [cutTo]

theorem cutTo_of_length_eq {α β : Type} {limit : Option Nat} {items : List α} {answers : List β}
    (same : (cutTo limit items).length = answers.length) : cutTo limit answers = answers := by
  cases limit with
  | none => rfl
  | some count =>
      rw [cutTo, List.length_take] at same
      rw [cutTo, List.take_of_length_le (by omega)]

theorem cutTo_map {α β : Type} (limit : Option Nat) (f : α → β) (items : List α) :
    cutTo limit (items.map f) = (cutTo limit items).map f := by
  cases limit <;> simp [cutTo]

theorem cutTo_cutTo {α : Type} {limit : Option Nat} {count : Nat} (fewer : ∀ most ∈ limit, count ≤ most)
    (items : List α) : cutTo (some count) (cutTo limit items) = cutTo (some count) items := by
  cases limit with
  | none => rfl
  | some most =>
      have less : count ≤ most := fewer most rfl
      rw [cutTo, cutTo, cutTo, List.take_take]
      congr 1
      omega

theorem limitCount_ofNat (env : Env) (count : Nat) :
    limitCount env (.const (.ofNat count)) = .ok (some (min count 9223372036854775807)) := by
  have small : min count 9223372036854775807 < 2 ^ 63 := by omega
  have value : (Int64.ofNat (min count 9223372036854775807)).toInt =
      ((min count 9223372036854775807 : Nat) : Int) := Int64.toInt_ofNat_of_lt small
  have nonnegative : ¬ Int64.ofNat (min count 9223372036854775807) < 0 := by
    rw [Int64.lt_iff_toInt_lt, value]
    exact Int.not_lt.mpr (Int.natCast_nonneg _)
  simp only [limitCount, Expr.eval, Value.ofNat, ok_bind, if_neg nonnegative, value, Int.toNat_natCast]
  rfl

theorem limitRows_count (env : Env) (limit : Option Nat) :
    limitRows env (limit.map fun count => .const (.ofNat count)) rows = .ok (cutTo limit rows) := by
  cases limit with
  | none => rfl
  | some count =>
      rw [Option.map_some, limitRows, limitCount_ofNat]
      rfl

end Limit

end Relata
