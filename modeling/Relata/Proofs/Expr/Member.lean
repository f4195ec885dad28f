import Relata.Proofs.Expr.Kleene

/-!
Membership in a list. A value is in a list if it equals one of the items, and it is unknown whether it is as long
as none of them is known to be equal and one of the two sides of an equality is null. So IN is the OR of the
equalities, and what is kept for not being in a list is known to differ from every item.
-/

namespace Relata

theorem Truth.or_eq_false {a b : Truth} : a.or b = some false ↔ a = some false ∧ b = some false := by
  rcases a with _ | _ | _ <;> rcases b with _ | _ | _ <;> decide

theorem Truth.not_eq_true {t : Truth} : t.not = some true ↔ t = some false := by
  rcases t with _ | _ | _ <;> decide

namespace Connective

variable {ts : List Truth}

theorem worth_or_eq_true : Connective.or.worth ts = some true ↔ some true ∈ ts := worth_eq_decisive

theorem worth_or_eq_false : Connective.or.worth ts = some false ↔ ∀ t ∈ ts, t = some false := by
  induction ts with
  | nil => simp [junction, Junction.any]
  | cons t rest ih =>
      rw [worth_cons, List.forall_mem_cons, ← ih]
      exact Truth.or_eq_false

end Connective

section Equality

variable {u v : Value}

@[simp] theorem Value.equals_null_left (v : Value) : Value.null.equals v = none := rfl

@[simp] theorem Value.equals_null_right (v : Value) : v.equals .null = none := by
  simp [Value.equals]

theorem Value.equals_eq (first : u ≠ .null) (second : v ≠ .null) :
    u.equals v = some (u == v) := by
  cases u <;> cases v <;> simp_all [Value.equals, Value.isNull, Value.order?]

theorem Value.equals_eq_true : v.equals u = some true ↔ v ≠ .null ∧ u = v := by
  by_cases absent : v = .null
  · simp [absent]
  by_cases missing : u = .null
  · subst missing
    simpa using fun _ same => absent (Eq.symm same)
  · rw [Value.equals_eq absent missing]
    simpa [absent] using eq_comm

theorem Value.equals_eq_false : v.equals u = some false ↔ v ≠ .null ∧ u ≠ .null ∧ u ≠ v := by
  by_cases absent : v = .null
  · simp [absent]
  by_cases missing : u = .null
  · simp [missing]
  · rw [Value.equals_eq absent missing]
    simpa [absent, missing] using not_congr eq_comm

/-- Between values of one kind, and next to a null, the comparison for equality has an answer. -/
theorem Comparison.apply_eq (comparable : u = .null ∨ v = .null ∨ u.kind = v.kind) :
    Comparison.eq.apply u v = .ok (u.equals v) := by
  rw [Comparison.apply, Value.equals]
  by_cases absent : u.isNull ∨ v.isNull
  · rw [if_pos absent, if_pos absent]
  · have present : u ≠ .null ∧ v ≠ .null := by simpa using absent
    have alike : u.kind = v.kind := by simpa [present.1, present.2] using comparable
    obtain ⟨order, ordered⟩ :=
      Option.isSome_iff_exists.mp (Value.order?_isSome_iff.mpr ⟨present.1, alike⟩)
    rw [if_neg absent, if_neg absent, ordered]
    cases order <;> rfl

end Equality

section Items

variable {env : Env} {x : Expr} {items : List Expr} {v : Value} {cell : Expr → Value}

theorem evalMember_of_each (each : ∀ item ∈ items, item.eval env = .ok (cell item)) :
    evalMember env v items = .ok (Connective.or.worth (items.map fun item => v.equals (cell item))) := by
  induction items with
  | nil => rfl
  | cons item rest ih =>
      rw [evalMember, each item List.mem_cons_self, ok_bind,
        ih fun other member => each other (List.mem_cons_of_mem _ member)]
      exact eitherTruth_ok _ _

/-- Next to a null every equality is unknown, and there is one for each item. -/
theorem worth_equals_null (items : List Expr) :
    (if items.isEmpty then Value.bool false else Value.null) =
      (Connective.or.worth (items.map fun item => Value.null.equals (cell item))).value := by
  cases items with
  | nil => rfl
  | cons item rest =>
      have unknown : Connective.or.worth ((item :: rest).map fun item => Value.null.equals (cell item)) =
          Connective.or.worth [none] := Connective.worth_congr (by simp)
      rw [unknown]
      rfl

theorem worth_equals_eq_true :
    Connective.or.worth (items.map fun item => v.equals (cell item)) = some true ↔
      v ≠ .null ∧ ∃ item ∈ items, cell item = v := by
  rw [Connective.worth_or_eq_true, List.mem_map]
  constructor
  · rintro ⟨item, member, equal⟩
    obtain ⟨present, same⟩ := Value.equals_eq_true.mp equal
    exact ⟨present, item, member, same⟩
  · rintro ⟨present, item, member, same⟩
    exact ⟨item, member, Value.equals_eq_true.mpr ⟨present, same⟩⟩

theorem worth_equals_eq_false :
    Connective.or.worth (items.map fun item => v.equals (cell item)) = some false ↔
      items = [] ∨ v ≠ .null ∧ ∀ item ∈ items, cell item ≠ .null ∧ cell item ≠ v := by
  rw [Connective.worth_or_eq_false, List.forall_mem_map]
  constructor
  · intro differ
    by_cases none : items = []
    · exact .inl none
    · obtain ⟨first, among⟩ := List.exists_mem_of_ne_nil _ none
      refine .inr ⟨(Value.equals_eq_false.mp (differ first among)).1, fun item member => ?_⟩
      exact (Value.equals_eq_false.mp (differ item member)).2
  · rintro (rfl | ⟨present, differ⟩) item member
    · cases member
    · exact Value.equals_eq_false.mpr ⟨present, differ item member⟩

/-- The value of IN is that of the equalities together, whatever the kinds of the items. -/
theorem Expr.inList_of_each (evaluated : x.eval env = .ok v)
    (each : ∀ item ∈ items, item.eval env = .ok (cell item)) :
    (Expr.inList x items).eval env =
      .ok (Connective.or.worth (items.map fun item => v.equals (cell item))).value := by
  rw [Expr.eval, evaluated, ok_bind]
  by_cases null : v = .null
  · subst null
    rw [← worth_equals_null]
    rfl
  · rw [if_neg (by simpa using null), evalMember_of_each each]
    rfl

/-- The equalities of a value with the items have one value each, if the items can be compared with it. -/
theorem Expr.truth_equality (evaluated : x.eval env = .ok v)
    (each : ∀ item ∈ items, item.eval env = .ok (cell item))
    (comparable : ∀ item ∈ items, v = .null ∨ cell item = .null ∨ v.kind = (cell item).kind) :
    ∀ item ∈ items, (Expr.compare .eq x item).truth env = .ok (v.equals (cell item)) := by
  intro item member
  rw [Expr.truth_eq_ok, Expr.eval, evaluated, ok_bind, each item member, ok_bind,
    Comparison.apply_eq (comparable item member)]
  rfl

/-- IN is the OR of the equalities with the items, for items that are null or of the kind of the value that is
sought and however often they are there; without items both are false. It is true if an item has the value, and a
row is kept for not being in the list only if its value is known, and is known to differ from every item. -/
theorem Expr.inList_means_equalities (evaluated : x.eval env = .ok v)
    (each : ∀ item ∈ items, ∃ u, item.eval env = .ok u ∧ (v = .null ∨ u = .null ∨ v.kind = u.kind)) :
    ∃ t : Truth,
      (Expr.inList x items).eval env = .ok t.value ∧
      (Expr.or (items.map (.compare .eq x))).eval env = .ok t.value ∧
      (items = [] → t = some false) ∧
      (t = some true ↔ v ≠ .null ∧ ∃ item ∈ items, item.eval env = .ok v) ∧
      ((Expr.inList x items).not.keeps env = .ok true ↔
        items = [] ∨ v ≠ .null ∧
          ∀ item ∈ items, ∃ u, item.eval env = .ok u ∧ u ≠ .null ∧ u ≠ v) := by
  let cell : Expr → Value := fun item => (item.eval env).toOption.getD .null
  have answer : ∀ {item u}, item.eval env = .ok u → cell item = u :=
    fun answered => by simp [cell, answered, Except.toOption]
  have known : ∀ item ∈ items, item.eval env = .ok (cell item) := by
    intro item member
    obtain ⟨u, answered, _⟩ := each item member
    rw [answer answered, answered]
  have comparable : ∀ item ∈ items, v = .null ∨ cell item = .null ∨ v.kind = (cell item).kind := by
    intro item member
    obtain ⟨u, answered, comparable⟩ := each item member
    rwa [answer answered]
  have equalities : (Connective.or.expr (items.map (.compare .eq x))).truth env =
      .ok (Connective.or.worth (items.map fun item => v.equals (cell item))) :=
    Connective.truth_map (truth_equality evaluated known comparable)
  have sought := inList_of_each evaluated known
  have outside : (Expr.inList x items).not.truth env =
      .ok (Connective.or.worth (items.map fun item => v.equals (cell item))).not := by
    rw [truth_not, truth_eq_ok.mpr sought]
    rfl
  refine ⟨_, sought, truth_eq_ok.mp equalities, ?_, ?_, ?_⟩
  · rintro rfl
    rfl
  · rw [worth_equals_eq_true]
    refine and_congr_right fun _ => exists_congr fun item => and_congr_right fun member => ?_
    rw [known item member, Except.ok.injEq]
  · rw [keeps_eq_true, outside, Except.ok.injEq, Truth.not_eq_true, worth_equals_eq_false]
    refine or_congr_right (and_congr_right fun _ => forall₂_congr fun item member => ?_)
    simp [known item member]

end Items

namespace Sample

/-- `"notes"."id"`. -/
def noteId : Expr := .column ⟨.table "notes" none, "id"⟩

/-- Seven, the owner of a note, and seven again. -/
def sevens : List Expr := [.const (.int 7), .column ⟨.table "notes" none, "owner_code"⟩, .const (.int 7)]

/-- Four differs from seven, but whether it differs from a null is unknown, so neither being in the list nor not
being in it keeps the note. -/
theorem inList_means_equalities_ownerless :
    noteId.eval ownerless = .ok (.int 4) ∧
    (Expr.inList noteId sevens).eval ownerless = .ok .null ∧
    (Expr.or (sevens.map (.compare .eq noteId))).eval ownerless = .ok .null ∧
    (Expr.inList noteId sevens).not.keeps ownerless ≠ .ok true := by
  have four : noteId.eval ownerless = .ok (.int 4) := by cbv
  have owner : (Expr.column ⟨.table "notes" none, "owner_code"⟩).eval ownerless = .ok .null := by cbv
  have unknown : (Expr.inList noteId sevens).eval ownerless = .ok .null := by cbv
  have items : ∀ item ∈ sevens, ∃ u, item.eval ownerless = .ok u ∧
      (Value.int 4 = .null ∨ u = .null ∨ (Value.int 4).kind = u.kind) := by
    have seven : ∃ u, (Expr.const (.int 7)).eval ownerless = .ok u ∧
        (Value.int 4 = .null ∨ u = .null ∨ (Value.int 4).kind = u.kind) := ⟨.int 7, rfl, .inr (.inr rfl)⟩
    simpa only [sevens, List.forall_mem_cons, List.not_mem_nil, IsEmpty.forall_iff, implies_true, and_true]
      using ⟨seven, ⟨.null, owner, .inr (.inl rfl)⟩, seven⟩
  obtain ⟨t, within, either, -, -, outside⟩ := Expr.inList_means_equalities four items
  have value : t.value = .null := Except.ok.inj (within.symm.trans unknown)
  refine ⟨four, unknown, value ▸ either, fun kept => ?_⟩
  rcases outside.mp kept with none | ⟨_, differ⟩
  · cases none
  · obtain ⟨u, answered, present, _⟩ := differ _ (List.mem_cons_of_mem _ List.mem_cons_self)
    exact present (Except.ok.inj (answered.symm.trans owner))

end Sample

end Relata
