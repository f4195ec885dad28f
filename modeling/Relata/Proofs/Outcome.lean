import Mathlib.Data.List.Forall2

/-!
Traversals that may fail. A traversal of a list answers for every element, or stops at the first
that has no answer.
-/

namespace Relata

variable {α β γ ε : Type}

theorem bind_eq_ok {result : Except ε α} {next : α → Except ε β} {b : β} :
    (result >>= next) = .ok b ↔ ∃ a, result = .ok a ∧ next a = .ok b := by
  cases result <;> simp [bind, Except.bind]

theorem pure_eq_ok {a b : α} : (pure a : Except ε α) = .ok b ↔ a = b := by
  simp [pure, Except.pure]

@[simp] theorem ok_bind (a : α) (next : α → Except ε β) : (Except.ok a >>= next) = next a := rfl

@[simp] theorem error_bind (e : ε) (next : α → Except ε β) :
    ((Except.error e : Except ε α) >>= next) = .error e := rfl

theorem mapM_congr {f g : α → Except ε β} {items : List α} (same : ∀ a ∈ items, f a = g a) :
    items.mapM f = items.mapM g := by
  induction items with
  | nil => rfl
  | cons a rest ih =>
      rw [List.mapM_cons, List.mapM_cons, same a (by simp),
        ih fun b member => same b (by simp [member])]

theorem mapM_eq_ok_map {f : α → Except ε β} {value : α → β} {items : List α}
    (each : ∀ a ∈ items, f a = .ok (value a)) : items.mapM f = .ok (items.map value) := by
  rw [mapM_congr (g := fun a => pure (value a)) each, List.mapM_pure]
  rfl

/-- A traversal fails as soon as one element fails, and then with the same fault if all elements
that fail do. -/
theorem mapM_eq_error {f : α → Except ε β} {items : List α} {e : ε}
    (each : ∀ a ∈ items, f a = .error e) (some : items ≠ []) : items.mapM f = .error e := by
  cases items with
  | nil => exact absurd rfl some
  | cons a rest => rw [List.mapM_cons, each a (by simp), error_bind]

theorem forall₂_of_mapM {f : α → Except ε β} {items : List α} {answers : List β}
    (done : items.mapM f = .ok answers) :
    List.Forall₂ (fun a b => f a = .ok b) items answers := by
  induction items generalizing answers with
  | nil =>
      cases done
      exact .nil
  | cons a rest ih =>
      rw [List.mapM_cons] at done
      obtain ⟨b, first, done⟩ := bind_eq_ok.mp done
      obtain ⟨others, remaining, done⟩ := bind_eq_ok.mp done
      cases done
      exact .cons first (ih remaining)

theorem exists_of_mem_forall₂ {R : α → β → Prop} {as : List α} {bs : List β}
    (related : List.Forall₂ R as bs) {b : β} (member : b ∈ bs) : ∃ a ∈ as, R a b := by
  induction related with
  | nil => cases member
  | cons first _ ih =>
      rcases List.mem_cons.mp member with rfl | later
      · exact ⟨_, List.mem_cons_self, first⟩
      · obtain ⟨a, among, holds⟩ := ih later
        exact ⟨a, List.mem_cons_of_mem _ among, holds⟩

/-- Two lists that are each related to a third are related to each other. -/
theorem forall₂_of_common {R : α → β → Prop} {S : α → γ → Prop} {T : β → γ → Prop}
    (both : ∀ a b c, R a b → S a c → T b c) {as : List α} {bs : List β} {cs : List γ}
    (left : List.Forall₂ R as bs) (right : List.Forall₂ S as cs) : List.Forall₂ T bs cs := by
  induction left generalizing cs with
  | nil =>
      cases right
      exact .nil
  | cons first _ ih =>
      cases right with
      | cons second rest => exact .cons (both _ _ _ first second) (ih rest)

theorem exists_of_mem_mapM {f : α → Except ε β} {items : List α} {answers : List β}
    (done : items.mapM f = .ok answers) : ∀ b ∈ answers, ∃ a ∈ items, f a = .ok b :=
  fun _ member => exists_of_mem_forall₂ (forall₂_of_mapM done) member

/-- What the answers have in common with their items is the same in the same order. -/
theorem map_eq_of_mapM {f : α → Except ε β} {g : β → γ} {h : α → γ} {items : List α} {answers : List β}
    (done : items.mapM f = .ok answers) (each : ∀ a b, f a = .ok b → g b = h a) :
    answers.map g = items.map h := by
  have same : List.Forall₂ Eq (answers.map g) (items.map h) :=
    List.forall₂_map_left_iff.mpr (List.forall₂_map_right_iff.mpr
      ((forall₂_of_mapM done).imp fun a b answered => each a b answered).flip)
  rwa [List.forall₂_eq_eq_eq] at same

theorem mapM_map_of_mapM {f : α → Except ε β} {g : α → Except ε γ} {view : β → γ} {items : List α}
    {answers : List β} (done : items.mapM f = .ok answers)
    (each : ∀ a b, f a = .ok b → g a = .ok (view b)) : items.mapM g = .ok (answers.map view) := by
  induction items generalizing answers with
  | nil =>
      cases done
      rfl
  | cons a rest ih =>
      rw [List.mapM_cons] at done ⊢
      obtain ⟨b, first, done⟩ := bind_eq_ok.mp done
      obtain ⟨others, remaining, done⟩ := bind_eq_ok.mp done
      cases done
      rw [each a b first, ok_bind, ih remaining]
      rfl

/-- A traversal that succeeds is a map. -/
theorem exists_map_of_mapM [Inhabited β] {f : α → Except ε β} {items : List α} {answers : List β}
    (done : items.mapM f = .ok answers) :
    ∃ value : α → β, (∀ a ∈ items, f a = .ok (value a)) ∧ answers = items.map value := by
  let value a := (f a).toOption.getD default
  have each : ∀ a ∈ items, f a = .ok (value a) := by
    have pairs := forall₂_of_mapM done
    clear done
    induction pairs with
    | nil => simp
    | cons first _ ih =>
        intro a member
        rcases List.mem_cons.mp member with rfl | later
        · simp only [value, first]
          rfl
        · exact ih a later
  rw [mapM_eq_ok_map each] at done
  exact ⟨value, each, (Except.ok.inj done).symm⟩

theorem mapM_flatMap_eq_ok {f : α → List β} {g : β → Except ε γ} {value : α → List γ}
    {items : List α} (each : ∀ a ∈ items, (f a).mapM g = .ok (value a)) :
    (items.flatMap f).mapM g = .ok (items.flatMap value) := by
  induction items with
  | nil => rfl
  | cons a rest ih =>
      rw [List.flatMap_cons, List.mapM_append, each a (by simp), ok_bind,
        ih fun b member => each b (by simp [member]), ok_bind]
      rfl

theorem exists_mapM_eq_ok {f : α → Except ε β} {items : List α}
    (each : ∀ a ∈ items, ∃ b, f a = .ok b) : ∃ answers, items.mapM f = .ok answers := by
  induction items with
  | nil => exact ⟨[], rfl⟩
  | cons a rest ih =>
      obtain ⟨b, first⟩ := each a List.mem_cons_self
      obtain ⟨answers, others⟩ := ih fun c member => each c (List.mem_cons_of_mem _ member)
      refine ⟨b :: answers, ?_⟩
      rw [List.mapM_cons, first, ok_bind, others]
      rfl

theorem mapM_bind_pure (f : α → Except ε β) (g : α → β → γ) (items : List α) :
    (items.mapM fun a => do return g a (← f a)) =
      do return (items.zip (← items.mapM f)).map fun pair => g pair.1 pair.2 := by
  induction items with
  | nil => rfl
  | cons a rest ih =>
      simp only [List.mapM_cons, ih]
      cases f a with
      | error e => rfl
      | ok b => cases rest.mapM f <;> rfl

/-- A traversal whose answers all carry one tag. -/
theorem mapM_tagged (tag : γ) (f : α → Except ε β) (items : List α) :
    (items.mapM fun a => do return (tag, ← f a)) = do return (← items.mapM f).map (Prod.mk tag) := by
  induction items with
  | nil => rfl
  | cons a rest ih =>
      rw [List.mapM_cons, List.mapM_cons, ih]
      cases f a with
      | error e => rfl
      | ok b => cases rest.mapM f <;> rfl

theorem mapM_singletons (f : α → Except ε β) (items : List α) :
    (do return (← items.mapM fun a => do return [← f a]).flatten) = items.mapM f := by
  induction items with
  | nil => rfl
  | cons a rest ih =>
      rw [List.mapM_cons, List.mapM_cons, ← ih]
      cases f a with
      | error e => rfl
      | ok b => cases rest.mapM fun a => do return [← f a] <;> rfl

theorem mapM_bind_eq_ok {f : α → Except ε β} {g : β → Except ε γ} {items : List α} {answers : List γ} :
    (items.mapM fun a => f a >>= g) = .ok answers ↔
      ∃ between, items.mapM f = .ok between ∧ between.mapM g = .ok answers := by
  induction items generalizing answers with
  | nil => exact ⟨fun done => ⟨[], rfl, done⟩, fun ⟨_, first, done⟩ => by cases first; exact done⟩
  | cons a rest ih =>
      simp only [List.mapM_cons, bind_eq_ok, pure_eq_ok]
      constructor
      · rintro ⟨c, ⟨b, first, second⟩, others, done, rfl⟩
        obtain ⟨between, before, after⟩ := ih.mp done
        refine ⟨b :: between, ⟨b, first, between, before, rfl⟩, ?_⟩
        rw [List.mapM_cons, second, ok_bind, after]
        rfl
      · rintro ⟨_, ⟨b, first, between, before, rfl⟩, done⟩
        rw [List.mapM_cons] at done
        obtain ⟨c, second, done⟩ := bind_eq_ok.mp done
        obtain ⟨others, after, done⟩ := bind_eq_ok.mp done
        cases done
        exact ⟨c, ⟨b, first, second⟩, others, ih.mpr ⟨between, before, after⟩, rfl⟩

/-- A traversal that leaves the first part of every item as it is. -/
theorem mapM_second_eq_ok {f : β → Except ε γ} {items : List (α × β)} {answers : List (α × γ)} :
    (items.mapM fun item => do return (item.1, ← f item.2)) = .ok answers ↔
      answers.map Prod.fst = items.map Prod.fst ∧
        (items.map Prod.snd).mapM f = .ok (answers.map Prod.snd) := by
  induction items generalizing answers with
  | nil =>
      cases answers with
      | nil => exact iff_of_true rfl ⟨rfl, rfl⟩
      | cons answer others => exact iff_of_false nofun fun both => nomatch both.1
  | cons item rest ih =>
      obtain ⟨a, b⟩ := item
      simp only [List.mapM_cons, List.map_cons, bind_eq_ok, pure_eq_ok]
      constructor
      · rintro ⟨_, ⟨d, first, rfl⟩, others, done, rfl⟩
        obtain ⟨tags, after⟩ := ih.mp done
        exact ⟨congrArg (List.cons a) tags, d, first, _, after, rfl⟩
      · rintro ⟨tags, d, first, _, after, same⟩
        cases answers with
        | nil => cases tags
        | cons answer others =>
            obtain ⟨tag, e⟩ := answer
            obtain ⟨rfl, rfl⟩ := List.cons.inj same
            obtain ⟨rfl, later⟩ := List.cons.inj tags
            exact ⟨_, ⟨d, first, rfl⟩, others, ih.mpr ⟨later, after⟩, rfl⟩

/-- Whatever the first answers, the second answers as well; it may also answer where the first fails. -/
def Refines (result refined : Except ε α) : Prop := ∀ a, result = .ok a → refined = .ok a

namespace Refines

variable {result refined : Except ε α} {next after : α → Except ε β}

theorem refl (result : Except ε α) : Refines result result := fun _ answered => answered

theorem trans {between : Except ε α} (first : Refines result between) (second : Refines between refined) :
    Refines result refined := fun a answered => second a (first a answered)

theorem bind (first : Refines result refined) (step : ∀ a, Refines (next a) (after a)) :
    Refines (result >>= next) (refined >>= after) := by
  intro b answered
  obtain ⟨a, here, later⟩ := bind_eq_ok.mp answered
  exact bind_eq_ok.mpr ⟨a, first a here, step a b later⟩

/-- The second steps need to follow only from what the first answers. -/
theorem bind_of (first : Refines result refined)
    (step : ∀ a, result = .ok a → Refines (next a) (after a)) :
    Refines (result >>= next) (refined >>= after) := by
  intro b answered
  obtain ⟨a, here, later⟩ := bind_eq_ok.mp answered
  exact bind_eq_ok.mpr ⟨a, first a here, step a here b later⟩

theorem mapM {f g : α → Except ε β} {items : List α} (each : ∀ a ∈ items, Refines (f a) (g a)) :
    Refines (items.mapM f) (items.mapM g) := by
  induction items with
  | nil => exact .refl _
  | cons a rest ih =>
      rw [List.mapM_cons, List.mapM_cons]
      refine (each a List.mem_cons_self).bind fun b => ?_
      exact (ih fun other member => each other (List.mem_cons_of_mem _ member)).bind fun _ => .refl _

end Refines

@[simp] theorem toOption_eq_some {result : Except ε α} {a : α} :
    result.toOption = some a ↔ result = .ok a := by
  cases result <;> simp [Except.toOption]

/-- Both have an answer or neither has, and then the one answer is the view of the other. The faults
may differ. -/
def Mirrors (view : α → β) (image : Except ε β) (result : Except ε α) : Prop :=
  image.toOption = result.toOption.map view

namespace Mirrors

variable {δ : Type} {view : α → β} {image : Except ε β} {result : Except ε α}

theorem of_eq {image result : Except ε α} (same : image = result) : Mirrors id image result := by
  rw [Mirrors, same, Option.map_id_fun, id]

theorem of_iff {image result : Except ε α} (same : ∀ a, image = .ok a ↔ result = .ok a) :
    Mirrors id image result := by
  rw [Mirrors, Option.map_id_fun, id]
  exact Option.ext fun a => by rw [toOption_eq_some, toOption_eq_some, same a]

theorem ok (a : α) : Mirrors view (.ok (view a) : Except ε β) (.ok a) := rfl

theorem toOption_eq {image result : Except ε α} (mirrors : Mirrors id image result) :
    image.toOption = result.toOption := by
  rw [mirrors, Option.map_id_fun, id]

theorem answer (mirrors : Mirrors view image result) {a : α} (answered : result = .ok a) :
    image = .ok (view a) := by
  rw [Mirrors, answered] at mirrors
  exact toOption_eq_some.mp mirrors

theorem bind {out : γ → δ} {next : α → Except ε γ} {follow : β → Except ε δ}
    (mirrors : Mirrors view image result)
    (step : ∀ a, result = .ok a → Mirrors out (follow (view a)) (next a)) :
    Mirrors out (image >>= follow) (result >>= next) := by
  cases answered : result with
  | ok a =>
      rw [mirrors.answer answered]
      exact step a answered
  | error e =>
      cases reflected : image with
      | error e => rfl
      | ok b =>
          rw [Mirrors, answered, reflected] at mirrors
          cases mirrors

theorem mapM {out : γ → δ} {f : β → Except ε δ} {g : α → Except ε γ} {items : List α}
    (each : ∀ a ∈ items, Mirrors out (f (view a)) (g a)) :
    Mirrors (List.map out) ((items.map view).mapM f) (items.mapM g) := by
  induction items with
  | nil => exact ok []
  | cons a rest ih =>
      rw [List.map_cons, List.mapM_cons, List.mapM_cons]
      refine (each a List.mem_cons_self).bind fun b _ => ?_
      refine (ih fun other member => each other (List.mem_cons_of_mem _ member)).bind fun bs _ => ?_
      exact ok (b :: bs)

end Mirrors

theorem map_eq_error_iff {result : Except ε α} {f : α → β} {e : ε} :
    result.map f = .error e ↔ result = .error e := by
  cases result <;> simp [Except.map]

/-- Both have an answer, and the answers are related, or both fail with one fault. -/
inductive Matches (R : α → β → Prop) : Except ε α → Except ε β → Prop
  | ok {a : α} {b : β} (related : R a b) : Matches R (.ok a) (.ok b)
  | error (e : ε) : Matches R (.error e) (.error e)

namespace Matches

variable {δ : Type} {R : α → β → Prop} {S : γ → δ → Prop} {result : Except ε α} {other : Except ε β}

theorem of_eq {result other : Except ε α} (same : result = other) : Matches Eq result other := by
  subst same
  cases result with
  | ok a => exact .ok rfl
  | error e => exact .error e

theorem eq {result other : Except ε α} (matched : Matches Eq result other) : result = other := by
  cases matched with
  | ok same => rw [same]
  | error e => rfl

theorem imp {R' : α → β → Prop} (matched : Matches R result other) (weaker : ∀ a b, R a b → R' a b) :
    Matches R' result other := by
  cases matched with
  | ok related => exact .ok (weaker _ _ related)
  | error e => exact .error e

theorem bind {next : α → Except ε γ} {follow : β → Except ε δ} (matched : Matches R result other)
    (step : ∀ a b, result = .ok a → R a b → Matches S (next a) (follow b)) :
    Matches S (result >>= next) (other >>= follow) := by
  cases matched with
  | ok related => exact step _ _ rfl related
  | error e => exact .error e

theorem mapM {f : α → Except ε γ} {g : β → Except ε δ} {as : List α} {bs : List β}
    (each : List.Forall₂ (fun a b => Matches S (f a) (g b)) as bs) :
    Matches (List.Forall₂ S) (as.mapM f) (bs.mapM g) := by
  induction each with
  | nil => exact .ok .nil
  | cons first _ ih =>
      rw [List.mapM_cons, List.mapM_cons]
      refine first.bind fun c d _ related => ?_
      exact ih.bind fun cs ds _ others => .ok (.cons related others)

end Matches

end Relata
