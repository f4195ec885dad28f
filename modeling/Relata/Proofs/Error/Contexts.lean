import Mathlib.Data.List.Induction
import Relata.Error

/-!
What an error tells of its contexts. Of each context the text of its cause is kept, the newest first, and the
first cause comes last. What lay beneath the cause of a context is lost, so a context is told whole exactly if
nothing lay beneath it.
-/

namespace Relata

/-- Texts in the order in which they were put on top of the first one. -/
def listed (texts : List String) (root : String) : String := ": ".intercalate (texts.reverse ++ [root])

@[simp] theorem listed_nil (root : String) : listed [] root = root := by
  simp [listed]

theorem listed_concat (texts : List String) (newest root : String) :
    listed (texts ++ [newest]) root = newest ++ (": " ++ listed texts root) := by
  have more : texts.reverse ++ [root] ≠ [] := by simp
  simp [listed, String.intercalate_cons_of_ne_nil more, String.append_assoc]

/-- Two texts of two parts agree part by part, if neither part of the one is longer. -/
theorem append_inj_of_length_le {a b c d : String} (first : a.length ≤ b.length) (second : c.length ≤ d.length)
    (same : a ++ c = b ++ d) : a = b ∧ c = d := by
  have lengths := congrArg String.length same
  rw [String.length_append, String.length_append] at lengths
  have aligned : a.toList.length = b.toList.length := by
    simp only [String.length_toList]
    omega
  have letters : a.toList ++ c.toList = b.toList ++ d.toList := by
    simpa using congrArg String.toList same
  simpa only [String.toList_inj] using List.append_inj letters aligned

namespace Error

/-- The error under the contexts, each with whether someone else holds it. -/
def withinAll (error : Error) (contexts : List (Error × Bool)) : Error :=
  contexts.foldl (fun error context => error.within context.1 context.2) error

@[simp] theorem withinAll_nil (error : Error) : error.withinAll [] = error := rfl

@[simp] theorem withinAll_concat (error : Error) (contexts : List (Error × Bool)) (newest : Error × Bool) :
    error.withinAll (contexts ++ [newest]) = (error.withinAll contexts).within newest.1 newest.2 := by
  simp [withinAll]

theorem message_of (cause : Cause) : message ⟨cause, []⟩ = cause.message := by
  simp [message, chain]

theorem message_cons (cause next : Cause) (later : List Cause) :
    message ⟨cause, next :: later⟩ = cause.message ++ (": " ++ message ⟨next, later⟩) := by
  simp [message, chain, String.append_assoc]

/-- A context that is held elsewhere is copied, and the copy has the same text. -/
theorem message_within (error context : Error) (held : Bool) :
    (error.within context held).message = context.cause.message ++ (": " ++ error.message) := by
  cases held <;> exact message_cons _ error.cause error.beneath

/-- Only what lies beneath the cause makes the text of an error longer than that of its cause. -/
theorem cause_message_cases (error : Error) :
    error.beneath = [] ∧ error.cause.message = error.message ∨
      error.beneath ≠ [] ∧ error.cause.message.length < error.message.length := by
  obtain ⟨cause, beneath⟩ := error
  cases beneath with
  | nil => exact .inl ⟨rfl, (message_of cause).symm⟩
  | cons next later =>
      have colon : (": " : String).length = 2 := rfl
      simp only [message_cons, String.length_append, colon]
      exact .inr ⟨List.cons_ne_nil next later, by omega⟩

theorem length_cause_le (error : Error) : error.cause.message.length ≤ error.message.length := by
  obtain ⟨_, same⟩ | ⟨_, longer⟩ := cause_message_cases error
  · exact Nat.le_of_eq (congrArg String.length same)
  · exact Nat.le_of_lt longer

theorem cause_message_eq_iff (error : Error) : error.cause.message = error.message ↔ error.beneath = [] := by
  obtain ⟨none, same⟩ | ⟨more, longer⟩ := cause_message_cases error
  · exact iff_of_true same none
  · exact iff_of_false (fun same => by simp [same] at longer) more

variable (error : Error) (contexts : List (Error × Bool))

theorem message_withinAll :
    (error.withinAll contexts).message =
      listed (contexts.map fun context => context.1.cause.message) error.message := by
  induction contexts using List.reverseRecOn with
  | nil => simp
  | append_singleton contexts newest ih => simp [message_within, listed_concat, ih]

theorem length_withinAll_le :
    (error.withinAll contexts).message.length ≤
      (listed (contexts.map fun context => context.1.message) error.message).length := by
  induction contexts using List.reverseRecOn with
  | nil => simp
  | append_singleton contexts newest ih =>
      have kept := length_cause_le newest.1
      simp only [withinAll_concat, message_within, List.map_append, List.map_singleton, listed_concat,
        String.length_append]
      omega

/-- Every context is told whole exactly if each is a single cause. -/
theorem message_withinAll_whole_iff :
    (error.withinAll contexts).message = listed (contexts.map fun context => context.1.message) error.message ↔
      ∀ context ∈ contexts, context.1.beneath = [] := by
  induction contexts using List.reverseRecOn with
  | nil => simp
  | append_singleton contexts newest ih =>
      simp only [withinAll_concat, message_within, List.map_append, List.map_singleton, listed_concat,
        List.forall_mem_append, List.forall_mem_singleton]
      rw [← ih, ← cause_message_eq_iff]
      constructor
      · intro same
        -- The text of a context's cause is a part of that of the context, so it is the older parts or this
        -- one that fall short.
        have older : (": " ++ (error.withinAll contexts).message).length ≤
            (": " ++ listed (contexts.map fun context => context.1.message) error.message).length := by
          simpa using length_withinAll_le error contexts
        obtain ⟨cause, below⟩ := append_inj_of_length_le (length_cause_le newest.1) older same
        exact ⟨by simpa using below, cause⟩
      · rintro ⟨older, cause⟩
        rw [older, cause]

/-- Under any contexts, the text of an error is the texts of their causes, the newest first, and then what it
was before. All that the contexts tell is in it exactly if each context is a single cause; whether a context is
held elsewhere makes no difference. -/
theorem contexts_told_by_cause :
    (error.withinAll contexts).message =
        listed (contexts.map fun context => context.1.cause.message) error.message ∧
      ((error.withinAll contexts).message = listed (contexts.map fun context => context.1.message) error.message ↔
        ∀ context ∈ contexts, context.1.beneath = []) :=
  ⟨message_withinAll error contexts, message_withinAll_whole_iff error contexts⟩

/-- A context that is a chain itself is cut down to its newest cause. -/
theorem context_beneath_lost :
    ((adhoc "root").within ((adhoc "middle").within (adhoc "top") false) false).message ≠
      ((adhoc "middle").within (adhoc "top") false).message ++ (": " ++ (adhoc "root").message) := by
  decide

end Error

end Relata
