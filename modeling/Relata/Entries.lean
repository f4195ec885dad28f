/-!
Named entries in a fixed order: each name occurs once, and a new value for a name takes the place of
the old one.
-/

namespace Relata

abbrev Entries (α : Type) := List (String × α)

namespace Entries

variable {α : Type}

def names (entries : Entries α) : List String := entries.map Prod.fst

def get? : Entries α → String → Option α
  | [], _ => none
  | (other, value) :: rest, name => if other = name then some value else get? rest name

/-- Gives a name a value, in its old place or at the end. -/
def set : Entries α → String → α → Entries α
  | [], name, value => [(name, value)]
  | (other, old) :: rest, name, value =>
    if other = name then (other, value) :: rest else (other, old) :: set rest name value

/-- Entries of a list in which a name may repeat: the first place and the last value count. -/
def ofList (items : List (String × α)) : Entries α :=
  items.foldl (fun entries item => set entries item.1 item.2) []

@[simp] theorem get?_set (entries : Entries α) (name : String) (value : α) (other : String) :
    get? (set entries name value) other =
      if other = name then some value else get? entries other := by
  induction entries with
  | nil => simp [set, get?, eq_comm]
  | cons entry rest ih =>
      obtain ⟨first, old⟩ := entry
      by_cases here : first = name
      · subst here
        by_cases same : first = other
        · simp [set, get?, same]
        · simp [set, get?, same, Ne.symm same]
      · by_cases found : first = other
        · subst found
          simp [set, get?, here]
        · simp [set, get?, here, found, ih]

end Entries

end Relata
