import Relata.Proofs.Query.Cells
import Relata.Record

/-!
Records of rows. Where the columns of an answer are distinct, a record has the cells of its row under
the names of the columns, without those that the model ignores.
-/

namespace Relata

namespace Entries

variable {α : Type} {entries items : List (String × α)} {name : String}

theorem set_of_not_mem (fresh : name ∉ entries.map Prod.fst) (value : α) :
    Entries.set entries name value = entries ++ [(name, value)] := by
  induction entries with
  | nil => rfl
  | cons entry rest ih =>
      obtain ⟨other, old⟩ := entry
      rw [List.map_cons, List.mem_cons, not_or] at fresh
      rw [Entries.set, if_neg (Ne.symm fresh.1), ih fresh.2, List.cons_append]

theorem foldl_set_of_nodup (distinct : ((entries ++ items).map Prod.fst).Nodup) :
    items.foldl (fun entries item => Entries.set entries item.1 item.2) entries =
      entries ++ items := by
  induction items generalizing entries with
  | nil => rw [List.foldl_nil, List.append_nil]
  | cons item rest ih =>
      have fresh : item.1 ∉ entries.map Prod.fst := by
        rw [List.map_append, List.nodup_append] at distinct
        intro before
        exact distinct.2.2 item.1 before item.1 (by simp) rfl
      have regrouped : entries ++ item :: rest = entries ++ [item] ++ rest := by simp
      rw [regrouped] at distinct ⊢
      rw [List.foldl_cons, set_of_not_mem fresh, ih distinct]

theorem ofList_of_nodup (distinct : (items.map Prod.fst).Nodup) : Entries.ofList items = items := by
  have whole : (([] ++ items : List (String × α)).map Prod.fst).Nodup := distinct
  exact foldl_set_of_nodup whole

theorem get?_zip_filter (p : String → Bool) {columns : List String} {row : List Value}
    (width : row.length = columns.length) :
    Entries.get? ((columns.zip row).filter fun entry => p entry.1) name =
      if name ∈ columns ∧ p name then some (cellOf columns row name) else none := by
  induction columns generalizing row with
  | nil => simp [Entries.get?]
  | cons column columns ih =>
      cases row with
      | nil => cases width
      | cons value row =>
          have others := ih (Nat.succ.inj width)
          by_cases here : column = name
          · subst here
            by_cases kept : p column = true
            · simp [kept, Entries.get?, cellOf]
            · simp [kept, others]
          · have there : (name ∈ column :: columns) ↔ name ∈ columns := by
              simp [Ne.symm here]
            rw [List.zip_cons_cons, List.filter_cons]
            simp only [there, cellOf, if_neg here, List.tail_cons]
            split
            · rw [Entries.get?, if_neg here, others]
            · exact others

theorem get?_foldl_set (absent : name ∉ items.map Prod.fst) :
    Entries.get? (items.foldl (fun entries item => Entries.set entries item.1 item.2) entries)
      name = Entries.get? entries name := by
  induction items generalizing entries with
  | nil => rfl
  | cons item rest ih =>
      rw [List.map_cons, List.mem_cons, not_or] at absent
      rw [List.foldl_cons, ih absent.2, Entries.get?_set, if_neg absent.1]

theorem get?_ofList_cons (absent : name ∉ items.map Prod.fst) (value : α) :
    Entries.get? (Entries.ofList ((name, value) :: items)) name = some value := by
  have first : Entries.set [] name value = [(name, value)] := rfl
  rw [Entries.ofList, List.foldl_cons, get?_foldl_set absent, first, Entries.get?, if_pos rfl]

end Entries

namespace Record

variable {model : Model} {columns : List String} {row : List Value} {name : String}

theorem ofRow_values (distinct : columns.Nodup) (width : row.length = columns.length) :
    (ofRow model columns row).values =
      (columns.zip row).filter fun entry => !model.isIgnored entry.1 := by
  refine Entries.ofList_of_nodup ?_
  have names : (columns.zip row).map Prod.fst = columns := List.map_fst_zip (by omega)
  have fewer : (((columns.zip row).filter fun entry => !model.isIgnored entry.1).map
      Prod.fst).Sublist columns := by
    conv_rhs => rw [← names]
    exact List.filter_sublist.map Prod.fst
  exact distinct.sublist fewer

theorem get?_ofRow (distinct : columns.Nodup) (width : row.length = columns.length) :
    (ofRow model columns row).get? name =
      if name ∈ columns ∧ !model.isIgnored name then some (cellOf columns row name) else none := by
  rw [Record.get?, ofRow_values distinct width]
  exact Entries.get?_zip_filter (fun name => !model.isIgnored name) width

theorem get?_ofRow_first (fresh : name ∉ columns) (active : model.isIgnored name = false)
    (value : Value) : (ofRow model (name :: columns) (value :: row)).get? name = some value := by
  rw [Record.get?, ofRow, List.zip_cons_cons, List.filter_cons_of_pos (by simp [active])]
  refine Entries.get?_ofList_cons (fun again => fresh ?_) value
  obtain ⟨entry, member, rfl⟩ := List.mem_map.mp again
  exact (List.of_mem_zip (List.mem_of_mem_filter member)).1

/-- A record with one more column in front. -/
def withFirst (record : Record) (name : String) (value : Value) : Record :=
  { record with values := (name, value) :: record.values }

theorem ofRow_cons (distinct : columns.Nodup) (width : row.length = columns.length) (fresh : name ∉ columns)
    (active : model.isIgnored name = false) (value : Value) :
    ofRow model (name :: columns) (value :: row) =
      (ofRow model columns row).withFirst name value := by
  have wider : (value :: row).length = (name :: columns).length := congrArg Nat.succ width
  have values : (ofRow model (name :: columns) (value :: row)).values =
      (name, value) :: (ofRow model columns row).values := by
    rw [ofRow_values (List.nodup_cons.mpr ⟨fresh, distinct⟩) wider, ofRow_values distinct width,
      List.zip_cons_cons, List.filter_cons_of_pos (by simp [active])]
  rw [withFirst, ← values]
  rfl

end Record

end Relata
