import Relata.Proofs.Outcome
import Relata.Schema.Definition

/-!
Schemas that were built. A schema that the definitions fit together to has names that do not repeat,
models over its own tables, and associations whose targets exist.
-/

namespace Relata

structure Schema.Sound (schema : Schema) : Prop where
  tableNames : (schema.tables.map Table.name).Nodup
  modelNames : (schema.models.map Model.name).Nodup
  modelTable : ∀ model ∈ schema.models, model.table ∈ schema.tables
  keyColumn : ∀ model ∈ schema.models, model.table.hasColumn model.primaryKey = true
  keyActive : ∀ model ∈ schema.models, model.isIgnored model.primaryKey = false
  ignoredColumns : ∀ model ∈ schema.models, ∀ column ∈ model.ignored,
    model.table.hasColumn column = true
  targets : ∀ model ∈ schema.models, ∀ a ∈ model.associations, (schema.model? a.target).isSome

theorem Schema.Sound.exists_keyColumn {schema : Schema} (sound : schema.Sound) {model : Model}
    (known : model ∈ schema.models) : ∃ column, model.table.column? model.primaryKey = some column := by
  rw [← Option.isSome_iff_exists, Option.isSome_iff_ne_none, Ne, Table.column?_eq_none_iff]
  simp [sound.keyColumn _ known]

theorem firstRepeat?_eq_none_iff {seen names : List String} :
    firstRepeat? seen names = none ↔ names.Nodup ∧ ∀ name ∈ names, name ∉ seen := by
  induction names generalizing seen with
  | nil => simp [firstRepeat?]
  | cons name rest ih =>
      rw [firstRepeat?]
      by_cases before : name ∈ seen
      · simp [before]
      · rw [if_neg (by simpa using before), ih, List.nodup_cons]
        constructor
        · rintro ⟨distinct, fresh⟩
          refine ⟨⟨fun again => fresh name again List.mem_cons_self, distinct⟩, fun other member => ?_⟩
          rcases List.mem_cons.mp member with rfl | member
          · exact before
          · exact fun known => fresh other member (List.mem_cons_of_mem _ known)
        · rintro ⟨⟨once, distinct⟩, fresh⟩
          refine ⟨distinct, fun other member known => ?_⟩
          rcases List.mem_cons.mp known with rfl | known
          · exact once member
          · exact fresh other (List.mem_cons_of_mem _ member) known

section Append

variable {α β ε : Type} {label : α → String} {name : β → String} {make : α → Except ε β}
  {step : List β → α → Except ε (List β)} {items : List α} {made after : List β}

/-- Items that are made one after the other, each unless its name is taken, are all made exactly if the names do
not repeat. -/
theorem foldlM_append_iff
    (steps : ∀ made item after, step made item = .ok after ↔
      ∃ b, make item = .ok b ∧ label item ∉ made.map name ∧ after = made ++ [b])
    (named : ∀ item b, make item = .ok b → name b = label item) :
    items.foldlM step made = .ok after ↔ ∃ bs, items.mapM make = .ok bs ∧ (items.map label).Nodup ∧
      (∀ item ∈ items, label item ∉ made.map name) ∧ after = made ++ bs := by
  induction items generalizing made with
  | nil =>
      rw [List.foldlM_nil, pure_eq_ok]
      constructor
      · rintro rfl
        exact ⟨[], rfl, List.nodup_nil, fun _ absent => absurd absent List.not_mem_nil, (List.append_nil _).symm⟩
      · rintro ⟨bs, none, _, _, rfl⟩
        cases none
        exact (List.append_nil _).symm
  | cons item rest ih =>
      rw [List.foldlM_cons, bind_eq_ok, List.mapM_cons, List.map_cons, List.nodup_cons]
      constructor
      · rintro ⟨middle, first, others⟩
        obtain ⟨b, makes, free, rfl⟩ := (steps _ _ _).mp first
        obtain ⟨bs, all, distinct, apart, rfl⟩ := ih.mp others
        refine ⟨b :: bs, ?_, ⟨fun again => ?_, distinct⟩, fun other member => ?_, by simp⟩
        · rw [makes, ok_bind, all]
          rfl
        · -- Had a later item this name, it would be taken by then.
          obtain ⟨other, member, same⟩ := List.mem_map.mp again
          refine apart other member ?_
          rw [same, ← named item b makes, List.map_append]
          exact List.mem_append_right _ List.mem_cons_self
        · rcases List.mem_cons.mp member with rfl | member
          · exact free
          · refine fun taken => apart other member ?_
            rw [List.map_append]
            exact List.mem_append_left _ taken
      · rintro ⟨bs, all, ⟨once, distinct⟩, apart, rfl⟩
        obtain ⟨b, makes, all⟩ := bind_eq_ok.mp all
        obtain ⟨others, remaining, all⟩ := bind_eq_ok.mp all
        cases all
        have first := (steps made item _).mpr ⟨b, makes, apart item List.mem_cons_self, rfl⟩
        refine ⟨_, first, ih.mpr ⟨others, remaining, distinct, fun other member taken => ?_, by simp⟩⟩
        rw [List.map_append, List.mem_append] at taken
        rcases taken with before | last
        · exact apart other (List.mem_cons_of_mem _ member) before
        · rw [List.map_singleton, List.mem_singleton, named item b makes] at last
          exact once (last ▸ List.mem_map_of_mem member)

end Append

theorem addAssociations_iff {model primaryKey : String} {definitions : List AssociationDefinition}
    {associations : List Association} :
    definitions.foldlM (addAssociation model primaryKey) [] = .ok associations ↔
      (definitions.map AssociationDefinition.name).Nodup ∧
        associations = definitions.map (·.association model primaryKey) := by
  have steps : ∀ (made : List Association) (definition : AssociationDefinition) (after : List Association),
      addAssociation model primaryKey made definition = .ok after ↔
        ∃ association, Except.ok (definition.association model primaryKey) =
            (Except.ok association : Except SchemaFault Association) ∧
          definition.name ∉ made.map Association.name ∧ after = made ++ [association] := by
    intro made definition after
    rw [addAssociation]
    by_cases taken : definition.name ∈ made.map Association.name
    · have found : made.any (·.name == definition.name) = true := by simpa using taken
      simp [found, taken]
    · have free : made.any (·.name == definition.name) = false := by simpa using taken
      simp [free, taken, eq_comm]
  rw [foldlM_append_iff steps fun definition association same => by
    rw [← Except.ok.inj same]
    rfl]
  rw [mapM_eq_ok_map fun definition _ => rfl]
  simp

/-- The key of a model on a table: the one that the definition names, or the table's first key column. -/
def ModelDefinition.keyOn (definition : ModelDefinition) (table : Table) : Option String :=
  definition.primaryKey.or (table.keyColumns.head?.map Column.name)

theorem ModelDefinition.model_eq_ok_iff {definition : ModelDefinition} {tables : List Table} {model : Model} :
    definition.model tables = .ok model ↔
      ∃ table key, tables.find? (·.name == definition.table) = some table ∧ definition.keyOn table = some key ∧
        (definition.associations.map AssociationDefinition.name).Nodup ∧
        model = ⟨definition.name, table, key, definition.ignored,
          definition.associations.map (·.association definition.name key)⟩ := by
  have finish : ∀ (table : Table) (key : String), ((do
      let associations ← definition.associations.foldlM (addAssociation definition.name key) []
      return Model.mk definition.name table key definition.ignored associations) = .ok model ↔
      (definition.associations.map AssociationDefinition.name).Nodup ∧
        model = ⟨definition.name, table, key, definition.ignored,
          definition.associations.map (·.association definition.name key)⟩) := by
    intro table key
    rw [bind_eq_ok]
    simp only [addAssociations_iff, pure_eq_ok]
    constructor
    · rintro ⟨_, ⟨distinct, rfl⟩, rfl⟩
      exact ⟨distinct, rfl⟩
    · rintro ⟨distinct, rfl⟩
      exact ⟨_, ⟨distinct, rfl⟩, rfl⟩
  rw [ModelDefinition.model]
  cases found : tables.find? (·.name == definition.table) with
  | none => simp
  | some table =>
      dsimp only [ok_bind]
      cases named : definition.primaryKey with
      | some key =>
          refine (finish table key).trans ?_
          simp [keyOn, named]
      | none =>
          cases keys : table.keyColumns with
          | nil => simp [keyOn, named, keys]
          | cons column others =>
              dsimp only [ok_bind]
              refine (finish table column.name).trans ?_
              simp [keyOn, named, keys]

theorem ModelDefinition.model_name {definition : ModelDefinition} {tables : List Table} {model : Model}
    (defined : definition.model tables = .ok model) : model.name = definition.name := by
  obtain ⟨_, _, _, _, _, rfl⟩ := ModelDefinition.model_eq_ok_iff.mp defined
  rfl

theorem addModels_iff {tables : List Table} {definitions : List ModelDefinition} {models : List Model} :
    definitions.foldlM (addModel tables) [] = .ok models ↔
      definitions.mapM (·.model tables) = .ok models ∧ (definitions.map ModelDefinition.name).Nodup := by
  have steps : ∀ (made : List Model) (definition : ModelDefinition) (after : List Model),
      addModel tables made definition = .ok after ↔
        ∃ model, definition.model tables = .ok model ∧ definition.name ∉ made.map Model.name ∧
          after = made ++ [model] := by
    intro made definition after
    rw [addModel, bind_eq_ok]
    by_cases taken : definition.name ∈ made.map Model.name
    · have found : made.any (·.name == definition.name) = true := by simpa using taken
      simp only [found, if_true, taken, not_true_eq_false, false_and, and_false, exists_false, iff_false]
      rintro ⟨model, _, refused⟩
      cases refused
    · have free : made.any (·.name == definition.name) = false := by simpa using taken
      simp only [free, Bool.false_eq_true, if_false, taken, not_false_eq_true, true_and, pure_eq_ok]
      exact exists_congr fun model => and_congr_right fun _ => eq_comm
  rw [foldlM_append_iff steps fun _ _ => ModelDefinition.model_name]
  simp

/-- What is checked of a model of a schema. -/
structure Model.Faultless (model : Model) (schema : Schema) : Prop where
  keyColumn : model.table.hasColumn model.primaryKey = true
  keyActive : model.isIgnored model.primaryKey = false
  ignoredColumns : ∀ column ∈ model.ignored, model.table.hasColumn column = true
  targets : ∀ a ∈ model.associations, (schema.model? a.target).isSome

theorem Model.fault?_eq_none_iff {model : Model} {schema : Schema} :
    model.fault? schema = none ↔ model.Faultless schema := by
  rw [Model.fault?]
  constructor
  · intro none
    split at none
    · cases none
    rename_i keyed
    split at none
    · cases none
    rename_i active
    split at none
    · cases none
    rename_i ignored
    split at none
    · cases none
    rename_i targets
    rw [List.find?_eq_none] at ignored targets
    exact ⟨by simpa using keyed, by simpa using active, by simpa using ignored,
      fun a member => by simpa [Option.isSome_iff_ne_none] using targets a member⟩
  · rintro ⟨keyed, active, ignored, targets⟩
    have columns : model.ignored.find? (fun column => !model.table.hasColumn column) = none :=
      List.find?_eq_none.mpr fun column member => by simp [ignored column member]
    have known : model.associations.find? (fun a => (schema.model? a.target).isNone) = none :=
      List.find?_eq_none.mpr fun a member => by
        simpa [Option.isSome_iff_ne_none] using targets a member
    simp [keyed, active, columns, known]

theorem Schema.build_eq_ok_iff {tables : List TableDefinition} {models : List ModelDefinition} {schema : Schema} :
    Schema.build tables models = .ok schema ↔
      schema.tables = tables.map TableDefinition.table ∧
        models.mapM (·.model schema.tables) = .ok schema.models ∧
        (models.map ModelDefinition.name).Nodup ∧ (schema.tables.map Table.name).Nodup ∧
        ∀ model ∈ schema.models, model.Faultless schema := by
  have checked : schema.fault? = none ↔ (schema.tables.map Table.name).Nodup ∧
      ∀ model ∈ schema.models, model.Faultless schema := by
    rw [Schema.fault?]
    cases repeats : firstRepeat? [] (schema.tables.map Table.name) with
    | some table =>
        have twice : ¬ (schema.tables.map Table.name).Nodup := fun distinct => by
          rw [firstRepeat?_eq_none_iff.mpr ⟨distinct, by simp⟩] at repeats
          cases repeats
        simp [twice]
    | none =>
        have distinct := (firstRepeat?_eq_none_iff.mp repeats).1
        simp [distinct, List.findSome?_eq_none_iff, Model.fault?_eq_none_iff]
  rw [Schema.build, bind_eq_ok, ← checked]
  constructor
  · rintro ⟨members, added, passed⟩
    obtain ⟨made, distinct⟩ := addModels_iff.mp added
    dsimp only at passed
    split at passed
    · cases passed
    · rename_i faultless
      cases passed
      exact ⟨rfl, made, distinct, faultless⟩
  · rintro ⟨same, made, distinct, faultless⟩
    obtain ⟨_, members⟩ := schema
    subst same
    refine ⟨members, addModels_iff.mpr ⟨made, distinct⟩, ?_⟩
    dsimp only
    rw [faultless]
    rfl

theorem Schema.sound_of_build {tables : List TableDefinition} {models : List ModelDefinition}
    {schema : Schema} (built : Schema.build tables models = .ok schema) : schema.Sound := by
  obtain ⟨_, made, distinct, tableNames, faultless⟩ := Schema.build_eq_ok_iff.mp built
  have names : schema.models.map Model.name = models.map ModelDefinition.name :=
    map_eq_of_mapM made fun _ _ => ModelDefinition.model_name
  exact {
    tableNames
    modelNames := names ▸ distinct
    modelTable := fun model member => by
      obtain ⟨definition, _, defined⟩ := exists_of_mem_mapM made model member
      obtain ⟨table, _, found, _, _, rfl⟩ := ModelDefinition.model_eq_ok_iff.mp defined
      exact List.mem_of_find?_eq_some found
    keyColumn := fun model member => (faultless model member).keyColumn
    keyActive := fun model member => (faultless model member).keyActive
    ignoredColumns := fun model member => (faultless model member).ignoredColumns
    targets := fun model member => (faultless model member).targets }

variable {schema : Schema}

theorem find?_eq_some_of_mem {α : Type} {name : α → String} {items : List α} {a : α}
    (distinct : (items.map name).Nodup) (member : a ∈ items) :
    items.find? (fun b => name b == name a) = some a := by
  induction items with
  | nil => cases member
  | cons first rest ih =>
      obtain ⟨fresh, distinct⟩ := List.nodup_cons.mp distinct
      rcases List.mem_cons.mp member with rfl | member
      · simp
      · have other : name first ≠ name a := fun same =>
          fresh (same ▸ List.mem_map_of_mem member)
        rw [List.find?_cons_of_neg (by simpa using other), ih distinct member]

theorem Schema.Sound.model?_eq (sound : schema.Sound) {model : Model}
    (member : model ∈ schema.models) : schema.model? model.name = some model :=
  find?_eq_some_of_mem sound.modelNames member

theorem Schema.Sound.isIgnored_eq_false (sound : schema.Sound) {model : Model} {column : String}
    (member : model ∈ schema.models) (absent : model.table.hasColumn column = false) :
    model.isIgnored column = false := by
  cases ignored : model.isIgnored column with
  | false => rfl
  | true =>
      have has := sound.ignoredColumns model member column (by simpa [Model.isIgnored] using ignored)
      rw [absent] at has
      cases has

end Relata
