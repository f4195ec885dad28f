import Relata.Proofs.Relation.PerParent
import Relata.Proofs.Schema.Sound
import Relata.Proofs.Session.Reached
import Relata.Proofs.Sql.Identifiers
import Relata.Relation.Associated
import Relata.Sql.Statement

/-!
Names in the text of an association's children. The text introduces three names, without quotes: that of the
owner's key beside the children, that of the lateral subquery and the one that the whole goes by. References use
the same names in quotes. The lateral subquery's name is plain; each of the others is read as the name that the
references use exactly if it is plain too.
-/

namespace Relata

namespace Sql

/-- The text of a statement with its constants, or with parameters numbered on from those bound. -/
def form : Option Nat → Sql → String
  | none => inline
  | some bound => numbered bound

variable {sql left right : Sql} {bound : Option Nat}

theorem numbered_eq_inline (bare : sql.constants = []) (bound : Nat) :
    sql.numbered bound = sql.inline := by
  induction sql with
  | nil => rfl
  | cons piece rest ih =>
      cases piece with
      | text s => rw [numbered, inline, ih bare]
      | hole c => cases bare

theorem form_append_left (bare : left.constants = []) :
    form bound (left ++ right) = left.inline ++ form bound right := by
  cases bound with
  | none => exact inline_append left right
  | some bound =>
      change numbered bound (left ++ right) = left.inline ++ numbered bound right
      rw [numbered_append, numbered_eq_inline bare, bare]
      rfl

theorem form_append_right (bare : right.constants = []) :
    form bound (left ++ right) = form bound left ++ right.inline := by
  cases bound with
  | none => exact inline_append left right
  | some bound =>
      change numbered bound (left ++ right) = numbered bound left ++ right.inline
      rw [numbered_append, numbered_eq_inline bare]

@[simp] theorem inline_text (s : String) : (text s).inline = s := String.append_empty

@[simp] theorem constants_text (s : String) : (text s).constants = [] := rfl

theorem inline_join (separator : String) (parts : List Sql) :
    (join separator parts).inline = separator.intercalate (parts.map inline) := by
  induction parts with
  | nil => rfl
  | cons part rest ih =>
      cases rest with
      | nil => rw [join, List.map_singleton, String.intercalate_singleton]
      | cons next rest =>
          rw [join, inline_append, inline, ih, List.map_cons, List.map_cons, List.map_cons,
            String.intercalate_cons_cons, String.append_assoc]

theorem constants_join {separator : String} {parts : List Sql}
    (bare : ∀ part ∈ parts, part.constants = []) : (join separator parts).constants = [] := by
  induction parts with
  | nil => rfl
  | cons part rest ih =>
      have first := bare part List.mem_cons_self
      have later := ih fun other inside => bare other (List.mem_cons_of_mem _ inside)
      cases rest with
      | nil => exact first
      | cons next rest => rw [join, constants_append, first, constants, later, List.append_nil]

end Sql

namespace Choice

/-- How the columns are written that are read from a source of that name. -/
def references (qualifier : String) : Choice → List String
  | .all => [Sql.name qualifier ++ ".*"]
  | .named names => names.map fun name => Sql.name qualifier ++ "." ++ Sql.name name

theorem items_sql (choice : Choice) (table : TableRef) :
    ((choice.items table).map SelectItem.sql).map Sql.inline = choice.references table.qualifier ∧
      ∀ part ∈ (choice.items table).map SelectItem.sql, part.constants = [] := by
  cases choice with
  | all =>
      refine ⟨congrArg (fun text => [text]) (Sql.inline_text _), fun part inside => ?_⟩
      cases List.mem_singleton.mp inside
      rfl
  | named names =>
      rw [items, List.map_map, List.map_map]
      refine ⟨List.map_congr_left fun name _ => Sql.inline_text _, fun part inside => ?_⟩
      rw [List.map_map] at inside
      obtain ⟨name, _, rfl⟩ := List.mem_map.mp inside
      rfl

/-- All of them name the source. -/
theorem references_read (alphabet : Alphabet) (choice : Choice) (qualifier : String) :
    ∀ reference ∈ choice.references qualifier, alphabet.identifier? reference = some qualifier := by
  intro reference inside
  cases choice with
  | all =>
      cases List.mem_singleton.mp inside
      exact alphabet.identifier?_name qualifier (by simp)
  | named names =>
      obtain ⟨name, _, rfl⟩ := List.mem_map.mp inside
      rw [String.append_assoc]
      exact alphabet.identifier?_name qualifier (by simp)

end Choice

theorem Query.sql_eq (query : Query) :
    query.sql = Sql.text "SELECT " ++ Sql.join ", " (query.items.map SelectItem.sql) ++
      Sql.text " FROM " ++ query.source.sql ++ joinsSql query.joins ++ filterSql query.filter ++
      orderSql query.order ++ limitSql query.limit := by
  cases query
  rfl

namespace Relation

/-- The lateral subquery in its text: in front of it stands the parent's key with its name. -/
theorem besideParent_sql (child : Relation) (parent : Model) (keys : KeyMapping) (limit : Option Nat) :
    ∃ front back, (child.besideParent parent keys limit).query.sql =
        front ++ (child.correlated (parent.all.column keys.primaryKey) keys limit).query.sql ++ back ∧
      front.constants = [] ∧ back.constants = [] ∧
      front.inline = "SELECT " ++ Sql.name parent.table.name ++ "." ++ Sql.name keys.primaryKey ++
        " AS " ++ keys.foreignKeyAlias ++ ", " ++ Sql.name lateralName ++ ".* FROM " ++
        Sql.name parent.table.name ++ " INNER JOIN LATERAL (" ∧
      back.inline = ") " ++ lateralName ++ " ON TRUE" := by
  refine ⟨Sql.text "SELECT " ++
      Sql.text (Sql.name parent.table.name ++ "." ++ Sql.name keys.primaryKey) ++
      Sql.text (" AS " ++ keys.foreignKeyAlias) ++ Sql.text ", " ++
      Sql.text (Sql.name lateralName ++ ".*") ++ Sql.text " FROM " ++
      Sql.text (Sql.name parent.table.name) ++ Sql.text " INNER JOIN " ++ Sql.text "LATERAL (",
    Sql.text (") " ++ lateralName) ++ Sql.text " ON " ++ Sql.text "TRUE", ?_, rfl, rfl, ?_, ?_⟩
  · have whole : (child.besideParent parent keys limit).query =
        ⟨[.aliased (parent.all.column keys.primaryKey) keys.foreignKeyAlias,
            .wildcard (.derived lateralName)], .table parent.ref,
          [⟨.inner, .subquery true
            (child.correlated (parent.all.column keys.primaryKey) keys limit).query lateralName,
            .const (.bool true)⟩], none, [], none⟩ := rfl
    rw [whole]
    simp only [Query.sql, List.map_cons, List.map_nil, Sql.join, joinsSql, Source.sql, filterSql,
      orderSql, limitSql, List.isEmpty_nil, if_true, List.append_nil, List.append_assoc]
    rfl
  · simp only [Sql.inline_append, Sql.inline_text]
    simp [String.append_assoc]
  · simp only [Sql.inline_append, Sql.inline_text]
    simp [String.append_assoc]

theorem perParent_sql (child : Relation) (parent : Model) (keys : KeyMapping) (limit : Option Nat) :
    ∃ front, (child.perParent parent keys limit).query.sql =
        front ++ (child.besideParent parent keys limit).query.sql ++
          Sql.text (") " ++ child.table.name) ∧
      front.constants = [] ∧
      front.inline = "SELECT " ++ ", ".intercalate
        ((child.model.choice.withFirst keys.foreignKeyAlias).references child.table.name) ++
        " FROM (" := by
  obtain ⟨joins, filter, order, unlimited⟩ := child.perParent_bare parent keys limit
  have reads := child.perParent_reads parent keys limit
  obtain ⟨texts, bare⟩ := (child.model.choice.withFirst keys.foreignKeyAlias).items_sql
    (child.perParent parent keys limit).table
  rw [← reads.items] at texts bare
  rw [← reads.qualifier] at texts
  refine ⟨Sql.text "SELECT " ++
    Sql.join ", " ((child.perParent parent keys limit).query.items.map SelectItem.sql) ++
    Sql.text " FROM " ++ Sql.text "(", ?_, ?_, ?_⟩
  · have unfiltered : (child.perParent parent keys limit).query.filter = none := filter
    have unordered : (child.perParent parent keys limit).query.order = [] := order
    have unjoined : (child.perParent parent keys limit).query.joins = [] := joins
    have uncut : (child.perParent parent keys limit).query.limit = none := by
      rw [Relation.query, unlimited]
      rfl
    rw [Query.sql_eq, reads.origin, unfiltered, unordered, unjoined, uncut]
    simp only [Source.sql, joinsSql, filterSql, orderSql, limitSql, List.isEmpty_nil, if_true,
      List.append_nil, List.append_assoc]
    rfl
  · simp only [Sql.constants_append, Sql.constants_text, Sql.constants_join bare, List.append_nil]
  · simp only [Sql.inline_append, Sql.inline_text, Sql.inline_join, texts, String.append_assoc]
    rfl

/-- The children of all parents, as text. The subquery has the parent's key under a name of its own, then what
the lateral subquery reads for each parent. -/
theorem perParent_form (child : Relation) (parent : Model) (keys : KeyMapping)
    (limit bound : Option Nat) :
    Sql.form bound (child.perParent parent keys limit).query.sql =
      "SELECT " ++ ", ".intercalate
          ((child.model.choice.withFirst keys.foreignKeyAlias).references child.table.name) ++
        " FROM (SELECT " ++ Sql.name parent.table.name ++ "." ++ Sql.name keys.primaryKey ++ " AS " ++
        (keys.foreignKeyAlias ++ (", " ++ Sql.name lateralName ++ ".* FROM " ++
          Sql.name parent.table.name ++ " INNER JOIN LATERAL (" ++
          Sql.form bound (child.correlated (parent.all.column keys.primaryKey) keys limit).query.sql ++
          ") " ++ (lateralName ++ (" ON TRUE) " ++ child.table.name)))) := by
  obtain ⟨outer, whole, bare, front⟩ := child.perParent_sql parent keys limit
  obtain ⟨before, after, beside, plain, closed, key, lateral⟩ := child.besideParent_sql parent keys limit
  rw [whole, Sql.form_append_right (Sql.constants_text _), Sql.form_append_left bare, beside,
    Sql.form_append_right closed, Sql.form_append_left plain, front, key, lateral]
  have opened : " FROM (SELECT " = " FROM (" ++ "SELECT " := rfl
  have done : " ON TRUE) " = " ON TRUE" ++ ") " := rfl
  rw [opened, done]
  simp only [Sql.inline_text, String.append_assoc]

theorem perParent_column (child : Relation) (parent : Model) (keys : KeyMapping) (limit : Option Nat)
    (name : String) :
    ((child.perParent parent keys limit).column name).sql.inline =
      Sql.name child.table.name ++ ("." ++ Sql.name name) := by
  have qualified := (child.perParent_reads parent keys limit).qualifier
  rw [column, Expr.sql, ColumnRef.sql, Sql.inline_text, String.append_assoc]
  exact congrArg (fun qualifier => Sql.name qualifier ++ ("." ++ Sql.name name)) qualified.symm

end Relation

/-- The lateral subquery is read by the name that it is referred to by. -/
theorem lateralName_isPlain (alphabet : Alphabet) : alphabet.isPlain lateralName = true := by
  rw [alphabet.isPlain_ascii (by simp [lateralName])]
  decide +kernel

/-- The children of every association of a built schema have a text that introduces the name of the key, that
of the lateral subquery and their own. References read as these names. The lateral subquery's name is read as
itself where it is introduced, and each of the others is exactly if it is plain. -/
theorem Association.scopeFor_reads_names {tables : List TableDefinition} {models : List ModelDefinition}
    {schema : Schema} {owner : Model} {association : Association}
    (built : Schema.build tables models = .ok schema) (known : owner ∈ schema.models)
    (associated : association ∈ owner.associations) (alphabet : Alphabet) (bound : Option Nat) :
    ∃ target scope, schema.model? association.target = some target ∧
      association.scopeFor schema owner = .ok scope ∧
      let keyName := association.keys.foreignKeyAlias
      let ownName := (association.children owner target).table.name
      let references := (target.choice.withFirst keyName).references ownName
      ∃ fromKey fromLateral between,
        Sql.form bound scope.query.sql = "SELECT " ++ ", ".intercalate references ++ " FROM (SELECT " ++
          Sql.name owner.table.name ++ "." ++ Sql.name association.keys.primaryKey ++ " AS " ++ fromKey ∧
        fromKey = keyName ++ (", " ++ Sql.name lateralName ++ ".* FROM " ++ between ++ ") " ++ fromLateral) ∧
        fromLateral = lateralName ++ (" ON TRUE) " ++ ownName) ∧
        (scope.column keyName).sql.inline = Sql.name ownName ++ ("." ++ Sql.name keyName) ∧
        (∀ reference ∈ references, alphabet.identifier? reference = some ownName) ∧
        alphabet.identifier? (Sql.name keyName) = some keyName ∧
        alphabet.identifier? (Sql.name lateralName) = some lateralName ∧
        alphabet.identifier? fromLateral = some lateralName ∧
        (alphabet.identifier? fromKey = some keyName ↔ alphabet.isPlain keyName = true) ∧
        (alphabet.identifier? ownName = some ownName ↔ alphabet.isPlain ownName = true) := by
  obtain ⟨target, found⟩ :=
    Option.isSome_iff_exists.mp ((Schema.sound_of_build built).targets owner known association associated)
  let child := association.children owner target
  let keys := association.keys
  let between := Sql.name owner.table.name ++ " INNER JOIN LATERAL (" ++
    Sql.form bound (child.correlated (owner.all.column keys.primaryKey) keys association.limit).query.sql
  let fromLateral := lateralName ++ (" ON TRUE) " ++ child.table.name)
  let fromKey := keys.foreignKeyAlias ++
    (", " ++ Sql.name lateralName ++ ".* FROM " ++ between ++ ") " ++ fromLateral)
  have reached : association.scopeFor schema owner = .ok (child.perParent owner keys association.limit) := by
    rw [scopeFor, Schema.model, found]
    rfl
  have text := child.perParent_form owner keys association.limit bound
  rw [association.children_model owner target] at text
  have quoted (name : String) : alphabet.identifier? (Sql.name name) = some name := by
    have read := @Alphabet.identifier?_name alphabet name "" (by simp)
    rwa [String.append_empty] at read
  have own : alphabet.identifier? child.table.name = some child.table.name ↔
      alphabet.isPlain child.table.name = true := by
    have read := Alphabet.identifier?_iff alphabet.ends_nil child.table.name
    rwa [String.append_empty] at read
  refine ⟨target, _, found, reached, fromKey, fromLateral, between, ?_, rfl, rfl,
    child.perParent_column owner keys association.limit _,
    (target.choice.withFirst _).references_read alphabet _, quoted _, quoted _, ?_, ?_, own⟩
  · rw [text]
    simp only [fromKey, fromLateral, between, String.append_assoc]
    rfl
  · have ends : alphabet.Ends (" ON TRUE) " ++ child.table.name) :=
      alphabet.ends_ascii (c := ' ') (by simp) (by decide) (by decide) (by decide)
    exact (Alphabet.identifier?_iff ends lateralName).mpr (lateralName_isPlain alphabet)
  · refine Alphabet.identifier?_iff (alphabet.ends_ascii (c := ',') ?_ (by decide) (by decide) (by decide)) _
    simp [String.append_assoc]

namespace Sample

/-- The names that the children of owners have are plain. -/
theorem scopeFor_reads_names_parent :
    Schema.build tables models = .ok schema ∧ owner ∈ schema.models ∧ notes ∈ owner.associations ∧
    ∃ scope front fromKey fromOwn, notes.scopeFor schema owner = .ok scope ∧
      scope.query.sql.inline =
        "SELECT \"notes\".\"parent\", \"notes\".\"id\", \"notes\".\"owner_code\" FROM (" ++
          "SELECT \"owners\".\"code\" AS " ++ fromKey ∧
      fromKey = front ++ ") " ++ fromOwn ∧
      Alphabet.ascii.identifier? fromKey = some "parent" ∧
      Alphabet.ascii.identifier? fromOwn = some "notes" := by
  have known : owner ∈ schema.models := List.mem_cons_self
  have associated : notes ∈ owner.associations := List.mem_cons_self
  obtain ⟨target, scope, found, reached, fromKey, fromLateral, between, text, keyed, lateral, -, -, -, -, -,
    key, own⟩ := notes.scopeFor_reads_names built known associated .ascii none
  cases found
  have plain : Alphabet.ascii.isPlain "parent" = true ∧ Alphabet.ascii.isPlain "notes" = true := by
    decide +kernel
  have items : "SELECT " ++ ", ".intercalate ((note.choice.withFirst notes.keys.foreignKeyAlias).references
        (notes.children owner note).table.name) ++
      " FROM (SELECT " ++ Sql.name owner.table.name ++ "." ++ Sql.name notes.keys.primaryKey ++ " AS " =
      "SELECT \"notes\".\"parent\", \"notes\".\"id\", \"notes\".\"owner_code\" FROM (" ++
        "SELECT \"owners\".\"code\" AS " := by cbv
  let front := "parent" ++ (", " ++ Sql.name lateralName ++ ".* FROM " ++ between ++ ") " ++ lateralName) ++
    " ON TRUE"
  refine ⟨built, known, associated, scope, front, fromKey, "notes", reached,
    text.trans (congrArg (· ++ fromKey) items), ?_, key.mpr plain.1, own.mpr plain.2⟩
  have done : " ON TRUE) " = " ON TRUE" ++ ") " := rfl
  rw [keyed, lateral, done]
  simp only [front, String.append_assoc]
  rfl

end Sample

/-!
Owners and notes in tables whose names are written with capitals.
-/

namespace Capitals

def tables : List TableDefinition := [
  ⟨"Owners", [.primaryKey "id"]⟩,
  ⟨"Notes", [.primaryKey "id", .column "ownerId" (.integer 8) false, .column "body" .text false]⟩]

def models : List ModelDefinition := [
  ⟨"Owner", "Owners", none, [],
    [⟨false, "notes", "Note", [.orderByDesc "id", .limit 2], none, some "ownerId", none⟩]⟩,
  ⟨"Note", "Notes", none, ["body"], []⟩]

def ownerTable : Table := ⟨"Owners", [⟨"id", .integer 8, false, true, true⟩]⟩

def noteTable : Table :=
  ⟨"Notes", [⟨"id", .integer 8, false, true, true⟩, ⟨"ownerId", .integer 8, false, false, false⟩,
    ⟨"body", .text, false, false, false⟩]⟩

def notes : Association :=
  ⟨"notes", false, "Note", [.orderByDesc "id", .limit 2], ⟨"id", "ownerId", "ownerId_alias"⟩⟩

def owner : Model := ⟨"Owner", ownerTable, "id", [], [notes]⟩

def note : Model := ⟨"Note", noteTable, "id", ["body"], []⟩

def schema : Schema := ⟨[ownerTable, noteTable], [owner, note]⟩

/-- What goes by `Notes`, and its key `ownerId_alias`, are read in small letters, but not where they are
referred to. -/
theorem scopeFor_misreads_names :
    Schema.build tables models = .ok schema ∧ owner ∈ schema.models ∧ notes ∈ owner.associations ∧
    ∃ scope fromKey, notes.scopeFor schema owner = .ok scope ∧
      scope.query.sql.inline =
        "SELECT \"Notes\".\"ownerId_alias\", \"Notes\".\"id\", \"Notes\".\"ownerId\" FROM (" ++
          "SELECT \"Owners\".\"id\" AS " ++ ("ownerId_alias" ++ fromKey) ∧
      fromKey = ", \"lateral_table\".* FROM \"Owners\" INNER JOIN LATERAL (" ++
          "SELECT \"Notes\".\"id\", \"Notes\".\"ownerId\" FROM \"Notes\" " ++
          "WHERE \"Notes\".\"ownerId\" = \"Owners\".\"id\" ORDER BY \"Notes\".\"id\" DESC LIMIT 2" ++
        ") lateral_table ON TRUE) " ++ "Notes" ∧
      Alphabet.ascii.identifier? ("ownerId_alias" ++ fromKey) ≠ some "ownerId_alias" ∧
      Alphabet.ascii.identifier? (Sql.name "ownerId_alias") = some "ownerId_alias" ∧
      Alphabet.ascii.identifier? "Notes" = some "notes" ∧
      Alphabet.ascii.identifier? (Sql.name "Notes") = some "Notes" := by
  refine ⟨rfl, List.mem_cons_self, List.mem_cons_self, _, _, rfl, by decide +kernel, rfl, ?_, by decide +kernel,
    by decide +kernel, by decide +kernel⟩
  refine (Alphabet.identifier?_iff (Alphabet.ascii.ends_ascii (c := ',') ?_ (by decide) (by decide)
    (by decide)) _).not.mpr (by decide +kernel)
  simp

end Capitals

end Relata
