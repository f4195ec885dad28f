import Relata.Proofs.Session.Batches

/-!
What is executed. However many records there are, a preload executes one query for the relation and one for
each association that some of the records have a key for. A walk executes this for each page, with one page
more where the last one is full.
-/

namespace Relata

/-- Some of the records have a key that is not null. -/
def Association.keyed (association : Association) (records : List Record) : Bool :=
  records.any fun record => (record.get? association.keys.primaryKey).any fun key => !key.isNull

/-- Each page, followed by what belongs to it. -/
def inTurn {α : Type} : List α → List (List α) → List α
  | [], _ => []
  | page :: pages, [] => page :: pages
  | page :: pages, group :: groups => page :: (group ++ inTurn pages groups)

namespace Session

def queries (relations : List Relation) : List Statement :=
  relations.map fun relation => .query relation.query

/-- The queries for the associations that some of the records have a key for. -/
def keyedScopes (schema : Schema) (owner : Model) (associations : List Association)
    (records : List Record) : Except Error (List Relation) :=
  (associations.filter (·.keyed records)).mapM fun association =>
    association.scopeForOwners schema owner (keysOf records association.keys.primaryKey)

/-- The last key of a batch. -/
def tailKey (relation : Relation) (batch : List Record) : Option Value :=
  batch.getLast?.bind (·.get? relation.model.primaryKey)

variable {schema : Schema} {session other after : Session} {relation : Relation} {owner : Model}
  {association : Association} {associations : List Association} {names : List String}
  {records loaded rest sorted : List Record} {scopes : List Relation}

theorem keyed_iff : association.keyed records = true ↔
    ∃ record ∈ records, ∃ key, record.get? association.keys.primaryKey = some key ∧ key ≠ .null := by
  rw [Association.keyed, List.any_eq_true]
  refine exists_congr fun record => and_congr_right fun _ => ?_
  cases record.get? association.keys.primaryKey with
  | none => simp
  | some key => simp [← Value.isNull_iff]

theorem keyed_eq_not_isEmpty : association.keyed records =
    !(keysOf records association.keys.primaryKey).isEmpty := by
  rw [Bool.eq_iff_iff, keyed_iff, Bool.not_eq_true', List.isEmpty_eq_false_iff_exists_mem]
  constructor
  · rintro ⟨record, inside, key, own, nonnull⟩
    exact ⟨key, mem_keysOf.mpr ⟨nonnull, record, inside, own⟩⟩
  · rintro ⟨key, inside⟩
    obtain ⟨nonnull, record, inside, own⟩ := mem_keysOf.mp inside
    exact ⟨record, inside, key, own, nonnull⟩

/-- The keys are in the values, whatever else is loaded. -/
theorem keysOf_congr (values : loaded.map (·.values) = records.map (·.values)) (column : String) :
    keysOf loaded column = keysOf records column := by
  have own : ∀ records : List Record, records.filterMap (·.get? column) =
      (records.map (·.values)).filterMap fun values => Entries.get? values column := fun records => by
    rw [List.filterMap_map]
    rfl
  rw [keysOf, keysOf, own, own, values]

theorem keyed_congr (values : loaded.map (·.values) = records.map (·.values)) :
    association.keyed loaded = association.keyed records := by
  rw [keyed_eq_not_isEmpty, keyed_eq_not_isEmpty, keysOf_congr values]

theorem keyedScopes_congr (values : loaded.map (·.values) = records.map (·.values)) :
    keyedScopes schema owner associations loaded = keyedScopes schema owner associations records := by
  simp only [keyedScopes, keyed_congr values, keysOf_congr values]

theorem keyedScopes_nil (schema : Schema) (owner : Model) (associations : List Association) :
    keyedScopes schema owner associations [] = .ok [] := by
  have none : associations.filter (·.keyed []) = [] := List.filter_eq_nil_iff.mpr fun _ _ => Bool.false_ne_true
  rw [keyedScopes, none]
  rfl

theorem all_executes {answer : Except Failure (List Record)}
    (done : (all relation).on session = (answer, after)) : after = session.after relation := by
  rw [all, Action.on_bind, exec_on, Engine.exec_query] at done
  cases ran : (session.engine.exec (.query relation.query)).1 <;> rw [ran] at done <;> cases done <;> rfl

/-- A successful load executes a query exactly if there is a key. -/
theorem loadAssociation_executes
    (done : (loadAssociation owner association records).on session = (.ok loaded, after)) :
    loaded.map (·.values) = records.map (·.values) ∧
      if association.keyed records then ∃ scope, after = session.after scope ∧
        association.scopeForOwners session.schema owner
          (keysOf records association.keys.primaryKey) = .ok scope
      else after = session := by
  rw [keyed_eq_not_isEmpty]
  rw [loadAssociation] at done
  by_cases none : (keysOf records association.keys.primaryKey).isEmpty = true
  · rw [if_pos none] at done
    cases done
    rw [none]
    exact ⟨values_withChildren association [] records, rfl⟩
  · rw [if_neg none] at done
    rw [Bool.not_eq_true] at none
    obtain ⟨current, _, got, selects⟩ := Action.exists_of_on_bind done
    cases got
    obtain ⟨scope, _, answer, fetches⟩ := Action.exists_of_on_bind selects
    obtain ⟨selected, rfl⟩ := Action.of_on_ofExcept answer
    obtain ⟨children, _, fetched, last⟩ := Action.exists_of_on_bind fetches
    cases last
    rw [none]
    exact ⟨values_withChildren association children records, scope, all_executes fetched, selected⟩

theorem loadAssociations_executes
    (done : (loadAssociations owner associations records).run session = ((.ok (), loaded), after)) :
    loaded.map (·.values) = records.map (·.values) ∧
      ∃ scopes, keyedScopes session.schema owner associations records = .ok scopes ∧
        after.log = session.log ++ queries scopes := by
  induction associations generalizing session records with
  | nil =>
      cases done
      exact ⟨rfl, [], rfl, (List.append_nil _).symm⟩
  | cons association associations ih =>
      rw [loadAssociations_cons] at done
      cases first : (loadAssociation owner association records).on session with
      | mk answer middle =>
          rw [first] at done
          cases answer with
          | error failure => cases done
          | ok more =>
              obtain ⟨values, once⟩ := loadAssociation_executes first
              obtain ⟨later, scopes, selected, log⟩ := ih done
              refine ⟨later.trans values, ?_⟩
              rw [keyedScopes_congr values] at selected
              cases keyed : association.keyed records with
              | false =>
                  rw [keyed] at once
                  cases once
                  refine ⟨scopes, ?_, log⟩
                  rw [keyedScopes, List.filter_cons_of_neg (by simp [keyed])]
                  exact selected
              | true =>
                  rw [keyed] at once
                  obtain ⟨scope, rfl, own⟩ := once
                  refine ⟨scope :: scopes, ?_, ?_⟩
                  · rw [keyedScopes, List.filter_cons_of_pos (by exact keyed), List.mapM_cons, own]
                    exact congrArg (Except.map (scope :: ·)) selected
                  · rw [log]
                    exact List.append_assoc _ _ _

theorem requireLateral_executes {answer : Except Failure Unit}
    (done : requireLateral.on session = (answer, after)) : after = session := by
  cases present : session.capability.lateralJoin with
  | true =>
      rw [requireLateral_passes present] at done
      cases done
      rfl
  | false =>
      rw [requireLateral_refuses present] at done
      cases done
      rfl

theorem resolve_executes (done : (resolve owner names).on session = (.ok associations, after)) :
    names.mapM owner.association = .ok associations ∧ after = session := by
  obtain ⟨found, _, answer, last⟩ := Action.exists_of_on_bind done
  obtain ⟨resolved, rfl⟩ := Action.of_on_ofExcept answer
  by_cases empty : found.isEmpty = true
  · rw [if_pos empty] at last
    cases last
    exact ⟨resolved, rfl⟩
  · rw [if_neg empty] at last
    obtain ⟨_, _, lateral, last⟩ := Action.exists_of_on_bind last
    cases requireLateral_executes lateral
    cases last
    exact ⟨resolved, rfl⟩

/-- A successful preload executes a query for the relation, then one for each association that some of the
loaded records have a key for. -/
theorem preload_executes (done : (preload relation names).on session = (.ok loaded, after)) :
    ∃ associations scopes, names.mapM relation.model.association = .ok associations ∧
      keyedScopes session.schema relation.model associations loaded = .ok scopes ∧
      after.log = session.log ++ queries (relation :: scopes) := by
  obtain ⟨associations, resolving, resolves, fetches⟩ := Action.exists_of_on_bind done
  obtain ⟨resolved, rfl⟩ := resolve_executes resolves
  obtain ⟨records, _, fetched, loads⟩ := Action.exists_of_on_bind fetches
  cases all_executes fetched
  rw [Action.on_bind, Action.on_liftM] at loads
  cases ran : (loadAssociations relation.model associations records).run (resolving.after relation) with
  | mk outcome last =>
      rw [ran] at loads
      obtain ⟨failure | _, more⟩ := outcome
      · cases loads
      · cases loads
        obtain ⟨values, scopes, selected, log⟩ := loadAssociations_executes ran
        refine ⟨associations, scopes, resolved, (keyedScopes_congr values).trans selected, ?_⟩
        rw [log]
        exact List.append_assoc _ _ _

/-- A page that loads leaves the tables as they are. -/
theorem preload_serves (served : other.Serves schema) (sound : schema.Sound) (known : owner ∈ schema.models)
    (model : relation.model = owner) (resolved : names.mapM owner.association = .ok associations)
    (fetched : other.records relation = .ok records)
    (done : (preload relation names).on other = (.ok loaded, after)) :
    after.Serves schema ∧ after.engine = other.engine ∧
      loaded.map (·.values) = records.map (·.values) := by
  subst model
  have targeted := fun association inside => (named_of_resolved sound known resolved association inside).2
  obtain ⟨serves, same, values⟩ :=
    @loadAssociations_keeps _ _ relation.model (served.after relation) _ targeted records
  rw [preload_on served resolved fetched] at done
  cases ran : (loadAssociations relation.model associations records).run (other.after relation) with
  | mk outcome last =>
      rw [ran] at done serves same values
      obtain ⟨failure | _, more⟩ := outcome
      · cases done
      · cases done
        exact ⟨serves, same, values⟩

theorem length_keyedScopes (keyed : ∀ association ∈ associations, association.keyed records = true)
    (selected : keyedScopes schema owner associations records = .ok scopes) :
    scopes.length = associations.length := by
  rw [keyedScopes, List.filter_eq_self.mpr keyed] at selected
  exact (forall₂_of_mapM selected).length_eq.symm

/-- The pages of a walk over so many records: the first one behind a key, the others behind the batches. -/
def pagesOf (relation : Relation) (size count : Nat) (last : Option Value) (batches : List (List Record)) :
    List Relation :=
  ((last :: batches.map (tailKey relation)).take (count / size + 1)).map fun last =>
    page (byKey relation) last size

theorem pagesOf_short {size count : Nat} (short : count < size) (relation : Relation) (last : Option Value)
    (batches : List (List Record)) :
    pagesOf relation size count last batches = [page (byKey relation) last size] := by
  rw [pagesOf, Nat.div_eq_of_lt short]
  rfl

theorem pagesOf_full {size count : Nat} (positive : 0 < size) (full : size ≤ count) (relation : Relation)
    (last : Option Value) (batch : List Record) (batches : List (List Record)) :
    pagesOf relation size count last (batch :: batches) = page (byKey relation) last size ::
      pagesOf relation size (count - size) (tailKey relation batch) batches := by
  rw [pagesOf, Nat.div_eq_sub_div positive full]
  rfl

theorem length_pagesOf {size count : Nat} (positive : 0 < size) (relation : Relation) (last : Option Value)
    {batches : List (List Record)} (pieces : batches.length = (count + size - 1) / size) :
    (pagesOf relation size count last batches).length = count / size + 1 := by
  have fewer : count / size ≤ (count + size - 1) / size := Nat.div_le_div_right (by omega)
  rw [pagesOf, List.length_map, List.length_take, List.length_cons, List.length_map, pieces]
  omega

theorem pieces_succ {size count : Nat} (positive : 0 < size) (some : 0 < count) :
    (count + size - 1) / size = (count - size + size - 1) / size + 1 := by
  have shifted : count + size - 1 = count - 1 + size := by omega
  rw [shifted, Nat.add_div_right _ positive]
  by_cases short : count < size
  · rw [Nat.div_eq_of_lt (by omega), Nat.div_eq_of_lt (by omega)]
  · have same : count - size + size - 1 = count - 1 := by omega
    rw [same]

variable {last : Option Value} {size bound : Nat} {visit : List (List Record) → Option Error}
  {shown all : List (List Record)}

/-- A page loads what the walk has left, and executes its own query and those for the associations. -/
theorem page_executes (serves : session.Serves schema) (sound : schema.Sound)
    (known : relation.model ∈ schema.models)
    (resolved : names.mapM relation.model.association = .ok associations)
    (paged : session.Paged relation sorted)
    (fits : size ≤ 9223372036854775807 ∨ sorted.length ≤ 9223372036854775807)
    (served : other.Serves schema) (same : other.engine = session.engine)
    (seen : ∀ key ∈ last, ∃ record ∈ sorted, record.get? relation.model.primaryKey = some key)
    (left : (sorted.filter fun record =>
      last.all (record.follows relation.model.primaryKey)) = rest)
    (done : (preload (page (byKey relation) last size) names).on other = (.ok loaded, after)) :
    after.Serves schema ∧ after.engine = session.engine ∧
      loaded.map (·.values) = (rest.take size).map (·.values) ∧
      ∃ scopes, keyedScopes schema relation.model associations loaded = .ok scopes ∧
        after.log = other.log ++ queries (page (byKey relation) last size :: scopes) := by
  have model : (page (byKey relation) last size).model = relation.model := by
    cases last <;> rfl
  have fetched : other.records (page (byKey relation) last size) = .ok (rest.take size) := by
    rw [records_congr serves served same, paged.fetched fits seen left]
  obtain ⟨kept, unchanged, values⟩ := preload_serves served sound known model resolved fetched done
  obtain ⟨own, scopes, found, selected, log⟩ := preload_executes done
  rw [model, resolved] at found
  cases found
  rw [model, served.served] at selected
  exact ⟨kept, unchanged.trans same, values, scopes, selected, log⟩

/-- A walk that ends has seen no record on its page, or the last of them, or goes on behind a full page. -/
theorem walkFrom_finished {base : Relation}
    (done : (walkFrom base size names visit (bound + 1) last shown).run session =
      (⟨all, .finished⟩, after)) :
    ∃ batch middle, (preload (page base last size) names).on session = (.ok batch, middle) ∧
      (batch = [] ∧ all = shown ∧ after = middle ∨
        (∃ before tail, batch = before ++ [tail] ∧ all = shown ++ [batch] ∧ after = middle ∧
          (batch.length < size ∨ tail.get? base.model.primaryKey = none)) ∨
        ∃ before tail key, batch = before ++ [tail] ∧ size ≤ batch.length ∧
          tail.get? base.model.primaryKey = some key ∧
          (walkFrom base size names visit bound (some key) (shown ++ [batch])).run middle =
            (⟨all, .finished⟩, after)) := by
  rw [walkFrom_succ] at done
  cases loads : (preload (page base last size) names).on session with
  | mk answer middle =>
      rw [loads] at done
      cases answer with
      | error failure => cases done
      | ok batch =>
          refine ⟨batch, middle, rfl, ?_⟩
          obtain rfl | ⟨before, tail, rfl⟩ := List.eq_nil_or_concat' batch
          · cases done
            exact .inl ⟨rfl, rfl, rfl⟩
          · simp only [List.getLast?_concat] at done
            cases passes : visit (shown ++ [before ++ [tail]]) with
            | some e =>
                rw [passes] at done
                cases done
            | none =>
                rw [passes] at done
                dsimp only at done
                split at done
                · rename_i stops
                  cases done
                  refine .inr (.inl ⟨before, tail, rfl, rfl, rfl, ?_⟩)
                  simpa using stops
                · rename_i further
                  rw [Bool.or_eq_true, not_or, decide_eq_true_eq, Option.isNone_iff_eq_none] at further
                  obtain ⟨key, own⟩ := Option.ne_none_iff_exists'.mp further.2
                  rw [own] at done
                  exact .inr (.inr ⟨before, tail, key, rfl, Nat.le_of_not_lt further.1, own, done⟩)

/-- A walk that ends executes, from the key that it is at, each page and what is loaded for it. -/
theorem walkFrom_executes (serves : session.Serves schema) (sound : schema.Sound)
    (known : relation.model ∈ schema.models)
    (resolved : names.mapM relation.model.association = .ok associations)
    (paged : session.Paged relation sorted) (positive : 0 < size)
    (fits : size ≤ 9223372036854775807 ∨ sorted.length ≤ 9223372036854775807)
    (served : other.Serves schema) (same : other.engine = session.engine)
    (seen : ∀ key ∈ last, ∃ record ∈ sorted, record.get? relation.model.primaryKey = some key)
    (left : (sorted.filter fun record =>
      last.all (record.follows relation.model.primaryKey)) = rest)
    (done : (walkFrom (byKey relation) size names visit bound last shown).run other =
      (⟨all, .finished⟩, after)) :
    ∃ batches groups, all = shown ++ batches ∧ batches.length = (rest.length + size - 1) / size ∧
      List.Forall₂ (fun batch group => keyedScopes schema relation.model associations batch = .ok group)
        batches groups ∧
      after.log = other.log ++ queries (inTurn (pagesOf relation size rest.length last batches) groups) := by
  -- Behind the last key seen there is always what the pages so far have left over.
  induction bound generalizing last shown rest other with
  | zero => cases done
  | succ bound ih =>
      obtain ⟨batch, middle, loads, step⟩ := walkFrom_finished done
      obtain ⟨kept, unchanged, values, scopes, selected, log⟩ :=
        page_executes serves sound known resolved paged fits served same seen left loads
      have length : batch.length = min size rest.length := by
        rw [← List.length_map, values, List.length_map, List.length_take]
      rcases step with ⟨rfl, rfl, rfl⟩ | ⟨before, tail, rfl, rfl, rfl, stops⟩ |
        ⟨before, tail, key, rfl, full, own, further⟩
      · have empty : rest.length = 0 := by
          rw [List.length_nil] at length
          omega
        rw [keyedScopes_nil] at selected
        cases selected
        refine ⟨[], [], (List.append_nil _).symm, ?_, .nil, ?_⟩
        · rw [empty, Nat.zero_add, Nat.div_eq_of_lt (by omega)]
          rfl
        · rw [pagesOf_short (by omega), log]
          rfl
      · have more : rest ≠ [] := fun empty => by simp [empty] at length
        obtain ⟨_, _, record, key, ended, inside, held, own, behind⟩ := paged.next left positive more values
        obtain ⟨rfl, same⟩ := List.append_inj' ended rfl
        cases same
        have keyed : tail.get? (byKey relation).model.primaryKey ≠ none := by
          change tail.get? relation.model.primaryKey ≠ none
          simp [own]
        have short := stops.resolve_right keyed
        have none : rest.length - size = 0 := by omega
        refine ⟨[before ++ [tail]], [scopes], rfl, ?_, .cons selected .nil, ?_⟩
        · rw [pieces_succ positive (List.length_pos_iff.mpr more), none, Nat.div_eq_of_lt (by omega)]
          rfl
        · rw [pagesOf_short (by omega), log]
          simp [inTurn, queries]
      · have more : rest ≠ [] := fun empty => by simp [empty] at length
        obtain ⟨_, _, record, _, ended, inside, held, has, behind⟩ := paged.next left positive more values
        obtain ⟨rfl, same⟩ := List.append_inj' ended rfl
        cases same
        cases own.symm.trans has
        have reached : ∀ last ∈ some key, ∃ record ∈ sorted,
            record.get? relation.model.primaryKey = some last := by
          rintro _ ⟨⟩
          exact ⟨record, inside, held⟩
        have tailed : tailKey relation (before ++ [tail]) = some key := by
          rw [tailKey, List.getLast?_concat]
          exact own
        obtain ⟨batches, groups, rfl, pieces, executed, later⟩ := ih kept unchanged reached behind further
        rw [List.length_drop] at pieces later
        refine ⟨(before ++ [tail]) :: batches, scopes :: groups, List.append_assoc _ _ _, ?_,
          .cons selected executed, ?_⟩
        · rw [pieces_succ positive (List.length_pos_iff.mpr more), List.length_cons, pieces]
        · rw [pagesOf_full positive (by omega), tailed, later, log]
          simp [inTurn, queries]

/-- The conditions under which a walk shows every matching record once. -/
structure WalksOnce (session : Session) (schema : Schema) (relation : Relation) (size : Nat)
    (matching : List Record) : Prop where
  known : relation.model ∈ schema.models
  direct : relation.Direct relation.model.table.name
  single : relation.joins = []
  distinct : relation.model.table.columnNames.Nodup
  matched : session.records relation.bare = .ok matching
  nonnull : ∀ record ∈ matching, record.get? relation.model.primaryKey ≠ some .null
  once : (matching.map (·.get? relation.model.primaryKey)).Nodup
  positive : 0 < size
  fits : size ≤ 9223372036854775807 ∨ matching.length ≤ 9223372036854775807

/-- Where all associations have keys, each is loaded by a query of its own. -/
theorem length_flatten_groups {batches : List (List Record)} {groups : List (List Relation)}
    (executed : List.Forall₂ (fun batch group => keyedScopes schema owner associations batch = .ok group)
      batches groups)
    (keyed : ∀ batch ∈ batches, ∀ association ∈ associations, association.keyed batch = true) :
    groups.flatten.length = associations.length * batches.length := by
  induction executed with
  | nil => rfl
  | cons selected _ ih =>
      obtain ⟨first, others⟩ := List.forall_mem_cons.mp keyed
      rw [List.flatten_cons, List.length_append, ih others, length_keyedScopes first selected, List.length_cons,
        Nat.mul_succ, Nat.add_comm]

theorem findInBatches_executes {matching : List Record} {batches : List (List Record)}
    (sound : schema.Sound) (serves : session.Serves schema)
    (walks : session.WalksOnce schema relation size matching)
    (resolved : names.mapM relation.model.association = .ok associations)
    (done : (findInBatches relation size names visit).run session = (⟨batches, .finished⟩, after)) :
    ∃ groups, batches.length = (matching.length + size - 1) / size ∧
      List.Forall₂ (fun batch group => keyedScopes schema relation.model associations batch = .ok group)
        batches groups ∧
      after.log =
        session.log ++ queries (inTurn (pagesOf relation size matching.length none batches) groups) := by
  obtain ⟨sorted, perm, few, paged⟩ := exists_paged serves sound walks.known walks.direct walks.single
    walks.distinct walks.matched walks.nonnull walks.once
  have small : size ≤ 9223372036854775807 ∨ sorted.length ≤ 9223372036854775807 := by
    rw [perm.length_eq]
    exact walks.fits
  rw [findInBatches_run walks.positive] at done
  have whole : (sorted.filter fun record =>
      (none : Option Value).all (record.follows relation.model.primaryKey)) = sorted := List.filter_true sorted
  obtain ⟨shown, groups, rfl, pieces, executed, log⟩ := walkFrom_executes serves sound walks.known resolved
    paged walks.positive small serves rfl (by simp) whole done
  rw [perm.length_eq] at pieces log
  exact ⟨groups, pieces, executed, log⟩

/-- A preload executes one query, and one more for each name that some of the loaded records have a key for. A
walk executes a query for each page and then one for each name. Rows count only by the pages that they fill. -/
theorem executes_by_page :
    (∀ session relation names loaded after, (preload relation names).on session = (.ok loaded, after) →
      ∃ associations scopes, names.mapM relation.model.association = .ok associations ∧
        keyedScopes session.schema relation.model associations loaded = .ok scopes ∧
        scopes.length = (associations.filter (·.keyed loaded)).length ∧
        after.log = session.log ++ queries (relation :: scopes)) ∧
    ∀ tables models schema session relation size names visit matching associations batches after,
      Schema.build tables models = .ok schema → session.Reached schema →
      session.WalksOnce schema relation size matching →
      names.mapM relation.model.association = .ok associations →
      (findInBatches relation size names visit).run session = (⟨batches, .finished⟩, after) →
      (∀ batch ∈ batches, ∀ association ∈ associations, association.keyed batch = true) →
      ∃ pages groups, pages = pagesOf relation size matching.length none batches ∧
        List.Forall₂ (fun batch group => keyedScopes schema relation.model associations batch = .ok group)
          batches groups ∧
        batches.length = (matching.length + size - 1) / size ∧
        pages.length = matching.length / size + 1 ∧
        groups.flatten.length = names.length * ((matching.length + size - 1) / size) ∧
        after.log = session.log ++ queries (inTurn pages groups) := by
  refine ⟨fun session relation names loaded after done => ?_, ?_⟩
  · obtain ⟨associations, scopes, resolved, selected, log⟩ := preload_executes done
    exact ⟨associations, scopes, resolved, selected, (forall₂_of_mapM selected).length_eq.symm, log⟩
  · intro tables models schema session relation size names visit matching associations batches after
      built reached walks resolved done keyed
    obtain ⟨groups, pieces, executed, log⟩ :=
      findInBatches_executes (Schema.sound_of_build built) reached.serves walks resolved done
    refine ⟨_, groups, rfl, executed, pieces, length_pagesOf walks.positive relation none pieces, ?_, log⟩
    rw [length_flatten_groups executed keyed, pieces, ← (forall₂_of_mapM resolved).length_eq]

end Session

namespace Sample

theorem lastOwner_walksOnce : session.WalksOnce schema lastOwner 2 owners where
  known := List.mem_cons_self
  direct := ⟨⟨none, rfl⟩, rfl, rfl⟩
  single := rfl
  distinct := by decide
  matched := records_owners
  nonnull := by decide
  once := by decide
  positive := by decide
  fits := .inl (by decide)

/-- Three owners are a page of two and one of one, each with a query for its notes. -/
theorem executes_by_page_owners :
    (∃ after scopes, (Session.preload owner.all ["notes"]).on session = (.ok batches.flatten, after) ∧
      scopes.length = 1 ∧
      after.log = session.log ++ Session.queries (owner.all :: scopes)) ∧
    ∃ after pages groups,
      (Session.findInBatches lastOwner 2 ["notes"] fun _ => none).run session =
        (⟨batches, .finished⟩, after) ∧
      pages.length = 2 ∧ groups.flatten.length = 2 ∧
      after.log = session.log ++ Session.queries (inTurn pages groups) := by
  have resolved : ["notes"].mapM owner.association = .ok [notes] := rfl
  obtain ⟨preloads, walks⟩ := Session.executes_by_page
  refine ⟨?_, ?_⟩
  · have targeted : schema.model? notes.target = some note := rfl
    have keyed : Session.keysOf owners notes.keys.primaryKey = [.int 7, .int 8] := rfl
    have answered : ((Session.preload owner.all ["notes"]).on session).1 = .ok batches.flatten := by
      have model : owner.all.model = owner := rfl
      rw [Session.preload_on reached.serves resolved records_owners, model,
        Session.loadAssociations_loads (reached.serves.after owner.all) targeted keyed (by decide)
          ((Session.records_after reached.serves _ _).trans records_notes)]
      rfl
    have loaded : (Session.preload owner.all ["notes"]).on session =
        (.ok batches.flatten, ((Session.preload owner.all ["notes"]).on session).2) :=
      Prod.ext answered rfl
    obtain ⟨associations, scopes, found, _, length, log⟩ := preloads _ _ _ _ _ loaded
    cases found
    exact ⟨_, scopes, loaded, length, log⟩
  · obtain ⟨known, direct, single, distinct, matched, nonnull, once, positive, fits⟩ := lastOwner_walksOnce
    obtain ⟨sorted, perm, ordered, walk⟩ := Session.findInBatches_visited reached.serves
      (Schema.sound_of_build built) known direct single distinct matched nonnull once positive fits resolved
    cases eq_owners_of_perm perm ordered
    have shown : ((Session.findInBatches lastOwner 2 ["notes"] fun _ => none).run session).1 =
        ⟨batches, .finished⟩ := walk _ _ loads_batches
    have walked : (Session.findInBatches lastOwner 2 ["notes"] fun _ => none).run session =
        (⟨batches, .finished⟩,
          ((Session.findInBatches lastOwner 2 ["notes"] fun _ => none).run session).2) :=
      Prod.ext shown rfl
    obtain ⟨pages, groups, _, _, _, paged, grouped, log⟩ := walks tables models _ _ _ _ _ _ _ _ _ _ built
      reached lastOwner_walksOnce resolved walked (by decide)
    exact ⟨_, pages, groups, walked, paged, grouped, log⟩

end Sample

end Relata
