import Relata.Proofs.Session.Pages
import Relata.Proofs.Session.Preload

/-!
Walks in batches. A walk shows the matching records, sorted by primary key, in consecutive pieces of
the batch's size, each of them once, and ends.
-/

namespace Relata

section Chunks

variable {α : Type}

/-- A list in consecutive pieces of the size; the last one may be shorter. -/
def chunks (size : Nat) : List α → List (List α)
  | [] => []
  | a :: rest => (a :: rest.take (size - 1)) :: chunks size (rest.drop (size - 1))
termination_by items => items.length
decreasing_by
  simp only [List.length_drop, List.length_cons]
  omega

theorem chunks_of_ne_nil {size : Nat} {items : List α} (positive : 0 < size) (some : items ≠ []) :
    chunks size items = items.take size :: chunks size (items.drop size) := by
  obtain ⟨before, rfl⟩ := Nat.exists_eq_succ_of_ne_zero (Nat.ne_of_gt positive)
  cases items with
  | nil => exact absurd rfl some
  | cons a rest => rw [chunks, List.take_succ_cons, List.drop_succ_cons, Nat.succ_sub_one]

end Chunks

/-- Shows a visitor one batch after the other, until it fails or there are no more. -/
def visited (visit : List (List Record) → Option Error) (shown : List (List Record)) :
    List (List Record) → Walk
  | [] => ⟨shown, .finished⟩
  | batch :: rest =>
    match visit (shown ++ [batch]) with
    | some e => ⟨shown ++ [batch], .failed (.error e)⟩
    | none => visited visit (shown ++ [batch]) rest

section

variable {visit : List (List Record) → Option Error} {batches shown : List (List Record)}

theorem visited_finished (never : ∀ j < batches.length, visit (shown ++ batches.take (j + 1)) = none) :
    visited visit shown batches = ⟨shown ++ batches, .finished⟩ := by
  induction batches generalizing shown with
  | nil => rw [visited, List.append_nil]
  | cons batch rest ih =>
      have first : visit (shown ++ [batch]) = none := never 0 (by simp)
      have regrouped : shown ++ batch :: rest = shown ++ [batch] ++ rest := List.append_cons ..
      have later : ∀ j < rest.length, visit (shown ++ [batch] ++ rest.take (j + 1)) = none := by
        intro j bound
        have next := never (j + 1) (by simpa using bound)
        rwa [List.take_succ_cons, List.append_cons] at next
      rw [visited, first, regrouped]
      exact ih later

theorem visited_failed {j : Nat} {e : Error} (inside : j < batches.length)
    (before : ∀ i < j, visit (shown ++ batches.take (i + 1)) = none)
    (fails : visit (shown ++ batches.take (j + 1)) = some e) :
    visited visit shown batches = ⟨shown ++ batches.take (j + 1), .failed (.error e)⟩ := by
  induction batches generalizing shown j with
  | nil => cases inside
  | cons batch rest ih =>
      cases j with
      | zero =>
          have first : visit (shown ++ [batch]) = some e := fails
          rw [visited, first]
          rfl
      | succ j =>
          have first : visit (shown ++ [batch]) = none := before 0 (Nat.succ_pos j)
          rw [List.take_succ_cons, List.append_cons] at fails ⊢
          rw [visited, first]
          refine ih (by simpa using inside) (fun i earlier => ?_) fails
          have next := before (i + 1) (Nat.succ_lt_succ earlier)
          rwa [List.take_succ_cons, List.append_cons] at next

end

namespace Session

variable {schema : Schema} {session other : Session} {relation : Relation} {names : List String}
  {associations : List Association} {visit : List (List Record) → Option Error}
  {shown : List (List Record)} {last : Option Value} {size bound : Nat} {records : List Record}

theorem walkFrom_succ (base : Relation) (size : Nat) (names : List String)
    (visit : List (List Record) → Option Error) (bound : Nat) (last : Option Value)
    (shown : List (List Record)) (session : Session) :
    (walkFrom base size names visit (bound + 1) last shown).run session =
      match (preload (page base last size) names).on session with
      | (.error failure, after) => (⟨shown, .failed failure⟩, after)
      | (.ok records, after) =>
        match records.getLast? with
        | none => (⟨shown, .finished⟩, after)
        | some tail =>
          match visit (shown ++ [records]) with
          | some e => (⟨shown ++ [records], .failed (.error e)⟩, after)
          | none =>
            if records.length < size || (tail.get? base.model.primaryKey).isNone then
              (⟨shown ++ [records], .finished⟩, after)
            else (walkFrom base size names visit bound (tail.get? base.model.primaryKey)
              (shown ++ [records])).run after := by
  have step : (preload (page base last size) names).run.run session =
      (preload (page base last size) names).on session := rfl
  rw [walkFrom, StateT.run_bind, step]
  obtain ⟨failure | records, after⟩ := (preload (page base last size) names).on session
  · rfl
  · dsimp only [bind]
    cases records.getLast? with
    | none => rfl
    | some tail =>
        dsimp only
        cases visit (shown ++ [records]) with
        | some e => rfl
        | none =>
            dsimp only
            split <;> rfl

theorem findInBatches_run (positive : 0 < size) :
    (findInBatches relation size names visit).run session =
      (walkFrom (byKey relation) size names visit (session.sourceRows relation + 1) none []).run
        session := by
  rw [findInBatches, if_neg (Nat.ne_of_gt positive)]
  rfl

/-- The batch is what records are given for the associations on the session's tables. -/
def Loads (session : Session) (name : String) (names : List String) (records batch : List Record) :
    Prop :=
  ((preloadRecords name records names).run session).1 = (.ok (), batch)

theorem loads_nil {owner : Model} (serves : session.Serves schema) (sound : schema.Sound)
    (known : owner ∈ schema.models) (resolved : names.mapM owner.association = .ok associations) :
    session.Loads owner.name names [] [] := by
  rw [Loads, preloadRecords_run serves (sound.model?_eq known) resolved, loadAssociations_nil]

theorem preload_page {owner : Model} (serves : session.Serves schema) (served : other.Serves schema)
    (same : other.engine = session.engine) (sound : schema.Sound) (known : owner ∈ schema.models)
    (model : relation.model = owner)
    (resolved : names.mapM owner.association = .ok associations) {batch : List Record}
    (fetched : session.records relation = .ok records)
    (loads : session.Loads owner.name names records batch) :
    ∃ after, (preload relation names).on other = (.ok batch, after) ∧ after.Serves schema ∧
      after.engine = session.engine ∧ batch.map (·.values) = records.map (·.values) := by
  subst model
  have targeted := fun association inside =>
    (named_of_resolved sound known resolved association inside).2
  have found : other.records relation = .ok records := by
    rw [records_congr serves served same, fetched]
  have once : (other.after relation).engine = session.engine := same
  have answer : ((loadAssociations relation.model associations records).run
      (other.after relation)).1 = (.ok (), batch) := by
    rw [Loads, preloadRecords_run serves (sound.model?_eq known) resolved] at loads
    rw [loadAssociations_congr serves (served.after relation) once targeted, loads]
  obtain ⟨kept, unchanged, values⟩ :=
    loadAssociations_keeps (served.after relation) targeted records
  rw [answer] at values
  refine ⟨_, ?_, kept, unchanged.trans once, values⟩
  rw [preload_on served resolved found]
  generalize (loadAssociations relation.model associations records).run (other.after relation) =
    result at answer
  obtain ⟨_, last⟩ := result
  cases answer
  rfl

end Session

/-- In an ascending list, the items behind one of them are those after it. -/
theorem filter_behind {column : String} {front back : List Record} {record : Record} {key : Value}
    (ordered : (front ++ record :: back).Pairwise (Record.Before column))
    (own : record.get? column = some key) :
    (front ++ record :: back).filter (·.follows column key) = back := by
  rw [List.pairwise_append, List.pairwise_cons] at ordered
  obtain ⟨_, ⟨after, _⟩, before⟩ := ordered
  have earlier : ∀ first ∈ front, ¬ first.follows column key = true := by
    intro first inside
    obtain ⟨u, v, held, other, less⟩ := before first inside record List.mem_cons_self
    rw [own] at other
    cases other
    simpa [Record.follows, held] using Value.lt_asymm less
  have itself : ¬ record.follows column key = true := by
    simp only [Record.follows, own, Option.any_some, beq_iff_eq]
    intro less
    exact Value.lt_asymm less less
  have later : ∀ next ∈ back, next.follows column key = true := by
    intro next inside
    obtain ⟨u, v, held, other, less⟩ := after next inside
    rw [own] at held
    cases held
    simp [Record.follows, other, less]
  rw [List.filter_append, List.filter_eq_nil_iff.mpr earlier, List.nil_append,
    List.filter_cons_of_neg (p := fun next : Record => next.follows column key) itself,
    List.filter_eq_self.mpr later]

theorem Record.follows_trans {column : String} {record next : Record} {key last : Value}
    (own : record.get? column = some key) (after : record.follows column last = true)
    (behind : next.follows column key = true) : next.follows column last = true := by
  rw [Record.follows, own, Option.any_some, beq_iff_eq] at after
  cases held : next.get? column with
  | none => simp [Record.follows, held] at behind
  | some value =>
      rw [Record.follows, held, Option.any_some, beq_iff_eq] at behind ⊢
      exact Value.lt_trans after behind

/-- What is behind the last record of a page is what the page left over. -/
theorem filter_next {column : String} {sorted front back : List Record} {record : Record}
    {key : Value} {last : Option Value} (ordered : sorted.Pairwise (Record.Before column))
    (rest : (sorted.filter fun record => last.all (record.follows column)) = front ++ record :: back)
    (own : record.get? column = some key) :
    (sorted.filter fun record => (some key).all (record.follows column)) = back := by
  have after : last.all (record.follows column) = true := by
    have inside : record ∈ sorted.filter fun record => last.all (record.follows column) := by
      rw [rest]
      simp
    exact (List.mem_filter.mp inside).2
  have fewer : (sorted.filter fun record => last.all (record.follows column)).filter
      (·.follows column key) = sorted.filter (·.follows column key) := by
    rw [List.filter_filter]
    refine List.filter_congr fun next _ => ?_
    cases behind : next.follows column key with
    | false => rfl
    | true =>
        cases last with
        | none => rfl
        | some last => exact Record.follows_trans own after behind
  have ascending : (front ++ record :: back).Pairwise (Record.Before column) :=
    rest ▸ ordered.sublist List.filter_sublist
  have behind := filter_behind ascending own
  rw [← rest, fewer] at behind
  exact behind

theorem exists_last {records batch : List Record} (some : records ≠ [])
    (values : batch.map (·.values) = records.map (·.values)) :
    ∃ front record before tail, records = front ++ [record] ∧ batch = before ++ [tail] ∧
      ∀ column, tail.get? column = record.get? column := by
  obtain ⟨front, record, rfl⟩ := (List.eq_nil_or_concat' records).resolve_left some
  rw [List.map_append, List.map_singleton, List.map_eq_append_iff] at values
  obtain ⟨before, last, rfl, _, same⟩ := values
  obtain ⟨tail, rfl, own⟩ := List.map_eq_singleton_iff.mp same
  refine ⟨front, record, before, tail, rfl, rfl, fun column => ?_⟩
  rw [Record.get?, Record.get?, own]

theorem cutTo_of_fits {α : Type} {size : Nat} {items : List α}
    (fits : size ≤ 9223372036854775807 ∨ items.length ≤ 9223372036854775807) :
    cutTo (some size) items = items.take size := by
  rw [cutTo, List.take_eq_take_iff]
  omega

namespace Session

variable {schema : Schema} {session : Session} {relation : Relation} {names : List String}
  {associations : List Association} {visit : List (List Record) → Option Error}
  {sorted matching rest batch : List Record} {last : Option Value} {size : Nat}

theorem Paged.fetched (paged : session.Paged relation sorted)
    (fits : size ≤ 9223372036854775807 ∨ sorted.length ≤ 9223372036854775807)
    (seen : ∀ key ∈ last, ∃ record ∈ sorted, record.get? relation.model.primaryKey = some key)
    (left : (sorted.filter fun record =>
      last.all (record.follows relation.model.primaryKey)) = rest) :
    session.records (page (byKey relation) last size) = .ok (rest.take size) := by
  have fewer : rest.Sublist sorted := left ▸ List.filter_sublist
  rw [paged.pages last size seen, left, cutTo_of_fits]
  exact fits.imp_right fun few => Nat.le_trans fewer.length_le few

/-- Loaded records have the last key of their page, and behind it is what the page left over. -/
theorem Paged.next (paged : session.Paged relation sorted)
    (left : (sorted.filter fun record =>
      last.all (record.follows relation.model.primaryKey)) = rest)
    (positive : 0 < size) (more : rest ≠ [])
    (values : batch.map (·.values) = (rest.take size).map (·.values)) :
    ∃ before tail record key, batch = before ++ [tail] ∧ record ∈ sorted ∧
      record.get? relation.model.primaryKey = some key ∧
      tail.get? relation.model.primaryKey = some key ∧
      (sorted.filter fun record => (some key).all (record.follows relation.model.primaryKey)) =
        rest.drop size := by
  have fewer : rest.Sublist sorted := left ▸ List.filter_sublist
  have nonempty : rest.take size ≠ [] := fun nothing =>
    (List.take_eq_nil_iff.mp nothing).elim (Nat.ne_of_gt positive) more
  obtain ⟨front, record, before, tail, taken, rfl, own⟩ := exists_last nonempty values
  have whole : rest = front ++ record :: rest.drop size := by
    rw [List.append_cons, ← taken, List.take_append_drop]
  have inside : record ∈ sorted := fewer.subset (by rw [whole]; simp)
  obtain ⟨key, held⟩ := paged.keyed record inside
  exact ⟨before, tail, record, key, rfl, inside, held, (own _).trans held,
    filter_next paged.ordered (left.trans whole) held⟩

/-- A walk that has shown everything up to a key shows what is left in pieces. -/
theorem walkFrom_visited (serves : session.Serves schema) (sound : schema.Sound)
    (known : relation.model ∈ schema.models)
    (resolved : names.mapM relation.model.association = .ok associations)
    (paged : session.Paged relation sorted) (positive : 0 < size)
    (fits : size ≤ 9223372036854775807 ∨ sorted.length ≤ 9223372036854775807)
    {bound : Nat} {shown batches : List (List Record)} {other : Session}
    (served : other.Serves schema) (same : other.engine = session.engine)
    (seen : ∀ key ∈ last, ∃ record ∈ sorted, record.get? relation.model.primaryKey = some key)
    (left : (sorted.filter fun record =>
      last.all (record.follows relation.model.primaryKey)) = rest)
    (enough : rest.length < bound)
    (loads : List.Forall₂ (session.Loads relation.model.name names) (chunks size rest) batches) :
    ((walkFrom (byKey relation) size names visit bound last shown).run other).1 =
      visited visit shown batches := by
  induction bound generalizing last shown batches rest other with
  | zero => cases enough
  | succ bound ih =>
      have model : (page (byKey relation) last size).model = relation.model := by
        cases last <;> rfl
      have fetched := paged.fetched fits seen left
      rw [walkFrom_succ]
      by_cases empty : rest = []
      · subst empty
        rw [chunks] at loads
        cases loads
        rw [List.take_nil] at fetched
        obtain ⟨after, done, _⟩ := preload_page serves served same sound known model resolved fetched
          (loads_nil serves sound known resolved)
        rw [done]
        rfl
      · rw [chunks_of_ne_nil positive empty] at loads
        cases loads with
        | @cons _ batch _ others first further =>
            obtain ⟨after, done, kept, unchanged, values⟩ :=
              preload_page serves served same sound known model resolved fetched first
            obtain ⟨before, tail, record, key, rfl, inside, held, own, behind⟩ :=
              paged.next left positive empty values
            have length : (before ++ [tail]).length = min size rest.length := by
              rw [← List.length_map, values, List.length_map, List.length_take]
            have next : tail.get? (byKey relation).model.primaryKey = some key := own
            rw [done, visited]
            simp only [List.getLast?_concat]
            cases visit (shown ++ [before ++ [tail]]) with
            | some e => rfl
            | none =>
                simp only [next, Option.isNone_some, Bool.or_false, decide_eq_true_eq]
                by_cases short : (before ++ [tail]).length < size
                · have nothing : rest.drop size = [] := List.drop_eq_nil_iff.mpr (by omega)
                  rw [nothing, chunks] at further
                  cases further
                  rw [if_pos short]
                  rfl
                · rw [if_neg short]
                  refine ih kept unchanged (fun _ given => ?_) behind ?_ further
                  · cases given
                    exact ⟨record, inside, held⟩
                  · rw [List.length_drop]
                    omega

theorem findInBatches_visited (serves : session.Serves schema) (sound : schema.Sound)
    (known : relation.model ∈ schema.models) (direct : relation.Direct relation.model.table.name)
    (single : relation.joins = []) (distinct : relation.model.table.columnNames.Nodup)
    (matched : session.records relation.bare = .ok matching)
    (nonnull : ∀ record ∈ matching, record.get? relation.model.primaryKey ≠ some .null)
    (once : (matching.map (·.get? relation.model.primaryKey)).Nodup) (positive : 0 < size)
    (fits : size ≤ 9223372036854775807 ∨ matching.length ≤ 9223372036854775807)
    (resolved : names.mapM relation.model.association = .ok associations) :
    ∃ sorted : List Record, sorted.Perm matching ∧
      sorted.Pairwise (Record.Before relation.model.primaryKey) ∧
      ∀ visit batches,
        List.Forall₂ (session.Loads relation.model.name names) (chunks size sorted) batches →
        ((findInBatches relation size names visit).run session).1 = visited visit [] batches := by
  obtain ⟨sorted, perm, few, paged⟩ :=
    exists_paged serves sound known direct single distinct matched nonnull once
  have small : size ≤ 9223372036854775807 ∨ sorted.length ≤ 9223372036854775807 := by
    rw [perm.length_eq]
    exact fits
  refine ⟨sorted, perm, paged.ordered, fun visit batches loads => ?_⟩
  rw [findInBatches_run positive]
  exact walkFrom_visited serves sound known resolved paged positive small serves rfl (by simp)
    (List.filter_true sorted) (Nat.lt_succ_of_le few) loads

/-- A walk shows the matching records, sorted by primary key, in pieces of the size with their
associations, until the visitor fails or there are no more. -/
theorem findInBatches_walks_chunks {tables : List TableDefinition} {models : List ModelDefinition}
    (built : Schema.build tables models = .ok schema) (reached : session.Reached schema)
    (known : relation.model ∈ schema.models) (direct : relation.Direct relation.model.table.name)
    (single : relation.joins = []) (distinct : relation.model.table.columnNames.Nodup)
    (matched : session.records relation.bare = .ok matching)
    (nonnull : ∀ record ∈ matching, record.get? relation.model.primaryKey ≠ some .null)
    (once : (matching.map (·.get? relation.model.primaryKey)).Nodup) (positive : 0 < size)
    (fits : size ≤ 9223372036854775807 ∨ matching.length ≤ 9223372036854775807)
    (resolved : names.mapM relation.model.association = .ok associations) :
    ∃ sorted : List Record, sorted.Perm matching ∧
      sorted.Pairwise (Record.Before relation.model.primaryKey) ∧
      ∀ batches,
        List.Forall₂ (session.Loads relation.model.name names) (chunks size sorted) batches →
        ((∀ j < batches.length, visit (batches.take (j + 1)) = none) →
          ((findInBatches relation size names visit).run session).1 = ⟨batches, .finished⟩) ∧
        ∀ j < batches.length, ∀ e, (∀ i < j, visit (batches.take (i + 1)) = none) →
          visit (batches.take (j + 1)) = some e →
          ((findInBatches relation size names visit).run session).1 =
            ⟨batches.take (j + 1), .failed (.error e)⟩ := by
  obtain ⟨sorted, perm, ordered, walk⟩ := findInBatches_visited reached.serves
    (Schema.sound_of_build built) known direct single distinct matched nonnull once positive fits
    resolved
  refine ⟨sorted, perm, ordered, fun batches loads => ⟨fun never => ?_, ?_⟩⟩
  · rw [walk visit batches loads, visited_finished never]
    rfl
  · intro j inside e before fails
    rw [walk visit batches loads, visited_failed inside before fails]
    rfl

end Session

theorem Record.Before.asymm {column : String} {first second : Record}
    (before : Record.Before column first second) (after : Record.Before column second first) :
    first = second := by
  obtain ⟨u, v, own, other, less⟩ := before
  obtain ⟨v', u', other', own', more⟩ := after
  rw [own] at own'
  rw [other] at other'
  cases own'
  cases other'
  exact absurd more (Value.lt_asymm less)

namespace Sample

def batches : List (List Record) := [
  [⟨"Owner", [("id", .int 1), ("code", .int 7)], [("notes", .many [
      ⟨"Note", [("parent", .int 7), ("id", .int 3), ("owner_code", .int 7)], []⟩,
      ⟨"Note", [("parent", .int 7), ("id", .int 1), ("owner_code", .int 7)], []⟩])]⟩,
    ⟨"Owner", [("id", .int 2), ("code", .null)], [("notes", .many [])]⟩],
  [⟨"Owner", [("id", .int 3), ("code", .int 8)], [("notes", .many [
      ⟨"Note", [("parent", .int 8), ("id", .int 2), ("owner_code", .int 8)], []⟩])]⟩]]

/-- The last owner alone. A walk sees to its own order and limit. -/
def lastOwner : Relation :=
  (owner.all.orderBy (.desc (owner.all.column "id"))).limitTo 1

theorem owners_ordered : owners.Pairwise (Record.Before "id") := by
  simp only [owners, List.pairwise_cons, List.mem_cons, List.not_mem_nil, or_false]
  refine ⟨?_, ?_, by simp⟩
  · rintro _ (rfl | rfl) <;> exact ⟨_, _, rfl, rfl, rfl⟩
  · rintro _ rfl
    exact ⟨_, _, rfl, rfl, rfl⟩

theorem records_seven : session.records (notes.scopeIn owner note [.int 7]) = .ok [
    ⟨"Note", [("parent", .int 7), ("id", .int 3), ("owner_code", .int 7)], []⟩,
    ⟨"Note", [("parent", .int 7), ("id", .int 1), ("owner_code", .int 7)], []⟩] := by
  rw [Session.records_eq reached.serves, engine_eq, Association.scopeIn, Relation.perParent,
    Relation.besideParent_limited _ _ _ _ 2 rfl rfl]
  cbv

theorem records_eight : session.records (notes.scopeIn owner note [.int 8]) = .ok [
    ⟨"Note", [("parent", .int 8), ("id", .int 2), ("owner_code", .int 8)], []⟩] := by
  rw [Session.records_eq reached.serves, engine_eq, Association.scopeIn, Relation.perParent,
    Relation.besideParent_limited _ _ _ _ 2 rfl rfl]
  cbv

theorem loads_batches : List.Forall₂ (session.Loads owner.name ["notes"]) (chunks 2 owners) batches := by
  have resolved : ["notes"].mapM owner.association = .ok [notes] := rfl
  have modelled : schema.model? owner.name = some owner := rfl
  have targeted : schema.model? notes.target = some note := rfl
  have front : Session.keysOf (owners.take 2) notes.keys.primaryKey = [.int 7] := rfl
  have back : Session.keysOf (owners.drop 2) notes.keys.primaryKey = [.int 8] := rfl
  have pieces : chunks 2 owners = [owners.take 2, owners.drop 2] := by simp [chunks, owners]
  rw [pieces]
  refine .cons ?_ (.cons ?_ .nil)
  · rw [Session.Loads, Session.preloadRecords_run reached.serves modelled resolved,
      Session.loadAssociations_loads reached.serves targeted front (by decide) records_seven]
    rfl
  · rw [Session.Loads, Session.preloadRecords_run reached.serves modelled resolved,
      Session.loadAssociations_loads reached.serves targeted back (by decide) records_eight]
    rfl

theorem eq_owners_of_perm {sorted : List Record} (perm : sorted.Perm owners)
    (ordered : sorted.Pairwise (Record.Before "id")) : sorted = owners :=
  List.Perm.eq_of_pairwise (fun _ _ _ _ => Record.Before.asymm) ordered owners_ordered perm

theorem findInBatches_walks_owners :
    ((Session.findInBatches lastOwner 2 ["notes"] fun _ => none).run session).1 =
      ⟨batches, .finished⟩ := by
  have known : owner ∈ schema.models := by simp [schema]
  have direct : lastOwner.Direct owner.table.name := ⟨⟨none, rfl⟩, rfl, rfl⟩
  have matched : session.records lastOwner.bare = .ok owners := records_owners
  have resolved : ["notes"].mapM owner.association = .ok [notes] := rfl
  obtain ⟨sorted, perm, ordered, walk⟩ := Session.findInBatches_walks_chunks built reached known direct
    rfl (by decide) matched (by decide) (by decide) (by decide : 0 < 2) (.inl (by decide)) resolved
  cases eq_owners_of_perm perm ordered
  exact (walk batches loads_batches).1 fun _ _ => rfl

end Sample

end Relata
