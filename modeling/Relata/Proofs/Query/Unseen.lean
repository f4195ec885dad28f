import Relata.Proofs.Query.Reach
import Relata.Proofs.Query.Veil

/-!
Answers on databases that differ in veiled columns. Where a query and its subqueries name none of them, the two
answers have the same rows in the same order, up to the values that a wildcard passes on.
-/

namespace Relata

variable {veil : Veil} {db db' : Database} {outer outer' : Env}

/-- The stages of a query behind its sources. -/
theorem Query.run_near_of_joined {query : Query} {headerOnly : Bool} (near : db.Near veil db')
    (around : outer.Near veil outer') (items : ∀ item ∈ query.items, item.Blind veil)
    (filter : ∀ e ∈ query.filter, e.Blind veil) (order : ∀ term ∈ query.order, term.expr.Blind veil)
    (limit : ∀ e ∈ query.limit, e.Blind veil)
    (joined : Matches (Joined.Near veil) (query.joined db outer) (query.joined db' outer')) :
    Matches (Rowset.Near (veil.Passes query.items)) (query.run db outer headerOnly)
      (query.run db' outer' headerOnly) := by
  rw [Query.run_eq, Query.run_eq]
  refine joined.bind fun joined joined' done related => ?_
  have aligned := Query.joined_aligned near.rectangular done
  have finish : ∀ {kept kept' : List Frame}, (∀ row ∈ kept, row ∈ joined.rows) →
      List.Forall₂ (Frame.Near veil) kept kept' →
      Matches (Rowset.Near (veil.Passes query.items))
        (do
          let sorted ← sortRows outer query.order kept
          let cut ← limitRows outer query.limit sorted
          project outer query.items ⟨joined.shapes, cut⟩)
        (do
          let sorted ← sortRows outer' query.order kept'
          let cut ← limitRows outer' query.limit sorted
          project outer' query.items ⟨joined'.shapes, cut⟩) := by
    intro kept kept' among alike
    refine (sortRows_near order around alike).bind fun sorted sorted' ordered alike => ?_
    refine (limitRows_near limit around alike).bind fun cut cut' limited alike => ?_
    refine project_near items around (fun row member => aligned row (among row ?_)) ⟨related.shapes, alike⟩
    exact (sortRows_perm ordered).mem_iff.mp (mem_of_mem_limitRows limited row member)
  cases headerOnly with
  | true => exact finish (fun row absent => absurd absent List.not_mem_nil) .nil
  | false =>
      refine (filterRows_near filter around related.rows).bind fun kept kept' filtered alike => ?_
      exact finish (mem_of_mem_filterRows filtered) alike

/-- The rows of a query's own source, as bindings. -/
theorem Rowset.Near.joined {rowset rowset' : Rowset} {qualifier : String}
    (near : rowset.Near (veil.Hides qualifier) rowset') :
    Joined.Near veil
      ⟨[⟨qualifier, rowset.columns⟩],
        rowset.rows.map fun values => [⟨⟨qualifier, rowset.columns⟩, values⟩]⟩
      ⟨[⟨qualifier, rowset'.columns⟩],
        rowset'.rows.map fun values => [⟨⟨qualifier, rowset'.columns⟩, values⟩]⟩ := by
  refine ⟨by rw [near.columns], ?_⟩
  rw [List.forall₂_map_left_iff, List.forall₂_map_right_iff]
  exact near.rows.imp fun values values' same => .cons ⟨by rw [near.columns], same⟩ .nil

/-- One row next to the rows that a source has for it. -/
theorem Rowset.Near.extendRow {rowset rowset' : Rowset} {qualifier : String} {kind : JoinKind}
    {condition : Expr} {row row' : Frame} (near : rowset.Near (veil.Hides qualifier) rowset')
    (blind : condition.Blind veil) (around : outer.Near veil outer') (left : row.Near veil row') :
    Matches (List.Forall₂ (Frame.Near veil))
      (extendRow outer kind condition ⟨qualifier, rowset.columns⟩ row rowset.rows)
      (extendRow outer' kind condition ⟨qualifier, rowset'.columns⟩ row' rowset'.rows) := by
  rw [near.columns]
  exact extendRow_near blind around left near.rows

/-- The columns that a lateral source is known by: those of the first group, or its header's. -/
theorem groupColumns_near {header header' : Except Fault (List String)} (same : header = header') :
    ∀ {groups groups' : List (List String × List Frame)},
      List.Forall₂ (fun a b => a.1 = b.1 ∧ List.Forall₂ (Frame.Near veil) a.2 b.2) groups groups' →
      Matches Eq
        (match groups with
          | group :: _ => .ok group.1
          | [] => header)
        (match groups' with
          | group :: _ => .ok group.1
          | [] => header')
  | _, _, .nil => .of_eq same
  | _, _, .cons first _ => .ok first.1

mutual

theorem Query.run_near (near : db.Near veil db') : ∀ (query : Query) {outer outer' : Env} {headerOnly : Bool},
    query.Blind veil → outer.Near veil outer' →
    Matches (Rowset.Near (veil.Passes query.items)) (query.run db outer headerOnly)
      (query.run db' outer' headerOnly)
  | ⟨items, source, joins, filter, order, limit⟩, outer, outer', headerOnly, blind, around => by
    rw [Query.Blind] at blind
    obtain ⟨blindItems, blindSource, blindJoins, blindFilter, blindOrder, blindLimit⟩ := blind
    refine Query.run_near_of_joined near around blindItems blindFilter blindOrder blindLimit ?_
    rw [Query.joined, Query.joined]
    refine (Source.read_near near source blindSource around).bind fun base base' _ related => ?_
    exact joinAll_near near joins blindJoins around related.joined

theorem Source.read_near (near : db.Near veil db') : ∀ (source : Source) {env env' : Env},
    source.Blind veil → env.Near veil env' →
    Matches (Rowset.Near (veil.Hides source.qualifier)) (source.read db env) (source.read db' env')
  | .table (.table name aliasName), env, env', blind, around => by
    rw [Source.Blind] at blind
    rw [Source.read, Source.read]
    rcases cases_of_rel (near name) with ⟨missing, missing'⟩ | ⟨stored, stored', found, found', alike⟩
    · rw [missing, missing']
      exact .error _
    · rw [found, found']
      exact .ok (alike.imp fun column kept => ⟨blind kept.1, kept.2⟩)
  | .table (.derived name), env, env', blind, around => by
    rw [Source.read, Source.read]
    exact .error _
  | .subquery lateral query aliasName, env, env', blind, around => by
    rw [Source.Blind] at blind
    rw [Source.read, Source.read]
    exact (Query.run_near near query blind.1 around).imp fun _ _ related => related.imp blind.2

theorem Source.header_near (near : db.Near veil db') : ∀ (source : Source), source.Blind veil →
    source.header db = source.header db'
  | .table (.table name aliasName), blind => by
    rw [Source.header, Source.header]
    rcases cases_of_rel (near name) with ⟨missing, missing'⟩ | ⟨stored, stored', found, found', alike⟩
    · rw [missing, missing']
    · rw [found, found']
      exact congrArg Except.ok alike.columns.symm
  | .table (.derived name), blind => by
    rw [Source.header, Source.header]
  | .subquery lateral query aliasName, blind => by
    rw [Source.Blind] at blind
    rw [Source.header, Source.header]
    refine ((Query.run_near near query blind.1 .nil).bind fun _ _ _ related => ?_).eq
    exact .ok related.columns.symm

theorem joinAll_near (near : db.Near veil db') : ∀ (joins : List Join) {outer outer' : Env}
    {joined joined' : Joined}, joinsBlind veil joins → outer.Near veil outer' → joined.Near veil joined' →
    Matches (Joined.Near veil) (joinAll db outer joins joined) (joinAll db' outer' joins joined')
  | [], outer, outer', joined, joined', blind, around, related => by
    rw [joinAll, joinAll]
    exact .ok related
  | ⟨kind, source, condition⟩ :: rest, outer, outer', joined, joined', blind, around, related => by
    rw [joinsBlind] at blind
    obtain ⟨blindSource, blindCondition, blindRest⟩ := blind
    rw [joinAll, joinAll]
    split
    · -- A lateral source is read for each row. Without a row its header gives the columns.
      have groups : Matches
          (List.Forall₂ fun a b : List String × List Frame =>
            a.1 = b.1 ∧ List.Forall₂ (Frame.Near veil) a.2 b.2)
          (joined.rows.mapM fun row => do
            let right ← source.read db (row :: outer)
            let shape : Shape := ⟨source.qualifier, right.columns⟩
            return (right.columns, ← extendRow outer kind condition shape row right.rows))
          (joined'.rows.mapM fun row => do
            let right ← source.read db' (row :: outer')
            let shape : Shape := ⟨source.qualifier, right.columns⟩
            return (right.columns, ← extendRow outer' kind condition shape row right.rows)) := by
        refine .mapM (related.rows.imp fun row row' left => ?_)
        refine (Source.read_near near source blindSource (.cons left around)).bind fun right right' _ alike => ?_
        refine (alike.extendRow blindCondition around left).bind fun pairs pairs' _ alikePairs => ?_
        exact .ok ⟨alike.columns.symm, alikePairs⟩
      refine groups.bind fun groups groups' _ alike => ?_
      have columns := groupColumns_near (Source.header_near near source blindSource) alike
      refine columns.bind fun columns columns' _ same => ?_
      subst same
      refine joinAll_near near rest blindRest around ⟨by rw [related.shapes], List.rel_flatten ?_⟩
      rw [List.forall₂_map_left_iff, List.forall₂_map_right_iff]
      exact alike.imp fun _ _ both => both.2
    · refine (Source.read_near near source blindSource around).bind fun right right' _ alike => ?_
      have groups : Matches (List.Forall₂ (List.Forall₂ (Frame.Near veil)))
          (joined.rows.mapM fun row =>
            extendRow outer kind condition ⟨source.qualifier, right.columns⟩ row right.rows)
          (joined'.rows.mapM fun row =>
            extendRow outer' kind condition ⟨source.qualifier, right'.columns⟩ row right'.rows) :=
        .mapM (related.rows.imp fun row row' left => alike.extendRow blindCondition around left)
      refine groups.bind fun groups groups' _ alikeGroups => ?_
      refine joinAll_near near rest blindRest around ⟨?_, List.rel_flatten alikeGroups⟩
      rw [related.shapes, alike.columns]

end

theorem Query.joined_near (near : db.Near veil db') {query : Query} (blind : query.Blind veil)
    (around : outer.Near veil outer') :
    Matches (Joined.Near veil) (query.joined db outer) (query.joined db' outer') := by
  obtain ⟨items, source, joins, filter, order, limit⟩ := query
  rw [Query.Blind] at blind
  obtain ⟨_, blindSource, blindJoins, _⟩ := blind
  rw [Query.joined, Query.joined]
  refine (Source.read_near near source blindSource around).bind fun base base' _ related => ?_
  exact joinAll_near near joins blindJoins around related.joined

/-- Nothing of the veiled columns reaches the answer. -/
structure Query.Overlooks (query : Query) (veil : Veil) : Prop where
  blind : query.Blind veil
  kept : ∀ column, ¬ veil.Passes query.items column

theorem Query.Overlooks.run_eq {query : Query} {headerOnly : Bool} (overlooks : query.Overlooks veil)
    (near : db.Near veil db') (around : outer.Near veil outer') :
    query.run db outer headerOnly = query.run db' outer' headerOnly :=
  ((query.run_near near overlooks.blind around).imp fun _ _ related =>
    related.eq fun column _ => overlooks.kept column).eq

end Relata
