import Relata.Proofs.Query.Headings

/-!
Columns that a query takes from around it. A column is read from the nearest source of its qualifier, so a
query reads a row around it only for a column that none of its own sources in reach has the qualifier of.
What it answers in one environment it answers in every other that has the same values for these columns.
-/

namespace Relata

/-- The references that are not under one of the names. -/
def beyond (names : List String) (cs : List ColumnRef) : List ColumnRef :=
  cs.filter fun c => !names.contains c.table.qualifier

theorem mem_beyond {names : List String} {cs : List ColumnRef} {c : ColumnRef} :
    c ∈ beyond names cs ↔ c ∈ cs ∧ c.table.qualifier ∉ names := by
  simp [beyond]

/-- The columns that an item is computed of. All columns of a source are those of a source of its own query. -/
def SelectItem.columns : SelectItem → List ColumnRef
  | .expr e | .aliased e _ => e.columns
  | .wildcard _ => []

mutual

/-- The columns that a query or a subquery of it names and that none of their own sources resolves. -/
def Query.free : Query → List ColumnRef
  | ⟨items, source, joins, filter, order, limit⟩ =>
    source.free ++ freeOf [source.qualifier] joins ++
      beyond (source.qualifier :: joins.map (·.source.qualifier))
        (items.flatMap SelectItem.columns ++ columnsOf filter.toList ++
          columnsOf (order.map OrderTerm.expr)) ++
      columnsOf limit.toList

def Source.free : Source → List ColumnRef
  | .table _ => []
  | .subquery _ query _ => query.free

/-- The free columns of joins to sources that are read under these names. -/
def freeOf (names : List String) : List Join → List ColumnRef
  | [] => []
  | ⟨_, source, condition⟩ :: rest =>
    (if source.isLateral then beyond names source.free else source.free) ++
      beyond (names ++ [source.qualifier]) condition.columns ++
      freeOf (names ++ [source.qualifier]) rest

end

/-- The names of a row's bindings. -/
def Frame.names (row : Frame) : List String := row.map (·.shape.qualifier)

/-- The second environment has for these columns the values that the first one has. -/
def Env.Offers (cs : List ColumnRef) (env other : Env) : Prop :=
  ∀ c ∈ cs, Refines (env.value c) (other.value c)

variable {db : Database} {env other outer : Env} {row : Frame} {rows : List Frame} {names : List String}
  {cs : List ColumnRef}

theorem Frame.binding?_eq_none_iff {qualifier : String} :
    row.binding? qualifier = none ↔ qualifier ∉ row.names := by
  simp [Frame.binding?, Frame.names]

theorem Env.Offers.mono {fewer : List ColumnRef} (offers : Env.Offers cs env other)
    (among : ∀ c ∈ fewer, c ∈ cs) : Env.Offers fewer env other :=
  fun c member => offers c (among c member)

/-- Behind one row both environments have the same values for the columns that the row has. -/
theorem Env.Offers.cons (offers : Env.Offers (beyond names cs) env other) (named : row.names = names) :
    Env.Offers cs (row :: env) (row :: other) := by
  intro c member
  cases bound : row.binding? c.table.qualifier with
  | some binding =>
      rw [Env.value_near bound, Env.value_near bound]
      exact .refl _
  | none =>
      rw [Env.value_outer bound, Env.value_outer bound]
      exact offers c (mem_beyond.mpr ⟨member, named ▸ Frame.binding?_eq_none_iff.mp bound⟩)

/-- Without a row in reach no column has a value. -/
theorem Env.offers_nil (cs : List ColumnRef) (other : Env) : Env.Offers cs [] other := by
  intro c member v found
  cases found

section Expr

variable {es : List Expr}

theorem evalAll_refines (each : ∀ e ∈ es, Refines (e.eval env) (e.eval other)) :
    Refines (evalAll env es) (evalAll other es) := by
  induction es with
  | nil => exact .refl _
  | cons e rest ih =>
      rw [evalAll, evalAll]
      refine (each e List.mem_cons_self).bind fun v => Refines.bind (.refl _) fun t => ?_
      split
      · exact .refl _
      · exact (ih fun e member => each e (List.mem_cons_of_mem _ member)).bind fun _ => .refl _

theorem evalAny_refines (each : ∀ e ∈ es, Refines (e.eval env) (e.eval other)) :
    Refines (evalAny env es) (evalAny other es) := by
  induction es with
  | nil => exact .refl _
  | cons e rest ih =>
      rw [evalAny, evalAny]
      refine (each e List.mem_cons_self).bind fun v => Refines.bind (.refl _) fun t => ?_
      split
      · exact .refl _
      · exact (ih fun e member => each e (List.mem_cons_of_mem _ member)).bind fun _ => .refl _

theorem evalMember_refines {v : Value} (each : ∀ e ∈ es, Refines (e.eval env) (e.eval other)) :
    Refines (evalMember env v es) (evalMember other v es) := by
  induction es with
  | nil => exact .refl _
  | cons e rest ih =>
      rw [evalMember, evalMember]
      refine (each e List.mem_cons_self).bind fun u => ?_
      dsimp only
      split
      · exact .refl _
      · exact (ih fun e member => each e (List.mem_cons_of_mem _ member)).bind fun _ => .refl _

theorem Env.Offers.eval {e : Expr} (offers : Env.Offers e.columns env other) :
    Refines (e.eval env) (e.eval other) := by
  induction e using Expr.induction with
  | and operands ih =>
      refine (evalAll_refines fun e member => ih e member fun c named => ?_).bind fun _ => .refl _
      exact offers c (mem_columnsOf.mpr ⟨e, member, named⟩)
  | or operands ih =>
      refine (evalAny_refines fun e member => ih e member fun c named => ?_).bind fun _ => .refl _
      exact offers c (mem_columnsOf.mpr ⟨e, member, named⟩)
  | compare op lhs rhs left right =>
      refine (left fun c named => offers c (List.mem_append_left _ named)).bind fun v => ?_
      exact (right fun c named => offers c (List.mem_append_right _ named)).bind fun _ => .refl _
  | column c => exact offers c List.mem_cons_self
  | grouping e ih => exact ih offers
  | inList e items ih each =>
      refine (ih fun c named => offers c (List.mem_append_left _ named)).bind fun v => ?_
      split
      · exact .refl _
      · refine (evalMember_refines fun item member => each item member fun c named => ?_).bind
          fun _ => .refl _
        exact offers c (List.mem_append_right _ (mem_columnsOf.mpr ⟨item, member, named⟩))
  | isNull negated e ih => exact (ih offers).bind fun _ => .refl _
  | not e ih => exact (ih offers).bind fun _ => .refl _
  | const v => exact .refl _

end Expr

section Stages

theorem keepRows_refines {condition : Expr} (named : ∀ row ∈ rows, row.names = names)
    (offers : Env.Offers (beyond names condition.columns) env other) :
    Refines (keepRows env condition rows) (keepRows other condition rows) := by
  induction rows with
  | nil => exact .refl _
  | cons row rest ih =>
      obtain ⟨first, others⟩ := List.forall_mem_cons.mp named
      rw [keepRows, keepRows]
      refine ((offers.cons first).eval.bind fun _ => .refl _).bind fun kept => ?_
      exact (ih others).bind fun _ => .refl _

theorem filterRows_refines {filter : Option Expr} (named : ∀ row ∈ rows, row.names = names)
    (offers : Env.Offers (beyond names (columnsOf filter.toList)) env other) :
    Refines (filterRows env filter rows) (filterRows other filter rows) := by
  cases filter with
  | none => exact .refl _
  | some condition =>
      refine keepRows_refines named (offers.mono fun c free => ?_)
      rw [Option.toList, columnsOf, columnsOf, List.append_nil]
      exact free

theorem sortRows_refines {terms : List OrderTerm} (named : ∀ row ∈ rows, row.names = names)
    (offers : Env.Offers (beyond names (columnsOf (terms.map OrderTerm.expr))) env other) :
    Refines (sortRows env terms rows) (sortRows other terms rows) := by
  have keyed : Refines (rows.mapM fun row => do return (← sortKeys (row :: env) terms, row))
      (rows.mapM fun row => do return (← sortKeys (row :: other) terms, row)) := by
    refine .mapM fun row member => Refines.bind (.mapM fun term inside => ?_) fun _ => .refl _
    refine Env.Offers.eval ((offers.cons (named row member)).mono fun c part => ?_)
    exact mem_columnsOf.mpr ⟨term.expr, List.mem_map_of_mem inside, part⟩
  exact keyed.bind fun _ => .refl _

theorem limitRows_refines {limit : Option Expr} (offers : Env.Offers (columnsOf limit.toList) env other) :
    Refines (limitRows env limit rows) (limitRows other limit rows) := by
  cases limit with
  | none => exact .refl _
  | some e =>
      have own : Env.Offers e.columns env other := offers.mono fun c part =>
        mem_columnsOf.mpr ⟨e, List.mem_singleton.mpr rfl, part⟩
      exact (own.eval.bind fun _ => .refl _).bind fun _ => .refl _

theorem project_refines {items : List SelectItem} {shapes : List Shape}
    (named : ∀ row ∈ rows, row.names = names)
    (offers : Env.Offers (beyond names (items.flatMap SelectItem.columns)) env other) :
    Refines (project env items ⟨shapes, rows⟩) (project other items ⟨shapes, rows⟩) := by
  refine Refines.bind (.refl _) fun columns => Refines.bind (.mapM fun row member => ?_) fun _ => .refl _
  refine Refines.bind (.mapM fun item inside => ?_) fun _ => .refl _
  have own : Env.Offers item.columns (row :: env) (row :: other) :=
    (offers.cons (named row member)).mono fun c part => List.mem_flatMap.mpr ⟨item, inside, part⟩
  cases item with
  | expr e | aliased e _ => exact own.eval.bind fun _ => .refl _
  | wildcard ref => exact .refl _

theorem extendRow_names {kind : JoinKind} {condition : Expr} {shape : Shape}
    {candidates : List (List Value)} {extended : List Frame}
    (done : extendRow outer kind condition shape row candidates = .ok extended) :
    ∀ longer ∈ extended, longer.names = row.names ++ [shape.qualifier] := by
  intro longer member
  obtain ⟨values, rfl, _⟩ := mem_extendRow done member
  rw [Frame.names, List.map_append]
  rfl

theorem extendRow_refines {kind : JoinKind} {condition : Expr} {shape : Shape}
    {candidates : List (List Value)}
    (offers : Env.Offers (beyond (row.names ++ [shape.qualifier]) condition.columns) env other) :
    Refines (extendRow env kind condition shape row candidates)
      (extendRow other kind condition shape row candidates) := by
  refine (keepRows_refines (fun longer member => ?_) offers).bind fun _ => .refl _
  obtain ⟨values, _, rfl⟩ := List.mem_map.mp member
  rw [Frame.names, List.map_append]
  rfl

theorem names_rows (shape : Shape) (rows : List (List Value)) :
    ∀ row ∈ rows.map fun values => [(⟨shape, values⟩ : Binding)], Frame.names row = [shape.qualifier] := by
  intro row member
  obtain ⟨values, _, rfl⟩ := List.mem_map.mp member
  rfl

/-- The rows of a query bind the names of its sources. -/
theorem joinAll_names {joins : List Join} {before after : Joined}
    (done : joinAll db outer joins before = .ok after) (named : ∀ row ∈ before.rows, row.names = names) :
    ∀ row ∈ after.rows, row.names = names ++ joins.map (·.source.qualifier) := by
  induction joins generalizing before names with
  | nil =>
      rw [joinAll] at done
      cases done
      rw [List.map_nil, List.append_nil]
      exact named
  | cons join rest ih =>
      obtain ⟨columns, groups, _, each, done⟩ := joinAll_cons done
      have longer : ∀ row ∈ groups.flatten, row.names = names ++ [join.source.qualifier] := by
        intro row member
        obtain ⟨group, grouped, inside⟩ := List.mem_flatten.mp member
        obtain ⟨left, present, right, _, extended⟩ := exists_of_mem_forall₂ each grouped
        rw [extendRow_names extended row inside, named left present]
      intro row member
      rw [ih done longer row member, List.append_assoc]
      rfl

end Stages

/-- The stages of a query behind its sources. -/
theorem Query.run_refines_of_joined {query : Query} {headerOnly : Bool}
    (joined : Refines (query.joined db env) (query.joined db other))
    (offers : Env.Offers query.free env other) :
    Refines (query.run db env headerOnly) (query.run db other headerOnly) := by
  obtain ⟨items, source, joins, filter, order, limit⟩ := query
  rw [Query.free] at offers
  have rows : Env.Offers (beyond (source.qualifier :: joins.map (·.source.qualifier))
      (items.flatMap SelectItem.columns ++ columnsOf filter.toList ++
        columnsOf (order.map OrderTerm.expr))) env other :=
    offers.mono fun c part => List.mem_append_left _ (List.mem_append_right _ part)
  have part : ∀ {cs : List ColumnRef}, (∀ c ∈ cs, c ∈ items.flatMap SelectItem.columns ++
      columnsOf filter.toList ++ columnsOf (order.map OrderTerm.expr)) →
      Env.Offers (beyond (source.qualifier :: joins.map (·.source.qualifier)) cs) env other :=
    fun among => rows.mono fun c free =>
      mem_beyond.mpr ⟨among c (mem_beyond.mp free).1, (mem_beyond.mp free).2⟩
  rw [Query.run_eq, Query.run_eq]
  refine joined.bind_of fun joined extended => ?_
  have named : ∀ row ∈ joined.rows, row.names = source.qualifier :: joins.map (·.source.qualifier) := by
    obtain ⟨base, _, extended⟩ := bind_eq_ok.mp extended
    exact joinAll_names extended (names_rows _ base.rows)
  have finish : ∀ kept : List Frame, (∀ row ∈ kept, row ∈ joined.rows) →
      Refines
        (do
          let sorted ← sortRows env order kept
          let cut ← limitRows env limit sorted
          project env items ⟨joined.shapes, cut⟩)
        (do
          let sorted ← sortRows other order kept
          let cut ← limitRows other limit sorted
          project other items ⟨joined.shapes, cut⟩) := by
    intro kept among
    refine (sortRows_refines (fun row member => named row (among row member))
      (part fun c own => List.mem_append_right _ own)).bind_of fun sorted ordered => ?_
    refine (limitRows_refines (offers.mono fun c own => List.mem_append_right _ own)).bind_of
      fun cut limited => ?_
    refine project_refines (fun row member => named row (among row ?_))
      (part fun c own => List.mem_append_left _ (List.mem_append_left _ own))
    exact (sortRows_perm ordered).mem_iff.mp (mem_of_mem_limitRows limited row member)
  cases headerOnly with
  | true => exact finish [] fun row absent => absurd absent List.not_mem_nil
  | false =>
      refine (filterRows_refines named
        (part fun c own => List.mem_append_left _ (List.mem_append_right _ own))).bind_of
        fun kept filtered => ?_
      exact finish kept (mem_of_mem_filterRows filtered)

mutual

/-- What a query answers in one environment it answers in another that has the values it takes from there. -/
theorem Query.run_refines : ∀ (query : Query) {env other : Env} {headerOnly : Bool},
    Env.Offers query.free env other →
    Refines (query.run db env headerOnly) (query.run db other headerOnly)
  | ⟨items, source, joins, filter, order, limit⟩, env, other, headerOnly, offers => by
    refine Query.run_refines_of_joined ?_ offers
    rw [Query.free] at offers
    rw [Query.joined, Query.joined]
    refine (Source.read_refines source (offers.mono fun c own => ?_)).bind fun base => ?_
    · simp only [List.append_assoc]
      exact List.mem_append_left _ own
    refine joinAll_refines joins (names_rows _ base.rows) (offers.mono fun c own => ?_)
    exact List.mem_append_left _ (List.mem_append_left _ (List.mem_append_right _ own))

theorem Source.read_refines : ∀ (source : Source) {env other : Env},
    Env.Offers source.free env other → Refines (source.read db env) (source.read db other)
  | .table (.table name _), env, other, offers => by
    rw [Source.read, Source.read]
    exact .refl _
  | .table (.derived name), env, other, offers => by
    rw [Source.read, Source.read]
    exact .refl _
  | .subquery lateral query aliasName, env, other, offers => by
    rw [Source.free] at offers
    rw [Source.read, Source.read]
    exact Query.run_refines query offers

theorem joinAll_refines : ∀ (joins : List Join) {env other : Env} {joined : Joined} {names : List String},
    (∀ row ∈ joined.rows, row.names = names) → Env.Offers (freeOf names joins) env other →
    Refines (joinAll db env joins joined) (joinAll db other joins joined)
  | [], env, other, joined, names, named, offers => by
    rw [joinAll, joinAll]
    exact .refl _
  | ⟨kind, source, condition⟩ :: rest, env, other, joined, names, named, offers => by
    rw [freeOf] at offers
    have extends' : ∀ row ∈ joined.rows, Env.Offers
        (beyond (row.names ++ [source.qualifier]) condition.columns) env other := by
      intro row member
      rw [named row member]
      exact offers.mono fun c own => List.mem_append_left _ (List.mem_append_right _ own)
    have others : Env.Offers (freeOf (names ++ [source.qualifier]) rest) env other :=
      offers.mono fun c own => List.mem_append_right _ own
    rw [joinAll, joinAll]
    split
    · rename_i lateral
      rw [if_pos lateral] at offers
      have own : ∀ row ∈ joined.rows, Env.Offers source.free (row :: env) (row :: other) := by
        intro row member
        refine .cons (offers.mono fun c part => ?_) (named row member)
        exact List.mem_append_left _ (List.mem_append_left _ part)
      refine Refines.bind_of (.mapM fun row member => ?_) fun groups done => ?_
      · refine (Source.read_refines source (own row member)).bind fun right => ?_
        exact (extendRow_refines (extends' row member)).bind fun _ => .refl _
      refine Refines.bind (.refl _) fun columns => ?_
      refine joinAll_refines rest (fun longer member => ?_) others
      obtain ⟨group, grouped, inside⟩ := List.mem_flatten.mp member
      obtain ⟨pair, paired, rfl⟩ := List.mem_map.mp grouped
      obtain ⟨row, present, answered⟩ := exists_of_mem_mapM done pair paired
      obtain ⟨right, _, answered⟩ := bind_eq_ok.mp answered
      obtain ⟨pairs, extended, answered⟩ := bind_eq_ok.mp answered
      cases answered
      rw [extendRow_names extended longer inside, named row present]
    · rename_i separate
      rw [if_neg separate] at offers
      refine (Source.read_refines source (offers.mono fun c part => ?_)).bind fun right => ?_
      · exact List.mem_append_left _ (List.mem_append_left _ part)
      refine Refines.bind_of (.mapM fun row member => extendRow_refines (extends' row member))
        fun groups done => ?_
      refine joinAll_refines rest (fun longer member => ?_) others
      obtain ⟨group, grouped, inside⟩ := List.mem_flatten.mp member
      obtain ⟨row, present, extended⟩ := exists_of_mem_mapM done group grouped
      rw [extendRow_names extended longer inside, named row present]

end

end Relata
