import Relata.Proofs.Record.Named
import Relata.Proofs.Relation.Overlooks
import Relata.Proofs.Session.Preload
import Relata.Session.Batches

/-!
Two runs of one operation. Sessions whose tables differ only in veiled columns answer alike what overlooks these,
one statement after the other, and stay so related.
-/

namespace Relata

variable {α β : Type} {R : Session → Session → Prop} {P : α → Prop} {Q : β → Prop}

/-- On sessions so related the program has the same outcome, of this kind, and leaves sessions that are related
again. -/
def Agrees (R : Session → Session → Prop) (P : α → Prop) (program : StateM Session α) : Prop :=
  ∀ session other, R session other → (program.run session).1 = (program.run other).1 ∧
    P (program.run session).1 ∧ R (program.run session).2 (program.run other).2

/-- The same of an action. Nothing is said about its failures but that they are the same. -/
def Action.Agrees (R : Session → Session → Prop) (P : α → Prop) (action : Action α) : Prop :=
  Relata.Agrees R (fun answer => ∀ a, answer = .ok a → P a) action.run

namespace Agrees

theorem pure {a : α} (holds : P a) : Agrees R P (Pure.pure a) := fun _ _ related => ⟨rfl, holds, related⟩

theorem bind {program : StateM Session α} {next : α → StateM Session β} (first : Agrees R P program)
    (then' : ∀ a, P a → Agrees R Q (next a)) : Agrees R Q (program >>= next) := by
  intro session other related
  obtain ⟨same, holds, after⟩ := first session other related
  rw [StateT.run_bind, StateT.run_bind]
  generalize program.run session = left, program.run other = right at same holds after
  obtain ⟨a, session⟩ := left
  obtain ⟨b, other⟩ := right
  cases same
  exact then' a holds session other after

theorem get_bind {next : Session → StateM Session β}
    (same : ∀ session other, R session other → next session = next other)
    (each : ∀ session other, R session other → Agrees R Q (next session)) : Agrees R Q (get >>= next) := by
  intro session other related
  have left : (get >>= next).run session = (next session).run session := rfl
  have right : (get >>= next).run other = (next session).run other := by
    rw [same session other related]
    rfl
  rw [left, right]
  exact each session other related session other related

theorem imp {P' : α → Prop} {program : StateM Session α} (agrees : Agrees R P program)
    (weaker : ∀ a, P a → P' a) : Agrees R P' program := by
  intro session other related
  obtain ⟨same, holds, after⟩ := agrees session other related
  exact ⟨same, weaker _ holds, after⟩

end Agrees

namespace Action.Agrees

theorem pure {a : α} (holds : P a) : Action.Agrees R P (Pure.pure a) :=
  fun _ _ related => ⟨rfl, fun _ same => Except.ok.inj same ▸ holds, related⟩

theorem throw (failure : Failure) : Action.Agrees R P (throw failure : Action α) :=
  fun _ _ related => ⟨rfl, (fun _ absent => nomatch absent), related⟩

theorem ofExcept (result : Except Error α) : Action.Agrees R (result = .ok ·) (Session.ofExcept result) := by
  cases result with
  | ok a => exact pure rfl
  | error e => exact throw _

theorem bind {action : Action α} {next : α → Action β} (first : action.Agrees R P)
    (then' : ∀ a, P a → (next a).Agrees R Q) : Action.Agrees R Q (action >>= next) := by
  change Relata.Agrees R _ (action.run >>= ExceptT.bindCont next)
  refine Relata.Agrees.bind first fun answer holds => ?_
  cases answer with
  | ok a => exact then' a (holds a rfl)
  | error failure => exact throw failure

theorem get_bind {next : Session → Action β}
    (same : ∀ session other, R session other → next session = next other)
    (each : ∀ session other, R session other → (next session).Agrees R Q) :
    Action.Agrees R Q (get >>= next) := by
  intro session other related
  have left : (get >>= next : Action β).run.run session = (next session).run.run session := rfl
  have right : (get >>= next : Action β).run.run other = (next session).run.run other := by
    rw [same session other related]
    rfl
  rw [left, right]
  exact each session other related session other related

theorem lift {program : StateM Session α} (agrees : Relata.Agrees R P program) :
    Action.Agrees R P (liftM program) := by
  intro session other related
  obtain ⟨same, holds, after⟩ := agrees session other related
  exact ⟨congrArg Except.ok same, fun a answered => Except.ok.inj answered ▸ holds, after⟩

end Action.Agrees

theorem Loaded.mem_of_mem_ofRecords {single : Bool} {records : List Record} {record : Record}
    (member : record ∈ (Loaded.ofRecords single records).records) : record ∈ records := by
  cases single with
  | true => exact List.mem_of_mem_head? (Option.mem_toList.mp member)
  | false => exact member

namespace Session

variable {schema : Schema} {veil : Veil} {session other : Session} {relation : Relation} {owner target : Model}
  {association : Association}

/-- Sessions on tables of the schema that differ at most in veiled columns, both usable or neither. -/
structure Twins (schema : Schema) (veil : Veil) (session other : Session) : Prop where
  left : session.Serves schema
  right : other.Serves schema
  poisoned : other.engine.poisoned = session.engine.poisoned
  near : session.engine.store.database.Near veil other.engine.store.database

theorem Twins.after (twins : session.Twins schema veil other) (relation : Relation) :
    (session.after relation).Twins schema veil (other.after relation) :=
  ⟨twins.left.after relation, twins.right.after relation, twins.poisoned, twins.near⟩

theorem Twins.records (twins : session.Twins schema veil other) (overlooks : relation.query.Overlooks veil) :
    session.records relation = other.records relation := by
  rw [records_eq twins.left, records_eq twins.right, twins.poisoned, Query.answer, Query.answer,
    overlooks.run_eq twins.near .nil]

/-- The records that the relation has on any session with such tables. -/
def Loadable (schema : Schema) (relation : Relation) (loaded : List Record) : Prop :=
  ∃ session : Session, session.Serves schema ∧ session.engine.store.database.Rectangular ∧
    session.records relation = .ok loaded

theorem all_agrees (overlooks : relation.query.Overlooks veil) :
    (all relation).Agrees (Twins schema veil) (Loadable schema relation) := by
  intro session other twins
  have left : (all relation).on session = _ := all_on twins.left
  have right : (all relation).on other = _ := all_on twins.right
  rw [Action.on] at left right
  rw [left, right]
  exact ⟨twins.records overlooks, fun loaded done => ⟨session, twins.left, twins.near.rectangular, done⟩,
    twins.after relation⟩

theorem first_agrees (overlooks : relation.Overlooks veil)
    (active : relation.model.isIgnored relation.model.primaryKey = false) :
    (first relation).Agrees (Twins schema veil) fun found =>
      ∃ loaded, Loadable schema ((ordered relation).limitTo 1) loaded ∧ found = loaded.head? := by
  have ordered : (ordered relation).Overlooks veil := by
    unfold ordered
    split
    · exact overlooks.orderByAsc active
    · exact overlooks
  exact .bind (all_agrees (ordered.limitTo 1).query) fun loaded loadable => .pure ⟨loaded, loadable, rfl⟩

theorem requireLateral_agrees : requireLateral.Agrees (Twins schema veil) fun _ => True := by
  intro session other twins
  have left := requireLateral_on twins.left
  have right := requireLateral_on twins.right
  rw [Action.on] at left right
  rw [left, right]
  exact ⟨rfl, fun _ _ => trivial, twins⟩

theorem model_agrees {name : String} {next : Model → Action α}
    (each : ∀ model, schema.model? name = some model → (next model).Agrees (Twins schema veil) P) :
    Action.Agrees (Twins schema veil) P (do
      let model ← ofExcept ((← get).schema.model name)
      next model) := by
  refine .get_bind (fun session other twins => ?_) fun session other twins => ?_
  · rw [twins.left.served, twins.right.served]
  · rw [twins.left.served]
    exact .bind (.ofExcept _) fun model found => each model (Schema.model_eq_ok_iff.mp found)

theorem find_agrees {model : Model} (overlooks : model.all.Overlooks veil)
    (active : model.isIgnored model.primaryKey = false) (modelled : schema.model? model.name = some model)
    (key : Value) :
    (find model.name key).Agrees (Twins schema veil) fun record =>
      ∃ loaded, Loadable schema ((ordered (model.all.whereEq model.primaryKey key)).limitTo 1) loaded ∧
        record ∈ loaded := by
  refine model_agrees fun found same => ?_
  cases modelled.symm.trans same
  have model' : (model.all.whereEq model.primaryKey key).model = model :=
    model.all.apply_model (.whereEq model.primaryKey key)
  refine .bind (first_agrees (overlooks.whereEq active key) (by rwa [model'])) fun found loads => ?_
  obtain ⟨loaded, loadable, same⟩ := loads
  cases found with
  | none => exact .throw _
  | some record => exact .pure ⟨loaded, loadable, List.mem_of_mem_head? same.symm⟩

theorem scopeForOwner_eq_ok {key : Value} {scope : Relation}
    (found : association.scopeForOwner schema owner key = .ok scope) :
    ∃ target, schema.model? association.target = some target ∧
      scope = association.scopeAt owner target key := by
  obtain ⟨children, within, _⟩ := bind_eq_ok.mp found
  obtain ⟨target, modelled, _⟩ := bind_eq_ok.mp within
  have targeted := Schema.model_eq_ok_iff.mp modelled
  rw [scopeForOwner_eq key targeted] at found
  exact ⟨target, targeted, (Except.ok.inj found).symm⟩

/-- The owner's association of that name, and its target. -/
structure Targets (schema : Schema) (owner : Model) (name : String) (association : Association)
    (target : Model) : Prop where
  named : owner.association? name = some association
  targeted : schema.model? association.target = some target

theorem association_agrees {record : Record} {name : String} (named : veil.table ∈ veil.names)
    (overlook : ∀ owner association target, schema.model? record.model = some owner →
      Targets schema owner name association target → association.Overlooks owner target veil) :
    (Session.association record name).Agrees (Twins schema veil) fun loaded =>
      ∃ owner association target key children, schema.model? record.model = some owner ∧
        Targets schema owner name association target ∧
        Loadable schema (association.scopeAt owner target key) children ∧
        loaded = .ofRecords association.single children := by
  refine .get_bind (fun session other twins => ?_) fun session other twins => ?_
  · simp only [twins.left.served, twins.right.served]
  · simp only [twins.left.served]
    refine .bind (.ofExcept _) fun owner found => .bind (.ofExcept _) fun association known => ?_
    refine .bind requireLateral_agrees fun _ _ => .bind (.ofExcept _) fun key _ => ?_
    refine .bind (.ofExcept _) fun scope read => ?_
    obtain ⟨target, targeted, rfl⟩ := scopeForOwner_eq_ok read
    have modelled := Schema.model_eq_ok_iff.mp found
    have targets : Targets schema owner name association target :=
      ⟨Model.association_eq_ok_iff.mp known, targeted⟩
    have query := (overlook owner association target modelled targets).query named
      (association.scopeAt_selects owner target key)
    exact .bind (all_agrees query) fun children loadable =>
      .pure ⟨owner, association, target, key, children, modelled, targets, loadable, rfl⟩

/-- A record with further associations loaded. What is loaded under a name was there before, or has records that
were loaded for the owner's association of that name. -/
structure Grows (schema : Schema) (owner : Model) (record grown : Record) : Prop where
  model : grown.model = record.model
  values : grown.values = record.values
  loaded : ∀ name found, grown.loaded? name = some found → record.loaded? name = some found ∨
    ∃ association target, Targets schema owner name association target ∧
      ∀ child ∈ found.records, ∃ keys children,
        Loadable schema (association.scopeIn owner target keys) children ∧ child ∈ children

namespace Grows

variable {record grown further : Record}

theorem refl (record : Record) : Grows schema owner record record := ⟨rfl, rfl, fun _ _ found => .inl found⟩

theorem trans (first : Grows schema owner record grown) (second : Grows schema owner grown further) :
    Grows schema owner record further := by
  refine ⟨second.model.trans first.model, second.values.trans first.values, fun name found held => ?_⟩
  exact (second.loaded name found held).elim (first.loaded name found) .inr

theorem unchanged (records : List Record) : List.Forall₂ (Grows schema owner) records records :=
  List.forall₂_same.mpr fun record _ => .refl record

end Grows

theorem mem_of_mem_childrenOf {record child : Record} {children : List Record}
    (member : child ∈ childrenOf record association children) : child ∈ children := by
  unfold childrenOf at member
  split at member
  · cases member
  · exact List.mem_of_mem_filter member

theorem withChildren_grows (targets : Targets schema owner association.name association target)
    {children : List Record} (fetched : ∀ child ∈ children, ∃ keys loaded,
      Loadable schema (association.scopeIn owner target keys) loaded ∧ child ∈ loaded) (record : Record) :
    Grows schema owner record (withChildren association children record) := by
  refine ⟨rfl, rfl, fun name found held => ?_⟩
  rw [withChildren, Record.loaded?_setLoaded] at held
  split at held
  · rename_i same
    subst same
    cases held
    refine .inr ⟨association, target, targets, fun child member => ?_⟩
    exact fetched child (mem_of_mem_childrenOf (Loaded.mem_of_mem_ofRecords member))
  · exact .inl held

theorem loadAssociation_agrees (named : veil.table ∈ veil.names)
    (targets : Targets schema owner association.name association target)
    (overlooks : association.Overlooks owner target veil) (records : List Record) :
    (loadAssociation owner association records).Agrees (Twins schema veil)
      (List.Forall₂ (Grows schema owner) records) := by
  have grow : ∀ {children : List Record}, (∀ child ∈ children, ∃ keys loaded,
      Loadable schema (association.scopeIn owner target keys) loaded ∧ child ∈ loaded) →
      List.Forall₂ (Grows schema owner) records (records.map (withChildren association children)) :=
    fun fetched => List.forall₂_map_right_iff.mpr (List.forall₂_same.mpr fun record _ =>
      withChildren_grows targets fetched record)
  intro session other twins
  have left : (loadAssociation owner association records).on session = _ :=
    loadAssociation_on twins.left targets.targeted records
  have right : (loadAssociation owner association records).on other = _ :=
    loadAssociation_on twins.right targets.targeted records
  rw [Action.on] at left right
  rw [left, right]
  split
  · refine ⟨rfl, fun loaded same => ?_, twins⟩
    cases same
    exact grow fun _ absent => absurd absent List.not_mem_nil
  · have query := overlooks.query named (association.scopeIn_selects owner target
      (keysOf records association.keys.primaryKey))
    dsimp only
    rw [← twins.records query]
    refine ⟨rfl, fun loaded answered => ?_, twins.after _⟩
    cases done : session.records (association.scopeIn owner target
        (keysOf records association.keys.primaryKey)) with
    | error failure =>
        rw [done] at answered
        cases answered
    | ok children =>
        rw [done] at answered
        cases answered
        exact grow fun child member =>
          ⟨_, children, ⟨session, twins.left, twins.near.rectangular, done⟩, member⟩

theorem loadAssociations_agrees (named : veil.table ∈ veil.names) {associations : List Association}
    (each : ∀ association ∈ associations, ∃ target,
      Targets schema owner association.name association target ∧ association.Overlooks owner target veil)
    (records : List Record) :
    Agrees (Twins schema veil) (fun outcome => List.Forall₂ (Grows schema owner) records outcome.2)
      (loadAssociations owner associations records) := by
  induction associations generalizing records with
  | nil => exact .pure (Grows.unchanged records)
  | cons association rest ih =>
      obtain ⟨target, targets, overlooks⟩ := each association List.mem_cons_self
      refine .bind (loadAssociation_agrees named targets overlooks records) fun answer grown => ?_
      cases answer with
      | error failure => exact .pure (Grows.unchanged records)
      | ok loaded =>
          have others := ih (fun later inside => each later (List.mem_cons_of_mem _ inside)) loaded
          refine others.imp fun outcome further => ?_
          exact forall₂_of_common (fun _ _ _ first second => first.trans second) (grown loaded rfl).flip further

/-- Every association of the owner with one of the names overlooks the veiled columns. -/
def Overlook (schema : Schema) (veil : Veil) (owner : Model) (names : List String) : Prop :=
  ∀ name ∈ names, ∀ association target, Targets schema owner name association target →
    association.Overlooks owner target veil

variable {names : List String} {associations : List Association}

theorem overlooks_of_resolved (sound : schema.Sound) (known : owner ∈ schema.models)
    (overlook : Overlook schema veil owner names)
    (resolved : names.mapM owner.association = .ok associations) :
    ∀ association ∈ associations, ∃ target,
      Targets schema owner association.name association target ∧ association.Overlooks owner target veil := by
  intro association member
  obtain ⟨name, inside, found⟩ := exists_of_mem_mapM resolved association member
  obtain ⟨own, target, targeted⟩ := named_of_resolved sound known resolved association member
  exact ⟨target, ⟨own, targeted⟩,
    overlook name inside association target ⟨Model.association_eq_ok_iff.mp found, targeted⟩⟩

theorem resolve_agrees : (resolve owner names).Agrees (Twins schema veil)
    (names.mapM owner.association = .ok ·) := by
  refine .bind (.ofExcept _) fun associations resolved => ?_
  split
  · exact .pure resolved
  · dsimp only
    exact .bind requireLateral_agrees fun _ _ => .pure resolved

/-- Records of the relation, with associations. -/
def Preloaded (schema : Schema) (relation : Relation) (loaded : List Record) : Prop :=
  ∃ records, Loadable schema relation records ∧ List.Forall₂ (Grows schema relation.model) records loaded

theorem preload_agrees (sound : schema.Sound) (known : relation.model ∈ schema.models)
    (named : veil.table ∈ veil.names) (overlooks : relation.query.Overlooks veil)
    (overlook : Overlook schema veil relation.model names) :
    (preload relation names).Agrees (Twins schema veil) (Preloaded schema relation) := by
  refine .bind resolve_agrees fun associations resolved => ?_
  refine .bind (all_agrees overlooks) fun records loadable => ?_
  have each := overlooks_of_resolved sound known overlook resolved
  refine .bind (.lift (loadAssociations_agrees named each records)) fun outcome grown => ?_
  obtain ⟨failure | _, loaded⟩ := outcome
  · exact .throw failure
  · exact .pure ⟨records, loadable, grown⟩

theorem preloadRecords_agrees (sound : schema.Sound) (named : veil.table ∈ veil.names)
    (modelled : schema.model? owner.name = some owner) (overlook : Overlook schema veil owner names)
    (records : List Record) :
    Agrees (Twins schema veil) (fun outcome => List.Forall₂ (Grows schema owner) records outcome.2)
      (preloadRecords owner.name records names) := by
  have resolved : Action.Agrees (Twins schema veil) (fun found : Model × List Association =>
      found.1 = owner ∧ names.mapM owner.association = .ok found.2) (do
        let owner ← ofExcept ((← get).schema.model owner.name)
        return (owner, ← resolve owner names)) := by
    refine model_agrees fun found same => ?_
    cases modelled.symm.trans same
    exact .bind resolve_agrees fun associations resolved => .pure ⟨rfl, resolved⟩
  refine .bind resolved fun answer holds => ?_
  cases answer with
  | error failure => exact .pure (Grows.unchanged records)
  | ok found =>
      obtain ⟨own, associations⟩ := found
      obtain ⟨rfl, resolved⟩ := holds _ rfl
      exact loadAssociations_agrees named
        (overlooks_of_resolved sound (List.mem_of_find?_eq_some modelled) overlook resolved) records

/-- Each batch is one of those shown before, or a page. -/
def Walked (schema : Schema) (base : Relation) (size : Nat) (shown : List (List Record)) (walk : Walk) :
    Prop :=
  ∀ batch ∈ walk.batches, batch ∈ shown ∨ ∃ last, Preloaded schema (page base last size) batch

theorem walkFrom_agrees (sound : schema.Sound) {base : Relation} (known : base.model ∈ schema.models)
    (named : veil.table ∈ veil.names) {size : Nat}
    (overlooks : ∀ last, (page base last size).Overlooks veil)
    (overlook : Overlook schema veil base.model names) (visit : List (List Record) → Option Error)
    (bound : Nat) (last : Option Value) (shown : List (List Record)) :
    Agrees (Twins schema veil) (Walked schema base size shown)
      (walkFrom base size names visit bound last shown) := by
  induction bound generalizing last shown with
  | zero => exact .pure fun batch before => .inl before
  | succ bound ih =>
      have model : (page base last size).model = base.model := by cases last <;> rfl
      have loads : (preload (page base last size) names).Agrees (Twins schema veil)
          (Preloaded schema (page base last size)) :=
        preload_agrees sound (model ▸ known) named (overlooks last).query (model ▸ overlook)
      refine .bind loads fun answer holds => ?_
      cases answer with
      | error failure => exact .pure fun batch before => .inl before
      | ok records =>
          have newest : ∀ ending, Walked schema base size shown ⟨shown ++ [records], ending⟩ := by
            intro ending batch member
            refine (List.mem_append.mp member).imp_right fun own => ⟨last, ?_⟩
            rw [List.mem_singleton.mp own]
            exact holds records rfl
          dsimp only
          cases records.getLast? with
          | none => exact .pure fun batch before => .inl before
          | some tail =>
              dsimp only
              cases visit (shown ++ [records]) with
              | some e => exact .pure (newest _)
              | none =>
                  dsimp only
                  split
                  · exact .pure (newest _)
                  · refine (ih _ (shown ++ [records])).imp fun walk walked batch member => ?_
                    exact (walked batch member).elim (newest .finished batch) .inr

theorem Twins.same_sourceRows (twins : session.Twins schema veil other) (overlooks : relation.Overlooks veil) :
    session.sourceRows relation = other.sourceRows relation := by
  have matched : Matches (Joined.Near veil) (relation.query.joined session.engine.store.database [])
      (relation.query.joined other.engine.store.database []) :=
    Query.joined_near twins.near overlooks.query.blind .nil
  unfold sourceRows
  generalize relation.query.joined session.engine.store.database [] = left,
    relation.query.joined other.engine.store.database [] = right at matched
  cases matched with
  | ok related => exact related.rows.length_eq
  | error e => rfl

theorem findInBatches_agrees (sound : schema.Sound) (known : relation.model ∈ schema.models)
    (named : veil.table ∈ veil.names) (overlooks : relation.Overlooks veil)
    (overlook : Overlook schema veil relation.model names) (size : Nat)
    (visit : List (List Record) → Option Error) :
    Agrees (Twins schema veil) (Walked schema (byKey relation) size [])
      (findInBatches relation size names visit) := by
  have active := sound.keyActive relation.model known
  have keyed : (byKey relation).Overlooks veil := by
    have bare : ({ relation with order := [], limit := none } : Relation).Overlooks veil :=
      { overlooks with order := fun _ absent => absurd absent List.not_mem_nil }
    exact bare.orderByAsc active
  have pages : ∀ last, (page (byKey relation) last size).Overlooks veil := by
    intro last
    cases last with
    | none => exact keyed.limitTo size
    | some key => exact (keyed.compare active .gt (.const key)).limitTo size
  unfold findInBatches
  split
  · exact .pure fun batch absent => absurd absent List.not_mem_nil
  · refine .get_bind (fun session other twins => ?_) fun session other twins => ?_
    · rw [twins.same_sourceRows overlooks]
    · have model : (byKey relation).model = relation.model := rfl
      exact walkFrom_agrees sound (model ▸ known) named pages (model ▸ overlook) visit _ none []

end Session

end Relata
