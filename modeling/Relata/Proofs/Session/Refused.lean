import Relata.Proofs.Session.Batches

/-!
Requests that cannot be carried out. A request that lacks what it needs is refused with an error about something
that it lacks, before anything is executed, stored, loaded or shown.
-/

namespace Relata

/-- The requests that are checked before they run. -/
inductive Call
  | insert (model : String) (values : List (String × Value))
  | find (model : String) (key : Value)
  | association (record : Record) (name : String)
  | preload (relation : Relation) (names : List String)
  | preloadRecords (model : String) (records : List Record) (names : List String)
  | findInBatches (relation : Relation) (size : Nat) (names : List String)
    (visit : List (List Record) → Option Error)

/-- What the caller sees of a request: its failure, the batches that its visitor was shown, and the given
records as they are left. -/
structure Outcome where
  failure : Option Failure
  shown : List (List Record)
  records : List Record

def WalkEnd.failure? : WalkEnd → Option Failure
  | .failed failure => some failure
  | .finished | .endless => none

theorem Schema.model_eq_error {schema : Schema} {name : String} (unknown : schema.model? name = none) :
    schema.model name = .error (.invalidSchema ("unknown model `" ++ name ++ "`")) := by
  rw [Schema.model, unknown]

namespace Call

/-- The name that a model is looked up by. -/
def model? : Call → Option String
  | .insert model _ | .find model _ | .preloadRecords model _ _ => some model
  | .association record _ => some record.model
  | .preload _ _ | .findInBatches _ _ _ _ => none

/-- The model whose associations are named. -/
def owner? (session : Session) : Call → Option Model
  | .insert _ _ | .find _ _ => none
  | .association record _ => session.schema.model? record.model
  | .preloadRecords model _ _ => session.schema.model? model
  | .preload relation _ | .findInBatches relation _ _ _ => some relation.model

/-- The names of the associations to load. -/
def names : Call → List String
  | .insert _ _ | .find _ _ => []
  | .association _ name => [name]
  | .preload _ names | .preloadRecords _ _ names | .findInBatches _ _ names _ => names

/-- The records that the caller gives. -/
def given : Call → List Record
  | .association record _ => [record]
  | .preloadRecords _ records _ => records
  | .insert _ _ | .find _ _ | .preload _ _ | .findInBatches _ _ _ _ => []

def failureOf {α : Type} : Except Failure α → Option Failure
  | .ok _ => none
  | .error failure => some failure

def answered {α : Type} (records : List Record) (done : Except Failure α × Session) : Outcome × Session :=
  (⟨failureOf done.1, [], records⟩, done.2)

def run (session : Session) : Call → Outcome × Session
  | .insert model values => answered [] ((Session.insert model values).on session)
  | .find model key => answered [] ((Session.find model key).on session)
  | .association record name => answered [record] ((Session.association record name).on session)
  | .preload relation names => answered [] ((Session.preload relation names).on session)
  | .preloadRecords model records names =>
    let ((answer, records), after) := (Session.preloadRecords model records names).run session
    (⟨failureOf answer, [], records⟩, after)
  | .findInBatches relation size names visit =>
    let (walk, after) := (Session.findInBatches relation size names visit).run session
    (⟨walk.ending.failure?, walk.batches, []⟩, after)

/-- What keeps a request from being carried out, with the error about it. -/
inductive Lacks (session : Session) : Call → Error → Prop
  | model {call : Call} {name : String} (named : call.model? = some name)
    (unknown : session.schema.model? name = none) :
    Lacks session call (.invalidSchema ("unknown model `" ++ name ++ "`"))
  | association {call : Call} {owner : Model} {name : String} (owned : call.owner? session = some owner)
    (listed : name ∈ call.names) (unknown : owner.association? name = none) :
    Lacks session call (.of (.unknownAssociation owner.name name))
  | returning {model : String} {values : List (String × Value)}
    (missing : session.capability.returning = false) :
    Lacks session (.insert model values) (.unsupportedFeature "driver cannot return inserted rows")
  | lateral {call : Call} (listed : call.names ≠ []) (missing : session.capability.lateralJoin = false) :
    Lacks session call (.unsupportedFeature "driver does not support JOIN LATERAL")
  | key {record : Record} {name : String} {owner : Model} {association : Association}
    (modelled : session.schema.model? record.model = some owner)
    (named : owner.association? name = some association)
    (keyless : ∀ key, record.get? association.keys.primaryKey = some key → key = .null) :
    Lacks session (.association record name) (.adhoc ("`" ++ record.model ++ "` has no `" ++
      association.keys.primaryKey ++ "` to load `" ++ association.name ++ "` by"))
  | size {relation : Relation} {names : List String} {visit : List (List Record) → Option Error} :
    Lacks session (.findInBatches relation 0 names visit) (.adhoc "batch size must be greater than zero")

variable {session : Session} {call : Call} {owner : Model} {e : Error}

/-- Names are resolved as a list. Wherever an unknown one stands in it, the first one is found. -/
theorem exists_unknown {names : List String} {name : String} (listed : name ∈ names)
    (unknown : owner.association? name = none) :
    ∃ name ∈ names, owner.association? name = none ∧
      names.mapM owner.association = .error (.of (.unknownAssociation owner.name name)) := by
  induction names with
  | nil => cases listed
  | cons first rest ih =>
      rw [List.mapM_cons]
      cases found : owner.association? first with
      | none =>
          refine ⟨first, List.mem_cons_self, found, ?_⟩
          rw [Model.association_eq_error found]
          rfl
      | some association =>
          have later : name ∈ rest := (List.mem_cons.mp listed).resolve_left fun same => by
            rw [same, found] at unknown
            cases unknown
          obtain ⟨other, inside, absent, fails⟩ := ih later
          refine ⟨other, List.mem_cons_of_mem _ inside, absent, ?_⟩
          rw [Model.association, found, fails]
          rfl

theorem ownerKey_eq_error {record : Record} {association : Association}
    (keyless : ∀ key, record.get? association.keys.primaryKey = some key → key = .null) :
    Session.ownerKey record association = .error (.adhoc ("`" ++ record.model ++ "` has no `" ++
      association.keys.primaryKey ++ "` to load `" ++ association.name ++ "` by")) := by
  rw [Session.ownerKey]
  cases held : record.get? association.keys.primaryKey with
  | none => rfl
  | some key =>
      cases keyless key held
      rfl

/-- Names of associations that cannot be loaded. -/
def Unloadable (session : Session) (owner : Model) (names : List String) : Prop :=
  (∃ name ∈ names, owner.association? name = none) ∨
    names ≠ [] ∧ session.capability.lateralJoin = false

/-- What associations lack is found before any of them is loaded. -/
theorem resolve_refuses (owned : call.owner? session = some owner)
    (bad : Unloadable session owner call.names) :
    ∃ e, call.Lacks session e ∧
      (Session.resolve owner call.names).on session = (.error (.error e), session) := by
  by_cases absent : ∃ name ∈ call.names, owner.association? name = none
  · obtain ⟨name, listed, unknown⟩ := absent
    obtain ⟨other, inside, absent, fails⟩ := exists_unknown listed unknown
    exact ⟨_, .association owned inside absent, Action.on_ofExcept_bind_error fails⟩
  · obtain ⟨listed, missing⟩ := bad.resolve_left absent
    have known : ∀ name ∈ call.names, ∃ association, owner.association name = .ok association := by
      intro name inside
      obtain ⟨association, named⟩ :=
        Option.ne_none_iff_exists'.mp fun none => absent ⟨name, inside, none⟩
      exact ⟨association, by rw [Model.association, named]⟩
    obtain ⟨associations, resolved⟩ := exists_mapM_eq_ok known
    have some : ¬ associations.isEmpty = true := by
      rw [List.isEmpty_iff_length_eq_zero, ← (forall₂_of_mapM resolved).length_eq, List.length_eq_zero_iff]
      exact listed
    refine ⟨_, .lateral listed missing, ?_⟩
    rw [Session.resolve, Action.on_ofExcept_bind_ok resolved, if_neg some]
    exact Action.on_bind_failed (Session.requireLateral_refuses missing)

theorem insert_refused {model : String} {values : List (String × Value)}
    (lacks : (insert model values).Lacks session e) :
    ∃ e, (insert model values).Lacks session e ∧
      (Session.insert model values).on session = (.error (.error e), session) := by
  rw [Session.insert, Action.on_bind_done Action.on_get]
  cases found : session.schema.model? model with
  | none => exact ⟨_, .model rfl found, Action.on_ofExcept_bind_error (Schema.model_eq_error found)⟩
  | some owner =>
      have missing : session.capability.returning = false := by
        cases lacks with
        | model named unknown =>
            cases named
            rw [found] at unknown
            cases unknown
        | association owned => cases owned
        | returning missing => exact missing
        | lateral listed => exact absurd rfl listed
      refine ⟨_, .returning missing, ?_⟩
      rw [Action.on_ofExcept_bind_ok (Schema.model_eq_ok_iff.mpr found), Action.on_bind_done Action.on_get,
        if_neg (by simp [missing])]
      rfl

theorem find_refused {model : String} {key : Value} (lacks : (find model key).Lacks session e) :
    ∃ e, (find model key).Lacks session e ∧
      (Session.find model key).on session = (.error (.error e), session) := by
  have unknown : session.schema.model? model = none := by
    cases lacks with
    | model named unknown =>
        cases named
        exact unknown
    | association owned => cases owned
    | lateral listed => exact absurd rfl listed
  refine ⟨_, .model rfl unknown, ?_⟩
  rw [Session.find, Action.on_bind_done Action.on_get]
  exact Action.on_ofExcept_bind_error (Schema.model_eq_error unknown)

theorem association_refused {record : Record} {name : String}
    (lacks : (association record name).Lacks session e) :
    ∃ e, (association record name).Lacks session e ∧
      (Session.association record name).on session = (.error (.error e), session) := by
  rw [Session.association, Action.on_bind_done Action.on_get]
  cases modelled : session.schema.model? record.model with
  | none => exact ⟨_, .model rfl modelled, Action.on_ofExcept_bind_error (Schema.model_eq_error modelled)⟩
  | some owner =>
      dsimp only
      rw [Action.on_ofExcept_bind_ok (Schema.model_eq_ok_iff.mpr modelled)]
      cases named : owner.association? name with
      | none =>
          exact ⟨_, .association modelled (List.mem_singleton.mpr rfl) named,
            Action.on_ofExcept_bind_error (Model.association_eq_error named)⟩
      | some association =>
          have found : owner.association name = .ok association := by rw [Model.association, named]
          rw [Action.on_ofExcept_bind_ok found]
          cases lateral : session.capability.lateralJoin with
          | false =>
              exact ⟨_, .lateral (List.cons_ne_nil _ _) lateral,
                Action.on_bind_failed (Session.requireLateral_refuses lateral)⟩
          | true =>
              rw [Action.on_bind_done (Session.requireLateral_passes lateral)]
              cases lacks with
              | model asked unknown =>
                  cases asked
                  rw [modelled] at unknown
                  cases unknown
              | association owned listed unknown =>
                  cases modelled.symm.trans owned
                  cases List.mem_singleton.mp listed
                  rw [named] at unknown
                  cases unknown
              | lateral listed missing =>
                  rw [lateral] at missing
                  cases missing
              | key own found keyless =>
                  cases modelled.symm.trans own
                  cases named.symm.trans found
                  exact ⟨_, .key modelled named keyless,
                    Action.on_ofExcept_bind_error (ownerKey_eq_error keyless)⟩

theorem preload_refused {relation : Relation} {names : List String}
    (lacks : (preload relation names).Lacks session e) :
    ∃ e, (preload relation names).Lacks session e ∧
      (Session.preload relation names).on session = (.error (.error e), session) := by
  have bad : Unloadable session relation.model names := by
    cases lacks with
    | model asked => cases asked
    | association owned listed unknown =>
        cases owned
        exact .inl ⟨_, listed, unknown⟩
    | lateral listed missing => exact .inr ⟨listed, missing⟩
  have owned : (preload relation names).owner? session = some relation.model := rfl
  obtain ⟨e, lacks, refused⟩ := resolve_refuses owned bad
  exact ⟨e, lacks, Action.on_bind_failed refused⟩

theorem preloadRecords_refused {model : String} {records : List Record} {names : List String}
    (lacks : (preloadRecords model records names).Lacks session e) :
    ∃ e, (preloadRecords model records names).Lacks session e ∧
      (Session.preloadRecords model records names).run session =
        ((.error (.error e), records), session) := by
  have refused : ∃ e, (preloadRecords model records names).Lacks session e ∧
      Action.on (do
        let owner ← Session.ofExcept ((← get).schema.model model)
        return (owner, ← Session.resolve owner names)) session = (.error (.error e), session) := by
    rw [Action.on_bind_done Action.on_get]
    cases modelled : session.schema.model? model with
    | none => exact ⟨_, .model rfl modelled, Action.on_ofExcept_bind_error (Schema.model_eq_error modelled)⟩
    | some owner =>
        have bad : Unloadable session owner names := by
          cases lacks with
          | model asked unknown =>
              cases asked
              rw [modelled] at unknown
              cases unknown
          | association owned listed unknown =>
              cases modelled.symm.trans owned
              exact .inl ⟨_, listed, unknown⟩
          | lateral listed missing => exact .inr ⟨listed, missing⟩
        have owned : (preloadRecords model records names).owner? session = some owner := modelled
        obtain ⟨e, lacks, refused⟩ := resolve_refuses owned bad
        refine ⟨e, lacks, ?_⟩
        rw [Action.on_ofExcept_bind_ok (Schema.model_eq_ok_iff.mpr modelled)]
        exact Action.on_bind_failed refused
  obtain ⟨e, lacks, refused⟩ := refused
  refine ⟨e, lacks, ?_⟩
  rw [Action.on] at refused
  rw [Session.preloadRecords, StateT.run_bind, refused]
  rfl

theorem findInBatches_refused {relation : Relation} {size : Nat} {names : List String}
    {visit : List (List Record) → Option Error}
    (lacks : (findInBatches relation size names visit).Lacks session e) :
    ∃ e, (findInBatches relation size names visit).Lacks session e ∧
      (Session.findInBatches relation size names visit).run session =
        (⟨[], .failed (.error e)⟩, session) := by
  cases size with
  | zero => exact ⟨_, .size, rfl⟩
  | succ size =>
      have bad : Unloadable session relation.model names := by
        cases lacks with
        | model asked => cases asked
        | association owned listed unknown =>
            cases owned
            exact .inl ⟨_, listed, unknown⟩
        | lateral listed missing => exact .inr ⟨listed, missing⟩
      have owned : (findInBatches relation (size + 1) names visit).owner? session = some relation.model := rfl
      obtain ⟨e, lacks, refused⟩ := resolve_refuses owned bad
      have first : (Session.preload (Session.page (Session.byKey relation) none (size + 1)) names).on session =
          (.error (.error e), session) := Action.on_bind_failed refused
      have start : (Session.findInBatches relation (size + 1) names visit).run session =
          (Session.walkFrom (Session.byKey relation) (size + 1) names visit
            (session.sourceRows relation + 1) none []).run session := rfl
      refine ⟨e, lacks, ?_⟩
      rw [start, Session.walkFrom_succ, first]

/-- A request that lacks something fails with an error about something that it lacks. Nothing is executed and
the tables are as they were; no batch is shown, and the given records are left as they are. -/
theorem run_refused (lacks : call.Lacks session e) :
    ∃ e, call.Lacks session e ∧ call.run session = (⟨some (.error e), [], call.given⟩, session) := by
  cases call with
  | insert model values =>
      obtain ⟨e, lacks, refused⟩ := insert_refused lacks
      exact ⟨e, lacks, by rw [run, refused]; rfl⟩
  | find model key =>
      obtain ⟨e, lacks, refused⟩ := find_refused lacks
      exact ⟨e, lacks, by rw [run, refused]; rfl⟩
  | association record name =>
      obtain ⟨e, lacks, refused⟩ := association_refused lacks
      exact ⟨e, lacks, by rw [run, refused]; rfl⟩
  | preload relation names =>
      obtain ⟨e, lacks, refused⟩ := preload_refused lacks
      exact ⟨e, lacks, by rw [run, refused]; rfl⟩
  | preloadRecords model records names =>
      obtain ⟨e, lacks, refused⟩ := preloadRecords_refused lacks
      exact ⟨e, lacks, by rw [run, refused]; rfl⟩
  | findInBatches relation size names visit =>
      obtain ⟨e, lacks, refused⟩ := findInBatches_refused lacks
      exact ⟨e, lacks, by rw [run, refused]; rfl⟩

end Call

namespace Sample

/-- An owner has no comments, wherever they are asked for among its associations. -/
theorem run_refused_comments :
    let call := Call.preload owner.all ["notes", "comments", "latest"]
    call.Lacks session (.of (.unknownAssociation "Owner" "comments")) ∧
      call.run session =
        (⟨some (.error (.of (.unknownAssociation "Owner" "comments"))), [], []⟩, session) := by
  have lacks : (Call.preload owner.all ["notes", "comments", "latest"]).Lacks session
      (.of (.unknownAssociation owner.name "comments")) :=
    .association rfl (List.mem_cons_of_mem _ List.mem_cons_self) rfl
  obtain ⟨e, reason, refused⟩ := Call.run_refused lacks
  refine ⟨lacks, ?_⟩
  cases reason with
  | model asked => cases asked
  | association owned listed unknown =>
      cases owned
      simp only [Call.names, List.mem_cons, List.not_mem_nil, or_false] at listed
      rcases listed with rfl | rfl | rfl
      · cases unknown
      · exact refused
      · cases unknown
  | lateral listed missing =>
      rw [reached.serves.capability] at missing
      cases missing

end Sample

end Relata
