import Relata.Proofs.Session.Refused

/-!
What operations keep. Whatever is asked of a session, nothing is done to it but to execute statements and to take
stamps, so what these two keep is kept by every request. Where no row is inserted, it is enough that it is kept
where records are loaded.
-/

namespace Relata

namespace Session

/-- Loading records keeps the property. -/
def Lasting (P : Session → Prop) : Prop := ∀ relation, (all relation).Keeps P

variable {P : Session → Prop} {session : Session}

theorem requireLateral_keeps : requireLateral.Keeps P := by
  refine .bind Action.keeps_get fun current => ?_
  split
  · exact Action.keeps_pure _
  · exact Action.keeps_throw _

theorem resolve_keeps (owner : Model) (names : List String) : (resolve owner names).Keeps P := by
  refine .bind (Action.keeps_ofExcept _) fun associations => ?_
  split
  · exact Action.keeps_pure _
  · exact .bind requireLateral_keeps fun _ => Action.keeps_pure _

namespace Lasting

theorem first (lasting : Lasting P) (relation : Relation) : (Session.first relation).Keeps P :=
  .bind (lasting _) fun _ => Action.keeps_pure _

theorem find (lasting : Lasting P) (name : String) (key : Value) : (Session.find name key).Keeps P := by
  refine .bind Action.keeps_get fun current => .bind (Action.keeps_ofExcept _) fun model => ?_
  refine .bind (lasting.first _) fun found => ?_
  cases found with
  | none => exact Action.keeps_throw _
  | some record => exact Action.keeps_pure record

theorem association (lasting : Lasting P) (record : Record) (name : String) :
    (Session.association record name).Keeps P := by
  refine .bind Action.keeps_get fun current => .bind (Action.keeps_ofExcept _) fun owner => ?_
  refine .bind (Action.keeps_ofExcept _) fun association => .bind requireLateral_keeps fun _ => ?_
  refine .bind (Action.keeps_ofExcept _) fun key => .bind (Action.keeps_ofExcept _) fun scope => ?_
  exact .bind (lasting scope) fun _ => Action.keeps_pure _

theorem loadAssociation (lasting : Lasting P) (owner : Model) (association : Association)
    (records : List Record) : (Session.loadAssociation owner association records).Keeps P := by
  rw [Session.loadAssociation]
  split
  · exact Action.keeps_pure _
  · refine .bind Action.keeps_get fun current => .bind (Action.keeps_ofExcept _) fun scope => ?_
    exact .bind (lasting scope) fun children => Action.keeps_pure _

theorem loadAssociations (lasting : Lasting P) (owner : Model) (associations : List Association)
    (records : List Record) (holds : P session) :
    P ((Session.loadAssociations owner associations records).run session).2 := by
  induction associations generalizing records session with
  | nil => exact holds
  | cons association rest ih =>
      have kept := lasting.loadAssociation owner association records session holds
      rw [loadAssociations_cons]
      cases ran : (Session.loadAssociation owner association records).on session with
      | mk answer middle =>
          rw [ran] at kept
          cases answer with
          | error failure => exact kept
          | ok loaded => exact ih loaded kept

theorem preload (lasting : Lasting P) (relation : Relation) (names : List String) :
    (Session.preload relation names).Keeps P := by
  refine .bind (resolve_keeps _ _) fun associations => .bind (lasting relation) fun records => ?_
  refine .bind (fun session holds => lasting.loadAssociations _ associations records holds) fun answer => ?_
  split
  · exact Action.keeps_pure _
  · exact Action.keeps_throw _

theorem preloadRecords (lasting : Lasting P) (model : String) (records : List Record) (names : List String)
    (holds : P session) : P ((Session.preloadRecords model records names).run session).2 := by
  have resolves : Action.Keeps P (do
      let owner ← ofExcept ((← get).schema.model model)
      return (owner, ← resolve owner names)) := by
    refine .bind Action.keeps_get fun current => .bind (Action.keeps_ofExcept _) fun owner => ?_
    exact .bind (resolve_keeps owner names) fun _ => Action.keeps_pure _
  have kept := resolves session holds
  rw [Action.on] at kept
  rw [Session.preloadRecords, StateT.run_bind]
  generalize StateT.run (ExceptT.run _) session = resolved at kept ⊢
  obtain ⟨answer, after⟩ := resolved
  cases answer with
  | error failure => exact kept
  | ok found => exact lasting.loadAssociations found.1 found.2 records kept

theorem walkFrom (lasting : Lasting P) (base : Relation) (size : Nat) (names : List String)
    (visit : List (List Record) → Option Error) (bound : Nat) (last : Option Value) (shown : List (List Record))
    (holds : P session) : P ((Session.walkFrom base size names visit bound last shown).run session).2 := by
  induction bound generalizing last shown session with
  | zero => exact holds
  | succ bound ih =>
      have kept := lasting.preload (page base last size) names session holds
      rw [walkFrom_succ]
      cases ran : (Session.preload (page base last size) names).on session with
      | mk answer middle =>
          rw [ran] at kept
          cases answer with
          | error failure => exact kept
          | ok records =>
              dsimp only
              split
              · exact kept
              split
              · exact kept
              split
              · exact kept
              · exact ih _ _ kept

theorem findInBatches (lasting : Lasting P) (relation : Relation) (size : Nat) (names : List String)
    (visit : List (List Record) → Option Error) (holds : P session) :
    P ((Session.findInBatches relation size names visit).run session).2 := by
  rw [Session.findInBatches]
  split
  · exact holds
  · exact lasting.walkFrom _ _ _ _ _ _ _ holds

end Lasting

theorem Stable.lasting (stable : Stable P) : Lasting P := fun _ =>
  .bind (stable.exec _) fun _ => Action.keeps_pure _

/-- What statements and stamps keep is kept by every request. -/
theorem Stable.call (stable : Stable P) (call : Call) (holds : P session) : P (call.run session).2 := by
  cases call with
  | insert model values => exact stable.insert model values session holds
  | find model key => exact stable.lasting.find model key session holds
  | association record name => exact stable.lasting.association record name session holds
  | preload relation names => exact stable.lasting.preload relation names session holds
  | preloadRecords model records names => exact stable.lasting.preloadRecords model records names holds
  | findInBatches relation size names visit =>
      exact stable.lasting.findInBatches relation size names visit holds

end Session

end Relata
