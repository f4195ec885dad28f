import Relata.Proofs.Session.Executed
import Relata.Proofs.Session.Kept

/-!
Loads that are interrupted. Associations are loaded into the records one after the other, so where one of them
fails, the records keep what was loaded before it: they are left as by a load of the names in front of the
failing one, and nothing else about them changes.
-/

namespace Relata

/-- The record with these associations loaded, whatever it had under their names, and otherwise as it was. -/
structure Record.Gains (names : List String) (record loaded : Record) : Prop where
  model : loaded.model = record.model
  values : loaded.values = record.values
  gained : ∀ name ∈ names, (loaded.loaded? name).isSome
  others : ∀ name ∉ names, loaded.loaded? name = record.loaded? name

namespace Record.Gains

variable {names later : List String} {record loaded further : Record}

theorem refl (record : Record) : record.Gains [] record :=
  ⟨rfl, rfl, fun _ absent => absurd absent List.not_mem_nil, fun _ _ => rfl⟩

theorem trans (first : record.Gains names loaded) (second : loaded.Gains later further) :
    record.Gains (names ++ later) further := by
  refine ⟨second.model.trans first.model, second.values.trans first.values, fun name listed => ?_,
    fun name unlisted => ?_⟩
  · by_cases again : name ∈ later
    · exact second.gained name again
    · rw [second.others name again]
      exact first.gained name ((List.mem_append.mp listed).resolve_right again)
  · rw [List.mem_append, not_or] at unlisted
    rw [second.others name unlisted.2, first.others name unlisted.1]

theorem setLoaded (record : Record) (name : String) (found : Loaded) :
    record.Gains [name] (record.setLoaded name found) := by
  refine ⟨rfl, rfl, fun other listed => ?_, fun other unlisted => ?_⟩
  · rw [List.mem_singleton.mp listed, Record.loaded?_setLoaded, if_pos rfl]
    rfl
  · rw [Record.loaded?_setLoaded, if_neg fun same => unlisted (List.mem_singleton.mpr same)]

/-- A record that lacked one of the associations is no longer what it was. -/
theorem ne_of_lacks {name : String} (gains : record.Gains names loaded) (listed : name ∈ names)
    (lacked : record.loaded? name = none) : loaded ≠ record := by
  rintro rfl
  have held := gains.gained name listed
  rw [lacked] at held
  cases held

end Record.Gains

namespace Session

/-- Nothing changes but the log. -/
structure Logs (session after : Session) : Prop where
  only : after = { session with log := after.log }

variable {start session between after : Session} {owner : Model} {association : Association}
  {associations : List Association} {model : String} {names : List String} {records left : List Record}
  {failure : Failure}

theorem Logs.refl (session : Session) : session.Logs session := ⟨rfl⟩

theorem Logs.trans (first : start.Logs session) (second : session.Logs after) : start.Logs after := by
  have same := congrArg (fun session : Session => { session with log := after.log }) first.only
  exact ⟨second.only.trans same⟩

theorem Logs.schema (logs : session.Logs after) : after.schema = session.schema := by
  rw [logs.only]

theorem Logs.capability (logs : session.Logs after) : after.capability = session.capability := by
  rw [logs.only]

theorem all_logs : Lasting (start.Logs ·) := by
  intro relation session logs
  have ran : (all relation).on session = (_, _) := Prod.mk.eta.symm
  rw [all_executes ran]
  exact logs.trans ⟨rfl⟩

/-- One association is loaded for all records or for none. -/
theorem gains_of_loadAssociation {loaded : List Record}
    (done : (loadAssociation owner association records).on session = (.ok loaded, after)) :
    List.Forall₂ (Record.Gains [association.name]) records loaded := by
  have gains : ∀ children, List.Forall₂ (Record.Gains [association.name]) records
      (records.map (withChildren association children)) := fun children =>
    List.forall₂_map_right_iff.mpr (List.forall₂_same.mpr fun record _ => .setLoaded record _ _)
  rw [loadAssociation] at done
  split at done
  · cases done
    exact gains []
  · obtain ⟨_, _, _, selects⟩ := Action.exists_of_on_bind done
    obtain ⟨_, _, _, fetches⟩ := Action.exists_of_on_bind selects
    obtain ⟨children, _, _, last⟩ := Action.exists_of_on_bind fetches
    cases last
    exact gains children

theorem loadAssociations_gains
    (done : (loadAssociations owner associations records).run session = ((.ok (), left), after)) :
    session.Logs after ∧ List.Forall₂ (Record.Gains (associations.map Association.name)) records left := by
  induction associations generalizing session records with
  | nil =>
      cases done
      exact ⟨.refl _, List.forall₂_same.mpr fun record _ => .refl record⟩
  | cons association rest ih =>
      rw [loadAssociations_cons] at done
      cases first : (loadAssociation owner association records).on session with
      | mk answer middle =>
          have logs : session.Logs middle := by
            have kept : session.Logs ((loadAssociation owner association records).on session).2 :=
              all_logs.loadAssociation owner association records session (.refl _)
            rwa [first] at kept
          rw [first] at done
          cases answer with
          | error failure => cases done
          | ok loaded =>
              obtain ⟨further, others⟩ := ih done
              -- An association that is named again is loaded again, over what it loaded before.
              refine ⟨logs.trans further, ?_⟩
              have once := (gains_of_loadAssociation first).flip
              exact forall₂_of_common (fun _ _ _ one more => one.trans more) once others

/-- A load that fails has loaded the associations in front of one that fails on what they leave. -/
theorem loadAssociations_stops (resolved : names.mapM owner.association = .ok associations)
    (failed : (loadAssociations owner associations records).run session = ((.error failure, left), after)) :
    ∃ done name rest before association between, names = done ++ name :: rest ∧
      done.mapM owner.association = .ok before ∧ owner.association name = .ok association ∧
      (loadAssociations owner before records).run session = ((.ok (), left), between) ∧
      (loadAssociation owner association left).on between = (.error failure, after) := by
  induction names generalizing associations records session with
  | nil =>
      cases resolved
      cases failed
  | cons name rest ih =>
      rw [List.mapM_cons] at resolved
      obtain ⟨association, found, resolved⟩ := bind_eq_ok.mp resolved
      obtain ⟨others, remaining, resolved⟩ := bind_eq_ok.mp resolved
      cases resolved
      rw [loadAssociations_cons] at failed
      cases first : (loadAssociation owner association records).on session with
      | mk answer middle =>
          rw [first] at failed
          cases answer with
          | error failure =>
              cases failed
              exact ⟨[], name, rest, [], association, session, rfl, rfl, found, rfl, first⟩
          | ok loaded =>
              obtain ⟨done, next, later, before, failing, between, split, earlier, stops, run, fails⟩ :=
                ih remaining failed
              refine ⟨name :: done, next, later, association :: before, failing, between,
                by rw [split, List.cons_append], ?_, stops, ?_, fails⟩
              · rw [List.mapM_cons, found, earlier]
                rfl
              · rw [loadAssociations_cons, first]
                exact run

/-- A load of named associations is refused before anything is executed, or it loads them in turn. -/
theorem preloadRecords_cases (session : Session) (model : String) (records : List Record)
    (names : List String) :
    (∃ e, (preloadRecords model records names).run session = ((.error (.error e), records), session)) ∨
      ∃ owner associations, session.schema.model? model = some owner ∧
        names.mapM owner.association = .ok associations ∧
        (associations ≠ [] → session.capability.lateralJoin = true) ∧
        (preloadRecords model records names).run session =
          (loadAssociations owner associations records).run session := by
  by_cases lacks : ∃ e, (Call.preloadRecords model records names).Lacks session e
  · obtain ⟨_, lacks⟩ := lacks
    obtain ⟨e, _, refused⟩ := Call.preloadRecords_refused lacks
    exact .inl ⟨e, refused⟩
  · have modelled : session.schema.model? model ≠ none := fun unknown => lacks ⟨_, .model rfl unknown⟩
    obtain ⟨owner, modelled⟩ := Option.ne_none_iff_exists'.mp modelled
    have each : ∀ name ∈ names, ∃ association, owner.association name = .ok association := by
      intro name listed
      obtain ⟨association, found⟩ := Option.ne_none_iff_exists'.mp fun unknown =>
        lacks ⟨_, .association modelled listed unknown⟩
      exact ⟨association, Model.association_eq_ok_iff.mpr found⟩
    obtain ⟨associations, resolved⟩ := exists_mapM_eq_ok each
    have able : associations ≠ [] → session.capability.lateralJoin = true := by
      intro some
      have listed : names ≠ [] := by
        rintro rfl
        cases resolved
        exact some rfl
      exact Bool.eq_true_of_not_eq_false fun missing => lacks ⟨_, .lateral listed missing⟩
    exact .inr ⟨owner, associations, modelled, resolved, able,
      preloadRecords_loads modelled resolved able records⟩

/-- A load that fails has either been refused and changed nothing, or it leaves the records as a load of the
names in front of the one that failed: with the associations of these names loaded on every record, and all
else as it was. What fails then is a load of the one name, on the session and the records left by the others. -/
theorem preloadRecords_stops
    (failed : (preloadRecords model records names).run session = ((.error failure, left), after)) :
    (left = records ∧ after = session) ∨
      ∃ done name rest between, names = done ++ name :: rest ∧
        (preloadRecords model records done).run session = ((.ok (), left), between) ∧
        (preloadRecords model left [name]).run between = ((.error failure, left), after) ∧
        List.Forall₂ (Record.Gains done) records left := by
  rcases preloadRecords_cases session model records names with
    ⟨e, refused⟩ | ⟨owner, associations, modelled, resolved, able, run⟩
  · rw [refused] at failed
    cases failed
    exact .inl ⟨rfl, rfl⟩
  rw [run] at failed
  obtain ⟨done, name, rest, before, association, between, split, earlier, found, ran, fails⟩ :=
    loadAssociations_stops resolved failed
  obtain ⟨logs, gains⟩ := loadAssociations_gains ran
  have lateral : session.capability.lateralJoin = true := by
    refine able fun none => ?_
    rw [none] at failed
    cases failed
  rw [Model.names_of_associations earlier] at gains
  refine .inr ⟨done, name, rest, between, split, ?_, ?_, gains⟩
  · rw [preloadRecords_loads modelled earlier (fun _ => lateral), ran]
  · have single : [name].mapM owner.association = .ok [association] := by
      rw [List.mapM_cons, found]
      rfl
    have still : between.schema.model? model = some owner := by rw [logs.schema, modelled]
    rw [preloadRecords_loads still single fun _ => by rw [logs.capability, lateral], loadAssociations_cons, fails]

end Session

/-!
Owners with two associations, of which the second names a column that notes do not have.
-/

namespace Misnamed

def tables : List TableDefinition := [
  ⟨"owners", [.primaryKey "id"]⟩,
  ⟨"notes", [.primaryKey "id", .column "owner_id" (.integer 8) true]⟩]

def models : List ModelDefinition := [
  ⟨"Owner", "owners", none, [], [
    ⟨false, "notes", "Note", [], none, some "owner_id", some "owner"⟩,
    ⟨false, "pages", "Note", [], none, some "page_id", some "owner"⟩]⟩,
  ⟨"Note", "notes", none, [], []⟩]

def ownerTable : Table := ⟨"owners", [⟨"id", .integer 8, false, true, true⟩]⟩

def noteTable : Table :=
  ⟨"notes", [⟨"id", .integer 8, false, true, true⟩, ⟨"owner_id", .integer 8, true, false, false⟩]⟩

def notes : Association := ⟨"notes", false, "Note", [], ⟨"id", "owner_id", "owner"⟩⟩

def pages : Association := ⟨"pages", false, "Note", [], ⟨"id", "page_id", "owner"⟩⟩

def owner : Model := ⟨"Owner", ownerTable, "id", [], [notes, pages]⟩

def note : Model := ⟨"Note", noteTable, "id", [], []⟩

def schema : Schema := ⟨[ownerTable, noteTable], [owner, note]⟩

theorem built : Schema.build tables models = .ok schema := rfl

def session : Session :=
  (Session.reset.on (.start schema ⟨0, []⟩)).2.insertAll [("Owner", []), ("Note", [("owner_id", .int 1)])]

theorem reached : session.Reached schema := (Session.Reached.fresh _).insertAll _

def engine : Engine :=
  ⟨⟨[⟨"owners", ownerTable.columns, [[.int 1]], 2⟩, ⟨"notes", noteTable.columns, [[.int 1, .int 1]], 2⟩]⟩,
    false⟩

theorem engine_eq : session.engine = engine := rfl

def record : Record := ⟨"Owner", [("id", .int 1)], []⟩

def noteRecord : Record := ⟨"Note", [("owner", .int 1), ("id", .int 1), ("owner_id", .int 1)], []⟩

/-- The record with its note. -/
def loaded : Record := record.setLoaded "notes" (.many [noteRecord])

theorem loaded_ne_record : loaded ≠ record :=
  Record.Gains.ne_of_lacks (.setLoaded _ _ _) List.mem_cons_self rfl

theorem records_notes : session.records (notes.scopeIn owner note [.int 1]) = .ok [noteRecord] := by
  rw [Session.records_eq reached.serves, engine_eq]
  cbv

theorem records_pages {current : Session} (serves : current.Serves schema) (same : current.engine = engine) :
    current.records (pages.scopeIn owner note [.int 1]) =
      .error (.error (Fault.unknownColumn "notes" "page_id").error) := by
  rw [Session.records_eq serves, same]
  have unknown : (pages.scopeIn owner note [.int 1]).query.answer engine.store.database =
      .error (.unknownColumn "notes" "page_id") := by cbv
  rw [unknown]
  rfl

/-- The notes are loaded, and then the pages fail. -/
theorem preloads : (Session.preloadRecords "Owner" [record] ["notes", "pages"]).run session =
    ((.error (.error (Fault.unknownColumn "notes" "page_id").error), [loaded]),
      (session.after (notes.scopeIn owner note [.int 1])).after (pages.scopeIn owner note [.int 1])) := by
  have resolved : ["notes", "pages"].mapM owner.association = .ok [notes, pages] := rfl
  have first : (Session.loadAssociation owner notes [record]).on session =
      (.ok [loaded], session.after (notes.scopeIn owner note [.int 1])) := by
    have targeted : schema.model? notes.target = some note := rfl
    rw [Session.loadAssociation_on reached.serves targeted]
    have keys : Session.keysOf [record] notes.keys.primaryKey = [.int 1] := rfl
    simp only [keys, records_notes]
    rfl
  have serves := reached.serves.after (notes.scopeIn owner note [.int 1])
  have second : (Session.loadAssociation owner pages [loaded]).on
      (session.after (notes.scopeIn owner note [.int 1])) =
      (.error (.error (Fault.unknownColumn "notes" "page_id").error),
        (session.after (notes.scopeIn owner note [.int 1])).after (pages.scopeIn owner note [.int 1])) := by
    have targeted : schema.model? pages.target = some note := rfl
    rw [Session.loadAssociation_on serves targeted]
    have keys : Session.keysOf [loaded] pages.keys.primaryKey = [.int 1] := rfl
    simp only [keys, records_pages serves engine_eq]
    rfl
  have modelled : schema.model? owner.name = some owner := rfl
  have loads := Session.preloadRecords_run reached.serves modelled resolved [record]
  rw [Session.loadAssociations_cons, first] at loads
  refine loads.trans ?_
  dsimp only
  rw [Session.loadAssociations_cons, second]

/-- The load of the notes and the pages fails, and the record has its notes loaded, which it had not. -/
theorem failed_load_changes_record :
    Schema.build tables models = .ok schema ∧ session.Reached schema ∧
      ((Session.preloadRecords "Owner" [record] ["notes", "pages"]).run session).1 =
        (.error (.error (Fault.unknownColumn "notes" "page_id").error), [loaded]) ∧ [loaded] ≠ [record] := by
  refine ⟨built, reached, by rw [preloads], fun same => loaded_ne_record (List.cons.inj same).1⟩

/-- What failed is the load of the pages. -/
theorem preloadRecords_stops_at_pages :
    ∃ between after,
      (Session.preloadRecords "Owner" [record] ["notes", "pages"]).run session =
        ((.error (.error (Fault.unknownColumn "notes" "page_id").error), [loaded]), after) ∧
      (Session.preloadRecords "Owner" [record] ["notes"]).run session = ((.ok (), [loaded]), between) ∧
      (Session.preloadRecords "Owner" [loaded] ["pages"]).run between =
        ((.error (.error (Fault.unknownColumn "notes" "page_id").error), [loaded]), after) ∧
      record.Gains ["notes"] loaded := by
  rcases Session.preloadRecords_stops preloads with
    ⟨same, _⟩ | ⟨done, name, rest, between, split, ran, fails, gains⟩
  · exact absurd (List.cons.inj same).1 loaded_ne_record
  · cases gains with
    | cons gains _ =>
      rcases done with _ | ⟨first, _ | ⟨second, _ | ⟨third, others⟩⟩⟩ <;> cases split
      · cases ran
      · exact ⟨between, _, preloads, ran, fails, gains⟩

end Misnamed

end Relata
