import Relata.Proofs.Clock.Stamps
import Relata.Proofs.Session.Found
import Relata.Proofs.Session.Kept
import Relata.Proofs.Store.Given

/-!
Rows in the order of their stamps. A session's clock is shared with all calls for stamps, and nothing that is done
to the session or to the clock takes the last stamp back. So a row that is inserted later has a later stamp.
-/

namespace Relata

/-- No value is given to the column of the stamp. -/
def Unstamped (values : List (String × Value)) : Prop := ∀ entry ∈ values, entry.1 ≠ "created_at"

/-- The stamp is the last value that goes to its column. -/
theorem stamped_created {table : Table} {values : List (String × Value)} (has : "created_at" ∈ table.columnNames)
    (unstamped : Unstamped values) (now : Int64) :
    ∃ later, Session.stamped table now values = values ++ ("created_at", .int now) :: later ∧ Unstamped later := by
  have column : table.hasColumn "created_at" = true := Table.hasColumn_iff.mpr has
  have missing : values.any (·.1 == "created_at") = false := by
    simpa [Unstamped] using unstamped
  simp only [Session.stamped, List.foldl_cons, List.foldl_nil, missing, column, Bool.not_false, Bool.and_self,
    if_true]
  split
  · exact ⟨[("updated_at", .int now)], by simp, by simp [Unstamped]⟩
  · exact ⟨[], rfl, by simp [Unstamped]⟩

namespace Session

variable {schema : Schema} {origin session middle later after : Session} {model target : Model}
  {name other : String} {values others : List (String × Value)} {record another : Record}

/-- What becomes of a session by requests to it, and by calls for stamps elsewhere. -/
inductive Onward (origin : Session) : Session → Prop
  | refl : Onward origin origin
  | request {session : Session} (call : Call) : Onward origin session → Onward origin (call.run session).2
  | all {session : Session} (relation : Relation) :
    Onward origin session → Onward origin ((all relation).on session).2
  | first {session : Session} (relation : Relation) :
    Onward origin session → Onward origin ((first relation).on session).2
  | exec {session : Session} (statement : Statement) :
    Onward origin session → Onward origin ((exec statement).on session).2
  | reset {session : Session} : Onward origin session → Onward origin (reset.on session).2
  | elsewhere {session : Session} {ι : Type} [DecidableEq ι] {stamping after : Stamping ι}
    {schedule : List (ι × Move)} (readings : List Int64) (shared : stamping.last = session.clock.last)
    (ran : stamping.run schedule = some after) :
    Onward origin session → Onward origin { session with clock := ⟨after.last, readings⟩ }

/-- A property that statements, stamps and resets keep, wherever the stamps are taken. -/
theorem Onward.holds {P : Session → Prop} (onward : origin.Onward session) (stable : Stable P)
    (resets : Session.reset.Keeps P)
    (shared : ∀ session last readings, P session → session.clock.last ≤ last →
      P { session with clock := ⟨last, readings⟩ }) (holds : P origin) : P session := by
  induction onward with
  | refl => exact holds
  | request call _ ih => exact stable.call call ih
  | all relation _ ih => exact stable.lasting relation _ ih
  | first relation _ ih => exact stable.lasting.first relation _ ih
  | exec statement _ ih => exact stable.exec statement _ ih
  | reset _ ih => exact resets _ ih
  | elsewhere readings same ran _ ih => exact shared _ _ readings ih (same ▸ Stamping.last_le_of_run ran)

/-- The session serves the schema, and the stamp has been given out. -/
def Past (schema : Schema) (now : Int64) (session : Session) : Prop :=
  session.Serves schema ∧ now ≤ session.clock.last

theorem stamp_past {now : Int64} : stamp.Keeps (Past schema now) := by
  intro session past
  refine ⟨stamp_serves session past.1, ?_⟩
  rw [stamp, Action.on_bind_done Action.on_get]
  cases ticked : session.clock.tick with
  | none => exact past.2
  | some drawn =>
      obtain ⟨now, clock⟩ := drawn
      obtain ⟨next, rfl⟩ := Clock.tick_eq_some_iff.mp ticked
      exact Int64.le_trans past.2 (Int64.le_of_lt (nextStamp_above next).1)

theorem past_stable (now : Int64) : Stable (Past schema now) :=
  ⟨fun statement session past => ⟨exec_serves statement session past.1, past.2⟩, stamp_past⟩

theorem Onward.past {now : Int64} (onward : origin.Onward session) (past : origin.Past schema now) :
    session.Past schema now := by
  refine onward.holds (past_stable now) (fun session past => ⟨reset_serves session past.1, past.2⟩) ?_ past
  intro session last readings past later
  have serves := past.1
  exact ⟨⟨serves.served, serves.capability, serves.countsOnly, serves.store⟩, Int64.le_trans past.2 later⟩

theorem fresh_past (schema : Schema) (clock : Clock) :
    (Session.reset.on (Session.start schema clock)).2.Past schema clock.last :=
  ⟨(Reached.fresh clock).serves, Int64.le_refl _⟩

theorem insertStatement_entries (model : Model) (values : List (String × Value)) :
    (insertStatement model values).columns.zip (insertStatement model values).values =
      values.map fun entry => (entry.1, .const entry.2) := by
  simp [insertStatement, List.zip_map']

/-- An insert draws a stamp, and puts it into the row that it adds. -/
theorem insert_created (serves : session.Serves schema) (sound : schema.Sound)
    (modelled : schema.model? name = some model) (has : "created_at" ∈ model.table.columnNames)
    (unstamped : Unstamped values) (inserted : (insert name values).on session = (.ok record, after)) :
    ∃ now rows row, session.clock.tick = some (now, after.clock) ∧ session.Adds model rows row after ∧
      record = .ofRow model model.table.columnNames row ∧
      cellOf model.table.columnNames row "created_at" = .int now := by
  obtain ⟨_, own, rows, row, now, table, known, adds, shown, ticked, columns, stores⟩ :=
    insert_stores serves sound inserted
  cases modelled.symm.trans known
  obtain ⟨later, given, plain⟩ := stamped_created has unstamped now
  rw [given] at stores
  have entries := insertStatement_entries model (values ++ ("created_at", .int now) :: later)
  rw [List.map_append, List.map_cons] at entries
  have cell := StoredTable.insert_int stores entries (List.forall_mem_map.mpr plain)
  rw [columns] at cell
  exact ⟨now, rows, row, ticked, adds, shown, cell⟩

/-- The insert has added a row with this time of its creation. -/
def Creates (session : Session) (model : Model) (record : Record) (now : Int64) (after : Session) : Prop :=
  ∃ rows row, session.Adds model rows row after ∧ record = .ofRow model model.table.columnNames row ∧
    cellOf model.table.columnNames row "created_at" = .int now

/-- Stamps rise in the order in which they are exchanged, whatever the clock reads and however the calls for
them are interleaved; each is drawn once, is not below what its call has read, and none is refused before the
largest number is reached. An exchange is a tick of the clock as it stands then, and a tick is a call that no other
one disturbs. So of two rows that are inserted one after the other, whatever happens to the session and to its
clock between the two, the later one has the later time of creation. -/
theorem rows_created_in_order :
    (∀ {ι : Type} [DecidableEq ι] {first : Int64} {schedule : List (ι × Move)} {stamping : Stamping ι},
      (Stamping.fresh first).run schedule = some stamping → stamping.Stamped schedule) ∧
    (∀ {ι : Type} [DecidableEq ι] {stamping after : Stamping ι} {i : ι},
      stamping.step i .exchange = some after →
      ∃ reading stamp, stamping.callers i = .seeing reading stamping.last ∧
        (after.callers i).stamp? = some stamp ∧
        ∀ later, (⟨stamping.last, reading :: later⟩ : Clock).tick = some (stamp, ⟨after.last, later⟩)) ∧
    (∀ {ι : Type} [DecidableEq ι] {stamping : Stamping ι} {i : ι} {stamp : Int64} {clock later : Clock},
      clock.tick = some (stamp, later) → clock.last = stamping.last → stamping.callers i = .idle →
      ∃ time after, stamping.run [(i, .look time), (i, .load stamping.last), (i, .exchange)] = some after ∧
        (after.callers i).stamp? = some stamp ∧ after.last = later.last) ∧
    ∀ {tables : List TableDefinition} {models : List ModelDefinition} {schema : Schema} {clock : Clock}
      {session middle later after : Session} {name other : String} {values others : List (String × Value)}
      {record another : Record} {model target : Model},
      Schema.build tables models = .ok schema → (reset.on (Session.start schema clock)).2.Onward session →
      schema.model? name = some model → "created_at" ∈ model.table.columnNames → Unstamped values →
      schema.model? other = some target → "created_at" ∈ target.table.columnNames → Unstamped others →
      (insert name values).on session = (.ok record, middle) → middle.Onward later →
      (insert other others).on later = (.ok another, after) →
      ∃ now next, session.Creates model record now middle ∧ later.Creates target another next after ∧
        now < next := by
  refine ⟨fun ran => (Stamping.follows_of_run ran).stamped, Stamping.exchange_ticks, Stamping.tick_runs, ?_⟩
  intro tables models schema clock session middle later after name other values others record another model target
    built started modelled has unstamped targeted too unset inserted onward more
  have sound := Schema.sound_of_build built
  have serves : session.Serves schema := (started.past (fresh_past schema clock)).1
  obtain ⟨now, rows, row, ticked, adds, shown, created⟩ :=
    insert_created serves sound modelled has unstamped inserted
  have served : middle.Serves schema := by
    have kept := insert_serves name values session serves
    rwa [inserted] at kept
  -- The stamp of the first row is the last one given out when its insert ends, and it is past from then on.
  have last : middle.clock.last = now := by
    rw [(Clock.tick_eq_some_iff.mp ticked).2]
  have past := onward.past ⟨served, Int64.le_of_eq last.symm⟩
  obtain ⟨next, stored, added, ticks, addition, seen, drawn⟩ :=
    insert_created past.1 sound targeted too unset more
  have above := (nextStamp_above (Clock.tick_eq_some_iff.mp ticks).1).1
  exact ⟨now, next, ⟨rows, row, adds, shown, created⟩, ⟨stored, added, addition, seen, drawn⟩,
    Int64.lt_of_le_of_lt past.2 above⟩

end Session

/-!
A table of posts with times. Between two of them the clock runs backwards, and two calls elsewhere draw stamps.
-/

namespace Posts

def tables : List TableDefinition := [⟨"posts", [.primaryKey "id", .timestamps]⟩]

def models : List ModelDefinition := [⟨"Post", "posts", none, [], []⟩]

def table : Table :=
  ⟨"posts", [⟨"id", .integer 8, false, true, true⟩, ⟨"created_at", .integer 8, false, false, false⟩,
    ⟨"updated_at", .integer 8, false, false, false⟩]⟩

def post : Model := ⟨"Post", table, "id", [], []⟩

def schema : Schema := ⟨[table], [post]⟩

theorem built : Schema.build tables models = .ok schema := rfl

def record (id time : Int64) : Record :=
  ⟨"Post", [("id", .int id), ("created_at", .int time), ("updated_at", .int time)], []⟩

def session : Session := (Session.reset.on (.start schema ⟨0, [100]⟩)).2

def middle : Session := ((Session.insert "Post" []).on session).2

/-- One call is quicker than the other, which has read a time before the epoch and tries again. -/
def schedule : List (Bool × Move) := [(true, .look 90), (false, .look (-5)), (true, .load 100), (false, .load 100),
  (true, .exchange), (false, .miss 101), (false, .exchange)]

def elsewhere : Stamping Bool := ((Stamping.fresh 100).run schedule).getD (.fresh 100)

def later : Session := { middle with clock := ⟨elsewhere.last, [40]⟩ }

def after : Session := ((Session.insert "Post" []).on later).2

theorem rows_created_in_order_posts :
    elsewhere.Stamped schedule ∧ elsewhere.draws = [(false, 102), (true, 101)] ∧
      ∃ now next, session.Creates post (record 1 100) now middle ∧ later.Creates post (record 2 103) next after ∧
        now < next := by
  have ran : (Stamping.fresh 100).run schedule = some elsewhere := rfl
  have last : Stamping.last (.fresh 100 : Stamping Bool) = middle.clock.last := by decide
  have onward : middle.Onward later := .elsewhere [40] last ran .refl
  have inserted : (Session.insert "Post" []).on session = (.ok (record 1 100), middle) := Prod.ext rfl rfl
  have more : (Session.insert "Post" []).on later = (.ok (record 2 103), after) := Prod.ext rfl rfl
  have has : "created_at" ∈ post.table.columnNames := by decide
  have unset : Unstamped [] := fun _ absent => absurd absent List.not_mem_nil
  obtain ⟨stamps, -, -, rows⟩ := Session.rows_created_in_order
  exact ⟨stamps ran, rfl, rows built .refl rfl has unset rfl has unset inserted onward more⟩

end Posts

end Relata
