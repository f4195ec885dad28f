import Mathlib.Data.List.Induction
import Mathlib.Data.List.Nodup
import Relata.Clock.Callers
import Relata.Proofs.Store.Overflow

/-!
Stamps drawn at the same time. A call knows a stamp that has been the last one, and only an exchange of the last
one takes place. So each stamp is above all that were drawn before, in whatever order the calls take their steps
and whatever the system clock reads.
-/

namespace Relata

theorem nextStamp_eq_none_iff {reading last : Int64} : nextStamp reading last = none ↔ last = Int64.maxValue := by
  simp [nextStamp]

/-- A stamp is past the last one and not below the reading. -/
theorem nextStamp_above {reading last stamp : Int64} (next : nextStamp reading last = some stamp) :
    last < stamp ∧ reading ≤ stamp := by
  simp only [nextStamp, Option.ite_none_left_eq_some, Option.some.injEq, Column.max_eq] at next
  obtain ⟨inside, rfl⟩ := next
  have later : last < last + 1 := by
    rw [Int64.lt_iff_toInt_lt, toInt_succ inside]
    omega
  split
  · exact ⟨later, ‹_›⟩
  · rename_i past
    exact ⟨Int64.lt_trans later (Int64.not_le.mp past), Int64.le_refl reading⟩

theorem exists_nextStamp (reading : Int64) {last : Int64} (room : last ≠ Int64.maxValue) :
    ∃ stamp, nextStamp reading last = some stamp :=
  Option.ne_none_iff_exists'.mp (mt nextStamp_eq_none_iff.mp room)

theorem Clock.tick_eq_some_iff {clock after : Clock} {stamp : Int64} :
    clock.tick = some (stamp, after) ↔
      nextStamp (clock.readings.headD 0) clock.last = some stamp ∧ after = ⟨stamp, clock.readings.tail⟩ := by
  simp only [tick, Option.map_eq_some_iff, Prod.mk.injEq]
  constructor
  · rintro ⟨_, next, rfl, rfl⟩
    exact ⟨next, rfl⟩
  · rintro ⟨next, rfl⟩
    exact ⟨stamp, next, rfl, rfl⟩

/-- Every number is read at some time. -/
theorem clockReading_surjective : Function.Surjective clockReading := by
  intro reading
  refine ⟨reading.toInt % 2 ^ 64, Int64.toInt_inj.mp ?_⟩
  rw [clockReading, if_neg (by omega), Int64.toInt_ofInt]
  exact (Int.emod_bmod ..).trans reading.toInt_bmod

/-- A call knows stamps that have been the last one. -/
def Caller.Knows (held : List Int64) : Caller → Prop
  | .idle | .timed _ => True
  | .seeing _ seen => seen ∈ held
  | .returned reading stamp => reading ≤ stamp ∧ stamp ∈ held
  | .aborted _ => Int64.maxValue ∈ held

theorem Caller.Knows.later {held more : List Int64} {caller : Caller} (knows : caller.Knows held)
    (kept : held ⊆ more) : caller.Knows more := by
  cases caller with
  | idle | timed => trivial
  | seeing | aborted => exact kept knows
  | returned => exact ⟨knows.1, kept knows.2⟩

namespace Stamping

theorem held_eq {ι : Type} (stamping : Stamping ι) : ∃ older, stamping.held = stamping.last :: older := by
  obtain ⟨first, draws, callers⟩ := stamping
  cases draws with
  | nil => exact ⟨[], rfl⟩
  | cons draw older => exact ⟨older.map Prod.snd ++ [first], rfl⟩

theorem last_mem_held {ι : Type} (stamping : Stamping ι) : stamping.last ∈ stamping.held := by
  obtain ⟨older, shape⟩ := stamping.held_eq
  simp [shape]

/-- The last stamp is above the others. -/
theorem le_last {ι : Type} {stamping : Stamping ι} (rising : stamping.held.Pairwise (· > ·)) {stamp : Int64}
    (member : stamp ∈ stamping.held) : stamp ≤ stamping.last := by
  obtain ⟨older, shape⟩ := stamping.held_eq
  rw [shape] at rising member
  obtain rfl | before := List.mem_cons.mp member
  · exact Int64.le_refl _
  · exact Int64.le_of_lt (List.rel_of_pairwise_cons rising before)

variable {ι : Type} [DecidableEq ι] {stamping middle after : Stamping ι} {schedule : List (ι × Move)} {i j : ι}
  {move : Move} {first stamp reading : Int64} {caller : Caller}

@[simp] theorem put_held (stamping : Stamping ι) (i : ι) (caller : Caller) :
    (stamping.put i caller).held = stamping.held := rfl

@[simp] theorem put_last (stamping : Stamping ι) (i : ι) (caller : Caller) :
    (stamping.put i caller).last = stamping.last := rfl

@[simp] theorem put_draws (stamping : Stamping ι) (i : ι) (caller : Caller) :
    (stamping.put i caller).draws = stamping.draws := rfl

theorem put_callers (stamping : Stamping ι) (i j : ι) (caller : Caller) :
    (stamping.put i caller).callers j = if j = i then caller else stamping.callers j := rfl

@[simp] theorem draw_held (stamping : Stamping ι) (i : ι) (reading stamp : Int64) :
    (stamping.draw i reading stamp).held = stamp :: stamping.held := rfl

@[simp] theorem draw_draws (stamping : Stamping ι) (i : ι) (reading stamp : Int64) :
    (stamping.draw i reading stamp).draws = (i, stamp) :: stamping.draws := rfl

theorem draw_callers (stamping : Stamping ι) (i j : ι) (reading stamp : Int64) :
    (stamping.draw i reading stamp).callers j =
      if j = i then .returned reading stamp else stamping.callers j := rfl

/-- What a step does. -/
inductive Steps (stamping : Stamping ι) (i : ι) : Move → Stamping ι → Prop
  | look (time : Int) (idle : stamping.callers i = .idle) :
    Steps stamping i (.look time) (stamping.put i (.timed (clockReading time)))
  | load {reading shown : Int64} (timed : stamping.callers i = .timed reading) (known : shown ∈ stamping.held) :
    Steps stamping i (.load shown) (stamping.put i (.seeing reading shown))
  | exchange {reading stamp : Int64} (seeing : stamping.callers i = .seeing reading stamping.last)
    (next : nextStamp reading stamping.last = some stamp) :
    Steps stamping i .exchange (stamping.draw i reading stamp)
  | miss {reading seen stamp shown : Int64} (seeing : stamping.callers i = .seeing reading seen)
    (next : nextStamp reading seen = some stamp) (known : shown ∈ stamping.held) :
    Steps stamping i (.miss shown) (stamping.put i (.seeing reading shown))
  | overflow {reading : Int64} (seeing : stamping.callers i = .seeing reading Int64.maxValue) :
    Steps stamping i .overflow (stamping.put i (.aborted reading))

theorem step_eq_some_iff : stamping.step i move = some after ↔ stamping.Steps i move after := by
  constructor
  · intro stepped
    unfold step at stepped
    split at stepped
    · cases stepped
      exact .look _ ‹_›
    · simp only [Option.ite_none_right_eq_some] at stepped
      obtain ⟨known, ⟨⟩⟩ := stepped
      exact .load ‹_› known
    · simp only [Option.ite_none_right_eq_some, Option.map_eq_some_iff] at stepped
      obtain ⟨rfl, stamp, next, rfl⟩ := stepped
      exact .exchange ‹_› next
    · simp only [Option.ite_none_right_eq_some, Option.isSome_iff_exists] at stepped
      obtain ⟨⟨⟨stamp, next⟩, known⟩, ⟨⟩⟩ := stepped
      exact .miss ‹_› next known
    · simp only [Option.ite_none_right_eq_some, nextStamp_eq_none_iff] at stepped
      obtain ⟨rfl, ⟨⟩⟩ := stepped
      exact .overflow ‹_›
    · cases stepped
  · intro steps
    cases steps with
    | look time idle => simp [step, idle]
    | load timed known => simp [step, timed, known]
    | exchange seeing next => simp [step, seeing, next]
    | miss seeing next known => simp [step, seeing, next, known]
    | overflow seeing => simp [step, seeing, nextStamp]

@[simp] theorem run_nil (stamping : Stamping ι) : stamping.run [] = some stamping := rfl

theorem run_cons (stamping : Stamping ι) (i : ι) (move : Move) (schedule : List (ι × Move)) :
    stamping.run ((i, move) :: schedule) = (stamping.step i move).bind fun after => after.run schedule := rfl

theorem run_concat_iff :
    stamping.run (schedule ++ [(i, move)]) = some after ↔
      ∃ middle, stamping.run schedule = some middle ∧ middle.Steps i move after := by
  simp [run, Option.bind_eq_some_iff, step_eq_some_iff]

/-- The calls that have exchanged a stamp, in the order in which they did. -/
def exchanges (schedule : List (ι × Move)) : List ι :=
  schedule.filterMap fun turn => if turn.2 = .exchange then some turn.1 else none

/-- What holds wherever the calls have come to by a schedule of their steps. -/
structure Follows (stamping : Stamping ι) (schedule : List (ι × Move)) : Prop where
  rising : stamping.held.Pairwise (· > ·)
  exchanged : stamping.draws.map Prod.fst = (exchanges schedule).reverse
  looked : ∀ i reading, (stamping.callers i).reading? = some reading ↔
    ∃ time, (i, .look time) ∈ schedule ∧ clockReading time = reading
  known : ∀ i, (stamping.callers i).Knows stamping.held
  returned : ∀ i stamp, (stamping.callers i).stamp? = some stamp ↔ (i, stamp) ∈ stamping.draws

theorem fresh_follows {ι : Type} (first : Int64) : (fresh first : Stamping ι).Follows [] where
  rising := List.pairwise_singleton _ _
  exchanged := rfl
  looked _ _ := by simp [fresh, Caller.reading?]
  known _ := trivial
  returned _ _ := by simp [fresh, Caller.stamp?]

namespace Steps

theorem held_subset (steps : stamping.Steps i move after) : stamping.held ⊆ after.held := by
  cases steps with
  | exchange => exact List.subset_cons_self _ _
  | look | load | miss | overflow => exact List.Subset.refl _

/-- The last stamp never goes back. -/
theorem last_le (steps : stamping.Steps i move after) : stamping.last ≤ after.last := by
  cases steps with
  | exchange seeing next => exact Int64.le_of_lt (nextStamp_above next).1
  | look | load | miss | overflow => exact Int64.le_refl _

theorem rising (steps : stamping.Steps i move after) (rising : stamping.held.Pairwise (· > ·)) :
    after.held.Pairwise (· > ·) := by
  cases steps with
  | exchange seeing next =>
      refine List.pairwise_cons.mpr ⟨fun stamp member => ?_, rising⟩
      exact Int64.lt_of_le_of_lt (le_last rising member) (nextStamp_above next).1
  | look | load | miss | overflow => exact rising

theorem exchanged (steps : stamping.Steps i move after)
    (exchanged : stamping.draws.map Prod.fst = (exchanges schedule).reverse) :
    after.draws.map Prod.fst = (exchanges (schedule ++ [(i, move)])).reverse := by
  cases steps <;> simp [exchanges] at exchanged ⊢ <;> exact exchanged

/-- Only the one call is concerned. -/
theorem callers_ne (steps : stamping.Steps i move after) (other : j ≠ i) :
    after.callers j = stamping.callers j := by
  cases steps <;> simp [put_callers, draw_callers, other]

theorem known (steps : stamping.Steps i move after)
    (known : ∀ j, (stamping.callers j).Knows stamping.held) : (after.callers i).Knows after.held := by
  cases steps with
  | look => simp [put_callers, Caller.Knows]
  | load timed shown | miss seeing next shown => simpa [put_callers, Caller.Knows] using shown
  | exchange seeing next => simp [draw_callers, Caller.Knows, (nextStamp_above next).2]
  | overflow seeing => simpa [put_callers, Caller.Knows, seeing] using known i

/-- A call reads the clock in its first step only. -/
theorem looked (steps : stamping.Steps i move after)
    (looked : ∀ j reading, (stamping.callers j).reading? = some reading ↔
      ∃ time, (j, .look time) ∈ schedule ∧ clockReading time = reading) (j : ι) (reading : Int64) :
    (after.callers j).reading? = some reading ↔
      ∃ time, (j, .look time) ∈ schedule ++ [(i, move)] ∧ clockReading time = reading := by
  have before := looked j reading
  by_cases other : j = i
  · subst other
    cases steps with
    | look time idle =>
        have unread : ∀ earlier, (j, .look earlier) ∉ schedule := fun earlier member => by
          have read := (looked j _).mpr ⟨earlier, member, rfl⟩
          simp [idle, Caller.reading?] at read
        simp [put_callers, Caller.reading?, unread]
    | load stage known => simpa [put_callers, stage, Caller.reading?] using before
    | exchange stage => simpa [draw_callers, stage, Caller.reading?] using before
    | miss stage | overflow stage => simpa [put_callers, stage, Caller.reading?] using before
  · simpa [steps.callers_ne other, other] using before

theorem unfinished (steps : stamping.Steps i move after) : (stamping.callers i).stamp? = none := by
  cases steps with
  | look time stage | load stage | exchange stage | miss stage | overflow stage => simp [stage, Caller.stamp?]

theorem returned (steps : stamping.Steps i move after)
    (returned : ∀ j stamp, (stamping.callers j).stamp? = some stamp ↔ (j, stamp) ∈ stamping.draws) (j : ι)
    (stamp : Int64) : (after.callers j).stamp? = some stamp ↔ (j, stamp) ∈ after.draws := by
  by_cases other : j = i
  · subst other
    -- A call that takes a step has not returned, so it has not drawn a stamp before.
    have undrawn : ∀ earlier, (j, earlier) ∉ stamping.draws := fun earlier member => by
      have drawn := (returned j earlier).mpr member
      simp [steps.unfinished] at drawn
    cases steps <;> simp [put_callers, draw_callers, Caller.stamp?, undrawn, eq_comm]
  · rw [steps.callers_ne other, returned]
    cases steps <;> simp [other]

theorem follows (steps : stamping.Steps i move after) (follows : stamping.Follows schedule) :
    after.Follows (schedule ++ [(i, move)]) where
  rising := steps.rising follows.rising
  exchanged := steps.exchanged follows.exchanged
  looked := steps.looked follows.looked
  known j := by
    by_cases other : j = i
    · exact other ▸ steps.known follows.known
    · rw [steps.callers_ne other]
      exact (follows.known j).later steps.held_subset
  returned := steps.returned follows.returned

end Steps

theorem follows_of_run (ran : (fresh first).run schedule = some after) : after.Follows schedule := by
  induction schedule using List.reverseRecOn generalizing after with
  | nil =>
      cases ran
      exact fresh_follows first
  | append_singleton schedule turn ih =>
      obtain ⟨middle, ran, steps⟩ := run_concat_iff.mp ran
      exact steps.follows (ih ran)

theorem last_le_of_run (ran : stamping.run schedule = some after) : stamping.last ≤ after.last := by
  induction schedule using List.reverseRecOn generalizing after with
  | nil =>
      cases ran
      exact Int64.le_refl _
  | append_singleton schedule turn ih =>
      obtain ⟨middle, ran, steps⟩ := run_concat_iff.mp ran
      exact Int64.le_trans (ih ran) steps.last_le

/-- Left to itself, the call returns a stamp. -/
def Completes (stamping : Stamping ι) (i : ι) : Prop :=
  ∃ (moves : List Move) (after : Stamping ι) (stamp : Int64),
    stamping.run (moves.map fun move => (i, move)) = some after ∧ (after.callers i).stamp? = some stamp

theorem Completes.of_steps (steps : stamping.Steps i move after) (completes : after.Completes i) :
    stamping.Completes i := by
  obtain ⟨moves, last, stamp, ran, returned⟩ := completes
  refine ⟨move :: moves, last, stamp, ?_, returned⟩
  rw [List.map_cons, run_cons, step_eq_some_iff.mpr steps, Option.bind_some, ran]

theorem completes_of_seeing (stage : stamping.callers i = .seeing reading stamping.last)
    (room : stamping.last ≠ Int64.maxValue) : stamping.Completes i := by
  obtain ⟨stamp, next⟩ := exists_nextStamp reading room
  exact .of_steps (.exchange stage next) ⟨[], _, stamp, rfl, by simp [draw_callers, Caller.stamp?]⟩

theorem completes_of_timed (stage : stamping.callers i = .timed reading)
    (room : stamping.last ≠ Int64.maxValue) : stamping.Completes i := by
  have loaded : (stamping.put i (.seeing reading stamping.last)).callers i = .seeing reading stamping.last := by
    simp [put_callers]
  exact .of_steps (.load stage stamping.last_mem_held) (completes_of_seeing loaded room)

/-- As long as there is another stamp, no call is cut short: each can go on until it has one. -/
theorem Follows.completes (follows : stamping.Follows schedule) (room : stamping.last ≠ Int64.maxValue) (i : ι) :
    stamping.Completes i := by
  have inside : Int64.maxValue ∉ stamping.held := fun member =>
    room (Int64.maxValue_le_iff.mp (le_last follows.rising member))
  have known := follows.known i
  cases stage : stamping.callers i with
  | idle =>
      have looked : (stamping.put i (.timed (clockReading 0))).callers i = .timed (clockReading 0) := by
        simp [put_callers]
      exact .of_steps (.look 0 stage) (completes_of_timed looked room)
  | timed reading => exact completes_of_timed stage room
  | seeing reading seen =>
      rw [stage] at known
      obtain ⟨stamp, next⟩ := exists_nextStamp reading fun same => inside (same ▸ known)
      have shown : (stamping.put i (.seeing reading stamping.last)).callers i = .seeing reading stamping.last := by
        simp [put_callers]
      exact .of_steps (.miss stage next stamping.last_mem_held) (completes_of_seeing shown room)
  | returned reading stamp => exact ⟨[], stamping, stamp, rfl, by simp [stage, Caller.stamp?]⟩
  | aborted reading =>
      rw [stage] at known
      exact absurd known inside

/-- What the calls have got by a schedule of their steps. -/
structure Stamped (stamping : Stamping ι) (schedule : List (ι × Move)) : Prop where
  /-- The stamps, the newest first, are in the reverse of the order in which they were exchanged. -/
  exchanged : stamping.draws.map Prod.fst = (exchanges schedule).reverse
  rising : (stamping.draws.map Prod.snd).Pairwise (· > ·)
  returned : ∀ i stamp, (stamping.callers i).stamp? = some stamp ↔ (i, stamp) ∈ stamping.draws
  distinct : ∀ i j stamp, (stamping.callers i).stamp? = some stamp → (stamping.callers j).stamp? = some stamp →
    i = j
  /-- A call that returns has looked at the clock, and its stamp is not below what it read. -/
  late : ∀ i stamp, (stamping.callers i).stamp? = some stamp →
    (∃ time, (i, .look time) ∈ schedule) ∧ ∀ time, (i, .look time) ∈ schedule → clockReading time ≤ stamp
  completes : stamping.last ≠ Int64.maxValue → ∀ i, stamping.Completes i

theorem Follows.stamped (follows : stamping.Follows schedule) : stamping.Stamped schedule := by
  have rising : (stamping.draws.map Prod.snd).Pairwise (· > ·) := (List.pairwise_append.mp follows.rising).1
  refine ⟨follows.exchanged, rising, follows.returned, fun i j stamp here there => ?_, fun i stamp here => ?_,
    follows.completes⟩
  · -- Two calls with one stamp would stand for two equal draws, but no stamp is drawn twice.
    have apart : (stamping.draws.map Prod.snd).Nodup := rising.imp fun above => (Int64.ne_of_lt above).symm
    have same := List.inj_on_of_nodup_map apart ((follows.returned i stamp).mp here)
      ((follows.returned j stamp).mp there) rfl
    exact congrArg Prod.fst same
  · have known := follows.known i
    have looked := follows.looked i
    cases stage : stamping.callers i with
    | returned reading own =>
        rw [stage] at here known looked
        cases here
        obtain ⟨time, member, _⟩ := (looked reading).mp rfl
        refine ⟨⟨time, member⟩, fun other looks => ?_⟩
        cases (looked _).mpr ⟨other, looks, rfl⟩
        exact known.1
    | idle | timed | seeing | aborted =>
        rw [stage] at here
        cases here

/-- An exchange is a tick of a clock with the call's reading, whatever the others do before and after it. -/
theorem exchange_ticks (stepped : stamping.step i .exchange = some after) :
    ∃ reading stamp, stamping.callers i = .seeing reading stamping.last ∧
      (after.callers i).stamp? = some stamp ∧
      ∀ later, (⟨stamping.last, reading :: later⟩ : Clock).tick = some (stamp, ⟨after.last, later⟩) := by
  cases step_eq_some_iff.mp stepped with
  | @exchange reading stamp stage next =>
      refine ⟨reading, stamp, stage, by simp [draw_callers, Caller.stamp?], fun later => ?_⟩
      exact Clock.tick_eq_some_iff.mpr ⟨next, rfl⟩

/-- A tick of the clock is a call that no other one disturbs. -/
theorem tick_runs {clock later : Clock} (ticked : clock.tick = some (stamp, later))
    (same : clock.last = stamping.last) (idle : stamping.callers i = .idle) :
    ∃ time after, stamping.run [(i, .look time), (i, .load stamping.last), (i, .exchange)] = some after ∧
      (after.callers i).stamp? = some stamp ∧ after.last = later.last := by
  obtain ⟨next, rfl⟩ := Clock.tick_eq_some_iff.mp ticked
  obtain ⟨time, read⟩ := clockReading_surjective (clock.readings.headD 0)
  rw [same, ← read] at next
  refine ⟨time, ((stamping.put i (.timed (clockReading time))).put i
    (.seeing (clockReading time) stamping.last)).draw i (clockReading time) stamp, ?_, ?_, rfl⟩
  · simp [run_cons, step, idle, put_callers, last_mem_held, next]
  · simp [draw_callers, Caller.stamp?]

end Stamping

end Relata
