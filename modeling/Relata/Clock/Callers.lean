import Relata.Clock

/-!
Callers that draw their stamps at the same time. A call reads the system clock once and looks up the last stamp.
Then it tries to exchange that stamp for its own, until none of the other calls is quicker. Where the last stamp is
looked up, one that it has been before may be shown.
-/

namespace Relata

/-- What the system clock reads, from the microseconds since the epoch. A time before the epoch reads 0, and one
that is too large wraps around. -/
def clockReading (time : Int) : Int64 := if time < 0 then 0 else .ofInt time

/-- How far a call has come, and what it knows by then. -/
inductive Caller
  | idle
  | timed (reading : Int64)
  | seeing (reading seen : Int64)
  | returned (reading stamp : Int64)
  /-- There is no stamp after the one that it has seen. -/
  | aborted (reading : Int64)
  deriving DecidableEq

def Caller.reading? : Caller → Option Int64
  | .idle => none
  | .timed reading | .seeing reading _ | .returned reading _ | .aborted reading => some reading

def Caller.stamp? : Caller → Option Int64
  | .returned _ stamp => some stamp
  | .idle | .timed _ | .seeing _ _ | .aborted _ => none

/-- The steps of a call, each of them in one go. -/
inductive Move
  | look (time : Int)
  | load (shown : Int64)
  | exchange
  /-- The exchange fails and shows a stamp. It may fail without another call having been quicker. -/
  | miss (shown : Int64)
  | overflow
  deriving DecidableEq

structure Stamping (ι : Type) where
  /-- The last stamp before any of the calls. -/
  first : Int64
  /-- The stamps drawn by calls, the newest first. -/
  draws : List (ι × Int64)
  callers : ι → Caller

namespace Stamping

variable {ι : Type}

def fresh (first : Int64) : Stamping ι := ⟨first, [], fun _ => .idle⟩

/-- All that the last stamp has been, the newest first. -/
def held (stamping : Stamping ι) : List Int64 := stamping.draws.map Prod.snd ++ [stamping.first]

def last (stamping : Stamping ι) : Int64 := stamping.held.headD stamping.first

variable [DecidableEq ι]

def put (stamping : Stamping ι) (i : ι) (caller : Caller) : Stamping ι :=
  { stamping with callers := fun j => if j = i then caller else stamping.callers j }

def draw (stamping : Stamping ι) (i : ι) (reading stamp : Int64) : Stamping ι :=
  { stamping.put i (.returned reading stamp) with draws := (i, stamp) :: stamping.draws }

/-- A step of one call; there is no answer if the call is not there yet. -/
def step (stamping : Stamping ι) (i : ι) (move : Move) : Option (Stamping ι) :=
  match stamping.callers i, move with
  | .idle, .look time => some (stamping.put i (.timed (clockReading time)))
  | .timed reading, .load shown =>
    if shown ∈ stamping.held then some (stamping.put i (.seeing reading shown)) else none
  | .seeing reading seen, .exchange =>
    if seen = stamping.last then (nextStamp reading seen).map (stamping.draw i reading) else none
  | .seeing reading seen, .miss shown =>
    if (nextStamp reading seen).isSome ∧ shown ∈ stamping.held then
      some (stamping.put i (.seeing reading shown))
    else none
  | .seeing reading seen, .overflow =>
    if nextStamp reading seen = none then some (stamping.put i (.aborted reading)) else none
  | _, _ => none

/-- The steps of all calls in some order. -/
def run (stamping : Stamping ι) (schedule : List (ι × Move)) : Option (Stamping ι) :=
  schedule.foldlM (fun stamping turn => stamping.step turn.1 turn.2) stamping

end Stamping

end Relata
