import TrueNorth.Lib.Runs
import TrueNorth.RangeAlloc.Allocate

/-
  Runs of the reservation table: transactions of any calls
  of the worker and of the API, while the clock runs and
  ranges come to be recorded destroyed.

  A call that raises rolls its whole transaction back.

  Key definitions include:
    * `Read`
    * `World`
    * `Call`
    * `World.transaction`
    * `World.step`
-/

--------
-- Worlds
--------

namespace TrueNorth

namespace RangeAlloc

/- A committed live read, with the values it found foreign. -/
structure Read where
  domain : String
  kind : String
  source : String
  foreign : List String
  seenAt : Int
deriving DecidableEq

/- `reads` is a ghost: no code reads it. -/
structure World where
  table : Reservations
  -- the ranges recorded destroyed
  destroyed : List Nat
  now : Int
  reads : List Read

inductive Call where
| reserveValues
    (request : Request)
    (prune : Bool)
    (excluded : List String)
| recordExternal (usage : Usage)
| releaseConflict (rangeId : Nat) (conflict : Worker.Conflict)
| releaseDestroyedRange (rangeId : Nat)
| reserve (request : Request)
| sync (request : Request)
| releaseRange (rangeId : Nat)

/- What a live read leaves in the history. -/
def Usage.read
    (usage : Usage)
    (now : Int) : Read where
  domain := usage.domain
  kind := usage.kind
  source := usage.source
  foreign := usage.foreign.keys
  seenAt := usage.seenAt now

def Call.reads
    (now : Int) :
    Call → List Read
| .recordExternal usage => [usage.read now]
| _ => []

end RangeAlloc

end TrueNorth

--------
-- Transactions
--------

namespace TrueNorth

namespace RangeAlloc

namespace World

/- What a call makes of the table, and what it returns. -/
def result (w : World) :
    Call → Except Refusal (Reservations × Dict String String)
| .reserveValues request prune excluded =>
    Worker.reserveValues w.destroyed w.now w.table request
      prune excluded
| .recordExternal usage =>
    Worker.recordExternal w.destroyed w.now w.table usage
| .releaseConflict rangeId conflict =>
    Worker.releaseConflict w.destroyed w.now w.table rangeId
      conflict
| .releaseDestroyedRange rangeId =>
    .ok (releaseDestroyedRange w.destroyed w.table rangeId,
      .empty)
| .reserve request =>
    Api.reserve w.destroyed w.now w.table request
| .sync request =>
    Api.sync w.destroyed w.now w.table request
| .releaseRange rangeId =>
    .ok (releaseRange w.table rangeId, .empty)

def call
    (w : World)
    (c : Call) : Except Refusal World :=
  match w.result c with
  | .error refusal => .error refusal
  | .ok (t, _) =>
      .ok { w with
        table := t
        reads := w.reads ++ c.reads w.now }

/- The calls of one transaction, in order. -/
def transaction
    (w : World) :
    List Call → Except Refusal World
| [] => .ok w
| c :: cs =>
    match w.call c with
    | .error refusal => .error refusal
    | .ok w' => w'.transaction cs

end World

inductive Action where
| transaction (calls : List Call)
-- ranges are built, destroyed and restored elsewhere
| ranges (destroyed : List Nat)
| tick (elapsed : Nat)

namespace World

/- A transaction commits, or nothing happened. -/
def step
    (w : World) :
    Action → World
| .transaction calls =>
    match w.transaction calls with
    | .ok w' => w'
    | .error _ => w
| .ranges destroyed => { w with destroyed := destroyed }
| .tick elapsed => { w with now := w.now + elapsed }

/- An empty table, at time zero. -/
def fresh : World where
  table := .empty
  destroyed := []
  now := 0
  reads := []

/- A transaction that raises is rolled back. -/
theorem step_refused
    {w : World}
    {calls : List Call}
    {refusal : Refusal}
    (hRefused : w.transaction calls = .error refusal) :
    w.step (.transaction calls) = w := by
  simp only [step, hRefused]

end World

end RangeAlloc

end TrueNorth
