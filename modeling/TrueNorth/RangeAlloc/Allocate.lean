import TrueNorth.RangeAlloc.Reservations

/-
  Reserving shared values: the worker's half
  (worker/range_alloc.py) and the API's half
  (network_inventory/service.py).

  Each function runs in one transaction under the advisory
  lock of its (domain, kind).  What it reads elsewhere (the
  clock, the ranges recorded destroyed) is a parameter.

  Key definitions include:
    * `Refusal`
    * `allot`
    * `Worker.reserveValues`
    * `Worker.recordExternal`
    * `Worker.releaseConflict`
    * `Api.reserve`, `Api.sync`
-/

--------
-- Requests and Refusals
--------

namespace TrueNorth

namespace RangeAlloc

/- The ways an allocation raises. -/
inductive Refusal where
| valueError (message : String)
| domainChanged (message : String)
| reservedNetwork (message : String)
| poolExhausted (message : String)
| integrityError
deriving DecidableEq

/- What a range asks for on a shared network. -/
structure Request where
  rangeId : Nat
  domain : String
  kind : String
  pool : List String
  holders : List String

/- `", ".join(sorted(set))`. -/
def joined (names : List String) : String :=
  ", ".intercalate
    ((Dict.fromkeys names).mergeSort (fun a b => a ≤ b))

def noDomain : Refusal :=
  .valueError "a reservation needs the shared network's domain"

/- The holders that have no value yet, each once. -/
def unheld
    (holders : List String)
    (mine : Dict String String) : List String :=
  (Dict.fromkeys holders).filter (fun h => h ∉ mine.keys)

/- `{h: mine[h] for h in holders}`. -/
def answer
    (holders : List String)
    (mine : Dict String String) : Dict String String :=
  Dict.collect holders mine.get?

--------
-- The Lowest Free Values
--------

/- A pool too small for the holders that need a value. -/
def exhausted
    (request : Request)
    (free needed : Nat)
    (note : String) : Refusal :=
  .poolExhausted
    (request.kind ++ " pool for " ++ request.domain ++
      " has " ++ toString free ++
      " free of " ++ toString request.pool.length ++
      "; this range needs " ++ toString needed ++
      " more" ++ note)

/-
  The end of both `reserve`s: the holders that need a value
  get the first of the pool that nobody holds.
-/
def allot
    (destroyed : List Nat)
    (now : Int)
    (t : Reservations)
    (request : Request)
    (mine : Dict String String)
    (excluded : List String)
    (note : Reservations → String) :
    Except Refusal (Reservations × Dict String String) :=
  let needed := unheld request.holders mine
  if needed = [] then
    .ok (t, answer request.holders mine)
  else
    let (t, taken) := takenReservationValues destroyed t
      request.domain request.kind
    let free :=
      (request.pool.filter
        (fun v => v ∉ taken && v ∉ excluded)).take
          needed.length
    if free.length < needed.length then
      .error
        (exhausted request free.length needed.length (note t))
    else
      let new := Dict.ofPairs (needed.zip free)
      match insertReservations now t request.rangeId
          request.domain request.kind new with
      | none => .error .integrityError
      | some t =>
          .ok (t, answer request.holders (mine.update new))

end RangeAlloc

end TrueNorth

--------
-- The Worker's Reservations
--------

namespace TrueNorth

namespace RangeAlloc

namespace Worker

def domainChanged
    (request : Request)
    (elsewhere : List String) : Refusal :=
  .domainChanged
    ("range holds " ++ request.kind ++ " reservations in " ++
      joined elsewhere ++ ", not " ++ request.domain ++
      ": the allocation domain changed under it. " ++
      "Restore the setting, or destroy the range and " ++
      "build it again")

def holdsReserved
    (request : Request)
    (held : List String) : Refusal :=
  .reservedNetwork
    ("range holds reserved " ++ request.kind ++ " " ++
      joined held ++ " in " ++ request.domain ++
      " (reserved after it was allocated): destroy the " ++
      "range and build it again")

/- External reservations are part of a full pool. -/
def outsideNote
    (domain kind : String)
    (t : Reservations) : String :=
  let outside := (externalReservations t domain kind).length
  if outside = 0 then ""
  else
    " (" ++ toString outside ++
      " in use outside TrueNorth on the live switch)"

/- `mine`: the range's values of this kind, by holder. -/
def heldValues (rows : List Row) : Dict String String :=
  Dict.ofPairs (rows.map (fun r => (r.holder, r.value)))

/- What a fresh build frees first. -/
def pruned
    (t : Reservations)
    (request : Request)
    (prune : Bool)
    (mine : Dict String String) :
    Reservations × Dict String String :=
  let stale :=
    mine.keys.filter (fun h => h ∉ request.holders)
  if prune && stale ≠ [] then
    (dropRangeReservations t request.rangeId request.kind
        stale,
      mine.filter (fun h _ => h ∈ request.holders))
  else
    (t, mine)

/- `reserve_values`. -/
def reserveValues
    (destroyed : List Nat)
    (now : Int)
    (t : Reservations)
    (request : Request)
    (prune : Bool)
    (excluded : List String) :
    Except Refusal (Reservations × Dict String String) :=
  if request.domain = "" then .error noDomain
  else
    let rows :=
      rangeReservations t request.rangeId request.kind
    let elsewhere :=
      (rows.map Row.domain).filter (· ≠ request.domain)
    if elsewhere ≠ [] then
      .error (domainChanged request elsewhere)
    else
      let (t, mine) :=
        pruned t request prune (heldValues rows)
      let held :=
        (mine.entries.map Prod.snd).filter (· ∈ excluded)
      if held ≠ [] then .error (holdsReserved request held)
      else
        allot destroyed now t request mine excluded
          (outsideNote request.domain request.kind)

end Worker

end RangeAlloc

end TrueNorth

--------
-- Live Reads
--------

namespace TrueNorth

namespace RangeAlloc

/-
  `LiveUsage`: what a live read of one source found in
  (domain, kind); `readAt` is when the read started.
-/
structure Usage where
  domain : String
  kind : String
  source : String
  foreign : Dict String String
  managed : Dict String String
  readAt : Option Int

/- `EXTERNAL` and the source: how its holders start. -/
def sourcePrefix (source : String) : String :=
  "external:" ++ source ++ ":"

/- `EXTERNAL_TTL`, in seconds. -/
def externalTtl : Int := 30 * 24 * 3600

namespace Usage

/- When the entries of the read were last seen. -/
def seenAt
    (usage : Usage)
    (now : Int) : Int :=
  usage.readAt.getD now

/- The values to record, by what holds them. -/
def want
    (usage : Usage)
    (held : List String) : Dict String String :=
  let holder := fun name => sourcePrefix usage.source ++ name
  let foreign := usage.foreign.mapValues (fun _ => holder)
  let orphaned :=
    (usage.managed.filter (fun v _ => v ∉ held)).mapValues
      (fun _ name =>
        holder name ++ " (orphaned TrueNorth port group)")
  (foreign.setdefaults orphaned).filter (fun v _ => v ∉ held)

end Usage

namespace Worker

/- The source's entries the read no longer sees go. -/
def dropUnseen
    (t : Reservations)
    (ours : List Row)
    (want : Dict String String)
    (readAt : Option Int) : Reservations :=
  match readAt with
  | none => t
  | some readAt =>
      dropReservationIds t
        (ours.filter (fun r => r.value ∉ want.keys)) readAt

/-
  The entries already there: other sources' expire, the
  source's own are dropped or touched.
-/
def refreshExternal
    (now : Int)
    (t : Reservations)
    (usage : Usage)
    (want : Dict String String) : Reservations :=
  let mark := sourcePrefix usage.source
  let t := expireExternal t usage.domain usage.kind mark
    (now - externalTtl)
  let ours :=
    (externalReservations t usage.domain usage.kind).filter
      (Row.startsWith mark)
  let t := dropUnseen t ours want usage.readAt
  touchReservationIds t
    (ours.filter (fun r => r.value ∈ want.keys))
    (usage.seenAt now)

/- `record_external`. -/
def recordExternal
    (destroyed : List Nat)
    (now : Int)
    (t : Reservations)
    (usage : Usage) :
    Except Refusal (Reservations × Dict String String) :=
  let t :=
    (takenReservationValues destroyed t
      usage.domain usage.kind).1
  let held := rangeHeldValues t usage.domain usage.kind
  let want := usage.want held
  let t := refreshExternal now t usage want
  let present :=
    (externalReservations t usage.domain usage.kind).map
      Row.value
  match insertExternalReservations t usage.domain usage.kind
      (want.filter (fun v _ => v ∉ present))
      (usage.seenAt now) with
  | none => .error .integrityError
  | some t => .ok (t, want)

/- A collision on the live switch; VLANs as text. -/
structure Conflict where
  domain : String
  source : Option String
  release : List String
  vlans : List (String × String)

/- `conflict.get("source") or "live switch"`. -/
def Conflict.sourceName (conflict : Conflict) : String :=
  match conflict.source with
  | none => "live switch"
  | some source =>
      if source = "" then "live switch" else source

/- `release_conflict`. -/
def releaseConflict
    (destroyed : List Nat)
    (now : Int)
    (t : Reservations)
    (rangeId : Nat)
    (conflict : Conflict) :
    Except Refusal (Reservations × Dict String String) :=
  let t := dropRangeValues t rangeId conflict.domain "vlan"
    conflict.release
  let (t, taken) := takenReservationValues destroyed t
    conflict.domain "vlan"
  let new := Dict.ofPairs
    ((conflict.vlans.filter (fun vlan => vlan.1 ∉ taken)).map
      (fun vlan =>
        (vlan.1,
          sourcePrefix conflict.sourceName ++ vlan.2)))
  match insertExternalReservations t conflict.domain "vlan"
      new now with
  | none => .error .integrityError
  | some t => .ok (t, .empty)

end Worker

end RangeAlloc

end TrueNorth

--------
-- The API's Reservations
--------

namespace TrueNorth

namespace RangeAlloc

namespace Api

/- `KINDS`. -/
def kinds : List String :=
  ["mac", "noise_mgmt_ip", "uplink_ip", "vlan"]

/- `reserve`. -/
def reserve
    (destroyed : List Nat)
    (now : Int)
    (t : Reservations)
    (request : Request) :
    Except Refusal (Reservations × Dict String String) :=
  if request.kind ∉ kinds then
    .error (.valueError
      ("unknown reservation kind '" ++ request.kind ++ "'"))
  else if request.domain = "" then .error noDomain
  else
    let rows :=
      (rangeReservations t request.rangeId
        request.kind).filter
          (fun r => r.domain = request.domain)
    allot destroyed now t request (Worker.heldValues rows) []
      (fun _ => "")

/- What `sync` releases of the range's rows of the kind. -/
def isStale
    (request : Request)
    (r : Row) : Bool :=
  r.domain ≠ request.domain ∨
    r.holder ∉ request.holders ∨
    r.value ∉ request.pool

/- `sync`. -/
def sync
    (destroyed : List Nat)
    (now : Int)
    (t : Reservations)
    (request : Request) :
    Except Refusal (Reservations × Dict String String) :=
  let t := t.delete (fun r =>
    r.heldBy request.rangeId && r.kind = request.kind &&
      isStale request r)
  if request.holders = [] then .ok (t, .empty)
  else reserve destroyed now t request

end Api

end RangeAlloc

end TrueNorth
