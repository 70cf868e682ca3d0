import Mathlib.Data.List.Infix
import TrueNorth.Lib.Dict
import TrueNorth.Lib.Table

/-
  The table `network_reservations`
  (network_inventory/models.py) and the statements on it
  (worker/db_ops.py, network_inventory/service.py).

  No two rows are equal, so a row stands for its own id.

  Key definitions include:
    * `Row`, `Row.Clash`
    * `Reservations`
    * `takenReservationValues`
    * `expireExternal`, `dropReservationIds`
    * `touchReservationIds`
    * `insertReservations`, `insertExternalReservations`
-/

--------
-- Rows
--------

namespace TrueNorth

namespace RangeAlloc

/- `NetworkReservation`; an external one has no range. -/
structure Row where
  rangeId : Option Nat
  domain : String
  kind : String
  value : String
  holder : String
  updatedAt : Int
deriving DecidableEq

namespace Row

/- `uq_network_reservations_value`. -/
def SameValue (r r' : Row) : Prop :=
  r.domain = r'.domain ∧
    r.kind = r'.kind ∧
    r.value = r'.value

/- `uq_network_reservations_holder`: NULLs never clash. -/
def SameHolder (r r' : Row) : Prop :=
  r.rangeId ≠ none ∧
    r.rangeId = r'.rangeId ∧
    r.kind = r'.kind ∧
    r.holder = r'.holder

def Clash (r r' : Row) : Prop :=
  SameValue r r' ∨ SameHolder r r'

instance : DecidableRel SameValue :=
  fun _ _ => inferInstanceAs (Decidable (_ ∧ _))

instance : DecidableRel SameHolder :=
  fun _ _ => inferInstanceAs (Decidable (_ ∧ _))

instance : DecidableRel Clash :=
  fun _ _ => inferInstanceAs (Decidable (_ ∨ _))

instance : Std.Symm Clash where
  symm r r' hClash := by
    rcases hClash with ⟨hDomain, hKind, hValue⟩ |
      ⟨hRange, hSame, hKind, hHolder⟩
    · exact .inl ⟨hDomain.symm, hKind.symm, hValue.symm⟩
    · exact .inr
        ⟨hSame ▸ hRange, hSame.symm, hKind.symm, hHolder.symm⟩

/- The row is in this domain and of this kind. -/
def isIn
    (r : Row)
    (domain kind : String) : Bool :=
  r.domain = domain ∧ r.kind = kind

/- The range holds the row. -/
def heldBy
    (r : Row)
    (rangeId : Nat) : Bool :=
  r.rangeId = some rangeId

/- A range recorded destroyed holds the row. -/
def isGone
    (destroyed : List Nat)
    (r : Row) : Bool :=
  match r.rangeId with
  | none => false
  | some rangeId => rangeId ∈ destroyed

/- Something outside TrueNorth holds the row. -/
def isExternal (r : Row) : Bool :=
  r.rangeId = none

/- `holder.startswith(prefix)`. -/
def startsWith
    (mark : String)
    (r : Row) : Bool :=
  mark.toList.isPrefixOf r.holder.toList

/- The row as last seen at `at`. -/
def seen
    (seenAt : Int)
    (r : Row) : Row :=
  { r with updatedAt := seenAt }

end Row

abbrev Reservations := Table Row Row.Clash

--------
-- Statements About Ranges' Rows
--------

/- Every reservation of `kind` the range holds. -/
def rangeReservations
    (t : Reservations)
    (rangeId : Nat)
    (kind : String) : List Row :=
  t.rows.filter (fun r => r.heldBy rangeId && r.kind = kind)

def dropRangeReservations
    (t : Reservations)
    (rangeId : Nat)
    (kind : String)
    (holders : List String) : Reservations :=
  t.delete (fun r =>
    r.heldBy rangeId && r.kind = kind && r.holder ∈ holders)

/-
  Values held in (domain, kind), after freeing those of
  destroyed ranges.
-/
def takenReservationValues
    (destroyed : List Nat)
    (t : Reservations)
    (domain kind : String) : Reservations × List String :=
  let t' := t.delete (fun r =>
    r.isIn domain kind && r.isGone destroyed)
  (t',
    (t'.rows.filter (Row.isIn · domain kind)).map Row.value)

/- The reservation of a value for a range's holder. -/
def rangeRow
    (now : Int)
    (rangeId : Nat)
    (domain kind : String)
    (holder value : String) : Row where
  rangeId := some rangeId
  domain := domain
  kind := kind
  value := value
  holder := holder
  updatedAt := now

/- One row per {holder: value}. -/
def insertReservations
    (now : Int)
    (t : Reservations)
    (rangeId : Nat)
    (domain kind : String)
    (values : Dict String String) : Option Reservations :=
  t.insert? (values.entries.map (fun entry =>
    rangeRow now rangeId domain kind entry.1 entry.2))

/- `release_destroyed_range`. -/
def releaseDestroyedRange
    (destroyed : List Nat)
    (t : Reservations)
    (rangeId : Nat) : Reservations :=
  t.delete (fun r => r.heldBy rangeId && r.isGone destroyed)

/- `release_range`. -/
def releaseRange
    (t : Reservations)
    (rangeId : Nat) : Reservations :=
  t.delete (Row.heldBy · rangeId)

/- Values a range holds in (domain, kind). -/
def rangeHeldValues
    (t : Reservations)
    (domain kind : String) : List String :=
  (t.rows.filter (fun r =>
    r.isIn domain kind && !r.isExternal)).map Row.value

/- Free the range's reservations of these values. -/
def dropRangeValues
    (t : Reservations)
    (rangeId : Nat)
    (domain kind : String)
    (values : List String) : Reservations :=
  t.delete (fun r =>
    r.heldBy rangeId && r.isIn domain kind && r.value ∈ values)

--------
-- Statements About External Rows
--------

/- The external reservations in (domain, kind). -/
def externalReservations
    (t : Reservations)
    (domain kind : String) : List Row :=
  t.rows.filter (fun r => r.isIn domain kind && r.isExternal)

/-
  Delete these reservations, those last seen before
  `seenBefore`.
-/
def dropReservationIds
    (t : Reservations)
    (ids : List Row)
    (seenBefore : Int) : Reservations :=
  t.delete (fun r => r ∈ ids && r.updatedAt < seenBefore)

/- `Row.seen` keeps what the constraints read. -/
theorem clash_of_seen
    {ids : List Row}
    {seenAt : Int}
    (r r' : Row)
    (hClash :
      Row.Clash
        (if r ∈ ids ∧ r.updatedAt < seenAt then r.seen seenAt
          else r)
        (if r' ∈ ids ∧ r'.updatedAt < seenAt
          then r'.seen seenAt else r')) :
    Row.Clash r r' := by
  split at hClash <;> split at hClash <;> exact hClash

/-
  Mark external reservations seen at `at`; never moves one
  back.
-/
def touchReservationIds
    (t : Reservations)
    (ids : List Row)
    (seenAt : Int) : Reservations :=
  t.update
    (fun r =>
      if r ∈ ids ∧ r.updatedAt < seenAt then r.seen seenAt
      else r)
    clash_of_seen

/-
  Delete external reservations in (domain, kind) last seen
  before `before`, except the ones of the source just read.
-/
def expireExternal
    (t : Reservations)
    (domain kind keepPrefix : String)
    (before : Int) : Reservations :=
  t.delete (fun r =>
    r.isIn domain kind && r.isExternal &&
      r.updatedAt < before && !r.startsWith keepPrefix)

/- `holder[:255]`. -/
def clip (holder : String) : String :=
  String.ofList (holder.toList.take 255)

/- The external reservation of a value, seen at `seenAt`. -/
def externalRow
    (domain kind : String)
    (seenAt : Int)
    (value holder : String) : Row where
  rangeId := none
  domain := domain
  kind := kind
  value := value
  holder := clip holder
  updatedAt := seenAt

/- One external reservation per {value: holder}. -/
def insertExternalReservations
    (t : Reservations)
    (domain kind : String)
    (values : Dict String String)
    (seenAt : Int) : Option Reservations :=
  t.insert? (values.entries.map (fun entry =>
    externalRow domain kind seenAt entry.1 entry.2))

end RangeAlloc

end TrueNorth
