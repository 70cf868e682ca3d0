import Mathlib.Data.List.Basic

/-
  Dates with a time of day, from year 1 to year 9999, with a
  zone or without, and the text of one in UTC.

  Key definitions include:
    * `Datetime`
    * `Datetime.instant?`
    * `Datetime.utcText?`
-/

--------
-- Dates
--------

namespace Calendar

/- Microseconds from 1970 to the ends of the calendar. -/
def first : Int := -62135596800000000

def last : Int := 253402300799999999

/- Year, month and day, by the days since 1970. -/
def civil (days : Int) : Int × Int × Int :=
  let z := days + 719468
  let era := z / 146097
  let doe := z % 146097
  let yoe :=
    (doe - doe / 1460 + doe / 36524 - doe / 146096) / 365
  let doy := doe - (365 * yoe + yoe / 4 - yoe / 100)
  let mp := (5 * doy + 2) / 153
  let day := doy - (153 * mp + 2) / 5 + 1
  let month := if mp < 10 then mp + 3 else mp - 9
  let year := yoe + era * 400 + (if month ≤ 2 then 1 else 0)
  (year, month, day)

/- Decimal digits, with zeros before them. -/
def padded
    (width : Nat)
    (n : Int) : List Char :=
  let digits := Nat.toDigits 10 n.toNat
  List.replicate (width - digits.length) '0' ++ digits

end Calendar

--------
-- Times
--------

open Calendar

/-
  A `datetime`: the microseconds its clock shows since 1970,
  and its zone's offset in minutes where it has a zone.
-/
structure Datetime where
  wall : Int
  offset : Option Int
  hWall : first ≤ wall ∧ wall ≤ last
  hOffset : ∀ m ∈ offset, -1440 < m ∧ m < 1440
deriving DecidableEq

namespace Datetime

def microsPerMinute : Int := 60000000

/- Microseconds since 1970 in UTC, of a time with a zone. -/
def instant? (t : Datetime) : Option Int :=
  t.offset.map (fun m => t.wall - m * microsPerMinute)

/-
  `astimezone(UTC).isoformat()` with `Z` for the zone; a
  time the calendar has not raises.
-/
def utcText? (t : Datetime) : Option String :=
  match t.instant? with
  | none => none
  | some micros =>
      if first ≤ micros ∧ micros ≤ last then
        let seconds := micros / 1000000
        let fraction := micros % 1000000
        let (year, month, day) := civil (seconds / 86400)
        let clock := seconds % 86400
        some (String.ofList
          (padded 4 year ++ '-' :: padded 2 month ++
            '-' :: padded 2 day ++ 'T' ::
            padded 2 (clock / 3600) ++ ':' ::
            padded 2 (clock / 60 % 60) ++ ':' ::
            padded 2 (clock % 60) ++
            (if fraction = 0 then []
              else '.' :: padded 6 fraction) ++ ['Z']))
      else none

example :
    (Datetime.mk 1792767600000000 (some 0) (by decide)
      (by decide)).utcText? = some "2026-10-23T15:00:00Z" := by
  decide

end Datetime
