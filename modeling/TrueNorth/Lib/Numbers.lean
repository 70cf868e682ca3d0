import Mathlib.Data.Int.Log
import Mathlib.Data.Rat.Floor

/-
  Numbers of a dynamic language: integers of any size and
  doubles, compared by their exact values.

  A finite double is the rational it stands for; zero has
  no sign.

  Main declarations:
    * `Double`, `Double.ofRat`
    * `Double.sub`, `Double.mul`, `Double.div?`
    * `Number`, `Number.toDouble`
    * `Number.lt`, `Number.eq`
-/

--------
-- Doubles
--------

inductive Double where
| finite (value : Rat)
| infinite (negative : Bool)
| nan
deriving DecidableEq

namespace Double

/- The nearest integer, an even one when two are. -/
def roundEven (q : Rat) : Int :=
  let low := q.floor
  let rest := q - low
  if rest < 1 / 2 then low
  else if 1 / 2 < rest then low + 1
  else if low % 2 = 0 then low
  else low + 1

/- The nearest double: 53 bits, exponents from -1074. -/
def ofRat (q : Rat) : Double :=
  if q = 0 then .finite 0
  else
    let exponent := max (Int.log 2 |q| - 52) (-1074)
    let ulp : Rat := 2 ^ exponent
    let value := roundEven (q / ulp) * ulp
    if |value| < 2 ^ 1024 then .finite value
    else .infinite (q < 0)

def isFinite :
    Double → Bool
| .finite _ => true
| _ => false

def abs :
    Double → Double
| .finite value => .finite |value|
| .infinite _ => .infinite false
| .nan => .nan

def sub :
    Double → Double → Double
| .finite x, .finite y => ofRat (x - y)
| .finite _, .infinite negative => .infinite (!negative)
| .infinite negative, .finite _ => .infinite negative
| .infinite negative, .infinite negative' =>
    if negative = negative' then .nan else .infinite negative
| .nan, _ => .nan
| _, .nan => .nan

def mul :
    Double → Double → Double
| .finite x, .finite y => ofRat (x * y)
| .finite x, .infinite negative =>
    if x = 0 then .nan else .infinite (negative != (x < 0))
| .infinite negative, .finite y =>
    if y = 0 then .nan else .infinite (negative != (y < 0))
| .infinite negative, .infinite negative' =>
    .infinite (negative != negative')
| .nan, _ => .nan
| _, .nan => .nan

/- A division by zero has no result. -/
def div? :
    Double → Double → Option Double
| _, .finite 0 => none
| .finite x, .finite y => some (ofRat (x / y))
| .finite _, .infinite _ => some (.finite 0)
| .infinite negative, .finite y =>
    some (.infinite (negative != (y < 0)))
| _, _ => some .nan

/- `int(x)`: towards zero; only a finite double has one. -/
def trunc? :
    Double → Option Int
| .finite x => some (if x < 0 then x.ceil else x.floor)
| _ => none

end Double

--------
-- Numbers
--------

inductive Number where
| int (value : Int)
| float (value : Double)
deriving DecidableEq

namespace Number

/- Comparisons are of the exact values; nan compares false. -/
def value :
    Number → Double
| .int n => .finite n
| .float x => x

def lt (x y : Number) : Bool :=
  match x.value, y.value with
  | .finite p, .finite q => p < q
  | .finite _, .infinite negative => !negative
  | .infinite negative, .finite _ => negative
  | .infinite negative, .infinite negative' =>
      negative && !negative'
  | _, _ => false

def eq (x y : Number) : Bool :=
  match x.value, y.value with
  | .finite p, .finite q => p = q
  | .infinite negative, .infinite negative' =>
      negative = negative'
  | _, _ => false

/- `float(x)`; an integer beyond every double has none. -/
def toDouble :
    Number → Option Double
| .float x => some x
| .int n =>
    match Double.ofRat n with
    | .finite value => some (.finite value)
    | _ => none

end Number
