import TrueNorth.Lib.BigEndian

/-
  Byte streams that are a sequence of units, where what may
  come next depends on a phase the units before have set,
  and where the head of the stream says how long its unit
  is.

  Main declarations:
    * `Framing.Chain`
    * `Framing.Framer`
    * `Framing.Framer.frame`
    * `Framing.Framer.frame_flatten`
    * `Framing.Framer.reads_of_mem`
-/

--------
-- Chains of Units
--------

namespace Framing

open BigEndian (Bytes)

variable {P : Type}

/-
  The units take the phase from the first to the last, each
  one allowed in the phase it comes in.
-/
inductive Chain
    (allowed : P → Bytes → P → Prop) :
    P → List Bytes → P → Prop where
| nil (p : P) : Chain allowed p [] p
| cons
    {p q r : P}
    {unit : Bytes}
    {units : List Bytes}
    (hUnit : allowed p unit q)
    (hUnits : Chain allowed q units r) :
    Chain allowed p (unit :: units) r

namespace Chain

variable {allowed allowed' : P → Bytes → P → Prop}

theorem single
    {p q : P}
    {unit : Bytes}
    (hUnit : allowed p unit q) :
    Chain allowed p [unit] q :=
  .cons hUnit (.nil q)

theorem append
    {p q r : P}
    {before after : List Bytes}
    (hBefore : Chain allowed p before q)
    (hAfter : Chain allowed q after r) :
    Chain allowed p (before ++ after) r := by
  induction hBefore with
  | nil p => exact hAfter
  | cons hUnit _ ih => exact .cons hUnit (ih hAfter)

theorem mono
    (hAllowed : ∀ p unit q,
      allowed p unit q → allowed' p unit q)
    {p q : P}
    {units : List Bytes}
    (hChain : Chain allowed p units q) :
    Chain allowed' p units q := by
  induction hChain with
  | nil p => exact .nil p
  | cons hUnit _ ih =>
      exact .cons (hAllowed _ _ _ hUnit) ih

end Chain

end Framing

--------
-- Framers
--------

namespace Framing

open BigEndian (Bytes)

variable {P : Type}

/-
  How a reader cuts a stream: the length of the unit at the
  head, when the phase knows one, and the phase after it.
-/
structure Framer (P : Type) where
  length : P → Bytes → Option Nat
  next : P → Bytes → P

namespace Framer

variable (framer : Framer P)

/-
  The reader's cut of a stream: `none` when it meets a unit
  it does not know or the stream ends inside one.
-/
def frameWith :
    Nat → P → Bytes → Option (List Bytes)
| 0, _, stream => if stream = [] then some [] else none
| fuel + 1, p, stream =>
    if stream = [] then
      some []
    else
      match framer.length p stream with
      | none => none
      | some n =>
          if stream.length < n ∨ n = 0 then
            none
          else
            match
              frameWith fuel (framer.next p (stream.take n))
                (stream.drop n)
            with
            | none => none
            | some units => some (stream.take n :: units)

/- A unit takes at least a byte, so the length is enough. -/
def frame
    (p : P)
    (stream : Bytes) : Option (List Bytes) :=
  frameWith framer stream.length p stream

/- The reader takes exactly `unit`, whatever follows it. -/
structure Reads
    (p : P)
    (unit : Bytes)
    (q : P) : Prop where
  nonempty : unit ≠ []
  length : ∀ rest,
    framer.length p (unit ++ rest) = some unit.length
  next : framer.next p unit = q

variable {framer}

private theorem frameWith_flatten
    {p q : P}
    {units : List Bytes}
    (hChain : Chain framer.Reads p units q)
    {fuel : Nat}
    (hFuel : units.flatten.length ≤ fuel) :
    framer.frameWith fuel p units.flatten = some units := by
  induction hChain generalizing fuel with
  | nil p => cases fuel <;> simp [frameWith]
  | cons hUnit hUnits ih =>
      next p q r unit units =>
      rcases hUnit with ⟨hNonempty, hLength, hNext⟩
      have hPos : 0 < unit.length :=
        List.length_pos_iff.mpr hNonempty
      rw [List.flatten_cons] at hFuel ⊢
      rw [List.length_append] at hFuel
      cases fuel with
      | zero => omega
      | succ fuel =>
          have hStream : unit ++ units.flatten ≠ [] := by
            simp [hNonempty]
          have hEnough :
              ¬((unit ++ units.flatten).length <
                  unit.length ∨ unit.length = 0) := by
            rw [List.length_append]
            omega
          rw [frameWith, if_neg hStream,
            hLength units.flatten]
          simp only [if_neg hEnough, List.take_left,
            List.drop_left, hNext]
          rw [ih (by omega)]

/-
  A stream made of units the reader takes is cut into those
  units, and into no others.
-/
theorem frame_flatten
    {p q : P}
    {units : List Bytes}
    (hChain : Chain framer.Reads p units q) :
    framer.frame p units.flatten = some units :=
  frameWith_flatten hChain (Nat.le_refl _)

variable (framer)

/- The phase the reader is in after the units. -/
def phaseAfter
    (p : P)
    (units : List Bytes) : P :=
  units.foldl framer.next p

variable {framer}

/-
  Each unit of a stream is taken in the phase the reader is
  in after the units before it.
-/
theorem reads_of_mem
    {p q : P}
    {before after : List Bytes}
    {unit : Bytes}
    {allowed : P → Bytes → P → Prop}
    (hReads : ∀ p unit q,
      allowed p unit q → framer.Reads p unit q)
    (hChain : Chain allowed p (before ++ unit :: after) q) :
    ∃ r, allowed (framer.phaseAfter p before) unit r := by
  induction before generalizing p with
  | nil =>
      cases hChain with
      | cons hUnit hUnits => exact ⟨_, hUnit⟩
  | cons first before ih =>
      cases hChain with
      | cons hUnit hUnits =>
          rw [phaseAfter, List.foldl_cons,
            (hReads _ _ _ hUnit).next]
          exact ih hUnits

end Framer

end Framing
