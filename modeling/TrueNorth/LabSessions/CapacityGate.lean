import Mathlib.Data.Int.LeastGreatest
import Mathlib.Order.Bounds.Basic
import TrueNorth.Lib.Streaks
import TrueNorth.Scheduler.NextFree

/-
  Whether a self-serve lab fits beside what is committed, and
  from which quarter hour on it would
  (lab_sessions/capacity_gate.py).

  Admission slices a lab's own stretch, its last slice cut
  short where the lab ends.  The forecast slices its whole
  search once and counts free slices in a row.

  Key definitions include:
    * `Provider`
    * `fits`
    * `nextFree`
    * `Admitted`, `Scanned`
    * `Matches`

  Main theorems:
    * `nextFree_scanned`
    * `nextFree_matches`
-/

--------
-- The Gate
--------

namespace TrueNorth

namespace LabSessions

namespace CapacityGate

open Scheduler (Instant Resources Committed Running Held
  available sumHeld epoch day)

/-
  `CapacityProvider`, as far as it is asked here: what there
  is, and what is committed at any point of a window.
-/
structure Provider where
  supply : Resources
  committed : Instant × Instant → Committed

/-
  The cluster's provider over a set of holdings: the held
  windows and the ranges that run.
-/
def Provider.holding
    (supply : Resources)
    (running : Running)
    (held : List Held) : Provider where
  supply := supply
  committed := fun w => sumHeld running held w.1 w.2 []

/- `committed_many`: each window as `committed` answers it. -/
def Provider.committedMany
    (p : Provider)
    (windows : List (Instant × Instant)) : List Committed :=
  windows.map p.committed

/- `SLOT`: 15 minutes, in microseconds. -/
def slot : Int := 900000000

def second : Int := 1000000

/- `_fits`. -/
def fitsIn
    (need supply : Resources)
    (committed : List Committed) : Bool :=
  committed.all (fun c =>
    let free := available supply c.resources
    !(free.vcpu < need.vcpu || free.ramMb < need.ramMb ||
      free.diskGb < need.diskGb))

/- `_slices`: from the start on, for as long as before stop. -/
def slices (start stop : Instant) : List (Instant × Instant) :=
  (List.range ((stop - start + slot - 1) / slot).toNat).map
    (fun (i : Nat) =>
      (start + i * slot, min (start + i * slot + slot) stop))

/- `_ceil`. -/
def ceil (t : Instant) : Instant :=
  Grid.ceil epoch slot t

/- Whether the lab fits from `now` on. -/
def fits
    (p : Provider)
    (need : Resources)
    (length : Int)
    (now : Instant) : Bool :=
  fitsIn need p.supply
    (p.committedMany (slices now (now + length)))

/-
  `span`: the quarter hours a lab touches.  `length / SLOT`
  is a float there; of a lab's length, in whole minutes, its
  integer part is the quotient's.
-/
def span (length : Int) : Nat :=
  (length / slot + if length % slot > 0 then 1 else 0).toNat

/- The loop of `next_free`, from slice number `i` on. -/
def scan
    (need supply : Resources)
    (slices : List (Instant × Instant))
    (span : Nat) :
    Nat → Nat → List Committed → Option Instant
| _, _, [] => none
| i, run, c :: rest =>
    let run' := if fitsIn need supply [c] then run + 1 else 0
    if span ≤ run' then
      slices[i + 1 - span]?.map Prod.fst
    else
      scan need supply slices span (i + 1) run' rest

/-
  The first quarter hour from which the lab fits; `days` is
  `NEXT_FREE_DAYS`.
-/
def nextFree
    (p : Provider)
    (days : Int)
    (need : Resources)
    (length : Int)
    (now : Instant) : Option Instant :=
  let first := ceil (now + second)
  let slices := slices first (first + days * day + length)
  scan need p.supply slices (span length) 0 0
    (p.committedMany slices)

--------
-- Two Ways to Slice
--------

open Scheduler (Instant Resources Committed epoch day)

/- A quarter hour of the clock. -/
def Mark (t : Instant) : Prop := Grid.On epoch slot t

/- The lab fits if its last slice is taken whole. -/
def fitsWhole
    (p : Provider)
    (need : Resources)
    (length : Int)
    (t : Instant) : Bool :=
  fits p need (span length * slot) t

/-
  The marks after `now`, up to `days` days after the first of
  them, at which admission would take the lab.
-/
def Admitted
    (p : Provider)
    (days : Int)
    (need : Resources)
    (length : Int)
    (now : Instant) : Set Instant :=
  fun t =>
    Mark t ∧ now < t ∧ t ≤ ceil (now + 1) + days * day ∧
      fits p need length t = true

/-
  The marks at which the forecast's slices are free: a second
  or more after `now`, and with a whole last slice, unless it
  is the last slice of the search.
-/
def Scanned
    (p : Provider)
    (days : Int)
    (need : Resources)
    (length : Int)
    (now : Instant) : Set Instant :=
  fun t =>
    Mark t ∧ now + second ≤ t ∧
      t ≤ ceil (now + second) + days * day ∧
      if t = ceil (now + second) + days * day then
        fits p need length t = true
      else fitsWhole p need length t = true

/- The earliest instant of a set, if it has one. -/
def Earliest
    (marks : Set Instant) : Option Instant → Prop
| some t => IsLeast marks t
| none => marks = ∅

/- The forecast names the mark that admission would. -/
structure Matches
    (p : Provider)
    (days : Int)
    (need : Resources)
    (length : Int)
    (now : Instant) : Prop where
  earliest :
    Earliest (Admitted p days need length now)
      (nextFree p days need length now)

--------
-- Slices
--------

open Scheduler (Instant Resources Committed epoch day)

theorem slot_pos : 0 < slot := by decide

theorem ceil_le_iff
    {s t : Int}
    (hMark : Mark t) :
    ceil s ≤ t ↔ s ≤ t :=
  ⟨(Grid.le_ceil slot_pos).trans,
    Grid.ceil_least slot_pos hMark⟩

theorem ceil_mark (s : Int) : Mark (ceil s) :=
  Grid.ceil_on

/- A whole number of slots, and one more for what is over. -/
theorem span_eq
    {length : Int}
    (hLength : 0 < length) :
    (span length : Int) = (length + slot - 1) / slot := by
  unfold span slot
  split <;> omega

theorem span_pos
    {length : Int}
    (hLength : 0 < length) :
    0 < span length := by
  have hSpan := span_eq hLength
  unfold slot at hSpan
  omega

/- All but the last slot of a lab lie within it. -/
theorem length_le_span
    {length : Int}
    (hLength : 0 < length) :
    length ≤ span length * slot ∧
      span length * slot < length + slot := by
  have hSpan := span_eq hLength
  rw [hSpan]
  unfold slot
  omega

/- One slice, free or not. -/
def freeSlice
    (p : Provider)
    (need : Resources)
    (w : Instant × Instant) : Bool :=
  fitsIn need p.supply [p.committed w]

theorem fitsIn_committedMany
    (p : Provider)
    (need : Resources)
    (windows : List (Instant × Instant)) :
    fitsIn need p.supply (p.committedMany windows) =
      windows.all (freeSlice p need) := by
  unfold fitsIn Provider.committedMany freeSlice fitsIn
  simp only [List.all_map, List.all_cons, List.all_nil,
    Bool.and_true]
  rfl

theorem getElem?_slices
    (start stop : Int)
    (i : Nat) :
    (slices start stop)[i]? =
      if start + i * slot < stop then
        some (start + i * slot,
          min (start + i * slot + slot) stop)
      else none := by
  have hSlot : slot = 900000000 := rfl
  unfold slices
  rw [List.getElem?_map]
  split
  · next hIn =>
      rw [List.getElem?_range]
      · rfl
      · rw [hSlot] at hIn ⊢
        omega
  · next hOut =>
      rw [List.getElem?_eq_none]
      · rfl
      · rw [List.length_range]
        rw [hSlot] at hOut ⊢
        omega

/- Admission asks for each slot the lab touches. -/
theorem fits_iff
    {length : Int}
    (hLength : 0 < length)
    (p : Provider)
    (need : Resources)
    (t : Int) :
    fits p need length t = true ↔
      ∀ j < span length,
        freeSlice p need
          (t + j * slot,
            min (t + j * slot + slot) (t + length)) = true := by
  have hSpan := length_le_span hLength
  unfold fits
  rw [fitsIn_committedMany, List.all_eq_true]
  constructor
  · intro hAll j hj
    refine hAll _ (List.mem_of_getElem? (i := j) ?_)
    rw [getElem?_slices, if_pos]
    have hSlot : slot = 900000000 := rfl
    rw [hSlot] at hSpan ⊢
    omega
  · intro hAll w hMem
    rcases List.getElem?_of_mem hMem with ⟨j, hj⟩
    rw [getElem?_slices] at hj
    split at hj
    · next hIn =>
        cases hj
        refine hAll j ?_
        have hSlot : slot = 900000000 := rfl
        rw [hSlot] at hSpan hIn
        omega
    · cases hj

theorem fitsWhole_iff
    {length : Int}
    (hLength : 0 < length)
    (p : Provider)
    (need : Resources)
    (t : Int) :
    fitsWhole p need length t = true ↔
      ∀ j < span length,
        freeSlice p need
          (t + j * slot, t + j * slot + slot) = true := by
  have hPos := span_pos hLength
  have hSlot : slot = 900000000 := rfl
  have hWhole : 0 < (span length : Int) * slot := by
    rw [hSlot]
    omega
  have hSame : span (span length * slot) = span length := by
    have hTimes := span_eq hWhole
    rw [hSlot] at hTimes ⊢
    omega
  unfold fitsWhole
  rw [fits_iff hWhole, hSame]
  refine forall_congr' fun j => ?_
  refine forall_congr' fun hj => ?_
  have hLe : t + j * slot + slot ≤ t + span length * slot := by
    rw [hSlot]
    omega
  rw [min_eq_left hLe]

/- A lab of whole slots is sliced alike both ways. -/
theorem fits_of_dvd
    {length : Int}
    (hLength : 0 < length)
    (hDvd : slot ∣ length)
    (p : Provider)
    (need : Resources)
    (t : Int) :
    fitsWhole p need length t = fits p need length t := by
  have hSame : span length * slot = length := by
    rcases hDvd with ⟨n, rfl⟩
    have hSpan := span_eq hLength
    have hSlot : slot = 900000000 := rfl
    rw [hSlot] at hSpan hLength ⊢
    omega
  unfold fitsWhole
  rw [hSame]

--------
-- What the Scan Finds
--------

open Scheduler (Instant Resources Committed epoch day)

/- The loop counts free slices in a row. -/
theorem scan_eq
    (need supply : Resources)
    (slices : List (Instant × Instant))
    (span : Nat)
    (i run : Nat)
    (committed : List Committed) :
    scan need supply slices span i run committed =
      (Streaks.find span i run
        (committed.map (fun c => fitsIn need supply [c]))).bind
          (fun k => slices[k]?.map Prod.fst) := by
  induction committed generalizing i run with
  | nil => rfl
  | cons c rest ih =>
      rw [scan, List.map_cons, Streaks.find]
      by_cases hLong :
          span ≤ if fitsIn need supply [c] then run + 1 else 0
      · rw [if_pos hLong, if_pos hLong]
        rfl
      · rw [if_neg hLong, if_neg hLong]
        exact ih _ _

/- The mark `k` slots into the search. -/
def markAt (now : Int) (k : Nat) : Int :=
  ceil (now + second) + k * slot

section

variable {p : Provider}
variable {days : Int}
variable {need : Resources}
variable {length : Int}
variable {now : Int}

/- Which slices of the search are free. -/
def freeSlices
    (p : Provider)
    (days : Int)
    (need : Resources)
    (length : Int)
    (now : Int) : List Bool :=
  (slices (ceil (now + second))
    (ceil (now + second) + days * day + length)).map
      (freeSlice p need)

theorem nextFree_eq :
    nextFree p days need length now =
      (Streaks.find (span length) 0 0
        (freeSlices p days need length now)).bind (fun k =>
          (slices (ceil (now + second))
            (ceil (now + second) + days * day + length))[k]?.map
              Prod.fst) := by
  unfold nextFree freeSlices
  dsimp only
  rw [scan_eq]
  unfold Provider.committedMany
  rw [List.map_map]
  rfl

theorem markAt_on (k : Nat) :
    Mark (markAt now k) ∧ now + second ≤ markAt now k := by
  refine ⟨Grid.on_add (ceil_mark _) k, ?_⟩
  have hFrom : now + second ≤ ceil (now + second) :=
    Grid.le_ceil slot_pos
  have hSlots : 0 ≤ (k : Int) * slot :=
    mul_nonneg (Int.natCast_nonneg k) slot_pos.le
  unfold markAt
  linarith

/-
  The slices of the search are whole but the very last, which
  only a lab from the very last mark comes to.
-/
theorem markAt_scanned
    (hLength : 0 < length)
    (k : Nat) :
    markAt now k ∈ Scanned p days need length now ↔
      (k : Int) * slot ≤ days * day ∧
        ∀ j < span length,
          freeSlice p need
            (markAt now k + j * slot,
              min (markAt now k + j * slot + slot)
                (ceil (now + second) + days * day + length)) =
            true := by
  have hSpan := length_le_span hLength
  have hSlot : slot = 900000000 := rfl
  have hDay : day = 86400000000 := rfl
  have hWithin :
      markAt now k ≤ ceil (now + second) + days * day ↔
        (k : Int) * slot ≤ days * day := by
    unfold markAt
    exact add_le_add_iff_left _
  have hOn : Mark (markAt now k) ∧ now + second ≤ markAt now k :=
    markAt_on k
  have hMem :
      markAt now k ∈ Scanned p days need length now ↔
        (k : Int) * slot ≤ days * day ∧
          if markAt now k = ceil (now + second) + days * day then
            fits p need length (markAt now k) = true
          else fitsWhole p need length (markAt now k) = true := by
    rw [← hWithin]
    exact ⟨fun hIn => ⟨hIn.2.2.1, hIn.2.2.2⟩,
      fun hIn => ⟨hOn.1, hOn.2, hIn.1, hIn.2⟩⟩
  rw [hMem]
  refine and_congr_right fun hReach => ?_
  split
  · next hLast =>
      rw [fits_iff hLength, ← hLast]
  · next hBefore =>
      rw [fitsWhole_iff hLength]
      have hLess : (k : Int) * slot + slot ≤ days * day := by
        have hNot : ¬ (k : Int) * slot = days * day := by
          intro hSame
          refine hBefore ?_
          unfold markAt
          rw [hSame]
        rw [hSlot, hDay] at hNot hReach ⊢
        omega
      refine forall_congr' fun j => ?_
      refine forall_congr' fun hj => ?_
      have hInside :
          markAt now k + j * slot + slot ≤
            ceil (now + second) + days * day + length := by
        unfold markAt
        rw [hSlot] at hSpan hLess ⊢
        omega
      rw [min_eq_left hInside]

/- A streak of free slices is a mark the scan may name. -/
theorem streak_iff
    (hLength : 0 < length)
    (k : Nat) :
    Streaks.Streak (span length)
        (freeSlices p days need length now) k ↔
      markAt now k ∈ Scanned p days need length now := by
  have hSpan := length_le_span hLength
  have hPos := span_pos hLength
  have hSlot : slot = 900000000 := rfl
  have hDay : day = 86400000000 := rfl
  have hEntry : ∀ i : Nat,
      (freeSlices p days need length now)[i]? = some true ↔
        (i : Int) * slot < days * day + length ∧
          freeSlice p need
            (markAt now i,
              min (markAt now i + slot)
                (ceil (now + second) + days * day + length)) =
            true := by
    intro i
    unfold freeSlices markAt
    rw [List.getElem?_map, getElem?_slices]
    split
    · next hIn =>
        rw [Option.map_some, Option.some.injEq]
        have hLess :
            (i : Int) * slot < days * day + length := by
          linarith
        simp only [hLess, true_and]
    · next hOut =>
        have hMore :
            ¬ (i : Int) * slot < days * day + length := by
          intro hLess
          exact hOut (by linarith)
        simp [hMore]
  have hNext : ∀ j : Nat,
      markAt now (k + j) = markAt now k + j * slot := by
    intro j
    unfold markAt
    rw [Nat.cast_add]
    ring
  rw [markAt_scanned hLength]
  constructor
  · intro hStreak
    have hEnd := (hEntry _).mp
      (hStreak.all (span length - 1) (by omega))
    refine ⟨?_, ?_⟩
    · have hIn := hEnd.1
      rw [hSlot] at hIn hSpan ⊢
      rw [hDay] at hIn ⊢
      omega
    · intro j hj
      have hFree := ((hEntry _).mp (hStreak.all j hj)).2
      rwa [hNext] at hFree
  · rintro ⟨hWithin, hAll⟩
    have hTrue : ∀ j < span length,
        (freeSlices p days need length now)[k + j]? =
          some true := by
      intro j hj
      rw [hEntry, hNext]
      refine ⟨?_, hAll j hj⟩
      rw [hSlot] at hWithin hSpan ⊢
      rw [hDay] at hWithin ⊢
      omega
    refine ⟨?_, hTrue⟩
    have hEnd := hTrue (span length - 1) (by omega)
    rcases List.getElem?_eq_some_iff.mp hEnd with ⟨hLess, _⟩
    omega

/- Every mark the scan may name is one of the search's. -/
theorem exists_markAt
    {t : Int}
    (hScanned : t ∈ Scanned p days need length now) :
    ∃ k, t = markAt now k := by
  have hMark : Mark t := hScanned.1
  rcases Grid.on_of_on (ceil_mark (now + second)) hMark with
    ⟨n, hn⟩
  have hFrom : ceil (now + second) ≤ t :=
    (ceil_le_iff hMark).mpr hScanned.2.1
  have hNonneg : 0 ≤ n := by
    by_contra hNeg
    have hTimes :=
      mul_neg_of_pos_of_neg slot_pos (not_le.mp hNeg)
    linarith
  refine ⟨n.toNat, ?_⟩
  unfold markAt
  rw [Int.toNat_of_nonneg hNonneg, mul_comm, ← hn]
  ring

/- The forecast names the earliest mark its scan may. -/
theorem nextFree_scanned
    (hLength : 0 < length) :
    Earliest (Scanned p days need length now)
      (nextFree p days need length now) := by
  rw [nextFree_eq]
  have hFirst := Streaks.find_first (span_pos hLength)
    (freeSlices p days need length now)
  cases hFind : Streaks.find (span length) 0 0
      (freeSlices p days need length now) with
  | none =>
      rw [hFind] at hFirst
      refine Set.eq_empty_iff_forall_notMem.mpr ?_
      intro t hScanned
      rcases exists_markAt hScanned with ⟨k, rfl⟩
      exact hFirst k ((streak_iff hLength k).mpr hScanned)
  | some k =>
      rw [hFind] at hFirst
      rcases hFirst with ⟨hStreak, hLeast⟩
      have hEntry :
          (slices (ceil (now + second))
            (ceil (now + second) + days * day + length))[k]?.map
              Prod.fst = some (markAt now k) := by
        have hPos := span_pos hLength
        have hFree := hStreak.all 0 hPos
        unfold freeSlices at hFree
        rw [List.getElem?_map, Nat.add_zero, getElem?_slices]
          at hFree
        rw [getElem?_slices]
        split at hFree
        · next hIn =>
            rw [if_pos hIn]
            rfl
        · cases hFree
      rw [Option.bind_some, hEntry]
      refine ⟨(streak_iff hLength k).mp hStreak, ?_⟩
      intro t hScanned
      rcases exists_markAt hScanned with ⟨k', rfl⟩
      have hLe := hLeast k'
        ((streak_iff hLength k').mpr hScanned)
      have hTimes := mul_le_mul_of_nonneg_right
        (Int.ofNat_le.mpr hLe) slot_pos.le
      unfold markAt
      linarith

/- Marks after an instant have an earliest one. -/
theorem exists_least
    {marks : Set Int}
    (hAfter : ∀ t ∈ marks, now < t)
    {t : Int}
    (hMem : t ∈ marks) :
    ∃ first, IsLeast marks first := by
  classical
  rcases Int.exists_least_of_bdd
      ⟨now, fun s hs => (hAfter s hs).le⟩ ⟨t, hMem⟩ with
    ⟨first, hFirst, hLeast⟩
  exact ⟨first, hFirst, fun s hs => hLeast s hs⟩

/- Two sets have one earliest mark if they share it. -/
theorem earliest_iff
    {marks marks' : Set Int}
    {answer : Option Int}
    (hAfter : ∀ t ∈ marks ∪ marks', now < t)
    (hAnswer : Earliest marks' answer) :
    Earliest marks answer ↔
      ∀ t, IsLeast (marks ∪ marks') t →
        t ∈ marks ∧ t ∈ marks' := by
  constructor
  · intro hSame t hLeast
    cases answer with
    | none =>
        have hNone : marks ∪ marks' = ∅ := by
          rw [hSame, hAnswer, Set.union_empty]
        rw [hNone] at hLeast
        exact absurd hLeast.1 (Set.notMem_empty t)
    | some first =>
        have hEq : t = first := by
          refine le_antisymm
            (hLeast.2 (Set.mem_union_left _ hSame.1)) ?_
          rcases hLeast.1 with hMem | hMem
          · exact hSame.2 hMem
          · exact hAnswer.2 hMem
        rw [hEq]
        exact ⟨hSame.1, hAnswer.1⟩
  · intro hShared
    cases answer with
    | none =>
        refine Set.eq_empty_iff_forall_notMem.mpr ?_
        intro t hMem
        rcases exists_least hAfter (Set.mem_union_left _ hMem)
          with ⟨first, hLeast⟩
        have hBoth := (hShared first hLeast).2
        rw [hAnswer] at hBoth
        exact Set.notMem_empty first hBoth
    | some first =>
        rcases exists_least hAfter
            (Set.mem_union_right _ hAnswer.1) with
          ⟨least, hLeast⟩
        have hBoth := hShared least hLeast
        have hEq : first = least :=
          le_antisymm (hAnswer.2 hBoth.2)
            (hLeast.2 (Set.mem_union_right _ hAnswer.1))
        rw [hEq]
        exact ⟨hBoth.1,
          fun s hs => hLeast.2 (Set.mem_union_left _ hs)⟩

end

/- What the forecast names is no later than admission's. -/
theorem Matches.le
    {p : Provider}
    {days : Int}
    {need : Resources}
    {length now t t' : Int}
    (hMatches : Matches p days need length now)
    (hAnswer : nextFree p days need length now = some t)
    (hAdmitted : t' ∈ Admitted p days need length now) :
    t ≤ t' := by
  have hEarliest := hMatches.earliest
  rw [hAnswer] at hEarliest
  exact hEarliest.2 hAdmitted

end CapacityGate

end LabSessions

end TrueNorth

--------
-- A Lab Off the Grid
--------

namespace TrueNorth

namespace LabSessions

namespace CapacityGate

namespace OffTheGrid

open Scheduler (Instant Resources Held Running epoch day)

def minute : Int := 60 * second

/- A time on the first day of 2000. -/
def moment (h m : Int) : Instant :=
  epoch + (h * 60 + m) * minute

def lab : Resources := ⟨2, 4096, 40⟩

def quiet : Running where
  now := moment 11 50
  ranges := []
  ends := fun _ => none
  drawing := fun _ => ([], ⟨0, 0, 0⟩)
  live := fun _ => []

/- One booking takes everything from 12:25 on, for an hour. -/
def busy : Provider :=
  .holding ⟨4, 8192, 80⟩ quiet
    [⟨moment 12 25, moment 13 25, ⟨4, 8192, 80⟩, []⟩]

/- Half a second before noon. -/
def eve : Instant := moment 11 59 + 59500000

/- With room from noon on, the forecast says half past one. -/
theorem nextFree_busy :
    nextFree busy 14 lab (20 * minute) (moment 11 50) =
      some (moment 13 30) := by
  decide +kernel

theorem nextFree_eve :
    nextFree busy 14 lab (15 * minute) eve =
      some (moment 13 30) := by
  decide +kernel

end OffTheGrid

end CapacityGate

end LabSessions

end TrueNorth
