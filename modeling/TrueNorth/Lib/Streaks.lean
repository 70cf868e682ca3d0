/-
  The first streak of so many `true`s in a row, found in one
  pass by counting how long the streak at hand already is.

  Main declarations:
    * `Streaks.find`
    * `Streaks.Streak`
    * `Streaks.find_first`
-/

--------
-- One Pass
--------

namespace Streaks

/-
  Where the first streak of `span` begins, in a list whose
  first entry is number `i`; `run` counts the streak up to
  there.
-/
def find (span : Nat) : Nat → Nat → List Bool → Option Nat
| _, _, [] => none
| i, run, b :: rest =>
    let run' := if b then run + 1 else 0
    if span ≤ run' then some (i + 1 - span)
    else find span (i + 1) run' rest

/- A streak of `span`, from entry number `k` on. -/
structure Streak
    (span : Nat)
    (bs : List Bool)
    (k : Nat) : Prop where
  within : k + span ≤ bs.length
  all : ∀ j < span, bs[k + j]? = some true

/- The earliest streak, if there is one. -/
def First
    (span : Nat)
    (bs : List Bool) : Option Nat → Prop
| some k => Streak span bs k ∧ ∀ k', Streak span bs k' → k ≤ k'
| none => ∀ k, ¬ Streak span bs k

/-
  What the pass knows at entry `i`: the last `run` entries
  are a streak too short, it could not begin earlier, and no
  streak is over yet.
-/
structure Counted
    (span : Nat)
    (bs : List Bool)
    (i run : Nat) : Prop where
  short : run < span
  done : run ≤ i
  streak : ∀ j < run, bs[i - run + j]? = some true
  broken : run < i → bs[i - run - 1]? = some false
  before : ∀ k, Streak span bs k → i < k + span

theorem Counted.start
    {span : Nat}
    (bs : List Bool)
    (hSpan : 0 < span) :
    Counted span bs 0 0 :=
  { short := hSpan
    done := Nat.le_refl 0
    streak := fun j hj => absurd hj (Nat.not_lt_zero j)
    broken := fun hLess => absurd hLess (Nat.lt_irrefl 0)
    before := fun k _ => by omega }

/- An entry that breaks the streak begins a new count. -/
theorem Counted.broke
    {span i run : Nat}
    {bs : List Bool}
    (hCounted : Counted span bs i run)
    (hEntry : bs[i]? = some false) :
    Counted span bs (i + 1) 0 := by
  have hShort := hCounted.short
  constructor
  case short => omega
  case done => omega
  case streak =>
    intro j hj
    omega
  case broken =>
    intro _
    exact hEntry
  case before =>
    intro k hStreak
    have hBefore := hCounted.before k hStreak
    refine Nat.lt_of_not_le (fun hEnds => ?_)
    -- the streak would go over the entry
    have hOver := hStreak.all (i - k) (by omega)
    rw [Nat.add_sub_cancel' (by omega), hEntry] at hOver
    cases hOver

/- An entry that does not is counted. -/
theorem Counted.grew
    {span i run : Nat}
    {bs : List Bool}
    (hCounted : Counted span bs i run)
    (hEntry : bs[i]? = some true)
    (hShort : run + 1 < span) :
    Counted span bs (i + 1) (run + 1) := by
  have hDone := hCounted.done
  constructor
  case short => exact hShort
  case done => omega
  case streak =>
    intro j hj
    rw [Nat.add_sub_add_right]
    by_cases hLast : j = run
    · rw [hLast, Nat.sub_add_cancel hDone]
      exact hEntry
    · exact hCounted.streak j (by omega)
  case broken =>
    intro hLess
    rw [Nat.add_sub_add_right]
    exact hCounted.broken (by omega)
  case before =>
    intro k hStreak
    have hBefore := hCounted.before k hStreak
    have hWithin := hStreak.within
    refine Nat.lt_of_not_le (fun hEnds => ?_)
    -- the streak would begin before the count does
    have hBroken := hCounted.broken (by omega)
    have hOver := hStreak.all (i - run - 1 - k) (by omega)
    rw [Nat.add_sub_cancel' (by omega), hBroken] at hOver
    cases hOver

/- The entry that makes the count long enough ends it. -/
theorem Counted.found
    {span i run : Nat}
    {bs : List Bool}
    (hCounted : Counted span bs i run)
    (hEntry : bs[i]? = some true)
    (hLong : span ≤ run + 1) :
    First span bs (some (i + 1 - span)) := by
  have hShort := hCounted.short
  have hDone := hCounted.done
  have hLength : i < bs.length := by
    rcases Nat.lt_or_ge i bs.length with hLess | hPast
    · exact hLess
    · rw [List.getElem?_eq_none hPast] at hEntry
      cases hEntry
  refine ⟨⟨by omega, ?_⟩, ?_⟩
  · intro j hj
    by_cases hLast : j = run
    · have hHere : i + 1 - span + j = i := by omega
      rw [hHere]
      exact hEntry
    · have hBack := hCounted.streak j (by omega)
      have hHere : i + 1 - span + j = i - run + j := by omega
      rw [hHere]
      exact hBack
  · intro k hStreak
    have hBefore := hCounted.before k hStreak
    omega

/- The pass finds the earliest streak, or there is none. -/
theorem find_first
    {span : Nat}
    (hSpan : 0 < span)
    (bs : List Bool) :
    First span bs (find span 0 0 bs) := by
  have hPass :
      ∀ (rest before : List Bool) run,
        before ++ rest = bs →
          Counted span bs before.length run →
          First span bs (find span before.length run rest) := by
    intro rest
    induction rest with
    | nil =>
        intro before run hWhole hCounted k hStreak
        have hBefore := hCounted.before k hStreak
        have hWithin := hStreak.within
        rw [← hWhole, List.append_nil] at hWithin
        omega
    | cons b rest ih =>
        intro before run hWhole hCounted
        have hEntry : bs[before.length]? = some b := by
          rw [← hWhole]
          simp
        have hNext : before ++ [b] ++ rest = bs := by
          rw [← hWhole, List.append_assoc]
          rfl
        have hLength :
            (before ++ [b]).length = before.length + 1 := by
          simp
        rw [find]
        cases b with
        | false =>
            have hZero : ¬ span ≤ 0 := by omega
            simp only [Bool.false_eq_true, if_false, hZero]
            rw [← hLength]
            refine ih _ 0 hNext ?_
            rw [hLength]
            exact hCounted.broke hEntry
        | true =>
            simp only [if_true]
            split
            · next hLong => exact hCounted.found hEntry hLong
            · next hShort =>
                rw [← hLength]
                refine ih _ (run + 1) hNext ?_
                rw [hLength]
                exact hCounted.grew hEntry (by omega)
  exact hPass bs [] 0 rfl (Counted.start bs hSpan)

end Streaks
