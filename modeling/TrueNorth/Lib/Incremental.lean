import Mathlib.Data.List.Basic

/-
  Parsers that are fed their input in pieces: a loop of
  turns that goes round until a turn stops, waiting for
  more.  If every turn does the same when more input stands
  behind what it reads, the cuts between the pieces do not
  matter.

  Main declarations:
    * `Incremental.Settles`
    * `Incremental.loop_iff_settles`
    * `Incremental.Extends`
    * `Incremental.Extends.settles_iff`
-/

--------
-- Loops of Turns
--------

namespace Incremental

variable {S O E : Type}

/-
  A turn: the state it leaves, what it put out, and whether
  the loop goes round again.
-/
abbrev Turn (S O E : Type) : Type :=
  S → Except E (S × List O × Bool)

variable {turn : Turn S O E}

/- The loop from `s` stops in `t` without an error. -/
inductive Settles
    (turn : Turn S O E) :
    S → List O → S → Prop
| stops
    {s t : S}
    {out : List O}
    (hTurn : turn s = .ok (t, out, false)) :
    Settles turn s out t
| goes
    {s s' t : S}
    {out rest : List O}
    (hTurn : turn s = .ok (s', out, true))
    (hRest : Settles turn s' rest t) :
    Settles turn s (out ++ rest) t

/- Only the first turn looks at where the loop starts. -/
theorem Settles.congr
    {s s' t : S}
    {out : List O}
    (hSettles : Settles turn s out t)
    (hSame : turn s = turn s') :
    Settles turn s' out t := by
  cases hSettles with
  | stops hTurn => exact .stops (hSame ▸ hTurn)
  | goes hTurn hRest => exact .goes (hSame ▸ hTurn) hRest

theorem settles_stops_iff
    {s s' t : S}
    {out last : List O}
    (hTurn : turn s = .ok (s', last, false)) :
    Settles turn s out t ↔ out = last ∧ t = s' := by
  constructor
  · intro hSettles
    cases hSettles with
    | stops hStop =>
        rw [hTurn] at hStop
        cases hStop
        exact ⟨rfl, rfl⟩
    | goes hGo =>
        rw [hTurn] at hGo
        cases hGo
  · rintro ⟨rfl, rfl⟩
    exact .stops hTurn

theorem settles_goes_iff
    {s s' t : S}
    {out first : List O}
    (hTurn : turn s = .ok (s', first, true)) :
    Settles turn s out t ↔
      ∃ rest, out = first ++ rest ∧
        Settles turn s' rest t := by
  constructor
  · intro hSettles
    cases hSettles with
    | stops hStop =>
        rw [hTurn] at hStop
        cases hStop
    | goes hGo hRest =>
        rw [hTurn] at hGo
        cases hGo
        exact ⟨_, rfl, hRest⟩
  · rintro ⟨rest, rfl, hRest⟩
    exact .goes hTurn hRest

theorem not_settles_of_error
    {s t : S}
    {out : List O}
    {e : E}
    (hTurn : turn s = .error e) :
    ¬ Settles turn s out t := by
  intro hSettles
  cases hSettles with
  | stops hStop =>
      rw [hTurn] at hStop
      cases hStop
  | goes hGo =>
      rw [hTurn] at hGo
      cases hGo

/- The loop, for at most so many turns. -/
def loop
    (turn : Turn S O E) :
    Nat → S → Except E (S × List O)
| 0, s => .ok (s, [])
| turns + 1, s =>
    match turn s with
    | .error e => .error e
    | .ok (s', out, false) => .ok (s', out)
    | .ok (s', out, true) =>
        match loop turn turns s' with
        | .error e => .error e
        | .ok (t, rest) => .ok (t, out ++ rest)

/- Turns that lower `work` are enough for the loop. -/
theorem loop_iff_settles
    (work : S → Nat)
    (hWork : ∀ s s' out,
      turn s = .ok (s', out, true) → work s' < work s)
    {turns : Nat}
    {s t : S}
    {out : List O}
    (hTurns : work s < turns) :
    loop turn turns s = .ok (t, out) ↔
      Settles turn s out t := by
  induction turns generalizing s out with
  | zero => omega
  | succ turns ih =>
      rw [loop]
      rcases hTurn : turn s with e | ⟨s', first, again⟩
      · simp [not_settles_of_error hTurn]
      · cases again with
        | false =>
            rw [settles_stops_iff hTurn]
            simp only [Except.ok.injEq, Prod.mk.injEq]
            constructor
            · rintro ⟨rfl, rfl⟩
              exact ⟨rfl, rfl⟩
            · rintro ⟨rfl, rfl⟩
              exact ⟨rfl, rfl⟩
        | true =>
            have hLess := hWork s s' first hTurn
            rw [settles_goes_iff hTurn]
            dsimp only
            constructor
            · intro hLoop
              rcases hRest : loop turn turns s' with
                e | ⟨t', rest⟩
              · rw [hRest] at hLoop
                cases hLoop
              · rw [hRest] at hLoop
                cases hLoop
                exact ⟨rest, rfl,
                  (ih (by omega)).mp hRest⟩
            · rintro ⟨rest, rfl, hRest⟩
              rw [(ih (by omega)).mpr hRest]

--------
-- More Input
--------

variable {S O E : Type}
variable {turn : Turn S O E}
variable {more : S → S}

/- Turns that do not mind the input `more` puts behind. -/
structure Extends
    (turn : Turn S O E)
    (more : S → S) : Prop where
  goes : ∀ s s' out, turn s = .ok (s', out, true) →
    turn (more s) = .ok (more s', out, true)
  stops : ∀ s s' out, turn s = .ok (s', out, false) →
    out = [] ∧ turn (more s) = turn (more s')
  fails : ∀ s e, turn s = .error e →
    ∃ e', turn (more s) = .error e'

/-
  Feeding all at once is feeding first what stands before
  the cut.  By induction on the loop: a turn before the cut
  is the same turn with more behind it.
-/
theorem Extends.settles_iff
    (hExtends : Extends turn more)
    {s t : S}
    {out : List O} :
    Settles turn (more s) out t ↔
      ∃ s' before after, Settles turn s before s' ∧
        Settles turn (more s') after t ∧
        out = before ++ after := by
  constructor
  · intro hSettles
    generalize hStart : more s = start at hSettles
    induction hSettles generalizing s with
    | @stops start t out hTurn =>
        subst hStart
        rcases hFirst : turn s with e | ⟨s', first, again⟩
        · rcases hExtends.fails s e hFirst with ⟨e', hError⟩
          rw [hTurn] at hError
          cases hError
        · cases again with
          | true =>
              rw [hExtends.goes s s' first hFirst] at hTurn
              cases hTurn
          | false =>
              rcases hExtends.stops s s' first hFirst with
                ⟨rfl, hSame⟩
              refine ⟨s', [], out, .stops hFirst, ?_, rfl⟩
              exact .stops (hSame ▸ hTurn)
    | @goes start next t out rest hTurn hRest ih =>
        subst hStart
        rcases hFirst : turn s with e | ⟨s', first, again⟩
        · rcases hExtends.fails s e hFirst with ⟨e', hError⟩
          rw [hTurn] at hError
          cases hError
        · cases again with
          | true =>
              rw [hExtends.goes s s' first hFirst] at hTurn
              cases hTurn
              rcases ih rfl with
                ⟨s'', before, after, hBefore, hAfter, rfl⟩
              refine ⟨s'', _, after,
                .goes hFirst hBefore, hAfter, ?_⟩
              rw [List.append_assoc]
          | false =>
              rcases hExtends.stops s s' first hFirst with
                ⟨rfl, hSame⟩
              refine ⟨s', [], out ++ rest, .stops hFirst, ?_,
                rfl⟩
              exact .goes (hSame ▸ hTurn) hRest
  · rintro ⟨s', before, after, hBefore, hAfter, rfl⟩
    induction hBefore with
    | @stops s s' out hTurn =>
        rcases hExtends.stops s s' out hTurn with
          ⟨rfl, hSame⟩
        exact hAfter.congr hSame.symm
    | @goes s next s' out rest hTurn _ ih =>
        rw [List.append_assoc]
        exact .goes (hExtends.goes s next out hTurn)
          (ih hAfter)

end Incremental
