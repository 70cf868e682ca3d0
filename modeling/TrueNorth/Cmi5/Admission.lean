import TrueNorth.Cmi5.Rules

/-
  What a statement the rules accept goes through: the order
  of the session and what was already sent or recorded.

  Key definitions include:
    * `InSequence`
    * `Admits`

  Main theorems:
    * `checkSequence_ok`
    * `check_admits`
-/

--------
-- The Sequence of a Session
--------

namespace TrueNorth

namespace Cmi5

open Checks

/- A cmi5-defined verb after those in `sent`. -/
structure InSequence
    (view : SessionView)
    (sent : List String)
    (verb : String) : Prop where
  defined : verb ∈ auDefined
  once : verb ∉ sent
  firstCompleted : verb = completed →
    view.auCompleted = false
  firstPassed : verb = passed →
    failed ∉ sent ∧ view.auPassed = false
  neverPassed : verb = failed →
    passed ∉ sent ∧ view.auPassed = false

/- A statement after the verbs accepted before it. -/
structure Admits
    (view : SessionView)
    (earlier : List String)
    (verdict : Option String) : Prop where
  begun : verdict ≠ some initialized →
    view.initialized = true ∨ initialized ∈ earlier
  isOpen : view.terminated = false ∧ terminated ∉ earlier
  verb : ∀ verb, verdict = some verb →
    InSequence view (view.sent ++ earlier) verb

theorem checkSequence_ok
    {verb : String}
    {view : SessionView}
    {sent : List String}
    {scaled : Json}
    (hDefined : verb ∈ auDefined)
    (hCheck : checkSequence verb view sent scaled = .ok ()) :
    InSequence view sent verb := by
  unfold checkSequence at hCheck
  rcases bind_eq_ok.mp hCheck with ⟨_, hEnds, hCheck⟩
  rcases bind_eq_ok.mp hCheck with ⟨_, hCompleted, hCheck⟩
  rcases bind_eq_ok.mp hCheck with ⟨_, hPassed, hFailed⟩
  rw [refuseIf_eq_ok] at hEnds
  rw [only_eq_ok] at hCompleted hPassed hFailed
  have hAfterCompleted : verb = completed →
      completed ∉ sent ∧ view.auCompleted = false := by
    intro hVerb
    rcases bind_eq_ok.mp (hCompleted (by simp [hVerb])) with
      ⟨_, hOnce, hFirst⟩
    rw [refuseIf_eq_ok, decide_eq_false_iff_not] at hOnce
    exact ⟨hOnce, refuseIf_eq_ok.mp hFirst⟩
  have hAfterPassed : verb = passed →
      passed ∉ sent ∧ failed ∉ sent ∧
        view.auPassed = false := by
    intro hVerb
    rcases bind_eq_ok.mp (hPassed (by simp [hVerb])) with
      ⟨_, _, hCheck⟩
    rcases bind_eq_ok.mp hCheck with ⟨_, _, hCheck⟩
    rcases bind_eq_ok.mp hCheck with ⟨_, hOnce, hCheck⟩
    rcases bind_eq_ok.mp hCheck with ⟨_, hOther, hFirst⟩
    rw [refuseIf_eq_ok, decide_eq_false_iff_not]
      at hOnce hOther
    exact ⟨hOnce, hOther, refuseIf_eq_ok.mp hFirst⟩
  have hAfterFailed : verb = failed →
      failed ∉ sent ∧ passed ∉ sent ∧
        view.auPassed = false := by
    intro hVerb
    rcases bind_eq_ok.mp (hFailed (by simp [hVerb])) with
      ⟨_, _, hCheck⟩
    rcases bind_eq_ok.mp hCheck with ⟨_, _, hCheck⟩
    rcases bind_eq_ok.mp hCheck with ⟨_, hOnce, hCheck⟩
    rcases bind_eq_ok.mp hCheck with ⟨_, hOther, hFirst⟩
    rw [refuseIf_eq_ok, decide_eq_false_iff_not]
      at hOnce hOther
    exact ⟨hOnce, hOther, refuseIf_eq_ok.mp hFirst⟩
  refine
    { defined := hDefined
      once := ?_
      firstCompleted := fun h => (hAfterCompleted h).2
      firstPassed := fun h => (hAfterPassed h).2
      neverPassed := fun h => (hAfterFailed h).2 }
  have hEach : verb = initialized ∨ verb = completed ∨
      verb = passed ∨ verb = failed ∨ verb = terminated := by
    simpa [auDefined] using hDefined
  rcases hEach with h | h | h | h | h
  · simpa [h] using hEnds
  · exact h ▸ (hAfterCompleted h).1
  · exact h ▸ (hAfterPassed h).1
  · exact h ▸ (hAfterFailed h).1
  · simpa [h] using hEnds

theorem checkDefined_ok
    {st context activities : List (String × Json)}
    {verb verb' : String}
    {view : SessionView}
    {earlier : List String}
    (hCheck :
      checkDefined st context activities verb view earlier =
        .ok verb') :
    verb' = verb ∧
      InSequence view (view.sent ++ earlier) verb := by
  unfold checkDefined at hCheck
  rcases bind_eq_ok.mp hCheck with ⟨_, _, hCheck⟩
  rcases bind_eq_ok.mp hCheck with ⟨_, hDefined, hCheck⟩
  rcases bind_eq_ok.mp hCheck with ⟨_, _, hCheck⟩
  rcases bind_eq_ok.mp hCheck with ⟨_, _, hCheck⟩
  rcases bind_eq_ok.mp hCheck with ⟨_, _, hCheck⟩
  rcases bind_eq_ok.mp hCheck with ⟨_, _, hCheck⟩
  rcases bind_eq_ok.mp hCheck with ⟨_, _, hCheck⟩
  rcases bind_eq_ok.mp hCheck with ⟨scaled, _, hCheck⟩
  rcases bind_eq_ok.mp hCheck with ⟨_, _, hCheck⟩
  rcases bind_eq_ok.mp hCheck with ⟨_, hSequence, hSame⟩
  rw [refuseIf_eq_ok, decide_eq_false_iff_not, not_not]
    at hDefined
  cases hSame
  exact ⟨rfl, checkSequence_ok hDefined hSequence⟩

theorem checkSession_ok
    {context : List (String × Json)}
    {verb : String}
    {view : SessionView}
    {earlier : List String}
    (hCheck :
      checkSession context verb view earlier = .ok ()) :
    (verb ≠ initialized →
      view.initialized = true ∨ initialized ∈ earlier) ∧
    view.terminated = false ∧ terminated ∉ earlier := by
  unfold checkSession at hCheck
  rcases bind_eq_ok.mp hCheck with ⟨_, _, hCheck⟩
  rcases bind_eq_ok.mp hCheck with ⟨session, _, hCheck⟩
  rcases bind_eq_ok.mp hCheck with ⟨_, _, hCheck⟩
  rcases bind_eq_ok.mp hCheck with ⟨_, hBegun, hOpen⟩
  rw [refuseIf_eq_ok] at hBegun hOpen
  constructor
  · intro hVerb
    by_contra hNot
    rw [not_or] at hNot
    simp [hVerb, hNot.1, hNot.2] at hBegun
  · simpa using hOpen

/- An accepted statement was admitted by the session. -/
theorem check_admits
    {st : Json}
    {view : SessionView}
    {earlier : List String}
    {verdict : Option String}
    (hCheck : check st view earlier = .ok verdict) :
    Admits view earlier verdict := by
  unfold check at hCheck
  rcases bind_eq_ok.mp hCheck with ⟨members, _, hCheck⟩
  rcases bind_eq_ok.mp hCheck with ⟨verb, _, hCheck⟩
  rcases bind_eq_ok.mp hCheck with ⟨_, _, hCheck⟩
  rcases bind_eq_ok.mp hCheck with
    ⟨⟨context, activities⟩, _, hCheck⟩
  rcases bind_eq_ok.mp hCheck with ⟨categories, _, hCheck⟩
  rcases bind_eq_ok.mp hCheck with ⟨_, _, hCheck⟩
  rcases bind_eq_ok.mp hCheck with ⟨_, hSession, hCheck⟩
  rcases bind_eq_ok.mp hCheck with ⟨_, _, hCheck⟩
  have hGate := checkSession_ok hSession
  split at hCheck
  case isTrue =>
    rcases bind_eq_ok.mp hCheck with ⟨verb', hDefined, hSame⟩
    cases hSame
    rcases checkDefined_ok hDefined with ⟨rfl, hSequence⟩
    refine
      { begun := fun hVerb => hGate.1 (fun h => hVerb (h ▸ rfl))
        isOpen := hGate.2
        verb := ?_ }
    intro verb hVerb
    cases hVerb
    exact hSequence
  case isFalse =>
    rcases bind_eq_ok.mp hCheck with ⟨_, hAllowed, hSame⟩
    cases hSame
    rcases bind_eq_ok.mp hAllowed with ⟨_, hOther, _⟩
    rw [refuseIf_eq_ok, decide_eq_false_iff_not] at hOther
    refine
      { begun := fun _ => hGate.1 ?_
        isOpen := hGate.2
        verb := ?_ }
    · intro h
      apply hOther
      rw [h]
      exact List.mem_cons_self
    · intro verb hVerb
      cases hVerb

end Cmi5

end TrueNorth
