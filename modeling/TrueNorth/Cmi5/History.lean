import TrueNorth.Cmi5.Lms
import TrueNorth.Lib.Histories

/-
  The cmi5 rules as a law on what happened: which statement
  a history of accepted statements and abandoned sessions
  still allows, and what follows for the whole history.

  Key definitions include:
    * `verbs`
    * `AllowedVerb`, `Allowed`

  Main theorems:
    * `Lawful.first_initialized`
    * `Lawful.once`
    * `Lawful.passed_or_failed`
-/

--------
-- The Law
--------

namespace TrueNorth

namespace Cmi5

/- The cmi5-defined verbs accepted in a session. -/
def verbs
    (log : List Event)
    (session : String) : List String :=
  log.filterMap (fun e =>
    match e with
    | .accepted session' _ (some verb) =>
        if session' = session then some verb else none
    | _ => none)

/- A cmi5-defined statement after this history. -/
structure AllowedVerb
    (log : List Event)
    (session : String)
    (auIndex : Nat)
    (verb : String) : Prop where
  defined : verb ∈ auDefined
  once : verb ∉ verbs log session
  notFailed : verb = passed → failed ∉ verbs log session
  notPassed : verb = failed → passed ∉ verbs log session
  neverPassed : verb = passed ∨ verb = failed →
    ∀ other, .accepted other auIndex (some passed) ∉ log
  neverCompleted : verb = completed →
    ∀ other, .accepted other auIndex (some completed) ∉ log

/- Any event after this history. -/
structure AllowedStatement
    (log : List Event)
    (session : String)
    (auIndex : Nat)
    (verdict : Option String) : Prop where
  notAbandoned : .abandoned session ∉ log
  notTerminated : terminated ∉ verbs log session
  begun : verdict ≠ some initialized →
    initialized ∈ verbs log session
  verb : ∀ verb, verdict = some verb →
    AllowedVerb log session auIndex verb

def Allowed (log : List Event) :
    Event → Prop
| .accepted session auIndex verdict =>
    AllowedStatement log session auIndex verdict
| .abandoned _ => True

abbrev Lawful : List Event → Prop :=
  Histories.Lawful Allowed

--------
-- Reading a History
--------

theorem verbs_append
    (before after : List Event)
    (session : String) :
    verbs (before ++ after) session =
      verbs before session ++ verbs after session :=
  List.filterMap_append

@[simp] theorem verbs_abandoned
    (session other : String) :
    verbs [.abandoned other] session = [] := rfl

theorem verbs_accepted
    (session : String)
    (auIndex : Nat)
    (verdict : Option String) :
    verbs [.accepted session auIndex verdict] session =
      verdict.toList := by
  cases verdict with
  | none => rfl
  | some verb => simp [verbs]

theorem verbs_other
    {session other : String}
    (hOther : other ≠ session)
    (auIndex : Nat)
    (verdict : Option String) :
    verbs [.accepted other auIndex verdict] session = [] := by
  cases verdict with
  | none => rfl
  | some verb => simp [verbs, hOther]

--------
-- What the Law Says of a Whole History
--------

variable {log : List Event}

/- The first cmi5-defined statement is initialized. -/
theorem Lawful.first_initialized
    (hLawful : Lawful log)
    {session verb : String}
    (hFirst : (verbs log session).head? = some verb) :
    verb = initialized := by
  induction hLawful with
  | nil => cases hFirst
  | @snoc log e _ hAllowed ih =>
      rw [verbs_append] at hFirst
      cases hBefore : verbs log session with
      | cons first rest =>
          apply ih
          rw [hBefore] at hFirst ⊢
          exact hFirst
      | nil =>
          rw [hBefore, List.nil_append] at hFirst
          cases e with
          | abandoned other => cases hFirst
          | accepted other auIndex verdict =>
              by_cases hSame : other = session
              · subst hSame
                rw [verbs_accepted] at hFirst
                by_contra hOther
                have hBegun := hAllowed.begun (by
                  rintro rfl
                  apply hOther
                  simpa using hFirst.symm)
                rw [hBefore] at hBegun
                cases hBegun
              · rw [verbs_other hSame] at hFirst
                cases hFirst

/- No cmi5-defined verb is accepted twice in a session. -/
theorem Lawful.once
    (hLawful : Lawful log)
    (session : String) :
    (verbs log session).Nodup := by
  induction hLawful with
  | nil => exact List.nodup_nil
  | @snoc log e _ hAllowed ih =>
      rw [verbs_append]
      cases e with
      | abandoned other =>
          rw [verbs_abandoned, List.append_nil]
          exact ih
      | accepted other auIndex verdict =>
          by_cases hSame : other = session
          · subst hSame
            rw [verbs_accepted]
            cases verdict with
            | none =>
                rw [Option.toList_none, List.append_nil]
                exact ih
            | some verb =>
                have hOnce := (hAllowed.verb verb rfl).once
                rw [Option.toList_some]
                refine List.nodup_append.mpr
                  ⟨ih, List.pairwise_singleton _ verb, ?_⟩
                rintro other hMem _ hVerb rfl
                rw [List.mem_singleton] at hVerb
                exact hOnce (hVerb ▸ hMem)
          · rw [verbs_other hSame, List.append_nil]
            exact ih

/- The verbs of a session are cmi5-defined. -/
theorem Lawful.defined
    (hLawful : Lawful log)
    {session verb : String}
    (hMem : verb ∈ verbs log session) :
    verb ∈ auDefined := by
  induction hLawful with
  | nil => cases hMem
  | @snoc log e _ hAllowed ih =>
      rw [verbs_append, List.mem_append] at hMem
      rcases hMem with hOld | hNew
      · exact ih hOld
      · cases e with
        | abandoned other => cases hNew
        | accepted other auIndex verdict =>
            by_cases hSame : other = session
            · subst hSame
              rw [verbs_accepted, Option.mem_toList] at hNew
              exact (hAllowed.verb verb hNew).defined
            · rw [verbs_other hSame] at hNew
              cases hNew

/- A session is not both passed and failed. -/
theorem Lawful.passed_or_failed
    (hLawful : Lawful log)
    {session : String}
    (hPassed : passed ∈ verbs log session)
    (hFailed : failed ∈ verbs log session) :
    False := by
  induction hLawful with
  | nil => cases hPassed
  | @snoc log e _ hAllowed ih =>
      rw [verbs_append, List.mem_append] at hPassed hFailed
      cases e with
      | abandoned other =>
          rw [verbs_abandoned] at hPassed hFailed
          exact ih (hPassed.resolve_right (by simp))
            (hFailed.resolve_right (by simp))
      | accepted other auIndex verdict =>
          by_cases hSame : other = session
          · subst hSame
            rw [verbs_accepted, Option.mem_toList]
              at hPassed hFailed
            rcases hPassed with hPassed | hPassed
            · rcases hFailed with hFailed | hFailed
              · exact ih hPassed hFailed
              · exact (hAllowed.verb _ hFailed).notPassed rfl
                  hPassed
            · rcases hFailed with hFailed | hFailed
              · exact (hAllowed.verb _ hPassed).notFailed rfl
                  hFailed
              · rw [hPassed] at hFailed
                revert hFailed
                decide
          · rw [verbs_other hSame] at hPassed hFailed
            exact ih (hPassed.resolve_right (by simp))
              (hFailed.resolve_right (by simp))

end Cmi5

end TrueNorth
