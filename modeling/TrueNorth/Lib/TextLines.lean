import Mathlib.Data.List.Infix

/-
  Texts in lines that end with CR LF: replacing a part of a
  text, cutting a text into its lines, and joining the lines
  that were folded, where a line that begins with a blank
  goes on with the line before it.

  Key definitions include:
    * `TextLines.replace`
    * `TextLines.split`
    * `TextLines.unfold`
    * `TextLines.hasBreak`

  Main theorems:
    * `TextLines.replace_char`
    * `TextLines.split_break`
    * `TextLines.unfold_break`
    * `TextLines.unfold_joins`
-/

--------
-- Replacing
--------

namespace TextLines

/- The occurrences from the left; `skip` counts what is left
   of the one at hand. -/
def replaceFrom (old new : List Char) :
    Nat → List Char → List Char
| _, [] => []
| skip + 1, _ :: rest => replaceFrom old new skip rest
| 0, c :: rest =>
    if old.isPrefixOf (c :: rest) then
      new ++ replaceFrom old new (old.length - 1) rest
    else
      c :: replaceFrom old new 0 rest

/- `str.replace`, of a part that is not empty. -/
def replace (old new text : List Char) : List Char :=
  replaceFrom old new 0 text

theorem replace_char
    (old : Char)
    (new text : List Char) :
    replace [old] new text =
      text.flatMap (fun c => if c = old then new else [c]) := by
  unfold replace
  induction text with
  | nil => rfl
  | cons c rest ih =>
      rw [replaceFrom, List.flatMap_cons]
      by_cases hSame : c = old
      · simp [hSame, ih]
      · have hOther : ¬ old = c := fun h => hSame h.symm
        simp [hSame, hOther, ih]

/- A CR LF is one character of the new text. -/
def joinBreaks (new : List Char) : List Char → List Char
| '\r' :: '\n' :: rest => new ++ joinBreaks new rest
| c :: rest => c :: joinBreaks new rest
| [] => []

theorem joinBreaks_cons
    {new : List Char}
    {c : Char}
    {rest : List Char}
    (hOther : c = '\r' → ∀ r, rest ≠ '\n' :: r) :
    joinBreaks new (c :: rest) = c :: joinBreaks new rest := by
  rw [joinBreaks]
  intro r hFirst hRest
  exact hOther hFirst r hRest

theorem replace_break
    (new text : List Char) :
    replace ['\r', '\n'] new text = joinBreaks new text := by
  unfold replace
  fun_induction joinBreaks new text with
  | case1 rest ih =>
      simp only [replaceFrom, List.isPrefixOf, beq_self_eq_true,
        Bool.and_true, if_true, List.length_cons,
        List.length_nil]
      rw [← ih]
  | case2 c rest hOther ih =>
      rw [replaceFrom, if_neg, ih]
      intro hPrefix
      rcases List.isPrefixOf_iff_prefix.mp hPrefix with
        ⟨behind, hBehind⟩
      simp only [List.cons_append, List.nil_append,
        List.cons.injEq] at hBehind
      exact hOther behind hBehind.1.symm hBehind.2.symm
  | case3 => rfl

--------
-- Lines
--------

/- The break between two lines. -/
def crlf : List Char := ['\r', '\n']

/- The lines of a text, cut at every break. -/
def split : List Char → List (List Char)
| '\r' :: '\n' :: rest => [] :: split rest
| c :: rest =>
    match split rest with
    | [] => [[c]]
    | line :: lines => (c :: line) :: lines
| [] => [[]]

/- Lines with a break between each and the next. -/
def join : List (List Char) → List Char
| [] => []
| [line] => line
| line :: line' :: lines => line ++ crlf ++ join (line' :: lines)

def hasBreak : List Char → Bool
| '\r' :: '\n' :: _ => true
| _ :: rest => hasBreak rest
| [] => false

/- A break does not reach over the end of what precedes it. -/
theorem no_overlap
    {c : Char}
    {before behind rest : List Char}
    (hOther : ∀ r, c = '\r' → before = '\n' :: r → False)
    (hFirst : c = '\r')
    (hBreak : before ++ '\r' :: '\n' :: behind = '\n' :: rest) :
    False := by
  cases before with
  | nil =>
      simp only [List.nil_append, List.cons.injEq] at hBreak
      exact absurd hBreak.1 (by decide)
  | cons d before =>
      simp only [List.cons_append, List.cons.injEq] at hBreak
      exact hOther before hFirst (by rw [hBreak.1])

theorem split_ne_nil
    (text : List Char) :
    split text ≠ [] := by
  fun_cases split text with
  | case1 => exact List.cons_ne_nil _ _
  | case2 c rest hOther hNone => exact List.cons_ne_nil _ _
  | case3 c rest hOther line lines hLines =>
      exact List.cons_ne_nil _ _
  | case4 => exact List.cons_ne_nil _ _

/- At a break the lines of both parts are put together. -/
theorem split_break
    (before behind : List Char) :
    split (before ++ crlf ++ behind) =
      split before ++ split behind := by
  unfold crlf
  rw [List.append_assoc]
  change split (before ++ '\r' :: '\n' :: behind) = _
  fun_induction split before with
  | case1 rest ih =>
      rw [List.cons_append, List.cons_append, split, ih]
      rfl
  | case2 c rest hOther hNone ih =>
      exact absurd hNone (split_ne_nil rest)
  | case3 c rest hOther line lines hLines ih =>
      rw [hLines] at ih
      rw [List.cons_append, split, ih]
      · rfl
      · intro r hFirst hBreak
        exact no_overlap hOther hFirst hBreak
  | case4 =>
      rw [List.nil_append, split]
      rfl

theorem split_plain
    {text : List Char}
    (hPlain : hasBreak text = false) :
    split text = [text] := by
  fun_induction hasBreak text with
  | case1 => cases hPlain
  | case2 c rest hOther ih =>
      rw [split, ih hPlain]
      exact hOther
  | case3 => rfl

theorem hasBreak_tail
    {c : Char}
    {rest : List Char}
    (hPlain : hasBreak (c :: rest) = false) :
    hasBreak rest = false := by
  by_cases hBreak : c = '\r' ∧ ∃ r, rest = '\n' :: r
  · rcases hBreak with ⟨rfl, r, rfl⟩
    rw [hasBreak] at hPlain
    cases hPlain
  · rwa [hasBreak] at hPlain
    intro r hFirst hRest
    exact hBreak ⟨hFirst, r, hRest⟩

theorem hasBreak_of_no_cr
    {text : List Char}
    (hNone : '\r' ∉ text) :
    hasBreak text = false := by
  fun_induction hasBreak text with
  | case1 => exact absurd List.mem_cons_self hNone
  | case2 c rest hOther ih =>
      exact ih (fun hMem => hNone (List.mem_cons_of_mem _ hMem))
  | case3 => rfl

/- Parts of a text without a break have none. -/
theorem hasBreak_append
    {before behind : List Char}
    (hPlain : hasBreak (before ++ behind) = false) :
    hasBreak before = false ∧ hasBreak behind = false := by
  fun_induction hasBreak before with
  | case1 rest =>
      rw [List.cons_append, List.cons_append, hasBreak]
        at hPlain
      cases hPlain
  | case2 c rest hOther ih =>
      exact ih (hasBreak_tail hPlain)
  | case3 => exact ⟨rfl, hPlain⟩

--------
-- Folded Lines
--------

/- A blank after a break goes on with the line before it. -/
def blank (c : Char) : Bool :=
  c = ' ' || c = '\t'

def unfold : List Char → List Char
| '\r' :: '\n' :: ' ' :: rest => unfold rest
| '\r' :: '\n' :: '\t' :: rest => unfold rest
| c :: rest => c :: unfold rest
| [] => []

/- What `unfold` leaves as it is, at the head of a text. -/
theorem unfold_cons
    {c : Char}
    {rest : List Char}
    (hOther : ∀ b r,
      c = '\r' → rest = '\n' :: b :: r → blank b = false) :
    unfold (c :: rest) = c :: unfold rest := by
  rw [unfold]
  · intro r hFirst hRest
    exact absurd (hOther ' ' r hFirst hRest) (by decide)
  · intro r hFirst hRest
    exact absurd (hOther '\t' r hFirst hRest) (by decide)

theorem unfold_plain
    {text : List Char}
    (hPlain : hasBreak text = false) :
    unfold text = text := by
  fun_induction hasBreak text with
  | case1 => cases hPlain
  | case2 c rest hOther ih =>
      rw [unfold_cons, ih hPlain]
      intro b r hFirst hRest
      exact (hOther (b :: r) hFirst hRest).elim
  | case3 => rfl

/- A break before a line that does not go on stays. -/
theorem unfold_break
    (before : List Char)
    {behind : List Char}
    (hStarts : ∀ c ∈ behind.head?, blank c = false) :
    unfold (before ++ crlf ++ behind) =
      unfold before ++ crlf ++ unfold behind := by
  have hBreak :
      unfold (crlf ++ behind) = crlf ++ unfold behind := by
    unfold crlf
    rw [List.cons_append, List.cons_append, List.nil_append,
      unfold_cons, unfold_cons]
    · rfl
    · intro b r hFirst
      exact absurd hFirst (by decide)
    · intro b r _ hRest
      refine hStarts b ?_
      rw [List.cons.injEq] at hRest
      rw [hRest.2]
      rfl
  rw [List.append_assoc]
  fun_induction unfold before with
  | case1 rest ih =>
      simp only [List.cons_append, unfold]
      exact ih
  | case2 rest ih =>
      simp only [List.cons_append, unfold]
      exact ih
  | case3 c rest hSpace hTab ih =>
      rw [List.cons_append, unfold_cons, ih]
      · rfl
      · intro b r hFirst hRest
        cases rest with
        | nil =>
            rw [List.nil_append] at hRest
            cases hRest
        | cons d rest =>
            cases rest with
            | nil =>
                simp only [crlf, List.cons_append,
                  List.nil_append, List.cons.injEq] at hRest
                rw [← hRest.2.1]
                decide
            | cons e rest =>
                simp only [List.cons_append, List.cons.injEq]
                  at hRest
                rcases hRest with ⟨rfl, rfl, hEnd⟩
                have hNotSpace : e ≠ ' ' := by
                  intro hBlank
                  exact hSpace rest hFirst (by rw [hBlank])
                have hNotTab : e ≠ '\t' := by
                  intro hBlank
                  exact hTab rest hFirst (by rw [hBlank])
                simp [blank, hNotSpace, hNotTab]
  | case4 => exact hBreak

/- A break before a line that goes on goes with its blank. -/
theorem unfold_joins
    {before : List Char}
    (hPlain : hasBreak before = false)
    (behind : List Char) :
    unfold (before ++ crlf ++ ' ' :: behind) =
      before ++ unfold behind := by
  rw [List.append_assoc]
  fun_induction hasBreak before with
  | case1 => cases hPlain
  | case2 c rest hOther ih =>
      rw [List.cons_append, unfold_cons, ih hPlain]
      · rfl
      · intro b r hFirst hRest
        exact (no_overlap hOther hFirst hRest).elim
  | case3 =>
      unfold crlf
      simp only [List.nil_append, List.cons_append, unfold]

end TextLines
