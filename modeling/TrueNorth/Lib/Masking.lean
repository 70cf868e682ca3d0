import Mathlib.Data.List.Infix
import TrueNorth.Lib.TextLines

/-
  Secrets struck from a text, one after another: each is
  replaced by one placeholder wherever it stands.

  Key definitions include:
    * `Masking.maskAll`
    * `Masking.Mark`
    * `Masking.strike`
    * `Masking.EdgeFree`

  Main theorems:
    * `Masking.shown_strike`
    * `Masking.maskAll_no_secret`
-/

--------
-- Replacing
--------

namespace Masking

open TextLines

/- The secrets are replaced in this order. -/
def maskAll
    (placeholder : List Char) :
    List (List Char) → List Char → List Char
| [], text => text
| p :: ps, text =>
    maskAll placeholder ps (replace p placeholder text)

theorem replaceFrom_skip
    (old new : List Char)
    (skip : Nat)
    (text : List Char) :
    replaceFrom old new skip text =
      replace old new (text.drop skip) := by
  induction text generalizing skip with
  | nil =>
      rw [List.drop_nil]
      cases skip <;> rfl
  | cons c text ih =>
      cases skip with
      | zero => rfl
      | succ skip => exact ih skip

theorem replace_append
    {old : List Char}
    (hOld : old ≠ [])
    (new text : List Char) :
    replace old new (old ++ text) = new ++ replace old new text := by
  cases old with
  | nil => exact absurd rfl hOld
  | cons c old =>
      have hPrefix : (c :: old).isPrefixOf (c :: (old ++ text)) =
          true :=
        List.isPrefixOf_iff_prefix.mpr
          ⟨text, List.cons_append⟩
      unfold replace
      rw [List.cons_append, replaceFrom, if_pos hPrefix,
        replaceFrom_skip, List.length_cons, Nat.add_sub_cancel,
        List.drop_left]
      rfl

theorem replace_cons
    {old : List Char}
    {c : Char}
    {text : List Char}
    (hNot : ¬old <+: c :: text)
    (new : List Char) :
    replace old new (c :: text) = c :: replace old new text := by
  unfold replace
  rw [replaceFrom, if_neg]
  rw [List.isPrefixOf_iff_prefix]
  exact hNot

/- A part that no occurrence begins in is passed over. -/
theorem replace_passes
    {old passed text : List Char}
    (hNot : ∀ t, t ≠ [] → t <:+ passed → ¬old <+: t ++ text)
    (new : List Char) :
    replace old new (passed ++ text) =
      passed ++ replace old new text := by
  induction passed with
  | nil => rfl
  | cons c passed ih =>
      have hHere := hNot (c :: passed) (List.cons_ne_nil _ _)
        (List.suffix_refl _)
      have hLater := ih (fun t hSome hSuffix =>
        hNot t hSome (hSuffix.trans (List.suffix_cons c passed)))
      rw [List.cons_append] at hHere ⊢
      rw [replace_cons hHere, hLater, List.cons_append]

--------
-- Marked Texts
--------

open TextLines

/- A character that is kept, or a secret that was struck. -/
inductive Mark where
  | kept (c : Char)
  | struck (secret : List Char)
deriving DecidableEq

def Mark.before : Mark → List Char
| .kept c => [c]
| .struck secret => secret

def Mark.after (placeholder : List Char) : Mark → List Char
| .kept c => [c]
| .struck _ => placeholder

/- The text as it was. -/
def source (marks : List Mark) : List Char :=
  marks.flatMap Mark.before

/- The text as it is shown. -/
def shown
    (placeholder : List Char)
    (marks : List Mark) : List Char :=
  marks.flatMap (Mark.after placeholder)

def kept (text : List Char) : List Mark :=
  text.map Mark.kept

/- As `replaceFrom`, within what is kept. -/
def strikeFrom (p : List Char) :
    Nat → List Mark → List Mark
| _, [] => []
| skip + 1, _ :: rest => strikeFrom p skip rest
| 0, m :: rest =>
    if (kept p).isPrefixOf (m :: rest) then
      .struck p :: strikeFrom p (p.length - 1) rest
    else m :: strikeFrom p 0 rest

def strike
    (p : List Char)
    (marks : List Mark) : List Mark :=
  strikeFrom p 0 marks

theorem strikeFrom_skip
    (p : List Char)
    (skip : Nat)
    (marks : List Mark) :
    strikeFrom p skip marks = strike p (marks.drop skip) := by
  induction marks generalizing skip with
  | nil =>
      rw [List.drop_nil]
      cases skip <;> rfl
  | cons m marks ih =>
      cases skip with
      | zero => rfl
      | succ skip => exact ih skip

theorem strike_append
    {p : List Char}
    (hp : p ≠ [])
    (marks : List Mark) :
    strike p (kept p ++ marks) = .struck p :: strike p marks := by
  cases p with
  | nil => exact absurd rfl hp
  | cons c p =>
      have hPrefix : (kept (c :: p)).isPrefixOf
          (.kept c :: (kept p ++ marks)) = true :=
        List.isPrefixOf_iff_prefix.mpr ⟨marks, rfl⟩
      have hDrop : (kept p ++ marks).drop p.length = marks := by
        have hLength : p.length = (kept p).length :=
          (List.length_map _).symm
        rw [hLength]
        exact List.drop_left
      show strikeFrom (c :: p) 0
        (.kept c :: (kept p ++ marks)) = _
      rw [strikeFrom, if_pos hPrefix, strikeFrom_skip,
        List.length_cons, Nat.add_sub_cancel, hDrop]

theorem strike_cons
    {p : List Char}
    {m : Mark}
    {marks : List Mark}
    (hNot : ¬kept p <+: m :: marks) :
    strike p (m :: marks) = m :: strike p marks := by
  unfold strike
  rw [strikeFrom, if_neg]
  rw [List.isPrefixOf_iff_prefix]
  exact hNot

theorem source_append
    (marks marks' : List Mark) :
    source (marks ++ marks') = source marks ++ source marks' :=
  List.flatMap_append

theorem shown_append
    (placeholder : List Char)
    (marks marks' : List Mark) :
    shown placeholder (marks ++ marks') =
      shown placeholder marks ++ shown placeholder marks' :=
  List.flatMap_append

@[simp] theorem source_kept (text : List Char) :
    source (kept text) = text := by
  induction text with
  | nil => rfl
  | cons c text ih =>
      show c :: source (kept text) = _
      rw [ih]

@[simp] theorem shown_kept
    (placeholder text : List Char) :
    shown placeholder (kept text) = text := by
  induction text with
  | nil => rfl
  | cons c text ih =>
      show c :: shown placeholder (kept text) = _
      rw [ih]

/- What is kept up to the first secret that was struck. -/
theorem eq_kept_append
    (marks : List Mark) :
    ∃ (run : List Char) (rest : List Mark),
      marks = kept run ++ rest ∧
      (rest = [] ∨ ∃ p rest', rest = .struck p :: rest') := by
  induction marks with
  | nil => exact ⟨[], [], rfl, .inl rfl⟩
  | cons m marks ih =>
      cases m with
      | kept c =>
          rcases ih with ⟨run, rest, hMarks, hRest⟩
          exact ⟨c :: run, rest, by rw [hMarks]; rfl, hRest⟩
      | struck p =>
          exact ⟨[], .struck p :: marks, rfl, .inr ⟨p, marks, rfl⟩⟩

/-
  Steps of the same length on both sides: a secret is struck
  here, or this mark is left.
-/
theorem strike_induction
    {p : List Char}
    (hp : p ≠ [])
    {motive : List Mark → Prop}
    (nil : motive [])
    (struck : ∀ marks, motive marks → motive (kept p ++ marks))
    (left : ∀ m marks, ¬kept p <+: m :: marks →
      motive marks → motive (m :: marks))
    (marks : List Mark) :
    motive marks := by
  induction hn : marks.length using Nat.strongRecOn
    generalizing marks with
  | ind n ih =>
      cases marks with
      | nil => exact nil
      | cons m marks =>
          by_cases hHere : kept p <+: m :: marks
          · rcases hHere with ⟨rest, hRest⟩
            rw [← hRest]
            have hPos := List.length_pos_of_ne_nil hp
            have hLength := congrArg List.length hRest
            rw [List.length_append, kept, List.length_map] at hLength
            exact struck rest (ih rest.length (by omega) rest rfl)
          · refine left m marks hHere
              (ih marks.length ?_ marks rfl)
            rw [← hn, List.length_cons]
            omega

theorem source_strike
    {p : List Char}
    (hp : p ≠ [])
    (marks : List Mark) :
    source (strike p marks) = source marks := by
  induction marks using strike_induction hp with
  | nil => rfl
  | struck marks ih =>
      rw [strike_append hp, source_append, source_kept, ← ih]
      rfl
  | left m marks hNot ih =>
      rw [strike_cons hNot]
      show m.before ++ source (strike p marks) = _
      rw [ih]
      rfl

theorem struck_of_mem_strike
    {p q : List Char}
    (hp : p ≠ [])
    {marks : List Mark}
    (hMem : .struck q ∈ strike p marks) :
    q = p ∨ .struck q ∈ marks := by
  induction marks using strike_induction hp with
  | nil => cases hMem
  | struck marks ih =>
      rw [strike_append hp] at hMem
      rcases List.mem_cons.mp hMem with hHere | hRest
      · exact .inl (Mark.struck.inj hHere)
      · rcases ih hRest with hSame | hOld
        · exact .inl hSame
        · exact .inr (List.mem_append_right _ hOld)
  | left m marks hNot ih =>
      rw [strike_cons hNot] at hMem
      rcases List.mem_cons.mp hMem with hHere | hRest
      · exact .inr (hHere ▸ List.mem_cons_self)
      · rcases ih hRest with hSame | hOld
        · exact .inl hSame
        · exact .inr (List.mem_cons_of_mem _ hOld)

/- What is kept in the end was there, and kept, before. -/
theorem kept_prefix_of_strike
    {p : List Char}
    (hp : p ≠ [])
    {run : List Char}
    {marks : List Mark}
    (hPrefix : kept run <+: strike p marks) :
    kept run <+: marks := by
  induction marks using strike_induction hp
    generalizing run with
  | nil => exact hPrefix
  | struck marks ih =>
      rw [strike_append hp] at hPrefix
      cases run with
      | nil => exact List.nil_prefix
      | cons c run =>
          rcases hPrefix with ⟨rest, hRest⟩
          cases hRest
  | left m marks hNot ih =>
      rw [strike_cons hNot] at hPrefix
      cases run with
      | nil => exact List.nil_prefix
      | cons c run =>
          rcases List.cons_prefix_cons.mp hPrefix with
            ⟨hSame, hRest⟩
          exact List.cons_prefix_cons.mpr ⟨hSame, ih hRest⟩

theorem kept_infix_of_strike
    {p : List Char}
    (hp : p ≠ [])
    {run : List Char}
    {marks : List Mark}
    (hInfix : kept run <:+: strike p marks) :
    kept run <:+: marks := by
  induction marks using strike_induction hp with
  | nil => exact hInfix
  | struck marks ih =>
      rw [strike_append hp] at hInfix
      rcases List.infix_cons_iff.mp hInfix with hHere | hRest
      · cases run with
        | nil => exact List.nil_infix
        | cons c run =>
            rcases hHere with ⟨rest, hBad⟩
            cases hBad
      · exact (ih hRest).trans (List.suffix_append _ _).isInfix
  | left m marks hNot ih =>
      have hWhole := strike_cons hNot
      rw [hWhole] at hInfix
      rcases List.infix_cons_iff.mp hInfix with hHere | hRest
      · rw [← hWhole] at hHere
        exact (kept_prefix_of_strike hp hHere).isInfix
      · exact (ih hRest).trans (List.suffix_cons _ _).isInfix

/- No secret is kept once it was struck. -/
theorem not_kept_strike
    {p : List Char}
    (hp : p ≠ [])
    (marks : List Mark) :
    ¬kept p <:+: strike p marks := by
  have hSome : kept p ≠ [] := by
    intro hNil
    exact hp (List.map_eq_nil_iff.mp hNil)
  induction marks using strike_induction hp with
  | nil =>
      intro hInfix
      exact hSome (List.infix_nil.mp hInfix)
  | struck marks ih =>
      rw [strike_append hp]
      intro hInfix
      rcases List.infix_cons_iff.mp hInfix with hHere | hRest
      · cases p with
        | nil => exact hp rfl
        | cons c p =>
            rcases hHere with ⟨rest, hBad⟩
            cases hBad
      · exact ih hRest
  | left m marks hNot ih =>
      have hWhole := strike_cons hNot
      rw [hWhole]
      intro hInfix
      rcases List.infix_cons_iff.mp hInfix with hHere | hRest
      · rw [← hWhole] at hHere
        exact hNot (kept_prefix_of_strike hp hHere)
      · exact ih hRest

--------
-- Edges Of A Placeholder
--------

open TextLines

/- No occurrence of a secret takes in some of a placeholder. -/
def Unstraddled (placeholder q : List Char) : List Mark → Prop
| [] => True
| .kept c :: rest =>
    (q <+: shown placeholder (.kept c :: rest) →
      kept q <+: .kept c :: rest) ∧
    Unstraddled placeholder q rest
| .struck _ :: rest =>
    (∀ t, t ≠ [] → t <:+ placeholder →
      ¬q <+: t ++ shown placeholder rest) ∧
    Unstraddled placeholder q rest

/- A text goes on as the placeholder does. -/
structure GoesOn (placeholder t : List Char) : Prop where
  some : t ≠ []
  fits : t <+: placeholder ∨ placeholder <+: t

/-
  No secret comes about at an edge of a placeholder: before,
  behind or between secrets of the text there is nothing that
  makes up a secret with the placeholder.
-/
structure EdgeFree
    (placeholder : List Char)
    (secrets : List (List Char))
    (text : List Char) : Prop where
  before : ∀ p ∈ secrets, ∀ a t, a ++ t ∈ secrets → a ≠ [] →
    GoesOn placeholder t → ¬a ++ p <:+: text
  behind : ∀ p ∈ secrets, ∀ u b, u ++ b ∈ secrets → u ≠ [] →
    u <:+ placeholder → b ≠ [] → ¬p ++ b <:+: text
  between : ∀ p ∈ secrets, ∀ p' ∈ secrets, ∀ u b t,
    u ++ (b ++ t) ∈ secrets → u ≠ [] → u <:+ placeholder →
    GoesOn placeholder t → ¬p ++ (b ++ p') <:+: text

variable {placeholder : List Char}
variable {secrets : List (List Char)}

theorem EdgeFree.part
    {text part : List Char}
    (hFree : EdgeFree placeholder secrets text)
    (hPart : part <:+: text) :
    EdgeFree placeholder secrets part :=
  ⟨fun p hp a t hq ha ht hIn =>
      hFree.before p hp a t hq ha ht (hIn.trans hPart),
    fun p hp u b hq hu hu' hb hIn =>
      hFree.behind p hp u b hq hu hu' hb (hIn.trans hPart),
    fun p hp p' hp' u b t hq hu hu' ht hIn =>
      hFree.between p hp p' hp' u b t hq hu hu' ht
        (hIn.trans hPart)⟩

/- Only which secrets there are counts. -/
theorem EdgeFree.congr
    {secrets' : List (List Char)}
    {text : List Char}
    (hFree : EdgeFree placeholder secrets text)
    (hSame : ∀ p, p ∈ secrets' ↔ p ∈ secrets) :
    EdgeFree placeholder secrets' text :=
  ⟨fun p hp a t hq =>
      hFree.before p ((hSame p).mp hp) a t ((hSame _).mp hq),
    fun p hp u b hq =>
      hFree.behind p ((hSame p).mp hp) u b ((hSame _).mp hq),
    fun p hp p' hp' u b t hq =>
      hFree.between p ((hSame p).mp hp) p' ((hSame p').mp hp')
        u b t ((hSame _).mp hq)⟩

/- Secrets without a character of the placeholder have none. -/
theorem edgeFree_of_disjoint
    (hDisjoint : ∀ q ∈ secrets, ∀ c ∈ placeholder, c ∉ q)
    (hSome : placeholder ≠ [])
    (text : List Char) :
    EdgeFree placeholder secrets text := by
  have hFirst (t : List Char)
      (ht : GoesOn placeholder t) :
      ∃ c ∈ placeholder, c ∈ t := by
    rcases ht.fits with hShort | hLong
    · rcases List.exists_mem_of_ne_nil t ht.some with ⟨c, hc⟩
      exact ⟨c, hShort.subset hc, hc⟩
    · rcases List.exists_mem_of_ne_nil placeholder hSome with
        ⟨c, hc⟩
      exact ⟨c, hc, hLong.subset hc⟩
  refine ⟨?_, ?_, ?_⟩
  · intro p hp a t hq ha ht _
    rcases hFirst t ht with ⟨c, hc, hIn⟩
    exact hDisjoint _ hq c hc (List.mem_append_right _ hIn)
  · intro p hp u b hq hu hSuffix hb _
    rcases List.exists_mem_of_ne_nil u hu with ⟨c, hc⟩
    exact hDisjoint _ hq c (hSuffix.subset hc)
      (List.mem_append_left _ hc)
  · intro p hp p' hp' u b t hq hu hSuffix ht _
    rcases List.exists_mem_of_ne_nil u hu with ⟨c, hc⟩
    exact hDisjoint _ hq c (hSuffix.subset hc)
      (List.mem_append_left _ hc)

/- What a secret takes in of a struck secret's place. -/
theorem goesOn_of_prefix
    {t rest : List Char}
    (ht : t ≠ [])
    (hPrefix : t <+: placeholder ++ rest) :
    GoesOn placeholder t :=
  ⟨ht, List.prefix_or_prefix_of_prefix hPrefix
    (List.prefix_append _ _)⟩

theorem prefix_append_cases
    {q a b : List Char}
    (hPrefix : q <+: a ++ b) :
    q <+: a ∨ ∃ t, q = a ++ t ∧ t <+: b := by
  rcases List.prefix_or_prefix_of_prefix hPrefix
    (List.prefix_append a b) with hShort | ⟨t, hLong⟩
  · exact .inl hShort
  · rw [← hLong] at hPrefix ⊢
    exact .inr ⟨t, rfl, (List.prefix_append_right_inj a).mp hPrefix⟩

/- A secret that begins in a kept run, of marks as they are. -/
theorem kept_of_prefix_shown
    {q run : List Char}
    {rest : List Mark}
    (hRest : rest = [] ∨ ∃ p rest', rest = .struck p :: rest')
    (hPrefix : q <+: shown placeholder (kept run ++ rest)) :
    q <+: run ∨
      ∃ t p rest', q = run ++ t ∧ rest = .struck p :: rest' ∧
        GoesOn placeholder t := by
  rw [shown_append, shown_kept] at hPrefix
  rcases prefix_append_cases hPrefix with
    hShort | ⟨t, hq, hLong⟩
  · exact .inl hShort
  · by_cases ht : t = []
    · rw [ht, List.append_nil] at hq
      exact .inl (hq ▸ List.prefix_refl _)
    · rcases hRest with hNone | ⟨p, rest', hRest⟩
      · rw [hNone] at hLong
        exact absurd (List.prefix_nil.mp hLong) ht
      · rw [hRest] at hLong
        exact .inr ⟨t, p, rest', hq, hRest,
          goesOn_of_prefix ht hLong⟩

/-
  Where nothing comes about at an edge, every occurrence of
  a secret is in what was kept.
-/
theorem unstraddled_of_edgeFree
    (hOut : ∀ p ∈ secrets, ¬p <:+: placeholder)
    {q : List Char}
    (hq : q ∈ secrets)
    {marks : List Mark}
    (hStruck : ∀ p, .struck p ∈ marks → p ∈ secrets)
    (hFree : EdgeFree placeholder secrets (source marks)) :
    Unstraddled placeholder q marks := by
  induction marks with
  | nil => trivial
  | cons m rest ih =>
      have hRest := ih
        (fun p hMem => hStruck p (List.mem_cons_of_mem _ hMem))
        (hFree.part (List.suffix_append m.before _).isInfix)
      cases m with
      | kept c =>
          refine ⟨?_, hRest⟩
          intro hPrefix
          rcases eq_kept_append rest with ⟨run, tail, hTail, hEnd⟩
          have hMarks : .kept c :: rest =
              kept (c :: run) ++ tail := by
            rw [hTail]
            rfl
          rw [hMarks] at hPrefix hStruck hFree ⊢
          rcases kept_of_prefix_shown hEnd hPrefix with
            hShort | ⟨t, p, rest', hEq, hp, ht⟩
          · rcases hShort with ⟨behind, hBehind⟩
            refine ⟨kept behind ++ tail, ?_⟩
            rw [← hBehind, kept, kept, kept, List.map_append,
              List.append_assoc]
          · exfalso
            have hSecret : p ∈ secrets := hStruck p (by
              rw [hp]
              exact List.mem_append_right _ List.mem_cons_self)
            refine hFree.before p hSecret (c :: run) t (hEq ▸ hq)
              (List.cons_ne_nil _ _) ht ?_
            rw [source_append, source_kept, hp]
            refine List.IsPrefix.isInfix ⟨source rest', ?_⟩
            rw [List.append_assoc]
            rfl
      | struck p =>
          refine ⟨?_, hRest⟩
          have hSecret : p ∈ secrets :=
            hStruck p List.mem_cons_self
          intro u hu hSuffix hPrefix
          rcases prefix_append_cases hPrefix with
            hInside | ⟨q', hEq, hMore⟩
          · exact hOut q hq
              (hInside.isInfix.trans hSuffix.isInfix)
          · have hSome : q' ≠ [] := by
              intro hNil
              rw [hNil, List.append_nil] at hEq
              exact hOut q hq (hEq ▸ hSuffix.isInfix)
            rcases eq_kept_append rest with
              ⟨run, tail, hTail, hEnd⟩
            rw [hTail] at hMore hStruck hFree
            rcases kept_of_prefix_shown hEnd hMore with
              hShort | ⟨t, p', rest', hEq', hp', ht⟩
            · refine hFree.behind p hSecret u q' (hEq ▸ hq) hu
                hSuffix hSome ?_
              rcases hShort with ⟨behind, hBehind⟩
              refine List.IsPrefix.isInfix
                ⟨behind ++ source tail, ?_⟩
              show _ = p ++ source (kept run ++ tail)
              rw [source_append, source_kept, ← hBehind]
              simp only [List.append_assoc]
            · have hSecret' : p' ∈ secrets := hStruck p' (by
                rw [hp']
                exact List.mem_cons_of_mem _
                  (List.mem_append_right _ List.mem_cons_self))
              rw [hEq'] at hEq
              refine hFree.between p hSecret p' hSecret' u run t
                (hEq ▸ hq) hu hSuffix ht ?_
              refine List.IsPrefix.isInfix ⟨source rest', ?_⟩
              show _ = p ++ source (kept run ++ tail)
              rw [source_append, source_kept, hp']
              simp only [List.append_assoc]
              rfl

--------
-- Masking All Secrets
--------

open TextLines

variable {placeholder : List Char}

/- Striking is replacing, as long as no edge is straddled. -/
theorem shown_strike
    {p : List Char}
    (hp : p ≠ [])
    {marks : List Mark}
    (hEdges : Unstraddled placeholder p marks) :
    shown placeholder (strike p marks) =
      replace p placeholder (shown placeholder marks) := by
  induction marks using strike_induction hp with
  | nil => rfl
  | struck marks ih =>
      have hDrop : ∀ run : List Char,
          Unstraddled placeholder p (kept run ++ marks) →
            Unstraddled placeholder p marks := by
        intro run hRun
        induction run with
        | nil => exact hRun
        | cons c run ihRun => exact ihRun hRun.2
      rw [strike_append hp, shown_append, shown_kept,
        replace_append hp, ← ih (hDrop p hEdges)]
      rfl
  | left m marks hNot ih =>
      rw [strike_cons hNot]
      cases m with
      | kept c =>
          have hHere : ¬p <+: c :: shown placeholder marks :=
            fun hPrefix => hNot (hEdges.1 hPrefix)
          show c :: shown placeholder (strike p marks) =
            replace p placeholder (c :: shown placeholder marks)
          rw [replace_cons hHere, ih hEdges.2]
      | struck q =>
          show placeholder ++ shown placeholder (strike p marks) =
            replace p placeholder
              (placeholder ++ shown placeholder marks)
          rw [replace_passes hEdges.1, ih hEdges.2]

/- What is shown holds no secret but what is kept. -/
theorem not_infix_shown
    {p : List Char}
    (hp : p ≠ [])
    {marks : List Mark}
    (hEdges : Unstraddled placeholder p marks)
    (hKept : ¬kept p <:+: marks) :
    ¬p <:+: shown placeholder marks := by
  induction marks with
  | nil =>
      intro hInfix
      exact hp (List.infix_nil.mp hInfix)
  | cons m marks ih =>
      have hRest : ¬kept p <:+: marks := fun hInfix =>
        hKept (hInfix.trans (List.suffix_cons _ _).isInfix)
      cases m with
      | kept c =>
          intro hInfix
          rcases List.infix_cons_iff.mp hInfix with hHere | hLater
          · exact hKept (hEdges.1 hHere).isInfix
          · exact ih hEdges.2 hRest hLater
      | struck q =>
          have hPassed : ∀ t, t <:+ placeholder →
              ¬p <:+: t ++ shown placeholder marks := by
            intro t
            induction t with
            | nil =>
                intro _ hInfix
                exact ih hEdges.2 hRest hInfix
            | cons c t ihT =>
                intro hSuffix hInfix
                rcases List.infix_cons_iff.mp hInfix with
                  hHere | hLater
                · exact hEdges.1 _ (List.cons_ne_nil _ _)
                    hSuffix hHere
                · exact ihT ((List.suffix_cons c t).trans hSuffix)
                    hLater
          exact hPassed placeholder (List.suffix_refl _)

/-
  Striking secret by secret: what is shown is what masking
  makes of the text, and none of the secrets is kept.
-/
theorem strike_all
    {secrets : List (List Char)}
    {text : List Char}
    (hSome : ∀ p ∈ secrets, p ≠ [])
    (hOut : ∀ p ∈ secrets, ¬p <:+: placeholder)
    (hFree : EdgeFree placeholder secrets text)
    {ps : List (List Char)}
    (hps : ∀ p ∈ ps, p ∈ secrets)
    {marks : List Mark}
    (hSource : source marks = text)
    (hStruck : ∀ p, .struck p ∈ marks → p ∈ secrets) :
    ∃ marks' : List Mark,
      source marks' = text ∧
      (∀ p, .struck p ∈ marks' → p ∈ secrets) ∧
      shown placeholder marks' =
        maskAll placeholder ps (shown placeholder marks) ∧
      (∀ q, ¬kept q <:+: marks → ¬kept q <:+: marks') ∧
      ∀ q ∈ ps, ¬kept q <:+: marks' := by
  induction ps generalizing marks with
  | nil =>
      exact ⟨marks, hSource, hStruck, rfl, fun _ hNot => hNot,
        fun q hMem => absurd hMem List.not_mem_nil⟩
  | cons p ps ih =>
      have hIn := hps p List.mem_cons_self
      have hp := hSome p hIn
      have hEdges := unstraddled_of_edgeFree hOut hIn hStruck
        (hSource ▸ hFree)
      rcases ih (fun q hMem => hps q (List.mem_cons_of_mem _ hMem))
        ((source_strike hp marks).trans hSource)
        (fun q hMem => by
          rcases struck_of_mem_strike hp hMem with hSame | hOld
          · exact hSame ▸ hIn
          · exact hStruck q hOld) with
        ⟨marks', hSource', hStruck', hShown, hKept, hGone⟩
      refine ⟨marks', hSource', hStruck', ?_, ?_, ?_⟩
      · rw [hShown, shown_strike hp hEdges]
        rfl
      · intro q hNot
        exact hKept q (fun hInfix =>
          hNot (kept_infix_of_strike hp hInfix))
      · intro q hMem
        rcases List.mem_cons.mp hMem with hSame | hLater
        · rw [hSame]
          exact hKept p (not_kept_strike hp marks)
        · exact hGone q hLater

/- A masked text holds no secret, in whichever order. -/
theorem maskAll_no_secret
    {secrets : List (List Char)}
    {text : List Char}
    (hSome : ∀ p ∈ secrets, p ≠ [])
    (hOut : ∀ p ∈ secrets, ¬p <:+: placeholder)
    (hFree : EdgeFree placeholder secrets text) :
    ∀ q ∈ secrets, ¬q <:+: maskAll placeholder secrets text := by
  rcases strike_all hSome hOut hFree (fun p hp => hp)
    (source_kept text) (fun p hMem => by
      rcases List.mem_map.mp hMem with ⟨c, _, hBad⟩
      cases hBad) with
    ⟨marks, hSource, hStruck, hShown, _, hGone⟩
  rw [shown_kept] at hShown
  intro q hq
  rw [← hShown]
  exact not_infix_shown (hSome q hq)
    (unstraddled_of_edgeFree hOut hq hStruck (hSource ▸ hFree))
    (hGone q hq)

end Masking
