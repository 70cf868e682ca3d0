import Mathlib.Data.List.Chain
import Mathlib.Data.List.Nodup
import TrueNorth.Lib.Histories

/-
  Records that replace one another: each belongs to a series,
  and each but the first of a series names the record it
  replaces, which nothing has replaced before.

  A log that grows by such records keeps one line for each
  series, with one current record at its end.

  Main declarations:
    * `Successions.Reading`
    * `Successions.Reading.Follows`
    * `Successions.Reading.linked_of_lawful`
    * `Successions.Reading.current_of_lawful`
-/

--------
-- Records
--------

namespace Successions

/- What is read of a record. -/
structure Reading (E I K A : Type) where
  ident : E → I
  replaces : E → Option I
  series : E → K
  -- what no record of a series may change
  traits : E → A

namespace Reading

variable {E I K A : Type}
variable [DecidableEq K]

/- A record that may come next. -/
structure Follows
    (R : Reading E I K A)
    (log : List E)
    (e : E) : Prop where
  fresh : ∀ a ∈ log, R.ident a ≠ R.ident e
  first : R.replaces e = none →
    ∀ a ∈ log, R.series a ≠ R.series e
  next : ∀ i, R.replaces e = some i →
    ∃ a ∈ log, R.ident a = i ∧ R.series a = R.series e ∧
      R.traits a = R.traits e ∧
        ∀ b ∈ log, R.replaces b ≠ some i

/- The records of a series, in the order they came. -/
def group
    (R : Reading E I K A)
    (log : List E)
    (k : K) : List E :=
  log.filter (fun e => R.series e = k)

/- Each record replaces the one before it; the first none. -/
structure Linked
    (R : Reading E I K A)
    (es : List E) : Prop where
  first : ∀ e, es.head? = some e → R.replaces e = none
  next : es.IsChain (fun a b => R.replaces b = some (R.ident a))

/- Nothing has replaced the record. -/
def Current
    (R : Reading E I K A)
    (log : List E)
    (e : E) : Prop :=
  ∀ b ∈ log, R.replaces b ≠ some (R.ident e)

variable {R : Reading E I K A}
variable {log : List E}

theorem mem_group
    {k : K}
    {e : E} :
    e ∈ R.group log k ↔ e ∈ log ∧ R.series e = k := by
  unfold group
  rw [List.mem_filter, decide_eq_true_eq]

theorem group_append_same
    {k : K}
    {e : E}
    (hSeries : R.series e = k) :
    R.group (log ++ [e]) k = R.group log k ++ [e] := by
  unfold group
  rw [List.filter_append]
  simp [hSeries]

theorem group_append_other
    {k : K}
    {e : E}
    (hSeries : R.series e ≠ k) :
    R.group (log ++ [e]) k = R.group log k := by
  unfold group
  rw [List.filter_append]
  simp [hSeries]

--------
-- Lines
--------

variable {E I K A : Type}
variable [DecidableEq K]
variable {R : Reading E I K A}
variable {log : List E}

omit [DecidableEq K] in
theorem ident_inj_of_lawful
    (hLawful : Histories.Lawful R.Follows log)
    {a b : E}
    (ha : a ∈ log)
    (hb : b ∈ log)
    (hSame : R.ident a = R.ident b) :
    a = b := by
  induction hLawful generalizing a b with
  | nil => cases ha
  | @snoc log e _ hFollows ih =>
      rw [List.mem_append, List.mem_singleton] at ha hb
      rcases ha with ha | rfl
      · rcases hb with hb | rfl
        · exact ih ha hb hSame
        · exact absurd hSame (hFollows.fresh a ha)
      · rcases hb with hb | rfl
        · exact absurd hSame.symm (hFollows.fresh b hb)
        · rfl

omit [DecidableEq K] in
/- Records of a series agree in what none may change. -/
theorem traits_of_lawful
    (hLawful : Histories.Lawful R.Follows log)
    {a b : E}
    (ha : a ∈ log)
    (hb : b ∈ log)
    (hSame : R.series a = R.series b) :
    R.traits a = R.traits b := by
  induction hLawful generalizing a b with
  | nil => cases ha
  | @snoc log e _ hFollows ih =>
      -- the new record agrees with every old one of its series
      have hNew : ∀ c ∈ log, R.series c = R.series e →
          R.traits c = R.traits e := by
        intro c hc hSeries
        cases hPrev : R.replaces e with
        | none => exact absurd hSeries (hFollows.first hPrev c hc)
        | some i =>
            rcases hFollows.next i hPrev with
              ⟨p, hp, _, hSeries', hTraits, _⟩
            rw [← hTraits]
            exact ih hc hp (hSeries.trans hSeries'.symm)
      rw [List.mem_append, List.mem_singleton] at ha hb
      rcases ha with ha | rfl
      · rcases hb with hb | rfl
        · exact ih ha hb hSame
        · exact hNew a ha hSame
      · rcases hb with hb | rfl
        · exact (hNew b hb hSame.symm).symm
        · rfl

omit [DecidableEq K] in
/- What a record replaces is there, in the same series. -/
theorem replaced_of_lawful
    (hLawful : Histories.Lawful R.Follows log)
    {b : E}
    (hb : b ∈ log)
    {i : I}
    (hReplaces : R.replaces b = some i) :
    ∃ a ∈ log, R.ident a = i ∧ R.series a = R.series b := by
  induction hLawful generalizing b with
  | nil => cases hb
  | @snoc log e _ hFollows ih =>
      rw [List.mem_append, List.mem_singleton] at hb
      rcases hb with hb | rfl
      · rcases ih hb hReplaces with ⟨a, ha, hRest⟩
        exact ⟨a, List.mem_append_left _ ha, hRest⟩
      · rcases hFollows.next i hReplaces with
          ⟨a, ha, hIdent, hSeries, _⟩
        exact ⟨a, List.mem_append_left _ ha, hIdent, hSeries⟩

omit [DecidableEq K] in
/- A record of a line that nothing replaced is its last. -/
theorem Linked.eq_concat
    {es : List E}
    (hLinked : R.Linked es)
    {a : E}
    (ha : a ∈ es)
    (hCurrent : R.Current es a) :
    ∃ init, es = init ++ [a] := by
  rcases List.append_of_mem ha with ⟨init, rest, rfl⟩
  cases rest with
  | nil => exact ⟨init, rfl⟩
  | cons b rest =>
      have hNext := hLinked.next
      rw [List.isChain_append_cons_cons] at hNext
      refine absurd hNext.2.1 (hCurrent b ?_)
      simp

/- Every series is one line. -/
theorem linked_of_lawful
    (hLawful : Histories.Lawful R.Follows log)
    (k : K) :
    R.Linked (R.group log k) := by
  induction hLawful with
  | nil =>
      constructor
      · intro e hHead
        cases hHead
      · exact List.isChain_nil
  | @snoc log e hLog hFollows ih =>
      by_cases hSeries : R.series e = k
      · rw [group_append_same hSeries]
        cases hPrev : R.replaces e with
        | none =>
            have hEmpty : R.group log k = [] := by
              rw [List.eq_nil_iff_forall_not_mem]
              intro a ha
              rcases mem_group.mp ha with ⟨ha, hSame⟩
              exact hFollows.first hPrev a ha
                (hSame.trans hSeries.symm)
            rw [hEmpty]
            constructor
            · intro e' hHead
              cases hHead
              exact hPrev
            · exact List.isChain_singleton e
        | some i =>
            rcases hFollows.next i hPrev with
              ⟨a, ha, rfl, hSeries', _, hLast⟩
            have hMem : a ∈ R.group log k :=
              mem_group.mpr ⟨ha, hSeries'.trans hSeries⟩
            have hCurrent : R.Current (R.group log k) a :=
              fun b hb => hLast b (mem_group.mp hb).1
            rcases ih.eq_concat hMem hCurrent with
              ⟨init, hGroup⟩
            rw [hGroup] at ih ⊢
            constructor
            · intro e' hHead
              apply ih.first
              rw [List.append_assoc] at hHead
              cases init with
              | nil => exact hHead
              | cons c init => exact hHead
            · rw [List.append_assoc]
              exact List.isChain_append_cons_cons.mpr
                ⟨ih.next, hPrev, List.isChain_singleton e⟩
      · rw [group_append_other hSeries]
        exact ih

/- The last record of a line is current. -/
theorem current_last
    (hLawful : Histories.Lawful R.Follows log)
    {k : K}
    {init : List E}
    {last : E}
    (hGroup : R.group log k = init ++ [last]) :
    R.Current log last := by
  induction hLawful generalizing init with
  | nil => simp [group] at hGroup
  | @snoc log e hLog hFollows ih =>
      by_cases hSeries : R.series e = k
      · rw [group_append_same hSeries] at hGroup
        have hLast := (List.append_inj' hGroup rfl).2
        rw [List.singleton_inj] at hLast
        rw [← hLast]
        intro b hb hReplaces
        rw [List.mem_append, List.mem_singleton] at hb
        rcases hb with hb | hb
        · rcases replaced_of_lawful hLog hb hReplaces with
            ⟨a, ha, hIdent, _⟩
          exact hFollows.fresh a ha hIdent
        · rw [hb] at hReplaces
          rcases hFollows.next _ hReplaces with
            ⟨a, ha, hIdent, _⟩
          exact hFollows.fresh a ha hIdent
      · rw [group_append_other hSeries] at hGroup
        have hMem : last ∈ R.group log k := by
          rw [hGroup]
          simp
        rcases mem_group.mp hMem with ⟨hLast, hSame⟩
        intro b hb hReplaces
        rw [List.mem_append, List.mem_singleton] at hb
        rcases hb with hb | hb
        · exact ih hGroup b hb hReplaces
        · -- what the new record replaces is of its own series
          rw [hb] at hReplaces
          rcases hFollows.next _ hReplaces with
            ⟨a, ha, hIdent, hSeries', _⟩
          have hEq := ident_inj_of_lawful hLog ha hLast hIdent
          apply hSeries
          rw [← hSeries', hEq, hSame]

/- A series has exactly one current record. -/
theorem current_of_lawful
    (hLawful : Histories.Lawful R.Follows log)
    {k : K}
    (hSome : R.group log k ≠ []) :
    ∃ e, (e ∈ R.group log k ∧ R.Current log e) ∧
      ∀ e', e' ∈ R.group log k ∧ R.Current log e' → e' = e := by
  rcases List.eq_nil_or_concat (R.group log k) with
    hNil | ⟨init, last, hGroup⟩
  · exact absurd hNil hSome
  · rw [List.concat_eq_append] at hGroup
    have hMem : last ∈ R.group log k := by
      rw [hGroup]
      simp
    refine ⟨last, ⟨hMem, current_last hLawful hGroup⟩, ?_⟩
    rintro e' ⟨hMem', hCurrent⟩
    have hLine := linked_of_lawful hLawful k
    rcases hLine.eq_concat hMem'
        (fun b hb => hCurrent b (mem_group.mp hb).1) with
      ⟨init', hGroup'⟩
    rw [hGroup] at hGroup'
    have hLast := (List.append_inj' hGroup' rfl).2
    exact (List.singleton_inj.mp hLast).symm

end Reading

end Successions
