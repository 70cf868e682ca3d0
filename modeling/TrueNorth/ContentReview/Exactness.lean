import TrueNorth.ContentReview.Consistent
import TrueNorth.Lib.Runs

/-
  Staleness propagation is exact over every run: pushing
  and removing one origin at a time gives what a rebuild
  from the items' own flags gives.

  Key definitions include:
    * `Graph.CarriesFlag`
    * `Graph.StartedAt`

  Main theorems:
    * `consistent_step`
    * `staleness_exact`
-/

--------
-- The Calls
--------

namespace TrueNorth

namespace ContentReview

namespace Graph

theorem filter_replace_of_neg
    {p : Reason → Bool}
    {a b : Reason}
    (hA : ¬ p a = true)
    (hB : ¬ p b = true)
    (rs : List Reason) :
    (rs.replace a b).filter p = rs.filter p := by
  induction rs with
  | nil => rfl
  | cons r rs ih =>
      by_cases hSame : r = a
      · rw [hSame, List.replace_cons_self,
          List.filter_cons_of_neg hA,
          List.filter_cons_of_neg hB]
      · have hBeq : (a == r) = false :=
          beq_false_of_ne (Ne.symm hSame)
        rw [List.replace_cons, hBeq]
        simp only [List.filter_cons, ih]

theorem mem_or_eq_of_mem_replace
    {a b r : Reason}
    {rs : List Reason}
    (hMem : r ∈ rs.replace a b) :
    r ∈ rs ∨ r = b := by
  induction rs with
  | nil => cases hMem
  | cons r' rs ih =>
      by_cases hSame : r' = a
      · rw [hSame, List.replace_cons_self,
          List.mem_cons] at hMem
        rcases hMem with hNew | hOld
        · exact .inr hNew
        · exact .inl (List.mem_cons_of_mem _ hOld)
      · have hBeq : (a == r') = false :=
          beq_false_of_ne (Ne.symm hSame)
        rw [List.replace_cons, hBeq] at hMem
        rcases List.mem_cons.mp hMem with rfl | hRest
        · exact .inl List.mem_cons_self
        · rcases ih hRest with hOld | hNew
          · exact .inl (List.mem_cons_of_mem _ hOld)
          · exact .inr hNew

/- Only the clock's own reason may change. -/
theorem setOverdue_spec
    (g : Graph)
    (item : Key)
    (text : Option String)
    (when' : String) :
    ∃ mine, (g.setOverdue item text when').2 =
        g.put item mine ∧
      (∀ r ∈ mine, r ∈ g.reasonsOf item ∨ r.origin = item) ∧
      ∀ p : Reason → Bool,
        (∀ r, r.kind = kindTime → ¬ p r = true) →
          mine.filter p = (g.reasonsOf item).filter p := by
  unfold setOverdue
  cases hFind : (g.reasonsOf item).find? (fun r =>
      r.origin = item ∧ r.kind = kindTime) with
  | none =>
      cases text with
      | none =>
          refine ⟨g.reasonsOf item, ?_, ?_, ?_⟩
          · simp only [hFind]
          · intro r hMem
            exact .inl hMem
          · intro p _
            rfl
      | some text =>
          refine ⟨g.reasonsOf item ++
            [{ origin := item
               kind := kindTime
               text := text
               source := some timeSource
               at' := some when' }], ?_, ?_, ?_⟩
          · simp only [hFind]
          · intro r hMem
            rw [List.mem_append, List.mem_singleton] at hMem
            rcases hMem with hOld | rfl
            · exact .inl hOld
            · exact .inr rfl
          · intro p hClock
            rw [List.filter_append]
            have hNew := hClock
              { origin := item
                kind := kindTime
                text := text
                source := some timeSource
                at' := some when' } rfl
            rw [List.filter_cons_of_neg hNew]
            exact List.append_nil _
  | some current =>
      have hCurrent :
          current.origin = item ∧ current.kind = kindTime := by
        simpa using List.find?_some hFind
      cases text with
      | none =>
          refine ⟨(g.reasonsOf item).erase current, ?_, ?_, ?_⟩
          · simp only [hFind]
          · intro r hMem
            exact .inl (List.mem_of_mem_erase hMem)
          · intro p hClock
            rw [← List.erase_filter]
            apply List.erase_of_not_mem
            intro hMem
            exact hClock current hCurrent.2
              (List.mem_filter.mp hMem).2
      | some text =>
          by_cases hText : current.text = text
          · refine ⟨g.reasonsOf item, ?_, ?_, ?_⟩
            · simp only [hFind, hText, if_true]
            · intro r hMem
              exact .inl hMem
            · intro p _
              rfl
          · refine ⟨(g.reasonsOf item).replace current
              { current with text := text }, ?_, ?_, ?_⟩
            · simp only [hFind, hText, if_false]
            · intro r hMem
              rcases mem_or_eq_of_mem_replace hMem with
                hOld | rfl
              · exact .inl hOld
              · exact .inr hCurrent.1
            · intro p hClock
              exact filter_replace_of_neg
                (hClock current hCurrent.2)
                (hClock { current with text := text }
                  hCurrent.2) _

theorem consistent_setOverdue
    {g : Graph}
    (hConsistent : g.Consistent)
    (item : Key)
    (text : Option String)
    (when' : String) :
    (g.setOverdue item text when').2.Consistent := by
  rcases g.setOverdue_spec item text when' with
    ⟨mine, hPut, hMine, hFilter⟩
  rw [hPut]
  apply hConsistent.put hMine
  · intro o
    apply hFilter
    intro r hKind
    rw [decide_eq_true_eq, hKind]
    intro hBoth
    revert hBoth
    simp [kindTime, kindUpstream]
  · refine .inl ?_
    rw [put_flags_self]
    apply hFilter
    intro r hKind
    rw [decide_eq_true_eq, hKind]
    intro hBoth
    revert hBoth
    simp [kindTime, flagKinds, kindRelease, kindVulnerability]

/- A flag that is accepted stands at its item. -/
theorem flagStale_spec
    {g : Graph}
    {item : Key}
    {reason source kind when' : String}
    {result : Finset Key × Graph}
    (hFlag : g.flagStale item reason source kind when' =
      .ok result) :
    kind ∈ flagKinds ∧
      ∃ mine,
        (∃ r ∈ mine, r.origin = item ∧ r.kind = kind) ∧
        (∀ r ∈ mine,
          r ∈ g.reasonsOf item ∨ r.origin = item) ∧
        (∀ o, mine.filter (fun r =>
            r.kind = kindUpstream ∧ r.origin = o) =
          g.inherited item o) ∧
        (item ∈ g.retired → result.2 = g.put item mine) ∧
        (item ∉ g.retired →
          result.2 =
            ((g.put item mine).push item when'
              Dict.empty).2) := by
  unfold flagStale at hFlag
  by_cases hKind : kind ∈ flagKinds
  · rw [if_neg (not_not.mpr hKind)] at hFlag
    refine ⟨hKind, ?_⟩
    by_cases hRaised :
        (g.reasonsOf item).any (fun r =>
          r.origin = item ∧ r.kind = kind ∧
            r.source = some source) = true
    · refine ⟨g.reasonsOf item, ?_, ?_, ?_, ?_, ?_⟩
      · rcases List.any_eq_true.mp hRaised with
          ⟨r, hMem, hSame⟩
        rcases of_decide_eq_true hSame with
          ⟨hOrigin, hSameKind, _⟩
        exact ⟨r, hMem, hOrigin, hSameKind⟩
      · intro r hMem
        exact .inl hMem
      · intro o
        rfl
      · intro hRetired
        simp only [hRaised, if_true, if_pos hRetired,
          Except.ok.injEq] at hFlag
        rw [← hFlag]
      · intro hActive
        simp only [hRaised, if_true, if_neg hActive,
          Except.ok.injEq] at hFlag
        rw [← hFlag]
    · refine ⟨g.reasonsOf item ++
        [{ origin := item
           kind := kind
           text := reason
           source := some source
           at' := some when' }], ?_, ?_, ?_, ?_, ?_⟩
      · exact ⟨_, List.mem_append_right _
          List.mem_cons_self, rfl, rfl⟩
      · intro r hMem
        rw [List.mem_append, List.mem_singleton] at hMem
        rcases hMem with hOld | rfl
        · exact .inl hOld
        · exact .inr rfl
      · intro o
        have hNew :
            ¬ (kind = kindUpstream ∧ item = o) := by
          intro hBoth
          exact ne_upstream_of_flag hKind hBoth.1
        rw [List.filter_append, List.filter_cons,
          if_neg (by rw [decide_eq_true_eq]; exact hNew)]
        exact List.append_nil _
      · intro hRetired
        simp only [hRaised, if_pos hRetired,
          Except.ok.injEq] at hFlag
        rw [← hFlag]
        rfl
      · intro hActive
        simp only [hRaised, if_neg hActive,
          Except.ok.injEq] at hFlag
        rw [← hFlag]
        rfl
  · rw [if_pos hKind] at hFlag
    cases hFlag

theorem consistent_flagStale
    {g : Graph}
    (hConsistent : g.Consistent)
    {item : Key}
    {reason source kind when' : String}
    {result : Finset Key × Graph}
    (hFlag : g.flagStale item reason source kind when' =
      .ok result) :
    result.2.Consistent := by
  rcases flagStale_spec hFlag with
    ⟨hKind, mine, ⟨r, hMem, hOrigin, hSame⟩, hMine,
      hInherited, hRetired, hActive⟩
  by_cases hItem : item ∈ g.retired
  · rw [hRetired hItem]
    exact hConsistent.put hMine hInherited (.inr hItem)
  · rw [hActive hItem]
    apply hConsistent.push (g.sameEdges_put item mine)
    · exact hConsistent.owned.put hMine
    · exact put_inherited hInherited
    · intro o hNe
      rw [g.put_flags_of_ne hNe]
    · rw [put_flags_self]
      apply List.ne_nil_of_mem
      refine List.mem_filter.mpr ⟨hMem, ?_⟩
      rw [hSame]
      exact decide_eq_true ⟨hOrigin, hKind⟩
    · exact hItem

theorem markReviewed_reasonsOf
    (g : Graph)
    (item k : Key) :
    (g.markReviewed item).2.reasonsOf k =
      (g.reasonsOf k).filter (fun r => r.origin ≠ item) := by
  have hKept :
      ∀ mine : List Reason,
        (if (mine.filter (fun r => r.origin ≠ item)).length ≠
            mine.length then
          mine.filter (fun r => r.origin ≠ item)
        else mine) =
          mine.filter (fun r => r.origin ≠ item) := by
    intro mine
    by_cases hLength :
        (mine.filter (fun r => r.origin ≠ item)).length =
          mine.length
    · rw [if_neg (not_not.mpr hLength)]
      exact (List.filter_sublist.eq_of_length hLength).symm
    · rw [if_pos hLength]
  unfold markReviewed
  simp only [hKept]
  exact g.reasonsOf_mapValues rfl k

theorem consistent_markReviewed
    {g : Graph}
    (hConsistent : g.Consistent)
    (item : Key) :
    (g.markReviewed item).2.Consistent := by
  have hEdges : SameEdges g (g.markReviewed item).2 :=
    ⟨rfl, rfl, rfl⟩
  have hInherited :
      ∀ k o, (g.markReviewed item).2.inherited k o =
        if o = item then [] else g.inherited k o := by
    intro k o
    rw [inherited, markReviewed_reasonsOf, List.filter_filter]
    by_cases hItem : o = item
    · rw [if_pos hItem]
      apply List.filter_eq_nil_iff.mpr
      intro r _ hBoth
      rw [Bool.and_eq_true, decide_eq_true_eq,
        decide_eq_true_eq] at hBoth
      exact hBoth.2 (hBoth.1.2.trans hItem)
    · rw [if_neg hItem]
      apply List.filter_congr
      intro r _
      by_cases hOrigin : r.origin = o
      · simp [hOrigin, hItem]
      · simp [hOrigin]
  have hFlags :
      ∀ o, (g.markReviewed item).2.flags o =
        if o = item then [] else g.flags o := by
    intro o
    rw [flags, markReviewed_reasonsOf, List.filter_filter]
    by_cases hItem : o = item
    · rw [if_pos hItem]
      apply List.filter_eq_nil_iff.mpr
      intro r _ hBoth
      rw [Bool.and_eq_true, decide_eq_true_eq,
        decide_eq_true_eq] at hBoth
      exact hBoth.2 (hBoth.1.1.trans hItem)
    · rw [if_neg hItem]
      apply List.filter_congr
      intro r _
      by_cases hOrigin : r.origin = o
      · simp [hOrigin, hItem]
      · simp [hOrigin]
  have hDue :
      ∀ k o, o ≠ item →
        ((g.markReviewed item).2.Due k o ↔ g.Due k o) := by
    intro k o hNe
    apply hEdges.due
    rw [hFlags, if_neg hNe]
  refine ⟨?_, ?_, ?_⟩
  · intro k r hMem hKind
    rw [markReviewed_reasonsOf] at hMem
    exact hConsistent.owned k r (List.mem_filter.mp hMem).1
      hKind
  · intro k o hNew
    by_cases hItem : o = item
    · have hNone := hNew.2.2.2
      rw [hFlags, if_pos hItem] at hNone
      exact absurd rfl hNone
    · rcases hConsistent.inherits k o
        ((hDue k o hItem).mp hNew) with
        ⟨path, firstSeen, hMem, hOne⟩
      refine ⟨path, firstSeen, ?_, ?_⟩
      · rw [hEdges.dependents]
        exact hMem
      · rw [hInherited, if_neg hItem, hEdges.pushed]
        exact hOne
  · intro k o hNot
    rw [hInherited]
    by_cases hItem : o = item
    · rw [if_pos hItem]
    · rw [if_neg hItem]
      apply hConsistent.clean
      rw [← hDue k o hItem]
      exact hNot

end Graph

theorem sameEdges_step
    {g : Graph}
    (hConsistent : g.Consistent)
    (call : Call) :
    Graph.SameEdges g (step g call) := by
  cases call with
  | flagStale item reason source kind when' =>
      cases hFlag :
          g.flagStale item reason source kind when' with
      | error message =>
          simp only [step, hFlag]
          exact Graph.SameEdges.refl g
      | ok result =>
          simp only [step, hFlag]
          rcases Graph.flagStale_spec hFlag with
            ⟨_, mine, _, _, _, hRetired, hActive⟩
          by_cases hItem : item ∈ g.retired
          · rw [hRetired hItem]
            exact g.sameEdges_put item mine
          · rw [hActive hItem]
            exact (g.sameEdges_put item mine).trans
              (Graph.sameEdges_push _)
  | setOverdue item text when' =>
      rcases g.setOverdue_spec item text when' with
        ⟨mine, hPut, _⟩
      simp only [step, hPut]
      exact g.sameEdges_put item mine
  | markReviewed item => exact ⟨rfl, rfl, rfl⟩
  | repropagate when' =>
      exact (Graph.rebuilt_reasonsOf hConsistent.owned when').1

theorem consistent_step
    {g : Graph}
    (hConsistent : g.Consistent)
    (call : Call) :
    (step g call).Consistent := by
  cases call with
  | flagStale item reason source kind when' =>
      cases hFlag :
          g.flagStale item reason source kind when' with
      | error message =>
          simp only [step, hFlag]
          exact hConsistent
      | ok result =>
          simp only [step, hFlag]
          exact Graph.consistent_flagStale hConsistent hFlag
  | setOverdue item text when' =>
      exact Graph.consistent_setOverdue hConsistent
        item text when'
  | markReviewed item =>
      exact Graph.consistent_markReviewed hConsistent item
  | repropagate when' =>
      exact Graph.consistent_rebuilt hConsistent.owned when'

end ContentReview

end TrueNorth

--------
-- What a Review Removes
--------

namespace TrueNorth

namespace ContentReview

namespace Graph

/- The item's own reasons, and those it pushed. -/
def StartedAt
    (item k : Key)
    (r : Reason) : Prop :=
  (k = item ∧ r.kind ≠ kindUpstream) ∨
    (k ≠ item ∧ r.kind = kindUpstream ∧ r.origin = item)

instance decidableStartedAt
    (item k : Key)
    (r : Reason) :
    Decidable (StartedAt item k r) :=
  inferInstanceAs (Decidable (_ ∨ _))

theorem Consistent.startedAt_iff
    {g : Graph}
    (hConsistent : g.Consistent)
    {item k : Key}
    {r : Reason}
    (hMem : r ∈ g.reasonsOf k) :
    StartedAt item k r ↔ r.origin = item := by
  constructor
  · rintro (⟨hk, hKind⟩ | ⟨_, _, hOrigin⟩)
    · rw [← hk]
      exact hConsistent.owned k r hMem hKind
    · exact hOrigin
  · intro hOrigin
    by_cases hKind : r.kind = kindUpstream
    · refine .inr ⟨?_, hKind, hOrigin⟩
      -- no item inherits from itself
      intro hSelf
      have hClean : g.inherited k item = [] := by
        apply hConsistent.clean
        intro hDue
        exact hDue.1 hSelf
      have hInherited : r ∈ g.inherited k item :=
        mem_inherited.mpr ⟨hMem, hKind, hOrigin⟩
      rw [hClean] at hInherited
      cases hInherited
    · refine .inl ⟨?_, hKind⟩
      exact (hConsistent.owned k r hMem hKind).symm.trans
        hOrigin

theorem Consistent.markReviewed_reasonsOf
    {g : Graph}
    (hConsistent : g.Consistent)
    (item k : Key) :
    (g.markReviewed item).2.reasonsOf k =
      (g.reasonsOf k).filter (fun r =>
        ¬ StartedAt item k r) := by
  rw [Graph.markReviewed_reasonsOf]
  apply List.filter_congr
  intro r hMem
  rw [decide_eq_decide, hConsistent.startedAt_iff hMem]

theorem Consistent.mem_markReviewed
    {g : Graph}
    (hConsistent : g.Consistent)
    (item k : Key) :
    k ∈ (g.markReviewed item).1 ↔
      ∃ r ∈ g.reasonsOf k, StartedAt item k r := by
  unfold markReviewed
  rw [List.mem_toFinset, List.mem_filter, decide_eq_true_eq,
    ne_eq, List.length_filter_eq_length_iff]
  constructor
  · rintro ⟨_, hSome⟩
    by_contra hNone
    apply hSome
    intro r hMem
    rw [decide_eq_true_eq]
    intro hOrigin
    exact hNone ⟨r, hMem,
      (hConsistent.startedAt_iff hMem).mpr hOrigin⟩
  · rintro ⟨r, hMem, hStarted⟩
    constructor
    · rcases mem_reasonsOf_iff.mp hMem with ⟨mine, hEntry, _⟩
      exact List.mem_map.mpr ⟨_, hEntry, rfl⟩
    · intro hAll
      exact of_decide_eq_true (hAll r hMem)
        ((hConsistent.startedAt_iff hMem).mp hStarted)

--------
-- What a Rebuild Changes
--------

/- The times that survive a rebuild are the ones there are. -/
theorem previous_eq
    {g : Graph}
    {k o : Key}
    {r : Reason}
    {firstSeen : String}
    (hOne : g.inherited k o = [r])
    (hSeen : r.at' = some firstSeen)
    (when' : String) :
    (g.previous when').get? (k, o) = some firstSeen := by
  have hMem : r ∈ g.inherited k o := by
    rw [hOne]
    exact List.mem_cons_self
  rcases mem_inherited.mp hMem with ⟨hReason, hKind, hOrigin⟩
  rcases mem_reasonsOf_iff.mp hReason with
    ⟨mine, hEntry, hMine⟩
  have hKey : (k, o) ∈ (g.previous when').keys := by
    refine Dict.mem_keys_ofPairs.mpr (List.mem_map.mpr
      ⟨((k, o), r.at'.getD when'), ?_, rfl⟩)
    refine List.mem_flatMap.mpr ⟨(k, mine), hEntry, ?_⟩
    refine List.mem_map.mpr ⟨r, ?_, ?_⟩
    · exact List.mem_filter.mpr ⟨hMine, decide_eq_true hKind⟩
    · rw [hOrigin]
  rcases Dict.mem_keys.mp hKey with ⟨seen, hGet⟩
  rw [hGet]
  have hPair := Dict.mem_of_get?_ofPairs hGet
  rcases List.mem_flatMap.mp hPair with
    ⟨⟨k', mine'⟩, hEntry', hSame⟩
  rcases List.mem_map.mp hSame with ⟨r', hFilter, hEq⟩
  rcases List.mem_filter.mp hFilter with ⟨hMine', hKind'⟩
  cases hEq
  have hOther : r' ∈ g.inherited k' r'.origin :=
    mem_inherited.mpr
      ⟨mem_reasonsOf_iff.mpr ⟨mine', hEntry', hMine'⟩,
        of_decide_eq_true hKind', rfl⟩
  rw [hOne, List.mem_singleton] at hOther
  rw [hOther, hSeen]
  rfl

theorem Consistent.rebuilt_inherited
    {g : Graph}
    (hConsistent : g.Consistent)
    (when' : String)
    (k o : Key) :
    (g.rebuilt when').inherited k o = g.inherited k o := by
  have hOrigins :
      o ∈ g.stripped.origins ↔
        g.flags o ≠ [] ∧ o ∉ g.retired :=
    mem_origins_stripped hConsistent.owned
  rw [Graph.rebuilt_inherited hConsistent.owned]
  by_cases hDue : g.Due k o
  · rcases hConsistent.inherits k o hDue with
      ⟨path, firstSeen, hMem, hOne⟩
    have hPath : (g.paths o).get? k = some path :=
      Dict.get?_eq_some_iff.mpr hMem
    have hOrigin : o ∈ g.stripped.origins :=
      hOrigins.mpr ⟨hDue.2.2.2, hDue.2.2.1⟩
    rw [if_pos hOrigin, hOne, coming, hPath,
      previous_eq hOne rfl]
    rfl
  · rw [hConsistent.clean k o hDue]
    by_cases hOrigin : o ∈ g.stripped.origins
    · rw [if_pos hOrigin, coming]
      cases hPath : (g.paths o).get? k with
      | none => rfl
      | some path =>
          rcases exists_path_iff.mp ⟨path, hPath⟩ with
            ⟨hNe, hReach⟩
          rcases hOrigins.mp hOrigin with ⟨hFlags, hActive⟩
          exact absurd ⟨hNe, hReach, hActive, hFlags⟩ hDue
    · rw [if_neg hOrigin]

theorem Consistent.nodup_upstream
    {g : Graph}
    (hConsistent : g.Consistent)
    (k : Key) :
    ((g.reasonsOf k).filter (fun r =>
      r.kind = kindUpstream)).Nodup := by
  apply List.nodup_iff_count_le_one.mpr
  intro r
  by_cases hKind : r.kind = kindUpstream
  · have hCount :
        ((g.reasonsOf k).filter (fun r =>
            r.kind = kindUpstream)).count r =
          (g.inherited k r.origin).count r := by
      unfold inherited
      rw [List.count_filter, List.count_filter]
      · exact decide_eq_true ⟨hKind, rfl⟩
      · exact decide_eq_true hKind
    rw [hCount]
    exact List.count_le_length.trans
      (hConsistent.length_inherited k r.origin).1
  · rw [List.count_eq_zero_of_not_mem]
    · exact Nat.zero_le 1
    · intro hMem
      exact hKind (of_decide_eq_true (List.mem_filter.mp hMem).2)

/- A rebuild of a consistent graph only reorders. -/
theorem Consistent.rebuilt_perm
    {g : Graph}
    (hConsistent : g.Consistent)
    (when' : String)
    (k : Key) :
    ((g.rebuilt when').reasonsOf k).Perm (g.reasonsOf k) := by
  have hRebuilt := consistent_rebuilt hConsistent.owned when'
  have hMem :
      ∀ g' : Graph, ∀ r,
        r ∈ (g'.reasonsOf k).filter (fun r =>
            r.kind = kindUpstream) ↔
          r ∈ g'.inherited k r.origin := by
    intro g' r
    rw [List.mem_filter, decide_eq_true_eq, mem_inherited]
    tauto
  have hUpstream :
      (((g.rebuilt when').reasonsOf k).filter (fun r =>
          r.kind = kindUpstream)).Perm
        ((g.reasonsOf k).filter (fun r =>
          r.kind = kindUpstream)) := by
    apply (List.perm_ext_iff_of_nodup
      (hRebuilt.nodup_upstream k)
      (hConsistent.nodup_upstream k)).mpr
    intro r
    rw [hMem, hMem, hConsistent.rebuilt_inherited]
  have hOwn :
      ((g.rebuilt when').reasonsOf k).filter (fun r =>
          ! decide (r.kind = kindUpstream)) =
        (g.reasonsOf k).filter (fun r =>
          ! decide (r.kind = kindUpstream)) := by
    rw [(rebuilt_reasonsOf hConsistent.owned when').2,
      List.filter_append, List.filter_filter]
    have hNone :
        (g.stripped.origins.filterMap
            (g.coming when' (g.previous when') k)).filter
          (fun r => ! decide (r.kind = kindUpstream)) = [] := by
      apply List.filter_eq_nil_iff.mpr
      intro r hNew
      rcases List.mem_filterMap.mp hNew with ⟨o, _, hComing⟩
      rcases coming_eq_some_iff.mp hComing with ⟨path, _, rfl⟩
      simp [pushed]
    rw [hNone, List.append_nil]
    apply List.filter_congr
    intro r _
    simp
  have hSplit := List.filter_append_perm
    (fun r : Reason => decide (r.kind = kindUpstream))
  have hBefore := hSplit ((g.rebuilt when').reasonsOf k)
  have hAfter := hSplit (g.reasonsOf k)
  rw [hOwn] at hBefore
  exact hBefore.symm.trans
    ((hUpstream.append_right _).trans hAfter)

theorem Consistent.repropagate_quiet
    {g : Graph}
    (hConsistent : g.Consistent)
    (when' : String) :
    (g.repropagate when').1 = ∅ := by
  apply Finset.eq_empty_of_forall_notMem
  intro k hMem
  unfold repropagate at hMem
  rw [List.mem_toFinset, List.mem_filter,
    decide_eq_true_eq] at hMem
  exact hMem.2
    (norm_eq_of_perm (hConsistent.rebuilt_perm when' k).symm)

end Graph

end ContentReview

end TrueNorth

--------
-- Exactness
--------

namespace TrueNorth

namespace ContentReview

/- A release or vulnerability flag of the item's own. -/
def Graph.CarriesFlag
    (g : Graph)
    (o : Key) : Prop :=
  ∃ r ∈ g.reasonsOf o, r.origin = o ∧ r.kind ∈ flagKinds

theorem Graph.carriesFlag_iff
    {g : Graph}
    {o : Key} :
    g.CarriesFlag o ↔ g.flags o ≠ [] := by
  constructor
  · rintro ⟨r, hFlag⟩
    exact List.ne_nil_of_mem (mem_flags.mpr hFlag)
  · intro hSome
    rcases List.exists_mem_of_ne_nil _ hSome with ⟨r, hMem⟩
    exact ⟨r, mem_flags.mp hMem⟩

/- A path that no walk along the edges undercuts. -/
def Graph.IsShortest
    (g : Graph)
    (item k : Key)
    (path : List Key) : Prop :=
  BreadthFirst.Walk g.successors item k path ∧
    ∀ other, BreadthFirst.Walk g.successors item k other →
      path.length ≤ other.length

theorem Graph.mem_dependents
    {g : Graph}
    {item k : Key}
    {path : List Key}
    (hMem : (k, path) ∈ g.dependents item) :
    k ≠ item ∧ g.IsShortest item k path := by
  have hPath : (g.paths item).get? k = some path :=
    Dict.get?_eq_some_iff.mpr hMem
  have hNe := (exists_path_iff.mp ⟨path, hPath⟩).1
  have hPaths := g.dependents_shortest item
  refine ⟨hNe, hPaths.walk k path hMem, ?_⟩
  intro other hWalk
  rcases hPaths.shortest k other hWalk hNe with
    ⟨found, hFound, hLe⟩
  have hGet : (g.paths item).get? k = some found :=
    Dict.get?_eq_some_iff.mpr hFound
  rw [hPath] at hGet
  cases hGet
  exact hLe

/-
  Over every graph and every sequence of calls: the upstream
  reasons are exactly those due, a review removes exactly
  what started at the item, a rebuild changes nothing, and
  the search ends with shortest paths.
-/
theorem staleness_exact
    (g : Graph)
    (hConsistent : g.Consistent)
    (calls : List Call) :
    (∀ k o,
      (((Runs.run step g calls).inherited k o).length = 1 ↔
        k ≠ o ∧ g.Reaches o k ∧ o ∉ g.retired ∧
          (Runs.run step g calls).CarriesFlag o) ∧
      ((Runs.run step g calls).inherited k o).length ≤ 1) ∧
    (∀ item k,
      (((Runs.run step g calls).markReviewed
          item).2.reasonsOf k =
        ((Runs.run step g calls).reasonsOf k).filter
          (fun r => ¬ Graph.StartedAt item k r)) ∧
      (k ∈ ((Runs.run step g calls).markReviewed item).1 ↔
        ∃ r ∈ (Runs.run step g calls).reasonsOf k,
          Graph.StartedAt item k r)) ∧
    (∀ when',
      ((Runs.run step g calls).repropagate when').1 = ∅ ∧
      ∀ k, (((Runs.run step g calls).repropagate
          when').2.reasonsOf k).Perm
        ((Runs.run step g calls).reasonsOf k)) ∧
    (∀ item,
      (∃ turns,
        (BreadthFirst.search g.successors item
          turns).queue = [] ∧
        g.dependents item =
          (BreadthFirst.search g.successors item
            turns).out) ∧
      ((g.dependents item).map Prod.fst).Nodup ∧
      (∀ k, (∃ path, (k, path) ∈ g.dependents item) ↔
        k ≠ item ∧ g.Reaches item k) ∧
      ∀ k path, (k, path) ∈ g.dependents item →
        g.IsShortest item k path) := by
  have hRun :
      (Runs.run step g calls).Consistent ∧
        Graph.SameEdges g (Runs.run step g calls) :=
    Runs.run_invariant
      (fun g' => g'.Consistent ∧ Graph.SameEdges g g')
      (fun g' call hBoth =>
        ⟨consistent_step hBoth.1 call,
          hBoth.2.trans (sameEdges_step hBoth.1 call)⟩)
      ⟨hConsistent, Graph.SameEdges.refl g⟩ calls
  rcases hRun with ⟨hNow, hEdges⟩
  refine ⟨?_, ?_, ?_, ?_⟩
  · intro k o
    have hLength := hNow.length_inherited k o
    refine ⟨?_, hLength.1⟩
    rw [hLength.2, Graph.Due, hEdges.reaches, hEdges.retired,
      Graph.carriesFlag_iff]
  · intro item k
    exact ⟨hNow.markReviewed_reasonsOf item k,
      hNow.mem_markReviewed item k⟩
  · intro when'
    exact ⟨hNow.repropagate_quiet when',
      hNow.rebuilt_perm when'⟩
  · intro item
    refine ⟨⟨_, g.dependents_ends item, rfl⟩,
      (g.paths item).nodup, ?_, ?_⟩
    · intro k
      exact (g.dependents_shortest item).exists_mem_iff
    · intro k path hMem
      exact (Graph.mem_dependents hMem).2

/- Nothing is stale yet. -/
theorem Graph.consistent_of_none
    {g : Graph}
    (hNone : ∀ k, g.reasonsOf k = []) :
    g.Consistent := by
  refine ⟨?_, ?_, ?_⟩
  · intro k r hMem
    rw [hNone] at hMem
    cases hMem
  · intro k o hDue
    have hFlags := hDue.2.2.2
    rw [flags, hNone] at hFlags
    exact absurd rfl hFlags
  · intro k o _
    rw [inherited, hNone]
    rfl

/- A diamond whose end is used where it starts. -/
def diamond : Graph :=
  Graph.new Dict.empty
    (Dict.ofPairs
      [("golden", ["scenario", "range"]),
        ("range", ["course"]),
        ("scenario", ["course"]),
        ("course", ["golden"])])
    (Dict.ofPairs
      [("golden", ("golden template", "Ubuntu 24.04")),
        ("range", ("range template", "Enterprise"))])
    []

/- Two flags, of which one is reviewed again. -/
def reviews : List Call :=
  [.flagStale "golden" "24.04.3 is out" "feed" "release"
      "2026-07-01T00:00:00+00:00",
    .flagStale "course" "CVE in its lab" "admin"
      "vulnerability" "2026-07-02T00:00:00+00:00",
    .setOverdue "range" (some "Review overdue by 1 day")
      "2026-07-03T00:00:00+00:00",
    .markReviewed "golden"]

theorem staleness_exact_diamond :
    (((Runs.run step diamond reviews).inherited "range"
        "course").length = 1 ↔
      "range" ≠ "course" ∧
        diamond.Reaches "course" "range" ∧
        "course" ∉ diamond.retired ∧
        (Runs.run step diamond reviews).CarriesFlag
          "course") ∧
    ((Runs.run step diamond reviews).repropagate
      "2026-07-04T00:00:00+00:00").1 = ∅ := by
  have hNone : ∀ k, diamond.reasonsOf k = [] := by
    intro k
    rfl
  have hExact := staleness_exact diamond
    (Graph.consistent_of_none hNone) reviews
  exact ⟨(hExact.1 "range" "course").1,
    (hExact.2.2.1 "2026-07-04T00:00:00+00:00").1⟩

example :
    (Runs.run step diamond reviews).inherited "range"
        "course" =
      [{ origin := "course"
         kind := "upstream"
         text :=
           "Its item course is stale (through golden template Ubuntu 24.04)"
         source := some "course"
         at' := some "2026-07-02T00:00:00+00:00" }] := by
  decide

end ContentReview

end TrueNorth
