import TrueNorth.ContentReview.Upstream

/-
  Consistent stale reasons: what a rebuild leaves, and what
  pushing one new flag keeps.

  Key definitions include:
    * `Graph.Due`
    * `Graph.Consistent`

  Main theorems:
    * `consistent_rebuilt`
    * `Consistent.push`
-/

--------
-- Consistent Graphs
--------

namespace TrueNorth

namespace ContentReview

namespace Graph

/- `k` has to inherit a reason from `o`. -/
def Due
    (g : Graph)
    (k o : Key) : Prop :=
  k ≠ o ∧ g.Reaches o k ∧ o ∉ g.retired ∧ g.flags o ≠ []

/-
  What a rebuild leaves: the item's own reasons start at it,
  and of each origin there is the reason of a push where it
  is due, and none elsewhere.
-/
structure Consistent (g : Graph) : Prop where
  owned : g.Owned
  inherits : ∀ k o, g.Due k o →
    ∃ path firstSeen, (k, path) ∈ g.dependents o ∧
      g.inherited k o = [g.pushed o path firstSeen]
  clean : ∀ k o, ¬ g.Due k o → g.inherited k o = []

theorem SameEdges.due
    {g g' : Graph}
    (hSame : SameEdges g g')
    {o : Key}
    (hFlags : g'.flags o ≠ [] ↔ g.flags o ≠ [])
    (k : Key) :
    g'.Due k o ↔ g.Due k o := by
  unfold Due
  rw [hSame.reaches, hSame.retired, hFlags]

/- A change of own reasons that leaves what is due. -/
theorem Consistent.of_same
    {g g' : Graph}
    (hConsistent : g.Consistent)
    (hSame : SameEdges g g')
    (hOwned : g'.Owned)
    (hDue : ∀ k o, g'.Due k o ↔ g.Due k o)
    (hInherited : ∀ k o, g'.inherited k o = g.inherited k o) :
    g'.Consistent := by
  refine ⟨hOwned, ?_, ?_⟩
  · intro k o hNew
    rcases hConsistent.inherits k o ((hDue k o).mp hNew) with
      ⟨path, firstSeen, hMem, hOne⟩
    refine ⟨path, firstSeen, ?_, ?_⟩
    · rw [hSame.dependents]
      exact hMem
    · rw [hInherited, hSame.pushed]
      exact hOne
  · intro k o hNot
    rw [hInherited]
    apply hConsistent.clean
    rw [← hDue]
    exact hNot

/- Exactly one upstream reason where one is due. -/
theorem Consistent.length_inherited
    {g : Graph}
    (hConsistent : g.Consistent)
    (k o : Key) :
    (g.inherited k o).length ≤ 1 ∧
      ((g.inherited k o).length = 1 ↔ g.Due k o) := by
  by_cases hDue : g.Due k o
  · rcases hConsistent.inherits k o hDue with
      ⟨path, firstSeen, _, hOne⟩
    rw [hOne]
    exact ⟨Nat.le_refl 1, fun _ => hDue, fun _ => rfl⟩
  · rw [hConsistent.clean k o hDue]
    refine ⟨Nat.zero_le 1, ?_, ?_⟩
    · intro hOne
      cases hOne
    · intro hNew
      exact absurd hNew hDue

--------
-- The Rebuild
--------

theorem filter_filterMap_coming
    {g : Graph}
    {at' : String}
    {previous : Dict (Key × Key) String}
    {k o : Key}
    {os : List Key}
    (hNodup : os.Nodup) :
    (os.filterMap (g.coming at' previous k)).filter (fun r =>
        r.kind = kindUpstream ∧ r.origin = o) =
      if o ∈ os then (g.coming at' previous k o).toList
      else [] := by
  induction os with
  | nil => rfl
  | cons o' os ih =>
      rw [List.nodup_cons] at hNodup
      have hRest := ih hNodup.2
      cases hHead : g.coming at' previous k o' with
      | none =>
          rw [List.filterMap_cons_none hHead, hRest]
          by_cases hSame : o = o'
          · subst hSame
            rw [if_neg hNodup.1,
              if_pos List.mem_cons_self, hHead]
            rfl
          · simp only [List.mem_cons, hSame, false_or]
      | some r =>
          rw [List.filterMap_cons_some hHead]
          rcases coming_eq_some_iff.mp hHead with
            ⟨path, hPath, hPushed⟩
          have hKind : r.kind = kindUpstream := by
            rw [← hPushed]
            rfl
          have hOrigin : r.origin = o' := by
            rw [← hPushed]
            rfl
          by_cases hSame : o = o'
          · subst hSame
            have hThis :
                decide (r.kind = kindUpstream ∧
                  r.origin = o) = true :=
              decide_eq_true ⟨hKind, hOrigin⟩
            rw [List.filter_cons, if_pos hThis, hRest,
              if_neg hNodup.1, if_pos List.mem_cons_self,
              hHead]
            rfl
          · have hOther :
                ¬ decide (r.kind = kindUpstream ∧
                  r.origin = o) = true := by
              rw [decide_eq_true_eq]
              rintro ⟨_, hBoth⟩
              exact hSame (hBoth.symm.trans hOrigin)
            rw [List.filter_cons, if_neg hOther, hRest]
            simp only [List.mem_cons, hSame, false_or]

theorem rebuilt_flags
    {g : Graph}
    (hOwned : g.Owned)
    (when' : String)
    (o : Key) :
    (g.rebuilt when').flags o = g.flags o := by
  rw [flags, (rebuilt_reasonsOf hOwned when').2,
    List.filter_append, List.filter_filter]
  have hNone :
      (g.stripped.origins.filterMap
          (g.coming when' (g.previous when') o)).filter
        (fun r => r.origin = o ∧ r.kind ∈ flagKinds) = [] := by
    apply List.filter_eq_nil_iff.mpr
    intro r hMem hFlag
    rcases List.mem_filterMap.mp hMem with ⟨o', _, hComing⟩
    rcases coming_eq_some_iff.mp hComing with ⟨path, _, rfl⟩
    exact ne_upstream_of_flag (of_decide_eq_true hFlag).2 rfl
  rw [hNone, List.append_nil, flags]
  apply List.filter_congr
  intro r _
  by_cases hKind : r.kind ∈ flagKinds
  · simp [ne_upstream_of_flag hKind]
  · simp [hKind]

theorem rebuilt_inherited
    {g : Graph}
    (hOwned : g.Owned)
    (when' : String)
    (k o : Key) :
    (g.rebuilt when').inherited k o =
      if o ∈ g.stripped.origins then
        (g.coming when' (g.previous when') k o).toList
      else [] := by
  have hOwn :
      ((g.reasonsOf k).filter (fun r =>
          r.kind ≠ kindUpstream)).filter
        (fun r => r.kind = kindUpstream ∧
          r.origin = o) = [] := by
    rw [List.filter_filter]
    apply List.filter_eq_nil_iff.mpr
    intro r _ hBoth
    rw [Bool.and_eq_true, decide_eq_true_eq,
      decide_eq_true_eq] at hBoth
    exact hBoth.2 hBoth.1.1
  have hOrigins : g.stripped.origins.Nodup :=
    nodup_sortedSet _
  rw [inherited, (rebuilt_reasonsOf hOwned when').2,
    List.filter_append, hOwn, List.nil_append,
    filter_filterMap_coming hOrigins]

/- Whatever the upstream reasons were, a rebuild is consistent. -/
theorem consistent_rebuilt
    {g : Graph}
    (hOwned : g.Owned)
    (when' : String) :
    (g.rebuilt when').Consistent := by
  rcases rebuilt_reasonsOf hOwned when' with
    ⟨hEdges, hReasons⟩
  have hInherited := rebuilt_inherited hOwned when'
  have hDue :
      ∀ k o, (g.rebuilt when').Due k o ↔
        o ∈ g.stripped.origins ∧
          ∃ path, (g.paths o).get? k = some path := by
    intro k o
    rw [Due, rebuilt_flags hOwned, hEdges.reaches,
      hEdges.retired, mem_origins_stripped hOwned,
      exists_path_iff]
    tauto
  refine ⟨?_, ?_, ?_⟩
  · intro k r hMem hKind
    rw [hReasons, List.mem_append] at hMem
    rcases hMem with hOwn | hNew
    · exact hOwned k r (List.mem_filter.mp hOwn).1 hKind
    · rcases List.mem_filterMap.mp hNew with ⟨o, _, hComing⟩
      rcases coming_eq_some_iff.mp hComing with ⟨path, _, rfl⟩
      exact absurd rfl hKind
  · intro k o hNew
    rcases (hDue k o).mp hNew with ⟨hOrigin, path, hPath⟩
    refine ⟨path,
      ((g.previous when').get? (k, o)).getD when', ?_, ?_⟩
    · rw [hEdges.dependents]
      exact Dict.get?_eq_some_iff.mp hPath
    · rw [hInherited, if_pos hOrigin, coming, hPath,
        hEdges.pushed]
      rfl
  · intro k o hNot
    rw [hInherited]
    by_cases hOrigin : o ∈ g.stripped.origins
    · rw [if_pos hOrigin, coming]
      cases hPath : (g.paths o).get? k with
      | none => rfl
      | some path =>
          exact absurd
            ((hDue k o).mpr ⟨hOrigin, path, hPath⟩) hNot
    · rw [if_neg hOrigin]

--------
-- One Change
--------

theorem Owned.put
    {g : Graph}
    (hOwned : g.Owned)
    {item : Key}
    {mine : List Reason}
    (hMine : ∀ r ∈ mine,
      r ∈ g.reasonsOf item ∨ r.origin = item) :
    (g.put item mine).Owned := by
  intro k r hMem hKind
  rw [reasonsOf_put] at hMem
  by_cases hk : k = item
  · rw [if_pos hk] at hMem
    rw [hk]
    rcases hMine r hMem with hOld | hOrigin
    · exact hOwned item r hOld hKind
    · exact hOrigin
  · rw [if_neg hk] at hMem
    exact hOwned k r hMem hKind

theorem put_inherited
    {g : Graph}
    {item : Key}
    {mine : List Reason}
    (hMine : ∀ o,
      mine.filter (fun r =>
        r.kind = kindUpstream ∧ r.origin = o) =
          g.inherited item o)
    (k o : Key) :
    (g.put item mine).inherited k o = g.inherited k o := by
  rw [inherited, reasonsOf_put]
  by_cases hk : k = item
  · rw [if_pos hk, hk]
    exact hMine o
  · rw [if_neg hk]
    rfl

theorem put_flags_of_ne
    (g : Graph)
    {item o : Key}
    (hNe : o ≠ item)
    (mine : List Reason) :
    (g.put item mine).flags o = g.flags o := by
  rw [flags, reasonsOf_put, if_neg hNe]
  rfl

theorem put_flags_self
    (g : Graph)
    (item : Key)
    (mine : List Reason) :
    (g.put item mine).flags item =
      mine.filter (fun r =>
        r.origin = item ∧ r.kind ∈ flagKinds) := by
  rw [flags, reasonsOf_put, if_pos rfl]

/- Own reasons at one item, changed. -/
theorem Consistent.put
    {g : Graph}
    (hConsistent : g.Consistent)
    {item : Key}
    {mine : List Reason}
    (hMine : ∀ r ∈ mine,
      r ∈ g.reasonsOf item ∨ r.origin = item)
    (hInherited : ∀ o,
      mine.filter (fun r =>
        r.kind = kindUpstream ∧ r.origin = o) =
          g.inherited item o)
    (hFlags : (g.put item mine).flags item = g.flags item ∨
      item ∈ g.retired) :
    (g.put item mine).Consistent := by
  have hEdges := g.sameEdges_put item mine
  apply hConsistent.of_same hEdges
  · exact hConsistent.owned.put hMine
  · intro k o
    by_cases ho : o = item
    · subst ho
      rcases hFlags with hSame | hRetired
      · apply hEdges.due
        rw [hSame]
      · constructor
        · intro hDue
          exact absurd hRetired hDue.2.2.1
        · intro hDue
          exact absurd hRetired hDue.2.2.1
    · apply hEdges.due
      rw [g.put_flags_of_ne ho]
  · exact put_inherited hInherited

/- The reason a push adds where there is none yet. -/
def added
    (g g' : Graph)
    (item : Key)
    (at' : String)
    (k : Key) : List Reason :=
  if g.inherited k item = [] then
    (g'.coming at' Dict.empty k item).toList
  else []

theorem mem_added
    {g g' : Graph}
    {at' : String}
    {k item : Key}
    {r : Reason}
    (hMem : r ∈ added g g' item at' k) :
    ∃ path, (g'.paths item).get? k = some path ∧
      r = g'.pushed item path at' := by
  unfold added at hMem
  by_cases hNone : g.inherited k item = []
  · rw [if_pos hNone, Option.mem_toList] at hMem
    rcases coming_eq_some_iff.mp hMem with ⟨path, hPath, rfl⟩
    exact ⟨path, hPath, rfl⟩
  · rw [if_neg hNone] at hMem
    cases hMem

theorem push_reasonsOf_added
    {g g' : Graph}
    (hOwned : g'.Owned)
    (hInherited : ∀ k o, g'.inherited k o = g.inherited k o)
    (item : Key)
    (at' : String)
    (k : Key) :
    (g'.push item at' Dict.empty).2.reasonsOf k =
      g'.reasonsOf k ++ added g g' item at' k := by
  unfold added
  by_cases hNone : g.inherited k item = []
  · rw [if_pos hNone]
    apply push_of_none
    intro hNe r hMem hOrigin
    apply (any_origin_iff hOwned hNe).mp
    · exact List.any_eq_true.mpr
        ⟨r, hMem, decide_eq_true hOrigin⟩
    · rw [hInherited]
      exact hNone
  · rw [if_neg hNone, List.append_nil]
    rw [← hInherited] at hNone
    rcases List.exists_mem_of_ne_nil _ hNone with ⟨r, hMem⟩
    rcases mem_inherited.mp hMem with ⟨hReason, _, hOrigin⟩
    exact push_of_some hReason hOrigin

theorem push_flags
    {g g' : Graph}
    (hOwned : g'.Owned)
    (hInherited : ∀ k o, g'.inherited k o = g.inherited k o)
    (item : Key)
    (at' : String)
    (o : Key) :
    (g'.push item at' Dict.empty).2.flags o = g'.flags o := by
  have hNone :
      (added g g' item at' o).filter (fun r =>
        r.origin = o ∧ r.kind ∈ flagKinds) = [] := by
    apply List.filter_eq_nil_iff.mpr
    intro r hMem hFlag
    rcases mem_added hMem with ⟨path, _, rfl⟩
    exact ne_upstream_of_flag (of_decide_eq_true hFlag).2 rfl
  rw [flags, push_reasonsOf_added hOwned hInherited,
    List.filter_append, hNone, List.append_nil]
  rfl

theorem push_inherited
    {g g' : Graph}
    (hOwned : g'.Owned)
    (hInherited : ∀ k o, g'.inherited k o = g.inherited k o)
    (item : Key)
    (at' : String)
    (k o : Key) :
    (g'.push item at' Dict.empty).2.inherited k o =
      g.inherited k o ++
        if o = item then added g g' item at' k else [] := by
  rw [inherited, push_reasonsOf_added hOwned hInherited,
    List.filter_append, ← hInherited]
  by_cases hItem : o = item
  · have hAll :
        (added g g' item at' k).filter (fun r =>
          r.kind = kindUpstream ∧ r.origin = o) =
          added g g' item at' k := by
      apply List.filter_eq_self.mpr
      intro r hMem
      rcases mem_added hMem with ⟨path, _, rfl⟩
      exact decide_eq_true ⟨rfl, hItem.symm⟩
    rw [hAll, if_pos hItem]
    rfl
  · have hNone :
        (added g g' item at' k).filter (fun r =>
          r.kind = kindUpstream ∧ r.origin = o) = [] := by
      apply List.filter_eq_nil_iff.mpr
      intro r hMem hBoth
      rcases mem_added hMem with ⟨path, _, rfl⟩
      exact hItem (of_decide_eq_true hBoth).2.symm
    rw [hNone, if_neg hItem]
    rfl

/- A new flag, pushed to what is not stale because of it yet. -/
theorem Consistent.push
    {g g' : Graph}
    (hConsistent : g.Consistent)
    (hSame : SameEdges g g')
    {item : Key}
    (hOwned : g'.Owned)
    (hInherited : ∀ k o, g'.inherited k o = g.inherited k o)
    (hFlags : ∀ o, o ≠ item →
      (g'.flags o ≠ [] ↔ g.flags o ≠ []))
    (hFlagged : g'.flags item ≠ [])
    (hActive : item ∉ g.retired)
    (at' : String) :
    (g'.push item at' Dict.empty).2.Consistent := by
  have hPush := push_inherited hOwned hInherited item at'
  have hAll : SameEdges g (g'.push item at' Dict.empty).2 :=
    hSame.trans (sameEdges_push g')
  have hDueOther :
      ∀ k o, o ≠ item →
        ((g'.push item at' Dict.empty).2.Due k o ↔
          g.Due k o) := by
    intro k o hNe
    apply hAll.due
    rw [push_flags hOwned hInherited]
    exact hFlags o hNe
  have hDueItem :
      ∀ k, (g'.push item at' Dict.empty).2.Due k item ↔
        ∃ path, (g.paths item).get? k = some path := by
    intro k
    rw [Due, hAll.reaches, hAll.retired,
      push_flags hOwned hInherited, exists_path_iff]
    tauto
  refine ⟨?_, ?_, ?_⟩
  · intro k r hMem hKind
    rw [push_reasonsOf_added hOwned hInherited,
      List.mem_append] at hMem
    rcases hMem with hOld | hNew
    · exact hOwned k r hOld hKind
    · rcases mem_added hNew with ⟨path, _, rfl⟩
      exact absurd rfl hKind
  · intro k o hDue
    by_cases hItem : o = item
    · subst hItem
      rcases (hDueItem k).mp hDue with ⟨path, hPath⟩
      rw [hPush, if_pos rfl, added]
      by_cases hNone : g.inherited k o = []
      · refine ⟨path, at', ?_, ?_⟩
        · rw [hAll.dependents]
          exact Dict.get?_eq_some_iff.mp hPath
        · rw [if_pos hNone, hNone, coming, hSame.paths, hPath,
            hAll.pushed, ← hSame.pushed]
          rfl
      · have hOld : g.Due k o := by
          by_contra hNot
          exact hNone (hConsistent.clean k o hNot)
        rcases hConsistent.inherits k o hOld with
          ⟨path', firstSeen, hMem, hOne⟩
        refine ⟨path', firstSeen, ?_, ?_⟩
        · rw [hAll.dependents]
          exact hMem
        · rw [if_neg hNone, List.append_nil, hOne,
            hAll.pushed]
    · rcases hConsistent.inherits k o
        ((hDueOther k o hItem).mp hDue) with
        ⟨path, firstSeen, hMem, hOne⟩
      refine ⟨path, firstSeen, ?_, ?_⟩
      · rw [hAll.dependents]
        exact hMem
      · rw [hPush, if_neg hItem, List.append_nil,
          hAll.pushed]
        exact hOne
  · intro k o hNot
    by_cases hItem : o = item
    · subst hItem
      rw [hDueItem k, exists_path_iff] at hNot
      have hClean : g.inherited k o = [] := by
        apply hConsistent.clean
        intro hDue
        exact hNot ⟨hDue.1, hDue.2.1⟩
      have hPath : (g.paths o).get? k = none := by
        apply Option.eq_none_iff_forall_ne_some.mpr
        intro path hPath
        exact hNot (exists_path_iff.mp ⟨path, hPath⟩)
      rw [hPush, if_pos rfl, added, if_pos hClean, hClean,
        coming, hSame.paths, hPath]
      rfl
    · rw [hPush, if_neg hItem, List.append_nil]
      apply hConsistent.clean
      rw [← hDueOther k o hItem]
      exact hNot

end Graph

end ContentReview

end TrueNorth
