import TrueNorth.ContentReview.Staleness

/-
  What one push and one rebuild leave at each item.

  Key definitions include:
    * `Graph.Reaches`
    * `Graph.inherited`
    * `Graph.flags`
    * `Graph.Owned`

  Main theorems:
    * `dependents_ends`
    * `dependents_shortest`
    * `push_reasonsOf`
    * `rebuilt_reasonsOf`
-/

--------
-- Edges
--------

namespace TrueNorth

namespace ContentReview

namespace Graph

/- `k` is reached from `o` along dependency edges. -/
def Reaches
    (g : Graph)
    (o k : Key) : Prop :=
  Relation.ReflTransGen (fun a b => b ∈ g.successors a) o k

theorem mem_vertices
    (g : Graph)
    (v w : Key)
    (hNext : w ∈ g.successors v) :
    w ∈ g.vertices := by
  cases hGet : g.usedBy.get? v with
  | none =>
      rw [successors, hGet] at hNext
      cases hNext
  | some keys =>
      rw [successors, hGet] at hNext
      exact List.mem_flatMap.mpr
        ⟨(v, keys), Dict.get?_eq_some_iff.mp hGet, hNext⟩

/- The search runs out of items, however the edges lie. -/
theorem dependents_ends
    (g : Graph)
    (item : Key) :
    (BreadthFirst.search g.successors item
      (g.vertices.length + 1)).queue = [] :=
  BreadthFirst.search_ends g.mem_vertices item

theorem dependents_shortest
    (g : Graph)
    (item : Key) :
    BreadthFirst.ShortestPaths g.successors item
      (g.dependents item) :=
  BreadthFirst.search_shortestPaths (g.dependents_ends item)

/- `dependents` as a dictionary, each item having one path. -/
def paths
    (g : Graph)
    (o : Key) : Dict Key (List Key) where
  entries := g.dependents o
  nodup :=
    (List.nodup_cons.mp (g.dependents_shortest o).nodup).2

theorem exists_path_iff
    {g : Graph}
    {o k : Key} :
    (∃ path, (g.paths o).get? k = some path) ↔
      k ≠ o ∧ g.Reaches o k := by
  simp only [Dict.get?_eq_some_iff]
  exact (g.dependents_shortest o).exists_mem_iff

/- Only the reasons may differ. -/
structure SameEdges (g g' : Graph) : Prop where
  usedBy : g'.usedBy = g.usedBy
  names : g'.names = g.names
  retired : g'.retired = g.retired

namespace SameEdges

variable {g g' g'' : Graph}

theorem refl (g : Graph) : SameEdges g g :=
  ⟨rfl, rfl, rfl⟩

theorem trans
    (hFirst : SameEdges g g')
    (hSecond : SameEdges g' g'') :
    SameEdges g g'' :=
  ⟨hSecond.usedBy.trans hFirst.usedBy,
    hSecond.names.trans hFirst.names,
    hSecond.retired.trans hFirst.retired⟩

theorem successors
    (hSame : SameEdges g g') :
    g'.successors = g.successors := by
  unfold Graph.successors
  rw [hSame.usedBy]

theorem dependents
    (hSame : SameEdges g g')
    (o : Key) :
    g'.dependents o = g.dependents o := by
  unfold Graph.dependents Graph.vertices
  rw [hSame.successors, hSame.usedBy]

theorem paths
    (hSame : SameEdges g g')
    (o : Key) :
    g'.paths o = g.paths o := by
  unfold Graph.paths
  simp only [hSame.dependents o]

theorem reaches
    (hSame : SameEdges g g')
    (o k : Key) :
    g'.Reaches o k ↔ g.Reaches o k := by
  unfold Graph.Reaches
  rw [hSame.successors]

theorem pushed
    (hSame : SameEdges g g')
    (o : Key)
    (path : List Key)
    (firstSeen : String) :
    g'.pushed o path firstSeen = g.pushed o path firstSeen := by
  unfold Graph.pushed Graph.upstreamText Graph.name
  rw [hSame.names]

end SameEdges

theorem sameEdges_put
    (g : Graph)
    (item : Key)
    (mine : List Reason) :
    SameEdges g (g.put item mine) :=
  ⟨rfl, rfl, rfl⟩

theorem reasonsOf_put
    (g : Graph)
    (item k : Key)
    (mine : List Reason) :
    (g.put item mine).reasonsOf k =
      if k = item then mine else g.reasonsOf k := by
  rw [reasonsOf, put, Dict.get?_set]
  by_cases hk : k = item
  · rw [if_pos hk, if_pos hk]
    rfl
  · rw [if_neg hk, if_neg hk]
    rfl

theorem reasonsOf_mapValues
    (g : Graph)
    {f : List Reason → List Reason}
    (hNil : f [] = [])
    (k : Key) :
    ({ g with reasons := g.reasons.mapValues (fun _ => f) } :
        Graph).reasonsOf k =
      f (g.reasonsOf k) := by
  rw [reasonsOf, Dict.get?_mapValues, reasonsOf]
  cases g.reasons.get? k with
  | none => exact hNil.symm
  | some mine => rfl

/- A reason stands somewhere in `reasons` or nowhere. -/
theorem mem_reasonsOf_iff
    {g : Graph}
    {k : Key}
    {r : Reason} :
    r ∈ g.reasonsOf k ↔
      ∃ mine, (k, mine) ∈ g.reasons.entries ∧ r ∈ mine := by
  simp only [← Dict.get?_eq_some_iff, reasonsOf]
  cases g.reasons.get? k with
  | none => simp
  | some mine => simp

--------
-- One Push
--------

/- What an item has once it is reached from `origin`. -/
def arriving
    (g : Graph)
    (origin : Key)
    (at' : String)
    (previous : Dict (Key × Key) String)
    (k : Key)
    (path : List Key) : List Reason :=
  if (g.reasonsOf k).any (fun r => r.origin = origin) then
    g.reasonsOf k
  else
    g.reasonsOf k ++
      [g.pushed origin path
        ((previous.get? (k, origin)).getD at')]

variable {origin : Key}
variable {at' : String}
variable {previous : Dict (Key × Key) String}

theorem sameEdges_receive
    (s : Finset Key × Graph)
    (reached : Key × List Key) :
    SameEdges s.2 (receive origin at' previous s reached).2 := by
  unfold receive
  by_cases hAny :
      (s.2.reasonsOf reached.1).any
        (fun r => r.origin = origin) = true
  · simp only [hAny, if_true]
    exact sameEdges_put _ _ _
  · simp only [hAny]
    exact sameEdges_put _ _ _

theorem receive_reasonsOf
    (s : Finset Key × Graph)
    (reached : Key × List Key)
    (k : Key) :
    (receive origin at' previous s reached).2.reasonsOf k =
      if k = reached.1 then
        s.2.arriving origin at' previous reached.1 reached.2
      else s.2.reasonsOf k := by
  unfold receive arriving
  by_cases hAny :
      (s.2.reasonsOf reached.1).any
        (fun r => r.origin = origin) = true
  · simp only [hAny, if_true]
    exact reasonsOf_put _ _ _ _
  · simp only [hAny]
    exact reasonsOf_put _ _ _ _

theorem SameEdges.arriving
    {g g' : Graph}
    (hSame : SameEdges g g')
    {k : Key}
    (hReasons : g'.reasonsOf k = g.reasonsOf k)
    (path : List Key) :
    g'.arriving origin at' previous k path =
      g.arriving origin at' previous k path := by
  unfold Graph.arriving
  rw [hReasons, hSame.pushed]

/- Induction over the items reached, each of them once. -/
theorem foldl_receive
    {reached : List (Key × List Key)}
    (hNodup : (reached.map Prod.fst).Nodup)
    (s : Finset Key × Graph) :
    SameEdges s.2
        (reached.foldl (receive origin at' previous) s).2 ∧
      (∀ k path, (k, path) ∈ reached →
        (reached.foldl (receive origin at' previous)
          s).2.reasonsOf k =
          s.2.arriving origin at' previous k path) ∧
      (∀ k, k ∉ reached.map Prod.fst →
        (reached.foldl (receive origin at' previous)
          s).2.reasonsOf k = s.2.reasonsOf k) := by
  induction reached generalizing s with
  | nil =>
      refine ⟨SameEdges.refl _, ?_, ?_⟩
      · intro k path hMem
        cases hMem
      · intro k _
        rfl
  | cons first rest ih =>
      rcases first with ⟨key, path⟩
      rw [List.map_cons, List.nodup_cons] at hNodup
      rcases hNodup with ⟨hFresh, hRest⟩
      have hFirst :=
        @sameEdges_receive origin at' previous s (key, path)
      rcases ih hRest
        (receive origin at' previous s (key, path)) with
        ⟨hEdges, hReached, hOthers⟩
      rw [List.foldl_cons]
      refine ⟨hFirst.trans hEdges, ?_, ?_⟩
      · intro k path' hMem
        rcases List.mem_cons.mp hMem with hHead | hTail
        · cases hHead
          rw [hOthers key hFresh, receive_reasonsOf,
            if_pos rfl]
        · have hNe : k ≠ key := by
            intro hSame
            apply hFresh
            rw [← hSame]
            exact List.mem_map.mpr ⟨_, hTail, rfl⟩
          rw [hReached k path' hTail]
          apply hFirst.arriving
          rw [receive_reasonsOf, if_neg hNe]
      · intro k hNot
        rw [List.map_cons, List.mem_cons, not_or] at hNot
        rw [hOthers k hNot.2, receive_reasonsOf,
          if_neg hNot.1]

theorem sameEdges_push
    (g : Graph) :
    SameEdges g (g.push origin at' previous).2 :=
  (foldl_receive (g.paths origin).nodup (∅, g)).1

/- Each item reached gets one reason, no other item any. -/
theorem push_reasonsOf
    (g : Graph)
    (k : Key) :
    (g.push origin at' previous).2.reasonsOf k =
      match (g.paths origin).get? k with
      | none => g.reasonsOf k
      | some path => g.arriving origin at' previous k path := by
  rcases @foldl_receive origin at' previous _
      (g.paths origin).nodup (∅, g) with
    ⟨_, hReached, hOthers⟩
  cases hGet : (g.paths origin).get? k with
  | none => exact hOthers k (Dict.get?_eq_none_iff.mp hGet)
  | some path =>
      exact hReached k path (Dict.get?_eq_some_iff.mp hGet)

--------
-- Inherited Reasons and Own Flags
--------

/- The upstream reasons of one origin. -/
def inherited
    (g : Graph)
    (k o : Key) : List Reason :=
  (g.reasonsOf k).filter (fun r =>
    r.kind = kindUpstream ∧ r.origin = o)

/- The item's own release and vulnerability flags. -/
def flags
    (g : Graph)
    (o : Key) : List Reason :=
  (g.reasonsOf o).filter (fun r =>
    r.origin = o ∧ r.kind ∈ flagKinds)

/- What an item did not inherit started at the item. -/
def Owned (g : Graph) : Prop :=
  ∀ k, ∀ r ∈ g.reasonsOf k,
    r.kind ≠ kindUpstream → r.origin = k

theorem mem_inherited
    {g : Graph}
    {k o : Key}
    {r : Reason} :
    r ∈ g.inherited k o ↔
      r ∈ g.reasonsOf k ∧ r.kind = kindUpstream ∧
        r.origin = o := by
  simp [inherited]

theorem mem_flags
    {g : Graph}
    {o : Key}
    {r : Reason} :
    r ∈ g.flags o ↔
      r ∈ g.reasonsOf o ∧ r.origin = o ∧
        r.kind ∈ flagKinds := by
  simp [flags]

theorem ne_upstream_of_flag
    {kind : String}
    (hFlag : kind ∈ flagKinds) :
    kind ≠ kindUpstream := by
  rintro rfl
  revert hFlag
  decide

/- Away from its origin, a reason is an inherited one. -/
theorem any_origin_iff
    {g : Graph}
    (hOwned : g.Owned)
    {k o : Key}
    (hNe : k ≠ o) :
    ((g.reasonsOf k).any (fun r => r.origin = o)) = true ↔
      g.inherited k o ≠ [] := by
  rw [List.any_eq_true]
  constructor
  · rintro ⟨r, hMem, hOrigin⟩
    have hOrigin := of_decide_eq_true hOrigin
    apply List.ne_nil_of_mem
    refine mem_inherited.mpr ⟨hMem, ?_, hOrigin⟩
    by_contra hKind
    exact hNe ((hOwned k r hMem hKind).symm.trans hOrigin)
  · intro hSome
    rcases List.exists_mem_of_ne_nil _ hSome with ⟨r, hMem⟩
    rcases mem_inherited.mp hMem with ⟨hReason, _, hOrigin⟩
    exact ⟨r, hReason, decide_eq_true hOrigin⟩

/- The reason that a push brings to `k`, were it to arrive. -/
def coming
    (g : Graph)
    (at' : String)
    (previous : Dict (Key × Key) String)
    (k o : Key) : Option Reason :=
  ((g.paths o).get? k).map (fun path =>
    g.pushed o path ((previous.get? (k, o)).getD at'))

theorem SameEdges.coming
    {g g' : Graph}
    (hSame : SameEdges g g')
    (at' : String)
    (previous : Dict (Key × Key) String)
    (k o : Key) :
    g'.coming at' previous k o = g.coming at' previous k o := by
  unfold Graph.coming
  simp only [hSame.paths, hSame.pushed]

theorem coming_eq_some_iff
    {g : Graph}
    {at' : String}
    {previous : Dict (Key × Key) String}
    {k o : Key}
    {r : Reason} :
    g.coming at' previous k o = some r ↔
      ∃ path, (g.paths o).get? k = some path ∧
        g.pushed o path ((previous.get? (k, o)).getD at') =
          r := by
  rw [coming, Option.map_eq_some_iff]

variable {at' : String}
variable {previous : Dict (Key × Key) String}

theorem push_of_none
    {g : Graph}
    {k o : Key}
    (hNone : k ≠ o → ∀ r ∈ g.reasonsOf k, r.origin ≠ o) :
    (g.push o at' previous).2.reasonsOf k =
      g.reasonsOf k ++ (g.coming at' previous k o).toList := by
  rw [push_reasonsOf, coming]
  cases hGet : (g.paths o).get? k with
  | none => simp
  | some path =>
      have hNe : k ≠ o := (exists_path_iff.mp ⟨path, hGet⟩).1
      have hAny :
          ¬ ((g.reasonsOf k).any
            (fun r => r.origin = o)) = true := by
        rw [List.any_eq_true]
        rintro ⟨r, hMem, hOrigin⟩
        exact hNone hNe r hMem (of_decide_eq_true hOrigin)
      simp only [arriving, if_neg hAny, Option.map_some,
        Option.toList_some]

theorem push_of_some
    {g : Graph}
    {k o : Key}
    {r : Reason}
    (hMem : r ∈ g.reasonsOf k)
    (hOrigin : r.origin = o) :
    (g.push o at' previous).2.reasonsOf k = g.reasonsOf k := by
  have hAny :
      ((g.reasonsOf k).any (fun r => r.origin = o)) = true :=
    List.any_eq_true.mpr ⟨r, hMem, decide_eq_true hOrigin⟩
  rw [push_reasonsOf]
  cases (g.paths o).get? k with
  | none => rfl
  | some path => simp only [arriving, if_pos hAny]

--------
-- The Rebuild
--------

theorem sameEdges_stripped
    (g : Graph) :
    SameEdges g g.stripped :=
  ⟨rfl, rfl, rfl⟩

theorem stripped_reasonsOf
    (g : Graph)
    (k : Key) :
    g.stripped.reasonsOf k =
      (g.reasonsOf k).filter (fun r =>
        r.kind ≠ kindUpstream) :=
  g.reasonsOf_mapValues rfl k

/- A rebuild starts at the items that carry a flag. -/
theorem mem_origins_stripped
    {g : Graph}
    (hOwned : g.Owned)
    {o : Key} :
    o ∈ g.stripped.origins ↔
      g.flags o ≠ [] ∧ o ∉ g.retired := by
  rw [origins, mem_sortedSet]
  constructor
  · intro hMem
    rcases List.mem_flatMap.mp hMem with
      ⟨⟨k, mine⟩, hEntry, hOrigin⟩
    rcases List.mem_map.mp hOrigin with ⟨r, hReason, rfl⟩
    rw [List.mem_filter, decide_eq_true_eq] at hReason
    rcases hReason with ⟨hMine, hKind, hActive⟩
    have hStripped : r ∈ g.stripped.reasonsOf k :=
      mem_reasonsOf_iff.mpr ⟨mine, hEntry, hMine⟩
    rw [stripped_reasonsOf, List.mem_filter] at hStripped
    have hOrigin : r.origin = k :=
      hOwned k r hStripped.1 (ne_upstream_of_flag hKind)
    rw [hOrigin]
    refine ⟨List.ne_nil_of_mem
      (mem_flags.mpr ⟨hStripped.1, hOrigin, hKind⟩), ?_⟩
    rw [← hOrigin]
    exact hActive
  · rintro ⟨hFlags, hActive⟩
    rcases List.exists_mem_of_ne_nil _ hFlags with ⟨r, hMem⟩
    rcases mem_flags.mp hMem with ⟨hReason, hOrigin, hKind⟩
    have hStripped : r ∈ g.stripped.reasonsOf o := by
      rw [stripped_reasonsOf, List.mem_filter]
      exact ⟨hReason,
        decide_eq_true (ne_upstream_of_flag hKind)⟩
    rcases mem_reasonsOf_iff.mp hStripped with
      ⟨mine, hEntry, hMine⟩
    refine List.mem_flatMap.mpr ⟨(o, mine), hEntry, ?_⟩
    refine List.mem_map.mpr ⟨r, ?_, hOrigin⟩
    rw [List.mem_filter, decide_eq_true_eq, hOrigin]
    exact ⟨hMine, hKind, hActive⟩

variable {at' : String}
variable {previous : Dict (Key × Key) String}

/- Pushes from different origins do not hinder each other. -/
theorem foldl_push
    {os : List Key}
    (hNodup : os.Nodup)
    {g : Graph}
    (hNone : ∀ o ∈ os, ∀ k, k ≠ o →
      ∀ r ∈ g.reasonsOf k, r.origin ≠ o) :
    SameEdges g
        (os.foldl (fun g' o => (g'.push o at' previous).2) g) ∧
      ∀ k,
        (os.foldl (fun g' o => (g'.push o at' previous).2)
          g).reasonsOf k =
        g.reasonsOf k ++
          os.filterMap (g.coming at' previous k) := by
  induction os generalizing g with
  | nil =>
      refine ⟨SameEdges.refl g, ?_⟩
      intro k
      simp
  | cons o os ih =>
      rw [List.nodup_cons] at hNodup
      rcases hNodup with ⟨hFresh, hRest⟩
      have hEdges : SameEdges g (g.push o at' previous).2 :=
        sameEdges_push g
      have hPush :
          ∀ k, (g.push o at' previous).2.reasonsOf k =
            g.reasonsOf k ++
              (g.coming at' previous k o).toList :=
        fun k => push_of_none (hNone o List.mem_cons_self k)
      have hNext :
          ∀ o' ∈ os, ∀ k, k ≠ o' →
            ∀ r ∈ (g.push o at' previous).2.reasonsOf k,
              r.origin ≠ o' := by
        intro o' hMem k hNe r hReason
        rw [hPush k, List.mem_append,
          Option.mem_toList] at hReason
        rcases hReason with hOld | hNew
        · exact hNone o' (List.mem_cons_of_mem _ hMem)
            k hNe r hOld
        · rcases coming_eq_some_iff.mp hNew with ⟨_, _, rfl⟩
          rintro rfl
          exact hFresh hMem
      rcases ih hRest hNext with ⟨hRestEdges, hFold⟩
      rw [List.foldl_cons]
      refine ⟨hEdges.trans hRestEdges, ?_⟩
      intro k
      rw [hFold k, hPush k, List.append_assoc]
      have hComing :
          (g.push o at' previous).2.coming at' previous k =
            g.coming at' previous k :=
        funext (hEdges.coming at' previous k)
      rw [hComing]
      cases hHead : g.coming at' previous k o with
      | none => simp [hHead]
      | some r => simp [hHead]

/- A rebuild from the items' own reasons. -/
theorem rebuilt_reasonsOf
    {g : Graph}
    (hOwned : g.Owned)
    (when' : String) :
    SameEdges g (g.rebuilt when') ∧
      ∀ k, (g.rebuilt when').reasonsOf k =
        (g.reasonsOf k).filter (fun r =>
            r.kind ≠ kindUpstream) ++
          g.stripped.origins.filterMap
            (g.coming when' (g.previous when') k) := by
  have hNone :
      ∀ o ∈ g.stripped.origins, ∀ k, k ≠ o →
        ∀ r ∈ g.stripped.reasonsOf k, r.origin ≠ o := by
    intro o _ k hNe r hReason
    rw [stripped_reasonsOf, List.mem_filter,
      decide_eq_true_eq] at hReason
    rw [hOwned k r hReason.1 hReason.2]
    exact hNe
  have hOrigins : g.stripped.origins.Nodup :=
    nodup_sortedSet _
  rcases @foldl_push when' (g.previous when') _ hOrigins _
      hNone with
    ⟨hEdges, hFold⟩
  refine ⟨g.sameEdges_stripped.trans hEdges, ?_⟩
  intro k
  rw [rebuilt, hFold k, stripped_reasonsOf]
  have hComing :
      g.stripped.coming when' (g.previous when') k =
        g.coming when' (g.previous when') k :=
    funext (g.sameEdges_stripped.coming when' _ k)
  rw [hComing]

end Graph

end ContentReview

end TrueNorth
