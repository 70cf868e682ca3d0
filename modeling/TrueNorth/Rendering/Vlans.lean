import TrueNorth.Rendering.Topology

/-
  The VLAN ids of a rendered range: when no two of its
  segments carry the same one.

  Key definitions include:
    * `givenIds`
    * `derivedIds`
    * `Apart`, `MgmtApart`

  Main theorem:
    * `renderTopology_apart_iff`
-/

--------
-- Ids Written And Ids Derived
--------

namespace TrueNorth

namespace Rendering

/- The ids that a template writes. -/
def givenIds (segs : List Segment) : List Int :=
  segs.filterMap (fun seg =>
    if seg.id.isExplicit then seg.id.toInt? else none)

/- The base plus the place of each segment without an id. -/
def derivedIds (vlanBase : Int) :
    Nat → List Segment → List Int
| _, [] => []
| offset, seg :: segs =>
    if seg.id.isExplicit then
      derivedIds vlanBase (offset + 1) segs
    else
      (vlanBase + offset) :: derivedIds vlanBase (offset + 1) segs

theorem mem_derivedIds
    {vlanBase : Int}
    {offset : Nat}
    {segs : List Segment}
    {vid : Int} :
    vid ∈ derivedIds vlanBase offset segs ↔
      ∃ (i : Nat) (seg : Segment), segs[i]? = some seg ∧
        seg.id.isExplicit = false ∧
        vid = vlanBase + (offset + i : Nat) := by
  induction segs generalizing offset with
  | nil => simp [derivedIds]
  | cons seg segs ih =>
      have hShift : (∃ (i : Nat) (s : Segment),
          segs[i]? = some s ∧ s.id.isExplicit = false ∧
            vid = vlanBase + (offset + 1 + i : Nat)) ↔
          ∃ (i : Nat) (s : Segment),
            (seg :: segs)[i + 1]? = some s ∧
              s.id.isExplicit = false ∧
              vid = vlanBase + (offset + (i + 1) : Nat) := by
        simp only [List.getElem?_cons_succ, Nat.add_assoc,
          Nat.add_comm 1]
      unfold derivedIds
      by_cases hGiven : seg.id.isExplicit = true
      · rw [if_pos hGiven, ih, hShift]
        constructor
        · rintro ⟨i, s, hi⟩
          exact ⟨i + 1, s, hi⟩
        · rintro ⟨i, s, hAt, hNot, hVid⟩
          cases i with
          | zero =>
              rw [List.getElem?_cons_zero,
                Option.some.injEq] at hAt
              rw [hAt, hNot] at hGiven
              cases hGiven
          | succ i => exact ⟨i, s, hAt, hNot, hVid⟩
      · rw [if_neg hGiven, List.mem_cons, ih, hShift]
        rw [Bool.not_eq_true] at hGiven
        constructor
        · rintro (hVid | ⟨i, s, hi⟩)
          · exact ⟨0, seg, rfl, hGiven, hVid⟩
          · exact ⟨i + 1, s, hi⟩
        · rintro ⟨i, s, hAt, hNot, hVid⟩
          cases i with
          | zero => exact .inl hVid
          | succ i => exact .inr ⟨i, s, hAt, hNot, hVid⟩

/- Different places give different ids. -/
theorem nodup_derivedIds
    (vlanBase : Int)
    (offset : Nat)
    (segs : List Segment) :
    (derivedIds vlanBase offset segs).Nodup := by
  induction segs generalizing offset with
  | nil => exact List.nodup_nil
  | cons seg segs ih =>
      unfold derivedIds
      by_cases hGiven : seg.id.isExplicit = true
      · rw [if_pos hGiven]
        exact ih (offset + 1)
      · rw [if_neg hGiven, List.nodup_cons]
        refine ⟨?_, ih (offset + 1)⟩
        intro hMem
        rcases mem_derivedIds.mp hMem with ⟨i, _, _, _, hVid⟩
        omega

/- What a segment carries, by the rule it falls under. -/
theorem vlanId_eq_some
    {vlanBase : Int}
    {offset : Nat}
    {id : IdValue}
    {vid : Int}
    (hId : vlanId vlanBase offset id = some vid) :
    (id.isExplicit = true ∧ id.toInt? = some vid) ∨
      (id.isExplicit = false ∧ vid = vlanBase + offset) := by
  unfold vlanId at hId
  by_cases hText : id.hasText = true
  · rw [hText] at hId
    by_cases hGiven : id.isExplicit = true
    · rw [if_neg (by decide), if_pos hGiven] at hId
      exact .inl ⟨hGiven, hId⟩
    · rw [if_neg (by decide), if_neg hGiven,
        Option.some.injEq] at hId
      exact .inr ⟨Bool.not_eq_true _ ▸ hGiven, hId.symm⟩
  · rw [Bool.not_eq_true] at hText
    rw [hText, if_pos (by decide)] at hId
    cases hId

--------
-- The Ids Of A Run
--------

theorem renderSegment_vlanId
    {vlanBase : Int}
    {offset : Nat}
    {seg : Segment}
    {definition : NetworkDefinition}
    {info : NetInfo}
    (hRender : renderSegment vlanBase offset seg =
      some (definition, info)) :
    vlanId vlanBase offset seg.id = some definition.vlanId := by
  unfold renderSegment at hRender
  simp only [Option.bind_eq_bind, Option.bind_eq_some_iff,
    Option.some.injEq, Prod.mk.injEq] at hRender
  rcases hRender with ⟨vid, hVid, net, _, gw, _, hDef, _⟩
  rw [hVid, ← hDef]

/- The ids of the segments: those written, those derived. -/
theorem renderSegments_ids
    {vlanBase : Int}
    {offset : Nat}
    {segs : List Segment}
    {plan plan' : Plan}
    (hRun : renderSegments vlanBase offset segs plan =
      some plan') :
    ∃ definitions : List NetworkDefinition,
      plan'.networks = plan.networks ++ definitions ∧
      definitions.length = segs.length ∧
      (definitions.map NetworkDefinition.vlanId).Perm
        (givenIds segs ++ derivedIds vlanBase offset segs) := by
  induction segs generalizing offset plan with
  | nil =>
      cases hRun
      exact ⟨[], (List.append_nil _).symm, rfl, .nil⟩
  | cons seg segs ih =>
      rw [renderSegments, Option.bind_eq_bind,
        Option.bind_eq_some_iff] at hRun
      rcases hRun with ⟨⟨definition, info⟩, hFirst, hRest⟩
      rcases ih hRest with
        ⟨definitions, hNetworks, hLength, hIds⟩
      refine ⟨definition :: definitions, ?_, ?_, ?_⟩
      · rw [hNetworks, Plan.add, List.append_assoc]
        rfl
      · rw [List.length_cons, List.length_cons, hLength]
      · rcases vlanId_eq_some (renderSegment_vlanId hFirst) with
          ⟨hGiven, hVid⟩ | ⟨hNot, hVid⟩
        · rw [List.map_cons, derivedIds, if_pos hGiven, givenIds,
            List.filterMap_cons_some (by
              rw [if_pos hGiven]
              exact hVid)]
          exact hIds.cons _
        · have hFalse : ¬seg.id.isExplicit = true := by
            rw [hNot]
            exact Bool.false_ne_true
          rw [List.map_cons, derivedIds, if_neg hFalse, givenIds,
            List.filterMap_cons_none (by rw [if_neg hFalse]),
            hVid]
          exact (hIds.cons _).trans List.perm_middle.symm

--------
-- Segments Kept Apart
--------

/-
  No id is written twice, and none is the base plus the
  place of a segment that has no id written.
-/
structure Apart
    (vlanBase : Int)
    (segs : List Segment) : Prop where
  given : (givenIds segs).Nodup
  free : ∀ (offset : Nat) (seg : Segment),
    segs[offset]? = some seg → seg.id.isExplicit = false →
      vlanBase + offset ∉ givenIds segs

/- The management network's id is none of the segments' ids. -/
structure MgmtApart
    (vlanBase : Int)
    (segs : List Segment)
    (mgmt : NetworkDefinition) : Prop where
  given : mgmt.vlanId ∉ givenIds segs
  free : ∀ (offset : Nat) (seg : Segment),
    segs[offset]? = some seg → seg.id.isExplicit = false →
      mgmt.vlanId ≠ vlanBase + offset

theorem nodup_ids_iff
    {vlanBase : Int}
    {segs : List Segment} :
    (givenIds segs ++ derivedIds vlanBase 0 segs).Nodup ↔
      Apart vlanBase segs := by
  rw [List.nodup_append]
  constructor
  · rintro ⟨hGiven, _, hFree⟩
    refine ⟨hGiven, ?_⟩
    intro offset seg hAt hNot hMem
    refine hFree _ hMem _ (mem_derivedIds.mpr
      ⟨offset, seg, hAt, hNot, rfl⟩) ?_
    rw [Nat.zero_add]
  · intro hApart
    refine ⟨hApart.given, nodup_derivedIds _ _ _, ?_⟩
    intro vid hGiven vid' hDerived hSame
    rcases mem_derivedIds.mp hDerived with
      ⟨offset, seg, hAt, hNot, hVid⟩
    rw [Nat.zero_add] at hVid
    rw [hSame, hVid] at hGiven
    exact hApart.free offset seg hAt hNot hGiven

theorem not_mem_ids_iff
    {vlanBase : Int}
    {segs : List Segment}
    {mgmt : NetworkDefinition} :
    mgmt.vlanId ∉ givenIds segs ++ derivedIds vlanBase 0 segs ↔
      MgmtApart vlanBase segs mgmt := by
  rw [List.mem_append, not_or]
  constructor
  · rintro ⟨hGiven, hDerived⟩
    refine ⟨hGiven, ?_⟩
    intro offset seg hAt hNot hSame
    refine hDerived (mem_derivedIds.mpr
      ⟨offset, seg, hAt, hNot, ?_⟩)
    rw [hSame, Nat.zero_add]
  · intro hApart
    refine ⟨hApart.given, ?_⟩
    intro hMem
    rcases mem_derivedIds.mp hMem with
      ⟨offset, seg, hAt, hNot, hVid⟩
    rw [Nat.zero_add] at hVid
    exact hApart.free offset seg hAt hNot hVid

/-
  The segments of a template carry different ids exactly if
  it keeps them apart; so do all networks of the range, the
  management network of the noise included, if that one is
  apart from them as well.
-/
theorem renderTopology_apart_iff
    {template : Template}
    {rangeId : String}
    {vlanBase : Int}
    {noiseMgmt : Dict String String}
    {out : Topology}
    (hRender : renderTopology template rangeId vlanBase noiseMgmt =
      some out) :
    (((out.networkDefinitions.take template.vlans.length).map
        NetworkDefinition.vlanId).Nodup ↔
      Apart vlanBase template.vlans) ∧
    ((out.networkDefinitions.map
        NetworkDefinition.vlanId).Nodup ↔
      Apart vlanBase template.vlans ∧
      ∀ mgmt nics,
        noiseMgmtPlan template noiseMgmt = some (some mgmt, nics) →
          MgmtApart vlanBase template.vlans mgmt) := by
  unfold renderTopology at hRender
  simp only [Option.bind_eq_bind, Option.bind_eq_some_iff,
    Option.some.injEq] at hRender
  rcases hRender with
    ⟨plan, hPlan, ⟨vms, nets⟩, _, ⟨noiseNet, nics⟩, hNoise, hOut⟩
  rcases renderSegments_ids hPlan with
    ⟨definitions, hNetworks, hLength, hIds⟩
  rw [show Plan.empty.networks = [] from rfl,
    List.nil_append] at hNetworks
  rw [← hOut, hNetworks]
  refine ⟨?_, ?_⟩
  · rw [← hLength, List.take_left, hIds.nodup_iff, nodup_ids_iff]
  · rw [List.map_append, (hIds.append_right _).nodup_iff,
      hNoise]
    cases noiseNet with
    | none =>
        rw [Option.toList_none, List.map_nil, List.append_nil,
          nodup_ids_iff]
        constructor
        · intro hApart
          refine ⟨hApart, ?_⟩
          intro mgmt nics' hSome
          cases hSome
        · exact fun hBoth => hBoth.1
    | some mgmt =>
        rw [Option.toList_some, List.map_singleton,
          List.nodup_append_comm, List.singleton_append,
          List.nodup_cons, nodup_ids_iff, not_mem_ids_iff]
        constructor
        · rintro ⟨hMgmt, hApart⟩
          refine ⟨hApart, ?_⟩
          intro mgmt' nics' hSome
          cases hSome
          exact hMgmt
        · rintro ⟨hApart, hMgmt⟩
          exact ⟨hMgmt mgmt nics rfl, hApart⟩

/- A segment with an id written, and one without. -/
def twoSegments (id : Int) : Template where
  networkVlans :=
    [⟨some "dmz", .int id, "10.0.1.0/24", "", ""⟩,
      ⟨some "lan", .missing, "10.0.2.0/24", "", ""⟩]
  inputs := []
  nodeList := []
  assets := []
  noise := none

theorem twoSegments_apart :
    Apart 100 (twoSegments 7).vlans := by
  refine ⟨by decide, ?_⟩
  intro offset seg hAt hNot
  match offset, hAt with
  | 0, hAt =>
      cases hAt
      cases hNot
  | 1, _ => decide
  | _ + 2, hAt => cases hAt

theorem renderTopology_apart_seven :
    ∃ out : Topology,
      renderTopology (twoSegments 7) "r" 100 Dict.empty =
        some out ∧
      (out.networkDefinitions.map
        NetworkDefinition.vlanId).Nodup := by
  have hSome : (renderTopology (twoSegments 7) "r" 100
      Dict.empty).isSome = true := by
    decide
  rcases Option.isSome_iff_exists.mp hSome with ⟨out, hOut⟩
  refine ⟨out, hOut, (renderTopology_apart_iff hOut).2.mpr
    ⟨twoSegments_apart, ?_⟩⟩
  intro mgmt nics hMgmt
  cases hMgmt

/- The id 101 is written, and derived for the second segment. -/
theorem renderTopology_clash :
    ¬∀ (template : Template) (rangeId : String) (vlanBase : Int)
      (noiseMgmt : Dict String String) (out : Topology),
      renderTopology template rangeId vlanBase noiseMgmt =
          some out →
        ((out.networkDefinitions.take template.vlans.length).map
          NetworkDefinition.vlanId).Nodup := by
  intro hAll
  have hIds : (renderTopology (twoSegments 101) "r" 100
      Dict.empty).map (fun out =>
        (out.networkDefinitions.take 2).map
          NetworkDefinition.vlanId) = some [101, 101] := by
    decide
  rcases Option.map_eq_some_iff.mp hIds with ⟨out, hOut, hSame⟩
  have hNodup := hAll _ _ _ _ out hOut
  rw [show (twoSegments 101).vlans.length = 2 from rfl, hSame]
    at hNodup
  exact absurd hNodup (by decide)

end Rendering

end TrueNorth
